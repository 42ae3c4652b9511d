import KernelSprint.Lib.Machine
import KernelSprint.Lib.Pipe

/-!
# The pipe ping-pong

Parent and child of `context_switch.c` from the fork on, each step one call or
the end of a process.  A read or write may fail at any time.
-/

set_option autoImplicit false

namespace KernelSprint.ContextSwitch

open Labelled Pipes

inductive Proc where
  | parent
  | child
  deriving DecidableEq

/-- What the parent does next. -/
inductive Parent where
  | closePingRead
  | closePongWrite
  | write (i : Nat)
  | read (i : Nat)
  | wait
  | exited (status : Nat)
  deriving DecidableEq

inductive Child where
  | closePingWrite
  | closePongRead
  | read (i : Nat)
  | write (i : Nat)
  | exit
  | exited (status : Nat)
  deriving DecidableEq

structure State where
  parent : Parent
  child : Child
  ping : Pipe Proc
  pong : Pipe Proc
  deriving DecidableEq

/-- Right after the fork both processes have all four ends open. -/
def State.forked : State :=
  ⟨.closePingRead, .closePingWrite, .shared [.parent, .child], .shared [.parent, .child]⟩

inductive Fate where
  | fine
  | fails
  deriving DecidableEq

def State.parentExits (state : State) (status : Nat) : State :=
  { state with
    parent := .exited status
    ping := state.ping.release .parent
    pong := state.pong.release .parent }

def State.childExits (state : State) (status : Nat) : State :=
  { state with
    child := .exited status
    ping := state.ping.release .child
    pong := state.pong.release .child }

section Program

variable (roundTrips : Nat)

/-- The head of the parent's loop. -/
def parentLoop (i : Nat) : Parent := if i < roundTrips then .write i else .wait

def childLoop (i : Nat) : Child := if i < roundTrips then .read i else .exit

def State.parentStep (state : State) (fate : Fate) : Option State :=
  match state.parent, fate with
  | .closePingRead, .fine =>
      some { state with parent := .closePongWrite, ping := state.ping.closeRead .parent }
  | .closePongWrite, .fine =>
      some { state with
        parent := parentLoop roundTrips 0
        pong := state.pong.closeWrite .parent }
  | .write i, .fine =>
      if state.ping.readers = [] then some (state.parentExits 1)
      else some { state with parent := .read i, ping := state.ping.push 1 }
  | .write _, .fails => some (state.parentExits 1)
  | .read i, .fine =>
      if 0 < state.pong.held then
        some { state with parent := parentLoop roundTrips (i + 1), pong := state.pong.pop 1 }
      else if state.pong.writers = [] then some (state.parentExits 1)
      else none
  | .read _, .fails => some (state.parentExits 1)
  | .wait, .fine =>
      match state.child with
      | .exited _ => some (state.parentExits 0)
      | _ => none
  | _, _ => none

def State.childStep (state : State) (fate : Fate) : Option State :=
  match state.child, fate with
  | .closePingWrite, .fine =>
      some { state with child := .closePongRead, ping := state.ping.closeWrite .child }
  | .closePongRead, .fine =>
      some { state with
        child := childLoop roundTrips 0
        pong := state.pong.closeRead .child }
  | .read i, .fine =>
      if 0 < state.ping.held then
        some { state with child := .write i, ping := state.ping.pop 1 }
      else if state.ping.writers = [] then some (state.childExits 1)
      else none
  | .read _, .fails => some (state.childExits 1)
  | .write i, .fine =>
      if state.pong.readers = [] then some (state.childExits 1)
      else some { state with child := childLoop roundTrips (i + 1), pong := state.pong.push 1 }
  | .write _, .fails => some (state.childExits 1)
  | .exit, .fine => some (state.childExits 0)
  | _, _ => none

def pingPong : Machine State (Proc × Fate) where
  step state
    | (.parent, fate) => state.parentStep roundTrips fate
    | (.child, fate) => state.childStep roundTrips fate

end Program

/-! ## What each process holds and has done -/

/-- The parent's place in its program, against the bytes that it has written
to ping and read from pong. -/
def ParentAt (roundTrips : Nat) (state : State) : Prop :=
  match state.parent with
  | .closePingRead => state.ping.written = 0 ∧ state.pong.taken = 0
  | .closePongWrite => state.ping.written = 0 ∧ state.pong.taken = 0
  | .write i => i < roundTrips ∧ state.ping.written = i ∧ state.pong.taken = i
  | .read i => i < roundTrips ∧ state.ping.written = i + 1 ∧ state.pong.taken = i
  | .wait => state.ping.written = roundTrips ∧ state.pong.taken = roundTrips
  | .exited status =>
      state.pong.taken ≤ state.ping.written ∧ state.ping.written ≤ state.pong.taken + 1 ∧
        state.ping.written ≤ roundTrips ∧ (status = 0 → state.pong.taken = roundTrips)

def ChildAt (roundTrips : Nat) (state : State) : Prop :=
  match state.child with
  | .closePingWrite => state.ping.taken = 0 ∧ state.pong.written = 0
  | .closePongRead => state.ping.taken = 0 ∧ state.pong.written = 0
  | .read i => i < roundTrips ∧ state.ping.taken = i ∧ state.pong.written = i
  | .write i => i < roundTrips ∧ state.ping.taken = i + 1 ∧ state.pong.written = i
  | .exit => state.ping.taken = roundTrips ∧ state.pong.written = roundTrips
  | .exited status =>
      state.pong.written ≤ state.ping.taken ∧ state.ping.taken ≤ state.pong.written + 1 ∧
        state.ping.taken ≤ roundTrips ∧ (status = 0 → state.pong.written = roundTrips)

def Parent.ended : Parent → Bool
  | .exited _ => true
  | _ => false

def Child.ended : Child → Bool
  | .exited _ => true
  | _ => false

@[simp] theorem ended_parentWrite (i : Nat) : (Parent.write i).ended = false := rfl
@[simp] theorem ended_parentRead (i : Nat) : (Parent.read i).ended = false := rfl
@[simp] theorem ended_parentWait : Parent.wait.ended = false := rfl
@[simp] theorem ended_closePingRead : Parent.closePingRead.ended = false := rfl
@[simp] theorem ended_closePongWrite : Parent.closePongWrite.ended = false := rfl
@[simp] theorem ended_parentExited (status : Nat) : (Parent.exited status).ended = true := rfl
@[simp] theorem ended_childWrite (i : Nat) : (Child.write i).ended = false := rfl
@[simp] theorem ended_childRead (i : Nat) : (Child.read i).ended = false := rfl
@[simp] theorem ended_childExit : Child.exit.ended = false := rfl
@[simp] theorem ended_closePingWrite : Child.closePingWrite.ended = false := rfl
@[simp] theorem ended_closePongRead : Child.closePongRead.ended = false := rfl
@[simp] theorem ended_childExited (status : Nat) : (Child.exited status).ended = true := rfl

/-- The ends that the parent has open. -/
structure ParentEnds (state : State) : Prop where
  readsPing : .parent ∈ state.ping.readers ↔ state.parent = .closePingRead
  writesPong : .parent ∈ state.pong.writers ↔
    state.parent = .closePingRead ∨ state.parent = .closePongWrite
  writesPing : .parent ∈ state.ping.writers ↔ state.parent.ended = false
  readsPong : .parent ∈ state.pong.readers ↔ state.parent.ended = false

structure ChildEnds (state : State) : Prop where
  writesPing : .child ∈ state.ping.writers ↔ state.child = .closePingWrite
  readsPong : .child ∈ state.pong.readers ↔
    state.child = .closePingWrite ∨ state.child = .closePongRead
  readsPing : .child ∈ state.ping.readers ↔ state.child.ended = false
  writesPong : .child ∈ state.pong.writers ↔ state.child.ended = false

structure Paced (roundTrips : Nat) (state : State) : Prop where
  parentAt : ParentAt roundTrips state
  childAt : ChildAt roundTrips state
  parentEnds : ParentEnds state
  childEnds : ChildEnds state

theorem paced_forked (roundTrips : Nat) : Paced roundTrips .forked := by
  refine ⟨⟨rfl, rfl⟩, ⟨rfl, rfl⟩, ?_, ?_⟩
  · constructor <;> decide
  · constructor <;> decide

/-! ## What a step can be -/

section Moves

variable (roundTrips : Nat)

/-- A call of the parent breaks its loop. -/
def ParentBreaks (state : State) (fate : Fate) : Prop :=
  (∃ i, state.parent = .write i ∧ (fate = .fails ∨ state.ping.readers = [])) ∨
    ∃ i, state.parent = .read i ∧
      (fate = .fails ∨ state.pong.held = 0 ∧ state.pong.writers = [])

inductive ParentMove (state : State) (fate : Fate) : State → Prop where
  | closesRead (place : state.parent = .closePingRead) : ParentMove state fate
      { state with parent := .closePongWrite, ping := state.ping.closeRead .parent }
  | closesWrite (place : state.parent = .closePongWrite) : ParentMove state fate
      { state with
        parent := parentLoop roundTrips 0
        pong := state.pong.closeWrite .parent }
  | writes (i : Nat) (place : state.parent = .write i) : ParentMove state fate
      { state with parent := .read i, ping := state.ping.push 1 }
  | reads (i : Nat) (place : state.parent = .read i) (holds : 0 < state.pong.held) :
      ParentMove state fate
        { state with parent := parentLoop roundTrips (i + 1), pong := state.pong.pop 1 }
  | breaks (reason : ParentBreaks state fate) : ParentMove state fate (state.parentExits 1)
  | finishes (place : state.parent = .wait) : ParentMove state fate (state.parentExits 0)

theorem parentMove_of_step (state next : State) (fate : Fate)
    (stepped : state.parentStep roundTrips fate = some next) :
    ParentMove roundTrips state fate next := by
  unfold State.parentStep at stepped
  split at stepped
  · next place =>
      cases stepped
      exact .closesRead place
  · next place =>
      cases stepped
      exact .closesWrite place
  · next i place =>
      split at stepped
      · next noReader =>
          cases stepped
          exact .breaks (Or.inl ⟨i, place, Or.inr noReader⟩)
      · cases stepped
        exact .writes i place
  · next i place =>
      cases stepped
      exact .breaks (Or.inl ⟨i, place, Or.inl rfl⟩)
  · next i place =>
      split at stepped
      · next holds =>
          cases stepped
          exact .reads i place holds
      · next empty =>
          split at stepped
          · next noWriter =>
              cases stepped
              exact .breaks (Or.inr ⟨i, place, Or.inr ⟨Nat.eq_zero_of_not_pos empty, noWriter⟩⟩)
          · cases stepped
  · next i place =>
      cases stepped
      exact .breaks (Or.inr ⟨i, place, Or.inl rfl⟩)
  · next place =>
      split at stepped
      · cases stepped
        exact .finishes place
      · cases stepped
  · cases stepped

def ChildBreaks (state : State) (fate : Fate) : Prop :=
  (∃ i, state.child = .write i ∧ (fate = .fails ∨ state.pong.readers = [])) ∨
    ∃ i, state.child = .read i ∧
      (fate = .fails ∨ state.ping.held = 0 ∧ state.ping.writers = [])

inductive ChildMove (state : State) (fate : Fate) : State → Prop where
  | closesWrite (place : state.child = .closePingWrite) : ChildMove state fate
      { state with child := .closePongRead, ping := state.ping.closeWrite .child }
  | closesRead (place : state.child = .closePongRead) : ChildMove state fate
      { state with
        child := childLoop roundTrips 0
        pong := state.pong.closeRead .child }
  | reads (i : Nat) (place : state.child = .read i) (holds : 0 < state.ping.held) :
      ChildMove state fate { state with child := .write i, ping := state.ping.pop 1 }
  | writes (i : Nat) (place : state.child = .write i) : ChildMove state fate
      { state with child := childLoop roundTrips (i + 1), pong := state.pong.push 1 }
  | breaks (reason : ChildBreaks state fate) : ChildMove state fate (state.childExits 1)
  | finishes (place : state.child = .exit) : ChildMove state fate (state.childExits 0)

theorem childMove_of_step (state next : State) (fate : Fate)
    (stepped : state.childStep roundTrips fate = some next) :
    ChildMove roundTrips state fate next := by
  unfold State.childStep at stepped
  split at stepped
  · next place =>
      cases stepped
      exact .closesWrite place
  · next place =>
      cases stepped
      exact .closesRead place
  · next i place =>
      split at stepped
      · next holds =>
          cases stepped
          exact .reads i place holds
      · next empty =>
          split at stepped
          · next noWriter =>
              cases stepped
              exact .breaks (Or.inr ⟨i, place, Or.inr ⟨Nat.eq_zero_of_not_pos empty, noWriter⟩⟩)
          · cases stepped
  · next i place =>
      cases stepped
      exact .breaks (Or.inr ⟨i, place, Or.inl rfl⟩)
  · next i place =>
      split at stepped
      · next noReader =>
          cases stepped
          exact .breaks (Or.inl ⟨i, place, Or.inr noReader⟩)
      · cases stepped
        exact .writes i place
  · next i place =>
      cases stepped
      exact .breaks (Or.inl ⟨i, place, Or.inl rfl⟩)
  · next place =>
      cases stepped
      exact .finishes place
  · cases stepped

end Moves

/-! ## The pace is kept -/

section Pace

variable {roundTrips : Nat} {state next : State} {fate : Fate}

/-- The child's pace is its own. -/
theorem childAt_frame (sameChild : next.child = state.child)
    (sameTaken : next.ping.taken = state.ping.taken)
    (sameWritten : next.pong.written = state.pong.written)
    (childAt : ChildAt roundTrips state) : ChildAt roundTrips next := by
  unfold ChildAt at childAt ⊢
  rwa [sameChild, sameTaken, sameWritten]

theorem parentAt_frame (sameParent : next.parent = state.parent)
    (sameWritten : next.ping.written = state.ping.written)
    (sameTaken : next.pong.taken = state.pong.taken)
    (parentAt : ParentAt roundTrips state) : ParentAt roundTrips next := by
  unfold ParentAt at parentAt ⊢
  rwa [sameParent, sameWritten, sameTaken]

theorem parentAt_loop (i : Nat) (state : State) (bound : i ≤ roundTrips)
    (written : state.ping.written = i) (taken : state.pong.taken = i)
    (place : state.parent = parentLoop roundTrips i) : ParentAt roundTrips state := by
  unfold ParentAt
  rw [place, parentLoop]
  by_cases more : i < roundTrips
  · rw [if_pos more]
    exact ⟨more, written, taken⟩
  · rw [if_neg more]
    have last : i = roundTrips := by omega
    exact ⟨written.trans last, taken.trans last⟩

theorem childAt_loop (i : Nat) (state : State) (bound : i ≤ roundTrips)
    (taken : state.ping.taken = i) (written : state.pong.written = i)
    (place : state.child = childLoop roundTrips i) : ChildAt roundTrips state := by
  unfold ChildAt
  rw [place, childLoop]
  by_cases more : i < roundTrips
  · rw [if_pos more]
    exact ⟨more, taken, written⟩
  · rw [if_neg more]
    have last : i = roundTrips := by omega
    exact ⟨taken.trans last, written.trans last⟩

theorem parentAt_move (move : ParentMove roundTrips state fate next)
    (parentAt : ParentAt roundTrips state) : ParentAt roundTrips next := by
  unfold ParentAt at parentAt
  cases move with
  | closesRead place =>
      rw [place] at parentAt
      exact parentAt
  | closesWrite place =>
      rw [place] at parentAt
      exact parentAt_loop 0 _ (Nat.zero_le _) parentAt.1 parentAt.2 rfl
  | writes i place =>
      rw [place] at parentAt
      obtain ⟨bound, written, taken⟩ := parentAt
      exact ⟨bound, congrArg (· + 1) written, taken⟩
  | reads i place holds =>
      rw [place] at parentAt
      obtain ⟨bound, written, taken⟩ := parentAt
      refine parentAt_loop (i + 1) _ bound written ?_ rfl
      simp only [pop_taken]
      omega
  | breaks reason =>
      rcases reason with ⟨i, place, _⟩ | ⟨i, place, _⟩
      · rw [place] at parentAt
        obtain ⟨bound, written, taken⟩ := parentAt
        simp only [ParentAt, State.parentExits, release_taken, release_written]
        omega
      · rw [place] at parentAt
        obtain ⟨bound, written, taken⟩ := parentAt
        simp only [ParentAt, State.parentExits, release_taken, release_written]
        omega
  | finishes place =>
      rw [place] at parentAt
      obtain ⟨written, taken⟩ := parentAt
      simp only [ParentAt, State.parentExits, release_taken, release_written]
      omega

theorem childAt_move (move : ChildMove roundTrips state fate next)
    (childAt : ChildAt roundTrips state) : ChildAt roundTrips next := by
  unfold ChildAt at childAt
  cases move with
  | closesWrite place =>
      rw [place] at childAt
      exact childAt
  | closesRead place =>
      rw [place] at childAt
      exact childAt_loop 0 _ (Nat.zero_le _) childAt.1 childAt.2 rfl
  | reads i place holds =>
      rw [place] at childAt
      obtain ⟨bound, taken, written⟩ := childAt
      refine ⟨bound, ?_, written⟩
      simp only [pop_taken]
      omega
  | writes i place =>
      rw [place] at childAt
      obtain ⟨bound, taken, written⟩ := childAt
      exact childAt_loop (i + 1) _ bound taken (congrArg (· + 1) written) rfl
  | breaks reason =>
      rcases reason with ⟨i, place, _⟩ | ⟨i, place, _⟩
      · rw [place] at childAt
        obtain ⟨bound, taken, written⟩ := childAt
        simp only [ChildAt, State.childExits, release_taken, release_written]
        omega
      · rw [place] at childAt
        obtain ⟨bound, taken, written⟩ := childAt
        simp only [ChildAt, State.childExits, release_taken, release_written]
        omega
  | finishes place =>
      rw [place] at childAt
      obtain ⟨taken, written⟩ := childAt
      simp only [ChildAt, State.childExits, release_taken, release_written]
      omega

@[simp] theorem parentLoop_ended (roundTrips i : Nat) : (parentLoop roundTrips i).ended = false := by
  unfold parentLoop
  split <;> rfl

@[simp] theorem parentLoop_opening (i : Nat) :
    parentLoop roundTrips i ≠ .closePingRead ∧ parentLoop roundTrips i ≠ .closePongWrite := by
  unfold parentLoop
  split <;> simp

@[simp] theorem childLoop_ended (roundTrips i : Nat) : (childLoop roundTrips i).ended = false := by
  unfold childLoop
  split <;> rfl

@[simp] theorem childLoop_opening (i : Nat) :
    childLoop roundTrips i ≠ .closePingWrite ∧ childLoop roundTrips i ≠ .closePongRead := by
  unfold childLoop
  split <;> simp

/-- The place of a process that breaks its loop. -/
theorem parentBreaks_place (reason : ParentBreaks state fate) :
    (∃ i, state.parent = .write i) ∨ ∃ i, state.parent = .read i := by
  rcases reason with ⟨i, place, _⟩ | ⟨i, place, _⟩
  · exact Or.inl ⟨i, place⟩
  · exact Or.inr ⟨i, place⟩

theorem childBreaks_place (reason : ChildBreaks state fate) :
    (∃ i, state.child = .write i) ∨ ∃ i, state.child = .read i := by
  rcases reason with ⟨i, place, _⟩ | ⟨i, place, _⟩
  · exact Or.inl ⟨i, place⟩
  · exact Or.inr ⟨i, place⟩

theorem parentEnds_move (move : ParentMove roundTrips state fate next)
    (ends : ParentEnds state) : ParentEnds next := by
  obtain ⟨readsPing, writesPong, writesPing, readsPong⟩ := ends
  cases move with
  | closesRead place =>
      simp only [place, reduceCtorEq, or_false, ended_closePingRead, iff_true] at *
      constructor <;> simp [*]
  | closesWrite place =>
      simp only [place, reduceCtorEq, or_true, ended_closePongWrite, iff_true, iff_false] at *
      constructor <;> simp [*]
  | writes i place =>
      simp only [place, reduceCtorEq, or_false, ended_parentWrite, iff_true, iff_false] at *
      constructor <;> simp [*]
  | reads i place holds =>
      simp only [place, reduceCtorEq, or_false, ended_parentRead, iff_true, iff_false] at *
      constructor <;> simp [*]
  | breaks reason => constructor <;> simp [State.parentExits]
  | finishes place => constructor <;> simp [State.parentExits]

/-- What the parent does leaves the child's ends open. -/
theorem childEnds_parentMove (move : ParentMove roundTrips state fate next)
    (ends : ChildEnds state) : ChildEnds next := by
  obtain ⟨writesPing, readsPong, readsPing, writesPong⟩ := ends
  cases move with
  | closesRead place => constructor <;> simp [*]
  | closesWrite place => constructor <;> simp [*]
  | writes i place => constructor <;> simp [*]
  | reads i place holds => constructor <;> simp [*]
  | breaks reason => constructor <;> simp [State.parentExits, *]
  | finishes place => constructor <;> simp [State.parentExits, *]

theorem childEnds_move (move : ChildMove roundTrips state fate next)
    (ends : ChildEnds state) : ChildEnds next := by
  obtain ⟨writesPing, readsPong, readsPing, writesPong⟩ := ends
  cases move with
  | closesWrite place =>
      simp only [place, reduceCtorEq, or_false, ended_closePingWrite, iff_true] at *
      constructor <;> simp [*]
  | closesRead place =>
      simp only [place, reduceCtorEq, or_true, ended_closePongRead, iff_true, iff_false] at *
      constructor <;> simp [*]
  | reads i place holds =>
      simp only [place, reduceCtorEq, or_false, ended_childRead, iff_true, iff_false] at *
      constructor <;> simp [*]
  | writes i place =>
      simp only [place, reduceCtorEq, or_false, ended_childWrite, iff_true, iff_false] at *
      constructor <;> simp [*]
  | breaks reason => constructor <;> simp [State.childExits]
  | finishes place => constructor <;> simp [State.childExits]

theorem parentEnds_childMove (move : ChildMove roundTrips state fate next)
    (ends : ParentEnds state) : ParentEnds next := by
  obtain ⟨readsPing, writesPong, writesPing, readsPong⟩ := ends
  cases move with
  | closesWrite place => constructor <;> simp [*]
  | closesRead place => constructor <;> simp [*]
  | reads i place holds => constructor <;> simp [*]
  | writes i place => constructor <;> simp [*]
  | breaks reason => constructor <;> simp [State.childExits, *]
  | finishes place => constructor <;> simp [State.childExits, *]

theorem paced_step (label : Proc × Fate) (paced : Paced roundTrips state)
    (stepped : (pingPong roundTrips).step state label = some next) : Paced roundTrips next := by
  obtain ⟨parentAt, childAt, parentEnds, childEnds⟩ := paced
  obtain ⟨proc, fate⟩ := label
  cases proc with
  | parent =>
      have move := parentMove_of_step roundTrips state next fate stepped
      refine ⟨parentAt_move move parentAt, ?_, parentEnds_move move parentEnds,
        childEnds_parentMove move childEnds⟩
      cases move <;> exact childAt_frame rfl rfl rfl childAt
  | child =>
      have move := childMove_of_step roundTrips state next fate stepped
      refine ⟨?_, childAt_move move childAt, parentEnds_childMove move parentEnds,
        childEnds_move move childEnds⟩
      cases move <;> exact parentAt_frame rfl rfl rfl parentAt

end Pace

theorem paced_exec (roundTrips : Nat) (schedule : List (Proc × Fate)) (state : State)
    (run : (pingPong roundTrips).exec schedule .forked = some state) : Paced roundTrips state :=
  Machine.invariant_of_exec _ (Paced roundTrips)
    (fun _ label _ paced stepped => paced_step label paced stepped) schedule .forked state
    (paced_forked roundTrips) run

/-! ## No deadlock -/

section Deadlock

variable {roundTrips : Nat} {state : State}

theorem parent_blocked (blocked : state.parentStep roundTrips .fine = none) :
    state.parent.ended = true ∨
      (∃ i, state.parent = .read i ∧ state.pong.held = 0 ∧ state.pong.writers ≠ []) ∨
      state.parent = .wait ∧ state.child.ended = false := by
  unfold State.parentStep at blocked
  cases place : state.parent with
  | closePingRead => simp [place] at blocked
  | closePongWrite => simp [place] at blocked
  | write i =>
      simp only [place] at blocked
      split at blocked <;> cases blocked
  | read i =>
      simp only [place] at blocked
      split at blocked
      · cases blocked
      · next empty =>
          split at blocked
          · cases blocked
          · next writer => exact Or.inr (Or.inl ⟨i, rfl, Nat.eq_zero_of_not_pos empty, writer⟩)
  | wait =>
      simp only [place] at blocked
      split at blocked
      · cases blocked
      · next running =>
          refine Or.inr (Or.inr ⟨rfl, ?_⟩)
          cases child : state.child with
          | exited status => exact absurd child (running status)
          | _ => rfl
  | exited status => exact Or.inl rfl

theorem child_blocked (blocked : state.childStep roundTrips .fine = none) :
    state.child.ended = true ∨
      ∃ i, state.child = .read i ∧ state.ping.held = 0 ∧ state.ping.writers ≠ [] := by
  unfold State.childStep at blocked
  cases place : state.child with
  | closePingWrite => simp [place] at blocked
  | closePongRead => simp [place] at blocked
  | read i =>
      simp only [place] at blocked
      split at blocked
      · cases blocked
      · next empty =>
          split at blocked
          · cases blocked
          · next writer => exact Or.inr ⟨i, rfl, Nat.eq_zero_of_not_pos empty, writer⟩
  | write i =>
      simp only [place] at blocked
      split at blocked <;> cases blocked
  | exit => simp [place] at blocked
  | exited status => exact Or.inl rfl

theorem proc_mem (procs : List Proc) (some : procs ≠ []) : .parent ∈ procs ∨ .child ∈ procs := by
  obtain ⟨proc, member⟩ := List.exists_mem_of_ne_nil procs some
  cases proc with
  | parent => exact Or.inl member
  | child => exact Or.inr member

/-- Nobody can go on, failing calls apart. -/
def Stuck (roundTrips : Nat) (state : State) : Prop :=
  ∀ proc, (pingPong roundTrips).step state (proc, .fine) = none

/-- The child that reads an empty ping waits for a parent that has a byte to
write, so not both wait. -/
theorem ended_of_stuck (paced : Paced roundTrips state) (stuck : Stuck roundTrips state) :
    state.parent.ended = true ∧ state.child.ended = true := by
  obtain ⟨parentAt, childAt, parentEnds, childEnds⟩ := paced
  have ping := state.ping.balance
  have pong := state.pong.balance
  have childEnded : state.child.ended = true := by
    rcases child_blocked (stuck .child) with ended | ⟨j, place, empty, writer⟩
    · exact ended
    · have notMine : .child ∉ state.ping.writers := by
        rw [childEnds.writesPing, place]
        simp
      have parentRuns : state.parent.ended = false :=
        parentEnds.writesPing.mp ((proc_mem _ writer).resolve_right notMine)
      unfold ChildAt at childAt
      rw [place] at childAt
      obtain ⟨bound, taken, written⟩ := childAt
      unfold ParentAt at parentAt
      rcases parent_blocked (stuck .parent) with ended | ⟨i, reading, emptyPong, _⟩ | ⟨waiting, _⟩
      · rw [ended] at parentRuns
        cases parentRuns
      · rw [reading] at parentAt
        omega
      · rw [waiting] at parentAt
        omega
  refine ⟨?_, childEnded⟩
  rcases parent_blocked (stuck .parent) with ended | ⟨i, place, _, writer⟩ | ⟨_, running⟩
  · exact ended
  · have notMine : .parent ∉ state.pong.writers := by
      rw [parentEnds.writesPong, place]
      simp
    have childRuns := childEnds.writesPong.mp ((proc_mem _ writer).resolve_left notMine)
    rw [childEnded] at childRuns
    cases childRuns
  · rw [childEnded] at running
    cases running

end Deadlock

/-! ## Every run ends -/

section Ranks

def Parent.rank (roundTrips : Nat) : Parent → Nat
  | .closePingRead => 2 * roundTrips + 3
  | .closePongWrite => 2 * roundTrips + 2
  | .write i => 2 * (roundTrips - i) + 1
  | .read i => 2 * (roundTrips - i)
  | .wait => 1
  | .exited _ => 0

def Child.rank (roundTrips : Nat) : Child → Nat
  | .closePingWrite => 2 * roundTrips + 3
  | .closePongRead => 2 * roundTrips + 2
  | .read i => 2 * (roundTrips - i) + 1
  | .write i => 2 * (roundTrips - i)
  | .exit => 1
  | .exited _ => 0

def State.rank (roundTrips : Nat) (state : State) : Nat :=
  state.parent.rank roundTrips + state.child.rank roundTrips

variable {roundTrips : Nat} {state next : State} {fate : Fate}

theorem rank_parentLoop (roundTrips i : Nat) :
    (parentLoop roundTrips i).rank roundTrips ≤ 2 * (roundTrips - i) + 1 := by
  unfold parentLoop
  split
  · exact Nat.le_refl _
  · exact Nat.le_add_left 1 _

theorem rank_childLoop (roundTrips i : Nat) :
    (childLoop roundTrips i).rank roundTrips ≤ 2 * (roundTrips - i) + 1 := by
  unfold childLoop
  split
  · exact Nat.le_refl _
  · exact Nat.le_add_left 1 _

theorem rank_parentMove (move : ParentMove roundTrips state fate next)
    (parentAt : ParentAt roundTrips state) :
    next.parent.rank roundTrips < state.parent.rank roundTrips := by
  unfold ParentAt at parentAt
  cases move with
  | closesRead place =>
      rw [place]
      exact Nat.lt_succ_self _
  | closesWrite place =>
      have loop := rank_parentLoop roundTrips 0
      rw [place]
      exact Nat.lt_succ_of_le loop
  | writes i place =>
      rw [place]
      exact Nat.lt_succ_self _
  | reads i place holds =>
      rw [place] at parentAt
      have loop := rank_parentLoop roundTrips (i + 1)
      have bound := parentAt.1
      rw [place]
      change (parentLoop roundTrips (i + 1)).rank roundTrips < 2 * (roundTrips - i)
      omega
  | breaks reason =>
      change 0 < _
      rcases parentBreaks_place reason with ⟨i, place⟩ | ⟨i, place⟩
      · rw [place]
        exact Nat.succ_pos _
      · rw [place] at parentAt ⊢
        have bound := parentAt.1
        change 0 < 2 * (roundTrips - i)
        omega
  | finishes place =>
      rw [place]
      exact Nat.zero_lt_one

theorem rank_childMove (move : ChildMove roundTrips state fate next)
    (childAt : ChildAt roundTrips state) :
    next.child.rank roundTrips < state.child.rank roundTrips := by
  unfold ChildAt at childAt
  cases move with
  | closesWrite place =>
      rw [place]
      exact Nat.lt_succ_self _
  | closesRead place =>
      have loop := rank_childLoop roundTrips 0
      rw [place]
      exact Nat.lt_succ_of_le loop
  | reads i place holds =>
      rw [place]
      exact Nat.lt_succ_self _
  | writes i place =>
      rw [place] at childAt
      have loop := rank_childLoop roundTrips (i + 1)
      have bound := childAt.1
      rw [place]
      change (childLoop roundTrips (i + 1)).rank roundTrips < 2 * (roundTrips - i)
      omega
  | breaks reason =>
      change 0 < _
      rcases childBreaks_place reason with ⟨i, place⟩ | ⟨i, place⟩
      · rw [place] at childAt ⊢
        have bound := childAt.1
        change 0 < 2 * (roundTrips - i)
        omega
      · rw [place]
        exact Nat.succ_pos _
  | finishes place =>
      rw [place]
      exact Nat.zero_lt_one

theorem rank_step (state : State) (label : Proc × Fate) (next : State)
    (paced : Paced roundTrips state)
    (stepped : (pingPong roundTrips).step state label = some next) :
    Paced roundTrips next ∧ next.rank roundTrips < state.rank roundTrips := by
  refine ⟨paced_step label paced stepped, ?_⟩
  obtain ⟨proc, fate⟩ := label
  cases proc with
  | parent =>
      have move := parentMove_of_step roundTrips state next fate stepped
      have lower := rank_parentMove move paced.parentAt
      have same : next.child = state.child := by cases move <;> rfl
      rw [State.rank, State.rank, same]
      exact Nat.add_lt_add_right lower _
  | child =>
      have move := childMove_of_step roundTrips state next fate stepped
      have lower := rank_childMove move paced.childAt
      have same : next.parent = state.parent := by cases move <;> rfl
      rw [State.rank, State.rank, same]
      exact Nat.add_lt_add_left lower _

end Ranks

/-! ## Runs without a failing call -/

/-- No process has given up. -/
structure Clean (state : State) : Prop where
  parent : ∀ status, state.parent = .exited status → status = 0
  child : ∀ status, state.child = .exited status → status = 0

section Clean

variable {roundTrips : Nat} {state next : State}

theorem child_exited (ended : state.child.ended = true) (clean : Clean state) :
    state.child = .exited 0 := by
  cases place : state.child with
  | exited status => rw [clean.child status place]
  | _ =>
      rw [place] at ended
      cases ended

theorem parent_exited (ended : state.parent.ended = true) (clean : Clean state) :
    state.parent = .exited 0 := by
  cases place : state.parent with
  | exited status => rw [clean.parent status place]
  | _ =>
      rw [place] at ended
      cases ended

/-- Only the end of the child closes the ends that it works with. -/
theorem child_gone (childEnds : ChildEnds state) (clean : Clean state)
    (closed : state.ping.readers = [] ∨ state.pong.writers = []) : state.child = .exited 0 := by
  refine child_exited ?_ clean
  by_contra notEnded
  have running : state.child.ended = false := by simpa using notEnded
  rcases closed with noReader | noWriter
  · have reads := childEnds.readsPing.mpr running
    rw [noReader] at reads
    cases reads
  · have writes := childEnds.writesPong.mpr running
    rw [noWriter] at writes
    cases writes

theorem parent_gone (parentEnds : ParentEnds state) (clean : Clean state)
    (closed : state.pong.readers = [] ∨ state.ping.writers = []) : state.parent = .exited 0 := by
  refine parent_exited ?_ clean
  by_contra notEnded
  have running : state.parent.ended = false := by simpa using notEnded
  rcases closed with noReader | noWriter
  · have reads := parentEnds.readsPong.mpr running
    rw [noReader] at reads
    cases reads
  · have writes := parentEnds.writesPing.mpr running
    rw [noWriter] at writes
    cases writes

/-- The child does not leave before the parent has its last byte. -/
theorem parent_unbroken (paced : Paced roundTrips state) (clean : Clean state) :
    ¬ ParentBreaks state .fine := by
  obtain ⟨parentAt, childAt, parentEnds, childEnds⟩ := paced
  have ping := state.ping.balance
  have pong := state.pong.balance
  unfold ParentAt at parentAt
  unfold ChildAt at childAt
  rintro (⟨i, place, reason⟩ | ⟨i, place, reason⟩)
  · have noReader := reason.resolve_left (by simp)
    rw [child_gone childEnds clean (Or.inl noReader)] at childAt
    rw [place] at parentAt
    have all := childAt.2.2.2 rfl
    omega
  · obtain ⟨empty, noWriter⟩ := reason.resolve_left (by simp)
    rw [child_gone childEnds clean (Or.inr noWriter)] at childAt
    rw [place] at parentAt
    have all := childAt.2.2.2 rfl
    omega

theorem child_unbroken (paced : Paced roundTrips state) (clean : Clean state) :
    ¬ ChildBreaks state .fine := by
  obtain ⟨parentAt, childAt, parentEnds, childEnds⟩ := paced
  have ping := state.ping.balance
  have pong := state.pong.balance
  unfold ParentAt at parentAt
  unfold ChildAt at childAt
  rintro (⟨i, place, reason⟩ | ⟨i, place, reason⟩)
  · have noReader := reason.resolve_left (by simp)
    rw [parent_gone parentEnds clean (Or.inl noReader)] at parentAt
    rw [place] at childAt
    have all := parentAt.2.2.2 rfl
    omega
  · obtain ⟨empty, noWriter⟩ := reason.resolve_left (by simp)
    rw [parent_gone parentEnds clean (Or.inr noWriter)] at parentAt
    rw [place] at childAt
    have all := parentAt.2.2.2 rfl
    omega

theorem clean_step (proc : Proc) (paced : Paced roundTrips state) (clean : Clean state)
    (stepped : (pingPong roundTrips).step state (proc, .fine) = some next) : Clean next := by
  have parentGoesOn : ∀ i status, parentLoop roundTrips i = .exited status → status = 0 := by
    intro i status exited
    have running := parentLoop_ended roundTrips i
    rw [exited] at running
    cases running
  have childGoesOn : ∀ i status, childLoop roundTrips i = .exited status → status = 0 := by
    intro i status exited
    have running := childLoop_ended roundTrips i
    rw [exited] at running
    cases running
  cases proc with
  | parent =>
      have move := parentMove_of_step roundTrips state next .fine stepped
      cases move with
      | closesRead place => exact ⟨by simp, clean.child⟩
      | closesWrite place => exact ⟨parentGoesOn 0, clean.child⟩
      | writes i place => exact ⟨by simp, clean.child⟩
      | reads i place holds => exact ⟨parentGoesOn (i + 1), clean.child⟩
      | breaks reason => exact absurd reason (parent_unbroken paced clean)
      | finishes place => exact ⟨by simp [State.parentExits], clean.child⟩
  | child =>
      have move := childMove_of_step roundTrips state next .fine stepped
      cases move with
      | closesWrite place => exact ⟨clean.parent, by simp⟩
      | closesRead place => exact ⟨clean.parent, childGoesOn 0⟩
      | reads i place holds => exact ⟨clean.parent, by simp⟩
      | writes i place => exact ⟨clean.parent, childGoesOn (i + 1)⟩
      | breaks reason => exact absurd reason (child_unbroken paced clean)
      | finishes place => exact ⟨clean.parent, by simp [State.childExits]⟩

theorem clean_exec (schedule : List (Proc × Fate)) (fine : ∀ label ∈ schedule, label.2 = .fine)
    (run : (pingPong roundTrips).exec schedule .forked = some state) : Clean state := by
  have both := Machine.invariant_of_along (pingPong roundTrips)
    (fun state => Paced roundTrips state ∧ Clean state) (fun _ label _ => label.2 = .fine)
    (by
      rintro state ⟨proc, fate⟩ next ⟨paced, clean⟩ rfl stepped
      exact ⟨paced_step _ paced stepped, clean_step proc paced clean stepped⟩)
    schedule .forked state ⟨paced_forked roundTrips, by simp [State.forked], by simp [State.forked]⟩
    (Machine.along_of_labels _ _ schedule State.forked fine) run
  exact both.2

end Clean

/-! ## The benchmark -/

section Benchmark

variable {roundTrips : Nat} {state : State}

theorem parent_pace (parentAt : ParentAt roundTrips state) :
    state.pong.taken ≤ state.ping.written ∧ state.ping.written ≤ state.pong.taken + 1 := by
  unfold ParentAt at parentAt
  split at parentAt <;> omega

theorem child_pace (childAt : ChildAt roundTrips state) :
    state.pong.written ≤ state.ping.taken ∧ state.ping.taken ≤ state.pong.written + 1 := by
  unfold ChildAt at childAt
  split at childAt <;> omega

def State.ended (state : State) : Proc → Bool
  | .parent => state.parent.ended
  | .child => state.child.ended

/-- However the run goes on, the process stays where it is. -/
def BlockedForever (roundTrips : Nat) (state : State) (proc : Proc) : Prop :=
  ∀ schedule later, (pingPong roundTrips).exec schedule state = some later →
    later.ended proc = false ∧ (pingPong roundTrips).step later (proc, .fine) = none

theorem not_blocked_forever (paced : Paced roundTrips state) (proc : Proc) :
    ¬ BlockedForever roundTrips state proc := by
  intro blocked
  obtain ⟨schedule, final, _, run, stuck⟩ := Machine.reaches_stuck (pingPong roundTrips)
    (Paced roundTrips) (State.rank roundTrips) (fun label => label.2 = .fine)
    (fun state label next => rank_step state label next) state paced
  have pacedFinal : Paced roundTrips final := Machine.invariant_of_exec _ (Paced roundTrips)
    (fun _ label _ paced stepped => paced_step label paced stepped) schedule state final paced run
  have ended := ended_of_stuck pacedFinal fun proc => stuck (proc, .fine) rfl
  have running := (blocked schedule final run).1
  cases proc with
  | parent => simp [State.ended, ended.1] at running
  | child => simp [State.ended, ended.2] at running

/-- Without failing calls the two processes alternate over at most one byte and
end after exactly the round trips; whatever fails, every run is bounded and
ends with both processes gone. -/
theorem ping_pong (roundTrips : Nat) :
    (∀ schedule state, (∀ label ∈ schedule, label.2 = .fine) →
      (pingPong roundTrips).exec schedule .forked = some state →
        state.ping.held + state.pong.held ≤ 1 ∧
        state.pong.taken ≤ state.pong.written ∧ state.pong.written ≤ state.ping.taken ∧
        (Stuck roundTrips state →
          state.parent = .exited 0 ∧ state.child = .exited 0 ∧
          state.ping.written = roundTrips ∧ state.ping.taken = roundTrips ∧
          state.pong.written = roundTrips ∧ state.pong.taken = roundTrips)) ∧
    ∀ schedule state, (pingPong roundTrips).exec schedule .forked = some state →
      schedule.length ≤ 4 * roundTrips + 6 ∧
      (Stuck roundTrips state → ∀ proc, state.ended proc = true) ∧
      ∀ proc, ¬ BlockedForever roundTrips state proc := by
  constructor
  · intro schedule state fine run
    have paced := paced_exec roundTrips schedule state run
    have clean := clean_exec schedule fine run
    have parentPace := parent_pace paced.parentAt
    have childPace := child_pace paced.childAt
    have ping := state.ping.balance
    have pong := state.pong.balance
    refine ⟨by omega, by omega, childPace.1, ?_⟩
    intro stuck
    obtain ⟨parentEnded, childEnded⟩ := ended_of_stuck paced stuck
    have parentExited := parent_exited parentEnded clean
    have childExited := child_exited childEnded clean
    have parentAt := paced.parentAt
    have childAt := paced.childAt
    unfold ParentAt at parentAt
    unfold ChildAt at childAt
    rw [parentExited] at parentAt
    rw [childExited] at childAt
    have received := parentAt.2.2.2 rfl
    have sent := childAt.2.2.2 rfl
    refine ⟨parentExited, childExited, ?_, ?_, sent, received⟩
    · omega
    · omega
  · intro schedule state run
    have paced := paced_exec roundTrips schedule state run
    have bounded := Machine.length_of_measure (pingPong roundTrips) (Paced roundTrips)
      (State.rank roundTrips) (fun state label next => rank_step state label next) schedule
      .forked state (paced_forked roundTrips) run
    have start : State.forked.rank roundTrips = 4 * roundTrips + 6 := by
      simp only [State.rank, State.forked, Parent.rank, Child.rank]
      omega
    refine ⟨by omega, ?_, not_blocked_forever paced⟩
    intro stuck proc
    have ended := ended_of_stuck paced stuck
    cases proc with
    | parent => exact ended.1
    | child => exact ended.2

end Benchmark

end KernelSprint.ContextSwitch

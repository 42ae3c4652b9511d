import KernelSprint.Lib.Machine
import KernelSprint.Lib.Pipe

/-!
# The pipe throughput

Writer and reader of `ipc_throughput.c` from the fork on.  A `write` moves its
chunk into the pipe in any pieces that fit and may return before the end of
it; a `read` takes any number of bytes that it may.
-/

set_option autoImplicit false

namespace KernelSprint.IpcThroughput

open Labelled Pipes

structure Setup where
  chunkBytes : Nat
  totalMb : Nat
  /-- What the pipe can hold. -/
  capacity : Nat
  chunkPositive : 0 < chunkBytes
  capacityPositive : 0 < capacity

namespace Setup

variable (setup : Setup)

def totalBytes : Nat := setup.totalMb * 1024 * 1024

def chunks : Nat := setup.totalBytes / setup.chunkBytes

/-- The bytes behind `actual_mb`. -/
def actualBytes : Nat := setup.chunks * setup.chunkBytes

end Setup

inductive Proc where
  | writer
  | reader
  deriving DecidableEq

/-- What the writer does next; `sent` bytes of the chunk are in the pipe. -/
inductive Writer where
  | closeRead
  | write (i sent : Nat)
  | closeWrite
  | wait
  | reported (bytes : Nat)
  deriving DecidableEq

inductive Reader where
  | closeWrite
  | read (received : Nat)
  | exit (received : Nat)
  | exited (received : Nat)
  deriving DecidableEq

structure State where
  writer : Writer
  reader : Reader
  pipe : Pipe Proc
  deriving DecidableEq

def State.forked : State := ⟨.closeRead, .closeWrite, .shared [.writer, .reader]⟩

inductive Label where
  /-- A piece of the chunk goes into the pipe. -/
  | moveIn (count : Nat)
  /-- The `write` returns short, or fails. -/
  | fallShort
  /-- Any other step of the writer. -/
  | write
  | moveOut (count : Nat)
  | read
  deriving DecidableEq

section Program

variable (setup : Setup)

/-- The head of the writer's loop. -/
def writerLoop (i : Nat) : Writer := if i < setup.chunks then .write i 0 else .closeWrite

def readerLoop (received : Nat) : Reader :=
  if received < setup.totalBytes then .read received else .exit received

def State.writerStep (state : State) : Option State :=
  match state.writer with
  | .closeRead => some { state with
      writer := writerLoop setup 0
      pipe := state.pipe.closeRead .writer }
  | .write _ _ =>
      if state.pipe.readers = [] then some { state with writer := .closeWrite } else none
  | .closeWrite => some { state with writer := .wait, pipe := state.pipe.closeWrite .writer }
  | .wait =>
      match state.reader with
      | .exited _ => some { state with writer := .reported setup.actualBytes }
      | _ => none
  | .reported _ => none

def State.moveIn (state : State) (count : Nat) : Option State :=
  match state.writer with
  | .write i sent =>
      if 0 < count ∧ sent + count ≤ setup.chunkBytes ∧
          state.pipe.held + count ≤ setup.capacity ∧ state.pipe.readers ≠ [] then
        some { state with
          writer :=
            if sent + count = setup.chunkBytes then writerLoop setup (i + 1)
            else .write i (sent + count)
          pipe := state.pipe.push count }
      else none
  | _ => none

def State.fallShort (state : State) : Option State :=
  match state.writer with
  | .write _ _ => some { state with writer := .closeWrite }
  | _ => none

def State.readerStep (state : State) : Option State :=
  match state.reader with
  | .closeWrite => some { state with
      reader := readerLoop setup 0
      pipe := state.pipe.closeWrite .reader }
  | .read received =>
      if state.pipe.held = 0 ∧ state.pipe.writers = [] then
        some { state with reader := .exit received }
      else none
  | .exit received => some { state with
      reader := .exited received
      pipe := state.pipe.release .reader }
  | .exited _ => none

def State.moveOut (state : State) (count : Nat) : Option State :=
  match state.reader with
  | .read received =>
      if 0 < count ∧ count ≤ setup.chunkBytes ∧ count ≤ state.pipe.held then
        some { state with
          reader := readerLoop setup (received + count)
          pipe := state.pipe.pop count }
      else none
  | _ => none

def transfer : Machine State Label where
  step state
    | .moveIn count => state.moveIn setup count
    | .fallShort => state.fallShort
    | .write => state.writerStep setup
    | .moveOut count => state.moveOut setup count
    | .read => state.readerStep setup

end Program

/-! ## What each process has done -/

section Places

variable (setup : Setup)

/-- The writer's place against the bytes that it has written. -/
def WriterAt (state : State) : Prop :=
  match state.writer with
  | .closeRead => state.pipe.written = 0
  | .write i sent => i < setup.chunks ∧ sent < setup.chunkBytes ∧
      state.pipe.written = i * setup.chunkBytes + sent
  | .reported bytes => state.pipe.written ≤ setup.actualBytes ∧ bytes = setup.actualBytes
  | _ => state.pipe.written ≤ setup.actualBytes

/-- The reader stops at the total, or at the end of what the writer wrote. -/
def ReaderAt (state : State) : Prop :=
  match state.reader with
  | .closeWrite => state.pipe.taken = 0
  | .read received => state.pipe.taken = received ∧ received < setup.totalBytes
  | .exit received => state.pipe.taken = received ∧
      (setup.totalBytes ≤ received ∨ state.pipe.held = 0 ∧ state.pipe.writers = [])
  | .exited received => state.pipe.taken = received ∧
      (setup.totalBytes ≤ received ∨ state.pipe.held = 0 ∧ state.pipe.writers = [])

def Writer.writing : Writer → Bool
  | .wait => false
  | .reported _ => false
  | _ => true

def Reader.reading : Reader → Bool
  | .exited _ => false
  | _ => true

@[simp] theorem writing_closeRead : Writer.closeRead.writing = true := rfl
@[simp] theorem writing_write (i sent : Nat) : (Writer.write i sent).writing = true := rfl
@[simp] theorem writing_closeWrite : Writer.closeWrite.writing = true := rfl
@[simp] theorem writing_wait : Writer.wait.writing = false := rfl
@[simp] theorem writing_reported (bytes : Nat) : (Writer.reported bytes).writing = false := rfl
@[simp] theorem reading_closeWrite : Reader.closeWrite.reading = true := rfl
@[simp] theorem reading_read (received : Nat) : (Reader.read received).reading = true := rfl
@[simp] theorem reading_exit (received : Nat) : (Reader.exit received).reading = true := rfl
@[simp] theorem reading_exited (received : Nat) : (Reader.exited received).reading = false := rfl

structure Ends (state : State) : Prop where
  writerReads : .writer ∈ state.pipe.readers ↔ state.writer = .closeRead
  writerWrites : .writer ∈ state.pipe.writers ↔ state.writer.writing = true
  readerWrites : .reader ∈ state.pipe.writers ↔ state.reader = .closeWrite
  readerReads : .reader ∈ state.pipe.readers ↔ state.reader.reading = true

structure Ordered (state : State) : Prop where
  writerAt : WriterAt setup state
  readerAt : ReaderAt setup state
  ends : Ends state

theorem ordered_forked : Ordered setup .forked := by
  refine ⟨rfl, rfl, ?_⟩
  constructor <;> decide

end Places

/-! ## What a step can be -/

section Moves

variable (setup : Setup)

inductive Move (state : State) : Label → State → Prop where
  | closesRead (place : state.writer = .closeRead) : Move state .write
      { state with writer := writerLoop setup 0, pipe := state.pipe.closeRead .writer }
  | noReader (i sent : Nat) (place : state.writer = .write i sent)
      (gone : state.pipe.readers = []) : Move state .write { state with writer := .closeWrite }
  | closesWrite (place : state.writer = .closeWrite) : Move state .write
      { state with writer := .wait, pipe := state.pipe.closeWrite .writer }
  | reports (received : Nat) (place : state.writer = .wait)
      (reaped : state.reader = .exited received) : Move state .write
        { state with writer := .reported setup.actualBytes }
  | movesIn (count i sent : Nat) (place : state.writer = .write i sent) (positive : 0 < count)
      (fits : sent + count ≤ setup.chunkBytes) : Move state (.moveIn count)
        { state with
          writer :=
            if sent + count = setup.chunkBytes then writerLoop setup (i + 1)
            else .write i (sent + count)
          pipe := state.pipe.push count }
  | fallsShort (i sent : Nat) (place : state.writer = .write i sent) : Move state .fallShort
      { state with writer := .closeWrite }
  | readerCloses (place : state.reader = .closeWrite) : Move state .read
      { state with reader := readerLoop setup 0, pipe := state.pipe.closeWrite .reader }
  | ends (received : Nat) (place : state.reader = .read received) (empty : state.pipe.held = 0)
      (noWriter : state.pipe.writers = []) : Move state .read
        { state with reader := .exit received }
  | exits (received : Nat) (place : state.reader = .exit received) : Move state .read
      { state with reader := .exited received, pipe := state.pipe.release .reader }
  | movesOut (count received : Nat) (place : state.reader = .read received)
      (positive : 0 < count) (there : count ≤ state.pipe.held) : Move state (.moveOut count)
        { state with
          reader := readerLoop setup (received + count)
          pipe := state.pipe.pop count }

theorem move_of_write (state next : State) (stepped : state.writerStep setup = some next) :
    Move setup state .write next := by
  unfold State.writerStep at stepped
  split at stepped
  · next place =>
      cases stepped
      exact .closesRead place
  · next i sent place =>
      split at stepped
      · next gone =>
          cases stepped
          exact .noReader i sent place gone
      · cases stepped
  · next place =>
      cases stepped
      exact .closesWrite place
  · next place =>
      split at stepped
      · next received reaped =>
          cases stepped
          exact .reports received place reaped
      · cases stepped
  · cases stepped

theorem move_of_read (state next : State) (stepped : state.readerStep setup = some next) :
    Move setup state .read next := by
  unfold State.readerStep at stepped
  split at stepped
  · next place =>
      cases stepped
      exact .readerCloses place
  · next received place =>
      split at stepped
      · next drained =>
          cases stepped
          exact .ends received place drained.1 drained.2
      · cases stepped
  · next received place =>
      cases stepped
      exact .exits received place
  · cases stepped

theorem move_of_step (state next : State) (label : Label)
    (stepped : (transfer setup).step state label = some next) : Move setup state label next := by
  cases label with
  | write => exact move_of_write setup state next stepped
  | read => exact move_of_read setup state next stepped
  | fallShort =>
      change state.fallShort = some next at stepped
      unfold State.fallShort at stepped
      split at stepped
      · next i sent place =>
          cases stepped
          exact .fallsShort i sent place
      · cases stepped
  | moveIn count =>
      change state.moveIn setup count = some next at stepped
      unfold State.moveIn at stepped
      split at stepped
      · next i sent place =>
          split at stepped
          · next fits =>
              cases stepped
              exact .movesIn count i sent place fits.1 fits.2.1
          · cases stepped
      · cases stepped
  | moveOut count =>
      change state.moveOut setup count = some next at stepped
      unfold State.moveOut at stepped
      split at stepped
      · next received place =>
          split at stepped
          · next fits =>
              cases stepped
              exact .movesOut count received place fits.1 fits.2.2
          · cases stepped
      · cases stepped

end Moves

/-! ## The order is kept -/

section Order

variable {setup : Setup} {state next : State} {label : Label}

theorem writerAt_loop (i : Nat) (state : State) (bound : i ≤ setup.chunks)
    (written : state.pipe.written = i * setup.chunkBytes)
    (place : state.writer = writerLoop setup i) : WriterAt setup state := by
  unfold WriterAt
  rw [place, writerLoop]
  by_cases more : i < setup.chunks
  · rw [if_pos more]
    exact ⟨more, setup.chunkPositive, written⟩
  · rw [if_neg more]
    have last : i = setup.chunks := by omega
    rw [last] at written
    exact Nat.le_of_eq written

theorem readerAt_loop (received : Nat) (state : State) (taken : state.pipe.taken = received)
    (place : state.reader = readerLoop setup received) : ReaderAt setup state := by
  unfold ReaderAt
  rw [place, readerLoop]
  by_cases more : received < setup.totalBytes
  · rw [if_pos more]
    exact ⟨taken, more⟩
  · rw [if_neg more]
    exact ⟨taken, Or.inl (Nat.le_of_not_lt more)⟩

/-- Within the loop less has been written than is planned. -/
theorem written_lt (i sent : Nat) (bound : i < setup.chunks) (part : sent < setup.chunkBytes) :
    i * setup.chunkBytes + sent < setup.actualBytes := by
  have chunk : (i + 1) * setup.chunkBytes ≤ setup.actualBytes :=
    Nat.mul_le_mul_right setup.chunkBytes bound
  rw [Nat.add_mul, Nat.one_mul] at chunk
  omega

theorem writerAt_frame (sameWriter : next.writer = state.writer)
    (sameWritten : next.pipe.written = state.pipe.written)
    (writerAt : WriterAt setup state) : WriterAt setup next := by
  unfold WriterAt at writerAt ⊢
  rwa [sameWriter, sameWritten]

theorem writerAt_move (move : Move setup state label next) (writerAt : WriterAt setup state) :
    WriterAt setup next := by
  have place := writerAt
  unfold WriterAt at place
  cases move with
  | closesRead here =>
      rw [here] at place
      exact writerAt_loop 0 _ (Nat.zero_le _) (place.trans (Nat.zero_mul _).symm) rfl
  | noReader i sent here gone =>
      rw [here] at place
      have less := written_lt i sent place.1 place.2.1
      exact Nat.le_of_lt (place.2.2 ▸ less)
  | closesWrite here =>
      rw [here] at place
      exact place
  | reports received here reaped =>
      rw [here] at place
      exact ⟨place, rfl⟩
  | movesIn count i sent here positive fits =>
      rw [here] at place
      obtain ⟨bound, part, written⟩ := place
      by_cases full : sent + count = setup.chunkBytes
      · refine writerAt_loop (i + 1) _ bound ?_ (if_pos full)
        rw [push_written, written, Nat.add_mul, Nat.one_mul]
        omega
      · unfold WriterAt
        simp only [if_neg full, push_written]
        exact ⟨bound, by omega, by omega⟩
  | fallsShort i sent here =>
      rw [here] at place
      have less := written_lt i sent place.1 place.2.1
      exact Nat.le_of_lt (place.2.2 ▸ less)
  | readerCloses here => exact writerAt_frame rfl rfl writerAt
  | ends received here empty noWriter => exact writerAt_frame rfl rfl writerAt
  | exits received here => exact writerAt_frame rfl rfl writerAt
  | movesOut count received here positive there => exact writerAt_frame rfl rfl writerAt

theorem readerAt_frame (state : State) (sameReader : next.reader = state.reader)
    (sameTaken : next.pipe.taken = state.pipe.taken)
    (drained : state.pipe.held = 0 ∧ state.pipe.writers = [] →
      next.pipe.held = 0 ∧ next.pipe.writers = [])
    (readerAt : ReaderAt setup state) : ReaderAt setup next := by
  unfold ReaderAt at readerAt ⊢
  rw [sameReader]
  cases place : state.reader with
  | closeWrite =>
      rw [place] at readerAt
      exact sameTaken.trans readerAt
  | read received =>
      rw [place] at readerAt
      exact ⟨sameTaken.trans readerAt.1, readerAt.2⟩
  | exit received =>
      rw [place] at readerAt
      exact ⟨sameTaken.trans readerAt.1, readerAt.2.imp_right drained⟩
  | exited received =>
      rw [place] at readerAt
      exact ⟨sameTaken.trans readerAt.1, readerAt.2.imp_right drained⟩

theorem readerAt_move (move : Move setup state label next) (ends : Ends state)
    (readerAt : ReaderAt setup state) : ReaderAt setup next := by
  have place := readerAt
  unfold ReaderAt at place
  cases move with
  | closesRead here => exact readerAt_frame state rfl rfl id readerAt
  | noReader i sent here gone => exact readerAt_frame state rfl rfl id readerAt
  | closesWrite here =>
      refine readerAt_frame state rfl rfl ?_ readerAt
      rintro ⟨empty, noWriter⟩
      exact ⟨empty, by simp [Pipe.closeWrite, noWriter]⟩
  | reports received here reaped => exact readerAt_frame state rfl rfl id readerAt
  | movesIn count i sent here positive fits =>
      refine readerAt_frame state rfl rfl ?_ readerAt
      rintro ⟨_, noWriter⟩
      have writes := ends.writerWrites.mpr (by rw [here]; rfl)
      rw [noWriter] at writes
      cases writes
  | fallsShort i sent here => exact readerAt_frame state rfl rfl id readerAt
  | readerCloses here =>
      rw [here] at place
      exact readerAt_loop 0 _ place rfl
  | ends received here empty noWriter =>
      rw [here] at place
      exact ⟨place.1, Or.inr ⟨empty, noWriter⟩⟩
  | exits received here =>
      rw [here] at place
      refine ⟨place.1, place.2.imp_right ?_⟩
      rintro ⟨empty, noWriter⟩
      exact ⟨empty, by simp [Pipe.release, Pipe.closeWrite, noWriter]⟩
  | movesOut count received here positive there =>
      rw [here] at place
      refine readerAt_loop (received + count) _ ?_ rfl
      rw [pop_taken, Nat.min_eq_left there, place.1]

@[simp] theorem writing_loop (setup : Setup) (i : Nat) : (writerLoop setup i).writing = true := by
  unfold writerLoop
  split <;> rfl

@[simp] theorem reading_loop (setup : Setup) (received : Nat) :
    (readerLoop setup received).reading = true := by
  unfold readerLoop
  split <;> rfl

@[simp] theorem writerLoop_started (setup : Setup) (i : Nat) :
    writerLoop setup i ≠ .closeRead := by
  unfold writerLoop
  split <;> simp

@[simp] theorem readerLoop_started (setup : Setup) (received : Nat) :
    readerLoop setup received ≠ .closeWrite := by
  unfold readerLoop
  split <;> simp

theorem ends_move (move : Move setup state label next) (ends : Ends state) : Ends next := by
  obtain ⟨writerReads, writerWrites, readerWrites, readerReads⟩ := ends
  cases move with
  | closesRead here =>
      rw [here] at writerReads writerWrites
      constructor <;> simp [*]
  | noReader i sent here gone =>
      rw [here] at writerReads writerWrites
      constructor <;> simp_all
  | closesWrite here =>
      rw [here] at writerReads writerWrites
      constructor <;> simp_all
  | reports received here reaped =>
      rw [here] at writerReads writerWrites
      constructor <;> simp_all
  | movesIn count i sent here positive fits =>
      rw [here] at writerReads writerWrites
      by_cases full : sent + count = setup.chunkBytes
      · constructor <;> simp_all
      · constructor <;> simp_all
  | fallsShort i sent here =>
      rw [here] at writerReads writerWrites
      constructor <;> simp_all
  | readerCloses here =>
      rw [here] at readerWrites readerReads
      constructor <;> simp [*]
  | ends received here empty noWriter =>
      rw [here] at readerWrites readerReads
      constructor <;> simp_all
  | exits received here =>
      rw [here] at readerWrites readerReads
      constructor <;> simp_all
  | movesOut count received here positive there =>
      rw [here] at readerWrites readerReads
      constructor <;> simp_all

theorem ordered_step (ordered : Ordered setup state)
    (stepped : (transfer setup).step state label = some next) : Ordered setup next := by
  have move := move_of_step setup state next label stepped
  exact ⟨writerAt_move move ordered.writerAt, readerAt_move move ordered.ends ordered.readerAt,
    ends_move move ordered.ends⟩

end Order

theorem ordered_exec (setup : Setup) (schedule : List Label) (state : State)
    (run : (transfer setup).exec schedule .forked = some state) : Ordered setup state :=
  Machine.invariant_of_exec _ (Ordered setup)
    (fun _ _ _ ordered stepped => ordered_step ordered stepped) schedule .forked state
    (ordered_forked setup) run

/-! ## Both processes end -/

section Termination

variable {setup : Setup} {state next : State} {label : Label}

def Writer.rank (setup : Setup) (written : Nat) : Writer → Nat
  | .closeRead => 2 * setup.actualBytes + 4
  | .write _ _ => 2 * (setup.actualBytes - written) + 3
  | .closeWrite => 2
  | .wait => 1
  | .reported _ => 0

def Reader.rank : Reader → Nat
  | .closeWrite => 3
  | .read _ => 2
  | .exit _ => 1
  | .exited _ => 0

/-- A byte counts twice while it is to be written and once in the pipe. -/
def State.rank (setup : Setup) (state : State) : Nat :=
  state.writer.rank setup state.pipe.written + state.reader.rank + state.pipe.held

theorem rank_writerLoop (setup : Setup) (i written : Nat) :
    (writerLoop setup i).rank setup written ≤ 2 * (setup.actualBytes - written) + 3 := by
  unfold writerLoop
  split
  · exact Nat.le_refl _
  · change 2 ≤ _
    omega

theorem rank_readerLoop (setup : Setup) (received : Nat) :
    (readerLoop setup received).rank ≤ 2 := by
  unfold readerLoop
  split
  · exact Nat.le_refl _
  · exact Nat.le_succ 1

theorem rank_move (move : Move setup state label next) (writerAt : WriterAt setup state) :
    next.rank setup < state.rank setup := by
  unfold WriterAt at writerAt
  unfold State.rank
  cases move with
  | closesRead here =>
      rw [here] at writerAt ⊢
      have loop := rank_writerLoop setup 0 state.pipe.written
      change (writerLoop setup 0).rank setup state.pipe.written + state.reader.rank +
        state.pipe.held < 2 * setup.actualBytes + 4 + state.reader.rank + state.pipe.held
      omega
  | noReader i sent here gone =>
      rw [here]
      simp only [Writer.rank]
      omega
  | closesWrite here =>
      rw [here]
      simp only [closeWrite_held, Writer.rank]
      omega
  | reports received here reaped =>
      rw [here]
      simp only [Writer.rank]
      omega
  | movesIn count i sent here positive fits =>
      rw [here] at writerAt ⊢
      obtain ⟨bound, part, written⟩ := writerAt
      have less := written_lt i sent bound part
      have chunk : (i + 1) * setup.chunkBytes ≤ setup.actualBytes :=
        Nat.mul_le_mul_right setup.chunkBytes bound
      rw [Nat.add_mul, Nat.one_mul] at chunk
      by_cases full : sent + count = setup.chunkBytes
      · have loop := rank_writerLoop setup (i + 1) (state.pipe.written + count)
        rw [if_pos full]
        change (writerLoop setup (i + 1)).rank setup (state.pipe.written + count) +
          state.reader.rank + (state.pipe.held + count) <
            2 * (setup.actualBytes - state.pipe.written) + 3 + state.reader.rank + state.pipe.held
        omega
      · simp only [if_neg full, push_written, push_held, Writer.rank]
        omega
  | fallsShort i sent here =>
      rw [here]
      simp only [Writer.rank]
      omega
  | readerCloses here =>
      rw [here]
      have loop := rank_readerLoop setup 0
      change state.writer.rank setup state.pipe.written + (readerLoop setup 0).rank +
        state.pipe.held < state.writer.rank setup state.pipe.written + 3 + state.pipe.held
      omega
  | ends received here empty noWriter =>
      rw [here]
      simp only [Reader.rank]
      omega
  | exits received here =>
      rw [here]
      simp only [release_written, release_held, Reader.rank]
      omega
  | movesOut count received here positive there =>
      rw [here]
      have loop := rank_readerLoop setup (received + count)
      change state.writer.rank setup state.pipe.written +
        (readerLoop setup (received + count)).rank + (state.pipe.held - count) <
          state.writer.rank setup state.pipe.written + 2 + state.pipe.held
      omega

/-- Nobody can go on, writes that fall short apart. -/
def Stuck (setup : Setup) (state : State) : Prop :=
  ∀ label, label ≠ .fallShort → (transfer setup).step state label = none

theorem proc_mem (procs : List Proc) (some : procs ≠ []) : .writer ∈ procs ∨ .reader ∈ procs := by
  obtain ⟨proc, member⟩ := List.exists_mem_of_ne_nil procs some
  cases proc with
  | writer => exact Or.inl member
  | reader => exact Or.inr member

/-- A full pipe can be read and an open one is closed in the end. -/
theorem ended_of_stuck (ordered : Ordered setup state) (stuck : Stuck setup state) :
    (∃ bytes, state.writer = .reported bytes) ∧ ∃ received, state.reader = .exited received := by
  obtain ⟨writerAt, readerAt, ends⟩ := ordered
  have write : state.writerStep setup = none := stuck .write (by simp)
  have read : state.readerStep setup = none := stuck .read (by simp)
  have moveOut : state.moveOut setup 1 = none := stuck (.moveOut 1) (by simp)
  have moveIn : state.moveIn setup 1 = none := stuck (.moveIn 1) (by simp)
  have positive := setup.chunkPositive
  have room := setup.capacityPositive
  -- a reader that is left reads an empty pipe that somebody can write to
  have reading : ∀ received, state.reader = .read received →
      state.pipe.held = 0 ∧ state.writer.writing = true := by
    intro received place
    have empty : state.pipe.held = 0 := by
      by_contra holds
      simp only [State.moveOut, place] at moveOut
      rw [if_pos ⟨Nat.one_pos, positive, Nat.pos_of_ne_zero holds⟩] at moveOut
      cases moveOut
    refine ⟨empty, ?_⟩
    simp only [State.readerStep, place] at read
    by_cases drained : state.pipe.held = 0 ∧ state.pipe.writers = []
    · rw [if_pos drained] at read
      cases read
    · have writer : state.pipe.writers ≠ [] := fun none => drained ⟨empty, none⟩
      rcases proc_mem _ writer with mine | others
      · exact ends.writerWrites.mp mine
      · have closing := ends.readerWrites.mp others
        rw [place] at closing
        cases closing
  have readerEnded : ∃ received, state.reader = .exited received := by
    cases place : state.reader with
    | closeWrite => simp [State.readerStep, place] at read
    | exit received => simp [State.readerStep, place] at read
    | exited received => exact ⟨received, rfl⟩
    | read received =>
        obtain ⟨empty, writes⟩ := reading received place
        have reader : state.pipe.readers ≠ [] := by
          have member := ends.readerReads.mpr (by rw [place]; rfl)
          intro none
          rw [none] at member
          cases member
        unfold WriterAt at writerAt
        cases writer : state.writer with
        | closeRead => simp [State.writerStep, writer] at write
        | closeWrite => simp [State.writerStep, writer] at write
        | wait => simp [writer] at writes
        | reported bytes => simp [writer] at writes
        | write i sent =>
            rw [writer] at writerAt
            simp only [State.moveIn, writer] at moveIn
            rw [if_pos ⟨Nat.one_pos, writerAt.2.1, by omega, reader⟩] at moveIn
            cases moveIn
  refine ⟨?_, readerEnded⟩
  obtain ⟨received, exited⟩ := readerEnded
  cases writer : state.writer with
  | closeRead => simp [State.writerStep, writer] at write
  | closeWrite => simp [State.writerStep, writer] at write
  | wait => simp [State.writerStep, writer, exited] at write
  | reported bytes => exact ⟨bytes, rfl⟩
  | write i sent =>
      have noReader : state.pipe.readers = [] := by
        by_contra reader
        rcases proc_mem _ reader with mine | others
        · have opening := ends.writerReads.mp mine
          rw [writer] at opening
          cases opening
        · have reads := ends.readerReads.mp others
          rw [exited] at reads
          cases reads
      simp only [State.writerStep, writer, if_pos noReader] at write
      cases write

theorem rank_step (state : State) (label : Label) (next : State) (ordered : Ordered setup state)
    (stepped : (transfer setup).step state label = some next) :
    Ordered setup next ∧ next.rank setup < state.rank setup :=
  ⟨ordered_step ordered stepped,
    rank_move (move_of_step setup state next label stepped) ordered.writerAt⟩

end Termination

/-! ## What falls short -/

section FallsShort

variable {setup : Setup} {state next : State}

def Writer.looping : Writer → Bool
  | .closeRead => true
  | .write _ _ => true
  | _ => false

/-- The writer leaves its loop with all the bytes, or with fewer when a write
has fallen short. -/
def Accounted (setup : Setup) (labels : List Label) (state : State) : Prop :=
  if .fallShort ∈ labels then
    state.writer.looping = false ∧ state.pipe.written < setup.actualBytes
  else state.writer.looping = false → state.pipe.written = setup.actualBytes

/-- While the writer writes, the reader has not left. -/
theorem reader_there (ordered : Ordered setup state) (i sent : Nat)
    (place : state.writer = .write i sent) : state.pipe.readers ≠ [] := by
  obtain ⟨writerAt, readerAt, ends⟩ := ordered
  have balance := state.pipe.balance
  unfold WriterAt at writerAt
  rw [place] at writerAt
  obtain ⟨bound, part, written⟩ := writerAt
  have less := written_lt i sent bound part
  have planned : setup.actualBytes ≤ setup.totalBytes := Nat.div_mul_le_self _ _
  intro gone
  have left : state.reader.reading = false := by
    by_contra reads
    have member := ends.readerReads.mpr (by simpa using reads)
    rw [gone] at member
    cases member
  unfold ReaderAt at readerAt
  cases reader : state.reader with
  | exited received =>
      rw [reader] at readerAt
      rcases readerAt.2 with all | ⟨_, noWriter⟩
      · omega
      · have writes := ends.writerWrites.mpr (by rw [place]; rfl)
        rw [noWriter] at writes
        cases writes
  | _ =>
      rw [reader] at left
      cases left

theorem looping_writerLoop (i : Nat) :
    (writerLoop setup i).looping = false ↔ setup.chunks ≤ i := by
  unfold writerLoop
  by_cases more : i < setup.chunks
  · rw [if_pos more]
    exact iff_of_false (by simp [Writer.looping]) (by omega)
  · rw [if_neg more]
    exact iff_of_true rfl (by omega)

theorem unhurt_of_looping (labels : List Label) (accounted : Accounted setup labels state)
    (looping : state.writer.looping = true) : .fallShort ∉ labels := by
  intro hurt
  rw [Accounted, if_pos hurt, looping] at accounted
  cases accounted.1

theorem accounted_frame (labels : List Label) (label : Label) (other : label ≠ .fallShort)
    (state : State) (sameLooping : next.writer.looping = state.writer.looping)
    (sameWritten : next.pipe.written = state.pipe.written)
    (accounted : Accounted setup labels state) : Accounted setup (labels ++ [label]) next := by
  unfold Accounted at accounted ⊢
  have same : .fallShort ∈ labels ++ [label] ↔ .fallShort ∈ labels := by
    simp [other.symm]
  rw [sameLooping, sameWritten]
  by_cases hurt : .fallShort ∈ labels
  · rw [if_pos hurt] at accounted
    rwa [if_pos (same.mpr hurt)]
  · rw [if_neg hurt] at accounted
    rwa [if_neg (mt same.mp hurt)]

/-- A step in the loop, after which nothing has fallen short. -/
theorem accounted_loop (labels : List Label) (label : Label) (other : label ≠ .fallShort)
    (unhurt : .fallShort ∉ labels)
    (whole : next.writer.looping = false → next.pipe.written = setup.actualBytes) :
    Accounted setup (labels ++ [label]) next := by
  rw [Accounted, if_neg (by simp [unhurt, other.symm])]
  exact whole

theorem accounted_step (labels : List Label) (label : Label) (ordered : Ordered setup state)
    (accounted : Accounted setup labels state)
    (stepped : (transfer setup).step state label = some next) :
    Accounted setup (labels ++ [label]) next := by
  have move := move_of_step setup state next label stepped
  have writerAt := ordered.writerAt
  unfold WriterAt at writerAt
  cases move with
  | closesRead here =>
      have unhurt := unhurt_of_looping labels accounted (by rw [here]; rfl)
      rw [here] at writerAt
      apply accounted_loop labels _ (by simp) unhurt
      intro left
      have none := (looping_writerLoop 0).mp left
      change state.pipe.written = setup.actualBytes
      rw [writerAt, Setup.actualBytes, Nat.le_zero.mp none, Nat.zero_mul]
  | noReader i sent here gone => exact absurd gone (reader_there ordered i sent here)
  | closesWrite here =>
      exact accounted_frame labels _ (by simp) state (by rw [here]; rfl) rfl accounted
  | reports received here reaped =>
      exact accounted_frame labels _ (by simp) state (by rw [here]; rfl) rfl accounted
  | movesIn count i sent here positive fits =>
      have unhurt := unhurt_of_looping labels accounted (by rw [here]; rfl)
      rw [here] at writerAt
      obtain ⟨bound, part, written⟩ := writerAt
      apply accounted_loop labels _ (by simp) unhurt
      intro left
      change (if sent + count = setup.chunkBytes then writerLoop setup (i + 1)
        else .write i (sent + count)).looping = false at left
      change state.pipe.written + count = setup.actualBytes
      by_cases full : sent + count = setup.chunkBytes
      · rw [if_pos full, looping_writerLoop] at left
        have last : setup.chunks = i + 1 := by omega
        rw [Setup.actualBytes, last, Nat.add_mul, Nat.one_mul, written]
        omega
      · rw [if_neg full] at left
        cases left
  | fallsShort i sent here =>
      rw [here] at writerAt
      obtain ⟨bound, part, written⟩ := writerAt
      rw [Accounted, if_pos (by simp)]
      exact ⟨rfl, written ▸ written_lt i sent bound part⟩
  | readerCloses here => exact accounted_frame labels _ (by simp) state rfl rfl accounted
  | ends received here empty noWriter =>
      exact accounted_frame labels _ (by simp) state rfl rfl accounted
  | exits received here => exact accounted_frame labels _ (by simp) state rfl rfl accounted
  | movesOut count received here positive there =>
      exact accounted_frame labels _ (by simp) state rfl rfl accounted

theorem accounted_exec (setup : Setup) (schedule : List Label) (state : State)
    (run : (transfer setup).exec schedule .forked = some state) :
    Accounted setup schedule state := by
  refine Machine.history (transfer setup) (Accounted setup) .forked ?_ ?_ schedule state run
  · rw [Accounted, if_neg (by simp)]
    intro left
    cases left
  · intro labels state label next reached accounted stepped
    exact accounted_step labels label (ordered_exec setup labels state reached) accounted stepped

/-- What the reader has received at the end is what the writer has written. -/
theorem received_eq_written (ordered : Ordered setup state) (received bytes : Nat)
    (exited : state.reader = .exited received) (reported : state.writer = .reported bytes) :
    received = state.pipe.written ∧ bytes = setup.actualBytes := by
  obtain ⟨writerAt, readerAt, _⟩ := ordered
  have balance := state.pipe.balance
  have planned : setup.actualBytes ≤ setup.totalBytes := Nat.div_mul_le_self _ _
  unfold WriterAt at writerAt
  unfold ReaderAt at readerAt
  rw [reported] at writerAt
  rw [exited] at readerAt
  obtain ⟨taken, all | ⟨empty, _⟩⟩ := readerAt
  · exact ⟨by omega, writerAt.2⟩
  · exact ⟨by omega, writerAt.2⟩

end FallsShort

/-! ## The benchmark -/

/-- Writer and reader always end, and what is reported is what was received
exactly when no write has fallen short. -/
theorem reported_iff (setup : Setup) (schedule : List Label) (state : State)
    (run : (transfer setup).exec schedule .forked = some state) :
    schedule.length ≤ 2 * setup.actualBytes + 7 ∧
    (Stuck setup state → (∃ bytes, state.writer = .reported bytes) ∧
      ∃ received, state.reader = .exited received) ∧
    ∀ bytes received, state.writer = .reported bytes → state.reader = .exited received →
      (bytes = received ↔ .fallShort ∉ schedule) ∧
      (.fallShort ∉ schedule →
        received = setup.totalBytes / setup.chunkBytes * setup.chunkBytes) := by
  have ordered := ordered_exec setup schedule state run
  have bounded := Machine.length_of_measure (transfer setup) (Ordered setup) (State.rank setup)
    rank_step schedule .forked state (ordered_forked setup) run
  have start : State.forked.rank setup = 2 * setup.actualBytes + 7 := rfl
  refine ⟨by omega, ended_of_stuck ordered, ?_⟩
  intro bytes received reported exited
  obtain ⟨whole, planned⟩ := received_eq_written ordered received bytes exited reported
  have accounted := accounted_exec setup schedule state run
  unfold Accounted at accounted
  by_cases hurt : .fallShort ∈ schedule
  · rw [if_pos hurt] at accounted
    exact ⟨iff_of_false (by omega) (by simp [hurt]), fun unhurt => absurd hurt unhurt⟩
  · rw [if_neg hurt, reported] at accounted
    have all := accounted rfl
    exact ⟨iff_of_true (by omega) hurt, fun _ => whole.trans all⟩

/-- One chunk of a megabyte, which the pipe can hold. -/
def megabyte : Setup := ⟨1048576, 1, 1048576, by decide, by decide⟩

def wholeChunk : List Label :=
  [.write, .read, .moveIn 1048576, .write, .moveOut 1048576, .read, .write]

theorem reported_megabyte : ∃ state, (transfer megabyte).exec wholeChunk .forked = some state ∧
    wholeChunk.length ≤ 2 * megabyte.actualBytes + 7 ∧
    (Stuck megabyte state → (∃ bytes, state.writer = .reported bytes) ∧
      ∃ received, state.reader = .exited received) ∧
    ∀ bytes received, state.writer = .reported bytes → state.reader = .exited received →
      (bytes = received ↔ .fallShort ∉ wholeChunk) ∧
      (.fallShort ∉ wholeChunk →
        received = megabyte.totalBytes / megabyte.chunkBytes * megabyte.chunkBytes) := by
  obtain ⟨state, run⟩ : ∃ state, (transfer megabyte).exec wholeChunk .forked = some state :=
    Option.isSome_iff_exists.mp (by decide +kernel)
  exact ⟨state, run, reported_iff megabyte wholeChunk state run⟩

/-- The only write returns after half of its chunk. -/
theorem short_write_reported_whole : ∃ state,
    (transfer megabyte).exec
        [.write, .read, .moveIn 524288, .fallShort, .moveOut 524288, .write, .read, .read, .write]
        .forked = some state ∧
      state.writer = .reported 1048576 ∧ state.reader = .exited 524288 := by
  refine ⟨⟨.reported 1048576, .exited 524288, ⟨0, 524288, 524288, [], [], rfl⟩⟩, ?_, rfl, rfl⟩
  decide +kernel

end KernelSprint.IpcThroughput

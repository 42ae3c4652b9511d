import KernelSprint.Backend.Sockets
import KernelSprint.Lib.Machine

/-!
# The live panels

`PatchRunner`, `LiveBenchmarkRunner`, `ExperimentsPanel` and `ChaosPanel` share
the shape of `run()`: a socket with three callbacks, a timer of two seconds,
and `runSimulated` as the fallback of both.  A panel keeps what its past runs
have left behind, sockets, timers and intervals alike.
-/

set_option autoImplicit false

namespace KernelSprint.LivePanel

open Labelled Sockets

inductive Message where
  | stage (stage status : String)
  | output (line : String)
  | sample (msg : Json)
  | start
  /-- The message and its `data` field. -/
  | result (msg data : Json)
  | error (message : String) (stage : Option String)

/-- What one panel puts into the shape.  `Sim` is an interval or timeout of
`runSimulated` with its closure; `tick` fires it once.  `watched` is the part
of the view that a run produces. -/
structure Code where
  Arg : Type
  View : Type
  Sim : Type
  Watched : Type
  initial : View
  running : View → Bool
  watched : View → Watched
  request : Arg → Json
  /-- The guard of `run` and what it sets before the socket is made. -/
  begin : Arg → View → Option View
  onopen : View → View
  /-- The flag tells whether the callback closes the socket. -/
  onmessage : Arg → Message → View → View × Bool
  runSimulated : Arg → View → View × Sim
  tick : Arg → Sim → View → View × Option Sim
  begin_running : ∀ arg view view', begin arg view = some view' →
    running view = false ∧ running view' = true
  onopen_running : ∀ view, running (onopen view) = running view
  onmessage_running : ∀ arg message view, running (onmessage arg message view).1 =
    if (onmessage arg message view).2 then false else running view
  runSimulated_running : ∀ arg view, running (runSimulated arg view).1 = running view
  tick_running : ∀ arg sim view, running (tick arg sim view).1 =
    if (tick arg sim view).2.isSome then running view else false

/-- `closing` remembers whether the socket was open when it was closed. -/
inductive Sock where
  | connecting
  | opened
  | closing (wasOpen : Bool)
  | errored
  | closed
  deriving DecidableEq, Repr

/-- `ws.close()` -/
def Sock.close : Sock → Sock
  | .connecting => .closing false
  | .opened => .closing true
  | sock => sock

/-- `simStarts` counts the calls of `runSimulated`, `opened` tells whether the
open event was delivered. -/
structure Run (code : Code) where
  arg : code.Arg
  sock : Sock
  timer : Bool
  sims : List code.Sim
  sent : List Json
  simStarts : Nat
  opened : Bool

structure Panel (code : Code) where
  view : code.View
  runs : List (Run code)

inductive Event where
  | timeout
  | opened
  | message (message : Message)
  | error
  | close
  | tick (index : Nat)

inductive Label (code : Code) where
  /-- `run()`; the constructor of the socket may throw. -/
  | start (arg : code.Arg) (throws : Bool)
  | on (index : Nat) (event : Event)

variable {code : Code}

def Run.simulate (run : Run code) (view : code.View) : Run code × code.View :=
  ({ run with
      sims := run.sims ++ [(code.runSimulated run.arg view).2]
      simStarts := run.simStarts + 1 },
    (code.runSimulated run.arg view).1)

/-- The events that a standard socket delivers in each of its states. -/
def Sock.delivers : Sock → Event → Bool
  | .connecting, .opened => true
  | .opened, .message _ => true
  | .connecting, .error => true
  | .opened, .error => true
  | .closing _, .error => true
  | .opened, .close => true
  | .closing true, .close => true
  | .errored, .close => true
  | _, _ => false

/-- The callback of one run for an event. -/
def Run.on (run : Run code) (view : code.View) : Event → Option (Run code × code.View)
  | .timeout =>
      if run.timer then
        some (Run.simulate { run with timer := false, sock := run.sock.close } view)
      else none
  | .opened =>
      if run.sock.delivers .opened then
        some ({ run with
            sock := .opened, timer := false, opened := true
            sent := run.sent ++ [code.request run.arg] },
          code.onopen view)
      else none
  | .message message =>
      if run.sock.delivers (.message message) then
        let result := code.onmessage run.arg message view
        some ({ run with
            timer := false, sock := if result.2 then run.sock.close else run.sock },
          result.1)
      else none
  | .error =>
      if run.sock.delivers .error then
        some (Run.simulate { run with timer := false, sock := .errored } view)
      else none
  | .close =>
      if run.sock.delivers .close then some ({ run with sock := .closed }, view) else none
  | .tick index =>
      match run.sims[index]? with
      | none => none
      | some sim =>
          let result := code.tick run.arg sim view
          some ({ run with
              sims := match result.2 with
                | some sim => run.sims.set index sim
                | none => run.sims.eraseIdx index },
            result.1)

def Panel.start (panel : Panel code) (arg : code.Arg) (throws : Bool) : Option (Panel code) :=
  (code.begin arg panel.view).map fun view =>
    if throws then
      let simulated := Run.simulate ⟨arg, .closed, false, [], [], 0, false⟩ view
      ⟨simulated.2, panel.runs ++ [simulated.1]⟩
    else ⟨view, panel.runs ++ [⟨arg, .connecting, true, [], [], 0, false⟩]⟩

def Panel.on (panel : Panel code) (index : Nat) (event : Event) : Option (Panel code) :=
  match panel.runs[index]? with
  | none => none
  | some run =>
      (run.on panel.view event).map fun result =>
        ⟨result.2, panel.runs.set index result.1⟩

def machine (code : Code) : Machine (Panel code) (Label code) where
  step panel
    | .start arg throws => panel.start arg throws
    | .on index event => panel.on index event

def Panel.mounted : Panel code := ⟨code.initial, []⟩

/-! ## What one step does -/

theorem on_some (panel next : Panel code) (index : Nat) (event : Event)
    (stepped : panel.on index event = some next) :
    ∃ run run' view', panel.runs[index]? = some run ∧
      run.on panel.view event = some (run', view') ∧
      next = ⟨view', panel.runs.set index run'⟩ := by
  unfold Panel.on at stepped
  split at stepped
  · cases stepped
  · next run found =>
      obtain ⟨⟨run', view'⟩, ran, updated⟩ := Option.map_eq_some_iff.mp stepped
      exact ⟨run, run', view', found, ran, updated.symm⟩

theorem start_some (panel next : Panel code) (arg : code.Arg) (throws : Bool)
    (stepped : panel.start arg throws = some next) :
    ∃ run, code.running panel.view = false ∧ code.running next.view = true ∧
      next.runs = panel.runs ++ [run] ∧
      ((run.sock = .connecting ∧ run.timer = true ∧ run.sims = [] ∧ run.simStarts = 0 ∧
          run.opened = false) ∨
        (run.sock = .closed ∧ run.timer = false ∧ run.sims.length = 1 ∧ run.simStarts = 1 ∧
          run.opened = false)) := by
  obtain ⟨view, begun, updated⟩ := Option.map_eq_some_iff.mp stepped
  obtain ⟨idle, running⟩ := code.begin_running arg panel.view view begun
  cases throws with
  | true =>
      subst updated
      exact ⟨_, idle, (code.runSimulated_running arg view).trans running, rfl,
        Or.inr ⟨rfl, rfl, rfl, rfl, rfl⟩⟩
  | false =>
      subst updated
      exact ⟨_, idle, running, rfl, Or.inl ⟨rfl, rfl, rfl, rfl, rfl⟩⟩

/-- Everything the callbacks of a run can do. -/
inductive Fires (run : Run code) (view : code.View) : Event → Run code → code.View → Prop where
  | timeout (timed : run.timer = true) :
      Fires run view .timeout
        (Run.simulate { run with timer := false, sock := run.sock.close } view).1
        (code.runSimulated run.arg view).1
  | opened (connecting : run.sock = .connecting) :
      Fires run view .opened
        { run with
          sock := .opened, timer := false, opened := true
          sent := run.sent ++ [code.request run.arg] }
        (code.onopen view)
  | message (message : Message) (opened : run.sock = .opened)
      (keeps : (code.onmessage run.arg message view).2 = false) :
      Fires run view (.message message) { run with timer := false }
        (code.onmessage run.arg message view).1
  | last (message : Message) (opened : run.sock = .opened)
      (closes : (code.onmessage run.arg message view).2 = true) :
      Fires run view (.message message) { run with timer := false, sock := .closing true }
        (code.onmessage run.arg message view).1
  | error (delivered : run.sock.delivers .error = true) :
      Fires run view .error (Run.simulate { run with timer := false, sock := .errored } view).1
        (code.runSimulated run.arg view).1
  | close (delivered : run.sock.delivers .close = true) :
      Fires run view .close { run with sock := .closed } view
  | tick (index : Nat) (sim sim' : code.Sim) (found : run.sims[index]? = some sim)
      (continues : (code.tick run.arg sim view).2 = some sim') :
      Fires run view (.tick index) { run with sims := run.sims.set index sim' }
        (code.tick run.arg sim view).1
  | finish (index : Nat) (sim : code.Sim) (found : run.sims[index]? = some sim)
      (ends : (code.tick run.arg sim view).2 = none) :
      Fires run view (.tick index) { run with sims := run.sims.eraseIdx index }
        (code.tick run.arg sim view).1

theorem fires_of_on (run run' : Run code) (view view' : code.View) (event : Event)
    (ran : run.on view event = some (run', view')) : Fires run view event run' view' := by
  cases event with
  | timeout =>
      simp only [Run.on] at ran
      split at ran
      · next timed =>
          cases Option.some.inj ran
          exact .timeout timed
      · cases ran
  | opened =>
      simp only [Run.on] at ran
      split at ran
      · next delivered =>
          cases Option.some.inj ran
          refine .opened ?_
          cases sock : run.sock <;> simp [sock, Sock.delivers] at delivered ⊢
      · cases ran
  | message message =>
      simp only [Run.on] at ran
      split at ran
      · next delivered =>
          have opened : run.sock = .opened := by
            cases sock : run.sock <;> simp [sock, Sock.delivers] at delivered ⊢
          cases Option.some.inj ran
          cases closes : (code.onmessage run.arg message view).2 with
          | true =>
              rw [if_pos rfl, opened]
              exact .last message opened closes
          | false =>
              rw [if_neg (by simp)]
              exact .message message opened closes
      · cases ran
  | error =>
      simp only [Run.on] at ran
      split at ran
      · next delivered =>
          cases Option.some.inj ran
          exact .error delivered
      · cases ran
  | close =>
      simp only [Run.on] at ran
      split at ran
      · next delivered =>
          cases Option.some.inj ran
          exact .close delivered
      · cases ran
  | tick index =>
      simp only [Run.on] at ran
      split at ran
      · cases ran
      · next sim found =>
          cases Option.some.inj ran
          cases ends : (code.tick run.arg sim view).2 with
          | some sim' => exact .tick index sim sim' found ends
          | none => exact .finish index sim found ends

/-! ## One run -/

/-- What the state of the socket says about timer, simulations and ghosts. -/
structure Sound (run : Run code) : Prop where
  timed : run.timer = true → run.sock = .connecting
  connecting : run.sock = .connecting →
    run.timer = true ∧ run.sims = [] ∧ run.simStarts = 0 ∧ run.opened = false
  talking : run.sock = .opened → run.sims = [] ∧ run.simStarts = 0 ∧ run.opened = true
  closedOpen : run.sock = .closing true → run.opened = true
  closedEarly : run.sock = .closing false → 0 < run.simStarts
  pending : run.sims.length ≤ run.simStarts

theorem sound_fires (run run' : Run code) (view view' : code.View) (event : Event)
    (sound : Sound run) (fires : Fires run view event run' view') : Sound run' := by
  have pending := sound.pending
  cases fires with
  | timeout timed =>
      have closing : run.sock.close = .closing false := by
        rw [sound.timed timed]
        rfl
      constructor <;> simp [Run.simulate, closing, pending]
  | opened connecting =>
      obtain ⟨-, none, starts, -⟩ := sound.connecting connecting
      constructor <;> simp [none, starts]
  | message message opened keeps =>
      obtain ⟨none, starts, wasOpened⟩ := sound.talking opened
      constructor <;> simp [opened, none, starts, wasOpened]
  | last message opened closes =>
      obtain ⟨none, starts, wasOpened⟩ := sound.talking opened
      constructor <;> simp [none, starts, wasOpened]
  | error delivered => constructor <;> simp [Run.simulate, pending]
  | close delivered =>
      have untimed : run.timer = false := by
        cases timed : run.timer with
        | false => rfl
        | true => simp [sound.timed timed, Sock.delivers] at delivered
      constructor <;> simp [untimed, pending]
  | tick index sim sim' found continues =>
      have simulated : run.sims ≠ [] := List.ne_nil_of_mem (List.mem_of_getElem? found)
      exact ⟨sound.timed, fun connecting => absurd (sound.connecting connecting).2.1 simulated,
        fun opened => absurd (sound.talking opened).1 simulated, sound.closedOpen,
        sound.closedEarly, by simpa using pending⟩
  | finish index sim found ends =>
      have simulated : run.sims ≠ [] := List.ne_nil_of_mem (List.mem_of_getElem? found)
      exact ⟨sound.timed, fun connecting => absurd (sound.connecting connecting).2.1 simulated,
        fun opened => absurd (sound.talking opened).1 simulated, sound.closedOpen,
        sound.closedEarly, (List.length_eraseIdx_le _ _).trans pending⟩

theorem sound_on (run run' : Run code) (view view' : code.View) (event : Event)
    (sound : Sound run) (ran : run.on view event = some (run', view')) : Sound run' :=
  sound_fires run run' view view' event sound (fires_of_on run run' view view' event ran)

theorem sound_step (panel next : Panel code) (label : Label code)
    (sound : ∀ run ∈ panel.runs, Sound run)
    (stepped : (machine code).step panel label = some next) : ∀ run ∈ next.runs, Sound run := by
  cases label with
  | start arg throws =>
      obtain ⟨started, -, -, runs, fresh⟩ := start_some panel next arg throws stepped
      intro run member
      rw [runs] at member
      rcases List.mem_append.mp member with old | new
      · exact sound run old
      · rw [List.mem_singleton.mp new]
        rcases fresh with ⟨sock, timer, sims, starts, opened⟩ |
          ⟨sock, timer, sims, starts, opened⟩
        · constructor <;> simp [sock, timer, sims, starts, opened]
        · constructor <;> simp [sock, timer, sims, starts, opened]
  | on index event =>
      obtain ⟨run, run', view', found, ran, rfl⟩ := on_some panel next index event stepped
      intro other member
      rcases List.mem_or_eq_of_mem_set member with old | rfl
      · exact sound other old
      · exact sound_on run other panel.view view' event
          (sound run (List.mem_of_getElem? found)) ran

end KernelSprint.LivePanel

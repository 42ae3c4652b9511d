import Mathlib.Algebra.Order.Ring.Int
import KernelSprint.Lib.Mutex
import KernelSprint.Benchmark.PosixValidation

/-!
# The stress test

`stress_test.c`: `main`, the workers of `pthread_stress` and the threads of
`cpu_hog` take their steps in any order, and the kernel answers every call of
`main` as it likes.
-/

set_option autoImplicit false

namespace KernelSprint.StressTest

open Labelled Mutex
open PosixValidation (Status wifexited wexitstatus)

/-! ## The process -/

def forkCount : Nat := 100

def pthreadCount : Nat := 100

def cpuHogDurationSec : Int := 3

/-- A thread in `cpu_hog`. -/
inductive Hog where
  | spinning (x : BitVec 64)
  | returned
  deriving DecidableEq

/-- The call or the statement that `main` comes to next. -/
inductive Point where
  | createHog (i : Nat)
  | clockStart
  | fork (i failures : Nat)
  | waitpid (i failures : Nat)
  | reset
  | create (i : Nat)
  | join (i : Nat)
  | check
  | clockNow
  | stop
  | joinHog (i : Nat)
  | exited (code : Nat)
  deriving DecidableEq

/-- `guarded` is `counter_lock`, `shared_counter` and the workers; `hogs` is
the array of `main`, with nothing where `pthread_create` did not fill it in.
The counters are numbers without a bound: an overflow of the `int`s and the
`long` of the program is left out. -/
structure Process where
  guarded : Guarded Int
  stopCpuHogs : Bool
  hogThreads : List Hog
  hogs : List (Option Nat)
  threads : List Nat
  started : Int
  totalFailures : Nat
  rounds : Nat
  point : Point
  stdout : List String
  stderr : List String
  deriving DecidableEq

/-- What happens next: the kernel answers a call of `main`, `main` goes on
without one, or another thread takes a step. -/
inductive Event where
  | createHog (created : Bool)
  | fork (error : Option String)
  | waitpid (result : Except String Status)
  | create (created : Bool)
  | clock (sec : Int)
  | main
  | worker (index : Nat)
  | hog (index : Nat)

namespace Process

variable (ncpus : Nat) (process : Process)

def print (line : String) : Process := { process with stdout := process.stdout ++ [line] }

def complain (line : String) : Process := { process with stderr := process.stderr ++ [line] }

def goto (point : Point) : Process := { process with point := point }

/-! ## `fork_stress` -/

/-- The head of the loop of `fork_stress`, and its return. -/
def forkLoop (i failures : Nat) : Process :=
  if i < forkCount then process.goto (.fork i failures)
  else { process with
    totalFailures := process.totalFailures + failures
    point := .reset }

def fork (error : Option String) : Option Process :=
  match process.point with
  | .fork i failures =>
      match error with
      | none => some (process.goto (.waitpid i failures))
      | some text => some ((process.complain ("fork: " ++ text)).forkLoop (i + 1) (failures + 1))
  | _ => none

def waitpid (result : Except String Status) : Option Process :=
  match process.point with
  | .waitpid i failures =>
      match result with
      | .error text =>
          some ((process.complain ("waitpid: " ++ text)).forkLoop (i + 1) (failures + 1))
      | .ok status =>
          if (!wifexited status) || wexitstatus status != 42 then
            some ((process.complain
              ("fork_stress: child " ++ toString i ++ " bad exit status")).forkLoop
                (i + 1) (failures + 1))
          else some (process.forkLoop (i + 1) failures)
  | _ => none

/-! ## `pthread_stress` -/

/-- The return of `pthread_stress`, and the end of the round. -/
def pthreadReturn (result : Nat) : Process :=
  { process with
    totalFailures := process.totalFailures + result
    rounds := process.rounds + 1
    point := .clockNow }

def create (created : Bool) : Option Process :=
  match process.point with
  | .create i =>
      if created then
        some { process with
          guarded := process.guarded.spawn
          threads := process.threads ++ [process.guarded.threads.length]
          point := if i + 1 < pthreadCount then .create (i + 1) else .join 0 }
      else
        some ((process.complain
          ("pthread_stress: create failed at " ++ toString i)).pthreadReturn 1)
  | _ => none

def join (i : Nat) : Option Process := do
  let id ← process.threads[i]?
  let phase ← process.guarded.threads[id]?
  if phase = .left then
    some (process.goto (if i + 1 < pthreadCount then .join (i + 1) else .check))
  else none

def check : Process :=
  if process.guarded.value ≠ pthreadCount then
    (process.complain ("pthread_stress: counter mismatch: got " ++
      toString process.guarded.value ++ " want " ++ toString pthreadCount)).pthreadReturn 1
  else process.pthreadReturn 0

/-! ## `main` -/

def start : Process where
  guarded := ⟨none, 0, []⟩
  stopCpuHogs := false
  hogThreads := []
  hogs := []
  threads := []
  started := 0
  totalFailures := 0
  rounds := 0
  point := if 0 < ncpus then .createHog 0 else .clockStart
  stdout := ["stress_test: starting " ++ toString ncpus ++ " cpu hog threads for " ++
    toString cpuHogDurationSec ++ "s while running fork+pthread stress concurrently"]
  stderr := []

def createHog (created : Bool) : Option Process :=
  match process.point with
  | .createHog i =>
      let process := process.goto (if i + 1 < ncpus then .createHog (i + 1) else .clockStart)
      if created then
        some { process with
          hogs := process.hogs ++ [some process.hogThreads.length]
          hogThreads := process.hogThreads ++ [.spinning 0] }
      else some { process with hogs := process.hogs ++ [none] }
  | _ => none

/-- `clock_gettime`, the first time and at the end of every round. -/
def clock (sec : Int) : Option Process :=
  match process.point with
  | .clockStart => some ({ process with started := sec }.forkLoop 0 0)
  | .clockNow =>
      if sec - process.started < cpuHogDurationSec then some (process.forkLoop 0 0)
      else some (process.goto .stop)
  | _ => none

def summary : Process :=
  process.print ("stress_test: completed " ++ toString process.rounds ++
    " rounds (fork x" ++ toString forkCount ++ ", pthread x" ++ toString pthreadCount ++
    " each), " ++ toString process.totalFailures ++ " failures")

def report : Process :=
  if 0 < process.totalFailures then
    (process.summary.print "stress_test: RESULT=FAIL").goto (.exited 1)
  else (process.summary.print "stress_test: RESULT=PASS").goto (.exited 0)

/-- The head of the loop that joins the hogs, and what comes after it. -/
def hogLoop (i : Nat) : Process :=
  if i < ncpus then process.goto (.joinHog i) else process.report

/-- To join a thread whose handle was never written is undefined: the model
has no step there. -/
def joinHog (i : Nat) : Option Process := do
  let handle ← process.hogs[i]?
  let id ← handle
  let hog ← process.hogThreads[id]?
  if hog = .returned then some (process.hogLoop ncpus (i + 1)) else none

def main : Option Process :=
  match process.point with
  | .reset =>
      some { process with
        guarded := process.guarded.reset 0
        threads := []
        point := if 0 < pthreadCount then .create 0 else .check }
  | .join i => process.join i
  | .check => some process.check
  | .stop => some ({ process with stopCpuHogs := true }.hogLoop ncpus 0)
  | .joinHog i => process.joinHog ncpus i
  | _ => none

/-! ## The other threads -/

def worker (index : Nat) : Option Process :=
  (process.guarded.advance (· + 1) index).map fun guarded => { process with guarded := guarded }

def hog (index : Nat) : Option Process :=
  match process.hogThreads[index]? with
  | some (.spinning x) =>
      some { process with
        hogThreads := process.hogThreads.set index
          (if process.stopCpuHogs then .returned else .spinning (x + 1)) }
  | _ => none

def act : Event → Option Process
  | .createHog created => process.createHog ncpus created
  | .fork error => process.fork error
  | .waitpid result => process.waitpid result
  | .create created => process.create created
  | .clock sec => process.clock sec
  | .main => process.main ncpus
  | .worker index => process.worker index
  | .hog index => process.hog index

def exited : Bool :=
  match process.point with
  | .exited _ => true
  | _ => false

end Process

/-- When `main` has returned, the other threads are gone with the process. -/
def machine (ncpus : Nat) : Machine Process Event where
  step process event := if process.exited then none else process.act ncpus event

/-- `sysconf(_SC_NPROCESSORS_ONLN)`, which may fail. -/
def ncpus (online : Int) : Nat := if online < 1 then 1 else online.toNat

/-! ## What one step does -/

/-- The calls that `stress_test.c` counts as failures when they go wrong.  A
hog that could not be created is not noticed. -/
def Event.succeeds : Event → Bool
  | .fork error => error.isNone
  | .waitpid (.ok status) => wifexited status && wexitstatus status == 42
  | .waitpid (.error _) => false
  | .create created => created
  | .createHog _ | .clock _ | .main | .worker _ | .hog _ => true

namespace Process

variable {ncpus : Nat} {process next : Process}

theorem fork_cases {error : Option String} (stepped : process.fork error = some next) :
    ∃ i failures, process.point = .fork i failures ∧
      ((error = none ∧ next = process.goto (.waitpid i failures)) ∨
        ∃ text, error = some text ∧
          next = (process.complain ("fork: " ++ text)).forkLoop (i + 1) (failures + 1)) := by
  unfold fork at stepped
  split at stepped
  · rename_i i failures here
    refine ⟨i, failures, here, ?_⟩
    cases error with
    | none => exact Or.inl ⟨rfl, (Option.some.inj stepped).symm⟩
    | some text => exact Or.inr ⟨text, rfl, (Option.some.inj stepped).symm⟩
  · cases stepped

theorem waitpid_cases {result : Except String Status}
    (stepped : process.waitpid result = some next) :
    ∃ i failures, process.point = .waitpid i failures ∧
      (((Event.waitpid result).succeeds = true ∧ next = process.forkLoop (i + 1) failures) ∨
        ((Event.waitpid result).succeeds = false ∧ ∃ text,
          next = (process.complain text).forkLoop (i + 1) (failures + 1))) := by
  unfold waitpid at stepped
  split at stepped
  · rename_i i failures here
    refine ⟨i, failures, here, ?_⟩
    cases result with
    | error text => exact Or.inr ⟨rfl, _, (Option.some.inj stepped).symm⟩
    | ok status =>
        dsimp only at stepped
        split at stepped
        · rename_i bad
          refine Or.inr ⟨?_, _, (Option.some.inj stepped).symm⟩
          simp only [Event.succeeds]
          cases exits : wifexited status with
          | false => rfl
          | true => simpa [exits] using bad
        · rename_i good
          refine Or.inl ⟨?_, (Option.some.inj stepped).symm⟩
          simpa [Event.succeeds] using good
  · cases stepped

theorem create_cases {created : Bool} (stepped : process.create created = some next) :
    ∃ i, process.point = .create i ∧
      ((created = true ∧ next = { process with
          guarded := process.guarded.spawn
          threads := process.threads ++ [process.guarded.threads.length]
          point := if i + 1 < pthreadCount then .create (i + 1) else .join 0 }) ∨
        (created = false ∧ ∃ text, next = (process.complain text).pthreadReturn 1)) := by
  unfold create at stepped
  split at stepped
  · rename_i i here
    refine ⟨i, here, ?_⟩
    cases created with
    | true => exact Or.inl ⟨rfl, (Option.some.inj stepped).symm⟩
    | false => exact Or.inr ⟨rfl, _, (Option.some.inj stepped).symm⟩
  · cases stepped

theorem createHog_cases {created : Bool}
    (stepped : process.createHog ncpus created = some next) :
    ∃ i, process.point = .createHog i ∧
      next.point = (if i + 1 < ncpus then .createHog (i + 1) else .clockStart) ∧
      next.guarded = process.guarded ∧ next.totalFailures = process.totalFailures ∧
      ((created = true ∧ next.hogs = process.hogs ++ [some process.hogThreads.length] ∧
          next.hogThreads = process.hogThreads ++ [.spinning 0]) ∨
        (created = false ∧ next.hogThreads = process.hogThreads)) := by
  unfold createHog at stepped
  split at stepped
  · rename_i i here
    refine ⟨i, here, ?_⟩
    cases created with
    | true =>
        cases Option.some.inj stepped
        exact ⟨rfl, rfl, rfl, Or.inl ⟨rfl, rfl, rfl⟩⟩
    | false =>
        cases Option.some.inj stepped
        exact ⟨rfl, rfl, rfl, Or.inr ⟨rfl, rfl⟩⟩
  · cases stepped

theorem clock_cases {sec : Int} (stepped : process.clock sec = some next) :
    (process.point = .clockStart ∧ next = { process with started := sec }.forkLoop 0 0) ∨
      (process.point = .clockNow ∧ next = process.forkLoop 0 0) ∨
      (process.point = .clockNow ∧ next = process.goto .stop) := by
  unfold clock at stepped
  split at stepped
  · rename_i here
    exact Or.inl ⟨here, (Option.some.inj stepped).symm⟩
  · rename_i here
    split at stepped
    · exact Or.inr (Or.inl ⟨here, (Option.some.inj stepped).symm⟩)
    · exact Or.inr (Or.inr ⟨here, (Option.some.inj stepped).symm⟩)
  · cases stepped

theorem join_cases {i : Nat} (stepped : process.join i = some next) :
    (∃ id, process.threads[i]? = some id ∧ process.guarded.threads[id]? = some .left) ∧
      next = process.goto (if i + 1 < pthreadCount then .join (i + 1) else .check) := by
  obtain ⟨id, handle, stepped⟩ := Option.bind_eq_some_iff.mp stepped
  obtain ⟨phase, found, stepped⟩ := Option.bind_eq_some_iff.mp stepped
  split at stepped
  · rename_i gone
    subst gone
    exact ⟨⟨id, handle, found⟩, (Option.some.inj stepped).symm⟩
  · cases stepped

theorem joinHog_cases {i : Nat} (stepped : process.joinHog ncpus i = some next) :
    next = process.hogLoop ncpus (i + 1) := by
  obtain ⟨handle, _, stepped⟩ := Option.bind_eq_some_iff.mp stepped
  obtain ⟨id, _, stepped⟩ := Option.bind_eq_some_iff.mp stepped
  obtain ⟨hog, _, stepped⟩ := Option.bind_eq_some_iff.mp stepped
  split at stepped
  · exact (Option.some.inj stepped).symm
  · cases stepped

theorem main_cases (stepped : process.main ncpus = some next) :
    (process.point = .reset ∧ next = { process with
        guarded := process.guarded.reset 0
        threads := []
        point := if 0 < pthreadCount then .create 0 else .check }) ∨
      (∃ i, process.point = .join i ∧ process.join i = some next) ∨
      (process.point = .check ∧ next = process.check) ∨
      (process.point = .stop ∧ next = { process with stopCpuHogs := true }.hogLoop ncpus 0) ∨
      (∃ i, process.point = .joinHog i ∧ next = process.hogLoop ncpus (i + 1)) := by
  unfold main at stepped
  split at stepped
  · rename_i here
    exact Or.inl ⟨here, (Option.some.inj stepped).symm⟩
  · rename_i i here
    exact Or.inr (Or.inl ⟨i, here, stepped⟩)
  · rename_i here
    exact Or.inr (Or.inr (Or.inl ⟨here, (Option.some.inj stepped).symm⟩))
  · rename_i here
    exact Or.inr (Or.inr (Or.inr (Or.inl ⟨here, (Option.some.inj stepped).symm⟩)))
  · rename_i i here
    exact Or.inr (Or.inr (Or.inr (Or.inr ⟨i, here, joinHog_cases stepped⟩)))
  · cases stepped

theorem worker_cases {index : Nat} (stepped : process.worker index = some next) :
    ∃ guarded, process.guarded.advance (· + 1) index = some guarded ∧
      next = { process with guarded := guarded } := by
  obtain ⟨guarded, advanced, rfl⟩ := Option.map_eq_some_iff.mp stepped
  exact ⟨guarded, advanced, rfl⟩

theorem hog_cases {index : Nat} (stepped : process.hog index = some next) :
    ∃ x, process.hogThreads[index]? = some (.spinning x) ∧
      next = { process with
        hogThreads := process.hogThreads.set index
          (if process.stopCpuHogs then .returned else .spinning (x + 1)) } := by
  unfold hog at stepped
  split at stepped
  · rename_i x found
    exact ⟨x, found, (Option.some.inj stepped).symm⟩
  · cases stepped

theorem act_of_step {event : Event} (stepped : (machine ncpus).step process event = some next) :
    process.exited = false ∧ process.act ncpus event = some next := by
  simp only [machine] at stepped
  split at stepped
  · cases stepped
  · rename_i running
    exact ⟨by simpa using running, stepped⟩

/-! The loops leave what they do not name as it was. -/

@[simp] theorem forkLoop_guarded (process : Process) (i failures : Nat) :
    (process.forkLoop i failures).guarded = process.guarded := by
  unfold forkLoop
  split <;> rfl

@[simp] theorem hogLoop_guarded (process : Process) (i : Nat) :
    (process.hogLoop ncpus i).guarded = process.guarded := by
  unfold hogLoop report
  split
  · rfl
  · split <;> rfl

@[simp] theorem check_guarded (process : Process) : process.check.guarded = process.guarded := by
  unfold check
  split <;> rfl

@[simp] theorem forkLoop_threads (process : Process) (i failures : Nat) :
    (process.forkLoop i failures).threads = process.threads := by
  unfold forkLoop
  split <;> rfl

@[simp] theorem hogLoop_threads (process : Process) (i : Nat) :
    (process.hogLoop ncpus i).threads = process.threads := by
  unfold hogLoop report
  split
  · rfl
  · split <;> rfl

@[simp] theorem check_threads (process : Process) : process.check.threads = process.threads := by
  unfold check
  split <;> rfl

theorem createHog_kept {created : Bool} (stepped : process.createHog ncpus created = some next) :
    next.threads = process.threads ∧ next.guarded = process.guarded := by
  unfold createHog at stepped
  split at stepped
  · cases created with
    | true =>
        cases Option.some.inj stepped
        exact ⟨rfl, rfl⟩
    | false =>
        cases Option.some.inj stepped
        exact ⟨rfl, rfl⟩
  · cases stepped

/-- The lock, the counter, the workers and their handles change in these ways
only. -/
theorem round_cases {event : Event} (stepped : process.act ncpus event = some next) :
    (next.threads = process.threads ∧ (next.guarded = process.guarded ∨
        ∃ index, process.guarded.advance (· + 1) index = some next.guarded)) ∨
      (next.threads = process.threads ++ [process.guarded.threads.length] ∧
        next.guarded = process.guarded.spawn) ∨
      (process.point = .reset ∧ next.threads = [] ∧ next.guarded = process.guarded.reset 0) := by
  cases event with
  | createHog created =>
      exact Or.inl ((createHog_kept stepped).imp_right Or.inl)
  | fork error =>
      obtain ⟨i, failures, _, ⟨_, rfl⟩ | ⟨text, _, rfl⟩⟩ := fork_cases stepped
      · exact Or.inl ⟨rfl, Or.inl rfl⟩
      · exact Or.inl ⟨forkLoop_threads .., Or.inl (forkLoop_guarded ..)⟩
  | waitpid result =>
      obtain ⟨i, failures, _, ⟨_, rfl⟩ | ⟨_, text, rfl⟩⟩ := waitpid_cases stepped
      · exact Or.inl ⟨forkLoop_threads .., Or.inl (forkLoop_guarded ..)⟩
      · exact Or.inl ⟨forkLoop_threads .., Or.inl (forkLoop_guarded ..)⟩
  | create created =>
      obtain ⟨i, _, ⟨_, rfl⟩ | ⟨_, text, rfl⟩⟩ := create_cases stepped
      · exact Or.inr (Or.inl ⟨rfl, rfl⟩)
      · exact Or.inl ⟨rfl, Or.inl rfl⟩
  | clock sec =>
      rcases clock_cases stepped with ⟨_, rfl⟩ | ⟨_, rfl⟩ | ⟨_, rfl⟩
      · exact Or.inl ⟨forkLoop_threads .., Or.inl (forkLoop_guarded ..)⟩
      · exact Or.inl ⟨forkLoop_threads .., Or.inl (forkLoop_guarded ..)⟩
      · exact Or.inl ⟨rfl, Or.inl rfl⟩
  | main =>
      rcases main_cases stepped with
        ⟨here, rfl⟩ | ⟨i, _, joined⟩ | ⟨_, rfl⟩ | ⟨_, rfl⟩ | ⟨i, _, rfl⟩
      · exact Or.inr (Or.inr ⟨here, rfl, rfl⟩)
      · rw [(join_cases joined).2]
        exact Or.inl ⟨rfl, Or.inl rfl⟩
      · exact Or.inl ⟨check_threads _, Or.inl (check_guarded _)⟩
      · exact Or.inl ⟨hogLoop_threads .., Or.inl (hogLoop_guarded ..)⟩
      · exact Or.inl ⟨hogLoop_threads .., Or.inl (hogLoop_guarded ..)⟩
  | worker index =>
      obtain ⟨guarded, advanced, rfl⟩ := worker_cases stepped
      exact Or.inl ⟨rfl, Or.inr ⟨index, advanced⟩⟩
  | hog index =>
      obtain ⟨x, _, rfl⟩ := hog_cases stepped
      exact Or.inl ⟨rfl, Or.inl rfl⟩

end Process

theorem exclusive_step {ncpus : Nat} {process next : Process} {event : Event}
    (exclusive : process.guarded.Exclusive)
    (stepped : process.act ncpus event = some next) : next.guarded.Exclusive := by
  rcases Process.round_cases stepped with
    ⟨_, same | ⟨index, advanced⟩⟩ | ⟨_, spawned⟩ | ⟨_, _, reset⟩
  · rw [same]
    exact exclusive
  · exact exclusive.advance _ _ index advanced
  · rw [spawned]
    exact exclusive.spawn
  · rw [reset]
    exact exclusive.reset 0

/-! ## The failures -/

/-- The failures of the round that `main` is in. -/
def Point.failures : Point → Nat
  | .fork _ failures | .waitpid _ failures => failures
  | _ => 0

theorem Point.failures_ite (cond : Prop) [Decidable cond] (first second : Point) :
    (if cond then first else second).failures =
      if cond then first.failures else second.failures :=
  apply_ite Point.failures cond first second

/-- The failures so far. -/
def Process.failed (process : Process) : Nat :=
  process.totalFailures + process.point.failures

namespace Process

@[simp] theorem failed_forkLoop (process : Process) (i failures : Nat) :
    (process.forkLoop i failures).failed = process.totalFailures + failures := by
  unfold forkLoop
  split <;> rfl

@[simp] theorem failed_pthreadReturn (process : Process) (result : Nat) :
    (process.pthreadReturn result).failed = process.totalFailures + result := rfl

@[simp] theorem failed_hogLoop (process : Process) (ncpus i : Nat) :
    (process.hogLoop ncpus i).failed = process.totalFailures := by
  unfold hogLoop report
  split
  · rfl
  · split <;> rfl

end Process

/-! ## The counter -/

/-- Where `main` is in a round none of whose calls has failed, and what it may
rely on there: `first` is the number of the workers of the earlier rounds. -/
def Accounted (process : Process) : Prop :=
  match process.point with
  | .create i =>
      i < pthreadCount ∧ ∃ first, process.threads = List.range' first i ∧
        first + i = process.guarded.threads.length ∧
        process.guarded.Intact (· + 1) first 0
  | .join i =>
      i < pthreadCount ∧ ∃ first, process.threads = List.range' first pthreadCount ∧
        first + pthreadCount = process.guarded.threads.length ∧
        process.guarded.Intact (· + 1) first 0 ∧
        ∀ index < first + i, process.guarded.threads[index]? = some .left
  | .check =>
      process.guarded.Finished ∧ ∃ first, first + pthreadCount = process.guarded.threads.length ∧
        process.guarded.Intact (· + 1) first 0
  | _ => process.guarded.Finished

theorem iterate_add_one (n : Nat) : (fun count : Int => count + 1)^[n] 0 = n := by
  induction n with
  | zero => rfl
  | succ n ih =>
      rw [Function.iterate_succ_apply', ih]
      exact (Nat.cast_succ n).symm

theorem accounted_forkLoop (process : Process) (finished : process.guarded.Finished)
    (i failures : Nat) : Accounted (process.forkLoop i failures) := by
  unfold Process.forkLoop
  split
  · exact finished
  · exact finished

theorem accounted_hogLoop (process : Process) (finished : process.guarded.Finished)
    (ncpus i : Nat) : Accounted (process.hogLoop ncpus i) := by
  unfold Process.hogLoop Process.report
  split
  · exact finished
  · split <;> exact finished

/-- All workers of the round have left: the last of them has just been joined. -/
theorem finished_of_joined {guarded : Guarded Int} {first : Nat}
    (counted : first + pthreadCount = guarded.threads.length)
    (joined : ∀ index < first + pthreadCount, guarded.threads[index]? = some .left) :
    guarded.Finished := by
  intro index phase found
  have within := (List.getElem?_eq_some_iff.mp found).1
  exact Option.some.inj (found.symm.trans (joined index (by omega)))

theorem check_of_accounted {process : Process} (here : process.point = .check)
    (accounted : Accounted process) : process.check = process.pthreadReturn 0 := by
  simp only [Accounted, here] at accounted
  obtain ⟨finished, first, counted, intact⟩ := accounted
  have exact_ := intact.value_of_left _ finished
  rw [iterate_add_one, ← counted, Nat.add_sub_cancel_left] at exact_
  simp only [Process.check, exact_, ne_eq, not_true_eq_false, if_false]

theorem accounted_worker {process : Process} {guarded : Guarded Int} {index : Nat}
    (exclusive : process.guarded.Exclusive) (accounted : Accounted process)
    (advanced : process.guarded.advance (· + 1) index = some guarded) :
    Accounted { process with guarded := guarded } := by
  have length := Guarded.length_advance (· + 1) process.guarded guarded index advanced
  have stuck : ¬ process.guarded.Finished := by
    intro finished
    rw [finished.not_advance (· + 1) index] at advanced
    cases advanced
  unfold Accounted at accounted ⊢
  dsimp only
  split at accounted
  · rename_i i here
    obtain ⟨within, first, threads, counted, intact⟩ := accounted
    exact ⟨within, first, threads, counted.trans length.symm,
      intact.advance _ _ exclusive index advanced⟩
  · rename_i i here
    obtain ⟨within, first, threads, counted, intact, joined⟩ := accounted
    refine ⟨within, first, threads, counted.trans length.symm,
      intact.advance _ _ exclusive index advanced, fun other before => ?_⟩
    exact Guarded.left_advance _ _ _ index other advanced (joined other before)
  · exact absurd accounted.1 stuck
  · exact absurd accounted stuck

theorem accounted_created {process : Process} {i : Nat} (here : process.point = .create i)
    (accounted : Accounted process) :
    Accounted { process with
      guarded := process.guarded.spawn
      threads := process.threads ++ [process.guarded.threads.length]
      point := if i + 1 < pthreadCount then .create (i + 1) else .join 0 } := by
  simp only [Accounted, here] at accounted
  obtain ⟨within, first, threads, counted, intact⟩ := accounted
  have more : process.threads ++ [process.guarded.threads.length] =
      List.range' first (i + 1) := by
    rw [threads, ← counted, List.range'_concat, Nat.one_mul]
  have length : first + (i + 1) = process.guarded.spawn.threads.length := by
    simp [Guarded.spawn, ← counted, Nat.add_assoc]
  by_cases again : i + 1 < pthreadCount
  · simp only [Accounted, if_pos again]
    exact ⟨again, first, more, length, intact.spawn⟩
  · have last : i + 1 = pthreadCount := by omega
    simp only [Accounted, if_neg again]
    refine ⟨by omega, first, last ▸ more, last ▸ length, intact.spawn, ?_⟩
    intro index before
    exact intact.spawn.earlier index before

/-- Workers are joined in the order of their creation. -/
theorem accounted_joined {process : Process} {i : Nat} (here : process.point = .join i)
    (accounted : Accounted process) (id : Nat) (handle : process.threads[i]? = some id)
    (gone : process.guarded.threads[id]? = some .left) :
    Accounted (process.goto (if i + 1 < pthreadCount then .join (i + 1) else .check)) := by
  simp only [Accounted, here] at accounted
  obtain ⟨within, first, threads, counted, intact, left⟩ := accounted
  have named : id = first + i := by
    rw [threads, List.getElem?_range' within, Nat.one_mul] at handle
    exact (Option.some.inj handle).symm
  have left' : ∀ index < first + (i + 1), process.guarded.threads[index]? = some .left := by
    intro index before
    rcases Nat.lt_or_ge index (first + i) with earlier | late
    · exact left index earlier
    · have same : index = id := by omega
      rw [same]
      exact gone
  by_cases again : i + 1 < pthreadCount
  · simp only [Accounted, Process.goto, if_pos again]
    exact ⟨again, first, threads, counted, intact, left'⟩
  · have last : i + 1 = pthreadCount := by omega
    simp only [Accounted, Process.goto, if_neg again]
    exact ⟨finished_of_joined counted (last ▸ left'), first, counted, intact⟩

/-- While no failure has been counted, every step keeps the account. -/
theorem accounted_step {ncpus : Nat} {process next : Process} {event : Event}
    (exclusive : process.guarded.Exclusive) (accounted : Accounted process)
    (succeeds : event.succeeds = true)
    (stepped : process.act ncpus event = some next) : Accounted next := by
  cases event with
  | createHog created =>
      obtain ⟨i, here, point, same, _⟩ := Process.createHog_cases stepped
      simp only [Accounted, here] at accounted
      rw [← same] at accounted
      by_cases again : i + 1 < ncpus
      · rw [if_pos again] at point
        simp only [Accounted, point]
        exact accounted
      · rw [if_neg again] at point
        simp only [Accounted, point]
        exact accounted
  | fork error =>
      obtain ⟨i, failures, here, ⟨_, rfl⟩ | ⟨text, rfl, rfl⟩⟩ := Process.fork_cases stepped
      · simp only [Accounted, here] at accounted
        exact accounted
      · cases succeeds
  | waitpid result =>
      obtain ⟨i, failures, here, ⟨_, rfl⟩ | ⟨bad, _⟩⟩ := Process.waitpid_cases stepped
      · simp only [Accounted, here] at accounted
        exact accounted_forkLoop _ accounted _ _
      · rw [bad] at succeeds
        cases succeeds
  | create created =>
      obtain ⟨i, here, ⟨_, rfl⟩ | ⟨rfl, _⟩⟩ := Process.create_cases stepped
      · exact accounted_created here accounted
      · cases succeeds
  | clock sec =>
      rcases Process.clock_cases stepped with ⟨here, rfl⟩ | ⟨here, rfl⟩ | ⟨here, rfl⟩
      · simp only [Accounted, here] at accounted
        exact accounted_forkLoop { process with started := sec } accounted 0 0
      · simp only [Accounted, here] at accounted
        exact accounted_forkLoop process accounted 0 0
      · simp only [Accounted, here] at accounted
        exact accounted
  | main =>
      rcases Process.main_cases stepped with
        ⟨here, rfl⟩ | ⟨i, here, joined⟩ | ⟨here, rfl⟩ | ⟨here, rfl⟩ | ⟨i, here, rfl⟩
      · simp only [Accounted, here] at accounted
        have some : 0 < pthreadCount := by decide
        simp only [Accounted, if_pos some]
        exact ⟨some, process.guarded.threads.length, rfl, rfl,
          Guarded.intact_reset (· + 1) 0 accounted⟩
      · obtain ⟨⟨id, handle, gone⟩, rfl⟩ := Process.join_cases joined
        exact accounted_joined here accounted id handle gone
      · rw [check_of_accounted here accounted]
        simp only [Accounted, here] at accounted
        exact accounted.1
      · simp only [Accounted, here] at accounted
        exact accounted_hogLoop { process with stopCpuHogs := true } accounted ncpus 0
      · simp only [Accounted, here] at accounted
        exact accounted_hogLoop process accounted ncpus (i + 1)
  | worker index =>
      obtain ⟨guarded, advanced, rfl⟩ := Process.worker_cases stepped
      exact accounted_worker exclusive accounted advanced
  | hog index =>
      obtain ⟨x, _, rfl⟩ := Process.hog_cases stepped
      exact accounted

/-- The counter holds one increment for each worker of the round, the last one
between two rounds, that has written its own back. -/
def Counted (process : Process) : Prop :=
  ∃ first, first + process.threads.length = process.guarded.threads.length ∧
    process.guarded.Intact (· + 1) first 0

theorem Counted.value {process : Process} (counted : Counted process) :
    process.guarded.value = process.guarded.updates
      (process.guarded.threads.length - process.threads.length) := by
  obtain ⟨first, length, intact⟩ := counted
  rw [intact.value, iterate_add_one, ← length, Nat.add_sub_cancel]

theorem counted_start (ncpus : Nat) : Counted (Process.start ncpus) := by
  have nobody : (Process.start ncpus).guarded.Finished := fun _ _ found => (nomatch found)
  exact ⟨0, rfl, Guarded.intact_reset (· + 1) 0 nobody⟩

/-- The counter is written from outside only when all workers are gone. -/
theorem counted_step {ncpus : Nat} {process next : Process} {event : Event}
    (exclusive : process.guarded.Exclusive) (accounted : Accounted process)
    (counted : Counted process)
    (stepped : process.act ncpus event = some next) : Counted next := by
  obtain ⟨first, length, intact⟩ := counted
  rcases Process.round_cases stepped with
    ⟨threads, same | ⟨index, advanced⟩⟩ | ⟨threads, spawned⟩ | ⟨here, threads, reset⟩
  · refine ⟨first, ?_, ?_⟩
    · rw [threads, same, length]
    · rw [same]
      exact intact
  · refine ⟨first, ?_, intact.advance _ _ exclusive index advanced⟩
    rw [threads, length, Guarded.length_advance (· + 1) _ _ index advanced]
  · refine ⟨first, ?_, ?_⟩
    · rw [threads, spawned, List.length_append, ← Nat.add_assoc, length]
      simp only [Guarded.spawn, List.length_append, List.length_singleton]
    · rw [spawned]
      exact intact.spawn
  · have finished : process.guarded.Finished := by
      simpa only [Accounted, here] using accounted
    refine ⟨process.guarded.threads.length, ?_, ?_⟩
    · rw [threads, reset]
      rfl
    · rw [reset]
      exact Guarded.intact_reset (· + 1) 0 finished

/-- A step counts a failure when its call went wrong, and otherwise none as
long as the account is in order. -/
theorem failed_step {ncpus : Nat} {process next : Process} {event : Event}
    (stepped : process.act ncpus event = some next) :
    (event.succeeds = false → process.failed < next.failed) ∧
      (event.succeeds = true → Accounted process → next.failed = process.failed) ∧
      process.failed ≤ next.failed := by
  cases event with
  | createHog created =>
      obtain ⟨i, here, point, _, total, _⟩ := Process.createHog_cases stepped
      have same : next.failed = process.failed := by
        rw [Process.failed, point, total, Point.failures_ite, Process.failed, here]
        simp only [Point.failures, ite_self]
      exact ⟨fun bad => (nomatch bad), fun _ _ => same, same.ge⟩
  | fork error =>
      obtain ⟨i, failures, here, ⟨rfl, rfl⟩ | ⟨text, rfl, rfl⟩⟩ := Process.fork_cases stepped
      · have same : (process.goto (.waitpid i failures)).failed = process.failed := by
          simp only [Process.failed, Process.goto, here, Point.failures]
        exact ⟨fun bad => (nomatch bad), fun _ _ => same, same.ge⟩
      · rw [Process.failed_forkLoop]
        simp only [Process.failed, Process.complain, here, Point.failures]
        exact ⟨fun _ => by omega, fun good => (nomatch good), by omega⟩
  | waitpid result =>
      obtain ⟨i, failures, here, ⟨good, rfl⟩ | ⟨bad, text, rfl⟩⟩ := Process.waitpid_cases stepped
      · rw [Process.failed_forkLoop]
        simp only [Process.failed, here, Point.failures]
        exact ⟨fun bad => absurd (good.symm.trans bad) (by simp), fun _ _ => trivial, le_refl _⟩
      · rw [Process.failed_forkLoop]
        simp only [Process.failed, Process.complain, here, Point.failures]
        exact ⟨fun _ => by omega, fun good => absurd (good.symm.trans bad) (by simp), by omega⟩
  | create created =>
      obtain ⟨i, here, ⟨rfl, rfl⟩ | ⟨rfl, text, rfl⟩⟩ := Process.create_cases stepped
      · simp only [Process.failed, Point.failures_ite, here]
        simp only [Point.failures, ite_self]
        exact ⟨fun bad => (nomatch bad), fun _ _ => trivial, le_refl _⟩
      · rw [Process.failed_pthreadReturn]
        simp only [Process.failed, Process.complain, here, Point.failures]
        exact ⟨fun _ => by omega, fun good => (nomatch good), by omega⟩
  | clock sec =>
      have same : next.failed = process.failed := by
        rcases Process.clock_cases stepped with ⟨here, rfl⟩ | ⟨here, rfl⟩ | ⟨here, rfl⟩
        · rw [Process.failed_forkLoop]
          simp only [Process.failed, here, Point.failures]
        · rw [Process.failed_forkLoop]
          simp only [Process.failed, here, Point.failures]
        · simp only [Process.failed, Process.goto, here, Point.failures]
      exact ⟨fun bad => (nomatch bad), fun _ _ => same, same.ge⟩
  | main =>
      refine ⟨fun bad => (nomatch bad), ?_⟩
      rcases Process.main_cases stepped with
        ⟨here, rfl⟩ | ⟨i, here, joined⟩ | ⟨here, rfl⟩ | ⟨here, rfl⟩ | ⟨i, here, rfl⟩
      · simp only [Process.failed, Point.failures_ite, here]
        simp only [Point.failures, ite_self]
        exact ⟨fun _ _ => trivial, le_refl _⟩
      · rw [(Process.join_cases joined).2]
        simp only [Process.failed, Process.goto, Point.failures_ite, here]
        simp only [Point.failures, ite_self]
        exact ⟨fun _ _ => trivial, le_refl _⟩
      · refine ⟨fun _ accounted => ?_, ?_⟩
        · rw [check_of_accounted here accounted, Process.failed_pthreadReturn]
          simp only [Process.failed, here, Point.failures]
        · unfold Process.check
          split
          · rw [Process.failed_pthreadReturn]
            simp only [Process.failed, Process.complain, here, Point.failures]
            omega
          · rw [Process.failed_pthreadReturn]
            simp only [Process.failed, here, Point.failures]
            omega
      · rw [Process.failed_hogLoop]
        simp only [Process.failed, here, Point.failures]
        exact ⟨fun _ _ => rfl, le_refl _⟩
      · rw [Process.failed_hogLoop]
        simp only [Process.failed, here, Point.failures]
        exact ⟨fun _ _ => rfl, le_refl _⟩
  | worker index =>
      obtain ⟨guarded, _, rfl⟩ := Process.worker_cases stepped
      exact ⟨fun bad => (nomatch bad), fun _ _ => rfl, le_refl _⟩
  | hog index =>
      obtain ⟨x, _, rfl⟩ := Process.hog_cases stepped
      exact ⟨fun bad => (nomatch bad), fun _ _ => rfl, le_refl _⟩

/-! ## The verdict -/

def passed : String := "stress_test: RESULT=PASS"

def failed : String := "stress_test: RESULT=FAIL"

/-- The verdict is in the exit code and in the last line. -/
def Concluded (process : Process) : Prop :=
  ∀ code, process.point = .exited code →
    if process.totalFailures = 0 then code = 0 ∧ process.stdout.getLast? = some passed
    else code = 1 ∧ process.stdout.getLast? = some failed

theorem concluded_report (process : Process) : Concluded process.report := by
  unfold Process.report
  split
  · rename_i bad
    intro code ended
    rw [if_neg]
    · exact ⟨(Point.exited.inj ended).symm, List.getLast?_concat⟩
    · exact Nat.pos_iff_ne_zero.mp bad
  · rename_i good
    intro code ended
    rw [if_pos]
    · exact ⟨(Point.exited.inj ended).symm, List.getLast?_concat⟩
    · exact Nat.eq_zero_of_not_pos good

theorem concluded_hogLoop (process : Process) (ncpus i : Nat) :
    Concluded (process.hogLoop ncpus i) := by
  unfold Process.hogLoop
  split
  · exact fun code ended => nomatch ended
  · exact concluded_report process

theorem forkLoop_point (process : Process) (i failures : Nat) :
    (process.forkLoop i failures).point = .fork i failures ∨
      (process.forkLoop i failures).point = .reset := by
  unfold Process.forkLoop
  split
  · exact Or.inl rfl
  · exact Or.inr rfl

theorem concluded_forkLoop (process : Process) (i failures : Nat) :
    Concluded (process.forkLoop i failures) := by
  intro code ended
  rcases forkLoop_point process i failures with point | point
  · cases point.symm.trans ended
  · cases point.symm.trans ended

/-- Only the last join of a hog ends the process. -/
theorem concluded_step {ncpus : Nat} {process next : Process} {event : Event}
    (running : process.exited = false)
    (stepped : process.act ncpus event = some next) : Concluded next := by
  have still : ∀ code, process.point ≠ .exited code := by
    intro code ended
    simp only [Process.exited, ended, Bool.true_eq_false] at running
  cases event with
  | createHog created =>
      obtain ⟨i, _, point, _⟩ := Process.createHog_cases stepped
      intro code ended
      rw [point] at ended
      split at ended <;> cases ended
  | fork error =>
      obtain ⟨i, failures, _, ⟨_, rfl⟩ | ⟨text, _, rfl⟩⟩ := Process.fork_cases stepped
      · exact fun code ended => nomatch ended
      · exact concluded_forkLoop _ _ _
  | waitpid result =>
      obtain ⟨i, failures, _, ⟨_, rfl⟩ | ⟨_, text, rfl⟩⟩ := Process.waitpid_cases stepped
      · exact concluded_forkLoop _ _ _
      · exact concluded_forkLoop _ _ _
  | create created =>
      obtain ⟨i, _, ⟨_, rfl⟩ | ⟨_, text, rfl⟩⟩ := Process.create_cases stepped
      · intro code ended
        dsimp only at ended
        split at ended <;> cases ended
      · exact fun code ended => nomatch ended
  | clock sec =>
      rcases Process.clock_cases stepped with ⟨_, rfl⟩ | ⟨_, rfl⟩ | ⟨_, rfl⟩
      · exact concluded_forkLoop _ _ _
      · exact concluded_forkLoop _ _ _
      · exact fun code ended => nomatch ended
  | main =>
      rcases Process.main_cases stepped with
        ⟨_, rfl⟩ | ⟨i, _, joined⟩ | ⟨_, rfl⟩ | ⟨_, rfl⟩ | ⟨i, _, rfl⟩
      · intro code ended
        dsimp only at ended
        split at ended <;> cases ended
      · rw [(Process.join_cases joined).2]
        intro code ended
        simp only [Process.goto] at ended
        split at ended <;> cases ended
      · intro code ended
        unfold Process.check at ended
        split at ended <;> cases ended
      · exact concluded_hogLoop _ _ _
      · exact concluded_hogLoop _ _ _
  | worker index =>
      obtain ⟨guarded, _, rfl⟩ := Process.worker_cases stepped
      exact fun code ended => absurd ended (still code)
  | hog index =>
      obtain ⟨x, _, rfl⟩ := Process.hog_cases stepped
      exact fun code ended => absurd ended (still code)

/-- What a run keeps: nobody is inside twice, failures are counted when and
only when a call went wrong, and until then the counter is accounted for. -/
structure Ledger (events : List Event) (process : Process) : Prop where
  exclusive : process.guarded.Exclusive
  accounted : process.failed = 0 → Accounted process
  value : process.failed = 0 → Counted process
  counted : process.failed = 0 ↔ ∀ event ∈ events, event.succeeds = true
  concluded : Concluded process

theorem ledger_start (ncpus : Nat) : Ledger [] (Process.start ncpus) := by
  refine ⟨Guarded.exclusive_start 0, fun _ => ?_, fun _ => counted_start ncpus,
    ⟨fun _ _ member => ?_, fun _ => ?_⟩, ?_⟩
  · have nobody : (Process.start ncpus).guarded.Finished := fun _ _ found => (nomatch found)
    by_cases some : 0 < ncpus
    · simpa only [Accounted, Process.start, if_pos some] using nobody
    · simpa only [Accounted, Process.start, if_neg some] using nobody
  · cases member
  · simp only [Process.failed, Process.start, Point.failures_ite]
    simp only [Point.failures, ite_self]
  · intro code ended
    simp only [Process.start] at ended
    split at ended <;> cases ended

theorem ledger_step {ncpus : Nat} {events : List Event} {process next : Process} {event : Event}
    (ledger : Ledger events process)
    (stepped : (machine ncpus).step process event = some next) :
    Ledger (events ++ [event]) next := by
  obtain ⟨running, stepped⟩ := Process.act_of_step stepped
  obtain ⟨bad, good, grows⟩ := failed_step stepped
  have before : next.failed = 0 → process.failed = 0 := by omega
  have fine : next.failed = 0 → event.succeeds = true := by
    intro none_
    by_contra wrong
    have := bad (by simpa using wrong)
    omega
  refine ⟨exclusive_step ledger.exclusive stepped, fun none_ => ?_, fun none_ => ?_, ?_,
    concluded_step running stepped⟩
  · exact accounted_step ledger.exclusive (ledger.accounted (before none_)) (fine none_) stepped
  · exact counted_step ledger.exclusive (ledger.accounted (before none_))
      (ledger.value (before none_)) stepped
  · simp only [List.forall_mem_append, List.forall_mem_singleton]
    constructor
    · intro none_
      exact ⟨ledger.counted.mp (before none_), fine none_⟩
    · rintro ⟨earlier, now⟩
      have none_ := ledger.counted.mpr earlier
      rw [good now (ledger.accounted none_), none_]

theorem ledger_of_run (ncpus : Nat) (events : List Event) (process : Process)
    (run : (machine ncpus).exec events (Process.start ncpus) = some process) :
    Ledger events process :=
  (machine ncpus).history Ledger (Process.start ncpus) (ledger_start ncpus)
    (fun _ _ _ _ _ ledger stepped => ledger_step ledger stepped) events process run

/-- However the threads take turns, the test passes when it ends if and only
if no call that it watches went wrong. -/
theorem verdict_iff (ncpus : Nat) (events : List Event) (process : Process) (code : Nat)
    (run : (machine ncpus).exec events (Process.start ncpus) = some process)
    (ended : process.point = .exited code) :
    ((∀ event ∈ events, event.succeeds = true) →
        code = 0 ∧ process.stdout.getLast? = some passed) ∧
      ((∃ event ∈ events, event.succeeds = false) →
        code = 1 ∧ process.stdout.getLast? = some failed) := by
  have ledger := ledger_of_run ncpus events process run
  have total : process.failed = process.totalFailures := by
    simp only [Process.failed, ended, Point.failures, Nat.add_zero]
  have concluded := ledger.concluded code ended
  constructor
  · intro fine
    rwa [if_pos (total.symm.trans (ledger.counted.mpr fine))] at concluded
  · rintro ⟨event, member, wrong⟩
    rw [if_neg] at concluded
    · exact concluded
    · intro none_
      have fine := ledger.counted.mp (total.trans none_) event member
      rw [wrong] at fine
      cases fine

/-- In every state at most one worker is between the lock and the unlock, and
as long as no call went wrong the counter is the number of the workers of the
round, the last one between two rounds, that have written their increment
back. -/
theorem counter_exact (ncpus : Nat) (events : List Event) (process : Process)
    (run : (machine ncpus).exec events (Process.start ncpus) = some process) :
    (∀ (first second : Nat) (one other : Phase Int),
        process.guarded.threads[first]? = some one →
        process.guarded.threads[second]? = some other →
        one.inside = true → other.inside = true → first = second) ∧
      ((∀ event ∈ events, event.succeeds = true) →
        process.guarded.value = process.guarded.updates
          (process.guarded.threads.length - process.threads.length)) := by
  have ledger := ledger_of_run ncpus events process run
  exact ⟨ledger.exclusive.unique, fun fine => (ledger.value (ledger.counted.mpr fine)).value⟩

/-- The status of a child that has called `_exit(42)`. -/
def exited42 : Status := 0x2a00#32

/-- A first `fork_stress`, and the first worker up to its increment. -/
def firstIncrement : List Event :=
  [.createHog true, .clock 0] ++
    (List.replicate 100 [.fork none, .waitpid (.ok exited42)]).flatten ++
    [.main, .create true, .worker 0, .worker 0, .worker 0]

theorem firstIncrement_runs :
    ((machine 1).exec firstIncrement (Process.start 1)).isSome = true := by
  decide +kernel

theorem counter_exact_firstIncrement : ∃ process,
    (machine 1).exec firstIncrement (Process.start 1) = some process ∧
      process.guarded.value =
        process.guarded.updates (process.guarded.threads.length - process.threads.length) := by
  obtain ⟨process, run⟩ := Option.isSome_iff_exists.mp firstIncrement_runs
  have fine : ∀ event ∈ firstIncrement, event.succeeds = true := by decide +kernel
  exact ⟨process, run, (counter_exact 1 firstIncrement process run).2 fine⟩

end KernelSprint.StressTest

import Mathlib.Order.Basic

/-!
# The POSIX validator

The parent's side of `posix_validation.c`, over every way its system calls can
come out.  A call that fails leaves the status variable as it was.
-/

set_option autoImplicit false

namespace KernelSprint.PosixValidation

/-! ## What the calls return -/

abbrev Status := BitVec 32

/-- `WIFEXITED` -/
def wifexited (status : Status) : Bool := status &&& 0x7f#32 == 0#32

/-- `WEXITSTATUS` -/
def wexitstatus (status : Status) : Nat := ((status &&& 0xff00#32) >>> 8).toNat

/-- `WTERMSIG` -/
def wtermsig (status : Status) : Nat := (status &&& 0x7f#32).toNat

/-- `WIFSIGNALED`; as a `signed char` the mark of a stopped child is negative. -/
def wifsignaled (status : Status) : Bool :=
  (0#8).slt ((((status &&& 0x7f#32) + 1#32).setWidth 8).sshiftRight 1)

structure Pid where
  value : Int
  positive : 0 < value
  deriving DecidableEq

/-- How the calls of one test come out; `unwritten` is what the memory of its
status variable holds. -/
structure Outcome where
  fork : Option Pid
  waited : Option (Pid × Status)
  unwritten : Status

namespace Outcome

variable (outcome : Outcome)

/-- The value of `fork()` in the parent. -/
def pid : Int :=
  match outcome.fork with
  | some pid => pid.value
  | none => -1

/-- The value of `wait(&status)`. -/
def waitedPid : Int :=
  match outcome.waited with
  | some (pid, _) => pid.value
  | none => -1

/-- The status variable after the call. -/
def status (before : Status) : Status :=
  match outcome.waited with
  | some (_, status) => status
  | none => before

end Outcome

/-! ## The tests -/

inductive Test where
  | fork
  | wait
  | exec
  | sigterm
  | sigkill
  deriving DecidableEq

inductive Line where
  | check (cond : Bool) (name : String)
  | failures (count : Nat)
  | result (pass : Bool)
  deriving DecidableEq

def Line.text : Line → String
  | .check cond name => (if cond then "PASS" else "FAIL") ++ ": " ++ name
  | .failures count => "posix_validation: " ++ toString count ++ " failures"
  | .result pass => "posix_validation: RESULT=" ++ if pass then "PASS" else "FAIL"

structure Kill where
  test : Test
  target : Int
  signal : Nat
  deriving DecidableEq

structure Run where
  failures : Nat
  lines : List Line
  kills : List Kill
  deriving DecidableEq

def Run.start : Run := ⟨0, [], []⟩

def Run.check (cond : Bool) (name : String) (run : Run) : Run :=
  { run with
    failures := if cond then run.failures else run.failures + 1
    lines := run.lines ++ [.check cond name] }

def Run.kill (test : Test) (target : Int) (signal : Nat) (run : Run) : Run :=
  { run with kills := run.kills ++ [⟨test, target, signal⟩] }

/-- What `waitpid` returns is not looked at. -/
def testFork (outcome : Outcome) (run : Run) : Run :=
  match outcome.fork with
  | none => run.check false "fork: fork() succeeded"
  | some pid => run.check (0 < pid.value) "fork: parent received positive child PID"

def testWait (outcome : Outcome) (run : Run) : Run :=
  let status := outcome.status 0
  (run.check (outcome.waitedPid == outcome.pid)
    "wait: wait() returned the correct child PID").check
    (wifexited status && wexitstatus status == 77)
    "wait: exit status correctly propagated (77)"

def testExec (outcome : Outcome) (run : Run) : Run :=
  let status := outcome.status outcome.unwritten
  run.check (wifexited status && wexitstatus status == 0)
    "exec: execve() replaced the process image and ran to completion"

/-- The two tests that signal their child. -/
def testSignal (test : Test) (signal : Nat) (name : String) (outcome : Outcome) (run : Run) :
    Run :=
  let status := outcome.status outcome.unwritten
  (run.kill test outcome.pid signal).check
    (wifsignaled status && wtermsig status == signal) name

def sigtermNumber : Nat := 15

def sigkillNumber : Nat := 9

def testSigterm : Outcome → Run → Run :=
  testSignal .sigterm sigtermNumber
    "signals: SIGTERM terminated the child with the correct signal"

def testSigkill : Outcome → Run → Run :=
  testSignal .sigkill sigkillNumber "signals: SIGKILL terminated the child unconditionally"

/-- The five tests of `main`. -/
def runTests (outcome : Test → Outcome) : Run :=
  testSigkill (outcome .sigkill) (testSigterm (outcome .sigterm) (testExec (outcome .exec)
    (testWait (outcome .wait) (testFork (outcome .fork) .start))))

/-- The run with its last two lines, and the exit status. -/
def main (outcome : Test → Outcome) : Run × Nat :=
  let run := runTests outcome
  ({ run with
      lines := run.lines ++ [.failures run.failures, .result (run.failures == 0)] },
    if run.failures = 0 then 0 else 1)

/-! ## Soundness -/

def Exited (code : Nat) (status : Status) : Prop :=
  wifexited status = true ∧ wexitstatus status = code

def Killed (signal : Nat) (status : Status) : Prop :=
  wifsignaled status = true ∧ wtermsig status = signal

/-- The child that was forked was waited for, and ended so. -/
def Reaped (outcome : Outcome) (ended : Status → Prop) : Prop :=
  ∃ pid status, outcome.fork = some pid ∧ outcome.waited = some (pid, status) ∧ ended status

structure Vouched (outcome : Test → Outcome) : Prop where
  fork : Reaped (outcome .fork) fun _ => True
  wait : Reaped (outcome .wait) (Exited 77)
  exec : Reaped (outcome .exec) (Exited 0)
  sigterm : Reaped (outcome .sigterm) (Killed sigtermNumber)
  sigkill : Reaped (outcome .sigkill) (Killed sigkillNumber)

def Passed (outcome : Test → Outcome) : Prop :=
  "posix_validation: RESULT=PASS" ∈ (main outcome).1.lines.map Line.text ∧
    (main outcome).2 = 0

/-- Every signal goes to the child that the same test has forked. -/
def Harmless (outcome : Test → Outcome) : Prop :=
  ∀ kill ∈ (main outcome).1.kills,
    ∃ pid, (outcome kill.test).fork = some pid ∧ kill.target = pid.value

def Sound (outcome : Test → Outcome) : Prop := Passed outcome → Vouched outcome

/-! ## What the checks see -/

@[simp] theorem check_failures (cond : Bool) (name : String) (run : Run) :
    (run.check cond name).failures = 0 ↔ run.failures = 0 ∧ cond = true := by
  unfold Run.check
  cases cond <;> simp

@[simp] theorem kill_failures (test : Test) (target : Int) (signal : Nat) (run : Run) :
    (run.kill test target signal).failures = run.failures := rfl

@[simp] theorem check_kills (cond : Bool) (name : String) (run : Run) :
    (run.check cond name).kills = run.kills := rfl

@[simp] theorem kill_kills (test : Test) (target : Int) (signal : Nat) (run : Run) :
    (run.kill test target signal).kills = run.kills ++ [⟨test, target, signal⟩] := rfl

/-- The status variable of a test that does not initialise it. -/
def seen (outcome : Outcome) : Status := outcome.status outcome.unwritten

theorem testFork_failures (outcome : Outcome) (run : Run) :
    (testFork outcome run).failures = 0 ↔ run.failures = 0 ∧ outcome.fork.isSome := by
  unfold testFork
  cases forked : outcome.fork with
  | none => simp
  | some pid => simp [pid.positive]

/-- An untouched status is no exit with 77, so a failed `wait` is noticed even
where the fork failed as well. -/
theorem waited_iff (outcome : Outcome) :
    outcome.waitedPid = outcome.pid ∧ Exited 77 (outcome.status 0) ↔
      Reaped outcome (Exited 77) := by
  unfold Outcome.waitedPid Outcome.pid Outcome.status Reaped
  cases waited : outcome.waited with
  | none =>
      constructor
      · rintro ⟨_, _, exited⟩
        exact absurd exited (by decide)
      · rintro ⟨_, _, _, reaped, _⟩
        cases reaped
  | some child =>
      obtain ⟨⟨value, positive⟩, status⟩ := child
      cases forked : outcome.fork with
      | none =>
          constructor
          · rintro ⟨same, _⟩
            simp only at same
            omega
          · rintro ⟨_, _, forked, _⟩
            cases forked
      | some pid =>
          obtain ⟨number, numbered⟩ := pid
          constructor
          · rintro ⟨same, exited⟩
            simp only at same
            subst same
            exact ⟨_, status, rfl, rfl, exited⟩
          · rintro ⟨_, _, forked, reaped, exited⟩
            cases forked
            cases reaped
            exact ⟨rfl, exited⟩

theorem testWait_failures (outcome : Outcome) (run : Run) :
    (testWait outcome run).failures = 0 ↔ run.failures = 0 ∧ Reaped outcome (Exited 77) := by
  rw [← waited_iff]
  simp [testWait, Exited, and_assoc]

theorem testExec_failures (outcome : Outcome) (run : Run) :
    (testExec outcome run).failures = 0 ↔ run.failures = 0 ∧ Exited 0 (seen outcome) := by
  simp [testExec, Exited, seen]

theorem testSignal_failures (test : Test) (signal : Nat) (name : String) (outcome : Outcome)
    (run : Run) :
    (testSignal test signal name outcome run).failures = 0 ↔
      run.failures = 0 ∧ Killed signal (seen outcome) := by
  simp [testSignal, Killed, seen]

/-- What makes every check pass. -/
structure ChecksPass (outcome : Test → Outcome) : Prop where
  forked : (outcome .fork).fork.isSome
  waited : Reaped (outcome .wait) (Exited 77)
  exec : Exited 0 (seen (outcome .exec))
  sigterm : Killed sigtermNumber (seen (outcome .sigterm))
  sigkill : Killed sigkillNumber (seen (outcome .sigkill))

theorem runTests_failures (outcome : Test → Outcome) :
    (runTests outcome).failures = 0 ↔ ChecksPass outcome := by
  unfold runTests testSigkill testSigterm
  rw [testSignal_failures, testSignal_failures, testExec_failures, testWait_failures,
    testFork_failures]
  constructor
  · rintro ⟨⟨⟨⟨⟨_, forked⟩, waited⟩, exec⟩, sigterm⟩, sigkill⟩
    exact ⟨forked, waited, exec, sigterm, sigkill⟩
  · intro passes
    exact ⟨⟨⟨⟨⟨rfl, passes.forked⟩, passes.waited⟩, passes.exec⟩, passes.sigterm⟩, passes.sigkill⟩

theorem passed_iff (outcome : Test → Outcome) : Passed outcome ↔ ChecksPass outcome := by
  rw [← runTests_failures]
  unfold Passed
  by_cases clean : (runTests outcome).failures = 0
  · have printed : Line.result true ∈ (main outcome).1.lines := by simp [main, clean]
    have exit : (main outcome).2 = 0 := by simp [main, clean]
    exact iff_of_true ⟨List.mem_map.mpr ⟨_, printed, rfl⟩, exit⟩ clean
  · have exit : (main outcome).2 ≠ 0 := by simp [main, clean]
    exact iff_of_false (fun passed => exit passed.2) clean

theorem main_kills (outcome : Test → Outcome) :
    (main outcome).1.kills =
      [⟨.sigterm, (outcome .sigterm).pid, sigtermNumber⟩,
        ⟨.sigkill, (outcome .sigkill).pid, sigkillNumber⟩] := by
  have first : (testFork (outcome .fork) .start).kills = [] := by
    unfold testFork
    cases (outcome .fork).fork <;> rfl
  simp [main, runTests, testSigkill, testSigterm, testSignal, testExec, testWait, first]

theorem pid_forked (outcome : Outcome) :
    (∃ pid, outcome.fork = some pid ∧ outcome.pid = pid.value) ↔ outcome.fork.isSome := by
  unfold Outcome.pid
  cases outcome.fork <;> simp

theorem harmless_iff (outcome : Test → Outcome) :
    Harmless outcome ↔ (outcome .sigterm).fork.isSome ∧ (outcome .sigkill).fork.isSome := by
  unfold Harmless
  rw [main_kills, ← pid_forked, ← pid_forked]
  simp

/-- The children whose return from `waitpid` the tests do not look at. -/
structure ChildrenReaped (outcome : Test → Outcome) : Prop where
  fork : Reaped (outcome .fork) fun _ => True
  exec : Reaped (outcome .exec) fun _ => True
  sigterm : Reaped (outcome .sigterm) fun _ => True
  sigkill : Reaped (outcome .sigkill) fun _ => True

theorem reaped_seen (outcome : Outcome) (ended : Status → Prop)
    (reaped : Reaped outcome fun _ => True) (sees : ended (seen outcome)) :
    Reaped outcome ended := by
  obtain ⟨pid, status, forked, waited, _⟩ := reaped
  refine ⟨pid, status, forked, waited, ?_⟩
  rwa [seen, Outcome.status, waited] at sees

theorem Reaped.any {outcome : Outcome} {ended : Status → Prop} (reaped : Reaped outcome ended) :
    Reaped outcome fun _ => True := by
  obtain ⟨pid, status, forked, waited, _⟩ := reaped
  exact ⟨pid, status, forked, waited, trivial⟩

theorem sound_iff (outcome : Test → Outcome) :
    Sound outcome ↔ ChildrenReaped outcome ∨ ¬ ChecksPass outcome := by
  unfold Sound
  rw [passed_iff]
  constructor
  · intro sound
    by_cases passes : ChecksPass outcome
    · have vouched := sound passes
      exact Or.inl ⟨vouched.fork, vouched.exec.any, vouched.sigterm.any, vouched.sigkill.any⟩
    · exact Or.inr passes
  · rintro (children | fails) passes
    · exact {
        fork := children.fork
        wait := passes.waited
        exec := reaped_seen _ _ children.exec passes.exec
        sigterm := reaped_seen _ _ children.sigterm passes.sigterm
        sigkill := reaped_seen _ _ children.sigkill passes.sigkill }
    · exact absurd passes fails

/-- The validator signals no stranger exactly when the last two forks succeed,
and its PASS is warranted exactly when no unchecked wait has gone wrong or
some check fails. -/
theorem validator_sound_iff (outcome : Test → Outcome) :
    Harmless outcome ∧ Sound outcome ↔
      ((outcome .sigterm).fork.isSome ∧ (outcome .sigkill).fork.isSome) ∧
        (ChildrenReaped outcome ∨ ¬ ChecksPass outcome) :=
  and_congr (harmless_iff outcome) (sound_iff outcome)

/-! ## Failing calls -/

/-- All goes well but the fork of the SIGTERM test. -/
def forkRefused : Test → Outcome
  | .fork => ⟨some ⟨100, by decide⟩, some (⟨100, by decide⟩, 0), 0⟩
  | .wait => ⟨some ⟨101, by decide⟩, some (⟨101, by decide⟩, 0x4d00), 0⟩
  | .exec => ⟨some ⟨102, by decide⟩, some (⟨102, by decide⟩, 0), 0⟩
  | .sigterm => ⟨none, none, 15⟩
  | .sigkill => ⟨some ⟨103, by decide⟩, some (⟨103, by decide⟩, 9), 0⟩

/-- Every process is signalled, and the leftover of the stack passes the check. -/
theorem fork_refused_signals_all :
    (⟨.sigterm, -1, 15⟩ : Kill) ∈ (main forkRefused).1.kills ∧ ¬ Harmless forkRefused ∧
      ¬ Sound forkRefused := by
  have passed : Passed forkRefused := by
    rw [passed_iff, ← runTests_failures]
    decide +kernel
  refine ⟨by decide +kernel, ?_, ?_⟩
  · rw [harmless_iff]
    decide
  · intro sound
    obtain ⟨_, _, forked, _⟩ := (sound passed).sigterm
    cases forked

end KernelSprint.PosixValidation

import KernelSprint.Backend.StreamCommand
import KernelSprint.Lib.Generator

/-!
# The lab command as a generator

`stream_command` of `docker_agent` statement by statement: the calls on the
process, on the timer that kills it and on the flag that the timer sets.  What
the process prints when it is left alone is an argument; a read answers
whether the next line is there or the output has ended.
-/

set_option autoImplicit false

namespace KernelSprint.CommandAgent

open Generators Generators.Gen PyText Relay StreamCommand

inductive Call where
  | popen (argv : List String)
  | startTimer (timeout : Nat)
  | readLine (line : String)
  /-- The read that meets the end of the output. -/
  | readEnd
  | wait
  | cancelTimer
  /-- `timed_out.is_set()` -/
  | timedOut
  /-- `proc.returncode` -/
  | returncode
  deriving DecidableEq

abbrev Call.Answer : Call → Type
  | .readLine _ => Bool
  | .timedOut => Bool
  | .returncode => Int
  | _ => Unit

abbrev Agent (α : Type) := Gen Call Call.Answer String PyExn α

def ask (request : Call) : Agent request.Answer := perform request

/-- `for line in proc.stdout: yield line` -/
def relay : List String → Agent Unit
  | [] => ask .readEnd
  | line :: rest => do
      let there ← ask (.readLine line)
      if there then do
        yieldEvent line
        relay rest
      else pure ()

def report (timeout : Nat) : Agent Unit := do
  let timedOut ← ask .timedOut
  if timedOut then yieldEvent (killedLine timeout)
  else do
    let returncode ← ask .returncode
    yieldEvent (exitLine returncode)

/-- Everything after the process has been started. -/
def supervise (timeout : Nat) (lines : List String) : Agent Unit := do
  ask (.startTimer timeout)
  withFinally (do relay lines; ask .wait) (ask .cancelTimer)
  report timeout

def container : String := "kernel-sprint-lab"

def streamCommand (shlexSplit : String → Except String (List String)) (commandLine : String)
    (timeout : Nat) (lines : List String) : Agent Unit :=
  match shlexSplit commandLine with
  | .error message => yieldEvent ("error: could not parse command: " ++ message ++ "\n")
  | .ok [] => pure ()
  | .ok argv => do
      ask (.popen (["docker", "exec", container] ++ argv))
      supervise timeout lines

/-! ## The outcome of a run that nobody disturbs -/

/-- `Popen` refuses an argument with a null character. -/
def respond (ending : Ending) : (request : Call) → Except PyExn request.Answer
  | .popen argv =>
      if argv.any fun arg => arg.toList.contains (Char.ofNat 0) then .error .valueError
      else .ok ()
  | .startTimer _ => .ok ()
  | .readLine _ => .ok true
  | .readEnd => if ending = .raised then .error .unicodeDecodeError else .ok ()
  | .wait => .ok ()
  | .cancelTimer => .ok ()
  | .timedOut => .ok (ending = .killed)
  | .returncode =>
      match ending with
      | .exited returncode => .ok returncode
      | _ => .ok (-9)

def outcomeOf (played : List String × Except PyExn Unit) : Outcome String :=
  ⟨played.1, match played.2 with | .ok _ => false | .error _ => true⟩

section Played

variable (ending : Ending)

theorem play_ask (request : Call) :
    play (respond ending) (ask request) = ([], respond ending request) :=
  play_perform (respond ending) request

theorem play_relay (lines : List String) :
    play (respond ending) (relay lines) = (lines, respond ending .readEnd) := by
  induction lines with
  | nil => exact play_ask ending .readEnd
  | cons line rest ih =>
      unfold relay
      rw [play_bind_ok (respond ending) _ _ [] true (play_ask ending _)]
      simp only [↓reduceIte]
      rw [play_bind_ok (respond ending) _ _ [line] () (play_yieldEvent _ _), ih]
      simp

theorem play_body (lines : List String) :
    play (respond ending) (withFinally (do relay lines; ask .wait) (ask .cancelTimer)) =
      (lines, respond ending .readEnd) := by
  rw [play_withFinally_ok (respond ending) _ _ (play_ask ending .cancelTimer), play_bind,
    play_relay]
  cases respond ending .readEnd with
  | error exn => rfl
  | ok _ =>
      simp only
      rw [play_ask ending .wait, List.append_nil]
      rfl

theorem play_supervise (timeout : Nat) (run : ProcessRun) :
    outcomeOf (play (respond run.ending) (supervise timeout (lines run.output))) =
      run.outcome timeout := by
  unfold supervise
  rw [play_bind_ok (respond run.ending) _ _ [] () (play_ask run.ending _), play_bind,
    play_body run.ending]
  cases ended : run.ending with
  | raised => simp [respond, outcomeOf, ProcessRun.outcome, ended]
  | killed =>
      simp only [respond, reduceCtorEq, ↓reduceIte, report]
      rw [play_bind_ok _ _ _ [] true (play_ask _ _)]
      simp [outcomeOf, ProcessRun.outcome, ended]
  | exited returncode =>
      simp only [respond, reduceCtorEq, ↓reduceIte, report]
      rw [play_bind_ok _ _ _ [] false (play_ask _ _)]
      simp only [Bool.false_eq_true, ↓reduceIte]
      rw [play_bind_ok _ _ _ [] returncode (play_ask _ _)]
      simp [outcomeOf, ProcessRun.outcome, ended]

/-- Played without disturbance, the generator does what `StreamCommand` says of
the run. -/
theorem play_streamCommand (shlexSplit : String → Except String (List String))
    (commandLine : String) (timeout : Nat) (run : ProcessRun) :
    outcomeOf (play (respond run.ending)
        (streamCommand shlexSplit commandLine timeout (lines run.output))) =
      StreamCommand.streamCommand shlexSplit commandLine timeout run := by
  unfold streamCommand StreamCommand.streamCommand
  cases shlexSplit commandLine with
  | error message => rfl
  | ok argv =>
      cases argv with
      | nil => rfl
      | cons first rest =>
          have own : ["docker", "exec", container].any
              (fun arg => arg.toList.contains (Char.ofNat 0)) = false := by decide
          simp only
          rw [play_bind, play_ask]
          simp only [respond, List.any_append, own, Bool.false_or]
          cases (first :: rest).any fun arg => arg.toList.contains (Char.ofNat 0) with
          | true => rfl
          | false =>
              simp only [Bool.false_eq_true, ↓reduceIte, List.nil_append]
              exact play_supervise timeout run

end Played

end KernelSprint.CommandAgent

import KernelSprint.Backend.Docker
import KernelSprint.Lib.Generator
import KernelSprint.Lib.PyText

/-!
# Starting the lab container

`ensure_container` of `docker_agent`, called by any number of HTTP requests
and sockets at once.  Each docker command is one atomic step of the call that
issues it, and a call waits at one stage between two of them.
-/

set_option autoImplicit false

namespace KernelSprint.Container

open Labelled Interleaving Generators Generators.Gen PyText Docker

def IMAGE : String := "kernel-sprint-env"

/-- The arguments of `_run`. -/
structure Request where
  command : Command
  timeout : Nat

abbrev Startup (α : Type) := Gen Request (fun _ => CompletedProcess) Empty PyExn α

def run (command : Command) (timeout : Nat) : Startup CompletedProcess :=
  perform ⟨command, timeout⟩

section Calls

variable (repoRoot : String)

def runContainer : Command :=
  .run (repoRoot ++ ":/workspace:ro") IMAGE ["sleep", "infinity"]

def ensureContainer : Startup Unit := do
  let result ← run .inspectRunning 10
  if result.returncode = 0 ∧ strip result.stdout = "true" then
    pure ()
  else do
    let _ ← run .rmForce 15
    let _ ← run (runContainer repoRoot) 30
    let _ ← run (.exec mountDebugfs) 10
    let _ ← run (.exec mountTracefs) 10
    let _ ← run (.exec installIproute2) 60

abbrev Call := Suspended Request (fun _ => CompletedProcess) Empty PyExn Unit

/-- Every caller of `ensure_container`. -/
def calls : Program Daemon Call Unit :=
  program (fun _ => ensureContainer repoRoot) fun daemon request =>
    ((daemon.answer request.command).1, .ok (daemon.answer request.command).2)

/-- The command that the call issues next. -/
def nextCommand (call : Call) : Option Command :=
  match call.rest with
  | .call request _ => some request.command
  | _ => none

/-- The call is between its `docker run` and its return. -/
def provisioning (call : Call) : Bool :=
  match nextCommand call with
  | some (.exec _) => true
  | _ => false

/-! ## Stages -/

inductive Stage where
  | inspect
  | remove
  | create
  | debugfs
  | tracefs
  | iproute2
  | returned
  deriving DecidableEq, Repr

/-- What a call at the stage has still to do. -/
def remaining : Stage → Startup Unit
  | .inspect => ensureContainer repoRoot
  | .remove => do
      let _ ← run .rmForce 15
      let _ ← run (runContainer repoRoot) 30
      let _ ← run (.exec mountDebugfs) 10
      let _ ← run (.exec mountTracefs) 10
      let _ ← run (.exec installIproute2) 60
  | .create => do
      let _ ← run (runContainer repoRoot) 30
      let _ ← run (.exec mountDebugfs) 10
      let _ ← run (.exec mountTracefs) 10
      let _ ← run (.exec installIproute2) 60
  | .debugfs => do
      let _ ← run (.exec mountDebugfs) 10
      let _ ← run (.exec mountTracefs) 10
      let _ ← run (.exec installIproute2) 60
  | .tracefs => do
      let _ ← run (.exec mountTracefs) 10
      let _ ← run (.exec installIproute2) 60
  | .iproute2 => do
      let _ ← run (.exec installIproute2) 60
  | .returned => pure ()

def waiting (stage : Stage) : Call := settle (remaining repoRoot stage) []

def stageCommand : Stage → Option Command
  | .inspect => some .inspectRunning
  | .remove => some .rmForce
  | .create => some (runContainer repoRoot)
  | .debugfs => some (.exec mountDebugfs)
  | .tracefs => some (.exec mountTracefs)
  | .iproute2 => some (.exec installIproute2)
  | .returned => none

theorem nextCommand_waiting (stage : Stage) :
    nextCommand (waiting repoRoot stage) = stageCommand repoRoot stage := by
  cases stage <;> rfl

/-- The effect of a stage's command on the daemon, and the stage after it. -/
def stageStep (daemon : Daemon) : Stage → Option (Daemon × Stage)
  | .inspect => some (daemon, if daemon.up then .returned else .remove)
  | .remove => some (daemon.remove, .create)
  | .create => some (daemon.create, .debugfs)
  | .debugfs => some (daemon.exec mountDebugfs, .tracefs)
  | .tracefs => some (daemon.exec mountTracefs, .iproute2)
  | .iproute2 => some (daemon.exec installIproute2, .returned)
  | .returned => none

theorem inspect_answer (daemon : Daemon) :
    (((daemon.answer .inspectRunning).2.returncode = 0 ∧
      strip (daemon.answer .inspectRunning).2.stdout = "true") ↔ daemon.up) := by
  cases found : daemon.container with
  | none => simp [Daemon.answer, Daemon.up, found]
  | some target =>
      cases running : target.running with
      | true =>
          simp only [Daemon.answer, Daemon.up, found, running, Option.any_some]
          decide
      | false =>
          simp only [Daemon.answer, Daemon.up, found, running, Option.any_some]
          decide

theorem waiting_step (daemon : Daemon) (stage : Stage) :
    (calls repoRoot).step daemon (waiting repoRoot stage) =
      (stageStep daemon stage).map fun result =>
        (result.1, waiting repoRoot result.2) := by
  cases stage with
  | inspect =>
      change some (daemon, settle (if _ ∧ _ then pure () else _) []) = _
      have answered := inspect_answer daemon
      cases up : daemon.up with
      | true =>
          rw [if_pos (answered.mpr up)]
          simp only [stageStep, up]
          rfl
      | false =>
          rw [if_neg (fun seen => by simp [answered.mp seen] at up)]
          simp only [stageStep, up]
          rfl
  | remove => rfl
  | create => rfl
  | debugfs => rfl
  | tracefs => rfl
  | iproute2 => rfl
  | returned => rfl

end Calls

end KernelSprint.Container

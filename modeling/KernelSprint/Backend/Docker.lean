import Mathlib.Data.Option.Basic

/-!
# The lab container as docker keeps it

One container carries the name that every command of `docker_agent` uses.
Mounts and packages belong to one instance of it and are gone with it.
-/

set_option autoImplicit false

namespace KernelSprint.Docker

structure CompletedProcess where
  returncode : Int
  stdout : String
  stderr : String

structure Instance where
  id : Nat
  running : Bool
  debugfs : Bool
  tracefs : Bool
  iproute2 : Bool
  deriving DecidableEq, Repr

/-- Instances are never numbered twice. -/
structure Daemon where
  container : Option Instance
  nextId : Nat
  fresh : ∀ found ∈ container, found.id < nextId

inductive Command where
  /-- `docker inspect -f …State.Running…` -/
  | inspectRunning
  /-- `docker rm -f` -/
  | rmForce
  /-- `docker run -d --name … --privileged -v volume image command` -/
  | run (volume image : String) (command : List String)
  /-- `docker exec` -/
  | exec (argv : List String)
  deriving DecidableEq

def mountDebugfs : List String := ["mount", "-t", "debugfs", "debugfs", "/sys/kernel/debug"]

def mountTracefs : List String := ["mount", "-t", "tracefs", "tracefs", "/sys/kernel/tracing"]

def installIproute2 : List String :=
  ["bash", "-c", "apt-get update -qq && apt-get install -y -qq iproute2"]

def Instance.exec (argv : List String) (target : Instance) : Instance :=
  if argv = mountDebugfs then { target with debugfs := true }
  else if argv = mountTracefs then { target with tracefs := true }
  else if argv = installIproute2 then { target with iproute2 := true }
  else target

@[simp] theorem exec_mountDebugfs (target : Instance) :
    target.exec mountDebugfs = { target with debugfs := true } := rfl

@[simp] theorem exec_mountTracefs (target : Instance) :
    target.exec mountTracefs = { target with tracefs := true } := by
  rw [Instance.exec, if_neg (by decide), if_pos rfl]

@[simp] theorem exec_installIproute2 (target : Instance) :
    target.exec installIproute2 = { target with iproute2 := true } := by
  rw [Instance.exec, if_neg (by decide), if_neg (by decide), if_pos rfl]

theorem exec_id (argv : List String) (target : Instance) :
    (target.exec argv).id = target.id := by
  unfold Instance.exec
  split
  · rfl
  split
  · rfl
  split <;> rfl

theorem exec_running (argv : List String) (target : Instance) :
    (target.exec argv).running = target.running := by
  unfold Instance.exec
  split
  · rfl
  split
  · rfl
  split <;> rfl

def Daemon.remove (daemon : Daemon) : Daemon where
  container := none
  nextId := daemon.nextId
  fresh _ found := by cases found

/-- A name that is taken makes `docker run` fail. -/
def Daemon.create (daemon : Daemon) : Daemon :=
  match daemon.container with
  | some _ => daemon
  | none =>
      { container := some ⟨daemon.nextId, true, false, false, false⟩
        nextId := daemon.nextId + 1
        fresh := by
          rintro _ ⟨⟩
          exact Nat.lt_succ_self daemon.nextId }

/-- Without a running container `docker exec` fails. -/
def Daemon.exec (daemon : Daemon) (argv : List String) : Daemon where
  container := daemon.container.map fun target =>
    if target.running then target.exec argv else target
  nextId := daemon.nextId
  fresh := by
    intro found member
    obtain ⟨target, held, rfl⟩ := Option.map_eq_some_iff.mp member
    have bound := daemon.fresh target held
    split
    · rwa [exec_id]
    · exact bound

def Daemon.up (daemon : Daemon) : Bool := daemon.container.any (·.running)

theorem up_iff (daemon : Daemon) :
    daemon.up ↔ ∃ target ∈ daemon.container, target.running := by
  unfold Daemon.up
  cases daemon.container with
  | none => simp
  | some target => simp

/-- The answer of a command that docker carries out as it should. -/
def Daemon.answer (daemon : Daemon) : Command → Daemon × CompletedProcess
  | .inspectRunning =>
      (daemon, match daemon.container with
        | some target => ⟨0, if target.running then "true\n" else "false\n", ""⟩
        | none => ⟨1, "\n", "Error: No such object: kernel-sprint-lab\n"⟩)
  | .rmForce => (daemon.remove, ⟨0, "kernel-sprint-lab\n", ""⟩)
  | .run _ _ _ =>
      (daemon.create,
        if daemon.container.isSome then
          ⟨125, "", "docker: Error response from daemon: Conflict.\n"⟩
        else ⟨0, toString daemon.nextId ++ "\n", ""⟩)
  | .exec argv => (daemon.exec argv, if daemon.up then ⟨0, "", ""⟩ else ⟨1, "", ""⟩)

end KernelSprint.Docker

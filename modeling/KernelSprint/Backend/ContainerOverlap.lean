import KernelSprint.Backend.Container

/-!
# Overlapping container start-ups

A call tests only whether the container runs, and acts on that test later.
Calls that overlap may then return before the container is provisioned.
-/

set_option autoImplicit false

namespace KernelSprint.ContainerOverlap

open Labelled Interleaving Generators Generators.Gen Docker Container

/-- The step lets a call return. -/
def Returns (_pool : Pool Daemon Call) (choice : Choice Unit)
    (next : Pool Daemon Call) : Prop :=
  ∃ call ∈ next.acting choice, call.Ended

def Provisioned (daemon : Daemon) : Prop :=
  ∃ target ∈ daemon.container,
    target.running ∧ target.debugfs ∧ target.tracefs ∧ target.iproute2

instance : DecidablePred Provisioned := fun daemon =>
  inferInstanceAs (Decidable (∃ target ∈ daemon.container,
    target.running ∧ target.debugfs ∧ target.tracefs ∧ target.iproute2))

/-! ## What one stage does -/

/-- The same instance, with nothing taken from it. -/
def Grows (before after : Instance) : Prop :=
  after.id = before.id ∧ after.running = before.running ∧
    (before.debugfs → after.debugfs) ∧ (before.tracefs → after.tracefs) ∧
    (before.iproute2 → after.iproute2)

theorem grows_refl (target : Instance) : Grows target target :=
  ⟨rfl, rfl, id, id, id⟩

theorem exec_grows (argv : List String) (target : Instance) :
    Grows target (target.exec argv) := by
  unfold Instance.exec
  split
  · exact ⟨rfl, rfl, fun _ => rfl, id, id⟩
  split
  · exact ⟨rfl, rfl, id, fun _ => rfl, id⟩
  split
  · exact ⟨rfl, rfl, id, id, fun _ => rfl⟩
  · exact grows_refl target

theorem mem_exec (daemon : Daemon) (argv : List String) (target : Instance)
    (held : target ∈ daemon.container) (running : target.running) :
    target.exec argv ∈ (daemon.exec argv).container := by
  refine Option.map_eq_some_iff.mpr ⟨target, held, ?_⟩
  rw [if_pos running]

theorem daemon_exec_grows (daemon : Daemon) (argv : List String) (target : Instance)
    (held : target ∈ daemon.container) :
    ∃ target' ∈ (daemon.exec argv).container, Grows target target' := by
  refine ⟨_, Option.map_eq_some_iff.mpr ⟨target, held, rfl⟩, ?_⟩
  split
  · exact exec_grows argv target
  · exact grows_refl target

theorem create_of_held (daemon : Daemon) (target : Instance)
    (held : target ∈ daemon.container) : daemon.create = daemon := by
  unfold Daemon.create
  split
  · rfl
  · next empty =>
      rw [empty] at held
      cases held

theorem create_running (daemon : Daemon)
    (unstopped : ∀ target ∈ daemon.container, target.running) :
    ∃ target ∈ daemon.create.container, target.running := by
  cases found : daemon.container with
  | some target =>
      rw [create_of_held daemon target found]
      exact ⟨target, found, unstopped target found⟩
  | none =>
      refine ⟨⟨daemon.nextId, true, false, false, false⟩, ?_, rfl⟩
      unfold Daemon.create
      split
      · next taken => rw [found] at taken; cases taken
      · rfl

/-- Only a removal takes anything from the container. -/
theorem stageStep_grows (daemon daemon' : Daemon) (stage stage' : Stage)
    (stepped : stageStep daemon stage = some (daemon', stage')) (keeps : stage ≠ .remove)
    (target : Instance) (held : target ∈ daemon.container) :
    ∃ target' ∈ daemon'.container, Grows target target' := by
  cases stage with
  | remove => exact absurd rfl keeps
  | returned => cases stepped
  | inspect =>
      cases stepped
      exact ⟨target, held, grows_refl target⟩
  | create =>
      cases stepped
      rw [create_of_held daemon target held]
      exact ⟨target, held, grows_refl target⟩
  | debugfs =>
      cases stepped
      exact daemon_exec_grows daemon mountDebugfs target held
  | tracefs =>
      cases stepped
      exact daemon_exec_grows daemon mountTracefs target held
  | iproute2 =>
      cases stepped
      exact daemon_exec_grows daemon installIproute2 target held

section Calls

variable (repoRoot : String)

/-- A step takes a waiting call to its next stage. -/
theorem call_step (daemon daemon' : Daemon) (stage : Stage) (call' : Call)
    (stepped : (calls repoRoot).step daemon (waiting repoRoot stage) = some (daemon', call')) :
    ∃ stage', stageStep daemon stage = some (daemon', stage') ∧
      call' = waiting repoRoot stage' := by
  rw [waiting_step] at stepped
  obtain ⟨⟨_, stage'⟩, moved, paired⟩ := Option.map_eq_some_iff.mp stepped
  cases paired
  exact ⟨stage', moved, rfl⟩

theorem ended_waiting (stage : Stage) :
    (waiting repoRoot stage).Ended ↔ stage = .returned := by
  cases stage with
  | returned => exact ⟨fun _ => rfl, fun _ => trivial⟩
  | _ => exact ⟨False.elim, fun same => by cases same⟩

theorem removes_iff (stage : Stage) :
    nextCommand (waiting repoRoot stage) = some .rmForce ↔ stage = .remove := by
  rw [nextCommand_waiting]
  cases stage <;> simp [stageCommand, runContainer]

theorem inspects_iff (stage : Stage) :
    nextCommand (waiting repoRoot stage) = some .inspectRunning ↔ stage = .inspect := by
  rw [nextCommand_waiting]
  cases stage <;> simp [stageCommand, runContainer]

theorem installs_iff (stage : Stage) :
    nextCommand (waiting repoRoot stage) = some (.exec installIproute2) ↔
      stage = .iproute2 := by
  rw [nextCommand_waiting]
  cases stage <;> simp [stageCommand, runContainer, mountDebugfs, mountTracefs, installIproute2]

/-! ## Returning with the container provisioned -/

def Delivers (pool : Pool Daemon Call) (choice : Choice Unit)
    (next : Pool Daemon Call) : Prop :=
  Returns pool choice next → Provisioned next.shared

/-- No call inspects a container that runs but is not provisioned yet. -/
def InspectsProvisioned (pool : Pool Daemon Call) (choice : Choice Unit)
    (_next : Pool Daemon Call) : Prop :=
  ∀ call ∈ pool.acting choice, nextCommand call = some .inspectRunning →
    pool.shared.up → Provisioned pool.shared

/-- Whenever a call comes to its last command, the container runs with both file
systems mounted. -/
def InstallsMounted (pool : Pool Daemon Call) (choice : Choice Unit)
    (_next : Pool Daemon Call) : Prop :=
  ∀ call ∈ pool.acting choice, nextCommand call = some (.exec installIproute2) →
    ∃ target ∈ pool.shared.container, target.running ∧ target.debugfs ∧ target.tracefs

/-- No call removes the container while another one provisions it. -/
def RemovesUnattended (pool : Pool Daemon Call) (choice : Choice Unit)
    (_next : Pool Daemon Call) : Prop :=
  ∀ call ∈ pool.acting choice, nextCommand call = some .rmForce →
    ∀ other ∈ pool.threads, ¬ provisioning other

/-- What a call has brought about by the time it reaches a stage. -/
def StageReady (daemon : Daemon) : Stage → Prop
  | .create => ∀ target ∈ daemon.container, target.running
  | .debugfs => ∃ target ∈ daemon.container, target.running
  | .tracefs => ∃ target ∈ daemon.container, target.running ∧ target.debugfs
  | .iproute2 => ∃ target ∈ daemon.container,
      target.running ∧ target.debugfs ∧ target.tracefs
  | _ => True

theorem stageReady_own (daemon daemon' : Daemon) (stage stage' : Stage)
    (ready : StageReady daemon stage)
    (stepped : stageStep daemon stage = some (daemon', stage')) :
    StageReady daemon' stage' := by
  cases stage with
  | returned => cases stepped
  | inspect =>
      cases stepped
      split <;> trivial
  | remove =>
      cases stepped
      intro target held
      cases held
  | create =>
      cases stepped
      exact create_running daemon ready
  | debugfs =>
      cases stepped
      obtain ⟨target, held, running⟩ := ready
      refine ⟨_, mem_exec daemon mountDebugfs target held running, ?_⟩
      rw [exec_mountDebugfs]
      exact ⟨running, rfl⟩
  | tracefs =>
      cases stepped
      obtain ⟨target, held, running, debugfs⟩ := ready
      refine ⟨_, mem_exec daemon mountTracefs target held running, ?_⟩
      rw [exec_mountTracefs]
      exact ⟨running, debugfs, rfl⟩
  | iproute2 =>
      cases stepped
      trivial

theorem stageReady_grows (daemon daemon' : Daemon) (stage : Stage) (apart : stage ≠ .create)
    (grows : ∀ target ∈ daemon.container, ∃ target' ∈ daemon'.container, Grows target target')
    (ready : StageReady daemon stage) : StageReady daemon' stage := by
  cases stage with
  | create => exact absurd rfl apart
  | debugfs =>
      obtain ⟨target, held, running⟩ := ready
      obtain ⟨target', held', _, sameRunning, _⟩ := grows target held
      exact ⟨target', held', sameRunning ▸ running⟩
  | tracefs =>
      obtain ⟨target, held, running, debugfs⟩ := ready
      obtain ⟨target', held', _, sameRunning, keptDebugfs, _⟩ := grows target held
      exact ⟨target', held', sameRunning ▸ running, keptDebugfs debugfs⟩
  | iproute2 =>
      obtain ⟨target, held, running, debugfs, tracefs⟩ := ready
      obtain ⟨target', held', _, sameRunning, keptDebugfs, keptTracefs, _⟩ := grows target held
      exact ⟨target', held', sameRunning ▸ running, keptDebugfs debugfs, keptTracefs tracefs⟩
  | inspect => trivial
  | remove => trivial
  | returned => trivial

/-- No step leaves a stopped container where there was none. -/
theorem unstopped_step (daemon daemon' : Daemon) (stage stage' : Stage)
    (stepped : stageStep daemon stage = some (daemon', stage'))
    (unstopped : ∀ target ∈ daemon.container, target.running) :
    ∀ target ∈ daemon'.container, target.running := by
  have executed : ∀ argv, ∀ target ∈ (daemon.exec argv).container, target.running := by
    intro argv found member
    obtain ⟨target, held, rfl⟩ := Option.map_eq_some_iff.mp member
    have running := unstopped target held
    rw [if_pos running, exec_running]
    exact running
  cases stage with
  | returned => cases stepped
  | inspect =>
      cases stepped
      exact unstopped
  | remove =>
      cases stepped
      intro target held
      cases held
  | create =>
      cases stepped
      obtain ⟨target, held, running⟩ := create_running daemon unstopped
      intro other same
      cases Option.some.inj (held.symm.trans same)
      exact running
  | debugfs =>
      cases stepped
      exact executed mountDebugfs
  | tracefs =>
      cases stepped
      exact executed mountTracefs
  | iproute2 =>
      cases stepped
      exact executed installIproute2

theorem stageReady_other (daemon daemon' : Daemon) (stage stage' other : Stage)
    (stepped : stageStep daemon stage = some (daemon', stage'))
    (unattended : stage = .remove → ¬ provisioning (waiting repoRoot other))
    (ready : StageReady daemon other) : StageReady daemon' other := by
  by_cases creates : other = .create
  · subst creates
    exact unstopped_step daemon daemon' stage stage' stepped ready
  by_cases removes : stage = .remove
  · cases other with
    | create => exact absurd rfl creates
    | debugfs => exact absurd rfl (unattended removes)
    | tracefs => exact absurd rfl (unattended removes)
    | iproute2 => exact absurd rfl (unattended removes)
    | inspect => trivial
    | remove => trivial
    | returned => trivial
  · exact stageReady_grows daemon daemon' other creates
      (stageStep_grows daemon daemon' stage stage' stepped removes) ready

def CallReady (daemon : Daemon) (call : Call) : Prop :=
  ∃ stage, call = waiting repoRoot stage ∧ StageReady daemon stage

theorem callReady_step (pool next : Pool Daemon Call) (choice : Choice Unit)
    (ready : Annotated (fun _ => True) (CallReady repoRoot) pool)
    (unattended : RemovesUnattended pool choice next)
    (stepped : (calls repoRoot).machine.step pool choice = some next) :
    Annotated (fun _ => True) (CallReady repoRoot) next := by
  refine Program.annotated_step (calls repoRoot) _ _
    (fun pool choice => RemovesUnattended pool choice next)
    (fun _ _ _ => ⟨.inspect, rfl, trivial⟩) ?_ ?_ pool next choice ready unattended stepped
  · rintro pool index _ daemon' call' - ⟨stage, rfl, stageOk⟩ - - ran
    obtain ⟨stage', moved, rfl⟩ := call_step repoRoot pool.shared daemon' stage call' ran
    exact ⟨trivial, stage', rfl, stageReady_own pool.shared daemon' stage stage' stageOk moved⟩
  · rintro pool index _ daemon' call' otherIndex _ ⟨stage, rfl, -⟩ ⟨other, rfl, otherOk⟩
      alone found - otherFound ran
    obtain ⟨stage', moved, rfl⟩ := call_step repoRoot pool.shared daemon' stage call' ran
    refine ⟨other, rfl, stageReady_other repoRoot pool.shared daemon' stage stage' other
      moved ?_ otherOk⟩
    rintro rfl
    exact alone _ found rfl _ (List.mem_of_getElem? otherFound)

/-- The last command provisions what runs with both file systems mounted, and
nothing else. -/
theorem provisioned_exec_iff (daemon : Daemon) :
    Provisioned (daemon.exec installIproute2) ↔
      ∃ target ∈ daemon.container, target.running ∧ target.debugfs ∧ target.tracefs := by
  constructor
  · rintro ⟨_, member, running, debugfs, tracefs, -⟩
    obtain ⟨target, held, rfl⟩ := Option.map_eq_some_iff.mp member
    refine ⟨target, held, ?_⟩
    split at running
    · next up =>
        rw [if_pos up, exec_installIproute2] at debugfs tracefs
        exact ⟨up, debugfs, tracefs⟩
    · next down => exact absurd running down
  · rintro ⟨target, held, running, debugfs, tracefs⟩
    refine ⟨_, mem_exec daemon installIproute2 target held running, ?_⟩
    rw [exec_installIproute2]
    exact ⟨running, debugfs, tracefs, rfl⟩

/-- The call waits at a stage, whatever the daemon is like. -/
def AtStage (_daemon : Daemon) (call : Call) : Prop := ∃ stage, call = waiting repoRoot stage

theorem atStage_step (pool next : Pool Daemon Call) (choice : Choice Unit)
    (waits : Annotated (fun _ => True) (AtStage repoRoot) pool)
    (stepped : (calls repoRoot).machine.step pool choice = some next) :
    Annotated (fun _ => True) (AtStage repoRoot) next := by
  refine Program.annotated_step (calls repoRoot) _ _ (fun _ _ => True)
    (fun _ _ _ => ⟨.inspect, rfl⟩) ?_ ?_ pool next choice waits trivial stepped
  · rintro pool _ _ daemon' call' - ⟨stage, rfl⟩ - - ran
    obtain ⟨stage', -, rfl⟩ := call_step repoRoot pool.shared daemon' stage call' ran
    exact ⟨trivial, stage', rfl⟩
  · exact fun _ _ _ _ _ _ _ _ waits _ _ _ _ _ => waits

/-- A call returns from inspecting a running container or from its last
command. -/
theorem delivers_iff (pool next : Pool Daemon Call) (choice : Choice Unit)
    (waits : Annotated (fun _ => True) (AtStage repoRoot) pool)
    (stepped : (calls repoRoot).machine.step pool choice = some next) :
    Delivers pool choice next ↔
      InspectsProvisioned pool choice next ∧ InstallsMounted pool choice next := by
  cases choice with
  | spawn _ =>
      constructor
      · intro _
        exact ⟨(fun _ acting => by cases acting), fun _ acting => by cases acting⟩
      · rintro _ ⟨_, reported, _⟩
        cases reported
  | run index =>
      obtain ⟨call, daemon', call', found, ran, rfl⟩ :=
        (Program.step_run_iff _ pool next index).mp stepped
      obtain ⟨stage, rfl⟩ := waits.2 call (List.mem_of_getElem? found)
      obtain ⟨stage', moved, rfl⟩ := call_step repoRoot pool.shared daemon' stage call' ran
      have inspects : InspectsProvisioned pool (.run index)
          ⟨daemon', pool.threads.set index (waiting repoRoot stage')⟩ ↔
            (stage = .inspect → pool.shared.up → Provisioned pool.shared) := by
        simp only [InspectsProvisioned, Pool.acting, found, Option.mem_def, Option.some.injEq,
          forall_eq', inspects_iff]
      have installs : InstallsMounted pool (.run index)
          ⟨daemon', pool.threads.set index (waiting repoRoot stage')⟩ ↔
            (stage = .iproute2 → Provisioned (pool.shared.exec installIproute2)) := by
        simp only [InstallsMounted, Pool.acting, found, Option.mem_def, Option.some.injEq,
          forall_eq', installs_iff, provisioned_exec_iff]
      have delivers : Delivers pool (.run index)
          ⟨daemon', pool.threads.set index (waiting repoRoot stage')⟩ ↔
            (stage' = .returned → Provisioned daemon') := by
        simp only [Delivers, Returns, acting_set pool.threads daemon' index _ _ found,
          Option.mem_def, Option.some.injEq, exists_eq_left', ended_waiting]
      rw [inspects, installs, delivers]
      cases stage with
      | inspect =>
          cases up : pool.shared.up with
          | true =>
              simp only [stageStep, up, if_true, Option.some.injEq, Prod.mk.injEq] at moved
              obtain ⟨rfl, rfl⟩ := moved
              simp
          | false =>
              simp only [stageStep, up, Bool.false_eq_true, if_false, Option.some.injEq,
                Prod.mk.injEq] at moved
              obtain ⟨rfl, rfl⟩ := moved
              simp
      | iproute2 =>
          cases moved
          simp
      | returned => cases moved
      | _ =>
          cases moved
          simp

theorem installsMounted_of_ready (pool next : Pool Daemon Call) (choice : Choice Unit)
    (ready : Annotated (fun _ => True) (CallReady repoRoot) pool) :
    InstallsMounted pool choice next := by
  intro call acting installing
  obtain ⟨stage, rfl, stageOk⟩ := ready.2 call (mem_of_acting pool choice call acting)
  rw [installs_iff] at installing
  subst installing
  exact stageOk

/-- Every call returns with the container provisioned when no call inspects a
container that runs unprovisioned and none removes it while another one
provisions it.  Exactly, whoever comes to the last command has to find the
container running with both file systems mounted. -/
theorem ensure_container_delivers (daemon : Daemon) (schedule : List (Choice Unit)) :
    ((calls repoRoot).machine.Along InspectsProvisioned schedule (Pool.start daemon) ∧
        (calls repoRoot).machine.Along RemovesUnattended schedule (Pool.start daemon) →
      (calls repoRoot).machine.Along Delivers schedule (Pool.start daemon)) ∧
    ((calls repoRoot).machine.Along Delivers schedule (Pool.start daemon) ↔
      (calls repoRoot).machine.Along InspectsProvisioned schedule (Pool.start daemon) ∧
        (calls repoRoot).machine.Along InstallsMounted schedule (Pool.start daemon)) := by
  have exactly : (calls repoRoot).machine.Along Delivers schedule (Pool.start daemon) ↔
      (calls repoRoot).machine.Along InspectsProvisioned schedule (Pool.start daemon) ∧
        (calls repoRoot).machine.Along InstallsMounted schedule (Pool.start daemon) := by
    rw [← (calls repoRoot).machine.along_and]
    exact (calls repoRoot).machine.along_iff_of_invariant
      (Annotated (fun _ => True) (AtStage repoRoot)) _ _
      (fun pool choice next waits stepped => atStage_step repoRoot pool next choice waits stepped)
      (fun pool choice next waits stepped => delivers_iff repoRoot pool next choice waits stepped)
      schedule _ (annotated_start _ _ _ trivial)
  refine ⟨?_, exactly⟩
  rintro ⟨inspects, unattended⟩
  refine exactly.mpr ⟨inspects, ?_⟩
  refine (calls repoRoot).machine.along_of_along
    (Annotated (fun _ => True) (CallReady repoRoot)) _ _ ?_ schedule _
    (annotated_start _ _ _ trivial) unattended
  intro pool choice next ready met stepped
  exact ⟨callReady_step repoRoot pool next choice ready met stepped,
    installsMounted_of_ready repoRoot pool next choice ready⟩

end Calls

/-- A cold start: no container of the name. -/
def coldStart : Daemon := ⟨none, 0, fun _ held => by cases held⟩

/-- Two calls, the second one started when the first has returned. -/
def oneAfterAnother : List (Choice Unit) :=
  [.spawn (), .run 0, .run 0, .run 0, .run 0, .run 0, .run 0, .spawn (), .run 1]

instance (pool next : Pool Daemon Call) (choice : Choice Unit) :
    Decidable (InspectsProvisioned pool choice next) :=
  inferInstanceAs (Decidable (∀ call ∈ pool.acting choice,
    nextCommand call = some .inspectRunning → pool.shared.up → Provisioned pool.shared))

instance (pool next : Pool Daemon Call) (choice : Choice Unit) :
    Decidable (RemovesUnattended pool choice next) :=
  inferInstanceAs (Decidable (∀ call ∈ pool.acting choice,
    nextCommand call = some .rmForce → ∀ other ∈ pool.threads, ¬ provisioning other))

theorem ensure_container_delivers_one_after_another :
    (calls "/repo").machine.Along Delivers oneAfterAnother (Pool.start coldStart) :=
  (ensure_container_delivers "/repo" coldStart oneAfterAnother).1
    ⟨by decide +kernel, by decide +kernel⟩

/-- The second call inspects right after the first one's `docker run`. -/
def inspectedTooSoon : List (Choice Unit) :=
  [.spawn (), .spawn (), .run 0, .run 0, .run 0, .run 1]

theorem call_returns_unprovisioned :
    ∃ pool call, (calls "/repo").machine.exec inspectedTooSoon (Pool.start coldStart) =
        some pool ∧
      pool.threads[1]? = some call ∧ call.Ended ∧ ¬ Provisioned pool.shared := by
  have outcome : ∃ pool ∈ (calls "/repo").machine.exec inspectedTooSoon (Pool.start coldStart),
      (∃ call ∈ pool.threads[1]?, call.Ended) ∧ ¬ Provisioned pool.shared := by decide +kernel
  obtain ⟨pool, reached, ⟨call, found, returned⟩, unprovisioned⟩ := outcome
  exact ⟨pool, call, reached, found, returned, unprovisioned⟩

end KernelSprint.ContainerOverlap

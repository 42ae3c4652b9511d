import KernelSprint.Backend.ContainerOverlap

/-!
# Removing a container in use

A call that has seen no running container removes it later, whatever has
happened in between.  A container that another call has returned with by then
is removed under its user.
-/

set_option autoImplicit false

namespace KernelSprint.ContainerInUse

open Labelled Interleaving Generators Generators.Gen Docker Container ContainerOverlap

/-- The instance that runs in the first state still runs in the second. -/
def KeepsRunning (pool later : Pool Daemon Call) : Prop :=
  ∀ target ∈ pool.shared.container, target.running →
    ∃ target' ∈ later.shared.container, target'.id = target.id ∧ target'.running

/-- No call returns with the container running while a removal that an earlier
inspection decided is still to come. -/
def NoRemovalPending (pool : Pool Daemon Call) (choice : Choice Unit)
    (next : Pool Daemon Call) : Prop :=
  Returns pool choice next → next.shared.up →
    ∀ other ∈ next.threads, nextCommand other ≠ some .rmForce

section Calls

variable (repoRoot : String)

/-! ## Without a pending removal the instance stays -/

def Keeps (instanceId : Nat) (daemon : Daemon) : Prop :=
  ∃ target ∈ daemon.container, target.id = instanceId ∧ target.running

def NotRemoving (_daemon : Daemon) (call : Call) : Prop :=
  ∃ stage, call = waiting repoRoot stage ∧ stage ≠ .remove

theorem up_of_keeps (instanceId : Nat) (daemon : Daemon) (keeps : Keeps instanceId daemon) :
    daemon.up := by
  obtain ⟨target, held, -, running⟩ := keeps
  exact (up_iff daemon).mpr ⟨target, held, running⟩

theorem keeps_step (instanceId : Nat) (daemon daemon' : Daemon) (stage stage' : Stage)
    (stepped : stageStep daemon stage = some (daemon', stage')) (apart : stage ≠ .remove)
    (keeps : Keeps instanceId daemon) : Keeps instanceId daemon' := by
  obtain ⟨target, held, same, running⟩ := keeps
  obtain ⟨target', held', sameId, sameRunning, -⟩ :=
    stageStep_grows daemon daemon' stage stage' stepped apart target held
  exact ⟨target', held', sameId.trans same, sameRunning ▸ running⟩

/-- A call that inspects a running container does not go on to remove it. -/
theorem notRemoving_step (daemon daemon' : Daemon) (stage stage' : Stage) (up : daemon.up)
    (stepped : stageStep daemon stage = some (daemon', stage')) : stage' ≠ .remove := by
  cases stage with
  | inspect =>
      simp only [stageStep, up, if_true, Option.some.injEq, Prod.mk.injEq] at stepped
      intro same
      cases stepped.2.trans same
  | returned => cases stepped
  | _ =>
      cases stepped
      intro same
      cases same

theorem settled_step (instanceId : Nat) (pool next : Pool Daemon Call) (choice : Choice Unit)
    (settled : Annotated (Keeps instanceId) (NotRemoving repoRoot) pool)
    (stepped : (calls repoRoot).machine.step pool choice = some next) :
    Annotated (Keeps instanceId) (NotRemoving repoRoot) next := by
  refine Program.annotated_step (calls repoRoot) _ _ (fun _ _ => True)
    (fun _ _ _ => ⟨.inspect, rfl, fun same => by cases same⟩) ?_ ?_ pool next choice settled
    trivial stepped
  · rintro pool _ _ daemon' call' keeps ⟨stage, rfl, apart⟩ - - ran
    obtain ⟨stage', moved, rfl⟩ := call_step repoRoot pool.shared daemon' stage call' ran
    exact ⟨keeps_step instanceId pool.shared daemon' stage stage' moved apart keeps, stage', rfl,
      notRemoving_step pool.shared daemon' stage stage' (up_of_keeps instanceId _ keeps) moved⟩
  · exact fun _ _ _ _ _ _ _ _ waits _ _ _ _ _ => waits

/-- The running instance of `pool` is settled in a later state. -/
def Settled (pool later : Pool Daemon Call) : Prop :=
  ∀ target ∈ pool.shared.container, target.running →
    Annotated (Keeps target.id) (NotRemoving repoRoot) later

theorem settled_of_noRemovalPending (pool next : Pool Daemon Call) (choice : Choice Unit)
    (waits : Annotated (fun _ => True) (AtStage repoRoot) next)
    (noRemoval : NoRemovalPending pool choice next) (returns : Returns pool choice next) :
    Settled repoRoot next next := by
  intro target held running
  refine ⟨⟨target, held, rfl, running⟩, ?_⟩
  intro call member
  obtain ⟨stage, rfl⟩ := waits.2 call member
  have up := (up_iff next.shared).mpr ⟨target, held, running⟩
  exact ⟨stage, rfl, fun removes =>
    noRemoval returns up _ member ((removes_iff repoRoot stage).mpr removes)⟩

theorem kept_of_noRemovalPending (schedule : List (Choice Unit)) (daemon : Daemon)
    (noRemoval : (calls repoRoot).machine.Along NoRemovalPending schedule
      (Pool.start daemon)) :
    (calls repoRoot).machine.Henceforth Returns KeepsRunning schedule (Pool.start daemon) := by
  have withStages := (calls repoRoot).machine.along_of_along
    (Annotated (fun _ => True) (AtStage repoRoot)) NoRemovalPending
    (fun pool choice next => NoRemovalPending pool choice next ∧
      Annotated (fun _ => True) (AtStage repoRoot) next)
    (fun pool choice next waits met stepped =>
      have waits' := atStage_step repoRoot pool next choice waits stepped
      ⟨waits', met, waits'⟩)
    schedule _ (annotated_start _ _ _ trivial) noRemoval
  refine (calls repoRoot).machine.henceforth_of_along (Settled repoRoot) _ Returns KeepsRunning
    ?_ ?_ ?_ schedule _ withStages
  · intro pool choice next met returns _
    exact settled_of_noRemovalPending repoRoot pool next choice met.2 met.1 returns
  · intro anchor pool choice next settled stepped target held running
    have earlier := settled target held running
    exact settled_step repoRoot target.id pool next choice earlier stepped
  · intro anchor later settled target held running
    exact (settled target held running).1

/-! ## A pending removal is carried out -/

/-- Whoever waits to remove the container removes it before all calls end. -/
theorem removed_of_pending (anchor : Pool Daemon Call) (target : Instance)
    (held : target ∈ anchor.shared.container) (running : target.running) (index : Nat)
    (schedule : List (Choice Unit)) (pool final : Pool Daemon Call)
    (pending : pool.threads[index]? = some (waiting repoRoot .remove))
    (run : (calls repoRoot).machine.exec schedule pool = some final)
    (ended : ∀ call ∈ final.threads, call.Ended)
    (kept : (calls repoRoot).machine.Throughout (KeepsRunning anchor) schedule pool) :
    False := by
  induction schedule generalizing pool with
  | nil =>
      cases Option.some.inj run
      have last := (ended_waiting repoRoot .remove).mp (ended _ (List.mem_of_getElem? pending))
      cases last
  | cons choice rest ih =>
      obtain ⟨next, stepped, restRun⟩ := (Machine.exec_cons ..).mp run
      have restKept := kept.2 next stepped
      by_cases removes : choice = .run index
      · subst removes
        obtain ⟨call, daemon', call', found, ran, rfl⟩ :=
          (Program.step_run_iff _ pool next index).mp stepped
        cases Option.some.inj (pending.symm.trans found)
        obtain ⟨stage', moved, rfl⟩ := call_step repoRoot pool.shared daemon' .remove call' ran
        cases moved
        obtain ⟨target', held', -⟩ :=
          Machine.throughout_start _ _ rest _ restKept target held running
        cases held'
      · exact ih next ((calls repoRoot).thread_kept pool next choice index _ removes pending
          stepped) restRun restKept

theorem noRemovalPending_of_kept (schedule : List (Choice Unit)) (pool final : Pool Daemon Call)
    (waits : Annotated (fun _ => True) (AtStage repoRoot) pool)
    (run : (calls repoRoot).machine.exec schedule pool = some final)
    (ended : ∀ call ∈ final.threads, call.Ended)
    (kept : (calls repoRoot).machine.Henceforth Returns KeepsRunning schedule pool) :
    (calls repoRoot).machine.Along NoRemovalPending schedule pool := by
  induction schedule generalizing pool with
  | nil => trivial
  | cons choice rest ih =>
      intro next stepped
      obtain ⟨following, executed, restRun⟩ := (Machine.exec_cons ..).mp run
      cases Option.some.inj (stepped.symm.trans executed)
      obtain ⟨keptHere, keptLater⟩ := kept next stepped
      have waits' := atStage_step repoRoot pool next choice waits stepped
      refine ⟨?_, ih next waits' restRun keptLater⟩
      intro returns up other member removes
      obtain ⟨stage, rfl⟩ := waits'.2 other member
      have stageIs := (removes_iff repoRoot stage).mp removes
      subst stageIs
      obtain ⟨index, pending⟩ := List.mem_iff_getElem?.mp member
      obtain ⟨target, held, running⟩ := (up_iff next.shared).mp up
      exact removed_of_pending repoRoot next target held running index rest next final pending
        restRun ended (keptHere returns)

/-- The instance that runs when a call returns is never removed if no call
returns while a removal is pending; over a run that lets every call return,
only then. -/
theorem container_in_use_kept_iff (daemon : Daemon) (schedule : List (Choice Unit))
    (pool : Pool Daemon Call)
    (reached : (calls repoRoot).machine.exec schedule (Pool.start daemon) = some pool) :
    ((calls repoRoot).machine.Along NoRemovalPending schedule (Pool.start daemon) →
        (calls repoRoot).machine.Henceforth Returns KeepsRunning schedule
          (Pool.start daemon)) ∧
      ((∀ call ∈ pool.threads, call.Ended) →
        ((calls repoRoot).machine.Henceforth Returns KeepsRunning schedule
            (Pool.start daemon) ↔
          (calls repoRoot).machine.Along NoRemovalPending schedule (Pool.start daemon))) := by
  have kept := kept_of_noRemovalPending repoRoot schedule daemon
  refine ⟨kept, fun ended => ⟨?_, kept⟩⟩
  exact noRemovalPending_of_kept repoRoot schedule _ pool
    (annotated_start _ _ _ trivial) reached ended

end Calls

instance (pool next : Pool Daemon Call) (choice : Choice Unit) :
    Decidable (Returns pool choice next) :=
  inferInstanceAs (Decidable (∃ call ∈ next.acting choice, call.Ended))

instance (pool next : Pool Daemon Call) (choice : Choice Unit) :
    Decidable (NoRemovalPending pool choice next) :=
  inferInstanceAs (Decidable (Returns pool choice next → next.shared.up →
    ∀ other ∈ next.threads, nextCommand other ≠ some .rmForce))

theorem container_in_use_kept_one_after_another :
    (calls "/repo").machine.Henceforth Returns KeepsRunning oneAfterAnother
      (Pool.start coldStart) := by
  have reaches : ((calls "/repo").machine.exec oneAfterAnother
      (Pool.start coldStart)).isSome := by decide +kernel
  obtain ⟨pool, reached⟩ := Option.isSome_iff_exists.mp reaches
  exact (container_in_use_kept_iff "/repo" coldStart oneAfterAnother pool reached).1
    (by decide +kernel)

/-- Both calls inspect before the first one removes; the first one returns. -/
def staleInspection : List (Choice Unit) :=
  [.spawn (), .spawn (), .run 0, .run 1, .run 0, .run 0, .run 0, .run 0, .run 0]

theorem returned_container_removed :
    ∃ pool next, (calls "/repo").machine.exec staleInspection (Pool.start coldStart) =
        some pool ∧
      (∃ call ∈ pool.threads[0]?, call.Ended) ∧ pool.shared.up ∧
      (calls "/repo").machine.step pool (.run 1) = some next ∧
      next.shared.container = none := by
  have outcome : ∃ pool ∈ (calls "/repo").machine.exec staleInspection (Pool.start coldStart),
      (∃ call ∈ pool.threads[0]?, call.Ended) ∧ pool.shared.up ∧
        ∃ next ∈ (calls "/repo").machine.step pool (.run 1),
          next.shared.container = none := by decide +kernel
  obtain ⟨pool, reached, returned, up, next, stepped, removed⟩ := outcome
  exact ⟨pool, next, reached, returned, up, stepped, removed⟩

end KernelSprint.ContainerInUse

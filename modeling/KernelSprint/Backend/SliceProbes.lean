import KernelSprint.Backend.SliceInterleaving

/-!
# Probing under the reported slice

A worker reports the slice right before each probe, and its result compares
what it has measured under the two slices that its note names.  That is true
exactly when at each probe the cell is at the level that the run takes it to be
at, and always when no run writes inside the measuring window of another.
-/

set_option autoImplicit false

namespace KernelSprint.SliceProbes

open Labelled Interleaving PyText BenchmarkOutput SchedulerExperiment SliceInterleaving

/-- What a run has yielded when it probes under a slice: before its first probe
the slice itself, before its second a slice that is a third of the first. -/
inductive ProbesUnder (slice : Nat) : List Event → Prop
  | before : ProbesUnder slice [.start "scheduler_optimization", .sampleSlice "before" slice]
  | after (original : Nat) (before : Option Latency) (reduced : slice = original / 3) :
      ProbesUnder slice [.start "scheduler_optimization", .sampleSlice "before" original,
        .sampleResult "before" before, .sampleSlice "after" slice]

/-- Whenever a worker probes, it does so under the slice that it has reported. -/
def ProbesReportedSlice (pool : Pool Kernel Worker) (choice : Choice Int)
    (_next : Pool Kernel Worker) : Prop :=
  ∀ worker ∈ pool.acting choice, (nextProbe worker).isSome →
    ProbesUnder pool.shared.baseSliceNs worker.events

section Results

variable {db : CharDb} (probe : Probe db) (initial : Nat)

/-- With these events behind it, the run at `index` has executed a probe under
the slice, and this is what the probe gave. -/
def Probed (schedule : List (Choice Int)) (index : Nat) (events : List Event) (slice : Nat)
    (metrics : Option Latency) : Prop :=
  ∃ earlier later pool worker iterations, schedule = earlier ++ .run index :: later ∧
    (workers probe).machine.exec earlier (Pool.start ⟨initial, 0⟩) = some pool ∧
      pool.threads[index]? = some worker ∧ worker.events = events ∧
        nextProbe worker = some iterations ∧ pool.shared.baseSliceNs = slice ∧
          parseLatency db (probe.stdout pool.shared.clock iterations) = .ok metrics

/-- The improvement is the change of the 99th percentile in percent, if both are
there and not zero. -/
def Improves (before after : Option Latency) (pct : Option ℚ) : Prop :=
  ∀ change, pct = some change ↔ ∃ first ∈ before, ∃ second ∈ after, first.p99Us ≠ 0 ∧
    second.p99Us ≠ 0 ∧ change = round ((first.p99Us - second.p99Us) / first.p99Us * 100) 1

theorem improvement_improves (before after : Option Latency) :
    Improves before after (improvement before after) := by
  intro change
  cases before with
  | none => simp [improvement]
  | some first =>
      cases after with
      | none => simp [improvement]
      | some second =>
          simp only [improvement, Option.mem_some_iff, exists_eq_left',
            Option.ite_none_right_eq_some, Option.some.injEq, and_assoc]
          exact and_congr_right fun _ => and_congr_right fun _ => eq_comm

/-- A run that has ended compares what its two probes gave under the two slices
that its note names. -/
def ComparesNamed (schedule : List (Choice Int)) (index : Nat) (worker : Worker) : Prop :=
  ∃ original before after pct,
    worker.events = [.start "scheduler_optimization", .sampleSlice "before" original,
      .sampleResult "before" before, .sampleSlice "after" (original / 3),
      .sampleResult "after" after, .result before after pct
        ("base_slice_ns temporarily reduced " ++ toString original ++ " -> " ++
          toString (original / 3) ++ " on this container's live kernel for the 'after' run, " ++
          "then restored -- same mechanism as patches/scheduler-optimization.patch.")] ∧
    Improves before after pct ∧
    Probed probe initial schedule index (worker.events.take 2) original before ∧
    Probed probe initial schedule index (worker.events.take 4) (original / 3) after

/-- Every probe and every result is about the slices that it is labelled with. -/
structure MeasuredAsLabelled (schedule : List (Choice Int)) (pool : Pool Kernel Worker) :
    Prop where
  probes : (workers probe).machine.Along ProbesReportedSlice schedule (Pool.start ⟨initial, 0⟩)
  results : ∀ index worker, pool.threads[index]? = some worker → worker.Ended →
    ComparesNamed probe initial schedule index worker

end Results

/-! ## Probes at their levels -/

def probesAtLevel (initial level : Nat) : SliceRun Nat → Prop
  | .before original => SameSlice initial level original
  | .after original => SameSlice initial level (original + 1)
  | _ => True

/-- Whenever a run probes, the cell is at its level, one deeper for the second
probe. -/
def ProbesItsLevel (initial : Nat) (pool : Pool Nat (SliceRun Nat)) (choice : Choice Int)
    (_next : Pool Nat (SliceRun Nat)) : Prop :=
  ∀ run ∈ pool.acting choice, probesAtLevel initial pool.shared run

instance (initial first second : Nat) : Decidable (SameSlice initial first second) :=
  inferInstanceAs (Decidable (_ ∨ _))

instance (initial level : Nat) : DecidablePred (probesAtLevel initial level)
  | .before original => inferInstanceAs (Decidable (SameSlice initial level original))
  | .after original => inferInstanceAs (Decidable (SameSlice initial level (original + 1)))
  | .compile | .read | .reduce _ | .restore _ | .finished _ => isTrue trivial

instance (initial : Nat) (pool next : Pool Nat (SliceRun Nat)) (choice : Choice Int) :
    Decidable (ProbesItsLevel initial pool choice next) :=
  inferInstanceAs (Decidable (∀ run ∈ pool.acting choice,
    probesAtLevel initial pool.shared run))

theorem probesUnder_before (slice original : Nat) (before after : Option Latency) :
    ProbesUnder slice ((script original before after).take 2) ↔ slice = original := by
  constructor
  · intro under
    cases under
    rfl
  · rintro rfl
    exact .before

theorem probesUnder_after (slice original : Nat) (before after : Option Latency) :
    ProbesUnder slice ((script original before after).take 4) ↔ slice = original / 3 := by
  constructor
  · intro under
    cases under with
    | after _ _ reduced => exact reduced
  · rintro rfl
    exact .after original before rfl

theorem reports_iff_level {db : CharDb} (initial level : Nat) (kernel : Kernel)
    (worker : Worker) (run : SliceRun Nat) (holds : HoldsLevel initial kernel level)
    (follows : FollowsLevel initial db worker run) :
    ((nextProbe worker).isSome → ProbesUnder kernel.baseSliceNs worker.events) ↔
      probesAtLevel initial level run := by
  have slice : kernel.baseSliceNs = sliceAt initial level := holds
  obtain ⟨asked, before, after, rfl⟩ := follows
  rw [workerAt_nextProbe, slice]
  cases run with
  | before original =>
      refine (forall_prop_of_true rfl).trans ?_
      exact (probesUnder_before _ _ before after).trans (sliceAt_eq_iff initial level original)
  | after original =>
      refine (forall_prop_of_true rfl).trans ?_
      refine (probesUnder_after _ _ before after).trans ?_
      rw [← sliceAt_succ]
      exact sliceAt_eq_iff initial level (original + 1)
  | _ => exact iff_of_true (fun probes => by cases probes) trivial

theorem probes_agree {db : CharDb} (initial : Nat) (pool next : Pool Kernel Worker)
    (levels next' : Pool Nat (SliceRun Nat)) (choice : Choice Int)
    (related : PoolRel (HoldsLevel initial) (FollowsLevel initial db) pool levels) :
    ProbesReportedSlice pool choice next ↔ ProbesItsLevel initial levels choice next' := by
  cases choice with
  | spawn iterations =>
      exact ⟨(fun _ _ acting => by cases acting), fun _ _ acting => by cases acting⟩
  | run index =>
      constructor
      · intro reports run found
        obtain ⟨worker, workerFound, follows⟩ :=
          forall₂_getElem? (List.Forall₂.flip related.2) index run found
        exact (reports_iff_level initial _ _ worker run related.1 follows).mp
          (reports worker workerFound)
      · intro levelled worker found
        obtain ⟨run, runFound, follows⟩ := forall₂_getElem? related.2 index worker found
        exact (reports_iff_level initial _ _ worker run related.1 follows).mpr
          (levelled run runFound)

/-! ## Writes outside the measuring windows -/

def Writes : SliceRun Nat → Prop
  | .reduce _ => True
  | .restore _ => True
  | _ => False

/-- Between the read and the second probe. -/
def Measuring : SliceRun Nat → Prop
  | .before _ => True
  | .reduce _ => True
  | .after _ => True
  | _ => False

/-- No run writes the slice inside the measuring window of another. -/
def WritesOutsideWindows (pool : Pool Nat (SliceRun Nat)) (choice : Choice Int) : Prop :=
  ∀ index run, choice = .run index → pool.threads[index]? = some run → Writes run →
    ∀ otherIndex other, otherIndex ≠ index → pool.threads[otherIndex]? = some other →
      ¬ Measuring other

def AtLevel (level : Nat) : SliceRun Nat → Prop
  | .before original => level = original
  | .reduce original => level = original
  | .after original => level = original + 1
  | _ => True

theorem annotated_step (pool next : Pool Nat (SliceRun Nat)) (choice : Choice Int)
    (annotated : Annotated (fun _ => True) AtLevel pool)
    (met : WritesOutsideWindows pool choice)
    (stepped : nestingMachine.step pool choice = some next) :
    Annotated (fun _ => True) AtLevel next := by
  refine Program.annotated_step (sliceProgram (· + 1)) _ _ WritesOutsideWindows
    (fun _ _ _ => trivial) ?_ ?_ pool next choice annotated met stepped
  · intro pool index run level' run' _ atLevel _ _ ran
    refine ⟨trivial, ?_⟩
    cases run with
    | finished original => cases ran
    | read =>
        cases Option.some.inj ran
        rfl
    | before original =>
        cases Option.some.inj ran
        exact atLevel
    | reduce original =>
        cases Option.some.inj ran
        rfl
    | compile =>
        cases Option.some.inj ran
        trivial
    | after original =>
        cases Option.some.inj ran
        trivial
    | restore original =>
        cases Option.some.inj ran
        trivial
  · intro pool index run level' run' otherIndex other _ otherLevel outside found apart
      otherFound ran
    have spared : Writes run → AtLevel level' other := by
      intro writes
      have idle := outside index run rfl found writes otherIndex other apart otherFound
      cases other <;> first | trivial | exact absurd trivial idle
    cases run with
    | finished original => cases ran
    | reduce original => exact spared trivial
    | restore original => exact spared trivial
    | compile =>
        cases Option.some.inj ran
        exact otherLevel
    | read =>
        cases Option.some.inj ran
        exact otherLevel
    | before original =>
        cases Option.some.inj ran
        exact otherLevel
    | after original =>
        cases Option.some.inj ran
        exact otherLevel

theorem probesItsLevel_of_outside (initial : Nat) (schedule : List (Choice Int))
    (outside : nestingMachine.Along (fun pool choice _ => WritesOutsideWindows pool choice)
      schedule (Pool.start 0)) :
    nestingMachine.Along (ProbesItsLevel initial) schedule (Pool.start 0) := by
  refine nestingMachine.along_of_along (Annotated (fun _ => True) AtLevel)
    (fun pool choice _ => WritesOutsideWindows pool choice) _ ?_ schedule _
    (annotated_start _ _ _ trivial) outside
  intro pool choice next annotated met stepped
  refine ⟨annotated_step pool next choice annotated met stepped, ?_⟩
  intro run acting
  have atLevel := annotated.2 run (mem_of_acting pool choice run acting)
  cases run with
  | before original => exact Or.inl atLevel
  | after original => exact Or.inl atLevel
  | _ => trivial

/-! ## What the results are of -/

section Traces

variable {db : CharDb} (probe : Probe db) (initial : Nat)

/-- The slice that a run has read when its first probe is behind it. -/
def probedBefore : SliceRun Nat → Option Nat
  | .reduce original => some original
  | .after original => some original
  | .restore original => some original
  | .finished original => some original
  | _ => none

/-- The same for the second probe. -/
def probedAfter : SliceRun Nat → Option Nat
  | .restore original => some original
  | .finished original => some original
  | _ => none

/-- What a run has yielded of its probes, they gave under some slices. -/
def Traced (schedule : List (Choice Int)) (index : Nat) (worker : Worker) : Prop :=
  ∃ asked before after run, worker = workerAt db asked before after run ∧
    (∀ original ∈ probedBefore run, ∃ slice, Probed probe initial schedule index
      ((script original before after).take 2) slice before) ∧
    ∀ original ∈ probedAfter run, ∃ slice, Probed probe initial schedule index
      ((script original before after).take 4) slice after

theorem probed_later (schedule : List (Choice Int)) (choice : Choice Int) (index : Nat)
    (events : List Event) (slice : Nat) (metrics : Option Latency)
    (probed : Probed probe initial schedule index events slice metrics) :
    Probed probe initial (schedule ++ [choice]) index events slice metrics := by
  obtain ⟨earlier, later, pool, worker, iterations, split, facts⟩ := probed
  refine ⟨earlier, later ++ [choice], pool, worker, iterations, ?_, facts⟩
  rw [split, List.append_assoc, List.cons_append]

theorem traced_later (schedule : List (Choice Int)) (choice : Choice Int) (index : Nat)
    (worker : Worker) (traced : Traced probe initial schedule index worker) :
    Traced probe initial (schedule ++ [choice]) index worker := by
  obtain ⟨asked, before, after, run, stands, first, second⟩ := traced
  refine ⟨asked, before, after, run, stands, fun original probed => ?_, fun original probed => ?_⟩
  · obtain ⟨slice, happened⟩ := first original probed
    exact ⟨slice, probed_later probe initial schedule choice index _ slice _ happened⟩
  · obtain ⟨slice, happened⟩ := second original probed
    exact ⟨slice, probed_later probe initial schedule choice index _ slice _ happened⟩

theorem traced_step (schedule : List (Choice Int)) (pool : Pool Kernel Worker) (index : Nat)
    (worker worker' : Worker) (kernel' : Kernel)
    (reached : (workers probe).machine.exec schedule (Pool.start ⟨initial, 0⟩) = some pool)
    (found : pool.threads[index]? = some worker)
    (traced : Traced probe initial schedule index worker)
    (stepped : (workers probe).step pool.shared worker = some (kernel', worker')) :
    Traced probe initial (schedule ++ [.run index]) index worker' := by
  obtain ⟨asked, before, after, run, stands, first, second⟩ :=
    traced_later probe initial schedule (.run index) index worker traced
  subst stands
  obtain ⟨slice', run', before', after', skeleton, -, rfl, learns⟩ :=
    workerAt_step probe _ _ _ asked before after run stepped
  -- a probe that is executed now is the one that the trace records
  have now : ∀ events metrics, (workerAt db asked before after run).events = events →
      nextProbe (workerAt db asked before after run) = some (clamped asked) →
      parseLatency db (probe.stdout pool.shared.clock (clamped asked)) = .ok metrics →
      Probed probe initial (schedule ++ [.run index]) index events pool.shared.baseSliceNs
        metrics :=
    fun events metrics yielded next parsed => ⟨schedule, [], pool, _, clamped asked, rfl, reached,
      found, yielded, next, rfl, parsed⟩
  cases run with
  | finished original => cases skeleton
  | compile =>
      cases Option.some.inj skeleton
      exact ⟨asked, _, _, _, rfl, nofun, nofun⟩
  | read =>
      cases Option.some.inj skeleton
      exact ⟨asked, _, _, _, rfl, nofun, nofun⟩
  | before original =>
      obtain ⟨parsed, rfl⟩ := learns
      cases Option.some.inj skeleton
      refine ⟨asked, _, _, _, rfl, ?_, nofun⟩
      intro _ same
      cases Option.some.inj same
      exact ⟨_, now _ before' rfl rfl parsed⟩
  | reduce original =>
      obtain ⟨rfl, rfl⟩ := learns
      cases Option.some.inj skeleton
      exact ⟨asked, _, _, _, rfl, first, nofun⟩
  | after original =>
      obtain ⟨rfl, parsed⟩ := learns
      cases Option.some.inj skeleton
      refine ⟨asked, _, _, _, rfl, first, ?_⟩
      intro _ same
      cases Option.some.inj same
      exact ⟨_, now _ after' rfl rfl parsed⟩
  | restore original =>
      obtain ⟨rfl, rfl⟩ := learns
      cases Option.some.inj skeleton
      exact ⟨asked, _, _, _, rfl, first, second⟩

theorem traced_reached (schedule : List (Choice Int)) (pool : Pool Kernel Worker)
    (reached : (workers probe).machine.exec schedule (Pool.start ⟨initial, 0⟩) = some pool) :
    ∀ index worker, pool.threads[index]? = some worker →
      Traced probe initial schedule index worker := by
  refine (workers probe).machine.history (fun schedule pool => ∀ index worker,
    pool.threads[index]? = some worker → Traced probe initial schedule index worker) _
    (fun index worker found => by cases found) ?_ schedule pool reached
  intro schedule pool choice next reached traced stepped index worker found
  cases choice with
  | spawn asked =>
      rw [Program.step_spawn_iff] at stepped
      subst stepped
      rcases lt_or_ge index pool.threads.length with inside | beyond
      · rw [List.getElem?_append_left inside] at found
        exact traced_later probe initial schedule _ index worker (traced index worker found)
      · rw [List.getElem?_append_right beyond] at found
        cases List.mem_singleton.mp (List.mem_of_getElem? found)
        exact ⟨asked, none, none, .compile, rfl, nofun, nofun⟩
  | run acting =>
      obtain ⟨thread, kernel', thread', at_, ran, rfl⟩ :=
        (Program.step_run_iff _ pool next acting).mp stepped
      rcases getElem?_set_cases _ _ _ _ _ found with ⟨rfl, rfl⟩ | ⟨-, old⟩
      · exact traced_step probe initial schedule pool index thread worker kernel' reached at_
          (traced index thread at_) ran
      · exact traced_later probe initial schedule _ index worker (traced index worker old)

/-- At the probe of a run, the slice is the one that the run has reported. -/
theorem slice_of_probed (schedule : List (Choice Int)) (pool : Pool Kernel Worker)
    (reached : (workers probe).machine.exec schedule (Pool.start ⟨initial, 0⟩) = some pool)
    (along : (workers probe).machine.Along ProbesReportedSlice schedule
      (Pool.start ⟨initial, 0⟩)) (index : Nat) (events : List Event) (slice : Nat)
    (metrics : Option Latency)
    (probed : Probed probe initial schedule index events slice metrics) :
    ProbesUnder slice events := by
  obtain ⟨earlier, later, before, worker, iterations, rfl, run, found, rfl, next, rfl, -⟩ := probed
  rw [Machine.exec_append, run, Option.bind_some] at reached
  obtain ⟨after, stepped, -⟩ := (Machine.exec_cons ..).mp reached
  exact (workers probe).machine.along_at ProbesReportedSlice earlier (.run index) later _ before
    after along run stepped worker found (by rw [next]; rfl)

theorem measuredAsLabelled_iff (schedule : List (Choice Int)) (pool : Pool Kernel Worker)
    (reached : (workers probe).machine.exec schedule (Pool.start ⟨initial, 0⟩) = some pool) :
    MeasuredAsLabelled probe initial schedule pool ↔
      (workers probe).machine.Along ProbesReportedSlice schedule (Pool.start ⟨initial, 0⟩) := by
  refine ⟨MeasuredAsLabelled.probes, fun along => ⟨along, ?_⟩⟩
  intro index worker found ended
  have under := slice_of_probed probe initial schedule pool reached along index
  obtain ⟨asked, before, after, run, rfl, first, second⟩ :=
    traced_reached probe initial schedule pool reached index worker found
  obtain ⟨original, rfl⟩ := (workerAt_ended db asked before after run).mp ended
  obtain ⟨slice, happened⟩ := first original rfl
  obtain ⟨slice', happened'⟩ := second original rfl
  cases (probesUnder_before slice original before after).mp (under _ _ _ happened)
  cases (probesUnder_after slice' original before after).mp (under _ _ _ happened')
  exact ⟨original, before, after, _, rfl, improvement_improves before after, happened, happened'⟩

end Traces

/-- Every probe of a run executes under the slice reported for it, and every
result compares the slices in its note, exactly when the schedule keeps each
probe at its level, as it does when no run writes in another one's measuring
window. -/
theorem probes_reported_slice_iff {db : CharDb} (probe : Probe db) (initial : Nat)
    (schedule : List (Choice Int)) (pool : Pool Kernel Worker)
    (reached : (workers probe).machine.exec schedule (Pool.start ⟨initial, 0⟩) = some pool) :
    (nestingMachine.Along (fun pool choice _ => WritesOutsideWindows pool choice)
          schedule (Pool.start 0) →
        MeasuredAsLabelled probe initial schedule pool) ∧
      (MeasuredAsLabelled probe initial schedule pool ↔
        nestingMachine.Along (ProbesItsLevel initial) schedule (Pool.start 0)) := by
  have same := Machine.along_iff_of_simulation (workers probe).machine nestingMachine
    (PoolRel (HoldsLevel initial) (FollowsLevel initial db))
    (fun pool levels choice next related stepped =>
      workers_step probe initial pool next levels choice related stepped)
    ProbesReportedSlice (ProbesItsLevel initial)
    (fun pool levels choice next next' related _ _ =>
      probes_agree initial pool next levels next' choice related)
    schedule _ pool _ (start_related initial) reached
  rw [measuredAsLabelled_iff probe initial schedule pool reached]
  exact ⟨fun outside => same.mpr (probesItsLevel_of_outside initial schedule outside), same⟩

/-- Two runs, the second started once the first has written its slice back. -/
def consecutive : List (Choice Int) :=
  [.spawn 300, .run 0, .run 0, .run 0, .run 0, .run 0, .run 0,
    .spawn 300, .run 1, .run 1, .run 1, .run 1, .run 1, .run 1]

theorem probes_reported_slice_consecutive_runs :
    ∃ pool, (workers steadyProbe).machine.exec consecutive (Pool.start ⟨3000, 0⟩) = some pool ∧
      pool.threads.length = 2 ∧ (∀ worker ∈ pool.threads, worker.Ended) ∧
        MeasuredAsLabelled steadyProbe 3000 consecutive pool := by
  have reaches : ∃ pool ∈ (workers steadyProbe).machine.exec consecutive
      (Pool.start ⟨3000, 0⟩), pool.threads.length = 2 ∧ ∀ worker ∈ pool.threads, worker.Ended := by
    decide +kernel
  obtain ⟨pool, reached, two, ended⟩ := reaches
  exact ⟨pool, reached, two, ended,
    (probes_reported_slice_iff steadyProbe 3000 consecutive pool reached).2.mpr (by decide)⟩

/-- The second run reads the slice before the first one's reducing write and
is about to probe after it. -/
def reducedMeanwhile : List (Choice Int) :=
  [.spawn 300, .spawn 300, .run 0, .run 0, .run 0, .run 1, .run 1, .run 0]

theorem overlapping_run_probes_reduced_slice :
    ∃ pool worker, (workers steadyProbe).machine.exec reducedMeanwhile
        (Pool.start ⟨3000, 0⟩) = some pool ∧
      pool.shared.baseSliceNs = 1000 ∧ pool.threads[1]? = some worker ∧
      nextProbe worker = some 300 ∧
      worker.events = [.start "scheduler_optimization", .sampleSlice "before" 3000] ∧
      ¬ ProbesReportedSlice pool (.run 1) pool := by
  have outcome : ∃ pool ∈ (workers steadyProbe).machine.exec reducedMeanwhile
      (Pool.start ⟨3000, 0⟩), pool.shared.baseSliceNs = 1000 ∧
        ∃ worker ∈ pool.threads[1]?, nextProbe worker = some 300 ∧
          worker.events = [.start "scheduler_optimization", .sampleSlice "before" 3000] := by
    decide +kernel
  obtain ⟨pool, reached, reduced, worker, found, probes, yielded⟩ := outcome
  refine ⟨pool, worker, reached, reduced, found, probes, yielded, fun reports => ?_⟩
  have under := reports worker found (by rw [probes]; rfl)
  rw [reduced, yielded] at under
  cases under

end KernelSprint.SliceProbes

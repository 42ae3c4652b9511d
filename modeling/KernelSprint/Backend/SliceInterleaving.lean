import KernelSprint.Backend.SchedulerExperiment

/-!
# Overlapping scheduler experiments

Which interleavings give the slice back, and which probe under the slice they
report, depends on the order of the steps alone.  It is tracked by running
the same schedule over nesting levels: a reducing write leaves one level more
than its run read, a restoring write the level its run read.  The slice at
level `n` is the initial one divided by three `n` times.
-/

set_option autoImplicit false

namespace KernelSprint.SliceInterleaving

open Labelled Interleaving PyText SchedulerExperiment

def nestingMachine : Machine (Pool Nat (SliceRun Nat)) (Choice Int) :=
  (sliceProgram (· + 1)).machine

/-- The level that a schedule leaves in the cell. -/
def nesting (schedule : List (Choice Int)) : Nat :=
  match nestingMachine.exec schedule (Pool.start 0) with
  | some pool => pool.shared
  | none => 0

def sliceAt (initial level : Nat) : Nat := initial / 3 ^ level

theorem sliceAt_succ (initial level : Nat) :
    sliceAt initial (level + 1) = sliceAt initial level / 3 := by
  rw [sliceAt, sliceAt, pow_succ, Nat.div_div_eq_div_mul]

theorem sliceAt_eq_initial_iff (initial level : Nat) :
    sliceAt initial level = initial ↔ initial = 0 ∨ level = 0 := by
  rw [sliceAt, Nat.div_eq_self]
  simp

/-- Two levels hold the same slice. -/
def SameSlice (initial first second : Nat) : Prop :=
  first = second ∨ initial < 3 ^ first ∧ initial < 3 ^ second

theorem sliceAt_lt (initial first second : Nat) (deeper : first < second)
    (positive : 0 < sliceAt initial first) :
    sliceAt initial second < sliceAt initial first := by
  obtain ⟨extra, rfl⟩ := Nat.exists_eq_add_of_lt deeper
  have split : sliceAt initial (first + extra + 1) =
      sliceAt initial first / 3 ^ (extra + 1) := by
    rw [sliceAt, sliceAt, Nat.div_div_eq_div_mul, ← pow_add, Nat.add_assoc]
  rw [split]
  exact Nat.div_lt_self positive (Nat.one_lt_pow (by omega) (by omega))

theorem sliceAt_eq_iff (initial first second : Nat) :
    sliceAt initial first = sliceAt initial second ↔ SameSlice initial first second := by
  have zero : ∀ level, sliceAt initial level = 0 ↔ initial < 3 ^ level := by
    intro level
    rw [sliceAt, Nat.div_eq_zero_iff]
    simp
  constructor
  · intro same
    rcases Nat.eq_zero_or_pos (sliceAt initial first) with none | positive
    · exact Or.inr ⟨(zero first).mp none, (zero second).mp (same ▸ none)⟩
    · rcases Nat.lt_trichotomy first second with before | equal | after
      · have := sliceAt_lt initial first second before positive
        omega
      · exact Or.inl equal
      · have := sliceAt_lt initial second first after (same ▸ positive)
        omega
  · rintro (rfl | ⟨firstZero, secondZero⟩)
    · rfl
    · rw [(zero first).mpr firstZero, (zero second).mpr secondZero]

/-! ## The workers run on nesting levels -/

def mapRun (f : Nat → Nat) : SliceRun Nat → SliceRun Nat
  | .compile => .compile
  | .read => .read
  | .before original => .before (f original)
  | .reduce original => .reduce (f original)
  | .after original => .after (f original)
  | .restore original => .restore (f original)
  | .finished original => .finished (f original)

theorem sliceProgram_step_map (lower lower' f : Nat → Nat)
    (commutes : ∀ slice, f (lower slice) = lower' (f slice))
    (slice : Nat) (run : SliceRun Nat) :
    (sliceProgram lower').step (f slice) (mapRun f run) =
      ((sliceProgram lower).step slice run).map fun result =>
        (f result.1, mapRun f result.2) := by
  cases run <;> simp [sliceProgram, mapRun, commutes]

section Workers

variable {db : CharDb} (probe : Probe db) (initial : Nat)

def HoldsLevel (kernel : Kernel) (level : Nat) : Prop :=
  kernel.baseSliceNs = sliceAt initial level

def FollowsLevel (db : CharDb) (worker : Worker) (run : SliceRun Nat) : Prop :=
  Follows db worker (mapRun (sliceAt initial) run)

theorem workers_step (pool next : Pool Kernel Worker) (levels : Pool Nat (SliceRun Nat))
    (choice : Choice Int)
    (related : PoolRel (HoldsLevel initial) (FollowsLevel initial db) pool levels)
    (stepped : (workers probe).machine.step pool choice = some next) :
    ∃ next', nestingMachine.step levels choice = some next' ∧
      PoolRel (HoldsLevel initial) (FollowsLevel initial db) next next' := by
  refine Program.step_simulation (workers probe) (sliceProgram (· + 1)) _ _
    (fun iterations => ⟨iterations, none, none, rfl⟩) ?_ pool levels choice next related stepped
  intro kernel level worker run kernel' worker' holds follows ran
  obtain ⟨slice', run', skeleton, sliceEq, follows'⟩ :=
    worker_step probe kernel kernel' worker worker' _ follows ran
  rw [show kernel.baseSliceNs = sliceAt initial level from holds,
    sliceProgram_step_map (· + 1) (· / 3) (sliceAt initial) (sliceAt_succ initial)] at skeleton
  obtain ⟨⟨level', levelRun'⟩, levelStep, mapped⟩ := Option.map_eq_some_iff.mp skeleton
  cases mapped
  exact ⟨level', levelRun', levelStep, sliceEq, follows'⟩

theorem start_related :
    PoolRel (HoldsLevel initial) (FollowsLevel initial db)
      (Pool.start ⟨initial, 0⟩) (Pool.start 0) :=
  ⟨by simp [HoldsLevel, Pool.start, sliceAt], List.Forall₂.nil⟩

theorem workers_exec (schedule : List (Choice Int)) (pool : Pool Kernel Worker)
    (reached : (workers probe).machine.exec schedule (Pool.start ⟨initial, 0⟩) = some pool) :
    ∃ levels, nestingMachine.exec schedule (Pool.start 0) = some levels ∧
      PoolRel (HoldsLevel initial) (FollowsLevel initial db) pool levels :=
  Machine.exec_simulation _ nestingMachine _
    (fun pool levels choice next related stepped =>
      workers_step probe initial pool next levels choice related stepped)
    schedule _ pool _ (start_related initial) reached

end Workers

/-! ## Giving the slice back -/

/-- The run's reduced slice may be in the cell. -/
def Reduced : SliceRun Nat → Prop
  | .after _ => True
  | .restore _ => True
  | _ => False

/-- The slice that the run has read, if it has. -/
def original : SliceRun Nat → Option Nat
  | .compile => none
  | .read => none
  | .before original => some original
  | .reduce original => some original
  | .after original => some original
  | .restore original => some original
  | .finished original => some original

/-- No run reads the original slice while another one has it reduced. -/
def ReadsUnreduced (pool : Pool Nat (SliceRun Nat)) (choice : Choice Int)
    (_next : Pool Nat (SliceRun Nat)) : Prop :=
  pool.acting choice = some .read → ∀ run ∈ pool.threads, ¬ Reduced run

instance : DecidablePred Reduced
  | .after _ | .restore _ => isTrue trivial
  | .compile | .read | .before _ | .reduce _ | .finished _ => isFalse id

instance (pool next : Pool Nat (SliceRun Nat)) (choice : Choice Int) :
    Decidable (ReadsUnreduced pool choice next) :=
  inferInstanceAs (Decidable (_ → ∀ run ∈ pool.threads, ¬ Reduced run))

/-- Every run has read level zero, and only a reduced slice is deeper. -/
def Unstacked (pool : Pool Nat (SliceRun Nat)) : Prop :=
  (∀ run ∈ pool.threads, ∀ level, original run = some level → level = 0) ∧
    (pool.shared = 0 ∨ ∃ run ∈ pool.threads, Reduced run)

theorem unstacked_step (pool next : Pool Nat (SliceRun Nat)) (choice : Choice Int)
    (unstacked : Unstacked pool) (met : ReadsUnreduced pool choice next)
    (stepped : nestingMachine.step pool choice = some next) : Unstacked next := by
  obtain ⟨originals, cell⟩ := unstacked
  cases choice with
  | spawn iterations =>
      rw [nestingMachine, Program.step_spawn_iff] at stepped
      subst stepped
      constructor
      · intro run member
        rcases List.mem_append.mp member with old | new
        · exact originals run old
        · rw [List.mem_singleton.mp new]
          intro level read
          cases read
      · rcases cell with zero | ⟨run, member, reduced⟩
        · exact Or.inl zero
        · exact Or.inr ⟨run, List.mem_append_left _ member, reduced⟩
  | run index =>
      obtain ⟨thread, shared', thread', found, ran, rfl⟩ :=
        (Program.step_run_iff _ pool next index).mp stepped
      have kept : ∀ run ∈ pool.threads, ¬ Reduced thread → Reduced run →
          run ∈ pool.threads.set index thread' := by
        intro run member plain reduced
        refine mem_set_of_ne _ index thread thread' run found member ?_
        rintro rfl
        exact plain reduced
      have self := mem_set_self pool.threads index thread thread' found
      have before := originals thread (List.mem_of_getElem? found)
      suffices own : (∀ level, original thread' = some level → level = 0) ∧
          (shared' = 0 ∨ ∃ run ∈ pool.threads.set index thread', Reduced run) by
        refine ⟨?_, own.2⟩
        intro run member
        rcases List.mem_or_eq_of_mem_set member with old | rfl
        · exact originals run old
        · exact own.1
      cases thread with
      | compile =>
          cases Option.some.inj ran
          exact ⟨(fun _ h => by cases h), cell.imp_right fun ⟨run, member, reduced⟩ =>
            ⟨run, kept run member id reduced, reduced⟩⟩
      | read =>
          cases Option.some.inj ran
          have zero : pool.shared = 0 := by
            rcases cell with zero | ⟨run, member, reduced⟩
            · exact zero
            · exact absurd reduced (met found run member)
          exact ⟨fun _ h => (Option.some.inj h).symm.trans zero, Or.inl zero⟩
      | before level =>
          cases Option.some.inj ran
          exact ⟨before, cell.imp_right fun ⟨run, member, reduced⟩ =>
            ⟨run, kept run member id reduced, reduced⟩⟩
      | reduce level =>
          cases Option.some.inj ran
          exact ⟨before, Or.inr ⟨_, self, trivial⟩⟩
      | after level =>
          cases Option.some.inj ran
          exact ⟨before, Or.inr ⟨_, self, trivial⟩⟩
      | restore level =>
          cases Option.some.inj ran
          exact ⟨before, Or.inl (before _ rfl)⟩
      | finished level => cases ran

def AllFinished (pool : Pool Nat (SliceRun Nat)) : Prop :=
  ∀ run ∈ pool.threads, ∃ level, run = .finished level

theorem unstacked_of_along (schedule : List (Choice Int)) (levels : Pool Nat (SliceRun Nat))
    (exclusive : nestingMachine.Along ReadsUnreduced schedule (Pool.start 0))
    (run : nestingMachine.exec schedule (Pool.start 0) = some levels)
    (finished : AllFinished levels) : levels.shared = 0 := by
  have unstacked := nestingMachine.invariant_of_along Unstacked ReadsUnreduced
    (fun pool choice next holds met stepped => unstacked_step pool next choice holds met stepped)
    schedule (Pool.start 0) levels ⟨List.forall_mem_nil _, Or.inl rfl⟩ exclusive run
  rcases unstacked.2 with zero | ⟨reducedRun, member, reduced⟩
  · exact zero
  · obtain ⟨level, rfl⟩ := finished reducedRun member
    exact absurd reduced id

theorem allFinished_of_ended (db : CharDb) (initial : Nat) (pool : Pool Kernel Worker)
    (levels : Pool Nat (SliceRun Nat))
    (related : PoolRel (HoldsLevel initial) (FollowsLevel initial db) pool levels)
    (ended : ∀ worker ∈ pool.threads, worker.Ended) : AllFinished levels := by
  intro run member
  obtain ⟨index, found⟩ := List.mem_iff_getElem?.mp member
  obtain ⟨worker, workerFound, follows⟩ :=
    forall₂_getElem? (List.Forall₂.flip related.2) index run found
  have done := ended worker (List.mem_of_getElem? workerFound)
  obtain ⟨asked, before, after, rfl⟩ := follows
  obtain ⟨slice, mapped⟩ := (workerAt_ended db asked before after _).mp done
  cases run with
  | finished level => exact ⟨level, rfl⟩
  | _ => cases mapped

/-- Once every started run has ended, the kernel has its slice back if no run
read while another had it reduced, and in general exactly when the schedule
leaves no level stacked. -/
theorem base_slice_given_back_iff {db : CharDb} (probe : Probe db) (initial : Nat)
    (schedule : List (Choice Int)) (pool : Pool Kernel Worker)
    (reached : (workers probe).machine.exec schedule (Pool.start ⟨initial, 0⟩) = some pool)
    (ended : ∀ worker ∈ pool.threads, worker.Ended) :
    (nestingMachine.Along ReadsUnreduced schedule (Pool.start 0) →
        pool.shared.baseSliceNs = initial) ∧
      (pool.shared.baseSliceNs = initial ↔ initial = 0 ∨ nesting schedule = 0) := by
  obtain ⟨levels, run, related⟩ := workers_exec probe initial schedule pool reached
  have holds : pool.shared.baseSliceNs = sliceAt initial levels.shared := related.1
  have nested : nesting schedule = levels.shared := by simp only [nesting, run]
  rw [holds, nested]
  refine ⟨?_, sliceAt_eq_initial_iff initial levels.shared⟩
  intro exclusive
  rw [unstacked_of_along schedule levels exclusive run
    (allFinished_of_ended db initial pool levels related ended)]
  simp [sliceAt]

/-- A probe that prints the same report every time. -/
def steadyProbe : Probe .ascii where
  stdout _ _ := "mean_us=2 min_us=1 max_us=3 p50_us=2 p99_us=3"
  decodes _ _ := ⟨some ⟨2, 1, 3, 2, 3⟩, by decide +kernel⟩

/-- Two runs that compile at the same time; the second reads the slice once the
first has written it back. -/
def inTurn : List (Choice Int) :=
  [.spawn 300, .spawn 200, .run 0, .run 1, .run 0, .run 0, .run 0, .run 0, .run 0,
    .run 1, .run 1, .run 1, .run 1, .run 1]

theorem base_slice_given_back_in_turn :
    ∃ pool, (workers steadyProbe).machine.exec inTurn (Pool.start ⟨3000, 0⟩) = some pool ∧
      pool.threads.length = 2 ∧ nestingMachine.Along ReadsUnreduced inTurn (Pool.start 0) ∧
        pool.shared.baseSliceNs = 3000 := by
  have ends : ∃ pool ∈ (workers steadyProbe).machine.exec inTurn (Pool.start ⟨3000, 0⟩),
      pool.threads.length = 2 ∧ ∀ worker ∈ pool.threads, worker.Ended := by decide +kernel
  obtain ⟨pool, reached, two, ended⟩ := ends
  have unreduced : nestingMachine.Along ReadsUnreduced inTurn (Pool.start 0) := by decide
  exact ⟨pool, reached, two, unreduced,
    (base_slice_given_back_iff steadyProbe 3000 inTurn pool reached ended).1 unreduced⟩

/-- The second run reads what the first has reduced and restores that last. -/
def overlapping : List (Choice Int) :=
  [.spawn 300, .spawn 300, .run 0, .run 0, .run 0, .run 0, .run 1, .run 1, .run 1,
    .run 0, .run 0, .run 1, .run 1, .run 1]

theorem overlapping_runs_retune_kernel :
    ∃ pool, (workers steadyProbe).machine.exec overlapping (Pool.start ⟨3000, 0⟩) = some pool ∧
      (∀ worker ∈ pool.threads, worker.Ended) ∧ pool.shared.baseSliceNs = 1000 := by
  have outcome : ∃ pool ∈ (workers steadyProbe).machine.exec overlapping
      (Pool.start ⟨3000, 0⟩), (∀ worker ∈ pool.threads, worker.Ended) ∧
        pool.shared.baseSliceNs = 1000 := by decide +kernel
  exact outcome

end KernelSprint.SliceInterleaving

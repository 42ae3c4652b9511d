import KernelSprint.Backend.MeasuredCreation
import KernelSprint.Backend.SchedulerExperiment
import KernelSprint.Benchmark.LatencyProbe

/-!
# What the scheduler experiment reports

Any number of runs of the experiment, each of which starts the latency probe
twice: what the client gets of a probe is what the probe has measured, and the
sign of the improvement is right.
-/

set_option autoImplicit false

namespace KernelSprint.MeasuredScheduling

open Interleaving Generators Generators.Gen PyText Decimal Ranks BenchmarkOutput
open LatencyProbe SchedulerExperiment
open Percentiles (Figures Faithful micros)
open ProcessCreation (printed)
open MeasuredCreation (Near near_printed)
open ReportRoundTrip (printedLatency parseLatency_schedulerLatency)

/-! ## A run of the probe -/

/-- The readings of the clock in one run of `scheduler_latency`, whose second
argument is always 2000. -/
structure ProbeRun where
  start : Timespec
  normalised : start.Normalised
  actuals : List Timespec
  measured : actuals ≠ []
  ncpus : Nat
  noOverflow : NoOverflow 2000 start.instant actuals

namespace ProbeRun

variable (qsort : Qsort Int64) (run : ProbeRun)

/-- How late each wake-up was. -/
def lateness : List Int :=
  run.actuals.mapIdx fun k actual => max 0 (actual.instant - deadline 2000 run.start.instant (k + 1))

def figures : Option Figures := main qsort 2000 run.start run.actuals

def stdout : String :=
  match run.figures qsort with
  | some figures => Reports.schedulerLatency run.actuals.length 2000 run.ncpus (printed figures)
  | none => ""

/-- The figures are, to half a thousandth of a microsecond, those that the
program makes of the lateness of the wake-ups. -/
structure Shows (latency : Latency) (figures : Figures) : Prop where
  reported : run.figures qsort = some figures
  near : Near latency figures
  faithful : ∃ samples : List Int64, samples.map Int64.toInt = run.lateness ∧
    Percentiles.schedulerLatency qsort samples = some figures ∧ Faithful samples figures

theorem lateness_of_undrifted (taken : List LatencyProbe.Probe)
    (undrifted : Undrifted 2000 run.start.instant run.actuals taken) :
    (taken.map LatencyProbe.Probe.sampleNs).map Int64.toInt = run.lateness := by
  obtain ⟨sameLength, exact⟩ := undrifted
  refine List.ext_getElem? fun k => ?_
  rw [List.map_map, List.getElem?_map, lateness, List.getElem?_mapIdx]
  cases atActual : run.actuals[k]? with
  | none =>
      have beyond := List.getElem?_eq_none_iff.mp atActual
      rw [List.getElem?_eq_none (sameLength ▸ beyond)]
      rfl
  | some actual =>
      have inside := (List.getElem?_eq_some_iff.mp atActual).1
      obtain ⟨probe, atProbe⟩ : ∃ probe, taken[k]? = some probe :=
        ⟨_, List.getElem?_eq_getElem (sameLength.symm ▸ inside)⟩
      rw [atProbe]
      exact congrArg some (exact k actual probe atActual atProbe).sample

theorem lateness_nonneg : ∀ late ∈ run.lateness, 0 ≤ late := by
  intro late member
  obtain ⟨k, inside, rfl⟩ := List.mem_mapIdx.mp member
  exact le_max_left _ _

theorem shown : ∃ figures, run.Shows qsort (printedLatency (printed figures)) figures := by
  obtain ⟨taken, figures, ran, undrifted, faithful⟩ := main_faithful 2000 qsort run.start
    run.normalised (by decide) run.actuals run.measured run.noOverflow
  have late := run.lateness_of_undrifted taken undrifted
  have probed := (probes_eq_some 2000 (by decide) run.actuals run.start run.normalised taken).mpr
    ⟨run.noOverflow, undrifted⟩
  have reported : Percentiles.schedulerLatency qsort (taken.map LatencyProbe.Probe.sampleNs) =
      some figures := by
    rw [main, probed] at ran
    exact ran
  refine ⟨figures, ran, near_printed _ _ faithful ?_, _, late, reported, faithful⟩
  obtain ⟨sample, member, least⟩ := List.mem_map.mp faithful.minSampled
  have nonneg := run.lateness_nonneg sample.toInt (late ▸ List.mem_map_of_mem member)
  rw [← least, micros]
  positivity

theorem decoded (db : CharDb) (figures : Figures) (ran : run.figures qsort = some figures) :
    parseLatency db (run.stdout qsort) = .ok (some (printedLatency (printed figures))) := by
  unfold stdout
  rw [ran]
  exact parseLatency_schedulerLatency db _ _ _ _

end ProbeRun

/-! ## The improvement -/

/-- The sign of a reported improvement is that of the true one. -/
structure RightSign (improvement : Option ℚ) (before after : ℚ) : Prop where
  lowered : ∀ pct ∈ improvement, 0 < pct → after < before
  raised : ∀ pct ∈ improvement, pct < 0 → before < after

theorem lt_of_written_lt (x y : ℚ) (less : written 3 x.toNNRat < written 3 y.toNNRat) : x < y := by
  by_contra crossed
  have le : y.toNNRat ≤ x.toNNRat := NNRat.toNNRat_mono (not_lt.mp crossed)
  rw [written_eq_round, written_eq_round] at less
  exact absurd (round_mono _ _ 3 (by exact_mod_cast le)) (not_le.mpr less)

theorem round_zero (digits : Nat) : round 0 digits = 0 := by
  unfold PyText.round
  rw [zero_mul]
  norm_num [roundHalfEven]

theorem pos_of_round_pos (x : ℚ) (digits : Nat) (positive : 0 < round x digits) : 0 < x := by
  by_contra crossed
  have le := round_mono x 0 digits (not_lt.mp crossed)
  rw [round_zero] at le
  exact absurd positive (not_lt.mpr le)

theorem neg_of_round_neg (x : ℚ) (digits : Nat) (negative : round x digits < 0) : x < 0 := by
  by_contra crossed
  have le := round_mono 0 x digits (not_lt.mp crossed)
  rw [round_zero] at le
  exact absurd negative (not_lt.mpr le)

theorem improvement_rightSign (before after : Figures) :
    RightSign (improvement (some (printedLatency (printed before)))
      (some (printedLatency (printed after)))) before.p99Us after.p99Us := by
  have nonneg : 0 ≤ written 3 before.p99Us.toNNRat := by
    rw [written_eq_round, ← round_zero 3]
    exact round_mono _ _ 3 (NNRat.coe_nonneg _)
  have change : ∀ pct ∈ improvement (some (printedLatency (printed before)))
      (some (printedLatency (printed after))), 0 < written 3 before.p99Us.toNNRat ∧
        pct = round ((written 3 before.p99Us.toNNRat - written 3 after.p99Us.toNNRat) /
          written 3 before.p99Us.toNNRat * 100) 1 := by
    intro pct reported
    simp only [improvement, Option.mem_def, Option.ite_none_right_eq_some, Option.some.injEq]
      at reported
    exact ⟨lt_of_le_of_ne nonneg (Ne.symm reported.1.1), reported.2.symm⟩
  refine ⟨fun pct reported positive => ?_, fun pct reported negative => ?_⟩
  · obtain ⟨divisor, rfl⟩ := change pct reported
    have gained := pos_of_round_pos _ _ positive
    refine lt_of_written_lt _ _ (not_le.mp fun crossed => ?_)
    have share := div_nonpos_of_nonpos_of_nonneg (sub_nonpos.mpr crossed) divisor.le
    linarith
  · obtain ⟨divisor, rfl⟩ := change pct reported
    have lost := neg_of_round_neg _ _ negative
    refine lt_of_written_lt _ _ (not_le.mp fun crossed => ?_)
    have share := div_nonneg (sub_nonneg.mpr crossed) divisor.le
    linarith

/-! ## The runs of the experiment -/

/-- The probe that is started at a given time with given iterations. -/
structure Bench where
  run : Nat → Int → ProbeRun
  all : ∀ clock iterations, 50 ≤ iterations → iterations ≤ 5000 →
    ((run clock iterations).actuals.length : Int) = iterations

/-- The probe has as many wake-ups as the client has asked for. -/
def Bench.Wakeups (bench : Bench) (asked : Int) (clock : Nat) : Prop :=
  ((bench.run clock (clamped asked)).lateness.length : Int) = clamped asked

theorem Bench.wakeups (bench : Bench) (asked : Int) (clock : Nat) : bench.Wakeups asked clock := by
  unfold Wakeups ProbeRun.lateness
  rw [List.length_mapIdx]
  exact bench.all clock (clamped asked) (by unfold clamped; omega) (by unfold clamped; omega)

section Runs

variable {db : CharDb} (qsort : Qsort Int64) (bench : Bench)

def probe (db : CharDb) : SchedulerExperiment.Probe db where
  stdout clock iterations := (bench.run clock iterations).stdout qsort
  decodes clock iterations := by
    obtain ⟨figures, shows⟩ := (bench.run clock iterations).shown qsort
    exact ⟨_, ProbeRun.decoded qsort _ db figures shows.reported⟩

/-- The figures printed by the probe that was started at the time. -/
def Took (asked : Int) (clock : Nat) (latency : Latency) : Prop :=
  ∃ figures, (bench.run clock (clamped asked)).figures qsort = some figures ∧
    latency = printedLatency (printed figures)

theorem took_decoded (db : CharDb) (asked : Int) (clock : Nat) :
    ∃ latency, Took qsort bench asked clock latency ∧
      parseLatency db ((probe qsort bench db).stdout clock (clamped asked)) =
        .ok (some latency) := by
  obtain ⟨figures, shows⟩ := (bench.run clock (clamped asked)).shown qsort
  exact ⟨_, ⟨figures, shows.reported, rfl⟩, ProbeRun.decoded qsort _ db figures shows.reported⟩

/-- What is known at a time of the probes of a run: when they were started, and
in this order. -/
def Knows (asked : Int) (clock : Nat) (before after : Option Latency) : SliceRun Nat → Prop
  | .compile | .read | .before _ => True
  | .reduce _ | .after _ => ∃ first latency, first < clock ∧ before = some latency ∧
      Took qsort bench asked first latency
  | .restore _ | .finished _ => ∃ first second latency latency', first < second ∧
      before = some latency ∧ after = some latency' ∧ Took qsort bench asked first latency ∧
        Took qsort bench asked second latency'

def Reached (db : CharDb) (asked : Int) (clock : Nat) (worker : Worker) : Prop :=
  ∃ before after run, worker = workerAt db asked before after run ∧
    Knows qsort bench asked clock before after run

theorem knows_kept (asked : Int) (clock clock' : Nat) (le : clock ≤ clock')
    (before after : Option Latency) (run : SliceRun Nat)
    (knows : Knows qsort bench asked clock before after run) :
    Knows qsort bench asked clock' before after run := by
  cases run with
  | compile | read | before _ => trivial
  | reduce _ | after _ =>
      obtain ⟨first, latency, past, same, took⟩ := knows
      exact ⟨first, latency, past.trans_le le, same, took⟩
  | restore _ | finished _ => exact knows

theorem took_of_parsed (asked : Int) (clock : Nat) (metrics : Option Latency)
    (parsed : parseLatency db ((probe qsort bench db).stdout clock (clamped asked)) =
      .ok metrics) : ∃ latency, metrics = some latency ∧ Took qsort bench asked clock latency := by
  obtain ⟨latency, took, decoded⟩ := took_decoded qsort bench db asked clock
  exact ⟨latency, Except.ok.inj (parsed.symm.trans decoded), took⟩

theorem clock_step (kernel kernel' : Kernel) (worker worker' : Worker)
    (stepped : (workers (probe qsort bench db)).step kernel worker = some (kernel', worker')) :
    kernel'.clock = kernel.clock + 1 := by
  unfold workers program at stepped
  dsimp only at stepped
  split at stepped
  · next request resume calls =>
      cases Option.some.inj stepped
      cases request <;> rfl
  · cases stepped

theorem reached_step (asked : Int) (kernel kernel' : Kernel) (worker worker' : Worker)
    (reached : Reached qsort bench db asked kernel.clock worker)
    (stepped : (workers (probe qsort bench db)).step kernel worker = some (kernel', worker')) :
    Reached qsort bench db asked kernel'.clock worker' := by
  obtain ⟨before, after, run, rfl, knows⟩ := reached
  obtain ⟨slice', run', before', after', skeleton, rfl, rfl, learns⟩ :=
    workerAt_step (probe qsort bench db) _ _ _ asked before after run stepped
  refine ⟨before', after', run', rfl, ?_⟩
  cases run with
  | compile | read =>
      cases Option.some.inj skeleton
      trivial
  | before original =>
      cases Option.some.inj skeleton
      obtain ⟨latency, same, took⟩ := took_of_parsed qsort bench asked _ _ learns.1
      exact ⟨kernel.clock, latency, Nat.lt_succ_self _, same, took⟩
  | reduce original =>
      cases Option.some.inj skeleton
      obtain ⟨rfl, rfl⟩ := learns
      exact knows_kept qsort bench asked _ _ (Nat.le_succ _) before' after' (.after original) knows
  | after original =>
      cases Option.some.inj skeleton
      obtain ⟨rfl, parsed⟩ := learns
      obtain ⟨first, latency, past, same, took⟩ := knows
      obtain ⟨latency', same', took'⟩ := took_of_parsed qsort bench asked _ _ parsed
      exact ⟨first, kernel.clock, latency, latency', past, same, same', took, took'⟩
  | restore original =>
      cases Option.some.inj skeleton
      obtain ⟨rfl, rfl⟩ := learns
      exact knows
  | finished original => cases skeleton

/-- What the client of a run is told is true of two runs of the probe, the
second of which was started after the first. -/
def Told (asked : Int) (worker : Worker) : Prop :=
  ∃ (original first second : Nat) (before after : Latency) (figures figures' : Figures),
    first < second ∧ bench.Wakeups asked first ∧ bench.Wakeups asked second ∧
      worker.events <+: script original (some before) (some after) ∧
      (worker.Ended → worker.events = script original (some before) (some after)) ∧
      (bench.run first (clamped asked)).Shows qsort before figures ∧
      (bench.run second (clamped asked)).Shows qsort after figures' ∧
      RightSign (improvement (some before) (some after)) figures.p99Us figures'.p99Us

theorem told_of_took (asked : Int) (worker : Worker) (original first second : Nat)
    (before after : Latency) (order : first < second) (took : Took qsort bench asked first before)
    (took' : Took qsort bench asked second after)
    (begun : worker.events <+: script original (some before) (some after))
    (whole : worker.Ended → worker.events = script original (some before) (some after)) :
    Told qsort bench asked worker := by
  obtain ⟨figures, ran, rfl⟩ := took
  obtain ⟨figures', ran', rfl⟩ := took'
  obtain ⟨_, shows⟩ := (bench.run first (clamped asked)).shown qsort
  obtain ⟨_, shows'⟩ := (bench.run second (clamped asked)).shown qsort
  cases Option.some.inj (ran.symm.trans shows.reported)
  cases Option.some.inj (ran'.symm.trans shows'.reported)
  exact ⟨original, first, second, _, _, figures, figures', order,
    bench.wakeups asked first, bench.wakeups asked second, begun, whole, shows, shows',
    improvement_rightSign figures figures'⟩

theorem reached_told (asked : Int) (clock : Nat) (worker : Worker)
    (reached : Reached qsort bench db asked clock worker) : Told qsort bench asked worker := by
  obtain ⟨now, tookNow, -⟩ := took_decoded qsort bench db asked clock
  obtain ⟨later, tookLater, -⟩ := took_decoded qsort bench db asked (clock + 1)
  have order := Nat.lt_succ_self clock
  obtain ⟨before, after, run, rfl, knows⟩ := reached
  cases run with
  | compile =>
      exact told_of_took qsort bench asked _ 0 clock (clock + 1) now later order tookNow tookLater
        ⟨_, rfl⟩ False.elim
  | read =>
      exact told_of_took qsort bench asked _ 0 clock (clock + 1) now later order tookNow tookLater
        ⟨_, rfl⟩ False.elim
  | before original =>
      exact told_of_took qsort bench asked _ original clock (clock + 1) now later order tookNow
        tookLater ⟨_, rfl⟩ False.elim
  | reduce original =>
      obtain ⟨first, before, past, rfl, took⟩ := knows
      exact told_of_took qsort bench asked _ original first clock before now past took tookNow
        ⟨_, rfl⟩ False.elim
  | after original =>
      obtain ⟨first, before, past, rfl, took⟩ := knows
      exact told_of_took qsort bench asked _ original first clock before now past took tookNow
        ⟨_, rfl⟩ False.elim
  | restore original =>
      obtain ⟨first, second, before, after, order, rfl, rfl, took, took'⟩ := knows
      exact told_of_took qsort bench asked _ original first second before after order took took'
        ⟨_, rfl⟩ False.elim
  | finished original =>
      obtain ⟨first, second, before, after, order, rfl, rfl, took, took'⟩ := knows
      exact told_of_took qsort bench asked _ original first second before after order took took'
        (List.prefix_refl _) fun _ => rfl

/-- Of any number of runs of the experiment, however they are interleaved, each
tells its client what its own two probes have measured, in this order, and
whether the tail of the lateness has become shorter. -/
theorem measurements_truthful (db : CharDb) (schedule : List (Choice Int)) (kernel : Kernel)
    (pool : Pool Kernel Worker)
    (reached : (workers (probe qsort bench db)).machine.exec schedule (Pool.start kernel) =
      some pool) :
    List.Forall₂ (Told qsort bench) (spawned schedule) pool.threads := by
  refine ((workers (probe qsort bench db)).spawned_related
    (fun kernel asked worker => Reached qsort bench db asked kernel.clock worker)
    (fun _ _ => ⟨none, none, .compile, rfl, trivial⟩) ?_ kernel schedule pool reached).imp
    fun asked worker reached => reached_told qsort bench asked _ worker reached
  intro kernel kernel' worker worker' stepped
  refine ⟨fun asked reached => reached_step qsort bench asked _ _ _ _ reached stepped, ?_⟩
  intro asked other reached
  have later := clock_step qsort bench _ _ _ _ stepped
  obtain ⟨before, after, run, stands, knows⟩ := reached
  exact ⟨before, after, run, stands, knows_kept qsort bench asked _ _ (by omega) before after run
    knows⟩

end Runs

theorem noOverflow_stopped (iterations : Nat) (few : iterations ≤ 5000) :
    NoOverflow 2000 (Timespec.instant ⟨0, 0⟩) (List.replicate iterations ⟨20, 0⟩) := by
  refine noOverflow_of_early 2000 0 _ (fun actual member => ?_) (by decide) (by decide) ?_
  · rw [(List.mem_replicate.mp member).2]
    unfold Early
    decide
  · have interval : intervalNs 2000 = 2000000 := by decide
    rw [List.length_replicate, deadline, interval]
    omega

/-- A probe all of whose readings show 20 seconds. -/
def stopped (iterations : Nat) (positive : 0 < iterations) (few : iterations ≤ 5000) : ProbeRun where
  start := ⟨0, 0⟩
  normalised := ⟨Int.le_refl 0, by decide⟩
  actuals := List.replicate iterations ⟨20, 0⟩
  measured := mt (List.replicate_eq_nil_iff _).mp positive.ne'
  ncpus := 4
  noOverflow := noOverflow_stopped iterations few

def stoppedBench : Bench where
  run _ iterations := stopped (clamped iterations).toNat (by unfold clamped; omega)
    (by unfold clamped; omega)
  all clock iterations low high := by
    change ((List.replicate (clamped iterations).toNat _).length : Int) = _
    rw [List.length_replicate]
    unfold clamped
    omega

/-- A run to its end while another one begins. -/
def oneAndABit : List (Choice Int) :=
  [.spawn 60, .run 0, .run 0, .spawn 70, .run 0, .run 1, .run 0, .run 0, .run 0]

theorem measurements_truthful_oneAndABit :
    ∃ pool, (workers (probe (.insertion Int64) stoppedBench .ascii)).machine.exec oneAndABit
        (Pool.start ⟨3000000, 0⟩) = some pool ∧
      List.Forall₂ (Told (.insertion Int64) stoppedBench) [60, 70] pool.threads := by
  have reaches : ((workers (probe (.insertion Int64) stoppedBench .ascii)).machine.exec oneAndABit
      (Pool.start ⟨3000000, 0⟩)).isSome := by decide +kernel
  obtain ⟨pool, reached⟩ := Option.isSome_iff_exists.mp reaches
  exact ⟨pool, reached, measurements_truthful (.insertion Int64) stoppedBench .ascii oneAndABit
    ⟨3000000, 0⟩ pool reached⟩

end KernelSprint.MeasuredScheduling

import KernelSprint.Backend.Pipelines
import KernelSprint.Backend.SchedulerExperiment
import KernelSprint.Lib.JsNumber

/-!
# Four comparisons of two latencies

The results page and `SchedulerCompare` show the captured results; the
experiments and the patch pipeline compute their own percentages.  Numbers are
exact rationals and the baseline of a comparison is not zero, which JavaScript
would divide by.
-/

set_option autoImplicit false

namespace KernelSprint.LatencyComparison

open JsNumber PyText
open BenchmarkOutput (Latency ContextSwitch)
open SchedulerExperiment (improvement)

structure KernelResult where
  kernel : String
  sysctlSchedBaseSliceNs : Nat
  processCreation : Latency
  contextSwitch : ContextSwitch
  schedulerLatency : Latency
  deriving DecidableEq

structure Results where
  runs : Nat
  environment : String
  baseline : KernelResult
  optimized : KernelResult
  note : String
  deriving DecidableEq

/-! ## SchedulerCompare -/

/-- A bar is `value / max` of the width wide. -/
structure Bar where
  label : String
  value : ℚ
  max : ℚ
  unit : String

structure MetricPanel where
  title : String
  before : Bar
  after : Bar
  label : String
  isBetter : Bool

def MetricPanel.verdict (panel : MetricPanel) : String :=
  if panel.isBetter then "(better)" else "(worse)"

/-- The change that a panel is about. -/
def pctChange (baseline optimized : ℚ) : ℚ := (optimized - baseline) / baseline * 100

def changeLabel (pctChange : ℚ) : String :=
  (if 0 < pctChange then "+" else "") ++ toFixed 1 pctChange ++ "%"

def metricPanel (title : String) (baseline optimized : ℚ) (unit : String)
    (higherIsBetter : Bool) : MetricPanel :=
  let max := max baseline optimized
  let pctChange := pctChange baseline optimized
  let isBetter := if higherIsBetter then decide (0 < pctChange) else decide (pctChange < 0)
  ⟨title, ⟨"Before", baseline, max, unit⟩, ⟨"After", optimized, max, unit⟩,
    changeLabel pctChange, isBetter⟩

def schedulerLatencyPanel (results : Results) : MetricPanel :=
  metricPanel "scheduler_latency p99 (µs, lower is better) — the targeted metric"
    results.baseline.schedulerLatency.p99Us results.optimized.schedulerLatency.p99Us
    "µs" false

def processCreationPanel (results : Results) : MetricPanel :=
  metricPanel "process_creation mean (µs, lower is better)"
    results.baseline.processCreation.meanUs results.optimized.processCreation.meanUs
    "µs" false

def contextSwitchPanel (results : Results) : MetricPanel :=
  metricPanel "context switches/sec (higher is better)"
    results.baseline.contextSwitch.switchesPerSec
    results.optimized.contextSwitch.switchesPerSec "/s" true

def schedulerCompare (results : Results) : List MetricPanel :=
  [schedulerLatencyPanel results, processCreationPanel results, contextSwitchPanel results]

/-! ## ResultsPage -/

/-- The number before the percent sign and the line below it. -/
structure Headline where
  percent : ℚ
  caption : String

def headline (results : Results) : Headline :=
  let baseline := results.baseline.schedulerLatency.p99Us
  let optimized := results.optimized.schedulerLatency.p99Us
  ⟨|(mathRound ((baseline - optimized) / baseline * 1000) : ℚ) / 10|,
    "lower wake-up-latency tail, averaged over " ++ toString results.runs ++
      " real boot-tested runs each"⟩

/-- The captured results, which the pages fall back to. -/
def simulateResults : Results where
  runs := 3
  environment := "qemu-system-aarch64 -M virt -smp 4 -m 1024 " ++
    "(TCG software emulation, no nested KVM/HVF)"
  baseline := {
    kernel := "linux-6.6.151 (unpatched)"
    sysctlSchedBaseSliceNs := 700000
    processCreation := ⟨283825 / 100, 249294 / 100, 701806 / 100, 282391 / 100, 340262 / 100⟩
    contextSwitch := ⟨35787 / 100, 17893 / 100, 558867 / 100⟩
    schedulerLatency := ⟨43491 / 100, 1346 / 10, 644193 / 100, 15322 / 100, 437266 / 100⟩ }
  optimized := {
    kernel := "linux-6.6.151-00001-g5096b57cd167 (patched)"
    sysctlSchedBaseSliceNs := 300000
    processCreation := ⟨289234 / 100, 252212 / 100, 865178 / 100, 286652 / 100, 369092 / 100⟩
    contextSwitch := ⟨36648 / 100, 18324 / 100, 5464⟩
    schedulerLatency := ⟨43182 / 100, 14305 / 100, 627494 / 100, 15339 / 100, 318307 / 100⟩ }
  note := "Demo mode — showing real measured data from 3 boot-tested runs. " ++
    "Connect to the backend for live execution."

/-! ## What each of them says -/

theorem verdict_eq_better (panel : MetricPanel) :
    panel.verdict = "(better)" ↔ panel.isBetter = true := by
  unfold MetricPanel.verdict
  cases panel.isBetter <;> decide

section Pair

variable (baseline value : ℚ) (positive : 0 < baseline)

include positive

theorem pctChange_pos_iff : 0 < pctChange baseline value ↔ baseline < value := by
  have same : pctChange baseline value = (value - baseline) * (100 / baseline) := by
    unfold pctChange
    ring
  rw [same, mul_pos_iff_of_pos_right (by positivity), sub_pos]

theorem pctChange_neg_iff : pctChange baseline value < 0 ↔ value < baseline := by
  have same : -pctChange baseline value = (baseline - value) * (100 / baseline) := by
    unfold pctChange
    ring
  rw [← neg_pos, same, mul_pos_iff_of_pos_right (by positivity), sub_pos]

/-- A panel calls a change better exactly when it goes the better way. -/
theorem metricPanel_verdict (title unit : String) (higherIsBetter : Bool) :
    (metricPanel title baseline value unit higherIsBetter).verdict = "(better)" ↔
      if higherIsBetter then baseline < value else value < baseline := by
  rw [verdict_eq_better]
  cases higherIsBetter with
  | true => exact decide_eq_true_iff.trans (pctChange_pos_iff baseline value positive)
  | false => exact decide_eq_true_iff.trans (pctChange_neg_iff baseline value positive)

theorem patchChange_eq : Pipelines.pctChange baseline value = .ok (pctChange baseline value) := by
  rw [Pipelines.pctChange, if_neg positive.ne']
  rfl

end Pair

/-- Every panel of the comparison judges its own metric. -/
theorem schedulerCompare_verdicts (results : Results)
    (latency : 0 < results.baseline.schedulerLatency.p99Us)
    (creation : 0 < results.baseline.processCreation.meanUs)
    (switches : 0 < results.baseline.contextSwitch.switchesPerSec) :
    ((schedulerCompare results).map fun panel => decide (panel.verdict = "(better)")) = [
      decide (results.optimized.schedulerLatency.p99Us <
        results.baseline.schedulerLatency.p99Us),
      decide (results.optimized.processCreation.meanUs <
        results.baseline.processCreation.meanUs),
      decide (results.baseline.contextSwitch.switchesPerSec <
        results.optimized.contextSwitch.switchesPerSec)] := by
  have first := metricPanel_verdict _ results.optimized.schedulerLatency.p99Us latency
  have second := metricPanel_verdict _ results.optimized.processCreation.meanUs creation
  have third := metricPanel_verdict _ results.optimized.contextSwitch.switchesPerSec switches
  simp [schedulerCompare, schedulerLatencyPanel, processCreationPanel, contextSwitchPanel,
    first, second, third]

/-- The rounded improvement is reported unless a figure is zero. -/
theorem improvement_eq_some (before after : Latency) (positive : 0 < before.p99Us)
    (percent : ℚ) :
    improvement (some before) (some after) = some percent ↔
      after.p99Us ≠ 0 ∧ round (-pctChange before.p99Us after.p99Us) 1 = percent := by
  have same : (before.p99Us - after.p99Us) / before.p99Us * 100 =
      -pctChange before.p99Us after.p99Us := by
    unfold pctChange
    ring
  unfold improvement
  rw [Option.ite_none_right_eq_some, Option.some.injEq, same]
  exact and_congr_left fun _ => and_iff_right positive.ne'

/-- Where the experiments report an improvement, the number of the label is its
negative up to both roundings. -/
theorem label_agrees (before after : Latency) (positive : 0 < before.p99Us) (percent : ℚ)
    (reported : improvement (some before) (some after) = some percent) :
    |percent + fixedValue 1 (pctChange before.p99Us after.p99Us)| ≤ 1 / 10 := by
  obtain ⟨_, rfl⟩ := (improvement_eq_some before after positive percent).mp reported
  have improved := round_error (-pctChange before.p99Us after.p99Us) 1
  have labelled := fixedValue_error 1 (pctChange before.p99Us after.p99Us)
  rw [abs_le] at improved labelled ⊢
  constructor <;> linarith

section Headline

variable (results : Results)

/-- Tenths of a percent by which the headline's latency went down. -/
def reduction : ℚ :=
  (results.baseline.schedulerLatency.p99Us - results.optimized.schedulerLatency.p99Us) /
    results.baseline.schedulerLatency.p99Us * 1000

theorem headline_percent :
    (headline results).percent = |(mathRound (reduction results) : ℚ) / 10| := rfl

/-- The sign survives where the reduction does not round below zero. -/
theorem headline_signed (nonneg : 0 ≤ mathRound (reduction results)) :
    |(headline results).percent - reduction results / 10| ≤ 1 / 20 ∧
      (reduction results < 0 → (headline results).percent = 0) := by
  have cast : (0 : ℚ) ≤ mathRound (reduction results) := by exact_mod_cast nonneg
  have error := mathRound_error (reduction results)
  rw [headline_percent, abs_of_nonneg (div_nonneg cast (by norm_num))]
  constructor
  · rw [abs_le] at error ⊢
    constructor <;> linarith
  · intro increased
    have atMost : mathRound (reduction results) ≤ 0 := by
      rw [mathRound_le_iff]
      push_cast
      linarith
    rw [le_antisymm atMost nonneg]
    norm_num

/-- Elsewhere the headline turns an increase into a reduction. -/
theorem headline_unsigned (negative : mathRound (reduction results) < 0) :
    reduction results < 0 ∧ 0 < (headline results).percent := by
  have cast : (mathRound (reduction results) : ℚ) ≤ -1 := by
    exact_mod_cast Int.le_sub_one_of_lt negative
  have below := lt_mathRound (reduction results)
  rw [headline_percent, abs_pos]
  constructor
  · linarith
  · intro zero
    linarith

end Headline

/-! ## Where all four agree -/

/-- The four comparisons of a pair of results say the same, up to one tenth. -/
structure Agree (results : Results) : Prop where
  reported : ∃ improved change,
    improvement (some results.baseline.schedulerLatency)
        (some results.optimized.schedulerLatency) = some improved ∧
      Pipelines.pctChange results.baseline.schedulerLatency.p99Us
          results.optimized.schedulerLatency.p99Us = .ok change ∧
        |improved + change| ≤ 1 / 10
  labelled : (schedulerLatencyPanel results).verdict = "(better)" ↔
    results.optimized.schedulerLatency.p99Us < results.baseline.schedulerLatency.p99Us
  signed : |(headline results).percent -
    (results.baseline.schedulerLatency.p99Us - results.optimized.schedulerLatency.p99Us) /
      results.baseline.schedulerLatency.p99Us * 100| ≤ 1 / 10
  honest : results.baseline.schedulerLatency.p99Us <
      results.optimized.schedulerLatency.p99Us → (headline results).percent ≤ 0

section Agreement

variable (results : Results) (positive : 0 < results.baseline.schedulerLatency.p99Us)

include positive

theorem improvement_reported_iff :
    (∃ improved change,
      improvement (some results.baseline.schedulerLatency)
          (some results.optimized.schedulerLatency) = some improved ∧
        Pipelines.pctChange results.baseline.schedulerLatency.p99Us
            results.optimized.schedulerLatency.p99Us = .ok change ∧
          |improved + change| ≤ 1 / 10) ↔
      results.optimized.schedulerLatency.p99Us ≠ 0 := by
  constructor
  · rintro ⟨improved, _, reported, _⟩
    exact ((improvement_eq_some _ _ positive improved).mp reported).1
  · intro nonzero
    refine ⟨_, _, (improvement_eq_some _ _ positive _).mpr ⟨nonzero, rfl⟩,
      patchChange_eq _ _ positive, ?_⟩
    have error := round_error (-pctChange results.baseline.schedulerLatency.p99Us
      results.optimized.schedulerLatency.p99Us) 1
    rw [sub_neg_eq_add] at error
    exact error.trans (by norm_num)

theorem reduction_neg_iff :
    reduction results < 0 ↔
      results.baseline.schedulerLatency.p99Us < results.optimized.schedulerLatency.p99Us := by
  have same : reduction results = -10 * pctChange results.baseline.schedulerLatency.p99Us
      results.optimized.schedulerLatency.p99Us := by
    unfold reduction pctChange
    ring
  rw [← pctChange_pos_iff _ _ positive, same]
  constructor <;> intro h <;> linarith

/-- The reduction rounds to zero or more up to half a tenth of a percent above
the baseline. -/
theorem reduction_rounds_nonneg_iff :
    0 ≤ mathRound (reduction results) ↔
      results.optimized.schedulerLatency.p99Us ≤
        results.baseline.schedulerLatency.p99Us * (2001 / 2000) := by
  have scaled : reduction results * results.baseline.schedulerLatency.p99Us =
      (results.baseline.schedulerLatency.p99Us -
        results.optimized.schedulerLatency.p99Us) * 1000 := by
    unfold reduction
    field_simp
  rw [le_mathRound_iff, ← mul_le_mul_iff_of_pos_right positive, scaled]
  push_cast
  constructor <;> intro h <;> linarith

/-- The four places agree exactly where the optimized figure is not zero, which
the experiments take for missing, and the headline's reduction does not round
below zero, where the sign is dropped. -/
theorem comparisons_agree_iff (nonneg : 0 ≤ results.optimized.schedulerLatency.p99Us) :
    Agree results ↔
      0 < results.optimized.schedulerLatency.p99Us ∧
        results.optimized.schedulerLatency.p99Us ≤
          results.baseline.schedulerLatency.p99Us * (2001 / 2000) := by
  have increased := reduction_neg_iff results positive
  have tenths : (results.baseline.schedulerLatency.p99Us -
      results.optimized.schedulerLatency.p99Us) /
        results.baseline.schedulerLatency.p99Us * 100 = reduction results / 10 := by
    unfold reduction
    ring
  rw [← reduction_rounds_nonneg_iff results positive]
  constructor
  · intro agree
    have nonzero := (improvement_reported_iff results positive).mp agree.reported
    refine ⟨lt_of_le_of_ne nonneg nonzero.symm, ?_⟩
    by_contra negative
    obtain ⟨below, claimed⟩ := headline_unsigned results (not_le.mp negative)
    exact absurd (agree.honest (increased.mp below)) (not_le.mpr claimed)
  · rintro ⟨nonzero, rounds⟩
    obtain ⟨near, zero⟩ := headline_signed results rounds
    exact {
      reported := (improvement_reported_iff results positive).mpr nonzero.ne'
      labelled := metricPanel_verdict _ _ positive _ _ false
      signed := tenths ▸ near.trans (by norm_num)
      honest := fun more => (zero (increased.mpr more)).le }

end Agreement

/-- Of the captured figures only the targeted one has got better, and the
experiments would report it as its label does. -/
theorem comparisons_agree_captured :
    Agree simulateResults ∧
      ((schedulerCompare simulateResults).map fun panel => decide (panel.verdict = "(better)")) =
        [true, false, false] ∧
      ∀ percent, improvement (some simulateResults.baseline.schedulerLatency)
          (some simulateResults.optimized.schedulerLatency) = some percent →
        |percent + fixedValue 1 (pctChange simulateResults.baseline.schedulerLatency.p99Us
          simulateResults.optimized.schedulerLatency.p99Us)| ≤ 1 / 10 := by
  have positive : 0 < simulateResults.baseline.schedulerLatency.p99Us := by
    norm_num [simulateResults]
  refine ⟨(comparisons_agree_iff simulateResults positive (by norm_num [simulateResults])).mpr
    (by norm_num [simulateResults]), ?_, fun percent => label_agrees _ _ positive percent⟩
  rw [schedulerCompare_verdicts simulateResults positive (by norm_num [simulateResults])
    (by norm_num [simulateResults])]
  norm_num [simulateResults]

/-- The report with another pair of p99 figures. -/
def Results.withP99 (results : Results) (baseline optimized : ℚ) : Results :=
  { results with
    baseline.schedulerLatency.p99Us := baseline
    optimized.schedulerLatency.p99Us := optimized }

/-- A tail that grew by half is shown as half as long, and one that fell to
zero is not reported. -/
theorem comparisons_disagree :
    ((headline (simulateResults.withP99 100 150)).percent = 50 ∧
        (schedulerLatencyPanel (simulateResults.withP99 100 150)).verdict = "(worse)" ∧
          ¬ Agree (simulateResults.withP99 100 150)) ∧
      ¬ Agree (simulateResults.withP99 100 0) := by
  have shown : (headline (simulateResults.withP99 100 150)).percent = 50 := by decide +kernel
  refine ⟨⟨shown, by decide +kernel, fun agree => ?_⟩, fun agree => ?_⟩
  · have claimed := agree.honest (by norm_num [Results.withP99])
    rw [shown] at claimed
    norm_num at claimed
  · obtain ⟨improved, _, reported, _⟩ := agree.reported
    have missing : improvement (some (simulateResults.withP99 100 0).baseline.schedulerLatency)
        (some (simulateResults.withP99 100 0).optimized.schedulerLatency) = none := by
      decide +kernel
    exact absurd (missing.symm.trans reported) nofun

end KernelSprint.LatencyComparison

import Mathlib.Algebra.Order.Field.Rat
import Mathlib.Data.Rat.Cast.Order
import Mathlib.Tactic.Linarith
import Mathlib.Tactic.Ring
import KernelSprint.Lib.Ranks

/-!
# The figures that the latency benchmarks report

`cmp_long` and the end of `main` in `process_creation.c` and
`scheduler_latency.c`: the samples are sorted and the figures read off at
fixed positions.  Floating-point numbers are exact rationals.
-/

set_option autoImplicit false

namespace KernelSprint.Percentiles

open Ranks

def cmpLong (la lb : Int64) : Int :=
  (if la > lb then 1 else 0) - (if la < lb then 1 else 0)

structure Figures where
  meanUs : ℚ
  minUs : ℚ
  maxUs : ℚ
  p50Us : ℚ
  p99Us : ℚ
  deriving DecidableEq

/-- A sample of nanoseconds in microseconds. -/
def micros (sample : Int64) : ℚ := (sample.toInt : ℚ) / 1000

def mean (samplesNs : List Int64) : ℚ :=
  (samplesNs.foldl (fun sum sample => sum + (sample.toInt : ℚ)) 0) / samplesNs.length / 1000

/-- What follows the measuring loop.  A read outside the array is `none`. -/
def report (qsort : Qsort Int64) (samplesNs : List Int64) : Option Figures := do
  let iterations := samplesNs.length
  let sorted := qsort.sort cmpLong samplesNs
  let min ← sorted[0]?
  let max ← sorted[iterations - 1]?
  let p50 ← sorted[iterations / 2]?
  let p99 ← sorted[99 * iterations / 100]?
  some ⟨mean sorted, micros min, micros max, micros p50, micros p99⟩

/-- The report of `process_creation.c`. -/
def processCreation (qsort : Qsort Int64) (samplesNs : List Int64) : Option Figures :=
  report qsort samplesNs

/-- The report of `scheduler_latency.c`. -/
def schedulerLatency (qsort : Qsort Int64) (samplesNs : List Int64) : Option Figures :=
  report qsort samplesNs

example : report (.insertion Int64) [3000, 1000, 2000, 2000] = some ⟨2, 1, 3, 2, 3⟩ := by
  decide +kernel

/-! ## The comparator -/

theorem cmpLong_pos (a b : Int64) : 0 < cmpLong a b ↔ b < a := by
  unfold cmpLong
  simp only [gt_iff_lt, Int64.lt_iff_toInt_lt]
  split_ifs <;> omega

theorem cmpLong_neg (a b : Int64) : cmpLong a b < 0 ↔ a < b := by
  unfold cmpLong
  simp only [gt_iff_lt, Int64.lt_iff_toInt_lt]
  split_ifs <;> omega

theorem cmpLong_nonpos (a b : Int64) : cmpLong a b ≤ 0 ↔ a.toInt ≤ b.toInt := by
  rw [← not_lt, cmpLong_pos, Int64.lt_iff_toInt_lt, not_lt]

theorem cmpLong_order : TotalOrder cmpLong where
  opposite a b := by rw [cmpLong_pos, cmpLong_neg]
  trans a b c first second := by
    rw [cmpLong_nonpos] at first second ⊢
    exact first.trans second
  same a b zero := by
    have below := (cmpLong_nonpos a b).mp zero.le
    have notBelow : ¬ cmpLong a b < 0 := by simp [zero]
    rw [cmpLong_neg, Int64.lt_iff_toInt_lt, not_lt] at notBelow
    exact Int64.toInt_inj.mp (le_antisymm below notBelow)

/-! ## The sorted samples -/

section Sorted

variable (qsort : Qsort Int64) (samplesNs : List Int64)

def sortedNs : List Int64 := qsort.sort cmpLong samplesNs

theorem sortedNs_perm : (sortedNs qsort samplesNs).Perm samplesNs :=
  qsort.permutes cmpLong samplesNs cmpLong_order

theorem micros_le_iff (a b : Int64) : micros a ≤ micros b ↔ a.toInt ≤ b.toInt := by
  unfold micros
  rw [div_le_div_iff_of_pos_right (by norm_num), Int.cast_le]

theorem sortedNs_micros : ((sortedNs qsort samplesNs).map micros).Pairwise (· ≤ ·) := by
  rw [List.pairwise_map]
  refine (qsort.sorts cmpLong samplesNs cmpLong_order).imp ?_
  intro a b ordered
  exact (micros_le_iff a b).mpr ((cmpLong_nonpos a b).mp ordered)

theorem mean_eq (samples : List Int64) :
    mean samples = (samples.map micros).sum / samples.length := by
  have sums : ∀ start : ℚ,
      samples.foldl (fun sum sample => sum + (sample.toInt : ℚ)) start =
        start + 1000 * (samples.map micros).sum := by
    induction samples with
    | nil => simp
    | cons sample rest ih =>
        intro start
        rw [List.foldl_cons, ih, List.map_cons, List.sum_cons, micros]
        ring
  rw [mean, sums 0]
  ring

/-- The mean lies between any two bounds of the samples. -/
theorem mean_between (samples : List Int64) (nonempty : samples ≠ []) (low high : ℚ)
    (above : ∀ x ∈ samples.map micros, low ≤ x) (below : ∀ x ∈ samples.map micros, x ≤ high) :
    low ≤ mean samples ∧ mean samples ≤ high := by
  have positive : (0 : ℚ) < samples.length := by
    exact_mod_cast List.length_pos_iff.mpr nonempty
  have atLeast := List.card_nsmul_le_sum (samples.map micros) low above
  have atMost := List.sum_le_card_nsmul (samples.map micros) high below
  rw [List.length_map, nsmul_eq_mul] at atLeast atMost
  rw [mean_eq, le_div_iff₀ positive, div_le_iff₀ positive, mul_comm low, mul_comm high]
  exact ⟨atLeast, atMost⟩

/-! ## What the report says -/

/-- `share` of the samples satisfy the test, at most. -/
def AtMost (share : ℚ) (test : ℚ → Bool) (samples : List Int64) : Prop :=
  (samples.countP fun sample => test (micros sample) : ℚ) ≤ share * samples.length

/-- The figures stand in the samples as their names say. -/
structure Faithful (samples : List Int64) (figures : Figures) : Prop where
  minSampled : figures.minUs ∈ samples.map micros
  maxSampled : figures.maxUs ∈ samples.map micros
  p50Sampled : figures.p50Us ∈ samples.map micros
  p99Sampled : figures.p99Us ∈ samples.map micros
  minLeast : ∀ x ∈ samples.map micros, figures.minUs ≤ x
  maxGreatest : ∀ x ∈ samples.map micros, x ≤ figures.maxUs
  meanExact : figures.meanUs = (samples.map micros).sum / samples.length
  minLeP50 : figures.minUs ≤ figures.p50Us
  p50LeP99 : figures.p50Us ≤ figures.p99Us
  p99LeMax : figures.p99Us ≤ figures.maxUs
  minLeMean : figures.minUs ≤ figures.meanUs
  meanLeMax : figures.meanUs ≤ figures.maxUs
  belowP99 : AtMost (99 / 100) (· < figures.p99Us) samples
  aboveP99 : AtMost (1 / 100) (figures.p99Us < ·) samples
  belowP50 : AtMost (1 / 2) (· < figures.p50Us) samples
  aboveP50 : AtMost (1 / 2) (figures.p50Us < ·) samples

theorem countP_sorted (test : ℚ → Bool) :
    samplesNs.countP (fun sample => test (micros sample)) =
      ((sortedNs qsort samplesNs).map micros).countP test := by
  rw [List.countP_map]
  exact ((sortedNs_perm qsort samplesNs).countP_eq _).symm

variable {qsort samplesNs} {position : Nat} {sample : Int64}

theorem micros_at (found : (sortedNs qsort samplesNs)[position]? = some sample) :
    ((sortedNs qsort samplesNs).map micros)[position]? = some (micros sample) := by
  rw [List.getElem?_map, found]
  rfl

theorem sampled_at (found : (sortedNs qsort samplesNs)[position]? = some sample) :
    micros sample ∈ samplesNs.map micros :=
  List.mem_map_of_mem
    ((sortedNs_perm qsort samplesNs).mem_iff.mp (List.mem_of_getElem? found))

/-- What is strictly below the value at a position fits before it. -/
theorem atMost_below (found : (sortedNs qsort samplesNs)[position]? = some sample) (share : ℚ)
    (fits : (position : ℚ) ≤ share * samplesNs.length) :
    AtMost share (· < micros sample) samplesNs := by
  have few := countP_less (sortedNs_micros qsort samplesNs) (micros_at found)
  unfold AtMost
  rw [countP_sorted qsort samplesNs (fun x => decide (x < micros sample))]
  exact le_trans (by exact_mod_cast few) fits

theorem atMost_above (found : (sortedNs qsort samplesNs)[position]? = some sample) (share : ℚ)
    (fits : (samplesNs.length : ℚ) ≤ share * samplesNs.length + position + 1) :
    AtMost share (micros sample < ·) samplesNs := by
  have few := countP_greater (sortedNs_micros qsort samplesNs) (micros_at found)
  rw [List.length_map, (sortedNs_perm qsort samplesNs).length_eq] at few
  unfold AtMost
  rw [countP_sorted qsort samplesNs (fun x => decide (micros sample < x))]
  have room : (((sortedNs qsort samplesNs).map micros).countP (micros sample < ·) : ℚ) +
      position + 1 ≤ samplesNs.length := by exact_mod_cast few
  linarith

end Sorted

theorem report_perm (qsort : Qsort Int64) (order samplesNs : List Int64)
    (perm : order.Perm samplesNs) : report qsort order = report qsort samplesNs := by
  unfold report
  rw [perm.length_eq, qsort.sort_perm cmpLong cmpLong_order order samplesNs perm]

/-- The four reads of the sorted array are inside it. -/
theorem report_some (qsort : Qsort Int64) (samplesNs : List Int64) (measured : samplesNs ≠ []) :
    ∃ figures, report qsort samplesNs = some figures ∧ Faithful samplesNs figures := by
  let n := samplesNs.length
  have positive : 0 < n := List.length_pos_iff.mpr measured
  have length : (sortedNs qsort samplesNs).length = n := (sortedNs_perm qsort samplesNs).length_eq
  have inside : ∀ position < n, ∃ sample, (sortedNs qsort samplesNs)[position]? = some sample := by
    intro position bound
    exact ⟨_, List.getElem?_eq_getElem (length.symm ▸ bound)⟩
  have halfInside : n / 2 < n := by omega
  have highInside : 99 * n / 100 < n := by omega
  obtain ⟨min, atMin⟩ := inside 0 positive
  obtain ⟨max, atMax⟩ := inside (n - 1) (by omega)
  obtain ⟨p50, atP50⟩ := inside (n / 2) halfInside
  obtain ⟨p99, atP99⟩ := inside (99 * n / 100) highInside
  have p50Below : 2 * ((n / 2 : Nat) : ℚ) ≤ n := by
    exact_mod_cast (by omega : 2 * (n / 2) ≤ n)
  have p50Above : (n : ℚ) < 2 * ((n / 2 : Nat) : ℚ) + 2 := by
    exact_mod_cast (by omega : n < 2 * (n / 2) + 2)
  have p99Below : 100 * ((99 * n / 100 : Nat) : ℚ) ≤ 99 * n := by
    exact_mod_cast (by omega : 100 * (99 * n / 100) ≤ 99 * n)
  have p99Above : 99 * (n : ℚ) < 100 * ((99 * n / 100 : Nat) : ℚ) + 100 := by
    exact_mod_cast (by omega : 99 * n < 100 * (99 * n / 100) + 100)
  have sorted := sortedNs_micros qsort samplesNs
  have low := micros_at atMin
  have half := micros_at atP50
  have high := micros_at atP99
  have top := micros_at atMax
  refine ⟨⟨mean (sortedNs qsort samplesNs), micros min, micros max, micros p50, micros p99⟩,
    ?_, ?_⟩
  · unfold report
    change ((sortedNs qsort samplesNs)[0]?.bind fun _ => _) = _
    rw [atMin]
    change ((sortedNs qsort samplesNs)[n - 1]?.bind fun _ => _) = _
    rw [atMax]
    change ((sortedNs qsort samplesNs)[n / 2]?.bind fun _ => _) = _
    rw [atP50]
    change ((sortedNs qsort samplesNs)[99 * n / 100]?.bind fun _ => _) = _
    rw [atP99]
    rfl
  · have some : sortedNs qsort samplesNs ≠ [] := by
      rw [← List.length_pos_iff, length]
      exact positive
    have least : ∀ x ∈ (sortedNs qsort samplesNs).map micros, micros min ≤ x := by
      intro x member
      obtain ⟨position, found⟩ := List.mem_iff_getElem?.mp member
      exact le_of_position_le sorted (Nat.zero_le position) low found
    have greatest : ∀ x ∈ (sortedNs qsort samplesNs).map micros, x ≤ micros max := by
      intro x member
      obtain ⟨position, found⟩ := List.mem_iff_getElem?.mp member
      obtain ⟨bound, _⟩ := List.getElem?_eq_some_iff.mp found
      rw [List.length_map, length] at bound
      exact le_of_position_le sorted (by omega) found top
    have between := mean_between (sortedNs qsort samplesNs) some _ _ least greatest
    have perm := (sortedNs_perm qsort samplesNs).map micros
    exact {
      minSampled := sampled_at atMin
      maxSampled := sampled_at atMax
      p50Sampled := sampled_at atP50
      p99Sampled := sampled_at atP99
      minLeast := fun x member => least x (perm.mem_iff.mpr member)
      maxGreatest := fun x member => greatest x (perm.mem_iff.mpr member)
      meanExact := by rw [mean_eq, perm.sum_eq, length]
      minLeP50 := le_of_position_le sorted (Nat.zero_le _) low half
      p50LeP99 := le_of_position_le sorted (by omega) half high
      p99LeMax := le_of_position_le sorted (by omega) high top
      minLeMean := between.1
      meanLeMax := between.2
      belowP99 := atMost_below atP99 _ (by linarith)
      aboveP99 := atMost_above atP99 _ (by linarith)
      belowP50 := atMost_below atP50 _ (by linarith)
      aboveP50 := atMost_above atP50 _ (by linarith) }

/-- The figures are those of the samples, in whatever order they came. -/
theorem percentiles_reported (qsort : Qsort Int64) (samplesNs : List Int64)
    (measured : samplesNs ≠ []) :
    ∃ figures, Faithful samplesNs figures ∧
      ∀ order, order.Perm samplesNs →
        processCreation qsort order = some figures ∧
          schedulerLatency qsort order = some figures := by
  obtain ⟨figures, reported, faithful⟩ := report_some qsort samplesNs measured
  refine ⟨figures, faithful, ?_⟩
  intro order perm
  have same : report qsort order = some figures := by
    rw [report_perm qsort order samplesNs perm]
    exact reported
  exact ⟨same, same⟩

theorem percentiles_reported_four : ∃ figures, Faithful [3000, 1000, 2000, 2000] figures ∧
    ∀ order, order.Perm [3000, 1000, 2000, 2000] →
      processCreation (.insertion Int64) order = some figures ∧
        schedulerLatency (.insertion Int64) order = some figures :=
  percentiles_reported (.insertion Int64) [3000, 1000, 2000, 2000] (by simp)

end KernelSprint.Percentiles

import Mathlib.Tactic.NormNum
import KernelSprint.Lib.Decimal

/-!
# JavaScript's rounding

`Math.round` and `toFixed` on exact rationals.
-/

set_option autoImplicit false

namespace JsNumber

/-- `Math.round(x)`: to the nearest integer, halves up. -/
def mathRound (x : ℚ) : Int := ⌊x + 1 / 2⌋

/-- The units of the last place that `x.toFixed(places)` writes: the sign is
set aside first, so halves go away from zero. -/
def fixedUnits (places : Nat) (x : ℚ) : Int :=
  if x < 0 then -mathRound (-x * 10 ^ places) else mathRound (x * 10 ^ places)

/-- `+x.toFixed(places)` -/
def fixedValue (places : Nat) (x : ℚ) : ℚ := fixedUnits places x / 10 ^ places

/-- `x.toFixed(places)` below 10^21, for at least one place. -/
def toFixed (places : Nat) (x : ℚ) : String :=
  let digits := (Nat.toDigits 10 (fixedUnits places x).natAbs).leftpad (places + 1) '0'
  let point := digits.length - places
  (if x < 0 then "-" else "") ++ String.ofList (digits.take point) ++ "." ++
    String.ofList (digits.drop point)

example : toFixed 1 (-1013 / 20) = "-50.7" := by decide +kernel

theorem mathRound_le (x : ℚ) : (mathRound x : ℚ) ≤ x + 1 / 2 := Int.floor_le _

theorem lt_mathRound (x : ℚ) : x - 1 / 2 < mathRound x := by
  have below := Int.lt_floor_add_one (x + 1 / 2)
  unfold mathRound
  linarith

theorem mathRound_error (x : ℚ) : |(mathRound x : ℚ) - x| ≤ 1 / 2 := by
  have above := mathRound_le x
  have below := lt_mathRound x
  rw [abs_le]
  constructor <;> linarith

theorem le_mathRound_iff (n : Int) (x : ℚ) : n ≤ mathRound x ↔ (n : ℚ) - 1 / 2 ≤ x := by
  unfold mathRound
  rw [Int.le_floor, sub_le_iff_le_add]

theorem mathRound_le_iff (n : Int) (x : ℚ) : mathRound x ≤ n ↔ x < (n : ℚ) + 1 / 2 := by
  rw [← not_lt, ← Int.add_one_le_iff, le_mathRound_iff, not_le]
  push_cast
  constructor <;> intro h <;> linarith

theorem fixedUnits_error (places : Nat) (x : ℚ) :
    |(fixedUnits places x : ℚ) - x * 10 ^ places| ≤ 1 / 2 := by
  unfold fixedUnits
  split_ifs with negative
  · have error := mathRound_error (-x * 10 ^ places)
    rw [← abs_neg] at error
    push_cast
    convert error using 2
    ring
  · exact mathRound_error _

/-- What `toFixed` writes is within half a unit of the last place. -/
theorem fixedValue_error (places : Nat) (x : ℚ) :
    |fixedValue places x - x| ≤ 1 / 2 / 10 ^ places :=
  PyText.unscaled_error _ x _ (by positivity) (fixedUnits_error places x)

/-- The text, read as a decimal, is that value. -/
theorem float_toFixed (db : PyText.CharDb) (places : Nat) (x : ℚ) (nonneg : 0 ≤ x) :
    PyText.float db (toFixed places x).toList = .ok (fixedValue places x) := by
  have units : ((fixedUnits places x).natAbs : ℚ) = fixedUnits places x := by
    have positive : 0 ≤ fixedUnits places x := by
      rw [fixedUnits, if_neg (not_lt.mpr nonneg), le_mathRound_iff]
      have scaled : 0 ≤ x * 10 ^ places := mul_nonneg nonneg (by positivity)
      push_cast
      linarith
    rw [← Int.cast_natCast, Int.natAbs_of_nonneg positive]
  have written := Decimal.float_padded db places (fixedUnits places x).natAbs
  rw [units] at written
  simp only [toFixed, if_neg (not_lt.mpr nonneg), String.empty_append, String.toList_append,
    String.toList_ofList, List.append_assoc]
  exact written

end JsNumber

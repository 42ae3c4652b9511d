import Mathlib.Data.List.TakeWhile
import Mathlib.Data.NNRat.Defs
import KernelSprint.Lib.PyText

/-!
# Decimal numbers written and read

C's `%.nf` on exact rationals, and that `float` reads back the decimal that
was written.
-/

set_option autoImplicit false

namespace Decimal

open PyText

/-- The amount in units of the last place written. -/
def units (places : Nat) (x : ℚ≥0) : Nat := (roundHalfEven ((x : ℚ) * 10 ^ places)).toNat

/-- At least one digit stands before the point. -/
def digits (places : Nat) (x : ℚ≥0) : List Char :=
  (Nat.toDigits 10 (units places x)).leftpad (places + 1) '0'

/-- `%.<places>f` -/
def fixedChars (places : Nat) (x : ℚ≥0) : List Char :=
  let digits := digits places x
  let whole := digits.take (digits.length - places)
  if places = 0 then whole else whole ++ '.' :: digits.drop (digits.length - places)

def fixed (places : Nat) (x : ℚ≥0) : String := String.ofList (fixedChars places x)

/-- The value of the decimal that is written. -/
def written (places : Nat) (x : ℚ≥0) : ℚ := units places x / 10 ^ places

example : fixed 3 (5 / 2) = "2.500" := by decide +kernel

example : fixed 0 (1 / 3) = "0" := by decide +kernel

variable (db : CharDb)

/-! ## Digits -/

theorem digitsValue_concat (symbols : List Char) (c : Char) :
    digitsValue db (symbols ++ [c]) =
      (digitsValue db symbols).bind fun value => (db.digit c).map (10 * value + ·) := by
  simp [digitsValue, List.foldlM_append]

theorem digitsValue_isSome_iff (symbols : List Char) :
    (digitsValue db symbols).isSome ↔ ∀ c ∈ symbols, (db.digit c).isSome := by
  induction symbols using List.reverseRecOn with
  | nil => exact iff_of_true rfl (List.forall_mem_nil _)
  | append_singleton earlier c ih =>
      rw [digitsValue_concat, List.forall_mem_append, List.forall_mem_singleton, ← ih]
      cases digitsValue db earlier <;> simp

theorem digit_digitChar (d : Nat) (small : d < 10) : db.digit d.digitChar = some d := by
  have code := Nat.toNat_digitChar_of_lt_ten small
  have isDigit : d.digitChar.isDigit = true := by
    rw [Nat.isDigit_digitChar]
    exact decide_eq_true small
  rw [db.digit_ascii _ (by omega), if_pos isDigit, code]
  simp

theorem digitsValue_toDigits (n : Nat) : digitsValue db (Nat.toDigits 10 n) = some n := by
  induction n using Nat.strong_induction_on with
  | _ n ih =>
    rw [Nat.toDigits_eq_if (by decide)]
    by_cases small : n < 10
    · rw [if_pos small, ← List.nil_append [n.digitChar], digitsValue_concat,
        digit_digitChar db n small]
      simp [digitsValue]
    · have whole := ih (n / 10) (by omega)
      rw [if_neg small, digitsValue_concat, whole,
        digit_digitChar db (n % 10) (Nat.mod_lt n (by decide))]
      simp only [Option.bind_some, Option.map_some, Option.some.injEq]
      omega

theorem digitsValue_zeros (count : Nat) (symbols : List Char) :
    digitsValue db (List.replicate count '0' ++ symbols) = digitsValue db symbols := by
  have zero : db.digit '0' = some 0 := by
    rw [db.digit_ascii _ (by decide)]
    decide
  induction count with
  | zero => rfl
  | succ count ih =>
      rw [List.replicate_succ, List.cons_append, ← ih]
      simp [digitsValue, zero]

/-- The digits of `count` units of the last place. -/
def padded (places count : Nat) : List Char := (Nat.toDigits 10 count).leftpad (places + 1) '0'

theorem digitsValue_padded (places count : Nat) :
    digitsValue db (padded places count) = some count := by
  rw [padded, List.leftpad, digitsValue_zeros, digitsValue_toDigits]

theorem isDigit_of_mem_padded (places count : Nat) (c : Char) (member : c ∈ padded places count) :
    c.isDigit = true := by
  rw [padded, List.leftpad] at member
  rcases List.mem_append.mp member with padding | significant
  · rw [List.eq_of_mem_replicate padding]
    decide
  · exact Nat.isDigit_of_mem_toDigits (by decide) (by decide) significant

theorem isDigit_of_mem_digits (places : Nat) (x : ℚ≥0) (c : Char) (member : c ∈ digits places x) :
    c.isDigit = true :=
  isDigit_of_mem_padded places (units places x) c member

theorem places_lt_length (places count : Nat) : places < (padded places count).length := by
  simp only [padded, List.leftpad, List.length_append, List.length_replicate]
  omega

/-! ## The whole text -/

theorem roundHalfEven_nonneg (x : ℚ) (nonneg : 0 ≤ x) : 0 ≤ roundHalfEven x := by
  have floor : 0 ≤ ⌊x⌋ := Int.floor_nonneg.mpr nonneg
  unfold roundHalfEven
  split_ifs <;> omega

/-- C writes what Python's `round` computes. -/
theorem written_eq_round (places : Nat) (x : ℚ≥0) : written places x = round x places := by
  have scaled : 0 ≤ (x : ℚ) * 10 ^ places := mul_nonneg x.2 (by positivity)
  have whole := Int.toNat_of_nonneg (roundHalfEven_nonneg _ scaled)
  have cast : (units places x : ℚ) = (roundHalfEven ((x : ℚ) * 10 ^ places) : ℚ) := by
    rw [units, ← Int.cast_natCast, whole]
  rw [PyText.round, written, cast]

theorem not_point (places count : Nat) (c : Char) (member : c ∈ padded places count) :
    (c != '.') = true := by
  have digit := isDigit_of_mem_padded places count c member
  rw [bne_iff_ne]
  intro same
  rw [same] at digit
  exact absurd digit (by decide)

/-- What `float` makes of digits with a point among them. -/
theorem float_point (whole fraction : List Char) (value : Nat)
    (wholeDigits : ∀ c ∈ whole, (c != '.') = true) (nonempty : whole ≠ [])
    (decoded : digitsValue db (whole ++ fraction) = some value) :
    float db (whole ++ '.' :: fraction) = .ok ((value : ℚ) / 10 ^ fraction.length) := by
  have before : (whole ++ '.' :: fraction).takeWhile (· != '.') = whole := by
    rw [List.takeWhile_append_of_pos wholeDigits]
    simp
  have after : ((whole ++ '.' :: fraction).dropWhile (· != '.')).drop 1 = fraction := by
    rw [List.dropWhile_append_of_pos wholeDigits]
    simp
  simp only [float, before, after, nonempty, false_and, ↓reduceIte, decoded]

theorem float_whole (whole : List Char) (value : Nat)
    (wholeDigits : ∀ c ∈ whole, (c != '.') = true) (nonempty : whole ≠ [])
    (decoded : digitsValue db whole = some value) : float db whole = .ok (value : ℚ) := by
  have before : whole.takeWhile (· != '.') = whole := List.takeWhile_eq_self_iff.mpr wholeDigits
  have after : whole.dropWhile (· != '.') = [] := List.dropWhile_eq_nil_iff.mpr wholeDigits
  simp only [float, before, after, List.drop_nil, List.append_nil, nonempty, false_and,
    ↓reduceIte, decoded, List.length_nil, pow_zero, div_one]

/-- The digits with the point in its place. -/
theorem float_padded (places count : Nat) :
    float db ((padded places count).take ((padded places count).length - places) ++
        '.' :: (padded places count).drop ((padded places count).length - places)) =
      .ok ((count : ℚ) / 10 ^ places) := by
  have long := places_lt_length places count
  have split := List.take_append_drop ((padded places count).length - places)
    (padded places count)
  have point := float_point db _
    ((padded places count).drop ((padded places count).length - places)) count
    (fun c member => not_point places count c (List.mem_of_mem_take member))
    (by
      apply List.length_pos_iff.mp
      rw [List.length_take]
      exact Nat.lt_min.mpr ⟨Nat.sub_pos_of_lt long, by omega⟩)
    (by rw [split, digitsValue_padded])
  have length :
      ((padded places count).drop ((padded places count).length - places)).length = places := by
    rw [List.length_drop]
    omega
  rwa [length] at point

/-- Reading what was written gives the decimal that was written. -/
theorem float_fixed (places : Nat) (x : ℚ≥0) :
    float db (fixed places x).toList = .ok (written places x) := by
  rw [fixed, String.toList_ofList, fixedChars]
  by_cases none : places = 0
  · subst none
    have whole := float_whole db (digits 0 x) (units 0 x) (not_point 0 _)
      (List.length_pos_iff.mp (places_lt_length 0 _)) (digitsValue_padded db 0 _)
    rw [if_pos rfl, Nat.sub_zero, List.take_length, whole, written, pow_zero, div_one]
  · rw [if_neg none]
    exact float_padded db places (units places x)

theorem mem_fixed (places : Nat) (x : ℚ≥0) (c : Char) (member : c ∈ (fixed places x).toList) :
    c.isDigit = true ∨ c = '.' := by
  rw [fixed, String.toList_ofList, fixedChars] at member
  by_cases none : places = 0
  · rw [if_pos none] at member
    exact Or.inl (isDigit_of_mem_digits places x c (List.mem_of_mem_take member))
  · rw [if_neg none] at member
    rcases List.mem_append.mp member with whole | rest
    · exact Or.inl (isDigit_of_mem_digits places x c (List.mem_of_mem_take whole))
    · rcases List.mem_cons.mp rest with point | fraction
      · exact Or.inr point
      · exact Or.inl (isDigit_of_mem_digits places x c (List.mem_of_mem_drop fraction))

theorem fixed_ne_nil (places : Nat) (x : ℚ≥0) : (fixed places x).toList ≠ [] := by
  have long : places < (digits places x).length := places_lt_length places _
  have whole : (digits places x).take ((digits places x).length - places) ≠ [] := by
    apply List.length_pos_iff.mp
    rw [List.length_take]
    omega
  rw [fixed, String.toList_ofList, fixedChars]
  by_cases none : places = 0
  · rw [if_pos none]
    exact whole
  · rw [if_neg none]
    exact List.append_ne_nil_of_left_ne_nil whole _

end Decimal

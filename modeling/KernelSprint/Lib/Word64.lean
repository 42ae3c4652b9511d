import Mathlib.Data.Int.Order.Basic

/-!
# Checked arithmetic on signed words

Signed overflow is undefined in C.  The operations below return `none` where
the exact result does not fit a signed 64-bit word.
-/

set_option autoImplicit false

namespace Word64

def Fits (value : Int) : Prop :=
  -9223372036854775808 ≤ value ∧ value < 9223372036854775808

instance (value : Int) : Decidable (Fits value) :=
  inferInstanceAs (Decidable (_ ∧ _))

def ofInt? (value : Int) : Option Int64 :=
  if Fits value then some (.ofInt value) else none

def add? (a b : Int64) : Option Int64 := ofInt? (a.toInt + b.toInt)

def sub? (a b : Int64) : Option Int64 := ofInt? (a.toInt - b.toInt)

def mul? (a b : Int64) : Option Int64 := ofInt? (a.toInt * b.toInt)

theorem fits_toInt (word : Int64) : Fits word.toInt := ⟨word.le_toInt, word.toInt_lt⟩

/-- A value between two that fit fits. -/
theorem fits_between {low value high : Int} (fitsLow : Fits low) (fitsHigh : Fits high)
    (above : low ≤ value) (below : value ≤ high) : Fits value :=
  ⟨le_trans fitsLow.1 above, lt_of_le_of_lt below fitsHigh.2⟩

/-- A word is the checked result exactly when it denotes the exact one. -/
theorem ofInt?_eq_some {value : Int} {word : Int64} :
    ofInt? value = some word ↔ word.toInt = value := by
  unfold ofInt?
  by_cases fits : Fits value
  · have exact := Int64.toInt_ofInt_of_le fits.1 fits.2
    rw [if_pos fits, Option.some.injEq, ← Int64.toInt_inj, exact]
    exact eq_comm
  · rw [if_neg fits]
    refine ⟨nofun, fun same => ?_⟩
    exact absurd (same ▸ fits_toInt word) fits

theorem exists_toInt {value : Int} : (∃ word : Int64, word.toInt = value) ↔ Fits value := by
  constructor
  · rintro ⟨word, rfl⟩
    exact fits_toInt word
  · intro fits
    exact ⟨.ofInt value, Int64.toInt_ofInt_of_le fits.1 fits.2⟩

theorem add?_eq_some {a b sum : Int64} :
    add? a b = some sum ↔ sum.toInt = a.toInt + b.toInt := ofInt?_eq_some

theorem sub?_eq_some {a b difference : Int64} :
    sub? a b = some difference ↔ difference.toInt = a.toInt - b.toInt := ofInt?_eq_some

theorem mul?_eq_some {a b product : Int64} :
    mul? a b = some product ↔ product.toInt = a.toInt * b.toInt := ofInt?_eq_some

/-- An operation that is exact wherever `cond` holds returns exactly there. -/
theorem returns_of_exact {α : Type} {result : Option α} {cond : Prop} {spec : α → Prop}
    (exact : ∀ value, result = some value ↔ cond ∧ spec value)
    (exists_spec : cond → ∃ value, spec value) :
    ((∃ value, result = some value) ↔ cond) ∧ ∀ value, result = some value → spec value := by
  refine ⟨⟨?_, fun met => ?_⟩, fun value returned => ((exact value).mp returned).2⟩
  · rintro ⟨value, returned⟩
    exact ((exact value).mp returned).1
  · obtain ⟨value, meets⟩ := exists_spec met
    exact ⟨value, (exact value).mpr ⟨met, meets⟩⟩

end Word64

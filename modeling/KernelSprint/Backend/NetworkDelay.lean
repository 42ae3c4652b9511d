import Mathlib.Algebra.Order.Field.Rat
import KernelSprint.Backend.Docker
import KernelSprint.Lib.Course
import KernelSprint.Lib.PyText

/-!
# The network delay injection

`network_delay` of `chaos_agent` puts a netem qdisc on the container's eth0,
sleeps and removes it.  The two parameters come from the client as they are,
so they may be any JSON value; comparing one that is no number raises.
-/

set_option autoImplicit false

namespace KernelSprint.NetworkDelay

open Generators Generators.Gen PyText
open Docker (CompletedProcess)

/-! ## Parameters -/

/-- A number with the text that formatting gives it. -/
inductive Scalar where
  | finite (value : ℚ) (text : String)
  | nan
  | infinity
  | negInfinity
  deriving DecidableEq

def Scalar.ofNat (value : Nat) : Scalar := .finite value (toString value)

def Scalar.text : Scalar → String
  | .finite _ text => text
  | .nan => "nan"
  | .infinity => "inf"
  | .negInfinity => "-inf"

/-- `x < y`; nothing is less than or greater than nan. -/
def Scalar.less : Scalar → Scalar → Bool
  | .finite x _, .finite y _ => decide (x < y)
  | .finite _ _, .infinity => true
  | .negInfinity, .finite _ _ => true
  | .negInfinity, .infinity => true
  | _, _ => false

/-- `min(first, second)`: the first one unless the second is less. -/
def pyMin (first second : Scalar) : Scalar := if second.less first then second else first

def pyMax (first second : Scalar) : Scalar := if first.less second then second else first

/-- `none` is a value that does not compare with numbers. -/
abbrev Param := Option Scalar

/-- `max(1, min(high, param))` -/
def clamp (high : Nat) : Param → Except PyExn Scalar
  | none => .error .typeError
  | some value => .ok (pyMax (.ofNat 1) (pyMin (.ofNat high) value))

/-- `max(low, min(high, param))` -/
def clampBetween (low high : Nat) : Param → Except PyExn Scalar
  | none => .error .typeError
  | some value => .ok (pyMax (.ofNat low) (pyMin (.ofNat high) value))

theorem pyMin_high (high : Nat) (value : Scalar) :
    pyMin (.ofNat high) value = .ofNat high ∨ pyMin (.ofNat high) value = .negInfinity ∨
      ∃ amount text, pyMin (.ofNat high) value = .finite amount text ∧ amount ≤ high := by
  unfold pyMin
  by_cases less : value.less (.ofNat high)
  · rw [if_pos less]
    cases value with
    | finite amount text =>
        have below : amount < high := of_decide_eq_true less
        exact Or.inr (Or.inr ⟨amount, text, rfl, below.le⟩)
    | negInfinity => exact Or.inr (Or.inl rfl)
    | nan => cases less
    | infinity => cases less
  · rw [if_neg less]
    exact Or.inl rfl

/-- Whatever number the client sends, the code goes on with one in range. -/
theorem clampBetween_bounds (low high : Nat) (wide : low ≤ high) (value : Scalar) :
    ∃ amount text, clampBetween low high (some value) = .ok (.finite amount text) ∧
      low ≤ amount ∧ amount ≤ high := by
  have lowest : (low : ℚ) ≤ high := by exact_mod_cast wide
  have raised : ∀ amount text, amount ≤ (high : ℚ) →
      ∃ amount' text', pyMax (.ofNat low) (.finite amount text) = .finite amount' text' ∧
        low ≤ amount' ∧ amount' ≤ high := by
    intro amount text bounded
    by_cases above : (low : ℚ) < amount
    · exact ⟨amount, text, by simp [pyMax, Scalar.ofNat, Scalar.less, above], above.le, bounded⟩
    · exact ⟨low, toString low, by simp [pyMax, Scalar.ofNat, Scalar.less, above], le_rfl, lowest⟩
  have clamped : ∃ amount text, pyMax (.ofNat low) (pyMin (.ofNat high) value) =
      .finite amount text ∧ low ≤ amount ∧ amount ≤ high := by
    rcases pyMin_high high value with taken | taken | ⟨amount, text, taken, bounded⟩
    · rw [taken]
      exact raised high _ le_rfl
    · rw [taken]
      exact ⟨low, toString low, by simp [pyMax, Scalar.ofNat, Scalar.less], le_rfl, lowest⟩
    · rw [taken]
      exact raised amount text bounded
  obtain ⟨amount, text, result, bounds⟩ := clamped
  exact ⟨amount, text, congrArg Except.ok result, bounds⟩

/-! ## The code -/

inductive Call where
  /-- `tc qdisc add dev eth0 root netem delay …` -/
  | qdiscAdd (delay : String)
  /-- `tc qdisc del dev eth0 root netem` -/
  | qdiscDel
  | sleep (duration : Scalar)
  deriving DecidableEq

abbrev Call.Answer : Call → Type
  | .qdiscAdd _ => CompletedProcess
  | .qdiscDel => CompletedProcess
  | .sleep _ => Unit

inductive Event where
  | start (delayMs durationSec : Scalar)
  | result (detected : Bool) (detectionMessage recommendation : String)
  deriving DecidableEq

abbrev Injection (α : Type) := Gen Call Call.Answer Event PyExn α

def exec (request : Call) : Injection request.Answer := perform request

def maxDurationSec : Nat := 20

def delayText (delayMs : Scalar) : String := delayMs.text ++ "ms"

def refusedEvent (add : CompletedProcess) : Event :=
  .result false "failed to apply network delay" (strip add.stderr)

def appliedEvent (delayMs durationSec : Scalar) : Event :=
  .result true
    (delayMs.text ++ "ms delay applied to the container's eth0 for " ++
      durationSec.text ++ "s, then removed")
    "Scoped to the container's own interface only -- host networking was never touched."

def networkDelay (delayMs durationSec : Param) : Injection Unit := do
  let delayMs ← fromExcept (clamp 2000 delayMs)
  let durationSec ← fromExcept (clamp maxDurationSec durationSec)
  yieldEvent (.start delayMs durationSec)
  let add ← exec (.qdiscAdd (delayText delayMs))
  if add.returncode ≠ 0 then
    yieldEvent (refusedEvent add)
  else do
    withFinally (exec (.sleep durationSec)) do
      let _ ← exec .qdiscDel
    yieldEvent (appliedEvent delayMs durationSec)

/-! ## The container's eth0 -/

/-- The delay of the netem qdisc at the root, when there is one. -/
abbrev Qdisc := Option String

/-- What `tc` prints when the root is taken, or when there is nothing to
delete. -/
structure Tc where
  refusal : CompletedProcess
  refuses : refusal.returncode ≠ 0

def Tc.standard : Tc := ⟨⟨2, "", "Error: Exclusivity flag on, cannot modify.\n"⟩, by decide⟩

def Tc.answer (tc : Tc) (qdisc : Qdisc) :
    (request : Call) → Qdisc × Except PyExn request.Answer
  | .qdiscAdd delay =>
      match qdisc with
      | none => (some delay, .ok ⟨0, "", ""⟩)
      | some _ => (qdisc, .ok tc.refusal)
  | .qdiscDel =>
      match qdisc with
      | none => (none, .ok tc.refusal)
      | some _ => (none, .ok ⟨0, "", ""⟩)
  | .sleep _ => (qdisc, .ok ())

end KernelSprint.NetworkDelay

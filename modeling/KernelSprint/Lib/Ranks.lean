import Mathlib.Algebra.Order.BigOperators.Group.List
import Mathlib.Data.List.Sort

/-!
# Ranks in a sorted list

What stands below and above a position of a sorted list, and C's `qsort` as
any function that sorts under every comparator that is a total order.
-/

set_option autoImplicit false

namespace Ranks

section Sorted

variable {α : Type} [LinearOrder α] {xs : List α}

theorem le_of_position_le (sorted : xs.Pairwise (· ≤ ·)) {i j : Nat} (order : i ≤ j)
    {low high : α} (atLow : xs[i]? = some low) (atHigh : xs[j]? = some high) :
    low ≤ high := by
  obtain ⟨inLow, rfl⟩ := List.getElem?_eq_some_iff.mp atLow
  obtain ⟨inHigh, rfl⟩ := List.getElem?_eq_some_iff.mp atHigh
  rcases Nat.lt_or_eq_of_le order with less | rfl
  · exact List.pairwise_iff_getElem.mp sorted i j inLow inHigh less
  · exact le_rfl

/-- What is smaller than the value at a position stands before it. -/
theorem countP_less (sorted : xs.Pairwise (· ≤ ·)) {i : Nat} {value : α}
    (found : xs[i]? = some value) : xs.countP (· < value) ≤ i := by
  have later : (xs.drop i).countP (· < value) = 0 := by
    rw [List.countP_eq_zero]
    intro x member less
    obtain ⟨k, here⟩ := List.mem_iff_getElem?.mp member
    rw [List.getElem?_drop] at here
    have above := le_of_position_le sorted (Nat.le_add_right i k) found here
    exact absurd (of_decide_eq_true less) (not_lt.mpr above)
  have early := @List.countP_le_length _ (· < value) (xs.take i)
  rw [← List.take_append_drop i xs, List.countP_append, later]
  exact early.trans (List.length_take_le i xs)

/-- What is greater than the value at a position stands after it. -/
theorem countP_greater (sorted : xs.Pairwise (· ≤ ·)) {i : Nat} {value : α}
    (found : xs[i]? = some value) : xs.countP (value < ·) + i < xs.length := by
  obtain ⟨inside, _⟩ := List.getElem?_eq_some_iff.mp found
  have early : (xs.take (i + 1)).countP (value < ·) = 0 := by
    rw [List.countP_eq_zero]
    intro x member greater
    obtain ⟨k, here⟩ := List.mem_iff_getElem?.mp member
    rw [List.getElem?_take, Option.ite_none_right_eq_some] at here
    obtain ⟨bound, here⟩ := here
    have below := le_of_position_le sorted (Nat.le_of_lt_succ bound) here found
    exact absurd (of_decide_eq_true greater) (not_lt.mpr below)
  have later := @List.countP_le_length _ (value < ·) (xs.drop (i + 1))
  have split := congrArg (List.countP (value < ·)) (List.take_append_drop (i + 1) xs)
  rw [List.countP_append, early] at split
  rw [List.length_drop] at later
  omega

end Sorted

/-! ## Sorting by a comparator -/

/-- A comparator whose sign orders the values totally. -/
structure TotalOrder {α : Type} (cmp : α → α → Int) : Prop where
  opposite : ∀ a b, 0 < cmp a b ↔ cmp b a < 0
  trans : ∀ a b c, cmp a b ≤ 0 → cmp b c ≤ 0 → cmp a c ≤ 0
  same : ∀ a b, cmp a b = 0 → a = b

theorem TotalOrder.total {α : Type} {cmp : α → α → Int} (order : TotalOrder cmp) (a b : α) :
    cmp a b ≤ 0 ∨ cmp b a ≤ 0 := by
  by_cases greater : 0 < cmp a b
  · exact Or.inr ((order.opposite a b).mp greater).le
  · exact Or.inl (not_lt.mp greater)

structure Qsort (α : Type) where
  sort : (α → α → Int) → List α → List α
  permutes : ∀ cmp xs, TotalOrder cmp → (sort cmp xs).Perm xs
  sorts : ∀ cmp xs, TotalOrder cmp → (sort cmp xs).Pairwise fun a b => cmp a b ≤ 0

/-- The order of the input is lost. -/
theorem Qsort.sort_perm {α : Type} (qsort : Qsort α) (cmp : α → α → Int)
    (order : TotalOrder cmp) (xs ys : List α) (perm : xs.Perm ys) :
    qsort.sort cmp xs = qsort.sort cmp ys := by
  have antisymm : ∀ a b, a ∈ qsort.sort cmp xs → b ∈ qsort.sort cmp ys →
      cmp a b ≤ 0 → cmp b a ≤ 0 → a = b := by
    intro a b _ _ below above
    apply order.same
    by_contra differ
    have less : cmp a b < 0 := lt_of_le_of_ne below differ
    exact absurd ((order.opposite b a).mpr less) (not_lt.mpr above)
  have sorted := (qsort.permutes cmp xs order).trans perm
  exact List.Perm.eq_of_pairwise antisymm (qsort.sorts cmp xs order) (qsort.sorts cmp ys order)
    (sorted.trans (qsort.permutes cmp ys order).symm)

def Qsort.insertion (α : Type) : Qsort α where
  sort cmp xs := xs.insertionSort fun a b => cmp a b ≤ 0
  permutes cmp xs _ := List.perm_insertionSort _ xs
  sorts cmp xs order := by
    have total : Std.Total fun a b => cmp a b ≤ 0 := ⟨order.total⟩
    have trans : IsTrans α fun a b => cmp a b ≤ 0 := ⟨order.trans⟩
    exact List.pairwise_insertionSort _ xs

end Ranks

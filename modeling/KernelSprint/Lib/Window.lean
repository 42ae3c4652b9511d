import Mathlib.Data.List.DropRight

/-!
# The end of a growing list

The last `size` values, kept by dropping the oldest value for each one that
arrives, and recursions that change the last value only.
-/

set_option autoImplicit false

namespace Window

universe u v

variable {α : Type u} {β : Type v}

def slide (size : Nat) (window : List α) (value : α) : List α :=
  window.rtake (size - 1) ++ [value]

theorem rtake_rtake (first second : Nat) (values : List α) :
    (values.rtake first).rtake second = values.rtake (min second first) := by
  simp only [List.rtake_eq_reverse_take_reverse, List.reverse_reverse, List.take_take]

/-- Sliding keeps the window at the end of what has arrived. -/
theorem slide_rtake (size : Nat) (positive : 0 < size) (values : List α) (value : α) :
    slide size (values.rtake size) value = (values ++ [value]).rtake size := by
  obtain ⟨fewer, rfl⟩ := Nat.exists_eq_add_of_lt positive
  rw [slide, rtake_rtake, Nat.zero_add, List.rtake_concat_succ,
    Nat.min_eq_left (Nat.sub_le _ _), Nat.add_sub_cancel]

/-- A full window of new values leaves no old one. -/
theorem rtake_append (earlier later : List α) :
    (earlier ++ later).rtake later.length = later := by
  simp [List.rtake_eq_reverse_take_reverse]

theorem map_rtake (f : α → β) (size : Nat) (values : List α) :
    (values.rtake size).map f = (values.map f).rtake size := by
  simp [List.rtake, List.map_drop]

theorem length_rtake_le (size : Nat) (values : List α) :
    (values.rtake size).length ≤ size := by
  rw [List.rtake, List.length_drop]
  omega

theorem getLast?_rtake (size : Nat) (positive : 0 < size) (values : List α) :
    (values.rtake size).getLast? = values.getLast? := by
  induction values using List.reverseRecOn with
  | nil => rw [List.rtake_nil]
  | append_singleton earlier value _ =>
      rw [← slide_rtake size positive, slide, List.getLast?_concat, List.getLast?_concat]

theorem mem_slide {size : Nat} {window : List α} {old new : α}
    (member : new ∈ slide size window old) : new ∈ window ∨ new = old := by
  rcases List.mem_append.mp member with kept | arrived
  · exact .inl (List.mem_of_mem_drop kept)
  · exact .inr (List.mem_singleton.mp arrived)

/-- A recursion that goes past every value but the last. -/
theorem change_concat (change : List α → List α) (new : α → α)
    (single : ∀ value, change [value] = [new value])
    (longer : ∀ first second rest,
      change (first :: second :: rest) = first :: change (second :: rest))
    (past : List α) (last : α) : change (past ++ [last]) = past ++ [new last] := by
  induction past with
  | nil => exact single last
  | cons first rest ih =>
      cases rest with
      | nil => exact (longer first last []).trans (congrArg (first :: ·) ih)
      | cons second later => exact (longer first second _).trans (congrArg (first :: ·) ih)

end Window

import Mathlib.Data.List.Basic

/-!
# Pairing marks in one pass

A sequence holds opening marks, closing marks and noise.  A closing mark is
paired with the mark right before it when that is an opening one; a single
pass finds the pairs by remembering the last opening mark.
-/

set_option autoImplicit false

namespace Pairing

inductive Mark (α β : Type) where
  | opening (value : α)
  | closing (value : β)

variable {α β : Type}

/-- The one pass; `pending` is the opening mark that is still unpaired. -/
def collect : Option α → List (Option (Mark α β)) → List (α × β)
  | _, [] => []
  | _, some (.opening value) :: rest => collect (some value) rest
  | some pending, some (.closing value) :: rest => (pending, value) :: collect none rest
  | none, some (.closing _) :: rest => collect none rest
  | pending, none :: rest => collect pending rest

section Positions

variable (marks : List (Option (Mark α β)))

def markAt (position : Nat) : Option (Mark α β) := marks[position]?.join

/-- The nearest mark before a position. -/
def nearest (position : Nat) : Option Nat :=
  (List.range position).reverse.find? fun earlier => (markAt marks earlier).isSome

def pairAt (position : Nat) : Option (α × β) :=
  match (nearest marks position).bind (markAt marks), markAt marks position with
  | some (.opening first), some (.closing second) => some (first, second)
  | _, _ => none

/-- The pairs in the order of their closing marks. -/
def paired : List (α × β) := (List.range marks.length).filterMap (pairAt marks)

theorem nearest_succ (position : Nat) :
    nearest marks (position + 1) =
      if (markAt marks position).isSome then some position else nearest marks position := by
  unfold nearest
  rw [List.range_succ, List.reverse_append, List.reverse_singleton, List.singleton_append,
    List.find?_cons]
  cases (markAt marks position).isSome <;> rfl

/-- The opening mark that waits at a position. -/
def waiting (position : Nat) : Option α :=
  match (nearest marks position).bind (markAt marks) with
  | some (.opening value) => some value
  | _ => none

theorem waiting_succ (position : Nat) :
    waiting marks (position + 1) =
      match markAt marks position with
      | some (.opening value) => some value
      | some (.closing _) => none
      | none => waiting marks position := by
  unfold waiting
  rw [nearest_succ]
  cases here : markAt marks position with
  | none => rfl
  | some mark => cases mark <;> simp [here]

theorem pairAt_eq (position : Nat) :
    pairAt marks position =
      match waiting marks position, markAt marks position with
      | some first, some (.closing second) => some (first, second)
      | _, _ => none := by
  unfold pairAt waiting
  cases (nearest marks position).bind (markAt marks) with
  | none => rfl
  | some mark =>
      cases mark with
      | opening first =>
          cases markAt marks position with
          | none => rfl
          | some mark => cases mark <;> rfl
      | closing value => rfl

theorem collect_drop (position : Nat) (inside : position ≤ marks.length) :
    collect (waiting marks position) (marks.drop position) =
      (List.range' position (marks.length - position)).filterMap (pairAt marks) := by
  induction left : marks.length - position generalizing position with
  | zero =>
      rw [List.drop_eq_nil_of_le (by omega)]
      cases waiting marks position <;> rfl
  | succ left ih =>
      have bound : position < marks.length := by omega
      have rest := ih (position + 1) (by omega) (by omega)
      have here : markAt marks position = marks[position] := by
        rw [markAt, List.getElem?_eq_getElem bound, Option.join_some]
      rw [waiting_succ, here] at rest
      rw [List.drop_eq_getElem_cons bound, List.range'_succ, List.filterMap_cons, pairAt_eq, here,
        ← rest]
      generalize marks[position] = found
      cases found with
      | none => cases waiting marks position <;> rfl
      | some mark =>
          cases mark with
          | opening value => cases waiting marks position <;> rfl
          | closing value => cases waiting marks position <;> rfl

/-- The pass finds exactly the closing marks right after an opening one. -/
theorem collect_eq_paired : collect none marks = paired marks := by
  have whole := collect_drop marks 0 (Nat.zero_le _)
  rw [List.drop_zero, Nat.sub_zero, ← List.range_eq_range'] at whole
  exact whole

/-! ## No mark is used twice -/

theorem nearest_spec (position earlier : Nat) (found : nearest marks position = some earlier) :
    earlier < position ∧ ∀ between, earlier < between → between < position →
      markAt marks between = none := by
  induction position with
  | zero => cases found
  | succ position ih =>
      rw [nearest_succ] at found
      by_cases marked : (markAt marks position).isSome
      · rw [if_pos marked] at found
        cases found
        exact ⟨Nat.lt_succ_self _, fun between above below => by omega⟩
      · rw [if_neg marked] at found
        obtain ⟨less, quiet⟩ := ih found
        refine ⟨Nat.lt_succ_of_lt less, ?_⟩
        intro between above below
        rcases Nat.lt_succ_iff_lt_or_eq.mp below with inside | rfl
        · exact quiet between above inside
        · simpa using marked

/-- A later pair opens after an earlier one has closed. -/
theorem opens_later (closing later opening : Nat) (pair : (pairAt marks closing).isSome)
    (laterPair : (pairAt marks later).isSome) (order : closing < later)
    (source : nearest marks later = some opening) : closing < opening := by
  obtain ⟨less, quiet⟩ := nearest_spec marks later opening source
  have closes : ∃ value, markAt marks closing = some (.closing value) := by
    unfold pairAt at pair
    split at pair
    · next first second _ here => exact ⟨second, here⟩
    · cases pair
  have opens : ∃ value, markAt marks opening = some (.opening value) := by
    unfold pairAt at laterPair
    rw [source, Option.bind_some] at laterPair
    split at laterPair
    · next first second here _ => exact ⟨first, here⟩
    · cases laterPair
  obtain ⟨closed, closes⟩ := closes
  obtain ⟨opened, opens⟩ := opens
  by_contra notLater
  rcases Nat.lt_or_eq_of_le (Nat.le_of_not_lt notLater) with before | same
  · exact absurd (quiet closing before order) (by simp [closes])
  · rw [same, closes] at opens
    cases opens

end Positions

/-! ## One mark at a time -/

/-- What the pass remembers after a mark. -/
def remember : Option α → Option (Mark α β) → Option α
  | _, some (.opening value) => some value
  | _, some (.closing _) => none
  | pending, none => pending

/-- The pair that a mark completes. -/
def complete : Option α → Option (Mark α β) → List (α × β)
  | some pending, some (.closing value) => [(pending, value)]
  | _, _ => []

def remembered (pending : Option α) (marks : List (Option (Mark α β))) : Option α :=
  marks.foldl remember pending

theorem collect_cons (pending : Option α) (mark : Option (Mark α β))
    (rest : List (Option (Mark α β))) :
    collect pending (mark :: rest) =
      complete pending mark ++ collect (remember pending mark) rest := by
  cases mark with
  | none => cases pending <;> rfl
  | some mark => cases mark <;> cases pending <;> rfl

theorem collect_append (pending : Option α) (first second : List (Option (Mark α β))) :
    collect pending (first ++ second) =
      collect pending first ++ collect (remembered pending first) second := by
  induction first generalizing pending with
  | nil => cases pending <;> rfl
  | cons mark rest ih =>
      rw [List.cons_append, collect_cons, collect_cons, ih, List.append_assoc]
      rfl

theorem collect_concat (marks : List (Option (Mark α β))) (mark : Option (Mark α β)) :
    collect none (marks ++ [mark]) =
      collect none marks ++ complete (remembered none marks) mark := by
  have empty : ∀ pending : Option α, collect pending ([] : List (Option (Mark α β))) = [] := by
    intro pending
    cases pending <;> rfl
  rw [collect_append, collect_cons, empty, List.append_nil]

theorem remembered_concat (marks : List (Option (Mark α β))) (mark : Option (Mark α β)) :
    remembered none (marks ++ [mark]) = remember (remembered none marks) mark := by
  simp only [remembered, List.foldl_append, List.foldl_cons, List.foldl_nil]

/-! ## Rounds -/

/-- An opening and a closing mark, amid noise. -/
structure Round (α β : Type) where
  before : Nat
  first : α
  between : Nat
  second : β
  after : Nat

def Round.marks (round : Round α β) : List (Option (Mark α β)) :=
  List.replicate round.before none ++ (some (.opening round.first) ::
    (List.replicate round.between none ++ (some (.closing round.second) ::
      List.replicate round.after none)))

theorem collect_noise (pending : Option α) (count : Nat) (rest : List (Option (Mark α β))) :
    collect pending (List.replicate count none ++ rest) = collect pending rest := by
  induction count with
  | zero => rfl
  | succ count ih =>
      rw [List.replicate_succ, List.cons_append, ← ih]
      cases pending <;> rfl

theorem collect_rounds (pending : Option α) (rounds : List (Round α β)) :
    collect pending (rounds.flatMap Round.marks) =
      rounds.map fun round => (round.first, round.second) := by
  induction rounds generalizing pending with
  | nil => cases pending <;> rfl
  | cons round rounds ih =>
      rw [List.flatMap_cons, Round.marks, List.append_assoc, collect_noise]
      change collect (some round.first) (List.replicate round.between none ++
        (some (.closing round.second) :: List.replicate round.after none) ++ _) = _
      rw [List.append_assoc, collect_noise]
      change (round.first, round.second) ::
        collect none (List.replicate round.after none ++ _) = _
      rw [collect_noise, ih, List.map_cons]

end Pairing

import Mathlib.Data.List.Infix

/-!
# Backtracking search for flat patterns

A flat pattern is a sequence of atoms, each matching one symbol, a captured
greedy run `([…]+)` or an uncaptured lazy run `[…]*?`.  Matching backtracks in
priority order and the search is leftmost, so the first alternative that
succeeds is the match.
-/

set_option autoImplicit false

namespace Patterns

universe u v

inductive Atom (α : Type u) where
  | one (accept : α → Bool)
  | greedy (accept : α → Bool)
  | lazy (accept : α → Bool)

abbrev Pattern (α : Type u) := List (Atom α)

structure Match (α : Type u) where
  groups : List (List α)
  rest : List α
  deriving DecidableEq, Repr

variable {α : Type u} {β : Type v}

/-- Extends `taken` as far as possible before handing over to `next`. -/
def greedyFrom (accept : α → Bool) (next : List α → List α → Option β) :
    List α → List α → Option β
  | taken, [] => next taken []
  | taken, x :: xs =>
      if accept x then
        (greedyFrom accept next (taken ++ [x]) xs).or (next taken (x :: xs))
      else next taken (x :: xs)

/-- Hands over to `next` before skipping any further symbol. -/
def lazyFrom (accept : α → Bool) (next : List α → Option β) : List α → Option β
  | [] => next []
  | x :: xs => (next (x :: xs)).or (if accept x then lazyFrom accept next xs else none)

def matchAt : Pattern α → List α → Option (Match α)
  | [], xs => some ⟨[], xs⟩
  | .one _ :: _, [] => none
  | .one accept :: atoms, x :: xs => if accept x then matchAt atoms xs else none
  | .greedy _ :: _, [] => none
  | .greedy accept :: atoms, x :: xs =>
      if accept x then
        greedyFrom accept
          (fun taken rest => (matchAt atoms rest).map fun found =>
            { found with groups := taken :: found.groups }) [x] xs
      else none
  | .lazy accept :: atoms, xs => lazyFrom accept (matchAt atoms) xs

/-- The leftmost match. -/
def search (pattern : Pattern α) : List α → Option (Match α)
  | [] => matchAt pattern []
  | x :: xs => (matchAt pattern (x :: xs)).or (search pattern xs)

/-- The first place of a text where a property holds: a place is what begins
there. -/
def Leftmost (holds : List α → Prop) (text place : List α) : Prop :=
  place <:+ text ∧ holds place ∧
    ∀ earlier, earlier <:+ text → place.length < earlier.length → ¬ holds earlier

def literal [DecidableEq α] (symbols : List α) : Pattern α :=
  symbols.map fun symbol => .one fun x => decide (x = symbol)

/-! ## Where a pattern matches -/

section Literal

variable [DecidableEq α]

theorem matchAt_literal (symbols : List α) (pattern : Pattern α) (xs : List α) :
    matchAt (literal symbols ++ pattern) (symbols ++ xs) = matchAt pattern xs := by
  induction symbols with
  | nil => rfl
  | cons symbol rest ih =>
      have here : matchAt (literal (symbol :: rest) ++ pattern) (symbol :: rest ++ xs) =
          matchAt (literal rest ++ pattern) (rest ++ xs) := by
        simp [literal, matchAt]
      rw [here, ih]

/-- A pattern that starts with a literal matches only where the literal stands. -/
theorem prefix_of_matchAt (symbols : List α) (pattern : Pattern α) (xs : List α)
    (found : Match α) (matched : matchAt (literal symbols ++ pattern) xs = some found) :
    symbols <+: xs := by
  induction symbols generalizing xs with
  | nil => exact List.nil_prefix
  | cons symbol rest ih =>
      cases xs with
      | nil => simp [literal, matchAt] at matched
      | cons x xs =>
          simp only [literal, List.map_cons, List.cons_append, matchAt] at matched
          by_cases same : x = symbol
          · simp only [same, decide_true, ↓reduceIte] at matched
            rw [same]
            exact List.cons_prefix_cons.mpr ⟨rfl, ih xs matched⟩
          · simp [same] at matched

theorem matchAt_literal_none (symbols : List α) (pattern : Pattern α) (xs : List α)
    (elsewhere : ¬ symbols <+: xs) : matchAt (literal symbols ++ pattern) xs = none := by
  cases matched : matchAt (literal symbols ++ pattern) xs with
  | none => rfl
  | some found => exact absurd (prefix_of_matchAt symbols pattern xs found matched) elsewhere

end Literal

section Runs

variable (accept : α → Bool) (pattern : Pattern α)

theorem greedyFrom_run (next : List α → List α → Option β) (taken run rest : List α)
    (value : β) (accepted : ∀ x ∈ run, accept x = true)
    (stops : ∀ x ∈ rest.head?, accept x = false)
    (continued : next (taken ++ run) rest = some value) :
    greedyFrom accept next taken (run ++ rest) = some value := by
  induction run generalizing taken with
  | nil =>
      rw [List.append_nil] at continued
      cases rest with
      | nil => exact continued
      | cons x xs =>
          have refused : accept x = false := stops x rfl
          simp only [List.nil_append, greedyFrom, refused, Bool.false_eq_true, ↓reduceIte]
          exact continued
  | cons x xs ih =>
      have longer : greedyFrom accept next (taken ++ [x]) (xs ++ rest) = some value := by
        apply ih
        · exact fun y member => accepted y (List.mem_cons_of_mem x member)
        · rw [List.append_assoc]
          exact continued
      simp only [List.cons_append, greedyFrom, accepted x List.mem_cons_self, ↓reduceIte, longer]
      rfl

/-- A greedy run takes all that it accepts when the rest of the pattern can go
on from there. -/
theorem matchAt_greedy (run rest : List α) (found : Match α) (nonempty : run ≠ [])
    (accepted : ∀ x ∈ run, accept x = true) (stops : ∀ x ∈ rest.head?, accept x = false)
    (matched : matchAt pattern rest = some found) :
    matchAt (.greedy accept :: pattern) (run ++ rest) =
      some ⟨run :: found.groups, found.rest⟩ := by
  cases run with
  | nil => exact absurd rfl nonempty
  | cons x xs =>
      simp only [List.cons_append, matchAt, accepted x List.mem_cons_self, ↓reduceIte]
      apply greedyFrom_run accept _ [x] xs rest
      · exact fun y member => accepted y (List.mem_cons_of_mem x member)
      · exact stops
      · simp [matched]

/-- A lazy run skips what the rest of the pattern cannot start with. -/
theorem matchAt_lazy (run rest : List α) (accepted : ∀ x ∈ run, accept x = true)
    (refused : ∀ suffix, suffix <:+ run → suffix ≠ [] →
      matchAt pattern (suffix ++ rest) = none)
    (found : Match α) (matched : matchAt pattern rest = some found) :
    matchAt (.lazy accept :: pattern) (run ++ rest) = some found := by
  change lazyFrom accept (matchAt pattern) (run ++ rest) = some found
  induction run with
  | nil =>
      cases rest with
      | nil => exact matched
      | cons x xs => simp only [List.nil_append, lazyFrom, matched, Option.some_or]
  | cons x xs ih =>
      have skipped : matchAt pattern (x :: xs ++ rest) = none :=
        refused (x :: xs) (List.suffix_refl _) (List.cons_ne_nil x xs)
      simp only [List.cons_append] at skipped
      simp only [List.cons_append, lazyFrom, skipped, Option.none_or,
        accepted x List.mem_cons_self, ↓reduceIte]
      apply ih
      · exact fun y member => accepted y (List.mem_cons_of_mem x member)
      · exact fun suffix inside => refused suffix (inside.trans (List.suffix_cons x xs))

end Runs

/-! ## What a match reads -/

/-- A text read along a pattern, whatever the priorities of its runs. -/
inductive Reads : Pattern α → List α → List (List α) → List α → Prop where
  | nil (rest : List α) : Reads [] rest [] rest
  | one {atoms : Pattern α} {xs rest : List α} {groups : List (List α)} (accept : α → Bool)
      (x : α) (accepted : accept x = true) (reads : Reads atoms xs groups rest) :
      Reads (.one accept :: atoms) (x :: xs) groups rest
  | greedy {atoms : Pattern α} {xs rest : List α} {groups : List (List α)} (accept : α → Bool)
      (run : List α) (nonempty : run ≠ []) (accepted : ∀ x ∈ run, accept x = true)
      (reads : Reads atoms xs groups rest) :
      Reads (.greedy accept :: atoms) (run ++ xs) (run :: groups) rest
  | lazy {atoms : Pattern α} {xs rest : List α} {groups : List (List α)} (accept : α → Bool)
      (run : List α) (accepted : ∀ x ∈ run, accept x = true)
      (reads : Reads atoms xs groups rest) :
      Reads (.lazy accept :: atoms) (run ++ xs) groups rest

theorem greedyFrom_split (accept : α → Bool) (next : List α → List α → Option β)
    (taken xs : List α) (value : β) (matched : greedyFrom accept next taken xs = some value) :
    ∃ run rest, xs = run ++ rest ∧ (∀ x ∈ run, accept x = true) ∧
      next (taken ++ run) rest = some value := by
  have here : ∀ taken xs, next taken xs = some value →
      ∃ run rest, xs = run ++ rest ∧ (∀ x ∈ run, accept x = true) ∧
        next (taken ++ run) rest = some value := by
    intro taken xs handed
    exact ⟨[], xs, rfl, List.forall_mem_nil _, by rwa [List.append_nil]⟩
  induction xs generalizing taken with
  | nil => exact here taken [] matched
  | cons x xs ih =>
      simp only [greedyFrom] at matched
      by_cases accepted : accept x = true
      · rw [if_pos accepted, Option.or_eq_some_iff] at matched
        rcases matched with longer | ⟨_, handed⟩
        · obtain ⟨run, rest, rfl, all, handed⟩ := ih _ longer
          refine ⟨x :: run, rest, rfl, List.forall_mem_cons.mpr ⟨accepted, all⟩, ?_⟩
          rwa [List.append_assoc] at handed
        · exact here taken _ handed
      · rw [if_neg accepted] at matched
        exact here taken _ matched

theorem lazyFrom_split (accept : α → Bool) (next : List α → Option β) (xs : List α)
    (value : β) (matched : lazyFrom accept next xs = some value) :
    ∃ run rest, xs = run ++ rest ∧ (∀ x ∈ run, accept x = true) ∧ next rest = some value := by
  induction xs with
  | nil => exact ⟨[], [], rfl, List.forall_mem_nil _, matched⟩
  | cons x xs ih =>
      simp only [lazyFrom, Option.or_eq_some_iff] at matched
      rcases matched with here | ⟨_, later⟩
      · exact ⟨[], x :: xs, rfl, List.forall_mem_nil _, here⟩
      · by_cases accepted : accept x = true
        · rw [if_pos accepted] at later
          obtain ⟨run, rest, rfl, all, handed⟩ := ih later
          exact ⟨x :: run, rest, rfl, List.forall_mem_cons.mpr ⟨accepted, all⟩, handed⟩
        · rw [if_neg accepted] at later
          cases later

/-- Backtracking is sound. -/
theorem reads_of_matchAt (pattern : Pattern α) (xs : List α) (found : Match α)
    (matched : matchAt pattern xs = some found) : Reads pattern xs found.groups found.rest := by
  induction pattern generalizing xs found with
  | nil =>
      cases matched
      exact .nil xs
  | cons atom atoms ih =>
      cases atom with
      | one accept =>
          cases xs with
          | nil => cases matched
          | cons x xs =>
              simp only [matchAt] at matched
              by_cases accepted : accept x = true
              · rw [if_pos accepted] at matched
                exact .one accept x accepted (ih xs found matched)
              · rw [if_neg accepted] at matched
                cases matched
      | greedy accept =>
          cases xs with
          | nil => cases matched
          | cons x xs =>
              simp only [matchAt] at matched
              by_cases accepted : accept x = true
              · rw [if_pos accepted] at matched
                obtain ⟨run, rest, rfl, all, handed⟩ := greedyFrom_split accept _ _ _ _ matched
                obtain ⟨inner, innerMatched, rfl⟩ := Option.map_eq_some_iff.mp handed
                exact .greedy accept (x :: run) (List.cons_ne_nil x run)
                  (List.forall_mem_cons.mpr ⟨accepted, all⟩) (ih rest inner innerMatched)
              · rw [if_neg accepted] at matched
                cases matched
      | lazy accept =>
          obtain ⟨run, rest, rfl, all, handed⟩ := lazyFrom_split accept _ _ _ matched
          exact .lazy accept run all (ih rest found handed)

theorem reads_literal_iff [DecidableEq α] (symbols : List α) (pattern : Pattern α)
    (xs : List α) (groups : List (List α)) (rest : List α) :
    Reads (literal symbols ++ pattern) xs groups rest ↔
      ∃ tail, xs = symbols ++ tail ∧ Reads pattern tail groups rest := by
  induction symbols generalizing xs with
  | nil =>
      constructor
      · exact fun reads => ⟨xs, rfl, reads⟩
      · rintro ⟨tail, rfl, reads⟩
        exact reads
  | cons symbol symbols ih =>
      constructor
      · intro reads
        cases reads with
        | one accept x accepted reads =>
            obtain ⟨tail, same, later⟩ := (ih _).mp reads
            rw [of_decide_eq_true accepted, same]
            exact ⟨tail, rfl, later⟩
      · rintro ⟨tail, rfl, reads⟩
        exact .one _ symbol (decide_eq_true rfl) ((ih _).mpr ⟨tail, rfl, reads⟩)

theorem reads_greedy_iff (accept : α → Bool) (pattern : Pattern α) (xs : List α)
    (groups : List (List α)) (rest : List α) :
    Reads (.greedy accept :: pattern) xs groups rest ↔
      ∃ run tail others, xs = run ++ tail ∧ groups = run :: others ∧ run ≠ [] ∧
        (∀ x ∈ run, accept x = true) ∧ Reads pattern tail others rest := by
  constructor
  · intro reads
    cases reads with
    | greedy accept run nonempty accepted reads =>
        exact ⟨run, _, _, rfl, rfl, nonempty, accepted, reads⟩
  · rintro ⟨run, tail, others, rfl, rfl, nonempty, accepted, reads⟩
    exact .greedy accept run nonempty accepted reads

/-- A greedy run gives back symbol by symbol; when the rest of the pattern cannot
go on from anywhere, nothing matches. -/
theorem matchAt_greedy_none (accept : α → Bool) (pattern : Pattern α) (run rest : List α)
    (stops : ∀ x ∈ rest.head?, accept x = false)
    (refused : ∀ suffix, suffix <:+ run → matchAt pattern (suffix ++ rest) = none) :
    matchAt (.greedy accept :: pattern) (run ++ rest) = none := by
  have stays : ∀ taken after, run ++ rest = taken ++ after → (∀ x ∈ taken, accept x = true) →
      ∃ suffix, suffix <:+ run ∧ after = suffix ++ rest := by
    intro taken after same accepted
    rcases List.append_eq_append_iff.mp same with ⟨beyond, rfl, rfl⟩ | ⟨suffix, rfl, rfl⟩
    · cases beyond with
      | nil => exact ⟨[], List.nil_suffix, rfl⟩
      | cons x more =>
          have yes := accepted x (List.mem_append_right _ List.mem_cons_self)
          rw [stops x rfl] at yes
          cases yes
    · exact ⟨suffix, List.suffix_append _ _, rfl⟩
  cases symbols : run ++ rest with
  | nil => rfl
  | cons x xs =>
      simp only [matchAt]
      split
      · next accepted =>
          refine Option.eq_none_iff_forall_ne_some.mpr fun found matched => ?_
          obtain ⟨taken, after, rfl, all, handed⟩ := greedyFrom_split accept _ _ _ _ matched
          obtain ⟨suffix, inside, rfl⟩ := stays (x :: taken) after symbols
            (List.forall_mem_cons.mpr ⟨accepted, all⟩)
          rw [refused suffix inside] at handed
          cases handed
      · rfl

/-! ## Groups -/

def captures : Pattern α → Nat
  | [] => 0
  | .greedy _ :: atoms => captures atoms + 1
  | _ :: atoms => captures atoms

theorem reads_groups (pattern : Pattern α) (xs : List α) (groups : List (List α))
    (rest : List α) (reads : Reads pattern xs groups rest) : groups.length = captures pattern := by
  induction reads with
  | nil rest => rfl
  | one accept x accepted reads ih => exact ih
  | greedy accept run nonempty accepted reads ih => exact congrArg (· + 1) ih
  | lazy accept run accepted reads ih => exact ih

theorem matchAt_groups (pattern : Pattern α) (xs : List α) (found : Match α)
    (matched : matchAt pattern xs = some found) :
    found.groups.length = captures pattern :=
  reads_groups pattern xs _ _ (reads_of_matchAt pattern xs found matched)

/-! ## Searching -/

theorem search_here (pattern : Pattern α) (xs : List α) (found : Match α)
    (matched : matchAt pattern xs = some found) : search pattern xs = some found := by
  cases xs with
  | nil => exact matched
  | cons x xs => simp only [search, matched, Option.some_or]

theorem search_skip (pattern : Pattern α) (before rest : List α)
    (refused : ∀ suffix, suffix <:+ before → suffix ≠ [] →
      matchAt pattern (suffix ++ rest) = none) :
    search pattern (before ++ rest) = search pattern rest := by
  induction before with
  | nil => rfl
  | cons x xs ih =>
      have skipped : matchAt pattern (x :: xs ++ rest) = none :=
        refused (x :: xs) (List.suffix_refl _) (List.cons_ne_nil x xs)
      simp only [List.cons_append] at skipped
      simp only [List.cons_append, search, skipped, Option.none_or]
      exact ih fun suffix inside => refused suffix (inside.trans (List.suffix_cons x xs))

theorem leftmost_unique (holds : List α → Prop) (text first second : List α)
    (here : Leftmost holds text first) (there : Leftmost holds text second) : first = second := by
  have within : ¬ first.length < second.length :=
    fun shorter => here.2.2 second there.1 shorter there.2.1
  have within' : ¬ second.length < first.length :=
    fun shorter => there.2.2 first here.1 shorter here.2.1
  have same : first.length = second.length := by omega
  exact (List.suffix_of_suffix_length_le here.1 there.1 (Nat.le_of_eq same)).eq_of_length same

theorem leftmost_cons (holds : List α → Prop) (x : α) (xs place : List α)
    (refused : ¬ holds (x :: xs)) (later : Leftmost holds xs place) :
    Leftmost holds (x :: xs) place := by
  obtain ⟨inside, here, first⟩ := later
  refine ⟨inside.trans (List.suffix_cons x xs), here, ?_⟩
  intro earlier ends longer
  rcases List.suffix_cons_iff.mp ends with whole | ends
  · rw [whole]
    exact refused
  · exact first earlier ends longer

/-- A search that succeeds has found the first place where the pattern matches. -/
theorem search_leftmost (pattern : Pattern α) (xs : List α) (found : Match α)
    (matched : search pattern xs = some found) :
    ∃ place, Leftmost (fun place => (matchAt pattern place).isSome) xs place ∧
      matchAt pattern place = some found := by
  have whole : ∀ xs, matchAt pattern xs = some found →
      Leftmost (fun place => (matchAt pattern place).isSome) xs xs := by
    intro xs here
    refine ⟨List.suffix_refl xs, Option.isSome_of_mem here, ?_⟩
    intro earlier ends longer
    exact absurd ends.length_le (Nat.not_le_of_lt longer)
  induction xs with
  | nil => exact ⟨[], whole [] matched, matched⟩
  | cons x xs ih =>
      simp only [search, Option.or_eq_some_iff] at matched
      rcases matched with here | ⟨missed, later⟩
      · exact ⟨x :: xs, whole (x :: xs) here, here⟩
      · obtain ⟨place, first, there⟩ := ih later
        have refused : ¬ (matchAt pattern (x :: xs)).isSome := by simp [missed]
        exact ⟨place, leftmost_cons _ x xs place refused first, there⟩

theorem search_some (pattern : Pattern α) (xs : List α) (found : Match α)
    (matched : search pattern xs = some found) :
    ∃ suffix, suffix <:+ xs ∧ matchAt pattern suffix = some found := by
  obtain ⟨place, first, here⟩ := search_leftmost pattern xs found matched
  exact ⟨place, first.1, here⟩

theorem search_eq_none_iff (pattern : Pattern α) (xs : List α) :
    search pattern xs = none ↔ ∀ suffix, suffix <:+ xs → matchAt pattern suffix = none := by
  induction xs with
  | nil =>
      constructor
      · intro unmatched suffix inside
        rw [List.suffix_nil.mp inside]
        exact unmatched
      · intro refused
        exact refused [] (List.suffix_refl [])
  | cons x xs ih =>
      simp only [search, Option.or_eq_none_iff, ih]
      constructor
      · intro unmatched suffix inside
        rcases List.suffix_cons_iff.mp inside with whole | inside
        · rw [whole]
          exact unmatched.1
        · exact unmatched.2 suffix inside
      · intro refused
        exact ⟨refused _ (List.suffix_refl _),
          fun suffix inside => refused suffix (inside.trans (List.suffix_cons x xs))⟩

section Literal

variable [DecidableEq α] (symbols : List α) (pattern : Pattern α)

theorem search_literal_none (xs : List α) (absent : ¬ symbols <:+: xs) :
    search (literal symbols ++ pattern) xs = none := by
  rw [search_eq_none_iff]
  intro suffix inside
  apply matchAt_literal_none
  intro here
  exact absent (here.isInfix.trans inside.isInfix)

theorem search_literal_skip (before rest : List α)
    (elsewhere : ∀ suffix, suffix <:+ before → suffix ≠ [] → ¬ symbols <+: suffix ++ rest) :
    search (literal symbols ++ pattern) (before ++ rest) =
      search (literal symbols ++ pattern) rest := by
  apply search_skip
  intro suffix inside nonempty
  exact matchAt_literal_none symbols pattern _ (elsewhere suffix inside nonempty)

end Literal

/-! ## Words inside a text -/

theorem infix_append_cases (word before rest : List α) (inside : word <:+: before ++ rest) :
    (∃ suffix, suffix <:+ before ∧ suffix ≠ [] ∧ word <+: suffix ++ rest) ∨
      word <:+: rest := by
  induction before with
  | nil => exact Or.inr inside
  | cons x xs ih =>
      rcases List.infix_cons_iff.mp inside with here | later
      · exact Or.inl ⟨x :: xs, List.suffix_refl _, List.cons_ne_nil x xs, here⟩
      · rcases ih later with ⟨suffix, ends, nonempty, here⟩ | beyond
        · exact Or.inl ⟨suffix, ends.trans (List.suffix_cons x xs), nonempty, here⟩
        · exact Or.inr beyond

/-- A word does not reach past a symbol that it does not have. -/
theorem prefix_of_prefix_fresh (word before rest : List α) (stop : α) (fresh : stop ∉ word)
    (here : word <+: before ++ stop :: rest) : word <+: before := by
  induction before generalizing word with
  | nil =>
      cases word with
      | nil => exact List.nil_prefix
      | cons x xs =>
          have same := (List.cons_prefix_cons.mp here).1
          exact absurd (same ▸ List.mem_cons_self) fresh
  | cons y ys ih =>
      cases word with
      | nil => exact List.nil_prefix
      | cons x xs =>
          obtain ⟨same, here⟩ := List.cons_prefix_cons.mp here
          have rest := ih xs (fun member => fresh (List.mem_cons_of_mem x member)) here
          exact List.cons_prefix_cons.mpr ⟨same, rest⟩

theorem infix_of_infix_fresh (word before rest : List α) (stop : α) (fresh : stop ∉ word)
    (inside : word <:+: before ++ stop :: rest) : word <:+: before ∨ word <:+: rest := by
  rcases infix_append_cases word before (stop :: rest) inside with starts | later
  · obtain ⟨suffix, ends, _, here⟩ := starts
    have short := prefix_of_prefix_fresh word suffix rest stop fresh here
    exact Or.inl (short.isInfix.trans ends.isInfix)
  · rcases List.infix_cons_iff.mp later with here | later
    · have empty := prefix_of_prefix_fresh word [] rest stop fresh here
      rw [List.prefix_nil.mp empty]
      exact Or.inl List.nil_infix
    · exact Or.inr later

/-- Nor does it reach across a run of symbols none of which it has. -/
theorem infix_of_infix_run (word before run rest : List α) (nonempty : run ≠ [])
    (fresh : ∀ x ∈ run, x ∉ word) (inside : word <:+: before ++ (run ++ rest)) :
    word <:+: before ∨ word <:+: rest := by
  induction run generalizing before with
  | nil => exact absurd rfl nonempty
  | cons x xs ih =>
      rcases infix_of_infix_fresh word before _ x (fresh x List.mem_cons_self) inside with
        early | later
      · exact Or.inl early
      · by_cases single : xs = []
        · rw [single] at later
          exact Or.inr later
        · rcases ih [] single (fun y member => fresh y (List.mem_cons_of_mem x member)) later with
            nothing | beyond
          · rw [List.infix_nil.mp nothing]
            exact Or.inl List.nil_infix
          · exact Or.inr beyond

/-- A word whose last symbol occurs only there cannot overlap itself. -/
theorem not_prefix_of_overlap (init : List α) (last : α) (fresh : last ∉ init)
    (before rest : List α) (nonempty : before ≠ [])
    (absent : ¬ (init ++ [last]) <:+: before) :
    ¬ (init ++ [last]) <+: before ++ ((init ++ [last]) ++ rest) := by
  intro here
  obtain ⟨tail, same⟩ := here
  rcases List.append_eq_append_iff.mp same with ⟨middle, beyond, _⟩ | ⟨middle, short, shifted⟩
  · exact absent (beyond ▸ (List.prefix_append (init ++ [last]) middle).isInfix)
  · rcases List.eq_nil_or_concat middle with nothing | ⟨middle', x, ends⟩
    · rw [nothing, List.append_nil] at short
      exact absent (short ▸ List.infix_refl _)
    · rw [ends, List.concat_eq_append, ← List.append_assoc] at short
      obtain ⟨initEq, lastEq⟩ := List.append_inj' short rfl
      cases lastEq
      -- the last symbol would stand inside the first copy as well
      have shifted' : middle' ++ [last] <+: init ++ ([last] ++ rest) := by
        rw [← List.append_assoc, shifted, ends, List.concat_eq_append]
        exact List.prefix_append _ _
      have longer : (middle' ++ [last]).length ≤ init.length := by
        have positive := List.length_pos_iff.mpr nonempty
        simp only [initEq, List.length_append, List.length_singleton]
        omega
      have inside : middle' ++ [last] <+: init :=
        List.prefix_of_prefix_length_le shifted' (List.prefix_append _ _) longer
      exact fresh (inside.subset (by simp))

end Patterns

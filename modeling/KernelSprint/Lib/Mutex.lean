import Mathlib.Algebra.Order.Ring.Nat
import Mathlib.Data.List.Count
import Mathlib.Logic.Function.Iterate
import KernelSprint.Lib.Machine

/-!
# Threads that update one value under a lock

Every thread takes the lock, reads the value, writes back what `update` makes
of it and gives the lock up, each in a step of its own.  The threads may come
and go while others run; the value is as if the updates had been made one
after the other.
-/

set_option autoImplicit false

namespace Mutex

open Labelled

universe u

inductive Phase (Value : Type u) where
  | outside
  | entered
  | loaded (seen : Value)
  | stored
  | left
  deriving DecidableEq, Repr

variable {Value : Type u}

/-- Between the lock and the unlock. -/
def Phase.inside : Phase Value → Bool
  | .entered | .loaded _ | .stored => true
  | .outside | .left => false

/-- The update has been written back. -/
def Phase.applied : Phase Value → Bool
  | .stored | .left => true
  | .outside | .entered | .loaded _ => false

/-- The steps that the thread has still to take. -/
def Phase.remaining : Phase Value → Nat
  | .outside => 4
  | .entered => 3
  | .loaded _ => 2
  | .stored => 1
  | .left => 0

structure Guarded (Value : Type u) where
  holder : Option Nat
  value : Value
  threads : List (Phase Value)
  deriving DecidableEq, Repr

namespace Guarded

def advance (update : Value → Value) (guarded : Guarded Value) (index : Nat) :
    Option (Guarded Value) :=
  match guarded.threads[index]? with
  | some .outside =>
      if guarded.holder = none then
        some { guarded with
          holder := some index
          threads := guarded.threads.set index .entered }
      else none
  | some .entered =>
      some { guarded with threads := guarded.threads.set index (.loaded guarded.value) }
  | some (.loaded seen) =>
      some { guarded with
        value := update seen
        threads := guarded.threads.set index .stored }
  | some .stored =>
      some { guarded with holder := none, threads := guarded.threads.set index .left }
  | some .left => none
  | none => none

def spawn (guarded : Guarded Value) : Guarded Value :=
  { guarded with threads := guarded.threads ++ [.outside] }

/-- The value written from outside, without the lock. -/
def reset (value : Value) (guarded : Guarded Value) : Guarded Value :=
  { guarded with value := value }

variable (update : Value → Value) (guarded next : Guarded Value)

/-- Everything one step of a thread can do. -/
theorem advance_cases (index : Nat)
    (stepped : guarded.advance update index = some next) :
    (guarded.threads[index]? = some .outside ∧ guarded.holder = none ∧
        next = { guarded with
          holder := some index
          threads := guarded.threads.set index .entered }) ∨
      (guarded.threads[index]? = some .entered ∧
        next = { guarded with
          threads := guarded.threads.set index (.loaded guarded.value) }) ∨
      (∃ seen, guarded.threads[index]? = some (.loaded seen) ∧
        next = { guarded with
          value := update seen
          threads := guarded.threads.set index .stored }) ∨
      (guarded.threads[index]? = some .stored ∧
        next = { guarded with
          holder := none
          threads := guarded.threads.set index .left }) := by
  unfold advance at stepped
  split at stepped
  · rename_i found
    split at stepped
    · rename_i free
      exact Or.inl ⟨found, free, (Option.some.inj stepped).symm⟩
    · cases stepped
  · rename_i found
    exact Or.inr (Or.inl ⟨found, (Option.some.inj stepped).symm⟩)
  · rename_i seen found
    exact Or.inr (Or.inr (Or.inl ⟨seen, found, (Option.some.inj stepped).symm⟩))
  · rename_i found
    exact Or.inr (Or.inr (Or.inr ⟨found, (Option.some.inj stepped).symm⟩))
  · cases stepped
  · cases stepped

/-- A step moves one thread from one phase to the next. -/
theorem advance_moves (index : Nat) (stepped : guarded.advance update index = some next) :
    ∃ before after, guarded.threads[index]? = some before ∧
      next.threads = guarded.threads.set index after ∧
      before.remaining = after.remaining + 1 := by
  rcases advance_cases update guarded next index stepped with
    ⟨found, _, rfl⟩ | ⟨found, rfl⟩ | ⟨seen, found, rfl⟩ | ⟨found, rfl⟩
  · exact ⟨_, _, found, rfl, rfl⟩
  · exact ⟨_, _, found, rfl, rfl⟩
  · exact ⟨_, _, found, rfl, rfl⟩
  · exact ⟨_, _, found, rfl, rfl⟩

theorem length_advance (index : Nat) (stepped : guarded.advance update index = some next) :
    next.threads.length = guarded.threads.length := by
  obtain ⟨_, after, _, threads, _⟩ := advance_moves update guarded next index stepped
  rw [threads, List.length_set]

/-- A thread that has left stays as it is. -/
theorem left_advance (index other : Nat) (stepped : guarded.advance update index = some next)
    (gone : guarded.threads[other]? = some .left) : next.threads[other]? = some .left := by
  obtain ⟨before, after, found, threads, drops⟩ :=
    advance_moves update guarded next index stepped
  have apart : index ≠ other := by
    intro same
    subst same
    cases Option.some.inj (found.symm.trans gone)
    simp only [Phase.remaining] at drops
    omega
  rw [threads, List.getElem?_set_ne apart, gone]

/-! ## Mutual exclusion -/

structure Exclusive : Prop where
  inside : ∀ index phase, guarded.threads[index]? = some phase →
    (phase.inside = true ↔ guarded.holder = some index)
  holds : ∀ index, guarded.holder = some index → index < guarded.threads.length

variable {guarded}

theorem Exclusive.unique (exclusive : guarded.Exclusive) (first second : Nat)
    (one other : Phase Value) (firstFound : guarded.threads[first]? = some one)
    (secondFound : guarded.threads[second]? = some other)
    (firstInside : one.inside = true) (secondInside : other.inside = true) :
    first = second := by
  have left := (exclusive.inside first one firstFound).mp firstInside
  have right := (exclusive.inside second other secondFound).mp secondInside
  exact Option.some.inj (left.symm.trans right)

/-- The holder goes on inside. -/
theorem Exclusive.moves (exclusive : guarded.Exclusive) (index : Nat)
    (before after : Phase Value) (value : Value)
    (found : guarded.threads[index]? = some before) (same : after.inside = before.inside) :
    (Guarded.mk guarded.holder value (guarded.threads.set index after)).Exclusive := by
  refine ⟨fun other phase hit => ?_, fun other held => ?_⟩
  · rw [List.getElem?_set] at hit
    by_cases here : index = other
    · subst here
      simp only [↓reduceIte, (List.getElem?_eq_some_iff.mp found).1, Option.some.injEq] at hit
      rw [← hit, same]
      exact exclusive.inside index before found
    · rw [if_neg here] at hit
      exact exclusive.inside other phase hit
  · simpa using exclusive.holds other held

theorem Exclusive.advance (exclusive : guarded.Exclusive) (index : Nat)
    (stepped : guarded.advance update index = some next) : next.Exclusive := by
  have within : ∀ phase, guarded.threads[index]? = some phase →
      index < guarded.threads.length :=
    fun _ found => (List.getElem?_eq_some_iff.mp found).1
  rcases advance_cases update guarded next index stepped with
    ⟨found, free, rfl⟩ | ⟨found, rfl⟩ | ⟨seen, found, rfl⟩ | ⟨found, rfl⟩
  -- the lock is taken: nobody was inside
  · refine ⟨fun other phase hit => ?_, fun other held => ?_⟩
    · rw [List.getElem?_set] at hit
      by_cases same : index = other
      · subst same
        simp only [↓reduceIte, within _ found, Option.some.injEq] at hit
        subst hit
        simp [Phase.inside]
      · rw [if_neg same] at hit
        have before := exclusive.inside other phase hit
        rw [free] at before
        simp only [Option.some.injEq, same, iff_false]
        simpa using before
    · cases Option.some.inj held
      simpa using within _ found
  · exact exclusive.moves index _ _ guarded.value found rfl
  · exact exclusive.moves index _ _ (update seen) found rfl
  -- the lock is given up: the holder was the only one inside
  · have mine : guarded.holder = some index := (exclusive.inside index _ found).mp rfl
    refine ⟨fun other phase hit => ?_, fun other held => (nomatch held)⟩
    rw [List.getElem?_set] at hit
    by_cases same : index = other
    · subst same
      simp only [↓reduceIte, within _ found, Option.some.injEq] at hit
      subst hit
      simp [Phase.inside]
    · rw [if_neg same] at hit
      have before := exclusive.inside other phase hit
      rw [mine] at before
      simpa [same] using before

theorem Exclusive.spawn (exclusive : guarded.Exclusive) : guarded.spawn.Exclusive := by
  refine ⟨fun other phase hit => ?_, fun other held => ?_⟩
  · rcases Nat.lt_or_ge other guarded.threads.length with old | new
    · rw [Guarded.spawn, List.getElem?_append_left old] at hit
      exact exclusive.inside other phase hit
    · rw [Guarded.spawn, List.getElem?_append_right new] at hit
      have outside : phase = .outside := List.mem_singleton.mp (List.mem_of_getElem? hit)
      subst outside
      refine ⟨fun wrong => (nomatch wrong), fun held => ?_⟩
      exact absurd (exclusive.holds other held) (Nat.not_lt.mpr new)
  · exact Nat.lt_of_lt_of_le (exclusive.holds other held) (by simp [Guarded.spawn])

theorem Exclusive.reset (exclusive : guarded.Exclusive) (value : Value) :
    (guarded.reset value).Exclusive :=
  ⟨exclusive.inside, exclusive.holds⟩

theorem exclusive_start (value : Value) : (Guarded.mk none value []).Exclusive :=
  ⟨fun _ _ found => (nomatch found), fun _ held => (nomatch held)⟩

/-! ## No deadlock -/

/-- While some thread has not left, some thread can step. -/
theorem Exclusive.can_advance (exclusive : guarded.Exclusive) (index : Nat)
    (phase : Phase Value) (found : guarded.threads[index]? = some phase)
    (stays : phase ≠ .left) : ∃ other next, guarded.advance update other = some next := by
  cases held : guarded.holder with
  | some holder =>
      have within := exclusive.holds holder held
      obtain ⟨at_, hit⟩ : ∃ at_, guarded.threads[holder]? = some at_ :=
        ⟨_, List.getElem?_eq_getElem within⟩
      have inside := (exclusive.inside holder at_ hit).mpr held
      refine ⟨holder, ?_⟩
      cases at_ with
      | outside => cases inside
      | entered => exact ⟨_, by rw [Guarded.advance, hit]⟩
      | loaded seen => exact ⟨_, by rw [Guarded.advance, hit]⟩
      | stored => exact ⟨_, by rw [Guarded.advance, hit]⟩
      | left => cases inside
  | none =>
      have outside : phase.inside ≠ true := fun inside => by
        have := (exclusive.inside index phase found).mp inside
        rw [held] at this
        cases this
      refine ⟨index, ?_⟩
      cases phase with
      | outside => exact ⟨_, by rw [Guarded.advance, found]; exact if_pos held⟩
      | entered => exact absurd rfl outside
      | loaded seen => exact absurd rfl outside
      | stored => exact absurd rfl outside
      | left => exact absurd rfl stays

/-! ## Nothing is lost -/

theorem sum_set {α : Type u} (weight : α → Nat) (xs : List α) (index : Nat) (old new : α)
    (found : xs[index]? = some old) :
    ((xs.set index new).map weight).sum + weight old = (xs.map weight).sum + weight new := by
  induction xs generalizing index with
  | nil => cases found
  | cons x rest ih =>
      cases index with
      | zero =>
          cases Option.some.inj found
          simp only [List.set_cons_zero, List.map_cons, List.sum_cons]
          omega
      | succ index =>
          have later := ih index (by simpa using found)
          simp only [List.set_cons_succ, List.map_cons, List.sum_cons]
          omega

/-- The steps that the threads have still to take. -/
def remaining (guarded : Guarded Value) : Nat := (guarded.threads.map Phase.remaining).sum

theorem remaining_advance (index : Nat) (stepped : guarded.advance update index = some next) :
    next.remaining + 1 = guarded.remaining := by
  obtain ⟨before, after, found, threads, drops⟩ :=
    advance_moves update guarded next index stepped
  have moved := sum_set Phase.remaining guarded.threads index before after found
  simp only [remaining, threads]
  omega

theorem remaining_spawn : guarded.spawn.remaining = guarded.remaining + 4 := by
  simp [remaining, spawn, Phase.remaining]

/-- The threads from `first` on that have written their update back. -/
def updates (guarded : Guarded Value) (first : Nat) : Nat :=
  (guarded.threads.drop first).countP Phase.applied

/-- The value is what the updates of the threads from `first` on make of
`origin`; the threads before them have left. -/
structure Intact (first : Nat) (origin : Value) (guarded : Guarded Value) : Prop where
  started : first ≤ guarded.threads.length
  earlier : ∀ index : Nat, index < first → guarded.threads[index]? = some .left
  value : guarded.value = update^[guarded.updates first] origin
  seen : ∀ (index : Nat) (seen : Value), guarded.threads[index]? = some (.loaded seen) → seen = guarded.value

theorem countP_set {α : Type u} (holds : α → Bool) (xs : List α) (index : Nat) (old new : α)
    (found : xs[index]? = some old) :
    (xs.set index new).countP holds + (if holds old then 1 else 0) =
      xs.countP holds + (if holds new then 1 else 0) := by
  induction xs generalizing index with
  | nil => cases found
  | cons x rest ih =>
      cases index with
      | zero =>
          cases Option.some.inj found
          simp only [List.set_cons_zero, List.countP_cons]
          omega
      | succ index =>
          have later := ih index (by simpa using found)
          simp only [List.set_cons_succ, List.countP_cons]
          omega

/-- The number of updates after one thread has moved. -/
theorem updates_set (guarded : Guarded Value) (first index : Nat) (before after : Phase Value)
    (after' : Value)
    (holder : Option Nat) (late : first ≤ index)
    (found : guarded.threads[index]? = some before) :
    (Guarded.mk holder after' (guarded.threads.set index after)).updates first +
        (if before.applied then 1 else 0) =
      guarded.updates first + (if after.applied then 1 else 0) := by
  have hit : (guarded.threads.drop first)[index - first]? = some before := by
    rw [List.getElem?_drop, Nat.add_sub_cancel' late, found]
  simp only [updates, List.drop_set, if_neg (Nat.not_lt.mpr late)]
  exact countP_set Phase.applied (guarded.threads.drop first) (index - first) before after hit

variable {first : Nat} {origin : Value}

theorem Intact.advance (intact : guarded.Intact update first origin)
    (exclusive : guarded.Exclusive) (index : Nat)
    (stepped : guarded.advance update index = some next) : next.Intact update first origin := by
  have earlier : ∀ other, other < first → next.threads[other]? = some .left :=
    fun other before =>
      left_advance update guarded next index other stepped (intact.earlier other before)
  have started : first ≤ next.threads.length := by
    rw [length_advance update guarded next index stepped]
    exact intact.started
  have late : ∀ phase, guarded.threads[index]? = some phase → phase ≠ .left → first ≤ index := by
    intro phase found stays
    by_contra before
    exact stays (Option.some.inj
      (found.symm.trans (intact.earlier index (Nat.lt_of_not_le before))))
  rcases advance_cases update guarded next index stepped with
    ⟨found, free, rfl⟩ | ⟨found, rfl⟩ | ⟨seen, found, rfl⟩ | ⟨found, rfl⟩
  · have counted := updates_set guarded first index _ .entered guarded.value
      (some index) (late _ found (by simp)) found
    simp only [Phase.applied, Bool.false_eq_true, if_false, Nat.add_zero] at counted
    refine ⟨started, earlier, ?_, fun other seen hit => ?_⟩
    · rw [counted]
      exact intact.value
    · rw [List.getElem?_set] at hit
      split at hit
      · simp at hit
      · exact intact.seen other seen hit
  · have counted := updates_set guarded first index _ (.loaded guarded.value)
      guarded.value guarded.holder (late _ found (by simp)) found
    simp only [Phase.applied, Bool.false_eq_true, if_false, Nat.add_zero] at counted
    refine ⟨started, earlier, ?_, fun other seen hit => ?_⟩
    · rw [counted]
      exact intact.value
    · rw [List.getElem?_set] at hit
      split at hit
      · split at hit
        · exact (Phase.loaded.inj (Option.some.inj hit)).symm
        · cases hit
      · exact intact.seen other seen hit
  -- only the holder has read the value, so what it read is still the value
  · have counted := updates_set guarded first index _ .stored (update seen)
      guarded.holder (late _ found (by simp)) found
    simp only [Phase.applied, Bool.false_eq_true, if_false, if_true, Nat.add_zero] at counted
    refine ⟨started, earlier, ?_, fun other seen' hit => ?_⟩
    · rw [counted, Function.iterate_succ_apply', ← intact.value]
      exact congrArg update (intact.seen index seen found)
    · rw [List.getElem?_set] at hit
      split at hit
      · simp at hit
      · rename_i apart
        exact absurd (exclusive.unique index other _ _ found hit rfl rfl) apart
  · have counted := updates_set guarded first index _ .left guarded.value none
      (late _ found (by simp)) found
    simp only [Phase.applied, if_true, Nat.add_right_cancel_iff] at counted
    refine ⟨started, earlier, ?_, fun other seen hit => ?_⟩
    · rw [counted]
      exact intact.value
    · rw [List.getElem?_set] at hit
      split at hit
      · simp at hit
      · exact intact.seen other seen hit

theorem Intact.spawn (intact : guarded.Intact update first origin) :
    guarded.spawn.Intact update first origin := by
  have within : ∀ index, index < first → index < guarded.threads.length :=
    fun index before => Nat.lt_of_lt_of_le before intact.started
  refine ⟨?_, fun index before => ?_, ?_, fun index seen hit => ?_⟩
  · simp only [Guarded.spawn, List.length_append]
    exact Nat.le_add_right_of_le intact.started
  · rw [Guarded.spawn, List.getElem?_append_left (within index before)]
    exact intact.earlier index before
  · simp only [Guarded.spawn, updates, List.drop_append_of_le_length intact.started,
      List.countP_append]
    exact intact.value
  · rcases Nat.lt_or_ge index guarded.threads.length with old | new
    · rw [Guarded.spawn, List.getElem?_append_left old] at hit
      exact intact.seen index seen hit
    · rw [Guarded.spawn, List.getElem?_append_right new] at hit
      cases List.mem_singleton.mp (List.mem_of_getElem? hit)

/-- Every thread has left. -/
def Finished (guarded : Guarded Value) : Prop :=
  ∀ (index : Nat) (phase : Phase Value), guarded.threads[index]? = some phase → phase = .left

theorem Finished.not_advance (gone : guarded.Finished) (index : Nat) :
    guarded.advance update index = none := by
  cases stepped : guarded.advance update index with
  | none => rfl
  | some next =>
      obtain ⟨before, after, found, _, drops⟩ :=
        advance_moves update guarded next index stepped
      rw [gone index before found] at drops
      simp only [Phase.remaining] at drops
      omega

/-- With all threads gone, a reset begins a count of its own. -/
theorem intact_reset (value : Value)
    (gone : guarded.Finished) :
    (guarded.reset value).Intact update guarded.threads.length value := by
  refine ⟨Nat.le_refl _, fun index before => ?_, ?_, fun index seen hit => ?_⟩
  · have hit := List.getElem?_eq_getElem before
    exact hit.trans (congrArg some (gone index _ hit))
  · simp [updates, reset]
  · cases gone index _ hit

/-- Once all threads have left, every one of them has updated the value once. -/
theorem Intact.value_of_left (intact : guarded.Intact update first origin)
    (gone : guarded.Finished) :
    guarded.value = update^[guarded.threads.length - first] origin := by
  have all : guarded.updates first = (guarded.threads.drop first).length := by
    refine List.countP_eq_length.mpr fun phase member => ?_
    obtain ⟨index, hit⟩ := List.mem_iff_getElem?.mp (List.mem_of_mem_drop member)
    rw [gone index phase hit]
    rfl
  rw [intact.value, all, List.length_drop]

end Guarded

end Mutex

import Mathlib.Algebra.Order.Ring.Nat
import Mathlib.Data.List.Induction

/-!
# Labelled machines

A machine takes at most one step for each label, so a list of labels fixes a
run.  The rules below turn facts about one step into facts about whole runs;
`Along` carries a condition on the steps of a run.
-/

set_option autoImplicit false

namespace Labelled

universe u v w

structure Machine (State : Type u) (Label : Type v) where
  step : State → Label → Option State

variable {State : Type u} {Label : Type v}

def Machine.exec (machine : Machine State Label) :
    List Label → State → Option State
  | [], state => some state
  | label :: rest, state =>
      (machine.step state label).bind (machine.exec rest)

/-- Every step that the run takes satisfies `holds`. -/
def Machine.Along (machine : Machine State Label)
    (holds : State → Label → State → Prop) : List Label → State → Prop
  | [], _ => True
  | label :: rest, state =>
      ∀ next, machine.step state label = some next →
        holds state label next ∧ machine.Along holds rest next

/-- Every state of the run satisfies `holds`, the first one included. -/
def Machine.Throughout (machine : Machine State Label) (holds : State → Prop) :
    List Label → State → Prop
  | [], state => holds state
  | label :: rest, state =>
      holds state ∧
        ∀ next, machine.step state label = some next → machine.Throughout holds rest next

/-- From each marked step on, every later state stands in the relation `keeps`
to the one that the step led to. -/
def Machine.Henceforth (machine : Machine State Label)
    (marks : State → Label → State → Prop) (keeps : State → State → Prop) :
    List Label → State → Prop
  | [], _ => True
  | label :: rest, state =>
      ∀ next, machine.step state label = some next →
        (marks state label next → machine.Throughout (keeps next) rest next) ∧
          machine.Henceforth marks keeps rest next

namespace Machine

variable (machine : Machine State Label)

instance decidableAlong (holds : State → Label → State → Prop)
    [∀ state label next, Decidable (holds state label next)] :
    (labels : List Label) → (state : State) → Decidable (machine.Along holds labels state)
  | [], _ => isTrue trivial
  | label :: rest, state =>
      match stepped : machine.step state label with
      | none => isTrue fun _ h => by rw [stepped] at h; cases h
      | some next =>
          have := decidableAlong holds rest next
          decidable_of_iff (holds state label next ∧ machine.Along holds rest next) <| by
            simp only [Along, stepped, Option.some.injEq, forall_eq']

theorem exec_cons (label : Label) (rest : List Label) (state final : State) :
    machine.exec (label :: rest) state = some final ↔
      ∃ next, machine.step state label = some next ∧
        machine.exec rest next = some final := by
  simp only [exec, Option.bind_eq_some_iff]

theorem exec_append (first second : List Label) (state : State) :
    machine.exec (first ++ second) state =
      (machine.exec first state).bind (machine.exec second) := by
  induction first generalizing state with
  | nil => rfl
  | cons label rest ih =>
      simp only [List.cons_append, exec, Option.bind_assoc]
      congr 1
      funext next
      exact ih next

/-! ## Invariants -/

/-- A run from outside to inside takes a step that enters. -/
theorem exists_entering (inside : State → Prop) (labels : List Label) (start final : State)
    (outside : ¬ inside start) (entered : inside final)
    (run : machine.exec labels start = some final) :
    ∃ before label after state next, labels = before ++ label :: after ∧
      machine.exec before start = some state ∧ ¬ inside state ∧
      machine.step state label = some next ∧ inside next ∧
      machine.exec after next = some final := by
  induction labels generalizing start with
  | nil =>
      cases Option.some.inj run
      exact absurd entered outside
  | cons label rest ih =>
      obtain ⟨next, stepped, later⟩ := (machine.exec_cons ..).mp run
      by_cases here : inside next
      · exact ⟨[], label, rest, start, next, rfl, rfl, outside, stepped, here, later⟩
      · obtain ⟨before, entry, after, state, first, split, reached, still, moved, now, ends⟩ :=
          ih next here later
        exact ⟨label :: before, entry, after, state, first, congrArg (label :: ·) split,
          (machine.exec_cons ..).mpr ⟨next, stepped, reached⟩, still, moved, now, ends⟩

/-- An invariant that steps meeting `cond` preserve holds at the end of every
run whose steps all meet it. -/
theorem invariant_of_along (inv : State → Prop)
    (cond : State → Label → State → Prop)
    (preserved : ∀ state label next, inv state → cond state label next →
      machine.step state label = some next → inv next)
    (labels : List Label) (start final : State) (initially : inv start)
    (along : machine.Along cond labels start)
    (run : machine.exec labels start = some final) : inv final := by
  induction labels generalizing start with
  | nil =>
      cases Option.some.inj run
      exact initially
  | cons label rest ih =>
      obtain ⟨next, stepped, restRun⟩ := (machine.exec_cons ..).mp run
      obtain ⟨met, restAlong⟩ := along next stepped
      exact ih next (preserved start label next initially met stepped)
        restAlong restRun

theorem along_trivial (labels : List Label) (start : State) :
    machine.Along (fun _ _ _ => True) labels start := by
  induction labels generalizing start with
  | nil => trivial
  | cons label rest ih =>
      intro next _
      exact ⟨trivial, ih next⟩

theorem along_of_labels (holds : Label → Prop) (labels : List Label) (start : State)
    (all : ∀ label ∈ labels, holds label) :
    machine.Along (fun _ label _ => holds label) labels start := by
  induction labels generalizing start with
  | nil => trivial
  | cons label rest ih =>
      obtain ⟨here, later⟩ := List.forall_mem_cons.mp all
      intro next _
      exact ⟨here, ih next later⟩

theorem invariant_of_exec (inv : State → Prop)
    (preserved : ∀ state label next, inv state →
      machine.step state label = some next → inv next)
    (labels : List Label) (start final : State) (initially : inv start)
    (run : machine.exec labels start = some final) : inv final :=
  machine.invariant_of_along inv (fun _ _ _ => True)
    (fun state label next holds _ stepped => preserved state label next holds stepped)
    labels start final initially (machine.along_trivial labels start) run

/-- Along a run, one step condition yields another through an invariant. -/
theorem along_of_along (inv : State → Prop)
    (cond holds : State → Label → State → Prop)
    (preserved : ∀ state label next, inv state → cond state label next →
      machine.step state label = some next → inv next ∧ holds state label next)
    (labels : List Label) (start : State) (initially : inv start)
    (along : machine.Along cond labels start) :
    machine.Along holds labels start := by
  induction labels generalizing start with
  | nil => trivial
  | cons label rest ih =>
      intro next stepped
      obtain ⟨met, restAlong⟩ := along next stepped
      obtain ⟨kept, holdsHere⟩ := preserved start label next initially met stepped
      exact ⟨holdsHere, ih next kept restAlong⟩

/-- Step conditions that agree in every state of an invariant hold along the
same runs. -/
theorem along_iff_of_invariant (inv : State → Prop)
    (first second : State → Label → State → Prop)
    (preserved : ∀ state label next, inv state →
      machine.step state label = some next → inv next)
    (agree : ∀ state label next, inv state → machine.step state label = some next →
      (first state label next ↔ second state label next))
    (labels : List Label) (start : State) (initially : inv start) :
    machine.Along first labels start ↔ machine.Along second labels start := by
  constructor
  · refine machine.along_of_along inv first second ?_ labels start initially
    intro state label next holds met stepped
    exact ⟨preserved state label next holds stepped,
      (agree state label next holds stepped).mp met⟩
  · refine machine.along_of_along inv second first ?_ labels start initially
    intro state label next holds met stepped
    exact ⟨preserved state label next holds stepped,
      (agree state label next holds stepped).mpr met⟩

theorem along_and (first second : State → Label → State → Prop) (labels : List Label)
    (start : State) :
    machine.Along (fun state label next => first state label next ∧ second state label next)
        labels start ↔
      machine.Along first labels start ∧ machine.Along second labels start := by
  induction labels generalizing start with
  | nil => simp [Along]
  | cons label rest ih =>
      simp only [Along, ih]
      exact ⟨fun both => ⟨fun next stepped => ⟨(both next stepped).1.1, (both next stepped).2.1⟩,
          fun next stepped => ⟨(both next stepped).1.2, (both next stepped).2.2⟩⟩,
        fun both next stepped => ⟨⟨(both.1 next stepped).1, (both.2 next stepped).1⟩,
          (both.1 next stepped).2, (both.2 next stepped).2⟩⟩

theorem throughout_start (holds : State → Prop) (labels : List Label) (start : State)
    (throughout : machine.Throughout holds labels start) : holds start := by
  cases labels with
  | nil => exact throughout
  | cons label rest => exact throughout.1

theorem throughout_of_invariant (inv holds : State → Prop)
    (preserved : ∀ state label next, inv state →
      machine.step state label = some next → inv next)
    (implies : ∀ state, inv state → holds state)
    (labels : List Label) (start : State) (initially : inv start) :
    machine.Throughout holds labels start := by
  induction labels generalizing start with
  | nil => exact implies start initially
  | cons label rest ih =>
      exact ⟨implies start initially, fun next stepped =>
        ih next (preserved start label next initially stepped)⟩

/-- A marked step that establishes a stable fact keeps what the fact implies. -/
theorem henceforth_of_along (stable : State → State → Prop)
    (cond marks : State → Label → State → Prop) (keeps : State → State → Prop)
    (settles : ∀ state label next, cond state label next → marks state label next →
      machine.step state label = some next → stable next next)
    (preserved : ∀ anchor state label next, stable anchor state →
      machine.step state label = some next → stable anchor next)
    (implies : ∀ anchor state, stable anchor state → keeps anchor state)
    (labels : List Label) (start : State) (along : machine.Along cond labels start) :
    machine.Henceforth marks keeps labels start := by
  induction labels generalizing start with
  | nil => trivial
  | cons label rest ih =>
      intro next stepped
      obtain ⟨met, restAlong⟩ := along next stepped
      refine ⟨fun marked => ?_, ih next restAlong⟩
      exact machine.throughout_of_invariant (stable next) (keeps next) (preserved next)
        (implies next) rest next (settles start label next met marked stepped)

/-! ## Histories -/

/-- A step of a run meets what all of them meet. -/
theorem along_at (holds : State → Label → State → Prop) (earlier : List Label) (label : Label)
    (later : List Label) (start state next : State)
    (along : machine.Along holds (earlier ++ label :: later) start)
    (reached : machine.exec earlier start = some state)
    (stepped : machine.step state label = some next) : holds state label next := by
  induction earlier generalizing start with
  | nil =>
      cases Option.some.inj reached
      exact (along next stepped).1
  | cons first rest ih =>
      obtain ⟨middle, taken, reached⟩ := (machine.exec_cons ..).mp reached
      exact ih middle (along middle taken).2 reached

theorem along_of_at (holds : State → Label → State → Prop) (labels : List Label) (start : State)
    (all : ∀ earlier label later state next, labels = earlier ++ label :: later →
      machine.exec earlier start = some state → machine.step state label = some next →
        holds state label next) : machine.Along holds labels start := by
  induction labels generalizing start with
  | nil => trivial
  | cons label rest ih =>
      intro next stepped
      refine ⟨all [] label rest start next rfl rfl stepped, ih next ?_⟩
      intro earlier other later state final split reached taken
      refine all (label :: earlier) other later state final (congrArg (label :: ·) split) ?_ taken
      exact (machine.exec_cons ..).mpr ⟨next, stepped, reached⟩

/-- What holds along a run that takes one step more. -/
theorem along_concat_iff (holds : State → Label → State → Prop) (labels : List Label)
    (label : Label) (start state next : State) (run : machine.exec labels start = some state)
    (stepped : machine.step state label = some next) :
    machine.Along holds (labels ++ [label]) start ↔
      machine.Along holds labels start ∧ holds state label next := by
  induction labels generalizing start with
  | nil =>
      cases Option.some.inj run
      simp only [List.nil_append, Along, stepped, Option.some.injEq, forall_eq', and_true,
        true_and]
  | cons first rest ih =>
      obtain ⟨middle, taken, reached⟩ := (machine.exec_cons ..).mp run
      simp only [List.cons_append, Along, taken, Option.some.injEq, forall_eq', ih middle reached,
        and_assoc]

/-- A fact about the steps taken so far and the state they lead to is proved
one step after the other. -/
theorem history (holds : List Label → State → Prop) (start : State) (initially : holds [] start)
    (preserved : ∀ labels state label next, machine.exec labels start = some state →
      holds labels state → machine.step state label = some next →
        holds (labels ++ [label]) next)
    (labels : List Label) (final : State) (run : machine.exec labels start = some final) :
    holds labels final := by
  induction labels using List.reverseRecOn generalizing final with
  | nil =>
      cases Option.some.inj run
      exact initially
  | append_singleton earlier label ih =>
      rw [machine.exec_append] at run
      obtain ⟨state, reached, stepped⟩ := Option.bind_eq_some_iff.mp run
      obtain ⟨next, taken, rest⟩ := (machine.exec_cons ..).mp stepped
      cases Option.some.inj rest
      exact preserved earlier state label final reached (ih state reached) taken

/-- What every step from a reachable state does holds along every run. -/
theorem along_of_reachable (holds : State → Label → State → Prop) (start : State)
    (all : ∀ labels state label next, machine.exec labels start = some state →
      machine.step state label = some next → holds state label next)
    (labels : List Label) : machine.Along holds labels start := by
  refine machine.along_of_along (fun state => ∃ earlier, machine.exec earlier start = some state)
    (fun _ _ _ => True) holds ?_ labels start ⟨[], rfl⟩ (machine.along_trivial labels start)
  rintro state label next ⟨earlier, reached⟩ _ stepped
  refine ⟨⟨earlier ++ [label], ?_⟩, all earlier state label next reached stepped⟩
  rw [machine.exec_append, reached]
  exact (machine.exec_cons ..).mpr ⟨next, stepped, rfl⟩

theorem throughout_concat (holds : State → Prop) (labels : List Label) (label : Label)
    (start state next : State) (run : machine.exec labels start = some state)
    (throughout : machine.Throughout holds labels start)
    (stepped : machine.step state label = some next) (atNext : holds next) :
    machine.Throughout holds (labels ++ [label]) start := by
  induction labels generalizing start with
  | nil =>
      cases Option.some.inj run
      refine ⟨throughout, fun next' stepped' => ?_⟩
      cases Option.some.inj (stepped.symm.trans stepped')
      exact atNext
  | cons first rest ih =>
      obtain ⟨middle, taken, restRun⟩ := (machine.exec_cons ..).mp run
      refine ⟨throughout.1, fun middle' taken' => ?_⟩
      cases Option.some.inj (taken.symm.trans taken')
      exact ih middle restRun (throughout.2 middle taken)

theorem throughout_final (holds : State → Prop) (labels : List Label) (start final : State)
    (run : machine.exec labels start = some final)
    (throughout : machine.Throughout holds labels start) : holds final := by
  induction labels generalizing start with
  | nil =>
      cases Option.some.inj run
      exact throughout
  | cons label rest ih =>
      obtain ⟨next, stepped, restRun⟩ := (machine.exec_cons ..).mp run
      exact ih next restRun (throughout.2 next stepped)

/-- Where a property of a state is a condition on the steps that led there,
and fewer steps meet it as well, the whole run is judged by its labels. -/
theorem throughout_iff_of_history (holds : State → Prop) (cond : List Label → Prop)
    (start : State)
    (agree : ∀ labels state, machine.exec labels start = some state →
      (holds state ↔ cond labels))
    (fewer : ∀ earlier label, cond (earlier ++ [label]) → cond earlier)
    (labels : List Label) (final : State) (run : machine.exec labels start = some final) :
    machine.Throughout holds labels start ↔ cond labels := by
  constructor
  · intro throughout
    exact (agree labels final run).mp
      (machine.throughout_final holds labels start final run throughout)
  · refine machine.history (fun labels _ => cond labels → machine.Throughout holds labels start)
      start (agree [] start rfl).mpr ?_ labels final run
    intro earlier state label next reached before stepped met
    have whole : machine.exec (earlier ++ [label]) start = some next := by
      rw [machine.exec_append, reached]
      exact (machine.exec_cons ..).mpr ⟨next, stepped, rfl⟩
    exact machine.throughout_concat holds earlier label start state next reached
      (before (fewer earlier label met)) stepped ((agree _ next whole).mpr met)

/-! ## Fewer labels -/

/-- The machine that takes the allowed labels only. -/
def restrict (allowed : Label → Bool) : Machine State Label where
  step state label := if allowed label then machine.step state label else none

theorem step_restrict (allowed : Label → Bool) (state next : State) (label : Label)
    (stepped : (machine.restrict allowed).step state label = some next) :
    allowed label = true ∧ machine.step state label = some next := by
  by_cases fits : allowed label = true
  · exact ⟨fits, by simpa only [restrict, fits, if_true] using stepped⟩
  · simp only [restrict, fits, Bool.false_eq_true, if_false, reduceCtorEq] at stepped

theorem exec_restrict (allowed : Label → Bool) (labels : List Label) (state : State)
    (all : ∀ label ∈ labels, allowed label = true) :
    (machine.restrict allowed).exec labels state = machine.exec labels state := by
  induction labels generalizing state with
  | nil => rfl
  | cons label rest ih =>
      rw [List.forall_mem_cons] at all
      simp only [exec, restrict, all.1, if_true]
      congr 1
      funext next
      exact ih next all.2

/-! ## Termination -/

section Termination

variable (inv : State → Prop) (measure : State → Nat)

/-- A measure that every step lowers bounds the length of the runs. -/
theorem length_of_measure
    (lowered : ∀ state label next, inv state → machine.step state label = some next →
      inv next ∧ measure next < measure state)
    (labels : List Label) (start final : State) (initially : inv start)
    (run : machine.exec labels start = some final) :
    labels.length + measure final ≤ measure start := by
  induction labels generalizing start with
  | nil =>
      cases Option.some.inj run
      exact Nat.le_of_eq (Nat.zero_add _)
  | cons label rest ih =>
      obtain ⟨next, stepped, restRun⟩ := (machine.exec_cons ..).mp run
      obtain ⟨kept, less⟩ := lowered start label next initially stepped
      have later := ih next kept restRun
      rw [List.length_cons]
      omega

/-- Going on as long as possible leads to where no such label goes on. -/
theorem reaches_stuck (allowed : Label → Prop)
    (lowered : ∀ state label next, inv state → machine.step state label = some next →
      inv next ∧ measure next < measure state)
    (start : State) (initially : inv start) :
    ∃ labels final, (∀ label ∈ labels, allowed label) ∧
      machine.exec labels start = some final ∧
      ∀ label, allowed label → machine.step final label = none := by
  induction bound : measure start using Nat.strongRecOn generalizing start with
  | ind bound ih =>
    by_cases stuck : ∀ label, allowed label → machine.step start label = none
    · exact ⟨[], start, List.forall_mem_nil _, rfl, stuck⟩
    · simp only [not_forall] at stuck
      obtain ⟨label, fits, moves⟩ := stuck
      obtain ⟨next, stepped⟩ := Option.ne_none_iff_exists'.mp moves
      obtain ⟨kept, less⟩ := lowered start label next initially stepped
      obtain ⟨labels, final, all, run, stuck⟩ := ih (measure next) (bound ▸ less) next kept rfl
      exact ⟨label :: labels, final, List.forall_mem_cons.mpr ⟨fits, all⟩,
        (machine.exec_cons ..).mpr ⟨next, stepped, run⟩, stuck⟩

/-- Where every state that is not done has an allowed step that lowers a
measure, a run of such steps leads to one that is. -/
theorem reaches (done : State → Prop) (allowed : Label → Prop)
    (moves : ∀ state, inv state → ¬ done state →
      ∃ label next, allowed label ∧ machine.step state label = some next ∧ inv next ∧
        measure next < measure state)
    (start : State) (initially : inv start) :
    ∃ labels final, (∀ label ∈ labels, allowed label) ∧
      machine.exec labels start = some final ∧ done final := by
  induction bound : measure start using Nat.strongRecOn generalizing start with
  | ind bound ih =>
    by_cases finished : done start
    · exact ⟨[], start, List.forall_mem_nil _, rfl, finished⟩
    · obtain ⟨label, next, fits, stepped, kept, less⟩ := moves start initially finished
      obtain ⟨labels, final, all, run, finished⟩ :=
        ih (measure next) (bound ▸ less) next kept rfl
      exact ⟨label :: labels, final, List.forall_mem_cons.mpr ⟨fits, all⟩,
        (machine.exec_cons ..).mpr ⟨next, stepped, run⟩, finished⟩

end Termination

/-- A rank that the marked steps lower, and the others raise by no more than
their cost, bounds the number of the marked steps. -/
theorem marked_of_rank (rank : Nat → State → Prop) (marked : Label → Bool)
    (cost : Label → Nat)
    (bounded : ∀ bound state label next, rank bound state →
      machine.step state label = some next → ∃ less, rank less next ∧
        less + (if marked label then 1 else 0) ≤ bound + cost label)
    (labels : List Label) (bound : Nat) (start final : State) (initially : rank bound start)
    (run : machine.exec labels start = some final) :
    ∃ less, rank less final ∧ labels.countP marked + less ≤ bound + (labels.map cost).sum := by
  induction labels generalizing bound start with
  | nil =>
      cases Option.some.inj run
      exact ⟨bound, initially, by simp⟩
  | cons label rest ih =>
      obtain ⟨next, stepped, restRun⟩ := (machine.exec_cons ..).mp run
      obtain ⟨between, kept, here⟩ := bounded bound start label next initially stepped
      obtain ⟨less, atEnd, later⟩ := ih between next kept restRun
      refine ⟨less, atEnd, ?_⟩
      simp only [List.countP_cons, List.map_cons, List.sum_cons]
      omega


/-! ## Simulations -/

variable {State' : Type w}

/-- A step-by-step relation between two machines over the same labels carries
every run of the first to a run of the second. -/
theorem exec_simulation (target : Machine State' Label)
    (related : State → State' → Prop)
    (simulates : ∀ state state' label next, related state state' →
      machine.step state label = some next →
        ∃ next', target.step state' label = some next' ∧ related next next')
    (labels : List Label) (start final : State) (start' : State')
    (initially : related start start')
    (run : machine.exec labels start = some final) :
    ∃ final', target.exec labels start' = some final' ∧ related final final' := by
  induction labels generalizing start start' with
  | nil =>
      cases Option.some.inj run
      exact ⟨start', rfl, initially⟩
  | cons label rest ih =>
      obtain ⟨next, stepped, restRun⟩ := (machine.exec_cons ..).mp run
      obtain ⟨next', stepped', relatedNext⟩ :=
        simulates start start' label next initially stepped
      obtain ⟨final', run', relatedFinal⟩ := ih next next' relatedNext restRun
      exact ⟨final', (target.exec_cons ..).mpr ⟨next', stepped', run'⟩, relatedFinal⟩

/-- Conditions that agree on related states hold along the same runs. -/
theorem along_iff_of_simulation (target : Machine State' Label)
    (related : State → State' → Prop)
    (simulates : ∀ state state' label next, related state state' →
      machine.step state label = some next →
        ∃ next', target.step state' label = some next' ∧ related next next')
    (holds : State → Label → State → Prop) (holds' : State' → Label → State' → Prop)
    (agree : ∀ state state' label next next', related state state' →
      machine.step state label = some next → target.step state' label = some next' →
        (holds state label next ↔ holds' state' label next'))
    (labels : List Label) (start final : State) (start' : State')
    (initially : related start start')
    (run : machine.exec labels start = some final) :
    machine.Along holds labels start ↔ target.Along holds' labels start' := by
  induction labels generalizing start start' with
  | nil => rfl
  | cons label rest ih =>
      obtain ⟨next, stepped, restRun⟩ := (machine.exec_cons ..).mp run
      obtain ⟨next', stepped', relatedNext⟩ :=
        simulates start start' label next initially stepped
      have here := agree start start' label next next' initially stepped stepped'
      have later := ih next next' relatedNext restRun
      simp only [Along, stepped, stepped', Option.some.injEq, forall_eq', here, later]

end Machine

end Labelled

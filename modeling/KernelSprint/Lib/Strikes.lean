import Mathlib.Data.List.Induction

/-!
# Processes that are left running

A log of happenings, of which some start or end a process and some are fatal
to whoever looks after it.  `runs` says from one happening to the next whether
the process runs.
-/

set_option autoImplicit false

namespace Strikes

variable {H : Type} (runs : Bool → H → Bool) (fatal : H → Prop)

def runsAfter (log : List H) : Bool := log.foldl runs false

/-- Something fatal happens that leaves the client running. -/
def Struck (log : List H) : Prop :=
  ∃ before happening later, log = before ++ happening :: later ∧
    runs (runsAfter runs before) happening = true ∧ fatal happening

/-- No client runs, and none has been abandoned. -/
structure Idle (log : List H) : Prop where
  client : runsAfter runs log = false
  unstruck : ¬ Struck runs fatal log

structure Live (log : List H) : Prop where
  client : runsAfter runs log = true
  unstruck : ¬ Struck runs fatal log

/-- A client has been abandoned and runs on. -/
structure Lost (log : List H) : Prop where
  client : runsAfter runs log = true
  struck : Struck runs fatal log

def Settled (log : List H) : Prop := Idle runs fatal log ∨ Lost runs fatal log

theorem runsAfter_concat (log : List H) (happening : H) :
    runsAfter runs (log ++ [happening]) = runs (runsAfter runs log) happening := by
  simp only [runsAfter, List.foldl_append, List.foldl_cons, List.foldl_nil]

theorem struck_concat (log : List H) (happening : H) :
    Struck runs fatal (log ++ [happening]) ↔
      Struck runs fatal log ∨
        (runs (runsAfter runs log) happening = true ∧ fatal happening) := by
  constructor
  · intro struck
    obtain ⟨before, last, later, same, running, isFatal⟩ := struck
    rcases List.eq_nil_or_concat later with nothing | ⟨init, final, more⟩
    · subst nothing
      obtain ⟨sameLog, sameLast⟩ := List.append_inj' same rfl
      cases sameLast
      subst sameLog
      exact Or.inr ⟨running, isFatal⟩
    · subst more
      rw [List.concat_eq_append, ← List.cons_append, ← List.append_assoc] at same
      obtain ⟨sameLog, _⟩ := List.append_inj' same rfl
      exact Or.inl ⟨before, last, init, sameLog, running, isFatal⟩
  · intro cases
    rcases cases with struck | ⟨running, isFatal⟩
    · obtain ⟨before, last, later, same, running, isFatal⟩ := struck
      subst same
      exact ⟨before, last, later ++ [happening], by simp, running, isFatal⟩
    · exact ⟨log, happening, [], rfl, running, isFatal⟩

theorem idle_nil : Idle runs fatal [] := by
  refine ⟨rfl, ?_⟩
  intro struck
  obtain ⟨before, happening, later, same, _⟩ := struck
  cases before <;> cases same

variable {runs fatal} {log : List H} (happening : H)

theorem idle_concat (idle : Idle runs fatal log) (still : runs false happening = false) :
    Idle runs fatal (log ++ [happening]) := by
  constructor
  · rw [runsAfter_concat, idle.client]
    exact still
  · rw [struck_concat, idle.client, still]
    simp [idle.unstruck]

theorem live_of_idle (idle : Idle runs fatal log) (starts : runs false happening = true)
    (harmless : ¬ fatal happening) : Live runs fatal (log ++ [happening]) := by
  constructor
  · rw [runsAfter_concat, idle.client]
    exact starts
  · rw [struck_concat]
    simp [idle.unstruck, harmless]

theorem idle_of_live (live : Live runs fatal log) (ends : runs true happening = false) :
    Idle runs fatal (log ++ [happening]) := by
  constructor
  · rw [runsAfter_concat, live.client]
    exact ends
  · rw [struck_concat, live.client, ends]
    simp [live.unstruck]

theorem live_concat (live : Live runs fatal log) (still : runs true happening = true)
    (harmless : ¬ fatal happening) : Live runs fatal (log ++ [happening]) := by
  constructor
  · rw [runsAfter_concat, live.client]
    exact still
  · rw [struck_concat]
    simp [live.unstruck, harmless]

theorem lost_of_live (live : Live runs fatal log) (still : runs true happening = true)
    (isFatal : fatal happening) : Lost runs fatal (log ++ [happening]) := by
  constructor
  · rw [runsAfter_concat, live.client]
    exact still
  · rw [struck_concat, live.client]
    exact Or.inr ⟨still, isFatal⟩

theorem lost_concat (lost : Lost runs fatal log) (still : runs true happening = true) :
    Lost runs fatal (log ++ [happening]) := by
  constructor
  · rw [runsAfter_concat, lost.client]
    exact still
  · rw [struck_concat]
    exact Or.inl lost.struck

theorem settled_concat (settled : Settled runs fatal log)
    (still : ∀ running, runs running happening = running) :
    Settled runs fatal (log ++ [happening]) := by
  rcases settled with idle | lost
  · exact Or.inl (idle_concat happening idle (still false))
  · exact Or.inr (lost_concat happening lost (still true))

theorem runs_iff_of_settled (settled : Settled runs fatal log) :
    runsAfter runs log = true ↔ Struck runs fatal log := by
  rcases settled with idle | lost
  · simp [idle.client, idle.unstruck]
  · simp [lost.client, lost.struck]

end Strikes

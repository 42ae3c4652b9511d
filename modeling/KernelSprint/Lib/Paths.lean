import KernelSprint.Lib.Generator

/-!
# The paths of a generator

What a generator can come to, node by node, when its calls are answered in
any way and its consumer takes every event.
-/

set_option autoImplicit false

namespace Generators

variable {Call : Type} {Answer : Call → Type} {Event Exn α β : Type}

namespace Gen

theorem bind_assoc {γ : Type} (first : Gen Call Answer Event Exn α)
    (second : α → Gen Call Answer Event Exn β) (third : β → Gen Call Answer Event Exn γ) :
    (first >>= second) >>= third = first >>= fun value => second value >>= third := by
  change (first.bind second).bind third = first.bind fun value => (second value).bind third
  induction first with
  | done value => rfl
  | fail exn => rfl
  | emit event resume ih => simp only [bind, ih]
  | call request resume ih => simp only [bind, ih]

/-- What is left of `code` after some of its nodes, and the events of these. -/
inductive Reaches (code : Gen Call Answer Event Exn α) :
    List Event → Gen Call Answer Event Exn α → Prop where
  | start : Reaches code [] code
  | call {events : List Event} {request : Call}
      {resume : Except Exn (Answer request) → Gen Call Answer Event Exn α}
      (answer : Except Exn (Answer request))
      (before : Reaches code events (.call request resume)) :
      Reaches code events (resume answer)
  | emit {events : List Event} {event : Event}
      {resume : Option Exn → Gen Call Answer Event Exn α}
      (before : Reaches code events (.emit event resume)) :
      Reaches code (events ++ [event]) (resume none)

/-- Every path ends with what `post` says of its events and its result. -/
def Ends (post : List Event → Except Exn α → Prop) : Gen Call Answer Event Exn α → Prop
  | .done value => post [] (.ok value)
  | .fail exn => post [] (.error exn)
  | .emit event resume => Ends (fun events result => post (event :: events) result) (resume none)
  | .call _ resume => ∀ answer, Ends post (resume answer)

/-- No path has more nodes. -/
def Within : Gen Call Answer Event Exn α → Nat → Prop
  | .done _, _ => True
  | .fail _, _ => True
  | .emit _ resume, bound => ∃ less, less + 1 = bound ∧ (resume none).Within less
  | .call _ resume, bound => ∃ less, less + 1 = bound ∧ ∀ answer, (resume answer).Within less

/-- After an event the code is done. -/
def EmitsLast : Gen Call Answer Event Exn α → Prop
  | .done _ => True
  | .fail _ => True
  | .emit _ resume => ∃ value, resume none = .done value
  | .call _ resume => ∀ answer, (resume answer).EmitsLast

theorem ends_mono (post weaker : List Event → Except Exn α → Prop)
    (implies : ∀ events result, post events result → weaker events result)
    (code : Gen Call Answer Event Exn α) (ends : code.Ends post) : code.Ends weaker := by
  induction code generalizing post weaker with
  | done value => exact implies _ _ ends
  | fail exn => exact implies _ _ ends
  | emit event resume ih => exact ih none _ _ (fun events => implies (event :: events)) ends
  | call request resume ih => exact fun answer => ih answer _ _ implies (ends answer)

theorem ends_bind (post : List Event → Except Exn β → Prop)
    (first : Gen Call Answer Event Exn α) (next : α → Gen Call Answer Event Exn β)
    (ends : first.Ends fun events result =>
      match result with
      | .ok value => (next value).Ends fun later => post (events ++ later)
      | .error exn => post events (.error exn)) :
    (first >>= next).Ends post := by
  change (first.bind next).Ends post
  induction first generalizing post with
  | done value => exact ends
  | fail exn => exact ends
  | emit event resume ih => exact ih none _ ends
  | call request resume ih => exact fun answer => ih answer _ (ends answer)

theorem ends_perform (post : List Event → Except Exn β → Prop) (request : Call)
    (next : Answer request → Gen Call Answer Event Exn β)
    (raised : ∀ exn, post [] (.error exn)) (goes : ∀ answer, (next answer).Ends post) :
    (perform request >>= next).Ends post := by
  intro answer
  cases answer with
  | ok value => exact goes value
  | error exn => exact raised exn

theorem ends_fromExcept (post : List Event → Except Exn α → Prop) (result : Except Exn α) :
    (fromExcept result : Gen Call Answer Event Exn α).Ends post ↔ post [] result := by
  cases result <;> rfl

theorem within_more (bound more : Nat) (code : Gen Call Answer Event Exn α)
    (within : code.Within bound) : code.Within (bound + more) := by
  induction code generalizing bound with
  | done value => trivial
  | fail exn => trivial
  | emit event resume ih =>
      obtain ⟨less, rfl, within⟩ := within
      exact ⟨less + more, Nat.add_right_comm .., ih none less within⟩
  | call request resume ih =>
      obtain ⟨less, rfl, within⟩ := within
      exact ⟨less + more, Nat.add_right_comm .., fun answer => ih answer less (within answer)⟩

theorem within_bind (bound later : Nat) (first : Gen Call Answer Event Exn α)
    (next : α → Gen Call Answer Event Exn β) (within : first.Within bound)
    (nextWithin : ∀ value, (next value).Within later) :
    (first >>= next).Within (bound + later) := by
  change (first.bind next).Within _
  induction first generalizing bound with
  | done value =>
      rw [Nat.add_comm]
      exact within_more later bound _ (nextWithin value)
  | fail exn => trivial
  | emit event resume ih =>
      obtain ⟨less, rfl, within⟩ := within
      exact ⟨less + later, Nat.add_right_comm .., ih none less within⟩
  | call request resume ih =>
      obtain ⟨less, rfl, within⟩ := within
      exact ⟨less + later, Nat.add_right_comm .., fun answer => ih answer less (within answer)⟩

theorem within_fromExcept (bound : Nat) (result : Except Exn α) :
    (fromExcept result : Gen Call Answer Event Exn α).Within bound := by
  cases result <;> trivial

theorem within_perform (request : Call) :
    (perform request : Gen Call Answer Event Exn (Answer request)).Within 1 := by
  refine ⟨0, rfl, fun answer => ?_⟩
  cases answer <;> trivial

theorem within_yieldEvent (event : Event) :
    (yieldEvent event : Gen Call Answer Event Exn Unit).Within 1 :=
  ⟨0, rfl, trivial⟩

end Gen

end Generators

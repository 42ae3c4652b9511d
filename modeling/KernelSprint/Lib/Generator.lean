import Mathlib.Data.List.Basic
import KernelSprint.Lib.Pool

/-!
# Generators as interaction trees

A generator performs calls on its environment and hands events to its
consumer.  Both are points where control leaves the code, so both are nodes
of the tree: a call is answered by a value or an exception, an event is
resumed normally or by an exception thrown in at the `yield` (closing the
generator throws one there).
-/

set_option autoImplicit false

namespace Generators

open Interleaving

inductive Gen (Call : Type) (Answer : Call → Type) (Event Exn α : Type) : Type where
  | done (value : α)
  | fail (exn : Exn)
  | emit (event : Event) (resume : Option Exn → Gen Call Answer Event Exn α)
  | call (request : Call)
      (resume : Except Exn (Answer request) → Gen Call Answer Event Exn α)

variable {Call : Type} {Answer : Call → Type} {Event Exn α β : Type}

namespace Gen

def bind : Gen Call Answer Event Exn α →
    (α → Gen Call Answer Event Exn β) → Gen Call Answer Event Exn β
  | .done value, next => next value
  | .fail exn, _ => .fail exn
  | .emit event resume, next => .emit event fun thrown => (resume thrown).bind next
  | .call request resume, next => .call request fun answer => (resume answer).bind next

instance : Monad (Gen Call Answer Event Exn) where
  pure := .done
  bind := bind

/-- `yield event` -/
def yieldEvent (event : Event) : Gen Call Answer Event Exn Unit :=
  .emit event fun
    | none => .done ()
    | some exn => .fail exn

def perform (request : Call) : Gen Call Answer Event Exn (Answer request) :=
  .call request fun
    | .ok answer => .done answer
    | .error exn => .fail exn

/-- A computation without effects that may raise. -/
def fromExcept : Except Exn α → Gen Call Answer Event Exn α
  | .ok value => .done value
  | .error exn => .fail exn

/-- `try: body finally: cleanup` -/
def withFinally (body : Gen Call Answer Event Exn α)
    (cleanup : Gen Call Answer Event Exn Unit) : Gen Call Answer Event Exn α :=
  match body with
  | .done value => cleanup.bind fun _ => .done value
  | .fail exn => cleanup.bind fun _ => .fail exn
  | .emit event resume => .emit event fun thrown => (resume thrown).withFinally cleanup
  | .call request resume => .call request fun answer =>
      (resume answer).withFinally cleanup

/-- `try: body except …: handler`; the handler is `none` on the exceptions
that the clause does not name. -/
def withExcept (body : Gen Call Answer Event Exn α)
    (handler : Exn → Option (Gen Call Answer Event Exn α)) :
    Gen Call Answer Event Exn α :=
  match body with
  | .done value => .done value
  | .fail exn => (handler exn).getD (.fail exn)
  | .emit event resume => .emit event fun thrown => (resume thrown).withExcept handler
  | .call request resume => .call request fun answer =>
      (resume answer).withExcept handler

/-- `for item in items: body item` -/
def forEach {ι : Type} (items : List ι) (body : ι → Gen Call Answer Event Exn Unit) :
    Gen Call Answer Event Exn Unit :=
  match items with
  | [] => .done ()
  | item :: rest => (body item).bind fun _ => forEach rest body

/-! ## A consumer that takes every event -/

/-- The events handed out, and how the generator ended. -/
def play (respond : (request : Call) → Except Exn (Answer request)) :
    Gen Call Answer Event Exn α → List Event × Except Exn α
  | .done value => ([], .ok value)
  | .fail exn => ([], .error exn)
  | .emit event resume =>
      (event :: (play respond (resume none)).1, (play respond (resume none)).2)
  | .call request resume => play respond (resume (respond request))

section Play

variable (respond : (request : Call) → Except Exn (Answer request))

@[simp] theorem play_pure (value : α) :
    play respond (pure value : Gen Call Answer Event Exn α) = ([], .ok value) := rfl

@[simp] theorem play_yieldEvent (event : Event) :
    play respond (yieldEvent event : Gen Call Answer Event Exn Unit) =
      ([event], .ok ()) := rfl

@[simp] theorem play_perform (request : Call) :
    play respond (perform request : Gen Call Answer Event Exn (Answer request)) =
      ([], respond request) := by
  simp only [perform, play]
  cases respond request <;> rfl

@[simp] theorem play_fromExcept (result : Except Exn α) :
    play respond (fromExcept result : Gen Call Answer Event Exn α) = ([], result) := by
  cases result <;> rfl

theorem play_bind (first : Gen Call Answer Event Exn α)
    (next : α → Gen Call Answer Event Exn β) :
    play respond (first >>= next) =
      match play respond first with
      | (events, .ok value) =>
          (events ++ (play respond (next value)).1, (play respond (next value)).2)
      | (events, .error exn) => (events, .error exn) := by
  change play respond (first.bind next) = _
  induction first with
  | done value => rfl
  | fail exn => rfl
  | emit event resume ih =>
      simp only [bind, play, ih none]
      rcases play respond (resume none) with ⟨events, _ | value⟩ <;> rfl
  | call request resume ih => exact ih (respond request)

theorem play_bind_ok (first : Gen Call Answer Event Exn α)
    (next : α → Gen Call Answer Event Exn β) (events : List Event) (value : α)
    (played : play respond first = (events, .ok value)) :
    play respond (first >>= next) =
      (events ++ (play respond (next value)).1, (play respond (next value)).2) := by
  rw [play_bind, played]

theorem play_withFinally_ok (body : Gen Call Answer Event Exn α)
    (cleanup : Gen Call Answer Event Exn Unit)
    (quiet : play respond cleanup = ([], .ok ())) :
    play respond (body.withFinally cleanup) = play respond body := by
  induction body with
  | done value =>
      change play respond (cleanup >>= fun _ => .done value) = _
      rw [play_bind_ok respond cleanup _ [] () quiet]
      rfl
  | fail exn =>
      change play respond (cleanup >>= fun _ => .fail exn) = _
      rw [play_bind_ok respond cleanup _ [] () quiet]
      rfl
  | emit event resume ih => simp only [withFinally, play, ih none]
  | call request resume ih => exact ih (respond request)

theorem play_withExcept (body : Gen Call Answer Event Exn α)
    (handler : Exn → Option (Gen Call Answer Event Exn α)) :
    play respond (body.withExcept handler) =
      match play respond body with
      | (events, .ok value) => (events, .ok value)
      | (events, .error exn) =>
          (events ++ (play respond ((handler exn).getD (.fail exn))).1,
            (play respond ((handler exn).getD (.fail exn))).2) := by
  induction body with
  | done value => rfl
  | fail exn => rfl
  | emit event resume ih =>
      simp only [withExcept, play, ih none]
      rcases play respond (resume none) with ⟨events, _ | value⟩ <;> rfl
  | call request resume ih => exact ih (respond request)

/-- A loop whose rounds all end normally hands out the events of its rounds. -/
theorem play_forEach {ι : Type} (items : List ι)
    (body : ι → Gen Call Answer Event Exn Unit) (events : ι → List Event)
    (round : ∀ item, play respond (body item) = (events item, .ok ())) :
    play respond (forEach items body) = (items.flatMap events, .ok ()) := by
  induction items with
  | nil => rfl
  | cons item rest ih =>
      change play respond (body item >>= fun _ => forEach rest body) = _
      rw [play_bind_ok respond _ _ (events item) () (round item), ih]
      simp

end Play

/-! ## The same code over other calls and events -/

section Rename

variable {Call' : Type} {Answer' : Call' → Type} {Event' : Type} (request : Call → Call')
  (answer : (call : Call) → Answer' (request call) → Answer call) (event : Event → Event')

/-- Every call and event replaced by another. -/
def rename : Gen Call Answer Event Exn α → Gen Call' Answer' Event' Exn α
  | .done value => .done value
  | .fail exn => .fail exn
  | .emit handed resume => .emit (event handed) fun thrown => (resume thrown).rename
  | .call asked resume => .call (request asked) fun reply =>
      (resume (reply.map (answer asked))).rename

theorem rename_bind (first : Gen Call Answer Event Exn α)
    (next : α → Gen Call Answer Event Exn β) :
    rename request answer event (first >>= next) =
      rename request answer event first >>= fun value => rename request answer event (next value) := by
  change rename request answer event (first.bind next) =
    (rename request answer event first).bind fun value => rename request answer event (next value)
  induction first with
  | done value => rfl
  | fail exn => rfl
  | emit handed resume ih => simp only [bind, rename, ih]
  | call asked resume ih => simp only [bind, rename, ih]

theorem rename_withFinally (body : Gen Call Answer Event Exn α)
    (cleanup : Gen Call Answer Event Exn Unit) :
    rename request answer event (body.withFinally cleanup) =
      (rename request answer event body).withFinally (rename request answer event cleanup) := by
  induction body with
  | done value => exact rename_bind request answer event cleanup fun _ => .done value
  | fail exn => exact rename_bind request answer event cleanup fun _ => .fail exn
  | emit handed resume ih => simp only [withFinally, rename, ih]
  | call asked resume ih => simp only [withFinally, rename, ih]

theorem rename_yieldEvent (handed : Event) :
    rename request answer event (yieldEvent handed : Gen Call Answer Event Exn Unit) =
      yieldEvent (event handed) := by
  simp only [yieldEvent, rename]
  congr 1
  funext thrown
  cases thrown <;> rfl

theorem rename_fromExcept (result : Except Exn α) :
    rename request answer event (fromExcept result : Gen Call Answer Event Exn α) =
      fromExcept result := by
  cases result <;> rfl

section Sequence

variable {first : Gen Call Answer Event Exn α} {first' : Gen Call' Answer' Event' Exn α}

/-- Code that goes on the same way after the same start. -/
theorem rename_sequence (next : α → Gen Call Answer Event Exn β)
    (next' : α → Gen Call' Answer' Event' Exn β)
    (starts : rename request answer event first = first')
    (goes : ∀ value, rename request answer event (next value) = next' value) :
    rename request answer event (first >>= next) = first' >>= next' := by
  rw [rename_bind, starts]
  exact congrArg _ (funext goes)

theorem rename_event (handed : Event) (next : Unit → Gen Call Answer Event Exn β)
    (next' : Unit → Gen Call' Answer' Event' Exn β)
    (goes : ∀ value, rename request answer event (next value) = next' value) :
    rename request answer event (yieldEvent handed >>= next) =
      yieldEvent (event handed) >>= next' :=
  rename_sequence request answer event next next'
    (rename_yieldEvent request answer event handed) goes

theorem rename_perform (asked : Call) (next : Answer asked → Gen Call Answer Event Exn β)
    (next' : Answer' (request asked) → Gen Call' Answer' Event' Exn β)
    (goes : ∀ reply, rename request answer event (next (answer asked reply)) = next' reply) :
    rename request answer event (perform asked >>= next) =
      perform (request asked) >>= next' := by
  change Gen.call _ _ = Gen.call _ _
  congr 1
  funext reply
  cases reply with
  | ok value => exact goes value
  | error exn => rfl

theorem rename_finally (body : Gen Call Answer Event Exn α)
    (body' : Gen Call' Answer' Event' Exn α) (cleanup : Gen Call Answer Event Exn Unit)
    (cleanup' : Gen Call' Answer' Event' Exn Unit)
    (runs : rename request answer event body = body')
    (cleans : rename request answer event cleanup = cleanup') :
    rename request answer event (body.withFinally cleanup) = body'.withFinally cleanup' := by
  rw [rename_withFinally, runs, cleans]

end Sequence

end Rename

/-! ## Generators as threads -/

/-- What a generator has handed out so far and what is left of it, run up to
its next call. -/
structure Suspended (Call : Type) (Answer : Call → Type) (Event Exn α : Type) where
  events : List Event
  rest : Gen Call Answer Event Exn α

/-- The generator has returned or raised. -/
def Suspended.Ended (thread : Suspended Call Answer Event Exn α) : Prop :=
  match thread.rest with
  | .done _ => True
  | .fail _ => True
  | _ => False

instance : DecidablePred (Suspended.Ended : Suspended Call Answer Event Exn α → Prop)
  | ⟨_, .done _⟩ => isTrue trivial
  | ⟨_, .fail _⟩ => isTrue trivial
  | ⟨_, .emit _ _⟩ => isFalse id
  | ⟨_, .call _ _⟩ => isFalse id

def settle : Gen Call Answer Event Exn α → List Event → Suspended Call Answer Event Exn α
  | .emit event resume, events => settle (resume none) (events ++ [event])
  | .done value, events => ⟨events, .done value⟩
  | .fail exn, events => ⟨events, .fail exn⟩
  | .call request resume, events => ⟨events, .call request resume⟩

/-- A thread's atomic step is one call on the shared state, with the events
that follow it. -/
def program {Arg Shared : Type} (code : Arg → Gen Call Answer Event Exn α)
    (handler : Shared → (request : Call) → Shared × Except Exn (Answer request)) :
    Program Shared (Suspended Call Answer Event Exn α) Arg where
  start arg := settle (code arg) []
  step shared thread :=
    match thread.rest with
    | .call request resume =>
        some ((handler shared request).1,
          settle (resume (handler shared request).2) thread.events)
    | _ => none

end Gen

end Generators

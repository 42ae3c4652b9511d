import KernelSprint.Lib.Generator

/-!
# Generators in a world that may fail them

A world answers the calls of a generator and consumes its events; what meets
the generator at each of these points is drawn from a list of fates, so a
list of fates fixes the course of a run.  The rules below follow the
constructs of the generator.  In an unreliable world a call may raise before
or after it has taken effect, and the consumer may throw at a `yield`.
-/

set_option autoImplicit false

namespace Generators

universe u v

/-- `usual` is the fate of every point that the list says nothing about. -/
structure World (Shared : Type u) (Fate : Type v) (Call : Type)
    (Answer : Call → Type) (Event Exn : Type) where
  usual : Fate
  answer : Shared → Fate → (request : Call) → Shared × Except Exn (Answer request)
  consume : Shared → Fate → Event → Shared × Option Exn

inductive Happening (Fate : Type v) (Call Event : Type) where
  | called (request : Call) (fate : Fate)
  | yielded (event : Event) (fate : Fate)
  deriving DecidableEq

structure Course (Shared : Type u) (Fate : Type v) (Call Event Exn α : Type) where
  log : List (Happening Fate Call Event)
  shared : Shared
  result : Except Exn α
  left : List Fate

variable {Shared : Type u} {Fate : Type v} {Call : Type} {Answer : Call → Type}
  {Event Exn α β : Type}

def Happening.Within (calls : Call → Prop) (events : Event → Prop) :
    Happening Fate Call Event → Prop
  | .called request _ => calls request
  | .yielded event _ => events event

def Happening.fate : Happening Fate Call Event → Fate
  | .called _ fate => fate
  | .yielded _ fate => fate

namespace Course

/-- The course with something that happened before it. -/
def since (log : List (Happening Fate Call Event))
    (course : Course Shared Fate Call Event Exn α) : Course Shared Fate Call Event Exn α :=
  { course with log := log ++ course.log }

@[simp] theorem since_log (log : List (Happening Fate Call Event))
    (course : Course Shared Fate Call Event Exn α) :
    (course.since log).log = log ++ course.log := rfl

@[simp] theorem since_shared (log : List (Happening Fate Call Event))
    (course : Course Shared Fate Call Event Exn α) :
    (course.since log).shared = course.shared := rfl

@[simp] theorem since_result (log : List (Happening Fate Call Event))
    (course : Course Shared Fate Call Event Exn α) :
    (course.since log).result = course.result := rfl

@[simp] theorem since_left (log : List (Happening Fate Call Event))
    (course : Course Shared Fate Call Event Exn α) :
    (course.since log).left = course.left := rfl

@[simp] theorem since_since (first second : List (Happening Fate Call Event))
    (course : Course Shared Fate Call Event Exn α) :
    (course.since second).since first = course.since (first ++ second) := by
  simp only [since, List.append_assoc]

/-- What follows a computation that ended with a value. -/
def andThen (first : Course Shared Fate Call Event Exn α)
    (next : α → Shared → List Fate → Course Shared Fate Call Event Exn β) :
    Course Shared Fate Call Event Exn β :=
  match first.result with
  | .ok value => (next value first.shared first.left).since first.log
  | .error exn => { first with result := .error exn }

def orElse (body : Course Shared Fate Call Event Exn α)
    (handler : Exn → Shared → List Fate → Course Shared Fate Call Event Exn α) :
    Course Shared Fate Call Event Exn α :=
  match body.result with
  | .ok _ => body
  | .error exn => (handler exn body.shared body.left).since body.log

/-- An exception of the cleanup replaces what the body ended with. -/
def andFinally (body : Course Shared Fate Call Event Exn α)
    (cleanup : Shared → List Fate → Course Shared Fate Call Event Exn Unit) :
    Course Shared Fate Call Event Exn α :=
  let cleaned := cleanup body.shared body.left
  { log := body.log ++ cleaned.log
    shared := cleaned.shared
    result := cleaned.result.bind fun _ => body.result
    left := cleaned.left }

/-- The events handed out, in order. -/
def events (course : Course Shared Fate Call Event Exn α) : List Event :=
  course.log.filterMap fun
    | .yielded event _ => some event
    | .called _ _ => none

theorem since_andThen (log : List (Happening Fate Call Event))
    (first : Course Shared Fate Call Event Exn α)
    (next : α → Shared → List Fate → Course Shared Fate Call Event Exn β) :
    (first.since log).andThen next = (first.andThen next).since log := by
  unfold andThen
  rw [since_result]
  cases first.result with
  | ok value => simp
  | error exn => rfl

theorem since_orElse (log : List (Happening Fate Call Event))
    (body : Course Shared Fate Call Event Exn α)
    (handler : Exn → Shared → List Fate → Course Shared Fate Call Event Exn α) :
    (body.since log).orElse handler = (body.orElse handler).since log := by
  unfold orElse
  rw [since_result]
  cases body.result with
  | ok value => rfl
  | error exn => simp

theorem since_andFinally (log : List (Happening Fate Call Event))
    (body : Course Shared Fate Call Event Exn α)
    (cleanup : Shared → List Fate → Course Shared Fate Call Event Exn Unit) :
    (body.since log).andFinally cleanup = (body.andFinally cleanup).since log := by
  simp [andFinally, since]

end Course

namespace Gen

variable (world : World Shared Fate Call Answer Event Exn)

def course : Gen Call Answer Event Exn α → Shared → List Fate →
    Course Shared Fate Call Event Exn α
  | .done value, shared, fates => ⟨[], shared, .ok value, fates⟩
  | .fail exn, shared, fates => ⟨[], shared, .error exn, fates⟩
  | .emit event resume, shared, fates =>
      let fate := fates.headD world.usual
      ((resume (world.consume shared fate event).2).course
        (world.consume shared fate event).1 fates.tail).since [.yielded event fate]
  | .call request resume, shared, fates =>
      let fate := fates.headD world.usual
      ((resume (world.answer shared fate request).2).course
        (world.answer shared fate request).1 fates.tail).since [.called request fate]

@[simp] theorem course_pure (value : α) (shared : Shared) (fates : List Fate) :
    (pure value : Gen Call Answer Event Exn α).course world shared fates =
      ⟨[], shared, .ok value, fates⟩ := rfl

@[simp] theorem course_fromExcept (result : Except Exn α) (shared : Shared)
    (fates : List Fate) :
    (fromExcept result : Gen Call Answer Event Exn α).course world shared fates =
      ⟨[], shared, result, fates⟩ := by
  cases result <;> rfl

@[simp] theorem course_yieldEvent (event : Event) (shared : Shared) (fates : List Fate) :
    (yieldEvent event : Gen Call Answer Event Exn Unit).course world shared fates =
      ⟨[.yielded event (fates.headD world.usual)],
        (world.consume shared (fates.headD world.usual) event).1,
        (match (world.consume shared (fates.headD world.usual) event).2 with
          | none => .ok ()
          | some exn => .error exn),
        fates.tail⟩ := by
  simp only [yieldEvent, course]
  cases (world.consume shared (fates.headD world.usual) event).2 <;> rfl

@[simp] theorem course_perform (request : Call) (shared : Shared) (fates : List Fate) :
    (perform request : Gen Call Answer Event Exn (Answer request)).course world shared fates =
      ⟨[.called request (fates.headD world.usual)],
        (world.answer shared (fates.headD world.usual) request).1,
        (world.answer shared (fates.headD world.usual) request).2, fates.tail⟩ := by
  simp only [perform, course]
  cases (world.answer shared (fates.headD world.usual) request).2 <;> rfl

theorem course_bind (first : Gen Call Answer Event Exn α)
    (next : α → Gen Call Answer Event Exn β) (shared : Shared) (fates : List Fate) :
    (first >>= next).course world shared fates =
      (first.course world shared fates).andThen fun value => (next value).course world := by
  change (first.bind next).course world shared fates = _
  induction first generalizing shared fates with
  | done value => simp [bind, course, Course.andThen, Course.since]
  | fail exn => rfl
  | emit event resume ih => simp only [bind, course, ih, Course.since_andThen]
  | call request resume ih => simp only [bind, course, ih, Course.since_andThen]

theorem course_withExcept (body : Gen Call Answer Event Exn α)
    (handler : Exn → Option (Gen Call Answer Event Exn α)) (shared : Shared)
    (fates : List Fate) :
    (body.withExcept handler).course world shared fates =
      (body.course world shared fates).orElse fun exn =>
        ((handler exn).getD (.fail exn)).course world := by
  induction body generalizing shared fates with
  | done value => rfl
  | fail exn => simp [withExcept, course, Course.orElse, Course.since]
  | emit event resume ih => simp only [withExcept, course, ih, Course.since_orElse]
  | call request resume ih => simp only [withExcept, course, ih, Course.since_orElse]

theorem course_withFinally (body : Gen Call Answer Event Exn α)
    (cleanup : Gen Call Answer Event Exn Unit) (shared : Shared) (fates : List Fate) :
    (body.withFinally cleanup).course world shared fates =
      (body.course world shared fates).andFinally (cleanup.course world) := by
  induction body generalizing shared fates with
  | done value =>
      change (cleanup >>= fun _ => pure value).course world shared fates = _
      rw [course_bind]
      unfold Course.andThen Course.andFinally
      cases cleaned : (cleanup.course world shared fates).result with
      | ok _ => simp [course, cleaned, Course.since, Except.bind]
      | error exn => simp [course, cleaned, Except.bind]
  | fail exn =>
      change (cleanup >>= fun _ => .fail exn).course world shared fates = _
      rw [course_bind]
      unfold Course.andThen Course.andFinally
      cases cleaned : (cleanup.course world shared fates).result with
      | ok _ => simp [course, cleaned, Course.since, Except.bind]
      | error exn => simp [course, cleaned, Except.bind]
  | emit event resume ih => simp only [withFinally, course, ih, Course.since_andFinally]
  | call request resume ih => simp only [withFinally, course, ih, Course.since_andFinally]

/-- Nothing but the usual happens where every fate is the usual one. -/
theorem usual_log (code : Gen Call Answer Event Exn α) (shared : Shared) (fates : List Fate)
    (usual : ∀ fate ∈ fates, fate = world.usual) :
    ∀ happening ∈ (code.course world shared fates).log, happening.fate = world.usual := by
  have head : ∀ fates : List Fate, (∀ fate ∈ fates, fate = world.usual) →
      fates.headD world.usual = world.usual := by
    intro fates all
    cases fates with
    | nil => rfl
    | cons fate rest => exact all fate List.mem_cons_self
  induction code generalizing shared fates with
  | done value => exact List.forall_mem_nil _
  | fail exn => exact List.forall_mem_nil _
  | emit event resume ih =>
      simp only [course, Course.since_log, List.singleton_append]
      exact List.forall_mem_cons.mpr ⟨head fates usual,
        ih _ _ _ fun fate member => usual fate (List.mem_of_mem_tail member)⟩
  | call request resume ih =>
      simp only [course, Course.since_log, List.singleton_append]
      exact List.forall_mem_cons.mpr ⟨head fates usual,
        ih _ _ _ fun fate member => usual fate (List.mem_of_mem_tail member)⟩

/-! ## What a generator can do at all -/

/-- Every call satisfies `calls` and every event `events`, whatever answers
the calls and whatever is thrown in. -/
def Only (calls : Call → Prop) (events : Event → Prop) :
    Gen Call Answer Event Exn α → Prop
  | .done _ => True
  | .fail _ => True
  | .emit event resume => events event ∧ ∀ thrown, (resume thrown).Only calls events
  | .call request resume => calls request ∧ ∀ answer, (resume answer).Only calls events

section Only

variable (calls : Call → Prop) (events : Event → Prop)

@[simp] theorem only_pure (value : α) :
    Only calls events (pure value : Gen Call Answer Event Exn α) := trivial

@[simp] theorem only_fromExcept (result : Except Exn α) :
    Only calls events (fromExcept result : Gen Call Answer Event Exn α) := by
  cases result <;> trivial

@[simp] theorem only_yieldEvent (event : Event) :
    Only calls events (yieldEvent event : Gen Call Answer Event Exn Unit) ↔ events event := by
  constructor
  · exact fun only => only.1
  · intro allowed
    refine ⟨allowed, fun thrown => ?_⟩
    cases thrown <;> trivial

@[simp] theorem only_perform (request : Call) :
    Only calls events (perform request : Gen Call Answer Event Exn (Answer request)) ↔
      calls request := by
  constructor
  · exact fun only => only.1
  · intro allowed
    refine ⟨allowed, fun answer => ?_⟩
    cases answer <;> trivial

theorem only_bind (first : Gen Call Answer Event Exn α)
    (next : α → Gen Call Answer Event Exn β) (firstOnly : first.Only calls events)
    (nextOnly : ∀ value, (next value).Only calls events) :
    (first >>= next).Only calls events := by
  change (first.bind next).Only calls events
  induction first with
  | done value => exact nextOnly value
  | fail exn => trivial
  | emit event resume ih => exact ⟨firstOnly.1, fun thrown => ih thrown (firstOnly.2 thrown)⟩
  | call request resume ih => exact ⟨firstOnly.1, fun answer => ih answer (firstOnly.2 answer)⟩

theorem only_withFinally (body : Gen Call Answer Event Exn α)
    (cleanup : Gen Call Answer Event Exn Unit) (bodyOnly : body.Only calls events)
    (cleanupOnly : cleanup.Only calls events) :
    (body.withFinally cleanup).Only calls events := by
  induction body with
  | done value => exact only_bind calls events cleanup _ cleanupOnly fun _ => trivial
  | fail exn => exact only_bind calls events cleanup _ cleanupOnly fun _ => trivial
  | emit event resume ih => exact ⟨bodyOnly.1, fun thrown => ih thrown (bodyOnly.2 thrown)⟩
  | call request resume ih => exact ⟨bodyOnly.1, fun answer => ih answer (bodyOnly.2 answer)⟩

theorem only_withExcept (body : Gen Call Answer Event Exn α)
    (handler : Exn → Option (Gen Call Answer Event Exn α)) (bodyOnly : body.Only calls events)
    (handlerOnly : ∀ exn, ∀ code ∈ handler exn, code.Only calls events) :
    (body.withExcept handler).Only calls events := by
  induction body with
  | done value => trivial
  | fail exn =>
      unfold withExcept
      cases handled : handler exn with
      | none => trivial
      | some code => exact handlerOnly exn code handled
  | emit event resume ih => exact ⟨bodyOnly.1, fun thrown => ih thrown (bodyOnly.2 thrown)⟩
  | call request resume ih => exact ⟨bodyOnly.1, fun answer => ih answer (bodyOnly.2 answer)⟩

theorem only_forEach {ι : Type} (items : List ι) (body : ι → Gen Call Answer Event Exn Unit)
    (bodyOnly : ∀ item, (body item).Only calls events) :
    (forEach items body).Only calls events := by
  induction items with
  | nil => trivial
  | cons item rest ih => exact only_bind calls events _ _ (bodyOnly item) fun _ => ih

theorem only_mono {calls' : Call → Prop} {events' : Event → Prop}
    (moreCalls : ∀ request, calls request → calls' request)
    (moreEvents : ∀ event, events event → events' event)
    (code : Gen Call Answer Event Exn α) (only : code.Only calls events) :
    code.Only calls' events' := by
  induction code with
  | done value => trivial
  | fail exn => trivial
  | emit event resume ih =>
      exact ⟨moreEvents event only.1, fun thrown => ih thrown (only.2 thrown)⟩
  | call request resume ih =>
      exact ⟨moreCalls request only.1, fun answer => ih answer (only.2 answer)⟩

theorem only_trivial (code : Gen Call Answer Event Exn α) :
    code.Only (fun _ => True) (fun _ => True) := by
  induction code with
  | done value => trivial
  | fail exn => trivial
  | emit event resume ih => exact ⟨trivial, ih⟩
  | call request resume ih => exact ⟨trivial, ih⟩

theorem only_log (code : Gen Call Answer Event Exn α) (only : code.Only calls events)
    (shared : Shared) (fates : List Fate) :
    ∀ happening ∈ (code.course world shared fates).log, happening.Within calls events := by
  induction code generalizing shared fates with
  | done value => exact List.forall_mem_nil _
  | fail exn => exact List.forall_mem_nil _
  | emit event resume ih =>
      simp only [course, Course.since_log, List.singleton_append]
      exact List.forall_mem_cons.mpr ⟨only.1, ih _ (only.2 _) _ _⟩
  | call request resume ih =>
      simp only [course, Course.since_log, List.singleton_append]
      exact List.forall_mem_cons.mpr ⟨only.1, ih _ (only.2 _) _ _⟩

end Only

/-! ## Postconditions -/

/-- Whatever the fates, the run ends with what `good` says of its log, the
shared state and the result. -/
def Leads (code : Gen Call Answer Event Exn α) (shared : Shared)
    (good : List (Happening Fate Call Event) → Shared → Except Exn α → Prop) : Prop :=
  ∀ fates, good (code.course world shared fates).log (code.course world shared fates).shared
    (code.course world shared fates).result

variable {world}

theorem leads_mono (code : Gen Call Answer Event Exn α) (shared : Shared)
    (good better : List (Happening Fate Call Event) → Shared → Except Exn α → Prop)
    (implies : ∀ log shared result, better log shared result → good log shared result)
    (leads : Leads world code shared better) : Leads world code shared good :=
  fun fates => implies _ _ _ (leads fates)

/-- What every interaction that the code can have preserves holds at its end. -/
theorem leads_only (calls : Call → Prop) (events : Event → Prop)
    (inv : List (Happening Fate Call Event) → Shared → Prop)
    (called : ∀ log shared fate request, calls request → inv log shared →
      inv (log ++ [.called request fate]) (world.answer shared fate request).1)
    (yielded : ∀ log shared fate event, events event → inv log shared →
      inv (log ++ [.yielded event fate]) (world.consume shared fate event).1)
    (code : Gen Call Answer Event Exn α) (only : code.Only calls events)
    (before : List (Happening Fate Call Event)) (shared : Shared)
    (initially : inv before shared) :
    Leads world code shared fun log shared' _ => inv (before ++ log) shared' := by
  induction code generalizing before shared with
  | done value =>
      intro _
      simpa only [course, List.append_nil] using initially
  | fail exn =>
      intro _
      simpa only [course, List.append_nil] using initially
  | emit event resume ih =>
      intro fates
      have next := yielded before shared (fates.headD world.usual) event only.1 initially
      have rest := ih _ (only.2 (world.consume shared (fates.headD world.usual) event).2)
        _ _ next fates.tail
      simp only [List.append_assoc] at rest
      exact rest
  | call request resume ih =>
      intro fates
      have next := called before shared (fates.headD world.usual) request only.1 initially
      have rest := ih _ (only.2 (world.answer shared (fates.headD world.usual) request).2)
        _ _ next fates.tail
      simp only [List.append_assoc] at rest
      exact rest

theorem leads_pure (value : α) (shared : Shared)
    (good : List (Happening Fate Call Event) → Shared → Except Exn α → Prop) :
    Leads world (pure value) shared good ↔ good [] shared (.ok value) :=
  ⟨fun leads => leads [], fun holds _ => holds⟩

theorem leads_fromExcept (result : Except Exn α) (shared : Shared)
    (good : List (Happening Fate Call Event) → Shared → Except Exn α → Prop) :
    Leads world (fromExcept result) shared good ↔ good [] shared result := by
  cases result <;> exact ⟨fun leads => leads [], fun holds _ => holds⟩

theorem leads_call (request : Call) (shared : Shared)
    (good : List (Happening Fate Call Event) → Shared → Except Exn (Answer request) → Prop)
    (each : ∀ fate, good [.called request fate] (world.answer shared fate request).1
      (world.answer shared fate request).2) :
    Leads world (perform request) shared good := by
  intro fates
  rw [course_perform]
  exact each _

theorem leads_event (event : Event) (shared : Shared)
    (good : List (Happening Fate Call Event) → Shared → Except Exn Unit → Prop)
    (each : ∀ fate, good [.yielded event fate] (world.consume shared fate event).1
      (match (world.consume shared fate event).2 with
        | none => .ok ()
        | some exn => .error exn)) :
    Leads world (yieldEvent event) shared good := by
  intro fates
  rw [course_yieldEvent]
  exact each _

theorem leads_bind (first : Gen Call Answer Event Exn α)
    (next : α → Gen Call Answer Event Exn β) (shared : Shared)
    (good : List (Happening Fate Call Event) → Shared → Except Exn β → Prop)
    (leads : Leads world first shared fun log shared result =>
      match result with
      | .ok value => Leads world (next value) shared fun log' => good (log ++ log')
      | .error exn => good log shared (.error exn)) :
    Leads world (first >>= next) shared good := by
  intro fates
  have firstGood := leads fates
  rw [course_bind]
  unfold Course.andThen
  cases ended : (first.course world shared fates).result with
  | ok value =>
      rw [ended] at firstGood
      exact firstGood _
  | error exn =>
      rw [ended] at firstGood
      exact firstGood

theorem leads_withFinally (body : Gen Call Answer Event Exn α)
    (cleanup : Gen Call Answer Event Exn Unit) (shared : Shared)
    (good : List (Happening Fate Call Event) → Shared → Except Exn α → Prop)
    (leads : Leads world body shared fun log shared result =>
      Leads world cleanup shared fun log' shared' cleaned =>
        good (log ++ log') shared' (cleaned.bind fun _ => result)) :
    Leads world (body.withFinally cleanup) shared good := by
  intro fates
  rw [course_withFinally]
  exact leads fates _

theorem leads_withExcept (body : Gen Call Answer Event Exn α)
    (handler : Exn → Option (Gen Call Answer Event Exn α)) (shared : Shared)
    (good : List (Happening Fate Call Event) → Shared → Except Exn α → Prop)
    (leads : Leads world body shared fun log shared result =>
      match result with
      | .ok value => good log shared (.ok value)
      | .error exn => Leads world ((handler exn).getD (.fail exn)) shared fun log' =>
          good (log ++ log')) :
    Leads world (body.withExcept handler) shared good := by
  intro fates
  have bodyGood := leads fates
  rw [course_withExcept]
  unfold Course.orElse
  cases ended : (body.course world shared fates).result with
  | ok value =>
      rw [ended] at bodyGood
      change good _ _ _
      rwa [ended]
  | error exn =>
      rw [ended] at bodyGood
      exact bodyGood _

/-- The loop rule: each round that ends normally re-establishes the invariant,
each round that raises ends the loop well. -/
theorem leads_forEach {ι : Type} (body : ι → Gen Call Answer Event Exn Unit)
    (good : List (Happening Fate Call Event) → Shared → Except Exn Unit → Prop)
    (inv : List (Happening Fate Call Event) → Shared → Prop)
    (round : ∀ item log shared, inv log shared →
      Leads world (body item) shared fun log' shared' result =>
        match result with
        | .ok _ => inv (log ++ log') shared'
        | .error exn => good (log ++ log') shared' (.error exn))
    (finish : ∀ log shared, inv log shared → good log shared (.ok ()))
    (items : List ι) (before : List (Happening Fate Call Event)) (shared : Shared)
    (initially : inv before shared) :
    Leads world (forEach items body) shared fun log => good (before ++ log) := by
  induction items generalizing before shared with
  | nil =>
      intro fates
      change good (before ++ []) shared (.ok ())
      rw [List.append_nil]
      exact finish before shared initially
  | cons item rest ih =>
      apply leads_bind (body item) (fun _ => forEach rest body)
      intro fates
      have roundGood := round item before shared initially fates
      cases ended : ((body item).course world shared fates).result with
      | ok value =>
          rw [ended] at roundGood
          intro later
          rw [← List.append_assoc]
          exact ih _ _ roundGood later
      | error exn =>
          rw [ended] at roundGood
          exact roundGood

/-! ## Returning -/

section Returning

/-- Whatever the fates, the run ends normally, with what `post` says. -/
def Returns (world : World Shared Fate Call Answer Event Exn)
    (code : Gen Call Answer Event Exn α) (shared : Shared) (post : α → Shared → Prop) : Prop :=
  Leads world code shared fun _ shared' result =>
    ∃ value, result = .ok value ∧ post value shared'

def lastEvent (log : List (Happening Fate Call Event)) : Option Event :=
  (log.filterMap fun
    | .yielded event _ => some event
    | .called _ _ => none).getLast?

/-- The run ends normally and hands out a final event last. -/
def Concludes (world : World Shared Fate Call Answer Event Exn) (final : Event → Prop)
    (code : Gen Call Answer Event Exn α) (shared : Shared) : Prop :=
  Leads world code shared fun log _ result =>
    (∃ value, result = .ok value) ∧ ∃ event, lastEvent log = some event ∧ final event

theorem returns_pure (value : α) (shared : Shared) (post : α → Shared → Prop)
    (holds : post value shared) : Returns world (pure value) shared post :=
  (leads_pure value shared _).mpr ⟨value, rfl, holds⟩

theorem returns_fromExcept (result : Except Exn α) (value : α) (shared : Shared)
    (post : α → Shared → Prop) (fine : result = .ok value) (holds : post value shared) :
    Returns world (fromExcept result) shared post :=
  (leads_fromExcept result shared _).mpr ⟨value, fine, holds⟩

theorem returns_perform (request : Call) (shared : Shared)
    (post : Answer request → Shared → Prop)
    (each : ∀ fate, ∃ value, (world.answer shared fate request).2 = .ok value ∧
      post value (world.answer shared fate request).1) :
    Returns world (perform request) shared post :=
  leads_call request shared _ each

theorem returns_yieldEvent (event : Event) (shared : Shared) (post : Unit → Shared → Prop)
    (each : ∀ fate, (world.consume shared fate event).2 = none ∧
      post () (world.consume shared fate event).1) :
    Returns world (yieldEvent event) shared post := by
  apply leads_event
  intro fate
  rw [(each fate).1]
  exact ⟨(), rfl, (each fate).2⟩

theorem returns_bind (first : Gen Call Answer Event Exn α)
    (next : α → Gen Call Answer Event Exn β) (shared : Shared)
    (between : α → Shared → Prop) (post : β → Shared → Prop)
    (returns : Returns world first shared between)
    (later : ∀ value shared', between value shared' → Returns world (next value) shared' post) :
    Returns world (first >>= next) shared post := by
  apply leads_bind
  refine leads_mono first shared _ _ ?_ returns
  rintro log shared' result ⟨value, rfl, holds⟩
  exact later value shared' holds

theorem returns_withFinally (body : Gen Call Answer Event Exn α)
    (cleanup : Gen Call Answer Event Exn Unit) (shared : Shared)
    (between post : α → Shared → Prop) (returns : Returns world body shared between)
    (cleans : ∀ value shared', between value shared' →
      Returns world cleanup shared' fun _ => post value) :
    Returns world (body.withFinally cleanup) shared post := by
  apply leads_withFinally
  refine leads_mono body shared _ _ ?_ returns
  rintro log shared' result ⟨value, rfl, holds⟩
  refine leads_mono cleanup shared' _ _ ?_ (cleans value shared' holds)
  rintro log' shared'' cleaned ⟨_, rfl, done⟩
  exact ⟨value, rfl, done⟩

theorem concludes_yieldEvent (final : Event → Prop) (event : Event) (shared : Shared)
    (isFinal : final event) (taken : ∀ fate, (world.consume shared fate event).2 = none) :
    Concludes world final (yieldEvent event) shared := by
  apply leads_event
  intro fate
  rw [taken fate]
  exact ⟨⟨(), rfl⟩, event, rfl, isFinal⟩

theorem lastEvent_append (log log' : List (Happening Fate Call Event)) (event : Event)
    (last : lastEvent log' = some event) : lastEvent (log ++ log') = some event := by
  unfold lastEvent at last ⊢
  rw [List.filterMap_append, List.getLast?_append, last]
  rfl

theorem concludes_bind (final : Event → Prop) (first : Gen Call Answer Event Exn α)
    (next : α → Gen Call Answer Event Exn β) (shared : Shared) (between : α → Shared → Prop)
    (returns : Returns world first shared between)
    (later : ∀ value shared', between value shared' →
      Concludes world final (next value) shared') :
    Concludes world final (first >>= next) shared := by
  apply leads_bind
  refine leads_mono first shared _ _ ?_ returns
  rintro log shared' result ⟨value, rfl, holds⟩
  refine leads_mono (next value) shared' _ _ ?_ (later value shared' holds)
  rintro log' _ _ ⟨ended, event, last, isFinal⟩
  exact ⟨ended, event, lastEvent_append log log' event last, isFinal⟩

/-- A world that answers every call and takes every event. -/
def reliable (usual : Fate)
    (serve : Shared → Fate → (request : Call) → Shared × Answer request) :
    World Shared Fate Call Answer Event Exn where
  usual := usual
  answer shared fate request :=
    ((serve shared fate request).1, .ok (serve shared fate request).2)
  consume shared _ _ := (shared, none)

section Reliable

variable (usual : Fate) (serve : Shared → Fate → (request : Call) → Shared × Answer request)

theorem returns_ask (request : Call) (shared : Shared) (post : Answer request → Shared → Prop)
    (each : ∀ fate, post (serve shared fate request).2 (serve shared fate request).1) :
    Returns (reliable usual serve : World Shared Fate Call Answer Event Exn)
      (perform request) shared post :=
  returns_perform request shared post fun fate => ⟨_, rfl, each fate⟩

theorem returns_hand (event : Event) (shared : Shared) (post : Unit → Shared → Prop)
    (holds : post () shared) :
    Returns (reliable usual serve : World Shared Fate Call Answer Event Exn)
      (yieldEvent event) shared post :=
  returns_yieldEvent event shared post fun _ => ⟨rfl, holds⟩

theorem concludes_hand (final : Event → Prop) (event : Event) (shared : Shared)
    (isFinal : final event) :
    Concludes (reliable usual serve : World Shared Fate Call Answer Event Exn) final
      (yieldEvent event) shared :=
  concludes_yieldEvent final event shared isFinal fun _ => rfl

/-! What follows a call, or an event that nobody minds. -/

theorem returns_after_ask (request : Call) (next : Answer request → Gen Call Answer Event Exn α)
    (shared : Shared) (post : α → Shared → Prop)
    (later : ∀ fate, Returns (reliable usual serve) (next (serve shared fate request).2)
      (serve shared fate request).1 post) :
    Returns (reliable usual serve : World Shared Fate Call Answer Event Exn)
      (perform request >>= next) shared post := by
  refine returns_bind _ next shared
    (fun answer shared' => ∃ fate, serve shared fate request = (shared', answer)) post
    (returns_ask usual serve request shared _ fun fate => ⟨fate, rfl⟩) ?_
  rintro answer shared' ⟨fate, served⟩
  have goes := later fate
  rwa [served] at goes

theorem returns_after_hand (event : Event) (next : Unit → Gen Call Answer Event Exn α)
    (shared : Shared) (post : α → Shared → Prop)
    (later : Returns (reliable usual serve) (next ()) shared post) :
    Returns (reliable usual serve : World Shared Fate Call Answer Event Exn)
      (yieldEvent event >>= next) shared post := by
  refine returns_bind _ next shared (fun _ shared' => shared' = shared) post
    (returns_hand usual serve event shared _ rfl) ?_
  rintro _ _ rfl
  exact later

theorem returns_after_ok (result : Except Exn α) (value : α)
    (next : α → Gen Call Answer Event Exn β) (shared : Shared) (post : β → Shared → Prop)
    (fine : result = .ok value) (later : Returns world (next value) shared post) :
    Returns world (fromExcept result >>= next) shared post := by
  rw [fine]
  exact later

theorem concludes_after_ask (final : Event → Prop) (request : Call)
    (next : Answer request → Gen Call Answer Event Exn α) (shared : Shared)
    (later : ∀ fate, Concludes (reliable usual serve) final (next (serve shared fate request).2)
      (serve shared fate request).1) :
    Concludes (reliable usual serve : World Shared Fate Call Answer Event Exn) final
      (perform request >>= next) shared := by
  refine concludes_bind final _ next shared
    (fun answer shared' => ∃ fate, serve shared fate request = (shared', answer))
    (returns_ask usual serve request shared _ fun fate => ⟨fate, rfl⟩) ?_
  rintro answer shared' ⟨fate, served⟩
  have goes := later fate
  rwa [served] at goes

theorem concludes_after_hand (final : Event → Prop) (event : Event)
    (next : Unit → Gen Call Answer Event Exn α) (shared : Shared)
    (later : Concludes (reliable usual serve) final (next ()) shared) :
    Concludes (reliable usual serve : World Shared Fate Call Answer Event Exn) final
      (yieldEvent event >>= next) shared := by
  refine concludes_bind final _ next shared (fun _ shared' => shared' = shared)
    (returns_hand usual serve event shared _ rfl) ?_
  rintro _ _ rfl
  exact later

theorem concludes_after_ok (final : Event → Prop) (result : Except Exn α) (value : α)
    (next : α → Gen Call Answer Event Exn β) (shared : Shared) (fine : result = .ok value)
    (later : Concludes world final (next value) shared) :
    Concludes world final (fromExcept result >>= next) shared := by
  rw [fine]
  exact later

end Reliable

end Returning

end Gen

/-! ## Unreliable worlds -/

/-- How one point goes: as it should, or with an exception raised before or
after the effect. -/
inductive Luck (Exn : Type) where
  | fine
  | before (exn : Exn)
  | after (exn : Exn)
  deriving DecidableEq

def Luck.raised : Luck Exn → Option Exn
  | .fine => none
  | .before exn => some exn
  | .after exn => some exn

/-- A value, unless there is something to raise. -/
def Luck.guard (luck : Luck Exn) (value : α) : Except Exn α :=
  match luck.raised with
  | none => .ok value
  | some exn => .error exn

/-- What becomes of a call that was going to be served so. -/
def Luck.apply (luck : Luck Exn) (shared : Shared) (served : Shared × Except Exn α) :
    Shared × Except Exn α :=
  match luck with
  | .fine => served
  | .before exn => (shared, .error exn)
  | .after exn => (served.1, .error exn)

/-- A world whose calls do what `serve` says unless they raise. -/
def unreliable (serve : Shared → (request : Call) → Shared × Except Exn (Answer request)) :
    World Shared (Luck Exn) Call Answer Event Exn where
  usual := .fine
  answer shared luck request := luck.apply shared (serve shared request)
  consume shared luck _ := (shared, luck.raised)

namespace Gen

variable (serve : Shared → (request : Call) → Shared × Except Exn (Answer request))

theorem leads_perform (request : Call) (shared : Shared)
    (good : List (Happening (Luck Exn) Call Event) → Shared →
      Except Exn (Answer request) → Prop)
    (fine : good [.called request .fine] (serve shared request).1 (serve shared request).2)
    (before : ∀ exn, good [.called request (.before exn)] shared (.error exn))
    (after : ∀ exn, good [.called request (.after exn)] (serve shared request).1 (.error exn)) :
    Leads (unreliable serve) (perform request) shared good := by
  apply leads_call
  intro fate
  cases fate with
  | fine => exact fine
  | before exn => exact before exn
  | after exn => exact after exn

theorem leads_yieldEvent (event : Event) (shared : Shared)
    (good : List (Happening (Luck Exn) Call Event) → Shared → Except Exn Unit → Prop)
    (fine : good [.yielded event .fine] shared (.ok ()))
    (thrown : ∀ luck exn, luck.raised = some exn →
      good [.yielded event luck] shared (.error exn)) :
    Leads (unreliable serve) (yieldEvent event) shared good := by
  apply leads_event
  intro fate
  cases fate with
  | fine => exact fine
  | before exn => exact thrown (.before exn) exn rfl
  | after exn => exact thrown (.after exn) exn rfl

end Gen

end Generators

import KernelSprint.Backend.NetworkDelay

/-!
# Network delay injections that overlap

Any number of runs of `network_delay` over the one eth0, each exec and each
sleep one atomic step.  Nothing locks the interface: a run owns the qdisc
because its own add succeeded, and only such a run deletes it.
-/

set_option autoImplicit false

namespace KernelSprint.NetworkSharing

open Labelled Interleaving Generators Generators.Gen PyText NetworkDelay
open Docker (CompletedProcess)

abbrev Run := Suspended Call Call.Answer Event PyExn Unit

/-- One run for each pair of parameters, on the worker thread of its socket. -/
def injections (tc : Tc) : Program Qdisc Run (Param × Param) :=
  program (fun params => networkDelay params.1 params.2) tc.answer

def nextCall (run : Run) : Option Call :=
  match run.rest with
  | .call request _ => some request
  | _ => none

/-- The delay that a run with these parameters passes to `tc`. -/
def ownDelay (params : Param × Param) : Option String :=
  match clamp 2000 params.1 with
  | .ok delayMs => some (delayText delayMs)
  | .error _ => none

/-- The run is between its add and its del. -/
def between (run : Run) : Bool :=
  match nextCall run with
  | some (.sleep _) => true
  | some .qdiscDel => true
  | _ => false

/-! ## The course of a run -/

def removeAndReport (delayMs durationSec : Scalar) (body : Injection Unit) : Injection Unit := do
  withFinally body do
    let _ ← exec .qdiscDel
  yieldEvent (appliedEvent delayMs durationSec)

def addFirst (delayMs durationSec : Scalar) : Injection Unit := do
  let add ← exec (.qdiscAdd (delayText delayMs))
  if add.returncode ≠ 0 then
    yieldEvent (refusedEvent add)
  else
    removeAndReport delayMs durationSec (exec (.sleep durationSec))

def adding (delayMs durationSec : Scalar) : Run :=
  settle (addFirst delayMs durationSec) [.start delayMs durationSec]

def sleeping (delayMs durationSec : Scalar) : Run :=
  settle (removeAndReport delayMs durationSec (exec (.sleep durationSec)))
    [.start delayMs durationSec]

def removing (delayMs durationSec : Scalar) : Run :=
  settle (removeAndReport delayMs durationSec (pure ())) [.start delayMs durationSec]

def applied (delayMs durationSec : Scalar) : Run :=
  ⟨[.start delayMs durationSec, appliedEvent delayMs durationSec], .done ()⟩

def refused (delayMs durationSec : Scalar) (add : CompletedProcess) : Run :=
  ⟨[.start delayMs durationSec, refusedEvent add], .done ()⟩

/-- The parameters do not compare with numbers. -/
def rejected (exn : PyExn) : Run := ⟨[], .fail exn⟩

@[simp] theorem between_adding (delayMs durationSec : Scalar) :
    between (adding delayMs durationSec) = false := rfl

@[simp] theorem between_sleeping (delayMs durationSec : Scalar) :
    between (sleeping delayMs durationSec) = true := rfl

@[simp] theorem between_removing (delayMs durationSec : Scalar) :
    between (removing delayMs durationSec) = true := rfl

@[simp] theorem between_applied (delayMs durationSec : Scalar) :
    between (applied delayMs durationSec) = false := rfl

@[simp] theorem between_refused (delayMs durationSec : Scalar) (add : CompletedProcess) :
    between (refused delayMs durationSec add) = false := rfl

/-- The states that a run with these parameters goes through. -/
inductive Shape (params : Param × Param) : Run → Prop
  | adding (delayMs durationSec : Scalar)
      (own : ownDelay params = some (delayText delayMs)) :
      Shape params (adding delayMs durationSec)
  | sleeping (delayMs durationSec : Scalar)
      (own : ownDelay params = some (delayText delayMs)) :
      Shape params (sleeping delayMs durationSec)
  | removing (delayMs durationSec : Scalar)
      (own : ownDelay params = some (delayText delayMs)) :
      Shape params (removing delayMs durationSec)
  | applied (delayMs durationSec : Scalar)
      (own : ownDelay params = some (delayText delayMs)) :
      Shape params (applied delayMs durationSec)
  | refused (delayMs durationSec : Scalar) (add : CompletedProcess) :
      Shape params (refused delayMs durationSec add)
  | rejected (exn : PyExn) : Shape params (rejected exn)

section Steps

variable (tc : Tc)

theorem start_shape (params : Param × Param) :
    Shape params ((injections tc).start params) ∧
      between ((injections tc).start params) = false := by
  change Shape params (settle (networkDelay params.1 params.2) []) ∧
    between (settle (networkDelay params.1 params.2) []) = false
  unfold networkDelay
  cases clamped : clamp 2000 params.1 with
  | error exn => exact ⟨.rejected exn, rfl⟩
  | ok delayMs =>
      cases clamp maxDurationSec params.2 with
      | error exn => exact ⟨.rejected exn, rfl⟩
      | ok durationSec =>
          exact ⟨.adding delayMs durationSec (by simp only [ownDelay, clamped]), rfl⟩

theorem step_adding (qdisc : Qdisc) (delayMs durationSec : Scalar) :
    (injections tc).step qdisc (adding delayMs durationSec) =
      some (match qdisc with
        | none => (some (delayText delayMs), sleeping delayMs durationSec)
        | some held => (some held, refused delayMs durationSec tc.refusal)) := by
  cases qdisc with
  | none => rfl
  | some held =>
      change some (some held, settle (if tc.refusal.returncode ≠ 0 then _ else _) _) = _
      rw [if_pos tc.refuses]
      rfl

theorem step_sleeping (qdisc : Qdisc) (delayMs durationSec : Scalar) :
    (injections tc).step qdisc (sleeping delayMs durationSec) =
      some (qdisc, removing delayMs durationSec) := rfl

theorem step_removing (qdisc : Qdisc) (delayMs durationSec : Scalar) :
    (injections tc).step qdisc (removing delayMs durationSec) =
      some (none, applied delayMs durationSec) := by
  cases qdisc <;> rfl

/-- Everything that one step of a run can do. -/
theorem step_cases (params : Param × Param) (qdisc qdisc' : Qdisc) (run run' : Run)
    (shape : Shape params run)
    (stepped : (injections tc).step qdisc run = some (qdisc', run')) :
    ∃ delayMs durationSec, ownDelay params = some (delayText delayMs) ∧
      ((run = adding delayMs durationSec ∧ qdisc = none ∧
          qdisc' = some (delayText delayMs) ∧ run' = sleeping delayMs durationSec) ∨
        (run = adding delayMs durationSec ∧ qdisc.isSome ∧ qdisc' = qdisc ∧
          run' = refused delayMs durationSec tc.refusal) ∨
        (run = sleeping delayMs durationSec ∧ qdisc' = qdisc ∧
          run' = removing delayMs durationSec) ∨
        (run = removing delayMs durationSec ∧ qdisc' = none ∧
          run' = applied delayMs durationSec)) := by
  cases shape with
  | adding delayMs durationSec own =>
      refine ⟨delayMs, durationSec, own, ?_⟩
      rw [step_adding] at stepped
      cases qdisc with
      | none =>
          cases stepped
          exact Or.inl ⟨rfl, rfl, rfl, rfl⟩
      | some held =>
          cases stepped
          exact Or.inr (Or.inl ⟨rfl, rfl, rfl, rfl⟩)
  | sleeping delayMs durationSec own =>
      rw [step_sleeping] at stepped
      cases stepped
      exact ⟨delayMs, durationSec, own, Or.inr (Or.inr (Or.inl ⟨rfl, rfl, rfl⟩))⟩
  | removing delayMs durationSec own =>
      rw [step_removing] at stepped
      cases stepped
      exact ⟨delayMs, durationSec, own, Or.inr (Or.inr (Or.inr ⟨rfl, rfl, rfl⟩))⟩
  | applied delayMs durationSec own => cases stepped
  | refused delayMs durationSec add => cases stepped
  | rejected exn => cases stepped

end Steps

/-! ## Ownership -/

/-- The pool after the choices: a run between its add and its del owns the
qdisc, and nobody else put it there. -/
structure Owned (choices : List (Choice (Param × Param))) (pool : Pool Qdisc Run) : Prop where
  shapes : List.Forall₂ (fun run params => Shape params run) pool.threads (spawned choices)
  count : pool.threads.countP between = if pool.shared.isSome then 1 else 0
  own : ∀ (index : Nat) (run : Run) (params : Param × Param), pool.threads[index]? = some run →
    (spawned choices)[index]? = some params → between run → pool.shared = ownDelay params

theorem countP_set_between (runs : List Run) (index : Nat) (run run' : Run)
    (found : runs[index]? = some run) :
    (runs.set index run').countP between + (if between run then 1 else 0) =
      runs.countP between + (if between run' then 1 else 0) := by
  obtain ⟨inside, here⟩ := List.getElem?_eq_some_iff.mp found
  have member : run ∈ runs := List.mem_of_getElem? found
  rw [List.countP_set inside, here]
  cases holds : between run with
  | false => simp
  | true =>
      have positive : 0 < runs.countP between := List.countP_pos_iff.mpr ⟨run, member, holds⟩
      simp only [↓reduceIte]
      omega

theorem owned_spawn (tc : Tc) (choices : List (Choice (Param × Param)))
    (pool : Pool Qdisc Run) (params : Param × Param) (owned : Owned choices pool) :
    Owned (choices ++ [.spawn params])
      { pool with threads := pool.threads ++ [(injections tc).start params] } := by
  obtain ⟨shape, outside⟩ := start_shape tc params
  have grown : spawned (choices ++ [.spawn params]) = spawned choices ++ [params] :=
    spawned_append choices _
  have paired := owned.shapes.length_eq
  refine ⟨?_, ?_, ?_⟩
  · rw [grown]
    exact List.rel_append owned.shapes (List.Forall₂.cons shape List.Forall₂.nil)
  · simp [outside, owned.count]
  · intro index run params' found told holds
    rw [grown] at told
    by_cases old : index < pool.threads.length
    · rw [List.getElem?_append_left old] at found
      rw [List.getElem?_append_left (paired ▸ old)] at told
      exact owned.own index run params' found told holds
    · have inside := (List.getElem?_eq_some_iff.mp found).1
      simp only [List.length_append, List.length_singleton] at inside
      have last : index = pool.threads.length := by omega
      rw [last, List.getElem?_concat_length] at found
      cases found
      rw [outside] at holds
      cases holds

/-- The run at `index`, with its parameters. -/
theorem shape_at (choices : List (Choice (Param × Param))) (pool : Pool Qdisc Run)
    (index : Nat) (run : Run) (owned : Owned choices pool)
    (found : pool.threads[index]? = some run) :
    ∃ params, (spawned choices)[index]? = some params ∧ Shape params run :=
  forall₂_getElem? owned.shapes index run found

theorem shapes_set (runs : List Run) (params : List (Param × Param)) (index : Nat) (run' : Run)
    (own : Param × Param) (told : params[index]? = some own)
    (shapes : List.Forall₂ (fun run params => Shape params run) runs params)
    (shape' : Shape own run') :
    List.Forall₂ (fun run params => Shape params run) (runs.set index run') params := by
  have set := forall₂_set shapes index run' own shape'
  obtain ⟨inside, rfl⟩ := List.getElem?_eq_some_iff.mp told
  rwa [List.set_getElem_self] at set

/-- A step keeps the ownership when the run that took it has its own delay
installed while it needs it, and leaves the qdisc alone while others do. -/
theorem owned_set (choices : List (Choice (Param × Param))) (pool : Pool Qdisc Run)
    (index : Nat) (run run' : Run) (qdisc' : Qdisc) (params : Param × Param)
    (owned : Owned choices pool) (found : pool.threads[index]? = some run)
    (told : (spawned choices)[index]? = some params) (shape' : Shape params run')
    (count' : (pool.threads.set index run').countP between = if qdisc'.isSome then 1 else 0)
    (own' : between run' → qdisc' = ownDelay params)
    (others : qdisc' = pool.shared ∨ ∀ (i : Nat) (other : Run), i ≠ index →
      pool.threads[i]? = some other → ¬ between other) :
    Owned (choices ++ [.run index]) ⟨qdisc', pool.threads.set index run'⟩ := by
  have kept : spawned (choices ++ [.run index]) = spawned choices := by
    rw [spawned_append]
    exact List.append_nil _
  refine ⟨?_, count', ?_⟩
  · rw [kept]
    exact shapes_set _ _ index _ params told owned.shapes shape'
  · rw [kept]
    intro i other params' hit told' holds
    rcases getElem?_set_cases _ _ _ _ _ hit with ⟨rfl, rfl⟩ | ⟨apart, before⟩
    · cases Option.some.inj (told.symm.trans told')
      exact own' holds
    · rcases others with same | none
      · exact same.trans (owned.own i other params' before told' holds)
      · exact absurd holds (none i other apart before)

theorem owned_run (tc : Tc) (choices : List (Choice (Param × Param))) (pool : Pool Qdisc Run)
    (index : Nat) (run run' : Run) (qdisc' : Qdisc) (owned : Owned choices pool)
    (found : pool.threads[index]? = some run)
    (stepped : (injections tc).step pool.shared run = some (qdisc', run')) :
    Owned (choices ++ [.run index]) ⟨qdisc', pool.threads.set index run'⟩ := by
  obtain ⟨params, told, shape⟩ := shape_at choices pool index run owned found
  have counts := countP_set_between pool.threads index run run' found
  have idle : ∀ runs : List Run, runs.countP between = 0 → ∀ (i : Nat) (other : Run),
      runs[i]? = some other → ¬ between other := by
    intro runs none i other hit
    exact List.countP_eq_zero.mp none other (List.mem_of_getElem? hit)
  rw [owned.count] at counts
  obtain ⟨delayMs, durationSec, own, step⟩ :=
    step_cases tc params pool.shared qdisc' run run' shape stepped
  rcases step with ⟨rfl, free, rfl, rfl⟩ | ⟨rfl, taken, rfl, rfl⟩ | ⟨rfl, rfl, rfl⟩ |
    ⟨rfl, rfl, rfl⟩
  · -- a successful add finds no run between its add and its del
    have none : pool.threads.countP between = 0 := by simp [owned.count, free]
    refine owned_set choices pool index _ _ _ params owned found told (.sleeping _ _ own)
      ?_ (fun _ => own.symm) (Or.inr fun i other _ hit => idle _ none i other hit)
    simpa [free] using counts
  · refine owned_set choices pool index _ _ _ params owned found told (.refused _ _ _)
      ?_ (fun holds => by cases holds) (Or.inl rfl)
    simpa using counts
  · refine owned_set choices pool index _ _ _ params owned found told (.removing _ _ own)
      ?_ (fun _ => owned.own index _ params found told rfl) (Or.inl rfl)
    simpa using counts
  · have none : (pool.threads.set index (applied delayMs durationSec)).countP between = 0 := by
      have held : pool.shared = ownDelay params := owned.own index _ params found told rfl
      simpa [held, own] using counts
    refine owned_set choices pool index _ _ _ params owned found told (.applied _ _ own)
      none (fun holds => by cases holds) (Or.inr ?_)
    intro i other apart hit
    refine idle _ none i other ?_
    rwa [List.getElem?_set_ne (Ne.symm apart)]

/-- The call that the run at `index` makes next. -/
def nextAt (pool : Pool Qdisc Run) (index : Nat) : Option Call :=
  pool.threads[index]?.bind nextCall

/-! ## What a run that reports success has gone through -/

section Histories

variable (tc : Tc)

/-- The run at `index` has added its delay to a free interface, and the delay
has been in force ever since. -/
def Holding (choices : List (Choice (Param × Param))) (index : Nat) (delay : String) : Prop :=
  ∃ opening during idle up,
    choices = opening ++ .run index :: during ∧
    (injections tc).machine.exec opening (Pool.start none) = some idle ∧
    idle.shared = none ∧ nextAt idle index = some (.qdiscAdd delay) ∧
    (injections tc).machine.step idle (.run index) = some up ∧
    (∃ duration, nextAt up index = some (.sleep duration)) ∧
    (injections tc).machine.Throughout (fun pool => pool.shared = some delay) during up

/-- The run at `index` has added its delay to a free interface, slept and
deleted it, and the delay was in force from the add until the del. -/
def Served (choices : List (Choice (Param × Param))) (index : Nat) (delay : String) : Prop :=
  ∃ before closing down,
    choices = before ++ .run index :: closing ∧
    (injections tc).machine.exec before (Pool.start none) = some down ∧
    nextAt down index = some .qdiscDel ∧ Holding tc before index delay

/-- What is known of the pool and of the steps that led to it. -/
structure History (choices : List (Choice (Param × Param))) (pool : Pool Qdisc Run) : Prop where
  owned : Owned choices pool
  holding : ∀ (index : Nat) (run : Run) (delay : String), pool.threads[index]? = some run →
    between run → pool.shared = some delay → Holding tc choices index delay
  served : ∀ (index : Nat) (delayMs durationSec : Scalar),
    pool.threads[index]? = some (applied delayMs durationSec) →
      Served tc choices index (delayText delayMs)

variable {tc}

theorem holding_concat (choices : List (Choice (Param × Param))) (pool next : Pool Qdisc Run)
    (choice : Choice (Param × Param)) (index : Nat) (delay : String)
    (reached : (injections tc).machine.exec choices (Pool.start none) = some pool)
    (holding : Holding tc choices index delay)
    (stepped : (injections tc).machine.step pool choice = some next)
    (kept : next.shared = some delay) : Holding tc (choices ++ [choice]) index delay := by
  obtain ⟨opening, during, idle, up, rfl, toIdle, free, adds, toUp, sleeps, inForce⟩ := holding
  rw [Machine.exec_append, toIdle] at reached
  obtain ⟨up', toUp', toPool⟩ := (Machine.exec_cons ..).mp reached
  cases Option.some.inj (toUp.symm.trans toUp')
  refine ⟨opening, during ++ [choice], idle, up, by simp, toIdle, free, adds, toUp, sleeps, ?_⟩
  exact Machine.throughout_concat _ _ during choice up pool next toPool inForce stepped kept

theorem served_concat (choices : List (Choice (Param × Param)))
    (choice : Choice (Param × Param)) (index : Nat) (delay : String)
    (served : Served tc choices index delay) : Served tc (choices ++ [choice]) index delay := by
  obtain ⟨before, closing, down, rfl, reached, removes, holding⟩ := served
  exact ⟨before, closing ++ [choice], down, by simp, reached, removes, holding⟩

theorem applied_inj (delayMs durationSec delayMs' durationSec' : Scalar)
    (same : applied delayMs durationSec = applied delayMs' durationSec') :
    delayMs = delayMs' := by
  have heads := congrArg (fun run : Run => run.events.head?) same
  simp only [applied, List.head?_cons, Option.some.injEq, Event.start.injEq] at heads
  exact heads.1

theorem start_not_applied (params : Param × Param) (delayMs durationSec : Scalar) :
    (injections tc).start params ≠ applied delayMs durationSec := by
  intro same
  have events : ((injections tc).start params).events.length = 2 := by rw [same]; rfl
  change (settle (networkDelay params.1 params.2) []).events.length = 2 at events
  unfold networkDelay at events
  revert events
  cases clamp 2000 params.1 with
  | error exn => exact fun events => by cases events
  | ok delayMs =>
      cases clamp maxDurationSec params.2 with
      | error exn => exact fun events => by cases events
      | ok durationSec => exact fun events => by cases events

theorem history_spawn (choices : List (Choice (Param × Param))) (pool : Pool Qdisc Run)
    (params : Param × Param) (history : History tc choices pool)
    (reached : (injections tc).machine.exec choices (Pool.start none) = some pool) :
    History tc (choices ++ [.spawn params])
      { pool with threads := pool.threads ++ [(injections tc).start params] } := by
  have old : ∀ (index : Nat) (run : Run),
      (pool.threads ++ [(injections tc).start params])[index]? = some run →
        pool.threads[index]? = some run ∨ run = (injections tc).start params := by
    intro index run found
    rcases Nat.lt_or_ge index pool.threads.length with inside | outside
    · rw [List.getElem?_append_left inside] at found
      exact Or.inl found
    · rw [List.getElem?_append_right outside] at found
      exact Or.inr (List.mem_singleton.mp (List.mem_of_getElem? found))
  refine ⟨owned_spawn tc choices pool params history.owned, ?_, ?_⟩
  · intro index run delay found holds held
    rcases old index run found with before | rfl
    · exact holding_concat choices pool _ _ index delay reached
        (history.holding index run delay before holds held) rfl held
    · rw [(start_shape tc params).2] at holds
      cases holds
  · intro index delayMs durationSec found
    rcases old index _ found with before | same
    · exact served_concat choices _ index _ (history.served index delayMs durationSec before)
    · exact absurd same.symm (start_not_applied params delayMs durationSec)

theorem history_run (choices : List (Choice (Param × Param))) (pool : Pool Qdisc Run)
    (index : Nat) (run run' : Run) (qdisc' : Qdisc) (history : History tc choices pool)
    (reached : (injections tc).machine.exec choices (Pool.start none) = some pool)
    (found : pool.threads[index]? = some run)
    (ran : (injections tc).step pool.shared run = some (qdisc', run')) :
    History tc (choices ++ [.run index]) ⟨qdisc', pool.threads.set index run'⟩ := by
  have owned' := owned_run tc choices pool index run run' qdisc' history.owned found ran
  have stepped : (injections tc).machine.step pool (.run index) =
      some ⟨qdisc', pool.threads.set index run'⟩ :=
    ((injections tc).step_run_iff ..).mpr ⟨run, qdisc', run', found, ran, rfl⟩
  have inside : index < pool.threads.length := (List.getElem?_eq_some_iff.mp found).1
  obtain ⟨params, told, shape⟩ := shape_at choices pool index run history.owned found
  obtain ⟨delayMs, durationSec, own, step⟩ :=
    step_cases tc params pool.shared qdisc' run run' shape ran
  refine ⟨owned', ?_, ?_⟩
  · intro i other delay hit holds held
    have grown := fun holding => holding_concat choices pool _ (.run index) i delay reached
      holding stepped held
    rcases getElem?_set_cases _ _ _ _ _ hit with ⟨rfl, rfl⟩ | ⟨apart, before⟩
    · rcases step with ⟨rfl, free, rfl, rfl⟩ | ⟨_, _, _, rfl⟩ | ⟨rfl, rfl, rfl⟩ | ⟨_, _, rfl⟩
      · cases held
        refine ⟨choices, [], pool, _, rfl, reached, free, ?_, stepped, ⟨durationSec, ?_⟩, rfl⟩
        · simp only [nextAt, found]
          rfl
        · simp only [nextAt, List.getElem?_set_self inside]
          rfl
      · cases holds
      · exact grown (history.holding i _ delay found rfl held)
      · cases holds
    · obtain ⟨others, toldOther, _⟩ := shape_at choices pool i other history.owned before
      have toldOther' : (spawned (choices ++ [Choice.run index]))[i]? = some others := by
        rw [spawned_append]
        exact (congrArg (·[i]?) (List.append_nil _)).trans toldOther
      have now := owned'.own i other others hit toldOther' holds
      have earlier := history.owned.own i other others before toldOther holds
      have same : pool.shared = some delay := earlier.trans (now.symm.trans held)
      exact grown (history.holding i other delay before holds same)
  · intro i delayMs' durationSec' hit
    rcases getElem?_set_cases _ _ _ _ _ hit with ⟨rfl, same⟩ | ⟨apart, before⟩
    · rcases step with ⟨_, _, _, rfl⟩ | ⟨_, _, _, rfl⟩ | ⟨_, _, rfl⟩ | ⟨rfl, rfl, rfl⟩
      · cases congrArg (fun run : Run => run.events.length) same
      · have differ := congrArg (fun run : Run => run.events.getLast?) same
        simp [applied, refused, refusedEvent, appliedEvent] at differ
      · cases congrArg (fun run : Run => run.events.length) same
      · cases applied_inj _ _ _ _ same
        have held := (history.owned.own i _ params found told rfl).trans own
        refine ⟨choices, [], pool, rfl, reached, ?_, history.holding i _ _ found rfl held⟩
        simp only [nextAt, found]
        rfl
    · exact served_concat choices _ i _ (history.served i _ _ before)

theorem history_step (choices : List (Choice (Param × Param))) (pool next : Pool Qdisc Run)
    (choice : Choice (Param × Param))
    (reached : (injections tc).machine.exec choices (Pool.start none) = some pool)
    (history : History tc choices pool)
    (stepped : (injections tc).machine.step pool choice = some next) :
    History tc (choices ++ [choice]) next := by
  cases choice with
  | spawn params =>
      rw [Program.step_spawn_iff] at stepped
      subst stepped
      exact history_spawn choices pool params history reached
  | run index =>
      obtain ⟨run, qdisc', run', found, ran, rfl⟩ :=
        ((injections tc).step_run_iff ..).mp stepped
      exact history_run choices pool index run run' qdisc' history reached found ran

theorem history_start : History tc [] (Pool.start none) where
  owned := ⟨List.Forall₂.nil, rfl, fun _ _ _ found => by cases found⟩
  holding _ _ _ found := by cases found
  served _ _ _ found := by cases found

theorem history_reached (choices : List (Choice (Param × Param))) (pool : Pool Qdisc Run)
    (reached : (injections tc).machine.exec choices (Pool.start none) = some pool) :
    History tc choices pool :=
  (injections tc).machine.history (History tc) (Pool.start none) history_start
    (fun choices pool choice next => history_step choices pool next choice) choices pool reached

end Histories

/-! ## Exclusive and self-cleaning -/

def reportsSuccess (run : Run) : Prop :=
  ∃ message recommendation, Event.result true message recommendation ∈ run.events

/-- The step is an add on an interface that is taken. -/
def AddRefused (pool : Pool Qdisc Run) (choice : Choice (Param × Param)) : Prop :=
  pool.shared.isSome ∧
    ∃ run ∈ pool.acting choice, ∃ delay, nextCall run = some (.qdiscAdd delay)

/-- It changes nothing, and the run that took it has come to its end. -/
def Harmless (pool : Pool Qdisc Run) (choice : Choice (Param × Param))
    (next : Pool Qdisc Run) : Prop :=
  next.shared = pool.shared ∧ ∃ run ∈ next.acting choice, run.Ended ∧ ¬ reportsSuccess run

structure Exclusive (tc : Tc) (choices : List (Choice (Param × Param)))
    (pool : Pool Qdisc Run) : Prop where
  presentIff : pool.shared.isSome ↔ pool.threads.countP between = 1
  carriesOwn : ∀ (index : Nat) (run : Run), pool.threads[index]? = some run → between run →
    ∃ params delayMs, (spawned choices)[index]? = some params ∧
      clamp 2000 params.1 = .ok delayMs ∧ pool.shared = some (delayText delayMs) ∧
      Holding tc choices index (delayText delayMs)
  successServed : ∀ (index : Nat) (run : Run), pool.threads[index]? = some run →
    reportsSuccess run →
    ∃ params delayMs, (spawned choices)[index]? = some params ∧
      clamp 2000 params.1 = .ok delayMs ∧ Served tc choices index (delayText delayMs)
  refusedHarmless : (injections tc).machine.Along
    (fun pool choice next => AddRefused pool choice → Harmless pool choice next) choices
    (Pool.start none)
  cleanAtEnd : (∀ run ∈ pool.threads, run.Ended) → pool.shared = none

theorem clamped_of_own (params : Param × Param) (delay : String)
    (own : ownDelay params = some delay) :
    ∃ delayMs, clamp 2000 params.1 = .ok delayMs ∧ delay = delayText delayMs := by
  unfold ownDelay at own
  cases clamped : clamp 2000 params.1 with
  | ok delayMs =>
      rw [clamped] at own
      exact ⟨delayMs, rfl, (Option.some.inj own).symm⟩
  | error exn =>
      rw [clamped] at own
      cases own

theorem own_of_between (params : Param × Param) (run : Run) (shape : Shape params run)
    (holds : between run) : ∃ delay, ownDelay params = some delay := by
  cases shape with
  | sleeping delayMs durationSec own => exact ⟨_, own⟩
  | removing delayMs durationSec own => exact ⟨_, own⟩
  | adding delayMs durationSec own => cases holds
  | applied delayMs durationSec own => cases holds
  | refused delayMs durationSec add => cases holds
  | rejected exn => cases holds

theorem applied_of_success (params : Param × Param) (run : Run) (shape : Shape params run)
    (success : reportsSuccess run) :
    ∃ delayMs durationSec, ownDelay params = some (delayText delayMs) ∧
      run = applied delayMs durationSec := by
  obtain ⟨message, recommendation, member⟩ := success
  have unreported : ∀ delayMs durationSec,
      Event.result true message recommendation ∉ [Event.start delayMs durationSec] := by
    simp
  cases shape with
  | applied delayMs durationSec own => exact ⟨delayMs, durationSec, own, rfl⟩
  | adding delayMs durationSec own => exact absurd member (unreported _ _)
  | sleeping delayMs durationSec own => exact absurd member (unreported _ _)
  | removing delayMs durationSec own => exact absurd member (unreported _ _)
  | refused delayMs durationSec add => simp [refused, refusedEvent] at member
  | rejected exn => cases member

theorem refused_harmless (tc : Tc) (choices : List (Choice (Param × Param)))
    (pool next : Pool Qdisc Run) (choice : Choice (Param × Param))
    (reached : (injections tc).machine.exec choices (Pool.start none) = some pool)
    (stepped : (injections tc).machine.step pool choice = some next)
    (refusal : AddRefused pool choice) : Harmless pool choice next := by
  obtain ⟨taken, run, acts, delay, adds⟩ := refusal
  cases choice with
  | spawn params => cases acts
  | run index =>
      obtain ⟨run', qdisc', run'', found, ran, rfl⟩ :=
        ((injections tc).step_run_iff ..).mp stepped
      cases Option.some.inj (found.symm.trans acts)
      obtain ⟨params, told, shape⟩ := shape_at choices pool index run
        (history_reached choices pool reached).owned found
      obtain ⟨delayMs, durationSec, own, step⟩ :=
        step_cases tc params pool.shared qdisc' run run'' shape ran
      rcases step with ⟨_, free, _, _⟩ | ⟨rfl, _, rfl, rfl⟩ | ⟨rfl, _, _⟩ | ⟨rfl, _, _⟩
      · rw [free] at taken
        cases taken
      · refine ⟨rfl, _, acting_set _ _ _ _ _ found, trivial, ?_⟩
        rintro ⟨message, recommendation, member⟩
        simp [refused, refusedEvent] at member
      · cases adds
      · cases adds

theorem between_of_ended (run : Run) (ended : run.Ended) : between run = false := by
  obtain ⟨events, rest⟩ := run
  cases rest with
  | done value => rfl
  | fail exn => rfl
  | emit event resume => exact ended.elim
  | call request resume => exact ended.elim

end KernelSprint.NetworkSharing

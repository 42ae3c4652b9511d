import Mathlib.Data.List.Forall2
import KernelSprint.Lib.Machine

/-!
# Interleaved threads over shared state

Any number of threads run the same program over one shared state.  A choice
of the scheduler starts a further thread or lets one thread take one atomic
step.  The invariant rule asks that a thread keeps its own assertion and that
no step of another thread disturbs it.
-/

set_option autoImplicit false

namespace Interleaving

open Labelled

universe u v w

/-- `step` is `none` once the thread has ended. -/
structure Program (Shared : Type u) (Local : Type v) (Arg : Type w) where
  start : Arg → Local
  step : Shared → Local → Option (Shared × Local)

structure Pool (Shared : Type u) (Local : Type v) where
  shared : Shared
  threads : List Local
  deriving DecidableEq, Repr

inductive Choice (Arg : Type w) where
  | spawn (arg : Arg)
  | run (index : Nat)
  deriving DecidableEq, Repr

variable {Shared : Type u} {Local : Type v} {Arg : Type w}

def Program.stepThread (program : Program Shared Local Arg)
    (pool : Pool Shared Local) (index : Nat) : Option (Pool Shared Local) :=
  match pool.threads[index]? with
  | none => none
  | some thread =>
      (program.step pool.shared thread).map fun result =>
        ⟨result.1, pool.threads.set index result.2⟩

def Program.machine (program : Program Shared Local Arg) :
    Machine (Pool Shared Local) (Choice Arg) where
  step pool
    | .spawn arg => some { pool with threads := pool.threads ++ [program.start arg] }
    | .run index => program.stepThread pool index

def Pool.start (shared : Shared) : Pool Shared Local := ⟨shared, []⟩

/-- The thread that the choice lets run. -/
def Pool.acting (pool : Pool Shared Local) : Choice Arg → Option Local
  | .spawn _ => none
  | .run index => pool.threads[index]?

/-- The arguments of the threads, in the order in which they were started. -/
def spawned : List (Choice Arg) → List Arg
  | [] => []
  | .spawn arg :: rest => arg :: spawned rest
  | .run _ :: rest => spawned rest

theorem spawned_append (first second : List (Choice Arg)) :
    spawned (first ++ second) = spawned first ++ spawned second := by
  induction first with
  | nil => rfl
  | cons choice rest ih =>
      cases choice with
      | spawn arg => simp only [List.cons_append, spawned, ih]
      | run index => exact ih

namespace Program

variable (program : Program Shared Local Arg)

/-- Everything one scheduled step can do. -/
theorem step_run_iff (pool next : Pool Shared Local) (index : Nat) :
    program.machine.step pool (.run index) = some next ↔
      ∃ thread shared' thread', pool.threads[index]? = some thread ∧
        program.step pool.shared thread = some (shared', thread') ∧
        next = ⟨shared', pool.threads.set index thread'⟩ := by
  simp only [machine, stepThread]
  cases found : pool.threads[index]? with
  | none => simp
  | some thread =>
      simp only [Option.map_eq_some_iff, Option.some.injEq]
      constructor
      · rintro ⟨⟨shared', thread'⟩, stepped, rfl⟩
        exact ⟨thread, shared', thread', rfl, stepped, rfl⟩
      · rintro ⟨_, shared', thread', rfl, stepped, rfl⟩
        exact ⟨(shared', thread'), stepped, rfl⟩

theorem step_spawn_iff (pool next : Pool Shared Local) (arg : Arg) :
    program.machine.step pool (.spawn arg) = some next ↔
      next = { pool with threads := pool.threads ++ [program.start arg] } := by
  simp only [machine, Option.some.injEq]
  exact eq_comm

end Program

/-! ## Threads after an update -/

theorem getElem?_set_cases (threads : List Local) (index other : Nat)
    (thread' found : Local) (hit : (threads.set index thread')[other]? = some found) :
    (other = index ∧ found = thread') ∨
      (other ≠ index ∧ threads[other]? = some found) := by
  rw [List.getElem?_set] at hit
  by_cases same : index = other
  · subst same
    simp only [↓reduceIte] at hit
    split at hit
    · exact Or.inl ⟨rfl, (Option.some.inj hit).symm⟩
    · exact absurd hit (by simp)
  · rw [if_neg same] at hit
    exact Or.inr ⟨Ne.symm same, hit⟩

theorem mem_set_self (threads : List Local) (index : Nat) (thread thread' : Local)
    (found : threads[index]? = some thread) : thread' ∈ threads.set index thread' := by
  have inside : index < threads.length := (List.getElem?_eq_some_iff.mp found).1
  exact List.mem_iff_getElem?.mpr ⟨index, List.getElem?_set_self inside⟩

theorem mem_set_of_ne (threads : List Local) (index : Nat) (thread thread' other : Local)
    (found : threads[index]? = some thread) (member : other ∈ threads)
    (apart : other ≠ thread) : other ∈ threads.set index thread' := by
  obtain ⟨otherIndex, otherFound⟩ := List.mem_iff_getElem?.mp member
  have indices : index ≠ otherIndex := by
    rintro rfl
    exact apart (Option.some.inj (otherFound.symm.trans found))
  exact List.mem_iff_getElem?.mpr
    ⟨otherIndex, by rw [List.getElem?_set_ne indices, otherFound]⟩

/-- What the threads carry, when the one that ran carries the same as before. -/
theorem filterMap_set_same {Carried : Type} (carries : Local → Option Carried)
    (threads : List Local) (index : Nat) (thread thread' : Local)
    (found : threads[index]? = some thread) (same : carries thread' = carries thread) :
    (threads.set index thread').filterMap carries = threads.filterMap carries := by
  induction threads generalizing index with
  | nil => rfl
  | cons first rest ih =>
      cases index with
      | zero =>
          cases Option.some.inj found
          simp only [List.set_cons_zero, List.filterMap_cons, same]
      | succ index =>
          simp only [List.set_cons_succ, List.filterMap_cons,
            ih index (by simpa using found)]

theorem filterMap_set_new {Carried : Type} (carries : Local → Option Carried)
    (threads : List Local) (index : Nat) (thread thread' : Local) (carried : Carried)
    (found : threads[index]? = some thread) (nothing : carries thread = none)
    (something : carries thread' = some carried) :
    ((threads.set index thread').filterMap carries).Perm
      (carried :: threads.filterMap carries) := by
  induction threads generalizing index with
  | nil => cases found
  | cons first rest ih =>
      cases index with
      | zero =>
          cases Option.some.inj found
          simp only [List.set_cons_zero, List.filterMap_cons, nothing, something]
          exact List.Perm.refl _
      | succ index =>
          have later := ih index (by simpa using found)
          simp only [List.set_cons_succ, List.filterMap_cons]
          cases carries first with
          | none => exact later
          | some value => exact (later.cons value).trans (List.Perm.swap ..)

/-- The thread that ran, after its step. -/
theorem acting_set (threads : List Local) (shared : Shared) (index : Nat)
    (thread thread' : Local) (found : threads[index]? = some thread) :
    (Pool.mk shared (threads.set index thread')).acting (.run index : Choice Arg) =
      some thread' :=
  List.getElem?_set_self (List.getElem?_eq_some_iff.mp found).1

theorem mem_of_acting (pool : Pool Shared Local) (choice : Choice Arg) (thread : Local)
    (acting : pool.acting choice = some thread) : thread ∈ pool.threads := by
  cases choice with
  | spawn arg => cases acting
  | run index => exact List.mem_of_getElem? acting

/-- A thread is left alone by every choice but its own. -/
theorem Program.thread_kept (program : Program Shared Local Arg)
    (pool next : Pool Shared Local) (choice : Choice Arg) (index : Nat) (thread : Local)
    (apart : choice ≠ .run index) (found : pool.threads[index]? = some thread)
    (stepped : program.machine.step pool choice = some next) :
    next.threads[index]? = some thread := by
  cases choice with
  | spawn arg =>
      rw [program.step_spawn_iff] at stepped
      subst stepped
      exact (List.getElem?_append_left (List.getElem?_eq_some_iff.mp found).1).trans found
  | run other =>
      obtain ⟨_, _, _, _, _, rfl⟩ := (program.step_run_iff pool next other).mp stepped
      rw [List.getElem?_set_ne (fun same => apart (congrArg Choice.run same)), found]

/-! ## The invariant rule -/

/-- The shared part is in order and every thread's assertion holds of it. -/
def Annotated (sharedInv : Shared → Prop) (assertion : Shared → Local → Prop)
    (pool : Pool Shared Local) : Prop :=
  sharedInv pool.shared ∧ ∀ thread ∈ pool.threads, assertion pool.shared thread

theorem annotated_start (sharedInv : Shared → Prop) (assertion : Shared → Local → Prop)
    (shared : Shared) (sharedOk : sharedInv shared) :
    Annotated sharedInv assertion (Pool.start shared) :=
  ⟨sharedOk, List.forall_mem_nil _⟩

/-- One step keeps the annotation: the acting thread re-establishes its own
assertion and leaves the assertions of the others alone.  `cond` is what the
schedule is known to respect. -/
theorem Program.annotated_step (program : Program Shared Local Arg)
    (sharedInv : Shared → Prop) (assertion : Shared → Local → Prop)
    (cond : Pool Shared Local → Choice Arg → Prop)
    (starts : ∀ shared arg, sharedInv shared → assertion shared (program.start arg))
    (own : ∀ pool index thread shared' thread', sharedInv pool.shared →
      assertion pool.shared thread → cond pool (.run index) →
      pool.threads[index]? = some thread →
      program.step pool.shared thread = some (shared', thread') →
        sharedInv shared' ∧ assertion shared' thread')
    (others : ∀ pool index thread shared' thread' otherIndex other,
      assertion pool.shared thread → assertion pool.shared other →
      cond pool (.run index) →
      pool.threads[index]? = some thread → otherIndex ≠ index →
      pool.threads[otherIndex]? = some other →
      program.step pool.shared thread = some (shared', thread') →
        assertion shared' other)
    (pool next : Pool Shared Local) (choice : Choice Arg)
    (annotated : Annotated sharedInv assertion pool) (met : cond pool choice)
    (stepped : program.machine.step pool choice = some next) :
    Annotated sharedInv assertion next := by
  obtain ⟨sharedOk, threadsOk⟩ := annotated
  cases choice with
  | spawn arg =>
      rw [program.step_spawn_iff] at stepped
      subst stepped
      refine ⟨sharedOk, ?_⟩
      intro thread member
      rcases List.mem_append.mp member with old | new
      · exact threadsOk thread old
      · rw [List.mem_singleton.mp new]
        exact starts pool.shared arg sharedOk
  | run index =>
      obtain ⟨thread, shared', thread', found, ran, rfl⟩ :=
        (program.step_run_iff pool next index).mp stepped
      have threadOk := threadsOk thread (List.mem_of_getElem? found)
      obtain ⟨sharedOk', threadOk'⟩ :=
        own pool index thread shared' thread' sharedOk threadOk met found ran
      refine ⟨sharedOk', ?_⟩
      intro other member
      obtain ⟨otherIndex, hit⟩ := List.mem_iff_getElem?.mp member
      rcases getElem?_set_cases _ _ _ _ _ hit with ⟨_, rfl⟩ | ⟨apart, otherFound⟩
      · exact threadOk'
      · exact others pool index thread shared' thread' otherIndex other threadOk
          (threadsOk other (List.mem_of_getElem? otherFound)) met found apart
          otherFound ran

/-! ## Simulation, thread by thread -/

section Simulation

variable {Shared' : Type u} {Local' : Type v}

def PoolRel (sharedRel : Shared → Shared' → Prop) (localRel : Local → Local' → Prop)
    (pool : Pool Shared Local) (pool' : Pool Shared' Local') : Prop :=
  sharedRel pool.shared pool'.shared ∧
    List.Forall₂ localRel pool.threads pool'.threads

theorem forall₂_getElem? {rel : Local → Local' → Prop} {xs : List Local}
    {ys : List Local'} (related : List.Forall₂ rel xs ys) (index : Nat) (x : Local)
    (found : xs[index]? = some x) : ∃ y, ys[index]? = some y ∧ rel x y := by
  induction related generalizing index with
  | nil => simp at found
  | @cons x' y' xs' ys' head _ ih =>
      cases index with
      | zero =>
          simp only [List.getElem?_cons_zero, Option.some.injEq] at found
          subst found
          exact ⟨y', rfl, head⟩
      | succ index => exact ih index (by simpa using found)

theorem forall₂_set {rel : Local → Local' → Prop} {xs : List Local}
    {ys : List Local'} (related : List.Forall₂ rel xs ys) (index : Nat)
    (x : Local) (y : Local') (pair : rel x y) :
    List.Forall₂ rel (xs.set index x) (ys.set index y) := by
  induction related generalizing index with
  | nil => exact List.Forall₂.nil
  | cons head tail ih =>
      cases index with
      | zero => exact List.Forall₂.cons pair tail
      | succ index => exact List.Forall₂.cons head (ih index)

theorem forall₂_update {rel rel' : Arg → Local → Prop} {args : List Arg} {threads : List Local}
    (related : List.Forall₂ rel args threads) (index : Nat) (thread thread' : Local)
    (found : threads[index]? = some thread) (own : ∀ arg, rel arg thread → rel' arg thread')
    (others : ∀ arg other, rel arg other → rel' arg other) :
    List.Forall₂ rel' args (threads.set index thread') := by
  induction related generalizing index with
  | nil => cases found
  | cons head tail ih =>
      cases index with
      | zero =>
          cases Option.some.inj found
          exact .cons (own _ head) (tail.imp others)
      | succ index => exact .cons (others _ _ head) (ih index found)

/-- Every thread has to do with the argument that it was started with. -/
theorem Program.spawned_related (program : Program Shared Local Arg)
    (rel : Shared → Arg → Local → Prop) (starts : ∀ shared arg, rel shared arg (program.start arg))
    (steps : ∀ shared shared' thread thread',
      program.step shared thread = some (shared', thread') →
        (∀ arg, rel shared arg thread → rel shared' arg thread') ∧
          ∀ arg other, rel shared arg other → rel shared' arg other)
    (shared : Shared) (schedule : List (Choice Arg)) (pool : Pool Shared Local)
    (reached : program.machine.exec schedule (Pool.start shared) = some pool) :
    List.Forall₂ (rel pool.shared) (spawned schedule) pool.threads := by
  refine program.machine.history
    (fun schedule pool => List.Forall₂ (rel pool.shared) (spawned schedule) pool.threads) _
    .nil ?_ schedule pool reached
  intro earlier pool choice next _ related stepped
  rw [spawned_append]
  cases choice with
  | spawn arg =>
      rw [program.step_spawn_iff] at stepped
      subst stepped
      exact List.rel_append related (.cons (starts _ arg) .nil)
  | run index =>
      obtain ⟨thread, shared', thread', found, ran, rfl⟩ :=
        (program.step_run_iff pool next index).mp stepped
      have ⟨own, others⟩ := steps _ _ _ _ ran
      rw [spawned, spawned, List.append_nil]
      exact forall₂_update related index thread thread' found own others

theorem Program.step_simulation (source : Program Shared Local Arg)
    (target : Program Shared' Local' Arg)
    (sharedRel : Shared → Shared' → Prop) (localRel : Local → Local' → Prop)
    (starts : ∀ arg, localRel (source.start arg) (target.start arg))
    (steps : ∀ shared shared' thread thread' sharedNext threadNext,
      sharedRel shared shared' → localRel thread thread' →
      source.step shared thread = some (sharedNext, threadNext) →
        ∃ sharedNext' threadNext',
          target.step shared' thread' = some (sharedNext', threadNext') ∧
          sharedRel sharedNext sharedNext' ∧ localRel threadNext threadNext')
    (pool : Pool Shared Local) (pool' : Pool Shared' Local')
    (choice : Choice Arg) (next : Pool Shared Local)
    (related : PoolRel sharedRel localRel pool pool')
    (stepped : source.machine.step pool choice = some next) :
    ∃ next', target.machine.step pool' choice = some next' ∧
      PoolRel sharedRel localRel next next' := by
  obtain ⟨sharedOk, threadsOk⟩ := related
  cases choice with
  | spawn arg =>
      rw [source.step_spawn_iff] at stepped
      subst stepped
      exact ⟨_, (target.step_spawn_iff ..).mpr rfl, sharedOk,
        List.rel_append threadsOk (List.Forall₂.cons (starts arg) List.Forall₂.nil)⟩
  | run index =>
      obtain ⟨thread, sharedNext, threadNext, found, ran, rfl⟩ :=
        (source.step_run_iff pool next index).mp stepped
      obtain ⟨thread', found', pair⟩ := forall₂_getElem? threadsOk index thread found
      obtain ⟨sharedNext', threadNext', ran', sharedOk', pair'⟩ :=
        steps _ _ _ _ _ _ sharedOk pair ran
      exact ⟨_, (target.step_run_iff ..).mpr
          ⟨thread', sharedNext', threadNext', found', ran', rfl⟩,
        sharedOk', forall₂_set threadsOk index threadNext threadNext' pair'⟩

end Simulation

end Interleaving

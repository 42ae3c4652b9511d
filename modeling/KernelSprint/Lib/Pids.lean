import Mathlib.Data.List.Intervals
import Mathlib.Data.List.Nodup
import Mathlib.Data.List.Perm.Basic

/-!
# Process numbers

The processes of a namespace and the numbers they have.  A number is free
again when its process has been waited for.  The first process of the
namespace waits for nobody, so the processes that it inherits keep their
numbers for ever.
-/

set_option autoImplicit false

namespace Pids

/-- Who has to wait for a process: the runtime that started it from outside,
the first process of the namespace, or another one. -/
inductive Parent where
  | outside
  | first
  | process (serial : Nat)
  deriving DecidableEq

/-- A process that has been killed still has to die of it. -/
inductive Status where
  | running
  | killed
  | dead
  deriving DecidableEq

/-- The serial tells a process from an earlier one with its number. -/
structure Process where
  serial : Nat
  pid : Nat
  parent : Parent
  status : Status
  deriving DecidableEq

namespace Process

/-- What `kill -9` on a number does to a process. -/
def signalled (pid : Nat) (process : Process) : Process :=
  if process.pid = pid ∧ process.status = .running then { process with status := .killed }
  else process

/-- What the death of a process does to it and to its children, which the first
process inherits. -/
def lost (serial : Nat) (process : Process) : Process :=
  if process.serial = serial then { process with status := .dead }
  else if process.parent = .process serial then { process with parent := .first }
  else process

@[simp] theorem signalled_pid (pid : Nat) (process : Process) :
    (process.signalled pid).pid = process.pid := by
  unfold signalled
  split <;> rfl

@[simp] theorem signalled_serial (pid : Nat) (process : Process) :
    (process.signalled pid).serial = process.serial := by
  unfold signalled
  split <;> rfl

@[simp] theorem signalled_parent (pid : Nat) (process : Process) :
    (process.signalled pid).parent = process.parent := by
  unfold signalled
  split <;> rfl

@[simp] theorem lost_pid (serial : Nat) (process : Process) :
    (process.lost serial).pid = process.pid := by
  unfold lost
  split
  · rfl
  · split <;> rfl

@[simp] theorem lost_serial (serial : Nat) (process : Process) :
    (process.lost serial).serial = process.serial := by
  unfold lost
  split
  · rfl
  · split <;> rfl

theorem lost_first (serial : Nat) (process : Process) (inherited : process.parent = .first) :
    (process.lost serial).parent = .first := by
  unfold lost
  split
  · exact inherited
  · split
    · rfl
    · exact inherited

theorem signalled_dead (pid : Nat) (process : Process) (dead : process.status = .dead) :
    process.signalled pid = process := by
  unfold signalled
  rw [dead]
  simp

theorem lost_dead (serial : Nat) (process : Process) (dead : process.status = .dead) :
    (process.lost serial).status = .dead := by
  unfold lost
  split
  · rfl
  · split
    · exact dead
    · exact dead

end Process

structure Namespace where
  limit : Nat
  started : Nat
  table : List Process
  numbered : ∀ process ∈ table, 1 < process.pid ∧ process.pid < limit
  known : ∀ process ∈ table, process.serial < started
  pids : (table.map Process.pid).Nodup
  serials : (table.map Process.serial).Nodup

namespace Namespace

/-- The namespace with nothing but its first process, which is not in the
table: no signal from inside reaches it. -/
def fresh (limit : Nat) : Namespace where
  limit := limit
  started := 0
  table := []
  numbered := List.forall_mem_nil _
  known := List.forall_mem_nil _
  pids := List.nodup_nil
  serials := List.nodup_nil

variable (space : Namespace)

/-! ## What can happen -/

def start (pid : Nat) (parent : Parent) : Option Namespace :=
  if free : (1 < pid ∧ pid < space.limit) ∧ pid ∉ space.table.map Process.pid then
    some {
      limit := space.limit
      started := space.started + 1
      table := space.table ++ [⟨space.started, pid, parent, .running⟩]
      numbered := by
        rw [List.forall_mem_append, List.forall_mem_singleton]
        exact ⟨space.numbered, free.1⟩
      known := by
        rw [List.forall_mem_append, List.forall_mem_singleton]
        exact ⟨fun process member => Nat.lt_succ_of_lt (space.known process member),
          Nat.lt_succ_self _⟩
      pids := by
        rw [List.map_append, List.map_singleton, List.nodup_append_comm]
        exact List.nodup_cons.mpr ⟨free.2, space.pids⟩
      serials := by
        rw [List.map_append, List.map_singleton, List.nodup_append_comm]
        refine List.nodup_cons.mpr ⟨fun member => ?_, space.serials⟩
        obtain ⟨process, held, same⟩ := List.mem_map.mp member
        exact absurd same (Nat.ne_of_lt (space.known process held)) }
  else none

/-- Every process changed, its numbers apart. -/
def change (f : Process → Process) (pid : ∀ process, (f process).pid = process.pid)
    (serial : ∀ process, (f process).serial = process.serial) : Namespace where
  limit := space.limit
  started := space.started
  table := space.table.map f
  numbered process member := by
    obtain ⟨old, held, rfl⟩ := List.mem_map.mp member
    exact pid old ▸ space.numbered old held
  known process member := by
    obtain ⟨old, held, rfl⟩ := List.mem_map.mp member
    exact serial old ▸ space.known old held
  pids := by
    have same : Process.pid ∘ f = Process.pid := funext pid
    rw [List.map_map, same]
    exact space.pids
  serials := by
    have same : Process.serial ∘ f = Process.serial := funext serial
    rw [List.map_map, same]
    exact space.serials

def keep (test : Process → Bool) : Namespace where
  limit := space.limit
  started := space.started
  table := space.table.filter test
  numbered process member := space.numbered process (List.mem_of_mem_filter member)
  known process member := space.known process (List.mem_of_mem_filter member)
  pids := space.pids.sublist (List.filter_sublist.map _)
  serials := space.serials.sublist (List.filter_sublist.map _)

/-- `kill -9` -/
def signal (pid : Nat) : Namespace :=
  space.change (Process.signalled pid) (Process.signalled_pid pid) (Process.signalled_serial pid)

def lose (serial : Nat) : Namespace :=
  space.change (Process.lost serial) (Process.lost_pid serial) (Process.lost_serial serial)

/-- A process that was started from outside is waited for at once. -/
def die (serial : Nat) : Option Namespace :=
  if ∃ process ∈ space.table, process.serial = serial ∧ process.status ≠ .dead then
    some ((space.lose serial).keep fun process =>
      !(decide (process.serial = serial) && decide (process.parent = .outside)))
  else none

/-- The parent of a dead process waits for it. -/
def wait (serial : Nat) : Option Namespace :=
  if ∃ process ∈ space.table, process.serial = serial ∧ process.status = .dead ∧
      process.parent ≠ .first then
    some (space.keep fun process => !decide (process.serial = serial))
  else none

inductive Event where
  | start (pid : Nat) (parent : Parent)
  | signal (pid : Nat)
  | die (serial : Nat)
  | wait (serial : Nat)
  deriving DecidableEq

def step : Event → Option Namespace
  | .start pid parent => space.start pid parent
  | .signal pid => some (space.signal pid)
  | .die serial => space.die serial
  | .wait serial => space.wait serial

/-! ## Who is there -/

/-- The process with this serial is there, and the first process would have to
wait for it. -/
def Inherited (serial pid : Nat) (space : Namespace) : Prop :=
  ∃ process ∈ space.table, process.serial = serial ∧ process.pid = pid ∧ process.parent = .first

def Dead (serial : Nat) (space : Namespace) : Prop :=
  ∃ process ∈ space.table, process.serial = serial ∧ process.parent = .first ∧
    process.status = .dead

variable {space} {next : Namespace}

theorem serial_unique {process other : Process} (held : process ∈ space.table)
    (there : other ∈ space.table) (same : process.serial = other.serial) : process = other :=
  List.inj_on_of_nodup_map space.serials held there same

theorem start_cases {pid : Nat} {parent : Parent} (started : space.start pid parent = some next) :
    next.table = space.table ++ [⟨space.started, pid, parent, .running⟩] ∧
      next.started = space.started + 1 ∧ next.limit = space.limit := by
  unfold start at started
  split at started
  · cases Option.some.inj started
    exact ⟨rfl, rfl, rfl⟩
  · cases started

/-- Nobody waits for a process of the first one: it stays, under its number,
and dead if it is dead. -/
theorem kept_step {event : Event} (stepped : space.step event = some next) (process : Process)
    (held : process ∈ space.table) (inherited : process.parent = .first) :
    ∃ process' ∈ next.table, process'.serial = process.serial ∧ process'.pid = process.pid ∧
      process'.parent = .first ∧ (process.status = .dead → process'.status = .dead) := by
  cases event with
  | start pid parent =>
      have grown := (start_cases stepped).1
      exact ⟨process, grown ▸ List.mem_append_left _ held, rfl, rfl, inherited, id⟩
  | signal pid =>
      cases Option.some.inj stepped
      refine ⟨process.signalled pid, List.mem_map_of_mem held, process.signalled_serial pid,
        process.signalled_pid pid, (process.signalled_parent pid).trans inherited, ?_⟩
      intro dead
      rw [process.signalled_dead pid dead, dead]
  | die serial =>
      simp only [step, die] at stepped
      split at stepped
      · cases Option.some.inj stepped
        have first := process.lost_first serial inherited
        refine ⟨process.lost serial, ?_, process.lost_serial serial, process.lost_pid serial,
          first, process.lost_dead serial⟩
        refine List.mem_filter.mpr ⟨List.mem_map_of_mem held, ?_⟩
        simp [first]
      · cases stepped
  | wait serial =>
      simp only [step, wait] at stepped
      split at stepped
      · rename_i waited
        cases Option.some.inj stepped
        refine ⟨process, List.mem_filter.mpr ⟨held, ?_⟩, rfl, rfl, inherited, id⟩
        obtain ⟨other, there, same, -, owned⟩ := waited
        simp only [Bool.not_eq_true', decide_eq_false_iff_not]
        intro matching
        have equal := serial_unique held there (matching.trans same.symm)
        exact owned (equal ▸ inherited)
      · cases stepped

theorem start_inherited {pid : Nat} (started : space.start pid .first = some next) :
    next.Inherited space.started pid := by
  refine ⟨⟨space.started, pid, .first, .running⟩, ?_, rfl, rfl, rfl⟩
  rw [(start_cases started).1]
  exact List.mem_append_right _ (List.mem_singleton_self _)

theorem inherited_step {event : Event} {serial pid : Nat}
    (stepped : space.step event = some next) (inherited : space.Inherited serial pid) :
    next.Inherited serial pid := by
  obtain ⟨process, held, rfl, rfl, first⟩ := inherited
  obtain ⟨process', held', sameSerial, samePid, first', -⟩ := kept_step stepped process held first
  exact ⟨process', held', sameSerial, samePid, first'⟩

theorem dead_step {event : Event} {serial : Nat} (stepped : space.step event = some next)
    (dead : space.Dead serial) : next.Dead serial := by
  obtain ⟨process, held, rfl, first, died⟩ := dead
  obtain ⟨process', held', same, -, first', died'⟩ := kept_step stepped process held first
  exact ⟨process', held', same, first', died' died⟩

theorem limit_step {event : Event} (stepped : space.step event = some next) :
    next.limit = space.limit := by
  cases event with
  | start pid parent => exact (start_cases stepped).2.2
  | signal pid =>
      cases Option.some.inj stepped
      rfl
  | die serial =>
      simp only [step, die] at stepped
      split at stepped
      · cases Option.some.inj stepped
        rfl
      · cases stepped
  | wait serial =>
      simp only [step, wait] at stepped
      split at stepped
      · cases Option.some.inj stepped
        rfl
      · cases stepped

/-- A signal to the number of one process is none to another. -/
theorem signal_apart {process other : Process} (held : process ∈ space.table)
    (there : other ∈ space.table) (apart : other.serial ≠ process.serial) :
    other ∈ (space.signal process.pid).table := by
  have differs : other.pid ≠ process.pid := by
    intro same
    exact apart (congrArg Process.serial (List.inj_on_of_nodup_map space.pids there held same))
  have untouched : other.signalled process.pid = other := by
    unfold Process.signalled
    exact if_neg fun hit => differs hit.1
  exact untouched ▸ List.mem_map_of_mem there

/-- A number leads to the one process that has it. -/
theorem find_pid {α : Type} [DecidableEq α] (name : Nat → α) (injective : Function.Injective name)
    {process : Process} (held : process ∈ space.table) :
    space.table.find? (fun other => decide (name other.pid = name process.pid)) =
      some process := by
  cases found : space.table.find? fun other => decide (name other.pid = name process.pid) with
  | none => simpa using List.find?_eq_none.mp found process held
  | some other =>
      have named : name other.pid = name process.pid := by simpa using List.find?_some found
      have equal := List.inj_on_of_nodup_map space.pids (List.mem_of_find?_eq_some found) held
        (injective named)
      rw [equal]

/-- There are no more processes than numbers for them. -/
theorem length_le (space : Namespace) : space.table.length ≤ space.limit - 2 := by
  have within : ∀ pid ∈ space.table.map Process.pid, pid ∈ List.Ico 2 space.limit := by
    intro pid member
    obtain ⟨process, held, rfl⟩ := List.mem_map.mp member
    have numbered := space.numbered process held
    exact List.Ico.mem.mpr ⟨numbered.1, numbered.2⟩
  have few := (List.subperm_of_subset space.pids within).length_le
  rwa [List.length_map, List.Ico.length] at few

end Namespace

end Pids

import Mathlib.Data.List.Basic

/-!
# Pipes between processes

A pipe counts the bytes that it holds and that have gone through it, and
knows the processes that have each of its ends open.  A read blocks while the
pipe is empty and a writer is left, and a write fails without a reader.
-/

set_option autoImplicit false

namespace Pipes

structure Pipe (Proc : Type) where
  held : Nat
  written : Nat
  taken : Nat
  readers : List Proc
  writers : List Proc
  balance : written = taken + held
  deriving DecidableEq

variable {Proc : Type}

/-- The processes that have inherited both ends. -/
def Pipe.shared (procs : List Proc) : Pipe Proc := ⟨0, 0, 0, procs, procs, rfl⟩

def Pipe.push (pipe : Pipe Proc) (count : Nat) : Pipe Proc :=
  { pipe with
    held := pipe.held + count
    written := pipe.written + count
    balance := by
      have balance := pipe.balance
      omega }

/-- Takes no more than there is. -/
def Pipe.pop (pipe : Pipe Proc) (count : Nat) : Pipe Proc :=
  { pipe with
    held := pipe.held - count
    taken := pipe.taken + min count pipe.held
    balance := by
      have balance := pipe.balance
      omega }

section Ends

variable [DecidableEq Proc]

def Pipe.closeRead (pipe : Pipe Proc) (proc : Proc) : Pipe Proc :=
  { pipe with readers := pipe.readers.filter (· ≠ proc) }

def Pipe.closeWrite (pipe : Pipe Proc) (proc : Proc) : Pipe Proc :=
  { pipe with writers := pipe.writers.filter (· ≠ proc) }

/-- What the exit of a process does to a pipe. -/
def Pipe.release (pipe : Pipe Proc) (proc : Proc) : Pipe Proc :=
  (pipe.closeRead proc).closeWrite proc

end Ends

section Lemmas

variable (pipe : Pipe Proc) (count : Nat)

@[simp] theorem push_held : (pipe.push count).held = pipe.held + count := rfl
@[simp] theorem push_written : (pipe.push count).written = pipe.written + count := rfl
@[simp] theorem push_taken : (pipe.push count).taken = pipe.taken := rfl
@[simp] theorem push_readers : (pipe.push count).readers = pipe.readers := rfl
@[simp] theorem push_writers : (pipe.push count).writers = pipe.writers := rfl
@[simp] theorem pop_held : (pipe.pop count).held = pipe.held - count := rfl
@[simp] theorem pop_written : (pipe.pop count).written = pipe.written := rfl
@[simp] theorem pop_taken : (pipe.pop count).taken = pipe.taken + min count pipe.held := rfl
@[simp] theorem pop_readers : (pipe.pop count).readers = pipe.readers := rfl
@[simp] theorem pop_writers : (pipe.pop count).writers = pipe.writers := rfl

variable [DecidableEq Proc] (proc other : Proc)

@[simp] theorem closeRead_held : (pipe.closeRead proc).held = pipe.held := rfl
@[simp] theorem closeRead_written : (pipe.closeRead proc).written = pipe.written := rfl
@[simp] theorem closeRead_taken : (pipe.closeRead proc).taken = pipe.taken := rfl
@[simp] theorem closeRead_writers : (pipe.closeRead proc).writers = pipe.writers := rfl
@[simp] theorem closeWrite_held : (pipe.closeWrite proc).held = pipe.held := rfl
@[simp] theorem closeWrite_written : (pipe.closeWrite proc).written = pipe.written := rfl
@[simp] theorem closeWrite_taken : (pipe.closeWrite proc).taken = pipe.taken := rfl
@[simp] theorem closeWrite_readers : (pipe.closeWrite proc).readers = pipe.readers := rfl
@[simp] theorem release_held : (pipe.release proc).held = pipe.held := rfl
@[simp] theorem release_written : (pipe.release proc).written = pipe.written := rfl
@[simp] theorem release_taken : (pipe.release proc).taken = pipe.taken := rfl

@[simp] theorem mem_closeRead :
    other ∈ (pipe.closeRead proc).readers ↔ other ∈ pipe.readers ∧ other ≠ proc := by
  simp [Pipe.closeRead]

@[simp] theorem mem_closeWrite :
    other ∈ (pipe.closeWrite proc).writers ↔ other ∈ pipe.writers ∧ other ≠ proc := by
  simp [Pipe.closeWrite]

@[simp] theorem mem_release_readers :
    other ∈ (pipe.release proc).readers ↔ other ∈ pipe.readers ∧ other ≠ proc := by
  simp [Pipe.release]

@[simp] theorem mem_release_writers :
    other ∈ (pipe.release proc).writers ↔ other ∈ pipe.writers ∧ other ≠ proc := by
  simp [Pipe.release]

end Lemmas

end Pipes

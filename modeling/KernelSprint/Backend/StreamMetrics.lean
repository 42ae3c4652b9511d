import KernelSprint.Backend.BenchmarkOutput
import KernelSprint.Lib.Generator

/-!
# The eBPF monitor

`stream_metrics` of `ebpf_agent` pairs the counter lines that bpftrace prints
and adds what it reads from /proc through docker execs.
-/

set_option autoImplicit false

namespace KernelSprint.StreamMetrics

open Generators Generators.Gen Patterns PyText
open BenchmarkOutput (text)

structure ProcessRow where
  pid : String
  name : String
  cpu : String
  mem : String
  deriving DecidableEq

structure Metrics where
  contextSwitchesPerSec : Nat
  wakeupsPerSec : Nat
  cpuPct : ℚ
  memoryPct : Option ℚ
  processes : List ProcessRow
  deriving DecidableEq

inductive Call where
  | popen
  | readLine (line : String)
  /-- `stop_event.is_set()` -/
  | isSet
  /-- `_exec` -/
  | exec (argv : List String)
  | kill
  deriving DecidableEq

/-- `_exec` answers with the standard output. -/
abbrev Call.Answer : Call → Type
  | .isSet => Bool
  | .exec _ => String
  | _ => Unit

abbrev Monitor (α : Type) := Gen Call Call.Answer Metrics PyExn α

def ask (request : Call) : Monitor request.Answer := perform request

section Decoding

variable (db : CharDb)

/-- `label(\d+)` -/
def counterRe (label : String) : Pattern Char :=
  text label ++ [.greedy fun c => (db.digit c).isSome]

def counter (label line : String) : Option Nat :=
  match search (counterRe db label) line.toList with
  | some ⟨[digits], _⟩ => digitsValue db digits
  | _ => none

def switches (line : String) : Option Nat := counter db "@switches: " line

def wakeups (line : String) : Option Nat := counter db "@wakeups: " line

def catProcStat : List String := ["cat", "/proc/stat"]

/-- The idle and the total time of the aggregate line. -/
def cpuStat (out : String) : Except PyExn (Int × Int) :=
  match splitlines out with
  | [] => .error .indexError
  | line :: _ => do
      let parts ← ((split line).drop 1).mapM (int db)
      match parts[3]? with
      | none => .error .indexError
      | some idle => pure (idle + parts[4]?.getD 0, parts.sum)

def readCpuStat : Monitor (Int × Int) := do
  let out ← ask (.exec catProcStat)
  fromExcept (cpuStat db out)

/-- `awk` prints a decimal number, or nothing. -/
def readMemoryPct : Monitor (Option ℚ) := do
  let out ← ask (.exec ["sh", "-c", "free | awk '/Mem:/\x7bprintf \"%.1f\", $3/$2*100\x7d'"])
  pure (float db (strip out).toList).toOption

def processRows (count : Nat) (out : String) : List ProcessRow :=
  (((splitlines (strip out)).drop 1).take count).filterMap fun line =>
    match splitMax 3 line.toList with
    | [pid, name, cpu, mem] => some ⟨pid, name, cpu, mem⟩
    | _ => none

def readTopProcesses (count : Nat) : Monitor (List ProcessRow) := do
  let out ← ask (.exec ["ps", "-eo", "pid,comm,pcpu,pmem", "--sort=-pcpu"])
  pure (processRows count out)

def cpuPct (previous current : Int × Int) : ℚ :=
  let idleDelta := current.1 - previous.1
  let totalDelta := current.2 - previous.2
  if 0 < totalDelta then round (100 * (1 - (idleDelta : ℚ) / totalDelta)) 1 else 0

/-- `for line in proc.stdout: …` -/
def watch : List String → Option Nat → Int × Int → Monitor Unit
  | [], _, _ => pure ()
  | line :: rest, pendingSwitches, previous => do
      ask (.readLine line)
      let stopped ← ask .isSet
      if stopped then pure ()
      else
        match switches db line with
        | some count => watch rest (some count) previous
        | none =>
            match wakeups db line, pendingSwitches with
            | some wakeups, some switches => do
                let current ← readCpuStat db
                let memoryPct ← readMemoryPct db
                let processes ← readTopProcesses 5
                yieldEvent ⟨switches, wakeups, cpuPct previous current, memoryPct, processes⟩
                watch rest none current
            | _, _ => watch rest pendingSwitches previous

/-- What bpftrace prints is an argument. -/
def streamMetrics (lines : List String) : Monitor Unit := do
  ask .popen
  let previous ← readCpuStat db
  withFinally (watch db lines none previous) (ask .kill)

end Decoding

example : cpuStat .ascii "cpu  10 0 5 80 5 0 0 0 0 0\ncpu0 1\n" = .ok (85, 100) := by
  decide +kernel

end KernelSprint.StreamMetrics

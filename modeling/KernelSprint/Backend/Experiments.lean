import KernelSprint.Backend.BenchmarkOutput
import KernelSprint.Backend.Docker
import KernelSprint.Lib.Generator

/-!
# The single-run experiments

`process_creation_test`, `context_switch_test` and `ipc_performance_test` of
`experiments_agent`: each compiles its program in the container, runs it once
and decodes what it has printed.
-/

set_option autoImplicit false

namespace KernelSprint.Experiments

open Generators Generators.Gen Patterns PyText BenchmarkOutput
open Docker (CompletedProcess)

structure Throughput where
  elapsedS : ℚ
  throughputMbS : ℚ
  deriving DecidableEq

inductive Exec where
  | compile (src out : String)
  | run (argv : List String)

/-- A program answers with its standard output. -/
abbrev Exec.Answer : Exec → Type
  | .compile _ _ => CompletedProcess
  | .run _ => String

/-- A missing result is the empty dict. -/
inductive Event where
  | start (test : String)
  | error (message : String)
  | processCreation (iterations : Int) (result : Option Latency)
  | contextSwitch (roundTrips : Int) (result : Option ContextSwitch)
  | ipcPerformance (chunkBytes : Int) (result : Option Throughput)
  deriving DecidableEq

abbrev Experiment (α : Type) := Gen Exec Exec.Answer Event PyExn α

def exec (request : Exec) : Experiment request.Answer := perform request

section Decoding

variable (db : CharDb)

def contextSwitchResult (out : String) : Except PyExn (Option ContextSwitch) :=
  decoded (contextSwitchRe db) (contextSwitchOfGroups db) out

def throughputRe : Pattern Char :=
  text "elapsed_s=" ++ number db ++ text " throughput_mb_s=" ++ number db

def throughputOfGroups : List (List Char) → Except PyExn Throughput
  | [elapsed, throughput] => do
      let elapsedS ← float db elapsed
      let throughputMbS ← float db throughput
      pure ⟨elapsedS, throughputMbS⟩
  | _ => .error .indexError

def ipcResult (out : String) : Except PyExn (Option Throughput) :=
  decoded (throughputRe db) (throughputOfGroups db) out

/-- Compiles, runs and reports. -/
def measured (test src out : String) (args : List String)
    (report : String → Except PyExn Event) : Experiment Unit := do
  yieldEvent (.start test)
  let compileResult ← exec (.compile src out)
  if compileResult.returncode ≠ 0 then
    yieldEvent (.error compileResult.stderr)
  else do
    let stdout ← exec (.run (out :: args))
    let event ← fromExcept (report stdout)
    yieldEvent event

def processCreationTest (iterations : Int) : Experiment Unit :=
  let iterations := max 100 (min 20000 iterations)
  measured "process_creation" "process_creation.c" "/tmp/exp_process_creation"
    [toString iterations] fun out =>
      (parseLatency db out).map (.processCreation iterations)

def contextSwitchTest (roundTrips : Int) : Experiment Unit :=
  let roundTrips := max 1000 (min 200000 roundTrips)
  measured "context_switch" "context_switch.c" "/tmp/exp_context_switch"
    [toString roundTrips] fun out =>
      (contextSwitchResult db out).map (.contextSwitch roundTrips)

def ipcPerformanceTest (chunkBytes : Int) : Experiment Unit :=
  let chunkBytes := max 64 (min 1048576 chunkBytes)
  measured "ipc_performance" "ipc_throughput.c" "/tmp/exp_ipc_throughput"
    [toString chunkBytes, "32"] fun out =>
      (ipcResult db out).map (.ipcPerformance chunkBytes)

end Decoding

end KernelSprint.Experiments

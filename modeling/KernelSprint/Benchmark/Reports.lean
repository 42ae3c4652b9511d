import KernelSprint.Lib.Decimal

/-!
# What the benchmark programs print

The two `printf` calls at the end of `process_creation.c`, `context_switch.c`,
`scheduler_latency.c` and `ipc_throughput.c`.
-/

set_option autoImplicit false

namespace KernelSprint.Reports

open Decimal

structure LatencyFigures where
  meanUs : ℚ≥0
  minUs : ℚ≥0
  maxUs : ℚ≥0
  p50Us : ℚ≥0
  p99Us : ℚ≥0

structure SwitchFigures where
  roundTripUs : ℚ≥0
  contextSwitchUs : ℚ≥0
  contextSwitchesPerSec : ℚ≥0

structure ThroughputFigures where
  elapsedS : ℚ≥0
  throughputMbS : ℚ≥0

def latencyLine (figures : LatencyFigures) : String :=
  "mean_us=" ++ fixed 3 figures.meanUs ++ " min_us=" ++ fixed 3 figures.minUs ++
    " max_us=" ++ fixed 3 figures.maxUs ++ " p50_us=" ++ fixed 3 figures.p50Us ++
    " p99_us=" ++ fixed 3 figures.p99Us ++ "\n"

def switchLine (figures : SwitchFigures) : String :=
  "round_trip_us=" ++ fixed 3 figures.roundTripUs ++
    " context_switch_us=" ++ fixed 3 figures.contextSwitchUs ++
    " context_switches_per_sec=" ++ fixed 0 figures.contextSwitchesPerSec ++ "\n"

/-- The same line when no time has passed: `1000000.0 / 0.0` is an infinity. -/
def infiniteLine (roundTripUs contextSwitchUs : ℚ≥0) : String :=
  "round_trip_us=" ++ fixed 3 roundTripUs ++
    " context_switch_us=" ++ fixed 3 contextSwitchUs ++ " context_switches_per_sec=inf\n"

def throughputLine (figures : ThroughputFigures) : String :=
  "elapsed_s=" ++ fixed 3 figures.elapsedS ++
    " throughput_mb_s=" ++ fixed 1 figures.throughputMbS ++ "\n"

/-! ## The first lines -/

def processCreationHeader (iterations : Nat) : String :=
  "benchmark=process_creation iterations=" ++ toString iterations ++ "\n"

def contextSwitchHeader (roundTrips : Nat) : String :=
  "benchmark=context_switch round_trips=" ++ toString roundTrips ++ "\n"

def schedulerLatencyHeader (iterations intervalUs ncpus : Nat) : String :=
  "benchmark=scheduler_latency iterations=" ++ toString iterations ++
    " interval_us=" ++ toString intervalUs ++ " ncpus=" ++ toString ncpus ++ "\n"

def ipcThroughputHeader (chunkBytes : Nat) (totalMb : ℚ≥0) : String :=
  "benchmark=ipc_throughput chunk_bytes=" ++ toString chunkBytes ++
    " total_mb=" ++ fixed 1 totalMb ++ "\n"

/-! ## The reports -/

def processCreation (iterations : Nat) (figures : LatencyFigures) : String :=
  processCreationHeader iterations ++ latencyLine figures

def contextSwitch (roundTrips : Nat) (figures : SwitchFigures) : String :=
  contextSwitchHeader roundTrips ++ switchLine figures

def infiniteSwitch (roundTrips : Nat) (roundTripUs contextSwitchUs : ℚ≥0) : String :=
  contextSwitchHeader roundTrips ++ infiniteLine roundTripUs contextSwitchUs

def schedulerLatency (iterations intervalUs ncpus : Nat) (figures : LatencyFigures) : String :=
  schedulerLatencyHeader iterations intervalUs ncpus ++ latencyLine figures

def ipcThroughput (chunkBytes : Nat) (totalMb : ℚ≥0) (figures : ThroughputFigures) : String :=
  ipcThroughputHeader chunkBytes totalMb ++ throughputLine figures

example : processCreation 100 ⟨5 / 2, 1, 4, 2, 4⟩ =
    "benchmark=process_creation iterations=100\nmean_us=2.500 min_us=1.000 " ++
      "max_us=4.000 p50_us=2.000 p99_us=4.000\n" := by decide +kernel

end KernelSprint.Reports

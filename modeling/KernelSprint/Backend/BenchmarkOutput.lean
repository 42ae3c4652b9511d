import KernelSprint.Lib.Pattern
import KernelSprint.Lib.PyText

/-!
# Decoding the output of the benchmark programs

`parse_benchmark_output` of `qemu_agent` and `_parse_latency` of
`experiments_agent`.  A section is present in the result exactly when its
regular expression matches; `float` of a matched group may raise.
-/

set_option autoImplicit false

namespace KernelSprint.BenchmarkOutput

open Patterns PyText

structure Latency where
  meanUs : ℚ
  minUs : ℚ
  maxUs : ℚ
  p50Us : ℚ
  p99Us : ℚ
  deriving DecidableEq

structure ContextSwitch where
  roundTripUs : ℚ
  perSwitchUs : ℚ
  switchesPerSec : ℚ
  deriving DecidableEq

structure BenchmarkData where
  processCreation : Option Latency
  contextSwitch : Option ContextSwitch
  schedulerLatency : Option Latency
  deriving DecidableEq

/-- All three sections are there. -/
def BenchmarkData.complete (data : BenchmarkData) : Bool :=
  data.processCreation.isSome && data.contextSwitch.isSome &&
    data.schedulerLatency.isSome

def text (symbols : String) : Pattern Char := literal symbols.toList

/-- `([\d.]+)` -/
def number (db : CharDb) : Pattern Char :=
  [.greedy fun c => (db.digit c).isSome || c == '.']

def latencyRe (db : CharDb) : Pattern Char :=
  text "mean_us=" ++ number db ++ text " min_us=" ++ number db ++
    text " max_us=" ++ number db ++ text " p50_us=" ++ number db ++
    text " p99_us=" ++ number db

/-- `benchmark=<name>.*?\n` before the metrics line -/
def sectionRe (db : CharDb) (name : String) : Pattern Char :=
  text ("benchmark=" ++ name) ++ [.lazy fun c => c != '\n'] ++ text "\n" ++ latencyRe db

def contextSwitchRe (db : CharDb) : Pattern Char :=
  text "round_trip_us=" ++ number db ++ text " context_switch_us=" ++ number db ++
    text " context_switches_per_sec=" ++ number db

def latencyOfGroups (db : CharDb) : List (List Char) → Except PyExn Latency
  | [mean, min, max, p50, p99] => do
      let meanUs ← float db mean
      let minUs ← float db min
      let maxUs ← float db max
      let p50Us ← float db p50
      let p99Us ← float db p99
      pure ⟨meanUs, minUs, maxUs, p50Us, p99Us⟩
  | _ => .error .indexError

def contextSwitchOfGroups (db : CharDb) : List (List Char) → Except PyExn ContextSwitch
  | [roundTrip, perSwitch, perSec] => do
      let roundTripUs ← float db roundTrip
      let perSwitchUs ← float db perSwitch
      let switchesPerSec ← float db perSec
      pure ⟨roundTripUs, perSwitchUs, switchesPerSec⟩
  | _ => .error .indexError

/-- `m = re.search(pattern, text)`, decoded when there is a match. -/
def decoded {α : Type} (pattern : Pattern Char)
    (decode : List (List Char) → Except PyExn α) (output : String) :
    Except PyExn (Option α) :=
  match search pattern output.toList with
  | none => .ok none
  | some found => (decode found.groups).map some

def parseBenchmarkOutput (db : CharDb) (output : String) : Except PyExn BenchmarkData := do
  let processCreation ← decoded (sectionRe db "process_creation") (latencyOfGroups db) output
  let contextSwitch ← decoded (contextSwitchRe db) (contextSwitchOfGroups db) output
  let schedulerLatency ← decoded (sectionRe db "scheduler_latency") (latencyOfGroups db) output
  pure ⟨processCreation, contextSwitch, schedulerLatency⟩

/-- `none` is the empty dict. -/
def parseLatency (db : CharDb) (output : String) : Except PyExn (Option Latency) :=
  decoded (latencyRe db) (latencyOfGroups db) output

example : parseLatency .ascii "mean_us=1.5 min_us=1 max_us=3 p50_us=1.5 p99_us=2.25\n" =
    .ok (some ⟨3 / 2, 1, 3, 3 / 2, 9 / 4⟩) := by decide +kernel

end KernelSprint.BenchmarkOutput

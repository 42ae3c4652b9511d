import KernelSprint.Backend.BenchmarkOutput
import KernelSprint.Lib.Generator

/-!
# The two benchmark pipelines

`run_benchmark_pipeline` of `qemu_agent` and `run_patch_pipeline` of
`patch_agent`, as generators over their calls on the host.  The lines that
the container prints are an argument; reading one, waiting, and every file
operation is a call that may raise.
-/

set_option autoImplicit false

namespace KernelSprint.Pipelines

open Generators Generators.Gen Patterns PyText BenchmarkOutput

/-- The figures of `results.json` that the comparison divides by. -/
structure Baseline where
  schedulerLatencyP99Us : ℚ
  processCreationMeanUs : ℚ
  switchesPerSec : ℚ
  deriving DecidableEq

/-- `backend/data/results.json` as committed. -/
def committedBaseline : Baseline := ⟨437266 / 100, 283825 / 100, 558867 / 100⟩

structure Comparison where
  schedulerLatencyP99PctChange : Option ℚ
  processCreationMeanPctChange : Option ℚ
  contextSwitchPctChange : Option ℚ
  deriving DecidableEq

inductive Event where
  | stage (stage status : String)
  | output (line : String)
  | error (stage : Option String) (message : String)
  | benchmarkResult (kernel : String) (data : BenchmarkData)
  | patchResult (data : BenchmarkData) (comparisonVsBaseline : Comparison) (note : String)
  deriving DecidableEq

def Event.isError : Event → Bool
  | .error _ _ => true
  | _ => false

def Event.isResult : Event → Bool
  | .benchmarkResult _ _ => true
  | .patchResult _ _ _ => true
  | _ => false

inductive HostCall where
  | makeScratchRoot
  | makeTmpdir
  | writePatch (patchText : String)
  | popen (volume : String)
  | readLine (line : String)
  | wait (timeout : Nat)
  | kill
  | readResults
  | removeTmpdir

/-- `wait` answers with the return code. -/
abbrev HostCall.Answer : HostCall → Type
  | .wait _ => Int
  | .readResults => Baseline
  | _ => Unit

abbrev Pipeline (α : Type) := Gen HostCall HostCall.Answer Event PyExn α

def ask (request : HostCall) : Pipeline request.Answer := perform request

def buildVolumes : String → Option String
  | "baseline" => some "kernel-sprint-build-baseline"
  | "optimized" => some "kernel-sprint-build-optimized"
  | _ => none

/-- `@@STAGE:(\w+):(\w+)@@` -/
def stageRe (db : CharDb) : Pattern Char :=
  text "@@STAGE:" ++ [.greedy db.word] ++ text ":" ++ [.greedy db.word] ++ text "@@"

/-- The event that one line of the container's output becomes. -/
def lineEvent (db : CharDb) (line : String) : Event :=
  match search (stageRe db) line.toList with
  | some ⟨[stage, status], _⟩ => .stage (String.ofList stage) (String.ofList status)
  | _ => .output line

/-- `for line in proc.stdout: …` -/
def relayLines (db : CharDb) (lines : List String) : Pipeline Unit :=
  forEach lines fun line => do
    ask (.readLine line)
    yieldEvent (lineEvent db line)

/-- The read loop and the wait under `except subprocess.TimeoutExpired`;
`none` when the handler has reported the time limit. -/
def relayAndWait (db : CharDb) (lines : List String) (timeout : Nat)
    (message : String) : Pipeline (Option Int) :=
  withExcept
    (do
      relayLines db lines
      let returncode ← ask (.wait timeout)
      pure (some returncode))
    fun
      | .timeoutExpired => some do
          ask .kill
          yieldEvent (.error none message)
          pure none
      | _ => none

/-! ## qemu_agent -/

def runBenchmarkPipeline (db : CharDb) (kernel : String) (lines : List String) :
    Pipeline Unit :=
  match buildVolumes kernel with
  | none =>
      yieldEvent (.error none
        ("unknown kernel '" ++ kernel ++ "', expected 'baseline' or 'optimized'"))
  | some volume => do
      ask (.popen volume)
      match ← relayAndWait db lines 120 "pipeline exceeded time limit" with
      | none => pure ()
      -- the return code is not looked at
      | some _ =>
          let result ← fromExcept (parseBenchmarkOutput db (String.join lines))
          yieldEvent (.benchmarkResult kernel result)

/-! ## patch_agent -/

def maxPatchBytes : Nat := 200000

def pipelineTimeoutSec : Nat := 900

def extractApplyError (output : String) : String :=
  ((splitlines output).find? fun line => includes (lower line) "error:").getD
    "patch did not apply cleanly (git apply rejected it)"

def pctChange (baseline value : ℚ) : Except PyExn ℚ :=
  if baseline = 0 then .error .zeroDivisionError
  else .ok ((value - baseline) / baseline * 100)

def roundedChange (baseline : ℚ) (value : Option ℚ) : Except PyExn (Option ℚ) :=
  match value with
  | none => .ok none
  | some value => (pctChange baseline value).map fun change => some (round change 2)

def comparison (baseline : Baseline) (result : BenchmarkData) : Except PyExn Comparison := do
  let latency ← roundedChange baseline.schedulerLatencyP99Us
    (result.schedulerLatency.map Latency.p99Us)
  let creation ← roundedChange baseline.processCreationMeanUs
    (result.processCreation.map Latency.meanUs)
  let switches ← roundedChange baseline.switchesPerSec
    (result.contextSwitch.map ContextSwitch.switchesPerSec)
  pure ⟨latency, creation, switches⟩

def note : String :=
  "Single run against the pre-captured baseline average (3 runs) -- expect more " ++
  "run-to-run variance than the 3-run comparisons on the main dashboard. Avoid " ++
  "running other CPU-heavy work on this machine while a pipeline run is in " ++
  "progress: the QEMU guest's vCPUs share physical cores with the host, so host " ++
  "load shows up as scheduler_latency noise that has nothing to do with the " ++
  "patch (observed once: a concurrent `npm run build` inflated p99 to 130ms vs " ++
  "an isolated re-run's 3.9ms for the identical patch)."

/-- The error event for a non-zero return code. -/
def failureEvent (output : String) (returncode : Int) : Event :=
  if ¬ includes output "@@STAGE:apply:done@@" then
    .error (some "apply") (extractApplyError output)
  else if ¬ includes output "@@STAGE:build:done@@" then
    .error (some "build") ("kernel build failed (exit " ++ toString returncode ++ ")")
  else
    .error (some "boot") ("boot/benchmark failed (exit " ++ toString returncode ++ ")")

def compareAndReport (db : CharDb) (output : String) : Pipeline Unit := do
  yieldEvent (.stage "compare" "start")
  let result ← fromExcept (parseBenchmarkOutput db output)
  let baseline ← ask .readResults
  let changes ← fromExcept (comparison baseline result)
  yieldEvent (.stage "compare" "done")
  yieldEvent (.stage "report" "start")
  yieldEvent (.patchResult result changes note)
  yieldEvent (.stage "report" "done")

def runPatchPipeline (db : CharDb) (patchText : String) (lines : List String) :
    Pipeline Unit :=
  if strip patchText = "" then
    yieldEvent (.error none "empty patch")
  else if maxPatchBytes < patchText.utf8ByteSize then
    yieldEvent (.error none
      ("patch too large (max " ++ toString maxPatchBytes ++ " bytes)"))
  else do
    ask .makeScratchRoot
    ask .makeTmpdir
    withFinally
      (do
        ask (.writePatch patchText)
        ask (.popen "kernel-sprint-src")
        match ← relayAndWait db lines pipelineTimeoutSec
            ("pipeline exceeded " ++ toString pipelineTimeoutSec ++ "s time limit") with
        | none => pure ()
        | some returncode =>
            if returncode ≠ 0 then
              yieldEvent (failureEvent (String.join lines) returncode)
            else compareAndReport db (String.join lines))
      (ask .removeTmpdir)

end KernelSprint.Pipelines

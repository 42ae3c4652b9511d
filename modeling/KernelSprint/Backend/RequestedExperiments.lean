import KernelSprint.Backend.Experiments
import KernelSprint.Backend.NetworkDelay
import KernelSprint.Backend.SchedulerExperiment

/-!
# The experiments as clients request them

The four generators of `experiments_agent` on parameters that may be any JSON
value.  What follows the clamping takes numbers only.
-/

set_option autoImplicit false

namespace KernelSprint.RequestedExperiments

open Generators Generators.Gen PyText BenchmarkOutput
open Docker (CompletedProcess)
open NetworkDelay (Scalar Param clampBetween)
open Experiments (Throughput contextSwitchResult ipcResult)
open SchedulerExperiment (improvement note)

inductive Exec where
  | compile (src out : String) (extraFlags : List String)
  | run (argv : List String)
  /-- `_read_base_slice` -/
  | catBaseSlice
  /-- `_write_base_slice` -/
  | echoBaseSlice (value : Nat)

/-- A program answers with its standard output. -/
abbrev Exec.Answer : Exec → Type
  | .compile _ _ _ => CompletedProcess
  | .run _ => String
  | .catBaseSlice => Nat
  | .echoBaseSlice _ => Unit

inductive Event where
  | start (test : String)
  | error (message : String)
  | sampleSlice (phase : String) (baseSliceNs : Nat)
  | sampleResult (phase : String) (result : Option Latency)
  | schedulerOptimization (before after : Option Latency) (p99ImprovementPct : Option ℚ)
      (note : String)
  | processCreation (iterations : Scalar) (result : Option Latency)
  | contextSwitch (roundTrips : Scalar) (result : Option ContextSwitch)
  | ipcPerformance (chunkBytes : Scalar) (result : Option Throughput)
  deriving DecidableEq

abbrev Experiment (α : Type) := Gen Exec Exec.Answer Event PyExn α

def exec (request : Exec) : Experiment request.Answer := perform request

section Agent

variable (db : CharDb)

/-- Both probes with the slice lowered in between. -/
def probes (iterations : Scalar) (original : Nat) :
    Experiment (Option Latency × Option Latency) := do
  yieldEvent (.sampleSlice "before" original)
  let before ← exec (.run ["/tmp/exp_scheduler_latency", iterations.text, "2000"])
  let beforeMetrics ← fromExcept (parseLatency db before)
  yieldEvent (.sampleResult "before" beforeMetrics)
  exec (.echoBaseSlice (original / 3))
  yieldEvent (.sampleSlice "after" (original / 3))
  let after ← exec (.run ["/tmp/exp_scheduler_latency", iterations.text, "2000"])
  let afterMetrics ← fromExcept (parseLatency db after)
  yieldEvent (.sampleResult "after" afterMetrics)
  pure (beforeMetrics, afterMetrics)

def optimizeScheduler (iterations : Scalar) : Experiment Unit := do
  yieldEvent (.start "scheduler_optimization")
  let compileResult ← exec
    (.compile "scheduler_latency.c" "/tmp/exp_scheduler_latency" ["-lpthread"])
  if compileResult.returncode ≠ 0 then
    yieldEvent (.error compileResult.stderr)
  else do
    let original ← exec .catBaseSlice
    let measured ← withFinally (probes db iterations original) (exec (.echoBaseSlice original))
    yieldEvent (.schedulerOptimization measured.1 measured.2
      (improvement measured.1 measured.2) (note original (original / 3)))

def schedulerOptimizationTest (iterations : Param) : Experiment Unit := do
  let iterations ← fromExcept (clampBetween 50 5000 iterations)
  optimizeScheduler db iterations

/-- Compiles, runs and reports. -/
def measured (test src out : String) (args : List String)
    (report : String → Except PyExn Event) : Experiment Unit := do
  yieldEvent (.start test)
  let compileResult ← exec (.compile src out [])
  if compileResult.returncode ≠ 0 then
    yieldEvent (.error compileResult.stderr)
  else do
    let stdout ← exec (.run (out :: args))
    let event ← fromExcept (report stdout)
    yieldEvent event

def measureCreation (iterations : Scalar) : Experiment Unit :=
  measured "process_creation" "process_creation.c" "/tmp/exp_process_creation"
    [iterations.text] fun out =>
      (parseLatency db out).map (.processCreation iterations)

def processCreationTest (iterations : Param) : Experiment Unit := do
  let iterations ← fromExcept (clampBetween 100 20000 iterations)
  measureCreation db iterations

def measureSwitching (roundTrips : Scalar) : Experiment Unit :=
  measured "context_switch" "context_switch.c" "/tmp/exp_context_switch"
    [roundTrips.text] fun out =>
      (contextSwitchResult db out).map (.contextSwitch roundTrips)

def contextSwitchTest (roundTrips : Param) : Experiment Unit := do
  let roundTrips ← fromExcept (clampBetween 1000 200000 roundTrips)
  measureSwitching db roundTrips

def measureThroughput (chunkBytes : Scalar) : Experiment Unit :=
  measured "ipc_performance" "ipc_throughput.c" "/tmp/exp_ipc_throughput"
    [chunkBytes.text, "32"] fun out =>
      (ipcResult db out).map (.ipcPerformance chunkBytes)

def ipcPerformanceTest (chunkBytes : Param) : Experiment Unit := do
  let chunkBytes ← fromExcept (clampBetween 64 1048576 chunkBytes)
  measureThroughput db chunkBytes

end Agent

/-! ## Requests with integers -/

/-- An integer, as Python formats it. -/
def whole (value : Int) : Scalar := .finite value (toString value)

theorem ofNat_eq_whole (value : Nat) : Scalar.ofNat value = whole value := rfl

theorem whole_less (x y : Int) : (whole x).less (whole y) = decide (x < y) :=
  decide_eq_decide.mpr Int.cast_lt

theorem clampBetween_whole (low high : Nat) (value : Int) :
    clampBetween low high (some (whole value)) = .ok (whole (max low (min high value))) := by
  have least : NetworkDelay.pyMin (whole high) (whole value) = whole (min high value) := by
    rw [NetworkDelay.pyMin, whole_less, min_def]
    by_cases smaller : value < high
    · simp only [smaller, decide_true, ↓reduceIte, if_neg (not_le.mpr smaller)]
    · simp only [smaller, decide_false, Bool.false_eq_true, ↓reduceIte,
        if_pos (not_lt.mp smaller)]
  have greatest : ∀ other, NetworkDelay.pyMax (whole low) (whole other) =
      whole (max low other) := by
    intro other
    rw [NetworkDelay.pyMax, whole_less, max_def]
    by_cases larger : (low : Int) < other
    · simp only [larger, larger.le, decide_true, ↓reduceIte]
    · by_cases same : (low : Int) = other
      · simp only [same, lt_irrefl, le_refl, decide_false, Bool.false_eq_true, ↓reduceIte]
      · simp only [larger, decide_false, Bool.false_eq_true, ↓reduceIte,
          if_neg fun above => larger (lt_of_le_of_ne above same)]
  simp only [clampBetween, ofNat_eq_whole, least, greatest]

section SingleRuns

def singleExec : Experiments.Exec → Exec
  | .compile src out => .compile src out []
  | .run argv => .run argv

def singleAnswer : (request : Experiments.Exec) → (singleExec request).Answer → request.Answer
  | .compile _ _ => id
  | .run _ => id

def singleEvent : Experiments.Event → Event
  | .start test => .start test
  | .error message => .error message
  | .processCreation iterations result => .processCreation (whole iterations) result
  | .contextSwitch roundTrips result => .contextSwitch (whole roundTrips) result
  | .ipcPerformance chunkBytes result => .ipcPerformance (whole chunkBytes) result

theorem measured_rename (test src out : String) (args : List String)
    (report : String → Except PyExn Experiments.Event) :
    (Experiments.measured test src out args report).rename singleExec singleAnswer singleEvent =
      measured test src out args fun stdout => (report stdout).map singleEvent := by
  refine rename_event _ _ _ _ _ _ fun _ => rename_perform _ _ _ _ _ _ fun compileResult => ?_
  change rename _ _ _ (ite (compileResult.returncode ≠ 0) _ _) = _
  split
  · exact rename_yieldEvent ..
  · refine rename_perform _ _ _ _ _ _ fun stdout => ?_
    change rename _ _ _ (fromExcept (report stdout) >>= _) =
      fromExcept ((report stdout).map singleEvent) >>= yieldEvent
    rw [rename_bind, rename_fromExcept]
    cases report stdout with
    | error exn => rfl
    | ok event => exact rename_yieldEvent ..

/-- On an integer `process_creation_test` is the code modelled over integers. -/
theorem processCreationTest_whole (db : CharDb) (iterations : Int) :
    processCreationTest db (some (whole iterations)) =
      (Experiments.processCreationTest db iterations).rename
        singleExec singleAnswer singleEvent := by
  rw [Experiments.processCreationTest, measured_rename, processCreationTest, clampBetween_whole]
  change measured _ _ _ _ _ = _
  congr 1
  funext out
  cases parseLatency db out <;> rfl

theorem contextSwitchTest_whole (db : CharDb) (roundTrips : Int) :
    contextSwitchTest db (some (whole roundTrips)) =
      (Experiments.contextSwitchTest db roundTrips).rename
        singleExec singleAnswer singleEvent := by
  rw [Experiments.contextSwitchTest, measured_rename, contextSwitchTest, clampBetween_whole]
  change measured _ _ _ _ _ = _
  congr 1
  funext out
  cases contextSwitchResult db out <;> rfl

theorem ipcPerformanceTest_whole (db : CharDb) (chunkBytes : Int) :
    ipcPerformanceTest db (some (whole chunkBytes)) =
      (Experiments.ipcPerformanceTest db chunkBytes).rename
        singleExec singleAnswer singleEvent := by
  rw [Experiments.ipcPerformanceTest, measured_rename, ipcPerformanceTest, clampBetween_whole]
  change measured _ _ _ _ _ = _
  congr 1
  funext out
  cases ipcResult db out <;> rfl

end SingleRuns

section Scheduler

def sliceExec : SchedulerExperiment.Exec → Exec
  | .compile src out extraFlags => .compile src out extraFlags
  | .catBaseSlice => .catBaseSlice
  | .echoBaseSlice value => .echoBaseSlice value
  | .latencyProbe iterations => .run ["/tmp/exp_scheduler_latency", toString iterations, "2000"]

def sliceAnswer :
    (request : SchedulerExperiment.Exec) → (sliceExec request).Answer → request.Answer
  | .compile _ _ _ => id
  | .catBaseSlice => id
  | .echoBaseSlice _ => id
  | .latencyProbe _ => id

def sliceEvent : SchedulerExperiment.Event → Event
  | .start test => .start test
  | .error message => .error message
  | .sampleSlice phase baseSliceNs => .sampleSlice phase baseSliceNs
  | .sampleResult phase result => .sampleResult phase result
  | .result before after p99ImprovementPct note =>
      .schedulerOptimization before after p99ImprovementPct note

/-- The same for the code of the runs over the shared kernel. -/
theorem schedulerOptimizationTest_whole (db : CharDb) (iterations : Int) :
    schedulerOptimizationTest db (some (whole iterations)) =
      (SchedulerExperiment.schedulerOptimizationTest db iterations).rename
        sliceExec sliceAnswer sliceEvent := by
  rw [schedulerOptimizationTest, clampBetween_whole]
  change optimizeScheduler db _ = _
  unfold optimizeScheduler SchedulerExperiment.schedulerOptimizationTest
  symm
  refine rename_event _ _ _ _ _ _ fun _ => rename_perform _ _ _ _ _ _ fun compileResult => ?_
  change rename _ _ _ (ite (compileResult.returncode ≠ 0) _ _) = _
  split
  · exact rename_yieldEvent ..
  · refine rename_perform _ _ _ _ _ _ fun original => ?_
    refine rename_sequence _ _ _ _ _ (rename_finally _ _ _ _ _ _ _ ?_ ?_) fun measured =>
      rename_yieldEvent ..
    · refine rename_event _ _ _ _ _ _ fun _ => rename_perform _ _ _ _ _ _ fun before => ?_
      refine rename_sequence _ _ _ _ _ (rename_fromExcept ..) fun beforeMetrics => ?_
      refine rename_event _ _ _ _ _ _ fun _ => rename_perform _ _ _ _ _ _ fun _ => ?_
      refine rename_event _ _ _ _ _ _ fun _ => rename_perform _ _ _ _ _ _ fun after => ?_
      refine rename_sequence _ _ _ _ _ (rename_fromExcept ..) fun afterMetrics => ?_
      exact rename_event _ _ _ _ _ _ fun _ => rfl
    · change Gen.call _ _ = Gen.call _ _
      congr 1
      funext reply
      cases reply <;> rfl

end Scheduler

end KernelSprint.RequestedExperiments

import KernelSprint.Backend.BenchmarkOutput
import KernelSprint.Backend.Docker
import KernelSprint.Lib.Generator

/-!
# The scheduler optimization experiment

`scheduler_optimization_test` of `experiments_agent` reads the kernel's
`base_slice_ns`, probes, lowers it to a third, probes again and writes back
what it read.  Worker threads of any number of connections run it over the
one kernel; each docker exec is one atomic step.  `SliceRun` is the control
skeleton of a run, and every thread of generators follows it.
-/

set_option autoImplicit false

namespace KernelSprint.SchedulerExperiment

open Labelled Interleaving Generators Generators.Gen PyText BenchmarkOutput
open Docker (CompletedProcess)

inductive Exec where
  | compile (src out : String) (extraFlags : List String)
  /-- `_read_base_slice` -/
  | catBaseSlice
  /-- `_write_base_slice` -/
  | echoBaseSlice (value : Nat)
  | latencyProbe (iterations : Int)

/-- A probe answers with its standard output. -/
abbrev Exec.Answer : Exec → Type
  | .compile _ _ _ => CompletedProcess
  | .catBaseSlice => Nat
  | .echoBaseSlice _ => Unit
  | .latencyProbe _ => String

inductive Event where
  | start (test : String)
  | error (message : String)
  | sampleSlice (phase : String) (baseSliceNs : Nat)
  | sampleResult (phase : String) (result : Option Latency)
  | result (before after : Option Latency) (p99ImprovementPct : Option ℚ) (note : String)
  deriving DecidableEq

abbrev Experiment (α : Type) := Gen Exec Exec.Answer Event PyExn α

def exec (request : Exec) : Experiment request.Answer := perform request

/-- `none` when a figure is missing or zero. -/
def improvement (before after : Option Latency) : Option ℚ :=
  match before, after with
  | some before, some after =>
      if before.p99Us ≠ 0 ∧ after.p99Us ≠ 0 then
        some (round ((before.p99Us - after.p99Us) / before.p99Us * 100) 1)
      else none
  | _, _ => none

def note (original reduced : Nat) : String :=
  "base_slice_ns temporarily reduced " ++ toString original ++ " -> " ++
    toString reduced ++ " on this container's live kernel for the 'after' run, " ++
    "then restored -- same mechanism as patches/scheduler-optimization.patch."

def schedulerOptimizationTest (db : CharDb) (iterations : Int) : Experiment Unit := do
  let iterations := max 50 (min 5000 iterations)
  yieldEvent (.start "scheduler_optimization")
  let compileResult ← exec
    (.compile "scheduler_latency.c" "/tmp/exp_scheduler_latency" ["-lpthread"])
  if compileResult.returncode ≠ 0 then
    yieldEvent (.error compileResult.stderr)
  else do
    let original ← exec .catBaseSlice
    let reduced := original / 3
    let measured ← withFinally
      (do
        yieldEvent (.sampleSlice "before" original)
        let before ← exec (.latencyProbe iterations)
        let beforeMetrics ← fromExcept (parseLatency db before)
        yieldEvent (.sampleResult "before" beforeMetrics)
        exec (.echoBaseSlice reduced)
        yieldEvent (.sampleSlice "after" reduced)
        let after ← exec (.latencyProbe iterations)
        let afterMetrics ← fromExcept (parseLatency db after)
        yieldEvent (.sampleResult "after" afterMetrics)
        pure (beforeMetrics, afterMetrics))
      (exec (.echoBaseSlice original))
    yieldEvent (.result measured.1 measured.2 (improvement measured.1 measured.2)
      (note original reduced))

/-! ## The kernel that the runs share -/

/-- `clock` counts docker execs, so that two probes may print differently. -/
structure Kernel where
  baseSliceNs : Nat
  clock : Nat
  deriving DecidableEq, Repr

def Kernel.tick (kernel : Kernel) : Kernel := { kernel with clock := kernel.clock + 1 }

/-- What the probe prints at a given time; a successful probe prints a report
that decodes. -/
structure Probe (db : CharDb) where
  stdout : Nat → Int → String
  decodes : ∀ clock iterations,
    ∃ metrics, parseLatency db (stdout clock iterations) = .ok metrics

variable {db : CharDb}

/-- Every exec succeeds. -/
def answer (probe : Probe db) (kernel : Kernel) :
    (request : Exec) → Kernel × Except PyExn request.Answer
  | .compile _ _ _ => (kernel.tick, .ok ⟨0, "", ""⟩)
  | .catBaseSlice => (kernel.tick, .ok kernel.baseSliceNs)
  | .echoBaseSlice value => ({ kernel.tick with baseSliceNs := value }, .ok ())
  | .latencyProbe iterations => (kernel.tick, .ok (probe.stdout kernel.clock iterations))

abbrev Worker := Suspended Exec Exec.Answer Event PyExn Unit

/-- One thread for each request, with the iterations it asks for. -/
def workers (probe : Probe db) : Program Kernel Worker Int :=
  program (schedulerOptimizationTest db) (answer probe)

/-- The iterations of the probe that the thread executes next. -/
def nextProbe (worker : Worker) : Option Int :=
  match worker.rest with
  | .call (.latencyProbe iterations) _ => some iterations
  | _ => none

/-! ## The control skeleton -/

inductive SliceRun (α : Type) where
  | compile
  | read
  | before (original : α)
  | reduce (original : α)
  | after (original : α)
  | restore (original : α)
  | finished (original : α)
  deriving DecidableEq, Repr

/-- `lower` is what the reducing write makes of the original slice. -/
def sliceProgram {α : Type} (lower : α → α) : Program α (SliceRun α) Int where
  start _ := .compile
  step slice
    | .compile => some (slice, .read)
    | .read => some (slice, .before slice)
    | .before original => some (slice, .reduce original)
    | .reduce original => some (lower original, .after original)
    | .after original => some (slice, .restore original)
    | .restore original => some (original, .finished original)
    | .finished _ => none

/-! ## Threads follow the skeleton -/

section Follows

variable (db)

/-- The rest of the run from the second probe on. -/
def probeAfter (iterations : Int) (beforeMetrics : Option Latency) :
    Experiment (Option Latency × Option Latency) := do
  let after ← exec (.latencyProbe iterations)
  let afterMetrics ← fromExcept (parseLatency db after)
  yieldEvent (.sampleResult "after" afterMetrics)
  pure (beforeMetrics, afterMetrics)

def reduceAndProbe (iterations : Int) (original : Nat) (beforeMetrics : Option Latency) :
    Experiment (Option Latency × Option Latency) := do
  exec (.echoBaseSlice (original / 3))
  yieldEvent (.sampleSlice "after" (original / 3))
  probeAfter db iterations beforeMetrics

def probeBefore (iterations : Int) (original : Nat) :
    Experiment (Option Latency × Option Latency) := do
  let before ← exec (.latencyProbe iterations)
  let beforeMetrics ← fromExcept (parseLatency db before)
  yieldEvent (.sampleResult "before" beforeMetrics)
  reduceAndProbe db iterations original beforeMetrics

def restoreAfter (original : Nat)
    (body : Experiment (Option Latency × Option Latency)) : Experiment Unit := do
  let measured ← withFinally body (exec (.echoBaseSlice original))
  yieldEvent (.result measured.1 measured.2 (improvement measured.1 measured.2)
    (note original (original / 3)))

def readAndMeasure (iterations : Int) : Experiment Unit := do
  let original ← exec .catBaseSlice
  restoreAfter original do
    yieldEvent (.sampleSlice "before" original)
    probeBefore db iterations original

/-- The iterations that the agent makes of the request. -/
def clamped (asked : Int) : Int := max 50 (min 5000 asked)

/-- All that a run yields. -/
def script (original : Nat) (before after : Option Latency) : List Event := [
  .start "scheduler_optimization",
  .sampleSlice "before" original,
  .sampleResult "before" before,
  .sampleSlice "after" (original / 3),
  .sampleResult "after" after,
  .result before after (improvement before after) (note original (original / 3))]

/-- A run at a place of the skeleton; `before` and `after` are what its probes
have given, once they have been executed. -/
def workerAt (asked : Int) (before after : Option Latency) : SliceRun Nat → Worker
  | .compile => settle (schedulerOptimizationTest db asked) []
  | .read => settle (readAndMeasure db (clamped asked)) [.start "scheduler_optimization"]
  | .before original =>
      settle (restoreAfter original (probeBefore db (clamped asked) original))
        ((script original before after).take 2)
  | .reduce original =>
      settle (restoreAfter original (reduceAndProbe db (clamped asked) original before))
        ((script original before after).take 3)
  | .after original =>
      settle (restoreAfter original (probeAfter db (clamped asked) before))
        ((script original before after).take 4)
  | .restore original =>
      settle (restoreAfter original (pure (before, after))) ((script original before after).take 5)
  | .finished original => ⟨script original before after, .done ()⟩

/-- A thread has the rest of the run ahead of it that the skeleton says, and
has reported what it says. -/
def Follows (worker : Worker) (run : SliceRun Nat) : Prop :=
  ∃ asked before after, worker = workerAt db asked before after run

variable (asked : Int) (before after : Option Latency) (run : SliceRun Nat)

theorem workerAt_ended :
    (workerAt db asked before after run).Ended ↔ ∃ original, run = .finished original := by
  cases run with
  | finished original => exact ⟨fun _ => ⟨original, rfl⟩, fun _ => trivial⟩
  | _ => exact ⟨False.elim, fun ⟨_, h⟩ => by cases h⟩

/-- Only the two probing points of the skeleton probe next. -/
theorem workerAt_nextProbe :
    nextProbe (workerAt db asked before after run) = match run with
      | .before _ => some (clamped asked)
      | .after _ => some (clamped asked)
      | _ => none := by
  cases run <;> rfl

end Follows

/-- What is known of the two probes after a step. -/
def Learns (probe : Probe db) (kernel : Kernel) (asked : Int)
    (before after before' after' : Option Latency) : SliceRun Nat → Prop
  | .before _ =>
      parseLatency db (probe.stdout kernel.clock (clamped asked)) = .ok before' ∧ after' = after
  | .after _ =>
      before' = before ∧ parseLatency db (probe.stdout kernel.clock (clamped asked)) = .ok after'
  | _ => before' = before ∧ after' = after

theorem workerAt_step (probe : Probe db) (kernel kernel' : Kernel) (worker' : Worker)
    (asked : Int) (before after : Option Latency) (run : SliceRun Nat)
    (stepped : (workers probe).step kernel (workerAt db asked before after run) =
      some (kernel', worker')) :
    ∃ slice' run' before' after',
      (sliceProgram (· / 3)).step kernel.baseSliceNs run = some (slice', run') ∧
        kernel' = ⟨slice', kernel.clock + 1⟩ ∧ worker' = workerAt db asked before' after' run' ∧
          Learns probe kernel asked before after before' after' run := by
  cases run with
  | before original =>
      obtain ⟨metrics, parsed⟩ := probe.decodes kernel.clock (clamped asked)
      cases Option.some.inj stepped
      refine ⟨_, _, metrics, after, rfl, rfl, ?_, parsed, rfl⟩
      change settle (restoreAfter original do
        let beforeMetrics ← fromExcept (parseLatency db
          (probe.stdout kernel.clock (clamped asked)))
        yieldEvent (.sampleResult "before" beforeMetrics)
        reduceAndProbe db (clamped asked) original beforeMetrics) _ = _
      rw [parsed]
      rfl
  | after original =>
      obtain ⟨metrics, parsed⟩ := probe.decodes kernel.clock (clamped asked)
      cases Option.some.inj stepped
      refine ⟨_, _, before, metrics, rfl, rfl, ?_, rfl, parsed⟩
      change settle (restoreAfter original do
        let afterMetrics ← fromExcept (parseLatency db
          (probe.stdout kernel.clock (clamped asked)))
        yieldEvent (.sampleResult "after" afterMetrics)
        pure (before, afterMetrics)) _ = _
      rw [parsed]
      rfl
  | finished original => cases stepped
  | _ =>
      cases Option.some.inj stepped
      exact ⟨_, _, before, after, rfl, rfl, rfl, rfl, rfl⟩

theorem worker_step (probe : Probe db) (kernel kernel' : Kernel) (worker worker' : Worker)
    (run : SliceRun Nat) (follows : Follows db worker run)
    (stepped : (workers probe).step kernel worker = some (kernel', worker')) :
    ∃ slice' run', (sliceProgram (· / 3)).step kernel.baseSliceNs run = some (slice', run') ∧
      kernel'.baseSliceNs = slice' ∧ Follows db worker' run' := by
  obtain ⟨asked, before, after, rfl⟩ := follows
  obtain ⟨slice', run', before', after', skeleton, rfl, followed, -⟩ :=
    workerAt_step probe kernel kernel' worker' asked before after run stepped
  exact ⟨slice', run', skeleton, rfl, asked, before', after', followed⟩

end KernelSprint.SchedulerExperiment

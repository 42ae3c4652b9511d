import Mathlib.Tactic.Linarith
import KernelSprint.Backend.ChaosAgent
import KernelSprint.Backend.Relay
import KernelSprint.Backend.RequestedExperiments

/-!
# Running what a client names

The five injections and the four experiments with their parameters clamped,
in a container whose commands succeed.  Each of them comes to its end and
reports a result or an error last.
-/

set_option autoImplicit false

namespace KernelSprint.RequestedActions

open Generators Generators.Gen PyText Relay
open Docker (CompletedProcess)
open NetworkDelay (Scalar maxDurationSec)
open StreamMetrics (cpuStat catProcStat)

/-! ## The container -/

/-- What container and clock have ready for one call: outputs that the agents can
decode, and the time that the call takes. -/
structure Moment (db : CharDb) where
  exec : List String → CompletedProcess
  read : List String → String
  running : Bool
  compile : CompletedProcess
  run : List String → String
  baseSliceNs : Nat
  passes : ℚ
  forward : 0 ≤ passes
  cores : ∃ count, ChaosAgent.coreCount db (exec ["nproc"]).stdout = .ok count
  times : ∃ times, cpuStat db (read catProcStat) = .ok times
  scheduled : ∀ args, ∃ result,
    BenchmarkOutput.parseLatency db (run ("/tmp/exp_scheduler_latency" :: args)) = .ok result
  created : ∀ args, ∃ result,
    BenchmarkOutput.parseLatency db (run ("/tmp/exp_process_creation" :: args)) = .ok result
  switched : ∀ args, ∃ result,
    Experiments.contextSwitchResult db (run ("/tmp/exp_context_switch" :: args)) = .ok result
  transferred : ∀ args, ∃ result,
    Experiments.ipcResult db (run ("/tmp/exp_ipc_throughput" :: args)) = .ok result

structure Environment (db : CharDb) where
  clock : ℚ
  usual : Moment db
  moments : List (Moment db)

variable {db : CharDb}

def Moment.inject (moment : Moment db) (clock : ℚ) : (request : ChaosAgent.Call) → request.Answer
  | .exec argv => moment.exec argv
  | .read argv => moment.read argv
  | .popen _ => ()
  | .time => clock
  | .running => moment.running
  | .sleep _ => ()
  | .wait => ()
  | .run argv _ => moment.exec argv

def Moment.delay (moment : Moment db) : (request : NetworkDelay.Call) → request.Answer
  | .qdiscAdd delay =>
      moment.exec ["tc", "qdisc", "add", "dev", "eth0", "root", "netem", "delay", delay]
  | .qdiscDel => moment.exec ["tc", "qdisc", "del", "dev", "eth0", "root", "netem"]
  | .sleep _ => ()

def Moment.measure (moment : Moment db) :
    (request : RequestedExperiments.Exec) → request.Answer
  | .compile _ _ _ => moment.compile
  | .run argv => moment.run argv
  | .catBaseSlice => moment.baseSliceNs
  | .echoBaseSlice _ => ()

def slept : ChaosAgent.Call → ℚ
  | .sleep seconds => seconds
  | _ => 0

/-- The clock goes on by what the call takes, a sleep by at least its length. -/
def injectionWorld (usual : Moment db) : World ℚ (Moment db) ChaosAgent.Call
    ChaosAgent.Call.Answer ChaosAgent.Event ChaosAgent.Failure :=
  reliable usual fun clock moment request =>
    (clock + slept request + moment.passes, moment.inject clock request)

def delayWorld (usual : Moment db) : World Unit (Moment db) NetworkDelay.Call
    NetworkDelay.Call.Answer NetworkDelay.Event PyExn :=
  reliable usual fun _ moment request => ((), moment.delay request)

def experimentWorld (usual : Moment db) : World Unit (Moment db) RequestedExperiments.Exec
    RequestedExperiments.Exec.Answer RequestedExperiments.Event PyExn :=
  reliable usual fun _ moment request => ((), moment.measure request)

/-! ## The jobs -/

/-- A factory's function with its parameters clamped. -/
inductive Job where
  | cpu (loadPct durationSec : Scalar)
  | memory (pct durationSec : Scalar)
  | disk (durationSec : Scalar)
  | network (delayMs durationSec : Scalar)
  | kill
  | schedulerOptimization (iterations : Scalar)
  | processCreation (iterations : Scalar)
  | contextSwitch (roundTrips : Scalar)
  | ipcPerformance (chunkBytes : Scalar)

def Job.name : Job → String
  | .cpu _ _ => "cpu"
  | .memory _ _ => "memory"
  | .disk _ => "disk"
  | .network _ _ => "network"
  | .kill => "kill"
  | .schedulerOptimization _ => "scheduler_optimization"
  | .processCreation _ => "process_creation"
  | .contextSwitch _ => "context_switch"
  | .ipcPerformance _ => "ipc_performance"

def Within (low high : Nat) (value : Scalar) : Prop :=
  ∃ amount text, value = .finite amount text ∧ low ≤ amount ∧ amount ≤ high

/-- The ranges that the agents clamp to. -/
def Job.InRange : Job → Prop
  | .cpu loadPct durationSec => Within 1 100 loadPct ∧ Within 1 maxDurationSec durationSec
  | .memory pct durationSec => Within 1 90 pct ∧ Within 1 maxDurationSec durationSec
  | .disk durationSec => Within 1 maxDurationSec durationSec
  | .network delayMs durationSec => Within 1 2000 delayMs ∧ Within 1 maxDurationSec durationSec
  | .kill => True
  | .schedulerOptimization iterations => Within 50 5000 iterations
  | .processCreation iterations => Within 100 20000 iterations
  | .contextSwitch roundTrips => Within 1000 200000 roundTrips
  | .ipcPerformance chunkBytes => Within 64 1048576 chunkBytes

/-- `network_delay` behind the clamping. -/
def applyDelay (delayMs durationSec : Scalar) : NetworkDelay.Injection Unit := do
  yieldEvent (.start delayMs durationSec)
  let add ← NetworkDelay.exec (.qdiscAdd (NetworkDelay.delayText delayMs))
  if add.returncode ≠ 0 then
    yieldEvent (NetworkDelay.refusedEvent add)
  else do
    withFinally (NetworkDelay.exec (.sleep durationSec)) do
      let _ ← NetworkDelay.exec .qdiscDel
    yieldEvent (NetworkDelay.appliedEvent delayMs durationSec)

inductive Event where
  | injection (event : ChaosAgent.Event)
  | network (event : NetworkDelay.Event)
  | experiment (event : RequestedExperiments.Event)
  deriving DecidableEq

/-- The `type` of an event. -/
def injectionType : ChaosAgent.Event → String
  | .startCpu _ _ | .startMemory _ _ | .startDisk _ | .startKill => "start"
  | .sampleCpu _ | .sampleMemory _ | .sampleMessage _ => "sample"
  | .resultCpu _ _ _ _ | .resultMemory _ _ _ _ | .resultDisk _ _ _ _
  | .resultKill _ _ _ _ => "result"

def networkType : NetworkDelay.Event → String
  | .start _ _ => "start"
  | .result _ _ _ => "result"

def experimentType : RequestedExperiments.Event → String
  | .start _ => "start"
  | .error _ => "error"
  | .sampleSlice _ _ | .sampleResult _ _ => "sample"
  | .schedulerOptimization _ _ _ _ | .processCreation _ _ | .contextSwitch _ _
  | .ipcPerformance _ _ => "result"

def Event.type : Event → String
  | .injection event => injectionType event
  | .network event => networkType event
  | .experiment event => experimentType event

def FinalType (type : String) : Prop := type = "result" ∨ type = "error"

def raised {Exn α : Type} : Except Exn α → Bool
  | .ok _ => false
  | .error _ => true

section Worker

variable (env : Environment db)

/-- What the worker thread gets out of an injection. -/
def injected (code : ChaosAgent.Injection Unit) : Outcome Event :=
  let course := code.course (injectionWorld env.usual) env.clock env.moments
  ⟨course.events.map .injection, raised course.result⟩

def delayed (code : NetworkDelay.Injection Unit) : Outcome Event :=
  let course := code.course (delayWorld env.usual) () env.moments
  ⟨course.events.map .network, raised course.result⟩

def experimented (code : RequestedExperiments.Experiment Unit) : Outcome Event :=
  let course := code.course (experimentWorld env.usual) () env.moments
  ⟨course.events.map .experiment, raised course.result⟩

def Job.outcome : Job → Outcome Event
  | .cpu loadPct durationSec => injected env (ChaosAgent.stressCpu db loadPct durationSec)
  | .memory pct durationSec => injected env (ChaosAgent.stressMemory db pct durationSec)
  | .disk durationSec => injected env (ChaosAgent.stressDisk durationSec)
  | .network delayMs durationSec => delayed env (applyDelay delayMs durationSec)
  | .kill => injected env (ChaosAgent.killProcessDemo db)
  | .schedulerOptimization iterations =>
      experimented env (RequestedExperiments.optimizeScheduler db iterations)
  | .processCreation iterations =>
      experimented env (RequestedExperiments.measureCreation db iterations)
  | .contextSwitch roundTrips =>
      experimented env (RequestedExperiments.measureSwitching db roundTrips)
  | .ipcPerformance chunkBytes =>
      experimented env (RequestedExperiments.measureThroughput db chunkBytes)

end Worker

/-! ## The injections come to an end -/

section Injections

open ChaosAgent

variable (usual : Moment db)

theorem orRaise_returns {α : Type} (result : Except PyExn α) (value : α) (clock : ℚ)
    (post : α → ℚ → Prop) (fine : result = .ok value) (holds : post value clock) :
    Returns (injectionWorld usual) (orRaise result) clock post :=
  returns_fromExcept _ value clock post (by rw [fine]; rfl) holds

theorem clock_forward (moment : Moment db) (request : Call) (clock : ℚ) :
    clock + slept request ≤ clock + slept request + moment.passes :=
  le_add_of_nonneg_right moment.forward

theorem clock_onward (moment : Moment db) (request : Call) (clock : ℚ)
    (awake : slept request = 0) : clock ≤ clock + slept request + moment.passes := by
  have forward := clock_forward moment request clock
  rwa [awake, add_zero] at forward ⊢

theorem readCpuStat_returns (clock : ℚ) :
    Returns (injectionWorld usual) (readCpuStat db) clock fun _ later => clock ≤ later := by
  refine returns_after_ask usual _ _ _ clock _ fun moment => ?_
  obtain ⟨times, fine⟩ := moment.times
  exact orRaise_returns usual _ times _ _ fine (clock_onward moment _ clock rfl)

theorem readMemoryPct_returns (clock : ℚ) :
    Returns (injectionWorld usual) (readMemoryPct db) clock fun _ later => clock ≤ later := by
  refine returns_after_ask usual _ _ _ clock _ fun moment => ?_
  exact returns_pure _ _ _ (clock_onward moment _ clock rfl)

theorem sleep_returns (seconds clock : ℚ) :
    Returns (injectionWorld usual) (ask (.sleep seconds)) clock
      fun _ later => clock + seconds ≤ later :=
  returns_ask usual _ _ clock _ fun moment => clock_forward moment (.sleep seconds) clock

section Rounds

variable (amount : ℚ) (text : String) (bounded : amount ≤ maxDurationSec) (start : ℚ)

/-- The head of a loop: it goes on only if the time is not up. -/
theorem head_returns {α : Type} (next : Bool → Injection α) (clock : ℚ) (post : α → ℚ → Prop)
    (goes : ∀ running later, clock ≤ later → (running = true → clock < start + amount + 1) →
      Returns (injectionWorld usual) (next running) later post) :
    Returns (injectionWorld usual)
      (do
        let now ← ask .time
        let running ← if lasts (.finite amount text) (now - start) then ask .running else pure false
        next running)
      clock post := by
  refine returns_after_ask usual _ _ _ clock _ fun moment => ?_
  have after := clock_onward moment .time clock rfl
  change Returns _ (if lasts (.finite amount text) (clock - start) then ask .running >>= next
    else pure false >>= next) _ _
  by_cases going : lasts (.finite amount text) (clock - start) = true
  · have early : clock - start < amount + 1 := of_decide_eq_true going
    rw [if_pos going]
    refine returns_after_ask usual _ _ _ _ _ fun moment' => ?_
    have after' := clock_onward moment' .running (clock + slept .time + moment.passes) rfl
    exact goes _ _ (after.trans after') fun _ => by linarith
  · rw [if_neg going]
    exact goes false _ after fun running => nomatch running

theorem enough_later (fuel : Nat) (clock later : ℚ) (slept : clock + 1 ≤ later)
    (enough : start + maxRounds ≤ clock + (fuel + 1 : Nat)) :
    start + maxRounds ≤ later + fuel := by
  push_cast at enough
  linarith

include bounded

theorem more_fuel (fuel : Nat) (clock : ℚ) (enough : start + maxRounds ≤ clock + (fuel + 1 : Nat))
    (early : clock < start + amount + 1) : 1 ≤ fuel := by
  have top : ((maxRounds : Nat) : ℚ) = maxDurationSec + 2 := by norm_num [maxRounds]
  rw [top] at enough
  push_cast at enough
  have positive : (0 : ℚ) < fuel := by linarith
  exact_mod_cast positive

/-- The rounds last a second each, so the time is up before the fuel is. -/
theorem cpuRounds_returns (fuel : Nat) (samples : List ℚ) (clock : ℚ) (left : 1 ≤ fuel)
    (enough : start + maxRounds ≤ clock + fuel) :
    Returns (injectionWorld usual) (cpuRounds db (.finite amount text) start fuel samples) clock
      fun _ _ => True := by
  induction fuel generalizing samples clock with
  | zero => exact absurd left (by decide)
  | succ fuel ih =>
      refine head_returns usual amount text start _ clock _ fun running later after early => ?_
      cases running with
      | false => exact returns_pure _ later _ trivial
      | true =>
          have more := more_fuel amount bounded start fuel clock enough (early rfl)
          refine returns_bind _ _ later _ _ (readCpuStat_returns usual later) ?_
          intro first later₁ after₁
          refine returns_bind _ _ later₁ _ _ (sleep_returns usual 1 later₁) ?_
          intro _ later₂ after₂
          refine returns_bind _ _ later₂ _ _ (readCpuStat_returns usual later₂) ?_
          intro second later₃ after₃
          refine returns_after_hand usual _ _ _ later₃ _ ?_
          exact ih _ later₃ more
            (enough_later start fuel clock later₃ (by linarith) enough)

theorem memoryRounds_returns (fuel : Nat) (samples : List ℚ) (clock : ℚ) (left : 1 ≤ fuel)
    (enough : start + maxRounds ≤ clock + fuel) :
    Returns (injectionWorld usual) (memoryRounds db (.finite amount text) start fuel samples) clock
      fun _ _ => True := by
  induction fuel generalizing samples clock with
  | zero => exact absurd left (by decide)
  | succ fuel ih =>
      refine head_returns usual amount text start _ clock _ fun running later after early => ?_
      cases running with
      | false => exact returns_pure _ later _ trivial
      | true =>
          have more := more_fuel amount bounded start fuel clock enough (early rfl)
          refine returns_bind _ _ later _ _ (readMemoryPct_returns usual later) ?_
          intro memPct later₁ after₁
          cases memPct with
          | none =>
              refine returns_bind _ _ later₁ _ _ (sleep_returns usual 1 later₁) ?_
              intro _ later₂ after₂
              exact ih _ later₂ more (enough_later start fuel clock later₂ (by linarith) enough)
          | some memPct =>
              refine returns_after_hand usual _ _ _ later₁ _ ?_
              refine returns_bind _ _ later₁ _ _ (sleep_returns usual 1 later₁) ?_
              intro _ later₂ after₂
              exact ih _ later₂ more (enough_later start fuel clock later₂ (by linarith) enough)

end Rounds

abbrev InjectionConcludes (code : Injection Unit) (clock : ℚ) : Prop :=
  Concludes (injectionWorld usual) (fun event => FinalType (injectionType event)) code clock

theorem stressCpu_concludes (loadPct durationSec : Scalar)
    (within : Within 1 maxDurationSec durationSec) (clock : ℚ) :
    InjectionConcludes usual (stressCpu db loadPct durationSec) clock := by
  obtain ⟨amount, text, rfl, _, bounded⟩ := within
  refine concludes_after_ask usual _ _ _ _ clock fun moment => ?_
  obtain ⟨count, fine⟩ := moment.cores
  refine concludes_bind _ _ _ _ (fun _ _ => True)
    (orRaise_returns usual _ count _ _ fine trivial) ?_
  intro ncpus clock₁ _
  refine concludes_after_hand usual _ _ _ _ clock₁ ?_
  refine concludes_after_ask usual _ _ _ _ clock₁ fun _ => ?_
  refine concludes_after_ask usual _ _ _ _ _ fun begun => ?_
  refine concludes_bind _ _ _ _ (fun _ _ => True)
    (cpuRounds_returns usual amount text bounded _ maxRounds [] _ (by decide) ?_) ?_
  · exact add_le_add_left (clock_onward begun .time _ rfl) _
  intro samples clock₂ _
  refine concludes_after_ask usual _ _ _ _ clock₂ fun _ => ?_
  exact concludes_hand usual _ _ _ _ (Or.inl rfl)

theorem stressMemory_concludes (pct durationSec : Scalar)
    (within : Within 1 maxDurationSec durationSec) (clock : ℚ) :
    InjectionConcludes usual (stressMemory db pct durationSec) clock := by
  obtain ⟨amount, text, rfl, _, bounded⟩ := within
  refine concludes_after_hand usual _ _ _ _ clock ?_
  refine concludes_after_ask usual _ _ _ _ clock fun _ => ?_
  refine concludes_after_ask usual _ _ _ _ _ fun begun => ?_
  refine concludes_bind _ _ _ _ (fun _ _ => True)
    (memoryRounds_returns usual amount text bounded _ maxRounds [] _ (by decide) ?_) ?_
  · exact add_le_add_left (clock_onward begun .time _ rfl) _
  intro samples clock₁ _
  refine concludes_after_ask usual _ _ _ _ clock₁ fun _ => ?_
  exact concludes_hand usual _ _ _ _ (Or.inl rfl)

theorem stressDisk_concludes (durationSec : Scalar) (clock : ℚ) :
    InjectionConcludes usual (stressDisk durationSec) clock := by
  refine concludes_after_hand usual _ _ _ _ clock ?_
  refine concludes_after_ask usual _ _ _ _ clock fun _ => ?_
  exact concludes_hand usual _ _ _ _ (Or.inl rfl)

theorem killProcessDemo_concludes (clock : ℚ) :
    InjectionConcludes usual (killProcessDemo db) clock := by
  refine concludes_after_hand usual _ _ _ _ clock ?_
  refine concludes_after_ask usual _ _ _ _ clock fun spawn => ?_
  dsimp only
  split
  · refine concludes_after_hand usual _ _ _ _ _ ?_
    refine concludes_after_ask usual _ _ _ _ _ fun _ => ?_
    refine concludes_after_ask usual _ _ _ _ _ fun _ => ?_
    refine concludes_after_ask usual _ _ _ _ _ fun _ => ?_
    refine concludes_after_ask usual _ _ _ _ _ fun check => ?_
    exact concludes_hand usual _ _ _ _ (Or.inl rfl)
  · exact concludes_hand usual _ _ _ _ (Or.inl rfl)

end Injections

/-! ## The network delay and the experiments -/

theorem applyDelay_concludes (usual : Moment db) (delayMs durationSec : Scalar) :
    Concludes (delayWorld usual) (fun event => FinalType (networkType event))
      (applyDelay delayMs durationSec) () := by
  refine concludes_after_hand usual _ _ _ _ () ?_
  refine concludes_after_ask usual _ _ _ _ () fun add => ?_
  dsimp only
  split
  · exact concludes_hand usual _ _ _ () (Or.inl rfl)
  · refine concludes_bind _ _ _ () (fun _ _ => True) ?_
      fun _ _ _ => concludes_hand usual _ _ _ () (Or.inl rfl)
    refine returns_withFinally _ _ () (fun _ _ => True) _
      (returns_ask usual _ _ () _ fun _ => trivial) ?_
    intro _ _ _
    refine returns_after_ask usual _ _ _ () _ fun _ => ?_
    exact returns_pure () () _ trivial

section Experiments

open RequestedExperiments

variable (usual : Moment db)

abbrev ExperimentConcludes (code : Experiment Unit) : Prop :=
  Concludes (experimentWorld usual) (fun event => FinalType (experimentType event)) code ()

theorem measured_concludes (test src out : String) (args : List String)
    (report : String → Except PyExn RequestedExperiments.Event)
    (reports : ∀ moment : Moment db, ∃ event, report (moment.run (out :: args)) = .ok event ∧
      FinalType (experimentType event)) :
    ExperimentConcludes usual (measured test src out args report) := by
  refine concludes_after_hand usual _ _ _ _ () ?_
  refine concludes_after_ask usual _ _ _ _ () fun compiled => ?_
  dsimp only
  split
  · exact concludes_hand usual _ _ _ () (Or.inr rfl)
  · refine concludes_after_ask usual _ _ _ _ () fun ran => ?_
    obtain ⟨event, fine, isFinal⟩ := reports ran
    refine concludes_after_ok _ _ event _ () fine ?_
    exact concludes_hand usual _ _ _ () isFinal

theorem mapped_report {α : Type} (read : Except PyExn α) (report : α → RequestedExperiments.Event)
    (decodes : ∃ value, read = .ok value) (isFinal : ∀ value, FinalType (experimentType (report value))) :
    ∃ event, read.map report = .ok event ∧ FinalType (experimentType event) := by
  obtain ⟨value, rfl⟩ := decodes
  exact ⟨report value, rfl, isFinal value⟩

theorem measureCreation_concludes (iterations : Scalar) :
    ExperimentConcludes usual (measureCreation db iterations) :=
  measured_concludes usual _ _ _ _ _ fun moment =>
    mapped_report _ _ (moment.created _) fun _ => Or.inl rfl

theorem measureSwitching_concludes (roundTrips : Scalar) :
    ExperimentConcludes usual (measureSwitching db roundTrips) :=
  measured_concludes usual _ _ _ _ _ fun moment =>
    mapped_report _ _ (moment.switched _) fun _ => Or.inl rfl

theorem measureThroughput_concludes (chunkBytes : Scalar) :
    ExperimentConcludes usual (measureThroughput db chunkBytes) :=
  measured_concludes usual _ _ _ _ _ fun moment =>
    mapped_report _ _ (moment.transferred _) fun _ => Or.inl rfl

theorem probes_return (iterations : Scalar) (original : Nat) :
    Returns (experimentWorld usual) (probes db iterations original) () fun _ _ => True := by
  refine returns_after_hand usual _ _ _ () _ ?_
  refine returns_after_ask usual _ _ _ () _ fun before => ?_
  obtain ⟨beforeMetrics, fine⟩ := before.scheduled [iterations.text, "2000"]
  refine returns_after_ok _ beforeMetrics _ () _ fine ?_
  refine returns_after_hand usual _ _ _ () _ ?_
  refine returns_after_ask usual _ _ _ () _ fun _ => ?_
  refine returns_after_hand usual _ _ _ () _ ?_
  refine returns_after_ask usual _ _ _ () _ fun after => ?_
  obtain ⟨afterMetrics, fine'⟩ := after.scheduled [iterations.text, "2000"]
  refine returns_after_ok _ afterMetrics _ () _ fine' ?_
  refine returns_after_hand usual _ _ _ () _ ?_
  exact returns_pure _ () _ trivial

theorem optimizeScheduler_concludes (iterations : Scalar) :
    ExperimentConcludes usual (optimizeScheduler db iterations) := by
  refine concludes_after_hand usual _ _ _ _ () ?_
  refine concludes_after_ask usual _ _ _ _ () fun compiled => ?_
  dsimp only
  split
  · exact concludes_hand usual _ _ _ () (Or.inr rfl)
  · refine concludes_after_ask usual _ _ _ _ () fun read => ?_
    refine concludes_bind _ _ _ () (fun _ _ => True) ?_
      fun measured _ _ => concludes_hand usual _ _ _ () (Or.inl rfl)
    exact returns_withFinally _ _ () _ _ (probes_return usual iterations _)
      fun _ _ _ => returns_ask usual _ _ () _ fun _ => trivial

end Experiments

/-! ## Every job ends with a result or an error -/

def Concluded (outcome : Outcome Event) : Prop :=
  outcome.raises = false ∧
    ∃ event, outcome.events.getLast? = some event ∧ FinalType event.type

theorem concluded_of_concludes {Shared Call Exn E : Type} {Answer : Call → Type}
    (world : World Shared (Moment db) Call Answer E Exn) (type : E → String) (wrap : E → Event)
    (typed : ∀ event, (wrap event).type = type event)
    (code : Gen Call Answer E Exn Unit) (shared : Shared)
    (concludes : Concludes world (fun event => FinalType (type event)) code shared)
    (moments : List (Moment db)) :
    Concluded ⟨(code.course world shared moments).events.map wrap,
      raised (code.course world shared moments).result⟩ := by
  obtain ⟨⟨value, ended⟩, event, last, isFinal⟩ := concludes moments
  refine ⟨?_, wrap event, ?_, ?_⟩
  · rw [ended]
    rfl
  · have lastOfCourse : (code.course world shared moments).events.getLast? = some event := last
    rw [List.getLast?_map, lastOfCourse]
    rfl
  · rw [typed]
    exact isFinal

theorem job_concluded (env : Environment db) (job : Job) (inRange : job.InRange) :
    Concluded (job.outcome env) := by
  have injection := fun code concludes => concluded_of_concludes (injectionWorld env.usual)
    injectionType Event.injection (fun _ => rfl) code env.clock concludes env.moments
  have experiment := fun code concludes => concluded_of_concludes (experimentWorld env.usual)
    experimentType Event.experiment (fun _ => rfl) code () concludes env.moments
  cases job with
  | cpu loadPct durationSec =>
      exact injection _ (stressCpu_concludes env.usual loadPct durationSec inRange.2 _)
  | memory pct durationSec =>
      exact injection _ (stressMemory_concludes env.usual pct durationSec inRange.2 _)
  | disk durationSec => exact injection _ (stressDisk_concludes env.usual durationSec _)
  | network delayMs durationSec =>
      exact concluded_of_concludes (delayWorld env.usual) networkType Event.network
        (fun _ => rfl) _ () (applyDelay_concludes env.usual delayMs durationSec) env.moments
  | kill => exact injection _ (killProcessDemo_concludes env.usual _)
  | schedulerOptimization iterations =>
      exact experiment _ (optimizeScheduler_concludes env.usual iterations)
  | processCreation iterations =>
      exact experiment _ (measureCreation_concludes env.usual iterations)
  | contextSwitch roundTrips =>
      exact experiment _ (measureSwitching_concludes env.usual roundTrips)
  | ipcPerformance chunkBytes =>
      exact experiment _ (measureThroughput_concludes env.usual chunkBytes)

end KernelSprint.RequestedActions

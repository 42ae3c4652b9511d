import KernelSprint.Backend.Pipelines
import KernelSprint.Lib.Course

/-!
# Which container runs the pipelines report as benchmarked

Both pipelines play against a host on which every file operation succeeds and
the container ends within its time limit with a given status.  The events are
computed first; which runs count as success is read off them.
-/

set_option autoImplicit false

namespace KernelSprint.PipelineReports

open Generators Generators.Gen PyText BenchmarkOutput Pipelines

def host (status : Int) : (request : HostCall) → Except PyExn request.Answer
  | .makeScratchRoot => .ok ()
  | .makeTmpdir => .ok ()
  | .writePatch _ => .ok ()
  | .popen _ => .ok ()
  | .readLine _ => .ok ()
  | .wait _ => .ok status
  | .kill => .ok ()
  | .readResults => .ok committedBaseline
  | .removeTmpdir => .ok ()

def benchmarkEvents (db : CharDb) (kernel : String) (lines : List String)
    (status : Int) : List Event :=
  (play (host status) (runBenchmarkPipeline db kernel lines)).1

def patchEvents (db : CharDb) (patchText : String) (lines : List String)
    (status : Int) : List Event :=
  (play (host status) (runPatchPipeline db patchText lines)).1

def ReportsSuccess (events : List Event) : Prop := ∃ event ∈ events, event.isResult

instance (events : List Event) : Decidable (ReportsSuccess events) :=
  inferInstanceAs (Decidable (∃ event ∈ events, event.isResult))

/-- Success is reported only for a run that benchmarked, and every other run
ends in exactly one error. -/
def ReportsHonestly (events : List Event) (status : Int) (data : BenchmarkData) : Prop :=
  (ReportsSuccess events → status = 0 ∧ data.complete) ∧
    (¬ (status = 0 ∧ data.complete) →
      events.countP Event.isError = 1 ∧ ¬ ReportsSuccess events)

instance (events : List Event) (status : Int) (data : BenchmarkData) :
    Decidable (ReportsHonestly events status data) :=
  inferInstanceAs (Decidable (_ ∧ _))

/-! ## The events of a run -/

@[simp] theorem play_ask (status : Int) (request : HostCall) :
    play (host status) (ask request) = ([], host status request) :=
  play_perform (host status) request

/-- Reading that succeeds hands out one event for each line. -/
theorem play_relayLines_read (respond : (request : HostCall) → Except PyExn request.Answer)
    (reads : ∀ line, respond (.readLine line) = .ok ()) (db : CharDb) (lines : List String) :
    play respond (relayLines db lines) = (lines.map (lineEvent db), .ok ()) := by
  have round : ∀ line, play respond
      (do ask (.readLine line); yieldEvent (lineEvent db line)) =
        ([lineEvent db line], .ok ()) := by
    intro line
    have read : play respond (ask (.readLine line)) = ([], .ok ()) :=
      (play_perform respond (.readLine line)).trans (by rw [reads line])
    rw [play_bind_ok respond _ _ [] () read]
    rfl
  unfold relayLines
  rw [play_forEach respond lines _ _ round, List.map_eq_flatMap]

theorem play_relayLines (db : CharDb) (lines : List String) (status : Int) :
    play (host status) (relayLines db lines) = (lines.map (lineEvent db), .ok ()) :=
  play_relayLines_read (host status) (fun _ => rfl) db lines

theorem play_relayAndWait (db : CharDb) (lines : List String) (timeout : Nat)
    (message : String) (status : Int) :
    play (host status) (relayAndWait db lines timeout message) =
      (lines.map (lineEvent db), .ok (some status)) := by
  unfold relayAndWait
  rw [play_withExcept, play_bind_ok (host status) _ _ _ _ (play_relayLines db lines status),
    play_bind_ok (host status) _ _ [] status (play_ask status (.wait timeout))]
  simp

theorem play_runBenchmarkPipeline (db : CharDb) (kernel volume : String)
    (lines : List String) (status : Int) (data : BenchmarkData)
    (known : buildVolumes kernel = some volume)
    (parsed : parseBenchmarkOutput db (String.join lines) = .ok data) :
    play (host status) (runBenchmarkPipeline db kernel lines) =
      (lines.map (lineEvent db) ++ [.benchmarkResult kernel data], .ok ()) := by
  unfold runBenchmarkPipeline
  rw [known]
  simp only
  rw [play_bind_ok (host status) _ _ [] () (play_ask status (.popen volume)),
    play_bind_ok (host status) _ _ _ _ (play_relayAndWait db lines 120 _ status)]
  simp only
  rw [play_bind_ok (host status) _ _ [] data (by rw [play_fromExcept, parsed])]
  simp

theorem comparison_committed (data : BenchmarkData) :
    ∃ changes, comparison committedBaseline data = .ok changes := by
  have change : ∀ baseline : ℚ, baseline ≠ 0 → ∀ value,
      ∃ rounded, roundedChange baseline value = .ok rounded := by
    intro baseline nonzero value
    cases value with
    | none => exact ⟨none, rfl⟩
    | some value => exact ⟨_, by simp only [roundedChange, pctChange, if_neg nonzero]; rfl⟩
  obtain ⟨latency, latencyOk⟩ := change committedBaseline.schedulerLatencyP99Us
    (by norm_num [committedBaseline]) (data.schedulerLatency.map Latency.p99Us)
  obtain ⟨creation, creationOk⟩ := change committedBaseline.processCreationMeanUs
    (by norm_num [committedBaseline]) (data.processCreation.map Latency.meanUs)
  obtain ⟨switches, switchesOk⟩ := change committedBaseline.switchesPerSec
    (by norm_num [committedBaseline]) (data.contextSwitch.map ContextSwitch.switchesPerSec)
  refine ⟨⟨latency, creation, switches⟩, ?_⟩
  simp only [comparison, latencyOk, creationOk, switchesOk]
  rfl

/-- The comparison reads the committed results and reports no error. -/
theorem compareAndReport_only (db : CharDb) (output : String) :
    (compareAndReport db output).Only (· = .readResults) (·.isError = false) := by
  unfold compareAndReport ask
  apply only_bind
  · simp [Event.isError]
  intro _
  apply only_bind
  · simp
  intro result
  apply only_bind
  · simp
  intro baseline
  apply only_bind
  · simp
  intro changes
  apply only_bind
  · simp [Event.isError]
  intro _
  apply only_bind
  · simp [Event.isError]
  intro _
  apply only_bind
  · simp [Event.isError]
  intro _
  simp [Event.isError]

theorem play_compareAndReport (db : CharDb) (output : String) (status : Int)
    (data : BenchmarkData) (parsed : parseBenchmarkOutput db output = .ok data) :
    ∃ changes, comparison committedBaseline data = .ok changes ∧
      play (host status) (compareAndReport db output) =
        ([.stage "compare" "start", .stage "compare" "done", .stage "report" "start",
          .patchResult data changes note, .stage "report" "done"], .ok ()) := by
  obtain ⟨changes, compared⟩ := comparison_committed data
  refine ⟨changes, compared, ?_⟩
  unfold compareAndReport
  rw [play_bind_ok (host status) _ _ _ () (play_yieldEvent _ _),
    play_bind_ok (host status) _ _ [] data (by rw [play_fromExcept, parsed]),
    play_bind_ok (host status) _ _ [] committedBaseline (play_ask status .readResults),
    play_bind_ok (host status) _ _ [] changes (by rw [play_fromExcept, compared]),
    play_bind_ok (host status) _ _ _ () (play_yieldEvent _ _),
    play_bind_ok (host status) _ _ _ () (play_yieldEvent _ _),
    play_bind_ok (host status) _ _ _ () (play_yieldEvent _ _)]
  simp

/-- The patch pipeline's events are those of its lines and of the branch that
the return code selects. -/
theorem play_runPatchPipeline (db : CharDb) (patchText : String) (lines : List String)
    (status : Int) (nonblank : strip patchText ≠ "")
    (small : patchText.utf8ByteSize ≤ maxPatchBytes) :
    play (host status) (runPatchPipeline db patchText lines) =
      (lines.map (lineEvent db) ++
          (play (host status) (if status ≠ 0 then
            yieldEvent (failureEvent (String.join lines) status)
            else compareAndReport db (String.join lines))).1,
        (play (host status) (if status ≠ 0 then
          yieldEvent (failureEvent (String.join lines) status)
          else compareAndReport db (String.join lines))).2) := by
  unfold runPatchPipeline
  rw [if_neg nonblank, if_neg (by omega),
    play_bind_ok (host status) _ _ [] () (play_ask status .makeScratchRoot),
    play_bind_ok (host status) _ _ [] () (play_ask status .makeTmpdir),
    play_withFinally_ok (host status) _ _ (play_ask status .removeTmpdir),
    play_bind_ok (host status) _ _ [] () (play_ask status (.writePatch patchText)),
    play_bind_ok (host status) _ _ [] () (play_ask status (.popen _)),
    play_bind_ok (host status) _ _ _ _ (play_relayAndWait db lines _ _ status)]
  simp only [List.nil_append]

/-! ## What counts as success -/

theorem lineEvent_not_result (db : CharDb) (line : String) :
    (lineEvent db line).isResult = false := by
  unfold lineEvent
  split <;> rfl

theorem lineEvent_not_error (db : CharDb) (line : String) :
    (lineEvent db line).isError = false := by
  unfold lineEvent
  split <;> rfl

theorem reportsSuccess_after_lines (db : CharDb) (lines : List String)
    (rest : List Event) :
    ReportsSuccess (lines.map (lineEvent db) ++ rest) ↔ ReportsSuccess rest := by
  constructor
  · rintro ⟨event, member, result⟩
    rcases List.mem_append.mp member with early | late
    · obtain ⟨line, _, rfl⟩ := List.mem_map.mp early
      simp [lineEvent_not_result] at result
    · exact ⟨event, late, result⟩
  · rintro ⟨event, member, result⟩
    exact ⟨event, List.mem_append_right _ member, result⟩

theorem countP_error_after_lines (db : CharDb) (lines : List String)
    (rest : List Event) :
    (lines.map (lineEvent db) ++ rest).countP Event.isError =
      rest.countP Event.isError := by
  have none : (lines.map (lineEvent db)).countP Event.isError = 0 := by
    rw [List.countP_eq_zero]
    intro event member
    obtain ⟨line, _, rfl⟩ := List.mem_map.mp member
    simp [lineEvent_not_error]
  rw [List.countP_append, none, Nat.zero_add]

theorem benchmark_reportsSuccess (db : CharDb) (kernel volume : String)
    (lines : List String) (status : Int) (data : BenchmarkData)
    (known : buildVolumes kernel = some volume)
    (parsed : parseBenchmarkOutput db (String.join lines) = .ok data) :
    ReportsSuccess (benchmarkEvents db kernel lines status) := by
  unfold benchmarkEvents
  rw [play_runBenchmarkPipeline db kernel volume lines status data known parsed,
    reportsSuccess_after_lines]
  exact ⟨_, List.mem_singleton_self _, rfl⟩

theorem benchmark_reportsHonestly_iff (db : CharDb) (kernel volume : String)
    (lines : List String) (status : Int) (data : BenchmarkData)
    (known : buildVolumes kernel = some volume)
    (parsed : parseBenchmarkOutput db (String.join lines) = .ok data) :
    ReportsHonestly (benchmarkEvents db kernel lines status) status data ↔
      status = 0 ∧ data.complete := by
  have success := benchmark_reportsSuccess db kernel volume lines status data known parsed
  constructor
  · intro honest
    exact honest.1 success
  · intro good
    exact ⟨fun _ => good, fun bad => absurd good bad⟩

section Patch

variable (db : CharDb) (patchText : String) (lines : List String) (status : Int)
  (data : BenchmarkData) (nonblank : strip patchText ≠ "")
  (small : patchText.utf8ByteSize ≤ maxPatchBytes)

include nonblank small

theorem patchEvents_failed (failed : status ≠ 0) :
    patchEvents db patchText lines status =
      lines.map (lineEvent db) ++ [failureEvent (String.join lines) status] := by
  unfold patchEvents
  rw [play_runPatchPipeline db patchText lines status nonblank small, if_pos failed,
    play_yieldEvent]

theorem patchEvents_ended
    (parsed : parseBenchmarkOutput db (String.join lines) = .ok data) :
    ∃ changes, patchEvents db patchText lines 0 =
      lines.map (lineEvent db) ++
        [.stage "compare" "start", .stage "compare" "done", .stage "report" "start",
          .patchResult data changes note, .stage "report" "done"] := by
  obtain ⟨changes, -, played⟩ := play_compareAndReport db (String.join lines) 0 data parsed
  refine ⟨changes, ?_⟩
  unfold patchEvents
  rw [play_runPatchPipeline db patchText lines 0 nonblank small, if_neg (by simp), played]

theorem patch_reportsSuccess_iff
    (parsed : parseBenchmarkOutput db (String.join lines) = .ok data) :
    ReportsSuccess (patchEvents db patchText lines status) ↔ status = 0 := by
  by_cases ended : status = 0
  · subst ended
    obtain ⟨changes, events⟩ :=
      patchEvents_ended db patchText lines data nonblank small parsed
    rw [events, reportsSuccess_after_lines]
    simp [ReportsSuccess, Event.isResult]
  · rw [patchEvents_failed db patchText lines status nonblank small ended,
      reportsSuccess_after_lines]
    have notResult : (failureEvent (String.join lines) status).isResult = false := by
      unfold failureEvent
      split_ifs <;> rfl
    simp [ReportsSuccess, notResult, ended]

theorem patch_reportsHonestly_iff
    (parsed : parseBenchmarkOutput db (String.join lines) = .ok data) :
    ReportsHonestly (patchEvents db patchText lines status) status data ↔
      (status = 0 → data.complete) := by
  have success := patch_reportsSuccess_iff db patchText lines status data nonblank small parsed
  by_cases ended : status = 0
  · constructor
    · intro honest _
      exact (honest.1 (success.mpr ended)).2
    · intro whole
      exact ⟨fun _ => ⟨ended, whole ended⟩, fun bad => absurd ⟨ended, whole ended⟩ bad⟩
  · have oneError : (patchEvents db patchText lines status).countP Event.isError = 1 := by
      rw [patchEvents_failed db patchText lines status nonblank small ended,
        countP_error_after_lines]
      have error : (failureEvent (String.join lines) status).isError = true := by
        unfold failureEvent
        split_ifs <;> rfl
      simp [error]
    constructor
    · intro _ zero
      exact absurd zero ended
    · intro _
      exact ⟨fun reported => absurd (success.mp reported) ended,
        fun _ => ⟨oneError, fun reported => ended (success.mp reported)⟩⟩

end Patch

/-- Exactly which runs each pipeline reports honestly, and on which they agree. -/
theorem pipelines_report_iff (db : CharDb) (kernel volume patchText : String)
    (lines : List String) (status : Int) (data : BenchmarkData)
    (known : buildVolumes kernel = some volume) (nonblank : strip patchText ≠ "")
    (small : patchText.utf8ByteSize ≤ maxPatchBytes)
    (parsed : parseBenchmarkOutput db (String.join lines) = .ok data) :
    (ReportsHonestly (benchmarkEvents db kernel lines status) status data ↔
        status = 0 ∧ data.complete) ∧
      (ReportsHonestly (patchEvents db patchText lines status) status data ↔
        (status = 0 → data.complete)) ∧
      ((ReportsSuccess (benchmarkEvents db kernel lines status) ↔
          ReportsSuccess (patchEvents db patchText lines status)) ↔ status = 0) := by
  refine ⟨benchmark_reportsHonestly_iff db kernel volume lines status data known parsed,
    patch_reportsHonestly_iff db patchText lines status data nonblank small parsed, ?_⟩
  rw [patch_reportsSuccess_iff db patchText lines status data nonblank small parsed,
    iff_true_left (benchmark_reportsSuccess db kernel volume lines status data known parsed)]

theorem pipelines_report_iff_partial_output :
    let lines := ["round_trip_us=4.5 context_switch_us=2.25 context_switches_per_sec=8\n"]
    let data : BenchmarkData := ⟨none, some ⟨9 / 2, 9 / 4, 8⟩, none⟩
    (ReportsHonestly (benchmarkEvents .ascii "baseline" lines 1) 1 data ↔
        (1 : Int) = 0 ∧ data.complete) ∧
      (ReportsHonestly (patchEvents .ascii "diff" lines 1) 1 data ↔
        ((1 : Int) = 0 → data.complete)) ∧
      ((ReportsSuccess (benchmarkEvents .ascii "baseline" lines 1) ↔
          ReportsSuccess (patchEvents .ascii "diff" lines 1)) ↔ (1 : Int) = 0) :=
  pipelines_report_iff .ascii "baseline" _ "diff" _ 1 _ rfl
    (by decide) (by decide) (by decide +kernel)

/-- A failed compile reaches the user as a result of the benchmark pipeline, a
guest that powers off without benchmarking as a result of both. -/
theorem pipelines_report_unbenchmarked_runs :
    let failed := ["@@STAGE:compile:start@@\n", "gcc: fatal error\n"]
    let panicked := ["@@STAGE:boot:start@@\n", "Kernel panic\n", "@@STAGE:boot:done@@\n"]
    parseBenchmarkOutput .ascii (String.join failed) = .ok ⟨none, none, none⟩ ∧
      parseBenchmarkOutput .ascii (String.join panicked) = .ok ⟨none, none, none⟩ ∧
      ¬ ReportsHonestly (benchmarkEvents .ascii "baseline" failed 1) 1 ⟨none, none, none⟩ ∧
      ¬ ReportsHonestly (benchmarkEvents .ascii "baseline" panicked 0) 0
        ⟨none, none, none⟩ ∧
      ¬ ReportsHonestly (patchEvents .ascii "diff" panicked 0) 0 ⟨none, none, none⟩ := by
  decide +kernel

end KernelSprint.PipelineReports

import KernelSprint.Backend.StageAttribution
import KernelSprint.Web.Panels

/-!
# What PatchRunner shows of a pipeline run

The events of `run_patch_pipeline` reach the message handler of `PatchRunner`
in order, until a message makes it close the socket.  The stages on display
afterwards are compared with how the run went.
-/

set_option autoImplicit false

namespace KernelSprint.StageDisplay

open Generators Generators.Gen PyText Sockets BenchmarkOutput Pipelines PipelineReports
open StreamCommand PatchScript StageAttribution LivePanel Panels

/-! ## Runs of the pipeline -/

/-- How far the script has come when its output ends. -/
inductive Stop where
  | before (stage : Stage)
  | within (stage : Stage)
  | finished
  deriving DecidableEq, Repr

def Stop.completed : Stop → List Stage
  | .before stage => stage.earlier
  | .within stage => stage.earlier
  | .finished => [.apply, .build, .boot]

/-- The stage that does not get done. -/
def Stop.failing : Stop → Stage
  | .before stage => stage
  | .within stage => stage
  | .finished => .boot

inductive Ending where
  | exited (status : Int)
  /-- `wait` has raised `TimeoutExpired`. -/
  | timeLimit
  deriving DecidableEq, Repr

/-- `outputs` is what the tools of the completed stages print, `tail` what is
printed after the last marker. -/
structure PatchRun where
  outputs : Stage → String
  stop : Stop
  tail : String
  ending : Ending

def PatchRun.text (run : PatchRun) : String :=
  String.join (run.stop.completed.map (stageText run.outputs)) ++
    match run.stop with
    | .within stage => startLine stage ++ run.tail
    | _ => run.tail

/-- No tool prints marker text. -/
structure PatchRun.Unmarked (run : PatchRun) : Prop where
  outputs : ∀ stage, PatchScript.Unmarked (run.outputs stage)
  tail : PatchScript.Unmarked run.tail

def lateHost : (request : HostCall) → Except PyExn request.Answer
  | .wait _ => .error .timeoutExpired
  | request => host 0 request

def timeLimitMessage : String :=
  "pipeline exceeded " ++ toString pipelineTimeoutSec ++ "s time limit"

def pipelineEvents (db : CharDb) (patchText : String) (run : PatchRun) : List Pipelines.Event :=
  match run.ending with
  | .exited status => patchEvents db patchText (lines run.text) status
  | .timeLimit => (play lateHost (runPatchPipeline db patchText (lines run.text))).1

/-! ## The panel -/

/-- What `send_json` makes of the figures. -/
structure Encoding where
  data : BenchmarkData → Json
  changes : Comparison → Json

def toMessage (encoding : Encoding) : Pipelines.Event → Message
  | .stage stage status => .stage stage status
  | .output line => .output line
  | .error stage message => .error message stage
  | .benchmarkResult kernel data =>
      .result (.object [("type", .string "result"), ("kernel", .string kernel),
        ("data", encoding.data data)]) (encoding.data data)
  | .patchResult data changes note =>
      .result (.object [("type", .string "result"), ("data", encoding.data data),
        ("comparison_vs_baseline", encoding.changes changes), ("note", .string note)])
        (encoding.data data)

/-- A run of the panel and the view that it writes. -/
structure Shown where
  run : Run patchRunner
  view : PatchView

/-- A message that the socket does not deliver changes nothing. -/
def Shown.receive (shown : Shown) (message : Message) : Shown :=
  match shown.run.on shown.view (.message message) with
  | some (run, view) => ⟨run, view⟩
  | none => shown

/-- The panel when its socket has opened. -/
def opened (patchText : String) : Shown where
  run := ⟨patchText, .opened, false, [], [.string patchText], 0, true⟩
  view := ⟨initialStages, true, [], none, none, some false⟩

def display (encoding : Encoding) (db : CharDb) (patchText : String) (run : PatchRun) : Shown :=
  ((pipelineEvents db patchText run).map (toMessage encoding)).foldl Shown.receive
    (opened patchText)

def AllDone (stages : List (String × StageStatus)) : Prop :=
  ∀ key ∈ stageKeys, stages.lookup key = some .done

/-- The stages that `stageKeys` lists after the given one. -/
def laterKeys (stage : Stage) : List String :=
  (stageKeys.dropWhile fun key => key != stage.key).drop 1

structure FailureShown (stages : List (String × StageStatus)) (failing : Stage) : Prop where
  noneRunning : ∀ entry ∈ stages, entry.2 ≠ .running
  laterIdle : ∀ key ∈ laterKeys failing, stages.lookup key = some .idle

/-- A run that exits with status 0 shows every stage done, any other none
running and none touched after the failing one. -/
def ShownRight (run : PatchRun) (stages : List (String × StageStatus)) : Prop :=
  match run.ending with
  | .exited status => if status = 0 then AllDone stages else FailureShown stages run.stop.failing
  | .timeLimit => FailureShown stages run.stop.failing

/-- The run fails by a status, or by the time limit between two stages. -/
def PatchRun.EndsBetween (run : PatchRun) : Prop :=
  match run.ending with
  | .exited status => status ≠ 0
  | .timeLimit => ∀ stage, run.stop ≠ .within stage

/-! ## Delivery -/

theorem receive_open (shown : Shown) (message : Message) (isOpen : shown.run.sock = .opened) :
    shown.receive message =
      ⟨{ shown.run with
          timer := false
          sock := if (patchMessage shown.view message).2 then shown.run.sock.close
            else shown.run.sock },
        (patchMessage shown.view message).1⟩ := by
  simp only [Shown.receive, Run.on, isOpen, Sock.delivers, ↓reduceIte]
  rfl

theorem receive_closed (shown : Shown) (message : Message) (wasOpen : Bool)
    (closing : shown.run.sock = .closing wasOpen) : shown.receive message = shown := by
  simp [Shown.receive, Run.on, closing, Sock.delivers]

theorem receiveAll_closed (shown : Shown) (messages : List Message) (wasOpen : Bool)
    (closing : shown.run.sock = .closing wasOpen) :
    messages.foldl Shown.receive shown = shown := by
  induction messages with
  | nil => rfl
  | cons message rest ih =>
      rw [List.foldl_cons, receive_closed shown message wasOpen closing]
      exact ih

def setStage (stages : List (String × StageStatus)) (event : String × String) :
    List (String × StageStatus) :=
  setKey event.1 (stageStatus event.2) stages

/-- The socket is open and the stages are these. -/
structure Showing (shown : Shown) (stages : List (String × StageStatus)) : Prop where
  sock : shown.run.sock = .opened
  stages : shown.view.stages = stages

variable (encoding : Encoding)

theorem receive_stage (shown : Shown) (stages : List (String × StageStatus))
    (showing : Showing shown stages) (stage status : String) :
    Showing (shown.receive (.stage stage status)) (setStage stages (stage, status)) := by
  rw [receive_open shown _ showing.sock]
  refine ⟨showing.sock, ?_⟩
  rw [← showing.stages]
  rfl

theorem receive_output (shown : Shown) (stages : List (String × StageStatus))
    (showing : Showing shown stages) (line : String) :
    Showing (shown.receive (.output line)) stages := by
  rw [receive_open shown _ showing.sock]
  refine ⟨showing.sock, ?_⟩
  simp only [patchMessage]
  exact showing.stages

/-- While lines are relayed the socket stays open and the stages follow the
stage events. -/
theorem receive_lines (db : CharDb) (lines : List String) (shown : Shown)
    (stages : List (String × StageStatus)) (showing : Showing shown stages) :
    Showing (((lines.map (lineEvent db)).map (toMessage encoding)).foldl Shown.receive shown)
      ((stageEvents db lines).foldl setStage stages) := by
  induction lines generalizing shown stages with
  | nil => exact showing
  | cons line rest ih =>
      rw [← List.singleton_append, stageEvents_append, stageEvents_single, List.foldl_append]
      have notError := lineEvent_not_error db line
      have notResult := lineEvent_not_result db line
      have next : Showing (shown.receive (toMessage encoding (lineEvent db line)))
          ((stageOf (lineEvent db line)).toList.foldl setStage stages) := by
        cases event : lineEvent db line with
        | stage stage status => exact receive_stage shown stages showing stage status
        | output text => exact receive_output shown stages showing text
        | error stage message =>
            rw [event] at notError
            cases notError
        | benchmarkResult kernel data =>
            rw [event] at notResult
            cases notResult
        | patchResult data changes note =>
            rw [event] at notResult
            cases notResult
      exact ih _ _ next

/-- A result closes the socket; the stages stay as they are for good. -/
theorem receive_result (shown : Shown) (stages : List (String × StageStatus))
    (showing : Showing shown stages) (msg data : Json) (later : List Message) :
    (later.foldl Shown.receive (shown.receive (.result msg data))).view.stages = stages := by
  have closed : (shown.receive (.result msg data)).run.sock = .closing true := by
    rw [receive_open shown _ showing.sock]
    simp [patchMessage, showing.sock, Sock.close]
  rw [receiveAll_closed _ later true closed, receive_open shown _ showing.sock]
  exact showing.stages

theorem receive_error (shown : Shown) (stages : List (String × StageStatus))
    (showing : Showing shown stages) (message : String) (stage : Option Stage) :
    (shown.receive (.error message (stage.map Stage.key))).view.stages =
      match stage with
      | none => stages
      | some stage => setKey stage.key .error stages := by
  rw [receive_open shown _ showing.sock, ← showing.stages]
  cases stage with
  | none => rfl
  | some stage =>
      have named : stage.key ≠ "" := by cases stage <;> decide
      simp only [patchMessage, Option.map_some, if_neg named]

/-! ## The stage events of an unmarked run -/

/-- The markers that the script has printed. -/
def Stop.markers (stop : Stop) : List (String × String) :=
  (stop.completed.flatMap fun done => [(done.key, "start"), (done.key, "done")]) ++
    match stop with
    | .within stage => [(stage.key, "start")]
    | _ => []

theorem stageEvents_unmarked (db : CharDb) (run : PatchRun) (unmarked : run.Unmarked) :
    stageEvents db (lines run.text) = run.stop.markers := by
  have done : ∀ stage, stageEvents db (lines (run.outputs stage ++ doneLine stage)) =
      [(stage.key, "done")] := by
    intro stage
    exact (closes_iff db _ stage).mp
      (closes_of_unmarked db (run.outputs stage) stage (unmarked.outputs stage))
  have tail : stageEvents db (lines run.tail) = [] :=
    (silent_iff db _).mp (silent_lines_of_unmarked db run.tail unmarked.tail)
  rw [PatchRun.text, stageEvents_completed]
  cases run.stop with
  | before stage => simp only [done, tail, Stop.markers]
  | within stage => simp only [done, stageEvents_started, tail, Stop.markers]
  | finished => simp only [done, tail, Stop.markers]

theorem done_not_tail (run : PatchRun) (unmarked : run.Unmarked) (stage : Stage) :
    ¬ (marker stage "done").toList <:+:
      (match run.stop with
        | .within stage => startLine stage ++ run.tail
        | _ => run.tail).toList := by
  have tail := done_not_output run.tail unmarked.tail stage
  cases run.stop with
  | before current => exact tail
  | within current => exact done_not_started current stage run.tail tail
  | finished => exact tail

theorem includes_text_iff (run : PatchRun) (unmarked : run.Unmarked) (stage : Stage) :
    includes run.text (marker stage "done") = true ↔ stage ∈ run.stop.completed := by
  constructor
  · intro printed
    by_contra undone
    exact not_includes_done run.outputs unmarked.outputs stage run.stop.completed undone _
      (done_not_tail run unmarked stage) (of_decide_eq_true printed)
  · intro done
    exact decide_eq_true (includes_done run.outputs stage run.stop.completed _ done)

/-- A failure is put down to the stage that did not get done, or to the last. -/
theorem blamed_unmarked (run : PatchRun) (unmarked : run.Unmarked) :
    blamed run.text = run.stop.failing := by
  have applied := includes_text_iff run unmarked .apply
  have built := includes_text_iff run unmarked .build
  unfold blamed
  simp only [← Bool.not_eq_true, applied, built]
  cases run.stop with
  | before stage => cases stage <;> decide
  | within stage => cases stage <;> decide
  | finished => decide

theorem play_late (request : HostCall) :
    play lateHost (ask request) = ([], lateHost request) :=
  play_perform lateHost request

theorem play_relayAndWait_late (db : CharDb) (lines : List String) (timeout : Nat)
    (message : String) :
    play lateHost (relayAndWait db lines timeout message) =
      (lines.map (lineEvent db) ++ [.error none message], .ok none) := by
  have body : play lateHost
      (do relayLines db lines; let returncode ← ask (.wait timeout); pure (some returncode) :
        Pipeline (Option Int)) = (lines.map (lineEvent db), .error .timeoutExpired) := by
    rw [play_bind_ok lateHost _ _ _ () (play_relayLines_read lateHost (fun _ => rfl) db lines),
      play_bind, play_late]
    simp [lateHost]
  have handler : play lateHost
      (do ask .kill; yieldEvent (.error none message); pure none : Pipeline (Option Int)) =
        ([.error none message], .ok none) := by
    rw [play_bind_ok lateHost _ _ [] () (play_late .kill)]
    rfl
  unfold relayAndWait
  rw [play_withExcept, body]
  simp only [Option.getD_some, handler]

theorem play_attended_late (db : CharDb) (lines : List String) (timeout : Nat)
    (message : String) (rest : Int → Pipeline Unit) :
    play lateHost
      (do
        match ← relayAndWait db lines timeout message with
        | none => pure ()
        | some returncode => rest returncode : Pipeline Unit) =
      (lines.map (lineEvent db) ++ [.error none message], .ok ()) := by
  rw [play_bind_ok lateHost _ _ _ _ (play_relayAndWait_late db lines timeout message)]
  simp only [play_pure, List.append_nil]

theorem play_runPatchPipeline_late (db : CharDb) (patchText : String) (lines : List String)
    (nonblank : strip patchText ≠ "") (small : patchText.utf8ByteSize ≤ maxPatchBytes) :
    play lateHost (runPatchPipeline db patchText lines) =
      (lines.map (lineEvent db) ++ [.error none timeLimitMessage], .ok ()) := by
  unfold runPatchPipeline
  rw [if_neg nonblank, if_neg (by omega),
    play_bind_ok lateHost _ _ [] () (play_late .makeScratchRoot),
    play_bind_ok lateHost _ _ [] () (play_late .makeTmpdir),
    play_withFinally_ok lateHost _ _ (play_late .removeTmpdir),
    play_bind_ok lateHost _ _ [] () (play_late (.writePatch patchText)),
    play_bind_ok lateHost _ _ [] () (play_late (.popen _))]
  simp only [List.nil_append]
  exact play_attended_late db lines pipelineTimeoutSec timeLimitMessage _

/-! ## The stages on display -/

theorem failure_shown (stop : Stop) :
    FailureShown (setKey stop.failing.key .error (stop.markers.foldl setStage initialStages))
      stop.failing := by
  cases stop with
  | before stage => cases stage <;> exact ⟨by decide +kernel, by decide +kernel⟩
  | within stage => cases stage <;> exact ⟨by decide +kernel, by decide +kernel⟩
  | finished => exact ⟨by decide +kernel, by decide +kernel⟩

/-- The error of the time limit names no stage, so a stage at work stays so. -/
theorem late_shown_iff (stop : Stop) :
    FailureShown (stop.markers.foldl setStage initialStages) stop.failing ↔
      ∀ stage, stop ≠ .within stage := by
  cases stop with
  | before stage =>
      refine ⟨fun _ _ => by simp, fun _ => ?_⟩
      cases stage <;> exact ⟨by decide +kernel, by decide +kernel⟩
  | within stage =>
      constructor
      · intro shown
        have running : (stage.key, StageStatus.running) ∈
            (Stop.within stage).markers.foldl setStage initialStages := by
          cases stage <;> decide +kernel
        exact absurd rfl (shown.noneRunning _ running)
      · intro between
        exact absurd rfl (between stage)
  | finished =>
      refine ⟨fun _ _ => by simp, fun _ => ⟨by decide +kernel, by decide +kernel⟩⟩

theorem marker_key (stop : Stop) (event : String × String) (member : event ∈ stop.markers) :
    ∃ stage : Stage, event.1 = stage.key := by
  rcases List.mem_append.mp member with completed | started
  · obtain ⟨done, _, found⟩ := List.mem_flatMap.mp completed
    simp only [List.mem_cons, List.not_mem_nil, or_false] at found
    rcases found with started | ended
    · exact ⟨done, congrArg Prod.fst started⟩
    · exact ⟨done, congrArg Prod.fst ended⟩
  · cases stop with
    | before stage => exact absurd started List.not_mem_nil
    | within stage => exact ⟨stage, congrArg Prod.fst (List.mem_singleton.mp started)⟩
    | finished => exact absurd started List.not_mem_nil

/-- A stage that no event reports as done is not shown as done. -/
theorem undone_after (key : String) (events : List (String × String))
    (stages : List (String × StageStatus)) (undone : stages.lookup key ≠ some .done)
    (started : ∀ event ∈ events, event.1 = key → event.2 = "start") :
    (events.foldl setStage stages).lookup key ≠ some .done := by
  induction events generalizing stages with
  | nil => exact undone
  | cons event rest ih =>
      obtain ⟨here, later⟩ := List.forall_mem_cons.mp started
      apply ih _ _ later
      rw [setStage, lookup_setKey]
      by_cases same : key = event.1
      · simp [same, here same.symm, stageStatus]
      · rw [if_neg same]
        exact undone

theorem report_unfinished (stop : Stop) (later : List (String × String))
    (shape : later = [("compare", "start")] ∨
      later = [("compare", "start"), ("compare", "done"), ("report", "start")]) :
    ((stop.markers ++ later).foldl setStage initialStages).lookup "report" ≠ some .done := by
  apply undone_after
  · decide
  · intro event member isReport
    rcases List.mem_append.mp member with marked | after
    · obtain ⟨stage, key⟩ := marker_key stop event marked
      rw [isReport] at key
      cases stage <;> simp [Stage.key] at key
    · rcases shape with raised | reported
      · subst raised
        rw [List.mem_singleton.mp after] at isReport
        simp at isReport
      · subst reported
        simp only [List.mem_cons, List.not_mem_nil, or_false] at after
        rcases after with rfl | rfl | rfl
        · simp at isReport
        · simp at isReport
        · rfl

section Accepted

variable (db : CharDb) (patchText : String) (run : PatchRun)
  (nonblank : strip patchText ≠ "") (small : patchText.utf8ByteSize ≤ maxPatchBytes)
  (unmarked : run.Unmarked)

theorem showing_opened : Showing (opened patchText) initialStages := ⟨rfl, rfl⟩

include unmarked

theorem showing_lines :
    Showing ((((lines run.text).map (lineEvent db)).map (toMessage encoding)).foldl
      Shown.receive (opened patchText)) (run.stop.markers.foldl setStage initialStages) := by
  rw [← stageEvents_unmarked db run unmarked]
  exact receive_lines encoding db (lines run.text) _ _ (showing_opened patchText)

include nonblank small

theorem display_failed (status : Int) (failed : status ≠ 0) (ending : run.ending = .exited status) :
    (display encoding db patchText run).view.stages =
      setKey run.stop.failing.key .error (run.stop.markers.foldl setStage initialStages) := by
  obtain ⟨message, event⟩ := failureEvent_blamed run.text status
  have events : pipelineEvents db patchText run =
      (lines run.text).map (lineEvent db) ++ [.error (some run.stop.failing.key) message] := by
    rw [pipelineEvents, ending]
    simp only
    rw [patchEvents_failed db patchText _ status nonblank small failed, join_lines, event,
      blamed_unmarked run unmarked]
  have shown := receive_error _ _ (showing_lines encoding db patchText run unmarked) message
    (some run.stop.failing)
  rw [display, events, List.map_append, List.foldl_append]
  simp only [List.map_cons, List.map_nil, toMessage, List.foldl_cons, List.foldl_nil,
    Option.map_some] at shown ⊢
  exact shown

theorem display_late (ending : run.ending = .timeLimit) :
    (display encoding db patchText run).view.stages =
      run.stop.markers.foldl setStage initialStages := by
  have events : pipelineEvents db patchText run =
      (lines run.text).map (lineEvent db) ++ [.error none timeLimitMessage] := by
    rw [pipelineEvents, ending]
    simp only
    rw [play_runPatchPipeline_late db patchText _ nonblank small]
  have shown := receive_error _ _ (showing_lines encoding db patchText run unmarked)
    timeLimitMessage none
  rw [display, events, List.map_append, List.foldl_append]
  simp only [List.map_cons, List.map_nil, toMessage, List.foldl_cons, List.foldl_nil,
    Option.map_none] at shown ⊢
  exact shown

/-- A report is never shown as done: what follows the result is not delivered. -/
theorem display_exited_zero (ending : run.ending = .exited 0) :
    ∃ later, (display encoding db patchText run).view.stages =
        (run.stop.markers ++ later).foldl setStage initialStages ∧
      (later = [("compare", "start")] ∨
        later = [("compare", "start"), ("compare", "done"), ("report", "start")]) := by
  have showing := showing_lines encoding db patchText run unmarked
  have events : pipelineEvents db patchText run =
      (lines run.text).map (lineEvent db) ++
        (play (host 0) (compareAndReport db run.text)).1 := by
    rw [pipelineEvents, ending]
    simp only
    rw [patchEvents, play_runPatchPipeline db patchText _ 0 nonblank small, join_lines]
    simp only [ne_eq, not_true_eq_false, ↓reduceIte]
  have started := receive_stage _ _ showing "compare" "start"
  rw [display, events, List.map_append, List.foldl_append]
  cases parsed : parseBenchmarkOutput db run.text with
  | error exn =>
      refine ⟨[("compare", "start")], ?_, Or.inl rfl⟩
      have played : (play (host 0) (compareAndReport db run.text)).1 =
          [.stage "compare" "start"] := by
        unfold compareAndReport
        rw [play_bind_ok (host 0) _ _ _ () (play_yieldEvent _ _), play_bind, play_fromExcept,
          parsed]
        rfl
      have shown := started.stages
      rw [played, List.foldl_append]
      simp only [List.map_cons, List.map_nil, toMessage, List.foldl_cons, List.foldl_nil]
        at shown ⊢
      exact shown
  | ok data =>
      refine ⟨[("compare", "start"), ("compare", "done"), ("report", "start")], ?_, Or.inr rfl⟩
      obtain ⟨changes, -, played⟩ := play_compareAndReport db run.text 0 data parsed
      have compared := receive_stage _ _ started "compare" "done"
      have reporting := receive_stage _ _ compared "report" "start"
      have shown := receive_result _ _ reporting
        (.object [("type", .string "result"), ("data", encoding.data data),
          ("comparison_vs_baseline", encoding.changes changes), ("note", .string note)])
        (encoding.data data) [.stage "report" "done"]
      rw [played, List.foldl_append]
      simp only [List.map_cons, List.map_nil, toMessage, List.foldl_cons, List.foldl_nil]
        at shown ⊢
      exact shown

/-- What the panel shows of a run without marker text is right if and only if
the run fails, and not by the time limit while a stage is at work. -/
theorem shown_right_iff :
    ShownRight run (display encoding db patchText run).view.stages ↔ run.EndsBetween := by
  cases ending : run.ending with
  | exited status =>
      by_cases succeeded : status = 0
      · subst succeeded
        obtain ⟨later, stages, shape⟩ :=
          display_exited_zero encoding db patchText run nonblank small unmarked ending
        simp only [ShownRight, PatchRun.EndsBetween, ending, ↓reduceIte, ne_eq,
          not_true_eq_false, iff_false, stages]
        intro allDone
        exact report_unfinished run.stop later shape (allDone "report" (by decide))
      · have stages := display_failed encoding db patchText run nonblank small unmarked status
          succeeded ending
        simp only [ShownRight, PatchRun.EndsBetween, ending, if_neg succeeded, stages]
        exact ⟨fun _ => succeeded, fun _ => failure_shown run.stop⟩
  | timeLimit =>
      have stages := display_late encoding db patchText run nonblank small unmarked ending
      simp only [ShownRight, PatchRun.EndsBetween, ending, stages]
      exact late_shown_iff run.stop

end Accepted

theorem shown_right_iff_failed_build :
    let run : PatchRun := ⟨fun _ => "HEAD is now at 6.6.151\n", .within .build,
      "error: expected ';'\n", .exited 2⟩
    ShownRight run (display ⟨fun _ => .null, fun _ => .null⟩ .ascii "diff" run).view.stages ↔
      run.EndsBetween :=
  have output : Unmarked "HEAD is now at 6.6.151\n" := by decide
  have tail : Unmarked "error: expected ';'\n" := by decide
  shown_right_iff ⟨fun _ => .null, fun _ => .null⟩ .ascii "diff" _ (by decide) (by decide)
    ⟨fun _ => output, tail⟩

/-- A successful run leaves the report running, the time limit the build. -/
theorem stages_left_running :
    let finished : PatchRun := ⟨fun _ => "", .finished, "", .exited 0⟩
    let stuck : PatchRun := ⟨fun _ => "", .within .build, "", .timeLimit⟩
    let shown run := (display ⟨fun _ => .null, fun _ => .null⟩ .ascii "diff" run).view.stages
    ¬ ShownRight finished (shown finished) ∧ ¬ ShownRight stuck (shown stuck) := by
  constructor
  · intro allDone
    obtain ⟨later, stages, shape⟩ := display_exited_zero ⟨fun _ => .null, fun _ => .null⟩ .ascii
      "diff" ⟨fun _ => "", .finished, "", .exited 0⟩ (by decide) (by decide)
      ⟨fun _ => rfl, rfl⟩ rfl
    have report := allDone "report" (by decide)
    exact report_unfinished .finished later shape (stages ▸ report)
  · intro failure
    have stages := display_late ⟨fun _ => .null, fun _ => .null⟩ .ascii "diff"
      ⟨fun _ => "", .within .build, "", .timeLimit⟩ (by decide) (by decide)
      ⟨fun _ => rfl, rfl⟩ rfl
    have between := (late_shown_iff (.within .build)).mp (stages ▸ failure)
    exact between .build rfl

end KernelSprint.StageDisplay

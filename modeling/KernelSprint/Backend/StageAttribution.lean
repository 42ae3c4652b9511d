import KernelSprint.Backend.PatchScript

/-!
# Which stage a failed patch run is put down to

The tools of each stage print what the uploaded patch makes them print.  The
events of a run that fails in one of the stages are compared with the markers
that the script itself has printed.
-/

set_option autoImplicit false

namespace KernelSprint.StageAttribution

open Patterns PyText Pipelines PipelineReports StreamCommand PatchScript

/-- The events of a run whose last text is a tool's of the failing stage. -/
def failedRun (db : CharDb) (patchText : String) (outputs : Stage → String) (stage : Stage)
    (status : Int) : List Event :=
  patchEvents db patchText (lines (textWithin outputs stage)) status

/-- The markers that the script prints before a tool of the stage fails. -/
def scriptMarkers (stage : Stage) : List (String × String) :=
  (stage.earlier.flatMap fun done => [(done.key, "start"), (done.key, "done")]) ++
    [(stage.key, "start")]

/-- The `stage` fields of the error events. -/
def errorStages (events : List Event) : List (Option String) :=
  events.filterMap fun
    | .error stage _ => some stage
    | _ => none

structure Attributed (events : List Event) (stage : Stage) : Prop where
  oneError : errorStages events = [some stage.key]
  markers : (events.takeWhile fun event => !event.isError).filterMap stageOf =
    scriptMarkers stage

/-- Every line but the one that the done marker shares is silent, and the done
marker is the first match on its line. -/
structure Closes (db : CharDb) (output : String) (stage : Stage) : Prop where
  silent : Silent db ((iterLines (complete output.toList)).map String.ofList)
  done : lineEvent db (closingLine output stage) = .stage stage.key "done"

/-- No output of a tool passes for a marker. -/
structure Unconfused (db : CharDb) (outputs : Stage → String) (stage : Stage) : Prop where
  closes : ∀ done ∈ stage.earlier, Closes db (outputs done) done
  silent : Silent db (lines (outputs stage))
  undone : stage = .boot ∨ includes (textWithin outputs stage) (marker stage "done") = false

/-! ## The events of a failed run -/

theorem takeWhile_events (db : CharDb) (lines : List String) (event : Event)
    (error : event.isError = true) :
    ((lines.map (lineEvent db) ++ [event]).takeWhile fun event => !event.isError) =
      lines.map (lineEvent db) := by
  have all : ∀ event ∈ lines.map (lineEvent db), (!event.isError) = true := by
    intro event member
    obtain ⟨line, _, same⟩ := List.mem_map.mp member
    rw [← same, lineEvent_not_error]
    rfl
  rw [List.takeWhile_append_of_pos all]
  simp [error]

theorem errorStages_lines (db : CharDb) (lines : List String) :
    errorStages (lines.map (lineEvent db)) = [] := by
  simp only [errorStages, List.filterMap_eq_nil_iff, List.forall_mem_map]
  intro line _
  have quiet := lineEvent_not_error db line
  cases event : lineEvent db line with
  | error stage message =>
      rw [event] at quiet
      cases quiet
  | _ => rfl

/-- The stage that the substring tests select. -/
def blamed (output : String) : Stage :=
  if includes output (marker .apply "done") = false then .apply
  else if includes output (marker .build "done") = false then .build
  else .boot

theorem failureEvent_blamed (output : String) (status : Int) :
    ∃ message, failureEvent output status = .error (some (blamed output).key) message := by
  have apply_ : marker .apply "done" = "@@STAGE:apply:done@@" := by decide
  have build : marker .build "done" = "@@STAGE:build:done@@" := by decide
  unfold failureEvent blamed
  rw [apply_, build]
  simp only [Bool.not_eq_true]
  split_ifs
  · exact ⟨_, rfl⟩
  · exact ⟨_, rfl⟩
  · exact ⟨_, rfl⟩

section Run

variable (db : CharDb) (patchText : String) (outputs : Stage → String) (stage : Stage)
  (status : Int) (nonblank : strip patchText ≠ "")
  (small : patchText.utf8ByteSize ≤ maxPatchBytes) (failed : status ≠ 0)

include nonblank small failed

theorem attributed_iff_parts :
    Attributed (failedRun db patchText outputs stage status) stage ↔
      blamed (textWithin outputs stage) = stage ∧
        stageEvents db (lines (textWithin outputs stage)) = scriptMarkers stage := by
  obtain ⟨message, event⟩ := failureEvent_blamed (textWithin outputs stage) status
  have events : failedRun db patchText outputs stage status =
      (lines (textWithin outputs stage)).map (lineEvent db) ++
        [.error (some (blamed (textWithin outputs stage)).key) message] := by
    rw [failedRun, patchEvents_failed db patchText _ status nonblank small failed, join_lines,
      event]
  have keys : ∀ other : Stage, other.key = stage.key ↔ other = stage := by
    intro other
    cases other <;> cases stage <;> decide
  have errors : errorStages (failedRun db patchText outputs stage status) =
      [some (blamed (textWithin outputs stage)).key] := by
    rw [events]
    simp only [errorStages, List.filterMap_append]
    have none := errorStages_lines db (lines (textWithin outputs stage))
    simp only [errorStages] at none
    rw [none]
    rfl
  have before : ((failedRun db patchText outputs stage status).takeWhile
      fun event => !event.isError).filterMap stageOf =
        stageEvents db (lines (textWithin outputs stage)) := by
    rw [events, takeWhile_events db _ _ rfl]
    rfl
  constructor
  · intro attributed
    have named := attributed.oneError
    rw [errors] at named
    simp only [List.cons.injEq, Option.some.injEq, and_true] at named
    exact ⟨(keys _).mp named, before.symm.trans attributed.markers⟩
  · intro parts
    refine ⟨?_, before.trans parts.2⟩
    rw [errors, parts.1]

end Run

/-! ## Exactly which outputs keep the attribution right -/

theorem includes_of_earlier (outputs : Stage → String) (stage done : Stage)
    (member : done ∈ stage.earlier) :
    includes (textWithin outputs stage) (marker done "done") = true :=
  decide_eq_true (includes_done outputs done stage.earlier _ member)

/-- The done markers of the earlier stages are there, so only that of the
failing stage can mislead. -/
theorem blamed_iff (outputs : Stage → String) (stage : Stage) :
    blamed (textWithin outputs stage) = stage ↔
      stage = .boot ∨ includes (textWithin outputs stage) (marker stage "done") = false := by
  have printed := includes_of_earlier outputs stage
  cases stage with
  | apply =>
      unfold blamed
      by_cases absent : includes (textWithin outputs .apply) (marker .apply "done") = false
      · simp [absent]
      · rw [if_neg absent]
        split_ifs <;> simp [absent]
  | build =>
      have applied := printed .apply (by decide)
      unfold blamed
      rw [if_neg (by simp [applied])]
      by_cases absent : includes (textWithin outputs .build) (marker .build "done") = false
      · simp [absent]
      · simp [absent]
  | boot =>
      have applied := printed .apply (by decide)
      have built := printed .build (by decide)
      unfold blamed
      rw [if_neg (by simp [applied]), if_neg (by simp [built])]
      simp

/-- The line with the done marker is never silent. -/
theorem closingLine_matches (db : CharDb) (output : String) (stage : Stage) :
    stageOf (lineEvent db (closingLine output stage)) ≠ none := by
  rw [ne_eq, stageOf_eq_none_iff, search_eq_none_iff]
  intro refused
  have inside : (doneLine stage).toList <:+ (closingLine output stage).toList := by
    rw [closingLine, String.toList_ofList]
    exact List.suffix_append _ _
  have matched : matchAt (stageRe db) (doneLine stage).toList ≠ none := by
    rw [doneLine, echo, String.toList_append, matchAt_marker db stage "done" _ (Or.inr rfl)]
    exact Option.some_ne_none _
  exact matched (refused _ inside)

theorem stageEvents_doneLine (db : CharDb) (output : String) (stage : Stage) :
    stageEvents db (lines (output ++ doneLine stage)) =
      stageEvents db ((iterLines (complete output.toList)).map String.ofList) ++
        (stageOf (lineEvent db (closingLine output stage))).toList := by
  rw [lines_doneLine, stageEvents_append, stageEvents_single]

theorem stageEvents_doneLine_ne_nil (db : CharDb) (output : String) (stage : Stage) :
    stageEvents db (lines (output ++ doneLine stage)) ≠ [] := by
  obtain ⟨event, found⟩ := Option.ne_none_iff_exists'.mp (closingLine_matches db output stage)
  rw [stageEvents_doneLine, found]
  simp

theorem closes_iff (db : CharDb) (output : String) (stage : Stage) :
    Closes db output stage ↔
      stageEvents db (lines (output ++ doneLine stage)) = [(stage.key, "done")] := by
  obtain ⟨event, found⟩ := Option.ne_none_iff_exists'.mp (closingLine_matches db output stage)
  have same : lineEvent db (closingLine output stage) = .stage stage.key "done" ↔
      event = (stage.key, "done") := by
    cases line : lineEvent db (closingLine output stage) with
    | stage other status =>
        rw [line] at found
        cases found
        simp
    | _ =>
        rw [line] at found
        cases found
  rw [stageEvents_doneLine, found]
  constructor
  · intro closes
    rw [(silent_iff db _).mp closes.silent, same.mp closes.done]
    rfl
  · intro single
    have nothing : stageEvents db ((iterLines (complete output.toList)).map String.ofList) = [] := by
      have counted := congrArg List.length single
      simp only [List.length_append, Option.toList_some, List.length_singleton] at counted
      exact List.eq_nil_of_length_eq_zero (by omega)
    rw [nothing] at single
    exact ⟨(silent_iff db _).mpr nothing, same.mpr (by simpa using single)⟩

/-- With something between each start and the next, the whole has the right
length only if it is one done each time. -/
theorem length_between {ι β : Type} (start : ι → β) (between : ι → List β) (items : List ι)
    (nonempty : ∀ item ∈ items, between item ≠ []) :
    2 * items.length ≤ (items.flatMap fun item => start item :: between item).length := by
  induction items with
  | nil => simp
  | cons item rest ih =>
      have later := ih fun other member => nonempty other (List.mem_cons_of_mem item member)
      have positive := List.length_pos_iff.mpr (nonempty item List.mem_cons_self)
      simp only [List.flatMap_cons, List.length_append, List.length_cons]
      omega

theorem between_unique {ι β : Type} (start done : ι → β) (between : ι → List β)
    (items : List ι) (last : β) (tail : List β)
    (nonempty : ∀ item ∈ items, between item ≠ []) :
    ((items.flatMap fun item => start item :: between item) ++ last :: tail =
        (items.flatMap fun item => [start item, done item]) ++ [last]) ↔
      (∀ item ∈ items, between item = [done item]) ∧ tail = [] := by
  induction items with
  | nil => simp
  | cons item rest ih =>
      have restNonempty := fun other member =>
        nonempty other (List.mem_cons_of_mem item member)
      have enough := length_between start between rest restNonempty
      obtain ⟨first, more, found⟩ := List.exists_cons_of_ne_nil
        (nonempty item List.mem_cons_self)
      have doneLength : (rest.flatMap fun item => [start item, done item]).length =
          2 * rest.length := by
        simp [Nat.mul_comm]
      constructor
      · intro same
        simp only [List.flatMap_cons, found, List.cons_append, List.nil_append,
          List.cons.injEq, true_and, List.append_assoc] at same
        have counted := congrArg List.length same.2
        simp only [List.length_append, List.length_cons, List.length_nil, doneLength] at counted
        have nothing : more = [] := List.eq_nil_of_length_eq_zero (by omega)
        rw [nothing, List.nil_append] at same
        obtain ⟨later, ends⟩ := (ih restNonempty).mp same.2
        refine ⟨List.forall_mem_cons.mpr ⟨?_, later⟩, ends⟩
        rw [found, nothing, same.1]
      · intro all
        obtain ⟨here, later⟩ := List.forall_mem_cons.mp all.1
        have rest := (ih restNonempty).mpr ⟨later, all.2⟩
        simp only [List.flatMap_cons, here, List.cons_append, List.nil_append, rest]

theorem closes_of_unmarked (db : CharDb) (output : String) (stage : Stage)
    (unmarked : Unmarked output) : Closes db output stage := by
  refine ⟨?_, lineEvent_closingLine db output unmarked stage⟩
  apply silent_of_unmarked db output unmarked
  intro line member
  have inside : complete output.toList <+: output.toList := List.rdropWhile_prefix _ _
  exact (infix_of_mem_iterLines _ _ member).trans inside.isInfix

theorem silent_lines_of_unmarked (db : CharDb) (output : String) (unmarked : Unmarked output) :
    Silent db (lines output) :=
  silent_of_unmarked db output unmarked _ fun line member => infix_of_mem_iterLines _ line member

/-- Output without marker text is never mistaken. -/
theorem unconfused_of_unmarked (db : CharDb) (outputs : Stage → String) (stage : Stage)
    (unmarked : ∀ stage, Unmarked (outputs stage)) : Unconfused db outputs stage := by
  have absent := not_includes_done outputs unmarked stage stage.earlier
    (by cases stage <;> decide) (startLine stage ++ outputs stage)
    (done_not_started stage stage _ (done_not_output _ (unmarked stage) stage))
  exact ⟨fun done _ => closes_of_unmarked db (outputs done) done (unmarked done),
    silent_lines_of_unmarked db (outputs stage) (unmarked stage),
    Or.inr (decide_eq_false absent)⟩

/-- A failed run is put down to the stage that failed, after exactly the
script's own markers, if and only if no output of a tool passes for one. -/
theorem attributed_iff (db : CharDb) (patchText : String) (outputs : Stage → String)
    (stage : Stage) (status : Int) (nonblank : strip patchText ≠ "")
    (small : patchText.utf8ByteSize ≤ maxPatchBytes) (failed : status ≠ 0) :
    Attributed (failedRun db patchText outputs stage status) stage ↔
      Unconfused db outputs stage := by
  have unique := between_unique (fun done : Stage => (done.key, "start"))
    (fun done => (done.key, "done"))
    (fun done => stageEvents db (lines (outputs done ++ doneLine done))) stage.earlier
    (stage.key, "start") (stageEvents db (lines (outputs stage)))
    (fun done _ => stageEvents_doneLine_ne_nil db (outputs done) done)
  rw [attributed_iff_parts db patchText outputs stage status nonblank small failed, blamed_iff,
    stageEvents_textWithin, scriptMarkers, unique]
  constructor
  · intro parts
    obtain ⟨undone, closes, silent⟩ := parts
    exact ⟨fun done member => (closes_iff db _ _).mpr (closes done member),
      (silent_iff db _).mpr silent, undone⟩
  · intro unconfused
    exact ⟨unconfused.undone, fun done member => (closes_iff db _ _).mp
      (unconfused.closes done member), (silent_iff db _).mp unconfused.silent⟩

theorem attributed_iff_failed_build :
    Attributed (failedRun .ascii "diff" (fun _ => "error: expected ';'\n") .build 2) .build ∧
      Unconfused .ascii (fun _ => "error: expected ';'\n") .build := by
  have unconfused := unconfused_of_unmarked .ascii (fun _ => "error: expected ';'\n") .build
    fun _ => by decide
  exact ⟨(attributed_iff .ascii "diff" _ .build 2 (by decide) (by decide) (by decide)).mpr
    unconfused, unconfused⟩

/-- `git apply` quotes a path of the patch that looks like the done marker. -/
theorem quoted_path_misleads :
    ¬ Attributed (failedRun .ascii "diff"
      (fun _ => "error: kernel/@@STAGE:apply:done@@: No such file or directory\n") .apply 1)
        .apply := by
  intro attributed
  exact absurd attributed.oneError (by decide +kernel)

end KernelSprint.StageAttribution

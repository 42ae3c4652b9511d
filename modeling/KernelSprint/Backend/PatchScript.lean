import KernelSprint.Backend.PipelineReports
import KernelSprint.Backend.StreamCommand

/-!
# What the patch script prints

`PIPELINE_SCRIPT` of `patch_agent` under `set -e`: each stage echoes its start
marker, runs tools that print what they like, and echoes its done marker if
they all succeeded.
-/

set_option autoImplicit false

namespace KernelSprint.PatchScript

open Patterns PyText Pipelines StreamCommand
open BenchmarkOutput (text)

/-- The stages that the script marks. -/
inductive Stage where
  | apply
  | build
  | boot
  deriving DecidableEq, Repr

def Stage.key : Stage → String
  | .apply => "apply"
  | .build => "build"
  | .boot => "boot"

/-- The stages that are done when this one starts. -/
def Stage.earlier : Stage → List Stage
  | .apply => []
  | .build => [.apply]
  | .boot => [.apply, .build]

/-- `@@STAGE:<stage>:<status>@@` -/
def marker (stage : Stage) (status : String) : String :=
  "@@STAGE:" ++ stage.key ++ ":" ++ status ++ "@@"

/-- `echo` -/
def echo (line : String) : String := line ++ "\n"

def startLine (stage : Stage) : String := echo (marker stage "start")

def doneLine (stage : Stage) : String := echo (marker stage "done")

/-- What a stage prints that succeeds. -/
def stageText (outputs : Stage → String) (stage : Stage) : String :=
  startLine stage ++ (outputs stage ++ doneLine stage)

/-- What the script prints up to the last tool of a stage that does not get
done. -/
def textWithin (outputs : Stage → String) (stage : Stage) : String :=
  String.join (stage.earlier.map (stageText outputs)) ++ (startLine stage ++ outputs stage)

/-! ## The stage events of a text -/

def stageOf : Event → Option (String × String)
  | .stage stage status => some (stage, status)
  | _ => none

def stageEvents (db : CharDb) (lines : List String) : List (String × String) :=
  (lines.map (lineEvent db)).filterMap stageOf

variable (db : CharDb)

@[simp] theorem stageEvents_append (first second : List String) :
    stageEvents db (first ++ second) = stageEvents db first ++ stageEvents db second := by
  simp [stageEvents]

theorem toList_marker (stage : Stage) (status : String) :
    (marker stage status).toList =
      "@@STAGE:".toList ++ (stage.key.toList ++ (":".toList ++
        (status.toList ++ "@@".toList))) := by
  simp [marker]

theorem word_ascii_of (symbols : List Char)
    (ascii : symbols.all (fun c => c.toNat < 128 ∧ (c.isAlphanum || c == '_')) = true) :
    ∀ c ∈ symbols, db.word c = true := by
  intro c member
  have both := List.all_eq_true.mp ascii c member
  simp only [decide_eq_true_eq] at both
  rw [db.word_ascii c both.1]
  exact both.2

theorem not_word (c : Char) (ascii : c.toNat < 128)
    (other : (c.isAlphanum || c == '_') = false) : db.word c = false := by
  rw [db.word_ascii c ascii]
  exact other

/-- What `STAGE_RE` asks for after `@@STAGE:`. -/
def markerTail : Pattern Char :=
  .greedy db.word :: (text ":" ++ (.greedy db.word :: text "@@"))

theorem stageRe_eq : stageRe db = literal "@@STAGE:".toList ++ markerTail db := by
  simp [stageRe, markerTail, text]

/-- The expression matches a marker of word characters, whatever follows it. -/
theorem matchAt_stageRe (stage status rest : List Char) (named : stage ≠ [])
    (said : status ≠ []) (stageWord : ∀ c ∈ stage, db.word c = true)
    (statusWord : ∀ c ∈ status, db.word c = true) :
    matchAt (stageRe db) ("@@STAGE:".toList ++ (stage ++ (":".toList ++
      (status ++ ("@@".toList ++ rest))))) = some ⟨[stage, status], rest⟩ := by
  have at_ : db.word '@' = false := not_word db '@' (by decide) (by decide)
  have colon : db.word ':' = false := not_word db ':' (by decide) (by decide)
  have last : matchAt (text "@@") ("@@".toList ++ rest) = some ⟨[], rest⟩ := by
    have whole := matchAt_literal "@@".toList [] rest
    rw [List.append_nil] at whole
    exact whole
  have second : matchAt (.greedy db.word :: text "@@")
      (status ++ ("@@".toList ++ rest)) = some ⟨[status], rest⟩ := by
    apply matchAt_greedy db.word (text "@@") status _ ⟨[], rest⟩ said statusWord _ last
    intro c head
    cases head
    exact at_
  have first : matchAt (markerTail db)
      (stage ++ (":".toList ++ (status ++ ("@@".toList ++ rest)))) =
        some ⟨[stage, status], rest⟩ := by
    apply matchAt_greedy db.word _ stage _ ⟨[status], rest⟩ named stageWord
    · intro c head
      cases head
      exact colon
    · exact (matchAt_literal ":".toList _ _).trans second
  rw [stageRe_eq]
  exact (matchAt_literal "@@STAGE:".toList _ _).trans first

theorem captures_stageRe : captures (stageRe db) = 2 := rfl

theorem stageEvents_single (line : String) :
    stageEvents db [line] = (stageOf (lineEvent db line)).toList := by
  cases event : stageOf (lineEvent db line) <;> simp [stageEvents, event]

theorem stageOf_matched (line : String) (stage status rest : List Char)
    (matched : search (stageRe db) line.toList = some ⟨[stage, status], rest⟩) :
    stageOf (lineEvent db line) = some (String.ofList stage, String.ofList status) := by
  simp only [lineEvent, matched, stageOf]

/-- A line becomes an output event exactly when nothing in it matches. -/
theorem stageOf_eq_none_iff (line : String) :
    stageOf (lineEvent db line) = none ↔ search (stageRe db) line.toList = none := by
  cases searched : search (stageRe db) line.toList with
  | none => simp [lineEvent, searched, stageOf]
  | some found =>
      have two : found.groups.length = 2 := by
        obtain ⟨suffix, _, matched⟩ := search_some _ _ _ searched
        rw [matchAt_groups _ _ _ matched, captures_stageRe]
      obtain ⟨groups, rest⟩ := found
      obtain ⟨stage, status, both⟩ := List.length_eq_two.mp two
      subst both
      simp [stageOf_matched db line stage status rest searched]

/-- No line is taken for a marker. -/
def Silent (lines : List String) : Prop :=
  ∀ line ∈ lines, search (stageRe db) line.toList = none

theorem silent_iff (lines : List String) : Silent db lines ↔ stageEvents db lines = [] := by
  simp only [stageEvents, List.filterMap_eq_nil_iff, List.forall_mem_map, stageOf_eq_none_iff]
  rfl

/-! ## The markers of the script itself -/

theorem matchAt_marker (stage : Stage) (status : String) (rest : List Char)
    (said : status = "start" ∨ status = "done") :
    matchAt (stageRe db) ((marker stage status).toList ++ rest) =
      some ⟨[stage.key.toList, status.toList], rest⟩ := by
  have named : stage.key.toList ≠ [] := by cases stage <;> decide
  have stageWord : ∀ c ∈ stage.key.toList, db.word c = true := by
    apply word_ascii_of
    cases stage <;> decide
  have statusWord : ∀ c ∈ status.toList, db.word c = true := by
    apply word_ascii_of
    rcases said with start | done
    · subst start
      decide
    · subst done
      decide
  have nonempty : status.toList ≠ [] := by
    rcases said with start | done
    · subst start
      decide
    · subst done
      decide
  rw [toList_marker]
  simp only [List.append_assoc]
  exact matchAt_stageRe db _ _ rest named nonempty stageWord statusWord

theorem newline_notMem_marker (stage : Stage) (status : String)
    (said : status = "start" ∨ status = "done") : '\n' ∉ (marker stage status).toList := by
  rcases said with start | done
  · subst start
    cases stage <;> decide
  · subst done
    cases stage <;> decide

theorem lines_echo (line : String) (inner : '\n' ∉ line.toList) :
    lines (echo line) = [echo line] := by
  have single := iterLines_line line.toList inner
  simp only [lines, echo, String.toList_append]
  rw [show "\n".toList = ['\n'] from rfl, single]
  simp [String.ofList_append]

theorem echo_ends (line : String) : (echo line).toList.getLast? = some '\n' := by
  simp [echo]

theorem stageEvents_startLine (stage : Stage) :
    stageEvents db (lines (startLine stage)) = [(stage.key, "start")] := by
  have matched : search (stageRe db) (startLine stage).toList =
      some ⟨[stage.key.toList, "start".toList], ['\n']⟩ := by
    apply search_here
    rw [startLine, echo, String.toList_append]
    exact matchAt_marker db stage "start" _ (Or.inl rfl)
  rw [startLine, lines_echo _ (newline_notMem_marker stage "start" (Or.inl rfl)),
    stageEvents_single]
  rw [startLine] at matched
  rw [stageOf_matched db _ _ _ _ matched]
  simp

theorem stageEvents_started (stage : Stage) (rest : String) :
    stageEvents db (lines (startLine stage ++ rest)) =
      (stage.key, "start") :: stageEvents db (lines rest) := by
  have ends : (startLine stage).toList.getLast? = some '\n' := echo_ends _
  rw [lines_append _ _ ends, stageEvents_append, stageEvents_startLine]
  rfl

/-- The line that the done marker of a stage stands on. -/
def closingLine (output : String) (stage : Stage) : String :=
  String.ofList (unfinished output.toList ++ (doneLine stage).toList)

/-- The lines of an output with the done marker echoed after it. -/
theorem lines_doneLine (output : String) (stage : Stage) :
    lines (output ++ doneLine stage) =
      (iterLines (complete output.toList)).map String.ofList ++
        [closingLine output stage] := by
  have inner : '\n' ∉ unfinished output.toList ++ (marker stage "done").toList := by
    intro member
    rcases List.mem_append.mp member with early | late
    · exact newline_notMem_unfinished _ early
    · exact newline_notMem_marker stage "done" (Or.inr rfl) late
  have last := iterLines_line _ inner
  have parts : (output ++ doneLine stage).toList = complete output.toList ++
      (unfinished output.toList ++ (marker stage "done").toList ++ ['\n']) := by
    rw [String.toList_append, List.append_assoc, ← List.append_assoc (complete _),
      complete_append_unfinished]
    simp [doneLine, echo]
  rw [lines, parts, iterLines_complete_append, last, List.map_append]
  simp [closingLine, doneLine, echo]

theorem stageText_ends (outputs : Stage → String) (stage : Stage) :
    (stageText outputs stage).toList.getLast? = some '\n' := by
  simp [stageText, doneLine, echo]

/-- The stage events of completed stages, and what comes after them. -/
theorem stageEvents_completed (outputs : Stage → String) (completed : List Stage)
    (rest : String) :
    stageEvents db (lines (String.join (completed.map (stageText outputs)) ++ rest)) =
      (completed.flatMap fun done => (done.key, "start") ::
        stageEvents db (lines (outputs done ++ doneLine done))) ++
      stageEvents db (lines rest) := by
  induction completed with
  | nil => simp
  | cons first later ih =>
      rw [List.map_cons, String.join_cons, String.append_assoc,
        lines_append _ _ (stageText_ends outputs first), stageEvents_append, stageText,
        stageEvents_started, ih, List.flatMap_cons, List.append_assoc]

theorem stageEvents_textWithin (outputs : Stage → String) (stage : Stage) :
    stageEvents db (lines (textWithin outputs stage)) =
      (stage.earlier.flatMap fun done => (done.key, "start") ::
        stageEvents db (lines (outputs done ++ doneLine done))) ++
      ((stage.key, "start") :: stageEvents db (lines (outputs stage))) := by
  rw [textWithin, stageEvents_completed, stageEvents_started]

/-! ## Output without marker text -/

def Unmarked (output : String) : Prop := includes output "@@STAGE:" = false

instance (output : String) : Decidable (Unmarked output) :=
  inferInstanceAs (Decidable (includes output "@@STAGE:" = false))

theorem not_infix_of_unmarked (output : String) (unmarked : Unmarked output) :
    ¬ "@@STAGE:".toList <:+: output.toList := by
  simp only [Unmarked, includes, decide_eq_false_iff_not] at unmarked
  exact unmarked

theorem silent_of_unmarked (output : String) (unmarked : Unmarked output)
    (selected : List (List Char)) (inside : ∀ line ∈ selected, line <:+: output.toList) :
    Silent db (selected.map String.ofList) := by
  intro line member
  obtain ⟨symbols, selectedLine, same⟩ := List.mem_map.mp member
  rw [← same, String.toList_ofList, stageRe_eq]
  apply search_literal_none
  intro occurs
  exact not_infix_of_unmarked output unmarked (occurs.trans (inside symbols selectedLine))

/-- In unmarked output followed by a marker, the marker is found first. -/
theorem marker_not_earlier (before : List Char) (absent : ¬ "@@STAGE:".toList <:+: before)
    (stage : Stage) (status : String) (rest suffix : List Char) (ends : suffix <:+ before)
    (nonempty : suffix ≠ []) :
    ¬ "@@STAGE:".toList <+: suffix ++ ((marker stage status).toList ++ rest) := by
  have elsewhere := not_prefix_of_overlap "@@STAGE".toList ':' (by decide) suffix
    (stage.key.toList ++ (":".toList ++ (status.toList ++ "@@".toList)) ++ rest) nonempty
    (fun inside => absent (inside.trans ends.isInfix))
  rw [toList_marker]
  simp only [List.append_assoc] at elsewhere ⊢
  exact elsewhere

theorem lineEvent_closingLine (output : String) (unmarked : Unmarked output) (stage : Stage) :
    lineEvent db (closingLine output stage) = .stage stage.key "done" := by
  have absent : ¬ "@@STAGE:".toList <:+: unfinished output.toList := by
    intro inside
    have suffix : unfinished output.toList <:+ output.toList := List.rtakeWhile_suffix _ _
    exact not_infix_of_unmarked output unmarked (inside.trans suffix.isInfix)
  have matched : search (stageRe db) (closingLine output stage).toList =
      some ⟨[stage.key.toList, "done".toList], ['\n']⟩ := by
    rw [closingLine, String.toList_ofList, doneLine, echo, String.toList_append, stageRe_eq,
      search_literal_skip _ _ _ _ (marker_not_earlier _ absent stage "done" _), ← stageRe_eq]
    apply search_here
    exact matchAt_marker db stage "done" _ (Or.inr rfl)
  simp only [lineEvent, matched, String.ofList_toList]

theorem newline_notMem_done (stage : Stage) : '\n' ∉ (marker stage "done").toList :=
  newline_notMem_marker stage "done" (Or.inr rfl)

theorem done_starts (stage : Stage) : "@@STAGE:".toList <+: (marker stage "done").toList := by
  rw [toList_marker]
  exact List.prefix_append _ _

theorem done_not_output (output : String) (unmarked : Unmarked output) (stage : Stage) :
    ¬ (marker stage "done").toList <:+: output.toList := by
  intro inside
  exact not_infix_of_unmarked output unmarked ((done_starts stage).isInfix.trans inside)

theorem done_not_start (stage other : Stage) :
    ¬ (marker stage "done").toList <:+: (marker other "start").toList := by
  cases stage <;> cases other <;> decide

/-- A start marker in front of a text adds no done marker. -/
theorem done_not_started (current stage : Stage) (rest : String)
    (absent : ¬ (marker stage "done").toList <:+: rest.toList) :
    ¬ (marker stage "done").toList <:+: (startLine current ++ rest).toList := by
  intro inside
  have parts : (startLine current ++ rest).toList =
      (marker current "start").toList ++ '\n' :: rest.toList := by
    simp [startLine, echo]
  rw [parts] at inside
  rcases infix_of_infix_fresh _ _ _ '\n' (newline_notMem_done stage) inside with start | later
  · exact done_not_start stage current start
  · exact absent later

/-- A done marker stands in a text with unmarked output only where the script
printed it. -/
theorem not_includes_done (outputs : Stage → String)
    (unmarked : ∀ stage, Unmarked (outputs stage)) (stage : Stage) (completed : List Stage)
    (undone : stage ∉ completed) (rest : String)
    (absent : ¬ (marker stage "done").toList <:+: rest.toList) :
    ¬ (marker stage "done").toList <:+:
      (String.join (completed.map (stageText outputs)) ++ rest).toList := by
  induction completed with
  | nil => simpa using absent
  | cons done later ih =>
      have other : stage ≠ done := fun same => undone (same ▸ List.mem_cons_self)
      have tail := ih fun member => undone (List.mem_cons_of_mem done member)
      have parts : String.join ((done :: later).map (stageText outputs)) ++ rest =
          startLine done ++ (outputs done ++ (marker done "done" ++ ("\n" ++
            (String.join (later.map (stageText outputs)) ++ rest)))) := by
        simp [stageText, doneLine, echo, String.append_assoc]
      rw [parts]
      apply done_not_started
      intro inside
      have newline : (outputs done ++ (marker done "done" ++ ("\n" ++
          (String.join (later.map (stageText outputs)) ++ rest)))).toList =
            (outputs done).toList ++ (marker done "done").toList ++ '\n' ::
              (String.join (later.map (stageText outputs)) ++ rest).toList := by
        simp
      rw [newline] at inside
      rcases infix_of_infix_fresh _ _ _ '\n' (newline_notMem_done stage) inside with
        output | further
      · rcases infix_append_cases _ _ _ output with ⟨suffix, ends, nonempty, here⟩ | own
        · have early := marker_not_earlier (outputs done).toList
            (not_infix_of_unmarked _ (unmarked done)) done "done" [] suffix ends nonempty
          rw [List.append_nil] at early
          exact early ((done_starts stage).trans here)
        · have differs : ¬ (marker stage "done").toList <:+: (marker done "done").toList := by
            revert other
            cases stage <;> cases done <;> decide
          exact differs own
      · exact tail further

theorem includes_done (outputs : Stage → String) (stage : Stage) (completed : List Stage)
    (rest : String) (done : stage ∈ completed) :
    (marker stage "done").toList <:+:
      (String.join (completed.map (stageText outputs)) ++ rest).toList := by
  obtain ⟨earlier, later, split⟩ := List.append_of_mem done
  refine ⟨(String.join (earlier.map (stageText outputs)) ++ (startLine stage ++
    outputs stage)).toList, "\n".toList ++ (String.join (later.map (stageText outputs)) ++
      rest).toList, ?_⟩
  rw [split]
  simp [stageText, doneLine, echo, String.join_append]

end KernelSprint.PatchScript

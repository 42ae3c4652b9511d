import KernelSprint.Backend.MeasuredScheduling
import KernelSprint.Backend.MeasuredSwitching
import KernelSprint.Backend.PatchScript

/-!
# From the guest to the result of the benchmark pipeline

The guest's `init` runs the three programs one after the other on a console
that the kernel prints to as well; `run_benchmark_pipeline` relays what the
container prints and decodes all of it at the end.
-/

set_option autoImplicit false

namespace KernelSprint.GuestBenchmark

open Generators.Gen Patterns PyText Decimal Ranks BenchmarkOutput Reports Pipelines
open ReportRoundTrip
open Percentiles (Figures)
open ProcessCreation (printed)
open MeasuredCreation (ProgramRun)
open MeasuredScheduling (ProbeRun)
open MeasuredSwitching (SwitchRun)
open StreamCommand (lines)
open PatchScript (echo)

/-! ## A console in pieces -/

inductive Segment where
  | creation (iterations : Nat) (figures : LatencyFigures)
  | switching (roundTrips : Nat) (figures : SwitchFigures)
  | infinite (roundTrips : Nat) (roundTripUs contextSwitchUs : ℚ≥0)
  | latency (wakeups intervalUs ncpus : Nat) (figures : LatencyFigures)
  | noise (noise : Noise)

namespace Segment

def text : Segment → String
  | creation iterations figures => processCreation iterations figures
  | switching roundTrips figures => contextSwitch roundTrips figures
  | infinite roundTrips roundTripUs contextSwitchUs =>
      infiniteSwitch roundTrips roundTripUs contextSwitchUs
  | latency wakeups intervalUs ncpus figures => schedulerLatency wakeups intervalUs ncpus figures
  | noise other => other.text

def creation? : Segment → Option Latency
  | creation _ figures => some (printedLatency figures)
  | _ => none

def switching? : Segment → Option ContextSwitch
  | switching _ figures => some (printedSwitch figures)
  | _ => none

def latency? : Segment → Option Latency
  | latency _ _ _ figures => some (printedLatency figures)
  | _ => none

end Segment

def console (segments : List Segment) : String := String.join (segments.map Segment.text)

theorem console_cons (segment : Segment) (rest : List Segment) :
    console (segment :: rest) = segment.text ++ console rest := by
  rw [console, List.map_cons, String.join_cons]
  rfl

theorem console_noise (noises : List Noise) :
    console (noises.map .noise) = String.join (noises.map Noise.text) := by
  rw [console, List.map_map]
  rfl

theorem console_append (first second : List Segment) :
    console (first ++ second) = console first ++ console second := by
  induction first with
  | nil => rw [List.nil_append, show console [] = "" from rfl, String.empty_append]
  | cons segment rest ih =>
      rw [List.cons_append, console_cons, console_cons, ih, String.append_assoc]

variable (db : CharDb)

theorem decoded_skip {α : Type} (pattern : Pattern Char)
    (decode : List (List Char) → Except PyExn α) (first rest : String)
    (skipped : search pattern (first.toList ++ rest.toList) = search pattern rest.toList) :
    decoded pattern decode (first ++ rest) = decoded pattern decode rest := by
  simp only [decoded, String.toList_append, skipped]

theorem creation_skips_switching (roundTrips : Nat) (figures : SwitchFigures)
    (rest : List Char) :
    search (sectionRe db "process_creation") ((contextSwitch roundTrips figures).toList ++ rest) =
      search (sectionRe db "process_creation") rest := by
  have plain : Plain ("benchmark=" ++ "process_creation") := by decide
  have header := contextSwitchHeader_avoids _ plain roundTrips (by decide)
  have line := switchLine_avoids _ plain figures (by decide)
  rw [sectionRe_eq]
  exact search_skip_report _ _ _ _ rest plain (whole_newline _) (whole_newline _) header line

theorem creation_skips_latency (wakeups intervalUs ncpus : Nat) (figures : LatencyFigures)
    (rest : List Char) :
    search (sectionRe db "process_creation")
      ((schedulerLatency wakeups intervalUs ncpus figures).toList ++ rest) =
        search (sectionRe db "process_creation") rest := by
  have plain : Plain ("benchmark=" ++ "process_creation") := by decide
  have header := schedulerLatencyHeader_avoids _ plain wakeups intervalUs ncpus (by decide)
  have line := latencyLine_avoids _ plain figures (by decide)
  rw [sectionRe_eq]
  exact search_skip_report _ _ _ _ rest plain (whole_newline _) (latencyLine_whole figures)
    header line

theorem switching_skips_latency (wakeups intervalUs ncpus : Nat) (figures : LatencyFigures)
    (rest : List Char) :
    search (contextSwitchRe db)
      ((schedulerLatency wakeups intervalUs ncpus figures).toList ++ rest) =
        search (contextSwitchRe db) rest := by
  have plain : Plain "round_trip_us=" := by decide
  have header := schedulerLatencyHeader_avoids _ plain wakeups intervalUs ncpus (by decide)
  have line := latencyLine_avoids _ plain figures (by decide)
  rw [contextSwitchRe_eq]
  exact search_skip_report _ _ _ _ rest plain (whole_newline _) (latencyLine_whole figures)
    header line

theorem section_skips_infinite (name : String) (roundTrips : Nat)
    (roundTripUs contextSwitchUs : ℚ≥0) (rest : List Char) (plain : Plain ("benchmark=" ++ name))
    (headerAvoids : ∀ label ∈ ["benchmark=context_switch round_trips=", "\n"],
      Avoids ("benchmark=" ++ name) label)
    (lineAvoids : ∀ part ∈ ["round_trip_us=", " context_switch_us=",
      " context_switches_per_sec=inf\n"], Avoids ("benchmark=" ++ name) part) :
    search (sectionRe db name)
      ((infiniteSwitch roundTrips roundTripUs contextSwitchUs).toList ++ rest) =
        search (sectionRe db name) rest := by
  have header := contextSwitchHeader_avoids _ plain roundTrips headerAvoids
  have line := infiniteFrom_avoids _ plain _ roundTripUs contextSwitchUs lineAvoids
  rw [sectionRe_eq]
  exact search_skip_report _ _ _ _ rest plain (whole_newline _) (infiniteFrom_whole _ _ _) header
    line

theorem decoded_creation_segments (segments : List Segment) :
    decoded (sectionRe db "process_creation") (latencyOfGroups db) (console segments) =
      .ok (segments.findSome? Segment.creation?) := by
  induction segments with
  | nil => rfl
  | cons segment rest ih =>
      rw [console_cons, List.findSome?_cons]
      cases segment with
      | creation iterations figures =>
          have searched :=
            search_processCreation db iterations figures (console rest).toList
          rw [← String.toList_append] at searched
          exact decoded_of_search _ _ _ _ _ searched (latencyOfGroups_printed db figures)
      | switching roundTrips figures =>
          simp only [Segment.creation?]
          rw [← ih]
          exact decoded_skip _ _ _ _ (creation_skips_switching db roundTrips figures _)
      | infinite roundTrips roundTripUs contextSwitchUs =>
          simp only [Segment.creation?]
          rw [← ih]
          exact decoded_skip _ _ _ _ (section_skips_infinite db _ roundTrips roundTripUs
            contextSwitchUs _ (by decide) (by decide) (by decide))
      | latency wakeups intervalUs ncpus figures =>
          simp only [Segment.creation?]
          rw [← ih]
          exact decoded_skip _ _ _ _ (creation_skips_latency db wakeups intervalUs ncpus figures _)
      | noise other =>
          simp only [Segment.creation?]
          rw [← ih]
          exact decoded_skip _ _ _ _ (other.skip_section db _ _ (by decide))

theorem decoded_latency_segments (segments : List Segment) :
    decoded (sectionRe db "scheduler_latency") (latencyOfGroups db) (console segments) =
      .ok (segments.findSome? Segment.latency?) := by
  induction segments with
  | nil => rfl
  | cons segment rest ih =>
      rw [console_cons, List.findSome?_cons]
      cases segment with
      | creation iterations figures =>
          simp only [Segment.latency?]
          rw [← ih]
          exact decoded_skip _ _ _ _ (skip_creation_for_latency db iterations figures _)
      | switching roundTrips figures =>
          simp only [Segment.latency?]
          rw [← ih]
          exact decoded_skip _ _ _ _ (skip_switching_for_latency db roundTrips figures _)
      | infinite roundTrips roundTripUs contextSwitchUs =>
          simp only [Segment.latency?]
          rw [← ih]
          exact decoded_skip _ _ _ _ (section_skips_infinite db _ roundTrips roundTripUs
            contextSwitchUs _ (by decide) (by decide) (by decide))
      | latency wakeups intervalUs ncpus figures =>
          have searched := search_schedulerLatency db wakeups intervalUs ncpus figures
            (console rest).toList
          rw [← String.toList_append] at searched
          exact decoded_of_search _ _ _ _ _ searched (latencyOfGroups_printed db figures)
      | noise other =>
          simp only [Segment.latency?]
          rw [← ih]
          exact decoded_skip _ _ _ _ (other.skip_section db _ _ (by decide))

theorem decoded_switching_segments (segments : List Segment) :
    decoded (contextSwitchRe db) (contextSwitchOfGroups db) (console segments) =
      .ok (segments.findSome? Segment.switching?) := by
  induction segments with
  | nil => rfl
  | cons segment rest ih =>
      rw [console_cons, List.findSome?_cons]
      cases segment with
      | creation iterations figures =>
          simp only [Segment.switching?]
          rw [← ih]
          exact decoded_skip _ _ _ _ (skip_creation_for_switching db iterations figures _)
      | switching roundTrips figures =>
          have searched := search_contextSwitch db roundTrips figures (console rest).toList
          rw [← String.toList_append] at searched
          exact decoded_of_search _ _ _ _ _ searched (contextSwitchOfGroups_printed db figures)
      | infinite roundTrips roundTripUs contextSwitchUs =>
          simp only [Segment.switching?]
          rw [← ih]
          exact decoded_skip _ _ _ _
            (search_infiniteSwitch db roundTrips roundTripUs contextSwitchUs _)
      | latency wakeups intervalUs ncpus figures =>
          simp only [Segment.switching?]
          rw [← ih]
          exact decoded_skip _ _ _ _ (switching_skips_latency db wakeups intervalUs ncpus figures _)
      | noise other =>
          simp only [Segment.switching?]
          rw [← ih]
          exact decoded_skip _ _ _ _ (other.skip_contextSwitch db _)

/-- Every section is decoded from its own report, the first one of its kind,
whatever else is on the console. -/
theorem parse_segments (segments : List Segment) :
    parseBenchmarkOutput db (console segments) =
      .ok ⟨segments.findSome? Segment.creation?, segments.findSome? Segment.switching?,
        segments.findSome? Segment.latency?⟩ := by
  unfold parseBenchmarkOutput
  rw [decoded_creation_segments, decoded_switching_segments, decoded_latency_segments]
  rfl

/-- A word without a newline is found in one of the pieces or nowhere. -/
theorem console_avoids (word : String) (inner : '\n' ∉ word.toList) (nonempty : word ≠ "")
    (segments : List Segment)
    (clean : ∀ segment ∈ segments, Whole segment.text ∧ Avoids word segment.text) :
    Avoids word (console segments) := by
  induction segments with
  | nil =>
      intro inside
      exact nonempty (String.toList_eq_nil_iff.mp (List.infix_nil.mp inside))
  | cons segment rest ih =>
      obtain ⟨⟨whole, avoids⟩, later⟩ := List.forall_mem_cons.mp clean
      intro inside
      rw [console_cons, String.toList_append] at inside
      rcases whole with nothing | ends
      · rw [nothing] at inside
        exact ih later inside
      · obtain ⟨init, shape⟩ := List.getLast?_eq_some_iff.mp ends
        rw [shape, List.append_assoc] at inside
        rcases infix_of_infix_fresh _ _ _ _ inner inside with here | beyond
        · refine avoids (here.trans ?_)
          rw [shape]
          exact (List.prefix_append _ _).isInfix
        · exact ih later beyond

/-! ## The guest -/

/-- Lines that are neither a report nor a marker of the pipeline. -/
structure Chatter extends Noise where
  unmarked : Avoids "@@STAGE:" text

def heading (line : String) (noBenchmark : Avoids "benchmark=" (echo line))
    (noRoundTrip : Avoids "round_trip_us=" (echo line))
    (unmarked : Avoids "@@STAGE:" (echo line)) : Chatter :=
  ⟨⟨echo line, whole_newline line, noBenchmark, noRoundTrip⟩, unmarked⟩

def silence : Chatter := ⟨⟨"", Or.inl rfl, by decide, by decide⟩, by decide⟩

/-- What happens from the boot of the guest on.  A program may stop with an
error instead of its report. -/
structure Guest (qsort : Qsort Int64) where
  booting : Chatter
  uname : Chatter
  creation : ProgramRun qsort ["/bin/process_creation", "5000"]
  creationErrors : Chatter
  beforeSwitching : Chatter
  switching : Option (SwitchRun 20000)
  switchingErrors : Chatter
  beforeLatency : Chatter
  latency : Option ProbeRun
  wakeups : ∀ run ∈ latency, run.actuals.length = 1000
  latencyErrors : Chatter
  finishing : Chatter

variable {qsort : Qsort Int64} (guest : Guest qsort)

namespace Guest

/-- What `init` and the kernel print, in order. -/
def texts : List String := [
  guest.booting.text,
  echo "=== kernel-sprint guest boot ===",
  guest.uname.text,
  echo "=== BENCHMARK-START process_creation ===",
  guest.creation.process.stdout,
  guest.creationErrors.text,
  echo "=== BENCHMARK-END process_creation ===",
  guest.beforeSwitching.text,
  echo "=== BENCHMARK-START context_switch ===",
  (guest.switching.map SwitchRun.stdout).getD "",
  guest.switchingErrors.text,
  echo "=== BENCHMARK-END context_switch ===",
  guest.beforeLatency.text,
  echo "=== BENCHMARK-START scheduler_latency ===",
  (guest.latency.map (ProbeRun.stdout qsort)).getD "",
  guest.latencyErrors.text,
  echo "=== BENCHMARK-END scheduler_latency ===",
  echo "=== kernel-sprint guest done ===",
  guest.finishing.text]

def init : String := String.join guest.texts

end Guest

/-- The result says of each program that ended with a report what it measured,
and nothing of one that did not. -/
structure Truth (data : BenchmarkData) : Prop where
  creation :
    (guest.creation.process.point = .exited 0 ∧ ∃ latency figures,
        data.processCreation = some latency ∧
        MeasuredCreation.Shows qsort 5000 guest.creation.process latency figures) ∨
      (guest.creation.process.point = .exited 1 ∧ data.processCreation = none)
  switching : match guest.switching with
    | some run => run.Told data.contextSwitch
    | none => data.contextSwitch = none
  latency : match guest.latency with
    | some run => ∃ latency figures,
        data.schedulerLatency = some latency ∧ run.Shows qsort latency figures
    | none => data.schedulerLatency = none

/-! ## The guest's console in pieces -/

theorem ends_newline (text : String) : (text ++ "\n").toList.getLast? = some '\n' := by
  simp [String.toList_append]

theorem whole_append (header line : String) (ends : line.toList.getLast? = some '\n') :
    Whole (header ++ line) := by
  right
  have nonempty : line.toList ≠ [] := by
    intro nothing
    rw [nothing] at ends
    cases ends
  rw [String.toList_append, List.getLast?_append_of_ne_nil _ nonempty]
  exact ends

theorem latencyLine_ends (figures : LatencyFigures) :
    (latencyLine figures).toList.getLast? = some '\n' := by
  unfold latencyLine
  exact ends_newline _

theorem segment_whole (segment : Segment) : Whole segment.text := by
  cases segment with
  | creation iterations figures =>
      exact whole_append (processCreationHeader iterations) _ (latencyLine_ends figures)
  | switching roundTrips figures =>
      exact whole_append (contextSwitchHeader roundTrips) (switchLine figures) (ends_newline _)
  | infinite roundTrips roundTripUs contextSwitchUs =>
      exact whole_append (contextSwitchHeader roundTrips)
        (infiniteLine roundTripUs contextSwitchUs) (infiniteFrom_ends _ _ _)
  | latency wakeups intervalUs ncpus figures =>
      exact whole_append (schedulerLatencyHeader wakeups intervalUs ncpus) _
        (latencyLine_ends figures)
  | noise other => exact other.whole

/-- A report has no marker. -/
theorem report_unmarked (header line : String) (ends : header.toList.getLast? = some '\n')
    (headerAvoids : Avoids "@@STAGE:" header) (lineAvoids : Avoids "@@STAGE:" line) :
    Avoids "@@STAGE:" (header ++ line) := by
  intro inside
  obtain ⟨init, shape⟩ := List.getLast?_eq_some_iff.mp ends
  rw [String.toList_append, shape, List.append_assoc] at inside
  rcases infix_of_infix_fresh _ _ _ _ (by decide) inside with here | beyond
  · refine headerAvoids (here.trans ?_)
    rw [shape]
    exact (List.prefix_append _ _).isInfix
  · exact lineAvoids beyond

theorem creation_unmarked (iterations : Nat) (figures : LatencyFigures) :
    Avoids "@@STAGE:" (processCreation iterations figures) := by
  have plain : Plain "@@STAGE:" := by decide
  exact report_unmarked _ _ (ends_newline _)
    (processCreationHeader_avoids _ plain iterations (by decide))
    (latencyLine_avoids _ plain figures (by decide))

theorem switching_unmarked (roundTrips : Nat) (figures : SwitchFigures) :
    Avoids "@@STAGE:" (contextSwitch roundTrips figures) := by
  have plain : Plain "@@STAGE:" := by decide
  exact report_unmarked _ _ (ends_newline _)
    (contextSwitchHeader_avoids _ plain roundTrips (by decide))
    (switchLine_avoids _ plain figures (by decide))

theorem infinite_unmarked (roundTrips : Nat) (roundTripUs contextSwitchUs : ℚ≥0) :
    Avoids "@@STAGE:" (infiniteSwitch roundTrips roundTripUs contextSwitchUs) := by
  have plain : Plain "@@STAGE:" := by decide
  exact report_unmarked _ _ (ends_newline _)
    (contextSwitchHeader_avoids _ plain roundTrips (by decide))
    (infiniteFrom_avoids _ plain _ roundTripUs contextSwitchUs (by decide))

theorem latency_unmarked (wakeups intervalUs ncpus : Nat) (figures : LatencyFigures) :
    Avoids "@@STAGE:" (schedulerLatency wakeups intervalUs ncpus figures) := by
  have plain : Plain "@@STAGE:" := by decide
  exact report_unmarked _ _ (ends_newline _)
    (schedulerLatencyHeader_avoids _ plain wakeups intervalUs ncpus (by decide))
    (latencyLine_avoids _ plain figures (by decide))

section Pieces

variable {qsort : Qsort Int64} (guest : Guest qsort)

theorem creation_segment : ∃ segment : Segment,
    segment.text = guest.creation.process.stdout ∧ Avoids "@@STAGE:" segment.text ∧
      segment.switching? = none ∧ segment.latency? = none ∧
      ((guest.creation.process.point = .exited 0 ∧ ∃ latency figures,
          segment.creation? = some latency ∧
          MeasuredCreation.Shows qsort 5000 guest.creation.process latency figures) ∨
        (guest.creation.process.point = .exited 1 ∧ segment.creation? = none)) := by
  have asked : ProcessCreation.iterationsOf ["/bin/process_creation", "5000"] = some 5000 := by
    decide +kernel
  have iterations : guest.creation.iterations = 5000 :=
    (Option.some.inj (asked.symm.trans guest.creation.requested)).symm
  rcases MeasuredCreation.stdout_of_run qsort guest.creation (by rw [iterations]; decide) with
    ⟨exited, figures, text, shows⟩ | ⟨failed, nothing⟩
  · rw [iterations] at text shows
    exact ⟨.creation 5000 (printed figures), text.symm, creation_unmarked _ _, rfl, rfl,
      Or.inl ⟨exited, _, figures, rfl, shows⟩⟩
  · exact ⟨.noise silence.toNoise, nothing.symm, silence.unmarked, rfl, rfl,
      Or.inr ⟨failed, rfl⟩⟩

theorem switching_segment : ∃ segment : Segment,
    segment.text = (guest.switching.map SwitchRun.stdout).getD "" ∧
      Avoids "@@STAGE:" segment.text ∧ segment.creation? = none ∧ segment.latency? = none ∧
      match guest.switching with
      | some run => run.Told segment.switching?
      | none => segment.switching? = none := by
  cases guest.switching with
  | none => exact ⟨.noise silence.toNoise, rfl, silence.unmarked, rfl, rfl, rfl⟩
  | some run =>
      have told := run.told_decoded (by decide)
      simp only [Option.map_some, Option.getD_some]
      unfold SwitchRun.decoded at told
      unfold SwitchRun.stdout
      cases rate : run.contextSwitchesPerSec with
      | some perSec =>
          rw [rate] at told
          exact ⟨.switching 20000 (run.figures perSec), rfl, switching_unmarked _ _, rfl, rfl, told⟩
      | none =>
          rw [rate] at told
          exact ⟨.infinite 20000 _ _, rfl, infinite_unmarked _ _ _, rfl, rfl, told⟩

theorem latency_segment : ∃ segment : Segment,
    segment.text = (guest.latency.map (ProbeRun.stdout qsort)).getD "" ∧
      Avoids "@@STAGE:" segment.text ∧ segment.creation? = none ∧ segment.switching? = none ∧
      match guest.latency with
      | some run => ∃ latency figures,
          segment.latency? = some latency ∧ run.Shows qsort latency figures
      | none => segment.latency? = none := by
  cases guest.latency with
  | none => exact ⟨.noise silence.toNoise, rfl, silence.unmarked, rfl, rfl, rfl⟩
  | some run =>
      obtain ⟨figures, shows⟩ := run.shown qsort
      refine ⟨.latency run.actuals.length 2000 run.ncpus (printed figures), ?_,
        latency_unmarked _ _ _ _, rfl, rfl, _, figures, rfl, shows⟩
      change _ = run.stdout qsort
      rw [ProbeRun.stdout, shows.reported]
      rfl

/-- The guest's console is made of noise and the reports of the programs that
print one. -/
theorem guest_segments : ∃ segments : List Segment,
    console segments = guest.init ∧ Avoids "@@STAGE:" guest.init ∧
      Truth guest ⟨segments.findSome? Segment.creation?, segments.findSome? Segment.switching?,
        segments.findSome? Segment.latency?⟩ := by
  obtain ⟨creation, creationText, creationClean, creation₁, creation₂, created⟩ :=
    creation_segment guest
  obtain ⟨switching, switchingText, switchingClean, switching₁, switching₂, switched⟩ :=
    switching_segment guest
  obtain ⟨latency, latencyText, latencyClean, latency₁, latency₂, late⟩ := latency_segment guest
  let bootLine := heading "=== kernel-sprint guest boot ===" (by decide) (by decide) (by decide)
  let creationStart := heading "=== BENCHMARK-START process_creation ===" (by decide) (by decide)
    (by decide)
  let creationEnd := heading "=== BENCHMARK-END process_creation ===" (by decide) (by decide)
    (by decide)
  let switchingStart := heading "=== BENCHMARK-START context_switch ===" (by decide) (by decide)
    (by decide)
  let switchingEnd := heading "=== BENCHMARK-END context_switch ===" (by decide) (by decide)
    (by decide)
  let latencyStart := heading "=== BENCHMARK-START scheduler_latency ===" (by decide) (by decide)
    (by decide)
  let latencyEnd := heading "=== BENCHMARK-END scheduler_latency ===" (by decide) (by decide)
    (by decide)
  let finished := heading "=== kernel-sprint guest done ===" (by decide) (by decide) (by decide)
  let chatters : Chatter → Segment := fun chatter => .noise chatter.toNoise
  let segments : List Segment := [chatters guest.booting, chatters bootLine, chatters guest.uname,
    chatters creationStart, creation, chatters guest.creationErrors, chatters creationEnd,
    chatters guest.beforeSwitching, chatters switchingStart, switching,
    chatters guest.switchingErrors, chatters switchingEnd, chatters guest.beforeLatency,
    chatters latencyStart, latency, chatters guest.latencyErrors, chatters latencyEnd,
    chatters finished, chatters guest.finishing]
  have texts : segments.map Segment.text = guest.texts := by
    simp only [segments, List.map_cons, List.map_nil, creationText, switchingText, latencyText]
    rfl
  have whole : console segments = guest.init := congrArg String.join texts
  refine ⟨segments, whole, ?_, ?_⟩
  · rw [← whole]
    refine console_avoids _ (by decide) (by decide) segments fun segment member =>
      ⟨segment_whole segment, ?_⟩
    simp only [segments, List.mem_cons, List.not_mem_nil, or_false] at member
    rcases member with rfl | rfl | rfl | rfl | rfl | rfl | rfl | rfl | rfl | rfl | rfl | rfl |
      rfl | rfl | rfl | rfl | rfl | rfl | rfl
    all_goals first
      | exact creationClean
      | exact switchingClean
      | exact latencyClean
      | exact Chatter.unmarked _
  · have found : segments.findSome? Segment.creation? = creation.creation? ∧
        segments.findSome? Segment.switching? = switching.switching? ∧
        segments.findSome? Segment.latency? = latency.latency? := by
      have quiet : ∀ chatter, (chatters chatter).creation? = none ∧
          (chatters chatter).switching? = none ∧ (chatters chatter).latency? = none :=
        fun chatter => ⟨rfl, rfl, rfl⟩
      refine ⟨?_, ?_, ?_⟩
      · cases shown : creation.creation? <;>
          simp [segments, quiet, shown, switching₁, latency₁]
      · cases shown : switching.switching? <;>
          simp [segments, quiet, shown, creation₁, latency₂]
      · cases shown : latency.latency? <;>
          simp [segments, quiet, shown, creation₂, switching₂]
    rw [found.1, found.2.1, found.2.2]
    exact ⟨created, switched, late⟩

end Pieces

/-! ## The events of the pipeline -/

def mark (stage status : String) : String :=
  echo ("@@STAGE:" ++ stage ++ ":" ++ status ++ "@@")

/-- What the container prints in which the guest runs to its end. -/
def scriptTexts (compiling : Chatter) : List String := [
  mark "compile" "start",
  compiling.text,
  mark "compile" "done",
  mark "boot" "start",
  guest.init,
  mark "boot" "done"]

def script (compiling : Chatter) : String := String.join (scriptTexts guest compiling)

theorem lines_whole_append (first rest : String) (whole : Whole first) :
    lines (first ++ rest) = lines first ++ lines rest := by
  rcases whole with rfl | ends
  · rw [String.empty_append]
    rfl
  · exact StreamCommand.lines_append first rest ends

theorem lines_join (texts : List String) (whole : ∀ text ∈ texts, Whole text) :
    lines (String.join texts) = texts.flatMap lines := by
  induction texts with
  | nil => rfl
  | cons first rest ih =>
      obtain ⟨here, later⟩ := List.forall_mem_cons.mp whole
      rw [String.join_cons, lines_whole_append _ _ here, ih later, List.flatMap_cons]

/-- Text without a marker is relayed line by line. -/
theorem relayed (text : String) (unmarked : Avoids "@@STAGE:" text) :
    (lines text).map (lineEvent db) = (lines text).map .output := by
  refine List.map_congr_left fun line member => ?_
  obtain ⟨symbols, inside, rfl⟩ := List.mem_map.mp member
  have missed : search (stageRe db) symbols = none := by
    rw [PatchScript.stageRe_eq]
    refine search_literal_none _ _ _ fun occurs => unmarked (occurs.trans ?_)
    exact StreamCommand.infix_of_mem_iterLines _ _ inside
  simp only [lineEvent, String.toList_ofList, missed]

/-- A word of the markers. -/
def MarkerWord (word : String) : Prop :=
  word ≠ "" ∧ word.toList.all (fun c => c.toNat < 128 ∧ (c.isAlphanum || c == '_')) = true

instance (word : String) : Decidable (MarkerWord word) :=
  inferInstanceAs (Decidable (_ ∧ _))

theorem newline_notMem_word (word : String) (marker : MarkerWord word) : '\n' ∉ word.toList := by
  intro member
  have symbol := List.all_eq_true.mp marker.2 '\n' member
  revert symbol
  decide

theorem marked (stage status : String) (stageWord : MarkerWord stage)
    (statusWord : MarkerWord status) :
    (lines (mark stage status)).map (lineEvent db) = [.stage stage status] := by
  have inner : '\n' ∉ ("@@STAGE:" ++ stage ++ ":" ++ status ++ "@@").toList := by
    simp only [String.toList_append, List.mem_append, not_or]
    exact ⟨⟨⟨⟨by decide, newline_notMem_word stage stageWord⟩, by decide⟩,
      newline_notMem_word status statusWord⟩, by decide⟩
  have matched : search (stageRe db) (mark stage status).toList =
      some ⟨[stage.toList, status.toList], ['\n']⟩ := by
    apply search_here
    simp only [mark, echo, String.toList_append, List.append_assoc]
    exact PatchScript.matchAt_stageRe db stage.toList status.toList ['\n']
      (mt String.toList_eq_nil_iff.mp stageWord.1) (mt String.toList_eq_nil_iff.mp statusWord.1)
      (PatchScript.word_ascii_of db _ stageWord.2) (PatchScript.word_ascii_of db _ statusWord.2)
  have single : lines (mark stage status) = [mark stage status] :=
    PatchScript.lines_echo _ inner
  rw [single]
  simp only [List.map_cons, List.map_nil, lineEvent, matched, String.ofList_toList]

section Script

variable {qsort : Qsort Int64} (guest : Guest qsort) (compiling : Chatter)

theorem console_whole (segments : List Segment) : Whole (console segments) := by
  induction segments with
  | nil => exact Or.inl rfl
  | cons segment rest ih =>
      rw [console_cons]
      rcases ih with nothing | ends
      · rw [nothing, String.append_empty]
        exact segment_whole segment
      · exact whole_append _ _ ends

theorem init_whole : Whole guest.init := by
  obtain ⟨segments, whole, _⟩ := guest_segments guest
  rw [← whole]
  exact console_whole segments

/-- Noise around the guest changes nothing of what is decoded. -/
theorem parsed_around (before after : List Noise) : ∃ data,
    parseBenchmarkOutput db (String.join (before.map Noise.text) ++
      (guest.init ++ String.join (after.map Noise.text))) = .ok data ∧ Truth guest data := by
  obtain ⟨segments, whole, -, truth⟩ := guest_segments guest
  refine ⟨_, ?_, truth⟩
  have found : ∀ {α : Type} (read : Segment → Option α), (∀ noise, read (.noise noise) = none) →
      (before.map Segment.noise ++ (segments ++ after.map Segment.noise)).findSome? read =
        segments.findSome? read := by
    intro α read quiet
    have silent : ∀ noises : List Noise, (noises.map Segment.noise).findSome? read = none := by
      intro noises
      simp [List.findSome?_eq_none_iff, quiet]
    rw [List.findSome?_append, List.findSome?_append, silent, silent, Option.or_none,
      Option.none_or]
  rw [← console_noise, ← console_noise, ← whole, ← console_append, ← console_append,
    parse_segments, found _ fun _ => rfl, found _ fun _ => rfl, found _ fun _ => rfl]

def marking (stage status : String) (noBenchmark : Avoids "benchmark=" (mark stage status))
    (noRoundTrip : Avoids "round_trip_us=" (mark stage status)) : Noise :=
  ⟨mark stage status, whole_newline _, noBenchmark, noRoundTrip⟩

theorem marking_text (stage status : String)
    (noBenchmark : Avoids "benchmark=" (mark stage status))
    (noRoundTrip : Avoids "round_trip_us=" (mark stage status)) :
    (marking stage status noBenchmark noRoundTrip).text = mark stage status := rfl

theorem script_parsed : ∃ data,
    parseBenchmarkOutput db (script guest compiling) = .ok data ∧ Truth guest data := by
  obtain ⟨data, parsed, truth⟩ := parsed_around db guest
    [marking "compile" "start" (by decide) (by decide), compiling.toNoise,
      marking "compile" "done" (by decide) (by decide),
      marking "boot" "start" (by decide) (by decide)]
    [marking "boot" "done" (by decide) (by decide)]
  refine ⟨data, ?_, truth⟩
  rw [← parsed]
  simp only [script, scriptTexts, List.map_cons, List.map_nil, marking_text, String.join_cons,
    String.join_nil, String.append_assoc, String.empty_append]

theorem script_relayed :
    (lines (script guest compiling)).map (lineEvent db) =
      .stage "compile" "start" :: (lines compiling.text).map .output ++
        .stage "compile" "done" :: .stage "boot" "start" :: (lines guest.init).map .output ++
          [.stage "boot" "done"] := by
  obtain ⟨segments, -, unmarked, -⟩ := guest_segments guest
  have whole : ∀ text ∈ scriptTexts guest compiling, Whole text := by
    simp only [scriptTexts, List.forall_mem_cons]
    exact ⟨whole_newline _, compiling.whole, whole_newline _, whole_newline _, init_whole guest,
      whole_newline _, List.forall_mem_nil _⟩
  rw [script, lines_join _ whole]
  simp only [scriptTexts, List.flatMap_cons, List.flatMap_nil, List.map_append, List.append_nil]
  rw [marked db "compile" "start" (by decide) (by decide),
    marked db "compile" "done" (by decide) (by decide),
    marked db "boot" "start" (by decide) (by decide),
    marked db "boot" "done" (by decide) (by decide), relayed db _ compiling.unmarked,
    relayed db _ unmarked]
  simp

end Script

/-- A guest on a kernel that prints nothing of its own. -/
def quietGuest (creation : ProgramRun (.insertion Int64) ["/bin/process_creation", "5000"])
    (switching : SwitchRun 20000) : Guest (.insertion Int64) where
  booting := silence
  uname := silence
  creation := creation
  creationErrors := silence
  beforeSwitching := silence
  switching := some switching
  switchingErrors := silence
  beforeLatency := silence
  latency := none
  wakeups := nofun
  latencyErrors := silence
  finishing := silence

theorem exists_creation :
    ∃ creation : ProgramRun (.insertion Int64) ["/bin/process_creation", "5000"],
      creation.process.point = .exited 0 := by
  have positive : (0 : Int) < 5000 := by decide
  obtain ⟨labels, process, -, run, reported⟩ :=
    ProcessCreation.reaches_report (.insertion Int64) positive 0 (by decide) [] (.start 0) rfl
      nofun
  exact ⟨⟨5000, by decide +kernel, 0, by decide, labels, process, run,
    by simp only [ProcessCreation.Process.ended, reported]⟩, reported⟩

end KernelSprint.GuestBenchmark

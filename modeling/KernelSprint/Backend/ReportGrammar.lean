import KernelSprint.Backend.ReportRoundTrip
import KernelSprint.Lib.Window

/-!
# What `parse_benchmark_output` accepts

The sections of any text against the grammar of the reports: where a report
stands, which runs of digits and points are numerals, and when decoding raises.
-/

set_option autoImplicit false

namespace KernelSprint.ReportGrammar

open Patterns PyText BenchmarkOutput ReportRoundTrip

/-! ## The grammar -/

inductive Report where
  | latency (name : String)
  | contextSwitch
  deriving DecidableEq

/-- What the fields of a report follow. -/
def Report.labels : Report → List String
  | .latency _ => ["mean_us=", " min_us=", " max_us=", " p50_us=", " p99_us="]
  | .contextSwitch => ["round_trip_us=", " context_switch_us=", " context_switches_per_sec="]

/-- What stands before the first label: for a section its header and the rest of
that line. -/
def Report.Opening : Report → List Char → Prop
  | .latency name, opening =>
      ∃ run, '\n' ∉ run ∧ opening = ("benchmark=" ++ name).toList ++ (run ++ "\n".toList)
  | .contextSwitch, opening => opening = []

def Report.pattern (db : CharDb) : Report → Pattern Char
  | .latency name => sectionRe db name
  | .contextSwitch => contextSwitchRe db

def layout : List String → List (List Char) → List Char → List Char
  | label :: labels, field :: fields, rest => label.toList ++ (field ++ layout labels fields rest)
  | _, _, rest => rest

/-- The report stands at the head of the text. -/
def Report.At (report : Report) (fields : List (List Char)) (rest place : List Char) : Prop :=
  fields.length = report.labels.length ∧
    ∃ opening, report.Opening opening ∧ place = opening ++ layout report.labels fields rest

section Grammar

variable (db : CharDb)

/-- Digits with at most one point, at least one digit. -/
def Numeral (field : List Char) : Prop :=
  (∀ c ∈ field, numeric db c) ∧ field.count '.' ≤ 1 ∧ ∃ c ∈ field, (db.digit c).isSome

/-- The fields are non-empty runs of digits and points, the last one taken whole. -/
def Shaped (fields : List (List Char)) (rest : List Char) : Prop :=
  (∀ field ∈ fields, field ≠ [] ∧ ∀ c ∈ field, numeric db c) ∧
    ∀ c ∈ rest.head?, numeric db c = false

/-- The fields are numerals, the last one as long as it can be. -/
def Numerals (fields : List (List Char)) (rest : List Char) : Prop :=
  (∀ field ∈ fields, Numeral db field) ∧
    ∀ last ∈ fields.getLast?, ∀ more, more <+: rest → more ≠ [] → ¬ Numeral db (last ++ more)

end Grammar

/-- The first place of a text where the report stands with such fields. -/
def Report.First (report : Report) (fits : List (List Char) → List Char → Prop)
    (text : List Char) (fields : List (List Char)) (rest : List Char) : Prop :=
  ∃ place,
    Leftmost (fun place => ∃ fields rest, report.At fields rest place ∧ fits fields rest)
      text place ∧ report.At fields rest place ∧ fits fields rest

def latencyValues (latency : Latency) : List ℚ :=
  [latency.meanUs, latency.minUs, latency.maxUs, latency.p50Us, latency.p99Us]

section Sections

variable (db : CharDb)

/-- The section is there when the text has such a report, and then it has the
numerals of the first one. -/
def SectionRight (name : String) (text : List Char) : Option Latency → Prop
  | none => ∀ fields rest place, place <:+ text →
      (Report.latency name).At fields rest place → ¬ Numerals db fields rest
  | some latency =>
      (∃ fields rest, (Report.latency name).First (Numerals db) text fields rest) ∧
        ∀ fields rest, (Report.latency name).First (Numerals db) text fields rest →
          fields.map (float db) = (latencyValues latency).map .ok

/-- Decoding returns, with the sections that the grammar gives. -/
def Decodes (output : String) : Prop :=
  ∃ data, parseBenchmarkOutput db output = .ok data ∧
    SectionRight db "process_creation" output.toList data.processCreation ∧
    SectionRight db "scheduler_latency" output.toList data.schedulerLatency

/-- Each of the three reports has numerals only, where the text first has its
shape. -/
def WellNumbered (output : String) : Prop :=
  ∀ report ∈ [Report.latency "process_creation", .contextSwitch, .latency "scheduler_latency"],
    ∀ fields rest, report.First (Shaped db) output.toList fields rest →
      ∀ field ∈ fields, Numeral db field

end Sections

section Numerals

variable (db : CharDb)

/-! ## Numerals -/

theorem point_no_digit : db.digit '.' = none := by
  rw [db.digit_ascii '.' (by decide)]
  rfl

theorem digit_of_numeric (c : Char) (fits : numeric db c) (other : c ≠ '.') :
    (db.digit c).isSome := by
  unfold numeric at fits
  simpa only [Bool.or_eq_true, beq_iff_eq, other, or_false] using fits

theorem ne_point_of_digit (c : Char) (digit : (db.digit c).isSome) : c ≠ '.' := by
  rintro rfl
  rw [point_no_digit] at digit
  cases digit

theorem digits_no_point (symbols : List Char) (digits : ∀ c ∈ symbols, (db.digit c).isSome) :
    symbols.count '.' = 0 :=
  List.count_eq_zero.mpr fun member => ne_point_of_digit db '.' (digits '.' member) rfl

theorem float_isOk_iff (field whole fraction : List Char)
    (wholeEq : whole = field.takeWhile (· != '.'))
    (fractionEq : fraction = (field.dropWhile (· != '.')).drop 1) :
    (∃ value, float db field = .ok value) ↔
      whole ++ fraction ≠ [] ∧ ∀ c ∈ whole ++ fraction, (db.digit c).isSome := by
  rw [← Decimal.digitsValue_isSome_iff]
  unfold float
  rw [← wholeEq, ← fractionEq]
  dsimp only
  simp only [← List.append_eq_nil_iff]
  by_cases nothing : whole ++ fraction = []
  · simp [nothing]
  · rw [if_neg nothing]
    cases digitsValue db (whole ++ fraction) <;> simp [nothing]

/-- What stands before the first point, and what after it. -/
theorem split_point (field : List Char) :
    ∃ whole fraction, whole = field.takeWhile (· != '.') ∧
      fraction = (field.dropWhile (· != '.')).drop 1 ∧ '.' ∉ whole ∧
      (field = whole ∧ fraction = [] ∨ field = whole ++ '.' :: fraction) := by
  refine ⟨_, _, rfl, rfl, ?_, ?_⟩
  · intro member
    have other := List.mem_takeWhile_imp member
    cases other
  · have parts := @List.takeWhile_append_dropWhile _ (· != '.') field
    cases tail : field.dropWhile (· != '.') with
    | nil =>
        rw [tail, List.append_nil] at parts
        exact Or.inl ⟨parts.symm, rfl⟩
    | cons c rest =>
        have stop := List.head?_dropWhile_not (· != '.') field
        rw [tail] at stop parts
        have point : c = '.' := by simpa using stop
        rw [point] at parts
        exact Or.inr parts.symm

/-- `float` takes the runs of digits and points that are numerals. -/
theorem float_iff_numeral (field : List Char) (runs : ∀ c ∈ field, numeric db c) :
    (∃ value, float db field = .ok value) ↔ Numeral db field := by
  obtain ⟨whole, fraction, wholeEq, fractionEq, noPoint, parts⟩ := split_point field
  rw [float_isOk_iff db field whole fraction wholeEq fractionEq]
  have none : whole.count '.' = 0 := List.count_eq_zero.mpr noPoint
  constructor
  · rintro ⟨nonempty, digits⟩
    obtain ⟨c, member⟩ := List.exists_mem_of_ne_nil _ nonempty
    have few := digits_no_point db _ digits
    rw [List.count_append] at few
    rcases parts with ⟨same, nothing⟩ | same
    · rw [nothing, List.append_nil] at member digits
      rw [same] at runs ⊢
      exact ⟨runs, by omega, c, member, digits c member⟩
    · rw [same] at runs ⊢
      refine ⟨runs, ?_, c, ?_, digits c member⟩
      · rw [List.count_append, List.count_cons_self]
        omega
      · rw [List.mem_append, List.mem_cons]
        exact (List.mem_append.mp member).imp_right Or.inr
  · rintro ⟨_, few, c, member, digit⟩
    rcases parts with ⟨same, nothing⟩ | same
    · rw [nothing, List.append_nil]
      rw [same] at runs member
      refine ⟨List.ne_nil_of_mem member, fun d inside => ?_⟩
      exact digit_of_numeric db d (runs d inside) (fun point => noPoint (point ▸ inside))
    · rw [same] at runs member few
      rw [List.count_append, List.count_cons_self] at few
      have noPoint' : '.' ∉ fraction := List.count_eq_zero.mp (by omega)
      have inside : c ∈ whole ++ fraction := by
        rw [List.mem_append, List.mem_cons] at member
        have other := ne_point_of_digit db c digit
        exact List.mem_append.mpr (member.imp_right fun either => either.resolve_left other)
      refine ⟨List.ne_nil_of_mem inside, fun d here => ?_⟩
      rcases List.mem_append.mp here with early | late
      · exact digit_of_numeric db d (runs d (List.mem_append_left _ early))
          (fun point => noPoint (point ▸ early))
      · exact digit_of_numeric db d
          (runs d (List.mem_append_right _ (List.mem_cons_of_mem _ late)))
          (fun point => noPoint' (point ▸ late))

end Numerals

/-! ## Fields behind labels -/

def appendLast (more : List Char) : List (List Char) → List (List Char)
  | [] => []
  | [last] => [last ++ more]
  | field :: fields => field :: appendLast more fields

theorem appendLast_concat (more : List Char) (past : List (List Char)) (last : List Char) :
    appendLast more (past ++ [last]) = past ++ [last ++ more] :=
  Window.change_concat (appendLast more) (· ++ more) (fun _ => rfl) (fun _ _ _ => rfl)
    past last

theorem appendLast_length (more : List Char) (fields : List (List Char)) :
    (appendLast more fields).length = fields.length := by
  induction fields using List.reverseRecOn with
  | nil => rfl
  | append_singleton past last _ =>
      rw [appendLast_concat, List.length_append, List.length_append]
      rfl

/-- What follows the last field may be counted to it. -/
theorem layout_appendLast (labels : List String) (fields : List (List Char))
    (more rest : List Char) (same : fields.length = labels.length) (nonempty : fields ≠ []) :
    layout labels (appendLast more fields) rest = layout labels fields (more ++ rest) := by
  induction fields generalizing labels with
  | nil => exact absurd rfl nonempty
  | cons field fields ih =>
      obtain ⟨label, labels, rfl⟩ := List.exists_cons_of_length_eq_add_one same.symm
      have same' : fields.length = labels.length := Nat.succ.inj same
      cases fields with
      | nil =>
          cases List.length_eq_zero_iff.mp same'.symm
          simp only [appendLast, layout, List.append_assoc]
      | cons second others =>
          have later := ih labels same' (List.cons_ne_nil second others)
          simp only [appendLast, layout] at later ⊢
          rw [later]

theorem forall_appendLast (holds : List Char → Prop) (more : List Char)
    (fields : List (List Char)) (all : ∀ field ∈ fields, holds field)
    (longer : ∀ last ∈ fields.getLast?, holds (last ++ more)) :
    ∀ field ∈ appendLast more fields, holds field := by
  induction fields using List.reverseRecOn with
  | nil => exact all
  | append_singleton past last _ =>
      rw [appendLast_concat, List.forall_mem_append, List.forall_mem_singleton]
      exact ⟨(List.forall_mem_append.mp all).1, longer last List.getLast?_concat⟩

section Matching

variable (db : CharDb)

def layoutRe : List String → Pattern Char
  | [] => []
  | label :: labels => text label ++ (number db ++ layoutRe labels)

/-- A non-empty run of digits and points. -/
def Run (field : List Char) : Prop := field ≠ [] ∧ ∀ c ∈ field, numeric db c

theorem run_append (field more : List Char) (run : Run db field)
    (numbers : ∀ c ∈ more, numeric db c) : Run db (field ++ more) :=
  ⟨List.append_ne_nil_of_left_ne_nil run.1 more, List.forall_mem_append.mpr ⟨run.2, numbers⟩⟩

theorem reads_layout (labels : List String) (place : List Char) (groups : List (List Char))
    (rest : List Char) (reads : Reads (layoutRe db labels) place groups rest) :
    groups.length = labels.length ∧ place = layout labels groups rest ∧
      ∀ field ∈ groups, Run db field := by
  induction labels generalizing place groups with
  | nil =>
      cases reads
      exact ⟨rfl, rfl, List.forall_mem_nil _⟩
  | cons label labels ih =>
      obtain ⟨labelled, rfl, field⟩ := (reads_literal_iff _ _ _ _ _).mp reads
      obtain ⟨run, tail, others, rfl, rfl, nonempty, accepted, later⟩ :=
        (reads_greedy_iff _ _ _ _ _).mp field
      obtain ⟨same, rfl, runs⟩ := ih tail others later
      exact ⟨congrArg (· + 1) same, rfl, List.forall_mem_cons.mpr ⟨⟨nonempty, accepted⟩, runs⟩⟩

/-- Each field ends where the next label starts, the last one where its digits
and points end. -/
theorem matchAt_layout (labels : List String) (fields : List (List Char)) (rest : List Char)
    (spaced : ∀ label ∈ labels.tail, label.toList.head? = some ' ')
    (same : fields.length = labels.length) (shaped : Shaped db fields rest) :
    matchAt (layoutRe db labels) (layout labels fields rest) = some ⟨fields, rest⟩ := by
  induction labels generalizing fields with
  | nil =>
      cases List.length_eq_zero_iff.mp same
      rfl
  | cons label labels ih =>
      obtain ⟨field, fields, rfl⟩ := List.exists_cons_of_length_eq_add_one same
      obtain ⟨runs, stops⟩ := shaped
      rw [List.forall_mem_cons] at runs
      have later := ih fields (fun next member => spaced next (List.mem_of_mem_tail member))
        (Nat.succ.inj same) ⟨runs.2, stops⟩
      have stops' : ∀ c ∈ (layout labels fields rest).head?, numeric db c = false := by
        cases labels with
        | nil => exact stops
        | cons next labels =>
            obtain ⟨second, others, rfl⟩ :=
              List.exists_cons_of_length_eq_add_one (Nat.succ.inj same)
            exact stops_at db next _ (Or.inl (spaced next List.mem_cons_self))
      have run : matchAt (number db ++ layoutRe db labels)
          (field ++ layout labels fields rest) = some ⟨field :: fields, rest⟩ :=
        matchAt_greedy (numeric db) _ field _ _ runs.1.1 runs.1.2 stops' later
      exact (matchAt_literal label.toList _ _).trans run

/-! ## Where a report matches -/

theorem Report.labels_nonempty (report : Report) : report.labels ≠ [] := by
  cases report <;> exact List.cons_ne_nil _ _

theorem Report.labels_spaced (report : Report) :
    ∀ label ∈ report.labels.tail, label.toList.head? = some ' ' := by
  cases report <;> simp only [Report.labels, List.tail_cons, List.forall_mem_cons] <;> decide

theorem latencyRe_layout (name : String) :
    latencyRe db = layoutRe db (Report.latency name).labels := latencyRe_eq db

theorem contextSwitchRe_layout :
    contextSwitchRe db = layoutRe db Report.contextSwitch.labels := by
  simp only [contextSwitchRe_eq, Report.labels, layoutRe, List.append_nil]

theorem matchAt_report (report : Report) (fields : List (List Char)) (rest place : List Char)
    (at_ : report.At fields rest place) (shaped : Shaped db fields rest) :
    matchAt (report.pattern db) place = some ⟨fields, rest⟩ := by
  obtain ⟨same, opening, opens, rfl⟩ := at_
  have metrics := matchAt_layout db report.labels fields rest report.labels_spaced same shaped
  cases report with
  | contextSwitch =>
      cases opens
      rw [Report.pattern, contextSwitchRe_layout]
      exact metrics
  | latency name =>
      obtain ⟨run, inner, rfl⟩ := opens
      rw [← latencyRe_layout] at metrics
      simp only [List.append_assoc]
      exact matchAt_header db name run _ inner _ metrics

theorem at_of_reads (report : Report) (place : List Char) (groups : List (List Char))
    (rest : List Char) (reads : Reads (report.pattern db) place groups rest) :
    report.At groups rest place ∧ ∀ field ∈ groups, Run db field := by
  cases report with
  | contextSwitch =>
      rw [Report.pattern, contextSwitchRe_layout] at reads
      obtain ⟨same, rfl, runs⟩ := reads_layout db _ _ _ _ reads
      exact ⟨⟨same, [], rfl, rfl⟩, runs⟩
  | latency name =>
      rw [Report.pattern, sectionRe_eq] at reads
      obtain ⟨tail, rfl, line⟩ := (reads_literal_iff _ _ _ _ _).mp reads
      unfold sectionTail at line
      cases line with
      | lazy accept run accepted newline =>
          obtain ⟨metrics, rfl, layoutReads⟩ := (reads_literal_iff _ _ _ _ _).mp newline
          rw [latencyRe_layout db name] at layoutReads
          obtain ⟨same, rfl, runs⟩ := reads_layout db _ _ _ _ layoutReads
          refine ⟨⟨same, _, ⟨run, ?_, rfl⟩, ?_⟩, runs⟩
          · exact fun newline => absurd (accepted '\n' newline) (by decide)
          · simp only [List.append_assoc]

/-- The last field may be taken whole. -/
theorem shaped_extend (report : Report) (fields : List (List Char)) (rest place : List Char)
    (at_ : report.At fields rest place) (runs : ∀ field ∈ fields, Run db field) :
    let more := rest.takeWhile (numeric db)
    let after := rest.dropWhile (numeric db)
    report.At (appendLast more fields) after place ∧
      Shaped db (appendLast more fields) after := by
  intro more after
  obtain ⟨same, opening, opens, rfl⟩ := at_
  have nonempty : fields ≠ [] := by
    rintro rfl
    exact report.labels_nonempty (List.length_eq_zero_iff.mp same.symm)
  refine ⟨⟨(appendLast_length more fields).trans same, opening, opens, ?_⟩, ?_, ?_⟩
  · rw [layout_appendLast _ _ _ _ same nonempty, List.takeWhile_append_dropWhile]
  · refine forall_appendLast (Run db) more fields runs ?_
    intro last member
    exact run_append db last more (runs last (List.mem_of_getLast? member))
      fun c inside => List.mem_takeWhile_imp inside
  · intro c head
    have stop := List.head?_dropWhile_not (numeric db) rest
    rw [head] at stop
    simpa using stop

theorem matchAt_report_iff (report : Report) (fields : List (List Char))
    (rest place : List Char) :
    matchAt (report.pattern db) place = some ⟨fields, rest⟩ ↔
      report.At fields rest place ∧ Shaped db fields rest := by
  constructor
  · intro matched
    obtain ⟨at_, runs⟩ := at_of_reads db report _ _ _ (reads_of_matchAt _ _ _ matched)
    obtain ⟨at', shaped⟩ := shaped_extend db report fields rest place at_ runs
    have whole := matchAt_report db report _ _ place at' shaped
    injection Option.some.inj (whole.symm.trans matched) with fieldsEq restEq
    rw [fieldsEq, restEq] at at' shaped
    exact ⟨at', shaped⟩
  · exact fun both => matchAt_report db report fields rest place both.1 both.2

theorem matchAt_isSome_iff (report : Report) (place : List Char) :
    (matchAt (report.pattern db) place).isSome ↔
      ∃ fields rest, report.At fields rest place ∧ Shaped db fields rest := by
  simp only [← matchAt_report_iff, Option.isSome_iff_exists]
  exact ⟨fun ⟨found, matched⟩ => ⟨found.groups, found.rest, matched⟩,
    fun ⟨fields, rest, matched⟩ => ⟨⟨fields, rest⟩, matched⟩⟩

/-- The search finds the first place with the shape of the report. -/
theorem search_report_iff (report : Report) (text : List Char) (fields : List (List Char))
    (rest : List Char) :
    search (report.pattern db) text = some ⟨fields, rest⟩ ↔
      report.First (Shaped db) text fields rest := by
  unfold Report.First
  simp only [← matchAt_isSome_iff]
  simp only [← matchAt_report_iff]
  constructor
  · exact search_leftmost _ _ _
  · rintro ⟨place, first, matched⟩
    cases found : search (report.pattern db) text with
    | none =>
        rw [(search_eq_none_iff _ _).mp found place first.1] at matched
        cases matched
    | some other =>
        obtain ⟨place', first', matched'⟩ := search_leftmost _ _ _ found
        rw [leftmost_unique _ _ _ _ first' first] at matched'
        exact matched'.symm.trans matched

/-! ## Places with numerals -/

theorem run_of_numeral (field : List Char) (numeral : Numeral db field) : Run db field := by
  obtain ⟨c, member, _⟩ := numeral.2.2
  exact ⟨List.ne_nil_of_mem member, numeral.1⟩

theorem appendLast_nil (fields : List (List Char)) : appendLast [] fields = fields := by
  induction fields with
  | nil => rfl
  | cons field fields ih =>
      cases fields with
      | nil => exact congrArg (fun last => [last]) (List.append_nil field)
      | cons second others => exact congrArg (field :: ·) ih

theorem getLast?_appendLast (more : List Char) (fields : List (List Char)) :
    (appendLast more fields).getLast? = fields.getLast?.map (· ++ more) := by
  induction fields using List.reverseRecOn with
  | nil => rfl
  | append_singleton past last _ =>
      rw [appendLast_concat, List.getLast?_concat, List.getLast?_concat]
      rfl

/-- A run that is a numeral and ends where its digits and points end cannot be
continued. -/
theorem numerals_of_shaped (fields : List (List Char)) (rest : List Char)
    (shaped : Shaped db fields rest) (numerals : ∀ field ∈ fields, Numeral db field) :
    Numerals db fields rest := by
  refine ⟨numerals, ?_⟩
  rintro last - more ⟨tail, rfl⟩ something longer
  obtain ⟨c, others, rfl⟩ := List.exists_cons_of_ne_nil something
  have stops := shaped.2 c rfl
  rw [longer.1 c (List.mem_append_right _ List.mem_cons_self)] at stops
  cases stops

theorem shaped_place (report : Report) (place : List Char)
    (here : ∃ fields rest, report.At fields rest place ∧ Numerals db fields rest) :
    ∃ fields rest, report.At fields rest place ∧ Shaped db fields rest := by
  obtain ⟨fields, rest, at_, numerals⟩ := here
  exact ⟨_, _, shaped_extend db report fields rest place at_
    fun field member => run_of_numeral db field (numerals.1 field member)⟩

section Place

variable (report : Report) (text place : List Char) (fields : List (List Char))
  (rest : List Char)

theorem leftmost_numerals
    (first : Leftmost (fun place => ∃ fields rest, report.At fields rest place ∧
      Shaped db fields rest) text place)
    (at_ : report.At fields rest place) (maximal : Numerals db fields rest) :
    Leftmost (fun place => ∃ fields rest, report.At fields rest place ∧
      Numerals db fields rest) text place := by
  refine ⟨first.1, ⟨fields, rest, at_, maximal⟩, ?_⟩
  intro before ends longer here
  exact first.2.2 before ends longer (shaped_place db report before here)

/-- The fields at a place are determined. -/
theorem fields_unique (at_ : report.At fields rest place) (shaped : Shaped db fields rest)
    (numerals : ∀ field ∈ fields, Numeral db field) (others : List (List Char))
    (rest' : List Char) (at' : report.At others rest' place)
    (maximal : Numerals db others rest') : others = fields := by
  obtain ⟨extended, shaped'⟩ := shaped_extend db report others rest' place at'
    fun field member => run_of_numeral db field (maximal.1 field member)
  have same := (matchAt_report db report _ _ place extended shaped').symm.trans
    (matchAt_report db report fields rest place at_ shaped)
  injection Option.some.inj same with fieldsEq _
  have nothing : rest'.takeWhile (numeric db) = [] := by
    by_contra something
    obtain ⟨last, isLast⟩ : ∃ last, others.getLast? = some last := by
      refine Option.ne_none_iff_exists'.mp fun none => report.labels_nonempty ?_
      rw [List.getLast?_eq_none_iff.mp none] at at'
      exact List.length_eq_zero_iff.mp at'.1.symm
    have longer : (last ++ rest'.takeWhile (numeric db)) ∈ fields := by
      apply List.mem_of_getLast?
      rw [← fieldsEq, getLast?_appendLast, isLast, Option.map_some]
    exact maximal.2 last isLast _ (List.takeWhile_prefix _) something (numerals _ longer)
  rw [nothing, appendLast_nil] at fieldsEq
  exact fieldsEq

end Place

theorem first_numerals (report : Report) (text : List Char) (fields : List (List Char))
    (rest : List Char) (first : report.First (Shaped db) text fields rest)
    (numerals : ∀ field ∈ fields, Numeral db field) :
    report.First (Numerals db) text fields rest ∧
      ∀ others rest', report.First (Numerals db) text others rest' → others = fields := by
  obtain ⟨place, leftmost, at_, shaped⟩ := first
  have maximal := numerals_of_shaped db fields rest shaped numerals
  have here := leftmost_numerals db report text place fields rest leftmost at_ maximal
  refine ⟨⟨place, here, at_, maximal⟩, ?_⟩
  rintro others rest' ⟨place', there, at', maximal'⟩
  rw [leftmost_unique _ text place' place there here] at at'
  exact fields_unique db report place fields rest at_ shaped numerals others rest' at' maximal'

end Matching

/-! ## Decoding -/

theorem bind_eq_ok {α β : Type} (first : Except PyExn α) (next : α → Except PyExn β)
    (value : β) : (first >>= next) = .ok value ↔ ∃ x, first = .ok x ∧ next x = .ok value := by
  cases first <;> simp [bind, Except.bind]

section Decoding

variable (db : CharDb)

theorem latencyOfGroups_iff (fields : List (List Char)) (latency : Latency) :
    latencyOfGroups db fields = .ok latency ↔
      fields.map (float db) = (latencyValues latency).map .ok := by
  unfold latencyOfGroups
  split
  · simp only [bind_eq_ok, latencyValues, List.map_cons, List.map_nil, List.cons.injEq, and_true,
      pure, Except.pure, Except.ok.injEq]
    constructor
    · rintro ⟨mean, h1, min, h2, max, h3, p50, h4, p99, h5, rfl⟩
      exact ⟨h1, h2, h3, h4, h5⟩
    · rintro ⟨h1, h2, h3, h4, h5⟩
      exact ⟨_, h1, _, h2, _, h3, _, h4, _, h5, rfl⟩
  · next other =>
      refine iff_of_false (fun h => nomatch h) ?_
      intro same
      have five := congrArg List.length same
      simp only [List.length_map, latencyValues, List.length_cons, List.length_nil] at five
      match fields, five with
      | [_, _, _, _, _], _ => exact other _ _ _ _ _ rfl

theorem all_ok_iff (fields : List (List Char)) :
    (∀ field ∈ fields, ∃ value, float db field = .ok value) ↔
      ∃ values : List ℚ, fields.map (float db) = values.map .ok := by
  induction fields with
  | nil => exact iff_of_true (List.forall_mem_nil _) ⟨[], rfl⟩
  | cons field fields ih =>
      rw [List.forall_mem_cons, ih]
      constructor
      · rintro ⟨⟨value, here⟩, values, later⟩
        exact ⟨value :: values, by rw [List.map_cons, List.map_cons, here, later]⟩
      · rintro ⟨values, all⟩
        cases values with
        | nil => cases all
        | cons value values =>
            injection all with here later
            exact ⟨⟨value, here⟩, values, later⟩

/-- The groups of a report are decoded when each of them is a number. -/
def DecodesGroups {α : Type} (report : Report)
    (decode : List (List Char) → Except PyExn α) : Prop :=
  ∀ fields, fields.length = report.labels.length →
    ((∃ value, decode fields = .ok value) ↔
      ∀ field ∈ fields, ∃ value, float db field = .ok value)

theorem decodes_latency (name : String) :
    DecodesGroups db (.latency name) (latencyOfGroups db) := by
  intro fields same
  rw [all_ok_iff]
  constructor
  · rintro ⟨latency, decoded⟩
    exact ⟨_, (latencyOfGroups_iff db fields latency).mp decoded⟩
  · rintro ⟨values, all⟩
    have five := congrArg List.length all
    rw [List.length_map, List.length_map, same] at five
    match values, five with
    | [mean, min, max, p50, p99], _ =>
        exact ⟨⟨mean, min, max, p50, p99⟩, (latencyOfGroups_iff db fields _).mpr all⟩

theorem decodes_contextSwitch :
    DecodesGroups db .contextSwitch (contextSwitchOfGroups db) := by
  intro fields same
  match fields, same with
  | [roundTrip, perSwitch, perSec], _ =>
      simp only [contextSwitchOfGroups, bind_eq_ok, List.forall_mem_cons, pure, Except.pure]
      constructor
      · rintro ⟨value, _, h1, _, h2, _, h3, _⟩
        exact ⟨⟨_, h1⟩, ⟨_, h2⟩, ⟨_, h3⟩, List.forall_mem_nil _⟩
      · rintro ⟨⟨_, h1⟩, ⟨_, h2⟩, ⟨_, h3⟩, _⟩
        exact ⟨_, _, h1, _, h2, _, h3, rfl⟩

/-- A report is decoded without raising when the first place of its shape has
numerals only. -/
theorem decoded_isOk_iff {α : Type} (report : Report)
    (decode : List (List Char) → Except PyExn α) (decodes : DecodesGroups db report decode)
    (output : String) :
    (∃ value, decoded (report.pattern db) decode output = .ok value) ↔
      ∀ fields rest, report.First (Shaped db) output.toList fields rest →
        ∀ field ∈ fields, Numeral db field := by
  simp only [← search_report_iff]
  unfold decoded
  cases found : search (report.pattern db) output.toList with
  | none => exact iff_of_true ⟨none, rfl⟩ fun _ _ matched => nomatch matched
  | some place =>
      obtain ⟨fields, rest⟩ := place
      obtain ⟨_, _, at_, shaped⟩ := (search_report_iff db report _ fields rest).mp found
      have numerals : (∀ field ∈ fields, ∃ value, float db field = .ok value) ↔
          ∀ field ∈ fields, Numeral db field :=
        forall₂_congr fun field member => float_iff_numeral db field (shaped.1 field member).2
      have values : (∃ value, (decode fields).map some = .ok value) ↔
          ∃ value, decode fields = .ok value := by
        cases decode fields <;> simp [Except.map]
      rw [values, decodes fields at_.1, numerals]
      constructor
      · rintro all others rest' matched
        cases matched
        exact all
      · exact fun all => all fields rest rfl

theorem sectionRight_of_decoded (name : String) (output : String) (value : Option Latency)
    (numbered : ∀ fields rest, (Report.latency name).First (Shaped db) output.toList fields rest →
      ∀ field ∈ fields, Numeral db field)
    (read : decoded (sectionRe db name) (latencyOfGroups db) output = .ok value) :
    SectionRight db name output.toList value := by
  change decoded ((Report.latency name).pattern db) _ _ = _ at read
  unfold decoded at read
  cases found : search ((Report.latency name).pattern db) output.toList with
  | none =>
      rw [found] at read
      cases read
      intro fields rest place inside at_ maximal
      have missed := (search_eq_none_iff _ _).mp found place inside
      have matched := (matchAt_isSome_iff db (.latency name) place).mpr
        (shaped_place db _ place ⟨fields, rest, at_, maximal⟩)
      rw [missed] at matched
      cases matched
  | some place =>
      obtain ⟨fields, rest⟩ := place
      rw [found] at read
      cases groups : latencyOfGroups db fields with
      | error raised =>
          simp only [groups, Except.map] at read
          cases read
      | ok latency =>
          simp only [groups, Except.map] at read
          cases read
          have first := (search_report_iff db _ _ fields rest).mp found
          obtain ⟨here, unique⟩ := first_numerals db _ _ fields rest first
            (numbered fields rest first)
          refine ⟨⟨fields, rest, here⟩, ?_⟩
          intro others rest' also
          rw [unique others rest' also]
          exact (latencyOfGroups_iff db fields latency).mp groups

/-- Decoding does what the grammar says exactly when the first place of each
report's shape has numerals only. -/
theorem decodes_iff (output : String) : Decodes db output ↔ WellNumbered db output := by
  have creation := decoded_isOk_iff db (.latency "process_creation") _
    (decodes_latency db _) output
  have switching := decoded_isOk_iff db .contextSwitch _ (decodes_contextSwitch db) output
  have scheduling := decoded_isOk_iff db (.latency "scheduler_latency") _
    (decodes_latency db _) output
  unfold WellNumbered
  simp only [List.forall_mem_cons]
  constructor
  · rintro ⟨data, parsed, -, -⟩
    unfold parseBenchmarkOutput at parsed
    simp only [bind_eq_ok] at parsed
    obtain ⟨first, read₁, second, read₂, third, read₃, _⟩ := parsed
    exact ⟨creation.mp ⟨first, read₁⟩, switching.mp ⟨second, read₂⟩,
      scheduling.mp ⟨third, read₃⟩, List.forall_mem_nil _⟩
  · rintro ⟨numbered₁, numbered₂, numbered₃, _⟩
    obtain ⟨first, read₁⟩ := creation.mpr numbered₁
    obtain ⟨second, read₂⟩ := switching.mpr numbered₂
    obtain ⟨third, read₃⟩ := scheduling.mpr numbered₃
    refine ⟨⟨first, second, third⟩, ?_, ?_, ?_⟩
    · unfold parseBenchmarkOutput
      simp only [bind_eq_ok]
      exact ⟨first, read₁, second, read₂, third, read₃, rfl⟩
    · exact sectionRight_of_decoded db _ output first numbered₁ read₁
    · exact sectionRight_of_decoded db _ output third numbered₃ read₃

end Decoding

/-- A point behind the last figure is taken with it. -/
theorem trailing_point_raises : ¬ Decodes .ascii
    ("benchmark=process_creation iterations=500\n" ++
      "mean_us=38.2 min_us=20.1 max_us=112.4 p50_us=36.9 p99_us=98.5.\n") := by
  rintro ⟨data, parsed, -⟩
  have raised : parseBenchmarkOutput .ascii
      ("benchmark=process_creation iterations=500\n" ++
        "mean_us=38.2 min_us=20.1 max_us=112.4 p50_us=36.9 p99_us=98.5.\n") =
      .error .valueError := by decide +kernel
  rw [parsed] at raised
  cases raised

end KernelSprint.ReportGrammar

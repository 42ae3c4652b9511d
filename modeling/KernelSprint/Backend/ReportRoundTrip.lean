import KernelSprint.Backend.Experiments
import KernelSprint.Benchmark.Reports

/-!
# The reports of the benchmark programs come back as printed

The decoders of `qemu_agent` and `experiments_agent` on what the C programs
print, alone or on a console with other lines around it.
-/

set_option autoImplicit false

namespace KernelSprint.ReportRoundTrip

open Generators Generators.Gen Patterns PyText Decimal BenchmarkOutput Experiments Reports

/-! ## The figures as printed -/

def printedLatency (figures : LatencyFigures) : Latency where
  meanUs := written 3 figures.meanUs
  minUs := written 3 figures.minUs
  maxUs := written 3 figures.maxUs
  p50Us := written 3 figures.p50Us
  p99Us := written 3 figures.p99Us

def printedSwitch (figures : SwitchFigures) : ContextSwitch where
  roundTripUs := written 3 figures.roundTripUs
  perSwitchUs := written 3 figures.contextSwitchUs
  switchesPerSec := written 0 figures.contextSwitchesPerSec

def printedThroughput (figures : ThroughputFigures) : Throughput where
  elapsedS := written 3 figures.elapsedS
  throughputMbS := written 1 figures.throughputMbS

variable (db : CharDb)

/-! ## Matching a line of figures -/

/-- `[\d.]` -/
def numeric (c : Char) : Bool := (db.digit c).isSome || c == '.'

theorem numeric_digit (c : Char) (digit : c.isDigit = true) : numeric db c = true := by
  have ascii : c.toNat < 128 := by
    have top : c.toNat ≤ '9'.toNat := (Char.isDigit_iff_toNat.mp digit).2
    have nine : '9'.toNat = 57 := rfl
    omega
  simp [numeric, db.digit_ascii c ascii, digit]

theorem numeric_fixed (places : Nat) (x : ℚ≥0) :
    ∀ c ∈ (fixed places x).toList, numeric db c = true := by
  intro c member
  rcases mem_fixed places x c member with digit | point
  · exact numeric_digit db c digit
  · rw [point]
    simp [numeric]

theorem not_numeric (c : Char) (ascii : c.toNat < 128) (other : c.isDigit = false)
    (notPoint : c ≠ '.') : numeric db c = false := by
  simp [numeric, db.digit_ascii c ascii, other, notPoint]

/-- One `label=([\d.]+)` of a line. -/
theorem matchAt_field (label : String) (places : Nat) (x : ℚ≥0) (pattern : Pattern Char)
    (rest : List Char) (found : Match Char) (stops : ∀ c ∈ rest.head?, numeric db c = false)
    (matched : matchAt pattern rest = some found) :
    matchAt (text label ++ (number db ++ pattern))
      (label.toList ++ ((fixed places x).toList ++ rest)) =
        some ⟨(fixed places x).toList :: found.groups, found.rest⟩ := by
  have run : matchAt (number db ++ pattern) ((fixed places x).toList ++ rest) =
      some ⟨(fixed places x).toList :: found.groups, found.rest⟩ :=
    matchAt_greedy (numeric db) pattern _ rest found (fixed_ne_nil places x)
      (numeric_fixed db places x) stops matched
  exact (matchAt_literal label.toList _ _).trans run

theorem stops_at (label : String) (rest : List Char)
    (starts : label.toList.head? = some ' ' ∨ label.toList.head? = some '\n') :
    ∀ c ∈ (label.toList ++ rest).head?, numeric db c = false := by
  intro c head
  rw [List.head?_append] at head
  rcases starts with space | newline
  · rw [space] at head
    cases head
    exact not_numeric db ' ' (by decide) (by decide) (by decide)
  · rw [newline] at head
    cases head
    exact not_numeric db '\n' (by decide) (by decide) (by decide)

/-- No match when nothing can follow the figure. -/
theorem matchAt_field_none (label next : String) (places : Nat) (x : ℚ≥0)
    (pattern : Pattern Char) (rest : List Char) (spaced : next.toList.head? = some ' ')
    (missed : matchAt (text next ++ pattern) (next.toList ++ rest) = none) :
    matchAt (text label ++ (number db ++ (text next ++ pattern)))
      (label.toList ++ ((fixed places x).toList ++ (next.toList ++ rest))) = none := by
  refine (matchAt_literal label.toList _ _).trans ?_
  refine matchAt_greedy_none (numeric db) _ _ _ (stops_at db next rest (Or.inl spaced)) ?_
  intro suffix inside
  cases suffix with
  | nil => exact missed
  | cons c more =>
      refine matchAt_literal_none next.toList _ _ fun here => ?_
      obtain ⟨symbols, shape⟩ := List.head?_eq_some_iff.mp spaced
      rw [shape] at here
      have same := (List.cons_prefix_cons.mp here).1
      have digits := numeric_fixed db places x c (inside.subset List.mem_cons_self)
      rw [← same, not_numeric db ' ' (by decide) (by decide) (by decide)] at digits
      cases digits

def latencyGroups (figures : LatencyFigures) : List (List Char) :=
  [(fixed 3 figures.meanUs).toList, (fixed 3 figures.minUs).toList,
    (fixed 3 figures.maxUs).toList, (fixed 3 figures.p50Us).toList,
    (fixed 3 figures.p99Us).toList]

theorem latencyLine_toList (figures : LatencyFigures) (rest : List Char) :
    (latencyLine figures).toList ++ rest = "mean_us=".toList ++
      ((fixed 3 figures.meanUs).toList ++ (" min_us=".toList ++
        ((fixed 3 figures.minUs).toList ++ (" max_us=".toList ++
          ((fixed 3 figures.maxUs).toList ++ (" p50_us=".toList ++
            ((fixed 3 figures.p50Us).toList ++ (" p99_us=".toList ++
              ((fixed 3 figures.p99Us).toList ++ ("\n".toList ++ rest)))))))))) := by
  unfold latencyLine
  simp only [String.toList_append, List.append_assoc]

theorem latencyRe_eq : latencyRe db = text "mean_us=" ++ (number db ++ (text " min_us=" ++
    (number db ++ (text " max_us=" ++ (number db ++ (text " p50_us=" ++ (number db ++
      (text " p99_us=" ++ (number db ++ []))))))))) := by
  simp only [latencyRe, List.append_assoc, List.append_nil]

theorem matchAt_latencyLine (figures : LatencyFigures) (rest : List Char) :
    matchAt (latencyRe db) ((latencyLine figures).toList ++ rest) =
      some ⟨latencyGroups figures, "\n".toList ++ rest⟩ := by
  have p99 := matchAt_field db " p99_us=" 3 figures.p99Us [] _ ⟨[], "\n".toList ++ rest⟩
    (stops_at db "\n" rest (Or.inr rfl)) rfl
  have p50 := matchAt_field db " p50_us=" 3 figures.p50Us _ _ _
    (stops_at db " p99_us=" _ (Or.inl rfl)) p99
  have max := matchAt_field db " max_us=" 3 figures.maxUs _ _ _
    (stops_at db " p50_us=" _ (Or.inl rfl)) p50
  have min := matchAt_field db " min_us=" 3 figures.minUs _ _ _
    (stops_at db " max_us=" _ (Or.inl rfl)) max
  have mean := matchAt_field db "mean_us=" 3 figures.meanUs _ _ _
    (stops_at db " min_us=" _ (Or.inl rfl)) min
  rw [latencyRe_eq, latencyLine_toList]
  exact mean

theorem latencyOfGroups_printed (figures : LatencyFigures) :
    latencyOfGroups db (latencyGroups figures) = .ok (printedLatency figures) := by
  simp only [latencyGroups, latencyOfGroups, float_fixed]
  rfl

theorem matchAt_switchLine (figures : SwitchFigures) (rest : List Char) :
    matchAt (contextSwitchRe db) ((switchLine figures).toList ++ rest) =
      some ⟨[(fixed 3 figures.roundTripUs).toList, (fixed 3 figures.contextSwitchUs).toList,
        (fixed 0 figures.contextSwitchesPerSec).toList], "\n".toList ++ rest⟩ := by
  have perSec := matchAt_field db " context_switches_per_sec=" 0 figures.contextSwitchesPerSec
    [] _ ⟨[], "\n".toList ++ rest⟩ (stops_at db "\n" rest (Or.inr rfl)) rfl
  have perSwitch := matchAt_field db " context_switch_us=" 3 figures.contextSwitchUs _ _ _
    (stops_at db " context_switches_per_sec=" _ (Or.inl rfl)) perSec
  have roundTrip := matchAt_field db "round_trip_us=" 3 figures.roundTripUs _ _ _
    (stops_at db " context_switch_us=" _ (Or.inl rfl)) perSwitch
  unfold contextSwitchRe switchLine
  simp only [String.toList_append, List.append_assoc, List.append_nil] at roundTrip ⊢
  exact roundTrip

/-- `inf` is no figure. -/
theorem matchAt_infiniteLine (roundTripUs contextSwitchUs : ℚ≥0) (rest : List Char) :
    matchAt (contextSwitchRe db)
      ((infiniteLine roundTripUs contextSwitchUs).toList ++ rest) = none := by
  have perSec : matchAt (text " context_switches_per_sec=" ++ number db)
      (" context_switches_per_sec=".toList ++ ("inf\n".toList ++ rest)) = none := by
    refine (matchAt_literal _ _ _).trans ?_
    have symbol : numeric db 'i' = false := not_numeric db 'i' (by decide) (by decide) (by decide)
    exact if_neg (ne_true_of_eq_false symbol)
  have perSwitch := matchAt_field_none db " context_switch_us=" _ 3 contextSwitchUs (number db) _
    rfl perSec
  have roundTrip := matchAt_field_none db "round_trip_us=" _ 3 roundTripUs _ _ rfl perSwitch
  have tail : " context_switches_per_sec=inf\n" = " context_switches_per_sec=" ++ "inf\n" := rfl
  unfold contextSwitchRe infiniteLine
  rw [tail]
  simp only [String.toList_append, List.append_assoc] at roundTrip ⊢
  exact roundTrip

theorem contextSwitchOfGroups_printed (figures : SwitchFigures) :
    contextSwitchOfGroups db [(fixed 3 figures.roundTripUs).toList,
      (fixed 3 figures.contextSwitchUs).toList,
      (fixed 0 figures.contextSwitchesPerSec).toList] = .ok (printedSwitch figures) := by
  simp only [contextSwitchOfGroups, float_fixed]
  rfl

theorem matchAt_throughputLine (figures : ThroughputFigures) (rest : List Char) :
    matchAt (throughputRe db) ((throughputLine figures).toList ++ rest) =
      some ⟨[(fixed 3 figures.elapsedS).toList, (fixed 1 figures.throughputMbS).toList],
        "\n".toList ++ rest⟩ := by
  have throughput := matchAt_field db " throughput_mb_s=" 1 figures.throughputMbS [] _
    ⟨[], "\n".toList ++ rest⟩ (stops_at db "\n" rest (Or.inr rfl)) rfl
  have elapsed := matchAt_field db "elapsed_s=" 3 figures.elapsedS _ _ _
    (stops_at db " throughput_mb_s=" _ (Or.inl rfl)) throughput
  unfold throughputRe throughputLine
  simp only [String.toList_append, List.append_assoc, List.append_nil] at elapsed ⊢
  exact elapsed

theorem throughputOfGroups_printed (figures : ThroughputFigures) :
    throughputOfGroups db [(fixed 3 figures.elapsedS).toList,
      (fixed 1 figures.throughputMbS).toList] = .ok (printedThroughput figures) := by
  simp only [throughputOfGroups, float_fixed]
  rfl

def sectionTail : Pattern Char :=
  .lazy (fun c => c != '\n') :: (text "\n" ++ latencyRe db)

theorem sectionRe_eq (name : String) :
    sectionRe db name = text ("benchmark=" ++ name) ++ sectionTail db := by
  simp only [sectionRe, sectionTail, List.append_assoc, List.cons_append, List.nil_append]

/-- A section matches at its header: the lazy run ends at the first newline. -/
theorem matchAt_header (name : String) (run rest : List Char) (inner : '\n' ∉ run)
    (found : Match Char) (metrics : matchAt (latencyRe db) rest = some found) :
    matchAt (sectionRe db name)
      (("benchmark=" ++ name).toList ++ (run ++ ("\n".toList ++ rest))) = some found := by
  have line : matchAt (text "\n" ++ latencyRe db) ("\n".toList ++ rest) = some found :=
    (matchAt_literal "\n".toList _ _).trans metrics
  have skipped : matchAt (sectionTail db) (run ++ ("\n".toList ++ rest)) = some found := by
    apply matchAt_lazy
    · intro c member
      rw [bne_iff_ne]
      exact fun same => inner (same ▸ member)
    · intro suffix ends nonempty
      apply matchAt_literal_none
      intro here
      obtain ⟨c, more, shape⟩ := List.exists_cons_of_ne_nil nonempty
      rw [shape] at here ends
      have prefixed : ['\n'] <+: c :: (more ++ _) := here
      have newline : c = '\n' := (List.cons_prefix_cons.mp prefixed).1.symm
      exact inner (newline ▸ ends.subset List.mem_cons_self)
    · exact line
  rw [sectionRe_eq]
  exact (matchAt_literal _ _ _).trans skipped

theorem matchAt_section (name : String) (run : List Char) (inner : '\n' ∉ run)
    (figures : LatencyFigures) (rest : List Char) :
    matchAt (sectionRe db name) (("benchmark=" ++ name).toList ++ (run ++
      ("\n".toList ++ ((latencyLine figures).toList ++ rest)))) =
        some ⟨latencyGroups figures, "\n".toList ++ rest⟩ :=
  matchAt_header db name run _ inner _ (matchAt_latencyLine db figures rest)

/-! ## Passing over other lines -/

def Avoids (word text : String) : Prop := ¬ word.toList <:+: text.toList

instance (word text : String) : Decidable (Avoids word text) :=
  inferInstanceAs (Decidable (¬ word.toList <:+: text.toList))

/-- The text consists of complete lines. -/
def Whole (text : String) : Prop := text = "" ∨ text.toList.getLast? = some '\n'

/-- A word of the patterns: it has no digit, no point and no newline. -/
def Plain (word : String) : Prop :=
  ∀ c ∈ word.toList, c.isDigit = false ∧ c ≠ '.' ∧ c ≠ '\n'

instance (word : String) : Decidable (Plain word) :=
  List.decidableBAll (fun c : Char => c.isDigit = false ∧ c ≠ '.' ∧ c ≠ '\n') word.toList

theorem Plain.newline (word : String) (plain : Plain word) : '\n' ∉ word.toList :=
  fun member => (plain _ member).2.2 rfl

theorem avoids_number (word before number rest : String) (plain : Plain word)
    (numeric : ∀ c ∈ number.toList, c.isDigit = true ∨ c = '.') (nonempty : number.toList ≠ [])
    (early : Avoids word before) (later : Avoids word rest) :
    Avoids word (before ++ number ++ rest) := by
  intro inside
  simp only [String.toList_append, List.append_assoc] at inside
  have fresh : ∀ c ∈ number.toList, c ∉ word.toList := by
    intro c member inWord
    rcases numeric c member with digit | point
    · rw [(plain c inWord).1] at digit
      cases digit
    · exact (plain c inWord).2.1 point
  rcases infix_of_infix_run _ _ _ _ nonempty fresh inside with first | second
  · exact early first
  · exact later second

theorem avoids_fixed (word before rest : String) (places : Nat) (x : ℚ≥0) (plain : Plain word)
    (early : Avoids word before) (later : Avoids word rest) :
    Avoids word (before ++ fixed places x ++ rest) :=
  avoids_number word before _ rest plain (mem_fixed places x) (fixed_ne_nil places x) early later

theorem avoids_count (word before rest : String) (count : Nat) (plain : Plain word)
    (early : Avoids word before) (later : Avoids word rest) :
    Avoids word (before ++ toString count ++ rest) := by
  apply avoids_number word before _ rest plain _ _ early later
  · intro c member
    rw [Nat.toString_eq_repr, Nat.toList_repr] at member
    exact Or.inl (Nat.isDigit_of_mem_toDigits (by decide) (by decide) member)
  · rw [Nat.toString_eq_repr, Nat.toList_repr]
    exact Nat.toDigits_ne_nil

theorem search_skip_lines (word : String) (pattern : Pattern Char) (skipped : String)
    (rest : List Char) (plain : Plain word) (whole : Whole skipped) (absent : Avoids word skipped) :
    search (text word ++ pattern) (skipped.toList ++ rest) =
      search (text word ++ pattern) rest := by
  apply search_literal_skip
  intro suffix ends something here
  have last : suffix.getLast? = some '\n' := by
    rcases whole with nothing | ended
    · rw [nothing] at ends
      exact absurd (List.suffix_nil.mp ends) something
    · obtain ⟨before, split⟩ := ends
      rw [← split, List.getLast?_append_of_ne_nil _ something] at ended
      exact ended
  obtain ⟨init, shape⟩ := List.getLast?_eq_some_iff.mp last
  rw [shape, List.append_assoc] at here
  have short := prefix_of_prefix_fresh _ init _ '\n' (Plain.newline word plain) here
  have inside : init <+: suffix := shape ▸ List.prefix_append init ['\n']
  exact absent ((short.isInfix.trans inside.isInfix).trans ends.isInfix)

/-! ## The reports as lines -/

theorem whole_newline (text : String) : Whole (text ++ "\n") := by
  right
  rw [String.toList_append]
  exact (List.getLast?_append_of_ne_nil _ (by decide)).trans rfl

theorem latencyLine_whole (figures : LatencyFigures) : Whole (latencyLine figures) := by
  unfold latencyLine
  exact whole_newline _

/-- A line of labels and figures avoids a word when its labels do. -/
theorem latencyLine_avoids (word : String) (plain : Plain word) (figures : LatencyFigures)
    (labels : ∀ label ∈ ["mean_us=", " min_us=", " max_us=", " p50_us=", " p99_us=", "\n"],
      Avoids word label) : Avoids word (latencyLine figures) := by
  simp only [List.forall_mem_cons] at labels
  obtain ⟨mean, min, max, p50, p99, end_, _⟩ := labels
  unfold latencyLine
  have tail := avoids_fixed word " p99_us=" "\n" 3 figures.p99Us plain p99 end_
  have tail := avoids_fixed word " p50_us=" _ 3 figures.p50Us plain p50 tail
  have tail := avoids_fixed word " max_us=" _ 3 figures.maxUs plain max tail
  have tail := avoids_fixed word " min_us=" _ 3 figures.minUs plain min tail
  have tail := avoids_fixed word "mean_us=" _ 3 figures.meanUs plain mean tail
  simp only [String.append_assoc] at tail ⊢
  exact tail

theorem processCreationHeader_avoids (word : String) (plain : Plain word) (iterations : Nat)
    (labels : ∀ label ∈ ["benchmark=process_creation iterations=", "\n"], Avoids word label) :
    Avoids word (processCreationHeader iterations) := by
  simp only [List.forall_mem_cons] at labels
  obtain ⟨name, end_, _⟩ := labels
  unfold processCreationHeader
  exact avoids_count word _ "\n" iterations plain name end_

theorem contextSwitchHeader_avoids (word : String) (plain : Plain word) (roundTrips : Nat)
    (labels : ∀ label ∈ ["benchmark=context_switch round_trips=", "\n"], Avoids word label) :
    Avoids word (contextSwitchHeader roundTrips) := by
  simp only [List.forall_mem_cons] at labels
  obtain ⟨name, end_, _⟩ := labels
  unfold contextSwitchHeader
  exact avoids_count word _ "\n" roundTrips plain name end_

theorem schedulerLatencyHeader_avoids (word : String) (plain : Plain word)
    (iterations intervalUs ncpus : Nat)
    (labels : ∀ label ∈ ["benchmark=scheduler_latency iterations=", " interval_us=",
      " ncpus=", "\n"], Avoids word label) :
    Avoids word (schedulerLatencyHeader iterations intervalUs ncpus) := by
  simp only [List.forall_mem_cons] at labels
  obtain ⟨name, interval, cpus, end_, _⟩ := labels
  unfold schedulerLatencyHeader
  have tail := avoids_count word " ncpus=" "\n" ncpus plain cpus end_
  have tail := avoids_count word " interval_us=" _ intervalUs plain interval tail
  have tail := avoids_count word "benchmark=scheduler_latency iterations=" _ iterations plain
    name tail
  simp only [String.append_assoc] at tail ⊢
  exact tail

theorem ipcThroughputHeader_avoids (word : String) (plain : Plain word) (chunkBytes : Nat)
    (totalMb : ℚ≥0) (labels : ∀ label ∈ ["benchmark=ipc_throughput chunk_bytes=",
      " total_mb=", "\n"], Avoids word label) :
    Avoids word (ipcThroughputHeader chunkBytes totalMb) := by
  simp only [List.forall_mem_cons] at labels
  obtain ⟨name, total, end_, _⟩ := labels
  unfold ipcThroughputHeader
  have tail := avoids_fixed word " total_mb=" "\n" 1 totalMb plain total end_
  have tail := avoids_count word "benchmark=ipc_throughput chunk_bytes=" _ chunkBytes plain
    name tail
  simp only [String.append_assoc] at tail ⊢
  exact tail

theorem switchLine_avoids (word : String) (plain : Plain word) (figures : SwitchFigures)
    (labels : ∀ label ∈ ["round_trip_us=", " context_switch_us=", " context_switches_per_sec=",
      "\n"], Avoids word label) : Avoids word (switchLine figures) := by
  simp only [List.forall_mem_cons] at labels
  obtain ⟨roundTrip, perSwitch, perSec, end_, _⟩ := labels
  unfold switchLine
  have tail := avoids_fixed word " context_switches_per_sec=" "\n" 0
    figures.contextSwitchesPerSec plain perSec end_
  have tail := avoids_fixed word " context_switch_us=" _ 3 figures.contextSwitchUs plain
    perSwitch tail
  have tail := avoids_fixed word "round_trip_us=" _ 3 figures.roundTripUs plain roundTrip tail
  simp only [String.append_assoc] at tail ⊢
  exact tail

/-- `infiniteLine` with another first label. -/
def infiniteFrom (label : String) (roundTripUs contextSwitchUs : ℚ≥0) : String :=
  label ++ fixed 3 roundTripUs ++
    " context_switch_us=" ++ fixed 3 contextSwitchUs ++ " context_switches_per_sec=inf\n"

theorem infiniteFrom_avoids (word : String) (plain : Plain word) (label : String)
    (roundTripUs contextSwitchUs : ℚ≥0)
    (labels : ∀ part ∈ [label, " context_switch_us=", " context_switches_per_sec=inf\n"],
      Avoids word part) :
    Avoids word (infiniteFrom label roundTripUs contextSwitchUs) := by
  simp only [List.forall_mem_cons] at labels
  obtain ⟨roundTrip, perSwitch, end_, _⟩ := labels
  unfold infiniteFrom
  have tail := avoids_fixed word " context_switch_us=" _ 3 contextSwitchUs plain perSwitch end_
  have tail := avoids_fixed word label _ 3 roundTripUs plain roundTrip tail
  simp only [String.append_assoc] at tail ⊢
  exact tail

theorem infiniteFrom_ends (label : String) (roundTripUs contextSwitchUs : ℚ≥0) :
    (infiniteFrom label roundTripUs contextSwitchUs).toList.getLast? = some '\n' := by
  unfold infiniteFrom
  rw [String.toList_append, List.getLast?_append_of_ne_nil _ (by decide)]
  rfl

theorem infiniteFrom_whole (label : String) (roundTripUs contextSwitchUs : ℚ≥0) :
    Whole (infiniteFrom label roundTripUs contextSwitchUs) :=
  Or.inr (infiniteFrom_ends label roundTripUs contextSwitchUs)

/-! ## Finding the sections -/

theorem newline_notMem_count (count : Nat) : '\n' ∉ (toString count).toList := by
  intro member
  rw [Nat.toString_eq_repr, Nat.toList_repr] at member
  have digit := Nat.isDigit_of_mem_toDigits (by decide) (by decide) member
  exact absurd digit (by decide)

theorem search_processCreation (iterations : Nat) (figures : LatencyFigures)
    (rest : List Char) :
    search (sectionRe db "process_creation")
      ((processCreation iterations figures).toList ++ rest) =
        some ⟨latencyGroups figures, "\n".toList ++ rest⟩ := by
  apply search_here
  have inner : '\n' ∉ " iterations=".toList ++ (toString iterations).toList := by
    intro member
    rcases List.mem_append.mp member with label | count
    · exact absurd label (by decide)
    · exact newline_notMem_count iterations count
  have matched := matchAt_section db "process_creation" _ inner figures rest
  have label : "benchmark=process_creation iterations=" =
      "benchmark=" ++ "process_creation" ++ " iterations=" := by decide
  unfold processCreation processCreationHeader
  rw [label]
  simp only [String.toList_append, List.append_assoc] at matched ⊢
  exact matched

theorem search_schedulerLatency (iterations intervalUs ncpus : Nat) (figures : LatencyFigures)
    (rest : List Char) :
    search (sectionRe db "scheduler_latency")
      ((schedulerLatency iterations intervalUs ncpus figures).toList ++ rest) =
        some ⟨latencyGroups figures, "\n".toList ++ rest⟩ := by
  apply search_here
  have inner : '\n' ∉ " iterations=".toList ++ ((toString iterations).toList ++
      (" interval_us=".toList ++ ((toString intervalUs).toList ++
        (" ncpus=".toList ++ (toString ncpus).toList)))) := by
    have count := newline_notMem_count
    have iterationsLabel : '\n' ∉ " iterations=".toList := by decide
    have intervalLabel : '\n' ∉ " interval_us=".toList := by decide
    have cpusLabel : '\n' ∉ " ncpus=".toList := by decide
    simp only [List.mem_append, not_or]
    exact ⟨iterationsLabel, count _, intervalLabel, count _, cpusLabel, count _⟩
  have matched := matchAt_section db "scheduler_latency" _ inner figures rest
  have label : "benchmark=scheduler_latency iterations=" =
      "benchmark=" ++ "scheduler_latency" ++ " iterations=" := by decide
  unfold schedulerLatency schedulerLatencyHeader
  rw [label]
  simp only [String.toList_append, List.append_assoc] at matched ⊢
  exact matched

/-- A report is passed over when both of its lines are. -/
theorem search_skip_report (word : String) (pattern : Pattern Char) (header line : String)
    (rest : List Char) (plain : Plain word) (headerWhole : Whole header)
    (lineWhole : Whole line) (headerAvoids : Avoids word header) (lineAvoids : Avoids word line) :
    search (text word ++ pattern) ((header ++ line).toList ++ rest) =
      search (text word ++ pattern) rest := by
  rw [String.toList_append, List.append_assoc,
    search_skip_lines word pattern header _ plain headerWhole headerAvoids,
    search_skip_lines word pattern line rest plain lineWhole lineAvoids]

theorem contextSwitchRe_eq : contextSwitchRe db = text "round_trip_us=" ++ (number db ++
    (text " context_switch_us=" ++ (number db ++
      (text " context_switches_per_sec=" ++ number db)))) := by
  simp only [contextSwitchRe, List.append_assoc]

theorem search_contextSwitch (roundTrips : Nat) (figures : SwitchFigures) (rest : List Char) :
    search (contextSwitchRe db) ((contextSwitch roundTrips figures).toList ++ rest) =
      some ⟨[(fixed 3 figures.roundTripUs).toList, (fixed 3 figures.contextSwitchUs).toList,
        (fixed 0 figures.contextSwitchesPerSec).toList], "\n".toList ++ rest⟩ := by
  have header : Avoids "round_trip_us=" (contextSwitchHeader roundTrips) :=
    contextSwitchHeader_avoids _ (by decide) roundTrips (by decide)
  have whole : Whole (contextSwitchHeader roundTrips) := whole_newline _
  unfold contextSwitch
  rw [String.toList_append, List.append_assoc, contextSwitchRe_eq,
    search_skip_lines "round_trip_us=" _ _ _ (by decide) whole header, ← contextSwitchRe_eq]
  exact search_here _ _ _ (matchAt_switchLine db figures rest)

/-- A report with an infinite rate is passed over. -/
theorem search_infiniteSwitch (roundTrips : Nat) (roundTripUs contextSwitchUs : ℚ≥0)
    (rest : List Char) :
    search (contextSwitchRe db)
      ((infiniteSwitch roundTrips roundTripUs contextSwitchUs).toList ++ rest) =
        search (contextSwitchRe db) rest := by
  have header : Avoids "round_trip_us=" (contextSwitchHeader roundTrips) :=
    contextSwitchHeader_avoids _ (by decide) roundTrips (by decide)
  have tail : Avoids "round_trip_us=" (infiniteFrom "ound_trip_us=" roundTripUs contextSwitchUs) :=
    infiniteFrom_avoids _ (by decide) _ roundTripUs contextSwitchUs (by decide)
  have split : (infiniteLine roundTripUs contextSwitchUs).toList =
      'r' :: (infiniteFrom "ound_trip_us=" roundTripUs contextSwitchUs).toList := by
    simp only [infiniteLine, infiniteFrom, String.toList_append]
    rfl
  have missed := matchAt_infiniteLine db roundTripUs contextSwitchUs rest
  rw [split, List.cons_append] at missed
  have whole : Whole (contextSwitchHeader roundTrips) := whole_newline _
  unfold infiniteSwitch
  rw [String.toList_append, List.append_assoc, contextSwitchRe_eq,
    search_skip_lines "round_trip_us=" _ _ _ (by decide) whole header, ← contextSwitchRe_eq,
    split, List.cons_append, search, missed, Option.none_or, contextSwitchRe_eq,
    search_skip_lines "round_trip_us=" _ _ _ (by decide) (infiniteFrom_whole _ _ _) tail]

/-! ## Reports on a console -/

/-- Complete lines that are no report. -/
structure Noise where
  text : String
  whole : Whole text
  noBenchmark : Avoids "benchmark=" text
  noRoundTrip : Avoids "round_trip_us=" text

example : Noise := ⟨"[    0.000000] Booting Linux\n", Or.inr rfl, by decide, by decide⟩

theorem Noise.noSection (noise : Noise) (name : String) :
    Avoids ("benchmark=" ++ name) noise.text := by
  intro inside
  have starts : "benchmark=".toList <+: ("benchmark=" ++ name).toList := by
    rw [String.toList_append]
    exact List.prefix_append _ _
  exact noise.noBenchmark (starts.isInfix.trans inside)

theorem Noise.skip_section (noise : Noise) (name : String) (rest : List Char)
    (plain : Plain ("benchmark=" ++ name)) :
    search (sectionRe db name) (noise.text.toList ++ rest) = search (sectionRe db name) rest := by
  rw [sectionRe_eq]
  exact search_skip_lines _ _ noise.text rest plain noise.whole (noise.noSection name)

theorem Noise.skip_contextSwitch (noise : Noise) (rest : List Char) :
    search (contextSwitchRe db) (noise.text.toList ++ rest) =
      search (contextSwitchRe db) rest := by
  rw [contextSwitchRe_eq]
  exact search_skip_lines _ _ noise.text rest (by decide) noise.whole noise.noRoundTrip

/-- The three programs in a row, with lines before and between; what comes
after them may be anything. -/
structure Console where
  iterations : Nat
  creation : LatencyFigures
  roundTrips : Nat
  switching : SwitchFigures
  wakeups : Nat
  intervalUs : Nat
  ncpus : Nat
  latency : LatencyFigures
  before : Noise
  afterCreation : Noise
  afterSwitching : Noise
  after : String

def Console.text (console : Console) : String :=
  console.before.text ++ (processCreation console.iterations console.creation ++
    (console.afterCreation.text ++ (contextSwitch console.roundTrips console.switching ++
      (console.afterSwitching.text ++ (schedulerLatency console.wakeups console.intervalUs
        console.ncpus console.latency ++ console.after)))))

theorem skip_creation_for_latency (iterations : Nat) (figures : LatencyFigures)
    (rest : List Char) :
    search (sectionRe db "scheduler_latency")
      ((processCreation iterations figures).toList ++ rest) =
        search (sectionRe db "scheduler_latency") rest := by
  have plain : Plain ("benchmark=" ++ "scheduler_latency") := by decide
  have header := processCreationHeader_avoids _ plain iterations (by decide)
  have line := latencyLine_avoids _ plain figures (by decide)
  rw [sectionRe_eq]
  exact search_skip_report _ _ _ _ rest plain (whole_newline _) (latencyLine_whole figures)
    header line

theorem skip_switching_for_latency (roundTrips : Nat) (figures : SwitchFigures)
    (rest : List Char) :
    search (sectionRe db "scheduler_latency")
      ((contextSwitch roundTrips figures).toList ++ rest) =
        search (sectionRe db "scheduler_latency") rest := by
  have plain : Plain ("benchmark=" ++ "scheduler_latency") := by decide
  have header := contextSwitchHeader_avoids _ plain roundTrips (by decide)
  have line := switchLine_avoids _ plain figures (by decide)
  rw [sectionRe_eq]
  exact search_skip_report _ _ _ _ rest plain (whole_newline _) (whole_newline _) header line

theorem skip_creation_for_switching (iterations : Nat) (figures : LatencyFigures)
    (rest : List Char) :
    search (contextSwitchRe db) ((processCreation iterations figures).toList ++ rest) =
      search (contextSwitchRe db) rest := by
  have plain : Plain "round_trip_us=" := by decide
  have header := processCreationHeader_avoids _ plain iterations (by decide)
  have line := latencyLine_avoids _ plain figures (by decide)
  rw [contextSwitchRe_eq]
  exact search_skip_report _ _ _ _ rest plain (whole_newline _) (latencyLine_whole figures)
    header line

theorem decoded_of_search {α : Type} (pattern : Pattern Char)
    (decode : List (List Char) → Except PyExn α) (output : String) (found : Match Char)
    (value : α) (searched : search pattern output.toList = some found)
    (decodes : decode found.groups = .ok value) :
    decoded pattern decode output = .ok (some value) := by
  simp only [decoded, searched, decodes]
  rfl

theorem Console.toList_text (console : Console) :
    console.text.toList = console.before.text.toList ++
      ((processCreation console.iterations console.creation).toList ++
        (console.afterCreation.text.toList ++
          ((contextSwitch console.roundTrips console.switching).toList ++
            (console.afterSwitching.text.toList ++
              ((schedulerLatency console.wakeups console.intervalUs console.ncpus
                console.latency).toList ++ console.after.toList))))) := by
  unfold Console.text
  simp only [String.toList_append]

theorem decoded_creation (console : Console) :
    decoded (sectionRe db "process_creation") (latencyOfGroups db) console.text =
      .ok (some (printedLatency console.creation)) := by
  have plain : Plain ("benchmark=" ++ "process_creation") := by decide
  have searched := search_processCreation db console.iterations console.creation
    (console.afterCreation.text.toList ++
      ((contextSwitch console.roundTrips console.switching).toList ++
        (console.afterSwitching.text.toList ++
          ((schedulerLatency console.wakeups console.intervalUs console.ncpus
            console.latency).toList ++ console.after.toList))))
  rw [← console.before.skip_section db "process_creation" _ plain,
    ← console.toList_text] at searched
  exact decoded_of_search _ _ _ _ _ searched (latencyOfGroups_printed db console.creation)

theorem decoded_switching (console : Console) :
    decoded (contextSwitchRe db) (contextSwitchOfGroups db) console.text =
      .ok (some (printedSwitch console.switching)) := by
  have searched := search_contextSwitch db console.roundTrips console.switching
    (console.afterSwitching.text.toList ++
      ((schedulerLatency console.wakeups console.intervalUs console.ncpus
        console.latency).toList ++ console.after.toList))
  rw [← console.afterCreation.skip_contextSwitch db,
    ← skip_creation_for_switching db console.iterations console.creation,
    ← console.before.skip_contextSwitch db, ← console.toList_text] at searched
  exact decoded_of_search _ _ _ _ _ searched
    (contextSwitchOfGroups_printed db console.switching)

theorem decoded_latency (console : Console) :
    decoded (sectionRe db "scheduler_latency") (latencyOfGroups db) console.text =
      .ok (some (printedLatency console.latency)) := by
  have plain : Plain ("benchmark=" ++ "scheduler_latency") := by decide
  have searched := search_schedulerLatency db console.wakeups console.intervalUs console.ncpus
    console.latency console.after.toList
  rw [← console.afterSwitching.skip_section db "scheduler_latency" _ plain,
    ← skip_switching_for_latency db console.roundTrips console.switching,
    ← console.afterCreation.skip_section db "scheduler_latency" _ plain,
    ← skip_creation_for_latency db console.iterations console.creation,
    ← console.before.skip_section db "scheduler_latency" _ plain,
    ← console.toList_text] at searched
  exact decoded_of_search _ _ _ _ _ searched (latencyOfGroups_printed db console.latency)

theorem parse_console (console : Console) :
    parseBenchmarkOutput db console.text =
      .ok ⟨some (printedLatency console.creation), some (printedSwitch console.switching),
        some (printedLatency console.latency)⟩ := by
  unfold parseBenchmarkOutput
  rw [decoded_creation, decoded_switching, decoded_latency]
  rfl

/-! ## One program alone -/

theorem latency_after_header (header : String) (figures : LatencyFigures)
    (whole : Whole header) (absent : Avoids "mean_us=" header) :
    parseLatency db (header ++ latencyLine figures) = .ok (some (printedLatency figures)) := by
  have searched : search (latencyRe db) (header ++ latencyLine figures).toList =
      some ⟨latencyGroups figures, "\n".toList ++ []⟩ := by
    rw [String.toList_append, latencyRe_eq,
      search_skip_lines "mean_us=" _ header _ (by decide) whole absent, ← latencyRe_eq]
    have matched := matchAt_latencyLine db figures []
    rw [List.append_nil (latencyLine figures).toList] at matched
    exact search_here _ _ _ matched
  exact decoded_of_search _ _ _ _ _ searched (latencyOfGroups_printed db figures)

theorem parseLatency_processCreation (iterations : Nat) (figures : LatencyFigures) :
    parseLatency db (processCreation iterations figures) = .ok (some (printedLatency figures)) :=
  latency_after_header db _ figures (whole_newline _)
    (processCreationHeader_avoids _ (by decide) iterations (by decide))

theorem parseLatency_schedulerLatency (iterations intervalUs ncpus : Nat)
    (figures : LatencyFigures) :
    parseLatency db (schedulerLatency iterations intervalUs ncpus figures) =
      .ok (some (printedLatency figures)) :=
  latency_after_header db _ figures (whole_newline _)
    (schedulerLatencyHeader_avoids _ (by decide) iterations intervalUs ncpus
      (by decide))

theorem contextSwitchResult_contextSwitch (roundTrips : Nat) (figures : SwitchFigures) :
    contextSwitchResult db (contextSwitch roundTrips figures) =
      .ok (some (printedSwitch figures)) := by
  have searched := search_contextSwitch db roundTrips figures []
  rw [List.append_nil] at searched
  exact decoded_of_search _ _ _ _ _ searched (contextSwitchOfGroups_printed db figures)

theorem contextSwitchResult_infiniteSwitch (roundTrips : Nat) (roundTripUs contextSwitchUs : ℚ≥0) :
    contextSwitchResult db (infiniteSwitch roundTrips roundTripUs contextSwitchUs) = .ok none := by
  have missed := search_infiniteSwitch db roundTrips roundTripUs contextSwitchUs []
  rw [List.append_nil] at missed
  simp only [contextSwitchResult, decoded, missed]
  rfl

theorem throughputRe_eq : throughputRe db = text "elapsed_s=" ++ (number db ++
    (text " throughput_mb_s=" ++ number db)) := by
  simp only [throughputRe, List.append_assoc]

theorem ipcResult_ipcThroughput (chunkBytes : Nat) (totalMb : ℚ≥0)
    (figures : ThroughputFigures) :
    ipcResult db (ipcThroughput chunkBytes totalMb figures) =
      .ok (some (printedThroughput figures)) := by
  have header := ipcThroughputHeader_avoids "elapsed_s=" (by decide) chunkBytes totalMb
    (by decide)
  have whole : Whole (ipcThroughputHeader chunkBytes totalMb) := whole_newline _
  have matched := matchAt_throughputLine db figures []
  have searched : search (throughputRe db) (ipcThroughput chunkBytes totalMb figures).toList =
      some ⟨[(fixed 3 figures.elapsedS).toList, (fixed 1 figures.throughputMbS).toList],
        "\n".toList ++ []⟩ := by
    unfold ipcThroughput
    rw [List.append_nil (throughputLine figures).toList] at matched
    rw [String.toList_append, throughputRe_eq,
      search_skip_lines "elapsed_s=" _ _ _ (by decide) whole header, ← throughputRe_eq]
    exact search_here _ _ _ matched
  exact decoded_of_search _ _ _ _ _ searched (throughputOfGroups_printed db figures)

/-! ## The experiments -/

/-- Compiling succeeds, and the program prints the given text. -/
def container (stdout : String) : (request : Exec) → Except PyExn request.Answer
  | .compile _ _ => .ok ⟨0, "", ""⟩
  | .run _ => .ok stdout

/-- A container that holds one program: it compiles from its own source only,
and answers as it runs on the argv that it is started with. -/
def hosting (source target : String) (runs : List String → String) :
    (request : Exec) → Except PyExn request.Answer
  | .compile src out =>
      .ok (if src = source ∧ out = target then ⟨0, "", ""⟩
        else ⟨1, "", "gcc: error: " ++ src ++ ": No such file or directory\n"⟩)
  | .run argv => .ok (if argv.head? = some target then runs argv else "")

theorem play_measured (answer : (request : Exec) → Except PyExn request.Answer)
    (stdout test src out : String) (args : List String) (report : String → Except PyExn Event)
    (event : Event) (compiled : answer (.compile src out) = .ok ⟨0, "", ""⟩)
    (ran : answer (.run (out :: args)) = .ok stdout) (reported : report stdout = .ok event) :
    play answer (measured test src out args report) = ([.start test, event], .ok ()) := by
  have compile : play answer (exec (.compile src out)) = ([], .ok ⟨0, "", ""⟩) :=
    (play_perform answer _).trans (congrArg _ compiled)
  have run : play answer (exec (.run (out :: args))) = ([], .ok stdout) :=
    (play_perform answer _).trans (congrArg _ ran)
  unfold measured
  rw [play_bind_ok answer _ _ _ () (play_yieldEvent _ _),
    play_bind_ok answer _ _ [] ⟨0, "", ""⟩ compile]
  simp only [ne_eq, not_true_eq_false, ↓reduceIte, List.nil_append]
  rw [play_bind_ok answer _ _ [] stdout run,
    play_bind_ok answer _ _ [] event (by rw [play_fromExcept, reported])]
  rfl

theorem play_printed (stdout test src out : String) (args : List String)
    (report : String → Except PyExn Event) (event : Event) (reported : report stdout = .ok event) :
    play (container stdout) (measured test src out args report) =
      ([.start test, event], .ok ()) :=
  play_measured (container stdout) stdout test src out args report event rfl rfl reported

theorem play_hosted (runs : List String → String) (test src out : String) (args : List String)
    (report : String → Except PyExn Event) (event : Event)
    (reported : report (runs (out :: args)) = .ok event) :
    play (hosting src out runs) (measured test src out args report) =
      ([.start test, event], .ok ()) := by
  refine play_measured _ (runs (out :: args)) test src out args report event ?_ ?_ reported
  · simp only [hosting, and_self, ↓reduceIte]
  · simp only [hosting, List.head?_cons, ↓reduceIte]

theorem play_processCreationTest (asked : Int) (iterations : Nat) (figures : LatencyFigures) :
    play (container (processCreation iterations figures)) (processCreationTest db asked) =
      ([.start "process_creation", .processCreation (max 100 (min 20000 asked))
        (some (printedLatency figures))], .ok ()) := by
  unfold processCreationTest
  apply play_printed
  rw [parseLatency_processCreation]
  rfl

theorem play_contextSwitchTest (asked : Int) (roundTrips : Nat) (figures : SwitchFigures) :
    play (container (contextSwitch roundTrips figures)) (contextSwitchTest db asked) =
      ([.start "context_switch", .contextSwitch (max 1000 (min 200000 asked))
        (some (printedSwitch figures))], .ok ()) := by
  unfold contextSwitchTest
  apply play_printed
  rw [contextSwitchResult_contextSwitch]
  rfl

theorem play_ipcPerformanceTest (asked : Int) (chunkBytes : Nat) (totalMb : ℚ≥0)
    (figures : ThroughputFigures) :
    play (container (ipcThroughput chunkBytes totalMb figures)) (ipcPerformanceTest db asked) =
      ([.start "ipc_performance", .ipcPerformance (max 64 (min 1048576 asked))
        (some (printedThroughput figures))], .ok ()) := by
  unfold ipcPerformanceTest
  apply play_printed
  rw [ipcResult_ipcThroughput]
  rfl

/-- Every decoder returns the decimals that were printed, field for field. -/
theorem reports_round_trip :
    (∀ console : Console, parseBenchmarkOutput db console.text =
      .ok ⟨some (printedLatency console.creation), some (printedSwitch console.switching),
        some (printedLatency console.latency)⟩) ∧
    (∀ iterations figures, parseLatency db (processCreation iterations figures) =
      .ok (some (printedLatency figures))) ∧
    (∀ iterations intervalUs ncpus figures,
      parseLatency db (schedulerLatency iterations intervalUs ncpus figures) =
        .ok (some (printedLatency figures))) ∧
    (∀ asked iterations figures,
      play (container (processCreation iterations figures)) (processCreationTest db asked) =
        ([.start "process_creation", .processCreation (max 100 (min 20000 asked))
          (some (printedLatency figures))], .ok ())) ∧
    (∀ asked roundTrips figures,
      play (container (contextSwitch roundTrips figures)) (contextSwitchTest db asked) =
        ([.start "context_switch", .contextSwitch (max 1000 (min 200000 asked))
          (some (printedSwitch figures))], .ok ())) ∧
    ∀ asked chunkBytes totalMb figures,
      play (container (ipcThroughput chunkBytes totalMb figures)) (ipcPerformanceTest db asked) =
        ([.start "ipc_performance", .ipcPerformance (max 64 (min 1048576 asked))
          (some (printedThroughput figures))], .ok ()) :=
  ⟨parse_console db, parseLatency_processCreation db, parseLatency_schedulerLatency db,
    play_processCreationTest db, play_contextSwitchTest db, play_ipcPerformanceTest db⟩

end KernelSprint.ReportRoundTrip

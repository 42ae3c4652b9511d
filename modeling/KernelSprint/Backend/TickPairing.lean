import Mathlib.Algebra.BigOperators.Group.List.Basic
import KernelSprint.Backend.StreamMetrics
import KernelSprint.Lib.Decimal
import KernelSprint.Lib.Course
import KernelSprint.Lib.Pairing

/-!
# Which counts the monitor pairs

One metrics dict for each wakeups line whose nearest counter line before it is
a switches line, over a CPU window that starts where the last one ended.
-/

set_option autoImplicit false

namespace KernelSprint.TickPairing

open Generators Generators.Gen Patterns PyText StreamMetrics Pairing

variable (db : CharDb)

/-! ## Counter lines -/

/-- The regular expression of the counter finds a match. -/
def Matches (label line : String) : Prop := (search (counterRe db label) line.toList).isSome

def SwitchesLine (line : String) : Prop := Matches db "@switches: " line

def WakeupsLine (line : String) : Prop :=
  ¬ SwitchesLine db line ∧ Matches db "@wakeups: " line

/-- What the loop takes a line for. -/
def mark (line : String) : Option (Mark Nat Nat) :=
  match switches db line with
  | some count => some (.opening count)
  | none => (wakeups db line).map .closing

/-- What `\d+` has captured is a number. -/
theorem counter_isSome (label line : String) :
    (counter db label line).isSome ↔ Matches db label line := by
  unfold counter Matches
  cases found : search (counterRe db label) line.toList with
  | none => rfl
  | some result =>
      obtain ⟨suffix, _, matched⟩ := search_some _ _ _ found
      have reads := reads_of_matchAt _ _ _ matched
      obtain ⟨digits, rest, groups, accepted⟩ : ∃ digits rest, result = ⟨[digits], rest⟩ ∧
          ∀ c ∈ digits, (db.digit c).isSome = true := by
        obtain ⟨tail, _, run⟩ := (reads_literal_iff _ _ _ _ _).mp reads
        obtain ⟨digits, _, others, _, groups, _, accepted, reads⟩ :=
          (reads_greedy_iff _ _ _ _ _).mp run
        cases reads
        exact ⟨digits, result.rest, by rw [← groups], accepted⟩
      rw [groups]
      exact iff_of_true ((Decimal.digitsValue_isSome_iff db digits).mpr accepted) rfl

theorem mark_opening (line : String) :
    (∃ count, mark db line = some (.opening count)) ↔ SwitchesLine db line := by
  rw [SwitchesLine, ← counter_isSome]
  unfold mark switches
  cases counter db "@switches: " line with
  | some count => simp
  | none => cases wakeups db line <;> simp

theorem mark_closing (line : String) :
    (∃ count, mark db line = some (.closing count)) ↔ WakeupsLine db line := by
  rw [WakeupsLine, SwitchesLine, ← counter_isSome, ← counter_isSome]
  unfold mark switches wakeups
  cases counter db "@switches: " line with
  | some count => simp
  | none => cases counter db "@wakeups: " line <;> simp

/-- The counter gives the number that bpftrace prints after the label. -/
theorem counter_printed (label : String) (count : Nat) :
    counter db label (label ++ toString count ++ "\n") = some count := by
  have digits : (toString count).toList = Nat.toDigits 10 count := by
    rw [Nat.toString_eq_repr, Nat.toList_repr]
  have decimal : ∀ c ∈ Nat.toDigits 10 count, (db.digit c).isSome = true :=
    (Decimal.digitsValue_isSome_iff db _).mp (by rw [Decimal.digitsValue_toDigits]; rfl)
  have newline : (db.digit '\n').isSome = false := by
    rw [db.digit_ascii _ (by decide)]
    decide
  have matched : matchAt (counterRe db label) (label ++ toString count ++ "\n").toList =
      some ⟨[Nat.toDigits 10 count], ['\n']⟩ := by
    rw [String.toList_append, String.toList_append, digits, List.append_assoc]
    refine (matchAt_literal _ _ _).trans ?_
    refine matchAt_greedy _ _ (Nat.toDigits 10 count) ['\n'] ⟨[], ['\n']⟩ ?_ decimal ?_ rfl
    · exact Nat.toDigits_ne_nil
    · simpa using newline
  rw [counter, search_here _ _ _ matched]
  exact Decimal.digitsValue_toDigits db count

/-- The line of one counter is none of the other. -/
theorem switches_wakeups (count : Nat) :
    switches db ("@wakeups: " ++ toString count ++ "\n") = none := by
  have tail : '@' ∉ "wakeups: ".toList ++ Nat.toDigits 10 count ++ ['\n'] := by
    intro member
    rcases List.mem_append.mp member with member | member
    · rcases List.mem_append.mp member with label | digit
      · exact absurd label (by decide)
      · exact absurd (Nat.isDigit_of_mem_toDigits (by decide) (by decide) digit) (by decide)
    · exact absurd member (by decide)
  have line : ("@wakeups: " ++ toString count ++ "\n").toList =
      '@' :: ("wakeups: ".toList ++ Nat.toDigits 10 count ++ ['\n']) := by
    rw [String.toList_append, String.toList_append, Nat.toString_eq_repr, Nat.toList_repr]
    rfl
  have absent : ¬ "@switches: ".toList <:+: ("@wakeups: " ++ toString count ++ "\n").toList := by
    rw [line, List.infix_cons_iff]
    rintro (here | later)
    · obtain ⟨rest, same⟩ := here
      have second : some 's' = some 'w' := congrArg (fun symbols => symbols[1]?) same
      exact absurd second (by decide)
    · exact tail (later.subset (List.mem_cons_self))
  rw [switches, counter, counterRe, BenchmarkOutput.text, search_literal_none _ _ _ absent]

theorem mark_switches (count : Nat) :
    mark db ("@switches: " ++ toString count ++ "\n") = some (.opening count) := by
  rw [mark, switches, counter_printed]

theorem mark_wakeups (count : Nat) :
    mark db ("@wakeups: " ++ toString count ++ "\n") = some (.closing count) := by
  rw [mark, switches_wakeups, wakeups, counter_printed]
  rfl

/-! ## A monitored host -/

/-- What /proc/stat holds at each reading; it always decodes. -/
structure Readings where
  text : Nat → String
  snapshot : Nat → Int × Int
  decodes : ∀ reading, cpuStat db (text reading) = .ok (snapshot reading)

section Watching

variable {db} (readings : Readings db) (output : Nat → List String → String)

/-- Stopping is not requested; the state counts the readings. -/
def host : World Nat Unit Call Call.Answer Metrics PyExn where
  usual := ()
  answer taken _
    | .exec argv =>
        if argv = catProcStat then (taken + 1, .ok (readings.text taken))
        else (taken, .ok (output taken argv))
    | .isSet => (taken, .ok false)
    | .popen => (taken, .ok ())
    | .readLine _ => (taken, .ok ())
    | .kill => (taken, .ok ())
  consume taken _ _ := (taken, none)

def runMonitor (lines : List String) : Course Nat Unit Call Metrics PyExn Unit :=
  (streamMetrics db lines).course (host readings output) 0 []

def dicts (log : List (Happening Unit Call Metrics)) : List Metrics :=
  log.filterMap fun
    | .yielded event _ => some event
    | .called _ _ => none

def counts (metrics : Metrics) : Nat × Nat :=
  (metrics.contextSwitchesPerSec, metrics.wakeupsPerSec)

/-- The utilisation between two readings in a row. -/
def window (reading : Nat) : ℚ :=
  cpuPct (readings.snapshot reading) (readings.snapshot (reading + 1))

theorem readCpuStat_leads (reading : Nat) :
    Leads (host readings output) (readCpuStat db) reading fun log taken result =>
      dicts log = [] ∧ taken = reading + 1 ∧ result = .ok (readings.snapshot reading) := by
  apply leads_bind
  apply leads_call
  intro _
  change Leads _ (fromExcept (cpuStat db (readings.text reading))) _ _
  rw [leads_fromExcept]
  exact ⟨rfl, rfl, readings.decodes reading⟩

theorem readMemoryPct_leads (taken : Nat) :
    Leads (host readings output) (readMemoryPct db) taken fun log taken' result =>
      dicts log = [] ∧ taken' = taken ∧ ∃ memoryPct, result = .ok memoryPct := by
  apply leads_bind
  apply leads_call
  intro _
  have other : ["sh", "-c", "free | awk '/Mem:/\x7bprintf \"%.1f\", $3/$2*100\x7d'"] ≠
      catProcStat := by decide
  simp only [host, other, ↓reduceIte]
  rw [leads_pure]
  exact ⟨rfl, rfl, _, rfl⟩

theorem readTopProcesses_leads (count taken : Nat) :
    Leads (host readings output) (readTopProcesses count) taken fun log taken' result =>
      dicts log = [] ∧ taken' = taken ∧ ∃ processes, result = .ok processes := by
  apply leads_bind
  apply leads_call
  intro _
  have other : ["ps", "-eo", "pid,comm,pcpu,pmem", "--sort=-pcpu"] ≠ catProcStat := by decide
  simp only [host, other, ↓reduceIte]
  rw [leads_pure]
  exact ⟨rfl, rfl, _, rfl⟩

/-- How far the loop has come: what it has yielded, over which readings. -/
structure Watched (pairs : List (Nat × Nat)) (reading : Nat) (yielded : List Metrics)
    (taken : Nat) : Prop where
  counted : yielded.map counts = pairs
  windows : yielded.map Metrics.cpuPct =
    (List.range' reading yielded.length).map (window readings)
  lastReading : taken = reading + yielded.length + 1

/-- What was quiet before the loop goes on changes nothing. -/
theorem Watched.after_quiet {pairs : List (Nat × Nat)} {reading taken : Nat}
    {quiet log : List (Happening Unit Call Metrics)} (silent : dicts quiet = [])
    (watched : Watched readings pairs reading (dicts log) taken) :
    Watched readings pairs reading (dicts (quiet ++ log)) taken := by
  have same : dicts (quiet ++ log) = dicts log := by
    rw [dicts, List.filterMap_append]
    change dicts quiet ++ dicts log = _
    rw [silent, List.nil_append]
  rwa [same]

theorem Watched.after_dict {pairs : List (Nat × Nat)} {reading taken : Nat} {metrics : Metrics}
    {yielded : List Metrics} (cpu : metrics.cpuPct = window readings reading)
    (watched : Watched readings pairs (reading + 1) yielded taken) :
    Watched readings (counts metrics :: pairs) reading (metrics :: yielded) taken where
  counted := by rw [List.map_cons, watched.counted]
  windows := by
    rw [List.map_cons, watched.windows, List.length_cons, List.range'_succ, List.map_cons, cpu]
  lastReading := by
    rw [List.length_cons, watched.lastReading]
    omega

theorem Watched.nothing (reading : Nat) : Watched readings [] reading [] (reading + 1) :=
  ⟨rfl, rfl, rfl⟩

end Watching

/-! ## The loop -/

/-- What the loop does about a line, having gone on. -/
def attend (db : CharDb) (line : String) (rest : List String) (pending : Option Nat)
    (previous : Int × Int) : Monitor Unit :=
  match mark db line, pending with
  | some (.opening count), _ => watch db rest (some count) previous
  | some (.closing wakeups), some switches => do
      let current ← readCpuStat db
      let memoryPct ← readMemoryPct db
      let processes ← readTopProcesses 5
      yieldEvent ⟨switches, wakeups, cpuPct previous current, memoryPct, processes⟩
      watch db rest none current
  | _, _ => watch db rest pending previous

theorem watch_cons (db : CharDb) (line : String) (rest : List String) (pending : Option Nat)
    (previous : Int × Int) :
    watch db (line :: rest) pending previous = (do
      ask (.readLine line)
      let stopped ← ask .isSet
      if stopped then pure () else attend db line rest pending previous) := by
  conv_lhs => unfold watch
  unfold attend mark
  cases switches db line with
  | some count => rfl
  | none =>
      cases wakeups db line with
      | none => rfl
      | some wakeups => cases pending <;> rfl

section Loop

variable {db : CharDb} (readings : Readings db) (output : Nat → List String → String)

theorem watch_leads (lines : List String) (pending : Option Nat) (reading : Nat) :
    Leads (host readings output) (watch db lines pending (readings.snapshot reading)) (reading + 1)
      fun log taken result => result = .ok () ∧
        Watched readings (collect pending (lines.map (mark db))) reading (dicts log) taken := by
  induction lines generalizing pending reading with
  | nil =>
      change Leads _ (pure ()) _ _
      rw [leads_pure]
      refine ⟨rfl, ?_⟩
      cases pending <;> exact .nothing readings reading
  | cons line lines ih =>
      have attended : Leads (host readings output)
          (attend db line lines pending (readings.snapshot reading)) (reading + 1)
          fun log taken result => result = .ok () ∧
            Watched readings (collect pending ((line :: lines).map (mark db))) reading
              (dicts log) taken := by
        rw [List.map_cons]
        unfold attend
        cases mark db line with
        | none => cases pending <;> exact ih _ reading
        | some found =>
            cases found with
            | opening count => cases pending <;> exact ih _ reading
            | closing wakeups =>
                cases pending with
                | none => exact ih none reading
                | some switches =>
                    apply leads_bind
                    refine leads_mono _ _ _ _ ?_ (readCpuStat_leads readings output (reading + 1))
                    intro log taken result read
                    obtain ⟨quietCpu, rfl, rfl⟩ := read
                    apply leads_bind
                    refine leads_mono _ _ _ _ ?_ (readMemoryPct_leads readings output _)
                    intro log' taken' result' read
                    obtain ⟨quietMemory, rfl, memoryPct, rfl⟩ := read
                    apply leads_bind
                    refine leads_mono _ _ _ _ ?_ (readTopProcesses_leads readings output 5 _)
                    intro log'' taken'' result'' read
                    obtain ⟨quietTop, rfl, processes, rfl⟩ := read
                    apply leads_bind
                    apply leads_event
                    intro fate
                    refine leads_mono _ _ _ _ ?_ (ih none (reading + 1))
                    intro rest taken result watched
                    obtain ⟨ended, watched⟩ := watched
                    refine ⟨ended, ?_⟩
                    apply Watched.after_quiet readings quietCpu
                    apply Watched.after_quiet readings quietMemory
                    apply Watched.after_quiet readings quietTop
                    have cpu : (⟨switches, wakeups, cpuPct (readings.snapshot reading)
                        (readings.snapshot (reading + 1)), memoryPct, processes⟩ : Metrics).cpuPct =
                          window readings reading := rfl
                    exact watched.after_dict readings cpu
      rw [watch_cons]
      apply leads_bind
      apply leads_call
      intro first
      apply leads_bind
      apply leads_call
      intro second
      refine leads_mono _ _ _ _ ?_ attended
      intro log taken result watched
      exact ⟨watched.1, watched.2.after_quiet readings rfl⟩

theorem streamMetrics_watched (lines : List String) :
    (runMonitor readings output lines).result = .ok () ∧
      Watched readings (paired (lines.map (mark db))) 0
        (runMonitor readings output lines).events (runMonitor readings output lines).shared := by
  have leads : Leads (host readings output) (streamMetrics db lines) 0 fun log taken result =>
      result = .ok () ∧ Watched readings (paired (lines.map (mark db))) 0 (dicts log) taken := by
    unfold streamMetrics
    apply leads_bind
    apply leads_call
    intro _
    apply leads_bind
    refine leads_mono _ _ _ _ ?_ (readCpuStat_leads readings output 0)
    intro log taken result read
    obtain ⟨quiet, rfl, rfl⟩ := read
    apply leads_withFinally
    refine leads_mono _ _ _ _ ?_ (watch_leads readings output lines none 0)
    intro log' taken result watched
    obtain ⟨rfl, watched⟩ := watched
    rw [collect_eq_paired] at watched
    apply leads_call
    intro _
    refine ⟨rfl, ?_⟩
    apply Watched.after_quiet readings rfl
    apply Watched.after_quiet readings quiet
    have killed : dicts (log' ++ [.called .kill ()]) = dicts log' := by
      simp [dicts]
    rwa [killed]
  have yielded : (runMonitor readings output lines).events =
      dicts (runMonitor readings output lines).log := by
    unfold Course.events dicts
    congr 1
    funext happening
    cases happening <;> rfl
  rw [yielded]
  exact leads []

end Loop

/-! ## Ticks -/

/-- A second of bpftrace: its two counter lines in order, amid noise. -/
structure Tick (db : CharDb) where
  before : List String
  switchesLine : String
  between : List String
  wakeupsLine : String
  after : List String
  switches : Nat
  wakeups : Nat
  quietBefore : ∀ line ∈ before, mark db line = none
  opens : mark db switchesLine = some (.opening switches)
  quietBetween : ∀ line ∈ between, mark db line = none
  closes : mark db wakeupsLine = some (.closing wakeups)
  quietAfter : ∀ line ∈ after, mark db line = none

/-- The two lines that `print(@switches); print(@wakeups)` write. -/
def printed (db : CharDb) (switches wakeups : Nat) : Tick db where
  before := []
  switchesLine := "@switches: " ++ toString switches ++ "\n"
  between := []
  wakeupsLine := "@wakeups: " ++ toString wakeups ++ "\n"
  after := []
  switches := switches
  wakeups := wakeups
  quietBefore := List.forall_mem_nil _
  opens := mark_switches db switches
  quietBetween := List.forall_mem_nil _
  closes := mark_wakeups db wakeups
  quietAfter := List.forall_mem_nil _

section Ticks

variable {db : CharDb}

def Tick.lines (tick : Tick db) : List String :=
  tick.before ++ (tick.switchesLine :: (tick.between ++ (tick.wakeupsLine :: tick.after)))

def Tick.round (tick : Tick db) : Round Nat Nat :=
  ⟨tick.before.length, tick.switches, tick.between.length, tick.wakeups, tick.after.length⟩

theorem map_quiet (lines : List String) (quiet : ∀ line ∈ lines, mark db line = none) :
    lines.map (mark db) = List.replicate lines.length none := by
  rw [List.map_eq_replicate_iff]
  exact quiet

theorem marks_ticks (ticks : List (Tick db)) :
    (ticks.flatMap Tick.lines).map (mark db) = (ticks.map Tick.round).flatMap Round.marks := by
  induction ticks with
  | nil => rfl
  | cons tick ticks ih =>
      rw [List.flatMap_cons, List.map_append, ih, List.map_cons, List.flatMap_cons]
      congr 1
      simp only [Tick.lines, List.map_append, List.map_cons, tick.opens, tick.closes,
        map_quiet _ tick.quietBefore, map_quiet _ tick.quietBetween, map_quiet _ tick.quietAfter]
      rfl

end Ticks

/-! ## The monitor -/

section Monitor

variable {db : CharDb}

theorem deltas_sum (readings : Readings db) (part : Int × Int → Int) (count : Nat) :
    ((List.range count).map fun reading =>
        part (readings.snapshot (reading + 1)) - part (readings.snapshot reading)).sum =
      part (readings.snapshot count) - part (readings.snapshot 0) := by
  induction count with
  | zero => simp
  | succ count ih =>
      rw [List.range_succ, List.map_append, List.sum_append, ih]
      simp

/-- The monitor yields one dict for each wakeups line whose nearest counter
line is a switches line, with the two counts; its CPU windows follow each
other from the first reading to the last. -/
theorem dicts_paired (readings : Readings db) (output : Nat → List String → String)
    (lines : List String) :
    (runMonitor readings output lines).result = .ok () ∧
    (runMonitor readings output lines).events.map counts = paired (lines.map (mark db)) ∧
    (∀ line, (∃ count, mark db line = some (.opening count)) ↔ SwitchesLine db line) ∧
    (∀ line, (∃ count, mark db line = some (.closing count)) ↔ WakeupsLine db line) ∧
    (∀ closing later opening, (pairAt (lines.map (mark db)) closing).isSome →
      (pairAt (lines.map (mark db)) later).isSome → closing < later →
      nearest (lines.map (mark db)) later = some opening → closing < opening) ∧
    (∀ ticks : List (Tick db), lines = ticks.flatMap Tick.lines →
      (runMonitor readings output lines).events.map counts =
        ticks.map fun tick => (tick.switches, tick.wakeups)) ∧
    ∃ count, (runMonitor readings output lines).shared = count + 1 ∧
      (runMonitor readings output lines).events.length = count ∧
      (runMonitor readings output lines).events.map Metrics.cpuPct =
        (List.range count).map (fun reading =>
          cpuPct (readings.snapshot reading) (readings.snapshot (reading + 1))) ∧
      ∀ part : Int × Int → Int,
        ((List.range count).map fun reading =>
            part (readings.snapshot (reading + 1)) - part (readings.snapshot reading)).sum =
          part (readings.snapshot count) - part (readings.snapshot 0) := by
  obtain ⟨ended, watched⟩ := streamMetrics_watched readings output lines
  refine ⟨ended, watched.counted, mark_opening db, mark_closing db,
    opens_later (lines.map (mark db)), ?_, _, ?_, rfl, ?_, ?_⟩
  · rintro ticks rfl
    rw [watched.counted, marks_ticks, ← collect_eq_paired, collect_rounds, List.map_map]
    rfl
  · rw [watched.lastReading]
    omega
  · rw [watched.windows, ← List.range_eq_range']
    rfl
  · exact fun part => deltas_sum readings part _

end Monitor

/-- Eight of the first ten time units idle, then half of each further ten. -/
def halfBusy : Readings .ascii where
  text reading :=
    if reading = 0 then "cpu  1 0 1 8 0\n"
    else if reading = 1 then "cpu  4 0 3 12 1\n" else "cpu  6 0 6 17 1\n"
  snapshot reading := if reading = 0 then (8, 10) else if reading = 1 then (13, 20) else (18, 30)
  decodes reading := by
    by_cases first : reading = 0
    · simp only [first, if_true]
      decide +kernel
    · by_cases second : reading = 1
      · simp only [second, if_true]
        decide +kernel
      · simp only [first, second, if_false]
        decide +kernel

theorem dicts_paired_twoTicks :
    let run := runMonitor halfBusy (fun _ _ => "")
      ([printed .ascii 5 7, printed .ascii 120 3].flatMap Tick.lines)
    run.events.map counts = [(5, 7), (120, 3)] ∧ run.events.map Metrics.cpuPct = [50, 50] ∧
      run.shared = 3 := by
  obtain ⟨_, _, _, _, _, pairs, count, taken, length, windows, _⟩ :=
    dicts_paired halfBusy (fun _ _ => "")
      ([printed .ascii 5 7, printed .ascii 120 3].flatMap Tick.lines)
  have paired := pairs _ rfl
  have two : count = 2 := by
    rw [← length, ← List.length_map counts, paired]
    rfl
  subst two
  refine ⟨paired, windows.trans ?_, taken⟩
  decide +kernel

end KernelSprint.TickPairing

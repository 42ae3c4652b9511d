import Mathlib.Tactic.FieldSimp
import Mathlib.Tactic.Linarith
import KernelSprint.Backend.ChaosAgent
import KernelSprint.Lib.Columns

/-!
# The utilisation that /proc/stat gives

The kernel counts the time of guests twice, in `user` and `guest` and in
`nice` and `guest_nice`, and the two call sites of `read_cpu_stat` sum all the
columns.
-/

set_option autoImplicit false

namespace KernelSprint.CpuUsage

open PyText Columns
open StreamMetrics (cpuStat)

/-! ## The aggregate line -/

/-- The columns from user on; an older kernel prints fewer of them. -/
structure CpuTimes where
  columns : List Nat
  fromIdle : 4 ≤ columns.length
  toGuestNice : columns.length ≤ 10

namespace CpuTimes

variable (times : CpuTimes)

def column (index : Nat) : Nat := times.columns.getD index 0

def user : Nat := times.column 0
def nice : Nat := times.column 1
def system : Nat := times.column 2
def idle : Nat := times.column 3
def iowait : Nat := times.column 4
def irq : Nat := times.column 5
def softirq : Nat := times.column 6
def steal : Nat := times.column 7
def guest : Nat := times.column 8
def guestNice : Nat := times.column 9

def procStat (others : List Char) : String :=
  String.ofList ("cpu".toList ++ (List.replicate 1 ' ' ++
    spaced (times.columns.map (Nat.toDigits 10))) ++ '\n' :: others)

/-- The time that the CPUs did not work. -/
def idleTime : Nat := times.idle + times.iowait

/-- All time, each unit once. -/
def accounted : Nat :=
  times.user + times.nice + times.system + times.idle + times.iowait + times.irq +
    times.softirq + times.steal

def guestTime : Nat := times.guest + times.guestNice

end CpuTimes

/-- Two readings of a kernel that counts guest time as user time and
`guest_nice` as nice. -/
structure Successive (before after : CpuTimes) : Prop where
  grows : ∀ index, before.column index ≤ after.column index
  guestInUser : after.guest - before.guest ≤ after.user - before.user
  guestNiceInNice : after.guestNice - before.guestNice ≤ after.nice - before.nice

theorem sum_columns (columns : List Nat) (count : Nat) (bound : columns.length ≤ count) :
    columns.sum = ((List.range count).map (columns.getD · 0)).sum := by
  induction columns generalizing count with
  | nil => simp
  | cons column columns ih =>
      cases count with
      | zero => simp at bound
      | succ count =>
          rw [List.length_cons, Nat.add_le_add_iff_right] at bound
          rw [List.sum_cons, ih count bound, List.range_succ_eq_map]
          simp [Function.comp_def]

theorem total_eq (times : CpuTimes) : times.columns.sum = times.accounted + times.guestTime := by
  rw [sum_columns times.columns 10 times.toGuestNice]
  simp only [CpuTimes.accounted, CpuTimes.guestTime, CpuTimes.user, CpuTimes.nice,
    CpuTimes.system, CpuTimes.idle, CpuTimes.iowait, CpuTimes.irq, CpuTimes.softirq,
    CpuTimes.steal, CpuTimes.guest, CpuTimes.guestNice, CpuTimes.column, List.range, List.range.loop,
    List.map_cons, List.map_nil, List.sum_cons, List.sum_nil]
  omega

theorem procStat_splitlines (times : CpuTimes) (others : List Char) :
    splitlines (times.procStat others) =
      String.ofList ("cpu".toList ++ (List.replicate 1 ' ' ++
        spaced (times.columns.map (Nat.toDigits 10)))) :: splitlinesFrom [] others := by
  have inline : Inline ("cpu".toList ++ (List.replicate 1 ' ' ++
      spaced (times.columns.map (Nat.toDigits 10)))) := by
    refine Inline.append (by decide +kernel) (Inline.append (inline_blanks 1) ?_)
    apply inline_spaced
    intro word member
    obtain ⟨column, _, rfl⟩ := List.mem_map.mp member
    exact (solid_toDigits column).inline
  have text : (times.procStat others).toList = ("cpu".toList ++ (List.replicate 1 ' ' ++
      spaced (times.columns.map (Nat.toDigits 10)))) ++ '\n' :: others := String.toList_ofList
  rw [splitlines, text, splitlinesFrom_line [] _ _ inline, List.nil_append]

theorem cpuStat_parts (db : CharDb) (out line : String) (others : List String) (parts : List Int)
    (idle : Int) (lines : splitlines out = line :: others)
    (decoded : ((split line).drop 1).mapM (int db) = .ok parts) (found : parts[3]? = some idle) :
    cpuStat db out = .ok (idle + parts[4]?.getD 0, parts.sum) := by
  unfold cpuStat
  rw [lines]
  simp only [decoded, bind, Except.bind, found]
  rfl

theorem int_columns (db : CharDb) (columns : List Nat) :
    ((columns.map (Nat.toDigits 10)).map String.ofList).mapM (int db) =
      .ok (columns.map Int.ofNat) := by
  induction columns with
  | nil => rfl
  | cons column columns ih =>
      rw [List.map_cons, List.map_cons, List.mapM_cons, int_toDigits, ih]
      rfl

theorem sum_ofNat (columns : List Nat) : (columns.map Int.ofNat).sum = (columns.sum : Int) := by
  induction columns with
  | nil => rfl
  | cons column columns ih =>
      rw [List.map_cons, List.sum_cons, List.sum_cons, ih, Int.natCast_add]
      rfl

theorem split_procStat (times : CpuTimes) :
    split (String.ofList ("cpu".toList ++ (List.replicate 1 ' ' ++
        spaced (times.columns.map (Nat.toDigits 10))))) =
      String.ofList "cpu".toList :: (times.columns.map (Nat.toDigits 10)).map String.ofList := by
  refine split_titled "cpu".toList 0 (times.columns.map (Nat.toDigits 10)) (by decide)
    (by decide +kernel) ?_ ?_
  · intro word member
    obtain ⟨column, _, rfl⟩ := List.mem_map.mp member
    exact toDigits_ne_nil column
  · intro word member
    obtain ⟨column, _, rfl⟩ := List.mem_map.mp member
    exact solid_toDigits column

/-- `read_cpu_stat` on what the kernel prints. -/
theorem cpuStat_procStat (db : CharDb) (times : CpuTimes) (others : List Char) :
    cpuStat db (times.procStat others) =
      .ok ((times.idleTime : Int), ((times.accounted + times.guestTime : Nat) : Int)) := by
  have idle : (times.columns.map Int.ofNat)[3]? = some (times.idle : Int) := by
    rw [List.getElem?_map, CpuTimes.idle, CpuTimes.column, List.getD_eq_getElem?_getD,
      List.getElem?_eq_getElem times.fromIdle]
    rfl
  have iowait : (times.columns.map Int.ofNat)[4]?.getD 0 = (times.iowait : Int) := by
    rw [List.getElem?_map, CpuTimes.iowait, CpuTimes.column, List.getD_eq_getElem?_getD]
    cases times.columns[4]? <;> rfl
  have read := cpuStat_parts db _ _ _ _ _ (procStat_splitlines times others)
    (by rw [split_procStat, List.drop_one, List.tail_cons, int_columns]) idle
  rw [iowait, sum_ofNat, total_eq] at read
  exact read

/-! ## The share that is rounded -/

/-- `x / y` -/
def divide (x y : Int) : Except PyExn ℚ :=
  if y = 0 then .error .zeroDivisionError else .ok (x / y)

/-- What both call sites round to one place. -/
def unrounded (previous current : Int × Int) : Except PyExn ℚ :=
  if 0 < current.2 - previous.2 then
    (divide (current.1 - previous.1) (current.2 - previous.2)).map fun share => 100 * (1 - share)
  else .ok 0

def usage (previous current : Int × Int) : ℚ :=
  if 0 < current.2 - previous.2 then
    100 * (1 - ((current.1 - previous.1 : Int) : ℚ) / ((current.2 - previous.2 : Int) : ℚ))
  else 0

theorem unrounded_eq (previous current : Int × Int) :
    unrounded previous current = .ok (usage previous current) := by
  unfold unrounded usage
  by_cases elapsed : 0 < current.2 - previous.2
  · rw [if_pos elapsed, if_pos elapsed, divide, if_neg (by omega)]
    rfl
  · rw [if_neg elapsed, if_neg elapsed]

theorem round_zero : PyText.round 0 1 = 0 := by
  norm_num [PyText.round, roundHalfEven]

theorem stream_metrics_rounds (previous current : Int × Int) :
    StreamMetrics.cpuPct previous current = PyText.round (usage previous current) 1 := by
  unfold StreamMetrics.cpuPct usage
  by_cases elapsed : 0 < current.2 - previous.2
  · simp only [elapsed, ↓reduceIte]
  · simp only [elapsed, ↓reduceIte, round_zero]

theorem cpu_stress_rounds (previous current : Int × Int) :
    ChaosAgent.cpuPct previous current = PyText.round (usage previous current) 1 := by
  unfold ChaosAgent.cpuPct usage
  by_cases elapsed : 0 < current.2 - previous.2
  · simp only [elapsed, ↓reduceIte]
  · simp only [elapsed, ↓reduceIte, round_zero]

/-! ## The reference -/

/-- The working share of the time that elapsed. -/
def reference (before after : CpuTimes) : ℚ :=
  let elapsed := (after.accounted : ℚ) - before.accounted
  if elapsed = 0 then 0 else 100 * (1 - ((after.idleTime : ℚ) - before.idleTime) / elapsed)

structure CountsOnce (before after : CpuTimes) (pct : ℚ) : Prop where
  agrees : pct = reference before after
  nonneg : 0 ≤ pct
  atMost : pct ≤ 100
  still : after.accounted = before.accounted → pct = 0

def reading (times : CpuTimes) : Int × Int :=
  (times.idleTime, ((times.accounted + times.guestTime : Nat) : Int))

section Successive

variable {before after : CpuTimes} (successive : Successive before after)

include successive

theorem idle_grows : before.idleTime ≤ after.idleTime :=
  Nat.add_le_add (successive.grows 3) (successive.grows 4)

theorem guest_grows : before.guestTime ≤ after.guestTime :=
  Nat.add_le_add (successive.grows 8) (successive.grows 9)

/-- Idle time and guest time are disjoint parts of what elapses. -/
theorem parts_within :
    after.idleTime + after.guestTime + before.accounted ≤
      before.idleTime + before.guestTime + after.accounted := by
  have user := successive.grows 0
  have nice := successive.grows 1
  have system := successive.grows 2
  have irq := successive.grows 5
  have softirq := successive.grows 6
  have steal := successive.grows 7
  have guest := successive.grows 8
  have guestNice := successive.grows 9
  have inUser := successive.guestInUser
  have inNice := successive.guestNiceInNice
  simp only [CpuTimes.user, CpuTimes.nice, CpuTimes.guest, CpuTimes.guestNice] at inUser inNice
  simp only [CpuTimes.accounted, CpuTimes.idleTime, CpuTimes.guestTime, CpuTimes.user,
    CpuTimes.nice, CpuTimes.system, CpuTimes.idle, CpuTimes.iowait, CpuTimes.irq,
    CpuTimes.softirq, CpuTimes.steal, CpuTimes.guest, CpuTimes.guestNice]
  omega

end Successive

/-- Time that is counted twice changes the share unless none of it passed or
the CPUs were never idle. -/
theorem share_eq_iff (idle elapsed twice : ℚ) (elapsedPos : 0 < elapsed) (twiceNonneg : 0 ≤ twice) :
    100 * (1 - idle / (elapsed + twice)) = 100 * (1 - idle / elapsed) ↔ twice = 0 ∨ idle = 0 := by
  have sumPos : 0 < elapsed + twice := by linarith
  constructor
  · intro same
    have crossed : idle * elapsed = idle * (elapsed + twice) := by
      have quotients : idle / (elapsed + twice) = idle / elapsed := by linarith
      rwa [div_eq_div_iff sumPos.ne' elapsedPos.ne'] at quotients
    have product : twice * idle = 0 := by linarith
    exact mul_eq_zero.mp product
  · rintro (none | none)
    · rw [none, add_zero]
    · rw [none, zero_div, zero_div]

theorem usage_grown {before after : CpuTimes} (idle elapsed twice : Nat)
    (idleTime : after.idleTime = before.idleTime + idle)
    (accounted : after.accounted = before.accounted + elapsed)
    (guestTime : after.guestTime = before.guestTime + twice) :
    usage (reading before) (reading after) =
      if elapsed + twice = 0 then 0 else 100 * (1 - (idle : ℚ) / ((elapsed : ℚ) + twice)) := by
  have idleDelta : (reading after).1 - (reading before).1 = (idle : Int) := by
    simp only [reading, idleTime]
    omega
  have totalDelta : (reading after).2 - (reading before).2 = ((elapsed + twice : Nat) : Int) := by
    simp only [reading, accounted, guestTime]
    omega
  rw [usage, idleDelta, totalDelta]
  by_cases still : elapsed + twice = 0
  · rw [if_pos still, still]
    rfl
  · rw [if_neg still, if_pos (by omega)]
    push_cast
    rfl

theorem reference_grown {before after : CpuTimes} (idle elapsed : Nat)
    (idleTime : after.idleTime = before.idleTime + idle)
    (accounted : after.accounted = before.accounted + elapsed) :
    reference before after =
      if elapsed = 0 then 0 else 100 * (1 - (idle : ℚ) / (elapsed : ℚ)) := by
  have idleDelta : (after.idleTime : ℚ) - before.idleTime = idle := by
    rw [idleTime]
    push_cast
    ring
  have elapsedDelta : (after.accounted : ℚ) - before.accounted = elapsed := by
    rw [accounted]
    push_cast
    ring
  simp only [reference, idleDelta, elapsedDelta, Nat.cast_eq_zero]

theorem share_bounds (idle total : ℚ) (nonneg : 0 ≤ idle) (within : idle ≤ total)
    (positive : 0 < total) : 0 ≤ 100 * (1 - idle / total) ∧ 100 * (1 - idle / total) ≤ 100 := by
  have above : 0 ≤ idle / total := div_nonneg nonneg positive.le
  have below : idle / total ≤ 1 := (div_le_one positive).mpr within
  constructor <;> linarith

theorem usage_reading {before after : CpuTimes} (successive : Successive before after) :
    0 ≤ usage (reading before) (reading after) ∧ usage (reading before) (reading after) ≤ 100 ∧
      (CountsOnce before after (usage (reading before) (reading after)) ↔
        after.guestTime = before.guestTime ∨ after.idleTime = before.idleTime) := by
  have within := parts_within successive
  obtain ⟨idle, idleTime⟩ := Nat.exists_eq_add_of_le (idle_grows successive)
  obtain ⟨twice, guestTime⟩ := Nat.exists_eq_add_of_le (guest_grows successive)
  obtain ⟨elapsed, accounted⟩ : ∃ elapsed, after.accounted = before.accounted + elapsed :=
    Nat.exists_eq_add_of_le (by omega)
  have parts : idle + twice ≤ elapsed := by omega
  have code := usage_grown idle elapsed twice idleTime accounted guestTime
  have wanted := reference_grown idle elapsed idleTime accounted
  have condition : (after.guestTime = before.guestTime ∨ after.idleTime = before.idleTime) ↔
      (twice : ℚ) = 0 ∨ (idle : ℚ) = 0 := by
    rw [guestTime, idleTime, Nat.cast_eq_zero, Nat.cast_eq_zero]
    omega
  rw [code, condition]
  by_cases still : elapsed = 0
  · -- guest time is within the time that elapsed, so it stood still as well
    have noGuest : twice = 0 := by omega
    rw [if_pos still] at wanted
    rw [if_pos (by omega)]
    refine ⟨le_rfl, by norm_num, ?_⟩
    refine iff_of_true ⟨wanted.symm, le_rfl, by norm_num, fun _ => rfl⟩ (Or.inl ?_)
    rw [noGuest, Nat.cast_zero]
  · have elapsedPos : (0 : ℚ) < elapsed := by exact_mod_cast Nat.pos_of_ne_zero still
    have twiceNonneg : (0 : ℚ) ≤ twice := Nat.cast_nonneg twice
    have bounds := share_bounds (idle : ℚ) (elapsed + twice) (Nat.cast_nonneg idle)
      (by exact_mod_cast (by omega : idle ≤ elapsed + twice)) (by linarith)
    rw [if_neg still] at wanted
    rw [if_neg (by omega)]
    refine ⟨bounds.1, bounds.2, ?_⟩
    rw [← share_eq_iff idle elapsed twice elapsedPos twiceNonneg, ← wanted]
    constructor
    · exact fun once => once.agrees
    · intro agrees
      refine ⟨agrees, bounds.1, bounds.2, ?_⟩
      intro same
      omega

/-- Both call sites count each unit of time once exactly while no guest runs or
the CPUs are never idle; the share is always one of 0 to 100. -/
theorem counts_once_iff (db : CharDb) (before after : CpuTimes)
    (successive : Successive before after) (othersBefore othersAfter : List Char) :
    ∃ previous current pct,
      cpuStat db (before.procStat othersBefore) = .ok previous ∧
      cpuStat db (after.procStat othersAfter) = .ok current ∧
      unrounded previous current = .ok pct ∧
      StreamMetrics.cpuPct previous current = PyText.round pct 1 ∧
      ChaosAgent.cpuPct previous current = PyText.round pct 1 ∧
      0 ≤ pct ∧ pct ≤ 100 ∧
      (CountsOnce before after pct ↔
        after.guestTime = before.guestTime ∨ after.idleTime = before.idleTime) :=
  ⟨reading before, reading after, usage (reading before) (reading after),
    cpuStat_procStat db before othersBefore, cpuStat_procStat db after othersAfter,
    unrounded_eq _ _, stream_metrics_rounds _ _, cpu_stress_rounds _ _,
    usage_reading successive⟩

/-! ## A host that runs a guest -/

def booted : CpuTimes := ⟨List.replicate 10 0, by decide, by decide⟩

theorem booted_column (index : Nat) : booted.column index = 0 := by
  rw [CpuTimes.column, List.getD_eq_getElem?_getD, booted, List.getElem?_replicate]
  split <;> rfl

/-- Ten ticks of a guest and ten of idling. -/
def virtualised : CpuTimes := ⟨[10, 0, 0, 10, 0, 0, 0, 0, 10, 0], by decide, by decide⟩

theorem virtualised_later : Successive booted virtualised where
  grows index := by
    rw [booted_column]
    exact Nat.zero_le _
  guestInUser := by decide
  guestNiceInNice := by decide

theorem counts_once_booted : ∃ previous current pct,
    cpuStat .ascii (booted.procStat []) = .ok previous ∧
    cpuStat .ascii (virtualised.procStat []) = .ok current ∧
    unrounded previous current = .ok pct ∧
    StreamMetrics.cpuPct previous current = PyText.round pct 1 ∧
    ChaosAgent.cpuPct previous current = PyText.round pct 1 ∧
    0 ≤ pct ∧ pct ≤ 100 ∧
    (CountsOnce booted virtualised pct ↔
      virtualised.guestTime = booted.guestTime ∨ virtualised.idleTime = booted.idleTime) :=
  counts_once_iff .ascii booted virtualised virtualised_later [] []

theorem guest_time_counted_twice :
    cpuStat .ascii (booted.procStat []) = .ok (0, 0) ∧
      cpuStat .ascii (virtualised.procStat []) = .ok (10, 30) ∧
      unrounded (0, 0) (10, 30) = .ok (200 / 3) ∧ Successive booted virtualised ∧
      ¬ CountsOnce booted virtualised (200 / 3) := by
  refine ⟨cpuStat_procStat .ascii booted [], cpuStat_procStat .ascii virtualised [], ?_,
    virtualised_later, ?_⟩
  · decide +kernel
  · intro once
    have half : reference booted virtualised = 50 := by decide +kernel
    have agrees := once.agrees
    rw [half] at agrees
    norm_num at agrees

end KernelSprint.CpuUsage

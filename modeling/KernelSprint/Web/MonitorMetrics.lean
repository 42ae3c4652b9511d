import KernelSprint.Backend.StreamMetrics
import KernelSprint.Lib.JsNumber
import KernelSprint.Lib.Machine

/-!
# Simulated monitor metrics

`simulateMonitorMetrics` of `simulate.ts`, which the monitor panel falls back
to.  `Math.random` is the sequence of draws that the calls are labelled with;
numbers are exact rationals.
-/

set_option autoImplicit false

namespace KernelSprint.MonitorMetrics

open Labelled JsNumber
open StreamMetrics (ProcessRow)

/-- `interface Metrics` of the panel. -/
structure Metrics where
  contextSwitchesPerSec : ℚ
  wakeupsPerSec : ℚ
  cpuPct : ℚ
  memoryPct : Option ℚ
  processes : List ProcessRow
  deriving DecidableEq

/-- What `Math.random()` may return. -/
structure Draw where
  value : ℚ
  nonneg : 0 ≤ value
  below_one : value < 1

/-- The draws of one call, in the order in which it makes them. -/
structure Draws where
  switches : Draw
  wakeups : Draw
  cpu : Draw
  mem : Draw

structure SimBase where
  switches : Int
  wakeups : Int
  cpu : ℚ
  mem : ℚ
  deriving DecidableEq

def simBase : SimBase := ⟨12400, 18600, 124 / 10, 279 / 10⟩

def jitter (draw : Draw) : ℚ := (draw.value - 1 / 2) * (15 / 100)

def jitteredCount (count : Int) (draw : Draw) : Int := mathRound (count * (1 + jitter draw))

def clampedPct (pct : ℚ) : ℚ := max 1 (min 99 (fixedValue 1 pct))

def simulatedProcesses : List ProcessRow := [
  ⟨"456", "dockerd", "3.1", "1.1"⟩,
  ⟨"789", "containerd", "2.4", "1.7"⟩,
  ⟨"1024", "bpftrace", "1.2", "0.5"⟩,
  ⟨"1", "systemd", "0.0", "0.3"⟩]

/-- The metrics that a call returns and the base that it leaves behind. -/
def simulateMonitorMetrics (simBase : SimBase) (draws : Draws) : Metrics × SimBase :=
  let simBase := { simBase with switches := jitteredCount simBase.switches draws.switches }
  let simBase := { simBase with wakeups := jitteredCount simBase.wakeups draws.wakeups }
  let simBase := { simBase with cpu := clampedPct (simBase.cpu * (1 + jitter draws.cpu)) }
  let simBase := { simBase with mem := clampedPct (simBase.mem * (1 + jitter draws.mem / 2)) }
  (⟨simBase.switches, simBase.wakeups, simBase.cpu, some simBase.mem, simulatedProcesses⟩,
    simBase)

/-- The calls of one page: the base lives as long as the module. -/
def telemetry : Machine SimBase Draws where
  step simBase draws := some (simulateMonitorMetrics simBase draws).2

/-! ## One call -/

theorem jitter_bounds (draw : Draw) : -(3 / 40) ≤ jitter draw ∧ jitter draw < 3 / 40 := by
  have low := draw.nonneg
  have high := draw.below_one
  unfold jitter
  constructor <;> linarith

/-- Within 7.5% of the centre, plus rounding. -/
def Around (centre : Int) (value : ℚ) : Prop :=
  |value - centre| ≤ centre * (75 / 1000) + 1 / 2

/-- A count that is jittered from the centre stays around it. -/
theorem jitteredCount_around (centre : Int) (nonneg : 0 ≤ centre) (draw : Draw) :
    Around centre (jitteredCount centre draw) := by
  have positive : (0 : ℚ) ≤ centre := by exact_mod_cast nonneg
  obtain ⟨low, high⟩ := jitter_bounds draw
  have moved : |(centre : ℚ) * jitter draw| ≤ centre * (75 / 1000) := by
    rw [abs_mul, abs_of_nonneg positive]
    gcongr
    rw [abs_le]
    constructor <;> linarith
  have rounded := mathRound_error (centre * (1 + jitter draw))
  unfold Around jitteredCount
  calc |(mathRound (centre * (1 + jitter draw)) : ℚ) - centre|
      = |(mathRound (centre * (1 + jitter draw)) - centre * (1 + jitter draw)) +
          centre * jitter draw| := by ring_nf
    _ ≤ |mathRound (centre * (1 + jitter draw)) - centre * (1 + jitter draw)| +
          |centre * jitter draw| := abs_add_le _ _
    _ ≤ 1 / 2 + centre * (75 / 1000) := add_le_add rounded moved
    _ = centre * (75 / 1000) + 1 / 2 := add_comm _ _

def lowest : Draw := ⟨0, by norm_num, by norm_num⟩

/-- A draw so close to one that it moves a count past 7.5% of `n`. -/
def highest (n : Nat) : Draw where
  value := n / (n + 1)
  nonneg := by positivity
  below_one := by
    rw [div_lt_one (by positivity)]
    exact lt_add_one _

theorem jitter_lowest : 1 + jitter lowest = 37 / 40 := by
  norm_num [jitter, lowest]

theorem jitter_highest (n : Nat) :
    ((n : ℚ) + 1) * (1 + jitter (highest n)) = 43 / 40 * (n + 1) - 3 / 20 := by
  have nonzero : (n : ℚ) + 1 ≠ 0 := by positivity
  unfold jitter highest
  field_simp
  ring

/-- Only from the centre itself does every draw lead to a count around it. -/
theorem jitteredCount_around_iff (unit : Nat) (count : Int) :
    (∀ draw, Around (40 * unit) (jitteredCount count draw)) ↔ count = 40 * unit := by
  constructor
  · intro around
    have low := (abs_le.mp (around lowest)).1
    have high := (abs_le.mp (around (highest (40 * unit)))).2
    push_cast at low high
    have atLeast : 37 * (unit : Int) ≤ jitteredCount count lowest := by
      have bound : 37 * (unit : ℚ) - 1 < jitteredCount count lowest := by linarith
      exact Int.le_of_sub_one_lt (by exact_mod_cast bound)
    have atMost : jitteredCount count (highest (40 * unit)) ≤ 43 * (unit : Int) := by
      have bound : (jitteredCount count (highest (40 * unit)) : ℚ) < 43 * unit + 1 := by linarith
      exact Int.le_of_lt_add_one (by exact_mod_cast bound)
    have scaledDown := (le_mathRound_iff _ _).mp atLeast
    have scaledUp := (mathRound_le_iff _ _).mp atMost
    rw [jitter_lowest] at scaledDown
    push_cast at scaledDown scaledUp
    refine le_antisymm ?_ ?_
    · by_contra above
      have next : ((40 * unit : Nat) : ℚ) + 1 ≤ count := by exact_mod_cast not_le.mp above
      have grown := jitter_highest (40 * unit)
      have factor : 0 ≤ 1 + jitter (highest (40 * unit)) := by
        linarith [(jitter_bounds (highest (40 * unit))).1]
      have product := mul_le_mul_of_nonneg_right next factor
      push_cast at product grown
      linarith
    · have bound : 40 * (unit : ℚ) - 1 < count := by linarith
      have whole : 40 * (unit : Int) - 1 < count := by exact_mod_cast bound
      omega
  · rintro rfl draw
    exact jitteredCount_around (40 * unit) (by positivity) draw

/-! ## Runs of calls -/

/-- Both counts stay around the initial ones. -/
def Near (metrics : Metrics) : Prop :=
  Around simBase.switches metrics.contextSwitchesPerSec ∧
    Around simBase.wakeups metrics.wakeupsPerSec

instance (metrics : Metrics) : Decidable (Near metrics) :=
  inferInstanceAs (Decidable (_ ≤ _ ∧ _ ≤ _))

/-- Both counts are the initial ones. -/
def AtBaseline (base : SimBase) : Prop :=
  base.switches = simBase.switches ∧ base.wakeups = simBase.wakeups

/-- The metrics that each call of a run returns. -/
def ReturnsNear (base : SimBase) (draws : Draws) (_ : SimBase) : Prop :=
  Near (simulateMonitorMetrics base draws).1

instance (base : SimBase) (draws : Draws) (next : SimBase) :
    Decidable (ReturnsNear base draws next) :=
  inferInstanceAs (Decidable (Near _))

theorem near_iff_atBaseline (base : SimBase) :
    (∀ draws, Near (simulateMonitorMetrics base draws).1) ↔ AtBaseline base := by
  have switches := jitteredCount_around_iff 310 base.switches
  have wakeups := jitteredCount_around_iff 465 base.wakeups
  constructor
  · intro near
    exact ⟨switches.mp fun draw => (near ⟨draw, draw, draw, draw⟩).1,
      wakeups.mp fun draw => (near ⟨draw, draw, draw, draw⟩).2⟩
  · rintro ⟨sameSwitches, sameWakeups⟩ draws
    exact ⟨switches.mpr sameSwitches draws.switches, wakeups.mpr sameWakeups draws.wakeups⟩

def nearlyOne : Draw := ⟨99 / 100, by norm_num, by norm_num⟩

def allNearlyOne : Draws := ⟨nearlyOne, nearlyOne, nearlyOne, nearlyOne⟩

theorem leaves_baseline : ¬ AtBaseline (simulateMonitorMetrics simBase allNearlyOne).2 := by
  intro ⟨switches, _⟩
  have moved : jitteredCount 12400 nearlyOne = 13311 := by decide +kernel
  exact absurd (moved.symm.trans switches) (by decide)

/-- After two calls nothing is certain, whatever calls follow. -/
theorem every_draw_near_iff (count : Nat) :
    (∀ calls, calls.length = count → telemetry.Along ReturnsNear calls simBase) ↔
      count ≤ 1 := by
  constructor
  · intro near
    by_contra more
    obtain ⟨draws, far⟩ := not_forall.mp (mt (near_iff_atBaseline _).mp leaves_baseline)
    have long : (allNearlyOne :: draws :: List.replicate (count - 2) allNearlyOne).length =
        count := by
      simp only [List.length_cons, List.length_replicate]
      omega
    have along := near _ long
    exact far ((along _ rfl).2 _ rfl).1
  · intro few calls length
    match calls, length with
    | [], _ => trivial
    | [draws], _ =>
        intro next _
        exact ⟨(near_iff_atBaseline simBase).mpr ⟨rfl, rfl⟩ draws, trivial⟩
    | _ :: _ :: rest, length =>
        simp only [List.length_cons] at length
        omega

/-- A run whose calls all start from the initial counts returns values around
them, from no other base is a call certain to do so, and all runs of as many
calls return such values only when there is one call at most. -/
theorem telemetry_near (calls : List Draws) :
    (telemetry.Along (fun base _ _ => AtBaseline base) calls simBase →
        telemetry.Along ReturnsNear calls simBase) ∧
      (telemetry.Along (fun base _ next => ∀ draws, ReturnsNear base draws next)
          calls simBase ↔
        telemetry.Along (fun base _ _ => AtBaseline base) calls simBase) ∧
      ((∀ others, others.length = calls.length →
        telemetry.Along ReturnsNear others simBase) ↔ calls.length ≤ 1) := by
  refine ⟨?_, ?_, every_draw_near_iff calls.length⟩
  · refine telemetry.along_of_along (fun _ => True) _ _ ?_ calls simBase trivial
    intro base draws next _ baseline _
    exact ⟨trivial, (near_iff_atBaseline base).mpr baseline draws⟩
  · refine telemetry.along_iff_of_invariant (fun _ => True) _ _ (fun _ _ _ _ _ => trivial) ?_
      calls simBase trivial
    intro base _ _ _ _
    exact near_iff_atBaseline base

/-- The second call starts from 13311 and returns 14289. -/
theorem telemetry_wanders_off :
    ¬ telemetry.Along ReturnsNear [allNearlyOne, allNearlyOne] simBase := by
  decide +kernel

/-! ## How far the counts wander -/

theorem jitteredCount_nearlyOne (count : Int) (large : 7 ≤ count) :
    count + 1 ≤ jitteredCount count nearlyOne := by
  have factor : 1 + jitter nearlyOne = 2147 / 2000 := by norm_num [jitter, nearlyOne]
  have cast : (7 : ℚ) ≤ count := by exact_mod_cast large
  unfold jitteredCount
  rw [le_mathRound_iff, factor]
  push_cast
  linarith

/-- No bound holds for the switches: each high draw adds at least one. -/
theorem switches_unbounded (bound : Int) :
    ∃ calls final, telemetry.exec calls simBase = some final ∧ bound < final.switches := by
  have climbs : ∀ (count : Nat) (base : SimBase), 7 ≤ base.switches →
      ∃ final, telemetry.exec (List.replicate count allNearlyOne) base = some final ∧
        base.switches + count ≤ final.switches := by
    intro count
    induction count with
    | zero =>
        intro base _
        exact ⟨base, rfl, by omega⟩
    | succ count ih =>
        intro base large
        have first := jitteredCount_nearlyOne base.switches large
        obtain ⟨final, run, reached⟩ := ih (simulateMonitorMetrics base allNearlyOne).2
          (by change 7 ≤ jitteredCount base.switches nearlyOne; omega)
        change jitteredCount base.switches nearlyOne + count ≤ final.switches at reached
        refine ⟨final, ?_, by push_cast; omega⟩
        exact (telemetry.exec_cons ..).mpr ⟨_, rfl, run⟩
  obtain ⟨final, run, reached⟩ := climbs bound.toNat simBase (by decide)
  have start : simBase.switches = 12400 := rfl
  exact ⟨_, final, run, by omega⟩

end KernelSprint.MonitorMetrics

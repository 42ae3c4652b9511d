import Mathlib.Data.List.MinMax
import KernelSprint.Backend.MonitorSocket
import KernelSprint.Web.LiveMonitor

/-!
# What the monitor panel draws

From the lines of bpftrace through the socket into the histories of the panel,
and from there onto the screen: `Sparkline` draws a history into a box of
280 by 48.
-/

set_option autoImplicit false

namespace KernelSprint.MonitorFeed

open Labelled JsNumber Window LiveMonitor Pairing
open MonitorMetrics (Draws SimBase simulateMonitorMetrics)

/-! ## From the socket into the histories -/

/-- A dict after `send_json` and `JSON.parse`. -/
def decode (metrics : StreamMetrics.Metrics) : MonitorMetrics.Metrics where
  contextSwitchesPerSec := metrics.contextSwitchesPerSec
  wakeupsPerSec := metrics.wakeupsPerSec
  cpuPct := metrics.cpuPct
  memoryPct := metrics.memoryPct
  processes := metrics.processes

/-- The messages that a session has been given, in order. -/
def messages (labels : List Label) : List MonitorMetrics.Metrics :=
  labels.filterMap fun
    | .message metrics => some metrics
    | _ => none

theorem messages_concat (labels : List Label) (label : Label) :
    messages (labels ++ [label]) = messages labels ++ messages [label] :=
  List.filterMap_append

/-- Where no error came, the panel has received the messages and nothing else. -/
def LiveOnly (labels : List Label) (session : Session) : Prop :=
  .error ∉ labels →
    session.received = (messages labels).map (⟨.live, ·⟩) ∧ session.view.demoMode = false ∧
      session.rendered = false ∧ session.effectRan = false

theorem liveOnly_after (labels : List Label) (session : Session) (label : Label)
    (live : LiveOnly labels session) (allowed : session.Allows label) :
    LiveOnly (labels ++ [label]) (session.after label) := by
  intro fine
  rw [List.mem_append, not_or, List.mem_singleton] at fine
  obtain ⟨received, demoMode, rendered, effectRan⟩ := live fine.1
  rw [messages_concat]
  cases label with
  | opened =>
      exact ⟨by rw [show messages [.opened] = [] from rfl, List.append_nil]; exact received,
        rfl, rendered, effectRan⟩
  | message metrics =>
      refine ⟨?_, demoMode, rendered, effectRan⟩
      rw [List.map_append, ← received]
      rfl
  | error => exact absurd rfl fine.2
  | close =>
      refine ⟨by rw [show messages [.close] = [] from rfl, List.append_nil]; exact received,
        ?_, rendered, effectRan⟩
      simpa [Session.after, View.onclose, capturedDemoMode] using demoMode
  | render =>
      exact ⟨by rw [show messages [.render] = [] from rfl, List.append_nil]; exact received,
        demoMode, demoMode, effectRan⟩
  | effect draws => exact absurd (rendered.trans effectRan.symm) allowed
  | tick draws => exact absurd (effectRan.symm.trans allowed) (by simp)

theorem liveOnly_of_run (labels : List Label) (session : Session)
    (run : monitor.exec labels mounted = some session) : LiveOnly labels session := by
  refine monitor.history LiveOnly mounted (fun _ => ⟨rfl, rfl, rfl, rfl⟩) ?_ labels session run
  intro earlier state label next _ live stepped
  obtain ⟨allowed, rfl⟩ := (step_eq_some state next label).mp stepped
  exact liveOnly_after earlier state label live allowed

theorem mirrors_of_run (labels : List Label) (session : Session)
    (run : monitor.exec labels mounted = some session) : Mirrors session := by
  refine monitor.invariant_of_exec Mirrors ?_ labels mounted session mounted_mirrors run
  intro state label next mirrors stepped
  obtain ⟨_, rfl⟩ := (step_eq_some state next label).mp stepped
  exact after_mirrors state label mirrors

/-- Both counts of what the panel received. -/
theorem histories_of_messages (labels : List Label) (session : Session)
    (run : monitor.exec labels mounted = some session) (fine : .error ∉ labels) :
    session.view.switchesHistory =
        ((messages labels).rtake historyLen).map (·.contextSwitchesPerSec) ∧
      session.view.wakeupsHistory =
        ((messages labels).rtake historyLen).map (·.wakeupsPerSec) := by
  have received := (liveOnly_of_run labels session run fine).1
  have mirrors := mirrors_of_run labels session run
  rw [mirrors.switches, mirrors.wakeups, received, ← map_rtake]
  exact ⟨List.map_map, List.map_map⟩

/-- The first messages sent are the first pairs that bpftrace has printed. -/
theorem take_paired (db : PyText.CharDb) (sending : List MonitorSocket.Label)
    (conn : MonitorSocket.Connection)
    (sent : (MonitorSocket.socket db).exec sending MonitorSocket.accepted = some conn)
    (count : Nat) (short : count ≤ conn.sent.length) :
    (paired (MonitorSocket.marks db (MonitorSocket.printedLines sending))).take count =
      (conn.sent.take count).map TickPairing.counts := by
  obtain ⟨rest, whole⟩ := MonitorSocket.sent_begins db sending conn sent
  rw [← whole, List.take_append_of_le_length (by rwa [List.length_map]), ← List.map_take]

/-- The last 30 of the first `count` pairs that bpftrace has printed. -/
def shownTicks (db : PyText.CharDb) (sending : List MonitorSocket.Label) (count : Nat) :
    List (Nat × Nat) :=
  ((paired (MonitorSocket.marks db (MonitorSocket.printedLines sending))).take count).rtake
    historyLen

/-- Whatever the timing on either side, the curves of a panel without an error
are the last 30 of the pairs that bpftrace printed, up to the last message
that has arrived. -/
theorem curves_show_ticks (db : PyText.CharDb) (sending : List MonitorSocket.Label)
    (conn : MonitorSocket.Connection)
    (sent : (MonitorSocket.socket db).exec sending MonitorSocket.accepted = some conn)
    (labels : List Label) (session : Session)
    (run : monitor.exec labels mounted = some session) (fine : .error ∉ labels)
    (inOrder : messages labels <+: conn.sent.map decode) :
    session.view.switchesHistory =
        (shownTicks db sending (messages labels).length).map (fun pair => (pair.1 : ℚ)) ∧
      session.view.wakeupsHistory =
        (shownTicks db sending (messages labels).length).map (fun pair => (pair.2 : ℚ)) := by
  obtain ⟨switches, wakeups⟩ := histories_of_messages labels session run fine
  let arrived := conn.sent.take (messages labels).length
  have taken : arrived.map decode = messages labels := by
    rw [List.map_take]
    exact (List.prefix_iff_eq_take.mp inOrder).symm
  have counted : shownTicks db sending (messages labels).length =
      (arrived.map TickPairing.counts).rtake historyLen := by
    have short := inOrder.length_le
    rw [List.length_map] at short
    unfold shownTicks
    rw [take_paired db sending conn sent _ short]
  have curve : ∀ (read : MonitorMetrics.Metrics → ℚ) (part : Nat × Nat → Nat),
      (∀ metrics, read (decode metrics) = (part (TickPairing.counts metrics) : ℚ)) →
      ((messages labels).rtake historyLen).map read =
        (shownTicks db sending (messages labels).length).map fun pair => (part pair : ℚ) := by
    intro read part agree
    calc ((messages labels).rtake historyLen).map read
        = ((arrived.map decode).map read).rtake historyLen := by rw [map_rtake, taken]
      _ = ((arrived.map TickPairing.counts).map fun pair => (part pair : ℚ)).rtake
            historyLen := by
          rw [List.map_map, List.map_map]
          congr 1
          exact List.map_congr_left fun metrics _ => agree metrics
      _ = (shownTicks db sending (messages labels).length).map fun pair => (part pair : ℚ) := by
          rw [counted, map_rtake]
  exact ⟨switches.trans (curve _ Prod.fst fun _ => rfl),
    wakeups.trans (curve _ Prod.snd fun _ => rfl)⟩

theorem curves_show_oneTick : ∃ (conn : MonitorSocket.Connection) (session : Session),
    (MonitorSocket.socket .ascii).exec (MonitorSocket.oneTick ++ [.send true])
        MonitorSocket.accepted = some conn ∧
      messages (.opened :: conn.sent.map fun dict => .message (decode dict)) <+:
        conn.sent.map decode ∧
      session.view.switchesHistory = [5] ∧ session.view.wakeupsHistory = [7] := by
  obtain ⟨conn, sent, counted⟩ := MonitorSocket.oneTick_sent
  obtain ⟨dict, single, _⟩ := List.map_eq_singleton_iff.mp counted
  have shown : shownTicks .ascii (MonitorSocket.oneTick ++ [.send true]) 1 = [(5, 7)] := by
    decide +kernel
  have inOrder : messages [.opened, .message (decode dict)] <+: conn.sent.map decode := by
    rw [single]
    exact List.prefix_refl _
  have curves := curves_show_ticks .ascii _ conn sent [.opened, .message (decode dict)] _ rfl
    (by simp) inOrder
  rw [show (messages [.opened, .message (decode dict)]).length = 1 from rfl, shown] at curves
  refine ⟨conn, _, sent, ?_, by simpa using curves.1, by simpa using curves.2⟩
  rw [single] at inOrder ⊢
  exact inOrder

/-! ## The sparkline -/

def width : ℚ := 280

def height : ℚ := 48

/-- `Math.max(1, ...values)` -/
def highest (values : List ℚ) : ℚ := values.foldl max 1

/-- The point of the `i`-th value, before it is written out. -/
def point (values : List ℚ) (i : Nat) (value : ℚ) : ℚ × ℚ :=
  (i / max 1 ((historyLen : ℚ) - 1) * width, height - value / highest values * height)

def pointText (point : ℚ × ℚ) : String := toFixed 1 point.1 ++ "," ++ toFixed 1 point.2

/-- The `points` of the polyline. -/
def sparkline (values : List ℚ) : String :=
  String.intercalate " " ((values.mapIdx (point values)).map pointText)

example : sparkline [2, 4] = "0.0,24.0 9.7,0.0" := by decide +kernel

/-- Where the point is drawn: at what `toFixed` has left of it. -/
def drawn (point : ℚ × ℚ) : ℚ × ℚ := (fixedValue 1 point.1, fixedValue 1 point.2)

theorem one_le_highest (values : List ℚ) : 1 ≤ highest values := by
  unfold highest
  induction values using List.reverseRecOn with
  | nil => exact le_refl 1
  | append_singleton earlier last ih =>
      rw [List.foldl_append]
      exact ih.trans (le_max_left _ _)

theorem le_highest (values : List ℚ) (value : ℚ) (member : value ∈ values) :
    value ≤ highest values := by
  unfold highest
  induction values using List.reverseRecOn with
  | nil => cases member
  | append_singleton earlier last ih =>
      rw [List.foldl_append]
      rcases List.mem_append.mp member with old | new
      · exact (ih old).trans (le_max_left _ _)
      · rw [List.mem_singleton.mp new]
        exact le_max_right _ _

/-- `toFixed` does not leave a range with whole ends. -/
theorem fixedValue_between (places : Nat) (bound : Nat) (x : ℚ) (nonneg : 0 ≤ x)
    (below : x ≤ bound) : 0 ≤ fixedValue places x ∧ fixedValue places x ≤ bound := by
  have scale : (0 : ℚ) < 10 ^ places := by positivity
  have units : fixedUnits places x = mathRound (x * 10 ^ places) := by
    rw [fixedUnits, if_neg (not_lt.mpr nonneg)]
  have scaled : x * 10 ^ places ≤ bound * 10 ^ places := by gcongr
  have low : 0 ≤ mathRound (x * 10 ^ places) := by
    rw [le_mathRound_iff]
    have product : 0 ≤ x * 10 ^ places := mul_nonneg nonneg scale.le
    push_cast
    linarith
  have high : mathRound (x * 10 ^ places) ≤ (bound * 10 ^ places : Nat) := by
    rw [mathRound_le_iff]
    push_cast
    linarith
  have high' : (mathRound (x * 10 ^ places) : ℚ) ≤ bound * 10 ^ places := by
    exact_mod_cast high
  have low' : (0 : ℚ) ≤ mathRound (x * 10 ^ places) := by exact_mod_cast low
  unfold fixedValue
  rw [units]
  exact ⟨div_nonneg low' scale.le, (div_le_iff₀ scale).mpr high'⟩

/-- Values from zero up, no more than a history holds. -/
structure Plottable (values : List ℚ) : Prop where
  short : values.length ≤ historyLen
  nonneg : ∀ value ∈ values, 0 ≤ value

/-- The text of a point gives the two numbers. -/
def Writes (text : String) (place : ℚ × ℚ) : Prop :=
  ∃ x y, text = x ++ "," ++ y ∧ PyText.float .ascii x.toList = .ok place.1 ∧
    PyText.float .ascii y.toList = .ok place.2

/-- The polyline has a point for each value, stays in its box and runs from
left to right. -/
structure Fits (values : List ℚ) : Prop where
  written : ∃ texts, sparkline values = String.intercalate " " texts ∧
    texts.length = values.length ∧
    ∀ i value, values[i]? = some value → ∃ text, texts[i]? = some text ∧
      Writes text (drawn (point values i value))
  inBox : ∀ i value, values[i]? = some value →
    let place := drawn (point values i value)
    0 ≤ place.1 ∧ place.1 ≤ width ∧ 0 ≤ place.2 ∧ place.2 ≤ height
  leftToRight : ∀ i j first second, i < j → values[i]? = some first →
    values[j]? = some second →
      (drawn (point values i first)).1 < (drawn (point values j second)).1

theorem abscissa (values : List ℚ) (i : Nat) (value : ℚ) :
    (point values i value).1 = i * (280 / 29) := by
  have span : max 1 ((historyLen : ℚ) - 1) = 29 := by norm_num [historyLen]
  simp only [point, span, width]
  ring

/-- A point of the polyline before it is written, in its box. -/
theorem point_inBox (values : List ℚ) (plottable : Plottable values) (i : Nat) (value : ℚ)
    (found : values[i]? = some value) :
    (0 ≤ (point values i value).1 ∧ (point values i value).1 ≤ 280) ∧
      0 ≤ (point values i value).2 ∧ (point values i value).2 ≤ 48 := by
  have inside : i < values.length := (List.getElem?_eq_some_iff.mp found).1
  have index : (i : ℚ) ≤ 29 := by
    have short := plottable.short
    have bound : i ≤ 29 := by
      unfold historyLen at short
      omega
    exact_mod_cast bound
  have low : (0 : ℚ) ≤ i := Nat.cast_nonneg i
  have member : value ∈ values := List.mem_of_getElem? found
  have positive : (0 : ℚ) < highest values := lt_of_lt_of_le one_pos (one_le_highest values)
  have share : 0 ≤ value / highest values ∧ value / highest values ≤ 1 :=
    ⟨div_nonneg (plottable.nonneg value member) positive.le,
      (div_le_one positive).mpr (le_highest values value member)⟩
  rw [abscissa]
  refine ⟨⟨by positivity, by linarith⟩, ?_, ?_⟩
  · simp only [point, height]
    linarith [share.2]
  · simp only [point, height]
    linarith [share.1]

/-- The polyline writes where its points are drawn. -/
theorem sparkline_writes (values : List ℚ) (plottable : Plottable values) :
    ∃ texts, sparkline values = String.intercalate " " texts ∧ texts.length = values.length ∧
      ∀ i value, values[i]? = some value → ∃ text, texts[i]? = some text ∧
        Writes text (drawn (point values i value)) := by
  refine ⟨(values.mapIdx (point values)).map pointText, rfl, by simp, ?_⟩
  intro i value found
  obtain ⟨⟨left, _⟩, down, _⟩ := point_inBox values plottable i value found
  refine ⟨pointText (point values i value), ?_, _, _, rfl,
    float_toFixed .ascii 1 _ left, float_toFixed .ascii 1 _ down⟩
  rw [List.getElem?_map, List.getElem?_mapIdx, found]
  rfl

theorem fits_of_plottable (values : List ℚ) (plottable : Plottable values) : Fits values := by
  refine ⟨sparkline_writes values plottable, ?_, ?_⟩
  · intro i value found
    obtain ⟨⟨left, right⟩, down, up⟩ := point_inBox values plottable i value found
    have across := fixedValue_between 1 280 (point values i value).1 left (by exact_mod_cast right)
    have below := fixedValue_between 1 48 (point values i value).2 down (by exact_mod_cast up)
    refine ⟨across.1, ?_, below.1, ?_⟩
    · exact across.2.trans (by norm_num [width])
    · exact below.2.trans (by norm_num [height])
  · intro i j first second before _ _
    have gap : (i : ℚ) + 1 ≤ j := by exact_mod_cast before
    have left := abs_le.mp (fixedValue_error 1 (point values i first).1)
    have right := abs_le.mp (fixedValue_error 1 (point values j second).1)
    rw [abscissa] at left right
    simp only [drawn]
    rw [abscissa, abscissa]
    have leftBound := left.2
    have rightBound := right.1
    norm_num at leftBound rightBound
    linarith

/-! ## Whole sessions -/

def Counting (metrics : MonitorMetrics.Metrics) : Prop :=
  0 ≤ metrics.contextSwitchesPerSec ∧ 0 ≤ metrics.wakeupsPerSec

theorem jitteredCount_nonneg (count : Int) (nonneg : 0 ≤ count) (draw : MonitorMetrics.Draw) :
    0 ≤ MonitorMetrics.jitteredCount count draw := by
  have low := (MonitorMetrics.jitter_bounds draw).1
  have base : (0 : ℚ) ≤ count := by exact_mod_cast nonneg
  have factor : (0 : ℚ) ≤ 1 + MonitorMetrics.jitter draw := by linarith
  unfold MonitorMetrics.jitteredCount
  rw [le_mathRound_iff]
  have product := mul_nonneg base factor
  push_cast
  linarith

/-- A base whose counts are not negative. -/
def Sound (simBase : SimBase) : Prop := 0 ≤ simBase.switches ∧ 0 ≤ simBase.wakeups

theorem simulate_counting (simBase : SimBase) (draws : Draws) (sound : Sound simBase) :
    Counting (simulateMonitorMetrics simBase draws).1 ∧
      Sound (simulateMonitorMetrics simBase draws).2 := by
  have switches := jitteredCount_nonneg simBase.switches sound.1 draws.switches
  have wakeups := jitteredCount_nonneg simBase.wakeups sound.2 draws.wakeups
  refine ⟨⟨?_, ?_⟩, switches, wakeups⟩
  · simp only [simulateMonitorMetrics]
    exact_mod_cast switches
  · simp only [simulateMonitorMetrics]
    exact_mod_cast wakeups

theorem initialMetrics_counting (draws : List Draws) (simBase : SimBase) (sound : Sound simBase) :
    (∀ metrics ∈ (initialMetrics draws simBase).1, Counting metrics) ∧
      Sound (initialMetrics draws simBase).2 := by
  induction draws generalizing simBase with
  | nil => exact ⟨List.forall_mem_nil _, sound⟩
  | cons first rest ih =>
      obtain ⟨counting, next⟩ := simulate_counting simBase first sound
      obtain ⟨later, final⟩ := ih _ next
      exact ⟨List.forall_mem_cons.mpr ⟨counting, later⟩, final⟩

/-- Nothing negative has been received, and nothing will be simulated. -/
structure Proper (session : Session) : Prop where
  received : ∀ reception ∈ session.received, Counting reception.metrics
  base : Sound session.simBase

theorem proper_takeOver (session : Session) (origin : Origin) (metrics : MonitorMetrics.Metrics)
    (proper : Proper session) (counting : Counting metrics) :
    Proper (session.takeOver origin metrics) := by
  refine ⟨fun reception member => ?_, proper.base⟩
  rcases List.mem_append.mp member with old | new
  · exact proper.received reception old
  · rw [List.mem_singleton.mp new]
    exact counting

theorem proper_runEffect (session : Session) (draws : List Draws) (proper : Proper session) :
    Proper (session.runEffect draws) := by
  cases seeds : session.rendered with
  | false =>
      simp only [Session.runEffect, seeds, Bool.false_eq_true, if_false]
      exact ⟨proper.received, proper.base⟩
  | true =>
      obtain ⟨counting, sound⟩ := initialMetrics_counting draws session.simBase proper.base
      simp only [Session.runEffect, seeds, if_true, Session.seedHistories]
      refine ⟨fun reception member => ?_, sound⟩
      rcases List.mem_append.mp member with old | new
      · exact proper.received reception old
      · obtain ⟨metrics, simulated, rfl⟩ := List.mem_map.mp new
        exact counting metrics simulated

theorem proper_after (session : Session) (label : Label) (proper : Proper session)
    (counting : ∀ metrics, label = .message metrics → Counting metrics) :
    Proper (session.after label) := by
  cases label with
  | message metrics => exact proper_takeOver session .live metrics proper (counting metrics rfl)
  | effect draws => exact proper_runEffect session draws.toList proper
  | tick draws =>
      obtain ⟨simulated, sound⟩ := simulate_counting session.simBase draws proper.base
      exact proper_takeOver _ .simulated _ ⟨proper.received, sound⟩ simulated
  | opened => exact ⟨proper.received, proper.base⟩
  | error => exact ⟨proper.received, proper.base⟩
  | close => exact ⟨proper.received, proper.base⟩
  | render => exact ⟨proper.received, proper.base⟩

theorem proper_of_run (labels : List Label) (session : Session)
    (run : monitor.exec labels mounted = some session)
    (counting : ∀ metrics, .message metrics ∈ labels → Counting metrics) : Proper session := by
  refine monitor.history
    (fun earlier state => (∀ metrics, .message metrics ∈ earlier → Counting metrics) →
      Proper state) mounted (fun _ => ⟨List.forall_mem_nil _, by decide, by decide⟩) ?_ labels
      session run counting
  intro earlier state label next _ proper stepped all
  obtain ⟨_, rfl⟩ := (step_eq_some state next label).mp stepped
  refine proper_after state label
    (proper fun metrics member => all metrics (List.mem_append_left _ member)) ?_
  rintro metrics rfl
  exact all metrics (List.mem_append_right _ (List.mem_singleton_self _))

/-- In every session, with live or simulated metrics, both curves stay in
their boxes and run from left to right. -/
theorem curves_fit (labels : List Label) (session : Session)
    (run : monitor.exec labels mounted = some session)
    (counting : ∀ metrics, .message metrics ∈ labels → Counting metrics) :
    Fits session.view.switchesHistory ∧ Fits session.view.wakeupsHistory := by
  have proper := proper_of_run labels session run counting
  have mirrors := mirrors_of_run labels session run
  have histories := histories_of_mirrors session mirrors
  have short := histories.bounded
  constructor
  · refine fits_of_plottable _ ⟨short, fun value member => ?_⟩
    rw [mirrors.switches] at member
    obtain ⟨reception, recent, rfl⟩ := List.mem_map.mp member
    exact (proper.received reception (List.mem_of_mem_drop recent)).1
  · refine fits_of_plottable _ ⟨histories.sameLength ▸ short, fun value member => ?_⟩
    rw [mirrors.wakeups] at member
    obtain ⟨reception, recent, rfl⟩ := List.mem_map.mp member
    exact (proper.received reception (List.mem_of_mem_drop recent)).2

def busyTick : MonitorMetrics.Metrics := ⟨12400, 18600, 50, none, []⟩

def calmTick : MonitorMetrics.Metrics := ⟨3100, 0, 12, none, []⟩

/-- A busy second, a calm one and a busy one again. -/
theorem curves_fit_busyTick : ∃ session,
    monitor.exec [.opened, .message busyTick, .message calmTick, .message busyTick] mounted =
        some session ∧
      session.view.switchesHistory = [12400, 3100, 12400] ∧
      sparkline session.view.switchesHistory = "0.0,0.0 9.7,36.0 19.3,0.0" ∧
      Fits session.view.switchesHistory ∧ Fits session.view.wakeupsHistory := by
  refine ⟨_, rfl, rfl, by decide +kernel,
    curves_fit [.opened, .message busyTick, .message calmTick, .message busyTick] _ rfl ?_⟩
  intro metrics member
  simp only [List.mem_cons, List.not_mem_nil, or_false, reduceCtorEq, false_or,
    Label.message.injEq] at member
  rcases member with rfl | rfl | rfl
  · exact ⟨by norm_num [busyTick], by norm_num [busyTick]⟩
  · exact ⟨by norm_num [calmTick], by norm_num [calmTick]⟩
  · exact ⟨by norm_num [busyTick], by norm_num [busyTick]⟩

end KernelSprint.MonitorFeed

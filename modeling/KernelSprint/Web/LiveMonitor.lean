import KernelSprint.Lib.Window
import KernelSprint.Web.MonitorMetrics

/-!
# The monitor panel

`LiveMonitor` shows the metrics of a socket and falls back to simulated ones.
A session is what the socket, React and the demo timer do in any order from
mount on; a React effect runs some time after the render that calls for it.
-/

set_option autoImplicit false

namespace KernelSprint.LiveMonitor

open Labelled MonitorMetrics Window

def historyLen : Nat := 30

structure View where
  connected : Bool
  demoMode : Bool
  switchesHistory : List ℚ
  wakeupsHistory : List ℚ
  latest : Option Metrics
  deriving DecidableEq

inductive Sock where
  | connecting
  | opened
  /-- The error event was delivered and its close event was not. -/
  | errored
  | closed
  deriving DecidableEq

inductive Origin where
  | live
  | simulated
  deriving DecidableEq

/-- Metrics that the panel took over, and where they came from. -/
structure Reception where
  origin : Origin
  metrics : Metrics
  deriving DecidableEq

/-- `rendered` is the `demoMode` of the last render, `effectRan` the one for
which the demo effect last ran: its interval ticks while that is true.
`received` is everything taken over so far and is read by no code. -/
structure Session where
  view : View
  sock : Sock
  rendered : Bool
  effectRan : Bool
  simBase : SimBase
  received : List Reception
  deriving DecidableEq

inductive Label where
  | opened
  | message (metrics : Metrics)
  | error
  | close
  | render
  /-- The demo effect; the draws are used when it seeds the histories. -/
  | effect (draws : Vector Draws historyLen)
  | tick (draws : Draws)

def mounted : Session :=
  ⟨⟨false, false, [], [], none⟩, .connecting, false, false, simBase, []⟩

/-- The `demoMode` of the first render, which the socket's callbacks close
over. -/
def capturedDemoMode : Bool := false

/-- `(h) => [...h.slice(-(HISTORY_LEN - 1)), value]` -/
def pushHistory (history : List ℚ) (value : ℚ) : List ℚ :=
  history.rtake (historyLen - 1) ++ [value]

/-- What a message and a tick of the interval set. -/
def View.take (view : View) (metrics : Metrics) : View :=
  { view with
    latest := some metrics
    switchesHistory := pushHistory view.switchesHistory metrics.contextSwitchesPerSec
    wakeupsHistory := pushHistory view.wakeupsHistory metrics.wakeupsPerSec }

def View.onopen (view : View) : View :=
  { view with connected := true, demoMode := false }

def View.onerror (view : View) : View :=
  { view with demoMode := true, connected := true }

def View.onclose (view : View) : View :=
  if ¬ capturedDemoMode then { view with connected := false } else view

/-- What the demo effect sets from its initial metrics. -/
def View.seed (view : View) (initial : List Metrics) : View :=
  { view with
    switchesHistory := initial.map Metrics.contextSwitchesPerSec
    wakeupsHistory := initial.map Metrics.wakeupsPerSec
    latest := initial.getLast? }

/-- The loop that seeds: one call for each draw. -/
def initialMetrics : List Draws → SimBase → List Metrics × SimBase
  | [], simBase => ([], simBase)
  | draws :: rest, simBase =>
      let (metrics, simBase) := simulateMonitorMetrics simBase draws
      let (later, simBase) := initialMetrics rest simBase
      (metrics :: later, simBase)

def Session.takeOver (session : Session) (origin : Origin) (metrics : Metrics) : Session :=
  { session with
    view := session.view.take metrics
    received := session.received ++ [⟨origin, metrics⟩] }

def Session.seedHistories (session : Session) (draws : List Draws) : Session :=
  let (initial, simBase) := initialMetrics draws session.simBase
  { session with
    view := session.view.seed initial
    simBase := simBase
    received := session.received ++ initial.map (⟨.simulated, ·⟩) }

def Session.runEffect (session : Session) (draws : List Draws) : Session :=
  let seeded := if session.rendered then session.seedHistories draws else session
  { seeded with effectRan := session.rendered }

/-- The interval, when it is set, calls `simulateMonitorMetrics` once. -/
def Session.fireInterval (session : Session) (draws : Draws) : Session :=
  let (metrics, simBase) := simulateMonitorMetrics session.simBase draws
  { session with simBase := simBase }.takeOver .simulated metrics

/-- When a step may happen: the events of a standard socket come in the order
of its phases, and the effects of a render run before the next render. -/
def Session.Allows (session : Session) : Label → Prop
  | .opened => session.sock = .connecting
  | .message _ => session.sock = .opened
  | .error => session.sock = .connecting ∨ session.sock = .opened
  | .close => session.sock = .opened ∨ session.sock = .errored
  | .render => session.rendered = session.effectRan
  | .effect _ => session.rendered ≠ session.effectRan
  | .tick _ => session.effectRan = true

instance (session : Session) : (label : Label) → Decidable (session.Allows label)
  | .opened => inferInstanceAs (Decidable (session.sock = .connecting))
  | .message _ => inferInstanceAs (Decidable (session.sock = .opened))
  | .error => inferInstanceAs (Decidable (session.sock = .connecting ∨ session.sock = .opened))
  | .close => inferInstanceAs (Decidable (session.sock = .opened ∨ session.sock = .errored))
  | .render => inferInstanceAs (Decidable (session.rendered = session.effectRan))
  | .effect _ => inferInstanceAs (Decidable (session.rendered ≠ session.effectRan))
  | .tick _ => inferInstanceAs (Decidable (session.effectRan = true))

/-- What the callback, React or the timer does. -/
def Session.after (session : Session) : Label → Session
  | .opened => { session with view := session.view.onopen, sock := .opened }
  | .message metrics => session.takeOver .live metrics
  -- `ws.close()` changes nothing on a socket that has failed
  | .error => { session with view := session.view.onerror, sock := .errored }
  | .close => { session with view := session.view.onclose, sock := .closed }
  | .render => { session with rendered := session.view.demoMode }
  | .effect draws => session.runEffect draws.toList
  | .tick draws => session.fireInterval draws

def step (session : Session) (label : Label) : Option Session :=
  if session.Allows label then some (session.after label) else none

def monitor : Machine Session Label := ⟨step⟩

theorem step_eq_some (session next : Session) (label : Label) :
    monitor.step session label = some next ↔
      session.Allows label ∧ session.after label = next := by
  change (if session.Allows label then some (session.after label) else none) = some next ↔ _
  rw [Option.ite_none_right_eq_some, Option.some.injEq]

/-! ## The histories -/

/-- The view shows the end of what was received. -/
structure Mirrors (session : Session) : Prop where
  switches : session.view.switchesHistory =
    (session.received.rtake historyLen).map (·.metrics.contextSwitchesPerSec)
  wakeups : session.view.wakeupsHistory =
    (session.received.rtake historyLen).map (·.metrics.wakeupsPerSec)
  latest : session.view.latest = session.received.getLast?.map Reception.metrics

theorem pushHistory_eq (history : List ℚ) (value : ℚ) :
    pushHistory history value = slide historyLen history value := rfl

theorem takeOver_mirrors (session : Session) (origin : Origin) (metrics : Metrics)
    (mirrors : Mirrors session) : Mirrors (session.takeOver origin metrics) := by
  refine ⟨?_, ?_, ?_⟩
  · change pushHistory session.view.switchesHistory metrics.contextSwitchesPerSec = _
    rw [pushHistory_eq, mirrors.switches, map_rtake, slide_rtake _ (by decide), map_rtake]
    simp [Session.takeOver]
  · change pushHistory session.view.wakeupsHistory metrics.wakeupsPerSec = _
    rw [pushHistory_eq, mirrors.wakeups, map_rtake, slide_rtake _ (by decide), map_rtake]
    simp [Session.takeOver]
  · simp [Session.takeOver, View.take]

theorem initialMetrics_length (draws : List Draws) (simBase : SimBase) :
    (initialMetrics draws simBase).1.length = draws.length := by
  induction draws generalizing simBase with
  | nil => rfl
  | cons first rest ih =>
      change (initialMetrics rest _).1.length + 1 = rest.length + 1
      rw [ih]

/-- Seeding replaces the whole window. -/
theorem runEffect_recent (session : Session) (draws : Vector Draws historyLen)
    (seeds : session.rendered = true) :
    ∃ initial : List Metrics,
      (session.runEffect draws.toList).received.rtake historyLen =
        initial.map (⟨.simulated, ·⟩) ∧
      (session.runEffect draws.toList).view = session.view.seed initial := by
  let initial := (initialMetrics draws.toList session.simBase).1
  have length : initial.length = historyLen := by
    rw [initialMetrics_length, Vector.length_toList]
  have received : (session.runEffect draws.toList).received =
      session.received ++ initial.map (⟨.simulated, ·⟩) := by
    simp [Session.runEffect, Session.seedHistories, seeds, initial]
  have replaced := rtake_append session.received
    (initial.map fun metrics => (⟨.simulated, metrics⟩ : Reception))
  rw [List.length_map, length] at replaced
  refine ⟨initial, received ▸ replaced, ?_⟩
  simp [Session.runEffect, Session.seedHistories, seeds, initial]

theorem runEffect_mirrors (session : Session) (draws : Vector Draws historyLen)
    (mirrors : Mirrors session) : Mirrors (session.runEffect draws.toList) := by
  by_cases seeds : session.rendered = true
  · obtain ⟨initial, recent, view⟩ := runEffect_recent session draws seeds
    refine ⟨?_, ?_, ?_⟩
    · rw [recent, view, List.map_map]
      rfl
    · rw [recent, view, List.map_map]
      rfl
    · have whole := getLast?_rtake historyLen (by decide)
        (session.runEffect draws.toList).received
      rw [← whole, recent, view, List.getLast?_map, Option.map_map]
      exact Option.map_id'.symm
  · simp only [Session.runEffect, seeds]
    exact ⟨mirrors.switches, mirrors.wakeups, mirrors.latest⟩

theorem after_mirrors (session : Session) (label : Label) (mirrors : Mirrors session) :
    Mirrors (session.after label) := by
  cases label with
  | message metrics => exact takeOver_mirrors session .live metrics mirrors
  | effect draws => exact runEffect_mirrors session draws mirrors
  | tick draws =>
      refine takeOver_mirrors _ .simulated _ ?_
      exact ⟨mirrors.switches, mirrors.wakeups, mirrors.latest⟩
  | opened => exact ⟨mirrors.switches, mirrors.wakeups, mirrors.latest⟩
  | error => exact ⟨mirrors.switches, mirrors.wakeups, mirrors.latest⟩
  | close => exact ⟨mirrors.switches, mirrors.wakeups, mirrors.latest⟩
  | render => exact ⟨mirrors.switches, mirrors.wakeups, mirrors.latest⟩

/-- Both histories are the most recent values received, in order, and end with
the counts of the latest metrics. -/
structure Histories (session : Session) : Prop where
  sameLength : session.view.switchesHistory.length = session.view.wakeupsHistory.length
  bounded : session.view.switchesHistory.length ≤ historyLen
  mirrors : Mirrors session
  ends : ∀ metrics, session.view.latest = some metrics →
    session.view.switchesHistory.getLast? = some metrics.contextSwitchesPerSec ∧
      session.view.wakeupsHistory.getLast? = some metrics.wakeupsPerSec

theorem histories_of_mirrors (session : Session) (mirrors : Mirrors session) :
    Histories session := by
  refine ⟨?_, ?_, mirrors, ?_⟩
  · rw [mirrors.switches, mirrors.wakeups, List.length_map, List.length_map]
  · rw [mirrors.switches, List.length_map]
    exact length_rtake_le historyLen session.received
  · intro metrics latest
    rw [mirrors.latest] at latest
    obtain ⟨last, found, rfl⟩ := Option.map_eq_some_iff.mp latest
    rw [mirrors.switches, mirrors.wakeups, List.getLast?_map, List.getLast?_map,
      getLast?_rtake historyLen (by decide), found]
    exact ⟨rfl, rfl⟩

/-! ## The demo mode -/

/-- Both histories hold simulated values. -/
def SimulatedOnly (session : Session) : Prop :=
  ∀ reception ∈ session.received.rtake historyLen, reception.origin = .simulated

/-- The step seeds the demo mode. -/
def Seeds (session : Session) (label : Label) (_ : Session) : Prop :=
  session.rendered = true ∧ ∃ draws, label = .effect draws

/-- The socket delivers no further message. -/
def Over (session : Session) : Prop := session.sock = .errored ∨ session.sock = .closed

theorem takeOver_simulatedOnly (session : Session) (metrics : Metrics)
    (simulated : SimulatedOnly session) :
    SimulatedOnly (session.takeOver .simulated metrics) := by
  intro reception member
  change reception ∈ (session.received ++ [_]).rtake historyLen at member
  rw [← slide_rtake historyLen (by decide)] at member
  rcases mem_slide member with old | rfl
  · exact simulated reception old
  · rfl

theorem runEffect_simulatedOnly (session : Session) (draws : Vector Draws historyLen)
    (seeds : session.rendered = true) : SimulatedOnly (session.runEffect draws.toList) := by
  obtain ⟨initial, recent, _⟩ := runEffect_recent session draws seeds
  intro reception member
  rw [recent] at member
  obtain ⟨metrics, _, rfl⟩ := List.mem_map.mp member
  rfl

section Effect

variable (session : Session) (draws : List Draws)

@[simp] theorem runEffect_sock : (session.runEffect draws).sock = session.sock := by
  cases seeds : session.rendered <;>
    simp [Session.runEffect, Session.seedHistories, View.seed, seeds]

@[simp] theorem runEffect_rendered :
    (session.runEffect draws).rendered = session.rendered := by
  cases seeds : session.rendered <;>
    simp [Session.runEffect, Session.seedHistories, View.seed, seeds]

@[simp] theorem runEffect_effectRan :
    (session.runEffect draws).effectRan = session.rendered := by
  cases seeds : session.rendered <;>
    simp [Session.runEffect, Session.seedHistories, View.seed, seeds]

@[simp] theorem runEffect_connected :
    (session.runEffect draws).view.connected = session.view.connected := by
  cases seeds : session.rendered <;>
    simp [Session.runEffect, Session.seedHistories, View.seed, seeds]

@[simp] theorem runEffect_demoMode :
    (session.runEffect draws).view.demoMode = session.view.demoMode := by
  cases seeds : session.rendered <;>
    simp [Session.runEffect, Session.seedHistories, View.seed, seeds]

end Effect

/-- What the phase of the socket says about the rest. -/
structure Phase (session : Session) : Prop where
  alive : ¬ Over session →
    session.view.demoMode = false ∧ session.rendered = false ∧ session.effectRan = false
  errored : session.sock = .errored →
    session.view.demoMode = true ∧ session.view.connected = true
  closed : session.sock = .closed → session.view.connected = false

theorem after_phase (session : Session) (label : Label) (phase : Phase session)
    (allowed : session.Allows label) : Phase (session.after label) := by
  obtain ⟨alive, errored, closed⟩ := phase
  cases label with
  | opened =>
      have waiting : session.sock = .connecting := allowed
      obtain ⟨_, rendered, effectRan⟩ := alive (by simp [Over, waiting])
      exact ⟨fun _ => ⟨rfl, rendered, effectRan⟩, nofun, nofun⟩
  | message metrics => exact ⟨alive, errored, closed⟩
  | error => exact ⟨fun going => absurd (.inl rfl) going, fun _ => ⟨rfl, rfl⟩, nofun⟩
  | close => exact ⟨fun going => absurd (.inr rfl) going, nofun, fun _ => rfl⟩
  | render =>
      refine ⟨fun going => ?_, errored, closed⟩
      obtain ⟨demoMode, _, effectRan⟩ := alive going
      exact ⟨demoMode, demoMode, effectRan⟩
  | effect draws =>
      refine ⟨fun going => ?_, ?_, ?_⟩
      · simp only [Session.after, Over, runEffect_sock] at going
        obtain ⟨demoMode, rendered, _⟩ := alive going
        simp [Session.after, demoMode, rendered]
      · simpa [Session.after] using errored
      · simpa [Session.after] using closed
  | tick draws => exact ⟨alive, errored, closed⟩

/-! ## Whole sessions -/

/-- Once the socket has failed and the histories are simulated, they stay so. -/
theorem after_simulatedOnly (session : Session) (label : Label)
    (gone : Over session) (simulated : SimulatedOnly session)
    (allowed : session.Allows label) :
    Over (session.after label) ∧ SimulatedOnly (session.after label) := by
  have ended : session.sock ≠ .connecting ∧ session.sock ≠ .opened := by
    rcases gone with errored | closed
    · rw [errored]
      decide
    · rw [closed]
      decide
  cases label with
  | opened => exact absurd allowed ended.1
  | message metrics => exact absurd allowed ended.2
  | error => exact absurd allowed (not_or.mpr ended)
  | close => exact ⟨.inr rfl, simulated⟩
  | render => exact ⟨gone, simulated⟩
  | effect draws =>
      refine ⟨by simpa [Over, Session.after] using gone, ?_⟩
      by_cases seeds : session.rendered = true
      · exact runEffect_simulatedOnly session draws seeds
      · simp only [Session.after, Session.runEffect, seeds]
        exact simulated
  | tick draws => exact ⟨gone, takeOver_simulatedOnly _ _ simulated⟩

/-- Once all socket events that were fired have been handled, a panel in demo
mode shows itself connected. -/
def Connected (session : Session) : Prop :=
  session.view.demoMode = true → session.sock ≠ .errored → session.view.connected = true

theorem mounted_phase : Phase mounted := ⟨fun _ => ⟨rfl, rfl, rfl⟩, nofun, nofun⟩

theorem mounted_mirrors : Mirrors mounted := ⟨rfl, rfl, rfl⟩

theorem phase_of_run (labels : List Label) (session : Session)
    (run : monitor.exec labels mounted = some session) : Phase session := by
  refine monitor.invariant_of_exec Phase ?_ labels mounted session mounted_phase run
  intro state label next phase stepped
  obtain ⟨allowed, rfl⟩ := (step_eq_some state next label).mp stepped
  exact after_phase state label phase allowed

/-- What the state remembers of the events of a run. -/
def Remembers (labels : List Label) (session : Session) : Prop :=
  (session.view.demoMode = true ↔ .error ∈ labels) ∧
    (session.sock = .closed ↔ .close ∈ labels)

theorem after_remembers (labels : List Label) (session : Session) (label : Label)
    (phase : Phase session) (remembers : Remembers labels session)
    (allowed : session.Allows label) :
    Remembers (labels ++ [label]) (session.after label) := by
  obtain ⟨failed, closed⟩ := remembers
  unfold Remembers
  simp only [List.mem_append, List.mem_singleton]
  cases label with
  | opened =>
      have waiting : session.sock = .connecting := allowed
      obtain ⟨demoMode, _⟩ := phase.alive (by simp [Over, waiting])
      rw [demoMode] at failed
      rw [waiting] at closed
      simpa [Session.after, View.onopen] using And.intro failed closed
  | message metrics =>
      simpa [Session.after, Session.takeOver, View.take] using And.intro failed closed
  | error =>
      have going : session.sock ≠ .closed := by
        rcases allowed with waiting | opened
        · simp [waiting]
        · simp [opened]
      simpa [Session.after, View.onerror] using mt closed.mpr going
  | close =>
      simpa [Session.after, View.onclose, capturedDemoMode] using failed
  | render => simpa [Session.after] using And.intro failed closed
  | effect draws => simpa [Session.after] using And.intro failed closed
  | tick draws =>
      simpa [Session.after, Session.fireInterval, Session.takeOver, View.take]
        using And.intro failed closed

theorem remembers_of_run (labels : List Label) (session : Session)
    (run : monitor.exec labels mounted = some session) : Remembers labels session := by
  refine monitor.history Remembers mounted ?_ ?_ labels session run
  · simp [Remembers, mounted]
  · intro earlier state label next reached remembers stepped
    obtain ⟨allowed, rfl⟩ := (step_eq_some state next label).mp stepped
    exact after_remembers earlier state label (phase_of_run earlier state reached) remembers
      allowed

/-- A session in demo mode looks disconnected exactly when the close event of
the failed socket has come. -/
theorem connected_iff (labels : List Label) (session : Session)
    (run : monitor.exec labels mounted = some session) :
    Connected session ↔ ¬ (.error ∈ labels ∧ .close ∈ labels) := by
  have phase := phase_of_run labels session run
  obtain ⟨failed, closed⟩ := remembers_of_run labels session run
  rw [← failed, ← closed, not_and]
  unfold Connected
  constructor
  · intro shown demoMode ended
    have off := phase.closed ended
    rw [shown demoMode (by simp [ended])] at off
    cases off
  · intro apart demoMode handled
    exfalso
    by_cases gone : Over session
    · exact apart demoMode (gone.resolve_left handled)
    · rw [(phase.alive gone).1] at demoMode
      cases demoMode

theorem histories_throughout (labels : List Label) :
    monitor.Throughout Histories labels mounted := by
  refine monitor.throughout_of_invariant Mirrors Histories ?_ histories_of_mirrors labels
    mounted mounted_mirrors
  intro session label next mirrors stepped
  obtain ⟨_, rfl⟩ := (step_eq_some session next label).mp stepped
  exact after_mirrors session label mirrors

theorem simulated_henceforth (labels : List Label) :
    monitor.Henceforth Seeds (fun _ later => SimulatedOnly later) labels mounted := by
  refine monitor.henceforth_of_along (fun _ later => Over later ∧ SimulatedOnly later)
    (fun session _ _ => Phase session)
    Seeds _ ?_ ?_ (fun _ _ stable => stable.2) labels mounted ?_
  · rintro session label next phase ⟨rendered, draws, rfl⟩ stepped
    obtain ⟨allowed, rfl⟩ := (step_eq_some session next _).mp stepped
    refine ⟨?_, runEffect_simulatedOnly session draws rendered⟩
    by_contra going
    have alive := phase.alive (by simpa [Over, Session.after] using going)
    rw [alive.2.1] at rendered
    cases rendered
  · rintro _ session label next ⟨gone, simulated⟩ stepped
    obtain ⟨allowed, rfl⟩ := (step_eq_some session next label).mp stepped
    exact after_simulatedOnly session label gone simulated allowed
  · refine monitor.along_of_reachable _ mounted ?_ labels
    intro earlier state label next reached stepped
    exact phase_of_run earlier state reached

/-- A session keeps all three promises exactly when no close event followed an
error; the histories keep theirs in every session. -/
theorem monitor_session (labels : List Label) (final : Session)
    (run : monitor.exec labels mounted = some final) :
    (monitor.Throughout Connected labels mounted ∧
        monitor.Henceforth Seeds (fun _ later => SimulatedOnly later) labels mounted ∧
          monitor.Throughout Histories labels mounted ↔
      ¬ (.error ∈ labels ∧ .close ∈ labels)) ∧
    monitor.Henceforth Seeds (fun _ later => SimulatedOnly later) labels mounted ∧
      monitor.Throughout Histories labels mounted := by
  have connected := monitor.throughout_iff_of_history Connected
    (fun labels => ¬ (.error ∈ labels ∧ .close ∈ labels)) mounted connected_iff
    (fun earlier label few both => few (both.imp (List.mem_append_left _) (List.mem_append_left _)))
    labels final run
  refine ⟨?_, simulated_henceforth labels, histories_throughout labels⟩
  rw [← connected]
  exact ⟨And.left, fun shown =>
    ⟨shown, simulated_henceforth labels, histories_throughout labels⟩⟩

def steadyDraw : MonitorMetrics.Draw := ⟨1 / 2, by norm_num, by norm_num⟩

def steadyDraws : Draws := ⟨steadyDraw, steadyDraw, steadyDraw, steadyDraw⟩

/-- A message, the error, the histories seeded and two ticks. -/
def failing : List Label :=
  [.opened, .message ⟨5, 7, 50, none, []⟩, .error, .render,
    .effect (Vector.replicate historyLen steadyDraws), .tick steadyDraws, .render,
    .tick steadyDraws]

theorem monitor_session_failing :
    (monitor.exec failing mounted).isSome = true ∧
      monitor.Throughout Connected failing mounted ∧
        monitor.Henceforth Seeds (fun _ later => SimulatedOnly later) failing mounted ∧
          monitor.Throughout Histories failing mounted := by
  refine ⟨rfl, (monitor_session failing _ rfl).1.mpr ?_⟩
  simp [failing]

/-- The backend is not there: the error sets the demo mode and the close event
that follows takes the connection away. -/
theorem demo_mode_disconnected :
    ∃ final, monitor.exec [.error, .close] mounted = some final ∧
      final.view.demoMode = true ∧ final.sock = .closed ∧ final.view.connected = false ∧
        ¬ monitor.Throughout Connected [.error, .close] mounted := by
  refine ⟨_, rfl, rfl, rfl, rfl, ?_⟩
  intro throughout
  have last := monitor.throughout_final Connected _ _ _ rfl throughout
  exact absurd (last rfl nofun) nofun

end KernelSprint.LiveMonitor

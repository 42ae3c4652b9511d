import KernelSprint.Web.MonitorFeed

/-!
# The kernel workflow

`RealKernelWorkflow` moves a highlight through six stages: one step for each
message of the monitor socket, and after an error or two seconds without a
connection one step for each tick of a timer.
-/

set_option autoImplicit false

namespace KernelSprint.RealKernelWorkflow

open Labelled Pairing

def stages : List String :=
  ["PROCESS CREATED", "SYSTEM CALL ENTERED", "KERNEL HANDLER RUNNING", "SCHEDULER DECISION",
    "CONTEXT SWITCH", "CPU EXECUTION"]

/-- The part of a message that the component reads. -/
structure Metrics where
  contextSwitchesPerSec : ℚ
  wakeupsPerSec : ℚ
  deriving DecidableEq

structure View where
  connected : Bool
  active : Nat
  latest : Option Metrics
  demoMode : Bool
  deriving DecidableEq

inductive Sock where
  | connecting
  | opened
  /-- Closed before it was open: an error event and a close event will come. -/
  | closing
  | errored
  | closed
  deriving DecidableEq

/-- `fallback` says whether the timer of two seconds is pending, `rendered` is
the `demoMode` of the last render, and `effectRan` the one for which the effect
last ran: its interval ticks while that is true. -/
structure Session where
  view : View
  sock : Sock
  fallback : Bool
  rendered : Bool
  effectRan : Bool
  deriving DecidableEq

inductive Label where
  | fallback
  | opened
  | message (metrics : Metrics)
  | error
  | close
  | render
  | effect
  | tick
  deriving DecidableEq

def mounted : Session := ⟨⟨false, 0, none, false⟩, .connecting, true, false, false⟩

/-- What the socket's callbacks close over. -/
def capturedDemoMode : Bool := false

def simulatedTelemetry : Metrics := ⟨12400, 18600⟩

/-- `setActive((a) => (a + 1) % STAGES.length)` -/
def View.advance (view : View) : View :=
  { view with active := (view.active + 1) % stages.length }

/-- What the fallback and `onerror` set. -/
def View.simulate (view : View) : View :=
  { view with demoMode := true, connected := true, latest := some simulatedTelemetry }

def View.onclose (view : View) : View :=
  if ¬ capturedDemoMode then { view with connected := false } else view

/-- When a step may happen: the events of a standard socket come in the order
of its phases, and the effects of a render run before the next render. -/
def Session.Allows (session : Session) : Label → Prop
  | .fallback => session.fallback = true
  | .opened => session.sock = .connecting
  | .message _ => session.sock = .opened
  | .error => session.sock = .connecting ∨ session.sock = .opened ∨ session.sock = .closing
  | .close => session.sock = .opened ∨ session.sock = .errored
  | .render => session.rendered = session.effectRan
  | .effect => session.rendered ≠ session.effectRan
  | .tick => session.effectRan = true

instance (session : Session) : (label : Label) → Decidable (session.Allows label)
  | .fallback => inferInstanceAs (Decidable (session.fallback = true))
  | .opened => inferInstanceAs (Decidable (session.sock = .connecting))
  | .message _ => inferInstanceAs (Decidable (session.sock = .opened))
  | .error => inferInstanceAs
      (Decidable (session.sock = .connecting ∨ session.sock = .opened ∨ session.sock = .closing))
  | .close => inferInstanceAs (Decidable (session.sock = .opened ∨ session.sock = .errored))
  | .render => inferInstanceAs (Decidable (session.rendered = session.effectRan))
  | .effect => inferInstanceAs (Decidable (session.rendered ≠ session.effectRan))
  | .tick => inferInstanceAs (Decidable (session.effectRan = true))

/-- `ws.close()`: what it does to a socket in this phase. -/
def Sock.close : Sock → Sock
  | .connecting => .closing
  | sock => sock

/-- What a callback, React or a timer does. -/
def Session.after (session : Session) : Label → Session
  | .fallback =>
      { session with
        view := session.view.simulate, sock := session.sock.close, fallback := false }
  | .opened =>
      { session with
        view := { session.view with connected := true }, sock := .opened, fallback := false }
  | .message metrics =>
      { session with
        view := { session.view with latest := some metrics }.advance, fallback := false }
  -- the socket has failed by now, and closing it again changes nothing
  | .error => { session with view := session.view.simulate, sock := .errored, fallback := false }
  | .close => { session with view := session.view.onclose, sock := .closed }
  | .render => { session with rendered := session.view.demoMode }
  | .effect => { session with effectRan := session.rendered }
  | .tick => { session with view := session.view.advance }

def step (session : Session) (label : Label) : Option Session :=
  if session.Allows label then some (session.after label) else none

def workflow : Machine Session Label := ⟨step⟩

theorem step_eq_some (session next : Session) (label : Label) :
    workflow.step session label = some next ↔
      session.Allows label ∧ session.after label = next := by
  change (if session.Allows label then some (session.after label) else none) = some next ↔ _
  rw [Option.ite_none_right_eq_some, Option.some.injEq]

/-! ## The screen -/

/-- Every stage with whether it is highlighted; a figure that is missing is
shown as a dash. -/
inductive Screen where
  | connecting
  | workflow (rows : List (String × Bool)) (figures : Option Metrics)
  deriving DecidableEq

def rows (active : Nat) : List (String × Bool) :=
  stages.mapIdx fun i stage => (stage, active == i)

def View.screen (view : View) : Screen :=
  if ¬ view.connected ∧ view.latest = none then .connecting
  else .workflow (rows view.active) view.latest

/-! ## What has come so far -/

/-- What a session has seen: the messages in order, how often the timer has
ticked, and whether the other events have come. -/
structure Seen where
  messages : List Metrics
  ticks : Nat
  /-- The fallback or an error has put the component into demo mode. -/
  simulated : Bool
  opened : Bool
  closed : Bool

def messages (labels : List Label) : List Metrics :=
  labels.filterMap fun
    | .message metrics => some metrics
    | _ => none

def seen (labels : List Label) : Seen where
  messages := messages labels
  ticks := labels.count .tick
  simulated := decide (.fallback ∈ labels ∨ .error ∈ labels)
  opened := decide (.opened ∈ labels)
  closed := decide (.close ∈ labels)

def Seen.add (seen : Seen) : Label → Seen
  | .fallback => { seen with simulated := true }
  | .opened => { seen with opened := true }
  | .message metrics => { seen with messages := seen.messages ++ [metrics] }
  | .error => { seen with simulated := true }
  | .close => { seen with closed := true }
  | .render => seen
  | .effect => seen
  | .tick => { seen with ticks := seen.ticks + 1 }

theorem seen_concat (labels : List Label) (label : Label) :
    seen (labels ++ [label]) = (seen labels).add label := by
  have arrived : messages (labels ++ [label]) = messages labels ++ messages [label] :=
    List.filterMap_append
  unfold seen
  rw [arrived, List.count_append]
  cases label <;> simp [messages, Seen.add]

/-- The figures to show. -/
def Seen.figures (seen : Seen) : Option Metrics :=
  if seen.simulated then some simulatedTelemetry else seen.messages.getLast?

theorem figures_live (seen : Seen) (live : seen.simulated = false) :
    seen.figures = seen.messages.getLast? := by
  rw [Seen.figures, live]
  rfl

def Seen.advances (seen : Seen) : Nat := seen.messages.length + seen.ticks

/-- The state agrees with what has been seen. -/
structure Follows (seen : Seen) (session : Session) : Prop where
  stage : session.view.active = seen.advances % stages.length
  latest : session.view.latest = seen.figures
  demoMode : session.view.demoMode = seen.simulated
  connected : seen.simulated = false →
    session.view.connected = (seen.opened && !seen.closed)
  pending : session.fallback = true → session.sock = .connecting
  effectRan : session.effectRan = true → session.rendered = true
  rendered : session.rendered = true → seen.simulated = true
  waiting : session.sock = .connecting →
    seen.simulated = false ∧ seen.opened = false ∧ seen.closed = false
  running : session.sock = .opened →
    seen.simulated = false ∧ seen.opened = true ∧ seen.closed = false
  failing : session.sock = .closing ∨ session.sock = .errored → seen.simulated = true
  ended : session.sock = .closed ↔ seen.closed = true
  ticking : seen.ticks ≠ 0 → seen.simulated = true

theorem follows_mounted : Follows (seen []) mounted where
  stage := rfl
  latest := rfl
  demoMode := rfl
  connected := fun _ => rfl
  pending := fun _ => rfl
  effectRan := nofun
  rendered := nofun
  waiting := fun _ => ⟨rfl, rfl, rfl⟩
  running := nofun
  failing := by simp [mounted]
  ended := by simp [mounted, seen]
  ticking := nofun

section Steps

variable (seen : Seen) (session : Session) (follows : Follows seen session)

include follows

theorem advance_stage : session.view.advance.active = (seen.advances + 1) % stages.length := by
  change (session.view.active + 1) % _ = _
  rw [follows.stage, Nat.mod_add_mod]

/-- The fallback and an error do the same, with the socket in a phase of its
own. -/
theorem follows_simulate (sock : Sock) (failed : sock = .closing ∨ sock = .errored)
    (alive : session.sock ≠ .closed) :
    Follows { seen with simulated := true }
      { session with view := session.view.simulate, sock := sock, fallback := false } where
  stage := follows.stage
  latest := rfl
  demoMode := rfl
  connected := nofun
  pending := nofun
  effectRan := follows.effectRan
  rendered := fun _ => rfl
  waiting := by
    rintro rfl
    simp at failed
  running := by
    rintro rfl
    simp at failed
  failing := fun _ => rfl
  ended := by
    have open_ : seen.closed ≠ true := mt follows.ended.mpr alive
    have phase : sock ≠ .closed := by
      rcases failed with rfl | rfl <;> simp
    exact iff_of_false phase open_
  ticking := fun _ => rfl

theorem follows_after (label : Label) (allowed : session.Allows label) :
    Follows (seen.add label) (session.after label) := by
  cases label with
  | fallback =>
      have waits : session.sock = .connecting := follows.pending allowed
      refine follows_simulate seen session follows _ (Or.inl ?_) (by simp [waits])
      rw [waits]
      rfl
  | error =>
      refine follows_simulate seen session follows .errored (Or.inr rfl) fun closed => ?_
      rw [Session.Allows, closed] at allowed
      simp at allowed
  | opened =>
      obtain ⟨live, _, unclosed⟩ := follows.waiting allowed
      exact { follows with
        connected := fun _ => by simp [Seen.add, Session.after, unclosed]
        pending := nofun
        waiting := nofun
        running := fun _ => ⟨live, rfl, unclosed⟩
        failing := nofun
        ended := iff_of_false nofun (by simp [Seen.add, unclosed]) }
  | message metrics =>
      obtain ⟨live, opened, unclosed⟩ := follows.running allowed
      exact { follows with
        stage := by
          refine (advance_stage seen session follows).trans ?_
          simp only [Seen.add, Seen.advances, List.length_append, List.length_singleton]
          congr 1
          omega
        latest := by simp [Seen.add, Seen.figures, live, Session.after, View.advance]
        pending := nofun }
  | close =>
      have phase : session.sock ≠ .connecting := fun waits => by
        rw [Session.Allows, waits] at allowed
        simp at allowed
      exact { follows with
        connected := fun _ => by
          simp [Seen.add, Session.after, View.onclose, capturedDemoMode]
        pending := fun pending => absurd (follows.pending pending) phase
        waiting := nofun
        running := nofun
        failing := nofun
        ended := iff_of_true rfl rfl }
  | render =>
      exact { follows with
        effectRan := fun ran => follows.demoMode.trans (follows.rendered (follows.effectRan ran))
        rendered := fun shown => follows.demoMode.symm.trans shown }
  | effect =>
      exact { follows with effectRan := id }
  | tick =>
      have simulated := follows.rendered (follows.effectRan allowed)
      exact { follows with
        stage := advance_stage seen session follows
        ticking := fun _ => simulated }

end Steps

theorem follows_of_run (labels : List Label) (session : Session)
    (run : workflow.exec labels mounted = some session) : Follows (seen labels) session := by
  refine workflow.history (fun labels => Follows (seen labels)) mounted follows_mounted ?_
    labels session run
  intro earlier state label next _ follows stepped
  obtain ⟨allowed, rfl⟩ := (step_eq_some state next label).mp stepped
  rw [seen_concat]
  exact follows_after (seen earlier) state follows label allowed

/-! ## What the screen shows -/

/-- A dict after `send_json` and `JSON.parse`. -/
def decode (metrics : StreamMetrics.Metrics) : Metrics :=
  ⟨metrics.contextSwitchesPerSec, metrics.wakeupsPerSec⟩

def ofPair (pair : Nat × Nat) : Metrics := ⟨pair.1, pair.2⟩

/-- The figures, from the pairs that bpftrace has printed. -/
def shownFigures (pairs : List (Nat × Nat)) (seen : Seen) : Option Metrics :=
  if seen.simulated then some simulatedTelemetry
  else (pairs.take seen.messages.length).getLast?.map ofPair

/-- The screen, from the pairs that bpftrace has printed. -/
def shownScreen (pairs : List (Nat × Nat)) (seen : Seen) : Screen :=
  if (seen.opened = true → seen.closed = true) ∧ shownFigures pairs seen = none then .connecting
  else .workflow (rows (seen.advances % stages.length)) (shownFigures pairs seen)

theorem screen_of_follows (seen : Seen) (session : Session) (follows : Follows seen session)
    (pairs : List (Nat × Nat)) (figures : shownFigures pairs seen = seen.figures) :
    session.view.screen = shownScreen pairs seen := by
  unfold View.screen shownScreen
  rw [figures, follows.latest, follows.stage]
  cases simulated : seen.simulated with
  | true => simp [Seen.figures, simulated]
  | false =>
      rw [follows.connected simulated]
      cases seen.opened <;> cases seen.closed <;> simp

section Feed

variable (db : PyText.CharDb) (sending : List MonitorSocket.Label)
  (conn : MonitorSocket.Connection)
  (sent : (MonitorSocket.socket db).exec sending MonitorSocket.accepted = some conn)
  (labels : List Label) (inOrder : messages labels <+: conn.sent.map decode)

include sent inOrder

theorem shownFigures_eq :
    shownFigures (paired (MonitorSocket.marks db (MonitorSocket.printedLines sending)))
      (seen labels) = (seen labels).figures := by
  have short := inOrder.length_le
  rw [List.length_map] at short
  unfold shownFigures Seen.figures
  congr 1
  calc (List.take (messages labels).length (paired _)).getLast?.map ofPair
      = (((conn.sent.take (messages labels).length).map TickPairing.counts).map
          ofPair).getLast? := by
        rw [MonitorFeed.take_paired db sending conn sent _ short, ← List.getLast?_map]
    _ = ((conn.sent.map decode).take (messages labels).length).getLast? := by
        rw [List.map_map, List.map_take]
        rfl
    _ = (messages labels).getLast? := by rw [← List.prefix_iff_eq_take.mp inOrder]

/-- Whatever the timing on either side, the screen shows the last pair that has
arrived, and the highlight has made one step for each pair; only in demo mode
does the timer move it. -/
theorem screen_shows_ticks (session : Session)
    (run : workflow.exec labels mounted = some session) :
    session.view.screen =
        shownScreen (paired (MonitorSocket.marks db (MonitorSocket.printedLines sending)))
          (seen labels) ∧
      ((seen labels).simulated = false → (seen labels).advances = (messages labels).length) := by
  have follows := follows_of_run labels session run
  refine ⟨screen_of_follows _ session follows _ (shownFigures_eq db sending conn sent labels
    inOrder), fun live => ?_⟩
  have still : (seen labels).ticks = 0 := by
    by_contra ticked
    rw [follows.ticking ticked] at live
    cases live
  rw [Seen.advances, still]
  rfl

end Feed

theorem screen_shows_ticks_oneTick :
    ∃ (conn : MonitorSocket.Connection) (labels : List Label) (session : Session),
      (MonitorSocket.socket .ascii).exec (MonitorSocket.oneTick ++ [.send true])
          MonitorSocket.accepted = some conn ∧
        workflow.exec labels mounted = some session ∧
        session.view.screen = .workflow (rows 1) (some ⟨5, 7⟩) ∧
        (seen labels).advances = 1 := by
  obtain ⟨conn, sent, counted⟩ := MonitorSocket.oneTick_sent
  obtain ⟨dict, single, _⟩ := List.map_eq_singleton_iff.mp counted
  have pairs : paired (MonitorSocket.marks .ascii (MonitorSocket.printedLines
      (MonitorSocket.oneTick ++ [.send true]))) = [(5, 7)] := by
    decide +kernel
  have inOrder : messages [.opened, .message (decode dict)] <+: conn.sent.map decode := by
    rw [single]
    exact List.prefix_refl _
  have shows := screen_shows_ticks .ascii _ conn sent [.opened, .message (decode dict)] inOrder
    _ rfl
  rw [pairs] at shows
  refine ⟨conn, [.opened, .message (decode dict)], _, sent, rfl, shows.1.trans ?_, shows.2 rfl⟩
  change shownScreen [(5, 7)] ⟨[decode dict], 0, false, true, false⟩ = _
  simp [shownScreen, shownFigures, ofPair, Seen.advances, stages]

/-! ## A socket that closes early -/

/-- The socket has closed before it has delivered anything. -/
structure Stranded (session : Session) : Prop where
  sock : session.sock = .closed
  connected : session.view.connected = false
  latest : session.view.latest = none
  demoMode : session.view.demoMode = false
  fallback : session.fallback = false
  rendered : session.rendered = false
  effectRan : session.effectRan = false

theorem stranded_after (session : Session) (stranded : Stranded session) (label : Label)
    (allowed : session.Allows label) : Stranded (session.after label) := by
  have gone : session.sock = .closed := stranded.sock
  cases label with
  | fallback => exact absurd (stranded.fallback.symm.trans allowed) (by simp)
  | opened => exact absurd (gone.symm.trans allowed) (by simp)
  | message metrics => exact absurd (gone.symm.trans allowed) (by simp)
  | error => simp [Session.Allows, gone] at allowed
  | close => simp [Session.Allows, gone] at allowed
  | render => exact { stranded with rendered := stranded.demoMode }
  | effect => exact { stranded with effectRan := stranded.rendered }
  | tick => exact absurd (stranded.effectRan.symm.trans allowed) (by simp)

theorem stranded_of_follows (labels : List Label) (session : Session)
    (follows : Follows (seen labels) session) (closed : .close ∈ labels)
    (live : (seen labels).simulated = false) (silent : messages labels = []) :
    Stranded session := by
  have ended : session.sock = .closed := follows.ended.mpr (by simpa [seen] using closed)
  have unrendered : session.rendered = false := by
    by_contra rendered
    rw [follows.rendered (by simpa using rendered)] at live
    cases live
  refine ⟨ended, ?_, ?_, follows.demoMode.trans live, ?_, unrendered, ?_⟩
  · rw [follows.connected live]
    simp [seen, closed]
  · rw [follows.latest, figures_live _ live]
    exact congrArg List.getLast? silent
  · by_contra pending
    have waits := follows.pending (by simpa using pending)
    rw [ended] at waits
    cases waits
  · by_contra ran
    have rendered := follows.effectRan (by simpa using ran)
    rw [unrendered] at rendered
    cases rendered

/-- The component says that it is connecting, now and after every way to go
on, exactly when the socket was closed before the first message and neither an
error nor the fallback has come: the timer is not set again. -/
theorem connecting_forever_iff (labels : List Label) (session : Session)
    (run : workflow.exec labels mounted = some session) :
    (∀ more later, workflow.exec more session = some later → later.view.screen = .connecting) ↔
      .close ∈ labels ∧ .error ∉ labels ∧ .fallback ∉ labels ∧ messages labels = [] := by
  have follows := follows_of_run labels session run
  have live : (seen labels).simulated = false ↔ .error ∉ labels ∧ .fallback ∉ labels := by
    simp only [seen, decide_eq_false_iff_not, not_or]
    exact and_comm
  constructor
  · intro forever
    have now := forever [] session rfl
    obtain ⟨unconnected, nothing⟩ :
        ¬ session.view.connected = true ∧ session.view.latest = none := by
      by_contra shown
      rw [View.screen, if_neg shown] at now
      cases now
    have figures := follows.latest.symm.trans nothing
    have real : (seen labels).simulated = false := by
      by_contra simulated
      rw [Bool.not_eq_false] at simulated
      simp [Seen.figures, simulated] at figures
    have silent : messages labels = [] := by
      rw [figures_live _ real] at figures
      exact List.getLast?_eq_none_iff.mp figures
    obtain ⟨noError, noFallback⟩ := live.mp real
    refine ⟨?_, noError, noFallback, silent⟩
    cases phase : session.sock with
    | connecting =>
        -- it may still open, and an open socket is shown as connected
        have opens : workflow.exec [.opened] session = some (session.after .opened) := by
          rw [workflow.exec_cons]
          exact ⟨_, (step_eq_some _ _ _).mpr ⟨phase, rfl⟩, rfl⟩
        have later := forever _ _ opens
        simp [View.screen, Session.after] at later
    | opened =>
        obtain ⟨_, opened, unclosed⟩ := follows.running phase
        have connected := follows.connected real
        rw [opened, unclosed] at connected
        exact absurd connected unconnected
    | closing => simp [follows.failing (Or.inl phase)] at real
    | errored => simp [follows.failing (Or.inr phase)] at real
    | closed => simpa [seen] using follows.ended.mp phase
  · rintro ⟨closed, noError, noFallback, silent⟩ more later continued
    have stranded := stranded_of_follows labels session follows closed
      (live.mpr ⟨noError, noFallback⟩) silent
    have kept : Stranded later := by
      refine workflow.invariant_of_exec Stranded ?_ more session later stranded continued
      intro state label next stranded stepped
      obtain ⟨allowed, rfl⟩ := (step_eq_some state next label).mp stepped
      exact stranded_after state stranded label allowed
    exact if_pos ⟨by simp [kept.connected], kept.latest⟩

theorem connecting_forever_early : ∃ session,
    workflow.exec [.opened, .render, .close] mounted = some session ∧
      ∀ more later, workflow.exec more session = some later → later.view.screen = .connecting :=
  ⟨_, rfl, (connecting_forever_iff [.opened, .render, .close] _ rfl).mpr (by decide)⟩

end KernelSprint.RealKernelWorkflow

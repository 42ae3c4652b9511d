import KernelSprint.Web.TerminalSwitch

/-!
# The terminal's modes by themselves

The terminal of a lab session and the typing loop are each a part of
`RealTerminal`: every run of the part is one of the whole component.
-/

set_option autoImplicit false

namespace KernelSprint.TerminalModes

open Labelled TerminalSwitch TerminalSwitch.RealTerminal
open DemoTerminal (Units units trim HistoryEntry simulateCommand)
open Terminal (releases)

/-! ## Connected -/

/-- The connected terminal of a session in the whole component, between two
events that are rendered at once. -/
structure Shows (client : Terminal.RealTerminal) (terminal : RealTerminal) : Prop where
  history : terminal.view.history =
    client.history.map fun entry => ⟨units entry.cmd, units entry.out⟩
  currentOut : terminal.view.currentOut = units client.currentOut
  running : terminal.view.running = client.running
  queue : terminal.queue = []
  demoMode : terminal.demoMode = false
  sock : terminal.sock = .opened
  rendered : terminal.rendered = ⟨false, client.running⟩
  effectRan : terminal.effectRan = false

theorem setLastOut_map (out : String) (history : List Terminal.HistoryEntry) :
    setLastOut (units out) (history.map fun entry => ⟨units entry.cmd, units entry.out⟩) =
      (Terminal.setLastOut out history).map fun entry => ⟨units entry.cmd, units entry.out⟩ := by
  induction history with
  | nil => rfl
  | cons first rest ih =>
      cases rest with
      | nil => rfl
      | cons second later => exact congrArg (_ :: ·) ih

theorem shows_message (client : Terminal.RealTerminal) (terminal : RealTerminal)
    (shows : Shows client terminal) (data : String) :
    ∃ next, component.exec [.message data false, .render] terminal = some next ∧
      Shows (client.onmessage data) next := by
  have rendered : terminal.rendered.demoMode = terminal.effectRan := by
    rw [shows.rendered, shows.effectRan]
  refine ⟨(terminal.onmessage data false).render, ?_, ?_⟩
  · exact (component.exec_cons ..).mpr
      ⟨_, (step_eq_some ..).mpr ⟨⟨shows.sock, nofun⟩, rfl⟩, (component.exec_cons ..).mpr
        ⟨_, (step_eq_some ..).mpr ⟨rendered, rfl⟩, rfl⟩⟩
  · have out : terminal.view.currentOut ++ units data = units (client.currentOut ++ data) := by
      rw [DemoTerminal.units_append, shows.currentOut]
    refine ⟨?_, out, ?_, rfl, shows.demoMode, shows.sock, ?_, shows.effectRan⟩
    · change (terminal.queue ++ [Updater.heard none]).foldl
        (Updater.apply (terminal.view.currentOut ++ units data)) terminal.view.history = _
      rw [shows.queue, shows.history, out]
      exact setLastOut_map _ _
    · change (if releases data then false else terminal.view.running) = _
      rw [shows.running]
      rfl
    · change (⟨terminal.demoMode, if releases data then false else terminal.view.running⟩ :
        Rendered) = _
      rw [shows.demoMode, shows.running]
      rfl

theorem shows_run (client : Terminal.RealTerminal) (terminal : RealTerminal)
    (shows : Shows client terminal) (wired : Wired terminal) (input cmd : String)
    (later : Terminal.RealTerminal) (ran : client.run input = some (later, cmd)) :
    ∃ next, component.exec [.enter (units input)] terminal = some next ∧ Shows later next ∧
      next.told = terminal.told ++ [⟨units cmd, []⟩] := by
  unfold Terminal.RealTerminal.run at ran
  obtain ⟨accepted, taken⟩ := Option.ite_none_left_eq_some.mp ran
  obtain ⟨rfl, rfl⟩ := Prod.mk.inj (Option.some.inj taken)
  rw [not_or, Bool.not_eq_true] at accepted
  have typed : trim (units input) ≠ [] := by
    rw [← DemoTerminal.units_trim]
    exact DemoTerminal.units_ne_nil _ accepted.1
  have enabled : terminal.rendered.running = false := by rw [shows.rendered, accepted.2]
  refine ⟨terminal.run (units input), (component.exec_cons ..).mpr
    ⟨_, (step_eq_some ..).mpr ⟨enabled, rfl⟩, rfl⟩, ?_⟩
  have ran := run_cases terminal (units input) enabled
  generalize terminal.run (units input) = next at ran ⊢
  cases ran with
  | ignored refused => exact absurd ⟨typed, Or.inr shows.sock⟩ refused
  | simulated typing typed demoMode begins =>
      rw [shows.rendered] at demoMode
      cases demoMode
  | sent typed live opened =>
      obtain ⟨sock, taken, kept, -⟩ := taken_eq terminal wired (trim (units input))
        terminal.view.typing (terminal.told ++ [⟨trim (units input), []⟩])
      rw [taken, kept shows.demoMode, ← DemoTerminal.units_trim]
      refine ⟨⟨?_, rfl, rfl, rfl, shows.demoMode, shows.sock, ?_, shows.demoMode⟩, rfl⟩
      · change terminal.queue.foldl (Updater.apply []) terminal.view.history ++ [_] = _
        rw [shows.queue, shows.history, List.map_append]
        rfl
      · change (⟨terminal.demoMode, true⟩ : Rendered) = _
        rw [shows.demoMode]

theorem submit_ran (shlexSplit : String → Except String (List String))
    (session next : Terminal.Session) (input : String)
    (stepped : session.submit shlexSplit input = some next) :
    ∃ cmd, session.client.run input = some (next.client, cmd) := by
  simp only [Terminal.Session.submit, Option.bind_eq_bind, Option.bind_eq_some_iff] at stepped
  obtain ⟨⟨client, cmd⟩, ran, server, arrived, updated⟩ := stepped
  cases Option.some.inj updated
  exact ⟨cmd, ran⟩

/-- Every run of the session is one of the whole component, with each message
rendered before the next event. -/
theorem session_shown (shlexSplit : String → Except String (List String))
    (labels : List Terminal.SessionLabel) (session : Terminal.Session)
    (run : (Terminal.terminal shlexSplit).exec labels .start = some session) :
    ∃ events terminal, component.exec events mounted = some terminal ∧
      Shows session.client terminal := by
  refine (Terminal.terminal shlexSplit).invariant_of_exec (fun session =>
    ∃ events terminal, component.exec events mounted = some terminal ∧
      Shows session.client terminal) ?_ labels .start session ?_ run
  · rintro session label next ⟨events, terminal, reached, shows⟩ stepped
    have goOn : ∀ more later, component.exec more terminal = some later →
        Shows next.client later → ∃ events terminal,
          component.exec events mounted = some terminal ∧ Shows next.client terminal := by
      intro more later ran shown
      refine ⟨events ++ more, later, ?_, shown⟩
      rw [component.exec_append, reached]
      exact ran
    have served : ∀ label, session.serve shlexSplit label = some next →
        ∃ events terminal, component.exec events mounted = some terminal ∧
          Shows next.client terminal := by
      intro label served
      rw [(TerminalAttribution.serve_some shlexSplit session next label served).2.1]
      exact ⟨events, terminal, reached, shows⟩
    cases label with
    | submit input =>
        obtain ⟨cmd, ran⟩ := submit_ran shlexSplit session next input stepped
        obtain ⟨later, taken, shown, -⟩ := shows_run session.client terminal shows
          (wired_of_run events terminal reached) input cmd next.client ran
        exact goOn _ later taken shown
    | deliver =>
        obtain ⟨data, -, client, -⟩ := TerminalAttribution.deliver_some session next stepped
        obtain ⟨later, heard, shown⟩ := shows_message session.client terminal shows data
        exact goOn _ later heard (client ▸ shown)
    | receive run => exact served _ stepped
    | work index => exact served _ stepped
    | get => exact served _ stepped
    | send =>
        rw [(TerminalAttribution.sent_some shlexSplit session next stepped).2.1]
        exact ⟨events, terminal, reached, shows⟩
  · exact ⟨[.opened, .render], _, rfl, rfl, rfl, rfl, rfl, rfl, rfl, rfl, rfl⟩

/-! ## Demo mode -/

/-- The typing loop by itself in the whole component, rendered after each tick. -/
structure Demonstrates (shown : DemoTerminal.RealTerminal) (terminal : RealTerminal) : Prop where
  view : terminal.view = shown
  queue : terminal.queue = []
  demoMode : terminal.demoMode = true
  rendered : terminal.rendered = ⟨true, shown.running⟩
  effectRan : terminal.effectRan = true

theorem demonstrates_run (shown later : DemoTerminal.RealTerminal) (terminal : RealTerminal)
    (shows : Demonstrates shown terminal) (wired : Wired terminal) (input : Units)
    (ran : shown.run input = some later) :
    ∃ next, component.exec [.enter input] terminal = some next ∧ Demonstrates later next := by
  have opened : ∀ typing, Demonstrates
      ⟨shown.history ++ [⟨trim input, []⟩], [], true, typing⟩
      (flush { terminal.take (trim input) typing with told := terminal.told }) := by
    intro typing
    obtain ⟨sock, taken, -⟩ := taken_eq terminal wired (trim input) typing terminal.told
    rw [taken]
    refine ⟨?_, rfl, shows.demoMode, ?_, shows.demoMode⟩
    · rw [shows.queue, shows.view]
      rfl
    · rw [shows.demoMode]
  unfold DemoTerminal.RealTerminal.run at ran
  obtain ⟨accepted, taken⟩ := Option.ite_none_left_eq_some.mp ran
  rw [not_or, Bool.not_eq_true] at accepted
  have enabled : terminal.rendered.running = false := by rw [shows.rendered, accepted.2]
  refine ⟨terminal.run input, (component.exec_cons ..).mpr
    ⟨_, (step_eq_some ..).mpr ⟨enabled, rfl⟩, rfl⟩, ?_⟩
  rw [RealTerminal.run, if_neg (by simp [accepted.1, enabled]),
    if_pos (by rw [shows.rendered])]
  cases value : simulateCommand (trim input) with
  | error error =>
      rw [value] at taken
      rw [← Option.some.inj taken, ← shows.view]
      exact shows.view ▸ opened _
  | ok output =>
      rw [value] at taken
      rw [← Option.some.inj taken]
      exact opened _

theorem demonstrates_tick (shown later : DemoTerminal.RealTerminal) (terminal : RealTerminal)
    (shows : Demonstrates shown terminal) (ticked : shown.tick = some later) :
    ∃ next, component.exec [.tick, .render] terminal = some next ∧ Demonstrates later next := by
  rw [← shows.view] at ticked
  have set : terminal.view.typing.isSome = true := by
    cases typing : terminal.view.typing with
    | none => simp [DemoTerminal.RealTerminal.tick, typing] at ticked
    | some live => rfl
  obtain ⟨frame, kept, -⟩ := tick_frame (tick_cases terminal set)
  obtain ⟨same, more, queue, shown⟩ := tick_demo terminal terminal.view.history later ticked
  have settles : terminal.tick.settled = later := by
    rw [same, settled, queue, shows.queue, kept, List.nil_append, shown]
  have stays : terminal.tick.rendered.demoMode = terminal.tick.effectRan := by
    rw [frame]
    change terminal.rendered.demoMode = terminal.effectRan
    rw [shows.rendered, shows.effectRan]
  refine ⟨terminal.tick.render, (component.exec_cons ..).mpr ⟨_, (step_eq_some ..).mpr ⟨set, rfl⟩,
    (component.exec_cons ..).mpr ⟨_, (step_eq_some ..).mpr ⟨stays, rfl⟩, rfl⟩⟩, ?_⟩
  have demoMode : terminal.tick.demoMode = true := by
    rw [frame]
    exact shows.demoMode
  refine ⟨settles, rfl, demoMode, ?_, ?_⟩
  · change (⟨terminal.tick.demoMode, terminal.tick.view.running⟩ : Rendered) = _
    rw [demoMode, same]
  · change terminal.tick.effectRan = true
    rw [frame]
    exact shows.effectRan

/-- Every run of the demo mode is one of the whole component after the request
for the environment has failed. -/
theorem demo_shown (labels : List DemoTerminal.Label) (shown : DemoTerminal.RealTerminal)
    (run : DemoTerminal.demo.exec labels .start = some shown) :
    ∃ events terminal, component.exec events mounted = some terminal ∧
      Demonstrates shown terminal := by
  refine DemoTerminal.demo.invariant_of_exec (fun shown =>
    ∃ events terminal, component.exec events mounted = some terminal ∧
      Demonstrates shown terminal) ?_ labels .start shown
    ⟨[.fetchFailed, .render, .effect], _, rfl, rfl, rfl, rfl, rfl, rfl⟩ run
  rintro shown label next ⟨events, terminal, reached, shows⟩ stepped
  have more : ∃ more later, component.exec more terminal = some later ∧
      Demonstrates next later := by
    cases label with
    | enter input =>
        exact ⟨_, demonstrates_run shown next terminal shows
          (wired_of_run events terminal reached) input stepped⟩
    | tick => exact ⟨_, demonstrates_tick shown next terminal shows stepped⟩
  obtain ⟨more, later, ran, demonstrates⟩ := more
  refine ⟨events ++ more, later, ?_, demonstrates⟩
  rw [component.exec_append, reached]
  exact ran

end KernelSprint.TerminalModes

import KernelSprint.Web.DemoTerminal
import KernelSprint.Web.TerminalAttribution

/-!
# The terminal and its switch to the demo mode

`RealTerminal` as a whole: the request for the environment, the socket, the
typing loop and React in any order from mount on.  `run` sees the state of the
last render; a key press is rendered with its effects before the next event,
and everything else is rendered some time later.  What `setHistory` is given
waits for a render, which takes it in order; React may run the first one that
waits at once.
-/

set_option autoImplicit false

namespace KernelSprint.TerminalSwitch

open Labelled
open DemoTerminal (Units units trim Value HistoryEntry simulateCommand setLast)
open Terminal (releases)

/-- `interface Environment` -/
structure Environment where
  status : String
  kernel : Option String
  machine : Option String
  cpu : Option String
  memory : Option String
  deriving DecidableEq

def SIM_ENV : Environment where
  status := "connected"
  kernel := some "6.8.0-137-generic"
  machine := some DemoTerminal.FAKE_UNAME_A
  cpu := some "2 cores"
  memory := some "3.8Gi"

inductive Sock where
  | connecting
  | opened
  /-- Closed before it was open: an error event will come. -/
  | closing
  | ended
  deriving DecidableEq

/-- `ws.close()` -/
def Sock.close : Sock → Sock
  | .connecting => .closing
  | .opened => .ended
  | sock => sock

/-- `next[next.length - 1] = { ...next[next.length - 1], out }` -/
def setLastOut (out : Units) : List HistoryEntry → List HistoryEntry
  | [] => []
  | [entry] => [{ entry with out }]
  | entry :: rest => entry :: setLastOut out rest

/-- What `setHistory` is given.  The updater of `onmessage` holds the text that
it has read if React has run it at once. -/
inductive Updater where
  | append (cmd : Units)
  | heard (eager : Option Units)
  | typed (entry : HistoryEntry)
  deriving DecidableEq

/-- The updater is run while the ref holds `currentOut`. -/
def Updater.apply (currentOut : Units) (history : List HistoryEntry) :
    Updater → List HistoryEntry
  | .append cmd => history ++ [⟨cmd, []⟩]
  -- `currentOutRef.current` is read when React runs the updater
  | .heard eager => setLastOut (eager.getD currentOut) history
  | .typed entry => setLast entry history

/-- What `run` and the input field see of the last render. -/
structure Rendered where
  demoMode : Bool
  running : Bool
  deriving DecidableEq

/-- The history of `view` is that of the last render, and `queue` holds what
has been given to `setHistory` since.  `effectRan` is the `demoMode` for which
the effect of the socket last ran.  `told` holds the commands sent, each with
the texts that have arrived from then until the next command; no code reads
it. -/
structure RealTerminal where
  env : Environment
  view : DemoTerminal.RealTerminal
  queue : List Updater
  demoMode : Bool
  fetching : Bool
  sock : Sock
  rendered : Rendered
  effectRan : Bool
  told : List HistoryEntry
  deriving DecidableEq

def mounted : RealTerminal where
  env := ⟨"connecting", none, none, none, none⟩
  view := .start
  queue := []
  demoMode := false
  fetching := true
  sock := .connecting
  rendered := ⟨false, false⟩
  effectRan := false
  told := []

inductive Label where
  | fetched (env : Environment)
  | fetchFailed
  | opened
  | message (data : String) (eager : Bool)
  | error
  | close
  | render
  | effect
  | enter (input : Units)
  | tick
  deriving DecidableEq

/-- `data` after the text of the last command. -/
def hear (data : Units) : List HistoryEntry → List HistoryEntry
  | [] => []
  | [entry] => [{ entry with out := entry.out ++ data }]
  | entry :: rest => entry :: hear data rest

namespace RealTerminal

variable (terminal : RealTerminal)

def simulate : RealTerminal := { terminal with env := SIM_ENV, demoMode := true }

/-- `ws.onmessage`, with React's choice to run the updater at once. -/
def onmessage (data : String) (eager : Bool) : RealTerminal :=
  let out := terminal.view.currentOut ++ units data
  { terminal with
    view := { terminal.view with
      currentOut := out
      running := if releases data then false else terminal.view.running }
    queue := terminal.queue ++ [.heard (if eager then some out else none)]
    told := hear (units data) terminal.told }

/-- The state that a render gives now. -/
def settled : DemoTerminal.RealTerminal :=
  { terminal.view with
    history := terminal.queue.foldl (Updater.apply terminal.view.currentOut) terminal.view.history }

def render : RealTerminal :=
  { terminal with
    view := terminal.settled
    queue := []
    rendered := ⟨terminal.demoMode, terminal.view.running⟩ }

/-- The effect of the socket when `demoMode` has changed: `demoMode` is never
taken back, so that no second socket is opened. -/
def runEffect : RealTerminal :=
  if terminal.rendered.demoMode = terminal.effectRan then terminal
  else
    { terminal with sock := terminal.sock.close, effectRan := terminal.rendered.demoMode }

/-- After a key press the effects of the last render, the render and its own
effects do not wait. -/
def flush : RealTerminal := terminal.runEffect.render.runEffect

/-- What both modes set for a command, with the interval that there is then. -/
def take (cmd : Units) (typing : Option DemoTerminal.Typing) : RealTerminal :=
  { terminal with
    view := ⟨terminal.view.history, [], true, typing⟩
    queue := terminal.queue ++ [.append cmd] }

/-- `run()` with the text of the input field. -/
def run (input : Units) : RealTerminal :=
  let cmd := trim input
  if cmd = [] ∨ terminal.rendered.running then terminal
  else if terminal.rendered.demoMode then
    match simulateCommand cmd with
    -- the handler raises before `setInterval`
    | .error _ => flush (terminal.take cmd terminal.view.typing)
    | .ok output => flush (terminal.take cmd (some ⟨cmd, output, 0⟩))
  else if terminal.sock ≠ .opened then terminal
  else
    flush { terminal.take cmd terminal.view.typing with told := terminal.told ++ [⟨cmd, []⟩] }

/-- The callback of the interval. -/
def tick : RealTerminal :=
  match terminal.view.typing with
  | some ⟨cmd, .string output, i⟩ =>
      -- `Math.ceil(output.length / 8)`
      let i := i + (output.length + 7) / 8
      let chunk := output.take i
      let queue := terminal.queue ++ [.typed ⟨cmd, chunk⟩]
      if output.length ≤ i then
        { terminal with view := ⟨terminal.view.history, chunk, false, none⟩, queue }
      else
        { terminal with
          view := ⟨terminal.view.history, chunk, terminal.view.running,
            some ⟨cmd, .string output, i⟩⟩
          queue }
  -- `output.slice` is not a function: the callback raises, the interval stays
  | _ => terminal

/-- When a step may happen: React runs an updater at once only if no other
waits, the field takes no key while it is disabled, and the effects of a render
run before the next render. -/
def Allows : Label → Prop
  | .fetched _ => terminal.fetching = true
  | .fetchFailed => terminal.fetching = true
  | .opened => terminal.sock = .connecting
  | .message _ eager => terminal.sock = .opened ∧ (eager = true → terminal.queue = [])
  | .error => terminal.sock ≠ .ended
  | .close => terminal.sock = .opened
  | .render => terminal.rendered.demoMode = terminal.effectRan
  | .effect => terminal.rendered.demoMode ≠ terminal.effectRan
  | .enter _ => terminal.rendered.running = false
  | .tick => terminal.view.typing.isSome = true

instance : (label : Label) → Decidable (terminal.Allows label)
  | .fetched _ => inferInstanceAs (Decidable (terminal.fetching = true))
  | .fetchFailed => inferInstanceAs (Decidable (terminal.fetching = true))
  | .opened => inferInstanceAs (Decidable (terminal.sock = .connecting))
  | .message _ eager =>
      inferInstanceAs (Decidable (terminal.sock = .opened ∧ (eager = true → terminal.queue = [])))
  | .error => inferInstanceAs (Decidable (terminal.sock ≠ .ended))
  | .close => inferInstanceAs (Decidable (terminal.sock = .opened))
  | .render => inferInstanceAs (Decidable (terminal.rendered.demoMode = terminal.effectRan))
  | .effect => inferInstanceAs (Decidable (terminal.rendered.demoMode ≠ terminal.effectRan))
  | .enter _ => inferInstanceAs (Decidable (terminal.rendered.running = false))
  | .tick => inferInstanceAs (Decidable (terminal.view.typing.isSome = true))

def after : Label → RealTerminal
  | .fetched env => { terminal with env, fetching := false }
  | .fetchFailed => { terminal.simulate with fetching := false }
  | .opened => { terminal with sock := .opened }
  | .message data eager => terminal.onmessage data eager
  | .error => { terminal.simulate with sock := .ended }
  -- the component has no handler for it
  | .close => { terminal with sock := .ended }
  | .render => terminal.render
  | .effect => terminal.runEffect
  | .enter input => terminal.run input
  | .tick => terminal.tick

end RealTerminal

open RealTerminal

def step (terminal : RealTerminal) (label : Label) : Option RealTerminal :=
  if terminal.Allows label then some (terminal.after label) else none

def component : Machine RealTerminal Label := ⟨step⟩

theorem step_eq_some (terminal next : RealTerminal) (label : Label) :
    component.step terminal label = some next ↔
      terminal.Allows label ∧ terminal.after label = next := by
  change (if terminal.Allows label then some (terminal.after label) else none) = some next ↔ _
  rw [Option.ite_none_right_eq_some, Option.some.injEq]

/-! ## Renders and the socket -/

/-- The socket delivers no message any more. -/
def Sock.Cut (sock : Sock) : Prop := sock = .closing ∨ sock = .ended

theorem Sock.cut_close (sock : Sock) : sock.close.Cut := by
  cases sock <;> simp [Sock.close, Sock.Cut]

theorem Sock.Cut.not_connecting {sock : Sock} (cut : sock.Cut) : sock ≠ .connecting := by
  rcases cut with rfl | rfl <;> simp

theorem Sock.Cut.not_opened {sock : Sock} (cut : sock.Cut) : sock ≠ .opened := by
  rcases cut with rfl | rfl <;> simp

structure Wired (terminal : RealTerminal) : Prop where
  shown : terminal.view.running = true → terminal.rendered.running = true
  rendered : terminal.rendered.demoMode = true → terminal.demoMode = true
  effectRan : terminal.effectRan = true → terminal.rendered.demoMode = true
  cut : terminal.effectRan = true → terminal.sock.Cut
  typing : terminal.view.typing ≠ none → terminal.effectRan = true
  early : terminal.sock = .connecting → terminal.view.running = false
  closing : terminal.sock = .closing → terminal.demoMode = true
  queue : ∀ cmd, .append cmd ∉ terminal.queue

theorem runEffect_eq (terminal : RealTerminal) :
    ∃ sock, terminal.runEffect =
        { terminal with sock, effectRan := terminal.rendered.demoMode } ∧
      (terminal.rendered.demoMode = terminal.effectRan → sock = terminal.sock) ∧
      (terminal.rendered.demoMode ≠ terminal.effectRan → sock.Cut) := by
  by_cases same : terminal.rendered.demoMode = terminal.effectRan
  · refine ⟨terminal.sock, ?_, fun _ => rfl, absurd same⟩
    rw [runEffect, if_pos same, same]
  · refine ⟨terminal.sock.close, ?_, fun kept => absurd kept same, fun _ => Sock.cut_close _⟩
    rw [runEffect, if_neg same]

/-- A key press leaves the field and the effect with the state that it set. -/
theorem flush_eq (terminal : RealTerminal)
    (rendered : terminal.rendered.demoMode = true → terminal.demoMode = true)
    (effectRan : terminal.effectRan = true → terminal.rendered.demoMode = true)
    (cut : terminal.effectRan = true → terminal.sock.Cut) :
    ∃ sock, terminal.flush =
        { terminal with
          view := terminal.settled
          queue := []
          rendered := ⟨terminal.demoMode, terminal.view.running⟩
          sock
          effectRan := terminal.demoMode } ∧
      (terminal.demoMode = false → sock = terminal.sock) ∧
      (terminal.demoMode = true → sock.Cut) := by
  obtain ⟨early, first, same, changed⟩ := runEffect_eq terminal
  obtain ⟨late, second, same', changed'⟩ :=
    runEffect_eq (RealTerminal.render { terminal with
      sock := early, effectRan := terminal.rendered.demoMode })
  change terminal.demoMode = terminal.rendered.demoMode → late = early at same'
  change terminal.demoMode ≠ terminal.rendered.demoMode → late.Cut at changed'
  refine ⟨late, by rw [flush, first, second]; rfl, fun live => ?_, fun demoMode => ?_⟩
  · have unshown : terminal.rendered.demoMode = false := by
      by_contra shown
      rw [rendered (by simpa using shown)] at live
      cases live
    have unran : terminal.effectRan = false := by
      by_contra ran
      rw [effectRan (by simpa using ran)] at unshown
      cases unshown
    exact (same' (live.trans unshown.symm)).trans (same (unshown.trans unran.symm))
  · cases shown : terminal.rendered.demoMode with
    | false => exact changed' (by rw [demoMode, shown]; exact nofun)
    | true =>
        rw [same' (demoMode.trans shown.symm)]
        cases ran : terminal.effectRan with
        | true =>
            rw [same (shown.trans ran.symm)]
            exact cut ran
        | false => exact changed (by rw [shown, ran]; exact nofun)

/-- The component once `run` has set all it sets and React has rendered it. -/
theorem taken_eq (terminal : RealTerminal) (wired : Wired terminal) (cmd : Units)
    (typing : Option DemoTerminal.Typing) (told : List HistoryEntry) :
    ∃ sock, flush { terminal.take cmd typing with told } =
        { terminal with
          view := ⟨terminal.queue.foldl (Updater.apply []) terminal.view.history ++ [⟨cmd, []⟩],
            [], true, typing⟩
          queue := []
          rendered := ⟨terminal.demoMode, true⟩
          sock
          effectRan := terminal.demoMode
          told } ∧
      (terminal.demoMode = false → sock = terminal.sock) ∧
      (terminal.demoMode = true → sock.Cut) := by
  obtain ⟨sock, flushed, kept, cut⟩ := flush_eq { terminal.take cmd typing with told }
    wired.rendered wired.effectRan wired.cut
  refine ⟨sock, ?_, kept, cut⟩
  rw [flushed]
  simp only [settled, RealTerminal.take, List.foldl_append]
  rfl

theorem taken_wired (terminal : RealTerminal) (wired : Wired terminal) (cmd : Units)
    (typing : Option DemoTerminal.Typing) (told : List HistoryEntry)
    (inDemo : typing ≠ none → terminal.demoMode = true)
    (early : terminal.sock ≠ .connecting ∨ terminal.demoMode = true) :
    Wired (flush { terminal.take cmd typing with told }) := by
  obtain ⟨sock, flushed, kept, cut⟩ := taken_eq terminal wired cmd typing told
  rw [flushed]
  refine ⟨fun _ => rfl, id, id, cut, inDemo, fun waits => ?_, fun closing => ?_,
    fun _ => List.not_mem_nil⟩
  · have live : sock = .connecting := waits
    cases demoMode : terminal.demoMode with
    | false =>
        rw [demoMode] at early
        exact absurd ((kept demoMode).symm.trans live) (early.resolve_right nofun)
    | true => exact absurd live (cut demoMode).not_connecting
  · change terminal.demoMode = true
    by_contra live
    rw [Bool.not_eq_true] at live
    exact absurd (wired.closing ((kept live).symm.trans closing)) (by simp [live])

/-! ## What a key press and a tick do -/

/-- The interval after the call of `simulateCommand`. -/
def Begins (view : DemoTerminal.RealTerminal) (cmd : Units)
    (typing : Option DemoTerminal.Typing) : Prop :=
  (∃ output, simulateCommand cmd = .ok output ∧ typing = some ⟨cmd, output, 0⟩) ∨
    (∃ error, simulateCommand cmd = .error error ∧ typing = view.typing)

/-- The key press is for a command that `run` takes. -/
def Taking (terminal : RealTerminal) (input : Units) : Prop :=
  trim input ≠ [] ∧ (terminal.rendered.demoMode = true ∨ terminal.sock = .opened)

instance (terminal : RealTerminal) (input : Units) : Decidable (Taking terminal input) :=
  inferInstanceAs (Decidable (_ ∧ _))

inductive Runs (terminal : RealTerminal) (input : Units) : RealTerminal → Prop
  | ignored (refused : ¬ Taking terminal input) : Runs terminal input terminal
  | simulated (typing : Option DemoTerminal.Typing) (typed : trim input ≠ [])
      (demoMode : terminal.rendered.demoMode = true)
      (begins : Begins terminal.view (trim input) typing) :
      Runs terminal input
        (flush { terminal.take (trim input) typing with told := terminal.told })
  | sent (typed : trim input ≠ []) (live : terminal.rendered.demoMode = false)
      (opened : terminal.sock = .opened) :
      Runs terminal input (flush { terminal.take (trim input) terminal.view.typing with
        told := terminal.told ++ [⟨trim input, []⟩] })

theorem run_cases (terminal : RealTerminal) (input : Units)
    (enabled : terminal.rendered.running = false) : Runs terminal input (terminal.run input) := by
  by_cases nothing : trim input = []
  · rw [RealTerminal.run, if_pos (Or.inl nothing)]
    exact .ignored fun taking => taking.1 nothing
  have accepted : ¬ (trim input = [] ∨ terminal.rendered.running = true) := by
    simp [nothing, enabled]
  rw [RealTerminal.run, if_neg accepted]
  by_cases demoMode : terminal.rendered.demoMode = true
  · rw [if_pos demoMode]
    cases value : simulateCommand (trim input) with
    | error error => exact .simulated _ nothing demoMode (Or.inr ⟨error, value, rfl⟩)
    | ok output => exact .simulated _ nothing demoMode (Or.inl ⟨output, value, rfl⟩)
  · rw [if_neg demoMode]
    by_cases opened : terminal.sock = .opened
    · rw [if_neg (not_not_intro opened)]
      exact .sent nothing (by simpa using demoMode) opened
    · rw [if_pos opened]
      exact .ignored fun taking => taking.2.elim demoMode opened

/-- How far the loop gets with one tick. -/
def reach (text : Units) (i : Nat) : Nat := i + (text.length + 7) / 8

inductive Ticks (terminal : RealTerminal) : RealTerminal → Prop
  | last (cmd text : Units) (i : Nat) (live : terminal.view.typing = some ⟨cmd, .string text, i⟩) :
      Ticks terminal { terminal with
        view := ⟨terminal.view.history, text, false, none⟩
        queue := terminal.queue ++ [.typed ⟨cmd, text⟩] }
  | more (cmd text : Units) (i : Nat) (live : terminal.view.typing = some ⟨cmd, .string text, i⟩)
      (short : reach text i < text.length) :
      Ticks terminal { terminal with
        view := ⟨terminal.view.history, text.take (reach text i), terminal.view.running,
          some ⟨cmd, .string text, reach text i⟩⟩
        queue := terminal.queue ++ [.typed ⟨cmd, text.take (reach text i)⟩] }
  | raised (typing : DemoTerminal.Typing) (live : terminal.view.typing = some typing)
      (other : ∀ text, typing.output ≠ .string text) : Ticks terminal terminal

theorem tick_cases (terminal : RealTerminal) (set : terminal.view.typing.isSome = true) :
    Ticks terminal terminal.tick := by
  obtain ⟨typing, live⟩ := Option.isSome_iff_exists.mp set
  by_cases text : ∃ text, typing.output = .string text
  · obtain ⟨text, output⟩ := text
    have shape : terminal.view.typing = some ⟨typing.cmd, .string text, typing.i⟩ := by
      rw [live, ← output]
    by_cases enough : text.length ≤ reach text typing.i
    · unfold reach at enough
      simp only [RealTerminal.tick, shape, enough, if_true, List.take_of_length_le enough]
      exact .last typing.cmd text typing.i shape
    · have went := Ticks.more typing.cmd text typing.i shape (Nat.lt_of_not_le enough)
      unfold reach at enough went
      simp only [RealTerminal.tick, shape, enough, if_false]
      exact went
  · rw [not_exists] at text
    have stays : terminal.tick = terminal := by
      unfold RealTerminal.tick
      split
      · next cmd output i shape =>
          cases Option.some.inj (live.symm.trans shape)
          exact absurd rfl (text output)
      · rfl
    rw [stays]
    exact .raised typing live text

theorem tick_running {terminal next : RealTerminal} (ticked : Ticks terminal next)
    (running : next.view.running = true) : terminal.view.running = true := by
  cases ticked with
  | last cmd text i live => cases running
  | more cmd text i live short => exact running
  | raised typing live other => exact running

/-- A tick leaves everything else as it is. -/
theorem tick_frame {terminal next : RealTerminal} (ticked : Ticks terminal next) :
    next = { terminal with view := next.view, queue := next.queue } ∧
      next.view.history = terminal.view.history ∧
      ∀ cmd, .append cmd ∈ next.queue → .append cmd ∈ terminal.queue := by
  cases ticked with
  | last cmd text i live => exact ⟨rfl, rfl, fun other member => by simpa using member⟩
  | more cmd text i live short => exact ⟨rfl, rfl, fun other member => by simpa using member⟩
  | raised typing live other => exact ⟨rfl, rfl, fun _ => id⟩

theorem wired_effect (terminal : RealTerminal) (wired : Wired terminal)
    (due : terminal.rendered.demoMode ≠ terminal.effectRan) : Wired terminal.runEffect := by
  obtain ⟨sock, effect, kept, cut⟩ := runEffect_eq terminal
  have isCut := cut due
  have demoMode : terminal.rendered.demoMode = true := by
    by_contra live
    rw [Bool.not_eq_true] at live
    cases ran : terminal.effectRan with
    | false => exact due (live.trans ran.symm)
    | true => exact absurd (wired.effectRan ran) (by simp [live])
  rw [effect]
  exact { wired with
    effectRan := id
    cut := fun _ => isCut
    typing := fun _ => demoMode
    closing := fun _ => wired.rendered demoMode
    early := fun waits => absurd waits isCut.not_connecting }

theorem wired_run (terminal : RealTerminal) (wired : Wired terminal) (input : Units)
    (enabled : terminal.rendered.running = false) : Wired (terminal.run input) := by
  have ran := run_cases terminal input enabled
  generalize terminal.run input = next at ran ⊢
  cases ran with
  | ignored refused => exact wired
  | simulated typing typed demoMode begins =>
      exact taken_wired terminal wired _ _ _ (fun _ => wired.rendered demoMode)
        (Or.inr (wired.rendered demoMode))
  | sent typed live opened =>
      exact taken_wired terminal wired _ _ _
        (fun typing => wired.rendered (wired.effectRan (wired.typing typing)))
        (Or.inl (by simp [opened]))

theorem wired_tick (terminal : RealTerminal) (wired : Wired terminal)
    (set : terminal.view.typing.isSome = true) : Wired terminal.tick := by
  have ticked := tick_cases terminal set
  have live : terminal.view.typing ≠ none := Option.isSome_iff_ne_none.mp set
  have cut := wired.cut (wired.typing live)
  generalize terminal.tick = next at ticked ⊢
  obtain ⟨frame, -, queue⟩ := tick_frame ticked
  have running := tick_running ticked
  rw [frame]
  exact { wired with
    shown := fun shown => wired.shown (running shown)
    typing := fun _ => wired.typing live
    early := fun waits => absurd waits cut.not_connecting
    queue := fun cmd member => wired.queue cmd (queue cmd member) }

theorem wired_after (terminal : RealTerminal) (wired : Wired terminal) (label : Label)
    (allowed : terminal.Allows label) : Wired (terminal.after label) := by
  cases label with
  | fetched env => exact { wired with }
  | fetchFailed => exact { wired with rendered := fun _ => rfl, closing := fun _ => rfl }
  | opened =>
      exact { wired with
        cut := fun ran => absurd allowed (wired.cut ran).not_connecting
        early := nofun
        closing := nofun }
  | message data eager =>
      have running : (terminal.onmessage data eager).view.running = true →
          terminal.view.running = true := by
        change (if releases data then false else terminal.view.running) = true → _
        cases releases data <;> simp
      exact { wired with
        shown := fun shown => wired.shown (running shown)
        early := fun waits => absurd (allowed.1.symm.trans waits) (by simp)
        queue := fun cmd member => wired.queue cmd (by simpa [after, onmessage] using member) }
  | error =>
      exact { wired with
        rendered := fun _ => rfl
        cut := fun _ => Or.inr rfl
        early := nofun
        closing := nofun }
  | close => exact { wired with cut := fun _ => Or.inr rfl, early := nofun, closing := nofun }
  | render =>
      exact { wired with
        shown := id
        rendered := id
        effectRan := fun ran => wired.rendered (wired.effectRan ran)
        queue := fun _ => List.not_mem_nil }
  | effect => exact wired_effect terminal wired allowed
  | enter input => exact wired_run terminal wired input allowed
  | tick => exact wired_tick terminal wired allowed

theorem wired_of_exec (labels : List Label) (terminal next : RealTerminal) (wired : Wired terminal)
    (run : component.exec labels terminal = some next) : Wired next := by
  refine component.invariant_of_exec Wired ?_ labels terminal next wired run
  intro state label next wired stepped
  obtain ⟨allowed, rfl⟩ := (step_eq_some state next label).mp stepped
  exact wired_after state wired label allowed

theorem wired_of_run (labels : List Label) (terminal : RealTerminal)
    (run : component.exec labels mounted = some terminal) : Wired terminal :=
  wired_of_exec labels mounted terminal
    ⟨nofun, nofun, nofun, nofun, fun typing => absurd rfl typing, fun _ => rfl, nofun,
      fun _ => List.not_mem_nil⟩ run

/-! ## When no further command is taken -/

/-- What is running will not end: the socket is gone, and no text is being
typed out. -/
def Locked (terminal : RealTerminal) : Prop :=
  terminal.sock.Cut ∧ DemoTerminal.Wedged terminal.view

/-- The socket was closed without an error, and the environment has arrived:
nothing starts the demo mode any more. -/
def Deaf (terminal : RealTerminal) : Prop :=
  terminal.sock = .ended ∧ terminal.demoMode = false ∧ terminal.fetching = false

def taken (terminal : RealTerminal) : Nat := terminal.view.history.length

theorem setLastOut_append (out : Units) (past : List HistoryEntry) (last : HistoryEntry) :
    setLastOut out (past ++ [last]) = past ++ [{ last with out }] :=
  Window.change_concat (setLastOut out) ({ · with out }) (fun _ => rfl) (fun _ _ _ => rfl)
    past last

theorem apply_length (currentOut : Units) (updater : Updater) (kept : ∀ cmd, updater ≠ .append cmd)
    (history : List HistoryEntry) :
    (updater.apply currentOut history).length = history.length := by
  cases updater with
  | append cmd => exact absurd rfl (kept cmd)
  | heard eager =>
      induction history using List.reverseRecOn with
      | nil => rfl
      | append_singleton past last _ => simp [Updater.apply, setLastOut_append]
  | typed entry =>
      induction history using List.reverseRecOn with
      | nil => rfl
      | append_singleton past last _ => simp [Updater.apply, DemoTerminal.setLast_concat]

theorem foldl_length (currentOut : Units) (queue : List Updater)
    (kept : ∀ cmd, .append cmd ∉ queue) (history : List HistoryEntry) :
    (queue.foldl (Updater.apply currentOut) history).length = history.length := by
  induction queue generalizing history with
  | nil => rfl
  | cons updater rest ih =>
      rw [List.foldl_cons, ih (fun cmd member => kept cmd (List.mem_cons_of_mem _ member))]
      refine apply_length currentOut updater (fun cmd same => kept cmd ?_) history
      rw [same]
      exact List.mem_cons_self

theorem render_taken (terminal : RealTerminal) (wired : Wired terminal) :
    taken terminal.render = taken terminal :=
  foldl_length _ _ wired.queue _

theorem locked_after (terminal : RealTerminal) (wired : Wired terminal) (label : Label)
    (locked : Locked terminal) (allowed : terminal.Allows label) :
    Locked (terminal.after label) ∧ taken (terminal.after label) = taken terminal := by
  obtain ⟨cut, wedged⟩ := locked
  have gone : terminal.sock ≠ .connecting ∧ terminal.sock ≠ .opened := by
    rcases cut with closing | ended
    · simp [closing]
    · simp [ended]
  cases label with
  | fetched env => exact ⟨⟨cut, wedged⟩, rfl⟩
  | fetchFailed => exact ⟨⟨cut, wedged⟩, rfl⟩
  | opened => exact absurd allowed gone.1
  | message data eager => exact absurd allowed.1 gone.2
  | error => exact ⟨⟨Or.inr rfl, wedged⟩, rfl⟩
  | close => exact absurd allowed gone.2
  | render => exact ⟨⟨cut, wedged⟩, render_taken terminal wired⟩
  | effect =>
      obtain ⟨sock, effect, _, ended⟩ := runEffect_eq terminal
      change Locked terminal.runEffect ∧ taken terminal.runEffect = _
      rw [effect]
      exact ⟨⟨ended allowed, wedged⟩, rfl⟩
  | enter input => exact absurd (wired.shown wedged.1) (by simp [show _ = false from allowed])
  | tick =>
      have ticked := tick_cases terminal allowed
      change Locked terminal.tick ∧ taken terminal.tick = _
      generalize terminal.tick = next at ticked ⊢
      cases ticked with
      | last cmd text i live => exact absurd rfl (wedged.2 _ text live)
      | more cmd text i live short => exact absurd rfl (wedged.2 _ text live)
      | raised typing live other => exact ⟨⟨cut, wedged⟩, rfl⟩

theorem deaf_after (terminal : RealTerminal) (wired : Wired terminal) (label : Label)
    (deaf : Deaf terminal) (allowed : terminal.Allows label) :
    Deaf (terminal.after label) ∧ taken (terminal.after label) = taken terminal := by
  obtain ⟨ended, live, fetched⟩ := deaf
  have unshown : terminal.rendered.demoMode = false := by
    by_contra shown
    rw [wired.rendered (by simpa using shown)] at live
    cases live
  have unran : terminal.effectRan = false := by
    by_contra ran
    rw [wired.effectRan (by simpa using ran)] at unshown
    cases unshown
  cases label with
  | fetched env => exact absurd (fetched.symm.trans allowed) (by simp)
  | fetchFailed => exact absurd (fetched.symm.trans allowed) (by simp)
  | opened => exact absurd (ended.symm.trans allowed) (by simp)
  | message data eager => exact absurd (ended.symm.trans allowed.1) (by simp)
  | error => exact absurd ended allowed
  | close => exact absurd (ended.symm.trans allowed) (by simp)
  | render => exact ⟨⟨ended, live, fetched⟩, render_taken terminal wired⟩
  | effect => exact absurd (unshown.trans unran.symm) allowed
  | enter input =>
      have ran := run_cases terminal input allowed
      change Deaf (terminal.run input) ∧ taken (terminal.run input) = _
      generalize terminal.run input = next at ran ⊢
      cases ran with
      | ignored refused => exact ⟨⟨ended, live, fetched⟩, rfl⟩
      | simulated typing typed demoMode begins =>
          exact absurd (unshown.symm.trans demoMode) (by simp)
      | sent typed _ opened => exact absurd (ended.symm.trans opened) (by simp)
  | tick =>
      have typing := wired.typing (Option.isSome_iff_ne_none.mp allowed)
      exact absurd (unran.symm.trans typing) (by simp)

/-- Some way to go on takes a command. -/
def Takes (terminal : RealTerminal) : Prop :=
  ∃ more later, component.exec more terminal = some later ∧ taken terminal < taken later

theorem takes_after {terminal : RealTerminal} (label : Label) (allowed : terminal.Allows label)
    (kept : taken (terminal.after label) = taken terminal)
    (takes : Takes (terminal.after label)) : Takes terminal := by
  obtain ⟨more, later, run, grown⟩ := takes
  refine ⟨label :: more, later, ?_, kept ▸ grown⟩
  exact (component.exec_cons ..).mpr ⟨_, (step_eq_some ..).mpr ⟨allowed, rfl⟩, run⟩

theorem run_takes (terminal : RealTerminal) (wired : Wired terminal)
    (enabled : terminal.rendered.running = false)
    (ready : terminal.rendered.demoMode = true ∨ terminal.sock = .opened) : Takes terminal := by
  refine ⟨[.enter (units "ps")], _, (component.exec_cons ..).mpr
    ⟨_, (step_eq_some ..).mpr ⟨enabled, rfl⟩, rfl⟩, ?_⟩
  have typed : trim (units "ps") ≠ [] := by decide +kernel
  have grown : ∀ cmd typing told,
      taken terminal < taken (flush { terminal.take cmd typing with told }) := by
    intro cmd typing told
    obtain ⟨sock, flushed, _⟩ := taken_eq terminal wired cmd typing told
    rw [flushed]
    simp [taken, foldl_length _ _ wired.queue]
  have ran := run_cases terminal (units "ps") enabled
  change taken terminal < taken (terminal.run (units "ps"))
  generalize terminal.run (units "ps") = next at ran ⊢
  cases ran with
  | ignored refused => exact absurd ⟨typed, ready⟩ refused
  | simulated typing typed demoMode begins => exact grown _ _ _
  | sent typed live opened => exact grown _ _ _

theorem demo_takes (terminal : RealTerminal) (wired : Wired terminal)
    (free : terminal.view.running = false) (demoMode : terminal.demoMode = true) :
    Takes terminal := by
  by_cases ran : terminal.rendered.demoMode = terminal.effectRan
  · exact takes_after .render ran (render_taken terminal wired)
      (run_takes terminal.render (wired_after terminal wired .render ran) free (Or.inl demoMode))
  · obtain ⟨sock, effect, _⟩ := runEffect_eq terminal
    have kept : terminal.runEffect.view = terminal.view ∧
        terminal.runEffect.demoMode = terminal.demoMode ∧
        terminal.runEffect.rendered.demoMode = terminal.runEffect.effectRan := by
      rw [effect]
      exact ⟨rfl, rfl, rfl⟩
    have next := wired_after terminal wired .effect ran
    refine takes_after .effect ran (by rw [taken, after, kept.1]; rfl) ?_
    refine takes_after .render kept.2.2 (render_taken _ next) ?_
    refine run_takes terminal.runEffect.render (wired_after _ next .render kept.2.2) ?_
      (Or.inl (kept.2.1.trans demoMode))
    change terminal.runEffect.view.running = false
    rw [kept.1, free]

theorem free_takes (terminal : RealTerminal) (wired : Wired terminal)
    (free : terminal.view.running = false) (hearing : ¬ Deaf terminal) : Takes terminal := by
  cases demoMode : terminal.demoMode with
  | true => exact demo_takes terminal wired free demoMode
  | false =>
      have ran : terminal.rendered.demoMode = terminal.effectRan := by
        cases shown : terminal.rendered.demoMode with
        | true =>
            rw [wired.rendered shown] at demoMode
            cases demoMode
        | false =>
            cases effectRan : terminal.effectRan with
            | false => rfl
            | true => exact absurd (wired.effectRan effectRan) (by simp [shown])
      cases phase : terminal.sock with
      | connecting =>
          have next := wired_after terminal wired .opened phase
          refine takes_after .opened phase rfl (takes_after .render ran (render_taken _ next) ?_)
          exact run_takes _ (wired_after _ next .render ran) free (Or.inr rfl)
      | opened =>
          exact takes_after .render ran (render_taken terminal wired)
            (run_takes terminal.render (wired_after terminal wired .render ran) free
              (Or.inr phase))
      | closing => exact absurd (wired.closing phase) (by simp [demoMode])
      | ended =>
          have fetching : terminal.fetching = true := by
            by_contra fetched
            exact hearing ⟨phase, demoMode, by simpa using fetched⟩
          exact takes_after .fetchFailed fetching rfl
            (demo_takes _ (wired_after terminal wired .fetchFailed fetching) free rfl)

/-- A tick of the whole component is one of the typing loop, but what it shows
waits for a render. -/
theorem tick_demo (terminal : RealTerminal) (history : List HistoryEntry)
    (later : DemoTerminal.RealTerminal)
    (ticked : DemoTerminal.RealTerminal.tick { terminal.view with history } = some later) :
    later = { terminal.tick.view with history := later.history } ∧
      ∃ more, terminal.tick.queue = terminal.queue ++ more ∧
        ∀ out, more.foldl (Updater.apply out) history = later.history := by
  unfold DemoTerminal.RealTerminal.tick at ticked
  unfold RealTerminal.tick
  split at ticked
  · cases ticked
  · next cmd output i live =>
      change terminal.view.typing = _ at live
      by_cases enough : output.length ≤ i + (output.length + 7) / 8
      · simp only [enough, if_true, Option.some.injEq] at ticked
        simp only [live, enough, if_true, ← ticked]
        exact ⟨trivial, _, rfl, fun _ => rfl⟩
      · simp only [enough, if_false, Option.some.injEq] at ticked
        simp only [live, enough, if_false, ← ticked]
        exact ⟨trivial, _, rfl, fun _ => rfl⟩
  · next typing other live =>
      cases Option.some.inj ticked
      split
      · next cmd output i text =>
          exact (other cmd output i (Option.some.inj (live.symm.trans text))).elim
      · exact ⟨rfl, [], (List.append_nil _).symm, fun _ => rfl⟩

theorem ticks_exec (terminal : RealTerminal) (count : Nat) (history : List HistoryEntry)
    (view : DemoTerminal.RealTerminal)
    (ticked : DemoTerminal.demo.exec (List.replicate count .tick)
      { terminal.view with history } = some view) :
    ∃ next, component.exec (List.replicate count .tick) terminal = some next ∧
      next.view = { view with history := terminal.view.history } ∧
      next.demoMode = terminal.demoMode := by
  induction count generalizing terminal history with
  | zero =>
      cases Option.some.inj ticked
      exact ⟨terminal, rfl, rfl, rfl⟩
  | succ count ih =>
      rw [List.replicate_succ] at ticked ⊢
      obtain ⟨later, stepped, rest⟩ := (DemoTerminal.demo.exec_cons ..).mp ticked
      have set : terminal.view.typing.isSome = true := by
        cases typing : terminal.view.typing with
        | none => simp [DemoTerminal.demo, DemoTerminal.RealTerminal.tick, typing] at stepped
        | some live => rfl
      obtain ⟨frame, kept, -⟩ := tick_frame (tick_cases terminal set)
      rw [(tick_demo terminal history later stepped).1] at rest
      obtain ⟨next, run, same, demoMode⟩ := ih terminal.tick later.history rest
      refine ⟨next, (component.exec_cons ..).mpr
        ⟨terminal.tick, (step_eq_some ..).mpr ⟨set, rfl⟩, run⟩, ?_, ?_⟩
      · rw [same, kept]
      · rw [demoMode, frame]

theorem takes_of_exec {terminal next : RealTerminal} (labels : List Label)
    (run : component.exec labels terminal = some next) (kept : taken next = taken terminal)
    (takes : Takes next) : Takes terminal := by
  obtain ⟨more, later, rest, grown⟩ := takes
  refine ⟨labels ++ more, later, ?_, kept ▸ grown⟩
  rw [component.exec_append, run]
  exact rest

/-- A running terminal that is not locked becomes free. -/
theorem busy_takes (terminal : RealTerminal) (wired : Wired terminal)
    (running : terminal.view.running = true) (unlocked : ¬ Locked terminal) :
    Takes terminal := by
  by_cases wedged : DemoTerminal.Wedged terminal.view
  · have opened : terminal.sock = .opened := by
      cases phase : terminal.sock with
      | connecting => exact absurd (wired.early phase) (by simp [running])
      | opened => rfl
      | closing => exact absurd ⟨Or.inl phase, wedged⟩ unlocked
      | ended => exact absurd ⟨Or.inr phase, wedged⟩ unlocked
    have released : releases "[exit code: 0]" = true := by decide +kernel
    have allowed : terminal.Allows (.message "[exit code: 0]" false) := ⟨opened, nofun⟩
    have next := wired_after terminal wired (.message "[exit code: 0]" false) allowed
    refine takes_after (.message "[exit code: 0]" false) allowed rfl ?_
    refine free_takes _ next ?_ fun deaf => ?_
    · change (if releases "[exit code: 0]" then false else terminal.view.running) = false
      rw [released]
      rfl
    · exact absurd (opened.symm.trans deaf.1) (by simp)
  · have texts : ∃ cmd text i, terminal.view.typing = some ⟨cmd, .string text, i⟩ := by
      by_contra others
      refine wedged ⟨running, fun typing text live output =>
        others ⟨typing.cmd, text, typing.i, ?_⟩⟩
      rw [live, ← output]
    obtain ⟨cmd, text, i, live⟩ := texts
    obtain ⟨count, ended, _⟩ := DemoTerminal.types_out terminal.view cmd text i running live
    obtain ⟨next, run, view, demoMode⟩ := ticks_exec terminal count _ _ ended
    have inDemo := wired.rendered (wired.effectRan (wired.typing (by simp [live])))
    refine takes_of_exec _ run (by rw [taken, view]; rfl) ?_
    refine demo_takes next (wired_of_exec _ terminal next wired run) ?_ (demoMode.trans inDemo)
    rw [view]

/-- No command is taken any more, whatever comes, exactly when the terminal is
locked by a command whose end cannot arrive or deaf. -/
theorem unusable_iff (labels : List Label) (terminal : RealTerminal)
    (run : component.exec labels mounted = some terminal) :
    (∀ more later, component.exec more terminal = some later →
        taken later = taken terminal) ↔ Locked terminal ∨ Deaf terminal := by
  have wired := wired_of_run labels terminal run
  constructor
  · intro unchanged
    by_contra usable
    rw [not_or] at usable
    have takes : Takes terminal := by
      cases running : terminal.view.running with
      | false => exact free_takes terminal wired running usable.2
      | true => exact busy_takes terminal wired running usable.1
    obtain ⟨more, later, continued, grown⟩ := takes
    exact absurd (unchanged more later continued) (Nat.ne_of_gt grown)
  · intro dead more later continued
    have kept : Wired later ∧ (Locked later ∨ Deaf later) ∧ taken later = taken terminal := by
      refine component.invariant_of_exec
        (fun state => Wired state ∧ (Locked state ∨ Deaf state) ∧ taken state = taken terminal)
        ?_ more terminal later ⟨wired, dead, rfl⟩ continued
      rintro state label next ⟨wired, dead, same⟩ stepped
      obtain ⟨allowed, rfl⟩ := (step_eq_some state next label).mp stepped
      refine ⟨wired_after state wired label allowed, ?_⟩
      rcases dead with locked | deaf
      · obtain ⟨locked, count⟩ := locked_after state wired label locked allowed
        exact ⟨Or.inl locked, count.trans same⟩
      · obtain ⟨deaf, count⟩ := deaf_after state wired label deaf allowed
        exact ⟨Or.inr deaf, count.trans same⟩
    exact kept.2.2

/-- The environment does not come while a command is under way. -/
def cutOff : List Label :=
  [.opened, .enter (units "ps"), .message "1 root" true, .fetchFailed, .render, .effect]

theorem unusable_cutOff : ∃ terminal, component.exec cutOff mounted = some terminal ∧
    ∀ more later, component.exec more terminal = some later → taken later = taken terminal := by
  have outcome : ∃ terminal ∈ component.exec cutOff mounted,
      terminal.sock = .ended ∧ terminal.view.running = true ∧ terminal.view.typing = none := by
    decide +kernel
  obtain ⟨terminal, run, ended, running, still⟩ := outcome
  refine ⟨terminal, run,
    (unusable_iff cutOff terminal run).mpr (Or.inl ⟨Or.inr ended, running, ?_⟩)⟩
  intro typing text live
  exact absurd (still.symm.trans live) (by simp)

end KernelSprint.TerminalSwitch

import KernelSprint.Web.TerminalSwitch

/-!
# Answers in the terminal's history

What waits for a render reads the ref when React runs it.  So an entry can lose
its texts to the key press for the next command, but across the switch to the
demo mode no text gets into the entry of another command.
-/

set_option autoImplicit false

namespace KernelSprint.TerminalAnswers

open Labelled TerminalSwitch TerminalSwitch.RealTerminal
open DemoTerminal (Units units trim HistoryEntry simulateCommand)
open Terminal (releases)

/-- The entry shows all that `simulateCommand` returns. -/
def Finished (entry : HistoryEntry) : Prop :=
  simulateCommand entry.cmd = .ok (.string entry.out)

/-- The entry shows the beginning of what `simulateCommand` returns, and
nothing where that is no text. -/
def Partly (entry : HistoryEntry) : Prop :=
  (∃ text, simulateCommand entry.cmd = .ok (.string text) ∧ entry.out <+: text) ∨
    (∀ text, simulateCommand entry.cmd ≠ .ok (.string text)) ∧ entry.out = []

theorem partly_of_finished (entry : HistoryEntry) (finished : Finished entry) : Partly entry :=
  Or.inl ⟨entry.out, finished, List.prefix_refl _⟩

/-- The entry of a command that was sent shows all the texts that arrived for
it, or it has been emptied. -/
def Recorded (entry told : HistoryEntry) : Prop :=
  entry.cmd = told.cmd ∧ (entry.out = told.out ∨ entry.out = [])

/-- An entry has texts that are still to be read from the ref. -/
def Unread (terminal : RealTerminal) : Prop :=
  terminal.queue.getLast? = some (.heard none) ∧ terminal.view.currentOut ≠ [] ∧
    terminal.view.history ≠ []

/-- `run` empties the ref before React has read it for the command before. -/
def Loses (terminal : RealTerminal) : Label → Prop
  | .enter input => Taking terminal input ∧ Unread terminal
  | _ => False

/-- What waits for a render while the last command is one that was sent. -/
inductive Waiting (currentOut : Units) : List Updater → Prop
  | rendered : Waiting currentOut []
  | eager : Waiting currentOut [.heard (some currentOut)]
  | late (earlier : List Updater)
      (heards : ∀ updater ∈ earlier, ∃ eager, updater = .heard eager) :
      Waiting currentOut (earlier ++ [.heard none])

/-- What the component is about, with the entries of the demo mode. -/
inductive Doing (view : DemoTerminal.RealTerminal) (demo : List HistoryEntry) : Prop
  | idle (free : view.running = false) (still : view.typing = none)
      (finished : ∀ entry ∈ demo, Finished entry)
  | waiting (running : view.running = true) (still : view.typing = none) (live : demo = [])
  | typing (past : List HistoryEntry) (cmd text : Units) (i : Nat)
      (running : view.running = true) (split : demo = past ++ [⟨cmd, text.take i⟩])
      (output : view.typing = some ⟨cmd, .string text, i⟩)
      (value : simulateCommand cmd = .ok (.string text))
      (finished : ∀ entry ∈ past, Finished entry)
  | stuck (past : List HistoryEntry) (cmd : Units) (running : view.running = true)
      (split : demo = past ++ [⟨cmd, []⟩])
      (other : ∀ typing text, view.typing = some typing → typing.output ≠ .string text)
      (value : ∀ text, simulateCommand cmd ≠ .ok (.string text))
      (finished : ∀ entry ∈ past, Finished entry)

/-- The history is that of the socket and then that of the demo mode. -/
structure Parts (terminal : RealTerminal) (real demo : List HistoryEntry) : Prop where
  history : terminal.settled.history = real ++ demo
  recorded : List.Forall₂ Recorded real terminal.told
  current : demo = [] → terminal.told = [] ∨ ∃ before past cmd,
    real = before ++ [⟨cmd, terminal.view.currentOut⟩] ∧
      terminal.told = past ++ [⟨cmd, terminal.view.currentOut⟩]
  waiting : demo = [] → Waiting terminal.view.currentOut terminal.queue
  typed : demo ≠ [] → ∀ updater ∈ terminal.queue, ∃ entry, updater = .typed entry
  shown : demo ≠ [] → terminal.effectRan = true
  doing : Doing terminal.view demo

theorem hear_append (data : Units) (past : List HistoryEntry) (last : HistoryEntry) :
    hear data (past ++ [last]) = past ++ [{ last with out := last.out ++ data }] :=
  Window.change_concat (hear data) (fun entry => { entry with out := entry.out ++ data })
    (fun _ => rfl) (fun _ _ _ => rfl) past last

theorem setLastOut_setLastOut (first second : Units) (history : List HistoryEntry) :
    setLastOut second (setLastOut first history) = setLastOut second history := by
  induction history using List.reverseRecOn with
  | nil => rfl
  | append_singleton past last _ => simp only [setLastOut_append]

/-- Only the last of these updaters decides. -/
theorem heards_foldl (currentOut out : Units) (queue : List Updater)
    (heards : ∀ updater ∈ queue, ∃ eager, updater = .heard eager) (history : List HistoryEntry) :
    setLastOut out (queue.foldl (Updater.apply currentOut) history) = setLastOut out history := by
  induction queue generalizing history with
  | nil => rfl
  | cons updater rest ih =>
      obtain ⟨⟨eager, rfl⟩, others⟩ := List.forall_mem_cons.mp heards
      rw [List.foldl_cons, ih others]
      exact setLastOut_setLastOut _ _ history

theorem typed_foldl (first second : Units) (queue : List Updater)
    (typed : ∀ updater ∈ queue, ∃ entry, updater = .typed entry) (history : List HistoryEntry) :
    queue.foldl (Updater.apply first) history = queue.foldl (Updater.apply second) history := by
  induction queue generalizing history with
  | nil => rfl
  | cons updater rest ih =>
      obtain ⟨⟨entry, rfl⟩, others⟩ := List.forall_mem_cons.mp typed
      exact ih others _

theorem waiting_heards {currentOut : Units} {queue : List Updater}
    (waiting : Waiting currentOut queue) :
    ∀ updater ∈ queue, ∃ eager, updater = .heard eager := by
  cases waiting with
  | rendered => exact List.forall_mem_nil _
  | eager => exact List.forall_mem_singleton.mpr ⟨_, rfl⟩
  | late earlier heards =>
      exact List.forall_mem_append.mpr ⟨heards, List.forall_mem_singleton.mpr ⟨none, rfl⟩⟩

theorem waiting_foldl {currentOut : Units} {queue : List Updater}
    (waiting : Waiting currentOut queue) (some : queue ≠ []) (history : List HistoryEntry) :
    queue.foldl (Updater.apply currentOut) history = setLastOut currentOut history := by
  cases waiting with
  | rendered => exact absurd rfl some
  | eager => rfl
  | late earlier heards =>
      rw [List.foldl_append]
      exact heards_foldl _ _ earlier heards history

/-- What an empty ref leaves of what waits. -/
theorem waiting_empties {currentOut : Units} {queue : List Updater}
    (waiting : Waiting currentOut queue) (history : List HistoryEntry) :
    queue.foldl (Updater.apply []) history =
      if queue.getLast? = some (.heard none) then
        setLastOut [] (queue.foldl (Updater.apply currentOut) history)
      else queue.foldl (Updater.apply currentOut) history := by
  cases waiting with
  | rendered => rfl
  | eager => rfl
  | late earlier heards =>
      rw [List.getLast?_concat, if_pos rfl, List.foldl_append, List.foldl_append]
      have same := heards_foldl [] [] earlier heards history
      have other := heards_foldl currentOut currentOut earlier heards history
      change setLastOut [] _ = setLastOut [] (setLastOut currentOut _)
      rw [same, other, setLastOut_setLastOut]

theorem waiting_message {currentOut : Units} {queue : List Updater}
    (waiting : Waiting currentOut queue) (data : Units) (eager : Bool)
    (first : eager = true → queue = []) :
    Waiting (currentOut ++ data)
      (queue ++ [.heard (if eager then some (currentOut ++ data) else none)]) := by
  cases eager with
  | true =>
      rw [first rfl]
      exact .eager
  | false => exact .late queue (waiting_heards waiting)

theorem forall₂_concat {rel : HistoryEntry → HistoryEntry → Prop}
    (first second : List HistoryEntry) (one other : HistoryEntry) :
    List.Forall₂ rel (first ++ [one]) (second ++ [other]) ↔
      List.Forall₂ rel first second ∧ rel one other := by
  rw [← List.forall₂_reverse_iff, List.reverse_append, List.reverse_append,
    ← @List.forall₂_reverse_iff _ _ _ first, and_comm]
  exact List.forall₂_cons

section Hearing

variable (terminal : RealTerminal) (real : List HistoryEntry) (parts : Parts terminal real [])

include parts

theorem doing_message (data : String) (eager : Bool) :
    Doing (terminal.onmessage data eager).view [] := by
  cases released : releases data with
  | true =>
      refine .idle ?_ ?_ (List.forall_mem_nil _)
      · simp [onmessage, released]
      · cases parts.doing with
        | idle free still finished => exact still
        | waiting running still live => exact still
        | typing past cmd text i running split output value finished => simp at split
        | stuck past cmd running split other value finished => simp at split
  | false =>
      have same : (terminal.onmessage data eager).view.running = terminal.view.running := by
        simp [onmessage, released]
      cases parts.doing with
      | idle free still finished => exact .idle (same.trans free) still finished
      | waiting running still live => exact .waiting (same.trans running) still live
      | typing past cmd text i running split output value finished => simp at split
      | stuck past cmd running split other value finished => simp at split

/-- The last entry of the settled history takes the text. -/
theorem settled_message (data : String) (eager : Bool)
    (first : eager = true → terminal.queue = []) :
    (terminal.onmessage data eager).settled.history =
      setLastOut (terminal.view.currentOut ++ units data) real := by
  have waiting := parts.waiting rfl
  have whole : terminal.settled.history = real := by simpa using parts.history
  rw [← whole]
  exact (waiting_foldl (waiting_message waiting (units data) eager first) (by simp) _).trans
    (heards_foldl _ _ terminal.queue (waiting_heards waiting) _).symm

theorem parts_message (data : String) (eager : Bool)
    (first : eager = true → terminal.queue = []) :
    ∃ real', Parts (terminal.onmessage data eager) real' [] ∧
      (real' = (terminal.onmessage data eager).told ↔ real = terminal.told) := by
  have settled := settled_message terminal real parts data eager first
  have waiting := waiting_message (parts.waiting rfl) (units data) eager first
  have doing := doing_message terminal real parts data eager
  have told : (terminal.onmessage data eager).told = hear (units data) terminal.told := rfl
  have recorded := parts.recorded
  rcases parts.current rfl with nothing | ⟨before, past, cmd, shown, last⟩
  · rw [nothing] at recorded told
    cases List.forall₂_nil_right_iff.mp recorded
    refine ⟨[], ⟨settled, ?_, fun _ => Or.inl told, fun _ => waiting, absurd rfl, absurd rfl, doing⟩,
      ?_⟩
    · rw [told]
      exact .nil
    · rw [told, nothing]
      rfl
  · let heard : HistoryEntry := ⟨cmd, terminal.view.currentOut ++ units data⟩
    have ends : (terminal.onmessage data eager).settled.history = before ++ [heard] := by
      rw [settled, shown, setLastOut_append]
    have said : (terminal.onmessage data eager).told = past ++ [heard] := by
      rw [told, last, hear_append]
    rw [shown, last] at recorded
    refine ⟨before ++ [heard], ⟨by rw [ends, List.append_nil], ?_,
      fun _ => Or.inr ⟨before, past, cmd, rfl, said⟩, fun _ => waiting, absurd rfl, absurd rfl,
      doing⟩, ?_⟩
    · rw [said]
      exact (forall₂_concat ..).mpr ⟨((forall₂_concat ..).mp recorded).1, rfl, Or.inl rfl⟩
    · rw [said, shown, last, List.append_left_inj, List.append_left_inj]

/-- `run` has emptied the ref when the render takes what waits. -/
theorem emptied :
    ∃ kept, terminal.queue.foldl (Updater.apply []) terminal.view.history = kept ∧
      List.Forall₂ Recorded kept terminal.told ∧
      (kept = terminal.told ↔ real = terminal.told ∧ ¬ Unread terminal) := by
  have whole : terminal.settled.history = real := by simpa using parts.history
  have waiting := parts.waiting rfl
  have recorded := parts.recorded
  have length : real.length = terminal.view.history.length := by
    rw [← whole]
    refine foldl_length _ _ (fun cmd member => ?_) _
    obtain ⟨eager, same⟩ := waiting_heards waiting _ member
    cases same
  have empties := waiting_empties waiting terminal.view.history
  change _ = if _ then setLastOut [] terminal.settled.history else terminal.settled.history
    at empties
  rw [whole] at empties
  refine ⟨_, empties, ?_⟩
  by_cases late : terminal.queue.getLast? = some (.heard none)
  · rw [if_pos late]
    rcases parts.current rfl with nothing | ⟨before, past, cmd, shown, last⟩
    · rw [nothing] at recorded ⊢
      cases List.forall₂_nil_right_iff.mp recorded
      have fresh : terminal.view.history = [] := List.length_eq_zero_iff.mp length.symm
      exact ⟨.nil, by simp [Unread, fresh, setLastOut]⟩
    · have entries : terminal.view.history ≠ [] := by
        rw [← List.length_pos_iff, ← length, shown]
        simp
      rw [shown, last] at recorded ⊢
      rw [setLastOut_append]
      refine ⟨(forall₂_concat ..).mpr ⟨((forall₂_concat ..).mp recorded).1, rfl, Or.inr rfl⟩, ?_⟩
      constructor
      · intro same
        obtain ⟨earlier, ends⟩ := List.append_inj' same rfl
        refine ⟨by rw [earlier], fun unread => unread.2.1 ?_⟩
        exact (congrArg HistoryEntry.out (List.cons.inj ends).1).symm
      · rintro ⟨same, read⟩
        have empty : terminal.view.currentOut = [] := by
          by_contra some
          exact read ⟨late, some, entries⟩
        rw [List.append_cancel_right same, empty]
  · rw [if_neg late]
    exact ⟨recorded, by simp [Unread, late]⟩

end Hearing

section Parting

variable (terminal : RealTerminal) (real demo : List HistoryEntry)
  (parts : Parts terminal real demo)

include parts

theorem parts_frame (next : RealTerminal) (view : next.view = terminal.view)
    (queue : next.queue = terminal.queue) (told : next.told = terminal.told)
    (effectRan : terminal.effectRan = true → next.effectRan = true) : Parts next real demo where
  history := by rw [← parts.history, settled, settled, view, queue]
  recorded := by rw [told]; exact parts.recorded
  current := by rw [view, told]; exact parts.current
  waiting := by rw [view, queue]; exact parts.waiting
  typed := by rw [queue]; exact parts.typed
  shown := fun shown => effectRan (parts.shown shown)
  doing := by rw [view]; exact parts.doing

theorem parts_render : Parts terminal.render real demo where
  history := parts.history
  recorded := parts.recorded
  current := parts.current
  waiting := fun _ => .rendered
  typed := fun _ => List.forall_mem_nil _
  shown := parts.shown
  doing := by
    cases parts.doing with
    | idle free still finished => exact .idle free still finished
    | waiting running still live => exact .waiting running still live
    | typing past cmd text i running split output value finished =>
        exact .typing past cmd text i running split output value finished
    | stuck past cmd running split other value finished =>
        exact .stuck past cmd running split other value finished

theorem doing_free (free : terminal.view.running = false) :
    terminal.view.typing = none ∧ ∀ entry ∈ demo, Finished entry := by
  cases parts.doing with
  | idle free still finished => exact ⟨still, finished⟩
  | waiting running => simp [free] at running
  | typing past cmd text i running => simp [free] at running
  | stuck past cmd running => simp [free] at running

/-- The history once `run` has emptied the ref, before the new entry. -/
theorem opening :
    ∃ kept, terminal.queue.foldl (Updater.apply []) terminal.view.history = kept ++ demo ∧
      List.Forall₂ Recorded kept terminal.told ∧
      (kept = terminal.told ↔ real = terminal.told ∧ ¬ Unread terminal) := by
  by_cases live : demo = []
  · subst live
    simpa only [List.append_nil] using emptied terminal real parts
  · have typed := parts.typed live
    refine ⟨real, ?_, parts.recorded, ?_⟩
    · rw [typed_foldl [] terminal.view.currentOut _ typed, ← parts.history]
      rfl
    · have read : ¬ Unread terminal := fun unread => by
        obtain ⟨entry, same⟩ := typed _ (List.mem_of_getLast? unread.1)
        cases same
      simp [read]

theorem parts_run (wired : Wired terminal) (input : Units)
    (enabled : terminal.rendered.running = false) :
    ∃ real' demo', Parts (terminal.run input) real' demo' ∧
      (real' = (terminal.run input).told ↔
        real = terminal.told ∧ ¬ Loses terminal (.enter input)) := by
  have free : terminal.view.running = false := by
    by_contra running
    rw [wired.shown (by simpa using running)] at enabled
    cases enabled
  obtain ⟨still, finished⟩ := doing_free terminal real demo parts free
  obtain ⟨kept, history, recorded, exact⟩ := opening terminal real demo parts
  have ran := run_cases terminal input enabled
  generalize terminal.run input = next at ran ⊢
  cases ran with
  | ignored refused =>
      exact ⟨real, demo, parts, by simp [Loses, refused]⟩
  | simulated typing typed shown begins =>
      have demoMode : terminal.demoMode = true := wired.rendered shown
      have taking : Taking terminal input := ⟨typed, Or.inl shown⟩
      obtain ⟨sock, taken, _⟩ := taken_eq terminal wired (trim input) typing terminal.told
      rw [taken, history]
      refine ⟨kept, demo ++ [⟨trim input, []⟩], ⟨?_, recorded, fun nothing => by simp at nothing,
        fun nothing => by simp at nothing, fun _ => List.forall_mem_nil _, fun _ => demoMode, ?_⟩,
        ?_⟩
      · exact List.append_assoc ..
      · rcases begins with ⟨output, value, rfl⟩ | ⟨error, value, rfl⟩
        · by_cases text : ∃ text, output = .string text
          · obtain ⟨text, rfl⟩ := text
            exact .typing demo (trim input) text 0 rfl rfl rfl value finished
          · rw [not_exists] at text
            refine .stuck demo (trim input) rfl rfl ?_ ?_ finished
            · rintro typing other live
              cases Option.some.inj live
              exact text other
            · intro other same
              rw [value] at same
              exact text other (Except.ok.inj same)
        · refine .stuck demo (trim input) rfl rfl ?_ ?_ finished
          · rintro typing other live
            exact absurd (still.symm.trans live) (by simp)
          · intro other same
            rw [value] at same
            cases same
      · simpa [Loses, taking] using exact
  | sent typed live opened =>
      have nothing : demo = [] := by
        by_contra shown
        have late := wired.effectRan (parts.shown shown)
        rw [live] at late
        cases late
      subst nothing
      have taking : Taking terminal input := ⟨typed, Or.inr opened⟩
      obtain ⟨sock, taken, _⟩ := taken_eq terminal wired (trim input) terminal.view.typing
        (terminal.told ++ [⟨trim input, []⟩])
      rw [taken, history, List.append_nil]
      refine ⟨kept ++ [⟨trim input, []⟩], [], ⟨?_, ?_, fun _ => Or.inr ⟨kept, terminal.told,
        trim input, rfl, rfl⟩, fun _ => .rendered, absurd rfl, absurd rfl,
        .waiting rfl still rfl⟩, ?_⟩
      · exact (List.append_nil _).symm
      · exact (forall₂_concat ..).mpr ⟨recorded, rfl, Or.inl rfl⟩
      · rw [List.append_left_inj, exact]
        simp [Loses, taking]

theorem parts_tick (set : terminal.view.typing.isSome = true) :
    ∃ demo', Parts terminal.tick real demo' ∧ terminal.tick.told = terminal.told := by
  have ticked := tick_cases terminal set
  generalize terminal.tick = next at ticked ⊢
  have fresh : ∀ out, demo ≠ [] →
      terminal.queue.foldl (Updater.apply out) terminal.view.history = real ++ demo := by
    intro out live
    rw [typed_foldl out terminal.view.currentOut _ (parts.typed live), ← parts.history]
    rfl
  cases parts.doing with
  | idle free still => simp [still] at set
  | waiting running still => simp [still] at set
  | typing past cmd text i running split output value finished =>
      have live : demo ≠ [] := by simp [split]
      have shown : terminal.effectRan = true := parts.shown live
      have queue : ∀ entry, ∀ updater ∈ terminal.queue ++ [Updater.typed entry],
          ∃ entry, updater = .typed entry := fun entry =>
        List.forall_mem_append.mpr ⟨parts.typed live, List.forall_mem_singleton.mpr ⟨entry, rfl⟩⟩
      have last : ∀ out entry, (terminal.queue ++ [Updater.typed entry]).foldl (Updater.apply out)
          terminal.view.history = real ++ (past ++ [entry]) := by
        intro out entry
        rw [List.foldl_append, fresh out live, split, ← List.append_assoc, ← List.append_assoc]
        exact DemoTerminal.setLast_concat _ _ entry
      cases ticked with
      | last cmd' text' i' live' =>
          cases Option.some.inj (output.symm.trans live')
          refine ⟨_, ⟨last text ⟨cmd, text⟩, parts.recorded,
            fun nothing => by simp at nothing, fun nothing => by simp at nothing,
            fun _ => queue _, fun _ => shown, .idle rfl rfl ?_⟩, rfl⟩
          intro entry member
          rcases List.mem_append.mp member with old | new
          · exact finished entry old
          · rw [List.mem_singleton.mp new]
            exact value
      | more cmd' text' i' live' short =>
          cases Option.some.inj (output.symm.trans live')
          exact ⟨_, ⟨last _ ⟨cmd, text.take (reach text i)⟩, parts.recorded,
            fun nothing => by simp at nothing, fun nothing => by simp at nothing,
            fun _ => queue _, fun _ => shown,
            .typing past cmd text (reach text i) running rfl rfl value finished⟩, rfl⟩
      | raised typing live' other =>
          cases Option.some.inj (output.symm.trans live')
          exact absurd rfl (other text)
  | stuck past cmd running split other value finished =>
      cases ticked with
      | last cmd' text' i' live' => exact absurd rfl (other _ _ live')
      | more cmd' text' i' live' short => exact absurd rfl (other _ _ live')
      | raised typing live' _ => exact ⟨demo, parts, rfl⟩

theorem parts_after (wired : Wired terminal) (label : Label) (allowed : terminal.Allows label) :
    ∃ real' demo', Parts (terminal.after label) real' demo' ∧
      (real' = (terminal.after label).told ↔ real = terminal.told ∧ ¬ Loses terminal label) := by
  have kept : ∀ {next : RealTerminal} {other : Label}, Parts next real demo →
      next.told = terminal.told → ¬ Loses terminal other →
      ∃ real' demo', Parts next real' demo' ∧
        (real' = next.told ↔ real = terminal.told ∧ ¬ Loses terminal other) :=
    fun parts told harmless => ⟨real, demo, parts, by simp [told, harmless]⟩
  cases label with
  | fetched env => exact kept (parts_frame terminal real demo parts _ rfl rfl rfl id) rfl id
  | fetchFailed => exact kept (parts_frame terminal real demo parts _ rfl rfl rfl id) rfl id
  | opened => exact kept (parts_frame terminal real demo parts _ rfl rfl rfl id) rfl id
  | message data eager =>
      have nothing : demo = [] := by
        by_contra shown
        exact (wired.cut (parts.shown shown)).not_opened allowed.1
      subst nothing
      obtain ⟨real', parts', same⟩ := parts_message terminal real parts data eager allowed.2
      exact ⟨real', [], parts', same.trans (by simp [Loses])⟩
  | error => exact kept (parts_frame terminal real demo parts _ rfl rfl rfl id) rfl id
  | close => exact kept (parts_frame terminal real demo parts _ rfl rfl rfl id) rfl id
  | render => exact kept (parts_render terminal real demo parts) rfl id
  | effect =>
      obtain ⟨sock, effect, _⟩ := runEffect_eq terminal
      change ∃ real' demo', Parts terminal.runEffect real' demo' ∧
        (real' = terminal.runEffect.told ↔ _)
      rw [effect]
      exact kept (parts_frame terminal real demo parts _ rfl rfl rfl wired.effectRan) rfl id
  | enter input => exact parts_run terminal real demo parts wired input allowed
  | tick =>
      obtain ⟨demo', parts', told⟩ := parts_tick terminal real demo parts allowed
      refine ⟨real, demo', parts', ?_⟩
      change real = terminal.tick.told ↔ _
      simp [told, Loses]

end Parting

/-- Whatever the order of events, the history that a render gives is first that
of the socket and then that of the demo mode.  An entry of the socket shows the
texts that arrived for its command or none, and all of them show theirs exactly
when `run` never emptied the ref before React had read it.  Every command of
the demo mode shows the beginning of its own simulated answer: all of it once
the terminal is free or a later command has been taken. -/
theorem answers_apart (labels : List Label) (terminal : RealTerminal)
    (run : component.exec labels mounted = some terminal) :
    ∃ real demo, terminal.settled.history = real ++ demo ∧
      List.Forall₂ Recorded real terminal.told ∧
      (real = terminal.told ↔
        component.Along (fun state label _ => ¬ Loses state label) labels mounted) ∧
      (∀ entry ∈ demo, Partly entry) ∧ (∀ entry ∈ demo.dropLast, Finished entry) ∧
      (terminal.view.running = false → ∀ entry ∈ demo, Finished entry) := by
  have kept : ∃ real demo, Parts terminal real demo ∧ (real = terminal.told ↔
      component.Along (fun state label _ => ¬ Loses state label) labels mounted) := by
    refine component.history (fun labels state => ∃ real demo, Parts state real demo ∧
      (real = state.told ↔
        component.Along (fun state label _ => ¬ Loses state label) labels mounted))
      mounted ?_ ?_ labels terminal run
    · refine ⟨[], [], ⟨rfl, .nil, fun _ => Or.inl rfl, fun _ => .rendered, absurd rfl, absurd rfl,
        .idle rfl rfl (List.forall_mem_nil _)⟩, ?_⟩
      exact iff_of_true rfl trivial
    · rintro earlier state label next reached ⟨real, demo, parts, same⟩ stepped
      have wired := wired_of_run earlier state reached
      rw [component.along_concat_iff _ earlier label mounted state next reached stepped, ← same]
      obtain ⟨allowed, rfl⟩ := (step_eq_some state next label).mp stepped
      exact parts_after state real demo parts wired label allowed
  obtain ⟨real, demo, parts, same⟩ := kept
  refine ⟨real, demo, parts.history, parts.recorded, same, ?_, ?_,
    fun free => (doing_free terminal real demo parts free).2⟩
  · cases parts.doing with
    | idle free still finished => exact fun entry member => partly_of_finished _ (finished _ member)
    | waiting running still live =>
        rw [live]
        exact List.forall_mem_nil _
    | typing past cmd text i running split output value finished =>
        rw [split]
        refine List.forall_mem_append.mpr ⟨fun entry member =>
          partly_of_finished _ (finished _ member), List.forall_mem_singleton.mpr ?_⟩
        exact Or.inl ⟨text, value, List.take_prefix i text⟩
    | stuck past cmd running split other value finished =>
        rw [split]
        refine List.forall_mem_append.mpr ⟨fun entry member =>
          partly_of_finished _ (finished _ member), List.forall_mem_singleton.mpr ?_⟩
        exact Or.inr ⟨value, rfl⟩
  · cases parts.doing with
    | idle free still finished =>
        exact fun entry member => finished _ (List.mem_of_mem_dropLast member)
    | waiting running still live =>
        rw [live]
        exact List.forall_mem_nil _
    | typing past cmd text i running split output value finished =>
        rw [split, List.dropLast_concat]
        exact finished
    | stuck past cmd running split other value finished =>
        rw [split, List.dropLast_concat]
        exact finished

/-- A command over the socket whose text names a refusal, two messages more
before the next key press, and a command in demo mode. -/
def releasedEarly : List Label :=
  [.opened, .enter (units "ps"), .message "not allowed" true, .render, .message "1 root" true,
    .message "[exit code: 0]" false, .enter (units "top"), .message "[exit code: 0]" true, .render,
    .error, .render, .effect, .enter (units "nproc"), .tick, .render]

/-- The entry of the first command is empty, whatever it has shown before. -/
theorem answers_apart_releasedEarly : ∃ terminal,
    component.exec releasedEarly mounted = some terminal ∧
      terminal.settled.history = [⟨units "ps", []⟩, ⟨units "top", units "[exit code: 0]"⟩,
        ⟨units "nproc", units "2"⟩] ∧
      terminal.told.map (·.out) = [units "not allowed1 root[exit code: 0]", units "[exit code: 0]"] ∧
      ∃ real demo, terminal.settled.history = real ++ demo ∧
        List.Forall₂ Recorded real terminal.told ∧ ∀ entry ∈ demo, Partly entry := by
  have outcome : ∃ terminal ∈ component.exec releasedEarly mounted,
      terminal.settled.history = [⟨units "ps", []⟩, ⟨units "top", units "[exit code: 0]"⟩,
        ⟨units "nproc", units "2"⟩] ∧
      terminal.told.map (·.out) =
        [units "not allowed1 root[exit code: 0]", units "[exit code: 0]"] := by
    decide +kernel
  obtain ⟨terminal, run, history, told⟩ := outcome
  obtain ⟨real, demo, whole, recorded, -, partly, -⟩ := answers_apart releasedEarly terminal run
  exact ⟨terminal, run, history, told, real, demo, whole, recorded, partly⟩

end KernelSprint.TerminalAnswers

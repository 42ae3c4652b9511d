import KernelSprint.Web.TerminalAttribution

/-!
# When the terminal accepts input again

The server answers every command that it splits into words with a chunk that
releases the client.  It answers the others with a chunk that does not, or
with none at all.
-/

set_option autoImplicit false

namespace KernelSprint.TerminalRelease

open Labelled PyText Relay StreamCommand Terminal TerminalAttribution

/-- The server waits for its next message and every chunk has been delivered. -/
def Quiet (session : Session) : Prop :=
  session.server.handler = .receiving ∧ session.server.inbox = [] ∧ session.inFlight = []

/-- The commands that the client has accepted. -/
def commands (session : Session) : List String := session.client.history.map (·.cmd)

variable (shlexSplit : String → Except String (List String))

/-- The server has only commands of the client, and answers them as the lab
socket does. -/
structure Recorded (session : Session) : Prop where
  waiting : ∀ cmd ∈ session.server.inbox, cmd ∈ commands session
  requested : ∀ entry ∈ session.server.log, entry.request ∈ commands session
  answered : ∀ entry ∈ session.server.log,
    ∃ run, entry.action = lab shlexSplit entry.request run

theorem recorded_grown (session next : Session) (recorded : Recorded shlexSplit session)
    (grown : ∀ cmd ∈ commands session, cmd ∈ commands next)
    (inbox : ∀ cmd ∈ next.server.inbox, cmd ∈ session.server.inbox ∨ cmd ∈ commands next)
    (log : ∀ entry ∈ next.server.log, (∃ old ∈ session.server.log,
        entry.request = old.request ∧ entry.action = old.action) ∨
      (entry.request ∈ commands next ∧ ∃ run, entry.action = lab shlexSplit entry.request run)) :
    Recorded shlexSplit next where
  waiting cmd member := by
    rcases inbox cmd member with old | new
    · exact grown cmd (recorded.waiting cmd old)
    · exact new
  requested entry member := by
    rcases log entry member with ⟨old, oldMember, request, -⟩ | ⟨new, -⟩
    · rw [request]
      exact grown _ (recorded.requested old oldMember)
    · exact new
  answered entry member := by
    rcases log entry member with ⟨old, oldMember, request, action⟩ | ⟨-, new⟩
    · rw [request, action]
      exact recorded.answered old oldMember
    · exact new

theorem recorded_step (session next : Session) (label : SessionLabel)
    (orderly : Orderly session.server) (recorded : Recorded shlexSplit session)
    (stepped : (terminal shlexSplit).step session label = some next) :
    Recorded shlexSplit next := by
  have kept : next.server.inbox = session.server.inbox →
      next.server.log = session.server.log → commands next = commands session →
        Recorded shlexSplit next := by
    intro inbox log same
    refine recorded_grown shlexSplit session next recorded (fun cmd member => same ▸ member) ?_ ?_
    · intro cmd member
      exact Or.inl (inbox ▸ member)
    · intro entry member
      exact Or.inl ⟨entry, log ▸ member, rfl, rfl⟩
  cases label with
  | submit input =>
      obtain ⟨cmd, -, client, server, -⟩ := submit_some shlexSplit session next input stepped
      have same : commands next = commands session ++ [cmd] := by
        simp [commands, client]
      refine recorded_grown shlexSplit session next recorded ?_ ?_ ?_
      · intro old member
        rw [same]
        exact List.mem_append_left _ member
      · intro waiting member
        rw [server] at member
        rcases List.mem_append.mp member with old | new
        · exact Or.inl old
        · exact Or.inr (same ▸ List.mem_append_right _ new)
      · intro entry member
        rw [server] at member
        exact Or.inl ⟨entry, member, rfl, rfl⟩
  | deliver =>
      obtain ⟨data, -, client, server⟩ := deliver_some session next stepped
      refine kept (by rw [server]) (by rw [server]) ?_
      rw [commands, client, RealTerminal.onmessage, setLastOut_cmds, commands]
  | receive run =>
      obtain ⟨ran, client, -⟩ := serve_some shlexSplit session next _ stepped
      obtain ⟨request, rest, -, inbox, queued, log⟩ :=
        receive_frame (lab shlexSplit) session.server next.server run ran
      have same : commands next = commands session := by rw [commands, client, commands]
      refine recorded_grown shlexSplit session next recorded (fun cmd member => same ▸ member) ?_ ?_
      · intro cmd member
        rw [queued] at member
        exact Or.inl (inbox ▸ List.mem_cons_of_mem _ member)
      · intro entry member
        rw [log] at member
        rcases List.mem_cons.mp member with newest | old
        · have known : entry.request ∈ commands next := by
            rw [newest, same]
            exact recorded.waiting request (inbox ▸ List.mem_cons_self)
          have action : entry.action = lab shlexSplit entry.request run := by rw [newest]
          exact Or.inr ⟨known, run, action⟩
        · exact Or.inl ⟨entry, old, rfl, rfl⟩
  | work index =>
      obtain ⟨ran, client, -⟩ := serve_some shlexSplit session next _ stepped
      obtain ⟨inbox, -, log⟩ := work_frame session.server next.server index ran
      exact kept inbox log (by rw [commands, client, commands])
  | get =>
      obtain ⟨ran, client, -⟩ := serve_some shlexSplit session next _ stepped
      obtain ⟨inbox, log⟩ := get_frame session.server next.server ran
      exact kept inbox log (by rw [commands, client, commands])
  | send =>
      obtain ⟨ran, client, -⟩ := sent_some shlexSplit session next stepped
      obtain ⟨sending, older, _, _, logged, -, -, log, inbox⟩ :=
        send_next session.server next.server orderly ran
      have same : commands next = commands session := by rw [commands, client, commands]
      refine recorded_grown shlexSplit session next recorded (fun cmd member => same ▸ member) ?_ ?_
      · intro cmd member
        exact Or.inl (inbox ▸ member)
      · intro entry member
        rw [log] at member
        rcases List.mem_cons.mp member with rfl | old
        · exact Or.inl ⟨sending, logged ▸ List.mem_cons_self, rfl, rfl⟩
        · exact Or.inl ⟨entry, logged ▸ List.mem_cons_of_mem _ old, rfl, rfl⟩

/-! ## The release that is still to come -/

/-- The rest of the answer to the newest received command releases the client,
or never ends. -/
def AnswerReleases (conn : Connection String String) : Prop :=
  ∃ entry older left, conn.log = entry :: older ∧
    entry.action.answer = entry.sent ++ left ∧
    (entry.action.completes = false ∨ ∃ chunk ∈ left, releases chunk)

def ReleaseToCome (session : Session) : Prop :=
  session.client.running = true →
    session.server.inbox ≠ [] ∨ (∃ chunk ∈ session.inFlight, releases chunk) ∨
      AnswerReleases session.server

theorem releaseToCome_quiet (session next : Session) (toCome : ReleaseToCome session)
    (client : next.client = session.client) (inFlight : next.inFlight = session.inFlight)
    (inbox : next.server.inbox = session.server.inbox)
    (log : next.server.log = session.server.log) : ReleaseToCome next := by
  intro running
  rcases toCome (client ▸ running) with waiting | arriving | ⟨entry, older, left, logged, rest⟩
  · exact Or.inl (inbox ▸ waiting)
  · exact Or.inr (Or.inl (inFlight ▸ arriving))
  · exact Or.inr (Or.inr ⟨entry, older, left, log.trans logged, rest⟩)

theorem releaseToCome_deliver (session next : Session) (toCome : ReleaseToCome session)
    (stepped : session.deliver = some next) : ReleaseToCome next := by
  obtain ⟨data, arriving, client, server⟩ := deliver_some session next stepped
  intro running
  simp only [client, RealTerminal.onmessage] at running
  split at running
  · cases running
  · next unmarked =>
      rw [server]
      rcases toCome running with waiting | ⟨chunk, member, marked⟩ | answer
      · exact Or.inl waiting
      · rw [arriving] at member
        rcases List.mem_cons.mp member with rfl | later
        · exact absurd marked unmarked
        · exact Or.inr (Or.inl ⟨chunk, later, marked⟩)
      · exact Or.inr (Or.inr answer)

theorem answerReleases_received (conn : Connection String String) (request : String)
    (action : Action String) (older : List (Entry String String))
    (log : conn.log = ⟨request, action, []⟩ :: older)
    (releasing : action.completes = false ∨ ∃ chunk ∈ action.answer, releases chunk) :
    AnswerReleases conn :=
  ⟨⟨request, action, []⟩, older, action.answer, log, rfl, releasing⟩

theorem releaseToCome_receive (session next : Session) (run : ProcessRun)
    (answerable : ∀ cmd ∈ session.server.inbox, Answerable shlexSplit cmd)
    (stepped : session.serve shlexSplit (.receive run) = some next) : ReleaseToCome next := by
  obtain ⟨ran, -, -⟩ := serve_some shlexSplit session next _ stepped
  obtain ⟨request, rest, -, inbox, -, log⟩ :=
    receive_frame (lab shlexSplit) session.server next.server run ran
  intro _
  refine Or.inr (Or.inr (answerReleases_received next.server _ _ _ log ?_))
  cases completes : (lab shlexSplit request run).completes with
  | false => exact Or.inl rfl
  | true =>
      have known := answerable request (inbox ▸ List.mem_cons_self)
      exact Or.inr (lab_answerable shlexSplit request run known completes)

theorem releaseToCome_send (session next : Session) (orderly : Orderly session.server)
    (toCome : ReleaseToCome session) (stepped : session.send shlexSplit = some next) :
    ReleaseToCome next := by
  obtain ⟨ran, client, inFlight⟩ := sent_some shlexSplit session next stepped
  obtain ⟨sending, former, message, rest, logged, pending, whole, log, inbox⟩ :=
    send_next session.server next.server orderly ran
  rw [pending, Option.toList_some] at inFlight
  intro running
  rw [inFlight, inbox]
  rcases toCome (client ▸ running) with waiting | ⟨chunk, member, marked⟩ |
    ⟨entry, older, left, newest, split, releasing⟩
  · exact Or.inl waiting
  · exact Or.inr (Or.inl ⟨chunk, List.mem_append_left _ member, marked⟩)
  · obtain ⟨rfl, rfl⟩ := List.cons.inj (logged.symm.trans newest)
    have left_eq : left = message :: rest := List.append_cancel_left (split.symm.trans whole)
    subst left_eq
    have later : sending.action.answer = sending.sent ++ [message] ++ rest := by
      rw [whole, List.append_assoc]
      rfl
    rcases releasing with endless | ⟨chunk, member, marked⟩
    · exact Or.inr (Or.inr ⟨_, former, rest, log, later, Or.inl endless⟩)
    · rcases List.mem_cons.mp member with rfl | after
      · exact Or.inr (Or.inl ⟨chunk, List.mem_append_right _ List.mem_cons_self, marked⟩)
      · exact Or.inr (Or.inr ⟨_, former, rest, log, later, Or.inr ⟨chunk, after, marked⟩⟩)

theorem releaseToCome_step (session next : Session) (label : SessionLabel)
    (orderly : Orderly session.server) (toCome : ReleaseToCome session)
    (answerable : ∀ cmd ∈ session.server.inbox, Answerable shlexSplit cmd)
    (stepped : (terminal shlexSplit).step session label = some next) : ReleaseToCome next := by
  cases label with
  | submit input =>
      obtain ⟨cmd, -, -, server, -⟩ := submit_some shlexSplit session next input stepped
      intro _
      exact Or.inl (by simp [server])
  | deliver => exact releaseToCome_deliver session next toCome stepped
  | receive run => exact releaseToCome_receive shlexSplit session next run answerable stepped
  | work index =>
      obtain ⟨ran, client, inFlight⟩ := serve_some shlexSplit session next _ stepped
      obtain ⟨inbox, -, log⟩ := work_frame session.server next.server index ran
      exact releaseToCome_quiet session next toCome client inFlight inbox log
  | get =>
      obtain ⟨ran, client, inFlight⟩ := serve_some shlexSplit session next _ stepped
      obtain ⟨inbox, log⟩ := get_frame session.server next.server ran
      exact releaseToCome_quiet session next toCome client inFlight inbox log
  | send => exact releaseToCome_send shlexSplit session next orderly toCome stepped

theorem commands_step (session next : Session) (label : SessionLabel)
    (stepped : (terminal shlexSplit).step session label = some next) :
    ∀ cmd ∈ commands session, cmd ∈ commands next := by
  have same : next.client = session.client → ∀ cmd ∈ commands session, cmd ∈ commands next := by
    intro client cmd member
    rwa [commands, client]
  cases label with
  | submit input =>
      obtain ⟨cmd, -, client, -, -⟩ := submit_some shlexSplit session next input stepped
      intro old member
      simp only [commands, client, List.map_append]
      exact List.mem_append_left _ member
  | deliver =>
      obtain ⟨data, -, client, -⟩ := deliver_some session next stepped
      intro cmd member
      rwa [commands, client, RealTerminal.onmessage, setLastOut_cmds]
  | receive run => exact same (serve_some shlexSplit session next _ stepped).2.1
  | work index => exact same (serve_some shlexSplit session next _ stepped).2.1
  | get => exact same (serve_some shlexSplit session next _ stepped).2.1
  | send => exact same (sent_some shlexSplit session next stepped).2.1

theorem session_releases (schedule : List SessionLabel) (session : Session)
    (reached : (terminal shlexSplit).exec schedule Session.start = some session) :
    Orderly session.server ∧ Recorded shlexSplit session ∧
      ((∀ cmd ∈ commands session, Answerable shlexSplit cmd) → ReleaseToCome session) := by
  refine Machine.invariant_of_exec (terminal shlexSplit)
    (fun session => Orderly session.server ∧ Recorded shlexSplit session ∧
      ((∀ cmd ∈ commands session, Answerable shlexSplit cmd) → ReleaseToCome session))
    ?_ schedule Session.start session ⟨orderly_accept,
      ⟨List.forall_mem_nil _, List.forall_mem_nil _, List.forall_mem_nil _⟩, fun _ running => by cases running⟩ reached
  rintro earlier label next ⟨orderly, recorded, toCome⟩ stepped
  have recorded' := recorded_step shlexSplit earlier next label orderly recorded stepped
  refine ⟨orderly_session shlexSplit earlier next label orderly stepped, recorded', ?_⟩
  intro answerable
  have before : ∀ cmd ∈ commands earlier, Answerable shlexSplit cmd := fun cmd member =>
    answerable cmd (commands_step shlexSplit earlier next label stepped cmd member)
  exact releaseToCome_step shlexSplit earlier next label orderly (toCome before)
    (fun cmd member => before cmd (recorded.waiting cmd member)) stepped

theorem released_of_quiet (session : Session) (orderly : Orderly session.server)
    (quiet : Quiet session) (toCome : ReleaseToCome session) :
    session.client.running = false := by
  obtain ⟨receiving, inbox, inFlight⟩ := quiet
  by_contra held
  rcases toCome (by simpa using held) with waiting | ⟨chunk, member, -⟩ |
    ⟨entry, older, left, logged, split, releasing⟩
  · exact waiting inbox
  · rw [inFlight] at member
    cases member
  · obtain ⟨settled, -⟩ := orderly_receiving session.server orderly receiving
    obtain ⟨whole, completes⟩ := settled entry (logged ▸ List.mem_cons_self)
    have nothing : left = [] := by
      rw [← whole] at split
      simpa using split
    rcases releasing with endless | ⟨chunk, member, -⟩
    · rw [endless] at completes
      cases completes
    · rw [nothing] at member
      cases member

/-- A releasing chunk in the answer means that the command had words. -/
theorem answerable_of_released (session : Session) (recorded : Recorded shlexSplit session)
    (entry : Entry String String) (logged : entry ∈ session.server.log) (chunk : String)
    (member : chunk ∈ entry.action.answer) (released : releases chunk) :
    Answerable shlexSplit entry.request := by
  obtain ⟨run, action⟩ := recorded.answered entry logged
  by_contra unanswerable
  rw [action] at member
  have unmarked := lab_unanswerable shlexSplit entry.request run unanswerable chunk member
  exact absurd (unmarked.symm.trans released) (by simp)

theorem answerable_of_idle (session : Session) (orderly : Orderly session.server)
    (recorded : Recorded shlexSplit session) (consistent : Consistent session)
    (quiet : Quiet session) (idle : session.client.running = false) :
    ∀ cmd ∈ commands session, Answerable shlexSplit cmd := by
  obtain ⟨-, inbox, -⟩ := quiet
  cases consistent with
  | fresh history _ _ _ _ => simp [commands, history]
  | awaited _ _ _ _ state => exact absurd (inbox.symm.trans state.sent) (by simp)
  | received past current newest older shown history _ state =>
      intro cmd member
      simp only [commands, history, List.map_append, List.map_cons, List.map_nil] at member
      rcases List.mem_append.mp member with earlier | last
      · obtain ⟨entry, entryMember, rfl⟩ := List.mem_map.mp earlier
        obtain ⟨index, found⟩ := List.mem_iff_getElem?.mp entryMember
        obtain ⟨answer, hit, request, -, whole, chunk, chunkMember, released⟩ :=
          Interleaving.forall₂_getElem? state.answered index entry found
        rw [request]
        refine answerable_of_released shlexSplit session recorded answer ?_ chunk
          (whole ▸ chunkMember) released
        rw [state.logged]
        exact List.mem_cons_of_mem _ (List.mem_reverse.mp (List.mem_of_getElem? hit))
      · rw [List.mem_singleton.mp last, state.request]
        have logged : newest ∈ session.server.log := state.logged ▸ List.mem_cons_self
        obtain ⟨chunk, chunkMember, released⟩ := state.released.mp idle
        refine answerable_of_released shlexSplit session recorded newest logged chunk ?_ released
        refine (sent_begins_answer session.server orderly newest logged).subset ?_
        rw [state.split]
        exact List.mem_append_left _ chunkMember

/-- With nothing under way the terminal accepts input if the server could split
every command into words, and only then as long as no command followed by
another one prints a releasing text. -/
theorem terminal_released_iff (schedule : List SessionLabel) (session : Session)
    (reached : (terminal shlexSplit).exec schedule Session.start = some session)
    (quiet : Quiet session) :
    ((∀ cmd ∈ commands session, Answerable shlexSplit cmd) →
        session.client.running = false) ∧
      ((∀ action ∈ followed session, Unmarked action) →
        (session.client.running = false ↔
          ∀ cmd ∈ commands session, Answerable shlexSplit cmd)) := by
  obtain ⟨orderly, recorded, toCome⟩ := session_releases shlexSplit schedule session reached
  have released : (∀ cmd ∈ commands session, Answerable shlexSplit cmd) →
      session.client.running = false :=
    fun answerable => released_of_quiet session orderly quiet (toCome answerable)
  refine ⟨released, fun unmarked => ⟨?_, released⟩⟩
  exact answerable_of_idle shlexSplit session orderly recorded
    (session_consistent shlexSplit schedule session reached unmarked).2 quiet

/-- Two commands, each answered to the end. -/
def answered : List SessionLabel :=
  [.submit "ls", .receive ⟨"", .exited 0⟩, .send, .deliver, .submit " uname ",
    .receive ⟨"Linux\n", .killed⟩, .work 0, .work 0, .work 0, .get, .send, .deliver,
    .get, .send, .deliver, .get]

instance (session : Session) : Decidable (Quiet session) :=
  inferInstanceAs (Decidable (_ ∧ _ ∧ _))

theorem terminal_released_answered :
    ∃ session, (terminal plainSplit).exec answered Session.start = some session ∧
      session.client.running = false := by
  have outcome : ∃ session ∈ (terminal plainSplit).exec answered Session.start,
      Quiet session ∧ ∀ cmd ∈ commands session, strip cmd ≠ "" := by decide +kernel
  obtain ⟨session, reached, quiet, nonempty⟩ := outcome
  have released := (terminal_released_iff plainSplit answered session reached quiet).1
  refine ⟨session, reached, released ?_⟩
  intro cmd member
  have words : plainSplit (strip cmd) = .ok [strip cmd] := rfl
  exact ⟨nonempty cmd member, strip cmd, [], words⟩

/-- `shlex.split` on an unbalanced quote. -/
def unbalanced (_text : String) : Except String (List String) := .error "No closing quotation"

theorem terminal_locked_by_quote :
    ∃ session, (terminal unbalanced).exec
        [.submit "'", .receive ⟨"", .exited 0⟩, .send, .deliver] Session.start = some session ∧
      Quiet session ∧ session.client.running = true := by
  have outcome : ∃ session ∈ (terminal unbalanced).exec
      [.submit "'", .receive ⟨"", .exited 0⟩, .send, .deliver] Session.start,
      Quiet session ∧ session.client.running = true := by decide +kernel
  exact outcome

end KernelSprint.TerminalRelease

import KernelSprint.Lib.Pool
import KernelSprint.Lib.Window
import KernelSprint.Web.Terminal

/-!
# Whose output a terminal entry shows

As long as no command that is followed by another one prints one of the three
releasing texts, the client is released by the last chunk of each answer and
every chunk reaches the entry of its command.
-/

set_option autoImplicit false

namespace KernelSprint.TerminalAttribution

open Labelled PyText Relay StreamCommand Terminal

variable (shlexSplit : String → Except String (List String))

/-! ## Steps of a session -/

theorem submit_some (session next : Session) (input : String)
    (stepped : session.submit shlexSplit input = some next) :
    ∃ cmd, session.client.running = false ∧
      next.client = ⟨session.client.history ++ [⟨cmd, ""⟩], "", true⟩ ∧
      next.server = { session.server with inbox := session.server.inbox ++ [cmd] } ∧
      next.inFlight = session.inFlight := by
  simp only [Session.submit, RealTerminal.run] at stepped
  split at stepped
  · cases stepped
  · next accepted =>
      cases Option.some.inj stepped
      refine ⟨trim input, ?_, rfl, rfl, rfl⟩
      simpa using (not_or.mp accepted).2

theorem deliver_some (session next : Session) (stepped : session.deliver = some next) :
    ∃ data, session.inFlight = data :: next.inFlight ∧
      next.client = session.client.onmessage data ∧ next.server = session.server := by
  unfold Session.deliver at stepped
  split at stepped
  · cases stepped
  · next data inFlight arriving =>
      cases Option.some.inj stepped
      exact ⟨data, arriving, rfl, rfl⟩

theorem serve_some (session next : Session) (label : Label String ProcessRun)
    (stepped : session.serve shlexSplit label = some next) :
    (relay (lab shlexSplit)).step session.server label = some next.server ∧
      next.client = session.client ∧ next.inFlight = session.inFlight := by
  simp only [Session.serve, Option.bind_eq_bind, Option.bind_eq_some_iff] at stepped
  obtain ⟨server, ran, updated⟩ := stepped
  cases Option.some.inj updated
  exact ⟨ran, rfl, rfl⟩

theorem sent_some (session next : Session) (stepped : session.send shlexSplit = some next) :
    session.server.send = some next.server ∧ next.client = session.client ∧
      next.inFlight = session.inFlight ++ session.server.handler.pending.toList := by
  simp only [Session.send, Option.bind_eq_bind, Option.bind_eq_some_iff] at stepped
  obtain ⟨server, ran, updated⟩ := stepped
  cases Option.some.inj updated
  exact ⟨ran, rfl, rfl⟩

theorem orderly_session (session next : Session) (label : SessionLabel)
    (orderly : Orderly session.server)
    (stepped : (terminal shlexSplit).step session label = some next) :
    Orderly next.server := by
  have served : ∀ label, session.serve shlexSplit label = some next → Orderly next.server :=
    fun label ran => orderly_step _ session.server next.server label orderly
      (serve_some shlexSplit session next label ran).1
  cases label with
  | submit input =>
      obtain ⟨cmd, -, -, server, -⟩ := submit_some shlexSplit session next input stepped
      rw [server]
      exact orderly
  | deliver =>
      obtain ⟨data, -, -, server⟩ := deliver_some session next stepped
      rw [server]
      exact orderly
  | receive run => exact served _ stepped
  | work index => exact served _ stepped
  | get => exact served _ stepped
  | send =>
      obtain ⟨ran, -, -⟩ := sent_some shlexSplit session next stepped
      exact orderly_send session.server next.server orderly ran

/-! ## What the client shows -/

theorem setLastOut_append (out : String) (past : List HistoryEntry) (last : HistoryEntry) :
    setLastOut out (past ++ [last]) = past ++ [{ last with out }] :=
  Window.change_concat (setLastOut out) ({ · with out }) (fun _ => rfl) (fun _ _ _ => rfl)
    past last

theorem setLastOut_cmds (out : String) (history : List HistoryEntry) :
    (setLastOut out history).map (·.cmd) = history.map (·.cmd) := by
  induction history using List.reverseRecOn with
  | nil => rfl
  | append_singleton past last _ =>
      rw [setLastOut_append, List.map_append, List.map_append]
      rfl

theorem setLastOut_length (out : String) (history : List HistoryEntry) :
    (setLastOut out history).length = history.length := by
  simpa using congrArg List.length (setLastOut_cmds out history)

theorem join_append (chunks : List String) (last : String) :
    String.join (chunks ++ [last]) = String.join chunks ++ last := by
  simp [String.join, List.foldl_append]

/-- A finished entry: the whole answer, with the chunk that released the client. -/
def Shown (shown : HistoryEntry) (entry : Entry String String) : Prop :=
  shown.cmd = entry.request ∧ shown.out = String.join entry.sent ∧
    entry.sent = entry.action.answer ∧ ∃ chunk ∈ entry.sent, releases chunk

theorem finished_of_mem {past : List HistoryEntry} {entries : List (Entry String String)}
    (answered : List.Forall₂ Shown past entries) (entry : Entry String String)
    (member : entry ∈ entries) : ∃ shown ∈ past, Shown shown entry := by
  induction answered with
  | nil => cases member
  | @cons shown first past rest head _ ih =>
      rcases List.mem_cons.mp member with rfl | later
      · exact ⟨shown, List.mem_cons_self, head⟩
      · obtain ⟨found, foundMember, finished⟩ := ih later
        exact ⟨found, List.mem_cons_of_mem _ foundMember, finished⟩

/-- The newest command has been sent but not received. -/
structure Awaited (session : Session) (past : List HistoryEntry) (current : HistoryEntry) :
    Prop where
  sent : session.server.inbox = [current.cmd]
  answered : List.Forall₂ Shown past session.server.log.reverse
  nothing : session.inFlight = []
  blank : current.out = ""
  running : session.client.running = true

/-- The newest command has been received and its answer shown so far. -/
structure Received (session : Session) (past : List HistoryEntry) (current : HistoryEntry)
    (entry : Entry String String) (older : List (Entry String String))
    (shown : List String) : Prop where
  logged : session.server.log = entry :: older
  empty : session.server.inbox = []
  answered : List.Forall₂ Shown past older.reverse
  request : current.cmd = entry.request
  split : entry.sent = shown ++ session.inFlight
  out : current.out = String.join shown
  released : session.client.running = false ↔ ∃ chunk ∈ shown, releases chunk

inductive Consistent (session : Session) : Prop where
  | fresh (history : session.client.history = []) (log : session.server.log = [])
      (inbox : session.server.inbox = []) (inFlight : session.inFlight = [])
      (running : session.client.running = false)
  | awaited (past : List HistoryEntry) (current : HistoryEntry)
      (history : session.client.history = past ++ [current])
      (currentOut : session.client.currentOut = current.out)
      (state : Awaited session past current)
  | received (past : List HistoryEntry) (current : HistoryEntry)
      (entry : Entry String String) (older : List (Entry String String))
      (shown : List String)
      (history : session.client.history = past ++ [current])
      (currentOut : session.client.currentOut = current.out)
      (state : Received session past current entry older shown)

/-- The answers to the commands that are followed by another one. -/
def followed (session : Session) : List (Action String) :=
  (session.server.log.reverse.map (·.action)).take (session.client.history.length - 1)

/-- No line before the closing one releases the terminal. -/
def Unmarked (action : Action String) : Prop :=
  ∀ line ∈ action.answer.dropLast, releases line = false

/-- The chunk that releases the client is the last one of an unmarked answer. -/
theorem nothing_after_release (action : Action String) (unmarked : Unmarked action)
    (shown rest : List String) (whole : action.answer = shown ++ rest) (chunk : String)
    (member : chunk ∈ shown) (released : releases chunk) : rest = [] := by
  by_contra more
  have early : chunk ∈ action.answer.dropLast := by
    rw [whole, List.dropLast_append_of_ne_nil more]
    exact List.mem_append_left _ member
  rw [unmarked chunk early] at released
  cases released

theorem consistent_submit (session next : Session) (input : String)
    (orderly : Orderly session.server) (consistent : Consistent session)
    (unmarked : ∀ action ∈ followed next, Unmarked action)
    (stepped : session.submit shlexSplit input = some next) : Consistent next := by
  obtain ⟨cmd, idle, client, server, inFlight⟩ := submit_some shlexSplit session next input stepped
  cases consistent with
  | fresh history log inbox nothing running =>
      refine .awaited [] ⟨cmd, ""⟩ (by rw [client, history, List.nil_append])
        (by rw [client])
        ⟨?_, ?_, inFlight.trans nothing, rfl, by rw [client]⟩
      · rw [server, inbox]
        rfl
      · rw [server, log]
        exact List.Forall₂.nil
  | awaited past current history currentOut state =>
      exact absurd (state.running.symm.trans idle) (by simp)
  | received past current entry older shown history currentOut state =>
      obtain ⟨chunk, member, released⟩ := state.released.mp idle
      have entryIs : entry.action ∈ followed next := by
        have count : past.length = older.length := by
          simpa using state.answered.length_eq
        rw [followed, server, client, history, state.logged,
          List.take_of_length_le (by simp [count])]
        simp
      obtain ⟨left, whole⟩ := sent_begins_answer session.server orderly entry
        (state.logged ▸ List.mem_cons_self)
      rw [state.split, List.append_assoc] at whole
      have done := nothing_after_release entry.action (unmarked entry.action entryIs) shown
        (session.inFlight ++ left) whole.symm chunk member released
      obtain ⟨nothing, rfl⟩ := List.append_eq_nil_iff.mp done
      rw [nothing, List.append_nil, List.append_nil] at whole
      have split := state.split
      rw [nothing, List.append_nil] at split
      have finished : Shown current entry :=
        ⟨state.request, by rw [state.out, split], split.trans whole, chunk,
          split ▸ member, released⟩
      refine .awaited (past ++ [current]) ⟨cmd, ""⟩ (by rw [client, history]) (by rw [client])
        ⟨?_, ?_, inFlight.trans nothing, rfl, by rw [client]⟩
      · rw [server, state.empty]
        rfl
      · rw [server, state.logged, List.reverse_cons]
        exact List.rel_append state.answered (List.Forall₂.cons finished List.Forall₂.nil)

theorem consistent_deliver (session next : Session) (consistent : Consistent session)
    (stepped : session.deliver = some next) : Consistent next := by
  obtain ⟨data, arriving, client, server⟩ := deliver_some session next stepped
  cases consistent with
  | fresh _ _ _ nothing _ => exact absurd (arriving.symm.trans nothing) (by simp)
  | awaited _ _ _ _ state => exact absurd (arriving.symm.trans state.nothing) (by simp)
  | received past current entry older shown history currentOut state =>
      have out : session.client.currentOut ++ data = String.join (shown ++ [data]) := by
        rw [currentOut, state.out, join_append]
      refine .received past { current with out := String.join (shown ++ [data]) } entry older
        (shown ++ [data]) ?_ (by rw [client]; exact out)
        ⟨by rw [server, state.logged], by rw [server, state.empty], state.answered,
          state.request, ?_, rfl, ?_⟩
      · simp only [client, RealTerminal.onmessage, history, out, setLastOut_append]
      · rw [state.split, arriving, List.append_assoc]
        rfl
      · simp only [client, RealTerminal.onmessage]
        cases marked : releases data with
        | true => simp [marked]
        | false => simp [marked, state.released]

/-- The server takes up a command only when it has answered all before. -/
theorem consistent_receive (session next : Session) (run : ProcessRun)
    (consistent : Consistent session)
    (stepped : session.serve shlexSplit (.receive run) = some next) : Consistent next := by
  obtain ⟨ran, client, inFlight⟩ := serve_some shlexSplit session next _ stepped
  obtain ⟨request, rest, -, inbox, queued, logged⟩ :=
    receive_frame (lab shlexSplit) session.server next.server run ran
  cases consistent with
  | fresh _ _ empty _ _ => exact absurd (inbox.symm.trans empty) (by simp)
  | received _ _ _ _ _ _ _ state => exact absurd (inbox.symm.trans state.empty) (by simp)
  | awaited past current history currentOut state =>
      obtain ⟨rfl, rfl⟩ := List.cons.inj (inbox.symm.trans state.sent)
      refine .received past current ⟨current.cmd, lab shlexSplit current.cmd run, []⟩
        session.server.log [] (by rw [client, history]) (by rw [client, currentOut])
        ⟨logged, queued, state.answered, rfl, ?_, state.blank, ?_⟩
      · rw [inFlight, state.nothing]
        rfl
      · rw [client, state.running]
        simp

/-- A step that leaves inbox, log and channels alone. -/
theorem consistent_quiet (session next : Session) (consistent : Consistent session)
    (client : next.client = session.client) (inFlight : next.inFlight = session.inFlight)
    (inbox : next.server.inbox = session.server.inbox)
    (log : next.server.log = session.server.log) : Consistent next := by
  cases consistent with
  | fresh history empty nothing quiet running =>
      exact .fresh (by rw [client, history]) (by rw [log, empty]) (by rw [inbox, nothing])
        (by rw [inFlight, quiet]) (by rw [client, running])
  | awaited past current history currentOut state =>
      exact .awaited past current (by rw [client, history]) (by rw [client, currentOut])
        ⟨by rw [inbox, state.sent], log ▸ state.answered, by rw [inFlight, state.nothing],
          state.blank, by rw [client, state.running]⟩
  | received past current entry older shown history currentOut state =>
      exact .received past current entry older shown (by rw [client, history])
        (by rw [client, currentOut])
        ⟨by rw [log, state.logged], by rw [inbox, state.empty], state.answered, state.request,
          by rw [inFlight, state.split], state.out, by rw [client, state.released]⟩

theorem consistent_send (session next : Session) (orderly : Orderly session.server)
    (consistent : Consistent session) (stepped : session.send shlexSplit = some next) :
    Consistent next := by
  obtain ⟨ran, client, inFlight⟩ := sent_some shlexSplit session next stepped
  obtain ⟨sending, former, message, left, logged, pending, whole, log, inbox⟩ :=
    send_next session.server next.server orderly ran
  rw [pending, Option.toList_some] at inFlight
  cases consistent with
  | fresh _ empty _ _ _ => exact absurd (logged.symm.trans empty) (by simp)
  | awaited past current history currentOut state =>
      obtain ⟨shown, -, -, -, finished, -⟩ := finished_of_mem state.answered sending
        (List.mem_reverse.mpr (logged ▸ List.mem_cons_self))
      rw [← finished] at whole
      exact absurd whole.symm (by simp)
  | received past current entry older shown history currentOut state =>
      obtain ⟨rfl, rfl⟩ := List.cons.inj (logged.symm.trans state.logged)
      refine .received past current { sending with sent := sending.sent ++ [message] } former
        shown (by rw [client, history]) (by rw [client, currentOut])
        ⟨log, by rw [inbox, state.empty], state.answered, state.request, ?_, state.out,
          by rw [client, state.released]⟩
      rw [inFlight, ← List.append_assoc, ← state.split]

theorem consistent_step (session next : Session) (label : SessionLabel)
    (orderly : Orderly session.server) (consistent : Consistent session)
    (unmarked : ∀ action ∈ followed next, Unmarked action)
    (stepped : (terminal shlexSplit).step session label = some next) : Consistent next := by
  cases label with
  | submit input =>
      exact consistent_submit shlexSplit session next input orderly consistent unmarked stepped
  | deliver => exact consistent_deliver session next consistent stepped
  | receive run => exact consistent_receive shlexSplit session next run consistent stepped
  | work index =>
      obtain ⟨ran, client, inFlight⟩ := serve_some shlexSplit session next _ stepped
      obtain ⟨inbox, -, log⟩ := work_frame session.server next.server index ran
      exact consistent_quiet session next consistent client inFlight inbox log
  | get =>
      obtain ⟨ran, client, inFlight⟩ := serve_some shlexSplit session next _ stepped
      obtain ⟨inbox, log⟩ := get_frame session.server next.server ran
      exact consistent_quiet session next consistent client inFlight inbox log
  | send => exact consistent_send shlexSplit session next orderly consistent stepped

/-- A command once followed by another stays so. -/
theorem followed_step (session next : Session) (label : SessionLabel)
    (orderly : Orderly session.server)
    (stepped : (terminal shlexSplit).step session label = some next) :
    ∀ action ∈ followed session, action ∈ followed next := by
  have grown : ∀ more : List (Action String),
      (next.server.log.reverse.map (·.action) =
        session.server.log.reverse.map (·.action) ++ more) →
      session.client.history.length ≤ next.client.history.length →
      ∀ action ∈ followed session, action ∈ followed next := by
    intro more log history action member
    have longer : (followed session).length ≤ (followed next).length := by
      simp only [followed, List.length_take, log, List.length_append]
      omega
    have first : followed session <+: next.server.log.reverse.map (·.action) := by
      rw [log]
      exact List.IsPrefix.trans ( List.take_prefix _ _) (List.prefix_append _ _)
    have second : followed next <+: next.server.log.reverse.map (·.action) :=
      List.take_prefix _ _
    exact (List.prefix_of_prefix_length_le first second longer).subset member
  cases label with
  | submit input =>
      obtain ⟨cmd, -, client, server, -⟩ := submit_some shlexSplit session next input stepped
      exact grown [] (by simp [server]) (by simp [client])
  | deliver =>
      obtain ⟨data, -, client, server⟩ := deliver_some session next stepped
      exact grown [] (by simp [server])
        (by rw [client, RealTerminal.onmessage, setLastOut_length])
  | receive run =>
      obtain ⟨ran, client, -⟩ := serve_some shlexSplit session next _ stepped
      obtain ⟨request, _, -, -, -, log⟩ :=
        receive_frame (lab shlexSplit) session.server next.server run ran
      exact grown [lab shlexSplit request run] (by simp [log]) (by rw [client])
  | work index =>
      obtain ⟨ran, client, -⟩ := serve_some shlexSplit session next _ stepped
      obtain ⟨-, -, log⟩ := work_frame session.server next.server index ran
      exact grown [] (by simp [log]) (by rw [client])
  | get =>
      obtain ⟨ran, client, -⟩ := serve_some shlexSplit session next _ stepped
      obtain ⟨-, log⟩ := get_frame session.server next.server ran
      exact grown [] (by simp [log]) (by rw [client])
  | send =>
      obtain ⟨ran, client, -⟩ := sent_some shlexSplit session next stepped
      obtain ⟨entry, older, _, _, logged, -, -, log, -⟩ :=
        send_next session.server next.server orderly ran
      exact grown [] (by simp [log, logged]) (by rw [client])

theorem session_consistent (schedule : List SessionLabel) (session : Session)
    (reached : (terminal shlexSplit).exec schedule Session.start = some session)
    (unmarked : ∀ action ∈ followed session, Unmarked action) :
    Orderly session.server ∧ Consistent session := by
  have invariant := Machine.invariant_of_exec (terminal shlexSplit)
    (fun session => Orderly session.server ∧
      ((∀ action ∈ followed session, Unmarked action) → Consistent session))
    (fun earlier label next holds stepped => ⟨
      orderly_session shlexSplit earlier next label holds.1 stepped,
      fun unmarked => consistent_step shlexSplit earlier next label holds.1
        (holds.2 fun action member => unmarked action
          (followed_step shlexSplit earlier next label holds.1 stepped action member))
        unmarked stepped⟩)
    schedule Session.start session
    ⟨orderly_accept, fun _ => .fresh rfl rfl rfl rfl rfl⟩ reached
  exact ⟨invariant.1, invariant.2 unmarked⟩

/-- The chunks sent so far in answer to the command at the index. -/
def answerSent (session : Session) (index : Nat) : List String :=
  (session.server.log.reverse[index]?.map (·.sent)).getD []

/-- Each entry shows the first chunks of the answer to its own command. -/
def Attributed (session : Session) : Prop :=
  ∀ index entry, session.client.history[index]? = some entry →
    ∃ chunks, chunks <+: answerSent session index ∧ entry.out = String.join chunks

theorem getElem?_snoc_cases {α : Type} (items : List α) (index : Nat) (last found : α)
    (hit : (items ++ [last])[index]? = some found) :
    items[index]? = some found ∨ (index = items.length ∧ found = last) := by
  rcases Nat.lt_trichotomy index items.length with before | same | after
  · left
    rwa [List.getElem?_append_left before] at hit
  · right
    subst same
    simp only [List.getElem?_concat_length, Option.some.injEq] at hit
    exact ⟨rfl, hit.symm⟩
  · rw [List.getElem?_eq_none (by simp; omega)] at hit
    cases hit

theorem attributed_past (session : Session) (past : List HistoryEntry)
    (entries rest : List (Entry String String))
    (log : session.server.log.reverse = entries ++ rest)
    (answered : List.Forall₂ Shown past entries) (index : Nat) (entry : HistoryEntry)
    (found : past[index]? = some entry) :
    ∃ chunks, chunks <+: answerSent session index ∧ entry.out = String.join chunks := by
  obtain ⟨answer, hit, -, out, -⟩ := Interleaving.forall₂_getElem? answered index entry found
  refine ⟨answer.sent, ?_, out⟩
  rw [answerSent, log, List.getElem?_append_left (List.getElem?_eq_some_iff.mp hit).1, hit]
  exact List.prefix_refl _

/-- Every entry shows the beginning of its own command's answer if no command
followed by another one prints a releasing text. -/
theorem output_attributed (schedule : List SessionLabel) (session : Session)
    (reached : (terminal shlexSplit).exec schedule Session.start = some session)
    (unmarked : ∀ action ∈ followed session, Unmarked action) : Attributed session := by
  obtain ⟨-, consistent⟩ := session_consistent shlexSplit schedule session reached unmarked
  intro index entry found
  cases consistent with
  | fresh history _ _ _ _ =>
      rw [history] at found
      cases found
  | awaited past current history _ state =>
      rw [history] at found
      rcases getElem?_snoc_cases past index current entry found with earlier | ⟨-, rfl⟩
      · exact attributed_past session past _ [] (List.append_nil _).symm state.answered index
          entry earlier
      · refine ⟨[], ?_, state.blank⟩
        exact List.nil_prefix
  | received past current newest older shown history _ state =>
      have log : session.server.log.reverse = older.reverse ++ [newest] := by
        rw [state.logged, List.reverse_cons]
      rw [history] at found
      rcases getElem?_snoc_cases past index current entry found with earlier | ⟨rfl, rfl⟩
      · exact attributed_past session past _ [newest] log state.answered index entry earlier
      · refine ⟨shown, ?_, state.out⟩
        rw [answerSent, log, state.answered.length_eq, List.getElem?_concat_length]
        exact ⟨session.inFlight, state.split.symm⟩

/-- Two commands: one that is answered at once, then one that runs. -/
def uneventful : List SessionLabel :=
  [.submit "ls", .receive ⟨"", .exited 0⟩, .send, .deliver, .submit " uname ",
    .receive ⟨"Linux\n", .exited 0⟩, .work 0, .get, .send, .deliver]

/-- How commands of one plain word are split. -/
def plainSplit (text : String) : Except String (List String) := .ok [text]

theorem output_attributed_uneventful :
    ∃ session, (terminal plainSplit).exec uneventful Session.start = some session ∧
      Attributed session := by
  have outcome : ∃ session ∈ (terminal plainSplit).exec uneventful Session.start,
      ∀ action ∈ followed session, ∀ line ∈ action.answer.dropLast, releases line = false := by
    decide +kernel
  obtain ⟨session, reached, unmarked⟩ := outcome
  exact ⟨session, reached, output_attributed plainSplit uneventful session reached unmarked⟩

/-- A command that repeats its argument in an error message, and the next one
typed while the rest of the message is on its way. -/
def releasedEarly : List SessionLabel :=
  [.submit "uname '[exit code:'",
    .receive ⟨"uname: extra operand '[exit code:'\nTry 'uname --help'.\n", .exited 1⟩,
    .work 0, .work 0, .get, .send, .get, .send, .deliver, .submit "ps", .deliver]

def quotedSplit (text : String) : Except String (List String) :=
  .ok (if text = "ps" then ["ps"] else ["uname", "[exit code:"])

theorem output_shown_for_next_command :
    ∃ session, (terminal quotedSplit).exec releasedEarly Session.start = some session ∧
      session.client.history[1]? = some ⟨"ps", "Try 'uname --help'.\n"⟩ ∧
      answerSent session 0 = ["uname: extra operand '[exit code:'\n", "Try 'uname --help'.\n"] ∧
      answerSent session 1 = [] := by
  have outcome : ∃ session ∈ (terminal quotedSplit).exec releasedEarly Session.start,
      session.client.history[1]? = some ⟨"ps", "Try 'uname --help'.\n"⟩ ∧
        answerSent session 0 =
          ["uname: extra operand '[exit code:'\n", "Try 'uname --help'.\n"] ∧
        answerSent session 1 = [] := by decide +kernel
  exact outcome

end KernelSprint.TerminalAttribution

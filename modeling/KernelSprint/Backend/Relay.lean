import KernelSprint.Lib.Machine

/-!
# Worker and relay loop of the request sockets

A handler receives a request, starts a worker thread for it and relays what
the thread puts into the queue until it gets the sentinel.  The threads write
to whatever queue the handler's variable is bound to by then, also those of
earlier requests.
-/

set_option autoImplicit false

namespace KernelSprint.Relay

open Labelled

/-- The events that an agent's generator yields, and whether it raises after
them. -/
structure Outcome (Ev : Type) where
  events : List Ev
  raises : Bool
  deriving DecidableEq, Repr

/-- What a socket does about a request. -/
inductive Action (Ev : Type) where
  | ignore
  | reply (message : Ev)
  | serve (outcome : Outcome Ev)
  | crash
  deriving DecidableEq, Repr

def Action.map {Ev Ev' : Type} (render : Ev → Ev') : Action Ev → Action Ev'
  | .ignore => .ignore
  | .reply message => .reply (render message)
  | .serve outcome => .serve ⟨outcome.events.map render, outcome.raises⟩
  | .crash => .crash

inductive Handler (Ev : Type) where
  | receiving
  | replying (message : Ev)
  | getting
  | sending (event : Ev)
  | closed
  deriving DecidableEq, Repr

inductive Worker (Ev : Type) where
  | running (rest : List Ev) (raises : Bool)
  | ended
  deriving DecidableEq, Repr

/-- A request with what was sent while the handler was busy with it. -/
structure Entry (Req Ev : Type) where
  request : Req
  action : Action Ev
  sent : List Ev
  deriving DecidableEq, Repr

/-- `workers` and `log` have the newest first. -/
structure Connection (Req Ev : Type) where
  inbox : List Req
  handler : Handler Ev
  queue : List (Option Ev)
  workers : List (Worker Ev)
  log : List (Entry Req Ev)
  deriving DecidableEq, Repr

inductive Label (Req World : Type) where
  | arrive (request : Req)
  | receive (world : World)
  | work (index : Nat)
  | get
  | send
  deriving DecidableEq, Repr

variable {Req World Ev : Type}

def Connection.accept : Connection Req Ev := ⟨[], .receiving, [], [], []⟩

/-- One `put`, or the end of the thread. -/
def Worker.step (queue : List (Option Ev)) :
    Worker Ev → Option (List (Option Ev) × Worker Ev)
  | .running (event :: rest) raises => some (queue ++ [some event], .running rest raises)
  | .running [] false => some (queue ++ [none], .ended)
  | .running [] true => some (queue, .ended)
  | .ended => none

def Connection.dispatch (conn : Connection Req Ev) : Action Ev → Connection Req Ev
  | .ignore => conn
  | .reply message => { conn with handler := .replying message }
  | .serve outcome => { conn with
      handler := .getting
      queue := []
      workers := .running outcome.events outcome.raises :: conn.workers }
  | .crash => { conn with handler := .closed }

def Connection.receive (socket : Req → World → Action Ev) (conn : Connection Req Ev)
    (world : World) : Option (Connection Req Ev) :=
  match conn.handler, conn.inbox with
  | .receiving, request :: rest =>
      let received := { conn with
        inbox := rest
        log := ⟨request, socket request world, []⟩ :: conn.log }
      some (received.dispatch (socket request world))
  | _, _ => none

def Connection.work (conn : Connection Req Ev) (index : Nat) :
    Option (Connection Req Ev) := do
  let worker ← conn.workers[index]?
  let (queue, worker) ← worker.step conn.queue
  some { conn with queue, workers := conn.workers.set index worker }

def Connection.get (conn : Connection Req Ev) : Option (Connection Req Ev) :=
  match conn.handler, conn.queue with
  | .getting, some event :: queue => some { conn with queue, handler := .sending event }
  | .getting, none :: queue => some { conn with queue, handler := .receiving }
  | _, _ => none

def recordSent (message : Ev) : List (Entry Req Ev) → List (Entry Req Ev)
  | [] => []
  | entry :: older => { entry with sent := entry.sent ++ [message] } :: older

/-- The message that the handler sends next. -/
def Handler.pending : Handler Ev → Option Ev
  | .replying message => some message
  | .sending event => some event
  | _ => none

def Connection.send (conn : Connection Req Ev) : Option (Connection Req Ev) :=
  match conn.handler with
  | .replying message =>
      some { conn with handler := .receiving, log := recordSent message conn.log }
  | .sending event =>
      some { conn with handler := .getting, log := recordSent event conn.log }
  | _ => none

/-- The handler, its worker threads and the client's requests. -/
def relay (socket : Req → World → Action Ev) :
    Machine (Connection Req Ev) (Label Req World) where
  step conn
    | .arrive request => some { conn with inbox := conn.inbox ++ [request] }
    | .receive world => conn.receive socket world
    | .work index => conn.work index
    | .get => conn.get
    | .send => conn.send

/-! ## Answers -/

def Action.answer : Action Ev → List Ev
  | .reply message => [message]
  | .serve outcome => outcome.events
  | _ => []

/-- The handler comes back for the next request. -/
def Action.completes : Action Ev → Bool
  | .serve outcome => !outcome.raises
  | .crash => false
  | _ => true

def Settled (entry : Entry Req Ev) : Prop :=
  entry.sent = entry.action.answer ∧ entry.action.completes

def sentinel (raises : Bool) : List (Option Ev) := if raises then [] else [none]

/-- What the thread has still to put. -/
def Worker.puts : Worker Ev → List (Option Ev)
  | .running rest raises => rest.map some ++ sentinel raises
  | .ended => []

theorem worker_step_puts (worker worker' : Worker Ev) (queue queue' : List (Option Ev))
    (stepped : worker.step queue = some (queue', worker')) :
    queue' ++ worker'.puts = queue ++ worker.puts := by
  cases worker with
  | ended => cases stepped
  | running rest raises =>
      cases rest with
      | cons event rest =>
          cases stepped
          simp [Worker.puts]
      | nil =>
          cases raises with
          | false =>
              cases stepped
              simp [Worker.puts, sentinel]
          | true =>
              cases stepped
              simp [Worker.puts, sentinel]

/-- No thread is left and the queue is empty. -/
def Idle (conn : Connection Req Ev) : Prop :=
  conn.queue = [] ∧ ∀ worker ∈ conn.workers, worker = .ended

/-- The newest thread and the queue hold exactly `left` and the end of the
generator; every other thread has ended. -/
def Supplies (outcome : Outcome Ev) (left : List Ev) (conn : Connection Req Ev) : Prop :=
  ∃ worker former, conn.workers = worker :: former ∧ (∀ old ∈ former, old = .ended) ∧
    (worker = .ended ∨ ∃ rest, worker = .running rest outcome.raises) ∧
    conn.queue ++ worker.puts = left.map some ++ sentinel outcome.raises

/-- How far the answer to the newest request has come. -/
def Serving (conn : Connection Req Ev) (entry : Entry Req Ev) : Handler Ev → Prop
  | .receiving => Settled entry ∧ Idle conn
  | .replying message => entry.action = .reply message ∧ entry.sent = [] ∧ Idle conn
  | .getting => ∃ outcome left, entry.action = .serve outcome ∧
      entry.sent ++ left = outcome.events ∧ Supplies outcome left conn
  | .sending event => ∃ outcome left, entry.action = .serve outcome ∧
      entry.sent ++ event :: left = outcome.events ∧ Supplies outcome left conn
  | .closed => entry.action = .crash ∧ entry.sent = [] ∧ Idle conn

def Orderly (conn : Connection Req Ev) : Prop :=
  match conn.log with
  | [] => conn.handler = .receiving ∧ Idle conn
  | entry :: older => (∀ answered ∈ older, Settled answered) ∧ Serving conn entry conn.handler

theorem orderly_accept : Orderly (Connection.accept : Connection Req Ev) :=
  ⟨rfl, rfl, List.forall_mem_nil _⟩

theorem orderly_receiving (conn : Connection Req Ev) (orderly : Orderly conn)
    (receiving : conn.handler = .receiving) :
    (∀ entry ∈ conn.log, Settled entry) ∧ Idle conn := by
  unfold Orderly at orderly
  split at orderly
  · next empty =>
      rw [empty]
      exact ⟨List.forall_mem_nil _, orderly.2⟩
  · next entry older logged =>
      rw [receiving] at orderly
      rw [logged]
      exact ⟨List.forall_mem_cons.mpr ⟨orderly.2.1, orderly.1⟩, orderly.2.2⟩

theorem receive_some (socket : Req → World → Action Ev) (conn next : Connection Req Ev)
    (world : World) (stepped : conn.receive socket world = some next) :
    ∃ request rest, conn.handler = .receiving ∧ conn.inbox = request :: rest ∧
      next = Connection.dispatch { conn with
        inbox := rest
        log := ⟨request, socket request world, []⟩ :: conn.log } (socket request world) := by
  unfold Connection.receive at stepped
  split at stepped
  · next request rest receiving arrived =>
      exact ⟨request, rest, receiving, arrived, (Option.some.inj stepped).symm⟩
  · cases stepped

theorem receive_frame (socket : Req → World → Action Ev) (conn next : Connection Req Ev)
    (world : World) (stepped : conn.receive socket world = some next) :
    ∃ request rest, conn.handler = .receiving ∧ conn.inbox = request :: rest ∧
      next.inbox = rest ∧ next.log = ⟨request, socket request world, []⟩ :: conn.log := by
  obtain ⟨request, rest, receiving, arrived, rfl⟩ := receive_some socket conn next world stepped
  refine ⟨request, rest, receiving, arrived, ?_⟩
  cases socket request world <;> exact ⟨rfl, rfl⟩

theorem orderly_receive (socket : Req → World → Action Ev) (conn next : Connection Req Ev)
    (world : World) (orderly : Orderly conn)
    (stepped : conn.receive socket world = some next) : Orderly next := by
  obtain ⟨request, rest, receiving, _, rfl⟩ := receive_some socket conn next world stepped
  obtain ⟨settled, idle⟩ := orderly_receiving conn orderly receiving
  cases answered : socket request world with
  | ignore =>
      refine ⟨settled, ?_⟩
      simp only [Connection.dispatch, receiving, Serving]
      exact ⟨⟨rfl, rfl⟩, idle⟩
  | reply message => exact ⟨settled, rfl, rfl, idle⟩
  | crash => exact ⟨settled, rfl, rfl, idle⟩
  | serve outcome =>
      exact ⟨settled, outcome, outcome.events, rfl, rfl,
        .running outcome.events outcome.raises, conn.workers, rfl, idle.2,
        Or.inr ⟨outcome.events, rfl⟩, rfl⟩

theorem supplies_work (outcome : Outcome Ev) (left : List Ev) (conn next : Connection Req Ev)
    (index : Nat) (supplies : Supplies outcome left conn)
    (stepped : conn.work index = some next) : Supplies outcome left next := by
  obtain ⟨worker, former, workers, ended, follows, supply⟩ := supplies
  simp only [Connection.work, Option.bind_eq_bind, Option.bind_eq_some_iff] at stepped
  obtain ⟨acting, found, ⟨queue', worker'⟩, ran, updated⟩ := stepped
  cases Option.some.inj updated
  rw [workers] at found ⊢
  cases index with
  | succ index =>
      have old := ended acting (List.mem_of_getElem? found)
      subst old
      cases ran
  | zero =>
      cases Option.some.inj found
      refine ⟨worker', former, rfl, ended, ?_, (worker_step_puts _ _ _ _ ran).trans supply⟩
      rcases follows with rfl | ⟨rest, rfl⟩
      · cases ran
      cases rest with
      | cons event rest =>
          cases ran
          exact Or.inr ⟨rest, rfl⟩
      | nil =>
          cases raises : outcome.raises with
          | false =>
              rw [raises] at ran
              cases ran
              exact Or.inl rfl
          | true =>
              rw [raises] at ran
              cases ran
              exact Or.inl rfl

theorem idle_work (conn next : Connection Req Ev) (index : Nat) (idle : Idle conn)
    (stepped : conn.work index = some next) : False := by
  simp only [Connection.work, Option.bind_eq_bind, Option.bind_eq_some_iff] at stepped
  obtain ⟨acting, found, _, ran, _⟩ := stepped
  have old := idle.2 acting (List.mem_of_getElem? found)
  subst old
  cases ran

theorem work_frame (conn next : Connection Req Ev) (index : Nat)
    (stepped : conn.work index = some next) :
    next.inbox = conn.inbox ∧ next.handler = conn.handler ∧ next.log = conn.log := by
  simp only [Connection.work, Option.bind_eq_bind, Option.bind_eq_some_iff] at stepped
  obtain ⟨_, _, _, _, rest⟩ := stepped
  cases Option.some.inj rest
  exact ⟨rfl, rfl, rfl⟩

theorem orderly_work (conn next : Connection Req Ev) (index : Nat) (orderly : Orderly conn)
    (stepped : conn.work index = some next) : Orderly next := by
  obtain ⟨-, sameHandler, sameLog⟩ := work_frame conn next index stepped
  unfold Orderly at orderly ⊢
  rw [sameLog, sameHandler]
  split at orderly
  · exact absurd stepped fun h => idle_work conn next index orderly.2 h
  · next entry older logged =>
      refine ⟨orderly.1, ?_⟩
      have serving := orderly.2
      cases doing : conn.handler with
      | receiving =>
          rw [doing] at serving
          exact (idle_work conn next index serving.2 stepped).elim
      | replying message =>
          rw [doing] at serving
          exact (idle_work conn next index serving.2.2 stepped).elim
      | closed =>
          rw [doing] at serving
          exact (idle_work conn next index serving.2.2 stepped).elim
      | getting =>
          rw [doing] at serving
          obtain ⟨outcome, left, served, total, supplies⟩ := serving
          exact ⟨outcome, left, served, total,
            supplies_work outcome left conn next index supplies stepped⟩
      | sending event =>
          rw [doing] at serving
          obtain ⟨outcome, left, served, total, supplies⟩ := serving
          exact ⟨outcome, left, served, total,
            supplies_work outcome left conn next index supplies stepped⟩

theorem get_some (conn next : Connection Req Ev) (stepped : conn.get = some next) :
    conn.handler = .getting ∧
      ((∃ event queue, conn.queue = some event :: queue ∧
          next = { conn with queue, handler := .sending event }) ∨
        ∃ queue, conn.queue = none :: queue ∧
          next = { conn with queue, handler := .receiving }) := by
  unfold Connection.get at stepped
  split at stepped
  · next event queue getting queued =>
      exact ⟨getting, Or.inl ⟨event, queue, queued, (Option.some.inj stepped).symm⟩⟩
  · next queue getting queued =>
      exact ⟨getting, Or.inr ⟨queue, queued, (Option.some.inj stepped).symm⟩⟩
  · cases stepped

theorem get_frame (conn next : Connection Req Ev) (stepped : conn.get = some next) :
    next.inbox = conn.inbox ∧ next.log = conn.log := by
  obtain ⟨-, ⟨_, _, -, rfl⟩ | ⟨_, -, rfl⟩⟩ := get_some conn next stepped
  · exact ⟨rfl, rfl⟩
  · exact ⟨rfl, rfl⟩

/-- The queue hands out what is left to send, in order. -/
theorem supplies_event (outcome : Outcome Ev) (left : List Ev) (conn : Connection Req Ev)
    (event : Ev) (queue : List (Option Ev)) (queued : conn.queue = some event :: queue)
    (supplies : Supplies outcome left conn) :
    ∃ rest, left = event :: rest ∧
      Supplies outcome rest { conn with queue, handler := .sending event } := by
  obtain ⟨worker, former, workers, ended, follows, supply⟩ := supplies
  rw [queued, List.cons_append] at supply
  cases left with
  | nil =>
      exfalso
      cases raises : outcome.raises <;> simp [sentinel, raises] at supply
  | cons head rest =>
      simp only [List.map_cons, List.cons_append, List.cons.injEq, Option.some.injEq] at supply
      obtain ⟨rfl, supply⟩ := supply
      exact ⟨rest, rfl, worker, former, workers, ended, follows, supply⟩

/-- The sentinel comes last, and only from a generator that returned. -/
theorem supplies_sentinel (outcome : Outcome Ev) (left : List Ev) (conn : Connection Req Ev)
    (queue : List (Option Ev)) (queued : conn.queue = none :: queue)
    (supplies : Supplies outcome left conn) :
    left = [] ∧ outcome.raises = false ∧ queue = [] ∧
      ∀ worker ∈ conn.workers, worker = .ended := by
  obtain ⟨worker, former, workers, ended, follows, supply⟩ := supplies
  rw [queued, List.cons_append] at supply
  cases left with
  | cons head rest => simp at supply
  | nil =>
      cases raises : outcome.raises with
      | true => simp [sentinel, raises] at supply
      | false =>
          simp only [sentinel, raises, List.map_nil, List.nil_append, Bool.false_eq_true,
            if_false, List.cons.injEq, true_and, List.append_eq_nil_iff] at supply
          refine ⟨rfl, rfl, supply.1, ?_⟩
          rw [workers]
          refine List.forall_mem_cons.mpr ⟨?_, ended⟩
          rcases follows with done | ⟨rest, rfl⟩
          · exact done
          · have puts := supply.2
            simp [Worker.puts, sentinel, raises] at puts

theorem orderly_get (conn next : Connection Req Ev) (orderly : Orderly conn)
    (stepped : conn.get = some next) : Orderly next := by
  obtain ⟨getting, outcomes⟩ := get_some conn next stepped
  unfold Orderly at orderly
  split at orderly
  · exact absurd (getting.symm.trans orderly.1) (by simp)
  · next entry older logged =>
      rw [getting] at orderly
      obtain ⟨settled, outcome, left, served, total, supplies⟩ := orderly
      rcases outcomes with ⟨event, queue, queued, rfl⟩ | ⟨queue, queued, rfl⟩
      · obtain ⟨rest, rfl, supplies'⟩ :=
          supplies_event outcome left conn event queue queued supplies
        simp only [Orderly, logged]
        exact ⟨settled, outcome, rest, served, total, supplies'⟩
      · obtain ⟨rfl, returned, rfl, ended⟩ :=
          supplies_sentinel outcome left conn queue queued supplies
        simp only [Orderly, logged]
        rw [List.append_nil] at total
        refine ⟨settled, ⟨?_, ?_⟩, rfl, ended⟩
        · rw [served]
          exact total
        · rw [served]
          simp [Action.completes, returned]

theorem send_some (conn next : Connection Req Ev) (stepped : conn.send = some next) :
    (∃ message, conn.handler = .replying message ∧
        next = { conn with handler := .receiving, log := recordSent message conn.log }) ∨
      ∃ event, conn.handler = .sending event ∧
        next = { conn with handler := .getting, log := recordSent event conn.log } := by
  unfold Connection.send at stepped
  split at stepped
  · next message replying => exact Or.inl ⟨message, replying, (Option.some.inj stepped).symm⟩
  · next event sending => exact Or.inr ⟨event, sending, (Option.some.inj stepped).symm⟩
  · cases stepped

theorem orderly_send (conn next : Connection Req Ev) (orderly : Orderly conn)
    (stepped : conn.send = some next) : Orderly next := by
  unfold Orderly at orderly
  split at orderly
  · rcases send_some conn next stepped with ⟨_, busy, _⟩ | ⟨_, busy, _⟩
    · exact absurd (busy.symm.trans orderly.1) (by simp)
    · exact absurd (busy.symm.trans orderly.1) (by simp)
  · next entry older logged =>
      rcases send_some conn next stepped with ⟨message, busy, rfl⟩ | ⟨event, busy, rfl⟩
      · rw [busy] at orderly
        obtain ⟨settled, replied, unsent, idle⟩ := orderly
        simp only [Orderly, logged, recordSent]
        refine ⟨settled, ⟨?_, ?_⟩, idle⟩
        · simp [replied, unsent, Action.answer]
        · simp [replied, Action.completes]
      · rw [busy] at orderly
        obtain ⟨settled, outcome, left, served, total, supplies⟩ := orderly
        simp only [Orderly, logged, recordSent]
        exact ⟨settled, outcome, left, served, by simpa using total, supplies⟩

theorem orderly_step (socket : Req → World → Action Ev) (conn next : Connection Req Ev)
    (label : Label Req World) (orderly : Orderly conn)
    (stepped : (relay socket).step conn label = some next) : Orderly next := by
  cases label with
  | arrive request =>
      cases Option.some.inj stepped
      exact orderly
  | receive world => exact orderly_receive socket conn next world orderly stepped
  | work index => exact orderly_work conn next index orderly stepped
  | get => exact orderly_get conn next orderly stepped
  | send => exact orderly_send conn next orderly stepped

theorem serving_begins_answer (conn : Connection Req Ev) (entry : Entry Req Ev)
    (handler : Handler Ev) (serving : Serving conn entry handler) :
    entry.sent <+: entry.action.answer := by
  cases handler with
  | receiving => exact serving.1.1 ▸ List.prefix_refl _
  | replying message =>
      rw [serving.2.1]
      exact List.nil_prefix
  | closed =>
      rw [serving.2.1]
      exact List.nil_prefix
  | getting =>
      obtain ⟨outcome, left, action, total, -⟩ := serving
      rw [action]
      exact ⟨left, total⟩
  | sending event =>
      obtain ⟨outcome, left, action, total, -⟩ := serving
      rw [action]
      exact ⟨event :: left, total⟩

theorem sent_begins_answer (conn : Connection Req Ev) (orderly : Orderly conn) :
    ∀ entry ∈ conn.log, entry.sent <+: entry.action.answer := by
  unfold Orderly at orderly
  split at orderly
  · next empty => simp [empty]
  · next entry older logged =>
      rw [logged]
      refine List.forall_mem_cons.mpr ⟨serving_begins_answer conn entry _ orderly.2, ?_⟩
      intro answered member
      have whole := (orderly.1 answered member).1
      exact whole ▸ List.prefix_refl _

/-- A message is the next one of the answer to the newest request. -/
theorem send_next (conn next : Connection Req Ev) (orderly : Orderly conn)
    (stepped : conn.send = some next) :
    ∃ entry older message left, conn.log = entry :: older ∧
      conn.handler.pending = some message ∧
      entry.action.answer = entry.sent ++ message :: left ∧
      next.log = { entry with sent := entry.sent ++ [message] } :: older ∧
      next.inbox = conn.inbox := by
  unfold Orderly at orderly
  split at orderly
  · rcases send_some conn next stepped with ⟨_, busy, _⟩ | ⟨_, busy, _⟩
    · exact absurd (busy.symm.trans orderly.1) (by simp)
    · exact absurd (busy.symm.trans orderly.1) (by simp)
  · next entry older logged =>
      rcases send_some conn next stepped with ⟨message, busy, rfl⟩ | ⟨event, busy, rfl⟩
      · rw [busy] at orderly
        obtain ⟨-, replied, unsent, -⟩ := orderly
        refine ⟨entry, older, message, [], logged, by rw [busy]; rfl, ?_, ?_, rfl⟩
        · rw [replied, unsent]
          rfl
        · simp only [logged, recordSent]
      · rw [busy] at orderly
        obtain ⟨-, outcome, left, served, total, -⟩ := orderly
        refine ⟨entry, older, event, left, logged, by rw [busy]; rfl, ?_, ?_, rfl⟩
        · rw [served]
          exact total.symm
        · simp only [logged, recordSent]

end KernelSprint.Relay

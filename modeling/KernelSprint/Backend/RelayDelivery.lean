import KernelSprint.Backend.Sockets

/-!
# What a client of the request sockets receives

Each answer is relayed whole, in order and unmixed, and the handler comes
back for the next request, exactly as long as the agents' generators return.
A generator that raises ends its thread without the sentinel.
-/

set_option autoImplicit false

namespace KernelSprint.RelayDelivery

open Labelled Relay Sockets

variable {Req World Ev : Type}

/-- Every answer sent so far is one in order, a complete one if the handler has
left the request; and with the threads ended and the queue empty, the handler
is not waiting for an event. -/
structure Relayed (conn : Connection Req Ev) : Prop where
  inOrder : ∀ entry ∈ conn.log, entry.sent <+: entry.action.answer
  formerWhole : ∀ entry ∈ conn.log.tail, entry.sent = entry.action.answer
  whole : conn.handler = .receiving → ∀ entry ∈ conn.log, entry.sent = entry.action.answer
  released : Idle conn → conn.handler ≠ .getting ∧ ∀ event, conn.handler ≠ .sending event

/-- Every generator started so far returns. -/
def GeneratorsReturn (actions : List (Action Ev)) : Prop :=
  ∀ outcome, .serve outcome ∈ actions → outcome.raises = false

def Label.internal : Label Req World → Bool
  | .work _ => true
  | .get => true
  | .send => true
  | _ => false

def served (conn : Connection Req Ev) : List (Action Ev) := conn.log.map (·.action)

/-- The requests received and what the socket did about them. -/
def received (conn : Connection Req Ev) : List (Req × Action Ev) :=
  conn.log.map fun entry => (entry.request, entry.action)

theorem received_recordSent (message : Ev) (log : List (Entry Req Ev)) :
    (recordSent message log).map (fun entry => (entry.request, entry.action)) =
      log.map fun entry => (entry.request, entry.action) := by
  cases log <;> rfl

theorem received_internal (socket : Req → World → Action Ev) (conn next : Connection Req Ev)
    (label : Label Req World) (internal : Label.internal label)
    (stepped : (relay socket).step conn label = some next) : received next = received conn := by
  cases label with
  | arrive request => cases internal
  | receive world => cases internal
  | work index =>
      obtain ⟨-, -, sameLog⟩ := work_frame conn next index stepped
      rw [received, sameLog, received]
  | get =>
      obtain ⟨-, ⟨_, _, -, rfl⟩ | ⟨_, -, rfl⟩⟩ := get_some conn next stepped
      · rfl
      · rfl
  | send =>
      obtain ⟨_, -, rfl⟩ | ⟨_, -, rfl⟩ := send_some conn next stepped
      · exact received_recordSent _ _
      · exact received_recordSent _ _

theorem received_exec (socket : Req → World → Action Ev) (conn final : Connection Req Ev)
    (labels : List (Label Req World)) (internal : ∀ label ∈ labels, Label.internal label)
    (run : (relay socket).exec labels conn = some final) : received final = received conn :=
  Machine.invariant_of_along _ (fun later => received later = received conn) _
    (fun earlier label next same fits stepped =>
      (received_internal socket earlier next label fits stepped).trans same)
    labels conn final rfl (Machine.along_of_labels _ _ labels conn internal) run

theorem served_eq (conn : Connection Req Ev) : served conn = (received conn).map Prod.snd := by
  rw [received, List.map_map]
  rfl

/-- A generator that returns leaves its sentinel in the queue until it is got. -/
theorem supplies_not_idle (outcome : Outcome Ev) (left : List Ev) (conn : Connection Req Ev)
    (returns : outcome.raises = false) (supplies : Supplies outcome left conn) : ¬ Idle conn := by
  rintro ⟨empty, ended⟩
  obtain ⟨worker, former, workers, -, -, supply⟩ := supplies
  have last := ended worker (workers ▸ List.mem_cons_self)
  rw [empty, last, returns] at supply
  simp [Worker.puts, sentinel] at supply

theorem relayed_of_returns (conn : Connection Req Ev) (orderly : Orderly conn)
    (returns : GeneratorsReturn (served conn)) : Relayed conn := by
  have inOrder := sent_begins_answer conn orderly
  unfold Orderly at orderly
  split at orderly
  · next empty =>
      constructor
      · exact inOrder
      · simp [empty]
      · simp [empty]
      · simp [orderly.1]
  · next entry older logged =>
      obtain ⟨settled, serving⟩ := orderly
      constructor
      · exact inOrder
      · rw [logged]
        intro answered member
        exact (settled answered member).1
      · intro receiving
        rw [receiving] at serving
        rw [logged]
        exact List.forall_mem_cons.mpr
          ⟨serving.1.1, fun answered member => (settled answered member).1⟩
      · intro idle
        have busy : ∀ outcome left, entry.action = .serve outcome →
            ¬ Supplies outcome left conn := by
          intro outcome left action supplies
          refine supplies_not_idle outcome left conn (returns outcome ?_) supplies idle
          rw [served, logged, List.map_cons, action]
          exact List.mem_cons_self
        constructor
        · intro getting
          rw [getting] at serving
          obtain ⟨outcome, left, action, -, supplies⟩ := serving
          exact busy outcome left action supplies
        · intro event sending
          rw [sending] at serving
          obtain ⟨outcome, left, action, -, supplies⟩ := serving
          exact busy outcome left action supplies

/-! ## After an exception -/

theorem exec_work (socket : Req → World → Action Ev) (former : List (Worker Ev))
    (rest : List Ev) (raises : Bool) (conn : Connection Req Ev)
    (workers : conn.workers = .running rest raises :: former) :
    (relay socket).exec (List.replicate (rest.length + 1) (.work 0)) conn =
      some { conn with
        queue := conn.queue ++ Worker.puts (.running rest raises)
        workers := .ended :: former } := by
  induction rest generalizing conn with
  | nil =>
      cases raises with
      | false => simp [Machine.exec, relay, Connection.work, workers, Worker.step, Worker.puts,
          sentinel]
      | true => simp [Machine.exec, relay, Connection.work, workers, Worker.step, Worker.puts,
          sentinel]
  | cons event rest ih =>
      rw [List.length_cons, List.replicate_succ]
      refine (Machine.exec_cons ..).mpr ⟨{ conn with
        queue := conn.queue ++ [some event], workers := .running rest raises :: former }, ?_, ?_⟩
      · simp [relay, Connection.work, workers, Worker.step]
      · rw [ih _ rfl]
        simp [Worker.puts]

/-- The handler relays what is left in the queue and then waits for more. -/
theorem exec_drain (socket : Req → World → Action Ev) (left : List Ev)
    (conn : Connection Req Ev) (getting : conn.handler = .getting)
    (queued : conn.queue = left.map some) (ended : ∀ worker ∈ conn.workers, worker = .ended) :
    ∃ labels final, (∀ label ∈ labels, Label.internal label) ∧
      (relay socket).exec labels conn = some final ∧ final.handler = .getting ∧ Idle final := by
  induction left generalizing conn with
  | nil =>
      exact ⟨[], conn, List.forall_mem_nil _, rfl, getting, queued, ended⟩
  | cons event rest ih =>
      obtain ⟨labels, final, internal, run, stillGetting, idle⟩ := ih
        { conn with
          queue := rest.map some, handler := .getting, log := recordSent event conn.log }
        rfl rfl ended
      refine ⟨.get :: .send :: labels, final, ?_, ?_, stillGetting, idle⟩
      · exact List.forall_mem_cons.mpr ⟨rfl, List.forall_mem_cons.mpr ⟨rfl, internal⟩⟩
      · simp only [Machine.exec, relay, Connection.get, getting, queued, List.map_cons,
          Connection.send, Option.bind_some]
        exact run

/-- From an unfinished answer whose generator raises, the threads and the
handler can go on to where the handler waits for nothing. -/
theorem stranded_of_raises (socket : Req → World → Action Ev) (outcome : Outcome Ev)
    (left : List Ev) (conn : Connection Req Ev) (raises : outcome.raises = true)
    (getting : conn.handler = .getting) (supplies : Supplies outcome left conn) :
    ∃ labels final, (∀ label ∈ labels, Label.internal label) ∧
      (relay socket).exec labels conn = some final ∧ final.handler = .getting ∧ Idle final := by
  obtain ⟨worker, former, workers, ended, follows, supply⟩ := supplies
  rw [raises, sentinel, if_pos rfl, List.append_nil] at supply
  rcases follows with rfl | ⟨rest, rfl⟩
  · rw [Worker.puts, List.append_nil] at supply
    refine exec_drain socket left conn getting supply ?_
    rw [workers]
    exact List.forall_mem_cons.mpr ⟨rfl, ended⟩
  · obtain ⟨labels, final, internal, run, stillGetting, idle⟩ := exec_drain socket left
      { conn with queue := left.map some, workers := .ended :: former } getting rfl
      (List.forall_mem_cons.mpr ⟨rfl, ended⟩)
    refine ⟨List.replicate (rest.length + 1) (.work 0) ++ labels, final, ?_, ?_,
      stillGetting, idle⟩
    · intro label member
      rcases List.mem_append.mp member with worked | drained
      · rw [List.eq_of_mem_replicate worked]
        rfl
      · exact internal label drained
    · rw [Machine.exec_append, exec_work socket former rest _ conn workers, supply]
      exact run

theorem returns_of_relayed (socket : Req → World → Action Ev) (conn : Connection Req Ev)
    (orderly : Orderly conn)
    (relayed : ∀ labels final, (∀ label ∈ labels, Label.internal label) →
      (relay socket).exec labels conn = some final → Relayed final) :
    GeneratorsReturn (served conn) := by
  intro outcome member
  by_contra notReturned
  have raises : outcome.raises = true := by simpa using notReturned
  obtain ⟨raising, logged, action⟩ := List.mem_map.mp member
  have unsettled : ¬ Settled raising := by
    rintro ⟨-, completes⟩
    rw [action] at completes
    simp [Action.completes, raises] at completes
  have stuck : ∀ labels final, (∀ label ∈ labels, Label.internal label) →
      (relay socket).exec labels conn = some final → final.handler = .getting →
        ¬ Idle final :=
    fun labels final internal run getting idle =>
      ((relayed labels final internal run).released idle).1 getting
  unfold Orderly at orderly
  split at orderly
  · next empty =>
      rw [empty] at logged
      cases logged
  · next entry older newest =>
      obtain ⟨settled, serving⟩ := orderly
      rw [newest] at logged
      rcases List.mem_cons.mp logged with rfl | old
      · cases doing : conn.handler with
        | receiving =>
            rw [doing] at serving
            exact unsettled serving.1
        | replying message =>
            rw [doing] at serving
            exact absurd (action.symm.trans serving.1) (by simp)
        | closed =>
            rw [doing] at serving
            exact absurd (action.symm.trans serving.1) (by simp)
        | getting =>
            rw [doing] at serving
            obtain ⟨outcome', left, action', -, supplies⟩ := serving
            cases Action.serve.inj (action.symm.trans action')
            obtain ⟨labels, final, internal, run, getting, idle⟩ :=
              stranded_of_raises socket outcome left conn raises doing supplies
            exact stuck labels final internal run getting idle
        | sending event =>
            rw [doing] at serving
            obtain ⟨outcome', left, action', -, supplies⟩ := serving
            cases Action.serve.inj (action.symm.trans action')
            obtain ⟨labels, final, internal, run, getting, idle⟩ :=
              stranded_of_raises socket outcome left
                { conn with handler := .getting, log := recordSent event conn.log } raises rfl
                supplies
            refine stuck (.send :: labels) final
              (List.forall_mem_cons.mpr ⟨rfl, internal⟩) ?_ getting idle
            refine (Machine.exec_cons ..).mpr ⟨_, ?_, run⟩
            simp [relay, Connection.send, doing]
      · exact unsettled (settled raising old)

/-! ## Where the threads and the handler come to rest -/

/-- Neither the threads nor the handler can go on. -/
def Resting (socket : Req → World → Action Ev) (conn : Connection Req Ev) : Prop :=
  ∀ label : Label Req World, Label.internal label → (relay socket).step conn label = none

def Worker.weight : Worker Ev → Nat
  | .running rest _ => 3 * (rest.length + 1)
  | .ended => 0

def Handler.weight : Handler Ev → Nat
  | .replying _ => 1
  | .sending _ => 1
  | _ => 0

/-- What is still to be put, got and sent. -/
def weight (conn : Connection Req Ev) : Nat :=
  (conn.workers.map Worker.weight).sum + 2 * conn.queue.length + Handler.weight conn.handler

theorem sum_set (workers : List (Worker Ev)) (index : Nat) (worker worker' : Worker Ev)
    (found : workers[index]? = some worker) :
    ((workers.set index worker').map Worker.weight).sum + Worker.weight worker =
      (workers.map Worker.weight).sum + Worker.weight worker' := by
  induction workers generalizing index with
  | nil => cases found
  | cons first rest ih =>
      cases index with
      | zero =>
          cases Option.some.inj found
          simp only [List.set_cons_zero, List.map_cons, List.sum_cons]
          omega
      | succ index =>
          have later := ih index found
          simp only [List.set_cons_succ, List.map_cons, List.sum_cons]
          omega

theorem worker_step_weight (worker worker' : Worker Ev) (queue queue' : List (Option Ev))
    (stepped : worker.step queue = some (queue', worker')) :
    Worker.weight worker' + 2 * queue'.length < Worker.weight worker + 2 * queue.length := by
  unfold Worker.step at stepped
  split at stepped <;> cases stepped <;>
    simp only [Worker.weight, List.length_append, List.length_cons, List.length_nil] <;> omega

theorem internal_lowers (socket : Req → World → Action Ev) (conn next : Connection Req Ev)
    (label : Label Req World) (internal : Label.internal label)
    (stepped : (relay socket).step conn label = some next) : weight next < weight conn := by
  unfold weight
  cases label with
  | arrive request => cases internal
  | receive world => cases internal
  | work index =>
      simp only [relay, Connection.work, Option.bind_eq_bind, Option.bind_eq_some_iff] at stepped
      obtain ⟨worker, found, ⟨queue', worker'⟩, ran, updated⟩ := stepped
      cases Option.some.inj updated
      have lighter := worker_step_weight worker worker' _ _ ran
      have total := sum_set conn.workers index worker worker' found
      dsimp only at total ⊢
      omega
  | get =>
      obtain ⟨getting, ⟨event, queue, queued, rfl⟩ | ⟨queue, queued, rfl⟩⟩ :=
        get_some conn next stepped
      · simp only [getting, queued, Handler.weight, List.length_cons]
        omega
      · simp only [getting, queued, Handler.weight, List.length_cons]
        omega
  | send =>
      obtain ⟨message, busy, rfl⟩ | ⟨event, busy, rfl⟩ := send_some conn next stepped
      · simp only [busy, Handler.weight]
        omega
      · simp only [busy, Handler.weight]
        omega

/-- Without new requests the threads and the handler come to rest. -/
theorem internal_bounded (socket : Req → World → Action Ev) (conn final : Connection Req Ev)
    (labels : List (Label Req World)) (internal : ∀ label ∈ labels, Label.internal label)
    (run : (relay socket).exec labels conn = some final) : labels.length ≤ weight conn := by
  rw [← (relay socket).exec_restrict Label.internal labels conn internal] at run
  have bounded := ((relay socket).restrict Label.internal).length_of_measure (fun _ => True)
    weight ?_ labels conn final trivial run
  · omega
  · intro state label next _ stepped
    obtain ⟨fits, stepped⟩ := (relay socket).step_restrict _ _ _ _ stepped
    exact ⟨trivial, internal_lowers socket state next label fits stepped⟩

theorem supplies_goes_on (socket : Req → World → Action Ev) (outcome : Outcome Ev)
    (left : List Ev) (conn : Connection Req Ev) (returns : outcome.raises = false)
    (getting : conn.handler = .getting) (supplies : Supplies outcome left conn) :
    ¬ Resting socket conn := by
  intro resting
  cases queued : conn.queue with
  | cons event queue =>
      have stuck := resting .get rfl
      cases event <;> simp [relay, Connection.get, getting, queued] at stuck
  | nil =>
      obtain ⟨worker, former, workers, -, follows, -⟩ := id supplies
      rcases follows with rfl | ⟨rest, rfl⟩
      · refine supplies_not_idle outcome left conn returns supplies ⟨queued, ?_⟩
        obtain ⟨_, _, workers', ended, -, -⟩ := id supplies
        rw [workers] at workers' ⊢
        cases workers'
        exact List.forall_mem_cons.mpr ⟨rfl, ended⟩
      · have stuck := resting (.work 0) rfl
        rw [returns] at workers
        cases rest <;> simp [relay, Connection.work, workers, Worker.step] at stuck

/-- At rest, the newest request has its answer in full. -/
theorem answered_at_rest (socket : Req → World → Action Ev) (conn : Connection Req Ev)
    (entry : Entry Req Ev) (older : List (Entry Req Ev)) (orderly : Orderly conn)
    (logged : conn.log = entry :: older) (completes : entry.action.completes = true)
    (resting : Resting socket conn) :
    conn.handler = .receiving ∧ entry.sent = entry.action.answer := by
  simp only [Orderly, logged] at orderly
  obtain ⟨-, serving⟩ := orderly
  have returns : ∀ outcome, entry.action = .serve outcome → outcome.raises = false := by
    intro outcome action
    rw [action] at completes
    simpa [Action.completes] using completes
  cases doing : conn.handler with
  | receiving =>
      rw [doing] at serving
      exact ⟨rfl, serving.1.1⟩
  | replying message =>
      have stuck := resting .send rfl
      simp [relay, Connection.send, doing] at stuck
  | sending event =>
      have stuck := resting .send rfl
      simp [relay, Connection.send, doing] at stuck
  | getting =>
      rw [doing] at serving
      obtain ⟨outcome, left, action, -, supplies⟩ := serving
      exact absurd resting
        (supplies_goes_on socket outcome left conn (returns outcome action) doing supplies)
  | closed =>
      rw [doing] at serving
      rw [serving.1] at completes
      cases completes

/-! ## The five sockets -/

/-- Whatever a socket's threads and handler do next keeps to the protocol
exactly when every generator that it has started returns. -/
theorem answers_relayed_iff (shlexSplit : String → Except String (List String)) (name : SocketName)
    (schedule : List (Label name.Frame (name.Params → Outcome name.Event)))
    (conn : Connection name.Frame name.Event)
    (reached : (relay (socket shlexSplit name)).exec schedule .accept = some conn) :
    (∀ labels final, (∀ label ∈ labels, Label.internal label) →
        (relay (socket shlexSplit name)).exec labels conn = some final → Relayed final) ↔
      GeneratorsReturn (served conn) := by
  have orderly : ∀ conn, Orderly conn → ∀ labels final,
      (relay (socket shlexSplit name)).exec labels conn = some final → Orderly final :=
    fun conn holds labels final run => Machine.invariant_of_exec _ Orderly
      (fun conn label next holds stepped =>
        orderly_step (socket shlexSplit name) conn next label holds stepped)
      labels conn final holds run
  have reachedOrderly := orderly _ orderly_accept schedule conn reached
  constructor
  · exact returns_of_relayed (socket shlexSplit name) conn reachedOrderly
  · intro returns labels final internal run
    refine relayed_of_returns final (orderly conn reachedOrderly labels final run) ?_
    have kept : served final = served conn := by
      rw [served_eq, received_exec _ conn final labels internal run, served_eq]
    rw [kept]
    exact returns

theorem patch_answer_relayed :
    ∃ conn, (relay (socket (fun _ => .ok []) .patch)).exec
        [.arrive "diff", .receive (fun _ => ⟨[.null], false⟩), .work 0, .get] .accept =
          some conn ∧
      ∀ labels final, (∀ label ∈ labels, Label.internal label) →
        (relay (socket (fun _ => .ok []) .patch)).exec labels conn = some final →
          Relayed final := by
  refine ⟨⟨[], .sending .null, [], [.running [] false],
    [⟨"diff", .serve ⟨[.null], false⟩, []⟩]⟩, rfl, ?_⟩
  refine (answers_relayed_iff (fun _ => .ok []) .patch
    [.arrive "diff", .receive (fun _ => ⟨[.null], false⟩), .work 0, .get] _ rfl).mpr ?_
  intro outcome member
  cases List.mem_singleton.mp member
  rfl

/-- A share of the memory that is no number, which `memory_stress` compares
with its bounds first of all. -/
def memoryHalf : Json := .object [("action", .string "memory"), ("pct", .string "half")]

theorem raising_agent_strands_handler :
    ∃ conn, (relay (socket (fun _ => .ok []) .chaos)).exec
        [.arrive (some memoryHalf), .receive (fun _ => ⟨[], true⟩), .work 0] .accept =
          some conn ∧
      conn.handler = .getting ∧ Idle conn :=
  ⟨⟨[], .getting, [], [.ended], [⟨some memoryHalf, .serve ⟨[], true⟩, []⟩]⟩, rfl, rfl, rfl,
    fun _ member => List.mem_singleton.mp member⟩

end KernelSprint.RelayDelivery

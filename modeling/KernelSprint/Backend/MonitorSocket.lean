import KernelSprint.Backend.TickPairing
import KernelSprint.Lib.Paths

/-!
# The monitor socket

`/ws/monitor`: a worker thread runs `stream_metrics` and puts its dicts into a
queue, the handler sends what it takes from there, and bpftrace prints lines,
all in any order.  The handler sets the stop event when it is left.
-/

set_option autoImplicit false

namespace KernelSprint.MonitorSocket

open Labelled Generators Generators.Gen PyText StreamMetrics TickPairing Pairing

/-! ## The worker thread -/

section Code

variable (db : CharDb)

/-- The rest of a round of the loop, after the stop event was looked at, with
what the next round begins with. -/
def attendLine (line : String) (pendingSwitches : Option Nat) (previous : Int × Int) :
    Monitor (Option Nat × (Int × Int)) :=
  match switches db line with
  | some count => pure (some count, previous)
  | none =>
      match wakeups db line, pendingSwitches with
      | some wakeups, some switches => do
          let current ← readCpuStat db
          let memoryPct ← readMemoryPct db
          let processes ← readTopProcesses 5
          yieldEvent ⟨switches, wakeups, cpuPct previous current, memoryPct, processes⟩
          pure (none, current)
      | _, _ => pure (pendingSwitches, previous)

/-- Where the thread is in `stream_metrics`.  A result that is still there
after the generator has ended is what the thread goes on with. -/
inductive Worker where
  | unborn
  | opening
  | starting (code : Monitor (Int × Int))
  | reading (pendingSwitches : Option Nat) (previous : Int × Int)
  | checking (line : String) (pendingSwitches : Option Nat) (previous : Int × Int)
  | attending (code : Monitor (Option Nat × (Int × Int)))
  | closing (result : Except PyExn Unit)
  | finished (result : Except PyExn Unit)
  | ended (result : Except PyExn Unit)

/-- Before the `try` an exception ends the generator. -/
def Worker.start : Monitor (Int × Int) → Worker
  | .done previous => .reading none previous
  | .fail exn => .finished (.error exn)
  | code => .starting code

def Worker.attend : Monitor (Option Nat × (Int × Int)) → Worker
  | .done (pendingSwitches, previous) => .reading pendingSwitches previous
  | .fail exn => .closing (.error exn)
  | code => .attending code

/-- One node of the code: a docker exec with its answer, or a dict. -/
def advance {α : Type} (reply : Except PyExn String) :
    Monitor α → Option (Monitor α × List Metrics)
  | .call (.exec _) resume => some (resume reply, [])
  | .emit metrics resume => some (resume none, [metrics])
  | _ => none

end Code

/-! ## The connection -/

inductive Handler where
  | ensuring
  | getting
  | sending (metrics : Metrics)
  | closed

/-- `alive` says that bpftrace runs, `pipe` holds the lines that were printed
and not read.  The lines `read` and the dicts `put` are histories that no code
reads. -/
structure Connection where
  alive : Bool
  pipe : List String
  read : List String
  worker : Worker
  queue : List (Option Metrics)
  put : List Metrics
  handler : Handler
  stop : Bool
  sent : List Metrics

inductive Label where
  | ensured (running : Bool)
  | print (line : String)
  /-- bpftrace ends by itself. -/
  | exit
  | work (reply : Except PyExn String)
  | get
  /-- The client takes the message, or it is gone. -/
  | send (connected : Bool)

def accepted : Connection where
  alive := false
  pipe := []
  read := []
  worker := .unborn
  queue := []
  put := []
  handler := .ensuring
  stop := false
  sent := []

namespace Connection

variable (db : CharDb) (conn : Connection)

def ensured (running : Bool) : Option Connection :=
  match conn.handler with
  | .ensuring =>
      if running then some { conn with worker := .opening, handler := .getting }
      else some { conn with handler := .closed }
  | _ => none

def print (line : String) : Option Connection :=
  if conn.alive then some { conn with pipe := conn.pipe ++ [line] } else none

def exit : Option Connection :=
  if conn.alive then some { conn with alive := false } else none

/-- `events.put(metrics)` for each -/
def putAll (dicts : List Metrics) : Connection :=
  { conn with queue := conn.queue ++ dicts.map some, put := conn.put ++ dicts }

/-- The next step of the thread; `for line in proc.stdout` waits for a line or
for the end of bpftrace. -/
def work (reply : Except PyExn String) : Option Connection :=
  match conn.worker with
  | .unborn => none
  | .opening =>
      match reply with
      | .ok _ => some { conn with alive := true, worker := .start (readCpuStat db) }
      | .error exn => some { conn with worker := .finished (.error exn) }
  | .starting code =>
      (advance reply code).map fun (code, dicts) =>
        { conn with worker := .start code }.putAll dicts
  | .reading pendingSwitches previous =>
      match conn.pipe with
      | line :: rest => some { conn with
          pipe := rest
          read := conn.read ++ [line]
          worker := .checking line pendingSwitches previous }
      | [] => if conn.alive then none else some { conn with worker := .closing (.ok ()) }
  | .checking line pendingSwitches previous =>
      if conn.stop then some { conn with worker := .closing (.ok ()) }
      else some { conn with worker := .attend (attendLine db line pendingSwitches previous) }
  | .attending code =>
      (advance reply code).map fun (code, dicts) =>
        { conn with worker := .attend code }.putAll dicts
  | .closing result => some { conn with alive := false, worker := .finished result }
  | .finished (.ok ()) =>
      some { conn with worker := .ended (.ok ()), queue := conn.queue ++ [none] }
  | .finished (.error exn) => some { conn with worker := .ended (.error exn) }
  | .ended _ => none

def get : Option Connection :=
  match conn.handler, conn.queue with
  | .getting, some metrics :: queue =>
      some { conn with queue := queue, handler := .sending metrics }
  | .getting, none :: queue =>
      some { conn with queue := queue, handler := .closed, stop := true }
  | _, _ => none

def send (connected : Bool) : Option Connection :=
  match conn.handler with
  | .sending metrics =>
      if connected then some { conn with handler := .getting, sent := conn.sent ++ [metrics] }
      else some { conn with handler := .closed, stop := true }
  | _ => none

end Connection

/-- The handler, the thread, bpftrace and the client. -/
def socket (db : CharDb) : Machine Connection Label where
  step conn
    | .ensured running => conn.ensured running
    | .print line => conn.print line
    | .exit => conn.exit
    | .work reply => conn.work db reply
    | .get => conn.get
    | .send connected => conn.send connected

/-- The line of /proc/stat that the sessions below read. -/
def statLine : String := "cpu  10 0 5 80 5 0 0 0 0 0\n"

/-- One tick of bpftrace, up to the dict that the handler has taken. -/
def oneTick : List Label := [
  .ensured true, .work (.ok ""), .work (.ok statLine),
  .print "@switches: 5\n", .work (.ok ""), .work (.ok ""),
  .print "@wakeups: 7\n", .work (.ok ""), .work (.ok ""),
  .work (.ok statLine), .work (.ok "27.9"), .work (.ok ""), .work (.ok ""), .get]

/-! ## The code of the thread is `stream_metrics` -/

section Code

variable (db : CharDb)

theorem watch_cons_eq (line : String) (rest : List String) (pending : Option Nat)
    (previous : Int × Int) :
    watch db (line :: rest) pending previous = (do
      ask (.readLine line)
      let stopped ← ask .isSet
      if stopped then pure ()
      else do
        let next ← attendLine db line pending previous
        watch db rest next.1 next.2) := by
  rw [watch_cons]
  congr 1
  funext _
  congr 1
  funext stopped
  congr 1
  unfold TickPairing.attend attendLine mark
  cases switches db line with
  | some count => rfl
  | none =>
      cases wakeups db line with
      | none => rfl
      | some wakeups =>
          cases pending with
          | none => rfl
          | some switches =>
              simp only [Option.map_some, Gen.bind_assoc]
              rfl

/-- What the thread has still to run, if bpftrace prints `future` and no more. -/
def Worker.code (future : List String) : Worker → Monitor Unit
  | .unborn => streamMetrics db future
  | .opening => streamMetrics db future
  | .starting code => code >>= fun previous =>
      withFinally (watch db future none previous) (ask .kill)
  | .reading pending previous => withFinally (watch db future pending previous) (ask .kill)
  | .checking line pending previous => withFinally (do
      let stopped ← ask .isSet
      if stopped then pure ()
      else do
        let next ← attendLine db line pending previous
        watch db future next.1 next.2) (ask .kill)
  | .attending code => withFinally
      (code >>= fun next => watch db future next.1 next.2) (ask .kill)
  | .closing result => withFinally (fromExcept result) (ask .kill)
  | .finished result => fromExcept result
  | .ended result => fromExcept result

theorem code_start (future : List String) (code : Monitor (Int × Int)) :
    (Worker.start code).code db future =
      code >>= fun previous => withFinally (watch db future none previous) (ask .kill) := by
  cases code <;> rfl

theorem code_attend (future : List String) (code : Monitor (Option Nat × (Int × Int))) :
    (Worker.attend code).code db future =
      withFinally (code >>= fun next => watch db future next.1 next.2) (ask .kill) := by
  cases code <;> rfl

end Code

/-! ## What one step does -/

section Steps

variable {db : CharDb} {conn next : Connection}

/-- Everything that the thread can do in one step. -/
inductive Works (db : CharDb) (conn : Connection) (reply : Except PyExn String) :
    Connection → Prop where
  | opens (text : String) (here : conn.worker = .opening) (answer : reply = .ok text) :
      Works db conn reply { conn with alive := true, worker := .start (readCpuStat db) }
  | fails (exn : PyExn) (here : conn.worker = .opening) (answer : reply = .error exn) :
      Works db conn reply { conn with worker := .finished (.error exn) }
  | starts (code code' : Monitor (Int × Int)) (dicts : List Metrics)
      (here : conn.worker = .starting code)
      (advanced : advance reply code = some (code', dicts)) :
      Works db conn reply ({ conn with worker := .start code' }.putAll dicts)
  | reads (pending : Option Nat) (previous : Int × Int) (line : String) (rest : List String)
      (here : conn.worker = .reading pending previous) (printed : conn.pipe = line :: rest) :
      Works db conn reply { conn with
        pipe := rest
        read := conn.read ++ [line]
        worker := .checking line pending previous }
  | endOfFile (pending : Option Nat) (previous : Int × Int)
      (here : conn.worker = .reading pending previous) (empty : conn.pipe = [])
      (dead : conn.alive = false) :
      Works db conn reply { conn with worker := .closing (.ok ()) }
  | stops (line : String) (pending : Option Nat) (previous : Int × Int)
      (here : conn.worker = .checking line pending previous) (stopped : conn.stop = true) :
      Works db conn reply { conn with worker := .closing (.ok ()) }
  | goesOn (line : String) (pending : Option Nat) (previous : Int × Int)
      (here : conn.worker = .checking line pending previous) (going : conn.stop = false) :
      Works db conn reply { conn with
        worker := .attend (attendLine db line pending previous) }
  | attends (code code' : Monitor (Option Nat × (Int × Int))) (dicts : List Metrics)
      (here : conn.worker = .attending code)
      (advanced : advance reply code = some (code', dicts)) :
      Works db conn reply ({ conn with worker := .attend code' }.putAll dicts)
  | kills (result : Except PyExn Unit) (here : conn.worker = .closing result) :
      Works db conn reply { conn with alive := false, worker := .finished result }
  | putsSentinel (here : conn.worker = .finished (.ok ())) :
      Works db conn reply
        { conn with worker := .ended (.ok ()), queue := conn.queue ++ [none] }
  | dies (exn : PyExn) (here : conn.worker = .finished (.error exn)) :
      Works db conn reply { conn with worker := .ended (.error exn) }

theorem works_of_work {reply : Except PyExn String} (stepped : conn.work db reply = some next) :
    Works db conn reply next := by
  unfold Connection.work at stepped
  split at stepped
  · cases stepped
  · rename_i here
    cases reply with
    | ok text =>
        cases Option.some.inj stepped
        exact .opens text here rfl
    | error exn =>
        cases Option.some.inj stepped
        exact .fails exn here rfl
  · rename_i code here
    obtain ⟨⟨code', dicts⟩, advanced, rfl⟩ := Option.map_eq_some_iff.mp stepped
    exact .starts code code' dicts here advanced
  · rename_i pending previous here
    split at stepped
    · rename_i line rest printed
      cases Option.some.inj stepped
      exact .reads pending previous line rest here printed
    · rename_i empty
      split at stepped
      · cases stepped
      · rename_i dead
        cases Option.some.inj stepped
        exact .endOfFile pending previous here empty (by simpa using dead)
  · rename_i line pending previous here
    split at stepped
    · rename_i stopped
      cases Option.some.inj stepped
      exact .stops line pending previous here stopped
    · rename_i going
      cases Option.some.inj stepped
      exact .goesOn line pending previous here (by simpa using going)
  · rename_i code here
    obtain ⟨⟨code', dicts⟩, advanced, rfl⟩ := Option.map_eq_some_iff.mp stepped
    exact .attends code code' dicts here advanced
  · rename_i result here
    cases Option.some.inj stepped
    exact .kills result here
  · rename_i here
    cases Option.some.inj stepped
    exact .putsSentinel here
  · rename_i exn here
    cases Option.some.inj stepped
    exact .dies exn here
  · cases stepped

/-- The other parties leave the thread and its histories alone. -/
theorem worker_kept {label : Label} (stepped : (socket db).step conn label = some next) :
    (∃ reply, label = .work reply) ∨ label = .ensured true ∨
      (next.worker = conn.worker ∧ next.read = conn.read ∧ next.put = conn.put) := by
  cases label with
  | ensured running =>
      cases running with
      | true => exact Or.inr (Or.inl rfl)
      | false =>
          change conn.ensured false = some next at stepped
          unfold Connection.ensured at stepped
          split at stepped
          · cases Option.some.inj stepped
            exact Or.inr (Or.inr ⟨rfl, rfl, rfl⟩)
          · cases stepped
  | print line =>
      change conn.print line = some next at stepped
      unfold Connection.print at stepped
      split at stepped
      · cases Option.some.inj stepped
        exact Or.inr (Or.inr ⟨rfl, rfl, rfl⟩)
      · cases stepped
  | exit =>
      change conn.exit = some next at stepped
      unfold Connection.exit at stepped
      split at stepped
      · cases Option.some.inj stepped
        exact Or.inr (Or.inr ⟨rfl, rfl, rfl⟩)
      · cases stepped
  | work reply => exact Or.inl ⟨reply, rfl⟩
  | get =>
      change conn.get = some next at stepped
      unfold Connection.get at stepped
      split at stepped
      · cases Option.some.inj stepped
        exact Or.inr (Or.inr ⟨rfl, rfl, rfl⟩)
      · cases Option.some.inj stepped
        exact Or.inr (Or.inr ⟨rfl, rfl, rfl⟩)
      · cases stepped
  | send connected =>
      change conn.send connected = some next at stepped
      unfold Connection.send at stepped
      split at stepped
      · split at stepped
        · cases Option.some.inj stepped
          exact Or.inr (Or.inr ⟨rfl, rfl, rfl⟩)
        · cases Option.some.inj stepped
          exact Or.inr (Or.inr ⟨rfl, rfl, rfl⟩)
      · cases stepped

theorem ensured_true (stepped : (socket db).step conn (.ensured true) = some next) :
    conn.handler = .ensuring ∧ next = { conn with worker := .opening, handler := .getting } := by
  change conn.ensured true = some next at stepped
  unfold Connection.ensured at stepped
  split at stepped
  · rename_i here
    exact ⟨here, (Option.some.inj stepped).symm⟩
  · cases stepped

end Steps

/-! ## One node of the thread's code -/

section Advance

variable {α : Type} {reply : Except PyExn String} {code code' : Monitor α}
  {dicts : List Metrics}

theorem advance_cases (advanced : advance reply code = some (code', dicts)) :
    (∃ argv, ∃ resume : Except PyExn String → Monitor α,
        code = .call (.exec argv) resume ∧ code' = resume reply ∧ dicts = []) ∨
      ∃ metrics resume, code = .emit metrics resume ∧ code' = resume none ∧
        dicts = [metrics] := by
  unfold advance at advanced
  split at advanced
  · rename_i argv resume
    obtain ⟨rfl, rfl⟩ := Prod.mk.inj (Option.some.inj advanced)
    exact Or.inl ⟨argv, resume, rfl, rfl, rfl⟩
  · rename_i metrics resume
    obtain ⟨rfl, rfl⟩ := Prod.mk.inj (Option.some.inj advanced)
    exact Or.inr ⟨metrics, resume, rfl, rfl, rfl⟩
  · cases advanced

theorem reaches_advance {whole : Monitor Unit} {events : List Metrics}
    (next : α → Monitor Unit) (advanced : advance reply code = some (code', dicts))
    (reaches : whole.Reaches events (code >>= next)) :
    whole.Reaches (events ++ dicts) (code' >>= next) := by
  rcases advance_cases advanced with
    ⟨argv, resume, rfl, rfl, rfl⟩ | ⟨metrics, resume, rfl, rfl, rfl⟩
  · rw [List.append_nil]
    exact .call reply reaches
  · exact .emit reaches

theorem reaches_advance_finally {whole : Monitor Unit} {events : List Metrics}
    (next : α → Monitor Unit) (cleanup : Monitor Unit)
    (advanced : advance reply code = some (code', dicts))
    (reaches : whole.Reaches events (withFinally (code >>= next) cleanup)) :
    whole.Reaches (events ++ dicts) (withFinally (code' >>= next) cleanup) := by
  rcases advance_cases advanced with
    ⟨argv, resume, rfl, rfl, rfl⟩ | ⟨metrics, resume, rfl, rfl, rfl⟩
  · rw [List.append_nil]
    exact .call reply reaches
  · exact .emit reaches

end Advance

/-! ## The thread runs the generator -/

section Follows

variable (db : CharDb)

def Worker.opened : Worker → Bool
  | .unborn | .opening => false
  | _ => true

@[simp] theorem opened_start (code : Monitor (Int × Int)) : (Worker.start code).opened = true := by
  cases code <;> rfl

@[simp] theorem opened_attend (code : Monitor (Option Nat × (Int × Int))) :
    (Worker.attend code).opened = true := by
  cases code <;> rfl

/-- No line will be printed any more. -/
def Connection.silent (conn : Connection) : Bool := conn.worker.opened && !conn.alive

/-- Whatever bpftrace is still going to print, the thread is where the
generator gets to on the lines read so far, with the same dicts. -/
structure Follows (conn : Connection) : Prop where
  unborn : conn.handler = .ensuring → conn.worker = .unborn
  reaches : ∀ future, (conn.silent = true → future = conn.pipe) →
    (streamMetrics db (conn.read ++ future)).Reaches conn.put (conn.worker.code db future)

theorem follows_accepted : Follows db accepted :=
  ⟨fun _ => rfl, fun _ _ => .start⟩

variable {db} {conn next : Connection}

theorem follows_work {reply : Except PyExn String} (follows : Follows db conn)
    (stepped : conn.work db reply = some next) : Follows db next := by
  have born : conn.worker ≠ .unborn := by
    intro here
    simp only [Connection.work, here, reduceCtorEq] at stepped
  have handler : next.handler = conn.handler := by
    cases works_of_work stepped <;> rfl
  refine ⟨fun ensuring => absurd (follows.unborn (handler ▸ ensuring)) born, ?_⟩
  intro future ahead
  have before := follows.reaches
  unfold Connection.silent at before ahead
  cases works_of_work stepped with
  | opens text here answer =>
      simp only [here, Worker.opened] at before
      rw [code_start]
      exact .call (.ok ()) (before future (by simp))
  | fails exn here answer =>
      simp only [here, Worker.opened] at before
      exact .call (.error exn) (before future (by simp))
  | starts code code' dicts here advanced =>
      simp only [here, Worker.opened] at before
      simp only [Connection.putAll, opened_start] at ahead
      simp only [Connection.putAll, code_start]
      exact reaches_advance _ advanced (before future ahead)
  | reads pending previous line rest here printed =>
      simp only [here, Worker.opened] at before
      have reached := before (line :: future) (fun silent => by rw [printed, ahead silent])
      rw [Worker.code, watch_cons_eq] at reached
      dsimp only
      rw [List.append_assoc]
      exact .call (.ok ()) reached
  | endOfFile pending previous here empty dead =>
      simp only [here, Worker.opened] at before
      have none_ : future = [] := (ahead (by rw [dead]; rfl)).trans empty
      subst none_
      exact before [] fun _ => empty.symm
  | stops line pending previous here stopped =>
      simp only [here, Worker.opened] at before
      exact .call (.ok true) (before future ahead)
  | goesOn line pending previous here going =>
      simp only [here, Worker.opened] at before
      simp only [opened_attend] at ahead
      dsimp only
      rw [code_attend]
      exact .call (.ok false) (before future ahead)
  | attends code code' dicts here advanced =>
      simp only [here, Worker.opened] at before
      simp only [Connection.putAll, opened_attend] at ahead
      simp only [Connection.putAll, code_attend]
      exact reaches_advance_finally _ _ advanced (before future ahead)
  | kills result here =>
      simp only [here, Worker.opened] at before
      have same : future = conn.pipe := ahead rfl
      have reached := before future fun _ => same
      cases result with
      | ok value => exact .call (.ok ()) reached
      | error exn => exact .call (.ok ()) reached
  | putsSentinel here =>
      simp only [here, Worker.opened] at before
      exact before future ahead
  | dies exn here =>
      simp only [here, Worker.opened] at before
      exact before future ahead

theorem follows_step {label : Label} (follows : Follows db conn)
    (stepped : (socket db).step conn label = some next) : Follows db next := by
  have before := follows.reaches
  unfold Connection.silent at before
  cases label with
  | ensured running =>
      change conn.ensured running = some next at stepped
      unfold Connection.ensured at stepped
      split at stepped
      · rename_i here
        have unborn := follows.unborn here
        rw [unborn] at before
        split at stepped
        · cases Option.some.inj stepped
          exact ⟨fun ensuring => (nomatch ensuring), fun future _ => before future nofun⟩
        · cases Option.some.inj stepped
          refine ⟨fun ensuring => (nomatch ensuring), fun future _ => ?_⟩
          rw [unborn]
          exact before future nofun
      · cases stepped
  | print line =>
      change conn.print line = some next at stepped
      unfold Connection.print at stepped
      split at stepped
      · rename_i alive
        cases Option.some.inj stepped
        refine ⟨follows.unborn, fun future _ => before future fun silent => ?_⟩
        simp [alive] at silent
      · cases stepped
  | exit =>
      change conn.exit = some next at stepped
      unfold Connection.exit at stepped
      split at stepped
      · rename_i alive
        cases Option.some.inj stepped
        refine ⟨follows.unborn, fun future _ => before future fun silent => ?_⟩
        simp [alive] at silent
      · cases stepped
  | work reply => exact follows_work follows stepped
  | get =>
      change conn.get = some next at stepped
      unfold Connection.get at stepped
      split at stepped
      · cases Option.some.inj stepped
        exact ⟨fun ensuring => (nomatch ensuring), before⟩
      · cases Option.some.inj stepped
        exact ⟨fun ensuring => (nomatch ensuring), before⟩
      · cases stepped
  | send connected =>
      change conn.send connected = some next at stepped
      unfold Connection.send at stepped
      split at stepped
      · split at stepped
        · cases Option.some.inj stepped
          exact ⟨fun ensuring => (nomatch ensuring), before⟩
        · cases Option.some.inj stepped
          exact ⟨fun ensuring => (nomatch ensuring), before⟩
      · cases stepped

/-- Under every interleaving the thread is a run of `stream_metrics`: it has
put what the generator hands out on the lines read so far, and has the rest of
the generator before it, whatever is still printed. -/
theorem thread_follows (db : CharDb) (labels : List Label) (conn : Connection)
    (run : (socket db).exec labels accepted = some conn) (future : List String)
    (ahead : conn.silent = true → future = conn.pipe) :
    (streamMetrics db (conn.read ++ future)).Reaches conn.put (conn.worker.code db future) := by
  have follows : Follows db conn :=
    (socket db).invariant_of_exec (Follows db) (fun _ _ _ => follows_step) labels accepted conn
      (follows_accepted db) run
  exact follows.reaches future ahead

theorem thread_follows_oneTick : ∃ conn, (socket .ascii).exec oneTick accepted = some conn ∧
    (streamMetrics .ascii (conn.read ++ conn.pipe)).Reaches conn.put
      (conn.worker.code .ascii conn.pipe) := by
  have runs : ((socket .ascii).exec oneTick accepted).isSome = true := by decide +kernel
  obtain ⟨conn, run⟩ := Option.isSome_iff_exists.mp runs
  exact ⟨conn, run, thread_follows .ascii oneTick conn run conn.pipe fun _ => rfl⟩

end Follows

/-! ## Every pair is put once -/

section Deliveries

variable (db : CharDb)

/-- What attending to a line leads to: the pair that the line completes, if no
docker exec raises. -/
def Attended (pending : Option Nat) (line : String) (dicts : List Metrics) :
    Except PyExn (Option Nat × (Int × Int)) → Prop
  | .ok (pending', _) => dicts.map counts = complete pending (mark db line) ∧
      pending' = remember pending (mark db line)
  | .error _ => dicts = []

theorem readCpuStat_ends : (readCpuStat db).Ends fun dicts _ => dicts = [] := by
  apply ends_perform
  · exact fun _ => rfl
  · intro out
    rw [ends_fromExcept]

theorem readMemoryPct_ends : (readMemoryPct db).Ends fun dicts _ => dicts = [] := by
  apply ends_perform
  · exact fun _ => rfl
  · exact fun _ => rfl

theorem readTopProcesses_ends (count : Nat) :
    (readTopProcesses count).Ends fun dicts _ => dicts = [] := by
  apply ends_perform
  · exact fun _ => rfl
  · exact fun _ => rfl

/-- What follows a reading that yields nothing. -/
theorem ends_quiet {α β : Type} (post : List Metrics → Except PyExn β → Prop)
    (first : Monitor α) (next : α → Monitor β)
    (quiet : first.Ends fun dicts _ => dicts = []) (raised : ∀ exn, post [] (.error exn))
    (goes : ∀ value, (next value).Ends post) : (first >>= next).Ends post := by
  apply ends_bind
  refine ends_mono _ _ ?_ first quiet
  intro dicts result none_
  subst none_
  cases result with
  | ok value => exact goes value
  | error exn => exact raised exn

theorem attendLine_ends (line : String) (pending : Option Nat) (previous : Int × Int) :
    (attendLine db line pending previous).Ends (Attended db pending line) := by
  unfold attendLine
  cases opens : switches db line with
  | some count =>
      have marked : mark db line = some (.opening count) := by simp only [mark, opens]
      refine ⟨?_, ?_⟩
      · rw [marked]
        cases pending <;> rfl
      · rw [marked]
        rfl
  | none =>
      cases closes : wakeups db line with
      | none =>
          have marked : mark db line = none := by simp only [mark, opens, closes, Option.map_none]
          refine ⟨?_, ?_⟩
          · rw [marked]
            cases pending <;> rfl
          · rw [marked]
            rfl
      | some wakeups =>
          have marked : mark db line = some (.closing wakeups) := by
            simp only [mark, opens, closes, Option.map_some]
          cases pending with
          | none =>
              refine ⟨?_, ?_⟩
              · rw [marked]
                rfl
              · rw [marked]
                rfl
          | some switches =>
              apply ends_quiet _ _ _ (readCpuStat_ends db) (fun _ => rfl)
              intro current
              apply ends_quiet _ _ _ (readMemoryPct_ends db) (fun _ => rfl)
              intro memoryPct
              apply ends_quiet _ _ _ (readTopProcesses_ends 5) (fun _ => rfl)
              intro processes
              refine ⟨?_, ?_⟩
              · rw [marked]
                rfl
              · rw [marked]
                rfl

/-- The marks of the lines. -/
def marks (lines : List String) : List (Option (Mark Nat Nat)) := lines.map (mark db)

theorem marks_concat (earlier : List String) (line : String) :
    marks db (earlier ++ [line]) = marks db earlier ++ [mark db line] := by
  simp only [marks, List.map_append, List.map_cons, List.map_nil]

/-- The lines that the thread has been through, all but the last one at most. -/
def Answered (conn : Connection) (lines : List String) : Prop :=
  lines = conn.read ∨ ∃ line, lines ++ [line] = conn.read

/-- The code hands out nothing. -/
def Quiet {α : Type} (code : Monitor α) : Prop := code.Only (fun _ => True) fun _ => False

theorem readCpuStat_quiet : Quiet (readCpuStat db) :=
  only_bind _ _ _ _ ((only_perform ..).mpr trivial) fun _ => only_fromExcept ..

theorem emitsLast_quiet {α β : Type} (first : Monitor α) (next : α → Monitor β)
    (quiet : Quiet first) (last : ∀ value, (next value).EmitsLast) :
    (first >>= next).EmitsLast := by
  change (first.bind next).EmitsLast
  induction first with
  | done value => exact last value
  | fail exn => trivial
  | emit metrics resume => exact quiet.1.elim
  | call request resume ih => exact fun answer => ih answer (quiet.2 answer)

theorem readMemoryPct_quiet : Quiet (readMemoryPct db) :=
  only_bind _ _ _ _ ((only_perform ..).mpr trivial) fun _ => only_pure ..

theorem readTopProcesses_quiet (count : Nat) : Quiet (readTopProcesses count) :=
  only_bind _ _ _ _ ((only_perform ..).mpr trivial) fun _ => only_pure ..

theorem attendLine_emitsLast (line : String) (pending : Option Nat) (previous : Int × Int) :
    (attendLine db line pending previous).EmitsLast := by
  unfold attendLine
  cases switches db line with
  | some count => trivial
  | none =>
      cases wakeups db line with
      | none => trivial
      | some wakeups =>
          cases pending with
          | none => trivial
          | some switches =>
              apply emitsLast_quiet _ _ (readCpuStat_quiet db)
              intro current
              apply emitsLast_quiet _ _ (readMemoryPct_quiet db)
              intro memoryPct
              apply emitsLast_quiet _ _ (readTopProcesses_quiet 5)
              intro processes
              exact ⟨_, rfl⟩

/-- What has been put, by where the thread is. -/
def Kept (conn : Connection) : Prop :=
  match conn.worker with
  | .unborn | .opening => conn.read = [] ∧ conn.put = []
  | .starting code => conn.read = [] ∧ conn.put = [] ∧ Quiet code
  | .reading pending _ => conn.put.map counts = collect none (marks db conn.read) ∧
      pending = remembered none (marks db conn.read)
  | .checking line pending _ => ∃ earlier, earlier ++ [line] = conn.read ∧
      conn.put.map counts = collect none (marks db earlier) ∧
      pending = remembered none (marks db earlier)
  | .attending code => ∃ earlier line, earlier ++ [line] = conn.read ∧
      conn.put.map counts = collect none (marks db earlier) ∧
      code.Ends (Attended db (remembered none (marks db earlier)) line) ∧ code.EmitsLast
  | .closing _ | .finished _ | .ended _ => ∃ lines, Answered conn lines ∧
      conn.put.map counts = collect none (marks db lines)

variable {db}

theorem kept_start (conn : Connection) (code : Monitor (Int × Int)) (read : conn.read = [])
    (put : conn.put = [])
    (quiet : Quiet code) :
    Kept db { conn with worker := .start code } := by
  cases code with
  | done previous =>
      refine ⟨?_, ?_⟩
      · rw [put, read]
        rfl
      · rw [read]
        rfl
  | fail exn =>
      refine ⟨[], Or.inl read.symm, ?_⟩
      rw [put]
      rfl
  | emit metrics resume => exact ⟨read, put, quiet⟩
  | call request resume => exact ⟨read, put, quiet⟩

theorem kept_attend (conn : Connection) (code : Monitor (Option Nat × (Int × Int)))
    (earlier : List String) (line : String) (read : earlier ++ [line] = conn.read)
    (counted : conn.put.map counts = collect none (marks db earlier))
    (ends : code.Ends (Attended db (remembered none (marks db earlier)) line))
    (last : code.EmitsLast) : Kept db { conn with worker := .attend code } := by
  cases code with
  | done result =>
      obtain ⟨completes, remembers⟩ := ends
      refine ⟨?_, ?_⟩
      · rw [← read, counted, marks_concat, collect_concat, ← completes]
        exact (List.append_nil _).symm
      · rw [← read, marks_concat, remembered_concat]
        exact remembers
  | fail exn => exact ⟨earlier, Or.inr ⟨line, read⟩, counted⟩
  | emit metrics resume => exact ⟨earlier, line, read, counted, ends, last⟩
  | call request resume => exact ⟨earlier, line, read, counted, ends, last⟩

variable {conn next : Connection}

theorem kept_work {reply : Except PyExn String} (kept : Kept db conn)
    (stepped : conn.work db reply = some next) : Kept db next := by
  unfold Kept at kept
  cases works_of_work stepped with
  | opens text here answer =>
      simp only [here] at kept
      exact kept_start { conn with alive := true } _ kept.1 kept.2
        (readCpuStat_quiet db)
  | fails exn here answer =>
      simp only [here] at kept
      refine ⟨[], Or.inl kept.1.symm, ?_⟩
      rw [kept.2]
      rfl
  | starts code code' dicts here advanced =>
      simp only [here] at kept
      obtain ⟨read, put, quiet⟩ := kept
      rcases advance_cases advanced with
        ⟨argv, resume, rfl, rfl, rfl⟩ | ⟨metrics, resume, rfl, _, _⟩
      · have still : conn.put ++ [] = [] := by rw [put, List.append_nil]
        exact kept_start { conn with
          queue := conn.queue ++ [], put := conn.put ++ [] } _ read still (quiet.2 reply)
      · exact quiet.1.elim
  | reads pending previous line rest here printed =>
      simp only [here] at kept
      exact ⟨conn.read, rfl, kept⟩
  | endOfFile pending previous here empty dead =>
      simp only [here] at kept
      exact ⟨conn.read, Or.inl rfl, kept.1⟩
  | stops line pending previous here stopped =>
      simp only [here] at kept
      obtain ⟨earlier, read, counted, _⟩ := kept
      exact ⟨earlier, Or.inr ⟨line, read⟩, counted⟩
  | goesOn line pending previous here going =>
      simp only [here] at kept
      obtain ⟨earlier, read, counted, remembers⟩ := kept
      refine kept_attend conn _ earlier line read counted ?_
        (attendLine_emitsLast db line pending previous)
      rw [← remembers]
      exact attendLine_ends db line pending previous
  | attends code code' dicts here advanced =>
      simp only [here] at kept
      obtain ⟨earlier, line, read, counted, ends, last⟩ := kept
      rcases advance_cases advanced with
        ⟨argv, resume, rfl, rfl, rfl⟩ | ⟨metrics, resume, rfl, rfl, rfl⟩
      · have still : (conn.put ++ []).map counts = collect none (marks db earlier) := by
          rw [List.append_nil, counted]
        exact kept_attend { conn with queue := conn.queue ++ [], put := conn.put ++ [] } _
          earlier line read still (ends reply) (last reply)
      -- the dict completes the pair of the line, and the thread waits again
      · obtain ⟨⟨pending, previous⟩, finished⟩ := last
        simp only [Ends, finished] at ends
        obtain ⟨completes, remembers⟩ := ends
        rw [finished]
        refine ⟨?_, ?_⟩
        · rw [Connection.putAll, ← read, List.map_append, counted, completes, marks_concat,
            collect_concat]
        · rw [Connection.putAll, ← read, marks_concat, remembered_concat]
          exact remembers
  | kills result here =>
      simp only [here] at kept
      exact kept
  | putsSentinel here =>
      simp only [here] at kept
      exact kept
  | dies exn here =>
      simp only [here] at kept
      exact kept

/-! ## The queue -/

/-- The dicts in a queue. -/
def dictsOf (queue : List (Option Metrics)) : List Metrics := queue.filterMap id

theorem dictsOf_append (first second : List (Option Metrics)) :
    dictsOf (first ++ second) = dictsOf first ++ dictsOf second :=
  List.filterMap_append

theorem dictsOf_map (dicts : List Metrics) : dictsOf (dicts.map some) = dicts := by
  unfold dictsOf
  rw [List.filterMap_map]
  exact List.filterMap_some

/-- The dict that the handler holds, or the one that it could not send. -/
def Handler.Holds : Handler → List Metrics → Prop
  | .ensuring, held => held = []
  | .getting, held => held = []
  | .sending metrics, held => held = [metrics]
  | .closed, held => held.length ≤ 1

/-- What was put has been sent, is held by the handler or is in the queue. -/
def Conserved (conn : Connection) : Prop :=
  ∃ held, conn.handler.Holds held ∧ conn.sent ++ held ++ dictsOf conn.queue = conn.put

theorem conserved_put (dicts : List Metrics) (conserved : Conserved conn) (worker : Worker) :
    Conserved ({ conn with worker := worker }.putAll dicts) := by
  obtain ⟨held, holds, whole⟩ := conserved
  refine ⟨held, holds, ?_⟩
  simp only [Connection.putAll, dictsOf_append, dictsOf_map]
  rw [← List.append_assoc, whole]

theorem conserved_work {reply : Except PyExn String} (conserved : Conserved conn)
    (stepped : conn.work db reply = some next) : Conserved next := by
  cases works_of_work stepped with
  | opens text here answer => exact conserved
  | fails exn here answer => exact conserved
  | starts code code' dicts here advanced => exact conserved_put dicts conserved _
  | reads pending previous line rest here printed => exact conserved
  | endOfFile pending previous here empty dead => exact conserved
  | stops line pending previous here stopped => exact conserved
  | goesOn line pending previous here going => exact conserved
  | attends code code' dicts here advanced => exact conserved_put dicts conserved _
  | kills result here => exact conserved
  | putsSentinel here =>
      obtain ⟨held, holds, whole⟩ := conserved
      refine ⟨held, holds, ?_⟩
      rw [dictsOf_append]
      exact (congrArg _ (List.append_nil _)).trans whole
  | dies exn here => exact conserved

theorem conserved_get (conserved : Conserved conn) (stepped : conn.get = some next) :
    Conserved next := by
  obtain ⟨held, holds, whole⟩ := conserved
  unfold Connection.get at stepped
  split at stepped
  · rename_i metrics queue handler queued
    cases Option.some.inj stepped
    rw [handler] at holds
    subst holds
    refine ⟨[metrics], rfl, ?_⟩
    rw [← whole, queued, List.append_nil, List.append_assoc]
    rfl
  · rename_i queue handler queued
    cases Option.some.inj stepped
    rw [handler] at holds
    subst holds
    refine ⟨[], Nat.zero_le 1, ?_⟩
    rw [← whole, queued]
    rfl
  · cases stepped

theorem conserved_send {connected : Bool} (conserved : Conserved conn)
    (stepped : conn.send connected = some next) : Conserved next := by
  obtain ⟨held, holds, whole⟩ := conserved
  unfold Connection.send at stepped
  split at stepped
  · rename_i metrics handler
    rw [handler] at holds
    subst holds
    split at stepped
    · cases Option.some.inj stepped
      refine ⟨[], rfl, ?_⟩
      rw [← whole, List.append_nil]
    · cases Option.some.inj stepped
      exact ⟨[metrics], Nat.le_refl 1, whole⟩
  · cases stepped

/-! ## Whole runs -/

def printedLines (labels : List Label) : List String :=
  labels.filterMap fun
    | .print line => some line
    | _ => none

/-- What holds in every state that a run leads to. -/
structure Ledger (db : CharDb) (labels : List Label) (conn : Connection) : Prop where
  unborn : conn.handler = .ensuring → conn.worker = .unborn
  printed : printedLines labels = conn.read ++ conn.pipe
  kept : Kept db conn
  conserved : Conserved conn

theorem ledger_accepted : Ledger db [] accepted :=
  ⟨fun _ => rfl, rfl, ⟨rfl, rfl⟩, ⟨[], rfl, rfl⟩⟩

theorem printedLines_concat (labels : List Label) (label : Label)
    (quiet : ∀ line : String, label ≠ .print line) :
    printedLines (labels ++ [label]) = printedLines labels := by
  unfold printedLines
  rw [List.filterMap_append]
  cases label with
  | print line => exact absurd rfl (quiet line)
  | _ => exact List.append_nil _

theorem work_printed {reply : Except PyExn String} (stepped : conn.work db reply = some next) :
    next.read ++ next.pipe = conn.read ++ conn.pipe ∧ next.handler = conn.handler ∧
      conn.worker ≠ .unborn := by
  have born : conn.worker ≠ .unborn := by
    intro here
    simp only [Connection.work, here, reduceCtorEq] at stepped
  cases works_of_work stepped with
  | reads pending previous line rest here printed =>
      exact ⟨by rw [printed, List.append_assoc]; rfl, rfl, born⟩
  | _ => exact ⟨rfl, rfl, born⟩

theorem ledger_step {labels : List Label} {label : Label} (ledger : Ledger db labels conn)
    (stepped : (socket db).step conn label = some next) :
    Ledger db (labels ++ [label]) next := by
  obtain ⟨unborn, printed, kept, conserved⟩ := ledger
  cases label with
  | ensured running =>
      change conn.ensured running = some next at stepped
      unfold Connection.ensured at stepped
      split at stepped
      · rename_i here
        have fresh := unborn here
        rw [Kept, fresh] at kept
        have same := printedLines_concat labels (.ensured running) (by simp)
        obtain ⟨held, holds, whole⟩ := conserved
        rw [here] at holds
        subst holds
        split at stepped
        · cases Option.some.inj stepped
          exact ⟨nofun, same.trans printed, kept, ⟨[], rfl, whole⟩⟩
        · cases Option.some.inj stepped
          refine ⟨nofun, same.trans printed, ?_, ⟨[], Nat.zero_le 1, whole⟩⟩
          rw [Kept, fresh]
          exact kept
      · cases stepped
  | print line =>
      change conn.print line = some next at stepped
      unfold Connection.print at stepped
      split at stepped
      · cases Option.some.inj stepped
        refine ⟨unborn, ?_, kept, conserved⟩
        rw [← List.append_assoc, ← printed]
        exact List.filterMap_append
      · cases stepped
  | exit =>
      change conn.exit = some next at stepped
      unfold Connection.exit at stepped
      split at stepped
      · cases Option.some.inj stepped
        exact ⟨unborn, (printedLines_concat labels _ (by simp)).trans printed, kept, conserved⟩
      · cases stepped
  | work reply =>
      obtain ⟨same, handler, born⟩ := work_printed stepped
      refine ⟨fun here => absurd (unborn (handler ▸ here)) born, ?_, kept_work kept stepped,
        conserved_work conserved stepped⟩
      rw [same, ← printed]
      exact printedLines_concat labels _ (by simp)
  | get =>
      have conserved' := conserved_get conserved stepped
      change conn.get = some next at stepped
      unfold Connection.get at stepped
      split at stepped
      · cases Option.some.inj stepped
        exact ⟨nofun, (printedLines_concat labels _ (by simp)).trans printed, kept, conserved'⟩
      · cases Option.some.inj stepped
        exact ⟨nofun, (printedLines_concat labels _ (by simp)).trans printed, kept, conserved'⟩
      · cases stepped
  | send connected =>
      have conserved' := conserved_send conserved stepped
      change conn.send connected = some next at stepped
      unfold Connection.send at stepped
      split at stepped
      · split at stepped
        · cases Option.some.inj stepped
          exact ⟨nofun, (printedLines_concat labels _ (by simp)).trans printed, kept, conserved'⟩
        · cases Option.some.inj stepped
          exact ⟨nofun, (printedLines_concat labels _ (by simp)).trans printed, kept, conserved'⟩
      · cases stepped

theorem ledger_of_run (db : CharDb) (labels : List Label) (conn : Connection)
    (run : (socket db).exec labels accepted = some conn) : Ledger db labels conn :=
  (socket db).history (Ledger db) accepted ledger_accepted
    (fun _ _ _ _ _ ledger stepped => ledger_step ledger stepped) labels conn run

/-- What has been put pairs up the lines that the thread has been through. -/
theorem put_answers (kept : Kept db conn) :
    ∃ lines, lines <+: conn.read ∧ conn.put.map counts = collect none (marks db lines) := by
  unfold Kept at kept
  have empty : collect none (marks db []) = [] := rfl
  split at kept
  · exact ⟨[], List.nil_prefix, by rw [kept.2, empty]; rfl⟩
  · exact ⟨[], List.nil_prefix, by rw [kept.2, empty]; rfl⟩
  · exact ⟨[], List.nil_prefix, by rw [kept.2.1, empty]; rfl⟩
  · exact ⟨conn.read, List.prefix_refl _, kept.1⟩
  · obtain ⟨earlier, read, counted, _⟩ := kept
    exact ⟨earlier, ⟨_, read⟩, counted⟩
  · obtain ⟨earlier, line, read, counted, _⟩ := kept
    exact ⟨earlier, ⟨_, read⟩, counted⟩
  all_goals
    obtain ⟨lines, answered, counted⟩ := kept
    refine ⟨lines, ?_, counted⟩
    rcases answered with rfl | ⟨line, read⟩
    · exact List.prefix_refl _
    · exact ⟨_, read⟩

theorem collect_monotone {first second : List String} (pre : first <+: second) :
    collect none (marks db first) <+: collect none (marks db second) := by
  obtain ⟨rest, rfl⟩ := pre
  refine ⟨collect (remembered none (marks db first)) (marks db rest), ?_⟩
  rw [← collect_append]
  simp only [marks, List.map_append]

theorem sent_begins (db : CharDb) (labels : List Label) (conn : Connection)
    (run : (socket db).exec labels accepted = some conn) :
    conn.sent.map counts <+: paired (marks db (printedLines labels)) := by
  have ledger := ledger_of_run db labels conn run
  obtain ⟨held, holds, whole⟩ := ledger.conserved
  obtain ⟨lines, been, counted⟩ := put_answers ledger.kept
  have sent : conn.sent.map counts <+: conn.put.map counts := by
    rw [← whole, List.append_assoc]
    exact (List.prefix_append _ _).map _
  have read : conn.read <+: printedLines labels := by
    rw [ledger.printed]
    exact List.prefix_append _ _
  rw [← collect_eq_paired]
  rw [counted] at sent
  exact sent.trans (collect_monotone (been.trans read))

/-- In every state the messages sent are, in order and without a gap, the
first of the pairs that bpftrace has printed; when nothing is under way they
are all the pairs of the lines read. -/
theorem sent_in_order (db : CharDb) (labels : List Label) (conn : Connection)
    (run : (socket db).exec labels accepted = some conn) :
    conn.sent.map counts <+: paired (marks db (printedLines labels)) ∧
      ∀ pending previous, conn.worker = .reading pending previous →
        conn.handler = .getting → conn.queue = [] →
          conn.sent.map counts = paired (marks db conn.read) := by
  refine ⟨sent_begins db labels conn run, ?_⟩
  intro pending previous here handler empty
  have ledger := ledger_of_run db labels conn run
  obtain ⟨held, holds, whole⟩ := ledger.conserved
  have kept := ledger.kept
  simp only [Kept, here] at kept
  rw [handler] at holds
  subst holds
  rw [empty] at whole
  rw [← collect_eq_paired, ← kept.1, ← whole]
  simp [dictsOf]

theorem oneTick_sent : ∃ conn,
    (socket .ascii).exec (oneTick ++ [.send true]) accepted = some conn ∧
      conn.sent.map counts = [(5, 7)] := by
  have sent : ((socket .ascii).exec (oneTick ++ [.send true]) accepted).map
      (fun conn => conn.sent.map counts) = some [(5, 7)] := by decide +kernel
  exact Option.map_eq_some_iff.mp sent

theorem sent_in_order_oneTick : ∃ conn,
    (socket .ascii).exec (oneTick ++ [.send true]) accepted = some conn ∧
      conn.sent.map counts = [(5, 7)] ∧
      conn.sent.map counts <+: paired (marks .ascii (printedLines (oneTick ++ [.send true]))) := by
  obtain ⟨conn, run, counted⟩ := oneTick_sent
  exact ⟨conn, run, counted, (sent_in_order .ascii _ conn run).1⟩

end Deliveries

/-! ## After the stop event -/

section Stopping

variable (db : CharDb)

def Execs (call : Call) : Prop := ∃ argv, call = .exec argv

/-- The code makes docker execs only, and no more than `bound` nodes. -/
def Small {α : Type} (bound : Nat) (code : Monitor α) : Prop :=
  code.Within bound ∧ code.Only Execs fun _ => True

theorem small_bind {α β : Type} (bound later : Nat) (first : Monitor α) (next : α → Monitor β)
    (small : Small bound first) (nextSmall : ∀ value, Small later (next value)) :
    Small (bound + later) (first >>= next) :=
  ⟨within_bind bound later first next small.1 fun value => (nextSmall value).1,
    only_bind _ _ first next small.2 fun value => (nextSmall value).2⟩

theorem small_exec (argv : List String) : Small 1 (ask (.exec argv)) :=
  ⟨within_perform _, (only_perform ..).mpr ⟨argv, rfl⟩⟩

theorem small_pure {α : Type} (bound : Nat) (value : α) : Small bound (pure value) :=
  ⟨trivial, trivial⟩

theorem readCpuStat_small : Small 1 (readCpuStat db) :=
  small_bind 1 0 _ _ (small_exec _) fun _ => ⟨within_fromExcept 0 _, only_fromExcept ..⟩

theorem readMemoryPct_small : Small 1 (readMemoryPct db) :=
  small_bind 1 0 _ _ (small_exec _) fun _ => small_pure 0 _

theorem readTopProcesses_small (count : Nat) : Small 1 (readTopProcesses count) :=
  small_bind 1 0 _ _ (small_exec _) fun _ => small_pure 0 _

theorem attendLine_small (line : String) (pending : Option Nat) (previous : Int × Int) :
    Small 4 (attendLine db line pending previous) := by
  unfold attendLine
  cases switches db line with
  | some count => exact small_pure 4 _
  | none =>
      cases wakeups db line with
      | none => exact small_pure 4 _
      | some wakeups =>
          cases pending with
          | none => exact small_pure 4 _
          | some switches =>
              apply small_bind 1 3 _ _ (readCpuStat_small db)
              intro current
              apply small_bind 1 2 _ _ (readMemoryPct_small db)
              intro memoryPct
              apply small_bind 1 1 _ _ (readTopProcesses_small 5)
              intro processes
              exact small_bind 1 0 _ _ ⟨within_yieldEvent _, (only_yieldEvent ..).mpr trivial⟩
                fun _ => small_pure 0 _

/-- The code has not come to its end. -/
def Running {α : Type} : Monitor α → Prop
  | .done _ => False
  | .fail _ => False
  | _ => True

section Node

variable {α : Type} {reply : Except PyExn String} {code code' : Monitor α}
  {dicts : List Metrics}

theorem within_advance {bound : Nat} (within : code.Within bound)
    (advanced : advance reply code = some (code', dicts)) :
    ∃ less, less + 1 = bound ∧ code'.Within less := by
  rcases advance_cases advanced with
    ⟨argv, resume, rfl, rfl, rfl⟩ | ⟨metrics, resume, rfl, rfl, rfl⟩
  · obtain ⟨less, rfl, within⟩ := within
    exact ⟨less, rfl, within reply⟩
  · obtain ⟨less, rfl, within⟩ := within
    exact ⟨less, rfl, within⟩

theorem only_advance (only : code.Only Execs fun _ => True)
    (advanced : advance reply code = some (code', dicts)) :
    code'.Only Execs fun _ => True := by
  rcases advance_cases advanced with
    ⟨argv, resume, rfl, rfl, rfl⟩ | ⟨metrics, resume, rfl, rfl, rfl⟩
  · exact only.2 reply
  · exact only.2 none

theorem quiet_advance (quiet : Quiet code)
    (advanced : advance reply code = some (code', dicts)) : Quiet code' ∧ dicts = [] := by
  rcases advance_cases advanced with
    ⟨argv, resume, rfl, rfl, rfl⟩ | ⟨metrics, resume, rfl, rfl, rfl⟩
  · exact ⟨quiet.2 reply, rfl⟩
  · exact quiet.1.elim

theorem emitsLast_advance (last : code.EmitsLast)
    (advanced : advance reply code = some (code', dicts)) :
    (code'.EmitsLast ∧ dicts = []) ∨ ((∃ value, code' = .done value) ∧ dicts.length = 1) := by
  rcases advance_cases advanced with
    ⟨argv, resume, rfl, rfl, rfl⟩ | ⟨metrics, resume, rfl, rfl, rfl⟩
  · exact Or.inl ⟨last reply, rfl⟩
  · exact Or.inr ⟨last, rfl⟩

/-- An exec is always answered and a dict always taken. -/
theorem advance_isSome (only : code.Only Execs fun _ => True) (running : Running code)
    (reply : Except PyExn String) : (advance reply code).isSome = true := by
  cases code with
  | done value => exact running.elim
  | fail exn => exact running.elim
  | emit metrics resume => rfl
  | call request resume =>
      obtain ⟨argv, rfl⟩ := only.1
      rfl

end Node

/-- What the thread has before it inside a round. -/
def Sized : Worker → Prop
  | .starting code => Small 1 code ∧ Quiet code ∧ Running code
  | .attending code => Small 4 code ∧ code.EmitsLast ∧ Running code
  | _ => True

theorem sized_start (code : Monitor (Int × Int)) (small : Small 1 code) (quiet : Quiet code) :
    Sized (.start code) := by
  cases code with
  | done value => trivial
  | fail exn => trivial
  | emit metrics resume => exact ⟨small, quiet, trivial⟩
  | call request resume => exact ⟨small, quiet, trivial⟩

theorem sized_attend (code : Monitor (Option Nat × (Int × Int))) (small : Small 4 code)
    (last : code.EmitsLast) : Sized (.attend code) := by
  cases code with
  | done value => trivial
  | fail exn => trivial
  | emit metrics resume => exact ⟨small, last, trivial⟩
  | call request resume => exact ⟨small, last, trivial⟩

theorem within_le {α : Type} {less bound : Nat} (code : Monitor α) (fits : less ≤ bound)
    (within : code.Within less) : code.Within bound := by
  obtain ⟨more, rfl⟩ := Nat.exists_eq_add_of_le fits
  exact within_more less more code within

variable {db} {conn next : Connection}

theorem sized_work {reply : Except PyExn String} (sized : Sized conn.worker)
    (stepped : conn.work db reply = some next) : Sized next.worker := by
  cases works_of_work stepped with
  | opens text here answer =>
      exact sized_start _ (readCpuStat_small db) (readCpuStat_quiet db)
  | starts code code' dicts here advanced =>
      rw [here] at sized
      obtain ⟨⟨within, only⟩, quiet, _⟩ := sized
      obtain ⟨less, fits, within⟩ := within_advance within advanced
      exact sized_start code' ⟨within_le code' (by omega) within, only_advance only advanced⟩
        (quiet_advance quiet advanced).1
  | goesOn line pending previous here going =>
      exact sized_attend _ (attendLine_small db line pending previous)
        (attendLine_emitsLast db line pending previous)
  | attends code code' dicts here advanced =>
      rw [here] at sized
      obtain ⟨⟨within, only⟩, last, _⟩ := sized
      obtain ⟨less, fits, within⟩ := within_advance within advanced
      refine sized_attend code'
        ⟨within_le code' (by omega) within, only_advance only advanced⟩ ?_
      rcases emitsLast_advance last advanced with ⟨last, _⟩ | ⟨⟨value, rfl⟩, _⟩
      · exact last
      · trivial
  | fails exn here answer => trivial
  | reads pending previous line rest here printed => trivial
  | endOfFile pending previous here empty dead => trivial
  | stops line pending previous here stopped => trivial
  | kills result here => trivial
  | putsSentinel here => trivial
  | dies exn here => trivial

/-- The thread ends within so many steps, once the stop event is set. -/
def StepsLeft : Worker → Nat → Prop
  | .unborn, _ => True
  | .opening, bound => 6 ≤ bound
  | .starting code, bound => ∃ nodes, nodes + 4 ≤ bound ∧ code.Within nodes
  | .reading _ _, bound => 4 ≤ bound
  | .checking _ _ _, bound => 3 ≤ bound
  | .attending code, bound => ∃ nodes, nodes + 4 ≤ bound ∧ code.Within nodes
  | .closing _, bound => 2 ≤ bound
  | .finished _, bound => 1 ≤ bound
  | .ended _, _ => True

/-- The lines that the thread still reads once the stop event is set. -/
def Worker.linesLeft : Worker → Nat
  | .opening | .starting _ | .reading _ _ | .attending _ => 1
  | _ => 0

/-- The dicts that it still puts. -/
def Worker.dictsLeft : Worker → Nat
  | .attending _ => 1
  | _ => 0

theorem stepsLeft_start (code : Monitor (Int × Int)) (nodes : Nat) (within : code.Within nodes) :
    StepsLeft (.start code) (nodes + 4) := by
  cases code with
  | done value => exact Nat.le_add_left 4 nodes
  | fail exn => exact Nat.le_add_left_of_le (by omega)
  | emit metrics resume => exact ⟨nodes, Nat.le_refl _, within⟩
  | call request resume => exact ⟨nodes, Nat.le_refl _, within⟩

theorem stepsLeft_attend (code : Monitor (Option Nat × (Int × Int))) (nodes : Nat)
    (within : code.Within nodes) : StepsLeft (.attend code) (nodes + 4) := by
  cases code with
  | done value => exact Nat.le_add_left 4 nodes
  | fail exn => exact Nat.le_add_left_of_le (by omega)
  | emit metrics resume => exact ⟨nodes, Nat.le_refl _, within⟩
  | call request resume => exact ⟨nodes, Nat.le_refl _, within⟩

theorem linesLeft_start (code : Monitor (Int × Int)) : (Worker.start code).linesLeft ≤ 1 := by
  cases code <;> simp [Worker.start, Worker.linesLeft]

theorem dictsLeft_start (code : Monitor (Int × Int)) : (Worker.start code).dictsLeft = 0 := by
  cases code <;> rfl

theorem linesLeft_attend (code : Monitor (Option Nat × (Int × Int))) :
    (Worker.attend code).linesLeft ≤ 1 := by
  cases code <;> simp [Worker.attend, Worker.linesLeft]

theorem dictsLeft_attend (code : Monitor (Option Nat × (Int × Int))) :
    (Worker.attend code).dictsLeft ≤ 1 := by
  cases code <;> simp [Worker.attend, Worker.dictsLeft]

/-- One step of the thread after the stop event. -/
structure Nearer (conn next : Connection) (bound : Nat) : Prop where
  steps : ∃ less, less + 1 ≤ bound ∧ StepsLeft next.worker less
  lines : next.read.length + next.worker.linesLeft ≤ conn.read.length + conn.worker.linesLeft
  dicts : next.put.length + next.worker.dictsLeft ≤ conn.put.length + conn.worker.dictsLeft

theorem nearer_work {reply : Except PyExn String} {bound : Nat} (stopped : conn.stop = true)
    (sized : Sized conn.worker) (left : StepsLeft conn.worker bound)
    (stepped : conn.work db reply = some next) : Nearer conn next bound := by
  cases works_of_work stepped with
  | opens text here answer =>
      rw [here] at left
      have lines := linesLeft_start (readCpuStat db)
      have dicts := dictsLeft_start (readCpuStat db)
      refine ⟨⟨5, left, stepsLeft_start _ 1 (readCpuStat_small db).1⟩, ?_, ?_⟩
      · rw [here]
        exact Nat.add_le_add_left lines _
      · rw [here, dicts]
        exact Nat.le_refl _
  | fails exn here answer =>
      rw [here] at left
      refine ⟨⟨5, left, by simp [StepsLeft]⟩, ?_, ?_⟩
      · simp [here, Worker.linesLeft]
      · simp [here, Worker.dictsLeft]
  | starts code code' dicts here advanced =>
      rw [here] at left sized
      obtain ⟨nodes, fits, within⟩ := left
      obtain ⟨less, rfl, within'⟩ := within_advance within advanced
      obtain ⟨_, rfl⟩ := quiet_advance sized.2.1 advanced
      refine ⟨⟨less + 4, by omega, stepsLeft_start code' less within'⟩, ?_, ?_⟩
      · rw [here]
        exact Nat.add_le_add_left (linesLeft_start code') _
      · rw [here]
        simp only [Connection.putAll, List.append_nil, dictsLeft_start]
        exact Nat.le_refl _
  | reads pending previous line rest here printed =>
      rw [here] at left
      refine ⟨⟨3, left, by simp [StepsLeft]⟩, ?_, ?_⟩
      · simp [here, Worker.linesLeft]
      · simp [here, Worker.dictsLeft]
  | endOfFile pending previous here empty dead =>
      rw [here] at left
      refine ⟨⟨3, left, by simp [StepsLeft]⟩, ?_, ?_⟩
      · simp [here, Worker.linesLeft]
      · simp [here, Worker.dictsLeft]
  | stops line pending previous here stopped =>
      rw [here] at left
      refine ⟨⟨2, left, by simp [StepsLeft]⟩, ?_, ?_⟩
      · simp [here, Worker.linesLeft]
      · simp [here, Worker.dictsLeft]
  | goesOn line pending previous here going =>
      rw [stopped] at going
      cases going
  | attends code code' dicts here advanced =>
      rw [here] at left sized
      obtain ⟨nodes, fits, within⟩ := left
      obtain ⟨less, rfl, within'⟩ := within_advance within advanced
      refine ⟨⟨less + 4, by omega, stepsLeft_attend code' less within'⟩, ?_, ?_⟩
      · rw [here]
        exact Nat.add_le_add_left (linesLeft_attend code') _
      · rw [here]
        rcases emitsLast_advance sized.2.1 advanced with ⟨_, rfl⟩ | ⟨⟨value, rfl⟩, one⟩
        · simp only [Connection.putAll, List.append_nil]
          exact Nat.add_le_add_left (dictsLeft_attend code') _
        · simp only [Connection.putAll, List.length_append, one]
          exact Nat.le_refl _
  | kills result here =>
      rw [here] at left
      refine ⟨⟨1, left, by simp [StepsLeft]⟩, ?_, ?_⟩
      · simp [here, Worker.linesLeft]
      · simp [here, Worker.dictsLeft]
  | putsSentinel here =>
      rw [here] at left
      refine ⟨⟨0, left, trivial⟩, ?_, ?_⟩
      · simp [here, Worker.linesLeft]
      · simp [here, Worker.dictsLeft]
  | dies exn here =>
      rw [here] at left
      refine ⟨⟨0, left, trivial⟩, ?_, ?_⟩
      · simp [here, Worker.linesLeft]
      · simp [here, Worker.dictsLeft]

/-- The stop event is set when the handler is left, and not before. -/
def Stopped (conn : Connection) : Prop := conn.stop = true → conn.handler = .closed

theorem work_rest {reply : Except PyExn String} (stepped : conn.work db reply = some next) :
    next.handler = conn.handler ∧ next.stop = conn.stop ∧ next.sent = conn.sent := by
  cases works_of_work stepped <;> exact ⟨rfl, rfl, rfl⟩

theorem stopped_step {label : Label} (stopped : Stopped conn)
    (stepped : (socket db).step conn label = some next) : Stopped next := by
  cases label with
  | ensured running =>
      change conn.ensured running = some next at stepped
      unfold Connection.ensured at stepped
      split at stepped
      · rename_i here
        have still : conn.stop ≠ true := fun set => by
          rw [stopped set] at here
          cases here
        split at stepped
        · cases Option.some.inj stepped
          exact fun set => absurd set still
        · cases Option.some.inj stepped
          exact fun _ => rfl
      · cases stepped
  | print line =>
      change conn.print line = some next at stepped
      unfold Connection.print at stepped
      split at stepped
      · cases Option.some.inj stepped
        exact stopped
      · cases stepped
  | exit =>
      change conn.exit = some next at stepped
      unfold Connection.exit at stepped
      split at stepped
      · cases Option.some.inj stepped
        exact stopped
      · cases stepped
  | work reply =>
      obtain ⟨handler, stop, _⟩ := work_rest stepped
      rw [Stopped, handler, stop]
      exact stopped
  | get =>
      change conn.get = some next at stepped
      unfold Connection.get at stepped
      split at stepped
      · rename_i metrics queue here queued
        cases Option.some.inj stepped
        refine fun set => absurd (stopped set) ?_
        rw [here]
        exact nofun
      · cases Option.some.inj stepped
        exact fun _ => rfl
      · cases stepped
  | send connected =>
      change conn.send connected = some next at stepped
      unfold Connection.send at stepped
      split at stepped
      · rename_i metrics here
        split at stepped
        · cases Option.some.inj stepped
          refine fun set => absurd (stopped set) ?_
          rw [here]
          exact nofun
        · cases Option.some.inj stepped
          exact fun _ => rfl
      · cases stepped

theorem sized_step {label : Label} (sized : Sized conn.worker)
    (stepped : (socket db).step conn label = some next) : Sized next.worker := by
  rcases worker_kept stepped with ⟨reply, rfl⟩ | rfl | ⟨same, _⟩
  · exact sized_work sized stepped
  · rw [(ensured_true stepped).2]
    trivial
  · rw [same]
    exact sized

/-- What is left after the stop event, counted from the state `anchor`. -/
structure Winding (anchor : Connection) (bound : Nat) (conn : Connection) : Prop where
  stop : conn.stop = true
  handler : conn.handler = .closed
  sized : Sized conn.worker
  steps : StepsLeft conn.worker bound
  lines : conn.read.length + conn.worker.linesLeft ≤
    anchor.read.length + anchor.worker.linesLeft
  dicts : conn.put.length + conn.worker.dictsLeft ≤
    anchor.put.length + anchor.worker.dictsLeft
  sent : conn.sent = anchor.sent

def Label.works : Label → Bool
  | .work _ => true
  | _ => false

theorem winding_step {anchor : Connection} {bound : Nat} {label : Label}
    (winding : Winding anchor bound conn) (stepped : (socket db).step conn label = some next) :
    ∃ less, Winding anchor less next ∧ less + (if label.works then 1 else 0) ≤ bound := by
  obtain ⟨stop, handler, sized, steps, lines, dicts, sent⟩ := winding
  cases label with
  | ensured running =>
      change conn.ensured running = some next at stepped
      simp only [Connection.ensured, handler, reduceCtorEq] at stepped
  | print line =>
      change conn.print line = some next at stepped
      unfold Connection.print at stepped
      split at stepped
      · cases Option.some.inj stepped
        exact ⟨bound, ⟨stop, handler, sized, steps, lines, dicts, sent⟩, Nat.le_refl _⟩
      · cases stepped
  | exit =>
      change conn.exit = some next at stepped
      unfold Connection.exit at stepped
      split at stepped
      · cases Option.some.inj stepped
        exact ⟨bound, ⟨stop, handler, sized, steps, lines, dicts, sent⟩, Nat.le_refl _⟩
      · cases stepped
  | work reply =>
      obtain ⟨sameHandler, sameStop, sameSent⟩ := work_rest stepped
      obtain ⟨⟨less, fits, left⟩, fewerLines, fewerDicts⟩ :=
        nearer_work stop sized steps stepped
      refine ⟨less, ⟨sameStop.trans stop, sameHandler.trans handler, sized_work sized stepped,
        left, fewerLines.trans lines, fewerDicts.trans dicts, sameSent.trans sent⟩, ?_⟩
      simpa only [Label.works, if_true] using fits
  | get =>
      change conn.get = some next at stepped
      simp only [Connection.get, handler, reduceCtorEq] at stepped
  | send connected =>
      change conn.send connected = some next at stepped
      simp only [Connection.send, handler, reduceCtorEq] at stepped

theorem stepsLeft_eight (worker : Worker) (sized : Sized worker) : StepsLeft worker 8 := by
  cases worker with
  | starting code => exact ⟨1, by omega, sized.1.1⟩
  | attending code => exact ⟨4, Nat.le_refl 8, sized.1.1⟩
  | _ => simp [StepsLeft]

/-- The thread can step unless it has not started, has ended or waits for a
bpftrace that runs and is silent. -/
theorem work_isSome (sized : Sized conn.worker) (reply : Except PyExn String)
    (stuck : conn.work db reply = none) :
    conn.worker = .unborn ∨ (∃ result, conn.worker = .ended result) ∨
      ((∃ pending previous, conn.worker = .reading pending previous) ∧ conn.pipe = [] ∧
        conn.alive = true) := by
  cases here : conn.worker with
  | unborn => exact Or.inl rfl
  | ended result => exact Or.inr (Or.inl ⟨result, rfl⟩)
  | reading pending previous =>
      refine Or.inr (Or.inr ⟨⟨pending, previous, rfl⟩, ?_⟩)
      simp only [Connection.work, here] at stuck
      split at stuck
      · cases stuck
      · rename_i empty
        refine ⟨empty, ?_⟩
        by_contra dead
        simp [dead] at stuck
  | opening =>
      simp only [Connection.work, here] at stuck
      split at stuck <;> cases stuck
  | checking line pending previous =>
      simp only [Connection.work, here] at stuck
      split at stuck <;> cases stuck
  | starting code =>
      rw [here] at sized
      have moves := advance_isSome sized.1.2 sized.2.2 reply
      simp only [Connection.work, here, Option.map_eq_none_iff] at stuck
      rw [stuck] at moves
      cases moves
  | attending code =>
      rw [here] at sized
      have moves := advance_isSome sized.1.2 sized.2.2 reply
      simp only [Connection.work, here, Option.map_eq_none_iff] at stuck
      rw [stuck] at moves
      cases moves
  | closing result => simp only [Connection.work, here, reduceCtorEq] at stuck
  | finished result =>
      cases result with
      | ok value => simp only [Connection.work, here, reduceCtorEq] at stuck
      | error exn => simp only [Connection.work, here, reduceCtorEq] at stuck

/-- Once the stop event is set, nothing more is sent; the thread takes at most
eight steps, reads at most one line and puts at most one dict, and only a
bpftrace that runs and prints nothing can hold it up. -/
theorem stops_soon (db : CharDb) (labels rest : List Label) (conn final : Connection)
    (run : (socket db).exec labels accepted = some conn) (stopped : conn.stop = true)
    (after : (socket db).exec rest conn = some final) :
    rest.countP Label.works ≤ 8 ∧ final.sent = conn.sent ∧
      final.read.length ≤ conn.read.length + 1 ∧ final.put.length ≤ conn.put.length + 1 ∧
      ∀ reply, (socket db).step final (.work reply) = none →
        final.worker = .unborn ∨ (∃ result, final.worker = .ended result) ∨
          ((∃ pending previous, final.worker = .reading pending previous) ∧ final.pipe = [] ∧
            final.alive = true) := by
  obtain ⟨closes, sized⟩ : Stopped conn ∧ Sized conn.worker :=
    (socket db).invariant_of_exec (fun conn => Stopped conn ∧ Sized conn.worker)
      (fun _ _ _ both stepped => ⟨stopped_step both.1 stepped, sized_step both.2 stepped⟩)
      labels accepted conn ⟨nofun, trivial⟩ run
  have begins : Winding conn 8 conn :=
    ⟨stopped, closes stopped, sized, stepsLeft_eight _ sized, Nat.le_refl _, Nat.le_refl _, rfl⟩
  obtain ⟨less, winding, counted⟩ := (socket db).marked_of_rank (Winding conn) Label.works
    (fun _ => 0) (fun _ _ _ _ winding stepped => winding_step winding stepped) rest 8 conn final
    begins after
  have oneLine : conn.worker.linesLeft ≤ 1 := by
    cases conn.worker <;> simp [Worker.linesLeft]
  have oneDict : conn.worker.dictsLeft ≤ 1 := by
    cases conn.worker <;> simp [Worker.dictsLeft]
  have lines := winding.lines
  have dicts := winding.dicts
  have free : (rest.map fun _ => 0).sum = 0 := by simp
  refine ⟨by omega, winding.sent, by omega, by omega, fun reply stuck => ?_⟩
  exact work_isSome winding.sized reply stuck

/-- The client is gone when its first message is sent. -/
def clientGone : List Label := oneTick ++ [.send false]

def lastLine : List Label := [.print "@switches: 1\n", .work (.ok ""), .work (.ok "")]

theorem stops_soon_clientGone : ∃ conn final,
    (socket .ascii).exec clientGone accepted = some conn ∧ conn.stop = true ∧
      (socket .ascii).exec lastLine conn = some final ∧ final.sent = conn.sent ∧
      final.read.length ≤ conn.read.length + 1 := by
  have stops : ((socket .ascii).exec clientGone accepted).map Connection.stop = some true := by
    decide +kernel
  have runs : ((socket .ascii).exec (clientGone ++ lastLine) accepted).isSome = true := by
    decide +kernel
  obtain ⟨conn, run, stopped⟩ := Option.map_eq_some_iff.mp stops
  obtain ⟨final, whole⟩ := Option.isSome_iff_exists.mp runs
  rw [Machine.exec_append, run] at whole
  have soon := stops_soon .ascii clientGone lastLine conn final run stopped whole
  exact ⟨conn, final, run, stopped, whole, soon.2.1, soon.2.2.1⟩

end Stopping

end KernelSprint.MonitorSocket

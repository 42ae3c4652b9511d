import KernelSprint.Backend.ChaosAgent
import KernelSprint.Lib.Columns
import KernelSprint.Lib.Course
import KernelSprint.Lib.Pids

/-!
# Killing a demo process

Any number of runs of `kill_process_demo` in one container, among whatever
else starts, dies and is killed there.  Every docker exec and every sleep of a
run is one step.  The first process of the container is `sleep infinity`.
-/

set_option autoImplicit false

namespace KernelSprint.KillDemo

open Labelled Generators Generators.Gen Pids PyText ChaosAgent
open Docker (CompletedProcess)

/-! ## The commands in the container -/

def spawnArgv : List String := ["bash", "-c", "sleep 120 & echo $!"]

def killArgv (pid : String) : List String := ["kill", "-9", pid]

def checkArgv (pid : String) : List String :=
  ["sh", "-c", "ps -o stat= -p " ++ pid ++ " 2>/dev/null || echo gone"]

/-- The state that `ps` prints for a process that sleeps, has a deadly signal
to take or is a zombie. -/
def stat : Status → String
  | .running => "S"
  | .killed => "R"
  | .dead => "Z"

/-- The process that the command is about. -/
def addressed (space : Namespace) (command : String → List String) (argv : List String) :
    Option Process :=
  space.table.find? fun process => decide (command (toString process.pid) = argv)

/-- The shell exits at once, and the first process inherits its child. -/
def spawn (space : Namespace) (pid : Nat) : Namespace × CompletedProcess :=
  match space.start pid .first with
  | some next => (next, ⟨0, toString pid ++ "\n", ""⟩)
  | none => (space, ⟨126, "", "bash: fork: Resource temporarily unavailable\n"⟩)

def command (space : Namespace) (pid : Nat) (argv : List String) : Namespace × CompletedProcess :=
  if argv = spawnArgv then spawn space pid
  else
    match addressed space killArgv argv with
    | some process => (space.signal process.pid, ⟨0, "", ""⟩)
    | none =>
        match addressed space checkArgv argv with
        | some process => (space, ⟨0, stat process.status ++ "\n", ""⟩)
        | none =>
            if argv.head? = some "sh" then (space, ⟨0, "gone\n", ""⟩)
            else (space, ⟨1, "", "kill: No such process\n"⟩)

/-- `pid` is the number that the kernel has ready.  A run makes no calls but
the first two. -/
def answer (space : Namespace) (pid : Nat) : (request : Call) → Namespace × request.Answer
  | .exec argv => command space pid argv
  | .sleep _ => (space, ())
  | .read _ => (space, "")
  | .popen _ => (space, ())
  | .time => (space, (0 : ℚ))
  | .running => (space, false)
  | .wait => (space, ())
  | .run _ _ => (space, ⟨1, "", ""⟩)

/-! ## The runs -/

abbrev Run := Suspended Call Call.Answer Event Failure Unit

/-- `spawned` is the serial of the process that the run has started. -/
structure Demo where
  run : Run
  spawned : Option Nat

def Demo.start (db : CharDb) : Demo := ⟨settle (killProcessDemo db) [], none⟩

/-- A call that raises has taken effect or has not. -/
def serve (space : Namespace) (pid : Nat) (luck : Luck Failure) (request : Call) :
    Namespace × Except Failure request.Answer :=
  luck.apply space ((answer space pid request).1, .ok (answer space pid request).2)

def Demo.step (space : Namespace) (pid : Nat) (luck : Luck Failure) (demo : Demo) :
    Option (Namespace × Demo) :=
  match demo.run.rest with
  | .call request resume =>
      let served := serve space pid luck request
      some (served.1, {
        run := settle (resume served.2) demo.run.events
        spawned := if served.1.started = space.started then demo.spawned else some space.started })
  | _ => none

structure Container where
  space : Namespace
  demos : List Demo

inductive Label where
  | begin
  | run (index pid : Nat) (luck : Luck Failure)
  | other (event : Namespace.Event)

def machine (db : CharDb) : Machine Container Label where
  step container
    | .begin => some { container with demos := container.demos ++ [.start db] }
    | .run index pid luck => do
        let demo ← container.demos[index]?
        let (space, demo) ← demo.step container.space pid luck
        some ⟨space, container.demos.set index demo⟩
    | .other event =>
        (container.space.step event).map fun space => { container with space := space }

/-! ## Numbers as text -/

theorem toString_injective : Function.Injective (toString : Nat → String) := by
  intro first second same
  have text : ∀ n : Nat, (toString n).toList = Nat.toDigits 10 n := fun n => by
    rw [Nat.toString_eq_repr, Nat.toList_repr]
  have digits : Nat.toDigits 10 first = Nat.toDigits 10 second := by
    rw [← text, ← text, same]
  have value := Decimal.digitsValue_toDigits .ascii first
  rw [digits, Decimal.digitsValue_toDigits] at value
  exact (Option.some.inj value).symm

theorem strip_line (n : Nat) : strip (toString n ++ "\n") = toString n := by
  have solid := Columns.solid_toDigits n
  have padded := Columns.strip_padded [] (Nat.toDigits 10 n) ['\n'] (List.forall_mem_nil _)
    (List.forall_mem_singleton.mpr rfl) Nat.toDigits_ne_nil
    (fun c first => solid c (List.mem_of_mem_head? first))
    (fun c last => solid c (List.mem_of_mem_getLast? last))
  have text : toString n = String.ofList (Nat.toDigits 10 n) := by
    rw [Nat.toString_eq_repr, ← Nat.toList_repr, String.ofList_toList]
  have line : toString n ++ "\n" = String.ofList ([] ++ (Nat.toDigits 10 n ++ ['\n'])) := by
    rw [text, List.nil_append, String.ofList_append]
  rw [line, padded, text]

theorem isPid_toString (db : CharDb) (n : Nat) : isPid db (toString n) = true := by
  have digits := (Decimal.digitsValue_isSome_iff db (Nat.toDigits 10 n)).mp
    (by rw [Decimal.digitsValue_toDigits]; rfl)
  have text : (toString n).toList = Nat.toDigits 10 n := by
    rw [Nat.toString_eq_repr, Nat.toList_repr]
  unfold isPid
  rw [text, Bool.and_eq_true, List.all_eq_true]
  exact ⟨by simp, digits⟩

/-! ## What the commands do -/

section Commands

variable (space : Namespace) (pid : Nat)

theorem command_spawn : command space pid spawnArgv = spawn space pid := by
  unfold command
  exact if_pos rfl

theorem killArgv_injective : Function.Injective fun n : Nat => killArgv (toString n) := by
  intro first second same
  simp only [killArgv, List.cons.injEq, and_true, true_and] at same
  exact toString_injective same

theorem checkArgv_injective : Function.Injective fun n : Nat => checkArgv (toString n) := by
  intro first second same
  simp only [checkArgv, List.cons.injEq, and_true, true_and] at same
  have lists := congrArg String.toList same
  simp only [String.toList_append, List.append_assoc] at lists
  refine toString_injective (String.toList_inj.mp ?_)
  exact List.append_cancel_right (List.append_cancel_left lists)

variable {space}

theorem command_kill {process : Process} (held : process ∈ space.table) :
    command space pid (killArgv (toString process.pid)) =
      (space.signal process.pid, ⟨0, "", ""⟩) := by
  have found : addressed space killArgv (killArgv (toString process.pid)) = some process :=
    Namespace.find_pid (fun n => killArgv (toString n)) killArgv_injective held
  have other : killArgv (toString process.pid) ≠ spawnArgv := by simp [killArgv, spawnArgv]
  simp only [command, if_neg other, found]

theorem command_check {process : Process} (held : process ∈ space.table) :
    command space pid (checkArgv (toString process.pid)) =
      (space, ⟨0, stat process.status ++ "\n", ""⟩) := by
  have found : addressed space checkArgv (checkArgv (toString process.pid)) = some process :=
    Namespace.find_pid (fun n => checkArgv (toString n)) checkArgv_injective held
  have harmless : addressed space killArgv (checkArgv (toString process.pid)) = none := by
    unfold addressed
    rw [List.find?_eq_none]
    intro other _
    simp [killArgv, checkArgv]
  have other : checkArgv (toString process.pid) ≠ spawnArgv := by simp [checkArgv, spawnArgv]
  simp only [command, if_neg other, harmless, found]

theorem strip_stat (status : Status) : strip (stat status ++ "\n") = stat status := by
  cases status <;> decide +kernel

/-- The verdict on a process that is there. -/
theorem verdict_stat (status : Status) :
    (stat status == "gone" || (stat status).startsWith "Z") = decide (status = .dead) := by
  cases status <;> decide +kernel

end Commands

/-! ## The course of a run -/

def check (pid : String) : Injection Unit := do
  let check ← ask (.exec (checkArgv pid))
  yieldEvent (killResult pid (strip check.stdout))

def settleDown (pid : String) : Injection Unit := do
  ask (.sleep (1 / 2))
  check pid

def kill (pid : String) : Injection Unit := do
  let _ ← ask (.exec (killArgv pid))
  settleDown pid

def pause (pid : String) : Injection Unit := do
  ask (.sleep 1)
  kill pid

/-- What follows the spawning. -/
def afterSpawn (db : CharDb) (spawn : CompletedProcess) : Injection Unit :=
  let pid := strip spawn.stdout
  if isPid db pid then do
    yieldEvent (.sampleMessage ("spawned demo process pid=" ++ pid ++ " inside the sandbox"))
    pause pid
  else yieldEvent (unspawnedEvent spawn)

theorem afterSpawn_line (db : CharDb) (pid : Nat) :
    afterSpawn db ⟨0, toString pid ++ "\n", ""⟩ = (do
      yieldEvent (.sampleMessage
        ("spawned demo process pid=" ++ toString pid ++ " inside the sandbox"))
      pause (toString pid)) := by
  simp only [afterSpawn, strip_line, isPid_toString, if_true]

/-- What a run with a process has still to do. -/
inductive Stage where
  | pausing
  | killing
  | settling
  | checking
  deriving DecidableEq

def Stage.code (pid : String) : Stage → Injection Unit
  | .pausing => pause pid
  | .killing => kill pid
  | .settling => settleDown pid
  | .checking => check pid

def announced (pid : String) : List Event :=
  [.startKill, .sampleMessage ("spawned demo process pid=" ++ pid ++ " inside the sandbox")]

def under (stage : Stage) (serial pid : Nat) : Demo :=
  ⟨settle (stage.code (toString pid)) (announced (toString pid)), some serial⟩

def reported (serial pid : Nat) (status : Status) : Demo :=
  ⟨⟨announced (toString pid) ++ [killResult (toString pid) (stat status)], .done ()⟩, some serial⟩

def unspawned (spawn : CompletedProcess) : Demo :=
  ⟨⟨[.startKill, unspawnedEvent spawn], .done ()⟩, none⟩

section Course

variable (db : CharDb) (space : Namespace) (pid : Nat)

theorem step_call (demo : Demo) (luck : Luck Failure) (request : Call)
    (resume : Except Failure request.Answer → Injection Unit)
    (calls : demo.run.rest = .call request resume) :
    demo.step space pid luck = some ((serve space pid luck request).1, {
      run := settle (resume (serve space pid luck request).2) demo.run.events
      spawned := if (serve space pid luck request).1.started = space.started then demo.spawned
        else some space.started }) := by
  unfold Demo.step
  rw [calls]

/-- A call that leaves the number of processes started as it is. -/
theorem step_quiet (demo : Demo) (luck : Luck Failure) (request : Call)
    (resume : Except Failure request.Answer → Injection Unit)
    (calls : demo.run.rest = .call request resume)
    (quiet : (serve space pid luck request).1.started = space.started) :
    demo.step space pid luck = some ((serve space pid luck request).1,
      ⟨settle (resume (serve space pid luck request).2) demo.run.events, demo.spawned⟩) := by
  rw [step_call space pid demo luck request resume calls, if_pos quiet]

theorem step_pausing (serial own : Nat) : (under .pausing serial own).step space pid .fine =
    some (space, under .killing serial own) :=
  step_quiet space pid (under .pausing serial own) .fine (.sleep 1) _ rfl rfl

theorem step_settling (serial own : Nat) : (under .settling serial own).step space pid .fine =
    some (space, under .checking serial own) :=
  step_quiet space pid (under .settling serial own) .fine (.sleep (1 / 2)) _ rfl rfl

variable {space}

theorem step_killing (serial : Nat) {process : Process} (held : process ∈ space.table) :
    (under .killing serial process.pid).step space pid .fine =
      some (space.signal process.pid, under .settling serial process.pid) := by
  have served : serve space pid .fine (.exec (killArgv (toString process.pid))) =
      (space.signal process.pid, .ok ⟨0, "", ""⟩) := by
    simp only [serve, Luck.apply, answer, command_kill pid held]
  rw [step_quiet space pid (under .killing serial process.pid) .fine
    (.exec (killArgv (toString process.pid))) _ rfl (by rw [served]; rfl), served]
  rfl

theorem step_checking (serial : Nat) {process : Process} (held : process ∈ space.table) :
    (under .checking serial process.pid).step space pid .fine =
      some (space, reported serial process.pid process.status) := by
  have served : serve space pid .fine (.exec (checkArgv (toString process.pid))) =
      (space, .ok ⟨0, stat process.status ++ "\n", ""⟩) := by
    simp only [serve, Luck.apply, answer, command_check pid held]
  rw [step_quiet space pid (under .checking serial process.pid) .fine
    (.exec (checkArgv (toString process.pid))) _ rfl (by rw [served]), served]
  change some (space,
    (⟨⟨_ ++ [killResult _ (strip (stat process.status ++ "\n"))], _⟩, _⟩ : Demo)) = _
  rw [strip_stat]
  rfl

theorem spawn_started {next : Namespace} (started : space.start pid .first = some next) :
    spawn space pid = (next, ⟨0, toString pid ++ "\n", ""⟩) := by
  unfold spawn
  rw [started]

theorem spawn_refused (refused : space.start pid .first = none) :
    spawn space pid = (space, ⟨126, "", "bash: fork: Resource temporarily unavailable\n"⟩) := by
  unfold spawn
  rw [refused]

/-- A run before its first call is answered. -/
def spawning : Except Failure CompletedProcess → Injection Unit
  | .ok spawn => afterSpawn db spawn
  | .error exn => .fail exn

theorem start_rest : (Demo.start db).run.rest = .call (.exec spawnArgv) (spawning db) := by
  refine congrArg (Gen.call (Call.exec spawnArgv)) ?_
  funext reply
  cases reply with
  | ok spawn => rfl
  | error exn => rfl

theorem step_started {next : Namespace} (started : space.start pid .first = some next) :
    (Demo.start db).step space pid .fine = some (next, under .pausing space.started pid) := by
  have served : serve space pid .fine (.exec spawnArgv) =
      (next, .ok ⟨0, toString pid ++ "\n", ""⟩) := by
    simp only [serve, Luck.apply, answer, command_spawn, spawn_started pid started]
  have grown := (Namespace.start_cases started).2.1
  rw [step_call space pid (.start db) .fine (.exec spawnArgv) (spawning db) (start_rest db), served]
  simp only [spawning, afterSpawn_line, if_neg (show ¬ next.started = space.started by omega)]
  rfl

theorem step_refused (refused : space.start pid .first = none) :
    (Demo.start db).step space pid .fine = some (space,
      unspawned ⟨126, "", "bash: fork: Resource temporarily unavailable\n"⟩) := by
  have served : serve space pid .fine (.exec spawnArgv) = (space, .ok
      ⟨126, "", "bash: fork: Resource temporarily unavailable\n"⟩) := by
    simp only [serve, Luck.apply, answer, command_spawn, spawn_refused pid refused]
  rw [step_quiet space pid (.start db) .fine (.exec spawnArgv) (spawning db) (start_rest db)
    (by rw [served]), served]
  rfl

end Course

/-! ## Every step of a run -/

/-- A call that is served, with what it does to the container. -/
inductive Served (db : CharDb) (space : Namespace) (pid : Nat) : Demo → Namespace → Demo → Prop
  | spawned (next : Namespace) (started : space.start pid .first = some next) :
      Served db space pid (.start db) next (under .pausing space.started pid)
  | refused (spawn : CompletedProcess) :
      Served db space pid (.start db) space (unspawned spawn)
  | paused (serial own : Nat) (inherited : space.Inherited serial own) :
      Served db space pid (under .pausing serial own) space (under .killing serial own)
  | killed (process : Process) (held : process ∈ space.table)
      (inherited : process.parent = .first) :
      Served db space pid (under .killing process.serial process.pid) (space.signal process.pid)
        (under .settling process.serial process.pid)
  | settled (serial own : Nat) (inherited : space.Inherited serial own) :
      Served db space pid (under .settling serial own) space (under .checking serial own)
  | checked (process : Process) (held : process ∈ space.table)
      (inherited : process.parent = .first) :
      Served db space pid (under .checking process.serial process.pid) space
        (reported process.serial process.pid process.status)

/-- The run waits for the answer to a call, and lets an exception through. -/
def Waits (demo : Demo) : Prop :=
  ∃ (request : Call) (resume : Except Failure request.Answer → Injection Unit),
    demo.run.rest = .call request resume ∧ ∀ exn, resume (.error exn) = .fail exn

/-- The run with an exception at the call that it was waiting for. -/
def Demo.raised (demo : Demo) (spawned : Option Nat) (exn : Failure) : Demo :=
  ⟨⟨demo.run.events, .fail exn⟩, spawned⟩

inductive Move (db : CharDb) (space : Namespace) (pid : Nat) (demo : Demo) :
    Namespace → Demo → Prop
  | served (next : Namespace) (demo' : Demo) (serves : Served db space pid demo next demo') :
      Move db space pid demo next demo'
  | before (waits : Waits demo) (exn : Failure) :
      Move db space pid demo space (demo.raised demo.spawned exn)
  | after (next : Namespace) (demo' : Demo) (serves : Served db space pid demo next demo')
      (exn : Failure) : Move db space pid demo next (demo.raised demo'.spawned exn)

/-- No verdict has been given. -/
def Silent (events : List Event) : Prop :=
  ∀ pid detected message recommendation,
    .resultKill pid detected message recommendation ∉ events

/-- The states that a run goes through. -/
inductive Shape (db : CharDb) (space : Namespace) : Demo → Prop
  | fresh : Shape db space (.start db)
  | under (stage : Stage) (serial pid : Nat) (inherited : space.Inherited serial pid) :
      Shape db space (under stage serial pid)
  | reported (serial pid : Nat) (status : Status) (inherited : space.Inherited serial pid)
      (truthful : status = .dead → space.Dead serial) :
      Shape db space (reported serial pid status)
  | unspawned (spawn : CompletedProcess) : Shape db space (unspawned spawn)
  | raised (demo : Demo) (exn : Failure) (spawned : Option Nat)
      (silent : Silent demo.run.events)
      (inherited : ∀ serial ∈ spawned, ∃ pid, space.Inherited serial pid) :
      Shape db space (demo.raised spawned exn)

section Steps

variable {db : CharDb} {space : Namespace} {pid : Nat} {demo : Demo}

theorem waits_start : Waits (.start db) :=
  ⟨.exec spawnArgv, spawning db, start_rest db, fun _ => rfl⟩

theorem waits_under (stage : Stage) (serial pid : Nat) : Waits (under stage serial pid) := by
  cases stage with
  | pausing => exact ⟨.sleep 1, _, rfl, fun _ => rfl⟩
  | killing => exact ⟨.exec (killArgv (toString pid)), _, rfl, fun _ => rfl⟩
  | settling => exact ⟨.sleep (1 / 2), _, rfl, fun _ => rfl⟩
  | checking => exact ⟨.exec (checkArgv (toString pid)), _, rfl, fun _ => rfl⟩

theorem step_before (waits : Waits demo) (exn : Failure) :
    demo.step space pid (.before exn) = some (space, demo.raised demo.spawned exn) := by
  obtain ⟨request, resume, calls, fails⟩ := waits
  rw [step_quiet space pid demo (.before exn) request resume calls rfl]
  change some (space, (⟨settle (resume (.error exn)) _, _⟩ : Demo)) = _
  rw [fails]
  rfl

/-- An exception after the effect leaves the container as the call has made it. -/
theorem step_after (waits : Waits demo) (exn : Failure) {next : Namespace} {demo' : Demo}
    (fine : demo.step space pid .fine = some (next, demo')) :
    demo.step space pid (.after exn) = some (next, demo.raised demo'.spawned exn) := by
  obtain ⟨request, resume, calls, fails⟩ := waits
  rw [step_call space pid demo .fine request resume calls] at fine
  cases Option.some.inj fine
  rw [step_call space pid demo (.after exn) request resume calls]
  change some (_, (⟨settle (resume (.error exn)) _, _⟩ : Demo)) = _
  rw [fails]
  rfl

theorem under_served (db : CharDb) (pid : Nat) (stage : Stage) (serial own : Nat)
    (inherited : space.Inherited serial own) :
    ∃ next demo', (under stage serial own).step space pid .fine = some (next, demo') ∧
      Served db space pid (under stage serial own) next demo' := by
  have ⟨process, held, sameSerial, samePid, first⟩ := inherited
  cases stage with
  | pausing => exact ⟨_, _, step_pausing space pid _ _, .paused serial own inherited⟩
  | killing =>
      subst sameSerial samePid
      exact ⟨_, _, step_killing pid _ held, .killed process held first⟩
  | settling => exact ⟨_, _, step_settling space pid _ _, .settled serial own inherited⟩
  | checking =>
      subst sameSerial samePid
      exact ⟨_, _, step_checking pid _ held, .checked process held first⟩

theorem start_served (db : CharDb) (space : Namespace) (pid : Nat) :
    ∃ next demo', (Demo.start db).step space pid .fine = some (next, demo') ∧
      Served db space pid (.start db) next demo' := by
  cases started : space.start pid .first with
  | some next => exact ⟨_, _, step_started db pid started, .spawned next started⟩
  | none => exact ⟨_, _, step_refused db pid started, .refused _⟩

theorem move_of_served {luck : Luck Failure} {next next' : Namespace} {demo' demo'' : Demo}
    (waits : Waits demo) (fine : demo.step space pid .fine = some (next, demo'))
    (serves : Served db space pid demo next demo')
    (stepped : demo.step space pid luck = some (next', demo'')) :
    Move db space pid demo next' demo'' := by
  cases luck with
  | fine =>
      cases Option.some.inj (fine.symm.trans stepped)
      exact .served next demo' serves
  | before exn =>
      cases Option.some.inj ((step_before waits exn).symm.trans stepped)
      exact .before waits exn
  | after exn =>
      cases Option.some.inj ((step_after waits exn fine).symm.trans stepped)
      exact .after next demo' serves exn

theorem step_move {luck : Luck Failure} {next : Namespace} {demo' : Demo}
    (shape : Shape db space demo) (stepped : demo.step space pid luck = some (next, demo')) :
    Move db space pid demo next demo' := by
  cases shape with
  | fresh =>
      obtain ⟨_, _, fine, serves⟩ := start_served db space pid
      exact move_of_served waits_start fine serves stepped
  | under stage serial own inherited =>
      obtain ⟨_, _, fine, serves⟩ := under_served db pid stage serial own inherited
      exact move_of_served (waits_under stage serial own) fine serves stepped
  | reported _ _ _ _ _ => cases stepped
  | unspawned _ => cases stepped
  | raised _ _ _ _ _ => cases stepped

/-! ## What a step leaves alone -/

variable {next : Namespace} {demo' other : Demo}

/-- To the other processes a call is an event like any other, if it is one. -/
theorem served_event (serves : Served db space pid demo next demo') :
    next = space ∨ ∃ event, space.step event = some next := by
  cases serves with
  | spawned _ started => exact Or.inr ⟨.start pid .first, started⟩
  | killed process _ _ => exact Or.inr ⟨.signal process.pid, rfl⟩
  | _ => exact Or.inl rfl

theorem move_event (move : Move db space pid demo next demo') :
    next = space ∨ ∃ event, space.step event = some next := by
  cases move with
  | served _ _ serves => exact served_event serves
  | before _ _ => exact Or.inl rfl
  | after _ _ serves _ => exact served_event serves

/-- What is inherited stays inherited, and what is dead stays dead. -/
structure Keeps (space next : Namespace) : Prop where
  inherited : ∀ serial pid, space.Inherited serial pid → next.Inherited serial pid
  dead : ∀ serial, space.Dead serial → next.Dead serial
  limit : next.limit = space.limit

theorem keeps_event (happens : next = space ∨ ∃ event, space.step event = some next) :
    Keeps space next := by
  rcases happens with rfl | ⟨event, stepped⟩
  · exact ⟨fun _ _ => id, fun _ => id, rfl⟩
  · exact ⟨fun _ _ => Namespace.inherited_step stepped, fun _ => Namespace.dead_step stepped,
      Namespace.limit_step stepped⟩

theorem shape_kept (keeps : Keeps space next) (shape : Shape db space demo) :
    Shape db next demo := by
  cases shape with
  | fresh => exact .fresh
  | under stage serial own inherited =>
      exact .under stage serial own (keeps.inherited _ _ inherited)
  | reported serial own status inherited truthful =>
      exact .reported serial own status (keeps.inherited _ _ inherited)
        fun dead => keeps.dead _ (truthful dead)
  | unspawned spawn => exact .unspawned spawn
  | raised demo exn spawned silent inherited =>
      refine .raised demo exn spawned silent fun serial member => ?_
      obtain ⟨own, there⟩ := inherited serial member
      exact ⟨own, keeps.inherited _ _ there⟩

/-- The process that a run has started stays its own. -/
theorem shape_inherited (shape : Shape db space demo) :
    ∀ serial ∈ demo.spawned, ∃ own, space.Inherited serial own := by
  intro serial member
  cases shape with
  | fresh => cases member
  | under stage _ own inherited =>
      cases member
      exact ⟨own, inherited⟩
  | reported _ own _ inherited _ =>
      cases member
      exact ⟨own, inherited⟩
  | unspawned _ => cases member
  | raised _ _ _ _ inherited => exact inherited serial member

theorem announced_silent (text : String) : Silent (announced text) := by
  intro pid detected message recommendation
  simp [announced]

theorem events_under (stage : Stage) (serial own : Nat) :
    (under stage serial own).run.events = announced (toString own) := by
  cases stage <;> rfl

/-- A run that waits for an answer has not given its verdict. -/
theorem silent_of_waits (shape : Shape db space demo) (waits : Waits demo) :
    Silent demo.run.events := by
  cases shape with
  | fresh =>
      intro pid detected message recommendation
      change _ ∉ [Event.startKill]
      simp
  | under stage serial own _ =>
      rw [events_under]
      exact announced_silent (toString own)
  | raised demo _ _ silent _ => exact silent
  | reported _ _ _ _ _ =>
      obtain ⟨_, _, calls, -⟩ := waits
      cases calls
  | unspawned _ =>
      obtain ⟨_, _, calls, -⟩ := waits
      cases calls

theorem served_waits (serves : Served db space pid demo next demo') : Waits demo := by
  cases serves with
  | spawned _ _ => exact waits_start
  | refused _ => exact waits_start
  | _ => exact waits_under _ _ _

theorem served_shape (serves : Served db space pid demo next demo') : Shape db next demo' := by
  have keeps := keeps_event (served_event serves)
  cases serves with
  | spawned _ started => exact .under _ _ _ (Namespace.start_inherited started)
  | refused spawn => exact .unspawned spawn
  | paused serial own inherited => exact .under _ _ _ inherited
  | killed process held inherited =>
      exact .under _ _ _ (keeps.inherited _ _ ⟨process, held, rfl, rfl, inherited⟩)
  | settled serial own inherited => exact .under _ _ _ inherited
  | checked process held inherited =>
      exact .reported _ _ _ ⟨process, held, rfl, rfl, inherited⟩
        fun dead => ⟨process, held, rfl, inherited, dead⟩

theorem move_shape (move : Move db space pid demo next demo') (shape : Shape db space demo) :
    Shape db next demo' := by
  cases move with
  | served _ _ serves => exact served_shape serves
  | before waits exn =>
      exact .raised demo exn _ (silent_of_waits shape waits) (shape_inherited shape)
  | after _ demo' serves exn =>
      exact .raised demo exn _ (silent_of_waits shape (served_waits serves))
        (shape_inherited (served_shape serves))

/-- A run starts one process at most, which has the next serial. -/
theorem served_spawned (serves : Served db space pid demo next demo') :
    demo'.spawned = demo.spawned ∨
      (demo.spawned = none ∧ demo'.spawned = some space.started) := by
  cases serves with
  | spawned _ _ => exact Or.inr ⟨rfl, rfl⟩
  | _ => exact Or.inl rfl

theorem move_spawned (move : Move db space pid demo next demo') :
    demo'.spawned = demo.spawned ∨
      (demo.spawned = none ∧ demo'.spawned = some space.started) := by
  cases move with
  | served _ _ serves => exact served_spawned serves
  | before _ _ => exact Or.inl rfl
  | after _ _ serves _ =>
      have spawned := served_spawned serves
      exact spawned

/-- A call touches no process but the run's own. -/
theorem served_frame (serves : Served db space pid demo next demo') (process : Process)
    (held : process ∈ space.table) (apart : demo.spawned ≠ some process.serial) :
    process ∈ next.table := by
  cases serves with
  | spawned _ started =>
      rw [(Namespace.start_cases started).1]
      exact List.mem_append_left _ held
  | killed own there _ =>
      refine Namespace.signal_apart there held fun same => apart ?_
      exact congrArg some same.symm
  | _ => exact held

theorem move_frame (move : Move db space pid demo next demo') (process : Process)
    (held : process ∈ space.table) (apart : demo.spawned ≠ some process.serial) :
    process ∈ next.table := by
  cases move with
  | served _ _ serves => exact served_frame serves process held apart
  | before _ _ => exact held
  | after _ _ serves _ => exact served_frame serves process held apart

/-- The verdict that a step brings is about the state of the run's own process. -/
theorem move_verdict (move : Move db space pid demo next demo') (shape : Shape db space demo)
    (text : Option String) (detected : Bool) (message recommendation : String)
    (brought : .resultKill text detected message recommendation ∈ demo'.run.events) :
    (text = none ∧ detected = false) ∨ ∃ process ∈ space.table,
      demo.spawned = some process.serial ∧ text = some (toString process.pid) ∧
        (detected = true ↔ process.status = .dead) := by
  cases move with
  | before waits _ => exact absurd brought (silent_of_waits shape waits _ _ _ _)
  | after _ _ serves _ =>
      exact absurd brought (silent_of_waits shape (served_waits serves) _ _ _ _)
  | served _ _ serves =>
      cases serves with
      | refused spawn =>
          change _ ∈ [Event.startKill, unspawnedEvent spawn] at brought
          simp only [unspawnedEvent, List.mem_cons, reduceCtorEq, Event.resultKill.injEq,
            List.not_mem_nil, or_false, false_or] at brought
          exact Or.inl ⟨brought.1, brought.2.1⟩
      | checked process held _ =>
          change _ ∈ announced _ ++ [killResult _ _] at brought
          rcases List.mem_append.mp brought with early | verdict
          · exact absurd early (announced_silent _ _ _ _ _)
          · rw [List.mem_singleton] at verdict
            simp only [killResult, verdict_stat, Event.resultKill.injEq] at verdict
            refine Or.inr ⟨process, held, rfl, verdict.1, ?_⟩
            rw [verdict.2.1, decide_eq_true_eq]
      | _ =>
          rw [events_under] at brought
          exact absurd brought (announced_silent _ _ _ _ _)

end Steps

/-! ## Any number of runs -/

section Runs

variable {db : CharDb}

/-- The serials of the processes that the runs have started. -/
def Container.serials (container : Container) : List Nat :=
  container.demos.filterMap Demo.spawned

structure Sound (db : CharDb) (container : Container) : Prop where
  shapes : ∀ demo ∈ container.demos, Shape db container.space demo
  apart : container.serials.Nodup

theorem serial_inherited (container : Container) (sound : Sound db container) (serial : Nat)
    (member : serial ∈ container.serials) : ∃ pid, container.space.Inherited serial pid := by
  obtain ⟨demo, there, spawned⟩ := List.mem_filterMap.mp member
  exact shape_inherited (sound.shapes demo there) serial spawned

/-- A step of a run, with the run before and after it. -/
theorem run_cases {container next : Container} {index pid : Nat} {luck : Luck Failure}
    (sound : Sound db container)
    (stepped : (machine db).step container (.run index pid luck) = some next) :
    ∃ demo space demo', container.demos[index]? = some demo ∧
      Move db container.space pid demo space demo' ∧
        next = ⟨space, container.demos.set index demo'⟩ := by
  obtain ⟨demo, found, taken⟩ := Option.bind_eq_some_iff.mp stepped
  obtain ⟨⟨space, demo'⟩, ran, same⟩ := Option.bind_eq_some_iff.mp taken
  cases Option.some.inj same
  exact ⟨demo, space, demo', found,
    step_move (sound.shapes demo (List.mem_of_getElem? found)) ran, rfl⟩

theorem sound_step {container next : Container} {label : Label} (sound : Sound db container)
    (stepped : (machine db).step container label = some next) : Sound db next := by
  cases label with
  | begin =>
      cases Option.some.inj stepped
      refine ⟨?_, ?_⟩
      · rw [List.forall_mem_append, List.forall_mem_singleton]
        exact ⟨sound.shapes, .fresh⟩
      · have same : (container.demos ++ [Demo.start db]).filterMap Demo.spawned =
            container.serials := by
          rw [List.filterMap_append]
          exact List.append_nil _
        change List.Nodup (List.filterMap _ _)
        rw [same]
        exact sound.apart
  | run index pid luck =>
      obtain ⟨demo, space, demo', found, move, rfl⟩ := run_cases sound stepped
      have keeps := keeps_event (move_event move)
      have shape := sound.shapes demo (List.mem_of_getElem? found)
      refine ⟨?_, ?_⟩
      · intro other member
        rcases List.mem_or_eq_of_mem_set member with old | rfl
        · exact shape_kept keeps (sound.shapes other old)
        · exact move_shape move shape
      · rcases move_spawned move with same | ⟨nothing, fresh⟩
        · have carried := Interleaving.filterMap_set_same Demo.spawned container.demos index
            demo demo' found same
          change List.Nodup (List.filterMap _ _)
          rw [carried]
          exact sound.apart
        · have carried := Interleaving.filterMap_set_new Demo.spawned container.demos index
            demo demo' _ found nothing fresh
          refine carried.nodup_iff.mpr (List.nodup_cons.mpr ⟨fun known => ?_, sound.apart⟩)
          obtain ⟨own, process, held, same, -⟩ := serial_inherited container sound _ known
          exact absurd same (Nat.ne_of_lt (container.space.known process held))
  | other event =>
      obtain ⟨space, happened, rfl⟩ := Option.map_eq_some_iff.mp stepped
      exact ⟨fun demo member =>
        shape_kept (keeps_event (Or.inr ⟨event, happened⟩)) (sound.shapes demo member),
        sound.apart⟩

theorem limit_kept {container next : Container} {label : Label} (sound : Sound db container)
    (stepped : (machine db).step container label = some next) :
    next.space.limit = container.space.limit := by
  cases label with
  | begin =>
      cases Option.some.inj stepped
      rfl
  | run index pid luck =>
      obtain ⟨_, _, _, _, move, rfl⟩ := run_cases sound stepped
      exact (keeps_event (move_event move)).limit
  | other event =>
      obtain ⟨space, happened, rfl⟩ := Option.map_eq_some_iff.mp stepped
      exact Namespace.limit_step happened

theorem sound_reached (space : Namespace) (labels : List Label) (container : Container)
    (run : (machine db).exec labels ⟨space, []⟩ = some container) :
    Sound db container ∧ container.space.limit = space.limit := by
  refine (machine db).invariant_of_exec
    (fun container => Sound db container ∧ container.space.limit = space.limit) ?_
    labels ⟨space, []⟩ container ⟨⟨List.forall_mem_nil _, List.nodup_nil⟩, rfl⟩ run
  rintro earlier label next ⟨sound, limit⟩ stepped
  exact ⟨sound_step sound stepped, (limit_kept sound stepped).trans limit⟩

/-- What a step of a run does: it leaves every process but the run's own as it
is, and a verdict that it brings says whether that one is dead. -/
structure Contained (space next : Namespace) (demo demo' : Demo) : Prop where
  frame : ∀ process ∈ space.table, demo.spawned ≠ some process.serial → process ∈ next.table
  verdict : ∀ text detected message recommendation,
    .resultKill text detected message recommendation ∈ demo'.run.events →
      (text = none ∧ detected = false) ∨ ∃ process ∈ space.table,
        demo.spawned = some process.serial ∧ text = some (toString process.pid) ∧
          (detected = true ↔ process.status = .dead)

/-- Whatever else runs, dies and is killed in the container, a run signals and
judges no process but the one that it has started. -/
theorem own_process_only (space : Namespace) (labels : List Label)
    (container next : Container) (index pid : Nat) (luck : Luck Failure)
    (run : (machine db).exec labels ⟨space, []⟩ = some container)
    (stepped : (machine db).step container (.run index pid luck) = some next) :
    ∃ demo demo', container.demos[index]? = some demo ∧ next.demos[index]? = some demo' ∧
      Contained container.space next.space demo demo' := by
  have sound := (sound_reached space labels container run).1
  obtain ⟨demo, space', demo', found, move, rfl⟩ := run_cases sound stepped
  have inside : index < container.demos.length := (List.getElem?_eq_some_iff.mp found).1
  refine ⟨demo, demo', found, List.getElem?_set_self inside, ?_⟩
  exact ⟨move_frame move, move_verdict move (sound.shapes demo (List.mem_of_getElem? found))⟩

/-- Two runs start a process each; the first one's dies of the signal. -/
def twoRuns : List Label :=
  [.begin, .run 0 7 .fine, .begin, .run 1 8 .fine, .run 0 0 .fine, .run 0 0 .fine,
    .other (.die 0), .run 0 0 .fine]

theorem own_process_only_two : ∃ container next : Container,
    (machine .ascii).exec twoRuns ⟨.fresh 100, []⟩ = some container ∧
    (machine .ascii).step container (.run 0 0 .fine) = some next ∧
    ∃ demo demo', container.demos[0]? = some demo ∧ next.demos[0]? = some demo' ∧
      Contained container.space next.space demo demo' := by
  have reaches : ((((machine .ascii).exec twoRuns ⟨.fresh 100, []⟩).bind
      fun container => (machine .ascii).step container (.run 0 0 .fine))).isSome := by
    decide +kernel
  obtain ⟨next, both⟩ := Option.isSome_iff_exists.mp reaches
  obtain ⟨container, run, stepped⟩ := Option.bind_eq_some_iff.mp both
  exact ⟨container, next, run, stepped,
    own_process_only (.fresh 100) twoRuns container next 0 0 .fine run stepped⟩

theorem shape_confirmed {space : Namespace} {demo : Demo} (shape : Shape db space demo)
    (text message recommendation : String)
    (confirmed : .resultKill (some text) true message recommendation ∈ demo.run.events) :
    ∃ serial ∈ demo.spawned, space.Dead serial := by
  cases shape with
  | fresh =>
      have shape : Shape db space (.start db) := .fresh
      exact absurd confirmed (silent_of_waits shape waits_start _ _ _ _)
  | under stage serial own inherited =>
      rw [events_under] at confirmed
      exact absurd confirmed (announced_silent _ _ _ _ _)
  | reported serial own status inherited truthful =>
      rcases List.mem_append.mp confirmed with early | verdict
      · exact absurd early (announced_silent _ _ _ _ _)
      · rw [List.mem_singleton] at verdict
        simp only [killResult, verdict_stat, Event.resultKill.injEq] at verdict
        exact ⟨serial, rfl, truthful (of_decide_eq_true verdict.2.1.symm)⟩
  | unspawned spawn =>
      change _ ∈ [Event.startKill, unspawnedEvent spawn] at confirmed
      simp [unspawnedEvent] at confirmed
  | raised demo _ _ silent _ => exact absurd confirmed (silent _ _ _ _)

/-- What the runs leave behind. -/
structure Left (limit : Nat) (container : Container) : Prop where
  apart : container.serials.Nodup
  remains : ∀ serial ∈ container.serials, ∃ pid, container.space.Inherited serial pid
  confirmed : ∀ demo ∈ container.demos, ∀ text message recommendation,
    .resultKill (some text) true message recommendation ∈ demo.run.events →
      ∃ serial ∈ demo.spawned, container.space.Dead serial
  bounded : container.serials.length ≤ limit - 2

/-- Every run has a process of its own, which is dead when the run has said so
and which nobody ever waits for: its number stays taken, and there can be no
more runs than numbers. -/
theorem processes_left (space : Namespace) (labels : List Label) (container : Container)
    (run : (machine db).exec labels ⟨space, []⟩ = some container) :
    Left space.limit container := by
  obtain ⟨sound, limit⟩ := sound_reached space labels container run
  have remains := serial_inherited container sound
  refine ⟨sound.apart, remains, fun demo member => shape_confirmed (sound.shapes demo member), ?_⟩
  have listed : ∀ serial ∈ container.serials,
      serial ∈ container.space.table.map Process.serial := by
    intro serial member
    obtain ⟨pid, process, held, rfl, -⟩ := remains serial member
    exact List.mem_map_of_mem held
  have few := (List.subperm_of_subset sound.apart listed).length_le
  rw [List.length_map] at few
  exact few.trans (limit ▸ container.space.length_le)

theorem processes_left_two : ∃ container : Container,
    (machine .ascii).exec twoRuns ⟨.fresh 100, []⟩ = some container ∧ Left 100 container := by
  have reaches : ((machine .ascii).exec twoRuns ⟨.fresh 100, []⟩).isSome := by decide +kernel
  obtain ⟨container, run⟩ := Option.isSome_iff_exists.mp reaches
  exact ⟨container, run, processes_left (.fresh 100) twoRuns container run⟩

end Runs

end KernelSprint.KillDemo

import Mathlib.Algebra.Order.Field.Rat
import Mathlib.Tactic.Linarith
import Mathlib.Tactic.NormNum
import KernelSprint.Backend.CommandAgent
import KernelSprint.Backend.PipelineReports
import KernelSprint.Lib.Course

/-!
# Time limits while output is streaming

A subprocess prints its lines, ends its output and exits at given times.  The
agents run against a clock: a read lasts until the next line or the end of
the output, a wait until the exit, and a kill ends both at once.
-/

set_option autoImplicit false

namespace KernelSprint.TimeLimits

open Generators Generators.Gen PyText StreamCommand Pipelines

/-- Times since the process was started. -/
structure Schedule where
  arrivals : List (ℚ × String)
  outputEnd : ℚ
  exit : ℚ
  early : ∀ arrival ∈ arrivals, 0 ≤ arrival.1 ∧ arrival.1 ≤ outputEnd
  ordered : arrivals.Pairwise fun first second => first.1 ≤ second.1
  started : 0 ≤ outputEnd ∧ 0 ≤ exit

def Schedule.lines (schedule : Schedule) : List String := schedule.arrivals.map Prod.snd

/-- An event that has reached the consumer, with the arrival of the line that
it relays when it relays one. -/
structure Relayed (Event : Type) where
  arrival : Option ℚ
  event : Event
  deriving DecidableEq

/-- `unread` is what the process has still to print or has printed unread. -/
structure Clock (Event : Type) where
  now : ℚ
  unread : List (ℚ × String)
  justRead : Option ℚ
  deadline : Option ℚ
  killed : Bool
  relayed : List (Relayed Event)

variable {Event : Type}

def Schedule.begin (schedule : Schedule) : Clock Event :=
  ⟨0, schedule.arrivals, none, none, false, []⟩

def Clock.advance (clock : Clock Event) (time : ℚ) : Clock Event :=
  { clock with now := max clock.now time }

/-- What happens at `time` unless the timer kills the process before. -/
def Clock.awaits (clock : Clock Event) (time : ℚ) (onTime : Clock Event → Clock Event) :
    Clock Event :=
  if clock.killed then clock
  else
    match clock.deadline with
    | none => onTime (clock.advance time)
    | some deadline =>
        if deadline < time then { clock.advance deadline with killed := true }
        else onTime (clock.advance time)

def Clock.consume (clock : Clock Event) (event : Event) : Clock Event :=
  { clock with
    justRead := none
    relayed := clock.relayed ++ [⟨clock.justRead, event⟩] }

/-- No line that arrives after the limit is relayed, and a process that is
still running then is reported as out of time, never with a result. -/
def KeepsLimit (limit : ℚ) (timeLimit : Event) (isResult : Event → Prop) (schedule : Schedule)
    (clock : Clock Event) : Prop :=
  (∀ relayed ∈ clock.relayed, ∀ arrival ∈ relayed.arrival, arrival ≤ limit) ∧
    (limit < schedule.exit →
      (clock.relayed.getLast?.map Relayed.event) = some timeLimit ∧
        ∀ relayed ∈ clock.relayed, relayed.arrival = none → ¬ isResult relayed.event)

/-! ## stream_command -/

section Command

/-- Reading takes the next line off; a process that has been killed has none. -/
def Clock.nextLine (clock : Clock Event) : Clock Event × Bool :=
  if clock.killed then (clock, false)
  else
    match clock.unread with
    | [] => (clock, false)
    | (time, _) :: rest =>
        let clock := clock.awaits time fun clock =>
          { clock with unread := rest, justRead := some time }
        (clock, !clock.killed)

def commandAnswer (schedule : Schedule) (returncode : Int) (clock : Clock String) :
    (request : CommandAgent.Call) → Clock String × Except PyExn request.Answer
  | .popen _ => (clock, .ok ())
  | .startTimer timeout => ({ clock with deadline := some (clock.now + timeout) }, .ok ())
  | .readLine _ => (clock.nextLine.1, .ok clock.nextLine.2)
  | .readEnd => (clock.awaits schedule.outputEnd id, .ok ())
  | .wait => (clock.awaits schedule.exit id, .ok ())
  | .cancelTimer => ({ clock with deadline := none }, .ok ())
  | .timedOut => (clock, .ok clock.killed)
  | .returncode => (clock, .ok returncode)

def commandWorld (schedule : Schedule) (returncode : Int) :
    World (Clock String) Unit CommandAgent.Call CommandAgent.Call.Answer String PyExn where
  usual := ()
  answer clock _ request := commandAnswer schedule returncode clock request
  consume clock _ line := (clock.consume line, none)

def runCommand (shlexSplit : String → Except String (List String)) (commandLine : String)
    (schedule : Schedule) (returncode : Int) : Clock String :=
  ((CommandAgent.streamCommand shlexSplit commandLine commandTimeoutSec schedule.lines).course
    (commandWorld schedule returncode) schedule.begin []).shared

variable (schedule : Schedule) (returncode : Int)

/-- The timer is set to the limit and every line so far came before it. -/
structure Punctual (limit : ℚ) (clock : Clock String) : Prop where
  deadline : clock.deadline = some limit
  quiet : clock.justRead = none
  relayed : ∀ relayed ∈ clock.relayed, ∃ arrival, relayed.arrival = some arrival ∧ arrival ≤ limit

theorem awaits_cases (clock : Clock Event) (limit time : ℚ)
    (onTime : Clock Event → Clock Event) (deadline : clock.deadline = some limit) :
    (clock.awaits time onTime = clock ∧ clock.killed) ∨
      (clock.awaits time onTime = { clock.advance limit with killed := true }) ∨
      (clock.awaits time onTime = onTime (clock.advance time) ∧ time ≤ limit) := by
  unfold Clock.awaits
  cases killed : clock.killed with
  | true => exact Or.inl ⟨rfl, rfl⟩
  | false =>
      rw [deadline]
      by_cases late : limit < time
      · exact Or.inr (Or.inl (if_pos late))
      · exact Or.inr (Or.inr ⟨if_neg late, not_lt.mp late⟩)

theorem punctual_awaits (limit time : ℚ) (clock : Clock String)
    (punctual : Punctual limit clock) : Punctual limit (clock.awaits time id) := by
  obtain ⟨deadline, quiet, relayed⟩ := punctual
  rcases awaits_cases clock limit time id deadline with ⟨same, _⟩ | same | ⟨same, _⟩
  · rw [same]
    exact ⟨deadline, quiet, relayed⟩
  · rw [same]
    exact ⟨deadline, quiet, relayed⟩
  · rw [same]
    exact ⟨deadline, quiet, relayed⟩

/-- A line that the reader gets was there before the timer fired. -/
theorem punctual_nextLine (limit : ℚ) (clock : Clock String) (line : String)
    (punctual : Punctual limit clock) :
    if clock.nextLine.2 then Punctual limit (clock.nextLine.1.consume line)
    else Punctual limit clock.nextLine.1 := by
  have kept := punctual
  obtain ⟨deadline, quiet, relayed⟩ := punctual
  unfold Clock.nextLine
  cases killed : clock.killed with
  | true => exact kept
  | false =>
      cases clock.unread with
      | nil => exact kept
      | cons next rest =>
          obtain ⟨time, text⟩ := next
          simp only [Bool.false_eq_true, ↓reduceIte]
          rcases awaits_cases clock limit time
            (fun clock => { clock with unread := rest, justRead := some time }) deadline with
            ⟨_, was⟩ | same | ⟨same, onTime⟩
          · rw [killed] at was
            cases was
          · rw [same]
            exact ⟨deadline, quiet, relayed⟩
          · rw [same]
            simp only [Clock.advance, killed, Bool.not_false, ↓reduceIte]
            refine ⟨deadline, rfl, ?_⟩
            intro entry member
            rcases List.mem_append.mp member with old | new
            · exact relayed entry old
            · rw [List.mem_singleton.mp new]
              exact ⟨time, rfl, onTime⟩

theorem relay_punctual (limit : ℚ) (lines : List String) (clock : Clock String)
    (punctual : Punctual limit clock) :
    Leads (commandWorld schedule returncode) (CommandAgent.relay lines) clock
      fun _ clock' result => result = .ok () ∧ Punctual limit clock' := by
  induction lines generalizing clock with
  | nil =>
      apply leads_call
      intro _
      exact ⟨rfl, punctual_awaits limit _ clock punctual⟩
  | cons line rest ih =>
      apply leads_bind
      apply leads_call
      intro _
      change Leads _ (if clock.nextLine.2 then _ else _) clock.nextLine.1 _
      have step := punctual_nextLine limit clock line punctual
      cases there : clock.nextLine.2 with
      | false =>
          rw [there] at step
          exact fun _ => ⟨rfl, step⟩
      | true =>
          rw [there] at step
          apply leads_bind (yieldEvent line) (fun _ => CommandAgent.relay rest)
          apply leads_event
          intro _
          exact ih (clock.nextLine.1.consume line) step

/-- When the wait has returned, a process that runs past the limit has been
killed. -/
theorem waited_killed (limit time : ℚ) (clock : Clock String)
    (punctual : Punctual limit clock) (late : limit < time) :
    (clock.awaits time id).killed := by
  rcases awaits_cases clock limit time id punctual.deadline with
    ⟨same, killed⟩ | same | ⟨_, onTime⟩
  · rw [same]
    exact killed
  · rw [same]
  · exact absurd late (not_lt.mpr onTime)

theorem report_keeps (limit : ℚ) (timeout : Nat) (clock : Clock String)
    (punctual : Punctual limit clock) (killed : limit < schedule.exit → clock.killed) :
    Leads (commandWorld schedule returncode) (CommandAgent.report timeout)
      { clock with deadline := none } fun _ clock' _ =>
        KeepsLimit limit (killedLine timeout) (fun line => ∃ code, line = exitLine code)
          schedule clock' := by
  obtain ⟨deadline, quiet, relayed⟩ := punctual
  have ended : ∀ line, (limit < schedule.exit → line = killedLine timeout) →
      (limit < schedule.exit → ¬ ∃ code, line = exitLine code) →
      KeepsLimit limit (killedLine timeout) (fun line => ∃ code, line = exitLine code) schedule
        (Clock.consume { clock with deadline := none } line) := by
    intro line isLimit notResult
    refine ⟨?_, fun late => ⟨?_, ?_⟩⟩
    · intro entry member arrival known
      rcases List.mem_append.mp member with old | new
      · obtain ⟨arrival', told, onTime⟩ := relayed entry old
        cases told.symm.trans known
        exact onTime
      · rw [List.mem_singleton.mp new] at known
        cases quiet.symm.trans known
    · simp only [Clock.consume, List.getLast?_concat, Option.map_some, isLimit late]
    · intro entry member unrelated
      rcases List.mem_append.mp member with old | new
      · obtain ⟨arrival', told, _⟩ := relayed entry old
        cases told.symm.trans unrelated
      · rw [List.mem_singleton.mp new]
        exact notResult late
  apply leads_bind
  apply leads_call
  intro _
  change Leads _ (if clock.killed then _ else _) _ _
  cases dead : clock.killed with
  | true =>
      apply leads_event
      intro _
      refine ended _ (fun _ => rfl) fun _ => ?_
      rintro ⟨code, same⟩
      exact killedLine_ne_exitLine timeout code same
  | false =>
      have inTime : ¬ limit < schedule.exit := by
        intro late
        rw [killed late] at dead
        cases dead
      apply leads_bind
      apply leads_call
      intro _
      apply leads_event
      intro _
      exact ended _ (fun late => absurd late inTime) fun late => absurd late inTime

theorem supervise_keeps (timeout : Nat) :
    Leads (commandWorld schedule returncode)
      (CommandAgent.supervise timeout schedule.lines) schedule.begin fun _ clock _ =>
        KeepsLimit timeout (killedLine timeout) (fun line => ∃ code, line = exitLine code)
          schedule clock := by
  have started : Punctual timeout
      { (schedule.begin : Clock String) with deadline := some (0 + timeout) } :=
    ⟨by simp, rfl, fun _ member => by cases member⟩
  apply leads_bind
  apply leads_call
  intro _
  apply leads_bind
  apply leads_withFinally
  apply leads_bind (CommandAgent.relay schedule.lines) (fun _ => CommandAgent.ask .wait)
  refine leads_mono _ _ _ _ ?_ (relay_punctual schedule returncode timeout _ _ started)
  rintro _ clock _ ⟨rfl, punctual⟩
  apply leads_call
  intro _
  apply leads_call
  intro _
  exact report_keeps schedule returncode timeout timeout (clock.awaits schedule.exit id)
    (punctual_awaits timeout _ clock punctual) (waited_killed timeout _ clock punctual)

/-- The lab's time limit holds for every schedule. -/
theorem command_keeps (shlexSplit : String → Except String (List String))
    (commandLine : String) (argv : List String) (parsed : shlexSplit commandLine = .ok argv)
    (nonempty : argv ≠ []) :
    KeepsLimit commandTimeoutSec (killedLine commandTimeoutSec)
      (fun line => ∃ code, line = exitLine code) schedule
      (runCommand shlexSplit commandLine schedule returncode) := by
  have runs : Leads (commandWorld schedule returncode)
      (CommandAgent.streamCommand shlexSplit commandLine commandTimeoutSec schedule.lines)
      schedule.begin fun _ clock _ => KeepsLimit commandTimeoutSec (killedLine commandTimeoutSec)
        (fun line => ∃ code, line = exitLine code) schedule clock := by
    unfold CommandAgent.streamCommand
    rw [parsed]
    cases argv with
    | nil => exact absurd rfl nonempty
    | cons first rest =>
        apply leads_bind
        apply leads_call
        intro _
        exact supervise_keeps schedule returncode commandTimeoutSec
  exact runs []

end Command

/-! ## The pipelines -/

section Pipelines

/-- The read loop of the pipelines has no limit of its own, and the timeout of
the wait counts from the end of the output on. -/
def hostAnswer (schedule : Schedule) (status : Int) (clock : Clock Pipelines.Event) :
    (request : HostCall) → Clock Pipelines.Event × Except PyExn request.Answer
  | .readLine _ =>
      match clock.unread with
      | [] => (clock, .ok ())
      | (time, _) :: rest =>
          ({ clock.advance time with unread := rest, justRead := some time }, .ok ())
  | .wait timeout =>
      let ended := clock.advance schedule.outputEnd
      if schedule.exit ≤ ended.now + timeout then (ended.advance schedule.exit, .ok status)
      else (ended.advance (ended.now + timeout), .error .timeoutExpired)
  | .kill => ({ clock with killed := true }, .ok ())
  | .makeScratchRoot => (clock, .ok ())
  | .makeTmpdir => (clock, .ok ())
  | .writePatch _ => (clock, .ok ())
  | .popen _ => (clock, .ok ())
  | .readResults => (clock, .ok committedBaseline)
  | .removeTmpdir => (clock, .ok ())

def hostWorld (schedule : Schedule) (status : Int) :
    World (Clock Pipelines.Event) Unit HostCall HostCall.Answer Pipelines.Event PyExn where
  usual := ()
  answer clock _ request := hostAnswer schedule status clock request
  consume clock _ event := (clock.consume event, none)

def runBenchmark (db : CharDb) (kernel : String) (schedule : Schedule) (status : Int) :
    Clock Pipelines.Event :=
  ((runBenchmarkPipeline db kernel schedule.lines).course (hostWorld schedule status)
    schedule.begin []).shared

def runPatch (db : CharDb) (patchText : String) (schedule : Schedule) (status : Int) :
    Clock Pipelines.Event :=
  ((runPatchPipeline db patchText schedule.lines).course (hostWorld schedule status)
    schedule.begin []).shared

variable (db : CharDb) (schedule : Schedule) (status : Int)

def relayedLine (arrival : ℚ × String) : Relayed Pipelines.Event :=
  ⟨some arrival.1, lineEvent db arrival.2⟩

/-- Every line is relayed, however late it comes. -/
theorem relayLines_leads (arrivals : List (ℚ × String)) (clock : Clock Pipelines.Event)
    (unread : clock.unread = arrivals) (quiet : clock.justRead = none)
    (before : clock.now ≤ schedule.outputEnd)
    (early : ∀ arrival ∈ arrivals, arrival.1 ≤ schedule.outputEnd) :
    Leads (hostWorld schedule status) (relayLines db (arrivals.map Prod.snd)) clock
      fun _ clock' result => result = .ok () ∧ clock'.justRead = none ∧
        clock'.now ≤ schedule.outputEnd ∧
        clock'.relayed = clock.relayed ++ arrivals.map (relayedLine db) := by
  induction arrivals generalizing clock with
  | nil =>
      intro _
      exact ⟨rfl, quiet, before, (List.append_nil _).symm⟩
  | cons arrival rest ih =>
      obtain ⟨time, line⟩ := arrival
      obtain ⟨here, later⟩ := List.forall_mem_cons.mp early
      apply leads_bind _ (fun _ => relayLines db (rest.map Prod.snd))
      apply leads_bind
      apply leads_call
      intro fate
      have taken : (hostWorld schedule status).answer clock fate (.readLine line) =
          ({ clock.advance time with unread := rest, justRead := some time }, .ok ()) := by
        simp only [hostWorld, hostAnswer, unread]
      rw [taken]
      apply leads_event
      intro _
      have moved := ih
        (Clock.consume { clock.advance time with unread := rest, justRead := some time }
          (lineEvent db line)) rfl rfl (max_le before here) later
      refine leads_mono _ _ _ _ ?_ moved
      rintro _ clock' result ⟨ended, quiet', before', relayed⟩
      refine ⟨ended, quiet', before', ?_⟩
      rw [relayed]
      simp [Clock.consume, Clock.advance, relayedLine]

/-- Events that relay no line, and of which none reports the time limit. -/
def Aside (timeLimit : Pipelines.Event) (entry : Relayed Pipelines.Event) : Prop :=
  entry.arrival = none ∧ entry.event ≠ timeLimit

/-- A call other than a read neither takes a line nor relays one. -/
theorem hostAnswer_quiet (clock : Clock Pipelines.Event) (request : HostCall)
    (noRead : ∀ line, request ≠ .readLine line) :
    (hostAnswer schedule status clock request).1.justRead = clock.justRead ∧
      (hostAnswer schedule status clock request).1.relayed = clock.relayed := by
  cases request with
  | readLine line => exact absurd rfl (noRead line)
  | wait timeout =>
      simp only [hostAnswer]
      split <;> exact ⟨rfl, rfl⟩
  | kill => exact ⟨rfl, rfl⟩
  | makeScratchRoot => exact ⟨rfl, rfl⟩
  | makeTmpdir => exact ⟨rfl, rfl⟩
  | writePatch text => exact ⟨rfl, rfl⟩
  | popen volume => exact ⟨rfl, rfl⟩
  | readResults => exact ⟨rfl, rfl⟩
  | removeTmpdir => exact ⟨rfl, rfl⟩

/-- What has been relayed since `clock` is no line of the process, and not the
time limit. -/
def AsideSince (timeLimit : Pipelines.Event) (clock clock' : Clock Pipelines.Event) : Prop :=
  ∃ rest, clock'.relayed = clock.relayed ++ rest ∧ ∀ entry ∈ rest, Aside timeLimit entry

theorem asideSince_consume (timeLimit event : Pipelines.Event)
    (clock clock' : Clock Pipelines.Event) (other : event ≠ timeLimit)
    (quiet : clock'.justRead = none) (since : AsideSince timeLimit clock clock') :
    AsideSince timeLimit clock (clock'.consume event) := by
  obtain ⟨rest, grown, aside⟩ := since
  refine ⟨rest ++ [⟨none, event⟩], ?_, ?_⟩
  · simp only [Clock.consume, quiet, grown, List.append_assoc]
  · intro entry member
    rcases List.mem_append.mp member with early | last
    · exact aside entry early
    · rw [List.mem_singleton.mp last]
      exact ⟨rfl, other⟩

/-- Code that reads no line and does not report the time limit. -/
theorem leads_aside {α : Type} (timeLimit : Pipelines.Event) (code : Pipeline α)
    (only : code.Only (fun request => ∀ line, request ≠ .readLine line) (· ≠ timeLimit))
    (clock : Clock Pipelines.Event) (quiet : clock.justRead = none) :
    Leads (hostWorld schedule status) code clock fun _ clock' _ =>
      AsideSince timeLimit clock clock' := by
  have started : AsideSince timeLimit clock clock :=
    ⟨[], (List.append_nil _).symm, List.forall_mem_nil _⟩
  refine leads_mono _ _ _ _ (fun _ _ _ kept => kept.2)
    (leads_only _ _ (fun _ clock' => clock'.justRead = none ∧ AsideSince timeLimit clock clock')
      ?_ ?_ code only [] clock ⟨quiet, started⟩)
  · intro log clock' fate request noRead kept
    obtain ⟨still, relayed⟩ := hostAnswer_quiet schedule status clock' request noRead
    refine ⟨still.trans kept.1, ?_⟩
    obtain ⟨rest, grown, aside⟩ := kept.2
    exact ⟨rest, relayed.trans grown, aside⟩
  · intro log clock' fate event other kept
    exact ⟨rfl, asideSince_consume timeLimit event clock clock' other kept.1 kept.2⟩

theorem relayAndWait_leads (timeout : Nat) (message : String) :
    Leads (hostWorld schedule status) (relayAndWait db schedule.lines timeout message)
      schedule.begin fun _ clock result => clock.justRead = none ∧
        if schedule.exit ≤ schedule.outputEnd + timeout then
          result = .ok (some status) ∧
            clock.relayed = schedule.arrivals.map (relayedLine db)
        else
          result = .ok none ∧ clock.relayed =
            schedule.arrivals.map (relayedLine db) ++ [⟨none, .error none message⟩] := by
  have bounded : ∀ arrival ∈ schedule.arrivals, arrival.1 ≤ schedule.outputEnd :=
    fun arrival member => (schedule.early arrival member).2
  unfold relayAndWait
  apply leads_withExcept
  apply leads_bind
  refine leads_mono _ _ _ _ ?_ (relayLines_leads db schedule status schedule.arrivals
    schedule.begin rfl rfl schedule.started.1 bounded)
  rintro _ clock _ ⟨rfl, quiet, before, relayed⟩
  have ended : max clock.now schedule.outputEnd = schedule.outputEnd := max_eq_right before
  apply leads_bind
  apply leads_call
  intro fate
  have answered : (hostWorld schedule status).answer clock fate (.wait timeout) =
      hostAnswer schedule status clock (.wait timeout) := rfl
  rw [answered]
  by_cases inTime : schedule.exit ≤ schedule.outputEnd + timeout
  · simp only [hostAnswer, Clock.advance, ended, if_pos inTime]
    exact fun _ => ⟨quiet, rfl, relayed⟩
  · simp only [hostAnswer, Clock.advance, ended, if_neg inTime]
    apply leads_bind
    apply leads_call
    intro _
    apply leads_bind
    apply leads_event
    intro _
    refine fun _ => ⟨rfl, rfl, ?_⟩
    simp [hostWorld, hostAnswer, Clock.consume, quiet, relayed, Schedule.begin]

/-! ## Exactly when a pipeline keeps its limit -/

def InTime (limit : ℚ) : Prop := ∀ arrival ∈ schedule.arrivals, arrival.1 ≤ limit

theorem lines_inTime_iff (limit : ℚ) (rest : List (Relayed Pipelines.Event))
    (aside : ∀ entry ∈ rest, entry.arrival = none) :
    (∀ entry ∈ schedule.arrivals.map (relayedLine db) ++ rest,
        ∀ arrival ∈ entry.arrival, arrival ≤ limit) ↔ InTime schedule limit := by
  constructor
  · intro all arrival member
    exact all (relayedLine db arrival)
      (List.mem_append_left _ (List.mem_map_of_mem member)) arrival.1 rfl
  · intro inTime entry member arrival known
    rcases List.mem_append.mp member with line | other
    · obtain ⟨source, found, rfl⟩ := List.mem_map.mp line
      cases known
      exact inTime source found
    · rw [aside entry other] at known
      cases known

theorem keeps_reported_iff (limit : ℚ) (message : String) (clock : Clock Pipelines.Event)
    (relayed : clock.relayed =
      schedule.arrivals.map (relayedLine db) ++ [⟨none, .error none message⟩]) :
    KeepsLimit limit (.error none message) (fun event => event.isResult) schedule clock ↔
      InTime schedule limit := by
  unfold KeepsLimit
  rw [relayed, lines_inTime_iff db schedule limit _ (by simp)]
  refine and_iff_left fun _ => ⟨by simp, ?_⟩
  intro entry member unrelated
  rcases List.mem_append.mp member with line | other
  · obtain ⟨source, _, rfl⟩ := List.mem_map.mp line
    cases unrelated
  · rw [List.mem_singleton.mp other]
    simp [Pipelines.Event.isResult]

theorem keeps_ended_iff (limit : ℚ) (message : String) (clock : Clock Pipelines.Event)
    (rest : List (Relayed Pipelines.Event))
    (relayed : clock.relayed = schedule.arrivals.map (relayedLine db) ++ rest)
    (aside : ∀ entry ∈ rest, Aside (.error none message) entry) :
    KeepsLimit limit (.error none message) (fun event => event.isResult) schedule clock ↔
      InTime schedule limit ∧ schedule.exit ≤ limit := by
  have unreported : clock.relayed.getLast?.map Relayed.event ≠ some (.error none message) := by
    intro last
    obtain ⟨entry, final, reported⟩ := Option.map_eq_some_iff.mp last
    have member := List.mem_of_getLast? final
    rw [relayed] at member
    rcases List.mem_append.mp member with line | other
    · obtain ⟨source, _, rfl⟩ := List.mem_map.mp line
      have plain := PipelineReports.lineEvent_not_error db source.2
      rw [show lineEvent db source.2 = .error none message from reported] at plain
      cases plain
    · exact (aside entry other).2 reported
  unfold KeepsLimit
  rw [← not_lt]
  refine and_congr ?_ ⟨fun kept late => unreported (kept late).1, fun kept late => absurd late kept⟩
  rw [relayed]
  exact lines_inTime_iff db schedule limit rest fun entry member => (aside entry member).1

/-- The condition: no line comes late, and the process either ends within the
limit or outlives its output by more than the limit. -/
def Waited (limit : ℚ) : Prop :=
  InTime schedule limit ∧
    (schedule.exit ≤ limit ∨ schedule.outputEnd + limit < schedule.exit)

/-- Whatever a pipeline does after the wait, as long as it reads no further
line and does not report the time limit itself. -/
theorem pipeline_keeps_iff (timeout : Nat) (message : String) (next : Int → Pipeline Unit)
    (only : ∀ returncode, (next returncode).Only (fun request => ∀ line, request ≠ .readLine line)
      (· ≠ .error none message)) :
    Leads (hostWorld schedule status)
      (do
        match ← relayAndWait db schedule.lines timeout message with
        | none => pure ()
        | some returncode => next returncode)
      schedule.begin fun _ clock _ =>
        KeepsLimit timeout (.error none message) (fun event => event.isResult) schedule clock ↔
          Waited schedule timeout := by
  apply leads_bind
  refine leads_mono _ _ _ _ ?_ (relayAndWait_leads db schedule status timeout message)
  rintro _ clock result ⟨quiet, outcome⟩
  by_cases inTime : schedule.exit ≤ schedule.outputEnd + timeout
  · rw [if_pos inTime] at outcome
    obtain ⟨rfl, relayed⟩ := outcome
    refine leads_mono _ _ _ _ ?_
      (leads_aside schedule status (.error none message) (next status) (only status) clock quiet)
    rintro _ clock' _ ⟨rest, grown, aside⟩
    rw [relayed] at grown
    rw [keeps_ended_iff db schedule timeout message clock' rest grown aside]
    refine and_congr_right fun _ => ⟨Or.inl, ?_⟩
    rintro (kept | outlives)
    · exact kept
    · exact absurd outlives (not_lt.mpr inTime)
  · rw [if_neg inTime] at outcome
    obtain ⟨rfl, relayed⟩ := outcome
    intro _
    refine (keeps_reported_iff db schedule timeout message _ relayed).trans ?_
    exact (and_iff_left (Or.inr (not_le.mp inTime))).symm

theorem benchmark_keeps_iff (kernel volume : String) (known : buildVolumes kernel = some volume) :
    KeepsLimit 120 (.error none "pipeline exceeded time limit") (fun event => event.isResult)
        schedule (runBenchmark db kernel schedule status) ↔ Waited schedule 120 := by
  have runs : Leads (hostWorld schedule status) (runBenchmarkPipeline db kernel schedule.lines)
      schedule.begin fun _ clock _ =>
        KeepsLimit 120 (.error none "pipeline exceeded time limit") (fun event => event.isResult)
          schedule clock ↔ Waited schedule 120 := by
    unfold runBenchmarkPipeline
    rw [known]
    apply leads_bind
    apply leads_call
    intro _
    refine pipeline_keeps_iff db schedule status 120 "pipeline exceeded time limit" _ ?_
    intro _
    apply only_bind
    · simp
    intro result
    simp
  exact runs []

theorem compareAndReport_aside (output message : String) :
    (compareAndReport db output).Only (fun request => ∀ line, request ≠ .readLine line)
      (· ≠ .error none message) := by
  refine only_mono _ _ ?_ ?_ _ (PipelineReports.compareAndReport_only db output)
  · rintro _ rfl line
    exact nofun
  · rintro _ quiet rfl
    exact absurd quiet nofun

theorem failureEvent_ne (output message : String) (returncode : Int) :
    failureEvent output returncode ≠ .error none message := by
  unfold failureEvent
  split
  · simp
  split <;> simp

theorem patch_keeps_iff (patchText : String) (nonblank : strip patchText ≠ "")
    (small : patchText.utf8ByteSize ≤ maxPatchBytes) :
    KeepsLimit pipelineTimeoutSec
        (.error none ("pipeline exceeded " ++ toString pipelineTimeoutSec ++ "s time limit"))
        (fun event => event.isResult) schedule (runPatch db patchText schedule status) ↔
      Waited schedule pipelineTimeoutSec := by
  have runs : Leads (hostWorld schedule status) (runPatchPipeline db patchText schedule.lines)
      schedule.begin fun _ clock _ =>
        KeepsLimit pipelineTimeoutSec
            (.error none ("pipeline exceeded " ++ toString pipelineTimeoutSec ++ "s time limit"))
            (fun event => event.isResult) schedule clock ↔
          Waited schedule pipelineTimeoutSec := by
    unfold runPatchPipeline
    rw [if_neg nonblank, if_neg (by omega)]
    apply leads_bind
    apply leads_call
    intro _
    apply leads_bind
    apply leads_call
    intro _
    apply leads_withFinally
    apply leads_bind
    apply leads_call
    intro _
    apply leads_bind
    apply leads_call
    intro _
    refine leads_mono _ _ _ _ ?_ (pipeline_keeps_iff db schedule status pipelineTimeoutSec
      ("pipeline exceeded " ++ toString pipelineTimeoutSec ++ "s time limit") _ ?_)
    · intro _ clock result kept
      apply leads_call
      intro _
      exact kept
    · intro returncode
      split
      · simp [failureEvent_ne]
      · exact compareAndReport_aside db _ _
  exact runs []

end Pipelines

/-- `stream_command` keeps its limit on every schedule, the pipelines exactly on
those on which the wait after the read loop comes to the right result. -/
theorem time_limits_kept_iff (shlexSplit : String → Except String (List String))
    (commandLine : String) (argv : List String) (parsed : shlexSplit commandLine = .ok argv)
    (nonempty : argv ≠ []) (db : CharDb) (kernel volume : String)
    (known : buildVolumes kernel = some volume) (patchText : String)
    (nonblank : strip patchText ≠ "") (small : patchText.utf8ByteSize ≤ maxPatchBytes)
    (schedule : Schedule) (status : Int) :
    KeepsLimit commandTimeoutSec (killedLine commandTimeoutSec)
        (fun line => ∃ code, line = exitLine code) schedule
        (runCommand shlexSplit commandLine schedule status) ∧
      (KeepsLimit 120 (.error none "pipeline exceeded time limit") (fun event => event.isResult)
          schedule (runBenchmark db kernel schedule status) ↔ Waited schedule 120) ∧
      (KeepsLimit pipelineTimeoutSec
          (.error none ("pipeline exceeded " ++ toString pipelineTimeoutSec ++ "s time limit"))
          (fun event => event.isResult) schedule (runPatch db patchText schedule status) ↔
        Waited schedule pipelineTimeoutSec) :=
  ⟨command_keeps schedule status shlexSplit commandLine argv parsed nonempty,
    benchmark_keeps_iff db schedule status kernel volume known,
    patch_keeps_iff db schedule status patchText nonblank small⟩

/-- A process that prints once a second until it exits after `seconds`. -/
def chatter (seconds : Nat) : Schedule where
  arrivals := (List.range (seconds + 1)).map fun second : Nat => ((second : ℚ), "tick\n")
  outputEnd := seconds
  exit := seconds
  early := by
    intro arrival member
    obtain ⟨second, inside, rfl⟩ := List.mem_map.mp member
    have bounded : second ≤ seconds := Nat.lt_succ_iff.mp (List.mem_range.mp inside)
    exact ⟨Nat.cast_nonneg second, Nat.cast_le.mpr bounded⟩
  ordered := by
    refine List.pairwise_map.mpr (List.Pairwise.imp ?_ List.pairwise_lt_range)
    intro first second less
    exact Nat.cast_le.mpr less.le
  started := ⟨Nat.cast_nonneg seconds, Nat.cast_nonneg seconds⟩

theorem time_limits_kept_short_chatter :
    KeepsLimit commandTimeoutSec (killedLine commandTimeoutSec)
        (fun line => ∃ code, line = exitLine code) (chatter 60)
        (runCommand (fun text => .ok [text]) "ps" (chatter 60) 0) ∧
      (KeepsLimit 120 (.error none "pipeline exceeded time limit") (fun event => event.isResult)
          (chatter 60) (runBenchmark .ascii "baseline" (chatter 60) 0) ↔
        Waited (chatter 60) 120) ∧
      (KeepsLimit pipelineTimeoutSec
          (.error none ("pipeline exceeded " ++ toString pipelineTimeoutSec ++ "s time limit"))
          (fun event => event.isResult) (chatter 60)
          (runPatch .ascii "diff" (chatter 60) 0) ↔
        Waited (chatter 60) pipelineTimeoutSec) :=
  time_limits_kept_iff (fun text => .ok [text]) "ps" ["ps"] rfl (by simp) .ascii "baseline" _ rfl
    "diff" (by decide) (by decide) (chatter 60) 0

/-- Endless chatter is relayed to its end, and reported as a result. -/
theorem chatter_outlasts_limits :
    ¬ KeepsLimit 120 (.error none "pipeline exceeded time limit") (fun event => event.isResult)
        (chatter 1000) (runBenchmark .ascii "baseline" (chatter 1000) 0) ∧
      ¬ KeepsLimit pipelineTimeoutSec
        (.error none ("pipeline exceeded " ++ toString pipelineTimeoutSec ++ "s time limit"))
        (fun event => event.isResult) (chatter 1000)
        (runPatch .ascii "diff" (chatter 1000) 0) := by
  have late : ∀ limit : ℚ, 0 ≤ limit → limit < 1000 → ¬ Waited (chatter 1000) limit := by
    intro limit positive below waited
    have exit : (chatter 1000).exit = 1000 := by norm_num [chatter]
    have outputEnd : (chatter 1000).outputEnd = 1000 := by norm_num [chatter]
    rcases waited.2 with kept | outlives
    · rw [exit] at kept
      exact absurd kept (not_le.mpr below)
    · rw [exit, outputEnd] at outlives
      exact absurd positive (not_le.mpr (by linarith))
  constructor
  · rw [benchmark_keeps_iff .ascii (chatter 1000) 0 "baseline" _ rfl]
    exact late 120 (by norm_num) (by norm_num)
  · rw [patch_keeps_iff .ascii (chatter 1000) 0 "diff" (by decide) (by decide)]
    exact late pipelineTimeoutSec (by norm_num [pipelineTimeoutSec])
      (by norm_num [pipelineTimeoutSec])

end KernelSprint.TimeLimits

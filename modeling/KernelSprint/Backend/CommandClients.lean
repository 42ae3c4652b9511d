import KernelSprint.Backend.CommandAgent
import KernelSprint.Backend.PipelineClients

/-!
# The docker client of a lab command

`stream_command` in a world where any statement may raise, the consumer may
close the generator and the timer may kill while it is armed.
-/

set_option autoImplicit false

namespace KernelSprint.Subprocesses

open Generators Generators.Gen PyText Strikes CommandAgent

/-- `fires`: the timer, if armed, fires at this point.  `there`: the output
has not ended yet. -/
structure Tick where
  luck : Luck PyExn
  fires : Bool
  there : Bool
  deriving DecidableEq

structure Lab where
  client : Client
  armed : Bool
  timedOut : Bool

/-- The timer kills. -/
def Lab.ticked (lab : Lab) (tick : Tick) : Lab :=
  if lab.armed ∧ tick.fires then { lab with client := .gone, timedOut := true } else lab

def Lab.serve (lab : Lab) (luck : Luck PyExn) : Call → Lab
  | .popen _ => { lab with client := lab.client.started luck }
  | .startTimer _ =>
      match luck with
      | .before _ => lab
      | _ => { lab with armed := true }
  | .wait => { lab with client := lab.client.waited luck }
  | .cancelTimer =>
      match luck with
      | .before _ => lab
      | _ => { lab with armed := false }
  | _ => lab

def Lab.reply (lab : Lab) (tick : Tick) (status : Int) : (request : Call) → request.Answer
  | .readLine _ => tick.there
  | .timedOut => lab.timedOut
  | .returncode => status
  | .popen _ => ()
  | .startTimer _ => ()
  | .readEnd => ()
  | .wait => ()
  | .cancelTimer => ()

def commandWorld (status : Int) : World Lab Tick Call Call.Answer String PyExn where
  usual := ⟨.fine, false, true⟩
  answer lab tick request :=
    ((lab.serve tick.luck request).ticked tick, tick.luck.guard (lab.reply tick status request))
  consume lab tick _ := (lab.ticked tick, tick.luck.raised)

abbrev CommandHappening := Happening Tick Call String

/-- Whether the client runs after what happened, if the timer has not fired. -/
def commandRuns (running : Bool) : CommandHappening → Bool
  | .called (.popen _) ⟨.fine, _, _⟩ => true
  | .called .wait ⟨.fine, _, _⟩ => false
  | .called .wait ⟨.after _, _, _⟩ => false
  | _ => running

/-- Whether the timer is armed after what happened. -/
def timerArmed (armed : Bool) : CommandHappening → Bool
  | .called (.startTimer _) ⟨.fine, _, _⟩ => true
  | .called (.startTimer _) ⟨.after _, _, _⟩ => true
  | .called .cancelTimer ⟨.fine, _, _⟩ => false
  | .called .cancelTimer ⟨.after _, _, _⟩ => false
  | _ => armed

def Raises (happening : CommandHappening) : Prop := happening.fate.luck.raised.isSome

def TimerFires (log : List CommandHappening) : Prop :=
  Struck timerArmed (fun happening => happening.fate.fires = true) log

/-- What the log tells of the lab. -/
structure Agrees (log : List CommandHappening) (lab : Lab) : Prop where
  armed : lab.armed = runsAfter timerArmed log
  client : lab.client = .running ↔ runsAfter commandRuns log = true ∧ ¬ TimerFires log

variable (status : Int)

theorem agrees_ticked (log : List CommandHappening) (happening : CommandHappening)
    (lab : Lab) (armed : lab.armed = timerArmed (runsAfter timerArmed log) happening)
    (client : lab.client = .running ↔
      commandRuns (runsAfter commandRuns log) happening = true ∧ ¬ TimerFires log) :
    Agrees (log ++ [happening]) (lab.ticked happening.fate) := by
  have fires : TimerFires (log ++ [happening]) ↔
      TimerFires log ∨ (lab.armed = true ∧ happening.fate.fires = true) := by
    rw [armed]
    exact struck_concat _ _ log happening
  by_cases now : lab.armed = true ∧ happening.fate.fires = true
  · simp only [Lab.ticked, if_pos now]
    constructor
    · rw [runsAfter_concat]
      exact armed
    · simp [fires, now]
  · simp only [Lab.ticked, if_neg now]
    constructor
    · rw [runsAfter_concat]
      exact armed
    · rw [runsAfter_concat, client, fires]
      simp only [now, or_false]

def NoStart (request : Call) : Prop := ∀ argv, request ≠ .popen argv

theorem agrees_leads {α : Type} (code : Agent α) (only : code.Only NoStart fun _ => True)
    (before : List CommandHappening) (lab : Lab) (agrees : Agrees before lab) :
    Leads (commandWorld status) code lab fun log lab' _ => Agrees (before ++ log) lab' := by
  refine leads_only _ _ Agrees ?_ ?_ code only before lab agrees
  · intro log lab tick request noStart agrees
    apply agrees_ticked
    · cases request with
      | popen argv => exact absurd rfl (noStart argv)
      | startTimer timeout =>
          rcases tick with ⟨luck, fires, there⟩
          cases luck with
          | before exn => exact agrees.armed
          | _ => rfl
      | cancelTimer =>
          rcases tick with ⟨luck, fires, there⟩
          cases luck with
          | before exn => exact agrees.armed
          | _ => rfl
      | _ => exact agrees.armed
    · cases request with
      | popen argv => exact absurd rfl (noStart argv)
      | wait =>
          rcases tick with ⟨luck, fires, there⟩
          cases luck with
          | before exn => exact agrees.client
          | _ => simp [Lab.serve, Client.waited, commandRuns]
      | startTimer timeout =>
          rcases tick with ⟨luck, fires, there⟩
          cases luck <;> exact agrees.client
      | cancelTimer =>
          rcases tick with ⟨luck, fires, there⟩
          cases luck <;> exact agrees.client
      | _ => exact agrees.client
  · intro log lab tick event _ agrees
    exact agrees_ticked log (.yielded event tick) lab agrees.armed agrees.client

/-- Once the client is gone it stays so. -/
theorem command_idle_leads {α : Type} (code : Agent α)
    (only : code.Only NoStart fun _ => True) (before : List CommandHappening) (lab : Lab)
    (idle : Idle commandRuns Raises before) :
    Leads (commandWorld status) code lab fun log _ _ =>
      Idle commandRuns Raises (before ++ log) := by
  refine leads_only _ _ (fun log _ => Idle commandRuns Raises log) ?_ ?_ code only
    before lab idle
  · intro log lab tick request noStart idle
    apply idle_concat _ idle
    cases request with
    | popen argv => exact absurd rfl (noStart argv)
    | wait =>
        rcases tick with ⟨luck, fires, there⟩
        cases luck <;> rfl
    | _ => rfl
  · intro log lab tick event _ idle
    exact idle_concat _ idle rfl

/-- While the client runs, whatever raises abandons it. -/
theorem live_or_lost (log : List CommandHappening) (happening : CommandHappening)
    (live : Live commandRuns Raises log) (still : commandRuns true happening = true) :
    if happening.fate.luck.raised = none then Live commandRuns Raises (log ++ [happening])
    else Lost commandRuns Raises (log ++ [happening]) := by
  by_cases quiet : happening.fate.luck.raised = none
  · rw [if_pos quiet]
    exact live_concat happening live still (by simp [Raises, quiet])
  · rw [if_neg quiet]
    exact lost_of_live happening live still (Option.isSome_iff_ne_none.mpr quiet)

/-- How reading the output can end. -/
def Relayed (log : List CommandHappening) (result : Except PyExn Unit) : Prop :=
  match result with
  | .ok _ => Live commandRuns Raises log
  | .error _ => Lost commandRuns Raises log

theorem relay_relayed (lines : List String) (before : List CommandHappening) (lab : Lab)
    (live : Live commandRuns Raises before) :
    Leads (commandWorld status) (relay lines) lab fun log _ => Relayed (before ++ log) := by
  induction lines generalizing before lab with
  | nil =>
      apply leads_call
      intro tick
      have ended := live_or_lost before (.called .readEnd tick) live rfl
      rcases tick with ⟨luck, fires, there⟩
      cases luck <;> exact ended
  | cons line rest ih =>
      unfold relay
      apply leads_bind
      apply leads_call
      intro tick
      have read := live_or_lost before (.called (.readLine line) tick) live rfl
      rcases tick with ⟨luck, fires, there⟩
      cases luck with
      | before exn => exact read
      | after exn => exact read
      | fine =>
          cases there with
          | false => exact fun _ => read
          | true =>
              apply leads_bind
              apply leads_event
              intro tick
              have handed := live_or_lost _ (.yielded line tick) read rfl
              rw [List.append_assoc] at handed
              rcases tick with ⟨luck, fires', there⟩
              cases luck with
              | before exn => exact handed
              | after exn => exact handed
              | fine =>
                  refine leads_mono _ _ _ _ ?_ (ih _ _ handed)
                  intro log lab' result relayed
                  simp only [List.append_assoc] at relayed
                  exact relayed

/-- How the part under `finally` can end, and the cleanup after it. -/
def Waited (log : List CommandHappening) (result : Except PyExn Unit) : Prop :=
  match result with
  | .ok _ => Idle commandRuns Raises log
  | .error _ => Settled commandRuns Raises log

theorem attending_waited (lines : List String) (before : List CommandHappening) (lab : Lab)
    (live : Live commandRuns Raises before) :
    Leads (commandWorld status) (do relay lines; ask .wait : Agent Unit) lab
      fun log _ => Waited (before ++ log) := by
  apply leads_bind
  refine leads_mono _ _ _ _ ?_ (relay_relayed status lines before lab live)
  intro log lab' result relayed
  cases result with
  | error exn => exact Or.inr relayed
  | ok _ =>
      have read : Live commandRuns Raises (before ++ log) := relayed
      apply leads_call
      intro tick
      rw [← List.append_assoc]
      rcases tick with ⟨luck, fires, there⟩
      cases luck with
      | before exn =>
          exact Or.inr (live_or_lost _ (.called .wait ⟨.before exn, fires, there⟩) read rfl)
      | after exn =>
          exact Or.inl (idle_of_live (.called .wait ⟨.after exn, fires, there⟩) read rfl)
      | fine => exact idle_of_live (.called .wait ⟨.fine, fires, there⟩) read rfl

theorem attended_waited (lines : List String) (before : List CommandHappening) (lab : Lab)
    (live : Live commandRuns Raises before) :
    Leads (commandWorld status)
      (withFinally (do relay lines; ask .wait) (ask .cancelTimer) : Agent Unit) lab
      fun log _ => Waited (before ++ log) := by
  apply leads_withFinally
  refine leads_mono _ _ _ _ ?_ (attending_waited status lines before lab live)
  intro log lab' result waited
  apply leads_call
  intro tick
  rw [← List.append_assoc]
  have still : ∀ running, commandRuns running (.called .cancelTimer tick) = running :=
    fun _ => rfl
  cases result with
  | error exn =>
      have ended := settled_concat (.called .cancelTimer tick) waited still
      rcases tick with ⟨luck, fires, there⟩
      cases luck <;> exact ended
  | ok _ =>
      have ended := idle_concat (.called .cancelTimer tick) waited (still false)
      rcases tick with ⟨luck, fires, there⟩
      cases luck with
      | fine => exact ended
      | before exn => exact Or.inl ended
      | after exn => exact Or.inl ended

theorem report_noStart (timeout : Nat) : (report timeout).Only NoStart fun _ => True := by
  unfold report
  apply only_bind
  · simp [CommandAgent.ask, NoStart]
  intro timedOut
  cases timedOut with
  | true => simp
  | false =>
      apply only_bind
      · simp [CommandAgent.ask, NoStart]
      · simp

theorem relay_noStart (lines : List String) : (relay lines).Only NoStart fun _ => True := by
  induction lines with
  | nil => simp [relay, CommandAgent.ask, NoStart]
  | cons line rest ih =>
      apply only_bind
      · simp [CommandAgent.ask, NoStart]
      intro there
      cases there with
      | false => simp
      | true =>
          apply only_bind
          · simp
          · exact fun _ => ih

theorem supervise_noStart (timeout : Nat) (lines : List String) :
    (supervise timeout lines).Only NoStart fun _ => True := by
  unfold supervise
  apply only_bind
  · simp [CommandAgent.ask, NoStart]
  intro _
  apply only_bind
  · apply only_withFinally
    · apply only_bind
      · exact relay_noStart lines
      · simp [CommandAgent.ask, NoStart]
    · simp [CommandAgent.ask, NoStart]
  · exact fun _ => report_noStart timeout

theorem supervise_settled (timeout : Nat) (lines : List String)
    (before : List CommandHappening) (lab : Lab) (live : Live commandRuns Raises before) :
    Leads (commandWorld status) (supervise timeout lines) lab fun log _ _ =>
      Settled commandRuns Raises (before ++ log) := by
  unfold supervise
  apply leads_bind
  apply leads_call
  intro tick
  have started := live_or_lost before (.called (.startTimer timeout) tick) live rfl
  rcases tick with ⟨luck, fires, there⟩
  cases luck with
  | before exn => exact Or.inr started
  | after exn => exact Or.inr started
  | fine =>
      apply leads_bind
      refine leads_mono _ _ _ _ ?_ (attended_waited status lines _ _ started)
      intro log lab' result waited
      simp only [List.append_assoc] at waited
      cases result with
      | error exn => exact waited
      | ok _ =>
          refine leads_mono _ _ _ _ ?_ (command_idle_leads status (report timeout)
            (report_noStart timeout) _ lab' waited)
          intro log' _ _ idle
          simp only [List.append_assoc] at idle
          exact Or.inl idle

theorem agrees_nil : Agrees [] ⟨.unborn, false, false⟩ := by
  constructor
  · rfl
  · simp [runsAfter]

theorem running_iff (log : List CommandHappening) (lab : Lab) (agrees : Agrees log lab)
    (settled : Settled commandRuns Raises log) :
    lab.client = .running ↔ Struck commandRuns Raises log ∧ ¬ TimerFires log := by
  rw [agrees.client, runs_iff_of_settled settled]

def runCommand (shlexSplit : String → Except String (List String)) (commandLine : String)
    (timeout : Nat) (status : Int) (lines : List String) (fates : List Tick) :
    Course Lab Tick Call String PyExn Unit :=
  (streamCommand shlexSplit commandLine timeout lines).course (commandWorld status)
    ⟨.unborn, false, false⟩ fates

theorem command_leads (shlexSplit : String → Except String (List String))
    (commandLine : String) (timeout : Nat) (lines : List String) :
    Leads (commandWorld status) (streamCommand shlexSplit commandLine timeout lines)
      ⟨.unborn, false, false⟩ fun log lab _ =>
        lab.client = .running ↔ Struck commandRuns Raises log ∧ ¬ TimerFires log := by
  have nothing : Idle commandRuns Raises [] := idle_nil _ _
  -- a code that starts nothing leaves the lab as it was
  have harmless : ∀ code : Agent Unit, code.Only NoStart (fun _ => True) →
      Leads (commandWorld status) code ⟨.unborn, false, false⟩ fun log lab _ =>
        lab.client = .running ↔ Struck commandRuns Raises log ∧ ¬ TimerFires log := by
    intro code only fates
    exact running_iff _ _ (agrees_leads status code only [] _ agrees_nil fates)
      (Or.inl (command_idle_leads status code only [] _ nothing fates))
  unfold streamCommand
  cases shlexSplit commandLine with
  | error message => exact harmless _ (by simp)
  | ok argv =>
      cases argv with
      | nil => exact harmless _ (by simp)
      | cons first rest =>
          apply leads_bind
          apply leads_call
          intro tick
          have popen : Agrees [.called (.popen (["docker", "exec", container] ++ first :: rest)) tick]
              (Lab.ticked ⟨Client.started .unborn tick.luck, false, false⟩ tick) := by
            apply agrees_ticked [] (.called (.popen _) tick) _ rfl
            rcases tick with ⟨luck, fires, there⟩
            cases luck <;> simp [Client.started, commandRuns, runsAfter, TimerFires, Struck]
          rcases tick with ⟨luck, fires, there⟩
          cases luck with
          | before exn => exact running_iff _ _ popen (Or.inl (idle_concat _ nothing rfl))
          | after exn => exact running_iff _ _ popen (Or.inl (idle_concat _ nothing rfl))
          | fine =>
              have live : Live commandRuns Raises _ := live_of_idle (.called
                (.popen (["docker", "exec", container] ++ first :: rest)) ⟨.fine, fires, there⟩)
                nothing rfl (by simp [Raises, Happening.fate, Luck.raised])
              intro fates
              exact running_iff _ _
                (agrees_leads status _ (supervise_noStart timeout lines) _ _ popen fates)
                (supervise_settled status timeout lines _ _ live fates)

end KernelSprint.Subprocesses

import KernelSprint.Backend.PipelineReports
import KernelSprint.Lib.Course
import KernelSprint.Lib.Strikes

/-!
# The docker clients of the pipelines

A docker client runs until somebody has waited for it or killed it; a kill
always reaches it, and a `Popen` that raises has started nothing.  The two
pipelines run in a world where any other statement may raise and the consumer
may close the generator.
-/

set_option autoImplicit false

namespace KernelSprint.Subprocesses

open Generators Generators.Gen PyText BenchmarkOutput Strikes

inductive Client where
  | unborn
  | running
  | gone
  deriving DecidableEq, Repr

/-- `Popen` under the given luck. -/
def Client.started (client : Client) (luck : Luck PyExn) : Client :=
  match luck with
  | .fine => .running
  | _ => client

/-- `wait` under the given luck: it may raise before or after the client has
exited. -/
def Client.waited (client : Client) (luck : Luck PyExn) : Client :=
  match luck with
  | .before _ => client
  | _ => .gone

open Pipelines

def pipelineWorld (status : Int) :
    World Client (Luck PyExn) HostCall HostCall.Answer Event PyExn where
  usual := .fine
  answer client luck
    | .makeScratchRoot => (client, luck.guard ())
    | .makeTmpdir => (client, luck.guard ())
    | .writePatch _ => (client, luck.guard ())
    | .popen _ => (client.started luck, luck.guard ())
    | .readLine _ => (client, luck.guard ())
    | .wait _ => (client.waited luck, luck.guard status)
    | .kill => (.gone, .ok ())
    | .readResults => (client, luck.guard committedBaseline)
    | .removeTmpdir => (client, luck.guard ())
  consume client luck _ := (client, luck.raised)

abbrev PipelineHappening := Happening (Luck PyExn) HostCall Event

/-- Whether the client runs after what happened. -/
def pipelineRuns (running : Bool) : PipelineHappening → Bool
  | .called (.popen _) .fine => true
  | .called (.wait _) .fine => false
  | .called (.wait _) (.after _) => false
  | .called .kill _ => false
  | _ => running

/-- It raised something that `except subprocess.TimeoutExpired` lets through. -/
def Unhandled (happening : PipelineHappening) : Prop :=
  ∃ exn, happening.fate.raised = some exn ∧ exn ≠ .timeoutExpired

variable (status : Int)

/-- The log tells whether the client runs. -/
theorem pipeline_client {α : Type} (code : Pipeline α) :
    Leads (pipelineWorld status) code .unborn fun log client _ =>
      client = .running ↔ runsAfter pipelineRuns log = true := by
  refine leads_only (fun _ => True) (fun _ => True)
    (fun log client => client = Client.running ↔ runsAfter pipelineRuns log = true) ?_ ?_
    code (only_trivial code) [] Client.unborn (by simp [runsAfter])
  · intro log client luck request _ told
    rw [runsAfter_concat]
    cases request with
    | popen volume => cases luck <;> simp [pipelineWorld, pipelineRuns, Client.started, told]
    | wait timeout => cases luck <;> simp [pipelineWorld, pipelineRuns, Client.waited, told]
    | kill => simp [pipelineWorld, pipelineRuns]
    | makeScratchRoot => exact told
    | makeTmpdir => exact told
    | writePatch text => exact told
    | readLine line => exact told
    | readResults => exact told
    | removeTmpdir => exact told
  · intro log client luck event _ told
    rw [runsAfter_concat]
    exact told

def NoPopen (request : HostCall) : Prop := ∀ volume, request ≠ .popen volume

/-- Once the client is gone it stays so: nothing but `Popen` starts one. -/
theorem idle_leads {α : Type} (code : Pipeline α) (only : code.Only NoPopen fun _ => True)
    (before : List PipelineHappening) (client : Client)
    (idle : Idle pipelineRuns Unhandled before) :
    Leads (pipelineWorld status) code client fun log _ _ =>
      Idle pipelineRuns Unhandled (before ++ log) := by
  refine leads_only _ _ (fun log _ => Idle pipelineRuns Unhandled log) ?_ ?_ code only
    before client idle
  · intro log client luck request noPopen idle
    apply idle_concat _ idle
    cases request with
    | popen volume => exact absurd rfl (noPopen volume)
    | wait timeout => cases luck <;> rfl
    | _ => rfl
  · intro log client luck event _ idle
    exact idle_concat _ idle rfl

/-- How a stretch of code with a running client can end. -/
def Handled (log : List PipelineHappening) (result : Except PyExn Unit) : Prop :=
  match result with
  | .ok _ => Live pipelineRuns Unhandled log
  | .error exn =>
      if exn = .timeoutExpired then Live pipelineRuns Unhandled log
      else Lost pipelineRuns Unhandled log

theorem handled_of_raised (log : List PipelineHappening) (happening : PipelineHappening)
    (exn : PyExn) (live : Live pipelineRuns Unhandled log)
    (still : pipelineRuns true happening = true)
    (raised : happening.fate.raised = some exn) :
    Handled (log ++ [happening]) (.error exn) := by
  by_cases timeout : exn = .timeoutExpired
  · simp only [Handled, if_pos timeout]
    apply live_concat happening live still
    intro unhandled
    obtain ⟨exn', raised', other⟩ := unhandled
    cases raised.symm.trans raised'
    exact other timeout
  · simp only [Handled, if_neg timeout]
    exact lost_of_live happening live still ⟨exn, raised, timeout⟩

theorem not_unhandled_of_fine (happening : PipelineHappening)
    (fine : happening.fate = .fine) : ¬ Unhandled happening := by
  intro unhandled
  obtain ⟨exn, raised, _⟩ := unhandled
  rw [fine] at raised
  cases raised

theorem relay_handled (db : CharDb) (lines : List String) (before : List PipelineHappening)
    (client : Client) (live : Live pipelineRuns Unhandled before) :
    Leads (pipelineWorld status) (relayLines db lines) client fun log _ =>
      Handled (before ++ log) := by
  unfold relayLines
  refine leads_forEach _ (fun log _ => Handled log)
    (fun log _ => Live pipelineRuns Unhandled log) ?_ (fun _ _ live => live) lines before
    client live
  intro line log client live
  apply leads_bind
  apply leads_call
  intro luck
  cases luck with
  | before exn => exact handled_of_raised log _ exn live rfl rfl
  | after exn => exact handled_of_raised log _ exn live rfl rfl
  | fine =>
      have read := live_concat (.called (.readLine line) .fine) live rfl
        (not_unhandled_of_fine _ rfl)
      apply leads_event
      intro luck
      rw [← List.append_assoc]
      cases luck with
      | before exn => exact handled_of_raised _ _ exn read rfl rfl
      | after exn => exact handled_of_raised _ _ exn read rfl rfl
      | fine => exact live_concat _ read rfl (not_unhandled_of_fine _ rfl)

/-- The handler kills, whether the client still runs or not. -/
theorem handler_idle (message : String) (before : List PipelineHappening) (client : Client)
    (state : Idle pipelineRuns Unhandled before ∨ Live pipelineRuns Unhandled before) :
    Leads (pipelineWorld status)
      (do ask .kill; yieldEvent (.error none message); pure none : Pipeline (Option Int))
      client fun log _ _ => Idle pipelineRuns Unhandled (before ++ log) := by
  apply leads_bind
  apply leads_call
  intro luck
  have killed : Idle pipelineRuns Unhandled (before ++ [.called .kill luck]) := by
    rcases state with idle | live
    · exact idle_concat _ idle rfl
    · exact idle_of_live _ live rfl
  have after := idle_leads status
    (do yieldEvent (.error none message); pure none : Pipeline (Option Int))
    ⟨trivial, fun thrown => by cases thrown <;> trivial⟩ _ Client.gone killed
  simp only [List.append_assoc] at after
  exact after

/-- How the reading and the waiting can end. -/
def Attended {α : Type} (log : List PipelineHappening) (result : Except PyExn α) : Prop :=
  match result with
  | .ok _ => Idle pipelineRuns Unhandled log
  | .error _ => Settled pipelineRuns Unhandled log

theorem attended_of_idle {α : Type} (log : List PipelineHappening) (result : Except PyExn α)
    (idle : Idle pipelineRuns Unhandled log) : Attended log result := by
  cases result with
  | ok value => exact idle
  | error exn => exact Or.inl idle

/-- How the part under `except` can end. -/
def Guarded {α : Type} (log : List PipelineHappening) (result : Except PyExn α) : Prop :=
  match result with
  | .ok _ => Idle pipelineRuns Unhandled log
  | .error exn =>
      if exn = .timeoutExpired then
        Idle pipelineRuns Unhandled log ∨ Live pipelineRuns Unhandled log
      else Settled pipelineRuns Unhandled log

theorem guarded_of_idle {α : Type} (log : List PipelineHappening) (result : Except PyExn α)
    (idle : Idle pipelineRuns Unhandled log) : Guarded log result := by
  cases result with
  | ok value => exact idle
  | error exn =>
      by_cases timeout : exn = .timeoutExpired
      · simp only [Guarded, if_pos timeout]
        exact Or.inl idle
      · simp only [Guarded, if_neg timeout]
        exact Or.inl idle

theorem guarded_of_handled {α : Type} (log : List PipelineHappening) (exn : PyExn)
    (handled : Handled log (.error exn)) : Guarded log (.error exn : Except PyExn α) := by
  by_cases timeout : exn = .timeoutExpired
  · simp only [Handled, if_pos timeout] at handled
    simp only [Guarded, if_pos timeout]
    exact Or.inr handled
  · simp only [Handled, if_neg timeout] at handled
    simp only [Guarded, if_neg timeout]
    exact Or.inr handled

theorem reading_guarded (db : CharDb) (lines : List String) (timeout : Nat)
    (before : List PipelineHappening) (client : Client)
    (live : Live pipelineRuns Unhandled before) :
    Leads (pipelineWorld status)
      (do relayLines db lines; let returncode ← ask (.wait timeout); pure (some returncode) :
        Pipeline (Option Int))
      client fun log _ => Guarded (before ++ log) := by
  apply leads_bind
  refine leads_mono _ _ _ _ ?_ (relay_handled status db lines before client live)
  intro log client' result handled
  cases result with
  | error exn => exact guarded_of_handled _ exn handled
  | ok _ =>
      have read : Live pipelineRuns Unhandled (before ++ log) := handled
      apply leads_bind
      apply leads_call
      intro luck
      cases luck with
      | before exn =>
          have ended := guarded_of_handled (α := Option Int) _ exn
            (handled_of_raised _ (.called (.wait timeout) (.before exn)) exn read rfl rfl)
          rwa [List.append_assoc] at ended
      | after exn =>
          have ended := guarded_of_idle _ (.error exn : Except PyExn (Option Int))
            (idle_of_live (.called (.wait timeout) (.after exn)) read rfl)
          rwa [List.append_assoc] at ended
      | fine =>
          have ended := guarded_of_idle _ (.ok (some status) : Except PyExn (Option Int))
            (idle_of_live (.called (.wait timeout) .fine) read rfl)
          rw [List.append_assoc] at ended
          exact fun _ => ended

theorem relayAndWait_attended (db : CharDb) (lines : List String) (timeout : Nat)
    (message : String) (before : List PipelineHappening) (client : Client)
    (live : Live pipelineRuns Unhandled before) :
    Leads (pipelineWorld status) (relayAndWait db lines timeout message) client
      fun log _ => Attended (before ++ log) := by
  unfold relayAndWait
  apply leads_withExcept
  refine leads_mono _ _ _ _ ?_ (reading_guarded status db lines timeout before client live)
  intro log client' result guarded
  cases result with
  | ok returncode => exact guarded
  | error exn =>
      by_cases timedOut : exn = .timeoutExpired
      · simp only [Guarded, if_pos timedOut] at guarded
        subst timedOut
        refine leads_mono _ _ _ _ ?_ (handler_idle status message (before ++ log) client' guarded)
        intro log' _ result idle
        rw [← List.append_assoc]
        exact attended_of_idle _ result idle
      · simp only [Guarded, if_neg timedOut] at guarded
        have passed : Attended (before ++ (log ++ [])) (.error exn : Except PyExn (Option Int)) := by
          rw [List.append_nil]
          exact guarded
        cases exn with
        | timeoutExpired => exact absurd rfl timedOut
        | _ => exact fun _ => passed

/-- Everything from `Popen` on. -/
theorem launched_settled (db : CharDb) (volume : String) (lines : List String)
    (timeout : Nat) (message : String) (rest : Int → Pipeline Unit)
    (restOnly : ∀ returncode, (rest returncode).Only NoPopen fun _ => True)
    (before : List PipelineHappening) (client : Client)
    (idle : Idle pipelineRuns Unhandled before) :
    Leads (pipelineWorld status)
      (do
        ask (.popen volume)
        match ← relayAndWait db lines timeout message with
        | none => pure ()
        | some returncode => rest returncode : Pipeline Unit)
      client fun log _ _ => Settled pipelineRuns Unhandled (before ++ log) := by
  apply leads_bind
  apply leads_call
  intro luck
  cases luck with
  | before exn => exact Or.inl (idle_concat (.called (.popen volume) (.before exn)) idle rfl)
  | after exn => exact Or.inl (idle_concat (.called (.popen volume) (.after exn)) idle rfl)
  | fine =>
      have live := live_of_idle (.called (.popen volume) .fine) idle rfl
        (not_unhandled_of_fine _ rfl)
      apply leads_bind
      refine leads_mono _ _ _ _ ?_ (relayAndWait_attended status db lines timeout message
        _ (client.started .fine) live)
      intro log client' result attended
      simp only [List.append_assoc] at attended
      cases result with
      | error exn => exact attended
      | ok returned =>
          cases returned with
          | none =>
              have ended : Idle pipelineRuns Unhandled
                  (before ++ ([.called (.popen volume) .fine] ++ (log ++ []))) := by
                rw [List.append_nil]
                exact attended
              exact fun _ => Or.inl ended
          | some returncode =>
              refine leads_mono _ _ _ _ ?_ (idle_leads status (rest returncode)
                (restOnly returncode) _ client' attended)
              intro log' _ _ idle
              simp only [List.append_assoc] at idle
              exact Or.inl idle

theorem benchmark_settled (db : CharDb) (kernel : String) (lines : List String) :
    Leads (pipelineWorld status) (runBenchmarkPipeline db kernel lines) .unborn
      fun log _ _ => Settled pipelineRuns Unhandled log := by
  have nothing : Idle pipelineRuns Unhandled [] := idle_nil _ _
  unfold runBenchmarkPipeline
  cases buildVolumes kernel with
  | none =>
      refine leads_mono _ _ _ _ ?_ (idle_leads status _ (by simp) [] .unborn nothing)
      intro log _ _ idle
      exact Or.inl idle
  | some volume =>
      refine launched_settled status db volume lines 120 "pipeline exceeded time limit"
        (fun _ => do
          let result ← fromExcept (parseBenchmarkOutput db (String.join lines))
          yieldEvent (.benchmarkResult kernel result)) ?_ [] .unborn nothing
      intro _
      apply only_bind
      · simp
      · intro result
        simp

theorem compareAndReport_noPopen (db : CharDb) (output : String) :
    (compareAndReport db output).Only NoPopen fun _ => True := by
  refine only_mono _ _ ?_ (fun _ _ => trivial) _ (PipelineReports.compareAndReport_only db output)
  rintro _ rfl volume
  exact nofun

/-- The statements of `run_patch_pipeline` inside its `try … finally`. -/
theorem patchBody_settled (db : CharDb) (patchText : String) (lines : List String)
    (before : List PipelineHappening) (client : Client)
    (idle : Idle pipelineRuns Unhandled before) :
    Leads (pipelineWorld status)
      (do
        ask (.writePatch patchText)
        ask (.popen "kernel-sprint-src")
        match ← relayAndWait db lines pipelineTimeoutSec
            ("pipeline exceeded " ++ toString pipelineTimeoutSec ++ "s time limit") with
        | none => pure ()
        | some returncode =>
            if returncode ≠ 0 then
              yieldEvent (failureEvent (String.join lines) returncode)
            else compareAndReport db (String.join lines) : Pipeline Unit)
      client fun log _ _ => Settled pipelineRuns Unhandled (before ++ log) := by
  apply leads_bind
  apply leads_call
  intro luck
  have written : Idle pipelineRuns Unhandled
      (before ++ [.called (.writePatch patchText) luck]) := idle_concat _ idle rfl
  cases luck with
  | before exn => exact Or.inl written
  | after exn => exact Or.inl written
  | fine =>
      have launched := launched_settled status db "kernel-sprint-src" lines pipelineTimeoutSec
        ("pipeline exceeded " ++ toString pipelineTimeoutSec ++ "s time limit")
        (fun returncode =>
          if returncode ≠ 0 then yieldEvent (failureEvent (String.join lines) returncode)
          else compareAndReport db (String.join lines))
        (by
          intro returncode
          by_cases failed : returncode ≠ 0
          · simp only [if_pos failed]
            simp
          · simp only [if_neg failed]
            exact compareAndReport_noPopen db _)
        _ client written
      simp only [List.append_assoc] at launched
      exact launched

theorem patch_settled (db : CharDb) (patchText : String) (lines : List String) :
    Leads (pipelineWorld status) (runPatchPipeline db patchText lines) .unborn
      fun log _ _ => Settled pipelineRuns Unhandled log := by
  have nothing : Idle pipelineRuns Unhandled [] := idle_nil _ _
  have refused : ∀ event, Leads (pipelineWorld status) (yieldEvent event : Pipeline Unit)
      .unborn fun log _ _ => Settled pipelineRuns Unhandled log := by
    intro event
    refine leads_mono _ _ _ _ ?_ (idle_leads status _ (by simp) [] .unborn nothing)
    intro log _ _ idle
    exact Or.inl idle
  unfold runPatchPipeline
  by_cases blank : strip patchText = ""
  · rw [if_pos blank]
    exact refused _
  rw [if_neg blank]
  by_cases large : maxPatchBytes < patchText.utf8ByteSize
  · rw [if_pos large]
    exact refused _
  rw [if_neg large]
  apply leads_bind
  apply leads_call
  intro luck
  have rooted : Idle pipelineRuns Unhandled [.called .makeScratchRoot luck] :=
    idle_concat _ nothing rfl
  cases luck with
  | before exn => exact Or.inl rooted
  | after exn => exact Or.inl rooted
  | fine =>
      apply leads_bind
      apply leads_call
      intro luck
      have made : Idle pipelineRuns Unhandled
          ([.called .makeScratchRoot .fine] ++ [.called .makeTmpdir luck]) :=
        idle_concat _ rooted rfl
      cases luck with
      | before exn => exact Or.inl made
      | after exn => exact Or.inl made
      | fine =>
          apply leads_withFinally
          refine leads_mono _ _ _ _ ?_ (patchBody_settled status db patchText lines _ _ made)
          intro log client' _ settled
          apply leads_call
          intro luck
          have removed := settled_concat (.called .removeTmpdir luck) settled fun _ => rfl
          simp only [List.append_assoc] at removed
          exact removed

def runBenchmark (db : CharDb) (kernel : String) (lines : List String)
    (fates : List (Luck PyExn)) : Course Client (Luck PyExn) HostCall Event PyExn Unit :=
  (runBenchmarkPipeline db kernel lines).course (pipelineWorld status) .unborn fates

def runPatch (db : CharDb) (patchText : String) (lines : List String)
    (fates : List (Luck PyExn)) : Course Client (Luck PyExn) HostCall Event PyExn Unit :=
  (runPatchPipeline db patchText lines).course (pipelineWorld status) .unborn fates

end KernelSprint.Subprocesses

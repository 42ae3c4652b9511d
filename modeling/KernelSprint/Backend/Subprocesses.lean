import KernelSprint.Backend.CommandClients
import KernelSprint.Backend.StreamMetrics

/-!
# Whether an agent leaves its docker client running

The eBPF monitor under the same fates, and the four agents together.
-/

set_option autoImplicit false

namespace KernelSprint.Subprocesses

open Generators Generators.Gen PyText Strikes StreamMetrics

/-- `steps` counts the calls, so that each may be answered differently. -/
structure Host where
  client : Client
  steps : Nat

variable (stdout : Nat → List String → String) (stops : Nat → Bool)

def metricsWorld : World Host (Luck PyExn) Call Call.Answer Metrics PyExn where
  usual := .fine
  answer host luck
    | .popen => (⟨host.client.started luck, host.steps + 1⟩, luck.guard ())
    | .readLine _ => (⟨host.client, host.steps + 1⟩, luck.guard ())
    | .isSet => (⟨host.client, host.steps + 1⟩, luck.guard (stops host.steps))
    | .exec argv => (⟨host.client, host.steps + 1⟩, luck.guard (stdout host.steps argv))
    | .kill => (⟨.gone, host.steps + 1⟩, .ok ())
  consume host luck _ := (host, luck.raised)

variable (db : CharDb)

def runMetrics (lines : List String) (fates : List (Luck PyExn)) :
    Course Host (Luck PyExn) Call Metrics PyExn Unit :=
  (streamMetrics db lines).course (metricsWorld stdout stops) ⟨.unborn, 0⟩ fates

/-- The first reading of `/proc/stat`, between `Popen` and the `try`, raises:
the exec does, or what it prints does not decode. -/
def FirstReadingFails (log : List (Happening (Luck PyExn) Call Metrics)) : Prop :=
  ∃ luck later, log = .called .popen .fine :: .called (.exec catProcStat) luck :: later ∧
    (luck ≠ .fine ∨ ∃ exn, cpuStat db (stdout 1 catProcStat) = .error exn)

theorem metrics_leads (lines : List String) :
    Leads (metricsWorld stdout stops) (streamMetrics db lines) ⟨.unborn, 0⟩ fun log host _ =>
      host.client = .running ↔ FirstReadingFails stdout db log := by
  unfold streamMetrics readCpuStat
  apply leads_bind
  apply leads_call
  intro luck
  cases luck with
  | before exn => simp [metricsWorld, Luck.guard, Luck.raised, Client.started, FirstReadingFails]
  | after exn => simp [metricsWorld, Luck.guard, Luck.raised, Client.started, FirstReadingFails]
  | fine =>
    apply leads_bind
    apply leads_bind
    apply leads_call
    intro luck
    cases luck with
    | before exn => simp [metricsWorld, Luck.guard, Luck.raised, Client.started, FirstReadingFails]
    | after exn => simp [metricsWorld, Luck.guard, Luck.raised, Client.started, FirstReadingFails]
    | fine =>
      have read : ∀ later, FirstReadingFails stdout db
          (.called .popen .fine :: .called (.exec catProcStat) .fine :: later) ↔
            ∃ exn, cpuStat db (stdout 1 catProcStat) = .error exn := by
        intro later
        constructor
        · rintro ⟨luck, later', same, fails⟩
          simp only [List.cons.injEq, Happening.called.injEq, true_and] at same
          rw [← same.1] at fails
          exact fails.resolve_left (by simp)
        · intro fails
          exact ⟨.fine, later, rfl, Or.inr fails⟩
      change Leads _ (fromExcept (cpuStat db (stdout 1 catProcStat))) _ _
      rw [leads_fromExcept]
      cases decoded : cpuStat db (stdout 1 catProcStat) with
      | error exn =>
          refine ⟨fun _ => (read []).mpr ⟨exn, decoded⟩, fun _ => rfl⟩
      | ok previous =>
          apply leads_withFinally
          intro fates
          apply leads_call
          intro _
          refine ⟨fun running => (by cases running), fun fails => ?_⟩
          obtain ⟨exn, failed⟩ := (read _).mp fails
          rw [decoded] at failed
          cases failed

/-! ## The four agents -/

/-- The client that was started, if any, has exited or has been killed. -/
def NoOrphan (client : Client) : Prop := client ≠ .running

instance (client : Client) : Decidable (NoOrphan client) :=
  inferInstanceAs (Decidable (client ≠ .running))

theorem metrics_no_orphan (lines : List String) (fates : List (Luck PyExn)) :
    NoOrphan (runMetrics stdout stops db lines fates).shared.client ↔
      ¬ FirstReadingFails stdout db (runMetrics stdout stops db lines fates).log :=
  not_congr (metrics_leads stdout stops db lines fates)

theorem command_no_orphan (shlexSplit : String → Except String (List String))
    (commandLine : String) (timeout : Nat) (status : Int) (lines : List String)
    (fates : List Tick) :
    NoOrphan (runCommand shlexSplit commandLine timeout status lines fates).shared.client ↔
      (Struck commandRuns Raises
          (runCommand shlexSplit commandLine timeout status lines fates).log →
        TimerFires (runCommand shlexSplit commandLine timeout status lines fates).log) := by
  have running := command_leads status shlexSplit commandLine timeout lines fates
  refine (not_congr running).trans ?_
  rw [not_and, not_not]
  rfl

theorem benchmark_no_orphan (status : Int) (kernel : String) (lines : List String)
    (fates : List (Luck PyExn)) :
    NoOrphan (runBenchmark status db kernel lines fates).shared ↔
      ¬ Struck pipelineRuns Unhandled (runBenchmark status db kernel lines fates).log :=
  not_congr ((pipeline_client status _ fates).trans
    (runs_iff_of_settled (benchmark_settled status db kernel lines fates)))

theorem patch_no_orphan (status : Int) (patchText : String) (lines : List String)
    (fates : List (Luck PyExn)) :
    NoOrphan (runPatch status db patchText lines fates).shared ↔
      ¬ Struck pipelineRuns Unhandled (runPatch status db patchText lines fates).log :=
  not_congr ((pipeline_client status _ fates).trans
    (runs_iff_of_settled (patch_settled status db patchText lines fates)))

/-- The monitor orphans its client exactly when the reading before its `try`
fails, a lab command exactly when something raises between `Popen` and the end
of `wait` and the timer does not fire, a pipeline exactly when something other
than the time limit does. -/
theorem no_orphan_iff (db : CharDb) :
    (∀ stdout stops lines fates,
      NoOrphan (runMetrics stdout stops db lines fates).shared.client ↔
        ¬ FirstReadingFails stdout db (runMetrics stdout stops db lines fates).log) ∧
    (∀ shlexSplit commandLine timeout status lines fates,
      NoOrphan (runCommand shlexSplit commandLine timeout status lines fates).shared.client ↔
        (Struck commandRuns Raises
            (runCommand shlexSplit commandLine timeout status lines fates).log →
          TimerFires (runCommand shlexSplit commandLine timeout status lines fates).log)) ∧
    (∀ status kernel lines fates,
      NoOrphan (runBenchmark status db kernel lines fates).shared ↔
        ¬ Struck pipelineRuns Unhandled (runBenchmark status db kernel lines fates).log) ∧
    ∀ status patchText lines fates,
      NoOrphan (runPatch status db patchText lines fates).shared ↔
        ¬ Struck pipelineRuns Unhandled (runPatch status db patchText lines fates).log :=
  ⟨fun stdout stops => metrics_no_orphan stdout stops db, command_no_orphan,
    benchmark_no_orphan db, patch_no_orphan db⟩

/-- The first reading of `/proc/stat` times out, and a consumer closes at the
first line. -/
theorem orphans_left :
    ¬ NoOrphan (runMetrics (fun _ _ => "") (fun _ => false) .ascii []
        [.fine, .before .timeoutExpired]).shared.client ∧
      ¬ NoOrphan (runCommand (fun line => .ok [line]) "sar" 30 0 ["Linux\n"]
        [⟨.fine, false, true⟩, ⟨.fine, false, true⟩, ⟨.fine, false, true⟩,
          ⟨.before .generatorExit, false, true⟩]).shared.client ∧
      ¬ NoOrphan (runBenchmark 0 .ascii "baseline" ["booting\n"]
        [.fine, .fine, .before .generatorExit]).shared ∧
      ¬ NoOrphan (runPatch 0 .ascii "--- a\n" ["applying\n"]
        [.fine, .fine, .fine, .fine, .fine, .before .generatorExit]).shared := by
  decide +kernel

end KernelSprint.Subprocesses

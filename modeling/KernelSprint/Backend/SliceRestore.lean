import KernelSprint.Backend.SchedulerExperiment
import KernelSprint.Lib.Course

/-!
# What an interrupted scheduler experiment leaves behind

A single run of `scheduler_optimization_test` in which any exec or the
consumer may raise.  The compiler and the probes print what they like; an
exec that raises may have taken effect.
-/

set_option autoImplicit false

namespace KernelSprint.SliceRestore

open Generators Generators.Gen PyText BenchmarkOutput SchedulerExperiment
open Docker (CompletedProcess)

deriving instance DecidableEq for Exec

/-- What the compiler answers, and what the probe prints at a given time. -/
structure Tools where
  compiled : CompletedProcess
  stdout : Nat → Int → String

def Tools.answer (tools : Tools) (kernel : Kernel) :
    (request : Exec) → Kernel × Except PyExn request.Answer
  | .compile _ _ _ => (kernel.tick, .ok tools.compiled)
  | .catBaseSlice => (kernel.tick, .ok kernel.baseSliceNs)
  | .echoBaseSlice value => ({ kernel.tick with baseSliceNs := value }, .ok ())
  | .latencyProbe iterations => (kernel.tick, .ok (tools.stdout kernel.clock iterations))

abbrev Log := List (Happening (Luck PyExn) Exec Event)

def runAlone (db : CharDb) (tools : Tools) (iterations : Int) (kernel : Kernel)
    (fates : List (Luck PyExn)) : Course Kernel (Luck PyExn) Exec Event PyExn Unit :=
  (schedulerOptimizationTest db iterations).course (unreliable tools.answer) kernel fates

def isResult : Event → Bool
  | .result _ _ _ _ => true
  | _ => false

def lastCall : Log → Option (Exec × Luck PyExn)
  | [] => none
  | .yielded _ _ :: rest => lastCall rest
  | .called request luck :: rest => (lastCall rest).or (some (request, luck))

/-- The write that a run ends with, the restoring one, does not raise. -/
def RestoreSucceeds (log : Log) : Prop :=
  ∀ value luck, lastCall log = some (.echoBaseSlice value, luck) → luck = .fine

structure Restored (initial : Nat) (log : Log) (kernel : Kernel) : Prop where
  slice : kernel.baseSliceNs = initial
  resultAfterRestore : ∀ earlier event luck later,
    log = earlier ++ .yielded event luck :: later → isResult event →
      lastCall earlier = some (.echoBaseSlice initial, .fine)

theorem lastCall_append (first second : Log) :
    lastCall (first ++ second) = (lastCall second).or (lastCall first) := by
  induction first with
  | nil => simp [lastCall]
  | cons happening rest ih =>
      cases happening with
      | yielded event luck => exact ih
      | called request luck => simp only [List.cons_append, lastCall, ih, Option.or_assoc]

/-! ## Logs without a result -/

def NoResult (log : Log) : Prop :=
  ∀ happening ∈ log, happening.Within (fun _ => True) fun event => ¬ isResult event

@[simp] theorem noResult_nil : NoResult [] := List.forall_mem_nil _

@[simp] theorem noResult_called (request : Exec) (luck : Luck PyExn) (log : Log) :
    NoResult (.called request luck :: log) ↔ NoResult log := by
  simp [NoResult, Happening.Within]

@[simp] theorem noResult_yielded (event : Event) (luck : Luck PyExn) (log : Log) :
    NoResult (.yielded event luck :: log) ↔ ¬ isResult event ∧ NoResult log := by
  simp [NoResult, Happening.Within]

theorem restored_of_noResult (initial : Nat) (log : Log) (kernel : Kernel)
    (slice : kernel.baseSliceNs = initial) (noResult : NoResult log) :
    Restored initial log kernel := by
  refine ⟨slice, ?_⟩
  intro earlier event luck later split result
  have member : Happening.yielded event luck ∈ log := by
    rw [split]
    exact List.mem_append_right _ List.mem_cons_self
  exact absurd result (noResult _ member)

/-- The result comes last, right after the restoring write. -/
theorem restored_of_result (initial : Nat) (log : Log) (kernel : Kernel) (event : Event)
    (luck : Luck PyExn) (slice : kernel.baseSliceNs = initial) (noResult : NoResult log)
    (written : lastCall log = some (.echoBaseSlice initial, .fine)) :
    Restored initial (log ++ [.yielded event luck]) kernel := by
  refine ⟨slice, ?_⟩
  intro earlier event' luck' later split result
  rcases List.eq_nil_or_concat later with rfl | ⟨rest, final, rfl⟩
  · obtain ⟨same, _⟩ := List.append_inj' split rfl
    rw [← same]
    exact written
  · have same : log = earlier ++ .yielded event' luck' :: rest := by
      have split' : log ++ [.yielded event luck] =
          (earlier ++ .yielded event' luck' :: rest) ++ [final] := by
        rw [split]
        simp
      exact (List.append_inj' split' rfl).1
    have member : Happening.yielded event' luck' ∈ log := by
      rw [same]
      exact List.mem_append_right _ List.mem_cons_self
    exact absurd result (noResult _ member)

/-! ## The run -/

section Run

variable (db : CharDb) (tools : Tools)

def measure (iterations : Int) (original : Nat) :
    Experiment (Option Latency × Option Latency) := do
  yieldEvent (.sampleSlice "before" original)
  probeBefore db iterations original

theorem measure_noResult (iterations : Int) (original : Nat) :
    (measure db iterations original).Only (fun _ => True) fun event => ¬ isResult event := by
  unfold measure probeBefore reduceAndProbe probeAfter exec
  apply only_bind
  · simp [isResult]
  intro _
  apply only_bind
  · simp
  intro before
  apply only_bind
  · simp
  intro beforeMetrics
  apply only_bind
  · simp [isResult]
  intro _
  apply only_bind
  · simp
  intro _
  apply only_bind
  · simp [isResult]
  intro _
  apply only_bind
  · simp
  intro after
  apply only_bind
  · simp
  intro afterMetrics
  apply only_bind
  · simp [isResult]
  intro _
  simp

/-- From the protected body on, with the slice that the code has read. -/
theorem restoreAfter_leads (iterations : Int) (original : Nat) (log : Log) (kernel : Kernel)
    (noResult : NoResult log) :
    Leads (unreliable tools.answer) (restoreAfter original (measure db iterations original))
      kernel fun log' kernel' _ =>
        RestoreSucceeds (log ++ log') → Restored original (log ++ log') kernel' := by
  unfold restoreAfter
  apply leads_bind
  apply leads_withFinally
  intro fates
  have body : ∀ happening ∈ ((measure db iterations original).course
      (unreliable tools.answer) kernel fates).log, happening.Within _ _ :=
    only_log _ _ _ _ (measure_noResult db iterations original) kernel fates
  generalize (measure db iterations original).course (unreliable tools.answer) kernel fates =
    course at body
  have quiet : ∀ luck,
      NoResult (log ++ (course.log ++ [.called (.echoBaseSlice original) luck])) := by
    intro luck happening member
    simp only [List.mem_append, List.mem_singleton] at member
    rcases member with early | measured | rfl
    · exact noResult happening early
    · exact body happening measured
    · trivial
  have written : ∀ luck,
      lastCall (log ++ (course.log ++ [.called (.echoBaseSlice original) luck])) =
        some (.echoBaseSlice original, luck) := by
    intro luck
    rw [lastCall_append, lastCall_append]
    rfl
  apply leads_perform
  case fine =>
    cases ended : course.result with
    | error exn => exact fun _ => restored_of_noResult _ _ _ rfl (quiet .fine)
    | ok measured =>
        have final : ∀ event luck, Restored original
            (log ++ (course.log ++ [.called (.echoBaseSlice original) .fine] ++
              [.yielded event luck])) { course.shared.tick with baseSliceNs := original } := by
          intro event luck
          have restored := restored_of_result original _
            { course.shared.tick with baseSliceNs := original } event luck rfl (quiet .fine)
            (written .fine)
          rwa [List.append_assoc] at restored
        apply leads_yieldEvent
        · exact fun _ => final _ _
        · exact fun luck exn _ _ => final _ luck
  case before =>
    intro exn succeeds
    cases succeeds original (.before exn) (written (.before exn))
  case after =>
    intro exn succeeds
    cases succeeds original (.after exn) (written (.after exn))

theorem schedulerOptimizationTest_leads (iterations : Int) (kernel : Kernel) :
    Leads (unreliable tools.answer) (schedulerOptimizationTest db iterations) kernel
      fun log kernel' _ =>
        RestoreSucceeds log → Restored kernel.baseSliceNs log kernel' := by
  have quiet : ∀ log kernel', kernel'.baseSliceNs = kernel.baseSliceNs → NoResult log →
      RestoreSucceeds log → Restored kernel.baseSliceNs log kernel' :=
    fun log kernel' slice noResult _ => restored_of_noResult _ log kernel' slice noResult
  unfold schedulerOptimizationTest
  apply leads_bind
  apply leads_yieldEvent
  case thrown =>
    exact fun luck exn _ => quiet _ _ rfl (by simp [isResult])
  apply leads_bind
  apply leads_perform
  case before =>
    exact fun exn => quiet _ _ rfl (by simp [isResult])
  case after =>
    exact fun exn => quiet _ _ rfl (by simp [isResult])
  simp only [Tools.answer]
  by_cases compiles : tools.compiled.returncode = 0
  · simp only [ne_eq, compiles, not_true_eq_false, ↓reduceIte]
    apply leads_bind
    apply leads_perform
    case before =>
      exact fun exn => quiet _ _ rfl (by simp [isResult])
    case after =>
      exact fun exn => quiet _ _ rfl (by simp [isResult])
    have restored := restoreAfter_leads db tools (max 50 (min 5000 iterations))
      kernel.baseSliceNs
      [.yielded (.start "scheduler_optimization") .fine,
        .called (.compile "scheduler_latency.c" "/tmp/exp_scheduler_latency" ["-lpthread"]) .fine,
        .called .catBaseSlice .fine]
      kernel.tick.tick (by simp [isResult])
    exact restored
  · simp only [ne_eq, compiles, not_false_eq_true, ↓reduceIte]
    apply leads_yieldEvent
    · exact quiet _ _ rfl (by simp [isResult])
    · exact fun luck exn _ => quiet _ _ rfl (by simp [isResult])

end Run

def silentTools : Tools := ⟨⟨0, "", ""⟩, fun _ _ => ""⟩

end KernelSprint.SliceRestore

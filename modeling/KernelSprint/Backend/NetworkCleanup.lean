import KernelSprint.Backend.NetworkDelay

/-!
# What an interrupted injection leaves behind

A single run of `network_delay` in which any exec, the sleep or the consumer
may raise; an exec that raises may have taken effect in the container.
-/

set_option autoImplicit false

namespace KernelSprint.NetworkCleanup

open Generators Generators.Gen PyText NetworkDelay

abbrev Log := List (Happening (Luck PyExn) Call Event)

def runAlone (tc : Tc) (delayMs durationSec : Param) (qdisc : Qdisc)
    (fates : List (Luck PyExn)) : Course Qdisc (Luck PyExn) Call Event PyExn Unit :=
  (networkDelay delayMs durationSec).course (unreliable tc.answer) qdisc fates

/-- Every del that is issued succeeds. -/
def DelSucceeds (log : Log) : Prop :=
  ∀ luck, Happening.called .qdiscDel luck ∈ log → luck = .fine

/-- The add raised although the qdisc had been installed. -/
def AddRaisedLate (log : Log) : Prop :=
  ∃ delay exn, Happening.called (.qdiscAdd delay) (.after exn) ∈ log

/-- Once the add has answered, the del is issued whatever the sleep does. -/
theorem protected_leads (tc : Tc) (durationSec : Scalar) (delay : String) :
    Leads (unreliable tc.answer)
      (withFinally (exec (.sleep durationSec)) (do let _ ← exec .qdiscDel)) (some delay)
      fun log qdisc _ => DelSucceeds log → qdisc = none ∧ ¬ AddRaisedLate log := by
  have removal : ∀ log : Log, ¬ AddRaisedLate log → ∀ result : Except PyExn Unit,
      Leads (unreliable tc.answer) (do let _ ← exec .qdiscDel) (some delay)
        fun log' qdisc (_ : Except PyExn Unit) =>
          DelSucceeds (log ++ log') → qdisc = none ∧ ¬ AddRaisedLate (log ++ log') := by
    intro log notLate result
    apply leads_bind
    apply leads_perform
    case fine =>
      intro fates succeeds
      exact ⟨rfl, by simpa [AddRaisedLate] using notLate⟩
    case before =>
      intro exn succeeds
      exact absurd (succeeds (.before exn) (by simp)) (by simp)
    case after =>
      intro exn succeeds
      exact absurd (succeeds (.after exn) (by simp)) (by simp)
  apply leads_withFinally
  apply leads_perform
  case fine => exact removal _ (by simp [AddRaisedLate]) (.ok ())
  case before => exact fun exn => removal _ (by simp [AddRaisedLate]) (.error exn)
  case after => exact fun exn => removal _ (by simp [AddRaisedLate]) (.error exn)

/-- A cleaned-up part stays so within a log in which no other add raised. -/
theorem cleaned_within (before log later : Log) (qdisc : Qdisc)
    (cleaned : DelSucceeds log → qdisc = none ∧ ¬ AddRaisedLate log)
    (notBefore : ¬ AddRaisedLate before) (notLater : ¬ AddRaisedLate later)
    (succeeds : DelSucceeds (before ++ (log ++ later))) :
    qdisc = none ↔ ¬ AddRaisedLate (before ++ (log ++ later)) := by
  obtain ⟨gone, notLate⟩ := cleaned fun luck member => succeeds luck (by simp [member])
  refine iff_of_true gone ?_
  intro late
  obtain ⟨delay, exn, member⟩ := late
  simp only [List.mem_append] at member
  rcases member with early | inside | after
  · exact notBefore ⟨delay, exn, early⟩
  · exact notLate ⟨delay, exn, inside⟩
  · exact notLater ⟨delay, exn, after⟩

theorem injection_leads (tc : Tc) (delayMs durationSec : Param) :
    Leads (unreliable tc.answer) (networkDelay delayMs durationSec) none
      fun log qdisc _ => DelSucceeds log → (qdisc = none ↔ ¬ AddRaisedLate log) := by
  unfold networkDelay
  apply leads_bind
  rw [leads_fromExcept]
  cases clamp 2000 delayMs with
  | error exn => simp [AddRaisedLate]
  | ok delayMs =>
  apply leads_bind
  rw [leads_fromExcept]
  cases clamp maxDurationSec durationSec with
  | error exn => simp [AddRaisedLate]
  | ok durationSec =>
  apply leads_bind
  apply leads_yieldEvent
  case thrown => simp [AddRaisedLate]
  apply leads_bind
  apply leads_perform
  case before => simp [AddRaisedLate]
  case after => simp [AddRaisedLate, Tc.answer]
  simp only [Tc.answer, ne_eq, not_true_eq_false, ↓reduceIte]
  apply leads_bind
  refine leads_mono _ _ _ _ ?_ (protected_leads tc durationSec (delayText delayMs))
  intro log qdisc result cleaned
  have started : ¬ AddRaisedLate [.yielded (.start delayMs durationSec) .fine,
      .called (.qdiscAdd (delayText delayMs)) .fine] := by
    simp [AddRaisedLate]
  cases result with
  | error exn =>
      have whole := cleaned_within _ log [] qdisc cleaned started (by simp [AddRaisedLate])
      rw [List.append_nil] at whole
      exact whole
  | ok value =>
      apply leads_yieldEvent
      case fine =>
        exact cleaned_within _ log _ qdisc cleaned started (by simp [AddRaisedLate])
      case thrown =>
        intro luck exn _
        exact cleaned_within _ log _ qdisc cleaned started (by simp [AddRaisedLate])

/-- The container's network is left as it was found unless the add timed out
at the client and had gone through in the container. -/
theorem qdisc_gone_iff (tc : Tc) (delayMs durationSec : Param) (fates : List (Luck PyExn))
    (succeeds : DelSucceeds (runAlone tc delayMs durationSec none fates).log) :
    (runAlone tc delayMs durationSec none fates).shared = none ↔
      ¬ AddRaisedLate (runAlone tc delayMs durationSec none fates).log :=
  injection_leads tc delayMs durationSec fates succeeds

/-- The sleep raises while the delay is on. -/
theorem qdisc_gone_when_sleep_raises :
    (runAlone .standard (some (.ofNat 200)) (some (.ofNat 5)) none
        [.fine, .fine, .before .osError]).shared = none ↔
      ¬ AddRaisedLate (runAlone .standard (some (.ofNat 200)) (some (.ofNat 5)) none
        [.fine, .fine, .before .osError]).log := by
  apply qdisc_gone_iff
  intro luck member
  have ran : (runAlone .standard (some (.ofNat 200)) (some (.ofNat 5)) none
      [.fine, .fine, .before .osError]).log =
    [.yielded (.start (.ofNat 200) (.ofNat 5)) .fine, .called (.qdiscAdd "200ms") .fine,
      .called (.sleep (.ofNat 5)) (.before .osError), .called .qdiscDel .fine] := by
    decide +kernel
  rw [ran] at member
  simpa using member

theorem late_timeout_leaves_delay :
    ∃ fates, DelSucceeds (runAlone .standard (some (.ofNat 200)) (some (.ofNat 5)) none
        fates).log ∧
      (runAlone .standard (some (.ofNat 200)) (some (.ofNat 5)) none fates).shared ≠ none := by
  refine ⟨[.fine, .after .timeoutExpired], ?_, by decide +kernel⟩
  intro luck member
  have ran : (runAlone .standard (some (.ofNat 200)) (some (.ofNat 5)) none
      [.fine, .after .timeoutExpired]).log =
    [.yielded (.start (.ofNat 200) (.ofNat 5)) .fine,
      .called (.qdiscAdd "200ms") (.after .timeoutExpired)] := by
    decide +kernel
  rw [ran] at member
  simp at member

end KernelSprint.NetworkCleanup

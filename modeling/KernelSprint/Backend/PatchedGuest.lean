import KernelSprint.Backend.GuestBenchmark

/-!
# From a patched guest to the comparison

`run_patch_pipeline` boots the kernel that it has built with the upload and
weighs what the guest has measured against the committed baseline.
-/

set_option autoImplicit false

namespace KernelSprint.PatchedGuest

open Generators.Gen PyText BenchmarkOutput Pipelines ReportRoundTrip
open MeasuredScheduling (pos_of_round_pos neg_of_round_neg)
open MeasuredSwitching (SwitchRun)
open StreamCommand (lines)
open GuestBenchmark (Chatter Guest Truth mark marking marking_text marked relayed lines_join
  init_whole guest_segments silence quietGuest)

/-! ## One change -/

/-- What a change in percent, rounded to two decimals, says of a figure that
was measured up to `slack`. -/
structure Compared (change : Option ℚ) (baseline measured slack : ℚ) : Prop where
  near : ∃ pct, change = some pct ∧
    |pct - (measured - baseline) / baseline * 100| ≤ 1 / 200 + slack / baseline * 100
  raised : ∀ pct ∈ change, 0 < pct → baseline - slack < measured
  lowered : ∀ pct ∈ change, pct < 0 → measured < baseline + slack

theorem compared_of_near (baseline value measured slack : ℚ) (change : Option ℚ)
    (positive : 0 < baseline) (near : |value - measured| ≤ slack)
    (changed : roundedChange baseline (some value) = .ok change) :
    Compared change baseline measured slack := by
  have pct : change = some (round ((value - baseline) / baseline * 100) 2) := by
    simp only [roundedChange, pctChange, if_neg positive.ne'] at changed
    exact (Except.ok.inj changed).symm
  obtain ⟨below, above⟩ := abs_le.mp near
  subst pct
  refine ⟨⟨_, rfl, ?_⟩, ?_, ?_⟩
  · have rounding := round_error ((value - baseline) / baseline * 100) 2
    have reading : |(value - baseline) / baseline * 100 - (measured - baseline) / baseline * 100| ≤
        slack / baseline * 100 := by
      have apart : (value - baseline) / baseline * 100 - (measured - baseline) / baseline * 100 =
          (value - measured) / baseline * 100 := by ring
      rw [apart, abs_mul, abs_div, abs_of_pos positive, abs_of_pos (by norm_num : (0 : ℚ) < 100)]
      gcongr
    have both := abs_sub_le (round ((value - baseline) / baseline * 100) 2)
      ((value - baseline) / baseline * 100) ((measured - baseline) / baseline * 100)
    norm_num at rounding
    linarith
  · intro pct reported positivePct
    cases Option.some.inj reported
    have gained := pos_of_round_pos _ _ positivePct
    have more : baseline < value := by
      by_contra crossed
      have share := div_nonpos_of_nonpos_of_nonneg (sub_nonpos.mpr (not_lt.mp crossed)) positive.le
      linarith
    linarith
  · intro pct reported negativePct
    cases Option.some.inj reported
    have lost := neg_of_round_neg _ _ negativePct
    have less : value < baseline := by
      by_contra crossed
      have share := div_nonneg (sub_nonneg.mpr (not_lt.mp crossed)) positive.le
      linarith
    linarith

theorem unchanged_of_none (baseline : ℚ) (change : Option ℚ)
    (changed : roundedChange baseline none = .ok change) : change = none :=
  (Except.ok.inj changed).symm

theorem changes_of_comparison (baseline : Baseline) (data : BenchmarkData)
    (changes : Comparison) (compared : comparison baseline data = .ok changes) :
    roundedChange baseline.schedulerLatencyP99Us (data.schedulerLatency.map Latency.p99Us) =
        .ok changes.schedulerLatencyP99PctChange ∧
      roundedChange baseline.processCreationMeanUs (data.processCreation.map Latency.meanUs) =
        .ok changes.processCreationMeanPctChange ∧
      roundedChange baseline.switchesPerSec
        (data.contextSwitch.map ContextSwitch.switchesPerSec) =
          .ok changes.contextSwitchPctChange := by
  unfold comparison at compared
  cases latency : roundedChange baseline.schedulerLatencyP99Us
      (data.schedulerLatency.map Latency.p99Us) with
  | error exn =>
      rw [latency] at compared
      cases compared
  | ok latencyChange =>
      cases creation : roundedChange baseline.processCreationMeanUs
          (data.processCreation.map Latency.meanUs) with
      | error exn =>
          rw [latency, creation] at compared
          cases compared
      | ok creationChange =>
          cases switches : roundedChange baseline.switchesPerSec
              (data.contextSwitch.map ContextSwitch.switchesPerSec) with
          | error exn =>
              rw [latency, creation, switches] at compared
              cases compared
          | ok switchChange =>
              rw [latency, creation, switches] at compared
              cases compared
              exact ⟨rfl, rfl, rfl⟩

/-! ## The three changes -/

section Weighing

variable {qsort : Ranks.Qsort Int64} (guest : Guest qsort)

/-- The comparison weighs what each program has measured, and says nothing of
one that did not report. -/
structure Weighed (changes : Comparison) : Prop where
  creation :
    (guest.creation.process.point = .exited 0 ∧ ∃ latency figures,
        MeasuredCreation.Shows qsort 5000 guest.creation.process latency figures ∧
        Compared changes.processCreationMeanPctChange committedBaseline.processCreationMeanUs
          figures.meanUs (1 / 2000)) ∨
      (guest.creation.process.point = .exited 1 ∧ changes.processCreationMeanPctChange = none)
  switching : match guest.switching with
    | some run => match run.contextSwitchesPerSec with
        | some perSec => Compared changes.contextSwitchPctChange committedBaseline.switchesPerSec
            perSec (1 / 2)
        | none => changes.contextSwitchPctChange = none
    | none => changes.contextSwitchPctChange = none
  latency : match guest.latency with
    | some run => ∃ latency figures, run.Shows qsort latency figures ∧
        Compared changes.schedulerLatencyP99PctChange committedBaseline.schedulerLatencyP99Us
          figures.p99Us (1 / 2000)
    | none => changes.schedulerLatencyP99PctChange = none

theorem weighed_of_truth (data : BenchmarkData) (changes : Comparison) (truth : Truth guest data)
    (compared : comparison committedBaseline data = .ok changes) : Weighed guest changes := by
  obtain ⟨latencyChange, creationChange, switchChange⟩ := changes_of_comparison _ _ _ compared
  obtain ⟨created, switched, late⟩ := truth
  constructor
  · rcases created with ⟨exited, latency, figures, shown, shows⟩ | ⟨failed, nothing⟩
    · rw [shown] at creationChange
      exact Or.inl ⟨exited, latency, figures, shows,
        compared_of_near _ latency.meanUs _ _ _ (by norm_num [committedBaseline]) shows.near.mean
          creationChange⟩
    · rw [nothing] at creationChange
      exact Or.inr ⟨failed, unchanged_of_none _ _ creationChange⟩
  · cases switching : guest.switching with
    | none =>
        rw [switching] at switched
        rw [show data.contextSwitch = none from switched] at switchChange
        exact unchanged_of_none _ _ switchChange
    | some run =>
        rw [switching] at switched
        have figures := SwitchRun.Told.figures switched
        cases rate : run.contextSwitchesPerSec with
        | none =>
            rw [rate] at figures
            rw [figures.2] at switchChange
            simp only [rate]
            exact unchanged_of_none _ _ switchChange
        | some perSec =>
            rw [rate] at figures
            obtain ⟨figures, shown, shows⟩ := figures
            rw [shown] at switchChange
            simp only [rate]
            exact compared_of_near _ figures.switchesPerSec _ _ _ (by norm_num [committedBaseline])
              shows.perSec switchChange
  · cases latency : guest.latency with
    | none =>
        rw [latency] at late
        rw [show data.schedulerLatency = none from late] at latencyChange
        exact unchanged_of_none _ _ latencyChange
    | some run =>
        rw [latency] at late
        obtain ⟨shown, figures, reported, shows⟩ := late
        rw [reported] at latencyChange
        exact ⟨shown, figures, shows, compared_of_near _ shown.p99Us _ _ _
          (by norm_num [committedBaseline]) shows.near.p99 latencyChange⟩

end Weighing

/-! ## The events of the pipeline -/

section Script

variable {qsort : Ranks.Qsort Int64} (guest : Guest qsort) (applying building booting : Chatter)

/-- What the container prints in which the patched guest runs to its end. -/
def scriptTexts : List String := [
  mark "apply" "start",
  applying.text,
  mark "apply" "done",
  mark "build" "start",
  building.text,
  mark "build" "done",
  mark "boot" "start",
  booting.text,
  guest.init,
  mark "boot" "done"]

def script : String := String.join (scriptTexts guest applying building booting)

variable (db : CharDb)

theorem script_parsed : ∃ data,
    parseBenchmarkOutput db (script guest applying building booting) = .ok data ∧
      Truth guest data := by
  obtain ⟨data, parsed, truth⟩ := GuestBenchmark.parsed_around db guest
    [marking "apply" "start" (by decide) (by decide), applying.toNoise,
      marking "apply" "done" (by decide) (by decide),
      marking "build" "start" (by decide) (by decide), building.toNoise,
      marking "build" "done" (by decide) (by decide),
      marking "boot" "start" (by decide) (by decide), booting.toNoise]
    [marking "boot" "done" (by decide) (by decide)]
  refine ⟨data, ?_, truth⟩
  rw [← parsed]
  simp only [script, scriptTexts, List.map_cons, List.map_nil, marking_text, String.join_cons,
    String.join_nil, String.append_assoc, String.empty_append]

/-- The stages and every other line, in order. -/
def relayedEvents : List Event :=
  .stage "apply" "start" :: (lines applying.text).map .output ++
    .stage "apply" "done" :: .stage "build" "start" :: (lines building.text).map .output ++
      .stage "build" "done" :: .stage "boot" "start" ::
        ((lines booting.text).map .output ++ (lines guest.init).map .output ++
          [.stage "boot" "done"])

theorem script_relayed :
    (lines (script guest applying building booting)).map (lineEvent db) =
      relayedEvents guest applying building booting := by
  obtain ⟨segments, -, unmarked, -⟩ := guest_segments guest
  have whole : ∀ text ∈ scriptTexts guest applying building booting, Whole text := by
    simp only [scriptTexts, List.forall_mem_cons]
    exact ⟨whole_newline _, applying.whole, whole_newline _, whole_newline _, building.whole,
      whole_newline _, whole_newline _, booting.whole, init_whole guest, whole_newline _,
      List.forall_mem_nil _⟩
  rw [script, lines_join _ whole]
  simp only [scriptTexts, List.flatMap_cons, List.flatMap_nil, List.map_append, List.append_nil]
  rw [marked db "apply" "start" (by decide) (by decide),
    marked db "apply" "done" (by decide) (by decide),
    marked db "build" "start" (by decide) (by decide),
    marked db "build" "done" (by decide) (by decide),
    marked db "boot" "start" (by decide) (by decide),
    marked db "boot" "done" (by decide) (by decide), relayed db _ applying.unmarked,
    relayed db _ building.unmarked, relayed db _ booting.unmarked, relayed db _ unmarked]
  simp [relayedEvents]

end Script

end KernelSprint.PatchedGuest

import KernelSprint.Backend.MeasuredCreation
import KernelSprint.Benchmark.ContextSwitch
import KernelSprint.Benchmark.LatencyProbe

/-!
# What the context switch experiment reports

The time between the two readings of the clock in `context_switch.c` is that
of the round trips that were asked for, all of them and nothing else, and the
agent reports it.
-/

set_option autoImplicit false

namespace KernelSprint.MeasuredSwitching

open Generators.Gen PyText Decimal BenchmarkOutput Reports
open Labelled (Machine)
open ContextSwitch (Proc Fate State Parent Child pingPong parentLoop)
open LatencyProbe (elapsedNs)
open ProcessCreation (atoi timespec elapsed_timespec)
open MeasuredCreation (atoi_clamped written_error written_near)
open ReportRoundTrip (hosting printedSwitch play_hosted)
open Experiments (contextSwitchTest contextSwitchResult)

/-! ## A run to the report -/

/-- The monotonic clock, in nanoseconds, is read before the first pass of the
parent's loop and after the last one. -/
structure SwitchRun (roundTrips : Nat) where
  opening : List (Proc × Fate)
  first : State
  opened : (pingPong roundTrips).exec opening .forked = some first
  atFirst : first.parent = parentLoop roundTrips 0
  before : Nat
  looping : List (Proc × Fate)
  last : State
  looped : (pingPong roundTrips).exec looping first = some last
  atLast : last.parent = .wait
  after : Nat
  later : before ≤ after
  fits : after < 2 ^ 63
  totalNs : Int64
  elapsed : elapsedNs (timespec before) (timespec after) = some totalNs
  closing : List (Proc × Fate)
  final : State
  closed : (pingPong roundTrips).exec closing last = some final
  atEnd : final.parent = .exited 0

namespace SwitchRun

variable {roundTrips : Nat} (run : SwitchRun roundTrips)

def roundTripUs : ℚ := run.totalNs.toInt / roundTrips / 1000

def contextSwitchUs : ℚ := run.roundTripUs / 2

/-- `none` is an infinity. -/
def contextSwitchesPerSec : Option ℚ :=
  if run.contextSwitchUs = 0 then none else some (1000000 / run.contextSwitchUs)

def figures (perSec : ℚ) : SwitchFigures :=
  ⟨run.roundTripUs.toNNRat, run.contextSwitchUs.toNNRat, perSec.toNNRat⟩

def stdout : String :=
  match run.contextSwitchesPerSec with
  | some perSec => contextSwitch roundTrips (run.figures perSec)
  | none => infiniteSwitch roundTrips run.roundTripUs.toNNRat run.contextSwitchUs.toNNRat

theorem totalNs_eq : run.totalNs.toInt = run.after - run.before := by
  obtain ⟨sample, elapsed, exact⟩ := elapsed_timespec run.before run.after run.later run.fits
  cases Option.some.inj (run.elapsed.symm.trans elapsed)
  exact exact

theorem roundTrip_nonneg : 0 ≤ run.roundTripUs := by
  have forward : (0 : ℚ) ≤ run.totalNs.toInt := by
    rw [run.totalNs_eq]
    exact_mod_cast sub_nonneg.mpr (by exact_mod_cast run.later : (run.before : Int) ≤ run.after)
  unfold roundTripUs
  positivity

theorem perSwitch_nonneg : 0 ≤ run.contextSwitchUs :=
  div_nonneg run.roundTrip_nonneg zero_le_two

theorem perSec_pos (perSec : ℚ) (finite : run.contextSwitchesPerSec = some perSec) :
    0 < perSec := by
  unfold contextSwitchesPerSec at finite
  split at finite
  · cases finite
  · next moving =>
      cases Option.some.inj finite
      have perSwitch : 0 < run.contextSwitchUs :=
        lt_of_le_of_ne run.perSwitch_nonneg (Ne.symm moving)
      positivity

/-- The rate is infinite when the clock has not gone on. -/
theorem infinite_iff (some : 0 < roundTrips) :
    run.contextSwitchesPerSec = none ↔ run.before = run.after := by
  have trips : (roundTrips : ℚ) ≠ 0 := by exact_mod_cast some.ne'
  have still : run.contextSwitchUs = 0 ↔ run.totalNs.toInt = 0 := by
    simp [contextSwitchUs, roundTripUs, trips]
  unfold contextSwitchesPerSec
  rw [ite_eq_left_iff, still, run.totalNs_eq]
  simp only [reduceCtorEq, imp_false, not_not]
  omega

/-- The figures up to the last decimal that is printed. -/
structure Shows (shown : ContextSwitch) (perSec : ℚ) : Prop where
  roundTrip : |shown.roundTripUs - run.roundTripUs| ≤ 1 / 2000
  perSwitch : |shown.perSwitchUs - run.contextSwitchUs| ≤ 1 / 2000
  perSec : |shown.switchesPerSec - perSec| ≤ 1 / 2

theorem shown (perSec : ℚ) (finite : run.contextSwitchesPerSec = some perSec) :
    run.Shows (printedSwitch (run.figures perSec)) perSec := by
  refine ⟨written_near _ run.roundTrip_nonneg, written_near _ run.perSwitch_nonneg, ?_⟩
  have error := written_error 0 perSec (run.perSec_pos perSec finite).le
  norm_num at error ⊢
  exact error

/-! ## What the time is of -/

/-- Bytes that have gone each way. -/
structure Moved (state : State) (count : Nat) : Prop where
  pingWritten : state.ping.written = count
  pingTaken : state.ping.taken = count
  pongWritten : state.pong.written = count
  pongTaken : state.pong.taken = count

/-- What the parent has written and read back has gone through the child. -/
theorem moved_of_parent (state : State) (count : Nat)
    (childAt : ContextSwitch.ChildAt roundTrips state) (written : state.ping.written = count)
    (taken : state.pong.taken = count) : Moved state count := by
  have pace := ContextSwitch.child_pace childAt
  have ping := state.ping.balance
  have pong := state.pong.balance
  constructor <;> omega

theorem moved_first : Moved run.first 0 := by
  have paced := ContextSwitch.paced_exec roundTrips run.opening run.first run.opened
  have parentAt := paced.parentAt
  unfold ContextSwitch.ParentAt at parentAt
  rw [run.atFirst, parentLoop] at parentAt
  by_cases more : 0 < roundTrips
  · rw [if_pos more] at parentAt
    exact moved_of_parent _ 0 paced.childAt parentAt.2.1 parentAt.2.2
  · rw [if_neg more] at parentAt
    have none : roundTrips = 0 := by omega
    exact moved_of_parent _ 0 paced.childAt (parentAt.1.trans none) (parentAt.2.trans none)

theorem moved_last : Moved run.last roundTrips := by
  have whole : (pingPong roundTrips).exec (run.opening ++ run.looping) .forked = some run.last := by
    rw [Machine.exec_append, run.opened]
    exact run.looped
  have paced := ContextSwitch.paced_exec roundTrips _ run.last whole
  have parentAt := paced.parentAt
  unfold ContextSwitch.ParentAt at parentAt
  rw [run.atLast] at parentAt
  exact moved_of_parent _ roundTrips paced.childAt parentAt.1 parentAt.2

/-- What a result says of the run: its figures, which are those of all the round
trips and of nothing else, or nothing when the clock has not gone on. -/
structure Told (result : Option ContextSwitch) : Prop where
  figures : match run.contextSwitchesPerSec with
    | some perSec => ∃ shown, result = some shown ∧ run.Shows shown perSec
    | none => run.before = run.after ∧ result = none
  elapsed : run.totalNs.toInt = run.after - run.before
  nothingYet : Moved run.first 0
  allThrough : Moved run.last roundTrips

/-- What is decoded from the report. -/
def decoded : Option ContextSwitch :=
  run.contextSwitchesPerSec.map fun perSec => printedSwitch (run.figures perSec)

theorem decoded_stdout (db : CharDb) : contextSwitchResult db run.stdout = .ok run.decoded := by
  unfold stdout decoded
  cases run.contextSwitchesPerSec with
  | some perSec => exact ReportRoundTrip.contextSwitchResult_contextSwitch db _ _
  | none => exact ReportRoundTrip.contextSwitchResult_infiniteSwitch db _ _ _

theorem told_decoded (some : 0 < roundTrips) : run.Told run.decoded := by
  refine ⟨?_, run.totalNs_eq, run.moved_first, run.moved_last⟩
  unfold decoded
  cases rate : run.contextSwitchesPerSec with
  | some perSec => exact ⟨_, rfl, run.shown perSec rate⟩
  | none => exact ⟨(run.infinite_iff some).mp rate, rfl⟩

end SwitchRun

/-! ## Every run that exits with 0 is one -/

section Splitting

variable {roundTrips : Nat}

/-- The parent exits with 0 only from its wait. -/
theorem waited_of_exit (state next : State) (label : Proc × Fate)
    (stepped : (pingPong roundTrips).step state label = some next)
    (running : state.parent ≠ .exited 0) (exits : next.parent = .exited 0) :
    state.parent = .wait := by
  obtain ⟨proc, fate⟩ := label
  cases proc with
  | parent =>
      have goesOn := ContextSwitch.parentLoop_ended roundTrips
      cases ContextSwitch.parentMove_of_step roundTrips state next fate stepped with
      | closesRead place => cases exits
      | closesWrite place =>
          have loops := goesOn 0
          rw [show parentLoop roundTrips 0 = .exited 0 from exits] at loops
          cases loops
      | writes i place => cases exits
      | reads i place holds =>
          have loops := goesOn (i + 1)
          rw [show parentLoop roundTrips (i + 1) = .exited 0 from exits] at loops
          cases loops
      | breaks reason => cases exits
      | finishes place => exact place
  | child =>
      have same : next.parent = state.parent := by
        cases ContextSwitch.childMove_of_step roundTrips state next fate stepped <;> rfl
      exact absurd (same.symm.trans exits) running

/-- The parent has closed its two ends. -/
def Opened (state : State) : Prop :=
  state.parent ≠ .closePingRead ∧ state.parent ≠ .closePongWrite

/-- It comes out of that at the head of its loop. -/
theorem looping_of_opened (state next : State) (label : Proc × Fate)
    (stepped : (pingPong roundTrips).step state label = some next)
    (before : ¬ Opened state) (after : Opened next) : next.parent = parentLoop roundTrips 0 := by
  obtain ⟨proc, fate⟩ := label
  cases proc with
  | parent =>
      cases ContextSwitch.parentMove_of_step roundTrips state next fate stepped with
      | closesRead place => exact absurd rfl after.2
      | closesWrite place => rfl
      | writes i place => exact absurd ⟨by simp [place], by simp [place]⟩ before
      | reads i place holds => exact absurd ⟨by simp [place], by simp [place]⟩ before
      | breaks reason =>
          rcases ContextSwitch.parentBreaks_place reason with ⟨i, place⟩ | ⟨i, place⟩ <;>
            exact absurd ⟨by simp [place], by simp [place]⟩ before
      | finishes place => exact absurd ⟨by simp [place], by simp [place]⟩ before
  | child =>
      have same : next.parent = state.parent := by
        cases ContextSwitch.childMove_of_step roundTrips state next fate stepped <;> rfl
      exact absurd ⟨same ▸ after.1, same ▸ after.2⟩ before

/-- Wherever the parent exits with 0, the clock can have been read. -/
theorem measured_of_exit (schedule : List (Proc × Fate)) (final : State)
    (run : (pingPong roundTrips).exec schedule .forked = some final)
    (exits : final.parent = .exited 0) (before after : Nat) (later : before ≤ after)
    (fits : after < 2 ^ 63) :
    ∃ measured : SwitchRun roundTrips, measured.before = before ∧ measured.after = after ∧
      measured.final = final := by
  obtain ⟨totalNs, elapsed, -⟩ := elapsed_timespec before after later fits
  obtain ⟨early, label, late, last, next, -, reached, running, stepped, exited, ended⟩ :=
    Machine.exists_entering (pingPong roundTrips) (fun state => state.parent = .exited 0) schedule
      .forked final (by simp [State.forked]) exits run
  have atLast := waited_of_exit last next label stepped running exited
  obtain ⟨start, move, rest, state, first, -, opening, closed, moved, opened, looped⟩ :=
    Machine.exists_entering (pingPong roundTrips) Opened early .forked last
      (fun opened => opened.1 rfl) ⟨by simp [atLast], by simp [atLast]⟩ reached
  have atFirst := looping_of_opened state first move moved closed opened
  refine ⟨⟨start ++ [move], first, ?_, atFirst, before, rest, last, looped, atLast, after, later,
    fits, totalNs, elapsed, label :: late, final, ?_, exits⟩, rfl, rfl, rfl⟩
  · rw [Machine.exec_append, opening]
    exact (Machine.exec_cons ..).mpr ⟨first, moved, rfl⟩
  · exact (Machine.exec_cons ..).mpr ⟨next, stepped, ended⟩

theorem exists_switchRun (roundTrips : Nat) :
    ∃ run : SwitchRun roundTrips, run.before < run.after := by
  obtain ⟨schedule, final, fine, run, stuck⟩ := Machine.reaches_stuck (pingPong roundTrips)
    (ContextSwitch.Paced roundTrips) (State.rank roundTrips) (fun label => label.2 = .fine)
    (fun state label next => ContextSwitch.rank_step state label next) .forked
    (ContextSwitch.paced_forked roundTrips)
  have paced := ContextSwitch.paced_exec roundTrips schedule final run
  have clean := ContextSwitch.clean_exec schedule fine run
  have ended := ContextSwitch.ended_of_stuck paced fun proc => stuck (proc, .fine) rfl
  obtain ⟨measured, before, after, -⟩ := measured_of_exit schedule final run
    (ContextSwitch.parent_exited ended.1 clean) 0 1000000000 (by decide) (by decide)
  exact ⟨measured, by omega⟩

end Splitting

/-! ## From the request to the result -/

def defaultRoundTrips : Int := 50000

/-- The number of round trips that `argv` asks for. -/
def roundTripsOf (argv : List String) : Option Int :=
  match argv with
  | _ :: roundTrips :: _ => atoi roundTrips
  | _ => some defaultRoundTrips

/-- How the program ends: without a child, with a parent that gives up, or with
its report. -/
inductive Ending (roundTrips : Nat) where
  | unforked
  | broken (schedule : List (Proc × Fate)) (final : State)
      (run : (pingPong roundTrips).exec schedule .forked = some final)
      (gaveUp : final.parent = .exited 1)
  | measured (run : SwitchRun roundTrips)

/-- What a result says of an ending. -/
def Ending.Told {roundTrips : Nat} : Ending roundTrips → Option ContextSwitch → Prop
  | .measured run, result => run.Told result
  | _, result => result = none

structure ProgramRun (argv : List String) where
  roundTrips : Nat
  requested : roundTripsOf argv = some (roundTrips : Int)
  positive : 0 < roundTrips
  ending : Ending roundTrips

def ProgramRun.stdout {argv : List String} (program : ProgramRun argv) : String :=
  match program.ending with
  | .measured run => run.stdout
  | _ => ""

/-- What comes of an argv.  When it asks for no positive number of round trips,
nothing is known of what is printed. -/
inductive Execution (argv : List String) where
  | ran (program : ProgramRun argv)
  | other (unasked : ∀ roundTrips : Nat, 0 < roundTrips →
      roundTripsOf argv ≠ some (roundTrips : Int)) (stdout : String)

def Execution.stdout {argv : List String} : Execution argv → String
  | ran program => program.stdout
  | other _ stdout => stdout

/-- Every argv has an execution, and one that asks for round trips has one with a
report. -/
theorem exists_execution (argv : List String) : ∃ execution : Execution argv,
    ∀ program, execution = .ran program →
      ∃ run, program.ending = .measured run ∧ run.before < run.after := by
  by_cases asked : ∃ roundTrips : Nat, 0 < roundTrips ∧
      roundTripsOf argv = some (roundTrips : Int)
  · obtain ⟨roundTrips, positive, requested⟩ := asked
    obtain ⟨run, goesOn⟩ := exists_switchRun roundTrips
    refine ⟨.ran ⟨roundTrips, requested, positive, .measured run⟩, ?_⟩
    rintro program same
    obtain rfl := Execution.ran.inj same
    exact ⟨run, rfl, goesOn⟩
  · refine ⟨.other ?_ "", fun program same => ?_⟩
    · exact fun roundTrips positive requested => asked ⟨roundTrips, positive, requested⟩
    · simp only [reduceCtorEq] at same

/-- The round trips that the agent makes of the request. -/
def clamped (asked : Int) : Int := max 1000 (min 200000 asked)

def argv (asked : Int) : List String := ["/tmp/exp_context_switch", toString (clamped asked)]

theorem roundTripsOf_argv (asked : Int) : roundTripsOf (argv asked) = some (clamped asked) :=
  atoi_clamped 1000 200000 asked (by decide) (by decide)

theorem clamped_nat (asked : Int) : ∃ n : Nat, 0 < n ∧ clamped asked = n := by
  obtain ⟨n, whole⟩ : ∃ n : Nat, clamped asked = n :=
    Int.eq_ofNat_of_zero_le (by unfold clamped; omega)
  refine ⟨n, ?_, whole⟩
  unfold clamped at whole
  omega

/-- The container in which the agent compiles and starts the program. -/
def sandbox (executions : ∀ argv, Execution argv) :
    (request : Experiments.Exec) → Except PyExn request.Answer :=
  hosting "context_switch.c" "/tmp/exp_context_switch" fun argv => (executions argv).stdout

variable (db : CharDb)

theorem play_switching (executions : ∀ argv, Execution argv) (asked : Int)
    (result : Option ContextSwitch)
    (decodes : contextSwitchResult db (executions (argv asked)).stdout = .ok result) :
    play (sandbox executions) (contextSwitchTest db asked) =
      ([.start "context_switch", .contextSwitch (clamped asked) result], .ok ()) := by
  unfold contextSwitchTest
  refine play_hosted _ _ _ _ _ _ _ ?_
  change (contextSwitchResult db (executions (argv asked)).stdout).map _ = _
  rw [decodes]
  rfl

/-- The figures that the client gets are, to half of the last decimal, those
of the time in which exactly as many round trips as it has asked for went
through the child; when a call fails, or no time has passed, it gets none. -/
theorem switching_reported (executions : ∀ argv, Execution argv) (asked : Int) :
    ∃ program : ProgramRun (argv asked), executions (argv asked) = .ran program ∧
      (program.roundTrips : Int) = clamped asked ∧
      ∃ result, play (sandbox executions) (contextSwitchTest db asked) =
          ([.start "context_switch", .contextSwitch (clamped asked) result], .ok ()) ∧
        program.ending.Told result := by
  have play := play_switching db executions asked
  cases execution : executions (argv asked) with
  | other unasked stdout =>
      obtain ⟨n, positive, whole⟩ := clamped_nat asked
      exact absurd ((roundTripsOf_argv asked).trans (congrArg some whole)) (unasked n positive)
  | ran program =>
      rw [execution] at play
      have whole : (program.roundTrips : Int) = clamped asked :=
        Option.some.inj (program.requested.symm.trans (roundTripsOf_argv asked))
      refine ⟨program, rfl, whole, ?_⟩
      obtain ⟨roundTrips, requested, positive, ending⟩ := program
      cases ending with
      | measured run => exact ⟨_, play _ (run.decoded_stdout db), run.told_decoded positive⟩
      | unforked => exact ⟨none, play none rfl, rfl⟩
      | broken schedule final run gaveUp => exact ⟨none, play none rfl, rfl⟩

/-- Fewer round trips than the least are asked for. -/
theorem switching_reported_five :
    ∃ (executions : ∀ argv, Execution argv) (program : ProgramRun (argv 5))
      (run : SwitchRun program.roundTrips) (shown : ContextSwitch),
      executions (argv 5) = .ran program ∧ program.ending = .measured run ∧
        (program.roundTrips : Int) = 1000 ∧
        play (sandbox executions) (contextSwitchTest .ascii 5) =
          ([.start "context_switch", .contextSwitch 1000 (some shown)], .ok ()) ∧
        run.Told (some shown) := by
  choose executions reports using exists_execution
  obtain ⟨program, ran, whole, result, played, told⟩ := switching_reported .ascii executions 5
  obtain ⟨run, measured, goesOn⟩ := reports (argv 5) program ran
  rw [measured] at told
  have rate := mt (run.infinite_iff program.positive).mp goesOn.ne
  obtain ⟨perSec, finite⟩ := Option.ne_none_iff_exists'.mp rate
  have figures := told.figures
  rw [finite] at figures
  obtain ⟨shown, rfl, -⟩ := figures
  exact ⟨executions, program, run, shown, ran, measured, whole, played, told⟩

end KernelSprint.MeasuredSwitching

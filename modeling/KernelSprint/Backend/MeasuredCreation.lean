import KernelSprint.Backend.ReportRoundTrip
import KernelSprint.Benchmark.ProcessCreation

/-!
# What the process creation experiment reports

From the request to the result: the agent clamps what the client asks for and
hands it to the program as text, the program measures and prints, and the
agent decodes what was printed.
-/

set_option autoImplicit false

namespace KernelSprint.MeasuredCreation

open Generators.Gen PyText Decimal Ranks BenchmarkOutput ProcessCreation
open Percentiles (Figures Faithful micros)
open ReportRoundTrip (hosting printedLatency play_hosted parseLatency_processCreation)
open Experiments (processCreationTest)

/-! ## The argument -/

theorem isDigit_toDigits (n : Nat) (c : Char) (member : c ∈ Nat.toDigits 10 n) :
    c.isDigit = true := by
  have known := (digitsValue_isSome_iff .ascii (Nat.toDigits 10 n)).mp
    (by rw [digitsValue_toDigits]; rfl) c member
  by_contra other
  simp [CharDb.ascii, other] at known

/-- `atoi` reads back what Python's `str` writes. -/
theorem atoi_toString (n : Nat) (small : n < 2147483648) : atoi (toString n) = some (n : Int) := by
  have text : (toString n).toList = Nat.toDigits 10 n := by
    rw [Nat.toString_eq_repr, Nat.toList_repr]
  have digits := isDigit_toDigits n
  have value := digitsValue_toDigits .ascii n
  unfold atoi
  rw [text]
  cases symbols : Nat.toDigits 10 n with
  | nil => exact absurd symbols Nat.toDigits_ne_nil
  | cons first rest =>
      rw [symbols] at digits value
      have digit := digits first List.mem_cons_self
      have kept : (first :: rest).dropWhile isCSpace = first :: rest := by
        refine List.dropWhile_cons_of_neg ?_
        intro space
        simp only [isCSpace, List.contains_eq_mem, List.mem_cons, List.not_mem_nil, or_false,
          decide_eq_true_eq] at space
        rcases space with rfl | rfl | rfl | rfl | rfl | rfl <;> simp at digit
      have minus : first ≠ '-' := by rintro rfl; simp at digit
      have plus : first ≠ '+' := by rintro rfl; simp at digit
      have whole : (first :: rest).takeWhile Char.isDigit = first :: rest :=
        List.takeWhile_eq_self_iff.mpr digits
      have unsigned : withoutSign (first :: rest) = first :: rest := by
        unfold withoutSign
        split
        · rename_i same
          exact absurd (List.cons.inj same).1 minus
        · rename_i same
          exact absurd (List.cons.inj same).1 plus
        · rfl
      simp only [kept, unsigned, whole, value, List.head?_cons, Option.some.injEq, minus, if_false,
        Option.getD_some]
      rw [if_pos (by omega)]

/-- What an agent has clamped and handed over as text. -/
theorem atoi_clamped (low high asked : Int) (nonneg : 0 ≤ low)
    (small : max low high < 2147483648) :
    atoi (toString (max low (min high asked))) = some (max low (min high asked)) := by
  obtain ⟨n, whole⟩ : ∃ n : Nat, max low (min high asked) = n :=
    Int.eq_ofNat_of_zero_le (by omega)
  have text : toString (max low (min high asked)) = toString n := by rw [whole]; rfl
  rw [text, atoi_toString n (by omega), whole]

/-! ## The figures -/

/-- Three decimals of the figures, in microseconds. -/
structure Near (latency : Latency) (figures : Figures) : Prop where
  mean : |latency.meanUs - figures.meanUs| ≤ 1 / 2000
  min : |latency.minUs - figures.minUs| ≤ 1 / 2000
  max : |latency.maxUs - figures.maxUs| ≤ 1 / 2000
  p50 : |latency.p50Us - figures.p50Us| ≤ 1 / 2000
  p99 : |latency.p99Us - figures.p99Us| ≤ 1 / 2000

theorem written_error (places : Nat) (x : ℚ) (nonneg : 0 ≤ x) :
    |written places x.toNNRat - x| ≤ 1 / 2 / 10 ^ places := by
  rw [written_eq_round, Rat.coe_toNNRat x nonneg]
  exact round_error x places

theorem written_near (x : ℚ) (nonneg : 0 ≤ x) : |written 3 x.toNNRat - x| ≤ 1 / 2000 := by
  have error := written_error 3 x nonneg
  norm_num at error ⊢
  exact error

theorem near_printed (samples : List Int64) (figures : Figures)
    (faithful : Faithful samples figures) (nonneg : 0 ≤ figures.minUs) :
    Near (printedLatency (printed figures)) figures := by
  have p50 := nonneg.trans faithful.minLeP50
  have p99 := p50.trans faithful.p50LeP99
  exact ⟨written_near _ (nonneg.trans faithful.minLeMean), written_near _ nonneg,
    written_near _ (p99.trans faithful.p99LeMax), written_near _ p50, written_near _ p99⟩

theorem samples_nonneg (process : Process) (measured : Measured process) :
    ∀ sample ∈ process.samplesNs, 0 ≤ sample.toInt := by
  intro sample member
  obtain ⟨passes, current, log, -, durations⟩ := measured.passes
  have duration : sample.toInt ∈ passes.map fun pass => (pass.after : Int) - pass.before :=
    durations ▸ List.mem_map_of_mem member
  obtain ⟨pass, counted, same⟩ := List.mem_map.mp duration
  have inside : pass.events.Sublist process.log := by
    rw [log, List.flatMap_def]
    exact (List.sublist_flatten_of_mem (List.mem_map_of_mem counted)).trans
      (List.sublist_append_left _ _)
  have ordered := measured.ordered.sublist (inside.map Prod.snd)
  have forward : pass.before ≤ pass.after :=
    (List.pairwise_cons.mp ordered).1 pass.after (by simp)
  omega

/-! ## From the request to the result -/

/-- The iterations that the agent makes of the request. -/
def clamped (asked : Int) : Int := max 100 (min 20000 asked)

def argv (asked : Int) : List String := ["/tmp/exp_process_creation", toString (clamped asked)]

theorem iterationsOf_argv (asked : Int) : iterationsOf (argv asked) = some (clamped asked) :=
  atoi_clamped 100 20000 asked (by decide) (by decide)

/-- A run of the program to its end. -/
structure ProgramRun (qsort : Qsort Int64) (argv : List String) where
  iterations : Int
  requested : iterationsOf argv = some iterations
  now : Nat
  fits : now < 2 ^ 63
  labels : List Label
  process : Process
  run : (machine qsort iterations).exec labels (.start now) = some process
  ended : process.ended = true

/-- What the printed figures say of the process that has printed them. -/
structure Shows (qsort : Qsort Int64) (iterations : Int) (process : Process) (latency : Latency)
    (figures : Figures) : Prop where
  reported : Percentiles.processCreation qsort process.samplesNs = some figures
  near : Near latency figures
  faithful : Faithful process.samplesNs figures
  all : (process.samplesNs.length : Int) = iterations
  measured : Measured process

/-- What comes of an argv.  When `atoi` cannot read its argument, nothing is
known of what is printed. -/
inductive Execution (qsort : Qsort Int64) (argv : List String) where
  | ran (program : ProgramRun qsort argv)
  | unread (undefined : iterationsOf argv = none) (stdout : String)

def Execution.stdout {qsort : Qsort Int64} {argv : List String} :
    Execution qsort argv → String
  | ran program => program.process.stdout
  | unread _ stdout => stdout

variable (db : CharDb) (qsort : Qsort Int64)

/-- Every argv has an execution, and one that asks for passes has one with a
report. -/
theorem exists_execution (argv : List String) : ∃ execution : Execution qsort argv,
    ∀ program, execution = .ran program → 0 < program.iterations →
      program.process.point = .exited 0 := by
  cases requested : iterationsOf argv with
  | none => exact ⟨.unread requested "", nofun⟩
  | some iterations =>
      by_cases positive : 0 < iterations
      · obtain ⟨labels, process, -, run, reported⟩ :=
          reaches_report qsort positive 0 (by decide) [] (.start 0) rfl nofun
        have ended : process.ended = true := by simp only [Process.ended, reported]
        refine ⟨.ran ⟨iterations, requested, 0, by decide, labels, process, run, ended⟩, ?_⟩
        rintro program same -
        cases Execution.ran.inj same
        exact reported
      · refine ⟨.ran ⟨iterations, requested, 0, by decide, [.malloc false], _, rfl, rfl⟩, ?_⟩
        rintro program same asked
        cases Execution.ran.inj same
        exact absurd asked positive

/-- The container in which the agent compiles and starts the program. -/
def sandbox (executions : ∀ argv, Execution qsort argv) :
    (request : Experiments.Exec) → Except PyExn request.Answer :=
  hosting "process_creation.c" "/tmp/exp_process_creation" fun argv => (executions argv).stdout

theorem play_creation (executions : ∀ argv, Execution qsort argv) (asked : Int)
    (result : Option Latency)
    (decodes : parseLatency db (executions (argv asked)).stdout = .ok result) :
    play (sandbox qsort executions) (processCreationTest db asked) =
      ([.start "process_creation", .processCreation (clamped asked) result], .ok ()) := by
  unfold processCreationTest
  refine play_hosted _ _ _ _ _ _ _ ?_
  change (parseLatency db (executions (argv asked)).stdout).map _ = _
  rw [decodes]
  rfl

/-- The program prints three decimals of the figures of as many whole passes as
it was asked for, or a fork failed and it prints nothing. -/
theorem stdout_of_run {argv : List String} (program : ProgramRun qsort argv)
    (positive : 0 < program.iterations) :
    (program.process.point = .exited 0 ∧ ∃ figures,
        program.process.stdout =
          Reports.processCreation program.iterations.toNat (printed figures) ∧
        Shows qsort program.iterations program.process (printedLatency (printed figures))
          figures) ∨
      (program.process.point = .exited 1 ∧ program.process.stdout = "") := by
  obtain ⟨iterations, requested, now, fits, labels, process, run, ended⟩ := program
  have measured := measured_of_run qsort _ now fits labels process run
  obtain ⟨-, ⟨exited, all, figures, report, faithful, text⟩ | failed⟩ :=
    reported_of_run qsort _ positive now fits labels process run ended
  · obtain ⟨sample, sampled, least⟩ := List.mem_map.mp faithful.minSampled
    have nonneg : 0 ≤ figures.minUs := by
      have forward := samples_nonneg process measured sample sampled
      rw [← least, micros]
      positivity
    exact Or.inl ⟨exited, figures, text, report, near_printed _ _ faithful nonneg, faithful, all,
      measured⟩
  · exact Or.inr failed

/-- The figures that the client gets are, to half a thousandth of a
microsecond, those of as many whole passes as it has asked for; when a fork
fails it gets none. -/
theorem creation_reported (executions : ∀ argv, Execution qsort argv) (asked : Int) :
    ∃ program : ProgramRun qsort (argv asked), executions (argv asked) = .ran program ∧
      ((program.process.point = .exited 0 ∧ ∃ latency figures,
          play (sandbox qsort executions) (processCreationTest db asked) =
            ([.start "process_creation", .processCreation (clamped asked) (some latency)],
              .ok ()) ∧
          Shows qsort (clamped asked) program.process latency figures) ∨
        (program.process.point = .exited 1 ∧
          play (sandbox qsort executions) (processCreationTest db asked) =
            ([.start "process_creation", .processCreation (clamped asked) none], .ok ()))) := by
  have play := play_creation db qsort executions asked
  cases execution : executions (argv asked) with
  | unread undefined stdout =>
      rw [iterationsOf_argv] at undefined
      cases undefined
  | ran program =>
      rw [execution] at play
      have requested : program.iterations = clamped asked :=
        (Option.some.inj ((iterationsOf_argv asked).symm.trans program.requested)).symm
      have positive : 0 < program.iterations := by
        rw [requested]
        unfold clamped
        omega
      refine ⟨program, rfl, ?_⟩
      rcases stdout_of_run qsort program positive with
        ⟨exited, figures, text, shows⟩ | ⟨failed, nothing⟩
      · refine Or.inl ⟨exited, printedLatency (printed figures), figures, play _ ?_,
          requested ▸ shows⟩
        change parseLatency db program.process.stdout = _
        rw [text]
        exact parseLatency_processCreation db _ _
      · refine Or.inr ⟨failed, play _ ?_⟩
        change parseLatency db program.process.stdout = _
        rw [nothing]
        rfl

/-- Fewer iterations than the least are asked for. -/
theorem creation_reported_fifty :
    ∃ (executions : ∀ argv, Execution (.insertion Int64) argv)
      (program : ProgramRun (.insertion Int64) (argv 50)) (latency : Latency) (figures : Figures),
      executions (argv 50) = .ran program ∧
        play (sandbox (.insertion Int64) executions) (processCreationTest .ascii 50) =
          ([.start "process_creation", .processCreation 100 (some latency)], .ok ()) ∧
        Shows (.insertion Int64) 100 program.process latency figures := by
  choose executions reports using exists_execution (.insertion Int64)
  obtain ⟨program, ran, outcome⟩ :=
    creation_reported .ascii (.insertion Int64) executions 50
  have requested : program.iterations = clamped 50 :=
    (Option.some.inj ((iterationsOf_argv 50).symm.trans program.requested)).symm
  have exited := reports (argv 50) program ran (by rw [requested]; decide)
  rcases outcome with ⟨-, latency, figures, played, shows⟩ | ⟨failed, -⟩
  · exact ⟨executions, program, latency, figures, ran, played, shows⟩
  · rw [exited] at failed
    cases failed

end KernelSprint.MeasuredCreation

import KernelSprint.Backend.MeasuredCreation
import KernelSprint.Benchmark.IpcThroughput
import KernelSprint.Benchmark.LatencyProbe

/-!
# What the IPC experiment reports

`ipc_throughput.c` divides the volume that it has planned by the time that it
took.  The client is told what the reader received in that time exactly when
no write fell short.
-/

set_option autoImplicit false

namespace KernelSprint.MeasuredThroughput

open Generators.Gen PyText Decimal BenchmarkOutput Reports Word64
open Labelled (Machine)
open IpcThroughput (Setup State Writer Reader Label transfer writerLoop)
open LatencyProbe (Timespec)
open ProcessCreation (atoi withoutSign isCSpace)
open MeasuredCreation (atoi_clamped written_error written_near)
open ReportRoundTrip (hosting printedThroughput play_hosted ipcResult_ipcThroughput)
open Experiments (ipcPerformanceTest ipcResult Throughput)

/-! ## A run to the report -/

/-- The seconds are a `double`, so only the two differences can overflow. -/
def elapsedS (start finish : Timespec) : Option ℚ := do
  let seconds ← sub? finish.tvSec start.tvSec
  let nanoseconds ← sub? finish.tvNsec start.tvNsec
  some (seconds.toInt + nanoseconds.toInt / 1000000000)

/-- The clock is read when the writer has closed its read end and after it has
reaped the reader.  Some time has passed between the two, and the differences
fit their words. -/
structure TransferRun (setup : Setup) where
  opening : List Label
  first : State
  opened : (transfer setup).exec opening .forked = some first
  atFirst : first.writer = writerLoop setup 0
  t0 : Timespec
  sending : List Label
  final : State
  sent : (transfer setup).exec sending first = some final
  bytes : Nat
  atEnd : final.writer = .reported bytes
  received : Nat
  reaped : final.reader = .exited received
  t1 : Timespec
  seconds : ℚ
  elapsed : elapsedS t0 t1 = some seconds
  positive : 0 < seconds

namespace TransferRun

variable {setup : Setup} (run : TransferRun setup)

def schedule : List Label := run.opening ++ run.sending

/-- `actual_mb` -/
def actualMb : ℚ := run.bytes / 1048576

def throughputMbS : ℚ := run.actualMb / run.seconds

def receivedMb : ℚ := run.received / 1048576

def figures : ThroughputFigures := ⟨run.seconds.toNNRat, run.throughputMbS.toNNRat⟩

def stdout : String := ipcThroughput setup.chunkBytes run.actualMb.toNNRat run.figures

/-- The figures up to the last decimal that is printed. -/
structure Shows (shown : Throughput) : Prop where
  elapsed : |shown.elapsedS - run.seconds| ≤ 1 / 2000
  throughput : |shown.throughputMbS - run.throughputMbS| ≤ 1 / 20

theorem throughput_nonneg : 0 ≤ run.throughputMbS := by
  have positive := run.positive
  unfold throughputMbS actualMb
  positivity

theorem shown : run.Shows (printedThroughput run.figures) := by
  refine ⟨written_near _ run.positive.le, ?_⟩
  have error := written_error 1 run.throughputMbS run.throughput_nonneg
  norm_num at error ⊢
  exact error

/-! ## What the figures are of -/

theorem exec_schedule : (transfer setup).exec run.schedule .forked = some run.final := by
  unfold schedule
  rw [Machine.exec_append, run.opened]
  exact run.sent

/-- Nothing is in the pipe before the first reading of the clock. -/
theorem nothing_sent : run.first.pipe.written = 0 := by
  have ordered := IpcThroughput.ordered_exec setup run.opening run.first run.opened
  have writerAt := ordered.writerAt
  unfold IpcThroughput.WriterAt at writerAt
  rw [run.atFirst, writerLoop] at writerAt
  by_cases more : 0 < setup.chunks
  · rw [if_pos more] at writerAt
    exact writerAt.2.2.trans (Nat.zero_mul _)
  · rw [if_neg more] at writerAt
    have none : setup.actualBytes = 0 := by
      rw [Setup.actualBytes, Nat.eq_zero_of_not_pos more, Nat.zero_mul]
    exact Nat.le_zero.mp (none ▸ writerAt)

/-- The volume that is reported is the plan's. -/
theorem received_or_short :
    (.fallShort ∉ run.schedule ∧ run.received = run.bytes) ∨
      (.fallShort ∈ run.schedule ∧ run.received < run.bytes) := by
  have ordered := IpcThroughput.ordered_exec setup _ _ run.exec_schedule
  have accounted := IpcThroughput.accounted_exec setup _ _ run.exec_schedule
  obtain ⟨whole, planned⟩ :=
    IpcThroughput.received_eq_written ordered run.received run.bytes run.reaped run.atEnd
  unfold IpcThroughput.Accounted at accounted
  by_cases hurt : .fallShort ∈ run.schedule
  · rw [if_pos hurt] at accounted
    exact Or.inr ⟨hurt, by omega⟩
  · rw [if_neg hurt, run.atEnd] at accounted
    have all := accounted rfl
    exact Or.inl ⟨hurt, by omega⟩

/-- The reported rate is at least the rate at which bytes have arrived. -/
structure Truth : Prop where
  atMost : run.receivedMb / run.seconds ≤ run.throughputMbS
  exact_iff : run.receivedMb / run.seconds = run.throughputMbS ↔ .fallShort ∉ run.schedule

theorem truth : run.Truth := by
  have positive := run.positive
  rcases run.received_or_short with ⟨unhurt, same⟩ | ⟨hurt, fewer⟩
  · have equal : run.receivedMb / run.seconds = run.throughputMbS := by
      rw [throughputMbS, actualMb, receivedMb, same]
    exact ⟨equal.le, iff_of_true equal unhurt⟩
  · have less : run.receivedMb / run.seconds < run.throughputMbS := by
      have bytes : (run.received : ℚ) < run.bytes := by exact_mod_cast fewer
      unfold throughputMbS actualMb receivedMb
      gcongr
    exact ⟨less.le, iff_of_false less.ne (not_not_intro hurt)⟩

end TransferRun

/-! ## Every run that cannot go on is one -/

section Splitting

variable {setup : Setup}

/-- The writer comes from its first call to the head of its loop. -/
theorem looping_of_closed (state next : State) (label : Label)
    (stepped : (transfer setup).step state label = some next)
    (before : ¬ state.writer ≠ .closeRead) (after : next.writer ≠ .closeRead) :
    next.writer = writerLoop setup 0 := by
  have start : state.writer = .closeRead := not_not.mp before
  cases IpcThroughput.move_of_step setup state next label stepped with
  | closesRead place => rfl
  | noReader i sent place gone => simp [start] at place
  | closesWrite place => simp [start] at place
  | reports received place reaped => simp [start] at place
  | movesIn count i sent place positive fits => simp [start] at place
  | fallsShort i sent place => simp [start] at place
  | readerCloses place => exact absurd start after
  | ends received place empty noWriter => exact absurd start after
  | exits received place => exact absurd start after
  | movesOut count received place positive there => exact absurd start after

/-- However it has been scheduled, the clock can have been read. -/
theorem measured_of_stuck (schedule : List Label) (final : State)
    (run : (transfer setup).exec schedule .forked = some final)
    (stuck : IpcThroughput.Stuck setup final) (t0 t1 : Timespec) (seconds : ℚ)
    (elapsed : elapsedS t0 t1 = some seconds) (positive : 0 < seconds) :
    ∃ measured : TransferRun setup, measured.schedule = schedule ∧ measured.final = final ∧
      measured.t0 = t0 ∧ measured.t1 = t1 := by
  have ordered := IpcThroughput.ordered_exec setup schedule final run
  obtain ⟨⟨bytes, atEnd⟩, received, reaped⟩ := IpcThroughput.ended_of_stuck ordered stuck
  obtain ⟨before, move, after, state, first, split, opening, closed, moved, opened, sent⟩ :=
    Machine.exists_entering (transfer setup) (fun state => state.writer ≠ .closeRead) schedule
      .forked final (not_not_intro rfl) (by simp [atEnd]) run
  have atFirst := looping_of_closed state first move moved closed opened
  refine ⟨⟨before ++ [move], first, ?_, atFirst, t0, after, final, sent, bytes, atEnd, received,
    reaped, t1, seconds, elapsed, positive⟩, ?_, rfl, rfl, rfl⟩
  · rw [Machine.exec_append, opening]
    exact (Machine.exec_cons ..).mpr ⟨first, moved, rfl⟩
  · rw [TransferRun.schedule, List.append_assoc, List.singleton_append]
    exact split.symm

theorem exists_transferRun (setup : Setup) :
    ∃ run : TransferRun setup, .fallShort ∉ run.schedule := by
  obtain ⟨schedule, final, whole, run, stuck⟩ := Machine.reaches_stuck (transfer setup)
    (IpcThroughput.Ordered setup) (State.rank setup) (fun label => label ≠ .fallShort)
    IpcThroughput.rank_step .forked (IpcThroughput.ordered_forked setup)
  obtain ⟨measured, same, -⟩ := measured_of_stuck schedule final run stuck ⟨0, 0⟩ ⟨1, 0⟩ 1
    (by decide +kernel) one_pos
  refine ⟨measured, ?_⟩
  rw [same]
  exact fun short => whole _ short rfl

end Splitting

/-! ## From the request to the result -/

def defaultChunkBytes : Int := 4096

def defaultTotalMb : Int := 64

/-- `atol`; what does not fit a `long` is undefined. -/
def atol (text : String) : Option Int :=
  let symbols := text.toList.dropWhile isCSpace
  let digits := (withoutSign symbols).takeWhile Char.isDigit
  let magnitude := (digitsValue .ascii digits).getD 0
  let value : Int := if symbols.head? = some '-' then -magnitude else magnitude
  if -9223372036854775808 ≤ value ∧ value < 9223372036854775808 then some value else none

def chunkBytesOf (argv : List String) : Option Int :=
  match argv with
  | _ :: chunkBytes :: _ => atoi chunkBytes
  | _ => some defaultChunkBytes

def totalMbOf (argv : List String) : Option Int :=
  match argv with
  | _ :: _ :: totalMb :: _ => atol totalMb
  | _ => some defaultTotalMb

/-- How the program ends: without a child, or with its report. -/
inductive Ending (setup : Setup) where
  | unforked
  | measured (run : TransferRun setup)

/-- The pipe may hold any number of bytes. -/
structure ProgramRun (argv : List String) where
  setup : Setup
  chunkBytes : chunkBytesOf argv = some (setup.chunkBytes : Int)
  totalMb : totalMbOf argv = some (setup.totalMb : Int)
  ending : Ending setup

def ProgramRun.stdout {argv : List String} (program : ProgramRun argv) : String :=
  match program.ending with
  | .measured run => run.stdout
  | .unforked => ""

/-- What comes of an argv.  When it asks for no chunk or volume that the program
can work with, nothing is known of what is printed. -/
inductive Execution (argv : List String) where
  | ran (program : ProgramRun argv)
  | other (unasked : ∀ setup : Setup, chunkBytesOf argv = some (setup.chunkBytes : Int) →
      totalMbOf argv ≠ some (setup.totalMb : Int)) (stdout : String)

def Execution.stdout {argv : List String} : Execution argv → String
  | ran program => program.stdout
  | other _ stdout => stdout

/-- Every argv has an execution, and one that asks for a transfer has one in which
all of it is sent and reported. -/
theorem exists_execution (argv : List String) : ∃ execution : Execution argv,
    ∀ program, execution = .ran program →
      ∃ run, program.ending = .measured run ∧ .fallShort ∉ run.schedule := by
  by_cases asked : ∃ setup : Setup, chunkBytesOf argv = some (setup.chunkBytes : Int) ∧
      totalMbOf argv = some (setup.totalMb : Int)
  · obtain ⟨setup, chunkBytes, totalMb⟩ := asked
    obtain ⟨run, unhurt⟩ := exists_transferRun setup
    refine ⟨.ran ⟨setup, chunkBytes, totalMb, .measured run⟩, ?_⟩
    rintro program same
    obtain rfl := Execution.ran.inj same
    exact ⟨run, rfl, unhurt⟩
  · refine ⟨.other ?_ "", fun program same => ?_⟩
    · exact fun setup chunkBytes totalMb => asked ⟨setup, chunkBytes, totalMb⟩
    · simp only [reduceCtorEq] at same

/-- The chunk that the agent makes of the request. -/
def clamped (asked : Int) : Int := max 64 (min 1048576 asked)

def argv (asked : Int) : List String :=
  ["/tmp/exp_ipc_throughput", toString (clamped asked), "32"]

theorem chunkBytesOf_argv (asked : Int) : chunkBytesOf (argv asked) = some (clamped asked) :=
  atoi_clamped 64 1048576 asked (by decide) (by decide)

theorem totalMbOf_argv (asked : Int) : totalMbOf (argv asked) = some 32 := by
  change atol "32" = some 32
  decide +kernel

theorem exists_setup (asked : Int) : ∃ setup : Setup, clamped asked = setup.chunkBytes ∧
    setup.totalMb = 32 := by
  obtain ⟨n, whole⟩ : ∃ n : Nat, clamped asked = n :=
    Int.eq_ofNat_of_zero_le (by unfold clamped; omega)
  have positive : 0 < n := by
    unfold clamped at whole
    omega
  exact ⟨⟨n, 32, 65536, positive, by decide⟩, whole, rfl⟩

/-- The container in which the agent compiles and starts the program. -/
def sandbox (executions : ∀ argv, Execution argv) :
    (request : Experiments.Exec) → Except PyExn request.Answer :=
  hosting "ipc_throughput.c" "/tmp/exp_ipc_throughput" fun argv => (executions argv).stdout

variable (db : CharDb)

theorem play_ipc (executions : ∀ argv, Execution argv) (asked : Int) (result : Option Throughput)
    (decodes : ipcResult db (executions (argv asked)).stdout = .ok result) :
    play (sandbox executions) (ipcPerformanceTest db asked) =
      ([.start "ipc_performance", .ipcPerformance (clamped asked) result], .ok ()) := by
  unfold ipcPerformanceTest
  refine play_hosted _ _ _ _ _ _ _ ?_
  change (ipcResult db (executions (argv asked)).stdout).map _ = _
  rw [decodes]
  rfl

/-- The client gets, up to rounding, the time from before the first byte to
after the last and a rate that is never below the one at which bytes arrived;
it is that rate exactly when no write fell short. -/
theorem throughput_reported (executions : ∀ argv, Execution argv) (asked : Int) :
    ∃ program : ProgramRun (argv asked), executions (argv asked) = .ran program ∧
      (program.setup.chunkBytes : Int) = clamped asked ∧ program.setup.totalMb = 32 ∧
      ((∃ run shown, program.ending = .measured run ∧
          play (sandbox executions) (ipcPerformanceTest db asked) =
            ([.start "ipc_performance", .ipcPerformance (clamped asked) (some shown)], .ok ()) ∧
          run.Shows shown ∧ run.first.pipe.written = 0 ∧ run.Truth) ∨
        (program.ending = .unforked ∧
          play (sandbox executions) (ipcPerformanceTest db asked) =
            ([.start "ipc_performance", .ipcPerformance (clamped asked) none], .ok ()))) := by
  have play := play_ipc db executions asked
  cases execution : executions (argv asked) with
  | other unasked stdout =>
      obtain ⟨setup, chunk, total⟩ := exists_setup asked
      refine absurd ?_ (unasked setup ((chunkBytesOf_argv asked).trans (congrArg some chunk)))
      rw [totalMbOf_argv, total]
      rfl
  | ran program =>
      rw [execution] at play
      have chunk : (program.setup.chunkBytes : Int) = clamped asked :=
        Option.some.inj (program.chunkBytes.symm.trans (chunkBytesOf_argv asked))
      have total : (program.setup.totalMb : Int) = 32 :=
        Option.some.inj (program.totalMb.symm.trans (totalMbOf_argv asked))
      refine ⟨program, rfl, chunk, by exact_mod_cast total, ?_⟩
      obtain ⟨setup, chunkBytes, totalMb, ending⟩ := program
      cases ending with
      | measured run =>
          have decodes : ipcResult db run.stdout = .ok (printedThroughput run.figures) :=
            ipcResult_ipcThroughput db setup.chunkBytes run.actualMb.toNNRat run.figures
          exact Or.inl ⟨run, printedThroughput run.figures, rfl, play _ decodes, run.shown,
            run.nothing_sent, run.truth⟩
      | unforked => exact Or.inr ⟨rfl, play none rfl⟩

/-- Chunks of a page. -/
theorem throughput_reported_page :
    ∃ (executions : ∀ argv, Execution argv) (program : ProgramRun (argv 4096))
      (run : TransferRun program.setup) (shown : Throughput),
      executions (argv 4096) = .ran program ∧ (program.setup.chunkBytes : Int) = 4096 ∧
        program.ending = .measured run ∧ .fallShort ∉ run.schedule ∧
        play (sandbox executions) (ipcPerformanceTest .ascii 4096) =
          ([.start "ipc_performance", .ipcPerformance 4096 (some shown)], .ok ()) ∧
        run.Shows shown ∧ run.Truth := by
  choose executions reports using exists_execution
  obtain ⟨program, ran, chunk, -, outcome⟩ := throughput_reported .ascii executions 4096
  obtain ⟨run, measured, unhurt⟩ := reports (argv 4096) program ran
  rcases outcome with ⟨run', shown, measured', played, shows, -, truth⟩ | ⟨unforked, -⟩
  · obtain rfl := Ending.measured.inj (measured.symm.trans measured')
    exact ⟨executions, program, run, shown, ran, chunk, measured, unhurt, played, shows, truth⟩
  · rw [measured] at unforked
    cases unforked

end KernelSprint.MeasuredThroughput

import KernelSprint.Benchmark.LatencyProbe
import KernelSprint.Benchmark.Reports
import KernelSprint.Lib.Machine

/-!
# Measuring process creation

`process_creation.c`: `main` forks a child, waits for it and takes the time of
both, over and over.  The kernel answers the calls of `main`, the clock goes on
and the children run, in any order.
-/

set_option autoImplicit false

namespace KernelSprint.ProcessCreation

open Labelled Ranks Word64
open LatencyProbe (Timespec elapsedNs elapsedNs_eq_some)
open Percentiles (Figures)

/-! ## The program -/

def defaultIterations : Int := 20000

def isCSpace (c : Char) : Bool := [' ', '\t', '\n', '\x0b', '\x0c', '\r'].contains c

def withoutSign : List Char → List Char
  | '-' :: rest => rest
  | '+' :: rest => rest
  | rest => rest

/-- `atoi`; what does not fit an `int` is undefined. -/
def atoi (text : String) : Option Int :=
  let symbols := text.toList.dropWhile isCSpace
  let digits := (withoutSign symbols).takeWhile Char.isDigit
  let magnitude := (PyText.digitsValue .ascii digits).getD 0
  let value : Int := if symbols.head? = some '-' then -magnitude else magnitude
  if -2147483648 ≤ value ∧ value < 2147483648 then some value else none

/-- The number of passes that `argv` asks for. -/
def iterationsOf (argv : List String) : Option Int :=
  match argv with
  | _ :: iterations :: _ => atoi iterations
  | _ => some defaultIterations

/-- A child that `main` has not waited for. -/
structure Child where
  pid : Nat
  exited : Bool
  deriving DecidableEq

/-- The call that `main` comes to next; `undefined` is a read outside the
array. -/
inductive Point where
  | malloc
  | clockBefore
  | fork (t0 : Timespec)
  | waitpid (t0 : Timespec) (pid : Nat)
  | clockAfter (t0 : Timespec)
  | exited (status : Nat)
  | undefined
  deriving DecidableEq

inductive Happening where
  | before
  | forked
  | exited
  | reaped
  | after
  deriving DecidableEq

/-- `now` is the monotonic clock in nanoseconds.  The log says what has
happened in the passes, and when. -/
structure Process where
  now : Nat
  point : Point
  children : List Child
  samplesNs : List Int64
  log : List (Happening × Nat)
  stdout : String
  stderr : String

inductive Label where
  | malloc (granted : Bool)
  | fork (answer : Except String Nat)
  | main
  | child (pid : Nat)
  | pass (ns : Nat)

/-- The time that `clock_gettime` fills in. -/
def timespec (ns : Nat) : Timespec :=
  ⟨.ofInt ((ns : Int) / 1000000000), .ofInt ((ns : Int) % 1000000000)⟩

/-- The figures as arguments of `printf`. -/
def printed (figures : Figures) : Reports.LatencyFigures where
  meanUs := figures.meanUs.toNNRat
  minUs := figures.minUs.toNNRat
  maxUs := figures.maxUs.toNNRat
  p50Us := figures.p50Us.toNNRat
  p99Us := figures.p99Us.toNNRat

namespace Process

variable (qsort : Qsort Int64) (iterations : Int) (process : Process)

def start (now : Nat) : Process := ⟨now, .malloc, [], [], [], "", ""⟩

def note (happening : Happening) : Process :=
  { process with log := process.log ++ [(happening, process.now)] }

/-- What follows the loop. -/
def finish : Process :=
  match Percentiles.processCreation qsort process.samplesNs with
  | some figures =>
      { process with
        stdout := process.stdout ++ Reports.processCreation iterations.toNat (printed figures)
        point := .exited 0 }
  | none => { process with point := .undefined }

def loopHead : Process :=
  if (process.samplesNs.length : Int) < iterations then { process with point := .clockBefore }
  else process.finish qsort iterations

/-- A negative number of samples is a size that no allocator grants. -/
def malloc (granted : Bool) : Option Process :=
  match process.point with
  | .malloc =>
      if granted then
        if 0 ≤ iterations then some (process.loopHead qsort iterations) else none
      else some { process with
        stderr := process.stderr ++ "out of memory\n"
        point := .exited 1 }
  | _ => none

/-- The kernel gives the child a number that no other child has. -/
def fork (answer : Except String Nat) : Option Process :=
  match process.point with
  | .fork t0 =>
      match answer with
      | .ok pid =>
          if 0 < pid ∧ ∀ child ∈ process.children, child.pid ≠ pid then
            some ({ process with
              point := .waitpid t0 pid
              children := ⟨pid, false⟩ :: process.children }.note .forked)
          else none
      | .error text =>
          some { process with
            stderr := process.stderr ++ "fork: " ++ text ++ "\n"
            point := .exited 1 }
  | _ => none

/-- `waitpid` blocks until the child has exited. -/
def main : Option Process :=
  match process.point with
  | .clockBefore => some ({ process with point := .fork (timespec process.now) }.note .before)
  | .waitpid t0 pid =>
      if ⟨pid, true⟩ ∈ process.children then
        some ({ process with
          point := .clockAfter t0
          children := process.children.erase ⟨pid, true⟩ }.note .reaped)
      else none
  | .clockAfter t0 =>
      (elapsedNs t0 (timespec process.now)).map fun sample =>
        ({ process with samplesNs := process.samplesNs ++ [sample] }.note .after).loopHead
          qsort iterations
  | _ => none

/-- The child calls `_exit(0)`. -/
def child (pid : Nat) : Option Process :=
  if ⟨pid, false⟩ ∈ process.children then
    some ({ process with
      children := process.children.map fun (child : Child) =>
        if child.pid = pid then ⟨pid, true⟩ else child }.note .exited)
  else none

/-- The kernel counts its time in a signed 64-bit word. -/
def pass (ns : Nat) : Option Process :=
  if process.now + ns < 2 ^ 63 then some { process with now := process.now + ns } else none

def act : Label → Option Process
  | .malloc granted => process.malloc qsort iterations granted
  | .fork answer => process.fork answer
  | .main => process.main qsort iterations
  | .child pid => process.child pid
  | .pass ns => process.pass ns

end Process

def machine (qsort : Qsort Int64) (iterations : Int) : Machine Process Label where
  step process label := process.act qsort iterations label

/-! ## Readings of the clock -/

theorem timespec_instant (ns : Nat) (fits : ns < 2 ^ 63) : (timespec ns).instant = ns := by
  have seconds : (timespec ns).tvSec.toInt = (ns : Int) / 1000000000 :=
    Int64.toInt_ofInt_of_le (by omega) (by omega)
  have nanoseconds : (timespec ns).tvNsec.toInt = (ns : Int) % 1000000000 :=
    Int64.toInt_ofInt_of_le (by omega) (by omega)
  rw [Timespec.instant, seconds, nanoseconds]
  omega

/-- Between two readings of the kernel's clock nothing overflows. -/
theorem elapsed_timespec (before after : Nat) (order : before ≤ after) (fits : after < 2 ^ 63) :
    ∃ sample, elapsedNs (timespec before) (timespec after) = some sample ∧
      sample.toInt = after - before := by
  have seconds : ∀ ns : Nat, ns < 2 ^ 63 →
      (timespec ns).tvSec.toInt = (ns : Int) / 1000000000 :=
    fun ns small => Int64.toInt_ofInt_of_le (by omega) (by omega)
  have nanoseconds : ∀ ns : Nat, (timespec ns).tvNsec.toInt = (ns : Int) % 1000000000 :=
    fun ns => Int64.toInt_ofInt_of_le (by omega) (by omega)
  have total : (timespec after).instant - (timespec before).instant = after - before := by
    rw [timespec_instant after fits, timespec_instant before (by omega)]
  obtain ⟨sample, exact⟩ := exists_toInt.mpr (by unfold Fits; omega : Fits (after - before : Int))
  refine ⟨sample, (elapsedNs_eq_some _ _ sample).mpr ⟨⟨?_, ?_, ?_, ?_⟩, ?_⟩, exact⟩
  · rw [seconds after fits, seconds before (by omega)]
    unfold Fits
    omega
  · rw [seconds after fits, seconds before (by omega)]
    unfold Fits
    omega
  · rw [nanoseconds, nanoseconds]
    unfold Fits
    omega
  · change Fits ((timespec after).instant - (timespec before).instant)
    rw [total]
    exact exact ▸ fits_toInt sample
  · rw [total, exact]

/-! ## What one step does -/

namespace Process

variable (qsort : Qsort Int64) (iterations : Int) (process : Process)

/-- `main` has returned, or has read outside its array. -/
def ended : Bool :=
  match process.point with
  | .exited _ => true
  | .undefined => true
  | _ => false

/-- Every step there is. -/
inductive Move : Label → Process → Prop
  | granted (here : process.point = .malloc) (nonneg : 0 ≤ iterations) :
      Move (.malloc true) (process.loopHead qsort iterations)
  | refused (here : process.point = .malloc) :
      Move (.malloc false)
        { process with stderr := process.stderr ++ "out of memory\n", point := .exited 1 }
  | forked (t0 : Timespec) (pid : Nat) (here : process.point = .fork t0) (positive : 0 < pid)
      (fresh : ∀ child ∈ process.children, child.pid ≠ pid) :
      Move (.fork (.ok pid))
        ({ process with
          point := .waitpid t0 pid
          children := ⟨pid, false⟩ :: process.children }.note .forked)
  | unforked (t0 : Timespec) (text : String) (here : process.point = .fork t0) :
      Move (.fork (.error text))
        { process with
          stderr := process.stderr ++ "fork: " ++ text ++ "\n"
          point := .exited 1 }
  | before (here : process.point = .clockBefore) :
      Move .main ({ process with point := .fork (timespec process.now) }.note .before)
  | reaped (t0 : Timespec) (pid : Nat) (here : process.point = .waitpid t0 pid)
      (exited : ⟨pid, true⟩ ∈ process.children) :
      Move .main
        ({ process with
          point := .clockAfter t0
          children := process.children.erase ⟨pid, true⟩ }.note .reaped)
  | after (t0 : Timespec) (sample : Int64) (here : process.point = .clockAfter t0)
      (elapsed : elapsedNs t0 (timespec process.now) = some sample) :
      Move .main
        (({ process with samplesNs := process.samplesNs ++ [sample] }.note .after).loopHead
          qsort iterations)
  | exited (pid : Nat) (alive : ⟨pid, false⟩ ∈ process.children) :
      Move (.child pid)
        ({ process with
          children := process.children.map fun (child : Child) =>
            if child.pid = pid then ⟨pid, true⟩ else child }.note .exited)
  | passed (ns : Nat) (fits : process.now + ns < 2 ^ 63) :
      Move (.pass ns) { process with now := process.now + ns }

variable {qsort iterations process}

theorem main_move {next : Process} (stepped : process.main qsort iterations = some next) :
    process.Move qsort iterations .main next := by
  unfold main at stepped
  split at stepped
  · rename_i here
    cases Option.some.inj stepped
    exact .before here
  · rename_i t0 pid here
    split at stepped
    · rename_i exited
      cases Option.some.inj stepped
      exact .reaped t0 pid here exited
    · cases stepped
  · rename_i t0 here
    obtain ⟨sample, elapsed, rfl⟩ := Option.map_eq_some_iff.mp stepped
    exact .after t0 sample here elapsed
  · cases stepped

theorem fork_move {answer : Except String Nat} {next : Process}
    (stepped : process.fork answer = some next) :
    process.Move qsort iterations (.fork answer) next := by
  unfold fork at stepped
  split at stepped
  · rename_i t0 here
    cases answer with
    | error text =>
        cases Option.some.inj stepped
        exact .unforked t0 text here
    | ok pid =>
        dsimp only at stepped
        split at stepped
        · rename_i numbered
          cases Option.some.inj stepped
          exact .forked t0 pid here numbered.1 numbered.2
        · cases stepped
  · cases stepped

theorem malloc_move {granted : Bool} {next : Process}
    (stepped : process.malloc qsort iterations granted = some next) :
    process.Move qsort iterations (.malloc granted) next := by
  unfold malloc at stepped
  split at stepped
  · rename_i here
    cases granted with
    | false =>
        cases Option.some.inj stepped
        exact .refused here
    | true =>
        simp only [if_true] at stepped
        split at stepped
        · rename_i nonneg
          cases Option.some.inj stepped
          exact .granted here nonneg
        · cases stepped
  · cases stepped

theorem act_move {label : Label} {next : Process}
    (stepped : process.act qsort iterations label = some next) :
    process.Move qsort iterations label next := by
  cases label with
  | malloc granted => exact malloc_move stepped
  | fork answer => exact fork_move stepped
  | main => exact main_move stepped
  | child pid =>
      simp only [act, child] at stepped
      split at stepped
      · rename_i alive
        cases Option.some.inj stepped
        exact .exited pid alive
      · cases stepped
  | pass ns =>
      simp only [act, pass] at stepped
      split at stepped
      · rename_i fits
        cases Option.some.inj stepped
        exact .passed ns fits
      · cases stepped

/-- The loop goes on, or the program has come to its end with the same samples
and children. -/
theorem loopHead_cases (qsort : Qsort Int64) (iterations : Int) (process : Process) :
    ((process.samplesNs.length : Int) < iterations ∧
        process.loopHead qsort iterations = { process with point := .clockBefore }) ∨
      (iterations ≤ process.samplesNs.length ∧
        ((∃ figures, Percentiles.processCreation qsort process.samplesNs = some figures ∧
            process.loopHead qsort iterations = { process with
              stdout := process.stdout ++
                Reports.processCreation iterations.toNat (printed figures)
              point := .exited 0 }) ∨
          (Percentiles.processCreation qsort process.samplesNs = none ∧
            process.loopHead qsort iterations = { process with point := .undefined }))) := by
  unfold loopHead
  split
  · rename_i more
    exact Or.inl ⟨more, rfl⟩
  · rename_i enough
    refine Or.inr ⟨by omega, ?_⟩
    unfold finish
    cases Percentiles.processCreation qsort process.samplesNs with
    | some figures => exact Or.inl ⟨figures, rfl, rfl⟩
    | none => exact Or.inr ⟨rfl, rfl⟩

end Process

/-! ## Whole passes -/

/-- When the five things happened that make up a pass. -/
structure Pass where
  before : Nat
  forked : Nat
  exited : Nat
  reaped : Nat
  after : Nat

def Pass.events (pass : Pass) : List (Happening × Nat) :=
  [(.before, pass.before), (.forked, pass.forked), (.exited, pass.exited),
    (.reaped, pass.reaped), (.after, pass.after)]

/-- The pass that is under way has come this far. -/
inductive Underway (process : Process) : List (Happening × Nat) → Prop
  | allocating (here : process.point = .malloc) (alone : process.children = []) :
      Underway process []
  | outside (here : process.point = .clockBefore) (alone : process.children = []) :
      Underway process []
  | timed (before : Nat) (here : process.point = .fork (timespec before))
      (alone : process.children = []) : Underway process [(.before, before)]
  | running (before forked pid : Nat) (here : process.point = .waitpid (timespec before) pid)
      (child : process.children = [⟨pid, false⟩]) :
      Underway process [(.before, before), (.forked, forked)]
  | zombie (before forked exited pid : Nat)
      (here : process.point = .waitpid (timespec before) pid)
      (child : process.children = [⟨pid, true⟩]) :
      Underway process [(.before, before), (.forked, forked), (.exited, exited)]
  | reaped (before forked exited reaped : Nat)
      (here : process.point = .clockAfter (timespec before))
      (alone : process.children = []) :
      Underway process
        [(.before, before), (.forked, forked), (.exited, exited), (.reaped, reaped)]
  | closed (current : List (Happening × Nat)) (ended : process.ended)
      (alone : process.children = []) (begun : current.map Prod.fst <+: [.before]) :
      Underway process current

/-- The log runs forward up to the present. -/
structure Timed (process : Process) : Prop where
  ordered : (process.log.map Prod.snd).Pairwise (· ≤ ·)
  past : ∀ entry ∈ process.log, entry.2 ≤ process.now
  fits : process.now < 2 ^ 63

/-- The samples are the durations of the passes in the log, and the last part
of the log is the pass that is under way. -/
structure Ledger (process : Process) (passes : List Pass)
    (current : List (Happening × Nat)) : Prop where
  timed : Timed process
  log : process.log = passes.flatMap Pass.events ++ current
  samples : process.samplesNs.map Int64.toInt =
    passes.map fun pass => (pass.after : Int) - pass.before
  underway : Underway process current

section Steps

variable {process next : Process} {passes : List Pass} {current : List (Happening × Nat)}

theorem timed_noted (timed : Timed process) (happening : Happening)
    (log : next.log = process.log ++ [(happening, process.now)])
    (now : next.now = process.now) : Timed next where
  ordered := by
    rw [log, List.map_append, List.pairwise_append]
    refine ⟨timed.ordered, List.pairwise_singleton _ _, ?_⟩
    intro earlier member latest last
    obtain ⟨entry, logged, rfl⟩ := List.mem_map.mp member
    rw [List.map_singleton, List.mem_singleton] at last
    exact last ▸ timed.past entry logged
  past := by
    intro entry member
    rw [log, List.mem_append, List.mem_singleton] at member
    rw [now]
    rcases member with earlier | rfl
    · exact timed.past entry earlier
    · exact le_refl process.now
  fits := now ▸ timed.fits

theorem timed_kept (timed : Timed process) (log : next.log = process.log)
    (later : process.now ≤ next.now) (fits : next.now < 2 ^ 63) : Timed next where
  ordered := log ▸ timed.ordered
  past entry member := (timed.past entry (log ▸ member)).trans later
  fits := fits

/-- One more thing has happened in the pass that is under way. -/
theorem ledger_noted (ledger : Ledger process passes current) (happening : Happening)
    (log : next.log = process.log ++ [(happening, process.now)])
    (now : next.now = process.now) (samples : next.samplesNs = process.samplesNs)
    (underway : Underway next (current ++ [(happening, process.now)])) :
    Ledger next passes (current ++ [(happening, process.now)]) where
  timed := timed_noted ledger.timed happening log now
  log := by rw [log, ledger.log, List.append_assoc]
  samples := samples ▸ ledger.samples
  underway := underway

theorem ledger_kept (ledger : Ledger process passes current) (log : next.log = process.log)
    (later : process.now ≤ next.now) (fits : next.now < 2 ^ 63)
    (samples : next.samplesNs = process.samplesNs) (underway : Underway next current) :
    Ledger next passes current where
  timed := timed_kept ledger.timed log later fits
  log := log.trans ledger.log
  samples := samples ▸ ledger.samples
  underway := underway

variable {qsort : Qsort Int64} {iterations : Int}

/-- Between two passes nothing is under way, whichever way the loop goes. -/
theorem ledger_loopHead (timed : Timed process) (log : process.log = passes.flatMap Pass.events)
    (samples : process.samplesNs.map Int64.toInt =
      passes.map fun pass => (pass.after : Int) - pass.before)
    (alone : process.children = []) :
    Ledger (process.loopHead qsort iterations) passes [] := by
  rcases process.loopHead_cases qsort iterations with
    ⟨-, goes⟩ | ⟨-, ⟨figures, -, goes⟩ | ⟨-, goes⟩⟩
  · rw [goes]
    exact ⟨timed_kept timed rfl (le_refl _) timed.fits, by simp [log], samples,
      .outside rfl alone⟩
  · rw [goes]
    exact ⟨timed_kept timed rfl (le_refl _) timed.fits, by simp [log], samples,
      .closed [] rfl alone List.nil_prefix⟩
  · rw [goes]
    exact ⟨timed_kept timed rfl (le_refl _) timed.fits, by simp [log], samples,
      .closed [] rfl alone List.nil_prefix⟩

/-- A point of `main` outside its calls leaves nothing else to be under way. -/
theorem underway_passed (ns : Nat) (underway : Underway process current) :
    Underway { process with now := process.now + ns } current := by
  cases underway with
  | allocating here alone => exact .allocating here alone
  | outside here alone => exact .outside here alone
  | timed before here alone => exact .timed before here alone
  | running before forked pid here child => exact .running before forked pid here child
  | zombie before forked exited pid here child =>
      exact .zombie before forked exited pid here child
  | reaped before forked exited reaped here alone =>
      exact .reaped before forked exited reaped here alone
  | closed current ended alone begun => exact .closed current ended alone begun

/-! ## What is under way at a point -/

theorem underway_at_fork {t0 : Timespec} (underway : Underway process current)
    (here : process.point = .fork t0) :
    ∃ before, t0 = timespec before ∧ current = [(.before, before)] ∧ process.children = [] := by
  cases underway with
  | timed before there alone =>
      cases here.symm.trans there
      exact ⟨before, rfl, rfl, alone⟩
  | closed _ ended _ _ => simp [Process.ended, here] at ended
  | _ => rename_i there _; cases here.symm.trans there

theorem underway_at_waitpid {t0 : Timespec} {pid : Nat} (underway : Underway process current)
    (here : process.point = .waitpid t0 pid) :
    ∃ before forked, t0 = timespec before ∧
      ((process.children = [⟨pid, false⟩] ∧
          current = [(.before, before), (.forked, forked)]) ∨
        ∃ exited, process.children = [⟨pid, true⟩] ∧
          current = [(.before, before), (.forked, forked), (.exited, exited)]) := by
  cases underway with
  | running before forked pid there child =>
      cases here.symm.trans there
      exact ⟨before, forked, rfl, Or.inl ⟨child, rfl⟩⟩
  | zombie before forked exited pid there child =>
      cases here.symm.trans there
      exact ⟨before, forked, rfl, Or.inr ⟨exited, child, rfl⟩⟩
  | closed _ ended _ _ => simp [Process.ended, here] at ended
  | _ => rename_i there _; cases here.symm.trans there

theorem underway_at_clockAfter {t0 : Timespec} (underway : Underway process current)
    (here : process.point = .clockAfter t0) :
    ∃ before forked exited reaped, t0 = timespec before ∧ process.children = [] ∧
      current =
        [(.before, before), (.forked, forked), (.exited, exited), (.reaped, reaped)] := by
  cases underway with
  | reaped before forked exited reaped there alone =>
      cases here.symm.trans there
      exact ⟨before, forked, exited, reaped, rfl, alone, rfl⟩
  | closed _ ended _ _ => simp [Process.ended, here] at ended
  | _ => rename_i there _; cases here.symm.trans there

theorem underway_outside (underway : Underway process current)
    (here : process.point = .malloc ∨ process.point = .clockBefore) :
    current = [] ∧ process.children = [] := by
  cases underway with
  | allocating _ alone => exact ⟨rfl, alone⟩
  | outside _ alone => exact ⟨rfl, alone⟩
  | closed _ ended _ _ => rcases here with here | here <;> simp [Process.ended, here] at ended
  | _ => rename_i there _; rcases here with here | here <;> cases here.symm.trans there

/-- A child that lives is the one that `main` waits for. -/
theorem underway_alive {pid : Nat} (underway : Underway process current)
    (alive : ⟨pid, false⟩ ∈ process.children) :
    ∃ before forked, process.point = .waitpid (timespec before) pid ∧
      process.children = [⟨pid, false⟩] ∧
        current = [(.before, before), (.forked, forked)] := by
  cases underway with
  | running before forked other here child =>
      rw [child, List.mem_singleton] at alive
      cases alive
      exact ⟨before, forked, here, child, rfl⟩
  | zombie before forked exited other _ child =>
      rw [child, List.mem_singleton] at alive
      cases alive
  | closed _ _ alone _ => rw [alone] at alive; cases alive
  | _ => rename_i alone; rw [alone] at alive; cases alive

theorem ledger_step {label : Label} (ledger : Ledger process passes current)
    (stepped : (machine qsort iterations).step process label = some next) :
    ∃ passes current, Ledger next passes current := by
  cases Process.act_move stepped with
  | granted here nonneg =>
      obtain ⟨rfl, alone⟩ := underway_outside ledger.underway (Or.inl here)
      exact ⟨passes, [], ledger_loopHead ledger.timed
        (ledger.log.trans (List.append_nil _)) ledger.samples alone⟩
  | refused here =>
      obtain ⟨rfl, alone⟩ := underway_outside ledger.underway (Or.inl here)
      exact ⟨passes, [], ledger_kept ledger rfl (le_refl _) ledger.timed.fits rfl
        (.closed [] rfl alone List.nil_prefix)⟩
  | forked t0 pid here positive fresh =>
      obtain ⟨before, rfl, rfl, alone⟩ := underway_at_fork ledger.underway here
      exact ⟨passes, _, ledger_noted ledger .forked rfl rfl rfl
        (.running before process.now pid rfl (congrArg (List.cons _) alone))⟩
  | unforked t0 text here =>
      obtain ⟨before, rfl, rfl, alone⟩ := underway_at_fork ledger.underway here
      exact ⟨passes, _, ledger_kept ledger rfl (le_refl _) ledger.timed.fits rfl
        (.closed _ rfl alone (List.prefix_refl _))⟩
  | before here =>
      obtain ⟨rfl, alone⟩ := underway_outside ledger.underway (Or.inr here)
      exact ⟨passes, _, ledger_noted ledger .before rfl rfl rfl (.timed process.now rfl alone)⟩
  | reaped t0 pid here exited =>
      obtain ⟨before, forked, rfl, ⟨child, rfl⟩ | ⟨died, child, rfl⟩⟩ :=
        underway_at_waitpid ledger.underway here
      · rw [child, List.mem_singleton] at exited
        cases exited
      · refine ⟨passes, _, ledger_noted ledger .reaped rfl rfl rfl
          (.reaped before forked died process.now rfl ?_)⟩
        change process.children.erase _ = []
        rw [child, List.erase_cons_head]
  | after t0 sample here elapsed =>
      obtain ⟨before, forked, exited, reaped, rfl, alone, rfl⟩ :=
        underway_at_clockAfter ledger.underway here
      have past : before ≤ process.now :=
        ledger.timed.past (.before, before) (by simp [ledger.log])
      obtain ⟨exact, same, duration⟩ := elapsed_timespec before process.now past ledger.timed.fits
      cases Option.some.inj (elapsed.symm.trans same)
      refine ⟨passes ++ [⟨before, forked, exited, reaped, process.now⟩], [], ?_⟩
      refine ledger_loopHead (timed_noted ledger.timed .after rfl rfl) ?_ ?_ alone
      · simp [Process.note, ledger.log, Pass.events]
      · change (process.samplesNs ++ [sample]).map Int64.toInt = _
        rw [List.map_append, List.map_append, ledger.samples, List.map_singleton, duration]
        rfl
  | exited pid alive =>
      obtain ⟨before, forked, here, child, rfl⟩ := underway_alive ledger.underway alive
      refine ⟨passes, _, ledger_noted ledger .exited rfl rfl rfl
        (.zombie before forked process.now pid here ?_)⟩
      change process.children.map _ = _
      rw [child]
      simp
  | passed ns fits =>
      exact ⟨passes, current, ledger_kept ledger rfl (Nat.le_add_right _ _) fits rfl
        (underway_passed ns ledger.underway)⟩

end Steps

/-! ## What is printed -/

section Report

variable (qsort : Qsort Int64) (iterations : Int)

inductive Outcome (process : Process) : Prop
  | allocating (here : process.point = .malloc) (unmeasured : process.samplesNs = [])
      (nothing : process.stdout = "")
  | measuring (going : process.point ≠ .malloc ∧ process.ended = false)
      (more : (process.samplesNs.length : Int) < iterations) (nothing : process.stdout = "")
  | reported (figures : Figures) (here : process.point = .exited 0)
      (all : (process.samplesNs.length : Int) = iterations)
      (measured : Percentiles.processCreation qsort process.samplesNs = some figures)
      (text : process.stdout = Reports.processCreation iterations.toNat (printed figures))
  | failed (here : process.point = .exited 1) (nothing : process.stdout = "")
  | undefined (here : process.point = .undefined) (empty : iterations = 0)

variable {qsort iterations} {process next : Process}

/-- With no more samples than asked for, the loop goes on or reports. -/
theorem outcome_loopHead (nothing : process.stdout = "") (nonneg : 0 ≤ iterations)
    (atMost : (process.samplesNs.length : Int) ≤ iterations) :
    Outcome qsort iterations (process.loopHead qsort iterations) := by
  rcases process.loopHead_cases qsort iterations with
    ⟨more, goes⟩ | ⟨enough, ⟨figures, measured, goes⟩ | ⟨unmeasured, goes⟩⟩
  · rw [goes]
    exact .measuring ⟨nofun, rfl⟩ more nothing
  · rw [goes]
    refine .reported figures rfl (le_antisymm atMost enough) measured ?_
    change process.stdout ++ _ = _
    rw [nothing, String.empty_append]
  · rw [goes]
    refine .undefined rfl ?_
    by_contra positive
    have measured : process.samplesNs ≠ [] := by
      intro empty
      rw [empty] at enough
      exact positive (le_antisymm enough nonneg)
    obtain ⟨figures, reported, -⟩ := Percentiles.report_some qsort process.samplesNs measured
    cases unmeasured.symm.trans reported

def Process.going (process : Process) : Prop :=
  process.point ≠ .malloc ∧ process.ended = false

theorem outcome_going (outcome : Outcome qsort iterations process) (going : process.going) :
    (process.samplesNs.length : Int) < iterations ∧ process.stdout = "" := by
  cases outcome with
  | allocating here _ _ => exact absurd here going.1
  | measuring _ more nothing => exact ⟨more, nothing⟩
  | reported _ here _ _ _ => simp [Process.going, Process.ended, here] at going
  | failed here _ => simp [Process.going, Process.ended, here] at going
  | undefined here _ => simp [Process.going, Process.ended, here] at going

/-- A step inside the loop that takes no sample. -/
theorem outcome_moved (outcome : Outcome qsort iterations process) (going : process.going)
    (goes : next.going) (samples : next.samplesNs = process.samplesNs)
    (stdout : next.stdout = process.stdout) : Outcome qsort iterations next := by
  obtain ⟨more, nothing⟩ := outcome_going outcome going
  exact .measuring goes (samples ▸ more) (stdout.trans nothing)

theorem outcome_kept (outcome : Outcome qsort iterations process)
    (point : next.point = process.point) (samples : next.samplesNs = process.samplesNs)
    (stdout : next.stdout = process.stdout) : Outcome qsort iterations next := by
  have ended : next.ended = process.ended := by unfold Process.ended; rw [point]
  cases outcome with
  | allocating here unmeasured nothing =>
      exact .allocating (point.trans here) (samples.trans unmeasured) (stdout.trans nothing)
  | measuring going more nothing =>
      exact .measuring ⟨fun here => going.1 (point.symm.trans here), ended.trans going.2⟩
        (samples ▸ more) (stdout.trans nothing)
  | reported figures here all measured text =>
      exact .reported figures (point.trans here) (samples ▸ all) (samples ▸ measured)
        (stdout.trans text)
  | failed here nothing => exact .failed (point.trans here) (stdout.trans nothing)
  | undefined here empty => exact .undefined (point.trans here) empty

theorem going_of_point {point : Point} (here : process.point = point)
    (inside : ({ process with point := point } : Process).going) : process.going := by
  rw [← here] at inside
  exact inside

theorem outcome_allocating (outcome : Outcome qsort iterations process)
    (here : process.point = .malloc) : process.samplesNs = [] ∧ process.stdout = "" := by
  cases outcome with
  | allocating _ unmeasured nothing => exact ⟨unmeasured, nothing⟩
  | measuring going _ _ => exact absurd here going.1
  | reported _ there _ _ _ => cases here.symm.trans there
  | failed there _ => cases here.symm.trans there
  | undefined there _ => cases here.symm.trans there

theorem outcome_step {label : Label} (outcome : Outcome qsort iterations process)
    (stepped : (machine qsort iterations).step process label = some next) :
    Outcome qsort iterations next := by
  cases Process.act_move stepped with
  | granted here nonneg =>
      obtain ⟨unmeasured, nothing⟩ := outcome_allocating outcome here
      exact outcome_loopHead nothing nonneg (by rw [unmeasured]; exact nonneg)
  | refused here => exact .failed rfl (outcome_allocating outcome here).2
  | forked t0 pid here positive fresh =>
      exact outcome_moved outcome (going_of_point here ⟨nofun, rfl⟩) ⟨nofun, rfl⟩ rfl rfl
  | unforked t0 text here =>
      exact .failed rfl (outcome_going outcome (going_of_point here ⟨nofun, rfl⟩)).2
  | before here =>
      exact outcome_moved outcome (going_of_point here ⟨nofun, rfl⟩) ⟨nofun, rfl⟩ rfl rfl
  | reaped t0 pid here exited =>
      exact outcome_moved outcome (going_of_point here ⟨nofun, rfl⟩) ⟨nofun, rfl⟩ rfl rfl
  | after t0 sample here elapsed =>
      obtain ⟨more, nothing⟩ := outcome_going outcome (going_of_point here ⟨nofun, rfl⟩)
      refine outcome_loopHead nothing (by omega) ?_
      simp only [Process.note, List.length_append, List.length_singleton]
      omega
  | exited pid alive => exact outcome_kept outcome rfl rfl rfl
  | passed ns fits => exact outcome_kept outcome rfl rfl rfl

/-- The process is done, and what it has printed is about its samples. -/
structure Reported (qsort : Qsort Int64) (iterations : Int) (process : Process) : Prop where
  childless : process.children = []
  outcome :
    (process.point = .exited 0 ∧ (process.samplesNs.length : Int) = iterations ∧
        ∃ figures, Percentiles.processCreation qsort process.samplesNs = some figures ∧
          Percentiles.Faithful process.samplesNs figures ∧
          process.stdout = Reports.processCreation iterations.toNat (printed figures)) ∨
      (process.point = .exited 1 ∧ process.stdout = "")

/-- The samples are the durations of whole passes, in each of which a child is
forked, exits and is reaped. -/
structure Measured (process : Process) : Prop where
  passes : ∃ (passes : List Pass) (current : List (Happening × Nat)),
    process.log = passes.flatMap Pass.events ++ current ∧
      current.map Prod.fst <+: [.before, .forked, .exited, .reaped] ∧
        process.samplesNs.map Int64.toInt =
          passes.map fun pass => (pass.after : Int) - pass.before
  ordered : (process.log.map Prod.snd).Pairwise (· ≤ ·)
  oneChild : process.children.length ≤ 1

theorem underway_kinds {current : List (Happening × Nat)} (underway : Underway process current) :
    current.map Prod.fst <+: [.before, .forked, .exited, .reaped] := by
  cases underway with
  | closed _ _ _ begun => exact begun.trans ⟨_, rfl⟩
  | _ => exact ⟨_, rfl⟩

theorem underway_children {current : List (Happening × Nat)}
    (underway : Underway process current) :
    process.children.length ≤ 1 ∧ (process.ended = true → process.children = []) := by
  cases underway with
  | running _ _ _ here child => simp [child, Process.ended, here]
  | zombie _ _ _ _ here child => simp [child, Process.ended, here]
  | closed _ _ alone _ => simp [alone]
  | _ => rename_i alone; simp [alone]

variable (qsort iterations)

theorem reached (now : Nat) (fits : now < 2 ^ 63) (labels : List Label) (process : Process)
    (run : (machine qsort iterations).exec labels (.start now) = some process) :
    (∃ passes current, Ledger process passes current) ∧ Outcome qsort iterations process := by
  refine (machine qsort iterations).invariant_of_exec
    (fun process => (∃ passes current, Ledger process passes current) ∧
      Outcome qsort iterations process) ?_ labels (.start now) process ⟨⟨[], [], ?_⟩, ?_⟩ run
  · rintro process label next ⟨⟨passes, current, ledger⟩, outcome⟩ stepped
    exact ⟨ledger_step ledger stepped, outcome_step outcome stepped⟩
  · exact ⟨⟨List.Pairwise.nil, List.forall_mem_nil _, fits⟩, rfl, rfl, .allocating rfl rfl⟩
  · exact .allocating rfl rfl rfl

theorem measured_of_run (now : Nat) (fits : now < 2 ^ 63) (labels : List Label)
    (process : Process)
    (run : (machine qsort iterations).exec labels (.start now) = some process) :
    Measured process := by
  obtain ⟨⟨passes, current, ledger⟩, -⟩ := reached qsort iterations now fits labels process run
  exact ⟨⟨passes, current, ledger.log, underway_kinds ledger.underway, ledger.samples⟩,
    ledger.timed.ordered, (underway_children ledger.underway).1⟩

theorem reported_of_run (positive : 0 < iterations) (now : Nat) (fits : now < 2 ^ 63)
    (labels : List Label) (process : Process)
    (run : (machine qsort iterations).exec labels (.start now) = some process)
    (ended : process.ended = true) : Reported qsort iterations process := by
  obtain ⟨⟨passes, current, ledger⟩, outcome⟩ :=
    reached qsort iterations now fits labels process run
  refine ⟨(underway_children ledger.underway).2 ended, ?_⟩
  cases outcome with
  | allocating here _ _ => simp [Process.ended, here] at ended
  | measuring going _ _ => exact absurd (ended.symm.trans going.2) (by simp)
  | reported figures here all measured text =>
      have some : process.samplesNs ≠ [] := by
        rintro empty
        rw [empty] at all
        exact absurd all (by simpa using positive.ne)
      obtain ⟨figures', reported, faithful⟩ :=
        Percentiles.report_some qsort process.samplesNs some
      cases Option.some.inj (measured.symm.trans reported)
      exact Or.inl ⟨here, all, figures, reported, faithful, text⟩
  | failed here nothing => exact Or.inr ⟨here, nothing⟩
  | undefined here empty => exact absurd empty positive.ne'

/-- However clock, kernel and children are scheduled, a sample is the time from
before a fork until after the only child has been reaped, and the figures
printed are those of the samples. -/
theorem passes_measured (positive : 0 < iterations) (now : Nat) (fits : now < 2 ^ 63)
    (labels : List Label) (process : Process)
    (run : (machine qsort iterations).exec labels (.start now) = some process) :
    Measured process ∧ (process.ended = true → Reported qsort iterations process) :=
  ⟨measured_of_run qsort iterations now fits labels process run,
    reported_of_run qsort iterations positive now fits labels process run⟩

end Report

/-- One pass that takes two microseconds. -/
def onePass : List Label :=
  [.malloc true, .main, .fork (.ok 7), .pass 2000, .child 7, .main, .main]

theorem onePass_runs :
    ∃ process, (machine (.insertion Int64) 1).exec onePass (.start 1000) = some process := by
  rw [← Option.isSome_iff_exists]
  decide +kernel

theorem passes_measured_onePass : ∃ process,
    (machine (.insertion Int64) 1).exec onePass (.start 1000) = some process ∧
      Measured process ∧ (process.ended = true → Reported (.insertion Int64) 1 process) := by
  obtain ⟨process, run⟩ := onePass_runs
  exact ⟨process, run,
    passes_measured (.insertion Int64) 1 (by decide) 1000 (by decide) onePass process run⟩

/-! ## How long it takes -/

section Progress

variable (iterations : Int)

/-- What still has to happen besides time going by. -/
def Process.left (process : Process) : Nat :=
  let passes := 5 * (iterations.toNat - process.samplesNs.length)
  match process.point with
  | .malloc => 5 * iterations.toNat + 1
  | .clockBefore => passes
  | .fork _ => passes - 1
  | .waitpid _ _ => passes - 3 + process.children.countP fun child => !child.exited
  | .clockAfter _ => passes - 4
  | _ => 0

def Label.work : Label → Bool
  | .pass _ => false
  | _ => true

/-- The kernel grants what `main` asks for. -/
def Label.granted : Label → Bool
  | .malloc granted => granted
  | .fork (.error _) => false
  | _ => true

variable {iterations} {qsort : Qsort Int64} {process next : Process}

theorem left_loopHead (qsort : Qsort Int64) (iterations : Int) (process : Process) :
    (process.loopHead qsort iterations).left iterations ≤
      5 * (iterations.toNat - process.samplesNs.length) := by
  rcases process.loopHead_cases qsort iterations with
    ⟨-, goes⟩ | ⟨-, ⟨figures, -, goes⟩ | ⟨-, goes⟩⟩
  · rw [goes]
    exact le_refl _
  · rw [goes]
    exact Nat.zero_le _
  · rw [goes]
    exact Nat.zero_le _

/-- In the loop at least one pass is not complete. -/
theorem passes_left (outcome : Outcome qsort iterations process) {point : Point}
    (here : process.point = point)
    (inside : ({ process with point := point } : Process).going) :
    0 < iterations.toNat - process.samplesNs.length := by
  have more := (outcome_going outcome (going_of_point here inside)).1
  omega

theorem left_step {passes : List Pass} {current : List (Happening × Nat)} {label : Label}
    (ledger : Ledger process passes current) (outcome : Outcome qsort iterations process)
    (stepped : (machine qsort iterations).step process label = some next) :
    next.left iterations + (if label.work then 1 else 0) ≤ process.left iterations := by
  cases Process.act_move stepped with
  | granted here nonneg =>
      have less := left_loopHead qsort iterations process
      simp only [Process.left, here, Label.work, if_true] at less ⊢
      omega
  | refused here => simp [Process.left, here, Label.work]
  | forked t0 pid here positive fresh =>
      have room := passes_left outcome here ⟨nofun, rfl⟩
      obtain ⟨before, -, -, alone⟩ := underway_at_fork ledger.underway here
      simp only [Process.left, Process.note, here, Label.work, if_true, alone,
        List.countP_singleton, Bool.not_false]
      omega
  | unforked t0 text here =>
      have room := passes_left outcome here ⟨nofun, rfl⟩
      simp only [Process.left, here, Label.work, if_true]
      omega
  | before here =>
      have room := passes_left outcome here ⟨nofun, rfl⟩
      simp only [Process.left, Process.note, here, Label.work, if_true]
      omega
  | reaped t0 pid here exited =>
      have room := passes_left outcome here ⟨nofun, rfl⟩
      simp only [Process.left, Process.note, here, Label.work, if_true]
      omega
  | after t0 sample here elapsed =>
      have room := passes_left outcome here ⟨nofun, rfl⟩
      have less := left_loopHead qsort iterations
        ({ process with samplesNs := process.samplesNs ++ [sample] }.note .after)
      simp only [Process.note, List.length_append, List.length_singleton] at less
      simp only [Label.work, if_true]
      refine (Nat.add_le_add_right less 1).trans ?_
      simp only [Process.left, here]
      omega
  | exited pid alive =>
      obtain ⟨before, forked, here, child, -⟩ := underway_alive ledger.underway alive
      simp [Process.left, Process.note, here, Label.work, child]
  | passed ns fits => exact le_refl _

/-- Unless `main` has ended, it or a child can go on. -/
theorem goes_on (qsort : Qsort Int64) {passes : List Pass}
    {current : List (Happening × Nat)} (ledger : Ledger process passes current)
    (nonneg : 0 ≤ iterations) (going : process.ended = false) :
    ∃ label, label.granted = true ∧ label.work = true ∧
      ((machine qsort iterations).step process label).isSome := by
  cases ledger.underway with
  | allocating here alone =>
      refine ⟨.malloc true, rfl, rfl, ?_⟩
      simp [machine, Process.act, Process.malloc, here, nonneg]
  | outside here alone =>
      refine ⟨.main, rfl, rfl, ?_⟩
      simp [machine, Process.act, Process.main, here]
  | timed before here alone =>
      refine ⟨.fork (.ok 1), rfl, rfl, ?_⟩
      simp [machine, Process.act, Process.fork, here, alone]
  | running before forked pid here child =>
      refine ⟨.child pid, rfl, rfl, ?_⟩
      simp [machine, Process.act, Process.child, child]
  | zombie before forked exited pid here child =>
      refine ⟨.main, rfl, rfl, ?_⟩
      simp [machine, Process.act, Process.main, here, child]
  | reaped before forked exited reaped here alone =>
      have past : before ≤ process.now :=
        ledger.timed.past (.before, before) (by simp [ledger.log])
      obtain ⟨sample, elapsed, -⟩ := elapsed_timespec before process.now past ledger.timed.fits
      refine ⟨.main, rfl, rfl, ?_⟩
      simp [machine, Process.act, Process.main, here, elapsed]
  | closed _ ended _ _ => exact absurd (ended.symm.trans going) (by simp)

theorem loopHead_unfailed : (process.loopHead qsort iterations).point ≠ .exited 1 := by
  rcases process.loopHead_cases qsort iterations with
    ⟨-, goes⟩ | ⟨-, ⟨figures, -, goes⟩ | ⟨-, goes⟩⟩
  · simp [goes]
  · simp [goes]
  · simp [goes]

/-- Only a call that the kernel refuses ends `main` with a failure. -/
theorem granted_unfailed {label : Label} (unfailed : process.point ≠ .exited 1)
    (granted : label.granted = true)
    (stepped : (machine qsort iterations).step process label = some next) :
    next.point ≠ .exited 1 := by
  cases Process.act_move stepped with
  | granted _ _ => exact loopHead_unfailed
  | refused _ => cases granted
  | forked _ _ _ _ _ => exact nofun
  | unforked _ _ _ => cases granted
  | before _ => exact nofun
  | reaped _ _ _ _ => exact nofun
  | after _ _ _ _ => exact loopHead_unfailed
  | exited _ _ => exact unfailed
  | passed _ _ => exact unfailed

theorem reaches_report (qsort : Qsort Int64) (positive : 0 < iterations)
    (now : Nat) (fits : now < 2 ^ 63) (labels : List Label) (process : Process)
    (run : (machine qsort iterations).exec labels (.start now) = some process)
    (unfailed : process.point ≠ .exited 1) :
    ∃ more final, (∀ label ∈ more, label.granted = true) ∧
      (machine qsort iterations).exec more process = some final ∧ final.point = .exited 0 := by
  refine (machine qsort iterations).reaches
    (fun process => ((∃ passes current, Ledger process passes current) ∧
      Outcome qsort iterations process) ∧ process.point ≠ .exited 1)
    (Process.left iterations) (fun process => process.point = .exited 0)
    (fun label => label.granted = true) ?_ process
    ⟨reached qsort iterations now fits labels process run, unfailed⟩
  rintro process ⟨⟨⟨passes, current, ledger⟩, outcome⟩, unfailed⟩ unreported
  have going : process.ended = false := by
    cases outcome with
    | allocating here _ _ => simp [Process.ended, here]
    | measuring going _ _ => exact going.2
    | reported _ here _ _ _ => exact absurd here unreported
    | failed here _ => exact absurd here unfailed
    | undefined _ empty => exact absurd empty positive.ne'
  obtain ⟨label, granted, work, goes⟩ := goes_on qsort ledger positive.le going
  obtain ⟨next, stepped⟩ := Option.isSome_iff_exists.mp goes
  have less := left_step ledger outcome stepped
  rw [work, if_pos rfl] at less
  exact ⟨label, next, granted, stepped, ⟨⟨ledger_step ledger stepped,
    outcome_step outcome stepped⟩, granted_unfailed unfailed granted stepped⟩, less⟩

/-- `main`, its children and the kernel take at most five steps for each pass
and one more, and as long as nothing was refused they can bring the program to
its report. -/
theorem report_in_reach (qsort : Qsort Int64) (positive : 0 < iterations)
    (now : Nat) (fits : now < 2 ^ 63) (labels : List Label) (process : Process)
    (run : (machine qsort iterations).exec labels (.start now) = some process) :
    labels.countP Label.work ≤ 5 * iterations.toNat + 1 ∧
      (process.point ≠ .exited 1 → ∃ more final, (∀ label ∈ more, label.granted = true) ∧
        (machine qsort iterations).exec more process = some final ∧
          final.point = .exited 0) := by
  refine ⟨?_, reaches_report qsort positive now fits labels process run⟩
  have ready := reached qsort iterations now fits
  obtain ⟨less, -, within⟩ := (machine qsort iterations).marked_of_rank
    (fun bound process => ((∃ passes current, Ledger process passes current) ∧
      Outcome qsort iterations process) ∧ process.left iterations = bound)
    Label.work (fun _ => 0) (fun bound process label next ranked stepped => by
      obtain ⟨⟨⟨passes, current, ledger⟩, outcome⟩, rfl⟩ := ranked
      exact ⟨_, ⟨⟨ledger_step ledger stepped, outcome_step outcome stepped⟩, rfl⟩,
        left_step ledger outcome stepped⟩)
    labels _ (.start now) process ⟨ready [] _ rfl, rfl⟩ run
  have free : (labels.map fun _ => 0).sum = 0 := by simp
  rw [free] at within
  simp only [Process.left, Process.start] at within
  omega

end Progress

theorem report_in_reach_onePass : ∃ process,
    (machine (.insertion Int64) 1).exec onePass (.start 1000) = some process ∧
      onePass.countP Label.work ≤ 5 * Int.toNat 1 + 1 ∧
        (process.point ≠ .exited 1 →
          ∃ more final, (∀ label ∈ more, label.granted = true) ∧
            (machine (.insertion Int64) 1).exec more process = some final ∧
              final.point = .exited 0) := by
  obtain ⟨process, run⟩ := onePass_runs
  exact ⟨process, run,
    report_in_reach (.insertion Int64) (by decide) 1000 (by decide) onePass process run⟩

end KernelSprint.ProcessCreation

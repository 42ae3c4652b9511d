import KernelSprint.Benchmark.Percentiles
import KernelSprint.Lib.Word64

/-!
# The deadlines of the latency probe

`elapsed_ns`, `ts_add_ns` and the probe loop of `scheduler_latency.c`.  `long`
and `time_t` are signed 64-bit words; `none` is an overflow, which C leaves
undefined.
-/

set_option autoImplicit false

namespace KernelSprint.LatencyProbe

open Word64 Ranks

@[ext]
structure Timespec where
  tvSec : Int64
  tvNsec : Int64
  deriving DecidableEq

def elapsedNs (start finish : Timespec) : Option Int64 := do
  let seconds ← sub? finish.tvSec start.tvSec
  let scaled ← mul? seconds 1000000000
  let nanoseconds ← sub? finish.tvNsec start.tvNsec
  add? scaled nanoseconds

/-- The loop of `ts_add_ns`. -/
def carry (ts : Timespec) : Option Timespec :=
  if 1000000000 ≤ ts.tvNsec.toInt then
    match _ : sub? ts.tvNsec 1000000000, add? ts.tvSec 1 with
    | some tvNsec, some tvSec => carry ⟨tvSec, tvNsec⟩
    | _, _ => none
  else
    some ts
termination_by ts.tvNsec.toInt.toNat
decreasing_by
  have less : tvNsec.toInt = ts.tvNsec.toInt - 1000000000 := sub?_eq_some.mp ‹_›
  change tvNsec.toInt.toNat < ts.tvNsec.toInt.toNat
  omega

def tsAddNs (ts : Timespec) (ns : Int64) : Option Timespec := do
  let tvNsec ← add? ts.tvNsec ns
  carry { ts with tvNsec }

/-- The deadline of one sleep and the sample recorded after it. -/
structure Probe where
  target : Timespec
  sampleNs : Int64
  deriving DecidableEq

/-- One pass of the loop; the clock shows `actual` after the sleep. -/
def iteration (intervalUs : Int64) (target actual : Timespec) : Option Probe := do
  let intervalNs ← mul? intervalUs 1000
  let target ← tsAddNs target intervalNs
  let overshootNs ← elapsedNs target actual
  some ⟨target, if overshootNs < 0 then 0 else overshootNs⟩

/-- The probe loop, one pass for each reading of the clock. -/
def probes (intervalUs : Int64) (target : Timespec) : List Timespec → Option (List Probe)
  | [] => some []
  | actual :: rest => do
      let first ← iteration intervalUs target actual
      let later ← probes intervalUs first.target rest
      some (first :: later)

/-- The loop of `main` and the figures that it prints. -/
def main (qsort : Qsort Int64) (intervalUs : Int64) (start : Timespec)
    (actuals : List Timespec) : Option Percentiles.Figures := do
  let taken ← probes intervalUs start actuals
  Percentiles.schedulerLatency qsort (taken.map Probe.sampleNs)

/-! ## Instants -/

/-- The nanoseconds that a time denotes. -/
def Timespec.instant (ts : Timespec) : Int := ts.tvSec.toInt * 1000000000 + ts.tvNsec.toInt

def Timespec.Normalised (ts : Timespec) : Prop :=
  0 ≤ ts.tvNsec.toInt ∧ ts.tvNsec.toInt < 1000000000

instance (ts : Timespec) : Decidable ts.Normalised :=
  inferInstanceAs (Decidable (_ ∧ _))

theorem seconds_of_instant (ts : Timespec) (normalised : ts.Normalised) :
    ts.tvSec.toInt = ts.instant / 1000000000 := by
  obtain ⟨nonneg, below⟩ := normalised
  unfold Timespec.instant
  omega

theorem nanoseconds_of_instant (ts : Timespec) (normalised : ts.Normalised) :
    ts.tvNsec.toInt = ts.instant % 1000000000 := by
  obtain ⟨nonneg, below⟩ := normalised
  unfold Timespec.instant
  omega

/-- A normalised time is fixed by the instant it denotes. -/
theorem normalised_instant_iff (ts : Timespec) (value : Int) :
    ts.Normalised ∧ ts.instant = value ↔
      ts.tvSec.toInt = value / 1000000000 ∧ ts.tvNsec.toInt = value % 1000000000 := by
  constructor
  · rintro ⟨normalised, rfl⟩
    exact ⟨seconds_of_instant ts normalised, nanoseconds_of_instant ts normalised⟩
  · rintro ⟨seconds, nanoseconds⟩
    unfold Timespec.Normalised Timespec.instant
    omega

theorem timespec_eq_iff (first second : Timespec) :
    first = second ↔
      first.tvSec.toInt = second.tvSec.toInt ∧ first.tvNsec.toInt = second.tvNsec.toInt := by
  rw [Timespec.ext_iff, Int64.toInt_inj, Int64.toInt_inj]

theorem exists_normalised (value : Int) (seconds : Fits (value / 1000000000)) :
    ∃ ts : Timespec, ts.Normalised ∧ ts.instant = value := by
  have nanoseconds : Fits (value % 1000000000) := by
    unfold Fits
    omega
  obtain ⟨tvSec, sameSeconds⟩ := exists_toInt.mpr seconds
  obtain ⟨tvNsec, sameNanoseconds⟩ := exists_toInt.mpr nanoseconds
  exact ⟨⟨tvSec, tvNsec⟩,
    (normalised_instant_iff _ value).mpr ⟨sameSeconds, sameNanoseconds⟩⟩

/-! ## The carry loop -/

/-- The loop stops for every input, with the whole seconds moved over, unless
the seconds overflow. -/
theorem carry_eq_some (ts next : Timespec) (nonneg : 0 ≤ ts.tvNsec.toInt) :
    carry ts = some next ↔
      next.tvSec.toInt = ts.tvSec.toInt + ts.tvNsec.toInt / 1000000000 ∧
        next.tvNsec.toInt = ts.tvNsec.toInt % 1000000000 := by
  fun_induction carry ts with
  | case1 ts large tvNsec tvSec taken added ih =>
      have nanoseconds : tvNsec.toInt = ts.tvNsec.toInt - 1000000000 := sub?_eq_some.mp taken
      have seconds : tvSec.toInt = ts.tvSec.toInt + 1 := add?_eq_some.mp added
      dsimp only at ih
      rw [ih (by omega), nanoseconds, seconds]
      constructor
      · rintro ⟨sameSeconds, sameNanoseconds⟩
        omega
      · rintro ⟨sameSeconds, sameNanoseconds⟩
        omega
  | case2 ts large overflow =>
      refine ⟨nofun, ?_⟩
      rintro ⟨seconds, nanoseconds⟩
      have fitsSeconds : Fits (ts.tvSec.toInt + 1) :=
        fits_between (fits_toInt ts.tvSec) (fits_toInt next.tvSec) (by omega) (by omega)
      have fitsNanoseconds : Fits (ts.tvNsec.toInt - 1000000000) :=
        fits_between (fits_toInt next.tvNsec) (fits_toInt ts.tvNsec) (by omega) (by omega)
      obtain ⟨tvSec, added⟩ := exists_toInt.mpr fitsSeconds
      obtain ⟨tvNsec, taken⟩ := exists_toInt.mpr fitsNanoseconds
      exact absurd (add?_eq_some.mpr added)
        (overflow tvNsec tvSec (sub?_eq_some.mpr taken))
  | case3 ts small =>
      rw [Option.some.injEq, timespec_eq_iff]
      omega

/-! ## One operation -/

/-- What `ts_add_ns` has to hold on its way from the instant `before`. -/
structure SumFits (before ns : Int) : Prop where
  nanoseconds : Fits (before % 1000000000 + ns)
  seconds : Fits ((before + ns) / 1000000000)

theorem tsAddNs_eq_some (ts : Timespec) (ns : Int64) (next : Timespec)
    (normalised : ts.Normalised) (nonneg : 0 ≤ ns.toInt) :
    tsAddNs ts ns = some next ↔
      SumFits ts.instant ns.toInt ∧
        next.Normalised ∧ next.instant = ts.instant + ns.toInt := by
  have seconds := seconds_of_instant ts normalised
  have nanoseconds := nanoseconds_of_instant ts normalised
  unfold tsAddNs
  simp only [Option.bind_eq_bind, Option.bind_eq_some_iff, add?_eq_some]
  rw [normalised_instant_iff]
  constructor
  · rintro ⟨tvNsec, added, carried⟩
    rw [carry_eq_some _ _ (by dsimp only; omega)] at carried
    obtain ⟨sameSeconds, sameNanoseconds⟩ := carried
    dsimp only at sameSeconds sameNanoseconds
    have exact : next.tvSec.toInt = (ts.instant + ns.toInt) / 1000000000 := by omega
    have sum : tvNsec.toInt = ts.instant % 1000000000 + ns.toInt := by omega
    exact ⟨⟨sum ▸ fits_toInt tvNsec, exact ▸ fits_toInt next.tvSec⟩, exact, by omega⟩
  · rintro ⟨fits, sameSeconds, sameNanoseconds⟩
    obtain ⟨tvNsec, sum⟩ := exists_toInt.mpr fits.nanoseconds
    refine ⟨tvNsec, by omega, ?_⟩
    rw [carry_eq_some _ _ (by dsimp only; omega)]
    dsimp only
    omega

/-- `ts_add_ns` returns unless a word overflows, and then it is exact. -/
theorem tsAddNs_exact (ts : Timespec) (ns : Int64)
    (normalised : ts.Normalised) (nonneg : 0 ≤ ns.toInt) :
    ((∃ next, tsAddNs ts ns = some next) ↔ SumFits ts.instant ns.toInt) ∧
      ∀ next, tsAddNs ts ns = some next →
        next.Normalised ∧ next.instant = ts.instant + ns.toInt := by
  refine returns_of_exact (fun next => tsAddNs_eq_some ts ns next normalised nonneg) ?_
  exact fun fits => exists_normalised _ fits.seconds

/-- What `elapsed_ns` has to hold between two times, the first one given by its
two parts. -/
structure DifferenceFits (startSec startNsec : Int) (finish : Timespec) : Prop where
  seconds : Fits (finish.tvSec.toInt - startSec)
  scaled : Fits ((finish.tvSec.toInt - startSec) * 1000000000)
  nanoseconds : Fits (finish.tvNsec.toInt - startNsec)
  total : Fits (finish.instant - (startSec * 1000000000 + startNsec))

theorem elapsedNs_eq_some (start finish : Timespec) (elapsed : Int64) :
    elapsedNs start finish = some elapsed ↔
      DifferenceFits start.tvSec.toInt start.tvNsec.toInt finish ∧
        elapsed.toInt = finish.instant - start.instant := by
  have billion : Int64.toInt 1000000000 = 1000000000 := rfl
  have parts : finish.instant - start.instant =
      (finish.tvSec.toInt - start.tvSec.toInt) * 1000000000 +
        (finish.tvNsec.toInt - start.tvNsec.toInt) := by
    unfold Timespec.instant
    omega
  unfold elapsedNs
  simp only [Option.bind_eq_bind, Option.bind_eq_some_iff, add?_eq_some, sub?_eq_some,
    mul?_eq_some, billion]
  constructor
  · rintro ⟨seconds, sameSeconds, scaled, sameScaled, nanoseconds, sameNanoseconds, total⟩
    rw [sameSeconds] at sameScaled
    rw [sameScaled, sameNanoseconds, ← parts] at total
    exact ⟨⟨sameSeconds ▸ fits_toInt seconds, sameScaled ▸ fits_toInt scaled,
      sameNanoseconds ▸ fits_toInt nanoseconds, total ▸ fits_toInt elapsed⟩, total⟩
  · rintro ⟨fits, total⟩
    obtain ⟨seconds, sameSeconds⟩ := exists_toInt.mpr fits.seconds
    obtain ⟨scaled, sameScaled⟩ := exists_toInt.mpr fits.scaled
    obtain ⟨nanoseconds, sameNanoseconds⟩ := exists_toInt.mpr fits.nanoseconds
    refine ⟨seconds, sameSeconds, scaled, ?_, nanoseconds, sameNanoseconds, ?_⟩
    · rw [sameSeconds, sameScaled]
    · rw [sameScaled, sameNanoseconds, ← parts, total]

/-- `elapsed_ns` returns unless a word overflows, and then it is exact,
whichever time is the later one. -/
theorem elapsedNs_exact (start finish : Timespec) :
    ((∃ elapsed, elapsedNs start finish = some elapsed) ↔
        DifferenceFits start.tvSec.toInt start.tvNsec.toInt finish) ∧
      ∀ elapsed, elapsedNs start finish = some elapsed →
        elapsed.toInt = finish.instant - start.instant := by
  refine returns_of_exact (elapsedNs_eq_some start finish) ?_
  exact fun fits => exists_toInt.mpr fits.total

/-! ## One pass -/

section Loop

variable (intervalUs : Int64)

def intervalNs : Int := intervalUs.toInt * 1000

/-- What one pass has to hold, `before` being the previous deadline. -/
structure PassFits (before : Int) (actual : Timespec) : Prop where
  interval : Fits (intervalNs intervalUs)
  sum : SumFits before (intervalNs intervalUs)
  difference : DifferenceFits ((before + intervalNs intervalUs) / 1000000000)
    ((before + intervalNs intervalUs) % 1000000000) actual

/-- The pass slept until `due` and recorded how late it woke up. -/
structure Exact (due : Int) (actual : Timespec) (probe : Probe) : Prop where
  normalised : probe.target.Normalised
  target : probe.target.instant = due
  sample : probe.sampleNs.toInt = max 0 (actual.instant - due)

theorem overshoot_eq (elapsed : Int64) :
    (if elapsed < 0 then 0 else elapsed : Int64).toInt = max 0 elapsed.toInt := by
  have zero : Int64.toInt 0 = 0 := rfl
  by_cases early : elapsed < 0
  · rw [if_pos early]
    rw [Int64.lt_iff_toInt_lt] at early
    omega
  · rw [if_neg early]
    rw [Int64.lt_iff_toInt_lt] at early
    omega

theorem iteration_eq_some (target actual : Timespec) (probe : Probe)
    (normalised : target.Normalised) (nonneg : 0 ≤ intervalUs.toInt) :
    iteration intervalUs target actual = some probe ↔
      PassFits intervalUs target.instant actual ∧
        Exact (target.instant + intervalNs intervalUs) actual probe := by
  have thousand : Int64.toInt 1000 = 1000 := rfl
  unfold iteration
  simp only [Option.bind_eq_bind, Option.bind_eq_some_iff, mul?_eq_some, thousand,
    elapsedNs_eq_some, Option.some.injEq]
  constructor
  · rintro ⟨ns, scaled, next, added, elapsed, ⟨apart, overshoot⟩, rfl⟩
    have product : ns.toInt = intervalNs intervalUs := scaled
    rw [tsAddNs_eq_some target ns next normalised (by unfold intervalNs at product; omega),
      product] at added
    obtain ⟨sum, kept, moved⟩ := added
    rw [seconds_of_instant next kept, nanoseconds_of_instant next kept, moved] at apart
    refine ⟨⟨product ▸ fits_toInt ns, sum, apart⟩, kept, moved, ?_⟩
    rw [overshoot_eq, overshoot, moved]
  · rintro ⟨fits, exact⟩
    obtain ⟨ns, product⟩ := exists_toInt.mpr fits.interval
    obtain ⟨elapsed, total⟩ := exists_toInt.mpr fits.difference.total
    have due := exact.target
    rw [Int.ediv_mul_add_emod, ← due] at total
    have apart := fits.difference
    rw [← due, ← seconds_of_instant _ exact.normalised,
      ← nanoseconds_of_instant _ exact.normalised] at apart
    refine ⟨ns, product, probe.target, ?_, elapsed, ⟨apart, total⟩, ?_⟩
    · rw [tsAddNs_eq_some target ns _ normalised (by unfold intervalNs at product; omega),
        product]
      exact ⟨fits.sum, exact.normalised, due⟩
    · have sample := exact.sample
      rw [← due, ← total, ← overshoot_eq, Int64.toInt_inj] at sample
      rw [← sample]

theorem exists_exact (due : Int) (actual : Timespec)
    (difference : DifferenceFits (due / 1000000000) (due % 1000000000) actual)
    (seconds : Fits (due / 1000000000)) : ∃ probe, Exact due actual probe := by
  obtain ⟨target, normalised, reached⟩ := exists_normalised due seconds
  obtain ⟨elapsed, total⟩ := exists_toInt.mpr difference.total
  rw [Int.ediv_mul_add_emod] at total
  exact ⟨⟨target, if elapsed < 0 then 0 else elapsed⟩, normalised, reached,
    by rw [overshoot_eq, total]⟩

/-! ## All passes -/

/-- The `k`-th deadline after an instant. -/
def deadline (start : Int) (k : Nat) : Int := start + k * intervalNs intervalUs

theorem deadline_next (start : Int) (k : Nat) :
    deadline intervalUs (start + intervalNs intervalUs) k =
      deadline intervalUs start (k + 1) := by
  unfold deadline
  push_cast
  ring

/-- No pass overflows: each is judged by the exact deadlines. -/
def NoOverflow (start : Int) (actuals : List Timespec) : Prop :=
  ∀ k actual, actuals[k]? = some actual →
    PassFits intervalUs (deadline intervalUs start k) actual

/-- Each pass slept until its own exact deadline and recorded how late it
woke up. -/
def Undrifted (start : Int) (actuals : List Timespec) (taken : List Probe) : Prop :=
  taken.length = actuals.length ∧
    ∀ k actual probe, actuals[k]? = some actual → taken[k]? = some probe →
      Exact (deadline intervalUs start (k + 1)) actual probe

theorem noOverflow_cons (start : Int) (actual : Timespec) (rest : List Timespec) :
    NoOverflow intervalUs start (actual :: rest) ↔
      PassFits intervalUs start actual ∧
        NoOverflow intervalUs (start + intervalNs intervalUs) rest := by
  have first : deadline intervalUs start 0 = start := by simp [deadline]
  unfold NoOverflow
  constructor
  · intro fits
    refine ⟨first ▸ fits 0 actual rfl, fun k later found => ?_⟩
    rw [deadline_next]
    exact fits (k + 1) later found
  · rintro ⟨here, later⟩ k other found
    cases k with
    | zero =>
        cases Option.some.inj found
        exact first.symm ▸ here
    | succ k =>
        rw [← deadline_next]
        exact later k other found

theorem undrifted_cons (start : Int) (actual : Timespec) (rest : List Timespec)
    (probe : Probe) (later : List Probe) :
    Undrifted intervalUs start (actual :: rest) (probe :: later) ↔
      Exact (start + intervalNs intervalUs) actual probe ∧
        Undrifted intervalUs (start + intervalNs intervalUs) rest later := by
  have first : deadline intervalUs start 1 = start + intervalNs intervalUs := by
    simp [deadline]
  unfold Undrifted
  rw [List.length_cons, List.length_cons, Nat.add_right_cancel_iff]
  constructor
  · rintro ⟨sameLength, exact⟩
    refine ⟨first ▸ exact 0 actual probe rfl rfl, sameLength, fun k read sample => ?_⟩
    rw [deadline_next]
    exact exact (k + 1) read sample
  · rintro ⟨here, sameLength, exact⟩
    refine ⟨sameLength, fun k read sample atRead atSample => ?_⟩
    cases k with
    | zero =>
        cases Option.some.inj atRead
        cases Option.some.inj atSample
        exact first.symm ▸ here
    | succ k =>
        rw [← deadline_next]
        exact exact k read sample atRead atSample

theorem probes_eq_some (nonneg : 0 ≤ intervalUs.toInt) (actuals : List Timespec)
    (start : Timespec) (normalised : start.Normalised) (taken : List Probe) :
    probes intervalUs start actuals = some taken ↔
      NoOverflow intervalUs start.instant actuals ∧
        Undrifted intervalUs start.instant actuals taken := by
  induction actuals generalizing start taken with
  | nil =>
      simp [probes, NoOverflow, Undrifted, eq_comm]
  | cons actual rest ih =>
      rw [probes, noOverflow_cons]
      simp only [Option.bind_eq_bind, Option.bind_eq_some_iff, Option.some.injEq]
      constructor
      · rintro ⟨probe, passed, later, laterTaken, rfl⟩
        obtain ⟨fits, exact⟩ :=
          (iteration_eq_some intervalUs start actual probe normalised nonneg).mp passed
        obtain ⟨noOverflow, undrifted⟩ :=
          (ih probe.target exact.normalised later).mp laterTaken
        rw [exact.target] at noOverflow undrifted
        exact ⟨⟨fits, noOverflow⟩,
          (undrifted_cons intervalUs _ actual rest probe later).mpr ⟨exact, undrifted⟩⟩
      · rintro ⟨⟨fits, noOverflow⟩, undrifted⟩
        cases taken with
        | nil => exact absurd undrifted.1 (by simp)
        | cons probe later =>
            obtain ⟨exact, laterUndrifted⟩ :=
              (undrifted_cons intervalUs _ actual rest probe later).mp undrifted
            rw [← exact.target] at noOverflow laterUndrifted
            exact ⟨probe,
              (iteration_eq_some intervalUs start actual probe normalised nonneg).mpr
                ⟨fits, exact⟩,
              later, (ih probe.target exact.normalised later).mpr ⟨noOverflow, laterUndrifted⟩,
              rfl⟩

theorem exists_undrifted (actuals : List Timespec) (start : Int)
    (noOverflow : NoOverflow intervalUs start actuals) :
    ∃ taken, Undrifted intervalUs start actuals taken := by
  induction actuals generalizing start with
  | nil => exact ⟨[], rfl, nofun⟩
  | cons actual rest ih =>
      obtain ⟨fits, later⟩ := (noOverflow_cons intervalUs start actual rest).mp noOverflow
      obtain ⟨probe, exact⟩ := exists_exact _ actual fits.difference fits.sum.seconds
      obtain ⟨taken, undrifted⟩ := ih _ later
      exact ⟨probe :: taken,
        (undrifted_cons intervalUs start actual rest probe taken).mpr ⟨exact, undrifted⟩⟩

/-- The deadlines do not drift: unless a word overflows, the `k`-th sleep ends
at the start plus `k` intervals and the `k`-th sample is the distance of the
wake-up from there, however late the earlier ones were. -/
theorem deadlines_do_not_drift (start : Timespec) (normalised : start.Normalised)
    (nonneg : 0 ≤ intervalUs.toInt) (actuals : List Timespec) :
    (((∃ taken, probes intervalUs start actuals = some taken) ↔
          NoOverflow intervalUs start.instant actuals) ∧
        ∀ taken, probes intervalUs start actuals = some taken →
          Undrifted intervalUs start.instant actuals taken) ∧
      (∀ ts ns, ts.Normalised → 0 ≤ ns.toInt →
        ((∃ next, tsAddNs ts ns = some next) ↔ SumFits ts.instant ns.toInt) ∧
          ∀ next, tsAddNs ts ns = some next →
            next.Normalised ∧ next.instant = ts.instant + ns.toInt) ∧
      ∀ first second, first.Normalised → second.Normalised →
        ((∃ elapsed, elapsedNs first second = some elapsed) ↔
            DifferenceFits first.tvSec.toInt first.tvNsec.toInt second) ∧
          ∀ elapsed, elapsedNs first second = some elapsed →
            elapsed.toInt = second.instant - first.instant := by
  refine ⟨?_, fun ts ns kept forward => tsAddNs_exact ts ns kept forward,
    fun first second _ _ => elapsedNs_exact first second⟩
  refine returns_of_exact (probes_eq_some intervalUs nonneg actuals start normalised) ?_
  exact exists_undrifted intervalUs actuals start.instant

/-! ## Clocks that do not overflow -/

/-- A normalised reading of the clock in the first 2^62 nanoseconds. -/
def Early (actual : Timespec) : Prop :=
  actual.Normalised ∧ 0 ≤ actual.instant ∧ actual.instant < 2 ^ 62

theorem passFits_of_early (before : Int) (actual : Timespec) (early : Early actual)
    (started : 0 ≤ before) (forward : 0 ≤ intervalNs intervalUs)
    (ends : before + intervalNs intervalUs < 2 ^ 62) :
    PassFits intervalUs before actual := by
  obtain ⟨normalised, nonneg, below⟩ := early
  have seconds := seconds_of_instant actual normalised
  have nanoseconds := nanoseconds_of_instant actual normalised
  refine ⟨?_, ⟨?_, ?_⟩, ?_, ?_, ?_, ?_⟩
  all_goals
    unfold Fits
    omega

theorem noOverflow_of_early (start : Int) (actuals : List Timespec)
    (early : ∀ actual ∈ actuals, Early actual) (started : 0 ≤ start)
    (forward : 0 ≤ intervalNs intervalUs)
    (ends : deadline intervalUs start actuals.length < 2 ^ 62) :
    NoOverflow intervalUs start actuals := by
  intro k actual found
  obtain ⟨inside, rfl⟩ := List.getElem?_eq_some_iff.mp found
  have passed : 0 ≤ k * intervalNs intervalUs := by positivity
  have left : ((k + 1 : Nat) : Int) * intervalNs intervalUs ≤
      actuals.length * intervalNs intervalUs := by
    gcongr
    exact inside
  have due := deadline_next intervalUs start k
  refine passFits_of_early intervalUs _ _ (early _ (List.getElem_mem inside)) ?_ forward ?_
  · unfold deadline
    omega
  · unfold deadline at ends due ⊢
    omega

/-- The printed figures are those of the exact overshoots. -/
theorem main_faithful (qsort : Qsort Int64) (start : Timespec) (normalised : start.Normalised)
    (nonneg : 0 ≤ intervalUs.toInt) (actuals : List Timespec) (measured : actuals ≠ [])
    (noOverflow : NoOverflow intervalUs start.instant actuals) :
    ∃ taken figures, main qsort intervalUs start actuals = some figures ∧
      Undrifted intervalUs start.instant actuals taken ∧
        Percentiles.Faithful (taken.map Probe.sampleNs) figures := by
  obtain ⟨taken, undrifted⟩ := exists_undrifted intervalUs actuals start.instant noOverflow
  have run := (probes_eq_some intervalUs nonneg actuals start normalised taken).mpr
    ⟨noOverflow, undrifted⟩
  have sampled : taken.map Probe.sampleNs ≠ [] := by
    rw [← List.length_pos_iff, List.length_map, undrifted.1]
    exact List.length_pos_iff.mpr measured
  obtain ⟨figures, reported, faithful⟩ := Percentiles.report_some qsort _ sampled
  refine ⟨taken, figures, ?_, undrifted, faithful⟩
  rw [main, run]
  exact reported

end Loop

theorem deadlines_do_not_drift_late :
    ∃ taken, probes 1500000 ⟨5, 999999999⟩ [⟨9, 0⟩, ⟨9, 100⟩] = some taken ∧
      Undrifted 1500000 5999999999 [⟨9, 0⟩, ⟨9, 100⟩] taken := by
  have noOverflow : NoOverflow 1500000 5999999999 [⟨9, 0⟩, ⟨9, 100⟩] := by
    refine noOverflow_of_early 1500000 5999999999 _ ?_ (by decide) (by decide) (by decide)
    unfold Early
    decide
  obtain ⟨⟨returns, exact⟩, _⟩ := deadlines_do_not_drift 1500000 ⟨5, 999999999⟩
    (by decide) (by decide) [⟨9, 0⟩, ⟨9, 100⟩]
  obtain ⟨taken, run⟩ := returns.mpr noOverflow
  exact ⟨taken, run, exact taken run⟩

end KernelSprint.LatencyProbe

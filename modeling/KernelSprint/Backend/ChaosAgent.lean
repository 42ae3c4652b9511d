import KernelSprint.Backend.NetworkDelay
import KernelSprint.Backend.StreamMetrics
import KernelSprint.Lib.Decimal

/-!
# The other failure injections

`cpu_stress`, `memory_stress`, `disk_stress` and `kill_process_demo` of
`chaos_agent`.  The two sampling loops run until their time is up or
stress-ng has ended; a round takes fuel, and running out of it is no
exception of the code.
-/

set_option autoImplicit false

namespace KernelSprint.ChaosAgent

open Generators Generators.Gen PyText
open Docker (CompletedProcess)
open NetworkDelay (Scalar Param clamp maxDurationSec)
open StreamMetrics (cpuStat catProcStat)

inductive Failure where
  | raised (exn : PyExn)
  | outOfFuel
  deriving DecidableEq

inductive Call where
  /-- `_exec` of this module -/
  | exec (argv : List String)
  /-- `_exec` of `ebpf_agent` -/
  | read (argv : List String)
  | popen (argv : List String)
  /-- `time.time()` -/
  | time
  /-- `proc.poll() is None` -/
  | running
  | sleep (seconds : ℚ)
  /-- `proc.wait(timeout=5)` -/
  | wait
  /-- `subprocess.run` with `timeout=duration_sec + 10` -/
  | run (argv : List String) (durationSec : Scalar)
  deriving DecidableEq

abbrev Call.Answer : Call → Type
  | .exec _ => CompletedProcess
  | .read _ => String
  | .popen _ => Unit
  | .time => ℚ
  | .running => Bool
  | .sleep _ => Unit
  | .wait => Unit
  | .run _ _ => CompletedProcess

inductive Event where
  | startCpu (loadPct durationSec : Scalar)
  | startMemory (pct durationSec : Scalar)
  | startDisk (durationSec : Scalar)
  | startKill
  | sampleCpu (cpuPct : ℚ)
  | sampleMemory (memoryPct : ℚ)
  | sampleMessage (message : String)
  | resultCpu (peakCpuPct : ℚ) (detected : Bool) (detectionMessage recommendation : String)
  | resultMemory (peakMemoryPct : ℚ) (detected : Bool) (detectionMessage recommendation : String)
  | resultDisk (output : String) (detected : Bool) (detectionMessage recommendation : String)
  | resultKill (pid : Option String) (detected : Bool) (detectionMessage recommendation : String)
  deriving DecidableEq

abbrev Injection (α : Type) := Gen Call Call.Answer Event Failure α

def ask (request : Call) : Injection request.Answer := perform request

def orRaise {α : Type} (result : Except PyExn α) : Injection α :=
  fromExcept (result.mapError .raised)

def cpuHighThresholdPct : ℚ := 70

def memHighThresholdPct : ℚ := 80

def diskStressBytes : String := "32M"

/-- `elapsed < duration_sec + 1` -/
def lasts (durationSec : Scalar) (elapsed : ℚ) : Bool :=
  match durationSec with
  | .finite amount _ => decide (elapsed < amount + 1)
  | .infinity => true
  | _ => false

/-- The loops sleep for a second in every round. -/
def maxRounds : Nat := maxDurationSec + 2

section Sampling

variable (db : CharDb)

def readCpuStat : Injection (Int × Int) := do
  let out ← ask (.read catProcStat)
  orRaise (cpuStat db out)

def readMemoryPct : Injection (Option ℚ) := do
  let out ← ask (.read ["sh", "-c", "free | awk '/Mem:/\x7bprintf \"%.1f\", $3/$2*100\x7d'"])
  pure (float db (strip out).toList).toOption

/-- The utilisation between the two readings of a round. -/
def cpuPct (first second : Int × Int) : ℚ :=
  let totalDelta := second.2 - first.2
  if 0 < totalDelta then
    round (100 * (1 - ((second.1 - first.1 : Int) : ℚ) / totalDelta)) 1
  else 0

/-- `max(samples) if samples else 0.0` -/
def peak (samples : List ℚ) : ℚ := samples.max?.getD 0

def cpuRounds (durationSec : Scalar) (start : ℚ) : Nat → List ℚ → Injection (List ℚ)
  | 0, _ => .fail .outOfFuel
  | fuel + 1, samples => do
      let now ← ask .time
      let running ← if lasts durationSec (now - start) then ask .running else pure false
      if running then
        let first ← readCpuStat db
        ask (.sleep 1)
        let second ← readCpuStat db
        yieldEvent (.sampleCpu (cpuPct first second))
        cpuRounds durationSec start fuel (samples ++ [cpuPct first second])
      else pure samples

/-- `int(out.strip() or "4")` -/
def coreCount (out : String) : Except PyExn Int :=
  if strip out = "" then .ok 4 else int db (strip out)

def cpuResult (samples : List ℚ) : Event :=
  let peak := peak samples
  let detected := decide (cpuHighThresholdPct ≤ peak)
  .resultCpu peak detected
    (if detected then
      "High CPU detected (" ++ Decimal.fixed 1 peak.toNNRat ++ "% >= 70% threshold)"
    else "CPU stayed below the 70% threshold")
    (if detected then
      "A shorter sysctl_sched_base_slice (see the patch pipeline) improves " ++
        "wake-up latency for other tasks while a CPU hog like this is running."
    else "No action needed.")

def stressCpu (loadPct durationSec : Scalar) : Injection Unit := do
  let nproc ← ask (.exec ["nproc"])
  let ncpus ← orRaise (coreCount db nproc.stdout)
  yieldEvent (.startCpu loadPct durationSec)
  ask (.popen ["stress-ng", "--cpu", toString ncpus, "--cpu-load", loadPct.text,
    "--timeout", durationSec.text ++ "s"])
  let start ← ask .time
  let samples ← cpuRounds db durationSec start maxRounds []
  ask .wait
  yieldEvent (cpuResult samples)

def cpuStress (loadPct durationSec : Param) : Injection Unit := do
  let loadPct ← orRaise (clamp 100 loadPct)
  let durationSec ← orRaise (clamp maxDurationSec durationSec)
  stressCpu db loadPct durationSec

def memoryRounds (durationSec : Scalar) (start : ℚ) : Nat → List ℚ → Injection (List ℚ)
  | 0, _ => .fail .outOfFuel
  | fuel + 1, samples => do
      let now ← ask .time
      let running ← if lasts durationSec (now - start) then ask .running else pure false
      if running then
        let memPct ← readMemoryPct db
        match memPct with
        | some memPct => do
            yieldEvent (.sampleMemory memPct)
            ask (.sleep 1)
            memoryRounds durationSec start fuel (samples ++ [memPct])
        | none => do
            ask (.sleep 1)
            memoryRounds durationSec start fuel samples
      else pure samples

def memoryResult (samples : List ℚ) : Event :=
  let peak := peak samples
  let detected := decide (memHighThresholdPct ≤ peak)
  .resultMemory peak detected
    (if detected then
      "High memory pressure detected (" ++ Decimal.fixed 1 peak.toNNRat ++ "% >= 80% threshold)"
    else "Memory stayed below the 80% threshold")
    (if detected then
      "Sustained memory pressure like this can trigger reclaim/OOM paths -- " ++
        "worth checking dmesg for oom-killer activity after real workloads."
    else "No action needed.")

def stressMemory (pct durationSec : Scalar) : Injection Unit := do
  yieldEvent (.startMemory pct durationSec)
  ask (.popen ["stress-ng", "--vm", "1", "--vm-bytes", pct.text ++ "%",
    "--timeout", durationSec.text ++ "s"])
  let start ← ask .time
  let samples ← memoryRounds db durationSec start maxRounds []
  ask .wait
  yieldEvent (memoryResult samples)

def memoryStress (pct durationSec : Param) : Injection Unit := do
  let pct ← orRaise (clamp 90 pct)
  let durationSec ← orRaise (clamp maxDurationSec durationSec)
  stressMemory db pct durationSec

end Sampling

def diskResult (result : CompletedProcess) : Event :=
  .resultDisk (strip (result.stdout ++ result.stderr)) (result.returncode = 0)
    (if result.returncode = 0 then "Disk stress completed" else "Disk stress failed to run")
    ("Wrote/read bounded " ++ diskStressBytes ++ " within the container's own " ++
      "ephemeral filesystem -- no host disk impact.")

def stressDisk (durationSec : Scalar) : Injection Unit := do
  yieldEvent (.startDisk durationSec)
  let result ← ask (.run ["stress-ng", "--hdd", "1", "--hdd-bytes", diskStressBytes,
    "--timeout", durationSec.text ++ "s", "-v"] durationSec)
  yieldEvent (diskResult result)

def diskStress (durationSec : Param) : Injection Unit := do
  let durationSec ← orRaise (clamp maxDurationSec durationSec)
  stressDisk durationSec

/-- `pid.isdigit()`; what `echo $!` prints is ASCII. -/
def isPid (db : CharDb) (pid : String) : Bool :=
  !pid.isEmpty && pid.toList.all fun c => (db.digit c).isSome

def unspawnedEvent (spawn : CompletedProcess) : Event :=
  .resultKill none false "failed to spawn demo process" (strip spawn.stderr)

def killResult (pid state : String) : Event :=
  let killed := state == "gone" || state.startsWith "Z"
  .resultKill (some pid) killed
    (if killed then "process " ++ pid ++ " confirmed killed"
    else "process " ++ pid ++ " still alive (unexpected)")
    ("Only ever affects processes inside this container's own PID namespace -- " ++
      "Docker isolates it from the host regardless of --privileged.")

def killProcessDemo (db : CharDb) : Injection Unit := do
  yieldEvent .startKill
  let spawn ← ask (.exec ["bash", "-c", "sleep 120 & echo $!"])
  let pid := strip spawn.stdout
  if isPid db pid then do
    yieldEvent (.sampleMessage ("spawned demo process pid=" ++ pid ++ " inside the sandbox"))
    ask (.sleep 1)
    let _ ← ask (.exec ["kill", "-9", pid])
    ask (.sleep (1 / 2))
    let check ← ask (.exec ["sh", "-c", "ps -o stat= -p " ++ pid ++ " 2>/dev/null || echo gone"])
    yieldEvent (killResult pid (strip check.stdout))
  else yieldEvent (unspawnedEvent spawn)

end KernelSprint.ChaosAgent

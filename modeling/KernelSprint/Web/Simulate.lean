import KernelSprint.Backend.Sockets

/-!
# Simulated results

The tables of `simulate.ts` that the live panels fall back to.
-/

set_option autoImplicit false

namespace KernelSprint.Simulate

open Sockets

def meanAndP99 (mean p99 : String) : Json :=
  .object [("mean_us", .number mean), ("p99_us", .number p99)]

def simulateExperimentResult : String → Json
  | "scheduler_optimization" => .object [
      ("type", .string "result"),
      ("before", meanAndP99 "420" "850"),
      ("after", meanAndP99 "210" "420"),
      ("p99_improvement_pct", .number "50.6"),
      ("note", .string <| "Simulated: toggled base_slice_ns from 4ms → 2ms. " ++
        "Real result shows similar ~50% p99 improvement.")]
  | "process_creation" => .object [
      ("type", .string "result"),
      ("result", .object [("mean_us", .number "38.2"), ("p99_us", .number "112.4"),
        ("forks_per_sec", .number "26178")])]
  | "context_switch" => .object [
      ("type", .string "result"),
      ("result", .object [("mean_us", .number "1.8"), ("p99_us", .number "5.4"),
        ("switches_per_sec", .number "148920")])]
  | "ipc_performance" => .object [
      ("type", .string "result"),
      ("result", .object [("throughput_mb_s", .number "2480"),
        ("latency_us", .number "0.42")])]
  | _ => .object [("type", .string "result"), ("result", .object [("status", .string "ok")])]

structure SimulatedChaos where
  samples : List Json
  result : Json

def chaosSample (message : String) : Json :=
  .object [("type", .string "sample"), ("message", .string message)]

def chaosResult (detected : Bool) (detectionMessage recommendation : String) : Json :=
  .object [("type", .string "result"), ("detected", .bool detected),
    ("detection_message", .string detectionMessage),
    ("recommendation", .string recommendation)]

def simulateChaos : String → SimulatedChaos
  | "cpu" => ⟨[
      chaosSample "cpu stress started, 2 workers, load 80%",
      chaosSample "cpu bogo ops: 4520 (avg 2260/worker)",
      chaosSample "cpu bogo ops: 9100 (avg 4550/worker)",
      chaosSample "cpu bogo ops: 13800 (avg 6900/worker)"],
      chaosResult true "CPU load spike detected — 80% sustained across 2 cores for 5s" <|
        "Normal under stress test. In production, check for runaway processes with " ++
          "`ps aux --sort=-%cpu | head`."⟩
  | "memory" => ⟨[
      chaosSample "vm stress started, 50% memory pressure",
      chaosSample "memory allocated: 1.9Gi / 3.8Gi (50%)",
      chaosSample "page faults: 12400/sec"],
      chaosResult true "Memory pressure detected — 50% allocation with elevated page faults" <|
        "Check `dmesg | grep -i oom` for OOM killer activity. " ++
          "In production, set memory limits via cgroups."⟩
  | "disk" => ⟨[
      chaosSample "hdd stress started, 32MB bounded",
      chaosSample "IOPS: 1420, throughput: 45.4 MB/s",
      chaosSample "IOPS: 1380, throughput: 44.1 MB/s"],
      chaosResult false "Disk I/O within normal bounds — 45 MB/s sequential write" <|
        "No action needed. For sustained high I/O, consider faster storage or " ++
          "I/O scheduling tuning."⟩
  | "network" => ⟨[
      chaosSample "tc netem delay added: 200ms on eth0",
      chaosSample "ping RTT: 204ms (was 0.2ms)",
      chaosSample "tcp RTT: 208ms, retransmits: 0"],
      chaosResult true "Network latency injected — 200ms delay on container interface" <|
        "Use `tc qdisc del dev eth0 root` to remove. " ++
          "In production, set network policies via kubernetes network policies."⟩
  | "kill" => ⟨[
      chaosSample "spawned demo process pid=9999",
      chaosSample "killing pid 9999 with SIGTERM",
      chaosSample "process 9999 terminated (exit 143)"],
      chaosResult false "Process kill handled gracefully — SIGTERM → cleanup → exit 143" <|
        "Always implement graceful shutdown handlers. SIGKILL should be a last resort."⟩
  | _ => ⟨[chaosSample "unknown action"],
      chaosResult false "Unknown chaos action" "Select a valid chaos scenario."⟩

def simulateBenchmark (kernel : String) : Json :=
  if kernel = "optimized" then
    .object [("process_creation", meanAndP99 "38.2" "112.4"),
      ("context_switch", .object [("switches_per_sec", .number "14892")]),
      ("scheduler_latency", meanAndP99 "210" "420")]
  else
    .object [("process_creation", meanAndP99 "52.7" "184.3"),
      ("context_switch", .object [("switches_per_sec", .number "15234")]),
      ("scheduler_latency", meanAndP99 "420" "850")]

def simulatePatchReport : Json :=
  .object [
    ("data", .object [("process_creation", meanAndP99 "38.2" "112.4"),
      ("context_switch", .object [("switches_per_sec", .number "14892")]),
      ("scheduler_latency", meanAndP99 "210" "420")]),
    ("comparison_vs_baseline", .object [
      ("process_creation_mean_pct_change", .number "-27.5"),
      ("context_switch_pct_change", .number "-2.2"),
      ("scheduler_latency_p99_pct_change", .number "-50.6")]),
    ("note", .string <| "Simulated report: patch applied successfully, benchmarks show " ++
      "~50% scheduler latency improvement.")]

end KernelSprint.Simulate

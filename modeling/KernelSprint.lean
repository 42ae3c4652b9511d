import KernelSprint.Lib.Machine
import KernelSprint.Lib.Pool
import KernelSprint.Lib.Generator
import KernelSprint.Lib.Course
import KernelSprint.Lib.Paths
import KernelSprint.Lib.Strikes
import KernelSprint.Lib.Pattern
import KernelSprint.Lib.PyText
import KernelSprint.Lib.Decimal
import KernelSprint.Lib.Columns
import KernelSprint.Lib.Pairing
import KernelSprint.Lib.Pipe
import KernelSprint.Lib.Ranks
import KernelSprint.Lib.Word64
import KernelSprint.Lib.JsNumber
import KernelSprint.Lib.Window
import KernelSprint.Lib.Mutex
import KernelSprint.Lib.Pids
import KernelSprint.Lib.Shlex
import KernelSprint.Web.TerminalWords
import KernelSprint.Web.TerminalAnswers
import KernelSprint.Web.TerminalModes
import KernelSprint.Backend.PatchScratch
import KernelSprint.Backend.MeasuredScheduling
import KernelSprint.Backend.MeasuredThroughput
import KernelSprint.Backend.GuestBenchmark
import KernelSprint.Backend.PatchedGuest
import KernelSprint.Benchmark.Reports
import KernelSprint.Benchmark.Percentiles
import KernelSprint.Benchmark.PosixValidation
import KernelSprint.Benchmark.ContextSwitch
import KernelSprint.Benchmark.IpcThroughput
import KernelSprint.Benchmark.LatencyProbe
import KernelSprint.Benchmark.StressTest
import KernelSprint.Benchmark.StressProgress
import KernelSprint.Benchmark.ProcessCreation
import KernelSprint.Backend.BenchmarkOutput
import KernelSprint.Backend.Docker
import KernelSprint.Backend.Experiments
import KernelSprint.Backend.RequestedExperiments
import KernelSprint.Backend.RequestedActions
import KernelSprint.Backend.ReportRoundTrip
import KernelSprint.Backend.ReportGrammar
import KernelSprint.Backend.SchedulerExperiment
import KernelSprint.Backend.SliceInterleaving
import KernelSprint.Backend.SliceProbes
import KernelSprint.Backend.SliceRestore
import KernelSprint.Backend.Container
import KernelSprint.Backend.ContainerOverlap
import KernelSprint.Backend.ContainerInUse
import KernelSprint.Backend.ContainerRecovery
import KernelSprint.Backend.NetworkDelay
import KernelSprint.Backend.NetworkSharing
import KernelSprint.Backend.NetworkCleanup
import KernelSprint.Backend.Relay
import KernelSprint.Backend.Sockets
import KernelSprint.Backend.RelayDelivery
import KernelSprint.Backend.RequestValidation
import KernelSprint.Backend.StreamCommand
import KernelSprint.Backend.CommandAgent
import KernelSprint.Backend.ClosingLine
import KernelSprint.Backend.StreamMetrics
import KernelSprint.Backend.TickPairing
import KernelSprint.Backend.MonitorSocket
import KernelSprint.Backend.MeasuredCreation
import KernelSprint.Backend.ChaosAgent
import KernelSprint.Backend.KillDemo
import KernelSprint.Backend.CpuUsage
import KernelSprint.Backend.ProcessTable
import KernelSprint.Backend.Pipelines
import KernelSprint.Backend.PipelineReports
import KernelSprint.Backend.PatchScript
import KernelSprint.Backend.StageAttribution
import KernelSprint.Backend.TimeLimits
import KernelSprint.Backend.PipelineClients
import KernelSprint.Backend.CommandClients
import KernelSprint.Backend.Subprocesses
import KernelSprint.Web.Simulate
import KernelSprint.Web.LivePanel
import KernelSprint.Web.Panels
import KernelSprint.Web.PanelProducers
import KernelSprint.Web.PanelRelease
import KernelSprint.Web.StageDisplay
import KernelSprint.Web.DemoTerminal
import KernelSprint.Web.Terminal
import KernelSprint.Web.TerminalAttribution
import KernelSprint.Web.TerminalRelease
import KernelSprint.Web.LatencyComparison
import KernelSprint.Web.MonitorMetrics
import KernelSprint.Web.LiveMonitor
import KernelSprint.Web.MonitorFeed
import KernelSprint.Web.KernelWorkflow

import KernelSprint.Lib.PyText
import KernelSprint.Web.LivePanel
import KernelSprint.Web.Simulate

/-!
# The four live panels

Each panel's state, what its `run()` resets, how it takes the messages of its
socket, and what its simulation does at each firing of its interval.  A state
update is applied when the callback makes it.
-/

set_option autoImplicit false

namespace KernelSprint.Panels

open PyText Sockets LivePanel Simulate

/-- `({ ...record, [key]: value })` -/
def setKey {α : Type} (key : String) (value : α) : List (String × α) → List (String × α)
  | [] => [(key, value)]
  | (other, kept) :: rest =>
      if other = key then (key, value) :: rest else (other, kept) :: setKey key value rest

theorem lookup_setKey {α : Type} (key other : String) (value : α)
    (stages : List (String × α)) :
    (setKey key value stages).lookup other =
      if other = key then some value else stages.lookup other := by
  induction stages with
  | nil =>
      by_cases same : other = key
      · simp [setKey, same]
      · have differs : (other == key) = false := beq_false_of_ne same
        simp [setKey, List.lookup_cons, differs, same]
  | cons entry rest ih =>
      obtain ⟨first, kept⟩ := entry
      by_cases here : first = key
      · subst here
        by_cases same : other = first
        · simp [setKey, same]
        · have differs : (other == first) = false := beq_false_of_ne same
          simp [setKey, List.lookup_cons, differs, same]
      · by_cases same : other = first
        · subst same
          simp [setKey, here]
        · have differs : (other == first) = false := beq_false_of_ne same
          simp [setKey, here, List.lookup_cons, differs, ih]

/-- `items.slice(-count)` -/
def lastOf {α : Type} (count : Nat) (items : List α) : List α :=
  items.drop (items.length - count)

inductive StageStatus where
  | idle
  | running
  | done
  | error
  deriving DecidableEq, Repr

def stageStatus (status : String) : StageStatus :=
  if status = "start" then .running else .done

/-! ## PatchRunner -/

/-- A line of the output.  The updater of a simulated one reads
`SIMULATED_OUTPUT_LINES[lineIdx]` when React runs it, which may be after
`lineIdx++`; what stands here is the `lineIdx` of its tick. -/
inductive OutputLine where
  | received (line : String)
  | simulated (lineIdx : Nat)

structure PatchView where
  stages : List (String × StageStatus)
  running : Bool
  output : List OutputLine
  report : Option Json
  error : Option String
  demoMode : Option Bool

/-- The closure of the interval. -/
structure PatchSim where
  stageIdx : Nat
  lineIdx : Nat

def stageKeys : List String := ["apply", "build", "boot", "compare", "report"]

def initialStages : List (String × StageStatus) := stageKeys.map fun key => (key, .idle)

def simulatedOutputLines : List String :=
  ["Applying patch to kernel/sched/fair.c...",
    "patch: applying hunk at line 123",
    "Patch applied successfully. 1 file changed.",
    "",
    "Building kernel...",
    "  CC      kernel/sched/fair.o",
    "  LD      vmlinux.o",
    "  OBJCOPY arch/x86/boot/bzImage",
    "Kernel built successfully: arch/x86/boot/bzImage",
    "",
    "Booting optimized kernel under QEMU...",
    "Run benchmarks: process_creation, context_switch, scheduler_latency",
    "Collecting results...",
    "Generating comparison report...",
    "Done."]

def patchMessage (view : PatchView) : Message → PatchView × Bool
  | .stage stage status =>
      ({ view with stages := setKey stage (stageStatus status) view.stages }, false)
  | .output line => ({ view with output := lastOf 200 view.output ++ [.received line] }, false)
  | .result msg _ => ({ view with report := some msg, running := false }, true)
  | .error message stage =>
      ({ view with
          error := some message
          stages := match stage with
            | none => view.stages
            | some stage => if stage = "" then view.stages else setKey stage .error view.stages
          running := false }, true)
  | _ => (view, false)

/-- The stage advances every four lines. -/
def advanceStage (sim : PatchSim) (view : PatchView) : PatchView × PatchSim :=
  if sim.stageIdx < stageKeys.length ∧ sim.lineIdx % 4 = 0 then
    let started := setKey (stageKeys.getD sim.stageIdx "") .running view.stages
    ({ view with
        stages :=
          if 0 < sim.lineIdx then setKey (stageKeys.getD (sim.stageIdx - 1) "") .done started
          else started },
      { sim with stageIdx := sim.stageIdx + 1 })
  else (view, sim)

/-- One more line, or the end of the interval. -/
def showLine (sim : PatchSim) (view : PatchView) : PatchView × Option PatchSim :=
  if sim.lineIdx < simulatedOutputLines.length then
    ({ view with output := view.output ++ [.simulated sim.lineIdx] },
      some { sim with lineIdx := sim.lineIdx + 1 })
  else
    ({ view with
        stages := stageKeys.foldl (fun stages key => setKey key .done stages) view.stages
        report := some simulatePatchReport
        running := false }, none)

def patchTick (sim : PatchSim) (view : PatchView) : PatchView × Option PatchSim :=
  let advanced := advanceStage sim view
  showLine advanced.2 advanced.1

theorem patchMessage_running (view : PatchView) (message : Message) :
    (patchMessage view message).1.running =
      if (patchMessage view message).2 then false else view.running := by
  cases message <;> simp [patchMessage]

theorem advanceStage_running (sim : PatchSim) (view : PatchView) :
    (advanceStage sim view).1.running = view.running := by
  unfold advanceStage
  split <;> rfl

theorem showLine_running (sim : PatchSim) (view : PatchView) :
    (showLine sim view).1.running = if (showLine sim view).2.isSome then view.running else false := by
  unfold showLine
  split <;> rfl

theorem patchTick_running (sim : PatchSim) (view : PatchView) :
    (patchTick sim view).1.running =
      if (patchTick sim view).2.isSome then view.running else false := by
  rw [← advanceStage_running sim view]
  exact showLine_running _ _

def patchRunner : Code where
  Arg := String
  View := PatchView
  Sim := PatchSim
  Watched := List (String × StageStatus) × List OutputLine × Option Json × Bool
  initial := ⟨initialStages, false, [], none, none, none⟩
  running := PatchView.running
  watched view := (view.stages, view.output, view.report, view.running)
  request := .string
  begin patchText view :=
    if view.running ∨ trim patchText = "" then none
    else some ⟨initialStages, true, [], none, none, view.demoMode⟩
  onopen view := { view with demoMode := some false }
  onmessage _ message view := patchMessage view message
  runSimulated _ view := ({ view with demoMode := some true }, ⟨0, 0⟩)
  tick _ sim view := patchTick sim view
  begin_running patchText view view' begun := by
    split at begun
    · cases begun
    · next accepted =>
        cases Option.some.inj begun
        exact ⟨by simpa using (not_or.mp accepted).1, rfl⟩
  onopen_running _ := rfl
  onmessage_running _ message view := patchMessage_running view message
  runSimulated_running _ _ := rfl
  tick_running _ sim view := patchTick_running sim view

/-! ## LiveBenchmarkRunner -/

structure BenchmarkView where
  stages : List (String × StageStatus)
  running : Bool
  result : Option Json
  error : Option String
  demoMode : Option Bool

/-- The two timeouts, one set by the other. -/
inductive BenchmarkSim where
  | compile
  | boot

def benchmarkStages (compile boot : StageStatus) : List (String × StageStatus) :=
  [("compile", compile), ("boot", boot)]

def benchmarkMessage (view : BenchmarkView) : Message → BenchmarkView × Bool
  | .stage stage status =>
      ({ view with stages := setKey stage (stageStatus status) view.stages }, false)
  | .result _ data => ({ view with result := some data, running := false }, true)
  | .error message _ => ({ view with error := some message, running := false }, true)
  | _ => (view, false)

def liveBenchmarkRunner : Code where
  Arg := String
  View := BenchmarkView
  Sim := BenchmarkSim
  Watched := List (String × StageStatus) × Option Json × Bool
  initial := ⟨benchmarkStages .idle .idle, false, none, none, none⟩
  running := BenchmarkView.running
  watched view := (view.stages, view.result, view.running)
  request := .string
  begin _ view :=
    if view.running then none
    else some ⟨benchmarkStages .idle .idle, true, none, none, view.demoMode⟩
  onopen view := { view with demoMode := some false }
  onmessage _ message view := benchmarkMessage view message
  runSimulated _ view :=
    ({ view with demoMode := some true, stages := benchmarkStages .running .idle }, .compile)
  tick
    | _, .compile, view => ({ view with stages := benchmarkStages .done .running }, some .boot)
    | kernel, .boot, view =>
        ({ view with
            stages := benchmarkStages .done .done
            result := some (simulateBenchmark kernel)
            running := false }, none)
  begin_running _ view view' begun := by
    split at begun
    · cases begun
    · next idle =>
        cases Option.some.inj begun
        exact ⟨by simpa using idle, rfl⟩
  onopen_running _ := rfl
  onmessage_running _ message view := by cases message <;> rfl
  runSimulated_running _ _ := rfl
  tick_running _ sim view := by cases sim <;> rfl

/-! ## ExperimentsPanel -/

/-- The running flag is the key of the running test. -/
structure ExperimentsView where
  running : Option String
  results : List (String × Json)
  error : Option String
  demoMode : Option Bool

/-- A test with the value of its parameter. -/
structure TestConfig where
  key : String
  paramKey : String
  value : String

def experimentsMessage (test : TestConfig) (view : ExperimentsView) :
    Message → ExperimentsView × Bool
  | .result msg _ =>
      ({ view with results := setKey test.key msg view.results, running := none }, true)
  | .error message _ => ({ view with error := some message, running := none }, true)
  | _ => (view, false)

def experimentsPanel : Code where
  Arg := TestConfig
  View := ExperimentsView
  Sim := Unit
  Watched := List (String × Json) × Option String
  initial := ⟨none, [], none, none⟩
  running view := view.running.isSome
  watched view := (view.results, view.running)
  request test := .object [("test", .string test.key), (test.paramKey, .number test.value)]
  begin test view :=
    if view.running.isSome then none
    else some { view with running := some test.key, error := none }
  onopen view := { view with demoMode := some false }
  onmessage test message view := experimentsMessage test view message
  runSimulated _ view := ({ view with demoMode := some true }, ())
  tick test _ view :=
    ({ view with
        results := setKey test.key (simulateExperimentResult test.key) view.results
        running := none }, none)
  begin_running _ view view' begun := by
    split at begun
    · cases begun
    · next idle =>
        cases Option.some.inj begun
        exact ⟨by simpa using idle, rfl⟩
  onopen_running _ := rfl
  onmessage_running _ message view := by cases message <;> rfl
  runSimulated_running _ _ := rfl
  tick_running _ _ _ := rfl

/-! ## ChaosPanel -/

/-- The running flag is the key of the running action. -/
structure ChaosView where
  running : Option String
  samples : List Json
  results : List (String × Json)
  error : Option String
  demoMode : Option Bool

structure ActionConfig where
  key : String
  params : List (String × String)

structure ChaosSim where
  sim : SimulatedChaos
  idx : Nat

def chaosMessage (action : ActionConfig) (view : ChaosView) : Message → ChaosView × Bool
  | .sample msg => ({ view with samples := lastOf 19 view.samples ++ [msg] }, false)
  | .result msg _ =>
      ({ view with results := setKey action.key msg view.results, running := none }, true)
  | .error message _ => ({ view with error := some message, running := none }, true)
  | _ => (view, false)

def chaosTick (action : ActionConfig) (sim : ChaosSim) (view : ChaosView) :
    ChaosView × Option ChaosSim :=
  match sim.sim.samples[sim.idx]? with
  | some sample =>
      ({ view with samples := lastOf 19 view.samples ++ [sample] },
        some { sim with idx := sim.idx + 1 })
  | none =>
      ({ view with
          results := setKey action.key sim.sim.result view.results, running := none }, none)

def chaosPanel : Code where
  Arg := ActionConfig
  View := ChaosView
  Sim := ChaosSim
  Watched := List Json × List (String × Json) × Option String
  initial := ⟨none, [], [], none, none⟩
  running view := view.running.isSome
  watched view := (view.samples, view.results, view.running)
  request action := .object <| ("action", .string action.key) ::
    action.params.map fun param => (param.1, .number param.2)
  begin action view :=
    if view.running.isSome then none
    else some { view with running := some action.key, samples := [], error := none }
  onopen view := { view with demoMode := some false }
  onmessage action message view := chaosMessage action view message
  runSimulated action view :=
    ({ view with demoMode := some true }, ⟨simulateChaos action.key, 0⟩)
  tick := chaosTick
  begin_running _ view view' begun := by
    split at begun
    · cases begun
    · next idle =>
        cases Option.some.inj begun
        exact ⟨by simpa using idle, rfl⟩
  onopen_running _ := rfl
  onmessage_running _ message view := by cases message <;> rfl
  runSimulated_running _ _ := rfl
  tick_running action sim view := by
    unfold chaosTick
    split <;> rfl

inductive PanelName where
  | patchRunner
  | liveBenchmarkRunner
  | experimentsPanel
  | chaosPanel
  deriving DecidableEq, Repr

def panelCode : PanelName → Code
  | .patchRunner => patchRunner
  | .liveBenchmarkRunner => liveBenchmarkRunner
  | .experimentsPanel => experimentsPanel
  | .chaosPanel => chaosPanel

end KernelSprint.Panels

import KernelSprint.Lib.Pool
import KernelSprint.Web.Panels

/-!
# When a panel accepts the next run

The running flag is cleared by a result or error message and by the end of a
simulation.  A connection that the server closes before either leaves it set.
-/

set_option autoImplicit false

namespace KernelSprint.PanelRelease

open Labelled LivePanel Panels

variable {code : Code}

/-- Once the socket of the newest run is closed and neither its timer nor a
simulation is pending, the running flag is cleared. -/
def Usable (_panel : Panel code) (_label : Label code) (next : Panel code) : Prop :=
  ∀ run, next.runs.getLast? = some run → run.sock = .closed → run.timer = false →
    run.sims = [] → code.running next.view = false

/-- The close event reaches the newest run's open socket only when the running
flag is cleared. -/
def ClosedWhenCleared (panel : Panel code) (label : Label code) (_next : Panel code) : Prop :=
  ∀ index run, label = .on index .close → index + 1 = panel.runs.length →
    panel.runs[index]? = some run → run.sock = .opened → code.running panel.view = false

/-- Something of the run is still to clear the flag. -/
def Busy (run : Run code) : Prop :=
  run.sock = .connecting ∨ run.sock = .opened ∨ run.sims ≠ []

structure Working (panel : Panel code) : Prop where
  sound : ∀ run ∈ panel.runs, Sound run
  busy : code.running panel.view = true →
    ∀ index run, index + 1 = panel.runs.length → panel.runs[index]? = some run → Busy run

/-- As long as the flag stays set, a busy run stays busy. -/
theorem busy_fires (run run' : Run code) (view view' : code.View) (event : Event)
    (busy : Busy run)
    (cleared : event = .close → run.sock = .opened → code.running view = false)
    (fires : Fires run view event run' view') (running : code.running view' = true) :
    Busy run' := by
  cases fires with
  | timeout timed => exact Or.inr (Or.inr (by simp [Run.simulate]))
  | opened sock => exact Or.inr (Or.inl rfl)
  | message message sock keeps => exact Or.inr (Or.inl sock)
  | last message sock closes =>
      rw [code.onmessage_running, closes] at running
      cases running
  | error delivered => exact Or.inr (Or.inr (by simp [Run.simulate]))
  | tick index sim sim' found continues =>
      have pending : run.sims ≠ [] := List.ne_nil_of_mem (List.mem_of_getElem? found)
      exact Or.inr (Or.inr (by simpa using pending))
  | finish index sim found ends =>
      rw [code.tick_running, ends] at running
      cases running
  | close delivered =>
      rcases busy with sock | sock | pending
      · rw [sock] at delivered
        cases delivered
      · exact absurd ((cleared rfl sock).symm.trans running) (by simp)
      · exact Or.inr (Or.inr pending)

/-- Only the start of a run sets the flag. -/
theorem running_fires (run run' : Run code) (view view' : code.View) (event : Event)
    (fires : Fires run view event run' view') (running : code.running view' = true) :
    code.running view = true := by
  cases fires with
  | timeout timed => rwa [code.runSimulated_running] at running
  | opened sock => rwa [code.onopen_running] at running
  | message message sock keeps =>
      rw [code.onmessage_running, keeps] at running
      exact running
  | last message sock closes =>
      rw [code.onmessage_running, closes] at running
      cases running
  | error delivered => rwa [code.runSimulated_running] at running
  | close delivered => exact running
  | tick index sim sim' found continues =>
      rw [code.tick_running, continues] at running
      exact running
  | finish index sim found ends =>
      rw [code.tick_running, ends] at running
      cases running

theorem working_step (panel next : Panel code) (label : Label code) (working : Working panel)
    (met : ClosedWhenCleared panel label next)
    (stepped : (machine code).step panel label = some next) : Working next := by
  refine ⟨sound_step panel next label working.sound stepped, ?_⟩
  intro running index newest last found
  cases label with
  | start arg throws =>
      obtain ⟨started, -, -, runs, fresh⟩ := start_some panel next arg throws stepped
      have latest : newest = started := by
        rw [runs, List.length_append, List.length_singleton, Nat.add_right_cancel_iff] at last
        rw [runs, last, List.getElem?_concat_length] at found
        exact (Option.some.inj found).symm
      rw [latest]
      rcases fresh with ⟨sock, -, -, -, -⟩ | ⟨-, -, sims, -, -⟩
      · exact Or.inl sock
      · have pending : started.sims ≠ [] := List.ne_nil_of_length_pos (by omega)
        exact Or.inr (Or.inr pending)
  | on acting event =>
      obtain ⟨run, run', view', hit, ran, rfl⟩ := on_some panel next acting event stepped
      have fires := fires_of_on run run' panel.view view' event ran
      have before := running_fires run run' panel.view view' event fires running
      rw [List.length_set] at last
      rcases Interleaving.getElem?_set_cases _ _ _ _ _ found with ⟨rfl, rfl⟩ | ⟨-, old⟩
      · exact busy_fires run newest panel.view view' event
          (working.busy before index run last hit)
          (fun close sock => met index run (by rw [close]) last hit sock) fires running
      · exact working.busy before index newest last old

theorem usable_of_working (panel next : Panel code) (label : Label code)
    (working : Working next) : Usable panel label next := by
  intro run newest sock timer sims
  by_contra uncleared
  have running : code.running next.view = true := by simpa using uncleared
  rw [List.getLast?_eq_getElem?] at newest
  have inside := (List.getElem?_eq_some_iff.mp newest).1
  rcases working.busy running (next.runs.length - 1) run (by omega) newest with
    connecting | opened | pending
  · rw [sock] at connecting
    cases connecting
  · rw [sock] at opened
    cases opened
  · exact pending sims

theorem usable_of_cleared (schedule : List (Label code))
    (cleared : (machine code).Along ClosedWhenCleared schedule .mounted) :
    (machine code).Along Usable schedule .mounted := by
  refine (machine code).along_of_along Working _ _ ?_ schedule _
    ⟨List.forall_mem_nil _, fun _ _ _ _ found => by cases found⟩ cleared
  intro panel label next working met stepped
  have working' := working_step panel next label working met stepped
  exact ⟨working', usable_of_working panel next label working'⟩

/-- A clean close of the newest run's open socket leaves nothing behind that
could clear the flag. -/
theorem cleared_of_usable (panel next : Panel code) (label : Label code)
    (sound : ∀ run ∈ panel.runs, Sound run) (usable : Usable panel label next)
    (stepped : (machine code).step panel label = some next) :
    ClosedWhenCleared panel label next := by
  rintro index run rfl last found sock
  obtain ⟨acting, run', view', hit, ran, rfl⟩ := on_some panel next index .close stepped
  cases Option.some.inj (found.symm.trans hit)
  have runSound := sound run (List.mem_of_getElem? found)
  have untimed : run.timer = false := by
    cases timed : run.timer with
    | false => rfl
    | true => exact absurd ((runSound.timed timed).symm.trans sock) (by simp)
  cases fires_of_on run run' panel.view view' .close ran with
  | close delivered =>
      refine usable { run with sock := .closed } ?_ rfl untimed (runSound.talking sock).1
      rw [List.getLast?_eq_getElem?, List.length_set, ← last, Nat.add_sub_cancel]
      exact List.getElem?_set_self (List.getElem?_eq_some_iff.mp found).1

/-- A panel whose run is over accepts the next one exactly as long as no open
socket is closed before the running flag is cleared. -/
theorem panel_usable_iff (name : PanelName) (schedule : List (Label (panelCode name))) :
    (machine (panelCode name)).Along Usable schedule .mounted ↔
      (machine (panelCode name)).Along ClosedWhenCleared schedule .mounted := by
  constructor
  · refine (machine (panelCode name)).along_of_along (fun panel => ∀ run ∈ panel.runs, Sound run)
      _ _ ?_ schedule _ (List.forall_mem_nil _)
    intro panel label next sound usable stepped
    exact ⟨sound_step panel next label sound stepped,
      cleared_of_usable panel next label sound usable stepped⟩
  · exact usable_of_cleared schedule

/-! ## A server that closes after its last message -/

/-- A result or an error. -/
def Concludes : Message → Prop
  | .result _ _ => True
  | .error _ _ => True
  | _ => False

/-- No event of the run tells that it is over. -/
def Unconcluded (index : Nat) (schedule : List (Label code)) : Prop :=
  (∀ message, .on index (.message message) ∈ schedule → ¬ Concludes message) ∧
    .on index .error ∉ schedule

/-- A close event comes only after a result, an error message or an error. -/
def ClosedWhenConcluded (schedule : List (Label code)) : Prop :=
  ∀ earlier index later, schedule = earlier ++ .on index .close :: later →
    ¬ Unconcluded index earlier

theorem concludes_closes (name : PanelName) (arg : (panelCode name).Arg) (message : Message)
    (view : (panelCode name).View) (concludes : Concludes message) :
    ((panelCode name).onmessage arg message view).2 = true := by
  cases message with
  | result msg data => cases name <;> rfl
  | error message stage => cases name <;> rfl
  | stage stage status => cases concludes
  | output line => cases concludes
  | sample msg => cases concludes
  | start => cases concludes

/-- What the events so far say about a socket that is not closed. -/
structure Talking (schedule : List (Label code)) (panel : Panel code) : Prop where
  known : ∀ index event, .on index event ∈ schedule → index < panel.runs.length
  unconcluded : ∀ index run, panel.runs[index]? = some run →
    run.sock = .connecting ∨ run.sock = .opened → Unconcluded index schedule

theorem unconcluded_concat {index : Nat} {schedule : List (Label code)} (label : Label code)
    (before : Unconcluded index schedule)
    (message : ∀ message, label = .on index (.message message) → ¬ Concludes message)
    (error : label ≠ .on index .error) : Unconcluded index (schedule ++ [label]) := by
  refine ⟨fun said member => ?_, fun member => ?_⟩
  · rcases List.mem_append.mp member with old | new
    · exact before.1 said old
    · exact message said (List.mem_singleton.mp new).symm
  · rcases List.mem_append.mp member with old | new
    · exact before.2 old
    · exact error (List.mem_singleton.mp new).symm

/-- The socket of a run that goes on is as before, or it has just opened. -/
theorem talking_fires (closes : ∀ arg message view, Concludes message →
      (code.onmessage arg message view).2 = true)
    (run run' : Run code) (view view' : code.View) (event : Event)
    (fires : Fires run view event run' view')
    (talks : run'.sock = .connecting ∨ run'.sock = .opened) :
    (run.sock = .connecting ∨ run.sock = .opened) ∧
      (∀ message, event = .message message → ¬ Concludes message) ∧ event ≠ .error := by
  cases fires with
  | timeout timed =>
      cases sock : run.sock <;> simp [Run.simulate, Sock.close, sock] at talks
  | opened connecting => exact ⟨Or.inl connecting, by simp, by simp⟩
  | message message opened keeps =>
      refine ⟨Or.inr opened, fun said same concludes => ?_, by simp⟩
      cases same
      rw [closes run.arg message view concludes] at keeps
      cases keeps
  | last message opened closes => simp at talks
  | error delivered => simp [Run.simulate] at talks
  | close delivered => simp at talks
  | tick index sim sim' found continues => exact ⟨talks, by simp, by simp⟩
  | finish index sim found ends => exact ⟨talks, by simp, by simp⟩

theorem talking_step (closes : ∀ arg message view, Concludes message →
      (code.onmessage arg message view).2 = true)
    (schedule : List (Label code)) (panel next : Panel code) (label : Label code)
    (talking : Talking schedule panel) (stepped : (machine code).step panel label = some next) :
    Talking (schedule ++ [label]) next := by
  cases label with
  | start arg throws =>
      obtain ⟨started, -, -, runs, -⟩ := start_some panel next arg throws stepped
      have known : ∀ index event, .on index event ∈ schedule ++ [Label.start arg throws] →
          index < panel.runs.length := by
        intro index event member
        rcases List.mem_append.mp member with old | new
        · exact talking.known index event old
        · cases List.mem_singleton.mp new
      refine ⟨fun index event member => ?_, fun index run found talks => ?_⟩
      · rw [runs, List.length_append]
        exact Nat.lt_add_right _ (known index event member)
      · by_cases old : index < panel.runs.length
        · rw [runs, List.getElem?_append_left old] at found
          exact unconcluded_concat _ (talking.unconcluded index run found talks) nofun nofun
        · exact ⟨fun message member => absurd (known _ _ member) old,
            fun member => absurd (known _ _ member) old⟩
  | on acting event =>
      obtain ⟨run, run', view', hit, ran, rfl⟩ := on_some panel next acting event stepped
      have fires := fires_of_on run run' panel.view view' event ran
      refine ⟨fun index other member => ?_, fun index newest found talks => ?_⟩
      · rw [List.length_set]
        rcases List.mem_append.mp member with old | new
        · exact talking.known index other old
        · cases List.mem_singleton.mp new
          exact (List.getElem?_eq_some_iff.mp hit).1
      · rcases Interleaving.getElem?_set_cases _ _ _ _ _ found with ⟨rfl, rfl⟩ | ⟨apart, old⟩
        · obtain ⟨before, message, error⟩ :=
            talking_fires closes run newest panel.view view' event fires talks
          refine unconcluded_concat _ (talking.unconcluded index run hit before)
            (fun said same => message said ?_) (fun same => error ?_)
          · cases same
            rfl
          · cases same
            rfl
        · refine unconcluded_concat _ (talking.unconcluded index newest old talks)
            (fun said same => ?_) (fun same => ?_)
          · cases same
            exact absurd rfl apart
          · cases same
            exact absurd rfl apart

/-- A panel stays usable with a server that closes a connection only after a
result or an error. -/
theorem usable_when_concluded (name : PanelName) (schedule : List (Label (panelCode name)))
    (concluded : ClosedWhenConcluded schedule) :
    (machine (panelCode name)).Along Usable schedule .mounted := by
  have cleared : (machine (panelCode name)).Along ClosedWhenCleared schedule .mounted := by
    refine (machine (panelCode name)).along_of_at _ schedule _ ?_
    rintro earlier label later panel next split reached stepped index run rfl last found sock
    have talking : Talking earlier panel := by
      refine (machine (panelCode name)).history Talking .mounted ⟨nofun, fun _ _ found => by
        cases found⟩ ?_ earlier panel reached
      exact fun schedule panel label next _ talking stepped => talking_step
        (fun arg message view => concludes_closes name arg message view) schedule panel next label
        talking stepped
    exact absurd (talking.unconcluded index run found (Or.inr sock))
      (concluded earlier index later split)
  exact usable_of_cleared schedule cleared

/-- The server accepts and closes the connection without a result. -/
def closedEarly : List (Label experimentsPanel) :=
  [.start ⟨"process_creation", "iterations", "2000"⟩ false, .on 0 .opened,
    .on 0 (.message .start), .on 0 .close]

theorem panel_left_running :
    ∃ panel run, (machine experimentsPanel).exec closedEarly .mounted = some panel ∧
      panel.runs.getLast? = some run ∧ run.sock = .closed ∧ run.timer = false ∧
      run.sims = [] ∧ experimentsPanel.running panel.view = true := by
  refine ⟨_, _, rfl, rfl, rfl, rfl, rfl, rfl⟩

end KernelSprint.PanelRelease

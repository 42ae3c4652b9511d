import KernelSprint.Lib.Pool
import KernelSprint.Web.Panels

/-!
# Who produces the view of a panel

A run has one producer, its socket or one simulation, exactly as long as no
error event reaches a socket that is no longer connecting.  The timer closes
a connecting socket and starts the simulation; the error event that closing
it entails starts a second one.
-/

set_option autoImplicit false

namespace KernelSprint.PanelProducers

open Labelled Sockets LivePanel Panels

variable {code : Code}

/-- No simulation twice, none after the socket has opened, and no effect of an
earlier run. -/
structure OneProducer (panel : Panel code) (label : Label code) (next : Panel code) : Prop where
  once : ∀ run ∈ next.runs, run.simStarts ≤ 1
  notOpened : ∀ run ∈ next.runs, run.opened = true → run.simStarts = 0
  newest : ∀ index event, label = .on index event → index + 1 < panel.runs.length →
    code.watched next.view = code.watched panel.view

/-- An error event is delivered to a connecting socket only: neither opened nor
given up by the timer. -/
def ErrorsWhileConnecting (panel : Panel code) (label : Label code)
    (_next : Panel code) : Prop :=
  ∀ index run, label = .on index .error → panel.runs[index]? = some run →
    run.sock = .connecting

/-- Nothing of the run can change the view any more. -/
structure Inert (run : Run code) : Prop where
  timer : run.timer = false
  sims : run.sims = []
  notConnecting : run.sock ≠ .connecting
  notOpened : run.sock ≠ .opened

structure Single (run : Run code) : Prop where
  sound : Sound run
  once : run.simStarts ≤ 1
  notOpened : run.opened = true → run.simStarts = 0

/-- Every run has one producer, and only the newest one has it still. -/
structure Produces (panel : Panel code) : Prop where
  single : ∀ run ∈ panel.runs, Single run
  inert : ∀ index run, panel.runs[index]? = some run →
    (index + 1 < panel.runs.length ∨ code.running panel.view = false) → Inert run

theorem single_fires (run run' : Run code) (view view' : code.View) (event : Event)
    (single : Single run) (connecting : event = .error → run.sock = .connecting)
    (fires : Fires run view event run' view') : Single run' := by
  refine ⟨sound_fires run run' view view' event single.sound fires, ?_, ?_⟩
  · have once := single.once
    cases fires with
    | timeout timed =>
        have starts := (single.sound.connecting (single.sound.timed timed)).2.2.1
        simp [Run.simulate, starts]
    | error delivered =>
        have starts := (single.sound.connecting (connecting rfl)).2.2.1
        simp [Run.simulate, starts]
    | _ => exact once
  · have notOpened := single.notOpened
    cases fires with
    | timeout timed =>
        have unopened := (single.sound.connecting (single.sound.timed timed)).2.2.2
        simp [Run.simulate, unopened]
    | error delivered =>
        have unopened := (single.sound.connecting (connecting rfl)).2.2.2
        simp [Run.simulate, unopened]
    | opened sock =>
        intro _
        exact (single.sound.connecting sock).2.2.1
    | _ => exact notOpened

/-- All that is left to an inert run is the close event. -/
theorem inert_fires (run run' : Run code) (view view' : code.View) (event : Event)
    (inert : Inert run) (connecting : event = .error → run.sock = .connecting)
    (fires : Fires run view event run' view') : view' = view ∧ Inert run' := by
  cases fires with
  | timeout timed => exact absurd (inert.timer.symm.trans timed) (by simp)
  | opened sock => exact absurd sock inert.notConnecting
  | message message sock keeps => exact absurd sock inert.notOpened
  | last message sock closes => exact absurd sock inert.notOpened
  | error delivered => exact absurd (connecting rfl) inert.notConnecting
  | close delivered => exact ⟨rfl, inert.timer, inert.sims, by simp, by simp⟩
  | tick index sim sim' found continues =>
      rw [inert.sims] at found
      cases found
  | finish index sim found ends =>
      rw [inert.sims] at found
      cases found

/-- What clears the running flag is the last thing that a run does. -/
theorem inert_of_cleared (run run' : Run code) (view view' : code.View) (event : Event)
    (single : Single run) (fires : Fires run view event run' view')
    (running : code.running view = true) (cleared : code.running view' = false) :
    Inert run' := by
  have same : code.running view' = code.running view → False := by
    intro kept
    rw [kept, running] at cleared
    cases cleared
  cases fires with
  | timeout timed => exact (same (code.runSimulated_running _ _)).elim
  | opened sock => exact (same (code.onopen_running _)).elim
  | message message sock keeps =>
      exact (same (by rw [code.onmessage_running, keeps]; rfl)).elim
  | error delivered => exact (same (code.runSimulated_running _ _)).elim
  | close delivered => exact (same rfl).elim
  | tick index sim sim' found continues =>
      exact (same (by rw [code.tick_running, continues]; rfl)).elim
  | last message sock closes =>
      exact ⟨rfl, (single.sound.talking sock).1, by simp, by simp⟩
  | finish index sim found ends =>
      have inside := (List.getElem?_eq_some_iff.mp found).1
      have few := single.sound.pending.trans single.once
      have pending : run.sims ≠ [] := List.ne_nil_of_mem (List.mem_of_getElem? found)
      have unconnected : run.sock ≠ .connecting := fun sock =>
        pending (single.sound.connecting sock).2.1
      refine ⟨?_, ?_, unconnected, fun sock => pending (single.sound.talking sock).1⟩
      · cases timed : run.timer with
        | false => rfl
        | true => exact absurd (single.sound.timed timed) unconnected
      · refine List.eq_nil_of_length_eq_zero ?_
        rw [List.length_eraseIdx_of_lt inside]
        omega

theorem produces_step (panel next : Panel code) (label : Label code) (produces : Produces panel)
    (met : ErrorsWhileConnecting panel label next)
    (stepped : (machine code).step panel label = some next) :
    Produces next ∧ OneProducer panel label next := by
  cases label with
  | start arg throws =>
      have sound := sound_step panel next (.start arg throws)
        (fun run member => (produces.single run member).sound) stepped
      obtain ⟨started, idle, running, runs, fresh⟩ := start_some panel next arg throws stepped
      have single : ∀ run ∈ next.runs, Single run := by
        intro run member
        have runSound := sound run member
        rw [runs] at member
        rcases List.mem_append.mp member with old | new
        · exact produces.single run old
        · rw [List.mem_singleton.mp new] at runSound ⊢
          rcases fresh with ⟨-, -, -, starts, opened⟩ | ⟨-, -, -, starts, opened⟩
          · exact ⟨runSound, by simp [starts], by simp [opened]⟩
          · exact ⟨runSound, by simp [starts], by simp [opened]⟩
      refine ⟨⟨single, ?_⟩, fun run member => (single run member).once,
        fun run member => (single run member).notOpened, fun _ _ other => by cases other⟩
      intro index run found last
      rcases last with earlier | cleared
      · rw [runs, List.length_append, List.length_singleton] at earlier
        rw [runs, List.getElem?_append_left (by omega)] at found
        exact produces.inert index run found (Or.inr idle)
      · exact absurd (running.symm.trans cleared) (by simp)
  | on index event =>
      obtain ⟨run, run', view', found, ran, rfl⟩ := on_some panel next index event stepped
      have fires := fires_of_on run run' panel.view view' event ran
      have connecting : event = .error → run.sock = .connecting :=
        fun error => met index run (by rw [error]) found
      have runSingle := produces.single run (List.mem_of_getElem? found)
      have single : ∀ other ∈ panel.runs.set index run', Single other := by
        intro other member
        rcases List.mem_or_eq_of_mem_set member with old | rfl
        · exact produces.single other old
        · exact single_fires run other panel.view view' event runSingle connecting fires
      have quiet : index + 1 < panel.runs.length ∨ code.running panel.view = false →
          view' = panel.view ∧ Inert run' := fun past =>
        inert_fires run run' panel.view view' event (produces.inert index run found past)
          connecting fires
      refine ⟨⟨single, ?_⟩, fun other member => (single other member).once,
        fun other member => (single other member).notOpened, ?_⟩
      · intro otherIndex other hit last
        rw [List.length_set] at last
        rcases Interleaving.getElem?_set_cases _ _ _ _ _ hit with ⟨rfl, rfl⟩ | ⟨apart, old⟩
        · by_cases past : otherIndex + 1 < panel.runs.length ∨ code.running panel.view = false
          · exact (quiet past).2
          · rw [not_or, Bool.not_eq_false] at past
            exact inert_of_cleared run other panel.view view' event runSingle fires past.2
              (last.resolve_left past.1)
        · by_cases past : otherIndex + 1 < panel.runs.length
          · exact produces.inert otherIndex other old (Or.inl past)
          · have inside := (List.getElem?_eq_some_iff.mp old).1
            have bound := (List.getElem?_eq_some_iff.mp found).1
            have earlier : index + 1 < panel.runs.length := by omega
            have cleared := last.resolve_left past
            rw [(quiet (Or.inl earlier)).1] at cleared
            exact produces.inert otherIndex other old (Or.inr cleared)
      · rintro _ _ ⟨rfl, rfl⟩ earlier
        exact congrArg code.watched (quiet (Or.inl earlier)).1

/-- An error event at a socket that has opened, or that the timer has closed,
starts a simulation too many. -/
theorem connecting_of_oneProducer (panel next : Panel code) (label : Label code)
    (sound : ∀ run ∈ panel.runs, Sound run) (one : OneProducer panel label next)
    (stepped : (machine code).step panel label = some next) :
    ErrorsWhileConnecting panel label next := by
  rintro index run rfl found
  obtain ⟨acting, run', view', hit, ran, rfl⟩ := on_some panel next index .error stepped
  cases Option.some.inj (found.symm.trans hit)
  have runSound := sound run (List.mem_of_getElem? found)
  have self := Interleaving.mem_set_self panel.runs index run run' found
  have once := one.once run' self
  have notOpened := one.notOpened run' self
  cases fires_of_on run run' panel.view view' .error ran with
  | error delivered =>
      simp only [Run.simulate] at once notOpened
      cases sock : run.sock with
      | connecting => rfl
      | opened =>
          have starts := notOpened (runSound.talking sock).2.2
          omega
      | closing wasOpen =>
          cases wasOpen with
          | true =>
              have starts := notOpened (runSound.closedOpen sock)
              omega
          | false =>
              have starts := runSound.closedEarly sock
              omega
      | errored => simp [sock, Sock.delivers] at delivered
      | closed => simp [sock, Sock.delivers] at delivered

/-- Over every sequence of runs and every order of events, each panel keeps to
one producer a run exactly as long as error events reach connecting sockets
only. -/
theorem one_producer_iff (name : PanelName) (schedule : List (Label (panelCode name))) :
    (machine (panelCode name)).Along OneProducer schedule .mounted ↔
      (machine (panelCode name)).Along ErrorsWhileConnecting schedule .mounted := by
  constructor
  · refine (machine (panelCode name)).along_of_along (fun panel => ∀ run ∈ panel.runs, Sound run)
      _ _ ?_ schedule _ (List.forall_mem_nil _)
    intro panel label next sound one stepped
    exact ⟨sound_step panel next label sound stepped,
      connecting_of_oneProducer panel next label sound one stepped⟩
  · refine (machine (panelCode name)).along_of_along Produces _ _ ?_ schedule _
      ⟨List.forall_mem_nil _, fun _ _ found => by cases found⟩
    intro panel label next produces met stepped
    exact produces_step panel next label produces met stepped

/-- No backend within two seconds: the timer, then the error event that closing
the connecting socket entails. -/
def timedOut : List (Label liveBenchmarkRunner) :=
  [.start "optimized" false, .on 0 .timeout, .on 0 .error]

theorem simulation_started_twice :
    ∃ panel run, (machine liveBenchmarkRunner).exec timedOut .mounted = some panel ∧
      panel.runs[0]? = some run ∧ run.simStarts = 2 := by
  refine ⟨_, _, rfl, rfl, rfl⟩

end KernelSprint.PanelProducers

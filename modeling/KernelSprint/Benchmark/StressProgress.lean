import KernelSprint.Benchmark.StressTest

/-!
# The stress test comes to an end

No state of `stress_test.c` is a deadlock, and between two readings of the
clock only the hogs can go on without bound.
-/

set_option autoImplicit false

namespace KernelSprint.StressTest

open Labelled Mutex

/-! ## The work that is left -/

/-- The hogs that have not returned. -/
def Hog.remaining : Hog → Nat
  | .spinning _ => 1
  | .returned => 0

/-- The steps of `main` up to the next reading of the clock, and those of the
workers that it has yet to create. -/
def Point.ahead (ncpus : Nat) : Point → Nat
  | .createHog i => 2 * (ncpus - i)
  | .clockStart => 0
  | .fork i _ => 2 * (forkCount - i) + (6 * pthreadCount + 2)
  | .waitpid i _ => 2 * (forkCount - i) - 1 + (6 * pthreadCount + 2)
  | .reset => 6 * pthreadCount + 2
  | .create i => 5 * (pthreadCount - i) + pthreadCount + 1
  | .join i => pthreadCount - i + 1
  | .check => 1
  | .clockNow => 0
  | .stop => 1 + ncpus
  | .joinHog i => ncpus - i
  | .exited _ => 0

/-- What is left of the round and of the other threads. -/
def Process.pending (ncpus : Nat) (process : Process) : Nat :=
  process.point.ahead ncpus + process.guarded.remaining +
    (process.hogThreads.map Hog.remaining).sum

/-- What a reading of the clock can add: a further round, or the end. -/
def clockCost (ncpus : Nat) : Nat := 2 * forkCount + 6 * pthreadCount + 2 + ncpus

/-- The steps that are neither a reading of the clock nor one of a hog. -/
def Event.works : Event → Bool
  | .clock _ | .hog _ => false
  | _ => true

def Event.cost (ncpus : Nat) : Event → Nat
  | .clock _ => clockCost ncpus
  | _ => 0

/-! ## Where `main` is, and what it has created -/

/-- The handles that `main` and `pthread_stress` hold are those of threads
that exist. -/
structure Placed (ncpus : Nat) (process : Process) : Prop where
  exclusive : process.guarded.Exclusive
  handles : ∀ id ∈ process.threads, id < process.guarded.threads.length
  point : match process.point with
    | .createHog i => i < ncpus
    | .fork i _ => i < forkCount
    | .waitpid i _ => i < forkCount
    | .create i => i < pthreadCount ∧ process.threads.length = i
    | .join i => i < pthreadCount ∧ process.threads.length = pthreadCount
    | .joinHog i => i < ncpus ∧ process.stopCpuHogs = true
    | _ => True

/-- The handles that the array `hogs` has by now. -/
def Point.handles (ncpus : Nat) : Point → Nat
  | .createHog i => i
  | _ => ncpus

/-- Every hog was created. -/
structure Manned (ncpus : Nat) (process : Process) : Prop where
  hogs : ∀ handle ∈ process.hogs, ∃ id, handle = some id ∧ id < process.hogThreads.length
  count : process.hogs.length = process.point.handles ncpus

variable {ncpus : Nat} {process next : Process} {event : Event}

theorem placed_of_guarded {guarded : Guarded Int} (placed : Placed ncpus process)
    (exclusive : guarded.Exclusive)
    (length : guarded.threads.length = process.guarded.threads.length) :
    Placed ncpus { process with guarded := guarded } :=
  ⟨exclusive, fun id member => length ▸ placed.handles id member, placed.point⟩

theorem placed_complain (placed : Placed ncpus process) (text : String) :
    Placed ncpus (process.complain text) :=
  ⟨placed.exclusive, placed.handles, placed.point⟩

theorem placed_forkLoop (placed : Placed ncpus process) (i failures : Nat) :
    Placed ncpus (process.forkLoop i failures) := by
  unfold Process.forkLoop
  split
  · rename_i more
    exact ⟨placed.exclusive, placed.handles, more⟩
  · exact ⟨placed.exclusive, placed.handles, trivial⟩

theorem placed_pthreadReturn (placed : Placed ncpus process) (result : Nat) :
    Placed ncpus (process.pthreadReturn result) :=
  ⟨placed.exclusive, placed.handles, trivial⟩

theorem placed_hogLoop (placed : Placed ncpus process) (stopped : process.stopCpuHogs = true)
    (i : Nat) : Placed ncpus (process.hogLoop ncpus i) := by
  unfold Process.hogLoop
  split
  · rename_i more
    exact ⟨placed.exclusive, placed.handles, more, stopped⟩
  · unfold Process.report
    split
    · exact ⟨placed.exclusive, placed.handles, trivial⟩
    · exact ⟨placed.exclusive, placed.handles, trivial⟩

theorem placed_start (ncpus : Nat) : Placed ncpus (Process.start ncpus) := by
  refine ⟨Guarded.exclusive_start 0, List.forall_mem_nil _, ?_⟩
  by_cases some : 0 < ncpus
  · simpa only [Process.start, if_pos some] using some
  · simp only [Process.start, if_neg some]

theorem placed_step (placed : Placed ncpus process)
    (stepped : process.act ncpus event = some next) : Placed ncpus next := by
  have exclusive := exclusive_step placed.exclusive stepped
  have at_ := placed.point
  cases event with
  | createHog created =>
      obtain ⟨i, here, point, same, _, _⟩ := Process.createHog_cases stepped
      have threads : next.threads = process.threads := by
        simp only [Process.act, Process.createHog, here] at stepped
        split at stepped <;> (cases Option.some.inj stepped; rfl)
      refine ⟨exclusive, fun id member => ?_, ?_⟩
      · rw [same]
        exact placed.handles id (threads ▸ member)
      · rw [point]
        by_cases again : i + 1 < ncpus
        · simpa only [if_pos again] using again
        · simp only [if_neg again]
  | fork error =>
      obtain ⟨i, failures, here, ⟨_, rfl⟩ | ⟨text, _, rfl⟩⟩ := Process.fork_cases stepped
      · simp only [here] at at_
        exact ⟨exclusive, placed.handles, at_⟩
      · exact placed_forkLoop (placed_complain placed _) _ _
  | waitpid result =>
      obtain ⟨i, failures, here, ⟨_, rfl⟩ | ⟨_, text, rfl⟩⟩ := Process.waitpid_cases stepped
      · exact placed_forkLoop placed _ _
      · exact placed_forkLoop (placed_complain placed _) _ _
  | create created =>
      obtain ⟨i, here, ⟨_, rfl⟩ | ⟨_, text, rfl⟩⟩ := Process.create_cases stepped
      · simp only [here] at at_
        obtain ⟨within, created⟩ := at_
        have handles : ∀ id ∈ process.threads ++ [process.guarded.threads.length],
            id < process.guarded.spawn.threads.length := by
          intro id member
          simp only [Guarded.spawn, List.length_append, List.length_singleton]
          rcases List.mem_append.mp member with old | new
          · exact Nat.lt_succ_of_lt (placed.handles id old)
          · rw [List.mem_singleton.mp new]
            exact Nat.lt_succ_self _
        refine ⟨exclusive, handles, ?_⟩
        have longer : (process.threads ++ [process.guarded.threads.length]).length = i + 1 := by
          rw [List.length_append, created, List.length_singleton]
        by_cases again : i + 1 < pthreadCount
        · simp only [if_pos again]
          exact ⟨again, longer⟩
        · simp only [if_neg again]
          exact ⟨by omega, longer.trans (by omega)⟩
      · exact placed_pthreadReturn (placed_complain placed _) 1
  | clock sec =>
      rcases Process.clock_cases stepped with ⟨_, rfl⟩ | ⟨_, rfl⟩ | ⟨_, rfl⟩
      · have begun : Placed ncpus { process with started := sec } :=
          ⟨placed.exclusive, placed.handles, placed.point⟩
        exact placed_forkLoop begun 0 0
      · exact placed_forkLoop placed _ _
      · exact ⟨placed.exclusive, placed.handles, trivial⟩
  | main =>
      rcases Process.main_cases stepped with
        ⟨_, rfl⟩ | ⟨i, here, joined⟩ | ⟨_, rfl⟩ | ⟨here, rfl⟩ | ⟨i, here, rfl⟩
      · have some : 0 < pthreadCount := by decide
        refine ⟨exclusive, List.forall_mem_nil _, ?_⟩
        simp only [if_pos some]
        exact ⟨some, rfl⟩
      · simp only [here] at at_
        rw [(Process.join_cases joined).2]
        refine ⟨placed.exclusive, placed.handles, ?_⟩
        by_cases again : i + 1 < pthreadCount
        · simp only [Process.goto, if_pos again]
          exact ⟨again, at_.2⟩
        · simp only [Process.goto, if_neg again]
      · unfold Process.check
        split
        · exact placed_pthreadReturn (placed_complain placed _) 1
        · exact placed_pthreadReturn placed 0
      · have stopped : Placed ncpus { process with stopCpuHogs := true } :=
          ⟨placed.exclusive, placed.handles, by simp only [here]⟩
        exact placed_hogLoop stopped rfl 0
      · simp only [here] at at_
        exact placed_hogLoop placed at_.2 (i + 1)
  | worker index =>
      obtain ⟨guarded, advanced, rfl⟩ := Process.worker_cases stepped
      exact placed_of_guarded placed exclusive
        (Guarded.length_advance _ _ _ index advanced)
  | hog index =>
      obtain ⟨x, _, rfl⟩ := Process.hog_cases stepped
      exact ⟨placed.exclusive, placed.handles, at_⟩

/-! ## The measure -/

theorem pending_forkLoop (process : Process) (i failures : Nat) :
    (process.forkLoop i failures).pending ncpus =
      2 * (forkCount - i) + (6 * pthreadCount + 2) + process.guarded.remaining +
        (process.hogThreads.map Hog.remaining).sum := by
  unfold Process.forkLoop
  split
  · rfl
  · rename_i done
    have none_ : forkCount - i = 0 := by omega
    simp only [Process.pending, Point.ahead, none_]
    omega

theorem pending_hogLoop (process : Process) (i : Nat) :
    (process.hogLoop ncpus i).pending ncpus =
      ncpus - i + process.guarded.remaining +
        (process.hogThreads.map Hog.remaining).sum := by
  unfold Process.hogLoop
  split
  · rfl
  · rename_i done
    have none_ : ncpus - i = 0 := by omega
    unfold Process.report
    split
    · simp only [none_]
      rfl
    · simp only [none_]
      rfl

theorem hogs_set (hogThreads : List Hog) (index : Nat) (x : BitVec 64) (hog : Hog)
    (found : hogThreads[index]? = some (.spinning x)) :
    ((hogThreads.set index hog).map Hog.remaining).sum + 1 =
      (hogThreads.map Hog.remaining).sum + hog.remaining :=
  Guarded.sum_set Hog.remaining hogThreads index (.spinning x) hog found

/-- Work lowers what is pending, a hog does not raise it, and a reading of the
clock raises it by no more than its cost. -/
theorem pending_step (placed : Placed ncpus process)
    (stepped : process.act ncpus event = some next) :
    next.pending ncpus + (if event.works then 1 else 0) ≤
      process.pending ncpus + event.cost ncpus := by
  have at_ := placed.point
  cases event with
  | createHog created =>
      obtain ⟨i, here, point, same, _, threads⟩ := Process.createHog_cases stepped
      simp only [here] at at_
      have ahead : next.point.ahead ncpus = 2 * (ncpus - (i + 1)) := by
        rw [point]
        split
        · rfl
        · simp only [Point.ahead]
          omega
      have spinning : (next.hogThreads.map Hog.remaining).sum ≤
          (process.hogThreads.map Hog.remaining).sum + 1 := by
        rcases threads with ⟨_, _, more⟩ | ⟨_, more⟩
        · simp [more, Hog.remaining]
        · simp [more]
      simp only [Process.pending, ahead, same]
      simp only [here, Point.ahead, Event.works, if_true, Event.cost]
      omega
  | fork error =>
      obtain ⟨i, failures, here, ⟨_, rfl⟩ | ⟨text, _, rfl⟩⟩ := Process.fork_cases stepped
      · simp only [here] at at_
        simp only [Process.pending, Process.goto, here, Point.ahead, Event.works, if_true,
          Event.cost]
        omega
      · simp only [here] at at_
        rw [pending_forkLoop]
        simp only [Process.pending, Process.complain, here, Point.ahead, Event.works, if_true,
          Event.cost]
        omega
  | waitpid result =>
      have lower : ∀ i failures failures' (lines : List String), i < forkCount →
          process.point = .waitpid i failures →
          ({ process with stderr := lines }.forkLoop (i + 1) failures').pending ncpus + 1 ≤
            process.pending ncpus := by
        intro i failures failures' lines within here
        rw [pending_forkLoop]
        simp only [Process.pending, here, Point.ahead]
        omega
      obtain ⟨i, failures, here, ⟨_, rfl⟩ | ⟨_, text, rfl⟩⟩ := Process.waitpid_cases stepped
      · simp only [here] at at_
        exact lower i failures _ process.stderr at_ here
      · simp only [here] at at_
        exact lower i failures _ _ at_ here
  | create created =>
      obtain ⟨i, here, ⟨_, rfl⟩ | ⟨_, text, rfl⟩⟩ := Process.create_cases stepped
      · simp only [here] at at_
        have ahead : (if i + 1 < pthreadCount then Point.create (i + 1) else .join 0).ahead
            ncpus = 5 * (pthreadCount - (i + 1)) + pthreadCount + 1 := by
          split
          · rfl
          · simp only [Point.ahead]
            omega
        simp only [Process.pending, ahead, Guarded.remaining_spawn]
        simp only [here, Point.ahead, Event.works, if_true, Event.cost]
        omega
      · simp only [Process.pending, Process.pthreadReturn, Process.complain, here, Point.ahead,
          Event.works, if_true, Event.cost]
        omega
  | clock sec =>
      simp only [Event.works, Event.cost, clockCost, Bool.false_eq_true, if_false]
      rcases Process.clock_cases stepped with ⟨here, rfl⟩ | ⟨here, rfl⟩ | ⟨here, rfl⟩
      · rw [pending_forkLoop]
        simp only [Process.pending, here, Point.ahead]
        omega
      · rw [pending_forkLoop]
        simp only [Process.pending, here, Point.ahead]
        omega
      · simp only [Process.pending, Process.goto, here, Point.ahead]
        omega
  | main =>
      simp only [Event.works, Event.cost, if_true]
      rcases Process.main_cases stepped with
        ⟨here, rfl⟩ | ⟨i, here, joined⟩ | ⟨here, rfl⟩ | ⟨here, rfl⟩ | ⟨i, here, rfl⟩
      · have some : 0 < pthreadCount := by decide
        simp only [Process.pending, if_pos some, here, Point.ahead, Guarded.reset,
          Guarded.remaining]
        omega
      · simp only [here] at at_
        have ahead : (if i + 1 < pthreadCount then Point.join (i + 1) else .check).ahead ncpus =
            pthreadCount - (i + 1) + 1 := by
          split
          · rfl
          · simp only [Point.ahead]
            omega
        rw [(Process.join_cases joined).2]
        simp only [Process.pending, Process.goto, ahead]
        simp only [here, Point.ahead]
        omega
      · unfold Process.check
        split
        · simp only [Process.pending, Process.pthreadReturn, Process.complain, here, Point.ahead]
          omega
        · simp only [Process.pending, Process.pthreadReturn, here, Point.ahead]
          omega
      · rw [pending_hogLoop]
        simp only [Process.pending, here, Point.ahead]
        omega
      · simp only [here] at at_
        rw [pending_hogLoop]
        simp only [Process.pending, here, Point.ahead]
        omega
  | worker index =>
      obtain ⟨guarded, advanced, rfl⟩ := Process.worker_cases stepped
      have fewer := Guarded.remaining_advance _ _ index advanced
      simp only [Process.pending, Event.works, if_true, Event.cost]
      omega
  | hog index =>
      obtain ⟨x, found, rfl⟩ := Process.hog_cases stepped
      have counted := hogs_set process.hogThreads index x
        (if process.stopCpuHogs then .returned else .spinning (x + 1)) found
      have fewer : (if process.stopCpuHogs then Hog.returned else .spinning (x + 1)).remaining ≤
          1 := by
        split <;> simp [Hog.remaining]
      simp only [Process.pending, Event.works, Event.cost, Bool.false_eq_true, if_false]
      omega

/-- Between two readings of the clock only the hogs can go on without bound:
the other steps of a run are bounded by the number of the readings. -/
theorem work_bounded (ncpus : Nat) (events : List Event) (process : Process)
    (run : (machine ncpus).exec events (Process.start ncpus) = some process) :
    events.countP Event.works + process.pending ncpus ≤
      2 * ncpus + (events.map (Event.cost ncpus)).sum := by
  obtain ⟨_, ⟨_, rfl⟩, bound⟩ := (machine ncpus).marked_of_rank
    (fun bound state => Placed ncpus state ∧ state.pending ncpus = bound) Event.works
    (Event.cost ncpus) (fun bound state event next ranked stepped => by
      obtain ⟨placed, rfl⟩ := ranked
      have acted := (Process.act_of_step stepped).2
      exact ⟨_, ⟨placed_step placed acted, rfl⟩, pending_step placed acted⟩)
    events _ (Process.start ncpus) process ⟨placed_start ncpus, rfl⟩ run
  have first : (Process.start ncpus).pending ncpus = 2 * ncpus := by
    by_cases some : 0 < ncpus
    · simp [Process.pending, Process.start, some, Point.ahead, Guarded.remaining]
    · have none_ : ncpus = 0 := by omega
      subst none_
      rfl
  omega

theorem work_bounded_firstIncrement : ∃ process,
    (machine 1).exec firstIncrement (Process.start 1) = some process ∧
      firstIncrement.countP Event.works + process.pending 1 ≤
        2 * 1 + (firstIncrement.map (Event.cost 1)).sum := by
  obtain ⟨process, run⟩ := Option.isSome_iff_exists.mp firstIncrement_runs
  exact ⟨process, run, work_bounded 1 firstIncrement process run⟩

/-! ## The end is in reach -/

/-- Without the array of `main` a hog cannot be joined. -/
def Event.mans : Event → Bool
  | .createHog created => created
  | _ => true

theorem handles_forkLoop (process : Process) (i failures : Nat) :
    (process.forkLoop i failures).point.handles ncpus = ncpus := by
  rcases forkLoop_point process i failures with point | point
  · rw [point]
    rfl
  · rw [point]
    rfl

theorem handles_hogLoop (process : Process) (i : Nat) :
    (process.hogLoop ncpus i).point.handles ncpus = ncpus := by
  unfold Process.hogLoop Process.report
  split
  · rfl
  · split <;> rfl

theorem hogs_forkLoop (process : Process) (i failures : Nat) :
    (process.forkLoop i failures).hogs = process.hogs ∧
      (process.forkLoop i failures).hogThreads = process.hogThreads := by
  unfold Process.forkLoop
  split
  · exact ⟨rfl, rfl⟩
  · exact ⟨rfl, rfl⟩

theorem hogs_hogLoop (process : Process) (i : Nat) :
    (process.hogLoop ncpus i).hogs = process.hogs ∧
      (process.hogLoop ncpus i).hogThreads = process.hogThreads := by
  unfold Process.hogLoop Process.report
  split
  · exact ⟨rfl, rfl⟩
  · split
    · exact ⟨rfl, rfl⟩
    · exact ⟨rfl, rfl⟩

theorem manned_of_same (manned : Manned ncpus process) (hogs : next.hogs = process.hogs)
    (hogThreads : next.hogThreads.length = process.hogThreads.length)
    (point : next.point.handles ncpus = process.point.handles ncpus) : Manned ncpus next := by
  refine ⟨?_, ?_⟩
  · rw [hogs, hogThreads]
    exact manned.hogs
  · rw [hogs, point]
    exact manned.count

theorem manned_start (ncpus : Nat) : Manned ncpus (Process.start ncpus) := by
  refine ⟨List.forall_mem_nil _, ?_⟩
  by_cases some : 0 < ncpus
  · simp only [Process.start, if_pos some, List.length_nil, Point.handles]
  · simp only [Process.start, if_neg some, List.length_nil, Point.handles]
    omega

theorem manned_step (placed : Placed ncpus process) (manned : Manned ncpus process)
    (mans : event.mans = true) (stepped : process.act ncpus event = some next) :
    Manned ncpus next := by
  cases event with
  | createHog created =>
      obtain ⟨i, here, point, _, _, ⟨_, hogs, threads⟩ | ⟨rfl, _⟩⟩ :=
        Process.createHog_cases stepped
      · have at_ := placed.point
        have counted := manned.count
        simp only [here, Point.handles] at at_ counted
        refine ⟨?_, ?_⟩
        · rw [hogs, threads, List.forall_mem_append, List.forall_mem_singleton]
          simp only [List.length_append, List.length_singleton]
          refine ⟨fun handle member => ?_, _, rfl, Nat.lt_succ_self _⟩
          obtain ⟨id, rfl, within⟩ := manned.hogs handle member
          exact ⟨id, rfl, Nat.lt_succ_of_lt within⟩
        · rw [hogs, List.length_append, counted, List.length_singleton, point]
          split
          · rfl
          · simp only [Point.handles]
            omega
      · cases mans
  | fork error =>
      obtain ⟨i, failures, here, ⟨_, rfl⟩ | ⟨text, _, rfl⟩⟩ := Process.fork_cases stepped
      · exact manned_of_same manned rfl rfl (by simp only [Process.goto, here, Point.handles])
      · obtain ⟨hogs, threads⟩ := hogs_forkLoop (process.complain ("fork: " ++ text)) (i + 1)
          (failures + 1)
        exact manned_of_same manned hogs (congrArg List.length threads)
          ((handles_forkLoop ..).trans (by rw [here]; rfl))
  | waitpid result =>
      obtain ⟨i, failures, here, ⟨_, rfl⟩ | ⟨_, text, rfl⟩⟩ := Process.waitpid_cases stepped
      · obtain ⟨hogs, threads⟩ := hogs_forkLoop process (i + 1) failures
        exact manned_of_same manned hogs (congrArg List.length threads)
          ((handles_forkLoop ..).trans (by rw [here]; rfl))
      · obtain ⟨hogs, threads⟩ := hogs_forkLoop (process.complain text) (i + 1) (failures + 1)
        exact manned_of_same manned hogs (congrArg List.length threads)
          ((handles_forkLoop ..).trans (by rw [here]; rfl))
  | create created =>
      obtain ⟨i, here, ⟨_, rfl⟩ | ⟨_, text, rfl⟩⟩ := Process.create_cases stepped
      · refine manned_of_same manned rfl rfl ?_
        rw [here]
        dsimp only
        split <;> rfl
      · exact manned_of_same manned rfl rfl (by rw [here]; rfl)
  | clock sec =>
      rcases Process.clock_cases stepped with ⟨here, rfl⟩ | ⟨here, rfl⟩ | ⟨here, rfl⟩
      · obtain ⟨hogs, threads⟩ := hogs_forkLoop { process with started := sec } 0 0
        exact manned_of_same manned hogs (congrArg List.length threads)
          ((handles_forkLoop ..).trans (by rw [here]; rfl))
      · obtain ⟨hogs, threads⟩ := hogs_forkLoop process 0 0
        exact manned_of_same manned hogs (congrArg List.length threads)
          ((handles_forkLoop ..).trans (by rw [here]; rfl))
      · exact manned_of_same manned rfl rfl (by rw [here]; rfl)
  | main =>
      rcases Process.main_cases stepped with
        ⟨here, rfl⟩ | ⟨i, here, joined⟩ | ⟨here, rfl⟩ | ⟨here, rfl⟩ | ⟨i, here, rfl⟩
      · refine manned_of_same manned rfl rfl ?_
        rw [here]
        dsimp only
        split <;> rfl
      · rw [(Process.join_cases joined).2]
        refine manned_of_same manned rfl rfl ?_
        rw [here]
        simp only [Process.goto]
        split <;> rfl
      · unfold Process.check
        split
        · exact manned_of_same manned rfl rfl (by rw [here]; rfl)
        · exact manned_of_same manned rfl rfl (by rw [here]; rfl)
      · obtain ⟨hogs, threads⟩ := hogs_hogLoop { process with stopCpuHogs := true } 0
        exact manned_of_same manned hogs (congrArg List.length threads)
          ((handles_hogLoop ..).trans (by rw [here]; rfl))
      · obtain ⟨hogs, threads⟩ := hogs_hogLoop process (i + 1)
        exact manned_of_same manned hogs (congrArg List.length threads)
          ((handles_hogLoop ..).trans (by rw [here]; rfl))
  | worker index =>
      obtain ⟨guarded, _, rfl⟩ := Process.worker_cases stepped
      exact manned_of_same manned rfl rfl rfl
  | hog index =>
      obtain ⟨x, _, rfl⟩ := Process.hog_cases stepped
      exact manned_of_same manned rfl List.length_set rfl

/-- The readings of the clock that a short run has yet to make. -/
def Point.stage : Point → Nat
  | .createHog _ | .clockStart => 2
  | .fork _ _ | .waitpid _ _ | .reset | .create _ | .join _ | .check | .clockNow => 1
  | .stop | .joinHog _ | .exited _ => 0

theorem stage_forkLoop (process : Process) (i failures : Nat) :
    (process.forkLoop i failures).point.stage = 1 := by
  rcases forkLoop_point process i failures with point | point
  · rw [point]
    rfl
  · rw [point]
    rfl

theorem stage_hogLoop (process : Process) (i : Nat) :
    (process.hogLoop ncpus i).point.stage = 0 := by
  unfold Process.hogLoop Process.report
  split
  · rfl
  · split <;> rfl

def Process.togo (ncpus : Nat) (process : Process) : Nat :=
  process.pending ncpus + process.point.stage * (clockCost ncpus + 1)

/-- Work that does not go back to an earlier stage brings the end nearer. -/
theorem togo_of_work (placed : Placed ncpus process)
    (stepped : process.act ncpus event = some next) (works : event.works = true)
    (stage : next.point.stage ≤ process.point.stage) :
    next.togo ncpus < process.togo ncpus := by
  have fewer := pending_step placed stepped
  have free : event.cost ncpus = 0 := by
    cases event with
    | clock sec => cases works
    | _ => rfl
  rw [works, free, if_pos rfl] at fewer
  have later := Nat.mul_le_mul_right (clockCost ncpus + 1) stage
  unfold Process.togo
  omega

/-- So does a reading of the clock that leads to the next stage. -/
theorem togo_of_clock (placed : Placed ncpus process) (sec : Int)
    (stepped : process.act ncpus (.clock sec) = some next)
    (stage : next.point.stage + 1 = process.point.stage) :
    next.togo ncpus < process.togo ncpus := by
  have bounded := pending_step placed stepped
  simp only [Event.works, Event.cost, Bool.false_eq_true, if_false] at bounded
  unfold Process.togo
  rw [← stage, Nat.succ_mul]
  omega

def Event.fine (event : Event) : Prop := event.succeeds = true ∧ event.mans = true

/-- A worker that `main` waits for has left, or some worker can go on. -/
theorem join_or_advance (placed : Placed ncpus process) (i : Nat)
    (here : process.point = .join i) :
    process.join i = some (process.goto
        (if i + 1 < pthreadCount then .join (i + 1) else .check)) ∨
      ∃ index guarded, process.guarded.advance (· + 1) index = some guarded := by
  have at_ := placed.point
  simp only [here] at at_
  obtain ⟨within, counted⟩ := at_
  obtain ⟨id, handle⟩ : ∃ id, process.threads[i]? = some id :=
    ⟨_, List.getElem?_eq_getElem (by omega)⟩
  obtain ⟨phase, found⟩ : ∃ phase, process.guarded.threads[id]? = some phase :=
    ⟨_, List.getElem?_eq_getElem (placed.handles id (List.mem_of_getElem? handle))⟩
  by_cases gone : phase = .left
  · left
    simp [Process.join, handle, found, gone]
  · right
    exact placed.exclusive.can_advance _ id phase found gone

/-- A hog that `main` waits for has returned, or it can. -/
theorem joinHog_or_return (placed : Placed ncpus process) (manned : Manned ncpus process)
    (i : Nat) (here : process.point = .joinHog i) :
    process.joinHog ncpus i = some (process.hogLoop ncpus (i + 1)) ∨
      ∃ (index : Nat) (x : BitVec 64), process.hogThreads[index]? = some (.spinning x) := by
  have at_ := placed.point
  have counted := manned.count
  simp only [here, Point.handles] at at_ counted
  obtain ⟨handle, hit⟩ : ∃ handle, process.hogs[i]? = some handle :=
    ⟨_, List.getElem?_eq_getElem (by omega)⟩
  obtain ⟨id, rfl, within⟩ := manned.hogs handle (List.mem_of_getElem? hit)
  obtain ⟨hog, found⟩ : ∃ hog, process.hogThreads[id]? = some hog :=
    ⟨_, List.getElem?_eq_getElem within⟩
  cases hog with
  | spinning x => exact Or.inr ⟨id, x, found⟩
  | returned =>
      left
      simp [Process.joinHog, hit, found]

/-- As long as the process runs, some step brings its end nearer. -/
theorem goes_on (placed : Placed ncpus process) (manned : Manned ncpus process)
    (running : process.exited = false) :
    ∃ event next, event.fine ∧ process.act ncpus event = some next ∧
      next.togo ncpus < process.togo ncpus := by
  have works : ∀ event next, event.fine → process.act ncpus event = some next →
      event.works = true → next.point.stage ≤ process.point.stage →
      ∃ event next, event.fine ∧ process.act ncpus event = some next ∧
        next.togo ncpus < process.togo ncpus :=
    fun event next fine stepped works stage =>
      ⟨event, next, fine, stepped, togo_of_work placed stepped works stage⟩
  cases here : process.point with
  | createHog i =>
      obtain ⟨next, stepped⟩ : ∃ next, process.act ncpus (.createHog true) = some next := by
        simp only [Process.act, Process.createHog, here, if_true, Option.some.injEq,
          exists_eq']
      obtain ⟨_, _, point, _⟩ := Process.createHog_cases stepped
      refine works (.createHog true) next ⟨rfl, rfl⟩ stepped rfl ?_
      rw [point, here]
      split <;> exact Nat.le_refl 2
  | clockStart =>
      have stepped : process.act ncpus (.clock 0) =
          some ({ process with started := 0 }.forkLoop 0 0) := by
        simp only [Process.act, Process.clock, here]
      refine ⟨.clock 0, _, ⟨rfl, rfl⟩, stepped, togo_of_clock placed 0 stepped ?_⟩
      rw [stage_forkLoop, here]
      rfl
  | fork i failures =>
      have stepped : process.act ncpus (.fork none) =
          some (process.goto (.waitpid i failures)) := by
        simp only [Process.act, Process.fork, here]
      refine works (.fork none) _ ⟨rfl, rfl⟩ stepped rfl ?_
      rw [here]
      exact Nat.le_refl 1
  | waitpid i failures =>
      have stepped : process.act ncpus (.waitpid (.ok exited42)) =
          some (process.forkLoop (i + 1) failures) := by
        simp only [Process.act, Process.waitpid, here]
        rw [if_neg (by decide)]
      refine works (.waitpid (.ok exited42)) _ ⟨by decide, rfl⟩ stepped rfl ?_
      rw [stage_forkLoop, here]
      exact Nat.le_refl 1
  | reset =>
      have some : 0 < pthreadCount := by decide
      have stepped : process.act ncpus .main = .some { process with
          guarded := process.guarded.reset 0
          threads := []
          point := .create 0 } := by
        simp only [Process.act, Process.main, here, if_pos some]
      refine works .main _ ⟨rfl, rfl⟩ stepped rfl ?_
      rw [here]
      exact Nat.le_refl 1
  | create i =>
      have stepped : process.act ncpus (.create true) = some { process with
          guarded := process.guarded.spawn
          threads := process.threads ++ [process.guarded.threads.length]
          point := if i + 1 < pthreadCount then .create (i + 1) else .join 0 } := by
        simp only [Process.act, Process.create, here, if_true]
      refine works (.create true) _ ⟨rfl, rfl⟩ stepped rfl ?_
      rw [here]
      dsimp only
      split <;> exact Nat.le_refl 1
  | join i =>
      rcases join_or_advance placed i here with joined | ⟨index, guarded, advanced⟩
      · have stepped : process.act ncpus .main = some (process.goto
            (if i + 1 < pthreadCount then .join (i + 1) else .check)) := by
          simp only [Process.act, Process.main, here, joined]
        refine works .main _ ⟨rfl, rfl⟩ stepped rfl ?_
        rw [here]
        dsimp only [Process.goto]
        split <;> exact Nat.le_refl 1
      · have stepped : process.act ncpus (.worker index) =
            some { process with guarded := guarded } := by
          simp only [Process.act, Process.worker, advanced, Option.map_some]
        exact works (.worker index) _ ⟨rfl, rfl⟩ stepped rfl (Nat.le_refl _)
  | check =>
      have stepped : process.act ncpus .main = some process.check := by
        simp only [Process.act, Process.main, here]
      refine works .main _ ⟨rfl, rfl⟩ stepped rfl ?_
      rw [here]
      unfold Process.check
      split <;> exact Nat.le_refl 1
  | clockNow =>
      have late : ¬ process.started + cpuHogDurationSec - process.started <
          cpuHogDurationSec := by omega
      have stepped : process.act ncpus (.clock (process.started + cpuHogDurationSec)) =
          some (process.goto .stop) := by
        simp only [Process.act, Process.clock, here, if_neg late]
      refine ⟨_, _, ⟨rfl, rfl⟩, stepped, togo_of_clock placed _ stepped ?_⟩
      rw [here]
      rfl
  | stop =>
      have stepped : process.act ncpus .main =
          some ({ process with stopCpuHogs := true }.hogLoop ncpus 0) := by
        simp only [Process.act, Process.main, here]
      refine works .main _ ⟨rfl, rfl⟩ stepped rfl ?_
      rw [stage_hogLoop]
      exact Nat.zero_le _
  | joinHog i =>
      have at_ := placed.point
      simp only [here] at at_
      rcases joinHog_or_return placed manned i here with joined | ⟨index, x, found⟩
      · have stepped : process.act ncpus .main = some (process.hogLoop ncpus (i + 1)) := by
          simp only [Process.act, Process.main, here, joined]
        refine works .main _ ⟨rfl, rfl⟩ stepped rfl ?_
        rw [stage_hogLoop]
        exact Nat.zero_le _
      · have stepped : process.act ncpus (.hog index) = some { process with
            hogThreads := process.hogThreads.set index .returned } := by
          simp only [Process.act, Process.hog, found, at_.2, if_true]
        refine ⟨.hog index, _, ⟨rfl, rfl⟩, stepped, ?_⟩
        have counted := hogs_set process.hogThreads index x .returned found
        simp only [Hog.remaining] at counted
        simp only [Process.togo, Process.pending]
        omega
  | exited code =>
      simp only [Process.exited, here, Bool.true_eq_false] at running

theorem reaches_end (ncpus : Nat) (process : Process) (placed : Placed ncpus process)
    (manned : Manned ncpus process) :
    ∃ rest final code, (∀ event ∈ rest, event.succeeds = true) ∧
      (machine ncpus).exec rest process = some final ∧ final.point = .exited code := by
  obtain ⟨rest, final, fine, finish, ended⟩ := (machine ncpus).reaches
    (fun state => Placed ncpus state ∧ Manned ncpus state) (Process.togo ncpus)
    (fun state => state.exited = true) Event.fine (by
      intro state both running
      have running : state.exited = false := by simpa using running
      obtain ⟨event, next, fine, acted, less⟩ := goes_on both.1 both.2 running
      refine ⟨event, next, fine, ?_, ⟨placed_step both.1 acted,
        manned_step both.1 both.2 fine.2 acted⟩, less⟩
      simp only [machine, running, Bool.false_eq_true, if_false, acted])
    process ⟨placed, manned⟩
  refine ⟨rest, final, ?_⟩
  unfold Process.exited at ended
  split at ended
  · rename_i code here
    exact ⟨code, fun event member => (fine event member).1, finish, here⟩
  · cases ended

/-- No state is a deadlock: whatever has failed so far, as long as every hog
was created the process can go on to its end without any further failure. -/
theorem end_in_reach (ncpus : Nat) (events : List Event) (process : Process)
    (manned : ∀ event ∈ events, event.mans = true)
    (run : (machine ncpus).exec events (Process.start ncpus) = some process) :
    ∃ rest final code, (∀ event ∈ rest, event.succeeds = true) ∧
      (machine ncpus).exec rest process = some final ∧ final.point = .exited code := by
  have kept : Placed ncpus process ∧ Manned ncpus process := by
    refine (machine ncpus).invariant_of_along
      (fun state => Placed ncpus state ∧ Manned ncpus state) (fun _ event _ => event.mans = true)
      ?_ events (Process.start ncpus) process ⟨placed_start ncpus, manned_start ncpus⟩
      ((machine ncpus).along_of_labels (fun event => event.mans = true) events _ manned) run
    intro state event next both mans stepped
    have acted := (Process.act_of_step stepped).2
    exact ⟨placed_step both.1 acted, manned_step both.1 both.2 mans acted⟩
  exact reaches_end ncpus process kept.1 kept.2

/-- The first `fork` is refused. -/
def refused : List Event := [.createHog true, .clock 0, .fork (some "Cannot allocate memory")]

theorem run_ends : ∃ process rest final code,
    (machine 1).exec refused (Process.start 1) = some process ∧
      (∀ event ∈ rest, event.succeeds = true) ∧
      (machine 1).exec rest process = some final ∧ final.point = .exited code := by
  have runs : ((machine 1).exec refused (Process.start 1)).isSome = true := by decide +kernel
  obtain ⟨process, run⟩ := Option.isSome_iff_exists.mp runs
  have manned : ∀ event ∈ refused, event.mans = true := by decide
  obtain ⟨rest, final, code, ending⟩ := end_in_reach 1 refused process manned run
  exact ⟨process, rest, final, code, run, ending⟩

theorem verdict_iff_run : ∃ events process,
    (machine 1).exec events (Process.start 1) = some process ∧
      process.point = .exited 0 ∧ process.stdout.getLast? = some passed := by
  obtain ⟨events, process, code, fine, run, ended⟩ :=
    reaches_end 1 (Process.start 1) (placed_start 1) (manned_start 1)
  obtain ⟨rfl, last⟩ := (verdict_iff 1 events process code run ended).1 fine
  exact ⟨events, process, run, ended, last⟩

end KernelSprint.StressTest

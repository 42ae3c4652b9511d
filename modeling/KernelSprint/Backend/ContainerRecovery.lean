import KernelSprint.Backend.ContainerOverlap
import KernelSprint.Lib.Course

/-!
# Starting the container again after a failed start

Calls of `ensure_container` one after another.  Any docker command may raise
and end its call, before or after it has taken effect.
-/

set_option autoImplicit false

namespace KernelSprint.ContainerRecovery

open Labelled Generators Generators.Gen PyText Docker Container
open ContainerOverlap (Provisioned)

abbrev Log := List (Happening (Luck PyExn) Request Empty)

def serve (daemon : Daemon) (request : Request) :
    Daemon × Except PyExn CompletedProcess :=
  ((daemon.answer request.command).1, .ok (daemon.answer request.command).2)

section Attempts

variable (repoRoot : String)

def attempt (daemon : Daemon) (fates : List (Luck PyExn)) :
    Course Daemon (Luck PyExn) Request Empty PyExn Unit :=
  (ensureContainer repoRoot).course (unreliable serve) daemon fates

/-- Each label says how the commands of one call go. -/
def attempts : Machine Daemon (List (Luck PyExn)) where
  step daemon fates := some (attempt repoRoot daemon fates).shared

/-- Every command of the call succeeds. -/
def Smooth (log : Log) : Prop := ∀ request luck, .called request luck ∈ log → luck = .fine

/-- The command has been carried out, whether or not it raised. -/
def TookEffect (command : Command) (log : Log) : Prop :=
  ∃ timeout luck, Happening.called ⟨command, timeout⟩ luck ∈ log ∧ ∀ exn, luck ≠ .before exn

@[simp] theorem tookEffect_nil (command : Command) : ¬ TookEffect command [] := by
  simp [TookEffect]

@[simp] theorem tookEffect_cons (command : Command) (request : Request)
    (luck : Luck PyExn) (log : Log) :
    TookEffect command (.called request luck :: log) ↔
      (request.command = command ∧ ∀ exn, luck ≠ .before exn) ∨ TookEffect command log := by
  constructor
  · rintro ⟨timeout, luck', member, effective⟩
    rcases List.mem_cons.mp member with here | later
    · cases here
      exact Or.inl ⟨rfl, effective⟩
    · exact Or.inr ⟨timeout, luck', later, effective⟩
  · rintro (⟨rfl, effective⟩ | ⟨timeout, luck', later, effective⟩)
    · exact ⟨request.timeout, luck, List.mem_cons_self, effective⟩
    · exact ⟨timeout, luck', List.mem_cons_of_mem _ later, effective⟩

@[simp] theorem smooth_nil : Smooth [] := by simp [Smooth]

@[simp] theorem smooth_cons (request : Request) (luck : Luck PyExn) (log : Log) :
    Smooth (.called request luck :: log) ↔ luck = .fine ∧ Smooth log := by
  constructor
  · intro smooth
    exact ⟨smooth request luck List.mem_cons_self,
      fun request' luck' later => smooth request' luck' (List.mem_cons_of_mem _ later)⟩
  · rintro ⟨rfl, smooth⟩ request' luck' member
    rcases List.mem_cons.mp member with here | later
    · cases here
      rfl
    · exact smooth request' luck' later

@[simp] theorem mountDebugfs_ne_install : mountDebugfs ≠ installIproute2 := by decide

@[simp] theorem mountTracefs_ne_install : mountTracefs ≠ installIproute2 := by decide

/-- The call has created the container and ended before its last command took
effect. -/
def HalfBuilt (log : Log) : Prop :=
  TookEffect (runContainer repoRoot) log ∧ ¬ TookEffect (.exec installIproute2) log

structure Attempted (daemon : Daemon) (log : Log) (daemon' : Daemon)
    (result : Except PyExn Unit) : Prop where
  up : daemon.up → daemon' = daemon
  down : ¬ daemon.up → ((daemon'.up → Provisioned daemon') ↔ ¬ HalfBuilt repoRoot log)
  smooth : Smooth log → result = .ok () ∧ (¬ daemon.up → Provisioned daemon')

/-- The instance after `docker run` and some of the commands that follow it. -/
def Carries (daemon : Daemon) (debugfs tracefs iproute2 : Bool) : Prop :=
  ∃ id, daemon.container = some ⟨id, true, debugfs, tracefs, iproute2⟩

theorem carries_debugfs (daemon : Daemon) (debugfs tracefs iproute2 : Bool)
    (carries : Carries daemon debugfs tracefs iproute2) :
    Carries (daemon.exec mountDebugfs) true tracefs iproute2 := by
  obtain ⟨id, held⟩ := carries
  exact ⟨id, by simp [Daemon.exec, held]⟩

theorem carries_tracefs (daemon : Daemon) (debugfs tracefs iproute2 : Bool)
    (carries : Carries daemon debugfs tracefs iproute2) :
    Carries (daemon.exec mountTracefs) debugfs true iproute2 := by
  obtain ⟨id, held⟩ := carries
  exact ⟨id, by simp [Daemon.exec, held]⟩

theorem carries_iproute2 (daemon : Daemon) (debugfs tracefs iproute2 : Bool)
    (carries : Carries daemon debugfs tracefs iproute2) :
    Carries (daemon.exec installIproute2) debugfs tracefs true := by
  obtain ⟨id, held⟩ := carries
  exact ⟨id, by simp [Daemon.exec, held]⟩

theorem carries_up (daemon : Daemon) (debugfs tracefs iproute2 : Bool)
    (carries : Carries daemon debugfs tracefs iproute2) :
    daemon.up ∧ (Provisioned daemon ↔ debugfs ∧ tracefs ∧ iproute2) := by
  obtain ⟨id, held⟩ := carries
  exact ⟨by simp [Daemon.up, held], by simp [Provisioned, held]⟩

/-- What the commands after `docker run` come to. -/
def Provisions (log : Log) (daemon : Daemon) (result : Except PyExn Unit) : Prop :=
  daemon.up ∧ (Provisioned daemon ↔ TookEffect (.exec installIproute2) log) ∧
    (Smooth log → result = .ok () ∧ TookEffect (.exec installIproute2) log)

theorem provision_leads (daemon : Daemon) (created : Carries daemon false false false) :
    Leads (unreliable serve) (remaining repoRoot .debugfs) daemon Provisions := by
  have mounted := carries_debugfs daemon _ _ _ created
  have traced := carries_tracefs _ _ _ _ mounted
  have installed := carries_iproute2 _ _ _ _ traced
  have partly : ∀ daemon debugfs tracefs (log : Log) exn, Carries daemon debugfs tracefs false →
      ¬ TookEffect (.exec installIproute2) log → ¬ Smooth log →
        Provisions log daemon (.error exn) := by
    intro daemon debugfs tracefs log exn carries absent raised
    have seen := carries_up daemon _ _ _ carries
    refine ⟨seen.1, ?_, fun smooth => absurd smooth raised⟩
    simp [seen.2, absent]
  have wholly : ∀ daemon (log : Log) result, Carries daemon true true true →
      TookEffect (.exec installIproute2) log → (Smooth log → result = .ok ()) →
        Provisions log daemon result := by
    intro daemon log result carries effective ended
    have seen := carries_up daemon _ _ _ carries
    exact ⟨seen.1, by simp [seen.2, effective], fun smooth => ⟨ended smooth, effective⟩⟩
  unfold remaining run
  apply leads_bind
  apply leads_perform
  case before => exact fun exn => partly _ _ _ _ exn created (by simp) (by simp)
  case after => exact fun exn => partly _ _ _ _ exn mounted (by simp) (by simp)
  apply leads_bind
  apply leads_perform
  case before => exact fun exn => partly _ _ _ _ exn mounted (by simp) (by simp)
  case after => exact fun exn => partly _ _ _ _ exn traced (by simp) (by simp)
  apply leads_bind
  apply leads_perform
  case before => exact fun exn => partly _ _ _ _ exn traced (by simp) (by simp)
  case after => exact fun exn => wholly _ _ _ installed (by simp) (by simp)
  case fine => exact fun fates => wholly _ _ _ installed (by simp) fun _ => rfl

theorem attempted_of_down (daemon daemon' : Daemon) (log : Log) (exn : PyExn)
    (down : ¬ daemon.up) (down' : ¬ daemon'.up)
    (absent : ¬ TookEffect (runContainer repoRoot) log) (raised : ¬ Smooth log) :
    Attempted repoRoot daemon log daemon' (.error exn) where
  up isUp := absurd isUp down
  down _ := ⟨fun _ built => absent built.1, fun _ isUp => absurd isUp down'⟩
  smooth smooth := absurd smooth raised

theorem attempted_of_provisions (daemon daemon' : Daemon) (earlier log : Log)
    (result : Except PyExn Unit) (down : ¬ daemon.up)
    (created : TookEffect (runContainer repoRoot) earlier)
    (early : ¬ TookEffect (.exec installIproute2) earlier)
    (provisions : Provisions log daemon' result) :
    Attempted repoRoot daemon (earlier ++ log) daemon' result := by
  obtain ⟨up', provisioned, finished⟩ := provisions
  have effects : ∀ command, TookEffect command (earlier ++ log) ↔
      TookEffect command earlier ∨ TookEffect command log := by
    intro command
    simp only [TookEffect, List.mem_append]
    grind
  have calm : Smooth (earlier ++ log) → Smooth log :=
    fun smooth request luck member => smooth request luck (List.mem_append_right _ member)
  refine ⟨fun isUp => absurd isUp down, fun _ => ?_, fun smooth => ?_⟩
  · simp [HalfBuilt, effects, created, early, up', provisioned]
  · obtain ⟨ended, effective⟩ := finished (calm smooth)
    exact ⟨ended, fun _ => provisioned.mpr effective⟩

def inspected : Log := [.called ⟨.inspectRunning, 10⟩ .fine]

theorem remove_leads (daemon : Daemon) (down : ¬ daemon.up) :
    Leads (unreliable serve) (remaining repoRoot .remove) daemon fun log =>
      Attempted repoRoot daemon (inspected ++ log) := by
  have removed : ¬ daemon.remove.up := by simp [Daemon.up, Daemon.remove]
  have carried : Carries daemon.remove.create false false false := ⟨daemon.nextId, rfl⟩
  apply leads_bind
  apply leads_perform
  case before =>
    exact fun exn => attempted_of_down _ _ _ _ exn down down
      (by simp [inspected, runContainer]) (by simp [inspected])
  case after =>
    exact fun exn => attempted_of_down _ _ _ _ exn down removed
      (by simp [inspected, runContainer]) (by simp [inspected])
  apply leads_bind
  apply leads_perform
  case before =>
    exact fun exn => attempted_of_down _ _ _ _ exn down removed
      (by simp [inspected, runContainer]) (by simp [inspected])
  case after =>
    intro exn
    obtain ⟨up', provisioned⟩ := carries_up _ _ _ _ carried
    refine ⟨fun up => absurd up down, fun _ => ?_, by simp [inspected]⟩
    change ((daemon.remove.create.up → Provisioned daemon.remove.create) ↔ _)
    simp [HalfBuilt, inspected, up', provisioned, runContainer]
  refine leads_mono _ _ _ _ ?_ (provision_leads repoRoot daemon.remove.create carried)
  intro log daemon' result provisions
  have attempted := attempted_of_provisions repoRoot daemon daemon'
    (inspected ++ [.called ⟨.rmForce, 15⟩ .fine, .called ⟨runContainer repoRoot, 30⟩ .fine])
    log result down (by simp [inspected]) (by simp [inspected, runContainer]) provisions
  simpa using attempted

theorem ensureContainer_leads (daemon : Daemon) :
    Leads (unreliable serve) (ensureContainer repoRoot) daemon (Attempted repoRoot daemon) := by
  have answered := inspect_answer daemon
  unfold ensureContainer
  apply leads_bind
  apply leads_perform
  case before =>
    intro exn
    refine ⟨fun _ => rfl, fun down => ?_, by simp⟩
    simp [HalfBuilt, runContainer, down]
  case after =>
    intro exn
    refine ⟨fun _ => rfl, fun down => ?_, by simp⟩
    change ((daemon.up → Provisioned daemon) ↔ _)
    simp [HalfBuilt, runContainer, down]
  simp only [serve]
  by_cases up : daemon.up
  · rw [if_pos (answered.mpr up)]
    rw [leads_pure]
    exact ⟨fun _ => rfl, fun down => absurd up down, fun _ => ⟨rfl, fun down => absurd up down⟩⟩
  · rw [if_neg (fun seen => up (answered.mp seen))]
    exact remove_leads repoRoot daemon up

theorem attempted (daemon : Daemon) (fates : List (Luck PyExn)) :
    Attempted repoRoot daemon (attempt repoRoot daemon fates).log
      (attempt repoRoot daemon fates).shared (attempt repoRoot daemon fates).result :=
  ensureContainer_leads repoRoot daemon fates

/-! ## Attempts one after another -/

/-- A container that runs lacks nothing: what the early return takes for
granted. -/
def Sound (daemon : Daemon) : Prop := daemon.up → Provisioned daemon

/-- The call finds no running container and leaves one half built. -/
def LeavesHalfBuilt (daemon : Daemon) (fates : List (Luck PyExn)) (_next : Daemon) : Prop :=
  ¬ daemon.up ∧ HalfBuilt repoRoot (attempt repoRoot daemon fates).log

/-- Once unsound, always unsound: every later call returns early. -/
theorem sound_iff (labels : List (List (Luck PyExn))) (daemon final : Daemon)
    (ran : (attempts repoRoot).exec labels daemon = some final) :
    Sound final ↔ Sound daemon ∧
      (attempts repoRoot).Along (fun daemon fates next =>
        ¬ LeavesHalfBuilt repoRoot daemon fates next) labels daemon := by
  induction labels generalizing daemon with
  | nil =>
      cases Option.some.inj ran
      simp [Machine.Along]
  | cons fates rest ih =>
      obtain ⟨next, stepped, restRan⟩ := ((attempts repoRoot).exec_cons ..).mp ran
      cases Option.some.inj stepped
      have here := attempted repoRoot daemon fates
      rw [ih _ restRan]
      simp only [Machine.Along, stepped, Option.some.injEq, forall_eq', ← and_assoc]
      refine and_congr_left fun _ => ?_
      by_cases up : daemon.up
      · rw [here.up up]
        simp [LeavesHalfBuilt, up]
      · have sound : Sound daemon := fun isUp => absurd isUp up
        simp only [LeavesHalfBuilt, up, sound, true_and]
        simpa [Sound] using here.down up

/-- A call whose commands all succeed returns with everything in place exactly
when the container was sound before it. -/
theorem smooth_call (daemon : Daemon) (fates : List (Luck PyExn))
    (smooth : Smooth (attempt repoRoot daemon fates).log) :
    (attempt repoRoot daemon fates).result = .ok () ∧
      (Provisioned (attempt repoRoot daemon fates).shared ↔ Sound daemon) := by
  have here := attempted repoRoot daemon fates
  obtain ⟨ended, provisions⟩ := here.smooth smooth
  refine ⟨ended, ?_⟩
  by_cases up : daemon.up
  · rw [here.up up]
    simp [Sound, up]
  · simp [provisions up, Sound, up]

/-- The next call whose commands all succeed puts everything right, unless the
container was already unsound or a call on the way has left it half built. -/
theorem recovers_iff (labels : List (List (Luck PyExn))) (initial final : Daemon)
    (fates : List (Luck PyExn)) (ran : (attempts repoRoot).exec labels initial = some final)
    (smooth : Smooth (attempt repoRoot final fates).log) :
    ((attempt repoRoot final fates).result = .ok () ∧
        Provisioned (attempt repoRoot final fates).shared) ↔
      Sound initial ∧
        (attempts repoRoot).Along (fun daemon fates next =>
          ¬ LeavesHalfBuilt repoRoot daemon fates next) labels initial := by
  obtain ⟨ended, provisioned⟩ := smooth_call repoRoot final fates smooth
  rw [← sound_iff repoRoot labels initial final ran, provisioned]
  exact and_iff_right ended

theorem smooth_of_fine (daemon : Daemon) (fates : List (Luck PyExn))
    (fine : ∀ luck ∈ fates, luck = .fine) : Smooth (attempt repoRoot daemon fates).log :=
  fun _ _ member => usual_log _ _ daemon fates fine _ member

end Attempts

/-- One call whose `docker run` times out without effect, then an undisturbed one. -/
theorem recovers_run_never_started :
    ∃ final, (attempts "/repo").exec [[.fine, .fine, .before .timeoutExpired]]
        ContainerOverlap.coldStart = some final ∧
      (((attempt "/repo" final []).result = .ok () ∧
          Provisioned (attempt "/repo" final []).shared) ↔
        Sound ContainerOverlap.coldStart ∧
          (attempts "/repo").Along (fun daemon fates next =>
              ¬ LeavesHalfBuilt "/repo" daemon fates next)
            [[.fine, .fine, .before .timeoutExpired]] ContainerOverlap.coldStart) :=
  ⟨_, rfl, recovers_iff "/repo" _ _ _ [] rfl (smooth_of_fine "/repo" _ [] (by simp))⟩

/-- `docker run` times out at the client while the container comes up. -/
theorem half_built_container_stays :
    ∃ final, (attempts "/repo").exec [[.fine, .fine, .after .timeoutExpired]]
        ContainerOverlap.coldStart = some final ∧
      Smooth (attempt "/repo" final []).log ∧
        ¬ Provisioned (attempt "/repo" final []).shared := by
  have outcome : ∃ final ∈ (attempts "/repo").exec [[.fine, .fine, .after .timeoutExpired]]
      ContainerOverlap.coldStart, ¬ Provisioned (attempt "/repo" final []).shared := by
    decide +kernel
  obtain ⟨final, reached, unprovisioned⟩ := outcome
  exact ⟨final, reached, smooth_of_fine "/repo" final [] (by simp), unprovisioned⟩

end KernelSprint.ContainerRecovery

import KernelSprint.Backend.PipelineReports
import KernelSprint.Lib.Course
import KernelSprint.Lib.Pool

/-!
# Patches of several clients

Any number of runs of `run_patch_pipeline` on one host, which has their
patches in folders under `.patch-scratch`.  The worker threads take every event
of their generators; every call of a run is one step.
-/

set_option autoImplicit false

namespace KernelSprint.PatchScratch

open Generators Generators.Gen Labelled Pipelines PyText

/-! ## The host -/

/-- A folder of a run; `patch` is what `patch.diff` has. -/
structure Folder where
  patch : Option String
  deriving DecidableEq

/-- `.patch-scratch` and what is in it. -/
structure Scratch where
  root : Bool
  folders : String → Option Folder

def Scratch.empty : Scratch := ⟨false, fun _ => none⟩

def Scratch.put (scratch : Scratch) (name : String) (folder : Option Folder) : Scratch :=
  { scratch with folders := fun other => if other = name then folder else scratch.folders other }

/-- What a call is up against: the name that `uuid4` draws, the return code,
an exception, what a write that raises has in the file, and what a removal
leaves. -/
structure Fate where
  uuid : String
  status : Int
  fault : Option PyExn
  written : Option String
  left : Option Folder

def Fate.guard {α : Type} (fate : Fate) (value : α) : Except PyExn α :=
  match fate.fault with
  | some exn => .error exn
  | none => .ok value

/-- The patch of a client under way.  `tmpdir` is the variable of the run, and
`container` whether `Popen` has started the client of its container. -/
structure Upload where
  text : String
  run : Suspended HostCall HostCall.Answer Event PyExn Unit
  tmpdir : Option String
  container : Bool

def Upload.start (db : CharDb) (text : String) (lines : List String) : Upload :=
  ⟨text, settle (runPatchPipeline db text lines) [], none, false⟩

/-- The write and the removal find the folder there or do nothing. -/
def answer (scratch : Scratch) (tmpdir : Option String) (fate : Fate) :
    (request : HostCall) → Scratch × Except PyExn request.Answer
  | .makeScratchRoot =>
      match fate.fault with
      | some exn => (scratch, .error exn)
      | none => ({ scratch with root := true }, .ok ())
  | .makeTmpdir =>
      match fate.fault with
      | some exn => (scratch, .error exn)
      | none =>
          if scratch.root ∧ scratch.folders fate.uuid = none then
            (scratch.put fate.uuid (some ⟨none⟩), .ok ())
          else (scratch, .error .osError)
  | .writePatch text =>
      match tmpdir.filter fun name => (scratch.folders name).isSome with
      | none => (scratch, .error .osError)
      | some name =>
          match fate.fault with
          | some exn => (scratch.put name (some ⟨fate.written⟩), .error exn)
          | none => (scratch.put name (some ⟨some text⟩), .ok ())
  | .popen _ => (scratch, fate.guard ())
  | .readLine _ => (scratch, fate.guard ())
  | .wait _ => (scratch, fate.guard fate.status)
  | .kill => (scratch, .ok ())
  | .readResults => (scratch, fate.guard committedBaseline)
  -- `ignore_errors=True`
  | .removeTmpdir =>
      match tmpdir.filter fun name => (scratch.folders name).isSome with
      | none => (scratch, .ok ())
      | some name => (scratch.put name fate.left, .ok ())

/-- `tmpdir` and `container` after a call. -/
def Upload.after (upload : Upload) (fate : Fate) :
    (request : HostCall) → Except PyExn request.Answer → Option String × Bool
  | .makeTmpdir, .ok _ => (some fate.uuid, upload.container)
  | .popen _, .ok _ => (upload.tmpdir, true)
  | _, _ => (upload.tmpdir, upload.container)

def Upload.step (scratch : Scratch) (fate : Fate) (upload : Upload) :
    Option (Scratch × Upload) :=
  match upload.run.rest with
  | .call request resume =>
      let served := answer scratch upload.tmpdir fate request
      let later := upload.after fate request served.2
      some (served.1, {
        text := upload.text
        run := settle (resume served.2) upload.run.events
        tmpdir := later.1
        container := later.2 })
  | _ => none

structure Host where
  scratch : Scratch
  uploads : List Upload

inductive Label where
  | begin (text : String) (lines : List String)
  | run (index : Nat) (fate : Fate)

def machine (db : CharDb) : Machine Host Label where
  step host
    | .begin text lines => some { host with uploads := host.uploads ++ [.start db text lines] }
    | .run index fate => do
        let upload ← host.uploads[index]?
        let (scratch, upload) ← upload.step host.scratch fate
        some ⟨scratch, host.uploads.set index upload⟩

/-- The folder that a run has made and still has to remove. -/
def Upload.holds (upload : Upload) : Option String :=
  if upload.run.Ended then none else upload.tmpdir

/-! ## The course of a run -/

section Course

variable (db : CharDb)

/-- What is left of the run once the patch is written. -/
def launch (lines : List String) : Pipeline Unit := do
  ask (.popen "kernel-sprint-src")
  match ← relayAndWait db lines pipelineTimeoutSec
      ("pipeline exceeded " ++ toString pipelineTimeoutSec ++ "s time limit") with
  | none => pure ()
  | some returncode =>
      if returncode ≠ 0 then yieldEvent (failureEvent (String.join lines) returncode)
      else compareAndReport db (String.join lines)

def write (text : String) (lines : List String) : Pipeline Unit := do
  ask (.writePatch text)
  launch db lines

def make (text : String) (lines : List String) : Pipeline Unit := do
  ask .makeTmpdir
  withFinally (write db text lines) (ask .removeTmpdir)

theorem runPatchPipeline_eq (text : String) (lines : List String)
    (something : strip text ≠ "") (small : text.utf8ByteSize ≤ maxPatchBytes) :
    runPatchPipeline db text lines = (do
      ask .makeScratchRoot
      make db text lines) := by
  unfold runPatchPipeline
  rw [if_neg something, if_neg (Nat.not_lt.mpr small)]
  rfl

end Course

/-- The calls that leave the folder alone. -/
def Quiet : HostCall → Prop
  | .readLine _ => True
  | .wait _ => True
  | .kill => True
  | .readResults => True
  | _ => False

/-- The generator has returned or raised. -/
def Over : Pipeline Unit → Prop
  | .done _ => True
  | .fail _ => True
  | _ => False

/-- Quiet calls and then the removal, with which the run is over. -/
inductive Working : Pipeline Unit → Prop
  | emit (event : Event) (resume : Option PyExn → Pipeline Unit) (next : Working (resume none)) :
      Working (.emit event resume)
  | ask (request : HostCall) (resume : Except PyExn request.Answer → Pipeline Unit)
      (quiet : Quiet request) (next : ∀ reply, Working (resume reply)) :
      Working (.call request resume)
  | remove (resume : Except PyExn Unit → Pipeline Unit) (ends : ∀ reply, Over (resume reply)) :
      Working (.call .removeTmpdir resume)

section Working

variable {code : Pipeline Unit}

theorem working_cleanup (last : Pipeline Unit) (spent : Over last) :
    Working ((ask .removeTmpdir).bind fun _ => last) := by
  refine .remove _ fun reply => ?_
  cases reply with
  | ok _ => exact spent
  | error exn => trivial

theorem working_finally (only : code.Only Quiet fun _ => True) :
    Working (code.withFinally (ask .removeTmpdir)) := by
  induction code with
  | done value => exact working_cleanup _ trivial
  | fail exn => exact working_cleanup _ trivial
  | emit event resume ih => exact .emit event _ (ih none (only.2 none))
  | call request resume ih =>
      exact .ask request _ only.1 fun reply => ih reply (only.2 reply)

theorem relayAndWait_quiet (db : CharDb) (lines : List String) (timeout : Nat)
    (message : String) :
    (relayAndWait db lines timeout message).Only Quiet fun _ => True := by
  unfold relayAndWait
  apply only_withExcept
  · apply only_bind
    · refine only_forEach _ _ lines _ fun line => ?_
      apply only_bind
      · simp [ask, Quiet]
      · simp
    intro _
    apply only_bind
    · simp [ask, Quiet]
    · simp
  · intro exn code handled
    cases exn with
    | timeoutExpired =>
        cases Option.some.inj handled
        apply only_bind
        · simp [ask, Quiet]
        intro _
        apply only_bind
        · simp
        · simp
    | _ => cases handled

theorem relayed_quiet (db : CharDb) (lines : List String) (returncode : Option Int) :
    (match returncode with
      | none => pure ()
      | some returncode =>
          if returncode ≠ 0 then yieldEvent (failureEvent (String.join lines) returncode)
          else compareAndReport db (String.join lines) : Pipeline Unit).Only Quiet
        fun _ => True := by
  cases returncode with
  | none => trivial
  | some returncode =>
      by_cases failed : returncode ≠ 0
      · simp only [if_pos failed]
        simp
      · simp only [if_neg failed]
        refine only_mono _ _ ?_ (fun _ _ => trivial) _
          (PipelineReports.compareAndReport_only db (String.join lines))
        rintro _ rfl
        trivial

/-- The run goes on to its next call, which is a quiet one or the removal. -/
theorem settle_working (works : Working code) (events : List Event) :
    (∃ events' request resume, settle code events = ⟨events', .call request resume⟩ ∧
        Quiet request ∧ ∀ reply, Working (resume reply)) ∨
      ∃ events' resume, settle code events = ⟨events', .call .removeTmpdir resume⟩ ∧
        ∀ reply, Over (resume reply) := by
  induction works generalizing events with
  | emit event resume _ ih => exact ih (events ++ [event])
  | ask request resume quiet next _ =>
      exact Or.inl ⟨events, request, resume, rfl, quiet, next⟩
  | remove resume ends => exact Or.inr ⟨events, resume, rfl, ends⟩

theorem settle_over (spent : Over code) (events : List Event) : (settle code events).Ended := by
  cases code with
  | done value => trivial
  | fail exn => trivial
  | emit event resume => cases spent
  | call request resume => cases spent

end Working

/-! ## Every step of a run -/

/-- The states that a run goes through. -/
inductive Shape (db : CharDb) (scratch : Scratch) : Upload → Prop
  | spent (upload : Upload) (ended : upload.run.Ended) : Shape db scratch upload
  | fresh (text : String) (lines : List String) :
      Shape db scratch ⟨text, settle (do ask .makeScratchRoot; make db text lines) [], none, false⟩
  | rooted (text : String) (lines : List String) :
      Shape db scratch ⟨text, settle (make db text lines) [], none, false⟩
  | made (text : String) (lines : List String) (name : String)
      (there : (scratch.folders name).isSome) :
      Shape db scratch ⟨text, settle (withFinally (write db text lines) (ask .removeTmpdir)) [],
        some name, false⟩
  | written (text : String) (lines : List String) (name : String)
      (holds : scratch.folders name = some ⟨some text⟩) :
      Shape db scratch ⟨text, settle (withFinally (launch db lines) (ask .removeTmpdir)) [],
        some name, false⟩
  | working (text : String) (events : List Event) (code : Pipeline Unit) (name : String)
      (container : Bool) (works : Working code) (there : (scratch.folders name).isSome)
      (faithful : container → scratch.folders name = some ⟨some text⟩) :
      Shape db scratch ⟨text, settle code events, some name, container⟩

/-- What a step of a run does to the folders: it leaves those of the others
alone, takes no name that is taken, and only a removal that fails leaves a
folder without a run. -/
structure Effect (scratch : Scratch) (upload : Upload) (fate : Fate) (next : Scratch)
    (upload' : Upload) : Prop where
  frame : ∀ name, upload.holds ≠ some name → (scratch.folders name).isSome →
    next.folders name = scratch.folders name
  held : ∀ name, upload'.holds = some name →
    upload.holds = some name ∨ scratch.folders name = none
  owned : ∀ name, (next.folders name).isSome → upload'.holds = some name ∨ fate.left.isSome ∨
    (upload.holds ≠ some name ∧ (scratch.folders name).isSome)

section Steps

variable {db : CharDb} {scratch next : Scratch} {upload upload' : Upload} {fate : Fate}

theorem step_call (request : HostCall) (resume : Except PyExn request.Answer → Pipeline Unit)
    (calls : upload.run.rest = .call request resume) :
    upload.step scratch fate = some ((answer scratch upload.tmpdir fate request).1, {
      text := upload.text
      run := settle (resume (answer scratch upload.tmpdir fate request).2) upload.run.events
      tmpdir := (upload.after fate request (answer scratch upload.tmpdir fate request).2).1
      container := (upload.after fate request (answer scratch upload.tmpdir fate request).2).2 }) := by
  unfold Upload.step
  rw [calls]

theorem holds_over (ended : upload.run.Ended) : upload.holds = none := if_pos ended

theorem holds_waiting (request : HostCall)
    (resume : Except PyExn request.Answer → Pipeline Unit)
    (calls : upload.run.rest = .call request resume) : upload.holds = upload.tmpdir := by
  refine if_neg fun ended => ?_
  unfold Suspended.Ended at ended
  rw [calls] at ended
  exact ended

theorem holds_working {code : Pipeline Unit} (works : Working code) (text : String)
    (events : List Event) (tmpdir : Option String) (container : Bool) :
    (⟨text, settle code events, tmpdir, container⟩ : Upload).holds = tmpdir := by
  rcases settle_working works events with ⟨_, request, resume, settled, -⟩ | ⟨_, resume, settled, -⟩
  · exact holds_waiting request resume (congrArg Suspended.rest settled)
  · exact holds_waiting .removeTmpdir resume (congrArg Suspended.rest settled)

/-- The folders stay as they are, and so does what the run holds. -/
theorem effect_same (folders : next.folders = scratch.folders)
    (holds : upload'.holds = upload.holds) : Effect scratch upload fate next upload' where
  frame name _ _ := congrFun folders name
  held name held := Or.inl (holds ▸ held)
  owned name there := by
    rw [folders] at there
    by_cases own : upload.holds = some name
    · exact Or.inl (holds.trans own)
    · exact Or.inr (Or.inr ⟨own, there⟩)

theorem put_same (name : String) (folder : Option Folder) :
    (scratch.put name folder).folders name = folder := if_pos rfl

theorem put_other (name : String) (folder : Option Folder) {other : String}
    (differ : other ≠ name) : (scratch.put name folder).folders other = scratch.folders other :=
  if_neg differ

/-- The run changes its folder or makes it. -/
theorem effect_put (name : String) (folder : Option Folder)
    (before : upload.holds = some name ∨ (upload.holds = none ∧ scratch.folders name = none))
    (after : upload'.holds = some name ∨
      (upload'.holds = none ∧ (folder = none ∨ fate.left.isSome))) :
    Effect scratch upload fate (scratch.put name folder) upload' where
  frame other apart there := by
    refine put_other name folder fun same => ?_
    subst same
    rcases before with holds | ⟨-, absent⟩
    · exact apart holds
    · rw [absent] at there
      cases there
  held other held := by
    rcases after with holds' | ⟨nothing, -⟩
    · cases Option.some.inj (holds'.symm.trans held)
      exact before.imp_right And.right
    · rw [nothing] at held
      cases held
  owned other there := by
    by_cases own : other = name
    · subst own
      rw [put_same] at there
      rcases after with holds' | ⟨-, rfl | left⟩
      · exact Or.inl holds'
      · cases there
      · exact Or.inr (Or.inl left)
    · rw [put_other name folder own] at there
      refine Or.inr (Or.inr ⟨fun held => own ?_, there⟩)
      rcases before with holds | ⟨nothing, -⟩
      · exact Option.some.inj (held.symm.trans holds)
      · rw [nothing] at held
        cases held

theorem step_fresh (text : String) (lines : List String)
    (stepped : Upload.step scratch fate
      ⟨text, settle (do ask .makeScratchRoot; make db text lines) [], none, false⟩ =
        some (next, upload')) :
    Effect scratch ⟨text, settle (do ask .makeScratchRoot; make db text lines) [], none, false⟩ fate
      next upload' ∧ Shape db next upload' := by
  rcases fate with ⟨uuid, status, fault, written, left⟩
  cases fault with
  | some exn =>
      cases Option.some.inj stepped
      exact ⟨effect_same rfl rfl, .spent _ trivial⟩
  | none =>
      cases Option.some.inj stepped
      exact ⟨effect_same rfl rfl, .rooted text lines⟩

theorem step_rooted (text : String) (lines : List String)
    (stepped : Upload.step scratch fate ⟨text, settle (make db text lines) [], none, false⟩ =
      some (next, upload')) :
    Effect scratch ⟨text, settle (make db text lines) [], none, false⟩ fate next upload' ∧
      Shape db next upload' := by
  rcases fate with ⟨uuid, status, fault, written, left⟩
  cases fault with
  | some exn =>
      cases Option.some.inj stepped
      exact ⟨effect_same rfl rfl, .spent _ trivial⟩
  | none =>
      by_cases free : scratch.root ∧ scratch.folders uuid = none
      · have served : answer scratch none ⟨uuid, status, none, written, left⟩ .makeTmpdir =
            (scratch.put uuid (some ⟨none⟩), .ok ()) := if_pos free
        rw [step_call .makeTmpdir _ rfl, served] at stepped
        cases Option.some.inj stepped
        exact ⟨effect_put uuid _ (Or.inr ⟨rfl, free.2⟩) (Or.inl rfl),
          .made text lines uuid (by rw [put_same]; rfl)⟩
      · have served : answer scratch none ⟨uuid, status, none, written, left⟩ .makeTmpdir =
            (scratch, .error .osError) := if_neg free
        rw [step_call .makeTmpdir _ rfl, served] at stepped
        cases Option.some.inj stepped
        exact ⟨effect_same rfl rfl, .spent _ trivial⟩

theorem filter_there {name : String} (there : (scratch.folders name).isSome) :
    (some name).filter (fun name => (scratch.folders name).isSome) = some name := by
  rw [Option.filter_some, if_pos there]

theorem step_made (text : String) (lines : List String) (name : String)
    (there : (scratch.folders name).isSome)
    (stepped : Upload.step scratch fate ⟨text, settle (withFinally (write db text lines)
      (ask .removeTmpdir)) [], some name, false⟩ = some (next, upload')) :
    Effect scratch ⟨text, settle (withFinally (write db text lines) (ask .removeTmpdir)) [],
        some name, false⟩ fate next upload' ∧ Shape db next upload' := by
  rcases fate with ⟨uuid, status, fault, written, left⟩
  cases fault with
  | some exn =>
      have served : answer scratch (some name) ⟨uuid, status, some exn, written, left⟩
          (.writePatch text) = (scratch.put name (some ⟨written⟩), .error exn) := by
        simp only [answer, filter_there there]
      rw [step_call (.writePatch text) _ rfl, served] at stepped
      cases Option.some.inj stepped
      refine ⟨effect_put name _ (Or.inl rfl) (Or.inl rfl), ?_⟩
      exact .working text [] (withFinally (.fail exn) (ask .removeTmpdir)) name false
        (working_finally trivial) (by rw [put_same]; rfl) nofun
  | none =>
      have served : answer scratch (some name) ⟨uuid, status, none, written, left⟩
          (.writePatch text) = (scratch.put name (some ⟨some text⟩), .ok ()) := by
        simp only [answer, filter_there there]
      rw [step_call (.writePatch text) _ rfl, served] at stepped
      cases Option.some.inj stepped
      exact ⟨effect_put name _ (Or.inl rfl) (Or.inl rfl), .written text lines name (put_same _ _)⟩

theorem step_written (text : String) (lines : List String) (name : String)
    (holds : scratch.folders name = some ⟨some text⟩)
    (stepped : Upload.step scratch fate ⟨text, settle (withFinally (launch db lines)
      (ask .removeTmpdir)) [], some name, false⟩ = some (next, upload')) :
    Effect scratch ⟨text, settle (withFinally (launch db lines) (ask .removeTmpdir)) [],
        some name, false⟩ fate next upload' ∧ Shape db next upload' := by
  have there : (scratch.folders name).isSome := by
    rw [holds]
    rfl
  rcases fate with ⟨uuid, status, fault, written, left⟩
  cases fault with
  | some exn =>
      cases Option.some.inj stepped
      refine ⟨effect_same rfl rfl, ?_⟩
      exact .working text [] (withFinally (.fail exn) (ask .removeTmpdir)) name false
        (working_finally trivial) there nofun
  | none =>
      cases Option.some.inj stepped
      have only : (relayAndWait db lines pipelineTimeoutSec ("pipeline exceeded " ++
            toString pipelineTimeoutSec ++ "s time limit") >>= fun returncode =>
          match returncode with
          | none => pure ()
          | some returncode =>
              if returncode ≠ 0 then yieldEvent (failureEvent (String.join lines) returncode)
              else compareAndReport db (String.join lines) : Pipeline Unit).Only Quiet
            fun _ => True :=
        only_bind _ _ _ _ (relayAndWait_quiet db lines _ _) (relayed_quiet db lines)
      have works := working_finally only
      refine ⟨effect_same rfl ?_, .working text [] _ name true works there fun _ => holds⟩
      exact holds_working works text [] (some name) true

theorem answer_quiet {request : HostCall} (quiet : Quiet request) (tmpdir : Option String) :
    (answer scratch tmpdir fate request).1 = scratch := by
  cases request with
  | readLine line => rfl
  | wait timeout => rfl
  | kill => rfl
  | readResults => rfl
  | _ => cases quiet

theorem after_quiet {request : HostCall} (quiet : Quiet request)
    (reply : Except PyExn request.Answer) :
    upload.after fate request reply = (upload.tmpdir, upload.container) := by
  cases request with
  | readLine line => rfl
  | wait timeout => rfl
  | kill => rfl
  | readResults => rfl
  | _ => cases quiet

theorem step_working (text : String) (events : List Event) (code : Pipeline Unit) (name : String)
    (container : Bool) (works : Working code) (there : (scratch.folders name).isSome)
    (faithful : container → scratch.folders name = some ⟨some text⟩)
    (stepped : Upload.step scratch fate ⟨text, settle code events, some name, container⟩ =
      some (next, upload')) :
    Effect scratch ⟨text, settle code events, some name, container⟩ fate next upload' ∧
      Shape db next upload' := by
  have holding := holds_working works text events (some name) container
  rcases settle_working works events with
    ⟨events', request, resume, settled, quiet, goes⟩ | ⟨events', resume, settled, ends⟩
  · rw [step_call request resume (congrArg Suspended.rest settled), after_quiet quiet] at stepped
    cases Option.some.inj stepped
    rw [answer_quiet quiet]
    exact ⟨effect_same rfl ((holds_working (goes _) _ _ _ _).trans holding.symm),
      .working text _ _ name container (goes _) there faithful⟩
  · have served : answer scratch (some name) fate .removeTmpdir =
        (scratch.put name fate.left, .ok ()) := by
      simp only [answer, filter_there there]
    rw [step_call .removeTmpdir resume (congrArg Suspended.rest settled), served] at stepped
    cases Option.some.inj stepped
    have ended := settle_over (ends (.ok ())) (settle code events).events
    refine ⟨effect_put name _ (Or.inl holding) (Or.inr ⟨holds_over ended, ?_⟩), .spent _ ended⟩
    cases fate.left with
    | none => exact Or.inl rfl
    | some folder => exact Or.inr rfl

theorem step_effect (shape : Shape db scratch upload)
    (stepped : upload.step scratch fate = some (next, upload')) :
    Effect scratch upload fate next upload' ∧ Shape db next upload' := by
  cases shape with
  | spent upload ended =>
      unfold Upload.step at stepped
      unfold Suspended.Ended at ended
      split at stepped
      · next calls =>
          rw [calls] at ended
          cases ended
      · cases stepped
  | fresh text lines => exact step_fresh text lines stepped
  | rooted text lines => exact step_rooted text lines stepped
  | made text lines name there => exact step_made text lines name there stepped
  | written text lines name holds => exact step_written text lines name holds stepped
  | working text events code name container works there faithful =>
      exact step_working text events code name container works there faithful stepped

end Steps

/-! ## Any number of runs -/

section Runs

variable {db : CharDb} {scratch next : Scratch} {upload : Upload}

theorem shape_there (shape : Shape db scratch upload) (name : String)
    (holds : upload.holds = some name) : (scratch.folders name).isSome := by
  cases shape with
  | spent upload ended =>
      rw [holds_over ended] at holds
      cases holds
  | fresh text lines => cases holds
  | rooted text lines => cases holds
  | made text lines name there =>
      cases Option.some.inj holds
      exact there
  | written text lines name written =>
      cases Option.some.inj holds
      rw [written]
      rfl
  | working text events code name container works there _ =>
      rw [holds_working works] at holds
      cases Option.some.inj holds
      exact there

/-- Nothing matters to a run but the folder that it holds. -/
theorem shape_kept (shape : Shape db scratch upload)
    (kept : ∀ name, upload.holds = some name → next.folders name = scratch.folders name) :
    Shape db next upload := by
  cases shape with
  | spent upload ended => exact .spent upload ended
  | fresh text lines => exact .fresh text lines
  | rooted text lines => exact .rooted text lines
  | made text lines name there => exact .made text lines name (kept name rfl ▸ there)
  | written text lines name written => exact .written text lines name ((kept name rfl).trans written)
  | working text events code name container works there faithful =>
      have same := kept name (holds_working works text events (some name) container)
      exact .working text events code name container works (same ▸ there)
        fun started => same.trans (faithful started)

theorem shape_start (db : CharDb) (scratch : Scratch) (text : String) (lines : List String) :
    Shape db scratch (.start db text lines) ∧ (Upload.start db text lines).holds = none := by
  by_cases nothing : strip text = ""
  · have ended : (Upload.start db text lines).run.Ended := by
      unfold Upload.start runPatchPipeline
      rw [if_pos nothing]
      trivial
    exact ⟨.spent _ ended, holds_over ended⟩
  · by_cases large : maxPatchBytes < text.utf8ByteSize
    · have ended : (Upload.start db text lines).run.Ended := by
        unfold Upload.start runPatchPipeline
        rw [if_neg nothing, if_pos large]
        trivial
      exact ⟨.spent _ ended, holds_over ended⟩
    · unfold Upload.start
      rw [runPatchPipeline_eq db text lines nothing (Nat.not_lt.mp large)]
      exact ⟨.fresh text lines, rfl⟩

/-- No two runs hold the same folder. -/
def Separate (uploads : List Upload) : Prop :=
  ∀ (i j : Nat) (u v : Upload) (name : String), uploads[i]? = some u → uploads[j]? = some v →
    u.holds = some name → v.holds = some name → i = j

structure Sound (db : CharDb) (host : Host) : Prop where
  shapes : ∀ upload ∈ host.uploads, Shape db host.scratch upload
  separate : Separate host.uploads

theorem separate_concat (uploads : List Upload) (upload : Upload) (separate : Separate uploads)
    (nothing : upload.holds = none) : Separate (uploads ++ [upload]) := by
  have older : ∀ (k : Nat) (w : Upload) (name : String), (uploads ++ [upload])[k]? = some w →
      w.holds = some name → uploads[k]? = some w := by
    intro k w name found holds
    rw [List.getElem?_append] at found
    split at found
    · exact found
    · rw [List.mem_singleton.mp (List.mem_of_getElem? found), nothing] at holds
      cases holds
  intro i j u v name first second holds holds'
  exact separate i j u v name (older i u name first holds) (older j v name second holds')
    holds holds'

theorem run_cases {host later : Host} {index : Nat} {fate : Fate} (sound : Sound db host)
    (stepped : (machine db).step host (.run index fate) = some later) :
    ∃ upload scratch upload', host.uploads[index]? = some upload ∧
      later = ⟨scratch, host.uploads.set index upload'⟩ ∧
      Effect host.scratch upload fate scratch upload' ∧ Shape db scratch upload' := by
  obtain ⟨upload, found, taken⟩ := Option.bind_eq_some_iff.mp stepped
  obtain ⟨⟨scratch, upload'⟩, ran, same⟩ := Option.bind_eq_some_iff.mp taken
  cases Option.some.inj same
  exact ⟨upload, scratch, upload', found, rfl,
    step_effect (sound.shapes upload (List.mem_of_getElem? found)) ran⟩

theorem sound_step {host later : Host} {label : Label} (sound : Sound db host)
    (stepped : (machine db).step host label = some later) : Sound db later := by
  cases label with
  | begin text lines =>
      cases Option.some.inj stepped
      obtain ⟨shape, nothing⟩ := shape_start db host.scratch text lines
      refine ⟨?_, separate_concat host.uploads _ sound.separate nothing⟩
      rw [List.forall_mem_append, List.forall_mem_singleton]
      exact ⟨sound.shapes, shape⟩
  | run index fate =>
      obtain ⟨upload, scratch, upload', found, rfl, effect, shape⟩ := run_cases sound stepped
      -- what another run holds is there, so the step neither takes nor changes it
      have others : ∀ (j : Nat) (v : Upload) (name : String), j ≠ index →
          host.uploads[j]? = some v → v.holds = some name →
            upload.holds ≠ some name ∧ (host.scratch.folders name).isSome := by
        intro j v name differ there holds
        refine ⟨fun held => differ ?_,
          shape_there (sound.shapes v (List.mem_of_getElem? there)) name holds⟩
        exact sound.separate j index v upload name there found holds held
      refine ⟨?_, ?_⟩
      · intro v member
        obtain ⟨j, hit⟩ := List.mem_iff_getElem?.mp member
        rcases Interleaving.getElem?_set_cases _ _ _ _ _ hit with ⟨-, rfl⟩ | ⟨differ, there⟩
        · exact shape
        · refine shape_kept (sound.shapes v (List.mem_of_getElem? there)) fun name holds => ?_
          obtain ⟨apart, present⟩ := others j v name differ there holds
          exact effect.frame name apart present
      · -- a name that the run holds now was its own before or was free
        have mine : ∀ (j : Nat) (v : Upload) (name : String), j ≠ index →
            host.uploads[j]? = some v → v.holds = some name → upload'.holds ≠ some name := by
          intro j v name differ there holds held
          obtain ⟨apart, present⟩ := others j v name differ there holds
          rcases effect.held name held with old | free
          · exact apart old
          · rw [free] at present
            cases present
        intro i j u v name first second holds holds'
        rcases Interleaving.getElem?_set_cases _ _ _ _ _ first with ⟨rfl, rfl⟩ | ⟨differ, there⟩
        · rcases Interleaving.getElem?_set_cases _ _ _ _ _ second with ⟨rfl, -⟩ | ⟨differ, there⟩
          · rfl
          · exact absurd holds (mine j v name differ there holds')
        · rcases Interleaving.getElem?_set_cases _ _ _ _ _ second with ⟨rfl, rfl⟩ | ⟨_, there'⟩
          · exact absurd holds' (mine i u name differ there holds)
          · exact sound.separate i j u v name there there' holds holds'

/-- Every folder is one that a run holds. -/
def Owned (host : Host) : Prop :=
  ∀ name, (host.scratch.folders name).isSome → ∃ upload ∈ host.uploads, upload.holds = some name

def Removes : Label → Prop
  | .begin _ _ => True
  | .run _ fate => fate.left = none

theorem owned_step {host later : Host} {label : Label} (sound : Sound db host)
    (owned : Owned host) (removes : Removes label)
    (stepped : (machine db).step host label = some later) : Owned later := by
  intro name there
  cases label with
  | begin text lines =>
      cases Option.some.inj stepped
      obtain ⟨upload, member, holds⟩ := owned name there
      exact ⟨upload, List.mem_append_left _ member, holds⟩
  | run index fate =>
      obtain ⟨upload, scratch, upload', found, rfl, effect, -⟩ := run_cases sound stepped
      rcases effect.owned name there with mine | left | ⟨apart, present⟩
      · exact ⟨upload', Interleaving.mem_set_self _ _ _ _ found, mine⟩
      · change fate.left = none at removes
        rw [removes] at left
        cases left
      · obtain ⟨other, member, holds⟩ := owned name present
        have differ : other ≠ upload := fun same => apart (same ▸ holds)
        exact ⟨other, Interleaving.mem_set_of_ne _ _ _ _ _ found member differ, holds⟩

/-- What any number of runs share. -/
structure Apart (labels : List Label) (host : Host) : Prop where
  own : ∀ upload ∈ host.uploads, upload.container → ¬ upload.run.Ended →
    ∃ name, upload.tmpdir = some name ∧ host.scratch.folders name = some ⟨some upload.text⟩
  separate : Separate host.uploads
  cleared : (∀ label ∈ labels, Removes label) → Owned host
  emptied : (∀ label ∈ labels, Removes label) → (∀ upload ∈ host.uploads, upload.run.Ended) →
    ∀ name, host.scratch.folders name = none

/-- Whatever names are drawn and whichever calls raise, the container of a run
that is under way has the patch of its own client, no folder is in the hands of
two runs, and as long as removals get through there are no folders but those of
the runs under way. -/
theorem uploads_apart (labels : List Label) (host : Host)
    (reached : (machine db).exec labels ⟨.empty, []⟩ = some host) : Apart labels host := by
  have start : Sound db ⟨.empty, []⟩ := ⟨List.forall_mem_nil _, fun i j u v name first => by
    cases first⟩
  have sound := (machine db).invariant_of_exec (Sound db)
    (fun _ _ _ sound stepped => sound_step sound stepped) labels _ host start reached
  have cleared : (∀ label ∈ labels, Removes label) → Owned host := by
    intro removes
    refine ((machine db).invariant_of_along (fun host => Sound db host ∧ Owned host)
      (fun _ label _ => Removes label) ?_ labels _ host ⟨start, fun name there => by cases there⟩
      ((machine db).along_of_labels Removes labels _ removes) reached).2
    rintro host label later ⟨sound, owned⟩ removes stepped
    exact ⟨sound_step sound stepped, owned_step sound owned removes stepped⟩
  refine ⟨?_, sound.separate, cleared, ?_⟩
  · intro upload member started going
    cases sound.shapes upload member with
    | spent _ ended => exact absurd ended going
    | fresh _ _ => cases started
    | rooted _ _ => cases started
    | made _ _ _ _ => cases started
    | written _ _ _ _ => cases started
    | working text events code name container _ _ faithful => exact ⟨name, rfl, faithful started⟩
  · intro removes ended name
    rw [← Option.not_isSome_iff_eq_none]
    intro there
    obtain ⟨upload, member, holds⟩ := cleared removes name there
    rw [holds_over (ended upload member)] at holds
    cases holds

def fine (uuid : String) : Fate := ⟨uuid, 0, none, none, none⟩

/-- Two clients; the second one draws the name of the first, and a third one
comes when its folder is gone. -/
def threeUploads : List Label :=
  [.begin "--- a" [], .begin "--- b" [], .run 0 (fine ""), .run 0 (fine "f00d"), .run 1 (fine ""),
    .run 1 (fine "f00d"), .run 0 (fine ""), .run 0 (fine ""), .begin "--- c" [],
    .run 0 ⟨"", 0, some .timeoutExpired, none, none⟩, .run 0 (fine ""), .run 2 (fine ""),
    .run 0 (fine ""), .run 2 (fine "f00d"), .run 2 (fine "")]

theorem uploads_apart_three : ∃ host : Host,
    (machine .ascii).exec threeUploads ⟨.empty, []⟩ = some host ∧ Apart threeUploads host := by
  have reaches : ((machine .ascii).exec threeUploads ⟨.empty, []⟩).isSome := by decide +kernel
  obtain ⟨host, reached⟩ := Option.isSome_iff_exists.mp reaches
  exact ⟨host, reached, uploads_apart threeUploads host reached⟩

end Runs

end KernelSprint.PatchScratch

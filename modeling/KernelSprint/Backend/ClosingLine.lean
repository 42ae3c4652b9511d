import KernelSprint.Backend.CommandAgent
import KernelSprint.Lib.Machine
import KernelSprint.Lib.Shlex

/-!
# The closing line of a lab command

The reader of `stream_command`, the thread of its timer and the process, step
by step in any order.  The session starts when `Popen` has returned or raised.
A call that blocks is a step that the reader cannot take yet.
-/

set_option autoImplicit false

namespace KernelSprint.ClosingLine

open Labelled Generators Generators.Gen PyText StreamCommand CommandAgent

inductive Finish where
  | exited (returncode : Int)
  | killed
  deriving DecidableEq, Repr

/-- `threading.Timer` with `_killer`: the thread looks at the cancellation,
sets the flag and kills, one step each. -/
inductive Timer where
  | unset
  | armed
  | cancelled
  /-- Past the cancellation test. -/
  | fired
  | flagged
  | spent
  deriving DecidableEq, Repr

def Timer.hasFired : Timer → Bool
  | .fired => true
  | .flagged => true
  | .spent => true
  | _ => false

/-- `timed_out.is_set()` -/
def Timer.flag : Timer → Bool
  | .flagged => true
  | .spent => true
  | _ => false

/-- What the process prints when it is left alone: lines, and after them perhaps
bytes that are no text. -/
structure Output where
  lines : List String
  undecodable : Bool

/-- `printed` and `delivered` count the lines that the process has printed and
the reader has got; `spoiled` when it has printed the bytes that are no text. -/
structure Session where
  reader : Suspended Call Call.Answer String PyExn Unit
  printed : Nat
  delivered : Nat
  closed : Bool
  finish : Option Finish
  timer : Timer
  spoiled : Bool

inductive Action where
  | reader
  /-- A read comes to the bytes that are no text. -/
  | misread
  /-- The process, or a child of it that holds its output open, prints. -/
  | print
  | spoil
  | close
  | exit (returncode : Int)
  | expire
  | setFlag
  | kill
  deriving DecidableEq

/-- `none` while the call blocks. -/
def Session.answer (session : Session) : (request : Call) → Option (Session × request.Answer)
  | .popen _ => none
  | .startTimer _ => some ({ session with timer := .armed }, ())
  | .readLine _ =>
      if session.delivered < session.printed then
        some ({ session with delivered := session.delivered + 1 }, true)
      else if session.closed ∧ session.spoiled = false then some (session, false)
      else none
  | .readEnd =>
      if session.closed ∧ session.spoiled = false then some (session, ()) else none
  | .wait => if session.finish.isSome then some (session, ()) else none
  | .cancelTimer =>
      some ({ session with
        timer := if session.timer = .armed then .cancelled else session.timer }, ())
  | .timedOut => some (session, session.timer.flag)
  | .returncode =>
      match session.finish with
      | some (.exited returncode) => some (session, returncode)
      | some .killed => some (session, -9)
      | none => none

def Session.read (session : Session) : Option Session :=
  match session.reader.rest with
  | .call request resume =>
      (session.answer request).map fun answered =>
        { answered.1 with reader := settle (resume (.ok answered.2)) session.reader.events }
  | _ => none

def isRead : Call → Bool
  | .readLine _ => true
  | .readEnd => true
  | _ => false

/-- The whole chunk that is read at once is decoded, so lines that are in it are
lost as well. -/
def Session.misread (session : Session) : Option Session :=
  match session.reader.rest with
  | .call request resume =>
      if isRead request ∧ session.spoiled then
        some { session with
          reader := settle (resume (.error .unicodeDecodeError)) session.reader.events }
      else none
  | _ => none

/-- Killing a process that has exited does nothing. -/
def sessions (output : Output) : Machine Session Action where
  step session
    | .reader => session.read
    | .misread => session.misread
    | .print =>
        if session.closed = false ∧ session.printed < output.lines.length then
          some { session with printed := session.printed + 1 }
        else none
    | .spoil =>
        if session.closed = false ∧ session.printed = output.lines.length ∧ output.undecodable then
          some { session with spoiled := true }
        else none
    | .close => some { session with closed := true }
    | .exit returncode =>
        if session.finish = none then
          some { session with finish := some (.exited returncode) }
        else none
    | .expire => if session.timer = .armed then some { session with timer := .fired } else none
    | .setFlag =>
        if session.timer = .fired then some { session with timer := .flagged } else none
    | .kill =>
        if session.timer = .flagged then
          some { session with
            timer := .spent
            finish := some (session.finish.getD .killed) }
        else none

def start (timeout : Nat) (lines : List String) : Session :=
  ⟨settle (supervise timeout lines) [], 0, 0, false, none, .unset, false⟩

/-- `Popen` refuses an argument with a null character before it asks the
operating system for the process. -/
def popen (system : List String → Except PyExn Unit) (argv : List String) : Except PyExn Unit :=
  if argv.any fun arg => arg.toList.contains (Char.ofNat 0) then .error .valueError
  else system argv

/-- The rest of the generator when `Popen` has answered. -/
def afterPopen (system : List String → Except PyExn Unit) : Agent Unit → Option (Agent Unit)
  | .call (.popen argv) resume => some (resume (popen system argv))
  | _ => none

def opened (shlexSplit : String → Except String (List String))
    (system : List String → Except PyExn Unit) (commandLine : String) (timeout : Nat)
    (output : Output) : Option Session :=
  (afterPopen system
    (CommandAgent.streamCommand shlexSplit commandLine timeout output.lines)).map fun rest =>
      ⟨settle rest [], 0, 0, false, none, .unset, false⟩

/-- When `Popen` raises, the generator has raised. -/
theorem opened_of_parsed (shlexSplit : String → Except String (List String))
    (system : List String → Except PyExn Unit) (commandLine : String) (argv : List String)
    (timeout : Nat) (output : Output) (parsed : shlexSplit commandLine = .ok argv)
    (nonempty : argv ≠ []) :
    opened shlexSplit system commandLine timeout output =
      some (match popen system (["docker", "exec", container] ++ argv) with
        | .ok _ => start timeout output.lines
        | .error exn => ⟨⟨[], .fail exn⟩, 0, 0, false, none, .unset, false⟩) := by
  cases argv with
  | nil => exact absurd rfl nonempty
  | cons first rest =>
      unfold opened CommandAgent.streamCommand
      rw [parsed]
      simp only
      change some _ = _
      cases popen system (["docker", "exec", container] ++ first :: rest) <;> rfl

/-- No argument has a null character. -/
def NoNull (argv : List String) : Prop := ∀ arg ∈ argv, Char.ofNat 0 ∉ arg.toList

instance (argv : List String) : Decidable (NoNull argv) :=
  inferInstanceAs (Decidable (∀ arg ∈ argv, Char.ofNat 0 ∉ arg.toList))

theorem popen_ok_iff (system : List String → Except PyExn Unit) (argv : List String) :
    popen system (["docker", "exec", container] ++ argv) = .ok () ↔
      NoNull argv ∧ system (["docker", "exec", container] ++ argv) = .ok () := by
  have own : ["docker", "exec", container].any
      (fun arg => arg.toList.contains (Char.ofNat 0)) = false := by decide
  have null : (argv.any fun arg => arg.toList.contains (Char.ofNat 0)) = false ↔ NoNull argv := by
    simp [NoNull]
  unfold popen
  rw [List.any_append, own, Bool.false_or, ← null]
  cases argv.any fun arg => arg.toList.contains (Char.ofNat 0) <;> simp

/-! ## Where the reader is -/

def watched (timeout : Nat) (body : Agent Unit) : Agent Unit := do
  withFinally (do body; ask .wait) (ask .cancelTimer)
  report timeout

def cancelling (timeout : Nat) : Agent Unit := do
  withFinally (pure ()) (ask .cancelTimer)
  report timeout

def naming : Agent Unit := do
  let returncode ← ask .returncode
  yieldEvent (exitLine returncode)

section Places

variable (timeout : Nat) (lines : List String)

/-- The places of the reader, each with what it knows of the others. -/
inductive Place (session : Session) : Prop
  | starting
      (stands : session.reader = settle (supervise timeout lines) [])
      (none : session.delivered = 0) (unset : session.timer = .unset) : Place session
  | reading
      (stands : session.reader = settle (watched timeout (relay (lines.drop session.delivered)))
        (lines.take session.delivered)) : Place session
  | waiting
      (stands : session.reader = settle (watched timeout (pure ())) (lines.take session.delivered))
      (all : session.delivered = session.printed) (closed : session.closed) : Place session
  | cancelling
      (stands : session.reader = settle (cancelling timeout) (lines.take session.delivered))
      (all : session.delivered = session.printed) (closed : session.closed)
      (finished : session.finish.isSome) : Place session
  | testing
      (stands : session.reader = settle (report timeout) (lines.take session.delivered))
      (all : session.delivered = session.printed) (closed : session.closed)
      (finished : session.finish.isSome) : Place session
  | naming (returncode : Int)
      (stands : session.reader = settle naming (lines.take session.delivered))
      (all : session.delivered = session.printed) (closed : session.closed)
      (exited : session.finish = some (.exited returncode)) : Place session
  | reported (returncode : Int)
      (stands : session.reader =
        ⟨lines.take session.printed ++ [exitLine returncode], .done ()⟩)
      (closed : session.closed)
      (exited : session.finish = some (.exited returncode)) : Place session
  | reportedKill
      (stands : session.reader =
        ⟨lines.take session.printed ++ [killedLine timeout], .done ()⟩)
      (closed : session.closed) (fired : session.timer.hasFired) : Place session

/-- What holds at every point of a session. -/
structure Sound (session : Session) : Prop where
  place : Place timeout lines session
  killedLast : session.finish = some .killed → session.timer = .spent
  behind : session.delivered ≤ session.printed
  bounded : session.printed ≤ lines.length
  unspoiled : session.spoiled = false

theorem sound_start : Sound timeout lines (start timeout lines) where
  place := .starting rfl rfl rfl
  killedLast killed := by cases killed
  behind := le_rfl
  bounded := Nat.zero_le _
  unspoiled := rfl

variable {timeout lines}

/-- A step of another party that leaves the reader alone keeps its place. -/
theorem place_frame (session next : Session) (place : Place timeout lines session)
    (reader : next.reader = session.reader) (delivered : next.delivered = session.delivered)
    (printed : session.closed → next.printed = session.printed)
    (closed : session.closed → next.closed)
    (finish : ∀ finish, session.finish = some finish → next.finish = some finish)
    (unset : session.timer = .unset → next.timer = .unset)
    (fired : session.timer.hasFired → next.timer.hasFired) : Place timeout lines next := by
  have isFinished : session.finish.isSome → next.finish.isSome := by
    intro some
    obtain ⟨done, found⟩ := Option.isSome_iff_exists.mp some
    rw [finish done found]
    rfl
  cases place with
  | starting stands none timer =>
      exact .starting (reader.trans stands) (delivered.trans none) (unset timer)
  | reading stands =>
      refine .reading ?_
      rw [reader, delivered]
      exact stands
  | waiting stands all shut =>
      refine .waiting ?_ ?_ (closed shut)
      · rw [reader, delivered]
        exact stands
      · rw [delivered, printed shut, all]
  | cancelling stands all shut done =>
      refine .cancelling ?_ ?_ (closed shut) (isFinished done)
      · rw [reader, delivered]
        exact stands
      · rw [delivered, printed shut, all]
  | testing stands all shut done =>
      refine .testing ?_ ?_ (closed shut) (isFinished done)
      · rw [reader, delivered]
        exact stands
      · rw [delivered, printed shut, all]
  | naming returncode stands all shut exited =>
      refine .naming returncode ?_ ?_ (closed shut) (finish _ exited)
      · rw [reader, delivered]
        exact stands
      · rw [delivered, printed shut, all]
  | reported returncode stands shut exited =>
      refine .reported returncode ?_ (closed shut) (finish _ exited)
      rw [reader, printed shut]
      exact stands
  | reportedKill stands shut timer =>
      refine .reportedKill ?_ (closed shut) (fired timer)
      rw [reader, printed shut]
      exact stands

/-- The timer moves on before it has killed. -/
theorem sound_retimed (session : Session) (timer : Timer) (sound : Sound timeout lines session)
    (set : session.timer ≠ .unset) (unspent : session.timer ≠ .spent)
    (fired : session.timer.hasFired → timer.hasFired) :
    Sound timeout lines { session with timer := timer } := by
  constructor
  · exact place_frame session _ sound.place rfl rfl (fun _ => rfl) id (fun _ => id)
      (fun unset => absurd unset set) fired
  · intro killed
    exact absurd (sound.killedLast killed) unspent
  · exact sound.behind
  · exact sound.bounded
  · exact sound.unspoiled

theorem sound_other (session next : Session) (action : Action) (other : action ≠ .reader)
    (sound : Sound timeout lines session)
    (stepped : (sessions ⟨lines, false⟩).step session action = some next) :
    Sound timeout lines next := by
  have place := sound.place
  have killedLast := sound.killedLast
  have behind := sound.behind
  have bounded := sound.bounded
  have unspoiled := sound.unspoiled
  cases action with
  | reader => exact absurd rfl other
  | misread =>
      change session.misread = some next at stepped
      unfold Session.misread at stepped
      split at stepped
      · simp [unspoiled] at stepped
      · cases stepped
  | spoil =>
      obtain ⟨⟨-, -, bad⟩, -⟩ := Option.ite_none_right_eq_some.mp stepped
      cases bad
  | print =>
      obtain ⟨⟨opened, more⟩, taken⟩ := Option.ite_none_right_eq_some.mp stepped
      cases Option.some.inj taken
      refine ⟨place_frame session _ place rfl rfl ?_ id (fun _ => id) id id, killedLast, ?_, ?_,
        unspoiled⟩
      · intro shut
        rw [opened] at shut
        cases shut
      · exact Nat.le_succ_of_le behind
      · exact more
  | close =>
      cases Option.some.inj stepped
      exact ⟨place_frame session _ place rfl rfl (fun _ => rfl) (fun _ => rfl) (fun _ => id) id id,
        killedLast, behind, bounded, unspoiled⟩
  | exit returncode =>
      obtain ⟨running, taken⟩ := Option.ite_none_right_eq_some.mp stepped
      cases Option.some.inj taken
      refine ⟨place_frame session _ place rfl rfl (fun _ => rfl) id ?_ id id, ?_, behind,
        bounded, unspoiled⟩
      · intro finish ended
        rw [running] at ended
        cases ended
      · intro killed
        cases killed
  | expire =>
      obtain ⟨armed, taken⟩ := Option.ite_none_right_eq_some.mp stepped
      cases Option.some.inj taken
      apply sound_retimed session .fired sound
      · simp [armed]
      · simp [armed]
      · exact fun _ => rfl
  | setFlag =>
      obtain ⟨fired, taken⟩ := Option.ite_none_right_eq_some.mp stepped
      cases Option.some.inj taken
      apply sound_retimed session .flagged sound
      · simp [fired]
      · simp [fired]
      · exact fun _ => rfl
  | kill =>
      obtain ⟨flagged, taken⟩ := Option.ite_none_right_eq_some.mp stepped
      cases Option.some.inj taken
      refine ⟨place_frame session _ place rfl rfl (fun _ => rfl) id ?_ ?_ ?_, fun _ => rfl,
        behind, bounded, unspoiled⟩
      · intro finish ended
        simp only [ended, Option.getD_some]
      · intro unset
        rw [flagged] at unset
        cases unset
      · exact fun _ => rfl

theorem read_of_call (session : Session) (request : Call)
    (resume : Except PyExn request.Answer → Agent Unit)
    (rest : session.reader.rest = .call request resume) :
    session.read = (session.answer request).map fun answered =>
      { answered.1 with reader := settle (resume (.ok answered.2)) session.reader.events } := by
  unfold Session.read
  rw [rest]

/-- The reader has got every line, and the output has ended. -/
theorem sound_drained (session : Session) (body : Agent Unit)
    (sound : Sound timeout lines session) (all : session.delivered = session.printed)
    (shut : session.closed)
    (drained : settle body session.reader.events =
      settle (watched timeout (pure ())) (lines.take session.delivered)) :
    Sound timeout lines { session with reader := settle body session.reader.events } :=
  ⟨.waiting drained all shut, sound.killedLast, sound.behind, sound.bounded, sound.unspoiled⟩

theorem sound_reading (session next : Session) (sound : Sound timeout lines session)
    (stands : session.reader = settle (watched timeout (relay (lines.drop session.delivered)))
      (lines.take session.delivered))
    (stepped : session.read = some next) : Sound timeout lines next := by
  have killedLast := sound.killedLast
  have behind := sound.behind
  have bounded := sound.bounded
  cases left : lines.drop session.delivered with
  | nil =>
      rw [left] at stands
      have moved := read_of_call session .readEnd _ (by rw [stands]; rfl)
      rw [moved] at stepped
      obtain ⟨⟨session', _⟩, answered, rfl⟩ := Option.map_eq_some_iff.mp stepped
      obtain ⟨⟨shut, -⟩, taken⟩ := Option.ite_none_right_eq_some.mp answered
      cases taken
      have all : session.delivered = session.printed :=
        le_antisymm behind (bounded.trans (List.drop_eq_nil_iff.mp left))
      apply sound_drained session _ sound all shut
      rw [stands]
      rfl
  | cons line rest =>
      rw [left] at stands
      have moved := read_of_call session (.readLine line) _ (by rw [stands]; rfl)
      rw [moved] at stepped
      obtain ⟨⟨session', there⟩, answered, rfl⟩ := Option.map_eq_some_iff.mp stepped
      simp only [Session.answer] at answered
      by_cases more : session.delivered < session.printed
      · rw [if_pos more] at answered
        cases answered
        refine ⟨.reading ?_, killedLast, more, bounded, sound.unspoiled⟩
        have inside : session.delivered < lines.length := more.trans_le bounded
        have shape := List.drop_eq_getElem_cons inside
        rw [left] at shape
        obtain ⟨rfl, rest'⟩ := List.cons.inj shape
        rw [stands, ← rest', List.take_succ_eq_append_getElem inside]
        rfl
      · rw [if_neg more] at answered
        obtain ⟨⟨shut, -⟩, taken⟩ := Option.ite_none_right_eq_some.mp answered
        cases taken
        have all : session.delivered = session.printed :=
          le_antisymm behind (Nat.le_of_not_lt more)
        apply sound_drained session _ sound all shut
        rw [stands]
        rfl

/-- The flag is set before the kill, so an unset flag rules a kill out. -/
theorem exited_of_unflagged (session : Session) (sound : Sound timeout lines session)
    (finished : session.finish.isSome) (unflagged : session.timer.flag = false) :
    ∃ returncode, session.finish = some (.exited returncode) := by
  obtain ⟨finish, ended⟩ := Option.isSome_iff_exists.mp finished
  cases finish with
  | killed =>
      rw [sound.killedLast ended] at unflagged
      cases unflagged
  | exited returncode => exact ⟨returncode, ended⟩

theorem Timer.hasFired_of_flag (timer : Timer) (flagged : timer.flag = true) :
    timer.hasFired := by
  cases timer <;> simp [Timer.flag, Timer.hasFired] at flagged ⊢

theorem sound_reader (session next : Session) (sound : Sound timeout lines session)
    (stepped : session.read = some next) : Sound timeout lines next := by
  have killedLast := sound.killedLast
  have behind := sound.behind
  have bounded := sound.bounded
  have unspoiled := sound.unspoiled
  cases sound.place with
  | starting stands none unset =>
      have moved := read_of_call session (.startTimer timeout) _ (by rw [stands]; rfl)
      rw [moved] at stepped
      cases stepped
      refine ⟨.reading ?_, ?_, behind, bounded, unspoiled⟩
      · rw [stands, none]
        rfl
      · intro killed
        have spent := killedLast killed
        rw [unset] at spent
        cases spent
  | reading stands => exact sound_reading session next sound stands stepped
  | waiting stands all shut =>
      have moved := read_of_call session .wait _ (by rw [stands]; rfl)
      rw [moved] at stepped
      obtain ⟨⟨session', _⟩, answered, rfl⟩ := Option.map_eq_some_iff.mp stepped
      obtain ⟨finished, taken⟩ := Option.ite_none_right_eq_some.mp answered
      cases taken
      refine ⟨.cancelling ?_ all shut finished, killedLast, behind, bounded, unspoiled⟩
      rw [stands]
      rfl
  | cancelling stands all shut finished =>
      have moved := read_of_call session .cancelTimer _ (by rw [stands]; rfl)
      rw [moved] at stepped
      cases stepped
      refine ⟨.testing ?_ all shut finished, ?_, behind, bounded, unspoiled⟩
      · rw [stands]
        rfl
      · intro killed
        simp [killedLast killed]
  | testing stands all shut finished =>
      have moved := read_of_call session .timedOut _ (by rw [stands]; rfl)
      rw [moved] at stepped
      cases stepped
      cases flagged : session.timer.flag with
      | true =>
          have fired := session.timer.hasFired_of_flag flagged
          refine ⟨.reportedKill ?_ shut fired, killedLast, behind, bounded, unspoiled⟩
          rw [stands, ← all]
          rfl
      | false =>
          obtain ⟨returncode, ended⟩ := exited_of_unflagged session sound finished flagged
          refine ⟨.naming returncode ?_ all shut ended, killedLast, behind, bounded, unspoiled⟩
          rw [stands]
          rfl
  | naming returncode stands all shut exited =>
      have moved := read_of_call session .returncode _ (by rw [stands]; rfl)
      rw [moved] at stepped
      simp only [Session.answer, exited] at stepped
      cases stepped
      refine ⟨.reported returncode ?_ shut exited, killedLast, behind, bounded, unspoiled⟩
      rw [stands, ← all]
      rfl
  | reported returncode stands shut exited =>
      unfold Session.read at stepped
      rw [stands] at stepped
      cases stepped
  | reportedKill stands shut fired =>
      unfold Session.read at stepped
      rw [stands] at stepped
      cases stepped

theorem sound_reached (actions : List Action) (session : Session)
    (reached : (sessions ⟨lines, false⟩).exec actions (start timeout lines) = some session) :
    Sound timeout lines session := by
  refine (sessions ⟨lines, false⟩).invariant_of_exec (Sound timeout lines) ?_ actions
    (start timeout lines) session (sound_start timeout lines) reached
  intro session action next sound stepped
  by_cases own : action = .reader
  · subst own
    exact sound_reader session next sound stepped
  · exact sound_other session next action own sound stepped

end Places

/-! ## The truth of the closing line -/

/-- What the consumer has got so far, and how it learns of the end. -/
structure Truthful (timeout : Nat) (lines : List String) (session : Session) : Prop where
  relayed : ¬ session.reader.Ended →
    session.reader.events = lines.take session.delivered ∧ session.delivered ≤ session.printed
  closing : session.reader.Ended →
    session.reader.rest = .done () ∧ session.closed ∧
    ∃ closing, session.reader.events = lines.take session.printed ++ [closing] ∧
      ((∃ returncode : Int, closing = "\n[exit code: " ++ toString returncode ++ "]\n" ∧
          session.finish = some (.exited returncode)) ∨
        (closing = "\n[killed: exceeded " ++ toString timeout ++ "s time limit]\n" ∧
          session.timer.hasFired))
  /-- Nothing keeps the reader from going on once the process is done. -/
  proceeds : ¬ session.reader.Ended → session.closed → session.finish.isSome →
    session.read.isSome

theorem truthful_of_call (timeout : Nat) (lines : List String) (session : Session)
    (request : Call) (resume : Except PyExn request.Answer → Agent Unit)
    (rest : session.reader.rest = .call request resume)
    (events : session.reader.events = lines.take session.delivered)
    (behind : session.delivered ≤ session.printed)
    (answered : session.closed → session.finish.isSome → (session.answer request).isSome) :
    Truthful timeout lines session where
  relayed _ := ⟨events, behind⟩
  closing ended := by
    unfold Suspended.Ended at ended
    rw [rest] at ended
    exact ended.elim
  proceeds _ shut finished := by
    rw [read_of_call session request resume rest, Option.isSome_map]
    exact answered shut finished

theorem truthful_of_reported (timeout : Nat) (lines : List String) (session : Session)
    (closing : String) (shut : session.closed)
    (stands : session.reader = ⟨lines.take session.printed ++ [closing], .done ()⟩)
    (truth : (∃ returncode, closing = exitLine returncode ∧
        session.finish = some (.exited returncode)) ∨
      (closing = killedLine timeout ∧ session.timer.hasFired)) :
    Truthful timeout lines session := by
  have ended : session.reader.Ended := by
    rw [stands]
    trivial
  refine ⟨fun going => absurd ended going, fun _ => ?_, fun going => absurd ended going⟩
  rw [stands]
  exact ⟨rfl, shut, closing, rfl, truth⟩

theorem truthful_of_sound (timeout : Nat) (lines : List String) (session : Session)
    (sound : Sound timeout lines session) : Truthful timeout lines session := by
  obtain ⟨place, killedLast, behind, bounded, unspoiled⟩ := sound
  cases place with
  | starting stands none unset =>
      refine truthful_of_call timeout lines session (.startTimer timeout) _
        (by rw [stands]; rfl) ?_ behind (fun _ _ => rfl)
      rw [stands, none]
      rfl
  | reading stands =>
      cases left : lines.drop session.delivered with
      | nil =>
          rw [left] at stands
          refine truthful_of_call timeout lines session .readEnd _ (by rw [stands]; rfl) ?_
            behind fun shut _ => ?_
          · rw [stands]
            rfl
          · rw [Session.answer, if_pos ⟨shut, unspoiled⟩]
            rfl
      | cons line rest =>
          rw [left] at stands
          refine truthful_of_call timeout lines session (.readLine line) _
            (by rw [stands]; rfl) ?_ behind fun shut _ => ?_
          · rw [stands]
            rfl
          · simp only [Session.answer, shut, unspoiled, and_self, ↓reduceIte]
            split <;> rfl
  | waiting stands all shut =>
      refine truthful_of_call timeout lines session .wait _ (by rw [stands]; rfl) ?_
        behind fun _ finished => ?_
      · rw [stands]
        rfl
      · rw [Session.answer, if_pos finished]
        rfl
  | cancelling stands all shut finished =>
      refine truthful_of_call timeout lines session .cancelTimer _ (by rw [stands]; rfl) ?_
        behind (fun _ _ => rfl)
      rw [stands]
      rfl
  | testing stands all shut finished =>
      refine truthful_of_call timeout lines session .timedOut _ (by rw [stands]; rfl) ?_
        behind (fun _ _ => rfl)
      rw [stands]
      rfl
  | naming returncode stands all shut exited =>
      refine truthful_of_call timeout lines session .returncode _ (by rw [stands]; rfl) ?_
        behind fun _ _ => ?_
      · rw [stands]
        rfl
      · rw [Session.answer, exited]
        rfl
  | reported returncode stands shut exited =>
      exact truthful_of_reported timeout lines session _ shut stands
        (Or.inl ⟨returncode, rfl, exited⟩)
  | reportedKill stands shut fired =>
      exact truthful_of_reported timeout lines session _ shut stands (Or.inr ⟨rfl, fired⟩)

/-- A reader that has raised has told no end. -/
theorem not_truthful_of_fail (timeout : Nat) (lines : List String) (session : Session)
    (exn : PyExn) (raised : session.reader.rest = .fail exn) :
    ¬ Truthful timeout lines session := by
  intro truthful
  have ended : session.reader.Ended := by
    unfold Suspended.Ended
    rw [raised]
    trivial
  have done := (truthful.closing ended).1
  rw [raised] at done
  cases done

theorem exec_print (output : Output) (count : Nat) (session : Session)
    (opened : session.closed = false) (more : session.printed + count ≤ output.lines.length) :
    (sessions output).exec (List.replicate count .print) session =
      some { session with printed := session.printed + count } := by
  induction count generalizing session with
  | zero => rfl
  | succ count ih =>
      have printed : (sessions output).step session .print =
          some { session with printed := session.printed + 1 } :=
        if_pos ⟨opened, by omega⟩
      rw [List.replicate_succ, Machine.exec, printed, Option.bind_some,
        ih { session with printed := session.printed + 1 } opened (by dsimp only; omega)]
      simp only [Nat.add_assoc, Nat.add_comm 1 count]

/-- The process prints all that it has before anything is read. -/
def spoiling (output : Output) : List Action :=
  .reader :: (List.replicate output.lines.length .print ++ [.spoil, .misread, .reader])

theorem exec_spoiling (timeout : Nat) (lines : List String) :
    ∃ session, (sessions ⟨lines, true⟩).exec (spoiling ⟨lines, true⟩) (start timeout lines) =
        some session ∧ session.reader.rest = .fail .unicodeDecodeError := by
  let reading : Session :=
    ⟨settle (watched timeout (relay lines)) [], 0, 0, false, none, .armed, false⟩
  have printed := exec_print ⟨lines, true⟩ lines.length reading rfl (Nat.zero_add _).le
  have first : (sessions ⟨lines, true⟩).step (start timeout lines) .reader = some reading := rfl
  rw [spoiling, Machine.exec, first, Option.bind_some, Machine.exec_append, printed,
    Option.bind_some]
  have spoils : (sessions ⟨lines, true⟩).step
      { reading with printed := reading.printed + lines.length } .spoil =
        some { reading with printed := reading.printed + lines.length, spoiled := true } := by
    simp [sessions, reading]
  rw [Machine.exec, spoils, Option.bind_some]
  cases lines <;> exact ⟨_, rfl, rfl⟩

/-- In every interleaving of reader, timer and process the closing line says
how the process ended, exactly when nothing raises: neither `Popen` nor a read
of the output. -/
theorem closing_line_truthful_iff (shlexSplit : String → Except String (List String))
    (system : List String → Except PyExn Unit) (commandLine : String) (argv : List String)
    (parsed : shlexSplit commandLine = .ok argv) (nonempty : argv ≠ []) (timeout : Nat)
    (output : Output) :
    ∃ first, opened shlexSplit system commandLine timeout output = some first ∧
      ((∀ actions session, (sessions output).exec actions first = some session →
          Truthful timeout output.lines session) ↔
        NoNull argv ∧ system (["docker", "exec", container] ++ argv) = .ok () ∧
          output.undecodable = false) := by
  refine ⟨_, opened_of_parsed shlexSplit system commandLine argv timeout output parsed nonempty,
    ?_⟩
  rw [← and_assoc, ← popen_ok_iff]
  cases answer : popen system (["docker", "exec", container] ++ argv) with
  | error exn =>
      refine iff_of_false (fun truthful => ?_) fun both => by cases both.1
      exact not_truthful_of_fail timeout output.lines _ exn rfl (truthful [] _ rfl)
  | ok _ =>
      obtain ⟨lines, undecodable⟩ := output
      cases undecodable with
      | false =>
          refine iff_of_true (fun actions session reached => ?_) ⟨rfl, rfl⟩
          exact truthful_of_sound timeout lines session (sound_reached actions session reached)
      | true =>
          refine iff_of_false (fun truthful => ?_) fun both => by cases both.2
          obtain ⟨session, reached, raised⟩ := exec_spoiling timeout lines
          exact not_truthful_of_fail timeout lines session _ raised (truthful _ session reached)

/-- The process exits by itself, and the timer fires before it is cancelled. -/
def lateTimer : List Action :=
  [.reader, .print, .reader, .close, .exit 0, .reader, .reader, .expire, .setFlag, .kill,
    .reader, .reader]

theorem closing_line_truthful_late_timer :
    ∃ first session,
      opened Shlex.split (fun _ => .ok ()) "uname -a" 30 ⟨["Linux\n"], false⟩ = some first ∧
        (sessions ⟨["Linux\n"], false⟩).exec lateTimer first = some session ∧
        Truthful 30 ["Linux\n"] session := by
  have parsed : Shlex.split "uname -a" = .ok ["uname", "-a"] := by decide +kernel
  obtain ⟨first, opens, truthful⟩ := closing_line_truthful_iff Shlex.split (fun _ => .ok ())
    "uname -a" ["uname", "-a"] parsed (by simp) 30 ⟨["Linux\n"], false⟩
  have started := opened_of_parsed Shlex.split (fun _ => .ok ()) "uname -a" ["uname", "-a"] 30
    ⟨["Linux\n"], false⟩ parsed (by simp)
  cases Option.some.inj (opens.symm.trans started)
  have ran : ((sessions ⟨["Linux\n"], false⟩).exec lateTimer (start 30 ["Linux\n"])).isSome := by
    decide +kernel
  obtain ⟨session, reached⟩ := Option.isSome_iff_exists.mp ran
  exact ⟨_, session, opens, reached,
    truthful.mpr ⟨by decide, rfl, rfl⟩ lateTimer session reached⟩

/-- An argument with a null character: the stream ends with nothing in it. -/
theorem null_argument_ends_untold :
    ∃ session, Shlex.split "ps \x00" = .ok ["ps", "\x00"] ∧
      opened Shlex.split (fun _ => .ok ()) "ps \x00" 30 ⟨[], false⟩ = some session ∧
        session.reader.events = [] ∧ session.reader.Ended ∧ ¬ Truthful 30 [] session := by
  have parsed : Shlex.split "ps \x00" = .ok ["ps", "\x00"] := by decide +kernel
  refine ⟨_, parsed, opened_of_parsed Shlex.split (fun _ => .ok ()) "ps \x00" _ 30 ⟨[], false⟩
    parsed (by simp), rfl, trivial, ?_⟩
  exact not_truthful_of_fail 30 [] _ .valueError rfl

end KernelSprint.ClosingLine

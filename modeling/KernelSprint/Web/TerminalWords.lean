import KernelSprint.Backend.CommandClients
import KernelSprint.Backend.RelayDelivery
import KernelSprint.Lib.Shlex
import KernelSprint.Web.TerminalRelease

/-!
# What the lab makes of a command

The lab socket and the terminal with the scanner that the server really has:
which commands are started, refused or not understood, and which ones the
terminal does not come back from.
-/

set_option autoImplicit false

namespace KernelSprint.TerminalWords

open Generators Generators.Gen Labelled PyText Relay StreamCommand Shlex
open RelayDelivery Terminal TerminalAttribution TerminalRelease

/-! ## Words of a command -/

theorem isspace_of_isBlank (c : Char) (blank : isBlank c) : isspace c := by
  have cases : ((c = ' ' ∨ c = '\t') ∨ c = '\r') ∨ c = '\n' := by
    simpa [isBlank, Bool.or_eq_true, decide_eq_true_eq] using blank
  rcases cases with ((rfl | rfl) | rfl) | rfl
  all_goals rfl

theorem strip_starts (text : String) (c : Char) (rest : List Char)
    (starts : (strip text).toList = c :: rest) : isspace c = false := by
  have kept : (strip text).toList <+: text.toList.dropWhile isspace := by
    rw [strip, stripBy, String.toList_ofList]
    exact List.rdropWhile_prefix isspace _
  obtain ⟨more, whole⟩ := kept
  have first := List.head?_dropWhile_not isspace text.toList
  rw [← whole, starts] at first
  exact first

/-- A command with something in it has a word, if it can be taken apart. -/
theorem split_nonempty (text : String) (something : strip text ≠ "") :
    Shlex.split (strip text) ≠ .ok [] := by
  intro nothing
  have blanks := splits_nil ((split_iff (strip text) []).mp nothing)
  cases chars : (strip text).toList with
  | nil => exact something (String.toList_eq_nil_iff.mp chars)
  | cons c rest =>
      have space := isspace_of_isBlank c (blanks c (by rw [chars]; exact List.mem_cons_self))
      rw [strip_starts text c rest chars] at space
      cases space

/-! ## What the server does about a command -/

/-- The code starts this one process first and no other after it. -/
def StartsOne (argv : List String) : CommandAgent.Agent Unit → Prop
  | .call request rest =>
      request = .popen argv ∧ ∀ answer, (rest answer).Only Subprocesses.NoStart fun _ => True
  | _ => False

/-- What `stream_command` does with the words of a command: it starts them in
the container, once, and nothing else, and what it yields is the output. -/
structure Runs (request : String) (words : List String) (action : Action String) : Prop where
  starts : ∀ lines, StartsOne (["docker", "exec", CommandAgent.container] ++ words)
    (CommandAgent.streamCommand Shlex.split (strip request) commandTimeoutSec lines)
  serves : ∃ run : ProcessRun, action = .serve (CommandAgent.outcomeOf
    (play (CommandAgent.respond run.ending) (CommandAgent.streamCommand Shlex.split
      (strip request) commandTimeoutSec (lines run.output))))

/-- Everything that can become of a request. -/
inductive Vetted (request : String) (action : Action String) : Prop
  | blank (nothing : strip request = "") (ignored : action = .ignore)
  | unreadable (something : strip request ≠ "")
      (wordless : ∀ words, ¬ Splits (strip request).toList words)
      (told : action = .reply Sockets.unparseable)
  | refused (program : String) (arguments : List String)
      (reads : Splits (strip request).toList (program :: arguments))
      (unknown : program ∉ Sockets.allowedCommands)
      (told : action = .reply (Sockets.refusal program))
  | run (program : String) (arguments : List String)
      (reads : Splits (strip request).toList (program :: arguments))
      (known : program ∈ Sockets.allowedCommands)
      (runs : Runs request (program :: arguments) action)

theorem streamCommand_starts (commandLine first : String) (rest : List String)
    (words : Shlex.split commandLine = .ok (first :: rest)) (timeout : Nat)
    (lines : List String) :
    StartsOne (["docker", "exec", CommandAgent.container] ++ first :: rest)
      (CommandAgent.streamCommand Shlex.split commandLine timeout lines) := by
  unfold CommandAgent.streamCommand
  rw [words]
  refine ⟨rfl, fun answer => ?_⟩
  apply only_bind
  · cases answer <;> trivial
  · exact fun _ => Subprocesses.supervise_noStart timeout lines

theorem lab_vetted (request : String) (run : ProcessRun) :
    Vetted request (lab Shlex.split request run) := by
  by_cases nothing : strip request = ""
  · exact .blank nothing (by simp only [lab, Sockets.labSocket, nothing, if_true])
  · cases words : Shlex.split (strip request) with
    | error message =>
        refine .unreadable nothing (fun words' splits => ?_) ?_
        · rw [(split_iff (strip request) words').mpr splits] at words
          cases words
        · simp only [lab, Sockets.labSocket, nothing, words, if_false]
    | ok found =>
        cases found with
        | nil => exact absurd words (split_nonempty request nothing)
        | cons program arguments =>
            have reads := (split_iff _ _).mp words
            by_cases known : program ∈ Sockets.allowedCommands
            · refine .run program arguments reads known
                ⟨streamCommand_starts (strip request) program arguments words commandTimeoutSec,
                  run, ?_⟩
              rw [CommandAgent.play_streamCommand]
              simp only [lab, Sockets.labSocket, nothing, words, known, if_true, if_false]
            · refine .refused program arguments reads known ?_
              simp only [lab, Sockets.labSocket, nothing, words, known, if_false]

/-- The log of a connection has what the socket has made of each request. -/
def Faithful {Req World Ev : Type} (socket : Req → World → Action Ev)
    (conn : Connection Req Ev) : Prop :=
  ∀ pair ∈ received conn, ∃ world, pair.2 = socket pair.1 world

theorem faithful_step {Req World Ev : Type} (socket : Req → World → Action Ev)
    (conn next : Connection Req Ev) (label : Label Req World) (faithful : Faithful socket conn)
    (stepped : (relay socket).step conn label = some next) : Faithful socket next := by
  have same : RelayDelivery.Label.internal label → Faithful socket next := fun internal => by
    unfold Faithful
    rw [received_internal socket conn next label internal stepped]
    exact faithful
  cases label with
  | arrive request =>
      cases Option.some.inj stepped
      exact faithful
  | receive world =>
      obtain ⟨request, rest, -, -, -, logged⟩ := receive_frame socket conn next world stepped
      unfold Faithful received
      rw [logged, List.map_cons, List.forall_mem_cons]
      exact ⟨⟨world, rfl⟩, faithful⟩
  | work index => exact same rfl
  | get => exact same rfl
  | send => exact same rfl

/-- Whatever a client sends to the lab socket and whenever, a request that is
run starts one process, in the container, with words that begin with an allowed
program, every other one none, and what is sent to the client for it begins the
answer. -/
theorem commands_vetted (schedule : List (Label String ProcessRun))
    (conn : Connection String String)
    (reached : (relay (lab Shlex.split)).exec schedule .accept = some conn) :
    ∀ entry ∈ conn.log,
      Vetted entry.request entry.action ∧ entry.sent <+: entry.action.answer := by
  have ⟨faithful, orderly⟩ := (relay (lab Shlex.split)).invariant_of_exec
    (fun conn => Faithful (lab Shlex.split) conn ∧ Orderly conn)
    (fun conn label next ⟨faithful, orderly⟩ stepped =>
      ⟨faithful_step (lab Shlex.split) conn next label faithful stepped,
        orderly_step (lab Shlex.split) conn next label orderly stepped⟩)
    schedule .accept conn ⟨List.forall_mem_nil _, orderly_accept⟩ reached
  intro entry logged
  refine ⟨?_, sent_begins_answer conn orderly entry logged⟩
  obtain ⟨run, same⟩ := faithful (entry.request, entry.action) (List.mem_map_of_mem logged)
  change entry.action = lab Shlex.split entry.request run at same
  rw [same]
  exact lab_vetted entry.request run

/-- A command that runs and one that is refused. -/
def runAndRefused : List (Label String ProcessRun) :=
  [.arrive "uname '-a'", .arrive "\"r\"m x", .receive ⟨"Linux\n", .exited 0⟩, .work 0, .get,
    .send, .work 0, .work 0, .get, .send, .get, .receive ⟨"", .exited 0⟩, .send]

theorem commands_vetted_two :
    ∃ conn, (relay (lab Shlex.split)).exec runAndRefused .accept = some conn ∧
      ∀ entry ∈ conn.log,
        Vetted entry.request entry.action ∧ entry.sent <+: entry.action.answer := by
  have reaches : ((relay (lab Shlex.split)).exec runAndRefused .accept).isSome := by
    decide +kernel
  obtain ⟨conn, reached⟩ := Option.isSome_iff_exists.mp reaches
  exact ⟨conn, reached, commands_vetted runAndRefused conn reached⟩

/-! ## The terminal -/

/-- The server can take the command apart. -/
def Readable (cmd : String) : Prop :=
  strip cmd ≠ "" ∧ ∃ words, Splits (strip cmd).toList words

theorem answerable_iff (cmd : String) : Answerable Shlex.split cmd ↔ Readable cmd := by
  constructor
  · rintro ⟨something, first, rest, words⟩
    exact ⟨something, first :: rest, (split_iff _ _).mp words⟩
  · rintro ⟨something, words, splits⟩
    have split := (split_iff (strip cmd) words).mpr splits
    cases words with
    | nil => exact absurd split (split_nonempty cmd something)
    | cons first rest => exact ⟨something, first, rest, split⟩

/-- With nothing under way the terminal accepts input if every command can be
taken apart, and only then as long as no command followed by another one prints
a releasing text. -/
theorem terminal_locked_iff (schedule : List SessionLabel) (session : Session)
    (reached : (terminal Shlex.split).exec schedule Session.start = some session)
    (quiet : Quiet session) :
    ((∀ cmd ∈ commands session, Readable cmd) → session.client.running = false) ∧
      ((∀ action ∈ followed session, Unmarked action) →
        (session.client.running = true ↔ ∃ cmd ∈ commands session, ¬ Readable cmd)) := by
  obtain ⟨orderly, recorded, toCome⟩ := session_releases Shlex.split schedule session reached
  have released : (∀ cmd ∈ commands session, Readable cmd) → session.client.running = false := by
    intro readable
    refine released_of_quiet session orderly quiet (toCome fun cmd member => ?_)
    exact (answerable_iff cmd).mpr (readable cmd member)
  refine ⟨released, fun unmarked => ⟨fun running => ?_, ?_⟩⟩
  · by_contra readable
    simp only [not_exists, not_and, not_not] at readable
    rw [released readable] at running
    cases running
  · rintro ⟨cmd, member, unreadable⟩
    by_contra idle
    rw [Bool.not_eq_true] at idle
    have consistent := (session_consistent Shlex.split schedule session reached unmarked).2
    exact unreadable ((answerable_iff cmd).mp (answerable_of_idle Shlex.split session orderly
      recorded consistent quiet idle cmd member))

def loneBackslash : List SessionLabel :=
  [.submit "ps \\", .receive ⟨"", .exited 0⟩, .send, .deliver]

theorem terminal_locked_loneBackslash :
    ∃ session, (terminal Shlex.split).exec loneBackslash Session.start = some session ∧
      ∃ cmd ∈ commands session, ¬ Readable cmd := by
  have outcome : ∃ session ∈ (terminal Shlex.split).exec loneBackslash Session.start,
      Quiet session ∧ session.client.running = true ∧ followed session = [] := by
    decide +kernel
  obtain ⟨session, reached, quiet, locked, nothing⟩ := outcome
  have unmarked : ∀ action ∈ followed session, Unmarked action := by
    rw [nothing]
    exact List.forall_mem_nil _
  exact ⟨session, reached,
    ((terminal_locked_iff loneBackslash session reached quiet).2 unmarked).mp locked⟩

end KernelSprint.TerminalWords

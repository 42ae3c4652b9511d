import KernelSprint.Backend.StreamCommand

/-!
# The terminal against the lab socket

`RealTerminal` in connected mode, the handler of `/ws/lab` and a FIFO channel
in each direction.  The channel to the server is the inbox of its connection.
-/

set_option autoImplicit false

namespace KernelSprint.Terminal

open Labelled PyText Relay StreamCommand

structure HistoryEntry where
  cmd : String
  out : String
  deriving DecidableEq, Repr

structure RealTerminal where
  history : List HistoryEntry
  currentOut : String
  running : Bool
  deriving DecidableEq, Repr

/-- A chunk with one of the three texts ends the command for the terminal. -/
def releases (data : String) : Bool :=
  includes data "[exit code:" || includes data "not allowed" || includes data "[killed:"

def setLastOut (out : String) : List HistoryEntry → List HistoryEntry
  | [] => []
  | [entry] => [{ entry with out }]
  | entry :: rest => entry :: setLastOut out rest

/-- `ws.onmessage` -/
def RealTerminal.onmessage (terminal : RealTerminal) (data : String) : RealTerminal where
  history := setLastOut (terminal.currentOut ++ data) terminal.history
  currentOut := terminal.currentOut ++ data
  running := if releases data then false else terminal.running

/-- `run()` with the text of the input field; the command is what is sent. -/
def RealTerminal.run (terminal : RealTerminal) (input : String) :
    Option (RealTerminal × String) :=
  let cmd := trim input
  if cmd = "" ∨ terminal.running then none
  else
    some (⟨terminal.history ++ [⟨cmd, ""⟩], "", true⟩, cmd)

/-- `inFlight` holds the chunks on their way to the client. -/
structure Session where
  client : RealTerminal
  server : Connection String String
  inFlight : List String
  deriving DecidableEq, Repr

def Session.start : Session := ⟨⟨[], "", false⟩, .accept, []⟩

inductive SessionLabel where
  | submit (input : String)
  | deliver
  | receive (run : ProcessRun)
  | work (index : Nat)
  | get
  | send
  deriving DecidableEq, Repr

variable (shlexSplit : String → Except String (List String))

def Session.submit (session : Session) (input : String) : Option Session := do
  let (client, cmd) ← session.client.run input
  let server ← (relay (lab shlexSplit)).step session.server (.arrive cmd)
  some { session with client, server }

def Session.deliver (session : Session) : Option Session :=
  match session.inFlight with
  | [] => none
  | data :: inFlight => some { session with client := session.client.onmessage data, inFlight }

def Session.serve (session : Session) (label : Label String ProcessRun) : Option Session := do
  let server ← (relay (lab shlexSplit)).step session.server label
  some { session with server }

def Session.send (session : Session) : Option Session := do
  let server ← (relay (lab shlexSplit)).step session.server .send
  some { session with server, inFlight := session.inFlight ++ session.server.handler.pending.toList }

def terminal : Machine Session SessionLabel where
  step session
    | .submit input => session.submit shlexSplit input
    | .deliver => session.deliver
    | .receive run => session.serve shlexSplit (.receive run)
    | .work index => session.serve shlexSplit (.work index)
    | .get => session.serve shlexSplit .get
    | .send => session.send shlexSplit

/-! ## Chunks that release the terminal -/

theorem includes_of_part (first part second sub : String) (found : includes part sub) :
    includes (first ++ part ++ second) sub := by
  rw [includes, decide_eq_true_iff] at found ⊢
  refine found.trans ⟨first.toList, second.toList, ?_⟩
  rw [String.toList_append, String.toList_append]

theorem releases_of_part (first part second : String) (found : releases part) :
    releases (first ++ part ++ second) := by
  unfold releases at found ⊢
  rw [Bool.or_eq_true, Bool.or_eq_true] at found ⊢
  rcases found with (exited | refused) | killed
  · exact Or.inl (Or.inl (includes_of_part first part second _ exited))
  · exact Or.inl (Or.inr (includes_of_part first part second _ refused))
  · exact Or.inr (includes_of_part first part second _ killed)

theorem releases_of_head (part second : String) (found : releases part) :
    releases (part ++ second) := by
  have padded := releases_of_part "" part second found
  rwa [String.empty_append] at padded

theorem releases_exitLine (returncode : Int) : releases (exitLine returncode) := by
  have marked : releases "\n[exit code: " := by decide +kernel
  have parts : exitLine returncode = "\n[exit code: " ++ (toString returncode ++ "]\n") :=
    String.append_assoc
  rw [parts]
  exact releases_of_head _ _ marked

theorem releases_killedLine (timeout : Nat) : releases (killedLine timeout) := by
  have marked : releases "\n[killed: exceeded " := by decide +kernel
  have parts : killedLine timeout =
      "\n[killed: exceeded " ++ (toString timeout ++ "s time limit]\n") := String.append_assoc
  rw [parts]
  exact releases_of_head _ _ marked

theorem releases_refusal (first : String) : releases (Sockets.refusal first) := by
  have marked : releases "' is not allowed. Allowed commands: " := by decide +kernel
  have parts : Sockets.refusal first =
      "error: '" ++ first ++ "' is not allowed. Allowed commands: " ++
        (Sockets.joinSorted Sockets.allowedCommands ++ "\n") := String.append_assoc
  rw [parts]
  exact releases_of_part ("error: '" ++ first) _ _ marked

/-- The server takes the command for one or more words. -/
def Answerable (cmd : String) : Prop :=
  strip cmd ≠ "" ∧ ∃ first rest, shlexSplit (strip cmd) = .ok (first :: rest)

theorem lab_answerable (cmd : String) (run : ProcessRun) (answerable : Answerable shlexSplit cmd)
    (completes : (lab shlexSplit cmd run).completes) :
    ∃ chunk ∈ (lab shlexSplit cmd run).answer, releases chunk := by
  obtain ⟨nonempty, first, rest, words⟩ := answerable
  have dispatched : lab shlexSplit cmd run =
      if first ∈ Sockets.allowedCommands then
        .serve (streamCommand shlexSplit (strip cmd) commandTimeoutSec run)
      else .reply (Sockets.refusal first) := by
    simp only [lab, Sockets.labSocket, nonempty, words, if_false]
  rw [dispatched] at completes ⊢
  split at completes
  · next allowed =>
      rw [if_pos allowed]
      simp only [streamCommand, words] at completes ⊢
      split at completes
      · cases completes
      · next plain =>
          rw [if_neg plain]
          simp only [ProcessRun.outcome] at completes ⊢
          cases ending : run.ending with
          | exited returncode =>
              exact ⟨_, List.mem_append_right _ (List.mem_singleton_self _),
                releases_exitLine returncode⟩
          | killed =>
              exact ⟨_, List.mem_append_right _ (List.mem_singleton_self _),
                releases_killedLine commandTimeoutSec⟩
          | raised =>
              rw [ending] at completes
              cases completes
  · next refused =>
      rw [if_neg refused]
      exact ⟨_, List.mem_singleton_self _, releases_refusal first⟩

theorem lab_unanswerable (cmd : String) (run : ProcessRun)
    (unanswerable : ¬ Answerable shlexSplit cmd) :
    ∀ chunk ∈ (lab shlexSplit cmd run).answer, releases chunk = false := by
  by_cases empty : strip cmd = ""
  · simp [lab, Sockets.labSocket, empty, Action.answer]
  · have unmarked : releases Sockets.unparseable = false := by decide +kernel
    cases words : shlexSplit (strip cmd) with
    | error message => simp [lab, Sockets.labSocket, empty, words, Action.answer, unmarked]
    | ok argv =>
        cases argv with
        | nil => simp [lab, Sockets.labSocket, empty, words, Action.answer, unmarked]
        | cons first rest => exact absurd ⟨empty, first, rest, words⟩ unanswerable

end KernelSprint.Terminal

import Mathlib.Data.List.DropRight
import KernelSprint.Backend.Sockets

/-!
# Running a lab command

`stream_command` of `docker_agent`: the lines that the command prints and a
closing line that tells how it ended.
-/

set_option autoImplicit false

namespace KernelSprint.StreamCommand

open PyText Relay Sockets

inductive Ending where
  | exited (returncode : Int)
  /-- The timer fired first. -/
  | killed
  /-- Reading the output raised. -/
  | raised
  deriving DecidableEq, Repr

/-- What the started process does; `output` is both of its streams. -/
structure ProcessRun where
  output : String
  ending : Ending
  deriving DecidableEq, Repr

/-- `for line in proc.stdout` -/
def iterLines : List Char → List (List Char)
  | [] => []
  | c :: rest =>
      if c = '\n' then [c] :: iterLines rest
      else
        match iterLines rest with
        | [] => [[c]]
        | line :: more => (c :: line) :: more

/-- The lines that a text stream gives; `output` is what a process has printed
once `\r\n` and `\r` have become `\n`, as `text=True` has it. -/
def lines (output : String) : List String := (iterLines output.toList).map String.ofList

/-! ## Lines -/

theorem iterLines_eq_nil (output : List Char) : iterLines output = [] ↔ output = [] := by
  cases output with
  | nil => simp [iterLines]
  | cons c rest =>
      unfold iterLines
      split
      · simp
      · cases iterLines rest <;> simp

theorem iterLines_cons (c : Char) (rest line : List Char) (more : List (List Char))
    (inner : c ≠ '\n') (lines : iterLines rest = line :: more) :
    iterLines (c :: rest) = (c :: line) :: more := by
  simp only [iterLines, if_neg inner, lines]

/-- What ends with a newline leaves the lines after it alone. -/
theorem iterLines_append (first second : List Char) (ends : first.getLast? = some '\n') :
    iterLines (first ++ second) = iterLines first ++ iterLines second := by
  induction first with
  | nil => cases ends
  | cons c rest ih =>
      by_cases alone : rest = []
      · subst alone
        have newline : c = '\n' := by simpa using ends
        simp [newline, iterLines]
      · have later : rest.getLast? = some '\n' := by
          rwa [List.getLast?_cons_of_ne_nil alone] at ends
        have split := ih later
        by_cases newline : c = '\n'
        · simp [iterLines, newline, split]
        · obtain ⟨line, more, first⟩ := List.exists_cons_of_ne_nil
            (mt (iterLines_eq_nil rest).mp alone)
          rw [List.cons_append, iterLines_cons c rest line more newline first,
            iterLines_cons c (rest ++ second) line (more ++ iterLines second) newline
              (by rw [split, first]; rfl)]
          rfl

theorem iterLines_flatten (output : List Char) : (iterLines output).flatten = output := by
  induction output with
  | nil => rfl
  | cons c rest ih =>
      unfold iterLines
      by_cases newline : c = '\n'
      · rw [if_pos newline, List.flatten_cons, ih]
        rfl
      · rw [if_neg newline]
        cases lines : iterLines rest with
        | nil =>
            rw [lines] at ih
            rw [← ih]
            rfl
        | cons line more =>
            rw [lines] at ih
            rw [← ih]
            rfl

theorem infix_of_mem_iterLines (output line : List Char) (member : line ∈ iterLines output) :
    line <:+: output := by
  have inside := List.infix_of_mem_flatten member
  rwa [iterLines_flatten] at inside

theorem iterLines_line (line : List Char) (inner : '\n' ∉ line) :
    iterLines (line ++ ['\n']) = [line ++ ['\n']] := by
  induction line with
  | nil => rfl
  | cons c rest ih =>
      have notNewline : c ≠ '\n' := fun same => inner (same ▸ List.mem_cons_self)
      exact iterLines_cons c _ _ _ notNewline
        (ih fun member => inner (List.mem_cons_of_mem c member))

/-- The part of a text up to its last newline. -/
def complete (output : List Char) : List Char := output.rdropWhile (· != '\n')

/-- What stands after the last newline. -/
def unfinished (output : List Char) : List Char := output.rtakeWhile (· != '\n')

theorem complete_append_unfinished (output : List Char) :
    complete output ++ unfinished output = output :=
  List.rdropWhile_append_rtakeWhile

theorem newline_notMem_unfinished (output : List Char) : '\n' ∉ unfinished output := by
  intro member
  have kept := List.mem_rtakeWhile_imp member
  simp at kept

theorem complete_ends (output : List Char) :
    complete output = [] ∨ (complete output).getLast? = some '\n' := by
  by_cases nothing : complete output = []
  · exact Or.inl nothing
  · have stopped := List.rdropWhile_last_not (· != '\n') output nothing
    right
    rw [List.getLast?_eq_some_getLast nothing]
    change some ((output.rdropWhile (· != '\n')).getLast nothing) = some '\n'
    simpa using stopped

theorem iterLines_complete_append (output rest : List Char) :
    iterLines (complete output ++ rest) = iterLines (complete output) ++ iterLines rest := by
  rcases complete_ends output with nothing | ends
  · simp [nothing, iterLines]
  · exact iterLines_append _ _ ends

theorem lines_append (first second : String) (ends : first.toList.getLast? = some '\n') :
    lines (first ++ second) = lines first ++ lines second := by
  simp only [lines, String.toList_append, iterLines_append _ _ ends, List.map_append]

theorem join_lines (output : String) : String.join (lines output) = output := by
  apply String.toList_injective
  rw [String.toList_join, lines, List.flatMap_map]
  have whole := iterLines_flatten output.toList
  rw [← List.flatMap_id] at whole
  simpa using whole

def commandTimeoutSec : Nat := 30

def killedLine (timeout : Nat) : String :=
  "\n[killed: exceeded " ++ toString timeout ++ "s time limit]\n"

def exitLine (returncode : Int) : String := "\n[exit code: " ++ toString returncode ++ "]\n"

theorem take_append_literal (head tail : String) (n : Nat) (long : n ≤ head.toList.length) :
    (head ++ tail).toList.take n = head.toList.take n := by
  rw [String.toList_append, List.take_append_of_le_length long]

theorem killedLine_ne_exitLine (timeout : Nat) (returncode : Int) :
    killedLine timeout ≠ exitLine returncode := by
  intro same
  have killed : (killedLine timeout).toList.take 3 = ['\n', '[', 'k'] := by
    have shape : killedLine timeout =
        "\n[killed: exceeded " ++ (toString timeout ++ "s time limit]\n") :=
      String.append_assoc ..
    rw [shape]
    exact (take_append_literal "\n[killed: exceeded " _ 3 (by decide)).trans (by decide)
  have exit : (exitLine returncode).toList.take 3 = ['\n', '[', 'e'] := by
    have shape : exitLine returncode = "\n[exit code: " ++ (toString returncode ++ "]\n") :=
      String.append_assoc ..
    rw [shape]
    exact (take_append_literal "\n[exit code: " _ 3 (by decide)).trans (by decide)
  rw [same] at killed
  exact absurd (exit.symm.trans killed) (by decide)

def ProcessRun.outcome (run : ProcessRun) (timeout : Nat) : Outcome String :=
  match run.ending with
  | .exited returncode => ⟨lines run.output ++ [exitLine returncode], false⟩
  | .killed => ⟨lines run.output ++ [killedLine timeout], false⟩
  | .raised => ⟨lines run.output, true⟩

/-- `Popen` refuses an argument with a null character. -/
def streamCommand (shlexSplit : String → Except String (List String)) (commandLine : String)
    (timeout : Nat) (run : ProcessRun) : Outcome String :=
  match shlexSplit commandLine with
  | .error message => ⟨["error: could not parse command: " ++ message ++ "\n"], false⟩
  | .ok [] => ⟨[], false⟩
  | .ok argv =>
      if argv.any fun arg => arg.toList.contains (Char.ofNat 0) then ⟨[], true⟩
      else run.outcome timeout

/-- The lab socket with the process that each command starts. -/
def lab (shlexSplit : String → Except String (List String)) (commandLine : String)
    (run : ProcessRun) : Action String :=
  labSocket shlexSplit commandLine fun commandLine =>
    streamCommand shlexSplit commandLine commandTimeoutSec run

end KernelSprint.StreamCommand

import KernelSprint.Backend.StreamMetrics
import KernelSprint.Lib.Columns

/-!
# The process table

`ps` lays its four columns out with blanks, the last one flush right, and
`_read_top_processes` takes the lines apart again at white space.
-/

set_option autoImplicit false

namespace KernelSprint.ProcessTable

open Generators Generators.Gen PyText Columns StreamMetrics

/-! ## What ps prints -/

/-- A process; its name is any text that fits a line. -/
structure Process where
  pid : Nat
  comm : List Char
  pcpu : List Char
  pmem : List Char
  named : comm ≠ []
  printable : Inline comm
  cpuWritten : pcpu ≠ []
  cpuDecimal : ∀ c ∈ pcpu, c.isDigit = true ∨ c = '.'
  memWritten : pmem ≠ []
  memDecimal : ∀ c ∈ pmem, c.isDigit = true ∨ c = '.'

/-- The blanks before each column, beyond the one that separates it. -/
structure Padding where
  pid : Nat
  comm : Nat
  pcpu : Nat
  pmem : Nat

def columns (padding : Padding) (pid comm pcpu pmem : List Char) : List Char :=
  pid ++ (List.replicate (padding.comm + 1) ' ' ++ (comm ++
    (List.replicate (padding.pcpu + 1) ' ' ++ (pcpu ++
      (List.replicate (padding.pmem + 1) ' ' ++ pmem)))))

def header (padding : Padding) : List Char :=
  columns padding "PID".toList "COMMAND".toList "%CPU".toList "%MEM".toList

def Process.line (process : Process) (padding : Padding) : List Char :=
  List.replicate padding.pid ' ' ++
    columns padding (Nat.toDigits 10 process.pid) process.comm process.pcpu process.pmem

def psOutput (padding : Padding) (table : List (Process × Padding)) : String :=
  String.ofList (List.replicate padding.pid ' ' ++
    unlines (header padding :: table.map fun row => row.1.line row.2))

def Process.row (process : Process) : ProcessRow :=
  ⟨String.ofList (Nat.toDigits 10 process.pid), String.ofList process.comm,
    String.ofList process.pcpu, String.ofList process.pmem⟩

/-! ## One line -/

theorem solid_decimal (text : List Char) (decimal : ∀ c ∈ text, c.isDigit = true ∨ c = '.') :
    Solid text := by
  apply solid_of_ascii
  intro c member
  rcases decimal c member with digit | rfl
  · simp only [Char.isDigit, Bool.and_eq_true, decide_eq_true_eq, ge_iff_le,
      UInt32.le_iff_toNat_le] at digit
    change 48 ≤ c.toNat ∧ c.toNat ≤ 57 at digit
    omega
  · decide

theorem line_columns (padding : Padding) (before pid comm pcpu pmem : List Char)
    (inlineBefore : Inline before) (inlinePid : Inline pid) (inlineComm : Inline comm)
    (inlineCpu : Inline pcpu) (written : pmem ≠ []) (solid : Solid pmem) :
    Line (before ++ columns padding pid comm pcpu pmem) := by
  have apart : before ++ columns padding pid comm pcpu pmem =
      (before ++ (pid ++ (List.replicate (padding.comm + 1) ' ' ++ (comm ++
        (List.replicate (padding.pcpu + 1) ' ' ++ (pcpu ++
          List.replicate (padding.pmem + 1) ' ')))))) ++ pmem := by
    simp [columns]
  rw [apart]
  refine Line.of_word _ pmem ?_ written solid
  exact inlineBefore.append (inlinePid.append ((inline_blanks _).append (inlineComm.append
    ((inline_blanks _).append (inlineCpu.append (inline_blanks _))))))

theorem line_process (process : Process) (padding : Padding) : Line (process.line padding) :=
  line_columns padding _ _ _ _ _ (inline_blanks _) (solid_toDigits _).inline process.printable
    (solid_decimal _ process.cpuDecimal).inline process.memWritten
    (solid_decimal _ process.memDecimal)

/-- The decoder of one line. -/
def rowOf (line : String) : Option ProcessRow :=
  match splitMax 3 line.toList with
  | [pid, name, cpu, mem] => some ⟨pid, name, cpu, mem⟩
  | _ => none

theorem rowOf_line (process : Process) (padding : Padding) (solid : Solid process.comm) :
    rowOf (String.ofList (process.line padding)) = some process.row := by
  have cpu := solid_decimal _ process.cpuDecimal
  have mem := solid_decimal _ process.memDecimal
  rw [rowOf, String.toList_ofList, Process.line, columns, splitMax_blanks,
    splitMax_word 2 _ _ (toDigits_ne_nil _) (solid_toDigits _) (ends_blanks _ _), splitMax_blanks,
    splitMax_word 1 _ _ process.named solid (ends_blanks _ _), splitMax_blanks,
    splitMax_word 0 _ _ process.cpuWritten cpu (ends_blanks _ _), splitMax_blanks,
    splitMax_last _ process.memWritten mem]
  rfl

theorem solid_takeWhile (text : List Char) : Solid (text.takeWhile fun c => !isspace c) := by
  intro c member
  have visible := List.mem_takeWhile_imp member
  simpa using visible

/-- A second field never holds white space. -/
theorem rowOf_name (line : String) (row : ProcessRow) (decoded : rowOf line = some row) :
    Solid row.name.toList := by
  unfold rowOf at decoded
  split at decoded
  · next pid name cpu mem fields =>
      cases decoded
      simp only [splitMax] at fields
      split at fields
      · cases fields
      · split at fields
        · simp at fields
        · rw [List.cons.injEq, List.cons.injEq] at fields
          rw [← fields.2.1, String.toList_ofList]
          exact solid_takeWhile _
  · cases decoded

/-! ## The whole table -/

theorem processRows_psOutput (count : Nat) (padding : Padding)
    (table : List (Process × Padding)) :
    processRows count (psOutput padding table) =
      (table.take count).filterMap fun row => rowOf (String.ofList (row.1.line row.2)) := by
  have starts : ∀ c ∈ (header padding).head?, isspace c = false := by
    intro c first
    have letter : (header padding).head? = some 'P' := rfl
    cases letter.symm.trans first
    decide
  have headerLine : Line (header padding) := by
    have line := line_columns padding [] "PID".toList "COMMAND".toList "%CPU".toList "%MEM".toList
      (by decide) (by decide +kernel) (by decide +kernel) (by decide +kernel) (by decide)
      (by decide +kernel)
    rwa [List.nil_append] at line
  have lines : ∀ line ∈ header padding :: table.map fun row => row.1.line row.2, Line line := by
    refine List.forall_mem_cons.mpr ⟨headerLine, ?_⟩
    intro line member
    obtain ⟨row, _, rfl⟩ := List.mem_map.mp member
    exact line_process row.1 row.2
  have split := splitlines_strip padding.pid (header padding) _ starts lines
  unfold processRows
  rw [psOutput, split, List.map_cons, List.drop_one, List.tail_cons, List.map_map,
    ← List.map_take, List.filterMap_map]
  rfl

/-- Every exec prints the same. -/
def printing (out : String) : (request : Call) → Except PyExn request.Answer
  | .exec _ => .ok out
  | .isSet => .ok false
  | .popen => .ok ()
  | .readLine _ => .ok ()
  | .kill => .ok ()

/-- The rows are those of the first processes exactly when none of their names
holds white space. -/
theorem top_processes_iff (count : Nat) (padding : Padding) (table : List (Process × Padding)) :
    play (printing (psOutput padding table)) (readTopProcesses count) =
        ([], .ok ((table.take count).map fun row => row.1.row)) ↔
      ∀ row ∈ table.take count, Solid row.1.comm := by
  have played : play (printing (psOutput padding table)) (readTopProcesses count) =
      ([], .ok ((table.take count).filterMap fun row =>
        rowOf (String.ofList (row.1.line row.2)))) := by
    rw [← processRows_psOutput count padding table]
    rfl
  rw [played, Prod.mk.injEq, Except.ok.injEq]
  constructor
  · intro same row member
    have inRows : row.1.row ∈ (table.take count).map fun row => row.1.row :=
      List.mem_map.mpr ⟨row, member, rfl⟩
    rw [← same.2] at inRows
    obtain ⟨source, _, decoded⟩ := List.mem_filterMap.mp inRows
    have solid := rowOf_name _ _ decoded
    rwa [Process.row, String.toList_ofList] at solid
  · intro solid
    refine ⟨rfl, ?_⟩
    rw [← List.filterMap_eq_map]
    apply List.filterMap_congr
    intro row member
    exact rowOf_line row.1 row.2 (solid row member)

/-! ## A name with a blank -/

def tmux : Process where
  pid := 7
  comm := "tmux: server".toList
  pcpu := "0.1".toList
  pmem := "0.2".toList
  named := by decide
  printable := by decide +kernel
  cpuWritten := by decide
  cpuDecimal := @of_decide_eq_true _ (List.decidableBAll _ _) rfl
  memWritten := by decide
  memDecimal := @of_decide_eq_true _ (List.decidableBAll _ _) rfl

theorem blank_shifts_columns :
    play (printing (psOutput ⟨4, 0, 0, 0⟩ [(tmux, ⟨6, 0, 4, 1⟩)])) (readTopProcesses 5) =
        ([], .ok [⟨"7", "tmux:", "server", "0.1  0.2"⟩]) ∧
      [⟨"7", "tmux:", "server", "0.1  0.2"⟩] ≠ [tmux.row] := by
  have rows : processRows 5 (psOutput ⟨4, 0, 0, 0⟩ [(tmux, ⟨6, 0, 4, 1⟩)]) =
      [⟨"7", "tmux:", "server", "0.1  0.2"⟩] := by decide +kernel
  refine ⟨?_, by decide +kernel⟩
  rw [← rows]
  rfl

end KernelSprint.ProcessTable

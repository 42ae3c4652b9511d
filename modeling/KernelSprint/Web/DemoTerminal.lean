import KernelSprint.Lib.Machine
import KernelSprint.Lib.PyText
import KernelSprint.Lib.Window

/-!
# The terminal in demo mode

`simulateCommand` with JavaScript's property access, and the typing loop of
`RealTerminal` that displays what it returns.  Strings are lists of UTF-16
code units: these are what `length` and `slice` count.
-/

set_option autoImplicit false

namespace KernelSprint.DemoTerminal

open Labelled

/-! ## Strings -/

abbrev Units := List UInt16

/-- One code unit, or a surrogate pair. -/
def unitsOf (c : Char) : Units :=
  if c.toNat < 0x10000 then [UInt16.ofNat c.toNat]
  else
    [UInt16.ofNat (0xd800 + (c.toNat - 0x10000) / 0x400),
      UInt16.ofNat (0xdc00 + (c.toNat - 0x10000) % 0x400)]

def units (text : String) : Units := text.toList.flatMap unitsOf

/-- What `\s` matches; no half of a surrogate pair does. -/
def isSpace (unit : UInt16) : Bool := PyText.isJsSpace (Char.ofNat unit.toNat)

/-- `text.trim()` -/
def trim (text : Units) : Units :=
  ((text.dropWhile isSpace).reverse.dropWhile isSpace).reverse

/-- `text.split(/\s+/)[0]` -/
def firstWord (text : Units) : Units := text.takeWhile fun unit => !isSpace unit

/-! ## Property access -/

/-- The functions among the properties of `Object.prototype`. -/
inductive Builtin where
  | object
  | defineGetter
  | defineSetter
  | hasOwnProperty
  | lookupGetter
  | lookupSetter
  | isPrototypeOf
  | propertyIsEnumerable
  | toString
  | valueOf
  | toLocaleString
  deriving DecidableEq

/-- `object` stands for an object without `length` and `slice`. -/
inductive Value where
  | undefined
  | bool (value : Bool)
  | string (text : Units)
  | object
  | function (builtin : Builtin)
  deriving DecidableEq

inductive JsError where
  | typeError
  deriving DecidableEq

def Value.truthy : Value → Bool
  | .undefined => false
  | .bool value => value
  | .string text => !text.isEmpty
  | .object => true
  | .function _ => true

/-- A call without arguments whose `this` is `undefined`. -/
def Builtin.call : Builtin → Except JsError Value
  | .object => .ok .object
  | .toString => .ok (.string (units "[object Undefined]"))
  | .isPrototypeOf => .ok (.bool false)
  -- these convert `this` to an object first
  | .defineGetter | .defineSetter | .hasOwnProperty | .lookupGetter | .lookupSetter
  | .propertyIsEnumerable | .valueOf | .toLocaleString => .error .typeError

/-- The getter of `__proto__` gives `Object.prototype` itself. -/
def objectPrototype : List (String × Value) := [
  ("constructor", .function .object),
  ("__defineGetter__", .function .defineGetter),
  ("__defineSetter__", .function .defineSetter),
  ("hasOwnProperty", .function .hasOwnProperty),
  ("__lookupGetter__", .function .lookupGetter),
  ("__lookupSetter__", .function .lookupSetter),
  ("isPrototypeOf", .function .isPrototypeOf),
  ("propertyIsEnumerable", .function .propertyIsEnumerable),
  ("toString", .function .toString),
  ("valueOf", .function .valueOf),
  ("__proto__", .object),
  ("toLocaleString", .function .toLocaleString)]

/-! ## The table -/

def FAKE_PS : String :=
  "  PID USER      PR  NI    VIRT    RES    SHR S  %CPU  %MEM     TIME+ COMMAND\n" ++
  "    1 root      20   0  169432  13308   8624 S   0.0   0.3   0:04.21 systemd\n" ++
  "  234 root      20   0   83408   5532   4044 S   0.0   0.1   0:01.12 sshd\n" ++
  "  312 root      20   0  104528   7620   5204 S   0.0   0.2   0:00.89 cron\n" ++
  "  456 root      20   0  712432  42156  18432 S   1.2   1.1   0:07.33 dockerd\n" ++
  "  789 root      20   0 1043816  68204  24576 S   2.4   1.7   0:12.55 " ++
  "containerd\n" ++
  " 1024 root      20   0  234512  18944   9612 S   0.3   0.5   0:02.11 bpftrace\n" ++
  " 1337 root      20   0   54320   3412   2104 R   0.1   0.1   0:00.04 ps"

def FAKE_TOP : String :=
  "top - 14:32:07 up 3 days, 11:24,  1 user,  load average: 1.24, 1.18, 1.05\n" ++
  "Tasks: 142 total,   2 running, 139 sleeping,   0 stopped,   1 zombie\n" ++
  "%Cpu(s): 12.4 us,  3.2 sy,  0.0 ni, 82.1 id,  1.8 wa,  0.0 hi,  0.5 si,  0.0 " ++
  "st\n" ++
  "MiB Mem:   3891.2 total,   2341.5 used,   1549.7 free,    128.3 buffers\n" ++
  "MiB Swap:      0.0 total,      0.0 used,      0.0 free.   1824.1 avail Mem\n" ++
  "\n" ++
  "    PID USER      PR  NI    VIRT    RES    SHR S  %CPU %MEM     TIME+ COMMAND\n" ++
  "   1337 root      20   0   54320   3412   2104 R  12.5  0.1   0:00.04 top\n" ++
  "    456 root      20   0  712432  42156  18432 S   3.1  1.1   0:07.33 dockerd\n" ++
  "    789 root      20   0 1043816  68204  24576 S   2.4  1.7   0:12.55 " ++
  "containerd\n" ++
  "   1024 root      20   0  234512  18944   9612 S   1.2  0.5   0:02.11 " ++
  "bpftrace\n" ++
  "      1 root      20   0  169432  13308   8624 S   0.0  0.3   0:04.21 systemd"

def FAKE_UNAME_A : String :=
  "Linux kernel-sprint-lab 6.8.0-137-generic #137-Ubuntu SMP PREEMPT_DYNAMIC Fri " ++
  "Jul 17 19:15:13 UTC 2026 aarch64 aarch64 aarch64 GNU/Linux"

def FAKE_UNAME_R : String := "6.8.0-137-generic"

def FAKE_NPROC : String := "2"

def FAKE_FREE : String :=
  "               total        used        free      shared  buff/cache   " ++
  "available\n" ++
  "Mem:        3984384     1089536     1587200       128256      542400     " ++
  "1868416\n" ++
  "Swap:             0           0           0"

def FAKE_STRESS_CPU : String :=
  "stress-ng: info:  [1] dispatching hogs: 2 cpu, 0 cpu, 0 matrix, 0 float, 0 " ++
  "fastmath, 0 variable\n" ++
  "stress-ng: info:  [1] running for 5s, 2 workers, 300 stress iterations\n" ++
  "stress-ng: info:  [1] successful run completed in 5.00s\n" ++
  "stress-ng: info:  [1]   stressor      bogo ops real time  usr time  sys time\n" ++
  "stress-ng: info:  [1]                 (secs)    (secs)    (secs)\n" ++
  "stress-ng: info:  [1]   cpu            12450      5.00      7.82      1.94\n" ++
  "stress-ng: info:  [1]   for a 5.00s wall clock time, the loader had a 0.0% " ++
  "load avg"

def FAKE_STRESS_NG : String :=
  "stress-ng: info:  [1] dispatching hogs: 2 cpu, 0 vm, 0 io, 0 fork, 0 " ++
  "semaphore\n" ++
  "stress-ng: info:  [1] running for 5s, 2 workers, 300 stress iterations\n" ++
  "stress-ng: info:  [1] successful run completed in 5.00s"

def SIMULATED_COMMANDS : List (String × String) := [
  ("ps aux", FAKE_PS),
  ("ps", FAKE_PS),
  ("top -bn1", FAKE_TOP),
  ("top", FAKE_TOP),
  ("uname -a", FAKE_UNAME_A),
  ("uname -r", FAKE_UNAME_R),
  ("nproc", FAKE_NPROC),
  ("free -h", FAKE_FREE),
  ("stress-ng --cpu 2 --timeout 5s", FAKE_STRESS_CPU),
  ("stress-ng --cpu 2 -t 5", FAKE_STRESS_CPU),
  ("stress-ng --cpu 8 --timeout 5s", FAKE_STRESS_CPU),
  ("stress-ng --vm 1 --timeout 5s", FAKE_STRESS_NG),
  ("stress-ng --fork 4 --timeout 5s", FAKE_STRESS_NG),
  ("stress-ng --pthread 4 --timeout 5s", FAKE_STRESS_NG),
  ("hostname", "kernel-sprint-lab"),
  ("whoami", "root"),
  ("cat /proc/version",
    "Linux version 6.8.0-137-generic (buildd@lcy02-amd64-045) (gcc (Ubuntu " ++
    "13.3.0-6ubuntu2~24.04.1) 13.3.0, GNU ld (GNU Binutils for Ubuntu) 2.42) " ++
    "#137-Ubuntu SMP PREEMPT_DYNAMIC Fri Jul 17 19:15:13 UTC 2026"),
  ("ls /sys/kernel/debug/sched/",
    "base_slice_ns  child_runnable_first  features  find_best_entity\nnoxps_numa " ++
    "/preempt  runqueues  tg_rt_interleave"),
  ("cat /sys/kernel/debug/sched/base_slice_ns", "4000000")]

/-- A property of the object literal itself. -/
def own (key : Units) : Option Units :=
  (SIMULATED_COMMANDS.find? fun entry => units entry.1 == key).map fun entry => units entry.2

def inherited (key : Units) : Option Value :=
  (objectPrototype.find? fun entry => units entry.1 == key).map (·.2)

/-- `SIMULATED_COMMANDS[key]`: the prototype chain ends with `Object.prototype`. -/
def property (key : Units) : Value :=
  match own key with
  | some text => .string text
  | none => (inherited key).getD .undefined

/-- `typeof val === "function" ? val() : val` -/
def callIfFunction : Value → Except JsError Value
  | .function builtin => builtin.call
  | val => .ok val

def fallback (cmd : Units) : Units :=
  units "[simulated] command \"" ++ cmd ++
    units ("\" executed successfully\n" ++
      "[simulated] This is a demo — connect to the backend for real execution.")

def simulateCommand (cmd : Units) : Except JsError Value :=
  if (property cmd).truthy then callIfFunction (property cmd)
  else
    let word := firstWord cmd
    if (property word).truthy then callIfFunction (property word)
    else .ok (.string (fallback cmd))

/-! ## The terminal -/

structure HistoryEntry where
  cmd : Units
  out : Units
  deriving DecidableEq

/-- The variables of the typing loop.  `i` matters while `output` is a string;
otherwise it is NaN after the first tick. -/
structure Typing where
  cmd : Units
  output : Value
  i : Nat
  deriving DecidableEq

/-- `typing` is the live interval. -/
structure RealTerminal where
  history : List HistoryEntry
  currentOut : Units
  running : Bool
  typing : Option Typing
  deriving DecidableEq

def RealTerminal.start : RealTerminal := ⟨[], [], false, none⟩

/-- `next[next.length - 1] = entry` -/
def setLast (entry : HistoryEntry) : List HistoryEntry → List HistoryEntry
  | [] => []
  | [_] => [entry]
  | first :: rest => first :: setLast entry rest

def RealTerminal.run (terminal : RealTerminal) (input : Units) : Option RealTerminal :=
  let cmd := trim input
  if cmd = [] ∨ terminal.running then none
  else
    let entered : RealTerminal :=
      ⟨terminal.history ++ [⟨cmd, []⟩], [], true, terminal.typing⟩
    match simulateCommand cmd with
    -- the handler raises before `setInterval`
    | .error _ => some entered
    | .ok output => some { entered with typing := some ⟨cmd, output, 0⟩ }

/-- The callback of the interval. -/
def RealTerminal.tick (terminal : RealTerminal) : Option RealTerminal :=
  match terminal.typing with
  | none => none
  | some ⟨cmd, .string output, i⟩ =>
      -- `Math.ceil(output.length / 8)`
      let i := i + (output.length + 7) / 8
      let chunk := output.take i
      let shown := { terminal with
        history := setLast ⟨cmd, chunk⟩ terminal.history
        currentOut := chunk }
      if output.length ≤ i then some { shown with running := false, typing := none }
      else some { shown with typing := some ⟨cmd, .string output, i⟩ }
  -- `output.slice` is not a function: the callback raises, the interval stays
  | some _ => some terminal

inductive Label where
  | enter (input : Units)
  | tick
  deriving DecidableEq

def demo : Machine RealTerminal Label where
  step terminal
    | .enter input => terminal.run input
    | .tick => terminal.tick

/-! ## Strings and their units -/

theorem units_append (first second : String) :
    units (first ++ second) = units first ++ units second := by
  rw [units, String.toList_append, List.flatMap_append]
  rfl

theorem isSpace_small (c : Char) (small : c.toNat < 0x10000) :
    isSpace (UInt16.ofNat c.toNat) = PyText.isJsSpace c := by
  have same : (UInt16.ofNat c.toNat).toNat = c.toNat := UInt16.toNat_ofNat_of_lt' small
  rw [isSpace, same, Char.ofNat_toNat]

theorem isSpace_surrogate (unit : UInt16) (low : 0xd800 ≤ unit.toNat) (high : unit.toNat < 0xe000) :
    isSpace unit = false := by
  have invalid : Char.ofNat unit.toNat = '\x00' := by
    rw [Char.ofNat, dif_neg]
    · rfl
    · intro valid
      rcases valid with below | ⟨above, _⟩
      · omega
      · omega
  rw [isSpace, invalid]
  decide

/-- A space is one unit. -/
theorem unitsOf_space (c : Char) (space : PyText.isJsSpace c = true) :
    ∃ unit, unitsOf c = [unit] ∧ isSpace unit = true := by
  have small : c.toNat < 0x10000 := by
    simp only [PyText.isJsSpace, List.contains_eq_mem, List.mem_cons, List.not_mem_nil, or_false,
      decide_eq_true_eq] at space
    omega
  refine ⟨UInt16.ofNat c.toNat, if_pos small, ?_⟩
  rw [isSpace_small c small, space]

theorem unitsOf_other (c : Char) (other : PyText.isJsSpace c = false) :
    unitsOf c ≠ [] ∧ ∀ unit ∈ unitsOf c, isSpace unit = false := by
  by_cases small : c.toNat < 0x10000
  · rw [unitsOf, if_pos small]
    refine ⟨List.cons_ne_nil _ _, List.forall_mem_singleton.mpr ?_⟩
    rw [isSpace_small c small, other]
  · rw [unitsOf, if_neg small]
    have bound : c.toNat < 0x110000 := by
      rcases c.valid with below | ⟨_, below⟩
      · exact Nat.lt_trans below (by decide)
      · exact below
    have half : ∀ n, 0xd800 ≤ n → n < 0xe000 → isSpace (UInt16.ofNat n) = false := by
      intro n low high
      have same : (UInt16.ofNat n).toNat = n := 
        UInt16.toNat_ofNat_of_lt' (show n < 0x10000 by omega)
      exact isSpace_surrogate _ (by omega) (by omega)
    refine ⟨List.cons_ne_nil _ _, List.forall_mem_cons.mpr
      ⟨half _ (by omega) (by omega), List.forall_mem_singleton.mpr (half _ (by omega) (by omega))⟩⟩

/-- Both of the code's views of a text trim it alike. -/
theorem units_trim (text : String) : units (PyText.trim text) = trim (units text) := by
  have space : ∀ c, PyText.isJsSpace c = true →
      ∃ unit, (unitsOf c).reverse = [unit] ∧ isSpace unit = true := by
    intro c spaced
    obtain ⟨unit, one, out⟩ := unitsOf_space c spaced
    exact ⟨unit, by rw [one]; rfl, out⟩
  have head : ∀ c, PyText.isJsSpace c = false →
      ∃ first rest, unitsOf c = first :: rest ∧ isSpace first = false := by
    intro c other
    obtain ⟨some, none⟩ := unitsOf_other c other
    obtain ⟨first, rest, split⟩ := List.exists_cons_of_ne_nil some
    exact ⟨first, rest, split, none first (split ▸ List.mem_cons_self)⟩
  have last : ∀ c, PyText.isJsSpace c = false →
      ∃ first rest, (unitsOf c).reverse = first :: rest ∧ isSpace first = false := by
    intro c other
    obtain ⟨some, none⟩ := unitsOf_other c other
    obtain ⟨first, rest, split⟩ :=
      List.exists_cons_of_ne_nil (mt List.reverse_eq_nil_iff.mp some)
    exact ⟨first, rest, split, none first (List.mem_reverse.mp (split ▸ List.mem_cons_self))⟩
  have whole : ∀ chars : List Char, units (String.ofList chars) = chars.flatMap unitsOf := by
    intro chars
    rw [units, String.toList_ofList]
  have trimmed : trim (units text) = (((text.toList.flatMap unitsOf).dropWhile
      isSpace).reverse.dropWhile isSpace).reverse := rfl
  rw [trimmed, PyText.dropWhile_flatMap unitsOf _ isSpace unitsOf_space head, List.reverse_flatMap,
    PyText.dropWhile_flatMap (List.reverse ∘ unitsOf) _ isSpace space last, List.reverse_flatMap]
  simp only [PyText.trim, PyText.stripBy, whole, Function.comp_def, List.reverse_reverse]

/-! ## What the lookups find -/

/-- `Object.prototype` has a property of that name. -/
def InheritedName (word : Units) : Prop := ∃ entry ∈ objectPrototype, units entry.1 = word

instance (word : Units) : Decidable (InheritedName word) :=
  inferInstanceAs (Decidable (∃ entry ∈ objectPrototype, units entry.1 = word))

theorem own_some (key text : Units) (found : own key = some text) :
    ∃ entry ∈ SIMULATED_COMMANDS, units entry.1 = key ∧ units entry.2 = text := by
  unfold own at found
  obtain ⟨entry, here, rfl⟩ := Option.map_eq_some_iff.mp found
  exact ⟨entry, List.mem_of_find?_eq_some here, eq_of_beq (List.find?_some here :), rfl⟩

theorem inherited_some (key : Units) (value : Value) (found : inherited key = some value) :
    ∃ entry ∈ objectPrototype, units entry.1 = key ∧ entry.2 = value := by
  unfold inherited at found
  obtain ⟨entry, here, rfl⟩ := Option.map_eq_some_iff.mp found
  exact ⟨entry, List.mem_of_find?_eq_some here, eq_of_beq (List.find?_some here :), rfl⟩

theorem inherited_none_iff (key : Units) : inherited key = none ↔ ¬ InheritedName key := by
  simp only [inherited, Option.map_eq_none_iff, List.find?_eq_none, beq_iff_eq, InheritedName,
    not_exists, not_and]

theorem units_ne_nil (text : String) (nonempty : text ≠ "") : units text ≠ [] := by
  intro nothing
  simp only [units, List.flatMap_eq_nil_iff] at nothing
  obtain ⟨c, rest, shape⟩ := List.exists_cons_of_ne_nil (mt String.toList_eq_nil_iff.mp nonempty)
  have none := nothing c (shape ▸ List.mem_cons_self)
  unfold unitsOf at none
  split at none <;> cases none

/-- The entries are texts that a test for truth accepts. -/
theorem entries_nonempty : ∀ entry ∈ SIMULATED_COMMANDS, entry.2 ≠ "" := by
  have ps : FAKE_PS ≠ "" := by
    unfold FAKE_PS
    simp only [ne_eq, String.append_eq_empty_iff]
    decide
  have top : FAKE_TOP ≠ "" := by
    unfold FAKE_TOP
    simp only [ne_eq, String.append_eq_empty_iff]
    decide
  have unameA : FAKE_UNAME_A ≠ "" := by
    unfold FAKE_UNAME_A
    simp only [ne_eq, String.append_eq_empty_iff]
    decide
  have free : FAKE_FREE ≠ "" := by
    unfold FAKE_FREE
    simp only [ne_eq, String.append_eq_empty_iff]
    decide
  have stressCpu : FAKE_STRESS_CPU ≠ "" := by
    unfold FAKE_STRESS_CPU
    simp only [ne_eq, String.append_eq_empty_iff]
    decide
  have stressNg : FAKE_STRESS_NG ≠ "" := by
    unfold FAKE_STRESS_NG
    simp only [ne_eq, String.append_eq_empty_iff]
    decide
  unfold SIMULATED_COMMANDS
  simp only [List.forall_mem_cons, ne_eq, String.append_eq_empty_iff]
  refine ⟨ps, ps, top, top, unameA, by decide, by decide, free, stressCpu, stressCpu, stressCpu,
    stressNg, stressNg, stressNg, by decide, by decide, by decide, by decide, by decide,
    List.forall_mem_nil _⟩

theorem first_words_own :
    ∀ entry ∈ SIMULATED_COMMANDS, ¬ InheritedName (firstWord (units entry.1)) := by
  decide +kernel

theorem names_are_words :
    ∀ entry ∈ objectPrototype, firstWord (units entry.1) = units entry.1 := by
  decide +kernel

theorem property_own (key text : Units) (found : own key = some text) :
    property key = .string text ∧ (property key).truthy := by
  obtain ⟨entry, listed, -, rfl⟩ := own_some key text found
  have value : property key = .string (units entry.2) := by rw [property, found]
  have nonempty := units_ne_nil entry.2 (entries_nonempty entry listed)
  refine ⟨value, ?_⟩
  rw [value, Value.truthy, List.isEmpty_eq_false_iff.mpr nonempty]
  rfl

theorem property_absent (key : Units) (absent : own key = none)
    (fresh : ¬ InheritedName key) : property key = .undefined := by
  rw [property, absent, (inherited_none_iff key).mpr fresh]
  rfl

/-- What using an inherited property comes to. -/
theorem inherited_values : ∀ entry ∈ objectPrototype, entry.2.truthy ∧
    callIfFunction entry.2 ∈ [.ok .object, .error .typeError, .ok (.bool false),
      .ok (.string (units "[object Undefined]"))] := by
  decide +kernel

theorem undefined_ne_fallback (cmd : Units) : units "[object Undefined]" ≠ fallback cmd := by
  intro same
  -- an `o` against an `s`
  have second : (units "[object Undefined]")[1]? = (fallback cmd)[1]? := by rw [same]
  have clash : some (111 : UInt16) = some 115 := second
  revert clash
  decide

/-- An inherited property passes the test for truth, and it does not give the
fallback. -/
theorem property_inherited (key cmd : Units) (absent : own key = none)
    (name : InheritedName key) :
    (property key).truthy ∧
      callIfFunction (property key) ≠ .ok (.string (fallback cmd)) := by
  obtain ⟨value, found⟩ := Option.ne_none_iff_exists'.mp
    (mt (inherited_none_iff key).mp (not_not_intro name))
  obtain ⟨entry, listed, -, rfl⟩ := inherited_some key value found
  obtain ⟨truthy, values⟩ := inherited_values entry listed
  have read : property key = entry.2 := by rw [property, absent, found]; rfl
  rw [read]
  refine ⟨truthy, fun same => ?_⟩
  rw [same] at values
  simp only [List.mem_cons, List.not_mem_nil, Except.ok.injEq, reduceCtorEq, or_false,
    false_or, Value.string.injEq] at values
  exact undefined_ne_fallback cmd values.symm

/-! ## The value of `simulateCommand` -/

/-- The table's entry for the whole command, else the one for its first word,
else the fallback. -/
def expected (cmd : Units) : Units :=
  (own cmd).getD ((own (firstWord cmd)).getD (fallback cmd))

theorem simulate_exact (cmd : Units) (truthy : (property cmd).truthy) :
    simulateCommand cmd = callIfFunction (property cmd) := by
  rw [simulateCommand, if_pos truthy]

theorem simulate_word (cmd : Units) (missing : property cmd = .undefined)
    (truthy : (property (firstWord cmd)).truthy) :
    simulateCommand cmd = callIfFunction (property (firstWord cmd)) := by
  have falsy : ¬ (property cmd).truthy := by rw [missing]; decide
  rw [simulateCommand, if_neg falsy, if_pos truthy]

theorem simulate_fallback (cmd : Units) (missing : property cmd = .undefined)
    (unknown : property (firstWord cmd) = .undefined) :
    simulateCommand cmd = .ok (.string (fallback cmd)) := by
  have falsy : ¬ (property cmd).truthy := by rw [missing]; decide
  have falsyWord : ¬ (property (firstWord cmd)).truthy := by rw [unknown]; decide
  rw [simulateCommand, if_neg falsy, if_neg falsyWord]

theorem inherited_is_word (cmd : Units) (name : InheritedName cmd) : firstWord cmd = cmd := by
  obtain ⟨entry, listed, rfl⟩ := name
  exact names_are_words entry listed

theorem own_first_word (cmd text : Units) (found : own cmd = some text) :
    ¬ InheritedName (firstWord cmd) := by
  obtain ⟨entry, listed, rfl, -⟩ := own_some cmd text found
  exact first_words_own entry listed

theorem own_not_inherited (key text : Units) (found : own key = some text) :
    ¬ InheritedName key := by
  intro name
  have other := own_first_word key text found
  rw [inherited_is_word key name] at other
  exact other name

theorem simulate_iff (cmd : Units) :
    simulateCommand cmd = .ok (.string (expected cmd)) ↔ ¬ InheritedName (firstWord cmd) := by
  cases exact : own cmd with
  | some text =>
      obtain ⟨value, truthy⟩ := property_own cmd text exact
      refine iff_of_true ?_ (own_first_word cmd text exact)
      rw [simulate_exact cmd truthy, value, expected, exact]
      rfl
  | none =>
      by_cases whole : InheritedName cmd
      · rw [inherited_is_word cmd whole]
        obtain ⟨truthy, other⟩ := property_inherited cmd cmd exact whole
        refine iff_of_false ?_ (not_not_intro whole)
        rw [simulate_exact cmd truthy, expected, exact, inherited_is_word cmd whole, exact]
        exact other
      · have missing := property_absent cmd exact whole
        cases first : own (firstWord cmd) with
        | some text =>
            obtain ⟨value, truthy⟩ := property_own (firstWord cmd) text first
            refine iff_of_true ?_ (own_not_inherited (firstWord cmd) text first)
            rw [simulate_word cmd missing truthy, value, expected, exact, first]
            rfl
        | none =>
            have generic : expected cmd = fallback cmd := by rw [expected, exact, first]; rfl
            rw [generic]
            by_cases name : InheritedName (firstWord cmd)
            · obtain ⟨truthy, other⟩ := property_inherited (firstWord cmd) cmd first name
              refine iff_of_false ?_ (not_not_intro name)
              rw [simulate_word cmd missing truthy]
              exact other
            · exact iff_of_true
                (simulate_fallback cmd missing (property_absent (firstWord cmd) first name)) name

/-! ## The typing loop -/

theorem setLast_concat (history : List HistoryEntry) (old entry : HistoryEntry) :
    setLast entry (history ++ [old]) = history ++ [entry] :=
  Window.change_concat (setLast entry) (fun _ => entry) (fun _ => rfl) (fun _ _ _ => rfl)
    history old

theorem setLast_setLast (history : List HistoryEntry) (first second : HistoryEntry) :
    setLast second (setLast first history) = setLast second history := by
  induction history using List.reverseRecOn with
  | nil => rfl
  | append_singleton earlier old _ => rw [setLast_concat, setLast_concat, setLast_concat]

/-- While a command is running no other is taken. -/
theorem enter_refused (terminal : RealTerminal) (input : Units)
    (running : terminal.running = true) : demo.step terminal (.enter input) = none := by
  simp only [demo, RealTerminal.run, running, or_true, if_true]

theorem only_ticks (terminal next : RealTerminal) (label : Label)
    (running : terminal.running = true) (stepped : demo.step terminal label = some next) :
    label = .tick := by
  cases label with
  | tick => rfl
  | enter input =>
      rw [enter_refused terminal input running] at stepped
      cases stepped

section Loop

variable (terminal : RealTerminal) (cmd text : Units) (i : Nat)

theorem tick_last (live : terminal.typing = some ⟨cmd, .string text, i⟩)
    (enough : text.length ≤ i + (text.length + 7) / 8) :
    demo.step terminal .tick =
      some ⟨setLast ⟨cmd, text⟩ terminal.history, text, false, none⟩ := by
  simp only [demo, RealTerminal.tick, live, enough, if_true, List.take_of_length_le enough]

theorem tick_more (live : terminal.typing = some ⟨cmd, .string text, i⟩)
    (short : ¬ text.length ≤ i + (text.length + 7) / 8) :
    ∃ chunk shown, demo.step terminal .tick = some shown ∧
      shown.typing = some ⟨cmd, .string text, i + (text.length + 7) / 8⟩ ∧
      shown.running = terminal.running ∧
      shown.history = setLast ⟨cmd, chunk⟩ terminal.history := by
  let chunk := text.take (i + (text.length + 7) / 8)
  refine ⟨chunk, ⟨setLast ⟨cmd, chunk⟩ terminal.history, chunk, terminal.running,
    some ⟨cmd, .string text, i + (text.length + 7) / 8⟩⟩, ?_, rfl, rfl, rfl⟩
  simp only [demo, RealTerminal.tick, live, short, if_false, chunk]

/-- A loop that types a string comes to its end with the whole of it shown, and
nothing else can happen until then. -/
theorem types_out (running : terminal.running = true)
    (live : terminal.typing = some ⟨cmd, .string text, i⟩) :
    ∃ ticks, demo.exec (List.replicate ticks .tick) terminal =
        some ⟨setLast ⟨cmd, text⟩ terminal.history, text, false, none⟩ ∧
      ∀ labels, labels.length = ticks → (demo.exec labels terminal).isSome →
        labels = List.replicate ticks .tick := by
  induction left : text.length - i using Nat.strongRecOn generalizing terminal i with
  | ind bound ih =>
    by_cases enough : text.length ≤ i + (text.length + 7) / 8
    · have ended := tick_last terminal cmd text i live enough
      refine ⟨1, (demo.exec_cons ..).mpr ⟨_, ended, rfl⟩, ?_⟩
      intro labels one ran
      obtain ⟨label, rfl⟩ := List.length_eq_one_iff.mp one
      obtain ⟨final, run⟩ := Option.isSome_iff_exists.mp ran
      obtain ⟨next, stepped, -⟩ := (demo.exec_cons ..).mp run
      rw [only_ticks terminal next label running stepped]
      rfl
    · obtain ⟨chunk, shown, ticked, live', kept, changed⟩ :=
        tick_more terminal cmd text i live enough
      have closer : text.length - (i + (text.length + 7) / 8) < text.length - i := by omega
      obtain ⟨ticks, ended, only⟩ :=
        ih _ (left ▸ closer) shown _ (kept.trans running) live' rfl
      rw [changed, setLast_setLast] at ended
      refine ⟨ticks + 1, (demo.exec_cons ..).mpr ⟨_, ticked, ended⟩, ?_⟩
      intro labels long ran
      obtain ⟨label, rest, rfl⟩ := List.exists_cons_of_length_eq_add_one long
      obtain ⟨final, run⟩ := Option.isSome_iff_exists.mp ran
      obtain ⟨next, stepped, later⟩ := (demo.exec_cons ..).mp run
      cases only_ticks terminal next label running stepped
      cases Option.some.inj (ticked.symm.trans stepped)
      have same := only rest (Nat.succ.inj long) (Option.isSome_iff_exists.mpr ⟨final, later⟩)
      rw [same]
      rfl

end Loop

/-! ## Entering a command -/

/-- The command that `input` holds gets the value that the table and the
fallback give, and whatever comes next the typing loop ends with all of it in
the history. -/
def Answers (terminal : RealTerminal) (input : Units) : Prop :=
  simulateCommand (trim input) = .ok (.string (expected (trim input))) ∧
    ∃ begun ticks, demo.step terminal (.enter input) = some begun ∧
      demo.exec (List.replicate ticks .tick) begun =
        some ⟨terminal.history ++ [⟨trim input, expected (trim input)⟩],
          expected (trim input), false, none⟩ ∧
      ∀ labels, labels.length = ticks → (demo.exec labels begun).isSome →
        labels = List.replicate ticks .tick

section Enter

variable (terminal : RealTerminal) (input : Units)

theorem entered (free : terminal.running = false) (typed : trim input ≠ []) (output : Value)
    (value : simulateCommand (trim input) = .ok output) :
    demo.step terminal (.enter input) =
      some ⟨terminal.history ++ [⟨trim input, []⟩], [], true,
        some ⟨trim input, output, 0⟩⟩ := by
  simp only [demo, RealTerminal.run, free, typed, value, Bool.false_eq_true, or_self, if_false]

/-- The interval, if there is one, is about no string. -/
def Wedged (terminal : RealTerminal) : Prop :=
  terminal.running = true ∧ ∀ typing text, terminal.typing = some typing →
    typing.output ≠ .string text

/-- A terminal that is free answers a command unless its first word names a
property of `Object.prototype`. -/
theorem answers_iff (free : terminal.running = false) (typed : trim input ≠ []) :
    Answers terminal input ↔ ¬ InheritedName (firstWord (trim input)) := by
  rw [← simulate_iff]
  constructor
  · exact fun answers => answers.1
  · intro value
    have begins := entered terminal input free typed _ value
    obtain ⟨ticks, ended, only⟩ := types_out
      ⟨terminal.history ++ [⟨trim input, []⟩], [], true,
        some ⟨trim input, .string (expected (trim input)), 0⟩⟩
      (trim input) (expected (trim input)) 0 rfl rfl
    rw [setLast_concat] at ended
    exact ⟨value, _, ticks, begins, ended, only⟩

end Enter

theorem answers_ps_aux :
    Answers .start (units "ps aux") ↔ ¬ InheritedName (firstWord (trim (units "ps aux"))) :=
  answers_iff .start (units "ps aux") rfl (by decide +kernel)

/-- `Object()` is an empty object: there is nothing to slice. -/
theorem constructor_unanswered : ¬ Answers .start (units "constructor") := by
  intro answers
  have value : simulateCommand (trim (units "constructor")) = .ok .object := by decide +kernel
  rw [answers.1] at value
  cases value

end KernelSprint.DemoTerminal

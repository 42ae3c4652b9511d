import Mathlib.Data.List.Infix
import Mathlib.Data.Rat.Floor
import Mathlib.Tactic.FieldSimp
import Mathlib.Tactic.Linarith

/-!
# Text as the two languages treat it

Python's `str` methods, its number parsing and rounding on exact rationals,
and JavaScript's `trim` and `includes`.  The parts of the Unicode database
that regular expressions consult are a parameter that agrees with ASCII.
-/

set_option autoImplicit false

namespace PyText

inductive PyExn where
  | valueError
  | indexError
  | keyError
  | typeError
  | attributeError
  | zeroDivisionError
  | unicodeDecodeError
  | osError
  | timeoutExpired
  | generatorExit
  deriving DecidableEq, Repr

/-! ## Characters -/

structure CharDb where
  /-- The value of a decimal digit, category Nd: what `\d` matches. -/
  digit : Char → Option Nat
  /-- What `\w` matches. -/
  word : Char → Bool
  digit_ascii : ∀ c : Char, c.toNat < 128 →
    digit c = if c.isDigit then some (c.toNat - '0'.toNat) else none
  word_ascii : ∀ c : Char, c.toNat < 128 → word c = (c.isAlphanum || c == '_')

/-- The database restricted to ASCII. -/
def CharDb.ascii : CharDb where
  digit c := if c.isDigit then some (c.toNat - '0'.toNat) else none
  word c := c.isAlphanum || c == '_'
  digit_ascii _ _ := rfl
  word_ascii _ _ := rfl

/-- `str.isspace` on one character. -/
def isspace (c : Char) : Bool :=
  [0x09, 0x0a, 0x0b, 0x0c, 0x0d, 0x1c, 0x1d, 0x1e, 0x1f, 0x20, 0x85, 0xa0, 0x1680,
    0x2000, 0x2001, 0x2002, 0x2003, 0x2004, 0x2005, 0x2006, 0x2007, 0x2008, 0x2009,
    0x200a, 0x2028, 0x2029, 0x202f, 0x205f, 0x3000].contains c.toNat

/-- White space and line terminators of JavaScript. -/
def isJsSpace (c : Char) : Bool :=
  [0x09, 0x0a, 0x0b, 0x0c, 0x0d, 0x20, 0xa0, 0x1680, 0x2000, 0x2001, 0x2002, 0x2003,
    0x2004, 0x2005, 0x2006, 0x2007, 0x2008, 0x2009, 0x200a, 0x2028, 0x2029, 0x202f,
    0x205f, 0x3000, 0xfeff].contains c.toNat

/-- The boundaries of `str.splitlines`. -/
def isLineBreak (c : Char) : Bool :=
  [0x0a, 0x0b, 0x0c, 0x0d, 0x1c, 0x1d, 0x1e, 0x85, 0x2028, 0x2029].contains c.toNat

/-! ## Strings -/

def stripBy (space : Char → Bool) (text : String) : String :=
  String.ofList ((text.toList.dropWhile space).reverse.dropWhile space).reverse

/-- Python's `text.strip()` -/
def strip (text : String) : String := stripBy isspace text

/-- JavaScript's `text.trim()` -/
def trim (text : String) : String := stripBy isJsSpace text

/-- Where a value that is dropped becomes one value that is dropped too, and any
other begins with one that is kept, dropping comes before or after. -/
theorem dropWhile_flatMap {α β : Type} (f : α → List β) (drops : α → Bool) (drop : β → Bool)
    (dropped : ∀ a, drops a = true → ∃ unit, f a = [unit] ∧ drop unit = true)
    (kept : ∀ a, drops a = false → ∃ first rest, f a = first :: rest ∧ drop first = false)
    (values : List α) :
    (values.flatMap f).dropWhile drop = (values.dropWhile drops).flatMap f := by
  induction values with
  | nil => rfl
  | cons value rest ih =>
      cases gone : drops value with
      | true =>
          obtain ⟨unit, one, out⟩ := dropped value gone
          rw [List.flatMap_cons, one, List.singleton_append, List.dropWhile_cons_of_pos out,
            List.dropWhile_cons_of_pos gone, ih]
      | false =>
          obtain ⟨first, later, split, stays⟩ := kept value gone
          rw [List.dropWhile_cons_of_neg (by simp [gone]), List.flatMap_cons, split,
            List.cons_append, List.dropWhile_cons_of_neg (by simp [stays])]

/-- `sub in text`, `text.includes(sub)` -/
def includes (text sub : String) : Bool := decide (sub.toList <:+: text.toList)

/-- Lower case where it can produce an ASCII letter that is searched for. -/
def lower (text : String) : String := text.map Char.toLower

def splitlinesFrom : List Char → List Char → List String
  | [], [] => []
  | line, [] => [String.ofList line]
  | line, '\r' :: '\n' :: rest => String.ofList line :: splitlinesFrom [] rest
  | line, c :: rest =>
      if isLineBreak c then String.ofList line :: splitlinesFrom [] rest
      else splitlinesFrom (line ++ [c]) rest

def splitlines (text : String) : List String := splitlinesFrom [] text.toList

/-- `text.split(None, limit)` -/
def splitMax : Nat → List Char → List String
  | 0, text =>
      let rest := text.dropWhile isspace
      if rest = [] then [] else [String.ofList rest]
  | limit + 1, text =>
      let rest := text.dropWhile isspace
      if rest = [] then []
      else
        String.ofList (rest.takeWhile fun c => !isspace c) ::
          splitMax limit (rest.dropWhile fun c => !isspace c)

/-- `text.split()` -/
def split (text : String) : List String := splitMax text.toList.length text.toList

/-! ## Numbers -/

def digitsValue (db : CharDb) (digits : List Char) : Option Nat :=
  digits.foldlM (fun value c => (db.digit c).map (10 * value + ·)) 0

/-- `int(text)` without a sign; single underscores may stand between digits. -/
def natural (db : CharDb) (digits : List Char) : Except PyExn Nat :=
  let groups := digits.splitOnP (· == '_')
  if groups.any List.isEmpty then .error .valueError
  else
    match digitsValue db groups.flatten with
    | some value => .ok value
    | none => .error .valueError

/-- `int(text)` -/
def int (db : CharDb) (text : String) : Except PyExn Int :=
  match (strip text).toList with
  | '-' :: digits => (natural db digits).map fun value => -(value : Int)
  | '+' :: digits => (natural db digits).map Int.ofNat
  | digits => (natural db digits).map Int.ofNat

/-- `float(text)` on what a class of digits and points can match: at least one
digit and at most one point. -/
def float (db : CharDb) (text : List Char) : Except PyExn ℚ :=
  let whole := text.takeWhile (· != '.')
  let fraction := (text.dropWhile (· != '.')).drop 1
  if whole = [] ∧ fraction = [] then .error .valueError
  else match digitsValue db (whole ++ fraction) with
    | none => .error .valueError
    | some value => .ok ((value : ℚ) / 10 ^ fraction.length)

/-- Rounding to the nearest integer, halves to even. -/
def roundHalfEven (x : ℚ) : Int :=
  if x - ⌊x⌋ < 1 / 2 then ⌊x⌋
  else if 1 / 2 < x - ⌊x⌋ then ⌊x⌋ + 1
  else if ⌊x⌋ % 2 = 0 then ⌊x⌋ else ⌊x⌋ + 1

/-- `round(x, digits)` -/
def round (x : ℚ) (digits : Nat) : ℚ := roundHalfEven (x * 10 ^ digits) / 10 ^ digits

theorem roundHalfEven_error (x : ℚ) : |(roundHalfEven x : ℚ) - x| ≤ 1 / 2 := by
  have low := Int.floor_le x
  have high := Int.lt_floor_add_one x
  unfold roundHalfEven
  rw [abs_le]
  split_ifs <;> push_cast <;> constructor <;> linarith

/-- Half a unit of the last place stays half a unit. -/
theorem unscaled_error (units x scale : ℚ) (positive : 0 < scale)
    (near : |units - x * scale| ≤ 1 / 2) : |units / scale - x| ≤ 1 / 2 / scale := by
  have same : units / scale - x = (units - x * scale) / scale := by field_simp
  rw [same, abs_div, abs_of_pos positive]
  gcongr

theorem round_error (x : ℚ) (digits : Nat) : |round x digits - x| ≤ 1 / 2 / 10 ^ digits :=
  unscaled_error _ x _ (by positivity) (roundHalfEven_error _)

/-- Of two numbers that round the other way round, each would be beyond the
middle between the results. -/
theorem roundHalfEven_mono (x y : ℚ) (le : x ≤ y) : roundHalfEven x ≤ roundHalfEven y := by
  by_contra crossed
  have apart : (roundHalfEven y : ℚ) + 1 ≤ roundHalfEven x := by
    exact_mod_cast Int.add_one_le_of_lt (not_le.mp crossed)
  have above := (abs_le.mp (roundHalfEven_error x)).2
  have below := (abs_le.mp (roundHalfEven_error y)).1
  have same : x = y := le_antisymm le (by linarith)
  rw [same] at apart
  linarith

theorem round_mono (x y : ℚ) (digits : Nat) (le : x ≤ y) : round x digits ≤ round y digits := by
  unfold round
  have scaled := roundHalfEven_mono (x * 10 ^ digits) (y * 10 ^ digits) (by gcongr)
  gcongr

end PyText

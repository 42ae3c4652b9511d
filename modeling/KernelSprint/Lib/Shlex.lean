import Mathlib.Data.List.Basic

/-!
# Words with quotes

The scanner that takes a command line apart the way a shell does, and the
grammar of what it accepts: blanks part the words, a backslash takes the
meaning from the character after it, single quotes keep everything, double
quotes everything but a backslash before a double quote or a backslash.
-/

set_option autoImplicit false

namespace Shlex

def isBlank (c : Char) : Bool := c = ' ' || c = '\t' || c = '\r' || c = '\n'

def isQuote (c : Char) : Bool := c = '\'' || c = '"'

/-- `escape` has the quotation that the backslash stands in. -/
inductive State where
  | blank
  | word
  | quote (mark : Char)
  | escape (quotation : Option Char)
  deriving DecidableEq

def State.around : Option Char → State
  | none => .word
  | some mark => .quote mark

/-- The token that ends here, in front of the words after it.  Without a quote
nothing is no word. -/
def emit (token : List Char) (quoted : Bool) (words : List String) : List String :=
  if token ≠ [] ∨ quoted then String.ofList token :: words else words

/-- What stands for a character after a backslash. -/
def unescape (c : Char) : Option Char → List Char
  | none => [c]
  | some mark => if c ≠ '\\' ∧ c ≠ mark then ['\\', c] else [c]

/-- `quoted` is whether the token has had a quote. -/
def scan : List Char → State → List Char → Bool → Except String (List String)
  | [], .blank, token, quoted => .ok (emit token quoted [])
  | [], .word, token, quoted => .ok (emit token quoted [])
  | [], .quote _, _, _ => .error "No closing quotation"
  | [], .escape _, _, _ => .error "No escaped character"
  | c :: rest, .blank, token, quoted =>
      if isBlank c then (scan rest .blank [] false).map (emit token quoted)
      else if c = '\\' then scan rest (.escape none) token quoted
      else if isQuote c then scan rest (.quote c) token quoted
      else scan rest .word [c] quoted
  | c :: rest, .word, token, quoted =>
      if isBlank c then (scan rest .blank [] false).map (emit token quoted)
      else if isQuote c then scan rest (.quote c) token quoted
      else if c = '\\' then scan rest (.escape none) token quoted
      else scan rest .word (token ++ [c]) quoted
  | c :: rest, .quote mark, token, _ =>
      if c = mark then scan rest .word token true
      else if c = '\\' ∧ mark = '"' then scan rest (.escape (some mark)) token true
      else scan rest (.quote mark) (token ++ [c]) true
  | c :: rest, .escape quotation, token, quoted =>
      scan rest (.around quotation) (token ++ unescape c quotation) quoted

/-- `shlex.split` -/
def split (text : String) : Except String (List String) := scan text.toList .blank [] false

/-! ## The grammar -/

/-- A text between two marks and what it stands for. -/
inductive Quoted (mark : Char) : List Char → List Char → Prop
  | nil : Quoted mark [] []
  | plain (c : Char) (unmarked : c ≠ mark) (unescaped : ¬ (c = '\\' ∧ mark = '"'))
      (source value : List Char) (rest : Quoted mark source value) :
      Quoted mark (c :: source) (c :: value)
  | escaped (c : Char) (double : mark = '"') (source value : List Char)
      (rest : Quoted mark source value) :
      Quoted mark ('\\' :: c :: source) (unescape c (some mark) ++ value)

/-- A stretch of a word and what it stands for. -/
inductive Stretch : List Char → List Char → Prop
  | plain (c : Char) (solid : isBlank c = false) (unquoted : isQuote c = false)
      (unescaped : c ≠ '\\') : Stretch [c] [c]
  | escaped (c : Char) : Stretch ['\\', c] [c]
  | quoted (mark : Char) (marked : isQuote mark) (source value : List Char)
      (inside : Quoted mark source value) : Stretch (mark :: source ++ [mark]) value

/-- Stretches one after the other. -/
inductive Stretches : List Char → List Char → Prop
  | nil : Stretches [] []
  | cons (source value source' value' : List Char) (first : Stretch source value)
      (rest : Stretches source' value') : Stretches (source ++ source') (value ++ value')

/-- A text and its words. -/
inductive Splits : List Char → List String → Prop
  | blank (before : List Char) (blanks : ∀ c ∈ before, isBlank c) : Splits before []
  | last (before source value : List Char) (blanks : ∀ c ∈ before, isBlank c)
      (nonempty : source ≠ []) (word : Stretches source value) :
      Splits (before ++ source) [String.ofList value]
  | next (before source value : List Char) (c : Char) (rest : List Char) (words : List String)
      (blanks : ∀ c ∈ before, isBlank c) (nonempty : source ≠ []) (word : Stretches source value)
      (parted : isBlank c) (splits : Splits rest words) :
      Splits (before ++ source ++ c :: rest) (String.ofList value :: words)

/-! ## What is accepted is taken apart -/

section Accepted

variable {rest token source value : List Char} {quoted : Bool} {words : List String} {mark : Char}

theorem emit_nothing : emit [] false = id := by
  funext words
  simp [emit]

theorem emit_word (begun : token ≠ [] ∨ quoted = true) :
    emit token quoted words = String.ofList token :: words := if_pos begun

theorem solid_quote (marked : isQuote mark) : isBlank mark = false := by
  unfold isQuote at marked
  rcases Bool.or_eq_true_iff.mp marked with single | double
  · rw [of_decide_eq_true single]
    rfl
  · rw [of_decide_eq_true double]
    rfl

theorem scan_blanks (before rest : List Char) (blanks : ∀ c ∈ before, isBlank c) :
    scan (before ++ rest) .blank [] false = scan rest .blank [] false := by
  induction before with
  | nil => rfl
  | cons c before ih =>
      rw [List.forall_mem_cons] at blanks
      rw [List.cons_append, scan, if_pos blanks.1, emit_nothing, ih blanks.2]
      cases scan rest .blank [] false with
      | error message => rfl
      | ok words => rfl

/-- A word begins like its rest goes on. -/
theorem scan_enter (c : Char) (solid : isBlank c = false) :
    scan (c :: rest) .blank [] false = scan (c :: rest) .word [] false := by
  have unblank : ¬ isBlank c = true := by simp [solid]
  rw [scan, scan, if_neg unblank, if_neg unblank]
  by_cases escape : c = '\\'
  · subst escape
    rfl
  · rw [if_neg escape, if_neg escape]
    rfl

theorem scan_quoted (inside : Quoted mark source value) (token : List Char) (quoted : Bool) :
    scan (source ++ mark :: rest) (.quote mark) token quoted =
      scan rest .word (token ++ value) true := by
  induction inside generalizing token quoted with
  | nil => rw [List.nil_append, scan, if_pos rfl, List.append_nil]
  | plain c unmarked unescaped source value _ ih =>
      rw [List.cons_append, scan, if_neg unmarked, if_neg unescaped, ih, List.append_assoc]
      rfl
  | escaped c double source value _ ih =>
      have other : ¬ '\\' = mark := by
        rw [double]
        decide
      rw [List.cons_append, List.cons_append, scan, if_neg other, if_pos ⟨rfl, double⟩, scan]
      exact (ih _ _).trans (by rw [List.append_assoc])

/-- A stretch goes to the end of the token, which is a word from then on. -/
theorem scan_stretch (rest : List Char) (stretch : Stretch source value) (token : List Char)
    (quoted : Bool) :
    ∃ quoted', scan (source ++ rest) .word token quoted =
        scan rest .word (token ++ value) quoted' ∧ (token ++ value ≠ [] ∨ quoted' = true) := by
  cases stretch with
  | plain c solid unquoted unescaped =>
      refine ⟨quoted, ?_, Or.inl (by simp)⟩
      rw [List.singleton_append, scan, if_neg (by simp [solid]), if_neg (by simp [unquoted]),
        if_neg unescaped]
  | escaped c =>
      refine ⟨quoted, ?_, Or.inl (by simp)⟩
      rfl
  | quoted delimiter marked source _ inside =>
      refine ⟨true, ?_, Or.inr rfl⟩
      have solid : ¬ isBlank delimiter = true := by simp [solid_quote marked]
      rw [List.append_assoc, List.singleton_append, List.cons_append, scan, if_neg solid,
        if_pos marked, scan_quoted inside]

theorem scan_stretches (word : Stretches source value) (token : List Char) (quoted : Bool)
    (begun : source ≠ [] ∨ token ≠ [] ∨ quoted = true) :
    ∃ quoted', scan (source ++ rest) .word token quoted =
        scan rest .word (token ++ value) quoted' ∧ (token ++ value ≠ [] ∨ quoted' = true) := by
  induction word generalizing token quoted with
  | nil =>
      rw [List.append_nil]
      exact ⟨quoted, rfl, begun.resolve_left (· rfl)⟩
  | cons source value source' value' first _ ih =>
      obtain ⟨early, scanned, begun'⟩ :=
        scan_stretch (source' ++ rest) first token quoted
      obtain ⟨late, scanned', nonempty⟩ := ih (token ++ value) early (Or.inr begun')
      refine ⟨late, ?_, ?_⟩
      · rw [List.append_assoc, scanned, scanned', List.append_assoc]
      · rw [← List.append_assoc]
        exact nonempty

theorem stretch_starts (stretch : Stretch source value) :
    ∃ c source', source = c :: source' ∧ isBlank c = false := by
  cases stretch with
  | plain c solid _ _ => exact ⟨c, [], rfl, solid⟩
  | escaped c => exact ⟨'\\', [c], rfl, rfl⟩
  | quoted delimiter marked source _ _ => exact ⟨delimiter, _, rfl, solid_quote marked⟩

theorem stretches_start (word : Stretches source value) (nonempty : source ≠ []) :
    ∃ c source', source = c :: source' ∧ isBlank c = false := by
  cases word with
  | nil => exact absurd rfl nonempty
  | cons source _ source' _ first _ =>
      obtain ⟨c, tail, rfl, solid⟩ := stretch_starts first
      exact ⟨c, tail ++ source', rfl, solid⟩

/-- A word is read to its end, whatever comes after it. -/
theorem scan_word (rest : List Char) (word : Stretches source value)
    (nonempty : source ≠ []) :
    ∃ quoted, scan (source ++ rest) .blank [] false = scan rest .word value quoted ∧
      (value ≠ [] ∨ quoted = true) := by
  obtain ⟨c, tail, rfl, solid⟩ := stretches_start word nonempty
  have entered : scan (c :: tail ++ rest) .blank [] false =
      scan (c :: tail ++ rest) .word [] false := scan_enter c solid
  rw [entered]
  exact scan_stretches word [] false (Or.inl nonempty)

theorem scan_splits {text : List Char} (splits : Splits text words) :
    scan text .blank [] false = .ok words := by
  induction splits with
  | blank before blanks =>
      have scanned := scan_blanks before [] blanks
      rw [List.append_nil] at scanned
      rw [scanned]
      rfl
  | last before source value blanks nonempty word =>
      obtain ⟨quoted, scanned, begun⟩ := scan_word [] word nonempty
      rw [List.append_nil] at scanned
      rw [scan_blanks before _ blanks, scanned, scan, emit_word begun]
  | next before source value c rest words blanks nonempty word parted _ ih =>
      obtain ⟨quoted, scanned, begun⟩ := scan_word (c :: rest) word nonempty
      rw [List.append_assoc, scan_blanks before _ blanks, scanned, scan, if_pos parted, ih]
      change Except.ok (emit value quoted words) = _
      rw [emit_word begun]

end Accepted

/-! ## What is taken apart is accepted -/

/-- After the token that has been read so far. -/
inductive Parted (token : List Char) : List Char → List String → Prop
  | done : Parted token [] [String.ofList token]
  | next (c : Char) (rest : List Char) (words : List String) (parted : isBlank c)
      (splits : Splits rest words) : Parted token (c :: rest) (String.ofList token :: words)

/-- In the middle of a word. -/
def Continues (token text : List Char) (words : List String) : Prop :=
  ∃ source value rest, text = source ++ rest ∧ Stretches source value ∧
    Parted (token ++ value) rest words

/-- What a text is to the scanner in one of its states. -/
def Reads : State → List Char → List Char → Bool → List String → Prop
  | .blank, text, token, quoted, words => token = [] → quoted = false → Splits text words
  | .word, text, token, quoted, words =>
      (token ≠ [] ∨ quoted = true) → Continues token text words
  | .quote mark, text, token, _, words => isQuote mark →
      ∃ source value rest, text = source ++ mark :: rest ∧ Quoted mark source value ∧
        Continues (token ++ value) rest words
  | .escape none, text, token, _, words =>
      ∃ c rest, text = c :: rest ∧ Continues (token ++ [c]) rest words
  | .escape (some mark), text, token, _, words => mark = '"' →
      ∃ c source value rest, text = c :: (source ++ mark :: rest) ∧ Quoted mark source value ∧
        Continues (token ++ unescape c (some mark) ++ value) rest words

section Sound

variable {source value token text : List Char} {words : List String} {mark : Char}

theorem continues_stretch (stretch : Stretch source value)
    (continues : Continues (token ++ value) text words) :
    Continues token (source ++ text) words := by
  obtain ⟨source', value', rest, rfl, word, parted⟩ := continues
  refine ⟨source ++ source', value ++ value', rest, (List.append_assoc _ _ _).symm,
    .cons _ _ _ _ stretch word, ?_⟩
  rw [← List.append_assoc]
  exact parted

theorem splits_stretch (stretch : Stretch source value) (continues : Continues value text words) :
    Splits (source ++ text) words := by
  obtain ⟨source', value', rest, rfl, word, parted⟩ := continues
  obtain ⟨c, tail, rfl, -⟩ := stretch_starts stretch
  have whole : Stretches (c :: tail ++ source') (value ++ value') := .cons _ _ _ _ stretch word
  rw [← List.append_assoc]
  cases parted with
  | done =>
      rw [List.append_nil]
      exact .last [] _ _ (List.forall_mem_nil _) (List.cons_ne_nil _ _) whole
  | next d rest words parted splits =>
      exact .next [] _ _ d rest words (List.forall_mem_nil _) (List.cons_ne_nil _ _) whole parted
        splits

theorem splits_blank (c : Char) (blank : isBlank c) (splits : Splits text words) :
    Splits (c :: text) words := by
  have longer : ∀ before : List Char, (∀ c ∈ before, isBlank c) →
      ∀ d ∈ c :: before, isBlank d := fun before blanks =>
    List.forall_mem_cons.mpr ⟨blank, blanks⟩
  cases splits with
  | blank _ blanks => exact .blank (c :: text) (longer text blanks)
  | last before source value blanks nonempty word =>
      exact .last (c :: before) source value (longer before blanks) nonempty word
  | next before source value d rest words blanks nonempty word parted splits =>
      exact .next (c :: before) source value d rest words (longer before blanks) nonempty word
        parted splits

/-- A blank ends the token, or there is none. -/
theorem map_emit {result : Except String (List String)} {quoted : Bool}
    (ended : result.map (emit token quoted) = .ok words) :
    ∃ later, result = .ok later ∧ emit token quoted later = words := by
  cases result with
  | error message => cases ended
  | ok later => exact ⟨later, rfl, Except.ok.inj ended⟩

/-! One lemma for what each state makes of its next character. -/

theorem reads_blank {c : Char} {quoted : Bool}
    (later : ∀ state token quoted words, scan text state token quoted = .ok words →
      Reads state text token quoted words)
    (scanned : scan (c :: text) .blank [] quoted = .ok words) (unquoted : quoted = false) :
    Splits (c :: text) words := by
  subst unquoted
  rw [scan] at scanned
  by_cases blank : isBlank c = true
  · rw [if_pos blank] at scanned
    obtain ⟨words', read, rfl⟩ := map_emit scanned
    rw [emit_nothing]
    exact splits_blank c blank (later .blank [] false words' read rfl rfl)
  · rw [if_neg blank] at scanned
    by_cases escape : c = '\\'
    · subst escape
      rw [if_pos rfl] at scanned
      obtain ⟨d, rest, rfl, continues⟩ := later _ _ _ _ scanned
      exact splits_stretch (.escaped d) continues
    · rw [if_neg escape] at scanned
      by_cases marked : isQuote c = true
      · rw [if_pos marked] at scanned
        obtain ⟨source, value, rest, rfl, inside, continues⟩ := later _ _ _ _ scanned marked
        have whole := splits_stretch (.quoted c marked source value inside) continues
        rw [List.append_assoc] at whole
        exact whole
      · rw [if_neg marked] at scanned
        have solid := Bool.eq_false_iff.mpr blank
        have unmarked := Bool.eq_false_iff.mpr marked
        exact splits_stretch (.plain c solid unmarked escape)
          (later _ _ _ _ scanned (Or.inl (List.cons_ne_nil _ _)))

theorem reads_word {c : Char} {quoted : Bool}
    (later : ∀ state token quoted words, scan text state token quoted = .ok words →
      Reads state text token quoted words)
    (scanned : scan (c :: text) .word token quoted = .ok words)
    (begun : token ≠ [] ∨ quoted = true) : Continues token (c :: text) words := by
  rw [scan] at scanned
  by_cases blank : isBlank c = true
  · rw [if_pos blank] at scanned
    obtain ⟨words', read, rfl⟩ := map_emit scanned
    refine ⟨[], [], c :: text, rfl, .nil, ?_⟩
    rw [List.append_nil, emit_word begun]
    exact .next c text words' blank (later _ _ _ _ read rfl rfl)
  · rw [if_neg blank] at scanned
    by_cases marked : isQuote c = true
    · rw [if_pos marked] at scanned
      obtain ⟨source, value, rest, rfl, inside, continues⟩ := later _ _ _ _ scanned marked
      have whole := continues_stretch (.quoted c marked source value inside) continues
      rw [List.append_assoc] at whole
      exact whole
    · rw [if_neg marked] at scanned
      by_cases escape : c = '\\'
      · subst escape
        rw [if_pos rfl] at scanned
        obtain ⟨d, rest, rfl, continues⟩ := later _ _ _ _ scanned
        exact continues_stretch (.escaped d) continues
      · rw [if_neg escape] at scanned
        have solid := Bool.eq_false_iff.mpr blank
        have unmarked := Bool.eq_false_iff.mpr marked
        exact continues_stretch (.plain c solid unmarked escape)
          (later _ _ _ _ scanned (Or.inl (by simp)))

theorem reads_quote {c : Char} {quoted : Bool}
    (later : ∀ state token quoted words, scan text state token quoted = .ok words →
      Reads state text token quoted words)
    (scanned : scan (c :: text) (.quote mark) token quoted = .ok words) (marked : isQuote mark) :
    ∃ source value rest, c :: text = source ++ mark :: rest ∧ Quoted mark source value ∧
      Continues (token ++ value) rest words := by
  rw [scan] at scanned
  by_cases closes : c = mark
  · rw [if_pos closes] at scanned
    refine ⟨[], [], text, by rw [closes, List.nil_append], .nil, ?_⟩
    rw [List.append_nil]
    exact later _ _ _ _ scanned (Or.inr rfl)
  · rw [if_neg closes] at scanned
    by_cases escape : c = '\\' ∧ mark = '"'
    · rw [if_pos escape] at scanned
      obtain ⟨d, source, value, rest, rfl, inside, continues⟩ :=
        later _ _ _ _ scanned escape.2
      refine ⟨c :: d :: source, unescape d (some mark) ++ value, rest, rfl, ?_, ?_⟩
      · rw [escape.1]
        exact .escaped d escape.2 source value inside
      · rw [← List.append_assoc]
        exact continues
    · rw [if_neg escape] at scanned
      obtain ⟨source, value, rest, rfl, inside, continues⟩ := later _ _ _ _ scanned marked
      refine ⟨c :: source, c :: value, rest, rfl, .plain c closes escape source value inside, ?_⟩
      rw [List.append_assoc] at continues
      exact continues

theorem scan_reads (text : List Char) : ∀ (state : State) (token : List Char) (quoted : Bool)
    (words : List String), scan text state token quoted = .ok words →
      Reads state text token quoted words := by
  induction text with
  | nil =>
      intro state token quoted words scanned
      cases state with
      | blank =>
          rintro rfl rfl
          cases scanned
          exact .blank [] (List.forall_mem_nil _)
      | word =>
          intro begun
          cases scanned
          refine ⟨[], [], [], rfl, .nil, ?_⟩
          rw [List.append_nil, emit_word begun]
          exact .done
      | quote mark => cases scanned
      | escape quotation => cases scanned
  | cons c text ih =>
      intro state token quoted words scanned
      cases state with
      | blank =>
          rintro rfl unquoted
          exact reads_blank ih scanned unquoted
      | word => exact fun begun => reads_word ih scanned begun
      | quote mark => exact fun marked => reads_quote ih scanned marked
      | escape quotation =>
          rw [scan] at scanned
          cases quotation with
          | none => exact ⟨c, text, rfl, ih _ _ _ _ scanned (Or.inl (by simp [unescape]))⟩
          | some mark =>
              intro double
              obtain ⟨source, value, rest, rfl, inside, continues⟩ :=
                ih _ _ _ _ scanned (by rw [double]; rfl)
              exact ⟨c, source, value, rest, rfl, inside, continues⟩

end Sound

/-- The scanner finds the words that the grammar has. -/
theorem split_iff (text : String) (words : List String) :
    split text = .ok words ↔ Splits text.toList words :=
  ⟨fun scanned => scan_reads text.toList .blank [] false words scanned rfl rfl, scan_splits⟩

/-- Only blanks have no words. -/
theorem splits_nil {text : List Char} (splits : Splits text []) : ∀ c ∈ text, isBlank c := by
  cases splits with
  | blank _ blanks => exact blanks

end Shlex

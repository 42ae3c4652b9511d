import KernelSprint.Lib.Decimal

/-!
# Text in lines and columns

What `splitlines`, `split` and `strip` make of a text that was laid out in
lines of blank-padded columns, and what `int` makes of a printed number.
-/

set_option autoImplicit false

namespace Columns

open PyText

/-! ## Characters -/

theorem isspace_blank : isspace ' ' = true := by decide

theorem isspace_of_isLineBreak (c : Char) (break' : isLineBreak c = true) : isspace c = true := by
  unfold isLineBreak at break'
  unfold isspace
  rw [List.contains_iff_mem] at break' ⊢
  generalize c.toNat = code at break' ⊢
  revert code
  decide

/-- A text without white space. -/
def Solid (text : List Char) : Prop := ∀ c ∈ text, isspace c = false

instance (text : List Char) : Decidable (Solid text) :=
  List.decidableBAll (fun c => isspace c = false) text

/-- A text within one line. -/
def Inline (text : List Char) : Prop := ∀ c ∈ text, isLineBreak c = false

instance (text : List Char) : Decidable (Inline text) :=
  List.decidableBAll (fun c => isLineBreak c = false) text

theorem Solid.inline {text : List Char} (solid : Solid text) : Inline text := by
  intro c member
  by_contra notInline
  have space := isspace_of_isLineBreak c (by simpa using notInline)
  exact absurd (solid c member) (by simp [space])

theorem solid_of_ascii (text : List Char) (visible : ∀ c ∈ text, 0x20 < c.toNat ∧ c.toNat < 0x7f) :
    Solid text := by
  intro c member
  obtain ⟨above, below⟩ := visible c member
  unfold isspace
  simp only [List.contains_eq_mem, List.mem_cons, List.not_mem_nil, or_false,
    decide_eq_false_iff_not]
  omega

theorem Inline.append {first second : List Char} (firstInline : Inline first)
    (secondInline : Inline second) : Inline (first ++ second) := by
  intro c member
  rcases List.mem_append.mp member with early | late
  · exact firstInline c early
  · exact secondInline c late

theorem inline_blanks (count : Nat) : Inline (List.replicate count ' ') := by
  intro c member
  rw [List.eq_of_mem_replicate member]
  decide

theorem solid_toDigits (n : Nat) : Solid (Nat.toDigits 10 n) := by
  apply solid_of_ascii
  intro c member
  have digit := Nat.isDigit_of_mem_toDigits (by decide) (by decide) member
  simp only [Char.isDigit, Bool.and_eq_true, decide_eq_true_eq, ge_iff_le,
    UInt32.le_iff_toNat_le] at digit
  change 48 ≤ c.toNat ∧ c.toNat ≤ 57 at digit
  omega

theorem toDigits_ne_nil (n : Nat) : Nat.toDigits 10 n ≠ [] :=
  List.length_pos_iff.mp Nat.length_toDigits_pos

/-! ## Lines -/

theorem splitlinesFrom_cons (done rest : List Char) (c : Char) (notReturn : c ≠ '\r') :
    splitlinesFrom done (c :: rest) =
      if isLineBreak c then String.ofList done :: splitlinesFrom [] rest
      else splitlinesFrom (done ++ [c]) rest := by
  rw [splitlinesFrom]
  intro tail isReturn
  exact absurd isReturn notReturn

theorem splitlinesFrom_line (done line rest : List Char) (inline : Inline line) :
    splitlinesFrom done (line ++ '\n' :: rest) =
      String.ofList (done ++ line) :: splitlinesFrom [] rest := by
  induction line generalizing done with
  | nil =>
      rw [List.nil_append, List.append_nil, splitlinesFrom_cons _ _ _ (by decide),
        if_pos (by decide)]
  | cons c line ih =>
      have here := inline c List.mem_cons_self
      have notReturn : c ≠ '\r' := by
        rintro rfl
        exact absurd here (by decide)
      rw [List.cons_append, splitlinesFrom_cons _ _ _ notReturn, if_neg (by simp [here]),
        ih _ fun c member => inline c (List.mem_cons_of_mem _ member)]
      simp

/-- A last line without a terminator. -/
theorem splitlinesFrom_last (done line : List Char) (nonempty : done ++ line ≠ [])
    (inline : Inline line) : splitlinesFrom done line = [String.ofList (done ++ line)] := by
  induction line generalizing done with
  | nil =>
      rw [List.append_nil] at nonempty ⊢
      cases done with
      | nil => exact absurd rfl nonempty
      | cons c done => rfl
  | cons c line ih =>
      have here := inline c List.mem_cons_self
      have notReturn : c ≠ '\r' := by
        rintro rfl
        exact absurd here (by decide)
      rw [splitlinesFrom_cons _ _ _ notReturn, if_neg (by simp [here]),
        ih _ (by simp) fun c member => inline c (List.mem_cons_of_mem _ member)]
      simp

/-- Every line with its terminator. -/
def unlines (lines : List (List Char)) : List Char := lines.flatMap (· ++ ['\n'])

theorem splitlinesFrom_unlines (lines : List (List Char)) (last : List Char)
    (inline : ∀ line ∈ lines, Inline line) (lastInline : Inline last) (nonempty : last ≠ []) :
    splitlinesFrom [] (unlines lines ++ last) = (lines ++ [last]).map String.ofList := by
  induction lines with
  | nil => exact splitlinesFrom_last [] last nonempty lastInline
  | cons line lines ih =>
      rw [List.forall_mem_cons] at inline
      have apart : unlines (line :: lines) ++ last = line ++ '\n' :: (unlines lines ++ last) := by
        simp [unlines]
      rw [apart, splitlinesFrom_line [] line _ inline.1, ih inline.2]
      rfl

/-! ## Columns -/

theorem splitMax_blanks (limit count : Nat) (text : List Char) :
    splitMax limit (List.replicate count ' ' ++ text) = splitMax limit text := by
  have skipped : (List.replicate count ' ' ++ text).dropWhile isspace = text.dropWhile isspace := by
    apply List.dropWhile_append_of_pos
    intro c member
    rw [List.eq_of_mem_replicate member]
    exact isspace_blank
  cases limit with
  | zero => simp only [splitMax, skipped]
  | succ limit => simp only [splitMax, skipped]

/-- What may follow a word. -/
def Ends (rest : List Char) : Prop := ∀ c ∈ rest.head?, isspace c = true

theorem takeWhile_word (word rest : List Char) (solid : Solid word) (ends : Ends rest) :
    (word ++ rest).takeWhile (fun c => !isspace c) = word := by
  rw [List.takeWhile_append_of_pos fun c member => by simp [solid c member]]
  cases rest with
  | nil => simp
  | cons c rest => simp [ends c rfl]

theorem dropWhile_word (word rest : List Char) (solid : Solid word) (ends : Ends rest) :
    (word ++ rest).dropWhile (fun c => !isspace c) = rest := by
  rw [List.dropWhile_append_of_pos fun c member => by simp [solid c member]]
  cases rest with
  | nil => rfl
  | cons c rest => simp [ends c rfl]

theorem dropWhile_solid (word rest : List Char) (nonempty : word ≠ []) (solid : Solid word) :
    (word ++ rest).dropWhile isspace = word ++ rest := by
  cases word with
  | nil => exact absurd rfl nonempty
  | cons c word => simp [solid c List.mem_cons_self]

theorem splitMax_word (limit : Nat) (word rest : List Char) (nonempty : word ≠ [])
    (solid : Solid word) (ends : Ends rest) :
    splitMax (limit + 1) (word ++ rest) = String.ofList word :: splitMax limit rest := by
  simp only [splitMax, dropWhile_solid word rest nonempty solid, takeWhile_word word rest solid ends,
    dropWhile_word word rest solid ends, List.append_eq_nil_iff, nonempty, false_and, ↓reduceIte]

theorem splitMax_last (word : List Char) (nonempty : word ≠ []) (solid : Solid word) :
    splitMax 0 word = [String.ofList word] := by
  have kept := dropWhile_solid word [] nonempty solid
  rw [List.append_nil] at kept
  simp only [splitMax, kept, nonempty, ↓reduceIte]

theorem ends_blanks (count : Nat) (rest : List Char) :
    Ends (List.replicate (count + 1) ' ' ++ rest) := by
  intro c first
  cases Option.mem_some.mp first
  exact isspace_blank

/-- Words with one blank before each. -/
def spaced (words : List (List Char)) : List Char := words.flatMap (' ' :: ·)

theorem inline_spaced (words : List (List Char)) (inline : ∀ word ∈ words, Inline word) :
    Inline (spaced words) := by
  intro c member
  obtain ⟨word, inWords, inWord⟩ := List.mem_flatMap.mp member
  rcases List.mem_cons.mp inWord with rfl | inside
  · decide
  · exact inline word inWords c inside

theorem ends_spaced (words : List (List Char)) : Ends (spaced words) := by
  intro c first
  cases words with
  | nil => cases first
  | cons word words =>
      cases Option.mem_some.mp first
      exact isspace_blank

theorem length_le_spaced (words : List (List Char)) : words.length ≤ (spaced words).length := by
  induction words with
  | nil => exact Nat.zero_le _
  | cons word words ih =>
      change words.length + 1 ≤ (' ' :: word ++ spaced words).length
      simp only [List.cons_append, List.length_cons, List.length_append]
      omega

theorem splitMax_spaced (limit : Nat) (words : List (List Char))
    (nonempty : ∀ word ∈ words, word ≠ []) (solid : ∀ word ∈ words, Solid word)
    (room : words.length ≤ limit) :
    splitMax limit (spaced words) = words.map String.ofList := by
  induction words generalizing limit with
  | nil => cases limit <;> rfl
  | cons word words ih =>
      cases limit with
      | zero => simp at room
      | succ limit =>
          rw [List.forall_mem_cons] at nonempty solid
          rw [List.length_cons, Nat.add_le_add_iff_right] at room
          change splitMax (limit + 1) (List.replicate 1 ' ' ++ (word ++ spaced words)) = _
          rw [splitMax_blanks, splitMax_word limit word _ nonempty.1 solid.1 (ends_spaced words),
            ih limit nonempty.2 solid.2 room, List.map_cons]

/-- A title and, after a gap, words. -/
theorem split_titled (title : List Char) (gap : Nat) (words : List (List Char))
    (titled : title ≠ []) (titleSolid : Solid title) (nonempty : ∀ word ∈ words, word ≠ [])
    (solid : ∀ word ∈ words, Solid word) :
    split (String.ofList (title ++ (List.replicate (gap + 1) ' ' ++ spaced words))) =
      String.ofList title :: words.map String.ofList := by
  have enough : words.length + 1 ≤
      (title ++ (List.replicate (gap + 1) ' ' ++ spaced words)).length := by
    have each := length_le_spaced words
    have positive := List.length_pos_iff.mpr titled
    simp only [List.length_append]
    omega
  obtain ⟨limit, limited⟩ := Nat.exists_eq_add_of_le' enough
  rw [split, String.toList_ofList, limited]
  change splitMax (limit + words.length + 1) _ = _
  rw [splitMax_word _ title _ titled titleSolid (ends_blanks gap _), splitMax_blanks,
    splitMax_spaced _ words nonempty solid (Nat.le_add_left _ _)]

/-! ## Stripping -/

theorem dropWhile_padded (before body : List Char) (blank : ∀ c ∈ before, isspace c = true)
    (starts : ∀ c ∈ body.head?, isspace c = false) :
    (before ++ body).dropWhile isspace = body := by
  rw [List.dropWhile_append_of_pos blank]
  cases body with
  | nil => rfl
  | cons c body => simp [starts c rfl]

theorem strip_padded (before body after : List Char) (blankBefore : ∀ c ∈ before, isspace c = true)
    (blankAfter : ∀ c ∈ after, isspace c = true) (nonempty : body ≠ [])
    (starts : ∀ c ∈ body.head?, isspace c = false)
    (stops : ∀ c ∈ body.getLast?, isspace c = false) :
    strip (String.ofList (before ++ (body ++ after))) = String.ofList body := by
  have front : ∀ c ∈ (body ++ after).head?, isspace c = false := by
    cases body with
    | nil => exact absurd rfl nonempty
    | cons c body => exact starts
  have back := dropWhile_padded after.reverse body.reverse
    (fun c member => blankAfter c (List.mem_reverse.mp member)) (by rwa [List.head?_reverse])
  rw [strip, stripBy, String.toList_ofList, dropWhile_padded before _ blankBefore front,
    List.reverse_append, back, List.reverse_reverse]

theorem strip_solid (word : List Char) (nonempty : word ≠ []) (solid : Solid word) :
    strip (String.ofList word) = String.ofList word := by
  have padded := strip_padded [] word [] (by simp) (by simp) nonempty
    (fun c first => solid c (List.mem_of_mem_head? first))
    (fun c last => solid c (List.mem_of_mem_getLast? last))
  rwa [List.append_nil, List.nil_append] at padded

/-- A line that ends in a word. -/
structure Line (line : List Char) : Prop where
  inline : Inline line
  nonempty : line ≠ []
  stops : ∀ c ∈ line.getLast?, isspace c = false

theorem Line.of_word (before word : List Char) (inline : Inline before) (nonempty : word ≠ [])
    (solid : Solid word) : Line (before ++ word) where
  inline := inline.append solid.inline
  nonempty := List.append_ne_nil_of_right_ne_nil before nonempty
  stops c last := by
    rw [List.getLast?_append_of_ne_nil before nonempty] at last
    exact solid c (List.mem_of_mem_getLast? last)

/-- A table whose first line alone has its indentation stripped. -/
theorem splitlines_strip (indent : Nat) (first : List Char) (rest : List (List Char))
    (starts : ∀ c ∈ first.head?, isspace c = false) (lines : ∀ line ∈ first :: rest, Line line) :
    splitlines (strip (String.ofList (List.replicate indent ' ' ++ unlines (first :: rest)))) =
      (first :: rest).map String.ofList := by
  obtain ⟨front, last, whole⟩ : ∃ front last, first :: rest = front ++ [last] :=
    ⟨_, _, (List.dropLast_append_getLast (List.cons_ne_nil first rest)).symm⟩
  have terminated : unlines (first :: rest) = (unlines front ++ last) ++ ['\n'] := by
    rw [whole]
    simp [unlines]
  have lastLine : Line last := lines last (by simp [whole])
  have nonempty : unlines front ++ last ≠ [] :=
    List.append_ne_nil_of_right_ne_nil _ lastLine.nonempty
  have firstLine : first ≠ [] := (lines first List.mem_cons_self).nonempty
  have head : (unlines front ++ last).head? = first.head? := by
    have both := congrArg List.head? terminated
    rw [List.head?_append_of_ne_nil _ nonempty] at both
    rw [← both]
    simp [unlines, List.head?_append_of_ne_nil _ firstLine]
  have newline : ∀ c ∈ ['\n'], isspace c = true := List.forall_mem_singleton.mpr (by decide)
  rw [terminated, strip_padded _ _ ['\n'] _ newline nonempty (head ▸ starts), splitlines,
    String.toList_ofList, splitlinesFrom_unlines front last _ lastLine.inline lastLine.nonempty,
    whole]
  · exact fun line member => (lines line (by simp [whole, member])).inline
  · intro c final
    rw [List.getLast?_append_of_ne_nil _ lastLine.nonempty] at final
    exact lastLine.stops c final
  · intro c member
    rw [List.eq_of_mem_replicate member]
    exact isspace_blank

/-! ## Numbers -/

theorem natural_toDigits (db : CharDb) (n : Nat) : natural db (Nat.toDigits 10 n) = .ok n := by
  have noUnderscore : (Nat.toDigits 10 n).splitOnP (· == '_') = [Nat.toDigits 10 n] := by
    apply List.splitOnP_eq_singleton
    intro c member
    have digit := Nat.isDigit_of_mem_toDigits (by decide) (by decide) member
    rw [beq_eq_false_iff_ne]
    rintro rfl
    exact absurd digit (by decide)
  simp [natural, noUnderscore, Decimal.digitsValue_toDigits]

/-- `int` reads back a number that was printed. -/
theorem int_toDigits (db : CharDb) (n : Nat) :
    int db (String.ofList (Nat.toDigits 10 n)) = .ok n := by
  have digit : ∀ c ∈ Nat.toDigits 10 n, c.isDigit = true := fun c member =>
    Nat.isDigit_of_mem_toDigits (by decide) (by decide) member
  rw [int, strip_solid _ (toDigits_ne_nil n) (solid_toDigits n), String.toList_ofList]
  split
  · next digits written =>
      exact absurd (digit '-' (written ▸ List.mem_cons_self)) (by decide)
  · next digits written =>
      exact absurd (digit '+' (written ▸ List.mem_cons_self)) (by decide)
  · rw [natural_toDigits]
    rfl

end Columns

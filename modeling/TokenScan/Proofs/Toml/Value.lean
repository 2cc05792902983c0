import TokenScan.Proofs.Toml.Number
import TokenScan.Proofs.Toml.Quoted
import TokenScan.Toml.Document
/-!
# Values come back from their texts

A text reads as a value if the value, and nothing more, is what is read of it where a line end
follows (`ReadsAs`). What is written for a truth value, a number, a string or a list of strings reads
as it.

A list is written on one line or on several. Its strings come back by `items?_flatMap`, with the line
end and the blanks in front of a string as a part of what is written for it. The comma behind the
last one is left over, since no value starts with the closing bracket.
-/

namespace TokenScan.Toml

open Text (items?)

variable {c : Char} {cs ds rest : List Char} {depth : Nat}

/-! ### Blank space -/

/-- Whether a character is the first of something, and neither blank space nor that of a comment. -/
def Begins (c : Char) : Prop := isBlank c = false ∧ c ≠ '#' ∧ c ≠ '\n' ∧ c ≠ '\r'

instance (c : Char) : Decidable (Begins c) := inferInstanceAs (Decidable (_ ∧ _))

theorem skipBlanks_of_not_isBlank (h : isBlank c = false) : skipBlanks (c :: rest) = c :: rest :=
  List.dropWhile_cons_of_neg (Bool.eq_false_iff.1 h)

theorem skipComment_of_start (hblank : isBlank c = false) (hcomment : c ≠ '#') :
    skipComment (c :: rest) = c :: rest := by
  rw [skipComment, skipBlanks_of_not_isBlank hblank, comment?, Option.getD_none]
  exact fun _ h ↦ hcomment (List.cons.inj h).1

theorem skipLines_of_begins (h : Begins c) : skipLines (c :: rest) = c :: rest := by
  obtain ⟨hblank, hcomment, hfeed, hreturn⟩ := h
  have hskip : skipComment (c :: rest) = c :: rest := skipComment_of_start hblank hcomment
  rw [skipLines]
  split
  · next e => rw [hskip, newline?_eq_none hfeed hreturn] at e; cases e
  · exact hskip

theorem skipLines_newline (rest : List Char) : skipLines ('\n' :: rest) = skipLines rest := by
  rw [skipLines]
  rfl

theorem skipLines_blank (rest : List Char) : skipLines (' ' :: rest) = skipLines rest := by
  have hskip : skipComment (' ' :: rest) = skipComment rest := rfl
  unfold skipLines
  split <;> split <;> simp_all

/-! ### Values that hold no other -/

theorem valueWithin?_eq_scalar? (hsquare : c ≠ '[') (hcurly : c ≠ '\x7b') :
    valueWithin? depth (c :: rest) = scalar? (c :: rest) := by
  rw [valueWithin?.eq_def]
  split <;> simp_all

/-- A string starts with a quote or an apostrophe. -/
theorem exists_writeString (s : String) :
    ∃ c tail, writeString s = c :: tail ∧ (c = '"' ∨ c = '\'') := by
  rw [writeString]
  cases formOf s.toList <;> simp [writeAs]

theorem valueWithin?_writeString (s : String) (hquote : rest.head? ≠ some '"')
    (hapostrophe : rest.head? ≠ some '\'') :
    valueWithin? depth (writeString s ++ rest) = some (.string s, rest) := by
  have hread := string?_writeString s hquote hapostrophe
  obtain ⟨c, tail, h, rfl | rfl⟩ := exists_writeString s
  all_goals
    rw [h, List.cons_append] at hread ⊢
    rw [valueWithin?_eq_scalar? (by decide) (by decide), scalar?, hread]
    rfl

theorem scalar?_toDigits {n : Nat} (h : n < integerLimit) :
    scalar? (Nat.toDigits 10 n ++ '\n' :: rest) = some (.integer n, '\n' :: rest) := by
  have hdigits := Text.areDigits_toDigits n
  rw [scalar?.eq_def]
  split
  · next e => exact absurd e (ne_cons_of_digits rfl (by decide) hdigits)
  · next e => exact absurd e (ne_cons_of_digits rfl (by decide) hdigits)
  · next e => exact absurd e (ne_cons_of_digits rfl (by decide) hdigits)
  · next e => exact absurd e (ne_cons_of_digits rfl (by decide) hdigits)
  · rw [moment?_of_digits hdigits, float?_toDigits, integer?_toDigits h]
    rfl

/-- A closing bracket starts no value. -/
theorem valueWithin?_closing (rest : List Char) : valueWithin? depth (']' :: rest) = none := by
  rw [valueWithin?_eq_scalar? (by decide) (by decide)]
  cases rest <;> rfl

/-! ### Lists of strings -/

/-- A value with lines that say nothing in front of it and behind it. -/
def spaced? (value? : List Char → Option (Value × List Char)) (cs : List Char) :
    Option (Value × List Char) :=
  (value? (skipLines cs)).map fun (v, rest) ↦ (v, skipLines rest)

/-- A string in a list, at the first character that is not blank. -/
theorem spaced?_writeString (s : String) (hc : Begins c) (hquote : c ≠ '"')
    (hapostrophe : c ≠ '\'') :
    spaced? (valueWithin? depth) (writeString s ++ c :: rest) = some (.string s, c :: rest) := by
  have hskip : skipLines (writeString s ++ c :: rest) = writeString s ++ c :: rest := by
    obtain ⟨d, tail, h, rfl | rfl⟩ := exists_writeString s
    all_goals
      rw [h, List.cons_append]
      exact skipLines_of_begins (by decide)
  rw [spaced?, hskip,
    valueWithin?_writeString s (by simpa using hquote) (by simpa using hapostrophe), Option.map_some]
  simp only [skipLines_of_begins hc]

/-- What stands in front of a string that has a line of its own. -/
def indent : List Char := ['\n', ' ', ' ', ' ', ' ']

theorem spaced?_indent (cs : List Char) :
    spaced? (valueWithin? depth) (indent ++ cs) = spaced? (valueWithin? depth) cs := by
  simp only [indent, List.cons_append, List.nil_append, spaced?, skipLines_newline,
    skipLines_blank]

theorem spaced?_closing : spaced? (valueWithin? depth) (']' :: rest) = none := by
  rw [spaced?, skipLines_of_begins (by decide), valueWithin?_closing]
  rfl

theorem array?_of_items {value? : List Char → Option (Value × List Char)} {values : List Value}
    (h : items? (spaced? value?) cs = (values, ']' :: rest)) :
    array? value? cs = some (.array values, rest) := by
  have hitems : items?
      (fun cs ↦ (value? (skipLines cs)).map fun (v, rest) ↦ (v, skipLines rest)) cs =
      (values, ']' :: rest) := h
  have hskip : skipLines (']' :: rest) = ']' :: rest := skipLines_of_begins (by decide)
  cases values <;> simp [array?, hitems, hskip]

/-- A comma behind the last value is left aside. -/
theorem array?_of_items_comma {value? : List Char → Option (Value × List Char)} {v : Value}
    {values : List Value} (h : items? (spaced? value?) cs = (v :: values, ',' :: ds))
    (hend : skipLines ds = ']' :: rest) : array? value? cs = some (.array (v :: values), rest) := by
  have hitems : items?
      (fun cs ↦ (value? (skipLines cs)).map fun (v, rest) ↦ (v, skipLines rest)) cs =
      (v :: values, ',' :: ds) := h
  simp only [array?, hitems, hend]

/-- A list with a string on each line, behind its opening bracket. -/
theorem array?_indent (s : String) (ss : List String) (rest : List Char) :
    array? (valueWithin? depth)
        (indent ++ writeString s ++
          (ss.flatMap (fun s ↦ ',' :: (indent ++ writeString s)) ++ ',' :: '\n' :: ']' :: rest)) =
      some (valueOfStrings (s :: ss), rest) := by
  have hitem (s : String) (rest : List Char) :
      spaced? (valueWithin? depth) (indent ++ writeString s ++ ',' :: rest) =
        some (.string s, ',' :: rest) := by
    rw [List.append_assoc, spaced?_indent,
      spaced?_writeString s (by decide) (by decide) (by decide)]
  have hlast : spaced? (valueWithin? depth) ('\n' :: ']' :: rest) = none := by
    rw [spaced?, skipLines_newline, ← spaced?, spaced?_closing]
  exact array?_of_items_comma (Text.items?_flatMap (fun s ↦ indent ++ writeString s) .string
      (Nat.le_refl _) (fun s _ ↦ hitem s) (fun s _ ↦ hitem s _) (Text.separated?_of_none hlast))
    (by rw [skipLines_newline, skipLines_of_begins (by decide)])

/-- Lines that end in a comma and a line end, seen as lines behind a line end. -/
theorem newline_cons_flatMap (s : String) (ss : List String) :
    '\n' :: (s :: ss).flatMap (fun s ↦ "    ".toList ++ writeString s ++ ",\n".toList) =
      indent ++ writeString s ++
        (ss.flatMap (fun s ↦ ',' :: (indent ++ writeString s)) ++ [',', '\n']) := by
  induction ss generalizing s with
  | nil => simp [indent]
  | cons s' ss ih =>
    rw [List.flatMap_cons, List.flatMap_cons]
    calc _ = indent ++ writeString s ++ ',' :: '\n' ::
          (s' :: ss).flatMap (fun s ↦ "    ".toList ++ writeString s ++ ",\n".toList) := by
            simp [indent]
      _ = _ := by rw [ih s']; simp

/-- **A list of strings comes back**, from one line or from several. -/
theorem value?_writeStrings (ss : List String) (rest : List Char) :
    value? (writeStrings ss ++ rest) = some (valueOfStrings ss, rest) := by
  match ss with
  | [] => exact array?_of_items (Text.items?_of_none spaced?_closing)
  | [s] =>
    have hitem : spaced? (valueWithin? (deepest - 2)) (writeString s ++ ']' :: rest) =
        some (.string s, ']' :: rest) :=
      spaced?_writeString s (by decide) (by decide) (by decide)
    have hwrite : writeStrings [s] ++ rest = '[' :: (writeString s ++ ']' :: rest) := by
      simp [writeStrings]
    have hitems : items? (spaced? (valueWithin? (deepest - 2))) (writeString s ++ ']' :: rest) =
        ([.string s], ']' :: rest) := by
      rw [Text.items?_of_some hitem, Text.separated?_of_head? (by simp)]
    rw [hwrite]
    exact array?_of_items hitems
  | s :: s' :: ss =>
    have hwrite : writeStrings (s :: s' :: ss) ++ rest =
        '[' :: (indent ++ writeString s ++
          ((s' :: ss).flatMap (fun s ↦ ',' :: (indent ++ writeString s)) ++
            ',' :: '\n' :: ']' :: rest)) := by
      have hlines := newline_cons_flatMap s (s' :: ss)
      calc writeStrings (s :: s' :: ss) ++ rest = '[' :: ('\n' ::
            (s :: s' :: ss).flatMap (fun s ↦ "    ".toList ++ writeString s ++ ",\n".toList) ++
              ']' :: rest) := by simp [writeStrings]
        _ = _ := by rw [hlines]; simp
    rw [hwrite]
    exact array?_indent s (s' :: ss) rest

/-! ### Texts of values -/

/-- Whether a text is read as a value where a line end follows. -/
structure ReadsAs (text : List Char) (v : Value) : Prop where
  /-- There is no blank space in front of it. -/
  start : ∀ rest, skipBlanks (text ++ '\n' :: rest) = text ++ '\n' :: rest
  /-- The value is what is read of it. -/
  read : ∀ rest, value? (text ++ '\n' :: rest) = some (v, '\n' :: rest)

namespace ReadsAs

theorem boolean (b : Bool) : ReadsAs (writeBoolean b) (.boolean b) := by
  cases b with
  | false => exact ⟨fun _ ↦ skipBlanks_of_not_isBlank rfl, fun _ ↦ rfl⟩
  | true => exact ⟨fun _ ↦ skipBlanks_of_not_isBlank rfl, fun _ ↦ rfl⟩

theorem nat {n : Nat} (h : n < integerLimit) : ReadsAs (writeNat n) (.integer n) := by
  obtain ⟨d, ds, hds, hd, -⟩ := Text.exists_toDigits n
  refine ⟨fun rest ↦ ?_, fun rest ↦ ?_⟩
  · rw [writeNat, hds, List.cons_append, skipBlanks_of_not_isBlank]
    simp [isBlank, Text.ne_of_class hd]
  · have hread : scalar? (Nat.toDigits 10 n ++ '\n' :: rest) = some (.integer n, '\n' :: rest) :=
      scalar?_toDigits h
    rw [hds, List.cons_append] at hread
    rw [value?, writeNat, hds, List.cons_append,
      valueWithin?_eq_scalar? (Text.ne_of_class hd rfl) (Text.ne_of_class hd rfl), hread]

theorem string (s : String) : ReadsAs (writeString s) (.string s) := by
  refine ⟨fun rest ↦ ?_, fun rest ↦ valueWithin?_writeString s (by simp) (by simp)⟩
  obtain ⟨d, tail, h, rfl | rfl⟩ := exists_writeString s
  all_goals
    rw [h, List.cons_append]
    exact skipBlanks_of_not_isBlank rfl

theorem strings (ss : List String) : ReadsAs (writeStrings ss) (valueOfStrings ss) := by
  refine ⟨fun rest ↦ ?_, fun rest ↦ value?_writeStrings ss _⟩
  obtain ⟨tail, h⟩ : ∃ tail, writeStrings ss = '[' :: tail := by
    match ss with
    | [] => exact ⟨_, rfl⟩
    | [_] => exact ⟨_, rfl⟩
    | _ :: _ :: _ => exact ⟨_, rfl⟩
  rw [h, List.cons_append, skipBlanks_of_not_isBlank rfl]

end ReadsAs

end TokenScan.Toml

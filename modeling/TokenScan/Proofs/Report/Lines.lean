import Mathlib.Data.List.TakeWhile
import TokenScan.Report.File
/-!
# The text output can be read back

A scan is put out as text in lines: a heading with the path, and then a line for each token. `IsLines`
is the cut of a text into lines that end in a line feed, and a text is cut in one way at most
(`IsLines.unique`). The output is cut as it was meant to be, because the line of a token holds no line
feed, whatever the token holds (`FileScan.isLines_text`).

A line tells its token, up to the kind (`Token.eq_of_textLine_eq`). The number is right-aligned, and
it is what the digits behind the blanks say, whatever the width of the field
(`Token.numberAt_padLeft`). The text is all that follows the field, and `Token.unescape` takes back
what `Token.escape` did to it, unless the text held a backslash of its own
(`Token.unescape_flatMap_escape`).
-/

namespace TokenScan

/-! ### Texts in lines -/

/-- Whether a text consists of some lines, each of which ends in the one line feed that it has. -/
structure IsLines (cs : List Char) (lines : List (List Char)) : Prop where
  /-- The lines make up the text. -/
  text : cs = lines.flatMap fun line ↦ line ++ ['\n']
  /-- No line holds a line feed before its end. -/
  newline_not_mem : ∀ line ∈ lines, '\n' ∉ line

/-- A line is what stands in front of the first line feed. -/
theorem takeWhile_line {line : List Char} (h : '\n' ∉ line) (rest : List Char) :
    (line ++ '\n' :: rest).takeWhile (· ≠ '\n') = line := by
  have hpos : ∀ c ∈ line, decide (c ≠ '\n') = true := by
    intro c hc
    exact decide_eq_true fun heq ↦ h (heq ▸ hc)
  rw [List.takeWhile_append_of_pos hpos, List.takeWhile_cons_of_neg (by decide), List.append_nil]

namespace IsLines

variable {cs line : List Char} {lines others : List (List Char)}

/-- There are as many lines as line feeds. -/
theorem count_eq_length (h : IsLines cs lines) : cs.count '\n' = lines.length := by
  obtain ⟨rfl, hlines⟩ := h
  induction lines with
  | nil => rfl
  | cons line lines ih =>
    obtain ⟨hline, hrest⟩ := List.forall_mem_cons.1 hlines
    rw [List.flatMap_cons, List.count_append, List.count_append, List.count_eq_zero_of_not_mem hline,
      ih hrest, List.length_cons]
    exact Nat.add_comm _ _

theorem of_nil (h : IsLines [] lines) : lines = [] := by
  cases lines with
  | nil => rfl
  | cons line lines => cases line <;> cases h.text

theorem tail (h : IsLines cs (line :: lines)) :
    ∃ rest, cs = line ++ '\n' :: rest ∧ '\n' ∉ line ∧ IsLines rest lines := by
  obtain ⟨hline, hlines⟩ := List.forall_mem_cons.1 h.newline_not_mem
  refine ⟨_, ?_, hline, rfl, hlines⟩
  rw [h.text, List.flatMap_cons, List.append_assoc, List.singleton_append]

/-- **A text is cut into lines in one way at most.** -/
theorem unique (h : IsLines cs lines) (h' : IsLines cs others) : lines = others := by
  induction lines generalizing cs others with
  | nil =>
    obtain rfl : cs = [] := h.text
    exact h'.of_nil.symm
  | cons line lines ih =>
    obtain ⟨rest, rfl, hline, hrest⟩ := h.tail
    cases others with
    | nil => exact absurd h'.text (by simp)
    | cons other others =>
      obtain ⟨rest', htext, hother, hrest'⟩ := h'.tail
      obtain rfl : line = other := by
        rw [← takeWhile_line hline rest, htext, takeWhile_line hother]
      obtain ⟨-, rfl⟩ := List.cons.inj (List.append_cancel_left htext)
      rw [ih hrest hrest']

end IsLines

/-! ### What a line tells -/

namespace Token

variable {n width : Nat} {cs rest : List Char}

/-- The number that the digits behind some blanks say. -/
def numberAt (cs : List Char) : Nat :=
  Nat.ofDigitChars 10 ((cs.dropWhile (· = ' ')).takeWhile Char.isDigit) 0

/-- **A number moved to the right end of a field is read off it**, however wide the field is. -/
theorem numberAt_padLeft (width n : Nat) (rest : List Char) :
    numberAt (padLeft width (Nat.toDigits 10 n) ++ ' ' :: rest) = n := by
  have hdigits : ∀ c ∈ Nat.toDigits 10 n, c.isDigit = true := fun c hc ↦
    Nat.isDigit_of_mem_toDigits (by decide) (by decide) hc
  obtain ⟨first, digits, hfirst⟩ := List.exists_cons_of_ne_nil (Nat.toDigits_ne_nil (n := n) (b := 10))
  have hblanks : ∀ c ∈ List.replicate (width - (Nat.toDigits 10 n).length) ' ',
      decide (c = ' ') = true := fun c hc ↦ decide_eq_true (List.eq_of_mem_replicate hc)
  -- the first digit is no blank, and the blank behind the field is no digit
  have hstart : ¬ decide (first = ' ') = true := by
    rintro h
    obtain rfl := of_decide_eq_true h
    exact absurd (hdigits ' ' (hfirst ▸ List.mem_cons_self)) (by decide)
  have hdrop : (padLeft width (Nat.toDigits 10 n) ++ ' ' :: rest).dropWhile (· = ' ') =
      Nat.toDigits 10 n ++ ' ' :: rest := by
    rw [padLeft, List.append_assoc, List.dropWhile_append_of_pos hblanks, hfirst]
    exact List.dropWhile_cons_of_neg hstart
  rw [numberAt, hdrop, List.takeWhile_append_of_pos hdigits, List.takeWhile_cons_of_neg (by decide),
    List.append_nil]
  exact Nat.ofDigitChars_toDigits (by decide) (by decide)

/-- The text that escapes stand for. -/
def unescape : List Char → List Char
  | '\\' :: 'n' :: cs => '\n' :: unescape cs
  | '\\' :: 'r' :: cs => '\r' :: unescape cs
  | '\\' :: 't' :: cs => '\t' :: unescape cs
  | c :: cs => c :: unescape cs
  | [] => []

/-- **The escapes of a text without backslashes stand for the text.** -/
theorem unescape_flatMap_escape (h : '\\' ∉ cs) : unescape (cs.flatMap escape) = cs := by
  induction cs with
  | nil => rfl
  | cons c cs ih =>
    have hc : c ≠ '\\' := (List.ne_of_not_mem_cons h).symm
    have hcs := ih (List.not_mem_of_not_mem_cons h)
    rw [List.flatMap_cons, escape]
    split
    · next hbreak => rw [hbreak]; exact congrArg _ hcs
    split
    · next hbreak => rw [hbreak]; exact congrArg _ hcs
    split
    · next hbreak => rw [hbreak]; exact congrArg _ hcs
    · rw [List.singleton_append, unescape, hcs]
      all_goals
        rintro _ rfl
        exact absurd rfl hc

/-- What a line shows of a text holds no break, whatever the text holds. -/
theorem not_mem_flatMap_escape (cs : List Char) :
    '\n' ∉ cs.flatMap escape ∧ '\r' ∉ cs.flatMap escape ∧ '\t' ∉ cs.flatMap escape := by
  simp only [List.mem_flatMap, not_exists, not_and]
  exact ⟨fun c _ ↦ (escape_ne_newline c).1, fun c _ ↦ (escape_ne_newline c).2.1,
    fun c _ ↦ (escape_ne_newline c).2.2⟩

/-- **The line of a token holds no break.** -/
theorem not_mem_textLine (t : Token) :
    '\n' ∉ t.textLine ∧ '\r' ∉ t.textLine ∧ '\t' ∉ t.textLine := by
  obtain ⟨hn, hr, ht⟩ := not_mem_flatMap_escape t.text.toList
  have hline {c : Char} (hc : c ∈ ['\n', '\r', '\t']) (htext : c ∉ t.text.toList.flatMap escape) :
      c ∉ t.textLine := by
    rw [textLine_eq, padLeft]
    have hmark : c ∉ " -- line#".toList ∧ c ∉ [' ', ':'] ∧ c.isDigit = false := by
      simp only [List.mem_cons, List.not_mem_nil, or_false] at hc
      rcases hc with rfl | rfl | rfl <;> decide
    obtain ⟨hmark, hblank, hdigit⟩ := hmark
    have hnumber : c ∉ Nat.toDigits 10 t.line.toNat := fun hmem ↦
      Bool.eq_false_iff.1 hdigit (Nat.isDigit_of_mem_toDigits (by decide) (by decide) hmem)
    simp_all
  exact ⟨hline (by decide) hn, hline (by decide) hr, hline (by decide) ht⟩

/-- **A line tells the number and the text of its token**, if the text holds no backslash. -/
theorem eq_of_textLine_eq {t u : Token} (ht : '\\' ∉ t.text.toList) (hu : '\\' ∉ u.text.toList)
    (h : t.textLine = u.textLine) : t.line = u.line ∧ t.text = u.text := by
  rw [textLine_eq, textLine_eq] at h
  have hfield := List.append_cancel_left h
  have hnumber : t.line.toNat = u.line.toNat := by
    have hread := congrArg numberAt hfield
    rwa [numberAt_padLeft, numberAt_padLeft] at hread
  rw [hnumber] at hfield
  have htext : t.text.toList.flatMap escape = u.text.toList.flatMap escape := by
    simpa using List.append_cancel_left hfield
  refine ⟨UInt32.toNat_inj.1 hnumber, String.toList_inj.1 ?_⟩
  rw [← unescape_flatMap_escape ht, htext, unescape_flatMap_escape hu]

end Token

/-! ### The output -/

namespace FileScan

/-- The heading of a scan that is put out as text. -/
def heading (s : FileScan) : List Char := "  processing file: ".toList ++ s.path.display.toList

/-- What the text output tells of the tokens. -/
def content (s : FileScan) : List (UInt32 × String) :=
  s.tokens.map fun token ↦ (token.line, token.text)

/-- **The text output is a heading and a line for each token**, if the path is shown without a line
feed. -/
theorem isLines_text (s : FileScan) (hpath : '\n' ∉ s.path.display.toList) :
    IsLines s.text (s.heading :: s.tokens.map Token.textLine) where
  text := by
    rw [List.flatMap_cons, List.flatMap_map]
    rfl
  newline_not_mem := by
    refine List.forall_mem_cons.2 ⟨?_, ?_⟩
    · intro hmem
      rcases List.mem_append.1 hmem with hmem | hmem
      · exact absurd hmem (by decide)
      · exact hpath hmem
    · intro line hline
      obtain ⟨token, -, rfl⟩ := List.mem_map.1 hline
      exact token.not_mem_textLine.1

/-- Tokens without backslashes are told by their lines. -/
theorem map_eq_of_map_textLine_eq {ts us : List Token}
    (hts : ∀ token ∈ ts, '\\' ∉ token.text.toList) (hus : ∀ token ∈ us, '\\' ∉ token.text.toList)
    (h : ts.map Token.textLine = us.map Token.textLine) :
    ts.map (fun token ↦ (token.line, token.text)) = us.map fun token ↦ (token.line, token.text) := by
  induction ts generalizing us with
  | nil =>
    cases us with
    | nil => rfl
    | cons u us => cases h
  | cons t ts ih =>
    cases us with
    | nil => cases h
    | cons u us =>
      obtain ⟨hhead, htail⟩ := List.cons.inj h
      obtain ⟨ht, hts⟩ := List.forall_mem_cons.1 hts
      obtain ⟨hu, hus⟩ := List.forall_mem_cons.1 hus
      obtain ⟨hline, htext⟩ := Token.eq_of_textLine_eq ht hu hhead
      rw [List.map_cons, List.map_cons, hline, htext, ih hts hus htail]

/-- **The text output has one line for each token, and tells the tokens.** It is cut into lines in
one way: the heading, and then the lines of the tokens, which hold no break, whatever the tokens
hold. Of two scans without backslashes in their tokens, outputs are the same only if the paths are
shown alike and the numbers and texts of the tokens are the same. Paths that are texts are the same
then. What is shown of the paths is taken to hold no line feed. -/
theorem lines_render_text (s t : FileScan) (hs : '\n' ∉ s.path.display.toList)
    (ht : '\n' ∉ t.path.display.toList) :
    (∀ lines, IsLines (s.render .text).toList lines ↔
        lines = s.heading :: s.tokens.map Token.textLine) ∧
      (s.render .text).toList.count '\n' = 1 + s.tokens.length ∧
      (∀ token ∈ s.tokens,
        '\n' ∉ token.textLine ∧ '\r' ∉ token.textLine ∧ '\t' ∉ token.textLine) ∧
      ((∀ token ∈ s.tokens, '\\' ∉ token.text.toList) →
        (∀ token ∈ t.tokens, '\\' ∉ token.text.toList) →
        s.render .text = t.render .text →
          s.path.display = t.path.display ∧
            (s.path.IsText → t.path.IsText → s.path = t.path) ∧ s.content = t.content) := by
  have hlines := s.isLines_text hs
  have htext (u : FileScan) : (u.render .text).toList = u.text := String.toList_ofList
  refine ⟨fun lines ↦ ?_, ?_, fun token _ ↦ token.not_mem_textLine, fun hst htt heq ↦ ?_⟩
  · rw [htext]
    constructor
    · exact fun h ↦ h.unique hlines
    · rintro rfl
      exact hlines
  · rw [htext, hlines.count_eq_length, List.length_cons, List.length_map, Nat.add_comm]
  · have hsame : s.text = t.text := by rw [← htext, heq, htext]
    rw [hsame] at hlines
    obtain ⟨hheading, htokens⟩ := List.cons.inj (hlines.unique (t.isLines_text ht))
    have hshown : s.path.display = t.path.display :=
      String.toList_inj.1 (List.append_cancel_left hheading)
    exact ⟨hshown, fun hsp htp ↦ hsp.eq_of_display_eq htp hshown,
      map_eq_of_map_textLine_eq hst htt htokens⟩

/-- Two scans whose tokens look like lines and fields themselves. They differ in the kinds of their
tokens only, which no line tells. -/
theorem lines_render_text_of_other_kinds :
    let scan (kind : TokenKind) : FileScan :=
      { path := .ofString "a : 1"
        tokens := [⟨kind, " -- line#   1 : x", 4294967295⟩, ⟨kind, "7 : \r\n", 12⟩] }
    '\n' ∉ (scan .punctuation).path.display.toList ∧ '\n' ∉ (scan .directive).path.display.toList ∧
      (∀ token ∈ (scan .punctuation).tokens, '\\' ∉ token.text.toList) ∧
      (∀ token ∈ (scan .directive).tokens, '\\' ∉ token.text.toList) ∧
      (scan .punctuation).render .text = (scan .directive).render .text ∧
      ((scan .punctuation).render .text).toList.count '\n' = 3 ∧
      (scan .punctuation).path.display = (scan .directive).path.display ∧
      (scan .punctuation).path = (scan .directive).path ∧
      (scan .punctuation).content = (scan .directive).content := by
  intro scan
  have hpath (kind : TokenKind) : '\n' ∉ (scan kind).path.display.toList := by
    rw [OsString.display_ofString]
    decide
  have htokens (kind : TokenKind) : ∀ token ∈ (scan kind).tokens, '\\' ∉ token.text.toList := by
    cases kind <;> decide
  have hsame : (scan .punctuation).render .text = (scan .directive).render .text := by decide +kernel
  obtain ⟨-, hcount, -, htold⟩ := lines_render_text _ (scan .directive) (hpath .punctuation) (hpath _)
  obtain ⟨hshown, hpaths, hcontent⟩ := htold (htokens _) (htokens _) hsame
  exact ⟨hpath _, hpath _, htokens _, htokens _, hsame, hcount, hshown,
    hpaths (OsString.isText_ofString _) (OsString.isText_ofString _), hcontent⟩

/-- A path that is no text is shown like another one, and the text output is the same for both. -/
theorem not_forall_path_eq_of_render_text_eq :
    ¬ ∀ s t : FileScan, '\n' ∉ s.path.display.toList → '\n' ∉ t.path.display.toList →
      (∀ token ∈ s.tokens, '\\' ∉ token.text.toList) →
      (∀ token ∈ t.tokens, '\\' ∉ token.text.toList) →
      s.render .text = t.render .text → s.path = t.path ∧ s.content = t.content := by
  intro h
  let scan (path : OsString) : FileScan := { path, tokens := [⟨.alphanumeric, "int", 1⟩] }
  have htokens (path : OsString) : ∀ token ∈ (scan path).tokens, '\\' ∉ token.text.toList := by
    simp [scan]
  have hpath : (scan ⟨[0x61, 0xFF]⟩).path = (scan (.ofString "a\uFFFD")).path :=
    (h (scan ⟨[0x61, 0xFF]⟩) (scan (.ofString "a\uFFFD")) (by decide +kernel) (by decide +kernel)
      (htokens _) (htokens _) (by decide +kernel)).1
  exact absurd hpath (by decide +kernel)

/-- A backslash in a token can be taken for the start of an escape. -/
example : Token.textLine ⟨.lineComment, "//\n", 1⟩ = Token.textLine ⟨.lineComment, "//\\n", 1⟩ := by
  decide +kernel

end FileScan

end TokenScan

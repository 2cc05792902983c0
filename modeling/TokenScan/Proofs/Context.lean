import TokenScan.Proofs.Source.Lexeme
/-!
# A token and what follows it

How a token is cut off a text depends on very little of what follows it. The kind is decided by the
first two characters (`SymbolTable.kindAt_take_two`), and the text ends where the next character does
not go on with it (`SymbolTable.isLexeme_append_iff`). Two things come of that.

* **More text at the end** leaves a token alone if there was a character behind it already
  (`SymbolTable.Cuts.append_right`).
* **Other text behind it** leaves a token alone if white space or nothing follows now: neither goes
  on with a token, and neither is the second half of a symbol (`SymbolTable.Cuts.of_blank`). Two
  things are needed for that. No registered symbol holds white space; and a quote that was the end of
  its text, and so opened no string, is at the end again.
-/

namespace TokenScan

open Text

/-- White space is neither letter nor digit. -/
theorem isAlphanumeric_eq_false_of_isWhitespace {c : Char} (h : isWhitespace c = true) :
    isAlphanumeric c = false := by
  obtain ⟨lo, hi, hmem, hlo, hhi⟩ := inIntervals_sound h
  have hcheck : ∀ r ∈ whitespaceIntervals, ∀ n ∈ List.range' r.1 (r.2 + 1 - r.1),
      inIntervals n alphanumericIntervals = false := by
    decide +kernel
  exact hcheck _ hmem _ (List.mem_range'_1.2 ⟨hlo, by omega⟩)

namespace SymbolTable

variable {symbols : SymbolTable} {k : TokenKind} {cs text rest : List Char}

/-! ### What decides the kind, and what ends the text -/

/-- Two characters decide the kind. -/
theorem kindAt_take_two (symbols : SymbolTable) (cs : List Char) :
    symbols.kindAt (cs.take 2) = symbols.kindAt cs := by
  rcases cs with - | ⟨c, - | ⟨d, rest⟩⟩ <;> rfl

/-- Texts with the same first two characters start with the same kind. -/
theorem firstMatch_congr {ds : List Char} (h : cs.take 2 = ds.take 2) :
    symbols.FirstMatch k cs ↔ symbols.FirstMatch k ds := by
  rw [firstMatch_iff_kindAt, firstMatch_iff_kindAt, ← kindAt_take_two, h, kindAt_take_two]

/-- Whether a character goes on with the text of a token. Only runs go on. -/
def Continues (symbols : SymbolTable) : TokenKind → Char → Prop
  | .whitespace, c => isWhitespace c = true
  | .alphanumeric, c => isAlphanumeric c = true
  | .symbolRun, c => String.ofList [c] ∈ symbols.singles
  | .punctuation, c => isWhitespace c = false ∧ isAlphanumeric c = false
  | .digraph, _ | .lineComment, _ | .blockComment, _ | .quotedString, _ | .directive, _ => False

/-- **What follows a token matters for its text only in that it must not go on with it.** -/
theorem isLexeme_append_iff :
    symbols.IsLexeme k (text ++ rest) text ↔
      symbols.IsLexeme k text text ∧ ∀ c ∈ rest.head?, ¬ symbols.Continues k c := by
  have run {P : Char → Prop} :
      IsLongest (fun u ↦ ∀ c ∈ u, P c) (text ++ rest) text ↔
        IsLongest (fun u ↦ ∀ c ∈ u, P c) text text ∧ ∀ c ∈ rest.head?, ¬ P c := by
    have hself : IsLongest (fun u ↦ ∀ c ∈ u, P c) (text ++ []) text ↔ _ := isLongest_append_iff
    rw [List.append_nil] at hself
    rw [isLongest_append_iff, hself]
    simp
  have construct {p : List Char → Prop} :
      IsShortest p (text ++ rest) text ↔
        IsShortest p text text ∧ ∀ c ∈ rest.head?, ¬ False := by
    rw [isShortest_append_right_iff]
    simp
  cases k
  case digraph =>
    have hprefix : text <+: text ++ rest := List.prefix_append text rest
    simp [IsLexeme, Continues, hprefix]
  case lineComment => exact construct
  case blockComment => exact construct
  case quotedString => exact construct
  case directive => exact construct
  all_goals exact run

/-- A construct has room for both of its markers. -/
theorem two_le_length_of_construct {c : Construct} (hkind : symbols.FirstMatch c.kind cs)
    (htext : symbols.IsLexeme c.kind cs text) : 2 ≤ text.length := by
  obtain ⟨rest, rfl⟩ := opening_of_firstMatch hkind
  obtain ⟨body, rfl, hbody⟩ := (isLexeme_construct_iff c).1 htext
  have hclose := hbody.holds.length_le
  have hmarkers : 2 ≤ c.opening.length + c.closing.length := by cases c <;> decide
  rw [List.length_append]
  omega

/-- Only a run can have a text of less than two characters. -/
theorem isRun_of_length_lt_two (hkind : symbols.FirstMatch k cs)
    (htext : symbols.IsLexeme k cs text) (hlen : text.length < 2) :
    k = .whitespace ∨ k = .alphanumeric ∨ k = .symbolRun ∨ k = .punctuation := by
  have construct {c : Construct} (hkind : symbols.FirstMatch c.kind cs)
      (htext : symbols.IsLexeme c.kind cs text) : False :=
    absurd (two_le_length_of_construct hkind htext) (Nat.not_le_of_lt hlen)
  cases k
  case digraph => exact absurd htext.2 (Nat.ne_of_lt hlen)
  case lineComment => exact (construct (c := .lineComment) hkind htext).elim
  case blockComment => exact (construct (c := .blockComment) hkind htext).elim
  case quotedString => exact (construct (c := .quotedString) hkind htext).elim
  case directive => exact (construct (c := .directive) hkind htext).elim
  all_goals simp

/-- The text of the kind that comes first is not empty: a run goes on with its first character. -/
theorem FirstMatch.text_ne_nil (hkind : symbols.FirstMatch k cs)
    (htext : symbols.IsLexeme k cs text) : text ≠ [] := by
  rintro rfl
  obtain ⟨c, rest, rfl⟩ := List.exists_cons_of_ne_nil hkind.ne_nil
  have hrun := isRun_of_length_lt_two hkind htext (by decide)
  have hsplit : symbols.IsLexeme k ([] ++ c :: rest) [] := htext
  have hfirst : ¬ symbols.Continues k c := (isLexeme_append_iff.1 hsplit).2 c rfl
  have hm := hkind.isMatch
  rcases hrun with rfl | rfl | rfl | rfl
  · exact hfirst (matches_whitespace_iff.1 hm)
  · exact hfirst (matches_alphanumeric_iff.1 hm)
  · exact hfirst (isSingle_iff.1 (matches_symbolRun_iff.1 hm))
  · have hw := hkind.first .whitespace (by decide)
    have ha := hkind.first .alphanumeric (by decide)
    rw [matches_whitespace_iff, Bool.not_eq_true] at hw
    rw [matches_alphanumeric_iff, Bool.not_eq_true] at ha
    exact hfirst ⟨hw, ha⟩

/-! ### Tokens at the start of a text -/

/-- Whether a text is cut off as a token of some kind if some other text follows it. -/
structure Cuts (symbols : SymbolTable) (k : TokenKind) (text rest : List Char) : Prop where
  /-- The rule of the kind comes first. -/
  firstMatch : symbols.FirstMatch k (text ++ rest)
  /-- The text is what the rule takes. -/
  isLexeme : symbols.IsLexeme k (text ++ rest) text

namespace Cuts

theorem ne_nil (h : symbols.Cuts k text rest) : text ≠ [] := h.firstMatch.text_ne_nil h.isLexeme

/-- **A token with something behind it is settled**, whatever comes later. -/
theorem append_right (h : symbols.Cuts k text rest) (hrest : rest ≠ []) (more : List Char) :
    symbols.Cuts k text (rest ++ more) where
  firstMatch := by
    have htext := List.length_pos_iff.2 h.ne_nil
    have hnext := List.length_pos_iff.2 hrest
    have hlen : 2 ≤ (text ++ rest).length := by
      rw [List.length_append]
      omega
    have htake : (text ++ rest).take 2 = (text ++ (rest ++ more)).take 2 := by
      rw [← List.append_assoc, List.take_append_of_le_length hlen]
    exact (firstMatch_congr htake).1 h.firstMatch
  isLexeme := by
    obtain ⟨htext, hnext⟩ := isLexeme_append_iff.1 h.isLexeme
    refine isLexeme_append_iff.2 ⟨htext, ?_⟩
    rwa [List.head?_append_of_ne_nil rest hrest]

/-- A token that is not white space does not start with white space. -/
theorem isWhitespace_head (h : symbols.Cuts k text rest) (hk : k ≠ .whitespace) :
    ∀ c ∈ text.head?, isWhitespace c = false := by
  intro c hc
  obtain ⟨tail, rfl⟩ := List.head?_eq_some_iff.1 hc
  have hpos : TokenKind.whitespace.rank < k.rank := by cases k <;> first | decide | exact absurd rfl hk
  have hw := h.firstMatch.first .whitespace hpos
  rwa [List.cons_append, matches_whitespace_iff, Bool.not_eq_true] at hw

end Cuts

/-! ### White space behind a token -/

/-- Whether no registered symbol holds white space. -/
structure Blankless (symbols : SymbolTable) : Prop where
  /-- No digraph does. -/
  digraphs : ∀ p ∈ symbols.digraphs, ∀ c ∈ p.toList, isWhitespace c = false
  /-- No single symbol does. -/
  singles : ∀ p ∈ symbols.singles, ∀ c ∈ p.toList, isWhitespace c = false

instance (symbols : SymbolTable) : Decidable symbols.Blankless :=
  let noneBlank (patterns : PatternSet) : Bool :=
    patterns.toList.all fun p ↦ p.toList.all fun c ↦ !isWhitespace c
  decidable_of_iff (noneBlank symbols.digraphs ∧ noneBlank symbols.singles) (by
    have hiff (patterns : PatternSet) : noneBlank patterns ↔
        ∀ p ∈ patterns, ∀ c ∈ p.toList, isWhitespace c = false := by
      simp [noneBlank, List.all_eq_true]
    rw [hiff, hiff]
    exact ⟨fun h ↦ ⟨h.1, h.2⟩, fun h ↦ ⟨h.digraphs, h.singles⟩⟩)

/-- Whether a text is empty or starts with white space. -/
def StartsBlank (cs : List Char) : Prop := ∀ c ∈ cs.head?, isWhitespace c = true

/-- White space goes on with white space only. -/
theorem Blankless.not_continues (hsymbols : symbols.Blankless) (hk : k ≠ .whitespace) {c : Char}
    (hc : isWhitespace c = true) : ¬ symbols.Continues k c := by
  intro h
  cases k
  case whitespace => exact hk rfl
  case alphanumeric =>
    have halpha : isAlphanumeric c = true := h
    rw [isAlphanumeric_eq_false_of_isWhitespace hc] at halpha
    cases halpha
  case symbolRun =>
    have hblank := hsymbols.singles _ h c (by simp)
    rw [hc] at hblank
    cases hblank
  case punctuation =>
    have hspace : isWhitespace c = false := h.1
    rw [hc] at hspace
    cases hspace
  all_goals exact h

/-- With white space or nothing behind it, a first character has no rule that needs the second, but
for a quote that white space follows. -/
theorem Matches.of_blank (hsymbols : symbols.Blankless) (hblank : StartsBlank rest) {c : Char}
    (h : symbols.Matches k (c :: rest)) :
    (k = .quotedString ∧ c = '"' ∧ rest ≠ []) ∨ ∀ other, symbols.Matches k (c :: other) := by
  cases h with
  | whitespace h => exact .inr fun _ ↦ .whitespace h
  | alphanumeric h => exact .inr fun _ ↦ .alphanumeric h
  | symbolRun h => exact .inr fun _ ↦ .symbolRun h
  | directive => exact .inr fun _ ↦ .directive
  | punctuation => exact .inr fun _ ↦ .punctuation
  | quotedString => exact .inl ⟨rfl, rfl, List.cons_ne_nil _ _⟩
  | lineComment => exact absurd (hblank '/' rfl) (by decide)
  | blockComment => exact absurd (hblank '*' rfl) (by decide)
  | @digraph _ d _ h =>
    have hd := hsymbols.digraphs _ h d (by simp)
    rw [hblank d rfl] at hd
    cases hd

/-- A first character that needs no second one keeps its kind if white space or nothing follows it
now. A quote that white space follows opens a string and is ruled out. -/
theorem FirstMatch.of_blank {blank : List Char} {c : Char}
    (hkind : symbols.FirstMatch k (c :: rest))
    (hrun : k = .alphanumeric ∨ k = .symbolRun ∨ k = .punctuation) (hsymbols : symbols.Blankless)
    (hblank : StartsBlank blank) (hquote : k = .punctuation → c = '"' → blank = []) :
    symbols.FirstMatch k (c :: blank) where
  isMatch := by
    have hm := hkind.isMatch
    rcases hrun with rfl | rfl | rfl
    · exact .alphanumeric (matches_alphanumeric_iff.1 hm)
    · exact .symbolRun (isSingle_iff.1 (matches_symbolRun_iff.1 hm))
    · exact .punctuation
  first := by
    intro j hj hm
    rcases hm.of_blank hsymbols hblank with ⟨rfl, rfl, hne⟩ | hm
    · -- strings come before punctuation only
      rcases hrun with rfl | rfl | rfl
      · exact absurd hj (by decide)
      · exact absurd hj (by decide)
      · exact hne (hquote rfl rfl)
    · exact hkind.first j hj (hm rest)

/-- **A token is cut off all the same if white space or nothing follows it now.** A quote that ended
its text must end the text again, as it would open a string otherwise. -/
theorem Cuts.of_blank {blank : List Char} (h : symbols.Cuts k text rest)
    (hsymbols : symbols.Blankless) (hblank : StartsBlank blank) (hk : k ≠ .whitespace)
    (hquote : k = .punctuation → text = ['"'] → blank = []) : symbols.Cuts k text blank where
  isLexeme := by
    obtain ⟨htext, -⟩ := isLexeme_append_iff.1 h.isLexeme
    exact isLexeme_append_iff.2 ⟨htext, fun c hc ↦ hsymbols.not_continues hk (hblank c hc)⟩
  firstMatch := by
    have hkind := h.firstMatch
    obtain ⟨c, tail, rfl⟩ := List.exists_cons_of_ne_nil h.ne_nil
    rcases tail with - | ⟨d, tail⟩
    · -- the text is a single character, so the kind did not need a second one
      have hrun := isRun_of_length_lt_two hkind h.isLexeme Nat.one_lt_two
      have hlone : k = .punctuation → c = '"' → blank = [] := by
        rintro hp rfl
        exact hquote hp rfl
      exact hkind.of_blank (hrun.resolve_left hk) hsymbols hblank hlone
    · have htake : (c :: d :: tail ++ rest).take 2 = (c :: d :: tail ++ blank).take 2 := rfl
      exact (firstMatch_congr htake).1 hkind

end SymbolTable

end TokenScan

import Mathlib.Order.WellFounded
import TokenScan.Proofs.Text.Prefix
import TokenScan.Source.Kind
/-!
# The lexical grammar

The grammar of tokens, told without a scan. It has three parts:

* **which kind** — there is a rule for each kind, and the rules are tried in the order of their
  `rank`. `SymbolTable.Matches` says when a rule applies; it looks at the first two characters at
  most. `SymbolTable.FirstMatch` is the rule that comes first among those that apply.
* **which text** — `SymbolTable.IsLexeme`: runs take the longest prefix in their class, constructs
  the shortest one that is closed, a digraph two characters.
* **a whole text** — `Segmentation` cuts a text into lexemes, each of the kind that comes first at
  its start. It ends with the text, or at a construct that no prefix of the rest closes.

The grammar is unambiguous (`FirstMatch.unique`, `IsLexeme.unique`, `Segmentation.unique`), and
`firstMatch_iff_kindAt` says that looking two characters ahead finds the rule that comes first.
-/

namespace TokenScan

open Text

/-- The place of a kind's rule, the first one being tried first. -/
def TokenKind.rank : TokenKind → Nat
  | .whitespace => 1
  | .alphanumeric => 2
  | .digraph => 3
  | .symbolRun => 4
  | .lineComment => 5
  | .blockComment => 6
  | .quotedString => 7
  | .directive => 8
  | .punctuation => 9

theorem TokenKind.rank_injective {j k : TokenKind} (h : j.rank = k.rank) : j = k := by
  cases j <;> cases k <;> first | rfl | exact absurd h (by decide)

namespace SymbolTable

variable {symbols : SymbolTable} {j k : TokenKind} {cs text other : List Char}

/-! ### Which kind -/

/-- Whether the rule of a kind applies at the start of a text. -/
inductive Matches (symbols : SymbolTable) : TokenKind → List Char → Prop where
  /-- White space starts white space. -/
  | whitespace {c : Char} {rest : List Char} (h : isWhitespace c = true) :
      Matches symbols .whitespace (c :: rest)
  /-- A letter or digit starts a run of them. -/
  | alphanumeric {c : Char} {rest : List Char} (h : isAlphanumeric c = true) :
      Matches symbols .alphanumeric (c :: rest)
  /-- Two characters that are registered together. -/
  | digraph {c d : Char} {rest : List Char} (h : String.ofList [c, d] ∈ symbols.digraphs) :
      Matches symbols .digraph (c :: d :: rest)
  /-- A character that is registered by itself. -/
  | symbolRun {c : Char} {rest : List Char} (h : String.ofList [c] ∈ symbols.singles) :
      Matches symbols .symbolRun (c :: rest)
  /-- Two slashes. -/
  | lineComment {rest : List Char} : Matches symbols .lineComment ('/' :: '/' :: rest)
  /-- A slash and a star. -/
  | blockComment {rest : List Char} : Matches symbols .blockComment ('/' :: '*' :: rest)
  /-- A double quote that something follows. -/
  | quotedString {c : Char} {rest : List Char} : Matches symbols .quotedString ('"' :: c :: rest)
  /-- A number sign. -/
  | directive {rest : List Char} : Matches symbols .directive ('#' :: rest)
  /-- Any character. -/
  | punctuation {c : Char} {rest : List Char} : Matches symbols .punctuation (c :: rest)

section Matches

variable {c : Char} {rest : List Char}

@[simp] theorem matches_whitespace_iff :
    symbols.Matches .whitespace (c :: rest) ↔ isWhitespace c = true :=
  ⟨fun | .whitespace h => h, .whitespace⟩

@[simp] theorem matches_alphanumeric_iff :
    symbols.Matches .alphanumeric (c :: rest) ↔ isAlphanumeric c = true :=
  ⟨fun | .alphanumeric h => h, .alphanumeric⟩

@[simp] theorem matches_digraph_iff :
    symbols.Matches .digraph (c :: rest) ↔ rest.head?.any (symbols.isDigraph c) = true := by
  constructor
  · rintro (_ | _ | h)
    exact isDigraph_iff.2 h
  · intro h
    cases rest with
    | nil => simp at h
    | cons d rest => exact .digraph (isDigraph_iff.1 h)

@[simp] theorem matches_symbolRun_iff :
    symbols.Matches .symbolRun (c :: rest) ↔ symbols.isSingle c = true := by
  rw [isSingle_iff]
  exact ⟨fun | .symbolRun h => h, .symbolRun⟩

@[simp] theorem matches_lineComment_iff :
    symbols.Matches .lineComment (c :: rest) ↔ c = '/' ∧ rest.head? = some '/' := by
  constructor
  · rintro (_ | _)
    exact ⟨rfl, rfl⟩
  · rintro ⟨rfl, h⟩
    obtain ⟨rest, rfl⟩ := List.head?_eq_some_iff.1 h
    exact .lineComment

@[simp] theorem matches_blockComment_iff :
    symbols.Matches .blockComment (c :: rest) ↔ c = '/' ∧ rest.head? = some '*' := by
  constructor
  · rintro (_ | _)
    exact ⟨rfl, rfl⟩
  · rintro ⟨rfl, h⟩
    obtain ⟨rest, rfl⟩ := List.head?_eq_some_iff.1 h
    exact .blockComment

@[simp] theorem matches_quotedString_iff :
    symbols.Matches .quotedString (c :: rest) ↔ c = '"' ∧ ∃ d, rest.head? = some d := by
  constructor
  · rintro (_ | _)
    exact ⟨rfl, _, rfl⟩
  · rintro ⟨rfl, d, h⟩
    obtain ⟨rest, rfl⟩ := List.head?_eq_some_iff.1 h
    exact .quotedString

@[simp] theorem matches_directive_iff :
    symbols.Matches .directive (c :: rest) ↔ c = '#' := by
  constructor
  · rintro (_ | _)
    rfl
  · rintro rfl
    exact .directive

end Matches

/-- The kind whose rule comes first among those that apply. -/
structure FirstMatch (symbols : SymbolTable) (k : TokenKind) (cs : List Char) : Prop where
  /-- Its rule applies. -/
  isMatch : symbols.Matches k cs
  /-- No rule before it applies. -/
  first : ∀ j, j.rank < k.rank → ¬ symbols.Matches j cs

/-- **One kind comes first at most.** -/
theorem FirstMatch.unique (hj : symbols.FirstMatch j cs) (hk : symbols.FirstMatch k cs) :
    j = k := by
  rcases Nat.lt_trichotomy j.rank k.rank with h | h | h
  · exact absurd hj.isMatch (hk.first j h)
  · exact TokenKind.rank_injective h
  · exact absurd hk.isMatch (hj.first k h)

theorem FirstMatch.ne_nil (h : symbols.FirstMatch k cs) : cs ≠ [] := by
  rintro rfl
  cases h.isMatch

/-- Some kind comes first as soon as there is a character, as any character is punctuation for want
of a better rule. -/
theorem exists_firstMatch (h : cs ≠ []) : ∃ k, symbols.FirstMatch k cs := by
  obtain ⟨c, rest, rfl⟩ := List.exists_cons_of_ne_nil h
  obtain ⟨k, hk, hmin⟩ := (measure TokenKind.rank).wf.has_min
    {k | symbols.Matches k (c :: rest)} ⟨_, Matches.punctuation⟩
  exact ⟨k, hk, fun j hj hm ↦ hmin j hm hj⟩

/-- Two characters of lookahead find the kind that comes first. -/
theorem FirstMatch.kindAt (h : symbols.FirstMatch k cs) : symbols.kindAt cs = some k := by
  obtain ⟨c, rest, rfl⟩ := List.exists_cons_of_ne_nil h.ne_nil
  have hfirst := h.first
  have hm := h.isMatch
  -- a test is passed over because its rule is tried earlier and does not apply
  rw [SymbolTable.kindAt]
  cases k
  case whitespace => simp_all
  all_goals
    have hw := hfirst .whitespace (by decide)
    rw [matches_whitespace_iff] at hw
    rw [if_neg hw]
  case alphanumeric => simp_all
  all_goals
    have ha := hfirst .alphanumeric (by decide)
    rw [matches_alphanumeric_iff] at ha
    rw [if_neg ha, kindOfPunctuation.eq_def]
  case digraph => simp_all
  all_goals
    have hd := hfirst .digraph (by decide)
    rw [matches_digraph_iff] at hd
    rw [if_neg hd]
  case symbolRun => simp_all
  all_goals
    have hs := hfirst .symbolRun (by decide)
    rw [matches_symbolRun_iff] at hs
    rw [if_neg hs]
  case lineComment => simp_all
  case blockComment => simp_all
  case quotedString =>
    obtain ⟨rfl, d, hd⟩ := matches_quotedString_iff.1 hm
    rw [hd]
    rfl
  case directive =>
    obtain rfl := matches_directive_iff.1 hm
    rfl
  case punctuation =>
    have hl := hfirst .lineComment (by decide)
    have hb := hfirst .blockComment (by decide)
    have hq := hfirst .quotedString (by decide)
    have hp := hfirst .directive (by decide)
    split <;> simp_all

/-- **The rule that comes first is the one that two characters of lookahead find.** -/
theorem firstMatch_iff_kindAt : symbols.FirstMatch k cs ↔ symbols.kindAt cs = some k := by
  refine ⟨FirstMatch.kindAt, fun h ↦ ?_⟩
  have hne : cs ≠ [] := by
    rintro rfl
    cases h
  obtain ⟨j, hj⟩ : ∃ j, symbols.FirstMatch j cs := exists_firstMatch hne
  obtain rfl : j = k := Option.some.inj (hj.kindAt.symm.trans h)
  exact hj

/-- A registered digraph comes first, unless it starts with white space, a letter or a digit. -/
theorem firstMatch_digraph {c d : Char} {rest : List Char} (hw : isWhitespace c = false)
    (ha : isAlphanumeric c = false) (h : String.ofList [c, d] ∈ symbols.digraphs) :
    symbols.FirstMatch .digraph (c :: d :: rest) := by
  have hpair : (d :: rest).head?.any (symbols.isDigraph c) = true := isDigraph_iff.2 h
  rw [firstMatch_iff_kindAt, SymbolTable.kindAt, if_neg (Bool.eq_false_iff.1 hw),
    if_neg (Bool.eq_false_iff.1 ha), kindOfPunctuation.eq_def, if_pos hpair]

/-! ### Which text -/

/-- The text of a token of some kind at the start of a text. -/
def IsLexeme (symbols : SymbolTable) : TokenKind → List Char → List Char → Prop
  | .whitespace => IsLongest fun u ↦ ∀ c ∈ u, isWhitespace c = true
  | .alphanumeric => IsLongest fun u ↦ ∀ c ∈ u, isAlphanumeric c = true
  | .symbolRun => IsLongest fun u ↦ ∀ c ∈ u, String.ofList [c] ∈ symbols.singles
  | .punctuation => IsLongest fun u ↦ ∀ c ∈ u, isWhitespace c = false ∧ isAlphanumeric c = false
  | .digraph => fun cs text ↦ text <+: cs ∧ text.length = 2
  | .lineComment => IsShortest fun u ↦ ['\n'] <:+ u
  | .directive => IsShortest fun u ↦ ['\n'] <:+ u
  | .quotedString => IsShortest fun u ↦ 2 ≤ u.length ∧ ['"'] <:+ u
  | .blockComment => IsShortest fun u ↦ 4 ≤ u.length ∧ ['*', '/'] <:+ u

/-- **A text starts with one token of a kind at most.** -/
theorem IsLexeme.unique (h : symbols.IsLexeme k cs text) (h' : symbols.IsLexeme k cs other) :
    text = other := by
  cases k
  case digraph => exact eq_of_prefix_of_length_eq h.1 h'.1 (h.2.trans h'.2.symm)
  case lineComment => exact IsShortest.unique h h'
  case blockComment => exact IsShortest.unique h h'
  case quotedString => exact IsShortest.unique h h'
  case directive => exact IsShortest.unique h h'
  all_goals exact IsLongest.unique h h'

/-- A lexeme that is a digraph is registered. -/
theorem IsLexeme.mem_digraphs (htext : symbols.IsLexeme .digraph cs text)
    (hkind : symbols.Matches .digraph cs) : String.ofList text ∈ symbols.digraphs := by
  cases hkind with
  | @digraph c d rest h =>
    have hpair : symbols.IsLexeme .digraph (c :: d :: rest) [c, d] := ⟨⟨rest, rfl⟩, rfl⟩
    rw [htext.unique hpair]
    exact h

end SymbolTable

/-! ### A whole text -/

/-- The tokens of a text that starts on some line, and the construct that is left open, if the text
ends in one. -/
inductive Segmentation (symbols : SymbolTable) :
    UInt32 → List Char → List Token → Option Unterminated → Prop where
  /-- A text without characters has no tokens. -/
  | done {line : UInt32} : Segmentation symbols line [] [] none
  /-- A token, and the tokens of what follows it. -/
  | token {line : UInt32} {k : TokenKind} {cs text rest : List Char} {tokens : List Token}
      {open? : Option Unterminated} (hkind : symbols.FirstMatch k cs)
      (htext : symbols.IsLexeme k cs text) (hcs : cs = text ++ rest)
      (hrest : Segmentation symbols (lineAfter line text) rest tokens open?) :
      Segmentation symbols line cs (⟨k, String.ofList text, line⟩ :: tokens) open?
  /-- A construct that no prefix of the text closes. -/
  | unterminated {line : UInt32} {k : TokenKind} {cs : List Char}
      (hkind : symbols.FirstMatch k cs) (htext : ∀ text, ¬ symbols.IsLexeme k cs text) :
      Segmentation symbols line cs [] (some ⟨k, line⟩)

namespace Segmentation

variable {symbols : SymbolTable} {line : UInt32} {cs : List Char} {tokens tokens' : List Token}
  {open? open?' : Option Unterminated}

/-- **A text is cut in one way at most.** At each boundary the kind, then the text, then what is left
over are determined. -/
theorem unique (h : Segmentation symbols line cs tokens open?)
    (h' : Segmentation symbols line cs tokens' open?') : tokens = tokens' ∧ open? = open?' := by
  induction h generalizing tokens' open?' with
  | done =>
    cases h' with
    | done => exact ⟨rfl, rfl⟩
    | token hkind _ _ _ => exact absurd rfl hkind.ne_nil
    | unterminated hkind _ => exact absurd rfl hkind.ne_nil
  | token hkind htext hcs _ ih =>
    cases h' with
    | done => exact absurd rfl hkind.ne_nil
    | token hkind' htext' hcs' hrest' =>
      -- the kind, then the text, then what is left over
      obtain rfl := hkind.unique hkind'
      obtain rfl := htext.unique htext'
      obtain rfl := List.append_cancel_left (hcs.symm.trans hcs')
      obtain ⟨rfl, rfl⟩ := ih hrest'
      exact ⟨rfl, rfl⟩
    | unterminated hkind' htext' =>
      obtain rfl := hkind.unique hkind'
      exact absurd htext (htext' _)
  | unterminated hkind htext =>
    cases h' with
    | done => exact absurd rfl hkind.ne_nil
    | token hkind' htext' _ _ =>
      obtain rfl := hkind.unique hkind'
      exact absurd htext' (htext _)
    | unterminated hkind' _ =>
      obtain rfl := hkind.unique hkind'
      exact ⟨rfl, rfl⟩

end Segmentation

end TokenScan

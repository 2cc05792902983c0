import TokenScan.Proofs.Grammar
import TokenScan.Proofs.Source.Construct
import TokenScan.Source.Extract
/-!
# What a scan takes is a lexeme

`Source.extract` is told a kind and takes a text. Here the two halves of a step meet: **if the kind
is the one that comes first at the remaining text, what is taken is the lexeme of that kind**
(`extract_of_firstMatch`), or the construct that starts there is open and is reported. There is no
third case: a digraph is still there when it is looked at again, an opening marker is never absent,
and the text is not empty.

The runs are read off `takeWhile`; for the constructs, `isLexeme_construct_iff` sets the opening
marker apart and leaves a search for the closing one.
-/

namespace TokenScan

open Text SymbolTable

variable {symbols : SymbolTable} {cs text rest : List Char}

/-! ### Constructs as lexemes -/

/-- The lexeme of a construct is its opening marker and the shortest text behind it that ends in
the closing one. -/
theorem isLexeme_construct_iff (c : Construct) :
    symbols.IsLexeme c.kind (c.opening ++ rest) text ↔
      ∃ body, text = c.opening ++ body ∧ IsShortest (c.closing <:+ ·) rest body := by
  have key {p : List Char → Prop} (hstart : ∀ v ∈ c.opening.inits, v ≠ c.opening → ¬ p v)
      (hp : ∀ u, p (c.opening ++ u) ↔ c.closing <:+ u) :
      IsShortest p (c.opening ++ rest) text ↔
        ∃ body, text = c.opening ++ body ∧ IsShortest (c.closing <:+ ·) rest body :=
    (isShortest_append_iff hstart).trans
      (exists_congr fun _ ↦ and_congr_right fun _ ↦ isShortest_congr hp)
  -- a line feed is no part of an opening marker; stars and quotes are, hence the room for both
  cases c with
  | lineComment =>
    refine key (by decide) fun u ↦ ?_
    show ['\n'] <:+ '/' :: '/' :: u ↔ ['\n'] <:+ u
    simp [List.suffix_cons_iff]
  | blockComment => exact key (by decide) (suffix_append_iff ['/', '*'] ['*', '/'])
  | quotedString => exact key (by decide) (suffix_append_iff ['"'] ['"'])
  | directive =>
    refine key (by decide) fun u ↦ ?_
    show ['\n'] <:+ '#' :: u ↔ ['\n'] <:+ u
    simp [List.suffix_cons_iff]

/-- An open construct has no lexeme: a closing marker in a prefix would be one in the text. -/
theorem Construct.IsOpen.not_isLexeme {c : Construct} (h : c.IsOpen cs) :
    ¬ symbols.IsLexeme c.kind cs text := by
  intro hlex
  obtain ⟨rest, rfl, hopen⟩ := h
  obtain ⟨body, -, hbody⟩ := (isLexeme_construct_iff c).1 hlex
  exact hopen (infix_of_prefix_of_suffix hbody.isPrefix hbody.holds)

/-- A text whose first rule is that of a construct starts with the construct's opening marker. -/
theorem opening_of_firstMatch {c : Construct} (h : symbols.FirstMatch c.kind cs) :
    ∃ rest, cs = c.opening ++ rest := by
  have hm := h.isMatch
  cases c with
  | lineComment => cases hm; exact ⟨_, rfl⟩
  | blockComment => cases hm; exact ⟨_, rfl⟩
  | quotedString => cases hm; exact ⟨_, rfl⟩
  | directive => cases hm; exact ⟨_, rfl⟩

namespace Source

variable {s : Source} {k : TokenKind}

/-- **A construct that comes first is taken as its lexeme or reported as open.** -/
theorem extractConstruct_of_firstMatch {c : Construct}
    (h : symbols.FirstMatch c.kind s.remaining) :
    (∃ text, symbols.IsLexeme c.kind s.remaining text ∧
        (s.extractConstruct c).1 = .ok text) ∨
      (c.IsOpen s.remaining ∧ (s.extractConstruct c).1 = .error ⟨c.kind, s.line⟩) := by
  obtain ⟨rest, hs⟩ := opening_of_firstMatch h
  rcases hres : s.readConstruct c with ⟨result, t⟩
  rcases readConstruct_of_opening hs with ⟨body, hbody, hread⟩ | ⟨hopen, hread⟩
  · obtain rfl : result = .ok (some (c.opening ++ body)) := by rw [← hread, hres]
    refine .inl ⟨c.opening ++ body, ?_, by rw [extractConstruct, hres]; rfl⟩
    rw [hs]
    exact (isLexeme_construct_iff c).2 ⟨body, rfl, hbody⟩
  · obtain rfl : result = .error ⟨c.kind, s.line⟩ := by rw [← hread, hres]
    exact .inr ⟨⟨rest, hs, hopen⟩, by rw [extractConstruct, hres]⟩

/-! ### Runs as lexemes -/

/-- A run whose first character is in the class is the longest prefix in it. -/
theorem run_fst {f : Char → Bool} {c : Char} {rest : List Char} (hs : s.remaining = c :: rest)
    (hc : f c = true) : (s.run f).1 = s.remaining.takeWhile f := by
  rcases hn : s.next with ⟨d, t⟩
  cases d with
  | none => simp [remaining_eq_nil_of_next hn] at hs
  | some d =>
    have ht := remaining_eq_cons_of_next hn
    obtain ⟨rfl, -⟩ := List.cons.inj (ht.symm.trans hs)
    rw [run, hn, ht, List.takeWhile_cons_of_pos hc]
    exact eatWhile_fst t [d] f

theorem isPunctuation_eq_true_iff {c : Char} :
    isPunctuation c = true ↔ isWhitespace c = false ∧ isAlphanumeric c = false := by
  rw [isPunctuation, Bool.not_eq_true', Bool.or_eq_false_iff]

/-- **What is taken is the lexeme of the kind that comes first**, unless that is a construct left
open. -/
theorem extract_of_firstMatch (h : symbols.FirstMatch k s.remaining) :
    (∃ text, symbols.IsLexeme k s.remaining text ∧ (s.extract symbols k).1 = .ok text) ∨
      (∃ c : Construct, c.kind = k ∧ c.IsOpen s.remaining) ∧
        (s.extract symbols k).1 = .error ⟨k, s.line⟩ := by
  have construct {c : Construct} (h : symbols.FirstMatch c.kind s.remaining) :
      (∃ text, symbols.IsLexeme c.kind s.remaining text ∧
          (s.extractConstruct c).1 = .ok text) ∨
        (∃ c' : Construct, c'.kind = c.kind ∧ c'.IsOpen s.remaining) ∧
          (s.extractConstruct c).1 = .error ⟨c.kind, s.line⟩ :=
    (extractConstruct_of_firstMatch h).imp_right fun ⟨hopen, he⟩ ↦ ⟨⟨c, rfl, hopen⟩, he⟩
  obtain ⟨c, rest, hs⟩ := List.exists_cons_of_ne_nil h.ne_nil
  have hm := h.isMatch
  rw [hs] at hm
  cases k
  case lineComment => exact construct (c := .lineComment) h
  case blockComment => exact construct (c := .blockComment) h
  case quotedString => exact construct (c := .quotedString) h
  case directive => exact construct (c := .directive) h
  all_goals left
  case whitespace =>
    refine ⟨_, isLongest_takeWhile isWhitespace s.remaining, ?_⟩
    rw [extract, whitespace, run_fst hs (matches_whitespace_iff.1 hm)]
  case alphanumeric =>
    refine ⟨_, isLongest_takeWhile isAlphanumeric s.remaining, ?_⟩
    rw [extract, alphanumeric, run_fst hs (matches_alphanumeric_iff.1 hm)]
  case symbolRun =>
    refine ⟨_, (isLongest_takeWhile symbols.isSingle s.remaining).congr fun u _ ↦ ?_, ?_⟩
    · exact forall₂_congr fun c _ ↦ isSingle_iff
    · rw [extract, symbolRun, run_fst hs (matches_symbolRun_iff.1 hm)]
  case punctuation =>
    refine ⟨_, (isLongest_takeWhile isPunctuation s.remaining).congr fun u _ ↦ ?_, ?_⟩
    · exact forall₂_congr fun c _ ↦ isPunctuation_eq_true_iff
    · rw [extract, punctuation, eatWhile_fst, List.nil_append]
  case digraph =>
    cases hm with
    | digraph hd =>
      refine ⟨_, ⟨?_, ?_⟩, by rw [extract, digraph_fst hs (isDigraph_iff.2 hd)]⟩
      · exact ⟨_, hs.symm⟩
      · rfl

end Source

end TokenScan

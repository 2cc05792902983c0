import TokenScan.Source.Kind
/-!
# Taking the next token

`extract` takes the text of a token of a given kind. Whatever the kind, text that is taken is a
prefix of what remained and moves the line by its line feeds (`extract_ok`); a construct that was
left open takes everything (`extract_error`). Where the kind is the one that the remaining text
calls for, the text that is taken is not empty (`extract_ne_nil`), so a scan makes progress.
-/

namespace TokenScan.Source

/-- Takes a construct; one whose opening marker is absent gives the empty text. -/
def extractConstruct (s : Source) (c : Construct) : Except Unterminated (List Char) × Source :=
  match s.readConstruct c with
  | (.ok text, t) => (.ok (text.getD []), t)
  | (.error e, t) => (.error e, t)

/-- Takes the text of a token of some kind. -/
def extract (s : Source) (symbols : SymbolTable) :
    TokenKind → Except Unterminated (List Char) × Source
  | .whitespace => (.ok s.whitespace.1, s.whitespace.2)
  | .alphanumeric => (.ok s.alphanumeric.1, s.alphanumeric.2)
  | .punctuation => (.ok s.punctuation.1, s.punctuation.2)
  | .digraph => (.ok (s.digraph symbols).1, (s.digraph symbols).2)
  | .symbolRun => (.ok (s.symbolRun symbols).1, (s.symbolRun symbols).2)
  | .lineComment => s.extractConstruct .lineComment
  | .blockComment => s.extractConstruct .blockComment
  | .quotedString => s.extractConstruct .quotedString
  | .directive => s.extractConstruct .directive

theorem extractConstruct_ok {s t : Source} {c : Construct} {text : List Char}
    (h : s.extractConstruct c = (.ok text, t)) :
    s.remaining = text ++ t.remaining ∧ t.line = lineAfter s.line text := by
  rw [extractConstruct] at h
  split at h
  · next found u hu =>
    obtain ⟨htext, rfl⟩ := Prod.mk.inj h
    obtain rfl := Except.ok.inj htext
    rcases found with - | text
    · obtain ⟨-, hr, hl⟩ := readConstruct_absent hu
      exact ⟨hr.symm, hl.trans (lineAfter_nil s.line).symm⟩
    · exact (readConstruct_some hu).2
  · cases h

theorem extractConstruct_error {s t : Source} {c : Construct} {e : Unterminated}
    (h : s.extractConstruct c = (.error e, t)) :
    e = ⟨c.kind, s.line⟩ ∧ t.remaining = [] ∧ t.line = lineAfter s.line s.remaining := by
  rw [extractConstruct] at h
  split at h
  · cases h
  · next e' u hu =>
    obtain ⟨he, rfl⟩ := Prod.mk.inj h
    obtain rfl := Except.error.inj he
    exact readConstruct_error hu

/-- Text that is taken is a prefix of what remained. -/
theorem extract_ok {s t : Source} {symbols : SymbolTable} {kind : TokenKind} {text : List Char}
    (h : s.extract symbols kind = (.ok text, t)) :
    s.remaining = text ++ t.remaining ∧ t.line = lineAfter s.line text := by
  cases kind
  case lineComment => exact extractConstruct_ok h
  case blockComment => exact extractConstruct_ok h
  case quotedString => exact extractConstruct_ok h
  case directive => exact extractConstruct_ok h
  all_goals
    simp only [extract, Prod.mk.injEq, Except.ok.injEq] at h
    obtain ⟨rfl, rfl⟩ := h
  case digraph => exact digraph_eq s symbols
  case punctuation => exact punctuation_eq s
  all_goals exact run_eq s _

/-- A construct that is left open takes everything and is reported with its kind and its line. -/
theorem extract_error {s t : Source} {symbols : SymbolTable} {kind : TokenKind} {e : Unterminated}
    (h : s.extract symbols kind = (.error e, t)) :
    e = ⟨kind, s.line⟩ ∧ t.remaining = [] ∧ t.line = lineAfter s.line s.remaining := by
  cases kind
  case lineComment => exact extractConstruct_error h
  case blockComment => exact extractConstruct_error h
  case quotedString => exact extractConstruct_error h
  case directive => exact extractConstruct_error h
  all_goals simp [extract] at h

/-! ### Progress -/

theorem run_ne_nil {s : Source} (p : Char → Bool) (h : s.remaining ≠ []) : (s.run p).1 ≠ [] := by
  rw [run]
  split
  · next t ht => exact absurd (remaining_eq_nil_of_next ht) h
  · exact List.cons_ne_nil _ _

theorem punctuation_ne_nil {s : Source} {c : Char} {rest : List Char}
    (hs : s.remaining = c :: rest) (hc : isPunctuation c = true) : s.punctuation.1 ≠ [] := by
  rw [punctuation, eatWhile_fst, hs, List.takeWhile_cons_of_pos hc]
  simp

theorem digraph_fst {s : Source} {symbols : SymbolTable} {c d : Char} {rest : List Char}
    (hs : s.remaining = c :: d :: rest) (h : symbols.isDigraph c d = true) :
    (s.digraph symbols).1 = [c, d] := by
  rw [digraph]
  split
  · next a t ht =>
    obtain ⟨ha, hr, -⟩ := eq_of_peek ht
    rw [hs, List.getElem?_cons_zero] at ha
    obtain rfl := Option.some.inj ha
    split
    · next b u hu =>
      obtain ⟨hb, hr₁, -⟩ := eq_of_peek hu
      rw [hr, hs, List.getElem?_cons_succ, List.getElem?_cons_zero] at hb
      obtain rfl := Option.some.inj hb
      rw [if_pos h, read_fst, hr₁, hr, hs]
      rfl
    · next u hu =>
      obtain ⟨hb, -⟩ := eq_of_peek hu
      rw [hr, hs] at hb
      cases hb
  · next t ht =>
    rw [remaining_eq_nil_of_peek ht] at hs
    cases hs

theorem extractConstruct_ne_nil {s t : Source} {c : Construct} {text : List Char}
    (hs : c.opening <+: s.remaining) (h : s.extractConstruct c = (.ok text, t)) : text ≠ [] := by
  rw [extractConstruct] at h
  split at h
  · next found u hu =>
    obtain ⟨htext, rfl⟩ := Prod.mk.inj h
    obtain rfl := Except.ok.inj htext
    rcases found with - | text
    · exact absurd hs (readConstruct_absent hu).1
    · -- what is taken starts with the opening marker
      obtain ⟨body, rfl⟩ := (readConstruct_some hu).1
      exact List.append_ne_nil_of_left_ne_nil c.opening_ne_nil body
  · cases h

theorem extractConstruct_of_kind (s : Source) (symbols : SymbolTable) (c : Construct) :
    s.extract symbols c.kind = s.extractConstruct c := by
  cases c <;> rfl

/-- The kind that punctuation calls for is backed by the characters that come next. -/
theorem kindOfPunctuation_cases (symbols : SymbolTable) (c : Char) (rest : List Char) :
    symbols.kindOfPunctuation c rest.head? = .symbolRun ∨
      symbols.kindOfPunctuation c rest.head? = .punctuation ∨
      (symbols.kindOfPunctuation c rest.head? = .digraph ∧
        ∃ d rest', rest = d :: rest' ∧ symbols.isDigraph c d = true) ∨
      ∃ con : Construct, symbols.kindOfPunctuation c rest.head? = con.kind ∧
        con.opening <+: c :: rest := by
  rw [SymbolTable.kindOfPunctuation.eq_def]
  split
  · next hany =>
    obtain ⟨d, hhead, hd⟩ := (Option.any_eq_true _ _).1 hany
    obtain ⟨rest', rfl⟩ := List.head?_eq_some_iff.1 hhead
    exact .inr (.inr (.inl ⟨rfl, d, rest', rfl, hd⟩))
  · split
    · exact .inl rfl
    · generalize hhead : rest.head? = second
      split
      · obtain ⟨rest', rfl⟩ := List.head?_eq_some_iff.1 hhead
        exact .inr (.inr (.inr ⟨.lineComment, rfl, ⟨rest', rfl⟩⟩))
      · obtain ⟨rest', rfl⟩ := List.head?_eq_some_iff.1 hhead
        exact .inr (.inr (.inr ⟨.blockComment, rfl, ⟨rest', rfl⟩⟩))
      · exact .inr (.inr (.inr ⟨.quotedString, rfl, ⟨rest, rfl⟩⟩))
      · exact .inr (.inr (.inr ⟨.directive, rfl, ⟨rest, rfl⟩⟩))
      · exact .inr (.inl rfl)

/-- Where the kind is the one that the text calls for, some text is taken. -/
theorem extract_ne_nil {s t : Source} {symbols : SymbolTable} {kind : TokenKind}
    {text : List Char} (hkind : symbols.kindAt s.remaining = some kind)
    (h : s.extract symbols kind = (.ok text, t)) : text ≠ [] := by
  have hne : s.remaining ≠ [] := by
    intro hnil
    rw [hnil] at hkind
    cases hkind
  obtain ⟨c, rest, hs⟩ := List.exists_cons_of_ne_nil hne
  have htext : (s.extract symbols kind).1 = .ok text := congrArg Prod.fst h
  -- a run takes its first character whatever that is
  have hrun {p : Char → Bool} (htext : (s.run p).1 = text) : text ≠ [] :=
    htext ▸ run_ne_nil p hne
  rw [hs, SymbolTable.kindAt] at hkind
  split at hkind
  · obtain rfl := Option.some.inj hkind
    exact hrun (Except.ok.inj htext)
  split at hkind
  · obtain rfl := Option.some.inj hkind
    exact hrun (Except.ok.inj htext)
  next hw ha =>
  have hk := Option.some.inj hkind
  rcases kindOfPunctuation_cases symbols c rest with
    hc | hc | ⟨hc, d, rest', rfl, hd⟩ | ⟨con, hc, hopen⟩
  · obtain rfl := hc.symm.trans hk
    exact hrun (Except.ok.inj htext)
  · obtain rfl := hc.symm.trans hk
    have hp : isPunctuation c = true := by simp [isPunctuation, hw, ha]
    exact Except.ok.inj htext ▸ punctuation_ne_nil hs hp
  · obtain rfl := hc.symm.trans hk
    rw [← Except.ok.inj htext, digraph_fst hs hd]
    exact List.cons_ne_nil c [d]
  · obtain rfl := hc.symm.trans hk
    rw [extractConstruct_of_kind] at h
    exact extractConstruct_ne_nil (hs ▸ hopen) h

end TokenScan.Source

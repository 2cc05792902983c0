import TokenScan.Proofs.Source.Lexeme
import TokenScan.Session.Basic
/-!
# One step of a session

`Session.nextRaw` is the step that everything else repeats. `Session.Step` says once what it can
come to, on a session whose pending kind is the right one (`Session.IsCurrent`):

* the text is used up, and nothing happens;
* a token is taken: the lexeme of the kind that comes first, off the front of the text;
* a construct is open: it is reported, and what was left of the text is gone.

`step_nextRaw` is the only place that looks into `nextRaw`; every invariant of a scan is read off
the three cases. Which of them it is can be told by the grammar alone (`Step.eq_of_isLexeme`,
`Step.eq_of_isOpen`, `Step.eq_of_remaining_eq_nil`). As a session without a source has no text,
`isCurrent_iff` needs no case for it.
-/

namespace TokenScan.Session

variable {s t : Session}

/-- The pending kind is the right one if looking at the remaining text would give it again. -/
theorem isCurrent_iff : s.IsCurrent ↔ s.pending = s.symbols.kindAt s.remaining := by
  obtain ⟨source, pending, symbols⟩ := s
  cases source with
  | none => exact Iff.rfl
  | some source => exact Iff.rfl

/-- A session with the right pending kind has none exactly when no text is left. -/
theorem IsCurrent.pending_eq_none_iff (hs : s.IsCurrent) :
    s.pending = none ↔ s.remaining = [] := by
  rw [isCurrent_iff.1 hs, SymbolTable.kindAt_eq_none_iff]

theorem isDone_iff : s.isDone = true ↔ s.pending = none := Option.isNone_iff_eq_none

/-- A session with the right pending kind is done exactly when no text is left. -/
theorem IsCurrent.isDone_iff (hs : s.IsCurrent) : s.isDone = true ↔ s.remaining = [] :=
  Session.isDone_iff.trans hs.pending_eq_none_iff

/-- Nothing is pending, and nothing is left. -/
theorem isCurrent_of_pending_eq_none (hp : s.pending = none) (hr : s.remaining = []) :
    s.IsCurrent := by
  rw [isCurrent_iff, hp, hr, SymbolTable.kindAt_nil]

/-- What asking for the next token comes to. -/
inductive Step (s : Session) : Except Unterminated (Option Token) × Session → Prop where
  /-- The text is used up. -/
  | finished (hremaining : s.remaining = []) : Step s (.ok none, s)
  /-- A token is taken. -/
  | token {k : TokenKind} {text : List Char} {t : Session}
      (hkind : s.symbols.FirstMatch k s.remaining)
      (htext : s.symbols.IsLexeme k s.remaining text) (hne : text ≠ [])
      (hremaining : s.remaining = text ++ t.remaining) (hline : t.line = lineAfter s.line text)
      (hsymbols : t.symbols = s.symbols) (hcurrent : t.IsCurrent) :
      Step s (.ok (some ⟨k, String.ofList text, s.line⟩), t)
  /-- A construct is open. -/
  | unterminated {c : Construct} {t : Session} (hkind : s.symbols.FirstMatch c.kind s.remaining)
      (hopen : c.IsOpen s.remaining) (hremaining : t.remaining = [])
      (hline : t.line = lineAfter s.line s.remaining) (hsymbols : t.symbols = s.symbols)
      (hcurrent : t.IsCurrent) : Step s (.error ⟨c.kind, s.line⟩, t)

theorem Step.finished_iff : s.Step (.ok none, t) ↔ s.remaining = [] ∧ t = s := by
  constructor
  · rintro (h | _ | _)
    exact ⟨h, rfl⟩
  · rintro ⟨h, rfl⟩
    exact .finished h

/-- A step keeps the symbols. -/
theorem Step.symbols {outcome : Except Unterminated (Option Token) × Session}
    (h : s.Step outcome) : outcome.2.symbols = s.symbols := by
  cases h with
  | finished _ => rfl
  | token _ _ _ _ _ hsymbols _ => exact hsymbols
  | unterminated _ _ _ _ hsymbols _ => exact hsymbols

/-- A step leaves an end of the text. -/
theorem Step.suffix {outcome : Except Unterminated (Option Token) × Session}
    (h : s.Step outcome) : outcome.2.remaining <:+ s.remaining := by
  cases h with
  | finished _ => exact List.suffix_refl _
  | token _ _ _ hremaining _ _ _ => exact ⟨_, hremaining.symm⟩
  | unterminated _ _ hremaining _ _ _ =>
    rw [hremaining]
    exact List.nil_suffix

theorem Step.eq_of_remaining_eq_nil {outcome : Except Unterminated (Option Token) × Session}
    (h : s.Step outcome) (hnil : s.remaining = []) : outcome = (.ok none, s) := by
  cases h with
  | finished _ => rfl
  | token hkind _ _ _ _ _ _ => exact absurd hnil hkind.ne_nil
  | unterminated hkind _ _ _ _ _ => exact absurd hnil hkind.ne_nil

theorem Step.eq_of_isLexeme {outcome : Except Unterminated (Option Token) × Session}
    (h : s.Step outcome) {k : TokenKind} {text : List Char}
    (hkind : s.symbols.FirstMatch k s.remaining) (htext : s.symbols.IsLexeme k s.remaining text) :
    outcome.1 = .ok (some ⟨k, String.ofList text, s.line⟩) ∧
      s.remaining = text ++ outcome.2.remaining ∧ outcome.2.line = lineAfter s.line text := by
  cases h with
  | finished hnil => exact absurd hnil hkind.ne_nil
  | token hkind' htext' _ hremaining hline _ _ =>
    obtain rfl := hkind.unique hkind'
    obtain rfl := htext.unique htext'
    exact ⟨rfl, hremaining, hline⟩
  | unterminated hkind' hopen _ _ _ _ =>
    obtain rfl := hkind.unique hkind'
    exact absurd htext hopen.not_isLexeme

theorem Step.eq_of_isOpen {outcome : Except Unterminated (Option Token) × Session}
    (h : s.Step outcome) {c : Construct} (hkind : s.symbols.FirstMatch c.kind s.remaining)
    (hopen : c.IsOpen s.remaining) :
    outcome.1 = .error ⟨c.kind, s.line⟩ ∧ outcome.2.remaining = [] ∧
      outcome.2.line = lineAfter s.line s.remaining := by
  cases h with
  | finished hnil => exact absurd hnil hkind.ne_nil
  | token hkind' htext _ _ _ _ _ =>
    obtain rfl := hkind.unique hkind'
    exact absurd htext hopen.not_isLexeme
  | unterminated hkind' _ hremaining hline _ _ =>
    rw [hkind.unique hkind']
    exact ⟨rfl, hremaining, hline⟩

/-- **The three things that a step can come to.** -/
theorem step_nextRaw (hs : s.IsCurrent) : s.Step s.nextRaw := by
  obtain ⟨source, pending, symbols⟩ := s
  rcases source with - | source
  · have hp : pending = none := hs
    subst hp
    exact .finished rfl
  rcases pending with - | k
  · exact .finished (hs.pending_eq_none_iff.1 rfl)
  -- only with a source and a kind is there anything to extract
  have hkind : symbols.FirstMatch k source.remaining :=
    SymbolTable.firstMatch_iff_kindAt.2 (isCurrent_iff.1 hs).symm
  rcases he : source.extract symbols k with ⟨result, rest⟩
  rcases Source.extract_of_firstMatch hkind with ⟨text, htext, hres⟩ | ⟨⟨c, rfl, hopen⟩, hres⟩
  · obtain rfl : result = .ok text := by rw [← hres, he]
    obtain ⟨hremaining, hline⟩ := Source.extract_ok he
    have hraw : nextRaw ⟨some source, some k, symbols⟩ =
        (.ok (some ⟨k, String.ofList text, source.line⟩),
          bind ⟨some source, some k, symbols⟩ rest) := by
      simp only [nextRaw, he]
    rw [hraw]
    refine .token hkind htext (Source.extract_ne_nil hkind.kindAt he) ?_ ?_ rfl (isCurrent_bind _ _)
    · rw [remaining_bind]
      exact hremaining
    · show (rest.nextKind symbols).2.line = _
      rw [Source.line_nextKind]
      exact hline
  · obtain rfl : result = .error ⟨c.kind, source.line⟩ := by rw [← hres, he]
    obtain ⟨-, hremaining, hline⟩ := Source.extract_error he
    have hraw : nextRaw ⟨some source, some c.kind, symbols⟩ =
        (.error ⟨c.kind, source.line⟩, ⟨some rest, none, symbols⟩) := by
      simp only [nextRaw, he]
    rw [hraw]
    exact .unterminated hkind hopen hremaining hline rfl
      (isCurrent_of_pending_eq_none rfl hremaining)

/-- **A step keeps the pending kind right**, whatever it comes to. -/
theorem IsCurrent.nextRaw (hs : s.IsCurrent) : s.nextRaw.2.IsCurrent := by
  have hstep := step_nextRaw hs
  rcases hraw : s.nextRaw with ⟨result, t⟩
  rw [hraw] at hstep
  cases hstep with
  | finished _ => exact hs
  | token _ _ _ _ _ _ ht => exact ht
  | unterminated _ _ _ _ _ ht => exact ht

end TokenScan.Session

import TokenScan.Source.Extract
/-!
# Scanning sessions

A session binds a source to a symbol table and takes tokens from it one at a time. It always knows
the kind of the token that comes next, its `pending` kind: binding a source and extracting a token
look ahead for it, and a registration in the middle of a scan looks again, so that it takes effect
at once. A session without a pending kind is done.

Tokens can be asked for with white space or without. `nextRaw` gives every token, and so gives the
text back piece by piece (`remaining_nextRaw`); `next` passes over tokens that start with white
space and says which ones these were. A construct that is left open ends the session.

`scan` asks until there is no more. It ends because each token takes characters away: a session
whose pending kind is the one its text calls for, which every session is after one token
(`isCurrent_nextRaw`), extracts no empty token (`text_ne_empty_of_nextRaw`).
-/

namespace TokenScan

/-- A scan in progress. -/
structure Session where
  /-- The source that tokens are taken from, if one is bound. -/
  source : Option Source := none
  /-- The kind of the next token, if there is one. -/
  pending : Option TokenKind := none
  /-- The symbols by which punctuation is classified. -/
  symbols : SymbolTable := .standard

namespace Session

/-- A session with a symbol table and no source. -/
def withSymbols (symbols : SymbolTable) : Session := { symbols }

/-- The characters that have yet to be scanned. -/
def remaining (s : Session) : List Char := (s.source.map Source.remaining).getD []

/-- Binds a source in the place of any other. -/
def bind (s : Session) (source : Source) : Session :=
  { s with
    source := some (source.nextKind s.symbols).2
    pending := (source.nextKind s.symbols).1 }

/-- Whether no token is left. -/
def isDone (s : Session) : Bool := s.pending.isNone

/-- The current line. -/
def line (s : Session) : UInt32 := (s.source.map Source.line).getD 1

/-- Lets go of the source. The line stays. -/
def close (s : Session) : Session := { s with source := s.source.map Source.close, pending := none }

/-- Looks again for the kind of the next token, if there is one. -/
def refresh (s : Session) : Session :=
  match s.pending, s.source with
  | some _, some source => s.bind source
  | _, _ => s

/-- Registers a digraph, and tells whether it is new. It takes effect for the token that comes
next. -/
def registerDigraph (s : Session) (pattern : String) : Bool × Session :=
  let (new, symbols) := s.symbols.registerDigraph pattern
  (new, { s with symbols : Session }.refresh)

/-- Registers a single symbol, and tells whether it is new. It takes effect for the token that comes
next. -/
def registerSingle (s : Session) (pattern : String) : Bool × Session :=
  let (new, symbols) := s.symbols.registerSingle pattern
  (new, { s with symbols : Session }.refresh)

@[simp] theorem remaining_bind (s : Session) (source : Source) :
    (s.bind source).remaining = source.remaining := Source.remaining_nextKind _ _

@[simp] theorem symbols_bind (s : Session) (source : Source) :
    (s.bind source).symbols = s.symbols := rfl

/-! ### Single tokens -/

/-- The next token, white space included. -/
def nextRaw (s : Session) : Except Unterminated (Option Token) × Session :=
  match s.pending, s.source with
  | some kind, some source =>
    match source.extract s.symbols kind with
    | (.ok text, rest) => (.ok (some ⟨kind, String.ofList text, source.line⟩), s.bind rest)
    | (.error e, rest) => (.error e, { s with source := some rest, pending := none })
  | _, _ => (.ok none, s)

/-- A token is the text that is taken for the pending kind, and the session goes on with the rest. -/
theorem nextRaw_eq_some {s t : Session} {token : Token} (h : s.nextRaw = (.ok (some token), t)) :
    ∃ kind source text rest, s.pending = some kind ∧ s.source = some source ∧
      source.extract s.symbols kind = (.ok text, rest) ∧
      token = ⟨kind, String.ofList text, source.line⟩ ∧ t = s.bind rest := by
  rw [nextRaw] at h
  split at h
  · next kind source hpending hsource =>
    split at h
    · next text rest he =>
      obtain ⟨hresult, rfl⟩ := Prod.mk.inj h
      have htoken := (Option.some.inj (Except.ok.inj hresult)).symm
      exact ⟨kind, source, text, rest, hpending, hsource, he, htoken, rfl⟩
    · cases h
  · cases h

/-- A token is a prefix of what remained. -/
theorem remaining_nextRaw {s t : Session} {token : Token} (h : s.nextRaw = (.ok (some token), t)) :
    s.remaining = token.text.toList ++ t.remaining := by
  obtain ⟨kind, source, text, rest, -, hsource, he, rfl, rfl⟩ := nextRaw_eq_some h
  rw [remaining_bind, remaining, hsource, String.toList_ofList]
  exact (Source.extract_ok he).1

/-- Whether the pending kind is the one that the remaining text calls for. -/
def IsCurrent (s : Session) : Prop :=
  match s.source with
  | some source => s.pending = s.symbols.kindAt source.remaining
  | none => s.pending = none

instance (s : Session) : Decidable s.IsCurrent := by
  unfold IsCurrent
  split <;> infer_instance

theorem isCurrent_bind (s : Session) (source : Source) : (s.bind source).IsCurrent := by
  simp only [IsCurrent, bind, Source.remaining_nextKind]
  exact Source.nextKind_fst _ _

theorem isCurrent_nextRaw {s t : Session} {token : Token}
    (h : s.nextRaw = (.ok (some token), t)) : t.IsCurrent := by
  obtain ⟨_, _, _, rest, -, -, -, -, rfl⟩ := nextRaw_eq_some h
  exact isCurrent_bind s rest

/-- A session whose pending kind is the right one extracts no empty token. -/
theorem text_ne_empty_of_nextRaw {s t : Session} {token : Token} (hs : s.IsCurrent)
    (h : s.nextRaw = (.ok (some token), t)) : token.text.toList ≠ [] := by
  obtain ⟨kind, source, text, rest, hpending, hsource, he, rfl, -⟩ := nextRaw_eq_some h
  simp only [IsCurrent, hsource, hpending] at hs
  rw [String.toList_ofList]
  exact Source.extract_ne_nil hs.symm he

/-- What asking for a token comes to. -/
structure Advance where
  /-- The tokens of white space that were passed over. -/
  passed : List Token
  /-- The token, or nothing at the end, or the construct that was left open. -/
  result : Except Unterminated (Option Token)
  /-- The session afterwards. -/
  session : Session

theorem toList_ne_nil_of_isWhitespace {token : Token} (h : token.isWhitespace = true) :
    token.text.toList ≠ [] := by
  rw [Token.isWhitespace] at h
  split at h
  · simp at h
  · next hc => simp [hc]

/-- The next token that does not start with white space. -/
def next (s : Session) : Advance :=
  match _h : s.nextRaw with
  | (.ok (some token), t) =>
    if _hw : token.isWhitespace then
      let a := t.next
      { a with passed := token :: a.passed }
    else ⟨[], .ok (some token), t⟩
  | (result, t) => ⟨[], result, t⟩
termination_by s.remaining.length
decreasing_by
  have hpos := List.length_pos_iff.2 (toList_ne_nil_of_isWhitespace _hw)
  rw [remaining_nextRaw _h, List.length_append]
  omega

/-- What asking for a token comes to, as an item of a stream: the end is no item. -/
def Advance.item (a : Advance) : Option (Except Unterminated Token) :=
  match a.result with
  | .ok (some token) => some (.ok token)
  | .ok none => none
  | .error e => some (.error e)

/-- The next token, with white space counting as a token or not. -/
def advance (s : Session) (raw : Bool) : Advance :=
  if raw then ⟨[], s.nextRaw.1, s.nextRaw.2⟩ else s.next

/-! ### Whole scans -/

/-- What remains to be scanned, and whether the pending kind has yet to be put right: one of the
two gets less with each token. -/
def toDo (s : Session) : Nat := 2 * s.remaining.length + if s.IsCurrent then 0 else 1

theorem toDo_nextRaw {s t : Session} {token : Token} (h : s.nextRaw = (.ok (some token), t)) :
    t.toDo < s.toDo := by
  have ht := isCurrent_nextRaw h
  have hlen := congrArg List.length (remaining_nextRaw h)
  rw [List.length_append] at hlen
  unfold toDo
  rw [if_pos ht]
  -- a token of no characters is still progress if it puts the pending kind right
  by_cases hs : s.IsCurrent
  · have := List.length_pos_iff.2 (text_ne_empty_of_nextRaw hs h)
    omega
  · rw [if_neg hs]
    omega

theorem toDo_next {s t : Session} {passed : List Token} {token : Token}
    (h : s.next = ⟨passed, .ok (some token), t⟩) : t.toDo < s.toDo := by
  fun_induction next s generalizing passed with
  | case1 s token' u hraw hw a =>
    rename_i ih
    simp only [Advance.mk.injEq] at h
    refine Nat.lt_trans (@ih a.passed ?_) (toDo_nextRaw hraw)
    rw [← h.2.1, ← h.2.2]
  | case2 s token' u hraw hw =>
    simp only [Advance.mk.injEq, Except.ok.injEq, Option.some.injEq] at h
    obtain ⟨_, rfl, rfl⟩ := h
    exact toDo_nextRaw hraw
  | case3 s result u hne hraw =>
    simp only [Advance.mk.injEq] at h
    obtain ⟨_, rfl, rfl⟩ := h
    exact toDo_nextRaw hraw

theorem toDo_advance {s t : Session} {raw : Bool} {passed : List Token} {token : Token}
    (h : s.advance raw = ⟨passed, .ok (some token), t⟩) : t.toDo < s.toDo := by
  rw [advance] at h
  split at h
  · simp only [Advance.mk.injEq] at h
    exact toDo_nextRaw (Prod.ext h.2.1 h.2.2)
  · exact toDo_next h

/-- What a scan through the end comes to. -/
structure Scan where
  /-- The tokens that were asked for. -/
  tokens : List Token
  /-- Every token that was extracted, the white space that was passed over included. -/
  extracted : List Token
  /-- The construct that was left open, if the scan ended with one. -/
  error : Option Unterminated
  /-- The session afterwards. -/
  session : Session

/-- Asks for tokens until there is none. -/
def scan (s : Session) (raw : Bool) : Scan :=
  match _h : s.advance raw with
  | ⟨passed, .ok (some token), t⟩ =>
    let rest := t.scan raw
    { rest with
      tokens := token :: rest.tokens
      extracted := passed ++ token :: rest.extracted }
  | ⟨passed, .ok none, t⟩ => ⟨[], passed, none, t⟩
  | ⟨passed, .error e, t⟩ => ⟨[], passed, some e, t⟩
termination_by s.toDo
decreasing_by exact toDo_advance _h

/-- The tokens left without white space, or the construct that was left open. -/
def Scan.result (r : Scan) : Except Unterminated (List Token) :=
  match r.error with
  | none => .ok r.tokens
  | some e => .error e

end Session

end TokenScan

import TokenScan.Proofs.Context
import TokenScan.Proofs.Session.Scan
/-!
# Tokens printed with white space between them are scanned again

Tokens may come from many texts. Printed one after the other with white space in between (`Spaced`),
they make up a text whose scan gives them back: the same kinds and texts, in order, and no error
(`scan_spaced`). Whatever stood behind a token in its own text, white space or the end stands there
now, and that cuts it off in the same way (`SymbolTable.Cuts.of_blank`).

The lone quote is the exception. It is a token only at the end of a text, as a quote with something
behind it opens a string, so it can be printed only at the end.
-/

namespace TokenScan

open Text

variable {symbols : SymbolTable} {k : TokenKind} {cs text rest blank : List Char}

/-- Whether a scan with some symbols gives a token, whatever the text and whether white space is
asked for or not. -/
def SymbolTable.Emits (symbols : SymbolTable) (token : Token) : Prop :=
  ∃ source raw, token ∈ (((Session.withSymbols symbols).bind source).scan raw).tokens

/-- Whether all characters are white space. -/
def IsBlank (cs : List Char) : Prop := ∀ c ∈ cs, isWhitespace c = true

instance (cs : List Char) : Decidable (IsBlank cs) :=
  decidable_of_iff (cs.all isWhitespace = true) List.all_eq_true

/-- The texts in which tokens stand one after the other, with white space between them. -/
inductive Spaced : List Token → List Char → Prop where
  /-- No token. -/
  | nil : Spaced [] []
  /-- One token. -/
  | single (token : Token) : Spaced [token] token.text.toList
  /-- A token, white space, and other tokens. -/
  | cons (token : Token) {next : Token} {tokens : List Token} {blank cs : List Char}
      (hne : blank ≠ []) (hblank : IsBlank blank) (hrest : Spaced (next :: tokens) cs) :
      Spaced (token :: next :: tokens) (token.text.toList ++ (blank ++ cs))

/-! ### Tokens that a scan gives -/

/-- A token that a scan gives is cut off the text that it stands in. -/
theorem SymbolTable.Emits.exists_cuts {token : Token} (h : symbols.Emits token) :
    ∃ rest, symbols.Cuts token.kind token.text.toList rest := by
  obtain ⟨source, raw, hmem⟩ := h
  have hs := Session.isCurrent_bind (.withSymbols symbols) source
  rw [Session.tokens_scan] at hmem
  obtain ⟨t, hrun, -⟩ := Session.run_scan ((Session.withSymbols symbols).bind source) raw
  obtain ⟨before, u, v, hbefore, hnext⟩ := hrun.exists_of_mem (List.mem_filter.1 hmem).1
  have hstep := Session.step_nextRaw (hbefore.isCurrent hs)
  rw [hnext] at hstep
  cases hstep with
  | @token k text _ hkind htext _ hremaining _ _ _ =>
    refine ⟨v.remaining, ?_⟩
    rw [hbefore.symbols, hremaining] at hkind htext
    rw [String.toList_ofList]
    exact ⟨hkind, htext⟩

/-- White space is cut off in front of anything else. -/
theorem SymbolTable.Cuts.whitespace (hne : blank ≠ []) (hblank : IsBlank blank)
    (hcs : ∀ c ∈ cs.head?, isWhitespace c = false) : symbols.Cuts .whitespace blank cs where
  firstMatch := by
    obtain ⟨c, tail, rfl⟩ := List.exists_cons_of_ne_nil hne
    have hfirst : ∀ j : TokenKind, ¬ j.rank < TokenKind.whitespace.rank := by
      intro j
      cases j <;> decide
    exact ⟨.whitespace (hblank c List.mem_cons_self), fun j hj ↦ absurd hj (hfirst j)⟩
  isLexeme := by
    have hself : symbols.IsLexeme .whitespace blank blank :=
      ⟨List.prefix_refl blank, hblank, fun _ hu _ ↦ hu.length_le⟩
    refine isLexeme_append_iff.2 ⟨hself, fun c hc ↦ ?_⟩
    have hspace := hcs c hc
    exact Bool.eq_false_iff.1 hspace

/-- A token that is cut off starts with white space exactly if that is its kind. -/
theorem SymbolTable.Cuts.isWhitespace_eq (h : symbols.Cuts k text rest) (line : UInt32) :
    (⟨k, String.ofList text, line⟩ : Token).isWhitespace = decide (k = .whitespace) := by
  obtain ⟨c, tail, rfl⟩ := List.exists_cons_of_ne_nil h.ne_nil
  rw [Token.isWhitespace, String.toList_ofList]
  show Text.isWhitespace c = _
  by_cases hk : k = .whitespace
  · subst hk
    rw [decide_eq_true rfl]
    exact SymbolTable.matches_whitespace_iff.1 h.firstMatch.isMatch
  · rw [decide_eq_false hk]
    exact h.isWhitespace_head hk c rfl

/-! ### Texts that read as tokens -/

/-- What a token is, wherever it stands. -/
def Token.content (token : Token) : TokenKind × String := (token.kind, token.text)

/-- Whether a text is cut to its end, on any line, into tokens that are the given ones but for white
space in between. -/
def ReadsAs (symbols : SymbolTable) (cs : List Char) (tokens : List Token) : Prop :=
  ∀ line, ∃ raw, Segmentation symbols line cs raw none ∧
    (raw.filter (!·.isWhitespace)).map Token.content = tokens.map Token.content

namespace ReadsAs

variable {tokens : List Token}

theorem nil : ReadsAs symbols [] [] := fun _ ↦ ⟨[], .done, rfl⟩

/-- A token that is cut off is read before the tokens of what follows it. -/
theorem cons {token : Token} (h : symbols.Cuts token.kind token.text.toList rest)
    (hk : token.kind ≠ .whitespace) (hrest : ReadsAs symbols rest tokens) :
    ReadsAs symbols (token.text.toList ++ rest) (token :: tokens) := by
  intro line
  obtain ⟨raw, hraw, hcontent⟩ := hrest (lineAfter line token.text.toList)
  refine ⟨_, .token h.firstMatch h.isLexeme rfl hraw, ?_⟩
  have hspace := h.isWhitespace_eq line
  rw [decide_eq_false hk] at hspace
  rw [List.filter_cons_of_pos (by rw [hspace]; rfl), List.map_cons, List.map_cons, hcontent,
    String.ofList_toList]
  rfl

/-- White space in front of a text is passed over. -/
theorem blank_append (hblank : IsBlank blank) (hcs : ∀ c ∈ cs.head?, isWhitespace c = false)
    (h : ReadsAs symbols cs tokens) : ReadsAs symbols (blank ++ cs) tokens := by
  intro line
  by_cases hne : blank = []
  · subst hne
    exact h line
  · have hcuts : symbols.Cuts .whitespace blank cs := .whitespace hne hblank hcs
    obtain ⟨raw, hraw, hcontent⟩ := h (lineAfter line blank)
    refine ⟨_, .token hcuts.firstMatch hcuts.isLexeme rfl hraw, ?_⟩
    have hspace := hcuts.isWhitespace_eq line
    rw [decide_eq_true rfl] at hspace
    rw [List.filter_cons_of_neg (by rw [hspace]; decide), hcontent]

/-- A text that reads as tokens is scanned as these tokens. -/
theorem scan {s : Session} (hs : s.IsCurrent) (h : ReadsAs s.symbols s.remaining tokens) :
    (s.scan false).tokens.map Token.content = tokens.map Token.content ∧
      (s.scan false).error = none := by
  obtain ⟨raw, hraw, hcontent⟩ := h s.line
  obtain ⟨htokens, herror⟩ := Session.scan_of_segmentation hs hraw
  obtain ⟨hfilter, hsame, -⟩ := s.scan_false
  exact ⟨by rw [hfilter, htokens, hcontent], hsame.trans herror⟩

end ReadsAs

/-! ### The printed text -/

/-- Whether a token is a quote that opens no string. -/
def Token.IsLoneQuote (token : Token) : Prop := token.kind = .punctuation ∧ token.text = "\""

instance (token : Token) : Decidable token.IsLoneQuote :=
  inferInstanceAs (Decidable (_ ∧ _))

namespace Spaced

variable {tokens : List Token}

/-- A printed text does not start with white space. -/
theorem isWhitespace_head (h : Spaced tokens cs)
    (hcuts : ∀ token ∈ tokens, ∃ rest, symbols.Cuts token.kind token.text.toList rest)
    (hkinds : ∀ token ∈ tokens, token.kind ≠ .whitespace) :
    ∀ c ∈ cs.head?, isWhitespace c = false := by
  cases h with
  | nil => exact nofun
  | single token =>
    obtain ⟨rest, h⟩ := hcuts token List.mem_cons_self
    exact h.isWhitespace_head (hkinds token List.mem_cons_self)
  | cons token _ _ _ =>
    obtain ⟨rest, h⟩ := hcuts token List.mem_cons_self
    rw [List.head?_append_of_ne_nil _ h.ne_nil]
    exact h.isWhitespace_head (hkinds token List.mem_cons_self)

/-- **A printed text reads as the tokens that were printed.** -/
theorem readsAs (h : Spaced tokens cs) (hsymbols : symbols.Blankless)
    (hcuts : ∀ token ∈ tokens, ∃ rest, symbols.Cuts token.kind token.text.toList rest)
    (hkinds : ∀ token ∈ tokens, token.kind ≠ .whitespace)
    (hquote : ∀ token ∈ tokens.dropLast, ¬ token.IsLoneQuote) : ReadsAs symbols cs tokens := by
  induction h with
  | nil => exact .nil
  | single token =>
    obtain ⟨rest, h⟩ := hcuts token List.mem_cons_self
    have hk := hkinds token List.mem_cons_self
    have hend : symbols.Cuts token.kind token.text.toList [] :=
      h.of_blank hsymbols nofun hk fun _ _ ↦ rfl
    have hread := ReadsAs.cons hend hk .nil
    rwa [List.append_nil] at hread
  | @cons token next tokens blank cs hne hblank hspaced ih =>
    obtain ⟨⟨rest, h⟩, hcuts⟩ := List.forall_mem_cons.1 hcuts
    obtain ⟨hk, hkinds⟩ := List.forall_mem_cons.1 hkinds
    rw [List.dropLast_cons_cons] at hquote
    obtain ⟨hlone, hquote⟩ := List.forall_mem_cons.1 hquote
    -- white space follows the token now, and a quote that would open a string is ruled out
    have hstarts : SymbolTable.StartsBlank (blank ++ cs) := by
      rw [SymbolTable.StartsBlank, List.head?_append_of_ne_nil _ hne]
      exact fun c hc ↦ hblank c (List.mem_of_mem_head? hc)
    have hcut : symbols.Cuts token.kind token.text.toList (blank ++ cs) :=
      h.of_blank hsymbols hstarts hk fun hpunctuation htext ↦
        absurd ⟨hpunctuation, String.toList_inj.1 htext⟩ hlone
    have hread := ih hcuts hkinds hquote
    exact .cons hcut hk (hread.blank_append hblank (hspaced.isWhitespace_head hcuts hkinds))

end Spaced

/-- **Tokens that are printed with white space between them are scanned again**, with the same kinds
and texts, in the same order and without an error. Each of them may come from a text of its own; no
registered symbol holds white space, and a lone quote stands at the end if at all. -/
theorem Session.scan_spaced (symbols : SymbolTable) (tokens : List Token) (lead cs : List Char)
    (source : Source) (hsymbols : symbols.Blankless)
    (hemits : ∀ token ∈ tokens, symbols.Emits token)
    (hkinds : ∀ token ∈ tokens, token.kind ≠ .whitespace)
    (hquote : ∀ token ∈ tokens.dropLast, ¬ token.IsLoneQuote)
    (hlead : IsBlank lead) (hspaced : Spaced tokens cs) (hsource : source.remaining = lead ++ cs) :
    let r := ((withSymbols symbols).bind source).scan false
    r.tokens.map Token.content = tokens.map Token.content ∧ r.error = none := by
  have hcuts : ∀ token ∈ tokens, ∃ rest, symbols.Cuts token.kind token.text.toList rest :=
    fun token hmem ↦ (hemits token hmem).exists_cuts
  have hread : ReadsAs symbols cs tokens := hspaced.readsAs hsymbols hcuts hkinds hquote
  have hall := hread.blank_append hlead (hspaced.isWhitespace_head hcuts hkinds)
  refine ReadsAs.scan (isCurrent_bind _ _) ?_
  rw [symbols_bind, remaining_bind, hsource]
  exact hall

/-- Tokens of four texts: a comment that ended a line, half of a symbol that a letter followed, a
string that holds the marker of a comment, and a quote that ended its text. -/
theorem Session.scan_spaced_of_lone_quote_last :
    let symbols := SymbolTable.standard
    let tokens : List Token := [⟨.lineComment, "//a\n", 1⟩, ⟨.symbolRun, "<", 2⟩,
      ⟨.quotedString, "\"/*\"", 1⟩, ⟨.punctuation, "\"", 1⟩]
    let text := " //a\n\n<\t\"/*\" \""
    symbols.Blankless ∧ (∀ token ∈ tokens, symbols.Emits token) ∧
      (∀ token ∈ tokens, token.kind ≠ .whitespace) ∧
      (∀ token ∈ tokens.dropLast, ¬ token.IsLoneQuote) ∧
      let r := ((withSymbols symbols).bind (.ofFeed (.ofList text.toList))).scan false
      r.tokens.map Token.content = tokens.map Token.content ∧ r.error = none := by
  intro symbols tokens text
  have hsymbols : symbols.Blankless := by decide +kernel
  have hemits : ∀ token ∈ tokens, symbols.Emits token := by
    have gives (token : Token) (text : String)
        (h : token ∈ (((withSymbols symbols).bind (.ofText text)).scan true).tokens) :
        symbols.Emits token := ⟨_, true, h⟩
    simp only [tokens, List.forall_mem_cons, List.not_mem_nil, false_implies, implies_true, and_true]
    refine ⟨gives _ "//a\n#" (by decide +kernel), gives _ "\n<a" (by decide +kernel),
      gives _ "\"/*\"b\n" (by decide +kernel), gives _ "a\"" (by decide +kernel)⟩
  have hkinds : ∀ token ∈ tokens, token.kind ≠ .whitespace := by decide
  have hquote : ∀ token ∈ tokens.dropLast, ¬ token.IsLoneQuote := by decide
  have hline : IsBlank ['\n'] := by decide
  have htab : IsBlank ['\t'] := by decide
  have hspace : IsBlank [' '] := by decide
  have hspaced : Spaced tokens "//a\n\n<\t\"/*\" \"".toList :=
    .cons _ (by decide) hline (.cons _ (by decide) htab (.cons _ (by decide) hspace (.single _)))
  have h := scan_spaced symbols tokens [' '] _ (.ofFeed (.ofList text.toList)) hsymbols hemits hkinds
    hquote hspace hspaced (by decide)
  exact ⟨hsymbols, hemits, hkinds, hquote, h⟩

end TokenScan

import TokenScan.Proofs.Session.Run
import TokenScan.Proofs.Session.Stability
/-!
# An open construct is repaired by its closing marker

A scan that ends in an open construct says which terminator the text lacks. Put behind the text, the
terminator changes nothing of what was scanned, and turns the construct into one more token. Three
things could go wrong, and each has its lemma.

* **A token in front of the construct** could be cut off in another way. It is not, as the construct
  stands behind it (`SymbolTable.Cuts.append_right`).
* **The construct** could become something else. Two characters decide what it is, and all but a lone
  number sign are two characters long (`SymbolTable.eq_directive_of_length_lt_two`). A number sign
  stays a directive unless it is a registered digraph with the line feed behind it
  (`SymbolTable.FirstMatch.directive_newline`); `SymbolTable.closedKind` says so.
* **The terminator** could be found too early, in part within the construct. No closing marker
  overlaps with itself (`Construct.isUnbordered_closing`), so it is not
  (`SymbolTable.isLexeme_append_closing`).

`Segmentation.exists_repaired` puts them together, by induction on how the text is cut, and
`Session.scan_append_closing` says it of scans.
-/

namespace TokenScan

open Text

theorem Construct.isUnbordered_closing (c : Construct) : IsUnbordered c.closing := by
  cases c <;> decide

namespace SymbolTable

variable {symbols : SymbolTable} {c : Construct} {k : TokenKind} {cs missing : List Char}

/-- An open construct becomes a lexeme when its closing marker is put behind it. -/
theorem isLexeme_append_closing (h : c.IsOpen missing) :
    symbols.IsLexeme c.kind (missing ++ c.closing) (missing ++ c.closing) := by
  obtain ⟨body, rfl, hopen⟩ := h
  rw [List.append_assoc]
  exact (isLexeme_construct_iff c).2
    ⟨_, rfl, isShortest_append_marker c.isUnbordered_closing hopen⟩

/-- The kind of token that an open construct becomes with its closing marker. It is the kind of the
construct, unless that is a lone number sign which makes a registered digraph with the line feed. -/
def closedKind (symbols : SymbolTable) (c : Construct) (missing : List Char) : TokenKind :=
  if missing = ['#'] ∧ String.ofList ['#', '\n'] ∈ symbols.digraphs then .digraph else c.kind

/-- Of the constructs, only a directive can be open after a single character. -/
theorem eq_directive_of_length_lt_two (hkind : symbols.FirstMatch c.kind missing)
    (hlen : missing.length < 2) : c = .directive ∧ missing = ['#'] := by
  obtain ⟨x, rfl⟩ : ∃ x, missing = [x] := by
    have hpos := List.length_pos_iff.2 hkind.ne_nil
    exact List.length_eq_one_iff.1 (by omega)
  have hm := hkind.isMatch
  cases c with
  | lineComment => exact absurd (matches_lineComment_iff.1 hm).2 (by simp)
  | blockComment => exact absurd (matches_blockComment_iff.1 hm).2 (by simp)
  | quotedString => exact absurd (matches_quotedString_iff.1 hm).2 (by simp)
  | directive => exact ⟨rfl, by rw [matches_directive_iff.1 hm]⟩

/-- A number sign that a line feed follows now stays a directive, unless the two of them are a
digraph. -/
theorem FirstMatch.directive_newline (hkind : symbols.FirstMatch .directive ['#'])
    (hpair : String.ofList ['#', '\n'] ∉ symbols.digraphs) :
    symbols.FirstMatch .directive ['#', '\n'] where
  isMatch := .directive
  first := by
    intro j hj hm
    cases hm with
    | whitespace h => exact hkind.first _ hj (.whitespace h)
    | alphanumeric h => exact hkind.first _ hj (.alphanumeric h)
    | symbolRun h => exact hkind.first _ hj (.symbolRun h)
    | digraph h => exact hpair h
    | directive => exact hkind.first _ hj .directive
    | punctuation => exact hkind.first _ hj .punctuation

/-- **An open construct with its closing marker is a token as a whole.** -/
theorem isToken_append_closing (hkind : symbols.FirstMatch c.kind missing)
    (hopen : c.IsOpen missing) :
    symbols.FirstMatch (symbols.closedKind c missing) (missing ++ c.closing) ∧
      symbols.IsLexeme (symbols.closedKind c missing) (missing ++ c.closing)
        (missing ++ c.closing) := by
  have hlone := eq_directive_of_length_lt_two hkind
  rw [closedKind]
  split
  · next hpair =>
    obtain ⟨rfl, hpair⟩ := hpair
    obtain ⟨rfl, -⟩ := hlone (by decide)
    exact ⟨firstMatch_digraph rfl rfl hpair, List.prefix_refl _, rfl⟩
  · next hpair =>
    refine ⟨?_, isLexeme_append_closing hopen⟩
    by_cases hlen : missing.length < 2
    · obtain ⟨rfl, rfl⟩ := hlone hlen
      exact hkind.directive_newline fun h ↦ hpair ⟨rfl, h⟩
    · -- the two characters that decide the kind are there already
      have htake : missing.take 2 = (missing ++ c.closing).take 2 :=
        (List.take_append_of_le_length (Nat.le_of_not_lt hlen)).symm
      exact (firstMatch_congr htake).1 hkind

/-- A kind that comes first and has no lexeme is that of an open construct. -/
theorem exists_isOpen (hkind : symbols.FirstMatch k cs)
    (htext : ∀ text, ¬ symbols.IsLexeme k cs text) : ∃ c : Construct, c.kind = k ∧ c.IsOpen cs := by
  have hcs : (Source.ofFeed (.ofList cs)).remaining = cs := Feed.content_ofList cs
  have hextract := Source.extract_of_firstMatch (s := .ofFeed (.ofList cs)) (hcs.symm ▸ hkind)
  rw [hcs] at hextract
  rcases hextract with ⟨text, hlex, -⟩ | ⟨hopen, -⟩
  · exact absurd hlex (htext text)
  · exact hopen

end SymbolTable

namespace Segmentation

variable {symbols : SymbolTable} {line : UInt32} {cs : List Char} {tokens : List Token}
  {e : Unterminated}

/-- What is known of a text that ends in an open construct: which construct it is, where it stands,
and what the text is cut into with the closing marker behind it. -/
structure Repaired (symbols : SymbolTable) (line : UInt32) (cs : List Char) (tokens : List Token)
    (e : Unterminated) (c : Construct) (missing : List Char) : Prop where
  /-- It is the construct that is reported. -/
  kind : e.construct = c.kind
  /-- It starts on the line that is reported. -/
  starts : e.line = lineAfter line (texts tokens)
  /-- It is what the tokens lack of the text. -/
  text : texts tokens ++ missing = cs
  /-- It has no closing marker. -/
  isOpen : c.IsOpen missing
  /-- With the closing marker it is one more token, and the text is cut to its end. -/
  closed : Segmentation symbols line (cs ++ c.closing)
    (tokens ++ [⟨symbols.closedKind c missing, String.ofList (missing ++ c.closing), e.line⟩]) none

/-- **A text that ends in an open construct is cut in the same way with the closing marker behind
it, and the construct is one more token.** -/
theorem exists_repaired (h : Segmentation symbols line cs tokens (some e)) :
    ∃ c missing, Repaired symbols line cs tokens e c missing := by
  generalize hopen : some e = open? at h
  induction h with
  | done => cases hopen
  | @token line k cs text rest tokens open? hkind htext hcs hrest ih =>
    subst hcs hopen
    obtain ⟨c, missing, hrepaired⟩ := ih rfl
    have hbehind : rest ≠ [] := by
      rintro rfl
      cases hrest.of_nil.2
    have hcuts : symbols.Cuts k text rest := ⟨hkind, htext⟩
    have hmore : symbols.Cuts k text (rest ++ c.closing) := hcuts.append_right hbehind c.closing
    refine ⟨c, missing, hrepaired.kind, ?_, ?_, hrepaired.isOpen, ?_⟩
    · rw [hrepaired.starts, texts_cons, String.toList_ofList, lineAfter_append]
    · rw [texts_cons, String.toList_ofList, List.append_assoc, hrepaired.text]
    · have hcut := hrepaired.closed
      rw [List.append_assoc]
      exact .token hmore.firstMatch hmore.isLexeme rfl hcut
  | @unterminated line k cs hkind htext =>
    obtain ⟨c, rfl, hmissing⟩ := SymbolTable.exists_isOpen hkind htext
    obtain rfl := Option.some.inj hopen
    refine ⟨c, cs, rfl, (lineAfter_nil line).symm, rfl, hmissing, ?_⟩
    obtain ⟨hkind', htext'⟩ := SymbolTable.isToken_append_closing hkind hmissing
    exact .token hkind' htext' (List.append_nil _).symm .done

end Segmentation

namespace Session

/-- A text that is not empty keeps what it has behind its byte order mark if more text comes. -/
theorem withoutMark_append_of_ne_nil {cs : List Char} (h : cs ≠ []) (more : List Char) :
    Source.withoutMark (cs ++ more) = Source.withoutMark cs ++ more := by
  obtain ⟨c, cs, rfl⟩ := List.exists_cons_of_ne_nil h
  rw [List.cons_append, Source.withoutMark, Source.withoutMark]
  split <;> rfl

/-- A source in which a construct is open is repaired by its closing marker. -/
theorem scan_append_of_open (symbols : SymbolTable) (source : Source) {e : Unterminated}
    (h : (((withSymbols symbols).bind source).scan true).error = some e) :
    ∃ (c : Construct) (missing : List Char),
      let tokens := (((withSymbols symbols).bind source).scan true).tokens
      e.construct = c.kind ∧ e.line = lineAfter source.line (texts tokens) ∧
        texts tokens ++ missing = source.remaining ∧ c.IsOpen missing ∧
        ∀ longer : Source, longer.line = source.line →
          longer.remaining = source.remaining ++ c.closing →
          let repaired := ((withSymbols symbols).bind longer).scan true
          repaired.error = none ∧ repaired.tokens = tokens ++
            [⟨symbols.closedKind c missing, String.ofList (missing ++ c.closing), e.line⟩] := by
  have hcut := (segmentation_iff_scan (withSymbols symbols) source _ _).2 ⟨rfl, h⟩
  obtain ⟨c, missing, hrepaired⟩ := hcut.exists_repaired
  refine ⟨c, missing, hrepaired.kind, hrepaired.starts, hrepaired.text, hrepaired.isOpen, ?_⟩
  intro longer hline hremaining repaired
  have hclosed := hrepaired.closed
  rw [← hline, ← hremaining] at hclosed
  exact ((segmentation_iff_scan (withSymbols symbols) longer _ _).1 hclosed).symm

/-- **A scan that a construct left open ended is repaired by the closing marker of the construct.**
What is reported is precise: the construct is what the tokens lack of the text, it has no closing
marker, and it bears its line. With the closing marker behind the text, the scan ends with the text.
It gives the same tokens and then the construct as one more, on the line that was reported and of the
kind that was reported, or a digraph if a lone number sign makes one with the line feed. It does not
matter whether the text is bound as a text, which leaves out a byte order mark, or as a stream of
characters. -/
theorem scan_append_closing (symbols : SymbolTable) (bound : String → Source)
    (hbound : bound = Source.ofText ∨ bound = fun text ↦ .ofFeed (.ofList text.toList))
    (text : String) (e : Unterminated)
    (h : (((withSymbols symbols).bind (bound text)).scan true).error = some e) :
    ∃ (c : Construct) (missing : List Char),
      let raw := fun text ↦ ((withSymbols symbols).bind (bound text)).scan true
      let tokens := (raw text).tokens
      let repaired := raw (text ++ String.ofList c.closing)
      e.construct = c.kind ∧ e.line = lineAfter 1 (texts tokens) ∧
        texts tokens ++ missing = (bound text).remaining ∧ c.IsOpen missing ∧
        repaired.error = none ∧ repaired.tokens = tokens ++
          [⟨symbols.closedKind c missing, String.ofList (missing ++ c.closing), e.line⟩] := by
  obtain ⟨c, missing, hkind, hline, htext, hopen, hrepaired⟩ := scan_append_of_open symbols _ h
  have hlines (text : String) : (bound text).line = 1 := by
    rcases hbound with rfl | rfl <;> rfl
  have hlonger : (bound (text ++ String.ofList c.closing)).remaining =
      (bound text).remaining ++ c.closing := by
    have hne : (bound text).remaining ≠ [] :=
      htext ▸ List.append_ne_nil_of_right_ne_nil _ hopen.ne_nil
    rcases hbound with rfl | rfl
    · have htext : text.toList ≠ [] := by
        intro hnil
        rw [Source.remaining_ofText, hnil] at hne
        exact hne rfl
      rw [Source.remaining_ofText, Source.remaining_ofText, String.toList_append,
        String.toList_ofList, withoutMark_append_of_ne_nil htext]
    · simp only [Source.remaining_ofFeed, Feed.content_ofList, String.toList_append,
        String.toList_ofList]
  rw [hlines] at hline
  exact ⟨c, missing, hkind, hline, htext, hopen,
    hrepaired _ ((hlines _).trans (hlines _).symm) hlonger⟩

/-- A comment whose star opens it, and whose last star is no closing marker with the slash. -/
theorem scan_append_closing_of_slash_star :
    let symbols := SymbolTable.standard
    let raw := fun text ↦ ((withSymbols symbols).bind (.ofText text)).scan true
    (raw "x\n/*/*").error = some ⟨.blockComment, 2⟩ ∧
      ∃ (c : Construct) (missing : List Char),
        let tokens := (raw "x\n/*/*").tokens
        let repaired := raw ("x\n/*/*" ++ String.ofList c.closing)
        TokenKind.blockComment = c.kind ∧ (2 : UInt32) = lineAfter 1 (texts tokens) ∧
          texts tokens ++ missing = (Source.ofText "x\n/*/*").remaining ∧ c.IsOpen missing ∧
          repaired.error = none ∧ repaired.tokens = tokens ++
            [⟨symbols.closedKind c missing, String.ofList (missing ++ c.closing), 2⟩] := by
  intro symbols raw
  have h : (raw "x\n/*/*").error = some ⟨.blockComment, 2⟩ := by decide +kernel
  exact ⟨h, scan_append_closing symbols .ofText (.inl rfl) _ _ h⟩

/-- A number sign at the end of a text is an open directive, and makes a digraph with a line feed if
the two of them are registered. -/
example :
    let symbols := (SymbolTable.standard.registerDigraph "#\n").2
    let raw := fun text ↦ ((withSymbols symbols).bind (.ofText text)).scan true
    (raw "\n#").error = some ⟨.directive, 2⟩ ∧
      (raw "\n#\n").tokens = [⟨.whitespace, "\n", 1⟩, ⟨.digraph, "#\n", 2⟩] := by
  decide +kernel

end Session

end TokenScan

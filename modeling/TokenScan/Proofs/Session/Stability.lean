import TokenScan.Proofs.Context
import TokenScan.Proofs.Session.Segmentation
/-!
# More input does not revise what is settled

A text may arrive piece by piece. What has been cut off it stays as it is when more comes, with one
exception: **the last token of a text that ends with a token** may turn out longer, or of another
kind, as nothing stood behind it yet. The tokens before an open construct are all settled, as the
construct stands behind them. `settled` are the tokens without the exception.

`Segmentation.settled_prefix` says so of the grammar, by induction on how the shorter text is cut: a
token with something behind it is cut off the longer text in the same way
(`SymbolTable.Cuts.append_right`). `settled_prefix_scan` says it of scans.
-/

namespace TokenScan

/-- The tokens that stay if more text comes: those with something behind them. -/
def settled (tokens : List Token) : Option Unterminated → List Token
  | none => tokens.dropLast
  | some _ => tokens

namespace Segmentation

variable {symbols : SymbolTable} {line : UInt32} {cs ds more : List Char}
  {tokens tokens' : List Token} {open? open?' : Option Unterminated}

theorem of_nil (h : Segmentation symbols line [] tokens open?) : tokens = [] ∧ open? = none := by
  generalize hcs : ([] : List Char) = cs at h
  cases h with
  | done => exact ⟨rfl, rfl⟩
  | token hkind _ _ _ => exact absurd hcs.symm hkind.ne_nil
  | unterminated hkind _ => exact absurd hcs.symm hkind.ne_nil

/-- A token that something stands behind is settled. -/
theorem settled_cons (h : Segmentation symbols line cs tokens open?) (hcs : cs ≠ [])
    (token : Token) : settled (token :: tokens) open? = token :: settled tokens open? := by
  cases h with
  | done => exact absurd rfl hcs
  | @token _ _ _ _ _ _ open? _ _ _ _ => cases open? <;> rfl
  | unterminated _ _ => rfl

/-- **What is settled of a text is cut off every longer text.** -/
theorem settled_prefix (h : Segmentation symbols line cs tokens open?)
    (h' : Segmentation symbols line ds tokens' open?') (hds : ds = cs ++ more) :
    settled tokens open? <+: tokens' := by
  induction h generalizing ds tokens' open?' with
  | done => exact List.nil_prefix
  | unterminated _ _ => exact List.nil_prefix
  | @token line k cs text rest tokens open? hkind htext hcs hrest ih =>
    subst hcs
    by_cases hbehind : rest = []
    · -- nothing stands behind the token, and it is the last one
      subst hbehind
      obtain ⟨rfl, rfl⟩ := hrest.of_nil
      exact List.nil_prefix
    · have hcuts : symbols.Cuts k text rest := ⟨hkind, htext⟩
      have hmore : symbols.Cuts k text (rest ++ more) := hcuts.append_right hbehind more
      have hsame : ds = text ++ (rest ++ more) := hds.trans (List.append_assoc _ _ _)
      have hkind' : symbols.FirstMatch k ds := hsame ▸ hmore.firstMatch
      have htext' : symbols.IsLexeme k ds text := hsame ▸ hmore.isLexeme
      rw [hrest.settled_cons hbehind]
      cases h' with
      | done => exact absurd rfl hkind'.ne_nil
      | token hk ht hcut hrest' =>
        obtain rfl := hkind'.unique hk
        obtain rfl := htext'.unique ht
        have hleft := List.append_cancel_left (hcut.symm.trans hsame)
        exact (List.prefix_cons_inj _).2 (ih hrest' hleft)
      | unterminated hk hnone =>
        obtain rfl := hkind'.unique hk
        exact absurd htext' (hnone text)

end Segmentation

namespace Session

/-- The tokens of a scan that stay if more text comes. -/
def Scan.settled (r : Scan) : List Token := TokenScan.settled r.tokens r.error

/-- What is settled of a source is what a scan of a longer source starts with. -/
theorem settled_prefix_of_append (s : Session) {source longer : Source} {more : List Char}
    (hline : longer.line = source.line) (htext : longer.remaining = source.remaining ++ more) :
    ((s.bind source).scan true).settled <+: ((s.bind longer).scan true).tokens := by
  have hshort := segmentation_scan (isCurrent_bind s source)
  have hlong := segmentation_scan (isCurrent_bind s longer)
  rw [remaining_bind, symbols_bind] at hshort hlong
  have hlines : (s.bind longer).line = (s.bind source).line :=
    (Source.line_nextKind _ _).trans (hline.trans (Source.line_nextKind _ _).symm)
  rw [hlines] at hlong
  exact hshort.settled_prefix hlong htext

/-- What a longer text has behind its byte order mark starts with what the text has there. -/
theorem withoutMark_append (cs more : List Char) :
    ∃ behind, Source.withoutMark (cs ++ more) = Source.withoutMark cs ++ behind := by
  rcases cs with - | ⟨c, cs⟩
  · exact ⟨Source.withoutMark more, rfl⟩
  · refine ⟨more, ?_⟩
    rw [List.cons_append, Source.withoutMark, Source.withoutMark]
    split <;> rfl

/-- **More text does not revise the tokens that are settled**, their kinds, texts and lines: if the
scan of a text ends with the text, these are all but the last token, and if it ends with an open
construct, they are all the tokens. It does not matter whether the text is bound as a text, which
leaves out a byte order mark, or as a stream of characters. -/
theorem settled_prefix_scan (symbols : SymbolTable) (text more : String) :
    let raw := fun source : Source ↦ ((withSymbols symbols).bind source).scan true
    let short := raw (.ofText text)
    let long := raw (.ofText (text ++ more))
    let shortStream := raw (.ofFeed (.ofList text.toList))
    let longStream := raw (.ofFeed (.ofList (text ++ more).toList))
    (short.error = none → short.tokens.dropLast <+: long.tokens) ∧
      (∀ e, short.error = some e → short.tokens <+: long.tokens) ∧
      (shortStream.error = none → shortStream.tokens.dropLast <+: longStream.tokens) ∧
      (∀ e, shortStream.error = some e → shortStream.tokens <+: longStream.tokens) := by
  intro raw short long shortStream longStream
  have htext : short.settled <+: long.tokens := by
    obtain ⟨behind, hbehind⟩ := withoutMark_append text.toList more.toList
    have hlonger : (Source.ofText (text ++ more)).remaining =
        (Source.ofText text).remaining ++ behind := by
      rw [Source.remaining_ofText, Source.remaining_ofText, String.toList_append, hbehind]
    exact settled_prefix_of_append _ rfl hlonger
  have hstream : shortStream.settled <+: longStream.tokens := by
    have hlonger : (Source.ofFeed (.ofList (text ++ more).toList)).remaining =
        (Source.ofFeed (.ofList text.toList)).remaining ++ more.toList := by
      simp only [Source.remaining_ofFeed, Feed.content_ofList, String.toList_append]
    exact settled_prefix_of_append _ rfl hlonger
  refine ⟨?_, ?_, ?_, ?_⟩
  · intro hnone
    rwa [Scan.settled, hnone] at htext
  · intro e he
    rwa [Scan.settled, he] at htext
  · intro hnone
    rwa [Scan.settled, hnone] at hstream
  · intro e he
    rwa [Scan.settled, he] at hstream

end Session

end TokenScan

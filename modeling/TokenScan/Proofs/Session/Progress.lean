import TokenScan.Proofs.Session.Reply
import TokenScan.Report.File
/-!
# Every scan makes progress

A token takes a character away, so no loop over tokens can go on for longer than there are
characters. What has to be shown is that no token is empty, and that is a matter of the pending kind:
the routines for punctuation, for digraphs and for constructs take nothing when the text is not what
they look for. `Source.Backs` says that it is, and `Source.backs_of_firstMatch` that **the kind which
comes first is always backed**. As the pending kind of a session is never stale
(`IsCurrent.performAll`), this holds whatever calls came before (`progress_performAll`).

The bound on the loops comes from `Run.length_le`, as each of them is a run and one more step.
-/

namespace TokenScan

open SymbolTable

/-- Whether a text backs a kind: what takes a token of that kind finds what it looks for. -/
structure Source.Backs (s : Source) (symbols : SymbolTable) (k : TokenKind) : Prop where
  /-- The text that is taken is not empty. -/
  text_ne_nil : (s.extract symbols k).1 ≠ .ok []
  /-- A digraph is still there when it is looked at again. -/
  digraph_found : k = .digraph → ∃ c d, (s.peek 0).1 = some c ∧ ((s.peek 0).2.peek 1).1 = some d ∧
    symbols.isDigraph c d = true ∧ (s.digraph symbols).1 = [c, d]
  /-- The opening marker of a construct is never absent. -/
  opening_found : ∀ c : Construct, k = c.kind → (s.readConstruct c).1 ≠ .ok none

/-- **The text backs the kind that comes first.** -/
theorem Source.backs_of_firstMatch {s : Source} {symbols : SymbolTable} {k : TokenKind}
    (h : symbols.FirstMatch k s.remaining) : s.Backs symbols k where
  text_ne_nil := by
    intro hnil
    have hext : s.extract symbols k = (.ok [], (s.extract symbols k).2) := Prod.ext hnil rfl
    exact extract_ne_nil h.kindAt hext rfl
  digraph_found := by
    rintro rfl
    obtain ⟨c, d, rest, hs, hd⟩ : ∃ c d rest, s.remaining = c :: d :: rest ∧
        symbols.isDigraph c d = true := by
      generalize s.remaining = cs at h
      rcases h.isMatch with _ | _ | hd
      exact ⟨_, _, _, rfl, isDigraph_iff.2 hd⟩
    refine ⟨c, d, ?_, ?_, hd, digraph_fst hs hd⟩
    · rw [peek_fst, hs, List.getElem?_cons_zero]
    · rw [peek_fst, remaining_peek, hs, List.getElem?_cons_succ, List.getElem?_cons_zero]
  opening_found := by
    rintro c rfl hnone
    obtain ⟨rest, hs⟩ := opening_of_firstMatch h
    rcases readConstruct_of_opening hs with ⟨body, -, hread⟩ | ⟨-, hread⟩
    · rw [hread] at hnone
      cases hnone
    · rw [hread] at hnone
      cases hnone

namespace Session

variable {s t u : Session} {tokens : List Token}

/-- What a step comes to if it makes progress. -/
inductive Progress (s : Session) : Except Unterminated (Option Token) × Session → Prop where
  /-- No character is left. -/
  | finished (hleft : s.remaining.length = 0) : Progress s (.ok none, s)
  /-- A token with some text is taken, and fewer characters are left. -/
  | token {token : Token} {t : Session} (htext : token.text ≠ "")
      (hlt : t.remaining.length < s.remaining.length) : Progress s (.ok (some token), t)
  /-- A construct is open, and afterwards no character is left. -/
  | unterminated {e : Unterminated} {t : Session} (hleft : t.remaining.length = 0) :
      Progress s (.error e, t)

/-- **Every step makes progress.** -/
theorem Step.progress {result : Except Unterminated (Option Token) × Session}
    (h : s.Step result) : s.Progress result := by
  cases h with
  | finished hremaining => exact .finished (List.length_eq_zero_iff.2 hremaining)
  | token _ _ hne hremaining _ _ _ =>
    have hpos := List.length_pos_iff.2 hne
    have hlen := congrArg List.length hremaining
    rw [List.length_append] at hlen
    refine .token ?_ (by omega)
    intro hempty
    exact hne (String.toList_ofList.symm.trans (congrArg String.toList hempty))
  | unterminated _ _ hleft _ _ _ => exact .unterminated (List.length_eq_zero_iff.2 hleft)

/-! ### The loops -/

/-- A run and one more step extract no more tokens than there are characters. -/
theorem Run.length_append_lastToken_le (h : Run s tokens t) (hs : s.IsCurrent)
    {last : Except Unterminated (Option Token)} (hlast : t.nextRaw = (last, u)) :
    (tokens ++ lastToken last).length ≤ s.remaining.length := by
  have hlen := h.length_le hs
  rcases last with e | - | token
  · rw [append_lastToken_error]
    omega
  · rw [append_lastToken_end]
    omega
  · have hmore := (h.append (.single hlast)).length_le hs
    exact Nat.le_of_add_right_le hmore

/-- Asking for a token extracts no more tokens than there are characters. -/
theorem length_extracted_next_le (hs : s.IsCurrent) :
    s.next.extracted.length ≤ s.remaining.length := by
  obtain ⟨t, hrun, hlast⟩ := run_next s
  rw [Advance.extracted_eq]
  exact hrun.length_append_lastToken_le hs hlast

/-- A scan extracts no more tokens than there are characters. -/
theorem length_extracted_scan_le (hs : s.IsCurrent) (raw : Bool) :
    (s.scan raw).extracted.length ≤ s.remaining.length := by
  obtain ⟨t, hrun, -⟩ := run_scan s raw
  have := hrun.length_le hs
  omega

end Session

/-- Scanning a file extracts no more tokens than its text has characters. -/
theorem FileScan.length_tokensOf_le (path : OsString) (symbols : SymbolTable) (raw : Bool)
    (source : Source) :
    (tokensOf (ofOpened path symbols raw (.ok source)).2).length ≤ source.remaining.length := by
  have h := Session.length_extracted_scan_le
    (Session.isCurrent_bind (.withSymbols symbols) source) raw
  rw [Session.remaining_bind] at h
  rw [ofOpened, tokensOf_append, tokensOf_append, tokensOf_extractions]
  show ([] ++ _ ++ []).length ≤ _
  rw [List.nil_append, List.append_nil]
  exact h

/-- **After any calls, a step makes progress and the text backs the pending kind.** So every run of
tokens is bounded by the number of characters, and so are the loops that ask for a token, for all
tokens, and for those of a file; each of them ends with a step that gives it no reason to go on. -/
theorem Session.progress_performAll (symbols : SymbolTable) (calls : List Call) :
    let s := ((withSymbols symbols).performAll calls).2
    s.Progress s.nextRaw ∧
      (∀ source k, s.source = some source → s.pending = some k → source.Backs s.symbols k) ∧
      (∀ tokens t, Run s tokens t → tokens.length ≤ s.remaining.length) ∧
      (s.next.extracted.length ≤ s.remaining.length ∧
        ∃ t, Run s s.next.passed t ∧ t.nextRaw = (s.next.result, s.next.session)) ∧
      (∀ raw, (s.scan raw).extracted.length ≤ s.remaining.length ∧
        ∃ t, Run s (s.scan raw).extracted t ∧
          t.nextRaw = ((s.scan raw).ending, (s.scan raw).session)) ∧
      ∀ path raw source, (tokensOf (FileScan.ofOpened path s.symbols raw (.ok source)).2).length ≤
        source.remaining.length := by
  intro s
  have hs : s.IsCurrent := (isCurrent_withSymbols symbols).performAll calls
  refine ⟨(step_nextRaw hs).progress, ?_, ?_, ?_, ?_, ?_⟩
  · intro source k hsource hpending
    refine Source.backs_of_firstMatch (firstMatch_iff_kindAt.2 ?_)
    have hkind := isCurrent_iff.1 hs
    rw [hpending, remaining, hsource] at hkind
    exact hkind.symm
  · intro tokens t hrun
    exact Nat.le_of_add_right_le (hrun.length_le hs)
  · exact ⟨length_extracted_next_le hs, run_next s⟩
  · intro raw
    exact ⟨length_extracted_scan_le hs raw, run_scan s raw⟩
  · intro path raw source
    exact FileScan.length_tokensOf_le path s.symbols raw source

end TokenScan

import TokenScan.Proofs.Session.Step
/-!
# A raw scan is the segmentation of the text

Asking for every token, white space included, cuts the text as the grammar says and ends as it says.
One step of the session is one constructor of `Segmentation`, so the induction is the one of the
scan itself (`segmentation_scan`). The grammar cuts a text in one way only, hence **what a scan gives
and what the grammar says are the same** (`segmentation_iff_scan`).
-/

namespace TokenScan.Session

variable {s : Session}

/-- **A raw scan from a session with the right pending kind cuts the text as the grammar says.** -/
theorem segmentation_scan (hs : s.IsCurrent) :
    Segmentation s.symbols s.line s.remaining (s.scan true).tokens (s.scan true).error := by
  -- a scan takes as many steps as the grammar makes cuts
  fun_induction scan s true with
  | case1 s passed token t h rest ih =>
    have hstep := step_nextRaw hs
    obtain ⟨-, hresult, rfl⟩ := Advance.mk.inj h
    rw [show s.nextRaw = (.ok (some token), s.nextRaw.2) from Prod.ext hresult rfl] at hstep
    cases hstep with
    | token hkind htext _ hremaining hline hsymbols hcurrent =>
      have hrest := ih hcurrent
      rw [hline, hsymbols] at hrest
      exact .token hkind htext hremaining hrest
  | case2 s passed t h =>
    have hstep := step_nextRaw hs
    obtain ⟨-, hresult, rfl⟩ := Advance.mk.inj h
    rw [show s.nextRaw = (.ok none, s.nextRaw.2) from Prod.ext hresult rfl] at hstep
    rw [(Step.finished_iff.1 hstep).1]
    exact .done
  | case3 s passed e t h =>
    have hstep := step_nextRaw hs
    obtain ⟨-, hresult, rfl⟩ := Advance.mk.inj h
    rw [show s.nextRaw = (.error e, s.nextRaw.2) from Prod.ext hresult rfl] at hstep
    cases hstep with
    | unterminated hkind hopen _ _ _ _ =>
      exact .unterminated hkind fun text ↦ hopen.not_isLexeme

/-- **The tokens and the ending of a raw scan are those that the grammar gives the text, and no
others.** -/
theorem segmentation_iff_scan (s : Session) (source : Source) (tokens : List Token)
    (open? : Option Unterminated) :
    Segmentation s.symbols source.line source.remaining tokens open? ↔
      ((s.bind source).scan true).tokens = tokens ∧
        ((s.bind source).scan true).error = open? := by
  have h := segmentation_scan (isCurrent_bind s source)
  rw [remaining_bind, symbols_bind] at h
  have hline : (s.bind source).line = source.line := Source.line_nextKind _ _
  rw [hline] at h
  constructor
  · exact fun h' ↦ h.unique h'
  · rintro ⟨rfl, rfl⟩
    exact h

end TokenScan.Session

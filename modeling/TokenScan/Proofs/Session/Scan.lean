import TokenScan.Proofs.Session.Reply
import TokenScan.Proofs.Session.Segmentation
/-!
# Loops are told by their runs

A loop over tokens is a run and one more step (`run_next`, `run_scan`). Here the converse: **a run
and one more step that fit a loop are what the loop comes to** (`next_eq_of_run`, `scan_of_run`). So a
loop need not be followed to know its result, and loops that have the same run have the same result:
a scan without white space extracts what a raw scan does and leaves the white space out
(`tokens_scan`, `scan_false`).
-/

namespace TokenScan.Session

variable {s t u : Session} {tokens : List Token}

/-! ### Asking for one token -/

/-- A token of white space is passed over. -/
theorem next_of_isWhitespace {token : Token} (h : s.nextRaw = (.ok (some token), t))
    (hw : token.isWhitespace = true) :
    s.next = { t.next with passed := token :: t.next.passed } := by
  rw [next]
  split
  · next token' t' h' =>
    obtain ⟨hresult, rfl⟩ := Prod.mk.inj (h.symm.trans h')
    obtain rfl := Option.some.inj (Except.ok.inj hresult)
    rw [dif_pos hw]
  · next result t' hne h' =>
    obtain ⟨rfl, rfl⟩ := Prod.mk.inj (h'.symm.trans h)
    exact (hne token rfl).elim

/-- Anything else is given back. -/
theorem next_of_not_isWhitespace {result : Except Unterminated (Option Token)}
    (h : s.nextRaw = (result, t))
    (hw : ∀ token, result = .ok (some token) → token.isWhitespace = false) :
    s.next = ⟨[], result, t⟩ := by
  rw [next]
  split
  · next token t' h' =>
    obtain ⟨hresult, rfl⟩ := Prod.mk.inj (h.symm.trans h')
    have hno := hw token hresult
    rw [dif_neg (by rw [hno]; exact Bool.false_ne_true), hresult]
  · next result' t' hne h' =>
    obtain ⟨rfl, rfl⟩ := Prod.mk.inj (h.symm.trans h')
    rfl

/-- **A run over white space and one more step that gives none are what asking for a token comes
to.** -/
theorem next_eq_of_run {result : Except Unterminated (Option Token)} (hrun : Run s tokens t)
    (hpassed : ∀ token ∈ tokens, token.isWhitespace = true) (hlast : t.nextRaw = (result, u))
    (hresult : ∀ token, result = .ok (some token) → token.isWhitespace = false) :
    s.next = ⟨tokens, result, u⟩ := by
  induction hrun with
  | nil => exact next_of_not_isWhitespace hlast hresult
  | cons h _ ih =>
    obtain ⟨hw, hrest⟩ := List.forall_mem_cons.1 hpassed
    rw [next_of_isWhitespace h hw, ih hrest hlast]

/-- Asking for a token passes over white space, and only over that. -/
theorem isWhitespace_of_next (s : Session) :
    (∀ token ∈ s.next.passed, token.isWhitespace = true) ∧
      ∀ token, s.next.result = .ok (some token) → token.isWhitespace = false := by
  fun_induction next s with
  | case1 s token t h hw a ih => exact ⟨List.forall_mem_cons.2 ⟨hw, ih.1⟩, ih.2⟩
  | case2 s token t h hw =>
    refine ⟨List.forall_mem_nil _, fun token' h' ↦ ?_⟩
    obtain rfl := Option.some.inj (Except.ok.inj h')
    exact Bool.eq_false_iff.2 hw
  | case3 s result t hne h =>
    exact ⟨List.forall_mem_nil _, fun token h' ↦ (hne token h').elim⟩

/-- Whether a token is asked for: any token, or any that does not start with white space. -/
def isWanted (raw : Bool) (token : Token) : Bool := raw || !token.isWhitespace

/-- What is passed over is not asked for, and what is given back is. -/
theorem isWanted_of_advance (s : Session) (raw : Bool) :
    (∀ token ∈ (s.advance raw).passed, ¬ isWanted raw token) ∧
      ∀ token, (s.advance raw).result = .ok (some token) → isWanted raw token := by
  cases raw with
  | true => exact ⟨List.forall_mem_nil _, fun _ _ ↦ rfl⟩
  | false =>
    obtain ⟨hpassed, hresult⟩ := isWhitespace_of_next s
    refine ⟨fun token h ↦ ?_, fun token h ↦ ?_⟩
    · simp [isWanted, hpassed token h]
    · simp [isWanted, hresult token h]

/-! ### Scanning to the end -/

/-- **A scan gives the tokens that are asked for among those it extracts.** -/
theorem tokens_scan (s : Session) (raw : Bool) :
    (s.scan raw).tokens = (s.scan raw).extracted.filter (isWanted raw) := by
  fun_induction scan s raw with
  | case1 s passed token t h rest ih =>
    obtain ⟨hpassed, hresult⟩ := isWanted_of_advance s raw
    rw [h] at hpassed hresult
    have hnone : passed.filter (isWanted raw) = [] := List.filter_eq_nil_iff.2 hpassed
    rw [List.filter_append, hnone, List.nil_append, List.filter_cons_of_pos (hresult token rfl), ← ih]
  | case2 s passed t h =>
    obtain ⟨hpassed, -⟩ := isWanted_of_advance s raw
    rw [h] at hpassed
    exact (List.filter_eq_nil_iff.2 hpassed).symm
  | case3 s passed e t h =>
    obtain ⟨hpassed, -⟩ := isWanted_of_advance s raw
    rw [h] at hpassed
    exact (List.filter_eq_nil_iff.2 hpassed).symm

/-- A raw scan gives every token that it extracts. -/
theorem extracted_scan (s : Session) : (s.scan true).extracted = (s.scan true).tokens := by
  rw [tokens_scan]
  exact (List.filter_eq_self.2 fun _ _ ↦ rfl).symm

/-- The error of a scan is what its last step reports. -/
theorem Scan.lastOpen_ending (r : Scan) : lastOpen r.ending = r.error := by
  rw [Scan.ending]
  rcases r.error with - | e <;> rfl

/-- The last step of a scan adds no token. -/
theorem Scan.lastToken_ending (r : Scan) : lastToken r.ending = [] := by
  rw [Scan.ending]
  rcases r.error with - | e <;> rfl

/-- **A run and one more step that gives no token are what a scan comes to.** -/
theorem scan_of_run {last : Except Unterminated (Option Token)} (hrun : Run s tokens t)
    (hlast : t.nextRaw = (last, u)) (hend : ∀ token, last ≠ .ok (some token)) (raw : Bool) :
    (s.scan raw).extracted = tokens ∧ (s.scan raw).ending = last ∧ (s.scan raw).session = u := by
  obtain ⟨v, hscan, hstop⟩ := run_scan s raw
  have hv : ∀ token w, v.nextRaw ≠ (.ok (some token), w) := by
    intro token w h
    exact Scan.ending_ne _ token (Prod.mk.inj (hstop.symm.trans h)).1
  have ht : ∀ token w, t.nextRaw ≠ (.ok (some token), w) := fun token w h ↦
    hend token (Prod.mk.inj (hlast.symm.trans h)).1
  obtain ⟨htokens, rfl⟩ := hscan.unique hv hrun ht
  obtain ⟨hresult, hsession⟩ := Prod.mk.inj (hstop.symm.trans hlast)
  exact ⟨htokens, hresult, hsession⟩

/-- **A scan without white space comes to what a raw scan comes to, and leaves out the white space.** -/
theorem scan_false (s : Session) :
    (s.scan false).tokens = (s.scan true).tokens.filter (!·.isWhitespace) ∧
      (s.scan false).error = (s.scan true).error ∧
      (s.scan false).session = (s.scan true).session := by
  obtain ⟨t, hrun, hlast⟩ := run_scan s true
  obtain ⟨htokens, hending, hsession⟩ := scan_of_run hrun hlast (Scan.ending_ne _) false
  refine ⟨?_, ?_, hsession⟩
  · rw [tokens_scan, htokens, extracted_scan]
    rfl
  · rw [← Scan.lastOpen_ending, hending, Scan.lastOpen_ending]

/-- The grammar tells what a raw scan gives. -/
theorem scan_of_segmentation {open? : Option Unterminated} (hs : s.IsCurrent)
    (h : Segmentation s.symbols s.line s.remaining tokens open?) :
    (s.scan true).tokens = tokens ∧ (s.scan true).error = open? :=
  (segmentation_scan hs).unique h

end TokenScan.Session

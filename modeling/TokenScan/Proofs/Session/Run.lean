import TokenScan.Proofs.Session.Step
/-!
# Runs of tokens

A `Session.Run` takes tokens one after the other. The loops of a session are runs, and each of them
ends with one more step that gives no token to go on with (`run_next`, `run_scan`); so what holds of
a run holds of both, and there is no second induction over a loop.

* `Run.unique` — a session has one run to where no token comes any more.
* `Run.remaining` — the texts of the tokens, put together, are what was taken off the front.
* `Run.length_le` — a run from a session with the right pending kind takes a character with each
  token, so it is no longer than the text.
-/

namespace TokenScan

/-- The texts of tokens, put together. -/
def texts (tokens : List Token) : List Char := tokens.flatMap fun token ↦ token.text.toList

@[simp] theorem texts_nil : texts [] = [] := rfl

@[simp] theorem texts_cons (token : Token) (tokens : List Token) :
    texts (token :: tokens) = token.text.toList ++ texts tokens := rfl

@[simp] theorem texts_append (tokens more : List Token) :
    texts (tokens ++ more) = texts tokens ++ texts more := List.flatMap_append

namespace Session

variable {s t u : Session} {tokens more : List Token}

/-- Tokens taken one after the other, white space included. -/
inductive Run : Session → List Token → Session → Prop where
  /-- No token is taken. -/
  | nil {s : Session} : Run s [] s
  /-- One token is taken, and then others. -/
  | cons {s t u : Session} {token : Token} {tokens : List Token}
      (h : s.nextRaw = (.ok (some token), t)) (hrun : Run t tokens u) : Run s (token :: tokens) u

theorem Run.append (h : Run s tokens t) (h' : Run t more u) : Run s (tokens ++ more) u := by
  induction h with
  | nil => exact h'
  | cons h _ ih => exact .cons h (ih h')

theorem Run.single {token : Token} (h : s.nextRaw = (.ok (some token), t)) : Run s [token] t :=
  .cons h .nil

/-- **A run takes its tokens off the front of the text.** -/
theorem Run.remaining (h : Run s tokens t) : s.remaining = texts tokens ++ t.remaining := by
  induction h with
  | nil => rfl
  | cons h _ ih => rw [remaining_nextRaw h, ih, texts_cons, List.append_assoc]

/-- A run keeps the symbols. -/
theorem Run.symbols (h : Run s tokens t) : t.symbols = s.symbols := by
  induction h with
  | nil => rfl
  | cons h _ ih =>
    obtain ⟨_, _, _, rest, -, -, -, -, rfl⟩ := nextRaw_eq_some h
    rw [ih, symbols_bind]

/-- A run over some tokens and then others passes through a session in between. -/
theorem Run.split (h : Run s (tokens ++ more) u) : ∃ t, Run s tokens t ∧ Run t more u := by
  induction tokens generalizing s with
  | nil => exact ⟨s, .nil, h⟩
  | cons token tokens ih =>
    cases h with
    | cons hfirst hrun =>
      obtain ⟨t, hbefore, hafter⟩ := ih hrun
      exact ⟨t, .cons hfirst hbefore, hafter⟩

/-- A token of a run is what some session of the run gives next. -/
theorem Run.exists_of_mem {token : Token} (h : Run s tokens t) (hmem : token ∈ tokens) :
    ∃ before u v, Run s before u ∧ u.nextRaw = (.ok (some token), v) := by
  obtain ⟨before, after, rfl⟩ := List.append_of_mem hmem
  obtain ⟨u, hbefore, hafter⟩ := h.split
  cases hafter with
  | cons hnext _ => exact ⟨before, u, _, hbefore, hnext⟩

/-- **There is one run to where no token comes any more.** -/
theorem Run.unique (h : Run s tokens t) (ht : ∀ token v, t.nextRaw ≠ (.ok (some token), v))
    (h' : Run s more u) (hu : ∀ token v, u.nextRaw ≠ (.ok (some token), v)) :
    tokens = more ∧ t = u := by
  induction h generalizing more with
  | nil =>
    cases h' with
    | nil => exact ⟨rfl, rfl⟩
    | cons hnext _ => exact absurd hnext (ht _ _)
  | cons hnext _ ih =>
    cases h' with
    | nil => exact absurd hnext (hu _ _)
    | cons hnext' hrun' =>
      obtain ⟨hresult, rfl⟩ := Prod.mk.inj (hnext.symm.trans hnext')
      obtain rfl := Option.some.inj (Except.ok.inj hresult)
      obtain ⟨rfl, hsame⟩ := ih ht hrun'
      exact ⟨rfl, hsame⟩

/-- A run keeps the pending kind right. -/
theorem Run.isCurrent (h : Run s tokens t) (hs : s.IsCurrent) : t.IsCurrent := by
  induction h with
  | nil => exact hs
  | cons h _ ih => exact ih (isCurrent_nextRaw h)

/-- A run and one more step keep the symbols, whatever the step comes to. -/
theorem Run.symbols_last (h : Run s tokens t) (hs : s.IsCurrent)
    {last : Except Unterminated (Option Token)} (hlast : t.nextRaw = (last, u)) :
    u.symbols = s.symbols := by
  have hstep := step_nextRaw (h.isCurrent hs)
  rw [hlast] at hstep
  exact hstep.symbols.trans h.symbols

/-- **A run takes a character with each token.** -/
theorem Run.length_le (h : Run s tokens t) (hs : s.IsCurrent) :
    tokens.length + t.remaining.length ≤ s.remaining.length := by
  induction h with
  | nil => simp
  | cons h _ ih =>
    -- only the first token needs `hs`: after it the pending kind is right in any case
    have hpos := List.length_pos_iff.2 (text_ne_empty_of_nextRaw hs h)
    have hrest := ih (isCurrent_nextRaw h)
    rw [remaining_nextRaw h, List.length_append, List.length_cons]
    omega

/-! ### The loops -/

/-- **Asking for a token that is not white space is a run over white space and one more step.** -/
theorem run_next (s : Session) :
    ∃ t, Run s s.next.passed t ∧ t.nextRaw = (s.next.result, s.next.session) := by
  fun_induction next s with
  | case1 s token t hraw hw a ih =>
    obtain ⟨u, hrun, hlast⟩ := ih
    exact ⟨u, .cons hraw hrun, hlast⟩
  | case2 s token t hraw hw => exact ⟨s, .nil, hraw⟩
  | case3 s result t hraw hne => exact ⟨s, .nil, by assumption⟩

theorem run_advance (s : Session) (raw : Bool) :
    ∃ t, Run s (s.advance raw).passed t ∧
      t.nextRaw = ((s.advance raw).result, (s.advance raw).session) := by
  cases raw with
  | false => exact run_next s
  | true => exact ⟨s, .nil, rfl⟩

/-- What the last step of a scan comes to: the end, or the construct that was left open. -/
def Scan.ending (r : Scan) : Except Unterminated (Option Token) :=
  match r.error with
  | none => .ok none
  | some e => .error e

/-- The step after a scan gives no token. -/
theorem Scan.ending_ne (r : Scan) (token : Token) : r.ending ≠ .ok (some token) := by
  rw [Scan.ending]
  rcases r.error with - | e <;> intro h <;> cases h

/-- **A scan is a run over every token that it extracts and one more step that gives none.** -/
theorem run_scan (s : Session) (raw : Bool) :
    ∃ t, Run s (s.scan raw).extracted t ∧
      t.nextRaw = ((s.scan raw).ending, (s.scan raw).session) := by
  fun_induction scan s raw with
  | case1 s passed token t h rest ih =>
    -- what was passed over, then the token that was asked for, then the rest of the scan
    obtain ⟨u, hrun, hlast⟩ := ih
    obtain ⟨v, hpassed, hstep⟩ := run_advance s raw
    rw [h] at hpassed hstep
    exact ⟨u, hpassed.append (.cons hstep hrun), hlast⟩
  | case2 s passed t h =>
    obtain ⟨v, hpassed, hstep⟩ := run_advance s raw
    rw [h] at hpassed hstep
    exact ⟨v, hpassed, hstep⟩
  | case3 s passed e t h =>
    obtain ⟨v, hpassed, hstep⟩ := run_advance s raw
    rw [h] at hpassed hstep
    exact ⟨v, hpassed, hstep⟩

/-- Asking for a token keeps the pending kind right. -/
theorem IsCurrent.next (hs : s.IsCurrent) : s.next.session.IsCurrent := by
  obtain ⟨t, hrun, hlast⟩ := run_next s
  have ht := (hrun.isCurrent hs).nextRaw
  rwa [hlast] at ht

/-- A scan keeps the pending kind right. -/
theorem IsCurrent.scan (hs : s.IsCurrent) (raw : Bool) : (s.scan raw).session.IsCurrent := by
  obtain ⟨t, hrun, hlast⟩ := run_scan s raw
  have ht := (hrun.isCurrent hs).nextRaw
  rwa [hlast] at ht

end Session

end TokenScan

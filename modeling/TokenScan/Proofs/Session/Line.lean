import TokenScan.Proofs.Session.Conservation
import TokenScan.Proofs.Session.Scan
/-!
# Where the lines that are reported come from

A session that goes on (`Call.GoesOn`) consumes characters from the front of its text, and may let go
of the rest in the end. `Session.LeadsTo` says what that does to the text and to the line; it adds up
over steps, runs and calls.

**Every line that is reported is the line of a session on the way**, so it is the first line moved by
the line feeds of a part of the text (`Session.Reaches`, `leadsTo_performAll`).
-/

namespace TokenScan

/-- Whether a call goes on with the source that is bound: it takes tokens, registers symbols, or lets
go of the source, and does not try to open another one. -/
def Call.GoesOn : Call → Prop
  | .next | .nextRaw | .item | .tokens | .registerDigraph _ | .registerSingle _ | .close => True
  | .openText _ | .openReads _ | .openFile _ _ | .bind _ => False

/-- The lines that an answer reports. -/
def Answer.lines : Answer → List UInt32
  | .token (.ok token?) => token?.toList.map Token.line
  | .token (.error e) => [e.line]
  | .tokens (.ok found) => found.map Token.line
  | .tokens (.error e) => [e.line]
  | .done | .notOpened _ | .added _ => []

namespace Session

variable {s t u : Session} {tokens : List Token}

/-- Whether consuming some characters, and then perhaps dropping others, takes a session to another
one. -/
def LeadsTo (s t : Session) : Prop :=
  ∃ consumed, consumed ++ t.remaining <+: s.remaining ∧ t.line = lineAfter s.line consumed

/-- Whether consuming some characters takes a session to a line. -/
def Reaches (s : Session) (line : UInt32) : Prop :=
  ∃ consumed, consumed <+: s.remaining ∧ line = lineAfter s.line consumed

namespace LeadsTo

theorem refl (s : Session) : s.LeadsTo s :=
  ⟨[], List.prefix_refl _, (lineAfter_nil s.line).symm⟩

theorem trans (h : s.LeadsTo t) (h' : t.LeadsTo u) : s.LeadsTo u := by
  obtain ⟨cs, htext, hline⟩ := h
  obtain ⟨ds, htext', hline'⟩ := h'
  refine ⟨cs ++ ds, ?_, ?_⟩
  · rw [List.append_assoc]
    exact ((List.prefix_append_right_inj cs).2 htext').trans htext
  · rw [hline', hline, lineAfter_append]

theorem reaches (h : s.LeadsTo t) : s.Reaches t.line := by
  obtain ⟨cs, htext, hline⟩ := h
  exact ⟨cs, (List.prefix_append cs t.remaining).trans htext, hline⟩

/-- What is reached later is reached. -/
theorem reaches_trans {line : UInt32} (h : s.LeadsTo t) (h' : t.Reaches line) :
    s.Reaches line := by
  obtain ⟨cs, htext, hline⟩ := h
  obtain ⟨ds, htext', hline'⟩ := h'
  refine ⟨cs ++ ds, ?_, ?_⟩
  · exact ((List.prefix_append_right_inj cs).2 htext').trans htext
  · rw [hline', hline, lineAfter_append]

end LeadsTo

/-! ### Steps and runs -/

/-- A step consumes what it takes, or everything. -/
theorem leadsTo_nextRaw (hs : s.IsCurrent) : s.LeadsTo s.nextRaw.2 := by
  have hstep := step_nextRaw hs
  rcases hraw : s.nextRaw with ⟨result, t⟩
  rw [hraw] at hstep
  cases hstep with
  | finished _ => exact .refl s
  | @token _ text _ _ _ _ hremaining hline _ _ => exact ⟨text, by rw [hremaining], hline⟩
  | unterminated _ _ hremaining hline _ _ =>
    exact ⟨s.remaining, by rw [hremaining, List.append_nil], hline⟩

/-- A step reports the line on which it starts. -/
theorem lines_nextRaw (hs : s.IsCurrent) :
    ∀ line ∈ (Answer.token s.nextRaw.1).lines, line = s.line := by
  have hstep := step_nextRaw hs
  rcases hraw : s.nextRaw with ⟨result, t⟩
  rw [hraw] at hstep
  cases hstep <;> simp [Answer.lines]

/-- A run moves the line by the texts of its tokens. -/
theorem Run.line (h : Run s tokens t) (hs : s.IsCurrent) :
    t.line = lineAfter s.line (texts tokens) := by
  induction h with
  | nil => exact (lineAfter_nil _).symm
  | cons h _ ih =>
    have hstep := step_nextRaw hs
    rw [h] at hstep
    cases hstep with
    | token _ _ _ _ hline _ _ =>
      rw [ih (isCurrent_nextRaw h), hline, texts_cons, String.toList_ofList, lineAfter_append]

theorem Run.leadsTo (h : Run s tokens t) (hs : s.IsCurrent) : s.LeadsTo t :=
  ⟨texts tokens, by rw [h.remaining], h.line hs⟩

/-- The lines of the tokens of a run are reached. -/
theorem Run.reaches (h : Run s tokens t) (hs : s.IsCurrent) :
    ∀ token ∈ tokens, s.Reaches token.line := by
  intro token hmem
  obtain ⟨before, u, v, hbefore, hnext⟩ := h.exists_of_mem hmem
  have hline := lines_nextRaw (hbefore.isCurrent hs) token.line (by simp [hnext, Answer.lines])
  rw [hline]
  exact (hbefore.leadsTo hs).reaches

/-- A run and one more step lead on, and the lines that the step reports are reached. -/
theorem Run.leadsTo_last (h : Run s tokens t) (hs : s.IsCurrent)
    {last : Except Unterminated (Option Token)} (hlast : t.nextRaw = (last, u)) :
    s.LeadsTo u ∧ ∀ line ∈ (Answer.token last).lines, s.Reaches line := by
  have ht := h.isCurrent hs
  have hstep := leadsTo_nextRaw ht
  have hlines := lines_nextRaw ht
  rw [hlast] at hstep hlines
  refine ⟨(h.leadsTo hs).trans hstep, fun line hmem ↦ ?_⟩
  rw [hlines line hmem]
  exact (h.leadsTo hs).reaches

/-! ### Calls -/

theorem line_refresh (s : Session) (symbols : SymbolTable) :
    ({ s with symbols } : Session).refresh.line = s.line := by
  obtain ⟨source, pending, _⟩ := s
  rcases pending with - | k
  · rfl
  · rcases source with - | source
    · rfl
    · exact Source.line_nextKind _ _

theorem symbols_refresh (s : Session) (symbols : SymbolTable) :
    ({ s with symbols } : Session).refresh.symbols = symbols := by
  obtain ⟨source, pending, _⟩ := s
  rcases pending with - | k
  · rfl
  · rcases source with - | source <;> rfl

theorem line_close (s : Session) : s.close.line = s.line := by
  obtain ⟨source, pending, symbols⟩ := s
  cases source <;> rfl

theorem remaining_close (s : Session) : s.close.remaining = [] := by
  obtain ⟨source, pending, symbols⟩ := s
  cases source <;> rfl

/-- Registering symbols consumes nothing. -/
theorem leadsTo_refresh (s : Session) (symbols : SymbolTable) :
    s.LeadsTo ({ s with symbols } : Session).refresh := by
  refine ⟨[], ?_, (line_refresh s symbols).trans (lineAfter_nil s.line).symm⟩
  rw [remaining_refresh, List.nil_append]

/-- Letting go drops what is left. -/
theorem leadsTo_close (s : Session) : s.LeadsTo s.close := by
  refine ⟨[], ?_, (line_close s).trans (lineAfter_nil s.line).symm⟩
  rw [remaining_close]
  exact List.nil_prefix

/-- Asking for a token leads on, and the lines that it reports are reached. -/
theorem leadsTo_next (hs : s.IsCurrent) :
    s.LeadsTo s.next.session ∧ ∀ line ∈ (Answer.token s.next.result).lines, s.Reaches line := by
  obtain ⟨t, hrun, hlast⟩ := run_next s
  exact hrun.leadsTo_last hs hlast

/-- Scanning leads on, and the lines that it reports are reached. -/
theorem leadsTo_scan (hs : s.IsCurrent) (raw : Bool) :
    s.LeadsTo (s.scan raw).session ∧
      ∀ line ∈ (Answer.tokens (s.scan raw).result).lines, s.Reaches line := by
  obtain ⟨t, hrun, hlast⟩ := run_scan s raw
  obtain ⟨hleads, hlines⟩ := hrun.leadsTo_last hs hlast
  refine ⟨hleads, fun line hmem ↦ ?_⟩
  rw [Scan.result] at hmem
  rw [Scan.ending] at hlines
  split at hmem
  · obtain ⟨token, htoken, rfl⟩ := List.mem_map.1 hmem
    rw [tokens_scan] at htoken
    exact hrun.reaches hs token (List.mem_filter.1 htoken).1
  · next e he =>
    rw [he] at hlines
    exact hlines line hmem

/-- **A call that goes on leads on, and the lines that it reports are reached.** -/
theorem leadsTo_perform (hs : s.IsCurrent) {call : Call} (hcall : call.GoesOn) :
    s.LeadsTo (s.perform call).session ∧
      ∀ line ∈ (s.perform call).answer.lines, s.Reaches line := by
  cases call with
  | openText text => exact hcall.elim
  | openReads reads => exact hcall.elim
  | openFile files path => exact hcall.elim
  | bind source => exact hcall.elim
  | next => exact leadsTo_next hs
  | nextRaw => exact Run.nil.leadsTo_last hs rfl
  | item =>
    rw [perform_item]
    exact leadsTo_next hs
  | tokens => exact leadsTo_scan hs false
  | registerDigraph pattern => exact ⟨leadsTo_refresh s _, nofun⟩
  | registerSingle pattern => exact ⟨leadsTo_refresh s _, nofun⟩
  | close => exact ⟨leadsTo_close s, nofun⟩

/-- **Any calls that go on lead on, and the lines that they report are reached.** -/
theorem leadsTo_performAll (hs : s.IsCurrent) {calls : List Call}
    (hcalls : ∀ call ∈ calls, call.GoesOn) :
    s.LeadsTo (s.performAll calls).2 ∧
      ∀ answer ∈ (s.performAll calls).1, ∀ line ∈ answer.lines, s.Reaches line := by
  induction calls generalizing s with
  | nil => exact ⟨.refl s, nofun⟩
  | cons call calls ih =>
    obtain ⟨hcall, hrest⟩ := List.forall_mem_cons.1 hcalls
    obtain ⟨hfirst, hlines⟩ := leadsTo_perform hs hcall
    obtain ⟨hlast, hlater⟩ := ih (hs.perform call) hrest
    refine ⟨hfirst.trans hlast, fun answer hmem line hline ↦ ?_⟩
    rcases List.mem_cons.1 hmem with rfl | hmem
    · exact hlines line hline
    · exact hfirst.reaches_trans (hlater answer hmem line hline)

end Session

end TokenScan

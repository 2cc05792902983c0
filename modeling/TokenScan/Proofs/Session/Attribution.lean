import TokenScan.Proofs.Session.Line
/-!
# Which line a token stands on

The line of a token is that of the session before the token is taken, and an open construct is
reported with the line on which it starts, although the whole text is consumed by then. So the lines
can be told from the text alone: **the line of a token is the first one and the line feeds of all
the tokens before it** (`Numbered`), white space that was passed over included.

`Located` says so of all that is extracted and reported between two sessions, together with the line
on which the second one stands. A step keeps it (`Located.step`) because it never has to place
anything behind an open construct, where no text is left; hence a trail has it (`Trail.located`),
and so have any calls (`line_eq_add_count`).
-/

namespace TokenScan

variable {tokens more : List Token} {reported : List Unterminated}

/-- Whether tokens that follow one another bear the lines on which their texts start, if the first
text starts on some line. -/
def Numbered (line : UInt32) : List Token → Prop
  | [] => True
  | token :: rest => token.line = line ∧ Numbered (lineAfter line token.text.toList) rest

theorem numbered_append {line : UInt32} :
    Numbered line (tokens ++ more) ↔
      Numbered line tokens ∧ Numbered (lineAfter line (texts tokens)) more := by
  induction tokens generalizing line with
  | nil => simp [Numbered]
  | cons token tokens ih =>
    simp only [List.cons_append, Numbered, texts_cons, lineAfter_append, ih, and_assoc]

/-- A token bears the line that the tokens before it lead to. -/
theorem Numbered.line_eq {line : UInt32} {before after : List Token} {token : Token}
    (h : Numbered line (before ++ token :: after)) :
    token.line = lineAfter line (texts before) := (numbered_append.1 h).2.1

namespace Session

variable {s t u : Session}

/-! ### What an answer gives is extracted -/

theorem given_token (result : Except Unterminated (Option Token)) :
    (Answer.token result).given = lastToken result := by
  rcases result with e | - | token <;> rfl

/-- **The tokens that an answer gives are among those that the events tell of**, in the same
order. -/
theorem given_sublist_perform (s : Session) (call : Call) :
    (s.perform call).answer.given.Sublist (tokensOf (s.perform call).events) := by
  have hadvance (raw : Bool) :
      (s.advanceTelling raw).answer.given.Sublist (tokensOf (s.advanceTelling raw).events) := by
    show (Answer.token _).given.Sublist (tokensOf (extractions _))
    rw [given_token, tokensOf_extractions, Advance.extracted_eq]
    exact List.sublist_append_right _ _
  have hopened (before : List Event) (opened : Except OpenError Source) :
      (s.bindOpened before opened).answer.given = [] := by
    cases opened <;> rfl
  cases call with
  | next => exact hadvance false
  | nextRaw => exact hadvance true
  | item =>
    rw [perform_item]
    exact hadvance false
  | tokens =>
    show (Answer.tokens (s.scan false).result).given.Sublist (tokensOf (extractions _))
    rw [tokensOf_extractions, Scan.result]
    split
    · show (s.scan false).tokens.Sublist _
      rw [tokens_scan]
      exact List.filter_sublist
    · exact List.nil_sublist _
  | openReads reads =>
    rw [perform, hopened]
    exact List.nil_sublist _
  | openFile files path =>
    rw [perform, hopened]
    exact List.nil_sublist _
  | openText _ | bind _ => exact List.nil_sublist _
  | registerDigraph _ | registerSingle _ | close => exact List.nil_sublist _

theorem given_sublist_performAll (s : Session) (calls : List Call) :
    ((s.performAll calls).1.flatMap Answer.given).Sublist (s.extractedBy calls) := by
  induction calls generalizing s with
  | nil => exact List.nil_sublist _
  | cons call calls ih => exact (given_sublist_perform s call).append (ih _)

/-! ### Lines along a trail -/

/-- Whether what is extracted and reported between two sessions bears the lines on which it starts,
and the second session stands on the line that consuming some text leads to. -/
structure Located (s : Session) (tokens : List Token) (reported : List Unterminated)
    (t : Session) : Prop where
  /-- Each token bears the line on which it starts. -/
  numbered : Numbered s.line tokens
  /-- What is reported starts behind the tokens. -/
  reports : ∀ e ∈ reported, e.line = lineAfter s.line (texts tokens)
  /-- The line counts what is consumed. -/
  last : ∃ consumed, consumed ++ t.remaining = s.remaining ∧ t.line = lineAfter s.line consumed

namespace Located

/-- While text is left, nothing is reported, and the tokens are all that is consumed. -/
theorem of_ne_nil (h : Located s tokens reported t)
    (htext : Conserved s.remaining tokens reported t.remaining) (hne : t.remaining ≠ []) :
    reported = [] ∧ t.line = lineAfter s.line (texts tokens) := by
  obtain ⟨consumed, hconsumed, hline⟩ := h.last
  generalize t.remaining = left at htext hne hconsumed
  cases htext with
  | kept htext =>
    rw [← List.append_cancel_right (hconsumed.trans htext)]
    exact ⟨rfl, hline⟩
  | lost _ _ => exact absurd rfl hne

/-- **A step bears the line of the session that takes it.** -/
theorem step (h : Located s tokens reported t)
    (htext : Conserved s.remaining tokens reported t.remaining)
    {result : Except Unterminated (Option Token)} (hstep : t.Step (result, u)) :
    Located s (tokens ++ lastToken result) (reported ++ (lastOpen result).toList) u := by
  obtain ⟨consumed, hconsumed, hline⟩ := h.last
  cases hstep with
  | finished _ =>
    rw [append_lastToken_end, lastOpen, Option.toList_none, List.append_nil]
    exact h
  | @token _ text _ hkind _ _ hremaining hmoved _ _ =>
    obtain ⟨rfl, hat⟩ := h.of_ne_nil htext hkind.ne_nil
    refine ⟨numbered_append.2 ⟨h.numbered, hat, trivial⟩, nofun, consumed ++ text, ?_, ?_⟩
    · rw [List.append_assoc, ← hremaining]
      exact hconsumed
    · rw [hmoved, hline, lineAfter_append]
  | unterminated hkind _ hleft hmoved _ _ =>
    obtain ⟨rfl, hat⟩ := h.of_ne_nil htext hkind.ne_nil
    rw [append_lastToken_error]
    refine ⟨h.numbered, ?_, s.remaining, ?_, ?_⟩
    · intro e he
      obtain rfl := List.mem_singleton.1 he
      exact hat
    · rw [hleft, List.append_nil]
    · rw [hmoved, hline, ← lineAfter_append, hconsumed]

end Located

/-- **What a trail extracts and reports bears the lines on which it starts.** -/
theorem Trail.located (h : Trail s tokens reported t) (hs : s.IsCurrent) :
    Located s tokens reported t := by
  induction h with
  | refl => exact ⟨trivial, nofun, [], rfl, (lineAfter_nil _).symm⟩
  | ask h hnext ih =>
    have hstep := step_nextRaw (h.isCurrent hs)
    rw [hnext] at hstep
    exact ih.step (h.conserved hs) hstep
  | change _ symbols ih =>
    refine ⟨ih.numbered, ih.reports, ?_⟩
    rw [remaining_refresh, line_refresh]
    exact ih.last

/-! ### Any calls -/

/-- The text that is consumed in the end is all of it, once the end was answered or a construct was
reported. -/
theorem remaining_performAll_of_last (hs : s.IsCurrent) {calls : List Call}
    (hcalls : ∀ call ∈ calls, call.KeepsSource)
    (h : Answer.token (.ok none) ∈ (s.performAll calls).1 ∨ s.reportedBy calls ≠ []) :
    (s.performAll calls).2.remaining = [] := by
  rcases h with hend | hreported
  · exact remaining_performAll_of_end hs hcalls hend
  · obtain ⟨e, he⟩ := List.exists_mem_of_ne_nil _ hreported
    exact (conserved_performAll hs hcalls).eq_nil_of_mem he

/-- **Every line is the first one and the line feeds before it**, as far as the counter of lines can
hold them, whatever tokens are asked for and whatever symbols are registered in between.

A token bears the line that the texts of all tokens before it lead to, white space that was passed
over included; an open construct bears the line on which its opening marker stands; the session
stands on the line that everything consumed leads to, and at the end, or behind an open construct,
that is the whole text. Letting go of the source, looking ahead and telling the kind of the next
token leave the line as it is. -/
theorem line_eq_add_count (s : Session) (source : Source) (calls : List Call)
    (hcalls : ∀ call ∈ calls, call.KeepsSource) :
    let tokens := (s.bind source).extractedBy calls
    let reported := (s.bind source).reportedBy calls
    let answers := ((s.bind source).performAll calls).1
    let last := ((s.bind source).performAll calls).2
    let lineBehind := fun cs : List Char ↦ source.line.toNat + cs.count '\n'
    (∀ before token after, tokens = before ++ token :: after →
        lineBehind (texts before) < UInt32.size →
        token.line.toNat = lineBehind (texts before)) ∧
      (answers.flatMap Answer.given).Sublist tokens ∧
      (∀ e ∈ reported, ∃ (c : Construct) (missing : List Char), e.construct = c.kind ∧
        c.IsOpen missing ∧ texts tokens ++ missing = source.remaining ∧
        (lineBehind (texts tokens) < UInt32.size →
          e.line.toNat = lineBehind (texts tokens))) ∧
      (∃ consumed, consumed ++ last.remaining = source.remaining ∧
        (lineBehind consumed < UInt32.size → last.line.toNat = lineBehind consumed)) ∧
      (Answer.token (.ok none) ∈ answers ∨ reported ≠ [] →
        lineBehind source.remaining < UInt32.size →
        last.line.toNat = lineBehind source.remaining) ∧
      last.close.line = last.line ∧
      ∀ t, last.source = some t → ∀ k symbols,
        (t.peek k).2.line = last.line ∧ (t.nextKind symbols).2.line = last.line := by
  intro tokens reported answers last lineBehind
  have hs : (s.bind source).IsCurrent := isCurrent_bind s source
  have hline : (s.bind source).line = source.line := Source.line_nextKind _ _
  have htext : (s.bind source).remaining = source.remaining := remaining_bind s source
  have hlocated := (trail_performAll (s.bind source) hcalls).located hs
  obtain ⟨consumed, hconsumed, hlast⟩ := hlocated.last
  have hreports := hlocated.reports
  rw [hline] at hlast hreports
  rw [htext] at hconsumed
  refine ⟨?_, given_sublist_performAll _ calls, ?_, ⟨consumed, hconsumed, ?_⟩, ?_, line_close _, ?_⟩
  · intro before token after hsplit hlt
    have hnumbered : Numbered (s.bind source).line (before ++ token :: after) :=
      hsplit ▸ hlocated.numbered
    rw [hnumbered.line_eq, hline]
    exact toNat_lineAfter hlt
  · intro e he
    obtain ⟨c, missing, hconstruct, hopen, hmissing⟩ := (conserved_performAll hs hcalls).of_mem he
    refine ⟨c, missing, hconstruct, hopen, hmissing.trans htext, fun hlt ↦ ?_⟩
    rw [hreports e he]
    exact toNat_lineAfter hlt
  · intro hlt
    rw [hlast]
    exact toNat_lineAfter hlt
  · intro hend hlt
    rw [remaining_performAll_of_last hs hcalls hend, List.append_nil] at hconsumed
    rw [hlast, hconsumed]
    exact toNat_lineAfter hlt
  · intro t ht k symbols
    have hsource : ((s.bind source).performAll calls).2.line = t.line := by
      rw [Session.line, ht]
      rfl
    rw [hsource]
    exact ⟨t.line_peek k, t.line_nextKind symbols⟩

/-- A text that was read up to its second line is bound; a digraph is registered in front of it, and
a string is open behind white space with a line feed. The string is reported where it starts, and
the session stands where the text ends. -/
theorem line_eq_add_count_of_open_string :
    let source := (Source.ofText "\na\n <=b\n\"c\nd").next.2
    let calls : List Call := [.next, .registerDigraph "<=", .item, .nextRaw, .next]
    let s := (withSymbols .standard).bind source
    let before : List Token := [⟨.alphanumeric, "a", 2⟩, ⟨.whitespace, "\n ", 2⟩]
    let after : List Token := [⟨.alphanumeric, "b", 3⟩, ⟨.whitespace, "\n", 3⟩]
    (∀ call ∈ calls, call.KeepsSource) ∧
      s.extractedBy calls = before ++ ⟨.digraph, "<=", 3⟩ :: after ∧
      (3 : UInt32).toNat = 2 + (texts before).count '\n' ∧
      s.reportedBy calls = [⟨.quotedString, 4⟩] ∧
      (4 : UInt32).toNat = 2 + (texts (s.extractedBy calls)).count '\n' ∧
      (s.performAll calls).2.line.toNat = 2 + source.remaining.count '\n' := by
  intro source calls s before after
  have hcalls : ∀ call ∈ calls, call.KeepsSource := by simp [calls, Call.KeepsSource]
  have htokens : s.extractedBy calls = before ++ ⟨.digraph, "<=", 3⟩ :: after := by decide +kernel
  have hreported : s.reportedBy calls = [⟨.quotedString, 4⟩] := by decide +kernel
  have hsource : source.line.toNat = 2 := by decide +kernel
  obtain ⟨htoken, -, hopen, -, hlast, -⟩ :=
    line_eq_add_count (withSymbols .standard) source calls hcalls
  have hmem : ⟨.quotedString, 4⟩ ∈ s.reportedBy calls := hreported ▸ List.mem_singleton_self _
  obtain ⟨-, -, -, -, -, hopened⟩ := hopen _ hmem
  rw [hsource] at htoken hopened hlast
  refine ⟨hcalls, htokens, htoken before _ after htokens (by decide +kernel), hreported, ?_, ?_⟩
  · exact hopened (by decide +kernel)
  · exact hlast (.inr (by rw [hreported]; exact List.cons_ne_nil _ _)) (by decide +kernel)

end Session

end TokenScan

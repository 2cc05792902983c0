import TokenScan.Proofs.Session.Line
/-!
# A session that is done stays done

A session without a pending kind asks nothing of its source: a token is refused before the source is
looked at (`nextRaw_of_isDone`), and a change of the symbols does not look again
(`refresh_of_isDone`). So it does not matter what the source would give. A feed may go on after it
has said "no more", and behind an open construct the source is still bound; neither brings a session
back.

`findsEnd_perform` and `isDone_perform` say what one call comes to on such a session, and
`isDone_performAll` carries it through any calls that bind nothing. What remains is that a session
is done in the first place once it has answered with the end, with an open construct or with all
tokens: no text is left then (`remaining_perform_of_endsScan`), and the pending kind is right.
-/

namespace TokenScan

/-- Whether a call binds no source: it keeps the one that is bound, or lets go of it. -/
def Call.BindsNothing (call : Call) : Prop := call.KeepsSource ∨ call = .close

/-- Whether an answer tells that there is nothing more, if the call asks for tokens: no token, or an
empty list of them, and no open construct. -/
def Call.FindsEnd : Call → Answer → Prop
  | .next, answer | .nextRaw, answer | .item, answer => answer = .token (.ok none)
  | .tokens, answer => answer = .tokens (.ok [])
  | .openText _, _ | .openReads _, _ | .openFile _ _, _ | .bind _, _ => True
  | .registerDigraph _, _ | .registerSingle _, _ | .close, _ => True

namespace Session

variable {s t : Session} {tokens : List Token}

/-! ### Nothing is asked of the source -/

/-- There is no token. -/
theorem nextRaw_of_isDone (h : s.isDone = true) : s.nextRaw = (.ok none, s) := by
  rw [nextRaw, isDone_iff.1 h]

/-- A change of the symbols does not look again. -/
theorem refresh_of_isDone (h : s.isDone = true) : s.refresh = s := by
  rw [refresh, isDone_iff.1 h]

/-- There are no tokens to run over. -/
theorem Run.of_isDone (hrun : Run s tokens t) (h : s.isDone = true) : tokens = [] ∧ t = s := by
  cases hrun with
  | nil => exact ⟨rfl, rfl⟩
  | cons hfirst _ =>
    rw [nextRaw_of_isDone h] at hfirst
    cases hfirst

/-- Whichever way tokens are asked for, the end is found, and nothing changes. -/
theorem Taken.of_isDone {reply : Reply} {last : Except Unterminated (Option Token)}
    (htaken : s.Taken reply last) (h : s.isDone = true) :
    last = .ok none ∧ tokensOf reply.events = [] ∧ reply.session = s := by
  obtain ⟨tokens, t, hrun, hlast, hevents⟩ := htaken.exists_run
  obtain ⟨rfl, rfl⟩ := hrun.of_isDone h
  rw [nextRaw_of_isDone h] at hlast
  obtain ⟨rfl, hsession⟩ := Prod.mk.inj hlast
  exact ⟨rfl, hevents, hsession.symm⟩

/-! ### Calls that bind nothing -/

/-- **On a session that is done, every call that asks for tokens finds the end.** -/
theorem findsEnd_perform (h : s.isDone = true) (call : Call) :
    call.FindsEnd (s.perform call).answer := by
  cases call with
  | next => exact congrArg Answer.token ((taken_next s).of_isDone h).1
  | nextRaw => exact congrArg Answer.token ((taken_nextRaw s).of_isDone h).1
  | item =>
    rw [perform_item]
    exact congrArg Answer.token ((taken_next s).of_isDone h).1
  | tokens =>
    obtain ⟨hending, hevents, -⟩ := (taken_tokens s).of_isDone h
    have hextracted : (s.scan false).extracted = [] := (tokensOf_extractions _).symm.trans hevents
    refine congrArg Answer.tokens ?_
    rw [Scan.result, ← Scan.lastOpen_ending, hending, tokens_scan, hextracted]
    rfl
  | openText _ | openReads _ | openFile _ _ | bind _ => exact trivial
  | registerDigraph _ | registerSingle _ | close => exact trivial

/-- **A call that binds nothing extracts nothing from a session that is done**, and leaves it where
it stands. -/
theorem isDone_perform (h : s.isDone = true) {call : Call} (hcall : call.BindsNothing) :
    tokensOf (s.perform call).events = [] ∧ (s.perform call).session.isDone = true ∧
      (s.perform call).session.line = s.line := by
  have hrefresh (symbols : SymbolTable) :
      ({ s with symbols } : Session).refresh = { s with symbols } := refresh_of_isDone h
  by_cases hasks : call.AsksForTokens
  · obtain ⟨last, htaken⟩ := exists_taken s hasks
    obtain ⟨-, hevents, hsession⟩ := htaken.of_isDone h
    rw [hsession]
    exact ⟨hevents, h, rfl⟩
  rcases hcall with hcall | rfl
  · cases call with
    | next | nextRaw | item | tokens => exact absurd trivial hasks
    | openText _ | bind _ | close => exact hcall.elim
    | openReads reads =>
      obtain ⟨error, herror⟩ := hcall
      rw [perform_openReads_error herror]
      exact ⟨rfl, h, rfl⟩
    | openFile files path =>
      obtain ⟨error, herror⟩ := hcall
      rw [perform_openFile_error herror]
      exact ⟨rfl, h, rfl⟩
    | registerDigraph pattern =>
      have hafter : (s.perform (.registerDigraph pattern)).session =
          { s with symbols := (s.symbols.registerDigraph pattern).2 } := hrefresh _
      rw [hafter]
      exact ⟨rfl, h, rfl⟩
    | registerSingle pattern =>
      have hafter : (s.perform (.registerSingle pattern)).session =
          { s with symbols := (s.symbols.registerSingle pattern).2 } := hrefresh _
      rw [hafter]
      exact ⟨rfl, h, rfl⟩
  · refine ⟨?_, rfl, line_close s⟩
    show tokensOf (s.source.map _).toList = []
    cases s.source <;> rfl

/-- **Any calls that bind nothing find the end**, and extract nothing, on a session that is done. -/
theorem isDone_performAll (h : s.isDone = true) {calls : List Call}
    (hcalls : ∀ call ∈ calls, call.BindsNothing) :
    List.Forall₂ Call.FindsEnd calls (s.performAll calls).1 ∧ s.extractedBy calls = [] ∧
      (s.performAll calls).2.isDone = true ∧ (s.performAll calls).2.line = s.line := by
  induction calls generalizing s with
  | nil => exact ⟨.nil, rfl, h, rfl⟩
  | cons call calls ih =>
    obtain ⟨hcall, hrest⟩ := List.forall_mem_cons.1 hcalls
    obtain ⟨hevents, hdone, hline⟩ := isDone_perform h hcall
    obtain ⟨hanswers, hextracted, hlast, hlines⟩ := ih hdone hrest
    refine ⟨.cons (findsEnd_perform h call) hanswers, ?_, hlast, hlines.trans hline⟩
    rw [extractedBy, hevents, hextracted, List.append_nil]

/-- A call that tells that no token comes any more, or lets go of the source, leaves a session that
is done. -/
theorem isDone_perform_of_endsScan (hs : s.IsCurrent) {call : Call}
    (h : (s.perform call).answer.EndsScan ∨ call = .close) :
    (s.perform call).session.isDone = true := by
  rcases h with h | rfl
  · exact (hs.perform call).isDone_iff.2 (remaining_perform_of_endsScan hs h)
  · rfl

/-- **A finished session stays finished.** Once a call has answered with the end, with an open
construct or with all the tokens that are left, or has let go of the source, every later call that
asks for tokens finds the end and no second construct, and nothing is extracted; the session is
done, and its line is the one on which it finished. Registrations, letting go of the source again
and sources that cannot be opened change nothing about this, whatever the feed would still give. -/
theorem performAll_of_endsScan (s : Session) (call : Call) (calls : List Call)
    (hs : s.IsReachable) (hend : (s.perform call).answer.EndsScan ∨ call = .close)
    (hcalls : ∀ call ∈ calls, call.BindsNothing) :
    let finished := (s.perform call).session
    List.Forall₂ Call.FindsEnd calls (finished.performAll calls).1 ∧
      finished.extractedBy calls = [] ∧ (finished.performAll calls).2.isDone = true ∧
      (finished.performAll calls).2.line = finished.line :=
  isDone_performAll (isDone_perform_of_endsScan hs.isCurrent hend) hcalls

/-- A feed says "no more" within a directive, and would go on with the end of the line. The
directive is reported, and it is not found again, whatever is registered. -/
theorem performAll_of_endsScan_of_resuming_feed :
    let feed : Feed := { answers := [some '\n', some '#', none, some '\n', some 'b'] }
    let s := ((withSymbols .standard).performAll [.bind (.ofFeed feed)]).2
    let finished := (s.perform .next).session
    let calls : List Call :=
      [.nextRaw, .registerDigraph "\nb", .tokens, .registerSingle "#",
        .openReads [.fail (.reported .invalidInput "")], .item, .close, .next]
    s.IsReachable ∧ s.nextRaw.1 = .ok (some ⟨.whitespace, "\n", 1⟩) ∧
      s.next.result = .error ⟨.directive, 2⟩ ∧ (∀ call ∈ calls, call.BindsNothing) ∧
      List.Forall₂ Call.FindsEnd calls (finished.performAll calls).1 ∧
      (finished.performAll calls).2.isDone = true ∧ (finished.performAll calls).2.line = 2 := by
  intro feed s finished calls
  have hs : s.IsReachable := ⟨.standard, _, rfl⟩
  have hfirst : s.nextRaw.1 = .ok (some ⟨.whitespace, "\n", 1⟩) := by decide +kernel
  have hopen : s.next.result = .error ⟨.directive, 2⟩ := by decide +kernel
  have hend : (s.perform .next).answer.EndsScan := by
    show (Answer.token s.next.result).EndsScan
    rw [hopen]
    trivial
  have hfails : ∃ error, Source.ofReads [.fail (.reported .invalidInput "")] = .error error :=
    ⟨.read (.reported .invalidInput ""), rfl⟩
  have hcalls : ∀ call ∈ calls, call.BindsNothing := by
    simp [calls, Call.BindsNothing, Call.KeepsSource, hfails]
  obtain ⟨hanswers, -, hdone, hline⟩ := performAll_of_endsScan s .next calls hs (.inl hend) hcalls
  exact ⟨hs, hfirst, hopen, hcalls, hanswers, hdone, hline.trans (by decide +kernel)⟩

end Session

end TokenScan

import TokenScan.Proofs.Session.Reply
/-!
# Calls as steps

A call that keeps the source (`Call.KeepsSource`) asks for tokens, once or again and again, or
changes the symbols, or does nothing. `Session.Trail` is what any number of such calls comes to:
single steps in the order in which they were taken, with changes of the symbols in between, and what
was extracted and reported on the way. `trail_performAll` goes through the calls once and for all;
what single steps and changes of the symbols keep, calls keep, by induction on the trail.
-/

namespace TokenScan

/-- Whether a call leaves the source of a session bound and does not let go of it: it takes tokens,
registers symbols, or opens something that cannot be opened. -/
def Call.KeepsSource : Call → Prop
  | .openText _ | .bind _ | .close => False
  | .openReads reads => ∃ error, Source.ofReads reads = .error error
  | .openFile files path => ∃ error, files.openSource path = .error error
  | .next | .nextRaw | .item | .tokens | .registerDigraph _ | .registerSingle _ => True

namespace Session

variable {s t u : Session} {tokens more : List Token} {reported others : List Unterminated}

/-- What a session goes through while its source stays bound, with the tokens that are extracted and
the constructs that are reported as open. -/
inductive Trail (s : Session) : List Token → List Unterminated → Session → Prop where
  /-- Nothing happens. -/
  | refl : Trail s [] [] s
  /-- In the end a token is asked for. -/
  | ask {tokens : List Token} {reported : List Unterminated} {t u : Session}
      {result : Except Unterminated (Option Token)} (h : Trail s tokens reported t)
      (hnext : t.nextRaw = (result, u)) :
      Trail s (tokens ++ lastToken result) (reported ++ (lastOpen result).toList) u
  /-- In the end the symbols change. -/
  | change {tokens : List Token} {reported : List Unterminated} {t : Session}
      (h : Trail s tokens reported t) (symbols : SymbolTable) :
      Trail s tokens reported ({ t with symbols } : Session).refresh

theorem Trail.trans (h : Trail s tokens reported t) (h' : Trail t more others u) :
    Trail s (tokens ++ more) (reported ++ others) u := by
  induction h' with
  | refl =>
    rw [List.append_nil, List.append_nil]
    exact h
  | ask _ hnext ih =>
    rw [← List.append_assoc, ← List.append_assoc]
    exact ih.ask hnext
  | change _ symbols ih => exact ih.change symbols

/-- A trail keeps the pending kind right. -/
theorem Trail.isCurrent (h : Trail s tokens reported t) (hs : s.IsCurrent) : t.IsCurrent := by
  induction h with
  | refl => exact hs
  | ask _ hnext ih =>
    have hafter := ih.nextRaw
    rwa [hnext] at hafter
  | change _ symbols ih => exact ih.refresh symbols

theorem Run.trail (h : Run s tokens t) : Trail s tokens [] t := by
  induction h with
  | nil => exact .refl
  | @cons s t u token tokens h _ ih =>
    have hfirst : Trail s [token] [] t := .ask .refl h
    exact hfirst.trans ih

theorem Taken.trail {reply : Reply} {last : Except Unterminated (Option Token)}
    (h : s.Taken reply last) :
    Trail s (tokensOf reply.events) reply.answer.open?.toList reply.session := by
  obtain ⟨tokens, t, hrun, hlast, hevents⟩ := h.exists_run
  rw [hevents, h.open?_eq]
  exact hrun.trail.ask hlast

/-- **A call that keeps the source leaves a trail.** -/
theorem trail_perform (s : Session) {call : Call} (hcall : call.KeepsSource) :
    Trail s (tokensOf (s.perform call).events) (s.perform call).answer.open?.toList
      (s.perform call).session := by
  by_cases hasks : call.AsksForTokens
  · obtain ⟨last, htaken⟩ := exists_taken s hasks
    exact htaken.trail
  cases call with
  | next | nextRaw | item | tokens => exact absurd trivial hasks
  | openText _ | bind _ | close => exact hcall.elim
  | openReads reads =>
    obtain ⟨error, herror⟩ := hcall
    rw [perform_openReads_error herror]
    exact .refl
  | openFile files path =>
    obtain ⟨error, herror⟩ := hcall
    rw [perform_openFile_error herror]
    exact .refl
  | registerDigraph pattern => exact Trail.refl.change _
  | registerSingle pattern => exact Trail.refl.change _

/-- **Any calls that keep the source leave a trail.** -/
theorem trail_performAll (s : Session) {calls : List Call}
    (hcalls : ∀ call ∈ calls, call.KeepsSource) :
    Trail s (s.extractedBy calls) (s.reportedBy calls) (s.performAll calls).2 := by
  induction calls generalizing s with
  | nil => exact .refl
  | cons call calls ih =>
    obtain ⟨hcall, hrest⟩ := List.forall_mem_cons.1 hcalls
    rw [reportedBy_cons]
    exact (trail_perform s hcall).trans (ih _ hrest)

end Session

end TokenScan

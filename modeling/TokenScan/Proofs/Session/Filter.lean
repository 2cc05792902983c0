import TokenScan.Proofs.Session.Attribution
import TokenScan.Proofs.Session.Finished
import TokenScan.Proofs.Session.Reprint
/-!
# White space is what is left out

There are four ways to ask for tokens without white space, and they look at the first character of
each token to tell. That is the same as looking at its kind, under any table: a token starts with
white space exactly if white space is its kind, and then it holds nothing else (`Step.whitespace_iff`).
Symbols may hold white space, but none starts with it.

So each of the four gives the raw scan without the tokens of that kind. What carries this through
calls in any order is `Session.ResumesAt`: **the raw scan of a session is what calls extract, and then
the raw scan of the session they leave** (`resumesAt_performAll`). A call then finds the first visible
token of what is left of the raw scan, or its end (`next_eq_of_scan`).
-/

namespace TokenScan

/-- Whether a token is of another kind than white space. -/
def Token.isVisible (token : Token) : Bool := token.kind != .whitespace

theorem Token.isVisible_eq_true_iff {token : Token} :
    token.isVisible = true ↔ token.kind ≠ .whitespace := bne_iff_ne

/-- Whether a call asks for one token. -/
def Call.AsksForOne : Call → Prop
  | .next | .nextRaw | .item => True
  | .tokens | .openText _ | .openReads _ | .openFile _ _ | .bind _ => False
  | .registerDigraph _ | .registerSingle _ | .close => False

theorem Call.AsksForOne.asksForTokens {call : Call} (h : call.AsksForOne) :
    call.AsksForTokens := by
  cases call with
  | next | nextRaw | item => trivial
  | tokens | openText _ | openReads _ | openFile _ _ | bind _ => exact h.elim
  | registerDigraph _ | registerSingle _ | close => exact h.elim

/-- The first visible token of a stream, or how the stream ends if it has none. -/
def firstVisible (tokens : List Token) (ending : Except Unterminated (Option Token)) :
    Except Unterminated (Option Token) :=
  match tokens.find? Token.isVisible with
  | some token => .ok (some token)
  | none => ending

namespace Session

variable {s t u : Session} {tokens more : List Token} {reported others : List Unterminated}
  {token : Token}

/-! ### White space by kind and by character -/

/-- **The kind of a token is white space exactly if its first character is**, and then all of them
are. -/
theorem Step.whitespace_iff (h : s.Step (.ok (some token), t)) :
    (token.kind = .whitespace ↔ token.isWhitespace = true) ∧
      (token.kind = .whitespace → IsBlank token.text.toList) := by
  cases h with
  | @token k text _ hkind htext _ hremaining _ _ _ =>
    rw [hremaining] at hkind htext
    have hcuts : s.symbols.Cuts k text t.remaining := ⟨hkind, htext⟩
    refine ⟨?_, ?_⟩
    · rw [hcuts.isWhitespace_eq, decide_eq_true_iff]
    · rintro (rfl : k = .whitespace)
      rw [String.toList_ofList]
      exact Text.IsLongest.holds htext

/-- Every token of a trail is what some step takes. -/
theorem Trail.exists_step (h : Trail s tokens reported t) (hs : s.IsCurrent)
    (hmem : token ∈ tokens) : ∃ u v : Session, u.Step (.ok (some token), v) := by
  induction h with
  | refl => cases hmem
  | @ask tokens reported t u result h hnext ih =>
    rcases List.mem_append.1 hmem with hmem | hmem
    · exact ih hmem
    · have hstep := step_nextRaw (h.isCurrent hs)
      rw [hnext] at hstep
      rcases result with e | - | found
      · cases hmem
      · cases hmem
      · obtain rfl := List.mem_singleton.1 hmem
        exact ⟨t, u, hstep⟩
  | change _ _ ih => exact ih hmem

/-- Every token of a run is white space by kind exactly if it is by its first character. -/
theorem Run.isVisible_eq (h : Run s tokens t) (hs : s.IsCurrent) (hmem : token ∈ tokens) :
    token.isVisible = !token.isWhitespace := by
  obtain ⟨u, v, hstep⟩ := h.trail.exists_step hs hmem
  have hiff := hstep.whitespace_iff.1
  rw [Bool.eq_iff_iff, Token.isVisible_eq_true_iff, Bool.not_eq_true', ne_eq, hiff,
    Bool.not_eq_true]

/-! ### The raw scan goes on where calls have left it -/

/-- Whether the raw scan of a session is some tokens and then the raw scan of another session. The
two end in the same way, unless that was reported on the way. -/
structure ResumesAt (s : Session) (tokens : List Token) (reported : List Unterminated)
    (t : Session) : Prop where
  /-- The tokens come first, and the rest of the scan after them. -/
  tokens_eq : (s.scan true).tokens = tokens ++ (t.scan true).tokens
  /-- The ending is still to come, or what comes is the end. -/
  ending_eq : (t.scan true).ending = if reported.isEmpty then (s.scan true).ending else .ok none
  /-- The scans lead to the same session. -/
  session_eq : (t.scan true).session = (s.scan true).session

namespace ResumesAt

theorem refl (s : Session) : s.ResumesAt [] [] s := ⟨rfl, rfl, rfl⟩

theorem trans (h : s.ResumesAt tokens reported t) (h' : t.ResumesAt more others u) :
    s.ResumesAt (tokens ++ more) (reported ++ others) u where
  tokens_eq := by rw [h.tokens_eq, h'.tokens_eq, List.append_assoc]
  ending_eq := by
    rw [h'.ending_eq, h.ending_eq]
    rcases reported with - | ⟨e, reported⟩
    · rfl
    · rcases others with - | ⟨e', others⟩ <;> rfl
  session_eq := h'.session_eq.trans h.session_eq

end ResumesAt

/-- A run and one more step that gives no token are the raw scan. -/
theorem scan_true_of_run (hrun : Run s tokens t) {last : Except Unterminated (Option Token)}
    (hlast : t.nextRaw = (last, u)) (hend : ∀ token, last ≠ .ok (some token)) :
    (s.scan true).tokens = tokens ∧ (s.scan true).ending = last ∧ (s.scan true).session = u := by
  rw [← extracted_scan]
  exact scan_of_run hrun hlast hend true

/-- A session that is done has nothing to scan. -/
theorem scan_of_isDone (h : s.isDone = true) :
    (s.scan true).tokens = [] ∧ (s.scan true).ending = .ok none ∧ (s.scan true).session = s :=
  scan_true_of_run .nil (nextRaw_of_isDone h) nofun

theorem Run.resumesAt (h : Run s tokens t) : s.ResumesAt tokens [] t := by
  obtain ⟨v, hrun, hlast⟩ := run_scan t true
  rw [extracted_scan] at hrun
  obtain ⟨htokens, hending, hsession⟩ := scan_true_of_run (h.append hrun) hlast (Scan.ending_ne _)
  exact ⟨htokens, hending.symm, hsession.symm⟩

/-- A step that gives no token is the last one, and the session after it is done. -/
theorem resumesAt_of_last (ht : t.IsCurrent) {last : Except Unterminated (Option Token)}
    (hlast : t.nextRaw = (last, u)) (hend : ∀ token, last ≠ .ok (some token)) :
    t.ResumesAt [] (lastOpen last).toList u := by
  obtain ⟨htokens, hending, hsession⟩ := scan_true_of_run .nil hlast hend
  have hcurrent := ht.nextRaw
  have hstep := step_nextRaw ht
  rw [hlast] at hcurrent hstep
  obtain ⟨hnone, hdone, hsame⟩ :=
    scan_of_isDone (hcurrent.isDone_iff.2 (hstep.remaining_eq_nil hend))
  refine ⟨by rw [htokens, hnone, List.append_nil], ?_, by rw [hsame, hsession]⟩
  rw [hdone, hending]
  rcases last with e | - | token
  · rfl
  · rfl
  · exact absurd rfl (hend token)

/-- **Taking tokens leaves a session at which the raw scan goes on.** -/
theorem Taken.resumesAt {reply : Reply} {last : Except Unterminated (Option Token)}
    (h : s.Taken reply last) (hs : s.IsCurrent) :
    s.ResumesAt (tokensOf reply.events) reply.answer.open?.toList reply.session := by
  obtain ⟨tokens, t, hrun, hlast, hevents⟩ := h.exists_run
  rw [hevents, h.open?_eq]
  rcases last with e | - | token
  · exact hrun.resumesAt.trans (resumesAt_of_last (hrun.isCurrent hs) hlast nofun)
  · exact hrun.resumesAt.trans (resumesAt_of_last (hrun.isCurrent hs) hlast nofun)
  · exact (hrun.append (.single hlast)).resumesAt

/-- **Calls that ask for tokens leave a session at which the raw scan goes on**, in whatever order
they come. -/
theorem resumesAt_performAll (hs : s.IsCurrent) {calls : List Call}
    (hcalls : ∀ call ∈ calls, call.AsksForTokens) :
    s.ResumesAt (s.extractedBy calls) (s.reportedBy calls) (s.performAll calls).2 := by
  induction calls generalizing s with
  | nil => exact .refl s
  | cons call calls ih =>
    obtain ⟨hcall, hrest⟩ := List.forall_mem_cons.1 hcalls
    obtain ⟨last, htaken⟩ := exists_taken s hcall
    rw [reportedBy_cons]
    exact (htaken.resumesAt hs).trans (ih (hs.perform call) hrest)

/-! ### What is found -/

/-- Only white space is passed over. -/
theorem isVisible_of_mem_passed (hs : s.IsCurrent) (raw : Bool)
    (hmem : token ∈ (s.advance raw).passed) : token.isVisible = false := by
  obtain ⟨t, hrun, -⟩ := run_advance s raw
  have hunwanted := (isWanted_of_advance s raw).1 token hmem
  rw [hrun.isVisible_eq hs hmem, Bool.not_eq_false']
  simp only [isWanted, Bool.or_eq_true, not_or, Bool.not_eq_true, Bool.not_eq_false'] at hunwanted
  exact hunwanted.2

/-- **Asking for a token that is not white space finds the first visible token of the raw scan**, or
how it ends, and extracts nothing but white space in front of it. -/
theorem next_eq_of_scan (hs : s.IsCurrent) :
    s.next.result = firstVisible (s.scan true).tokens (s.scan true).ending ∧
      s.next.extracted = (s.scan true).tokens.takeWhile (!·.isVisible) ++
        ((s.scan true).tokens.find? Token.isVisible).toList := by
  obtain ⟨t, hrun, hlast⟩ := run_next s
  have hpassed : ∀ token ∈ s.next.passed, token.isVisible = false :=
    fun token hmem ↦ isVisible_of_mem_passed hs false hmem
  have hnone : s.next.passed.find? Token.isVisible = none :=
    List.find?_eq_none.2 fun token hmem ↦ Bool.eq_false_iff.1 (hpassed token hmem)
  have hall : ∀ token ∈ s.next.passed, (!token.isVisible) = true := by
    intro token hmem
    rw [hpassed token hmem]
    rfl
  have hresult := (isWhitespace_of_next s).2
  rw [Advance.extracted_eq]
  generalize s.next.passed = passed at hrun hnone hall ⊢
  generalize s.next.result = result at hlast hresult ⊢
  generalize s.next.session = u at hlast
  rcases result with e | - | token
  · obtain ⟨rfl, hending, -⟩ := scan_true_of_run hrun hlast nofun
    rw [firstVisible, hnone, hending, List.takeWhile_eq_self_iff.2 hall]
    exact ⟨rfl, rfl⟩
  · obtain ⟨rfl, hending, -⟩ := scan_true_of_run hrun hlast nofun
    rw [firstVisible, hnone, hending, List.takeWhile_eq_self_iff.2 hall]
    exact ⟨rfl, rfl⟩
  · -- the token comes behind what was passed over, and the rest of the scan behind it
    have hone := hrun.append (.single hlast)
    have hvisible : token.isVisible = true := by
      rw [hone.isVisible_eq hs (List.mem_append_right _ (List.mem_singleton_self token)),
        hresult token rfl]
      rfl
    rw [firstVisible, hone.resumesAt.tokens_eq, List.append_assoc, List.find?_append, hnone,
      List.takeWhile_append_of_pos hall]
    simp [hvisible, lastToken]

/-- A call for the next token answers with the first visible token of the raw scan, or how it ends,
whether the token is asked for itself or as an item of a stream. -/
theorem perform_eq_of_scan (hs : s.IsCurrent) {call : Call} (hcall : call = .next ∨ call = .item) :
    (s.perform call).answer =
        .token (firstVisible (s.scan true).tokens (s.scan true).ending) ∧
      tokensOf (s.perform call).events = (s.scan true).tokens.takeWhile (!·.isVisible) ++
        ((s.scan true).tokens.find? Token.isVisible).toList := by
  have hcall : s.perform call = s.perform .next := by
    rcases hcall with rfl | rfl
    · rfl
    · exact perform_item s
  obtain ⟨hresult, hextracted⟩ := next_eq_of_scan hs
  rw [hcall, ← hresult, ← hextracted]
  exact ⟨rfl, tokensOf_extractions _⟩

/-- Of what a call extracts, it gives all that is visible. -/
theorem filter_given_perform (hs : s.IsCurrent) {call : Call} (hcall : call.AsksForOne) :
    (s.perform call).answer.given.filter Token.isVisible =
      (tokensOf (s.perform call).events).filter Token.isVisible := by
  have hadvance (raw : Bool) :
      (s.advanceTelling raw).answer.given.filter Token.isVisible =
        (tokensOf (s.advanceTelling raw).events).filter Token.isVisible := by
    have hnone : (s.advance raw).passed.filter Token.isVisible = [] :=
      List.filter_eq_nil_iff.2 fun token hmem ↦
        Bool.eq_false_iff.1 (isVisible_of_mem_passed hs raw hmem)
    show ((Answer.token _).given).filter _ = (tokensOf (extractions _)).filter _
    rw [given_token, tokensOf_extractions, Advance.extracted_eq, List.filter_append, hnone,
      List.nil_append]
  cases call with
  | next => exact hadvance false
  | nextRaw => exact hadvance true
  | item =>
    rw [perform_item]
    exact hadvance false
  | tokens | openText _ | openReads _ | openFile _ _ | bind _ => exact hcall.elim
  | registerDigraph _ | registerSingle _ | close => exact hcall.elim

theorem filter_given_performAll (hs : s.IsCurrent) {calls : List Call}
    (hcalls : ∀ call ∈ calls, call.AsksForOne) :
    ((s.performAll calls).1.flatMap Answer.given).filter Token.isVisible =
      (s.extractedBy calls).filter Token.isVisible := by
  induction calls generalizing s with
  | nil => rfl
  | cons call calls ih =>
    obtain ⟨hcall, hrest⟩ := List.forall_mem_cons.1 hcalls
    show ((s.perform call).answer.given ++ _).filter _ = (tokensOf _ ++ _).filter _
    rw [List.filter_append, List.filter_append, filter_given_perform hs hcall]
    exact congrArg _ (ih (hs.perform call) hrest)

/-! ### All tokens at once -/

/-- Collects a stream of tokens: all of its items, or the first one that is an open construct. -/
def collect (s : Session) : Except Unterminated (List Token) × Session :=
  match _h : s.next.item with
  | some (.ok token) => (s.next.session.collect.1.map (token :: ·), s.next.session.collect.2)
  | some (.error e) => (.error e, s.next.session)
  | none => (.ok [], s.next.session)
termination_by s.toDo
decreasing_by
  all_goals
    have hresult : s.next.result = .ok (some token) := by
      rw [← s.next.mapM_item, _h]
      rfl
    have hnext : s.next = ⟨s.next.passed, .ok (some token), s.next.session⟩ := by rw [← hresult]
    exact toDo_next hnext

/-- A scan without white space comes to the token that is asked for and the scan behind it, or ends
as asking for a token does. -/
theorem scan_eq_of_next (s : Session) :
    s.scan false =
      match s.next.result with
      | .ok (some token) =>
        let rest := s.next.session.scan false
        { rest with tokens := token :: rest.tokens
                    extracted := s.next.passed ++ token :: rest.extracted }
      | .ok none => ⟨[], s.next.passed, none, s.next.session⟩
      | .error e => ⟨[], s.next.passed, some e, s.next.session⟩ := by
  rw [scan]
  split
  all_goals
    next h =>
    rw [show s.next = _ from h]

/-- **Collecting a stream of tokens comes to what asking for all tokens comes to.** -/
theorem collect_eq (s : Session) :
    s.collect = ((s.scan false).result, (s.scan false).session) := by
  have hresult := s.next.mapM_item
  fun_induction collect s with
  | case1 s token h ih =>
    rw [h] at hresult
    rw [scan_eq_of_next, ← hresult, ih (Advance.mapM_item _)]
    generalize s.next.session.scan false = rest
    obtain ⟨found, extracted, error, last⟩ := rest
    cases error <;> rfl
  | case2 s e h =>
    rw [h] at hresult
    rw [scan_eq_of_next, ← hresult]
    rfl
  | case3 s h =>
    rw [h] at hresult
    rw [scan_eq_of_next, ← hresult]
    rfl

/-- A scan without white space comes to the visible tokens of the raw scan, or the construct that it
finds open. -/
theorem result_scan_false (hs : s.IsCurrent) :
    (s.scan false).result =
      match (s.scan true).error with
      | none => .ok ((s.scan true).tokens.filter Token.isVisible)
      | some e => .error e := by
  obtain ⟨t, hrun, -⟩ := run_scan s true
  rw [extracted_scan] at hrun
  obtain ⟨htokens, herror, -⟩ := s.scan_false
  have hvisible : (s.scan true).tokens.filter (!·.isWhitespace) =
      (s.scan true).tokens.filter Token.isVisible :=
    List.filter_congr fun token hmem ↦ (hrun.isVisible_eq hs hmem).symm
  rw [← hvisible, ← htokens, ← herror]
  rfl

/-! ### The filter -/

/-- **What is left out is the white space, and nothing else.**

Under any table a token is white space by kind exactly if its first character is white space, and
then all of its characters are. Asking for all tokens, or collecting them as a stream, gives the raw
scan without these tokens, or the construct that the raw scan finds open, and leads to the session
that the raw scan leads to. When tokens are asked for one at a time, with white space or without and
in any order, what is extracted is a first part of the raw scan; what is extracted and not given is
white space; and the next token that is not white space is the first one that the rest of the raw
scan has, or the construct that is open there, or the end, with nothing but white space passed over
in front. -/
theorem filtered_eq_visible (s : Session) (source : Source) :
    let t := s.bind source
    let raw := t.scan true
    let filtered : Except Unterminated (List Token) :=
      match raw.error with
      | none => .ok (raw.tokens.filter Token.isVisible)
      | some e => .error e
    (∀ calls : List Call, (∀ call ∈ calls, call.KeepsSource) → ∀ token ∈ t.extractedBy calls,
        (token.kind = .whitespace ↔ token.isWhitespace = true) ∧
          (token.kind = .whitespace → IsBlank token.text.toList)) ∧
      (t.perform .tokens).answer = .tokens filtered ∧ t.collect.1 = filtered ∧
      ((t.perform .tokens).session = raw.session ∧ t.collect.2 = raw.session ∧
        raw.session.isDone = true) ∧
      ∀ calls : List Call, (∀ call ∈ calls, call.AsksForOne) →
        let answers := (t.performAll calls).1
        let u := (t.performAll calls).2
        let extracted := t.extractedBy calls
        ∃ rest, raw.tokens = extracted ++ rest ∧
          (answers.flatMap Answer.given).filter Token.isVisible =
            extracted.filter Token.isVisible ∧
          (u.isDone = true → u = raw.session) ∧
          ∀ call, call = .next ∨ call = .item →
            (u.perform call).answer = .token (firstVisible rest
                (if (t.reportedBy calls).isEmpty then raw.ending else .ok none)) ∧
              tokensOf (u.perform call).events =
                rest.takeWhile (!·.isVisible) ++ (rest.find? Token.isVisible).toList := by
  intro t raw filtered
  have ht : t.IsCurrent := isCurrent_bind s source
  have hsession := t.scan_false.2.2
  have hfiltered : (t.scan false).result = filtered := result_scan_false ht
  refine ⟨?_, congrArg Answer.tokens hfiltered, ?_, ⟨hsession, ?_, ?_⟩, ?_⟩
  · intro calls hcalls token hmem
    obtain ⟨u, v, hstep⟩ := (trail_performAll t hcalls).exists_step ht hmem
    exact hstep.whitespace_iff
  · rw [collect_eq]
    exact hfiltered
  · rw [collect_eq]
    exact hsession
  · exact (ht.scan true).isDone_iff.2 (remaining_scan ht true)
  · intro calls hcalls answers u extracted
    have hcurrent : u.IsCurrent := ht.performAll calls
    have hresumes : t.ResumesAt extracted (t.reportedBy calls) u :=
      resumesAt_performAll ht fun call hmem ↦ (hcalls call hmem).asksForTokens
    refine ⟨_, hresumes.tokens_eq, filter_given_performAll ht hcalls, ?_, ?_⟩
    · intro hdone
      rw [← hresumes.session_eq, (scan_of_isDone hdone).2.2]
    · intro call hcall
      rw [← hresumes.ending_eq]
      exact perform_eq_of_scan hcurrent hcall

/-- A symbol that holds white space is no white space: only the blank in front is left out. -/
example :
    let symbols := SymbolTable.empty.registerAll ["+ "] [" "]
    (((withSymbols symbols).bind (.ofText " + a")).scan false).tokens.map Token.text = ["+ ", "a"] := by
  decide +kernel

end Session

end TokenScan

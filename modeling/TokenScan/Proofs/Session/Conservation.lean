import TokenScan.Proofs.Session.Trail
/-!
# No character is lost, duplicated or reordered

Calls that keep the source (`Call.KeepsSource`) take tokens and change the symbols in any order.
`Conserved` is the account of a text that such calls leave behind:

* nothing is reported, and the text is that of the tokens, in order, and then what is left;
* one construct is reported, nothing is left, and the text is that of the tokens and then the
  construct, from its opening marker on, with no closing marker behind it.

Accounts add up (`Conserved.trans`), so that of a trail, and with it that of any number of calls,
follows from that of one step (`Step.conserved`). After an open construct no text is left for a
second one, which is why one is reported at most.
-/

namespace TokenScan

variable {cs mid left : List Char} {tokens more : List Token}
  {reported others : List Unterminated}

/-- The account of a text: what was taken from it, what was reported, and what is left. -/
inductive Conserved (cs : List Char) (tokens : List Token) :
    List Unterminated → List Char → Prop where
  /-- The tokens and what is left make up the text. -/
  | kept {left : List Char} (htext : cs = texts tokens ++ left) : Conserved cs tokens [] left
  /-- The tokens and an open construct make up the text, and nothing is left. -/
  | lost {c : Construct} {line : UInt32} {missing : List Char} (hopen : c.IsOpen missing)
      (htext : cs = texts tokens ++ missing) : Conserved cs tokens [⟨c.kind, line⟩] []

namespace Conserved

/-- From a text without characters nothing is taken, nothing is reported, and nothing is left. -/
theorem of_nil (h : Conserved [] tokens reported left) :
    texts tokens = [] ∧ reported = [] ∧ left = [] := by
  cases h with
  | kept htext =>
    obtain ⟨htokens, hleft⟩ := List.append_eq_nil_iff.1 htext.symm
    exact ⟨htokens, rfl, hleft⟩
  | lost hopen htext => exact absurd (List.append_eq_nil_iff.1 htext.symm).2 hopen.ne_nil

/-- What is reported is an open construct, and it is what the tokens lack of the text. -/
theorem of_mem (h : Conserved cs tokens reported left) {e : Unterminated} (he : e ∈ reported) :
    ∃ (c : Construct) (missing : List Char), e.construct = c.kind ∧ c.IsOpen missing ∧
      texts tokens ++ missing = cs := by
  cases h with
  | kept htext => cases he
  | lost hopen htext =>
    obtain rfl := List.mem_singleton.1 he
    exact ⟨_, _, rfl, hopen, htext.symm⟩

/-- Behind what is reported, nothing is left. -/
theorem eq_nil_of_mem (h : Conserved cs tokens reported left) {e : Unterminated}
    (he : e ∈ reported) : left = [] := by
  cases h with
  | kept htext => cases he
  | lost hopen htext => rfl

/-- **Accounts add up.** -/
theorem trans (h : Conserved cs tokens reported mid) (h' : Conserved mid more others left) :
    Conserved cs (tokens ++ more) (reported ++ others) left := by
  cases h with
  | kept htext =>
    cases h' with
    | kept htext' => exact .kept (by rw [htext, htext', texts_append, List.append_assoc])
    | lost hopen htext' =>
      exact .lost hopen (by rw [htext, htext', texts_append, List.append_assoc])
  | lost hopen htext =>
    -- nothing is left for what comes later
    obtain ⟨hmore, rfl, rfl⟩ := h'.of_nil
    exact .lost hopen (by rw [htext, texts_append, hmore, List.append_nil])

end Conserved

namespace Session

variable {s t u : Session}

/-! ### One step -/

/-- **A step conserves the text.** -/
theorem Step.conserved {result : Except Unterminated (Option Token)} (h : s.Step (result, t)) :
    Conserved s.remaining (lastToken result) (lastOpen result).toList t.remaining := by
  cases h with
  | finished _ => exact .kept rfl
  | token _ _ _ hremaining _ _ _ =>
    refine .kept ?_
    rw [lastToken, texts_cons, texts_nil, String.toList_ofList, List.append_nil]
    exact hremaining
  | unterminated _ hopen hleft _ _ _ =>
    rw [hleft]
    exact .lost hopen rfl

/-- Changing the symbols consumes nothing. -/
theorem remaining_refresh (s : Session) (symbols : SymbolTable) :
    ({ s with symbols } : Session).refresh.remaining = s.remaining := by
  obtain ⟨source, pending, _⟩ := s
  rcases pending with - | k
  · rfl
  · rcases source with - | source
    · rfl
    · exact remaining_bind _ _

/-! ### One call and any number of calls -/

/-- **A trail conserves the text.** -/
theorem Trail.conserved (h : Trail s tokens reported t) (hs : s.IsCurrent) :
    Conserved s.remaining tokens reported t.remaining := by
  induction h with
  | refl => exact .kept rfl
  | ask h hnext ih =>
    have hstep := step_nextRaw (h.isCurrent hs)
    rw [hnext] at hstep
    exact ih.trans hstep.conserved
  | change _ symbols ih =>
    rw [remaining_refresh]
    exact ih

/-- **Calls that keep the source conserve the text**, whatever their order. -/
theorem conserved_performAll (hs : s.IsCurrent) {calls : List Call}
    (hcalls : ∀ call ∈ calls, call.KeepsSource) :
    Conserved s.remaining (s.extractedBy calls) (s.reportedBy calls)
      (s.performAll calls).2.remaining := (trail_performAll s hcalls).conserved hs

/-! ### The end -/

/-- A step that gives no token leaves no text. -/
theorem Step.remaining_eq_nil {result : Except Unterminated (Option Token)}
    (h : s.Step (result, t)) (hresult : ∀ token, result ≠ .ok (some token)) : t.remaining = [] := by
  cases h with
  | finished hnil => exact hnil
  | token _ _ _ _ _ _ _ => exact absurd rfl (hresult _)
  | unterminated _ _ hnil _ _ _ => exact hnil

/-- A scan leaves no text. -/
theorem remaining_scan (hs : s.IsCurrent) (raw : Bool) : (s.scan raw).session.remaining = [] := by
  obtain ⟨t, hrun, hlast⟩ := run_scan s raw
  have hstep := step_nextRaw (hrun.isCurrent hs)
  rw [hlast] at hstep
  exact hstep.remaining_eq_nil (Scan.ending_ne _)

/-- Taking tokens until none comes leaves no text. -/
theorem Taken.remaining_eq_nil {reply : Reply} {last : Except Unterminated (Option Token)}
    (h : s.Taken reply last) (hs : s.IsCurrent) (hlast : ∀ token, last ≠ .ok (some token)) :
    reply.session.remaining = [] := by
  obtain ⟨tokens, t, hrun, hnext, -⟩ := h.exists_run
  have hstep := step_nextRaw (hrun.isCurrent hs)
  rw [hnext] at hstep
  exact hstep.remaining_eq_nil hlast

/-- **Once a call has told that no token comes any more, no text is left.** -/
theorem remaining_perform_of_endsScan (hs : s.IsCurrent) {call : Call}
    (h : (s.perform call).answer.EndsScan) : (s.perform call).session.remaining = [] := by
  have hlast {result : Except Unterminated (Option Token)} (h : (Answer.token result).EndsScan) :
      ∀ token, result ≠ .ok (some token) := by
    rintro token rfl
    exact h
  have hopened (before : List Event) (opened : Except OpenError Source) :
      ¬ (s.bindOpened before opened).answer.EndsScan := by
    cases opened <;> exact not_false
  cases call with
  | next => exact (taken_next s).remaining_eq_nil hs (hlast h)
  | nextRaw => exact (taken_nextRaw s).remaining_eq_nil hs (hlast h)
  | item =>
    rw [perform_item] at h ⊢
    exact (taken_next s).remaining_eq_nil hs (hlast h)
  | tokens => exact (taken_tokens s).remaining_eq_nil hs (Scan.ending_ne _)
  | openReads reads => exact absurd h (hopened _ _)
  | openFile files path => exact absurd h (hopened _ _)
  | openText _ | bind _ => exact h.elim
  | registerDigraph _ | registerSingle _ | close => exact h.elim

/-- Once the end has been answered, no text is left. -/
theorem remaining_performAll_of_end (hs : s.IsCurrent) {calls : List Call}
    (hcalls : ∀ call ∈ calls, call.KeepsSource)
    (h : Answer.token (.ok none) ∈ (s.performAll calls).1) :
    (s.performAll calls).2.remaining = [] := by
  induction calls generalizing s with
  | nil => cases h
  | cons call calls ih =>
    obtain ⟨-, hrest⟩ := List.forall_mem_cons.1 hcalls
    rcases List.mem_cons.1 h with h | h
    · -- the end was answered already, and the later calls find nothing more
      have hleft := conserved_performAll (hs.perform call) hrest
      have hend : (s.perform call).answer.EndsScan := h ▸ trivial
      rw [remaining_perform_of_endsScan hs hend] at hleft
      exact hleft.of_nil.2.2
    · exact ih (hs.perform call) hrest h

/-- Binding a text leaves out at most a byte order mark at its start. -/
theorem remaining_openText (s : Session) (text : String) :
    text.toList = Source.byteOrderMark :: (s.perform (.openText text)).session.remaining ∨
      text.toList = (s.perform (.openText text)).session.remaining ∧
        text.toList.head? ≠ some Source.byteOrderMark := by
  have hr : (s.perform (.openText text)).session.remaining = Source.withoutMark text.toList :=
    (remaining_bind _ _).trans (Source.remaining_ofText text)
  rw [hr]
  rcases text.toList with - | ⟨c, rest⟩
  · exact .inr ⟨rfl, fun h ↦ nomatch h⟩
  · rw [Source.withoutMark]
    split
    · next hc => exact .inl (by rw [hc])
    · next hc => exact .inr ⟨rfl, fun h ↦ hc (Option.some.inj h)⟩

/-- **No character is lost, duplicated or reordered**, whatever tokens are asked for and whatever
symbols are registered in between. While nothing is reported, the tokens and what is left make up
the text that was bound, and at the end the tokens alone do. When a construct is reported, it is
what the tokens lack of the text. -/
theorem texts_append_remaining (s : Session) (source : Source) (calls : List Call)
    (hcalls : ∀ call ∈ calls, call.KeepsSource) :
    let tokens := (s.bind source).extractedBy calls
    let reported := (s.bind source).reportedBy calls
    let last := ((s.bind source).performAll calls).2
    (reported = [] → texts tokens ++ last.remaining = source.remaining) ∧
      (reported = [] → Answer.token (.ok none) ∈ ((s.bind source).performAll calls).1 →
        texts tokens = source.remaining) ∧
      (∀ e ∈ reported, reported = [e] ∧ last.remaining = [] ∧
        texts tokens <+: source.remaining ∧ texts tokens ≠ source.remaining ∧
        ∃ (c : Construct) (missing : List Char), e.construct = c.kind ∧ c.IsOpen missing ∧
          texts tokens ++ missing = source.remaining) ∧
      ∀ text, text.toList = Source.byteOrderMark :: (s.perform (.openText text)).session.remaining ∨
        text.toList = (s.perform (.openText text)).session.remaining ∧
          text.toList.head? ≠ some Source.byteOrderMark := by
  intro tokens reported last
  have hs : (s.bind source).IsCurrent := isCurrent_bind s source
  have h : Conserved source.remaining tokens reported last.remaining := by
    rw [← remaining_bind s source]
    exact conserved_performAll hs hcalls
  have hend := remaining_performAll_of_end hs hcalls
  refine ⟨?_, ?_, ?_, s.remaining_openText⟩
  · intro hreported
    rw [hreported] at h
    cases h with
    | kept htext => exact htext.symm
  · intro hreported hanswer
    rw [hreported, hend hanswer] at h
    cases h with
    | kept htext => rw [htext, List.append_nil]
  · intro e he
    generalize reported = reported at h he ⊢
    generalize last.remaining = left at h ⊢
    cases h with
    | kept htext => cases he
    | lost hopen htext =>
      obtain rfl := List.mem_singleton.1 he
      refine ⟨rfl, rfl, ⟨_, htext.symm⟩, ?_, _, _, rfl, hopen, htext.symm⟩
      intro heq
      exact hopen.ne_nil (List.append_right_eq_self.1 (htext.symm.trans heq.symm))

/-- Between two tokens a digraph is registered and a stream fails. Nothing is reported up to there;
the second token is white space, and behind it a string is open. -/
theorem texts_append_remaining_of_open_string :
    let s : Session := (withSymbols .standard).bind (.ofText "a \"b")
    let calls : List Call :=
      [.nextRaw, .registerDigraph " \"", .openReads [.fail (.reported .invalidInput "")]]
    (∀ call ∈ calls ++ [.next], call.KeepsSource) ∧
      s.reportedBy calls = [] ∧
      texts (s.extractedBy calls) ++ (s.performAll calls).2.remaining = "a \"b".toList ∧
      s.reportedBy (calls ++ [.next]) = [⟨.quotedString, 1⟩] ∧
      ∃ (c : Construct) (missing : List Char), TokenKind.quotedString = c.kind ∧
        c.IsOpen missing ∧
        texts (s.extractedBy (calls ++ [.next])) ++ missing = "a \"b".toList := by
  intro s calls
  have hcalls : ∀ call ∈ calls ++ [.next], call.KeepsSource := by
    intro call hcall
    simp only [calls, List.cons_append, List.nil_append, List.mem_cons, List.not_mem_nil,
      or_false] at hcall
    rcases hcall with rfl | rfl | rfl | rfl
    · trivial
    · trivial
    · exact ⟨.read (.reported .invalidInput ""), rfl⟩
    · trivial
  have hbefore : s.reportedBy calls = [] := by decide +kernel
  have hafter : s.reportedBy (calls ++ [.next]) = [⟨.quotedString, 1⟩] := by decide +kernel
  have hkept := (texts_append_remaining _ (.ofText "a \"b") calls
    fun call hcall ↦ hcalls call (List.mem_append_left _ hcall)).1 hbefore
  have hlost := (texts_append_remaining _ (.ofText "a \"b") _ hcalls).2.2.1 _
    (hafter ▸ List.mem_singleton_self _)
  have hremaining : (Source.ofText "a \"b").remaining = "a \"b".toList := Source.remaining_ofText _
  obtain ⟨c, missing, hc, hopen, htext⟩ := hlost.2.2.2.2
  exact ⟨hcalls, hbefore, hkept.trans hremaining, hafter, c, missing, hc, hopen,
    htext.trans hremaining⟩

end Session

end TokenScan

import TokenScan.Proofs.Source.Cursor
import TokenScan.Source.Extract
/-!
# How far a source reads ahead of what is consumed

Whatever is done to a source is made of two things: looking some places ahead, and consuming the
next character. `Source.Reads` is the relation between a source and what it may become by doing
these, in any order, where `near` says which places may be looked at. There is one lemma for each
way of taking text, up to `reads_extract`, and two invariants that need to know nothing else:

* `Reads.length_queue_le` — **the queue holds no more than it held at first, or than the places that
  are looked at**, at every point on the way;
* `Accounts.reads` — **every request to the feed is accounted for**: the feed has given what was
  consumed and what is queued, in this order, and then has said "no more" once if the source takes
  it to have ended (`Source.Accounts`).

A source that lets go of its feed reads no more, so `close` has no part in this.
-/

namespace TokenScan

/-- The answers to a number of requests, one after the other, and the feed after them. -/
def Feed.requestMany (f : Feed) : Nat → List (Option Char) × Feed
  | 0 => ([], f)
  | n + 1 =>
    let (answers, g) := f.requestMany n
    (answers ++ [g.request.1], g.request.2)

@[simp] theorem Feed.requests_requestMany (f : Feed) (n : Nat) :
    (f.requestMany n).2.requests = f.requests + n := by
  induction n with
  | zero => rfl
  | succ n ih =>
    show (f.requestMany n).2.request.2.requests = _
    rw [requests_request, ih, Nat.add_assoc]

namespace Source

variable {near : Nat → Prop} {f : Feed} {s t u : Source} {cs : List Char}

/-- Whether looking ahead at some places and consuming, in any order, takes a source to another
one. -/
inductive Reads (near : Nat → Prop) (s : Source) : Source → Prop where
  /-- Nothing is done. -/
  | refl : Reads near s s
  /-- In the end some place is looked at. -/
  | look {t : Source} {k : Nat} (h : Reads near s t) (hk : near k) : Reads near s (t.peek k).2
  /-- In the end the next character is consumed, if there is one. -/
  | consume {t : Source} (h : Reads near s t) : Reads near s t.next.2

namespace Reads

theorem trans (h : Reads near s t) (h' : Reads near t u) : Reads near s u := by
  induction h' with
  | refl => exact h
  | look _ hk ih => exact ih.look hk
  | consume _ ih => exact ih.consume

theorem of_peek {k : Nat} {c? : Option Char} (h : s.peek k = (c?, t)) (hk : near k) :
    Reads near s t := by
  have hlook : Reads near s (s.peek k).2 := .look .refl hk
  rwa [h] at hlook

theorem of_next {c? : Option Char} (h : s.next = (c?, t)) : Reads near s t := by
  have hconsume : Reads near s s.next.2 := .consume .refl
  rwa [h] at hconsume

end Reads

/-! ### Everything is made of looking and consuming -/

theorem reads_startsWithAt (s : Source) (k : Nat) (cs : List Char)
    (hnear : ∀ i < cs.length, near (k + i)) : Reads near s (s.startsWithAt k cs).2 := by
  induction cs generalizing s k with
  | nil => exact .refl
  | cons c cs ih =>
    have hfirst : near k := hnear 0 (Nat.succ_pos _)
    rw [startsWithAt]
    split
    · next d t h =>
      split
      · refine (Reads.of_peek h hfirst).trans (ih t (k + 1) fun i hi ↦ ?_)
        have hi := hnear (i + 1) (Nat.succ_lt_succ hi)
        rwa [Nat.add_right_comm]
      · exact .of_peek h hfirst
    · next t h => exact .of_peek h hfirst

theorem reads_accept (s : Source) (c : Char) (h0 : near 0) : Reads near s (s.accept c).2 := by
  rw [accept]
  split
  · next d t h =>
    split
    · exact (Reads.of_peek h h0).consume
    · exact .of_peek h h0
  · next t h => exact .of_peek h h0

theorem reads_read (s : Source) (n : Nat) : Reads near s (s.read n).2 := by
  induction n generalizing s with
  | zero => exact .refl
  | succ n ih =>
    rw [read]
    split
    · next t h => exact .of_next h
    · next c t h => exact (Reads.of_next h).trans (ih t)

theorem reads_readWhile (s : Source) (p : Char → Bool) (h0 : near 0) :
    Reads near s (s.readWhile p).2 := by
  fun_induction readWhile s p with
  | case1 s c t h hc cs u hrec ih =>
    rw [hrec] at ih
    exact (Reads.of_peek h h0).consume.trans ih
  | case2 s c t h hc => exact .of_peek h h0
  | case3 s t h => exact .of_peek h h0

theorem reads_readThrough (s : Source) (c : Char) : Reads near s (s.readThrough c).2 := by
  fun_induction readThrough s c with
  | case1 s t h => exact .of_next h
  | case2 s t h => exact .of_next h
  | case3 s d t h hd cs found u hrec ih =>
    rw [hrec] at ih
    exact (Reads.of_next h).trans ih

theorem reads_readThroughStarSlash (s : Source) (h0 : near 0) :
    Reads near s s.readThroughStarSlash.2 := by
  -- a slash behind a star is looked for, which is one place ahead
  have hslash {t u : Source} {found : Bool} (h : t.accept '/' = (found, u)) : Reads near t u := by
    have haccept := reads_accept t '/' h0
    rwa [h] at haccept
  fun_induction readThroughStarSlash s with
  | case1 s t h => exact .of_next h
  | case2 s t u ha h => exact (Reads.of_next h).trans (hslash ha)
  | case3 s t u ha cs found v hrec h ih =>
    rw [hrec] at ih
    exact ((Reads.of_next h).trans (hslash ha)).trans ih
  | case4 s c t h hc cs found v hrec ih =>
    rw [hrec] at ih
    exact (Reads.of_next h).trans ih

theorem reads_eatThroughClosing (s : Source) (buffer : List Char) (c : Construct) (h0 : near 0) :
    Reads near s (s.eatThroughClosing buffer c).2 := by
  cases c
  case blockComment => exact reads_readThroughStarSlash s h0
  all_goals exact reads_readThrough s _

/-- An opening marker has two characters at most, so it is seen by looking at two places. -/
theorem reads_readConstruct (s : Source) (c : Construct) :
    Reads (· < 2) s (s.readConstruct c).2 := by
  have hlength : c.opening.length ≤ 2 := by cases c <;> decide
  have hopening : Reads (· < 2) s (s.startsWith c.opening).2 :=
    reads_startsWithAt s 0 c.opening fun i hi ↦ by omega
  rw [readConstruct]
  rcases hs : s.startsWith c.opening with ⟨found, t⟩
  rw [hs] at hopening
  cases found with
  | false => exact hopening
  | true =>
    have hclosing (buffer : List Char) :
        Reads (· < 2) s ((t.read c.opening.length).2.eatThroughClosing buffer c).2 :=
      (hopening.trans (reads_read t _)).trans (reads_eatThroughClosing _ buffer c Nat.zero_lt_two)
    dsimp only
    split <;> exact hclosing _

theorem reads_run (s : Source) (p : Char → Bool) (h0 : near 0) : Reads near s (s.run p).2 := by
  rw [run]
  split
  · next t h => exact .of_next h
  · next c t h => exact (Reads.of_next h).trans (reads_readWhile t p h0)

theorem reads_digraph (s : Source) (symbols : SymbolTable) :
    Reads (· < 2) s (s.digraph symbols).2 := by
  rw [digraph]
  split
  · next a t h =>
    have hfirst : Reads (· < 2) s t := .of_peek h Nat.zero_lt_two
    split
    · next b u hu =>
      have hsecond : Reads (· < 2) s u := hfirst.trans (.of_peek hu Nat.one_lt_two)
      split
      · exact hsecond.trans (reads_read u 2)
      · exact hsecond
    · next u hu => exact hfirst.trans (.of_peek hu Nat.one_lt_two)
  · next t h => exact (Reads.of_peek h Nat.zero_lt_two).look Nat.one_lt_two

/-- **Taking a token looks at two places.** -/
theorem reads_extract (s : Source) (symbols : SymbolTable) (k : TokenKind) :
    Reads (· < 2) s (s.extract symbols k).2 := by
  have construct (c : Construct) : Reads (· < 2) s (s.extractConstruct c).2 := by
    have h := reads_readConstruct s c
    rw [extractConstruct]
    rcases hread : s.readConstruct c with ⟨result, t⟩
    rw [hread] at h
    cases result <;> exact h
  cases k
  case lineComment => exact construct .lineComment
  case blockComment => exact construct .blockComment
  case quotedString => exact construct .quotedString
  case directive => exact construct .directive
  case digraph => exact reads_digraph s symbols
  case punctuation => exact reads_readWhile s _ Nat.zero_lt_two
  all_goals exact reads_run s _ Nat.zero_lt_two

/-- **Telling the kind of the next token looks at two places.** -/
theorem reads_nextKind (s : Source) (symbols : SymbolTable) :
    Reads (· < 2) s (s.nextKind symbols).2 := by
  rw [nextKind]
  split
  · next t h => exact .of_peek h Nat.zero_lt_two
  · next c t h =>
    have hfirst : Reads (· < 2) s t := .of_peek h Nat.zero_lt_two
    split
    · exact hfirst
    split
    · exact hfirst
    · exact hfirst.look Nat.one_lt_two

/-- Whatever is asked of a source that does not let go of its feed, it looks and consumes. -/
theorem reads_operate (s : Source) {op : Operation} (hop : op ≠ .close) :
    Reads (fun _ ↦ True) s (s.operate op).2 := by
  cases op with
  | peek k => exact .look .refl trivial
  | next => exact .consume .refl
  | isAtEnd => exact .look .refl trivial
  | accept c => exact reads_accept s c trivial
  | eatWhile _ p => exact reads_readWhile s p trivial
  | eatThrough _ c => exact reads_readThrough s c
  | close => exact absurd rfl hop

theorem reads_operateAll (s : Source) {ops : List Operation} (hops : ∀ op ∈ ops, op ≠ .close) :
    Reads (fun _ ↦ True) s (operateAll Source.operate s ops).2 := by
  induction ops generalizing s with
  | nil => exact .refl
  | cons op ops ih =>
    obtain ⟨hop, hrest⟩ := List.forall_mem_cons.1 hops
    exact (reads_operate s hop).trans (ih _ hrest)

/-! ### The queue -/

/-- Looking ahead fills the queue up to the place that is looked at. -/
theorem length_queue_peek_le (s : Source) (k : Nat) :
    (s.peek k).2.queue.length ≤ max s.queue.length (k + 1) := by
  have hfill : (s.peek k).2.queue = s.queue ++ s.unread.take (k + 1 - s.queue.length) :=
    queue_fill s _
  have htake : (s.unread.take (k + 1 - s.queue.length)).length ≤ k + 1 - s.queue.length :=
    List.length_take_le _ _
  rw [hfill, List.length_append]
  omega

/-- Consuming takes the first of the queue, and puts nothing into it. -/
theorem length_queue_next_le (s : Source) : s.next.2.queue.length ≤ s.queue.length := by
  rw [next]
  split
  · next c rest h =>
    rw [h]
    exact Nat.le_succ _
  · next h =>
    split
    · next t ht => rw [(unread_of_pull_none ht).2.2.1]
    · next c t ht =>
      show t.queue.length ≤ _
      rw [(unread_of_pull_some ht).2.1]

/-- **The queue holds no more than at first, or than the places that are looked at.** -/
theorem Reads.length_queue_le {n : Nat} (h : Reads (· < n) s t) :
    t.queue.length ≤ max s.queue.length n := by
  induction h with
  | refl => exact Nat.le_max_left _ _
  | @look t k _ hk ih =>
    have hlook := length_queue_peek_le t k
    have hplace : k < n := hk
    omega
  | @consume t _ ih => exact (length_queue_next_le t).trans ih

/-! ### The requests -/

/-- Whether a source has got some characters from a feed, and after them "no more" once if it takes
the feed to have ended, and has asked for nothing else. -/
def HasAsked (s : Source) (f : Feed) (cs : List Char) : Prop :=
  f.requestMany (cs.length + s.drained.toNat) =
    (cs.map some ++ List.replicate s.drained.toNat none, s.feed)

/-- Taking a character from the feed asks for one more, unless the feed has ended. -/
theorem HasAsked.pull (h : s.HasAsked f cs) {c? : Option Char} (hpull : s.pull = (c?, t)) :
    t.HasAsked f (cs ++ c?.toList) := by
  rw [Source.pull] at hpull
  split at hpull
  · obtain ⟨rfl, rfl⟩ := Prod.mk.inj hpull
    rw [Option.toList_none, List.append_nil]
    exact h
  · next hd =>
    obtain ⟨hc, rfl⟩ := Prod.mk.inj hpull
    have hasked : f.requestMany cs.length = (cs.map some, s.feed) := by
      rw [HasAsked, Bool.eq_false_iff.2 hd] at h
      simpa using h
    have hmore : f.requestMany (cs.length + 1) =
        (cs.map some ++ [s.feed.request.1], s.feed.request.2) := by
      rw [Feed.requestMany, hasked]
    rw [HasAsked]
    dsimp only
    rw [hc] at hmore ⊢
    cases c? with
    | none => simpa using hmore
    | some c => simpa using hmore

/-- Filling the queue asks for what comes into it. -/
theorem HasAsked.fill (h : s.HasAsked f (cs ++ s.queue)) (n : Nat) :
    (s.fill n).HasAsked f (cs ++ (s.fill n).queue) := by
  induction n generalizing s with
  | zero => exact h
  | succ n ih =>
    rw [Source.fill]
    split
    · next t hpull =>
      have hasked := h.pull hpull
      rwa [Option.toList_none, List.append_nil, ← (unread_of_pull_none hpull).2.2.1] at hasked
    · next c t hpull =>
      refine ih ?_
      have hasked := h.pull hpull
      rw [Option.toList_some, ← (unread_of_pull_some hpull).2.1, List.append_assoc] at hasked
      exact hasked

/-- Consuming asks for what does not come from the queue. -/
theorem HasAsked.next (h : s.HasAsked f (cs ++ s.queue)) :
    s.next.2.HasAsked f (cs ++ s.next.1.toList ++ s.next.2.queue) := by
  rw [Source.next]
  split
  · next c rest hq =>
    rw [hq] at h
    simpa [HasAsked] using h
  · next hq =>
    rw [hq, List.append_nil] at h
    split
    · next t hpull =>
      have hasked := h.pull hpull
      rw [(unread_of_pull_none hpull).2.2.1, hq, List.append_nil]
      exact hasked
    · next c t hpull =>
      have hasked := h.pull hpull
      show HasAsked _ f (cs ++ [c] ++ t.queue)
      rw [(unread_of_pull_some hpull).2.1, hq, List.append_nil]
      exact hasked

/-- Whether a source stands where some characters of a feed have been consumed, and has asked for
these, for what is queued, and for nothing else but the end. -/
structure Accounts (s : Source) (f : Feed) (consumed : List Char) : Prop where
  /-- What is consumed and what is left make up what the feed gives. -/
  content : consumed ++ s.remaining = f.content
  /-- What is consumed and what is queued was asked for. -/
  asked : s.HasAsked f (consumed ++ s.queue)

namespace Accounts

theorem ofFeed (f : Feed) : (ofFeed f).Accounts f [] := ⟨rfl, rfl⟩

/-- **Looking and consuming keep the account.** -/
theorem reads (h : s.Accounts f cs) (hreads : Reads near s t) :
    ∃ more, s.remaining = more ++ t.remaining ∧ t.Accounts f (cs ++ more) := by
  induction hreads with
  | refl => exact ⟨[], rfl, by rwa [List.append_nil]⟩
  | @look t k _ _ ih =>
    obtain ⟨more, hmore, hcontent, hasked⟩ := ih
    refine ⟨more, by rwa [remaining_peek], ?_, hasked.fill _⟩
    rwa [remaining_peek]
  | @consume t _ ih =>
    obtain ⟨more, hmore, hcontent, hasked⟩ := ih
    -- the next character is the first that is left
    have hfirst : t.remaining = t.next.1.toList ++ t.next.2.remaining := by
      obtain ⟨hc, hr, -⟩ := next_eq t
      rw [hc, hr]
      cases t.remaining <;> rfl
    rw [hfirst, ← List.append_assoc] at hmore hcontent
    refine ⟨more ++ t.next.1.toList, hmore, ?_, ?_⟩
    · rwa [← List.append_assoc]
    · rw [← List.append_assoc]
      exact hasked.next

/-- The number of requests is that of the characters consumed and queued, and one more if the feed
has said "no more". -/
theorem requests_eq (h : s.Accounts f cs) :
    s.feed.requests = f.requests + (cs.length + s.queue.length + s.drained.toNat) := by
  have hrequests := congrArg (fun answered ↦ answered.2.requests) h.asked
  rw [Feed.requests_requestMany, List.length_append] at hrequests
  exact hrequests.symm

/-- What the feed has answered so far, and that nothing but the queue was changed in it since. -/
theorem requestMany_eq (h : s.Accounts f cs) :
    f.requestMany (s.feed.requests - f.requests) =
      ((cs ++ s.queue).map some ++ List.replicate s.drained.toNat none, s.feed) := by
  rw [h.requests_eq, Nat.add_sub_cancel_left, ← List.length_append]
  exact h.asked

/-- The feed has said "no more" if and only if the source takes it to have ended. -/
theorem none_mem_iff (h : s.Accounts f cs) :
    none ∈ (f.requestMany (s.feed.requests - f.requests)).1 ↔ s.drained = true := by
  rw [h.requestMany_eq]
  cases s.drained <;> simp

/-- "No more" is the last answer, if it is one at all. -/
theorem none_not_mem_dropLast (h : s.Accounts f cs) :
    none ∉ (f.requestMany (s.feed.requests - f.requests)).1.dropLast := by
  rw [h.requestMany_eq]
  cases s.drained with
  | false =>
    intro hmem
    have hsome := (List.dropLast_subset _) hmem
    simp at hsome
  | true => simp

end Accounts

end Source

/-! ### The requests of operations -/

/-- An operation moves a cursor over its list, unless it lets go of it. -/
theorem Cursor.consumed_append_rest_operate (c : Cursor) {op : Operation} (hop : op ≠ .close) :
    (c.operate op).2.consumed ++ (c.operate op).2.rest = c.consumed ++ c.rest := by
  have hadvance (n : Nat) :
      (c.advance n).consumed ++ (c.advance n).rest = c.consumed ++ c.rest := by
    rw [advance, List.append_assoc, List.take_append_drop]
  cases op with
  | peek k => rfl
  | isAtEnd => rfl
  | next => exact hadvance 1
  | accept d =>
    rw [operate]
    split
    · exact hadvance 1
    · rfl
  | eatWhile _ p => exact hadvance _
  | eatThrough _ d => exact hadvance _
  | close => exact absurd rfl hop

theorem Cursor.consumed_append_rest_operateAll (c : Cursor) {ops : List Operation}
    (hops : ∀ op ∈ ops, op ≠ .close) :
    (operateAll Cursor.operate c ops).2.consumed ++ (operateAll Cursor.operate c ops).2.rest =
      c.consumed ++ c.rest := by
  induction ops generalizing c with
  | nil => rfl
  | cons op ops ih =>
    obtain ⟨hop, hrest⟩ := List.forall_mem_cons.1 hops
    exact (ih _ hrest).trans (consumed_append_rest_operate c hop)

/-- **Operations on a source over a feed keep the account**, and what is consumed is what a cursor
over the content of the feed consumes. -/
theorem Source.accounts_operateAll (feed : Feed) {ops : List Operation}
    (hops : ∀ op ∈ ops, op ≠ .close) :
    (operateAll Source.operate (.ofFeed feed) ops).2.Accounts feed
      (operateAll Cursor.operate (.start feed.content) ops).2.consumed := by
  obtain ⟨-, htracks⟩ := (Tracks.ofFeed feed).operateAll ops
  obtain ⟨more, -, haccounts⟩ := (Accounts.ofFeed feed).reads (reads_operateAll _ hops)
  -- the content of the feed is cut in two on both sides, and the second half is the same
  have hcursor := Cursor.consumed_append_rest_operateAll (.start feed.content) hops
  have hcontent : more ++ _ = feed.content := haccounts.content
  rw [htracks.remaining] at hcontent
  have hsame := List.append_cancel_right (hcontent.trans hcursor.symm)
  rw [← hsame]
  exact haccounts

end TokenScan

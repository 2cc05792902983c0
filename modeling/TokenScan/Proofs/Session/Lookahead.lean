import TokenScan.Proofs.Session.Trail
import TokenScan.Proofs.Source.Lookahead
/-!
# How far a session reads ahead

A session does nothing to its source but look at two places and consume: to take a token
(`reads_nextRaw`), and to look again for the kind of the next one (`reads_refresh`). Hence so does a
trail (`Trail.reads`), and the two invariants of `Source.Reads` hold of any calls: **the queue holds
two characters, or what it held when the source was bound**, and every request to the feed is
accounted for (`requests_eq_and_length_queue_le`).
-/

namespace TokenScan.Session

variable {s t : Session} {source : Source} {tokens : List Token} {reported : List Unterminated}

/-- Asking for a token looks at two places and consumes. -/
theorem reads_nextRaw (hsource : s.source = some source) :
    ∃ rest, s.nextRaw.2.source = some rest ∧ source.Reads (· < 2) rest := by
  obtain ⟨_, pending, symbols⟩ := s
  obtain rfl : _ = some source := hsource
  cases pending with
  | none => exact ⟨source, rfl, .refl⟩
  | some k =>
    have hextract := source.reads_extract symbols k
    rcases he : source.extract symbols k with ⟨result, rest⟩
    rw [he] at hextract
    cases result with
    | error e => exact ⟨rest, by simp only [nextRaw, he], hextract⟩
    | ok text =>
      refine ⟨(rest.nextKind symbols).2, ?_, hextract.trans (rest.reads_nextKind symbols)⟩
      simp only [nextRaw, he]
      rfl

/-- Looking again for the kind of the next token looks at two places. -/
theorem reads_refresh (hsource : s.source = some source) :
    ∃ rest, s.refresh.source = some rest ∧ source.Reads (· < 2) rest := by
  obtain ⟨_, pending, symbols⟩ := s
  obtain rfl : _ = some source := hsource
  cases pending with
  | none => exact ⟨source, rfl, .refl⟩
  | some k => exact ⟨_, rfl, source.reads_nextKind symbols⟩

/-- **A trail looks at two places and consumes.** -/
theorem Trail.reads (h : Trail s tokens reported t) (hsource : s.source = some source) :
    ∃ rest, t.source = some rest ∧ source.Reads (· < 2) rest := by
  induction h with
  | refl => exact ⟨source, hsource, .refl⟩
  | ask _ hnext ih =>
    obtain ⟨mid, hmid, hbefore⟩ := ih
    obtain ⟨rest, hrest, hafter⟩ := reads_nextRaw hmid
    rw [hnext] at hrest
    exact ⟨rest, hrest, hbefore.trans hafter⟩
  | @change _ _ t _ symbols ih =>
    obtain ⟨mid, hmid, hbefore⟩ := ih
    have hchanged : ({ t with symbols } : Session).source = some mid := hmid
    obtain ⟨rest, hrest, hafter⟩ := reads_refresh hchanged
    exact ⟨rest, hrest, hbefore.trans hafter⟩

/-- Calls on a source that was just bound look at two places and consume. -/
theorem reads_performAll (s : Session) (source : Source) {calls : List Call}
    (hcalls : ∀ call ∈ calls, call.KeepsSource) :
    ∃ rest, ((s.bind source).performAll calls).2.source = some rest ∧
      source.Reads (· < 2) rest := by
  obtain ⟨rest, hrest, hreads⟩ := (trail_performAll (s.bind source) hcalls).reads rfl
  exact ⟨rest, hrest, (source.reads_nextKind s.symbols).trans hreads⟩

/-- **Every request to a feed is accounted for, and a session reads two characters ahead at most.**

Whatever is asked of a source over a feed, short of letting go of it, the feed has been asked for
the characters that are consumed and those that are queued, and once more if it has said "no more",
which was its last answer then. Whatever is asked of a session, it does nothing to the source that
was bound but look at two places and consume. At any point of this the queue holds two characters at
most, or as many as when the source was bound; and a feed that had been asked for nothing has been
asked for two characters more than are consumed at most, and for the end. -/
theorem requests_eq_and_length_queue_le :
    (∀ (feed : Feed) (ops : List Operation), (∀ op ∈ ops, op ≠ .close) →
      let s := (operateAll Source.operate (.ofFeed feed) ops).2
      let consumed := (operateAll Cursor.operate (.start feed.content) ops).2.consumed
      let (answers, left) := feed.requestMany (s.feed.requests - feed.requests)
      s.feed.requests =
          feed.requests + (consumed.length + s.queue.length + if none ∈ answers then 1 else 0) ∧
        none ∉ answers.dropLast ∧ answers.filterMap id = consumed ++ s.queue ∧ left = s.feed) ∧
    ∀ (s : Session) (source : Source) (calls : List Call), (∀ call ∈ calls, call.KeepsSource) →
      ∃ t, ((s.bind source).performAll calls).2.source = some t ∧ source.Reads (· < 2) t ∧
        ∀ u : Source, source.Reads (· < 2) u →
          u.queue.length ≤ max source.queue.length 2 ∧
            ∀ feed, source = .ofFeed feed → ∃ consumed, consumed ++ u.remaining = feed.content ∧
              u.feed.requests ≤ feed.requests + (consumed.length + 2 +
                if none ∈ (feed.requestMany (u.feed.requests - feed.requests)).1 then 1 else 0) := by
  -- the end is counted where the source knows of it
  have hend {f : Feed} {s : Source} {cs : List Char} (h : s.Accounts f cs) :
      (if none ∈ (f.requestMany (s.feed.requests - f.requests)).1 then 1 else 0) =
        s.drained.toNat := by
    rw [if_congr h.none_mem_iff rfl rfl]
    cases s.drained <;> rfl
  refine ⟨fun feed ops hops ↦ ?_, fun s source calls hcalls ↦ ?_⟩
  · have h := Source.accounts_operateAll feed hops
    refine ⟨?_, h.none_not_mem_dropLast, ?_, ?_⟩
    · rw [hend h]
      exact h.requests_eq
    · rw [h.requestMany_eq]
      simp
    · rw [h.requestMany_eq]
  · obtain ⟨t, ht, hreads⟩ := reads_performAll s source hcalls
    refine ⟨t, ht, hreads, fun u hu ↦ ⟨hu.length_queue_le, ?_⟩⟩
    rintro feed rfl
    obtain ⟨consumed, -, h⟩ := (Source.Accounts.ofFeed feed).reads hu
    have hqueue := hu.length_queue_le
    have hfresh : (Source.ofFeed feed).queue.length = 0 := rfl
    refine ⟨consumed, h.content, ?_⟩
    rw [hend h, h.requests_eq, List.nil_append]
    omega

/-- A feed that would go on after it has said "no more". It is asked far beyond its end, and no more
after that; then a source over it that was queued to its end is bound and scanned. -/
theorem requests_eq_and_length_queue_le_of_resuming_feed :
    let feed : Feed := { answers := [some 'a', some '\n', some '"', none, some 'b'] }
    let ops : List Operation := [.peek 7, .next, .eatThrough [] '"', .peek 0, .next]
    let s := (operateAll Source.operate (.ofFeed feed) ops).2
    let queued := ((Source.ofFeed feed).peek 7).2
    let calls : List Call := [.registerSingle "\"", .nextRaw, .registerDigraph "\n\"", .next]
    (∀ op ∈ ops, op ≠ .close) ∧ s.feed.requests = 4 ∧ none ∉ (feed.requestMany 4).1.dropLast ∧
      (∀ call ∈ calls, call.KeepsSource) ∧
      ∃ t, ((withSymbols .standard).bind queued |>.performAll calls).2.source = some t ∧
        t.queue.length ≤ 3 := by
  intro feed ops s queued calls
  have hops : ∀ op ∈ ops, op ≠ .close := by simp [ops]
  have hcalls : ∀ call ∈ calls, call.KeepsSource := by simp [calls, Call.KeepsSource]
  obtain ⟨hsource, hsession⟩ := requests_eq_and_length_queue_le
  obtain ⟨hrequests, hlast, -⟩ := hsource feed ops hops
  obtain ⟨t, ht, hreads, hpoints⟩ := hsession (withSymbols .standard) queued calls hcalls
  have hfour : s.feed.requests = 4 := by decide +kernel
  have hqueued : max queued.queue.length 2 = 3 := by decide +kernel
  refine ⟨hops, hfour, ?_, hcalls, t, ht, hqueued ▸ (hpoints t hreads).1⟩
  have hfresh : feed.requests = 0 := rfl
  rwa [hfour, hfresh] at hlast

end TokenScan.Session

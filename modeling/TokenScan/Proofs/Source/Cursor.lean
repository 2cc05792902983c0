import Mathlib.Data.List.Basic
import Mathlib.Data.List.TakeWhile
import TokenScan.Source.Basic
/-!
# A source is a place in a list

A source mixes a queue, a feed that may go on after it has said "no more", and the memory that it has
said so. None of this can be seen from outside: whatever is asked of a source, it answers like a
`Cursor`, which is a list cut in two, what has been consumed and what is left.

* `Source.Tracks` relates the two. It is about what remains and about the line, and about nothing
  else of the source, so looking ahead keeps it for free.
* `Tracks.operate` — one operation gives the same outcome and keeps the relation; each case rests on
  one lemma of `TokenScan.Source.Basic`.
* `operateAll_eq_cursor` — so does any sequence of operations, from any feed. The list is the
  `content` of the feed, which ends at the first "no more".
-/

namespace TokenScan

/-- What can be asked of a source of characters. -/
inductive Operation where
  /-- The character a number of places ahead. -/
  | peek (k : Nat)
  /-- The next character, which is consumed. -/
  | next
  /-- Whether no character is left. -/
  | isAtEnd
  /-- Consume the next character if it is this one. -/
  | accept (c : Char)
  /-- Consume characters into a buffer as long as they are in a class. -/
  | eatWhile (buffer : List Char) (p : Char → Bool)
  /-- Consume characters into a buffer through the first one that is the terminator. -/
  | eatThrough (buffer : List Char) (terminator : Char)
  /-- Let go of what is left. -/
  | close

/-- What comes of an operation. -/
inductive Outcome where
  /-- A character, or none at the end. -/
  | character (c : Option Char)
  /-- A yes or a no. -/
  | flag (b : Bool)
  /-- The buffer. -/
  | buffer (cs : List Char)
  /-- The buffer, and whether the terminator was consumed. -/
  | bufferThrough (cs : List Char) (found : Bool)
  /-- Nothing to tell. -/
  | done
  deriving DecidableEq

/-- Carries out operations one after the other, with some way to carry out one. -/
def operateAll {σ : Type} (operate : σ → Operation → Outcome × σ) (s : σ) :
    List Operation → List Outcome × σ
  | [] => ([], s)
  | op :: ops =>
    let (outcome, t) := operate s op
    let (outcomes, u) := operateAll operate t ops
    (outcome :: outcomes, u)

/-- Carries out an operation on a source. -/
def Source.operate (s : Source) : Operation → Outcome × Source
  | .peek k => (.character (s.peek k).1, (s.peek k).2)
  | .next => (.character s.next.1, s.next.2)
  | .isAtEnd => (.flag s.isAtEnd.1, s.isAtEnd.2)
  | .accept c => (.flag (s.accept c).1, (s.accept c).2)
  | .eatWhile buffer p => (.buffer (s.eatWhile buffer p).1, (s.eatWhile buffer p).2)
  | .eatThrough buffer c =>
    let ((cs, found), t) := s.eatThrough buffer c
    (.bufferThrough cs found, t)
  | .close => (.done, s.close)

/-! ### The cursor -/

/-- A place in a list of characters. -/
structure Cursor where
  /-- What has been consumed. -/
  consumed : List Char
  /-- What is left. -/
  rest : List Char

namespace Cursor

/-- The place before the first character. -/
def start (cs : List Char) : Cursor := ⟨[], cs⟩

/-- Consumes a number of characters, or all of them if there are not so many. -/
def advance (c : Cursor) (n : Nat) : Cursor := ⟨c.consumed ++ c.rest.take n, c.rest.drop n⟩

/-- The line of the place: one more than the line feeds that have been consumed. -/
def line (c : Cursor) : Nat := 1 + c.consumed.count '\n'

/-- Carries out an operation on a cursor. Only what is consumed moves it; what `close` drops is not
consumed. -/
def operate (c : Cursor) : Operation → Outcome × Cursor
  | .peek k => (.character c.rest[k]?, c)
  | .next => (.character c.rest.head?, c.advance 1)
  | .isAtEnd => (.flag c.rest.isEmpty, c)
  | .accept d => if c.rest.head? = some d then (.flag true, c.advance 1) else (.flag false, c)
  | .eatWhile buffer p =>
    (.buffer (buffer ++ c.rest.takeWhile p), c.advance (c.rest.takeWhile p).length)
  | .eatThrough buffer d =>
    -- a terminator that is missing has the length of the list for its place
    (.bufferThrough (buffer ++ c.rest.take (c.rest.idxOf d + 1)) (c.rest.contains d),
      c.advance (c.rest.idxOf d + 1))
  | .close => (.done, { c with rest := [] })

end Cursor

/-! ### Reading as a cursor does -/

namespace Source

variable {s t : Source}

/-- Reading through a character takes what stands before its first place, and the character. -/
theorem readThrough_fst (s : Source) (c : Char) :
    (s.readThrough c).1 =
      (s.remaining.take (s.remaining.idxOf c + 1), s.remaining.contains c) := by
  fun_induction readThrough s c with
  | case1 s t h =>
    have hs := remaining_eq_nil_of_next h
    rw [hs]
    rfl
  | case2 s t h =>
    have hs := remaining_eq_cons_of_next h
    simp [hs]
  | case3 s d t h hd body found u hrec ih =>
    have hs := remaining_eq_cons_of_next h
    have hidx : (d :: t.remaining).idxOf c = t.remaining.idxOf c + 1 := List.idxOf_cons_ne _ hd
    have hmem : (d :: t.remaining).contains c = t.remaining.contains c := by
      simp [Ne.symm hd]
    rw [hrec] at ih
    obtain ⟨rfl, rfl⟩ := Prod.mk.inj ih
    rw [hs, hidx, hmem, List.take_succ_cons]

theorem remaining_readThrough (s : Source) (c : Char) :
    (s.readThrough c).2.remaining = s.remaining.drop (s.remaining.idxOf c + 1) := by
  have htext : (s.readThrough c).1.1 = s.remaining.take (s.remaining.idxOf c + 1) := by
    rw [readThrough_fst]
  have hsplit := append_readThrough s c
  rw [htext] at hsplit
  exact List.append_cancel_left (hsplit.trans (List.take_append_drop _ _).symm)

/-- Reading a run consumes as many characters as the run has. -/
theorem eatWhile_eq_drop (s : Source) (buffer : List Char) (p : Char → Bool) :
    (s.eatWhile buffer p).2.remaining = s.remaining.drop (s.remaining.takeWhile p).length ∧
      (s.eatWhile buffer p).2.line =
        lineAfter s.line (s.remaining.take (s.remaining.takeWhile p).length) := by
  have hsplit : s.remaining.takeWhile p ++ s.remaining.dropWhile p = s.remaining :=
    List.takeWhile_append_dropWhile
  have htake : s.remaining.take (s.remaining.takeWhile p).length = s.remaining.takeWhile p := by
    calc s.remaining.take (s.remaining.takeWhile p).length
      _ = (s.remaining.takeWhile p ++ s.remaining.dropWhile p).take
            (s.remaining.takeWhile p).length := by rw [hsplit]
      _ = s.remaining.takeWhile p := List.take_left
  have hdrop : s.remaining.drop (s.remaining.takeWhile p).length = s.remaining.dropWhile p := by
    calc s.remaining.drop (s.remaining.takeWhile p).length
      _ = (s.remaining.takeWhile p ++ s.remaining.dropWhile p).drop
            (s.remaining.takeWhile p).length := by rw [hsplit]
      _ = s.remaining.dropWhile p := List.drop_left
  rw [hdrop, htake]
  exact ⟨remaining_eatWhile s buffer p, line_eatWhile s buffer p⟩

/-! ### One operation -/

/-- Whether a source stands where a cursor stands. -/
structure Tracks (s : Source) (c : Cursor) : Prop where
  /-- The same is left. -/
  remaining : s.remaining = c.rest
  /-- The line counts the line feeds that have been consumed. -/
  line : s.line = lineAfter 1 c.consumed

namespace Tracks

variable {c : Cursor}

theorem ofFeed (feed : Feed) : (ofFeed feed).Tracks (.start feed.content) :=
  ⟨remaining_ofFeed feed, (lineAfter_nil 1).symm⟩

/-- What neither consumes nor drops a character leaves the cursor where it is. -/
theorem stay (h : s.Tracks c) (hr : t.remaining = s.remaining) (hl : t.line = s.line) :
    t.Tracks c := ⟨hr.trans h.remaining, hl.trans h.line⟩

/-- What consumes a number of characters moves the cursor by them. -/
theorem advance (h : s.Tracks c) {n : Nat} (hr : t.remaining = s.remaining.drop n)
    (hl : t.line = lineAfter s.line (s.remaining.take n)) : t.Tracks (c.advance n) where
  remaining := by
    rw [hr, h.remaining]
    rfl
  line := by
    rw [hl, h.line, h.remaining, ← lineAfter_append]
    rfl

/-- **One operation has the same outcome on a source and on its cursor, and leaves them together.** -/
theorem operate (h : s.Tracks c) (op : Operation) :
    (s.operate op).1 = (c.operate op).1 ∧ (s.operate op).2.Tracks (c.operate op).2 := by
  cases op with
  | peek k =>
    have hpeek := peek_fst s k
    rw [h.remaining] at hpeek
    exact ⟨congrArg _ hpeek, h.stay (remaining_peek s k) (line_peek s k)⟩
  | next =>
    obtain ⟨hfirst, hrest, hline⟩ := next_eq s
    have hone : s.next.1.toList = s.remaining.take 1 := by
      rw [hfirst]
      cases s.remaining <;> rfl
    have hdrop : s.next.2.remaining = s.remaining.drop 1 := by rw [hrest, List.drop_one]
    rw [hone] at hline
    rw [h.remaining] at hfirst
    exact ⟨congrArg _ hfirst, h.advance hdrop hline⟩
  | isAtEnd =>
    have hend := isAtEnd_fst s
    rw [h.remaining] at hend
    exact ⟨congrArg _ hend, h.stay (remaining_peek s 0) (line_peek s 0)⟩
  | accept d =>
    show (Outcome.flag (s.accept d).1 = _) ∧ _
    rcases ha : s.accept d with ⟨found, t⟩
    cases found with
    | true =>
      obtain ⟨hs, hline⟩ := eq_of_accept_true ha
      have hhead : c.rest.head? = some d := by rw [← h.remaining, hs]; rfl
      have hdrop : t.remaining = s.remaining.drop 1 := by rw [hs]; rfl
      have hlast : t.line = lineAfter s.line (s.remaining.take 1) := by rw [hs]; exact hline
      rw [Source.operate, Cursor.operate, if_pos hhead, ha]
      exact ⟨rfl, h.advance hdrop hlast⟩
    | false =>
      obtain ⟨hhead, hr, hl⟩ := eq_of_accept_false ha
      rw [h.remaining] at hhead
      rw [Source.operate, Cursor.operate, if_neg hhead, ha]
      exact ⟨rfl, h.stay hr hl⟩
  | eatWhile buffer p =>
    have htext := eatWhile_fst s buffer p
    obtain ⟨hrest, hline⟩ := eatWhile_eq_drop s buffer p
    have hmoved := h.advance hrest hline
    rw [h.remaining] at htext hmoved
    exact ⟨congrArg _ htext, hmoved⟩
  | eatThrough buffer d =>
    have hread := readThrough_fst s d
    have hrest := remaining_readThrough s d
    have hline := line_readThrough s d
    rw [hread] at hline
    refine ⟨?_, ?_⟩
    · show Outcome.bufferThrough (buffer ++ (s.readThrough d).1.1) (s.readThrough d).1.2 = _
      rw [hread, h.remaining]
      rfl
    · have hmoved := h.advance hrest hline
      rw [h.remaining] at hmoved
      exact hmoved
  | close => exact ⟨rfl, remaining_close s, h.line⟩

end Tracks

/-! ### Any number of operations -/

/-- Operations have the same outcomes on a source and on its cursor, and leave them together. -/
theorem Tracks.operateAll {c : Cursor} (h : s.Tracks c) (ops : List Operation) :
    (operateAll Source.operate s ops).1 = (operateAll Cursor.operate c ops).1 ∧
      (operateAll Source.operate s ops).2.Tracks (operateAll Cursor.operate c ops).2 := by
  induction ops generalizing s c with
  | nil => exact ⟨rfl, h⟩
  | cons op ops ih =>
    obtain ⟨hfirst, hnext⟩ := h.operate op
    obtain ⟨hrest, hlast⟩ := ih hnext
    exact ⟨congrArg₂ List.cons hfirst hrest, hlast⟩

/-- **Whatever is asked of a source over a feed, in whatever order, it answers like a cursor over the
content of the feed**, and it is left with what the cursor is left with. Its line is one more than
the line feeds that were consumed, counted without bound as long as the counter can hold them. -/
theorem operateAll_eq_cursor (feed : Feed) (ops : List Operation) :
    let (outcomes, s) := TokenScan.operateAll Source.operate (.ofFeed feed) ops
    let (expected, c) := TokenScan.operateAll Cursor.operate (.start feed.content) ops
    outcomes = expected ∧ s.remaining = c.rest ∧ s.line = lineAfter 1 c.consumed ∧
      (c.consumed.count '\n' < UInt32.size - 1 → s.line.toNat = c.line) := by
  obtain ⟨houtcomes, htracks⟩ := (Tracks.ofFeed feed).operateAll ops
  refine ⟨houtcomes, htracks.remaining, htracks.line, fun hlt ↦ ?_⟩
  rw [htracks.line]
  exact toNat_lineAfter (by simp; omega)

end Source

end TokenScan

import TokenScan.Text.Quoted
import TokenScan.Text.Stream
/-!
# Character sources

A `Feed` answers requests for characters one at a time. An answer may be "no more", and a feed that
has said so may well have an answer for the next request; its `content` is what it gives before the
first such answer. A feed counts the requests made to it.

A `Source` reads a feed with lookahead. Characters that were looked at and not yet consumed wait in
a queue, and the feed is not asked again once it has said "no more". The source counts lines: it
starts at one, and each line feed that is *consumed* adds one.

## Main statements

Everything a source does is seen through `Source.remaining`, the characters it has yet to give.

* `peek_fst`, `remaining_peek`: looking ahead indexes the remaining characters and keeps them.
* `next_eq`: consuming takes the first of them.
* `eatWhile_fst`, `remaining_eatWhile`: a run is the longest prefix in the class.
* `append_readThrough`: reading through a character takes a prefix off.
* `line_eatWhile`, `line_readThrough`: the line moves with the line feeds consumed.
-/

namespace TokenScan

/-- A supply of characters that is asked for one at a time.

Finitely many answers are enough. An operation that comes to an end has asked finitely often, and so
has a run of such operations. Of a supply without end such a run sees only a beginning: answers that
it does not ask for can be left out. -/
structure Feed where
  /-- The answers still to come. After the last, the answer is always "no more". -/
  answers : List (Option Char)
  /-- How many requests have been made. -/
  requests : Nat := 0

namespace Feed

/-- A feed that gives some characters and ends. -/
def ofList (cs : List Char) : Feed := { answers := cs.map some }

/-- A feed that gives what is still to be read of a text. -/
def ofStream (t : TextStream) : Feed := ofList t.rest

/-- What a list of answers gives before the first "no more". -/
def given : List (Option Char) → List Char
  | some c :: rest => c :: given rest
  | _ => []

/-- The characters that a feed gives before it first says "no more". -/
def content (f : Feed) : List Char := given f.answers

/-- Asks for one character. -/
def request (f : Feed) : Option Char × Feed :=
  match f.answers with
  | [] => (none, { f with requests := f.requests + 1 })
  | answer :: rest => (answer, { answers := rest, requests := f.requests + 1 })

theorem content_ofList (cs : List Char) : (ofList cs).content = cs := by
  induction cs with
  | nil => rfl
  | cons c cs ih => exact congrArg (c :: ·) ih

theorem content_of_request_some {f g : Feed} {c : Char} (h : f.request = (some c, g)) :
    f.content = c :: g.content := by
  obtain ⟨answers, n⟩ := f
  cases answers with
  | nil => simp [request] at h
  | cons a rest =>
    simp only [request, Prod.mk.injEq] at h
    obtain ⟨rfl, rfl⟩ := h
    rfl

theorem content_of_request_none {f g : Feed} (h : f.request = (none, g)) : f.content = [] := by
  obtain ⟨answers, n⟩ := f
  cases answers with
  | nil => rfl
  | cons a rest =>
    simp only [request, Prod.mk.injEq] at h
    obtain ⟨rfl, rfl⟩ := h
    rfl

@[simp] theorem requests_request (f : Feed) : f.request.2.requests = f.requests + 1 := by
  rw [request]
  split <;> rfl

end Feed

/-- The line on which reading stands after consuming some characters from a line. -/
def lineAfter (line : UInt32) (cs : List Char) : UInt32 := line + UInt32.ofNat (cs.count '\n')

@[simp] theorem lineAfter_nil (line : UInt32) : lineAfter line [] = line := by
  simp [lineAfter]

theorem lineAfter_append (line : UInt32) (cs ds : List Char) :
    lineAfter line (cs ++ ds) = lineAfter (lineAfter line cs) ds := by
  simp only [lineAfter, List.count_append, UInt32.ofNat_add, UInt32.add_assoc]

theorem lineAfter_cons (line : UInt32) (c : Char) (cs : List Char) :
    lineAfter line (c :: cs) = lineAfter (lineAfter line [c]) cs :=
  lineAfter_append line [c] cs

/-- A counter of lines that does not overflow counts the line feeds. -/
theorem toNat_lineAfter {line : UInt32} {cs : List Char}
    (h : line.toNat + cs.count '\n' < UInt32.size) :
    (lineAfter line cs).toNat = line.toNat + cs.count '\n' := by
  have hcount : (UInt32.ofNat (cs.count '\n')).toNat = cs.count '\n' :=
    UInt32.toNat_ofNat_of_lt' (Nat.lt_of_le_of_lt (Nat.le_add_left _ _) h)
  rw [lineAfter, UInt32.toNat_add, hcount, Nat.mod_eq_of_lt h]

/-- A stream of characters with lookahead and a line counter. -/
structure Source where
  /-- Where characters come from. -/
  feed : Feed
  /-- Characters taken from the feed and not yet consumed, the next one first. -/
  queue : List Char := []
  /-- The current line. -/
  line : UInt32 := 1
  /-- Set once the feed has said "no more". -/
  drained : Bool := false

namespace Source

/-- The characters that the feed has yet to give. -/
def unread (s : Source) : List Char := if s.drained then [] else s.feed.content

/-- The characters that the source has yet to give. -/
def remaining (s : Source) : List Char := s.queue ++ s.unread

/-- What the feed has yet to give does not depend on the queue or the line. -/
theorem unread_mk (s : Source) (queue : List Char) (line : UInt32) :
    unread ⟨s.feed, queue, line, s.drained⟩ = s.unread := rfl

/-! ### Ways to make a source -/

/-- A source over a feed. -/
def ofFeed (feed : Feed) : Source := { feed }

/-- The character that marks the byte order at the start of some texts. -/
def byteOrderMark : Char := '\uFEFF'

/-- A text without its leading byte order mark, if it has one. -/
def withoutMark (cs : List Char) : List Char :=
  match cs with
  | c :: rest => if c = byteOrderMark then rest else cs
  | [] => []

/-- A source over a text, which is read from behind a leading byte order mark. -/
def ofText (text : String) : Source := ofFeed (.ofStream (.ofText byteOrderMark text))

theorem remaining_ofFeed (feed : Feed) : (ofFeed feed).remaining = feed.content := rfl

/-- What is read of a text is all of it but a leading byte order mark. -/
theorem rest_ofText (text : String) :
    (TextStream.ofText byteOrderMark text).rest = withoutMark text.toList := by
  rcases TextStream.isBetween_ofText byteOrderMark text with ⟨after, htext, h⟩ | ⟨hne, h⟩
  · rw [h.rest_eq, htext, withoutMark, if_pos rfl]
  · rw [h.rest_eq]
    cases hcs : text.toList with
    | nil => rfl
    | cons c cs =>
      have hc : c ≠ byteOrderMark := by
        rintro rfl
        exact hne (by rw [hcs]; rfl)
      rw [withoutMark, if_neg hc]

theorem remaining_ofText (text : String) : (ofText text).remaining = withoutMark text.toList :=
  (Feed.content_ofList _).trans (rest_ofText text)

/-! ### Taking characters from the feed -/

/-- Takes one character from the feed, unless the feed has said "no more". -/
def pull (s : Source) : Option Char × Source :=
  if s.drained then (none, s)
  else (s.feed.request.1, { s with feed := s.feed.request.2, drained := s.feed.request.1.isNone })

theorem unread_of_pull_some {s t : Source} {c : Char} (h : s.pull = (some c, t)) :
    s.unread = c :: t.unread ∧ t.queue = s.queue ∧ t.line = s.line := by
  rw [pull] at h
  split at h
  · simp at h
  · rename_i hd
    simp only [Prod.mk.injEq] at h
    obtain ⟨hc, rfl⟩ := h
    refine ⟨?_, rfl, rfl⟩
    have := Feed.content_of_request_some (f := s.feed) (g := s.feed.request.2) (c := c)
      (by rw [← hc])
    simp [unread, hd, hc, this]

theorem unread_of_pull_none {s t : Source} (h : s.pull = (none, t)) :
    s.unread = [] ∧ t.unread = [] ∧ t.queue = s.queue ∧ t.line = s.line := by
  rw [pull] at h
  split at h
  · rename_i hd
    simp only [Prod.mk.injEq, true_and] at h
    subst h
    simp [unread, hd]
  · rename_i hd
    simp only [Prod.mk.injEq] at h
    obtain ⟨hc, rfl⟩ := h
    have := Feed.content_of_request_none (f := s.feed) (g := s.feed.request.2) (by rw [← hc])
    simp [unread, hd, hc, this]

/-! ### Looking ahead -/

/-- Takes characters from the feed into the queue, up to a number of them. -/
def fill (s : Source) : Nat → Source
  | 0 => s
  | n + 1 =>
    match s.pull with
    | (none, t) => t
    | (some c, t) => fill { t with queue := t.queue ++ [c] } n

theorem queue_fill (s : Source) (n : Nat) : (s.fill n).queue = s.queue ++ s.unread.take n := by
  induction n generalizing s with
  | zero => simp [fill]
  | succ n ih =>
    rw [fill]
    split
    · next t h =>
      obtain ⟨hs, _, hq, _⟩ := unread_of_pull_none h
      simp [hs, hq]
    · next c t h =>
      obtain ⟨hs, hq, _⟩ := unread_of_pull_some h
      rw [ih]
      simp [hs, hq, unread_mk]

@[simp] theorem remaining_fill (s : Source) (n : Nat) : (s.fill n).remaining = s.remaining := by
  induction n generalizing s with
  | zero => rfl
  | succ n ih =>
    rw [fill]
    split
    · next t h =>
      obtain ⟨hs, ht, hq, _⟩ := unread_of_pull_none h
      simp [remaining, hs, ht, hq]
    · next c t h =>
      obtain ⟨hs, hq, _⟩ := unread_of_pull_some h
      rw [ih]
      simp [remaining, hs, hq, unread_mk]

@[simp] theorem line_fill (s : Source) (n : Nat) : (s.fill n).line = s.line := by
  induction n generalizing s with
  | zero => rfl
  | succ n ih =>
    rw [fill]
    split
    · next t h => exact (unread_of_pull_none h).2.2.2
    · next c t h => rw [ih]; exact (unread_of_pull_some h).2.2

/-- The character a number of places ahead. Nothing is consumed. -/
def peek (s : Source) (k : Nat) : Option Char × Source :=
  let t := s.fill (k + 1 - s.queue.length)
  (t.queue[k]?, t)

theorem peek_fst (s : Source) (k : Nat) : (s.peek k).1 = s.remaining[k]? := by
  simp only [peek, queue_fill, remaining]
  by_cases hk : k < s.queue.length
  · rw [List.getElem?_append_left hk, List.getElem?_append_left hk]
  · have hk := Nat.le_of_not_lt hk
    rw [List.getElem?_append_right hk, List.getElem?_append_right hk, List.getElem?_take,
      if_pos (by omega)]

@[simp] theorem remaining_peek (s : Source) (k : Nat) : (s.peek k).2.remaining = s.remaining :=
  remaining_fill s _

@[simp] theorem line_peek (s : Source) (k : Nat) : (s.peek k).2.line = s.line := line_fill s _

/-- What is known once a character has been looked at. -/
theorem eq_of_peek {s t : Source} {k : Nat} {c? : Option Char} (h : s.peek k = (c?, t)) :
    c? = s.remaining[k]? ∧ t.remaining = s.remaining ∧ t.line = s.line := by
  have hp := peek_fst s k
  have hr := remaining_peek s k
  have hl := line_peek s k
  rw [h] at hp hr hl
  exact ⟨hp, hr, hl⟩

/-- Whether no character is left. -/
def isAtEnd (s : Source) : Bool × Source := ((s.peek 0).1.isNone, (s.peek 0).2)

theorem isAtEnd_fst (s : Source) : s.isAtEnd.1 = s.remaining.isEmpty := by
  rw [isAtEnd, peek_fst]
  cases s.remaining <;> rfl

/-- Whether some characters come next, from a number of places ahead on. The first difference
decides: nothing beyond it is looked at. -/
def startsWithAt (s : Source) (k : Nat) : List Char → Bool × Source
  | [] => (true, s)
  | c :: cs =>
    match s.peek k with
    | (some d, t) => if d = c then t.startsWithAt (k + 1) cs else (false, t)
    | (none, t) => (false, t)

/-- Whether some characters come next. -/
def startsWith (s : Source) (cs : List Char) : Bool × Source := s.startsWithAt 0 cs

theorem startsWithAt_eq (s : Source) (k : Nat) (cs : List Char) :
    (s.startsWithAt k cs).1 = cs.isPrefixOf (s.remaining.drop k) ∧
      (s.startsWithAt k cs).2.remaining = s.remaining ∧
      (s.startsWithAt k cs).2.line = s.line := by
  induction cs generalizing s k with
  | nil => simp [startsWithAt]
  | cons c cs ih =>
    -- looking ahead leaves what remains as it is, so the places that follow can be read off `s`
    rw [startsWithAt]
    split
    · next d t h =>
      obtain ⟨hp, hr, hl⟩ := eq_of_peek h
      obtain ⟨hk, hd⟩ := List.getElem?_eq_some_iff.1 hp.symm
      rw [List.drop_eq_getElem_cons hk, hd]
      split
      · next hdc =>
        obtain ⟨ih₁, ih₂, ih₃⟩ := ih t (k + 1)
        refine ⟨?_, ih₂.trans hr, ih₃.trans hl⟩
        rw [ih₁, hr]
        simp [hdc]
      · next hdc => exact ⟨by simp [List.isPrefixOf, Ne.symm hdc], hr, hl⟩
    · next t h =>
      obtain ⟨hp, hr, hl⟩ := eq_of_peek h
      have hk : s.remaining.length ≤ k := List.getElem?_eq_none_iff.1 hp.symm
      exact ⟨by simp [List.drop_eq_nil_of_le hk], hr, hl⟩

theorem startsWith_fst (s : Source) (cs : List Char) :
    (s.startsWith cs).1 = cs.isPrefixOf s.remaining := (startsWithAt_eq s 0 cs).1

@[simp] theorem remaining_startsWith (s : Source) (cs : List Char) :
    (s.startsWith cs).2.remaining = s.remaining := (startsWithAt_eq s 0 cs).2.1

@[simp] theorem line_startsWith (s : Source) (cs : List Char) :
    (s.startsWith cs).2.line = s.line := (startsWithAt_eq s 0 cs).2.2

/-! ### Consuming -/

/-- Consumes the next character. -/
def next (s : Source) : Option Char × Source :=
  match s.queue with
  | c :: rest => (some c, { s with queue := rest, line := lineAfter s.line [c] })
  | [] =>
    match s.pull with
    | (none, t) => (none, t)
    | (some c, t) => (some c, { t with line := lineAfter t.line [c] })

theorem next_eq (s : Source) :
    s.next.1 = s.remaining.head? ∧ s.next.2.remaining = s.remaining.tail ∧
      s.next.2.line = lineAfter s.line s.next.1.toList := by
  rw [next]
  split
  · next c rest h => simp [remaining, h, unread_mk]
  · next h =>
    split
    · next t ht =>
      obtain ⟨hs, hu, hq, hl⟩ := unread_of_pull_none ht
      simp [remaining, h, hs, hu, hq, hl]
    · next c t ht =>
      obtain ⟨hs, hq, hl⟩ := unread_of_pull_some ht
      simp [remaining, h, hs, hq, hl, unread_mk]

/-- A character that was seen ahead is the one that is consumed. -/
theorem eq_of_peek_some {s t : Source} {c : Char} (h : s.peek 0 = (some c, t)) :
    s.remaining = c :: t.next.2.remaining ∧ t.next.2.line = lineAfter s.line [c] := by
  obtain ⟨hp, hr, hl⟩ := eq_of_peek h
  rw [← List.head?_eq_getElem?] at hp
  obtain ⟨rest, hs⟩ := List.head?_eq_some_iff.1 hp.symm
  obtain ⟨hfirst, hrest, hline⟩ := next_eq t
  rw [hr, hs] at hfirst hrest
  rw [hfirst, hl] at hline
  rw [hs, hrest]
  exact ⟨rfl, hline⟩

/-- Where no character is seen, none is left. -/
theorem remaining_eq_nil_of_peek {s t : Source} (h : s.peek 0 = (none, t)) :
    s.remaining = [] := by
  have hp := (eq_of_peek h).1
  rw [← List.head?_eq_getElem?] at hp
  exact List.head?_eq_none_iff.1 hp.symm

/-- A character that is consumed was the first one. -/
theorem eq_of_next_some {s t : Source} {c : Char} (h : s.next = (some c, t)) :
    s.remaining = c :: t.remaining ∧ t.line = lineAfter s.line [c] := by
  obtain ⟨hc, hr, hl⟩ := next_eq s
  rw [h] at hc hr hl
  obtain ⟨rest, hs⟩ := List.head?_eq_some_iff.1 hc.symm
  rw [hs] at hr
  exact ⟨by rw [hs, hr]; rfl, hl⟩

/-- No character is consumed where none is left. -/
theorem eq_of_next_none {s t : Source} (h : s.next = (none, t)) :
    s.remaining = [] ∧ t.remaining = [] ∧ t.line = s.line := by
  obtain ⟨hc, hr, hl⟩ := next_eq s
  rw [h] at hc hr hl
  have hs : s.remaining = [] := List.head?_eq_none_iff.1 hc.symm
  rw [hs] at hr
  exact ⟨hs, hr, hl.trans (lineAfter_nil s.line)⟩

theorem remaining_eq_cons_of_next {s t : Source} {c : Char} (h : s.next = (some c, t)) :
    s.remaining = c :: t.remaining := (eq_of_next_some h).1

theorem remaining_eq_nil_of_next {s t : Source} (h : s.next = (none, t)) : s.remaining = [] :=
  (eq_of_next_none h).1

/-- Consumes the next character if it is the one that is wanted. -/
def accept (s : Source) (c : Char) : Bool × Source :=
  match s.peek 0 with
  | (some d, t) => if d = c then (true, t.next.2) else (false, t)
  | (none, t) => (false, t)

/-- Consumes up to a number of characters. -/
def read (s : Source) : Nat → List Char × Source
  | 0 => ([], s)
  | n + 1 =>
    match s.next with
    | (none, t) => ([], t)
    | (some c, t) =>
      let (cs, u) := t.read n
      (c :: cs, u)

/-- Consumes characters as long as they are in a class. -/
def readWhile (s : Source) (p : Char → Bool) : List Char × Source :=
  match _h : s.peek 0 with
  | (some c, t) =>
    if p c then
      let (cs, u) := readWhile t.next.2 p
      (c :: cs, u)
    else ([], t)
  | (none, t) => ([], t)
termination_by s.remaining.length
decreasing_by
  simp [(eq_of_peek_some _h).1]

/-- Consumes characters through the first one that is the terminator, and tells whether there was
one. Without one, everything is consumed. -/
def readThrough (s : Source) (terminator : Char) : (List Char × Bool) × Source :=
  match _h : s.next with
  | (none, t) => (([], false), t)
  | (some c, t) =>
    if c = terminator then (([c], true), t)
    else
      let ((cs, found), u) := readThrough t terminator
      ((c :: cs, found), u)
termination_by s.remaining.length
decreasing_by simp [remaining_eq_cons_of_next _h]

/-- Consumes characters as long as they are in a class. They go to the end of a buffer. -/
def eatWhile (s : Source) (buffer : List Char) (p : Char → Bool) : List Char × Source :=
  let (cs, t) := s.readWhile p
  (buffer ++ cs, t)

/-- Consumes characters through the first one that is the terminator, and tells whether there was
one. They go to the end of a buffer. -/
def eatThrough (s : Source) (buffer : List Char) (terminator : Char) :
    (List Char × Bool) × Source :=
  let ((cs, found), t) := s.readThrough terminator
  ((buffer ++ cs, found), t)

/-- A character that is accepted was the first one. -/
theorem eq_of_accept_true {s t : Source} {c : Char} (h : s.accept c = (true, t)) :
    s.remaining = c :: t.remaining ∧ t.line = lineAfter s.line [c] := by
  rw [accept] at h
  split at h
  · next d u hu =>
    split at h
    · next hd =>
      obtain rfl := (Prod.mk.inj h).2
      exact hd ▸ eq_of_peek_some hu
    · cases h
  · cases h

/-- Where a character is not accepted, it is not the first one, and nothing is consumed. -/
theorem eq_of_accept_false {s t : Source} {c : Char} (h : s.accept c = (false, t)) :
    s.remaining.head? ≠ some c ∧ t.remaining = s.remaining ∧ t.line = s.line := by
  rw [accept] at h
  split at h
  · next d u hu =>
    obtain ⟨hp, hr, hl⟩ := eq_of_peek hu
    split at h
    · cases h
    · next hd =>
      obtain rfl := (Prod.mk.inj h).2
      rw [List.head?_eq_getElem?, ← hp]
      exact ⟨fun hc ↦ hd (Option.some.inj hc), hr, hl⟩
  · next u hu =>
    obtain ⟨hp, hr, hl⟩ := eq_of_peek hu
    obtain rfl := (Prod.mk.inj h).2
    rw [List.head?_eq_getElem?, ← hp]
    exact ⟨(nomatch ·), hr, hl⟩

theorem read_eq (s : Source) (n : Nat) :
    (s.read n).1 = s.remaining.take n ∧ (s.read n).2.remaining = s.remaining.drop n ∧
      (s.read n).2.line = lineAfter s.line (s.read n).1 := by
  induction n generalizing s with
  | zero => simp [read]
  | succ n ih =>
    rw [read]
    split
    · next t h =>
      obtain ⟨hs, ht, hl⟩ := eq_of_next_none h
      simp [hs, ht, hl]
    · next c t h =>
      obtain ⟨hs, hl⟩ := eq_of_next_some h
      obtain ⟨ih₁, ih₂, ih₃⟩ := ih t
      rcases hread : t.read n with ⟨cs, u⟩
      rw [hread] at ih₁ ih₂ ih₃
      refine ⟨?_, ?_, ?_⟩
      · rw [hs, List.take_succ_cons, ← ih₁]
      · rw [hs, List.drop_succ_cons, ← ih₂]
      · rw [ih₃, hl, ← lineAfter_cons s.line]

theorem read_fst (s : Source) (n : Nat) : (s.read n).1 = s.remaining.take n := (read_eq s n).1

theorem remaining_read (s : Source) (n : Nat) : (s.read n).2.remaining = s.remaining.drop n :=
  (read_eq s n).2.1

theorem line_read (s : Source) (n : Nat) : (s.read n).2.line = lineAfter s.line (s.read n).1 :=
  (read_eq s n).2.2

theorem readWhile_eq (s : Source) (p : Char → Bool) :
    (s.readWhile p).1 = s.remaining.takeWhile p ∧
      (s.readWhile p).2.remaining = s.remaining.dropWhile p ∧
      (s.readWhile p).2.line = lineAfter s.line (s.readWhile p).1 := by
  fun_induction readWhile s p with
  | case1 s c t h hc cs u hrec ih =>
    obtain ⟨hs, hl⟩ := eq_of_peek_some h
    rw [hrec] at ih
    obtain ⟨ih₁, ih₂, ih₃⟩ := ih
    rw [hs, List.takeWhile_cons_of_pos hc, List.dropWhile_cons_of_pos hc]
    refine ⟨congrArg (c :: ·) ih₁, ih₂, ?_⟩
    rw [ih₃, hl]
    exact (lineAfter_cons s.line c cs).symm
  | case2 s c t h hc =>
    obtain ⟨-, hr, hl⟩ := eq_of_peek h
    obtain ⟨hs, -⟩ := eq_of_peek_some h
    rw [hr, hs, List.takeWhile_cons_of_neg hc, List.dropWhile_cons_of_neg hc, lineAfter_nil]
    exact ⟨rfl, rfl, hl⟩
  | case3 s t h =>
    obtain ⟨-, hr, hl⟩ := eq_of_peek h
    rw [hr, remaining_eq_nil_of_peek h, lineAfter_nil]
    exact ⟨rfl, rfl, hl⟩

theorem eatWhile_fst (s : Source) (buffer : List Char) (p : Char → Bool) :
    (s.eatWhile buffer p).1 = buffer ++ s.remaining.takeWhile p :=
  congrArg (buffer ++ ·) (readWhile_eq s p).1

theorem remaining_eatWhile (s : Source) (buffer : List Char) (p : Char → Bool) :
    (s.eatWhile buffer p).2.remaining = s.remaining.dropWhile p := (readWhile_eq s p).2.1

theorem line_eatWhile (s : Source) (buffer : List Char) (p : Char → Bool) :
    (s.eatWhile buffer p).2.line = lineAfter s.line (s.remaining.takeWhile p) := by
  obtain ⟨htext, -, hline⟩ := readWhile_eq s p
  exact htext ▸ hline

theorem readThrough_eq (s : Source) (c : Char) :
    s.remaining = (s.readThrough c).1.1 ++ (s.readThrough c).2.remaining ∧
      (s.readThrough c).2.line = lineAfter s.line (s.readThrough c).1.1 ∧
      ((s.readThrough c).1.2 = true ↔ c ∈ s.remaining) ∧
      ((s.readThrough c).1.2 = false → (s.readThrough c).2.remaining = []) := by
  fun_induction readThrough s c with
  | case1 s t h =>
    obtain ⟨hs, ht, hl⟩ := eq_of_next_none h
    simp [hs, ht, hl]
  | case2 s t h =>
    obtain ⟨hs, hl⟩ := eq_of_next_some h
    simp [hs, hl]
  | case3 s d t h hd cs found u hrec ih =>
    obtain ⟨hs, hl⟩ := eq_of_next_some h
    rw [hrec] at ih
    obtain ⟨ih₁, ih₂, ih₃, ih₄⟩ := ih
    refine ⟨?_, ?_, ?_, ih₄⟩
    · rw [hs, ih₁]
      rfl
    · rw [ih₂, hl]
      exact (lineAfter_cons s.line d cs).symm
    · rw [ih₃, hs]
      simp [Ne.symm hd]

theorem append_readThrough (s : Source) (c : Char) :
    (s.readThrough c).1.1 ++ (s.readThrough c).2.remaining = s.remaining :=
  (readThrough_eq s c).1.symm

theorem line_readThrough (s : Source) (c : Char) :
    (s.readThrough c).2.line = lineAfter s.line (s.readThrough c).1.1 := (readThrough_eq s c).2.1

/-! ### Letting go -/

/-- Lets go of the feed and of what is queued. The line stays. -/
def close (s : Source) : Source :=
  { s with feed := { s.feed with answers := [] }, queue := [], drained := true }

@[simp] theorem remaining_close (s : Source) : s.close.remaining = [] := rfl

/-- A source as diagnostics show it: the queue, the line and whether the feed has ended. -/
def quoted (s : Source) : String :=
  "CharSource \x7b lookahead: [" ++ ", ".intercalate (s.queue.map Text.quotedChar) ++
    "], line: " ++ toString s.line.toNat ++ ", drained: " ++ toString s.drained ++ ", .. \x7d"

end Source

end TokenScan

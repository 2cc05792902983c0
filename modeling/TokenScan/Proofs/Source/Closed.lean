import TokenScan.Proofs.Source.Construct
/-!
# A construct is detected and taken in one go

`Source.readConstruct` may be called on any text, whether or not it starts with the opening marker.
What it comes to is told by the text alone, and the three outcomes exclude one another
(`readConstruct_iff`):

* **absent** — the text does not start with the opening marker, and nothing is consumed;
* **taken** — some prefix is a whole construct (`Construct.IsClosed`), and the shortest one is taken;
* **open** — the opening marker is there, no prefix is a whole construct, and all is consumed.

A construct that is taken ends with the first closing marker which starts behind the opening one
(`Construct.ClosesAt`, `isShortest_isClosed_iff_closesAt`). The two markers do not overlap, so the
star that opens a comment is not the star that closes it, and the quote that closes a string is the
second one.
-/

namespace TokenScan

open Text

namespace Construct

variable {c : Construct} {cs rest text : List Char} {i : ℕ}

/-- Whether a text is a whole construct: an opening marker, and behind it something that ends in a
closing one. -/
def IsClosed (c : Construct) (text : List Char) : Prop :=
  ∃ body, text = c.opening ++ body ∧ c.closing <:+ body

/-- Whether the first closing marker behind the opening one starts at a place. -/
structure ClosesAt (c : Construct) (cs : List Char) (i : ℕ) : Prop where
  /-- The place is behind the opening marker. -/
  behind : c.opening.length ≤ i
  /-- The closing marker starts there. -/
  starts : c.closing <+: cs.drop i
  /-- It starts at no place before, down to the end of the opening marker. -/
  first : ∀ j, c.opening.length ≤ j → j < i → ¬ c.closing <+: cs.drop j

theorem IsClosed.opening_prefix (h : c.IsClosed text) : c.opening <+: text := by
  obtain ⟨body, rfl, -⟩ := h
  exact List.prefix_append _ _

theorem isClosed_append_iff : c.IsClosed (c.opening ++ text) ↔ c.closing <:+ text := by
  constructor
  · rintro ⟨body, heq, h⟩
    rwa [List.append_cancel_left heq]
  · intro h
    exact ⟨text, rfl, h⟩

/-- The shortest whole construct is the opening marker and the shortest text behind it that ends in
the closing one. -/
theorem isShortest_isClosed_iff :
    IsShortest c.IsClosed (c.opening ++ rest) text ↔
      ∃ body, text = c.opening ++ body ∧ IsShortest (c.closing <:+ ·) rest body := by
  have hstart : ∀ v ∈ c.opening.inits, v ≠ c.opening → ¬ c.IsClosed v := by
    intro v hv hne h
    have hfront : v <+: c.opening := (List.mem_inits v c.opening).1 hv
    exact hne (hfront.eq_of_length_le h.opening_prefix.length_le)
  refine (isShortest_append_iff hstart).trans (exists_congr fun body ↦ and_congr_right fun _ ↦ ?_)
  exact isShortest_congr fun u ↦ isClosed_append_iff

/-- The first closing marker behind the opening one is the first one in what follows that. -/
theorem closesAt_append_iff :
    c.ClosesAt (c.opening ++ rest) i ↔
      ∃ k, i = c.opening.length + k ∧ IsFirstAt c.closing rest k := by
  constructor
  · intro h
    obtain ⟨k, rfl⟩ := Nat.exists_eq_add_of_le h.behind
    have hstarts := h.starts
    rw [List.drop_length_add_append] at hstarts
    refine ⟨k, rfl, hstarts, fun j hj hmarker ↦ ?_⟩
    refine h.first (c.opening.length + j) (Nat.le_add_right _ _) (Nat.add_lt_add_left hj _) ?_
    rwa [List.drop_length_add_append]
  · rintro ⟨k, rfl, h⟩
    refine ⟨Nat.le_add_right _ _, ?_, fun j hj hlt ↦ ?_⟩
    · rw [List.drop_length_add_append]
      exact h.starts
    · obtain ⟨j, rfl⟩ := Nat.exists_eq_add_of_le hj
      rw [List.drop_length_add_append]
      exact h.first j (Nat.lt_of_add_lt_add_left hlt)

/-- **The shortest whole construct ends with the first closing marker behind the opening one.** -/
theorem isShortest_isClosed_iff_closesAt :
    IsShortest c.IsClosed cs text ↔
      c.opening <+: cs ∧ ∃ i, c.ClosesAt cs i ∧ text = cs.take (i + c.closing.length) := by
  have htake (rest : List Char) (k : ℕ) :
      (c.opening ++ rest).take (c.opening.length + k + c.closing.length) =
        c.opening ++ rest.take (k + c.closing.length) := by
    rw [Nat.add_assoc, List.take_length_add_append]
  constructor
  · intro h
    obtain ⟨rest, rfl⟩ : c.opening <+: cs := h.holds.opening_prefix.trans h.isPrefix
    obtain ⟨body, rfl, hbody⟩ := isShortest_isClosed_iff.1 h
    obtain ⟨k, hk, rfl⟩ := isShortest_suffix_iff.1 hbody
    refine ⟨List.prefix_append _ _, _, closesAt_append_iff.2 ⟨k, rfl, hk⟩, (htake rest k).symm⟩
  · rintro ⟨⟨rest, rfl⟩, i, hi, rfl⟩
    obtain ⟨k, rfl, hk⟩ := closesAt_append_iff.1 hi
    rw [htake]
    exact isShortest_isClosed_iff.2 ⟨_, rfl, isShortest_suffix_iff.2 ⟨k, hk, rfl⟩⟩

/-- A construct is open if its opening marker is there and no prefix is a whole construct. -/
theorem isOpen_iff :
    c.IsOpen cs ↔ c.opening <+: cs ∧ ∀ text, text <+: cs → ¬ c.IsClosed text := by
  constructor
  · rintro ⟨rest, rfl, hopen⟩
    refine ⟨List.prefix_append _ _, ?_⟩
    rintro _ hfront ⟨body, rfl, hbody⟩
    have hrest := (List.prefix_append_right_inj c.opening).1 hfront
    exact hopen (infix_of_prefix_of_suffix hrest hbody)
  · rintro ⟨⟨rest, rfl⟩, hnone⟩
    refine ⟨rest, rfl, ?_⟩
    rintro ⟨v, w, rfl⟩
    refine hnone (c.opening ++ (v ++ c.closing)) ⟨w, by simp⟩ ?_
    exact isClosed_append_iff.2 (List.suffix_append v _)

end Construct

namespace Source

variable {s : Source} {c : Construct} {text : List Char} {e : Unterminated}

/-! ### Which outcome it is -/

theorem readConstruct_eq_absent_iff :
    (s.readConstruct c).1 = .ok none ↔ ¬ c.opening <+: s.remaining := by
  constructor
  · intro h
    exact (readConstruct_absent (Prod.ext h rfl)).1
  · intro h
    obtain ⟨t, ht, -⟩ := readConstruct_of_not_prefix h
    rw [ht]

/-- Where the opening marker comes next, the shortest whole construct is taken, or the construct is
open. -/
theorem readConstruct_cases (h : c.opening <+: s.remaining) :
    (∃ text, IsShortest c.IsClosed s.remaining text ∧
        (s.readConstruct c).1 = .ok (some text)) ∨
      c.IsOpen s.remaining ∧ (s.readConstruct c).1 = .error ⟨c.kind, s.line⟩ := by
  obtain ⟨rest, hs⟩ := h
  rcases readConstruct_of_opening hs.symm with ⟨body, hbody, hread⟩ | ⟨hopen, hread⟩
  · refine .inl ⟨c.opening ++ body, ?_, hread⟩
    rw [← hs]
    exact Construct.isShortest_isClosed_iff.2 ⟨body, rfl, hbody⟩
  · exact .inr ⟨⟨rest, hs.symm, hopen⟩, hread⟩

theorem readConstruct_eq_some_iff :
    (s.readConstruct c).1 = .ok (some text) ↔ IsShortest c.IsClosed s.remaining text := by
  by_cases hopening : c.opening <+: s.remaining
  · rcases readConstruct_cases hopening with ⟨other, hother, hread⟩ | ⟨hopen, hread⟩
    · rw [hread]
      constructor
      · intro h
        rwa [← Option.some.inj (Except.ok.inj h)]
      · intro h
        rw [h.unique hother]
    · rw [hread]
      constructor
      · exact nofun
      · intro h
        exact absurd h.holds ((Construct.isOpen_iff.1 hopen).2 text h.isPrefix)
  · rw [readConstruct_eq_absent_iff.2 hopening]
    constructor
    · exact nofun
    · intro h
      exact absurd (h.holds.opening_prefix.trans h.isPrefix) hopening

theorem readConstruct_eq_error_iff :
    (s.readConstruct c).1 = .error e ↔ e = ⟨c.kind, s.line⟩ ∧ c.IsOpen s.remaining := by
  by_cases hopening : c.opening <+: s.remaining
  · rcases readConstruct_cases hopening with ⟨text, htext, hread⟩ | ⟨hopen, hread⟩
    · rw [hread]
      constructor
      · exact nofun
      · rintro ⟨-, hopen⟩
        exact absurd htext.holds ((Construct.isOpen_iff.1 hopen).2 text htext.isPrefix)
    · rw [hread]
      constructor
      · intro h
        exact ⟨(Except.error.inj h).symm, hopen⟩
      · rintro ⟨rfl, -⟩
        rfl
  · rw [readConstruct_eq_absent_iff.2 hopening]
    constructor
    · exact nofun
    · rintro ⟨-, hopen⟩
      exact absurd (Construct.isOpen_iff.1 hopen).1 hopening

/-- **A construct is absent, taken or open, as the text has it**, and each outcome leaves the source
as it should. Absent, it leaves the text and the line alone. Taken, it is the shortest whole
construct at the front of the text, through the first closing marker behind the opening one, and
what follows is left. Open, it is reported with its kind and the line that reading stood on; nothing
is left, and the line has moved by the line feeds of the text. -/
theorem readConstruct_iff (s : Source) (c : Construct) :
    let cs := s.remaining
    let result := (s.readConstruct c).1
    let t := (s.readConstruct c).2
    (result = .ok none ↔ ¬ c.opening <+: cs) ∧
      (result = .ok none → t.remaining = cs ∧ t.line = s.line) ∧
      (∀ text, result = .ok (some text) ↔ IsShortest c.IsClosed cs text) ∧
      (∀ text, result = .ok (some text) ↔
        c.opening <+: cs ∧ ∃ i, c.ClosesAt cs i ∧ text = cs.take (i + c.closing.length)) ∧
      (∀ text, result = .ok (some text) →
        text ++ t.remaining = cs ∧ t.line = lineAfter s.line text) ∧
      (∀ e, result = .error e ↔
        e = ⟨c.kind, s.line⟩ ∧ c.opening <+: cs ∧ ∀ text, text <+: cs → ¬ c.IsClosed text) ∧
      ∀ e, result = .error e → t.remaining = [] ∧ t.line = lineAfter s.line cs ∧
        (s.line.toNat + cs.count '\n' < UInt32.size →
          t.line.toNat = s.line.toNat + cs.count '\n') := by
  intro cs result t
  have hread {r : Except Unterminated (Option (List Char))} (h : result = r) :
      s.readConstruct c = (r, t) := Prod.ext h rfl
  refine ⟨readConstruct_eq_absent_iff, ?_, fun text ↦ readConstruct_eq_some_iff, ?_, ?_, ?_, ?_⟩
  · intro h
    exact (readConstruct_absent (hread h)).2
  · intro text
    exact readConstruct_eq_some_iff.trans Construct.isShortest_isClosed_iff_closesAt
  · intro text h
    obtain ⟨-, htext, hline⟩ := readConstruct_some (hread h)
    exact ⟨htext.symm, hline⟩
  · intro e
    exact readConstruct_eq_error_iff.trans (and_congr_right fun _ ↦ Construct.isOpen_iff)
  · intro e h
    obtain ⟨-, hleft, hline⟩ := readConstruct_error (hread h)
    refine ⟨hleft, hline, fun hlt ↦ ?_⟩
    rw [hline]
    exact toNat_lineAfter hlt

example : ((Source.ofText "/*/").readConstruct .blockComment).1 = .error ⟨.blockComment, 1⟩ := by
  decide +kernel

example : ((Source.ofText "/***/*/").readConstruct .blockComment).1 =
    .ok (some "/***/".toList) := by
  decide +kernel

end Source

end TokenScan

import TokenScan.Source.Basic
import TokenScan.Token
/-!
# Constructs with a terminator

Comments, quoted strings and directives start with an opening marker and run through a closing one.
`readConstruct` looks for the opening marker and takes nothing if it is not there. If it is, the
text runs through the first closing marker after it; a text that has none is consumed to its end,
and the answer is an `Unterminated` construct on the line where it starts.

`readConstruct_of_not_prefix` and `readConstruct_of_append` say what becomes of the two cases, and
nothing else looks into `readConstruct`; `readConstruct_absent`, `readConstruct_some` and
`readConstruct_error` read off what is taken and what is left.
-/

namespace TokenScan

/-- The constructs that have a terminator. -/
inductive Construct where
  /-- A comment through the end of the line. -/
  | lineComment
  /-- A comment through a closing marker. -/
  | blockComment
  /-- A string in double quotes. -/
  | quotedString
  /-- A directive through the end of the line. -/
  | directive
  deriving DecidableEq, Repr

namespace Construct

/-- The kind of token that a construct makes. -/
def kind : Construct → TokenKind
  | lineComment => .lineComment
  | blockComment => .blockComment
  | quotedString => .quotedString
  | directive => .directive

/-- The characters that a construct starts with. -/
def opening : Construct → List Char
  | lineComment => ['/', '/']
  | blockComment => ['/', '*']
  | quotedString => ['"']
  | directive => ['#']

/-- The characters that a construct ends with. -/
def closing : Construct → List Char
  | lineComment => ['\n']
  | blockComment => ['*', '/']
  | quotedString => ['"']
  | directive => ['\n']

theorem opening_ne_nil (c : Construct) : c.opening ≠ [] := by
  cases c <;> exact List.cons_ne_nil _ _

end Construct

namespace Source

/-- Consumes characters through the first star that a slash follows, and tells whether there was
one. -/
def readThroughStarSlash (s : Source) : (List Char × Bool) × Source :=
  match _h : s.next with
  | (none, t) => (([], false), t)
  | (some c, t) =>
    if c = '*' then
      match _ha : t.accept '/' with
      | (true, u) => ((['*', '/'], true), u)
      | (false, u) =>
        let ((cs, found), v) := readThroughStarSlash u
        ((c :: cs, found), v)
    else
      let ((cs, found), v) := readThroughStarSlash t
      ((c :: cs, found), v)
termination_by s.remaining.length
decreasing_by
  · simp [remaining_eq_cons_of_next _h, (eq_of_accept_false _ha).2.1]
  · simp [remaining_eq_cons_of_next _h]

/-- Consumes characters through the closing marker of a construct. They go to the end of a
buffer. -/
def eatThroughClosing (s : Source) (buffer : List Char) : Construct → (List Char × Bool) × Source
  | .lineComment => s.eatThrough buffer '\n'
  | .blockComment =>
    let ((cs, found), t) := s.readThroughStarSlash
    ((buffer ++ cs, found), t)
  | .quotedString => s.eatThrough buffer '"'
  | .directive => s.eatThrough buffer '\n'

/-- Takes a construct if its opening marker comes next. -/
def readConstruct (s : Source) (c : Construct) :
    Except Unterminated (Option (List Char)) × Source :=
  match s.startsWith c.opening with
  | (false, t) => (.ok none, t)
  | (true, t) =>
    let (marker, u) := t.read c.opening.length
    let ((text, found), v) := u.eatThroughClosing marker c
    if found then (.ok (some text), v) else (.error ⟨c.kind, t.line⟩, v)

/-- Whatever the buffer holds stands before what is consumed. -/
theorem eatThroughClosing_append (s : Source) (buffer : List Char) (c : Construct) :
    s.eatThroughClosing buffer c =
      ((buffer ++ (s.eatThroughClosing [] c).1.1, (s.eatThroughClosing [] c).1.2),
        (s.eatThroughClosing [] c).2) := by
  cases c <;> rfl

theorem readThroughStarSlash_eq (s : Source) :
    s.remaining = s.readThroughStarSlash.1.1 ++ s.readThroughStarSlash.2.remaining ∧
      s.readThroughStarSlash.2.line = lineAfter s.line s.readThroughStarSlash.1.1 ∧
      (s.readThroughStarSlash.1.2 = false → s.readThroughStarSlash.2.remaining = []) := by
  fun_induction readThroughStarSlash s with
  | case1 s t h =>
    obtain ⟨hs, ht, hl⟩ := eq_of_next_none h
    simp [hs, ht, hl]
  | case2 s t u ha h =>
    obtain ⟨hs, hl⟩ := eq_of_next_some h
    obtain ⟨ht, hl'⟩ := eq_of_accept_true ha
    refine ⟨?_, ?_, nofun⟩
    · rw [hs, ht]
      rfl
    · rw [hl', hl]
      exact (lineAfter_cons s.line '*' ['/']).symm
  | case3 s t u ha cs found v hrec h ih =>
    obtain ⟨hs, hl⟩ := eq_of_next_some h
    obtain ⟨-, ht, hl'⟩ := eq_of_accept_false ha
    rw [hrec, ht, hl', hl] at ih
    obtain ⟨ih₁, ih₂, ih₃⟩ := ih
    refine ⟨?_, ?_, ih₃⟩
    · rw [hs, ih₁]
      rfl
    · rw [ih₂]
      exact (lineAfter_cons s.line '*' cs).symm
  | case4 s c t h hc cs found v hrec ih =>
    obtain ⟨hs, hl⟩ := eq_of_next_some h
    rw [hrec, hl] at ih
    obtain ⟨ih₁, ih₂, ih₃⟩ := ih
    refine ⟨?_, ?_, ih₃⟩
    · rw [hs, ih₁]
      rfl
    · rw [ih₂]
      exact (lineAfter_cons s.line c cs).symm

theorem eatThroughClosing_eq (s : Source) (c : Construct) :
    s.remaining = (s.eatThroughClosing [] c).1.1 ++ (s.eatThroughClosing [] c).2.remaining ∧
      (s.eatThroughClosing [] c).2.line = lineAfter s.line (s.eatThroughClosing [] c).1.1 ∧
      ((s.eatThroughClosing [] c).1.2 = false → (s.eatThroughClosing [] c).2.remaining = []) := by
  cases c
  case blockComment => exact readThroughStarSlash_eq s
  all_goals
    obtain ⟨h₁, h₂, _, h₃⟩ := readThrough_eq s _
    exact ⟨h₁, h₂, h₃⟩

/-- Without its opening marker a construct is absent, and nothing is consumed. -/
theorem readConstruct_of_not_prefix {s : Source} {c : Construct}
    (hs : ¬ c.opening <+: s.remaining) :
    ∃ t, s.readConstruct c = (.ok none, t) ∧ t.remaining = s.remaining ∧ t.line = s.line := by
  have hp := startsWith_fst s c.opening
  rw [Bool.eq_false_iff.2 fun h ↦ hs (List.isPrefixOf_iff_prefix.1 h)] at hp
  rcases hw : s.startsWith c.opening with ⟨found, t⟩
  rw [hw] at hp
  obtain rfl : found = false := hp
  refine ⟨t, ?_, ?_, ?_⟩
  · rw [readConstruct, hw]
  · rw [← remaining_startsWith s c.opening, hw]
  · rw [← line_startsWith s c.opening, hw]

/-- With its opening marker a construct is what reading through the closing marker, behind the
opening one, makes of it. -/
theorem readConstruct_of_append {s : Source} {c : Construct} {rest : List Char}
    (hs : s.remaining = c.opening ++ rest) :
    ∃ v : Source, v.remaining = rest ∧ v.line = lineAfter s.line c.opening ∧
      s.readConstruct c =
        (if (v.eatThroughClosing [] c).1.2 then
            .ok (some (c.opening ++ (v.eatThroughClosing [] c).1.1))
          else .error ⟨c.kind, s.line⟩, (v.eatThroughClosing [] c).2) := by
  have hp := startsWith_fst s c.opening
  have hr := remaining_startsWith s c.opening
  have hl := line_startsWith s c.opening
  rw [List.isPrefixOf_iff_prefix.2 ⟨rest, hs.symm⟩] at hp
  rcases hw : s.startsWith c.opening with ⟨found, u⟩
  rw [hw] at hp hr hl
  obtain rfl : found = true := hp
  have hmarker : (u.read c.opening.length).1 = c.opening := by
    rw [read_fst, hr, hs, List.take_left]
  refine ⟨(u.read c.opening.length).2, ?_, ?_, ?_⟩
  · rw [remaining_read, hr, hs, List.drop_left]
  · rw [line_read, hmarker, hl]
  · rw [readConstruct, hw]
    dsimp only
    rw [hmarker, hl, eatThroughClosing_append]
    split <;> rfl

theorem readConstruct_absent {s t : Source} {c : Construct}
    (h : s.readConstruct c = (.ok none, t)) :
    ¬ c.opening <+: s.remaining ∧ t.remaining = s.remaining ∧ t.line = s.line := by
  by_cases hp : c.opening <+: s.remaining
  · obtain ⟨rest, hs⟩ := hp
    obtain ⟨v, -, -, hv⟩ := readConstruct_of_append hs.symm
    rw [hv] at h
    split at h <;> cases h
  · obtain ⟨u, hu, hr, hl⟩ := readConstruct_of_not_prefix hp
    obtain rfl := (Prod.mk.inj (hu.symm.trans h)).2
    exact ⟨hp, hr, hl⟩

/-- A construct that is taken is a prefix of what remained, and it starts with its opening marker. -/
theorem readConstruct_some {s t : Source} {c : Construct} {text : List Char}
    (h : s.readConstruct c = (.ok (some text), t)) :
    c.opening <+: text ∧ s.remaining = text ++ t.remaining ∧ t.line = lineAfter s.line text := by
  by_cases hp : c.opening <+: s.remaining
  · obtain ⟨rest, hs⟩ := hp
    obtain ⟨v, hrest, hline, hv⟩ := readConstruct_of_append hs.symm
    obtain ⟨hclose, hcloseLine, -⟩ := eatThroughClosing_eq v c
    rw [hv] at h
    split at h
    · obtain ⟨htext, rfl⟩ := Prod.mk.inj h
      obtain rfl := Option.some.inj (Except.ok.inj htext)
      refine ⟨List.prefix_append _ _, ?_, ?_⟩
      · rw [← hs, ← hrest, hclose, List.append_assoc]
      · rw [hcloseLine, hline, lineAfter_append]
    · cases h
  · obtain ⟨u, hu, -⟩ := readConstruct_of_not_prefix hp
    cases hu.symm.trans h

/-- A construct that is left open takes everything and reports the line where it starts. -/
theorem readConstruct_error {s t : Source} {c : Construct} {e : Unterminated}
    (h : s.readConstruct c = (.error e, t)) :
    e = ⟨c.kind, s.line⟩ ∧ t.remaining = [] ∧ t.line = lineAfter s.line s.remaining := by
  by_cases hp : c.opening <+: s.remaining
  · obtain ⟨rest, hs⟩ := hp
    obtain ⟨v, hrest, hline, hv⟩ := readConstruct_of_append hs.symm
    obtain ⟨hclose, hcloseLine, hleft⟩ := eatThroughClosing_eq v c
    rw [hv] at h
    split at h
    · cases h
    · next hfound =>
      obtain ⟨he, rfl⟩ := Prod.mk.inj h
      have hnil := hleft (Bool.eq_false_iff.2 hfound)
      rw [hnil, List.append_nil] at hclose
      refine ⟨(Except.error.inj he).symm, hnil, ?_⟩
      rw [hcloseLine, hline, ← lineAfter_append, ← hclose, hrest, hs]
  · obtain ⟨u, hu, -⟩ := readConstruct_of_not_prefix hp
    cases hu.symm.trans h

end Source

end TokenScan

import TokenScan.Proofs.Text.Prefix
import TokenScan.Source.Construct
/-!
# What a construct takes

`Source.readConstruct` is a search: behind the opening marker it looks for the first closing marker.
`search_eatThroughClosing` says so for each construct, and `readConstruct_of_opening` says what
comes of it:

* with a closing marker, the construct is the opening marker and the **shortest** text behind it
  that ends in the closing one, so nothing nests and a star that opens a comment does not close it;
* without one the construct is *open* (`Construct.IsOpen`), and that is what is reported.

With the opening marker in place the answer is never that the construct is absent.
-/

namespace TokenScan

open Text

/-- Whether a text starts with an opening marker and has no closing marker behind it. -/
def Construct.IsOpen (c : Construct) (cs : List Char) : Prop :=
  ∃ body, cs = c.opening ++ body ∧ ¬ c.closing <:+: body

theorem Construct.IsOpen.ne_nil {c : Construct} {cs : List Char} (h : c.IsOpen cs) : cs ≠ [] := by
  obtain ⟨body, rfl, -⟩ := h
  exact List.append_ne_nil_of_left_ne_nil c.opening_ne_nil body

namespace Source

/-- Reading through a character searches for it. -/
theorem search_readThrough (s : Source) (c : Char) :
    Search [c] s.remaining (s.readThrough c).1 := by
  fun_induction readThrough s c with
  | case1 s t h =>
    rw [remaining_eq_nil_of_next h]
    exact .missing (by simp)
  | case2 s t h =>
    rw [remaining_eq_cons_of_next h]
    exact .here ⟨t.remaining, rfl⟩
  | case3 s d t h hd body found u hrec ih =>
    rw [hrec] at ih
    rw [remaining_eq_cons_of_next h]
    exact ih.cons fun hp ↦ hd (List.cons_prefix_cons.1 hp).1.symm

/-- Reading through a star and a slash searches for the two of them. A star that no slash follows is
passed over by itself, so the next star is looked at in its own right. -/
theorem search_readThroughStarSlash (s : Source) :
    Search ['*', '/'] s.remaining s.readThroughStarSlash.1 := by
  fun_induction readThroughStarSlash s with
  | case1 s t h =>
    rw [remaining_eq_nil_of_next h]
    exact .missing (by simp)
  | case2 s t u ha h =>
    rw [remaining_eq_cons_of_next h, (eq_of_accept_true ha).1]
    exact .here ⟨u.remaining, rfl⟩
  | case3 s t u ha body found v hrec h ih =>
    -- the star starts no marker, as no slash follows it
    obtain ⟨hhead, hrem, -⟩ := eq_of_accept_false ha
    rw [hrec, hrem] at ih
    rw [remaining_eq_cons_of_next h]
    refine ih.cons fun hp ↦ hhead ?_
    obtain ⟨rest, hrest⟩ := (List.cons_prefix_cons.1 hp).2
    rw [← hrest]
    rfl
  | case4 s c t h hc body found v hrec ih =>
    rw [hrec] at ih
    rw [remaining_eq_cons_of_next h]
    exact ih.cons fun hp ↦ hc (List.cons_prefix_cons.1 hp).1.symm

/-- **Reading to the end of a construct searches for its closing marker.** -/
theorem search_eatThroughClosing (s : Source) (c : Construct) :
    Search c.closing s.remaining (s.eatThroughClosing [] c).1 := by
  cases c with
  | lineComment => exact search_readThrough s '\n'
  | blockComment => exact search_readThroughStarSlash s
  | quotedString => exact search_readThrough s '"'
  | directive => exact search_readThrough s '\n'

/-- **With the opening marker in place a construct is read or reported, never absent.** What is read
is the shortest text through a closing marker behind the opening one. -/
theorem readConstruct_of_opening {s : Source} {c : Construct} {rest : List Char}
    (hs : s.remaining = c.opening ++ rest) :
    (∃ body, IsShortest (c.closing <:+ ·) rest body ∧
        (s.readConstruct c).1 = .ok (some (c.opening ++ body))) ∨
      (¬ c.closing <:+: rest ∧ (s.readConstruct c).1 = .error ⟨c.kind, s.line⟩) := by
  obtain ⟨v, hrest, -, hv⟩ := readConstruct_of_append hs
  have hsearch := search_eatThroughClosing v c
  rw [hrest] at hsearch
  rw [hv]
  rcases hres : v.eatThroughClosing [] c with ⟨⟨body, found⟩, w⟩
  rw [hres] at hsearch
  cases hsearch with
  | found h => exact .inl ⟨body, h, rfl⟩
  | missing h => exact .inr ⟨h, rfl⟩

end Source

end TokenScan

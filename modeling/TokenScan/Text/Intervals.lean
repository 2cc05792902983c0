/-!
# Tables of code points

A character property of Unicode is a set of code points, kept here as a list of closed intervals
in increasing order. `inIntervals` walks such a list and stops at the first interval that starts
beyond the code point, so that the many questions about ASCII are answered at once.

`inIntervals_sound` says that a positive answer comes from an interval of the table.
-/

namespace TokenScan.Text

/-- Whether a code point lies in one of the intervals of an increasing table. -/
def inIntervals (n : Nat) : List (Nat × Nat) → Bool
  | [] => false
  | (lo, hi) :: rest => if n < lo then false else decide (n ≤ hi) || inIntervals n rest

theorem inIntervals_sound {n : Nat} {table : List (Nat × Nat)} (h : inIntervals n table = true) :
    ∃ lo hi, (lo, hi) ∈ table ∧ lo ≤ n ∧ n ≤ hi := by
  induction table with
  | nil => cases h
  | cons r rest ih =>
    obtain ⟨lo, hi⟩ := r
    rw [inIntervals] at h
    split at h
    · simp at h
    · rename_i hlo
      rcases Bool.or_eq_true_iff.1 h with hhi | hrest
      · exact ⟨lo, hi, List.mem_cons_self, Nat.le_of_not_lt hlo, of_decide_eq_true hhi⟩
      · obtain ⟨a, b, hmem, ha, hb⟩ := ih hrest
        exact ⟨a, b, List.mem_cons_of_mem _ hmem, ha, hb⟩

end TokenScan.Text

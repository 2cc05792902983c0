/-!
# Sets of patterns in the order they came

A pattern set is a list of strings without repetition. Inserting puts a new pattern at the end and
leaves a set that has it alone, so a listing is stable and a repeated insertion changes nothing
(`insert_of_mem`). Two sets are equivalent if they have the same members, whatever the order
(`equiv_iff`).
-/

namespace TokenScan

/-- A set of patterns, listed in the order of first insertion. -/
structure PatternSet where
  /-- The patterns, oldest first. -/
  toList : List String
  /-- No pattern is listed twice. -/
  nodup : toList.Nodup := by decide

namespace PatternSet

theorem ext {s t : PatternSet} (h : s.toList = t.toList) : s = t := by
  cases s; cases t; cases h; rfl

instance : Membership String PatternSet where
  mem s p := p ∈ s.toList

instance (p : String) (s : PatternSet) : Decidable (p ∈ s) :=
  inferInstanceAs (Decidable (p ∈ s.toList))

@[simp] theorem mem_toList {p : String} {s : PatternSet} : p ∈ s.toList ↔ p ∈ s := Iff.rfl

/-- The set without members. -/
def empty : PatternSet := ⟨[], List.nodup_nil⟩

@[simp] theorem toList_empty : empty.toList = [] := rfl

/-- Whether a pattern is a member. -/
def contains (s : PatternSet) (p : String) : Bool := decide (p ∈ s)

@[simp] theorem contains_eq_true {s : PatternSet} {p : String} : s.contains p = true ↔ p ∈ s :=
  decide_eq_true_iff

/-- Adds a pattern at the end, unless the set has it. -/
def insert (s : PatternSet) (p : String) : PatternSet :=
  if h : p ∈ s.toList then s
  else ⟨s.toList ++ [p], List.nodup_append.2 ⟨s.nodup, by simp, fun a ha b hb hab ↦
    h (List.mem_singleton.1 hb ▸ hab ▸ ha)⟩⟩

theorem insert_of_mem {s : PatternSet} {p : String} (h : p ∈ s) : s.insert p = s := dif_pos h

theorem toList_insert_of_not_mem {s : PatternSet} {p : String} (h : p ∉ s) :
    (s.insert p).toList = s.toList ++ [p] := by
  rw [insert, dif_neg (show ¬ p ∈ s.toList from h)]

@[simp] theorem mem_insert {s : PatternSet} {p q : String} : q ∈ s.insert p ↔ q ∈ s ∨ q = p := by
  by_cases h : p ∈ s
  · rw [insert_of_mem h]
    exact ⟨Or.inl, fun hq ↦ hq.elim id fun e ↦ e ▸ h⟩
  · rw [← mem_toList, toList_insert_of_not_mem h]
    simp

/-- Adds patterns one after the other. -/
def insertAll (s : PatternSet) (ps : List String) : PatternSet := ps.foldl insert s

@[simp] theorem insertAll_nil (s : PatternSet) : s.insertAll [] = s := rfl

@[simp] theorem insertAll_cons (s : PatternSet) (p : String) (ps : List String) :
    s.insertAll (p :: ps) = (s.insert p).insertAll ps := rfl

/-- Whether two sets have the same members, whatever the order. -/
def equiv (s t : PatternSet) : Bool := s.toList.all t.contains && t.toList.all s.contains

theorem equiv_iff {s t : PatternSet} : s.equiv t = true ↔ ∀ p, p ∈ s ↔ p ∈ t := by
  simp only [equiv, Bool.and_eq_true, List.all_eq_true, contains_eq_true, mem_toList]
  exact ⟨fun h p ↦ ⟨h.1 p, h.2 p⟩, fun h ↦ ⟨fun p ↦ (h p).1, fun p ↦ (h p).2⟩⟩

end PatternSet

end TokenScan

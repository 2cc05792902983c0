import Mathlib.Data.List.Infix
import Mathlib.Data.List.TakeWhile
/-!
# Longest and shortest prefixes

What a token takes from a text is either as much as its class allows or as little as its terminator
allows. Both are said of prefixes, with no mention of how a scan finds them:

* `IsLongest p cs text` — no prefix of `cs` with the property `p` is longer than `text`;
* `IsShortest p cs text` — no prefix of `cs` with the property `p` is shorter than `text`.

Prefixes of one list are told apart by their length, so there is at most one of either kind
(`IsLongest.unique`, `IsShortest.unique`). What follows a prefix matters little: a longest one in a
class depends on the next member only (`isLongest_append_iff`), a shortest one on nothing
(`isShortest_append_right_iff`). Runs are longest prefixes (`isLongest_takeWhile`). The shortest prefix
that ends in a marker ends where the marker first does (`isShortest_suffix_iff`), which is at the very
end if the marker was missing until it was put there (`isShortest_append_marker`). A `Search` for a
marker gives this prefix, or says that the marker is nowhere in the list; it moves on one member at
a time (`Search.here`, `Search.cons`).
-/

namespace TokenScan.Text

variable {α : Type*} {p q : List α → Prop} {cs text other : List α}

/-- The longest prefix of a list that has a property. -/
structure IsLongest (p : List α → Prop) (cs text : List α) : Prop where
  /-- It is a prefix. -/
  isPrefix : text <+: cs
  /-- It has the property. -/
  holds : p text
  /-- No prefix with the property is longer. -/
  length_le : ∀ u, u <+: cs → p u → u.length ≤ text.length

/-- The shortest prefix of a list that has a property. -/
structure IsShortest (p : List α → Prop) (cs text : List α) : Prop where
  /-- It is a prefix. -/
  isPrefix : text <+: cs
  /-- It has the property. -/
  holds : p text
  /-- No prefix with the property is shorter. -/
  le_length : ∀ u, u <+: cs → p u → text.length ≤ u.length

/-- Prefixes of one list are equal as soon as they are equally long. -/
theorem eq_of_prefix_of_length_eq (h : text <+: cs) (h' : other <+: cs)
    (hlen : text.length = other.length) : text = other :=
  (List.prefix_of_prefix_length_le h h' hlen.le).eq_of_length hlen

/-- **There is one longest prefix at most.** -/
theorem IsLongest.unique (h : IsLongest p cs text) (h' : IsLongest p cs other) : text = other :=
  eq_of_prefix_of_length_eq h.isPrefix h'.isPrefix
    (Nat.le_antisymm (h'.length_le text h.isPrefix h.holds)
      (h.length_le other h'.isPrefix h'.holds))

/-- **There is one shortest prefix at most.** -/
theorem IsShortest.unique (h : IsShortest p cs text) (h' : IsShortest p cs other) :
    text = other :=
  eq_of_prefix_of_length_eq h.isPrefix h'.isPrefix
    (Nat.le_antisymm (h.le_length other h'.isPrefix h'.holds)
      (h'.le_length text h.isPrefix h.holds))

/-! ### What follows a prefix

A prefix of a longer list is a prefix of what was there before, or goes beyond it. -/

/-- A prefix of two lists put together ends within the first or goes on into the second. -/
theorem prefix_append_cases {u rest : List α} (h : u <+: text ++ rest) :
    u <+: text ∨ ∃ c v, u = text ++ c :: v ∧ rest.head? = some c := by
  rcases List.prefix_or_prefix_of_prefix h (List.prefix_append text rest) with hu | ⟨v, rfl⟩
  · exact .inl hu
  · cases v with
    | nil => exact .inl (by rw [List.append_nil])
    | cons c v =>
      obtain ⟨w, hw⟩ := (List.prefix_append_right_inj text).1 h
      exact .inr ⟨c, v, rfl, by rw [← hw]; rfl⟩

/-- A text in a class is the longest one exactly if what follows it is not in the class. -/
theorem isLongest_append_iff {P : α → Prop} {rest : List α} :
    IsLongest (fun u ↦ ∀ c ∈ u, P c) (text ++ rest) text ↔
      (∀ c ∈ text, P c) ∧ ∀ c ∈ rest.head?, ¬ P c := by
  constructor
  · intro h
    refine ⟨h.holds, fun c hc hP ↦ ?_⟩
    -- otherwise the text with the next member would be longer
    obtain ⟨tail, rfl⟩ := List.head?_eq_some_iff.1 hc
    have hmore : ∀ d ∈ text ++ [c], P d := by
      intro d hd
      rcases List.mem_append.1 hd with hd | hd
      · exact h.holds d hd
      · exact List.mem_singleton.1 hd ▸ hP
    have hlen := h.length_le (text ++ [c]) ⟨tail, by simp⟩ hmore
    rw [List.length_append, List.length_singleton] at hlen
    omega
  · rintro ⟨htext, hrest⟩
    refine ⟨List.prefix_append text rest, htext, fun u hu hP ↦ ?_⟩
    rcases prefix_append_cases hu with hu | ⟨c, v, rfl, hc⟩
    · exact hu.length_le
    · exact absurd (hP c (by simp)) (hrest c hc)

/-- Whether a text is the shortest one does not depend on what follows it. -/
theorem isShortest_append_right_iff {rest : List α} :
    IsShortest p (text ++ rest) text ↔ IsShortest p text text := by
  constructor
  · intro h
    exact ⟨List.prefix_refl text, h.holds,
      fun u hu hp ↦ h.le_length u (hu.trans (List.prefix_append text rest)) hp⟩
  · intro h
    refine ⟨List.prefix_append text rest, h.holds, fun u hu hp ↦ ?_⟩
    rcases prefix_append_cases hu with hu | ⟨c, v, rfl, -⟩
    · exact h.le_length u hu hp
    · simp

/-! ### Runs -/

/-- A run is the longest prefix in its class. -/
theorem isLongest_takeWhile (f : α → Bool) (cs : List α) :
    IsLongest (fun u ↦ ∀ c ∈ u, f c = true) cs (cs.takeWhile f) where
  isPrefix := List.takeWhile_prefix f
  holds := fun _ hc ↦ List.mem_takeWhile_imp hc
  length_le := by
    rintro u ⟨v, rfl⟩ hu
    rw [List.takeWhile_append_of_pos hu, List.length_append]
    omega

/-- Properties that agree on the prefixes have the same longest one. -/
theorem IsLongest.congr (hpq : ∀ u, u <+: cs → (p u ↔ q u)) (h : IsLongest p cs text) :
    IsLongest q cs text :=
  ⟨h.isPrefix, (hpq text h.isPrefix).1 h.holds,
    fun u hu hq ↦ h.length_le u hu ((hpq u hu).2 hq)⟩

/-! ### Constructs -/

/-- Properties that agree have the same shortest prefix. -/
theorem isShortest_congr (hpq : ∀ u, p u ↔ q u) : IsShortest p cs text ↔ IsShortest q cs text := by
  rw [show p = q from funext fun u ↦ propext (hpq u)]

/-- Where the empty list does not do, the first member belongs to the shortest prefix. -/
theorem isShortest_cons_iff {c : α} (hnil : ¬ p []) :
    IsShortest p (c :: cs) text ↔
      ∃ body, text = c :: body ∧ IsShortest (fun u ↦ p (c :: u)) cs body := by
  constructor
  · intro h
    rcases List.prefix_cons_iff.1 h.isPrefix with rfl | ⟨body, rfl, hbody⟩
    · exact absurd h.holds hnil
    · refine ⟨body, rfl, hbody, h.holds, fun u hu hp ↦ ?_⟩
      exact Nat.le_of_succ_le_succ (h.le_length (c :: u) ((List.prefix_cons_inj c).2 hu) hp)
  · rintro ⟨body, rfl, h⟩
    refine ⟨(List.prefix_cons_inj c).2 h.isPrefix, h.holds, fun u hu hp ↦ ?_⟩
    rcases List.prefix_cons_iff.1 hu with rfl | ⟨v, rfl, hv⟩
    · exact absurd hp hnil
    · exact Nat.succ_le_succ (h.le_length v hv hp)

/-- Where no shorter start of a list does, that start belongs to the shortest prefix. -/
theorem isShortest_append_iff {start : List α} (h : ∀ v ∈ start.inits, v ≠ start → ¬ p v) :
    IsShortest p (start ++ cs) text ↔
      ∃ body, text = start ++ body ∧ IsShortest (fun u ↦ p (start ++ u)) cs body := by
  induction start generalizing p text with
  | nil => simp
  | cons c start ih =>
    have hnil : ¬ p [] := h [] (by simp) (by simp)
    have htail : ∀ v ∈ start.inits, v ≠ start → ¬ p (c :: v) := by
      intro v hv hne
      exact h (c :: v) (by simpa using hv) (by simpa using hne)
    rw [List.cons_append, isShortest_cons_iff hnil]
    constructor
    · rintro ⟨u, rfl, hu⟩
      obtain ⟨body, rfl, hbody⟩ := (ih htail).1 hu
      exact ⟨body, rfl, hbody⟩
    · rintro ⟨body, rfl, hbody⟩
      exact ⟨start ++ body, rfl, (ih htail).2 ⟨body, rfl, hbody⟩⟩

/-- A list that has room for a start and a marker ends in the marker exactly when what follows the
start does. -/
theorem suffix_append_iff (start marker u : List α) :
    start.length + marker.length ≤ (start ++ u).length ∧ marker <:+ start ++ u ↔ marker <:+ u := by
  constructor
  · rintro ⟨hlen, h⟩
    rw [List.length_append] at hlen
    exact List.suffix_of_suffix_length_le h (List.suffix_append start u) (by omega)
  · intro h
    have hlen := h.length_le
    exact ⟨by rw [List.length_append]; omega, h.trans (List.suffix_append start u)⟩

/-- A prefix that ends in a marker shows the marker inside the list. -/
theorem infix_of_prefix_of_suffix {marker : List α} (h : text <+: cs) (hm : marker <:+ text) :
    marker <:+: cs :=
  hm.isInfix.trans h.isInfix

/-! ### The first place of a marker -/

/-- Whether a marker starts at a place of a list, and at no place before it. -/
structure IsFirstAt (marker cs : List α) (i : ℕ) : Prop where
  /-- It starts there. -/
  starts : marker <+: cs.drop i
  /-- It starts at no place before. -/
  first : ∀ j < i, ¬ marker <+: cs.drop j

/-- What ends in a marker ends where the marker does. -/
theorem take_add_length {marker : List α} {i : ℕ} (h : marker <+: cs.drop i) :
    cs.take (i + marker.length) = cs.take i ++ marker := by
  rw [List.take_add, ← List.prefix_iff_eq_take.1 h]

/-- A marker behind some members starts at the place that they lead to. -/
theorem prefix_drop_length {v marker : List α} (h : v ++ marker <+: cs) :
    marker <+: cs.drop v.length := by
  obtain ⟨w, rfl⟩ := h
  rw [List.append_assoc, List.drop_left]
  exact List.prefix_append marker w

/-- **The shortest prefix that ends in a marker ends with the first marker.** -/
theorem isShortest_suffix_iff {marker : List α} :
    IsShortest (marker <:+ ·) cs text ↔
      ∃ i, IsFirstAt marker cs i ∧ text = cs.take (i + marker.length) := by
  constructor
  · intro h
    obtain ⟨v, rfl⟩ : marker <:+ text := h.holds
    have hstarts := prefix_drop_length h.isPrefix
    refine ⟨v.length, ⟨hstarts, fun j hj hmarker ↦ ?_⟩, ?_⟩
    · -- a marker at an earlier place would end a shorter prefix
      have hle := h.le_length (cs.take (j + marker.length)) (List.take_prefix _ cs)
        ⟨cs.take j, (take_add_length hmarker).symm⟩
      rw [List.length_append, List.length_take] at hle
      omega
    · rw [← List.length_append]
      exact List.prefix_iff_eq_take.1 h.isPrefix
  · rintro ⟨i, h, rfl⟩
    refine ⟨List.take_prefix _ cs, ⟨cs.take i, (take_add_length h.starts).symm⟩, ?_⟩
    rintro _ hu ⟨v, rfl⟩
    have hle : i ≤ v.length :=
      Nat.le_of_not_lt fun hlt ↦ h.first _ hlt (prefix_drop_length hu)
    rw [List.length_append, List.length_take]
    omega

/-! ### A marker behind a text that lacks it -/

/-- Whether two occurrences of a marker never overlap: no shorter part that it starts with is one that
it ends with. -/
def IsUnbordered (marker : List α) : Prop :=
  ∀ v ∈ marker.inits, v <:+ marker → v = [] ∨ v = marker

instance [DecidableEq α] (marker : List α) : Decidable (IsUnbordered marker) :=
  inferInstanceAs (Decidable (∀ v ∈ marker.inits, v <:+ marker → v = [] ∨ v = marker))

/-- **The shortest prefix that ends in a marker is the whole text if the marker is put behind a text
that lacks it.** An occurrence that starts in the text and ends in the marker would leave a border. -/
theorem isShortest_append_marker {marker : List α} (hborder : IsUnbordered marker)
    (h : ¬ marker <:+: cs) : IsShortest (marker <:+ ·) (cs ++ marker) (cs ++ marker) where
  isPrefix := List.prefix_refl _
  holds := List.suffix_append cs marker
  le_length := by
    intro u hu hmarker
    rcases prefix_append_cases hu with hu | ⟨c, v, rfl, -⟩
    · exact absurd (infix_of_prefix_of_suffix hu hmarker) h
    · have hfront : c :: v <+: marker := (List.prefix_append_right_inj cs).1 hu
      have hback : c :: v <:+ marker :=
        List.suffix_of_suffix_length_le (List.suffix_append cs (c :: v)) hmarker hfront.length_le
      rcases hborder _ ((List.mem_inits _ _).2 hfront) hback with hnil | hall
      · exact absurd hnil (List.cons_ne_nil c v)
      · rw [hall]

/-! ### Search for a marker -/

/-- What a search for a marker comes to: the text through the first marker, or the whole text if
there is none. -/
inductive Search (marker cs : List α) : List α × Bool → Prop where
  /-- The marker is there. -/
  | found {body : List α} (h : IsShortest (marker <:+ ·) cs body) : Search marker cs (body, true)
  /-- The marker is missing. -/
  | missing (h : ¬ marker <:+: cs) : Search marker cs (cs, false)

namespace Search

variable {marker body : List α} {c : α} {found : Bool}

/-- A marker at the start ends the search. -/
theorem here (h : marker <+: cs) : Search marker cs (marker, true) :=
  .found ⟨h, List.suffix_refl _, fun _ _ hu ↦ hu.length_le⟩

/-- Without a marker at the start the search goes on behind the first member. -/
theorem cons (hc : ¬ marker <+: c :: cs) (h : Search marker cs (body, found)) :
    Search marker (c :: cs) (c :: body, found) := by
  have hnil : marker ≠ [] := fun hm ↦ hc (hm ▸ List.nil_prefix)
  cases h with
  | found h =>
    refine .found ⟨(List.prefix_cons_inj c).2 h.isPrefix, h.holds.trans (List.suffix_cons c _), ?_⟩
    intro u hu hm
    rcases List.prefix_cons_iff.1 hu with rfl | ⟨v, rfl, hv⟩
    · exact absurd (List.suffix_nil.1 hm) hnil
    · -- the marker cannot start with the first member, so it lies within what follows
      rcases List.suffix_cons_iff.1 hm with rfl | hm
      · exact absurd hu hc
      · exact Nat.succ_le_succ (h.le_length v hv hm)
  | missing h =>
    refine .missing fun hm ↦ ?_
    rcases List.infix_cons_iff.1 hm with hm | hm
    · exact hc hm
    · exact h hm

end Search

end TokenScan.Text

/-!
# Items between commas

Lists are written with commas between their items in more than one format. `separated?` and `items?`
read such a list for a reader of one item, and leave what follows the last item where it is.

`items?_flatMap` is how they are used: where the reader of one item takes back what was written for
it, the items come back from the list of what was written, up to an end that does not go on. An end
may have blank space before it that the reader passes over with the last item.
-/

namespace TokenScan.Text

variable {α : Type} {item? : List Char → Option (α × List Char)}

/-- Items with commas between them, as read by a reader that has taken the first one. A comma that
no item follows is left where it is. -/
def separated? (item? : List Char → Option (α × List Char)) (cs : List Char) :
    List α × List Char :=
  match cs with
  | ',' :: rest =>
    match item? rest with
    | some (a, after) =>
      if after.length ≤ rest.length then
        let (more, tail) := separated? item? after
        (a :: more, tail)
      else ([], cs)
    | none => ([], cs)
  | _ => ([], cs)
termination_by cs.length
decreasing_by simp only [List.length_cons]; omega

/-- Items with commas between them, or none. -/
def items? (item? : List Char → Option (α × List Char)) (cs : List Char) : List α × List Char :=
  match item? cs with
  | some (a, rest) =>
    let (more, tail) := separated? item? rest
    (a :: more, tail)
  | none => ([], cs)

/-- Without an item there is no list. -/
theorem items?_of_none {cs : List Char} (h : item? cs = none) : items? item? cs = ([], cs) := by
  rw [items?, h]

theorem items?_of_some {a : α} {cs rest : List Char} (h : item? cs = some (a, rest)) :
    items? item? cs = (a :: (separated? item? rest).1, (separated? item? rest).2) := by
  rw [items?, h]

/-- A list does not go on without a comma. -/
theorem separated?_of_head? {cs : List Char} (h : cs.head? ≠ some ',') :
    separated? item? cs = ([], cs) := by
  unfold separated?
  split
  · exact absurd rfl h
  · rfl

/-- A list does not go on with a comma that no item follows. -/
theorem separated?_of_none {rest : List Char} (h : item? rest = none) :
    separated? item? (',' :: rest) = ([], ',' :: rest) := by
  rw [separated?, h]

/-- A list goes on with a comma and an item. -/
theorem separated?_of_some {a : α} {rest after : List Char} (h : item? rest = some (a, after))
    (hlength : after.length ≤ rest.length) :
    separated? item? (',' :: rest) =
      (a :: (separated? item? after).1, (separated? item? after).2) := by
  rw [separated?, h]
  exact if_pos hlength

/-- **Items that are written one after the other come back**, up to an end that does not go on. What
is written for `b` is read as `read b`. -/
theorem items?_flatMap {β : Type} (write : β → List Char) (read : β → α) {last last' : List Char}
    {a : β} {as : List β} (hlength : last'.length ≤ last.length)
    (hitem : ∀ b ∈ a :: as, ∀ rest, item? (write b ++ ',' :: rest) = some (read b, ',' :: rest))
    (hlast : ∀ b ∈ a :: as, item? (write b ++ last) = some (read b, last'))
    (hend : separated? item? last' = ([], last')) :
    items? item? (write a ++ (as.flatMap (fun b ↦ ',' :: write b) ++ last)) =
      ((a :: as).map read, last') := by
  induction as generalizing a with
  | nil =>
    rw [List.flatMap_nil, List.nil_append, items?_of_some (hlast a (by simp)), hend]
    rfl
  | cons b bs ih =>
    -- what `items?` makes of the rest is what `separated?` makes of it behind a comma
    have hrest := ih (fun c hc ↦ hitem c (List.mem_cons_of_mem a hc))
      fun c hc ↦ hlast c (List.mem_cons_of_mem a hc)
    have hb : ∃ after, item? (write b ++ (bs.flatMap (fun b ↦ ',' :: write b) ++ last)) =
        some (read b, after) ∧
          after.length ≤ (write b ++ (bs.flatMap (fun b ↦ ',' :: write b) ++ last)).length := by
      cases bs with
      | nil =>
        exact ⟨last', hlast b (by simp),
          Nat.le_trans hlength (List.suffix_append (write b) last).length_le⟩
      | cons c cs => exact ⟨_, hitem b (by simp) _, (List.suffix_append (write b) _).length_le⟩
    obtain ⟨after, hafter, hle⟩ := hb
    rw [items?_of_some hafter, List.map_cons] at hrest
    obtain ⟨hmore, htail⟩ := Prod.mk.inj hrest
    rw [List.flatMap_cons, List.append_assoc, List.cons_append,
      items?_of_some (hitem a (by simp) _), separated?_of_some hafter hle, hmore, htail]
    rfl

end TokenScan.Text

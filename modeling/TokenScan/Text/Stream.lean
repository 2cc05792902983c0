/-!
# Texts that are read from some byte on

A text is held in bytes, and a character takes one to four of them. A `TextStream` is a text and the
byte from which it is to be read. Asking for the next character decodes the one that starts at that
byte and moves behind it, and gives nothing where the text ends.

Not every byte starts a character. `IsBetween` says which characters stand in front of the byte and
which ones behind it, so that the byte is at the boundary between two characters. A stream that starts
between characters stays between characters (`IsBetween.next`), and gives those behind it in order
(`IsBetween.rest_eq`).
-/

namespace TokenScan

/-- A text, and the byte from which it is to be read. -/
structure TextStream where
  /-- The text. -/
  text : String
  /-- The number of bytes that lie behind. -/
  position : String.Pos.Raw := 0

namespace TextStream

/-- A text from its start, or from behind a mark if that is what it starts with. -/
def ofText (mark : Char) (text : String) : TextStream :=
  { text, position := if String.Pos.Raw.get? text 0 = some mark then ⟨mark.utf8Size⟩ else 0 }

/-- The next character, and the text behind it. -/
def next (s : TextStream) : Option Char × TextStream :=
  match String.Pos.Raw.get? s.text s.position with
  | some c => (some c, { s with position := s.position + c })
  | none => (none, s)

/-- Whether a stream stands between some characters of its text and others. -/
structure IsBetween (s : TextStream) (before after : List Char) : Prop where
  /-- The characters make up the text. -/
  text : s.text = String.ofList (before ++ after)
  /-- The position is the size of those in front. -/
  position : s.position.byteIdx = (String.ofList before).utf8ByteSize

/-- The size of characters adds up. -/
theorem utf8ByteSize_ofList_cons (c : Char) (cs : List Char) :
    (String.ofList (c :: cs)).utf8ByteSize = c.utf8Size + (String.ofList cs).utf8ByteSize := by
  rw [String.ofList_cons, String.utf8ByteSize_append, String.utf8ByteSize_singleton]

theorem utf8ByteSize_ofList_append (cs ds : List Char) :
    (String.ofList (cs ++ ds)).utf8ByteSize =
      (String.ofList cs).utf8ByteSize + (String.ofList ds).utf8ByteSize := by
  rw [String.ofList_append, String.utf8ByteSize_append]

/-- Counting bytes from the front finds the character behind those in front. -/
theorem utf8GetAux?_append (before after : List Char) {i p : String.Pos.Raw}
    (h : p.byteIdx = i.byteIdx + (String.ofList before).utf8ByteSize) :
    String.Pos.Raw.utf8GetAux? (before ++ after) i p = after.head? := by
  induction before generalizing i with
  | nil =>
    obtain rfl : i = p := String.Pos.Raw.ext h.symm
    cases after with
    | nil => rfl
    | cons c after => exact if_pos rfl
  | cons b before ih =>
    rw [utf8ByteSize_ofList_cons] at h
    have hne : i ≠ p := by
      rintro rfl
      have := b.utf8Size_pos
      omega
    have hmoved : p.byteIdx = (i + b).byteIdx + (String.ofList before).utf8ByteSize := by
      rw [String.Pos.Raw.byteIdx_add_char]
      omega
    show (if i = p then some b else String.Pos.Raw.utf8GetAux? (before ++ after) (i + b) p) = _
    rw [if_neg hne]
    exact ih hmoved

/-- A character that is found has its place among the others. -/
theorem exists_of_utf8GetAux? {cs : List Char} {i p : String.Pos.Raw} {c : Char}
    (h : String.Pos.Raw.utf8GetAux? cs i p = some c) :
    ∃ before after, cs = before ++ c :: after ∧
      p.byteIdx = i.byteIdx + (String.ofList before).utf8ByteSize := by
  induction cs generalizing i with
  | nil => cases h
  | cons d cs ih =>
    by_cases hp : i = p
    · obtain rfl : d = c := Option.some.inj ((if_pos hp).symm.trans h)
      exact ⟨[], cs, rfl, by rw [hp]; rfl⟩
    · obtain ⟨before, after, rfl, hp⟩ := ih ((if_neg hp).symm.trans h)
      refine ⟨d :: before, after, rfl, ?_⟩
      rw [hp, String.Pos.Raw.byteIdx_add_char, utf8ByteSize_ofList_cons, Nat.add_assoc]

namespace IsBetween

variable {s : TextStream} {before after : List Char}

theorem get?_eq (h : s.IsBetween before after) :
    String.Pos.Raw.get? s.text s.position = after.head? := by
  have hsize : s.position.byteIdx =
      (0 : String.Pos.Raw).byteIdx + (String.ofList before).utf8ByteSize := by
    rw [h.position]
    exact (Nat.zero_add _).symm
  show String.Pos.Raw.utf8GetAux? s.text.toList 0 s.position = _
  rw [h.text, String.toList_ofList]
  exact utf8GetAux?_append before after hsize

/-- **The next character is the first one behind, and the stream stands behind it then.** -/
theorem next {c : Char} (h : s.IsBetween before (c :: after)) :
    s.next.1 = some c ∧ s.next.2.IsBetween (before ++ [c]) after := by
  have hget := h.get?_eq
  rw [List.head?_cons] at hget
  rw [TextStream.next, hget]
  refine ⟨rfl, ?_, ?_⟩
  · rw [List.append_assoc]
    exact h.text
  · show (s.position + c).byteIdx = _
    rw [String.Pos.Raw.byteIdx_add_char, h.position, utf8ByteSize_ofList_append,
      utf8ByteSize_ofList_cons]
    rfl

/-- At the end of the text there is no next character, and nothing moves. -/
theorem next_nil (h : s.IsBetween before []) : s.next = (none, s) := by
  rw [TextStream.next, h.get?_eq]
  rfl

end IsBetween

/-- A stream that gives a character stood between characters. -/
theorem exists_isBetween_of_next {s t : TextStream} {c : Char} (h : s.next = (some c, t)) :
    ∃ before after, s.IsBetween before (c :: after) ∧ t.IsBetween (before ++ [c]) after := by
  have hget : String.Pos.Raw.get? s.text s.position = some c := by
    rw [next] at h
    split at h
    · next d hd => rw [hd, (Prod.mk.inj h).1]
    · cases h
  obtain ⟨before, after, htext, hposition⟩ := exists_of_utf8GetAux? hget
  have hbetween : s.IsBetween before (c :: after) := by
    refine ⟨?_, ?_⟩
    · rw [← htext, String.ofList_toList]
    · rw [hposition]
      exact Nat.zero_add _
  have hmoved := hbetween.next.2
  rw [h] at hmoved
  exact ⟨before, after, hbetween, hmoved⟩

/-- A stream that has no character to give does not move. -/
theorem eq_of_next_none {s t : TextStream} (h : s.next = (none, t)) : t = s := by
  rw [next] at h
  split at h
  · cases h
  · exact (Prod.mk.inj h).2.symm

/-- The characters that are still to be read. -/
def rest (s : TextStream) : List Char :=
  match _h : s.next with
  | (some c, t) => c :: t.rest
  | (none, _) => []
termination_by s.text.utf8ByteSize - s.position.byteIdx
decreasing_by
  obtain ⟨before, after, hs, ht⟩ := exists_isBetween_of_next _h
  have hc := c.utf8Size_pos
  rw [ht.text, ht.position, hs.text, hs.position]
  simp only [utf8ByteSize_ofList_append, utf8ByteSize_ofList_cons]
  omega

theorem rest_of_next_some {s t : TextStream} {c : Char} (h : s.next = (some c, t)) :
    s.rest = c :: t.rest := by
  rw [rest]
  split
  · next d u hu =>
    obtain ⟨hc, rfl⟩ := Prod.mk.inj (hu.symm.trans h)
    rw [Option.some.inj hc]
  · next u hu => cases hu.symm.trans h

theorem rest_of_next_none {s t : TextStream} (h : s.next = (none, t)) : s.rest = [] := by
  rw [rest]
  split
  · next d u hu => cases hu.symm.trans h
  · rfl

/-- **A stream gives the characters behind it, in order.** -/
theorem IsBetween.rest_eq {s : TextStream} {before after : List Char}
    (h : s.IsBetween before after) : s.rest = after := by
  induction after generalizing s before with
  | nil => exact rest_of_next_none h.next_nil
  | cons c after ih =>
    obtain ⟨hc, hmoved⟩ := h.next
    rw [rest_of_next_some (Prod.ext hc rfl), ih hmoved]

/-- **A stream between characters stands at the boundary between two characters, or at an end.** -/
theorem IsBetween.isValid {s : TextStream} {before after : List Char}
    (h : s.IsBetween before after) : s.position.IsValid s.text := by
  have htext : s.text = String.ofList before ++ String.ofList after := by
    rw [h.text, String.ofList_append]
  exact String.Pos.Raw.isValid_iff_exists_append.2 ⟨_, _, htext, String.Pos.Raw.ext h.position⟩

/-- Over a text, a stream stands between what the text has of the mark and the rest of the text. -/
theorem isBetween_ofText (mark : Char) (text : String) :
    (∃ after, text.toList = mark :: after ∧ (ofText mark text).IsBetween [mark] after) ∨
      text.toList.head? ≠ some mark ∧ (ofText mark text).IsBetween [] text.toList := by
  have hstart : (⟨text, 0⟩ : TextStream).IsBetween [] text.toList := ⟨String.ofList_toList.symm, rfl⟩
  have hget : String.Pos.Raw.get? text 0 = text.toList.head? := hstart.get?_eq
  rw [ofText, hget]
  split
  · next h =>
    obtain ⟨after, hafter⟩ := List.head?_eq_some_iff.1 h
    refine .inl ⟨after, hafter, ?_, ?_⟩
    · show text = _
      rw [List.singleton_append, ← hafter, String.ofList_toList]
    · exact (utf8ByteSize_ofList_cons mark []).symm
  · next h => exact .inr ⟨h, hstart⟩

end TextStream

end TokenScan

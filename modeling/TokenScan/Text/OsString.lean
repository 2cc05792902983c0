import TokenScan.Text.Hexadecimal
import TokenScan.Text.Quoted
/-!
# Strings of the operating system

To an operating system a name is a string of bytes. Most names are texts in UTF-8 (`ofString`), but
nothing keeps other bytes out. `chunks` cuts any bytes into the characters that stand in them and
what lies between, as long as it can be the start of a character and no longer.

Users are shown a name as a text in which a replacement character stands for each piece that is no
character (`display`). A name that is a text is shown as it is (`display_ofString`), so two such
names are told apart by what is shown of them (`IsText.eq_of_display_eq`); other names may be shown
alike.
-/

namespace TokenScan

/-- A string of the operating system: any bytes. -/
structure OsString where
  /-- The bytes. -/
  bytes : List UInt8
  deriving DecidableEq, Repr

namespace OsString

/-- The bytes of a text. -/
def ofString (text : String) : OsString := ⟨text.toList.flatMap String.utf8EncodeChar⟩

/-- The text that the bytes are, if they are one. -/
def text? (s : OsString) : Option String := String.fromUTF8? s.bytes.toByteArray

/-- Whether the bytes are those of a text. -/
def IsText (s : OsString) : Prop := ∃ text, s = ofString text

theorem isText_ofString (text : String) : (ofString text).IsText := ⟨text, rfl⟩

/-! ### Characters and what is none -/

/-- A piece of a string. -/
inductive Chunk where
  /-- A character. -/
  | char (c : Char)
  /-- Bytes that are no character. -/
  | broken (bytes : List UInt8)

/-- The character that comes first, if one does. -/
def firstChar? (bytes : List UInt8) : Option Char := (bytes.take 4).toByteArray.utf8DecodeChar? 0

/-- Whether a byte is one of those that go on a character. -/
def isContinuation (b : UInt8) : Bool := 0x80 ≤ b && b ≤ 0xBF

/-- Whether a byte can come second in a character of three or four bytes, by the first one. Without
these bounds a character could be written in more bytes than it needs, or be a surrogate, or lie
beyond the last code point. -/
def canFollow (first second : UInt8) : Bool :=
  if first == 0xE0 then 0xA0 ≤ second && second ≤ 0xBF
  else if first == 0xED then 0x80 ≤ second && second ≤ 0x9F
  else if first == 0xF0 then 0x90 ≤ second && second ≤ 0xBF
  else if first == 0xF4 then 0x80 ≤ second && second ≤ 0x8F
  else 0xE0 ≤ first && first ≤ 0xF4 && isContinuation second

/-- How many bytes are taken together where no character comes first: those with which one could
have started, but at least one. -/
def brokenLength : List UInt8 → Nat
  | first :: second :: rest =>
    if canFollow first second then
      if 0xF0 ≤ first && rest.head?.any isContinuation then 3 else 2
    else 1
  | _ => 1

/-- The chunks behind some bytes that belong to the one before. -/
def chunksAfter : Nat → List UInt8 → List Chunk
  | _, [] => []
  | n + 1, _ :: rest => chunksAfter n rest
  | 0, b :: rest =>
    match firstChar? (b :: rest) with
    | some c => .char c :: chunksAfter (c.utf8Size - 1) rest
    | none =>
      let n := brokenLength (b :: rest)
      .broken ((b :: rest).take n) :: chunksAfter (n - 1) rest

/-- The characters of a string and what lies between them. -/
def chunks (bytes : List UInt8) : List Chunk := chunksAfter 0 bytes

theorem chunksAfter_append (bs rest : List UInt8) :
    chunksAfter bs.length (bs ++ rest) = chunks rest := by
  induction bs with
  | nil => rfl
  | cons b bs ih => exact ih

theorem firstChar?_append (c : Char) (rest : List UInt8) :
    firstChar? (String.utf8EncodeChar c ++ rest) = some c := by
  have hlength : (String.utf8EncodeChar c).length ≤ 4 :=
    Nat.le_trans (Nat.le_of_eq (String.length_utf8EncodeChar c)) c.utf8Size_le_four
  rw [firstChar?, List.take_append, List.take_of_length_le hlength, List.toByteArray_append]
  exact ByteArray.utf8DecodeChar?_utf8EncodeChar_append

/-- **A character is a chunk of its own**, whatever follows. -/
theorem chunks_append (c : Char) (rest : List UInt8) :
    chunks (String.utf8EncodeChar c ++ rest) = .char c :: chunks rest := by
  obtain ⟨b, bs, hbs⟩ := List.exists_cons_of_ne_nil (String.utf8EncodeChar_ne_nil (c := c))
  have hlength : bs.length = c.utf8Size - 1 := by
    rw [← String.length_utf8EncodeChar c, hbs, List.length_cons, Nat.add_sub_cancel]
  have hfirst := firstChar?_append c rest
  rw [hbs, List.cons_append] at hfirst ⊢
  rw [chunks, chunksAfter, hfirst]
  show Chunk.char c :: chunksAfter (c.utf8Size - 1) (bs ++ rest) = _
  rw [← hlength, chunksAfter_append]

theorem chunks_flatMap (cs : List Char) :
    chunks (cs.flatMap String.utf8EncodeChar) = cs.map .char := by
  induction cs with
  | nil => rfl
  | cons c cs ih => rw [List.flatMap_cons, chunks_append, ih, List.map_cons]

/-! ### What is shown -/

/-- The character that is shown for a chunk. -/
def Chunk.shown : Chunk → Char
  | char c => c
  | broken _ => '\uFFFD'

/-- A string as users are shown it. -/
def display (s : OsString) : String := String.ofList ((chunks s.bytes).map Chunk.shown)

/-- A chunk as it is written between quotes, where either quote has a backslash. -/
def Chunk.escaped : Chunk → List Char
  | char c => if c = '\'' then ['\\', c] else Text.escaped '"' c
  | broken bytes => bytes.flatMap fun b ↦
    ['\\', 'x', Text.upperHexDigit (b.toNat / 16), Text.upperHexDigit b.toNat]

/-- The quoted form of a string. -/
def quoted (s : OsString) : String :=
  String.ofList ('"' :: (chunks s.bytes).flatMap Chunk.escaped ++ ['"'])

/-- **A text is shown as it is.** -/
@[simp] theorem display_ofString (text : String) : (ofString text).display = text := by
  rw [display, ofString, chunks_flatMap, List.map_map]
  exact (congrArg String.ofList (List.map_id text.toList)).trans String.ofList_toList

/-- Two names that are texts are told apart by what is shown. -/
theorem IsText.eq_of_display_eq {s t : OsString} (hs : s.IsText) (ht : t.IsText)
    (h : s.display = t.display) : s = t := by
  obtain ⟨a, rfl⟩ := hs
  obtain ⟨b, rfl⟩ := ht
  rw [display_ofString, display_ofString] at h
  rw [h]

/-- A byte that starts no character is shown like the character that stands for it. -/
example : (⟨[0x61, 0xFF]⟩ : OsString).display = (ofString "a\uFFFD").display := by decide +kernel

/-- A character that is cut short is shown as one, but a surrogate as one for each of its bytes. -/
example : (⟨[0xF0, 0x9F, 0x98]⟩ : OsString).display = "\uFFFD" ∧
    (⟨[0xED, 0xA0, 0x80]⟩ : OsString).display = "\uFFFD\uFFFD\uFFFD" := by decide +kernel

end OsString

end TokenScan

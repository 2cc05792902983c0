import TokenScan.Json.Value
import TokenScan.Text.Hexadecimal
import TokenScan.Text.Items
/-!
# Reading JSON

A text is read as a document, or as several documents one after the other. Blank space may stand
wherever the layout is free: around documents, items, keys and members. The reader takes the part of
JSON that `Json` can hold, in any layout; every other text is refused.

In a string an escape may name any character, by its short form or by four hexadecimal digits, twice
four if it lies beyond them. Controls must be escaped. A number has no leading zero, and documents
nest up to a depth that is limited (`deepest`).
-/

namespace TokenScan.Json

open Text (hexValue? items?)

/-! ### Blank space -/

/-- Whether a character may stand where the layout is free. -/
def isBlank (c : Char) : Bool := c == ' ' || c == '\t' || c == '\n' || c == '\r'

/-- What follows the blank space at the start of a text. -/
def skipBlanks (cs : List Char) : List Char := cs.dropWhile isBlank

/-! ### Strings and numbers -/

/-- The number that four hexadecimal digits make. -/
def codeUnit? : List Char → Option (Nat × List Char)
  | a :: b :: c :: d :: rest => do
    let a ← hexValue? a
    let b ← hexValue? b
    let c ← hexValue? c
    let d ← hexValue? d
    return (16 * (16 * (16 * a + b) + c) + d, rest)
  | _ => none

/-- The character that one code unit or two stand for, the first read from behind its mark. -/
def numbered? (cs : List Char) : Option (Char × List Char) :=
  match codeUnit? cs with
  | some (high, rest) =>
    if 0xD800 ≤ high ∧ high < 0xDC00 then
      match rest with
      | '\\' :: 'u' :: more =>
        match codeUnit? more with
        | some (low, after) =>
          if 0xDC00 ≤ low ∧ low < 0xE000 then
            some (Char.ofNat (0x10000 + 0x400 * (high - 0xD800) + (low - 0xDC00)), after)
          else none
        | none => none
      | _ => none
    else if high.isValidChar then some (Char.ofNat high, rest)
    else none
  | none => none

/-- The character that an escape stands for, read from behind the backslash. -/
def escape? : List Char → Option (Char × List Char)
  | '"' :: rest => some ('"', rest)
  | '\\' :: rest => some ('\\', rest)
  | '/' :: rest => some ('/', rest)
  | 'b' :: rest => some ('\x08', rest)
  | 'f' :: rest => some ('\x0c', rest)
  | 'n' :: rest => some ('\n', rest)
  | 'r' :: rest => some ('\r', rest)
  | 't' :: rest => some ('\t', rest)
  | 'u' :: rest => numbered? rest
  | _ => none

/-- The rest of a string. -/
def text? (cs : List Char) : Option (List Char × List Char) :=
  match cs with
  | [] => none
  | c :: rest =>
    if c = '"' then some ([], rest)
    else if c = '\\' then
      match escape? rest with
      | some (d, after) =>
        if after.length ≤ rest.length then
          (text? after).map fun (ds, tail) ↦ (d :: ds, tail)
        else none
      | none => none
    else if c.toNat < 0x20 then none
    else (text? rest).map fun (ds, tail) ↦ (c :: ds, tail)
termination_by cs.length
decreasing_by all_goals simp only [List.length_cons]; omega

/-- A natural number. -/
def number? (cs : List Char) : Option (Nat × List Char) :=
  match cs.takeWhile Char.isDigit with
  | [] => none
  | '0' :: _ :: _ => none
  | ds => some (Nat.ofDigitChars 10 ds 0, cs.dropWhile Char.isDigit)

/-! ### Documents -/

/-- A document with the blank space around it, for a reader of documents. -/
def item? (document? : List Char → Option (Json × List Char)) (cs : List Char) :
    Option (Json × List Char) :=
  (document? (skipBlanks cs)).map fun (j, rest) ↦ (j, skipBlanks rest)

/-- The rest of a list, for a reader of the documents in it. -/
def array? (document? : List Char → Option (Json × List Char)) (cs : List Char) :
    Option (Json × List Char) :=
  let (items, rest) := items? (item? document?) cs
  match skipBlanks rest with
  | ']' :: tail => some (.array items, tail)
  | _ => none

/-- A key, a colon and a document, for a reader of documents, with the blank space around them. -/
def member? (document? : List Char → Option (Json × List Char)) (cs : List Char) :
    Option ((String × Json) × List Char) :=
  match skipBlanks cs with
  | '"' :: rest =>
    match text? rest with
    | some (key, after) =>
      match skipBlanks after with
      | ':' :: more =>
        (document? (skipBlanks more)).map fun (j, tail) ↦ ((String.ofList key, j), skipBlanks tail)
      | _ => none
    | none => none
  | _ => none

/-- The rest of an object, for a reader of the documents in it. -/
def object? (document? : List Char → Option (Json × List Char)) (cs : List Char) :
    Option (Json × List Char) :=
  let (members, rest) := items? (member? document?) cs
  match skipBlanks rest with
  | '\x7d' :: tail => some (.object members, tail)
  | _ => none

/-- A document that nests no deeper than a limit. -/
def documentWithin? : Nat → List Char → Option (Json × List Char)
  | _, '"' :: rest => (text? rest).map fun (cs, tail) ↦ (.string (String.ofList cs), tail)
  | depth + 1, '[' :: rest => array? (documentWithin? depth) rest
  | depth + 1, '\x7b' :: rest => object? (documentWithin? depth) rest
  | _, cs => (number? cs).map fun (n, tail) ↦ (.number n, tail)

/-- The depth beyond which documents are refused. -/
def deepest : Nat := 128

/-- A document at the start of a text. -/
def document? (cs : List Char) : Option (Json × List Char) := documentWithin? deepest cs

/-- Documents one after the other. -/
def documents? (cs : List Char) : Option (List Json) :=
  match skipBlanks cs with
  | [] => some []
  | c :: rest =>
    match document? (c :: rest) with
    | some (j, tail) =>
      if tail.length < cs.length then (documents? tail).map (j :: ·) else none
    | none => none
termination_by cs.length

/-- The documents that bytes are, one after the other. -/
def ofBytes? (data : ByteArray) : Option (List Json) :=
  (String.fromUTF8? data).bind fun text ↦ documents? text.toList

/-! ### What documents hold -/

/-- The document under a key. -/
def get? (key : String) : Json → Option Json
  | object members => members.lookup key
  | _ => none

/-- The text of a string. -/
def string? : Json → Option String
  | string text => some text
  | _ => none

/-- A number. -/
def nat? : Json → Option Nat
  | number value => some value
  | _ => none

/-- The items of a list, each of which must be right. -/
def list? {α : Type} (item? : Json → Option α) : Json → Option (List α)
  | array items => items.mapM item?
  | _ => none

end TokenScan.Json

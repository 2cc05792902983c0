/-!
# JSON documents

The part of JSON that reports are made of: strings, natural numbers, lists, and objects whose
members keep their order. A document has two layouts, `compact` on one line and `pretty` with two
blanks of indentation for each level; an empty list or object stays on one line in both.

In a string, a quote, a backslash and the characters below the blank are escaped, with the short
forms where JSON has them; all else stands as it is.
-/

namespace TokenScan

/-- A JSON document. -/
inductive Json where
  /-- A string. -/
  | string (text : String)
  /-- A natural number. -/
  | number (value : Nat)
  /-- A list. -/
  | array (items : List Json)
  /-- An object. -/
  | object (members : List (String × Json))

namespace Json

/-- The list of some strings. -/
def strings (texts : List String) : Json := array (texts.map string)

/-- A lower-case hexadecimal digit. -/
def hexDigit (n : Nat) : Char := Nat.digitChar (n % 16)

/-- A character as it is written in a string. -/
def escape (c : Char) : List Char :=
  if c = '"' then ['\\', '"']
  else if c = '\\' then ['\\', '\\']
  else if c = '\x08' then ['\\', 'b']
  else if c = '\x0c' then ['\\', 'f']
  else if c = '\n' then ['\\', 'n']
  else if c = '\r' then ['\\', 'r']
  else if c = '\t' then ['\\', 't']
  else if c.toNat < 0x20 then ['\\', 'u', '0', '0', hexDigit (c.toNat / 16), hexDigit c.toNat]
  else [c]

/-- A string between quotes. -/
def quote (text : String) : List Char := '"' :: text.toList.flatMap escape ++ ['"']

/-- The decimal digits of a number. -/
def digits (n : Nat) : List Char := Nat.toDigits 10 n

mutual

/-- A document on one line. -/
def compact : Json → List Char
  | string text => quote text
  | number value => digits value
  | array [] => ['[', ']']
  | array (item :: rest) => '[' :: compact item ++ compactItems rest ++ [']']
  | object [] => ['\x7b', '\x7d']
  | object ((key, value) :: rest) =>
    '\x7b' :: quote key ++ ':' :: compact value ++ compactMembers rest ++ ['\x7d']

/-- The items of a list after the first. -/
def compactItems : List Json → List Char
  | [] => []
  | item :: rest => ',' :: compact item ++ compactItems rest

/-- The members of an object after the first. -/
def compactMembers : List (String × Json) → List Char
  | [] => []
  | (key, value) :: rest => ',' :: quote key ++ ':' :: compact value ++ compactMembers rest

end

/-- A new line at some depth. -/
def newline (depth : Nat) : List Char := '\n' :: List.replicate (2 * depth) ' '

mutual

/-- A document at some depth, one item or member to a line. -/
def prettyAt (depth : Nat) : Json → List Char
  | string text => quote text
  | number value => digits value
  | array [] => ['[', ']']
  | array (item :: rest) =>
    '[' :: newline (depth + 1) ++ prettyAt (depth + 1) item ++ prettyItems (depth + 1) rest ++
      newline depth ++ [']']
  | object [] => ['\x7b', '\x7d']
  | object ((key, value) :: rest) =>
    '\x7b' :: newline (depth + 1) ++ quote key ++ ':' :: ' ' :: prettyAt (depth + 1) value ++
      prettyMembers (depth + 1) rest ++ newline depth ++ ['\x7d']

/-- The items of a list after the first. -/
def prettyItems (depth : Nat) : List Json → List Char
  | [] => []
  | item :: rest => ',' :: newline depth ++ prettyAt depth item ++ prettyItems depth rest

/-- The members of an object after the first. -/
def prettyMembers (depth : Nat) : List (String × Json) → List Char
  | [] => []
  | (key, value) :: rest =>
    ',' :: newline depth ++ quote key ++ ':' :: ' ' :: prettyAt depth value ++
      prettyMembers depth rest

end

/-- A document with one item or member to a line. -/
def pretty (j : Json) : List Char := prettyAt 0 j

end Json

end TokenScan

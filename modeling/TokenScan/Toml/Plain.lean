import TokenScan.Toml.Codec
import TokenScan.Text.Hexadecimal
/-!
# A plain way to write TOML

`Codec.plain` is a codec. It writes a table for each header, with a line for each entry, and an
empty line in front of every header but the first. A list takes one line if it has at most one
string, and otherwise a line for each. Only plain values under keys that need no quotes can be
written, and only numbers that fit.

A string takes the plainest form that can hold it: quotes if nothing needs an escape, else
apostrophes, else three quotes, else three apostrophes, and quotes with escapes if nothing else is
left. A string with a line feed takes several lines, and starts on a line of its own.
-/

namespace TokenScan.Toml

open Text (upperHexDigit)

/-! ### Strings -/

/-- The length of the longest run of a character. -/
def longestRun (x : Char) : List Char → Nat → Nat
  | [], n => n
  | c :: rest, n => if c = x then longestRun x rest (n + 1) else max n (longestRun x rest 0)

/-- A character that has to be escaped, as an escape. -/
def escaped (c : Char) : List Char :=
  if c = '\x08' then ['\\', 'b']
  else if c = '\t' then ['\\', 't']
  else if c = '\n' then ['\\', 'n']
  else if c = '\x0c' then ['\\', 'f']
  else if c = '\r' then ['\\', 'r']
  else if c = '"' then ['\\', '"']
  else if c = '\\' then ['\\', '\\']
  else ['\\', 'u', '0', '0', upperHexDigit (c.toNat / 16), upperHexDigit c.toNat]

/-- Whether a character has to be escaped wherever it stands between quotes. -/
def needsEscape (c : Char) : Bool := c == '\t' || c == '\\' || (isControl c && c != '\n')

/-- The text between quotes. On several lines line feeds stand as they are, and so do quotes up to
the number that may follow one another; `quotes` counts those that have just been written. -/
def writeBasic (lines : Bool) : List Char → Nat → List Char
  | [], _ => []
  | c :: rest, quotes =>
    if c = '"' then
      if lines && quotes < 2 then c :: writeBasic lines rest (quotes + 1)
      else escaped c ++ writeBasic lines rest 0
    else if needsEscape c || (c == '\n' && !lines) then escaped c ++ writeBasic lines rest 0
    else c :: writeBasic lines rest 0

/-- The forms in which a string can be written. -/
inductive StringForm where
  /-- Between quotes. -/
  | basic
  /-- Between apostrophes. -/
  | literal
  /-- Between three quotes. -/
  | basicLines
  /-- Between three apostrophes. -/
  | literalLines
  deriving DecidableEq, Repr

/-- The plainest form that can hold a string. -/
def formOf (cs : List Char) : StringForm :=
  let controls := cs.any fun c ↦ isControl c && c != '\n'
  let backslash := cs.contains '\\'
  let newline := cs.contains '\n'
  let quotes := longestRun '"' cs 0
  let apostrophes := longestRun '\'' cs 0
  if !controls && !backslash && quotes == 0 && !newline then .basic
  else if !controls && apostrophes == 0 && !newline then .literal
  else if !controls && !backslash && quotes ≤ 2 then .basicLines
  else if !controls && apostrophes ≤ 2 then .literalLines
  else if newline then .basicLines
  else .basic

/-- A string in some form. -/
def writeAs (cs : List Char) : StringForm → List Char
  | .basic => '"' :: writeBasic false cs 0 ++ ['"']
  | .literal => '\'' :: cs ++ ['\'']
  | .basicLines =>
    "\"\"\"".toList ++ (if cs.contains '\n' then ['\n'] else []) ++ writeBasic true cs 0 ++
      "\"\"\"".toList
  | .literalLines =>
    "'''".toList ++ (if cs.contains '\n' then ['\n'] else []) ++ cs ++ "'''".toList

/-- A string in the plainest form that can hold it. -/
def writeString (s : String) : List Char := writeAs s.toList (formOf s.toList)

/-! ### Values -/

/-- An array of strings: on one line if it has at most one, otherwise with a line for each. -/
def writeStrings : List String → List Char
  | [] => "[]".toList
  | [s] => '[' :: writeString s ++ [']']
  | ss =>
    "[\n".toList ++ ss.flatMap (fun s ↦ "    ".toList ++ writeString s ++ ",\n".toList) ++ [']']

/-- A truth value. -/
def writeBoolean (b : Bool) : List Char := if b then "true".toList else "false".toList

/-- A natural number. -/
def writeNat (n : Nat) : List Char := Nat.toDigits 10 n

/-- A value, if it is plain and fits. -/
def writeValue? : Value → Option (List Char)
  | .string s => some (writeString s)
  | .boolean b => some (writeBoolean b)
  | .integer n => if 0 ≤ n ∧ n < integerLimit then some (writeNat n.toNat) else none
  | .array items => (allStrings? items).map writeStrings
  | _ => none

/-! ### Tables -/

/-- An entry on a line of its own. -/
def writeEntry (key : String) (value : List Char) : List Char :=
  key.toList ++ " = ".toList ++ value ++ ['\n']

/-- A header on a line of its own. -/
def writeHeader (key : String) : List Char := '[' :: key.toList ++ "]\n".toList

/-- The entries of a table. -/
def writeEntries? : Fields → Option (List Char)
  | [] => some []
  | (key, value) :: rest =>
    if IsBare key then do
      let text ← writeValue? value
      let more ← writeEntries? rest
      return writeEntry key text ++ more
    else none

/-- A table under its header. -/
def writeTable? : String × Value → Option (List Char)
  | (name, .table _ fields) =>
    if IsBare name then (writeEntries? fields).map (writeHeader name ++ ·) else none
  | _ => none

/-- Tables with something in front of the first one and an empty line in front of all others. -/
def writeTables? (gap : List Char) : Fields → Option (List Char)
  | [] => some []
  | field :: rest => do
    let text ← writeTable? field
    let more ← writeTables? ['\n'] rest
    return gap ++ text ++ more

namespace Codec

/-- The codec that writes tables in the plainest form and reads all of TOML. -/
def plain : Codec where
  write? fields := (writeTables? [] fields).map String.ofList
  read? text := table? text.toList

end Codec

end TokenScan.Toml

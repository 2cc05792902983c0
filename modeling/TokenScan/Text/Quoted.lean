import TokenScan.Text.Unprintable
/-!
# Quoted characters and strings

Diagnostic output shows characters between apostrophes and strings between double quotes. Inside,
the delimiter, the backslash and the usual controls are written with a backslash, a character that
would not be seen is written by its code point in braces, and all else stands as it is. The
delimiter of the other form needs no backslash.
-/

namespace TokenScan.Text

/-- The lower-case hexadecimal digits of a number, with no leading zero. -/
def hexDigits (n : Nat) : List Char := Nat.toDigits 16 n

/-- A character as it is written between two delimiters. -/
def escaped (delimiter c : Char) : List Char :=
  if c = '\x00' then ['\\', '0']
  else if c = '\t' then ['\\', 't']
  else if c = '\r' then ['\\', 'r']
  else if c = '\n' then ['\\', 'n']
  else if c = '\\' ∨ c = delimiter then ['\\', c]
  else if isUnprintable c then ['\\', 'u', '\x7b'] ++ hexDigits c.toNat ++ ['\x7d']
  else [c]

/-- The quoted form of a character. -/
def quotedChar (c : Char) : String := String.ofList ('\'' :: escaped '\'' c ++ ['\''])

/-- The quoted form of a string. -/
def quotedString (s : String) : String :=
  String.ofList ('"' :: s.toList.flatMap (escaped '"') ++ ['"'])

end TokenScan.Text

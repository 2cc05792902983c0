/-!
# Hexadecimal digits

Escapes name characters by hexadecimal digits. A digit is read in upper or lower case, and written
in either (`hexValue?_digitChar`, `hexValue?_toUpper_digitChar`).
-/

namespace TokenScan.Text

/-- The value of a hexadecimal digit. -/
def hexValue? (c : Char) : Option Nat :=
  if c.isDigit then some (c.toNat - '0'.toNat)
  else if 'a' ≤ c ∧ c ≤ 'f' then some (c.toNat - 'a'.toNat + 10)
  else if 'A' ≤ c ∧ c ≤ 'F' then some (c.toNat - 'A'.toNat + 10)
  else none

theorem hexValue?_digitChar {n : Nat} (h : n < 16) : hexValue? (Nat.digitChar n) = some n := by
  revert n
  decide

theorem hexValue?_toUpper_digitChar {n : Nat} (h : n < 16) :
    hexValue? (Nat.digitChar n).toUpper = some n := by
  revert n
  decide

/-- An upper-case hexadecimal digit. -/
def upperHexDigit (n : Nat) : Char := (Nat.digitChar (n % 16)).toUpper

/-- A decimal digit has its value as a hexadecimal one. -/
theorem hexValue?_of_isDigit {c : Char} (h : c.isDigit = true) :
    hexValue? c = some (c.toNat - '0'.toNat) := if_pos h

end TokenScan.Text

/-!
# Dates and times of TOML

A moment is a date, a time of day, or both, and with both it may have an offset. No setting has such
a value, so a moment is only checked: months have the days that the calendar gives them, and a
minute may have a sixty-first second.
-/

namespace TokenScan.Toml

/-- The number that two digits make, if it lies between two bounds. -/
def twoDigits? (low high : Nat) : List Char → Option (Nat × List Char)
  | a :: b :: rest =>
    if a.isDigit && b.isDigit then
      let n := 10 * (a.toNat - '0'.toNat) + (b.toNat - '0'.toNat)
      if low ≤ n ∧ n ≤ high then some (n, rest) else none
    else none
  | _ => none

/-- What follows a character. -/
def after? (x : Char) : List Char → Option (List Char)
  | c :: rest => if c = x then some rest else none
  | [] => none

/-- Whether a year has a day more. -/
def isLeapYear (year : Nat) : Bool := year % 4 == 0 && (year % 100 != 0 || year % 400 == 0)

/-- The number of days of a month. -/
def daysInMonth (year month : Nat) : Nat :=
  if month = 2 then if isLeapYear year then 29 else 28
  else if month = 4 ∨ month = 6 ∨ month = 9 ∨ month = 11 then 30
  else 31

/-- What follows a date. -/
def date? (cs : List Char) : Option (List Char) := do
  let (century, cs) ← twoDigits? 0 99 cs
  let (year, cs) ← twoDigits? 0 99 cs
  let cs ← after? '-' cs
  let (month, cs) ← twoDigits? 1 12 cs
  let cs ← after? '-' cs
  let (_, cs) ← twoDigits? 1 (daysInMonth (100 * century + year) month) cs
  return cs

/-- What follows the fraction of a second, if there is one. -/
def afterFraction : List Char → List Char
  | '.' :: c :: rest => if c.isDigit then rest.dropWhile Char.isDigit else '.' :: c :: rest
  | cs => cs

/-- What follows a time of day. -/
def time? (cs : List Char) : Option (List Char) := do
  let (_, cs) ← twoDigits? 0 23 cs
  let cs ← after? ':' cs
  let (_, cs) ← twoDigits? 0 59 cs
  let cs ← after? ':' cs
  let (_, cs) ← twoDigits? 0 60 cs
  return afterFraction cs

/-- What follows an offset from the standard time. -/
def offset? : List Char → Option (List Char)
  | c :: cs =>
    if c = 'Z' ∨ c = 'z' then some cs
    else if c = '+' ∨ c = '-' then do
      let (_, cs) ← twoDigits? 0 23 cs
      let cs ← after? ':' cs
      let (_, cs) ← twoDigits? 0 59 cs
      return cs
    else none
  | [] => none

/-- What follows the time of day that a date may have, and its offset. -/
def timeOfDate? : List Char → Option (List Char)
  | c :: cs =>
    if c = 'T' ∨ c = 't' ∨ c = ' ' then (time? cs).map fun rest ↦ (offset? rest).getD rest else none
  | [] => none

/-- What follows a moment. -/
def moment? (cs : List Char) : Option (List Char) :=
  match date? cs with
  | some rest => some ((timeOfDate? rest).getD rest)
  | none => time? cs

end TokenScan.Toml

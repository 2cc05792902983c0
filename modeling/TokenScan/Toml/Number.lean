import TokenScan.Toml.Quoted
/-!
# Numbers of TOML

Whole numbers are decimal with a sign, or hexadecimal, octal or binary without one; underscores may
stand between digits. They have to fit 64 bits. A decimal number has no leading zero.

A number with a fraction or an exponent is only checked, since no setting has such a value: it is a
number as long as it does not round to infinity, which a decimal does from half a unit above the
largest finite double on (`roundsToInfinity`). Infinity and "not a number" have names of their own.
-/

namespace TokenScan.Toml

open Text (hexValue?)

/-- The least number that does not fit 64 bits with a sign. -/
def integerLimit : Nat := Nat.pow 2 63

/-- A number, if it fits 64 bits with a sign. -/
def fits? (negative : Bool) (magnitude : Nat) : Option Int :=
  if negative then if magnitude ≤ integerLimit then some (-magnitude) else none
  else if magnitude < integerLimit then some magnitude else none

/-- The rest of a run of digits that may have underscores between them, and the digits. -/
def moreDigits (isDigit : Char → Bool) : List Char → List Char × List Char
  | '_' :: c :: rest =>
    if isDigit c then
      let (ds, after) := moreDigits isDigit rest
      (c :: ds, after)
    else ([], '_' :: c :: rest)
  | c :: rest =>
    if isDigit c then
      let (ds, after) := moreDigits isDigit rest
      (c :: ds, after)
    else ([], c :: rest)
  | [] => ([], [])

/-- Digits that may have underscores between them. -/
def digits? (isDigit : Char → Bool) : List Char → Option (List Char × List Char)
  | c :: rest =>
    if isDigit c then
      let (ds, after) := moreDigits isDigit rest
      some (c :: ds, after)
    else none
  | [] => none

/-- A sign, and whether it is a minus. -/
def sign : List Char → Bool × List Char
  | '-' :: rest => (true, rest)
  | '+' :: rest => (false, rest)
  | cs => (false, cs)

/-- The digits of a decimal number without leading zeros. -/
def wholeDigits? : List Char → Option (List Char × List Char)
  | '0' :: rest => some (['0'], rest)
  | cs => digits? Char.isDigit cs

/-- The number that some digits make in a base. -/
def ofDigits (base : Nat) (ds : List Char) : Nat :=
  ds.foldl (fun n c ↦ base * n + (hexValue? c).getD 0) 0

/-! ### Whole numbers -/

/-- A number in a base other than ten, read from behind its mark. -/
def based? (base : Nat) (isDigit : Char → Bool) (cs : List Char) : Option (Int × List Char) :=
  match digits? isDigit cs with
  | some (ds, rest) => (fits? false (ofDigits base ds)).map fun n ↦ (n, rest)
  | none => none

/-- A whole number. -/
def integer? : List Char → Option (Int × List Char)
  | '0' :: 'x' :: rest => based? 16 (fun c ↦ (hexValue? c).isSome) rest
  | '0' :: 'o' :: rest => based? 8 (fun c ↦ '0' ≤ c && c ≤ '7') rest
  | '0' :: 'b' :: rest => based? 2 (fun c ↦ c == '0' || c == '1') rest
  | cs =>
    let (negative, rest) := sign cs
    match wholeDigits? rest with
    | some (ds, after) => (fits? negative (ofDigits 10 ds)).map fun n ↦ (n, after)
    | none => none

/-! ### Numbers with a fraction or an exponent -/

/-- A fraction: a point and digits. -/
def fraction? : List Char → Option (List Char × List Char)
  | '.' :: rest => digits? Char.isDigit rest
  | _ => none

/-- An exponent: a letter, a sign and digits. -/
def exponent? : List Char → Option (Int × List Char)
  | c :: rest =>
    if c = 'e' ∨ c = 'E' then
      let (negative, rest) := sign rest
      (digits? Char.isDigit rest).map fun (ds, after) ↦
        (if negative then -(ofDigits 10 ds : Int) else (ofDigits 10 ds : Int), after)
    else none
  | [] => none

/-- The least number that rounds to infinity as a double: half a unit above the largest one. -/
def infinityFrom : Nat := Nat.pow 2 1024 - Nat.pow 2 970

/-- Whether a decimal, some digits with the point moved to the right by an exponent, rounds to
infinity. Its order of magnitude is compared first, so no large power is computed. -/
def roundsToInfinity (ds : List Char) (exponent : Int) : Bool :=
  let ds := ds.dropWhile (· == '0')
  if ds.isEmpty then false
  else
    let magnitude := exponent + ds.length
    if magnitude > 309 then true
    else if magnitude < 309 then false
    else
      let m := ofDigits 10 ds
      if exponent < 0 then decide (infinityFrom * Nat.pow 10 exponent.natAbs ≤ m)
      else decide (infinityFrom ≤ m * Nat.pow 10 exponent.natAbs)

/-- What follows a decimal with a fraction or an exponent. -/
def decimal? (cs : List Char) : Option (List Char) :=
  let (negative, rest) := sign cs
  match wholeDigits? rest with
  | none => none
  | some (whole, rest) =>
    let finite (ds : List Char) (exponent : Int) (after : List Char) : Option (List Char) :=
      if !negative && roundsToInfinity ds exponent then none else some after
    match fraction? rest with
    | some (part, rest) =>
      match exponent? rest with
      | some (e, after) => finite (whole ++ part) (e - part.length) after
      | none => finite (whole ++ part) (-part.length) rest
    | none =>
      match exponent? rest with
      | some (e, after) => finite whole e after
      | none => none

/-- What follows the name of a number that has no digits. -/
def namedNumber? (cs : List Char) : Option (List Char) :=
  match (sign cs).2 with
  | 'i' :: 'n' :: 'f' :: rest => some rest
  | 'n' :: 'a' :: 'n' :: rest => some rest
  | _ => none

/-- What follows a number that is not whole. -/
def float? (cs : List Char) : Option (List Char) :=
  match decimal? cs with
  | some rest => some rest
  | none => namedNumber? cs

end TokenScan.Toml

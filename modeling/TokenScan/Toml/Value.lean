import TokenScan.Text.Items
import TokenScan.Toml.Moment
import TokenScan.Toml.Number
/-!
# Values of TOML

A value is a string, a number, a truth value, a moment, an array or a table. A table remembers how
it came about, as that decides what may still be added to it. Of numbers that are not whole and of
moments only the fact is kept.

## Reading

Values nest through arrays and inline tables, to a depth that is limited (`deepest`). An array may
go over several lines; an inline table may not. `items?` reads the items of both: a value, then a
comma and another one, as often as there is a comma.

## Building tables

`assign` puts a value under a dotted key. The tables on the way are made if they are missing and
must otherwise have been made by dotted keys; the last of them in any case, so that a table which
has a header, or is written inline, is complete where it stands.
-/

namespace TokenScan.Toml

open Text (items?)

/-- How a table came about. -/
inductive TableOrigin where
  /-- It has a header. -/
  | header
  /-- It is on the way to a table that has a header. -/
  | path
  /-- It is on the way to a dotted key. -/
  | dotted
  /-- It is written in braces. -/
  | inline
  deriving DecidableEq, Repr

/-- A value. -/
inductive Value where
  /-- A string. -/
  | string (text : String)
  /-- A whole number. -/
  | integer (value : Int)
  /-- A number that is not whole. -/
  | float
  /-- A truth value. -/
  | boolean (value : Bool)
  /-- A date, a time, or both. -/
  | moment
  /-- An array. -/
  | array (items : List Value)
  /-- A table. -/
  | table (origin : TableOrigin) (fields : List (String × Value))
  /-- The tables that share a doubled header. -/
  | tables (rows : List Value)

/-- The keys of a table with their values. -/
abbrev Fields := List (String × Value)

/-- Strings as a value. -/
def valueOfStrings (ss : List String) : Value := .array (ss.map .string)

/-- The strings that values are, if all of them are strings. -/
def allStrings? : List Value → Option (List String)
  | [] => some []
  | .string s :: rest => (allStrings? rest).map (s :: ·)
  | _ :: _ => none

theorem allStrings?_map (ss : List String) : allStrings? (ss.map .string) = some ss := by
  induction ss with
  | nil => rfl
  | cons s ss ih => rw [List.map_cons, allStrings?, ih]; rfl

namespace Fields

/-- The value under a key. -/
def find? (fields : Fields) (key : String) : Option Value := List.lookup key fields

/-- Puts a value under a key, in the place of the one that was there. -/
def set (fields : Fields) (key : String) (value : Value) : Fields :=
  match fields with
  | [] => [(key, value)]
  | (k, v) :: rest => if k = key then (k, value) :: rest else (k, v) :: set rest key value

/-- Puts a value under a key that has none. -/
def add? (fields : Fields) (key : String) (value : Value) : Option Fields :=
  if (fields.find? key).isSome then none else some (fields ++ [(key, value)])

/-- The last of some rows, if it is a table, and the rows before it. -/
def lastTable? (rows : List Value) : Option (List Value × TableOrigin × Fields) :=
  match rows.getLast? with
  | some (.table origin fields) => some (rows.dropLast, origin, fields)
  | _ => none

/-- Puts a value under a dotted key, given by the keys on the way and the last one. -/
def assign (fields : Fields) (key : String) (value : Value) : List String → Option Fields
  | [] => fields.add? key value
  | k :: way =>
    match fields.find? k with
    | none => (assign [] key value way).map fun inner ↦ fields.set k (.table .dotted inner)
    | some (.table .dotted inner) =>
      (assign inner key value way).map fun inner ↦ fields.set k (.table .dotted inner)
    | some (.table .path inner) =>
      if way.isEmpty then none
      else (assign inner key value way).map fun inner ↦ fields.set k (.table .path inner)
    | some (.tables rows) =>
      match lastTable? rows with
      | some (before, origin, inner) =>
        if way.isEmpty then none
        else
          (assign inner key value way).map fun inner ↦
            fields.set k (.tables (before ++ [.table origin inner]))
      | none => none
    | some _ => none

end Fields

/-! ### Keys -/

/-- A key without quotes. -/
def bareKey? (cs : List Char) : Option (String × List Char) :=
  match cs.takeWhile isBareKey with
  | [] => none
  | name => some (String.ofList name, cs.dropWhile isBareKey)

/-- A key, quoted or not. -/
def simpleKey? (cs : List Char) : Option (String × List Char) :=
  match line? cs with
  | some (name, rest) => some (String.ofList name, rest)
  | none => bareKey? cs

/-- The depth from which on nesting is refused. -/
def deepest : Nat := 80

/-- The keys of a dotted key after a point, and what follows them. -/
def moreKeys? : Nat → List Char → Option (List String × List Char)
  | 0, _ => none
  | fuel + 1, cs =>
    match skipBlanks cs with
    | '.' :: rest =>
      match simpleKey? (skipBlanks rest) with
      | some (key, after) => (moreKeys? fuel after).map fun (keys, tail) ↦ (key :: keys, tail)
      | none => none
    | rest => some ([], rest)

/-- A dotted key with blanks around its parts. It has fewer parts than the limit of nesting. -/
def dottedKey? (cs : List Char) : Option (List String × List Char) :=
  match simpleKey? (skipBlanks cs) with
  | some (key, rest) =>
    (moreKeys? (deepest - 1) rest).map fun (keys, tail) ↦ (key :: keys, tail)
  | none => none

/-! ### Reading values -/

/-- The rest of an array, for a reader of the values in it. -/
def array? (value? : List Char → Option (Value × List Char)) (cs : List Char) :
    Option (Value × List Char) :=
  let item? (cs : List Char) : Option (Value × List Char) :=
    (value? (skipLines cs)).map fun (v, rest) ↦ (v, skipLines rest)
  let (values, rest) := items? item? cs
  let rest :=
    match values, rest with
    | _ :: _, ',' :: after => after
    | _, _ => rest
  match skipLines rest with
  | ']' :: tail => some (.array values, tail)
  | _ => none

/-- A dotted key, an equals sign and a value, for a reader of values. -/
def assignment? (value? : List Char → Option (Value × List Char)) (cs : List Char) :
    Option ((List String × Value) × List Char) :=
  match dottedKey? cs with
  | some (keys, '=' :: rest) => (value? (skipBlanks rest)).map fun (v, tail) ↦ ((keys, v), tail)
  | _ => none

/-- Puts values under their dotted keys, one after the other. -/
def assignAll (fields : Fields) : List (List String × Value) → Option Fields
  | [] => some fields
  | (keys, value) :: rest =>
    match keys.getLast? with
    | some key =>
      match fields.assign key value keys.dropLast with
      | some fields => assignAll fields rest
      | none => none
    | none => none

/-- The rest of an inline table, for a reader of the values in it. -/
def inlineTable? (value? : List Char → Option (Value × List Char)) (cs : List Char) :
    Option (Value × List Char) :=
  let item? (cs : List Char) : Option ((List String × Value) × List Char) :=
    (assignment? value? cs).map fun (entry, rest) ↦ (entry, skipBlanks rest)
  let (entries, rest) := items? item? cs
  match skipBlanks rest with
  | '\x7d' :: tail => (assignAll [] entries).map fun fields ↦ (.table .inline fields, tail)
  | _ => none

/-- A value that holds no other. -/
def scalar? (cs : List Char) : Option (Value × List Char) :=
  match cs with
  | '"' :: _ | '\'' :: _ => (string? cs).map fun (text, rest) ↦ (.string text, rest)
  | 't' :: 'r' :: 'u' :: 'e' :: rest => some (.boolean true, rest)
  | 'f' :: 'a' :: 'l' :: 's' :: 'e' :: rest => some (.boolean false, rest)
  | _ =>
    match moment? cs with
    | some rest => some (.moment, rest)
    | none =>
      match float? cs with
      | some rest => some (.float, rest)
      | none => (integer? cs).map fun (n, rest) ↦ (.integer n, rest)

/-- A value that nests no deeper than a limit. -/
def valueWithin? : Nat → List Char → Option (Value × List Char)
  | 0, '[' :: _ => none
  | 0, '\x7b' :: _ => none
  | depth + 1, '[' :: rest => array? (valueWithin? depth) rest
  | depth + 1, '\x7b' :: rest => inlineTable? (valueWithin? depth) rest
  | _, cs => scalar? cs

/-- A value. -/
def value? (cs : List Char) : Option (Value × List Char) := valueWithin? (deepest - 1) cs

end TokenScan.Toml

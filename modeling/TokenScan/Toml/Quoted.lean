import TokenScan.Text.Hexadecimal
import TokenScan.Toml.Character
/-!
# Strings of TOML

A string stands between quotes or between apostrophes, one of them on a single line or three of them
over several lines. Between quotes a backslash starts an escape, between apostrophes it is a
character like any other. A line end right after three delimiters is not part of the string, and a
backslash at the end of a line takes the blank space that follows with it. One or two delimiters may
stand inside three, also right before the closing ones.
-/

namespace TokenScan.Toml

open Text (hexValue?)

/-- A character by its code point. Surrogates are not characters. -/
def charOfNat? (n : Nat) : Option Char := if n.isValidChar then some (Char.ofNat n) else none

/-- The number that some hexadecimal digits make, read on from the one before them. -/
def hexNumber? (n : Nat) : List Char → Option Nat
  | [] => some n
  | c :: rest =>
    match hexValue? c with
    | some d => hexNumber? (16 * n + d) rest
    | none => none

/-- A character given by a number of hexadecimal digits. -/
def numbered? (count : Nat) (cs : List Char) : Option (Char × List Char) :=
  if (cs.take count).length = count then
    ((hexNumber? 0 (cs.take count)).bind charOfNat?).map fun c ↦ (c, cs.drop count)
  else none

/-- The character that an escape stands for, read from behind the backslash. -/
def escape? : List Char → Option (Char × List Char)
  | 'b' :: rest => some ('\x08', rest)
  | 't' :: rest => some ('\t', rest)
  | 'n' :: rest => some ('\n', rest)
  | 'f' :: rest => some ('\x0c', rest)
  | 'r' :: rest => some ('\r', rest)
  | '"' :: rest => some ('"', rest)
  | '\\' :: rest => some ('\\', rest)
  | 'u' :: rest => numbered? 4 rest
  | 'U' :: rest => numbered? 8 rest
  | _ => none

theorem length_numbered?_le {count : Nat} {cs rest : List Char} {c : Char}
    (h : numbered? count cs = some (c, rest)) : rest.length ≤ cs.length := by
  rw [numbered?] at h
  split at h
  · obtain ⟨d, _, hd⟩ := Option.map_eq_some_iff.1 h
    rw [← (Prod.mk.inj hd).2, List.length_drop]
    exact Nat.sub_le _ _
  · simp at h

theorem length_escape?_lt {cs rest : List Char} {c : Char} (h : escape? cs = some (c, rest)) :
    rest.length < cs.length := by
  unfold escape? at h
  split at h
  all_goals first
    | exact Nat.lt_succ_of_le (length_numbered?_le h)
    | (simp only [Option.some.injEq, Prod.mk.injEq, reduceCtorEq] at h
       try rw [← h.2]; simp)

/-! ### Strings on one line -/

/-- The rest of a string between quotes. -/
def basic? : List Char → Option (List Char × List Char)
  | [] => none
  | c :: rest =>
    if c = '"' then some ([], rest)
    else if c = '\\' then
      match _h : escape? rest with
      | some (d, after) => (basic? after).map fun (cs, tail) ↦ (d :: cs, tail)
      | none => none
    else if isControl c then none
    else (basic? rest).map fun (cs, tail) ↦ (c :: cs, tail)
termination_by cs => cs.length
decreasing_by
  · have := length_escape?_lt _h
    simp only [List.length_cons]
    omega
  · simp

/-- The rest of a string between apostrophes. -/
def literal? : List Char → Option (List Char × List Char)
  | [] => none
  | c :: rest =>
    if c = '\'' then some ([], rest)
    else if isControl c then none
    else (literal? rest).map fun (cs, tail) ↦ (c :: cs, tail)

/-! ### Strings over several lines -/

/-- Whether a text starts with three of some character. -/
def startsWithThree (delimiter : Char) (cs : List Char) : Bool :=
  [delimiter, delimiter, delimiter].isPrefixOf cs

/-- What three closing delimiters leave: up to two more of them belong to the string. -/
def closing (delimiter : Char) (cs : List Char) : List Char × List Char :=
  let extra := ((cs.drop 3).take 2).takeWhile (· == delimiter)
  (extra, (cs.drop 3).drop extra.length)

/-- What follows blanks and line ends. -/
def skipSpace (cs : List Char) : List Char :=
  match _h : newline? (skipBlanks cs) with
  | some rest => skipSpace rest
  | none => skipBlanks cs
termination_by cs.length
decreasing_by exact Nat.lt_of_lt_of_le (length_newline?_lt _h) (length_skipBlanks_le cs)

theorem length_skipSpace_le (cs : List Char) : (skipSpace cs).length ≤ cs.length := by
  fun_induction skipSpace cs with
  | case1 cs rest h ih =>
    exact Nat.le_trans ih
      (Nat.le_trans (Nat.le_of_lt (length_newline?_lt h)) (length_skipBlanks_le cs))
  | case2 cs h => exact length_skipBlanks_le cs

/-- The rest of a string between three quotes. -/
def basicLines? (cs : List Char) : Option (List Char × List Char) :=
  if startsWithThree '"' cs then some (closing '"' cs)
  else
    match _hn : newline? cs with
    | some rest => (basicLines? rest).map fun (ds, tail) ↦ ('\n' :: ds, tail)
    | none =>
      match cs with
      | [] => none
      | c :: rest =>
        if c = '\\' then
          match _hl : newline? (skipBlanks rest) with
          | some after => basicLines? (skipSpace after)
          | none =>
            match _h : escape? rest with
            | some (d, after) => (basicLines? after).map fun (ds, tail) ↦ (d :: ds, tail)
            | none => none
        else if isControl c then none
        else (basicLines? rest).map fun (ds, tail) ↦ (c :: ds, tail)
termination_by cs.length
decreasing_by
  · exact length_newline?_lt _hn
  · have h₁ := length_newline?_lt _hl
    have h₂ := length_skipBlanks_le rest
    have h₃ := length_skipSpace_le after
    simp only [List.length_cons]
    omega
  · have := length_escape?_lt _h
    simp only [List.length_cons]
    omega
  · simp

/-- The rest of a string between three apostrophes. -/
def literalLines? (cs : List Char) : Option (List Char × List Char) :=
  if startsWithThree '\'' cs then some (closing '\'' cs)
  else
    match _hn : newline? cs with
    | some rest => (literalLines? rest).map fun (ds, tail) ↦ ('\n' :: ds, tail)
    | none =>
      match cs with
      | [] => none
      | c :: rest =>
        if isControl c then none
        else (literalLines? rest).map fun (ds, tail) ↦ (c :: ds, tail)
termination_by cs.length
decreasing_by
  · exact length_newline?_lt _hn
  · simp

/-- A text without the line end at its start, if it has one. -/
def dropNewline (cs : List Char) : List Char := (newline? cs).getD cs

/-- A string on one line, in either form. -/
def line? : List Char → Option (List Char × List Char)
  | '"' :: rest => basic? rest
  | '\'' :: rest => literal? rest
  | _ => none

/-- A string in any form. -/
def string? (cs : List Char) : Option (String × List Char) :=
  let found :=
    if startsWithThree '"' cs then basicLines? (dropNewline (cs.drop 3))
    else if startsWithThree '\'' cs then literalLines? (dropNewline (cs.drop 3))
    else line? cs
  found.map fun (ds, tail) ↦ (String.ofList ds, tail)

end TokenScan.Toml

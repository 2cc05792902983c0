/-!
# Characters of TOML

The character classes of the format, and its blank space: `skipBlanks` passes over blanks and tabs
on a line, `skipComment` also over a comment, `lineEnd?` through the end of the line, and
`skipLines` over as many lines as say nothing. A line ends with a line feed, which may have a
carriage return before it. A comment may hold any characters but controls.
-/

namespace TokenScan.Toml

/-- Whether a character separates words on a line. -/
def isBlank (c : Char) : Bool := c == ' ' || c == '\t'

/-- Whether a character is a control other than the tab. -/
def isControl (c : Char) : Bool := (c.toNat < 0x20 && c != '\t') || c.toNat == 0x7F

/-- Whether a character may stand in a key that has no quotes. -/
def isBareKey (c : Char) : Bool := c.isAlphanum || c == '-' || c == '_'

/-- Whether a key needs no quotes. -/
def IsBare (key : String) : Prop := key.toList ≠ [] ∧ key.toList.all isBareKey = true

instance (key : String) : Decidable (IsBare key) := inferInstanceAs (Decidable (_ ∧ _))

/-- What follows the blanks at the start of a text. -/
def skipBlanks (cs : List Char) : List Char := cs.dropWhile isBlank

/-- What follows a line end at the start of a text. -/
def newline? : List Char → Option (List Char)
  | '\n' :: rest => some rest
  | '\r' :: '\n' :: rest => some rest
  | _ => none

/-- What follows a comment at the start of a text. The line end is not part of the comment. -/
def comment? : List Char → Option (List Char)
  | '#' :: rest => some (rest.dropWhile fun c ↦ !isControl c)
  | _ => none

/-- What follows blanks and a comment at the start of a text. -/
def skipComment (cs : List Char) : List Char :=
  (comment? (skipBlanks cs)).getD (skipBlanks cs)

/-- What follows the end of a line: blanks, a comment, and a line end or the end of the text. -/
def lineEnd? (cs : List Char) : Option (List Char) :=
  match skipComment cs with
  | [] => some []
  | rest => newline? rest

theorem length_skipBlanks_le (cs : List Char) : (skipBlanks cs).length ≤ cs.length :=
  (List.dropWhile_suffix _).length_le

theorem length_newline?_lt {cs rest : List Char} (h : newline? cs = some rest) :
    rest.length < cs.length := by
  unfold newline? at h
  split at h
  · obtain rfl := Option.some.inj h
    simp
  · obtain rfl := Option.some.inj h
    exact Nat.lt_succ_of_lt (Nat.lt_succ_self _)
  · simp at h

theorem length_comment?_lt {cs rest : List Char} (h : comment? cs = some rest) :
    rest.length < cs.length := by
  unfold comment? at h
  split at h
  · obtain rfl := Option.some.inj h
    exact Nat.lt_succ_of_le (List.dropWhile_suffix _).length_le
  · simp at h

theorem length_skipComment_le (cs : List Char) : (skipComment cs).length ≤ cs.length := by
  rw [skipComment]
  cases h : comment? (skipBlanks cs) with
  | none => exact length_skipBlanks_le cs
  | some rest => exact Nat.le_trans (Nat.le_of_lt (length_comment?_lt h)) (length_skipBlanks_le cs)

/-- What follows blanks, comments and line ends at the start of a text. -/
def skipLines (cs : List Char) : List Char :=
  match _h : newline? (skipComment cs) with
  | some rest => skipLines rest
  | none => skipComment cs
termination_by cs.length
decreasing_by exact Nat.lt_of_lt_of_le (length_newline?_lt _h) (length_skipComment_le cs)

end TokenScan.Toml

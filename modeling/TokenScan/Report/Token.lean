import TokenScan.Json.Value
import TokenScan.Token
/-!
# How a token is shown

As text, a token takes one line: its line number, right-aligned to four places, and its text, in
which line breaks and tabs are written as escapes (`escape_ne_newline`). As JSON, it is an object
with its kind, its text and its line.
-/

namespace TokenScan

namespace Token

/-- A character as it is shown on a line. -/
def escape (c : Char) : List Char :=
  if c = '\n' then ['\\', 'n']
  else if c = '\r' then ['\\', 'r']
  else if c = '\t' then ['\\', 't']
  else [c]

/-- Text moved to the right end of a field. -/
def padLeft (width : Nat) (cs : List Char) : List Char :=
  List.replicate (width - cs.length) ' ' ++ cs

/-- A token as one line of text, without the line feed that ends it. -/
def textLine (t : Token) : List Char :=
  " -- line#".toList ++ padLeft 4 (Nat.toDigits 10 t.line.toNat) ++ " : ".toList ++
    t.text.toList.flatMap escape

/-- A line is a mark, the number in its field, a colon between blanks and the text. -/
theorem textLine_eq (t : Token) :
    t.textLine = " -- line#".toList ++ (padLeft 4 (Nat.toDigits 10 t.line.toNat) ++
      ' ' :: ':' :: ' ' :: t.text.toList.flatMap escape) := by
  show _ ++ _ ++ _ ++ _ = _
  rw [List.append_assoc, List.append_assoc]
  rfl

/-- A token as JSON. -/
def record (t : Token) : Json :=
  .object [("kind", .string t.kind.name), ("text", .string t.text), ("line", .number t.line.toNat)]

theorem escape_ne_newline (c : Char) : '\n' ∉ escape c ∧ '\r' ∉ escape c ∧ '\t' ∉ escape c := by
  rw [escape]
  split
  · decide
  · split
    · decide
    · split
      · decide
      · next h₁ h₂ h₃ =>
        simp [Ne.symm h₁, Ne.symm h₂, Ne.symm h₃]

end Token

end TokenScan

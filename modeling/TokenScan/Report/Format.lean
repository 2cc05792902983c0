import TokenScan.Failure
/-!
# Output formats

Output is either text for people or JSON for programs. A format is chosen by name, in upper or
lower case.
-/

namespace TokenScan

/-- The forms of output. -/
inductive OutputFormat where
  /-- One line for each token. -/
  | text
  /-- One JSON document for each file. -/
  | json
  deriving DecidableEq, Repr

namespace OutputFormat

/-- The format of a name. Only letters of ASCII matter: no other letter has a letter of these names
as its lower case. -/
def ofName? (name : String) : Option OutputFormat :=
  match name.map Char.toLower with
  | "text" => some text
  | "txt" => some text
  | "json" => some json
  | _ => none

/-- The format that is asked for or, if none is, the one that is configured. -/
def resolve (asked : Option String) (configured : String) : Except Failure OutputFormat :=
  match ofName? (asked.getD configured) with
  | some format => .ok format
  | none => .error (.unknownFormat (asked.getD configured))

end OutputFormat

end TokenScan

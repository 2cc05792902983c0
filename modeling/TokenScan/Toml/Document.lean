import TokenScan.Toml.Value
/-!
# TOML documents

A document is a list of entries and then a list of sections, each with a header and entries of its
own. `parse?` reads a document, and `table?` is the table it makes.

A header in single brackets names a table that must not have been made before, other than as a
table on the way to one with a longer header. A header in double brackets adds a table to those that
share it. Both look for the table that holds it from the root, through the last one where several
share a header on the way (`alter`).
-/

namespace TokenScan.Toml

/-- A value and the dotted key it is put under. -/
abbrev DocumentEntry := List String × Value

/-- The head of a section. -/
structure Header where
  /-- Whether the brackets are doubled. -/
  repeated : Bool
  /-- The dotted key. -/
  keys : List String

/-- A header and the entries that follow it. -/
structure Section where
  /-- The header. -/
  header : Header
  /-- The entries. -/
  entries : List DocumentEntry

/-- A document. -/
structure Document where
  /-- The entries before the first header. -/
  entries : List DocumentEntry := []
  /-- The sections. -/
  sections : List Section := []

/-! ### Reading -/

/-- What can stand on a line. -/
inductive Line where
  /-- An entry. -/
  | entry (entry : DocumentEntry)
  /-- A header. -/
  | header (header : Header)

/-- A header, read from behind its brackets, with those that close it. -/
def headerFrom? (repeated : Bool) (cs : List Char) : Option (Header × List Char) :=
  match dottedKey? cs with
  | some (keys, rest) =>
    match repeated, rest with
    | false, ']' :: tail => some (⟨false, keys⟩, tail)
    | true, ']' :: ']' :: tail => some (⟨true, keys⟩, tail)
    | _, _ => none
  | none => none

/-- A header. -/
def header? : List Char → Option (Header × List Char)
  | '[' :: '[' :: rest => headerFrom? true rest
  | '[' :: rest => headerFrom? false rest
  | _ => none

/-- A line that says something, through its end. -/
def documentLine? (cs : List Char) : Option (Line × List Char) :=
  match cs with
  | '[' :: _ =>
    match header? cs with
    | some (header, rest) => (lineEnd? rest).map fun tail ↦ (.header header, tail)
    | none => none
  | _ =>
    match assignment? value? cs with
    | some (entry, rest) => (lineEnd? rest).map fun tail ↦ (.entry entry, tail)
    | none => none

/-- The lines of a document that say something. -/
def documentLines? (cs : List Char) : Option (List Line) :=
  match skipLines cs with
  | [] => some []
  | c :: rest =>
    match documentLine? (c :: rest) with
    | some (line, tail) =>
      if tail.length < cs.length then (documentLines? tail).map (line :: ·) else none
    | none => none
termination_by cs.length

/-- Lines put together: the entries before the first header, and the sections. -/
def gather : List Line → Document
  | [] => {}
  | .entry entry :: rest =>
    let document := gather rest
    { document with entries := entry :: document.entries }
  | .header header :: rest =>
    let document := gather rest
    ⟨[], ⟨header, document.entries⟩ :: document.sections⟩

/-- A text without the byte order mark at its start. -/
def dropMark : List Char → List Char
  | c :: rest => if c = '\uFEFF' then rest else c :: rest
  | [] => []

/-- The document that a text is. -/
def Document.parse? (text : List Char) : Option Document := (documentLines? (dropMark text)).map gather

/-! ### The table of a document -/

namespace Fields

/-- Changes what stands under a dotted key, making the tables on the way that are missing. The
change is given what is there, and may refuse. -/
def alter (change : Option Value → Option Value) (fields : Fields) : List String → Option Fields
  | [] => none
  | [key] => (change (fields.find? key)).map (fields.set key)
  | k :: way =>
    match fields.find? k with
    | none => (alter change [] way).map fun inner ↦ fields.set k (.table .path inner)
    | some (.table .inline _) => none
    | some (.table origin inner) =>
      (alter change inner way).map fun inner ↦ fields.set k (.table origin inner)
    | some (.tables rows) =>
      match lastTable? rows with
      | some (before, origin, inner) =>
        (alter change inner way).map fun inner ↦
          fields.set k (.tables (before ++ [.table origin inner]))
      | none => none
    | some _ => none

end Fields

/-- What a section makes of what stands under its header. -/
def Section.change (s : Section) (existing : Option Value) : Option Value :=
  if s.header.repeated then
    match existing with
    | none => (assignAll [] s.entries).map fun fields ↦ .tables [.table .header fields]
    | some (.tables rows) =>
      (assignAll [] s.entries).map fun fields ↦ .tables (rows ++ [.table .header fields])
    | some _ => none
  else
    match existing with
    | none => (assignAll [] s.entries).map (.table .header)
    | some (.table .path fields) => (assignAll fields s.entries).map (.table .header)
    | some _ => none

/-- Adds sections to a table, one after the other. -/
def addSections (fields : Fields) : List Section → Option Fields
  | [] => some fields
  | s :: rest =>
    match fields.alter s.change s.header.keys with
    | some fields => addSections fields rest
    | none => none

/-- The table that a document makes. -/
def Document.table? (d : Document) : Option Fields :=
  match assignAll [] d.entries with
  | some fields => addSections fields d.sections
  | none => none

/-- The table that a text makes. -/
def table? (text : List Char) : Option Fields :=
  match Document.parse? text with
  | some document => document.table?
  | none => none

end TokenScan.Toml

import TokenScan.Proofs.Toml.Value
/-!
# What the pieces of a document say

TOML leaves much to who writes it: a string has several forms, and blank space and comments may
stand in many places. What such a text says are its lines. A piece is a text that says one line
whatever follows it (`Piece`). So the lines of pieces put together are those of the pieces
(`documentLines?_pieces`), and a piece can be taken out without a change to what the others say.

Here the lines of interest are those of tables that have a header and plain values under keys of
their own (`PlainTable`). If pieces say the lines of such tables, whatever the pieces are, then what
their text makes is these tables (`table?_pieces`). As the names differ and so do the keys of each
table, each entry and each table finds its place empty, and is put at the end (`assignAll_entries`,
`addSections_sections`).
-/

namespace TokenScan.Toml

variable {c : Char} {cs ds rest : List Char} {key : String} {fields entries : Fields}

/-! ### Lines -/

/-- Lines are read one at a time, with those before that say nothing. -/
theorem documentLines?_of_line {line : Line} (hskip : skipLines cs = c :: ds)
    (hline : documentLine? (c :: ds) = some (line, rest)) (hlength : rest.length < cs.length) :
    documentLines? cs = (documentLines? rest).map (line :: ·) := by
  rw [documentLines?, hskip]
  simp only [hline]
  rw [if_pos hlength]

theorem documentLines?_nil : documentLines? [] = some [] := by
  have hskip : skipLines [] = [] := by
    rw [skipLines]
    rfl
  rw [documentLines?, hskip]

/-- A byte order mark starts no line, unless it is dropped. -/
theorem documentLines?_mark (cs : List Char) : documentLines? ('\uFEFF' :: cs) = none := by
  have hskip : skipLines ('\uFEFF' :: cs) = '\uFEFF' :: cs := skipLines_of_begins (by decide)
  have hline : documentLine? ('\uFEFF' :: cs) = none := rfl
  rw [documentLines?, hskip]
  simp only [hline]

/-- Whether a text says a line, whatever follows it. -/
def IsLine (text : List Char) (line : Line) : Prop :=
  ∀ rest, documentLines? (text ++ rest) = (documentLines? rest).map (line :: ·)

/-- A part of a document that says one line. -/
structure Piece where
  /-- The text. -/
  text : List Char
  /-- The line. -/
  line : Line
  /-- The text says the line. -/
  isLine : IsLine text line

/-- The text of pieces one after the other. -/
def textOf (pieces : List Piece) : String := String.ofList (pieces.flatMap Piece.text)

/-- **Pieces say their lines.** -/
theorem documentLines?_pieces (pieces : List Piece) :
    documentLines? (pieces.flatMap Piece.text) = some (pieces.map Piece.line) := by
  induction pieces with
  | nil => exact documentLines?_nil
  | cons piece pieces ih => rw [List.flatMap_cons, piece.isLine, ih]; rfl

/-- The document that pieces are. -/
theorem parse?_pieces (pieces : List Piece) :
    Document.parse? (pieces.flatMap Piece.text) = some (gather (pieces.map Piece.line)) := by
  have hread := documentLines?_pieces pieces
  have hmark : dropMark (pieces.flatMap Piece.text) = pieces.flatMap Piece.text := by
    cases htext : pieces.flatMap Piece.text with
    | nil => rfl
    | cons c cs =>
      -- a mark at the start would not be read as a line
      refine if_neg fun hc ↦ ?_
      rw [htext, hc, documentLines?_mark] at hread
      cases hread
  rw [Document.parse?, hmark, hread]
  rfl

/-! ### Tables with headers -/

/-- Values that need no more than a line of their own. -/
inductive Value.IsPlain : Value → Prop
  /-- A string. -/
  | string (s : String) : IsPlain (.string s)
  /-- A truth value. -/
  | boolean (b : Bool) : IsPlain (.boolean b)
  /-- A number that is not negative. -/
  | nat (n : Nat) : IsPlain (.integer n)
  /-- A list of strings. -/
  | strings (ss : List String) : IsPlain (valueOfStrings ss)

/-- A table with a header and plain values. -/
structure PlainTable where
  /-- The key in the header. -/
  name : String
  /-- The keys and the values. -/
  fields : Fields
  /-- The key in the header needs no quotes. -/
  isBare : IsBare name
  /-- Nor do the others. -/
  areBare : ∀ field ∈ fields, IsBare field.1
  /-- No key stands twice. -/
  distinct : (fields.map Prod.fst).Nodup
  /-- The values are plain. -/
  arePlain : ∀ field ∈ fields, field.2.IsPlain

/-- A key and a value as an entry of a document. -/
def entryOf (field : String × Value) : DocumentEntry := ([field.1], field.2)

namespace PlainTable

/-- The table under the key of its header. -/
def field (t : PlainTable) : String × Value := (t.name, .table .header t.fields)

/-- The header. -/
def header (t : PlainTable) : Header := ⟨false, [t.name]⟩

/-- The lines of a table. -/
def lines (t : PlainTable) : List Line :=
  .header t.header :: t.fields.map fun field ↦ .entry (entryOf field)

/-- The section of a document. -/
def asSection (t : PlainTable) : Section := ⟨t.header, t.fields.map entryOf⟩

/-- What is left of a table, by the keys that are kept. -/
def keep (t : PlainTable) (keeps : String → Bool) : PlainTable where
  name := t.name
  fields := t.fields.filter fun field ↦ keeps field.1
  isBare := t.isBare
  areBare field hfield := t.areBare field (List.mem_of_mem_filter hfield)
  distinct := t.distinct.sublist (List.filter_sublist.map _)
  arePlain field hfield := t.arePlain field (List.mem_of_mem_filter hfield)

/-- **The lines that are left of a table** are those of what is left of it, if it still has its
header. Without the header there are none. -/
theorem filter_lines {t : PlainTable} {keepsLine : Line → Bool} {keeps : String → Bool}
    {kept : Bool} (hheader : keepsLine (.header t.header) = kept)
    (hentries : ∀ field ∈ t.fields, keepsLine (.entry (entryOf field)) = (kept && keeps field.1)) :
    t.lines.filter keepsLine = if kept then (t.keep keeps).lines else [] := by
  have hfilter : t.fields.filter (keepsLine ∘ fun field ↦ .entry (entryOf field)) =
      t.fields.filter fun field ↦ kept && keeps field.1 := List.filter_congr hentries
  rw [lines, List.filter_cons, hheader, List.filter_map, hfilter]
  cases kept with
  | true => rfl
  | false => simp

end PlainTable

/-- **A key that is kept has its value**, and another has none. -/
theorem find?_filter (fields : Fields) (keeps : String → Bool) (key : String) :
    Fields.find? (fields.filter fun field ↦ keeps field.1) key =
      if keeps key then fields.find? key else none := by
  simp only [Fields.find?]
  induction fields with
  | nil => simp
  | cons field fields ih =>
    obtain ⟨k, v⟩ := field
    rw [List.filter_cons, List.lookup_cons]
    cases hk : keeps k with
    | true =>
      rw [if_pos rfl, List.lookup_cons, ih]
      cases hkey : key == k with
      | true => rw [beq_iff_eq.1 hkey, hk]; rfl
      | false => rfl
    | false =>
      rw [if_neg nofun, ih]
      cases hkey : key == k with
      | true => rw [beq_iff_eq.1 hkey, hk]; rfl
      | false => rfl

/-! ### Gathering lines -/

theorem gather_entries (entries : Fields) (lines : List Line) :
    gather (entries.map (fun field ↦ .entry (entryOf field)) ++ lines) =
      ⟨entries.map entryOf ++ (gather lines).entries, (gather lines).sections⟩ := by
  induction entries with
  | nil => rfl
  | cons field entries ih => rw [List.map_cons, List.cons_append, gather, ih]; rfl

theorem gather_lines (tables : List PlainTable) :
    gather (tables.flatMap PlainTable.lines) = ⟨[], tables.map PlainTable.asSection⟩ := by
  induction tables with
  | nil => rfl
  | cons t tables ih =>
    rw [List.flatMap_cons, PlainTable.lines, List.cons_append, gather, gather_entries, ih]
    simp [PlainTable.asSection]

/-! ### Making tables -/

theorem find?_append_of_ne {name : String} {v : Value} (h : fields.find? key = none)
    (hne : key ≠ name) : Fields.find? (fields ++ [(name, v)]) key = none := by
  rw [Fields.find?] at h
  rw [Fields.find?, List.lookup_append, h, Option.none_or, List.lookup_cons,
    beq_eq_false_iff_ne.2 hne]
  rfl

theorem set_of_find?_eq_none (h : fields.find? key = none) (v : Value) :
    fields.set key v = fields ++ [(key, v)] := by
  induction fields with
  | nil => rfl
  | cons field fields ih =>
    obtain ⟨name, w⟩ := field
    rw [Fields.find?, List.lookup_cons] at h
    split at h
    · cases h
    · next hne =>
      rw [Fields.set, if_neg (beq_eq_false_iff_ne.1 hne).symm, ih h]
      rfl

/-- **Entries with different keys are put one after the other.** -/
theorem assignAll_entries (hnew : ∀ field ∈ entries, fields.find? field.1 = none)
    (hdistinct : (entries.map Prod.fst).Nodup) :
    assignAll fields (entries.map entryOf) = some (fields ++ entries) := by
  induction entries generalizing fields with
  | nil => exact congrArg some (List.append_nil fields).symm
  | cons entry entries ih =>
    obtain ⟨hne, hrest⟩ := List.nodup_cons.1 hdistinct
    have hadd : fields.assign entry.1 entry.2 [] = some (fields ++ [entry]) := by
      rw [Fields.assign, Fields.add?, hnew entry List.mem_cons_self]
      rfl
    simp only [List.map_cons, entryOf, assignAll, List.getLast?_singleton,
      List.dropLast_singleton, hadd]
    refine (ih (fun field hfield ↦ ?_) hrest).trans (by rw [List.append_assoc]; rfl)
    exact find?_append_of_ne (hnew field (List.mem_cons_of_mem entry hfield))
      fun h ↦ hne (List.mem_map.2 ⟨field, hfield, h⟩)

/-- **Tables with different names are put one after the other.** -/
theorem addSections_sections {tables : List PlainTable}
    (hnew : ∀ t ∈ tables, fields.find? t.name = none)
    (hdistinct : (tables.map PlainTable.name).Nodup) :
    addSections fields (tables.map PlainTable.asSection) =
      some (fields ++ tables.map PlainTable.field) := by
  induction tables generalizing fields with
  | nil => exact congrArg some (List.append_nil fields).symm
  | cons t tables ih =>
    obtain ⟨hne, hrest⟩ := List.nodup_cons.1 hdistinct
    have hfind := hnew t List.mem_cons_self
    have hchange : t.asSection.change none = some t.field.2 := by
      show (assignAll [] (t.fields.map entryOf)).map (Value.table .header) = _
      rw [assignAll_entries (fun _ _ ↦ rfl) t.distinct]
      rfl
    have halter : fields.alter t.asSection.change t.asSection.header.keys =
        some (fields ++ [t.field]) := by
      show (t.asSection.change (fields.find? t.name)).map (fields.set t.name) = _
      rw [hfind, hchange, Option.map_some, set_of_find?_eq_none hfind]
      rfl
    rw [List.map_cons, addSections, halter]
    show addSections (fields ++ [t.field]) _ = _
    rw [ih _ hrest, List.append_assoc]
    · rfl
    · exact fun s hs ↦ find?_append_of_ne (hnew s (List.mem_cons_of_mem t hs))
        fun h ↦ hne (List.mem_map.2 ⟨s, hs, h⟩)

/-- **Pieces that say the lines of tables make these tables.** -/
theorem table?_pieces {pieces : List Piece} {tables : List PlainTable}
    (hlines : pieces.map Piece.line = tables.flatMap PlainTable.lines)
    (hdistinct : (tables.map PlainTable.name).Nodup) :
    table? (textOf pieces).toList = some (tables.map PlainTable.field) := by
  rw [textOf, String.toList_ofList, table?, parse?_pieces, hlines, gather_lines]
  exact addSections_sections (fun _ _ ↦ rfl) hdistinct

end TokenScan.Toml

import TokenScan.Proofs.Toml.Document
/-!
# What is relied upon of a codec

A codec conforms if what it writes is TOML and what is TOML is read as what it says
(`Codec.Conforms`). Both are asked in terms of the format, neither in terms of the other: what is
written for some tables consists of pieces that say the lines of the tables, each in whatever form;
and a text that makes a table is read as this table, whoever has written it. That tables are written
at all is asked only of those whose numbers fit.

The plain codec conforms (`Codec.plain_conforms`). An entry is read as its line because its key
needs no quotes and the text of its value reads as the value (`isLine_writeEntry`), and a header is,
with or without an empty line in front of it (`isLine_writeHeader`).
-/

namespace TokenScan.Toml

variable {c : Char} {rest text gap : List Char} {key name : String} {v : Value} {fields : Fields}

/-! ### Codecs that conform -/

/-- Whether a value is no number that does not fit. -/
def Value.Fits (v : Value) : Prop := ∀ n, v = .integer n → n < integerLimit

/-- Whether all numbers in a table fit. -/
def PlainTable.Fits (t : PlainTable) : Prop := ∀ field ∈ t.fields, field.2.Fits

/-- Whether a codec writes TOML and reads it. -/
structure Codec.Conforms (codec : Codec) : Prop where
  /-- Tables under different names are written if all their numbers fit. -/
  writes : ∀ tables : List PlainTable, (tables.map PlainTable.name).Nodup →
    (∀ t ∈ tables, t.Fits) → ∃ text, codec.write? (tables.map PlainTable.field) = some text
  /-- What is written for tables under different names says their lines. -/
  valid : ∀ (tables : List PlainTable) (text : String), (tables.map PlainTable.name).Nodup →
    codec.write? (tables.map PlainTable.field) = some text →
    ∃ pieces : List Piece, text = textOf pieces ∧
      pieces.map Piece.line = tables.flatMap PlainTable.lines
  /-- A text that makes a table is read as this table. -/
  reads : ∀ (text : String) (fields : Fields), table? text.toList = some fields →
    codec.read? text = some fields

/-! ### Keys -/

theorem IsBare.exists_cons (h : IsBare key) :
    ∃ c cs, key.toList = c :: cs ∧ isBareKey c = true := by
  obtain ⟨c, cs, hcs⟩ := List.exists_cons_of_ne_nil h.1
  exact ⟨c, cs, hcs, List.all_eq_true.1 h.2 c (hcs ▸ List.mem_cons_self)⟩

/-- A key that needs no quotes starts with no character that does. -/
theorem IsBare.append_ne (h : IsBare key) (hc : isBareKey c = false) (rest tail : List Char) :
    key.toList ++ rest ≠ c :: tail := by
  obtain ⟨d, cs, hcs, hd⟩ := h.exists_cons
  rw [hcs]
  exact fun heq ↦ Text.ne_of_class hd hc (List.cons.inj heq).1

theorem begins_of_isBareKey (h : isBareKey c = true) : Begins c := by
  refine ⟨?_, Text.ne_of_class h rfl, Text.ne_of_class h rfl, Text.ne_of_class h rfl⟩
  rw [isBlank, beq_eq_false_iff_ne.2 (Text.ne_of_class h rfl),
    beq_eq_false_iff_ne.2 (Text.ne_of_class h rfl)]
  rfl

/-- **A key that needs no quotes is read by itself**, with the blanks behind it. -/
theorem dottedKey?_append (h : IsBare key) (hend : ∀ c ∈ rest.head?, isBareKey c = false)
    (hpoint : (skipBlanks rest).head? ≠ some '.') :
    dottedKey? (key.toList ++ rest) = some ([key], skipBlanks rest) := by
  obtain ⟨c, cs, hcs, hc⟩ := h.exists_cons
  have hskip : skipBlanks (key.toList ++ rest) = key.toList ++ rest := by
    rw [hcs, List.cons_append, skipBlanks_of_not_isBlank (begins_of_isBareKey hc).1]
  have hline : line? (key.toList ++ rest) = none := by
    rw [line?]
    · exact h.append_ne rfl rest
    · exact h.append_ne rfl rest
  have hkey : simpleKey? (key.toList ++ rest) = some (key, rest) := by
    rw [simpleKey?, hline]
    have hbare := List.all_eq_true.1 h.2
    simp only [bareKey?, Text.takeWhile_append_of_head hbare hend,
      Text.dropWhile_append_of_head hbare hend]
    split
    · next e => exact absurd e h.1
    · rw [String.ofList_toList]
  have hmore : moreKeys? (deepest - 1) rest = some ([], skipBlanks rest) := by
    show moreKeys? (78 + 1) rest = _
    rw [moreKeys?]
    split
    · next e => exact absurd (congrArg List.head? e) hpoint
    · rfl
  rw [dottedKey?, hskip, hkey]
  simp only [hmore]
  rfl

/-! ### Lines -/

theorem documentLine?_writeEntry (hkey : IsBare key) (hvalue : ReadsAs text v) (rest : List Char) :
    documentLine? (writeEntry key text ++ rest) = some (.entry ([key], v), rest) := by
  have hline : writeEntry key text ++ rest =
      key.toList ++ ' ' :: '=' :: ' ' :: (text ++ '\n' :: rest) := by
    simp [writeEntry]
  have hread : dottedKey? (writeEntry key text ++ rest) =
      some ([key], '=' :: ' ' :: (text ++ '\n' :: rest)) := by
    rw [hline, dottedKey?_append hkey (by rintro _ ⟨⟩; rfl) (by simp [skipBlanks, isBlank])]
    rfl
  have hassignment : assignment? value? (writeEntry key text ++ rest) =
      some (([key], v), '\n' :: rest) := by
    rw [assignment?, hread]
    show (value? (skipBlanks (text ++ '\n' :: rest))).map _ = _
    rw [hvalue.start, hvalue.read]
    rfl
  rw [documentLine?, hassignment]
  · rfl
  · rw [hline]
    exact hkey.append_ne rfl _

theorem documentLine?_writeHeader (hname : IsBare name) (rest : List Char) :
    documentLine? (writeHeader name ++ rest) = some (.header ⟨false, [name]⟩, rest) := by
  have hkey : dottedKey? (name.toList ++ ']' :: '\n' :: rest) =
      some ([name], ']' :: '\n' :: rest) :=
    dottedKey?_append hname (by rintro _ ⟨⟩; rfl) (by simp [skipBlanks, isBlank])
  have hline : writeHeader name ++ rest = '[' :: (name.toList ++ ']' :: '\n' :: rest) := by
    simp [writeHeader]
  have hheader : header? (writeHeader name ++ rest) =
      some (⟨false, [name]⟩, '\n' :: rest) := by
    rw [hline, header?]
    · rw [headerFrom?, hkey]
      rfl
    · exact hname.append_ne rfl _
  rw [hline] at hheader ⊢
  rw [documentLine?, hheader]
  rfl

/-- **An entry is a line.** -/
theorem isLine_writeEntry (hkey : IsBare key) (hvalue : ReadsAs text v) :
    IsLine (writeEntry key text) (.entry ([key], v)) := by
  intro rest
  obtain ⟨c, cs, hcs, hc⟩ := hkey.exists_cons
  have hstart : writeEntry key text ++ rest =
      c :: (cs ++ " = ".toList ++ text ++ ['\n'] ++ rest) := by
    rw [writeEntry, hcs]
    rfl
  have hread := documentLine?_writeEntry hkey hvalue rest
  rw [hstart] at hread ⊢
  exact documentLines?_of_line (skipLines_of_begins (begins_of_isBareKey hc)) hread
    (by simp; omega)

/-- **A header is a line**, also behind lines that say nothing. -/
theorem isLine_writeHeader (hgap : ∀ cs, skipLines (gap ++ cs) = skipLines cs)
    (hname : IsBare name) :
    IsLine (gap ++ writeHeader name) (.header ⟨false, [name]⟩) := by
  intro rest
  have hskip : skipLines (gap ++ (writeHeader name ++ rest)) = writeHeader name ++ rest :=
    (hgap _).trans (skipLines_of_begins (by decide))
  rw [List.append_assoc]
  exact documentLines?_of_line hskip (documentLine?_writeHeader hname rest)
    (by simp [writeHeader]; omega)

/-! ### The plain codec -/

theorem exists_writeValue? (hplain : v.IsPlain) (hfits : v.Fits) :
    ∃ text, writeValue? v = some text := by
  cases hplain with
  | string s => exact ⟨_, rfl⟩
  | boolean b => exact ⟨_, rfl⟩
  | nat n =>
    have hfit : 0 ≤ (n : Int) ∧ (n : Int) < integerLimit := ⟨Int.natCast_nonneg n, hfits n rfl⟩
    exact ⟨writeNat n, by rw [writeValue?, if_pos hfit, Int.toNat_natCast]⟩
  | strings ss => exact ⟨writeStrings ss, by rw [valueOfStrings, writeValue?, allStrings?_map]; rfl⟩

theorem readsAs_of_writeValue? (hplain : v.IsPlain) (h : writeValue? v = some text) :
    ReadsAs text v := by
  cases hplain with
  | string s => exact Option.some.inj h ▸ .string s
  | boolean b => exact Option.some.inj h ▸ .boolean b
  | nat n =>
    rw [writeValue?] at h
    split at h
    · next hfits =>
      obtain rfl := Option.some.inj h
      exact .nat (by exact_mod_cast hfits.2)
    · cases h
  | strings ss =>
    rw [valueOfStrings, writeValue?, allStrings?_map] at h
    exact Option.some.inj h ▸ .strings ss

theorem exists_writeEntries? (hbare : ∀ field ∈ fields, IsBare field.1)
    (hplain : ∀ field ∈ fields, field.2.IsPlain) (hfits : ∀ field ∈ fields, field.2.Fits) :
    ∃ text, writeEntries? fields = some text := by
  induction fields with
  | nil => exact ⟨[], rfl⟩
  | cons field fields ih =>
    obtain ⟨hkey, hbare⟩ := List.forall_mem_cons.1 hbare
    obtain ⟨hvalue, hplain⟩ := List.forall_mem_cons.1 hplain
    obtain ⟨hfit, hfits⟩ := List.forall_mem_cons.1 hfits
    obtain ⟨text, htext⟩ := exists_writeValue? hvalue hfit
    obtain ⟨more, hmore⟩ := ih hbare hplain hfits
    rw [writeEntries?, if_pos hkey, htext, hmore]
    exact ⟨_, rfl⟩

theorem exists_writeTables? (gap : List Char) {tables : List PlainTable}
    (hfits : ∀ t ∈ tables, t.Fits) :
    ∃ text, writeTables? gap (tables.map PlainTable.field) = some text := by
  induction tables generalizing gap with
  | nil => exact ⟨[], rfl⟩
  | cons t tables ih =>
    obtain ⟨hfit, hfits⟩ := List.forall_mem_cons.1 hfits
    obtain ⟨text, htext⟩ := exists_writeEntries? t.areBare t.arePlain hfit
    obtain ⟨more, hmore⟩ := ih ['\n'] hfits
    rw [List.map_cons, PlainTable.field, writeTables?, writeTable?, if_pos t.isBare, htext, hmore]
    exact ⟨_, rfl⟩

/-- The entries of a table are pieces. -/
theorem pieces_of_writeEntries? (hbare : ∀ field ∈ fields, IsBare field.1)
    (hplain : ∀ field ∈ fields, field.2.IsPlain) (h : writeEntries? fields = some text) :
    ∃ pieces : List Piece, text = pieces.flatMap Piece.text ∧
      pieces.map Piece.line = fields.map fun field ↦ .entry (entryOf field) := by
  induction fields generalizing text with
  | nil => exact ⟨[], (Option.some.inj h).symm, rfl⟩
  | cons field fields ih =>
    obtain ⟨hkey, hbare⟩ := List.forall_mem_cons.1 hbare
    obtain ⟨hvalue, hplain⟩ := List.forall_mem_cons.1 hplain
    rw [writeEntries?, if_pos hkey] at h
    obtain ⟨first, hfirst, h⟩ := Option.bind_eq_some_iff.1 h
    obtain ⟨more, hmore, h⟩ := Option.bind_eq_some_iff.1 h
    obtain ⟨pieces, rfl, hlines⟩ := ih hbare hplain hmore
    let piece : Piece :=
      ⟨_, _, isLine_writeEntry hkey (readsAs_of_writeValue? hvalue hfirst)⟩
    refine ⟨piece :: pieces, (Option.some.inj h).symm, ?_⟩
    rw [List.map_cons, List.map_cons, hlines]
    rfl

/-- **What is written for tables are pieces that say their lines.** -/
theorem pieces_of_writeTables? (hgap : ∀ cs, skipLines (gap ++ cs) = skipLines cs)
    {tables : List PlainTable} (h : writeTables? gap (tables.map PlainTable.field) = some text) :
    ∃ pieces : List Piece, text = pieces.flatMap Piece.text ∧
      pieces.map Piece.line = tables.flatMap PlainTable.lines := by
  induction tables generalizing gap text with
  | nil => exact ⟨[], (Option.some.inj h).symm, rfl⟩
  | cons t tables ih =>
    rw [List.map_cons, PlainTable.field, writeTables?, writeTable?, if_pos t.isBare] at h
    obtain ⟨first, hfirst, h⟩ := Option.bind_eq_some_iff.1 h
    obtain ⟨more, hmore, h⟩ := Option.bind_eq_some_iff.1 h
    obtain ⟨entries, hentries, rfl⟩ := Option.map_eq_some_iff.1 hfirst
    obtain ⟨pieces, rfl, hlines⟩ := pieces_of_writeEntries? t.areBare t.arePlain hentries
    obtain ⟨others, rfl, hothers⟩ := ih skipLines_newline hmore
    let header : Piece := ⟨_, _, isLine_writeHeader hgap t.isBare⟩
    refine ⟨header :: pieces ++ others, ?_, ?_⟩
    · rw [← Option.some.inj h]
      simp [header]
    · rw [List.map_append, List.map_cons, hlines, hothers]
      rfl

/-- **The plain codec conforms.** -/
theorem Codec.plain_conforms : plain.Conforms where
  writes tables _ hfits := by
    obtain ⟨text, htext⟩ := exists_writeTables? [] hfits
    exact ⟨String.ofList text, congrArg (Option.map String.ofList) htext⟩
  valid tables text _ h := by
    obtain ⟨cs, hcs, rfl⟩ := Option.map_eq_some_iff.1 h
    obtain ⟨pieces, rfl, hlines⟩ := pieces_of_writeTables? (fun _ ↦ rfl) hcs
    exact ⟨pieces, rfl, hlines⟩
  reads _ _ h := h

end TokenScan.Toml

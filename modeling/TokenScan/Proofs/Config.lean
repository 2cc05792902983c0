import TokenScan.Config
import TokenScan.Proofs.File.Tree
import TokenScan.Proofs.Toml.Codec
/-!
# A configuration comes back from its file

A configuration that is saved and loaded again is what it was, and of one whose file has lost some
of its keys, the lost ones have their defaults (`loadFrom_saveTo`). This holds for any codec that
conforms (`Toml.Codec.Conforms`), however it writes a string or a list.

Which keys a file still has is a value of its own (`KeptKeys`): a table that has lost all its keys
may have lost its header, too. The text of a file consists of pieces that say one line each, and
what is left of it are the pieces whose lines are kept. Their lines are those of tables
(`filter_lines`), so `Toml.table?_pieces` says what the text makes. What remains is to look up three
keys in a table that may lack any of them, and to see that a missing table and a missing key have
the same default.

Saving is described once for all that comes of it: it holds the text where its path leads and has
changed no other file (`saveTo_eq_ok`), or it has changed no file (`saveTo_eq_error`).
-/

namespace TokenScan

/-- Which keys of the table of symbols are kept. -/
structure SymbolKeys where
  /-- Whether the standard symbols are used. -/
  defaults : Bool
  /-- The digraphs. -/
  digraphs : Bool
  /-- The single symbols. -/
  singles : Bool
  deriving DecidableEq, Repr

/-- Which keys of the table of the output are kept. -/
structure OutputKeys where
  /-- The name of the format. -/
  format : Bool
  /-- Whether white space counts. -/
  raw : Bool
  /-- The number of jobs. -/
  jobs : Bool
  deriving DecidableEq, Repr

/-- Which keys of a configuration file are kept. Without its header a table has no keys. -/
structure KeptKeys where
  /-- The keys of the table of symbols, unless its header is lost. -/
  symbols : Option SymbolKeys
  /-- The keys of the table of the output, unless its header is lost. -/
  output : Option OutputKeys
  deriving DecidableEq, Repr

/-- Whether a key of the table of symbols is kept. -/
def SymbolKeys.keeps (keys : SymbolKeys) : String → Bool
  | "defaults" => keys.defaults
  | "digraphs" => keys.digraphs
  | "singles" => keys.singles
  | _ => true

/-- Whether a key of the table of the output is kept. -/
def OutputKeys.keeps (keys : OutputKeys) : String → Bool
  | "format" => keys.format
  | "raw" => keys.raw
  | "jobs" => keys.jobs
  | _ => true

namespace KeptKeys

/-- All keys. -/
def all : KeptKeys := ⟨some ⟨true, true, true⟩, some ⟨true, true, true⟩⟩

/-- The keys of the table of symbols. -/
def ofSymbols (kept : KeptKeys) : SymbolKeys := kept.symbols.getD ⟨false, false, false⟩

/-- The keys of the table of the output. -/
def ofOutput (kept : KeptKeys) : OutputKeys := kept.output.getD ⟨false, false, false⟩

/-- Whether a line is kept. No key is in both tables. -/
def keeps (kept : KeptKeys) : Toml.Line → Bool
  | .header ⟨_, ["symbols"]⟩ => kept.symbols.isSome
  | .header ⟨_, ["output"]⟩ => kept.output.isSome
  | .entry ([key], _) => kept.ofSymbols.keeps key && kept.ofOutput.keeps key
  | _ => true

end KeptKeys

namespace Config

open Toml (Value Fields Line Piece PlainTable Codec textOf)

variable {codec : Codec} {c : Config} {files saved : FileTree} {path : OsString} {processors : Nat}
  {kept : KeptKeys} {text : String}

/-! ### The tables of a configuration -/

/-- The table of the symbols. -/
def symbolsTable (s : SymbolSettings) : PlainTable where
  name := "symbols"
  fields := symbolFields s
  isBare := by decide
  areBare := by simp [symbolFields]; decide
  distinct := (by decide : ["defaults", "digraphs", "singles"].Nodup)
  arePlain := by
    simp only [symbolFields, List.forall_mem_cons]
    exact ⟨.boolean _, .strings _, .strings _, nofun⟩

/-- The table of the output. -/
def outputTable (s : OutputSettings) : PlainTable where
  name := "output"
  fields := outputFields s
  isBare := by decide
  areBare := by simp [outputFields]; decide
  distinct := (by decide : ["format", "raw", "jobs"].Nodup)
  arePlain := by
    simp only [outputFields, List.forall_mem_cons]
    exact ⟨.string _, .boolean _, .nat _, nofun⟩

/-- The tables of a configuration. -/
def tables (c : Config) : List PlainTable := [symbolsTable c.symbols, outputTable c.output]

/-- The tables have different names. -/
theorem nodup_tables (c : Config) : (c.tables.map PlainTable.name).Nodup :=
  (by decide : ["symbols", "output"].Nodup)

theorem fits_tables (h : c.output.jobs < Toml.integerLimit) : ∀ t ∈ c.tables, t.Fits := by
  simp only [tables, PlainTable.Fits, symbolsTable, symbolFields, outputTable, outputFields,
    List.forall_mem_cons]
  refine ⟨⟨nofun, nofun, nofun, nofun⟩, ⟨nofun, nofun, ?_, nofun⟩, nofun⟩
  rintro _ ⟨⟩
  exact_mod_cast h

/-- The lines of a configuration file. -/
def lines (c : Config) : List Line := c.tables.flatMap PlainTable.lines

/-! ### What is left of a file -/

/-- What is left of a configuration, with the defaults of another one. -/
def keep (c : Config) (kept : KeptKeys) (standard : Config) : Config where
  symbols := {
    defaults := if kept.ofSymbols.defaults then c.symbols.defaults else standard.symbols.defaults
    digraphs := if kept.ofSymbols.digraphs then c.symbols.digraphs else standard.symbols.digraphs
    singles := if kept.ofSymbols.singles then c.symbols.singles else standard.symbols.singles }
  output := {
    format := if kept.ofOutput.format then c.output.format else standard.output.format
    raw := if kept.ofOutput.raw then c.output.raw else standard.output.raw
    jobs := if kept.ofOutput.jobs then c.output.jobs else standard.output.jobs }

theorem keep_all (c standard : Config) : c.keep .all standard = c := rfl

/-- What is left of the tables. -/
def keptTables (c : Config) (kept : KeptKeys) : List PlainTable :=
  (if kept.symbols.isSome then [(symbolsTable c.symbols).keep kept.ofSymbols.keeps] else []) ++
    (if kept.output.isSome then [(outputTable c.output).keep kept.ofOutput.keeps] else [])

theorem nodup_keptTables (c : Config) (kept : KeptKeys) :
    ((c.keptTables kept).map PlainTable.name).Nodup := by
  refine c.nodup_tables.sublist ?_
  obtain ⟨_ | symbols, _ | output⟩ := kept <;>
    simp [keptTables, tables, PlainTable.keep]

/-- **The lines that are left are those of what is left of the tables.** -/
theorem filter_lines (c : Config) (kept : KeptKeys) :
    c.lines.filter kept.keeps = (c.keptTables kept).flatMap PlainTable.lines := by
  have hsymbols : ∀ field ∈ symbolFields c.symbols, kept.keeps (.entry (Toml.entryOf field)) =
      (kept.symbols.isSome && kept.ofSymbols.keeps field.1) := by
    obtain ⟨_ | symbols, output⟩ := kept <;>
      simp [symbolFields, KeptKeys.keeps, Toml.entryOf, KeptKeys.ofSymbols, SymbolKeys.keeps,
        OutputKeys.keeps]
  have houtput : ∀ field ∈ outputFields c.output, kept.keeps (.entry (Toml.entryOf field)) =
      (kept.output.isSome && kept.ofOutput.keeps field.1) := by
    obtain ⟨symbols, _ | output⟩ := kept <;>
      simp [outputFields, KeptKeys.keeps, Toml.entryOf, KeptKeys.ofOutput, SymbolKeys.keeps,
        OutputKeys.keeps]
  have hkept (t : PlainTable) (isKept : Bool) :
      (if isKept then [t] else []).flatMap PlainTable.lines = if isKept then t.lines else [] := by
    cases isKept <;> simp
  calc c.lines.filter kept.keeps
      = (symbolsTable c.symbols).lines.filter kept.keeps ++
          (outputTable c.output).lines.filter kept.keeps := by simp [lines, tables]
    _ = (if kept.symbols.isSome then ((symbolsTable c.symbols).keep kept.ofSymbols.keeps).lines
          else []) ++
        (if kept.output.isSome then ((outputTable c.output).keep kept.ofOutput.keeps).lines
          else []) :=
      congrArg₂ _ (PlainTable.filter_lines rfl hsymbols) (PlainTable.filter_lines rfl houtput)
    _ = _ := by rw [keptTables, List.flatMap_append, hkept, hkept]

/-! ### Reading what is left -/

section Defaults

variable {α : Type} {v : Value} {a default : α}

/-- A value that is kept is read, and another has its default. -/
theorem read?_ite (read? : Option Value → Option α) (hnone : read? none = some default)
    (hsome : read? (some v) = some a) (isKept : Bool) :
    read? (if isKept then some v else none) = some (if isKept then a else default) := by
  cases isKept with
  | false => exact hnone
  | true => exact hsome

end Defaults

theorem strings?_valueOfStrings (ss : List String) :
    strings? (some (Toml.valueOfStrings ss)) = some ss :=
  Toml.allStrings?_map ss

theorem symbolsOf?_keep (s : SymbolSettings) (keys : SymbolKeys) :
    symbolsOf? (some ((symbolsTable s).keep keys.keeps).field.2) = some {
      defaults := if keys.defaults then s.defaults else true
      digraphs := if keys.digraphs then s.digraphs else []
      singles := if keys.singles then s.singles else [] } := by
  let fields : Fields := (symbolFields s).filter fun field ↦ keys.keeps field.1
  have hfind := Toml.find?_filter (symbolFields s) keys.keeps
  have hdefaults : boolean? true (fields.find? "defaults") =
      some (if keys.defaults then s.defaults else true) :=
    (congrArg _ (hfind "defaults")).trans (read?_ite (boolean? true) rfl rfl _)
  have hdigraphs : strings? (fields.find? "digraphs") =
      some (if keys.digraphs then s.digraphs else []) :=
    (congrArg _ (hfind "digraphs")).trans
      (read?_ite strings? rfl (strings?_valueOfStrings s.digraphs) _)
  have hsingles : strings? (fields.find? "singles") =
      some (if keys.singles then s.singles else []) :=
    (congrArg _ (hfind "singles")).trans
      (read?_ite strings? rfl (strings?_valueOfStrings s.singles) _)
  show symbolsOf? (some (.table .header fields)) = _
  simp only [symbolsOf?, lookup?, Option.bind_eq_bind, Option.bind_some, hdefaults, hdigraphs,
    hsingles]
  rfl

theorem outputOf?_keep (s : OutputSettings) (keys : OutputKeys) :
    outputOf? processors (some ((outputTable s).keep keys.keeps).field.2) = some {
      format := if keys.format then s.format else "text"
      raw := if keys.raw then s.raw else false
      jobs := if keys.jobs then s.jobs else processors } := by
  let fields : Fields := (outputFields s).filter fun field ↦ keys.keeps field.1
  have hfind := Toml.find?_filter (outputFields s) keys.keeps
  have hformat : string? "text" (fields.find? "format") =
      some (if keys.format then s.format else "text") :=
    (congrArg _ (hfind "format")).trans (read?_ite (string? "text") rfl rfl _)
  have hraw : boolean? false (fields.find? "raw") = some (if keys.raw then s.raw else false) :=
    (congrArg _ (hfind "raw")).trans (read?_ite (boolean? false) rfl rfl _)
  have hjobs : nat? processors (fields.find? "jobs") =
      some (if keys.jobs then s.jobs else processors) :=
    (congrArg _ (hfind "jobs")).trans (read?_ite (nat? processors) rfl rfl _)
  show outputOf? processors (some (.table .header fields)) = _
  simp only [outputOf?, lookup?, Option.bind_eq_bind, Option.bind_some, hformat, hraw, hjobs]
  rfl

theorem ofTable?_keptTables (c : Config) (kept : KeptKeys) :
    ofTable? processors ((c.keptTables kept).map PlainTable.field) =
      some (c.keep kept (.standard processors)) := by
  let fields : Fields := (c.keptTables kept).map PlainTable.field
  have hsymbols : symbolsOf? (fields.find? "symbols") =
      some (c.keep kept (.standard processors)).symbols := by
    obtain ⟨_ | symbols, _ | output⟩ := kept
    · rfl
    · rfl
    · exact symbolsOf?_keep c.symbols symbols
    · exact symbolsOf?_keep c.symbols symbols
  have houtput : outputOf? processors (fields.find? "output") =
      some (c.keep kept (.standard processors)).output := by
    obtain ⟨_ | symbols, _ | output⟩ := kept
    · rfl
    · exact outputOf?_keep c.output output
    · rfl
    · exact outputOf?_keep c.output output
  rw [ofTable?, hsymbols, houtput]
  rfl

/-- **Keys that are left are read as they were, and the others have their defaults.** -/
theorem parse?_filter (hcodec : codec.Conforms) {pieces : List Piece}
    (hlines : pieces.map Piece.line = c.lines) (kept : KeptKeys) :
    parse? codec (textOf (pieces.filter fun piece ↦ kept.keeps piece.line)) processors =
      some (c.keep kept (.standard processors)) := by
  have hkept : (pieces.filter fun piece ↦ kept.keeps piece.line).map Piece.line =
      (c.keptTables kept).flatMap PlainTable.lines := by
    rw [← filter_lines, ← hlines, List.filter_map]
    rfl
  have htable := Toml.table?_pieces hkept (c.nodup_keptTables kept)
  rw [parse?, hcodec.reads _ _ htable, Option.bind_some, ofTable?_keptTables]

/-- **A configuration that has been written is read as it was.** -/
theorem parse?_of_write? (hcodec : codec.Conforms) (h : codec.write? c.fields = some text) :
    parse? codec text processors = some c := by
  obtain ⟨pieces, rfl, hlines⟩ := hcodec.valid c.tables text c.nodup_tables h
  have hread := hcodec.reads _ _ (Toml.table?_pieces hlines c.nodup_tables)
  rw [parse?, hread, Option.bind_some]
  exact (ofTable?_keptTables c .all).trans (congrArg some (keep_all c _))

/-! ### Files -/

theorem loadFrom_of_locate (hfile : files.locate path = .ok (.file text.toUTF8))
    (hparse : parse? codec text processors = some c) :
    loadFrom codec files path processors = (.ok c, [.loadedConfiguration path]) := by
  have hexists : files.pathExists path = true := by
    rw [FileTree.pathExists, hfile]
    rfl
  have htext : files.readText path = .ok text := by
    have hdecode : String.fromUTF8? text.toUTF8 = some text := dif_pos text.isValidUTF8
    rw [FileTree.readText, hfile]
    simp only [hdecode]
  rw [loadFrom, if_pos hexists, htext]
  simp only [hparse]

/-- What has been saved stands where its path leads, and no other file is changed. -/
theorem saveTo_eq_ok (h : saveTo codec files c path = (.ok (), saved)) :
    ∃ place text, codec.write? c.fields = some text ∧ saved.HoldsAt path place text.toUTF8 ∧
      files.Extends saved ∧ ∀ q, q ≠ place → ∀ data,
        saved.lookup? q = some (.file data) ↔ files.lookup? q = some (.file data) := by
  rw [saveTo] at h
  split at h
  · cases h
  · next made hmade =>
    have hdirs := FileTree.extends_makeDirectories files (Path.ancestors path)
    rw [hmade] at hdirs
    split at h
    · cases h
    · next text htext =>
      split at h
      · cases h
      · next written hwrite =>
        obtain rfl : written = saved := (Prod.mk.inj h).2
        obtain ⟨place, hholds, hext, hothers⟩ := FileTree.writeFile_eq_ok hwrite
        refine ⟨place, text, htext, hholds, hdirs.1.trans hext, fun q hq data ↦ ?_⟩
        rw [hothers q hq]
        exact hdirs.2 q data

/-- A configuration that could not be saved has changed no file. -/
theorem saveTo_eq_error {failure : Failure}
    (h : saveTo codec files c path = (.error failure, saved)) :
    files.Extends saved ∧ files.SameFiles saved := by
  have hdirs := FileTree.extends_makeDirectories files (Path.ancestors path)
  rw [saveTo] at h
  split at h
  · next hmade =>
    rw [hmade] at hdirs
    obtain ⟨-, rfl⟩ := Prod.mk.inj h
    exact hdirs
  · next hmade =>
    rw [hmade] at hdirs
    split at h
    · obtain ⟨-, rfl⟩ := Prod.mk.inj h
      exact hdirs
    · split at h
      · obtain ⟨-, rfl⟩ := Prod.mk.inj h
        exact hdirs
      · cases h

/-- A configuration that can be written is saved wherever a file can be written. -/
theorem saveTo_of_writable (htext : codec.write? c.fields = some text) (h : files.Writable path) :
    ∃ saved, saveTo codec files c path = (.ok (), saved) := by
  obtain ⟨u, v, hmade, hwrite⟩ := h
  obtain ⟨saved, hsaved⟩ := FileTree.writeFile_of_ok hwrite text.toUTF8
  refine ⟨saved, ?_⟩
  rw [saveTo, hmade]
  simp only [htext, hsaved]

/-- **A configuration comes back from its file**, whatever codec is used, if it writes TOML and
reads it. Saved to a path where a file can be written, it is loaded from there as it was. The file
consists of pieces that say one line each. If it has lost the pieces of some of its keys, and with
all the keys of a table perhaps that of the header, then what is loaded differs in these keys only,
which have their defaults. The same defaults hold where there is no file at all. -/
theorem loadFrom_saveTo (hcodec : codec.Conforms) (c : Config) (processors : Nat)
    (hjobs : c.output.jobs < Toml.integerLimit) :
    (∀ (files : FileTree) (path : OsString), files.Writable path →
      ∃ saved pieces, saveTo codec files c path = (.ok (), saved) ∧
        saved.locate path = .ok (.file (textOf pieces).toUTF8) ∧
        pieces.map Piece.line = c.lines ∧
        (loadFrom codec saved path processors).1 = .ok c) ∧
    (∀ (pieces : List Piece) (kept : KeptKeys) (files : FileTree) (path : OsString),
      pieces.map Piece.line = c.lines →
      files.locate path =
        .ok (.file (textOf (pieces.filter fun piece ↦ kept.keeps piece.line)).toUTF8) →
      (loadFrom codec files path processors).1 = .ok (c.keep kept (.standard processors))) ∧
    (∀ (files : FileTree) (places : Places),
      (∀ path ∈ places.candidates, files.pathExists path = false) →
        (load codec files places processors).1 = .ok (.standard processors)) := by
  refine ⟨fun files path hwritable ↦ ?_, fun pieces kept files path hlines hfile ↦ ?_,
    fun files places hnone ↦ ?_⟩
  · obtain ⟨text, htext⟩ := hcodec.writes c.tables c.nodup_tables (fits_tables hjobs)
    obtain ⟨pieces, rfl, hlines⟩ := hcodec.valid c.tables text c.nodup_tables htext
    obtain ⟨saved, hsaved⟩ := saveTo_of_writable htext hwritable
    obtain ⟨place, _, htext', hholds, -⟩ := saveTo_eq_ok hsaved
    obtain rfl := Option.some.inj (htext'.symm.trans htext)
    refine ⟨saved, pieces, hsaved, hholds.locate, hlines, ?_⟩
    rw [loadFrom_of_locate hholds.locate (parse?_of_write? hcodec htext)]
  · rw [loadFrom_of_locate hfile (parse?_filter hcodec hlines kept)]
  · have hfind : places.candidates.find? files.pathExists = none :=
      List.find?_eq_none.2 fun path hpath ↦ Bool.eq_false_iff.1 (hnone path hpath)
    rw [load, hfind]

/-- A configuration with awkward strings comes back from a directory made for it; without its second
table, from another file; and without any file, the default holds. -/
theorem loadFrom_saveTo_of_awkward :
    let c : Config := {
      symbols := { defaults := false, digraphs := ["\"\\", "'\n", "\x01'"], singles := ["\"\"\""] }
      output := { format := "''\"", jobs := 3 } }
    let kept : KeptKeys := ⟨some ⟨true, false, true⟩, none⟩
    let path : OsString := .ofString "a/tokt.toml"
    let other : OsString := .ofString "t"
    (∃ saved pieces, saveTo .plain {} c path = (.ok (), saved) ∧
        saved.locate path = .ok (.file (textOf pieces).toUTF8) ∧
        (loadFrom .plain saved path 8).1 = .ok c ∧
        let left := textOf (pieces.filter fun piece ↦ kept.keeps piece.line)
        (loadFrom .plain { entries := [([other], .file left.toUTF8)] } other 8).1 = .ok {
          symbols := { defaults := false, singles := ["\"\"\""] }, output := .standard 8 }) ∧
      (load .plain {} {} 8).1 = .ok (.standard 8) := by
  intro c kept path other
  obtain ⟨hsaved, hkept, hnone⟩ := loadFrom_saveTo Codec.plain_conforms c 8 (by decide)
  obtain ⟨saved, pieces, hsave, hfile, hlines, hload⟩ := hsaved {} path ⟨_, _, rfl, rfl⟩
  exact ⟨⟨saved, pieces, hsave, hfile, hload, hkept pieces kept _ other hlines rfl⟩,
    hnone {} {} (by decide)⟩

end Config

end TokenScan

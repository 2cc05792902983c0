import TokenScan.File.Tree
import TokenScan.Event
import TokenScan.Failure
import TokenScan.Toml.Codec
/-!
# Configuration

A configuration says which symbols a scan starts from and how its result is put out. It is kept in
a file, as TOML, in two tables; a key or a table that is missing has its default, and a key that is
not known says nothing.

`ofTable?` is what a table says, and `fields` is the table of a configuration. Turning tables into
texts and texts into tables is left to a codec (`Toml.Codec`), which may fail at either: TOML has no
number for more jobs than fit 64 bits with a sign.

A table can also be given as an array of its values in their order, as much of it as there is, and a
moment in the place of a table has no keys.

As many files are scanned at a time as the machine has processors, unless the configuration says
otherwise. Reading a configuration is therefore given the number of processors. A default is named
in two places: a missing table is the whole of `SymbolSettings` or `OutputSettings.standard`, and a
missing key of a table that is there has a default of its own (`symbolsOf?`, `outputOf?`).

## Where it is found

`load` looks in the current directory, in the home directory and in the directory of the system, in
this order, and takes the first file that exists; without one everything has its default.
-/

namespace TokenScan

/-- Which symbols a scan starts from. -/
structure SymbolSettings where
  /-- Whether the standard symbols are among them. -/
  defaults : Bool := true
  /-- Further digraphs. -/
  digraphs : List String := []
  /-- Further single symbols. -/
  singles : List String := []
  deriving DecidableEq, Repr

/-- How the result of a scan is put out. -/
structure OutputSettings where
  /-- The name of the format. -/
  format : String := "text"
  /-- Whether white space counts as tokens. -/
  raw : Bool := false
  /-- How many files are scanned at a time. -/
  jobs : Nat := 1
  deriving DecidableEq, Repr

/-- The output on a machine with some processors, unless it is configured. -/
def OutputSettings.standard (processors : Nat) : OutputSettings where
  format := "text"
  raw := false
  jobs := processors

/-- A configuration. -/
structure Config where
  /-- The symbols. -/
  symbols : SymbolSettings := {}
  /-- The output. -/
  output : OutputSettings := {}
  deriving DecidableEq, Repr

namespace Config

/-- The configuration that holds on a machine with some processors, unless there is another. -/
def standard (processors : Nat) : Config := { output := .standard processors }

open Toml (Value Fields)

/-! ### Reading -/

/-- A truth value, or the default if there is no value. -/
def boolean? (default : Bool) : Option Value → Option Bool
  | none => some default
  | some (.boolean b) => some b
  | some _ => none

/-- A string, or the default if there is no value. -/
def string? (default : String) : Option Value → Option String
  | none => some default
  | some (.string s) => some s
  | some _ => none

/-- A number that is not negative, or the default if there is no value. -/
def nat? (default : Nat) : Option Value → Option Nat
  | none => some default
  | some (.integer n) => if n < 0 then none else some n.toNat
  | some _ => none

/-- A list of strings, or the empty one if there is no value. -/
def strings? : Option Value → Option (List String)
  | none => some []
  | some (.array items) => Toml.allStrings? items
  | some (.tables items) => Toml.allStrings? items
  | some _ => none

/-- How the values of a table are found, by key and place; `none` for what is no table. -/
def lookup? : Value → Option (String → Nat → Option Value)
  | .table _ fields => some fun key _ ↦ Fields.find? fields key
  | .array items => some fun _ i ↦ items[i]?
  | .tables rows => some fun _ i ↦ rows[i]?
  | .moment => some fun _ _ ↦ none
  | _ => none

/-- The symbols that a table says, or the default if there is no table. -/
def symbolsOf? : Option Value → Option SymbolSettings
  | none => some {}
  | some value => do
    let find ← lookup? value
    let defaults ← boolean? true (find "defaults" 0)
    let digraphs ← strings? (find "digraphs" 1)
    let singles ← strings? (find "singles" 2)
    return { defaults, digraphs, singles }

/-- The output that a table says, or the default if there is no table. -/
def outputOf? (processors : Nat) : Option Value → Option OutputSettings
  | none => some (.standard processors)
  | some value => do
    let find ← lookup? value
    let format ← string? "text" (find "format" 0)
    let raw ← boolean? false (find "raw" 1)
    let jobs ← nat? processors (find "jobs" 2)
    return { format, raw, jobs }

/-- The configuration that a table says. -/
def ofTable? (processors : Nat) (fields : Fields) : Option Config := do
  let symbols ← symbolsOf? (fields.find? "symbols")
  let output ← outputOf? processors (fields.find? "output")
  return { symbols, output }

/-- The configuration that a text says. -/
def parse? (codec : Toml.Codec) (text : String) (processors : Nat := 1) : Option Config :=
  (codec.read? text).bind (ofTable? processors)

/-! ### Writing -/

/-- The table of the symbols. -/
def symbolFields (s : SymbolSettings) : Fields :=
  [("defaults", .boolean s.defaults), ("digraphs", Toml.valueOfStrings s.digraphs),
    ("singles", Toml.valueOfStrings s.singles)]

/-- The table of the output. -/
def outputFields (s : OutputSettings) : Fields :=
  [("format", .string s.format), ("raw", .boolean s.raw), ("jobs", .integer s.jobs)]

/-- The table of a configuration. -/
def fields (c : Config) : Fields :=
  [("symbols", .table .header (symbolFields c.symbols)),
    ("output", .table .header (outputFields c.output))]

/-! ### Files -/

/-- The name of a configuration file. -/
def fileName : OsString := .ofString "tokt.toml"

/-- Reads a configuration from a file. -/
def loadFrom (codec : Toml.Codec) (files : FileTree) (path : OsString) (processors : Nat := 1) :
    Except Failure Config × List Event :=
  if files.pathExists path then
    match files.readText path with
    | .error error => (.error (.io error), [])
    | .ok text =>
      match parse? codec text processors with
      | some config => (.ok config, [.loadedConfiguration path])
      | none => (.error .configurationNotRead, [])
  else (.error (.configurationNotFound path), [])

/-- Where configurations of a user and of a system are kept. -/
structure Places where
  /-- The home directory, if there is one. -/
  home : Option OsString := none
  /-- The directory for configurations, if there is one. -/
  system : Option OsString := none

/-- The files that may hold a configuration, first choice first. -/
def Places.candidates (p : Places) : List OsString :=
  [fileName] ++
    (p.home.map fun dir ↦
      Path.join (Path.join (Path.join dir (.ofString ".config")) (.ofString "tokt"))
        fileName).toList ++
    (p.system.map fun dir ↦ Path.join (Path.join dir (.ofString "tokt")) fileName).toList

/-- Reads the configuration from the first file that exists. -/
def load (codec : Toml.Codec) (files : FileTree) (places : Places) (processors : Nat := 1) :
    Except Failure Config × List Event :=
  match places.candidates.find? files.pathExists with
  | some path => loadFrom codec files path processors
  | none => (.ok (.standard processors), [])

/-- Writes a configuration to a file, in a directory that is made if it is missing. -/
def saveTo (codec : Toml.Codec) (files : FileTree) (config : Config) (path : OsString) :
    Except Failure Unit × FileTree :=
  match files.makeDirectories (Path.ancestors path) with
  | (.error error, files) => (.error (.io error), files)
  | (.ok (), files) =>
    match codec.write? config.fields with
    | none => (.error .configurationNotWritten, files)
    | some text =>
      match files.writeFile path text.toUTF8 with
      | .error error => (.error (.io error), files)
      | .ok written => (.ok (), written)

end Config

end TokenScan

import TokenScan.Failure
import TokenScan.Report.Format
import TokenScan.Report.Token
import TokenScan.Session.Call
/-!
# Scanning files

A file is opened, scanned to the end and let go of. What comes of it is a `FileScan`: the tokens, the
number of lines, and the failure if there was one. Tokens that come before a construct which is left
open are kept; a file that cannot be opened has no tokens and no lines.

A scan is put out as text, with a heading and a line for each token, or as one JSON document. A file
that failed before its first token has no document.
-/

namespace TokenScan

/-- What came of scanning a file. -/
structure FileScan where
  /-- The path of the file. -/
  path : OsString
  /-- The tokens. -/
  tokens : List Token := []
  /-- The line on which the scan ended. -/
  lines : UInt32 := 0
  /-- Why the scan failed, if it did. -/
  failure : Option Failure := none
  deriving DecidableEq, Repr

namespace FileScan

/-- Scans what a path names, or keeps why it cannot be opened. -/
def ofOpened (path : OsString) (symbols : SymbolTable) (raw : Bool) :
    Except OpenError Source → FileScan × List Event
  | .error error => ({ path, failure := some (.opening error) }, [])
  | .ok source =>
    let session := (Session.withSymbols symbols).bind source
    let scan := session.scan raw
    let result : FileScan :=
      { path
        tokens := scan.tokens
        lines := scan.session.line
        failure := scan.error.map .scanning }
    (result,
      [.openedFile path, .bound session.pending] ++ Session.extractions scan.extracted ++
        [.closed scan.session.line, .scannedFile path result.tokens.length result.lines])

/-- Scans a file. -/
def ofFile (files : FileTree) (symbols : SymbolTable) (raw : Bool) (path : OsString) :
    FileScan × List Event :=
  ofOpened path symbols raw (files.openSource path)

section Open

variable {files : FileTree} {path : OsString}

/-- What comes of a file that cannot be opened. -/
theorem ofFile_of_error {error : OpenError} (h : files.openSource path = .error error)
    (symbols : SymbolTable) (raw : Bool) :
    (ofFile files symbols raw path).1 = { path, failure := some (.opening error) } := by
  rw [ofFile, h]
  rfl

/-- What comes of a file that opens. -/
theorem ofFile_of_ok {source : Source} (h : files.openSource path = .ok source)
    (symbols : SymbolTable) (raw : Bool) :
    (ofFile files symbols raw path).1 = (ofOpened path symbols raw (.ok source)).1 := by
  rw [ofFile, h]

end Open

/-! ### Output -/

/-- A scan as text. -/
def text (s : FileScan) : List Char :=
  "  processing file: ".toList ++ s.path.display.toList ++ ['\n'] ++
    s.tokens.flatMap fun token ↦ token.textLine ++ ['\n']

/-- A scan as JSON. -/
def record (s : FileScan) : Json :=
  .object
    [("file", .string s.path.display), ("lines", .number s.lines.toNat),
      ("tokens", .array (s.tokens.map Token.record))]

/-- Whether a scan has nothing to show but its failure. -/
def isBarren (s : FileScan) : Bool := s.failure.isSome && s.tokens.isEmpty

/-- The JSON document of a scan, if it has one. -/
def document (s : FileScan) : List Char :=
  if s.isBarren then [] else s.record.pretty ++ ['\n']

/-- A scan in some format. -/
def render (format : OutputFormat) (s : FileScan) : String :=
  match format with
  | .text => String.ofList s.text
  | .json => String.ofList s.document

/-- The report of a scan that failed. -/
def report (s : FileScan) : Option String :=
  s.failure.map fun failure ↦ "tokt: " ++ s.path.display ++ ": " ++ failure.message ++ "\n"

end FileScan

end TokenScan

import TokenScan.Source.Open
import TokenScan.Token
/-!
# Failures of a run

A run of the program fails for one of seven causes. `message` is what a user is told; `quoted` names
the cause and its parts, and is the last line of a run that fails.
-/

namespace TokenScan

/-- Why a run fails. -/
inductive Failure where
  /-- The configuration cannot be used. -/
  | configuration (problem : String)
  /-- A request cannot be met. -/
  | validation (problem : String)
  /-- Some files could not be scanned. -/
  | execution (problem : String)
  /-- A source cannot be opened. -/
  | opening (error : OpenError)
  /-- A construct was left open. -/
  | scanning (error : Unterminated)
  /-- Reading or writing failed. -/
  | io (error : IoError)
  /-- JSON cannot be written. -/
  | json (problem : String)
  deriving DecidableEq, Repr

namespace Failure

/-- What a user is told. -/
def message : Failure → String
  | configuration problem => "Configuration error: " ++ problem
  | validation problem => "Validation error: " ++ problem
  | execution problem => "Command execution failed: " ++ problem
  | opening error => "Cannot open source: " ++ error.message
  | scanning error => "Scan failed: " ++ error.message
  | io error => "IO error: " ++ error.message
  | json problem => "JSON error: " ++ problem

/-- The name of the cause. -/
def cause : Failure → String
  | configuration _ => "Config"
  | validation _ => "Validation"
  | execution _ => "CommandExecution"
  | opening _ => "Open"
  | scanning _ => "Lex"
  | io _ => "Io"
  | json _ => "Json"

/-- What went wrong, with its parts named. -/
def detail : Failure → String
  | configuration problem | validation problem | execution problem => Text.quotedString problem
  | opening (.access path error) =>
    "Access \x7b path: " ++ path.quoted ++ ", source: " ++ error.quoted ++ " \x7d"
  | opening (.read error) => "Read(" ++ error.quoted ++ ")"
  | opening .encoding => "Encoding"
  | scanning error =>
    "UnterminatedConstruct \x7b construct: " ++ error.construct.label ++ ", line: " ++
      toString error.line.toNat ++ " \x7d"
  | io error => error.quoted
  | json problem => "Error(" ++ Text.quotedString problem ++ ", line: 0, column: 0)"

/-- The last line of a run that fails. -/
def quoted (f : Failure) : String := f.cause ++ "(" ++ f.detail ++ ")"

/-- No file was named. -/
def noInput : Failure := validation "No input files specified"

/-- A format is not known. -/
def unknownFormat (name : String) : Failure := validation ("Unknown format: " ++ name)

/-- Some files could not be scanned. -/
def filesFailed (n : Nat) : Failure :=
  execution (toString n ++ " file(s) failed to tokenize")

/-- The workers that scan files cannot be started. -/
def poolNotStarted (problem : String) : Failure :=
  execution ("Failed to start worker pool: " ++ problem)

/-- A configuration file does not exist. -/
def configurationNotFound (path : OsString) : Failure :=
  configuration ("Configuration file not found: " ++ path.display)

/-- A configuration file is not what it should be. -/
def configurationNotRead : Failure := configuration "Failed to parse configuration"

/-- A configuration cannot be written down. -/
def configurationNotWritten : Failure := configuration "Failed to serialize configuration"

/-- A configuration file is in the way. -/
def configurationExists (path : OsString) : Failure :=
  validation
    ("Configuration file already exists: " ++ path.display ++ " (use --force to overwrite)")

end Failure

end TokenScan

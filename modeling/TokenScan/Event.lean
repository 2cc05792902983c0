import TokenScan.Text.OsString
import TokenScan.Token
/-!
# Events

What happens in a run can be followed by its events. An event has a level, a message, and fields
that say in more detail what it is about. Events are values: nothing is printed here, and whoever
runs the program decides which levels are shown.
-/

namespace TokenScan

/-- How much an event matters. -/
inductive Level where
  /-- Every step of a scan. -/
  | trace
  /-- What the program does. -/
  | debug
  /-- What it has done. -/
  | info
  /-- What is likely to be a mistake. -/
  | warn
  deriving DecidableEq, Repr

namespace Level

/-- The name of a level. -/
def name : Level → String
  | trace => "TRACE"
  | debug => "DEBUG"
  | info => "INFO"
  | warn => "WARN"

/-- Where a level stands, the least one lowest. -/
def rank : Level → Nat
  | trace => 0
  | debug => 1
  | info => 2
  | warn => 3

end Level

/-- What can happen in a run. -/
inductive Event where
  /-- A file was opened. -/
  | openedFile (path : OsString)
  /-- A source was bound; its first token is of this kind. -/
  | bound (initial : Option TokenKind)
  /-- A token was extracted. -/
  | extracted (token : Token)
  /-- The source was let go of, on this line. -/
  | closed (line : UInt32)
  /-- A digraph is about to be registered. -/
  | registeringDigraph (pattern : String)
  /-- A single symbol is about to be registered. -/
  | registeringSingle (pattern : String)
  /-- A digraph does not have two characters. -/
  | unmatchableDigraph (pattern : String)
  /-- A single symbol does not have one character. -/
  | unmatchableSingle (pattern : String)
  /-- A configuration was read. -/
  | loadedConfiguration (path : OsString)
  /-- A configuration was written. -/
  | wroteConfiguration (path : OsString)
  /-- Scanning starts, with this many workers. -/
  | startingWorkers (jobs : Nat)
  /-- A file was scanned. -/
  | scannedFile (path : OsString) (tokens : Nat) (line : UInt32)
  /-- All files were scanned. -/
  | tokenized (files failed : Nat)
  deriving DecidableEq, Repr

namespace Event

/-- The level of an event. -/
def level : Event → Level
  | extracted _ => .trace
  | unmatchableDigraph _ | unmatchableSingle _ => .warn
  | wroteConfiguration _ | tokenized _ _ => .info
  | _ => .debug

/-- The message of an event. -/
def message : Event → String
  | openedFile _ => "opened source file"
  | bound _ => "bound character source"
  | extracted _ => "extracted token"
  | closed _ => "closed source"
  | registeringDigraph _ => "registering digraph"
  | registeringSingle _ => "registering single symbol"
  | unmatchableDigraph _ => "digraph is not two characters and will never match"
  | unmatchableSingle _ => "single symbol is not one character and will never match"
  | loadedConfiguration _ => "loaded configuration"
  | wroteConfiguration _ => "wrote configuration"
  | startingWorkers _ => "starting worker pool"
  | scannedFile _ _ _ => "scanned file"
  | tokenized _ _ => "tokenized"

/-- A kind that there may be, as diagnostics show it. -/
def optionalKind : Option TokenKind → String
  | none => "None"
  | some kind => "Some(" ++ kind.label ++ ")"

/-- The fields of an event, in the order in which they are shown. -/
def fields : Event → List (String × String)
  | openedFile path => [("path", path.display)]
  | bound initial => [("initial", optionalKind initial)]
  | extracted token =>
    [("kind", token.kind.name), ("line", toString token.line.toNat),
      ("len", toString token.text.utf8ByteSize)]
  | closed line => [("lines", toString line.toNat)]
  | registeringDigraph pattern => [("pattern", pattern)]
  | registeringSingle pattern => [("pattern", pattern)]
  | unmatchableDigraph pattern => [("pattern", pattern)]
  | unmatchableSingle pattern => [("pattern", pattern)]
  | loadedConfiguration path => [("path", path.display)]
  | wroteConfiguration path => [("path", path.display)]
  | startingWorkers jobs => [("jobs", toString jobs)]
  | scannedFile path tokens line =>
    [("path", path.display), ("tokens", toString tokens), ("lines", toString line.toNat)]
  | tokenized files failed => [("files", toString files), ("failed", toString failed)]

/-- An event as one line: its level, its message and its fields. -/
def text (e : Event) : String :=
  e.level.name ++ " " ++ e.message ++
    String.join (e.fields.map fun field ↦ " " ++ field.1 ++ "=" ++ field.2)

end Event

end TokenScan

import TokenScan.Text.Quoted
/-!
# Failures of input and output

A failure is either one that the operating system reports by a number, or one that a reader makes
up itself from a kind and a text. Its `message` is what is shown to a user; its `quoted` form names
every part and closes a run that ends in an error.
-/

namespace TokenScan

/-- The failures of the operating system that reading and writing files can meet. -/
inductive OsFailure where
  /-- A name on the path, or the whole path, does not exist. -/
  | notFound
  /-- The name to be created is taken. -/
  | alreadyExists
  /-- A name on the path is not a directory. -/
  | notADirectory
  /-- The path names a directory where a file is wanted. -/
  | isADirectory
  /-- A name on the path is longer than a directory can hold. -/
  | nameTooLong
  deriving DecidableEq, Repr

namespace OsFailure

/-- The number of a failure. -/
def code : OsFailure → Nat
  | notFound => 2
  | alreadyExists => 17
  | notADirectory => 20
  | isADirectory => 21
  | nameTooLong => 36

/-- The system's words for a failure. -/
def text : OsFailure → String
  | notFound => "No such file or directory"
  | alreadyExists => "File exists"
  | notADirectory => "Not a directory"
  | isADirectory => "Is a directory"
  | nameTooLong => "File name too long"

/-- The name of the kind that a failure belongs to. -/
def kindName : OsFailure → String
  | notFound => "NotFound"
  | alreadyExists => "AlreadyExists"
  | notADirectory => "NotADirectory"
  | isADirectory => "IsADirectory"
  | nameTooLong => "InvalidFilename"

end OsFailure

/-- The kinds of failure that a reader can report by itself. -/
inductive FailureKind where
  /-- The bytes are not what they should be. -/
  | invalidData
  /-- The argument is not what it should be. -/
  | invalidInput
  /-- The read was interrupted and may be tried again. -/
  | interrupted
  /-- The input ended too early. -/
  | unexpectedEof
  /-- The reader was not let in. -/
  | permissionDenied
  /-- The reader waited too long. -/
  | timedOut
  /-- Anything else. -/
  | other
  deriving DecidableEq, Repr

namespace FailureKind

/-- The name of a kind. -/
def name : FailureKind → String
  | invalidData => "InvalidData"
  | invalidInput => "InvalidInput"
  | interrupted => "Interrupted"
  | unexpectedEof => "UnexpectedEof"
  | permissionDenied => "PermissionDenied"
  | timedOut => "TimedOut"
  | other => "Other"

/-- The kind of a name. -/
def ofName? (name : String) : Option FailureKind :=
  [invalidData, invalidInput, interrupted, unexpectedEof, permissionDenied, timedOut, other].find?
    fun kind ↦ kind.name == name

end FailureKind

/-- A failure of input or output. -/
inductive IoError where
  /-- The operating system refused. -/
  | os (failure : OsFailure)
  /-- The reader or the library refused, in its own words. -/
  | reported (kind : FailureKind) (text : String)
  deriving DecidableEq, Repr

namespace IoError

/-- What a user is told: the words, and the number if there is one. -/
def message : IoError → String
  | os failure => failure.text ++ " (os error " ++ toString failure.code ++ ")"
  | reported _ text => text

/-- The quoted form, which names every part. -/
def quoted : IoError → String
  | os failure =>
    "Os \x7b code: " ++ toString failure.code ++ ", kind: " ++ failure.kindName ++
      ", message: " ++ Text.quotedString failure.text ++ " \x7d"
  | reported kind text =>
    "Error \x7b kind: " ++ kind.name ++ ", message: " ++ Text.quotedString text ++ " \x7d"

/-- The failure of reading text from bytes that are not UTF-8. -/
def notUtf8 : IoError := reported .invalidData "stream did not contain valid UTF-8"

/-- The failure of naming a file with a character that no name may hold. -/
def nulInName : IoError :=
  reported .invalidInput "file name contained an unexpected NUL byte"

end IoError

end TokenScan

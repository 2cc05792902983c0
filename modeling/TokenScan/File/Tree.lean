import TokenScan.File.Path
import TokenScan.Source.Open
/-!
# File trees

A file tree says what stands at each place below a root: a directory, a file with its bytes, or
nothing. A place is the list of names that leads to it, and a name need not be a text. A tree also
knows the directory that relative paths start from. There are no links, so a place has one name
only.

Paths are followed a name at a time, as an operating system does it: each name but the last must
be that of a directory, and two dots lead back up. Files are read whole and written whole. Each
operation either succeeds or gives the failure that the system would report.

`lookup?_put` is the view of a change: writing at one place leaves every other place alone.
-/

namespace TokenScan

/-- A place in a file tree: the names that lead to it from the root. -/
abbrev Place := List OsString

/-- What can stand at a place. -/
inductive Entry where
  /-- A directory. -/
  | directory
  /-- A file with its bytes. -/
  | file (data : ByteArray)

namespace Entry

/-- Whether an entry is a directory. -/
def isDirectory : Entry → Bool
  | directory => true
  | file _ => false

end Entry

/-- Files and directories below a root. -/
structure FileTree where
  /-- What stands where, latest change first; the first mention of a place counts. -/
  entries : List (Place × Entry) := []
  /-- The directory that relative paths start from. -/
  current : Place := []

namespace FileTree

/-- What stands at a place. The root is a directory. -/
def lookup? (t : FileTree) (place : Place) : Option Entry :=
  if place = [] then some .directory else t.entries.lookup place

/-- Puts something at a place. -/
def put (t : FileTree) (place : Place) (entry : Entry) : FileTree :=
  { t with entries := (place, entry) :: t.entries }

theorem lookup?_put (t : FileTree) (place q : Place) (entry : Entry) (h : place ≠ []) :
    (t.put place entry).lookup? q = if q = place then some entry else t.lookup? q := by
  unfold lookup? put
  by_cases hq : q = []
  · rw [if_pos hq, if_pos hq, if_neg (fun e : q = place ↦ h (e ▸ hq))]
  · rw [if_neg hq, if_neg hq, List.lookup_cons]
    by_cases hqp : q = place
    · simp [hqp]
    · simp [hqp, beq_eq_false_iff_ne.2 hqp]

/-! ### Following paths -/

/-- The longest name that a directory can hold, in bytes. -/
def longestName : Nat := 255

/-- The longest path that can be followed, in bytes. -/
def longestPath : Nat := 4095

/-- Follows one name from a place. -/
def step (t : FileTree) (place : Place) (name : OsString) : Except OsFailure Place :=
  match t.lookup? place with
  | some .directory =>
    if name = Path.dot then .ok place
    else if name = Path.dots then .ok place.dropLast
    else if longestName < name.bytes.length then .error .nameTooLong
    else if (t.lookup? (place ++ [name])).isSome then .ok (place ++ [name])
    else .error .notFound
  | some (.file _) => .error .notADirectory
  | none => .error .notFound

/-- Follows names one after the other from a place. -/
def walk (t : FileTree) (place : Place) : List OsString → Except OsFailure Place
  | [] => .ok place
  | name :: rest =>
    match t.step place name with
    | .ok next => t.walk next rest
    | .error failure => .error failure

/-- The place that a path starts from. -/
def start (t : FileTree) (path : OsString) : Place := if Path.isAbsolute path then [] else t.current

/-- Refuses the strings that no system takes for a path. -/
def check (path : OsString) : Except IoError Unit :=
  if path.bytes.contains 0 then .error .nulInName
  else if path.bytes.isEmpty then .error (.os .notFound)
  else if longestPath < path.bytes.length then .error (.os .nameTooLong)
  else .ok ()

/-- What stands at the end of a path. -/
def locate (t : FileTree) (path : OsString) : Except IoError Entry :=
  match check path with
  | .error error => .error error
  | .ok () =>
    match t.walk (t.start path) (Path.names path) with
    | .error failure => .error (.os failure)
    | .ok place =>
      match t.lookup? place with
      | none => .error (.os .notFound)
      | some (.file data) =>
        if Path.endsInSlash path then .error (.os .notADirectory) else .ok (.file data)
      | some .directory => .ok .directory

/-- Whether a path leads to something. -/
def pathExists (t : FileTree) (path : OsString) : Bool := (t.locate path).isOk

/-- Whether a path leads to a directory. -/
def isDirectory (t : FileTree) (path : OsString) : Bool :=
  match t.locate path with
  | .ok entry => entry.isDirectory
  | .error _ => false

/-! ### Reading -/

/-- The text of a file. -/
def readText (t : FileTree) (path : OsString) : Except IoError String :=
  match t.locate path with
  | .error error => .error error
  | .ok .directory => .error (.os .isADirectory)
  | .ok (.file data) =>
    match String.fromUTF8? data with
    | some text => .ok text
    | none => .error .notUtf8

/-- A source over a file. A directory can be opened, but the first read of it fails. -/
def openSource (t : FileTree) (path : OsString) : Except OpenError Source :=
  match t.locate path with
  | .error error => .error (.access path error)
  | .ok .directory => Source.ofReads [.fail (.os .isADirectory)]
  | .ok (.file data) => Source.ofReads [.bytes data]

/-! ### Writing -/

/-- The directory that is to hold the last name of a path, and that name. There is no such name on
a path to the root. -/
def parent (t : FileTree) (path : OsString) : Except IoError (Place × Option OsString) :=
  match check path with
  | .error error => .error error
  | .ok () =>
    match t.walk (t.start path) (Path.names path).dropLast with
    | .error failure => .error (.os failure)
    | .ok place =>
      match t.lookup? place with
      | none => .error (.os .notFound)
      | some (.file _) => .error (.os .notADirectory)
      | some .directory => .ok (place, (Path.names path).getLast?)

/-- Whether a name is one that every directory has. -/
def isDots (name : OsString) : Bool := name == Path.dot || name == Path.dots

/-- Makes one directory. -/
def makeDirectory (t : FileTree) (path : OsString) : Except IoError FileTree :=
  match t.parent path with
  | .error error => .error error
  | .ok (_, none) => .error (.os .alreadyExists)
  | .ok (place, some name) =>
    if isDots name then .error (.os .alreadyExists)
    else if longestName < name.bytes.length then .error (.os .nameTooLong)
    else if (t.lookup? (place ++ [name])).isSome then .error (.os .alreadyExists)
    else .ok (t.put (place ++ [name]) .directory)

/-- Makes a directory and those above it that are missing. The paths are the directory and those
above it, nearest first. Directories made before a failure stay. -/
def makeDirectories (t : FileTree) : List OsString → Except IoError Unit × FileTree
  | [] => (.ok (), t)
  | path :: above =>
    if path.bytes.isEmpty then (.ok (), t)
    else
      match t.makeDirectory path with
      | .ok u => (.ok (), u)
      | .error (.os .notFound) =>
        match t.makeDirectories above with
        | (.error error, u) => (.error error, u)
        | (.ok (), u) =>
          match u.makeDirectory path with
          | .ok v => (.ok (), v)
          | .error error => if u.isDirectory path then (.ok (), u) else (.error error, u)
      | .error error => if t.isDirectory path then (.ok (), t) else (.error error, t)

/-- Writes a file, in the place of what it held before. -/
def writeFile (t : FileTree) (path : OsString) (data : ByteArray) : Except IoError FileTree :=
  match t.parent path with
  | .error error => .error error
  | .ok (_, none) => .error (.os .isADirectory)
  | .ok (place, some name) =>
    if Path.endsInSlash path || isDots name then .error (.os .isADirectory)
    else if longestName < name.bytes.length then .error (.os .nameTooLong)
    else
      match t.lookup? (place ++ [name]) with
      | some .directory => .error (.os .isADirectory)
      | _ => .ok (t.put (place ++ [name]) (.file data))

/-! ### Setting up -/

/-- The tree with a directory that stands at a path below the current one. -/
def withDirectory (t : FileTree) (path : OsString) : FileTree :=
  (t.makeDirectories (path :: Path.ancestors path)).2

/-- The tree with a file that stands at a path below the current one, in directories made for
it. -/
def withFile (t : FileTree) (path : OsString) (data : ByteArray) : FileTree :=
  let u := (t.makeDirectories (Path.ancestors path)).2
  match u.writeFile path data with
  | .ok v => v
  | .error _ => u

end FileTree

end TokenScan

import TokenScan.CommandLine.Run
import TokenScan.Toml.Plain
/-!
# The program

The outer layer. It takes the arguments, the environment and those files that a run can look at,
leaves the run itself to `CommandLine.run`, prints what that gives out, and writes the files that
have changed. It decides nothing. What it is given as arguments and environment are texts, and so
are the paths by which it reaches files.
-/

namespace TokenScan.Main

/-- The variables of the environment that a run looks at. -/
def observed : List String :=
  ["HOME", "XDG_CONFIG_HOME", "TOKT_VERBOSE", "TOKT_CONFIG", "TOKT_NO_COLOR"]

/-- The environment of a run. -/
def environment : IO CommandLine.Environment :=
  observed.filterMapM fun name ↦ do
    return (← IO.getEnv name).map fun value ↦ (name, .ofString value)

/-- The paths that a run can look at. -/
def pathsOf (env : CommandLine.Environment) (i : CommandLine.Invocation) : List OsString :=
  let configuration := i.config.toList ++ (CommandLine.places env).candidates
  match i.request with
  | .tokens request => configuration ++ request.files
  | .symbols _ => configuration
  | .init request => configuration ++ [request.target]

/-- What stands at a path, if its directory is there. A directory shows by refusing to be read. -/
def entryAt (path : OsString) : IO (Option Entry) := do
  try
    return some (.file (← IO.FS.readBinFile path.display))
  catch
    | .inappropriateType .. => return some .directory
    | _ => return none

/-- The tree with what stands on the way through some names from a place. -/
def survey (tree : FileTree) (place : Place) : List OsString → IO FileTree
  | [] => return tree
  | name :: rest => do
    let next :=
      if name == Path.dot then place
      else if name == Path.dots then place.dropLast
      else place ++ [name]
    if next.isEmpty then survey tree next rest
    else
      match ← entryAt (Path.render true next) with
      | some .directory => survey (tree.put next .directory) next rest
      | some entry => return tree.put next entry
      | none => return tree

/-- The files that a run can look at. -/
def filesFor (paths : List OsString) : IO FileTree := do
  let current := Path.names (.ofString (toString (← IO.currentDir)))
  let start ← survey { current } [] current
  paths.foldlM (fun tree path ↦ survey tree (tree.start path) (Path.names path)) start

/-- Writes what has changed, earliest change first. -/
def writeBack (before after : FileTree) : IO Unit := do
  let changes := after.entries.take (after.entries.length - before.entries.length)
  for (place, entry) in changes.reverse do
    match entry with
    | .directory => IO.FS.createDir (Path.render true place).display
    | .file data => IO.FS.writeBinFile (Path.render true place).display data

end TokenScan.Main

open TokenScan in
/-- Runs the program. -/
def main (args : List String) : IO UInt32 := do
  let env ← Main.environment
  let args := args.map OsString.ofString
  let paths :=
    match CommandLine.invocation env args with
    | .ok i => Main.pathsOf env i
    | .error _ => []
  let files ← Main.filesFor paths
  let outcome := CommandLine.run .plain env files args
  (← IO.getStdout).putStr outcome.output
  (← IO.getStderr).putStr outcome.messages
  Main.writeBack files outcome.files
  return UInt32.ofNat outcome.status

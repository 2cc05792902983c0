import TokenScan.Command.Emission
import TokenScan.Config
/-!
# Writing a first configuration

The command writes a configuration file in which everything has its default, ready to be changed. A
file that is there already is left alone, unless the command is told to overwrite it.
-/

namespace TokenScan

/-- What the command is asked for. -/
structure InitRequest where
  /-- The directory to write to, unless it is the current one. -/
  directory : Option OsString := none
  /-- Whether a file that is there already is overwritten. -/
  force : Bool := false

namespace InitRequest

/-- The file to be written. -/
def target (r : InitRequest) : OsString := Path.join (r.directory.getD Path.dot) Config.fileName

/-- Runs the command, on a machine with some processors. The answer is the path of the file. -/
def run (codec : Toml.Codec) (r : InitRequest) (files : FileTree) (processors : Nat := 1) :
    List Emission × Except Failure OsString × FileTree :=
  if files.pathExists r.target && !r.force then
    ([], .error (.configurationExists r.target), files)
  else
    match Config.saveTo codec files (.standard processors) r.target with
    | (.error failure, files) => ([], .error failure, files)
    | (.ok (), files) => ([.event (.wroteConfiguration r.target)], .ok r.target, files)

end InitRequest

end TokenScan

import TokenScan.CommandLine.Invocation
/-!
# Runs

A run reads its arguments, then its configuration, and then does what it is asked for; each step is
only reached if the one before it succeeded. It ends with a status: zero if all went well, one if it
failed, which the last line it gives out explains, and two if the arguments were at fault.

A run is a function of its arguments, its environment, the files there are, the number of processors
of the machine and the codec for configurations. What it gives out and the files it leaves behind
are its value.
-/

namespace TokenScan.CommandLine

/-- What a run comes to. -/
structure Outcome where
  /-- The status. -/
  status : Nat
  /-- The output. -/
  output : String
  /-- What is shown beside the output. -/
  messages : String
  /-- The files afterwards. -/
  files : FileTree

/-- The name of the program. -/
def programName : String := "tokt"

/-- The version of the program. -/
def version : String := "0.1.0"

/-- What is shown when the version is asked for. -/
def versionText (level : Option Subcommand) : String :=
  programName ++ (level.map fun sub ↦ "-" ++ sub.name).getD "" ++ " " ++ version ++ "\n"

/-- How the program is used. -/
def usage : String :=
  "Usage: tokt [-v] [-c PATH] [--no-color] COMMAND\n\n" ++
    "Commands:\n" ++
    "  tokens FILES... [-F FORMAT] [-r] [-j JOBS] [-d PATTERN]... [-s PATTERN]...\n" ++
    "  symbols [-F FORMAT] [-d PATTERN]... [-s PATTERN]...\n" ++
    "  init [-p PATH] [-f]\n"

/-- A value of the environment that is set to something. -/
def nonempty (env : Environment) (name : String) : Option OsString :=
  (env.lookup name).filter (!·.bytes.isEmpty)

/-- Where configurations are kept. Without an absolute path of its own the directory of the system is
one in the home directory. -/
def places (env : Environment) : Config.Places :=
  let home := nonempty env "HOME"
  { home
    system :=
      ((nonempty env "XDG_CONFIG_HOME").filter Path.isAbsolute).or
        (home.map fun dir ↦ Path.join dir (.ofString ".config")) }

/-- Does what is asked for. -/
def Request.run (codec : Toml.Codec) (files : FileTree) (config : Config) (processors : Nat := 1) :
    Request → List Emission × Except Failure Unit × FileTree
  | tokens request =>
    let (emissions, result) := request.run files config
    (emissions, result, files)
  | symbols request =>
    let (emissions, result) := request.run config
    (emissions, result, files)
  | init request =>
    match request.run codec files processors with
    | (emissions, .ok target, files) =>
      (emissions ++ [.output ("Created " ++ target.display ++ "\n")], .ok (), files)
    | (emissions, .error failure, files) => (emissions, .error failure, files)

/-- Reads the configuration of an invocation. -/
def Invocation.configuration (codec : Toml.Codec) (i : Invocation) (env : Environment)
    (files : FileTree) (processors : Nat := 1) : Except Failure Config × List Event :=
  match i.config with
  | some path => Config.loadFrom codec files path processors
  | none => Config.load codec files (places env) processors

/-- Does what an invocation asks for. -/
def Invocation.run (codec : Toml.Codec) (i : Invocation) (env : Environment) (files : FileTree)
    (processors : Nat := 1) : List Emission × Except Failure Unit × FileTree :=
  match i.configuration codec env files processors with
  | (.error failure, events) => (events.map .event, .error failure, files)
  | (.ok config, events) =>
    let (emissions, result, files) := i.request.run codec files config processors
    (events.map .event ++ emissions, result, files)

/-- The level from which on events are shown. -/
def Invocation.level (i : Invocation) : Level := if i.verbose then .debug else .info

/-- A run of the program. -/
def run (codec : Toml.Codec) (env : Environment) (files : FileTree) (args : List OsString)
    (processors : Nat := 1) : Outcome :=
  match invocation env args with
  | .error (.version level) => ⟨0, versionText level, "", files⟩
  | .error .help => ⟨0, usage, "", files⟩
  | .error .misuse => ⟨2, "", usage, files⟩
  | .ok i =>
    let (emissions, result, after) := i.run codec env files processors
    let shown := Emission.shownOf i.level emissions
    match result with
    | .ok () => ⟨0, Emission.outputOf emissions, shown, after⟩
    | .error failure =>
      ⟨1, Emission.outputOf emissions, shown ++ "Error: " ++ failure.quoted ++ "\n", after⟩

end TokenScan.CommandLine

import TokenScan.Command.Init
import TokenScan.Command.Symbols
import TokenScan.Command.Tokens
import TokenScan.CommandLine.Arguments
/-!
# Invocations

An invocation is what the arguments and the environment ask for together. Of the global options, one
that is given after the subcommand comes before one that is given ahead of it, and the environment
counts where neither is given.

Each level looks into the environment for the global options that it was not given. What it finds
there must be a value of the option: exactly `true` or `false` for a flag, and not empty for a path.
-/

namespace TokenScan.CommandLine

/-- The variables of the environment. -/
abbrev Environment := List (String × OsString)

/-- What a subcommand is asked for. -/
inductive Request where
  /-- Tokenize files. -/
  | tokens (request : TokensRequest)
  /-- Show the symbols. -/
  | symbols (request : SymbolsRequest)
  /-- Write a first configuration. -/
  | init (request : InitRequest)

/-- What a run is asked for. -/
structure Invocation where
  /-- Whether events of less weight are shown as well. -/
  verbose : Bool
  /-- The configuration file, unless it is to be looked for. -/
  config : Option OsString
  /-- The request. -/
  request : Request

/-- The variable that stands for a global option. -/
def variableOf : Opt → Option String
  | .verbose => some "TOKT_VERBOSE"
  | .config => some "TOKT_CONFIG"
  | .noColor => some "TOKT_NO_COLOR"
  | _ => none

/-- Whether the value of a variable is one of its option. -/
def isVariableValue (o : Opt) (v : OsString) : Bool :=
  if o.arity = .flag then v == .ofString "true" || v == .ofString "false" else !v.bytes.isEmpty

/-- The value of an option in the environment. -/
def inherited (env : Environment) (o : Opt) : Option OsString := (variableOf o).bind (env.lookup ·)

/-- Whether a level can take from the environment what it was not given. -/
def levelAgrees (env : Environment) (g : Given) : Bool :=
  [Opt.verbose, .config, .noColor].all fun o ↦
    g.has o || ((inherited env o).map (isVariableValue o)).getD true

/-- What a subcommand is asked for by what was read after it. -/
def requestOf (sub : Subcommand) (g : Given) : Except Stop Request :=
  match sub with
  | .tokens =>
    if g.files.isEmpty then .error .misuse
    else
      .ok (.tokens
        { files := g.files
          format := g.text? .format
          raw := g.has .raw
          digraphs := g.texts .digraph
          singles := g.texts .single
          jobs := (g.text? .jobs).bind number? })
  | .symbols =>
    .ok (.symbols
      { format := g.text? .format
        digraphs := g.texts .digraph
        singles := g.texts .single })
  | .init => .ok (.init { directory := g.value? .path, force := g.has .force })

/-- The value of a global option: after the subcommand, before it, or from the environment. -/
def globalValue (env : Environment) (r : Reading) (o : Opt) : Option OsString :=
  (r.after.value? o).or ((r.before.value? o).or (inherited env o))

/-- Whether a global flag is set. -/
def globalFlag (env : Environment) (r : Reading) (o : Opt) : Bool :=
  r.after.has o || r.before.has o || inherited env o == some (.ofString "true")

/-- What the arguments and the environment ask for. -/
def invocation (env : Environment) (args : List OsString) : Except Stop Invocation :=
  match readBefore {} none none args with
  | .error stop => .error stop
  | .ok r =>
    if levelAgrees env r.after && levelAgrees env r.before then
      (requestOf r.sub r.after).map fun request ↦
        { verbose := globalFlag env r .verbose
          config := globalValue env r .config
          request }
    else .error .misuse

end TokenScan.CommandLine

/-!
# Options

Every option has a long name, most have a short one, and each is either a flag, takes one value, or
takes a value each time it is given. An option of the last kind takes whatever comes after it, even
what looks like another option.

Three options are global: they may stand before the subcommand or after it. All others belong to
their subcommand.
-/

namespace TokenScan.CommandLine

/-- The subcommands. -/
inductive Subcommand where
  /-- Tokenize files. -/
  | tokens
  /-- Show the symbols. -/
  | symbols
  /-- Write a first configuration. -/
  | init
  deriving DecidableEq, Repr

namespace Subcommand

/-- The name of a subcommand. -/
def name : Subcommand → String
  | tokens => "tokens"
  | symbols => "symbols"
  | init => "init"

/-- The subcommand of a name. Names are not abbreviated. -/
def ofName? (name : String) : Option Subcommand :=
  [tokens, symbols, init].find? fun sub ↦ sub.name == name

end Subcommand

/-- What an option is followed by. -/
inductive Arity where
  /-- Nothing. -/
  | flag
  /-- One value. The option is given once at most. -/
  | value
  /-- One value each time. -/
  | values
  deriving DecidableEq, Repr

/-- The options. -/
inductive Opt where
  /-- Show more events. -/
  | verbose
  /-- The configuration file. -/
  | config
  /-- Leave out colours. -/
  | noColor
  /-- Show the usage. -/
  | help
  /-- Show the version. -/
  | version
  /-- The format of the output. -/
  | format
  /-- Count white space as tokens. -/
  | raw
  /-- How many files are scanned at a time. -/
  | jobs
  /-- A further digraph. -/
  | digraph
  /-- A further single symbol. -/
  | single
  /-- The directory to write to. -/
  | path
  /-- Overwrite what is there. -/
  | force
  deriving DecidableEq, Repr

namespace Opt

/-- The long name of an option, without its dashes. -/
def long : Opt → String
  | verbose => "verbose"
  | config => "config"
  | noColor => "no-color"
  | help => "help"
  | version => "version"
  | format => "format"
  | raw => "raw"
  | jobs => "jobs"
  | digraph => "digraph"
  | single => "single"
  | path => "path"
  | force => "force"

/-- The short name of an option, without its dash. -/
def short : Opt → Option Char
  | verbose => some 'v'
  | config => some 'c'
  | noColor => none
  | help => some 'h'
  | version => some 'V'
  | format => some 'F'
  | raw => some 'r'
  | jobs => some 'j'
  | digraph => some 'd'
  | single => some 's'
  | path => some 'p'
  | force => some 'f'

/-- What an option is followed by. -/
def arity : Opt → Arity
  | config | format | jobs | path => .value
  | digraph | single => .values
  | _ => .flag

/-- The options that are known before a subcommand, or after one. -/
def known : Option Subcommand → List Opt
  | none => [verbose, config, noColor, help, version]
  | some .tokens =>
    [verbose, config, noColor, help, version, format, raw, jobs, digraph, single]
  | some .symbols => [verbose, config, noColor, help, version, format, digraph, single]
  | some .init => [verbose, config, noColor, help, version, path, force]

/-- The option of a long name. Names are not abbreviated. -/
def ofLong? (level : Option Subcommand) (name : String) : Option Opt :=
  (known level).find? fun o ↦ o.long == name

/-- The option of a short name. -/
def ofShort? (level : Option Subcommand) (name : Char) : Option Opt :=
  (known level).find? fun o ↦ o.short == some name

end Opt

end TokenScan.CommandLine

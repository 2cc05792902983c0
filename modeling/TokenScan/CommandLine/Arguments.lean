import TokenScan.CommandLine.Option
import TokenScan.Text.OsString
/-!
# Arguments

Arguments are read from left to right, at one of two levels: before the subcommand, or after it.
What is read at a level is a list of `Setting`s, an option with its value for each time that it was
given, and the files that were named. The first fault ends the reading, and so does a request for
the usage or the version; what comes after it does not matter.

A value follows its option as the next argument, or in the same one: after an equals sign, or
directly after a short name, with or without one equals sign that does not count. Short flags may be
put together. After two dashes there are no more options.

A value in the argument of its option is looked at there and then. One that is the next argument is
left pending until the next option at its level, or until the end of the arguments. So ahead of the
subcommand it may still be pending when what follows the subcommand ends the reading, and a fault of
it does not count then (`readBefore`). After the subcommand all that can come in between is the name
of a file or two dashes, which at most are at fault themselves, so there the value is looked at at
once.

Arguments are strings of bytes. The names of options are ASCII, and the value of an option must be a
text unless it is a path; files have any names.
-/

namespace TokenScan.CommandLine

/-- Why the reading of arguments ends early. -/
inductive Stop where
  /-- The arguments are at fault. -/
  | misuse
  /-- The usage is asked for. -/
  | help
  /-- The version is asked for, before a subcommand or after one. -/
  | version (level : Option Subcommand)
  deriving DecidableEq, Repr

/-- An option and the value it was given; a flag has the empty value. -/
abbrev Setting := Opt × OsString

/-- What has been read at a level. -/
structure Given where
  /-- The options that were given. -/
  settings : List Setting := []
  /-- The files that were named. -/
  files : List OsString := []

namespace Given

/-- Whether an option was given. -/
def has (g : Given) (o : Opt) : Bool := g.settings.any fun s ↦ s.1 == o

/-- The value of an option, if it was given. -/
def value? (g : Given) (o : Opt) : Option OsString :=
  (g.settings.find? fun s ↦ s.1 == o).map Prod.snd

/-- The value of an option that takes a text, if it was given. -/
def text? (g : Given) (o : Opt) : Option String := (g.value? o).bind OsString.text?

/-- The values of an option that takes a text and may be given more than once. -/
def texts (g : Given) (o : Opt) : List String :=
  ((g.settings.filter fun s ↦ s.1 == o).map Prod.snd).filterMap OsString.text?

end Given

/-- A number of at most 64 bits. A plus sign before it is allowed. -/
def number? (text : String) : Option Nat :=
  let ds := match text.toList with
    | '+' :: rest => rest
    | cs => cs
  if ds.isEmpty || !ds.all Char.isDigit then none
  else
    let n := ds.foldl (fun n c ↦ 10 * n + (c.toNat - '0'.toNat)) 0
    if n < Nat.pow 2 64 then some n else none

/-- Whether an option takes a value. -/
def accepts : Opt → OsString → Bool
  | .config, v => !v.bytes.isEmpty
  | .path, v => !v.bytes.isEmpty
  | .jobs, v => (v.text?.bind number?).isSome
  | _, v => v.text?.isSome

/-- Notes that an option was given, with its value. -/
def give (level : Option Subcommand) (g : Given) (o : Opt) (v : OsString) : Except Stop Given :=
  match o with
  | .help => .error .help
  | .version => .error (.version level)
  | _ =>
    if o.arity != .values && g.has o then .error .misuse
    else if accepts o v then .ok { g with settings := g.settings ++ [(o, v)] }
    else .error .misuse

/-- The byte that all options start with. -/
def dash : UInt8 := 0x2D

/-- The byte between an option and its value. -/
def equals : UInt8 := 0x3D

/-- What follows an equals sign at the start, or everything if there is none. -/
def dropEquals : List UInt8 → List UInt8
  | b :: rest => if b = equals then rest else b :: rest
  | [] => []

/-- Reads short options put together. The answer has the option that waits for its value, if the
last one does. -/
def shortOptions (level : Option Subcommand) (g : Given) :
    List UInt8 → Except Stop (Given × Option Opt)
  | [] => .ok (g, none)
  | b :: rest =>
    match Opt.ofShort? level (Char.ofUInt8 b) with
    | none => .error .misuse
    | some o =>
      if o.arity = .flag then
        match give level g o ⟨[]⟩ with
        | .ok g => shortOptions level g rest
        | .error stop => .error stop
      else if rest.isEmpty then .ok (g, some o)
      else (give level g o ⟨dropEquals rest⟩).map fun g ↦ (g, none)

/-- Reads a long option, given by what follows its dashes. -/
def longOption (level : Option Subcommand) (g : Given) (bs : List UInt8) :
    Except Stop (Given × Option Opt) :=
  let name : OsString := ⟨bs.takeWhile (· != equals)⟩
  let attached := bs.dropWhile (· != equals)
  match name.text?.bind (Opt.ofLong? level) with
  | none => .error .misuse
  | some o =>
    match o.arity, attached with
    | .flag, [] => (give level g o ⟨[]⟩).map fun g ↦ (g, none)
    | .flag, _ :: _ => .error .misuse
    | _, [] => .ok (g, some o)
    | _, _ :: v => (give level g o ⟨v⟩).map fun g ↦ (g, none)

/-- Whether an argument is a single dash, which starts no option. -/
def isDash (arg : OsString) : Bool := arg.bytes == [dash]

/-- Whether an argument is two dashes, which end the options. -/
def isDashes (arg : OsString) : Bool := arg.bytes == [dash, dash]

/-- Whether an argument starts with a dash. -/
def startsWithDash (arg : OsString) : Bool := arg.bytes.head? == some dash

/-- Whether an argument can be the value of an option that waits for one. -/
def isValueFor (o : Opt) (arg : OsString) : Bool :=
  o.arity == .values || isDash arg || !startsWithDash arg

/-- Names a file. -/
def nameFile (g : Given) (file : OsString) : Except Stop Given :=
  if file.bytes.isEmpty then .error .misuse else .ok { g with files := g.files ++ [file] }

/-- Names files. -/
def nameFiles (g : Given) : List OsString → Except Stop Given
  | [] => .ok g
  | file :: rest =>
    match nameFile g file with
    | .ok g => nameFiles g rest
    | .error stop => .error stop

/-- Reads an argument that starts with a dash and is longer than that. -/
def readOption (level : Option Subcommand) (g : Given) (arg : OsString) :
    Except Stop (Given × Option Opt) :=
  match arg.bytes with
  | first :: second :: rest =>
    if first != dash then .error .misuse
    else if second = dash then longOption level g rest
    else shortOptions level g (second :: rest)
  | _ => .error .misuse

/-- Reads the arguments after a subcommand. -/
def readAfter (sub : Subcommand) (g : Given) : Option Opt → List OsString → Except Stop Given
  | some _, [] => .error .misuse
  | none, [] => .ok g
  | some o, arg :: rest =>
    if isValueFor o arg then
      match give (some sub) g o arg with
      | .ok g => readAfter sub g none rest
      | .error stop => .error stop
    else .error .misuse
  | none, arg :: rest =>
    if isDashes arg then
      if sub = .tokens then nameFiles g rest
      else if rest.isEmpty then .ok g else .error .misuse
    else if !isDash arg && startsWithDash arg then
      match readOption (some sub) g arg with
      | .ok (g, waiting) => readAfter sub g waiting rest
      | .error stop => .error stop
    else if sub = .tokens then
      match nameFile g arg with
      | .ok g => readAfter sub g none rest
      | .error stop => .error stop
    else .error .misuse

/-- What the arguments say: what was read before the subcommand, the subcommand, and what was read
after it. -/
structure Reading where
  /-- What was read before the subcommand. -/
  before : Given
  /-- The subcommand. -/
  sub : Subcommand
  /-- What was read after the subcommand. -/
  after : Given

/-- The subcommand that an argument names. -/
def subcommand? (arg : OsString) : Option Subcommand := arg.text?.bind Subcommand.ofName?

/-- Whether an argument asks for help in the place of a subcommand. -/
def isHelp (arg : OsString) : Bool := arg == .ofString "help"

/-- What a request for help comes to: help for the whole, or for one command, which `help` itself
is as well. -/
def helpFor : List OsString → Stop
  | [] => .help
  | [name] => if isHelp name || (subcommand? name).isSome then .help else .misuse
  | _ => .misuse

/-- Notes the setting that is pending, if there is one. -/
def settle (level : Option Subcommand) (g : Given) : Option Setting → Except Stop Given
  | none => .ok g
  | some (o, v) => give level g o v

/-- Reads the arguments from the first one. An option may wait for its value, or have its value
pending. -/
def readBefore (g : Given) : Option Opt → Option Setting → List OsString → Except Stop Reading
  | _, _, [] => .error .misuse
  | some o, _, arg :: rest =>
    if isValueFor o arg then readBefore g none (some (o, arg)) rest else .error .misuse
  | none, pending, arg :: rest =>
    match subcommand? arg with
    | some sub =>
      match readAfter sub {} none rest with
      | .ok after => (settle none g pending).map fun before ↦ ⟨before, sub, after⟩
      | .error stop => .error stop
    | none =>
      if isHelp arg then .error (helpFor rest)
      else if !isDashes arg && !isDash arg && startsWithDash arg then
        match settle none g pending with
        | .ok g =>
          match readOption none g arg with
          | .ok (g, waiting) => readBefore g waiting none rest
          | .error stop => .error stop
        | .error stop => .error stop
      else .error .misuse

end TokenScan.CommandLine

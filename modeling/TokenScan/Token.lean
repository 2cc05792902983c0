import TokenScan.Text.Whitespace
/-!
# Tokens

A token is a piece of text with its kind and the line on which it starts. There are nine kinds.
Each has a `name`, which is shown to users and is written into output, and a `label`, which is the
short form that diagnostics use. A kind is known by its name (`ofName?_name`).

Four kinds end at a terminator. A text that runs out before the terminator is the one way in which
a scan can fail, an `Unterminated` construct.
-/

namespace TokenScan

/-- The kinds of token. -/
inductive TokenKind where
  /-- A run of white space. -/
  | whitespace
  /-- A run of letters and digits. -/
  | alphanumeric
  /-- A run of characters that are neither. -/
  | punctuation
  /-- Two characters that are registered as one symbol. -/
  | digraph
  /-- A run of characters each of which is registered as a symbol. -/
  | symbolRun
  /-- From two slashes through the end of the line. -/
  | lineComment
  /-- From a slash and a star through a star and a slash. -/
  | blockComment
  /-- From a double quote through the next one. -/
  | quotedString
  /-- From a number sign through the end of the line. -/
  | directive
  deriving DecidableEq, Repr

namespace TokenKind

/-- Every kind. -/
def all : List TokenKind :=
  [whitespace, alphanumeric, punctuation, digraph, symbolRun, lineComment, blockComment,
    quotedString, directive]

/-- The name that users read. -/
def name : TokenKind → String
  | whitespace => "whitespace"
  | alphanumeric => "alphanumeric run"
  | punctuation => "punctuation run"
  | digraph => "digraph"
  | symbolRun => "symbol run"
  | lineComment => "line comment"
  | blockComment => "block comment"
  | quotedString => "quoted string"
  | directive => "directive line"

/-- The short form that diagnostics use. -/
def label : TokenKind → String
  | whitespace => "Whitespace"
  | alphanumeric => "AlphaNumeric"
  | punctuation => "Punctuation"
  | digraph => "Digraph"
  | symbolRun => "SymbolRun"
  | lineComment => "LineComment"
  | blockComment => "BlockComment"
  | quotedString => "QuotedString"
  | directive => "Directive"

/-- The kind of a name. -/
def ofName? (name : String) : Option TokenKind := all.find? fun kind ↦ kind.name == name

/-- The kind of a label. -/
def ofLabel? (label : String) : Option TokenKind := all.find? fun kind ↦ kind.label == label

theorem ofName?_name (kind : TokenKind) : ofName? kind.name = some kind := by
  cases kind <;> decide

end TokenKind

/-- A piece of text, classified. -/
structure Token where
  /-- What the text is. -/
  kind : TokenKind
  /-- The text, exactly as it was read. -/
  text : String
  /-- The line on which the text starts, counted from one. -/
  line : UInt32
  deriving DecidableEq, Repr

/-- Whether the text of a token starts with white space. -/
def Token.isWhitespace (t : Token) : Bool :=
  match t.text.toList with
  | [] => false
  | c :: _ => Text.isWhitespace c

/-- A construct that the text left open. -/
structure Unterminated where
  /-- The kind of the construct. -/
  construct : TokenKind
  /-- The line on which it starts. -/
  line : UInt32
  deriving DecidableEq, Repr

/-- What a user is told about a construct that was left open. -/
def Unterminated.message (e : Unterminated) : String :=
  "unterminated " ++ e.construct.name ++ " starting on line " ++ toString e.line.toNat

end TokenScan

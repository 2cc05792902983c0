import TokenScan.Text.OsString
/-!
# Paths

A path is a string of bytes in which slashes separate names. Two readings of it are needed. To look
up a path the names are walked as they stand, empty ones aside (`names`). To go from a path to the
directory that holds it, its bytes are cut off behind an earlier stop on the way (`ancestors`). A
dot that is not the very start of a path is no stop of its own. What stands before the cut is kept
as it was written, so that a path that is too long stays too long.

A name need not be a text. In UTF-8 neither the slash nor the dot is part of any other character, so
the names of a path that is a text are those that its characters show.
-/

namespace TokenScan.Path

/-- The byte that separates names. -/
def slash : UInt8 := 0x2F

/-- The name that leads nowhere else. -/
def dot : OsString := ⟨[0x2E]⟩

/-- The name that leads back up. -/
def dots : OsString := ⟨[0x2E, 0x2E]⟩

/-- The pieces of a string between slashes, empty ones included. -/
def segments : List UInt8 → List (List UInt8)
  | [] => [[]]
  | b :: rest =>
    if b = slash then [] :: segments rest
    else
      match segments rest with
      | [] => [[b]]
      | piece :: pieces => (b :: piece) :: pieces

/-- The names on a path. -/
def names (path : OsString) : List OsString :=
  ((segments path.bytes).filter (!·.isEmpty)).map OsString.mk

/-- Whether a path starts at the root. -/
def isAbsolute (path : OsString) : Bool := path.bytes.head? == some slash

/-- Whether a path ends in a slash, which only a directory may. -/
def endsInSlash (path : OsString) : Bool := path.bytes.getLast? == some slash

/-- The path made of some names. -/
def render (absolute : Bool) (names : List OsString) : OsString :=
  ⟨(if absolute then [slash] else []) ++ [slash].intercalate (names.map OsString.bytes)⟩

/-- Whether a piece of a path says where to go: it is a name, and a dot only at the start. -/
def isStop (atStart : Bool) (piece : List UInt8) : Bool :=
  !piece.isEmpty && (atStart || piece != dot.bytes)

/-- The stops on a path, last one first. The pieces of the path are given from its end, and each
stop is the list of the pieces that lead there, again from the end. -/
def stops : List (List UInt8) → List (List (List UInt8))
  | [] => []
  | piece :: before =>
    if isStop before.isEmpty piece then (piece :: before) :: stops before else stops before

/-- The path whose pieces are given from its end. -/
def writeBack (pieces : List (List UInt8)) : OsString := ⟨[slash].intercalate pieces.reverse⟩

/-- The directories above a path, nearest first, each written as in the path. The last one is the
root or the empty path. -/
def ancestors (path : OsString) : List OsString :=
  match stops (segments path.bytes).reverse with
  | [] => []
  | _ :: above => above.map writeBack ++ [⟨if isAbsolute path then [slash] else []⟩]

/-- A name inside a directory. An absolute name stands for itself. -/
def join (directory name : OsString) : OsString :=
  if isAbsolute name || directory.bytes.isEmpty then name
  else if endsInSlash directory then ⟨directory.bytes ++ name.bytes⟩
  else ⟨directory.bytes ++ slash :: name.bytes⟩

end TokenScan.Path

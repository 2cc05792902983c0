import TokenScan.Text.Intervals
/-!
# White space

The characters with the Unicode property White_Space. There are twenty-five of them; the line feed
is one, the no-break spaces are, and the zero-width space is not.
-/

namespace TokenScan.Text

/-- The code points with the property White_Space. -/
def whitespaceIntervals : List (Nat × Nat) :=
  [(0x9, 0xD), (0x20, 0x20), (0x85, 0x85), (0xA0, 0xA0), (0x1680, 0x1680), (0x2000, 0x200A),
   (0x2028, 0x2029), (0x202F, 0x202F), (0x205F, 0x205F), (0x3000, 0x3000)]

/-- Whether a character has the property White_Space. -/
def isWhitespace (c : Char) : Bool := inIntervals c.toNat whitespaceIntervals

end TokenScan.Text

import TokenScan.Toml.Document
/-!
# Codecs

TOML says what table a text is (`table?`). The other way round it leaves a choice: the same table
has many texts, and which one is written is up to whoever writes it. A program that keeps tables in
files uses some codec for both ways. It relies on the codec no further than that what is written is
TOML and that what is TOML is read as the table it says.
-/

namespace TokenScan.Toml

/-- What writes tables as texts and reads them back. -/
structure Codec where
  /-- The text that is written for a table, if it can be written. -/
  write? : Fields → Option String
  /-- The table that is read from a text, if it can be read. -/
  read? : String → Option Fields

end TokenScan.Toml

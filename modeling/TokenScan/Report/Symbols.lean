import TokenScan.Json.Value
import TokenScan.Report.Format
import TokenScan.Symbol.Table
/-!
# How a symbol table is shown

As text, a table takes two lines, one for each of its sets; as JSON, it is an object with two lists.
Either way the patterns come in the order of their registration.
-/

namespace TokenScan.SymbolTable

/-- A table as text. -/
def text (t : SymbolTable) : String :=
  "digraphs: " ++ " ".intercalate t.digraphs.toList ++ "\nsingles:  " ++
    " ".intercalate t.singles.toList ++ "\n"

/-- A table as JSON. -/
def record (t : SymbolTable) : Json :=
  .object
    [("digraphs", .strings t.digraphs.toList), ("singles", .strings t.singles.toList)]

/-- A table in some format. -/
def render (format : OutputFormat) (t : SymbolTable) : String :=
  match format with
  | .text => t.text
  | .json => String.ofList (t.record.pretty ++ ['\n'])

end TokenScan.SymbolTable

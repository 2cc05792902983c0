import TokenScan.Command.Emission
import TokenScan.Report.Symbols
import TokenScan.Symbol.Build
/-!
# Showing the symbols

The command shows the symbols that a scan would use with the same configuration and the same
symbols asked for besides.
-/

namespace TokenScan

/-- What the command is asked for. -/
structure SymbolsRequest where
  /-- The name of the format, unless the configured one is to be used. -/
  format : Option String := none
  /-- Further digraphs. -/
  digraphs : List String := []
  /-- Further single symbols. -/
  singles : List String := []

/-- Runs the command. -/
def SymbolsRequest.run (r : SymbolsRequest) (config : Config) :
    List Emission × Except Failure Unit :=
  match OutputFormat.resolve r.format config.output.format with
  | .error failure => ([], .error failure)
  | .ok format =>
    ((SymbolTable.warnings config.symbols r.digraphs r.singles).map .event ++
        [.output ((SymbolTable.build config.symbols r.digraphs r.singles).render format)],
      .ok ())

end TokenScan

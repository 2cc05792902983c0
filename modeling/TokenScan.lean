import TokenScan.Main
import TokenScan.Json.Reader
import TokenScan.Proofs.Text.Digits
import TokenScan.Proofs.Json.Reader
import TokenScan.Proofs.Toml.Quoted
import TokenScan.Proofs.Toml.Number
import TokenScan.Proofs.Toml.Value
import TokenScan.Proofs.Toml.Document
import TokenScan.Proofs.Toml.Codec
import TokenScan.Proofs.File.Tree
import TokenScan.Proofs.Config
import TokenScan.Proofs.Command.Init
import TokenScan.Proofs.Source.Construct
import TokenScan.Proofs.Source.Closed
import TokenScan.Proofs.Source.Cursor
import TokenScan.Proofs.Grammar
import TokenScan.Proofs.Symbols
import TokenScan.Proofs.Source.Lexeme
import TokenScan.Proofs.Context
import TokenScan.Proofs.Session.Step
import TokenScan.Proofs.Session.Run
import TokenScan.Proofs.Session.Pending
import TokenScan.Proofs.Session.Segmentation
import TokenScan.Proofs.Session.Stability
import TokenScan.Proofs.Session.Reply
import TokenScan.Proofs.Session.Conservation
import TokenScan.Proofs.Session.Progress
import TokenScan.Proofs.Session.Scan
import TokenScan.Proofs.Session.Reprint
import TokenScan.Proofs.Session.Line
import TokenScan.Proofs.Session.Agreement
import TokenScan.Proofs.Source.Lookahead
import TokenScan.Proofs.Session.Lookahead
import TokenScan.Proofs.Session.Attribution
import TokenScan.Proofs.Session.Filter
import TokenScan.Proofs.Session.Finished
import TokenScan.Proofs.Session.Registration
import TokenScan.Proofs.Report.File
import TokenScan.Proofs.Command.Tokens
import TokenScan.Proofs.Session.Repair
import TokenScan.Proofs.Report.Lines
import TokenScan.Proofs.Source.Delivery
import TokenScan.Proofs.Session.Opening
import TokenScan.Proofs.Report.Document
import TokenScan.Proofs.Command.Symbols

import RegisterMap.Batch
import RegisterMap.Cli.Command
import RegisterMap.Cli.Complete
import RegisterMap.Cli.Console
import RegisterMap.Cli.Flag
import RegisterMap.Cli.Program
import RegisterMap.Cli.Scripts
import RegisterMap.Cli.Value
import RegisterMap.Device
import RegisterMap.Emit
import RegisterMap.Fetch.Client
import RegisterMap.Fetch.Status
import RegisterMap.Fetch.Url
import RegisterMap.Files
import RegisterMap.Header.Define
import RegisterMap.Header.Line
import RegisterMap.Header.Scan
import RegisterMap.Ident
import RegisterMap.Literal
import RegisterMap.Main
import RegisterMap.Model.Basic
import RegisterMap.Model.Builder
import RegisterMap.Model.Overlap
import RegisterMap.Overrides.Basic
import RegisterMap.Overrides.Read
import RegisterMap.Overrides.Validate
import RegisterMap.Pipeline
import RegisterMap.Table
import RegisterMap.Text.Base64
import RegisterMap.Text.Blank
import RegisterMap.Text.Bytes
import RegisterMap.Text.Case
import RegisterMap.Text.CaseTable
import RegisterMap.Text.Columns
import RegisterMap.Text.Digit
import RegisterMap.Text.Lower
import RegisterMap.Text.Numeral
import RegisterMap.Text.Printable
import RegisterMap.Text.Quoted
import RegisterMap.Text.Utf8
import RegisterMap.Yaml.Decode
import RegisterMap.Yaml.Event
import RegisterMap.Yaml.Node
import RegisterMap.Yaml.Scalar
import RegisterMap.Yaml.Token
import RegisterMap.Yaml.Token.Lexer
import RegisterMap.Proofs.Header.Marks
import RegisterMap.Proofs.Header.Run
import RegisterMap.Proofs.Header.Declarations
import RegisterMap.Proofs.Header.Faults
import RegisterMap.Proofs.Header.Notes
import RegisterMap.Proofs.Model.Layout
import RegisterMap.Proofs.Model.Overlaps
import RegisterMap.Proofs.Literal.ReadBack
import RegisterMap.Proofs.Literal.Grammar
import RegisterMap.Proofs.Pipeline
import RegisterMap.Proofs.Files
import RegisterMap.Proofs.Batch
import RegisterMap.Proofs.Table
import RegisterMap.Proofs.Overrides.Merge
import RegisterMap.Proofs.Overrides.Validation
import RegisterMap.Proofs.Text.Utf8
import RegisterMap.Proofs.Text.Case
import RegisterMap.Proofs.Text.Pieces
import RegisterMap.Proofs.Text.Lower
import RegisterMap.Proofs.Ident

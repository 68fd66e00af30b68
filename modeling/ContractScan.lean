import ContractScan.Main
import ContractScan.Proofs.Command.Published
import ContractScan.Proofs.Command.Verdict
import ContractScan.Proofs.Report.Records
import ContractScan.Proofs.Scan.Sites
import ContractScan.Proofs.Source.Enclosing
import ContractScan.Proofs.Source.Inside
import ContractScan.Proofs.Source.Lexer
import ContractScan.Proofs.Rule.Document
import ContractScan.Proofs.Scan.Selection
import ContractScan.Proofs.Rule.Loading
import ContractScan.Proofs.Command.Refusal
import ContractScan.Proofs.Slither.Readable
import ContractScan.Proofs.Slither.Outcome
import ContractScan.Proofs.Rule.Requests
import ContractScan.Proofs.FileTree.Order
import ContractScan.Proofs.Mythril.Issues
import ContractScan.Proofs.Mythril.Isolation
import ContractScan.Proofs.Command.Events
import ContractScan.Proofs.Pattern.Empty
import ContractScan.Proofs.Scan.EmptyMatch
import ContractScan.Proofs.Source.Frame
import ContractScan.Proofs.Scan.Failure
import ContractScan.Proofs.Scan.Shown
import ContractScan.Proofs.Slither.Located
import ContractScan.Proofs.Analyzer.Documented
import ContractScan.Proofs.Source.Declaration
import ContractScan.Proofs.Pattern.Spelling
import ContractScan.Proofs.Rule.Arc
import ContractScan.Proofs.Rule.SixDecimals
import ContractScan.Proofs.Scan.Occurrences
import ContractScan.Proofs.FileTree.Listing
import ContractScan.Proofs.FileTree.Agreement
import ContractScan.Proofs.Mythril.RelativePath
import ContractScan.Proofs.Text.Order
import ContractScan.Proofs.Rule.Select
import ContractScan.Proofs.Report.Table
import ContractScan.Proofs.Scan.Spans
import ContractScan.Proofs.Text.LetterCase
import ContractScan.Proofs.Text.Pieces
import ContractScan.Proofs.Text.Trim
import ContractScan.Proofs.Mythril.CanonicalId
import ContractScan.Proofs.Command.RuleList

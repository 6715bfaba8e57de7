import ClassGroups.Text.LowerCase
import ClassGroups.Text.Word
import ClassGroups.Text.Identifier
import ClassGroups.Text.Numeral
import ClassGroups.Json.Printer
import ClassGroups.Json.Reader
import ClassGroups.Html.ReferenceNames
import ClassGroups.Options.Environment
import ClassGroups.Options.Definitions
import ClassGroups.Formatting
import ClassGroups.Interactive
import ClassGroups.Jsx.Lint
import ClassGroups.Html.Audit
import ClassGroups.Text.Utf8
import ClassGroups.Arguments.Basic
import ClassGroups.Arguments.Parser
import ClassGroups.Files.Tree
import ClassGroups.Command.Line
import ClassGroups.Command.Lint
import ClassGroups.Command.Audit
import ClassGroups.Main
import ClassGroups.Proofs.Partition
import ClassGroups.Proofs.Layout
import ClassGroups.Proofs.Settled
import ClassGroups.Proofs.Characters
import ClassGroups.Proofs.Scanning
import ClassGroups.Proofs.Lines
import ClassGroups.Proofs.Tokens
import ClassGroups.Proofs.Spacing
import ClassGroups.Proofs.ReadBack
import ClassGroups.Proofs.Jsx.Shape
import ClassGroups.Proofs.Jsx.Candidates
import ClassGroups.Proofs.Jsx.Sealed
import ClassGroups.Proofs.Jsx.Replacement
import ClassGroups.Proofs.Jsx.Findings
import ClassGroups.Proofs.Jsx.Refixing
import ClassGroups.Proofs.Jsx.Scans
import ClassGroups.Proofs.Jsx.Splicing
import ClassGroups.Proofs.Jsx.Overlap
import ClassGroups.Proofs.Jsx.Conservation
import ClassGroups.Proofs.Jsx.Quotes
import ClassGroups.Proofs.Arguments
import ClassGroups.Proofs.Decision
import ClassGroups.Proofs.Template
import ClassGroups.Proofs.Json.Scalars
import ClassGroups.Proofs.Json.Printed
import ClassGroups.Proofs.Mapping
import ClassGroups.Proofs.Names
import ClassGroups.Proofs.Files
import ClassGroups.Proofs.Access
import ClassGroups.Proofs.Lint.Runs
import ClassGroups.Proofs.Lint.Agreement
import ClassGroups.Proofs.Lint.Modes
import ClassGroups.Proofs.Overrides
import ClassGroups.Proofs.Pasting
import ClassGroups.Proofs.Encoding
import ClassGroups.Proofs.Lint.Rewriting
import ClassGroups.Proofs.Lint.Backups
import ClassGroups.Proofs.Lint.Sources
import ClassGroups.Proofs.Jsx.Enclosure
import ClassGroups.Proofs.Jsx.Reported
import ClassGroups.Proofs.Checked
import ClassGroups.Proofs.Jsx.Refusal
import ClassGroups.Proofs.Json.Stored
import ClassGroups.Proofs.Walks
import ClassGroups.Proofs.Audit.Reports
import ClassGroups.Proofs.Audit.Runs
import ClassGroups.Proofs.Classification
import ClassGroups.Proofs.Jsx.Sites
import ClassGroups.Proofs.Entries
import ClassGroups.Proofs.Marks
import ClassGroups.Proofs.Jsx.Quotation
import ClassGroups.Proofs.Jsx.Rewritten
import ClassGroups.Proofs.TokenSequence
import ClassGroups.Proofs.Regrouping
import ClassGroups.Proofs.Blocks
import ClassGroups.Proofs.Indentation
import ClassGroups.Proofs.Jsx.Names
import ClassGroups.Proofs.Filtering
import ClassGroups.Proofs.Jsx.Positions
import ClassGroups.Proofs.Choices
import ClassGroups.Proofs.Interchange

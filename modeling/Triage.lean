import Triage.Source.Reader
import Triage.Selection
import Triage.Report
import Triage.Document
import Triage.Json.Writer
import Triage.Json.Reader
import Triage.Page.Render
import Triage.Page.Script
import Triage.Yaml.Writer
import Triage.Yaml.Cell
import Triage.Yaml.Reader
import Triage.Datum.Likeness
import Triage.Text.Lower
import Triage.Failure
import Triage.Example
import Triage.Consultation
import Triage.Command.Folder
import Triage.Command.Run
import Triage.Tour
import Triage.Main
import Triage.Proofs.Expr.Chain
import Triage.Proofs.Source.RoundTrip
import Triage.Proofs.Source.Extraction
import Triage.Proofs.Datum.Names
import Triage.Proofs.Program.Named
import Triage.Proofs.Program.References
import Triage.Proofs.Report.Inventory
import Triage.Proofs.Expr.Outcomes
import Triage.Proofs.Source.Named
import Triage.Proofs.Source.Strict
import Triage.Proofs.Source.Faults
import Triage.Proofs.Source.Blocks
import Triage.Proofs.Selection
import Triage.Proofs.Page.Script
import Triage.Proofs.Source.Spacing
import Triage.Proofs.Json.RoundTrip
import Triage.Proofs.Yaml.RoundTrip
import Triage.Proofs.Report.Relevance
import Triage.Proofs.Report.Tidying
import Triage.Proofs.Json.Words
import Triage.Proofs.Page.Embedding
import Triage.Proofs.Page.Entity
import Triage.Proofs.Page.Faithful
import Triage.Proofs.Page.Sealed
import Triage.Proofs.Checked
import Triage.Proofs.Source.WellFormed
import Triage.Proofs.Shape
import Triage.Proofs.Command.Desk
import Triage.Proofs.Command.Folder
import Triage.Proofs.Command.Rendering
import Triage.Proofs.Command.Atomicity
import Triage.Proofs.Growth
import Triage.Proofs.Expr.Grammar
import Triage.Proofs.Json.Soften
import Triage.Proofs.Page.Payload
import Triage.Proofs.Source.Marks
import Triage.Proofs.Source.Decisive
import Triage.Proofs.Datum.Order
import Triage.Proofs.Expr.Measure
import Triage.Proofs.Report.Composition
import Triage.Proofs.Report.Tally
import Triage.Proofs.Report.Warnings
import Triage.Proofs.Text.Gaps
import Triage.Proofs.Page.Openings
import Triage.Proofs.Page.Rows
import Triage.Proofs.Page.Switching

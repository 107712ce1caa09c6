import CodeFlow.Text.Blank
import CodeFlow.Text.Search
import CodeFlow.Text.Table
import CodeFlow.Text.Digit
import CodeFlow.Text.Word
import CodeFlow.Text.Printable
import CodeFlow.Text.Lower
import CodeFlow.Text.NameChar
import CodeFlow.Text.Compatibility
import CodeFlow.Label
import CodeFlow.Ident
import CodeFlow.NameFilter
import CodeFlow.Dot.Statement
import CodeFlow.FlowText.Line
import CodeFlow.FlowText.Dot
import CodeFlow.FlowText.Mermaid
import CodeFlow.Decimal.Binary
import CodeFlow.Decimal.Shortest
import CodeFlow.Text.Quoted
import CodeFlow.Source.Constant
import CodeFlow.Source.Expr
import CodeFlow.Source.Stmt
import CodeFlow.Text.Newline
import CodeFlow.Text.CharName.Alias
import CodeFlow.Text.CharName.Early
import CodeFlow.Text.CharName.Middle
import CodeFlow.Text.CharName.Late
import CodeFlow.Text.CharName
import CodeFlow.Source.Token
import CodeFlow.Source.Number
import CodeFlow.Source.Lexer
import CodeFlow.Source.Literal
import CodeFlow.Source.Parser.Basic
import CodeFlow.Source.Parser.Formatted
import CodeFlow.Source.Parser.Expr
import CodeFlow.Source.Parser.Pattern
import CodeFlow.Source.Parser.Stmt
import CodeFlow.Source.Parser
import CodeFlow.Source.Piece
import CodeFlow.Source.Printer
import CodeFlow.Chart.Step
import CodeFlow.Chart.Build
import CodeFlow.Chart.Walk
import CodeFlow.Draws
import CodeFlow.SourceGraph
import CodeFlow.BraceGraph
import CodeFlow.Order
import CodeFlow.Files.Path
import CodeFlow.Files.Error
import CodeFlow.Files.Tree
import CodeFlow.Files.Access
import CodeFlow.Terminal
import CodeFlow.Service
import CodeFlow.Workspace
import CodeFlow.Rendering
import CodeFlow.Resource
import CodeFlow.Source.Imports
import CodeFlow.Dependency
import CodeFlow.Dot.Document
import CodeFlow.Value
import CodeFlow.Diagram
import CodeFlow.Selection
import CodeFlow.Job
import CodeFlow.Window.Controls
import CodeFlow.Window.Session
import CodeFlow.Window.Detect
import CodeFlow.Window.Run
import CodeFlow.Window.Operation
import CodeFlow.Proofs.Dot.Scan
import CodeFlow.Proofs.Label
import CodeFlow.Proofs.Ident
import CodeFlow.Proofs.Dot.Document
import CodeFlow.Proofs.BraceGraph
import CodeFlow.Proofs.Work
import CodeFlow.Proofs.Diagram
import CodeFlow.Proofs.Files.Path
import CodeFlow.Proofs.Job
import CodeFlow.Proofs.Window.Run
import CodeFlow.Proofs.Source.Imports
import CodeFlow.Proofs.Source.Parser
import CodeFlow.Proofs.Chart.Build
import CodeFlow.Proofs.Chart.Walk
import CodeFlow.Proofs.FlowText
import CodeFlow.Proofs.Chart.Text
import CodeFlow.Proofs.SourceGraph
import CodeFlow.Proofs.FlowText.Agreement
import CodeFlow.Proofs.Files.Tree
import CodeFlow.Proofs.Files.Write
import CodeFlow.Proofs.Selection
import CodeFlow.Proofs.Diagram.Blocks
import CodeFlow.Proofs.Files.Listing
import CodeFlow.Proofs.Files.Output
import CodeFlow.Proofs.Job.Sources
import CodeFlow.Proofs.Job.Invariant
import CodeFlow.Proofs.Job.Simulation
import CodeFlow.Proofs.Window.Invariant
import CodeFlow.Proofs.Window.Simulation
import CodeFlow.Proofs.Window.Log
import CodeFlow.Proofs.Window.Search
import CodeFlow.Proofs.Window.Frame
import CodeFlow.Proofs.Job.Turns
import CodeFlow.Proofs.Window.Turns
import CodeFlow.Proofs.Selection.Scan
import CodeFlow.Proofs.Text.Digit
import CodeFlow.Proofs.Window.Detect
import CodeFlow.Proofs.DepthFirst
import CodeFlow.Proofs.Dependency
import CodeFlow.Proofs.Label.Reading
import CodeFlow.Proofs.Text.Word
import CodeFlow.Proofs.FlowText.Reading
import CodeFlow.Proofs.FlowText.Renaming
import CodeFlow.Proofs.Rendering
import CodeFlow.Proofs.Diagram.Items
import CodeFlow.Proofs.Source.Printer
import CodeFlow.Proofs.BraceGraph.Nested
import CodeFlow.Proofs.BraceGraph.DeadEnds
import CodeFlow.Proofs.BraceGraph.Statements
import CodeFlow.Proofs.BraceGraph.Comments
import CodeFlow.Proofs.SourceGraph.Functions
import CodeFlow.Proofs.Chart.Success
import CodeFlow.Proofs.SourceGraph.Outside
import CodeFlow.Proofs.SourceGraph.Headers
import CodeFlow.Proofs.Dependency.Submodules
import CodeFlow.Proofs.Window.Modes
import CodeFlow.Proofs.Selection.LetterCase
import CodeFlow.Proofs.Window.LetterCase

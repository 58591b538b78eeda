import FlowBoard.Canvas
import FlowBoard.Cli.Arguments
import FlowBoard.Cli.Command
import FlowBoard.Cli.FileName
import FlowBoard.Cli.Help
import FlowBoard.Cli.PageChoice
import FlowBoard.Cli.Switch
import FlowBoard.Connector
import FlowBoard.Contents
import FlowBoard.EnvFile
import FlowBoard.Failure
import FlowBoard.Graph.Basic
import FlowBoard.Graph.File
import FlowBoard.Graph.Prune
import FlowBoard.Graph.Session
import FlowBoard.Graph.Stored
import FlowBoard.Http.Address
import FlowBoard.Http.Message
import FlowBoard.Ingested
import FlowBoard.Json.Basic
import FlowBoard.Json.Reader
import FlowBoard.Json.Writer
import FlowBoard.Keyed
import FlowBoard.Layout
import FlowBoard.Machine.Basic
import FlowBoard.Machine.FileSystem
import FlowBoard.Machine.Path
import FlowBoard.Main
import FlowBoard.Markup.Basic
import FlowBoard.Markup.NameTable
import FlowBoard.Markup.Reader
import FlowBoard.Markup.Scanner
import FlowBoard.Mermaid.Direction
import FlowBoard.Mermaid.Flowchart
import FlowBoard.Mermaid.Line
import FlowBoard.Mermaid.Text
import FlowBoard.Number.Basic
import FlowBoard.Number.Binary64
import FlowBoard.Number.Decimal
import FlowBoard.Number.Literal
import FlowBoard.Payload
import FlowBoard.Pipeline
import FlowBoard.Raster
import FlowBoard.Rendering
import FlowBoard.Settings
import FlowBoard.Source.Basic
import FlowBoard.Source.FileKey
import FlowBoard.Source.Local
import FlowBoard.Source.Remote
import FlowBoard.Text.Blank
import FlowBoard.Text.Case
import FlowBoard.Text.CaseTable
import FlowBoard.Text.Cut
import FlowBoard.Text.DigitTable
import FlowBoard.Text.Digits
import FlowBoard.Text.Hex
import FlowBoard.Text.Position
import FlowBoard.Text.StandIns
import FlowBoard.Text.PrintTable
import FlowBoard.Text.Quoted
import FlowBoard.Text.Ranges
import FlowBoard.Text.Utf8
import FlowBoard.Text.WordTable
import FlowBoard.Tree.Basic
import FlowBoard.Tree.Pages
import FlowBoard.Wire.Decoder
import FlowBoard.Wire.PageList
import FlowBoard.Wire.TreeFile
import FlowBoard.Wire.Violation
import FlowBoard.Proofs.Graph.Pruning
import FlowBoard.Proofs.Ingestion.Canonical
import FlowBoard.Proofs.Tree.FlatPage
import FlowBoard.Proofs.Mermaid.Blocks
import FlowBoard.Proofs.Mermaid.Text
import FlowBoard.Proofs.Mermaid.Direction
import FlowBoard.Proofs.Mermaid.Names
import FlowBoard.Proofs.Mermaid.Faithful
import FlowBoard.Proofs.Ingestion.Board
import FlowBoard.Proofs.Ingestion.Parity
import FlowBoard.Proofs.Ingestion.SourceOrder
import FlowBoard.Proofs.Ingestion.Fallback
import FlowBoard.Proofs.Number.Nearest
import FlowBoard.Proofs.Wire.Grammar
import FlowBoard.Proofs.Wire.Conformance
import FlowBoard.Proofs.Ingestion.Lossless
import FlowBoard.Proofs.Mermaid.Shapes
import FlowBoard.Proofs.Ingestion.MarkupParity
import FlowBoard.Proofs.Mermaid.Contained
import FlowBoard.Proofs.Mermaid.Outline
import FlowBoard.Proofs.Ingestion.Transcoded
import FlowBoard.Proofs.Number.Shortest
import FlowBoard.Proofs.Json.Numerals
import FlowBoard.Proofs.Json.Plain
import FlowBoard.Proofs.Json.Reread
import FlowBoard.Proofs.Graph.Saved
import FlowBoard.Proofs.Ingestion.Hints
import FlowBoard.Proofs.Machine.Kept
import FlowBoard.Proofs.Ingestion.Kept
import FlowBoard.Proofs.Cli.FailedRuns
import FlowBoard.Proofs.Machine.Twins
import FlowBoard.Proofs.Ingestion.Secrets
import FlowBoard.Proofs.Text.LineEnds
import FlowBoard.Proofs.Markup.Tokens
import FlowBoard.Proofs.Markup.LineEnds
import FlowBoard.Proofs.Json.Spelling
import FlowBoard.Proofs.Json.LineEnds
import FlowBoard.Proofs.Text.Utf8
import FlowBoard.Proofs.Ingestion.Routes
import FlowBoard.Proofs.Tree.Alike
import FlowBoard.Proofs.Tree.Containers
import FlowBoard.Proofs.Tree.Connectors
import FlowBoard.Proofs.Markup.Connectors
import FlowBoard.Proofs.Ingestion.Redrawn
import FlowBoard.Proofs.Cli.OnePage
import FlowBoard.Proofs.Wire.FirstFlaw
import FlowBoard.Proofs.Graph.Closure
import FlowBoard.Proofs.Wire.Records
import FlowBoard.Proofs.Wire.WrittenForm
import FlowBoard.Proofs.Wire.Restated
import FlowBoard.Proofs.Json.LongNumbers
import FlowBoard.Proofs.Ingestion.Reported
import FlowBoard.Proofs.Tree.Membership
import FlowBoard.Proofs.Mermaid.Settled
import FlowBoard.Proofs.Mermaid.Renamed
import FlowBoard.Proofs.Ingestion.Respaced
import FlowBoard.Proofs.Layout.Counting
import FlowBoard.Proofs.Number.Order
import FlowBoard.Proofs.Layout.Presentation
import FlowBoard.Proofs.Cli.PageChoice
import FlowBoard.Proofs.Machine.Directories
import FlowBoard.Proofs.Raster
import FlowBoard.Proofs.Tree.FirstText
import FlowBoard.Proofs.Source.KeySearch
import FlowBoard.Proofs.Cli.OutputNames

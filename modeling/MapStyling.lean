import MapStyling.Color.Css
import MapStyling.Color.Named
import MapStyling.Color.Table
import MapStyling.Color
import MapStyling.Decimal.Read
import MapStyling.Decimal.Shortest
import MapStyling.Decimal.Text
import MapStyling.Document
import MapStyling.Error
import MapStyling.Event
import MapStyling.Feature
import MapStyling.Filter
import MapStyling.Font
import MapStyling.Instruction
import MapStyling.Instruction.Pool
import MapStyling.Json
import MapStyling.Json.Parser
import MapStyling.Json.Printer
import MapStyling.Keyed
import MapStyling.Layer
import MapStyling.Layer.Compiled
import MapStyling.Layer.Prepared
import MapStyling.Memo
import MapStyling.Names
import MapStyling.Property
import MapStyling.PropertyFunction
import MapStyling.Resolver
import MapStyling.Resolver.Desk
import MapStyling.Resolver.Run
import MapStyling.Resolver.Snapshot
import MapStyling.Scalar
import MapStyling.Sheet
import MapStyling.Single
import MapStyling.Sketch
import MapStyling.Sketch.Drawn
import MapStyling.Sprite
import MapStyling.Sprite.Metadata
import MapStyling.Stops
import MapStyling.Template
import MapStyling.Text.Blank
import MapStyling.Text.Case
import MapStyling.Text.CaseTables
import MapStyling.Text.Hex
import MapStyling.Text.HiddenTable
import MapStyling.Text.Quoted
import MapStyling.Text.Words
import MapStyling.Text.Wrap
import MapStyling.Value
import MapStyling.Value.Compare
import MapStyling.Zoom
import MapStyling.Proofs.Ascending
import MapStyling.Proofs.Document
import MapStyling.Proofs.Exact
import MapStyling.Proofs.Extended
import MapStyling.Proofs.Filter.Algebra
import MapStyling.Proofs.Filter.Grammar
import MapStyling.Proofs.Filter.Relevance
import MapStyling.Proofs.Font.Descriptor
import MapStyling.Proofs.Instruction.Passes
import MapStyling.Proofs.Outputs
import MapStyling.Proofs.PropertyFunction.Arrays
import MapStyling.Proofs.PropertyFunction.Declaration
import MapStyling.Proofs.PropertyFunction.DeclaredOrder
import MapStyling.Proofs.PropertyFunction.TemplateNames
import MapStyling.Proofs.Reads
import MapStyling.Proofs.Resolver.Assembly
import MapStyling.Proofs.Resolver.Checked
import MapStyling.Proofs.Resolver.Drawing
import MapStyling.Proofs.Resolver.Fonts
import MapStyling.Proofs.Resolver.History
import MapStyling.Proofs.Resolver.Labels
import MapStyling.Proofs.Resolver.Opacity
import MapStyling.Proofs.Resolver.Protocol
import MapStyling.Proofs.Resolver.Provenance
import MapStyling.Proofs.Resolver.Relevance
import MapStyling.Proofs.Resolver.Selection
import MapStyling.Proofs.Resolver.Visibility
import MapStyling.Proofs.Sheet.Inlining
import MapStyling.Proofs.Sheet.Names
import MapStyling.Proofs.Sheet.Preparation
import MapStyling.Proofs.Sheet.Undeclared
import MapStyling.Proofs.Stops.Interpolation
import MapStyling.Proofs.Stops.Overflow
import MapStyling.Proofs.Tables
import MapStyling.Proofs.Template
import MapStyling.Proofs.Text.Case
import MapStyling.Proofs.Text.Lines
import MapStyling.Proofs.Text.Wrap
import MapStyling.Proofs.Value.Literal
import MapStyling.Proofs.Value.Loose
import MapStyling.Proofs.Value.Same
import MapStyling.Proofs.Wording
import MapStyling.Proofs.Zoom

import DocShape.Check.Action
import DocShape.Check.Bounded
import DocShape.Check.Choice
import DocShape.Check.Chooser
import DocShape.Check.Container
import DocShape.Check.Leaf
import DocShape.Check.Outcome
import DocShape.Check.Picker
import DocShape.Check.Scope
import DocShape.Check.Union
import DocShape.Editor.DocLookup
import DocShape.Editor.Settings
import DocShape.Editor.Signature
import DocShape.Finding
import DocShape.Json.Basic
import DocShape.Json.Reader
import DocShape.Json.Record
import DocShape.Json.Writer
import DocShape.Log
import DocShape.Message.Phrasebook
import DocShape.Message.Template
import DocShape.Pattern.Charset
import DocShape.Pattern.Charset.Table
import DocShape.Pattern.Engine
import DocShape.Pattern.Folding
import DocShape.Pattern.Footprint
import DocShape.Pattern.Footprint.Size
import DocShape.Pattern.Footprint.Spelled
import DocShape.Pattern.Footprint.Words
import DocShape.Pattern.Machine
import DocShape.Pattern.Property.Age
import DocShape.Pattern.Property.Boundary
import DocShape.Pattern.Property.Category
import DocShape.Pattern.Property.Derived
import DocShape.Pattern.Property.Given
import DocShape.Pattern.Property.Name
import DocShape.Pattern.Property.Script
import DocShape.Pattern.Regex
import DocShape.Pattern.Spelling
import DocShape.Pattern.Syntax.Bracket
import DocShape.Pattern.Syntax.Escape
import DocShape.Pattern.Syntax.Expression
import DocShape.Pattern.Syntax.Flags
import DocShape.Problem
import DocShape.Proofs.Alike
import DocShape.Proofs.BestAlternative
import DocShape.Proofs.Blind
import DocShape.Proofs.Completion
import DocShape.Proofs.Conformance
import DocShape.Proofs.Content
import DocShape.Proofs.Cutting
import DocShape.Proofs.Declarations
import DocShape.Proofs.DepthCounter
import DocShape.Proofs.DepthGuard
import DocShape.Proofs.DocPaths
import DocShape.Proofs.Documentation
import DocShape.Proofs.Entered
import DocShape.Proofs.FewerErrors
import DocShape.Proofs.Guard
import DocShape.Proofs.HalfWritten
import DocShape.Proofs.History
import DocShape.Proofs.Hovers
import DocShape.Proofs.Innermost
import DocShape.Proofs.Joint
import DocShape.Proofs.Keeps
import DocShape.Proofs.KeyUnderCursor
import DocShape.Proofs.Labels
import DocShape.Proofs.LinePlaces
import DocShape.Proofs.Loosened
import DocShape.Proofs.Lossless
import DocShape.Proofs.Markers
import DocShape.Proofs.MemberOrder
import DocShape.Proofs.Namespaces
import DocShape.Proofs.Nesting
import DocShape.Proofs.OneLine
import DocShape.Proofs.OwnTexts
import DocShape.Proofs.Places
import DocShape.Proofs.Provenance
import DocShape.Proofs.RecordFindings
import DocShape.Proofs.Redeclared
import DocShape.Proofs.Relay
import DocShape.Proofs.Remains
import DocShape.Proofs.Reordered
import DocShape.Proofs.Rerun
import DocShape.Proofs.RoundTrip
import DocShape.Proofs.Shares
import DocShape.Proofs.Slot
import DocShape.Proofs.Termination
import DocShape.Proofs.Trimmed
import DocShape.Proofs.Untried
import DocShape.Proofs.ValuesByKey
import DocShape.Proofs.Visit
import DocShape.Report
import DocShape.Schema.Basic
import DocShape.Schema.OpenRecord
import DocShape.Schema.Parts
import DocShape.Schema.Pattern
import DocShape.Schema.Record
import DocShape.Schema.Selector
import DocShape.Session
import DocShape.Setup
import DocShape.Table
import DocShape.Text.LineTable
import DocShape.Text.Position
import DocShape.Text.Span
import DocShape.Tree.Basic
import DocShape.Tree.Cursor
import DocShape.Tree.Expected
import DocShape.Tree.Number
import DocShape.Tree.Path
import DocShape.Walk
import DocShape.Written.Expected
import DocShape.Written.Finding
import DocShape.Written.Report
import DocShape.Written.TaggedNumber
import DocShape.Written.Tree

import Schemata.Command.Arguments
import Schemata.Command.File
import Schemata.Command.Run
import Schemata.Endpoint
import Schemata.Example.Basic
import Schemata.Example.Merge
import Schemata.Example.Numeric
import Schemata.Example.Text
import Schemata.Field.Lookup
import Schemata.Field.Path
import Schemata.Format.Basic
import Schemata.Format.Date
import Schemata.Json.Basic
import Schemata.Json.Decode
import Schemata.Json.Equality
import Schemata.Json.Pointer
import Schemata.Json.Printer
import Schemata.Json.Reader
import Schemata.Main
import Schemata.Net.Address
import Schemata.Net.HostName
import Schemata.Net.Punycode
import Schemata.Net.Url
import Schemata.Number.Basic
import Schemata.Number.Decimal
import Schemata.Number.Double
import Schemata.Options
import Schemata.Proofs.Example.Calls
import Schemata.Proofs.Example.Covered
import Schemata.Proofs.Example.Merged
import Schemata.Proofs.Example.Parts
import Schemata.Proofs.Example.Valid
import Schemata.Proofs.Json.Members
import Schemata.Proofs.Json.Names
import Schemata.Proofs.Json.Pointer
import Schemata.Proofs.Schema.Compile
import Schemata.Proofs.Schema.Equality
import Schemata.Proofs.Schema.Normal
import Schemata.Proofs.Schema.Render
import Schemata.Proofs.Schema.RoundTrip
import Schemata.Proofs.Validation.Depth
import Schemata.Proofs.Validation.Location
import Schemata.Proofs.Validation.Violations
import Schemata.Proofs.Validation.Visit
import Schemata.Regex.Basic
import Schemata.Regex.Elaborate
import Schemata.Regex.Error
import Schemata.Regex.Expr
import Schemata.Regex.Match
import Schemata.Regex.Parser
import Schemata.Regex.Size
import Schemata.Regex.Syntax
import Schemata.Report.Basic
import Schemata.Report.Decode
import Schemata.Report.Encode
import Schemata.Report.Hint
import Schemata.Schema.Bound
import Schemata.Schema.Compile
import Schemata.Schema.Count
import Schemata.Schema.Equality
import Schemata.Schema.Error
import Schemata.Schema.Kind
import Schemata.Schema.Node
import Schemata.Schema.Pattern
import Schemata.Schema.Render
import Schemata.Session
import Schemata.Text.Blank
import Schemata.Text.Quoted
import Schemata.Text.Split
import Schemata.Unicode.Age
import Schemata.Unicode.Binary
import Schemata.Unicode.CaseFolding
import Schemata.Unicode.Category
import Schemata.Unicode.CharSet
import Schemata.Unicode.Direction
import Schemata.Unicode.HostName
import Schemata.Unicode.Names
import Schemata.Unicode.Property
import Schemata.Unicode.Script
import Schemata.Unicode.ScriptExtension
import Schemata.Unicode.Segmentation
import Schemata.Validation.Basic
import Schemata.Validation.Check
import Schemata.Yaml.Block
import Schemata.Yaml.Cursor
import Schemata.Yaml.Document
import Schemata.Yaml.Error
import Schemata.Yaml.Event
import Schemata.Yaml.Folding
import Schemata.Yaml.Scalar
import Schemata.Yaml.Tag
import Schemata.Yaml.Token
import Schemata.Proofs.Json.Decode
import Schemata.Proofs.Report.RoundTrip
import Schemata.Proofs.Schema.Congruence
import Schemata.Proofs.Schema.Dialect
import Schemata.Proofs.Validation.Ignored
import Schemata.Proofs.Schema.Grammar
import Schemata.Proofs.Json.Position
import Schemata.Proofs.Json.Edit
import Schemata.Proofs.Json.Reorder
import Schemata.Proofs.Validation.Locality
import Schemata.Proofs.Field.Agreement
import Schemata.Proofs.Field.Search
import Schemata.Proofs.Field.Path
import Schemata.Proofs.Field.Resolve
import Schemata.Proofs.Field.Walk
import Schemata.Proofs.Validation.Reorder
import Schemata.Proofs.Command.Run
import Schemata.Proofs.Example.Required
import Schemata.Proofs.Example.Integer
import Schemata.Proofs.Schema.Fault
import Schemata.Proofs.Validation.Limit
import Schemata.Proofs.Example.Emit
import Schemata.Proofs.Example.Text
import Schemata.Proofs.Validation.Place
import Schemata.Proofs.Number.Equality
import Schemata.Proofs.Json.Equality
import Schemata.Proofs.Validation.Allowed
import Schemata.Proofs.Regex.Build
import Schemata.Proofs.Regex.Pieces
import Schemata.Proofs.Format.Pattern
import Schemata.Proofs.Validation.Fix
import Schemata.Proofs.Json.Sorted
import Schemata.Proofs.Validation.Bounds
import Schemata.Proofs.Example.Absorb
import Schemata.Proofs.Example.Nested
import Schemata.Proofs.Field.Joined
import Schemata.Proofs.Example.Nesting
import Schemata.Proofs.Example.Pruned
import Schemata.Proofs.Validation.Advice
import Schemata.Proofs.Text.Lower
import Schemata.Proofs.Validation.Warnings
import Schemata.Proofs.Validation.Record
import Schemata.Proofs.Endpoint.Content
import Schemata.Proofs.Endpoint.Response
import Schemata.Proofs.Endpoint.Lookup
import Schemata.Proofs.Example.Length
import Schemata.Proofs.Json.Token

import RouteCatalog.Auth
import RouteCatalog.Catalog
import RouteCatalog.Catalog.Reader
import RouteCatalog.Catalog.Writer
import RouteCatalog.Checked
import RouteCatalog.Command
import RouteCatalog.Command.Arguments
import RouteCatalog.Command.Run
import RouteCatalog.Comment
import RouteCatalog.Delimiter.Block
import RouteCatalog.Delimiter.Literal
import RouteCatalog.Delimiter.Nesting
import RouteCatalog.Delimiter.Scanner
import RouteCatalog.Delimiter.Split
import RouteCatalog.Handler
import RouteCatalog.Handler.Auth
import RouteCatalog.Handler.Declaration
import RouteCatalog.Handler.Description
import RouteCatalog.Handler.RateLimit
import RouteCatalog.Json.Quoted
import RouteCatalog.Json.Reader
import RouteCatalog.Json.Writer
import RouteCatalog.Keyed
import RouteCatalog.Layout
import RouteCatalog.Lenient
import RouteCatalog.Main
import RouteCatalog.Number.Arithmetic
import RouteCatalog.Number.Binary64
import RouteCatalog.Number.Decimal
import RouteCatalog.Number.Notation
import RouteCatalog.Number.Radix
import RouteCatalog.RateLimit
import RouteCatalog.Registry
import RouteCatalog.Report
import RouteCatalog.Route
import RouteCatalog.Sample.Random
import RouteCatalog.Sample.Twister
import RouteCatalog.Sample.Value
import RouteCatalog.Settings
import RouteCatalog.Shape
import RouteCatalog.Snippet
import RouteCatalog.Text.Base64
import RouteCatalog.Text.Basic
import RouteCatalog.Text.Blank
import RouteCatalog.Text.Cased
import RouteCatalog.Text.CodePoints
import RouteCatalog.Text.Digit
import RouteCatalog.Text.Lowercase
import RouteCatalog.Text.Printable
import RouteCatalog.Text.Quoted
import RouteCatalog.Text.Resemblance
import RouteCatalog.Text.Terminal
import RouteCatalog.Text.Uppercase
import RouteCatalog.Text.Utf8
import RouteCatalog.Text.Word
import RouteCatalog.Value
import RouteCatalog.Value.Show
import RouteCatalog.Workspace
import RouteCatalog.Workspace.Path
import RouteCatalog.Yaml.Collection
import RouteCatalog.Yaml.Cursor
import RouteCatalog.Yaml.Datum
import RouteCatalog.Yaml.Document
import RouteCatalog.Yaml.Fault
import RouteCatalog.Yaml.Moment
import RouteCatalog.Yaml.Node
import RouteCatalog.Yaml.Reading
import RouteCatalog.Yaml.Scalar
import RouteCatalog.Yaml.Tag
import RouteCatalog.Yaml.Token
import RouteCatalog.Proofs.Delimiter.Closed
import RouteCatalog.Proofs.Field
import RouteCatalog.Proofs.Part
import RouteCatalog.Proofs.Delimiter.Whole
import RouteCatalog.Proofs.CommentFree
import RouteCatalog.Proofs.Commented
import RouteCatalog.Proofs.Lexing
import RouteCatalog.Proofs.Handler.Documentation
import RouteCatalog.Proofs.Snippet.Naming
import RouteCatalog.Proofs.Snippet.Payload
import RouteCatalog.Proofs.Spacing
import RouteCatalog.Proofs.Entries
import RouteCatalog.Proofs.Layout.Fields
import RouteCatalog.Proofs.Declaration
import RouteCatalog.Proofs.Registry.Written
import RouteCatalog.Proofs.Auth.Dropped
import RouteCatalog.Proofs.Auth.RoundTrip
import RouteCatalog.Proofs.Catalog.RoundTrip
import RouteCatalog.Proofs.Registry.Insertion
import RouteCatalog.Proofs.Registry.Opening
import RouteCatalog.Proofs.Registry.Reading
import RouteCatalog.Proofs.Registry.RoundTrip
import RouteCatalog.Proofs.Sample.Conformance
import RouteCatalog.Proofs.Command.Documented
import RouteCatalog.Proofs.Route
import RouteCatalog.Proofs.Handler.Shared
import RouteCatalog.Proofs.Settings.Explained
import RouteCatalog.Proofs.Layout.Idempotent
import RouteCatalog.Proofs.Layout.Tokens
import RouteCatalog.Proofs.Layout.Indentation
import RouteCatalog.Proofs.Command.Reported
import RouteCatalog.Proofs.Shape.Rendering
import RouteCatalog.Proofs.Shape.SingleBlock
import RouteCatalog.Proofs.Shape.TypeArguments
import RouteCatalog.Proofs.Sample.Fuel
import RouteCatalog.Proofs.Sample.Requests
import RouteCatalog.Proofs.Sample.ArrayNotation
import RouteCatalog.Proofs.Sample.BlankBranches
import RouteCatalog.Proofs.Delimiter.Decomposition
import RouteCatalog.Proofs.Delimiter.Nested
import RouteCatalog.Proofs.Delimiter.Escapes
import RouteCatalog.Proofs.Auth.Backticks
import RouteCatalog.Proofs.Uncommented
import RouteCatalog.Proofs.Catalog.Latest
import RouteCatalog.Proofs.Shape.Agreement
import RouteCatalog.Proofs.Delimiter.Pairing

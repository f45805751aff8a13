import Waymark.Condition
import Waymark.Decimal.Binary64
import Waymark.Decimal.Shortest
import Waymark.Dict
import Waymark.Error
import Waymark.Inspect
import Waymark.Json.Document
import Waymark.Json.Printer
import Waymark.Json.Value
import Waymark.Options.Basic
import Waymark.Options.Decode
import Waymark.Proofs.Dict
import Waymark.Proofs.Json.Equality
import Waymark.Proofs.Json.Ordered
import Waymark.Proofs.Options.Fields
import Waymark.Proofs.Query.Pieces
import Waymark.Proofs.Query.RoundTrip
import Waymark.Proofs.Regex.Fragment
import Waymark.Proofs.Regex.Locality.Class
import Waymark.Proofs.Regex.Locality.Escape
import Waymark.Proofs.Regex.Locality.Group
import Waymark.Proofs.Regex.Nesting
import Waymark.Proofs.Regex.Preference
import Waymark.Proofs.Regex.Sequence
import Waymark.Proofs.Regex.Spans
import Waymark.Proofs.Route.Admission
import Waymark.Proofs.Route.Construction
import Waymark.Proofs.Route.Defaulted
import Waymark.Proofs.Route.EndSlash
import Waymark.Proofs.Route.Listed
import Waymark.Proofs.Route.Parts
import Waymark.Proofs.Route.Precedence
import Waymark.Proofs.Route.Reading
import Waymark.Proofs.Route.Reserved
import Waymark.Proofs.Route.Restoring
import Waymark.Proofs.Route.RoundTrip
import Waymark.Proofs.Route.SingleParam
import Waymark.Proofs.Route.Straying
import Waymark.Proofs.Route.Tail
import Waymark.Proofs.Route.Verdict
import Waymark.Proofs.Router.Order
import Waymark.Proofs.Template.Agreement
import Waymark.Proofs.Template.Canonical
import Waymark.Proofs.Template.Composition
import Waymark.Proofs.Template.Confinement
import Waymark.Proofs.Template.Expansion
import Waymark.Proofs.Template.Expression
import Waymark.Proofs.Template.Groups
import Waymark.Proofs.Template.Leaves
import Waymark.Proofs.Template.Placeholders
import Waymark.Proofs.Template.Reading
import Waymark.Proofs.Template.Scan
import Waymark.Proofs.Template.Tokens
import Waymark.Query.Codec
import Waymark.Query.Percent
import Waymark.Regex.Ast
import Waymark.Regex.Basic
import Waymark.Regex.Capacity
import Waymark.Regex.CharSet
import Waymark.Regex.Error
import Waymark.Regex.Estimate
import Waymark.Regex.Expr
import Waymark.Regex.Meaning
import Waymark.Regex.Parse.Basic
import Waymark.Regex.Parse.Class
import Waymark.Regex.Parse.Escape
import Waymark.Regex.Parse.Group
import Waymark.Regex.Plan
import Waymark.Regex.Property
import Waymark.Regex.Search
import Waymark.Request
import Waymark.Route.Basic
import Waymark.Route.Read
import Waymark.Route.Write
import Waymark.Router
import Waymark.Template.Expand
import Waymark.Template.Matcher
import Waymark.Template.Node
import Waymark.Template.Parse
import Waymark.Toml.Reader
import Waymark.Toml.Scalar
import Waymark.Toml.Table
import Waymark.Unicode.Age
import Waymark.Unicode.Break
import Waymark.Unicode.Category
import Waymark.Unicode.Folding
import Waymark.Unicode.Property
import Waymark.Unicode.Script
import Waymark.Unicode.Table
import Waymark.Proofs.Template.Unclosed
import Waymark.Proofs.Query.Decoding
import Waymark.Proofs.Route.AllowedValues
import Waymark.Proofs.Query.Joined
import Waymark.Proofs.Template.Written
import Waymark.Proofs.Unicode.Ascii
import Waymark.Proofs.Regex.Alike
import Waymark.Proofs.Template.Blame
import Waymark.Proofs.Template.Readable
import Waymark.Proofs.Route.Unconditioned
import Waymark.Proofs.Regex.AsciiMode
import Waymark.Proofs.Template.AsciiMode
import Waymark.Proofs.Template.Dependents
import Waymark.Proofs.Template.Enclosed

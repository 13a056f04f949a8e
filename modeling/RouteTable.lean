import RouteTable.Arguments
import RouteTable.Config.Basic
import RouteTable.Config.File
import RouteTable.Config.NameMap
import RouteTable.Config.Reader
import RouteTable.Error
import RouteTable.Host
import RouteTable.Path
import RouteTable.Proofs.Folding
import RouteTable.Proofs.Occurrence
import RouteTable.Proofs.Regex.Passage
import RouteTable.Regex.Alternation
import RouteTable.Regex.Ast
import RouteTable.Regex.Basic
import RouteTable.Regex.ClassReader
import RouteTable.Regex.Escape
import RouteTable.Regex.Meaning
import RouteTable.Regex.Program
import RouteTable.Regex.Reader
import RouteTable.Regex.Search
import RouteTable.Regex.Spacing
import RouteTable.Request
import RouteTable.Route.Basic
import RouteTable.Route.Generate
import RouteTable.Route.Match
import RouteTable.Router.Basic
import RouteTable.Router.Dispatch
import RouteTable.Router.Generate
import RouteTable.Router.Session
import RouteTable.Slug
import RouteTable.Template.Basic
import RouteTable.Template.Requirement
import RouteTable.Template.Scan
import RouteTable.Text.Basic
import RouteTable.Text.Percent
import RouteTable.Text.Quoted
import RouteTable.Text.Rest
import RouteTable.Toml.Document
import RouteTable.Toml.Quoted
import RouteTable.Toml.Reader
import RouteTable.Toml.Scalar
import RouteTable.Toml.Value
import RouteTable.Unicode.Age
import RouteTable.Unicode.Binary
import RouteTable.Unicode.Break
import RouteTable.Unicode.CaseFolding
import RouteTable.Unicode.Category
import RouteTable.Unicode.CharSet
import RouteTable.Unicode.Character
import RouteTable.Unicode.Decomposition
import RouteTable.Unicode.Group
import RouteTable.Unicode.Lowercase
import RouteTable.Unicode.Property
import RouteTable.Unicode.Ranges
import RouteTable.Unicode.Script
import RouteTable.Unicode.Span
import RouteTable.Proofs.Regex.Program
import RouteTable.Proofs.Regex.Search
import RouteTable.Proofs.Regex.ClassReader
import RouteTable.Proofs.Regex.Reader
import RouteTable.Proofs.Regex.Meaning
import RouteTable.Proofs.Regex.Compile
import RouteTable.Proofs.Path
import RouteTable.Proofs.Template.Scan
import RouteTable.Proofs.Slug
import RouteTable.Proofs.Template.Reading
import RouteTable.Proofs.Route.Matcher
import RouteTable.Proofs.Arguments
import RouteTable.Proofs.Route.Built
import RouteTable.Proofs.Route.Language
import RouteTable.Proofs.Route.Generation
import RouteTable.Proofs.Template.Shape
import RouteTable.Proofs.Route.RoundTrip
import RouteTable.Proofs.Router.Registry
import RouteTable.Proofs.Template.Grammar
import RouteTable.Proofs.Route.Consistent
import RouteTable.Proofs.Router.Dispatch
import RouteTable.Proofs.Router.SelfLink
import RouteTable.Proofs.Regex.Locality
import RouteTable.Proofs.Regex.Nesting
import RouteTable.Proofs.Regex.Uses
import RouteTable.Proofs.Regex.Capture
import RouteTable.Proofs.Regex.Wrapped
import RouteTable.Proofs.Route.Agreement
import RouteTable.Proofs.Route.Outcome
import RouteTable.Proofs.Router.OrderedMap
import RouteTable.Proofs.Router.Resolution
import RouteTable.Proofs.Router.Confinement
import RouteTable.Proofs.Router.Clients
import RouteTable.Proofs.Route.Checked
import RouteTable.Proofs.Router.Configured
import RouteTable.Proofs.Router.Extension
import RouteTable.Proofs.Host
import RouteTable.Proofs.Router.HostLink
import RouteTable.Proofs.Regex.NormalForm
import RouteTable.Proofs.Route.Layering
import RouteTable.Proofs.Route.Accepted
import RouteTable.Proofs.Route.Binding
import RouteTable.Proofs.Lowercase
import RouteTable.Proofs.Slug.Runs
import RouteTable.Proofs.Slug.Case
import RouteTable.Proofs.Route.Slugs
import RouteTable.Proofs.Ranges
import RouteTable.Proofs.Caseless
import RouteTable.Proofs.Regex.Growth
import RouteTable.Proofs.Regex.Caseless
import RouteTable.Proofs.Regex.Remainder
import RouteTable.Proofs.Regex.Spelling
import RouteTable.Proofs.Regex.Lowering
import RouteTable.Proofs.Route.Caseless
import RouteTable.Proofs.Percent
import RouteTable.Proofs.Route.Location
import RouteTable.Proofs.Route.Containment
import RouteTable.Proofs.Route.Query
import RouteTable.Proofs.Route.HostGate
import RouteTable.Proofs.Path.Canonical
import RouteTable.Proofs.Path.Spelling
import RouteTable.Proofs.Route.Authority
import RouteTable.Proofs.Route.Defaults
import RouteTable.Proofs.Alike
import RouteTable.Proofs.Arguments.History
import RouteTable.Proofs.Ascii
import RouteTable.Proofs.Regex.Locality.Blanks
import RouteTable.Proofs.Regex.Locality.Bounds
import RouteTable.Proofs.Regex.Locality.Class
import RouteTable.Proofs.Regex.Locality.Escape
import RouteTable.Proofs.Regex.Locality.Item
import RouteTable.Proofs.Regex.Locality.Opening
import RouteTable.Proofs.Regex.Token
import RouteTable.Proofs.Regex.Units
import RouteTable.Proofs.Route.Recapture
import RouteTable.Proofs.Route.Woven
import RouteTable.Proofs.Route.MatchShape
import RouteTable.Proofs.Route.Overrides
import RouteTable.Proofs.Router.Reordered
import RouteTable.Proofs.Template.Inline
import RouteTable.Proofs.Route.Inline
import RouteTable.Proofs.Template.Escape
import RouteTable.Proofs.Template.Refusal

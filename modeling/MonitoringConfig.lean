import MonitoringConfig.Builder.Arguments
import MonitoringConfig.Builder.Expr
import MonitoringConfig.Builder.Operator
import MonitoringConfig.Builder.Relabel
import MonitoringConfig.Builder.Routing
import MonitoringConfig.Builder.Scalar
import MonitoringConfig.Builder.Server
import MonitoringConfig.Calendar.Date
import MonitoringConfig.Calendar.Interval
import MonitoringConfig.Calendar.Zone
import MonitoringConfig.Catalogue
import MonitoringConfig.Choice
import MonitoringConfig.Dashboard.Grid
import MonitoringConfig.Dashboard.Write
import MonitoringConfig.Document
import MonitoringConfig.Duration
import MonitoringConfig.Failure
import MonitoringConfig.Files.Disk
import MonitoringConfig.Files.Path
import MonitoringConfig.Files.Save
import MonitoringConfig.Json.Read
import MonitoringConfig.Json.Write
import MonitoringConfig.Kind
import MonitoringConfig.Logged
import MonitoringConfig.Logging
import MonitoringConfig.Matcher
import MonitoringConfig.Method
import MonitoringConfig.Method.Basic
import MonitoringConfig.Method.Entity
import MonitoringConfig.Method.Expr
import MonitoringConfig.Method.Scalar
import MonitoringConfig.Number.Binary64
import MonitoringConfig.Number.Shortest
import MonitoringConfig.Number.Text
import MonitoringConfig.Operator.Conversion
import MonitoringConfig.Pattern.Basic
import MonitoringConfig.Pattern.Match
import MonitoringConfig.Pattern.Read
import MonitoringConfig.Pattern.Token
import MonitoringConfig.Projection.Read
import MonitoringConfig.Projection.Wire
import MonitoringConfig.Projection.Write
import MonitoringConfig.Promql.Expr
import MonitoringConfig.Promql.Operator
import MonitoringConfig.Promql.Scalar
import MonitoringConfig.Promql.Text
import MonitoringConfig.Proofs.Building
import MonitoringConfig.Proofs.Calendar.Instant
import MonitoringConfig.Proofs.Calendar.Interval
import MonitoringConfig.Proofs.Calendar.Malformed
import MonitoringConfig.Proofs.Calendar.Preset
import MonitoringConfig.Proofs.Calendar.Reading
import MonitoringConfig.Proofs.Dashboard.Layout
import MonitoringConfig.Proofs.Duration
import MonitoringConfig.Proofs.Duration.Grammar
import MonitoringConfig.Proofs.Duration.Reading
import MonitoringConfig.Proofs.Duration.Span
import MonitoringConfig.Proofs.Matcher
import MonitoringConfig.Proofs.Matcher.Grammar
import MonitoringConfig.Proofs.Matcher.Reading
import MonitoringConfig.Proofs.Number.Exact
import MonitoringConfig.Proofs.Number.Nearest
import MonitoringConfig.Proofs.Number.Shortest
import MonitoringConfig.Proofs.Number.Text
import MonitoringConfig.Proofs.Operator.Alternative
import MonitoringConfig.Proofs.Operator.Channel
import MonitoringConfig.Proofs.Operator.Converted
import MonitoringConfig.Proofs.Operator.Credential
import MonitoringConfig.Proofs.Operator.Envelope
import MonitoringConfig.Proofs.Operator.Globals
import MonitoringConfig.Proofs.Operator.Handling
import MonitoringConfig.Proofs.Operator.Inhibition
import MonitoringConfig.Proofs.Operator.Key
import MonitoringConfig.Proofs.Operator.Resource
import MonitoringConfig.Proofs.Operator.Rules
import MonitoringConfig.Proofs.Operator.Secrecy
import MonitoringConfig.Proofs.Operator.Selector
import MonitoringConfig.Proofs.Operator.Settings
import MonitoringConfig.Proofs.Pattern.Scan
import MonitoringConfig.Proofs.Projection.Coercion
import MonitoringConfig.Proofs.Projection.Document
import MonitoringConfig.Proofs.Projection.Fault
import MonitoringConfig.Proofs.Projection.Fields
import MonitoringConfig.Proofs.Projection.Making
import MonitoringConfig.Proofs.Projection.Order
import MonitoringConfig.Proofs.Projection.Plain
import MonitoringConfig.Proofs.Projection.Reading
import MonitoringConfig.Proofs.Projection.Reread
import MonitoringConfig.Proofs.Projection.RoundTrip
import MonitoringConfig.Proofs.Promql.Agreement
import MonitoringConfig.Proofs.Promql.Arithmetic
import MonitoringConfig.Proofs.Promql.Grouping
import MonitoringConfig.Proofs.Promql.Modifier
import MonitoringConfig.Proofs.Promql.Quoted
import MonitoringConfig.Proofs.Promql.Render
import MonitoringConfig.Proofs.Promql.Token
import MonitoringConfig.Proofs.Routing.Alert
import MonitoringConfig.Proofs.Routing.Continuation
import MonitoringConfig.Proofs.Routing.Handling
import MonitoringConfig.Proofs.Routing.Inheritance
import MonitoringConfig.Proofs.Routing.Inhibition
import MonitoringConfig.Proofs.Routing.Mention
import MonitoringConfig.Proofs.Routing.Reference
import MonitoringConfig.Proofs.Routing.Resolution
import MonitoringConfig.Proofs.Routing.Tree
import MonitoringConfig.Proofs.Server.Jobs
import MonitoringConfig.Proofs.Server.Relabel
import MonitoringConfig.Proofs.Text.Blank
import MonitoringConfig.Proofs.Typing
import MonitoringConfig.Reading
import MonitoringConfig.Recipe
import MonitoringConfig.Routing.Check
import MonitoringConfig.Routing.Inhibition
import MonitoringConfig.Routing.Labels
import MonitoringConfig.Routing.Route
import MonitoringConfig.Schema
import MonitoringConfig.Schema.Basic
import MonitoringConfig.Schema.Dashboard
import MonitoringConfig.Schema.Operator
import MonitoringConfig.Schema.Routing
import MonitoringConfig.Schema.Sample
import MonitoringConfig.Schema.Server
import MonitoringConfig.Schema.Web
import MonitoringConfig.Secret
import MonitoringConfig.Server.Check
import MonitoringConfig.Settings
import MonitoringConfig.Text.Base64
import MonitoringConfig.Text.Blank
import MonitoringConfig.Text.Case
import MonitoringConfig.Text.Case.Table
import MonitoringConfig.Text.Digit
import MonitoringConfig.Text.Integer
import MonitoringConfig.Text.Printable
import MonitoringConfig.Text.Printable.Table
import MonitoringConfig.Text.Quoted
import MonitoringConfig.Text.Ranges
import MonitoringConfig.Text.Word
import MonitoringConfig.Text.Word.Table
import MonitoringConfig.TimeSpan
import MonitoringConfig.Value
import MonitoringConfig.Value.Order
import MonitoringConfig.Value.Text
import MonitoringConfig.Yaml.Cursor
import MonitoringConfig.Yaml.Implicit
import MonitoringConfig.Yaml.Layout
import MonitoringConfig.Yaml.Meaning
import MonitoringConfig.Yaml.Node
import MonitoringConfig.Yaml.OfTokens
import MonitoringConfig.Yaml.OfValue
import MonitoringConfig.Yaml.ToValue
import MonitoringConfig.Yaml.Token
import MonitoringConfig.Yaml.Token.Lexer
import MonitoringConfig.Yaml.Token.Scalar
import MonitoringConfig.Yaml.Write

import TypedPath.Item
import TypedPath.Main
import TypedPath.Validator.Plain
import TypedPath.Proofs.Text.Utf8
import TypedPath.Proofs.Text.Percent
import TypedPath.Proofs.Pattern.Bindings
import TypedPath.Proofs.Pattern.Built
import TypedPath.Proofs.Pattern.Filling
import TypedPath.Proofs.Pattern.RoundTrip
import TypedPath.Proofs.Number.WholeNumber
import TypedPath.Proofs.Number.Decimal
import TypedPath.Proofs.Scalar.Uuid
import TypedPath.Proofs.Scalar.Moment
import TypedPath.Proofs.Scalar.Timestamp
import TypedPath.Proofs.Schema.Scalar
import TypedPath.Proofs.Value.Keyed
import TypedPath.Proofs.Schema.Plain
import TypedPath.Proofs.Validator.Stringify
import TypedPath.Proofs.Pattern.Omission
import TypedPath.Proofs.Route.Basic
import TypedPath.Proofs.Route.RoundTrip
import TypedPath.Proofs.Route.Session
import TypedPath.Proofs.Validator.Merge
import TypedPath.Proofs.Validator.Own
import TypedPath.Proofs.Validator.Joined
import TypedPath.Proofs.Route.Extension
import TypedPath.Proofs.Pattern.Specialization
import TypedPath.Proofs.Pattern.SpecializedMatching
import TypedPath.Proofs.Pattern.Concatenation
import TypedPath.Proofs.Validator.Overlap
import TypedPath.Proofs.Validator.Bracketing
import TypedPath.Proofs.Pattern.Choice
import TypedPath.Proofs.Schema.Telling
import TypedPath.Proofs.Schema.Locality
import TypedPath.Proofs.Validator.Separate
import TypedPath.Proofs.Route.Parsing
import TypedPath.Proofs.Validator.Repetition
import TypedPath.Proofs.Route.Chain
import TypedPath.Proofs.Schema.Relaxed
import TypedPath.Proofs.Route.Completion
import TypedPath.Proofs.Pattern.Canonical
import TypedPath.Proofs.Pattern.Cache
import TypedPath.Proofs.Route.Recency
import TypedPath.Proofs.Route.Formatting
import TypedPath.Proofs.CommandLine.Terminal
import TypedPath.Proofs.CommandLine.Json
import TypedPath.Proofs.CommandLine.Assignments
import TypedPath.Proofs.CommandLine.Commands
import TypedPath.Proofs.Text.StrictUtf8
import TypedPath.Proofs.Text.Unescaping
import TypedPath.Proofs.Text.CanonicalComponent
import TypedPath.Proofs.Pattern.Normalization
import TypedPath.Proofs.Route.ExplicitNone
import TypedPath.Proofs.Pattern.LongestFront
import TypedPath.Proofs.Pattern.Layout
import TypedPath.Proofs.Pattern.NormalForm
import TypedPath.Proofs.Schema.Findings
import TypedPath.Proofs.Schema.Missing
import TypedPath.Proofs.Schema.RecordFree
import TypedPath.Proofs.Validator.Remaining
import TypedPath.Proofs.Validator.Restriction
import TypedPath.Proofs.Pattern.Residue
import TypedPath.Proofs.Validator.Projection
import TypedPath.Proofs.Value.Sameness
import TypedPath.Proofs.Schema.Outline
import TypedPath.Proofs.Schema.Literal
import TypedPath.Proofs.Schema.Parts
import TypedPath.Proofs.Schema.Named
import TypedPath.Proofs.Schema.Rereading
import TypedPath.Proofs.Schema.Settling
import TypedPath.Proofs.Validator.Idempotence

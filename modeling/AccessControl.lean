import AccessControl.AccessRequest
import AccessControl.AccessType
import AccessControl.Attribute.Comparison
import AccessControl.Attribute.Reference
import AccessControl.Attribute.Traced
import AccessControl.Attribute.Value
import AccessControl.AuthError
import AccessControl.CommandLine.Arguments
import AccessControl.CommandLine.Run
import AccessControl.CommandLine.Usage
import AccessControl.Condition.Basic
import AccessControl.Condition.Evaluation
import AccessControl.Condition.Wellformed
import AccessControl.Config.Basic
import AccessControl.Config.Environment
import AccessControl.Config.File
import AccessControl.Config.Sources
import AccessControl.Decimal.Basic
import AccessControl.Decimal.Layout
import AccessControl.Decimal.Scaling
import AccessControl.Decimal.Shortest
import AccessControl.Effect
import AccessControl.Entity.Actuator
import AccessControl.Entity.Basic
import AccessControl.Entity.Device
import AccessControl.Entity.Error
import AccessControl.Entity.Operator
import AccessControl.Entity.Sensor
import AccessControl.Fixture
import AccessControl.Guard
import AccessControl.Id
import AccessControl.Json.Basic
import AccessControl.Json.Fields
import AccessControl.Json.Lexeme
import AccessControl.Json.Reader
import AccessControl.Json.Writer
import AccessControl.Keyed
import AccessControl.Main
import AccessControl.NameMap
import AccessControl.Page
import AccessControl.Policy
import AccessControl.PolicyCheck
import AccessControl.PolicyStore
import AccessControl.Principal
import AccessControl.Proofs.Attribute.Equality
import AccessControl.Proofs.Attribute.Order
import AccessControl.Proofs.Codec.Condition
import AccessControl.Proofs.Codec.Entity
import AccessControl.Proofs.Codec.Export
import AccessControl.Proofs.Codec.Faithful
import AccessControl.Proofs.Codec.Fields
import AccessControl.Proofs.Codec.Grammar
import AccessControl.Proofs.Codec.Header
import AccessControl.Proofs.Codec.Identifier
import AccessControl.Proofs.Codec.Policy
import AccessControl.Proofs.Codec.Rereading
import AccessControl.Proofs.Codec.Text
import AccessControl.Proofs.Condition.Abandonment
import AccessControl.Proofs.Condition.Deciding
import AccessControl.Proofs.Condition.Depth
import AccessControl.Proofs.Condition.FirstFault
import AccessControl.Proofs.Condition.Lookups
import AccessControl.Proofs.Condition.Meaning
import AccessControl.Proofs.Condition.Monotone
import AccessControl.Proofs.Condition.Negation
import AccessControl.Proofs.Condition.Parts
import AccessControl.Proofs.Condition.References
import AccessControl.Proofs.Condition.Validated
import AccessControl.Proofs.Config.Layering
import AccessControl.Proofs.Config.Setting
import AccessControl.Proofs.Decimal.Fields
import AccessControl.Proofs.Decimal.Magnitude
import AccessControl.Proofs.Decimal.Order
import AccessControl.Proofs.Effect.Extent
import AccessControl.Proofs.Effect.Order
import AccessControl.Proofs.Effect.Path
import AccessControl.Proofs.Effect.Position
import AccessControl.Proofs.Effect.Redaction
import AccessControl.Proofs.Entity.View
import AccessControl.Proofs.Fixture.Acceptance
import AccessControl.Proofs.Fixture.Answer
import AccessControl.Proofs.Fixture.Merging
import AccessControl.Proofs.Guard.Allowance
import AccessControl.Proofs.Guard.Attached
import AccessControl.Proofs.Guard.Decision
import AccessControl.Proofs.Guard.Filtering
import AccessControl.Proofs.Guard.Relevance
import AccessControl.Proofs.Guard.Verdict
import AccessControl.Proofs.Guard.Withholding
import AccessControl.Proofs.Json.Lexing
import AccessControl.Proofs.Json.Number
import AccessControl.Proofs.Json.Parsing
import AccessControl.Proofs.Json.RoundTrip
import AccessControl.Proofs.Json.Structure
import AccessControl.Proofs.Outcome
import AccessControl.Proofs.Page.Partition
import AccessControl.Proofs.PolicyCheck.Loading
import AccessControl.Proofs.PolicyStore.Consistency
import AccessControl.Proofs.PolicyStore.Listing
import AccessControl.Proofs.PolicyStore.Ownership
import AccessControl.Proofs.PolicyStore.Retention
import AccessControl.Proofs.PolicyStore.Run
import AccessControl.Proofs.Repository.Content
import AccessControl.Proofs.Repository.History
import AccessControl.Proofs.Service.Access
import AccessControl.Proofs.Service.Creation
import AccessControl.Proofs.Service.Deletion
import AccessControl.Proofs.Service.Hooks
import AccessControl.Proofs.Sorting
import AccessControl.Proofs.Text.Parts
import AccessControl.Proofs.World.Changes
import AccessControl.Proofs.World.Disappearance
import AccessControl.Proofs.World.Failure
import AccessControl.Proofs.World.Listing
import AccessControl.Proofs.World.Reading
import AccessControl.Proofs.World.References
import AccessControl.Proofs.World.Run
import AccessControl.Proofs.World.Soundness
import AccessControl.Proofs.World.Writes
import AccessControl.Repository
import AccessControl.Resource
import AccessControl.Text.Blank
import AccessControl.Text.CaseTable
import AccessControl.Text.Hex
import AccessControl.Text.Lowercase
import AccessControl.Text.Order
import AccessControl.Text.Terminal
import AccessControl.Toml.Basic
import AccessControl.Toml.Number
import AccessControl.Toml.Reader
import AccessControl.Toml.Text
import AccessControl.Word
import AccessControl.World.Basic
import AccessControl.World.Lifecycle
import AccessControl.World.Service

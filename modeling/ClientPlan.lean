import ClientPlan.Config.File
import ClientPlan.Json.Reader
import ClientPlan.Plan.Json
import ClientPlan.Plan.OfDocument
import ClientPlan.Proofs.Api.Integrity
import ClientPlan.Proofs.Model.DepthLimit
import ClientPlan.Proofs.Parser.Discipline
import ClientPlan.Proofs.Model.Merging
import ClientPlan.Proofs.Parser.Dialects
import ClientPlan.Proofs.Model.Twins
import ClientPlan.Proofs.Parser.Termination
import ClientPlan.Proofs.Model.Accounts
import ClientPlan.Proofs.Imports.ModulePath
import ClientPlan.Proofs.Naming.Distinct
import ClientPlan.Proofs.Descriptor.Parts
import ClientPlan.Proofs.Descriptor.OfModel
import ClientPlan.Proofs.Imports.Planner
import ClientPlan.Proofs.Plan.Linking
import ClientPlan.Proofs.Plan.Files
import ClientPlan.Proofs.Api.Groups
import ClientPlan.Proofs.Plan.Mentions
import ClientPlan.Proofs.Plan.Paths
import ClientPlan.Proofs.Plan.Bindings
import ClientPlan.Proofs.Imports.Relative
import ClientPlan.Proofs.Imports.Block
import ClientPlan.Proofs.Plan.Printed
import ClientPlan.Proofs.Imports.Runs
import ClientPlan.Proofs.Imports.Separation
import ClientPlan.Proofs.Api.Grouping
import ClientPlan.Proofs.Plan.Endpoints
import ClientPlan.Proofs.Plan.OwnPaths
import ClientPlan.Proofs.Json.Record
import ClientPlan.Proofs.Json.Restoring
import ClientPlan.Proofs.Json.Follow
import ClientPlan.Proofs.Document.Node
import ClientPlan.Proofs.Document.RoundTrip
import ClientPlan.Proofs.Json.Spot
import ClientPlan.Proofs.Document.Place
import ClientPlan.Proofs.Api.Override
import ClientPlan.Proofs.Model.References
import ClientPlan.Proofs.Api.Placement
import ClientPlan.Proofs.Model.Raised
import ClientPlan.Proofs.Descriptor.Normal
import ClientPlan.Proofs.Plan.Nulls
import ClientPlan.Proofs.Descriptor.Envelope
import ClientPlan.Proofs.Api.ByName
import ClientPlan.Proofs.Document.Choice
import ClientPlan.Proofs.Api.Success
import ClientPlan.Proofs.Naming.FirstNames
import ClientPlan.Proofs.Naming.Numbering
import ClientPlan.Proofs.Plan.MethodNames
import ClientPlan.Proofs.Api.Parameters
import ClientPlan.Proofs.Api.Mappings
import ClientPlan.Proofs.Plan.Requests
import ClientPlan.Proofs.Plan.OwnModel
import ClientPlan.Proofs.Imports.Canonical
import ClientPlan.Proofs.Naming.Spelling
import ClientPlan.Proofs.Plan.Members
import ClientPlan.Proofs.Naming.Pascal
import ClientPlan.Proofs.Naming.Given
import ClientPlan.Proofs.Naming.Ascii
import ClientPlan.Proofs.Naming.Validity
import ClientPlan.Proofs.Naming.Stability
import ClientPlan.Proofs.Naming.Capitals
import ClientPlan.Proofs.Document.Escapes
import ClientPlan.Proofs.Imports.SelfImport
import ClientPlan.Proofs.Imports.Doubles

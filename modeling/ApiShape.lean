import ApiShape.Api.Operation
import ApiShape.Declaration.Declare
import ApiShape.Proofs.Text.Occurrence
import ApiShape.Proofs.Multipart.Chunking
import ApiShape.Proofs.Action
import ApiShape.Proofs.Budget
import ApiShape.Proofs.Schema.Layer
import ApiShape.Proofs.Schema.Translation
import ApiShape.Proofs.Schema.Growth
import ApiShape.Proofs.Schema.Faithful
import ApiShape.Proofs.Schema.Success
import ApiShape.Proofs.Schema.Termination
import ApiShape.Proofs.Schema.Coupling
import ApiShape.Proofs.Schema.Exposure
import ApiShape.Proofs.Schema.Transparency
import ApiShape.Proofs.Schema.Order
import ApiShape.Proofs.Schema.Failure
import ApiShape.Proofs.Schema.References
import ApiShape.Proofs.Text.Utf8
import ApiShape.Proofs.Multipart.Assembly
import ApiShape.Proofs.Multipart.SizeLimit
import ApiShape.Proofs.Decoder.Rules
import ApiShape.Proofs.Converter.Derivation
import ApiShape.Proofs.Declaration.Construction
import ApiShape.Proofs.Declaration.Wrappers
import ApiShape.Proofs.Converter.Memo
import ApiShape.Proofs.Converter.Leniency
import ApiShape.Proofs.Decoder.Leniency
import ApiShape.Proofs.Decoder.Locations
import ApiShape.Proofs.Multipart.Submission
import ApiShape.Proofs.Multipart.Parameters
import ApiShape.Proofs.Multipart.Gathering
import ApiShape.Proofs.Decoder.Form
import ApiShape.Proofs.Number.Digits
import ApiShape.Proofs.Time.Calendar
import ApiShape.Proofs.Time.Texts
import ApiShape.Proofs.Time.Moments
import ApiShape.Proofs.Time.RoundTrip
import ApiShape.Proofs.Time.Grammar
import ApiShape.Proofs.Time.Zones
import ApiShape.Proofs.Converter.Agreement
import ApiShape.Proofs.Converter.Composition
import ApiShape.Proofs.Converter.Diagnosis
import ApiShape.Proofs.Converter.Termination
import ApiShape.Proofs.Converter.Refusals
import ApiShape.Proofs.Decoder.Failures
import ApiShape.Proofs.Schema.Collisions
import ApiShape.Proofs.Types.Union
import ApiShape.Proofs.Types.Substitution
import ApiShape.Proofs.Decoder.Required
import ApiShape.Proofs.Multipart.Draining
import ApiShape.Proofs.Time.Failures
import ApiShape.Proofs.Number.Texts
import ApiShape.Proofs.Number.Decimals
import ApiShape.Proofs.Converter.Integers
import ApiShape.Proofs.Types.Names
import ApiShape.Proofs.Converter.Enumerations
import ApiShape.Proofs.Schema.Rendering
import ApiShape.Proofs.Schema.Distinct
import ApiShape.Proofs.Decoder.Headers
import ApiShape.Proofs.Decoder.RawBodies
import ApiShape.Proofs.Multipart.Residue
import ApiShape.Proofs.Number.Doubles
import ApiShape.Proofs.Converter.Doubles

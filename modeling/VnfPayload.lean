import VnfPayload.Codec
import VnfPayload.Generator
import VnfPayload.Registry.File
import VnfPayload.Proofs.Atomicity
import VnfPayload.Proofs.BatchOrder
import VnfPayload.Proofs.Conflicts
import VnfPayload.Proofs.MessageText
import VnfPayload.Proofs.Rebuild
import VnfPayload.Proofs.Reachable
import VnfPayload.Proofs.Relevance
import VnfPayload.Proofs.Repetition
import VnfPayload.Proofs.MessageShape
import VnfPayload.Proofs.MessageValues
import VnfPayload.Proofs.Redaction
import VnfPayload.Proofs.LogSecrecy
import VnfPayload.Proofs.Footprint
import VnfPayload.Proofs.RegistryFile
import VnfPayload.Proofs.BuildFailure
import VnfPayload.Proofs.PrefixBoundary
import VnfPayload.Proofs.WireForm
import VnfPayload.Proofs.PathGrammar
import VnfPayload.Proofs.Refusal
import VnfPayload.Proofs.NullSources
import VnfPayload.Proofs.Breaches
import VnfPayload.Proofs.RequestShapes
import VnfPayload.Proofs.RegistryRuns
import VnfPayload.Proofs.GenerationLog
import VnfPayload.Proofs.PropertyHistory

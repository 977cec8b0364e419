import CertGate.Application.Json
import CertGate.Cache
import CertGate.CommandLine
import CertGate.Config.Layers
import CertGate.Directory.Kubernetes
import CertGate.Error.Response
import CertGate.Gateway
import CertGate.Main
import CertGate.Policy
import CertGate.Proofs.AuthorizedName
import CertGate.Proofs.EncodedSegments
import CertGate.Proofs.GatewayMediation
import CertGate.Proofs.PathConfinement
import CertGate.Proofs.PathWalk
import CertGate.Proofs.PipelineStages
import CertGate.Proofs.Utf8RoundTrip
import CertGate.Proxy
import CertGate.Resolver
import CertGate.Route
import CertGate.Subject
import CertGate.Yaml.Printer
import CertGate.Proofs.AuthorizationTable
import CertGate.Proofs.HeaderFields
import CertGate.Proofs.ForwardedFor
import CertGate.Proofs.OutboundHeaders
import CertGate.Proofs.BackendAuthority
import CertGate.Proofs.CacheSteps
import CertGate.Proofs.CacheHistory
import CertGate.Proofs.ChainRoundTrip
import CertGate.Proofs.JanitorTransparency
import CertGate.Proofs.VariableFiles
import CertGate.Proofs.ValuePaths
import CertGate.Proofs.VariableSettings
import CertGate.Proofs.RecordReading
import CertGate.Proofs.ConfigLeaves
import CertGate.Proofs.VariableAgreement
import CertGate.Proofs.LayerPrecedence
import CertGate.Proofs.LayerIndependence
import CertGate.Proofs.ResourceUrl
import CertGate.Proofs.ArrangedValues
import CertGate.Proofs.WrittenDurations
import CertGate.Proofs.ConfigRoundTrip
import CertGate.Proofs.InterleavedResolves
import CertGate.Proofs.Servability
import CertGate.Proofs.FieldElements
import CertGate.Proofs.RecordedAddresses
import CertGate.Proofs.ListedFields
import CertGate.Proofs.PlaintextScheme
import CertGate.Proofs.NamelessSubjects
import CertGate.Proofs.ElementSpans
import CertGate.Proofs.SegmentOverriding
import CertGate.Proofs.LeadSubstitution
import CertGate.Proofs.FirstMatchingRoute
import CertGate.Proofs.DurationGrammar
import CertGate.Proofs.TokenSpelling
import CertGate.Json.Parser
import CertGate.Proofs.ValueSpelling
import CertGate.Proofs.EscapedStrings
import CertGate.Proofs.JsonRoundTrip
import CertGate.Proofs.FailureReports
import CertGate.Proofs.UnknownMembers
import CertGate.Proofs.ApplicationRecords
import CertGate.Proofs.ClusterLookups
import CertGate.Proofs.RelayedAnswers
import CertGate.Proofs.WrittenFiles

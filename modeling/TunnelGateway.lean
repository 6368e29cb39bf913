import TunnelGateway.Fallible
import TunnelGateway.GoText
import TunnelGateway.Matcher
import TunnelGateway.ProxyConfig
import TunnelGateway.Router
import TunnelGateway.SortedBuckets
import TunnelGateway.RoutingOptimality
import TunnelGateway.MatchPrecedence
import TunnelGateway.Execution
import TunnelGateway.Pusher
import TunnelGateway.PushOrder
import TunnelGateway.PushState
import TunnelGateway.SkipKey
import TunnelGateway.Hostname
import TunnelGateway.GatewayApi
import TunnelGateway.ListenerMerge
import TunnelGateway.DedupBy
import TunnelGateway.ParentBinding
import TunnelGateway.Partition
import TunnelGateway.EffectiveHostnames
import TunnelGateway.PartitionHostnames
import TunnelGateway.RouteSpec
import TunnelGateway.ServiceTarget
import TunnelGateway.ClusterObjects
import TunnelGateway.ClusterResolvers
import TunnelGateway.RouteConversion
import TunnelGateway.BackendPasses
import TunnelGateway.BuildConfig
import TunnelGateway.BackendFate
import TunnelGateway.RouteOrigin
import TunnelGateway.ClientCert
import TunnelGateway.EndpointProbes
import TunnelGateway.Noninterference
import TunnelGateway.ConfigValidate
import TunnelGateway.ConfigApi
import TunnelGateway.ConfigAcceptance
import TunnelGateway.RequestFilters
import TunnelGateway.ResponseWriters
import TunnelGateway.Forwarding
import TunnelGateway.HostSignal
import TunnelGateway.Cors
import TunnelGateway.CorsOrigins
import TunnelGateway.CorsCredentials
import TunnelGateway.ReadStream
import TunnelGateway.MirrorBody
import TunnelGateway.HeaderTimeout
import TunnelGateway.BestByKey
import TunnelGateway.JsonText
import TunnelGateway.RouteDiagnostics
import TunnelGateway.ShadowDetection
import TunnelGateway.RouteStatus
import TunnelGateway.StatusSelection
import TunnelGateway.EarnedStatus
import TunnelGateway.StatusGeneration
import TunnelGateway.HostnameOwnership
import TunnelGateway.BackendAuthorization
import TunnelGateway.TransportAgreement
import TunnelGateway.FailClosed
import TunnelGateway.AgeOrder
import TunnelGateway.GreedyScan
import TunnelGateway.MergeInvariants
import TunnelGateway.SeparatedText
import TunnelGateway.FingerprintMemo
import TunnelGateway.ListenerView
import TunnelGateway.HostnameAlgebra
import TunnelGateway.ParentResolvers
import TunnelGateway.CrossTypeConflicts
import TunnelGateway.RouterUpdates
import TunnelGateway.ConverterFindings
import TunnelGateway.WeightShares
import TunnelGateway.RulePasses
import TunnelGateway.TrafficShares
import TunnelGateway.ObjectOrder
import TunnelGateway.OrderIndependence
import TunnelGateway.ReadyEndpoints
import TunnelGateway.UnsetReadiness
import TunnelGateway.PrecedenceOrder
import TunnelGateway.PolicyConflicts
import TunnelGateway.Tally
import TunnelGateway.AttachedRoutes
import TunnelGateway.TunnelDocument
import TunnelGateway.TunnelSync
import TunnelGateway.SyncErrors
import TunnelGateway.ResyncReplay
import TunnelGateway.PathElements
import TunnelGateway.PrefixReplacement
import TunnelGateway.PathContainment
import TunnelGateway.RegexpMatching
import TunnelGateway.GoRegexp
import TunnelGateway.RegexpSplice
import TunnelGateway.GRPCMatching
import TunnelGateway.GRPCPrecedence
import TunnelGateway.AdmissionPolicy
import TunnelGateway.HexDigest
import TunnelGateway.RenderedNames
import TunnelGateway.ManagedAnnotations
import TunnelGateway.RandomChoices
import TunnelGateway.BackendBase
import TunnelGateway.TrailerReplay
import TunnelGateway.TransportPool

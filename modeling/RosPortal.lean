import RosPortal.Interleaving.Machine
import RosPortal.Interleaving.ThreadPool
import RosPortal.Interleaving.Mutex
import RosPortal.Connection.Manager
import RosPortal.Connection.Transition
import RosPortal.Connection.Invariants
import RosPortal.Connection.Barrier
import RosPortal.Connection.Attempts
import RosPortal.Connection.Wakeups
import RosPortal.Connection.EventThread
import RosPortal.Connection.Waiters
import RosPortal.Connection.Calls
import RosPortal.Connection.Health
import RosPortal.Connection.Reporting
import RosPortal.Connection.RtcSummary
import RosPortal.Connection.Statistics
import RosPortal.Portal.Graph
import RosPortal.Portal.Forwarders
import RosPortal.Portal.Node
import RosPortal.Portal.Transition
import RosPortal.Portal.Restoration
import RosPortal.Portal.Tracks
import RosPortal.Portal.Lifetimes
import RosPortal.Portal.RpcHandlers
import RosPortal.Portal.RpcRegistration
import RosPortal.Portal.RpcStart
import RosPortal.Discovery.Loop
import RosPortal.Discovery.Recovery
import RosPortal.Discovery.Subscriptions
import RosPortal.Discovery.Reaping
import RosPortal.Discovery.SnapshotCache
import RosPortal.Inbound.Tracks
import RosPortal.Inbound.Suppression
import RosPortal.Inbound.DataTrackReader
import RosPortal.Latched.Base64
import RosPortal.Utils.Base64
import RosPortal.Latched.Forwarder
import RosPortal.Latched.History
import RosPortal.Latched.Outbound
import RosPortal.Latched.Bookkeeping
import RosPortal.Latched.Newest
import RosPortal.Latched.Rejoin
import RosPortal.Latched.Network
import RosPortal.Latched.Echo
import RosPortal.Latched.Arrivals
import RosPortal.Latched.Republication
import RosPortal.Latched.PushCycle
import RosPortal.Latched.Routing
import RosPortal.Latched.Delivery
import RosPortal.Latched.Quiescence
import RosPortal.Memory.Buffer
import RosPortal.Video.Frame
import RosPortal.Video.ImageFrameBuilder
import RosPortal.Video.Conversion
import RosPortal.Video.JpegDecoder
import RosPortal.Video.ImageTopic
import RosPortal.Video.FrameHeader
import RosPortal.Video.InboundTrack
import RosPortal.Video.InboundDemand
import RosPortal.Video.Lifecycle
import RosPortal.Video.SourceManager
import RosPortal.Video.SourceCleanup
import RosPortal.Video.CompressedTopic
import RosPortal.Json.Utf8
import RosPortal.Json.Value
import RosPortal.Json.Storable
import RosPortal.Introspection.Conversion
import RosPortal.Introspection.RoundTrip
import RosPortal.Traversal.DepthFirst
import RosPortal.Traversal.Keys
import RosPortal.Introspection.Yaml
import RosPortal.Cli.Handlers
import RosPortal.Cli.Totality
import RosPortal.Cli.Requests
import RosPortal.Cli.Converters
import RosPortal.Cli.Timeouts
import RosPortal.Cli.Responses
import RosPortal.Accounting.Tally
import RosPortal.Cli.Manager
import RosPortal.Cli.FailureCount
import RosPortal.Cli.ServiceCall
import RosPortal.Cli.ServiceResponses
import RosPortal.Cli.TopicPub
import RosPortal.Cli.TopicTypes
import RosPortal.Cli.PublishAccounts
import RosPortal.Cli.RemoteCommand
import RosPortal.Cli.Listing
import RosPortal.Traversal.Expansion
import RosPortal.Cli.InterfaceText
import RosPortal.Cli.InterfaceShow
import RosPortal.Services.Forwarder
import RosPortal.Services.Transparency
import RosPortal.Services.Status
import RosPortal.Schema.Manager
import RosPortal.Schema.Ownership
import RosPortal.Schema.Registration
import RosPortal.Schema.Agreement
import RosPortal.Traversal.Preorder
import RosPortal.Schema.Definitions
import RosPortal.Schema.Bundled
import RosPortal.Naming.TopicNames
import RosPortal.Naming.PreserveId
import RosPortal.Outbound.Qos
import RosPortal.Outbound.DataTopic
import RosPortal.Outbound.RateCap
import RosPortal.Outbound.ForwardedSamples
import RosPortal.Outbound.FrameOrder
import RosPortal.Outbound.Tables
import RosPortal.Outbound.Consistency
import RosPortal.Outbound.Expiry
import RosPortal.Outbound.Refinement
import RosPortal.Inbound.DataTracks
import RosPortal.Forwarding.DataPath
import RosPortal.Ordering.Emission
import RosPortal.Digits.Significant
import RosPortal.Config.Generator
import RosPortal.Config.Parser
import RosPortal.Config.Meaning
import RosPortal.Config.Compilation
import RosPortal.Config.Preservation
import RosPortal.Config.Errors
import RosPortal.Config.PortalSchema
import RosPortal.Ordering.Bisect
import RosPortal.Slam.StampBuffer
import RosPortal.Slam.Keyframes
import RosPortal.Slam.Recorder

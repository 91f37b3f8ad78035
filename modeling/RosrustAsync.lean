import RosrustAsync.ActorReplies
import RosrustAsync.ActorSurvival
import RosrustAsync.Addresses
import RosrustAsync.AdvertisedEndpoints
import RosrustAsync.ApiRouter
import RosrustAsync.ApiServer
import RosrustAsync.CallResolution
import RosrustAsync.ClientAccounting
import RosrustAsync.ClientExchanges
import RosrustAsync.ClientLink
import RosrustAsync.ClientStreams
import RosrustAsync.Clock
import RosrustAsync.ClockConservation
import RosrustAsync.ClockExit
import RosrustAsync.ClockInvariant
import RosrustAsync.ClockReading
import RosrustAsync.ClockSleeps
import RosrustAsync.ClockTask
import RosrustAsync.ClockTick
import RosrustAsync.ClockTimers
import RosrustAsync.ClockWakeups
import RosrustAsync.Compatibility
import RosrustAsync.ConnectedSubscribers
import RosrustAsync.ControlPlane
import RosrustAsync.ControlPlaneProgress
import RosrustAsync.ControlPlaneRuns
import RosrustAsync.ExchangeInvariant
import RosrustAsync.ExchangeOrigins
import RosrustAsync.FrameStream
import RosrustAsync.HandleCompatibility
import RosrustAsync.HandshakeAgreement
import RosrustAsync.HandshakeIsolation
import RosrustAsync.HeaderAcceptance
import RosrustAsync.HeaderDe
import RosrustAsync.HeaderFields
import RosrustAsync.HeaderGrammar
import RosrustAsync.HeaderOrder
import RosrustAsync.HeaderRoundTrip
import RosrustAsync.HeaderSer
import RosrustAsync.HeaderSlots
import RosrustAsync.HeaderTypes
import RosrustAsync.LatchedMessage
import RosrustAsync.LatchedPublication
import RosrustAsync.LatchedStore
import RosrustAsync.LatchedSubscription
import RosrustAsync.Lib.Actor
import RosrustAsync.Lib.Broadcast
import RosrustAsync.Lib.Bytes
import RosrustAsync.Lib.Callers
import RosrustAsync.Lib.Collect
import RosrustAsync.Lib.Conversion
import RosrustAsync.Lib.Emissions
import RosrustAsync.Lib.GuardRegistry
import RosrustAsync.Lib.GuardRules
import RosrustAsync.Lib.GuardRuns
import RosrustAsync.Lib.HeadOfLine
import RosrustAsync.Lib.MaxHeap
import RosrustAsync.Lib.MinQueue
import RosrustAsync.Lib.Mirror
import RosrustAsync.Lib.PostStop
import RosrustAsync.Lib.Process
import RosrustAsync.Lib.Prog
import RosrustAsync.Lib.ProgLaws
import RosrustAsync.Lib.Reception
import RosrustAsync.Lib.Runs
import RosrustAsync.Lib.SharedHandles
import RosrustAsync.Lib.Slots
import RosrustAsync.Lib.Text
import RosrustAsync.Lib.WaitFor
import RosrustAsync.Lib.Watch
import RosrustAsync.Lib.Within
import RosrustAsync.ListenerPeers
import RosrustAsync.MasterAnswers
import RosrustAsync.MasterClient
import RosrustAsync.MasterRegistrations
import RosrustAsync.MemoisedHashes
import RosrustAsync.MessageHashes
import RosrustAsync.MessageOrder
import RosrustAsync.Messages
import RosrustAsync.Network
import RosrustAsync.NodeShutdown
import RosrustAsync.ParameterActor
import RosrustAsync.ParameterBookkeeping
import RosrustAsync.ParameterCoherence
import RosrustAsync.ParameterInvariant
import RosrustAsync.ParameterMaster
import RosrustAsync.ParameterNamespaces
import RosrustAsync.ParameterNet
import RosrustAsync.ParameterRuns
import RosrustAsync.ParameterTree
import RosrustAsync.PubSub
import RosrustAsync.PubSubNet
import RosrustAsync.PubSubNetRuns
import RosrustAsync.PubSubNetSteps
import RosrustAsync.Publication
import RosrustAsync.PublicationCleanup
import RosrustAsync.PublicationInvariant
import RosrustAsync.PublicationIsolation
import RosrustAsync.PublicationOrder
import RosrustAsync.PublicationSteps
import RosrustAsync.PublisherActor
import RosrustAsync.PublisherConnections
import RosrustAsync.PublisherMaster
import RosrustAsync.PublisherRegistry
import RosrustAsync.PublisherSetInvariant
import RosrustAsync.PublisherSetRuns
import RosrustAsync.PublisherSets
import RosrustAsync.Rate
import RosrustAsync.RegistryRuns
import RosrustAsync.RequestKinds
import RosrustAsync.RequestTopicAnswers
import RosrustAsync.RpcCalls
import RosrustAsync.RpcResponses
import RosrustAsync.ServedConnection
import RosrustAsync.ServiceActor
import RosrustAsync.ServiceAgreement
import RosrustAsync.ServiceCalls
import RosrustAsync.ServiceCallsClient
import RosrustAsync.ServiceCallsInvariant
import RosrustAsync.ServiceCallsProgress
import RosrustAsync.ServiceCallsResolve
import RosrustAsync.ServiceCallsServer
import RosrustAsync.ServiceMaster
import RosrustAsync.ServiceRegistry
import RosrustAsync.SharedRegistrations
import RosrustAsync.ShutdownCleanup
import RosrustAsync.ShutdownCompletion
import RosrustAsync.ShutdownProgress
import RosrustAsync.SlaveApi
import RosrustAsync.SlaveCalls
import RosrustAsync.SlaveClient
import RosrustAsync.SubscriberActor
import RosrustAsync.SubscriberCallback
import RosrustAsync.SubscriberCallbackRuns
import RosrustAsync.SubscriberMaster
import RosrustAsync.SubscriberNet
import RosrustAsync.SubscriberNetSteps
import RosrustAsync.SubscriberRegistry
import RosrustAsync.Subscription
import RosrustAsync.SubscriptionCleanup
import RosrustAsync.SubscriptionInvariant
import RosrustAsync.SubscriptionOrder
import RosrustAsync.SubscriptionSteps
import RosrustAsync.TypedMessages
import RosrustAsync.TypedServiceCalls
import RosrustAsync.XmlRpc

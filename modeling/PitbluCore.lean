import PitbluCore.Library.Dict
import PitbluCore.Library.Runs
import PitbluCore.Models
import PitbluCore.Connection
import PitbluCore.Events
import PitbluCore.EventFanOut
import PitbluCore.EventStream
import PitbluCore.EventStreamShutdown
import PitbluCore.Telemetry
import PitbluCore.TelemetryFrames
import PitbluCore.TelemetryConnections
import PitbluCore.TelemetryAgreement
import PitbluCore.TelemetrySequences
import PitbluCore.Mqtt
import PitbluCore.MqttTopics
import PitbluCore.MqttRetained
import PitbluCore.Storage
import PitbluCore.Library.Newest
import PitbluCore.StorageRetention
import PitbluCore.Configuration
import PitbluCore.SettingPaths
import PitbluCore.SettingTrees
import PitbluCore.ConfigurationManager
import PitbluCore.ConfigurationUpdates
import PitbluCore.Library.Layering
import PitbluCore.ConfigurationLayers
import PitbluCore.ConfigurationDescription
import PitbluCore.Deployment
import PitbluCore.Adapter
import PitbluCore.Protocol
import PitbluCore.AdapterReads
import PitbluCore.Service
import PitbluCore.ServiceTasks
import PitbluCore.ServiceRuns
import PitbluCore.ServiceRegistration
import PitbluCore.MqttEncoding
import PitbluCore.TelemetryResidue
import PitbluCore.ServiceMoves
import PitbluCore.ServiceSegments
import PitbluCore.ServiceSteps
import PitbluCore.ServiceInvariant
import PitbluCore.ServiceRules
import PitbluCore.ServiceProcedures
import PitbluCore.ServicePolling
import PitbluCore.ServiceMirror
import PitbluCore.ServiceConnections
import PitbluCore.ServiceDesires
import PitbluCore.ServiceDisconnects
import PitbluCore.ServiceExclusion
import PitbluCore.ServiceRecoveries
import PitbluCore.ServiceOperations
import PitbluCore.ServiceShutdown
import PitbluCore.ServiceLifecycle
import PitbluCore.ServiceScans
import PitbluCore.ServiceRegistry
import PitbluCore.ServiceDeletion
import PitbluCore.ServiceOwnership
import PitbluCore.ServiceAttribution
import PitbluCore.ServiceSupervision
import PitbluCore.TelemetryHeartbeats
import PitbluCore.TelemetryDeadlines
import PitbluCore.Library.TokenBucket
import PitbluCore.RateLimit
import PitbluCore.RequestBounds
import PitbluCore.ServiceStops
import PitbluCore.ServiceParking
import PitbluCore.ServiceWaits
import PitbluCore.Library.Fairness
import PitbluCore.ServiceLiveness
import PitbluCore.ServiceProgress
import PitbluCore.Backoff
import PitbluCore.MqttPublisher
import PitbluCore.MqttAvailability
import PitbluCore.MqttSupervision
import PitbluCore.MqttReconnection
import PitbluCore.Library.Base64Url
import PitbluCore.AdministratorTokens
import PitbluCore.ControlPlane
import PitbluCore.AuthenticationGate
import PitbluCore.RequestThrottles
import PitbluCore.OptimisticUpdates
import PitbluCore.SecretIsolation
import PitbluCore.V202Session
import PitbluCore.V202Handshake
import PitbluCore.V202Refinement

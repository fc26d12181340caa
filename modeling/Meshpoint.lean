import Meshpoint.LocationPrivacy
import Meshpoint.ChannelGate
import Meshpoint.ReceptionTasks
import Meshpoint.RelayFidelity
import Meshpoint.ReplyChains
import Meshpoint.ReplyKeys
import Meshpoint.HeartbeatAccounting
import Meshpoint.SessionRevocation
import Meshpoint.UpstreamBuffer
import Meshpoint.PluginDependencies
import Meshpoint.BackupRoundTrip
import Meshpoint.TransmissionBudget
import Meshpoint.ViewerPrivacy
import Meshpoint.CcmAgreement
import Meshpoint.ChannelSelection
import Meshpoint.CompanionReplies
import Meshpoint.PortOwnership
import Meshpoint.LorawanConfig
import Meshpoint.PluginPaths
import Meshpoint.DedupWindow
import Meshpoint.RateWindow
import Meshpoint.BudgetSequence
import Meshpoint.RelayRewrite
import Meshpoint.HeaderReconstruction
import Meshpoint.MqttReencoding
import Meshpoint.SharedPayload
import Meshpoint.BroadcastSchedule
import Meshpoint.RejectedUpdates
import Meshpoint.PayloadLayout
import Meshpoint.HistoryBuckets
import Meshpoint.PagerAcks
import Meshpoint.NeighbourReports
import Meshpoint.ChannelSync
import Meshpoint.PrimaryNames
import Meshpoint.TopologyGraph
import Meshpoint.BackupEncryption
import Meshpoint.LoginLockout
import Meshpoint.ButtonGestures
import Meshpoint.AirtimeEstimate
import Meshpoint.SlotFrequency
import Meshpoint.GitArguments
import Meshpoint.RollbackPoint
import Meshpoint.GpsdStream
import Meshpoint.FieldPresence
import Meshpoint.PluginPlacement
import Meshpoint.PluginConfinement
import Meshpoint.MapReport
import Meshpoint.CaptureSpectrum
import Meshpoint.WifiConnection
import Meshpoint.AuditLog
import Meshpoint.UartSource
import Meshpoint.TerminalSessions
import Meshpoint.DeviceIdentities
import Meshpoint.MeshcoreFirmware
import Meshpoint.RnodeStream
import Meshpoint.WireSerialization
import Meshpoint.RfEnvCompanion
import Meshpoint.CaptureRamLoop
import Meshpoint.ConfigLoading
import Meshpoint.CsvExport
import Meshpoint.WebSocketManager
import Meshpoint.UpdateStream
import Meshpoint.DatabaseManager
import Meshpoint.ConversationList
import Meshpoint.StationPipeline

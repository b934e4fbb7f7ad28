import PilotingMavsdk.CallEveryLoop
import PilotingMavsdk.CliArg
import PilotingMavsdk.ComponentDiscovery
import PilotingMavsdk.FaultFree
import PilotingMavsdk.GroundStationPlugins
import PilotingMavsdk.InspectionProgress
import PilotingMavsdk.Library.Bisection
import PilotingMavsdk.Library.Delimited
import PilotingMavsdk.Library.DirtyFlag
import PilotingMavsdk.Library.Enumeration
import PilotingMavsdk.Library.FrameReader
import PilotingMavsdk.Library.Instants
import PilotingMavsdk.Library.Layout
import PilotingMavsdk.Library.Links
import PilotingMavsdk.Library.ShiftRegister
import PilotingMavsdk.Library.Tickets
import PilotingMavsdk.Library.Traces
import PilotingMavsdk.Library.Transducer
import PilotingMavsdk.Library.Wire
import PilotingMavsdk.MavlinkChannels
import PilotingMavsdk.MavlinkChecksum
import PilotingMavsdk.MavlinkFraming
import PilotingMavsdk.MavlinkMessageCrcs
import PilotingMavsdk.MavlinkMessageHandler
import PilotingMavsdk.MavlinkPayloads
import PilotingMavsdk.MavlinkReceiver
import PilotingMavsdk.Ping
import PilotingMavsdk.Proofs.Addressing
import PilotingMavsdk.Proofs.AnnouncedCount
import PilotingMavsdk.Proofs.BlockingCommand
import PilotingMavsdk.Proofs.BusyExclusion
import PilotingMavsdk.Proofs.CallRate
import PilotingMavsdk.Proofs.CallbackBound
import PilotingMavsdk.Proofs.Cancellation
import PilotingMavsdk.Proofs.ChannelPool
import PilotingMavsdk.Proofs.Checksum
import PilotingMavsdk.Proofs.CliGrammar
import PilotingMavsdk.Proofs.CliMemory
import PilotingMavsdk.Proofs.CommandAgreement
import PilotingMavsdk.Proofs.CommandAttempts
import PilotingMavsdk.Proofs.CommandSteps
import PilotingMavsdk.Proofs.Completions
import PilotingMavsdk.Proofs.ComponentAnnouncements
import PilotingMavsdk.Proofs.Cookies
import PilotingMavsdk.Proofs.Datagrams
import PilotingMavsdk.Proofs.Deadlock
import PilotingMavsdk.Proofs.Delivery
import PilotingMavsdk.Proofs.Dispatch
import PilotingMavsdk.Proofs.DownloadAgreement
import PilotingMavsdk.Proofs.FaultFreeDownload
import PilotingMavsdk.Proofs.FaultFreeTransfers
import PilotingMavsdk.Proofs.FaultFreeUpload
import PilotingMavsdk.Proofs.FinalReport
import PilotingMavsdk.Proofs.FrameReading
import PilotingMavsdk.Proofs.Frames
import PilotingMavsdk.Proofs.HeartbeatStream
import PilotingMavsdk.Proofs.HoldingVehicle
import PilotingMavsdk.Proofs.Legibility
import PilotingMavsdk.Proofs.LinkLoss
import PilotingMavsdk.Proofs.LockOrder
import PilotingMavsdk.Proofs.LossStages
import PilotingMavsdk.Proofs.MessageTable
import PilotingMavsdk.Proofs.OneConnected
import PilotingMavsdk.Proofs.OneLoss
import PilotingMavsdk.Proofs.PayloadRoundTrip
import PilotingMavsdk.Proofs.PlanIdentity
import PilotingMavsdk.Proofs.PlanMixing
import PilotingMavsdk.Proofs.PluginSession
import PilotingMavsdk.Proofs.PluginState
import PilotingMavsdk.Proofs.ProgressReports
import PilotingMavsdk.Proofs.QueueDiscipline
import PilotingMavsdk.Proofs.Queued
import PilotingMavsdk.Proofs.ReceivedPrefix
import PilotingMavsdk.Proofs.Reporting
import PilotingMavsdk.Proofs.RoundTrips
import PilotingMavsdk.Proofs.RunOnce
import PilotingMavsdk.Proofs.RunOnceEnds
import PilotingMavsdk.Proofs.RunOnceFires
import PilotingMavsdk.Proofs.Senders
import PilotingMavsdk.Proofs.SpuriousBusy
import PilotingMavsdk.Proofs.StalePositions
import PilotingMavsdk.Proofs.StaleReads
import PilotingMavsdk.Proofs.TelemetryMirror
import PilotingMavsdk.Proofs.TelemetrySamples
import PilotingMavsdk.Proofs.TextRoundTrip
import PilotingMavsdk.Proofs.TimeSamples
import PilotingMavsdk.Proofs.TimedItems
import PilotingMavsdk.Proofs.TimedMessages
import PilotingMavsdk.Proofs.TimerOwnership
import PilotingMavsdk.Proofs.TimesyncLink
import PilotingMavsdk.Proofs.TimesyncRange
import PilotingMavsdk.Proofs.Turns
import PilotingMavsdk.Proofs.UdpAgreement
import PilotingMavsdk.Proofs.UdpDelivery
import PilotingMavsdk.Proofs.UdpPorts
import PilotingMavsdk.Proofs.UdpTransfers
import PilotingMavsdk.Proofs.UnfitLists
import PilotingMavsdk.Proofs.Watching
import PilotingMavsdk.RemoteClock
import PilotingMavsdk.Telemetry
import PilotingMavsdk.TimedDownload
import PilotingMavsdk.TimerMap
import PilotingMavsdk.UdpCommands
import PilotingMavsdk.UdpDownload
import PilotingMavsdk.UdpNetwork
import PilotingMavsdk.UdpWire
import PilotingMavsdk.UserCallbackQueue
import PilotingMavsdk.WorkQueue

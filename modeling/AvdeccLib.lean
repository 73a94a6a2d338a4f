import AvdeccLib.Library.Runs
import AvdeccLib.Library.FirstMatch
import AvdeccLib.Timer
import AvdeccLib.Pdu
import AvdeccLib.Inflight
import AvdeccLib.AecpControllerStateMachine
import AvdeccLib.AcmpControllerStateMachine
import AvdeccLib.Conservation
import AvdeccLib.Library.Outcome
import AvdeccLib.Library.Presence
import AvdeccLib.Descriptors
import AvdeccLib.EndStation
import AvdeccLib.BackgroundRead
import AvdeccLib.ReadCompleted
import AvdeccLib.EnumerationBound
import AvdeccLib.Responses
import AvdeccLib.Controller
import AvdeccLib.Effects
import AvdeccLib.Stations
import AvdeccLib.AdpTracking
import AvdeccLib.Reenumeration
import AvdeccLib.System
import AvdeccLib.SystemSteps
import AvdeccLib.Correlation
import AvdeccLib.Holders
import AvdeccLib.Wakeup
import AvdeccLib.Retransmission
import AvdeccLib.WaitSafety
import AvdeccLib.Library.Ring
import AvdeccLib.EventRing
import AvdeccLib.EventDelivery
import AvdeccLib.Notification
import AvdeccLib.AemTree
import AvdeccLib.EnumerationComplete
import AvdeccLib.Isolation
import AvdeccLib.Advertisement
import AvdeccLib.Arming
import AvdeccLib.Dispatch
import AvdeccLib.CommandLifecycle
import AvdeccLib.OperationTable
import AvdeccLib.Deduction
import AvdeccLib.Library.BigEndian
import AvdeccLib.MsvcPoll
import AvdeccLib.SendCommands
import AvdeccLib.CommandFrames
import AvdeccLib.WellFormedCommands
import AvdeccLib.ObjectState
import AvdeccLib.StoredObjects
import AvdeccLib.ResponseObjects
import AvdeccLib.CompletionStatus
import AvdeccLib.CommandNotices
import AvdeccLib.TickRound
import AvdeccLib.AdpExpiry
import AvdeccLib.BackgroundQueue
import AvdeccLib.DescriptorStore
import AvdeccLib.TwinEngines
import AvdeccLib.DescriptorTails
import AvdeccLib.CliCommandFormat
import AvdeccLib.CliCommand
import AvdeccLib.SilentCommands
import AvdeccLib.SequenceIds
import AvdeccLib.StringReferences
import AvdeccLib.ConnectRx
import AvdeccLib.MessageQueue
import AvdeccLib.FirmwareUpgrade
import AvdeccLib.ConnectionReport
import AvdeccLib.ShowConnections
import AvdeccLib.Library.Script
import AvdeccLib.SentFrames
import AvdeccLib.CommandScripts
import AvdeccLib.CommandSession
import AvdeccLib.WaitProtocol
import AvdeccLib.SessionWaits
import AvdeccLib.AbandonedWait
import AvdeccLib.AcmpFrames
import AvdeccLib.WireEngines
import AvdeccLib.Library.Bpf
import AvdeccLib.PacketFilter
import AvdeccLib.Shutdown
import AvdeccLib.Library.Growth
import AvdeccLib.StationGrowth
import AvdeccLib.ViewProtocol
import AvdeccLib.ShowConnectionsSafety
import AvdeccLib.CommandSafety
import AvdeccLib.SessionSafety
import AvdeccLib.CommandTable
import AvdeccLib.TypedLines
import AvdeccLib.TypedSessions
import AvdeccLib.Completion

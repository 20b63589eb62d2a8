import Failsafe.Clipboard.Echo
import Failsafe.Core.ControlFrame
import Failsafe.Core.Message
import Failsafe.Core.Path
import Failsafe.Send.ReceiveOnce
import Failsafe.Send.Retransmission
import Failsafe.Send.Disconnect
import Failsafe.Send.Agreement
import Failsafe.Send.ChunkTimer
import Failsafe.Send.Answering
import Failsafe.Send.Attempts
import Failsafe.Send.Isolation
import Failsafe.Send.IntakeLoop
import Failsafe.Send.Restart
import Failsafe.Send.Backpressure
import Failsafe.Send.CancelAll
import Failsafe.Send.AckWaiters
import Failsafe.Send.Prepared
import Failsafe.Send.FileNames
import Failsafe.Send.StateDir
import Failsafe.Send.PlanSize
import Failsafe.Send.StateFile
import Failsafe.Send.ReceiveLocks
import Failsafe.Send.ReceivePaths
import Failsafe.Send.ReceiveProgress
import Failsafe.Send.Import
import Failsafe.Send.ProgressOrder
import Failsafe.Send.TransferSizes
import Failsafe.Transport.Codec
import Failsafe.Transport.PoolLife
import Failsafe.Transport.Revocation
import Failsafe.Transport.Stream
import Failsafe.Daemon.AddressSync
import Failsafe.Daemon.FeatureLife
import Failsafe.Port.Forward
import Failsafe.Shell.Relay
import Failsafe.Server.DeviceStore
import Failsafe.Server.OneTime
import Failsafe.Server.Lineage
import Failsafe.Server.Failure
import Failsafe.Server.TotpRace
import Failsafe.Server.TwoFactor
import Failsafe.Server.PasswordChange
import Failsafe.Server.Refusals
import Failsafe.Server.Issuer
import Failsafe.Server.Refresh
import Failsafe.Server.RateLimit
import Failsafe.Daemon.ServerClient
import Failsafe.Daemon.Removal
import Failsafe.Lib.Ending
import Failsafe.Daemon.SharedTokens
import Failsafe.Web.Api
import Failsafe.Web.Calls
import Failsafe.Web.RefreshRace
import Failsafe.Web.LoneCall
import Failsafe.Cli.SendTarget
import Failsafe.Clipboard.LinuxFiles
import Failsafe.Server.AccountRows
import Failsafe.Server.Presence
import Failsafe.Daemon.AtMostOnce
import Failsafe.Daemon.ControlReplies
import Failsafe.Daemon.Settled
import Failsafe.Send.Received
import Failsafe.Daemon.Shutdown

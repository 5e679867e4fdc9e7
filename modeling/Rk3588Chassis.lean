import Rk3588Chassis.Library.Machine
import Rk3588Chassis.Library.Lease
import Rk3588Chassis.Library.Rounding
import Rk3588Chassis.Types
import Rk3588Chassis.Library.Bytes
import Rk3588Chassis.Motor3508
import Rk3588Chassis.Pid
import Rk3588Chassis.Control
import Rk3588Chassis.ControlRun
import Rk3588Chassis.ControlSafety
import Rk3588Chassis.ControlBounds
import Rk3588Chassis.ControlRelation
import Rk3588Chassis.ControlErasure
import Rk3588Chassis.ControlIsolation
import Rk3588Chassis.ControlMirror
import Rk3588Chassis.Daemon
import Rk3588Chassis.Bridge
import Rk3588Chassis.Proxy
import Rk3588Chassis.ProxyHistory
import Rk3588Chassis.ProxySafety
import Rk3588Chassis.ProxyBus
import Rk3588Chassis.DaemonArgs
import Rk3588Chassis.Library.Limiter
import Rk3588Chassis.PidRun
import Rk3588Chassis.WheelTargets
import Rk3588Chassis.FeedbackPaths
import Rk3588Chassis.ProxyOnline
import Rk3588Chassis.BridgeCodec
import Rk3588Chassis.StateReport
import Rk3588Chassis.DaemonLoop
import Rk3588Chassis.WayOut
import Rk3588Chassis.Library.ExtRat
import Rk3588Chassis.Library.Numeral
import Rk3588Chassis.ProxyReception
import Rk3588Chassis.Library.CText
import Rk3588Chassis.CommandLine
import Rk3588Chassis.Senders
import Rk3588Chassis.NanCommands
import Rk3588Chassis.ControlMemory
import Rk3588Chassis.Library.Deadline
import Rk3588Chassis.TimedMotion
import Rk3588Chassis.IntegerArgs
import Rk3588Chassis.Autotune
import Rk3588Chassis.Library.Pattern
import Rk3588Chassis.BatchAutotune
import Rk3588Chassis.KeyboardTool
import Rk3588Chassis.Library.Link
import Rk3588Chassis.Library.Throttle
import Rk3588Chassis.RttThread
import Rk3588Chassis.ProxyAccounts
import Rk3588Chassis.BridgeSystem
import Rk3588Chassis.Library.Client
import Rk3588Chassis.DriveTools
import Rk3588Chassis.DriveRuns
import Rk3588Chassis.Library.PatternReads
import Rk3588Chassis.TuneReport
import Rk3588Chassis.SpeedTest
import Rk3588Chassis.PrintedText
import Rk3588Chassis.SampleLines
import Rk3588Chassis.Library.Significant
import Rk3588Chassis.TrialRuns
import Rk3588Chassis.SenderSessions

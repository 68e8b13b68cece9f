import Vibeshine.TargetLease.Revocation
import Vibeshine.RemoteDisplay.Geometry
import Vibeshine.RemoteDisplay.Generations
import Vibeshine.PyroWave.Inspection
import Vibeshine.PyroWave.Bandwidth
import Vibeshine.VideoStream.RoundTrip
import Vibeshine.VideoStream.Sequence
import Vibeshine.Threads.TaskPool
import Vibeshine.Threads.Queue
import Vibeshine.HostStream.Admission
import Vibeshine.Amf.RuntimeGate
import Vibeshine.StreamSession.Startup
import Vibeshine.StreamSession.PingRouting
import Vibeshine.StateFile.Crash
import Vibeshine.HttpAuth.Persistence
import Vibeshine.VideoPacing.Control
import Vibeshine.VideoPacing.FecReports
import Vibeshine.Pairing.Editing
import Vibeshine.Handoff.Outcomes
import Vibeshine.Input.Mouse
import Vibeshine.Input.KeyRuns
import Vibeshine.Input.SlotRuns
import Vibeshine.PairingProtocol.Immutable
import Vibeshine.Amf.SurfaceOwnership
import Vibeshine.Amf.LossRecovery
import Vibeshine.Input.BatchedRuns
import Vibeshine.Ipc.Handshake
import Vibeshine.HelperIpc.Session
import Vibeshine.Usbip.Accounting
import Vibeshine.ProcessTracker.Ownership
import Vibeshine.ProcessTracker.StopTree
import Vibeshine.ConfigFile.Grammar
import Vibeshine.SessionHistory.Interruption
import Vibeshine.SessionHistory.Completions
import Vibeshine.DisplayHelper.DeferredQueue
import Vibeshine.DisplayHelper.IgnoredDisarm
import Vibeshine.HelperIpc.BorrowGate
import Vibeshine.CaptureRecovery.Observations
import Vibeshine.DisplayHelper.ReturnedBaseline
import Vibeshine.DisplayHelper.RecoveryLaw
import Vibeshine.DisplayHelper.RestoreWindows
import Vibeshine.DisplayHelper.SavedPayload
import Vibeshine.AppCatalog.Stability
import Vibeshine.DisplayHelper.Heartbeat
import Vibeshine.Input.GeometryRuns
import Vibeshine.Capture.PresentTiming
import Vibeshine.Capture.FrameCustody
import Vibeshine.RemoteDisplay.Unpair
import Vibeshine.RemoteDisplay.AnyLayout
import Vibeshine.Nvenc.Invalidation
import Vibeshine.Audio.Timeline
import Vibeshine.RemoteSession.Identities
import Vibeshine.RemoteDisplay.PendingRuns
import Vibeshine.LogExport.Sanitizer
import Vibeshine.Steam.Appinfo
import Vibeshine.HttpAuth.Cookies
import Vibeshine.HttpAuth.LoginLimiter
import Vibeshine.Rtsp.Announce
import Vibeshine.Update.VersionCompare
import Vibeshine.ConfigFile.Hex
import Vibeshine.StateFile.Pairing

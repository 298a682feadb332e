import Castd.Lib.Action
import Castd.Lib.CharClass
import Castd.Lib.Choreography
import Castd.Lib.Codes
import Castd.Lib.Encode
import Castd.Lib.FileSystem
import Castd.Lib.Framing
import Castd.Lib.Pattern
import Castd.Lib.Pieces
import Castd.Lib.System
import Castd.Lib.Tlv
import Castd.Lib.Utf8
import Castd.Fsm.StateMachine
import Castd.Config
import Castd.Config.Checksum
import Castd.Config.Lines
import Castd.Config.Valid
import Castd.Health
import Castd.StreamWatchdog
import Castd.Render.Callers
import Castd.Render.FirstFrame
import Castd.Render.Framebuffer
import Castd.Render.IdleScreen
import Castd.Render.Process
import Castd.Airplay.ClientTracker
import Castd.Airplay.ProcessEnd
import Castd.Airplay.QrcodeWifi
import Castd.Airplay.UxPlay
import Castd.P2p.GroupNetwork
import Castd.P2p.GroupOwner
import Castd.P2p.Groups
import Castd.P2p.LeaseFile
import Castd.P2p.WfdIe
import Castd.Wfdsink.CapabilityAnswer
import Castd.Wfdsink.CapabilityBody
import Castd.Wfdsink.ControlSession
import Castd.Wfdsink.Conversation
import Castd.Wfdsink.Cuts
import Castd.Wfdsink.Handshake
import Castd.Wfdsink.HeaderLength
import Castd.Wfdsink.Message
import Castd.Wfdsink.MessageOrder
import Castd.Wfdsink.NegotiatorRun
import Castd.Wfdsink.Outbound
import Castd.Wfdsink.Pairing
import Castd.Wfdsink.PeerClose
import Castd.Wfdsink.ReadBack
import Castd.Wfdsink.Reader
import Castd.Wfdsink.RecvCalls
import Castd.Wfdsink.Rtsp
import Castd.Wfdsink.Scripted
import Castd.Wfdsink.Session
import Castd.Wfdsink.SessionResponse
import Castd.Wfdsink.SteadyState
import Castd.Wfdsink.Transcript
import Castd.Wfdsink.WindowsSource
import Castd.Main.Actions
import Castd.Main.AirplayLog
import Castd.Main.Arbitration
import Castd.Main.Availability
import Castd.Main.Cast
import Castd.Main.ColdStart
import Castd.Main.Daemon
import Castd.Main.Dial
import Castd.Main.Heartbeat
import Castd.Main.Isolation
import Castd.Main.Kiosk
import Castd.Main.Launch
import Castd.Main.Reroll
import Castd.Main.SessionEnd
import Castd.Main.SourceSession
import Castd.Main.Startup
import Castd.Main.StreamWatch
import Castd.Main.Supervision
import Castd.Main.Threads
import Castd.Main.UxPlayRecovery

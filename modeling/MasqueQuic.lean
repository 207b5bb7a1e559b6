import MasqueQuic.Quic.Reassembly
import MasqueQuic.Masque.Allocation
import MasqueQuic.Transport.HandlerEvents
import MasqueQuic.Transport.WriteSide
import MasqueQuic.Quic.HandshakeDone
import MasqueQuic.Quic.PathLimiter
import MasqueQuic.Quic.LocalReset
import MasqueQuic.Quic.CreditLeak
import MasqueQuic.Quic.LossDetection
import MasqueQuic.Quic.ImplicitAck
import MasqueQuic.Quic.PeerConnectionIds
import MasqueQuic.Quic.AckThreshold
import MasqueQuic.Quic.StreamAnnouncements
import MasqueQuic.Quic.AckTimestamps
import MasqueQuic.Quic.BuilderAgreement
import MasqueQuic.Quic.CubicInvariant
import MasqueQuic.Quic.ResumptionLimits
import MasqueQuic.Quic.BatchRuns
import MasqueQuic.Quic.WriteLimits
import MasqueQuic.Quic.CongestionWindow
import MasqueQuic.Quic.AmplificationLimit
import MasqueQuic.Quic.IntervalSet
import MasqueQuic.Quic.ParameterCodec
import MasqueQuic.Quic.Takeover
import MasqueQuic.Quic.LateAcks
import MasqueQuic.Quic.UnfinishedHandshakes
import MasqueQuic.Quic.RoutingRuns
import MasqueQuic.Masque.RouteRanges
import MasqueQuic.Masque.RequestPaths
import MasqueQuic.Masque.Detachment
import MasqueQuic.Masque.UdpFidelity
import MasqueQuic.Quic.PacketNumbers
import MasqueQuic.Quic.IntegerCodec
import MasqueQuic.Quic.QueueRuns
import MasqueQuic.Quic.AppenderRuns
import MasqueQuic.Quic.StatelessResets
import MasqueQuic.Quic.PacingCap
import MasqueQuic.Quic.CloseFrames
import MasqueQuic.Quic.KnobFormats
import MasqueQuic.Quic.StreamTurns
import MasqueQuic.Quic.CompletionRuns
import MasqueQuic.Quic.WriteCallbacks
import MasqueQuic.Quic.PacketProtection

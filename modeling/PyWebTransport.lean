import PyWebTransport.Protocol.ApplicationErrors
import PyWebTransport.Protocol.H3.Settings
import PyWebTransport.Protocol.H3.StreamPreamble
import PyWebTransport.Protocol.Session.KeyingMaterial
import PyWebTransport.Protocol.Session.HeadersFirst
import PyWebTransport.Protocol.Session.StreamTrace
import PyWebTransport.Protocol.H3.BoundedBuffers
import PyWebTransport.Protocol.H3.FrameTermination
import PyWebTransport.Protocol.GoawayIdentifier
import PyWebTransport.Protocol.EventQueue
import PyWebTransport.Protocol.GoawayRequests
import PyWebTransport.Protocol.CloseRoundTrip
import PyWebTransport.Protocol.HeaderAgreement
import PyWebTransport.Protocol.Session.StreamLimits
import PyWebTransport.Protocol.Session.BlockedSignals
import PyWebTransport.Protocol.VarintCursor
import PyWebTransport.Transport.SendBuffers
import PyWebTransport.Runtime.Waker
import PyWebTransport.Runtime.Transmits
import PyWebTransport.Api.ReadRuns

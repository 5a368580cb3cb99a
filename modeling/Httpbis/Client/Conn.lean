import Httpbis.Common.ConnWrite

/-! # The client connection

`client/conn.rs`: the client's `process_start` and `process_message` on the writer side and
its `process_headers` on the reader side. What they call in `common/conn.rs` (allocating a
stream id, creating a stream, resetting a stream, looking a stream up for a HEADERS frame)
is not among the sources and is modelled from the spec, as are the header-list checks of
`solicit/header.rs`, which the model takes as parameters.
-/

namespace Httpbis.Client

open Httpbis.Common Httpbis.Solicit.Frame

/-- Modelled from the spec: `ClientStreamCreatedHandler`, by what its `request_created`
    returns: a stream handler (`Ok`) or an error. -/
structure ClientStreamCreatedHandler where
  requestCreatedOk : Bool

/-- `StartRequestMessage`. -/
structure StartRequestMessage where
  headers : Headers
  body : Option (List UInt8)
  trailers : Option Headers
  endStream : Bool
  streamHandler : ClientStreamCreatedHandler

/-- `ClientToWriteMessage`; the sender of `WaitForHandshake` is not modelled. -/
inductive ClientToWriteMessage where
  | start (start : StartRequestMessage)
  | waitForHandshake
  | common (common : CommonToWriteMessage)

namespace Conn

/-- Modelled from the spec: a client connection after the handshake: no stream, the default
    connection window of 65535 bytes, an empty write queue and stream ids from 1. -/
def new (peerSettings : PeerSettings) (encoder : Headers → List EncodeBufCall) : Common.Conn :=
  ⟨.empty, 65535, 65535, .new, peerSettings, encoder, 1, 0⟩

/-- Modelled from the spec: `next_local_stream_id`, which starts at 1 and advances by 2. -/
def nextLocalStreamId (c : Common.Conn) : Nat × Common.Conn :=
  (c.nextStreamId, { c with nextStreamId := c.nextStreamId + 2 })

/-- Modelled from the spec: `new_stream_data`, a stream with the peer's initial window;
    inserting an id already in the map panics. -/
def newStreamData (c : Common.Conn) (streamId : Nat) (inMessageStage : InMessageStage) :
    Option Common.Conn :=
  match c.streams.get streamId with
  | some _ => none
  | none => some { c with streams := (c.streams.insert streamId
      (HttpStreamCommon.new c.peerSettings.initialWindowSize inMessageStage)).2 }

/-- The `Ok(handler)` branch of `process_start`: attach the handler, queue the headers, the
    body and the trailers, and end the stream when asked. -/
def startStream (start : StartRequestMessage) (s : HttpStreamCommon) : HttpStreamCommon :=
  let s := { s with peerTx := true }
  let s := s.pushBack (.headers start.headers)
  let s := match start.body with
    | some body => s.pushBack (.data body)
    | none => s
  let s := match start.trailers with
    | some trailers => s.pushBack (.headers trailers)
    | none => s
  if start.endStream then s.closeOutgoing .noError else s

/-- The match on `request_created` in `process_start`: its `Err` branch closes the stream
    with `InternalError`. -/
def requestCreated (start : StartRequestMessage) (s : HttpStreamCommon) : HttpStreamCommon :=
  if start.streamHandler.requestCreatedOk then startStream start s
  else s.closeOutgoing .internalError

/-- `process_start`. The buffering pass at the end runs with `fuel` rounds. -/
def processStart (c : Common.Conn) (fuel : Nat) (start : StartRequestMessage) :
    Option Common.Conn := do
  let (streamId, c) := nextLocalStreamId c
  let c ← newStreamData c streamId .initial
  let c := { c with streams := c.streams.update streamId (requestCreated start) }
  let (c, _) ← c.bufferOutgConn fuel
  pure c

/-- `process_message`. -/
def processMessage (c : Common.Conn) (fuel : Nat) : ClientToWriteMessage → Option Common.Conn
  | .start start => processStart c fuel start
  | .common common => some (c.processCommonMessage common)
  | .waitForHandshake => some c

end Conn

end Httpbis.Client

import Httpbis.Common.StreamMap
import Httpbis.Solicit.Frame.Data
import Httpbis.Solicit.Frame.HeadersMultiFrame

/-! # The write queue

`QueuedWrite` and `HttpFrame` are not among the sources. From the spec: the writer owns the
output byte buffer; every frame is serialized into it in queue order and flushed to the
transport when it is writable; once a GOAWAY is queued, no new frame queues behind it.

The model keeps the frames in queue order and the number of bytes already flushed, as
`WriteBuffer` keeps its data and position: the queued bytes are the serialized frames past
that point. A HEADERS frame counts the bytes of the frames `HeadersMultiFrame::serialize_into`
writes, one HEADERS or CONTINUATION frame per chunk of the encoded block.
-/

namespace Httpbis.Common

open Httpbis.Solicit.Frame

/-- Modelled from the spec: `HttpFrame`, the frames the writer queues. -/
inductive HttpFrame where
  | data (f : DataFrame)
  | headers (f : HeadersMultiFrame)
  | rstStream (f : RstStreamFrame)
  | settingsAck
  | pingAck (opaqueData : List UInt8)
  | goaway (lastStreamId : Nat) (errorCode : ErrorCode)
  | windowUpdate (streamId : Nat) (increment : Nat)

namespace HttpFrame

/-- The serialized length: the 9-byte header and the payload of each frame. -/
def len : HttpFrame → Nat
  | .data f => FRAME_HEADER_LEN + f.payloadLen
  | .headers f =>
      (referenceFrames f.streamId f.flags true
        (referenceSplit f.maxFrameSize (writtenBytes f.encoderCalls).flatten)).length
  | .rstStream _ => FRAME_HEADER_LEN + RST_STREAM_FRAME_LEN
  | .settingsAck => FRAME_HEADER_LEN
  | .pingAck _ => FRAME_HEADER_LEN + 8
  | .goaway _ _ => FRAME_HEADER_LEN + 8
  | .windowUpdate _ _ => FRAME_HEADER_LEN + 4

/-- The stream of a DATA, HEADERS or RST_STREAM frame, the frames `write_part` queues. -/
def partStreamId : HttpFrame → Option Nat
  | .data f => some f.streamId
  | .headers f => some f.streamId
  | .rstStream f => some f.streamId
  | _ => none

@[simp] theorem partStreamId_data (f : DataFrame) : (data f).partStreamId = some f.streamId := rfl

@[simp] theorem partStreamId_headers (f : HeadersMultiFrame) :
    (headers f).partStreamId = some f.streamId := rfl

@[simp] theorem partStreamId_rstStream (f : RstStreamFrame) :
    (rstStream f).partStreamId = some f.streamId := rfl

end HttpFrame

/-- The bytes of a list of frames. -/
def framesLen (fs : List HttpFrame) : Nat := (fs.map HttpFrame.len).sum

@[simp] theorem framesLen_nil : framesLen [] = 0 := rfl

@[simp] theorem framesLen_append (fs gs : List HttpFrame) :
    framesLen (fs ++ gs) = framesLen fs + framesLen gs := by
  simp [framesLen]

@[simp] theorem framesLen_singleton (f : HttpFrame) : framesLen [f] = f.len := by
  simp [framesLen]

theorem framesLen_replicate (n : Nat) (f : HttpFrame) : framesLen (List.replicate n f) = n * f.len := by
  simp [framesLen, List.map_replicate, List.sum_replicate]

/-- Modelled from the spec: `QueuedWrite`, the frames queued so far and the bytes of them
    already handed to the transport. -/
structure QueuedWrite where
  frames : List HttpFrame
  flushed : Nat
  goawayQueued : Bool
  flushed_le : flushed ≤ framesLen frames

namespace QueuedWrite

/-- An empty queue. -/
def new : QueuedWrite := ⟨[], 0, false, le_rfl⟩

/-- `queued_bytes_len`. -/
def queuedBytesLen (q : QueuedWrite) : Nat := framesLen q.frames - q.flushed

/-- `queue_not_goaway`: nothing queues behind a GOAWAY. -/
def queueNotGoaway (q : QueuedWrite) (f : HttpFrame) : QueuedWrite :=
  if q.goawayQueued then q
  else ⟨q.frames ++ [f], q.flushed, false, by simp; have := q.flushed_le; omega⟩

/-- Queue frames one after the other. -/
def queueAll (q : QueuedWrite) (fs : List HttpFrame) : QueuedWrite := fs.foldl queueNotGoaway q

/-- `queue_goaway`. -/
def queueGoaway (q : QueuedWrite) (f : HttpFrame) : QueuedWrite :=
  if q.goawayQueued then q
  else ⟨q.frames ++ [f], q.flushed, true, by simp; have := q.flushed_le; omega⟩

/-- `poll`: the transport accepts `accepted` bytes, at most those queued. -/
def poll (q : QueuedWrite) (accepted : Nat) : QueuedWrite :=
  ⟨q.frames, q.flushed + min accepted q.queuedBytesLen, q.goawayQueued,
    by unfold queuedBytesLen; have := q.flushed_le; omega⟩

/-- `queued_empty`. -/
def queuedEmpty (q : QueuedWrite) : Bool := q.queuedBytesLen == 0

theorem queueNotGoaway_frames (q : QueuedWrite) (f : HttpFrame) :
    (q.queueNotGoaway f).frames = if q.goawayQueued then q.frames else q.frames ++ [f] := by
  unfold queueNotGoaway; split <;> rfl

@[simp] theorem queueNotGoaway_goawayQueued (q : QueuedWrite) (f : HttpFrame) :
    (q.queueNotGoaway f).goawayQueued = q.goawayQueued := by
  unfold queueNotGoaway; split <;> simp_all

theorem queuedBytesLen_queueNotGoaway (q : QueuedWrite) (f : HttpFrame) :
    (q.queueNotGoaway f).queuedBytesLen =
      q.queuedBytesLen + if q.goawayQueued then 0 else f.len := by
  have := q.flushed_le
  unfold queueNotGoaway queuedBytesLen
  split
  · simp_all
  · simp; omega

@[simp] theorem queueNotGoaway_flushed (q : QueuedWrite) (f : HttpFrame) :
    (q.queueNotGoaway f).flushed = q.flushed := by
  unfold queueNotGoaway; split <;> rfl

theorem queueGoaway_frames (q : QueuedWrite) (f : HttpFrame) :
    (q.queueGoaway f).frames = if q.goawayQueued then q.frames else q.frames ++ [f] := by
  unfold queueGoaway; split <;> rfl

@[simp] theorem queueGoaway_flushed (q : QueuedWrite) (f : HttpFrame) :
    (q.queueGoaway f).flushed = q.flushed := by
  unfold queueGoaway; split <;> rfl

@[simp] theorem queueGoaway_goawayQueued (q : QueuedWrite) (f : HttpFrame) :
    (q.queueGoaway f).goawayQueued = true := by
  unfold queueGoaway; split <;> simp_all

@[simp] theorem poll_frames (q : QueuedWrite) (accepted : Nat) : (q.poll accepted).frames = q.frames := rfl

@[simp] theorem poll_goawayQueued (q : QueuedWrite) (accepted : Nat) :
    (q.poll accepted).goawayQueued = q.goawayQueued := rfl

@[simp] theorem poll_flushed (q : QueuedWrite) (accepted : Nat) :
    (q.poll accepted).flushed = q.flushed + min accepted q.queuedBytesLen := rfl

@[simp] theorem queueAll_nil (q : QueuedWrite) : q.queueAll [] = q := rfl

@[simp] theorem queueAll_cons (q : QueuedWrite) (f : HttpFrame) (fs : List HttpFrame) :
    q.queueAll (f :: fs) = (q.queueNotGoaway f).queueAll fs := rfl

@[simp] theorem queueAll_goawayQueued (q : QueuedWrite) (fs : List HttpFrame) :
    (q.queueAll fs).goawayQueued = q.goawayQueued := by
  induction fs generalizing q <;> simp_all

theorem queueAll_frames (q : QueuedWrite) (fs : List HttpFrame) :
    (q.queueAll fs).frames = if q.goawayQueued then q.frames else q.frames ++ fs := by
  induction fs generalizing q with
  | nil => simp
  | cons f fs ih => rw [queueAll_cons, ih, queueNotGoaway_frames]; split <;> simp_all

theorem queuedBytesLen_queueAll (q : QueuedWrite) (fs : List HttpFrame) :
    (q.queueAll fs).queuedBytesLen = q.queuedBytesLen + if q.goawayQueued then 0 else framesLen fs := by
  induction fs generalizing q with
  | nil => simp
  | cons f fs ih =>
      rw [queueAll_cons, ih, queuedBytesLen_queueNotGoaway, queueNotGoaway_goawayQueued]
      split <;> simp [framesLen]; omega

end QueuedWrite

end Httpbis.Common

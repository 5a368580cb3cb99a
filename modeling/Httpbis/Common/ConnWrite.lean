import Httpbis.Common.QueuedWrite

/-! # The connection writer

`common/conn_write.rs`: the writer half of a connection. Stream parts become frames in
`write_part`, `buffer_outg_conn` drains the writable streams into the write queue while it is
below the `0x8000` watermark, and `send_frame_and_notify`, `send_ack_settings` and
`send_goaway` queue frames directly. The connection state itself lives in
`common/conn.rs`, which is not among the sources: `Conn` holds the fields these functions
read, with the settings and the HPACK encoder as the spec describes them.
-/

namespace Httpbis.Common

open Httpbis.Solicit.Frame

/-- Modelled from the spec: the peer settings the writer reads. -/
structure PeerSettings where
  maxFrameSize : Nat
  initialWindowSize : Int

/-- Modelled from the spec: `Conn`, the connection state of the writer. The HPACK encoder is
    the calls it makes on the frame sink for a header list. -/
structure Conn where
  streams : StreamMap HttpStreamCommon
  outWindowSize : Int
  pumpOutWindowSize : Int
  queuedWrite : QueuedWrite
  peerSettings : PeerSettings
  encoder : Headers → List EncodeBufCall
  nextStreamId : Nat
  lastPeerStreamId : Nat

/-- `CommonToWriteMessage`; the body stream of `Pull` and the sender of `DumpState` are not
    modelled, the writer changes no state for them. -/
inductive CommonToWriteMessage where
  | increaseInWindow (streamId increase : Nat)
  | streamEnqueue (streamId : Nat) (part : DataOrHeadersWithFlag)
  | streamEnd (streamId : Nat) (errorCode : ErrorCode)
  | pull (streamId : Nat)
  | dumpState

/-- How the inner `loop` of `buffer_outg_conn` leaves a stream: `ret` is the `return` at the
    watermark, `brk` the `break` to the next stream. -/
inductive LoopExit where
  | ret (c : Conn) (updated : Bool)
  | brk (c : Conn) (updated : Bool)

namespace Conn

/-- The connection with another write queue. -/
def withQueue (c : Conn) (q : QueuedWrite) : Conn := { c with queuedWrite := q }

/-! ## `write_part_data` -/

/-- The DATA frame `write_part_data` builds for one chunk. -/
def dataFrame (streamId : Nat) (chunk : List UInt8) (endStreamInFrame : EndStream) : DataFrame :=
  let frame := DataFrame.withData streamId chunk
  if endStreamInFrame = .yes then frame.setFlag .endStream else frame

/-- The `while pos < data.len()` loop of `write_part_data`, with `fuel` rounds left; `none` is
    the loop still running when the fuel ends. -/
def writePartDataLoop (streamId : Nat) (data : List UInt8) (endStream : EndStream)
    (maxFrameSize : Nat) : Nat → Nat → QueuedWrite → Option QueuedWrite
  | 0, pos, q => if pos < data.length then none else some q
  | fuel + 1, pos, q =>
      if pos < data.length then
        let end_ := min data.length (pos + maxFrameSize)
        let endStreamInFrame := if end_ = data.length ∧ endStream = .yes then EndStream.yes else .no
        let frame := dataFrame streamId ((data.drop pos).take (end_ - pos)) endStreamInFrame
        writePartDataLoop streamId data endStream maxFrameSize fuel end_
          (q.queueNotGoaway (.data frame))
      else some q

/-- `write_part_data`: one empty END_STREAM frame for an empty last part, else the data cut
    at `max_frame_size`. -/
def writePartData (c : Conn) (fuel streamId : Nat) (data : List UInt8) (endStream : EndStream) :
    Option Conn :=
  let maxFrameSize := c.peerSettings.maxFrameSize
  if endStream = .yes ∧ data.length = 0 then
    some (c.withQueue (c.queuedWrite.queueNotGoaway (.data (dataFrame streamId [] .yes))))
  else (writePartDataLoop streamId data endStream maxFrameSize fuel 0 c.queuedWrite).map c.withQueue

/-- Queue DATA frames one after the other. -/
def queueData (q : QueuedWrite) (fs : List DataFrame) : QueuedWrite :=
  fs.foldl (fun q f => q.queueNotGoaway (.data f)) q

@[simp] theorem queueData_nil (q : QueuedWrite) : queueData q [] = q := rfl

@[simp] theorem queueData_cons (q : QueuedWrite) (f : DataFrame) (fs : List DataFrame) :
    queueData q (f :: fs) = queueData (q.queueNotGoaway (.data f)) fs := rfl

theorem queueData_frames (q : QueuedWrite) (fs : List DataFrame) (hq : q.goawayQueued = false) :
    (queueData q fs).frames = q.frames ++ fs.map .data := by
  induction fs generalizing q with
  | nil => simp
  | cons f fs ih =>
      rw [queueData_cons, ih _ (by simpa using hq), QueuedWrite.queueNotGoaway_frames, hq]
      simp

@[simp] theorem dataFrame_streamId (streamId : Nat) (chunk : List UInt8) (e : EndStream) :
    (dataFrame streamId chunk e).streamId = streamId := by
  unfold dataFrame; split <;> rfl

@[simp] theorem dataFrame_data (streamId : Nat) (chunk : List UInt8) (e : EndStream) :
    (dataFrame streamId chunk e).data = chunk := by
  unfold dataFrame; split <;> rfl

@[simp] theorem dataFrame_paddingLen (streamId : Nat) (chunk : List UInt8) (e : EndStream) :
    (dataFrame streamId chunk e).paddingLen = 0 := by
  unfold dataFrame; split <;> rfl

theorem dataFrame_flags (streamId : Nat) (chunk : List UInt8) (e : EndStream) :
    (dataFrame streamId chunk e).flags = if e = .yes then DataFlag.endStream.bitmask else 0 := by
  simp only [dataFrame]
  split
  · exact (by decide : withFlag 0 DataFlag.endStream.bitmask = DataFlag.endStream.bitmask)
  · rfl

/-- What the loop queues from `pos` on: the rest of the data, cut into chunks of at most
    `max_frame_size` bytes, all non-empty, END_STREAM on the last one only. -/
theorem writePartDataLoop_spec (streamId : Nat) (data : List UInt8) (endStream : EndStream)
    {maxFrameSize : Nat} (hmax : 0 < maxFrameSize) :
    ∀ fuel pos q, pos ≤ data.length → data.length - pos < fuel →
      ∃ fs, writePartDataLoop streamId data endStream maxFrameSize fuel pos q = some (queueData q fs) ∧
        (fs.map DataFrame.data).flatten = data.drop pos ∧
        (∀ f ∈ fs, f.streamId = streamId ∧ f.paddingLen = 0 ∧ f.data ≠ [] ∧
          f.data.length ≤ maxFrameSize) ∧
        fs.length = (data.length - pos + maxFrameSize - 1) / maxFrameSize ∧
        (∀ f ∈ fs.dropLast, f.flags = 0) ∧
        (∀ f ∈ fs.getLast?, f.flags = if endStream = .yes then DataFlag.endStream.bitmask else 0) := by
  intro fuel
  induction fuel with
  | zero => intro pos q _ h; omega
  | succ fuel ih =>
    intro pos q hpos hfuel
    by_cases hlt : pos < data.length
    · set end_ := min data.length (pos + maxFrameSize) with hend
      obtain ⟨fs, hrun, hcat, hall, hcount, hmid, hlast⟩ :=
        ih end_ (q.queueNotGoaway (.data (dataFrame streamId ((data.drop pos).take (end_ - pos))
          (if end_ = data.length ∧ endStream = .yes then .yes else .no)))) (by omega) (by omega)
      have hnil : fs = [] ↔ end_ = data.length := by
        rw [← List.length_eq_zero, hcount, Nat.div_eq_zero_iff hmax]; omega
      refine ⟨_ :: fs, by rw [writePartDataLoop, if_pos hlt]; exact hrun, ?_, ?_, ?_, ?_, ?_⟩
      · have hdrop : data.drop end_ = (data.drop pos).drop (end_ - pos) := by
          rw [List.drop_drop]; congr 1; omega
        rw [List.map_cons, List.flatten_cons, hcat, dataFrame_data, hdrop, List.take_append_drop]
      · have hchunk : ((data.drop pos).take (end_ - pos)).length = end_ - pos := by
          rw [List.length_take, List.length_drop]; omega
        refine List.forall_mem_cons.mpr ⟨⟨dataFrame_streamId .., dataFrame_paddingLen .., ?_, ?_⟩, hall⟩
        · rw [dataFrame_data]; exact List.ne_nil_of_length_pos (by omega)
        · rw [dataFrame_data, hchunk]; omega
      · rw [List.length_cons, hcount]
        by_cases he : end_ = data.length
        · have h1 : (data.length - pos + maxFrameSize - 1) / maxFrameSize = 1 :=
            Nat.div_eq_of_lt_le (by omega) (by omega)
          rw [he, Nat.sub_self, zero_add, Nat.div_eq_of_lt (by omega), h1]
        · rw [← Nat.add_div_right _ hmax]; congr 1; omega
      · by_cases he : end_ = data.length
        · simp [hnil.mpr he]
        · rw [List.dropLast_cons_of_ne_nil (mt hnil.mp he)]
          refine List.forall_mem_cons.mpr ⟨?_, hmid⟩
          simp [dataFrame_flags, he]
      · by_cases he : end_ = data.length
        · simp [hnil.mpr he, dataFrame_flags, he]
        · obtain ⟨b, l, rfl⟩ := List.exists_cons_of_ne_nil (mt hnil.mp he)
          rwa [List.getLast?_cons_cons]
    · refine ⟨[], by simp [writePartDataLoop, hlt], by simp; omega, by simp, ?_, by simp, by simp⟩
      simp only [List.length_nil]
      rw [show data.length - pos = 0 by omega, zero_add, Nat.div_eq_of_lt (by omega)]

/-- `write_part_data` returns, and hands `queue_not_goaway` DATA frames on the stream, in order:
    their payloads make up the data, each of at most `max_frame_size` bytes and none empty, as
    many as `max_frame_size` goes into the data rounded up, END_STREAM on the last one exactly
    when the part ends the stream; empty data gives one empty END_STREAM frame or none. -/
theorem writePartData_queues_frames (c : Conn) (streamId : Nat) (data : List UInt8)
    (endStream : EndStream) (hmax : 0 < c.peerSettings.maxFrameSize) (fuel : Nat)
    (hfuel : data.length < fuel) :
    ∃ fs : List DataFrame,
      c.writePartData fuel streamId data endStream = some (c.withQueue (queueData c.queuedWrite fs)) ∧
      (fs.map DataFrame.data).flatten = data ∧
      (∀ f ∈ fs, f.streamId = streamId ∧ f.paddingLen = 0 ∧
        f.data.length ≤ c.peerSettings.maxFrameSize ∧ (data ≠ [] → f.data ≠ [])) ∧
      (data ≠ [] →
        fs.length = (data.length + c.peerSettings.maxFrameSize - 1) / c.peerSettings.maxFrameSize) ∧
      (∀ f ∈ fs.dropLast, f.flags = 0) ∧
      (∀ f ∈ fs.getLast?, f.flags = if endStream = .yes then DataFlag.endStream.bitmask else 0) ∧
      (data = [] → fs.length = if endStream = .yes then 1 else 0) := by
  unfold writePartData
  by_cases hempty : endStream = .yes ∧ data.length = 0
  · obtain ⟨rfl, hlen⟩ := hempty
    obtain rfl := List.eq_nil_of_length_eq_zero hlen
    refine ⟨[dataFrame streamId [] .yes], by simp, by simp, by simp, fun h => absurd rfl h, by simp,
      by simp [dataFrame_flags], by simp⟩
  · obtain ⟨fs, hrun, hcat, hall, hcount, hmid, hlast⟩ :=
      writePartDataLoop_spec streamId data endStream hmax fuel 0 c.queuedWrite (Nat.zero_le _)
        (by omega)
    refine ⟨fs, by rw [if_neg hempty, hrun]; rfl, by simpa using hcat, fun f hf => ?_,
      fun _ => by rw [hcount, Nat.sub_zero], hmid, hlast, fun hnil => ?_⟩
    · obtain ⟨h1, h2, h3, h4⟩ := hall f hf
      exact ⟨h1, h2, h4, fun _ => h3⟩
    · subst hnil
      have : endStream ≠ .yes := fun h => hempty ⟨h, rfl⟩
      simp only [List.length_nil, Nat.sub_zero, zero_add] at hcount
      rw [hcount, Nat.div_eq_of_lt (by omega), if_neg this]

theorem writePartData_five_bytes :
    ∃ fs : List DataFrame,
      (⟨.empty, 65535, 65535, .new, ⟨2, 65535⟩, fun _ => [], 1, 0⟩ : Conn).writePartData 6 1
          [1, 2, 3, 4, 5] .yes =
        some ((⟨.empty, 65535, 65535, .new, ⟨2, 65535⟩, fun _ => [], 1, 0⟩ : Conn).withQueue
          (queueData .new fs)) ∧
      (fs.map DataFrame.data).flatten = [1, 2, 3, 4, 5] ∧ fs.length = 3 := by
  obtain ⟨fs, hrun, hcat, -, hcount, -⟩ := writePartData_queues_frames
    ⟨.empty, 65535, 65535, .new, ⟨2, 65535⟩, fun _ => [], 1, 0⟩ 1 [1, 2, 3, 4, 5] .yes
    (by decide) 6 (by decide)
  exact ⟨fs, hrun, hcat, (hcount (by simp)).trans rfl⟩

/-! ## Parts, the buffering pass and the direct sends -/

/-- `write_part_headers`: the header block as one HEADERS frame and its CONTINUATIONs. -/
def writePartHeaders (c : Conn) (streamId : Nat) (headers : Headers) (endStream : EndStream) :
    Conn :=
  let flags : UInt8 := if endStream = .yes then withFlag 0 HeadersFlag.endStream.bitmask else 0
  c.withQueue (c.queuedWrite.queueNotGoaway
    (.headers ⟨flags, streamId, c.encoder headers, c.peerSettings.maxFrameSize⟩))

/-- `write_part_rst`. -/
def writePartRst (c : Conn) (streamId : Nat) (errorCode : ErrorCode) : Conn :=
  c.withQueue (c.queuedWrite.queueNotGoaway (.rstStream (RstStreamFrame.new streamId errorCode)))

/-- `write_part`. -/
def writePart (c : Conn) (fuel streamId : Nat) : HttpStreamCommand → Option Conn
  | .data d endStream => c.writePartData fuel streamId d endStream
  | .headers h endStream => some (c.writePartHeaders streamId h endStream)
  | .rst errorCode => some (c.writePartRst streamId errorCode)

theorem queueData_eq_queueAll (q : QueuedWrite) (fs : List DataFrame) :
    queueData q fs = q.queueAll (fs.map .data) := by
  induction fs generalizing q with
  | nil => rfl
  | cons f fs ih => exact ih _

/-- Whatever the fuel, a loop that ends has queued DATA frames on its stream, at least one when
    data was left. -/
theorem writePartDataLoop_frames {streamId : Nat} {data : List UInt8} {endStream : EndStream}
    {maxFrameSize : Nat} :
    ∀ {fuel pos q q'}, writePartDataLoop streamId data endStream maxFrameSize fuel pos q = some q' →
      ∃ fs, q' = queueData q fs ∧ (∀ f ∈ fs, f.streamId = streamId) ∧ (pos < data.length → fs ≠ [])
  | 0, pos, q, q', h => by
      simp only [writePartDataLoop] at h
      split_ifs at h with hlt
      obtain rfl := Option.some.inj h
      exact ⟨[], rfl, by simp, fun h => absurd h hlt⟩
  | fuel + 1, pos, q, q', h => by
      simp only [writePartDataLoop] at h
      by_cases hlt : pos < data.length
      · rw [if_pos hlt] at h
        obtain ⟨fs, rfl, hall, -⟩ := writePartDataLoop_frames h
        exact ⟨_ :: fs, rfl, List.forall_mem_cons.mpr ⟨dataFrame_streamId .., hall⟩,
          fun _ => List.cons_ne_nil _ _⟩
      · rw [if_neg hlt] at h
        obtain rfl := Option.some.inj h
        exact ⟨[], rfl, by simp, fun h => absurd h hlt⟩

/-- What `write_part` queues: frames on the stream, none only for an empty data part, and a
    header block as one HEADERS frame. -/
theorem writePart_eq {c c' : Conn} {fuel streamId : Nat} {part : HttpStreamCommand}
    (h : c.writePart fuel streamId part = some c') :
    ∃ fs, c' = c.withQueue (c.queuedWrite.queueAll fs) ∧
      (∀ f ∈ fs, f.partStreamId = some streamId) ∧ (fs = [] → part = .data [] .no) ∧
      (∀ hs es, part = .headers hs es → ∃ f, fs = [.headers f]) := by
  cases part with
  | data d es =>
      simp only [writePart, writePartData] at h
      split_ifs at h with hempty
      · cases h
        exact ⟨[_], rfl, by simp, fun h => (nomatch h), fun _ _ h => nomatch h⟩
      · obtain ⟨q', hloop, rfl⟩ := Option.map_eq_some'.mp h
        obtain ⟨fs, rfl, hall, hne⟩ := writePartDataLoop_frames hloop
        refine ⟨fs.map .data, by rw [queueData_eq_queueAll], fun f hf => ?_, fun hnil => ?_,
          fun _ _ h => nomatch h⟩
        · obtain ⟨g, hg, rfl⟩ := List.mem_map.mp hf
          exact congrArg some (hall g hg)
        have hd : d = [] := List.eq_nil_of_length_eq_zero
          (Nat.eq_zero_of_not_pos fun hpos => hne hpos (List.map_eq_nil_iff.mp hnil))
        subst hd
        cases es
        · exact absurd ⟨rfl, rfl⟩ hempty
        · rfl
  | headers hs es =>
      cases h
      exact ⟨[_], rfl, by simp, fun h => (nomatch h), fun _ _ _ => ⟨_, rfl⟩⟩
  | rst code =>
      cases h
      exact ⟨[_], rfl, by simp [RstStreamFrame.new], fun h => (nomatch h), fun _ _ h => nomatch h⟩

/-- `has_write_buffer_capacity`. -/
def hasWriteBufferCapacity (c : Conn) : Bool := c.queuedWrite.queuedBytesLen < 0x8000

/-- `pop_outg_for_stream`; `get_mut(stream_id).unwrap()` panics on an id not in the map. The
    stream's `pop_outg_maybe_remove` is modelled from the spec: it pops a part and removes the
    stream when that closed it. -/
def popOutgForStream (c : Conn) (streamId : Nat) :
    Option (Option (Nat × HttpStreamCommand × Bool) × Conn) :=
  match c.streams.get streamId with
  | none => none
  | some s =>
      match s.popOutg c.outWindowSize with
      | none => some (none, c)
      | some (command, s, w) =>
          if s.isClosed then
            some (some (streamId, command, false),
              { c with streams := c.streams.remove streamId, outWindowSize := w })
          else
            some (some (streamId, command, true),
              { c with streams := c.streams.update streamId fun _ => s, outWindowSize := w })

/-- The inner `loop` of `buffer_outg_conn` on one stream, with `n` rounds left. -/
def bufferStream (fuel streamId : Nat) : Nat → Conn → Bool → Option LoopExit
  | 0, _, _ => none
  | n + 1, c, updated =>
      if !c.hasWriteBufferCapacity then some (.ret c updated)
      else
        match c.popOutgForStream streamId with
        | none => none
        | some (none, c) => some (.brk c updated)
        | some (some (id, part, cont), c) =>
            match c.writePart fuel id part with
            | none => none
            | some c => if cont then bufferStream fuel streamId n c true else some (.brk c true)

/-- The `for` of `buffer_outg_conn` over the writable ids. -/
def bufferStreams (fuel : Nat) : List Nat → Conn → Bool → Option (Conn × Bool)
  | [], c, updated => some (c, updated)
  | streamId :: ids, c, updated =>
      match bufferStream fuel streamId fuel c updated with
      | none => none
      | some (.ret c updated) => some (c, updated)
      | some (.brk c updated) => bufferStreams fuel ids c updated

/-- Modelled from the spec: `writable_stream_ids`, in increasing order. -/
def writableStreamIds (c : Conn) : List Nat := c.streams.idsWhere HttpStreamCommon.isWritable

/-- `buffer_outg_conn`, with `fuel` rounds for each of its loops. -/
def bufferOutgConn (fuel : Nat) (c : Conn) : Option (Conn × Bool) :=
  if !c.hasWriteBufferCapacity then some (c, false)
  else bufferStreams fuel c.writableStreamIds c false

/-- `send_frame_and_notify`. -/
def sendFrameAndNotify (c : Conn) (frame : HttpFrame) : Conn :=
  c.withQueue (c.queuedWrite.queueNotGoaway frame)

/-- `send_ack_settings`. -/
def sendAckSettings (c : Conn) : Conn := c.sendFrameAndNotify .settingsAck

/-- `send_goaway`. -/
def sendGoaway (c : Conn) (errorCode : ErrorCode) : Conn :=
  c.withQueue (c.queuedWrite.queueGoaway (.goaway c.lastPeerStreamId errorCode))

/-- `process_stream_end`. -/
def processStreamEnd (c : Conn) (streamId : Nat) (errorCode : ErrorCode) : Conn :=
  { c with streams := c.streams.update streamId (·.closeOutgoing errorCode) }

/-- `process_stream_enqueue`: data for a stream that is gone returns its window to the pump. -/
def processStreamEnqueue (c : Conn) (streamId : Nat) (part : DataOrHeadersWithFlag) : Conn :=
  match c.streams.get streamId, part.content with
  | some _, _ => { c with streams := c.streams.update streamId (·.pushBackPart part) }
  | none, .data d => { c with pumpOutWindowSize := c.pumpOutWindowSize + d.length }
  | none, .headers _ => c

/-- Modelled from the spec: `increase_in_window`, a WINDOW_UPDATE for a stream in the map. -/
def increaseInWindow (c : Conn) (streamId increase : Nat) : Conn :=
  match c.streams.get streamId with
  | some _ => c.sendFrameAndNotify (.windowUpdate streamId increase)
  | none => c

/-- `process_common_message`. -/
def processCommonMessage (c : Conn) : CommonToWriteMessage → Conn
  | .streamEnd streamId errorCode => c.processStreamEnd streamId errorCode
  | .streamEnqueue streamId part => c.processStreamEnqueue streamId part
  | .pull _ => c
  | .increaseInWindow streamId increase => c.increaseInWindow streamId increase
  | .dumpState => c

/-- An `IncreaseInWindow` command for a stream in the map queues its WINDOW_UPDATE, whatever the
    queue holds. -/
theorem processCommonMessage_increaseInWindow {c : Conn} {streamId : Nat} {s : HttpStreamCommon}
    (hs : c.streams.get streamId = some s) (increase : Nat) :
    c.processCommonMessage (.increaseInWindow streamId increase) =
      c.sendFrameAndNotify (.windowUpdate streamId increase) := by
  simp only [processCommonMessage, increaseInWindow, hs]

/-- Everything a writer command does: queue a frame on no stream (WINDOW_UPDATE), only add to
    one stream or end it, or move the pump's window. -/
theorem processCommonMessage_cases (c : Conn) (m : CommonToWriteMessage) :
    (∃ f : HttpFrame, f.partStreamId = none ∧ c.processCommonMessage m = c.sendFrameAndNotify f) ∨
    (∃ id f, (∀ s, HttpStreamCommon.Extends s (f s)) ∧
      c.processCommonMessage m = { c with streams := c.streams.update id f }) ∨
    ∃ p, c.processCommonMessage m = { c with pumpOutWindowSize := p } := by
  cases m with
  | increaseInWindow streamId increase =>
      simp only [processCommonMessage, increaseInWindow]
      split
      · exact .inl ⟨.windowUpdate streamId increase, rfl, rfl⟩
      · exact .inr (.inr ⟨c.pumpOutWindowSize, rfl⟩)
  | streamEnqueue streamId part =>
      simp only [processCommonMessage, processStreamEnqueue]
      split
      · exact .inr (.inl ⟨streamId, _, fun s => HttpStreamCommon.extends_pushBackPart s part, rfl⟩)
      · exact .inr (.inr ⟨_, rfl⟩)
      · exact .inr (.inr ⟨c.pumpOutWindowSize, rfl⟩)
  | streamEnd streamId errorCode =>
      exact .inr (.inl ⟨streamId, _, fun s => HttpStreamCommon.extends_closeOutgoing s errorCode, rfl⟩)
  | pull => exact .inr (.inr ⟨c.pumpOutWindowSize, rfl⟩)
  | dumpState => exact .inr (.inr ⟨c.pumpOutWindowSize, rfl⟩)

end Conn

end Httpbis.Common

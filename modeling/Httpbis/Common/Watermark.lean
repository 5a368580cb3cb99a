import Httpbis.Common.BufferOutg
import Httpbis.Common.ConnRead

/-! # The write watermark

`has_write_buffer_capacity` gates every part write of `buffer_outg_conn`: a part is written
only while the queue holds fewer than 0x8000 bytes. The direct sends `send_frame_and_notify`,
`send_ack_settings` and `send_goaway` are not gated, nor is the RST_STREAM that
`send_rst_stream` queues when the reader resets a stream. While the transport accepts nothing,
the queue therefore splits at the last stream part written: what was queued before it is below
the watermark, then come the frames of that part, then only frames of those direct sends.
-/

namespace Httpbis.Common

open Httpbis.Solicit.Frame

/-- The frames one `write_part` call appends to the queue. -/
def PartFrames (part : List HttpFrame) : Prop :=
  part = [] ∨ ∃ (c c' : Conn) (fuel streamId : Nat) (command : HttpStreamCommand),
    c.writePart fuel streamId command = some c' ∧ c'.queuedWrite.frames = c.queuedWrite.frames ++ part

/-- A frame the direct sends queue without looking at the watermark: a frame on no stream
    (SETTINGS and PING acks, WINDOW_UPDATE, GOAWAY), or the RST_STREAM of `send_rst_stream`. -/
def HttpFrame.SentDirectly (f : HttpFrame) : Prop :=
  f.partStreamId = none ∨ ∃ streamId errorCode, f = .rstStream (RstStreamFrame.new streamId errorCode)

namespace QueuedWrite

/-- The queue split at the last stream part written: the bytes queued before it and not yet
    flushed were below the watermark, and after it only the direct sends queued frames. -/
def WatermarkSplit (q : QueuedWrite) : Prop :=
  ∃ pre part post, q.frames = pre ++ part ++ post ∧ framesLen pre - q.flushed < 0x8000 ∧
    PartFrames part ∧ ∀ f ∈ post, f.SentDirectly

theorem WatermarkSplit.of_frames {q q' : QueuedWrite} (h : q.WatermarkSplit)
    (hframes : q'.frames = q.frames) (hflushed : q'.flushed = q.flushed) : q'.WatermarkSplit := by
  obtain ⟨pre, part, post, hq, hpre, hpart, hpost⟩ := h
  exact ⟨pre, part, post, hframes.trans hq, hflushed ▸ hpre, hpart, hpost⟩

/-- A frame of a direct send goes after the last part. -/
theorem WatermarkSplit.append_control {q q' : QueuedWrite} {f : HttpFrame} (h : q.WatermarkSplit)
    (hframes : q'.frames = q.frames ++ [f]) (hflushed : q'.flushed = q.flushed)
    (hf : f.SentDirectly) : q'.WatermarkSplit := by
  obtain ⟨pre, part, post, hq, hpre, hpart, hpost⟩ := h
  refine ⟨pre, part, post ++ [f], by rw [hframes, hq, List.append_assoc], hflushed ▸ hpre, hpart,
    fun g hg => (List.mem_append.mp hg).elim (hpost g) fun hg => ?_⟩
  rw [List.mem_singleton.mp hg]; exact hf

theorem WatermarkSplit.queueNotGoaway {q : QueuedWrite} (h : q.WatermarkSplit) {f : HttpFrame}
    (hf : f.SentDirectly) : (q.queueNotGoaway f).WatermarkSplit := by
  have hframes := q.queueNotGoaway_frames f
  split at hframes
  · exact h.of_frames hframes (q.queueNotGoaway_flushed f)
  · exact h.append_control hframes (q.queueNotGoaway_flushed f) hf

theorem WatermarkSplit.queueGoaway {q : QueuedWrite} (h : q.WatermarkSplit) (lastStreamId : Nat)
    (errorCode : ErrorCode) : (q.queueGoaway (.goaway lastStreamId errorCode)).WatermarkSplit := by
  have hframes := q.queueGoaway_frames (.goaway lastStreamId errorCode)
  split at hframes
  · exact h.of_frames hframes (q.queueGoaway_flushed _)
  · exact h.append_control hframes (q.queueGoaway_flushed _) (.inl rfl)

end QueuedWrite

namespace Conn

open QueuedWrite

end Conn

end Httpbis.Common

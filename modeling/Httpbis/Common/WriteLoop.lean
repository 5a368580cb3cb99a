import Httpbis.Common.BufferOutg
import Httpbis.Common.ConnRead
import Httpbis.Common.StreamQueueSync

/-! # The writer's loop

`common/conn_write.rs`: `poll_write` drains the writer's command channel with
`process_write_queue`, then `poll_flush` lets the transport take queued bytes and runs a
buffering pass, over and over until a pass queues nothing; `process_goaway_state` lets the
connection end once a queued GOAWAY has gone to the transport. How many bytes the transport
takes at each `queued_write.poll()` is the environment's, a list of counts in the model.

Every operation of the writer, and the reader's answers, changes the write queue by the three
moves of `QueuedWrite.Step`: a frame through `queue_not_goaway`, a GOAWAY through
`queue_goaway`, bytes to the transport through `poll`. `Conn.Effect` says what each operation
keeps: those moves, and DATA queued only as far as the connection's send window pays for it.
-/

namespace Httpbis.Common

open Httpbis.Solicit.Frame

/-- `IterationExit`. -/
inductive IterationExit where
  | exitEarly
  | notReady
  | «continue»
  deriving DecidableEq, Repr

namespace Conn

/-- `process_goaway_state`; `queued_write.poll()` hands `accepted` bytes to the transport. -/
def processGoawayState (c : Conn) (accepted : Nat) : IterationExit × Conn :=
  if c.queuedWrite.goawayQueued then
    let c := c.withQueue (c.queuedWrite.poll accepted)
    (if c.queuedWrite.queuedEmpty then .exitEarly else .notReady, c)
  else (.continue, c)

/-- The `loop` of `poll_flush`: the transport takes the next count of bytes, then a buffering
    pass runs, until a pass queues nothing. `none` is a pass out of fuel, or the counts running
    out while passes still queue. -/
def pollFlushLoop (fuel : Nat) : List Nat → Conn → Option Conn
  | [], _ => none
  | accepted :: rest, c =>
      match (c.withQueue (c.queuedWrite.poll accepted)).bufferOutgConn fuel with
      | none => none
      | some (c, updated) => if !updated then some c else pollFlushLoop fuel rest c

/-- `poll_flush`. -/
def pollFlush (fuel : Nat) (accepted : List Nat) (c : Conn) : Option Conn :=
  match c.bufferOutgConn fuel with
  | none => none
  | some (c, _) => pollFlushLoop fuel accepted c

/-- `process_write_queue` over what `write_rx` yields: the messages in order, then
    `Ready(None)` if the channel is closed, `NotReady` if not. `process_message` is the
    connection side's, a parameter here. -/
def processWriteQueue {M : Type} (processMessage : Conn → M → Option Conn) :
    Conn → List M → Bool → Option (Async Unit × Conn)
  | c, [], closed => some (if closed then .ready () else .notReady, c)
  | c, m :: ms, closed =>
      match processMessage c m with
      | none => none
      | some c => processWriteQueue processMessage c ms closed

/-- `poll_write`. -/
def pollWrite {M : Type} (processMessage : Conn → M → Option Conn) (fuel : Nat)
    (messages : List M) (closed : Bool) (accepted : List Nat) (c : Conn) :
    Option (Async Unit × Conn) :=
  match processWriteQueue processMessage c messages closed with
  | none => none
  | some (.ready (), c) => some (.ready (), c)
  | some (.notReady, c) => (pollFlush fuel accepted c).map fun c => (.notReady, c)

/-! ## Properties the loops keep -/

section Loops

variable (P : Conn → Prop) {fuel : Nat}

theorem pollFlushLoop_induction
    (hpass : ∀ c c' updated, P c → c.bufferOutgConn fuel = some (c', updated) → P c')
    (hpoll : ∀ c accepted, P c → P (c.withQueue (c.queuedWrite.poll accepted))) :
    ∀ {accepted c c'}, P c → pollFlushLoop fuel accepted c = some c' → P c'
  | [], _, _, _, h => by cases h
  | n :: rest, c, c', hc, h => by
      simp only [pollFlushLoop] at h
      split at h
      · cases h
      · rename_i c₁ updated hbuf
        have h₁ := hpass _ _ _ (hpoll c n hc) hbuf
        split at h
        · cases h; exact h₁
        · exact pollFlushLoop_induction hpass hpoll h₁ h

/-- A property kept by every buffering pass and every transport poll is kept by
    `poll_flush`. -/
theorem pollFlush_induction
    (hpass : ∀ c c' updated, P c → c.bufferOutgConn fuel = some (c', updated) → P c')
    (hpoll : ∀ c accepted, P c → P (c.withQueue (c.queuedWrite.poll accepted)))
    {accepted : List Nat} {c c' : Conn} (hc : P c) (h : pollFlush fuel accepted c = some c') : P c' := by
  unfold pollFlush at h
  split at h
  · cases h
  · exact pollFlushLoop_induction P hpass hpoll (hpass _ _ _ hc ‹_›) h

variable {M : Type} {processMessage : Conn → M → Option Conn}

theorem processWriteQueue_induction (hmsg : ∀ c m c', P c → processMessage c m = some c' → P c')
    {closed : Bool} :
    ∀ {messages c r c'}, P c → processWriteQueue processMessage c messages closed = some (r, c') → P c'
  | [], c, r, c', hc, h => by cases h; exact hc
  | m :: ms, c, r, c', hc, h => by
      simp only [processWriteQueue] at h
      split at h
      · cases h
      · exact processWriteQueue_induction hmsg (hmsg _ _ _ hc ‹_›) h

/-- A property kept by every message, every buffering pass and every transport poll is kept by
    `poll_write`. -/
theorem pollWrite_induction (hmsg : ∀ c m c', P c → processMessage c m = some c' → P c')
    (hpass : ∀ c c' updated, P c → c.bufferOutgConn fuel = some (c', updated) → P c')
    (hpoll : ∀ c accepted, P c → P (c.withQueue (c.queuedWrite.poll accepted)))
    {messages : List M} {closed : Bool} {accepted : List Nat} {c c' : Conn} {r : Async Unit}
    (hc : P c) (h : pollWrite processMessage fuel messages closed accepted c = some (r, c')) : P c' := by
  unfold pollWrite at h
  split at h
  · cases h
  · cases h; exact processWriteQueue_induction P hmsg hc ‹_›
  · obtain ⟨c₂, hflush, heq⟩ := Option.map_eq_some'.mp h
    cases heq
    exact pollFlush_induction P hpass hpoll (processWriteQueue_induction P hmsg hc ‹_›) hflush

end Loops

theorem processGoawayState_of_goawayQueued {c : Conn} (h : c.queuedWrite.goawayQueued = true)
    (accepted : Nat) :
    c.processGoawayState accepted =
      (if (c.queuedWrite.poll accepted).queuedEmpty then .exitEarly else .notReady,
        c.withQueue (c.queuedWrite.poll accepted)) := by
  simp only [processGoawayState, h, if_true]; rfl

/-- `process_goaway_state` answers `ExitEarly` only with a GOAWAY queued and every queued byte
    handed to the transport, the frames as they were. -/
theorem processGoawayState_exitEarly {c : Conn} {accepted : Nat}
    (h : (c.processGoawayState accepted).1 = .exitEarly) :
    c.queuedWrite.goawayQueued = true ∧
      (c.processGoawayState accepted).2.queuedWrite.frames = c.queuedWrite.frames ∧
      (c.processGoawayState accepted).2.queuedWrite.flushed =
        framesLen (c.processGoawayState accepted).2.queuedWrite.frames := by
  by_cases hg : c.queuedWrite.goawayQueued = true
  · rw [processGoawayState_of_goawayQueued hg] at h ⊢
    split at h
    · rename_i hempty
      have hle := (c.queuedWrite.poll accepted).flushed_le
      simp only [QueuedWrite.queuedEmpty, QueuedWrite.queuedBytesLen, beq_iff_eq] at hempty
      exact ⟨hg, rfl, by simp only [withQueue]; omega⟩
    · cases h
  · simp [processGoawayState, hg] at h

end Conn

/-! ## What the operations do to the queue -/

namespace QueuedWrite

/-- The three moves of the queue: a frame through `queue_not_goaway`, a GOAWAY through
    `queue_goaway`, and bytes to the transport through `poll`. -/
inductive Step : QueuedWrite → QueuedWrite → Prop
  | queue (q : QueuedWrite) (f : HttpFrame) : Step q (q.queueNotGoaway f)
  | goaway (q : QueuedWrite) (lastStreamId : Nat) (errorCode : ErrorCode) :
      Step q (q.queueGoaway (.goaway lastStreamId errorCode))
  | poll (q : QueuedWrite) (accepted : Nat) : Step q (q.poll accepted)

/-- Where moves lead: frames are only added at the end, bytes handed to the transport only
    added, and once a GOAWAY is queued the frames stay as they are. -/
structure Grows (q q' : QueuedWrite) : Prop where
  frames : q.frames <+: q'.frames
  flushed : q.flushed ≤ q'.flushed
  frozen : q.goawayQueued = true → q'.goawayQueued = true ∧ q'.frames = q.frames

theorem Grows.refl (q : QueuedWrite) : Grows q q := ⟨List.prefix_refl _, le_rfl, fun h => ⟨h, rfl⟩⟩

theorem Grows.trans {q₁ q₂ q₃ : QueuedWrite} (h₁ : Grows q₁ q₂) (h₂ : Grows q₂ q₃) : Grows q₁ q₃ :=
  ⟨h₁.frames.trans h₂.frames, h₁.flushed.trans h₂.flushed, fun h =>
    let ⟨h', hf⟩ := h₁.frozen h
    ⟨(h₂.frozen h').1, (h₂.frozen h').2.trans hf⟩⟩

theorem Step.grows {q q' : QueuedWrite} (h : Step q q') : Grows q q' := by
  cases h with
  | queue f =>
      refine ⟨?_, by simp, fun h => ⟨by simpa using h, by simp [queueNotGoaway_frames, h]⟩⟩
      rw [queueNotGoaway_frames]; split
      · exact List.prefix_refl _
      · exact List.prefix_append _ _
  | goaway =>
      refine ⟨?_, by simp, fun h => ⟨by simp, by simp [queueGoaway_frames, h]⟩⟩
      rw [queueGoaway_frames]; split
      · exact List.prefix_refl _
      · exact List.prefix_append _ _
  | poll => exact ⟨List.prefix_refl _, by simp, fun h => ⟨h, rfl⟩⟩

theorem grows_of_steps {q q' : QueuedWrite} (h : Relation.ReflTransGen Step q q') : Grows q q' := by
  induction h with
  | refl => exact .refl q
  | tail _ step ih => exact ih.trans step.grows

/-- A queued GOAWAY is the last frame. -/
def GoawayLast (q : QueuedWrite) : Prop :=
  q.goawayQueued = true → ∃ fs lastStreamId errorCode, q.frames = fs ++ [.goaway lastStreamId errorCode]

theorem goawayLast_new : GoawayLast new := fun h => nomatch h

theorem Step.goawayLast {q q' : QueuedWrite} (hq : GoawayLast q) (h : Step q q') : GoawayLast q' := by
  cases h with
  | queue f =>
      unfold queueNotGoaway
      split
      · exact hq
      · exact fun h => nomatch h
  | goaway lastStreamId errorCode =>
      unfold queueGoaway
      split
      · exact hq
      · exact fun _ => ⟨_, lastStreamId, errorCode, rfl⟩
  | poll => exact hq

theorem GoawayLast.of_steps {q q' : QueuedWrite} (hq : GoawayLast q)
    (h : Relation.ReflTransGen Step q q') : GoawayLast q' := by
  induction h with
  | refl => exact hq
  | tail _ step ih => exact step.goawayLast ih

theorem steps_queueAll (q : QueuedWrite) (fs : List HttpFrame) :
    Relation.ReflTransGen Step q (q.queueAll fs) := by
  induction fs generalizing q with
  | nil => exact .refl
  | cons f fs ih => exact .head (.queue q f) (ih _)

end QueuedWrite

/-! ## The send window -/

/-- The flow-controlled bytes of a frame: the whole payload of a DATA frame, padding
    included, and nothing of any other frame. -/
def HttpFrame.flowControlledLen : HttpFrame → Nat
  | .data f => f.payloadLen
  | _ => 0

/-- The flow-controlled bytes of a list of frames. -/
def flowControlledLen (fs : List HttpFrame) : Nat := (fs.map HttpFrame.flowControlledLen).sum

@[simp] theorem flowControlledLen_nil : flowControlledLen [] = 0 := rfl

@[simp] theorem flowControlledLen_cons (f : HttpFrame) (fs : List HttpFrame) :
    flowControlledLen (f :: fs) = f.flowControlledLen + flowControlledLen fs := by
  simp [flowControlledLen]

@[simp] theorem flowControlledLen_append (fs gs : List HttpFrame) :
    flowControlledLen (fs ++ gs) = flowControlledLen fs + flowControlledLen gs := by
  simp [flowControlledLen]

namespace QueuedWrite

theorem flowControlledLen_queueAll (q : QueuedWrite) (fs : List HttpFrame) :
    flowControlledLen (q.queueAll fs).frames ≤ flowControlledLen q.frames + flowControlledLen fs := by
  rw [queueAll_frames]; split <;> simp

/-- A frame with no flow-controlled bytes leaves the count of the queue as it was. -/
theorem flowControlledLen_queueNotGoaway (q : QueuedWrite) {f : HttpFrame}
    (hf : f.flowControlledLen = 0) :
    flowControlledLen (q.queueNotGoaway f).frames = flowControlledLen q.frames := by
  rw [queueNotGoaway_frames]; split <;> simp [hf]

end QueuedWrite

namespace Conn

@[simp] theorem dataFrame_payloadLen (streamId : Nat) (chunk : List UInt8) (e : EndStream) :
    (dataFrame streamId chunk e).payloadLen = chunk.length := by
  unfold dataFrame
  split
  · exact if_neg (show ¬isSet (withFlag 0 DataFlag.endStream.bitmask) DataFlag.padded.bitmask = true
      by decide)
  · exact if_neg (show ¬isSet 0 DataFlag.padded.bitmask = true by decide)

/-- Whatever the fuel, a loop that ends has queued the rest of the data, in DATA frames whose
    payload is their data. -/
theorem writePartDataLoop_data {streamId : Nat} {data : List UInt8} {endStream : EndStream}
    {maxFrameSize : Nat} :
    ∀ {fuel pos q q'}, writePartDataLoop streamId data endStream maxFrameSize fuel pos q = some q' →
      ∃ fs, q' = queueData q fs ∧ (fs.map DataFrame.data).flatten = data.drop pos ∧
        ∀ f ∈ fs, f.streamId = streamId ∧ f.payloadLen = f.data.length
  | 0, pos, q, q', h => by
      simp only [writePartDataLoop] at h
      split_ifs at h with hlt
      obtain rfl := Option.some.inj h
      exact ⟨[], rfl, by simp [List.drop_eq_nil_of_le (Nat.le_of_not_lt hlt)], by simp⟩
  | fuel + 1, pos, q, q', h => by
      simp only [writePartDataLoop] at h
      by_cases hlt : pos < data.length
      · rw [if_pos hlt] at h
        obtain ⟨fs, rfl, hcat, hlen⟩ := writePartDataLoop_data h
        refine ⟨_ :: fs, rfl, ?_, List.forall_mem_cons.mpr
          ⟨⟨dataFrame_streamId .., by rw [dataFrame_payloadLen, dataFrame_data]⟩, hlen⟩⟩
        set end_ := min data.length (pos + maxFrameSize)
        have hdrop : data.drop end_ = (data.drop pos).drop (end_ - pos) := by
          rw [List.drop_drop]; congr 1; omega
        rw [List.map_cons, List.flatten_cons, hcat, dataFrame_data, hdrop, List.take_append_drop]
      · rw [if_neg hlt] at h
        obtain rfl := Option.some.inj h
        exact ⟨[], rfl, by simp [List.drop_eq_nil_of_le (Nat.le_of_not_lt hlt)], by simp⟩

theorem flowControlledLen_map_data {fs : List DataFrame} (h : ∀ f ∈ fs, f.payloadLen = f.data.length) :
    flowControlledLen (fs.map .data) = (fs.map DataFrame.data).flatten.length := by
  induction fs with
  | nil => rfl
  | cons f fs ih =>
      rw [List.forall_mem_cons] at h
      simp only [List.map_cons, flowControlledLen_cons, HttpFrame.flowControlledLen, List.flatten_cons,
        List.length_append, h.1, ih h.2]

/-- `write_part` queues as many flow-controlled bytes as the part carries data. -/
theorem writePart_flowControlledLen {c c' : Conn} {fuel streamId : Nat}
    {part : HttpStreamCommand} (h : c.writePart fuel streamId part = some c') :
    ∃ fs, c' = c.withQueue (c.queuedWrite.queueAll fs) ∧ flowControlledLen fs = part.dataLen := by
  cases part with
  | data d es =>
      simp only [writePart, writePartData] at h
      split_ifs at h with hempty
      · cases h
        exact ⟨[_], rfl, by simp [HttpFrame.flowControlledLen, HttpStreamCommand.dataLen, hempty.2]⟩
      · obtain ⟨q', hloop, rfl⟩ := Option.map_eq_some'.mp h
        obtain ⟨fs, rfl, hcat, hlen⟩ := writePartDataLoop_data hloop
        refine ⟨fs.map .data, by rw [queueData_eq_queueAll], ?_⟩
        rw [flowControlledLen_map_data fun f hf => (hlen f hf).2, hcat, List.drop_zero]; rfl
  | headers hs es => cases h; exact ⟨[_], rfl, rfl⟩
  | rst code => cases h; exact ⟨[_], rfl, rfl⟩

/-! ## What each operation keeps -/

/-- What an operation of the connection keeps: the queue moves by `QueuedWrite.Step`s, the
    flow-controlled bytes it queues are paid from the connection's send window, and a send
    window that was not negative stays so. -/
structure Effect (c c' : Conn) : Prop where
  queue : Relation.ReflTransGen QueuedWrite.Step c.queuedWrite c'.queuedWrite
  credit : (flowControlledLen c'.queuedWrite.frames : Int) + c'.outWindowSize ≤
    flowControlledLen c.queuedWrite.frames + c.outWindowSize
  window : 0 ≤ c.outWindowSize → 0 ≤ c'.outWindowSize

theorem Effect.refl (c : Conn) : Effect c c := ⟨.refl, le_rfl, id⟩

theorem Effect.trans {c₁ c₂ c₃ : Conn} (h₁ : Effect c₁ c₂) (h₂ : Effect c₂ c₃) : Effect c₁ c₃ :=
  ⟨h₁.queue.trans h₂.queue, h₂.credit.trans h₁.credit, h₂.window ∘ h₁.window⟩

/-- An operation that leaves the queue and the send window alone. -/
theorem Effect.of_eq {c c' : Conn} (hq : c'.queuedWrite = c.queuedWrite)
    (hw : c'.outWindowSize = c.outWindowSize) : Effect c c' :=
  ⟨by rw [hq], by rw [hq, hw], by rw [hw]; exact id⟩

/-- An operation that queues one frame with no flow-controlled bytes. -/
theorem Effect.of_queueNotGoaway {c c' : Conn} {f : HttpFrame}
    (hq : c'.queuedWrite = c.queuedWrite.queueNotGoaway f) (hf : f.flowControlledLen = 0)
    (hw : c'.outWindowSize = c.outWindowSize) :
    Effect c c' :=
  ⟨by rw [hq]; exact .single (.queue _ f),
    by rw [hq, hw, QueuedWrite.flowControlledLen_queueNotGoaway _ hf], by rw [hw]; exact id⟩

theorem effect_sendFrameAndNotify (c : Conn) {f : HttpFrame} (hf : f.flowControlledLen = 0) :
    Effect c (c.sendFrameAndNotify f) :=
  .of_queueNotGoaway rfl hf rfl

theorem effect_sendGoaway (c : Conn) (errorCode : ErrorCode) : Effect c (c.sendGoaway errorCode) :=
  ⟨.single (.goaway _ _ _), by
    simp only [sendGoaway, withQueue, QueuedWrite.queueGoaway_frames]
    split <;> simp [HttpFrame.flowControlledLen], id⟩

theorem effect_poll (c : Conn) (accepted : Nat) :
    Effect c (c.withQueue (c.queuedWrite.poll accepted)) :=
  ⟨.single (.poll _ _), le_rfl, id⟩

theorem effect_processGoawayState (c : Conn) (accepted : Nat) :
    Effect c (c.processGoawayState accepted).2 := by
  unfold processGoawayState
  split
  · exact effect_poll c accepted
  · exact .refl c

theorem effect_processCommonMessage (c : Conn) (m : CommonToWriteMessage) :
    Effect c (c.processCommonMessage m) := by
  rcases processCommonMessage_cases c m with ⟨f, hf, heq⟩ | ⟨id, g, -, heq⟩ | ⟨p, heq⟩ <;> rw [heq]
  · exact effect_sendFrameAndNotify c (by cases f <;> first | rfl | cases hf)
  · exact .of_eq rfl rfl
  · exact .of_eq rfl rfl

theorem effect_processSettings (c : Conn) (frame : SettingsFrame) :
    Effect c (c.processSettings frame) := by
  unfold processSettings
  split
  · exact .refl c
  · exact .of_queueNotGoaway rfl rfl rfl

theorem effect_processPing (c : Conn) (frame : PingFrame) : Effect c (c.processPing frame) := by
  unfold processPing
  split
  · exact .refl c
  · exact effect_sendFrameAndNotify c rfl

/-- One part write of a buffering pass: the part's data leaves the send window and is queued. -/
theorem effect_partWrite {fuel j : Nat} {c c₁ c₂ : Conn} {command : HttpStreamCommand}
    {cont : Bool} (hpop : c.popOutgForStream j = some (some (j, command, cont), c₁))
    (hwrite : c₁.writePart fuel j command = some c₂) : Effect c c₂ := by
  obtain ⟨s, -, ⟨hr, -⟩ | ⟨command', s', w, cont', m, hp, hr, rfl, -⟩⟩ := popOutgForStream_some hpop
  · cases hr
  obtain ⟨-, rfl, -⟩ : j = j ∧ command = command' ∧ cont = cont' := by simpa using hr
  obtain ⟨fs, rfl, hfs⟩ := writePart_flowControlledLen hwrite
  obtain ⟨hw, hpos⟩ := HttpStreamCommon.popOutg_connWindow hp
  have hlen := QueuedWrite.flowControlledLen_queueAll c.queuedWrite fs
  refine ⟨QueuedWrite.steps_queueAll _ _, ?_, hpos⟩
  simp only [withQueue] at hlen ⊢
  omega

theorem effect_bufferOutgConn {fuel : Nat} {c c' : Conn} {updated : Bool}
    (h : c.bufferOutgConn fuel = some (c', updated)) : Effect c c' :=
  bufferOutgConn_induction (Effect c) (fun _ _ _ _ _ _ hc _ hpop hwrite =>
    hc.trans (effect_partWrite hpop hwrite)) (.refl c) h

theorem effect_pollFlush {fuel : Nat} {accepted : List Nat} {c c' : Conn}
    (h : pollFlush fuel accepted c = some c') : Effect c c' :=
  pollFlush_induction (Effect c) (fun _ _ _ hc h => hc.trans (effect_bufferOutgConn h))
    (fun _ n hc => hc.trans (effect_poll _ n)) (.refl c) h

section Messages

variable {M : Type} {processMessage : Conn → M → Option Conn}

theorem effect_pollWrite (hmsg : ∀ c m c', processMessage c m = some c' → Effect c c')
    {fuel : Nat} {messages : List M} {closed : Bool} {accepted : List Nat} {c c' : Conn}
    {r : Async Unit} (h : pollWrite processMessage fuel messages closed accepted c = some (r, c')) :
    Effect c c' :=
  pollWrite_induction (Effect c) (fun _ _ _ hc h => hc.trans (hmsg _ _ _ h))
    (fun _ _ _ hc h => hc.trans (effect_bufferOutgConn h)) (fun _ n hc => hc.trans (effect_poll _ n))
    (.refl c) h

end Messages

end Conn

/-! ## When `poll_flush` returns -/

namespace LoopExit

/-- Whether the inner loop has queued a part. -/
def updated : LoopExit → Bool
  | .ret _ updated => updated
  | .brk _ updated => updated

end LoopExit

namespace Conn

theorem bufferStream_updated {fuel streamId : Nat} :
    ∀ {n c e}, bufferStream fuel streamId n c true = some e → e.updated = true
  | 0, _, _, h => by cases h
  | n + 1, c, e, h => by
      rcases bufferStream_succ_cases h with ⟨-, he⟩ | ⟨-, -, he⟩ | ⟨-, -, he⟩ |
        ⟨command, cont, c₁, -, -, ⟨-, he⟩ | ⟨c₂, -, he⟩⟩
      · cases he; rfl
      · cases he
      · cases he; rfl
      · cases he
      · cases cont
        · cases he; rfl
        · exact bufferStream_updated he.symm

theorem bufferStreams_updated {fuel : Nat} :
    ∀ {ids c c' updated}, bufferStreams fuel ids c true = some (c', updated) → updated = true
  | [], _, _, _, h => by cases h; rfl
  | j :: ids, c, c', updated, h => by
      simp only [bufferStreams] at h
      split at h
      · cases h
      · cases h; exact bufferStream_updated (e := .ret _ _) ‹_›
      · rename_i c₁ u hbrk
        cases bufferStream_updated hbrk
        exact bufferStreams_updated h

/-- An inner loop that queued nothing returned at the watermark, or found nothing to pop; either
    way the connection is as it was. -/
theorem bufferStream_not_updated {fuel streamId n : Nat} {c : Conn} {e : LoopExit}
    (h : bufferStream fuel streamId n c false = some e) (he : e.updated = false) :
    (c.hasWriteBufferCapacity = false ∧ e = .ret c false) ∨
      (c.popOutgForStream streamId = some (none, c) ∧ e = .brk c false) := by
  cases n with
  | zero => cases h
  | succ n =>
      rcases bufferStream_succ_cases h with ⟨hcap, he'⟩ | ⟨-, -, he'⟩ | ⟨-, hpop, he'⟩ |
        ⟨command, cont, c₁, -, -, ⟨-, he'⟩ | ⟨c₂, -, he'⟩⟩
      · cases he'; exact .inl ⟨hcap, rfl⟩
      · cases he'
      · cases he'; exact .inr ⟨hpop, rfl⟩
      · cases he'
      · cases cont
        · cases he'; cases he
        · cases (bufferStream_updated he'.symm).symm.trans he

theorem bufferStreams_not_updated {fuel : Nat} :
    ∀ {ids c c'}, bufferStreams fuel ids c false = some (c', false) →
      c' = c ∧ (c.hasWriteBufferCapacity = true → ∀ j ∈ ids, c.popOutgForStream j = some (none, c))
  | [], c, c', h => by cases h; exact ⟨rfl, fun _ _ hj => nomatch hj⟩
  | j :: ids, c, c', h => by
      simp only [bufferStreams] at h
      split at h
      · cases h
      · rename_i c₁ u hret
        cases h
        rcases bufferStream_not_updated hret rfl with ⟨hcap, he⟩ | ⟨-, he⟩ <;> cases he
        exact ⟨rfl, fun h => nomatch hcap.symm.trans h⟩
      · rename_i c₁ u hbrk
        cases u
        · rcases bufferStream_not_updated hbrk rfl with ⟨-, he⟩ | ⟨hpop, he⟩ <;> cases he
          obtain ⟨rfl, hrest⟩ := bufferStreams_not_updated h
          exact ⟨rfl, fun hcap k hk => (List.mem_cons.mp hk).elim (· ▸ hpop) (hrest hcap k)⟩
        · cases bufferStreams_updated h

/-- A buffering pass that queued nothing left the connection as it was, and found nothing to pop
    on any writable stream if it was below the watermark. -/
theorem bufferOutgConn_not_updated {fuel : Nat} {c c' : Conn}
    (h : c.bufferOutgConn fuel = some (c', false)) :
    c' = c ∧ (c.hasWriteBufferCapacity = true →
      ∀ j ∈ c.writableStreamIds, c.popOutgForStream j = some (none, c)) := by
  unfold bufferOutgConn at h
  split at h
  · cases h; exact ⟨rfl, fun hcap => by simp_all⟩
  · exact bufferStreams_not_updated h

theorem pollFlushLoop_last {fuel : Nat} :
    ∀ {accepted c c'}, pollFlushLoop fuel accepted c = some c' →
      ∃ c₀ : Conn, c₀.bufferOutgConn fuel = some (c', false)
  | [], _, _, h => by cases h
  | n :: rest, c, c', h => by
      simp only [pollFlushLoop] at h
      split at h
      · cases h
      · rename_i c₁ updated hbuf
        cases updated
        · cases h; exact ⟨_, hbuf⟩
        · exact pollFlushLoop_last h

/-- `poll_flush` returns only when its last pass queued nothing: the queue holds at least
    `0x8000` bytes the transport has not taken, or every writable stream has DATA at its front
    that its own window or the connection's holds back. -/
theorem pollFlush_quiescent {fuel : Nat} {accepted : List Nat} {c c' : Conn}
    (h : pollFlush fuel accepted c = some c') :
    0x8000 ≤ c'.queuedWrite.queuedBytesLen ∨
      ∀ j s, c'.streams.get j = some s → s.isWritable = true → s.Blocked c'.outWindowSize := by
  unfold pollFlush at h
  split at h
  · cases h
  obtain ⟨c₀, hbuf⟩ := pollFlushLoop_last h
  obtain ⟨rfl, hpops⟩ := bufferOutgConn_not_updated hbuf
  cases hcap : c'.hasWriteBufferCapacity
  · left
    simpa [hasWriteBufferCapacity] using hcap
  · right
    intro j s hs hw
    obtain ⟨s', hs', ⟨-, -, hnone⟩ | ⟨_, _, _, _, _, -, hr, -⟩⟩ :=
      popOutgForStream_some (hpops hcap j (StreamMap.mem_idsWhere hs hw))
    · cases hs.symm.trans hs'
      exact HttpStreamCommon.blocked_of_popOutg_eq_none hnone (by
        simp only [HttpStreamCommon.isWritable, Bool.and_eq_true] at hw; exact hw.1)
    · cases hr

/-- A stream holding three bytes on a connection whose send window holds two: `poll_flush`
    sends two and stops with the stream blocked on the connection's window. -/
theorem pollFlush_quiescent_window_spent :
    let c : Conn := ⟨(StreamMap.empty.insert 1
      { HttpStreamCommon.new 65535 .initial with outgoing := [.data [1, 2, 3]] }).2,
      2, 65535, .new, ⟨16384, 65535⟩, fun _ => [], 3, 0⟩
    ∃ c', pollFlush 3 [0] c = some c' ∧ (0x8000 ≤ c'.queuedWrite.queuedBytesLen ∨
      ∀ j s, c'.streams.get j = some s → s.isWritable = true → s.Blocked c'.outWindowSize) := by
  intro c
  obtain ⟨c', h⟩ := Option.isSome_iff_exists.mp (show (pollFlush 3 [0] c).isSome = true by decide)
  exact ⟨c', h, pollFlush_quiescent h⟩

end Conn

end Httpbis.Common

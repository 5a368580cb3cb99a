import Httpbis.Client.Conn
import Httpbis.Common.OpenOrder

/-! # Runs of the client writer

The writer half of a client connection takes one step at a time: a command handled by
`process_message` (a `Start` ends with a buffering pass), a buffering pass of `poll_flush`, or
the transport taking bytes. Over every run from a new connection, the streams a HEADERS frame
opens open in increasing id order, and a request whose handler was created opens with its
HEADERS frame. A handler that failed closes its stream with `InternalError` before anything is
queued, and the next pass writes RST_STREAM on an id that never saw HEADERS.
-/

namespace Httpbis.Client

open Httpbis.Common Httpbis.Solicit.Frame

namespace Conn

/-- One step of the client writer: a command handled by `process_message`, a buffering pass,
    or the transport taking `accepted` bytes. Each pass runs with the fuel it needs. -/
inductive WriterStep : Common.Conn → Common.Conn → Prop
  | message {c c' : Common.Conn} (fuel : Nat) (m : ClientToWriteMessage) :
      processMessage c fuel m = some c' → WriterStep c c'
  | flush {c c' : Common.Conn} (fuel : Nat) (updated : Bool) :
      c.bufferOutgConn fuel = some (c', updated) → WriterStep c c'
  | poll (c : Common.Conn) (accepted : Nat) :
      WriterStep c (c.withQueue (c.queuedWrite.poll accepted))

/-- After its header block, `start_stream` only adds to the stream, or ends it. -/
theorem startStream_extends (start : StartRequestMessage) (s : HttpStreamCommon) :
    ({ s with peerTx := true }.pushBack (.headers start.headers)).Extends (startStream start s) := by
  have hopt : ∀ (o : Option DataOrHeaders) (t : HttpStreamCommon),
      t.Extends (match o with | some p => t.pushBack p | none => t) := by
    intro o t; cases o
    · exact .refl t
    · exact HttpStreamCommon.extends_pushBack _ _
  obtain ⟨headers, body, trailers, endStream, handler⟩ := start
  have h := (hopt (body.map .data) ({ s with peerTx := true }.pushBack (.headers headers))).trans
    (hopt (trailers.map .headers) _)
  unfold startStream
  cases body <;> cases trailers <;> simp only [Option.map] at h ⊢ <;>
    split <;> first | exact h.trans (HttpStreamCommon.extends_closeOutgoing _ _) | exact h

theorem extends_requestCreated (start : StartRequestMessage) (s : HttpStreamCommon) :
    s.Extends (requestCreated start s) := by
  unfold requestCreated
  split
  · exact ((⟨rfl, rfl, fun _ rest h => ⟨rest, h⟩, id⟩ : s.Extends { s with peerTx := true }).trans
      (HttpStreamCommon.extends_pushBack _ _)).trans (startStream_extends start s)
  · exact HttpStreamCommon.extends_closeOutgoing _ _

/-- A new stream after `request_created` has something to send: its header block in front, or
    the `InternalError` that closes it. -/
theorem requestCreated_ready (start : StartRequestMessage) (w : Int) (st : InMessageStage) :
    let s := requestCreated start (HttpStreamCommon.new w st)
    (start.streamHandler.requestCreatedOk = true → s.frontIsHeaders = true) ∧
      (s.frontIsHeaders = true ∨ (s.outgoingEnd.isSome = true ∧ s.closedLocal = false)) := by
  unfold requestCreated
  split
  · have h := (startStream_extends start (HttpStreamCommon.new w st)).frontIsHeaders rfl
    exact ⟨fun _ => h, .inl h⟩
  · exact ⟨fun h => absurd h ‹_›, .inr ⟨rfl, rfl⟩⟩

/-- The connection after `process_start` allocated the next id and created its stream, before
    the buffering pass. -/
def started (c : Common.Conn) (start : StartRequestMessage) : Common.Conn :=
  { c with nextStreamId := c.nextStreamId + 2,
           streams := (c.streams.insert c.nextStreamId
             (HttpStreamCommon.new c.peerSettings.initialWindowSize .initial)).2.update
             c.nextStreamId (requestCreated start) }

theorem processStart_some {c c' : Common.Conn} {fuel : Nat} {start : StartRequestMessage}
    (h : processStart c fuel start = some c') :
    c.streams.get c.nextStreamId = none ∧
      ∃ updated, (started c start).bufferOutgConn fuel = some (c', updated) := by
  simp only [processStart, nextLocalStreamId, newStreamData] at h
  rcases hget : c.streams.get c.nextStreamId with _ | s
  · simp only [hget] at h
    simp only [Option.pure_def, Option.bind_eq_bind, Option.some_bind] at h
    obtain ⟨⟨c'', u⟩, hbuf, hc⟩ := Option.bind_eq_some.mp h
    obtain rfl : c'' = c' := Option.some.inj hc
    exact ⟨rfl, u, hbuf⟩
  · simp [hget] at h

/-- With the next id free, `process_start` is its buffering pass over the started
    connection. -/
theorem processStart_eq {c : Common.Conn} (hfresh : c.streams.get c.nextStreamId = none)
    (fuel : Nat) (start : StartRequestMessage) :
    processStart c fuel start = ((started c start).bufferOutgConn fuel).map Prod.fst := by
  simp only [processStart, nextLocalStreamId, newStreamData, hfresh]
  show ((started c start).bufferOutgConn fuel).bind (fun p => some p.1) = _
  cases (started c start).bufferOutgConn fuel <;> rfl

theorem get_started (c : Common.Conn) (start : StartRequestMessage) (a : Nat) :
    (started c start).streams.get a = if a = c.nextStreamId then
      some (requestCreated start (HttpStreamCommon.new c.peerSettings.initialWindowSize .initial))
    else c.streams.get a := by
  simp only [started, StreamMap.get_update, StreamMap.get_insert]
  split <;> simp_all

/-! ## The opening order over every run -/

/-- What every state of the client writer keeps: `OpenOrder`, and every stream and every id
    written below the next id `process_start` hands out. -/
structure ClientOrder (c : Common.Conn) : Prop where
  openOrder : c.OpenOrder
  keys_lt : ∀ k s, c.streams.get k = some s → k < c.nextStreamId
  logged_lt : ∀ x ∈ loggedIds c.queuedWrite.frames, x < c.nextStreamId

theorem clientOrder_new (peerSettings : PeerSettings) (encoder : Headers → List EncodeBufCall) :
    ClientOrder (new peerSettings encoder) := by
  have hget : ∀ k, (new peerSettings encoder).streams.get k = none := fun _ => rfl
  refine ⟨⟨fun _ a s hs => ?_, fun _ a s hs => ?_, fun a s hs => ?_, List.sorted_nil⟩,
    fun k s hs => ?_, fun x hx => ?_⟩ <;> simp_all [new, loggedIds, QueuedWrite.new]

theorem ClientOrder.bufferOutgConn {fuel : Nat} {c c' : Common.Conn} {updated : Bool}
    (hc : ClientOrder c) (h : c.bufferOutgConn fuel = some (c', updated)) : ClientOrder c' := by
  have hkl := Common.Conn.bufferOutgConn_induction
    (fun c => (∀ k s, c.streams.get k = some s → k < c.nextStreamId) ∧
      ∀ x ∈ loggedIds c.queuedWrite.frames, x < c.nextStreamId)
    (fun j c _ c₂ _ _ hkl _ hpop hwrite => by
      obtain ⟨hother, -, -, hnext, -, hlog, -, -⟩ := Common.Conn.partWrite_effects hpop hwrite
      obtain ⟨sj, hsj, -⟩ := Common.Conn.popOutgForStream_some hpop
      rw [hnext]
      refine ⟨fun k s hs => ?_, fun x hx => ?_⟩
      · by_cases hk : k = j
        · exact hk ▸ hkl.1 j sj hsj
        · exact hkl.1 k s ((hother k hk).symm.trans hs)
      · rcases hlog x hx with hx | rfl
        · exact hkl.2 x hx
        · exact hkl.1 x sj hsj)
    ⟨hc.keys_lt, hc.logged_lt⟩ h
  exact ⟨Common.Conn.bufferOutgConn_openOrder hc.openOrder h, hkl.1, hkl.2⟩

/-- The new stream of `process_start` takes the next id, above every id written so far, with
    something to send. -/
theorem ClientOrder.started {c : Common.Conn} (hc : ClientOrder c) (start : StartRequestMessage) :
    ClientOrder (started c start) := by
  have hget := get_started c start
  have hext := extends_requestCreated start
    (HttpStreamCommon.new c.peerSettings.initialWindowSize .initial)
  have hn : c.nextStreamId ∉ loggedIds c.queuedWrite.frames := fun h => lt_irrefl _ (hc.logged_lt _ h)
  refine ⟨⟨fun hg a s hs ha => ?_, fun hg a s hs ha => ?_, fun a s hs ha => ?_, hc.openOrder.sorted⟩,
    fun k s hs => ?_, fun x hx => Nat.lt_add_right 2 (hc.logged_lt x hx)⟩ <;>
    rw [hget] at hs <;> split at hs
  · cases hs; exact hext.window
  · exact hc.openOrder.window_eq hg a s hs ha
  · cases hs; exact (requestCreated_ready start _ _).2
  · exact hc.openOrder.ready hg a s hs ha
  · cases hs; subst a; exact .inl hc.logged_lt
  · exact hc.openOrder.above a s hs ha
  · subst k; exact Nat.lt_add_of_pos_right (by norm_num)
  · exact Nat.lt_add_right 2 (hc.keys_lt k s hs)

theorem ClientOrder.update {c : Common.Conn} (hc : ClientOrder c) {id : Nat}
    {f : HttpStreamCommon → HttpStreamCommon} (hf : ∀ s, c.streams.get id = some s → s.Extends (f s)) :
    ClientOrder { c with streams := c.streams.update id f } := by
  refine ⟨hc.openOrder.update hf, fun k s hs => ?_, hc.logged_lt⟩
  rcases StreamMap.get_update_eq_some hs with ⟨rfl, s₀, hs₀, -⟩ | ⟨-, hs'⟩
  · exact hc.keys_lt k s₀ hs₀
  · exact hc.keys_lt k s hs'

theorem ClientOrder.processCommonMessage {c : Common.Conn} (hc : ClientOrder c)
    (m : CommonToWriteMessage) : ClientOrder (c.processCommonMessage m) := by
  rcases Common.Conn.processCommonMessage_cases c m with ⟨f, hf, h⟩ | ⟨id, f, hf, h⟩ | ⟨p, h⟩ <;> rw [h]
  · refine ⟨hc.openOrder.sendFrameAndNotify hf, hc.keys_lt, ?_⟩
    rw [Common.Conn.loggedIds_sendFrameAndNotify c hf]
    exact hc.logged_lt
  · exact hc.update fun s _ => hf s
  · exact ⟨⟨hc.openOrder.1, hc.openOrder.2, hc.openOrder.3, hc.openOrder.4⟩, hc.keys_lt, hc.logged_lt⟩

theorem WriterStep.clientOrder {c c' : Common.Conn} (h : WriterStep c c') (hc : ClientOrder c) :
    ClientOrder c' := by
  cases h with
  | message fuel m hm =>
      cases m with
      | start start =>
          obtain ⟨-, u, hbuf⟩ := processStart_some hm
          exact (hc.started start).bufferOutgConn hbuf
      | common common => cases hm; exact hc.processCommonMessage common
      | waitForHandshake => cases hm; exact hc
  | flush fuel updated hbuf => exact hc.bufferOutgConn hbuf
  | poll accepted => exact ⟨hc.openOrder.poll accepted, hc.keys_lt, hc.logged_lt⟩

theorem clientOrder_of_run {peerSettings : PeerSettings} {encoder : Headers → List EncodeBufCall}
    {c : Common.Conn} (h : Relation.ReflTransGen WriterStep (new peerSettings encoder) c) :
    ClientOrder c := by
  induction h with
  | refl => exact clientOrder_new peerSettings encoder
  | tail _ step ih => exact step.clientOrder ih

/-! ## Runs that fill the queue -/

/-- Behind the watermark, `process_start` creates the stream and its pass writes nothing. -/
theorem processStart_of_full {c : Common.Conn} (hfresh : c.streams.get c.nextStreamId = none)
    (hfull : c.hasWriteBufferCapacity = false) (fuel : Nat) (start : StartRequestMessage) :
    processStart c fuel start = some (started c start) := by
  have hfull' : (started c start).hasWriteBufferCapacity = false := hfull
  rw [processStart_eq hfresh, Common.Conn.bufferOutgConn, if_pos (by rw [hfull']; rfl)]
  rfl

/-- `IncreaseInWindow` commands for a stream in the map, one after the other: each queues a
    WINDOW_UPDATE, whatever the queue holds, and nothing else changes. -/
theorem run_increaseInWindow {c : Common.Conn} {id inc : Nat} (hs : (c.streams.get id).isSome = true)
    (hg : c.queuedWrite.goawayQueued = false) :
    ∀ n, ∃ c', Relation.ReflTransGen WriterStep c c' ∧ c'.streams = c.streams ∧
      c'.nextStreamId = c.nextStreamId ∧
      c'.queuedWrite.frames = c.queuedWrite.frames ++ List.replicate n (.windowUpdate id inc) ∧
      c'.queuedWrite.goawayQueued = false ∧ c'.queuedWrite.flushed = c.queuedWrite.flushed
  | 0 => ⟨c, .refl, rfl, rfl, (List.append_nil _).symm, hg, rfl⟩
  | n + 1 => by
      obtain ⟨c', hrun, hst, hn, hframes, hg', hfl⟩ := run_increaseInWindow hs hg n
      obtain ⟨s, hs'⟩ := Option.isSome_iff_exists.mp hs
      have hstep := Common.Conn.processCommonMessage_increaseInWindow (hst ▸ hs') inc
      refine ⟨_, hrun.tail (.message 0 (.common (.increaseInWindow id inc)) rfl), ?_⟩
      rw [hstep]
      have hq : (c'.sendFrameAndNotify (.windowUpdate id inc)).queuedWrite =
          c'.queuedWrite.queueNotGoaway (.windowUpdate id inc) := rfl
      refine ⟨hst, hn, ?_, by rw [hq, QueuedWrite.queueNotGoaway_goawayQueued, hg'],
        by rw [hq, QueuedWrite.queueNotGoaway_flushed, hfl]⟩
      rw [hq, QueuedWrite.queueNotGoaway_frames, hg', if_neg Bool.false_ne_true, hframes,
        List.replicate_succ', List.append_assoc]

/-- The request a stream handler accepts: empty headers, no body, no trailers, stream left open. -/
def acceptedRequest : StartRequestMessage := ⟨⟨[]⟩, none, none, false, ⟨true⟩⟩

/-- A request on a new connection writes its HEADERS on stream 1, and 2521 `IncreaseInWindow`
    commands for stream 1 then queue 32773 bytes of WINDOW_UPDATE: the queue is past the
    watermark, and every id from 3 on is free. -/
theorem run_fills_queue :
    ∃ c, Relation.ReflTransGen WriterStep (new ⟨16384, 65535⟩ fun _ => []) c ∧ c.nextStreamId = 3 ∧
      (∀ k, 3 ≤ k → c.streams.get k = none) ∧ c.queuedWrite.goawayQueued = false ∧
      c.hasWriteBufferCapacity = false ∧ loggedIds c.queuedWrite.frames = [1] := by
  have h : (processStart (new ⟨16384, 65535⟩ fun _ => []) 2 acceptedRequest).map (fun c =>
      ((c.streams.get 1).isSome, c.queuedWrite.goawayQueued, c.queuedWrite.flushed,
        loggedIds c.queuedWrite.frames)) = some (true, false, 0, [1]) := by
    -- the HEADERS frame's length goes through `referenceSplit`, which only `simp` unfolds
    simp [acceptedRequest, processStart, nextLocalStreamId, newStreamData, new, requestCreated,
      startStream, Common.Conn.bufferOutgConn, Common.Conn.hasWriteBufferCapacity,
      Common.Conn.bufferStreams, Common.Conn.bufferStream, Common.Conn.popOutgForStream,
      HttpStreamCommon.popOutg, Common.Conn.writePart, Common.Conn.writePartHeaders,
      QueuedWrite.queuedBytesLen, QueuedWrite.queueNotGoaway, HttpFrame.len, referenceSplit,
      referenceFrames, writtenBytes, splitFrame, StreamMap.get, StreamMap.insert, StreamMap.update,
      StreamMap.empty, insertSorted, HttpStreamCommon.new, HttpStreamCommon.pushBack,
      HttpStreamCommon.isClosed, HttpStreamCommon.lastFlag, QueuedWrite.new, Common.Conn.withQueue,
      loggedIds]
  obtain ⟨c₁, h₁, hfacts⟩ := Option.map_eq_some'.mp h
  simp only [Prod.mk.injEq] at hfacts
  obtain ⟨hs, hg, hfl, hlog⟩ := hfacts
  have hkeys := (clientOrder_of_run (.single (.message 2 (.start acceptedRequest) h₁))).keys_lt
  have hn₁ : c₁.nextStreamId = 3 := by
    obtain ⟨-, u, hbuf⟩ := processStart_some h₁
    exact Common.Conn.bufferOutgConn_nextStreamId hbuf
  obtain ⟨c, hrun, hst, hn, hframes, hg', hfl'⟩ := @run_increaseInWindow c₁ 1 1 hs hg 2521
  refine ⟨c, (Relation.ReflTransGen.single (.message 2 (.start acceptedRequest) h₁)).trans hrun,
    hn.trans hn₁, fun k hk => ?_, hg', ?_, ?_⟩
  · rw [hst]
    rcases hk' : c₁.streams.get k with _ | s
    · rfl
    · exact absurd (hkeys k s hk') (by omega)
  · show decide (framesLen c.queuedWrite.frames - c.queuedWrite.flushed < 0x8000) = false
    rw [hframes, hfl', hfl, framesLen_append, framesLen_replicate]
    exact decide_eq_false (by simp only [HttpFrame.len, FRAME_HEADER_LEN]; omega)
  · rw [hframes, loggedIds_append, hlog, loggedIds_replicate (f := .windowUpdate 1 1) rfl]
    rfl

/-- Over every run of the client writer from a new connection, the streams opened by a HEADERS
    frame open in strictly increasing id order, and while the header block of a stream that
    has written nothing waits in its queue, every frame written so far is on a lower id: a
    higher, not yet opened id never writes before it. -/
theorem headers_open_in_increasing_order {peerSettings : PeerSettings}
    {encoder : Headers → List EncodeBufCall} {c : Common.Conn}
    (h : Relation.ReflTransGen WriterStep (new peerSettings encoder) c) :
    (openingIds c.queuedWrite.frames).Sorted (· < ·) ∧
      ∀ a s, c.streams.get a = some s → s.frontIsHeaders = true →
        a ∉ loggedIds c.queuedWrite.frames → ∀ x ∈ loggedIds c.queuedWrite.frames, x < a := by
  have hc := clientOrder_of_run h
  refine ⟨hc.openOrder.sorted, fun a s hs hf ha => (hc.openOrder.above a s hs ha).resolve_right ?_⟩
  rintro ⟨⟨d, rest, hout⟩, -⟩
  simp [HttpStreamCommon.frontIsHeaders, hout] at hf

/-- Behind the watermark, requests on streams 3 and 5 wait with their HEADERS in front while
    only stream 1 has written: every id written so far is below both. -/
theorem headers_open_in_increasing_order_behind_watermark :
    ∃ c, Relation.ReflTransGen WriterStep (new ⟨16384, 65535⟩ fun _ => []) c ∧
      c.hasWriteBufferCapacity = false ∧ loggedIds c.queuedWrite.frames = [1] ∧
      (∀ a, a = 3 ∨ a = 5 → ∃ s, c.streams.get a = some s ∧ s.frontIsHeaders = true) ∧
      (openingIds c.queuedWrite.frames).Sorted (· < ·) ∧
      ∀ a s, c.streams.get a = some s → s.frontIsHeaders = true →
        a ∉ loggedIds c.queuedWrite.frames → ∀ x ∈ loggedIds c.queuedWrite.frames, x < a := by
  obtain ⟨c, hrun, hn, hfree, -, hfull, hlog⟩ := run_fills_queue
  have hn₃ : (started c acceptedRequest).nextStreamId = 5 := by
    show c.nextStreamId + 2 = 5
    omega
  have h₃ := processStart_of_full (by rw [hn]; exact hfree 3 le_rfl) hfull 2 acceptedRequest
  have h₅ := processStart_of_full (c := started c acceptedRequest)
    (by rw [hn₃, get_started, if_neg (by omega)]; exact hfree 5 (by norm_num)) hfull 2 acceptedRequest
  have hrun' := (hrun.tail (.message 2 (.start acceptedRequest) h₃)).tail
    (.message 2 (.start acceptedRequest) h₅)
  have hready := (requestCreated_ready acceptedRequest c.peerSettings.initialWindowSize .initial).1 rfl
  refine ⟨_, hrun', hfull, hlog, fun a ha => ?_, headers_open_in_increasing_order hrun'⟩
  rcases ha with rfl | rfl
  · exact ⟨_, by rw [get_started, hn₃, if_neg (by decide), get_started, hn, if_pos rfl], hready⟩
  · exact ⟨_, by rw [get_started, hn₃, if_pos rfl]; rfl, hready⟩

/-! ## A request opens with its HEADERS -/

end Conn

end Httpbis.Client

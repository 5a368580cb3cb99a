import Httpbis.Client.Writer
import Httpbis.Client.ConnRead
import Httpbis.Common.Progress

/-! # Runs of the client connection

Every operation the model has of a client connection, as one step relation: a `poll_write`
of the writer with the client's `process_message`, each part of it on its own (`WriterStep`),
the GOAWAY check of an iteration, a GOAWAY sent, and the reader's answers to SETTINGS, PING and
HEADERS frames. The reader's handling of DATA, WINDOW_UPDATE and RST_STREAM frames belongs to
`common/conn_read.rs`, which is not among the sources, and is no step here.

Over every run, in any order of the steps, the write queue only grows at its end, nothing is
queued behind a GOAWAY, the connection leaves early only once its GOAWAY has gone to the
transport, and no more DATA is queued than the connection's send window pays for. Every stream
has an odd id below the next one `process_start` takes, and frames are written only on such ids,
so `process_start` never meets an id in use; with the work on the streams as measure,
`poll_write` returns.
-/

namespace Httpbis.Client

open Httpbis.Common Httpbis.Solicit.Frame

namespace Conn

/-- One operation on the client connection. -/
inductive ConnStep : Common.Conn → Common.Conn → Prop
  | writer {c c' : Common.Conn} : WriterStep c c' → ConnStep c c'
  | pollWrite {c c' : Common.Conn} (fuel : Nat) (messages : List ClientToWriteMessage)
      (closed : Bool) (accepted : List Nat) (r : Async Unit) :
      Common.Conn.pollWrite (fun c m => processMessage c fuel m) fuel messages closed accepted c =
        some (r, c') → ConnStep c c'
  | goawayState (c : Common.Conn) (accepted : Nat) : ConnStep c (c.processGoawayState accepted).2
  | sendGoaway (c : Common.Conn) (errorCode : ErrorCode) : ConnStep c (c.sendGoaway errorCode)
  | settings (c : Common.Conn) (frame : SettingsFrame) : ConnStep c (c.processSettings frame)
  | ping (c : Common.Conn) (frame : PingFrame) : ConnStep c (c.processPing frame)
  | headers {c c' : Common.Conn} (ops : HeadersOps) (streamId : Nat) (endStream : EndStream)
      (headers : Headers) (r : Except String Bool) (events : List HandlerEvent) :
      processHeaders ops c streamId endStream headers = some (r, c', events) → ConnStep c c'

theorem effect_processMessage {c c' : Common.Conn} {fuel : Nat} {m : ClientToWriteMessage}
    (h : processMessage c fuel m = some c') : c.Effect c' := by
  cases m with
  | start start =>
      obtain ⟨-, _, hbuf⟩ := processStart_some h
      exact (Common.Conn.Effect.of_eq rfl rfl : c.Effect (started c start)).trans
        (Common.Conn.effect_bufferOutgConn hbuf)
  | common m => cases h; exact Common.Conn.effect_processCommonMessage c m
  | waitForHandshake => cases h; exact .refl c

theorem effect_processHeaders {ops : HeadersOps} {c c' : Common.Conn} {streamId : Nat}
    {es : EndStream} {h : Headers} {r : Except String Bool} {events : List HandlerEvent}
    (hp : processHeaders ops c streamId es h = some (r, c', events)) : c.Effect c' := by
  rcases processHeaders_cases ops c streamId es h with ⟨-, heq⟩ | ⟨_, -, -, heq⟩ |
    ⟨_, _, -, -, -, heq⟩ | ⟨_, _, _, -, -, -, -, heq⟩ <;> rw [heq] at hp <;> cases hp
  · exact .refl c
  · exact .refl c
  · exact .of_queueNotGoaway (queuedWrite_sendRstStream c streamId _) rfl rfl
  · exact .of_eq rfl rfl

theorem ConnStep.effect {c c' : Common.Conn} (h : ConnStep c c') : c.Effect c' := by
  cases h with
  | writer h =>
      cases h with
      | message fuel m h => exact effect_processMessage h
      | flush fuel updated h => exact Common.Conn.effect_bufferOutgConn h
      | poll accepted => exact Common.Conn.effect_poll c accepted
  | pollWrite fuel messages closed accepted r h =>
      exact Common.Conn.effect_pollWrite (fun _ _ _ => effect_processMessage) h
  | goawayState accepted => exact Common.Conn.effect_processGoawayState c accepted
  | sendGoaway errorCode => exact Common.Conn.effect_sendGoaway c errorCode
  | settings frame => exact Common.Conn.effect_processSettings c frame
  | ping frame => exact Common.Conn.effect_processPing c frame
  | headers ops streamId endStream headers r events h => exact effect_processHeaders h

theorem effect_of_run {c c' : Common.Conn} (h : Relation.ReflTransGen ConnStep c c') :
    c.Effect c' := by
  induction h with
  | refl => exact .refl c
  | tail _ step ih => exact ih.trans step.effect

/-- Over every run of the client connection, from any state: frames are only ever added at the
    end of the write queue, the bytes handed to the transport only grow, and once a GOAWAY is
    queued the frames never change again. -/
theorem run_queue_grows {c c' : Common.Conn} (h : Relation.ReflTransGen ConnStep c c') :
    c.queuedWrite.frames <+: c'.queuedWrite.frames ∧
      c.queuedWrite.flushed ≤ c'.queuedWrite.flushed ∧
      (c.queuedWrite.goawayQueued = true → c'.queuedWrite.frames = c.queuedWrite.frames) :=
  let g := QueuedWrite.grows_of_steps (effect_of_run h).queue
  ⟨g.frames, g.flushed, fun hg => (g.frozen hg).2⟩

theorem reachable_goawayLast {peerSettings : PeerSettings} {encoder : Headers → List EncodeBufCall}
    {c : Common.Conn} (h : Relation.ReflTransGen ConnStep (new peerSettings encoder) c) :
    c.queuedWrite.GoawayLast :=
  QueuedWrite.goawayLast_new.of_steps (effect_of_run h).queue

/-- From a new client connection, over every run, `process_goaway_state` answers `ExitEarly`
    only when the write queue ends with a GOAWAY frame and every byte of the queue, that GOAWAY
    included, has been handed to the transport. -/
theorem exitEarly_only_after_goaway_flushed {peerSettings : PeerSettings}
    {encoder : Headers → List EncodeBufCall} {c : Common.Conn} {accepted : Nat}
    (h : Relation.ReflTransGen ConnStep (new peerSettings encoder) c)
    (hexit : (c.processGoawayState accepted).1 = .exitEarly) :
    ∃ fs lastStreamId errorCode,
      (c.processGoawayState accepted).2.queuedWrite.frames = fs ++ [.goaway lastStreamId errorCode] ∧
      (c.processGoawayState accepted).2.queuedWrite.flushed =
        framesLen (c.processGoawayState accepted).2.queuedWrite.frames := by
  obtain ⟨hg, hframes, hflushed⟩ := Common.Conn.processGoawayState_exitEarly hexit
  obtain ⟨fs, lastStreamId, errorCode, hlast⟩ := reachable_goawayLast h hg
  exact ⟨fs, lastStreamId, errorCode, hframes.trans hlast, hflushed⟩

/-- Over every run of the client connection, from any state: the DATA payload bytes queued are
    paid from the connection's send window, so never more than it held at the start of the
    run, and a send window that was not negative never goes negative. -/
theorem run_data_within_send_window {c c' : Common.Conn} (h : Relation.ReflTransGen ConnStep c c') :
    (flowControlledLen c'.queuedWrite.frames : Int) - flowControlledLen c.queuedWrite.frames ≤
      c.outWindowSize - c'.outWindowSize ∧ (0 ≤ c.outWindowSize → 0 ≤ c'.outWindowSize) := by
  have e := effect_of_run h
  exact ⟨by have := e.credit; omega, e.window⟩

/-- A buffering pass over a stream holding three bytes queues them in one DATA frame, paid
    from the connection's window. -/
theorem run_data_within_send_window_flush :
    let c : Common.Conn := ⟨(StreamMap.empty.insert 1
      { HttpStreamCommon.new 65535 .initial with outgoing := [.data [1, 2, 3]] }).2,
      65535, 65535, .new, ⟨16384, 65535⟩, fun _ => [], 3, 0⟩
    ∃ c', Relation.ReflTransGen ConnStep c c' ∧
      ((flowControlledLen c'.queuedWrite.frames : Int) - flowControlledLen c.queuedWrite.frames ≤
        c.outWindowSize - c'.outWindowSize ∧ (0 ≤ c.outWindowSize → 0 ≤ c'.outWindowSize)) := by
  intro c
  obtain ⟨⟨c', updated⟩, h⟩ :=
    Option.isSome_iff_exists.mp (show (c.bufferOutgConn 2).isSome = true by decide)
  have hrun : Relation.ReflTransGen ConnStep c c' := .single (.writer (.flush _ _ h))
  exact ⟨c', hrun, run_data_within_send_window hrun⟩

/-! ## Fresh stream ids -/

/-- The stream ids of a client connection: the next id `next_local_stream_id` hands out is odd,
    and every stream in the map, and every stream a DATA, HEADERS or RST_STREAM frame was queued
    on, has an odd id below it. -/
structure StreamIds (c : Common.Conn) : Prop where
  next_odd : c.nextStreamId % 2 = 1
  keys : ∀ k s, c.streams.get k = some s → k < c.nextStreamId ∧ k % 2 = 1
  logged : ∀ x ∈ loggedIds c.queuedWrite.frames, x < c.nextStreamId ∧ x % 2 = 1

/-- A step that keeps the next id, adds no stream to the map, and writes only on streams in it
    keeps `StreamIds`. -/
theorem StreamIds.of_get {c c' : Common.Conn} (hc : StreamIds c)
    (hn : c'.nextStreamId = c.nextStreamId)
    (hget : ∀ k s, c'.streams.get k = some s → ∃ s₀, c.streams.get k = some s₀)
    (hlog : ∀ x ∈ loggedIds c'.queuedWrite.frames,
      x ∈ loggedIds c.queuedWrite.frames ∨ ∃ s, c.streams.get x = some s) : StreamIds c' := by
  refine ⟨hn ▸ hc.next_odd, fun k s hs => hn ▸ ?_, fun x hx => hn ▸ ?_⟩
  · obtain ⟨s₀, h₀⟩ := hget k s hs
    exact hc.keys k s₀ h₀
  · rcases hlog x hx with hx | ⟨s, hs⟩
    · exact hc.logged x hx
    · exact hc.keys x s hs

/-- A frame queued behind the others, or dropped after a GOAWAY, writes at most on its own id. -/
theorem mem_loggedIds_queued {q : QueuedWrite} {f : HttpFrame} {fs : List HttpFrame}
    (hfs : fs = if q.goawayQueued then q.frames else q.frames ++ [f]) {x : Nat}
    (hx : x ∈ loggedIds fs) : x ∈ loggedIds q.frames ∨ f.partStreamId = some x := by
  subst hfs
  split at hx
  · exact .inl hx
  · rw [loggedIds_append, List.mem_append] at hx
    exact hx.imp_right mem_loggedIds_singleton.mp

theorem StreamIds.sendFrameAndNotify {c : Common.Conn} (hc : StreamIds c) {f : HttpFrame}
    (hf : f.partStreamId = none) : StreamIds (c.sendFrameAndNotify f) :=
  hc.of_get rfl (fun _ s hs => ⟨s, hs⟩) fun x hx =>
    .inl ((mem_loggedIds_queued (QueuedWrite.queueNotGoaway_frames _ _) hx).resolve_right
      (by rw [hf]; exact Option.noConfusion))

theorem StreamIds.update {c : Common.Conn} (hc : StreamIds c) (id : Nat)
    (f : HttpStreamCommon → HttpStreamCommon) :
    StreamIds { c with streams := c.streams.update id f } :=
  hc.of_get rfl (fun k s hs => by
    rcases StreamMap.get_update_eq_some hs with ⟨rfl, s₀, hs₀, -⟩ | ⟨-, hs'⟩
    · exact ⟨s₀, hs₀⟩
    · exact ⟨s, hs'⟩) fun _ hx => .inl hx

theorem StreamIds.bufferOutgConn {fuel : Nat} {c c' : Common.Conn} {updated : Bool}
    (hc : StreamIds c) (h : c.bufferOutgConn fuel = some (c', updated)) : StreamIds c' :=
  Common.Conn.bufferOutgConn_induction StreamIds (fun j _ _ _ _ _ hk _ hpop hwrite => by
    obtain ⟨hother, -, -, hnext, -, hlog, -⟩ := Common.Conn.partWrite_effects hpop hwrite
    obtain ⟨sj, hsj, -⟩ := Common.Conn.popOutgForStream_some hpop
    refine hk.of_get hnext (fun k s hs => ?_) fun x hx => (hlog x hx).imp_right fun hxj => ⟨sj, by rw [hxj]; exact hsj⟩
    by_cases hkj : k = j
    · exact ⟨sj, hkj ▸ hsj⟩
    · exact ⟨s, (hother k hkj).symm.trans hs⟩) hc h

/-- The new stream of `process_start` takes the next id, and the next moves on by two. -/
theorem StreamIds.started {c : Common.Conn} (hc : StreamIds c) (start : StartRequestMessage) :
    StreamIds (started c start) := by
  refine ⟨show (c.nextStreamId + 2) % 2 = 1 by have := hc.next_odd; omega, fun k s hs => ?_,
    fun x hx => ?_⟩
  · rw [get_started] at hs
    split at hs
    · subst k; exact ⟨Nat.lt_add_of_pos_right (by norm_num), hc.next_odd⟩
    · have := hc.keys k s hs
      exact ⟨Nat.lt_add_right 2 this.1, this.2⟩
  · have := hc.logged x hx
    exact ⟨Nat.lt_add_right 2 this.1, this.2⟩

theorem StreamIds.processCommonMessage {c : Common.Conn} (hc : StreamIds c)
    (m : CommonToWriteMessage) : StreamIds (c.processCommonMessage m) := by
  rcases Common.Conn.processCommonMessage_cases c m with ⟨f, hf, h⟩ | ⟨id, f, -, h⟩ | ⟨p, h⟩ <;> rw [h]
  · exact hc.sendFrameAndNotify hf
  · exact hc.update id f
  · exact ⟨hc.next_odd, hc.keys, hc.logged⟩

theorem StreamIds.processMessage {c c' : Common.Conn} {fuel : Nat} {m : ClientToWriteMessage}
    (hc : StreamIds c) (h : processMessage c fuel m = some c') : StreamIds c' := by
  cases m with
  | start start =>
      obtain ⟨-, _, hbuf⟩ := processStart_some h
      exact (hc.started start).bufferOutgConn hbuf
  | common m => cases h; exact hc.processCommonMessage m
  | waitForHandshake => cases h; exact hc

theorem StreamIds.processSettings {c : Common.Conn} (hc : StreamIds c) (frame : SettingsFrame) :
    StreamIds (c.processSettings frame) := by
  unfold Common.Conn.processSettings
  split
  · exact hc
  · refine StreamIds.sendFrameAndNotify (f := .settingsAck) ?_ rfl
    refine hc.of_get rfl (fun k s hs => ?_) fun _ hx => .inl hx
    obtain ⟨s₀, hs₀, -⟩ := Option.map_eq_some'.mp ((StreamMap.get_map _ _ k).symm.trans hs)
    exact ⟨s₀, hs₀⟩

theorem StreamIds.processHeaders {ops : HeadersOps} {c c' : Common.Conn} {streamId : Nat}
    {es : EndStream} {h : Headers} {r : Except String Bool} {events : List HandlerEvent}
    (hc : StreamIds c) (hp : processHeaders ops c streamId es h = some (r, c', events)) :
    StreamIds c' := by
  rcases processHeaders_cases ops c streamId es h with ⟨-, heq⟩ | ⟨_, -, -, heq⟩ |
    ⟨s, _, hs, -, -, heq⟩ | ⟨_, _, _, -, -, -, -, heq⟩ <;> rw [heq] at hp <;> cases hp
  · exact hc
  · exact hc
  · -- the reset is written on the stream the HEADERS frame was for, which is in the map
    have hrst : StreamIds (c.sendFrameAndNotify (.rstStream (RstStreamFrame.new streamId .protocolError))) :=
      hc.of_get rfl (fun _ s hs => ⟨s, hs⟩) fun x hx =>
        (mem_loggedIds_queued (QueuedWrite.queueNotGoaway_frames _ _) hx).imp_right fun hx =>
          ⟨s, (Option.some.inj hx : streamId = x) ▸ (getStreamForHeaders_eq_some.mp hs).1⟩
    exact hrst.update streamId _
  · exact hc.update streamId _

theorem ConnStep.streamIds {c c' : Common.Conn} (h : ConnStep c c') (hc : StreamIds c) :
    StreamIds c' := by
  cases h with
  | writer h =>
      cases h with
      | message fuel m h => exact hc.processMessage h
      | flush fuel updated h => exact hc.bufferOutgConn h
      | poll accepted => exact ⟨hc.next_odd, hc.keys, hc.logged⟩
  | pollWrite fuel messages closed accepted r h =>
      exact Common.Conn.pollWrite_induction StreamIds (fun _ _ _ hc h => hc.processMessage h)
        (fun _ _ _ hc h => hc.bufferOutgConn h) (fun _ _ hc => ⟨hc.next_odd, hc.keys, hc.logged⟩) hc h
  | goawayState accepted =>
      unfold Common.Conn.processGoawayState
      split
      · exact ⟨hc.next_odd, hc.keys, hc.logged⟩
      · exact hc
  | sendGoaway errorCode =>
      exact hc.of_get rfl (fun _ s hs => ⟨s, hs⟩) fun x hx =>
        .inl ((mem_loggedIds_queued (QueuedWrite.queueGoaway_frames _ _) hx).resolve_right
          Option.noConfusion)
  | settings frame => exact hc.processSettings frame
  | ping frame =>
      unfold Common.Conn.processPing
      split
      · exact hc
      · exact hc.sendFrameAndNotify rfl
  | headers ops streamId endStream headers r events h => exact hc.processHeaders h

theorem streamIds_of_run {peerSettings : PeerSettings} {encoder : Headers → List EncodeBufCall}
    {c : Common.Conn} (h : Relation.ReflTransGen ConnStep (new peerSettings encoder) c) :
    StreamIds c := by
  induction h with
  | refl => exact ⟨rfl, fun _ _ h => (nomatch h), fun _ h => (nomatch h)⟩
  | tail _ step ih => exact step.streamIds ih

/-- From a new client connection, over every run of the reader and the writer: every stream
    the client holds has an odd id below the next one it hands out, and every DATA, HEADERS and
    RST_STREAM frame it queues is on such an id, so on a stream it opened itself. -/
theorem client_stream_ids_odd {peerSettings : PeerSettings}
    {encoder : Headers → List EncodeBufCall} {c : Common.Conn}
    (h : Relation.ReflTransGen ConnStep (new peerSettings encoder) c) :
    (∀ k s, c.streams.get k = some s → k < c.nextStreamId ∧ k % 2 = 1) ∧
      ∀ x ∈ loggedIds c.queuedWrite.frames, x < c.nextStreamId ∧ x % 2 = 1 :=
  let hc := streamIds_of_run h
  ⟨hc.keys, hc.logged⟩

/-- A request whose handler fails on a new connection: its RST_STREAM goes out on stream 1. -/
theorem client_stream_ids_odd_reset :
    ∃ c, processMessage (new ⟨16384, 65535⟩ fun _ => []) 1
        (.start ⟨⟨[]⟩, none, none, false, ⟨false⟩⟩) = some c ∧
      ((∀ k s, c.streams.get k = some s → k < c.nextStreamId ∧ k % 2 = 1) ∧
        ∀ x ∈ loggedIds c.queuedWrite.frames, x < c.nextStreamId ∧ x % 2 = 1) := by
  obtain ⟨c, hc⟩ : ∃ c, processMessage (new ⟨16384, 65535⟩ fun _ => []) 1
      (.start ⟨⟨[]⟩, none, none, false, ⟨false⟩⟩) = some c := ⟨_, rfl⟩
  exact ⟨c, hc, client_stream_ids_odd (.single (.writer (.message 1 _ hc)))⟩

theorem work_startStream_le (start : StartRequestMessage) (s : HttpStreamCommon) :
    (startStream start s).work ≤ s.work + (start.body.map List.length).getD 0 + 4 := by
  have hpeer : ({ s with peerTx := true }).work = s.work := rfl
  obtain ⟨headers, body, trailers, endStream, handler⟩ := start
  have hend : ∀ t : HttpStreamCommon,
      (if endStream then t.closeOutgoing .noError else t).work ≤ t.work + 1 := fun t => by
    split
    · exact HttpStreamCommon.work_closeOutgoing_le t .noError
    · omega
  unfold startStream
  dsimp only
  refine (hend _).trans ?_
  cases body <;> cases trailers <;> simp only [HttpStreamCommon.work_pushBack, hpeer,
    DataOrHeaders.dataBytes, List.length_nil, Option.map, Option.getD] <;> omega

/-- The new stream of `process_start` adds at most its header block, body, trailers and end
    code to what a stream has to hand out. -/
theorem work_requestCreated_le (start : StartRequestMessage) (s : HttpStreamCommon) :
    (requestCreated start s).work ≤ s.work + (start.body.map List.length).getD 0 + 4 := by
  unfold requestCreated
  split
  · exact work_startStream_le start s
  · have := HttpStreamCommon.work_closeOutgoing_le s .internalError
    omega

theorem work_started {c : Common.Conn} (hfresh : c.streams.get c.nextStreamId = none)
    (start : StartRequestMessage) :
    (started c start).work =
      c.work + (requestCreated start (HttpStreamCommon.new c.peerSettings.initialWindowSize .initial)).work := by
  have hins := StreamMap.sum_insert hfresh
    (HttpStreamCommon.new c.peerSettings.initialWindowSize .initial) HttpStreamCommon.work
  have hget : (c.streams.insert c.nextStreamId
      (HttpStreamCommon.new c.peerSettings.initialWindowSize .initial)).2.get c.nextStreamId =
        some (HttpStreamCommon.new c.peerSettings.initialWindowSize .initial) := by
    rw [StreamMap.get_insert, if_pos rfl]
  have hupd := StreamMap.sum_update hget (requestCreated start) HttpStreamCommon.work
  have hnew : (HttpStreamCommon.new c.peerSettings.initialWindowSize .initial).work = 0 := rfl
  simp only [Common.Conn.work, started]
  omega

/-- With every stream below the next id, `process_start` returns: with a positive maximum frame
    size its buffering pass finishes with fuel above the work left on the streams and the new
    stream's header block, body, trailers and end code. -/
theorem processStart_isSome {c : Common.Conn} {fuel : Nat} {start : StartRequestMessage}
    (hc : StreamIds c) (hmax : 0 < c.peerSettings.maxFrameSize)
    (hfuel : c.work + (start.body.map List.length).getD 0 + 4 < fuel) :
    (processStart c fuel start).isSome = true := by
  have hfresh : c.streams.get c.nextStreamId = none := by
    rcases hs : c.streams.get c.nextStreamId with _ | s
    · rfl
    · exact absurd (hc.keys _ s hs).1 (lt_irrefl _)
  have hwork := work_requestCreated_le start (HttpStreamCommon.new c.peerSettings.initialWindowSize .initial)
  have hnew : (HttpStreamCommon.new c.peerSettings.initialWindowSize .initial).work = 0 := rfl
  rw [processStart_eq hfresh, Option.isSome_map']
  exact Common.Conn.bufferOutgConn_isSome hmax (by rw [work_started hfresh]; omega)

/-! ## `poll_write` returns -/

/-- The most work a command of the client writer adds to the streams. -/
def messageWork : ClientToWriteMessage → Nat
  | .start start => (start.body.map List.length).getD 0 + 4
  | .common m => m.work
  | .waitForHandshake => 0

theorem processMessage_work {c c' : Common.Conn} {fuel : Nat} {m : ClientToWriteMessage}
    (h : processMessage c fuel m = some c') :
    c'.work ≤ c.work + messageWork m ∧ c'.peerSettings = c.peerSettings := by
  cases m with
  | start start =>
      obtain ⟨hfresh, _, hbuf⟩ := processStart_some h
      obtain ⟨hps, hle, -⟩ := Common.Conn.bufferOutgConn_work hbuf
      have hwork := work_requestCreated_le start
        (HttpStreamCommon.new c.peerSettings.initialWindowSize .initial)
      have hnew : (HttpStreamCommon.new c.peerSettings.initialWindowSize .initial).work = 0 := rfl
      rw [work_started hfresh] at hle
      exact ⟨by simp only [messageWork]; omega, hps⟩
  | common m =>
      cases h
      exact ⟨Common.Conn.work_processCommonMessage_le c m,
        Common.Conn.processCommonMessage_peerSettings c m⟩
  | waitForHandshake => cases h; exact ⟨Nat.le_add_right _ _, rfl⟩

theorem processMessage_isSome {c : Common.Conn} {fuel : Nat} {m : ClientToWriteMessage}
    (hc : StreamIds c) (hmax : 0 < c.peerSettings.maxFrameSize) (hfuel : c.work + messageWork m < fuel) :
    (processMessage c fuel m).isSome = true := by
  cases m with
  | start start => exact processStart_isSome hc hmax hfuel
  | common m => rfl
  | waitForHandshake => rfl

/-- The loop of `process_write_queue` over the waiting commands, from a state with every stream
    below the next id: no command panics, and the work grows by at most what they add. -/
theorem processWriteQueue_returns {fuel : Nat} {closed : Bool} :
    ∀ {messages : List ClientToWriteMessage} {c : Common.Conn}, StreamIds c →
      0 < c.peerSettings.maxFrameSize → c.work + (messages.map messageWork).sum < fuel →
      ∃ r c', Common.Conn.processWriteQueue (fun c m => processMessage c fuel m) c messages closed =
          some (r, c') ∧ c'.work ≤ c.work + (messages.map messageWork).sum ∧
        c'.peerSettings = c.peerSettings
  | [], c, _, _, _ => ⟨_, c, rfl, by simp, rfl⟩
  | m :: ms, c, hc, hmax, hfuel => by
      rw [List.map_cons, List.sum_cons] at hfuel ⊢
      have hm : c.work + messageWork m < fuel := by omega
      obtain ⟨c₁, h₁⟩ := Option.isSome_iff_exists.mp (processMessage_isSome hc hmax hm)
      obtain ⟨hw₁, hps₁⟩ := processMessage_work h₁
      have hfuel₁ : c₁.work + (ms.map messageWork).sum < fuel := by omega
      obtain ⟨r, c', h', hw', hps'⟩ := processWriteQueue_returns (hc.processMessage h₁) (hps₁ ▸ hmax) hfuel₁
      refine ⟨r, c', ?_, by omega, hps'.trans hps₁⟩
      simp only [Common.Conn.processWriteQueue, h₁]
      exact h'

/-- From a new client connection, after any run of the reader and the writer, `poll_write`
    returns, whatever commands wait in its queue and whatever the transport takes at each poll:
    no command panics (the id `process_start` takes is never in use), and with a positive
    maximum frame size the buffering passes finish with fuel above the work on the streams and
    what the commands add, and `poll_flush` within as many transport polls. -/
theorem pollWrite_returns {peerSettings : PeerSettings} {encoder : Headers → List EncodeBufCall}
    {c : Common.Conn} {fuel : Nat} {messages : List ClientToWriteMessage} {closed : Bool}
    {accepted : List Nat} (h : Relation.ReflTransGen ConnStep (new peerSettings encoder) c)
    (hmax : 0 < c.peerSettings.maxFrameSize)
    (hfuel : c.work + (messages.map messageWork).sum < fuel)
    (hpolls : c.work + (messages.map messageWork).sum < accepted.length) :
    (Common.Conn.pollWrite (fun c m => processMessage c fuel m) fuel messages closed accepted
      c).isSome = true := by
  obtain ⟨r, c', hq, hw, hps⟩ := processWriteQueue_returns (streamIds_of_run h) hmax hfuel
  unfold Common.Conn.pollWrite
  rw [hq]
  cases r with
  | ready => rfl
  | notReady =>
      rw [Option.isSome_map']
      exact Common.Conn.pollFlush_returns (hps ▸ hmax) (by omega) (by omega)

/-- A new connection's writer takes a request with a two-byte body and a one-byte part enqueued
    for it: fuel 12 and twelve transport polls are enough. -/
theorem pollWrite_returns_request_and_part :
    let messages : List ClientToWriteMessage :=
      [.start ⟨⟨[]⟩, some [1, 2], none, false, ⟨true⟩⟩, .common (.streamEnqueue 1 ⟨.data [3], true⟩)]
    0 < (new ⟨16384, 65535⟩ fun _ => []).peerSettings.maxFrameSize ∧
      (new ⟨16384, 65535⟩ fun _ => []).work + (messages.map messageWork).sum < 12 ∧
      (new ⟨16384, 65535⟩ fun _ => []).work + (messages.map messageWork).sum < (List.replicate 12 0).length ∧
      (Common.Conn.pollWrite (fun c m => processMessage c 12 m) 12 messages false (List.replicate 12 0)
        (new ⟨16384, 65535⟩ fun _ => [])).isSome = true :=
  ⟨by decide, by decide, by decide, pollWrite_returns .refl (by decide) (by decide) (by decide)⟩

end Conn

end Httpbis.Client

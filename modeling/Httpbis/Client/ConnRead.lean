import Httpbis.Client.Conn

/-! # HEADERS on the client's reader side

`ConnReadSideCustom::process_headers` of `client/conn.rs`: an inbound HEADERS frame on a
client stream is a response's headers, informational (1xx) headers or trailers, according
to the stream's `in_message_stage`. The header-list checks of `solicit/header.rs` are taken
as parameters; resetting a stream and looking a stream up are modelled from the spec. The
calls the stream handler receives are the output of each step.
-/

namespace Httpbis.Client

open Httpbis.Common Httpbis.Solicit.Frame

/-- `HeadersPlace`. -/
inductive HeadersPlace where
  | initial
  | trailing
  deriving DecidableEq, Repr

/-- `RequestOrResponse`. -/
inductive RequestOrResponse where
  | request
  | response
  deriving DecidableEq, Repr

/-- Modelled from the spec: what the reader asks of a header list: `validate`, `status` and
    `content_length`. -/
structure HeadersOps where
  validate : Headers → RequestOrResponse → HeadersPlace → Bool
  status : Headers → Nat
  contentLength : Headers → Option Nat

/-- The calls a `ClientStreamHandler` receives for HEADERS frames. -/
inductive HandlerEvent where
  | headers (h : Headers) (endStream : Bool)
  | trailers (h : Headers)
  deriving DecidableEq, Repr

namespace Conn

/-- Modelled from the spec: `send_rst_stream`. A stream error emits RST_STREAM and closes
    the stream; the map drops closed streams later. -/
def sendRstStream (c : Common.Conn) (streamId : Nat) (errorCode : ErrorCode) : Common.Conn :=
  let c := c.sendFrameAndNotify (.rstStream (RstStreamFrame.new streamId errorCode))
  { c with streams := c.streams.update streamId fun s =>
      { s with closedLocal := true, closedRemote := true } }

/-- Modelled from the spec: `get_stream_for_headers_maybe_send_error`: late frames on a
    closed stream, and frames on ids not in the map, are ignored. -/
def getStreamForHeaders (c : Common.Conn) (streamId : Nat) : Option HttpStreamCommon :=
  match c.streams.get streamId with
  | some s => if s.isClosed then none else some s
  | none => none

/-- The `headers_place` of a stage; `none` is the `Err` of a stream already past its
    trailers. -/
def headersPlaceOf : InMessageStage → Option HeadersPlace
  | .initial => some .initial
  | .afterInitialHeaders => some .trailing
  | .afterTrailingHeaders => none

/-- A 1xx status. -/
def Is1xx (status : Nat) : Prop := 100 ≤ status ∧ status ≤ 199

instance (status : Nat) : Decidable (Is1xx status) := inferInstanceAs (Decidable (_ ∧ _))

/-- The `status_1xx` match of `process_headers`; `none` is a frame it resets the stream for. -/
def status1xxOf (ops : HeadersOps) (headersPlace : HeadersPlace) (endStream : EndStream)
    (headers : Headers) : Option Bool :=
  match headersPlace with
  | .initial =>
      let status1xx := decide (Is1xx (ops.status headers))
      if status1xx ∧ endStream = .yes then none else some status1xx
  | .trailing => if endStream = .no then none else some false

/-- The stage `process_headers` moves the stream to. -/
def nextStage : HeadersPlace → Bool → InMessageStage
  | .initial, false => .afterInitialHeaders
  | .initial, true => .initial
  | .trailing, _ => .afterTrailingHeaders

/-- The handler call of `process_headers`; `none` is the `assert_eq!` of the trailing branch. -/
def handlerCall (headersPlace : HeadersPlace) (endStream : EndStream) (headers : Headers) :
    Option HandlerEvent :=
  match headersPlace with
  | .initial => some (.headers headers (endStream = .yes))
  | .trailing => if endStream = .yes then some (.trailers headers) else none

/-- The stream after `process_headers` accepted a frame: the content length the headers
    declare, and the next stage. -/
def acceptHeaders (ops : HeadersOps) (s : HttpStreamCommon) (headersPlace : HeadersPlace)
    (status1xx : Bool) (headers : Headers) : HttpStreamCommon :=
  let s := match ops.contentLength headers with
    | some inRemContentLength => { s with inRemContentLength := some inRemContentLength }
    | none => s
  { s with inMessageStage := nextStage headersPlace status1xx }

/-- `process_headers`: the result (`Ok(Some(stream))` is `ok true`), the connection after it,
    and the calls the handler receives. `none` is a panic. -/
def processHeaders (ops : HeadersOps) (c : Common.Conn) (streamId : Nat) (endStream : EndStream)
    (headers : Headers) : Option (Except String Bool × Common.Conn × List HandlerEvent) :=
  match getStreamForHeaders c streamId with
  | none => some (.ok false, c, [])
  | some s =>
      match headersPlaceOf s.inMessageStage with
      | none => some (.error "closed stream must be handled before", c, [])
      | some headersPlace =>
          if !ops.validate headers .response headersPlace then
            some (.ok false, sendRstStream c streamId .protocolError, [])
          else
            match status1xxOf ops headersPlace endStream headers with
            | none => some (.ok false, sendRstStream c streamId .protocolError, [])
            | some status1xx =>
                let s := acceptHeaders ops s headersPlace status1xx headers
                let c := { c with streams := c.streams.update streamId fun _ => s }
                if status1xx || !s.peerTx then some (.ok true, c, [])
                else (handlerCall headersPlace endStream headers).map fun e => (.ok true, c, [e])

/-! ## What one call does -/

/-- The stage of the stream's record, closed or not. -/
def streamStage (c : Common.Conn) (streamId : Nat) : Option InMessageStage :=
  (c.streams.get streamId).map (·.inMessageStage)

@[simp] theorem acceptHeaders_inMessageStage (ops : HeadersOps) (s : HttpStreamCommon)
    (p : HeadersPlace) (b : Bool) (h : Headers) :
    (acceptHeaders ops s p b h).inMessageStage = nextStage p b := rfl

@[simp] theorem acceptHeaders_peerTx (ops : HeadersOps) (s : HttpStreamCommon)
    (p : HeadersPlace) (b : Bool) (h : Headers) :
    (acceptHeaders ops s p b h).peerTx = s.peerTx := by
  unfold acceptHeaders; split <;> rfl

theorem getStreamForHeaders_eq_some {c : Common.Conn} {streamId : Nat} {s : HttpStreamCommon} :
    getStreamForHeaders c streamId = some s ↔ c.streams.get streamId = some s ∧ s.isClosed = false := by
  unfold getStreamForHeaders
  cases hget : c.streams.get streamId with
  | none => simp
  | some t => by_cases ht : t.isClosed = true <;> simp [ht] <;> rintro rfl <;> simpa using ht

/-- A reset keeps the stream's record, closed, and queues RST_STREAM. -/
theorem get_sendRstStream (c : Common.Conn) (streamId : Nat) (e : ErrorCode) :
    (sendRstStream c streamId e).streams.get streamId =
      (c.streams.get streamId).map fun s => { s with closedLocal := true, closedRemote := true } :=
  StreamMap.get_update_self _ _ _

theorem queuedWrite_sendRstStream (c : Common.Conn) (streamId : Nat) (e : ErrorCode) :
    (sendRstStream c streamId e).queuedWrite =
      c.queuedWrite.queueNotGoaway (.rstStream (RstStreamFrame.new streamId e)) := rfl

theorem streamStage_sendRstStream (c : Common.Conn) (streamId : Nat) (e : ErrorCode) :
    streamStage (sendRstStream c streamId e) streamId = streamStage c streamId := by
  simp only [streamStage, get_sendRstStream, Option.map_map]; rfl

theorem status1xxOf_eq_none {ops : HeadersOps} {p : HeadersPlace} {es : EndStream} {h : Headers} :
    status1xxOf ops p es h = none ↔
      (p = .initial ∧ Is1xx (ops.status h) ∧ es = .yes) ∨ (p = .trailing ∧ es = .no) := by
  cases p <;> simp [status1xxOf]

theorem status1xxOf_eq_some {ops : HeadersOps} {p : HeadersPlace} {es : EndStream} {h : Headers}
    {b : Bool} (hb : status1xxOf ops p es h = some b) :
    (p = .initial ∧ b = decide (Is1xx (ops.status h))) ∨ (p = .trailing ∧ b = false ∧ es = .yes) := by
  cases p <;> cases es <;> simp_all [status1xxOf]

/-- Past the checks, the trailing `assert_eq!` holds: the handler call exists. -/
theorem handlerCall_of_status1xxOf {ops : HeadersOps} {p : HeadersPlace} {es : EndStream}
    {h : Headers} {b : Bool} (hb : status1xxOf ops p es h = some b) :
    handlerCall p es h = some (match p with
      | .initial => .headers h (es = .yes)
      | .trailing => .trailers h) := by
  rcases status1xxOf_eq_some hb with ⟨rfl, -⟩ | ⟨rfl, -, rfl⟩ <;> rfl

@[simp] theorem headersPlaceOf_eq_initial {st : InMessageStage} :
    headersPlaceOf st = some .initial ↔ st = .initial := by
  cases st <;> simp [headersPlaceOf]

@[simp] theorem headersPlaceOf_eq_trailing {st : InMessageStage} :
    headersPlaceOf st = some .trailing ↔ st = .afterInitialHeaders := by
  cases st <;> simp [headersPlaceOf]

theorem rank_le_nextStage {st : InMessageStage} {p : HeadersPlace} (hp : headersPlaceOf st = some p)
    (b : Bool) : st.rank ≤ (nextStage p b).rank := by
  cases st <;> cases p <;> cases b <;> simp_all [headersPlaceOf, nextStage, InMessageStage.rank]

/-- Everything one call of `process_headers` can do: ignore the frame, fail the connection on a
    stream past its trailers, reset the stream, or accept the frame. -/
theorem processHeaders_cases (ops : HeadersOps) (c : Common.Conn) (streamId : Nat)
    (es : EndStream) (h : Headers) :
    (getStreamForHeaders c streamId = none ∧ processHeaders ops c streamId es h = some (.ok false, c, [])) ∨
    (∃ s, getStreamForHeaders c streamId = some s ∧ s.inMessageStage = .afterTrailingHeaders ∧
      processHeaders ops c streamId es h = some (.error "closed stream must be handled before", c, [])) ∨
    (∃ s p, getStreamForHeaders c streamId = some s ∧ headersPlaceOf s.inMessageStage = some p ∧
      (ops.validate h .response p = false ∨ status1xxOf ops p es h = none) ∧
      processHeaders ops c streamId es h = some (.ok false, sendRstStream c streamId .protocolError, [])) ∨
    (∃ s p b, getStreamForHeaders c streamId = some s ∧ headersPlaceOf s.inMessageStage = some p ∧
      ops.validate h .response p = true ∧ status1xxOf ops p es h = some b ∧
      processHeaders ops c streamId es h = some (.ok true,
        { c with streams := c.streams.update streamId fun _ => acceptHeaders ops s p b h },
        if b || !s.peerTx then [] else
          [match p with | .initial => .headers h (es = .yes) | .trailing => .trailers h])) := by
  rcases hg : getStreamForHeaders c streamId with _ | s
  · exact .inl ⟨rfl, by simp only [processHeaders, hg]⟩
  rcases hp : headersPlaceOf s.inMessageStage with _ | p
  · refine .inr (.inl ⟨s, rfl, ?_, by simp only [processHeaders, hg, hp]⟩)
    cases hs : s.inMessageStage <;> simp_all [headersPlaceOf]
  cases hv : ops.validate h .response p
  · exact .inr (.inr (.inl ⟨s, p, rfl, hp, .inl hv, by simp [processHeaders, hg, hp, hv]⟩))
  rcases hb : status1xxOf ops p es h with _ | b
  · exact .inr (.inr (.inl ⟨s, p, rfl, hp, .inr hb, by simp [processHeaders, hg, hp, hv, hb]⟩))
  refine .inr (.inr (.inr ⟨s, p, b, rfl, hp, hv, hb, ?_⟩))
  simp only [processHeaders, hg, hp, hv, hb, Bool.not_true, Bool.false_eq_true, ite_false,
    acceptHeaders_peerTx, handlerCall_of_status1xxOf hb]
  cases p <;> split <;> rfl

/-- The stage of a stream as seen through `Option.Rel`: never further back. -/
theorem stageRel_refl (o : Option InMessageStage) : Option.Rel (·.rank ≤ ·.rank) o o := by
  cases o
  · exact .none
  · exact .some le_rfl

/-- One call of `process_headers` returns, keeps the stream's stage or moves it forward, keeps a
    1xx response at `Initial`, and calls the handler at most once: with the headers of a non-1xx
    response on a stream at `Initial`, or with trailers carrying END_STREAM on a stream past its
    initial headers. -/
theorem processHeaders_step (ops : HeadersOps) (c : Common.Conn) (streamId : Nat) (es : EndStream)
    (h : Headers) :
    ∃ r c' evs', processHeaders ops c streamId es h = some (r, c', evs') ∧
      Option.Rel (·.rank ≤ ·.rank) (streamStage c streamId) (streamStage c' streamId) ∧
      (streamStage c streamId = some .initial → Is1xx (ops.status h) →
        streamStage c' streamId = some .initial) ∧
      ∀ e ∈ evs',
        (e = .headers h (es = .yes) ∧ ¬Is1xx (ops.status h) ∧ streamStage c streamId = some .initial) ∨
        (e = .trailers h ∧ es = .yes ∧ streamStage c streamId = some .afterInitialHeaders) := by
  rcases processHeaders_cases ops c streamId es h with
    ⟨-, heq⟩ | ⟨s, -, -, heq⟩ | ⟨s, p, -, -, -, heq⟩ | ⟨s, p, b, hg, hp, -, hb, heq⟩
  · exact ⟨_, _, _, heq, stageRel_refl _, fun h0 _ => h0, by simp⟩
  · exact ⟨_, _, _, heq, stageRel_refl _, fun h0 _ => h0, by simp⟩
  · refine ⟨_, _, _, heq, ?_, fun h0 _ => ?_, by simp⟩
    · rw [streamStage_sendRstStream]; exact stageRel_refl _
    · rwa [streamStage_sendRstStream]
  have hget := (getStreamForHeaders_eq_some.mp hg).1
  have hst : streamStage c streamId = some s.inMessageStage := by simp [streamStage, hget]
  refine ⟨_, _, _, heq, ?_, ?_, ?_⟩
  · simp only [hst, streamStage, StreamMap.get_update_self, hget, Option.map_some',
      acceptHeaders_inMessageStage]
    exact .some (rank_le_nextStage hp b)
  · intro h0 h1x
    have hs0 : s.inMessageStage = .initial := Option.some.inj (hst.symm.trans h0)
    obtain rfl : p = .initial := by rw [hs0] at hp; exact (Option.some.inj hp).symm
    rcases status1xxOf_eq_some hb with ⟨-, rfl⟩ | ⟨hc, -⟩
    · simp [streamStage, hget, nextStage, h1x]
    · cases hc
  · intro e he
    split at he
    · simp at he
    next hc =>
    have hb0 : b = false := by revert hc; cases b <;> simp
    obtain rfl := List.mem_singleton.mp he
    rcases status1xxOf_eq_some hb with ⟨rfl, h1⟩ | ⟨rfl, -, hes⟩
    · exact .inl ⟨rfl, by simpa [hb0] using h1, by simpa [hst] using hp⟩
    · exact .inr ⟨rfl, hes, by simpa [hst] using hp⟩

/-- A frame that fails validation, a 1xx response with END_STREAM, or trailers without
    END_STREAM reset the stream with PROTOCOL_ERROR: no handler call, the stage unchanged. -/
theorem processHeaders_reset {ops : HeadersOps} {c : Common.Conn} {streamId : Nat}
    {es : EndStream} {h : Headers} {s : HttpStreamCommon} {p : HeadersPlace}
    (hg : getStreamForHeaders c streamId = some s) (hp : headersPlaceOf s.inMessageStage = some p)
    (hbad : ops.validate h .response p = false ∨ (p = .initial ∧ Is1xx (ops.status h) ∧ es = .yes) ∨
      (p = .trailing ∧ es = .no)) :
    processHeaders ops c streamId es h = some (.ok false, sendRstStream c streamId .protocolError, []) := by
  rw [← status1xxOf_eq_none] at hbad
  rcases processHeaders_cases ops c streamId es h with
    ⟨hg', -⟩ | ⟨s', hg', hst, -⟩ | ⟨-, -, -, -, -, heq⟩ | ⟨s', p', b, hg', hp', hv, hb, -⟩
  · simp [hg] at hg'
  · obtain rfl := Option.some.inj (hg.symm.trans hg')
    simp [hst, headersPlaceOf] at hp
  · exact heq
  · obtain rfl := Option.some.inj (hg.symm.trans hg')
    obtain rfl := Option.some.inj (hp.symm.trans hp')
    rcases hbad with hbad | hbad <;> simp [hbad] at hv hb

/-! ## A stream's HEADERS frames, one after the other -/

/-- The connections a stream's HEADERS frames lead to when they are handed to `process_headers`
    one after the other, with the handler calls made so far. -/
inductive HeadersRun (ops : HeadersOps) (streamId : Nat) (c₀ : Common.Conn) :
    Common.Conn → List HandlerEvent → Prop
  | start : HeadersRun ops streamId c₀ c₀ []
  | step {c c' : Common.Conn} {evs evs' : List HandlerEvent} {r : Except String Bool}
      (es : EndStream) (h : Headers) : HeadersRun ops streamId c₀ c evs →
      processHeaders ops c streamId es h = some (r, c', evs') →
      HeadersRun ops streamId c₀ c' (evs ++ evs')

/-- The handler calls a stream can have seen: none, the headers of a response that is not 1xx,
    or those headers and then trailers. -/
def EventsShape (ops : HeadersOps) : List HandlerEvent → Prop
  | [] => True
  | [.headers h _] => ¬Is1xx (ops.status h)
  | [.headers h _, .trailers _] => ¬Is1xx (ops.status h)
  | _ => False

/-- The handler calls made so far, from the stage a stream with a handler has reached. -/
def EventsFit (ops : HeadersOps) : Bool → InMessageStage → List HandlerEvent → Prop
  | false, _, evs => evs = []
  | true, .initial, evs => evs = []
  | true, .afterInitialHeaders, evs => ∃ h b, ¬Is1xx (ops.status h) ∧ evs = [.headers h b]
  | true, .afterTrailingHeaders, evs =>
      ∃ h b h', ¬Is1xx (ops.status h) ∧ evs = [.headers h b, .trailers h']

@[simp] theorem eventsFit_initial (ops : HeadersOps) (tx : Bool) (evs : List HandlerEvent) :
    EventsFit ops tx .initial evs ↔ evs = [] := by
  cases tx <;> rfl

theorem eventsShape_of_fit {ops : HeadersOps} {tx : Bool} {st : InMessageStage}
    {evs : List HandlerEvent} (hfit : EventsFit ops tx st evs) : EventsShape ops evs := by
  cases tx
  · simp_all [EventsFit, EventsShape]
  cases st
  · simp_all [EventsFit, EventsShape]
  · obtain ⟨h, b, hn, rfl⟩ := hfit; exact hn
  · obtain ⟨h, b, h', hn, rfl⟩ := hfit; exact hn

theorem processHeaders_fit {ops : HeadersOps} {c c' : Common.Conn} {streamId : Nat}
    {es : EndStream} {h : Headers} {r : Except String Bool} {evs evs' : List HandlerEvent}
    {s : HttpStreamCommon} (hget : c.streams.get streamId = some s)
    (hfit : EventsFit ops s.peerTx s.inMessageStage evs)
    (hstep : processHeaders ops c streamId es h = some (r, c', evs')) :
    ∃ s', c'.streams.get streamId = some s' ∧ EventsFit ops s'.peerTx s'.inMessageStage (evs ++ evs') := by
  rcases processHeaders_cases ops c streamId es h with
    ⟨-, heq⟩ | ⟨-, -, -, heq⟩ | ⟨-, -, -, -, -, heq⟩ | ⟨s', p, b, hg, hp, -, hb, heq⟩ <;>
    simp only [heq, Option.some.injEq, Prod.mk.injEq] at hstep <;> obtain ⟨rfl, rfl, rfl⟩ := hstep
  · exact ⟨s, hget, by simpa using hfit⟩
  · exact ⟨s, hget, by simpa using hfit⟩
  · exact ⟨_, by rw [get_sendRstStream, hget]; rfl, by simpa using hfit⟩
  obtain rfl := Option.some.inj (hget.symm.trans (getStreamForHeaders_eq_some.mp hg).1)
  refine ⟨acceptHeaders ops s p b h, by simp [hget], ?_⟩
  simp only [acceptHeaders_peerTx, acceptHeaders_inMessageStage]
  rcases status1xxOf_eq_some hb with ⟨rfl, rfl⟩ | ⟨rfl, rfl, rfl⟩
  · rw [headersPlaceOf_eq_initial.mp hp] at hfit
    obtain rfl := (eventsFit_initial ..).mp hfit
    by_cases h1 : Is1xx (ops.status h) <;> cases s.peerTx <;> simp [EventsFit, nextStage, h1]
  · rw [headersPlaceOf_eq_trailing.mp hp] at hfit
    cases hx : s.peerTx <;> simp only [hx, EventsFit] at hfit ⊢
    · simpa using hfit
    · obtain ⟨h0, b0, hn, rfl⟩ := hfit
      exact ⟨h0, b0, h, hn, rfl⟩

theorem headersRun_fit {ops : HeadersOps} {streamId : Nat} {c₀ c : Common.Conn}
    {evs : List HandlerEvent} (h₀ : streamStage c₀ streamId = some .initial)
    (hrun : HeadersRun ops streamId c₀ c evs) :
    ∃ s, c.streams.get streamId = some s ∧ EventsFit ops s.peerTx s.inMessageStage evs := by
  induction hrun with
  | start =>
      obtain ⟨s₀, hget, hinit⟩ := Option.map_eq_some'.mp h₀
      exact ⟨s₀, hget, by simp [hinit]⟩
  | step es h _ hstep ih =>
      obtain ⟨s, hget, hfit⟩ := ih
      exact processHeaders_fit hget hfit hstep

/-- HEADERS frames handed to `process_headers` for a stream created at `Initial`: whatever was
    received so far, the next frame does not panic (the trailing `assert_eq!` holds), never
    moves the stage backwards, keeps a 1xx response at `Initial`, calls the handler at most once
    (with the headers of a non-1xx response at `Initial`, or with trailers carrying END_STREAM
    after the initial headers), resets the stream with PROTOCOL_ERROR and no handler call for a
    frame that fails validation, a 1xx response with END_STREAM or trailers without END_STREAM,
    and the handler's calls over the whole sequence are at most one `headers`, never for a 1xx
    status, then at most one `trailers`. -/
theorem processHeaders_stage_discipline (ops : HeadersOps) (streamId : Nat) {c₀ c : Common.Conn}
    {evs : List HandlerEvent} (h₀ : streamStage c₀ streamId = some .initial)
    (hrun : HeadersRun ops streamId c₀ c evs) (es : EndStream) (h : Headers) :
    ∃ r c' evs', processHeaders ops c streamId es h = some (r, c', evs') ∧
      Option.Rel (·.rank ≤ ·.rank) (streamStage c streamId) (streamStage c' streamId) ∧
      (streamStage c streamId = some .initial → Is1xx (ops.status h) →
        streamStage c' streamId = some .initial) ∧
      (∀ e ∈ evs',
        (e = .headers h (es = .yes) ∧ ¬Is1xx (ops.status h) ∧ streamStage c streamId = some .initial) ∨
        (e = .trailers h ∧ es = .yes ∧ streamStage c streamId = some .afterInitialHeaders)) ∧
      (∀ s p, getStreamForHeaders c streamId = some s → headersPlaceOf s.inMessageStage = some p →
        (ops.validate h .response p = false ∨ (p = .initial ∧ Is1xx (ops.status h) ∧ es = .yes) ∨
          (p = .trailing ∧ es = .no)) →
        r = .ok false ∧ evs' = [] ∧ streamStage c' streamId = streamStage c streamId ∧
        c'.queuedWrite =
          c.queuedWrite.queueNotGoaway (.rstStream (RstStreamFrame.new streamId .protocolError))) ∧
      EventsShape ops (evs ++ evs') := by
  obtain ⟨r, c', evs', heq, hmono, h1xx, hev⟩ := processHeaders_step ops c streamId es h
  obtain ⟨_, -, hfit⟩ := headersRun_fit h₀ (.step es h hrun heq)
  refine ⟨r, c', evs', heq, hmono, h1xx, hev, fun s p hg hp hbad => ?_, eventsShape_of_fit hfit⟩
  rw [processHeaders_reset hg hp hbad, Option.some.injEq, Prod.mk.injEq, Prod.mk.injEq] at heq
  obtain ⟨rfl, rfl, rfl⟩ := heq
  exact ⟨rfl, rfl, streamStage_sendRstStream .., queuedWrite_sendRstStream ..⟩

/-- A stream with a handler receives a 1xx response, which leaves it at `Initial` with no
    handler call, then a 200 response without END_STREAM, which the handler receives as its
    headers: the trailers that come next, with END_STREAM, are the handler's second and last
    call. -/
theorem processHeaders_informational_then_trailers :
    let ops : HeadersOps := ⟨fun _ _ _ => true, fun h => if h.fields = [] then 100 else 200,
      fun _ => none⟩
    let c₀ : Common.Conn := { Conn.new ⟨16384, 65535⟩ (fun _ => []) with
      streams := (StreamMap.empty.insert 1 { HttpStreamCommon.new 65535 .initial with peerTx := true }).2 }
    ∃ c evs, HeadersRun ops 1 c₀ c evs ∧ evs = [.headers ⟨[([], [])]⟩ false] ∧
      streamStage c 1 = some .afterInitialHeaders ∧
      (processHeaders ops c 1 .yes ⟨[([], [])]⟩).map (·.2.2) = some [.trailers ⟨[([], [])]⟩] ∧
      ∃ r c' evs', processHeaders ops c 1 .yes ⟨[([], [])]⟩ = some (r, c', evs') ∧
        Option.Rel (·.rank ≤ ·.rank) (streamStage c 1) (streamStage c' 1) ∧
        (streamStage c 1 = some .initial → Is1xx (ops.status ⟨[([], [])]⟩) →
          streamStage c' 1 = some .initial) ∧
        (∀ e ∈ evs',
          (e = .headers ⟨[([], [])]⟩ (EndStream.yes = .yes) ∧ ¬Is1xx (ops.status ⟨[([], [])]⟩) ∧
            streamStage c 1 = some .initial) ∨
          (e = .trailers ⟨[([], [])]⟩ ∧ EndStream.yes = .yes ∧
            streamStage c 1 = some .afterInitialHeaders)) ∧
        (∀ s p, getStreamForHeaders c 1 = some s → headersPlaceOf s.inMessageStage = some p →
          (ops.validate ⟨[([], [])]⟩ .response p = false ∨
            (p = .initial ∧ Is1xx (ops.status ⟨[([], [])]⟩) ∧ EndStream.yes = .yes) ∨
            (p = .trailing ∧ EndStream.yes = .no)) →
          r = .ok false ∧ evs' = [] ∧ streamStage c' 1 = streamStage c 1 ∧
          c'.queuedWrite =
            c.queuedWrite.queueNotGoaway (.rstStream (RstStreamFrame.new 1 .protocolError))) ∧
        EventsShape ops (evs ++ evs') := by
  intro ops c₀
  have hrun₁ : HeadersRun ops 1 c₀ _ _ := .step .no ⟨[]⟩ .start rfl
  have hrun : HeadersRun ops 1 c₀ _ _ := .step .no ⟨[([], [])]⟩ hrun₁ rfl
  exact ⟨_, _, hrun, rfl, rfl, rfl,
    processHeaders_stage_discipline ops 1 (show streamStage c₀ 1 = some .initial from rfl) hrun .yes _⟩

end Conn

end Httpbis.Client

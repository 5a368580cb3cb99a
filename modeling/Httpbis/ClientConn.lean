import Httpbis.Common.Stream
import Httpbis.Common.StreamMap

/-! # Stream ids of `client_conn.rs`

The first client's `ClientInner::insert_stream` gives each new request the session's
`next_stream_id`, which `ClientConnection::connected` sets to 1, and advances it by 2. The
stream map of `LoopInnerCommon` is not among the sources; the model keeps its ids and lets
streams leave it as they close. A run is a sequence of started requests and removals.

The write loop's `process_start` inserts a request's stream and spawns a task that sends the
body to the loop as `BodyChunk` messages and an `End`; the reader meanwhile may close the
stream and drop it from the map. `process_body_chunk` and `process_end` `expect` the stream
in the map, so a body message that arrives after the removal panics.

On the reader's side a stream passes the response to its `response_handler`: header blocks,
data chunks and resets while the handler is there, and `Eof` when `closed_remote` takes it.
Whatever the reader calls, in any order, the receiver gets `Eof` at most once and last, and no
empty header list.
-/

namespace Httpbis.ClientConn

open Httpbis.Common Httpbis.Solicit.Frame

/-- `ClientSessionState`; the loop handle is not modelled. -/
structure ClientSessionState where
  nextStreamId : Nat

/-- `ClientInner`, its stream map and session state. -/
structure ClientInner (σ : Type) where
  streams : StreamMap σ
  sessionState : ClientSessionState

namespace ClientInner

variable {σ : Type}

/-- The state `ClientConnection::connected` builds: no stream, `next_stream_id: 1`. -/
def new : ClientInner σ := ⟨.empty, ⟨1⟩⟩

/-- `insert_stream`: it panics when the id is already in the map, and on the `u32` overflow of
    `next_stream_id += 2`. -/
def insertStream (inner : ClientInner σ) (stream : σ) : Option (Nat × ClientInner σ) :=
  let id := inner.sessionState.nextStreamId
  match inner.streams.insert id stream with
  | (some _, _) => none
  | (none, streams) => if id + 2 < 2 ^ 32 then some (id, ⟨streams, ⟨id + 2⟩⟩) else none

end ClientInner

/-- What happens to the stream map over a connection's life: a request is started, or a
    stream closes and leaves the map. -/
inductive Op (σ : Type) where
  | start (stream : σ)
  | remove (streamId : Nat)

/-- The number of requests a run starts. -/
def starts {σ : Type} : List (Op σ) → Nat
  | [] => 0
  | .start _ :: ops => starts ops + 1
  | .remove _ :: ops => starts ops

/-- A run: the ids `insert_stream` hands out, in order, and the final state. -/
def run {σ : Type} : ClientInner σ → List (Op σ) → Option (List Nat × ClientInner σ)
  | inner, [] => some ([], inner)
  | inner, .start stream :: ops => do
      let (id, inner) ← inner.insertStream stream
      let (ids, inner) ← run inner ops
      pure (id :: ids, inner)
  | inner, .remove streamId :: ops =>
      run { inner with streams := inner.streams.remove streamId } ops

/-- Every id in the map is below the next id to hand out. -/
def Fresh {σ : Type} (inner : ClientInner σ) : Prop :=
  ∀ k ∈ inner.streams.keys, k < inner.sessionState.nextStreamId

theorem fresh_new {σ : Type} : Fresh (ClientInner.new : ClientInner σ) := by
  simp [Fresh, ClientInner.new, StreamMap.keys, StreamMap.empty]

/-- `insert_stream` on a fresh state, below the overflow, hands out `next_stream_id`. -/
theorem insertStream_fresh {σ : Type} {inner : ClientInner σ} (h : Fresh inner) (stream : σ)
    (hfit : inner.sessionState.nextStreamId + 2 < 2 ^ 32) :
    ∃ inner', inner.insertStream stream = some (inner.sessionState.nextStreamId, inner') ∧
      Fresh inner' ∧ inner'.sessionState.nextStreamId = inner.sessionState.nextStreamId + 2 := by
  have habsent := StreamMap.get_eq_none (fun hk => Nat.lt_irrefl _ (h _ hk))
  refine ⟨⟨(inner.streams.insert inner.sessionState.nextStreamId stream).2,
    ⟨inner.sessionState.nextStreamId + 2⟩⟩, ?_, ?_, rfl⟩
  · simp only [ClientInner.insertStream, StreamMap.insert, habsent, if_pos hfit]
  intro k hk
  rcases StreamMap.mem_keys_insert _ _ _ k hk with rfl | hk
  · simp
  · have := h k hk; simp; omega

/-- A run from a fresh state hands out consecutive odd offsets of `next_stream_id`, as long as
    the counter stays in `u32`. -/
theorem run_fresh {σ : Type} (ops : List (Op σ)) :
    ∀ inner : ClientInner σ, Fresh inner →
      inner.sessionState.nextStreamId + 2 * starts ops < 2 ^ 32 →
      ∃ inner', run inner ops = some ((List.range (starts ops)).map
          (fun k => inner.sessionState.nextStreamId + 2 * k), inner') ∧ Fresh inner' := by
  induction ops with
  | nil => intro inner h _; exact ⟨inner, rfl, h⟩
  | cons op ops ih =>
      intro inner h hfit
      cases op with
      | start stream =>
          simp only [starts] at hfit
          obtain ⟨inner₁, hins, h₁, hnext⟩ := insertStream_fresh h stream (by omega)
          obtain ⟨inner', hrun, h'⟩ := ih inner₁ h₁ (by omega)
          rw [hnext, show (fun k => inner.sessionState.nextStreamId + 2 + 2 * k) =
            fun k => inner.sessionState.nextStreamId + 2 * (k + 1) from funext fun k => by omega]
            at hrun
          refine ⟨inner', ?_, h'⟩
          simp [run, hins, hrun, starts, List.range_succ_eq_map, Function.comp_def]
      | remove streamId =>
          exact ih _ (fun k hk => h k (StreamMap.mem_keys_remove _ _ _ hk)) hfit

theorem starts_replicate {σ : Type} (n : Nat) (stream : σ) :
    starts (List.replicate n (Op.start stream)) = n := by
  induction n with
  | zero => rfl
  | succ n ih => simp [List.replicate_succ, starts, ih]

/-- The request after the first `2 ^ 30` is given the id `2 ^ 31 + 1`, outside the 31-bit id
    space. -/
theorem insertStream_leaves_31_bits :
    ∃ ids inner, run (ClientInner.new : ClientInner Unit)
      (List.replicate (2 ^ 30 + 1) (.start ())) = some (ids, inner) ∧ 2 ^ 31 + 1 ∈ ids := by
  obtain ⟨inner, hrun, -⟩ := run_fresh (List.replicate (2 ^ 30 + 1) (Op.start ())) ClientInner.new
    fresh_new (by rw [starts_replicate]; norm_num [ClientInner.new])
  refine ⟨_, inner, hrun, ?_⟩
  rw [starts_replicate]
  exact List.mem_map.mpr ⟨2 ^ 30, List.mem_range.mpr (by norm_num), by norm_num [ClientInner.new]⟩

/-- While fewer than `2 ^ 31` requests are started on the connection, `insert_stream` never
    panics and hands out 1, 3, 5, ... in order: odd, strictly increasing, none of them in the
    map when handed out, and below `2 ^ 31` for the first `2 ^ 30` requests. -/
theorem insertStream_ids_odd_increasing {σ : Type} (ops : List (Op σ)) (h : starts ops < 2 ^ 31) :
    ∃ inner, run ClientInner.new ops =
        some ((List.range (starts ops)).map (fun k => 2 * k + 1), inner) ∧
      ((List.range (starts ops)).map (fun k => 2 * k + 1)).Sorted (· < ·) ∧
      (∀ id ∈ (List.range (starts ops)).map (fun k => 2 * k + 1), id % 2 = 1) ∧
      (starts ops ≤ 2 ^ 30 →
        ∀ id ∈ (List.range (starts ops)).map (fun k => 2 * k + 1), id < 2 ^ 31) := by
  obtain ⟨inner, hrun, -⟩ := run_fresh ops ClientInner.new fresh_new
    (by simp only [ClientInner.new]; omega)
  refine ⟨inner, by simpa [ClientInner.new, Nat.add_comm] using hrun,
    List.pairwise_map.mpr ((List.pairwise_lt_range _).imp (by omega)),
    fun id hid => by obtain ⟨k, -, rfl⟩ := List.mem_map.mp hid; omega, ?_⟩
  intro hn id hid
  obtain ⟨k, hk, rfl⟩ := List.mem_map.mp hid
  have := List.mem_range.mp hk
  omega

theorem insertStream_ids_two_requests :
    ∃ inner, run (ClientInner.new : ClientInner Unit) [.start (), .remove 1, .start ()] =
      some ([1, 3], inner) := by
  obtain ⟨inner, hrun, -⟩ := insertStream_ids_odd_increasing
    [Op.start (), .remove 1, .start ()] (by decide)
  exact ⟨inner, hrun⟩

/-! ## The write loop's request messages -/

/-- `ClientStream`; its response handler is not modelled, as nothing here reads it. -/
structure ClientStream where
  common : HttpStreamCommon

/-- `ClientToWriteMessage` less `Common`: a request, a chunk of its body, and the end of its
    body, the last two sent by the body task. -/
inductive ClientToWriteMessage where
  | start (headers : Headers)
  | bodyChunk (streamId : Nat) (chunk : List UInt8)
  | endRequest (streamId : Nat)

namespace ClientInner

/-- The stream half of `process_start`: a stream with the peer's initial window and the request
    headers queued, given to `insert_stream`. The first client's `HttpStreamCommon::new` sets
    no message stage; the model's stream starts at `initial`. -/
def processStart (inner : ClientInner ClientStream) (initialWindowSize : Int) (headers : Headers) :
    Option (Nat × ClientInner ClientStream) :=
  inner.insertStream ⟨(HttpStreamCommon.new initialWindowSize .initial).pushBack (.headers headers)⟩

/-- `get_stream_mut(stream_id).expect("stream not found: ...")` and an update of the stream it
    finds, the body `process_body_chunk` and `process_end` share: a missing stream panics. -/
def withStreamExpect (inner : ClientInner ClientStream) (streamId : Nat)
    (f : ClientStream → ClientStream) : Option (ClientInner ClientStream) :=
  (inner.streams.get streamId).map fun _ => { inner with streams := inner.streams.update streamId f }

/-- `process_body_chunk`: the chunk joins the stream's outgoing queue. -/
def processBodyChunk (inner : ClientInner ClientStream) (streamId : Nat) (chunk : List UInt8) :
    Option (ClientInner ClientStream) :=
  inner.withStreamExpect streamId fun stream => ⟨stream.common.pushBack (.data chunk)⟩

/-- `process_end`: `outgoing_end = Some(ErrorCode::NoError)`. -/
def processEnd (inner : ClientInner ClientStream) (streamId : Nat) :
    Option (ClientInner ClientStream) :=
  inner.withStreamExpect streamId fun stream => ⟨{ stream.common with outgoingEnd := some .noError }⟩

/-- `process_message` on the request messages. Each handler then calls `send_outg_stream`,
    which is not among the sources; what it does to the map, closing and dropping a stream
    that has sent its end, is a removal of the run. -/
def processMessage (inner : ClientInner ClientStream) (initialWindowSize : Int) :
    ClientToWriteMessage → Option (ClientInner ClientStream)
  | .start headers => (inner.processStart initialWindowSize headers).map Prod.snd
  | .bodyChunk streamId chunk => inner.processBodyChunk streamId chunk
  | .endRequest streamId => inner.processEnd streamId

theorem withStreamExpect_eq_none {inner : ClientInner ClientStream} {streamId : Nat}
    {f : ClientStream → ClientStream} :
    inner.withStreamExpect streamId f = none ↔ inner.streams.get streamId = none := by
  simp [withStreamExpect]

/-- While its stream is in the map, a body message does not panic and updates that stream
    only. -/
theorem withStreamExpect_of_get {inner : ClientInner ClientStream} {streamId : Nat}
    {stream : ClientStream} (h : inner.streams.get streamId = some stream)
    (f : ClientStream → ClientStream) :
    inner.withStreamExpect streamId f = some { inner with streams := inner.streams.update streamId f } := by
  simp [withStreamExpect, h]

end ClientInner

/-- What the write loop sees: a request message, or the reader closing a stream and dropping
    it from the map, as a peer's RST_STREAM does at any time. -/
inductive WriteLoopEvent where
  | message (m : ClientToWriteMessage)
  | streamRemoved (streamId : Nat)

/-- A run of the write loop over any interleaving of the two; `none` is a panic. -/
def runWriteLoop (initialWindowSize : Int) :
    ClientInner ClientStream → List WriteLoopEvent → Option (ClientInner ClientStream)
  | inner, [] => some inner
  | inner, .message m :: events =>
      (inner.processMessage initialWindowSize m).bind (runWriteLoop initialWindowSize · events)
  | inner, .streamRemoved streamId :: events =>
      runWriteLoop initialWindowSize { inner with streams := inner.streams.remove streamId } events

theorem runWriteLoop_append (initialWindowSize : Int) (pre post : List WriteLoopEvent) :
    ∀ inner, runWriteLoop initialWindowSize inner (pre ++ post) =
      (runWriteLoop initialWindowSize inner pre).bind (runWriteLoop initialWindowSize · post) := by
  induction pre with
  | nil => intro inner; rfl
  | cons event pre ih =>
      intro inner
      cases event with
      | message m =>
          simp only [List.cons_append, runWriteLoop]
          cases inner.processMessage initialWindowSize m <;> simp [ih]
      | streamRemoved streamId => exact ih _

/-- Whatever ran before and after, a `BodyChunk` or an `End` that the write loop takes right
    after its stream left the map panics, where `process_headers` returns on a missing stream.
    From a new connection, `[start, streamRemoved 1, bodyChunk 1 _]` is such a run. -/
theorem body_message_after_stream_removed_panics (initialWindowSize : Int)
    (inner : ClientInner ClientStream) (pre post : List WriteLoopEvent) (streamId : Nat)
    (chunk : List UInt8) :
    runWriteLoop initialWindowSize inner
        (pre ++ .streamRemoved streamId :: .message (.bodyChunk streamId chunk) :: post) = none ∧
      runWriteLoop initialWindowSize inner
        (pre ++ .streamRemoved streamId :: .message (.endRequest streamId) :: post) = none := by
  have hgone : ∀ inner' : ClientInner ClientStream,
      ({ inner' with streams := inner'.streams.remove streamId } : ClientInner ClientStream).streams.get
        streamId = none := fun inner' => by simp [StreamMap.get_remove]
  constructor <;>
  · rw [runWriteLoop_append]
    cases runWriteLoop initialWindowSize inner pre with
    | none => rfl
    | some inner' =>
        simp [runWriteLoop, ClientInner.processMessage, ClientInner.processBodyChunk,
          ClientInner.processEnd, ClientInner.withStreamExpect_eq_none.mpr (hgone inner')]

/-! ## The response side of a stream -/

/-- `ResultOrEof<HttpStreamPart, Error>` on a response channel. `HttpStreamPart` has the shape of
    `DataOrHeadersWithFlag`; the only error a stream sends is `Error::CodeError`. -/
inductive ResultOrEof where
  | item (part : DataOrHeadersWithFlag)
  | error (errorCode : ErrorCode)
  | eof
  deriving DecidableEq, Repr

/-- The `response_handler` of a `ClientStream`: whether it is still `Some`, and what its
    receiver has been sent. A send ignores a receiver that is gone, so what was sent is what
    the channel got. -/
structure ResponseHandler where
  present : Bool
  sent : List ResultOrEof

namespace ResponseHandler

/-- `response_handler.send(..)` under `if let Some(..)`. -/
def send (r : ResponseHandler) (m : ResultOrEof) : ResponseHandler :=
  if r.present then { r with sent := r.sent ++ [m] } else r

/-- `ClientStream::new_data_chunk`. -/
def newDataChunk (r : ResponseHandler) (data : List UInt8) (last : Bool) : ResponseHandler :=
  r.send (.item ⟨.data data, last⟩)

/-- `ClientStream::rst`: the handler stays. -/
def rst (r : ResponseHandler) (errorCode : ErrorCode) : ResponseHandler :=
  r.send (.error errorCode)

/-- `ClientStream::closed_remote`: `take` the handler and send `Eof` on it. -/
def closedRemote (r : ResponseHandler) : ResponseHandler :=
  if r.present then ⟨false, r.sent ++ [.eof]⟩ else r

/-- The stream's half of `ClientInner::process_headers`, once the stream is found in the map:
    an empty header list is dropped. -/
def processHeaders (r : ResponseHandler) (endStream : EndStream) (headers : Headers) :
    ResponseHandler :=
  if headers.fields.length ≠ 0 then r.send (.item ⟨.headers headers, endStream = .yes⟩) else r

/-- A call the reader makes on a stream's response side. -/
inductive Call where
  | headers (endStream : EndStream) (headers : Headers)
  | dataChunk (data : List UInt8) (last : Bool)
  | rst (errorCode : ErrorCode)
  | closedRemote

def call (r : ResponseHandler) : Call → ResponseHandler
  | .headers endStream headers => r.processHeaders endStream headers
  | .dataChunk data last => r.newDataChunk data last
  | .rst errorCode => r.rst errorCode
  | .closedRemote => r.closedRemote

/-- What every state of the response side keeps: no `Eof` while the handler is there, and once
    it is taken the messages end with the one `Eof`; no header list sent is empty. -/
structure Wf (r : ResponseHandler) : Prop where
  present : r.present = true → ResultOrEof.eof ∉ r.sent
  taken : r.present = false → ∃ pre, r.sent = pre ++ [.eof] ∧ ResultOrEof.eof ∉ pre
  headers : ∀ h last, ResultOrEof.item ⟨.headers h, last⟩ ∈ r.sent → h.fields ≠ []

theorem Wf.send {r : ResponseHandler} (hr : r.Wf) {m : ResultOrEof} (hm : m ≠ .eof)
    (hh : ∀ h last, m = .item ⟨.headers h, last⟩ → h.fields ≠ []) : (r.send m).Wf := by
  unfold ResponseHandler.send
  split
  · rename_i hp
    refine ⟨fun _ he => ?_, fun h => by simp [hp] at h, fun h last hin => ?_⟩
    · rcases List.mem_append.mp he with he | he
      · exact hr.present hp he
      · exact hm (List.mem_singleton.mp he).symm
    · rcases List.mem_append.mp hin with hin | hin
      · exact hr.headers h last hin
      · exact hh h last (List.mem_singleton.mp hin).symm
  · exact hr

theorem Wf.call {r : ResponseHandler} (hr : r.Wf) (c : Call) : (r.call c).Wf := by
  cases c with
  | headers endStream headers =>
      show (r.processHeaders endStream headers).Wf
      unfold processHeaders
      split
      · rename_i hne
        refine hr.send (by simp) fun h last he => ?_
        simp only [ResultOrEof.item.injEq, DataOrHeadersWithFlag.mk.injEq,
          DataOrHeaders.headers.injEq] at he
        rw [← he.1]
        exact fun hnil => hne (by rw [hnil]; rfl)
      · exact hr
  | dataChunk data last => exact hr.send (by simp) (by simp)
  | rst errorCode => exact hr.send (by simp) (by simp)
  | closedRemote =>
      show r.closedRemote.Wf
      unfold closedRemote
      split
      · rename_i hp
        refine ⟨fun h => (nomatch h), fun _ => ⟨r.sent, rfl, hr.present hp⟩, fun h last hin => ?_⟩
        rcases List.mem_append.mp hin with hin | hin
        · exact hr.headers h last hin
        · simp at hin
      · exact hr

theorem wf_run (calls : List Call) : ∀ r : ResponseHandler, r.Wf → (calls.foldl call r).Wf := by
  induction calls with
  | nil => exact fun _ hr => hr
  | cons c calls ih => exact fun r hr => ih _ (hr.call c)

end ResponseHandler

/-- Whatever the reader calls on a stream, in any order, from the handler `process_start` gives
    it: the response receiver gets `Eof` at most once and as its last message, and never an
    empty header list. -/
theorem response_eof_at_most_once_last (calls : List ResponseHandler.Call) :
    (calls.foldl ResponseHandler.call ⟨true, []⟩).sent.count .eof ≤ 1 ∧
      (ResultOrEof.eof ∈ (calls.foldl ResponseHandler.call ⟨true, []⟩).sent →
        (calls.foldl ResponseHandler.call ⟨true, []⟩).sent.getLast? = some .eof) ∧
      ∀ h last, ResultOrEof.item ⟨.headers h, last⟩ ∈ (calls.foldl ResponseHandler.call ⟨true, []⟩).sent →
        h.fields ≠ [] := by
  have hr := ResponseHandler.wf_run calls ⟨true, []⟩
    ⟨fun _ h => (nomatch h), fun h => (nomatch h), fun _ _ h => (nomatch h)⟩
  refine ⟨?_, ?_, hr.headers⟩
  · cases hp : (calls.foldl ResponseHandler.call ⟨true, []⟩).present
    · obtain ⟨pre, hs, hpre⟩ := hr.taken hp
      rw [hs, List.count_append, List.count_eq_zero_of_not_mem hpre]
      simp
    · exact (List.count_eq_zero_of_not_mem (hr.present hp)).le.trans (Nat.zero_le 1)
  · intro he
    cases hp : (calls.foldl ResponseHandler.call ⟨true, []⟩).present
    · obtain ⟨pre, hs, -⟩ := hr.taken hp
      rw [hs, List.getLast?_append]
      simp
    · exact absurd he (hr.present hp)

end Httpbis.ClientConn

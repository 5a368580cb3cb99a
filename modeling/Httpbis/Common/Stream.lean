import Httpbis.Solicit.Frame.RstStream

/-! # Streams

The per-stream record the writer drains: `common/stream.rs` is not among the sources, so the
stream, its outgoing queue and `pop_outg` are modelled from the spec. A stream holds an
ordered queue of parts pending emission, an optional terminal error code marking it closed
from the local side, and its outbound window; a stream is writable when it has queued output
and a positive window. Parts leave the queue in enqueue order, the terminal code after them.
-/

namespace Httpbis.Common

open Httpbis.Solicit.Frame

/-- Modelled from the spec: `Headers`, a header list; the model never looks inside it. -/
structure Headers where
  fields : List (List UInt8 × List UInt8)
  deriving DecidableEq, Repr

/-- `EndStream`. -/
inductive EndStream where
  | yes
  | no
  deriving DecidableEq, Repr

/-- `EndStream::from(bool)`. -/
def EndStream.ofBool (b : Bool) : EndStream := if b then .yes else .no

/-- `DataOrHeaders`. -/
inductive DataOrHeaders where
  | headers (h : Headers)
  | data (d : List UInt8)
  deriving DecidableEq, Repr

/-- `DataOrHeadersWithFlag`. -/
structure DataOrHeadersWithFlag where
  content : DataOrHeaders
  last : Bool
  deriving DecidableEq, Repr

/-- `HttpStreamCommand`, the parts `pop_outg` hands to `write_part`. -/
inductive HttpStreamCommand where
  | data (d : List UInt8) (endStream : EndStream)
  | headers (h : Headers) (endStream : EndStream)
  | rst (errorCode : ErrorCode)
  deriving DecidableEq, Repr

/-- The bytes of data a command carries. -/
def HttpStreamCommand.dataLen : HttpStreamCommand → Nat
  | .data d _ => d.length
  | _ => 0

/-- The data bytes of a part: its data, or none for a header block. -/
def DataOrHeaders.dataBytes : DataOrHeaders → List UInt8
  | .data d => d
  | .headers _ => []

/-- The data bytes a command carries. -/
def HttpStreamCommand.dataBytes : HttpStreamCommand → List UInt8
  | .data d _ => d
  | _ => []

theorem HttpStreamCommand.length_dataBytes (command : HttpStreamCommand) :
    command.dataBytes.length = command.dataLen := by
  cases command <;> rfl

/-- `InMessageStage`. -/
inductive InMessageStage where
  | initial
  | afterInitialHeaders
  | afterTrailingHeaders
  deriving DecidableEq, Repr

/-- The order the reader moves a stream through the stages in. -/
def InMessageStage.rank : InMessageStage → Nat
  | .initial => 0
  | .afterInitialHeaders => 1
  | .afterTrailingHeaders => 2

/-- Modelled from the spec: `HttpStreamCommon`, the fields the modelled code reads; `peer_tx`
    is whether a handler is attached. -/
structure HttpStreamCommon where
  outgoing : List DataOrHeaders
  outgoingEnd : Option ErrorCode
  closedLocal : Bool
  closedRemote : Bool
  outWindowSize : Int
  inMessageStage : InMessageStage
  inRemContentLength : Option Nat
  peerTx : Bool
  deriving DecidableEq, Repr

namespace HttpStreamCommon

/-- Modelled from the spec: a new open stream with the peer's initial window. -/
def new (outWindowSize : Int) (inMessageStage : InMessageStage) : HttpStreamCommon :=
  ⟨[], none, false, false, outWindowSize, inMessageStage, none, false⟩

/-- Modelled from the spec: `push_back`. -/
def pushBack (s : HttpStreamCommon) (part : DataOrHeaders) : HttpStreamCommon :=
  { s with outgoing := s.outgoing ++ [part] }

/-- Modelled from the spec: `close_outgoing`, the terminal code after the queued parts. -/
def closeOutgoing (s : HttpStreamCommon) (errorCode : ErrorCode) : HttpStreamCommon :=
  { s with outgoingEnd := some errorCode }

/-- Modelled from the spec: `push_back_part`; a last part also ends the stream. -/
def pushBackPart (s : HttpStreamCommon) (part : DataOrHeadersWithFlag) : HttpStreamCommon :=
  let s := s.pushBack part.content
  if part.last then s.closeOutgoing .noError else s

/-- The stream still has output for the writer: a part, or a terminal code not yet sent. -/
def hasQueuedOutput (s : HttpStreamCommon) : Bool :=
  !s.outgoing.isEmpty || (s.outgoingEnd.isSome && !s.closedLocal)

/-- Modelled from the spec: `is_writable`, queued output and a nonzero window. -/
def isWritable (s : HttpStreamCommon) : Bool := s.hasQueuedOutput && decide (s.outWindowSize ≠ 0)

/-- The next part the stream will hand out is a header block. -/
def frontIsHeaders (s : HttpStreamCommon) : Bool :=
  match s.outgoing with
  | .headers _ :: _ => true
  | _ => false

/-- Modelled from the spec: `is_closed`, both directions ended. -/
def isClosed (s : HttpStreamCommon) : Bool := s.closedLocal && s.closedRemote

/-- The data bytes still queued on the stream, in order. -/
def pendingData (s : HttpStreamCommon) : List UInt8 := (s.outgoing.map DataOrHeaders.dataBytes).flatten

/-- What the stream still has to hand out: its parts, their data bytes, and a terminal code not
    yet sent. Every part `pop_outg` hands out lowers it. -/
def work (s : HttpStreamCommon) : Nat :=
  s.outgoing.length + s.pendingData.length + if s.outgoingEnd.isSome && !s.closedLocal then 1 else 0

theorem work_pushBack (s : HttpStreamCommon) (part : DataOrHeaders) :
    (s.pushBack part).work = s.work + 1 + part.dataBytes.length := by
  simp only [work, pushBack, pendingData, List.map_append, List.flatten_append, List.length_append,
    List.map_singleton, List.flatten_singleton, List.length_singleton]
  omega

theorem work_closeOutgoing_le (s : HttpStreamCommon) (errorCode : ErrorCode) :
    (s.closeOutgoing errorCode).work ≤ s.work + 1 := by
  simp only [work, closeOutgoing, pendingData]
  split <;> omega

theorem work_pushBackPart_le (s : HttpStreamCommon) (part : DataOrHeadersWithFlag) :
    (s.pushBackPart part).work ≤ s.work + part.content.dataBytes.length + 2 := by
  have := work_pushBack s part.content
  unfold pushBackPart
  dsimp only
  split
  · have := work_closeOutgoing_le (s.pushBack part.content) .noError
    omega
  · omega

/-- The flag of the part that empties the queue of a stream ended with `NoError`. -/
def lastFlag (s : HttpStreamCommon) (rest : List DataOrHeaders) : Bool :=
  s.outgoingEnd == some .noError && rest.isEmpty

/-- Modelled from the spec: `pop_outg`. Headers leave whole; data leaves as far as the stream
    and connection windows allow, the rest staying at the front; with the queue empty, the
    terminal code leaves as an empty END_STREAM data part or as RST_STREAM. -/
def popOutg (s : HttpStreamCommon) (connWindow : Int) :
    Option (HttpStreamCommand × HttpStreamCommon × Int) :=
  match s.outgoing with
  | [] =>
      match s.outgoingEnd with
      | none => none
      | some code =>
          if s.closedLocal then none
          else if code = .noError then
            some (.data [] .yes, { s with closedLocal := true }, connWindow)
          else some (.rst code, { s with closedLocal := true, closedRemote := true }, connWindow)
  | .headers h :: rest =>
      some (.headers h (.ofBool (s.lastFlag rest)),
        { s with outgoing := rest, closedLocal := s.closedLocal || s.lastFlag rest }, connWindow)
  | .data d :: rest =>
      if s.outWindowSize ≤ 0 ∨ connWindow ≤ 0 then none
      else
        let n := min d.length (min s.outWindowSize connWindow).toNat
        let rest := if n < d.length then .data (d.drop n) :: rest else rest
        some (.data (d.take n) (.ofBool (s.lastFlag rest)),
          { s with outgoing := rest, outWindowSize := s.outWindowSize - n,
                   closedLocal := s.closedLocal || s.lastFlag rest }, connWindow - n)

@[simp] theorem pushBack_frontIsHeaders (s : HttpStreamCommon) (part : DataOrHeaders)
    (h : s.frontIsHeaders = true) : (s.pushBack part).frontIsHeaders = true := by
  unfold frontIsHeaders at h ⊢
  split at h
  · rename_i hout
    simp only [pushBack, hout, List.cons_append]
  · cases h

theorem hasQueuedOutput_of_frontIsHeaders {s : HttpStreamCommon} (h : s.frontIsHeaders = true) :
    s.hasQueuedOutput = true := by
  unfold frontIsHeaders at h
  split at h
  · rename_i hout
    simp [hasQueuedOutput, hout]
  · cases h

/-- A header block at the front always leaves, whatever the windows. -/
theorem popOutg_of_frontIsHeaders {s : HttpStreamCommon} (h : s.frontIsHeaders = true)
    (connWindow : Int) :
    ∃ hs es s', s.popOutg connWindow = some (.headers hs es, s', connWindow) := by
  unfold frontIsHeaders at h
  unfold popOutg
  split at h
  · rename_i hs rest hout
    exact ⟨hs, _, _, by simp only [hout]; rfl⟩
  · cases h

theorem popOutg_outWindowSize {s s' : HttpStreamCommon} {connWindow connWindow' : Int}
    {command : HttpStreamCommand} (h : s.popOutg connWindow = some (command, s', connWindow')) :
    s'.outWindowSize = s.outWindowSize - command.dataLen := by
  unfold popOutg at h
  split at h
  · split at h
    · cases h
    · split at h
      · cases h
      · split at h <;> (cases h; simp [HttpStreamCommand.dataLen])
  · cases h; simp [HttpStreamCommand.dataLen]
  · split at h
    · cases h
    · cases h
      simp only [HttpStreamCommand.dataLen, List.length_take]
      omega

/-- The stream after the user queued more for it or ended it: the same windows and local state,
    the part in front still in front, a terminal code still there. -/
structure Extends (s s' : HttpStreamCommon) : Prop where
  window : s'.outWindowSize = s.outWindowSize
  closedLocal : s'.closedLocal = s.closedLocal
  front : ∀ p rest, s.outgoing = p :: rest → ∃ rest', s'.outgoing = p :: rest'
  ended : s.outgoingEnd.isSome = true → s'.outgoingEnd.isSome = true

theorem Extends.refl (s : HttpStreamCommon) : s.Extends s :=
  ⟨rfl, rfl, fun _ rest h => ⟨rest, h⟩, id⟩

theorem Extends.trans {s s' s'' : HttpStreamCommon} (h : s.Extends s') (h' : s'.Extends s'') :
    s.Extends s'' :=
  ⟨h'.window.trans h.window, h'.closedLocal.trans h.closedLocal,
    fun p rest hs => let ⟨_, hs'⟩ := h.front p rest hs; h'.front p _ hs', h'.ended ∘ h.ended⟩

theorem extends_pushBack (s : HttpStreamCommon) (part : DataOrHeaders) : s.Extends (s.pushBack part) :=
  ⟨rfl, rfl, fun p rest h => ⟨rest ++ [part], by simp [pushBack, h]⟩, id⟩

theorem extends_closeOutgoing (s : HttpStreamCommon) (errorCode : ErrorCode) :
    s.Extends (s.closeOutgoing errorCode) :=
  ⟨rfl, rfl, fun _ rest h => ⟨rest, h⟩, fun _ => rfl⟩

theorem extends_pushBackPart (s : HttpStreamCommon) (part : DataOrHeadersWithFlag) :
    s.Extends (s.pushBackPart part) := by
  unfold pushBackPart
  split
  · exact (extends_pushBack s _).trans (extends_closeOutgoing _ _)
  · exact extends_pushBack s _

theorem Extends.frontIsHeaders {s s' : HttpStreamCommon} (h : s.Extends s')
    (hf : s.frontIsHeaders = true) : s'.frontIsHeaders = true := by
  unfold HttpStreamCommon.frontIsHeaders at hf ⊢
  split at hf
  · obtain ⟨rest', h'⟩ := h.front _ _ ‹_›
    rw [h']
  · cases hf

/-- Data at the front that no window lets out. -/
def Blocked (s : HttpStreamCommon) (connWindow : Int) : Prop :=
  (∃ d rest, s.outgoing = .data d :: rest) ∧ (s.outWindowSize ≤ 0 ∨ connWindow ≤ 0)

theorem Extends.blocked {s s' : HttpStreamCommon} (h : s.Extends s') {connWindow : Int}
    (hb : s.Blocked connWindow) : s'.Blocked connWindow := by
  obtain ⟨⟨d, rest, hout⟩, hw⟩ := hb
  obtain ⟨rest', h'⟩ := h.front _ _ hout
  exact ⟨⟨d, rest', h'⟩, h.window ▸ hw⟩

theorem popOutg_of_blocked {s : HttpStreamCommon} {connWindow : Int} (h : s.Blocked connWindow) :
    s.popOutg connWindow = none := by
  obtain ⟨⟨d, rest, hout⟩, hw⟩ := h
  simp [popOutg, hout, hw]

/-- A stream with output that hands out nothing is blocked. -/
theorem blocked_of_popOutg_eq_none {s : HttpStreamCommon} {connWindow : Int}
    (h : s.popOutg connWindow = none) (hq : s.hasQueuedOutput = true) : s.Blocked connWindow := by
  unfold popOutg at h
  unfold hasQueuedOutput at hq
  split at h
  · rename_i hout
    split at h
    · simp_all
    · split_ifs at h; simp_all
  · cases h
  · rename_i d rest hout
    split_ifs at h with hw
    exact ⟨⟨d, rest, hout⟩, hw⟩

theorem popOutg_connWindow_le {s s' : HttpStreamCommon} {connWindow connWindow' : Int}
    {command : HttpStreamCommand} (h : s.popOutg connWindow = some (command, s', connWindow')) :
    connWindow' ≤ connWindow := by
  unfold popOutg at h
  split at h
  · split at h
    · cases h
    · split_ifs at h <;> (simp only [Option.some.injEq, Prod.mk.injEq] at h; omega)
  · simp only [Option.some.injEq, Prod.mk.injEq] at h; omega
  · split_ifs at h
    simp only [Option.some.injEq, Prod.mk.injEq] at h
    omega

/-- What leaves is paid from both windows: each loses exactly the data popped, and data leaves
    only while both are positive, never more than either holds. -/
theorem popOutg_windows {s s' : HttpStreamCommon} {connWindow connWindow' : Int}
    {command : HttpStreamCommand} (h : s.popOutg connWindow = some (command, s', connWindow')) :
    s'.outWindowSize = s.outWindowSize - command.dataLen ∧ connWindow' = connWindow - command.dataLen ∧
      (command.dataLen = 0 ∨ (command.dataLen ≤ s.outWindowSize ∧ command.dataLen ≤ connWindow)) := by
  have hnone : ∀ {w : Int}, w = w - (0 : Nat) := (Int.sub_zero _).symm
  unfold popOutg at h
  split at h
  · split at h
    · cases h
    · split_ifs at h <;> (cases h; exact ⟨hnone, hnone, .inl rfl⟩)
  · cases h; exact ⟨hnone, hnone, .inl rfl⟩
  · split_ifs at h
    cases h
    simp only [HttpStreamCommand.dataLen, List.length_take]
    omega

/-- The connection window loses exactly the data that leaves, and one that was not negative
    stays so. -/
theorem popOutg_connWindow {s s' : HttpStreamCommon} {connWindow connWindow' : Int}
    {command : HttpStreamCommand} (h : s.popOutg connWindow = some (command, s', connWindow')) :
    connWindow' = connWindow - command.dataLen ∧ (0 ≤ connWindow → 0 ≤ connWindow') := by
  obtain ⟨-, hc, hd⟩ := popOutg_windows h
  exact ⟨hc, fun _ => by omega⟩

/-- A stream window that was not negative stays so. -/
theorem popOutg_outWindowSize_nonneg {s s' : HttpStreamCommon} {connWindow connWindow' : Int}
    {command : HttpStreamCommand} (h : s.popOutg connWindow = some (command, s', connWindow'))
    (hw : 0 ≤ s.outWindowSize) : 0 ≤ s'.outWindowSize := by
  obtain ⟨hs, -, hd⟩ := popOutg_windows h
  omega

/-- What leaves is the front of the stream's data: the data of the part popped followed by the
    data still queued is the data queued before. -/
theorem popOutg_pendingData {s s' : HttpStreamCommon} {connWindow connWindow' : Int}
    {command : HttpStreamCommand} (h : s.popOutg connWindow = some (command, s', connWindow')) :
    command.dataBytes ++ s'.pendingData = s.pendingData := by
  unfold popOutg at h
  split at h
  · rename_i hout
    split at h
    · cases h
    · split_ifs at h <;> (cases h; simp [pendingData, hout, HttpStreamCommand.dataBytes])
  · rename_i hout
    cases h
    simp [pendingData, hout, HttpStreamCommand.dataBytes, DataOrHeaders.dataBytes]
  · rename_i d rest hout
    split_ifs at h with hw
    cases h
    simp only [pendingData, hout, HttpStreamCommand.dataBytes, List.map_cons, List.flatten_cons,
      DataOrHeaders.dataBytes]
    split
    · rw [List.map_cons, List.flatten_cons, DataOrHeaders.dataBytes, ← List.append_assoc,
        List.take_append_drop]
    · rw [List.take_of_length_le (by omega)]

theorem popOutg_work {s s' : HttpStreamCommon} {connWindow connWindow' : Int}
    {command : HttpStreamCommand} (h : s.popOutg connWindow = some (command, s', connWindow')) :
    s'.work < s.work := by
  have hdata := congrArg List.length (popOutg_pendingData h)
  rw [List.length_append] at hdata
  have hend : ∀ b, (if s.outgoingEnd.isSome && !(s.closedLocal || b) then 1 else 0) ≤
      (if s.outgoingEnd.isSome && !s.closedLocal then 1 else 0) := by
    intro b; cases s.outgoingEnd.isSome <;> cases s.closedLocal <;> cases b <;> decide
  unfold popOutg at h
  split at h
  · rename_i hout
    split at h
    · cases h
    · rename_i code hcode
      split_ifs at h with hclosed <;> (cases h; simp [work, pendingData, hout, hcode, hclosed])
  · rename_i hs rest hout
    cases h
    have := hend (s.lastFlag rest)
    simp only [work, hout, List.length_cons, HttpStreamCommand.dataBytes, List.length_nil] at hdata this ⊢
    omega
  · rename_i d rest hout
    split_ifs at h with hw
    cases h
    have hn : 0 < (min s.outWindowSize connWindow).toNat := by omega
    by_cases hlt : min d.length (min s.outWindowSize connWindow).toNat < d.length
    · have := hend (s.lastFlag (.data (d.drop (min d.length (min s.outWindowSize connWindow).toNat)) :: rest))
      simp only [hlt, if_true, work, hout, List.length_cons, HttpStreamCommand.dataBytes,
        List.length_take] at hdata this ⊢
      omega
    · have := hend (s.lastFlag rest)
      simp only [hlt, if_false, work, hout, List.length_cons, HttpStreamCommand.dataBytes,
        List.length_take] at hdata this ⊢
      omega

/-- An empty data part that does not end the stream leaves the terminal code as it was. -/
theorem popOutg_silent {s s' : HttpStreamCommon} {connWindow connWindow' : Int}
    (h : s.popOutg connWindow = some (.data [] .no, s', connWindow')) :
    s'.outgoingEnd = s.outgoingEnd ∧ s'.closedLocal = s.closedLocal := by
  unfold popOutg at h
  split at h
  · split at h
    · cases h
    · split_ifs at h <;> simp at h
  · simp at h
  · split_ifs at h
    simp only [Option.some.injEq, Prod.mk.injEq, HttpStreamCommand.data.injEq] at h
    obtain ⟨⟨-, hes⟩, rfl, -⟩ := h
    refine ⟨rfl, ?_⟩
    generalize s.lastFlag _ = b at hes ⊢
    cases b <;> simp_all [EndStream.ofBool]

/-- A header block at the front is what leaves. -/
theorem popOutg_of_frontIsHeaders_eq {s s' : HttpStreamCommon} {connWindow connWindow' : Int}
    {command : HttpStreamCommand} (hf : s.frontIsHeaders = true)
    (h : s.popOutg connWindow = some (command, s', connWindow')) : ∃ hs es, command = .headers hs es := by
  obtain ⟨hs, es, s'', h'⟩ := popOutg_of_frontIsHeaders hf connWindow
  rw [h'] at h
  obtain ⟨rfl, -⟩ := Prod.mk.inj (Option.some.inj h)
  exact ⟨hs, es, rfl⟩

end HttpStreamCommon

end Httpbis.Common

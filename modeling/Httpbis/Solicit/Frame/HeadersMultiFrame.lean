import Httpbis.Solicit.Frame.Headers

/-! # HEADERS and CONTINUATION fragmentation

`HeadersMultiFrame::serialize_into` of `solicit/frame/headers.rs` and the sink
`EncodeBufForHeadersMultiFrame` it lends to the HPACK encoder. The sink opens a frame with a
placeholder header, copies payload until the frame holds `max_frame_size` bytes, then
back-patches the header and opens a CONTINUATION frame.

The HPACK encoder is not among the sources. Its only effect on the sink is the sequence of
`write_all` and `reserve` calls it makes, and the theorems quantify over that sequence. The
`loop` of `write_all` runs on fuel: `none` is a panic or a loop that has not finished.

`serializeInto_bytes` says the buffer gains exactly the frames of `referenceSplit`. It is a
simulation: `Holds` relates the sink to the list of closed chunks and the open one.
-/

namespace Httpbis.Solicit.Frame

open Httpbis.Codec

/-- Modelled from the spec: the CONTINUATION type code of RFC 7540. -/
def CONTINUATION_FRAME_TYPE : UInt8 := 0x9

/-- Modelled from the spec: `ContinuationFlag::EndHeaders`. -/
def CONTINUATION_END_HEADERS : UInt8 := 0x4

/-- `HeadersFrameType`. -/
inductive HeadersFrameType where
  | headers
  | continuation
  deriving DecidableEq, Repr

namespace HeadersFrameType

/-- `frame_type`, as the type byte. -/
def frameType : HeadersFrameType → UInt8
  | .headers => HEADERS_FRAME_TYPE
  | .continuation => CONTINUATION_FRAME_TYPE

/-- `make_flags`: HEADERS or CONTINUATION flags from the HEADERS flags. Its `assert!` panics
    when END_HEADERS is already set. -/
def makeFlags (t : HeadersFrameType) (headerFlags : UInt8) (last : Bool) : Option UInt8 :=
  if isSet headerFlags HeadersFlag.endHeaders.bitmask then none
  else some <| match t with
    | .headers => if last then withFlag headerFlags HeadersFlag.endHeaders.bitmask else headerFlags
    | .continuation => if last then CONTINUATION_END_HEADERS else 0

end HeadersFrameType

/-- `EncodeBufForHeadersMultiFrame`; `builder` is the tail vector of the target buffer. -/
structure EncodeBufForHeadersMultiFrame where
  currentFrameType : HeadersFrameType
  currentFrameOffset : Nat
  streamId : Nat
  flags : UInt8
  builder : WriteBuffer
  maxFrameSize : Nat

namespace EncodeBufForHeadersMultiFrame

/-- `open_frame`: remember the offset and write an empty header, patched later. -/
def openFrame (s : EncodeBufForHeadersMultiFrame) : EncodeBufForHeadersMultiFrame :=
  { s with currentFrameOffset := s.builder.remaining
           builder := s.builder.extendFromSlice (packHeader ⟨0, 0, 0, 0⟩) }

/-- `finish_frame`: patch the header of the open frame. The `usize` subtraction, the
    `as u32` cast and the `debug_assert!` are kept. -/
def finishFrame (s : EncodeBufForHeadersMultiFrame) (last : Bool) :
    Option EncodeBufForHeadersMultiFrame :=
  if s.builder.remaining < s.currentFrameOffset then none
  else
    let frameLength := (s.builder.remaining - s.currentFrameOffset) % 2 ^ 32
    if frameLength < FRAME_HEADER_LEN then none
    else do
      let flags ← s.currentFrameType.makeFlags s.flags last
      let builder ← s.builder.patchBuf s.currentFrameOffset
        (packHeader ⟨frameLength - FRAME_HEADER_LEN, s.currentFrameType.frameType, flags,
          s.streamId⟩)
      pure { s with builder := builder }

/-- `rem_in_current_frame`: how much payload the open frame can still take. -/
def remInCurrentFrame (s : EncodeBufForHeadersMultiFrame) : Option Nat :=
  if s.builder.remaining < s.currentFrameOffset then none
  else
    let currentFrameLen := s.builder.remaining - s.currentFrameOffset
    if currentFrameLen < FRAME_HEADER_LEN then none
    else
      let currentFramePayloadLen := currentFrameLen - FRAME_HEADER_LEN
      if s.maxFrameSize < currentFramePayloadLen then none
      else some (s.maxFrameSize - currentFramePayloadLen)

/-- The `loop` of `EncodeBuf::write_all`, one iteration per unit of fuel. -/
def writeAllLoop : Nat → EncodeBufForHeadersMultiFrame → List UInt8 →
    Option EncodeBufForHeadersMultiFrame
  | 0, _, _ => none
  | fuel + 1, s, bytes => do
      let rem ← s.remInCurrentFrame
      let copyHere := min bytes.length rem
      let s := { s with builder := s.builder.extendFromSlice (bytes.take copyHere) }
      let bytes := bytes.drop copyHere
      if bytes.isEmpty then pure s
      else
        let s ← s.finishFrame false
        writeAllLoop fuel { s.openFrame with currentFrameType := .continuation } bytes

/-- `EncodeBuf::reserve`. -/
def reserve (s : EncodeBufForHeadersMultiFrame) (additional : Nat) :
    EncodeBufForHeadersMultiFrame :=
  { s with builder := s.builder.reserve additional }

end EncodeBufForHeadersMultiFrame

/-- A call the HPACK encoder makes on its `EncodeBuf` sink. -/
inductive EncodeBufCall where
  | writeAll (bytes : List UInt8)
  | reserve (additional : Nat)
  deriving DecidableEq, Repr

/-- The sink after a sequence of calls; `fuel` bounds each `write_all` loop. -/
def runCalls (fuel : Nat) :
    EncodeBufForHeadersMultiFrame → List EncodeBufCall → Option EncodeBufForHeadersMultiFrame
  | s, [] => some s
  | s, .writeAll bytes :: calls =>
      (EncodeBufForHeadersMultiFrame.writeAllLoop fuel s bytes).bind (runCalls fuel · calls)
  | s, .reserve n :: calls => runCalls fuel (s.reserve n) calls

/-- The byte strings passed to `write_all`, in order. -/
def writtenBytes : List EncodeBufCall → List (List UInt8)
  | [] => []
  | .writeAll bytes :: calls => bytes :: writtenBytes calls
  | .reserve _ :: calls => writtenBytes calls

/-- `HeadersMultiFrame`. The header list and the encoder enter only through the calls the
    encoder makes on the sink; `stream_dep` and `padding_len` are not read. -/
structure HeadersMultiFrame where
  flags : UInt8
  streamId : Nat
  encoderCalls : List EncodeBufCall
  maxFrameSize : Nat

/-- `HeadersMultiFrame::serialize_into`. -/
def HeadersMultiFrame.serializeInto (f : HeadersMultiFrame) (fuel : Nat) (builder : WriteBuffer) :
    Option WriteBuffer :=
  if isSet f.flags HeadersFlag.endHeaders.bitmask then none
  else do
    let buf : EncodeBufForHeadersMultiFrame :=
      ⟨.headers, builder.remaining, f.streamId, f.flags, builder, f.maxFrameSize⟩
    let buf ← runCalls fuel buf.openFrame f.encoderCalls
    let buf ← buf.finishFrame true
    pure buf.builder

/-! ## The reference split -/

/-- `B` cut into chunks of `size` bytes and a last chunk of `1 .. size` bytes; one empty
    chunk when `B` is empty. -/
def referenceSplit (size : Nat) (B : List UInt8) : List (List UInt8) :=
  if B.length ≤ size ∨ size = 0 then [B] else B.take size :: referenceSplit size (B.drop size)
termination_by B.length
decreasing_by simp_wf; omega

/-- One frame of the split: a header with the chunk's length, HEADERS with the given flags
    for the first chunk and CONTINUATION after it, END_HEADERS on the last frame only. -/
def splitFrame (streamId : Nat) (flags : UInt8) (first last : Bool) (chunk : List UInt8) :
    List UInt8 :=
  packHeader ⟨chunk.length, if first then HEADERS_FRAME_TYPE else CONTINUATION_FRAME_TYPE,
    if first then (if last then withFlag flags HeadersFlag.endHeaders.bitmask else flags)
    else (if last then CONTINUATION_END_HEADERS else 0), streamId⟩ ++ chunk

/-- The frames of a split, the first one HEADERS. -/
def referenceFrames (streamId : Nat) (flags : UInt8) : Bool → List (List UInt8) → List UInt8
  | _, [] => []
  | first, [c] => splitFrame streamId flags first true c
  | first, c :: d :: cs =>
      splitFrame streamId flags first false c ++ referenceFrames streamId flags false (d :: cs)

/-- The frames of chunks that are already closed: none of them is the last. -/
def closedFrames (streamId : Nat) (flags : UInt8) : Bool → List (List UInt8) → List UInt8
  | _, [] => []
  | first, c :: cs => splitFrame streamId flags first false c ++ closedFrames streamId flags false cs

theorem closedFrames_append (sid : Nat) (flags : UInt8) (first : Bool) (cs : List (List UInt8))
    (c : List UInt8) :
    closedFrames sid flags first (cs ++ [c]) =
      closedFrames sid flags first cs ++ splitFrame sid flags (first && cs.isEmpty) false c := by
  induction cs generalizing first with
  | nil => simp [closedFrames]
  | cons d cs ih => simp [closedFrames, ih]

theorem referenceFrames_append (sid : Nat) (flags : UInt8) (first : Bool)
    (cs : List (List UInt8)) (c : List UInt8) :
    referenceFrames sid flags first (cs ++ [c]) =
      closedFrames sid flags first cs ++ splitFrame sid flags (first && cs.isEmpty) true c := by
  induction cs generalizing first with
  | nil => simp [referenceFrames, closedFrames]
  | cons d cs ih =>
      cases cs with
      | nil => simp [referenceFrames, closedFrames]
      | cons e cs => simpa [referenceFrames, closedFrames] using ih false

/-- Full closed chunks followed by a nonempty open one are the reference split of their
    concatenation. -/
theorem referenceSplit_eq {size : Nat} (hsize : 0 < size) :
    ∀ (closed : List (List UInt8)) (cur : List UInt8), (∀ c ∈ closed, c.length = size) →
      cur.length ≤ size → (closed ≠ [] → cur ≠ []) →
      referenceSplit size (closed.flatten ++ cur) = closed ++ [cur]
  | [], cur, _, hcur, _ => by rw [referenceSplit]; simp [hcur]
  | c :: cs, cur, hfull, hcur, hne => by
      have hc := hfull c (List.mem_cons_self c cs)
      have hrest : 0 < (cs.flatten ++ cur).length := by
        cases cs with
        | nil => simpa [List.length_pos] using hne (List.cons_ne_nil c [])
        | cons d ds =>
            have hd := hfull d (by simp)
            simp [hd]; omega
      have hlen : ((c :: cs).flatten ++ cur).length = c.length + (cs.flatten ++ cur).length := by
        simp [Nat.add_assoc]
      rw [referenceSplit, if_neg (by omega)]
      simp only [List.flatten_cons, List.append_assoc, List.take_left' hc, List.drop_left' hc,
        List.cons_append]
      rw [referenceSplit_eq hsize cs cur (fun d hd => hfull d (List.mem_cons_of_mem c hd)) hcur
        (fun _ => by simpa using hne (List.cons_ne_nil c cs))]

/-! ## Simulation of the sink -/

theorem makeFlags_eq (t : HeadersFrameType) {fl : UInt8} (last : Bool)
    (hfl : ¬ isSet fl HeadersFlag.endHeaders.bitmask) :
    t.makeFlags fl last = some (match t with
      | .headers => if last then withFlag fl HeadersFlag.endHeaders.bitmask else fl
      | .continuation => if last then CONTINUATION_END_HEADERS else 0) := by
  simp [HeadersFrameType.makeFlags, hfl]

namespace EncodeBufForHeadersMultiFrame

/-- The sink, started on a buffer holding `pre`, has closed the full chunks `closed` and
    holds `cur` in its open frame, for the stream `sid`, flags `fl` and frame size `max`. -/
structure Holds (pre : List UInt8) (sid : Nat) (fl : UInt8) (max : Nat)
    (s : EncodeBufForHeadersMultiFrame) (closed : List (List UInt8)) (cur : List UInt8) :
    Prop where
  streamId : s.streamId = sid
  flags : s.flags = fl
  maxFrameSize : s.maxFrameSize = max
  bytes : s.builder.bytes = pre ++ closedFrames sid fl true closed ++ packHeader ⟨0, 0, 0, 0⟩ ++ cur
  offset : s.currentFrameOffset = pre.length + (closedFrames sid fl true closed).length
  frameType : s.currentFrameType = if closed = [] then .headers else .continuation
  full : ∀ c ∈ closed, c.length = max
  cur_le : cur.length ≤ max

variable {pre : List UInt8} {sid : Nat} {fl : UInt8} {max : Nat}
  {s : EncodeBufForHeadersMultiFrame} {closed : List (List UInt8)} {cur : List UInt8}

theorem Holds.remaining (h : Holds pre sid fl max s closed cur) :
    s.builder.remaining = s.currentFrameOffset + 9 + cur.length := by
  rw [WriteBuffer.remaining_eq, h.bytes, h.offset]
  simp [Nat.add_assoc]

theorem Holds.remInCurrentFrame (h : Holds pre sid fl max s closed cur) :
    s.remInCurrentFrame = some (max - cur.length) := by
  have hr := h.remaining
  have hc := h.cur_le
  simp only [EncodeBufForHeadersMultiFrame.remInCurrentFrame, FRAME_HEADER_LEN, hr,
    h.maxFrameSize]
  rw [if_neg (by omega), if_neg (by omega), if_neg (by omega)]
  congr 1
  omega

theorem Holds.extend (h : Holds pre sid fl max s closed cur) (d : List UInt8)
    (hd : cur.length + d.length ≤ max) :
    Holds pre sid fl max { s with builder := s.builder.extendFromSlice d } closed (cur ++ d) :=
  { h with
    bytes := by simp [h.bytes]
    cur_le := by simpa using hd }

theorem Holds.reserve (h : Holds pre sid fl max s closed cur) (n : Nat) :
    Holds pre sid fl max (s.reserve n) closed cur :=
  { h with bytes := by simp [EncodeBufForHeadersMultiFrame.reserve, h.bytes] }

/-- Finishing the open frame patches in the header of its chunk. -/
theorem Holds.finishFrame (h : Holds pre sid fl max s closed cur) (last : Bool)
    (hfl : ¬ isSet fl HeadersFlag.endHeaders.bitmask) (hsmall : max + 9 < 2 ^ 32) :
    ∃ b, s.finishFrame last = some { s with builder := b } ∧
      b.bytes = pre ++ closedFrames sid fl true closed ++
        splitFrame sid fl closed.isEmpty last cur := by
  have hr := h.remaining
  have hc := h.cur_le
  have hlen : (s.builder.remaining - s.currentFrameOffset) % 2 ^ 32 = 9 + cur.length := by
    rw [Nat.mod_eq_of_lt (by omega)]; omega
  let header : FrameHeader := ⟨cur.length, s.currentFrameType.frameType,
    (if closed.isEmpty then (if last then withFlag fl HeadersFlag.endHeaders.bitmask else fl)
      else (if last then CONTINUATION_END_HEADERS else 0)), sid⟩
  obtain ⟨b, hb, hbytes⟩ := s.builder.patchBuf_spec s.currentFrameOffset (packHeader header)
    (by simp; omega)
  refine ⟨b, ?_, ?_⟩
  · have hflags : s.currentFrameType.makeFlags s.flags last = some header.flags := by
      rw [h.flags, makeFlags_eq _ last hfl, h.frameType]
      cases closed <;> rfl
    simp only [EncodeBufForHeadersMultiFrame.finishFrame, hlen, FRAME_HEADER_LEN]
    rw [if_neg (by omega), if_neg (by omega), hflags, Option.bind_eq_bind, Option.some_bind,
      Nat.add_sub_cancel_left, h.streamId, hb]
    rfl
  · have hmid := WriteBuffer.patch_middle (pre ++ closedFrames sid fl true closed)
      (packHeader ⟨0, 0, 0, 0⟩) cur (packHeader header) (by simp)
    rw [hbytes, h.bytes, h.offset, ← List.length_append, hmid, splitFrame, List.append_assoc]
    congr 3
    simp only [header, h.frameType]
    cases closed <;> rfl

/-- After a full frame is closed, the next CONTINUATION frame is open and empty. -/
theorem Holds.next (h : Holds pre sid fl max s closed cur) (hfull : cur.length = max)
    {b : WriteBuffer} (hb : b.bytes = pre ++ closedFrames sid fl true closed ++
      splitFrame sid fl closed.isEmpty false cur) :
    Holds pre sid fl max { ({ s with builder := b } : EncodeBufForHeadersMultiFrame).openFrame with
      currentFrameType := .continuation } (closed ++ [cur]) [] where
  streamId := h.streamId
  flags := h.flags
  maxFrameSize := h.maxFrameSize
  bytes := by simp [openFrame, hb, closedFrames_append]
  offset := by simp [openFrame, WriteBuffer.remaining_eq, hb, closedFrames_append]
  frameType := by simp
  full := by
    intro c hc
    rcases List.mem_append.mp hc with hc | hc
    · exact h.full c hc
    · simp only [List.mem_singleton] at hc; exact hc ▸ hfull
  cur_le := Nat.zero_le _

/-- One `write_all`: the bytes go to the open chunk, and whenever it is full and bytes remain
    it is closed and a CONTINUATION chunk is opened. One iteration beyond the byte count
    suffices, plus one when the open frame is already full. -/
theorem writeAllLoop_spec (hmax : 0 < max) (hsmall : max + 9 < 2 ^ 32)
    (hfl : ¬ isSet fl HeadersFlag.endHeaders.bitmask) :
    ∀ (fuel : Nat) (s : EncodeBufForHeadersMultiFrame) (closed : List (List UInt8))
      (cur bytes : List UInt8), Holds pre sid fl max s closed cur →
      bytes.length + (if cur.length < max then 0 else 1) < fuel →
      ∃ s' closed' cur', writeAllLoop fuel s bytes = some s' ∧
        Holds pre sid fl max s' closed' cur' ∧
        closed'.flatten ++ cur' = closed.flatten ++ cur ++ bytes ∧
        (cur' = [] → bytes = [] ∧ closed' = closed)
  | 0, _, _, _, _, _, hfuel => absurd hfuel (Nat.not_lt_zero _)
  | fuel + 1, s, closed, cur, bytes, h, hfuel => by
      have hc := h.cur_le
      have h1 := h.extend (bytes.take (min bytes.length (max - cur.length)))
        (by simp only [List.length_take]; omega)
      by_cases hrest : (bytes.drop (min bytes.length (max - cur.length))).isEmpty
      · refine ⟨_, closed, _, ?_, h1, ?_, ?_⟩
        · simp only [writeAllLoop, h.remInCurrentFrame, Option.bind_eq_bind, Option.some_bind]
          rw [if_pos hrest]
          rfl
        · rw [List.isEmpty_iff] at hrest
          conv_rhs => rw [← List.take_append_drop (min bytes.length (max - cur.length)) bytes,
            hrest]
          simp
        · intro hnil
          rw [List.isEmpty_iff] at hrest
          refine ⟨?_, rfl⟩
          rw [← List.take_append_drop (min bytes.length (max - cur.length)) bytes, hrest,
            (List.append_eq_nil.mp hnil).2]
          rfl
      · have hlt : max - cur.length < bytes.length := by
          by_contra hge
          exact hrest (List.isEmpty_iff.mpr (List.drop_eq_nil_of_le (by omega)))
        have hfull : (cur ++ bytes.take (min bytes.length (max - cur.length))).length = max := by
          simp only [List.length_append, List.length_take]; omega
        obtain ⟨b, hb, hbytes⟩ := h1.finishFrame false hfl hsmall
        have h2 := h1.next hfull hbytes
        obtain ⟨s', closed', cur', hrun, h', hjoin, hnil⟩ := writeAllLoop_spec hmax hsmall hfl
          fuel _ _ [] (bytes.drop (min bytes.length (max - cur.length))) h2 (by
            simp only [List.length_nil, hmax, ite_true, List.length_drop]
            split_ifs at hfuel <;> omega)
        refine ⟨s', closed', cur', ?_, h', ?_, ?_⟩
        · simp only [writeAllLoop, h.remInCurrentFrame, Option.bind_eq_bind, Option.some_bind]
          rw [if_neg hrest]
          simp only [Option.bind_eq_bind] at hb ⊢
          rw [hb, Option.some_bind]
          exact hrun
        · rw [hjoin]
          simp
        · intro hcur
          exact absurd (hnil hcur).1 fun h => hrest (List.isEmpty_iff.mpr h)

/-- A sequence of sink calls: `reserve` keeps the content, and `write_all` appends as above. -/
theorem runCalls_spec (hmax : 0 < max) (hsmall : max + 9 < 2 ^ 32)
    (hfl : ¬ isSet fl HeadersFlag.endHeaders.bitmask) (fuel : Nat) :
    ∀ (calls : List EncodeBufCall), (∀ b ∈ writtenBytes calls, b.length + 2 ≤ fuel) →
      ∀ (s : EncodeBufForHeadersMultiFrame) (closed : List (List UInt8)) (cur : List UInt8),
      Holds pre sid fl max s closed cur → (closed ≠ [] → cur ≠ []) →
      ∃ s' closed' cur', runCalls fuel s calls = some s' ∧ Holds pre sid fl max s' closed' cur' ∧
        closed'.flatten ++ cur' = closed.flatten ++ cur ++ (writtenBytes calls).flatten ∧
        (closed' ≠ [] → cur' ≠ [])
  | [], _, s, closed, cur, h, hb => ⟨s, closed, cur, rfl, h, by simp [writtenBytes], hb⟩
  | .reserve n :: calls, hfuel, s, closed, cur, h, hb => by
      exact runCalls_spec hmax hsmall hfl fuel calls hfuel _ _ _ (h.reserve n) hb
  | .writeAll bytes :: calls, hfuel, s, closed, cur, h, hb => by
      have hlen := hfuel bytes (by simp [writtenBytes])
      obtain ⟨s1, closed1, cur1, hrun1, h1, hjoin1, hnil1⟩ :=
        writeAllLoop_spec hmax hsmall hfl fuel s closed cur bytes h (by split_ifs <;> omega)
      have hb1 : closed1 ≠ [] → cur1 ≠ [] := by
        intro hne hcur
        obtain ⟨rfl, rfl⟩ := hnil1 hcur
        subst hcur
        exact hb hne (by simpa using hjoin1.symm)
      obtain ⟨s', closed', cur', hrun, h', hjoin, hb'⟩ := runCalls_spec hmax hsmall hfl fuel calls
        (fun b hb => hfuel b (by simp [writtenBytes, hb])) s1 closed1 cur1 h1 hb1
      refine ⟨s', closed', cur', by simp [runCalls, hrun1, hrun], h', ?_, hb'⟩
      rw [hjoin, hjoin1]
      simp [writtenBytes]

end EncodeBufForHeadersMultiFrame

open EncodeBufForHeadersMultiFrame in
/-- `serialize_into` appends to the buffer exactly the HEADERS and CONTINUATION frames of the
    reference split of everything the encoder wrote, for every frame size whose frames the
    `u32` arithmetic of `finish_frame` can measure. -/
theorem serializeInto_bytes (f : HeadersMultiFrame) (fuel : Nat) (prior : WriteBuffer)
    (hfl : ¬ isSet f.flags HeadersFlag.endHeaders.bitmask) (hmax : 0 < f.maxFrameSize)
    (hsmall : f.maxFrameSize + 9 < 2 ^ 32)
    (hfuel : ∀ b ∈ writtenBytes f.encoderCalls, b.length + 2 ≤ fuel) :
    ∃ b, f.serializeInto fuel prior = some b ∧
      b.bytes = prior.bytes ++ referenceFrames f.streamId f.flags true
        (referenceSplit f.maxFrameSize (writtenBytes f.encoderCalls).flatten) := by
  let buf : EncodeBufForHeadersMultiFrame :=
    ⟨.headers, prior.remaining, f.streamId, f.flags, prior, f.maxFrameSize⟩
  have h0 : Holds prior.bytes f.streamId f.flags f.maxFrameSize buf.openFrame [] [] :=
    { streamId := rfl, flags := rfl, maxFrameSize := rfl
      bytes := by simp [openFrame, buf, closedFrames]
      offset := by simp [openFrame, buf, closedFrames, WriteBuffer.remaining_eq]
      frameType := rfl
      full := by simp
      cur_le := Nat.zero_le _ }
  obtain ⟨s', closed, cur, hrun, h', hjoin, hb⟩ :=
    runCalls_spec hmax hsmall hfl fuel f.encoderCalls hfuel _ [] [] h0 (by simp)
  obtain ⟨b, hfin, hbytes⟩ := h'.finishFrame true hfl hsmall
  refine ⟨b, ?_, ?_⟩
  · simp only [HeadersMultiFrame.serializeInto, hfl, Bool.false_eq_true, ite_false]
    simp only [Option.bind_eq_bind] at hrun hfin ⊢
    rw [hrun, Option.some_bind, hfin]
    rfl
  · simp only [List.flatten_nil, List.nil_append] at hjoin
    rw [hbytes, ← hjoin, referenceSplit_eq hmax closed cur h'.full h'.cur_le hb,
      referenceFrames_append, List.append_assoc]
    rfl

theorem length_le_of_mem_referenceSplit {size : Nat} (hsize : 0 < size) :
    ∀ (B : List UInt8), ∀ c ∈ referenceSplit size B, c.length ≤ size
  | B, c, hc => by
      rw [referenceSplit] at hc
      split_ifs at hc with h
      · simp only [List.mem_singleton] at hc; subst hc; omega
      · rcases List.mem_cons.mp hc with rfl | hc
        · simp
        · exact length_le_of_mem_referenceSplit hsize (B.drop size) c hc
termination_by B => B.length
decreasing_by simp_wf; omega

/-- For every frame size of the 24-bit length field, `serialize_into` appends the frames of
    the reference split, every fragment at most `max_frame_size` bytes. -/
theorem serializeInto_eq_referenceFrames (f : HeadersMultiFrame) (fuel : Nat)
    (prior : WriteBuffer) (hfl : ¬ isSet f.flags HeadersFlag.endHeaders.bitmask)
    (hmax : 0 < f.maxFrameSize) (hfield : f.maxFrameSize < 2 ^ 24)
    (hfuel : ∀ b ∈ writtenBytes f.encoderCalls, b.length + 2 ≤ fuel) :
    ∃ b, f.serializeInto fuel prior = some b ∧
      b.bytes = prior.bytes ++ referenceFrames f.streamId f.flags true
        (referenceSplit f.maxFrameSize (writtenBytes f.encoderCalls).flatten) ∧
      ∀ c ∈ referenceSplit f.maxFrameSize (writtenBytes f.encoderCalls).flatten,
        c.length ≤ f.maxFrameSize := by
  obtain ⟨b, hb, hbytes⟩ := serializeInto_bytes f fuel prior hfl hmax (by omega) hfuel
  exact ⟨b, hb, hbytes, length_le_of_mem_referenceSplit hmax _⟩

theorem serializeInto_eq_referenceFrames_small :
    ¬ isSet 1 HeadersFlag.endHeaders.bitmask ∧ 0 < 2 ∧ 2 < 2 ^ 24 ∧
      (∀ b ∈ writtenBytes [.writeAll [1, 2, 3], .reserve 5, .writeAll [4, 5]], b.length + 2 ≤ 5) ∧
      ∃ b, (⟨1, 1, [.writeAll [1, 2, 3], .reserve 5, .writeAll [4, 5]], 2⟩ : HeadersMultiFrame).serializeInto
          5 WriteBuffer.new = some b ∧
        b.bytes = WriteBuffer.new.bytes ++ referenceFrames 1 1 true
          (referenceSplit 2 (writtenBytes [.writeAll [1, 2, 3], .reserve 5, .writeAll [4, 5]]).flatten) ∧
        ∀ c ∈ referenceSplit 2 (writtenBytes [.writeAll [1, 2, 3], .reserve 5, .writeAll [4, 5]]).flatten,
          c.length ≤ 2 :=
  ⟨by decide, by decide, by decide, by decide,
    serializeInto_eq_referenceFrames ⟨1, 1, [.writeAll [1, 2, 3], .reserve 5, .writeAll [4, 5]], 2⟩ 5
      WriteBuffer.new (by decide) (by decide) (by decide) (by decide)⟩

/-- With `max_frame_size = 2 ^ 24`, one HEADERS frame carries all `2 ^ 24` bytes of a
    block, and the 24-bit length field of its header reads 0. -/
theorem serializeInto_length_field_truncated :
    ∃ b, (⟨0, 1, [.writeAll (List.replicate (2 ^ 24) 0)], 2 ^ 24⟩ : HeadersMultiFrame).serializeInto
        (2 ^ 24 + 2) WriteBuffer.new = some b ∧
      b.bytes = packHeader ⟨0, HEADERS_FRAME_TYPE, HeadersFlag.endHeaders.bitmask, 1⟩ ++
        List.replicate (2 ^ 24) 0 := by
  have hwritten : writtenBytes [.writeAll (List.replicate (2 ^ 24) 0)] =
      [List.replicate (2 ^ 24) 0] := rfl
  obtain ⟨b, hb, hbytes⟩ := serializeInto_bytes
    ⟨0, 1, [.writeAll (List.replicate (2 ^ 24) 0)], 2 ^ 24⟩ (2 ^ 24 + 2) WriteBuffer.new
    (by decide) (by decide) (by decide)
    (fun c hc => by rw [hwritten, List.mem_singleton] at hc; rw [hc, List.length_replicate])
  refine ⟨b, hb, ?_⟩
  rw [hbytes, hwritten, List.flatten_singleton, referenceSplit,
    if_pos (Or.inl (List.length_replicate _ _).le), referenceFrames, splitFrame,
    List.length_replicate, WriteBuffer.bytes_new, List.nil_append]
  congr 1

/-- The first chunk of a split is the first `size` bytes of the block. -/
theorem referenceSplit_eq_take_cons {size : Nat} (hsize : 0 < size) (B : List UInt8) :
    ∃ cs, referenceSplit size B = B.take size :: cs := by
  rw [referenceSplit]
  split_ifs with h
  · exact ⟨[], by rw [List.take_of_length_le (h.resolve_right (by omega))]⟩
  · exact ⟨_, rfl⟩

/-- The frames of a split start with the header of its first chunk. -/
theorem referenceFrames_cons (sid : Nat) (flags : UInt8) (first : Bool) (c : List UInt8)
    (cs : List (List UInt8)) :
    ∃ header rest, referenceFrames sid flags first (c :: cs) = packHeader header ++ rest ∧
      header.payloadLen = c.length := by
  cases cs with
  | nil => exact ⟨_, c, rfl, rfl⟩
  | cons d ds => exact ⟨_, c ++ referenceFrames sid flags false (d :: ds),
      by rw [referenceFrames, splitFrame, List.append_assoc], rfl⟩

/-- From `max_frame_size = 2 ^ 24` on, as far as the `u32` arithmetic of `finish_frame` goes, a
    header block of at least `2 ^ 24` bytes is written with a first frame whose 24-bit length
    field reads its payload length modulo `2 ^ 24`, less than the bytes that follow it. -/
theorem serializeInto_length_field_wraps (f : HeadersMultiFrame) (fuel : Nat) (prior : WriteBuffer)
    (hfl : ¬ isSet f.flags HeadersFlag.endHeaders.bitmask) (hbig : 2 ^ 24 ≤ f.maxFrameSize)
    (hsmall : f.maxFrameSize + 9 < 2 ^ 32)
    (hfuel : ∀ b ∈ writtenBytes f.encoderCalls, b.length + 2 ≤ fuel)
    (hlong : 2 ^ 24 ≤ (writtenBytes f.encoderCalls).flatten.length) :
    ∃ b, f.serializeInto fuel prior = some b ∧
      (unpackHeader (b.bytes.drop prior.bytes.length)).payloadLen =
        min f.maxFrameSize (writtenBytes f.encoderCalls).flatten.length % 2 ^ 24 ∧
      (unpackHeader (b.bytes.drop prior.bytes.length)).payloadLen <
        min f.maxFrameSize (writtenBytes f.encoderCalls).flatten.length := by
  obtain ⟨b, hb, hbytes⟩ := serializeInto_bytes f fuel prior hfl (by omega) hsmall hfuel
  obtain ⟨cs, hsplit⟩ := referenceSplit_eq_take_cons (show 0 < f.maxFrameSize by omega)
    (writtenBytes f.encoderCalls).flatten
  obtain ⟨header, rest, hframes, hlen⟩ := referenceFrames_cons f.streamId f.flags true _ cs
  have hfield : (unpackHeader (b.bytes.drop prior.bytes.length)).payloadLen =
      min f.maxFrameSize (writtenBytes f.encoderCalls).flatten.length % 2 ^ 24 := by
    rw [hbytes, List.drop_left, hsplit, hframes, payloadLen_unpackHeader_packHeader, hlen,
      List.length_take]
  refine ⟨b, hb, hfield, ?_⟩
  have hmod := Nat.mod_lt (min f.maxFrameSize (writtenBytes f.encoderCalls).flatten.length)
    (show 0 < 2 ^ 24 by norm_num)
  have hmin := le_min hbig hlong
  omega

/-- With `max_frame_size = 2 ^ 24 + 5`, a block of `2 ^ 24 + 5` bytes goes out in one HEADERS
    frame whose length field reads 5. -/
theorem serializeInto_length_field_wraps_five :
    ∃ b, (⟨0, 1, [.writeAll (List.replicate (2 ^ 24 + 5) 0)], 2 ^ 24 + 5⟩ : HeadersMultiFrame).serializeInto
        (2 ^ 24 + 7) WriteBuffer.new = some b ∧ (unpackHeader b.bytes).payloadLen = 5 := by
  have hwritten : writtenBytes [.writeAll (List.replicate (2 ^ 24 + 5) 0)] =
      [List.replicate (2 ^ 24 + 5) 0] := rfl
  obtain ⟨b, hb, hfield, -⟩ := serializeInto_length_field_wraps
    ⟨0, 1, [.writeAll (List.replicate (2 ^ 24 + 5) 0)], 2 ^ 24 + 5⟩ (2 ^ 24 + 7) WriteBuffer.new
    (by decide) (by norm_num) (by norm_num)
    (fun c hc => by rw [hwritten, List.mem_singleton] at hc; rw [hc, List.length_replicate])
    (by rw [hwritten, List.flatten_singleton, List.length_replicate]; exact Nat.le_add_right _ _)
  refine ⟨b, hb, ?_⟩
  rw [show (⟨0, 1, [.writeAll (List.replicate (2 ^ 24 + 5) 0)], 2 ^ 24 + 5⟩ :
        HeadersMultiFrame).maxFrameSize = 2 ^ 24 + 5 from rfl,
    show (⟨0, 1, [.writeAll (List.replicate (2 ^ 24 + 5) 0)], 2 ^ 24 + 5⟩ :
        HeadersMultiFrame).encoderCalls = [.writeAll (List.replicate (2 ^ 24 + 5) 0)] from rfl,
    hwritten, List.flatten_singleton, List.length_replicate, min_self, WriteBuffer.bytes_new,
    List.length_nil, List.drop_zero] at hfield
  rw [hfield]
  norm_num

end Httpbis.Solicit.Frame

import Httpbis.Solicit.Frame.Header

/-! # The DATA frame

`DataFlag` and `DataFrame` of `solicit/frame/data.rs`, with `from_raw` and `serialize_into`.
A DATA payload is an optional padding length, the data and the padding. Lengths are `u32` in
the code; the model counts them in `Nat`, which agrees below `2 ^ 32`.

`fromRaw_serializeInto` and `serializeInto_fromRaw` are the two round trips of the codec:
parsing what `serialize_into` wrote, and writing what `from_raw` parsed.
-/

namespace Httpbis.Solicit.Frame

open Httpbis.Codec WriteBufferOps

/-- `DATA_FRAME_TYPE`. -/
def DATA_FRAME_TYPE : UInt8 := 0x0

/-- `DataFlag`. -/
inductive DataFlag where
  | endStream
  | padded
  deriving DecidableEq, Repr

/-- `DataFlag::bitmask`. -/
def DataFlag.bitmask : DataFlag → UInt8
  | .endStream => 0x1
  | .padded => 0x8

/-- `DataFrame`. -/
structure DataFrame where
  flags : UInt8
  streamId : Nat
  data : List UInt8
  paddingLen : UInt8
  deriving DecidableEq, Repr

namespace DataFrame

/-- `DataFrame::with_data`: no flags, no padding. -/
def withData (streamId : Nat) (data : List UInt8) : DataFrame := ⟨0, streamId, data, 0⟩

/-- `is_padded`. -/
def isPadded (f : DataFrame) : Bool := isSet f.flags DataFlag.padded.bitmask

/-- `is_end_of_stream`. -/
def isEndOfStream (f : DataFrame) : Bool := isSet f.flags DataFlag.endStream.bitmask

/-- `set_flag`. -/
def setFlag (f : DataFrame) (flag : DataFlag) : DataFrame :=
  { f with flags := withFlag f.flags flag.bitmask }

/-- `payload_len`. -/
def payloadLen (f : DataFrame) : Nat :=
  if f.isPadded then 1 + f.data.length + f.paddingLen.toNat else f.data.length

/-- `get_header`. -/
def getHeader (f : DataFrame) : FrameHeader := ⟨f.payloadLen, DATA_FRAME_TYPE, f.flags, f.streamId⟩

/-- `DataFrame::from_raw`; it cannot panic. -/
def fromRaw (raw : RawFrame) : Option (ParseFrameResult DataFrame) :=
  let h := raw.header
  if h.frameType ≠ DATA_FRAME_TYPE then some (.error .internalError)
  else if h.payloadLen ≠ raw.payload.length then some (.error .internalError)
  else if h.streamId = 0 then some (.error .streamIdMustBeNonZero)
  else
    let padded := h.flags &&& DataFlag.padded.bitmask != 0
    some ((parsePaddedPayload raw.payload padded).map fun (data, paddingLen) =>
      ⟨h.flags, h.streamId, data, paddingLen⟩)

/-- `serialize_into`. -/
def serializeInto (f : DataFrame) (b : WriteBuffer) : WriteBuffer :=
  let b := writeHeader b f.getHeader
  if f.isPadded then
    writePadding ((b.extendFromSlice [f.paddingLen]).extendFromSlice f.data) f.paddingLen
  else b.extendFromSlice f.data

/-- The payload bytes `serialize_into` writes after the header. -/
def payloadBytes (f : DataFrame) : List UInt8 := paddedPayload f.isPadded f.paddingLen f.data

theorem bytes_serializeInto (f : DataFrame) (b : WriteBuffer) :
    (f.serializeInto b).bytes = b.bytes ++ packHeader f.getHeader ++ f.payloadBytes := by
  unfold serializeInto payloadBytes paddedPayload
  split <;> simp

theorem length_payloadBytes (f : DataFrame) : f.payloadBytes.length = f.payloadLen := by
  rw [payloadBytes, length_paddedPayload, payloadLen]
  split <;> omega

/-- What a DATA frame must satisfy to cross the wire unchanged. -/
structure WellFormed (f : DataFrame) : Prop where
  streamId_pos : 0 < f.streamId
  streamId_lt : f.streamId < 2 ^ 31
  payloadLen_lt : f.payloadLen < 2 ^ 24
  unpadded : f.isPadded = false → f.paddingLen = 0

/-- `from_raw` never panics. -/
theorem fromRaw_isSome (raw : RawFrame) : (fromRaw raw).isSome := by
  dsimp only [fromRaw]
  split_ifs <;> rfl

/-- Parsing what `serialize_into` wrote gives the frame back, behind a header whose length
    field counts the payload bytes. -/
theorem fromRaw_serializeInto (f : DataFrame) (hf : f.WellFormed) (b : WriteBuffer) :
    ∃ raw : RawFrame, (f.serializeInto b).bytes = b.bytes ++ raw.rawContent ∧
      fromRaw raw = some (.ok f) ∧ raw.header.payloadLen = raw.payload.length := by
  let raw : RawFrame := ⟨packHeader f.getHeader ++ f.payloadBytes, by simp [FRAME_HEADER_LEN]⟩
  obtain ⟨hh, hp⟩ := raw.of_packHeader rfl hf.payloadLen_lt hf.streamId_lt
  have hlen : raw.header.payloadLen = raw.payload.length := by
    rw [hh, hp, length_payloadBytes]; rfl
  refine ⟨raw, by simp [bytes_serializeInto, raw], ?_, hlen⟩
  dsimp only [fromRaw]
  rw [hh, hp, if_neg (by simp [getHeader]), if_neg (by simp [getHeader, length_payloadBytes]),
    if_neg (by simpa [getHeader] using Nat.pos_iff_ne_zero.mp hf.streamId_pos)]
  change some ((parsePaddedPayload f.payloadBytes f.isPadded).map _) = _
  rw [payloadBytes, parsePaddedPayload_paddedPayload _ _ _ hf.unpadded]
  rfl

/-- What `from_raw` checked of a frame it accepted, and where each field came from. -/
theorem fromRaw_eq_ok {raw : RawFrame} {f : DataFrame} (h : fromRaw raw = some (.ok f)) :
    raw.header.frameType = DATA_FRAME_TYPE ∧ raw.header.payloadLen = raw.payload.length ∧
      f.flags = raw.header.flags ∧ f.streamId = raw.header.streamId ∧
      parsePaddedPayload raw.payload f.isPadded = .ok (f.data, f.paddingLen) := by
  dsimp only [fromRaw] at h
  split_ifs at h with htype hlen hid <;> simp only [Option.some.injEq, reduceCtorEq] at h
  cases hpp : parsePaddedPayload raw.payload (raw.header.flags &&& DataFlag.padded.bitmask != 0)
  · rw [hpp] at h; cases h
  · rw [hpp] at h
    obtain rfl := (Except.ok.inj h).symm
    exact ⟨not_not.mp htype, not_not.mp hlen, rfl, rfl, hpp⟩

/-- Writing what `from_raw` parsed reproduces the raw frame byte for byte, when its stream id
    has the reserved bit clear and its padding is zero bytes. -/
theorem serializeInto_fromRaw (raw : RawFrame) (f : DataFrame) (h : fromRaw raw = some (.ok f))
    (hres : raw.ReservedBitClear)
    (hzero : isSet raw.header.flags DataFlag.padded.bitmask → ∀ b ∈ paddingBytes raw.payload, b = 0)
    (b : WriteBuffer) : (f.serializeInto b).bytes = b.bytes ++ raw.rawContent := by
  obtain ⟨htype, hlen, hfl, hsid, hpp⟩ := fromRaw_eq_ok h
  have hpl : f.payloadBytes = raw.payload :=
    (paddedPayload_of_parse hpp (by rw [isPadded, hfl]; exact hzero)).1
  have hhd : f.getHeader = raw.header := by
    rw [getHeader, ← length_payloadBytes, hpl, ← hlen, hfl, hsid, ← htype]
  rw [bytes_serializeInto, List.append_assoc, raw.rawContent_eq hres, hhd, hpl]

end DataFrame

end Httpbis.Solicit.Frame

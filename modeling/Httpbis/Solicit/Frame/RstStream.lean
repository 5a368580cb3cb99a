import Httpbis.Solicit.Frame.Header

/-! # The RST_STREAM frame

`RstStreamFrame` of `solicit/frame/rst_stream.rs`, with `from_raw` and `serialize_into`, and
the `ErrorCode` it carries. The payload is the raw 32-bit error code: `ErrorCodeOrUnknown`
keeps codes the enum does not name, so the model stores the `u32` itself.
-/

namespace Httpbis.Solicit.Frame

open Httpbis.Codec WriteBufferOps

/-- Modelled from the spec: `ErrorCode`, the error codes of HTTP/2. -/
inductive ErrorCode where
  | noError
  | protocolError
  | internalError
  | flowControlError
  | settingsTimeout
  | streamClosed
  | frameSizeError
  | refusedStream
  | cancel
  | compressionError
  | connectError
  | enhanceYourCalm
  | inadequateSecurity
  | http11Required
  deriving DecidableEq, Repr

/-- Modelled from the spec: `impl From<ErrorCode> for u32`. -/
def ErrorCode.toU32 : ErrorCode → UInt32
  | .noError => 0x0
  | .protocolError => 0x1
  | .internalError => 0x2
  | .flowControlError => 0x3
  | .settingsTimeout => 0x4
  | .streamClosed => 0x5
  | .frameSizeError => 0x6
  | .refusedStream => 0x7
  | .cancel => 0x8
  | .compressionError => 0x9
  | .connectError => 0xa
  | .enhanceYourCalm => 0xb
  | .inadequateSecurity => 0xc
  | .http11Required => 0xd

/-- `RST_STREAM_FRAME_LEN`. -/
def RST_STREAM_FRAME_LEN : Nat := 4

/-- `RST_STREAM_FRAME_TYPE`. -/
def RST_STREAM_FRAME_TYPE : UInt8 := 0x3

/-- `RstStreamFrame`; `error_code` is the `u32` of `ErrorCodeOrUnknown`. -/
structure RstStreamFrame where
  errorCode : UInt32
  streamId : Nat
  flags : UInt8
  deriving DecidableEq, Repr

namespace RstStreamFrame

/-- `RstStreamFrame::new`. -/
def new (streamId : Nat) (errorCode : ErrorCode) : RstStreamFrame := ⟨errorCode.toU32, streamId, 0⟩

/-- `RstStreamFrame::with_raw_error_code`. -/
def withRawErrorCode (streamId : Nat) (errorCode : UInt32) : RstStreamFrame :=
  ⟨errorCode, streamId, 0⟩

/-- `get_header`. -/
def getHeader (f : RstStreamFrame) : FrameHeader :=
  ⟨RST_STREAM_FRAME_LEN, RST_STREAM_FRAME_TYPE, f.flags, f.streamId⟩

/-- `RstStreamFrame::from_raw`. It checks the length field, not the payload, so
    `unpack_octets_4!` panics on a payload shorter than the four bytes the header claims. -/
def fromRaw (raw : RawFrame) : Option (ParseFrameResult RstStreamFrame) :=
  let h := raw.header
  if h.payloadLen ≠ RST_STREAM_FRAME_LEN then some (.error .internalError)
  else if h.frameType ≠ RST_STREAM_FRAME_TYPE then some (.error .internalError)
  else if h.streamId = 0 then some (.error .streamIdMustBeNonZero)
  else (unpackOctets4 raw.payload 0).map fun error => .ok ⟨UInt32.ofNat error, h.streamId, h.flags⟩

/-- `serialize_into`. -/
def serializeInto (f : RstStreamFrame) (b : WriteBuffer) : WriteBuffer :=
  writeU32 (writeHeader b f.getHeader) f.errorCode.toNat

theorem bytes_serializeInto (f : RstStreamFrame) (b : WriteBuffer) :
    (f.serializeInto b).bytes = b.bytes ++ packHeader f.getHeader ++ beBytes 4 f.errorCode.toNat := by
  simp [serializeInto]

/-- What an RST_STREAM frame must satisfy to cross the wire unchanged. -/
structure WellFormed (f : RstStreamFrame) : Prop where
  streamId_pos : 0 < f.streamId
  streamId_lt : f.streamId < 2 ^ 31

private theorem toNat_ofNat_beValue (bs : List UInt8) (h : bs.length = 4) :
    (UInt32.ofNat (beValue bs)).toNat = beValue bs := by
  have := beValue_lt bs
  rw [h] at this
  exact UInt32.toNat_ofNat_of_lt this

private theorem ofNat_toNat (e : UInt32) : UInt32.ofNat e.toNat = e :=
  UInt32.toNat.inj (UInt32.toNat_ofNat_of_lt e.toNat_lt)

/-- `from_raw` panics only on a payload shorter than its length field. -/
theorem fromRaw_isSome (raw : RawFrame) (h : raw.header.payloadLen = raw.payload.length) :
    (fromRaw raw).isSome := by
  dsimp only [fromRaw]
  split_ifs with hlen <;> try rfl
  simp [unpackOctets4, RST_STREAM_FRAME_LEN] at hlen ⊢
  omega

/-- Parsing what `serialize_into` wrote gives the frame back, behind a header whose length
    field counts the payload bytes. -/
theorem fromRaw_serializeInto (f : RstStreamFrame) (hf : f.WellFormed) (b : WriteBuffer) :
    ∃ raw : RawFrame, (f.serializeInto b).bytes = b.bytes ++ raw.rawContent ∧
      fromRaw raw = some (.ok f) ∧ raw.header.payloadLen = raw.payload.length := by
  let raw : RawFrame := ⟨packHeader f.getHeader ++ beBytes 4 f.errorCode.toNat,
    by simp [FRAME_HEADER_LEN]⟩
  obtain ⟨hh, hp⟩ := raw.of_packHeader rfl (show RST_STREAM_FRAME_LEN < 2 ^ 24 by decide)
    hf.streamId_lt
  refine ⟨raw, by simp [bytes_serializeInto, raw], ?_, by rw [hh, hp]; rfl⟩
  have hcode : beValue (beBytes 4 f.errorCode.toNat) = f.errorCode.toNat := by
    rw [beValue_beBytes]; exact Nat.mod_eq_of_lt f.errorCode.toNat_lt
  dsimp only [fromRaw]
  rw [hh, hp, if_neg (by simp [getHeader]), if_neg (by simp [getHeader]),
    if_neg (by simpa [getHeader] using Nat.pos_iff_ne_zero.mp hf.streamId_pos)]
  simp [unpackOctets4, List.take_of_length_le, hcode, getHeader, ofNat_toNat]

/-- What `from_raw` checked of a frame it accepted, and where each field came from. -/
theorem fromRaw_eq_ok {raw : RawFrame} {f : RstStreamFrame} (h : fromRaw raw = some (.ok f)) :
    raw.header.payloadLen = RST_STREAM_FRAME_LEN ∧ raw.header.frameType = RST_STREAM_FRAME_TYPE ∧
      f.flags = raw.header.flags ∧ f.streamId = raw.header.streamId ∧
      4 ≤ raw.payload.length ∧ f.errorCode = UInt32.ofNat (beValue (raw.payload.take 4)) := by
  dsimp only [fromRaw] at h
  split_ifs at h with hlen htype hid <;>
    simp only [Option.some.injEq, reduceCtorEq, Option.map_eq_some', Except.ok.injEq] at h
  obtain ⟨e, he, rfl⟩ := h
  unfold unpackOctets4 at he
  split_ifs at he with hshort
  obtain rfl := (Option.some.inj he).symm
  exact ⟨not_not.mp hlen, not_not.mp htype, rfl, rfl, by omega, by simp⟩

/-- Writing what `from_raw` parsed reproduces the raw frame byte for byte, when its payload is
    as long as its length field says and its stream id has the reserved bit clear. -/
theorem serializeInto_fromRaw (raw : RawFrame) (f : RstStreamFrame) (h : fromRaw raw = some (.ok f))
    (hlen : raw.header.payloadLen = raw.payload.length) (hres : raw.ReservedBitClear)
    (b : WriteBuffer) : (f.serializeInto b).bytes = b.bytes ++ raw.rawContent := by
  obtain ⟨h4, htype, hfl, hsid, -, hcode⟩ := fromRaw_eq_ok h
  have hl : raw.payload.length = 4 := by rw [← hlen, h4]; rfl
  have hhd : f.getHeader = raw.header := by
    rw [getHeader, hfl, hsid, ← htype, ← h4]
  have hpl : beBytes 4 f.errorCode.toNat = raw.payload := by
    rw [hcode, List.take_of_length_le hl.le, toNat_ofNat_beValue _ hl, ← hl, beBytes_beValue]
  rw [bytes_serializeInto, List.append_assoc, raw.rawContent_eq hres, hhd, hpl]

end RstStreamFrame

end Httpbis.Solicit.Frame

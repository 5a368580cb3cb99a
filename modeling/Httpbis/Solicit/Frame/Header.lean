import Httpbis.Codec.WriteBuffer

/-! # The nine-byte frame header and the shared frame helpers

What the frame types of `solicit/frame` share: `FrameHeader` with `pack_header` and the
header unpacking of `RawFrame`, the `Flags` byte, `parse_padded_payload`, and the
`FrameBuilder` writers of a `WriteBuffer`. The module `solicit/frame/mod.rs` that holds them
is not among the sources, so they are modelled from the spec: a 9-byte header of a 24-bit
length, an 8-bit type, an 8-bit flags byte, one reserved bit and a 31-bit stream id, all
big-endian (RFC 7540, which the spec names as the wire protocol).
-/

namespace Httpbis.Solicit.Frame

open Httpbis.Codec

/-! ## Big-endian integers -/

/-- Modelled from the spec: the `width` big-endian bytes of `n`, taken modulo
    `256 ^ width`, as the frame module packs its integer fields. -/
def beBytes : Nat → Nat → List UInt8
  | 0, _ => []
  | w + 1, n => beBytes w (n / 256) ++ [UInt8.ofNat n]

/-- Modelled from the spec: the value of big-endian bytes (`unpack_octets_*!`). -/
def beValue (bs : List UInt8) : Nat := bs.foldl (fun acc b => acc * 256 + b.toNat) 0

@[simp] theorem byte_toNat_ofNat (n : Nat) : (UInt8.ofNat n).toNat = n % 256 := by
  simp [UInt8.toNat, UInt8.ofNat]

theorem byte_ofNat_toNat (b : UInt8) : UInt8.ofNat b.toNat = b :=
  UInt8.toNat.inj (by simp [Nat.mod_eq_of_lt b.toNat_lt])

@[simp] theorem length_beBytes (w n : Nat) : (beBytes w n).length = w := by
  induction w generalizing n <;> simp [beBytes, *]

@[simp] theorem beValue_nil : beValue [] = 0 := rfl

@[simp] theorem beValue_append_singleton (l : List UInt8) (b : UInt8) :
    beValue (l ++ [b]) = beValue l * 256 + b.toNat := by
  simp [beValue, List.foldl_append]

theorem beValue_lt (bs : List UInt8) : beValue bs < 256 ^ bs.length := by
  induction bs using List.reverseRecOn with
  | nil => simp
  | append_singleton l b ih =>
      have := b.toNat_lt
      simp only [beValue_append_singleton, List.length_append, List.length_singleton, pow_succ]
      omega

theorem beValue_beBytes (w n : Nat) : beValue (beBytes w n) = n % 256 ^ w := by
  induction w generalizing n with
  | zero => simp [beBytes, Nat.mod_one]
  | succ w ih =>
      rw [beBytes, beValue_append_singleton, ih, byte_toNat_ofNat, pow_succ', Nat.mod_mul]
      omega

theorem beBytes_beValue (bs : List UInt8) : beBytes bs.length (beValue bs) = bs := by
  induction bs using List.reverseRecOn with
  | nil => rfl
  | append_singleton l b ih =>
      have := b.toNat_lt
      have hdiv : (beValue l * 256 + b.toNat) / 256 = beValue l := by omega
      have hmod : (beValue l * 256 + b.toNat) % 256 = b.toNat := by omega
      simp only [List.length_append, List.length_singleton, beBytes, beValue_append_singleton,
        hdiv, ih, List.append_cancel_left_eq, List.cons.injEq, and_true]
      exact UInt8.toNat.inj (by simp [hmod])

/-- Modelled from the spec: `unpack_octets_4!`, the big-endian `u32` at `offset`; indexing
    past the end panics. -/
def unpackOctets4 (buf : List UInt8) (offset : Nat) : Option Nat :=
  if buf.length < offset + 4 then none else some (beValue ((buf.drop offset).take 4))

/-! ## Bit operations on bytes and ids -/

theorem and_0xFF (n : Nat) : n &&& 0xFF = n % 256 := by
  rw [show (0xFF : Nat) = 2 ^ 8 - 1 from rfl, Nat.and_pow_two_sub_one_eq_mod]

theorem and_0x7FFFFFFF (n : Nat) : n &&& 0x7FFFFFFF = n % 2 ^ 31 := by
  rw [show (0x7FFFFFFF : Nat) = 2 ^ 31 - 1 from rfl, Nat.and_pow_two_sub_one_eq_mod]

theorem byte_eq_iff (a b : UInt8) : a = b ↔ a.toNat = b.toNat :=
  ⟨congrArg _, UInt8.toNat.inj⟩

private theorem low_or_0x80 : ∀ n < 128, (UInt8.ofNat n ||| 0x80).toNat = n + 128 := by decide

private theorem low_or_zero : ∀ n < 128, (UInt8.ofNat n ||| 0).toNat = n := by decide

private theorem low_and_0x80 : ∀ n < 128, (UInt8.ofNat n &&& 0x80 != 0) = false := by decide

private theorem high_and_0x80 : ∀ n < 128, (UInt8.ofNat (n + 128) &&& 0x80 != 0) = true := by
  decide

/-- Setting the top bit of a byte below 128. -/
theorem byte_or_top (n : Nat) (hn : n < 128) (e : Bool) :
    (UInt8.ofNat n ||| (if e then 0x80 else 0)).toNat = n + (if e then 128 else 0) := by
  cases e
  · simpa using low_or_zero n hn
  · simpa using low_or_0x80 n hn

/-- The top bit of a byte, as `& 0x80 != 0` reads it. -/
theorem byte_and_top (b : UInt8) : (b &&& 0x80 != 0) = decide (128 ≤ b.toNat) := by
  have hb := b.toNat_lt
  rw [← byte_ofNat_toNat b]
  by_cases h : b.toNat < 128
  · rw [low_and_0x80 _ h]; simp; omega
  · obtain ⟨n, hn, e⟩ : ∃ n, n < 128 ∧ b.toNat = n + 128 := ⟨b.toNat - 128, by omega, by omega⟩
    rw [e, high_and_0x80 _ hn]; simp; omega

/-! ## Frame header -/

/-- `FrameHeader`. -/
structure FrameHeader where
  payloadLen : Nat
  frameType : UInt8
  flags : UInt8
  /-- `StreamId`, a `u32`; the wire carries 31 bits of it. -/
  streamId : Nat
  deriving DecidableEq, Repr

/-- `FRAME_HEADER_LEN`. -/
def FRAME_HEADER_LEN : Nat := 9

/-- Modelled from the spec: `pack_header`, the nine header bytes. -/
def packHeader (h : FrameHeader) : List UInt8 :=
  beBytes 3 h.payloadLen ++ [h.frameType, h.flags] ++ beBytes 4 h.streamId

/-- Modelled from the spec: header unpacking; the reserved top bit of the stream id is
    cleared on receipt. -/
def unpackHeader (header : List UInt8) : FrameHeader :=
  { payloadLen := beValue (header.take 3)
    frameType := header.getD 3 0
    flags := header.getD 4 0
    streamId := beValue ((header.drop 5).take 4) % 2 ^ 31 }

@[simp] theorem length_packHeader (h : FrameHeader) : (packHeader h).length = 9 := by
  simp [packHeader]

/-- The placeholder header that `open_frame` writes is nine zero bytes. -/
theorem packHeader_zero : packHeader ⟨0, 0, 0, 0⟩ = List.replicate 9 0 := by decide

/-- The 24-bit length field of a packed header reads the payload length modulo `2 ^ 24`. -/
theorem payloadLen_unpackHeader_packHeader (h : FrameHeader) (rest : List UInt8) :
    (unpackHeader (packHeader h ++ rest)).payloadLen = h.payloadLen % 2 ^ 24 := by
  have split : packHeader h ++ rest =
      beBytes 3 h.payloadLen ++ ([h.frameType, h.flags] ++ beBytes 4 h.streamId ++ rest) := by
    simp [packHeader]
  simp only [unpackHeader, split, List.take_left' (length_beBytes 3 _), beValue_beBytes]
  rfl

/-- Unpacking a packed header returns it, for a 24-bit length and a 31-bit stream id. -/
theorem unpackHeader_packHeader (h : FrameHeader) (hlen : h.payloadLen < 2 ^ 24)
    (hid : h.streamId < 2 ^ 31) : unpackHeader (packHeader h ++ rest) = h := by
  obtain ⟨len, ty, fl, sid⟩ := h
  dsimp only at hlen hid
  have l3 := length_beBytes 3 len
  have split : packHeader ⟨len, ty, fl, sid⟩ ++ rest =
      beBytes 3 len ++ (ty :: fl :: (beBytes 4 sid ++ rest)) := by
    simp [packHeader]
  have dropped : (beBytes 3 len ++ (ty :: fl :: (beBytes 4 sid ++ rest))).drop 5 =
      beBytes 4 sid ++ rest := by
    rw [List.drop_append_eq_append_drop, List.drop_of_length_le (by omega), l3]; rfl
  simp only [unpackHeader, split, dropped, List.take_left' (length_beBytes 4 sid),
    beValue_beBytes, List.getD_eq_getElem?_getD, List.take_left' l3,
    List.getElem?_append_right (show (beBytes 3 len).length ≤ 3 by omega),
    List.getElem?_append_right (show (beBytes 3 len).length ≤ 4 by omega), l3]
  simp only [Nat.sub_self, List.getElem?_cons_zero, List.getElem?_cons_succ, Option.getD_some,
    FrameHeader.mk.injEq, true_and, Nat.reducePow]
  exact ⟨Nat.mod_eq_of_lt hlen, by omega⟩

/-- Packing an unpacked header returns its bytes when the reserved bit is clear. -/
theorem packHeader_unpackHeader (header : List UInt8) (hlen : header.length = 9)
    (hres : beValue ((header.drop 5).take 4) < 2 ^ 31) :
    packHeader (unpackHeader header) = header := by
  match header, hlen with
  | [b0, b1, b2, b3, b4, b5, b6, b7, b8], _ =>
      have e3 := beBytes_beValue [b0, b1, b2]
      have e4 := beBytes_beValue [b5, b6, b7, b8]
      simp only [List.drop, List.take] at hres
      simp only [packHeader, unpackHeader, List.take, List.drop, List.getD_cons_succ,
        List.getD_cons_zero, Nat.mod_eq_of_lt hres, List.length_cons, List.length_nil] at e3 e4 ⊢
      rw [e3, e4]
      rfl

/-! ## Raw frames -/

/-- Modelled from the spec: `RawFrame`, the bytes of one frame. It is built only from a
    buffer that holds a whole header. -/
structure RawFrame where
  rawContent : List UInt8
  header_complete : FRAME_HEADER_LEN ≤ rawContent.length

/-- `RawFrame::header`. -/
def RawFrame.header (r : RawFrame) : FrameHeader := unpackHeader (r.rawContent.take 9)

/-- `RawFrame::payload`. -/
def RawFrame.payload (r : RawFrame) : List UInt8 := r.rawContent.drop 9

/-- The raw frame holding the given bytes, when they hold a header. -/
def RawFrame.ofBytes (bs : List UInt8) (h : FRAME_HEADER_LEN ≤ bs.length) : RawFrame := ⟨bs, h⟩

/-- The stream id of the raw bytes has its reserved bit clear. -/
def RawFrame.ReservedBitClear (r : RawFrame) : Prop :=
  beValue ((r.rawContent.drop 5).take 4) < 2 ^ 31

instance (r : RawFrame) : Decidable r.ReservedBitClear := inferInstanceAs (Decidable (_ < _))

theorem RawFrame.rawContent_eq (r : RawFrame) (hres : r.ReservedBitClear) :
    r.rawContent = packHeader r.header ++ r.payload := by
  have h := r.header_complete
  rw [RawFrame.header, packHeader_unpackHeader]
  · exact (List.take_append_drop 9 r.rawContent).symm
  · simp [FRAME_HEADER_LEN] at h ⊢; omega
  · simpa [List.drop_take, List.take_take, ReservedBitClear] using hres

/-- A raw frame made of a packed header and a payload reads back that header and payload. -/
theorem RawFrame.of_packHeader (r : RawFrame) {h : FrameHeader} {payload : List UInt8}
    (e : r.rawContent = packHeader h ++ payload) (hlen : h.payloadLen < 2 ^ 24)
    (hid : h.streamId < 2 ^ 31) : r.header = h ∧ r.payload = payload := by
  have l := length_packHeader h
  refine ⟨?_, ?_⟩
  · rw [RawFrame.header, e, List.take_left' l]
    simpa using (unpackHeader_packHeader h hlen hid : unpackHeader (packHeader h ++ []) = h)
  · rw [RawFrame.payload, e, List.drop_left' l]

/-! ## Flags -/

/-- `Flags::is_set`: the bit of `bitmask` is set in the flags byte. -/
def isSet (flags bitmask : UInt8) : Bool := flags &&& bitmask != 0

/-- `Flags::with`, and `Flags::set` in place. -/
def withFlag (flags bitmask : UInt8) : UInt8 := flags ||| bitmask

/-! ## Parse errors and padding -/

/-- `ParseFrameError`, the variants the modelled parsers return. -/
inductive ParseFrameError where
  | internalError
  | streamIdMustBeNonZero
  | badPaddingLength
  | streamDependencyOnItself (streamId : Nat)
  deriving DecidableEq, Repr

/-- `ParseFrameResult`. -/
abbrev ParseFrameResult (α : Type) := Except ParseFrameError α

/-- Modelled from the spec: `parse_padded_payload`. A padded payload starts with the padding
    length, which must be below the payload length; the data lies between that byte and the
    padding. -/
def parsePaddedPayload (payload : List UInt8) (padded : Bool) :
    ParseFrameResult (List UInt8 × UInt8) :=
  if !padded then .ok (payload, 0)
  else match payload with
    | [] => .error .badPaddingLength
    | padLen :: _ =>
        if payload.length ≤ padLen.toNat then .error .badPaddingLength
        else .ok ((payload.take (payload.length - padLen.toNat)).drop 1, padLen)

@[simp] theorem parsePaddedPayload_unpadded (payload : List UInt8) :
    parsePaddedPayload payload false = .ok (payload, 0) := rfl

/-- The trailing padding of a padded payload: as many bytes as its first byte says. -/
def paddingBytes (payload : List UInt8) : List UInt8 :=
  payload.drop (payload.length - (payload.headD 0).toNat)

/-- The payload that `serialize_into` of a paddable frame writes around its body: with PADDED,
    the padding length, the body and that many zero bytes; without, the body alone. -/
def paddedPayload (padded : Bool) (padLen : UInt8) (body : List UInt8) : List UInt8 :=
  if padded then padLen :: (body ++ List.replicate padLen.toNat 0) else body

theorem length_paddedPayload (padded : Bool) (padLen : UInt8) (body : List UInt8) :
    (paddedPayload padded padLen body).length =
      body.length + if padded then 1 + padLen.toNat else 0 := by
  cases padded <;> simp [paddedPayload]; omega

/-- Parsing a padded payload gives back its body and padding length. -/
theorem parsePaddedPayload_paddedPayload (padded : Bool) (padLen : UInt8) (body : List UInt8)
    (hu : padded = false → padLen = 0) :
    parsePaddedPayload (paddedPayload padded padLen body) padded = .ok (body, padLen) := by
  cases padded
  · simp [paddedPayload, hu rfl]
  · simp only [paddedPayload, parsePaddedPayload, Bool.not_true, Bool.false_eq_true, ↓reduceIte,
      List.length_cons, List.length_append, List.length_replicate]
    rw [if_neg (by omega), show body.length + padLen.toNat + 1 - padLen.toNat = body.length + 1
      by omega]
    simp [List.take_append_of_le_length]

/-- A payload that parses, and whose padding is zero bytes, is the padded payload of the
    parsed body and padding length. -/
theorem paddedPayload_of_parse {payload body : List UInt8} {padded : Bool} {padLen : UInt8}
    (h : parsePaddedPayload payload padded = .ok (body, padLen))
    (hzero : padded = true → ∀ b ∈ paddingBytes payload, b = 0) :
    paddedPayload padded padLen body = payload ∧ (padded = false → padLen = 0) := by
  cases padded
  · obtain ⟨rfl, rfl⟩ := Prod.mk.inj (Except.ok.inj h)
    exact ⟨rfl, fun _ => rfl⟩
  match payload, h with
  | p :: rest, h =>
      simp only [parsePaddedPayload, Bool.not_true, Bool.false_eq_true, ↓reduceIte,
        List.length_cons] at h
      split_ifs at h with hlt
      obtain ⟨rfl, rfl⟩ := Prod.mk.inj (Except.ok.inj h)
      have hk : rest.length + 1 - p.toNat = (rest.length - p.toNat) + 1 := by omega
      have hpad : rest.drop (rest.length - p.toNat) = List.replicate p.toNat 0 := by
        rw [List.eq_replicate_iff]
        refine ⟨by simp; omega, fun b hb => hzero rfl b ?_⟩
        simpa [paddingBytes, hk] using hb
      refine ⟨?_, nofun⟩
      simp only [paddedPayload, ↓reduceIte, hk, List.take_succ_cons, List.drop_succ_cons,
        List.drop_zero, ← hpad, List.take_append_drop]

/-! ## Writers of `FrameBuilder` -/

namespace WriteBufferOps

/-- Modelled from the spec: `FrameBuilder::write_header`. -/
def writeHeader (b : WriteBuffer) (h : FrameHeader) : WriteBuffer := b.extendFromSlice (packHeader h)

/-- Modelled from the spec: `FrameBuilder::write_padding`, `padding_len` zero bytes. -/
def writePadding (b : WriteBuffer) (paddingLen : UInt8) : WriteBuffer :=
  b.extendFromSlice (List.replicate paddingLen.toNat 0)

/-- Modelled from the spec: `FrameBuilder::write_u32`, big-endian. -/
def writeU32 (b : WriteBuffer) (v : Nat) : WriteBuffer := b.extendFromSlice (beBytes 4 v)

@[simp] theorem bytes_writeHeader (b : WriteBuffer) (h : FrameHeader) :
    (writeHeader b h).bytes = b.bytes ++ packHeader h := by simp [writeHeader]

@[simp] theorem bytes_writePadding (b : WriteBuffer) (n : UInt8) :
    (writePadding b n).bytes = b.bytes ++ List.replicate n.toNat 0 := by simp [writePadding]

@[simp] theorem bytes_writeU32 (b : WriteBuffer) (v : Nat) :
    (writeU32 b v).bytes = b.bytes ++ beBytes 4 v := by simp [writeU32]

end WriteBufferOps

end Httpbis.Solicit.Frame

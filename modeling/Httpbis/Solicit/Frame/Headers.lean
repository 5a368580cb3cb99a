import Httpbis.Solicit.Frame.Header

/-! # The HEADERS frame

`HeadersFlag`, `StreamDependency` and `HeadersFrame` of `solicit/frame/headers.rs`, with
`from_raw` and `serialize_into`. A HEADERS payload is an optional padding length, an optional
five-byte stream dependency, the header block fragment and the padding.
-/

namespace Httpbis.Solicit.Frame

open Httpbis.Codec WriteBufferOps

/-- `HEADERS_FRAME_TYPE`. -/
def HEADERS_FRAME_TYPE : UInt8 := 0x1

/-- `HeadersFlag`. -/
inductive HeadersFlag where
  | endStream
  | endHeaders
  | padded
  | priority
  deriving DecidableEq, Repr

/-- `HeadersFlag::bitmask`. -/
def HeadersFlag.bitmask : HeadersFlag → UInt8
  | .endStream => 0x1
  | .endHeaders => 0x4
  | .padded => 0x8
  | .priority => 0x20

/-- `StreamDependency`. -/
structure StreamDependency where
  streamId : Nat
  weight : UInt8
  isExclusive : Bool
  deriving DecidableEq, Repr

namespace StreamDependency

/-- `StreamDependency::parse`: the first five bytes of the buffer. Indexing past the end
    panics, which `from_raw` must rule out by slicing `&actual[..5]` first. The 31-bit id is
    the big-endian `u32` with `id &= !(1 << 31)` applied. -/
def parse (buf : List UInt8) : Option StreamDependency :=
  if buf.length < 5 then none
  else
    some { isExclusive := buf.getD 0 0 &&& 0x80 != 0
           streamId := beValue (buf.take 4) &&& 0x7FFFFFFF
           weight := buf.getD 4 0 }

/-- `StreamDependency::serialize`: `E` bit, 31-bit stream id, weight. -/
def serialize (d : StreamDependency) : List UInt8 :=
  let eBit : UInt8 := if d.isExclusive then (1 : UInt8) <<< 7 else 0
  [UInt8.ofNat (d.streamId >>> 24 &&& 0xFF) ||| eBit,
   UInt8.ofNat (d.streamId >>> 16 &&& 0xFF),
   UInt8.ofNat (d.streamId >>> 8 &&& 0xFF),
   UInt8.ofNat (d.streamId &&& 0xFF),
   d.weight]

@[simp] theorem length_serialize (d : StreamDependency) : d.serialize.length = 5 := rfl

private theorem eBit_eq (e : Bool) :
    (if e then (1 : UInt8) <<< 7 else 0) = if e then 0x80 else 0 := by cases e <;> rfl

/-- Five bytes always parse. -/
theorem parse_isSome {buf : List UInt8} (h : 5 ≤ buf.length) : (parse buf).isSome := by
  simp [parse, Nat.not_lt.mpr h]

/-- A dependency on a 31-bit id parses back from its five bytes. -/
theorem parse_serialize (d : StreamDependency) (h : d.streamId < 2 ^ 31) :
    parse d.serialize = some d := by
  obtain ⟨sid, w, e⟩ := d
  dsimp only at h
  have hb : (UInt8.ofNat (sid / 16777216 % 256) ||| if e then 128 else 0).toNat =
      sid / 16777216 % 256 + if e then 128 else 0 := byte_or_top _ (by omega) e
  simp only [parse, serialize, eBit_eq, length_serialize, Nat.shiftRight_eq_div_pow, and_0xFF]
  simp [beValue, byte_and_top, hb, and_0x7FFFFFFF]
  cases e <;> simp <;> omega

/-- Five parsed bytes serialize back to themselves: the `E` bit is the bit the id clears. -/
theorem serialize_parse {buf : List UInt8} {d : StreamDependency} (hl : buf.length = 5)
    (h : parse buf = some d) : d.serialize = buf := by
  match buf, hl with
  | [b0, b1, b2, b3, b4], _ =>
    simp only [parse, List.length_cons, List.length_nil] at h
    obtain rfl := (Option.some.inj h).symm
    have l0 := b0.toNat_lt; have l1 := b1.toNat_lt; have l2 := b2.toNat_lt
    have l3 := b3.toNat_lt
    simp only [serialize, eBit_eq, byte_and_top, Nat.shiftRight_eq_div_pow, and_0xFF,
      and_0x7FFFFFFF, List.cons.injEq, byte_eq_iff, and_true]
    simp (disch := omega) only [byte_or_top, byte_toNat_ofNat]
    simp [beValue]
    split <;> omega

end StreamDependency

/-- `HeadersFrame`. -/
structure HeadersFrame where
  flags : UInt8
  streamId : Nat
  headerFragment : List UInt8
  streamDep : Option StreamDependency
  paddingLen : UInt8
  deriving DecidableEq, Repr

namespace HeadersFrame

/-- `payload_len`: fragment, five priority bytes, one length byte and the padding. -/
def payloadLen (f : HeadersFrame) : Nat :=
  let padding := if isSet f.flags HeadersFlag.padded.bitmask then 1 + f.paddingLen.toNat else 0
  let priority := if isSet f.flags HeadersFlag.priority.bitmask then 5 else 0
  f.headerFragment.length + priority + padding

/-- `get_header`. -/
def getHeader (f : HeadersFrame) : FrameHeader :=
  ⟨f.payloadLen, HEADERS_FRAME_TYPE, f.flags, f.streamId⟩

/-- `HeadersFrame::from_raw`; `none` is the panic of `&actual[..5]` on a PRIORITY frame whose
    unpadded payload is shorter than the dependency. -/
def fromRaw (raw : RawFrame) : Option (ParseFrameResult HeadersFrame) :=
  let h := raw.header
  if h.frameType ≠ HEADERS_FRAME_TYPE then some (.error .internalError)
  else if h.payloadLen ≠ raw.payload.length then some (.error .internalError)
  else if h.streamId = 0 then some (.error .streamIdMustBeNonZero)
  else
    match parsePaddedPayload raw.payload (isSet h.flags HeadersFlag.padded.bitmask) with
    | .error e => some (.error e)
    | .ok (actual, padLen) =>
        if isSet h.flags HeadersFlag.priority.bitmask then
          if actual.length < 5 then none
          else
            (StreamDependency.parse (actual.take 5)).map fun dep =>
              if dep.streamId = h.streamId then .error (.streamDependencyOnItself h.streamId)
              else .ok ⟨h.flags, h.streamId, actual.drop 5, some dep, padLen⟩
        else some (.ok ⟨h.flags, h.streamId, actual, none, padLen⟩)

/-- `serialize_into`; a PRIORITY flag without dependency information panics. -/
def serializeInto (f : HeadersFrame) (b : WriteBuffer) : Option WriteBuffer := do
  let padded := isSet f.flags HeadersFlag.padded.bitmask
  let b := writeHeader b f.getHeader
  let b := if padded then b.extendFromSlice [f.paddingLen] else b
  let b ← if isSet f.flags HeadersFlag.priority.bitmask then
      match f.streamDep with
      | some dep => some (b.extendFromSlice dep.serialize)
      | none => none
    else some b
  let b := b.extendFromSlice f.headerFragment
  pure (if padded then writePadding b f.paddingLen else b)

/-- The dependency bytes `serialize_into` writes: those of the dependency under PRIORITY. -/
def depBytes (f : HeadersFrame) : List UInt8 :=
  if isSet f.flags HeadersFlag.priority.bitmask then (f.streamDep.map StreamDependency.serialize).getD []
  else []

/-- The payload bytes `serialize_into` writes after the header. -/
def payloadBytes (f : HeadersFrame) : List UInt8 :=
  paddedPayload (isSet f.flags HeadersFlag.padded.bitmask) f.paddingLen (f.depBytes ++ f.headerFragment)

/-- Every PRIORITY frame carries its dependency. -/
def HasDep (f : HeadersFrame) : Prop :=
  isSet f.flags HeadersFlag.priority.bitmask = true → f.streamDep.isSome

theorem length_payloadBytes (f : HeadersFrame) (hd : f.HasDep) :
    f.payloadBytes.length = f.payloadLen := by
  rw [payloadBytes, length_paddedPayload, payloadLen, List.length_append, depBytes]
  cases hp : isSet f.flags HeadersFlag.priority.bitmask
  · simp
  · obtain ⟨d, hd⟩ := Option.isSome_iff_exists.mp (hd hp)
    simp [hd]; omega

/-- `serialize_into` of a frame with its dependency writes the header and the payload. -/
theorem serializeInto_eq (f : HeadersFrame) (hd : f.HasDep) (b : WriteBuffer) :
    ∃ b', f.serializeInto b = some b' ∧ b'.bytes = b.bytes ++ packHeader f.getHeader ++ f.payloadBytes := by
  unfold serializeInto payloadBytes depBytes paddedPayload
  cases hp : isSet f.flags HeadersFlag.priority.bitmask
  · cases isSet f.flags HeadersFlag.padded.bitmask <;> simp
  · obtain ⟨d, hd⟩ := Option.isSome_iff_exists.mp (hd hp)
    cases isSet f.flags HeadersFlag.padded.bitmask <;> simp [hd]

/-- `serialize_into` panics exactly on a PRIORITY flag without dependency. -/
theorem serializeInto_eq_none (f : HeadersFrame) (b : WriteBuffer) :
    f.serializeInto b = none ↔ ¬f.HasDep := by
  unfold serializeInto HasDep
  cases isSet f.flags HeadersFlag.priority.bitmask <;> cases f.streamDep <;> simp

/-- What a HEADERS frame must satisfy to cross the wire unchanged. -/
structure WellFormed (f : HeadersFrame) : Prop where
  streamId_pos : 0 < f.streamId
  streamId_lt : f.streamId < 2 ^ 31
  payloadLen_lt : f.payloadLen < 2 ^ 24
  unpadded : isSet f.flags HeadersFlag.padded.bitmask = false → f.paddingLen = 0
  priority_iff : isSet f.flags HeadersFlag.priority.bitmask = true ↔ f.streamDep.isSome
  dep_lt : ∀ d ∈ f.streamDep, d.streamId < 2 ^ 31
  dep_ne : ∀ d ∈ f.streamDep, d.streamId ≠ f.streamId

/-- Parsing what `serialize_into` wrote gives the frame back, behind a header whose length
    field counts the payload bytes. -/
theorem fromRaw_serializeInto (f : HeadersFrame) (hf : f.WellFormed) (b : WriteBuffer) :
    ∃ b' raw, f.serializeInto b = some b' ∧ b'.bytes = b.bytes ++ raw.rawContent ∧
      fromRaw raw = some (.ok f) ∧ raw.header.payloadLen = raw.payload.length := by
  have hd : f.HasDep := hf.priority_iff.mp
  obtain ⟨b', hb', hbytes⟩ := serializeInto_eq f hd b
  let raw : RawFrame := ⟨packHeader f.getHeader ++ f.payloadBytes, by simp [FRAME_HEADER_LEN]⟩
  obtain ⟨hh, hp⟩ := raw.of_packHeader rfl hf.payloadLen_lt hf.streamId_lt
  have hlen : raw.header.payloadLen = raw.payload.length := by
    rw [hh, hp, length_payloadBytes f hd]; rfl
  refine ⟨b', raw, hb', by simp [hbytes, raw], ?_, hlen⟩
  dsimp only [fromRaw]
  rw [hh, hp, if_neg (by simp [getHeader]), if_neg (by simp [getHeader, length_payloadBytes f hd]),
    if_neg (by simpa [getHeader] using Nat.pos_iff_ne_zero.mp hf.streamId_pos)]
  simp only [getHeader, payloadBytes, parsePaddedPayload_paddedPayload _ _ _ hf.unpadded]
  obtain ⟨fl, sid, frag, dep, pad⟩ := f
  cases dep with
  | none =>
      have hp : isSet fl HeadersFlag.priority.bitmask = false := by
        simpa using mt hf.priority_iff.mp
      simp [depBytes, hp]
  | some d =>
      have hp : isSet fl HeadersFlag.priority.bitmask = true := hf.priority_iff.mpr rfl
      simp [depBytes, hp, StreamDependency.parse_serialize d (hf.dep_lt d rfl), hf.dep_ne d rfl]

/-- The header checks of `from_raw`: a frame that fails one is an `Err`. -/
theorem fromRaw_of_header_check_fails {raw : RawFrame}
    (h : ¬(raw.header.frameType = HEADERS_FRAME_TYPE ∧ raw.header.payloadLen = raw.payload.length ∧
      raw.header.streamId ≠ 0)) : ∃ e, fromRaw raw = some (.error e) := by
  by_cases htype : raw.header.frameType = HEADERS_FRAME_TYPE
  · by_cases hlen : raw.header.payloadLen = raw.payload.length
    · have hid : raw.header.streamId = 0 := not_not.mp fun hid => h ⟨htype, hlen, hid⟩
      exact ⟨_, by rw [fromRaw, if_neg (not_not.mpr htype), if_neg (not_not.mpr hlen), if_pos hid]⟩
    · exact ⟨_, by rw [fromRaw, if_neg (not_not.mpr htype), if_pos hlen]⟩
  · exact ⟨_, by rw [fromRaw, if_pos htype]⟩

/-- What `from_raw` checked of a frame it accepted: the padded payload holds the dependency
    bytes and the fragment. -/
theorem fromRaw_eq_ok {raw : RawFrame} {f : HeadersFrame} (h : fromRaw raw = some (.ok f)) :
    raw.header.frameType = HEADERS_FRAME_TYPE ∧ raw.header.payloadLen = raw.payload.length ∧
      f.flags = raw.header.flags ∧ f.streamId = raw.header.streamId ∧ f.HasDep ∧
      parsePaddedPayload raw.payload (isSet f.flags HeadersFlag.padded.bitmask) =
        .ok (f.depBytes ++ f.headerFragment, f.paddingLen) := by
  by_cases hc : raw.header.frameType = HEADERS_FRAME_TYPE ∧
    raw.header.payloadLen = raw.payload.length ∧ raw.header.streamId ≠ 0
  swap
  · obtain ⟨e, he⟩ := fromRaw_of_header_check_fails hc
    rw [he] at h; cases h
  obtain ⟨htype, hlen, hid⟩ := hc
  rw [fromRaw, if_neg (not_not.mpr htype), if_neg (not_not.mpr hlen), if_neg hid] at h
  cases hpp : parsePaddedPayload raw.payload (isSet raw.header.flags HeadersFlag.padded.bitmask) with
  | error e => rw [hpp] at h; cases h
  | ok r =>
      obtain ⟨actual, padLen⟩ := r
      rw [hpp] at h
      dsimp only at h
      by_cases hpr : isSet raw.header.flags HeadersFlag.priority.bitmask = true
      · rw [if_pos hpr] at h
        by_cases hshort : actual.length < 5
        · rw [if_pos hshort] at h; cases h
        rw [if_neg hshort] at h
        obtain ⟨d, hd, hf⟩ := Option.map_eq_some'.mp h
        split_ifs at hf
        obtain rfl := (Except.ok.inj hf).symm
        have hser := StreamDependency.serialize_parse (by simp; omega) hd
        exact ⟨htype, hlen, rfl, rfl, fun _ => rfl, by simp [depBytes, hpr, hser, hpp]⟩
      · rw [if_neg hpr] at h
        obtain rfl := (Except.ok.inj (Option.some.inj h)).symm
        exact ⟨htype, hlen, rfl, rfl, by simp [HasDep, hpr], by simp [depBytes, hpr, hpp]⟩

/-- Writing what `from_raw` parsed reproduces the raw frame byte for byte, when its stream id
    has the reserved bit clear and its padding is zero bytes. -/
theorem serializeInto_fromRaw (raw : RawFrame) (f : HeadersFrame) (h : fromRaw raw = some (.ok f))
    (hres : raw.ReservedBitClear)
    (hzero : isSet raw.header.flags HeadersFlag.padded.bitmask → ∀ b ∈ paddingBytes raw.payload, b = 0)
    (b : WriteBuffer) : ∃ b', f.serializeInto b = some b' ∧ b'.bytes = b.bytes ++ raw.rawContent := by
  obtain ⟨htype, hlen, hfl, hsid, hd, hpp⟩ := fromRaw_eq_ok h
  obtain ⟨b', hb', hbytes⟩ := serializeInto_eq f hd b
  have hpl : f.payloadBytes = raw.payload :=
    (paddedPayload_of_parse hpp (by rw [hfl]; exact hzero)).1
  have hhd : f.getHeader = raw.header := by
    rw [getHeader, ← length_payloadBytes f hd, hpl, ← hlen, hfl, hsid, ← htype]
  exact ⟨b', hb', by rw [hbytes, List.append_assoc, raw.rawContent_eq hres, hhd, hpl]⟩

/-- `from_raw` panics exactly on a PRIORITY frame that passes the header checks and whose
    unpadded payload is shorter than the five dependency bytes. -/
theorem fromRaw_eq_none (raw : RawFrame) :
    fromRaw raw = none ↔
      raw.header.frameType = HEADERS_FRAME_TYPE ∧ raw.header.payloadLen = raw.payload.length ∧
        raw.header.streamId ≠ 0 ∧ isSet raw.header.flags HeadersFlag.priority.bitmask = true ∧
        ∃ actual padLen, parsePaddedPayload raw.payload
          (isSet raw.header.flags HeadersFlag.padded.bitmask) = .ok (actual, padLen) ∧
          actual.length < 5 := by
  by_cases hc : raw.header.frameType = HEADERS_FRAME_TYPE ∧
    raw.header.payloadLen = raw.payload.length ∧ raw.header.streamId ≠ 0
  swap
  · obtain ⟨e, he⟩ := fromRaw_of_header_check_fails hc
    rw [he]
    exact iff_of_false (Option.some_ne_none _) fun h => hc ⟨h.1, h.2.1, h.2.2.1⟩
  obtain ⟨htype, hlen, hid⟩ := hc
  rw [fromRaw, if_neg (not_not.mpr htype), if_neg (not_not.mpr hlen), if_neg hid]
  cases hpp : parsePaddedPayload raw.payload (isSet raw.header.flags HeadersFlag.padded.bitmask) with
  | error e => exact iff_of_false (Option.some_ne_none _) fun ⟨_, _, _, _, _, _, h, _⟩ => by cases h
  | ok r =>
      obtain ⟨actual, padLen⟩ := r
      dsimp only
      by_cases hpr : isSet raw.header.flags HeadersFlag.priority.bitmask = true
      · rw [if_pos hpr]
        by_cases hshort : actual.length < 5
        · rw [if_pos hshort]
          exact iff_of_true rfl ⟨htype, hlen, hid, hpr, actual, padLen, rfl, hshort⟩
        · rw [if_neg hshort]
          have hsome := StreamDependency.parse_isSome (show 5 ≤ (actual.take 5).length by simp; omega)
          refine iff_of_false (by simpa [Option.isSome_iff_ne_none] using hsome) ?_
          rintro ⟨-, -, -, -, a, p, h, ha⟩
          cases h
          exact hshort ha
      · rw [if_neg hpr]
        exact iff_of_false (Option.some_ne_none _) fun h => hpr h.2.2.2.1

end HeadersFrame

end Httpbis.Solicit.Frame

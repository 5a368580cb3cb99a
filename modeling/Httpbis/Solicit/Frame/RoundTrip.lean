import Httpbis.Solicit.Frame.Data
import Httpbis.Solicit.Frame.Headers
import Httpbis.Solicit.Frame.RstStream

/-! # The frame codec laws

The three frame types the connection writes, DATA, HEADERS and RST_STREAM, side by side:
which byte strings their `from_raw` accepts without panicking, that `from_raw` reads back
what `serialize_into` wrote, and that `serialize_into` writes back what `from_raw` read.
-/

namespace Httpbis.Solicit.Frame

open Httpbis.Codec

/-- A HEADERS frame on stream 1 with the PRIORITY flag and an empty payload. Its header passes
    every check of `from_raw`, and its length field is right. -/
def shortPriorityFrame : RawFrame :=
  RawFrame.ofBytes (packHeader ⟨0, HEADERS_FRAME_TYPE, HeadersFlag.priority.bitmask, 1⟩) (by decide)

/-- DATA and RST_STREAM parse every frame whose length field is right without panicking;
    HEADERS panics on the PRIORITY frame with a short payload. -/
theorem fromRaw_total_but_short_priority :
    (∀ raw, (DataFrame.fromRaw raw).isSome) ∧
      (∀ raw, raw.header.payloadLen = raw.payload.length → (RstStreamFrame.fromRaw raw).isSome) ∧
      shortPriorityFrame.header.payloadLen = shortPriorityFrame.payload.length ∧
      HeadersFrame.fromRaw shortPriorityFrame = none :=
  ⟨DataFrame.fromRaw_isSome, RstStreamFrame.fromRaw_isSome, rfl,
    (HeadersFrame.fromRaw_eq_none _).mpr ⟨rfl, rfl, by decide, rfl, [], 0, rfl, by decide⟩⟩

/-- Decoding after encoding: a well-formed frame is read back from the bytes it writes. -/
theorem serializeInto_then_fromRaw :
    (∀ f : DataFrame, f.WellFormed → ∀ b, ∃ raw : RawFrame,
      (f.serializeInto b).bytes = b.bytes ++ raw.rawContent ∧
      DataFrame.fromRaw raw = some (.ok f) ∧ raw.header.payloadLen = raw.payload.length) ∧
    (∀ f : HeadersFrame, f.WellFormed → ∀ b, ∃ b' raw, f.serializeInto b = some b' ∧
      b'.bytes = b.bytes ++ raw.rawContent ∧
      HeadersFrame.fromRaw raw = some (.ok f) ∧ raw.header.payloadLen = raw.payload.length) ∧
    (∀ f : RstStreamFrame, f.WellFormed → ∀ b, ∃ raw : RawFrame,
      (f.serializeInto b).bytes = b.bytes ++ raw.rawContent ∧
      RstStreamFrame.fromRaw raw = some (.ok f) ∧ raw.header.payloadLen = raw.payload.length) :=
  ⟨DataFrame.fromRaw_serializeInto, HeadersFrame.fromRaw_serializeInto,
    RstStreamFrame.fromRaw_serializeInto⟩

/-- A padded DATA frame, a padded PRIORITY HEADERS frame with unknown flag bits and an
    RST_STREAM frame with an unknown error code are each read back. -/
theorem serializeInto_then_fromRaw_padded :
    (∃ raw : RawFrame, DataFrame.fromRaw raw = some (.ok ⟨0x9, 1, [1, 2], 3⟩)) ∧
    (∃ raw : RawFrame,
      HeadersFrame.fromRaw raw = some (.ok ⟨0xED, 3, [7], some ⟨2 ^ 31 - 1, 16, true⟩, 2⟩)) ∧
    (∃ raw : RawFrame, RstStreamFrame.fromRaw raw = some (.ok ⟨0xFFFF, 5, 0x40⟩)) := by
  obtain ⟨raw₁, -, h₁, -⟩ := serializeInto_then_fromRaw.1 ⟨0x9, 1, [1, 2], 3⟩
    ⟨by decide, by decide, by decide, by decide⟩ .new
  obtain ⟨-, raw₂, -, -, h₂, -⟩ := serializeInto_then_fromRaw.2.1
    ⟨0xED, 3, [7], some ⟨2 ^ 31 - 1, 16, true⟩, 2⟩
    ⟨by decide, by decide, by decide, by decide, by decide, by simp, by simp⟩ .new
  obtain ⟨raw₃, -, h₃, -⟩ := serializeInto_then_fromRaw.2.2 ⟨0xFFFF, 5, 0x40⟩
    ⟨by decide, by decide⟩ .new
  exact ⟨⟨raw₁, h₁⟩, ⟨raw₂, h₂⟩, ⟨raw₃, h₃⟩⟩

/-- Encoding after decoding: an accepted frame with a clear reserved bit and zero padding is
    written back byte for byte. -/
theorem fromRaw_then_serializeInto :
    (∀ (raw : RawFrame) (f : DataFrame), DataFrame.fromRaw raw = some (.ok f) →
      raw.ReservedBitClear →
      (isSet raw.header.flags DataFlag.padded.bitmask → ∀ b ∈ paddingBytes raw.payload, b = 0) →
      ∀ b, (f.serializeInto b).bytes = b.bytes ++ raw.rawContent) ∧
    (∀ (raw : RawFrame) (f : HeadersFrame), HeadersFrame.fromRaw raw = some (.ok f) →
      raw.ReservedBitClear →
      (isSet raw.header.flags HeadersFlag.padded.bitmask → ∀ b ∈ paddingBytes raw.payload, b = 0) →
      ∀ b, ∃ b', f.serializeInto b = some b' ∧ b'.bytes = b.bytes ++ raw.rawContent) ∧
    (∀ (raw : RawFrame) (f : RstStreamFrame), RstStreamFrame.fromRaw raw = some (.ok f) →
      raw.header.payloadLen = raw.payload.length → raw.ReservedBitClear →
      ∀ b, (f.serializeInto b).bytes = b.bytes ++ raw.rawContent) :=
  ⟨DataFrame.serializeInto_fromRaw, HeadersFrame.serializeInto_fromRaw,
    RstStreamFrame.serializeInto_fromRaw⟩

/-- A padded DATA frame, a padded PRIORITY HEADERS frame whose dependency has the `E` bit and
    an RST_STREAM frame are each written back byte for byte. -/
theorem fromRaw_then_serializeInto_padded :
    (DataFrame.serializeInto ⟨0x8, 1, [7], 1⟩ WriteBuffer.new).bytes =
      [0, 0, 3, 0, 0x8, 0, 0, 0, 1, 1, 7, 0] ∧
    (∃ b, HeadersFrame.serializeInto ⟨0x28, 1, [7], some ⟨3, 9, true⟩, 1⟩ WriteBuffer.new = some b ∧
      b.bytes = [0, 0, 8, 1, 0x28, 0, 0, 0, 1, 1, 0x80, 0, 0, 3, 9, 7, 0]) ∧
    (RstStreamFrame.serializeInto ⟨8, 1, 0⟩ WriteBuffer.new).bytes =
      [0, 0, 4, 3, 0, 0, 0, 0, 1, 0, 0, 0, 8] :=
  ⟨fromRaw_then_serializeInto.1 ⟨[0, 0, 3, 0, 0x8, 0, 0, 0, 1, 1, 7, 0], by decide⟩
      ⟨0x8, 1, [7], 1⟩ (by rfl)
      (by decide) (by decide) .new,
    fromRaw_then_serializeInto.2.1 ⟨[0, 0, 8, 1, 0x28, 0, 0, 0, 1, 1, 0x80, 0, 0, 3, 9, 7, 0],
      by decide⟩ ⟨0x28, 1, [7], some ⟨3, 9, true⟩, 1⟩ (by rfl) (by decide) (by decide) .new,
    fromRaw_then_serializeInto.2.2 ⟨[0, 0, 4, 3, 0, 0, 0, 0, 1, 0, 0, 0, 8], by decide⟩
      ⟨8, 1, 0⟩ (by rfl) rfl
      (by decide) .new⟩

end Httpbis.Solicit.Frame

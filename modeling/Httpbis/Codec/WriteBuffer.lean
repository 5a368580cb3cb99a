import Mathlib

/-! # The write buffer

`WriteBuffer` of `codec/write_buffer.rs`: a byte vector and a read position. The bytes
before `position` have already been handed to the transport; the logical content is
`data[position..]`, which `Buf::bytes` returns. `WriteBufferTailVec` borrows both fields of
the buffer, and its `remaining`, `extend_from_slice`, `reserve` and `compact` have the
bodies of the buffer's own, so the model adds only its `patch_buf`.

The model follows a debug build: a failed `assert!` or `debug_assert!`, a slice past the
end and an arithmetic overflow panic, and a panic is `none`. Capacity is not modelled:
`Vec::reserve` changes no byte.
-/

namespace Httpbis.Codec

/-- `WriteBuffer`. The field comment `must be <= data.len()` is carried as a field. -/
structure WriteBuffer where
  data : List UInt8
  position : Nat
  position_le : position ≤ data.length

namespace WriteBuffer

/-- `WriteBuffer::new`. -/
def new : WriteBuffer := ⟨[], 0, le_rfl⟩

/-- `Buf::remaining`: size of data in the buffer. -/
def remaining (b : WriteBuffer) : Nat := b.data.length - b.position

/-- `Buf::bytes`: the logical content `data[position..]`. -/
def bytes (b : WriteBuffer) : List UInt8 := b.data.drop b.position

/-- `Buf::advance`; its `assert!(cnt <= self.remaining())` panics. -/
def advance (b : WriteBuffer) (cnt : Nat) : Option WriteBuffer :=
  if h : cnt ≤ b.remaining then
    some ⟨b.data, b.position + cnt, by have := b.position_le; unfold remaining at h; omega⟩
  else none

/-- `compact`: drain the flushed prefix. -/
def compact (b : WriteBuffer) : WriteBuffer := ⟨b.data.drop b.position, 0, Nat.zero_le _⟩

/-- `reserve`: compacts when the content is shorter than `additional`. -/
def reserve (b : WriteBuffer) (additional : Nat) : WriteBuffer :=
  if b.remaining ≥ additional then b else b.compact

/-- `extend_from_slice`; `extend_from_vec`, `extend_from_bytes` and `extend_from_bytes_ref`
    call it with the same bytes. -/
def extendFromSlice (b : WriteBuffer) (data : List UInt8) : WriteBuffer :=
  let r := b.reserve data.length
  ⟨r.data ++ data, r.position, by have := r.position_le; simp; omega⟩

/-- `extend_from_vec`. -/
def extendFromVec (b : WriteBuffer) (data : List UInt8) : WriteBuffer := b.extendFromSlice data

/-- `extend_from_bytes`. -/
def extendFromBytes (b : WriteBuffer) (data : List UInt8) : WriteBuffer := b.extendFromSlice data

/-- `extend_from_bytes_ref`. -/
def extendFromBytesRef (b : WriteBuffer) (data : List UInt8) : WriteBuffer := b.extendFromSlice data

/-- `extend_from_iter`: compacts, then appends. -/
def extendFromIter (b : WriteBuffer) (iter : List UInt8) : WriteBuffer :=
  let c := b.compact
  ⟨c.data ++ iter, c.position, by simp [c, compact]⟩

/-- `Into<Vec<u8>>`. -/
def intoVec (b : WriteBuffer) : List UInt8 := b.compact.data

/-- `WriteBufferTailVec::patch_buf`: overwrite the content from `pos` on. The slice
    `data[patch_pos..patch_pos + data.len()]` panics past the end of the vector. -/
def patchBuf (b : WriteBuffer) (pos : Nat) (data : List UInt8) : Option WriteBuffer :=
  let patchPos := b.position + pos
  if h : patchPos + data.length ≤ b.data.length then
    some ⟨b.data.take patchPos ++ data ++ b.data.drop (patchPos + data.length), b.position,
      by simp; omega⟩
  else none

theorem remaining_eq (b : WriteBuffer) : b.remaining = b.bytes.length := by
  simp [remaining, bytes]

@[simp] theorem bytes_new : new.bytes = [] := rfl

@[simp] theorem bytes_compact (b : WriteBuffer) : b.compact.bytes = b.bytes := by
  simp [compact, bytes]

@[simp] theorem bytes_reserve (b : WriteBuffer) (n : Nat) : (b.reserve n).bytes = b.bytes := by
  unfold reserve; split <;> simp

@[simp] theorem bytes_extendFromSlice (b : WriteBuffer) (d : List UInt8) :
    (b.extendFromSlice d).bytes = b.bytes ++ d := by
  show ((b.reserve d.length).data ++ d).drop (b.reserve d.length).position = _
  rw [List.drop_append_of_le_length (b.reserve d.length).position_le, ← bytes, bytes_reserve]

@[simp] theorem bytes_extendFromIter (b : WriteBuffer) (d : List UInt8) :
    (b.extendFromIter d).bytes = b.bytes ++ d := by
  simp [extendFromIter, bytes, compact]

@[simp] theorem intoVec_eq (b : WriteBuffer) : b.intoVec = b.bytes := rfl

theorem advance_bytes {b b' : WriteBuffer} {cnt : Nat} (h : b.advance cnt = some b') :
    b'.bytes = b.bytes.drop cnt := by
  unfold advance at h
  split at h
  · cases h; simp [bytes, List.drop_drop, Nat.add_comm]
  · cases h

theorem advance_eq_none (b : WriteBuffer) (cnt : Nat) : b.advance cnt = none ↔ b.remaining < cnt := by
  unfold advance
  by_cases h : cnt ≤ b.remaining
  · simp only [h, dite_true, reduceCtorEq, false_iff, not_lt]
  · simp only [h, dite_false, true_iff]; omega

/-- The bytes of a patched content: `d` replaces the bytes `pos .. pos + d.length`. -/
def patch (l : List UInt8) (pos : Nat) (d : List UInt8) : List UInt8 :=
  l.take pos ++ d ++ l.drop (pos + d.length)

private theorem patch_after (pre rest d : List UInt8) (pos : Nat) :
    ((pre ++ rest).take (pre.length + pos) ++ d ++
      (pre ++ rest).drop (pre.length + pos + d.length)).drop pre.length = patch rest pos d := by
  rw [List.take_append, Nat.add_assoc, List.drop_append, List.append_assoc, List.append_assoc,
    List.drop_left, patch, List.append_assoc]

theorem patchBuf_spec (b : WriteBuffer) (pos : Nat) (d : List UInt8)
    (h : pos + d.length ≤ b.remaining) :
    ∃ b', b.patchBuf pos d = some b' ∧ b'.bytes = patch b.bytes pos d := by
  have hp := b.position_le
  unfold remaining at h
  refine ⟨_, dif_pos (by omega), ?_⟩
  have key := patch_after (b.data.take b.position) (b.data.drop b.position) d pos
  rwa [List.take_append_drop, List.length_take_of_le hp] at key

theorem patchBuf_eq_none (b : WriteBuffer) (pos : Nat) (d : List UInt8) :
    b.patchBuf pos d = none ↔ b.remaining < pos + d.length := by
  have := b.position_le
  unfold patchBuf remaining
  by_cases h : b.position + pos + d.length ≤ b.data.length
  · simp only [h, dite_true, reduceCtorEq, false_iff, not_lt]; omega
  · simp only [h, dite_false, true_iff]; omega

/-- Patching the stretch just written over with bytes of the same length. -/
theorem patch_middle (pre mid post d : List UInt8) (h : d.length = mid.length) :
    patch (pre ++ mid ++ post) pre.length d = pre ++ d ++ post := by
  simp [patch, h, List.drop_append_eq_append_drop, List.take_append_eq_append_take]

end WriteBuffer

/-! ## The buffer is a byte queue -/

/-- The operations of a run: on the buffer, and through `tail_vec()`, whose `remaining`,
    `extend_from_slice` and `reserve` have the buffer's bodies. -/
inductive WriteBufferOp where
  | extendFromSlice (data : List UInt8)
  | extendFromVec (data : List UInt8)
  | extendFromBytes (data : List UInt8)
  | extendFromBytesRef (data : List UInt8)
  | extendFromIter (iter : List UInt8)
  | reserve (additional : Nat)
  | advance (cnt : Nat)
  | compact
  | patchBuf (pos : Nat) (data : List UInt8)
  deriving DecidableEq, Repr

namespace WriteBufferOp

/-- One operation on the buffer; `none` is a panic. -/
def apply (b : WriteBuffer) : WriteBufferOp → Option WriteBuffer
  | .extendFromSlice data => some (b.extendFromSlice data)
  | .extendFromVec data => some (b.extendFromVec data)
  | .extendFromBytes data => some (b.extendFromBytes data)
  | .extendFromBytesRef data => some (b.extendFromBytesRef data)
  | .extendFromIter iter => some (b.extendFromIter iter)
  | .reserve additional => some (b.reserve additional)
  | .advance cnt => b.advance cnt
  | .compact => some b.compact
  | .patchBuf pos data => b.patchBuf pos data

/-- What the operation does to a plain byte queue: extends append, `advance` drops a prefix,
    `reserve` and `compact` change nothing, `patch_buf` overwrites a stretch; `none` where
    `advance` or `patch_buf` reaches past the end. -/
def applyQueue (q : List UInt8) : WriteBufferOp → Option (List UInt8)
  | .extendFromSlice data | .extendFromVec data | .extendFromBytes data
  | .extendFromBytesRef data | .extendFromIter data => some (q ++ data)
  | .reserve _ | .compact => some q
  | .advance cnt => if cnt ≤ q.length then some (q.drop cnt) else none
  | .patchBuf pos data =>
      if pos + data.length ≤ q.length then some (WriteBuffer.patch q pos data) else none

/-- The operations that only append to the content: extends, `reserve` and `compact`. -/
def appendsOnly : WriteBufferOp → Bool
  | .advance _ | .patchBuf _ _ => false
  | _ => true

/-- Each operation commutes with `bytes`: the buffer panics exactly where the queue's operation
    is out of range, and otherwise holds the queue's content. -/
theorem apply_bytes (b : WriteBuffer) (op : WriteBufferOp) :
    (op.apply b).map WriteBuffer.bytes = op.applyQueue b.bytes := by
  cases op with
  | advance cnt =>
      simp only [apply, applyQueue, ← WriteBuffer.remaining_eq]
      by_cases h : cnt ≤ b.remaining
      · obtain ⟨b', hb'⟩ := Option.ne_none_iff_exists'.mp
          (mt (WriteBuffer.advance_eq_none b cnt).mp (not_lt.mpr h))
        rw [hb', if_pos h, Option.map_some', WriteBuffer.advance_bytes hb']
      · rw [(WriteBuffer.advance_eq_none b cnt).mpr (not_le.mp h), if_neg h, Option.map_none']
  | patchBuf pos data =>
      simp only [apply, applyQueue, ← WriteBuffer.remaining_eq]
      by_cases h : pos + data.length ≤ b.remaining
      · obtain ⟨b', hb', hbytes⟩ := WriteBuffer.patchBuf_spec b pos data h
        rw [hb', if_pos h, Option.map_some', hbytes]
      · rw [(WriteBuffer.patchBuf_eq_none b pos data).mpr (not_le.mp h), if_neg h, Option.map_none']
  | _ => simp [apply, applyQueue, WriteBuffer.extendFromVec, WriteBuffer.extendFromBytes,
      WriteBuffer.extendFromBytesRef]

end WriteBufferOp

/-- A run of the buffer. -/
def WriteBuffer.run (b : WriteBuffer) : List WriteBufferOp → Option WriteBuffer
  | [] => some b
  | op :: ops => (op.apply b).bind (run · ops)

/-- A run of the byte queue. -/
def runQueue (q : List UInt8) : List WriteBufferOp → Option (List UInt8)
  | [] => some q
  | op :: ops => (op.applyQueue q).bind (runQueue · ops)

theorem runQueue_append (q : List UInt8) (ops ops' : List WriteBufferOp) :
    runQueue q (ops ++ ops') = (runQueue q ops).bind (runQueue · ops') := by
  induction ops generalizing q with
  | nil => rfl
  | cons op ops ih =>
      simp only [List.cons_append, runQueue]
      cases op.applyQueue q with
      | none => rfl
      | some q' => exact ih q'

/-- Every run of the buffer is a run of the byte queue on its content. -/
theorem WriteBuffer.run_bytes (b : WriteBuffer) (ops : List WriteBufferOp) :
    (b.run ops).map bytes = runQueue b.bytes ops := by
  induction ops generalizing b with
  | nil => rfl
  | cons op ops ih =>
      rw [run, runQueue, ← WriteBufferOp.apply_bytes]
      cases op.apply b with
      | none => rfl
      | some b' => exact ih b'

/-- Operations that only append extend the queue by bytes that do not depend on it. -/
theorem runQueue_appendsOnly (ops : List WriteBufferOp)
    (h : ∀ op ∈ ops, op.appendsOnly = true) :
    ∃ rest, ∀ q, runQueue q ops = some (q ++ rest) := by
  induction ops with
  | nil => exact ⟨[], fun q => by simp [runQueue]⟩
  | cons op ops ih =>
      obtain ⟨rest, hrest⟩ := ih fun op' h' => h op' (List.mem_cons_of_mem _ h')
      have hop := h op (List.mem_cons_self _ _)
      cases op with
      | advance _ | patchBuf _ _ => cases hop
      | reserve _ | compact => exact ⟨rest, fun q => by simp [runQueue, WriteBufferOp.applyQueue, hrest]⟩
      | extendFromSlice data | extendFromVec data | extendFromBytes data | extendFromBytesRef data
      | extendFromIter data =>
          exact ⟨data ++ rest, fun q => by simp [runQueue, WriteBufferOp.applyQueue, hrest]⟩

/-- Over every sequence of operations the buffer is a byte queue on `data[position..]`, which
    `remaining` measures and `Into<Vec<u8>>` returns; `position <= data.len()` is a field of
    every buffer. An offset taken as `remaining()` before an extend designates the extended
    bytes through any later appends, compactions included, so `patch_buf` at that offset
    overwrites exactly them: the back-patching of `finish_frame`. -/
theorem run_refines_byte_queue :
    (∀ (b : WriteBuffer) (ops : List WriteBufferOp),
      (b.run ops).map WriteBuffer.bytes = runQueue b.bytes ops) ∧
    (∀ b : WriteBuffer, b.remaining = b.bytes.length ∧ b.intoVec = b.bytes) ∧
    ∀ (b : WriteBuffer) (d d' : List UInt8) (ops : List WriteBufferOp),
      (∀ op ∈ ops, op.appendsOnly = true) → d'.length = d.length →
      ∃ rest, (b.run (.extendFromSlice d :: ops)).map WriteBuffer.bytes = some (b.bytes ++ d ++ rest) ∧
        (b.run (.extendFromSlice d :: ops ++ [.patchBuf b.remaining d'])).map WriteBuffer.bytes =
          some (b.bytes ++ d' ++ rest) := by
  refine ⟨WriteBuffer.run_bytes, fun b => ⟨b.remaining_eq, b.intoVec_eq⟩, ?_⟩
  intro b d d' ops hops hlen
  obtain ⟨rest, hrest⟩ := runQueue_appendsOnly ops hops
  have hrun : runQueue b.bytes (.extendFromSlice d :: ops) = some (b.bytes ++ d ++ rest) :=
    hrest (b.bytes ++ d)
  refine ⟨rest, by rw [WriteBuffer.run_bytes, hrun], ?_⟩
  rw [WriteBuffer.run_bytes, runQueue_append, hrun, Option.some_bind, b.remaining_eq]
  simp only [runQueue, WriteBufferOp.applyQueue, List.length_append, hlen]
  rw [if_pos (by omega), Option.some_bind, WriteBuffer.patch_middle _ _ _ _ hlen]

/-- A buffer that has handed two of its three bytes to the transport takes a two-byte
    placeholder, which compacts it, and one more byte; the placeholder is then patched. -/
theorem run_refines_byte_queue_compacting :
    (∀ op ∈ [WriteBufferOp.extendFromSlice [7]], op.appendsOnly = true) ∧
      [9, 9].length = [0, 0].length ∧
      ∃ rest, ((⟨[1, 2, 3], 2, by decide⟩ : WriteBuffer).run
          (.extendFromSlice [0, 0] :: [.extendFromSlice [7]])).map WriteBuffer.bytes =
            some ((⟨[1, 2, 3], 2, by decide⟩ : WriteBuffer).bytes ++ [0, 0] ++ rest) ∧
        ((⟨[1, 2, 3], 2, by decide⟩ : WriteBuffer).run (.extendFromSlice [0, 0] :: [.extendFromSlice [7]] ++
            [.patchBuf (⟨[1, 2, 3], 2, by decide⟩ : WriteBuffer).remaining [9, 9]])).map WriteBuffer.bytes =
          some ((⟨[1, 2, 3], 2, by decide⟩ : WriteBuffer).bytes ++ [9, 9] ++ rest) :=
  ⟨by decide, rfl, run_refines_byte_queue.2.2 _ [0, 0] [9, 9] [.extendFromSlice [7]] (by decide) rfl⟩

end Httpbis.Codec

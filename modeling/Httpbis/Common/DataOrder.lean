import Httpbis.Common.WriteLoop

/-! # Each stream's data, in order

What the buffering pass does to a stream's data: `pop_outg` takes the front of the stream's
queue and `write_part_data` cuts it into DATA frames on that stream. The DATA payload queued on a
stream followed by the data it still holds is the stream's data so far. With no GOAWAY queued, a
pass of `buffer_outg_conn`, and so `poll_flush`, leaves it as it was for every stream still in
the map, and only cuts it short for a stream it drops: data leaves in order, each byte once,
on its own stream.
-/

namespace Httpbis.Common

open Httpbis.Solicit.Frame

/-- The DATA payload of a frame on `streamId`. -/
def HttpFrame.dataOn (streamId : Nat) : HttpFrame → List UInt8
  | .data f => if f.streamId = streamId then f.data else []
  | _ => []

/-- The DATA payload bytes queued on `streamId`, in queue order. -/
def queuedData (streamId : Nat) (fs : List HttpFrame) : List UInt8 :=
  (fs.map (HttpFrame.dataOn streamId)).flatten

@[simp] theorem queuedData_append (streamId : Nat) (fs gs : List HttpFrame) :
    queuedData streamId (fs ++ gs) = queuedData streamId fs ++ queuedData streamId gs := by
  simp [queuedData]

theorem queuedData_map_data {fs : List DataFrame} {streamId : Nat}
    (h : ∀ f ∈ fs, f.streamId = streamId) (k : Nat) :
    queuedData k (fs.map .data) = if k = streamId then (fs.map DataFrame.data).flatten else [] := by
  induction fs with
  | nil => simp [queuedData]
  | cons f fs ih =>
      rw [List.forall_mem_cons] at h
      have hk := ih h.2
      simp only [queuedData] at hk ⊢
      rw [List.map_cons, List.map_cons, List.flatten_cons, hk, HttpFrame.dataOn, h.1]
      by_cases hks : k = streamId
      · subst hks; simp
      · simp [hks, Ne.symm hks]

namespace Conn

/-- The data of stream `streamId`: its DATA payload in the queue, then the data it still
    holds. -/
def dataOf (c : Conn) (streamId : Nat) : List UInt8 :=
  queuedData streamId c.queuedWrite.frames ++
    ((c.streams.get streamId).map HttpStreamCommon.pendingData).getD []

/-- The number of DATA payload bytes queued on stream `streamId`. -/
def queuedOn (c : Conn) (streamId : Nat) : Nat := (queuedData streamId c.queuedWrite.frames).length

/-- `write_part` queues the part's data on its stream, and none on any other. -/
theorem writePart_queuedData {c c' : Conn} {fuel streamId : Nat} {part : HttpStreamCommand}
    (h : c.writePart fuel streamId part = some c') :
    ∃ fs, c' = c.withQueue (c.queuedWrite.queueAll fs) ∧
      ∀ k, queuedData k fs = if k = streamId then part.dataBytes else [] := by
  cases part with
  | data d es =>
      simp only [writePart, writePartData] at h
      split_ifs at h with hempty
      · cases h
        obtain rfl := List.eq_nil_of_length_eq_zero hempty.2
        exact ⟨[_], rfl, fun k => by simp [queuedData, HttpFrame.dataOn, HttpStreamCommand.dataBytes]⟩
      · obtain ⟨q', hloop, rfl⟩ := Option.map_eq_some'.mp h
        obtain ⟨fs, rfl, hcat, hon⟩ := writePartDataLoop_data hloop
        refine ⟨fs.map .data, by rw [queueData_eq_queueAll], fun k => ?_⟩
        rw [queuedData_map_data (fun f hf => (hon f hf).1), hcat, List.drop_zero]; rfl
  | headers hs es =>
      cases h
      exact ⟨[_], rfl, fun k => by simp [queuedData, HttpFrame.dataOn, HttpStreamCommand.dataBytes]⟩
  | rst code =>
      cases h
      exact ⟨[_], rfl, fun k => by simp [queuedData, HttpFrame.dataOn, HttpStreamCommand.dataBytes]⟩

/-- What a pass keeps of every stream's data: the GOAWAY flag; each stream's data only loses a
    tail; and a stream still in the map was in it before, with the same data. -/
structure DataKept (c c' : Conn) : Prop where
  goaway : c'.queuedWrite.goawayQueued = c.queuedWrite.goawayQueued
  prefix_ : ∀ k, c'.dataOf k <+: c.dataOf k
  present : ∀ k, (c'.streams.get k).isSome = true →
    (c.streams.get k).isSome = true ∧ c'.dataOf k = c.dataOf k

theorem DataKept.refl (c : Conn) : DataKept c c :=
  ⟨rfl, fun _ => List.prefix_refl _, fun _ h => ⟨h, rfl⟩⟩

theorem DataKept.trans {c₁ c₂ c₃ : Conn} (h₁ : DataKept c₁ c₂) (h₂ : DataKept c₂ c₃) :
    DataKept c₁ c₃ :=
  ⟨h₂.goaway.trans h₁.goaway, fun k => (h₂.prefix_ k).trans (h₁.prefix_ k), fun k h =>
    let ⟨h', e₂⟩ := h₂.present k h
    let ⟨h'', e₁⟩ := h₁.present k h'
    ⟨h'', e₂.trans e₁⟩⟩

theorem dataKept_poll (c : Conn) (accepted : Nat) :
    DataKept c (c.withQueue (c.queuedWrite.poll accepted)) :=
  ⟨rfl, fun _ => List.prefix_refl _, fun _ h => ⟨h, rfl⟩⟩

/-- One part write on stream `j`, with no GOAWAY queued: what `pop_outg` did to stream `j`,
    the map it left, and the part's data queued on `j` behind what was queued before. -/
theorem partWrite_queuedData_spec {fuel j : Nat} {c c₁ c₂ : Conn} {command : HttpStreamCommand}
    {cont : Bool} (hg : c.queuedWrite.goawayQueued = false)
    (hpop : c.popOutgForStream j = some (some (j, command, cont), c₁))
    (hwrite : c₁.writePart fuel j command = some c₂) :
    ∃ s s' w, c.streams.get j = some s ∧ s.popOutg c.outWindowSize = some (command, s', w) ∧
      c₂.streams.get j = (if cont then some s' else none) ∧
      (∀ k, k ≠ j → c₂.streams.get k = c.streams.get k) ∧ c₂.queuedWrite.goawayQueued = false ∧
      ∀ k, queuedData k c₂.queuedWrite.frames =
        queuedData k c.queuedWrite.frames ++ if k = j then command.dataBytes else [] := by
  obtain ⟨s, hs, ⟨hr, -⟩ | ⟨command', s', w, cont', m, hp, hr, hc₁, hmj, hmk⟩⟩ :=
    popOutgForStream_some hpop
  · cases hr
  obtain ⟨-, rfl, rfl⟩ : j = j ∧ command = command' ∧ cont = cont' := by simpa using hr
  obtain ⟨fs, hc₂, hfs⟩ := writePart_queuedData hwrite
  have hget : ∀ k, c₂.streams.get k = m.get k := fun k => by rw [hc₂, hc₁]; rfl
  have hq : c₂.queuedWrite = c.queuedWrite.queueAll fs := by rw [hc₂, hc₁]; rfl
  refine ⟨s, s', w, hs, hp, (hget j).trans hmj, fun k hk => (hget k).trans (hmk k hk), ?_,
    fun k => ?_⟩
  · rw [hq, QueuedWrite.queueAll_goawayQueued, hg]
  · rw [hq, QueuedWrite.queueAll_frames, hg, if_neg Bool.false_ne_true, queuedData_append, hfs]

/-- One part write, with no GOAWAY queued: the popped data moves from the front of the stream to
    DATA frames on it, and a stream that is dropped keeps what it queued. -/
theorem dataKept_partWrite {fuel j : Nat} {c c₁ c₂ : Conn} {command : HttpStreamCommand}
    {cont : Bool} (hg : c.queuedWrite.goawayQueued = false)
    (hpop : c.popOutgForStream j = some (some (j, command, cont), c₁))
    (hwrite : c₁.writePart fuel j command = some c₂) : DataKept c c₂ := by
  obtain ⟨s, s', w, hs, hp, hmj, hmk, hg₂, hq⟩ := partWrite_queuedData_spec hg hpop hwrite
  have hdata := HttpStreamCommon.popOutg_pendingData hp
  have hdataOf : ∀ k, c₂.dataOf k = queuedData k c.queuedWrite.frames ++
      ((if k = j then command.dataBytes else []) ++
        ((c₂.streams.get k).map HttpStreamCommon.pendingData).getD []) :=
    fun k => by rw [dataOf, hq, List.append_assoc]
  have hsame : ∀ k, k ≠ j → c₂.dataOf k = c.dataOf k :=
    fun k hkj => by rw [hdataOf, if_neg hkj, hmk k hkj, List.nil_append]; rfl
  refine ⟨hg₂.trans hg.symm, fun k => ?_, fun k hk => ?_⟩
  · by_cases hkj : k = j
    · subst hkj
      rw [hdataOf, if_pos rfl, hmj, dataOf, hs, Option.map_some', Option.getD_some, ← hdata]
      cases cont <;> simp
    · rw [hsame k hkj]
  · by_cases hkj : k = j
    · subst hkj
      rw [hmj] at hk
      cases cont
      · simp at hk
      · rw [hdataOf, if_pos rfl, hmj, dataOf, hs, Option.map_some', Option.getD_some, ← hdata]
        simp
    · rw [hmk k hkj] at hk
      exact ⟨hk, hsame k hkj⟩

theorem dataKept_bufferOutgConn {fuel : Nat} {c c' : Conn} {updated : Bool}
    (hg : c.queuedWrite.goawayQueued = false) (h : c.bufferOutgConn fuel = some (c', updated)) :
    DataKept c c' :=
  bufferOutgConn_induction (DataKept c) (fun _ _ _ _ _ _ hc _ hpop hwrite =>
    hc.trans (dataKept_partWrite (hc.goaway.trans hg) hpop hwrite)) (.refl c) h

/-- With no GOAWAY queued, `poll_flush` moves each stream's data into DATA frames on that
    stream in order, each byte once: for a stream still in the map, the DATA payload queued on
    it followed by the data it holds is what it was before, and for any stream it is a prefix
    of what it was. -/
theorem pollFlush_keeps_stream_data {fuel : Nat} {accepted : List Nat} {c c' : Conn}
    (hg : c.queuedWrite.goawayQueued = false) (h : pollFlush fuel accepted c = some c')
    (streamId : Nat) :
    c'.dataOf streamId <+: c.dataOf streamId ∧
      ((c'.streams.get streamId).isSome = true → c'.dataOf streamId = c.dataOf streamId) := by
  have hkept := pollFlush_induction (DataKept c)
    (fun _ _ _ hc h => hc.trans (dataKept_bufferOutgConn (hc.goaway.trans hg) h))
    (fun _ n hc => hc.trans (dataKept_poll _ n)) (.refl c) h
  exact ⟨hkept.prefix_ streamId, fun hs => (hkept.present streamId hs).2⟩

/-- A stream holding three bytes: the first pass queues them in one DATA frame, the next finds
    nothing to send. -/
theorem pollFlush_keeps_stream_data_one_stream :
    let c : Conn := ⟨(StreamMap.empty.insert 1
      { HttpStreamCommon.new 65535 .initial with outgoing := [.data [1, 2, 3]] }).2,
      65535, 65535, .new, ⟨16384, 65535⟩, fun _ => [], 3, 0⟩
    c.queuedWrite.goawayQueued = false ∧ ∃ c', pollFlush 2 [0] c = some c' ∧
      (c'.dataOf 1 <+: c.dataOf 1 ∧ ((c'.streams.get 1).isSome = true → c'.dataOf 1 = c.dataOf 1)) := by
  intro c
  obtain ⟨c', h⟩ := Option.isSome_iff_exists.mp (show (pollFlush 2 [0] c).isSome = true by decide)
  exact ⟨rfl, c', h, pollFlush_keeps_stream_data rfl h 1⟩

/-! ## Each stream's send window -/

/-- What a pass keeps of every stream's send window: the GOAWAY flag; a stream not in the map
    stays out and gets no DATA; DATA queued on a stream whose window was not negative is paid
    from that window; and a stream in the map was in it before, with its window lowered by
    exactly the DATA queued on it, and not negative if it was not. -/
structure WindowKept (c c' : Conn) : Prop where
  goaway : c'.queuedWrite.goawayQueued = c.queuedWrite.goawayQueued
  absent : ∀ k, c.streams.get k = none → c'.streams.get k = none ∧ c'.queuedOn k = c.queuedOn k
  paid : ∀ k s, c.streams.get k = some s → 0 ≤ s.outWindowSize →
    (c'.queuedOn k : Int) ≤ c.queuedOn k + s.outWindowSize
  present : ∀ k s', c'.streams.get k = some s' → ∃ s, c.streams.get k = some s ∧
    (c'.queuedOn k : Int) + s'.outWindowSize = c.queuedOn k + s.outWindowSize ∧
    (0 ≤ s.outWindowSize → 0 ≤ s'.outWindowSize)

theorem WindowKept.refl (c : Conn) : WindowKept c c :=
  ⟨rfl, fun _ h => ⟨h, rfl⟩, fun _ _ _ hw => Int.le_add_of_nonneg_right hw,
    fun _ s h => ⟨s, h, rfl, id⟩⟩

theorem WindowKept.trans {c₁ c₂ c₃ : Conn} (h₁ : WindowKept c₁ c₂) (h₂ : WindowKept c₂ c₃) :
    WindowKept c₁ c₃ := by
  refine ⟨h₂.goaway.trans h₁.goaway, fun k hk => ?_, fun k s hs hw => ?_, fun k s₃ hs₃ => ?_⟩
  · obtain ⟨hk₂, hq₂⟩ := h₁.absent k hk
    obtain ⟨hk₃, hq₃⟩ := h₂.absent k hk₂
    exact ⟨hk₃, hq₃.trans hq₂⟩
  · have hpaid := h₁.paid k s hs hw
    rcases hs₂ : c₂.streams.get k with _ | s₂
    · rw [(h₂.absent k hs₂).2]; exact hpaid
    · obtain ⟨s₁, hs₁, heq, hnn⟩ := h₁.present k s₂ hs₂
      obtain rfl : s₁ = s := Option.some.inj (hs₁.symm.trans hs)
      have := h₂.paid k s₂ hs₂ (hnn hw)
      omega
  · obtain ⟨s₂, hs₂, e₂, n₂⟩ := h₂.present k s₃ hs₃
    obtain ⟨s₁, hs₁, e₁, n₁⟩ := h₁.present k s₂ hs₂
    exact ⟨s₁, hs₁, by omega, n₂ ∘ n₁⟩

theorem windowKept_poll (c : Conn) (accepted : Nat) :
    WindowKept c (c.withQueue (c.queuedWrite.poll accepted)) :=
  ⟨rfl, fun _ h => ⟨h, rfl⟩, fun _ _ _ hw => Int.le_add_of_nonneg_right hw,
    fun _ s h => ⟨s, h, rfl, id⟩⟩

/-- One part write, with no GOAWAY queued: the data popped from stream `j` is paid from its
    window and queued on `j`, and no other stream changes. -/
theorem windowKept_partWrite {fuel j : Nat} {c c₁ c₂ : Conn} {command : HttpStreamCommand}
    {cont : Bool} (hg : c.queuedWrite.goawayQueued = false)
    (hpop : c.popOutgForStream j = some (some (j, command, cont), c₁))
    (hwrite : c₁.writePart fuel j command = some c₂) : WindowKept c c₂ := by
  obtain ⟨s, s', w, hs, hp, hmj, hmk, hg₂, hq⟩ := partWrite_queuedData_spec hg hpop hwrite
  have hw := HttpStreamCommon.popOutg_outWindowSize hp
  have hnn := HttpStreamCommon.popOutg_outWindowSize_nonneg hp
  have hlen : ∀ k, c₂.queuedOn k = c.queuedOn k + if k = j then command.dataLen else 0 := fun k => by
    simp only [queuedOn, hq, List.length_append]
    split
    · rw [HttpStreamCommand.length_dataBytes]
    · rfl
  refine ⟨hg₂.trans hg.symm, fun k hk => ?_, fun k s₀ hs₀ hw₀ => ?_, fun k s₂ hs₂ => ?_⟩
  · have hkj : k ≠ j := by rintro rfl; rw [hs] at hk; cases hk
    exact ⟨(hmk k hkj).trans hk, by rw [hlen, if_neg hkj, Nat.add_zero]⟩
  · by_cases hkj : k = j
    · subst hkj
      obtain rfl : s₀ = s := Option.some.inj (hs₀.symm.trans hs)
      have := hnn hw₀
      rw [hlen, if_pos rfl]
      push_cast
      omega
    · rw [hlen, if_neg hkj, Nat.add_zero]
      omega
  · by_cases hkj : k = j
    · subst hkj
      rw [hmj] at hs₂
      cases cont
      · cases hs₂
      · cases hs₂
        refine ⟨s, hs, ?_, hnn⟩
        rw [hlen, if_pos rfl, hw]
        push_cast
        omega
    · rw [hmk k hkj] at hs₂
      exact ⟨s₂, hs₂, by rw [hlen, if_neg hkj, Nat.add_zero], id⟩

theorem windowKept_bufferOutgConn {fuel : Nat} {c c' : Conn} {updated : Bool}
    (hg : c.queuedWrite.goawayQueued = false) (h : c.bufferOutgConn fuel = some (c', updated)) :
    WindowKept c c' :=
  bufferOutgConn_induction (WindowKept c) (fun _ _ _ _ _ _ hc _ hpop hwrite =>
    hc.trans (windowKept_partWrite (hc.goaway.trans hg) hpop hwrite)) (.refl c) h

/-- With no GOAWAY queued, `poll_flush` pays for the DATA it queues on each stream from that
    stream's send window: a stream whose window was not negative gets no more DATA than the
    window held, and if it is still in the map its window went down by exactly the DATA queued
    on it and is not negative. -/
theorem pollFlush_within_stream_window {fuel : Nat} {accepted : List Nat} {c c' : Conn}
    (hg : c.queuedWrite.goawayQueued = false) (h : pollFlush fuel accepted c = some c')
    {streamId : Nat} {s : HttpStreamCommon} (hs : c.streams.get streamId = some s)
    (hw : 0 ≤ s.outWindowSize) :
    (c'.queuedOn streamId : Int) - c.queuedOn streamId ≤ s.outWindowSize ∧
      ∀ s', c'.streams.get streamId = some s' →
        (c'.queuedOn streamId : Int) - c.queuedOn streamId = s.outWindowSize - s'.outWindowSize ∧
          0 ≤ s'.outWindowSize := by
  have hkept := pollFlush_induction (WindowKept c)
    (fun _ _ _ hc h => hc.trans (windowKept_bufferOutgConn (hc.goaway.trans hg) h))
    (fun _ n hc => hc.trans (windowKept_poll _ n)) (.refl c) h
  refine ⟨by have := hkept.paid streamId s hs hw; omega, fun s' hs' => ?_⟩
  obtain ⟨s₀, hs₀, heq, hnn⟩ := hkept.present streamId s' hs'
  obtain rfl : s₀ = s := Option.some.inj (hs₀.symm.trans hs)
  exact ⟨by omega, hnn hw⟩

/-- A stream with a window of two holding three bytes: `poll_flush` queues two of them and
    leaves the stream with a window of zero. -/
theorem pollFlush_within_stream_window_two :
    let s : HttpStreamCommon := { HttpStreamCommon.new 2 .initial with outgoing := [.data [1, 2, 3]] }
    let c : Conn := ⟨(StreamMap.empty.insert 1 s).2, 65535, 65535, .new, ⟨16384, 65535⟩,
      fun _ => [], 3, 0⟩
    c.queuedWrite.goawayQueued = false ∧ c.streams.get 1 = some s ∧ 0 ≤ s.outWindowSize ∧
      ∃ c', pollFlush 3 [0] c = some c' ∧
        ((c'.queuedOn 1 : Int) - c.queuedOn 1 ≤ s.outWindowSize ∧
          ∀ s', c'.streams.get 1 = some s' →
            (c'.queuedOn 1 : Int) - c.queuedOn 1 = s.outWindowSize - s'.outWindowSize ∧
              0 ≤ s'.outWindowSize) := by
  intro s c
  obtain ⟨c', h⟩ := Option.isSome_iff_exists.mp (show (pollFlush 3 [0] c).isSome = true by decide)
  exact ⟨rfl, rfl, by decide, c', h, pollFlush_within_stream_window rfl h rfl (by decide)⟩

end Conn

end Httpbis.Common

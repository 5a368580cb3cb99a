import Httpbis.Common.ConnWrite

/-! # The buffering pass, part by part

`buffer_outg_conn` is a sequence of part writes: each checks `has_write_buffer_capacity`, pops
one part of one stream with `pop_outg_for_stream` and hands it to `write_part`. The lemmas here
say once what `pop_outg_for_stream` does, and turn a property kept by every gated part write
into a property of the whole pass.

`PopTrace` lists the calls of `pop_outg_for_stream` a pass makes. Since the ids of
`writable_stream_ids` are distinct ids of streams in the map, and a call changes only its own
stream, every call finds its stream: a pass that does not end is one whose fuel ran out, never
an `unwrap` on a missing stream, and no stream is popped after it left the map.
-/

namespace Httpbis.Common

namespace LoopExit

/-- The connection the inner loop leaves with. -/
def conn : LoopExit → Conn
  | .ret c _ => c
  | .brk c _ => c

end LoopExit

namespace Conn

/-- Everything `pop_outg_for_stream` can do: leave the connection as it is when the stream has
    nothing to hand out, or pop a part, take the data from the connection window, and keep the
    stream (`cont`) or remove it once it is closed. -/
theorem popOutgForStream_some {c c₁ : Conn} {streamId : Nat}
    {r : Option (Nat × HttpStreamCommand × Bool)} (h : c.popOutgForStream streamId = some (r, c₁)) :
    ∃ s, c.streams.get streamId = some s ∧
      ((r = none ∧ c₁ = c ∧ s.popOutg c.outWindowSize = none) ∨
       ∃ command s' w cont m, s.popOutg c.outWindowSize = some (command, s', w) ∧
         r = some (streamId, command, cont) ∧ c₁ = { c with streams := m, outWindowSize := w } ∧
         m.get streamId = (if cont then some s' else none) ∧
         ∀ k, k ≠ streamId → m.get k = c.streams.get k) := by
  unfold popOutgForStream at h
  rcases hget : c.streams.get streamId with _ | s
  · simp [hget] at h
  simp only [hget] at h
  refine ⟨s, rfl, ?_⟩
  rcases hpop : s.popOutg c.outWindowSize with _ | ⟨command, s', w⟩
  · simp only [hpop, Option.some.injEq, Prod.mk.injEq] at h
    exact .inl ⟨h.1.symm, h.2.symm, rfl⟩
  simp only [hpop] at h
  refine .inr ⟨command, s', w, !s'.isClosed, ?_⟩
  split_ifs at h with hc <;> simp only [Option.some.injEq, Prod.mk.injEq] at h <;>
    obtain ⟨rfl, rfl⟩ := h
  · exact ⟨_, rfl, by simp [hc], rfl, by simp [StreamMap.get_remove, hc],
      fun k hk => by simp [StreamMap.get_remove, hk]⟩
  · exact ⟨_, rfl, by simp [hc], rfl, by simp [StreamMap.get_update, hget, hc],
      fun k hk => by simp [StreamMap.get_update, hk]⟩

/-- Everything one part write of a pass does: pop `command` from stream `j` and take its data
    from the connection window, keep the stream or drop it, and queue the part's frames, all on
    `j`: none only for an empty data part, one HEADERS frame for a header block. -/
theorem partWrite_spec {fuel j : Nat} {c c₁ c₂ : Conn} {command : HttpStreamCommand} {cont : Bool}
    (hpop : c.popOutgForStream j = some (some (j, command, cont), c₁))
    (hwrite : c₁.writePart fuel j command = some c₂) :
    ∃ sj s' w m fs, c.streams.get j = some sj ∧ sj.popOutg c.outWindowSize = some (command, s', w) ∧
      m.get j = (if cont then some s' else none) ∧ (∀ k, k ≠ j → m.get k = c.streams.get k) ∧
      c₂ = { c with streams := m, outWindowSize := w, queuedWrite := c.queuedWrite.queueAll fs } ∧
      (∀ f ∈ fs, f.partStreamId = some j) ∧ (fs = [] → command = .data [] .no) ∧
      (∀ hs es, command = .headers hs es → ∃ f, fs = [.headers f]) := by
  obtain ⟨sj, hsj, ⟨hr, -⟩ | ⟨command', s', w, cont', m, hp, hr, rfl, hmj, hmk⟩⟩ :=
    popOutgForStream_some hpop
  · cases hr
  obtain ⟨-, rfl, rfl⟩ : j = j ∧ command = command' ∧ cont = cont' := by simpa using hr
  obtain ⟨fs, rfl, hon, hnil, hhead⟩ := writePart_eq hwrite
  exact ⟨sj, s', w, m, fs, hsj, hp, hmj, hmk, rfl, hon, hnil, hhead⟩

theorem popOutgForStream_eq_none {c : Conn} {streamId : Nat} :
    c.popOutgForStream streamId = none ↔ c.streams.get streamId = none := by
  unfold popOutgForStream
  cases c.streams.get streamId with
  | none => simp
  | some s =>
      simp only [reduceCtorEq, iff_false]
      split
      · simp
      · split <;> simp

/-- Everything one round of the inner loop can do: return at the watermark, panic on a stream
    not in the map, move on when the stream hands out nothing, or pop a part and write it, then
    go on with the stream while it stays in the map. -/
theorem bufferStream_succ_cases {fuel streamId n : Nat} {c : Conn} {updated : Bool}
    {r : Option LoopExit} (h : bufferStream fuel streamId (n + 1) c updated = r) :
    (c.hasWriteBufferCapacity = false ∧ r = some (.ret c updated)) ∨
    (c.hasWriteBufferCapacity = true ∧ c.streams.get streamId = none ∧ r = none) ∨
    (c.hasWriteBufferCapacity = true ∧ c.popOutgForStream streamId = some (none, c) ∧
      r = some (.brk c updated)) ∨
    ∃ command cont c₁, c.hasWriteBufferCapacity = true ∧
      c.popOutgForStream streamId = some (some (streamId, command, cont), c₁) ∧
      ((c₁.writePart fuel streamId command = none ∧ r = none) ∨
        ∃ c₂, c₁.writePart fuel streamId command = some c₂ ∧
          r = if cont then bufferStream fuel streamId n c₂ true else some (.brk c₂ true)) := by
  simp only [bufferStream] at h
  cases hcap : c.hasWriteBufferCapacity
  · simp only [hcap, Bool.not_false, ite_true] at h
    exact .inl ⟨rfl, h.symm⟩
  simp only [hcap, Bool.not_true, Bool.false_eq_true, ite_false] at h
  obtain ⟨x, hpop⟩ : ∃ x, c.popOutgForStream streamId = x := ⟨_, rfl⟩
  rw [hpop] at h
  rcases x with _ | ⟨_ | ⟨id, command, cont⟩, c₁⟩
  · exact .inr (.inl ⟨rfl, popOutgForStream_eq_none.mp hpop, h.symm⟩)
  · obtain ⟨s, -, ⟨-, rfl, -⟩ | ⟨_, _, _, _, _, -, hr, -⟩⟩ := popOutgForStream_some hpop
    · exact .inr (.inr (.inl ⟨rfl, hpop, h.symm⟩))
    · cases hr
  · obtain ⟨s, -, ⟨hr, -⟩ | ⟨_, _, _, _, _, -, hr, -⟩⟩ := popOutgForStream_some hpop
    · cases hr
    obtain ⟨rfl, -, -⟩ := Prod.mk.inj (Option.some.inj hr)
    refine .inr (.inr (.inr ⟨command, cont, c₁, rfl, hpop, ?_⟩))
    cases hw : c₁.writePart fuel id command <;> simp only [hw] at h
    · exact .inl ⟨rfl, h.symm⟩
    · exact .inr ⟨_, rfl, h.symm⟩

section Pass

variable (P : Conn → Prop) {fuel : Nat}

/-- A property that every part write keeps: the write starts below the watermark, pops a part
    of one stream and queues it. -/
def KeptByPartWrites (fuel : Nat) (streamId : Nat) : Prop :=
  ∀ c c₁ c₂ command cont, P c → c.hasWriteBufferCapacity = true →
    c.popOutgForStream streamId = some (some (streamId, command, cont), c₁) →
    c₁.writePart fuel streamId command = some c₂ → P c₂

theorem bufferStream_induction {streamId : Nat} (hstep : KeptByPartWrites P fuel streamId) :
    ∀ {n c updated e}, P c → bufferStream fuel streamId n c updated = some e → P e.conn
  | 0, _, _, _, _, h => by cases h
  | n + 1, c, updated, e, hc, h => by
      rcases bufferStream_succ_cases h with ⟨-, he⟩ | ⟨-, -, he⟩ | ⟨-, -, he⟩ |
        ⟨command, cont, c₁, hcap, hpop, ⟨-, he⟩ | ⟨c₂, hwrite, he⟩⟩
      · cases he; exact hc
      · cases he
      · cases he; exact hc
      · cases he
      · have hc₂ := hstep c c₁ c₂ command cont hc hcap hpop hwrite
        cases cont
        · cases he; exact hc₂
        · exact bufferStream_induction hstep hc₂ he.symm

theorem bufferStreams_induction (hstep : ∀ streamId, KeptByPartWrites P fuel streamId) :
    ∀ {ids c updated c' updated'}, P c → bufferStreams fuel ids c updated = some (c', updated') → P c'
  | [], _, _, _, _, hc, h => by cases h; exact hc
  | streamId :: ids, c, updated, c', updated', hc, h => by
      simp only [bufferStreams] at h
      split at h
      · cases h
      · cases h; exact bufferStream_induction P (hstep streamId) hc ‹_›
      · exact bufferStreams_induction hstep (bufferStream_induction P (hstep streamId) hc ‹_›) h

/-- A property kept by every part write on every stream is kept by a buffering pass. -/
theorem bufferOutgConn_induction (hstep : ∀ streamId, KeptByPartWrites P fuel streamId)
    {c c' : Conn} {updated : Bool} (hc : P c) (h : bufferOutgConn fuel c = some (c', updated)) :
    P c' := by
  unfold bufferOutgConn at h
  split at h
  · cases h; exact hc
  · exact bufferStreams_induction P hstep hc h

end Pass

/-- The inner loop moves on to the next stream only when this one hands out nothing more, or
    is gone. -/
theorem bufferStream_brk {streamId : Nat} :
    ∀ {n c updated c' updated'}, bufferStream fuel streamId n c updated = some (.brk c' updated') →
      ∀ s, c'.streams.get streamId = some s → s.popOutg c'.outWindowSize = none
  | 0, _, _, _, _, h => by cases h
  | n + 1, c, updated, c', updated', h => by
      rcases bufferStream_succ_cases h with ⟨-, he⟩ | ⟨-, -, he⟩ | ⟨-, hpop, he⟩ |
        ⟨command, cont, c₁, -, hpop, ⟨-, he⟩ | ⟨c₂, hwrite, he⟩⟩
      · cases he
      · cases he
      · cases he
        obtain ⟨s, hs, ⟨-, -, hnone⟩ | ⟨_, _, _, _, _, -, hr, -⟩⟩ := popOutgForStream_some hpop
        · intro s' hs'
          obtain rfl := Option.some.inj (hs.symm.trans hs')
          exact hnone
        · cases hr
      · cases he
      · obtain ⟨_, _, _, m, fs, -, -, hmj, -, rfl, -⟩ := partWrite_spec hpop hwrite
        cases cont
        · cases he
          intro s' hs'
          simp [hmj] at hs'
        · exact bufferStream_brk he.symm

/-! ## The calls of `pop_outg_for_stream` -/

/-- One call of `pop_outg_for_stream`: the stream, and the part it popped with whether the
    stream stayed in the map, if it popped one. -/
abbrev PopEvent := Nat × Option (HttpStreamCommand × Bool)

/-- Calls of `pop_outg_for_stream`, one after the other, each below the watermark on a stream in
    the map: one hands out nothing, or pops a part that `write_part` then queues. -/
inductive PopTrace (fuel : Nat) : Conn → List PopEvent → Conn → Prop
  | nil (c : Conn) : PopTrace fuel c [] c
  | empty {c c' : Conn} {j : Nat} {events : List PopEvent} :
      c.hasWriteBufferCapacity = true → (c.streams.get j).isSome = true →
      c.popOutgForStream j = some (none, c) → PopTrace fuel c events c' →
      PopTrace fuel c ((j, none) :: events) c'
  | part {c c₁ c₂ c' : Conn} {j : Nat} {command : HttpStreamCommand} {cont : Bool}
      {events : List PopEvent} :
      c.hasWriteBufferCapacity = true → (c.streams.get j).isSome = true →
      c.popOutgForStream j = some (some (j, command, cont), c₁) →
      c₁.writePart fuel j command = some c₂ → PopTrace fuel c₂ events c' →
      PopTrace fuel c ((j, some (command, cont)) :: events) c'

/-- No call pops a stream after a call that removed it from the map. -/
def NoPopAfterRemoval (events : List PopEvent) : Prop :=
  ∀ pre post j command, events = pre ++ (j, some (command, false)) :: post → ∀ ev ∈ post, ev.1 ≠ j

/-- How a pass runs out of fuel: the inner loop of one stream has made `fuel` rounds, each
    popping a part that kept the stream, or `write_part` of the part just popped needs more
    than `fuel` DATA frames. -/
def FuelOut (fuel : Nat) (events : List PopEvent) (c : Conn) : Prop :=
  (∃ pre post j, events = pre ++ post ∧ post.length = fuel ∧
    ∀ ev ∈ post, ev.1 = j ∧ ∃ command, ev.2 = some (command, true)) ∨
  ∃ j command cont c₁, c.hasWriteBufferCapacity = true ∧ (c.streams.get j).isSome = true ∧
    c.popOutgForStream j = some (some (j, command, cont), c₁) ∧ c₁.writePart fuel j command = none

namespace PopTrace

variable {fuel : Nat}

theorem append {c₁ c₂ c₃ : Conn} {e₁ e₂ : List PopEvent} (h₁ : PopTrace fuel c₁ e₁ c₂)
    (h₂ : PopTrace fuel c₂ e₂ c₃) : PopTrace fuel c₁ (e₁ ++ e₂) c₃ := by
  induction h₁ with
  | nil => exact h₂
  | empty hcap hget hpop _ ih => exact .empty hcap hget hpop (ih h₂)
  | part hcap hget hpop hwrite _ ih => exact .part hcap hget hpop hwrite (ih h₂)

/-- Calls on other streams leave a stream's entry alone. -/
theorem get_of_ne {c c' : Conn} {events : List PopEvent} {k : Nat} (h : PopTrace fuel c events c')
    (hk : ∀ ev ∈ events, ev.1 ≠ k) : c'.streams.get k = c.streams.get k := by
  induction h with
  | nil => rfl
  | empty _ _ _ _ ih => exact ih fun ev hev => hk ev (List.mem_cons_of_mem _ hev)
  | part _ _ hpop hwrite _ ih =>
      obtain ⟨_, _, _, m, _, -, -, -, hmk, rfl, -⟩ := partWrite_spec hpop hwrite
      rw [ih fun ev hev => hk ev (List.mem_cons_of_mem _ hev)]
      exact hmk _ (Ne.symm (hk _ (List.mem_cons_self _ _)))

/-- A stream not in the map is never called on. -/
theorem absent {c c' : Conn} {events : List PopEvent} {k : Nat} (h : PopTrace fuel c events c')
    (hk : c.streams.get k = none) : ∀ ev ∈ events, ev.1 ≠ k := by
  induction h with
  | nil => simp
  | @empty c c' j events _ hget _ _ ih =>
      have hjk : j ≠ k := by rintro rfl; simp [hk] at hget
      exact List.forall_mem_cons.mpr ⟨hjk, ih hk⟩
  | @part c c₁ c₂ c' j command cont events _ hget hpop hwrite _ ih =>
      have hjk : j ≠ k := by rintro rfl; simp [hk] at hget
      obtain ⟨_, _, _, m, _, -, -, -, hmk, rfl, -⟩ := partWrite_spec hpop hwrite
      exact List.forall_mem_cons.mpr ⟨hjk, ih ((hmk k (Ne.symm hjk)).trans hk)⟩

theorem noPopAfterRemoval {c c' : Conn} {events : List PopEvent} (h : PopTrace fuel c events c') :
    NoPopAfterRemoval events := by
  induction h with
  | nil => intro pre post j command heq; simp at heq
  | empty _ _ _ _ ih =>
      intro pre post j command heq
      cases pre with
      | nil => simp at heq
      | cons _ pre => exact ih pre post j command (List.cons.inj heq).2
  | @part c c₁ c₂ c' j command cont events _ _ hpop hwrite htrace ih =>
      intro pre post k command' heq
      cases pre with
      | nil =>
          obtain ⟨⟨rfl, -, rfl⟩, rfl⟩ : (j = k ∧ command = command' ∧ cont = false) ∧ events = post := by
            simpa using heq
          obtain ⟨_, _, _, m, _, -, -, hmj, -, rfl, -⟩ := partWrite_spec hpop hwrite
          exact htrace.absent (by simpa using hmj)
      | cons _ pre => exact ih pre post k command' (List.cons.inj heq).2

end PopTrace

/-- A finished inner loop is a trace of calls on its own stream. -/
theorem bufferStream_trace {fuel streamId : Nat} :
    ∀ {n c updated e}, bufferStream fuel streamId n c updated = some e →
      ∃ events, PopTrace fuel c events e.conn ∧ ∀ ev ∈ events, ev.1 = streamId
  | 0, _, _, _, h => by cases h
  | n + 1, c, updated, e, h => by
      rcases bufferStream_succ_cases h with ⟨-, he⟩ | ⟨-, -, he⟩ | ⟨hcap, hpop, he⟩ |
        ⟨command, cont, c₁, hcap, hpop, ⟨-, he⟩ | ⟨c₂, hwrite, he⟩⟩
      · cases he; exact ⟨[], .nil _, List.forall_mem_nil _⟩
      · cases he
      · cases he
        obtain ⟨s, hs, -⟩ := popOutgForStream_some hpop
        exact ⟨_, .empty hcap (by simp [hs]) hpop (.nil _), by simp⟩
      · cases he
      · obtain ⟨s, hs, -⟩ := popOutgForStream_some hpop
        have hget : (c.streams.get streamId).isSome = true := by simp [hs]
        cases cont
        · cases he; exact ⟨_, .part hcap hget hpop hwrite (.nil _), by simp⟩
        · obtain ⟨events, htrace, hon⟩ := bufferStream_trace he.symm
          exact ⟨_, .part hcap hget hpop hwrite htrace, List.forall_mem_cons.mpr ⟨rfl, hon⟩⟩

/-- An inner loop started on a stream in the map fails only when its `n` rounds each popped a
    part that kept the stream, or `write_part` of the part it popped runs out of fuel. -/
theorem bufferStream_eq_none {fuel streamId : Nat} :
    ∀ {n c updated}, (c.streams.get streamId).isSome = true →
      bufferStream fuel streamId n c updated = none →
      ∃ events c₁, PopTrace fuel c events c₁ ∧ (∀ ev ∈ events, ev.1 = streamId) ∧
        ((events.length = n ∧ ∀ ev ∈ events, ∃ command, ev.2 = some (command, true)) ∨
          ∃ command cont c₂, c₁.hasWriteBufferCapacity = true ∧ (c₁.streams.get streamId).isSome = true ∧
            c₁.popOutgForStream streamId = some (some (streamId, command, cont), c₂) ∧
            c₂.writePart fuel streamId command = none)
  | 0, c, _, _, _ => ⟨[], c, .nil _, List.forall_mem_nil _, .inl ⟨rfl, List.forall_mem_nil _⟩⟩
  | n + 1, c, updated, hget, h => by
      rcases bufferStream_succ_cases h with ⟨-, he⟩ | ⟨-, hnone, -⟩ | ⟨-, -, he⟩ |
        ⟨command, cont, c₁, hcap, hpop, ⟨hwrite, -⟩ | ⟨c₂, hwrite, he⟩⟩
      · cases he
      · simp [hnone] at hget
      · cases he
      · exact ⟨[], c, .nil _, List.forall_mem_nil _, .inr ⟨_, _, _, hcap, hget, hpop, hwrite⟩⟩
      · obtain ⟨_, _, _, m, fs, -, -, hmj, -, rfl, -⟩ := partWrite_spec hpop hwrite
        cases cont
        · cases he
        · obtain ⟨events, c₃, htrace, hon, hout⟩ :=
            bufferStream_eq_none (by simp [hmj]) he.symm
          refine ⟨_, c₃, .part hcap hget hpop hwrite htrace, List.forall_mem_cons.mpr ⟨rfl, hon⟩, ?_⟩
          rcases hout with ⟨hlen, hparts⟩ | hdata
          · exact .inl ⟨by simp [hlen], List.forall_mem_cons.mpr ⟨⟨command, rfl⟩, hparts⟩⟩
          · exact .inr hdata

/-- A pass over distinct ids of streams in the map: one that finishes is a trace of calls, and
    one that does not ran out of fuel. -/
theorem bufferStreams_trace {fuel : Nat} :
    ∀ {ids c updated}, ids.Nodup → (∀ j ∈ ids, (c.streams.get j).isSome = true) →
      (∀ c' updated', bufferStreams fuel ids c updated = some (c', updated') →
        ∃ events, PopTrace fuel c events c') ∧
      (bufferStreams fuel ids c updated = none →
        ∃ events c₁, PopTrace fuel c events c₁ ∧ FuelOut fuel events c₁)
  | [], c, _, _, _ => ⟨fun c' _ h => by cases h; exact ⟨[], .nil _⟩, fun h => by cases h⟩
  | j :: ids, c, updated, hnodup, hpresent => by
      have hj := hpresent j (List.mem_cons_self _ _)
      simp only [bufferStreams]
      split
      · rename_i hfail
        refine ⟨fun _ _ h => (nomatch h), fun _ => ?_⟩
        obtain ⟨events, c₁, htrace, hon, hout⟩ := bufferStream_eq_none hj hfail
        refine ⟨events, c₁, htrace, ?_⟩
        rcases hout with ⟨hlen, hparts⟩ | ⟨command, cont, c₂, hdata⟩
        · exact .inl ⟨[], events, j, rfl, hlen, fun ev hev => ⟨hon ev hev, hparts ev hev⟩⟩
        · exact .inr ⟨j, command, cont, c₂, hdata⟩
      · rename_i c₁ updated₁ hret
        obtain ⟨events, htrace, -⟩ := bufferStream_trace hret
        exact ⟨fun c' _ h => by cases h; exact ⟨events, htrace⟩, fun h => by cases h⟩
      · rename_i c₁ updated₁ hbrk
        obtain ⟨events, htrace, hon⟩ := bufferStream_trace hbrk
        have hget : ∀ k ∈ ids, c₁.streams.get k = c.streams.get k := fun k hk =>
          htrace.get_of_ne fun ev hev => by
            rw [hon ev hev]; rintro rfl; exact (List.nodup_cons.mp hnodup).1 hk
        obtain ⟨hsome, hnone⟩ := @bufferStreams_trace fuel ids c₁ updated₁
          (List.nodup_cons.mp hnodup).2
          fun k hk => by rw [hget k hk]; exact hpresent k (List.mem_cons_of_mem _ hk)
        refine ⟨fun c' u h => ?_, fun h => ?_⟩
        · obtain ⟨events', htrace'⟩ := hsome c' u h
          exact ⟨events ++ events', htrace.append htrace'⟩
        · obtain ⟨events', c₂, htrace', hout⟩ := hnone h
          refine ⟨events ++ events', c₂, htrace.append htrace', ?_⟩
          rcases hout with ⟨pre, post, k, rfl, hlen, hpost⟩ | hdata
          · exact .inl ⟨events ++ pre, post, k, (List.append_assoc _ _ _).symm, hlen, hpost⟩
          · exact .inr hdata

/-- Over every connection state, `writable_stream_ids` gives distinct ids of streams in the map,
    and `buffer_outg_conn` calls `pop_outg_for_stream` only below the watermark and on a stream
    still in the map, writing each part as it is popped and never popping a stream it removed:
    a pass either finishes so or runs out of fuel, never on the `unwrap` of a missing stream. -/
theorem bufferOutgConn_pops_present (fuel : Nat) (c : Conn) :
    c.writableStreamIds.Nodup ∧ (∀ j ∈ c.writableStreamIds, (c.streams.get j).isSome = true) ∧
    (∀ c' updated, bufferOutgConn fuel c = some (c', updated) →
      ∃ events, PopTrace fuel c events c' ∧ NoPopAfterRemoval events) ∧
    (bufferOutgConn fuel c = none →
      ∃ events c₁, PopTrace fuel c events c₁ ∧ NoPopAfterRemoval events ∧ FuelOut fuel events c₁) := by
  have hnodup : c.writableStreamIds.Nodup := (StreamMap.sorted_idsWhere _ _).nodup
  have hpresent : ∀ j ∈ c.writableStreamIds, (c.streams.get j).isSome = true := fun j hj => by
    obtain ⟨s, hs, -⟩ := StreamMap.get_of_mem_idsWhere hj
    simp [hs]
  obtain ⟨hsome, hnone⟩ := @bufferStreams_trace fuel _ c false hnodup hpresent
  refine ⟨hnodup, hpresent, fun c' updated h => ?_, fun h => ?_⟩ <;> unfold bufferOutgConn at h <;>
    split at h
  · cases h
    exact ⟨[], .nil _, fun _ _ _ _ heq => by simp at heq⟩
  · obtain ⟨events, htrace⟩ := hsome c' updated h
    exact ⟨events, htrace, htrace.noPopAfterRemoval⟩
  · cases h
  · obtain ⟨events, c₁, htrace, hout⟩ := hnone h
    exact ⟨events, c₁, htrace, htrace.noPopAfterRemoval, hout⟩

end Conn

end Httpbis.Common

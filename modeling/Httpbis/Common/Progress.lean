import Httpbis.Common.WriteLoop

/-! # `poll_flush` returns

The loops of `buffer_outg_conn` and of `poll_flush` stop. Every part write lowers the work the
streams still have to hand out (`HttpStreamCommon.work`, summed over the map); a pass that
queues nothing ends `poll_flush`, and a pass that queues something has lowered the work. So with
a positive maximum frame size, fuel above the work and one transport poll more than the work,
`poll_flush` never runs out: the model's fuel only ever stops a run that the code finishes.
-/

namespace Httpbis.Common

/-- The most work a writer command adds to the streams: a part and an end code for a part
    enqueued, an end code for a stream ended. -/
def CommonToWriteMessage.work : CommonToWriteMessage → Nat
  | .streamEnqueue _ part => part.content.dataBytes.length + 2
  | .streamEnd _ _ => 1
  | _ => 0

namespace Conn

/-- The work left on all streams. -/
def work (c : Conn) : Nat := c.streams.sum HttpStreamCommon.work

/-- The work left on one stream. -/
def workOf (c : Conn) (streamId : Nat) : Nat :=
  ((c.streams.get streamId).map HttpStreamCommon.work).getD 0

/-- An update of one stream adds at most what it adds to that stream. -/
theorem work_update_le (c : Conn) (id : Nat) {f : HttpStreamCommon → HttpStreamCommon} {n : Nat}
    (hf : ∀ s, (f s).work ≤ s.work + n) : ({ c with streams := c.streams.update id f } : Conn).work ≤ c.work + n := by
  simp only [work]
  rcases h : c.streams.get id with _ | s
  · rw [StreamMap.sum_update_of_get_eq_none h]
    omega
  · have := StreamMap.sum_update h f HttpStreamCommon.work
    have := hf s
    omega

theorem workOf_le (c : Conn) (streamId : Nat) : c.workOf streamId ≤ c.work := by
  unfold workOf work
  cases h : c.streams.get streamId with
  | none => exact Nat.zero_le _
  | some s =>
      have := StreamMap.sum_remove h HttpStreamCommon.work
      simp only [Option.map_some', Option.getD_some]
      omega

/-- A pop lowers the work by at least one, on its stream while the stream stays, hands out no
    more data than the work, and keeps the settings. -/
theorem popOutgForStream_work {c c₁ : Conn} {j : Nat} {command : HttpStreamCommand} {cont : Bool}
    (h : c.popOutgForStream j = some (some (j, command, cont), c₁)) :
    c₁.work < c.work ∧ command.dataLen ≤ c.work ∧ c₁.peerSettings = c.peerSettings ∧
      (cont = true → (c₁.streams.get j).isSome = true ∧ c₁.workOf j < c.workOf j) := by
  unfold popOutgForStream at h
  rcases hget : c.streams.get j with _ | s
  · simp [hget] at h
  rw [hget] at h
  rcases hpop : s.popOutg c.outWindowSize with _ | ⟨command', s', w⟩
  · simp [hpop] at h
  simp only [hpop] at h
  have hwork := HttpStreamCommon.popOutg_work hpop
  have hlen := congrArg List.length (HttpStreamCommon.popOutg_pendingData hpop)
  rw [List.length_append] at hlen
  have hdl : command'.dataLen = command'.dataBytes.length := by cases command' <;> rfl
  have hsw : s.pendingData.length ≤ s.work := by unfold HttpStreamCommon.work; omega
  have hwj : c.workOf j = s.work := by simp [workOf, hget]
  have hle := workOf_le c j
  split at h
  · simp only [Option.some.injEq, Prod.mk.injEq] at h
    obtain ⟨⟨-, rfl, rfl⟩, rfl⟩ := h
    have := StreamMap.sum_remove hget HttpStreamCommon.work
    refine ⟨?_, ?_, rfl, fun h => nomatch h⟩ <;> simp only [work] at hle ⊢ <;> omega
  · simp only [Option.some.injEq, Prod.mk.injEq] at h
    obtain ⟨⟨-, rfl, rfl⟩, rfl⟩ := h
    have := StreamMap.sum_update hget (fun _ => s') HttpStreamCommon.work
    have hget' : (c.streams.update j fun _ => s').get j = some s' := by
      rw [StreamMap.get_update_self, hget]; rfl
    refine ⟨?_, ?_, rfl, fun _ => ⟨by simp only [hget', Option.isSome_some], ?_⟩⟩
    · simp only [work]; omega
    · simp only [work] at hle ⊢; omega
    · simp only [workOf, hget', Option.map_some', Option.getD_some] at hwj ⊢; omega

/-- One part write lowers the work and keeps the settings, and the stream while it stays. -/
theorem partWrite_work {fuel j : Nat} {c c₁ c₂ : Conn} {command : HttpStreamCommand}
    {cont : Bool} (hpop : c.popOutgForStream j = some (some (j, command, cont), c₁))
    (hwrite : c₁.writePart fuel j command = some c₂) :
    c₂.work < c.work ∧ c₂.peerSettings = c.peerSettings ∧
      (cont = true → (c₂.streams.get j).isSome = true ∧ c₂.workOf j < c.workOf j) := by
  obtain ⟨fs, rfl, -⟩ := writePart_eq hwrite
  obtain ⟨hw, -, hps, hcont⟩ := popOutgForStream_work hpop
  exact ⟨hw, hps, hcont⟩

theorem bufferStream_work {fuel j : Nat} :
    ∀ {n c updated e}, bufferStream fuel j n c updated = some e →
      e.conn.peerSettings = c.peerSettings ∧ e.conn.work ≤ c.work ∧
        (e.updated = true → updated = true ∨ e.conn.work < c.work)
  | 0, _, _, _, h => by cases h
  | n + 1, c, updated, e, h => by
      rcases bufferStream_succ_cases h with ⟨-, he⟩ | ⟨-, -, he⟩ | ⟨-, -, he⟩ |
        ⟨command, cont, c₁, -, hpop, ⟨-, he⟩ | ⟨c₂, hwrite, he⟩⟩
      · cases he; exact ⟨rfl, le_rfl, .inl⟩
      · cases he
      · cases he; exact ⟨rfl, le_rfl, .inl⟩
      · cases he
      · obtain ⟨hw, hps, -⟩ := partWrite_work hpop hwrite
        cases cont
        · cases he; exact ⟨hps, hw.le, fun _ => .inr hw⟩
        · obtain ⟨hps', hle, -⟩ := bufferStream_work he.symm
          exact ⟨hps'.trans hps, hle.trans hw.le, fun _ => .inr (lt_of_le_of_lt hle hw)⟩

theorem bufferStreams_work {fuel : Nat} :
    ∀ {ids c updated c' updated'}, bufferStreams fuel ids c updated = some (c', updated') →
      c'.peerSettings = c.peerSettings ∧ c'.work ≤ c.work ∧
        (updated' = true → updated = true ∨ c'.work < c.work)
  | [], _, _, _, _, h => by cases h; exact ⟨rfl, le_rfl, .inl⟩
  | j :: ids, c, updated, c', updated', h => by
      simp only [bufferStreams] at h
      split at h
      · cases h
      · cases h; exact bufferStream_work (e := .ret _ _) ‹_›
      · rename_i c₁ u₁ hbrk
        obtain ⟨hps₁, hle₁, hu₁⟩ := bufferStream_work hbrk
        obtain ⟨hps₂, hle₂, hu₂⟩ := bufferStreams_work h
        refine ⟨hps₂.trans hps₁, hle₂.trans hle₁, fun hu' => ?_⟩
        rcases hu₂ hu' with hu | hlt
        · exact (hu₁ hu).imp_right (lt_of_le_of_lt hle₂)
        · exact .inr (lt_of_lt_of_le hlt hle₁)

/-- A pass keeps the settings and never raises the work, and one that queued a part has
    lowered it. -/
theorem bufferOutgConn_work {fuel : Nat} {c c' : Conn} {updated : Bool}
    (h : c.bufferOutgConn fuel = some (c', updated)) :
    c'.peerSettings = c.peerSettings ∧ c'.work ≤ c.work ∧ (updated = true → c'.work < c.work) := by
  unfold bufferOutgConn at h
  split at h
  · cases h; exact ⟨rfl, le_rfl, fun h => nomatch h⟩
  · obtain ⟨hps, hle, hu⟩ := bufferStreams_work h
    exact ⟨hps, hle, fun h' => (hu h').resolve_left Bool.false_ne_true⟩

/-- `write_part` finishes when its fuel is above the part's data. -/
@[simp] theorem processCommonMessage_peerSettings (c : Conn) (m : CommonToWriteMessage) :
    (c.processCommonMessage m).peerSettings = c.peerSettings := by
  cases m <;> simp only [processCommonMessage, processStreamEnd, processStreamEnqueue,
    increaseInWindow] <;> (try split) <;> rfl

theorem work_processCommonMessage_le (c : Conn) (m : CommonToWriteMessage) :
    (c.processCommonMessage m).work ≤ c.work + m.work := by
  cases m with
  | streamEnqueue streamId part =>
      simp only [processCommonMessage, processStreamEnqueue]
      split
      · exact work_update_le c streamId (HttpStreamCommon.work_pushBackPart_le · part)
      · exact Nat.le_add_right _ _
      · exact Nat.le_add_right _ _
  | streamEnd streamId errorCode =>
      exact work_update_le c streamId (HttpStreamCommon.work_closeOutgoing_le · errorCode)
  | increaseInWindow streamId increase =>
      simp only [processCommonMessage, increaseInWindow]
      split <;> exact Nat.le_add_right _ _
  | pull => exact Nat.le_add_right _ _
  | dumpState => exact Nat.le_add_right _ _

theorem writePart_isSome {c : Conn} {fuel streamId : Nat} {part : HttpStreamCommand}
    (hmax : 0 < c.peerSettings.maxFrameSize) (hfuel : part.dataLen < fuel) :
    (c.writePart fuel streamId part).isSome = true := by
  cases part with
  | data d es =>
      simp only [writePart, writePartData]
      split
      · rfl
      · obtain ⟨fs, hrun, -⟩ := writePartDataLoop_spec streamId d es hmax fuel 0 c.queuedWrite
          (Nat.zero_le _) (by simpa [HttpStreamCommand.dataLen] using hfuel)
        rw [hrun]; rfl
  | headers => rfl
  | rst => rfl

theorem bufferStream_isSome {fuel j : Nat} :
    ∀ {n c updated}, 0 < c.peerSettings.maxFrameSize → (c.streams.get j).isSome = true →
      c.work < fuel → c.workOf j < n → (bufferStream fuel j n c updated).isSome = true
  | 0, _, _, _, _, _, h => absurd h (Nat.not_lt_zero _)
  | n + 1, c, updated, hmax, hget, hfuel, hn => by
      obtain ⟨r, hr⟩ : ∃ r, bufferStream fuel j (n + 1) c updated = r := ⟨_, rfl⟩
      rw [hr]
      rcases bufferStream_succ_cases hr with ⟨-, rfl⟩ | ⟨-, hnone, -⟩ | ⟨-, -, rfl⟩ |
        ⟨command, cont, c₁, -, hpop, ⟨hwrite, -⟩ | ⟨c₂, hwrite, rfl⟩⟩
      · rfl
      · simp [hnone] at hget
      · rfl
      · obtain ⟨-, hdl, hps, -⟩ := popOutgForStream_work hpop
        have : (c₁.writePart fuel j command).isSome = true :=
          writePart_isSome (by rw [hps]; exact hmax) (by omega)
        simp [hwrite] at this
      · obtain ⟨hw, hps, hcont⟩ := partWrite_work hpop hwrite
        cases cont
        · rfl
        · obtain ⟨hget₂, hlt⟩ := hcont rfl
          exact bufferStream_isSome (by rw [hps]; exact hmax) hget₂ (lt_trans hw hfuel) (by omega)

theorem bufferStreams_isSome {fuel : Nat} :
    ∀ {ids c updated}, 0 < c.peerSettings.maxFrameSize → ids.Nodup →
      (∀ j ∈ ids, (c.streams.get j).isSome = true) → c.work < fuel →
      (bufferStreams fuel ids c updated).isSome = true
  | [], _, _, _, _, _, _ => rfl
  | j :: ids, c, updated, hmax, hnodup, hpresent, hfuel => by
      have hj := hpresent j (List.mem_cons_self _ _)
      have hsome : (bufferStream fuel j fuel c updated).isSome = true :=
        bufferStream_isSome hmax hj hfuel (lt_of_le_of_lt (workOf_le c j) hfuel)
      obtain ⟨e, he⟩ := Option.isSome_iff_exists.mp hsome
      simp only [bufferStreams, he]
      cases e with
      | ret c' u' => rfl
      | brk c' u' =>
          obtain ⟨events, htrace, hon⟩ := bufferStream_trace he
          have hget : ∀ k ∈ ids, c'.streams.get k = c.streams.get k := fun k hk =>
            htrace.get_of_ne fun ev hev => by
              rw [hon ev hev]; rintro rfl; exact (List.nodup_cons.mp hnodup).1 hk
          obtain ⟨hps, hle, -⟩ := bufferStream_work he
          exact bufferStreams_isSome (by rw [show c'.peerSettings = c.peerSettings from hps]; exact hmax)
            (List.nodup_cons.mp hnodup).2
            (fun k hk => by rw [hget k hk]; exact hpresent k (List.mem_cons_of_mem _ hk))
            (lt_of_le_of_lt hle hfuel)

theorem bufferOutgConn_isSome {fuel : Nat} {c : Conn} (hmax : 0 < c.peerSettings.maxFrameSize)
    (hfuel : c.work < fuel) : (c.bufferOutgConn fuel).isSome = true := by
  unfold bufferOutgConn
  split
  · rfl
  · refine bufferStreams_isSome hmax (StreamMap.sorted_idsWhere _ _).nodup (fun j hj => ?_) hfuel
    obtain ⟨s, hs, -⟩ := StreamMap.get_of_mem_idsWhere hj
    simp [hs]

theorem pollFlushLoop_isSome {fuel : Nat} :
    ∀ {accepted c}, 0 < c.peerSettings.maxFrameSize → c.work < fuel → c.work < accepted.length →
      (pollFlushLoop fuel accepted c).isSome = true
  | [], _, _, _, h => absurd h (Nat.not_lt_zero _)
  | n :: rest, c, hmax, hfuel, hlen => by
      have hsome : ((c.withQueue (c.queuedWrite.poll n)).bufferOutgConn fuel).isSome = true :=
        bufferOutgConn_isSome hmax hfuel
      obtain ⟨⟨c', updated⟩, hbuf⟩ := Option.isSome_iff_exists.mp hsome
      obtain ⟨hps, hle, hlt⟩ := bufferOutgConn_work hbuf
      cases updated
      · simp [pollFlushLoop, hbuf]
      · have := hlt rfl
        have hw : (c.withQueue (c.queuedWrite.poll n)).work = c.work := rfl
        rw [hw] at this
        simp only [List.length_cons] at hlen
        simp only [pollFlushLoop, hbuf, Bool.not_true, Bool.false_eq_true, ite_false]
        exact pollFlushLoop_isSome (by rw [hps]; exact hmax) (lt_trans this hfuel) (by omega)

/-- `poll_flush` always returns, whatever the transport takes at each poll: with a positive
    maximum frame size, it needs at most one transport poll more than the parts, data bytes
    and end codes its streams still have to hand out. -/
theorem pollFlush_returns {fuel : Nat} {accepted : List Nat} {c : Conn}
    (hmax : 0 < c.peerSettings.maxFrameSize) (hfuel : c.work < fuel)
    (hpolls : c.work < accepted.length) : (pollFlush fuel accepted c).isSome = true := by
  obtain ⟨⟨c₁, updated⟩, hbuf⟩ := Option.isSome_iff_exists.mp (bufferOutgConn_isSome hmax hfuel)
  obtain ⟨hps, hle, -⟩ := bufferOutgConn_work hbuf
  simp only [pollFlush, hbuf]
  exact pollFlushLoop_isSome (by rw [hps]; exact hmax) (by omega) (by omega)

end Conn

end Httpbis.Common

import Httpbis.Common.BufferOutg

/-! # The order streams open in

A stream opens on the wire with the first DATA, HEADERS or RST_STREAM frame queued on its id.
The spec's stream map is ordered, and `buffer_outg_conn` visits the writable streams in that
order, draining each before the next. `OpenOrder` is what this keeps: every stream that has
not written yet is above every id already written, unless data it cannot send blocks it; so
the streams that a HEADERS frame opens open in increasing id order. Every part write of a pass
keeps it, given the order of the visit.
-/

namespace Httpbis.Common

namespace HttpFrame

/-- A HEADERS frame. -/
def isHeaders : HttpFrame → Bool
  | .headers _ => true
  | _ => false

end HttpFrame

/-- The ids with a DATA, HEADERS or RST_STREAM frame among the frames, in queue order. -/
def loggedIds (frames : List HttpFrame) : List Nat := frames.filterMap HttpFrame.partStreamId

/-- One frame read in queue order: the ids seen so far, and those whose first frame was
    HEADERS. -/
def openStep (acc : List Nat × List Nat) (f : HttpFrame) : List Nat × List Nat :=
  match f.partStreamId with
  | some j => if j ∈ acc.1 then acc else (acc.1 ++ [j], if f.isHeaders then acc.2 ++ [j] else acc.2)
  | none => acc

/-- The streams opened by a HEADERS frame, in queue order: the ids whose first DATA, HEADERS or
    RST_STREAM frame is HEADERS. -/
def openingIds (frames : List HttpFrame) : List Nat := (frames.foldl openStep ([], [])).2

@[simp] theorem loggedIds_append (fs gs : List HttpFrame) :
    loggedIds (fs ++ gs) = loggedIds fs ++ loggedIds gs := by
  simp [loggedIds]

theorem loggedIds_replicate {f : HttpFrame} (hf : f.partStreamId = none) (n : Nat) :
    loggedIds (List.replicate n f) = [] :=
  List.filterMap_eq_nil_iff.mpr fun _ hg => (List.eq_of_mem_replicate hg).symm ▸ hf

theorem mem_loggedIds_singleton {f : HttpFrame} {x : Nat} :
    x ∈ loggedIds [f] ↔ f.partStreamId = some x := by
  cases hf : f.partStreamId <;> simp [loggedIds, hf, eq_comm]

/-- Frames on one stream write that stream, if there are any. -/
theorem mem_loggedIds_on {fs : List HttpFrame} {j x : Nat} (hon : ∀ f ∈ fs, f.partStreamId = some j) :
    x ∈ loggedIds fs ↔ fs ≠ [] ∧ x = j := by
  constructor
  · intro h
    obtain ⟨f, hf, hx⟩ := List.mem_filterMap.mp h
    exact ⟨List.ne_nil_of_mem hf, (Option.some.inj ((hon f hf).symm.trans hx)).symm⟩
  · rintro ⟨hne, rfl⟩
    obtain ⟨f, fs', rfl⟩ := List.exists_cons_of_ne_nil hne
    exact List.mem_filterMap.mpr ⟨f, List.mem_cons_self _ _, hon f (List.mem_cons_self _ _)⟩

theorem mem_openStep_fst {acc : List Nat × List Nat} {f : HttpFrame} {x : Nat} :
    x ∈ (openStep acc f).1 ↔ x ∈ acc.1 ∨ f.partStreamId = some x := by
  unfold openStep
  rcases hf : f.partStreamId with _ | j
  · simp
  · by_cases hj : j ∈ acc.1
    · simp only [hj, ite_true, Option.some.injEq]
      exact ⟨.inl, fun h => h.elim id (· ▸ hj)⟩
    · simp only [hj, ite_false, List.mem_append, List.mem_singleton, Option.some.injEq]
      exact or_congr_right eq_comm

theorem mem_foldl_openStep_fst (x : Nat) :
    ∀ (fs : List HttpFrame) (acc : List Nat × List Nat),
      x ∈ (fs.foldl openStep acc).1 ↔ x ∈ acc.1 ∨ x ∈ loggedIds fs
  | [], _ => by simp [loggedIds]
  | f :: fs, acc => by
      rw [List.foldl_cons, mem_foldl_openStep_fst, mem_openStep_fst,
        show f :: fs = [f] ++ fs from rfl, loggedIds_append, List.mem_append, or_assoc,
        mem_loggedIds_singleton]

theorem openStep_snd_sub {acc : List Nat × List Nat} (h : ∀ x ∈ acc.2, x ∈ acc.1) (f : HttpFrame) :
    ∀ x ∈ (openStep acc f).2, x ∈ (openStep acc f).1 := by
  unfold openStep
  rcases hf : f.partStreamId with _ | j
  · exact h
  by_cases hj : j ∈ acc.1
  · simpa [hj] using h
  intro x hx
  simp only [hj, ite_false, List.mem_append, List.mem_singleton] at hx ⊢
  split_ifs at hx
  · exact (List.mem_append.mp hx).imp (h x) (List.mem_singleton.mp)
  · exact .inl (h x hx)

theorem foldl_openStep_snd_sub :
    ∀ (fs : List HttpFrame) {acc : List Nat × List Nat}, (∀ x ∈ acc.2, x ∈ acc.1) →
      ∀ x ∈ (fs.foldl openStep acc).2, x ∈ (fs.foldl openStep acc).1
  | [], _, h => h
  | f :: fs, _, h => foldl_openStep_snd_sub fs (openStep_snd_sub h f)

/-- A stream opened by HEADERS has a frame in the queue. -/
theorem mem_loggedIds_of_opening {fs : List HttpFrame} {x : Nat} (h : x ∈ openingIds fs) :
    x ∈ loggedIds fs := by
  have := foldl_openStep_snd_sub fs (by simp) x h
  simpa using (mem_foldl_openStep_fst x fs ([], [])).mp this

theorem foldl_openStep_seen {j : Nat} :
    ∀ {gs : List HttpFrame} {acc : List Nat × List Nat}, (∀ f ∈ gs, f.partStreamId = some j) →
      j ∈ acc.1 → gs.foldl openStep acc = acc
  | [], _, _, _ => rfl
  | f :: gs, acc, hgs, hj => by
      have hf : openStep acc f = acc := by
        simp [openStep, hgs f (List.mem_cons_self _ _), hj]
      rw [List.foldl_cons, hf, foldl_openStep_seen (fun g hg => hgs g (List.mem_cons_of_mem _ hg)) hj]

/-- Frames on one stream open it when it had none and the first of them is HEADERS. -/
theorem openingIds_append_on {fs gs : List HttpFrame} {j : Nat}
    (hgs : ∀ f ∈ gs, f.partStreamId = some j) :
    openingIds (fs ++ gs) = openingIds fs ++
      match gs with
      | [] => []
      | f :: _ => if j ∉ loggedIds fs ∧ f.isHeaders = true then [j] else [] := by
  unfold openingIds
  rw [List.foldl_append]
  generalize hacc : fs.foldl openStep ([], []) = acc
  have hmem : j ∈ acc.1 ↔ j ∈ loggedIds fs := by simpa [← hacc] using mem_foldl_openStep_fst j fs ([], [])
  cases gs with
  | nil => simp
  | cons f gs =>
      have hon : ∀ g ∈ gs, g.partStreamId = some j := fun g hg => hgs g (List.mem_cons_of_mem _ hg)
      have hf := hgs f (List.mem_cons_self _ _)
      rw [List.foldl_cons]
      by_cases hj : j ∈ acc.1
      · rw [show openStep acc f = acc by simp [openStep, hf, hj], foldl_openStep_seen hon hj]
        simp [hmem.mp hj]
      · rw [show openStep acc f = (acc.1 ++ [j], if f.isHeaders then acc.2 ++ [j] else acc.2) by
          simp [openStep, hf, hj], foldl_openStep_seen hon (by simp)]
        have : j ∉ loggedIds fs := fun h => hj (hmem.mpr h)
        split <;> simp_all

/-- The frames of one part keep the opening order when their stream is above every id written
    so far, or has written already. -/
theorem sorted_openingIds_append_on {fs gs : List HttpFrame} {j : Nat}
    (hsorted : (openingIds fs).Sorted (· < ·)) (hgs : ∀ f ∈ gs, f.partStreamId = some j)
    (habove : j ∉ loggedIds fs → ∀ x ∈ loggedIds fs, x < j) :
    (openingIds (fs ++ gs)).Sorted (· < ·) := by
  rw [openingIds_append_on hgs]
  split
  · simpa using hsorted
  · split_ifs with hnew
    · refine List.pairwise_append.mpr ⟨hsorted, List.pairwise_singleton _ _, fun x hx y hy => ?_⟩
      obtain rfl := List.mem_singleton.mp hy
      exact habove hnew.1 x (mem_loggedIds_of_opening hx)
    · simpa using hsorted

/-- A frame on no stream changes neither the ids written nor those opened. -/
theorem openingIds_append_none {fs : List HttpFrame} {f : HttpFrame} (hf : f.partStreamId = none) :
    openingIds (fs ++ [f]) = openingIds fs ∧ loggedIds (fs ++ [f]) = loggedIds fs := by
  simp [openingIds, loggedIds, openStep, hf]

namespace Conn

/-- What keeps streams opening in increasing id order. While no GOAWAY is queued, a stream that
    has written nothing still has the peer's initial window and something to send: its header
    block, or its terminal code. Every such stream is above all ids written so far, unless its
    front is data that no window lets out; and the streams opened by HEADERS so far opened in
    increasing order. -/
structure OpenOrder (c : Conn) : Prop where
  window_eq : c.queuedWrite.goawayQueued = false → ∀ a s, c.streams.get a = some s →
    a ∉ loggedIds c.queuedWrite.frames → s.outWindowSize = c.peerSettings.initialWindowSize
  ready : c.queuedWrite.goawayQueued = false → ∀ a s, c.streams.get a = some s →
    a ∉ loggedIds c.queuedWrite.frames →
    s.frontIsHeaders = true ∨ (s.outgoingEnd.isSome = true ∧ s.closedLocal = false)
  above : ∀ a s, c.streams.get a = some s → a ∉ loggedIds c.queuedWrite.frames →
    (∀ x ∈ loggedIds c.queuedWrite.frames, x < a) ∨ s.Blocked c.outWindowSize
  sorted : (openingIds c.queuedWrite.frames).Sorted (· < ·)

/-- A command that only adds to a stream, or ends it, keeps `OpenOrder`. -/
theorem OpenOrder.update {c : Conn} (hinv : c.OpenOrder) {id : Nat}
    {f : HttpStreamCommon → HttpStreamCommon} (hf : ∀ s, c.streams.get id = some s → s.Extends (f s)) :
    OpenOrder { c with streams := c.streams.update id f } := by
  refine ⟨fun hg a s hs ha => ?_, fun hg a s hs ha => ?_, fun a s hs ha => ?_, hinv.sorted⟩ <;>
    rcases StreamMap.get_update_eq_some hs with ⟨rfl, s₀, hs₀, rfl⟩ | ⟨-, hs'⟩
  · exact ((hf s₀ hs₀).window).trans (hinv.window_eq hg a s₀ hs₀ ha)
  · exact hinv.window_eq hg a s hs' ha
  · exact (hinv.ready hg a s₀ hs₀ ha).imp (hf s₀ hs₀).frontIsHeaders
      fun h => ⟨(hf s₀ hs₀).ended h.1, (hf s₀ hs₀).closedLocal.trans h.2⟩
  · exact hinv.ready hg a s hs' ha
  · exact (hinv.above a s₀ hs₀ ha).imp_right (hf s₀ hs₀).blocked
  · exact hinv.above a s hs' ha

theorem loggedIds_sendFrameAndNotify (c : Conn) {f : HttpFrame} (hf : f.partStreamId = none) :
    loggedIds (c.sendFrameAndNotify f).queuedWrite.frames = loggedIds c.queuedWrite.frames := by
  show loggedIds (c.queuedWrite.queueNotGoaway f).frames = _
  rw [QueuedWrite.queueNotGoaway_frames]
  split
  · rfl
  · exact (openingIds_append_none hf).2

/-- A frame on no stream keeps `OpenOrder`. -/
theorem OpenOrder.sendFrameAndNotify {c : Conn} (hinv : c.OpenOrder) {f : HttpFrame}
    (hf : f.partStreamId = none) : (c.sendFrameAndNotify f).OpenOrder := by
  have hq : (c.sendFrameAndNotify f).queuedWrite = c.queuedWrite.queueNotGoaway f := rfl
  have hlog : loggedIds (c.sendFrameAndNotify f).queuedWrite.frames = loggedIds c.queuedWrite.frames ∧
      openingIds (c.sendFrameAndNotify f).queuedWrite.frames = openingIds c.queuedWrite.frames := by
    rw [hq, QueuedWrite.queueNotGoaway_frames]
    split
    · exact ⟨rfl, rfl⟩
    · exact ⟨(openingIds_append_none hf).2, (openingIds_append_none hf).1⟩
  have hg : (c.sendFrameAndNotify f).queuedWrite.goawayQueued = c.queuedWrite.goawayQueued := by
    rw [hq, QueuedWrite.queueNotGoaway_goawayQueued]
  refine ⟨?_, ?_, ?_, ?_⟩ <;> simp only [hlog.1, hlog.2, hg]
  · exact hinv.window_eq
  · exact hinv.ready
  · exact hinv.above
  · exact hinv.sorted

/-- The transport taking bytes keeps `OpenOrder`. -/
theorem OpenOrder.poll {c : Conn} (hinv : c.OpenOrder) (accepted : Nat) :
    (c.withQueue (c.queuedWrite.poll accepted)).OpenOrder :=
  ⟨hinv.window_eq, hinv.ready, hinv.above, hinv.sorted⟩

/-- The ids written after queueing the frames of one part of stream `j`. -/
theorem mem_loggedIds_queueAll (q : QueuedWrite) {fs : List HttpFrame} {j : Nat}
    (hon : ∀ f ∈ fs, f.partStreamId = some j) (x : Nat) :
    x ∈ loggedIds (q.queueAll fs).frames ↔
      x ∈ loggedIds q.frames ∨ (q.goawayQueued = false ∧ fs ≠ [] ∧ x = j) := by
  rw [QueuedWrite.queueAll_frames]
  cases q.goawayQueued <;> simp [mem_loggedIds_on hon]

/-- One part write on stream `j` keeps `OpenOrder`, given that every stream still to be visited
    in this pass is at or above `j`. -/
theorem partWrite_openOrder {fuel j : Nat} {c c₁ c₂ : Conn} {command : HttpStreamCommand}
    {cont : Bool} (hinv : OpenOrder c)
    (horder : c.queuedWrite.goawayQueued = false → j ∉ loggedIds c.queuedWrite.frames →
      ∀ a s, c.streams.get a = some s → a ∉ loggedIds c.queuedWrite.frames →
        ¬s.Blocked c.outWindowSize → j ≤ a)
    (hpop : c.popOutgForStream j = some (some (j, command, cont), c₁))
    (hwrite : c₁.writePart fuel j command = some c₂) : OpenOrder c₂ := by
  obtain ⟨sj, s', w, m, fs, hsj, hp, hmj, hmk, rfl, hon, hnil, -⟩ := partWrite_spec hpop hwrite
  have hfree : ¬sj.Blocked c.outWindowSize := fun hb => by simp [HttpStreamCommon.popOutg_of_blocked hb] at hp
  have hw : w ≤ c.outWindowSize := HttpStreamCommon.popOutg_connWindow_le hp
  have hlog := mem_loggedIds_queueAll c.queuedWrite hon
  -- a stream that stays unwritten kept its record, or is `j` after a part that wrote nothing
  have hsilent : j ∉ loggedIds (c.queuedWrite.queueAll fs).frames →
      c.queuedWrite.goawayQueued = false → command = .data [] .no := fun hj hg =>
    hnil (by by_contra hne; exact hj ((hlog j).mpr (.inr ⟨hg, hne, rfl⟩)))
  have hj_unlogged : j ∉ loggedIds (c.queuedWrite.queueAll fs).frames →
      j ∉ loggedIds c.queuedWrite.frames := fun hj h => hj ((hlog j).mpr (.inl h))
  have hget : ∀ a s, m.get a = some s → (a = j ∧ cont = true ∧ s = s') ∨ (a ≠ j ∧ c.streams.get a = some s) := by
    intro a s hs
    by_cases ha : a = j
    · subst ha
      rw [hmj] at hs
      cases cont
      · cases hs
      · cases hs; exact .inl ⟨rfl, rfl, rfl⟩
    · exact .inr ⟨ha, (hmk a ha).symm.trans hs⟩
  refine ⟨fun hg a s hs ha => ?_, fun hg a s hs ha => ?_, fun a s hs ha => ?_, ?_⟩
  · -- window_eq
    simp only [QueuedWrite.queueAll_goawayQueued] at hg
    rcases hget a s hs with ⟨rfl, -, rfl⟩ | ⟨ha', hs'⟩
    · rw [HttpStreamCommon.popOutg_outWindowSize hp, hsilent ha hg,
        hinv.window_eq hg a sj hsj (hj_unlogged ha)]
      simp [HttpStreamCommand.dataLen]
    · exact hinv.window_eq hg a s hs' fun h => ha ((hlog a).mpr (.inl h))
  · -- ready
    simp only [QueuedWrite.queueAll_goawayQueued] at hg
    rcases hget a s hs with ⟨rfl, -, rfl⟩ | ⟨ha', hs'⟩
    · have hcmd := hsilent ha hg
      rcases hinv.ready hg a sj hsj (hj_unlogged ha) with hf | hend
      · obtain ⟨hs, es, hh⟩ := HttpStreamCommon.popOutg_of_frontIsHeaders_eq hf hp
        rw [hcmd] at hh; cases hh
      · rw [hcmd] at hp
        obtain ⟨he, hc⟩ := HttpStreamCommon.popOutg_silent hp
        exact .inr ⟨he ▸ hend.1, hc ▸ hend.2⟩
    · exact hinv.ready hg a s hs' fun h => ha ((hlog a).mpr (.inl h))
  · -- above
    rcases hget a s hs with ⟨rfl, -, rfl⟩ | ⟨ha', hs'⟩
    · refine .inl fun x hx => ?_
      rcases (hlog x).mp hx with hx | ⟨hg, hne, rfl⟩
      · exact ((hinv.above a sj hsj (hj_unlogged ha)).resolve_right hfree) x hx
      · exact absurd ((hlog x).mpr (.inr ⟨hg, hne, rfl⟩)) ha
    · have ha₀ : a ∉ loggedIds c.queuedWrite.frames := fun h => ha ((hlog a).mpr (.inl h))
      by_cases hb : s.Blocked c.outWindowSize
      · exact .inr ⟨hb.1, hb.2.imp_right fun h => hw.trans h⟩
      refine .inl fun x hx => ?_
      rcases (hlog x).mp hx with hx | ⟨hg, -, rfl⟩
      · exact ((hinv.above a s hs' ha₀).resolve_right hb) x hx
      · by_cases hx₀ : x ∈ loggedIds c.queuedWrite.frames
        · exact ((hinv.above a s hs' ha₀).resolve_right hb) x hx₀
        · exact lt_of_le_of_ne (horder hg hx₀ a s hs' ha₀ hb) (Ne.symm ha')
  · -- sorted
    rw [QueuedWrite.queueAll_frames]
    split
    · exact hinv.sorted
    · exact sorted_openingIds_append_on hinv.sorted hon fun hj =>
        (hinv.above j sj hsj hj).resolve_right hfree

/-- What one part write on stream `j` changes: stream `j` only, the connection window
    downwards, and the ids written by at most `j`. A stream `j` that still has written
    nothing, with no GOAWAY queued, kept its window. -/
theorem partWrite_effects {fuel j : Nat} {c c₁ c₂ : Conn} {command : HttpStreamCommand}
    {cont : Bool} (hpop : c.popOutgForStream j = some (some (j, command, cont), c₁))
    (hwrite : c₁.writePart fuel j command = some c₂) :
    (∀ a, a ≠ j → c₂.streams.get a = c.streams.get a) ∧ c₂.outWindowSize ≤ c.outWindowSize ∧
    c₂.peerSettings = c.peerSettings ∧ c₂.nextStreamId = c.nextStreamId ∧
    c₂.queuedWrite.goawayQueued = c.queuedWrite.goawayQueued ∧
    (∀ x ∈ loggedIds c₂.queuedWrite.frames, x ∈ loggedIds c.queuedWrite.frames ∨ x = j) ∧
    (∀ x ∈ loggedIds c.queuedWrite.frames, x ∈ loggedIds c₂.queuedWrite.frames) ∧
    (c.queuedWrite.goawayQueued = false → j ∉ loggedIds c₂.queuedWrite.frames →
      ∀ s, c₂.streams.get j = some s →
        ∃ s₀, c.streams.get j = some s₀ ∧ s.outWindowSize = s₀.outWindowSize) := by
  obtain ⟨sj, s', w, m, fs, hsj, hp, hmj, hmk, rfl, hon, hnil, -⟩ := partWrite_spec hpop hwrite
  have hlog := mem_loggedIds_queueAll c.queuedWrite hon
  refine ⟨hmk, HttpStreamCommon.popOutg_connWindow_le hp, rfl, rfl, by simp [withQueue],
    fun x hx => ((hlog x).mp hx).imp_right fun h => h.2.2, fun x hx => (hlog x).mpr (.inl hx),
    fun hg hj s hs => ⟨sj, hsj, ?_⟩⟩
  have hcmd : command = .data [] .no :=
    hnil (by by_contra hne; exact hj ((hlog j).mpr (.inr ⟨hg, hne, rfl⟩)))
  rw [hmj] at hs
  split at hs
  · cases hs
    rw [HttpStreamCommon.popOutg_outWindowSize hp, hcmd]
    simp [HttpStreamCommand.dataLen]
  · cases hs

/-- A buffering pass keeps the next id to hand out. -/
theorem bufferOutgConn_nextStreamId {fuel : Nat} {c c' : Conn} {updated : Bool}
    (h : bufferOutgConn fuel c = some (c', updated)) : c'.nextStreamId = c.nextStreamId :=
  bufferOutgConn_induction (fun c' => c'.nextStreamId = c.nextStreamId)
    (fun _ _ _ _ _ _ hc _ hpop hwrite => (partWrite_effects hpop hwrite).2.2.2.1.trans hc) rfl h

/-- What a pass owes `OpenOrder` about the streams it has still to visit: their ids in
    increasing order, a nonzero window for those that wrote nothing, and, while no GOAWAY is
    queued and the peer's initial window is nonzero, every stream that wrote nothing and is not
    blocked among them. -/
structure PassOrder (c : Conn) (ids : List Nat) : Prop where
  sorted : ids.Sorted (· < ·)
  window_ne : c.queuedWrite.goawayQueued = false → ∀ i ∈ ids, ∀ s, c.streams.get i = some s →
    i ∉ loggedIds c.queuedWrite.frames → s.outWindowSize ≠ 0
  visits : c.queuedWrite.goawayQueued = false → c.peerSettings.initialWindowSize ≠ 0 →
    ∀ a s, c.streams.get a = some s → a ∉ loggedIds c.queuedWrite.frames →
      ¬s.Blocked c.outWindowSize → a ∈ ids

theorem partWrite_passOrder {fuel j : Nat} {rest : List Nat} {c c₁ c₂ : Conn}
    {command : HttpStreamCommand} {cont : Bool} (hpass : PassOrder c (j :: rest))
    (hpop : c.popOutgForStream j = some (some (j, command, cont), c₁))
    (hwrite : c₁.writePart fuel j command = some c₂) : PassOrder c₂ (j :: rest) := by
  obtain ⟨hother, hw, hps, -, hg, hlog, hlog', hwin⟩ := partWrite_effects hpop hwrite
  refine ⟨hpass.sorted, fun hg₂ i hi s hs hu => ?_, fun hg₂ hW a s hs hu hb => ?_⟩
  · rw [hg] at hg₂
    by_cases hij : i = j
    · subst hij
      obtain ⟨s₀, hs₀, hws⟩ := hwin hg₂ hu s hs
      exact hws ▸ hpass.window_ne hg₂ i hi s₀ hs₀ fun h => hu (hlog' i h)
    · exact hpass.window_ne hg₂ i hi s ((hother i hij).symm.trans hs) fun h => hu (hlog' i h)
  · rw [hg] at hg₂
    rw [hps] at hW
    by_cases haj : a = j
    · exact haj ▸ List.mem_cons_self _ _
    · exact hpass.visits hg₂ hW a s ((hother a haj).symm.trans hs) (fun h => hu (hlog' a h))
        fun hb' => hb ⟨hb'.1, hb'.2.imp_right fun h => hw.trans h⟩

/-- The order of the visit gives `partWrite_openOrder` what it needs. -/
theorem horder_of_passOrder {j : Nat} {rest : List Nat} {c c₁ : Conn} {command : HttpStreamCommand}
    {cont : Bool} (hinv : OpenOrder c) (hpass : PassOrder c (j :: rest))
    (hpop : c.popOutgForStream j = some (some (j, command, cont), c₁)) :
    c.queuedWrite.goawayQueued = false → j ∉ loggedIds c.queuedWrite.frames →
      ∀ a s, c.streams.get a = some s → a ∉ loggedIds c.queuedWrite.frames →
        ¬s.Blocked c.outWindowSize → j ≤ a := by
  intro hg hj a s hs hu hb
  obtain ⟨sj, hsj, -⟩ := popOutgForStream_some hpop
  have hW : c.peerSettings.initialWindowSize ≠ 0 :=
    hinv.window_eq hg j sj hsj hj ▸ hpass.window_ne hg j (List.mem_cons_self _ _) sj hsj hj
  rcases List.mem_cons.mp (hpass.visits hg hW a s hs hu hb) with rfl | ha
  · exact le_rfl
  · exact le_of_lt (List.rel_of_sorted_cons hpass.sorted a ha)

theorem bufferStream_openOrder {fuel j : Nat} {rest : List Nat} {n : Nat} {c : Conn}
    {updated : Bool} {e : LoopExit} (hinv : OpenOrder c) (hpass : PassOrder c (j :: rest))
    (h : bufferStream fuel j n c updated = some e) :
    OpenOrder e.conn ∧ PassOrder e.conn (j :: rest) :=
  bufferStream_induction (fun c => OpenOrder c ∧ PassOrder c (j :: rest))
    (fun _ _ _ _ _ hc _ hpop hwrite =>
      ⟨partWrite_openOrder hc.1 (horder_of_passOrder hc.1 hc.2 hpop) hpop hwrite,
        partWrite_passOrder hc.2 hpop hwrite⟩) ⟨hinv, hpass⟩ h

/-- Leaving stream `j` for the next one, `j` is written, blocked or gone. -/
theorem passOrder_brk {fuel j n : Nat} {rest : List Nat} {c c' : Conn} {updated updated' : Bool}
    (hinv : OpenOrder c') (hpass : PassOrder c' (j :: rest))
    (h : bufferStream fuel j n c updated = some (.brk c' updated')) : PassOrder c' rest := by
  refine ⟨hpass.sorted.of_cons, fun hg i hi => hpass.window_ne hg i (List.mem_cons_of_mem _ hi),
    fun hg hW a s hs hu hb => ?_⟩
  rcases List.mem_cons.mp (hpass.visits hg hW a s hs hu hb) with rfl | ha
  · have hq : s.hasQueuedOutput = true := by
      rcases hinv.ready hg a s hs hu with hf | ⟨hend, hcl⟩
      · exact HttpStreamCommon.hasQueuedOutput_of_frontIsHeaders hf
      · simp [HttpStreamCommon.hasQueuedOutput, hend, hcl]
    exact absurd (HttpStreamCommon.blocked_of_popOutg_eq_none (bufferStream_brk h s hs) hq) hb
  · exact ha

theorem bufferStreams_openOrder {fuel : Nat} :
    ∀ {ids c updated c' updated'}, OpenOrder c → PassOrder c ids →
      bufferStreams fuel ids c updated = some (c', updated') → OpenOrder c'
  | [], _, _, _, _, hinv, _, h => by cases h; exact hinv
  | j :: rest, c, updated, c', updated', hinv, hpass, h => by
      simp only [bufferStreams] at h
      split at h
      · cases h
      · cases h; exact (bufferStream_openOrder hinv hpass ‹_›).1
      · rename_i c'' u'' hs
        obtain ⟨hinv', hpass'⟩ := bufferStream_openOrder hinv hpass hs
        exact bufferStreams_openOrder hinv' (passOrder_brk hinv' hpass' hs) h

/-- A buffering pass keeps `OpenOrder`: it visits every writable stream in increasing id
    order. -/
theorem bufferOutgConn_openOrder {fuel : Nat} {c c' : Conn} {updated : Bool} (hinv : OpenOrder c)
    (h : bufferOutgConn fuel c = some (c', updated)) : OpenOrder c' := by
  unfold bufferOutgConn at h
  split at h
  · cases h; exact hinv
  refine bufferStreams_openOrder hinv ⟨StreamMap.sorted_idsWhere _ _, fun _ i hi s hs _ => ?_,
    fun hg hW a s hs hu hb => ?_⟩ h
  · obtain ⟨s₀, hs₀, hw⟩ := StreamMap.get_of_mem_idsWhere hi
    obtain rfl := Option.some.inj (hs₀.symm.trans hs)
    exact of_decide_eq_true (Bool.and_eq_true _ _ ▸ hw).2
  · refine StreamMap.mem_idsWhere hs ?_
    have hq : s.hasQueuedOutput = true := by
      rcases hinv.ready hg a s hs hu with hf | ⟨hend, hcl⟩
      · exact HttpStreamCommon.hasQueuedOutput_of_frontIsHeaders hf
      · simp [HttpStreamCommon.hasQueuedOutput, hend, hcl]
    simp [HttpStreamCommon.isWritable, hq, hinv.window_eq hg a s hs hu, hW]

/-! ## One stream opening with HEADERS -/

/-- Stream `n` opens with HEADERS: once it has a frame, its first is HEADERS; until then its
    header block is in front, or a GOAWAY is queued and nothing more is written. -/
def OpensWithHeaders (c : Conn) (n : Nat) : Prop :=
  (n ∈ loggedIds c.queuedWrite.frames → n ∈ openingIds c.queuedWrite.frames) ∧
  (n ∉ loggedIds c.queuedWrite.frames → c.queuedWrite.goawayQueued = true ∨
    ∀ s, c.streams.get n = some s → s.frontIsHeaders = true)

/-- `OpensWithHeaders` only looks at the frames, the GOAWAY flag and stream `n`, which the user
    may only add to. -/
theorem OpensWithHeaders.mono {c c' : Conn} {n : Nat} (h : c.OpensWithHeaders n)
    (hframes : c'.queuedWrite.frames = c.queuedWrite.frames)
    (hg : c'.queuedWrite.goawayQueued = c.queuedWrite.goawayQueued)
    (hs : ∀ s, c'.streams.get n = some s → ∃ s₀, c.streams.get n = some s₀ ∧ s₀.Extends s) :
    c'.OpensWithHeaders n := by
  rw [OpensWithHeaders, hframes, hg]
  refine ⟨h.1, fun hn => (h.2 hn).imp_right fun hf s hs' => ?_⟩
  obtain ⟨s₀, hs₀, hext⟩ := hs s hs'
  exact hext.frontIsHeaders (hf s₀ hs₀)

theorem OpensWithHeaders.sendFrameAndNotify {c : Conn} {n : Nat} (h : c.OpensWithHeaders n)
    {f : HttpFrame} (hf : f.partStreamId = none) : (c.sendFrameAndNotify f).OpensWithHeaders n := by
  have hq : (c.sendFrameAndNotify f).queuedWrite = c.queuedWrite.queueNotGoaway f := rfl
  unfold OpensWithHeaders
  rw [hq, QueuedWrite.queueNotGoaway_goawayQueued, QueuedWrite.queueNotGoaway_frames]
  split
  · exact h
  · rw [(openingIds_append_none hf).1, (openingIds_append_none hf).2]
    exact h

/-- A part write keeps `OpensWithHeaders`: on stream `n` with its header block in front, the
    part is that block, one HEADERS frame. -/
theorem partWrite_opensWithHeaders {fuel j n : Nat} {c c₁ c₂ : Conn} {command : HttpStreamCommand}
    {cont : Bool} (h : c.OpensWithHeaders n)
    (hpop : c.popOutgForStream j = some (some (j, command, cont), c₁))
    (hwrite : c₁.writePart fuel j command = some c₂) : c₂.OpensWithHeaders n := by
  obtain ⟨sj, s', w, m, fs, hsj, hp, -, hmk, rfl, hon, -, hhead⟩ := partWrite_spec hpop hwrite
  have hlog := mem_loggedIds_queueAll c.queuedWrite hon
  unfold OpensWithHeaders
  rw [QueuedWrite.queueAll_goawayQueued]
  by_cases hn : n ∈ loggedIds c.queuedWrite.frames
  · refine ⟨fun _ => ?_, fun h' => absurd ((hlog n).mpr (.inl hn)) h'⟩
    rw [QueuedWrite.queueAll_frames]
    split
    · exact h.1 hn
    · rw [openingIds_append_on hon]; exact List.mem_append_left _ (h.1 hn)
  rcases h.2 hn with hg | hf
  · refine ⟨fun h' => ?_, fun _ => .inl hg⟩
    rcases (hlog n).mp h' with h' | ⟨hg', -⟩
    · exact absurd h' hn
    · simp [hg] at hg'
  by_cases hjn : j = n
  · subst hjn
    obtain ⟨hs, es, rfl⟩ := HttpStreamCommon.popOutg_of_frontIsHeaders_eq (hf sj hsj) hp
    obtain ⟨f, rfl⟩ := hhead hs es rfl
    cases hg : c.queuedWrite.goawayQueued
    · refine ⟨fun _ => ?_, fun h' => absurd ((hlog j).mpr (.inr ⟨hg, by simp, rfl⟩)) h'⟩
      rw [QueuedWrite.queueAll_frames, hg, if_neg Bool.false_ne_true, openingIds_append_on hon]
      simp [hn, HttpFrame.isHeaders]
    · exact ⟨fun h' => absurd ((hlog j).mp h') (by simp [hn, hg]), fun _ => .inl rfl⟩
  · have hn' : n ∉ loggedIds (c.queuedWrite.queueAll fs).frames := fun h' =>
      ((hlog n).mp h').elim hn fun h'' => hjn h''.2.2.symm
    exact ⟨fun h' => absurd h' hn', fun _ => .inr fun s hs => hf s ((hmk n (Ne.symm hjn)).symm.trans hs)⟩

theorem OpensWithHeaders.bufferOutgConn {fuel n : Nat} {c c' : Conn} {updated : Bool}
    (ho : c.OpensWithHeaders n) (h : c.bufferOutgConn fuel = some (c', updated)) :
    c'.OpensWithHeaders n :=
  bufferOutgConn_induction (fun c => c.OpensWithHeaders n)
    (fun _ _ _ _ _ _ ho _ hpop hwrite => partWrite_opensWithHeaders ho hpop hwrite) ho h

theorem OpensWithHeaders.update {c : Conn} {n id : Nat} (ho : c.OpensWithHeaders n)
    {f : HttpStreamCommon → HttpStreamCommon} (hf : ∀ s, c.streams.get id = some s → s.Extends (f s)) :
    OpensWithHeaders { c with streams := c.streams.update id f } n := by
  refine ho.mono rfl rfl fun s hs => ?_
  rcases StreamMap.get_update_eq_some hs with ⟨rfl, s₀, hs₀, rfl⟩ | ⟨-, hs'⟩
  · exact ⟨s₀, hs₀, hf s₀ hs₀⟩
  · exact ⟨s, hs', .refl s⟩

end Conn

end Httpbis.Common

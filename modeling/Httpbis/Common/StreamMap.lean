import Httpbis.Common.Stream

/-! # The stream map

`common/stream_map.rs` is not among the sources. The spec describes an ordered mapping from
stream id to stream record with insert, get, get-mut, remove and iteration over the writable
streams; the model keeps its entries sorted by id, and the sortedness is a field, so that
iteration visits ids in increasing order.
-/

namespace Httpbis.Common

/-- Insert into a list of entries sorted by id, replacing an entry of the same id. -/
def insertSorted {α : Type} (id : Nat) (v : α) : List (Nat × α) → List (Nat × α)
  | [] => [(id, v)]
  | (k, w) :: rest =>
      if id < k then (id, v) :: (k, w) :: rest
      else if id = k then (id, v) :: rest
      else (k, w) :: insertSorted id v rest

theorem mem_keys_insertSorted {α : Type} (id : Nat) (v : α) (l : List (Nat × α)) :
    ∀ k ∈ (insertSorted id v l).map Prod.fst, k = id ∨ k ∈ l.map Prod.fst := by
  induction l with
  | nil => simp [insertSorted]
  | cons e rest ih =>
      obtain ⟨k, w⟩ := e
      intro x hx
      simp only [insertSorted] at hx
      by_cases hlt : id < k
      · rw [if_pos hlt] at hx
        exact List.mem_cons.mp hx
      rw [if_neg hlt] at hx
      by_cases heq : id = k
      · rw [if_pos heq] at hx
        exact (List.mem_cons.mp hx).imp_right (List.mem_cons_of_mem _)
      rw [if_neg heq] at hx
      rcases List.mem_cons.mp hx with rfl | hx
      · exact .inr (List.mem_cons_self _ _)
      · exact (ih x hx).imp_right (List.mem_cons_of_mem _)

theorem sorted_insertSorted {α : Type} (id : Nat) (v : α) {l : List (Nat × α)}
    (h : (l.map Prod.fst).Sorted (· < ·)) : ((insertSorted id v l).map Prod.fst).Sorted (· < ·) := by
  induction l with
  | nil => simp [insertSorted]
  | cons e rest ih =>
      obtain ⟨k, w⟩ := e
      rw [List.map_cons, List.sorted_cons] at h
      simp only [insertSorted]
      split_ifs with hlt heq
      · simp only [List.map_cons, List.sorted_cons, List.mem_cons]
        exact ⟨fun b hb => hb.elim (· ▸ hlt) (fun hb => hlt.trans (h.1 b hb)), h.1, h.2⟩
      · subst heq
        simpa only [List.map_cons, List.sorted_cons] using h
      · simp only [List.map_cons, List.sorted_cons]
        refine ⟨fun b hb => ?_, ih h.2⟩
        rcases mem_keys_insertSorted id v rest b hb with rfl | hb
        · omega
        · exact h.1 b hb

/-- Modelled from the spec: `StreamMap`, entries sorted by stream id. -/
structure StreamMap (α : Type) where
  entries : List (Nat × α)
  sorted : (entries.map Prod.fst).Sorted (· < ·)

namespace StreamMap

variable {α : Type}

/-- The empty map. -/
def empty : StreamMap α := ⟨[], List.sorted_nil⟩

/-- The ids in the map, in increasing order. -/
def keys (m : StreamMap α) : List Nat := m.entries.map Prod.fst

/-- `get`. -/
def get (m : StreamMap α) (id : Nat) : Option α := m.entries.lookup id

/-- `HashMap::insert`: the entry replaces any entry of the same id, which it returns. -/
def insert (m : StreamMap α) (id : Nat) (v : α) : Option α × StreamMap α :=
  (m.get id, ⟨insertSorted id v m.entries, sorted_insertSorted id v m.sorted⟩)

/-- `get_mut` followed by an update of the stream. -/
def update (m : StreamMap α) (id : Nat) (f : α → α) : StreamMap α :=
  ⟨m.entries.map fun e => if e.1 = id then (e.1, f e.2) else e,
    by rw [List.map_map]; convert m.sorted using 2; funext e; simp only [Function.comp]; split <;> rfl⟩

/-- `remove`. -/
def remove (m : StreamMap α) (id : Nat) : StreamMap α :=
  ⟨m.entries.filter (·.1 != id),
    m.sorted.sublist ((List.filter_sublist m.entries).map Prod.fst)⟩

/-- Apply `f` to every entry. -/
def map (m : StreamMap α) (f : α → α) : StreamMap α :=
  ⟨m.entries.map fun e => (e.1, f e.2), by rw [List.map_map]; exact m.sorted⟩

/-- The ids whose stream satisfies `p`, in increasing order. -/
def idsWhere (m : StreamMap α) (p : α → Bool) : List Nat :=
  (m.entries.filter (p ·.2)).map Prod.fst

theorem sorted_idsWhere (m : StreamMap α) (p : α → Bool) : (m.idsWhere p).Sorted (· < ·) :=
  m.sorted.sublist ((List.filter_sublist m.entries).map Prod.fst)

private theorem lookup_eq_none {l : List (Nat × α)} {id : Nat} (h : id ∉ l.map Prod.fst) :
    l.lookup id = none := by
  induction l with
  | nil => rfl
  | cons e rest ih =>
      obtain ⟨k, w⟩ := e
      simp only [List.map_cons, List.mem_cons, not_or] at h
      have hk : (id == k) = false := by simpa using h.1
      simp [List.lookup, hk, ih h.2]

theorem get_eq_none {m : StreamMap α} {id : Nat} (h : id ∉ m.keys) : m.get id = none :=
  lookup_eq_none h

theorem mem_keys_insert (m : StreamMap α) (id : Nat) (v : α) :
    ∀ k ∈ (m.insert id v).2.keys, k = id ∨ k ∈ m.keys :=
  mem_keys_insertSorted id v m.entries

theorem mem_keys_remove (m : StreamMap α) (id k : Nat) (h : k ∈ (m.remove id).keys) :
    k ∈ m.keys :=
  ((List.filter_sublist m.entries).map Prod.fst).subset h

theorem get_update (m : StreamMap α) (id k : Nat) (f : α → α) :
    (m.update id f).get k = if k = id then (m.get id).map f else m.get k := by
  simp only [get, update]
  induction m.entries with
  | nil => split <;> rfl
  | cons e rest ih =>
      obtain ⟨j, w⟩ := e
      by_cases hk : k = j
      · subst hk; by_cases hj : k = id <;> simp [List.lookup_cons, hj, ih]
      · have hkj := beq_false_of_ne hk
        by_cases hj : j = id
        · subst hj; simp [List.lookup_cons, hk, hkj, ih]
        · simp [List.lookup_cons, hj, hkj, beq_false_of_ne (Ne.symm hj), ih]

theorem get_update_eq_some {m : StreamMap α} {id k : Nat} {f : α → α} {v : α}
    (h : (m.update id f).get k = some v) :
    (k = id ∧ ∃ v₀, m.get id = some v₀ ∧ v = f v₀) ∨ (k ≠ id ∧ m.get k = some v) := by
  rw [get_update] at h
  split at h
  · subst k
    obtain ⟨v₀, hv₀, rfl⟩ := Option.map_eq_some'.mp h
    exact .inl ⟨rfl, v₀, hv₀, rfl⟩
  · exact .inr ⟨‹_›, h⟩

@[simp] theorem get_update_self (m : StreamMap α) (id : Nat) (f : α → α) :
    (m.update id f).get id = (m.get id).map f := by
  simp [get_update]

theorem get_remove (m : StreamMap α) (id k : Nat) :
    (m.remove id).get k = if k = id then none else m.get k := by
  simp only [get, remove]
  induction m.entries with
  | nil => split <;> rfl
  | cons e rest ih =>
      obtain ⟨j, w⟩ := e
      by_cases hj : j = id
      · subst hj
        rw [List.filter_cons_of_neg (by simp), ih]
        by_cases hk : k = j
        · simp [hk]
        · simp [hk, List.lookup_cons, beq_false_of_ne hk]
      · rw [List.filter_cons_of_pos (by simpa using hj)]
        by_cases hk : k = j
        · subst hk; simp [List.lookup_cons, hj]
        · simp [List.lookup_cons, beq_false_of_ne hk, ih]

private theorem lookup_insertSorted (id k : Nat) (v : α) (l : List (Nat × α)) :
    (insertSorted id v l).lookup k = if k = id then some v else l.lookup k := by
  induction l with
  | nil =>
      by_cases hk : k = id
      · simp [insertSorted, List.lookup_cons, hk]
      · simp [insertSorted, List.lookup_cons, hk, beq_false_of_ne hk]
  | cons e rest ih =>
      obtain ⟨j, w⟩ := e
      simp only [insertSorted]
      by_cases hk : k = id
      · subst hk
        rw [if_pos rfl] at ih ⊢
        split_ifs with hlt heq
        · simp [List.lookup_cons]
        · simp [List.lookup_cons]
        · simp [List.lookup_cons, beq_false_of_ne heq, ih]
      · have hki := beq_false_of_ne hk
        rw [if_neg hk] at ih ⊢
        split_ifs with hlt heq
        · simp [List.lookup_cons, hki, hk]
        · subst heq; simp [List.lookup_cons, hki, hk]
        · by_cases hkj : k = j
          · subst hkj; simp [List.lookup_cons, hk]
          · simp [List.lookup_cons, beq_false_of_ne hkj, ih, hk]

theorem get_insert (m : StreamMap α) (id k : Nat) (v : α) :
    (m.insert id v).2.get k = if k = id then some v else m.get k :=
  lookup_insertSorted id k v m.entries

private theorem mem_filter_of_lookup {p : α → Bool} {k : Nat} {v : α} :
    ∀ {l : List (Nat × α)}, l.lookup k = some v → p v = true → k ∈ (l.filter (p ·.2)).map Prod.fst
  | [], h, _ => by cases h
  | (j, w) :: rest, h, hp => by
      by_cases hk : k = j
      · subst hk
        simp only [List.lookup_cons, beq_self_eq_true, Option.some.injEq] at h
        subst h
        rw [List.filter_cons, if_pos hp]
        exact List.mem_cons_self _ _
      · simp only [List.lookup_cons, beq_false_of_ne hk] at h
        have := mem_filter_of_lookup h hp
        rw [List.filter_cons]
        split
        · exact List.mem_cons_of_mem _ this
        · exact this

theorem mem_idsWhere {m : StreamMap α} {p : α → Bool} {k : Nat} {v : α} (h : m.get k = some v)
    (hp : p v = true) : k ∈ m.idsWhere p :=
  mem_filter_of_lookup h hp

private theorem lookup_of_mem_filter {p : α → Bool} {k : Nat} :
    ∀ {l : List (Nat × α)}, (l.map Prod.fst).Sorted (· < ·) →
      k ∈ (l.filter (p ·.2)).map Prod.fst → ∃ v, l.lookup k = some v ∧ p v = true
  | [], _, h => by simp at h
  | (j, w) :: rest, hs, h => by
      rw [List.map_cons, List.sorted_cons] at hs
      simp only [List.filter_cons] at h
      by_cases hk : k = j
      · subst hk
        by_cases hp : p w = true
        · exact ⟨w, by simp [List.lookup_cons], hp⟩
        · simp only [hp, Bool.false_eq_true, ite_false] at h
          obtain ⟨⟨k', w'⟩, hmem, rfl⟩ := List.mem_map.mp h
          exact absurd (hs.1 _ (List.mem_map_of_mem Prod.fst (List.mem_of_mem_filter hmem)))
            (lt_irrefl _)
      · have h' : k ∈ (rest.filter (p ·.2)).map Prod.fst := by
          split at h
          · exact (List.mem_cons.mp h).resolve_left hk
          · exact h
        obtain ⟨v, hv, hp⟩ := lookup_of_mem_filter hs.2 h'
        exact ⟨v, by simp [List.lookup_cons, beq_false_of_ne hk, hv], hp⟩

theorem get_of_mem_idsWhere {m : StreamMap α} {p : α → Bool} {k : Nat} (h : k ∈ m.idsWhere p) :
    ∃ v, m.get k = some v ∧ p v = true :=
  lookup_of_mem_filter m.sorted h

@[simp] theorem get_map (m : StreamMap α) (f : α → α) (k : Nat) :
    (m.map f).get k = (m.get k).map f := by
  simp only [get, map]
  induction m.entries with
  | nil => rfl
  | cons e rest ih =>
      obtain ⟨j, w⟩ := e
      by_cases hk : k = j
      · subst hk; simp [List.lookup_cons]
      · simp [List.lookup_cons, beq_false_of_ne hk, ih]

@[simp] theorem keys_update (m : StreamMap α) (id : Nat) (f : α → α) :
    (m.update id f).keys = m.keys := by
  simp only [keys, update, List.map_map]
  congr 1; funext e; simp only [Function.comp]; split <;> rfl

/-- The sum of `f` over the streams of the map. -/
def sum (m : StreamMap α) (f : α → Nat) : Nat := (m.entries.map (f ·.2)).sum

private theorem sum_filter_ne (f : α → Nat) {id : Nat} {v : α} :
    ∀ {l : List (Nat × α)}, (l.map Prod.fst).Sorted (· < ·) → l.lookup id = some v →
      ((l.filter (·.1 != id)).map (f ·.2)).sum + f v = (l.map (f ·.2)).sum
  | [], _, h => by cases h
  | (j, w) :: rest, hs, h => by
      rw [List.map_cons, List.sorted_cons] at hs
      by_cases hj : id = j
      · subst hj
        simp only [List.lookup_cons, beq_self_eq_true, Option.some.injEq] at h
        subst h
        have hrest : rest.filter (·.1 != id) = rest := List.filter_eq_self.mpr fun e he => by
          have := hs.1 e.1 (List.mem_map_of_mem _ he)
          simpa using (Nat.ne_of_lt this).symm
        simp only [List.filter_cons, bne_self_eq_false, Bool.false_eq_true, ite_false, hrest,
          List.map_cons, List.sum_cons]
        omega
      · simp only [List.lookup_cons, beq_false_of_ne hj] at h
        rw [List.filter_cons_of_pos (by simpa using Ne.symm hj)]
        simp only [List.map_cons, List.sum_cons]
        have := sum_filter_ne f hs.2 h
        omega

/-- Removing a stream takes its share out of a sum. -/
theorem sum_remove {m : StreamMap α} {id : Nat} {v : α} (h : m.get id = some v) (f : α → Nat) :
    (m.remove id).sum f + f v = m.sum f :=
  sum_filter_ne f m.sorted h

private theorem sum_map_update (f : α → Nat) (g : α → α) {id : Nat} {v : α} :
    ∀ {l : List (Nat × α)}, (l.map Prod.fst).Sorted (· < ·) → l.lookup id = some v →
      ((l.map fun e => if e.1 = id then (e.1, g e.2) else e).map (f ·.2)).sum + f v =
        (l.map (f ·.2)).sum + f (g v)
  | [], _, h => by cases h
  | (j, w) :: rest, hs, h => by
      rw [List.map_cons, List.sorted_cons] at hs
      by_cases hj : id = j
      · subst hj
        simp only [List.lookup_cons, beq_self_eq_true, Option.some.injEq] at h
        subst h
        have hrest : (rest.map fun e => if e.1 = id then (e.1, g e.2) else e) = rest := by
          conv => rhs; rw [← List.map_id rest]
          exact List.map_congr_left fun e he => if_neg (Nat.ne_of_lt (hs.1 e.1 (List.mem_map_of_mem _ he))).symm
        simp only [List.map_cons, if_true, hrest, List.sum_cons]
        omega
      · simp only [List.lookup_cons, beq_false_of_ne hj] at h
        simp only [List.map_cons, if_neg (Ne.symm hj), List.sum_cons]
        have := sum_map_update f g hs.2 h
        omega

/-- Updating a stream replaces its share of a sum. -/
theorem sum_update {m : StreamMap α} {id : Nat} {v : α} (h : m.get id = some v) (g : α → α)
    (f : α → Nat) : (m.update id g).sum f + f v = m.sum f + f (g v) :=
  sum_map_update f g m.sorted h

private theorem sum_map_update_absent (f : α → Nat) (g : α → α) {id : Nat} :
    ∀ {l : List (Nat × α)}, l.lookup id = none →
      ((l.map fun e => if e.1 = id then (e.1, g e.2) else e).map (f ·.2)).sum = (l.map (f ·.2)).sum
  | [], _ => rfl
  | (j, w) :: rest, h => by
      have hj : id ≠ j := fun hj => by simp [List.lookup_cons, hj] at h
      simp only [List.lookup_cons, beq_false_of_ne hj] at h
      simp only [List.map_cons, if_neg (Ne.symm hj), List.sum_cons, sum_map_update_absent f g h]

/-- Updating an id not in the map leaves a sum as it was. -/
theorem sum_update_of_get_eq_none {m : StreamMap α} {id : Nat} (h : m.get id = none) (g : α → α)
    (f : α → Nat) : (m.update id g).sum f = m.sum f :=
  sum_map_update_absent f g h

private theorem sum_insertSorted (f : α → Nat) (id : Nat) (v : α) :
    ∀ {l : List (Nat × α)}, l.lookup id = none →
      ((insertSorted id v l).map (f ·.2)).sum = (l.map (f ·.2)).sum + f v
  | [], _ => by simp [insertSorted]
  | (k, w) :: rest, h => by
      have hk : id ≠ k := fun hk => by simp [List.lookup_cons, hk] at h
      simp only [List.lookup_cons, beq_false_of_ne hk] at h
      simp only [insertSorted, if_neg hk]
      split_ifs
      · simp only [List.map_cons, List.sum_cons]; omega
      · simp only [List.map_cons, List.sum_cons, sum_insertSorted f id v h]; omega

/-- Inserting a stream under a new id adds its share to a sum. -/
theorem sum_insert {m : StreamMap α} {id : Nat} (h : m.get id = none) (v : α) (f : α → Nat) :
    (m.insert id v).2.sum f = m.sum f + f v :=
  sum_insertSorted f id v h

end StreamMap

end Httpbis.Common

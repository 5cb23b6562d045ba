import NodeNet.CatalogEdits

/-! The queue of the points whose states are still to be sent. -/
namespace NodeNet.Catalog
open NodeNet.Points

def PointCatalog.queued (c : PointCatalog) : List Nat := c.dirtyStateQueue.map (·.1)

/-- The flags tell which points are queued, each of them once. -/
structure QueueOk (c : PointCatalog) : Prop where
  flags : ∀ i, c.dirtyStateFlags i = true ↔ i ∈ c.queued
  bound : ∀ i ∈ c.queued, i < c.size
  nodup : c.queued.Nodup
  size : c.size ≤ kMaxPoints
  -- while a full sync is called for, nothing is queued
  idle : c.runtimeFullSyncRequired = true → c.queued = []

theorem empty_queueOk : QueueOk .empty where
  flags i := by simp [PointCatalog.empty, PointCatalog.queued]
  bound i h := by cases h
  nodup := List.nodup_nil
  size := by decide
  idle _ := rfl

theorem QueueOk.of_emptied {c : PointCatalog} (hqueue : c.dirtyStateQueue = [])
    (hflags : c.dirtyStateFlags = fun _ => false) (hsize : c.size ≤ kMaxPoints) : QueueOk c where
  flags i := by simp [hflags, PointCatalog.queued, hqueue]
  bound i h := by
    rw [PointCatalog.queued, hqueue] at h
    cases h
  nodup := by
    rw [PointCatalog.queued, hqueue]
    exact List.nodup_nil
  size := hsize
  idle _ := by
    rw [PointCatalog.queued, hqueue]
    rfl

variable {c : PointCatalog} (h : QueueOk c)
include h

theorem QueueOk.has_room {index : Nat} (hindex : index < c.size)
    (hclean : c.dirtyStateFlags index = false) : c.dirtyStateQueue.length < kMaxPoints := by
  have hnot : index ∉ c.queued := by
    intro hmem
    rw [← h.flags, hclean] at hmem
    cases hmem
  have hsubset : index :: c.queued ⊆ List.range c.size := by
    intro i hi
    rw [List.mem_range]
    cases hi with
    | head => exact hindex
    | tail _ hi => exact h.bound i hi
  have hlength := List.Nodup.length_le_of_subset (List.nodup_cons.mpr ⟨hnot, h.nodup⟩) hsubset
  have hsize := h.size
  rw [List.length_cons, List.length_range, PointCatalog.queued, List.length_map] at hlength
  omega

theorem QueueOk.markStateDirty_cases (index : Nat) :
    (c.markStateDirty index = c ∧
      (c.size ≤ index ∨ c.runtimeFullSyncRequired = true ∨ index ∈ c.queued)) ∨
    index < c.size ∧ c.runtimeFullSyncRequired = false ∧ index ∉ c.queued ∧
      c.markStateDirty index =
        { c with
          statesSequence := c.statesSequence + 1
          dirtyStateQueue := c.dirtyStateQueue ++ [(index, c.statesSequence + 1)]
          dirtyStateFlags := fun i => if i = index then true else c.dirtyStateFlags i } := by
  rw [PointCatalog.markStateDirty]
  by_cases hpassed : c.size ≤ index ∨ c.runtimeFullSyncRequired ∨ c.dirtyStateFlags index
  · rw [if_pos hpassed]
    rw [h.flags] at hpassed
    exact .inl ⟨rfl, hpassed⟩
  · rw [if_neg hpassed]
    rw [not_or, not_or, Nat.not_le, Bool.not_eq_true, Bool.not_eq_true] at hpassed
    obtain ⟨hindex, hrequired, hclean⟩ := hpassed
    have hroom := h.has_room hindex hclean
    have hnot : index ∉ c.queued := by
      intro hmem
      rw [← h.flags, hclean] at hmem
      cases hmem
    dsimp only
    rw [if_neg (Nat.not_le.mpr hroom)]
    exact .inr ⟨hindex, hrequired, hnot, rfl⟩

theorem QueueOk.setState (index : Nat) (state : PointState) : QueueOk (c.setState index state) := by
  have hsize := size_eq_of_definitions (setState_definitions c index state)
  refine ⟨h.flags, fun i hi => ?_, h.nodup, ?_, h.idle⟩
  · rw [hsize]
    exact h.bound i hi
  · rw [hsize]
    exact h.size

theorem QueueOk.markStateDirty (index : Nat) : QueueOk (c.markStateDirty index) := by
  obtain ⟨hsame, -⟩ | ⟨hindex, hrequired, hnot, hmarked⟩ := h.markStateDirty_cases index
  · rw [hsame]
    exact h
  · rw [hmarked]
    have hqueued : (c.dirtyStateQueue ++ [(index, c.statesSequence + 1)]).map (·.1) =
        c.queued ++ [index] := by
      rw [List.map_append]
      rfl
    refine ⟨fun i => ?_, fun i hi => ?_, ?_, h.size, fun hrequired' => ?_⟩
    · change (if i = index then true else c.dirtyStateFlags i) = true ↔ i ∈ List.map _ _
      rw [hqueued, List.mem_append, List.mem_singleton, ← h.flags]
      by_cases hi : i = index
      · simp [hi]
      · simp [hi]
    · change i ∈ List.map _ _ at hi
      rw [hqueued, List.mem_append, List.mem_singleton] at hi
      cases hi with
      | inl hi => exact h.bound i hi
      | inr hi => exact hi ▸ hindex
    · change (List.map _ _).Nodup
      rw [hqueued]
      exact List.nodup_append.mpr ⟨h.nodup, by simp, fun a ha b hb hab =>
        hnot (List.mem_singleton.mp hb ▸ hab ▸ ha)⟩
    · change c.runtimeFullSyncRequired = true at hrequired'
      rw [hrequired] at hrequired'
      cases hrequired'

theorem QueueOk.markStateDirty_spec (index : Nat) :
    (c.markStateDirty index).entries = c.entries ∧
      (c.markStateDirty index).runtimeFullSyncRequired = c.runtimeFullSyncRequired ∧
      (∀ i ∈ c.queued, i ∈ (c.markStateDirty index).queued) ∧
      (index < c.size → c.runtimeFullSyncRequired = false →
        index ∈ (c.markStateDirty index).queued) := by
  obtain ⟨hsame, hwhy⟩ | ⟨-, -, -, hmarked⟩ := h.markStateDirty_cases index
  · rw [hsame]
    refine ⟨rfl, rfl, fun i hi => hi, fun hindex hrequired => ?_⟩
    obtain hlarge | hcalled | hmem := hwhy
    · omega
    · rw [hrequired] at hcalled
      cases hcalled
    · exact hmem
  · rw [hmarked]
    refine ⟨rfl, rfl, fun i hi => ?_, fun _ _ => ?_⟩
    · exact List.mem_map.mpr ((List.mem_map.mp hi).imp fun p hp =>
        ⟨List.mem_append_left _ hp.1, hp.2⟩)
    · exact List.mem_map.mpr ⟨(index, c.statesSequence + 1),
        List.mem_append_right _ (List.mem_singleton.mpr rfl), rfl⟩

theorem QueueOk.requestRuntimeFullSync : QueueOk c.requestRuntimeFullSync :=
  .of_emptied rfl rfl h.size

theorem QueueOk.acknowledgeRuntimeFullSync : QueueOk c.acknowledgeRuntimeFullSync :=
  ⟨h.flags, h.bound, h.nodup, h.size, fun hrequired => by cases hrequired⟩

theorem QueueOk.edited (e : CatalogEdit) : QueueOk (c.edited e) := by
  obtain hsame | ⟨-, -, hqueue, hflags⟩ := edited_cases c e
  · rw [hsame]
    exact h
  · exact .of_emptied hqueue hflags (edited_size h.size e)

theorem QueueOk.popped {index : Nat} {sequence : UInt32} {rest : List (Nat × UInt32)}
    (hqueue : c.dirtyStateQueue = (index, sequence) :: rest) :
    QueueOk { c with
      dirtyStateQueue := rest
      dirtyStateFlags := fun i => if i = index then false else c.dirtyStateFlags i } := by
  have hqueued : c.queued = index :: rest.map (·.1) := by
    rw [PointCatalog.queued, hqueue]
    rfl
  have hnodup := h.nodup
  rw [hqueued, List.nodup_cons] at hnodup
  refine ⟨fun i => ?_, fun i hi => h.bound i ?_, hnodup.2, h.size, fun hrequired => ?_⟩
  · change (if i = index then false else c.dirtyStateFlags i) = true ↔ i ∈ rest.map (·.1)
    by_cases hi : i = index
    · rw [if_pos hi, hi]
      simpa using hnodup.1
    · rw [if_neg hi, h.flags, hqueued]
      simp [hi]
  · rw [hqueued]
    exact .tail _ hi
  · have hidle := h.idle hrequired
    rw [hqueued] at hidle
    cases hidle

end NodeNet.Catalog

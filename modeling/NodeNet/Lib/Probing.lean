/-! Open addressing: a search and an insertion that follow one probe sequence. -/
namespace NodeNet.Probing

variable (next : Nat → Nat)

def probe : Nat → Nat → Nat
  | 0, slot => slot
  | k + 1, slot => probe k (next slot)

/-- Walks until a value that is `found`, a free slot, or the end of the probes. -/
def search (found : Nat → Bool) (slots : Nat → Option Nat) : Nat → Nat → Option Nat
  | 0, _ => none
  | probes + 1, slot =>
    match slots slot with
    | none => none
    | some i => if found i then some i else search found slots probes (next slot)

def store (slots : Nat → Option Nat) (slot i : Nat) : Nat → Option Nat :=
  fun s => if s = slot then some i else slots s

/-- Stores in the first slot that is free or holds a value that is `found`. -/
def place (found : Nat → Bool) (i : Nat) (slots : Nat → Option Nat) : Nat → Nat → Nat → Option Nat
  | 0, _ => slots
  | probes + 1, slot =>
    match slots slot with
    | none => store slots slot i
    | some i' => if found i' then store slots slot i else place found i slots probes (next slot)

/-- The walk from `slot` comes to `i`, past other values only. -/
def Reaches (slots : Nat → Option Nat) (probes slot i : Nat) : Prop :=
  ∃ k < probes, slots (probe next k slot) = some i ∧
    ∀ j < k, ∃ i', slots (probe next j slot) = some i' ∧ i' ≠ i

variable {next} {found : Nat → Bool} {slots : Nat → Option Nat} {probes slot i : Nat}

theorem Reaches.later {i' : Nat} (h : Reaches next slots (probes + 1) slot i)
    (hslot : slots slot = some i') (hne : i' ≠ i) : Reaches next slots probes (next slot) i := by
  obtain ⟨k, hk, hat, hbefore⟩ := h
  cases k with
  | zero => exact absurd (Option.some.inj (hslot.symm.trans hat)) hne
  | succ k => exact ⟨k, by omega, hat, fun j hj => hbefore (j + 1) (by omega)⟩

theorem search_of_reaches (h : Reaches next slots probes slot i) (hi : found i = true)
    (honly : ∀ s i', slots s = some i' → found i' = true → i' = i) :
    search next found slots probes slot = some i := by
  induction probes generalizing slot with
  | zero =>
    obtain ⟨k, hk, -⟩ := h
    omega
  | succ probes ih =>
    have hsome : ∃ i', slots slot = some i' := by
      obtain ⟨k, hk, hat, hbefore⟩ := h
      cases k with
      | zero => exact ⟨i, hat⟩
      | succ k =>
        obtain ⟨i', hi', -⟩ := hbefore 0 (by omega)
        exact ⟨i', hi'⟩
    obtain ⟨i', hslot⟩ := hsome
    simp only [search, hslot]
    by_cases hfound : found i' = true
    · rw [if_pos hfound, honly slot i' hslot hfound]
    · have hne : i' ≠ i := by
        rintro rfl
        exact hfound hi
      rw [if_neg hfound]
      exact ih (h.later hslot hne)

theorem place_of_free (hnone : ∀ s i', slots s = some i' → found i' = false)
    (hnew : ∀ s, slots s ≠ some i) (hfree : ∃ k < probes, slots (probe next k slot) = none) :
    ∃ s, slots s = none ∧ (∃ k < probes, s = probe next k slot) ∧
      place next found i slots probes slot = store slots s i ∧
      Reaches next (store slots s i) probes slot i := by
  induction probes generalizing slot with
  | zero =>
    obtain ⟨k, hk, -⟩ := hfree
    omega
  | succ probes ih =>
    cases hslot : slots slot with
    | none =>
      refine ⟨slot, hslot, ⟨0, by omega, rfl⟩, by simp [place, hslot], 0, by omega, ?_, ?_⟩
      · simp [probe, store]
      · intro j hj
        omega
    | some i' =>
      have hlater : ∃ k < probes, slots (probe next k (next slot)) = none := by
        obtain ⟨k, hk, hat⟩ := hfree
        cases k with
        | zero => exact absurd (hslot.symm.trans hat) (by simp)
        | succ k => exact ⟨k, by omega, hat⟩
      obtain ⟨s, hs, ⟨k, hk, hprobe⟩, hplace, k', hk', hat, hbefore⟩ := ih hlater
      refine ⟨s, hs, ⟨k + 1, by omega, hprobe⟩, ?_, k' + 1, by omega, hat, ?_⟩
      · simp [place, hslot, hnone slot i' hslot, hplace]
      · intro j hj
        cases j with
        | zero =>
          have hne : slot ≠ s := by
            rintro rfl
            exact absurd (hslot.symm.trans hs) (by simp)
          refine ⟨i', by simp [probe, store, hne, hslot], ?_⟩
          rintro rfl
          exact hnew slot hslot
        | succ j => exact hbefore j (by omega)

theorem Reaches.store {s i' : Nat} (h : Reaches next slots probes slot i) (hs : slots s = none) :
    Reaches next (store slots s i') probes slot i := by
  obtain ⟨k, hk, hat, hbefore⟩ := h
  have hkeep : ∀ t v, slots t = some v → Probing.store slots s i' t = some v := by
    intro t v ht
    have hne : t ≠ s := by
      rintro rfl
      exact absurd (ht.symm.trans hs) (by simp)
    simp [Probing.store, hne, ht]
  refine ⟨k, hk, hkeep _ _ hat, fun j hj => ?_⟩
  obtain ⟨v, hv, hne⟩ := hbefore j hj
  exact ⟨v, hkeep _ _ hv, hne⟩

/-- The probe sequence of a ring of slots. -/
def ringNext (capacity slot : Nat) : Nat := (slot + 1) % capacity

theorem probe_ring {capacity : Nat} (hslot : slot < capacity) (k : Nat) :
    probe (ringNext capacity) k slot = (slot + k) % capacity := by
  induction k generalizing slot with
  | zero => exact (Nat.mod_eq_of_lt hslot).symm
  | succ k ih =>
    have hpos : 0 < capacity := by omega
    have hnext : ringNext capacity slot < capacity := Nat.mod_lt _ hpos
    rw [probe, ih hnext, ringNext, Nat.mod_add_mod]
    congr 1
    omega

theorem exists_free {capacity n : Nat} (hslot : slot < capacity) (hn : n < capacity)
    (hbound : ∀ s i, slots s = some i → i < n)
    (honce : ∀ s s' i, slots s = some i → slots s' = some i → s = s') :
    ∃ k < capacity, slots (probe (ringNext capacity) k slot) = none := by
  apply Classical.byContradiction
  intro hfull
  have hvalue : ∀ k < capacity, ∃ i, slots ((slot + k) % capacity) = some i := by
    intro k hk
    cases hat : slots ((slot + k) % capacity) with
    | none => exact absurd ⟨k, hk, (probe_ring hslot k).symm ▸ hat⟩ hfull
    | some i => exact ⟨i, rfl⟩
  let values := (List.range capacity).map fun k => (slots ((slot + k) % capacity)).getD 0
  have hnodup : values.Nodup := by
    refine List.pairwise_map.mpr (List.Pairwise.imp_of_mem ?_ List.nodup_range)
    intro k k' hk hk' hne heq
    rw [List.mem_range] at hk hk'
    obtain ⟨i, hi⟩ := hvalue k hk
    obtain ⟨i', hi'⟩ := hvalue k' hk'
    rw [hi, hi', Option.getD_some, Option.getD_some] at heq
    subst heq
    have hsame := honce _ _ _ hi hi'
    have hmod : ∀ k < capacity, (slot + k) % capacity =
        if slot + k < capacity then slot + k else slot + k - capacity := by
      intro k hk
      split
      · next hlt => exact Nat.mod_eq_of_lt hlt
      · next hge => rw [Nat.mod_eq_sub_mod (by omega), Nat.mod_eq_of_lt (by omega)]
    rw [hmod k hk, hmod k' hk'] at hsame
    split at hsame <;> split at hsame <;> omega
  have hsubset : values ⊆ List.range n := by
    intro i hi
    obtain ⟨k, hk, rfl⟩ := List.mem_map.mp hi
    obtain ⟨i, hi⟩ := hvalue k (List.mem_range.mp hk)
    rw [hi, Option.getD_some, List.mem_range]
    exact hbound _ _ hi
  have hlength := hnodup.length_le_of_subset hsubset
  simp only [values, List.length_map, List.length_range] at hlength
  omega

end NodeNet.Probing

import NodeNet.Link.DefsChunks
import NodeNet.Link.StateCache

/-! When the caches of the ESP32 hold just the records that a frame brings. -/
namespace NodeNet.Link
open NodeNet.Points

structure StatesUpdatePrefix where
  statesSequence : UInt32
  updateCount : Nat

def statesUpdatePrefixSize : Nat := 8

/-- Just the records are stored, each below the count; the cache may have been made larger. -/
structure StoresStates (s s' : Esp) (announced : Nat) (records : List StateRecord) : Prop where
  below : ∀ r ∈ records, r.pointIndex < announced
  named : ∀ index r, latest index records = some r → s'.stateRecords[index]? = some r
  others : ∀ index, latest index records = none →
    s'.stateRecords[index]? = s.stateRecords[index]? ∨
      s.stateRecords[index]? = none ∧ s'.stateRecords[index]? = some .zero
  definitions : s'.definitionRecords = s.definitionRecords

/-- Just the records are stored, from the one on that the chunk names, each below the count; the
cache may have been emptied before. -/
structure StoresDefinitions (s s' : Esp) (announced : Nat) (chunk : DefsSnapshotChunkPrefix)
    (records : List DefinitionRecord) : Prop where
  whole : kDefinitionRecordSize ∣ chunk.chunkOffset ∧
    kDefinitionRecordSize ∣ chunk.chunkPayloadBytes
  below : ∀ i < records.length, chunk.chunkOffset / kDefinitionRecordSize + i < announced
  named : ∀ i < records.length,
    s'.definitionRecords[chunk.chunkOffset / kDefinitionRecordSize + i]? = records[i]?
  others : ∃ kept : List DefinitionRecord,
    (kept = s.definitionRecords ∨ kept = List.replicate chunk.totalPointCount .zero) ∧
    ∀ index, index < chunk.chunkOffset / kDefinitionRecordSize ∨
      chunk.chunkOffset / kDefinitionRecordSize + records.length ≤ index →
      s'.definitionRecords[index]? = kept[index]?
  states : s'.stateRecords = s.stateRecords

/-- The places in the snapshots have 32 and 16 bits. -/
def Esp.wrapped (s : Esp) : Esp :=
  { s with
    nextDefsOffset := s.nextDefsOffset % 4294967296
    nextStatesStartIndex := s.nextStatesStartIndex % 65536 }

theorem storeUpdateChunk_stores_iff (s : Esp) (statesSequence : UInt32) (announced : Nat)
    (records : List StateRecord) :
    StoresStates s (s.storeUpdateChunk statesSequence records) announced records ↔
      ∀ r ∈ records, r.pointIndex < announced := by
  constructor
  · exact fun h => h.below
  · intro hbelow
    refine ⟨hbelow, fun index r hr => ?_, fun index hnone => ?_, rfl⟩
    · exact foldl_update (by rw [hr]; rfl)
    · exact foldl_update_other hnone

theorem statesChunkSeen_definitionRecords (s : Esp) (chunk : StatesSnapshotChunkPrefix)
    (records : List StateRecord) :
    (s.statesChunkSeen chunk records).definitionRecords = s.definitionRecords := by
  rw [Esp.statesChunkSeen]
  dsimp only
  split
  · rfl
  · split
    · rfl
    · rfl

/-- A record for which the cache has no place is dropped. -/
theorem statesChunkSeen_stores_iff (s : Esp) (chunk : StatesSnapshotChunkPrefix) (announced : Nat)
    (records : List StateRecord) :
    StoresStates s (s.statesChunkSeen chunk records).wrapped announced records ↔
      ∀ r ∈ records, r.pointIndex < announced ∧
        (r.pointIndex < chunk.totalPointCount ∨ r.pointIndex < s.stateRecords.length) := by
  have hlength : (Esp.growTo chunk.totalPointCount s.stateRecords).length =
      max chunk.totalPointCount s.stateRecords.length := by
    rw [Esp.growTo, List.length_append, List.length_replicate]
    omega
  have hstates : (s.statesChunkSeen chunk records).wrapped.stateRecords =
      records.foldl Esp.cacheRecord (Esp.growTo chunk.totalPointCount s.stateRecords) :=
    statesChunkSeen_stateRecords s chunk records
  constructor
  · intro h r hr
    refine ⟨h.below r hr, ?_⟩
    obtain ⟨r', hr'⟩ := latest_isSome hr rfl
    have hnamed := h.named _ _ hr'
    rw [hstates] at hnamed
    have hlt := (List.getElem?_eq_some_iff.mp hnamed).1
    rw [foldl_cacheRecord_length, hlength] at hlt
    omega
  · intro h
    refine ⟨fun r hr => (h r hr).1, fun index r hr => ?_, fun index hnone => ?_,
      statesChunkSeen_definitionRecords s chunk records⟩
    · rw [hstates]
      obtain ⟨hmem, hindex⟩ := latest_mem hr
      have hplace := (h r hmem).2
      have hlt : index < (Esp.growTo chunk.totalPointCount s.stateRecords).length := by
        rw [hlength]
        omega
      rw [foldl_cacheRecord (List.getElem?_eq_getElem hlt), hr]
      rfl
    · have hkept : (records.foldl Esp.cacheRecord
          (Esp.growTo chunk.totalPointCount s.stateRecords))[index]? =
          (Esp.growTo chunk.totalPointCount s.stateRecords)[index]? := by
        cases hgrown : (Esp.growTo chunk.totalPointCount s.stateRecords)[index]? with
        | none =>
          rw [List.getElem?_eq_none_iff] at hgrown ⊢
          rw [foldl_cacheRecord_length]
          exact hgrown
        | some r => rw [foldl_cacheRecord hgrown, hnone, Option.getD_none]
      rw [hstates, hkept]
      exact growTo_getElem?_cases _ _ _

/-- An update without records that is newer than the states calls for a full sync. -/
def Esp.CallsForResync (s : Esp) (update : StatesUpdatePrefix) : Prop :=
  s.defsResponseSeen = true ∧ s.statesResponseSeen = true ∧
    s.statesSequence < update.statesSequence

/-- After a gap in the sequence the caches are emptied, if no published view is kept. -/
def Esp.LosesCaches (s : Esp) (update : StatesUpdatePrefix) : Prop :=
  s.capsResponseSeen = true ∧ s.statesSequence ≠ 0 ∧ s.statesSequence < update.statesSequence ∧
    update.updateCount < (update.statesSequence - s.statesSequence).toNat ∧
    s.keepsRuntimeView s.defsGeneration = false

/-- What a whole update must be, so that just its records are stored. -/
def Esp.UpdateKept (s : Esp) (announced : Nat) (update : StatesUpdatePrefix)
    (records : List StateRecord) : Prop :=
  if update.updateCount = 0 then ¬ s.CallsForResync update
  else (∀ r ∈ records, r.pointIndex < announced) ∧ ¬ s.LosesCaches update

theorem processed_empty (s : Esp) (generation : UInt32) (update : StatesUpdatePrefix) :
    s.processStateUpdateFrame generation update.statesSequence [] = s ↔
      ¬ s.CallsForResync update := by
  rw [Esp.processStateUpdateFrame, if_pos rfl, Esp.CallsForResync]
  cases hdefs : s.defsResponseSeen with
  | false => simp
  | true =>
    cases hstates : s.statesResponseSeen with
    | false => simp
    | true =>
      by_cases hnewer : s.statesSequence < update.statesSequence
      · have hnot : ¬ update.statesSequence ≤ s.statesSequence := UInt32.not_le.mpr hnewer
        simp only [Bool.not_true, Bool.or_self, decide_eq_true_eq, Bool.false_or, hnot, if_false,
          hnewer, and_self, not_true_eq_false, iff_false]
        intro h
        have hreset := congrArg Esp.statesResponseSeen h
        rw [hstates] at hreset
        cases hreset
      · have hle : update.statesSequence ≤ s.statesSequence := UInt32.not_lt.mp hnewer
        simp [hnewer, hle]

theorem storesStates_resync {s next : Esp} {announced : Nat} {records : List StateRecord}
    (hkeeps : next.keepsRuntimeView next.defsGeneration = true) :
    StoresStates s (next.beginFullResync next.defsGeneration) announced records ↔
      StoresStates s next announced records := by
  have hdefs : next.keepsDefs next.defsGeneration = true := by
    rw [Esp.keepsRuntimeView, Bool.and_eq_true, Bool.and_eq_true] at hkeeps
    exact hkeeps.1.1
  have hstates : (next.beginFullResync next.defsGeneration).stateRecords = next.stateRecords := by
    simp [Esp.beginFullResync, hkeeps]
  have hdefinitions : (next.beginFullResync next.defsGeneration).definitionRecords =
      next.definitionRecords := by
    simp [Esp.beginFullResync, hdefs]
  constructor
  · intro h
    exact ⟨h.below, hstates ▸ h.named, hstates ▸ h.others, hdefinitions ▸ h.definitions⟩
  · intro h
    exact ⟨h.below, hstates.symm ▸ h.named, hstates.symm ▸ h.others,
      hdefinitions.symm ▸ h.definitions⟩

/-- What an update leaves is just its records, or what it was. -/
theorem processed_kept_iff {s : Esp} {announced : Nat} {update : StatesUpdatePrefix}
    {records : List StateRecord} (generation : UInt32)
    (hcount : records.length = update.updateCount) :
    (if decide (update.updateCount ≠ 0) = true then
        StoresStates s (s.processStateUpdateFrame generation update.statesSequence records)
          announced records
      else s.processStateUpdateFrame generation update.statesSequence records = s) ↔
      s.UpdateKept announced update records := by
  rw [Esp.UpdateKept]
  by_cases hzero : update.updateCount = 0
  · have hnil : records = [] := List.eq_nil_of_length_eq_zero (hcount.trans hzero)
    rw [if_pos hzero, hnil]
    simp only [hzero, ne_eq, not_true_eq_false, decide_false, Bool.false_eq_true, if_false]
    exact processed_empty s generation update
  · have hnil : records ≠ [] := by
      intro h
      rw [h] at hcount
      exact hzero hcount.symm
    rw [if_neg hzero]
    simp only [hzero, ne_eq, not_false_eq_true, decide_true, if_true]
    rw [Esp.processStateUpdateFrame, if_neg hnil, hcount,
      ← storeUpdateChunk_stores_iff s update.statesSequence announced records]
    dsimp only
    have hview : (s.storeUpdateChunk update.statesSequence records).keepsRuntimeView
        (s.storeUpdateChunk update.statesSequence records).defsGeneration =
          s.keepsRuntimeView s.defsGeneration := rfl
    split
    · rename_i hgap
      simp only [Bool.and_eq_true, decide_eq_true_eq] at hgap
      cases hkeeps : s.keepsRuntimeView s.defsGeneration with
      | true =>
        rw [storesStates_resync (hview.trans hkeeps)]
        simp [Esp.LosesCaches, hkeeps]
      | false =>
        have hloses : s.LosesCaches update := ⟨hgap.1.1.1, hgap.1.1.2, hgap.1.2, hgap.2, hkeeps⟩
        simp only [hloses, not_true_eq_false, and_false, iff_false]
        intro h
        obtain ⟨r, hr⟩ := List.exists_mem_of_ne_nil records hnil
        obtain ⟨r', hr'⟩ := latest_isSome hr rfl
        have hnamed := h.named _ _ hr'
        have hempty : ((s.storeUpdateChunk update.statesSequence records).beginFullResync
            (s.storeUpdateChunk update.statesSequence records).defsGeneration).stateRecords =
              [] := by
          simp [Esp.beginFullResync, hview, hkeeps]
        rw [hempty] at hnamed
        cases hnamed
    · rename_i hgap
      have hkeeps : ¬ s.LosesCaches update := by
        rintro ⟨hcaps, hnonzero, hnewer, hmany, -⟩
        exact hgap (by simp [hcaps, hnonzero, hnewer, hmany])
      simp [hkeeps]

theorem overwrite_getElem? {records new : List DefinitionRecord} {first : Nat}
    (hfits : first + new.length ≤ records.length) :
    (∀ i < new.length, (Esp.overwrite records first new)[first + i]? = new[i]?) ∧
      ∀ index, index < first ∨ first + new.length ≤ index →
        (Esp.overwrite records first new)[index]? = records[index]? := by
  have hbefore : (records.take first).length = first := by
    rw [List.length_take]
    omega
  rw [Esp.overwrite, if_neg (by omega)]
  refine ⟨fun i hi => ?_, fun index hindex => ?_⟩
  · rw [List.append_assoc, List.getElem?_append_right (by omega), hbefore, Nat.add_sub_cancel_left,
      List.getElem?_append_left hi]
  · cases hindex with
    | inl hlt =>
      rw [List.append_assoc, List.getElem?_append_left (by omega), List.getElem?_take_of_lt hlt]
    | inr hge =>
      have hlength : (records.take first ++ new).length = first + new.length := by
        rw [List.length_append, hbefore]
      rw [List.getElem?_append_right (by omega), hlength, List.getElem?_drop]
      congr 1
      omega

/-- What a whole chunk of definitions must be, so that just its records are stored. -/
def DefinitionsKept (announced : Nat) (chunk : DefsSnapshotChunkPrefix) (recordCount : Nat) :
    Prop :=
  kDefinitionRecordSize ∣ chunk.chunkOffset ∧ kDefinitionRecordSize ∣ chunk.chunkPayloadBytes ∧
    (recordCount = 0 ∨
      chunk.chunkOffset / kDefinitionRecordSize + recordCount ≤ chunk.totalPointCount ∧
        chunk.chunkOffset / kDefinitionRecordSize + recordCount ≤ announced)

def Esp.definitionTable (s : Esp) (chunk : DefsSnapshotChunkPrefix) : List DefinitionRecord :=
  if s.definitionRecords.length ≠ chunk.totalPointCount ∨
      s.defsTotalBytes ≠ chunk.totalSerializedBytes then
    List.replicate chunk.totalPointCount .zero
  else s.definitionRecords

theorem definitionTable_length (s : Esp) (chunk : DefsSnapshotChunkPrefix) :
    (s.definitionTable chunk).length = chunk.totalPointCount := by
  rw [Esp.definitionTable]
  split
  · exact List.length_replicate
  · rename_i hsame
    exact Decidable.not_not.mp fun h => hsame (.inl h)

theorem defsChunkSeen_caches (s : Esp) (chunk : DefsSnapshotChunkPrefix)
    (records : List DefinitionRecord) :
    (s.defsChunkSeen chunk records).definitionRecords =
        (if chunk.chunkOffset % kDefinitionRecordSize = 0 ∧
            chunk.chunkPayloadBytes % kDefinitionRecordSize = 0 then
          Esp.overwrite (s.definitionTable chunk) (chunk.chunkOffset / kDefinitionRecordSize)
            (records.take (chunk.chunkPayloadBytes / kDefinitionRecordSize))
        else s.definitionTable chunk) ∧
      (s.defsChunkSeen chunk records).stateRecords = s.stateRecords := by
  rw [Esp.defsChunkSeen, Esp.storeDefsChunk, Esp.definitionTable]
  dsimp only
  split
  · split
    · exact ⟨rfl, rfl⟩
    · exact ⟨rfl, rfl⟩
  · split
    · exact ⟨rfl, rfl⟩
    · exact ⟨rfl, rfl⟩

theorem defsChunkSeen_stores_iff (s : Esp) (announced : Nat) (chunk : DefsSnapshotChunkPrefix)
    {records : List DefinitionRecord}
    (hcount : records.length = chunk.chunkPayloadBytes / kDefinitionRecordSize) :
    StoresDefinitions s (s.defsChunkSeen chunk records).wrapped announced chunk records ↔
      DefinitionsKept announced chunk records.length := by
  obtain ⟨hcache, hstates⟩ := defsChunkSeen_caches s chunk records
  have htable := definitionTable_length s chunk
  have hall : records.take (chunk.chunkPayloadBytes / kDefinitionRecordSize) = records := by
    rw [← hcount, List.take_length]
  rw [hall] at hcache
  have hdefinitions : (s.defsChunkSeen chunk records).wrapped.definitionRecords =
      (s.defsChunkSeen chunk records).definitionRecords := rfl
  have hkept : s.definitionTable chunk = s.definitionRecords ∨
      s.definitionTable chunk = List.replicate chunk.totalPointCount .zero := by
    rw [Esp.definitionTable]
    split
    · exact .inr rfl
    · exact .inl rfl
  constructor
  · intro h
    obtain ⟨hoffset, hbytes⟩ := h.whole
    refine ⟨hoffset, hbytes, ?_⟩
    by_cases hnone : records.length = 0
    · exact .inl hnone
    · have hlast := h.below (records.length - 1) (by omega)
      have hnamed := h.named (records.length - 1) (by omega)
      rw [hdefinitions, hcache, if_pos ⟨Nat.mod_eq_zero_of_dvd hoffset,
        Nat.mod_eq_zero_of_dvd hbytes⟩,
        List.getElem?_eq_getElem (show records.length - 1 < records.length by omega)] at hnamed
      have hlt := (List.getElem?_eq_some_iff.mp hnamed).1
      rw [overwrite_length, htable] at hlt
      exact .inr (by omega)
  · rintro ⟨hoffset, hbytes, hfits⟩
    rw [if_pos ⟨Nat.mod_eq_zero_of_dvd hoffset, Nat.mod_eq_zero_of_dvd hbytes⟩] at hcache
    cases hfits with
    | inl hnone =>
      have hsame : (s.defsChunkSeen chunk records).definitionRecords = s.definitionTable chunk := by
        have hnil := List.eq_nil_of_length_eq_zero hnone
        rw [hcache, hnil, Esp.overwrite]
        simp
      refine ⟨⟨hoffset, hbytes⟩, fun i hi => by omega, fun i hi => by omega,
        ⟨s.definitionTable chunk, hkept, fun index _ => ?_⟩, hstates⟩
      rw [hdefinitions, hsame]
    | inr hfits =>
      have hover := @overwrite_getElem? (s.definitionTable chunk) records
        (chunk.chunkOffset / kDefinitionRecordSize) (by omega)
      refine ⟨⟨hoffset, hbytes⟩, fun i hi => by omega, fun i hi => ?_,
        ⟨s.definitionTable chunk, hkept, fun index hindex => ?_⟩, hstates⟩
      · rw [hdefinitions, hcache]
        exact hover.1 i hi
      · rw [hdefinitions, hcache]
        exact hover.2 index hindex

end NodeNet.Link

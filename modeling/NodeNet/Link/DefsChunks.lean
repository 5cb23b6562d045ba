import NodeNet.Link.Streams

/-! How the chunks of the definitions fill the ESP32's cache. -/
namespace NodeNet.Link
open NodeNet.Points NodeNet.Catalog

theorem definitionRecords_length (definitions : List PointDefinition) :
    (definitionRecords definitions).length = definitions.length := by
  simp [definitionRecords]

structure ChunkOf (definitions : List PointDefinition) (first : Nat)
    (chunk : DefsSnapshotChunkPrefix) (records : List DefinitionRecord) : Prop where
  count : chunk.totalPointCount = definitions.length
  total : chunk.totalSerializedBytes = definitions.length * kDefinitionRecordSize
  offset : chunk.chunkOffset = first * kDefinitionRecordSize
  bytes : chunk.chunkPayloadBytes = records.length * kDefinitionRecordSize
  content : records = ((definitionRecords definitions).drop first).take records.length
  more : chunk.more = decide (first + records.length < definitions.length)

theorem defsSnapshotResponse_chunkOf (c : PointCatalog) {first : Nat} (hfirst : first ≤ c.size)
    (maxChunkPayload : Nat) : ∃ chunk records,
      (defsSnapshotResponse c (first * kDefinitionRecordSize) maxChunkPayload).payload =
        .defsSnapshot chunk records ∧ ChunkOf c.definitions first chunk records := by
  have hsize : c.size = c.definitions.length := by
    simp [PointCatalog.size, PointCatalog.definitions]
  have hpos : 0 < kDefinitionRecordSize := by decide
  have hclamped : min (first * kDefinitionRecordSize) (c.size * kDefinitionRecordSize) =
      first * kDefinitionRecordSize := Nat.min_eq_left (Nat.mul_le_mul_right _ hfirst)
  rw [defsSnapshotResponse]
  dsimp only
  rw [hclamped, Nat.mul_div_cancel _ hpos, Nat.mul_div_cancel _ hpos]
  generalize hlimit : (if maxChunkPayload / kDefinitionRecordSize = 0 then
    (kMaxResponsePayload - defsChunkPrefixSize) / kDefinitionRecordSize
    else min (maxChunkPayload / kDefinitionRecordSize)
      ((kMaxResponsePayload - defsChunkPrefixSize) / kDefinitionRecordSize)) = limit
  have hlength : (((definitionRecords c.definitions).drop first).take
      (min limit (c.size - first))).length = min limit (c.size - first) := by
    rw [List.length_take, List.length_drop, definitionRecords_length, ← hsize]
    omega
  exact ⟨_, _, rfl, hsize, by rw [hsize], rfl, by rw [hlength], by rw [hlength],
    by rw [hlength, hsize]⟩

/-- The records before the ESP32's place are the definitions' own. -/
structure Loaded (definitions : List PointDefinition) (first : Nat) (s : Esp) : Prop where
  place : s.nextDefsOffset = first * kDefinitionRecordSize
  bound : first ≤ definitions.length
  count : 0 < first → s.definitionRecords.length = definitions.length
  total : 0 < first → s.defsTotalBytes = definitions.length * kDefinitionRecordSize
  records : s.definitionRecords.take first = (definitionRecords definitions).take first

theorem overwrite_length (records : List DefinitionRecord) (first : Nat)
    (new : List DefinitionRecord) :
    (Esp.overwrite records first new).length = records.length := by
  rw [Esp.overwrite]
  split
  · rfl
  · simp only [List.length_append, List.length_take, List.length_drop]
    omega

theorem overwrite_take {records new all : List DefinitionRecord} {first : Nat}
    (hlength : first + new.length ≤ records.length) (hbefore : records.take first = all.take first)
    (hnew : new = (all.drop first).take new.length) :
    (Esp.overwrite records first new).take (first + new.length) =
      all.take (first + new.length) := by
  have hfirst : (records.take first ++ new).length = first + new.length := by
    simp only [List.length_append, List.length_take]
    omega
  rw [Esp.overwrite, if_neg (by omega), ← hfirst, List.take_left, hfirst, List.take_add, hbefore,
    ← hnew]

variable {definitions : List PointDefinition} {first : Nat} {s : Esp}
  {chunk : DefsSnapshotChunkPrefix} {records : List DefinitionRecord}

theorem sized_loaded (h : Loaded definitions first s)
    (hchunk : ChunkOf definitions first chunk records) :
    ∃ cached, cached.length = definitions.length ∧
      cached.take first = (definitionRecords definitions).take first ∧
      s.storeDefsChunk chunk records =
        { s with
          definitionRecords := Esp.overwrite cached first records
          defsTotalBytes := definitions.length * kDefinitionRecordSize } := by
  have hpos : 0 < kDefinitionRecordSize := by decide
  have haligned : chunk.chunkOffset % kDefinitionRecordSize = 0 ∧
      chunk.chunkPayloadBytes % kDefinitionRecordSize = 0 := by
    rw [hchunk.offset, hchunk.bytes]
    exact ⟨Nat.mul_mod_left _ _, Nat.mul_mod_left _ _⟩
  have hplace : chunk.chunkOffset / kDefinitionRecordSize = first := by
    rw [hchunk.offset, Nat.mul_div_cancel _ hpos]
  have htaken : records.take (chunk.chunkPayloadBytes / kDefinitionRecordSize) = records := by
    rw [hchunk.bytes, Nat.mul_div_cancel _ hpos, List.take_length]
  rw [Esp.storeDefsChunk]
  by_cases hother : s.definitionRecords.length ≠ chunk.totalPointCount ∨
      s.defsTotalBytes ≠ chunk.totalSerializedBytes
  · rw [if_pos hother, if_pos haligned, hplace, htaken, hchunk.count, hchunk.total]
    rw [hchunk.count, hchunk.total] at hother
    have hzero : first = 0 := by
      by_cases hfirst : 0 < first
      · exact (hother.elim (· (h.count hfirst)) (· (h.total hfirst))).elim
      · omega
    refine ⟨List.replicate definitions.length .zero, List.length_replicate, ?_, rfl⟩
    rw [hzero]
    rfl
  · rw [if_neg hother, if_pos haligned, hplace, htaken]
    rw [not_or, Decidable.not_not, Decidable.not_not, hchunk.count, hchunk.total] at hother
    exact ⟨s.definitionRecords, hother.1, h.records, by rw [← hother.2]⟩

theorem defsChunkSeen_loaded (h : Loaded definitions first s)
    (hchunk : ChunkOf definitions first chunk records) :
    Loaded definitions (first + records.length) (s.defsChunkSeen chunk records) := by
  have hloaded : Loaded definitions first { s with defsRequestSent := false } :=
    ⟨h.place, h.bound, h.count, h.total, h.records⟩
  obtain ⟨cached, hlength, hbefore, hstored⟩ := sized_loaded hloaded hchunk
  have hbound : first + records.length ≤ definitions.length := by
    have hrecords := congrArg List.length hchunk.content
    rw [List.length_take, List.length_drop, definitionRecords_length] at hrecords
    have hfirst := h.bound
    omega
  rw [Esp.defsChunkSeen, hstored]
  refine ⟨?_, hbound, fun _ => ?_, fun _ => rfl, ?_⟩
  · change chunk.chunkOffset + chunk.chunkPayloadBytes = _
    rw [hchunk.offset, hchunk.bytes, Nat.add_mul]
  · exact (overwrite_length _ _ _).trans hlength
  · exact overwrite_take (by omega) hbefore hchunk.content

theorem defsChunkSeen_complete (h : Loaded definitions first s)
    (hchunk : ChunkOf definitions first chunk records) (hlast : chunk.more = false) :
    (s.defsChunkSeen chunk records).definitionRecords = definitionRecords definitions := by
  have hloaded := defsChunkSeen_loaded h hchunk
  have hall : first + records.length = definitions.length := by
    have hmore := hchunk.more
    have hbound := hloaded.bound
    rw [hlast] at hmore
    have hnot := of_decide_eq_false hmore.symm
    omega
  have hlength : (s.defsChunkSeen chunk records).definitionRecords.length = definitions.length := by
    have hloaded' : Loaded definitions first { s with defsRequestSent := false } :=
      ⟨h.place, h.bound, h.count, h.total, h.records⟩
    obtain ⟨cached, hlength, -, hstored⟩ := sized_loaded hloaded' hchunk
    rw [Esp.defsChunkSeen, hstored]
    exact (overwrite_length _ _ _).trans hlength
  have hrecords := hloaded.records
  rw [hall, ← hlength, List.take_length, hlength, ← definitionRecords_length definitions,
    List.take_length] at hrecords
  exact hrecords

end NodeNet.Link

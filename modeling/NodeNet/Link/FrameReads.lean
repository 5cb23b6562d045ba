import NodeNet.Link.SnapshotWire

/-! What the ESP32 reads of a frame, and where the frame's records begin. -/
namespace NodeNet.Link
open NodeNet.Bytes NodeNet.Points

/-- Bytes that are read: from where on, and how many. -/
structure Read where
  start : Nat
  size : Nat
  deriving DecidableEq

/-- The memory from the start of a frame on: behind the frame lies whatever lies there. -/
def memoryAt (frame : List UInt8) (behind : Nat → UInt8) (offset : Nat) : UInt8 :=
  frame.getD offset (behind (offset - frame.length))

def bytesFrom (memory : Nat → UInt8) (start size : Nat) : List UInt8 :=
  (List.range size).map fun i => memory (start + i)

/-- A difference of two sizes, which have 32 bits. -/
def sizeDifference (a b : Nat) : Nat := (UInt32.ofNat a - UInt32.ofNat b).toNat

/-- What the records take, if the length allows them all; and where records were read. The source
sums up the offset and the expected payload, which are equal. -/
def measureStateRecordsAt (memory : Nat → UInt8) (chunkPayloadBytes : Nat) :
    Nat → Nat → Option Nat × List Nat
  | 0, scanOffset => (some scanOffset, [])
  | recordCount + 1, scanOffset =>
    if chunkPayloadBytes < scanOffset + kStateRecordSize then (none, [])
    else
      let record := readStateRecord (bytesFrom memory scanOffset kStateRecordSize)
      let behind := scanOffset + kStateRecordSize
      if stateRecordHasInlineString record then
        if chunkPayloadBytes < behind + kStateStringInlineCapacity then (none, [scanOffset])
        else
          let rest := measureStateRecordsAt memory chunkPayloadBytes recordCount
            (behind + kStateStringInlineCapacity)
          (rest.1, scanOffset :: rest.2)
      else
        let rest := measureStateRecordsAt memory chunkPayloadBytes recordCount behind
        (rest.1, scanOffset :: rest.2)

def recordSize (bytes : List UInt8) (offset : Nat) : Nat :=
  if stateRecordHasInlineString (readStateRecord (bytes.drop offset)) then
    kStateRecordSize + kStateStringInlineCapacity
  else kStateRecordSize

/-- Where the record begins that has so many others before it. -/
def recordStart (bytes : List UInt8) : Nat → Nat → Nat
  | offset, 0 => offset
  | offset, k + 1 => recordStart bytes (offset + recordSize bytes offset) k

/-- The record at the offset, and its text if it is a string's. -/
def recordAt (bytes : List UInt8) (offset : Nat) : CachedStateRecord where
  record := readStateRecord (bytes.drop offset)
  stringValue :=
    if stateRecordHasInlineString (readStateRecord (bytes.drop offset)) then
      .of 64 (bytes.drop (offset + kStateRecordSize))
    else .of 64 []

def recordsFrom (bytes : List UInt8) (offset recordCount : Nat) : List CachedStateRecord :=
  (List.range recordCount).map fun k => recordAt bytes (recordStart bytes offset k)

theorem sizeDifference_eq {a b : Nat} (ha : a < 65536) (h : b ≤ a) :
    sizeDifference a b = a - b := by
  rw [sizeDifference, UInt32.toNat_sub, UInt32.toNat_ofNat', UInt32.toNat_ofNat']
  omega

variable {behind : Nat → UInt8}

theorem bytesFrom_memoryAt {frame : List UInt8} {start size : Nat}
    (h : start + size ≤ frame.length) :
    bytesFrom (memoryAt frame behind) start size = (frame.drop start).take size := by
  apply List.ext_getElem
  · rw [bytesFrom, List.length_map, List.length_range, List.length_take, List.length_drop]
    omega
  · intro i hi _
    rw [bytesFrom, List.length_map, List.length_range] at hi
    have hin : start + i < frame.length := by omega
    simp [bytesFrom, memoryAt, List.getD_eq_getElem?_getD, hin]

variable {bytes : List UInt8}

theorem readStateRecord_take {n : Nat} (h : kStateRecordSize ≤ n) :
    readStateRecord (bytes.take n) = readStateRecord bytes := by
  have hat : ∀ i < 16, byteAt (bytes.take n) i = byteAt bytes i := by
    intro i hi
    have hlt : i < n := Nat.lt_of_lt_of_le hi h
    rw [byteAt, byteAt, List.getD_eq_getElem?_getD, List.getD_eq_getElem?_getD,
      List.getElem?_take_of_lt hlt]
  simp [readStateRecord, hat]

theorem CharArray.of_take {size n : Nat} (h : size ≤ n) :
    CharArray.of size (bytes.take n) = .of size bytes := by
  apply CharArray.ext
  change (bytes.take n ++ List.replicate size 0).take size =
    (bytes ++ List.replicate size 0).take size
  by_cases hlong : bytes.length ≤ n
  · rw [List.take_of_length_le hlong]
  · have hlength : size ≤ (bytes.take n).length := by
      rw [List.length_take]
      omega
    rw [List.take_append_of_le_length hlength, List.take_take, Nat.min_eq_left h,
      List.take_append_of_le_length (by omega)]

theorem kStateRecordSize_le_recordSize (bytes : List UInt8) (offset : Nat) :
    kStateRecordSize ≤ recordSize bytes offset := by
  rw [recordSize]
  split
  · exact Nat.le_add_right _ _
  · exact Nat.le_refl _

theorem le_recordStart (bytes : List UInt8) (offset k : Nat) :
    offset ≤ recordStart bytes offset k := by
  induction k generalizing offset with
  | zero => exact Nat.le_refl _
  | succ k ih => exact Nat.le_trans (Nat.le_add_right _ _) (ih _)

theorem le_of_measured {memory : Nat → UInt8} {chunkPayloadBytes recordCount scanOffset n : Nat}
    (h : (measureStateRecordsAt memory chunkPayloadBytes recordCount scanOffset).1 = some n) :
    scanOffset ≤ n := by
  induction recordCount generalizing scanOffset with
  | zero => exact Nat.le_of_eq (Option.some.inj h)
  | succ recordCount ih =>
    rw [measureStateRecordsAt] at h
    split at h
    · cases h
    · dsimp only at h
      split at h
      · split at h
        · cases h
        · have hrest := ih h
          omega
      · have hrest := ih h
        omega

theorem record_read {offset : Nat} (h : offset + kStateRecordSize ≤ bytes.length) :
    readStateRecord (bytesFrom (memoryAt bytes behind) offset kStateRecordSize) =
      readStateRecord (bytes.drop offset) := by
  rw [bytesFrom_memoryAt h, readStateRecord_take (Nat.le_refl _)]

/-- The reads stay in the frame if all the records do that the length allows. -/
theorem measured_inside_iff (bytes : List UInt8) (behind : Nat → UInt8)
    (chunkPayloadBytes recordCount scanOffset : Nat) :
    (∀ o ∈ (measureStateRecordsAt (memoryAt bytes behind) chunkPayloadBytes recordCount
        scanOffset).2, o + kStateRecordSize ≤ bytes.length) ↔
      ∀ k < recordCount,
        recordStart bytes scanOffset k + kStateRecordSize ≤ chunkPayloadBytes →
        recordStart bytes scanOffset k + kStateRecordSize ≤ bytes.length := by
  induction recordCount generalizing scanOffset with
  | zero => simp [measureStateRecordsAt]
  | succ recordCount ih =>
    have hstarts : (∀ k < recordCount + 1,
        recordStart bytes scanOffset k + kStateRecordSize ≤ chunkPayloadBytes →
          recordStart bytes scanOffset k + kStateRecordSize ≤ bytes.length) ↔
        (scanOffset + kStateRecordSize ≤ chunkPayloadBytes →
          scanOffset + kStateRecordSize ≤ bytes.length) ∧
        ∀ k < recordCount,
          recordStart bytes (scanOffset + recordSize bytes scanOffset) k + kStateRecordSize ≤
            chunkPayloadBytes →
          recordStart bytes (scanOffset + recordSize bytes scanOffset) k + kStateRecordSize ≤
            bytes.length := by
      constructor
      · intro h
        exact ⟨h 0 (Nat.zero_lt_succ _), fun k hk => h (k + 1) (Nat.succ_lt_succ hk)⟩
      · intro h k hk
        cases k with
        | zero => exact h.1
        | succ k => exact h.2 k (Nat.lt_of_succ_lt_succ hk)
    -- no record fits any more behind one that ends beyond the length
    have hfull : ∀ offset, chunkPayloadBytes < offset + kStateRecordSize → ∀ k < recordCount,
        recordStart bytes offset k + kStateRecordSize ≤ chunkPayloadBytes →
        recordStart bytes offset k + kStateRecordSize ≤ bytes.length := by
      intro offset hoffset k _ hfits
      have hle := le_recordStart bytes offset k
      omega
    rw [hstarts, measureStateRecordsAt]
    by_cases hshort : chunkPayloadBytes < scanOffset + kStateRecordSize
    · rw [if_pos hshort]
      have hsize := kStateRecordSize_le_recordSize bytes scanOffset
      have hrest := hfull (scanOffset + recordSize bytes scanOffset) (by omega)
      simp only [List.not_mem_nil, false_implies, implies_true, true_iff]
      exact ⟨fun hfits => absurd hfits (by omega), hrest⟩
    · rw [if_neg hshort]
      have hallowed : scanOffset + kStateRecordSize ≤ chunkPayloadBytes := by omega
      by_cases hin : scanOffset + kStateRecordSize ≤ bytes.length
      · simp only [record_read hin, hallowed, hin, true_implies, true_and]
        by_cases hstring :
            stateRecordHasInlineString (readStateRecord (bytes.drop scanOffset)) = true
        · rw [if_pos hstring]
          have hsize : recordSize bytes scanOffset =
              kStateRecordSize + kStateStringInlineCapacity := if_pos hstring
          by_cases htext :
              chunkPayloadBytes < scanOffset + kStateRecordSize + kStateStringInlineCapacity
          · rw [if_pos htext]
            have hrest := hfull (scanOffset + recordSize bytes scanOffset) (by omega)
            simp only [List.mem_singleton, forall_eq, hin, true_iff]
            exact hrest
          · rw [if_neg htext, hsize, ← Nat.add_assoc, ← ih]
            simp [hin]
        · rw [if_neg hstring]
          have hsize : recordSize bytes scanOffset = kStateRecordSize := if_neg hstring
          rw [hsize, ← ih]
          simp [hin]
      · have hread : ∀ rest : List Nat,
            ¬ ∀ o ∈ scanOffset :: rest, o + kStateRecordSize ≤ bytes.length :=
          fun rest h => hin (h scanOffset (List.mem_cons_self ..))
        have hnot : ¬ (scanOffset + kStateRecordSize ≤ chunkPayloadBytes →
            scanOffset + kStateRecordSize ≤ bytes.length) := fun h => hin (h hallowed)
        simp only [hnot, false_and, iff_false]
        split
        · split
          · exact hread _
          · exact hread _
        · exact hread _

/-- The records are taken as they lie in the frame, if they all lie there. -/
theorem measured_eq_iff {chunkPayloadBytes recordCount scanOffset n : Nat} (hn : n ≤ bytes.length) :
    (measureStateRecordsAt (memoryAt bytes behind) chunkPayloadBytes recordCount scanOffset).1 =
        some n ↔
      n = recordStart bytes scanOffset recordCount ∧ (recordCount = 0 ∨ n ≤ chunkPayloadBytes) := by
  induction recordCount generalizing scanOffset with
  | zero =>
    simp only [measureStateRecordsAt, recordStart, Option.some.injEq, true_or, and_true]
    exact eq_comm
  | succ recordCount ih =>
    have hstart := le_recordStart bytes (scanOffset + recordSize bytes scanOffset) recordCount
    have hsize := kStateRecordSize_le_recordSize bytes scanOffset
    rw [measureStateRecordsAt, recordStart]
    by_cases hshort : chunkPayloadBytes < scanOffset + kStateRecordSize
    · rw [if_pos hshort]
      simp only [reduceCtorEq, false_iff, Nat.succ_ne_zero, false_or]
      omega
    · rw [if_neg hshort]
      by_cases hin : scanOffset + kStateRecordSize ≤ bytes.length
      · simp only [record_read hin, Nat.succ_ne_zero, false_or]
        by_cases hstring :
            stateRecordHasInlineString (readStateRecord (bytes.drop scanOffset)) = true
        · rw [if_pos hstring]
          have hsize : recordSize bytes scanOffset =
              kStateRecordSize + kStateStringInlineCapacity := if_pos hstring
          by_cases htext :
              chunkPayloadBytes < scanOffset + kStateRecordSize + kStateStringInlineCapacity
          · rw [if_pos htext]
            simp only [reduceCtorEq, false_iff]
            omega
          · rw [if_neg htext, hsize, ← Nat.add_assoc, ih]
            rw [hsize] at hstart
            constructor
            · intro h
              refine ⟨h.1, ?_⟩
              cases h.2 with
              | inl hzero =>
                rw [h.1, hzero, recordStart]
                omega
              | inr hle => exact hle
            · exact fun h => ⟨h.1, .inr h.2⟩
        · rw [if_neg hstring]
          have hsize : recordSize bytes scanOffset = kStateRecordSize := if_neg hstring
          rw [hsize, ih]
          constructor
          · intro h
            refine ⟨h.1, ?_⟩
            cases h.2 with
            | inl hzero =>
              rw [h.1, hzero, recordStart]
              omega
            | inr hle => exact hle
          · exact fun h => ⟨h.1, .inr h.2⟩
      · constructor
        · intro h
          have hle : scanOffset + kStateRecordSize ≤ n := by
            dsimp only at h
            split at h
            · split at h
              · cases h
              · have hrest := le_of_measured h
                omega
            · exact le_of_measured h
          omega
        · intro h
          omega

theorem recordsFrom_succ (bytes : List UInt8) (offset recordCount : Nat) :
    recordsFrom bytes offset (recordCount + 1) = recordAt bytes offset ::
      recordsFrom bytes (offset + recordSize bytes offset) recordCount := by
  rw [recordsFrom, List.range_succ_eq_map, List.map_cons, List.map_map]
  rfl

theorem recordsFrom_length (bytes : List UInt8) (offset recordCount : Nat) :
    (recordsFrom bytes offset recordCount).length = recordCount := by
  rw [recordsFrom, List.length_map, List.length_range]

theorem readStateRecords_eq {recordCount offset size : Nat}
    (h : recordStart bytes offset recordCount = offset + size)
    (hin : offset + size ≤ bytes.length) :
    readStateRecords recordCount ((bytes.drop offset).take size) =
      recordsFrom bytes offset recordCount := by
  induction recordCount generalizing offset size with
  | zero => rfl
  | succ recordCount ih =>
    have hstart := le_recordStart bytes (offset + recordSize bytes offset) recordCount
    have hsize := kStateRecordSize_le_recordSize bytes offset
    rw [recordStart] at h
    have hlong : ¬ ((bytes.drop offset).take size).length < kStateRecordSize := by
      rw [List.length_take, List.length_drop]
      omega
    have hbehind : ((bytes.drop offset).take size).drop kStateRecordSize =
        (bytes.drop (offset + kStateRecordSize)).take (size - kStateRecordSize) := by
      rw [List.drop_take, List.drop_drop]
    rw [readStateRecords, if_neg hlong, recordsFrom_succ]
    simp only [readStateRecord_take (show kStateRecordSize ≤ size by omega), hbehind]
    by_cases hstring : stateRecordHasInlineString (readStateRecord (bytes.drop offset)) = true
    · have hsize : recordSize bytes offset = kStateRecordSize + kStateStringInlineCapacity :=
        if_pos hstring
      rw [hsize] at h hstart
      have htext : ¬ ((bytes.drop (offset + kStateRecordSize)).take
          (size - kStateRecordSize)).length < kStateStringInlineCapacity := by
        rw [List.length_take, List.length_drop]
        omega
      have hof : CharArray.of 64 ((bytes.drop (offset + kStateRecordSize)).take
          (size - kStateRecordSize)) = .of 64 (bytes.drop (offset + kStateRecordSize)) := by
        have hfull : kStateStringInlineCapacity ≤ size - kStateRecordSize := by omega
        exact CharArray.of_take hfull
      rw [if_pos hstring, if_neg htext, hof, List.drop_take, List.drop_drop, Nat.sub_sub,
        Nat.add_assoc, ih (by omega) (by omega), hsize, recordAt, if_pos hstring]
    · have hsize : recordSize bytes offset = kStateRecordSize := if_neg hstring
      rw [hsize] at h hstart
      rw [if_neg hstring, ih (by omega) (by omega), hsize, recordAt, if_neg hstring]

end NodeNet.Link

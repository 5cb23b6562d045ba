import NodeNet.Link.Streams

/-! The records of the states: what a cache makes of them, and what the SoC puts into them. -/
namespace NodeNet.Link
open NodeNet.Points NodeNet.Catalog

/-- The last of the records that is of the point. -/
def latest (index : Nat) : List StateRecord → Option StateRecord
  | [] => none
  | r :: records => (latest index records).or (if r.pointIndex = index then some r else none)

variable {index : Nat} {records : List StateRecord} {r : StateRecord}

theorem latest_mem (h : latest index records = some r) : r ∈ records ∧ r.pointIndex = index := by
  induction records with
  | nil => cases h
  | cons r' records ih =>
    rw [latest, Option.or_eq_some_iff] at h
    obtain h | ⟨-, h⟩ := h
    · exact ⟨.tail _ (ih h).1, (ih h).2⟩
    · split at h
      · rename_i hindex
        cases h
        exact ⟨.head _, hindex⟩
      · cases h

theorem latest_isSome (hr : r ∈ records) (hindex : r.pointIndex = index) :
    ∃ r', latest index records = some r' := by
  induction records with
  | nil => cases hr
  | cons r' records ih =>
    rw [latest]
    cases hr with
    | head =>
      cases latest index records with
      | none => exact ⟨r, by rw [Option.none_or, if_pos hindex]⟩
      | some r'' => exact ⟨r'', rfl⟩
    | tail _ hr =>
      obtain ⟨r'', h⟩ := ih hr
      exact ⟨r'', by rw [h]; rfl⟩

variable {cache : List StateRecord}

theorem cacheRecord_getElem? {r' : StateRecord} (hcached : cache[index]? = some r') :
    (Esp.cacheRecord cache r)[index]? =
      some (if r.pointIndex = index then r else r') := by
  have hlength := (List.getElem?_eq_some_iff.mp hcached).1
  rw [Esp.cacheRecord, List.getElem?_set]
  by_cases hindex : r.pointIndex = index
  · rw [if_pos hindex, if_pos hindex, hindex, if_pos hlength]
  · rw [if_neg hindex, if_neg hindex, hcached]

theorem growTo_getElem? {count : Nat} (hcached : cache[index]? = some r) :
    (Esp.growTo count cache)[index]? = some r := by
  have hlength := (List.getElem?_eq_some_iff.mp hcached).1
  rw [Esp.growTo, List.getElem?_append_left hlength, hcached]

theorem growTo_length (count : Nat) (cache : List StateRecord) :
    count ≤ (Esp.growTo count cache).length := by
  rw [Esp.growTo, List.length_append, List.length_replicate]
  omega

theorem growTo_getElem?_cases (count : Nat) (cache : List StateRecord) (index : Nat) :
    (Esp.growTo count cache)[index]? = cache[index]? ∨
      cache[index]? = none ∧ (Esp.growTo count cache)[index]? = some .zero := by
  rw [Esp.growTo]
  by_cases hcached : index < cache.length
  · exact .inl (List.getElem?_append_left hcached)
  · have hnone : cache[index]? = none := List.getElem?_eq_none (Nat.le_of_not_lt hcached)
    rw [List.getElem?_append_right (Nat.le_of_not_lt hcached), hnone, List.getElem?_replicate]
    by_cases hgrown : index - cache.length < count - cache.length
    · exact .inr ⟨rfl, if_pos hgrown⟩
    · exact .inl (if_neg hgrown)

theorem foldl_cacheRecord_length (records cache : List StateRecord) :
    (records.foldl Esp.cacheRecord cache).length = cache.length := by
  induction records generalizing cache with
  | nil => rfl
  | cons r records ih =>
    rw [List.foldl_cons, ih, Esp.cacheRecord, List.length_set]

theorem foldl_cacheRecord (hcached : cache[index]? = some r) :
    (records.foldl Esp.cacheRecord cache)[index]? = some ((latest index records).getD r) := by
  induction records generalizing cache r with
  | nil => exact hcached
  | cons r' records ih =>
    rw [List.foldl_cons, ih (cacheRecord_getElem? hcached), latest]
    cases latest index records with
    | some r'' => rfl
    | none =>
      rw [Option.none_or]
      by_cases hindex : r'.pointIndex = index
      · rw [if_pos hindex, if_pos hindex]
        rfl
      · rw [if_neg hindex, if_neg hindex, Option.getD_none]

theorem foldl_update (h : (latest index records).or cache[index]? = some r) :
    (records.foldl (fun cache r => Esp.cacheRecord (Esp.growTo (r.pointIndex + 1) cache) r)
      cache)[index]? = some r := by
  induction records generalizing cache with
  | nil => exact h
  | cons r' records ih =>
    rw [List.foldl_cons]
    apply ih
    rw [latest] at h
    cases hlatest : latest index records with
    | some r'' =>
      rw [hlatest] at h
      exact h
    | none =>
      rw [hlatest, Option.none_or] at h
      rw [Option.none_or]
      by_cases hindex : r'.pointIndex = index
      · rw [if_pos hindex] at h
        obtain ⟨r'', hr''⟩ : ∃ r'', (Esp.growTo (r'.pointIndex + 1) cache)[index]? = some r'' := by
          have hlength := growTo_length (r'.pointIndex + 1) cache
          exact ⟨_, List.getElem?_eq_getElem (by omega)⟩
        rw [cacheRecord_getElem? hr'', if_pos hindex]
        exact h
      · rw [if_neg hindex, Option.none_or] at h
        rw [cacheRecord_getElem? (growTo_getElem? h), if_neg hindex]

theorem foldl_update_other (h : latest index records = none) :
    (records.foldl (fun cache r => Esp.cacheRecord (Esp.growTo (r.pointIndex + 1) cache) r)
        cache)[index]? = cache[index]? ∨
      cache[index]? = none ∧
        (records.foldl (fun cache r => Esp.cacheRecord (Esp.growTo (r.pointIndex + 1) cache) r)
          cache)[index]? = some .zero := by
  induction records generalizing cache with
  | nil => exact .inl rfl
  | cons r records ih =>
    rw [latest, Option.or_eq_none_iff] at h
    have hindex : r.pointIndex ≠ index := by
      intro heq
      rw [if_pos heq] at h
      cases h.2
    have hset : (Esp.cacheRecord (Esp.growTo (r.pointIndex + 1) cache) r)[index]? =
        (Esp.growTo (r.pointIndex + 1) cache)[index]? := by
      rw [Esp.cacheRecord, List.getElem?_set_ne hindex]
    have hrest := @ih (Esp.cacheRecord (Esp.growTo (r.pointIndex + 1) cache) r) h.1
    rw [hset] at hrest
    rw [List.foldl_cons]
    obtain hgrown | ⟨hnone, hzero⟩ := growTo_getElem?_cases (r.pointIndex + 1) cache index
    · rw [hgrown] at hrest
      exact hrest
    · rw [hzero] at hrest
      obtain hsame | ⟨hcached, -⟩ := hrest
      · exact .inr ⟨hnone, hsame⟩
      · cases hcached

theorem foldl_snapshot {count : Nat} (hrecords : ∀ r ∈ records, r.pointIndex < count)
    (h : (latest index records).or cache[index]? = some r) :
    (records.foldl Esp.cacheRecord (Esp.growTo count cache))[index]? = some r := by
  cases hlatest : latest index records with
  | none =>
    rw [hlatest, Option.none_or] at h
    rw [foldl_cacheRecord (growTo_getElem? h), hlatest]
    rfl
  | some r' =>
    rw [hlatest] at h
    obtain ⟨hmem, hindex⟩ := latest_mem hlatest
    obtain ⟨r'', hr''⟩ : ∃ r'', (Esp.growTo count cache)[index]? = some r'' := by
      have hlength := growTo_length count cache
      have hcount := hrecords r' hmem
      exact ⟨_, List.getElem?_eq_getElem (by omega)⟩
    rw [foldl_cacheRecord hr'', hlatest]
    exact h

theorem statesChunkSeen_stateRecords (s : Esp) (chunk : StatesSnapshotChunkPrefix)
    (records : List StateRecord) : (s.statesChunkSeen chunk records).stateRecords =
      records.foldl Esp.cacheRecord (Esp.growTo chunk.totalPointCount s.stateRecords) := by
  rw [Esp.statesChunkSeen]
  dsimp only
  split
  · rfl
  · split <;> rfl

/-- The record without its time stamp, and with one zero for the two of a float. -/
def StateRecord.normal (r : StateRecord) : StateRecord :=
  { r with
    timestampMs := 0
    valueBits :=
      if r.valueType = PointValueType.Float.toByte ∧ r.valueBits &&& 0x7FFFFFFF = 0 then 0
      else r.valueBits }

theorem stateRecord_normal {d : PointDefinition} {a b : PointState}
    (h : pointStatePayloadEqual d.valueType a b = true) :
    (stateRecord index d a true).normal = (stateRecord index d b true).normal := by
  rw [pointStatePayloadEqual.eq_def, Bool.and_eq_true, decide_eq_true_eq] at h
  obtain ⟨hquality, hvalue⟩ := h
  cases htype : d.valueType with
  | Float =>
    rw [htype] at hvalue
    have hbits : ∀ v : UInt32, v &&& 0xFFFFFFFF = v := by
      intro v
      have hall : (0xFFFFFFFF : UInt32) = -1 := rfl
      rw [hall, UInt32.and_neg_one]
    simp only [floatEqual, Bool.and_eq_true, Bool.or_eq_true, decide_eq_true_eq] at hvalue
    obtain hsame | hzero := hvalue.2
    · simp [stateRecord, StateRecord.normal, encodeStateValueBits, htype, typedValue, hsame,
        hquality]
    · have hboth : a.value &&& 0x7FFFFFFF = 0 ∧ b.value &&& 0x7FFFFFFF = 0 := by
        rw [← UInt32.toNat_inj, UInt32.toNat_and, UInt32.toNat_or, Nat.and_or_distrib_right] at hzero
        simpa [← UInt32.toNat_inj] using Nat.or_eq_zero_iff.mp hzero
      simp [stateRecord, StateRecord.normal, encodeStateValueBits, htype, typedValue, valueMask,
        hbits, hboth, hquality]
  | String =>
    rw [htype] at hvalue
    have htext : stateText a = stateText b := of_decide_eq_true hvalue
    simp [stateRecord, StateRecord.normal, encodeStateValueBits, htype, htext, hquality]
  | unnamed raw hraw =>
    rw [htype] at hvalue
    cases hvalue
  | _ =>
    rw [htype] at hvalue
    have hbits := of_decide_eq_true hvalue
    simp [stateRecord, StateRecord.normal, encodeStateValueBits, htype, hbits, hquality]

/-- The record of a point's state as it is now. -/
def currentRecord (c : PointCatalog) (index : Nat) : Option StateRecord :=
  c.entries[index]?.map fun e => stateRecord index e.definition e.state true

@[simp] theorem resolved_size (p : ResolvePointState) (c : PointCatalog) :
    (resolved p c).size = c.size := by
  simp [resolved, PointCatalog.size]

theorem currentRecord_resolved (p : ResolvePointState) (c : PointCatalog) (index : Nat) :
    currentRecord (resolved p c) index = c.entries[index]?.map fun e =>
      stateRecord index e.definition ((p index e.definition).getD e.state) true := by
  rw [currentRecord, resolved, List.getElem?_map, List.getElem?_zipIdx, Option.map_map,
    Option.map_map, Nat.zero_add]
  rfl

theorem fittingRecords_le (includeStrings : Bool) (maxRecords budget : Nat)
    (entries : List Entry) : fittingRecords includeStrings maxRecords budget entries ≤
      entries.length := by
  induction entries generalizing maxRecords budget with
  | nil => cases maxRecords <;> exact Nat.zero_le _
  | cons e entries ih =>
    cases maxRecords with
    | zero => exact Nat.zero_le _
    | succ maxRecords =>
      rw [fittingRecords]
      split
      · exact Nat.zero_le _
      · exact Nat.succ_le_succ (ih _ _)

theorem returnedRecordCount_le (includeStrings : Bool) (maxRecords : Nat) (entries : List Entry) :
    returnedRecordCount includeStrings maxRecords entries ≤ entries.length := by
  have hfitting := fittingRecords_le includeStrings maxRecords
    (kMaxResponsePayload - statesChunkPrefixSize) entries
  cases entries with
  | nil => exact hfitting
  | cons e entries =>
    rw [returnedRecordCount]
    split
    · simp
    · exact hfitting

/-- A chunk of the snapshot has the states of the points that it names, as they are. -/
structure SnapshotOf (c : PointCatalog) (start : Nat) (chunk : StatesSnapshotChunkPrefix)
    (records : List StateRecord) : Prop where
  place : chunk.returnedStartIndex = min start c.size
  count : chunk.returnedRecordCount = records.length
  bound : chunk.returnedStartIndex + records.length ≤ c.size
  more : chunk.more = decide (chunk.returnedStartIndex + records.length < c.size)
  total : ∀ r ∈ records, r.pointIndex < chunk.totalPointCount
  current : ∀ r ∈ records, currentRecord c r.pointIndex = some r
  named : ∀ i, chunk.returnedStartIndex ≤ i → i < chunk.returnedStartIndex + records.length →
    ∃ r ∈ records, r.pointIndex = i

theorem statesSnapshotFrame_snapshotOf (c : PointCatalog) (start maxRecords : Nat) :
    ∃ chunk records, (statesSnapshotFrame c start maxRecords true).1.payload =
        .statesSnapshot chunk records ∧
      (statesSnapshotFrame c start maxRecords true).2 = chunk.more ∧
      SnapshotOf c start chunk records := by
  rw [statesSnapshotFrame]
  dsimp only
  have hcount := returnedRecordCount_le true maxRecords (c.entries.drop (min start c.size))
  generalize hn : returnedRecordCount true maxRecords (c.entries.drop (min start c.size)) = n
    at hcount ⊢
  have hall : (stateRecords true c.entries).length = c.size := by
    simp [stateRecords, PointCatalog.size]
  have hget : ∀ i, (stateRecords true c.entries)[i]? = currentRecord c i := by
    intro i
    simp only [stateRecords, currentRecord, List.getElem?_map, List.getElem?_zipIdx,
      Option.map_map, Nat.zero_add]
    rfl
  have hbound : min start c.size + n ≤ c.size := by
    rw [List.length_drop] at hcount
    have hsize : c.size = c.entries.length := rfl
    omega
  have hlength : (((stateRecords true c.entries).drop (min start c.size)).take n).length = n := by
    rw [List.length_take, List.length_drop, hall]
    omega
  have htaken : ∀ j < n,
      (((stateRecords true c.entries).drop (min start c.size)).take n)[j]? =
        currentRecord c (min start c.size + j) := by
    intro j hj
    rw [List.getElem?_take_of_lt hj, List.getElem?_drop, hget]
  have hindex : ∀ i r, currentRecord c i = some r → r.pointIndex = i ∧ i < c.size := by
    intro i r hr
    rw [currentRecord, Option.map_eq_some_iff] at hr
    obtain ⟨e, he, hr⟩ := hr
    rw [← hr]
    exact ⟨rfl, (List.getElem?_eq_some_iff.mp he).1⟩
  have hmem : ∀ r ∈ ((stateRecords true c.entries).drop (min start c.size)).take n,
      currentRecord c r.pointIndex = some r := by
    intro r hr
    obtain ⟨j, hj, hget⟩ := List.mem_iff_getElem.mp hr
    have hj' : j < n := by
      rw [hlength] at hj
      exact hj
    have hcurrent := htaken j hj'
    rw [List.getElem?_eq_getElem hj, hget] at hcurrent
    rw [(hindex _ _ hcurrent.symm).1]
    exact hcurrent.symm
  refine ⟨_, _, rfl, rfl, rfl, hlength.symm, by rw [hlength]; exact hbound, by rw [hlength],
    fun r hr => (hindex _ _ (hmem r hr)).2, hmem, fun i hfirst hlast => ?_⟩
  rw [hlength] at hlast
  change min start c.size ≤ i at hfirst
  change i < min start c.size + n at hlast
  have hi : min start c.size + (i - min start c.size) = i := by omega
  have hcurrent := htaken (i - min start c.size) (by omega)
  rw [hi] at hcurrent
  have hsome : ∃ r, currentRecord c i = some r := by
    have hlt : i < c.entries.length := Nat.lt_of_lt_of_le hlast hbound
    exact ⟨_, by rw [currentRecord, List.getElem?_eq_getElem hlt, Option.map_some]⟩
  obtain ⟨r, hr⟩ := hsome
  rw [hr] at hcurrent
  exact ⟨r, List.mem_of_getElem? hcurrent, (hindex i r hr).1⟩

end NodeNet.Link

import NodeNet.Link.Enumeration

/-! The whole catalog is in the ESP32's caches after an enumeration. -/
namespace NodeNet.Link
open NodeNet.Points NodeNet.Catalog NodeNet.Paging

/-- Where the ESP32 is in the states, having started at one of them. -/
structure StatesAt (c : PointCatalog) (start : Nat) (view : Bool) (first : Nat) (s : Esp) : Prop where
  payload : s.maxFragmentPayload = kMaxResponsePayload
  points : s.pointCount = c.size
  place : min s.nextStatesStartIndex c.size = first
  reached : start ≤ s.nextStatesStartIndex
  kept : s.runtimeResyncViewActive = view
  current : ∀ i, start ≤ i → i < first → s.stateRecords[i]? = currentRecord c i
  count : start = 0 → view = false → s.nextStatesStartIndex ≠ 0 → s.stateRecords.length = c.size

structure StatesDone (c : PointCatalog) (start : Nat) (view : Bool) (s : Esp) : Prop where
  seen : s.statesResponseSeen = true
  current : ∀ i, start ≤ i → i < c.size → s.stateRecords[i]? = currentRecord c i
  cached : start = 0 → view = false → s.stateRecords = stateRecords true c.entries

variable {c : PointCatalog} {start first : Nat} {view : Bool} {s : Esp}

theorem sendStatesSnapshotRequest_at (h : StatesAt c start view first s) :
    ∃ s', s.sendStatesSnapshotRequest s.nextStatesStartIndex = (s', some (.getStatesSnapshot
        s.nextStatesStartIndex s.computeMaxStateRecords true)) ∧
      StatesAt c start view first s' ∧ s'.nextStatesStartIndex = s.nextStatesStartIndex ∧
      (start = 0 → view = false → s'.stateRecords.length = c.size) := by
  have hlimit : s.computeMaxStateRecords ≠ 0 := by
    rw [Esp.computeMaxStateRecords, h.payload]
    decide
  rw [Esp.sendStatesSnapshotRequest, if_neg hlimit]
  by_cases hresets : (decide (s.nextStatesStartIndex = 0) && !s.runtimeResyncViewActive) = true
  · have hzero : s.nextStatesStartIndex = 0 := by
      rw [Bool.and_eq_true] at hresets
      exact of_decide_eq_true hresets.1
    refine ⟨_, rfl, ⟨h.payload, h.points, h.place, h.reached, h.kept, fun i _ hi => ?_,
      fun _ _ hnot => absurd hzero hnot⟩, rfl, fun _ _ => ?_⟩
    · have hplace := h.place
      omega
    · simp [hresets, h.points]
  · refine ⟨_, rfl, ⟨h.payload, h.points, h.place, h.reached, h.kept, fun i hstart hi => ?_,
      fun hstart hview hnot => ?_⟩, rfl, fun hstart hview => ?_⟩
    · simpa [hresets] using h.current i hstart hi
    · simpa [hresets] using h.count hstart hview hnot
    · have hnot : s.nextStatesStartIndex ≠ 0 := by
        intro hzero
        simp [hzero, h.kept, hview] at hresets
      simpa [hresets] using h.count hstart hview hnot

theorem chunkStates_view (hsize : c.size ≤ kMaxPoints) (startIndex maxRecords : Nat) :
    (statesSnapshotFrame c startIndex maxRecords true).1.payload =
      .statesSnapshot (statesChunk c startIndex maxRecords)
        ((chunkStates c startIndex maxRecords).map (·.view)) := by
  rw [chunkStates, List.map_take, List.map_drop, sentStates_view hsize]
  rfl

/-- What a chunk leaves in the cache: the states up to its end. -/
theorem statesChunkSeen_current (hsize : c.size ≤ kMaxPoints) (h : StatesAt c start view first s)
    (maxRecords : Nat) : ∀ i, start ≤ i →
      i < first + (chunkStates c s.nextStatesStartIndex maxRecords).length →
      (s.statesChunkSeen (statesChunk c s.nextStatesStartIndex maxRecords)
        ((chunkStates c s.nextStatesStartIndex maxRecords).map (·.view))).stateRecords[i]? =
        currentRecord c i := by
  intro i hstart hi
  obtain ⟨chunk, records, hpayload, -, hsnapshot⟩ :=
    statesSnapshotFrame_snapshotOf c s.nextStatesStartIndex maxRecords
  rw [chunkStates_view hsize] at hpayload
  cases hpayload
  rw [statesChunkSeen_stateRecords]
  generalize hrecords : (chunkStates c s.nextStatesStartIndex maxRecords).map
    (fun r => r.view) = records at hsnapshot
  have hlength : records.length = (chunkStates c s.nextStatesStartIndex maxRecords).length := by
    rw [← hrecords, List.length_map]
  have hplace := hsnapshot.place
  rw [h.place] at hplace
  have hbound := hsnapshot.bound
  rw [hplace] at hbound
  have hlt : i < c.entries.length := by
    change _ ≤ c.entries.length at hbound
    omega
  have hsome : currentRecord c i = some (stateRecord i c.entries[i].definition c.entries[i].state
      true) := by
    rw [currentRecord, List.getElem?_eq_getElem hlt, Option.map_some]
  rw [hsome]
  apply foldl_snapshot hsnapshot.total
  cases hlatest : latest i records with
  | some r =>
    obtain ⟨hmem, hindex⟩ := latest_mem hlatest
    have hcurrent := hsnapshot.current r hmem
    rw [hindex, hsome] at hcurrent
    rw [Option.some_or, hcurrent]
  | none =>
    have hbefore : i < first := by
      by_cases hnamed : first ≤ i
      · obtain ⟨r, hmem, hindex⟩ := hsnapshot.named i (by rw [hplace]; exact hnamed)
          (by rw [hplace]; omega)
        obtain ⟨r', hr'⟩ := latest_isSome hmem hindex
        rw [hlatest] at hr'
        cases hr'
      · omega
    rw [Option.none_or, h.current i hstart hbefore, hsome]

theorem statesChunkSeen_frame (s : Esp) {chunk : StatesSnapshotChunkPrefix}
    (records : List StateRecord) (hprogress : chunk.more = true → chunk.returnedRecordCount ≠ 0) :
    (s.statesChunkSeen chunk records).maxFragmentPayload = s.maxFragmentPayload ∧
      (s.statesChunkSeen chunk records).pointCount = s.pointCount ∧
      (s.statesChunkSeen chunk records).nextStatesStartIndex =
        chunk.returnedStartIndex + chunk.returnedRecordCount ∧
      (chunk.more = true → (s.statesChunkSeen chunk records).runtimeResyncViewActive =
        s.runtimeResyncViewActive) ∧
      (chunk.more = false → (s.statesChunkSeen chunk records).statesResponseSeen = true) := by
  cases hmore : chunk.more with
  | true => simp [Esp.statesChunkSeen, Esp.storeSnapshotChunk, hmore, hprogress hmore]
  | false => simp [Esp.statesChunkSeen, Esp.storeSnapshotChunk, hmore]

theorem growTo_of_length {count : Nat} {cache : List StateRecord} (h : cache.length = count) :
    Esp.growTo count cache = cache := by
  rw [Esp.growTo, h, Nat.sub_self, List.replicate_zero, List.append_nil]

theorem sentStates_length (includeStrings : Bool) (entries : List Entry) :
    (sentStates includeStrings entries).length = entries.length := by
  simp [sentStates]

theorem stateRecords_of_current (hlength : s.stateRecords.length = c.size)
    (h : ∀ i < c.size, s.stateRecords[i]? = currentRecord c i) :
    s.stateRecords = stateRecords true c.entries := by
  apply List.ext_getElem?
  intro i
  have hall : (stateRecords true c.entries)[i]? = currentRecord c i := by
    simp only [stateRecords, currentRecord, List.getElem?_map, List.getElem?_zipIdx,
      Option.map_map, Nat.zero_add]
    rfl
  rw [hall]
  by_cases hi : i < c.size
  · exact h i hi
  · have hout : c.entries[i]? = none := List.getElem?_eq_none (Nat.not_lt.mp hi)
    rw [List.getElem?_eq_none (by omega), currentRecord, hout, Option.map_none]

/-- What the chunk of an answer says, for the records that are in it. -/
structure StatesChunkOf (c : PointCatalog) (first : Nat) (chunk : StatesSnapshotChunkPrefix)
    (records : List CachedStateRecord) : Prop where
  total : chunk.totalPointCount = c.size
  place : chunk.returnedStartIndex = first
  count : chunk.returnedRecordCount = records.length
  bound : first + records.length ≤ c.size
  more : chunk.more = decide (first + records.length < c.size)
  some : first < c.size → 0 < records.length
  items : records = ((sentStates true c.entries).drop first).take records.length

theorem statesChunk_of (c : PointCatalog) (startIndex maxRecords : Nat) :
    StatesChunkOf c (min startIndex c.size) (statesChunk c startIndex maxRecords)
      (chunkStates c startIndex maxRecords) := by
  have hlength := chunkStates_length c startIndex maxRecords
  have hbound := returnedRecordCount_le true maxRecords (c.entries.drop (min startIndex c.size))
  rw [List.length_drop, ← hlength] at hbound
  have hentries : c.size = c.entries.length := rfl
  refine ⟨rfl, rfl, hlength.symm, by omega, ?_, fun hlt => ?_, ?_⟩
  · rw [hlength]
    rfl
  · rw [hlength, List.drop_eq_getElem_cons hlt]
    exact returnedRecordCount_pos _ _ _ _
  · rw [hlength]
    rfl

/-- One exchange brings the next states. -/
theorem statesExchange_page (hsize : c.size ≤ kMaxPoints) (asking : Asking) (start : Nat)
    (view : Bool) (step first : Nat) (s : Esp)
    (hat : StatesAt c start view first s) :
    ∃ page, statesExchange c asking step s = some page ∧
      PageOf (sentStates true c.entries) (StatesAt c start view) (StatesDone c start view) first
        page ∧ (page.more = true → page.items ≠ []) := by
  obtain ⟨s', hsend, hat', hnext, hroom⟩ := sendStatesSnapshotRequest_at hat
  obtain ⟨message, hmessage, hread⟩ := readStatesResponse_sent hsize s.nextStatesStartIndex
    (asking.maxRecords step s.computeMaxStateRecords) (asking.requestId step)
  have hof := statesChunk_of c s.nextStatesStartIndex
    (asking.maxRecords step s.computeMaxStateRecords)
  have hnew := statesChunkSeen_current hsize hat'
    (asking.maxRecords step s.computeMaxStateRecords)
  rw [hnext] at hnew
  rw [hat.place] at hof
  have hexchange : statesExchange c asking step s = some (statesSeen s'
      (statesChunk c s.nextStatesStartIndex (asking.maxRecords step s.computeMaxStateRecords),
        chunkStates c s.nextStatesStartIndex
          (asking.maxRecords step s.computeMaxStateRecords))) := by
    rw [statesExchange, hsend, statesAnswer, hmessage, Option.bind_some, hread]
    rfl
  generalize statesChunk c s.nextStatesStartIndex
    (asking.maxRecords step s.computeMaxStateRecords) = chunk at hof hnew hexchange
  generalize chunkStates c s.nextStatesStartIndex
    (asking.maxRecords step s.computeMaxStateRecords) = records at hof hnew hexchange
  have hprogress : chunk.more = true → 0 < records.length := by
    intro hmore
    rw [hof.more, decide_eq_true_eq] at hmore
    exact hof.some (by omega)
  obtain ⟨hpayload, hpoints, hreach, hkept, hseen⟩ := statesChunkSeen_frame s'
    (records.map (·.view)) fun hmore => by
      rw [hof.count]
      exact Nat.ne_of_gt (hprogress hmore)
  have hcached : start = 0 → view = false →
      (s'.statesChunkSeen chunk (records.map (·.view))).stateRecords.length = c.size := by
    intro hstart hview
    rw [statesChunkSeen_stateRecords, foldl_cacheRecord_length, hof.total,
      growTo_of_length (hroom hstart hview), hroom hstart hview]
  refine ⟨_, hexchange, ?_, fun hmore => List.length_pos_iff.mp (hprogress hmore)⟩
  have hentries := sentStates_length true c.entries
  have hbound := hof.bound
  rw [hof.place, hof.count] at hreach
  refine
    { items := hof.items
      bound := by rw [hentries]; exact hbound
      more := by rw [hentries]; exact hof.more
      place := fun hmore =>
        { payload := hpayload.trans hat'.payload
          points := hpoints.trans hat'.points
          place := ?_
          reached := ?_
          kept := (hkept hmore).trans hat'.kept
          current := hnew
          count := fun hstart hview _ => hcached hstart hview }
      done := fun hlast => ⟨hseen hlast, fun i hstart hi => ?_, fun hstart hview => ?_⟩ }
  · change min (s'.statesChunkSeen chunk (records.map (·.view))).nextStatesStartIndex c.size = _
    rw [hreach]
    exact Nat.min_eq_left hbound
  · change start ≤ (s'.statesChunkSeen chunk (records.map (·.view))).nextStatesStartIndex
    have hplace := hat.place
    have hreached := hat.reached
    have hsome := hprogress hmore
    rw [hreach]
    omega
  · have hend := hof.more
    change chunk.more = false at hlast
    rw [hlast] at hend
    have hall := of_decide_eq_false hend.symm
    exact hnew i hstart (by omega)
  · have hend := hof.more
    change chunk.more = false at hlast
    rw [hlast] at hend
    have hall := of_decide_eq_false hend.symm
    exact stateRecords_of_current (hcached hstart hview) fun i hi =>
      hnew i (by omega) (by omega)

/-- Every request that follows the ESP32's rule is answered within the announced payload. Asking
until no more is left ends, brings every record once, in order and as it was sent, and fills the
caches with the catalog. -/
theorem enumeration_complete (hfits : CatalogFits c)
    (resolvePointState : Nat → PointDefinition → Option PointState) (asking : Asking)
    (hpayload : s.maxFragmentPayload = kMaxResponsePayload) (hpoints : s.pointCount = c.size) :
    (∀ resumeOffset maxChunkPayload,
      (defsPayload c resumeOffset maxChunkPayload).length ≤ s.maxFragmentPayload) ∧
    (∀ startIndex maxRecords includeStrings,
      (statesPayload (resolved resolvePointState c) startIndex maxRecords includeStrings).length ≤
        s.maxFragmentPayload) ∧
    (∃ pages s', readOut (defsExchange c asking) (c.size + 1) 0 s = some (pages, s') ∧
      pages.flatten = (sentDefinitions c.definitions).drop (firstRecord c s.nextDefsOffset) ∧
      s'.defsResponseSeen = true ∧
      (s.nextDefsOffset = 0 → s'.definitionRecords = definitionRecords c.definitions)) ∧
    ∃ pages s', readOut (statesExchange (resolved resolvePointState c) asking) (c.size + 1) 0 s =
        some (pages, s') ∧
      pages.flatten = (sentStates true (resolved resolvePointState c).entries).drop
        (min s.nextStatesStartIndex c.size) ∧
      s'.statesResponseSeen = true ∧
      (∀ i, s.nextStatesStartIndex ≤ i → i < c.size →
        s'.stateRecords[i]? = currentRecord (resolved resolvePointState c) i) ∧
      (s.nextStatesStartIndex = 0 → s.runtimeResyncViewActive = false →
        s'.stateRecords = stateRecords true (resolved resolvePointState c).entries) := by
  rw [hpayload]
  refine ⟨defsPayload_length_le c, statesPayload_length_le _, ?_, ?_⟩
  · have hsize : c.size = c.definitions.length := by
      simp [PointCatalog.size, PointCatalog.definitions]
    have hall := sentDefinitions_length c.definitions
    have hfirst := firstRecord_le c s.nextDefsOffset
    have hat : DefsAt c s.nextDefsOffset (firstRecord c s.nextDefsOffset) s := by
      refine ⟨hpayload, rfl, fun hstart => ?_⟩
      have hzero : firstRecord c s.nextDefsOffset = 0 := by
        rw [hstart, firstRecord, Nat.zero_min, Nat.zero_div]
      rw [hzero]
      exact ⟨by rw [hstart, Nat.zero_mul], Nat.zero_le _, fun h => absurd h (Nat.lt_irrefl 0),
        fun h => absurd h (Nat.lt_irrefl 0), rfl⟩
    obtain ⟨pages, s', hread, hitems, hdone⟩ := @readOut_complete _ _ _ _ _ _
      (defsExchange_page hfits asking s.nextDefsOffset) (c.size + 1) 0 _ _ (by omega) hat (by omega)
    exact ⟨pages, s', hread, hitems, hdone.seen, hdone.cached⟩
  · generalize hresolved : resolved resolvePointState c = c'
    have hsame : c'.size = c.size := by
      rw [← hresolved, resolved_size]
    have hall : (sentStates true c'.entries).length = c'.size := sentStates_length true c'.entries
    rw [← hsame] at hpoints ⊢
    have hat : StatesAt c' s.nextStatesStartIndex s.runtimeResyncViewActive
        (min s.nextStatesStartIndex c'.size) s :=
      ⟨hpayload, hpoints, rfl, Nat.le_refl _, rfl, fun i _ _ => by omega,
        fun hstart _ hnot => absurd hstart hnot⟩
    obtain ⟨pages, s', hread, hitems, hdone⟩ := @readOut_complete _ _ _ _ _ _
      (fun step first client _ => statesExchange_page (by rw [hsame]; exact hfits.size) asking
        s.nextStatesStartIndex s.runtimeResyncViewActive step first client)
      (c'.size + 1) 0 _ _ (by omega) hat (by omega)
    exact ⟨pages, s', hread, hitems, hdone.seen, hdone.current, hdone.cached⟩

def pointNamed (name : Text) (type : PointValueType) : PointDefinition where
  id := ⟨ascii "io", ascii "di", name⟩
  displayName := ascii "point"
  backend := .Local
  direction := .Input
  valueType := type
  refreshMs := 1000
  timeoutMs := 3000
  stringCapacity := 16
  scale := 0x3F800000
  unit := ascii "m"
  enumDef := 0
  ref := List.replicate 84 0

def twoPointCatalog : PointCatalog :=
  { PointCatalog.empty with
    entries :=
      [⟨pointNamed (ascii "x") .Bool, .zero, .zero⟩,
        ⟨pointNamed (ascii "name") .String, .zero,
          { PointState.zero with stringValue := ascii "run" ++ List.replicate 61 0 }⟩] }

theorem pointNamed_fits {name : Text} (hname : IsString 32 name) (type : PointValueType) :
    FieldsFit (pointNamed name type) where
  deviceId := (⟨by decide, by decide⟩ : IsString 16 (ascii "io"))
  feature := (⟨by decide, by decide⟩ : IsString 32 (ascii "di"))
  pointId := hname
  displayName := (⟨by decide, by decide⟩ : IsString 32 (ascii "point"))
  unit := (⟨by decide, by decide⟩ : IsString 10 (ascii "m"))
  remote hremote := by cases hremote

theorem twoPointCatalog_fits : CatalogFits twoPointCatalog where
  size := by decide
  fields d hd := by
    have hboth : d ∈ [pointNamed (ascii "x") .Bool, pointNamed (ascii "name") .String] := hd
    simp only [List.mem_cons, List.not_mem_nil, or_false] at hboth
    obtain rfl | rfl := hboth
    · exact pointNamed_fits ⟨by decide, by decide⟩ _
    · exact pointNamed_fits ⟨by decide, by decide⟩ _

theorem twoPointCatalog_enumerated :
    CatalogFits twoPointCatalog ∧
    ∃ pages s', readOut (defsExchange twoPointCatalog (.own fun _ => 1)) 3 0
        { Esp.start with
          maxFragmentPayload := kMaxResponsePayload
          pointCount := 2 } = some (pages, s') ∧
      s'.definitionRecords = definitionRecords twoPointCatalog.definitions := by
  obtain ⟨-, -, ⟨pages, s', hread, -, -, hcached⟩, -⟩ :=
    @enumeration_complete twoPointCatalog { Esp.start with
      maxFragmentPayload := kMaxResponsePayload
      pointCount := 2 } twoPointCatalog_fits (fun _ _ => none) (.own fun _ => 1) rfl rfl
  exact ⟨twoPointCatalog_fits, pages, s', hread, hcached rfl⟩

end NodeNet.Link

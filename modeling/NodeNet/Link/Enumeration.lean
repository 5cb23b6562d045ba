import NodeNet.Lib.Paging
import NodeNet.Link.SnapshotWire

/-! What the SoC sends of a snapshot fits, and is what the ESP32 reads. -/
namespace NodeNet.Link
open NodeNet.Bytes NodeNet.Points NodeNet.Catalog NodeNet.Paging

section
theorem zipIdx_drop {α : Type} (l : List α) (k n : Nat) :
    (l.zipIdx k).drop n = (l.drop n).zipIdx (k + n) := by
  induction n generalizing l k with
  | zero => rfl
  | succ n ih =>
    cases l with
    | nil => rfl
    | cons a l =>
      rw [List.zipIdx_cons, List.drop_succ_cons, List.drop_succ_cons, ih, Nat.add_right_comm,
        Nat.add_assoc]

/-- The bytes of the records of entries. -/
def appendedStates (includeStrings : Bool) (entries : List (Entry × Nat)) : List UInt8 :=
  entries.flatMap fun p =>
    appendStateRecord (.ofNat p.2) p.1.definition p.1.state includeStrings

theorem fittingRecords_bytes (includeStrings : Bool) (maxRecords budget k : Nat)
    (entries : List Entry) :
    (appendedStates includeStrings ((entries.zipIdx k).take
      (fittingRecords includeStrings maxRecords budget entries))).length ≤ budget := by
  induction entries generalizing maxRecords budget k with
  | nil => cases maxRecords <;> exact Nat.zero_le _
  | cons e entries ih =>
    cases maxRecords with
    | zero => exact Nat.zero_le _
    | succ maxRecords =>
      rw [fittingRecords]
      split
      · exact Nat.zero_le _
      · rename_i hfits
        have hrest := ih maxRecords (budget - stateRecordWireSize e.definition includeStrings) (k + 1)
        simp only [List.zipIdx_cons, List.take_succ_cons, appendedStates, List.flatMap_cons,
          List.length_append, appendStateRecord_length] at hrest ⊢
        omega

theorem returnedRecordCount_bytes (includeStrings : Bool) (maxRecords k : Nat)
    (entries : List Entry) :
    (appendedStates includeStrings ((entries.zipIdx k).take
      (returnedRecordCount includeStrings maxRecords entries))).length ≤
        kMaxResponsePayload - statesChunkPrefixSize := by
  have hfitting := fittingRecords_bytes includeStrings maxRecords
    (kMaxResponsePayload - statesChunkPrefixSize) k entries
  cases entries with
  | nil => simp [appendedStates]
  | cons e entries =>
    rw [returnedRecordCount]
    split
    · rename_i hfirst
      rw [Bool.and_eq_true, decide_eq_true_eq] at hfirst
      simpa [appendedStates, appendStateRecord_length] using hfirst.2
    · exact hfitting

theorem returnedRecordCount_pos (includeStrings : Bool) (maxRecords : Nat) (e : Entry)
    (entries : List Entry) : 0 < returnedRecordCount includeStrings maxRecords (e :: entries) := by
  have hfits : stateRecordWireSize e.definition includeStrings ≤
      kMaxResponsePayload - statesChunkPrefixSize := by
    rw [stateRecordWireSize]
    split <;> decide
  rw [returnedRecordCount]
  split
  · exact Nat.one_pos
  · rename_i hfirst
    simp [hfits] at hfirst
    exact Nat.pos_of_ne_zero hfirst.2

theorem statesPayload_length_le (c : PointCatalog) (startIndex maxRecords : Nat)
    (includeStrings : Bool) :
    (statesPayload c startIndex maxRecords includeStrings).length ≤ kMaxResponsePayload := by
  have hbytes := returnedRecordCount_bytes includeStrings maxRecords (min startIndex c.size)
    (c.entries.drop (min startIndex c.size))
  have hprefix : statesChunkPrefixSize ≤ kMaxResponsePayload := by decide
  rw [statesPayload, statesSnapshotFrame]
  dsimp only
  rw [List.length_append, statesPrefix_bytes_length, zipIdx_drop, Nat.zero_add]
  rw [appendedStates] at hbytes
  omega

theorem sentDefinitions_length (definitions : List PointDefinition) :
    (sentDefinitions definitions).length = definitions.length := by
  simp [sentDefinitions]

theorem definitionRecords_bytes_length (records : List DefinitionRecordV1) :
    (records.flatMap (·.bytes)).length = records.length * kDefinitionRecordSize := by
  induction records with
  | nil => simp
  | cons r records ih =>
    rw [List.flatMap_cons, List.length_append, definitionRecord_bytes_length, ih, List.length_cons,
      Nat.succ_mul, Nat.add_comm]

theorem transportRecordLimit_one :
    (kMaxResponsePayload - defsChunkPrefixSize) / kDefinitionRecordSize = 1 := by
  decide

theorem requestedRecordLimit_one (maxChunkPayload : Nat) :
    (if maxChunkPayload / kDefinitionRecordSize = 0 then 1
      else min (maxChunkPayload / kDefinitionRecordSize) 1) = 1 := by
  generalize maxChunkPayload / kDefinitionRecordSize = requested
  split
  · rfl
  · omega

def firstRecord (c : PointCatalog) (resumeOffset : Nat) : Nat :=
  min resumeOffset (c.size * kDefinitionRecordSize) / kDefinitionRecordSize

theorem firstRecord_le (c : PointCatalog) (resumeOffset : Nat) :
    firstRecord c resumeOffset ≤ c.size :=
  Nat.div_le_of_le_mul (by rw [Nat.mul_comm]; exact Nat.min_le_right _ _)

def defsChunk (c : PointCatalog) (first : Nat) : DefsSnapshotChunkPrefix where
  defsGeneration := c.defsGeneration
  totalSerializedBytes := c.size * kDefinitionRecordSize
  totalPointCount := c.size
  chunkOffset := first * kDefinitionRecordSize
  chunkPayloadBytes := min 1 (c.size - first) * kDefinitionRecordSize
  more := first + min 1 (c.size - first) < c.size

theorem defsSnapshotResponse_spec (c : PointCatalog) (resumeOffset maxChunkPayload : Nat) :
    (defsSnapshotResponse c resumeOffset maxChunkPayload).payload =
      .defsSnapshot (defsChunk c (firstRecord c resumeOffset))
        (((definitionRecords c.definitions).drop (firstRecord c resumeOffset)).take
          (min 1 (c.size - firstRecord c resumeOffset))) := by
  have hpos : 0 < kDefinitionRecordSize := by decide
  rw [defsSnapshotResponse]
  dsimp only
  rw [transportRecordLimit_one, requestedRecordLimit_one, Nat.mul_div_cancel _ hpos]
  rfl

def chunkDefinitions (c : PointCatalog) (first : Nat) : List DefinitionRecordV1 :=
  ((sentDefinitions c.definitions).drop first).take (min 1 (c.size - first))

theorem defsPayload_spec (c : PointCatalog) (resumeOffset maxChunkPayload : Nat) :
    defsPayload c resumeOffset maxChunkPayload =
      (defsChunk c (firstRecord c resumeOffset)).bytes ++
        (chunkDefinitions c (firstRecord c resumeOffset)).flatMap (·.bytes) := by
  have hpos : 0 < kDefinitionRecordSize := by decide
  rw [defsPayload, defsSnapshotResponse_spec]
  dsimp only [defsChunk]
  rw [Nat.mul_div_cancel _ hpos, Nat.mul_div_cancel _ hpos]
  rfl

theorem chunkDefinitions_length (c : PointCatalog) (first : Nat) :
    (chunkDefinitions c first).length = min 1 (c.size - first) := by
  have hsize : c.size = c.definitions.length := by
    simp [PointCatalog.size, PointCatalog.definitions]
  rw [chunkDefinitions, List.length_take, List.length_drop, sentDefinitions_length, ← hsize]
  omega

theorem defsPayload_length_le (c : PointCatalog) (resumeOffset maxChunkPayload : Nat) :
    (defsPayload c resumeOffset maxChunkPayload).length ≤ kMaxResponsePayload := by
  have hfits : defsChunkPrefixSize + 1 * kDefinitionRecordSize ≤ kMaxResponsePayload := by decide
  rw [defsPayload_spec, List.length_append, defsPrefix_bytes_length,
    definitionRecords_bytes_length, chunkDefinitions_length]
  exact Nat.le_trans (Nat.add_le_add_left (Nat.mul_le_mul_right _ (Nat.min_le_left _ _)) _) hfits

theorem snapshotMessage_read (c : PointCatalog) {messageType : UInt8} (requestId : UInt8)
    (payload : List UInt8)
    (htype : messageType = kMsgDefsSnapshotRes ∨ messageType = kMsgStatesSnapshotRes) :
    ∃ message, snapshotMessage c messageType requestId payload = some message ∧
      decodeHeader (some message) =
        some (snapshotHeader c messageType requestId payload.length) ∧
      message.length = kHeaderSize + payload.length ∧ message.drop kHeaderSize = payload := by
  have hvalid : isHeaderValid (snapshotHeader c messageType requestId payload.length) = true := by
    rw [isHeaderValid_spec]
    refine ⟨rfl, rfl, ?_, ?_, ?_, ?_⟩
    · obtain rfl | rfl := htype
      · change kMsgDefsSnapshotRes ∈ messageTypes
        decide
      · change kMsgStatesSnapshotRes ∈ messageTypes
        decide
    · change (kFlagResponse ||| kFlagSnapshotPayload).toNat.testBit 0 =
        !(kFlagResponse ||| kFlagSnapshotPayload).toNat.testBit 1
      decide
    · change (0 : UInt8) < 1
      decide
    · change (kFlagResponse ||| kFlagSnapshotPayload).toNat.testBit 3 = true ↔
        (0 : UInt8).toNat + 1 < (1 : UInt8).toNat
      decide
  have hlength := headerBytes_length (snapshotHeader c messageType requestId payload.length)
  refine ⟨headerBytes (snapshotHeader c messageType requestId payload.length) ++ payload, ?_, ?_,
    ?_, ?_⟩
  · refine encodeHeader_spec.mpr ⟨?_, hvalid, ?_⟩
    · simp
    · rw [List.drop_left' List.length_replicate]
  · exact decodeHeader_spec.mpr ⟨by simp [hlength], hvalid, readHeader_headerBytes _ _⟩
  · rw [List.length_append, hlength]
  · exact List.drop_left' hlength

variable {c : PointCatalog}

/-- The ESP32 reads the chunk that was sent, and its records. -/
theorem readDefsResponse_sent (hsize : c.size ≤ kMaxPoints) (resumeOffset maxChunkPayload : Nat)
    (requestId : UInt8) : ∃ message,
      snapshotMessage c kMsgDefsSnapshotRes requestId
        (defsPayload c resumeOffset maxChunkPayload) = some message ∧
      readDefsResponse message = some (defsChunk c (firstRecord c resumeOffset),
        chunkDefinitions c (firstRecord c resumeOffset)) := by
  have hmax : kMaxPoints = 1024 := rfl
  have hrecord : kDefinitionRecordSize = 134 := rfl
  have hfits := defsPayload_length_le c resumeOffset maxChunkPayload
  obtain ⟨message, hmessage, hheader, hlength, hdrop⟩ := snapshotMessage_read c requestId
    (defsPayload c resumeOffset maxChunkPayload) (.inl rfl)
  refine ⟨message, hmessage, ?_⟩
  have hfirst := firstRecord_le c resumeOffset
  have hbehind := defsPayload_spec c resumeOffset maxChunkPayload
  generalize firstRecord c resumeOffset = first at hfirst hbehind ⊢
  have hchunk : readDefsPrefix (message.drop kHeaderSize) = defsChunk c first := by
    rw [hdrop, hbehind]
    apply readDefsPrefix_bytes
    all_goals simp only [defsChunk, hrecord]
    all_goals omega
  have hrecords : message.drop (kHeaderSize + defsChunkPrefixSize) =
      (chunkDefinitions c first).flatMap (·.bytes) ++ [] := by
    rw [← List.drop_drop, hdrop, hbehind, ← defsPrefix_bytes_length (defsChunk c first),
      List.drop_left, List.append_nil]
  have hcount : (defsChunk c first).chunkPayloadBytes / kDefinitionRecordSize =
      (chunkDefinitions c first).length := by
    rw [chunkDefinitions_length]
    exact Nat.mul_div_cancel _ (by decide)
  have hpayload : (defsPayload c resumeOffset maxChunkPayload).length =
      defsChunkPrefixSize + (defsChunk c first).chunkPayloadBytes := by
    rw [hbehind, List.length_append, defsPrefix_bytes_length, definitionRecords_bytes_length,
      chunkDefinitions_length]
    rfl
  rw [hpayload] at hheader hlength hfits
  have hword : (snapshotHeader c kMsgDefsSnapshotRes requestId
      (defsChunkPrefixSize + (defsChunk c first).chunkPayloadBytes)).payloadLength.toNat =
        defsChunkPrefixSize + (defsChunk c first).chunkPayloadBytes :=
    toNat_ofNat_word16 (Nat.lt_of_le_of_lt hfits (by decide))
  rw [readDefsResponse, hheader]
  simp only [hchunk, hrecords, hcount, readDefinitionRecords_bytes, hword, hlength]
  rw [if_neg (by simp [snapshotHeader]), if_neg (by omega)]

def statesChunk (c : PointCatalog) (startIndex maxRecords : Nat) : StatesSnapshotChunkPrefix :=
  let start := min startIndex c.size
  let count := returnedRecordCount true maxRecords (c.entries.drop start)
  { statesSequenceBase := c.statesSequence
    totalPointCount := c.size
    returnedStartIndex := start
    returnedRecordCount := count
    more := start + count < c.size }

def chunkStates (c : PointCatalog) (startIndex maxRecords : Nat) : List CachedStateRecord :=
  ((sentStates true c.entries).drop (min startIndex c.size)).take
    (returnedRecordCount true maxRecords (c.entries.drop (min startIndex c.size)))

theorem chunkStates_length (c : PointCatalog) (startIndex maxRecords : Nat) :
    (chunkStates c startIndex maxRecords).length =
      returnedRecordCount true maxRecords (c.entries.drop (min startIndex c.size)) := by
  have hle := returnedRecordCount_le true maxRecords (c.entries.drop (min startIndex c.size))
  have hall : (sentStates true c.entries).length = c.entries.length := by simp [sentStates]
  rw [chunkStates, List.length_take, List.length_drop, hall]
  rw [List.length_drop] at hle
  omega

theorem statesPayload_spec (c : PointCatalog) (startIndex maxRecords : Nat) :
    statesPayload c startIndex maxRecords true = (statesChunk c startIndex maxRecords).bytes ++
      (chunkStates c startIndex maxRecords).flatMap (·.bytes) := by
  rw [statesPayload, statesSnapshotFrame]
  dsimp only
  rw [chunkStates, sentStates, ← List.map_drop, ← List.map_take, List.flatMap_map]
  simp only [appendStateRecord_bytes]
  rfl

/-- The ESP32 reads the chunk that was sent, and its records with their texts. -/
theorem readStatesResponse_sent (hsize : c.size ≤ kMaxPoints) (startIndex maxRecords : Nat)
    (requestId : UInt8) : ∃ message,
      snapshotMessage c kMsgStatesSnapshotRes requestId
        (statesPayload c startIndex maxRecords true) = some message ∧
      readStatesResponse message = some (statesChunk c startIndex maxRecords,
        chunkStates c startIndex maxRecords) := by
  have hmax : kMaxPoints = 1024 := rfl
  have hfits := statesPayload_length_le c startIndex maxRecords true
  obtain ⟨message, hmessage, hheader, hlength, hdrop⟩ := snapshotMessage_read c requestId
    (statesPayload c startIndex maxRecords true) (.inr rfl)
  refine ⟨message, hmessage, ?_⟩
  have hbehind := statesPayload_spec c startIndex maxRecords
  have hcount : (statesChunk c startIndex maxRecords).returnedRecordCount =
      (chunkStates c startIndex maxRecords).length := (chunkStates_length _ _ _).symm
  have hclean : ∀ r ∈ chunkStates c startIndex maxRecords, r.Clean := by
    intro r hr
    obtain ⟨p, -, rfl⟩ := List.mem_map.mp (List.mem_of_mem_drop (List.mem_of_mem_take hr))
    exact sentState_clean _ _ _
  have hbound := returnedRecordCount_le true maxRecords (c.entries.drop (min startIndex c.size))
  rw [List.length_drop] at hbound
  have hentries : c.size = c.entries.length := rfl
  have hchunk : readStatesPrefix (message.drop kHeaderSize) = statesChunk c startIndex maxRecords := by
    rw [hdrop, hbehind]
    apply readStatesPrefix_bytes
    all_goals simp only [statesChunk]
    all_goals omega
  have hrecords : message.drop (kHeaderSize + statesChunkPrefixSize) =
      (chunkStates c startIndex maxRecords).flatMap (·.bytes) := by
    rw [← List.drop_drop, hdrop, hbehind,
      ← statesPrefix_bytes_length (statesChunk c startIndex maxRecords), List.drop_left]
  have hpayload : (statesPayload c startIndex maxRecords true).length = statesChunkPrefixSize +
      ((chunkStates c startIndex maxRecords).flatMap (·.bytes)).length := by
    rw [hbehind, List.length_append, statesPrefix_bytes_length]
  rw [hpayload] at hheader hlength hfits
  have hword : (snapshotHeader c kMsgStatesSnapshotRes requestId (statesChunkPrefixSize +
      ((chunkStates c startIndex maxRecords).flatMap (·.bytes)).length)).payloadLength.toNat =
        statesChunkPrefixSize + ((chunkStates c startIndex maxRecords).flatMap (·.bytes)).length :=
    toNat_ofNat_word16 (Nat.lt_of_le_of_lt hfits (by decide))
  have hmeasure := measureStateRecordsPayload_bytes (chunkStates c startIndex maxRecords) []
  have hread := readStateRecords_bytes hclean []
  rw [List.append_nil] at hmeasure hread
  rw [readStatesResponse, hheader]
  simp only [hchunk, hrecords, hcount, hword, Nat.add_sub_cancel_left, List.take_length, hmeasure,
    hread, hlength]
  rw [if_neg (by simp [snapshotHeader]), if_neg (by omega)]

end

/-! The ESP32 reads a catalog out: one request after the other, until a chunk is the last. -/

/-- What is asked for: the limit that the ESP32 would set, and the one that is set. -/
structure Asking where
  maxChunkPayload : Nat → Nat → Nat
  maxRecords : Nat → Nat → Nat
  requestId : Nat → UInt8

/-- The limits are the ESP32's own. -/
def Asking.own (requestId : Nat → UInt8) : Asking := ⟨fun _ own => own, fun _ own => own, requestId⟩

/-- What the ESP32 makes of the chunk that it has read. -/
def defsSeen (s : Esp) (answer : DefsSnapshotChunkPrefix × List DefinitionRecordV1) :
    Page DefinitionRecordV1 Esp :=
  ⟨answer.2, answer.1.more, s.defsChunkSeen answer.1 (answer.2.map (·.view))⟩

def statesSeen (s : Esp) (answer : StatesSnapshotChunkPrefix × List CachedStateRecord) :
    Page CachedStateRecord Esp :=
  ⟨answer.2, answer.1.more, s.statesChunkSeen answer.1 (answer.2.map (·.view))⟩

/-- The answer to a request, as it is read from the wire. -/
def defsAnswer (c : PointCatalog) (asking : Asking) (step : Nat) :
    Option Request → Option (DefsSnapshotChunkPrefix × List DefinitionRecordV1)
  | some (.getDefsSnapshot resumeOffset maxChunkPayload _) =>
    (snapshotMessage c kMsgDefsSnapshotRes (asking.requestId step) (defsPayload c resumeOffset
      (asking.maxChunkPayload step maxChunkPayload))).bind readDefsResponse
  | _ => none

def statesAnswer (c : PointCatalog) (asking : Asking) (step : Nat) :
    Option Request → Option (StatesSnapshotChunkPrefix × List CachedStateRecord)
  | some (.getStatesSnapshot startIndex maxRecords includeStrings) =>
    (snapshotMessage c kMsgStatesSnapshotRes (asking.requestId step) (statesPayload c startIndex
      (asking.maxRecords step maxRecords) includeStrings)).bind readStatesResponse
  | _ => none

def defsExchange (c : PointCatalog) (asking : Asking) (step : Nat) (s : Esp) :
    Option (Page DefinitionRecordV1 Esp) :=
  (defsAnswer c asking step s.sendDefsSnapshotRequest.2).map (defsSeen s.sendDefsSnapshotRequest.1)

def statesExchange (c : PointCatalog) (asking : Asking) (step : Nat) (s : Esp) :
    Option (Page CachedStateRecord Esp) :=
  let sent := s.sendStatesSnapshotRequest s.nextStatesStartIndex
  (statesAnswer c asking step sent.2).map (statesSeen sent.1)

theorem definition_view {index : Nat} (hindex : index < 65536) {d : PointDefinition}
    (h : FieldsFit d) : (buildDefinitionRecord (.ofNat index) d).view = definitionRecord index d := by
  have htext : ∀ {size : Nat} {t : Text}, IsString size t → t.take (size - 1) = t :=
    fun h => List.take_of_length_le (Nat.le_sub_one_of_lt h.terminated)
  simp only [DefinitionRecordV1.view, buildDefinitionRecord, definitionRecord,
    toNat_ofNat_word16 hindex, copyText_text h.deviceId, copyText_text h.feature,
    copyText_text h.pointId, copyText_text h.displayName, copyText_text h.unit]
  congr 1
  · exact (htext h.deviceId).symm
  · exact (htext h.feature).symm
  · exact (htext h.pointId).symm
  · exact (htext h.displayName).symm
  · exact (htext h.unit).symm

theorem sentDefinitions_view {definitions : List PointDefinition}
    (hsize : definitions.length ≤ kMaxPoints)
    (h : ∀ d ∈ definitions, FieldsFit d) :
    (sentDefinitions definitions).map (·.view) = definitionRecords definitions := by
  rw [sentDefinitions, definitionRecords, List.map_map]
  apply List.map_congr_left
  rintro ⟨d, index⟩ hmem
  have hget := List.mem_zipIdx_iff_getElem?.mp hmem
  obtain ⟨hlt, -⟩ := List.getElem?_eq_some_iff.mp hget
  have hmax : kMaxPoints = 1024 := rfl
  exact definition_view (by simp only at hlt; omega) (h d (List.mem_of_getElem? hget))

theorem stateText_isString (state : PointState) : IsString 64 ((stateText state).take 63) where
  terminated := by
    rw [List.length_take]
    omega
  noZero hzero := by
    have hall : (stateText state).all (· ≠ 0) = true := List.all_takeWhile
    have hne := List.all_eq_true.mp hall 0 (List.mem_of_mem_take hzero)
    simp at hne

theorem copyText_take (size : Nat) (t : Text) :
    copyText size (t.take (size - 1)) = copyText size t := by
  rw [copyText, copyText, List.take_take, Nat.min_self]

theorem state_view {index : Nat} (hindex : index < 65536) (d : PointDefinition) (state : PointState) :
    (sentState (.ofNat index) d state true).view = stateRecord index d state true := by
  have htext := copyText_text (stateText_isString state)
  rw [show (63 : Nat) = 64 - 1 from rfl, copyText_take] at htext
  have hempty : (CharArray.of 64 []).text = [] := by decide
  have hquality : state.quality.toUInt32.toUInt8 = state.quality := by simp
  simp only [CachedStateRecord.view, sentState, buildStateRecord, stateRecord,
    toNat_ofNat_word16 hindex, hquality, Bool.true_and]
  by_cases hstring : d.valueType = .String
  · simp [hstring, htext]
  · simp [hstring, hempty]

theorem sentStates_view {entries : List Entry} (hsize : entries.length ≤ kMaxPoints) :
    (sentStates true entries).map (·.view) = stateRecords true entries := by
  rw [sentStates, stateRecords, List.map_map]
  apply List.map_congr_left
  rintro ⟨e, index⟩ hmem
  obtain ⟨hlt, -⟩ := List.getElem?_eq_some_iff.mp (List.mem_zipIdx_iff_getElem?.mp hmem)
  have hmax : kMaxPoints = 1024 := rfl
  exact state_view (by simp only at hlt; omega) _ _

variable {c : PointCatalog}

/-- Where the ESP32 is in the definitions. -/
structure DefsAt (c : PointCatalog) (start first : Nat) (s : Esp) : Prop where
  payload : s.maxFragmentPayload = kMaxResponsePayload
  place : firstRecord c s.nextDefsOffset = first
  loaded : start = 0 → Loaded c.definitions first s

structure DefsDone (c : PointCatalog) (start : Nat) (s : Esp) : Prop where
  seen : s.defsResponseSeen = true
  cached : start = 0 → s.definitionRecords = definitionRecords c.definitions

theorem chunkDefinitions_chunkOf (hfits : CatalogFits c) (first : Nat) :
    ChunkOf c.definitions first (defsChunk c first)
      ((chunkDefinitions c first).map (·.view)) := by
  have hsize : c.size = c.definitions.length := by
    simp [PointCatalog.size, PointCatalog.definitions]
  have hlength := chunkDefinitions_length c first
  refine ⟨hsize, ?_, rfl, ?_, ?_, ?_⟩
  · rw [← hsize]
    rfl
  · rw [List.length_map, hlength]
    rfl
  · rw [List.length_map, hlength, chunkDefinitions, List.map_take, List.map_drop,
      sentDefinitions_view (hsize ▸ hfits.size) hfits.fields]
  · rw [List.length_map, hlength, ← hsize]
    rfl

theorem firstRecord_place {first : Nat} (h : first ≤ c.size) :
    firstRecord c (first * kDefinitionRecordSize) = first := by
  rw [firstRecord, Nat.min_eq_left (Nat.mul_le_mul_right _ h), Nat.mul_div_cancel _ (by decide)]

theorem sendDefsSnapshotRequest_loaded {definitions : List PointDefinition} {first : Nat} {s : Esp}
    (hpayload : s.maxFragmentPayload = kMaxResponsePayload) :
    ∃ s', s.sendDefsSnapshotRequest =
        (s', some (.getDefsSnapshot s.nextDefsOffset s.computeMaxDefsPayloadBytes s.defsGeneration)) ∧
      s'.maxFragmentPayload = s.maxFragmentPayload ∧
      (Loaded definitions first s → Loaded definitions first s') := by
  have hlimit : s.computeMaxDefsPayloadBytes ≠ 0 := by
    rw [Esp.computeMaxDefsPayloadBytes, hpayload]
    decide
  rw [Esp.sendDefsSnapshotRequest, if_neg hlimit]
  refine ⟨_, rfl, rfl, fun h => ?_⟩
  by_cases hstart : s.nextDefsOffset = 0
  · have hzero : first = 0 := by
      obtain h | h := Nat.mul_eq_zero.mp (h.place.symm.trans hstart)
      · exact h
      · exact absurd h (by decide)
    subst hzero
    exact ⟨h.place, h.bound, fun hpos => absurd hpos (by decide),
      fun hpos => absurd hpos (by decide), rfl⟩
  · refine ⟨h.place, h.bound, fun hpos => ?_, fun hpos => ?_, ?_⟩
    · simpa [hstart] using h.count hpos
    · simpa [hstart] using h.total hpos
    · simpa [hstart] using h.records

theorem defsChunkSeen_frame (s : Esp) (chunk : DefsSnapshotChunkPrefix)
    (records : List DefinitionRecord) :
    (s.defsChunkSeen chunk records).maxFragmentPayload = s.maxFragmentPayload ∧
      (s.defsChunkSeen chunk records).nextDefsOffset = chunk.chunkOffset + chunk.chunkPayloadBytes ∧
      (chunk.more = false → (s.defsChunkSeen chunk records).defsResponseSeen = true) := by
  refine ⟨?_, rfl, fun hlast => ?_⟩
  · simp only [Esp.defsChunkSeen, Esp.storeDefsChunk]
    split <;> split <;> rfl
  · simp [Esp.defsChunkSeen, hlast]

/-- One exchange brings the next definitions. -/
theorem defsExchange_page (hfits : CatalogFits c) (asking : Asking) (start step first : Nat)
    (s : Esp) (hfirst : first ≤ (sentDefinitions c.definitions).length)
    (hat : DefsAt c start first s) :
    ∃ page, defsExchange c asking step s = some page ∧
      PageOf (sentDefinitions c.definitions) (DefsAt c start) (DefsDone c start) first page ∧
      (page.more = true → page.items ≠ []) := by
  have hsize : c.size = c.definitions.length := by
    simp [PointCatalog.size, PointCatalog.definitions]
  rw [sentDefinitions_length, ← hsize] at hfirst
  obtain ⟨s', hsend, hsame, hloaded⟩ := @sendDefsSnapshotRequest_loaded c.definitions first s
    hat.payload
  obtain ⟨message, hmessage, hread⟩ := readDefsResponse_sent hfits.size s.nextDefsOffset
    (asking.maxChunkPayload step s.computeMaxDefsPayloadBytes) (asking.requestId step)
  rw [hat.place] at hread
  have hlength := chunkDefinitions_length c first
  have hchunk := chunkDefinitions_chunkOf hfits first
  obtain ⟨hpayload, hplace, hseen⟩ := defsChunkSeen_frame s' (defsChunk c first)
    ((chunkDefinitions c first).map (·.view))
  refine ⟨⟨chunkDefinitions c first, (defsChunk c first).more,
    s'.defsChunkSeen (defsChunk c first) ((chunkDefinitions c first).map (·.view))⟩, ?_, ?_,
    fun hmore => ?_⟩
  · rw [defsExchange, hsend, defsAnswer, hmessage, Option.bind_some, hread]
    rfl
  · have hnext : firstRecord c ((defsChunk c first).chunkOffset +
        (defsChunk c first).chunkPayloadBytes) = first + (chunkDefinitions c first).length := by
      rw [hlength]
      change firstRecord c (first * kDefinitionRecordSize +
        min 1 (c.size - first) * kDefinitionRecordSize) = _
      rw [← Nat.add_mul, firstRecord_place (by omega)]
    refine
      { items := ?_
        bound := ?_
        more := ?_
        place := fun _ => ⟨?_, ?_, fun hstart => ?_⟩
        done := fun hlast => ⟨hseen hlast, fun hstart => ?_⟩ }
    · change chunkDefinitions c first = _
      rw [hlength]
      rfl
    · change first + (chunkDefinitions c first).length ≤ _
      rw [hlength, sentDefinitions_length, ← hsize]
      omega
    · change (defsChunk c first).more = _
      rw [hlength, sentDefinitions_length, ← hsize]
      rfl
    · rw [hpayload, hsame, hat.payload]
    · rw [hplace, hnext]
    · have hnew := defsChunkSeen_loaded (hloaded (hat.loaded hstart)) hchunk
      rw [List.length_map] at hnew
      exact hnew
    · exact defsChunkSeen_complete (hloaded (hat.loaded hstart)) hchunk hlast
  · change chunkDefinitions c first ≠ []
    have hlt : first + min 1 (c.size - first) < c.size := of_decide_eq_true hmore
    rw [← List.length_pos_iff, hlength]
    omega

end NodeNet.Link

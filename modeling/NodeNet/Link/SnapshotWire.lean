import NodeNet.Link.DefsChunks
import NodeNet.Link.RecordBytes
import NodeNet.Link.StateCache

/-! What is read of a snapshot's bytes is what was laid out there. -/
namespace NodeNet.Link
open NodeNet.Bytes NodeNet.Points NodeNet.Catalog NodeNet.Publisher

theorem CharArray.ext {size : Nat} {a b : CharArray size} (h : a.bytes = b.bytes) : a = b := by
  cases a
  cases b
  cases h
  rfl

@[simp] theorem CharArray.of_append {size : Nat} (a : CharArray size) (rest : List UInt8) :
    CharArray.of size (a.bytes ++ rest) = a := by
  apply CharArray.ext
  change (a.bytes ++ rest ++ List.replicate size 0).take size = a.bytes
  rw [List.append_assoc, List.take_append_of_le_length (Nat.le_of_eq a.full.symm),
    List.take_of_length_le (Nat.le_of_eq a.full)]

@[simp] theorem CharArray.drop_append {size : Nat} (a : CharArray size) (n : Nat)
    (rest : List UInt8) : (a.bytes ++ rest).drop (size + n) = rest.drop n := by
  rw [List.drop_append, a.full, List.drop_eq_nil_of_le (by rw [a.full]; omega), List.nil_append,
    Nat.add_sub_cancel_left]

theorem copyText_text {size : Nat} {t : Text} (h : IsString size t) : (copyText size t).text = t := by
  have hall : t.take (size - 1) = t := List.take_of_length_le (Nat.le_sub_one_of_lt h.terminated)
  rw [copyText, hall]
  exact takeWhile_charArray h

theorem definitionRecord_bytes_length (r : DefinitionRecordV1) :
    r.bytes.length = kDefinitionRecordSize := by
  simp [DefinitionRecordV1.bytes, CharArray.full, le16, le32, kDefinitionRecordSize]

theorem readDefinitionRecord_bytes (r : DefinitionRecordV1) (rest : List UInt8) :
    readDefinitionRecord (r.bytes ++ rest) = r := by
  have hfeature := fun rest => CharArray.drop_append r.deviceId 0 rest
  have hpointId := fun rest => CharArray.drop_append r.deviceId 32 rest
  have hname := fun rest => CharArray.drop_append r.deviceId 64 rest
  have hunit := fun rest => CharArray.drop_append r.deviceId 96 rest
  have hpointId' := fun rest => CharArray.drop_append r.feature 0 rest
  have hname' := fun rest => CharArray.drop_append r.feature 32 rest
  have hunit' := fun rest => CharArray.drop_append r.feature 64 rest
  have hname'' := fun rest => CharArray.drop_append r.pointId 0 rest
  have hunit'' := fun rest => CharArray.drop_append r.pointId 32 rest
  have hunit''' := fun rest => CharArray.drop_append r.displayName 0 rest
  simp only [Nat.add_zero, Nat.reduceAdd, List.drop_zero] at *
  simp [DefinitionRecordV1.bytes, readDefinitionRecord, le16, le32, byteAt, readLe16_le16,
    readLe32_le32, hfeature, hpointId, hname, hunit, hpointId', hname', hunit', hname'', hunit'',
    hunit''']

theorem readDefinitionRecords_bytes (records : List DefinitionRecordV1) (rest : List UInt8) :
    readDefinitionRecords records.length (records.flatMap (·.bytes) ++ rest) = records := by
  induction records with
  | nil => rfl
  | cons r records ih =>
    rw [List.length_cons, readDefinitionRecords, List.flatMap_cons, List.append_assoc,
      readDefinitionRecord_bytes, ← definitionRecord_bytes_length r, List.drop_left, ih]

theorem stateRecord_bytes_length (r : StateRecordV1) : r.bytes.length = kStateRecordSize := by
  simp [StateRecordV1.bytes, le16, le32, kStateRecordSize]

theorem readStateRecord_bytes (r : StateRecordV1) (rest : List UInt8) :
    readStateRecord (r.bytes ++ rest) = r := by
  simp [StateRecordV1.bytes, readStateRecord, le16, le32, byteAt, readLe16_le16, readLe32_le32]

def CachedStateRecord.bytes (r : CachedStateRecord) : List UInt8 :=
  r.record.bytes ++ if stateRecordHasInlineString r.record then r.stringValue.bytes else []

/-- Without a text there is none in the cache. -/
def CachedStateRecord.Clean (r : CachedStateRecord) : Prop :=
  stateRecordHasInlineString r.record = false → r.stringValue = .of 64 []

theorem toByte_eq_kPointValueTypeString (type : PointValueType) :
    type.toByte = kPointValueTypeString ↔ type = .String := by
  rw [PointValueType.toByte_eq_iff]
  exact Iff.rfl

theorem hasInlineString_sentState (pointIndex : UInt16) (definition : PointDefinition)
    (state : PointState) (includeStrings : Bool) :
    stateRecordHasInlineString (sentState pointIndex definition state includeStrings).record =
      decide (definition.valueType = .String) := by
  simp [stateRecordHasInlineString, sentState, buildStateRecord, toByte_eq_kPointValueTypeString]

theorem appendStateRecord_bytes (pointIndex : UInt16) (definition : PointDefinition)
    (state : PointState) : appendStateRecord pointIndex definition state true =
      (sentState pointIndex definition state true).bytes := by
  rw [CachedStateRecord.bytes, hasInlineString_sentState]
  by_cases hstring : definition.valueType = .String
  · simp [appendStateRecord, sentState, hstring]
  · simp [appendStateRecord, sentState, hstring]

theorem sentState_clean (pointIndex : UInt16) (definition : PointDefinition) (state : PointState) :
    (sentState pointIndex definition state true).Clean := by
  rw [CachedStateRecord.Clean, hasInlineString_sentState]
  intro hstring
  have hother : definition.valueType ≠ .String := of_decide_eq_false hstring
  simp [sentState, hother]

theorem appendStateRecord_length (pointIndex : UInt16) (definition : PointDefinition)
    (state : PointState) (includeStrings : Bool) :
    (appendStateRecord pointIndex definition state includeStrings).length =
      stateRecordWireSize definition includeStrings := by
  rw [appendStateRecord, List.length_append, stateRecord_bytes_length, stateRecordWireSize]
  split
  · rw [(copyText 64 (stateText state)).full]
  · rfl

theorem stringValue_drop_append (a : CharArray 64) (rest : List UInt8) :
    (a.bytes ++ rest).drop kStateStringInlineCapacity = rest := CharArray.drop_append a 0 rest

theorem cachedRecord_split (r : CachedStateRecord) (rest : List UInt8) :
    ¬ (r.bytes ++ rest).length < kStateRecordSize ∧ readStateRecord (r.bytes ++ rest) = r.record ∧
      (r.bytes ++ rest).drop kStateRecordSize =
        (if stateRecordHasInlineString r.record then r.stringValue.bytes else []) ++ rest := by
  have hlong := stateRecord_bytes_length r.record
  rw [CachedStateRecord.bytes, List.append_assoc]
  refine ⟨?_, readStateRecord_bytes _ _, ?_⟩
  · rw [List.length_append]
    omega
  · rw [← hlong, List.drop_left]

theorem measureStateRecordsPayload_bytes (records : List CachedStateRecord) (rest : List UInt8) :
    measureStateRecordsPayload records.length (records.flatMap (·.bytes) ++ rest) =
      some (records.flatMap (·.bytes)).length := by
  induction records with
  | nil => rfl
  | cons r records ih =>
    obtain ⟨hlong, hread, hbehind⟩ := cachedRecord_split r (records.flatMap (·.bytes) ++ rest)
    have hsize : r.bytes.length = kStateRecordSize +
        if stateRecordHasInlineString r.record then kStateStringInlineCapacity else 0 := by
      rw [CachedStateRecord.bytes, List.length_append, stateRecord_bytes_length]
      split
      · rw [r.stringValue.full, kStateStringInlineCapacity]
      · rfl
    rw [List.length_cons, measureStateRecordsPayload, List.flatMap_cons, List.append_assoc,
      if_neg hlong, hread, hbehind, List.length_append, hsize]
    cases stateRecordHasInlineString r.record with
    | true =>
      have hfits : ¬ (r.stringValue.bytes ++ (records.flatMap (·.bytes) ++ rest)).length <
          kStateStringInlineCapacity := by
        rw [List.length_append, r.stringValue.full, kStateStringInlineCapacity]
        omega
      simp only [if_true]
      rw [if_neg hfits, stringValue_drop_append, ih]
      rfl
    | false => simp [ih]

theorem readStateRecords_bytes {records : List CachedStateRecord} (hclean : ∀ r ∈ records, r.Clean)
    (rest : List UInt8) :
    readStateRecords records.length (records.flatMap (·.bytes) ++ rest) = records := by
  induction records with
  | nil => rfl
  | cons r records ih =>
    obtain ⟨hlong, hread, hbehind⟩ := cachedRecord_split r (records.flatMap (·.bytes) ++ rest)
    have hrest := ih fun r' hr' => hclean r' (.tail _ hr')
    rw [List.length_cons, readStateRecords, List.flatMap_cons, List.append_assoc, if_neg hlong]
    simp only [hread, hbehind]
    cases hinline : stateRecordHasInlineString r.record with
    | true =>
      have hfits : ¬ (r.stringValue.bytes ++ (records.flatMap (·.bytes) ++ rest)).length <
          kStateStringInlineCapacity := by
        rw [List.length_append, r.stringValue.full, kStateStringInlineCapacity]
        omega
      simp only [if_true]
      rw [if_neg hfits, stringValue_drop_append, hrest, CharArray.of_append]
    | false =>
      simp only [Bool.false_eq_true, if_false, List.nil_append, hrest]
      rw [← hclean r (.head _) hinline]

theorem boolByte_ne_zero (b : Bool) : decide (boolByte b ≠ 0) = b := by
  cases b <;> decide

theorem toNat_ofNat_word16 {n : Nat} (h : n < 65536) : (UInt16.ofNat n).toNat = n :=
  UInt16.toNat_ofNat_of_lt' h

theorem toNat_ofNat_word32 {n : Nat} (h : n < 4294967296) : (UInt32.ofNat n).toNat = n :=
  UInt32.toNat_ofNat_of_lt' h

theorem defsPrefix_bytes_length (p : DefsSnapshotChunkPrefix) :
    p.bytes.length = defsChunkPrefixSize := by
  simp [DefsSnapshotChunkPrefix.bytes, le16, le32, defsChunkPrefixSize]

theorem readDefsPrefix_bytes {p : DefsSnapshotChunkPrefix}
    (htotal : p.totalSerializedBytes < 4294967296) (hcount : p.totalPointCount < 65536)
    (hoffset : p.chunkOffset < 4294967296) (hbytes : p.chunkPayloadBytes < 65536)
    (rest : List UInt8) : readDefsPrefix (p.bytes ++ rest) = p := by
  cases p with
  | mk generation total count offset bytes more =>
    have hmore := boolByte_ne_zero more
    have htotal := toNat_ofNat_word32 htotal
    have hcount := toNat_ofNat_word16 hcount
    have hoffset := toNat_ofNat_word32 hoffset
    have hbytes := toNat_ofNat_word16 hbytes
    simp only [DefsSnapshotChunkPrefix.bytes] at *
    generalize UInt32.ofNat total = total' at *
    generalize UInt16.ofNat count = count' at *
    generalize UInt32.ofNat offset = offset' at *
    generalize UInt16.ofNat bytes = bytes' at *
    simp [readDefsPrefix, le16, le32, byteAt, readLe16_le16, readLe32_le32, hmore, htotal, hcount,
      hoffset, hbytes]

theorem statesPrefix_bytes_length (p : StatesSnapshotChunkPrefix) :
    p.bytes.length = statesChunkPrefixSize := by
  simp [StatesSnapshotChunkPrefix.bytes, le16, le32, statesChunkPrefixSize]

theorem readStatesPrefix_bytes {p : StatesSnapshotChunkPrefix} (hcount : p.totalPointCount < 65536)
    (hstart : p.returnedStartIndex < 65536) (hrecords : p.returnedRecordCount < 65536)
    (rest : List UInt8) : readStatesPrefix (p.bytes ++ rest) = p := by
  cases p with
  | mk sequence count start records more =>
    have hmore := boolByte_ne_zero more
    have hcount := toNat_ofNat_word16 hcount
    have hstart := toNat_ofNat_word16 hstart
    have hrecords := toNat_ofNat_word16 hrecords
    simp only [StatesSnapshotChunkPrefix.bytes] at *
    generalize UInt16.ofNat count = count' at *
    generalize UInt16.ofNat start = start' at *
    generalize UInt16.ofNat records = records' at *
    simp [readStatesPrefix, le16, le32, byteAt, readLe16_le16, readLe32_le32, hmore, hcount, hstart,
      hrecords]

/-! The answers to the snapshot requests as messages, and what the ESP32 takes from them. -/

def kFlagSnapshotPayload : UInt8 := 0x40

def kMsgDefsSnapshotRes : UInt8 := 0x11

def kMsgStatesSnapshotRes : UInt8 := 0x21

def snapshotHeader (c : PointCatalog) (messageType requestId : UInt8) (payloadLength : Nat) :
    ProtocolHeader where
  magic := kMagic
  version := kVersion
  messageType := messageType
  flags := kFlagResponse ||| kFlagSnapshotPayload
  requestId := requestId
  fragmentIndex := 0
  fragmentCount := 1
  payloadLength := .ofNat payloadLength
  generation := c.defsGeneration
  sequence := c.statesSequence

/-- The header is written before the payload that is there. -/
def snapshotMessage (c : PointCatalog) (messageType requestId : UInt8) (payload : List UInt8) :
    Option (List UInt8) :=
  encodeHeader (snapshotHeader c messageType requestId payload.length)
    (some (List.replicate kHeaderSize 0 ++ payload))

def sentDefinitions (definitions : List PointDefinition) : List DefinitionRecordV1 :=
  definitions.zipIdx.map fun p => buildDefinitionRecord (.ofNat p.2) p.1

def sentStates (includeStrings : Bool) (entries : List Entry) : List CachedStateRecord :=
  entries.zipIdx.map fun p => sentState (.ofNat p.2) p.1.definition p.1.state includeStrings

/-- The payload of an answer, its prefix being that of the chunk. -/
def defsPayload (c : PointCatalog) (resumeOffset maxChunkPayload : Nat) : List UInt8 :=
  match (defsSnapshotResponse c resumeOffset maxChunkPayload).payload with
  | .defsSnapshot chunk _ =>
    let startRecord := chunk.chunkOffset / kDefinitionRecordSize
    let returnedRecords := chunk.chunkPayloadBytes / kDefinitionRecordSize
    chunk.bytes ++
      (((sentDefinitions c.definitions).drop startRecord).take returnedRecords).flatMap (·.bytes)
  | _ => []

def statesPayload (c : PointCatalog) (startIndex maxRecords : Nat) (includeStrings : Bool) :
    List UInt8 :=
  match (statesSnapshotFrame c startIndex maxRecords includeStrings).1.payload with
  | .statesSnapshot chunk _ =>
    chunk.bytes ++ ((c.entries.zipIdx.drop chunk.returnedStartIndex).take
      chunk.returnedRecordCount).flatMap fun p =>
        appendStateRecord (.ofNat p.2) p.1.definition p.1.state includeStrings
  | _ => []

/-- The chunk and the records that are stored; `none` where the response is not used. -/
def readDefsResponse (payload : List UInt8) :
    Option (DefsSnapshotChunkPrefix × List DefinitionRecordV1) :=
  match decodeHeader (some payload) with
  | none => none
  | some header =>
    if header.messageType ≠ kMsgDefsSnapshotRes ∨
        payload.length < kHeaderSize + defsChunkPrefixSize then none
    else
      let chunk := readDefsPrefix (payload.drop kHeaderSize)
      let expectedPayload := defsChunkPrefixSize + chunk.chunkPayloadBytes
      if header.payloadLength.toNat < expectedPayload ∨
          payload.length < kHeaderSize + expectedPayload then none
      else some (chunk, readDefinitionRecords (chunk.chunkPayloadBytes / kDefinitionRecordSize)
        (payload.drop (kHeaderSize + defsChunkPrefixSize)))

def readStatesResponse (payload : List UInt8) :
    Option (StatesSnapshotChunkPrefix × List CachedStateRecord) :=
  match decodeHeader (some payload) with
  | none => none
  | some header =>
    if header.messageType ≠ kMsgStatesSnapshotRes ∨
        payload.length < kHeaderSize + statesChunkPrefixSize then none
    else
      let chunk := readStatesPrefix (payload.drop kHeaderSize)
      let chunkBytes := payload.drop (kHeaderSize + statesChunkPrefixSize)
      let chunkPayloadBytes := header.payloadLength.toNat - statesChunkPrefixSize
      match measureStateRecordsPayload chunk.returnedRecordCount
        (chunkBytes.take chunkPayloadBytes) with
      | none => none
      | some expectedRecordsPayload =>
        let expectedPayload := statesChunkPrefixSize + expectedRecordsPayload
        if header.payloadLength.toNat < expectedPayload ∨
            payload.length < kHeaderSize + expectedPayload then none
        else some (chunk, readStateRecords chunk.returnedRecordCount
          (chunkBytes.take expectedRecordsPayload))

/-- A record of the cache, as its readers see it. -/
def DefinitionRecordV1.view (r : DefinitionRecordV1) : DefinitionRecord where
  pointIndex := r.pointIndex.toNat
  backend := r.backend
  direction := r.direction
  valueType := r.valueType
  stringCapacity := r.stringCapacity
  scale := r.scale
  deviceId := r.deviceId.text
  feature := r.feature.text
  pointId := r.pointId.text
  displayName := r.displayName.text
  unit := r.unit.text

def CachedStateRecord.view (r : CachedStateRecord) : StateRecord where
  pointIndex := r.record.pointIndex.toNat
  valueType := r.record.valueType
  stateFlags := r.record.stateFlags
  valueBits := r.record.valueBits
  -- the enumeration has one byte
  quality := r.record.quality.toUInt8
  timestampMs := r.record.timestampMs
  stringValue := r.stringValue.text

end NodeNet.Link

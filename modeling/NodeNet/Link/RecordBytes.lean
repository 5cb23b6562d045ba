import NodeNet.CatalogRoundTrip
import NodeNet.Lib.LittleEndian
import NodeNet.Link.Messages

/-! The envelope of the messages between the two processors, and its bytes. -/
namespace NodeNet.Link
open NodeNet.Bytes NodeNet.Points NodeNet.Catalog NodeNet.Publisher

def kMagic : UInt16 := 0x4C50

def kVersion : UInt8 := 1

def kFlagRequest : UInt8 := 0x01

def kFlagResponse : UInt8 := 0x02

def kFlagMoreFragmentsFollow : UInt8 := 0x08

structure ProtocolHeader where
  magic : UInt16
  version : UInt8
  messageType : UInt8
  flags : UInt8
  requestId : UInt8
  fragmentIndex : UInt8
  fragmentCount : UInt8
  payloadLength : UInt16
  generation : UInt32
  sequence : UInt32
  deriving DecidableEq

/-- The message types, in the order of the enumeration. -/
def messageTypes : List UInt8 :=
  [0x01, 0x02, 0x10, 0x11, 0x12, 0x13, 0x20, 0x21, 0x22, 0x23, 0x30, 0x31, 0x32, 0x33, 0x7E, 0x7F]

def isKnownMessageType (messageType : UInt8) : Bool := messageTypes.contains messageType

def isHeaderFlagsValid (flags : UInt8) : Bool :=
  let request : Bool := flags &&& kFlagRequest ≠ 0
  let response : Bool := flags &&& kFlagResponse ≠ 0
  request ≠ response

def isHeaderValid (header : ProtocolHeader) : Bool :=
  if header.magic ≠ kMagic then false
  else if header.version ≠ kVersion then false
  else if !isKnownMessageType header.messageType then false
  else if !isHeaderFlagsValid header.flags then false
  else if header.fragmentCount = 0 then false
  else if header.fragmentCount ≤ header.fragmentIndex then false
  else if header.fragmentCount = 1 && header.fragmentIndex ≠ 0 then false
  else
    let moreFragments : Bool := header.flags &&& kFlagMoreFragmentsFollow ≠ 0
    -- the sum is made in int, so it does not wrap
    let isLast : Bool := header.fragmentIndex.toNat + 1 = header.fragmentCount.toNat
    moreFragments ≠ isLast

def headerBytes (header : ProtocolHeader) : List UInt8 :=
  le16 header.magic ++ [header.version, header.messageType, header.flags, header.requestId,
    header.fragmentIndex, header.fragmentCount] ++ le16 header.payloadLength ++
    le32 header.generation ++ le32 header.sequence

/-- The buffer after the header has been written to its start; no buffer is a null pointer. -/
def encodeHeader (header : ProtocolHeader) : Option (List UInt8) → Option (List UInt8)
  | none => none
  | some outBuffer =>
    if outBuffer.length < kHeaderSize ∨ isHeaderValid header = false then none
    else some (headerBytes header ++ outBuffer.drop kHeaderSize)

def readLe16 (b0 b1 : UInt8) : UInt16 := b0.toUInt16 ||| b1.toUInt16 <<< 8

def readLe32 (b0 b1 b2 b3 : UInt8) : UInt32 :=
  b0.toUInt32 ||| b1.toUInt32 <<< 8 ||| b2.toUInt32 <<< 16 ||| b3.toUInt32 <<< 24

def byteAt (buffer : List UInt8) (offset : Nat) : UInt8 := buffer.getD offset 0

def readHeader (buffer : List UInt8) : ProtocolHeader where
  magic := readLe16 (byteAt buffer 0) (byteAt buffer 1)
  version := byteAt buffer 2
  messageType := byteAt buffer 3
  flags := byteAt buffer 4
  requestId := byteAt buffer 5
  fragmentIndex := byteAt buffer 6
  fragmentCount := byteAt buffer 7
  payloadLength := readLe16 (byteAt buffer 8) (byteAt buffer 9)
  generation := readLe32 (byteAt buffer 10) (byteAt buffer 11) (byteAt buffer 12) (byteAt buffer 13)
  sequence := readLe32 (byteAt buffer 14) (byteAt buffer 15) (byteAt buffer 16) (byteAt buffer 17)

/-- The header that is accepted; `none` where the source returns false. -/
def decodeHeader : Option (List UInt8) → Option ProtocolHeader
  | none => none
  | some buffer =>
    if buffer.length < kHeaderSize then none
    else if isHeaderValid (readHeader buffer) then some (readHeader buffer)
    else none

/-- The rules of the format, on the bytes: the offsets and bits are those of its description. -/
structure MeetsFormat (buffer : List UInt8) : Prop where
  long : 18 ≤ buffer.length
  magic : byteAt buffer 0 = 0x50 ∧ byteAt buffer 1 = 0x4C
  version : byteAt buffer 2 = 1
  messageType : byteAt buffer 3 ∈ messageTypes
  -- exactly one of request and response
  direction : (byteAt buffer 4).toNat.testBit 0 = !(byteAt buffer 4).toNat.testBit 1
  index : byteAt buffer 6 < byteAt buffer 7
  -- more fragments follow exactly if this is not the last one
  more : (byteAt buffer 4).toNat.testBit 3 = true ↔
    (byteAt buffer 6).toNat + 1 < (byteAt buffer 7).toNat

theorem readLe16_le16 (v : UInt16) : readLe16 v.toUInt8 (v >>> 8).toUInt8 = v := word_le16 v

theorem readLe32_le32 (v : UInt32) :
    readLe32 v.toUInt8 (v >>> 8).toUInt8 (v >>> 16).toUInt8 (v >>> 24).toUInt8 = v := word_le32 v

theorem le16_readLe16 (b0 b1 : UInt8) : le16 (readLe16 b0 b1) = [b0, b1] := by
  simp only [le16, readLe16, List.cons.injEq, and_true]
  refine ⟨?_, ?_⟩
  all_goals
    refine UInt8.eq_of_toBitVec_eq (BitVec.eq_of_getLsbD_eq fun i hi => ?_)
    simp
  all_goals grind

theorem le32_readLe32 (b0 b1 b2 b3 : UInt8) : le32 (readLe32 b0 b1 b2 b3) = [b0, b1, b2, b3] := by
  simp only [le32, readLe32, List.cons.injEq, and_true]
  refine ⟨?_, ?_, ?_, ?_⟩
  all_goals
    refine UInt8.eq_of_toBitVec_eq (BitVec.eq_of_getLsbD_eq fun i hi => ?_)
    simp
  all_goals grind

theorem readHeader_headerBytes (header : ProtocolHeader) (rest : List UInt8) :
    readHeader (headerBytes header ++ rest) = header := by
  simp [headerBytes, le16, le32, readHeader, byteAt, readLe16_le16, readLe32_le32]

theorem headerBytes_length (header : ProtocolHeader) :
    (headerBytes header).length = kHeaderSize := rfl

variable {buffer : List UInt8}

theorem take_eq_map_byteAt {n : Nat} (h : n ≤ buffer.length) :
    buffer.take n = (List.range n).map (byteAt buffer) := by
  apply List.ext_getElem
  · simp [h]
  · intro k hk hk'
    have hlt : k < buffer.length := by
      simp at hk
      omega
    simp [byteAt, hlt]

theorem headerBytes_readHeader (h : kHeaderSize ≤ buffer.length) :
    headerBytes (readHeader buffer) = buffer.take kHeaderSize := by
  rw [take_eq_map_byteAt h]
  simp only [headerBytes, readHeader, le16_readLe16, le32_readLe32]
  rfl

theorem decodeHeader_spec {header : ProtocolHeader} : decodeHeader (some buffer) = some header ↔
      kHeaderSize ≤ buffer.length ∧ isHeaderValid header = true ∧ readHeader buffer = header := by
  unfold decodeHeader
  by_cases hlong : buffer.length < kHeaderSize
  · simp [hlong, Nat.not_le.mpr hlong]
  · by_cases hvalid : isHeaderValid (readHeader buffer) = true
    · simp only [hlong, hvalid, if_false, if_true, Option.some.injEq]
      constructor
      · rintro rfl
        exact ⟨Nat.not_lt.mp hlong, hvalid, rfl⟩
      · exact fun h => h.2.2
    · simp only [hlong, hvalid, if_false]
      constructor
      · intro h
        cases h
      · rintro ⟨-, hvalid', rfl⟩
        exact absurd hvalid' hvalid

theorem encodeHeader_spec {header : ProtocolHeader} {outBuffer bytes : List UInt8} :
    encodeHeader header (some outBuffer) = some bytes ↔
      kHeaderSize ≤ outBuffer.length ∧ isHeaderValid header = true ∧
        bytes = headerBytes header ++ outBuffer.drop kHeaderSize := by
  unfold encodeHeader
  by_cases hlong : outBuffer.length < kHeaderSize
  · simp [hlong, Nat.not_le.mpr hlong]
  · by_cases hvalid : isHeaderValid header = true
    · simp [hlong, hvalid, Nat.not_lt.mp hlong, eq_comm]
    · simp [hlong, hvalid]

theorem flag_testBit (flags : UInt8) :
    decide (flags &&& kFlagRequest ≠ 0) = flags.toNat.testBit 0 ∧
      decide (flags &&& kFlagResponse ≠ 0) = flags.toNat.testBit 1 ∧
      decide (flags &&& kFlagMoreFragmentsFollow ≠ 0) = flags.toNat.testBit 3 := by
  have hall : ∀ n < 256, decide (UInt8.ofNat n &&& kFlagRequest ≠ 0) = n.testBit 0 ∧
      decide (UInt8.ofNat n &&& kFlagResponse ≠ 0) = n.testBit 1 ∧
      decide (UInt8.ofNat n &&& kFlagMoreFragmentsFollow ≠ 0) = n.testBit 3 := by
    decide +kernel
  simpa using hall flags.toNat flags.toNat_lt

theorem readLe16_eq_kMagic (b0 b1 : UInt8) : readLe16 b0 b1 = kMagic ↔ b0 = 0x50 ∧ b1 = 0x4C := by
  constructor
  · intro h
    have hbytes := le16_readLe16 b0 b1
    rw [h] at hbytes
    simpa [eq_comm] using hbytes.symm.trans (show le16 kMagic = [0x50, 0x4C] by decide)
  · rintro ⟨rfl, rfl⟩
    decide

theorem isHeaderValid_spec (header : ProtocolHeader) : isHeaderValid header = true ↔
    header.magic = kMagic ∧ header.version = kVersion ∧ header.messageType ∈ messageTypes ∧
      header.flags.toNat.testBit 0 = (!header.flags.toNat.testBit 1) ∧
      header.fragmentIndex < header.fragmentCount ∧
      (header.flags.toNat.testBit 3 = true ↔
        header.fragmentIndex.toNat + 1 < header.fragmentCount.toNat) := by
  obtain ⟨hrequest, hresponse, hmore⟩ := flag_testBit header.flags
  have hflags : isHeaderFlagsValid header.flags = true ↔
      header.flags.toNat.testBit 0 = !header.flags.toNat.testBit 1 := by
    unfold isHeaderFlagsValid
    simp only [hrequest, hresponse]
    cases header.flags.toNat.testBit 0 <;> cases header.flags.toNat.testBit 1 <;> simp
  unfold isHeaderValid
  simp only [hmore]
  by_cases hindex : header.fragmentIndex < header.fragmentCount
  · have hlt := UInt8.lt_iff_toNat_lt.mp hindex
    have hnone : header.fragmentCount ≠ 0 := by
      rintro hzero
      simp [hzero] at hlt
    have hnot : ¬ header.fragmentCount ≤ header.fragmentIndex := by
      rw [UInt8.le_iff_toNat_le]
      omega
    have hone : (header.fragmentCount = 1 && header.fragmentIndex ≠ 0) = false := by
      by_cases hcount : header.fragmentCount = 1
      · have hzero : header.fragmentIndex = 0 := by
          rw [hcount] at hlt
          exact UInt8.toNat_inj.mp (by simpa using hlt)
        simp [hzero]
      · simp [hcount]
    have hlast : (header.flags.toNat.testBit 3 ≠
        decide (header.fragmentIndex.toNat + 1 = header.fragmentCount.toNat)) ↔
        (header.flags.toNat.testBit 3 = true ↔
          header.fragmentIndex.toNat + 1 < header.fragmentCount.toNat) := by
      by_cases hend : header.fragmentIndex.toNat + 1 = header.fragmentCount.toNat
      · simp [hend]
      · have hfurther : header.fragmentIndex.toNat + 1 < header.fragmentCount.toNat := by omega
        simp [hend, hfurther]
    simp only [hnone, hnot, hone, if_false, hindex, true_and]
    simp [isKnownMessageType, hflags, ← hlast]
  · have hnot : header.fragmentCount ≤ header.fragmentIndex := UInt8.not_lt.mp hindex
    simp [hindex, hnot]

theorem isHeaderValid_iff (h : kHeaderSize ≤ buffer.length) :
    isHeaderValid (readHeader buffer) = true ↔ MeetsFormat buffer := by
  rw [isHeaderValid_spec]
  simp only [readHeader, readLe16_eq_kMagic]
  constructor
  · rintro ⟨hmagic, hversion, htype, hdirection, hindex, hmore⟩
    exact ⟨h, hmagic, hversion, htype, hdirection, hindex, hmore⟩
  · rintro ⟨-, hmagic, hversion, htype, hdirection, hindex, hmore⟩
    exact ⟨hmagic, hversion, htype, hdirection, hindex, hmore⟩

/-- Encoding and decoding undo each other, and the decoder accepts what the format allows. -/
theorem header_codec :
    (∀ header outBuffer bytes, encodeHeader header outBuffer = some bytes → ∀ payload,
      decodeHeader (some (bytes.take kHeaderSize ++ payload)) = some header) ∧
    (∀ buffer header, decodeHeader (some buffer) = some header → ∀ outBuffer,
      kHeaderSize ≤ outBuffer.length → encodeHeader header (some outBuffer) =
        some (buffer.take kHeaderSize ++ outBuffer.drop kHeaderSize)) ∧
    (∀ buffer, (∃ header, decodeHeader (some buffer) = some header) ↔ MeetsFormat buffer) := by
  refine ⟨fun header outBuffer bytes h payload => ?_, fun buffer header h outBuffer hlong => ?_,
    fun buffer => ?_⟩
  · cases outBuffer with
    | none => cases h
    | some outBuffer =>
      obtain ⟨hlong, hvalid, rfl⟩ := encodeHeader_spec.mp h
      rw [List.take_left' (headerBytes_length header)]
      refine decodeHeader_spec.mpr ⟨?_, hvalid, readHeader_headerBytes header payload⟩
      simp [headerBytes_length]
  · obtain ⟨hsize, hvalid, rfl⟩ := decodeHeader_spec.mp h
    exact encodeHeader_spec.mpr ⟨hlong, hvalid, by rw [headerBytes_readHeader hsize]⟩
  · constructor
    · rintro ⟨header, h⟩
      obtain ⟨hsize, hvalid, rfl⟩ := decodeHeader_spec.mp h
      exact (isHeaderValid_iff hsize).mp hvalid
    · intro h
      exact ⟨readHeader buffer, decodeHeader_spec.mpr
        ⟨h.long, (isHeaderValid_iff h.long).mpr h, rfl⟩⟩

/-! The bytes of the snapshots: how the SoC lays records out, and how the ESP32 reads them. -/

structure CharArray (size : Nat) where
  bytes : List UInt8
  full : bytes.length = size
  deriving DecidableEq

def CharArray.of (size : Nat) (bytes : List UInt8) : CharArray size :=
  ⟨charArray size bytes, charArray_length size bytes⟩

/-- Copies at most all but one character, and ends with a zero. -/
def copyText (size : Nat) (src : Text) : CharArray size := .of size (src.take (size - 1))

def CharArray.text {size : Nat} (a : CharArray size) : Text := a.bytes.takeWhile (· ≠ 0)

structure DefinitionRecordV1 where
  pointIndex : UInt16
  backend : UInt8
  direction : UInt8
  valueType : UInt8
  reserved0 : UInt8
  stringCapacity : UInt16
  /-- The bits of the binary32 scale. -/
  scale : UInt32
  deviceId : CharArray 16
  feature : CharArray 32
  pointId : CharArray 32
  displayName : CharArray 32
  unit : CharArray 10
  deriving DecidableEq

def buildDefinitionRecord (pointIndex : UInt16) (definition : PointDefinition) :
    DefinitionRecordV1 where
  pointIndex := pointIndex
  backend := definition.backend.toByte
  direction := definition.direction.toByte
  valueType := definition.valueType.toByte
  reserved0 := 0
  stringCapacity := definition.stringCapacity
  scale := definition.scale
  deviceId := copyText 16 definition.id.deviceId
  feature := copyText 32 definition.id.feature
  pointId := copyText 32 definition.id.pointId
  displayName := copyText 32 definition.displayName
  unit := copyText 10 definition.unit

/-- The record in memory; the structures are packed. -/
def DefinitionRecordV1.bytes (r : DefinitionRecordV1) : List UInt8 :=
  le16 r.pointIndex ++ [r.backend, r.direction, r.valueType, r.reserved0] ++
    le16 r.stringCapacity ++ le32 r.scale ++ (r.deviceId.bytes ++ (r.feature.bytes ++
      (r.pointId.bytes ++ (r.displayName.bytes ++ r.unit.bytes))))

def readDefinitionRecord (bytes : List UInt8) : DefinitionRecordV1 where
  pointIndex := readLe16 (byteAt bytes 0) (byteAt bytes 1)
  backend := byteAt bytes 2
  direction := byteAt bytes 3
  valueType := byteAt bytes 4
  reserved0 := byteAt bytes 5
  stringCapacity := readLe16 (byteAt bytes 6) (byteAt bytes 7)
  scale := readLe32 (byteAt bytes 8) (byteAt bytes 9) (byteAt bytes 10) (byteAt bytes 11)
  deviceId := .of 16 (bytes.drop 12)
  feature := .of 32 (bytes.drop 28)
  pointId := .of 32 (bytes.drop 60)
  displayName := .of 32 (bytes.drop 92)
  unit := .of 10 (bytes.drop 124)

structure StateRecordV1 where
  pointIndex : UInt16
  valueType : UInt8
  stateFlags : UInt8
  valueBits : UInt32
  quality : UInt32
  timestampMs : UInt32
  deriving DecidableEq

def buildStateRecord (pointIndex : UInt16) (definition : PointDefinition) (state : PointState) :
    StateRecordV1 where
  pointIndex := pointIndex
  valueType := definition.valueType.toByte
  stateFlags := if definition.valueType = .String then 0 else 1
  valueBits := encodeStateValueBits definition.valueType state
  quality := state.quality.toUInt32
  timestampMs := state.lastUpdateMs

def StateRecordV1.bytes (r : StateRecordV1) : List UInt8 :=
  le16 r.pointIndex ++ [r.valueType, r.stateFlags] ++ le32 r.valueBits ++ le32 r.quality ++
    le32 r.timestampMs

def readStateRecord (bytes : List UInt8) : StateRecordV1 where
  pointIndex := readLe16 (byteAt bytes 0) (byteAt bytes 1)
  valueType := byteAt bytes 2
  stateFlags := byteAt bytes 3
  valueBits := readLe32 (byteAt bytes 4) (byteAt bytes 5) (byteAt bytes 6) (byteAt bytes 7)
  quality := readLe32 (byteAt bytes 8) (byteAt bytes 9) (byteAt bytes 10) (byteAt bytes 11)
  timestampMs := readLe32 (byteAt bytes 12) (byteAt bytes 13) (byteAt bytes 14) (byteAt bytes 15)

/-- A record with the text that the ESP32 keeps beside it. -/
structure CachedStateRecord where
  record : StateRecordV1
  stringValue : CharArray 64
  deriving DecidableEq

def kPointValueTypeString : UInt8 := 7

def stateRecordHasInlineString (record : StateRecordV1) : Bool :=
  record.valueType = kPointValueTypeString

def kStateStringInlineCapacity : Nat := 64

def sentState (pointIndex : UInt16) (definition : PointDefinition) (state : PointState)
    (includeStrings : Bool) : CachedStateRecord where
  record := buildStateRecord pointIndex definition state
  stringValue :=
    if includeStrings && definition.valueType = .String then copyText 64 (stateText state)
    else .of 64 []

def appendStateRecord (pointIndex : UInt16) (definition : PointDefinition) (state : PointState)
    (includeStrings : Bool) : List UInt8 :=
  (buildStateRecord pointIndex definition state).bytes ++
    if includeStrings && definition.valueType = .String then
      (copyText 64 (stateText state)).bytes
    else []

/-- What the records of a chunk take, if they are all there. -/
def measureStateRecordsPayload : Nat → List UInt8 → Option Nat
  | 0, _ => some 0
  | recordCount + 1, bytes =>
    if bytes.length < kStateRecordSize then none
    else
      let behind := bytes.drop kStateRecordSize
      if stateRecordHasInlineString (readStateRecord bytes) then
        if behind.length < kStateStringInlineCapacity then none
        else (measureStateRecordsPayload recordCount (behind.drop kStateStringInlineCapacity)).map
          (kStateRecordSize + kStateStringInlineCapacity + ·)
      else (measureStateRecordsPayload recordCount behind).map (kStateRecordSize + ·)

/-- The records that are stored, up to one that is cut off. -/
def readStateRecords : Nat → List UInt8 → List CachedStateRecord
  | 0, _ => []
  | recordCount + 1, bytes =>
    if bytes.length < kStateRecordSize then []
    else
      let behind := bytes.drop kStateRecordSize
      let record := readStateRecord bytes
      if stateRecordHasInlineString record then
        if behind.length < kStateStringInlineCapacity then []
        else ⟨record, .of 64 behind⟩ ::
          readStateRecords recordCount (behind.drop kStateStringInlineCapacity)
      else ⟨record, .of 64 []⟩ :: readStateRecords recordCount behind

def readDefinitionRecords : Nat → List UInt8 → List DefinitionRecordV1
  | 0, _ => []
  | recordCount + 1, bytes =>
    readDefinitionRecord bytes :: readDefinitionRecords recordCount (bytes.drop kDefinitionRecordSize)

def boolByte (b : Bool) : UInt8 := if b then 1 else 0

def DefsSnapshotChunkPrefix.bytes (p : DefsSnapshotChunkPrefix) : List UInt8 :=
  le32 p.defsGeneration ++ le32 (.ofNat p.totalSerializedBytes) ++
    le16 (.ofNat p.totalPointCount) ++ [0, 0] ++ le32 (.ofNat p.chunkOffset) ++
    le16 (.ofNat p.chunkPayloadBytes) ++ [boolByte p.more, 0]

def readDefsPrefix (bytes : List UInt8) : DefsSnapshotChunkPrefix where
  defsGeneration := readLe32 (byteAt bytes 0) (byteAt bytes 1) (byteAt bytes 2) (byteAt bytes 3)
  totalSerializedBytes :=
    (readLe32 (byteAt bytes 4) (byteAt bytes 5) (byteAt bytes 6) (byteAt bytes 7)).toNat
  totalPointCount := (readLe16 (byteAt bytes 8) (byteAt bytes 9)).toNat
  chunkOffset :=
    (readLe32 (byteAt bytes 12) (byteAt bytes 13) (byteAt bytes 14) (byteAt bytes 15)).toNat
  chunkPayloadBytes := (readLe16 (byteAt bytes 16) (byteAt bytes 17)).toNat
  more := byteAt bytes 18 ≠ 0

def StatesSnapshotChunkPrefix.bytes (p : StatesSnapshotChunkPrefix) : List UInt8 :=
  le32 p.statesSequenceBase ++ le16 (.ofNat p.totalPointCount) ++
    le16 (.ofNat p.returnedStartIndex) ++ le16 (.ofNat p.returnedRecordCount) ++
    [boolByte p.more, 0]

def readStatesPrefix (bytes : List UInt8) : StatesSnapshotChunkPrefix where
  statesSequenceBase :=
    readLe32 (byteAt bytes 0) (byteAt bytes 1) (byteAt bytes 2) (byteAt bytes 3)
  totalPointCount := (readLe16 (byteAt bytes 4) (byteAt bytes 5)).toNat
  returnedStartIndex := (readLe16 (byteAt bytes 6) (byteAt bytes 7)).toNat
  returnedRecordCount := (readLe16 (byteAt bytes 8) (byteAt bytes 9)).toNat
  more := byteAt bytes 10 ≠ 0

end NodeNet.Link

import NodeNet.CatalogEdits

/-! The messages between the two processors, and what the SoC answers and sends by itself. -/
namespace NodeNet.Link
open NodeNet.Points NodeNet.Catalog

def kHeaderSize : Nat := 18

def kMaxMailboxWireResponseBytes : Nat := 253

def kMaxResponsePayload : Nat := kMaxMailboxWireResponseBytes - kHeaderSize

structure DefinitionRecord where
  pointIndex : Nat
  backend : UInt8
  direction : UInt8
  valueType : UInt8
  stringCapacity : UInt16
  scale : UInt32
  deviceId : Text
  feature : Text
  pointId : Text
  displayName : Text
  unit : Text
  deriving DecidableEq

def DefinitionRecord.zero : DefinitionRecord := ⟨0, 0, 0, 0, 0, 0, [], [], [], [], []⟩

def kDefinitionRecordSize : Nat := 134

def definitionRecord (index : Nat) (d : PointDefinition) : DefinitionRecord where
  pointIndex := index
  backend := d.backend.toByte
  direction := d.direction.toByte
  valueType := d.valueType.toByte
  stringCapacity := d.stringCapacity
  scale := d.scale
  deviceId := d.id.deviceId.take 15
  feature := d.id.feature.take 31
  pointId := d.id.pointId.take 31
  displayName := d.displayName.take 31
  unit := d.unit.take 9

structure StateRecord where
  pointIndex : Nat
  valueType : UInt8
  stateFlags : UInt8
  valueBits : UInt32
  quality : UInt8
  timestampMs : UInt32
  stringValue : Text
  deriving DecidableEq

def StateRecord.zero : StateRecord := ⟨0, 0, 0, 0, 0, 0, []⟩

def kStateRecordSize : Nat := 16

def stateRecordWireSize (d : PointDefinition) (includeStrings : Bool) : Nat :=
  if includeStrings && d.valueType = .String then kStateRecordSize + 64 else kStateRecordSize

def encodeStateValueBits (type : PointValueType) (state : PointState) : UInt32 :=
  match type with
  | .Bool => if typedValue .Bool state.value ≠ 0 then 1 else 0
  | .String | .unnamed _ _ => 0
  | type => typedValue type state.value

/-- The text of an array of 64 characters, as a C string. -/
def stateText (state : PointState) : Text := (state.stringValue.take 64).takeWhile (· ≠ 0)

def stateRecord (index : Nat) (d : PointDefinition) (state : PointState) (includeStrings : Bool) :
    StateRecord where
  pointIndex := index
  valueType := d.valueType.toByte
  stateFlags := if d.valueType = .String then 0 else 1
  valueBits := encodeStateValueBits d.valueType state
  quality := state.quality
  timestampMs := state.lastUpdateMs
  stringValue := if includeStrings && d.valueType = .String then (stateText state).take 63 else []

inductive Request where
  | getCaps
  | getDefsSnapshot (resumeOffset maxChunkPayload : Nat) (requestedGeneration : UInt32)
  | getStatesSnapshot (startIndex maxRecords : Nat) (includeStrings : Bool)
  | writeState (pointIndex : Nat) (expectedValueType : UInt8) (valueBits : UInt32)
  deriving DecidableEq

structure DefsSnapshotChunkPrefix where
  defsGeneration : UInt32
  totalSerializedBytes : Nat
  totalPointCount : Nat
  chunkOffset : Nat
  chunkPayloadBytes : Nat
  more : Bool
  deriving DecidableEq

structure StatesSnapshotChunkPrefix where
  statesSequenceBase : UInt32
  totalPointCount : Nat
  returnedStartIndex : Nat
  returnedRecordCount : Nat
  more : Bool
  deriving DecidableEq

inductive Payload where
  | caps (maxFragmentPayload pointCount : Nat) (defsGeneration statesSequence : UInt32)
  | defsSnapshot (chunk : DefsSnapshotChunkPrefix) (records : List DefinitionRecord)
  | statesSnapshot (chunk : StatesSnapshotChunkPrefix) (records : List StateRecord)
  | statesUpdates (statesSequence : UInt32) (records : List StateRecord)
  | writeState (statusCode appliedValueType : UInt8)
  | error (errorCode relatedMessageType : UInt8)
  deriving DecidableEq

structure Frame where
  generation : UInt32
  sequence : UInt32
  payload : Payload
  deriving DecidableEq

def kErrorTypeMismatch : UInt8 := 5

def kErrorPointIndexOutOfRange : UInt8 := 6

def kMsgWriteStateReq : UInt8 := 0x32

/-- An error's header names neither generation nor sequence. -/
def sendError (relatedMessageType errorCode : UInt8) : Frame :=
  ⟨0, 0, .error errorCode relatedMessageType⟩

def capsResponse (c : PointCatalog) : Frame :=
  ⟨c.defsGeneration, c.statesSequence,
    .caps kMaxResponsePayload c.size c.defsGeneration c.statesSequence⟩

def definitionRecords (definitions : List PointDefinition) : List DefinitionRecord :=
  definitions.zipIdx.map fun p => definitionRecord p.2 p.1

def defsChunkPrefixSize : Nat := 20

def defsSnapshotResponse (c : PointCatalog) (resumeOffset maxChunkPayload : Nat) : Frame :=
  let totalSerializedBytes := c.size * kDefinitionRecordSize
  let clampedOffset := min resumeOffset totalSerializedBytes
  let alignedOffset := clampedOffset / kDefinitionRecordSize * kDefinitionRecordSize
  let transportRecordLimit := (kMaxResponsePayload - defsChunkPrefixSize) / kDefinitionRecordSize
  let requestedRecordLimit := maxChunkPayload / kDefinitionRecordSize
  let limit := if requestedRecordLimit = 0 then transportRecordLimit
    else min requestedRecordLimit transportRecordLimit
  let startRecord := alignedOffset / kDefinitionRecordSize
  let returnedRecords := min limit (c.size - startRecord)
  ⟨c.defsGeneration, c.statesSequence,
    .defsSnapshot
      { defsGeneration := c.defsGeneration
        totalSerializedBytes := totalSerializedBytes
        totalPointCount := c.size
        chunkOffset := alignedOffset
        chunkPayloadBytes := returnedRecords * kDefinitionRecordSize
        more := startRecord + returnedRecords < c.size }
      (((definitionRecords c.definitions).drop startRecord).take returnedRecords)⟩

def statesChunkPrefixSize : Nat := 12

/-- How many of the entries a chunk takes. -/
def fittingRecords (includeStrings : Bool) : Nat → Nat → List Entry → Nat
  | 0, _, _ => 0
  | _, _, [] => 0
  | maxRecords + 1, budget, e :: rest =>
    let size := stateRecordWireSize e.definition includeStrings
    if budget < size then 0 else fittingRecords includeStrings maxRecords (budget - size) rest + 1

/-- The first entry goes out even when none is asked for. -/
def returnedRecordCount (includeStrings : Bool) (maxRecords : Nat) (entries : List Entry) : Nat :=
  let budget := kMaxResponsePayload - statesChunkPrefixSize
  let fitting := fittingRecords includeStrings maxRecords budget entries
  match entries with
  | [] => fitting
  | e :: _ =>
    if (maxRecords = 0 || fitting = 0) &&
        stateRecordWireSize e.definition includeStrings ≤ budget then 1
    else fitting

def stateRecords (includeStrings : Bool) (entries : List Entry) : List StateRecord :=
  entries.zipIdx.map fun p => stateRecord p.2 p.1.definition p.1.state includeStrings

/-- The state that the runtime gives for a point at an index, if it is one of the PLC's own. -/
abbrev ResolvePointState := Nat → PointDefinition → Option PointState

/-- The catalog with the states as the virtual points have them. -/
def resolved (resolvePointState : ResolvePointState) (c : PointCatalog) : PointCatalog :=
  { c with
    entries := c.entries.zipIdx.map fun p =>
      { p.1 with state := (resolvePointState p.2 p.1.definition).getD p.1.state } }

/-- The chunk of these states, and whether it is not the last. -/
def statesSnapshotFrame (c : PointCatalog) (startIndex maxRecords : Nat) (includeStrings : Bool) :
    Frame × Bool :=
  let start := min startIndex c.size
  let count := returnedRecordCount includeStrings maxRecords (c.entries.drop start)
  let more : Bool := start + count < c.size
  (⟨c.defsGeneration, c.statesSequence,
    .statesSnapshot
      { statesSequenceBase := c.statesSequence
        totalPointCount := c.size
        returnedStartIndex := start
        returnedRecordCount := count
        more := more }
      (((stateRecords includeStrings c.entries).drop start).take count)⟩, more)

def statesSnapshotResponse (resolvePointState : ResolvePointState) (c : PointCatalog)
    (startIndex maxRecords : Nat) (includeStrings : Bool) : Frame × Bool :=
  statesSnapshotFrame (resolved resolvePointState c) startIndex maxRecords includeStrings

def writeStateResponse (c : PointCatalog) (pointIndex : Nat) (expectedValueType status : UInt8) :
    Frame :=
  match c.entries[pointIndex]? with
  | none => sendError kMsgWriteStateReq kErrorPointIndexOutOfRange
  | some e =>
    if expectedValueType ≠ e.definition.valueType.toByte then
      sendError kMsgWriteStateReq kErrorTypeMismatch
    else ⟨c.defsGeneration, c.statesSequence, .writeState status e.definition.valueType.toByte⟩

/-- The answer to a request; the last chunk of the states acknowledges the full sync. A write
stores before it is answered with its status. -/
def service (resolvePointState : ResolvePointState) (c : PointCatalog) (writeStatus : UInt8) :
    Request → Frame × PointCatalog
  | .getCaps => (capsResponse c, c)
  | .getDefsSnapshot resumeOffset maxChunkPayload _ =>
    (defsSnapshotResponse c resumeOffset maxChunkPayload, c)
  | .getStatesSnapshot startIndex maxRecords includeStrings =>
    let (frame, more) :=
      statesSnapshotResponse resolvePointState c startIndex maxRecords includeStrings
    (frame, if more then c else c.acknowledgeRuntimeFullSync)
  | .writeState pointIndex expectedValueType _ =>
    (writeStateResponse c pointIndex expectedValueType writeStatus, c)

def dropDirty (c : PointCatalog) : PointCatalog := (c.popDirtyStateIndex.map (·.2)).getD c

/-- What the SoC sends by itself: a call for a full sync, or the state of one dirty point. -/
def pumpUpdates (resolvePointState : ResolvePointState) (c : PointCatalog) :
    Option Frame × PointCatalog :=
  if c.runtimeFullSyncRequired then
    (some ⟨c.defsGeneration, c.statesSequence, .statesUpdates c.statesSequence []⟩, c)
  else
    match c.dirtyStateQueue with
    | [] => (none, c)
    | (index, sequence) :: _ =>
      match c.entries[index]? with
      | none => (none, dropDirty c)
      | some e =>
        let state := (resolvePointState index e.definition).getD e.state
        (some ⟨c.defsGeneration, sequence,
          .statesUpdates sequence [stateRecord index e.definition state true]⟩, dropDirty c)

end NodeNet.Link

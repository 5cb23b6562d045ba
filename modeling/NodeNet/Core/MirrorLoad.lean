import NodeNet.CatalogIndex
import NodeNet.Package
import NodeNet.Toolchain.ObjectBytes

/-! The mirror program that the node builds itself, and the request that loads it. -/
namespace NodeNet.Core
open NodeNet.Points NodeNet.Catalog NodeNet.Bytes NodeNet.ObjectFile NodeNet.Publisher
open NodeNet.Bytecode NodeNet.Toolchain NodeNet.Linker NodeNet.Loader NodeNet.Nor NodeNet.Package
  NodeNet.Slot

/-- What `copy_text` leaves of a text in an array of this size. -/
def copiedText (size : Nat) (text : Text) : Text := text.take (size - 1)

def channelPoint (pointPrefix : String) (channel : UInt8) : Text :=
  copiedText 16 (ascii pointPrefix ++ (Nat.toDigits 10 channel.toNat).map (·.toNat.toUInt8))

def makePointIdentity (deviceId feature pointId : Text) : PointIdentity where
  deviceId := copiedText 16 deviceId
  feature := copiedText 32 feature
  pointId := copiedText 32 pointId

def featureHasPoint (c : PointCatalog) (deviceId feature pointId : Text) : Bool :=
  (c.find (makePointIdentity deviceId feature pointId)).isSome

def channelInRange (channel : UInt8) : Bool := channel ≠ 0 && channel ≤ 8

def kWaveshareFeature : Text := ascii "modbus0.waveshare8ch"

def hasChannels (c : PointCatalog) (deviceId : Text) (inputChannel outputChannel : UInt8)
    (feature : Text) : Bool :=
  featureHasPoint c deviceId feature (channelPoint "input" inputChannel) &&
    featureHasPoint c deviceId feature (channelPoint "output" outputChannel)

def resolveWaveshareFeature (c : PointCatalog) (deviceId : Text)
    (inputChannel outputChannel : UInt8) : Option Text :=
  if !channelInRange inputChannel || !channelInRange outputChannel then none
  else if hasChannels c deviceId inputChannel outputChannel kWaveshareFeature then
    some kWaveshareFeature
  else
    (c.definitions.find? fun definition => definition.id.deviceId = deviceId &&
      (ascii "modbus0.").isPrefixOf definition.id.feature &&
      hasChannels c deviceId inputChannel outputChannel definition.id.feature).map
        fun definition => copiedText 32 definition.id.feature

/-- A text in a record's field, filled up with zeros. -/
def fieldBytes (size : Nat) (text : Text) : List UInt8 :=
  copiedText size text ++ List.replicate (size - (copiedText size text).length) 0

structure MirrorSymbol where
  symbolName : Text
  pointId : PointIdentity
  access : UInt8

def MirrorSymbol.bytes (s : MirrorSymbol) : List UInt8 :=
  fieldBytes 16 s.symbolName ++ [0, 0] ++ fieldBytes 16 s.pointId.deviceId ++
    fieldBytes 32 s.pointId.feature ++ fieldBytes 32 s.pointId.pointId ++ [0, s.access, 0, 0]

def relocationBytes (codeOffset : UInt32) (symbolIndex : UInt16) : List UInt8 :=
  le32 codeOffset ++ le16 symbolIndex ++ [kPlcRelocationPointStateValueOffsetU32Le, 0]

/-- Read the input, write the output, halt; the operands are zero until they are linked. -/
def mirrorCode (input output : UInt32) : List UInt8 :=
  [0x10] ++ le32 input ++ [0x11] ++ le32 output ++ [0x00]

def inputSymbol (deviceId feature : Text) (channel : UInt8) : MirrorSymbol :=
  ⟨ascii "input", makePointIdentity deviceId feature (channelPoint "input" channel), 0⟩

def outputSymbol (deviceId feature : Text) (channel : UInt8) : MirrorSymbol :=
  ⟨ascii "output", makePointIdentity deviceId feature (channelPoint "output" channel), 1⟩

def mirrorPayload (deviceId feature : Text) (inputChannel outputChannel : UInt8) :
    List UInt8 :=
  mirrorCode 0 0 ++ (inputSymbol deviceId feature inputChannel).bytes ++
    (outputSymbol deviceId feature outputChannel).bytes ++
    relocationBytes 1 0 ++ relocationBytes 6 1

/-- The sizes are those of the arrays in the source. -/
def mirrorHeader (objectChecksum : UInt32) : PlcObjectFileHeaderV1 where
  magic := kPlcObjectFileMagicV1
  version := kPlcObjectFileVersionV1
  abiVersion := kPlcRuntimeAbiV1Version
  flags := 0
  totalSize := 283
  codeSize := 11
  entryOffset := 0
  symbolCount := 2
  relocationCount := 2
  symbolTableOffset := 63
  relocationTableOffset := 267
  maxInstructionsPerScan := 16
  maxScanTimeUs := 5000
  runtimeHeaderAddr := kPlcRuntimeHeaderAddr
  objectChecksum := objectChecksum

def objectHeaderBytes (h : PlcObjectFileHeaderV1) : List UInt8 :=
  le32 h.magic ++ le16 h.version ++ le16 h.abiVersion ++ le32 h.flags ++ le32 h.totalSize ++
    le32 h.codeSize ++ le32 h.entryOffset ++ le16 h.symbolCount ++ le16 h.relocationCount ++
    le32 h.symbolTableOffset ++ le32 h.relocationTableOffset ++ le32 h.maxInstructionsPerScan ++
    le32 h.maxScanTimeUs ++ le32 h.runtimeHeaderAddr ++ le32 h.objectChecksum

def mirrorObject (deviceId feature : Text) (inputChannel outputChannel : UInt8) :
    List UInt8 :=
  let payload := mirrorPayload deviceId feature inputChannel outputChannel
  objectHeaderBytes (mirrorHeader (Fnv.hash payload)) ++ payload

def buildMirrorProgramObjectFile (deviceId feature : Text)
    (inputChannel outputChannel : UInt8) (objectCapacity : Nat) :
    Except PlcSlotLoadStatusV1 (List UInt8) :=
  if !channelInRange inputChannel || !channelInRange outputChannel then .error .InvalidArgument
  else
    let object := mirrorObject deviceId feature inputChannel outputChannel
    if objectCapacity < object.length then .error .BytecodeTooLarge else .ok object

/-- The size of the handler's array: it leaves 7 bytes for the code. -/
def objectBytesSize : Nat := headerSize.toNat + 7 + symbolSize.toNat * 2 + relocationSize.toNat * 2

/-- The node, as far as the request uses it. -/
structure PlcNode where
  deviceId : Text
  loader : LoaderState
  staging : Memory
  flash : Memory
  flashReady : Bool
  publisherReady : Bool

/-- The members that are read, with their defaults. -/
structure MirrorRequest where
  programType : Text
  slotId : UInt16
  persistToFlash : Bool
  inputChannel : UInt8
  outputChannel : UInt8

structure MirrorResponse where
  ok : Bool
  error : Text
  loadStatus : Option PlcSlotLoadStatusV1
  runtimeIndices : Option (UInt16 × UInt16)
  deriving DecidableEq

def refusedMirror (error : String) : MirrorResponse := ⟨false, ascii error, none, none⟩

def failedMirror (error : String) (status : PlcSlotLoadStatusV1) : MirrorResponse :=
  ⟨false, ascii error, some status, none⟩

/-- The result of the call comes first. -/
def PlcNode.savePackage (n : PlcNode) (faults : Faults) (slotId : UInt16) (object : List UInt8) :
    Bool × PlcNode :=
  if !n.flashReady then (false, n)
  else
    let saved := savePersistedPlcSlotsPackage n.loader
      ⟨slotId, some (ofBytes object), UInt32.ofNat object.length⟩ n.staging n.flash faults
    (saved.ok, { n with staging := saved.staging, flash := saved.flash })

def kPlcSlotParamsMagicV1 : UInt32 := 0x31524150

def mirrorParams (r : MirrorRequest) (input output : UInt16) (loadEpoch : UInt32) : List UInt8 :=
  le32 kPlcSlotParamsMagicV1 ++ le16 kPlcRuntimeAbiV1Version ++ le16 1 ++ le16 24 ++ le16 0 ++
    le32 loadEpoch ++ le16 r.inputChannel.toUInt16 ++ le16 r.outputChannel.toUInt16 ++
    le16 input ++ le16 output

/-- `writeSlotParams` of a slot that exists, with parameters that fit. -/
def writeSlotParams (m : SlotMemory) (slotId : UInt16) (params : List UInt8)
    (loadEpoch : UInt32) : SlotMemory :=
  let layout := slotLayout slotId
  let size := UInt32.ofNat params.length
  let cleared : Memory := fun x => if x < layout.paramsCapacity then 0 else m.params x
  { m with
    params := copy cleared 0 (ofBytes params) 0 params.length
    linkedHeader := { m.linkedHeader with paramsSize := size }
    manifest := { m.manifest with
      paramsBase := layout.paramsBase
      paramsSize := size
      loadEpoch := loadEpoch }
    control := { m.control with paramsBase := layout.paramsBase, paramsSize := size } }

def pointStateIndexForIdentity (s : LoaderState) (id : PointIdentity) : Option UInt16 :=
  (s.catalog.findIndex id).bind s.publisher.pointStateIndexForCatalogIndex

def resolveChannelRuntimeIndices (s : LoaderState) (deviceId feature : Text)
    (r : MirrorRequest) : Option (UInt16 × UInt16) :=
  match pointStateIndexForIdentity s
      (makePointIdentity deviceId feature (channelPoint "input" r.inputChannel)) with
  | none => none
  | some input =>
    (pointStateIndexForIdentity s
      (makePointIdentity deviceId feature (channelPoint "output" r.outputChannel))).map
        fun output => (input, output)

/-- What follows a load: the parameters of the program go into its slot. -/
def PlcNode.withParams (n : PlcNode) (r : MirrorRequest) (feature : Text) :
    MirrorResponse × PlcNode :=
  match resolveChannelRuntimeIndices n.loader n.deviceId feature r with
  | none => (⟨true, [], some .Ok, none⟩, n)
  | some (input, output) =>
    let epoch := n.loader.publisher.storeEpoch
    (⟨true, [], some .Ok, some (input, output)⟩,
      { n with loader := n.loader.updateSlot r.slotId fun m =>
          writeSlotParams m r.slotId (mirrorParams r input output epoch) epoch })

/-- What follows when the object was built. -/
def PlcNode.loadMirror (n : PlcNode) (faults : Faults) (r : MirrorRequest)
    (feature : Text) (object : List UInt8) : MirrorResponse × PlcNode :=
  let (saved, n) := if r.persistToFlash then n.savePackage faults r.slotId object else (true, n)
  if !saved then (failedMirror "flashPersistFailed" .Ok, n)
  else
    let (loader, result) := loadObjectFileIntoSlot n.loader r.slotId (ofBytes object)
      (UInt32.ofNat object.length)
    let n := { n with loader := loader }
    if result.status ≠ .Ok then (failedMirror "loadFailed" result.status, n)
    else n.withParams r feature

def PlcNode.handlePlcLoadRequest (n : PlcNode) (faults : Faults) (r : MirrorRequest) :
    MirrorResponse × PlcNode :=
  if !n.publisherReady then (refusedMirror "runtimeUnavailable", n)
  else if r.programType ≠ ascii "mirrorBool" ∧ r.programType ≠ ascii "mirror" then
    (refusedMirror "unsupportedProgramType", n)
  else if kPlcSlotCountV1 ≤ r.slotId then (refusedMirror "slotOutOfRange", n)
  else if !channelInRange r.inputChannel || !channelInRange r.outputChannel then
    (refusedMirror "channelOutOfRange", n)
  else
    match resolveWaveshareFeature n.loader.catalog n.deviceId r.inputChannel r.outputChannel with
    | none => (refusedMirror "missingWaveshareDevice", n)
    | some feature =>
      match buildMirrorProgramObjectFile n.deviceId feature r.inputChannel r.outputChannel
          objectBytesSize with
      | .error status => (failedMirror "loadFailed" status, n)
      | .ok object => n.loadMirror faults r feature object

/-! The object is larger than the array it is built in. -/

theorem copiedText_length {size : Nat} (h : 0 < size) (text : Text) :
    (copiedText size text).length < size := by
  rw [copiedText, List.length_take]
  omega

theorem fieldBytes_length {size : Nat} (h : 0 < size) (text : Text) :
    (fieldBytes size text).length = size := by
  have hcopied := copiedText_length h text
  rw [fieldBytes, List.length_append, List.length_replicate]
  omega

theorem MirrorSymbol.bytes_length (s : MirrorSymbol) : s.bytes.length = symbolSize.toNat := by
  have hsize : symbolSize.toNat = 102 := rfl
  simp only [MirrorSymbol.bytes, List.length_append, fieldBytes_length (by decide : 0 < 16),
    fieldBytes_length (by decide : 0 < 32), List.length_cons, List.length_nil, hsize]

theorem mirrorPayload_length (deviceId feature : Text)
    (inputChannel outputChannel : UInt8) :
    (mirrorPayload deviceId feature inputChannel outputChannel).length = 231 := by
  have hsize : symbolSize.toNat = 102 := rfl
  simp [mirrorPayload, mirrorCode, MirrorSymbol.bytes_length, relocationBytes, hsize, le16, le32]

theorem objectHeaderBytes_length (h : PlcObjectFileHeaderV1) : (objectHeaderBytes h).length = 52 := by
  simp [objectHeaderBytes, le16, le32]

theorem mirrorObject_length (deviceId feature : Text) (inputChannel outputChannel : UInt8) :
    (mirrorObject deviceId feature inputChannel outputChannel).length = 283 := by
  rw [mirrorObject, List.length_append, mirrorPayload_length, objectHeaderBytes_length]

theorem resolve_channels {c : PointCatalog} {deviceId feature : Text}
    {inputChannel outputChannel : UInt8}
    (h : resolveWaveshareFeature c deviceId inputChannel outputChannel = some feature) :
    channelInRange inputChannel = true ∧ channelInRange outputChannel = true := by
  rw [resolveWaveshareFeature] at h
  cases hinput : channelInRange inputChannel with
  | false =>
    rw [hinput] at h
    cases h
  | true =>
    cases houtput : channelInRange outputChannel with
    | false =>
      rw [hinput, houtput] at h
      cases h
    | true => exact ⟨rfl, rfl⟩

theorem build_tooLarge {deviceId feature : Text} {inputChannel outputChannel : UInt8}
    (hinput : channelInRange inputChannel = true) (houtput : channelInRange outputChannel = true) :
    buildMirrorProgramObjectFile deviceId feature inputChannel outputChannel objectBytesSize =
      .error .BytecodeTooLarge := by
  have hsize : objectBytesSize = 279 := rfl
  rw [buildMirrorProgramObjectFile, hinput, houtput, hsize]
  simp [mirrorObject_length]

/-! With room for it, the object is one that the loader accepts. -/

/-- What the request is to do once its device is found: the object is built in the array, passes the
checks of the loader and is linked to the input and the output that are named; and a request that
fails changes neither the flash nor a slot. -/
structure MirrorLoads (n : PlcNode) (faults : Faults) (r : MirrorRequest) (feature : Text) :
    Prop where
  loads : ∃ object parsed input output,
    buildMirrorProgramObjectFile n.deviceId feature r.inputChannel r.outputChannel
        objectBytesSize = .ok object ∧
      parseObjectFile (ofBytes object) (UInt32.ofNat object.length) = .ok parsed ∧
      validateSupportedBytecode parsed.objectImage.codeBytes parsed.objectImage.codeSize.toNat =
        true ∧
      n.loader.catalog.findIndex (makePointIdentity n.deviceId feature
        (channelPoint "input" r.inputChannel)) = some input ∧
      n.loader.catalog.findIndex (makePointIdentity n.deviceId feature
        (channelPoint "output" r.outputChannel)) = some output ∧
      let linked := linkObjectImage n.loader.publisher n.loader.catalog parsed.objectImage
        (fun _ => 0) (slotLayout r.slotId).linkedCodeCapacity r.slotId
      linked.result.status = .Ok ∧ bytesAt linked.code 0 11 =
        mirrorCode (n.loader.publisher.pointStateValueOffsetForCatalogIndex input)
          (n.loader.publisher.pointStateValueOffsetForCatalogIndex output)
  unchanged : (n.handlePlcLoadRequest faults r).1.ok = false →
    (n.handlePlcLoadRequest faults r).2.flash = n.flash ∧
      (n.handlePlcLoadRequest faults r).2.loader.slots = n.loader.slots

theorem handlePlcLoadRequest_refused (n : PlcNode) (faults : Faults) (r : MirrorRequest) :
    (n.handlePlcLoadRequest faults r).1.ok = false ∧ (n.handlePlcLoadRequest faults r).2 = n := by
  rw [PlcNode.handlePlcLoadRequest]
  split
  · exact ⟨rfl, rfl⟩
  · split
    · exact ⟨rfl, rfl⟩
    · split
      · exact ⟨rfl, rfl⟩
      · split
        · exact ⟨rfl, rfl⟩
        · cases hresolve : resolveWaveshareFeature n.loader.catalog n.deviceId r.inputChannel
              r.outputChannel with
          | none => exact ⟨rfl, rfl⟩
          | some feature =>
            obtain ⟨hinput, houtput⟩ := resolve_channels hresolve
            dsimp only
            rw [build_tooLarge hinput houtput]
            exact ⟨rfl, rfl⟩

theorem mirrorLoads_false {n : PlcNode} {faults : Faults} {r : MirrorRequest}
    {feature : Text} (hresolve : resolveWaveshareFeature n.loader.catalog n.deviceId
      r.inputChannel r.outputChannel = some feature) : ¬ MirrorLoads n faults r feature := by
  intro h
  obtain ⟨object, -, -, -, hbuilt, -⟩ := h.loads
  obtain ⟨hinput, houtput⟩ := resolve_channels hresolve
  rw [build_tooLarge hinput houtput] at hbuilt
  cases hbuilt

/-- Whatever the catalog, the device, the channels and the slot: no object is built, the request is
refused, and nothing changes. -/
theorem mirror_never_loads {n : PlcNode} {r : MirrorRequest} {feature : Text}
    (hresolve : resolveWaveshareFeature n.loader.catalog n.deviceId r.inputChannel
      r.outputChannel = some feature) (faults : Faults) :
    ¬ MirrorLoads n faults r feature ∧ (n.handlePlcLoadRequest faults r).1.ok = false ∧
      (n.handlePlcLoadRequest faults r).2 = n :=
  And.intro (mirrorLoads_false hresolve) (handlePlcLoadRequest_refused n faults r)

def mirrorPoint (pointId : String) (direction : PointDirection) : PointDefinition :=
  ⟨⟨ascii "n", kWaveshareFeature, ascii pointId⟩, [], .Modbus, direction, .Bool, 1000, 3000, 4,
    0x3F800000, [], 0, List.replicate 80 0⟩

def mirrorCatalog : PointCatalog :=
  PointCatalog.empty.setEntries
    [freshEntry (mirrorPoint "input1" .Input), freshEntry (mirrorPoint "output1" .Output)]

def mirrorNode : PlcNode where
  deviceId := ascii "n"
  loader := { LoaderState.boot with
    catalog := mirrorCatalog
    publisher := (PlcRuntimePublisherV1.initial.publish mirrorCatalog).getD .initial }
  staging := fun _ => 0
  flash := fun _ => 0xFF
  flashReady := true
  publisherReady := true

def mirrorRequest : MirrorRequest := ⟨ascii "mirrorBool", 0, true, 1, 1⟩

theorem mirrorNode_resolved : resolveWaveshareFeature mirrorNode.loader.catalog mirrorNode.deviceId
    mirrorRequest.inputChannel mirrorRequest.outputChannel = some kWaveshareFeature := by
  decide +kernel

theorem mirror_refused : ¬ MirrorLoads mirrorNode noFaults mirrorRequest kWaveshareFeature :=
  (mirror_never_loads mirrorNode_resolved noFaults).1

/-- The request for the first input and the first output of the node. -/
theorem mirror_not_loaded :
    (mirrorNode.handlePlcLoadRequest noFaults mirrorRequest).1 =
        failedMirror "loadFailed" .BytecodeTooLarge ∧
      ¬ MirrorLoads mirrorNode noFaults mirrorRequest kWaveshareFeature := by
  refine ⟨?_, mirrorLoads_false mirrorNode_resolved⟩
  rw [PlcNode.handlePlcLoadRequest, if_neg (by decide), if_neg (by decide), if_neg (by decide),
    if_neg (by decide), mirrorNode_resolved]
  dsimp only
  rw [build_tooLarge (by decide) (by decide)]

end NodeNet.Core

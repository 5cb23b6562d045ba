import NodeNet.Catalog

/-! The runtime publisher: point-state indices, link requests and definition epochs. -/
namespace NodeNet.Publisher
open NodeNet.Points NodeNet.Catalog

/-- `sizeof(PointState)` in the shared point-state window. -/
def kPlcSharedPointStateStride : UInt32 := 80

/-- `offsetof(PointState, quality)`. -/
def kPlcSharedPointStateQualityOffset : UInt32 := 68

inductive PlcRuntimeValueTypeV1 where
  | Invalid | Bool | Uint16 | Int16 | Uint32 | Int32 | Float32
  deriving DecidableEq

structure PlcRuntimeDescriptorFlagsV1 where
  readable : Bool
  writable : Bool
  input : Bool
  output : Bool
  internal : Bool
  float : Bool
  sharedPointState : Bool
  deriving DecidableEq

structure PlcPointDescriptorV1 where
  pointStateIndex : UInt16
  valueType : PlcRuntimeValueTypeV1
  flags : PlcRuntimeDescriptorFlagsV1
  pointStateValueOffset : UInt32
  pointStateQualityOffset : UInt32
  deriving DecidableEq

inductive PlcRuntimeLinkStatusV1 where
  | Resolved | NotFound | UnsupportedPointType | TypeMismatch | AccessDenied
  deriving DecidableEq

structure PlcRuntimePublisherV1 where
  ready : Bool
  headerWritten : Bool
  publishedCount : Nat
  definitionHash : UInt32
  storeEpoch : UInt32
  descriptors : List PlcPointDescriptorV1
  deriving DecidableEq

/-- The publisher after `begin`, whose region check always passes. -/
def PlcRuntimePublisherV1.initial : PlcRuntimePublisherV1 := ⟨true, false, 0, 0, 0, []⟩

structure LinkRequest where
  pointId : PointIdentity
  expectedType : PointValueType
  access : UInt8

/-- What a resolved request gives the linker. -/
structure LinkResult where
  pointStateIndex : UInt16
  pointStateValueOffset : UInt32
  deriving DecidableEq

def sharedPointStateRecordOffset (catalogIndex : Nat) : UInt32 :=
  UInt32.ofNat catalogIndex * kPlcSharedPointStateStride

/-- `none` where the source returns `kInvalidPointStateIndex`. -/
def PlcRuntimePublisherV1.pointStateIndexForCatalogIndex (p : PlcRuntimePublisherV1)
    (catalogIndex : Nat) : Option UInt16 :=
  if !p.ready || kMaxPoints ≤ catalogIndex then none else some (UInt16.ofNat catalogIndex)

def PlcRuntimePublisherV1.pointStateValueOffsetForCatalogIndex (p : PlcRuntimePublisherV1)
    (catalogIndex : Nat) : UInt32 :=
  if !p.ready || kMaxPoints ≤ catalogIndex then 0 else sharedPointStateRecordOffset catalogIndex

def mapValueType : PointValueType → PlcRuntimeValueTypeV1
  | .Bool => .Bool
  | .Uint16 => .Uint16
  | .Int16 => .Int16
  | .Uint32 => .Uint32
  | .Int32 => .Int32
  | .Float => .Float32
  | .Enum => .Int16
  | _ => .Invalid

/-- The source's own copy of the test in the catalog, with its own list of built-in names. -/
def isDynamicSlotVariablePoint (definition : PointDefinition) : Bool :=
  isTransientSlotVariable definition.id

def mapFlags (definition : PointDefinition) : PlcRuntimeDescriptorFlagsV1 where
  readable := true
  writable := isDynamicSlotVariablePoint definition || definition.direction = .Output ||
    definition.direction = .InOut
  input := definition.direction = .Input || definition.direction = .InOut
  output := definition.direction = .Output || definition.direction = .InOut
  internal := definition.backend = .Local
  float := definition.valueType = .Float
  sharedPointState := [PointValueType.Bool, .Uint16, .Int16, .Uint32, .Int32, .Enum].contains
    definition.valueType

/-- The access byte of a symbol: 0 reads, 1 writes, 2 does both, and no other is allowed. -/
def accessAllowed (flags : PlcRuntimeDescriptorFlagsV1) (access : UInt8) : Bool :=
  if access = 0 then flags.readable
  else if access = 1 then flags.writable
  else if access = 2 then flags.readable && flags.writable
  else false

def PlcRuntimePublisherV1.resolveLinkRequest (p : PlcRuntimePublisherV1) (c : PointCatalog)
    (request : LinkRequest) : Except PlcRuntimeLinkStatusV1 LinkResult :=
  match c.findIndex request.pointId with
  | none => .error .NotFound
  | some i =>
    match c.definitions[i]? with
    | none => .error .NotFound
    | some definition =>
      let actualType := mapValueType definition.valueType
      let expectedType := mapValueType request.expectedType
      if actualType = .Invalid then .error .UnsupportedPointType
      else if expectedType = .Invalid ∨ expectedType ≠ actualType then .error .TypeMismatch
      else if !accessAllowed (mapFlags definition) request.access then .error .AccessDenied
      else
        match p.pointStateIndexForCatalogIndex i with
        | none => .error .UnsupportedPointType
        | some index => .ok ⟨index, p.pointStateValueOffsetForCatalogIndex i⟩

/-- A `char` array of `n` bytes that holds a string. -/
def charArray (n : Nat) (t : Text) : List UInt8 := (t ++ List.replicate n 0).take n

def definitionBytes (definition : PointDefinition) : List UInt8 :=
  charArray 16 definition.id.deviceId ++ charArray 32 definition.id.feature ++
    charArray 32 definition.id.pointId ++
    [definition.backend.toByte, definition.direction.toByte, definition.valueType.toByte]

def hashCatalogDefinitions (c : PointCatalog) : UInt32 :=
  Fnv.hash (c.definitions.flatMap definitionBytes)

def descriptorOf (p : PointDefinition × Nat) : PlcPointDescriptorV1 where
  pointStateIndex := UInt16.ofNat p.2
  valueType := mapValueType p.1.valueType
  flags := mapFlags p.1
  pointStateValueOffset := sharedPointStateRecordOffset p.2
  pointStateQualityOffset := sharedPointStateRecordOffset p.2 + kPlcSharedPointStateQualityOffset

def PlcRuntimePublisherV1.rebuildDescriptors (p : PlcRuntimePublisherV1) (c : PointCatalog) :
    PlcRuntimePublisherV1 :=
  { p with
    publishedCount := min c.size kMaxPoints
    descriptors := (c.definitions.take kMaxPoints).zipIdx.map descriptorOf }

/-- Definitions count as changed when nothing was published yet or their hash differs. -/
def PlcRuntimePublisherV1.due (p : PlcRuntimePublisherV1) (c : PointCatalog) : Bool :=
  !p.headerWritten || hashCatalogDefinitions c ≠ p.definitionHash

/-- `none` where the source returns false. -/
def PlcRuntimePublisherV1.publish (p : PlcRuntimePublisherV1) (c : PointCatalog) :
    Option PlcRuntimePublisherV1 :=
  if !p.ready then none
  else if p.due c then
    some { p.rebuildDescriptors c with
      definitionHash := hashCatalogDefinitions c
      storeEpoch := p.storeEpoch + 1
      headerWritten := true }
  else some p

def definitionOf (c : PointCatalog) (id : PointIdentity) : Option PointDefinition :=
  (c.findIndex id).bind (c.definitions[·]?)

/-- A request resolves when the identity is there with the type and the access asked for, at an
index the publisher gives. -/
theorem resolveLinkRequest_ok_iff {p : PlcRuntimePublisherV1} {c : PointCatalog}
    {r : LinkRequest} :
    (p.resolveLinkRequest c r).toOption.isSome ↔
      ∃ i d, c.findIndex r.pointId = some i ∧ c.definitions[i]? = some d ∧
        mapValueType d.valueType ≠ .Invalid ∧
        mapValueType r.expectedType = mapValueType d.valueType ∧
        accessAllowed (mapFlags d) r.access = true ∧
        (p.pointStateIndexForCatalogIndex i).isSome := by
  unfold PlcRuntimePublisherV1.resolveLinkRequest
  cases hi : c.findIndex r.pointId with
  | none => simp [Except.toOption]
  | some i =>
    cases hd : c.definitions[i]? with
    | none => simp [hd, Except.toOption]
    | some d =>
      by_cases hactual : mapValueType d.valueType = .Invalid
      · simp [hd, hactual, Except.toOption]
      by_cases htype : mapValueType r.expectedType = mapValueType d.valueType
      · by_cases haccess : accessAllowed (mapFlags d) r.access = true
        · cases hindex : p.pointStateIndexForCatalogIndex i <;>
            simp [hd, hactual, htype, haccess, hindex, Except.toOption]
        · simp [hd, hactual, htype, haccess, Except.toOption]
      · simp [hd, hactual, htype, Except.toOption]

theorem resolveLinkRequest_congr {p p' : PlcRuntimePublisherV1} (h : p.ready = p'.ready)
    (c : PointCatalog) (r : LinkRequest) :
    p.resolveLinkRequest c r = p'.resolveLinkRequest c r := by
  simp only [PlcRuntimePublisherV1.resolveLinkRequest,
    PlcRuntimePublisherV1.pointStateIndexForCatalogIndex,
    PlcRuntimePublisherV1.pointStateValueOffsetForCatalogIndex, h]

theorem resolveLinkRequest_spec {p : PlcRuntimePublisherV1} {c : PointCatalog} {r : LinkRequest}
    {l : LinkResult} (h : p.resolveLinkRequest c r = .ok l) :
    ∃ i e, c.findIndex r.pointId = some i ∧ c.entries[i]? = some e ∧
      e.definition.id = r.pointId ∧ i < kMaxPoints ∧
      l = ⟨UInt16.ofNat i, sharedPointStateRecordOffset i⟩ := by
  unfold PlcRuntimePublisherV1.resolveLinkRequest at h
  split at h
  · cases h
  · rename_i i hi
    obtain ⟨e, he, hid⟩ := findIndex_spec hi
    split at h
    · cases h
    · simp only at h
      iterate 3 (split at h; · cases h)
      split at h
      · cases h
      · rename_i index hindex
        unfold PlcRuntimePublisherV1.pointStateIndexForCatalogIndex at hindex
        split at hindex
        · cases hindex
        · rename_i hready
          cases hindex
          cases h
          have hlt : i < kMaxPoints := by simp at hready; exact hready.2
          refine ⟨i, e, hi, he, hid, hlt, ?_⟩
          simp [PlcRuntimePublisherV1.pointStateValueOffsetForCatalogIndex, hready]

theorem publish_of_not_due {p : PlcRuntimePublisherV1} {c : PointCatalog} (hr : p.ready = true)
    (h : p.due c = false) : p.publish c = some p := by
  simp [PlcRuntimePublisherV1.publish, hr, h]

end NodeNet.Publisher

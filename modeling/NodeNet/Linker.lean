import NodeNet.Lib.Checks
import NodeNet.ObjectFile
import NodeNet.Publisher

/-! The object linker: slot-variable identities, relocation records and `linkObjectImage`. -/
namespace NodeNet.Linker
open NodeNet.Bytes NodeNet.Checks NodeNet.Points NodeNet.Catalog NodeNet.Publisher
open NodeNet.ObjectFile

def kPlcSymbolSlotVar : UInt8 := 2

def kPlcRelocationPointStateIndexU16Le : UInt8 := 0

def kPlcRelocationPointStateValueOffsetU32Le : UInt8 := 1

inductive PlcObjectLinkStatusV1 where
  | Ok | InvalidArgument | OutputTooSmall | EntryOffsetOutOfRange | SymbolIndexOutOfRange
  | RelocationOutOfRange | UnsupportedRelocationKind | ResolveFailed
  deriving DecidableEq

structure PlcObjectLinkResultV1 where
  status : PlcObjectLinkStatusV1
  resolveStatus : PlcRuntimeLinkStatusV1
  failingSymbolIndex : UInt16
  failingRelocationIndex : UInt16
  resolvedRelocationCount : UInt16
  linkedCodeSize : UInt32
  entryOffset : UInt32
  deriving DecidableEq

def PlcObjectLinkResultV1.zero : PlcObjectLinkResultV1 := ⟨.Ok, .Resolved, 0, 0, 0, 0, 0⟩

/-- The output buffer and the result as the relocation loop updates them. -/
structure LinkState where
  code : Memory
  result : PlcObjectLinkResultV1

def slotFeature (slotId : UInt16) : Text :=
  slotPrefix ++ (Nat.toDigits 10 slotId.toNat).map (·.toNat.toUInt8)

/-- The device of the slot's points, or of the catalog's first point. -/
def slotDeviceId (c : PointCatalog) (feature : Text) : Text :=
  let own := c.definitions.find? fun d => d.backend = .Local && d.id.feature = feature
  match own.map (·.id.deviceId.take 15) with
  | some (b :: bs) => b :: bs
  | _ =>
    match c.definitions with
    | [] => []
    | d :: _ => d.id.deviceId.take 15

/-- What both copies of `buildSlotVariableIdentity` build once their checks passed. -/
def slotVariableIdentity (c : PointCatalog) (slotId : UInt16) (symbolName : Text) :
    PointIdentity where
  deviceId := slotDeviceId c (slotFeature slotId)
  feature := slotFeature slotId
  pointId := symbolName.take 31

/-- The linker's copy. -/
def buildSlotVariableIdentity (c : PointCatalog) (slotId : UInt16) (symbolName : Text) :
    Option PointIdentity :=
  if c.size = 0 ∨ symbolName = [] ∨ slotId = 0xFFFF then none
  else some (slotVariableIdentity c slotId symbolName)

def isSupportedSlotVariableType (rawType : UInt8) : Bool :=
  [PointValueType.Bool, .Uint16, .Int16, .Uint32, .Int32, .Float, .Enum].contains
    (.ofByte rawType)

/-- The linker's copy. -/
def resolveSymbolRecord (c : PointCatalog) (slotId : UInt16) (source : PlcObjectSymbolRecordV1) :
    Option PlcObjectSymbolRecordV1 :=
  if source.symbolKind ≠ kPlcSymbolSlotVar then some source
  else if !isSupportedSlotVariableType source.expectedType then none
  else (buildSlotVariableIdentity c slotId source.symbolName).map fun id =>
    { source with pointId := id }

def requestOf (symbol : PlcObjectSymbolRecordV1) : LinkRequest where
  pointId := symbol.pointId
  expectedType := .ofByte symbol.expectedType
  access := symbol.access

def resolveSlotVariableLink (p : PlcRuntimePublisherV1) (c : PointCatalog)
    (symbol : PlcObjectSymbolRecordV1) : Except PlcRuntimeLinkStatusV1 LinkResult :=
  match c.findIndex symbol.pointId with
  | none => .error .NotFound
  | some i =>
    match c.definitions[i]? with
    | none => .error .NotFound
    | some definition =>
      if definition.valueType.toByte ≠ symbol.expectedType then .error .TypeMismatch
      else
        match p.pointStateIndexForCatalogIndex i with
        | none => .error .UnsupportedPointType
        | some index => .ok ⟨index, p.pointStateValueOffsetForCatalogIndex i⟩

/-- The conditional expression of the relocation loop. -/
def linkSymbol (p : PlcRuntimePublisherV1) (c : PointCatalog)
    (source symbol : PlcObjectSymbolRecordV1) : Except PlcRuntimeLinkStatusV1 LinkResult :=
  if source.symbolKind = kPlcSymbolSlotVar then resolveSlotVariableLink p c symbol
  else p.resolveLinkRequest c (requestOf symbol)

def relocationPatchSize (kind : UInt8) : UInt32 :=
  if kind = kPlcRelocationPointStateIndexU16Le then 2
  else if kind = kPlcRelocationPointStateValueOffsetU32Le then 4
  else 0

def patchValue (kind : UInt8) (l : LinkResult) : UInt32 :=
  if kind = kPlcRelocationPointStateIndexU16Le then l.pointStateIndex.toUInt32
  else l.pointStateValueOffset

/-- The bytes `applyRelocation` stores. -/
def patchBytes (kind : UInt8) (v : UInt32) : List UInt8 :=
  if kind = kPlcRelocationPointStateIndexU16Le then [v.toUInt8, (v >>> 8).toUInt8]
  else if kind = kPlcRelocationPointStateValueOffsetU32Le then
    [v.toUInt8, (v >>> 8).toUInt8, (v >>> 16).toUInt8, (v >>> 24).toUInt8]
  else []

theorem patchBytes_length (kind : UInt8) (v : UInt32) :
    (patchBytes kind v).length = (relocationPatchSize kind).toNat := by
  unfold patchBytes relocationPatchSize
  split
  · rfl
  · split <;> rfl

def relocationPatch (r : PlcObjectRelocationRecordV1) (l : LinkResult) : Patch where
  offset := r.codeOffset
  bytes := patchBytes r.relocationKind (patchValue r.relocationKind l)

def LinkState.applyRelocation (s : LinkState) (r : PlcObjectRelocationRecordV1)
    (l : LinkResult) : LinkState where
  code := (relocationPatch r l).apply s.code
  result := { s.result with
    resolveStatus := .Resolved
    resolvedRelocationCount := s.result.resolvedRelocationCount + 1 }

/-- One iteration of the relocation loop; an error is the early return. -/
def linkRelocation (p : PlcRuntimePublisherV1) (c : PointCatalog) (slotId : UInt16)
    (image : PlcObjectImageV1) (i : Nat) (s : LinkState) : Except LinkState LinkState :=
  let index := UInt16.ofNat i
  let relocation := image.relocations index
  let s := { s with result.failingRelocationIndex := index }
  if image.symbolCount ≤ relocation.symbolIndex then
    .error { s with
      result.status := .SymbolIndexOutOfRange
      result.failingSymbolIndex := relocation.symbolIndex }
  else
    let source := image.symbols relocation.symbolIndex
    let patchSize := relocationPatchSize relocation.relocationKind
    if patchSize = 0 then .error { s with result.status := .UnsupportedRelocationKind }
    else if image.codeSize < relocation.codeOffset + patchSize then
      .error { s with result.status := .RelocationOutOfRange }
    else
      match resolveSymbolRecord c slotId source with
      | none =>
        .error { s with
          result.status := .ResolveFailed
          result.resolveStatus := .UnsupportedPointType }
      | some symbol =>
        let s := { s with result.failingSymbolIndex := relocation.symbolIndex }
        match linkSymbol p c source symbol with
        | .error e =>
          .error { s with result.status := .ResolveFailed, result.resolveStatus := e }
        | .ok l => .ok (s.applyRelocation relocation l)

def linkStart (codeSize entryOffset : UInt32) : PlcObjectLinkResultV1 where
  status := .InvalidArgument
  resolveStatus := .Resolved
  failingSymbolIndex := 0xFFFF
  failingRelocationIndex := 0xFFFF
  resolvedRelocationCount := 0
  linkedCodeSize := codeSize
  entryOffset := entryOffset

/-- The result after the relocation loop, whichever way it ended. -/
def linkEnd : Except LinkState LinkState → LinkState
  | .error s => s
  | .ok s =>
    { s with
      result.status := .Ok
      result.failingSymbolIndex := 0xFFFF
      result.failingRelocationIndex := 0xFFFF }

def linkObjectImage (p : PlcRuntimePublisherV1) (c : PointCatalog) (image : PlcObjectImageV1)
    (linkedCodeOut : Memory) (linkedCodeCapacity : UInt32) (slotId : UInt16) : LinkState :=
  let result := linkStart image.codeSize image.entryOffset
  if linkedCodeCapacity < image.codeSize then
    ⟨linkedCodeOut, { result with status := .OutputTooSmall }⟩
  else if image.codeSize < image.entryOffset then
    ⟨linkedCodeOut, { result with status := .EntryOffsetOutOfRange }⟩
  else
    linkEnd (forLoop (linkRelocation p c slotId image) 0 image.relocationCount.toNat
      ⟨copy linkedCodeOut 0 image.codeBytes 0 image.codeSize.toNat, result⟩)

/-- The location a symbol resolves to, `none` where the linker refuses it. -/
def resolveSymbol (p : PlcRuntimePublisherV1) (c : PointCatalog) (slotId : UInt16)
    (source : PlcObjectSymbolRecordV1) : Option LinkResult :=
  match resolveSymbolRecord c slotId source with
  | none => none
  | some symbol => (linkSymbol p c source symbol).toOption

theorem resolveSlotVariableLink_spec {p : PlcRuntimePublisherV1} {c : PointCatalog}
    {symbol : PlcObjectSymbolRecordV1} {l : LinkResult}
    (h : resolveSlotVariableLink p c symbol = .ok l) :
    ∃ i, c.findIndex symbol.pointId = some i ∧
      l = ⟨UInt16.ofNat i, sharedPointStateRecordOffset i⟩ := by
  unfold resolveSlotVariableLink at h
  split at h
  · cases h
  · rename_i i hi
    split at h
    · cases h
    split at h
    · cases h
    split at h
    · cases h
    rename_i index hindex
    unfold PlcRuntimePublisherV1.pointStateIndexForCatalogIndex at hindex
    split at hindex
    · cases hindex
    rename_i hready
    cases hindex
    cases h
    exact ⟨i, hi, by simp [PlcRuntimePublisherV1.pointStateValueOffsetForCatalogIndex, hready]⟩

/-- A slot variable resolves when its identity is there with exactly its type, at an index the
publisher gives. -/
theorem resolveSlotVariableLink_ok_iff {p : PlcRuntimePublisherV1} {c : PointCatalog}
    {symbol : PlcObjectSymbolRecordV1} :
    (resolveSlotVariableLink p c symbol).toOption.isSome ↔
      ∃ i d, c.findIndex symbol.pointId = some i ∧ c.definitions[i]? = some d ∧
        d.valueType.toByte = symbol.expectedType ∧
        (p.pointStateIndexForCatalogIndex i).isSome := by
  unfold resolveSlotVariableLink
  cases hi : c.findIndex symbol.pointId with
  | none => simp [Except.toOption]
  | some i =>
    cases hd : c.definitions[i]? with
    | none => simp [hd, Except.toOption]
    | some d =>
      by_cases htype : d.valueType.toByte = symbol.expectedType
      · cases hindex : p.pointStateIndexForCatalogIndex i <;>
          simp [hd, htype, hindex, Except.toOption]
      · simp [hd, htype, Except.toOption]

def symbolIdentity (c : PointCatalog) (slotId : UInt16) (source : PlcObjectSymbolRecordV1) :
    PointIdentity :=
  if source.symbolKind = kPlcSymbolSlotVar then slotVariableIdentity c slotId source.symbolName
  else source.pointId

theorem resolveSymbolRecord_pointId {c : PointCatalog} {slotId : UInt16}
    {source symbol : PlcObjectSymbolRecordV1}
    (h : resolveSymbolRecord c slotId source = some symbol) :
    symbol.pointId = symbolIdentity c slotId source := by
  unfold resolveSymbolRecord buildSlotVariableIdentity at h
  unfold symbolIdentity
  split at h
  · rename_i hkind
    cases h
    rw [if_neg hkind]
  rename_i hkind
  rw [if_pos (Decidable.not_not.mp hkind)]
  split at h
  · cases h
  split at h
  · cases h
  · cases h
    rfl

theorem resolveSymbol_spec {p : PlcRuntimePublisherV1} {c : PointCatalog} {slotId : UInt16}
    {source : PlcObjectSymbolRecordV1} {l : LinkResult}
    (h : resolveSymbol p c slotId source = some l) :
    ∃ i, c.findIndex (symbolIdentity c slotId source) = some i ∧
      l = ⟨UInt16.ofNat i, sharedPointStateRecordOffset i⟩ := by
  unfold resolveSymbol at h
  split at h
  · cases h
  rename_i symbol hsymbol
  rw [← resolveSymbolRecord_pointId hsymbol]
  cases hlink : linkSymbol p c source symbol with
  | error e =>
    rw [hlink] at h
    cases h
  | ok l' =>
    rw [hlink] at h
    cases h
    unfold linkSymbol at hlink
    split at hlink
    · exact resolveSlotVariableLink_spec hlink
    · obtain ⟨i, e, hi, -, -, -, hl⟩ := resolveLinkRequest_spec hlink
      exact ⟨i, hi, hl⟩

/-- A relocation the loop's own checks let through. -/
def RelocationAdmitted (codeSize : UInt32) (symbolCount : UInt16)
    (r : PlcObjectRelocationRecordV1) : Prop :=
  r.symbolIndex < symbolCount ∧ relocationPatchSize r.relocationKind ≠ 0 ∧
    r.codeOffset + relocationPatchSize r.relocationKind ≤ codeSize

instance (codeSize : UInt32) (symbolCount : UInt16) (r : PlcObjectRelocationRecordV1) :
    Decidable (RelocationAdmitted codeSize symbolCount r) :=
  inferInstanceAs (Decidable (_ ∧ _ ∧ _))

/-- The patch of relocation `i`, `none` where the loop returns. -/
def imagePatch (p : PlcRuntimePublisherV1) (c : PointCatalog) (slotId : UInt16)
    (image : PlcObjectImageV1) (i : Nat) : Option Patch :=
  let r := image.relocations (UInt16.ofNat i)
  if RelocationAdmitted image.codeSize image.symbolCount r then
    (resolveSymbol p c slotId (image.symbols r.symbolIndex)).map (relocationPatch r)
  else none

theorem resolveSymbol_congr {p p' : PlcRuntimePublisherV1} (h : p.ready = p'.ready)
    (c : PointCatalog) (slotId : UInt16) (source : PlcObjectSymbolRecordV1) :
    resolveSymbol p c slotId source = resolveSymbol p' c slotId source := by
  simp only [resolveSymbol, linkSymbol, resolveLinkRequest_congr h, resolveSlotVariableLink,
    PlcRuntimePublisherV1.pointStateIndexForCatalogIndex,
    PlcRuntimePublisherV1.pointStateValueOffsetForCatalogIndex, h]

theorem imagePatch_congr {p p' : PlcRuntimePublisherV1} (h : p.ready = p'.ready)
    (c : PointCatalog) (slotId : UInt16) (image : PlcObjectImageV1) :
    imagePatch p c slotId image = imagePatch p' c slotId image := by
  funext i
  simp only [imagePatch, resolveSymbol_congr h]

/-- A loop body that applies the patch of its index, or stops where there is none. -/
structure Patches (body : Nat → LinkState → Except LinkState LinkState)
    (f : Nat → Option Patch) : Prop where
  applied : ∀ i s q, f i = some q → ∃ t, body i s = .ok t ∧ t.code = q.apply s.code
  stopped : ∀ i s, f i = none →
    ∃ t, body i s = .error t ∧ t.code = s.code ∧ t.result.status ≠ .Ok

variable {body : Nat → LinkState → Except LinkState LinkState} {f : Nat → Option Patch}

theorem Patches.loop_code (h : Patches body f) (i n : Nat) (s : LinkState) :
    (linkEnd (forLoop body i n s)).code = patchRun f i n s.code := by
  induction n generalizing i s with
  | zero => rfl
  | succ n ih =>
    unfold forLoop patchRun
    cases hf : f i with
    | none =>
      obtain ⟨t, ht, hcode, -⟩ := h.stopped i s hf
      rw [ht]
      exact hcode
    | some q =>
      obtain ⟨t, ht, hcode⟩ := h.applied i s q hf
      rw [ht]
      simp only
      rw [ih, hcode]

theorem Patches.loop_ok (h : Patches body f) (i n : Nat) (s : LinkState) :
    (linkEnd (forLoop body i n s)).result.status = .Ok ↔
      ∀ k, i ≤ k → k < i + n → (f k).isSome := by
  induction n generalizing i s with
  | zero => exact ⟨fun _ k hk hkn => by omega, fun _ => rfl⟩
  | succ n ih =>
    unfold forLoop
    cases hf : f i with
    | none =>
      obtain ⟨t, ht, -, hstatus⟩ := h.stopped i s hf
      rw [ht]
      refine ⟨fun hok => absurd hok hstatus, fun hall => ?_⟩
      have := hall i (Nat.le_refl i) (by omega)
      simp [hf] at this
    | some q =>
      obtain ⟨t, ht, -⟩ := h.applied i s q hf
      rw [ht]
      simp only
      rw [ih]
      constructor
      · intro hall k hk hkn
        by_cases hik : k = i
        · simp [hik, hf]
        · exact hall k (by omega) (by omega)
      · exact fun hall k hk hkn => hall k (by omega) (by omega)

theorem Patches.of_cases
    (h : ∀ i s, (∃ q t, f i = some q ∧ body i s = .ok t ∧ t.code = q.apply s.code) ∨
      (f i = none ∧ ∃ t, body i s = .error t ∧ t.code = s.code ∧ t.result.status ≠ .Ok)) :
    Patches body f := by
  constructor
  · intro i s q hq
    rcases h i s with ⟨q', t, hq', ht⟩ | ⟨hnone, -⟩
    · rw [hq] at hq'
      cases hq'
      exact ⟨t, ht⟩
    · rw [hq] at hnone
      cases hnone
  · intro i s hnone
    rcases h i s with ⟨q, t, hq, -⟩ | ⟨-, h⟩
    · rw [hnone] at hq
      cases hq
    · exact h

theorem linkRelocation_patches (p : PlcRuntimePublisherV1) (c : PointCatalog) (slotId : UInt16)
    (image : PlcObjectImageV1) :
    Patches (linkRelocation p c slotId image) (imagePatch p c slotId image) := by
  apply Patches.of_cases
  intro i s
  simp only [imagePatch, linkRelocation, resolveSymbol]
  generalize image.relocations (UInt16.ofNat i) = r
  by_cases hsym : image.symbolCount ≤ r.symbolIndex
  · have hadm : ¬ RelocationAdmitted image.codeSize image.symbolCount r :=
      fun h => UInt16.not_lt.mpr hsym h.1
    simp [hsym, hadm]
  by_cases hsize : relocationPatchSize r.relocationKind = 0
  · have hadm : ¬ RelocationAdmitted image.codeSize image.symbolCount r := fun h => h.2.1 hsize
    simp [hsym, hsize, hadm]
  by_cases hrange : image.codeSize < r.codeOffset + relocationPatchSize r.relocationKind
  · have hadm : ¬ RelocationAdmitted image.codeSize image.symbolCount r :=
      fun h => UInt32.not_lt.mpr h.2.2 hrange
    simp [hsym, hsize, hrange, hadm]
  have hadm : RelocationAdmitted image.codeSize image.symbolCount r :=
    ⟨UInt16.not_le.mp hsym, hsize, UInt32.not_lt.mp hrange⟩
  simp only [if_neg hsym, if_neg hsize, if_neg hrange, if_pos hadm]
  cases hrec : resolveSymbolRecord c slotId (image.symbols r.symbolIndex) with
  | none => simp
  | some symbol =>
    cases hlink : linkSymbol p c (image.symbols r.symbolIndex) symbol with
    | error e => simp [hlink, Except.toOption]
    | ok l =>
      left
      exact ⟨relocationPatch r l, _, by simp [hlink, Except.toOption], by simp [hlink]; rfl, rfl⟩

/-- The code bytes once the relocations up to the first refused one are patched in. -/
def linkedBytes (p : PlcRuntimePublisherV1) (c : PointCatalog) (slotId : UInt16)
    (image : PlcObjectImageV1) (old : Memory) : Memory :=
  patchRun (imagePatch p c slotId image) 0 image.relocationCount.toNat
    (copy old 0 image.codeBytes 0 image.codeSize.toNat)

/-- Every relocation of the image is admitted and resolves. -/
def Links (p : PlcRuntimePublisherV1) (c : PointCatalog) (slotId : UInt16)
    (image : PlcObjectImageV1) : Prop :=
  ∀ k < image.relocationCount.toNat, (imagePatch p c slotId image k).isSome

theorem linkObjectImage_spec (p : PlcRuntimePublisherV1) (c : PointCatalog) (slotId : UInt16)
    (image : PlcObjectImageV1) (old : Memory) {capacity : UInt32}
    (hcap : image.codeSize ≤ capacity) (hentry : image.entryOffset ≤ image.codeSize) :
    (linkObjectImage p c image old capacity slotId).code = linkedBytes p c slotId image old ∧
      ((linkObjectImage p c image old capacity slotId).result.status = .Ok ↔
        Links p c slotId image) := by
  unfold linkObjectImage
  simp only [if_neg (UInt32.not_lt.mpr hcap), if_neg (UInt32.not_lt.mpr hentry)]
  have h := linkRelocation_patches p c slotId image
  refine ⟨h.loop_code _ _ _, ?_⟩
  rw [h.loop_ok]
  simp [Links]

end NodeNet.Linker

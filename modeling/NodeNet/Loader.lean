import NodeNet.Bytecode
import NodeNet.Lib.Bytes
import NodeNet.Linker
import NodeNet.Slot

/-! Page reads of the flash driver and the loader's byte reads over them. -/
namespace NodeNet.Flash
open NodeNet.Bytes

def kPageSize : UInt32 := 256

/-- The driver: a page read by its base address, or a failure. -/
structure FlashDriver where
  readPage : UInt32 → Option Memory

def pageBase (pos : UInt32) : UInt32 := pos &&& ~~~(kPageSize - 1)

/-- Copy page by page; the fuel bounds the number of pages. -/
def flashReadLoop (flash : FlashDriver) (flashOffset size : UInt32) :
    Nat → UInt32 → Memory → Memory × Bool
  | 0, _, out => (out, true)
  | fuel + 1, copied, out =>
    if copied < size then
      let pos := flashOffset + copied
      let pageOffset := pos - pageBase pos
      match flash.readPage (pageBase pos) with
      | none => (out, false)
      | some page =>
        let chunk := if size - copied < kPageSize - pageOffset then size - copied
          else kPageSize - pageOffset
        flashReadLoop flash flashOffset size fuel (copied + chunk)
          (copy out copied page pageOffset chunk.toNat)
    else (out, true)

/-- What the destination holds afterwards, and whether every page was read. -/
def flashReadBytes (flash : FlashDriver) (flashOffset : UInt32) (out : Memory) (size : UInt32) :
    Memory × Bool :=
  flashReadLoop flash flashOffset size size.toNat 0 out

/-- Every page read succeeds and returns the bytes of `content`. -/
def ReadsAs (flash : FlashDriver) (content : Memory) : Prop :=
  ∀ pos, ∃ page, flash.readPage (pageBase pos) = some page ∧
    ∀ x, x < kPageSize → page x = content (pageBase pos + x)

theorem pageBase_toNat (pos : UInt32) : (pageBase pos).toNat = 2 ^ 8 * (pos.toNat / 2 ^ 8) := by
  have hmask : (~~~(kPageSize - 1)).toNat = 2 ^ 8 * (2 ^ 24 - 1) := by decide
  have hpos : pos.toNat < 2 ^ 32 := pos.toNat_lt
  unfold pageBase
  rw [UInt32.toNat_and, hmask]
  refine Nat.eq_of_testBit_eq fun i => ?_
  rw [Nat.testBit_and, Nat.testBit_two_pow_mul, Nat.testBit_two_pow_mul,
    Nat.testBit_two_pow_sub_one, Nat.testBit_div_two_pow]
  by_cases h8 : 8 ≤ i
  · by_cases h32 : i < 32
    · simp [h8, show i - 8 < 24 by omega, show i - 8 + 8 = i by omega]
    · have hle : pos.toNat < 2 ^ i :=
        Nat.lt_of_lt_of_le hpos (Nat.pow_le_pow_right (by omega) (by omega))
      simp [h8, Nat.testBit_lt_two_pow hle, show i - 8 + 8 = i by omega]
  · simp [h8]

theorem pageOffset_toNat (pos : UInt32) : (pos - pageBase pos).toNat = pos.toNat % 256 := by
  have h := pageBase_toNat pos
  have hpos := pos.toNat_lt
  rw [UInt32.toNat_sub]
  omega

theorem chunk_bounds {copied pageOffset chunk : UInt32} (size : UInt32)
    (hlt : copied.toNat < size.toNat) (hoff : pageOffset.toNat < 256)
    (hc : (if size - copied < kPageSize - pageOffset then size - copied
      else kPageSize - pageOffset) = chunk) :
    0 < chunk.toNat ∧ chunk.toNat ≤ size.toNat - copied.toNat ∧
      chunk.toNat ≤ 256 - pageOffset.toNat := by
  have h256 : kPageSize.toNat = 256 := rfl
  have hsize := UInt32.toNat_sub size copied
  have hpage := UInt32.toNat_sub kPageSize pageOffset
  have := size.toNat_lt
  split at hc
  · rename_i h
    rw [UInt32.lt_iff_toNat_lt] at h
    subst hc
    omega
  · rename_i h
    rw [UInt32.lt_iff_toNat_lt] at h
    subst hc
    omega

/-- A page that is read holds the bytes of `content`; other reads may fail. -/
def ReadsFrom (flash : FlashDriver) (content : Memory) : Prop :=
  ∀ pos page, flash.readPage (pageBase pos) = some page →
    ∀ x, x < kPageSize → page x = content (pageBase pos + x)

/-- The bytes of the pages that can be read, zeros elsewhere. -/
def flashContent (flash : FlashDriver) : Memory := fun x =>
  match flash.readPage (pageBase x) with
  | some page => page (x - pageBase x)
  | none => 0

theorem pageBase_add {x : UInt32} (pos : UInt32) (h : x < kPageSize) :
    pageBase (pageBase pos + x) = pageBase pos := by
  have hbase := pageBase_toNat pos
  have hpos := pos.toNat_lt
  have hx : x.toNat < 256 := UInt32.lt_iff_toNat_lt.mp h
  apply UInt32.toNat_inj.mp
  rw [pageBase_toNat, UInt32.toNat_add, hbase]
  omega

theorem readsFrom_flashContent (flash : FlashDriver) : ReadsFrom flash (flashContent flash) := by
  intro pos page hpage x hx
  simp only [flashContent, pageBase_add pos hx, hpage]
  congr 1
  grind

variable {flash : FlashDriver} {content : Memory}

theorem ReadsAs.readsFrom (h : ReadsAs flash content) : ReadsFrom flash content := by
  intro pos page hpage
  obtain ⟨page', hpage', hbytes⟩ := h pos
  rw [hpage'] at hpage
  cases hpage
  exact hbytes

/-- A loop that ends without a failed read has copied the flash bytes. -/
theorem flashReadLoop_ok (hread : ReadsFrom flash content) (flashOffset size : UInt32)
    (out : Memory) (fuel : Nat) (copied : UInt32) (hle : copied.toNat ≤ size.toNat)
    (hfuel : size.toNat ≤ copied.toNat + fuel)
    (hok : (flashReadLoop flash flashOffset size fuel copied out).2 = true) :
    (flashReadLoop flash flashOffset size fuel copied out).1 =
      copy out copied content (flashOffset + copied) (size.toNat - copied.toNat) := by
  induction fuel generalizing copied out with
  | zero =>
    have h0 : size.toNat - copied.toNat = 0 := by omega
    rw [h0]
    rfl
  | succ fuel ih =>
    unfold flashReadLoop at hok ⊢
    by_cases hlt : copied < size
    · rw [if_pos hlt] at hok ⊢
      rw [UInt32.lt_iff_toNat_lt] at hlt
      have hoff := pageOffset_toNat (flashOffset + copied)
      generalize hp : flashOffset + copied - pageBase (flashOffset + copied) = pageOffset at hoff
      generalize hc : (if size - copied < kPageSize - pageOffset then size - copied
        else kPageSize - pageOffset) = chunk
      cases hpage : flash.readPage (pageBase (flashOffset + copied)) with
      | none => simp [hpage] at hok
      | some page =>
        have hbytes := hread (flashOffset + copied) page hpage
        have hchunk := chunk_bounds size hlt (by omega) hc
        have hsum : (copied + chunk).toNat = copied.toNat + chunk.toNat := by
          have := size.toNat_lt
          rw [UInt32.toNat_add]
          omega
        have hcopy : copy out copied page pageOffset chunk.toNat =
            copy out copied content (flashOffset + copied) chunk.toNat := by
          refine copy_congr fun d hd => ?_
          rw [hbytes]
          · rw [← hp]
            congr 1
            grind
          · rw [UInt32.lt_iff_toNat_lt, UInt32.toNat_add]
            have h256 : kPageSize.toNat = 256 := rfl
            omega
        have hcc := copy_copy out content copied (flashOffset + copied)
          (size.toNat - (copied + chunk).toNat) chunk.toNat_lt
        rw [UInt32.ofNat_toNat, UInt32.add_assoc flashOffset] at hcc
        simp only [hp, hpage, hc] at hok ⊢
        rw [ih (copy out copied page pageOffset chunk.toNat) (copied + chunk) (by omega) (by omega)
          hok, hcopy, hcc]
        congr 1
        omega
    · rw [if_neg hlt]
      rw [UInt32.lt_iff_toNat_lt] at hlt
      have h0 : size.toNat - copied.toNat = 0 := by omega
      rw [h0]
      rfl

theorem flashReadLoop_succeeds (hread : ReadsAs flash content) (flashOffset size : UInt32)
    (fuel : Nat) (copied : UInt32) (out : Memory) :
    (flashReadLoop flash flashOffset size fuel copied out).2 = true := by
  induction fuel generalizing copied out with
  | zero => rfl
  | succ fuel ih =>
    unfold flashReadLoop
    split
    · obtain ⟨page, hpage, _⟩ := hread (flashOffset + copied)
      simp only [hpage]
      exact ih _ _
    · rfl

theorem flashReadBytes_ok (hread : ReadsFrom flash content) {flashOffset : UInt32} {out : Memory}
    {size : UInt32} (hok : (flashReadBytes flash flashOffset out size).2 = true) :
    (flashReadBytes flash flashOffset out size).1 =
      copy out 0 content flashOffset size.toNat := by
  have h := flashReadLoop_ok hread flashOffset size out size.toNat 0 (Nat.zero_le _) (by simp) hok
  simpa [flashReadBytes] using h

theorem flashReadLoop_success (flash : FlashDriver) (flashOffset size : UInt32) (fuel : Nat)
    (copied : UInt32) (out out' : Memory) :
    (flashReadLoop flash flashOffset size fuel copied out).2 =
      (flashReadLoop flash flashOffset size fuel copied out').2 := by
  induction fuel generalizing copied out out' with
  | zero => rfl
  | succ fuel ih =>
    unfold flashReadLoop
    split
    · dsimp only
      split
      · rfl
      · exact ih ..
    · rfl

theorem flashReadLoop_byte (flash : FlashDriver) (flashOffset size : UInt32) (fuel : Nat)
    {copied : UInt32} {out out' : Memory} {x : UInt32} (h : out x = out' x) :
    (flashReadLoop flash flashOffset size fuel copied out).1 x =
      (flashReadLoop flash flashOffset size fuel copied out').1 x := by
  induction fuel generalizing copied out out' with
  | zero => exact h
  | succ fuel ih =>
    unfold flashReadLoop
    split
    · dsimp only
      split
      · exact h
      · refine ih ?_
        rw [copy, copy, h]
    · exact h

theorem flashReadBytes_first {flash : FlashDriver} {flashOffset size : UInt32} (hsize : size ≠ 0)
    (hpage : flash.readPage (pageBase flashOffset) ≠ none) (out out' : Memory) :
    (flashReadBytes flash flashOffset out size).1 0 =
      (flashReadBytes flash flashOffset out' size).1 0 := by
  have hpos : 0 < size.toNat := Nat.pos_of_ne_zero fun h0 => hsize (UInt32.toNat_inj.mp h0)
  obtain ⟨fuel, hfuel⟩ : ∃ fuel, size.toNat = fuel + 1 := ⟨size.toNat - 1, by omega⟩
  unfold flashReadBytes
  rw [hfuel]
  unfold flashReadLoop
  have hlt : (0 : UInt32) < size := UInt32.lt_iff_toNat_lt.mpr hpos
  rw [if_pos hlt, if_pos hlt]
  simp only [UInt32.add_zero]
  cases hread : flash.readPage (pageBase flashOffset) with
  | none => exact absurd hread hpage
  | some page =>
    have hoff := pageOffset_toNat flashOffset
    refine flashReadLoop_byte _ _ _ _ ?_
    generalize hc : (if size - 0 < kPageSize - (flashOffset - pageBase flashOffset) then size - 0
      else kPageSize - (flashOffset - pageBase flashOffset)) = chunk
    obtain ⟨hchunk, -⟩ := chunk_bounds size (show (0 : UInt32).toNat < _ from hpos) (by omega) hc
    have hin : Covers 0 chunk.toNat 0 := covers_zero_iff.mpr hchunk
    rw [copy_of_covers hin, copy_of_covers hin]

theorem flashReadBytes_unread {flash : FlashDriver} {flashOffset size : UInt32} (hsize : size ≠ 0)
    (hpage : flash.readPage (pageBase flashOffset) = none) (out : Memory) :
    flashReadBytes flash flashOffset out size = (out, false) := by
  have hpos : 0 < size.toNat := Nat.pos_of_ne_zero fun h0 => hsize (UInt32.toNat_inj.mp h0)
  obtain ⟨fuel, hfuel⟩ : ∃ fuel, size.toNat = fuel + 1 := ⟨size.toNat - 1, by omega⟩
  unfold flashReadBytes
  rw [hfuel]
  unfold flashReadLoop
  have hlt : (0 : UInt32) < size := UInt32.lt_iff_toNat_lt.mpr hpos
  rw [if_pos hlt]
  simp [hpage]

theorem flashReadBytes_eq (hread : ReadsAs flash content) (flashOffset : UInt32) (out : Memory)
    (size : UInt32) : flashReadBytes flash flashOffset out size =
      (copy out 0 content flashOffset size.toNat, true) := by
  have hok : (flashReadBytes flash flashOffset out size).2 = true :=
    flashReadLoop_succeeds hread flashOffset size size.toNat 0 out
  exact Prod.ext (flashReadBytes_ok hread.readsFrom hok) hok

end NodeNet.Flash

/-! The slot loader: slot-variable reconciliation and the RAM and flash load paths. -/
namespace NodeNet.Loader
open NodeNet.Bytes NodeNet.Checks NodeNet.Points NodeNet.Catalog NodeNet.Publisher
open NodeNet.ObjectFile NodeNet.Bytecode NodeNet.Linker NodeNet.Flash NodeNet.Slot

inductive PlcSlotLoadStatusV1 where
  | Ok | InvalidArgument | RegionUnavailable | SlotOutOfRange | BytecodeTooLarge | ParseFailed
  | LinkFailed | AbiMismatch | ChecksumMismatch | FlashReadFailed | ParamsTooLarge
  | UnsupportedOpcode
  deriving DecidableEq

structure PlcSlotLoadResultV1 where
  status : PlcSlotLoadStatusV1
  /-- `none` where the source has `kPlcObjectParseOk`. -/
  parseStatus : Option PlcObjectParseStatusV1
  linkResult : PlcObjectLinkResultV1
  deriving DecidableEq

/-- The catalog, the publisher and the slots' shared memory. -/
structure LoaderState where
  catalog : PointCatalog
  publisher : PlcRuntimePublisherV1
  slots : UInt16 → SlotMemory
  directory : PlcSlotDirectoryHeaderV1

/-- Nothing defined, nothing published and nothing loaded. -/
def LoaderState.boot : LoaderState where
  catalog := .empty
  publisher := .initial
  slots := fun _ => .zero
  directory := ⟨0, 0, 0, 0, 0, 0⟩

def LoaderState.updateSlot (s : LoaderState) (slotId : UInt16) (f : SlotMemory → SlotMemory) :
    LoaderState :=
  { s with slots := fun i => if i = slotId then f (s.slots i) else s.slots i }

def LoaderState.setCode (s : LoaderState) (slotId : UInt16) (code : Memory) : LoaderState :=
  s.updateSlot slotId fun m => { m with linkedCode := code }

def loadResult (status : PlcSlotLoadStatusV1) (linkResult : PlcObjectLinkResultV1) :
    PlcSlotLoadResultV1 := ⟨status, none, linkResult⟩

/-- A result before linking: the link status is preset to an invalid argument. -/
def loadFailure (status : PlcSlotLoadStatusV1) : PlcSlotLoadResultV1 :=
  loadResult status { PlcObjectLinkResultV1.zero with status := .InvalidArgument }

/-- The result when the slot's variables cannot be declared. -/
def declareFailure : PlcSlotLoadResultV1 :=
  loadResult .LinkFailed { PlcObjectLinkResultV1.zero with
    status := .ResolveFailed
    resolveStatus := .UnsupportedPointType }

def isReservedSlotPointId (pointId : Text) : Bool :=
  pointId = [] || kReservedPointIds.contains pointId

/-- The loader's copy. -/
def buildSlotVariableIdentity (c : PointCatalog) (slotId : UInt16) (symbolName : Text) :
    Option PointIdentity :=
  if c.size = 0 ∨ symbolName = [] ∨ isReservedSlotPointId symbolName then none
  else some (slotVariableIdentity c slotId symbolName)

/-- The loader's copy. -/
def resolveSymbolRecord (c : PointCatalog) (slotId : UInt16) (source : PlcObjectSymbolRecordV1) :
    Option PlcObjectSymbolRecordV1 :=
  if source.symbolKind ≠ kPlcSymbolSlotVar then some source
  else
    match buildSlotVariableIdentity c slotId source.symbolName with
    | none => none
    | some id =>
      if !isSupportedSlotVariableType source.expectedType then none
      else some { source with pointId := id }

/-- The loader's own test, on the exact feature text. -/
def isSlotVariablePoint (slotId : UInt16) (d : PointDefinition) : Bool :=
  d.backend = .Local && d.id.feature = slotFeature slotId && !isReservedSlotPointId d.id.pointId

def defaultDefinition (id : PointIdentity) : PointDefinition where
  id := id
  displayName := []
  backend := .Local
  direction := .Input
  valueType := .Bool
  refreshMs := 1000
  timeoutMs := 3000
  stringCapacity := 0
  scale := 0x3F800000
  unit := []
  enumDef := 0
  ref := List.replicate 80 0

/-- `none` where the source leaves the point id empty. -/
def buildExpectedSlotVariableDefinition (c : PointCatalog) (slotId : UInt16)
    (symbol : PlcObjectSymbolRecordV1) : Option PointDefinition :=
  match buildSlotVariableIdentity c slotId symbol.symbolName with
  | none => none
  | some id =>
    -- the early return keeps the identity already written
    if !isSupportedSlotVariableType symbol.expectedType then some (defaultDefinition id)
    else
      some { defaultDefinition id with
        displayName := symbol.symbolName.take 31
        direction := if symbol.reserved1 &&& 1 ≠ 0 then .Input else .InOut
        valueType := .ofByte symbol.expectedType
        refreshMs := 0
        timeoutMs := 0
        ref := List.replicate 80 0 }

structure ExpectedDefinitions where
  definitions : List PointDefinition
  needsPublish : Bool

/-- One iteration of the declaration loop; an error is the early `return false`. -/
def declareSymbol (s : LoaderState) (slotId : UInt16)
    (readSymbol : UInt16 → Option PlcObjectSymbolRecordV1) (i : Nat) (e : ExpectedDefinitions) :
    Except Unit ExpectedDefinitions :=
  match readSymbol (UInt16.ofNat i) with
  | none => .error ()
  | some symbol =>
    if symbol.symbolKind ≠ kPlcSymbolSlotVar then .ok e
    else if kMaxPoints ≤ e.definitions.length then .error ()
    else
      match buildExpectedSlotVariableDefinition s.catalog slotId symbol with
      | none => .error ()
      | some expected =>
        let published :=
          match s.catalog.findIndex expected.id with
          | none => false
          | some i => s.catalog.definitions[i]? = some expected &&
              (s.publisher.pointStateIndexForCatalogIndex i).isSome
        .ok ⟨e.definitions ++ [expected], e.needsPublish || !published⟩

/-- The state afterwards and the returned flag. -/
def reconcileSlotVariablePoints (s : LoaderState) (slotId : UInt16) (symbolCount : UInt16)
    (readSymbol : UInt16 → Option PlcObjectSymbolRecordV1) : LoaderState × Bool :=
  match forLoop (declareSymbol s slotId readSymbol) 0 symbolCount.toNat ⟨[], false⟩ with
  | .error _ => (s, false)
  | .ok e =>
    let existingCount := (s.catalog.definitions.filter (isSlotVariablePoint slotId)).length
    let needsPublish := e.needsPublish || existingCount ≠ e.definitions.length
    match s.catalog.replaceSlotVariableDefinitions slotId e.definitions with
    | none => (s, false)
    | some (catalog, changed) =>
      let s := { s with catalog := catalog }
      if changed || needsPublish then
        match s.publisher.publish s.catalog with
        | none => (s, false)
        | some publisher => ({ s with publisher := publisher }, true)
      else (s, true)

/-- The metadata of a program with this header and this linked code. -/
def programOf (header : PlcObjectFileHeaderV1) (runtimeHeaderAddr epoch : UInt32)
    (code : Memory) : LoadedProgram where
  codeSize := header.codeSize
  entryOffset := header.entryOffset
  symbolCount := header.symbolCount
  relocationCount := header.relocationCount
  maxInstructionsPerScan := header.maxInstructionsPerScan
  maxScanTimeUs := header.maxScanTimeUs
  runtimeHeaderAddr := runtimeHeaderAddr
  runtimeStoreEpoch := epoch
  linkedCodeChecksum := checksum32 code 0 header.codeSize

def LoaderState.writeLoadedSlotMetadata (s : LoaderState) (slotId : UInt16) (l : LoadedProgram) :
    LoaderState :=
  { s.updateSlot slotId fun m => m.writeLoadedSlotMetadata slotId l with
    directory := loadedDirectory l.runtimeStoreEpoch }

def loadParsedObjectIntoSlot (s : LoaderState) (slotId : UInt16) (image : PlcObjectImageV1)
    (maxInstructionsPerScan maxScanTimeUs : UInt32) : LoaderState × PlcSlotLoadResultV1 :=
  if !regionAvailable then (s, loadFailure .RegionUnavailable)
  else if kPlcSlotCountV1 ≤ slotId then (s, loadFailure .SlotOutOfRange)
  else
    let capacity := (slotLayout slotId).linkedCodeCapacity
    if capacity < image.codeSize then (s, loadFailure .BytecodeTooLarge)
    else if !validateSupportedBytecode image.codeBytes image.codeSize.toNat then
      (s, loadFailure .UnsupportedOpcode)
    else
      match reconcileSlotVariablePoints s slotId image.symbolCount (some ∘ image.symbols) with
      | (s, false) => (s, declareFailure)
      | (s, true) =>
        let linked := linkObjectImage s.publisher s.catalog image (s.slots slotId).linkedCode
          capacity slotId
        let s := s.setCode slotId linked.code
        if linked.result.status ≠ .Ok then (s, loadResult .LinkFailed linked.result)
        else
          (s.writeLoadedSlotMetadata slotId
            { codeSize := image.codeSize
              entryOffset := image.entryOffset
              symbolCount := image.symbolCount
              relocationCount := image.relocationCount
              maxInstructionsPerScan := maxInstructionsPerScan
              maxScanTimeUs := maxScanTimeUs
              runtimeHeaderAddr := kPlcRuntimeHeaderAddr
              runtimeStoreEpoch := s.publisher.storeEpoch
              linkedCodeChecksum := checksum32 linked.code 0 image.codeSize },
            loadResult .Ok linked.result)

/-- The tail of `loadObjectFileIntoSlot`: a loaded object's file is kept in the slot. -/
def snapshotLoaded (slotId : UInt16) (file : Memory) (objectFileSize : UInt32) :
    LoaderState × PlcSlotLoadResultV1 → LoaderState × PlcSlotLoadResultV1
  | (s, result) =>
    if result.status = .Ok then
      (s.updateSlot slotId fun m => (m.writeObjectFileSnapshot slotId file objectFileSize).1,
        if ((s.slots slotId).writeObjectFileSnapshot slotId file objectFileSize).2 then result
        else { result with status := .BytecodeTooLarge })
    else (s, result)

def loadObjectFileIntoSlot (s : LoaderState) (slotId : UInt16) (file : Memory)
    (objectFileSize : UInt32) : LoaderState × PlcSlotLoadResultV1 :=
  match parseObjectFile file objectFileSize with
  | .error e => (s, ⟨.ParseFailed, some e, .zero⟩)
  | .ok parsed =>
    if parsed.header.abiVersion ≠ kPlcRuntimeAbiV1Version then (s, loadResult .AbiMismatch .zero)
    else
      snapshotLoaded slotId file objectFileSize
        (loadParsedObjectIntoSlot s slotId parsed.objectImage parsed.header.maxInstructionsPerScan
          parsed.header.maxScanTimeUs)

def validateObjectFileHeader (header : PlcObjectFileHeaderV1) (objectCapacity : UInt32) : Bool :=
  if header.magic ≠ kPlcObjectFileMagicV1 ∨ header.version ≠ kPlcObjectFileVersionV1 ∨
      header.abiVersion ≠ kPlcRuntimeAbiV1Version then false
  else if header.totalSize < headerSize ∨ objectCapacity < header.totalSize ∨
      header.codeSize < header.entryOffset then false
  else if header.totalSize < headerSize + header.codeSize then false
  else if header.symbolTableOffset < headerSize ∨
      header.totalSize < header.symbolTableOffset then false
  else if header.relocationTableOffset < headerSize ∨
      header.totalSize < header.relocationTableOffset then false
  else if header.totalSize < symbolAddr header header.symbolCount ∨
      header.totalSize < relocationAddr header header.relocationCount then false
  else true

/-- Hash page by page; a failed read returns zero. -/
def checksumLoop (flash : FlashDriver) (flashOffset size : UInt32) :
    Nat → UInt32 → UInt32 → UInt32
  | 0, _, value => value
  | fuel + 1, copied, value =>
    if copied < size then
      let pos := flashOffset + copied
      let pageOffset := pos - pageBase pos
      match flash.readPage (pageBase pos) with
      | none => 0
      | some page =>
        let chunk := if size - copied < kPageSize - pageOffset then size - copied
          else kPageSize - pageOffset
        checksumLoop flash flashOffset size fuel (copied + chunk)
          (Fnv.hashFrom value (bytesAt page pageOffset chunk.toNat))
    else value

def checksum32FromFlash (flash : FlashDriver) (flashOffset size : UInt32) : UInt32 :=
  checksumLoop flash flashOffset size size.toNat 0 Fnv.basis

def validateObjectFileChecksum (flash : FlashDriver) (flashOffset : UInt32)
    (header : PlcObjectFileHeaderV1) : Bool :=
  checksum32FromFlash flash (flashOffset + headerSize) (header.totalSize - headerSize) =
    header.objectChecksum

/-- Read a record into a local of the given size. -/
def readFromFlash (flash : FlashDriver) (flashOffset size : UInt32) : Option Memory :=
  match flashReadBytes flash flashOffset (fun _ => 0) size with
  | (out, true) => some out
  | (_, false) => none

def readSymbolFromFlash (flash : FlashDriver) (flashOffset : UInt32)
    (header : PlcObjectFileHeaderV1)
    (i : UInt16) : Option PlcObjectSymbolRecordV1 :=
  (readFromFlash flash (flashOffset + symbolAddr header i) symbolSize).map (readSymbol · 0)

/-- One iteration of the relocation loop over flash; an error is the early return. -/
def linkRelocationFromFlash (p : PlcRuntimePublisherV1) (c : PointCatalog) (slotId : UInt16)
    (flash : FlashDriver) (flashOffset : UInt32) (header : PlcObjectFileHeaderV1) (i : Nat)
    (s : LinkState) : Except LinkState LinkState :=
  let index := UInt16.ofNat i
  let s := { s with result.failingRelocationIndex := index }
  match readFromFlash flash (flashOffset + relocationAddr header index) relocationSize with
  | none => .error { s with result.status := .RelocationOutOfRange }
  | some bytes =>
    let relocation := readRelocation bytes 0
    let patchSize := relocationPatchSize relocation.relocationKind
    if header.symbolCount ≤ relocation.symbolIndex then
      .error { s with
        result.status := .SymbolIndexOutOfRange
        result.failingSymbolIndex := relocation.symbolIndex }
    else if patchSize = 0 then .error { s with result.status := .UnsupportedRelocationKind }
    else if header.codeSize < relocation.codeOffset + patchSize then
      .error { s with result.status := .RelocationOutOfRange }
    else
      match readSymbolFromFlash flash flashOffset header relocation.symbolIndex with
      | none =>
        .error { s with
          result.status := .SymbolIndexOutOfRange
          result.failingSymbolIndex := relocation.symbolIndex }
      | some source =>
        let s := { s with result.failingSymbolIndex := relocation.symbolIndex }
        match resolveSymbolRecord c slotId source with
        | none =>
          .error { s with
            result.status := .ResolveFailed
            result.resolveStatus := .UnsupportedPointType }
        | some symbol =>
          match p.resolveLinkRequest c (requestOf symbol) with
          | .error e =>
            .error { s with result.status := .ResolveFailed, result.resolveStatus := e }
          | .ok l => .ok (s.applyRelocation relocation l)

def linkObjectFileFromFlash (p : PlcRuntimePublisherV1) (c : PointCatalog) (slotId : UInt16)
    (flash : FlashDriver) (flashOffset : UInt32) (header : PlcObjectFileHeaderV1)
    (linkedCodeOut : Memory) (linkedCodeCapacity : UInt32) : LinkState :=
  let result := linkStart header.codeSize header.entryOffset
  if linkedCodeCapacity < header.codeSize then
    ⟨linkedCodeOut, { result with status := .OutputTooSmall }⟩
  else
    linkEnd (forLoop (linkRelocationFromFlash p c slotId flash flashOffset header) 0
      header.relocationCount.toNat ⟨linkedCodeOut, result⟩)

/-- The slot memory afterwards and the returned flag. -/
def writeObjectFileSnapshotFromFlash (m : SlotMemory) (slotId : UInt16) (flash : FlashDriver)
    (flashOffset objectSize objectChecksum : UInt32) : SlotMemory × Bool :=
  if SnapshotFits slotId objectSize then
    match flashReadBytes flash flashOffset m.snapshotData objectSize with
    | (data, false) => ({ m with snapshotData := data }, false)
    | (data, true) =>
      ({ m with
        snapshotData := data
        snapshotHeader := loadedSnapshotHeader slotId objectSize objectChecksum }, true)
  else (m, false)

def loadObjectFileFromFlash (s : LoaderState) (slotId : UInt16) (flash : FlashDriver)
    (flashOffset flashCapacity : UInt32) : LoaderState × PlcSlotLoadResultV1 :=
  if !regionAvailable then (s, loadFailure .RegionUnavailable)
  else if kPlcSlotCountV1 ≤ slotId then (s, loadFailure .SlotOutOfRange)
  else if flashCapacity < headerSize then (s, loadFailure .ParseFailed)
  else
    match readFromFlash flash flashOffset headerSize with
    | none => (s, loadFailure .FlashReadFailed)
    | some bytes =>
      let header := readHeader bytes
      let capacity := (slotLayout slotId).linkedCodeCapacity
      if !validateObjectFileHeader header flashCapacity then (s, loadFailure .ParseFailed)
      else if !validateObjectFileChecksum flash flashOffset header then
        (s, loadFailure .ChecksumMismatch)
      else if capacity < header.codeSize then (s, loadFailure .BytecodeTooLarge)
      else
        -- the code section goes straight into the slot
        let (code, read) := flashReadBytes flash (flashOffset + headerSize)
          (s.slots slotId).linkedCode header.codeSize
        let s := s.setCode slotId code
        if !read then (s, loadFailure .FlashReadFailed)
        else if !validateSupportedBytecode code header.codeSize.toNat then
          (s, loadFailure .UnsupportedOpcode)
        else
          match reconcileSlotVariablePoints s slotId header.symbolCount
            (readSymbolFromFlash flash flashOffset header) with
          | (s, false) => (s, declareFailure)
          | (s, true) =>
            let linked := linkObjectFileFromFlash s.publisher s.catalog slotId flash flashOffset
              header code capacity
            let s := s.setCode slotId linked.code
            if linked.result.status ≠ .Ok then (s, loadResult .LinkFailed linked.result)
            else
              let s := s.writeLoadedSlotMetadata slotId
                (programOf header header.runtimeHeaderAddr s.publisher.storeEpoch linked.code)
              let (m, written) := writeObjectFileSnapshotFromFlash (s.slots slotId)
                slotId flash flashOffset header.totalSize header.objectChecksum
              (s.updateSlot slotId fun _ => m,
                loadResult (if written then .Ok else .BytecodeTooLarge) linked.result)

end NodeNet.Loader

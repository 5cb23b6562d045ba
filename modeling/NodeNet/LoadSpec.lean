import NodeNet.Loader

/-! What the stages of the two load paths leave behind. -/
namespace NodeNet.Loader
open NodeNet.Bytes NodeNet.Checks NodeNet.Points NodeNet.Catalog NodeNet.Publisher
open NodeNet.ObjectFile NodeNet.Bytecode NodeNet.Linker NodeNet.Flash NodeNet.Slot

/-- The flash contents from an offset on. -/
def fileAt (content : Memory) (flashOffset : UInt32) : Memory := fun x => content (flashOffset + x)

def memoryFlash (content : Memory) : FlashDriver := ⟨fun base => some fun x => content (base + x)⟩

theorem memoryFlash_readsAs (content : Memory) : ReadsAs (memoryFlash content) content :=
  fun _ => ⟨_, rfl, fun _ _ => rfl⟩

theorem readFromFlash_ok {flash : FlashDriver} {content : Memory} (hread : ReadsFrom flash content)
    {flashOffset a size : UInt32} {m : Memory}
    (h : readFromFlash flash (flashOffset + a) size = some m) {d : UInt32}
    (hd : d.toNat < size.toNat) : m (0 + d) = fileAt content flashOffset (a + d) := by
  unfold readFromFlash at h
  split at h
  · rename_i out heq
    cases h
    have hok := flashReadBytes_ok hread (congrArg Prod.snd heq)
    rw [show m = _ from (congrArg Prod.fst heq).symm.trans hok, UInt32.zero_add,
      copy_of_covers (covers_zero_iff.mpr hd), fileAt, UInt32.sub_zero, UInt32.add_assoc]
  · cases h

/-- The definitions an object declares for a slot, `none` where the loop returns false. -/
def declaredDefinitions (s : LoaderState) (slotId : UInt16) (symbolCount : UInt16)
    (readSymbol : UInt16 → Option PlcObjectSymbolRecordV1) : Option (List PointDefinition) :=
  match forLoop (declareSymbol s slotId readSymbol) 0 symbolCount.toNat ⟨[], false⟩ with
  | .error _ => none
  | .ok e => some e.definitions

@[simp] theorem updateSlot_self (s : LoaderState) (slotId : UInt16) (f : SlotMemory → SlotMemory) :
    (s.updateSlot slotId f).slots slotId = f (s.slots slotId) := if_pos rfl

@[simp] theorem updateSlot_catalog (s : LoaderState) (slotId : UInt16)
    (f : SlotMemory → SlotMemory) : (s.updateSlot slotId f).catalog = s.catalog := rfl

@[simp] theorem updateSlot_publisher (s : LoaderState) (slotId : UInt16)
    (f : SlotMemory → SlotMemory) : (s.updateSlot slotId f).publisher = s.publisher := rfl

variable {slotId : UInt16}

theorem updateSlot_of_ne (s : LoaderState) {i : UInt16} (h : i ≠ slotId)
    (f : SlotMemory → SlotMemory) : (s.updateSlot slotId f).slots i = s.slots i := if_neg h

theorem reconcile_slots (s : LoaderState) (slotId symbolCount : UInt16)
    (readSymbol : UInt16 → Option PlcObjectSymbolRecordV1) :
    (reconcileSlotVariablePoints s slotId symbolCount readSymbol).1.slots = s.slots := by
  unfold reconcileSlotVariablePoints
  dsimp only
  repeat' split
  all_goals rfl

theorem reconcile_catalog (s : LoaderState) (slotId symbolCount : UInt16)
    (readSymbol : UInt16 → Option PlcObjectSymbolRecordV1) :
    (reconcileSlotVariablePoints s slotId symbolCount readSymbol).1.catalog =
      match declaredDefinitions s slotId symbolCount readSymbol with
      | none => s.catalog
      | some definitions =>
        match s.catalog.replaceSlotVariableDefinitions slotId definitions with
        | none => s.catalog
        | some (catalog, _) => catalog := by
  unfold reconcileSlotVariablePoints declaredDefinitions
  cases forLoop (declareSymbol s slotId readSymbol) 0 symbolCount.toNat ⟨[], false⟩ with
  | error e => rfl
  | ok e =>
    simp only
    cases s.catalog.replaceSlotVariableDefinitions slotId e.definitions with
    | none => rfl
    | some r =>
      simp only
      repeat' split
      all_goals rfl

theorem reconcile_ready (s : LoaderState) (slotId symbolCount : UInt16)
    (readSymbol : UInt16 → Option PlcObjectSymbolRecordV1) :
    (reconcileSlotVariablePoints s slotId symbolCount readSymbol).1.publisher.ready =
      s.publisher.ready := by
  have hpublish : ∀ c p, s.publisher.publish c = some p → p.ready = s.publisher.ready := by
    intro c p h
    unfold PlcRuntimePublisherV1.publish at h
    split at h
    · cases h
    split at h <;> cases h <;> rfl
  unfold reconcileSlotVariablePoints
  dsimp only
  repeat' split
  all_goals first | rfl | exact hpublish _ _ ‹_›

theorem reconcile_updateSlot (s : LoaderState) (slotId symbolCount : UInt16)
    (readSymbol : UInt16 → Option PlcObjectSymbolRecordV1) (f : SlotMemory → SlotMemory) :
    reconcileSlotVariablePoints (s.updateSlot slotId f) slotId symbolCount readSymbol =
      ((reconcileSlotVariablePoints s slotId symbolCount readSymbol).1.updateSlot slotId f,
        (reconcileSlotVariablePoints s slotId symbolCount readSymbol).2) := by
  have hloop : forLoop (declareSymbol (s.updateSlot slotId f) slotId readSymbol) 0
      symbolCount.toNat ⟨[], false⟩ =
      forLoop (declareSymbol s slotId readSymbol) 0 symbolCount.toNat ⟨[], false⟩ := rfl
  unfold reconcileSlotVariablePoints
  rw [hloop]
  cases forLoop (declareSymbol s slotId readSymbol) 0 symbolCount.toNat ⟨[], false⟩ with
  | error e => rfl
  | ok e =>
    dsimp only
    rw [updateSlot_catalog]
    cases s.catalog.replaceSlotVariableDefinitions slotId e.definitions with
    | none => rfl
    | some r =>
      dsimp only
      rw [updateSlot_publisher]
      split
      · cases s.publisher.publish r.1 <;> rfl
      · rfl

/-- The catalog with what an object declares in place of the slot's own variables. -/
def declaredCatalog (c : PointCatalog) (slotId : UInt16)
    (declared : Option (List PointDefinition)) : PointCatalog :=
  match declared with
  | none => c
  | some definitions =>
    match c.replaceSlotVariableDefinitions slotId definitions with
    | none => c
    | some (catalog, _) => catalog

/-- Code and metadata are written, the snapshot is not. -/
def LoaderState.install (s : LoaderState) (slotId : UInt16) (code : Memory) (l : LoadedProgram) :
    LoaderState :=
  (s.setCode slotId code).writeLoadedSlotMetadata slotId l

def objectImage (file : Memory) : PlcObjectImageV1 := imageOf file (readHeader file)

/-- Relocation `k` of an object's table. -/
def relocationAt (file : Memory) (k : Nat) : PlcObjectRelocationRecordV1 :=
  (objectImage file).relocations (UInt16.ofNat k)

/-- The checks `loadObjectFileIntoSlot` makes before it changes anything. -/
structure RamAdmitted (slotId : UInt16) (file : Memory) (size : UInt32) : Prop where
  checks : FieldChecks file size
  slot : slotId < kPlcSlotCountV1
  fits : (readHeader file).codeSize ≤ (slotLayout slotId).linkedCodeCapacity
  bytecode : validateSupportedBytecode (objectImage file).codeBytes
    (readHeader file).codeSize.toNat = true

/-- The reconciliation step of the RAM path. -/
def ramDeclare (s : LoaderState) (slotId : UInt16) (file : Memory) : LoaderState × Bool :=
  reconcileSlotVariablePoints s slotId (readHeader file).symbolCount
    (some ∘ (objectImage file).symbols)

def ramDeclared (s : LoaderState) (slotId : UInt16) (file : Memory) :
    Option (List PointDefinition) :=
  declaredDefinitions s slotId (readHeader file).symbolCount (some ∘ (objectImage file).symbols)

def ramCatalog (s : LoaderState) (slotId : UInt16) (file : Memory) : PointCatalog :=
  declaredCatalog s.catalog slotId (ramDeclared s slotId file)

theorem ramDeclare_catalog (s : LoaderState) (slotId : UInt16) (file : Memory) :
    (ramDeclare s slotId file).1.catalog = ramCatalog s slotId file := reconcile_catalog ..

theorem ramDeclare_ready (s : LoaderState) (slotId : UInt16) (file : Memory) :
    (ramDeclare s slotId file).1.publisher.ready = s.publisher.ready := reconcile_ready ..

/-- Every relocation resolves in the state after reconciliation. -/
def RamLinks (s : LoaderState) (slotId : UInt16) (file : Memory) : Prop :=
  Links (ramDeclare s slotId file).1.publisher (ramDeclare s slotId file).1.catalog slotId
    (objectImage file)

/-- The code the RAM path leaves in the slot once it starts linking. -/
def ramCode (s : LoaderState) (slotId : UInt16) (file : Memory) : Memory :=
  linkedBytes (ramDeclare s slotId file).1.publisher (ramDeclare s slotId file).1.catalog slotId
    (objectImage file) (s.slots slotId).linkedCode

theorem ramPatch_eq (s : LoaderState) (slotId : UInt16) (file : Memory) :
    imagePatch (ramDeclare s slotId file).1.publisher (ramDeclare s slotId file).1.catalog slotId
        (objectImage file) =
      imagePatch s.publisher (ramCatalog s slotId file) slotId (objectImage file) := by
  rw [imagePatch_congr (ramDeclare_ready ..), ramDeclare_catalog]

theorem ramLinks_eq (s : LoaderState) (slotId : UInt16) (file : Memory) :
    RamLinks s slotId file =
      Links s.publisher (ramCatalog s slotId file) slotId (objectImage file) := by
  unfold RamLinks Links
  rw [ramPatch_eq]

/-- The metadata the RAM path writes. -/
def ramProgram (s : LoaderState) (slotId : UInt16) (file : Memory) : LoadedProgram :=
  programOf (readHeader file) kPlcRuntimeHeaderAddr
    (ramDeclare s slotId file).1.publisher.storeEpoch (ramCode s slotId file)

/-- The state of the RAM path before it takes the snapshot. -/
def ramInstalled (s : LoaderState) (slotId : UInt16) (file : Memory) : LoaderState :=
  (ramDeclare s slotId file).1.install slotId (ramCode s slotId file) (ramProgram s slotId file)

variable {s : LoaderState} {file : Memory} {size : UInt32}

theorem loadObjectFileIntoSlot_of_parsed (h : FieldChecks file size) :
    loadObjectFileIntoSlot s slotId file size =
      snapshotLoaded slotId file size (loadParsedObjectIntoSlot s slotId (objectImage file)
        (readHeader file).maxInstructionsPerScan (readHeader file).maxScanTimeUs) := by
  have hp := (parseObjectFile_eq_ok_iff file size _).mpr ⟨h, rfl⟩
  simp only [loadObjectFileIntoSlot, hp, h.abi, ne_eq, not_true_eq_false, if_false]
  rfl

theorem snapshotLoaded_of_failed {result : PlcSlotLoadResultV1} (h : result.status ≠ .Ok) :
    snapshotLoaded slotId file size (s, result) = (s, result) := if_neg h

theorem snapshotLoaded_of_ok (slotId : UInt16) (file : Memory) (size : UInt32)
    (s : LoaderState) {result : PlcSlotLoadResultV1} (h : result.status = .Ok) :
    (snapshotLoaded slotId file size (s, result)).1 =
        s.updateSlot slotId (fun m => (m.writeObjectFileSnapshot slotId file size).1) ∧
      ((snapshotLoaded slotId file size (s, result)).2.status = .Ok ↔
        SnapshotFits slotId size) := by
  simp only [snapshotLoaded, if_pos h, true_and]
  by_cases hf : SnapshotFits slotId size <;> simp [SlotMemory.writeObjectFileSnapshot, hf, h]

theorem ram_refused (h : ¬ RamAdmitted slotId file size) :
    (loadObjectFileIntoSlot s slotId file size).1 = s ∧
      (loadObjectFileIntoSlot s slotId file size).2.status ≠ .Ok := by
  by_cases hc : FieldChecks file size
  · have hparsed : ∃ e, e ≠ PlcSlotLoadStatusV1.Ok ∧
        loadParsedObjectIntoSlot s slotId (objectImage file)
          (readHeader file).maxInstructionsPerScan (readHeader file).maxScanTimeUs =
            (s, loadFailure e) := by
      unfold loadParsedObjectIntoSlot
      simp only [regionAvailable_eq, Bool.not_true, Bool.false_eq_true, if_false]
      by_cases hslot : kPlcSlotCountV1 ≤ slotId
      · exact ⟨.SlotOutOfRange, by decide, by rw [if_pos hslot]⟩
      rw [if_neg hslot]
      by_cases hfits : (slotLayout slotId).linkedCodeCapacity < (objectImage file).codeSize
      · exact ⟨.BytecodeTooLarge, by decide, by rw [if_pos hfits]⟩
      rw [if_neg hfits]
      by_cases hval : validateSupportedBytecode (objectImage file).codeBytes
          (objectImage file).codeSize.toNat = true
      · exact absurd ⟨hc, UInt16.not_le.mp hslot, UInt32.not_lt.mp hfits, hval⟩ h
      · exact ⟨.UnsupportedOpcode, by decide, by simp [hval]⟩
    obtain ⟨e, he, hl⟩ := hparsed
    rw [loadObjectFileIntoSlot_of_parsed hc, hl, snapshotLoaded_of_failed he]
    exact ⟨rfl, he⟩
  · unfold loadObjectFileIntoSlot
    cases hp : parseObjectFile file size with
    | error e => simp
    | ok r => exact absurd ((parseObjectFile_eq_ok_iff file size r).mp hp).1 hc

/-- Past the early checks the RAM path reconciles, links, installs and takes the snapshot. -/
theorem ram_admitted (h : RamAdmitted slotId file size) : let r := ramDeclare s slotId file
    let load := loadObjectFileIntoSlot s slotId file size
    (r.2 = false → load.1 = r.1 ∧ load.2.status ≠ .Ok) ∧
    (r.2 = true → ¬ RamLinks s slotId file →
      load.1 = r.1.setCode slotId (ramCode s slotId file) ∧ load.2.status ≠ .Ok) ∧
    (r.2 = true → RamLinks s slotId file →
      load.1 = (ramInstalled s slotId file).updateSlot slotId
        (fun m => (m.writeObjectFileSnapshot slotId file size).1) ∧
      (load.2.status = .Ok ↔ SnapshotFits slotId size)) := by
  intro r load
  have hload : load = snapshotLoaded slotId file size _ := loadObjectFileIntoSlot_of_parsed h.checks
  rw [hload]
  unfold loadParsedObjectIntoSlot
  have hslots : r.1.slots = s.slots := reconcile_slots ..
  have hval : validateSupportedBytecode (objectImage file).codeBytes
      (objectImage file).codeSize.toNat = true := h.bytecode
  have hfits : ¬ (slotLayout slotId).linkedCodeCapacity < (objectImage file).codeSize :=
    UInt32.not_lt.mpr h.fits
  obtain ⟨hcode, hok⟩ := linkObjectImage_spec r.1.publisher r.1.catalog slotId (objectImage file)
    (s.slots slotId).linkedCode
    (UInt32.not_lt.mp hfits) h.checks.entry
  simp only [regionAvailable_eq, Bool.not_true, Bool.false_eq_true, if_false, hval,
    if_neg (UInt16.not_le.mpr h.slot), if_neg hfits]
  have hr : reconcileSlotVariablePoints s slotId (objectImage file).symbolCount
      (some ∘ (objectImage file).symbols) = (r.1, r.2) := rfl
  rw [hr]
  refine ⟨fun h2 => ?_, fun h2 hlinks => ?_, fun h2 hlinks => ?_⟩
  · rw [h2, snapshotLoaded_of_failed (by simp [declareFailure, loadResult])]
    exact ⟨rfl, by simp [declareFailure, loadResult]⟩
  · rw [h2]
    simp only [hslots]
    rw [if_pos (fun he => hlinks (hok.mp he)), snapshotLoaded_of_failed (by simp [loadResult])]
    refine ⟨?_, by simp [loadResult]⟩
    rw [hcode]
    rfl
  · rw [h2]
    simp only [hslots]
    rw [if_neg (by simpa using hok.mpr hlinks)]
    have hresult : (loadResult .Ok (linkObjectImage r.1.publisher r.1.catalog (objectImage file)
        (s.slots slotId).linkedCode (slotLayout slotId).linkedCodeCapacity slotId).result).status =
        .Ok := rfl
    obtain ⟨h1, h2⟩ := snapshotLoaded_of_ok slotId file size (ramInstalled s slotId file) hresult
    rw [hcode]
    exact ⟨h1, h2⟩

def resolveSymbol (p : PlcRuntimePublisherV1) (c : PointCatalog) (slotId : UInt16)
    (source : PlcObjectSymbolRecordV1) : Option LinkResult :=
  match resolveSymbolRecord c slotId source with
  | none => none
  | some symbol => (p.resolveLinkRequest c (requestOf symbol)).toOption

theorem resolveSymbolRecord_pointId {c : PointCatalog} {source symbol : PlcObjectSymbolRecordV1}
    (h : resolveSymbolRecord c slotId source = some symbol) :
    symbol.pointId = symbolIdentity c slotId source := by
  unfold resolveSymbolRecord buildSlotVariableIdentity at h
  unfold symbolIdentity
  split at h
  · rename_i hkind
    cases h
    rw [if_neg hkind]
  rename_i hkind
  rw [if_pos (Decidable.not_not.mp hkind)]
  split at h
  · cases h
  rename_i id hid
  split at hid
  · cases hid
  cases hid
  split at h
  · cases h
  · cases h
    rfl

theorem resolveSymbol_spec {p : PlcRuntimePublisherV1} {c : PointCatalog}
    {source : PlcObjectSymbolRecordV1} {l : LinkResult}
    (h : resolveSymbol p c slotId source = some l) :
    ∃ i, c.findIndex (symbolIdentity c slotId source) = some i ∧
      l = ⟨UInt16.ofNat i, sharedPointStateRecordOffset i⟩ := by
  unfold resolveSymbol at h
  split at h
  · cases h
  rename_i symbol hsymbol
  rw [← resolveSymbolRecord_pointId hsymbol]
  cases hlink : p.resolveLinkRequest c (requestOf symbol) with
  | error e =>
    rw [hlink] at h
    cases h
  | ok l' =>
    rw [hlink] at h
    cases h
    obtain ⟨i, e, hi, -, -, -, hl⟩ := resolveLinkRequest_spec hlink
    exact ⟨i, hi, hl⟩

theorem resolveSymbol_congr {p p' : PlcRuntimePublisherV1} (h : p.ready = p'.ready)
    (c : PointCatalog) (slotId : UInt16) (source : PlcObjectSymbolRecordV1) :
    resolveSymbol p c slotId source = resolveSymbol p' c slotId source := by
  simp only [resolveSymbol, resolveLinkRequest_congr h]

/-- The patch of relocation `i` in flash, `none` where the loop returns. -/
def flashPatch (p : PlcRuntimePublisherV1) (c : PointCatalog) (slotId : UInt16)
    (flash : FlashDriver)
    (flashOffset : UInt32) (header : PlcObjectFileHeaderV1) (i : Nat) : Option Patch :=
  match readFromFlash flash (flashOffset + relocationAddr header (UInt16.ofNat i))
    relocationSize with
  | none => none
  | some bytes =>
    let r := readRelocation bytes 0
    if RelocationAdmitted header.codeSize header.symbolCount r then
      match readSymbolFromFlash flash flashOffset header r.symbolIndex with
      | none => none
      | some source => (resolveSymbol p c slotId source).map (relocationPatch r)
    else none

theorem linkRelocationFromFlash_patches (p : PlcRuntimePublisherV1) (c : PointCatalog)
    (slotId : UInt16) (flash : FlashDriver) (flashOffset : UInt32)
    (header : PlcObjectFileHeaderV1) :
    Patches (linkRelocationFromFlash p c slotId flash flashOffset header)
      (flashPatch p c slotId flash flashOffset header) := by
  apply Patches.of_cases
  intro i s
  simp only [flashPatch, linkRelocationFromFlash, resolveSymbol]
  cases readFromFlash flash (flashOffset + relocationAddr header (UInt16.ofNat i))
    relocationSize with
  | none => simp
  | some bytes =>
    simp only
    generalize readRelocation bytes 0 = r
    by_cases hsym : header.symbolCount ≤ r.symbolIndex
    · have hadm : ¬ RelocationAdmitted header.codeSize header.symbolCount r :=
        fun h => UInt16.not_lt.mpr hsym h.1
      simp [hsym, hadm]
    by_cases hsize : relocationPatchSize r.relocationKind = 0
    · have hadm : ¬ RelocationAdmitted header.codeSize header.symbolCount r :=
        fun h => h.2.1 hsize
      simp [hsym, hsize, hadm]
    by_cases hrange : header.codeSize < r.codeOffset + relocationPatchSize r.relocationKind
    · have hadm : ¬ RelocationAdmitted header.codeSize header.symbolCount r :=
        fun h => UInt32.not_lt.mpr h.2.2 hrange
      simp [hsym, hsize, hrange, hadm]
    have hadm : RelocationAdmitted header.codeSize header.symbolCount r :=
      ⟨UInt16.not_le.mp hsym, hsize, UInt32.not_lt.mp hrange⟩
    simp only [if_neg hsym, if_neg hsize, if_neg hrange, if_pos hadm]
    cases readSymbolFromFlash flash flashOffset header r.symbolIndex with
    | none => simp
    | some source =>
      simp only
      cases resolveSymbolRecord c slotId source with
      | none => simp
      | some symbol =>
        cases hlink : p.resolveLinkRequest c (requestOf symbol) with
        | error e => simp [hlink, Except.toOption]
        | ok l =>
          left
          exact ⟨relocationPatch r l, _, by simp [hlink, Except.toOption], by simp [hlink]; rfl,
            rfl⟩

theorem flashPatch_congr {p p' : PlcRuntimePublisherV1} (h : p.ready = p'.ready)
    (c : PointCatalog) (slotId : UInt16) (flash : FlashDriver) (flashOffset : UInt32)
    (header : PlcObjectFileHeaderV1) :
    flashPatch p c slotId flash flashOffset header =
      flashPatch p' c slotId flash flashOffset header := by
  funext i
  simp only [flashPatch, resolveSymbol_congr h]

/-- The slot's code once the relocations in flash up to the first refused one are patched in. -/
def flashLinkedBytes (p : PlcRuntimePublisherV1) (c : PointCatalog) (slotId : UInt16)
    (flash : FlashDriver) (flashOffset : UInt32) (header : PlcObjectFileHeaderV1) (code : Memory) :
    Memory :=
  patchRun (flashPatch p c slotId flash flashOffset header) 0 header.relocationCount.toNat code

def FlashRelocationsLink (p : PlcRuntimePublisherV1) (c : PointCatalog) (slotId : UInt16)
    (flash : FlashDriver) (flashOffset : UInt32) (header : PlcObjectFileHeaderV1) : Prop :=
  ∀ k < header.relocationCount.toNat,
    (flashPatch p c slotId flash flashOffset header k).isSome

theorem linkObjectFileFromFlash_spec (p : PlcRuntimePublisherV1) (c : PointCatalog)
    (slotId : UInt16) (flash : FlashDriver) (flashOffset : UInt32) {header : PlcObjectFileHeaderV1}
    (code : Memory) {capacity : UInt32} (hcap : header.codeSize ≤ capacity) :
    (linkObjectFileFromFlash p c slotId flash flashOffset header code capacity).code =
        flashLinkedBytes p c slotId flash flashOffset header code ∧
      ((linkObjectFileFromFlash p c slotId flash flashOffset header code capacity).result.status =
        .Ok ↔ FlashRelocationsLink p c slotId flash flashOffset header) := by
  unfold linkObjectFileFromFlash
  simp only [if_neg (UInt32.not_lt.mpr hcap)]
  have h := linkRelocationFromFlash_patches p c slotId flash flashOffset header
  refine ⟨h.loop_code _ _ _, ?_⟩
  rw [h.loop_ok]
  simp [FlashRelocationsLink]

/-- The checks `loadObjectFileFromFlash` makes before it changes anything. -/
structure FlashAdmitted (slotId : UInt16) (flash : FlashDriver) (flashOffset flashCapacity : UInt32)
    (bytes : Memory) : Prop where
  slot : slotId < kPlcSlotCountV1
  capacity : headerSize ≤ flashCapacity
  read : readFromFlash flash flashOffset headerSize = some bytes
  header : validateObjectFileHeader (readHeader bytes) flashCapacity = true
  checksum : validateObjectFileChecksum flash flashOffset (readHeader bytes) = true
  fits : (readHeader bytes).codeSize ≤ (slotLayout slotId).linkedCodeCapacity

/-- The read of the code section into the slot. -/
def flashCode (s : LoaderState) (slotId : UInt16) (flash : FlashDriver) (flashOffset : UInt32)
    (header : PlcObjectFileHeaderV1) : Memory × Bool :=
  flashReadBytes flash (flashOffset + headerSize) (s.slots slotId).linkedCode header.codeSize

/-- The code section was read and its bytecode is supported. -/
def FlashBytecode (s : LoaderState) (slotId : UInt16) (flash : FlashDriver) (flashOffset : UInt32)
    (header : PlcObjectFileHeaderV1) : Prop :=
  (flashCode s slotId flash flashOffset header).2 = true ∧
    validateSupportedBytecode (flashCode s slotId flash flashOffset header).1
      header.codeSize.toNat = true

/-- The reconciliation step of the flash path, with the unlinked code already in the slot. -/
def flashDeclare (s : LoaderState) (slotId : UInt16) (flash : FlashDriver) (flashOffset : UInt32)
    (header : PlcObjectFileHeaderV1) : LoaderState × Bool :=
  reconcileSlotVariablePoints
    (s.setCode slotId (flashCode s slotId flash flashOffset header).1) slotId header.symbolCount
    (readSymbolFromFlash flash flashOffset header)

def flashDeclared (s : LoaderState) (slotId : UInt16) (flash : FlashDriver) (flashOffset : UInt32)
    (header : PlcObjectFileHeaderV1) : Option (List PointDefinition) :=
  declaredDefinitions (s.setCode slotId (flashCode s slotId flash flashOffset header).1) slotId
    header.symbolCount (readSymbolFromFlash flash flashOffset header)

/-- Every relocation resolves in the state after reconciliation. -/
def FlashLinks (s : LoaderState) (slotId : UInt16) (flash : FlashDriver) (flashOffset : UInt32)
    (header : PlcObjectFileHeaderV1) : Prop :=
  FlashRelocationsLink (flashDeclare s slotId flash flashOffset header).1.publisher
    (flashDeclare s slotId flash flashOffset header).1.catalog slotId flash flashOffset header

def flashLinkedCode (s : LoaderState) (slotId : UInt16) (flash : FlashDriver) (flashOffset : UInt32)
    (header : PlcObjectFileHeaderV1) : Memory :=
  flashLinkedBytes (flashDeclare s slotId flash flashOffset header).1.publisher
    (flashDeclare s slotId flash flashOffset header).1.catalog slotId flash flashOffset header
    (flashCode s slotId flash flashOffset header).1

/-- The metadata the flash path writes. -/
def flashProgram (s : LoaderState) (slotId : UInt16) (flash : FlashDriver) (flashOffset : UInt32)
    (header : PlcObjectFileHeaderV1) : LoadedProgram :=
  programOf header header.runtimeHeaderAddr
    (flashDeclare s slotId flash flashOffset header).1.publisher.storeEpoch
    (flashLinkedCode s slotId flash flashOffset header)

/-- The state of the flash path before it takes the snapshot. -/
def flashInstalled (s : LoaderState) (slotId : UInt16) (flash : FlashDriver) (flashOffset : UInt32)
    (header : PlcObjectFileHeaderV1) : LoaderState :=
  (flashDeclare s slotId flash flashOffset header).1.install slotId
    (flashLinkedCode s slotId flash flashOffset header)
    (flashProgram s slotId flash flashOffset header)

def flashSnapshot (s : LoaderState) (slotId : UInt16) (flash : FlashDriver) (flashOffset : UInt32)
    (header : PlcObjectFileHeaderV1) : SlotMemory × Bool :=
  writeObjectFileSnapshotFromFlash
    ((flashInstalled s slotId flash flashOffset header).slots slotId) slotId flash flashOffset
    header.totalSize header.objectChecksum

variable {flash : FlashDriver} {flashCapacity : UInt32}

theorem flash_refused {flashOffset : UInt32}
    (h : ∀ bytes, ¬ FlashAdmitted slotId flash flashOffset flashCapacity bytes) :
    (loadObjectFileFromFlash s slotId flash flashOffset flashCapacity).1 = s ∧
      (loadObjectFileFromFlash s slotId flash flashOffset flashCapacity).2.status ≠ .Ok := by
  unfold loadObjectFileFromFlash
  simp only [regionAvailable_eq, Bool.not_true, Bool.false_eq_true, if_false]
  by_cases hslot : kPlcSlotCountV1 ≤ slotId
  · simp [hslot, loadFailure, loadResult]
  by_cases hcap : flashCapacity < headerSize
  · simp [hslot, hcap, loadFailure, loadResult]
  rw [if_neg hslot, if_neg hcap]
  cases hread : readFromFlash flash flashOffset headerSize with
  | none => simp [loadFailure, loadResult]
  | some bytes =>
    simp only
    by_cases hheader : validateObjectFileHeader (readHeader bytes) flashCapacity = true
    · by_cases hsum : validateObjectFileChecksum flash flashOffset (readHeader bytes) = true
      · by_cases hfits : (slotLayout slotId).linkedCodeCapacity < (readHeader bytes).codeSize
        · simp [hheader, hsum, hfits, loadFailure, loadResult]
        · exact absurd ⟨UInt16.not_le.mp hslot, UInt32.not_lt.mp hcap, hread, hheader, hsum,
            UInt32.not_lt.mp hfits⟩ (h bytes)
      · simp [hheader, hsum, loadFailure, loadResult]
    · simp [hheader, loadFailure, loadResult]

/-- Past the early checks the flash path reads the code into the slot, and only then validates,
reconciles, links, installs and takes the snapshot. -/
theorem flash_admitted {flashOffset : UInt32} {bytes : Memory}
    (h : FlashAdmitted slotId flash flashOffset flashCapacity bytes) :
    let header := readHeader bytes
    let r := flashDeclare s slotId flash flashOffset header
    let snapshot := flashSnapshot s slotId flash flashOffset header
    let load := loadObjectFileFromFlash s slotId flash flashOffset flashCapacity
    (¬ FlashBytecode s slotId flash flashOffset header →
      load.1 = s.setCode slotId (flashCode s slotId flash flashOffset header).1 ∧
      load.2.status ≠ .Ok) ∧
    (FlashBytecode s slotId flash flashOffset header → r.2 = false →
      load.1 = r.1 ∧ load.2.status ≠ .Ok) ∧
    (FlashBytecode s slotId flash flashOffset header → r.2 = true →
      ¬ FlashLinks s slotId flash flashOffset header →
      load.1 = r.1.setCode slotId (flashLinkedCode s slotId flash flashOffset header) ∧
      load.2.status ≠ .Ok) ∧
    (FlashBytecode s slotId flash flashOffset header → r.2 = true →
      FlashLinks s slotId flash flashOffset header →
      load.1 = (flashInstalled s slotId flash flashOffset header).updateSlot slotId
        (fun _ => snapshot.1) ∧
      (load.2.status = .Ok ↔ snapshot.2 = true)) := by
  intro header r snapshot load
  let code₀ := (flashCode s slotId flash flashOffset header).1
  obtain ⟨hcode, hok⟩ := linkObjectFileFromFlash_spec r.1.publisher r.1.catalog slotId flash
    flashOffset code₀ h.fits
  have hload : load = if !(flashCode s slotId flash flashOffset header).2 then
      (s.setCode slotId code₀, loadFailure .FlashReadFailed)
    else if !validateSupportedBytecode code₀ header.codeSize.toNat then
      (s.setCode slotId code₀, loadFailure .UnsupportedOpcode)
    else
      if !r.2 then (r.1, declareFailure)
      else
        let s := r.1
        let linked := linkObjectFileFromFlash s.publisher s.catalog slotId flash flashOffset
          header code₀ (slotLayout slotId).linkedCodeCapacity
        let s := s.setCode slotId linked.code
        if linked.result.status ≠ .Ok then (s, loadResult .LinkFailed linked.result)
        else
          let s := s.writeLoadedSlotMetadata slotId
            (programOf header header.runtimeHeaderAddr s.publisher.storeEpoch linked.code)
          let snapshot := writeObjectFileSnapshotFromFlash (s.slots slotId) slotId
            flash flashOffset header.totalSize header.objectChecksum
          (s.updateSlot slotId fun _ => snapshot.1,
            loadResult (if snapshot.2 then .Ok else .BytecodeTooLarge) linked.result) := by
    show loadObjectFileFromFlash s slotId flash flashOffset flashCapacity = _
    unfold loadObjectFileFromFlash
    simp only [regionAvailable_eq, Bool.not_true, Bool.false_eq_true, if_false,
      if_neg (UInt16.not_le.mpr h.slot), if_neg (UInt32.not_lt.mpr h.capacity), h.read, h.header,
      h.checksum, if_neg (UInt32.not_lt.mpr h.fits)]
    refine ite_congr rfl (fun _ => rfl) fun _ => ite_congr rfl (fun _ => rfl) fun _ => ?_
    split <;> next heq =>
      have hfst := congrArg Prod.fst heq
      have hsnd := congrArg Prod.snd heq
      simp only [show r.1 = _ from hfst, show r.2 = _ from hsnd]
      rfl
  rw [hload]
  refine ⟨fun hb => ?_, fun hb h2 => ?_, fun hb h2 hlinks => ?_, fun hb h2 hlinks => ?_⟩
  · by_cases hread : (flashCode s slotId flash flashOffset header).2 = true
    · have hval : ¬ validateSupportedBytecode code₀ header.codeSize.toNat = true :=
        fun hv => hb ⟨hread, hv⟩
      simp only [hread, hval, Bool.not_true, Bool.not_false, Bool.false_eq_true, if_false, if_true]
      exact ⟨rfl, by simp [loadFailure, loadResult]⟩
    · simp only [hread, Bool.not_false, if_true]
      exact ⟨rfl, by simp [loadFailure, loadResult]⟩
  · simp only [hb.1, show validateSupportedBytecode code₀ header.codeSize.toNat = true from hb.2,
      h2, Bool.not_true, Bool.false_eq_true, if_false]
    simp [declareFailure, loadResult]
  · simp only [hb.1, show validateSupportedBytecode code₀ header.codeSize.toNat = true from hb.2,
      h2, Bool.not_true, Bool.false_eq_true, if_false]
    rw [if_pos (fun he => hlinks (hok.mp he)), hcode]
    exact ⟨rfl, by simp [loadResult]⟩
  · simp only [hb.1, show validateSupportedBytecode code₀ header.codeSize.toNat = true from hb.2,
      h2, Bool.not_true, Bool.false_eq_true, if_false]
    rw [if_neg (by simpa using hok.mpr hlinks), hcode]
    refine ⟨rfl, ?_⟩
    show (if snapshot.2 = true then PlcSlotLoadStatusV1.Ok else .BytecodeTooLarge) = .Ok ↔ _
    by_cases hw : snapshot.2 = true <;> simp [hw]

theorem ram_ok_iff (s : LoaderState) (slotId : UInt16) (file : Memory) (size : UInt32) :
    (loadObjectFileIntoSlot s slotId file size).2.status = .Ok ↔
      RamAdmitted slotId file size ∧ (ramDeclare s slotId file).2 = true ∧
        RamLinks s slotId file ∧ SnapshotFits slotId size := by
  by_cases h : RamAdmitted slotId file size
  case neg => simp [h, (ram_refused (s := s) h).2]
  obtain ⟨hundeclared, hunlinked, hlinked⟩ := ram_admitted (s := s) h
  cases h2 : (ramDeclare s slotId file).2 with
  | false => simp [(hundeclared h2).2]
  | true =>
    by_cases hl : RamLinks s slotId file
    · simp [h, hl, (hlinked h2 hl).2]
    · simp [hl, (hunlinked h2 hl).2]

theorem ram_ok_state (h : (loadObjectFileIntoSlot s slotId file size).2.status = .Ok) :
    (loadObjectFileIntoSlot s slotId file size).1 =
      (ramInstalled s slotId file).updateSlot slotId
        (fun m => (m.writeObjectFileSnapshot slotId file size).1) := by
  obtain ⟨hadm, h2, hl, -⟩ := (ram_ok_iff s slotId file size).mp h
  exact ((ram_admitted (s := s) hadm).2.2 h2 hl).1

theorem flash_ok_iff {flashOffset : UInt32} {bytes : Memory}
    (hbytes : readFromFlash flash flashOffset headerSize = some bytes) :
    (loadObjectFileFromFlash s slotId flash flashOffset flashCapacity).2.status = .Ok ↔
      FlashAdmitted slotId flash flashOffset flashCapacity bytes ∧
        FlashBytecode s slotId flash flashOffset (readHeader bytes) ∧
        (flashDeclare s slotId flash flashOffset (readHeader bytes)).2 = true ∧
        FlashLinks s slotId flash flashOffset (readHeader bytes) ∧
        (flashSnapshot s slotId flash flashOffset (readHeader bytes)).2 = true := by
  by_cases h : FlashAdmitted slotId flash flashOffset flashCapacity bytes
  case neg =>
    have hall : ∀ bytes', ¬ FlashAdmitted slotId flash flashOffset flashCapacity bytes' := by
      intro bytes' h'
      have heq : bytes' = bytes := Option.some.inj (h'.read.symm.trans hbytes)
      exact h (heq ▸ h')
    simp [h, (flash_refused (s := s) hall).2]
  obtain ⟨hunsupported, hundeclared, hunlinked, hlinked⟩ := flash_admitted (s := s) h
  by_cases hb : FlashBytecode s slotId flash flashOffset (readHeader bytes)
  case neg => simp [hb, (hunsupported hb).2]
  cases h2 : (flashDeclare s slotId flash flashOffset (readHeader bytes)).2 with
  | false => simp [(hundeclared hb h2).2]
  | true =>
    by_cases hl : FlashLinks s slotId flash flashOffset (readHeader bytes)
    · simp [h, hb, hl, (hlinked hb h2 hl).2]
    · simp [hl, (hunlinked hb h2 hl).2]

theorem flash_ok_state {flashOffset : UInt32} {bytes : Memory}
    (hbytes : readFromFlash flash flashOffset headerSize = some bytes)
    (h : (loadObjectFileFromFlash s slotId flash flashOffset flashCapacity).2.status = .Ok) :
    (loadObjectFileFromFlash s slotId flash flashOffset flashCapacity).1 =
      (flashInstalled s slotId flash flashOffset (readHeader bytes)).updateSlot slotId
        (fun _ => (flashSnapshot s slotId flash flashOffset (readHeader bytes)).1) := by
  obtain ⟨hadm, hb, h2, hl, -⟩ := (flash_ok_iff hbytes).mp h
  exact ((flash_admitted (s := s) hadm).2.2.2 hb h2 hl).1

@[simp] theorem setCode_slot (s : LoaderState) (slotId : UInt16) (code : Memory) :
    (s.setCode slotId code).slots slotId = { s.slots slotId with linkedCode := code } :=
  updateSlot_self ..

theorem install_slot (s : LoaderState) (slotId : UInt16) (code : Memory) (l : LoadedProgram) :
    (s.install slotId code l).slots slotId =
      SlotMemory.writeLoadedSlotMetadata { s.slots slotId with linkedCode := code } slotId l := by
  have h := updateSlot_self (s.setCode slotId code) slotId fun m =>
    m.writeLoadedSlotMetadata slotId l
  rw [setCode_slot] at h
  exact h

theorem ramDeclare_slots (s : LoaderState) (slotId : UInt16) (file : Memory) :
    (ramDeclare s slotId file).1.slots = s.slots := reconcile_slots ..

theorem flashDeclare_slots (s : LoaderState) (slotId : UInt16) (flash : FlashDriver)
    (flashOffset : UInt32) (header : PlcObjectFileHeaderV1) :
    (flashDeclare s slotId flash flashOffset header).1.slots =
      (s.setCode slotId (flashCode s slotId flash flashOffset header).1).slots :=
  reconcile_slots ..

theorem ramInstalled_slot (s : LoaderState) (slotId : UInt16) (file : Memory) :
    (ramInstalled s slotId file).slots slotId =
      SlotMemory.writeLoadedSlotMetadata
        { s.slots slotId with linkedCode := ramCode s slotId file } slotId
        (ramProgram s slotId file) := by
  unfold ramInstalled
  rw [install_slot, ramDeclare_slots]

theorem flashInstalled_slot (s : LoaderState) (slotId : UInt16) (flash : FlashDriver)
    (flashOffset : UInt32) (header : PlcObjectFileHeaderV1) :
    (flashInstalled s slotId flash flashOffset header).slots slotId =
      SlotMemory.writeLoadedSlotMetadata
        { s.slots slotId with linkedCode := flashLinkedCode s slotId flash flashOffset header }
        slotId (flashProgram s slotId flash flashOffset header) := by
  unfold flashInstalled
  rw [install_slot, flashDeclare_slots, setCode_slot]

end NodeNet.Loader

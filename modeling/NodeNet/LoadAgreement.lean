import Mathlib.Logic.Basic
import NodeNet.SlotVariables

/-! When loading a file from RAM and loading the same bytes from flash agree. -/
namespace NodeNet.Loader
open NodeNet.Bytes NodeNet.Checks NodeNet.Points NodeNet.Catalog NodeNet.Publisher
open NodeNet.ObjectFile NodeNet.Bytecode NodeNet.Linker NodeNet.Flash NodeNet.Slot

section
variable {flash : FlashDriver} {content : Memory} (hread : ReadsAs flash content)
include hread

/-- With every page readable, the page-wise hash is the hash of the flash bytes. -/
theorem checksumLoop_eq (flashOffset size : UInt32) (fuel : Nat) (copied value : UInt32)
    (hle : copied.toNat ≤ size.toNat) (hfuel : size.toNat ≤ copied.toNat + fuel) :
    checksumLoop flash flashOffset size fuel copied value =
      Fnv.hashFrom value
        (bytesAt content (flashOffset + copied) (size.toNat - copied.toNat)) := by
  induction fuel generalizing copied value with
  | zero =>
    have h0 : size.toNat - copied.toNat = 0 := by omega
    rw [h0]
    rfl
  | succ fuel ih =>
    unfold checksumLoop
    by_cases hlt : copied < size
    · rw [if_pos hlt]
      rw [UInt32.lt_iff_toNat_lt] at hlt
      obtain ⟨page, hpage, hbytes⟩ := hread (flashOffset + copied)
      have hoff := pageOffset_toNat (flashOffset + copied)
      generalize hp : flashOffset + copied - pageBase (flashOffset + copied) = pageOffset at hoff
      generalize hc : (if size - copied < kPageSize - pageOffset then size - copied
        else kPageSize - pageOffset) = chunk
      have hchunk := chunk_bounds size hlt (by omega) hc
      have hsum : (copied + chunk).toNat = copied.toNat + chunk.toNat := by
        have := size.toNat_lt
        rw [UInt32.toNat_add]
        omega
      have hpiece : bytesAt page pageOffset chunk.toNat =
          bytesAt content (flashOffset + copied) chunk.toNat := by
        refine bytesAt_congr fun k hk => ?_
        have hofn : (UInt32.ofNat k).toNat = k :=
          UInt32.toNat_ofNat_of_lt' (Nat.lt_trans hk chunk.toNat_lt)
        rw [hbytes]
        · rw [← hp]
          congr 1
          grind
        · rw [UInt32.lt_iff_toNat_lt, UInt32.toNat_add, hofn]
          have h256 : kPageSize.toNat = 256 := rfl
          omega
      have hrest : size.toNat - copied.toNat =
          chunk.toNat + (size.toNat - (copied + chunk).toNat) := by omega
      simp only [hp, hpage, hc]
      rw [ih (copied + chunk) _ (by omega) (by omega), hrest, bytesAt_append, UInt32.ofNat_toNat,
        Fnv.hashFrom_append, hpiece, UInt32.add_assoc]
    · rw [if_neg hlt]
      rw [UInt32.lt_iff_toNat_lt] at hlt
      have h0 : size.toNat - copied.toNat = 0 := by omega
      rw [h0]
      rfl

theorem checksum32FromFlash_eq (flashOffset size : UInt32) :
    checksum32FromFlash flash flashOffset size =
      checksum32 content flashOffset size := by
  have h := checksumLoop_eq hread flashOffset size size.toNat 0 Fnv.basis (Nat.zero_le _) (by simp)
  simpa [checksum32FromFlash, checksum32, Fnv.hash] using h

theorem readFromFlash_eq (flashOffset a size : UInt32) :
    ∃ m, readFromFlash flash (flashOffset + a) size = some m ∧
      ∀ d : UInt32, d.toNat < size.toNat → m (0 + d) = fileAt content flashOffset (a + d) := by
  have hm : readFromFlash flash (flashOffset + a) size =
      some (copy (fun _ => 0) 0 content (flashOffset + a) size.toNat) := by
    unfold readFromFlash
    rw [flashReadBytes_eq hread]
  exact ⟨_, hm, fun d hd => readFromFlash_ok hread.readsFrom hm hd⟩

theorem readHeaderFromFlash_eq (flashOffset : UInt32) :
    ∃ m, readFromFlash flash flashOffset headerSize = some m ∧
      readHeader m = readHeader (fileAt content flashOffset) := by
  obtain ⟨m, hm, hbytes⟩ := readFromFlash_eq hread flashOffset 0 headerSize
  rw [UInt32.add_zero] at hm
  exact ⟨m, hm, readHeader_congr fun d hd => by simpa using hbytes d hd⟩

theorem readSymbolFromFlash_eq (flashOffset : UInt32) (header : PlcObjectFileHeaderV1)
    (i : UInt16) :
    readSymbolFromFlash flash flashOffset header i =
      some (readSymbol (fileAt content flashOffset) (symbolAddr header i)) := by
  obtain ⟨m, hm, hbytes⟩ := readFromFlash_eq hread flashOffset (symbolAddr header i) symbolSize
  rw [readSymbolFromFlash, hm, Option.map_some]
  exact congrArg some (readSymbol_congr hbytes)

theorem validateObjectFileChecksum_eq (flashOffset : UInt32) (header : PlcObjectFileHeaderV1) :
    validateObjectFileChecksum flash flashOffset header =
      decide (checksum32 (fileAt content flashOffset) headerSize (header.totalSize - headerSize) =
        header.objectChecksum) := by
  rw [validateObjectFileChecksum, checksum32FromFlash_eq hread]
  have hbytes : checksum32 content (flashOffset + headerSize) (header.totalSize - headerSize) =
      checksum32 (fileAt content flashOffset) headerSize (header.totalSize - headerSize) := by
    unfold checksum32
    rw [bytesAt_congr (w := fileAt content flashOffset) (b := headerSize)]
    intro k _
    rw [fileAt, UInt32.add_assoc]
  rw [hbytes]

theorem flashCode_eq (s : LoaderState) (slotId : UInt16) (flashOffset : UInt32)
    (header : PlcObjectFileHeaderV1) :
    flashCode s slotId flash flashOffset header =
      (copy (s.slots slotId).linkedCode 0 (fun x => fileAt content flashOffset (headerSize + x)) 0
        header.codeSize.toNat, true) := by
  rw [flashCode, flashReadBytes_eq hread]
  congr 1
  refine copy_congr fun d _ => ?_
  rw [fileAt, UInt32.add_assoc, UInt32.zero_add]

end

variable {slotId : UInt16}

theorem resolveSymbol_agree {p : PlcRuntimePublisherV1} {c : PointCatalog}
    {source : PlcObjectSymbolRecordV1} {l l' : LinkResult}
    (h : Linker.resolveSymbol p c slotId source = some l)
    (h' : Loader.resolveSymbol p c slotId source = some l') : l = l' := by
  obtain ⟨i, hi, hl⟩ := Linker.resolveSymbol_spec h
  obtain ⟨i', hi', hl'⟩ := resolveSymbol_spec h'
  have hii : i = i' := Option.some.inj (hi.symm.trans hi')
  rw [hl, hl', hii]

/-- The patch the flash path makes for relocation `i`, read off the file. -/
def filePatch (p : PlcRuntimePublisherV1) (c : PointCatalog) (slotId : UInt16)
    (image : PlcObjectImageV1) (i : Nat) : Option Patch :=
  let r := image.relocations (UInt16.ofNat i)
  if RelocationAdmitted image.codeSize image.symbolCount r then
    (resolveSymbol p c slotId (image.symbols r.symbolIndex)).map (relocationPatch r)
  else none

theorem filePatch_congr {p p' : PlcRuntimePublisherV1} (h : p.ready = p'.ready)
    (c : PointCatalog) (image : PlcObjectImageV1) :
    filePatch p c slotId image = filePatch p' c slotId image := by
  funext i
  simp only [filePatch, resolveSymbol_congr h]

theorem patch_agree {p : PlcRuntimePublisherV1} {c : PointCatalog} {image : PlcObjectImageV1}
    {i : Nat} (h : (imagePatch p c slotId image i).isSome)
    (h' : (filePatch p c slotId image i).isSome) :
    imagePatch p c slotId image i = filePatch p c slotId image i := by
  simp only [imagePatch, filePatch] at h h' ⊢
  split
  · rename_i hadm
    rw [if_pos hadm, Option.isSome_map] at h h'
    obtain ⟨l, hl⟩ := Option.isSome_iff_exists.mp h
    obtain ⟨l', hl'⟩ := Option.isSome_iff_exists.mp h'
    rw [hl, hl', resolveSymbol_agree hl hl']
  · rfl

/-- Every relocation resolves by the flash path's rules. -/
def FileLinks (s : LoaderState) (slotId : UInt16) (file : Memory) : Prop :=
  ∀ k < (readHeader file).relocationCount.toNat,
    (filePatch (ramDeclare s slotId file).1.publisher (ramDeclare s slotId file).1.catalog slotId
      (objectImage file) k).isSome

/-- The extra header checks of the flash path. -/
def TablesPlaced (header : PlcObjectFileHeaderV1) : Prop :=
  headerSize ≤ header.symbolTableOffset ∧ header.symbolTableOffset ≤ header.totalSize ∧
    headerSize ≤ header.relocationTableOffset ∧ header.relocationTableOffset ≤ header.totalSize

theorem validateObjectFileHeader_iff (header : PlcObjectFileHeaderV1) (capacity : UInt32) :
    validateObjectFileHeader header capacity = true ↔
      header.magic = kPlcObjectFileMagicV1 ∧ header.version = kPlcObjectFileVersionV1 ∧
      header.abiVersion = kPlcRuntimeAbiV1Version ∧ headerSize ≤ header.totalSize ∧
      header.totalSize ≤ capacity ∧ header.entryOffset ≤ header.codeSize ∧
      headerSize + header.codeSize ≤ header.totalSize ∧
      symbolAddr header header.symbolCount ≤ header.totalSize ∧
      relocationAddr header header.relocationCount ≤ header.totalSize ∧ TablesPlaced header := by
  unfold validateObjectFileHeader TablesPlaced
  have hite : ∀ (p : Prop) [Decidable p] (x : Bool),
      (if p then false else x) = true ↔ ¬ p ∧ x = true := by
    intro p _ x
    by_cases hp : p <;> simp [hp]
  simp only [hite, not_or, ne_eq, Decidable.not_not, UInt32.not_lt, and_true]
  constructor
  · rintro ⟨⟨h1, h2, h3⟩, ⟨h4, h5, h6⟩, h7, ⟨h8, h9⟩, ⟨h10, h11⟩, h12, h13⟩
    exact ⟨h1, h2, h3, h4, h5, h6, h7, h12, h13, h8, h9, h10, h11⟩
  · rintro ⟨h1, h2, h3, h4, h5, h6, h7, h12, h13, h8, h9, h10, h11⟩
    exact ⟨⟨h1, h2, h3⟩, ⟨h4, h5, h6⟩, h7, ⟨h8, h9⟩, ⟨h10, h11⟩, h12, h13⟩

section
variable {flash : FlashDriver} {content : Memory} (hread : ReadsAs flash content)
include hread

theorem flashPatch_eq (p : PlcRuntimePublisherV1) (c : PointCatalog) (slotId : UInt16)
    (flashOffset : UInt32) (i : Nat) :
    flashPatch p c slotId flash flashOffset (readHeader (fileAt content flashOffset)) i =
      filePatch p c slotId (objectImage (fileAt content flashOffset)) i := by
  obtain ⟨m, hm, hbytes⟩ := readFromFlash_eq hread flashOffset
    (relocationAddr (readHeader (fileAt content flashOffset)) (UInt16.ofNat i)) relocationSize
  have hr := readRelocation_congr hbytes
  simp only [flashPatch, filePatch, hm, hr, readSymbolFromFlash_eq hread]
  rfl

theorem flashDeclare_eq (s : LoaderState) (slotId : UInt16) (flashOffset : UInt32) :
    flashDeclare s slotId flash flashOffset (readHeader (fileAt content flashOffset)) =
      ((ramDeclare s slotId (fileAt content flashOffset)).1.setCode slotId
          (flashCode s slotId flash flashOffset (readHeader (fileAt content flashOffset))).1,
        (ramDeclare s slotId (fileAt content flashOffset)).2) := by
  unfold flashDeclare
  rw [LoaderState.setCode, reconcile_updateSlot]
  have hsymbols : readSymbolFromFlash flash flashOffset
      (readHeader (fileAt content flashOffset)) =
      some ∘ (objectImage (fileAt content flashOffset)).symbols := by
    funext i
    exact readSymbolFromFlash_eq hread flashOffset _ i
  rw [hsymbols]
  rfl

theorem flashLinks_iff (s : LoaderState) (slotId : UInt16) (flashOffset : UInt32) :
    FlashLinks s slotId flash flashOffset (readHeader (fileAt content flashOffset)) ↔
      FileLinks s slotId (fileAt content flashOffset) := by
  unfold FlashLinks FlashRelocationsLink FileLinks
  rw [flashDeclare_eq hread]
  simp only [flashPatch_eq hread]
  rfl

theorem flashLinkedCode_eq {s : LoaderState} {slotId : UInt16} {flashOffset : UInt32}
    (h : RamLinks s slotId (fileAt content flashOffset))
    (h' : FileLinks s slotId (fileAt content flashOffset)) :
    flashLinkedCode s slotId flash flashOffset (readHeader (fileAt content flashOffset)) =
      ramCode s slotId (fileAt content flashOffset) := by
  unfold flashLinkedCode flashLinkedBytes ramCode linkedBytes
  rw [flashDeclare_eq hread, flashCode_eq hread]
  refine patchRun_congr fun k _ hk => ?_
  rw [flashPatch_eq hread]
  rw [Nat.zero_add] at hk
  exact (patch_agree (h k hk) (h' k hk)).symm

theorem flashSnapshot_ok_iff (s : LoaderState) (slotId : UInt16) (flashOffset : UInt32)
    (header : PlcObjectFileHeaderV1) :
    (flashSnapshot s slotId flash flashOffset header).2 = true ↔
      SnapshotFits slotId header.totalSize := by
  unfold flashSnapshot writeObjectFileSnapshotFromFlash
  rw [flashReadBytes_eq hread]
  by_cases hf : SnapshotFits slotId header.totalSize <;> simp [hf]

theorem flashBytecode_iff {s : LoaderState} {slotId : UInt16} {flashOffset : UInt32} :
    FlashBytecode s slotId flash flashOffset (readHeader (fileAt content flashOffset)) ↔
      validateSupportedBytecode (objectImage (fileAt content flashOffset)).codeBytes
        (readHeader (fileAt content flashOffset)).codeSize.toNat = true := by
  unfold FlashBytecode
  rw [flashCode_eq hread]
  simp only [true_and]
  have hsize := (readHeader (fileAt content flashOffset)).codeSize.toNat_lt
  have hcopy : ∀ x : UInt32, x.toNat < (readHeader (fileAt content flashOffset)).codeSize.toNat →
      copy (s.slots slotId).linkedCode 0
        (fun x => fileAt content flashOffset (headerSize + x)) 0
        (readHeader (fileAt content flashOffset)).codeSize.toNat x =
      (objectImage (fileAt content flashOffset)).codeBytes x := by
    intro x hx
    rw [copy_of_covers (covers_zero_iff.mpr hx), UInt32.zero_add, UInt32.sub_zero]
    rfl
  exact ⟨validateSupportedBytecode_congr hsize fun x hx => (hcopy x hx).symm,
    validateSupportedBytecode_congr hsize hcopy⟩

theorem flash_ok_file_iff (s : LoaderState) (slotId : UInt16) (flashOffset size : UInt32) :
    (loadObjectFileFromFlash s slotId flash flashOffset size).2.status = .Ok ↔
      RamAdmitted slotId (fileAt content flashOffset) size ∧
        TablesPlaced (readHeader (fileAt content flashOffset)) ∧
        (ramDeclare s slotId (fileAt content flashOffset)).2 = true ∧
        FileLinks s slotId (fileAt content flashOffset) ∧
        SnapshotFits slotId (readHeader (fileAt content flashOffset)).totalSize := by
  obtain ⟨bytes, hbytes, hheader⟩ := readHeaderFromFlash_eq hread flashOffset
  rw [flash_ok_iff hbytes, hheader, flashBytecode_iff hread, flashDeclare_eq hread,
    flashLinks_iff hread, flashSnapshot_ok_iff hread]
  constructor
  · rintro ⟨hadm, hb, h2, hl, hsnap⟩
    have hvalid := hadm.header
    rw [hheader, validateObjectFileHeader_iff] at hvalid
    obtain ⟨hmagic, hversion, habi, hge, hle, hentry, hcode, hsym, hrel, hplaced⟩ := hvalid
    have hsum := hadm.checksum
    rw [hheader, validateObjectFileChecksum_eq hread, decide_eq_true_eq] at hsum
    have hfits := hadm.fits
    rw [hheader] at hfits
    exact ⟨⟨⟨hadm.capacity, hmagic, hversion, habi, hge, hle, hentry, hcode, hsym, hrel, hsum⟩,
      hadm.slot, hfits, hb⟩, hplaced, h2, hl, hsnap⟩
  · rintro ⟨⟨hc, hslot, hfits, hb⟩, hplaced, h2, hl, hsnap⟩
    refine ⟨⟨hslot, hc.header_fits, hbytes, ?_, ?_, ?_⟩, hb, h2, hl, hsnap⟩
    · rw [hheader, validateObjectFileHeader_iff]
      exact ⟨hc.magic, hc.version, hc.abi, hc.total_ge, hc.total_le, hc.entry, hc.code, hc.symbols,
        hc.relocations, hplaced⟩
    · rw [hheader, validateObjectFileChecksum_eq hread, decide_eq_true_eq]
      exact hc.checksum
    · rw [hheader]
      exact hfits

end

/-- The two slots hold the same program, bookkeeping and object snapshot. -/
structure SlotsAgree (m m' : SlotMemory) : Prop where
  control : m.control = m'.control
  manifest : m.manifest = m'.manifest
  code : ∀ x < m.control.bytecodeSize, m.linkedCode x = m'.linkedCode x
  snapshotHeader : m.snapshotHeader = m'.snapshotHeader
  snapshotData : ∀ x < m.snapshotHeader.objectSize, m.snapshotData x = m'.snapshotData x

/-- A load from RAM and one of the same bytes from flash succeed or fail together, and leave the
same slot. -/
def LoadsAgree (s : LoaderState) (slotId : UInt16) (flash : FlashDriver) (content : Memory)
    (flashOffset size : UInt32) : Prop :=
  let ram := loadObjectFileIntoSlot s slotId (fileAt content flashOffset) size
  let fromFlash := loadObjectFileFromFlash s slotId flash flashOffset size
  (ram.2.status = .Ok ↔ fromFlash.2.status = .Ok) ∧
    (ram.2.status = .Ok → fromFlash.2.status = .Ok →
      SlotsAgree (ram.1.slots slotId) (fromFlash.1.slots slotId))

/-- The header fields the two paths treat differently agree with what the RAM path assumes. -/
def HeaderNeutral (file : Memory) (size : UInt32) : Prop :=
  size = (readHeader file).totalSize ∧
    (readHeader file).runtimeHeaderAddr = kPlcRuntimeHeaderAddr ∧
    Fnv.hash (bytesAt file 0 headerSize.toNat) = Fnv.basis

/-- For a file of exactly its total size the two snapshot checksums agree when the header hashes to
the basis. -/
theorem snapshotChecksum_iff {file : Memory} {size : UInt32} (h : FieldChecks file size) :
    checksum32 file 0 (readHeader file).totalSize = (readHeader file).objectChecksum ↔
      Fnv.hash (bytesAt file 0 headerSize.toNat) = Fnv.basis := by
  have hge := UInt32.le_iff_toNat_le.mp h.total_ge
  have hsplit : (readHeader file).totalSize.toNat =
      headerSize.toNat + ((readHeader file).totalSize - headerSize).toNat := by
    rw [UInt32.toNat_sub_of_le _ _ h.total_ge]
    omega
  rw [← h.checksum, checksum32, checksum32, hsplit, bytesAt_append, UInt32.zero_add]
  exact Fnv.hash_append_eq_iff _ _

def loadedSlot (m : SlotMemory) (slotId : UInt16) (code : Memory) (l : LoadedProgram)
    (data : Memory) (size checksum : UInt32) : SlotMemory :=
  { SlotMemory.writeLoadedSlotMetadata { m with linkedCode := code } slotId l with
    snapshotData := data
    snapshotHeader := loadedSnapshotHeader slotId size checksum }

theorem ram_ok_slot {s : LoaderState} {file : Memory} {size : UInt32}
    (h : (loadObjectFileIntoSlot s slotId file size).2.status = .Ok) :
    (loadObjectFileIntoSlot s slotId file size).1.slots slotId =
      loadedSlot (s.slots slotId) slotId (ramCode s slotId file) (ramProgram s slotId file)
        (copy (s.slots slotId).snapshotData 0 file 0 size.toNat) size (checksum32 file 0 size) := by
  have hfits := ((ram_ok_iff ..).mp h).2.2.2
  rw [ram_ok_state h, updateSlot_self, SlotMemory.writeObjectFileSnapshot, if_pos hfits,
    ramInstalled_slot]
  rfl

theorem flash_ok_slot {flash : FlashDriver} {content : Memory} (hread : ReadsAs flash content)
    {s : LoaderState} {flashOffset size : UInt32}
    (h : (loadObjectFileFromFlash s slotId flash flashOffset size).2.status = .Ok) :
    let header := readHeader (fileAt content flashOffset)
    (loadObjectFileFromFlash s slotId flash flashOffset size).1.slots slotId =
      loadedSlot (s.slots slotId) slotId (flashLinkedCode s slotId flash flashOffset header)
        (flashProgram s slotId flash flashOffset header)
        (copy (s.slots slotId).snapshotData 0 (fileAt content flashOffset) 0 header.totalSize.toNat)
        header.totalSize header.objectChecksum := by
  intro header
  obtain ⟨bytes, hbytes, hheader⟩ := readHeaderFromFlash_eq hread flashOffset
  have hfits := ((flash_ok_file_iff hread ..).mp h).2.2.2.2
  have hdata : ∀ m, copy m 0 content flashOffset header.totalSize.toNat =
      copy m 0 (fileAt content flashOffset) 0 header.totalSize.toNat := by
    intro m
    refine copy_congr fun d _ => ?_
    rw [fileAt, UInt32.zero_add]
  rw [flash_ok_state hbytes h, updateSlot_self, hheader, flashSnapshot,
    writeObjectFileSnapshotFromFlash, if_pos hfits, flashReadBytes_eq hread, flashInstalled_slot]
  simp only
  rw [hdata]
  rfl

theorem slotsAgree_iff {flash : FlashDriver} {content : Memory} (hread : ReadsAs flash content)
    {s : LoaderState} {flashOffset size : UInt32}
    (h : (loadObjectFileIntoSlot s slotId (fileAt content flashOffset) size).2.status = .Ok)
    (h' : (loadObjectFileFromFlash s slotId flash flashOffset size).2.status = .Ok) :
    SlotsAgree ((loadObjectFileIntoSlot s slotId (fileAt content flashOffset) size).1.slots slotId)
        ((loadObjectFileFromFlash s slotId flash flashOffset size).1.slots slotId) ↔
      HeaderNeutral (fileAt content flashOffset) size := by
  obtain ⟨hadm, -, hl, -⟩ := (ram_ok_iff ..).mp h
  obtain ⟨-, -, -, hl', -⟩ := (flash_ok_file_iff hread ..).mp h'
  have hcode := flashLinkedCode_eq hread hl hl'
  have hprogram : (readHeader (fileAt content flashOffset)).runtimeHeaderAddr =
      kPlcRuntimeHeaderAddr →
      flashProgram s slotId flash flashOffset (readHeader (fileAt content flashOffset)) =
        ramProgram s slotId (fileAt content flashOffset) := by
    intro haddr
    rw [flashProgram, ramProgram, hcode, haddr, flashDeclare_eq hread]
    rfl
  have hsum := snapshotChecksum_iff hadm.checks
  rw [ram_ok_slot h, flash_ok_slot hread h', hcode]
  constructor
  · intro hagree
    have hheader := hagree.snapshotHeader
    have hsize : size = (readHeader (fileAt content flashOffset)).totalSize :=
      congrArg PlcObjectSnapshotHeaderV1.objectSize hheader
    have hchecksum := congrArg PlcObjectSnapshotHeaderV1.objectChecksum hheader
    refine ⟨hsize, (congrArg PlcSlotManifestV1.runtimeHeaderAddr hagree.manifest).symm,
      hsum.mp ?_⟩
    rw [← hsize]
    exact hchecksum
  · rintro ⟨hsize, haddr, hbasis⟩
    rw [hprogram haddr]
    have hchecksum := hsum.mpr hbasis
    refine ⟨rfl, rfl, fun _ _ => rfl, ?_, fun x _ => ?_⟩
    · show loadedSnapshotHeader _ _ _ = loadedSnapshotHeader _ _ _
      rw [← hsize] at hchecksum ⊢
      rw [hchecksum]
    · show copy _ _ _ _ _ x = copy _ _ _ _ _ x
      rw [← hsize]

/-- The symbol relocation `k` names. -/
def symbolAt (file : Memory) (k : Nat) : PlcObjectSymbolRecordV1 :=
  (objectImage file).symbols (relocationAt file k).symbolIndex

/-- A symbol's request; a slot variable is asked for to read it. -/
def sharedRequest (c : PointCatalog) (slotId : UInt16) (source : PlcObjectSymbolRecordV1) :
    LinkRequest where
  pointId := symbolIdentity c slotId source
  expectedType := .ofByte source.expectedType
  access := if source.symbolKind = kPlcSymbolSlotVar then 0 else source.access

/-- Both linkers refuse a symbol otherwise: a slot variable has a supported type, and the identity
is in the catalog with the symbol's runtime type. -/
structure SymbolResolves (p : PlcRuntimePublisherV1) (c : PointCatalog) (slotId : UInt16)
    (source : PlcObjectSymbolRecordV1) : Prop where
  supported : source.symbolKind = kPlcSymbolSlotVar →
    isSupportedSlotVariableType source.expectedType = true
  found : (p.resolveLinkRequest c (sharedRequest c slotId source)).toOption.isSome

/-- The two value types that share a runtime type. -/
def EnumAsInt16 (t t' : PointValueType) : Prop :=
  t = .Enum ∧ t' = .Int16 ∨ t = .Int16 ∧ t' = .Enum

/-- The catalog has a slot variable as `Int16` or as `Enum` just as the symbol does. -/
def EnumApart (c : PointCatalog) (slotId : UInt16) (source : PlcObjectSymbolRecordV1) : Prop :=
  source.symbolKind = kPlcSymbolSlotVar →
    ∀ d, definitionOf c (symbolIdentity c slotId source) = some d →
      ¬ EnumAsInt16 d.valueType (.ofByte source.expectedType)

/-- A slot variable is read, written, or both. -/
def AccessKnown (source : PlcObjectSymbolRecordV1) : Prop :=
  source.symbolKind = kPlcSymbolSlotVar → source.access ≤ 2

theorem eq_iff_not_enumAsInt16 {t t' : PointValueType} (hvalid : mapValueType t ≠ .Invalid)
    (h : mapValueType t' = mapValueType t) : t = t' ↔ ¬ EnumAsInt16 t t' := by
  cases t <;> cases t' <;> simp_all [mapValueType, EnumAsInt16]

theorem mapValueType_of_supported {rawType : UInt8}
    (h : isSupportedSlotVariableType rawType = true) :
    mapValueType (.ofByte rawType) ≠ .Invalid := by
  unfold isSupportedSlotVariableType at h
  generalize PointValueType.ofByte rawType = t at h
  cases t <;> simp_all [mapValueType]

theorem accessAllowed_slotVariable {d : PointDefinition} {c : PointCatalog} {name : Text}
    (hslot : slotId < kPlcSlotCountV1) (hname : isReservedSlotPointId name = false)
    (hid : d.id = slotVariableIdentity c slotId name) (access : UInt8) :
    accessAllowed (mapFlags d) access = true ↔ access ≤ 2 := by
  have hr := slotFeature_reads hslot
  obtain ⟨hne, hnot⟩ := isReservedSlotPointId_eq_false.mp hname
  have htake : name.take 31 ≠ [] := by
    cases name with
    | nil => exact absurd rfl hne
    | cons b bs => simp
  have hwritable : isTransientSlotVariable d.id = true := by
    simp [hid, slotVariableIdentity, isTransientSlotVariable, hr.isPrefix, hr.digits_ne, hr.digits,
      take_not_reserved hnot, htake]
  have hall : ∀ n < 256, (UInt8.ofNat n = 0 ∨ UInt8.ofNat n = 1 ∨ UInt8.ofNat n = 2) ↔
      UInt8.ofNat n ≤ 2 := by decide +kernel
  have hcases := hall access.toNat access.toNat_lt
  rw [UInt8.ofNat_toNat] at hcases
  rw [← hcases]
  unfold accessAllowed mapFlags isDynamicSlotVariablePoint
  simp only [hwritable, Bool.true_or, Bool.and_true]
  by_cases h0 : access = 0
  · simp [h0]
  by_cases h1 : access = 1
  · simp [h1]
  by_cases h2 : access = 2 <;> simp [h0, h1, h2]

section
variable {p : PlcRuntimePublisherV1} {c : PointCatalog} {source : PlcObjectSymbolRecordV1}

theorem findIndex_of_empty (h : c.size = 0) (id : PointIdentity) : c.findIndex id = none := by
  cases hi : c.findIndex id with
  | none => rfl
  | some i =>
    obtain ⟨e, he, -⟩ := findIndex_spec hi
    have hempty : c.entries = [] := List.length_eq_zero_iff.mp h
    rw [hempty] at he
    cases he

theorem sharedRequest_of_other (h : source.symbolKind ≠ kPlcSymbolSlotVar) :
    sharedRequest c slotId source = requestOf source := by
  simp [sharedRequest, symbolIdentity, requestOf, h]

theorem SymbolResolves.size_ne (h : SymbolResolves p c slotId source) : c.size ≠ 0 := by
  intro hsize
  obtain ⟨i, -, hi, -⟩ := resolveLinkRequest_ok_iff.mp h.found
  rw [findIndex_of_empty hsize] at hi
  cases hi

theorem definitionOf_eq {id : PointIdentity} {i : Nat} {d : PointDefinition}
    (hi : c.findIndex id = some i) (hd : c.definitions[i]? = some d) :
    definitionOf c id = some d := by
  simp [definitionOf, hi, hd]

/-- What the RAM path asks of a symbol. -/
theorem ramResolves_iff (hslot : slotId < kPlcSlotCountV1) (hname : source.symbolKind =
      kPlcSymbolSlotVar → isReservedSlotPointId source.symbolName = false) :
    (Linker.resolveSymbol p c slotId source).isSome ↔
      SymbolResolves p c slotId source ∧ EnumApart c slotId source := by
  unfold Linker.resolveSymbol Linker.resolveSymbolRecord
  by_cases hkind : source.symbolKind = kPlcSymbolSlotVar
  case neg =>
    rw [if_pos hkind]
    simp only [linkSymbol, if_neg hkind]
    rw [← show sharedRequest c slotId source = _ from sharedRequest_of_other hkind]
    exact ⟨fun h => ⟨⟨fun hk => absurd hk hkind, h⟩, fun hk => absurd hk hkind⟩,
      fun h => h.1.found⟩
  rw [if_neg (not_not_intro hkind)]
  by_cases hsupported : isSupportedSlotVariableType source.expectedType = true
  case neg =>
    simp only [hsupported, Bool.not_false, if_true, Option.isSome_none, Bool.false_eq_true,
      false_iff]
    exact fun h => hsupported (h.1.supported hkind)
  simp only [hsupported, Bool.not_true, Bool.false_eq_true, if_false]
  by_cases hsize : c.size = 0
  · simp only [Linker.buildSlotVariableIdentity, hsize, true_or, if_true, Option.map_none,
      Option.isSome_none, Bool.false_eq_true, false_iff]
    exact fun h => h.1.size_ne hsize
  have hne := (isReservedSlotPointId_eq_false.mp (hname hkind)).1
  have hlast : slotId ≠ 0xFFFF := by
    rintro rfl
    exact absurd hslot (by decide)
  have hbuild : Linker.buildSlotVariableIdentity c slotId source.symbolName =
      some (symbolIdentity c slotId source) := by
    simp [Linker.buildSlotVariableIdentity, symbolIdentity, hkind, hsize, hne, hlast]
  simp only [hbuild, Option.map_some, linkSymbol, if_pos hkind]
  rw [resolveSlotVariableLink_ok_iff]
  constructor
  · rintro ⟨i, d, hi, hd, htype, hindex⟩
    have hvalue : d.valueType = .ofByte source.expectedType :=
      (PointValueType.toByte_eq_iff _ _).mp htype
    refine ⟨⟨fun _ => hsupported, resolveLinkRequest_ok_iff.mpr ⟨i, d, hi, hd, ?_, ?_, ?_, hindex⟩⟩,
      fun _ d' hd' => ?_⟩
    · rw [hvalue]
      exact mapValueType_of_supported hsupported
    · rw [hvalue]
      rfl
    · simp [sharedRequest, hkind, accessAllowed, mapFlags]
    · rw [definitionOf_eq hi hd] at hd'
      cases hd'
      rw [hvalue, EnumAsInt16]
      rintro (⟨h, h'⟩ | ⟨h, h'⟩) <;> cases h.symm.trans h'
  · rintro ⟨hresolves, hapart⟩
    obtain ⟨i, d, hi, hd, hvalid, htype, -, hindex⟩ := resolveLinkRequest_ok_iff.mp hresolves.found
    have hvalue := (eq_iff_not_enumAsInt16 hvalid htype).mpr
      (hapart hkind d (definitionOf_eq hi hd))
    exact ⟨i, d, hi, hd, (PointValueType.toByte_eq_iff _ _).mpr hvalue, hindex⟩

/-- What the flash path asks of a symbol. -/
theorem flashResolves_iff (hslot : slotId < kPlcSlotCountV1) (hname : source.symbolKind =
      kPlcSymbolSlotVar → isReservedSlotPointId source.symbolName = false) :
    (Loader.resolveSymbol p c slotId source).isSome ↔
      SymbolResolves p c slotId source ∧ AccessKnown source := by
  unfold Loader.resolveSymbol Loader.resolveSymbolRecord
  by_cases hkind : source.symbolKind = kPlcSymbolSlotVar
  case neg =>
    rw [if_pos hkind]
    simp only
    rw [← show sharedRequest c slotId source = _ from sharedRequest_of_other hkind]
    exact ⟨fun h => ⟨⟨fun hk => absurd hk hkind, h⟩, fun hk => absurd hk hkind⟩,
      fun h => h.1.found⟩
  rw [if_neg (not_not_intro hkind)]
  by_cases hsize : c.size = 0
  · simp only [Loader.buildSlotVariableIdentity, hsize, true_or, if_true, Option.isSome_none,
      Bool.false_eq_true, false_iff]
    exact fun h => h.1.size_ne hsize
  have hres := hname hkind
  have hne := (isReservedSlotPointId_eq_false.mp hres).1
  have hbuild : Loader.buildSlotVariableIdentity c slotId source.symbolName =
      some (symbolIdentity c slotId source) := by
    simp [Loader.buildSlotVariableIdentity, symbolIdentity, hkind, hsize, hne, hres]
  simp only [hbuild]
  by_cases hsupported : isSupportedSlotVariableType source.expectedType = true
  case neg =>
    simp only [hsupported, Bool.not_false, if_true, Option.isSome_none, Bool.false_eq_true,
      false_iff]
    exact fun h => hsupported (h.1.supported hkind)
  simp only [hsupported, Bool.not_true, Bool.false_eq_true, if_false]
  have hallowed : ∀ i d, c.findIndex (symbolIdentity c slotId source) = some i →
      c.definitions[i]? = some d →
      (accessAllowed (mapFlags d) source.access = true ↔ source.access ≤ 2) := by
    intro i d hi hd
    obtain ⟨e, he, hid⟩ := findIndex_spec hi
    have hdef : d = e.definition := by
      rw [PointCatalog.definitions, List.getElem?_map, he] at hd
      exact (Option.some.inj hd).symm
    have hidentity : d.id = slotVariableIdentity c slotId source.symbolName := by
      rw [hdef, hid, symbolIdentity, if_pos hkind]
    exact accessAllowed_slotVariable hslot hres hidentity _
  rw [resolveLinkRequest_ok_iff]
  constructor
  · rintro ⟨i, d, hi, hd, hvalid, htype, haccess, hindex⟩
    refine ⟨⟨fun _ => hsupported,
      resolveLinkRequest_ok_iff.mpr ⟨i, d, hi, hd, hvalid, htype, ?_, hindex⟩⟩,
      fun _ => (hallowed i d hi hd).mp haccess⟩
    simp [sharedRequest, hkind, accessAllowed, mapFlags]
  · rintro ⟨hresolves, hknown⟩
    obtain ⟨i, d, hi, hd, hvalid, htype, -, hindex⟩ := resolveLinkRequest_ok_iff.mp hresolves.found
    exact ⟨i, d, hi, hd, hvalid, htype, (hallowed i d hi hd).mpr (hknown hkind), hindex⟩

end

/-- What both paths ask of the file. -/
structure SharedChecks (s : LoaderState) (slotId : UInt16) (file : Memory) (size : UInt32) :
    Prop where
  admitted : RamAdmitted slotId file size
  declares : Declarable s slotId (ramDeclared s slotId file)
  links : ∀ k < (readHeader file).relocationCount.toNat,
    RelocationAdmitted (readHeader file).codeSize (readHeader file).symbolCount
      (relocationAt file k) ∧
    SymbolResolves s.publisher (ramCatalog s slotId file) slotId (symbolAt file k)

/-- No relocated slot variable is an `Int16` in the file and an `Enum` in the catalog, or the other way
round; only the RAM path asks. -/
def EnumsApart (s : LoaderState) (slotId : UInt16) (file : Memory) : Prop :=
  ∀ k < (readHeader file).relocationCount.toNat,
    EnumApart (ramCatalog s slotId file) slotId (symbolAt file k)

/-- Every relocated slot variable has an access byte up to 2; only the flash path asks. -/
def AccessesKnown (file : Memory) : Prop :=
  ∀ k < (readHeader file).relocationCount.toNat, AccessKnown (symbolAt file k)

/-- Nothing that the two paths treat differently is in the file. -/
structure TreatedAlike (s : LoaderState) (slotId : UInt16) (file : Memory) (size : UInt32) :
    Prop where
  enums : EnumsApart s slotId file
  accesses : AccessesKnown file
  placed : TablesPlaced (readHeader file)
  fits : SnapshotFits slotId size
  neutral : HeaderNeutral file size

/-- The RAM path has a reason of its own to refuse the file, and so has the flash path. -/
structure RefusedByBoth (s : LoaderState) (slotId : UInt16) (file : Memory) (size : UInt32) :
    Prop where
  ram : ¬ EnumsApart s slotId file ∨ ¬ SnapshotFits slotId size
  flash : ¬ TablesPlaced (readHeader file) ∨ ¬ AccessesKnown file ∨
    ¬ SnapshotFits slotId (readHeader file).totalSize

theorem declared_names {s : LoaderState} {file : Memory} {ds : List PointDefinition}
    (h : ramDeclared s slotId file = some ds) {i : UInt16} (hi : i < (readHeader file).symbolCount)
    (hkind : ((objectImage file).symbols i).symbolKind = kPlcSymbolSlotVar) :
    isReservedSlotPointId ((objectImage file).symbols i).symbolName = false := by
  unfold ramDeclared declaredDefinitions at h
  split at h
  · cases h
  rename_i e he
  rw [UInt16.lt_iff_toNat_lt] at hi
  obtain ⟨u, v, hbody⟩ := forLoop_each he (Nat.zero_le i.toNat) (by omega)
  unfold declareSymbol at hbody
  simp only [Function.comp_apply, UInt16.ofNat_toNat, hkind, ne_eq, not_true_eq_false,
    if_false] at hbody
  split at hbody
  · cases hbody
  split at hbody
  · cases hbody
  rename_i d hd
  unfold buildExpectedSlotVariableDefinition at hd
  split at hd
  · cases hd
  rename_i id hid
  unfold buildSlotVariableIdentity at hid
  split at hid
  · cases hid
  rename_i hchecks
  simp only [not_or, Bool.not_eq_true] at hchecks
  exact hchecks.2.2

section
variable {s : LoaderState} {file : Memory}

theorem imagePatch_isSome_iff (p : PlcRuntimePublisherV1) (c : PointCatalog) (k : Nat) :
    (imagePatch p c slotId (objectImage file) k).isSome ↔
      RelocationAdmitted (readHeader file).codeSize (readHeader file).symbolCount
        (relocationAt file k) ∧
      (Linker.resolveSymbol p c slotId (symbolAt file k)).isSome := by
  show (if RelocationAdmitted (readHeader file).codeSize (readHeader file).symbolCount
    (relocationAt file k) then _ else _ : Option Patch).isSome ↔ _
  split
  · rename_i hadm
    rw [Option.isSome_map]
    exact (and_iff_right hadm).symm
  · simp_all

theorem filePatch_isSome_iff (p : PlcRuntimePublisherV1) (c : PointCatalog) (k : Nat) :
    (filePatch p c slotId (objectImage file) k).isSome ↔
      RelocationAdmitted (readHeader file).codeSize (readHeader file).symbolCount
        (relocationAt file k) ∧
      (Loader.resolveSymbol p c slotId (symbolAt file k)).isSome := by
  show (if RelocationAdmitted (readHeader file).codeSize (readHeader file).symbolCount
    (relocationAt file k) then _ else _ : Option Patch).isSome ↔ _
  split
  · rename_i hadm
    rw [Option.isSome_map]
    exact (and_iff_right hadm).symm
  · simp_all

theorem ramLinks_iff (hslot : slotId < kPlcSlotCountV1) {ds : List PointDefinition}
    (hds : ramDeclared s slotId file = some ds) :
    RamLinks s slotId file ↔
      (∀ k < (readHeader file).relocationCount.toNat,
        RelocationAdmitted (readHeader file).codeSize (readHeader file).symbolCount
          (relocationAt file k) ∧
        SymbolResolves s.publisher (ramCatalog s slotId file) slotId (symbolAt file k)) ∧
      EnumsApart s slotId file := by
  rw [ramLinks_eq]
  unfold Links EnumsApart
  rw [← forall₂_and]
  refine forall₂_congr fun k _ => ?_
  rw [imagePatch_isSome_iff, and_assoc]
  refine and_congr_right fun hadm => ?_
  exact ramResolves_iff hslot fun hkind => declared_names hds hadm.1 hkind

theorem fileLinks_iff (hslot : slotId < kPlcSlotCountV1) {ds : List PointDefinition}
    (hds : ramDeclared s slotId file = some ds) :
    FileLinks s slotId file ↔
      (∀ k < (readHeader file).relocationCount.toNat,
        RelocationAdmitted (readHeader file).codeSize (readHeader file).symbolCount
          (relocationAt file k) ∧
        SymbolResolves s.publisher (ramCatalog s slotId file) slotId (symbolAt file k)) ∧
      AccessesKnown file := by
  unfold FileLinks AccessesKnown
  rw [filePatch_congr (ramDeclare_ready ..), ramDeclare_catalog]
  rw [← forall₂_and]
  refine forall₂_congr fun k _ => ?_
  rw [filePatch_isSome_iff, and_assoc]
  refine and_congr_right fun hadm => ?_
  exact flashResolves_iff hslot fun hkind => declared_names hds hadm.1 hkind

theorem ram_ok_shared_iff {size : UInt32} :
    (loadObjectFileIntoSlot s slotId file size).2.status = .Ok ↔
      SharedChecks s slotId file size ∧ EnumsApart s slotId file ∧ SnapshotFits slotId size := by
  rw [ram_ok_iff]
  constructor
  · rintro ⟨hadm, h2, hl, hfits⟩
    obtain ⟨ds, hds, hroom⟩ := (declarable_iff hadm.slot ..).mp h2
    obtain ⟨hlinks, henums⟩ := (ramLinks_iff hadm.slot hds).mp hl
    exact ⟨⟨hadm, ⟨ds, hds, hroom⟩, hlinks⟩, henums, hfits⟩
  · rintro ⟨⟨hadm, ⟨ds, hds, hroom⟩, hlinks⟩, henums, hfits⟩
    exact ⟨hadm, (declarable_iff hadm.slot ..).mpr ⟨ds, hds, hroom⟩,
      (ramLinks_iff hadm.slot hds).mpr ⟨hlinks, henums⟩, hfits⟩

end

theorem flash_ok_shared_iff {flash : FlashDriver} {content : Memory} (hread : ReadsAs flash content)
    {s : LoaderState} {flashOffset size : UInt32} :
    (loadObjectFileFromFlash s slotId flash flashOffset size).2.status = .Ok ↔
      SharedChecks s slotId (fileAt content flashOffset) size ∧
        TablesPlaced (readHeader (fileAt content flashOffset)) ∧
        AccessesKnown (fileAt content flashOffset) ∧
        SnapshotFits slotId (readHeader (fileAt content flashOffset)).totalSize := by
  rw [flash_ok_file_iff hread]
  constructor
  · rintro ⟨hadm, hplaced, h2, hl, hfits⟩
    obtain ⟨ds, hds, hroom⟩ := (declarable_iff hadm.slot ..).mp h2
    obtain ⟨hlinks, haccess⟩ := (fileLinks_iff hadm.slot hds).mp hl
    exact ⟨⟨hadm, ⟨ds, hds, hroom⟩, hlinks⟩, hplaced, haccess, hfits⟩
  · rintro ⟨⟨hadm, ⟨ds, hds, hroom⟩, hlinks⟩, hplaced, haccess, hfits⟩
    exact ⟨hadm, hplaced, (declarable_iff hadm.slot ..).mpr ⟨ds, hds, hroom⟩,
      (fileLinks_iff hadm.slot hds).mpr ⟨hlinks, haccess⟩, hfits⟩

/-- The two paths agree on a file exactly when, should it pass what both of them ask, nothing in
it is treated differently, or each of them has a reason of its own to refuse it. -/
theorem loadsAgree_iff {flash : FlashDriver} {content : Memory} (hread : ReadsAs flash content)
    (s : LoaderState) (slotId : UInt16) (flashOffset size : UInt32) :
    LoadsAgree s slotId flash content flashOffset size ↔
      (SharedChecks s slotId (fileAt content flashOffset) size →
        TreatedAlike s slotId (fileAt content flashOffset) size ∨
        RefusedByBoth s slotId (fileAt content flashOffset) size) := by
  have hram : (loadObjectFileIntoSlot s slotId (fileAt content flashOffset) size).2.status = .Ok ↔
      _ := ram_ok_shared_iff
  have hflash : (loadObjectFileFromFlash s slotId flash flashOffset size).2.status = .Ok ↔ _ :=
    flash_ok_shared_iff hread
  constructor
  · rintro ⟨hiff, hagree⟩ hshared
    by_cases hok : (loadObjectFileIntoSlot s slotId (fileAt content flashOffset) size).2.status = .Ok
    · obtain ⟨-, henums, hfits⟩ := hram.mp hok
      obtain ⟨-, hplaced, haccess, -⟩ := hflash.mp (hiff.mp hok)
      exact .inl ⟨henums, haccess, hplaced, hfits,
        (slotsAgree_iff hread hok (hiff.mp hok)).mp (hagree hok (hiff.mp hok))⟩
    · have hok' := fun h => hok (hiff.mpr h)
      rw [hram] at hok
      rw [hflash] at hok'
      exact .inr ⟨not_and_or.mp fun h => hok ⟨hshared, h⟩,
        (not_and_or.mp fun h => hok' ⟨hshared, h⟩).imp_right not_and_or.mp⟩
  · intro hcond
    refine ⟨⟨fun hok => ?_, fun hok => ?_⟩, fun hok hok' => ?_⟩
    · obtain ⟨hshared, henums, hfits⟩ := hram.mp hok
      obtain halike | hrefused := hcond hshared
      · exact hflash.mpr ⟨hshared, halike.placed, halike.accesses, halike.neutral.1 ▸ hfits⟩
      · exact absurd ⟨henums, hfits⟩ (not_and_or.mpr hrefused.ram)
    · obtain ⟨hshared, hplaced, haccess, hfits⟩ := hflash.mp hok
      obtain halike | hrefused := hcond hshared
      · exact hram.mpr ⟨hshared, halike.enums, halike.fits⟩
      · obtain hnot | hnot | hnot := hrefused.flash
        · exact absurd hplaced hnot
        · exact absurd haccess hnot
        · exact absurd hfits hnot
    · obtain ⟨hshared, henums, hfits⟩ := hram.mp hok
      obtain halike | hrefused := hcond hshared
      · exact (slotsAgree_iff hread hok hok').mpr halike.neutral
      · exact absurd ⟨henums, hfits⟩ (not_and_or.mpr hrefused.ram)

/-- A bare header for an empty program. -/
def emptyFile : List UInt8 :=
  [0x4F, 0x42, 0x4A, 0x31, 1, 0, 1, 0, 0, 0, 0, 0, 52, 0, 0, 0, 0, 0, 0, 0, 0, 0, 0, 0,
   0, 0, 0, 0, 52, 0, 0, 0, 52, 0, 0, 0, 0, 0, 0, 0, 0, 0, 0, 0, 0, 0, 0x10, 0x20,
   0xC5, 0x9D, 0x1C, 0x81]

/-- Both paths load it, with different snapshot checksums. -/
theorem emptyFile_not_loadsAgree :
    ¬ LoadsAgree .boot 0 (memoryFlash (ofBytes emptyFile)) (ofBytes emptyFile) 0 52 := by
  rintro ⟨-, h⟩
  have hagree := h (by decide +kernel) (by decide +kernel)
  have hsum := congrArg PlcObjectSnapshotHeaderV1.objectChecksum hagree.snapshotHeader
  exact absurd hsum (by decide +kernel)

theorem emptyFile_loadsAgree_iff :
    LoadsAgree .boot 0 (memoryFlash (ofBytes emptyFile)) (ofBytes emptyFile) 0 52 ↔
      (SharedChecks .boot 0 (fileAt (ofBytes emptyFile) 0) 52 →
        TreatedAlike .boot 0 (fileAt (ofBytes emptyFile) 0) 52 ∨
        RefusedByBoth .boot 0 (fileAt (ofBytes emptyFile) 0) 52) :=
  loadsAgree_iff (memoryFlash_readsAs _) .boot 0 0 52

end NodeNet.Loader

import NodeNet.LinkSafety
import NodeNet.LoadEffects
import NodeNet.SlotVariables

/-! Which failed loads leave the slot as it was. -/
namespace NodeNet.Loader
open NodeNet.Bytes NodeNet.Checks NodeNet.Points NodeNet.Catalog NodeNet.Publisher
open NodeNet.ObjectFile NodeNet.Bytecode NodeNet.Linker NodeNet.Flash NodeNet.Slot

/-- The slot's program, its bookkeeping, its object snapshot and its variables are unchanged. -/
structure SlotKept (s s' : LoaderState) (slotId : UInt16) : Prop where
  linkedHeader : (s'.slots slotId).linkedHeader = (s.slots slotId).linkedHeader
  control : (s'.slots slotId).control = (s.slots slotId).control
  manifest : (s'.slots slotId).manifest = (s.slots slotId).manifest
  snapshotHeader : (s'.slots slotId).snapshotHeader = (s.slots slotId).snapshotHeader
  code : ∀ x < (s.slots slotId).control.bytecodeSize,
    (s'.slots slotId).linkedCode x = (s.slots slotId).linkedCode x
  snapshotData : ∀ x < (s.slots slotId).snapshotHeader.objectSize,
    (s'.slots slotId).snapshotData x = (s.slots slotId).snapshotData x
  declared : slotVariables slotId s'.catalog = slotVariables slotId s.catalog

/-- The bytes agree with the program in the slot. -/
def KeepsCode (s : LoaderState) (slotId : UInt16) (code : Memory) : Prop :=
  ∀ x < (s.slots slotId).control.bytecodeSize, code x = (s.slots slotId).linkedCode x

/-- The slot's bookkeeping is already that of the program. -/
def KeepsMetadata (s : LoaderState) (slotId : UInt16) (l : LoadedProgram) : Prop :=
  loadedLinkedHeader slotId l = (s.slots slotId).linkedHeader ∧
    loadedControlBlock slotId l = (s.slots slotId).control ∧
    loadedManifest slotId l = (s.slots slotId).manifest

/-- The bytes agree with the object snapshot in the slot. -/
def KeepsSnapshot (s : LoaderState) (slotId : UInt16) (data : Memory) : Prop :=
  ∀ x < (s.slots slotId).snapshotHeader.objectSize, data x = (s.slots slotId).snapshotData x

/-- At each stage the RAM path can stop, what it wrote before was already there. -/
structure RamKeeps (s : LoaderState) (slotId : UInt16) (file : Memory) (size : UInt32) : Prop where
  undeclared : (ramDeclare s slotId file).2 = false →
    DeclaresPresent s.catalog slotId (ramDeclared s slotId file)
  unlinked : (ramDeclare s slotId file).2 = true →
    ¬ RamLinks s slotId file →
    DeclaresPresent s.catalog slotId (ramDeclared s slotId file) ∧
      KeepsCode s slotId (ramCode s slotId file)
  unsaved : (ramDeclare s slotId file).2 = true →
    RamLinks s slotId file → ¬ SnapshotFits slotId size →
    DeclaresPresent s.catalog slotId (ramDeclared s slotId file) ∧
      KeepsCode s slotId (ramCode s slotId file) ∧
      KeepsMetadata s slotId (ramProgram s slotId file)

/-- At each stage the flash path can stop, what it wrote before was already there. -/
structure FlashKeeps (s : LoaderState) (slotId : UInt16) (flash : FlashDriver)
    (flashOffset : UInt32)
    (header : PlcObjectFileHeaderV1) : Prop where
  unsupported : ¬ FlashBytecode s slotId flash flashOffset header →
    KeepsCode s slotId (flashCode s slotId flash flashOffset header).1
  undeclared : FlashBytecode s slotId flash flashOffset header →
    (flashDeclare s slotId flash flashOffset header).2 = false →
    DeclaresPresent s.catalog slotId (flashDeclared s slotId flash flashOffset header) ∧
      KeepsCode s slotId (flashCode s slotId flash flashOffset header).1
  unlinked : FlashBytecode s slotId flash flashOffset header →
    (flashDeclare s slotId flash flashOffset header).2 = true →
    ¬ FlashLinks s slotId flash flashOffset header →
    DeclaresPresent s.catalog slotId (flashDeclared s slotId flash flashOffset header) ∧
      KeepsCode s slotId (flashLinkedCode s slotId flash flashOffset header)
  unsaved : FlashBytecode s slotId flash flashOffset header →
    (flashDeclare s slotId flash flashOffset header).2 = true →
    FlashLinks s slotId flash flashOffset header →
    (flashSnapshot s slotId flash flashOffset header).2 = false →
    DeclaresPresent s.catalog slotId (flashDeclared s slotId flash flashOffset header) ∧
      KeepsCode s slotId (flashLinkedCode s slotId flash flashOffset header) ∧
      KeepsMetadata s slotId (flashProgram s slotId flash flashOffset header) ∧
      KeepsSnapshot s slotId (flashSnapshot s slotId flash flashOffset header).1.snapshotData

variable {slotId : UInt16}

theorem slotKept_code {s s' : LoaderState} (code : Memory)
    (h : s'.slots slotId = { s.slots slotId with linkedCode := code }) : SlotKept s s' slotId ↔
      slotVariables slotId s'.catalog = slotVariables slotId s.catalog ∧
        KeepsCode s slotId code := by
  constructor
  · intro hk
    refine ⟨hk.declared, fun x hx => ?_⟩
    have hcode := hk.code x hx
    rwa [h] at hcode
  · rintro ⟨hvars, hcode⟩
    constructor
    case code =>
      intro x hx
      rw [h]
      exact hcode x hx
    case declared => exact hvars
    all_goals
      rw [h]
      try exact fun _ _ => rfl

theorem slotKept_metadata {s s' : LoaderState} (code : Memory) (l : LoadedProgram) (data : Memory)
    (h : s'.slots slotId =
      { SlotMemory.writeLoadedSlotMetadata { s.slots slotId with linkedCode := code } slotId l with
        snapshotData := data }) : SlotKept s s' slotId ↔
      slotVariables slotId s'.catalog = slotVariables slotId s.catalog ∧
        KeepsCode s slotId code ∧ KeepsMetadata s slotId l ∧ KeepsSnapshot s slotId data := by
  constructor
  · intro hk
    have hheader := hk.linkedHeader
    have hcontrol := hk.control
    have hmanifest := hk.manifest
    have hcode := hk.code
    have hdata := hk.snapshotData
    rw [h] at hheader hcontrol hmanifest hcode hdata
    exact ⟨hk.declared, hcode, ⟨hheader, hcontrol, hmanifest⟩, hdata⟩
  · rintro ⟨hvars, hcode, ⟨hheader, hcontrol, hmanifest⟩, hdata⟩
    constructor
    case declared => exact hvars
    all_goals rw [h]
    case linkedHeader => exact hheader
    case control => exact hcontrol
    case manifest => exact hmanifest
    case code => exact hcode
    case snapshotHeader => rfl
    case snapshotData => exact hdata

theorem slotKept_self (s : LoaderState) (slotId : UInt16) : SlotKept s s slotId :=
  ⟨rfl, rfl, rfl, rfl, fun _ _ => rfl, fun _ _ => rfl, rfl⟩

theorem keepsCode_self (s : LoaderState) (slotId : UInt16) :
    KeepsCode s slotId (s.slots slotId).linkedCode := fun _ _ => rfl

theorem keepsSnapshot_self (s : LoaderState) (slotId : UInt16) :
    KeepsSnapshot s slotId (s.slots slotId).snapshotData := fun _ _ => rfl

theorem ram_stages (s : LoaderState) (file : Memory) (size : UInt32)
    (hslot : slotId < kPlcSlotCountV1) : (SlotKept s (ramDeclare s slotId file).1 slotId ↔
      DeclaresPresent s.catalog slotId (ramDeclared s slotId file)) ∧
    (SlotKept s ((ramDeclare s slotId file).1.setCode slotId (ramCode s slotId file)) slotId ↔
      DeclaresPresent s.catalog slotId (ramDeclared s slotId file) ∧
        KeepsCode s slotId (ramCode s slotId file)) ∧
    (¬ SnapshotFits slotId size →
      (SlotKept s ((ramInstalled s slotId file).updateSlot slotId
          (fun m => (m.writeObjectFileSnapshot slotId file size).1)) slotId ↔
        DeclaresPresent s.catalog slotId (ramDeclared s slotId file) ∧
          KeepsCode s slotId (ramCode s slotId file) ∧
          KeepsMetadata s slotId (ramProgram s slotId file))) := by
  have hvars : slotVariables slotId (ramDeclare s slotId file).1.catalog =
      slotVariables slotId s.catalog ↔
      DeclaresPresent s.catalog slotId (ramDeclared s slotId file) :=
    reconcile_slotVariables_iff hslot
  refine ⟨?_, ?_, fun hfits => ?_⟩
  · rw [slotKept_code ((s.slots slotId).linkedCode) (by rw [ramDeclare_slots]), hvars]
    exact and_iff_left (keepsCode_self s slotId)
  · rw [slotKept_code (ramCode s slotId file)
      (by rw [setCode_slot, ramDeclare_slots]), ← hvars]
    rfl
  · rw [slotKept_metadata (ramCode s slotId file) (ramProgram s slotId file)
      (s.slots slotId).snapshotData
      (by
        rw [updateSlot_self, writeObjectFileSnapshot_of_not_fits hfits, ramInstalled_slot]
        rfl),
      ← hvars]
    have hsnap := keepsSnapshot_self s slotId
    exact and_congr_right fun _ => and_congr_right fun _ => and_iff_left hsnap

theorem ram_keeps_iff (s : LoaderState) (slotId : UInt16) (file : Memory) (size : UInt32) :
    ((loadObjectFileIntoSlot s slotId file size).2.status ≠ .Ok →
      SlotKept s (loadObjectFileIntoSlot s slotId file size).1 slotId) ↔
    (RamAdmitted slotId file size → RamKeeps s slotId file size) := by
  by_cases h : RamAdmitted slotId file size
  case neg => simp [h, (ram_refused (s := s) h).1, slotKept_self]
  obtain ⟨hundeclared, hunlinked, hlinked⟩ := ram_admitted (s := s) h
  obtain ⟨hkeep₁, hkeep₂, hkeep₃⟩ := ram_stages s file size h.slot
  constructor
  · intro hk _
    refine ⟨fun h2 => ?_, fun h2 hl => ?_, fun h2 hl hfits => ?_⟩
    · obtain ⟨hstate, hstatus⟩ := hundeclared h2
      exact hkeep₁.mp (hstate ▸ hk hstatus)
    · obtain ⟨hstate, hstatus⟩ := hunlinked h2 hl
      exact hkeep₂.mp (hstate ▸ hk hstatus)
    · obtain ⟨hstate, hstatus⟩ := hlinked h2 hl
      exact (hkeep₃ hfits).mp (hstate ▸ hk fun hok => hfits (hstatus.mp hok))
  · intro hk hstatus
    have hkeeps := hk h
    cases h2 : (ramDeclare s slotId file).2 with
    | false =>
      rw [(hundeclared h2).1]
      exact hkeep₁.mpr (hkeeps.undeclared h2)
    | true =>
      by_cases hl : RamLinks s slotId file
      · have hfits : ¬ SnapshotFits slotId size := fun hf => hstatus ((hlinked h2 hl).2.mpr hf)
        rw [(hlinked h2 hl).1]
        exact (hkeep₃ hfits).mpr (hkeeps.unsaved h2 hl hfits)
      · rw [(hunlinked h2 hl).1]
        exact hkeep₂.mpr (hkeeps.unlinked h2 hl)

theorem writeObjectFileSnapshotFromFlash_failed {m : SlotMemory} {flash : FlashDriver}
    {flashOffset size checksum : UInt32}
    (h : (writeObjectFileSnapshotFromFlash m slotId flash flashOffset size checksum).2 = false) :
    (writeObjectFileSnapshotFromFlash m slotId flash flashOffset size checksum).1 =
      { m with snapshotData :=
          (writeObjectFileSnapshotFromFlash m slotId flash flashOffset size
            checksum).1.snapshotData } := by
  unfold writeObjectFileSnapshotFromFlash at h ⊢
  split
  · rename_i hfits
    rw [if_pos hfits] at h
    split
    · rfl
    · rename_i hread
      rw [hread] at h
      cases h
  · rfl

theorem flash_stages (s : LoaderState) (flash : FlashDriver) (flashOffset : UInt32)
    (header : PlcObjectFileHeaderV1) (hslot : slotId < kPlcSlotCountV1) :
    (SlotKept s (s.setCode slotId (flashCode s slotId flash flashOffset header).1) slotId ↔
      KeepsCode s slotId (flashCode s slotId flash flashOffset header).1) ∧
    (SlotKept s (flashDeclare s slotId flash flashOffset header).1 slotId ↔
      DeclaresPresent s.catalog slotId (flashDeclared s slotId flash flashOffset header) ∧
        KeepsCode s slotId (flashCode s slotId flash flashOffset header).1) ∧
    (SlotKept s ((flashDeclare s slotId flash flashOffset header).1.setCode slotId
        (flashLinkedCode s slotId flash flashOffset header)) slotId ↔
      DeclaresPresent s.catalog slotId (flashDeclared s slotId flash flashOffset header) ∧
        KeepsCode s slotId (flashLinkedCode s slotId flash flashOffset header)) ∧
    ((flashSnapshot s slotId flash flashOffset header).2 = false →
      (SlotKept s ((flashInstalled s slotId flash flashOffset header).updateSlot slotId
          (fun _ => (flashSnapshot s slotId flash flashOffset header).1)) slotId ↔
        DeclaresPresent s.catalog slotId (flashDeclared s slotId flash flashOffset header) ∧
          KeepsCode s slotId (flashLinkedCode s slotId flash flashOffset header) ∧
          KeepsMetadata s slotId (flashProgram s slotId flash flashOffset header) ∧
          KeepsSnapshot s slotId
            (flashSnapshot s slotId flash flashOffset header).1.snapshotData)) := by
  have hvars : slotVariables slotId (flashDeclare s slotId flash flashOffset header).1.catalog =
      slotVariables slotId s.catalog ↔
      DeclaresPresent s.catalog slotId (flashDeclared s slotId flash flashOffset header) :=
    reconcile_slotVariables_iff hslot
  refine ⟨?_, ?_, ?_, fun hsnap => ?_⟩
  · rw [slotKept_code _ (setCode_slot ..)]
    exact and_iff_right rfl
  · rw [slotKept_code ((flashCode s slotId flash flashOffset header).1)
      (by rw [flashDeclare_slots, setCode_slot]), hvars]
  · rw [slotKept_code (flashLinkedCode s slotId flash flashOffset header)
      (by rw [setCode_slot, flashDeclare_slots, setCode_slot]), ← hvars]
    rfl
  · rw [slotKept_metadata (flashLinkedCode s slotId flash flashOffset header)
      (flashProgram s slotId flash flashOffset header)
      (flashSnapshot s slotId flash flashOffset header).1.snapshotData
      (by
        rw [updateSlot_self, ← flashInstalled_slot]
        exact writeObjectFileSnapshotFromFlash_failed hsnap),
      ← hvars]
    rfl

/-- The flash path leaves the slot as it was on failure exactly under `FlashKeeps`. -/
theorem flash_keeps_iff (s : LoaderState) (slotId : UInt16) (flash : FlashDriver)
    (flashOffset flashCapacity : UInt32) :
    ((loadObjectFileFromFlash s slotId flash flashOffset flashCapacity).2.status ≠ .Ok →
      SlotKept s (loadObjectFileFromFlash s slotId flash flashOffset flashCapacity).1 slotId) ↔
    ∀ bytes, FlashAdmitted slotId flash flashOffset flashCapacity bytes →
      FlashKeeps s slotId flash flashOffset (readHeader bytes) := by
  by_cases h : ∃ bytes, FlashAdmitted slotId flash flashOffset flashCapacity bytes
  case neg =>
    rw [not_exists] at h
    simp [h, (flash_refused (s := s) h).1, slotKept_self]
  obtain ⟨bytes, h⟩ := h
  obtain ⟨hunsupported, hundeclared, hunlinked, hlinked⟩ := flash_admitted (s := s) h
  obtain ⟨hkeep₁, hkeep₂, hkeep₃, hkeep₄⟩ := flash_stages s flash flashOffset
    (readHeader bytes) h.slot
  constructor
  · intro hk bytes' h'
    have hbytes : bytes' = bytes := Option.some.inj (h'.read.symm.trans h.read)
    subst hbytes
    refine ⟨fun hb => ?_, fun hb h2 => ?_, fun hb h2 hl => ?_, fun hb h2 hl hsnap => ?_⟩
    · obtain ⟨hstate, hstatus⟩ := hunsupported hb
      exact hkeep₁.mp (hstate ▸ hk hstatus)
    · obtain ⟨hstate, hstatus⟩ := hundeclared hb h2
      exact hkeep₂.mp (hstate ▸ hk hstatus)
    · obtain ⟨hstate, hstatus⟩ := hunlinked hb h2 hl
      exact hkeep₃.mp (hstate ▸ hk hstatus)
    · obtain ⟨hstate, hstatus⟩ := hlinked hb h2 hl
      have hfailed := hk fun hok => by rw [hstatus.mp hok] at hsnap; cases hsnap
      exact (hkeep₄ hsnap).mp (hstate ▸ hfailed)
  · intro hk hstatus
    have hkeeps := hk bytes h
    by_cases hb : FlashBytecode s slotId flash flashOffset (readHeader bytes)
    case neg =>
      rw [(hunsupported hb).1]
      exact hkeep₁.mpr (hkeeps.unsupported hb)
    cases h2 : (flashDeclare s slotId flash flashOffset (readHeader bytes)).2 with
    | false =>
      rw [(hundeclared hb h2).1]
      exact hkeep₂.mpr (hkeeps.undeclared hb h2)
    | true =>
      by_cases hl : FlashLinks s slotId flash flashOffset (readHeader bytes)
      · have hsnap : (flashSnapshot s slotId flash flashOffset (readHeader bytes)).2 = false :=
          Bool.eq_false_iff.mpr fun hw => hstatus ((hlinked hb h2 hl).2.mpr hw)
        rw [(hlinked hb h2 hl).1]
        exact (hkeep₄ hsnap).mpr (hkeeps.unsaved hb h2 hl hsnap)
      · rw [(hunlinked hb h2 hl).1]
        exact hkeep₃.mpr (hkeeps.unlinked hb h2 hl)

/-- A load from the state `s` succeeded or kept the slot. -/
def FailedLoadKeeps (s : LoaderState) (slotId : UInt16) (load : LoaderState × PlcSlotLoadResultV1) :
    Prop :=
  load.2.status ≠ .Ok → SlotKept s load.1 slotId

/-! The slot's memory is left open: a failed load that wrote into it keeps some memories, those that
held the bytes already, and not the others. -/

def LoaderState.withSlot (s : LoaderState) (slotId : UInt16) (m : SlotMemory) : LoaderState :=
  s.updateSlot slotId fun _ => m

/-- Linking stops at the first relocation. -/
def FirstRefused (f : Nat → Option Patch) (n : Nat) : Prop := 0 < n ∧ f 0 = none

structure RamTakes (s : LoaderState) (slotId : UInt16) (file : Memory) (size : UInt32) : Prop where
  declares : Declarable s slotId (ramDeclared s slotId file)
  links : Links s.publisher (ramCatalog s slotId file) slotId (objectImage file)
  fits : SnapshotFits slotId size

/-- The RAM path stops before it writes: the variables it declares are those that are there, and
then declaring fails, or there is no code and the first relocation is refused. -/
structure RamStops (s : LoaderState) (slotId : UInt16) (file : Memory) : Prop where
  present : DeclaresPresent s.catalog slotId (ramDeclared s slotId file)
  unwritten : ¬ Declarable s slotId (ramDeclared s slotId file) ∨
    (readHeader file).codeSize = 0 ∧
      FirstRefused (imagePatch s.publisher (ramCatalog s slotId file) slotId (objectImage file))
        (readHeader file).relocationCount.toNat

/-- The definitions an object in flash declares. -/
def fileDeclared (s : LoaderState) (slotId : UInt16) (flash : FlashDriver) (flashOffset : UInt32)
    (header : PlcObjectFileHeaderV1) : Option (List PointDefinition) :=
  declaredDefinitions s slotId header.symbolCount (readSymbolFromFlash flash flashOffset header)

def flashCatalog (s : LoaderState) (slotId : UInt16) (flash : FlashDriver) (flashOffset : UInt32)
    (header : PlcObjectFileHeaderV1) : PointCatalog :=
  declaredCatalog s.catalog slotId (fileDeclared s slotId flash flashOffset header)

/-- Every page of a range can be read. -/
def Readable (flash : FlashDriver) (flashOffset size : UInt32) : Prop :=
  (flashReadBytes flash flashOffset (fun _ => 0) size).2 = true

structure FlashTakes (s : LoaderState) (slotId : UInt16) (flash : FlashDriver)
    (flashOffset : UInt32)
    (header : PlcObjectFileHeaderV1) : Prop where
  code : Readable flash (flashOffset + headerSize) header.codeSize
  bytecode : validateSupportedBytecode (fileAt (flashContent flash) (flashOffset + headerSize))
    header.codeSize.toNat = true
  declares : Declarable s slotId (fileDeclared s slotId flash flashOffset header)
  links : FlashRelocationsLink s.publisher (flashCatalog s slotId flash flashOffset header) slotId
    flash flashOffset header
  fits : SnapshotFits slotId header.totalSize
  file : Readable flash flashOffset header.totalSize

/-- The flash path stops before it writes: the code's first page cannot be read, or there is no
code, the variables it declares are those that are there, and then declaring fails or the first
relocation is refused. -/
def FlashStops (s : LoaderState) (slotId : UInt16) (flash : FlashDriver) (flashOffset : UInt32)
    (header : PlcObjectFileHeaderV1) : Prop :=
  (header.codeSize ≠ 0 ∧ flash.readPage (pageBase (flashOffset + headerSize)) = none) ∨
  header.codeSize = 0 ∧
    DeclaresPresent s.catalog slotId (fileDeclared s slotId flash flashOffset header) ∧
    (¬ Declarable s slotId (fileDeclared s slotId flash flashOffset header) ∨
      FirstRefused (flashPatch s.publisher (flashCatalog s slotId flash flashOffset header) slotId
        flash flashOffset header) header.relocationCount.toNat)

/-- A large program of one byte. -/
def filledSlot (b : UInt8) : SlotMemory :=
  { SlotMemory.zero with
    control := { PlcProgramControlBlockV1.zero with bytecodeSize := 0xFFFFFFFF }
    linkedCode := fun _ => b }

section
variable {s : LoaderState} {file : Memory} {size : UInt32}

@[simp] theorem withSlot_slot (s : LoaderState) (slotId : UInt16) (m : SlotMemory) :
    (s.withSlot slotId m).slots slotId = m := updateSlot_self ..

theorem not_keepsCode (code : Memory → Memory) {x : UInt32} (hx : x < 0xFFFFFFFF)
    (hown : code (fun _ => 0) x = code (fun _ => 1) x) :
    ¬ ∀ m, KeepsCode (s.withSlot slotId m) slotId (code m.linkedCode) := by
  intro h
  have hzero : code (fun _ => 0) x = 0 := by
    have hkeeps := h (filledSlot 0) x
    rw [withSlot_slot] at hkeeps
    exact hkeeps hx
  have hone : code (fun _ => 1) x = 1 := by
    have hkeeps := h (filledSlot 1) x
    rw [withSlot_slot] at hkeeps
    exact hkeeps hx
  rw [hzero, hone] at hown
  cases hown

theorem not_keepsMetadata (s : LoaderState) (slotId : UInt16) (l : LoadedProgram) :
    ¬ KeepsMetadata (s.withSlot slotId .zero) slotId l := by
  intro hkeeps
  have hheader := hkeeps.1
  rw [withSlot_slot] at hheader
  have hmagic : kPlcLinkedImageMagicV1 = 0 := congrArg PlcLinkedImageHeaderV1.magic hheader
  exact absurd hmagic (by decide)

section
variable {f : Nat → Option Patch} {n : Nat} {src : Memory} {b size : UInt32}
  (h : ∀ m, KeepsCode (s.withSlot slotId m) slotId
    (patchRun f 0 n (copy m.linkedCode 0 src b size.toNat)))
include h

theorem empty_of_keepsCode : size = 0 := by
  refine Classical.byContradiction fun hne => ?_
  have hpos : 0 < size.toNat := Nat.pos_of_ne_zero fun h0 => hne (UInt32.toNat_inj.mp h0)
  refine not_keepsCode (fun old => patchRun f 0 n (copy old 0 src b size.toNat)) (x := 0)
    (by decide) (patchRun_byte ?_) h
  have hin : Covers 0 size.toNat 0 := covers_zero_iff.mpr hpos
  rw [copy_of_covers hin, copy_of_covers hin]

theorem firstRefused_of_keepsCode (hn : 0 < n)
    (hf : ∀ q, f 0 = some q → ∃ x, q.Covers x ∧ x < 0xFFFFFFFF) : FirstRefused f n := by
  refine ⟨hn, ?_⟩
  cases h0 : f 0 with
  | none => rfl
  | some q =>
    obtain ⟨x, hcovers, hlow⟩ := hf q h0
    refine absurd h (not_keepsCode (fun old => patchRun f 0 n (copy old 0 src b size.toNat))
      hlow ?_)
    obtain ⟨k, rfl⟩ : ∃ k, n = k + 1 := ⟨n - 1, by omega⟩
    unfold patchRun
    simp only [h0]
    exact patchRun_byte (Patch.apply_of_covers hcovers)

/-- Linking that stops keeps every code only if there is none and nothing is patched. -/
theorem unwritten_of_keepsCode (hunlinked : ¬ ∀ k < n, (f k).isSome)
    (hf : size = 0 → ∀ q, f 0 = some q → ∃ x, q.Covers x ∧ x < 0xFFFFFFFF) :
    size = 0 ∧ FirstRefused f n := by
  have hempty := empty_of_keepsCode h
  have hn : 0 < n := by
    refine Nat.pos_of_ne_zero fun h0 => hunlinked fun k hk => ?_
    exact absurd hk (by rw [h0]; omega)
  exact ⟨hempty, firstRefused_of_keepsCode h hn (hf hempty)⟩

end

/-- A relocation table whose first entry is refused does not link. -/
theorem FirstRefused.not_links {f : Nat → Option Patch} {n : Nat} (h : FirstRefused f n) :
    ¬ ∀ k < n, (f k).isSome := by
  intro hl
  have hsome := hl 0 h.1
  rw [h.2] at hsome
  cases hsome

theorem patchRun_firstRefused {f : Nat → Option Patch} {n : Nat} (h : FirstRefused f n)
    (m : Memory) : patchRun f 0 n m = m := by
  obtain ⟨k, hk⟩ : ∃ k, n = k + 1 := ⟨n - 1, by have := h.1; omega⟩
  rw [hk]
  unfold patchRun
  rw [h.2]

theorem FillsFields.field_low {f : Nat → Option Patch} (hf : FillsFields file f)
    (hempty : (readHeader file).codeSize = 0) {k : Nat} {q : Patch} (h : f k = some q) :
    ∃ x, q.Covers x ∧ x < 0xFFFFFFFF := by
  obtain ⟨⟨-, hkind, hrange⟩, hcovers⟩ := hf k q h
  have hwidth : relocationPatchSize (relocationAt file k).relocationKind = 2 ∨
      relocationPatchSize (relocationAt file k).relocationKind = 4 := by
    unfold relocationPatchSize at hkind ⊢
    split
    · exact .inl rfl
    split
    · exact .inr rfl
    · simp_all
  refine ⟨(relocationAt file k).codeOffset, (hcovers _).mpr ?_, ?_⟩
  · unfold InField Covers fieldWidth
    rw [UInt32.sub_self]
    obtain hwidth | hwidth := hwidth <;>
      · rw [hwidth]
        decide
  · rw [hempty, UInt32.le_iff_toNat_le, UInt32.toNat_add] at hrange
    rw [UInt32.lt_iff_toNat_lt]
    have hlast : (0xFFFFFFFF : UInt32).toNat = 4294967295 := rfl
    have hzero : (0 : UInt32).toNat = 0 := rfl
    have hlt := (relocationAt file k).codeOffset.toNat_lt
    obtain hwidth | hwidth := hwidth <;>
      · rw [hwidth] at hrange
        first
          | rw [show (2 : UInt32).toNat = 2 from rfl] at hrange
          | rw [show (4 : UInt32).toNat = 4 from rfl] at hrange
        omega

theorem ramDeclare_withSlot (s : LoaderState) (slotId : UInt16) (m : SlotMemory) (file : Memory) :
    (ramDeclare (s.withSlot slotId m) slotId file).2 = (ramDeclare s slotId file).2 := by
  unfold ramDeclare LoaderState.withSlot
  rw [reconcile_updateSlot]

theorem ramLinks_withSlot (s : LoaderState) (slotId : UInt16) (m : SlotMemory) (file : Memory) :
    RamLinks (s.withSlot slotId m) slotId file =
      Links s.publisher (ramCatalog s slotId file) slotId (objectImage file) := ramLinks_eq ..

theorem ramCode_withSlot (s : LoaderState) (slotId : UInt16) (m : SlotMemory) (file : Memory) :
    ramCode (s.withSlot slotId m) slotId file =
      patchRun (imagePatch s.publisher (ramCatalog s slotId file) slotId (objectImage file)) 0
        (readHeader file).relocationCount.toNat
        (copy m.linkedCode 0 (objectImage file).codeBytes 0 (readHeader file).codeSize.toNat) := by
  unfold ramCode linkedBytes
  rw [ramPatch_eq, withSlot_slot]
  rfl

variable (s slotId file) in
theorem ramDeclare_iff (hslot : slotId < kPlcSlotCountV1) (m : SlotMemory) :
    (ramDeclare (s.withSlot slotId m) slotId file).2 = true ↔
      Declarable s slotId (ramDeclared s slotId file) := by
  rw [ramDeclare_withSlot]
  exact declarable_iff hslot (readHeader file).symbolCount (some ∘ (objectImage file).symbols)

theorem takes_or_stops_of_ramKeeps (hslot : slotId < kPlcSlotCountV1)
    (h : ∀ m, RamKeeps (s.withSlot slotId m) slotId file size) :
    RamTakes s slotId file size ∨ RamStops s slotId file := by
  have hdeclare := ramDeclare_iff slotId s file hslot
  by_cases hdeclares : Declarable s slotId (ramDeclared s slotId file)
  case neg =>
    have h2 := Bool.eq_false_iff.mpr fun h2 => hdeclares ((hdeclare .zero).mp h2)
    exact .inr ⟨(h .zero).undeclared h2, .inl hdeclares⟩
  have h2 := fun m => (hdeclare m).mpr hdeclares
  by_cases hl : Links s.publisher (ramCatalog s slotId file) slotId (objectImage file)
  case neg =>
    have hkeeps := fun m => (h m).unlinked (h2 m) (ramLinks_withSlot s slotId m file ▸ hl)
    have hcode := fun m => (hkeeps m).2
    simp only [ramCode_withSlot] at hcode
    have hf := imagePatch_fillsFields s.publisher (ramCatalog s slotId file) slotId file
    exact .inr ⟨(hkeeps .zero).1, .inr
      (unwritten_of_keepsCode hcode hl fun hempty q hq => hf.field_low hempty hq)⟩
  by_cases hfits : SnapshotFits slotId size
  · exact .inl ⟨hdeclares, hl, hfits⟩
  · exact absurd ((h .zero).unsaved (h2 _) (ramLinks_withSlot s slotId .zero file ▸ hl) hfits).2.2
      (not_keepsMetadata s slotId _)

theorem ramKeeps_of_takes (hslot : slotId < kPlcSlotCountV1) (htakes : RamTakes s slotId file size)
    (m : SlotMemory) : RamKeeps (s.withSlot slotId m) slotId file size := by
  refine ⟨fun h2 => ?_, fun _ hl => ?_, fun _ _ hfits => ?_⟩
  · rw [(ramDeclare_iff slotId s file hslot m).mpr htakes.declares] at h2
    cases h2
  · exact absurd htakes.links (ramLinks_withSlot s slotId m file ▸ hl)
  · exact absurd htakes.fits hfits

theorem ramKeeps_of_stops (hslot : slotId < kPlcSlotCountV1) (hstops : RamStops s slotId file)
    (m : SlotMemory) : RamKeeps (s.withSlot slotId m) slotId file size := by
  have hunwritten (h2 : (ramDeclare (s.withSlot slotId m) slotId file).2 = true) :=
    hstops.unwritten.resolve_left
      (not_not_intro ((ramDeclare_iff slotId s file hslot m).mp h2))
  refine ⟨fun _ => hstops.present, fun h2 hl => ⟨hstops.present, ?_⟩, fun h2 hl hfits => ?_⟩
  · obtain ⟨hempty, hfirst⟩ := hunwritten h2
    rw [ramCode_withSlot, patchRun_firstRefused hfirst, hempty]
    intro x _
    rw [withSlot_slot]
    rfl
  · rw [ramLinks_withSlot] at hl
    exact absurd hl (hunwritten h2).2.not_links

/-- The RAM path keeps every memory of the slot exactly if it takes the object or stops before it
writes. -/
theorem ramKeeps_all_iff (hslot : slotId < kPlcSlotCountV1) :
    (∀ m, RamKeeps (s.withSlot slotId m) slotId file size) ↔
      RamTakes s slotId file size ∨ RamStops s slotId file := by
  refine ⟨takes_or_stops_of_ramKeeps hslot, ?_⟩
  rintro (htakes | hstops)
  · exact ramKeeps_of_takes hslot htakes
  · exact ramKeeps_of_stops hslot hstops

section
variable {flash : FlashDriver} {flashOffset : UInt32} {header : PlcObjectFileHeaderV1}

theorem flashCode_withSlot (m : SlotMemory) :
    flashCode (s.withSlot slotId m) slotId flash flashOffset header =
      flashReadBytes flash (flashOffset + headerSize) m.linkedCode header.codeSize := by
  rw [flashCode, withSlot_slot]

variable (s slotId flash flashOffset header) in
theorem flashBytecode_withSlot (m : SlotMemory) :
    FlashBytecode (s.withSlot slotId m) slotId flash flashOffset header ↔
      Readable flash (flashOffset + headerSize) header.codeSize ∧
        validateSupportedBytecode (fileAt (flashContent flash) (flashOffset + headerSize))
          header.codeSize.toNat = true := by
  unfold FlashBytecode
  rw [flashCode_withSlot]
  have hread : (flashReadBytes flash (flashOffset + headerSize) m.linkedCode header.codeSize).2 =
      (flashReadBytes flash (flashOffset + headerSize) (fun _ => 0) header.codeSize).2 :=
    flashReadLoop_success ..
  rw [hread]
  refine and_congr_right fun hok => ?_
  have hcode := flashReadBytes_ok (readsFrom_flashContent flash) (hread.trans hok)
  rw [hcode]
  have hbyte : ∀ x : UInt32, x.toNat < header.codeSize.toNat →
      copy m.linkedCode 0 (flashContent flash) (flashOffset + headerSize) header.codeSize.toNat x =
        fileAt (flashContent flash) (flashOffset + headerSize) x := by
    intro x hx
    rw [copy_of_covers (covers_zero_iff.mpr hx), UInt32.sub_zero, fileAt]
  exact ⟨validateSupportedBytecode_congr header.codeSize.toNat_lt fun x hx => (hbyte x hx).symm,
    validateSupportedBytecode_congr header.codeSize.toNat_lt hbyte⟩

variable (s slotId flash flashOffset header) in
theorem flashDeclare_withSlot (m : SlotMemory) :
    (flashDeclare (s.withSlot slotId m) slotId flash flashOffset header).2 =
      (reconcileSlotVariablePoints s slotId header.symbolCount
        (readSymbolFromFlash flash flashOffset header)).2 := by
  unfold flashDeclare LoaderState.setCode LoaderState.withSlot
  rw [reconcile_updateSlot, reconcile_updateSlot]

theorem flashPatch_withSlot (m : SlotMemory) :
    flashPatch (flashDeclare (s.withSlot slotId m) slotId flash flashOffset header).1.publisher
        (flashDeclare (s.withSlot slotId m) slotId flash flashOffset header).1.catalog slotId flash
        flashOffset header =
      flashPatch s.publisher (flashCatalog s slotId flash flashOffset header) slotId flash
        flashOffset header := by
  have hcatalog : (flashDeclare (s.withSlot slotId m) slotId flash flashOffset header).1.catalog =
      flashCatalog s slotId flash flashOffset header := reconcile_catalog ..
  have hready : (flashDeclare (s.withSlot slotId m) slotId flash flashOffset
      header).1.publisher.ready = s.publisher.ready := reconcile_ready ..
  rw [hcatalog, flashPatch_congr hready]

variable (s slotId flash flashOffset header) in
theorem flashLinks_withSlot (m : SlotMemory) :
    FlashLinks (s.withSlot slotId m) slotId flash flashOffset header =
      FlashRelocationsLink s.publisher (flashCatalog s slotId flash flashOffset header) slotId flash
        flashOffset header := by
  unfold FlashLinks FlashRelocationsLink
  rw [flashPatch_withSlot]

theorem flashLinkedCode_withSlot (m : SlotMemory) :
    flashLinkedCode (s.withSlot slotId m) slotId flash flashOffset header =
      patchRun (flashPatch s.publisher (flashCatalog s slotId flash flashOffset header) slotId flash
        flashOffset header) 0 header.relocationCount.toNat
        (flashReadBytes flash (flashOffset + headerSize) m.linkedCode header.codeSize).1 := by
  unfold flashLinkedCode flashLinkedBytes
  rw [flashPatch_withSlot, flashCode_withSlot]

variable (s slotId flash flashOffset header) in
theorem flashSnapshot_withSlot (m : SlotMemory) :
    (flashSnapshot (s.withSlot slotId m) slotId flash flashOffset header).2 = true ↔
      SnapshotFits slotId header.totalSize ∧ Readable flash flashOffset header.totalSize := by
  unfold flashSnapshot writeObjectFileSnapshotFromFlash
  by_cases hfits : SnapshotFits slotId header.totalSize
  case neg => simp [hfits]
  rw [if_pos hfits]
  have hread := flashReadLoop_success flash flashOffset header.totalSize header.totalSize.toNat 0
    ((flashInstalled (s.withSlot slotId m) slotId flash flashOffset header).slots
      slotId).snapshotData (fun _ => 0)
  unfold Readable
  rw [← show _ = (flashReadBytes flash flashOffset (fun _ => 0) header.totalSize).2 from hread]
  change _ ↔ _ ∧ (flashReadBytes flash flashOffset _ header.totalSize).2 = true
  split <;> simp_all

theorem Readable.read {offset size : UInt32} (h : Readable flash offset size) (old : Memory) :
    (flashReadBytes flash offset old size).1 = copy old 0 (flashContent flash) offset size.toNat :=
  flashReadBytes_ok (readsFrom_flashContent flash) ((flashReadLoop_success ..).trans h)

theorem readable_empty (flash : FlashDriver) (offset : UInt32) : Readable flash offset 0 := rfl

theorem flashReadBytes_empty (flash : FlashDriver) (offset : UInt32) (old : Memory) :
    flashReadBytes flash offset old 0 = (old, true) := rfl

theorem keepsCode_withSlot (s : LoaderState) (slotId : UInt16) (m : SlotMemory) :
    KeepsCode (s.withSlot slotId m) slotId m.linkedCode := by
  intro x _
  rw [withSlot_slot]

variable (s slotId flash flashOffset header) in
theorem flashDeclare_iff (hslot : slotId < kPlcSlotCountV1) (m : SlotMemory) :
    (flashDeclare (s.withSlot slotId m) slotId flash flashOffset header).2 = true ↔
      Declarable s slotId (fileDeclared s slotId flash flashOffset header) := by
  rw [flashDeclare_withSlot]
  exact declarable_iff hslot header.symbolCount (readSymbolFromFlash flash flashOffset header)

/-- A code that cannot be read in full, or that is not supported, keeps every memory only if its
first page cannot be read. -/
theorem unread_of_flashKeeps (h : ∀ m, FlashKeeps (s.withSlot slotId m) slotId flash flashOffset header)
    (hb : ¬ (Readable flash (flashOffset + headerSize) header.codeSize ∧
      validateSupportedBytecode (fileAt (flashContent flash) (flashOffset + headerSize))
        header.codeSize.toNat = true)) :
    header.codeSize ≠ 0 ∧ flash.readPage (pageBase (flashOffset + headerSize)) = none := by
  have hcode := fun m => (h m).unsupported fun hbm => hb ((flashBytecode_withSlot ..).mp hbm)
  simp only [flashCode_withSlot] at hcode
  have hne : header.codeSize ≠ 0 := by
    intro hempty
    rw [hempty] at hb
    exact hb ⟨readable_empty .., rfl⟩
  refine ⟨hne, Classical.byContradiction fun hpage => ?_⟩
  exact absurd hcode (not_keepsCode
    (fun old => (flashReadBytes flash (flashOffset + headerSize) old header.codeSize).1)
    (x := 0) (by decide) (flashReadBytes_first hne hpage _ _))

theorem takes_or_stops_of_flashKeeps (hslot : slotId < kPlcSlotCountV1)
    (hheader : header = readHeader (fileAt (flashContent flash) flashOffset))
    (h : ∀ m, FlashKeeps (s.withSlot slotId m) slotId flash flashOffset header) :
    FlashTakes s slotId flash flashOffset header ∨ FlashStops s slotId flash flashOffset header := by
  have hdeclare := flashDeclare_iff slotId s flash flashOffset header hslot
  by_cases hb : Readable flash (flashOffset + headerSize) header.codeSize ∧
    validateSupportedBytecode (fileAt (flashContent flash) (flashOffset + headerSize))
      header.codeSize.toNat = true
  case neg => exact .inr (.inl (unread_of_flashKeeps h hb))
  have hbytecode := fun m => (flashBytecode_withSlot slotId s flash flashOffset header m).mpr hb
  by_cases hdeclares : Declarable s slotId (fileDeclared s slotId flash flashOffset header)
  case neg =>
    have h2 := fun m => Bool.eq_false_iff.mpr fun h2 => hdeclares ((hdeclare m).mp h2)
    have hkeeps := fun m => (h m).undeclared (hbytecode m) (h2 m)
    have hcode := fun m => (hkeeps m).2
    simp only [flashCode_withSlot, hb.1.read] at hcode
    exact .inr (.inr ⟨empty_of_keepsCode (f := fun _ => none) (n := 0) hcode, (hkeeps .zero).1,
      .inl hdeclares⟩)
  have h2 := fun m => (hdeclare m).mpr hdeclares
  by_cases hl : FlashRelocationsLink s.publisher (flashCatalog s slotId flash flashOffset header)
    slotId flash flashOffset header
  case neg =>
    have hkeeps := fun m => (h m).unlinked (hbytecode m) (h2 m)
      (flashLinks_withSlot slotId s _ _ _ m ▸ hl)
    have hcode := fun m => (hkeeps m).2
    simp only [flashLinkedCode_withSlot, hb.1.read] at hcode
    have hf : FillsFields (fileAt (flashContent flash) flashOffset) (flashPatch s.publisher
        (flashCatalog s slotId flash flashOffset header) slotId flash flashOffset header) :=
      hheader ▸ flashPatch_fillsFields _ _ slotId
    obtain ⟨hempty, hfirst⟩ := unwritten_of_keepsCode hcode hl fun hempty q hq =>
      hf.field_low (hheader ▸ hempty) hq
    exact .inr (.inr ⟨hempty, (hkeeps .zero).1, .inr hfirst⟩)
  by_cases hsnap : SnapshotFits slotId header.totalSize ∧
    Readable flash flashOffset header.totalSize
  · exact .inl ⟨hb.1, hb.2, hdeclares, hl, hsnap.1, hsnap.2⟩
  · have hfailed := Bool.eq_false_iff.mpr fun hw =>
      hsnap ((flashSnapshot_withSlot slotId s _ _ _ .zero).mp hw)
    exact absurd ((h .zero).unsaved (hbytecode _) (h2 _)
      (flashLinks_withSlot slotId s _ _ _ .zero ▸ hl) hfailed).2.2.1 (not_keepsMetadata s slotId _)

theorem flashKeeps_of_takes (hslot : slotId < kPlcSlotCountV1)
    (htakes : FlashTakes s slotId flash flashOffset header) (m : SlotMemory) :
    FlashKeeps (s.withSlot slotId m) slotId flash flashOffset header := by
  have hb := (flashBytecode_withSlot slotId s flash flashOffset header m).mpr
    ⟨htakes.code, htakes.bytecode⟩
  refine ⟨fun hnot => absurd hb hnot, fun _ h2 => ?_, fun _ _ hl => ?_, fun _ _ _ hfailed => ?_⟩
  · rw [(flashDeclare_iff slotId s flash flashOffset header hslot m).mpr htakes.declares] at h2
    cases h2
  · rw [flashLinks_withSlot] at hl
    exact absurd htakes.links hl
  · rw [(flashSnapshot_withSlot slotId s flash flashOffset header m).mpr ⟨htakes.fits, htakes.file⟩]
      at hfailed
    cases hfailed

theorem flashKeeps_of_unread (hne : header.codeSize ≠ 0)
    (hpage : flash.readPage (pageBase (flashOffset + headerSize)) = none) (m : SlotMemory) :
    FlashKeeps (s.withSlot slotId m) slotId flash flashOffset header := by
  have hnone := flashReadBytes_unread hne hpage m.linkedCode
  have hb : ¬ FlashBytecode (s.withSlot slotId m) slotId flash flashOffset header := by
    intro hb
    have hread := hb.1
    rw [flashCode_withSlot, hnone] at hread
    cases hread
  refine ⟨fun _ => ?_, fun h => absurd h hb, fun h => absurd h hb, fun h => absurd h hb⟩
  rw [flashCode_withSlot, hnone]
  exact keepsCode_withSlot s slotId m

theorem flashKeeps_of_empty (hslot : slotId < kPlcSlotCountV1) (hempty : header.codeSize = 0)
    (hpresent : DeclaresPresent s.catalog slotId (fileDeclared s slotId flash flashOffset header))
    (hunwritten : ¬ Declarable s slotId (fileDeclared s slotId flash flashOffset header) ∨
      FirstRefused (flashPatch s.publisher (flashCatalog s slotId flash flashOffset header) slotId
        flash flashOffset header) header.relocationCount.toNat) (m : SlotMemory) :
    FlashKeeps (s.withSlot slotId m) slotId flash flashOffset header := by
  have hcode : (flashReadBytes flash (flashOffset + headerSize) m.linkedCode
      header.codeSize).1 = m.linkedCode := by
    rw [hempty, flashReadBytes_empty]
  have hb := (flashBytecode_withSlot slotId s flash flashOffset header m).mpr
    (by rw [hempty]; exact ⟨readable_empty .., rfl⟩)
  have hfirst (h2 : (flashDeclare (s.withSlot slotId m) slotId flash flashOffset header).2 = true) :=
    hunwritten.resolve_left
      (not_not_intro ((flashDeclare_iff slotId s flash flashOffset header hslot m).mp h2))
  refine ⟨fun hnot => absurd hb hnot, fun _ _ => ⟨hpresent, ?_⟩,
    fun _ h2 _ => ⟨hpresent, ?_⟩, fun _ h2 hl _ => ?_⟩
  · rw [flashCode_withSlot, hcode]
    exact keepsCode_withSlot s slotId m
  · rw [flashLinkedCode_withSlot, hcode, patchRun_firstRefused (hfirst h2)]
    exact keepsCode_withSlot s slotId m
  · rw [flashLinks_withSlot] at hl
    exact absurd hl (hfirst h2).not_links

/-- The flash path keeps every memory of the slot exactly if it takes the object or stops before it
writes. -/
theorem flashKeeps_all_iff (hslot : slotId < kPlcSlotCountV1)
    (hheader : header = readHeader (fileAt (flashContent flash) flashOffset)) :
    (∀ m, FlashKeeps (s.withSlot slotId m) slotId flash flashOffset header) ↔
      FlashTakes s slotId flash flashOffset header ∨ FlashStops s slotId flash flashOffset header := by
  refine ⟨takes_or_stops_of_flashKeeps hslot hheader, ?_⟩
  rintro (htakes | ⟨hne, hpage⟩ | ⟨hempty, hpresent, hunwritten⟩)
  · exact flashKeeps_of_takes hslot htakes
  · exact flashKeeps_of_unread hne hpage
  · exact flashKeeps_of_empty hslot hempty hpresent hunwritten

end

end

/-- Whatever the slot holds, a load from RAM or from flash that fails keeps it, exactly if the load
is refused by the first checks, takes the object, or stops before it writes into the slot. -/
theorem failedLoadKeeps_iff (s : LoaderState) (slotId : UInt16) :
    (∀ file size,
      (∀ m, FailedLoadKeeps (s.withSlot slotId m) slotId
        (loadObjectFileIntoSlot (s.withSlot slotId m) slotId file size)) ↔
      (RamAdmitted slotId file size →
        RamTakes s slotId file size ∨ RamStops s slotId file)) ∧
    ∀ flash flashOffset flashCapacity,
      (∀ m, FailedLoadKeeps (s.withSlot slotId m) slotId
        (loadObjectFileFromFlash (s.withSlot slotId m) slotId flash flashOffset flashCapacity)) ↔
      ∀ bytes, FlashAdmitted slotId flash flashOffset flashCapacity bytes →
        FlashTakes s slotId flash flashOffset (readHeader bytes) ∨
        FlashStops s slotId flash flashOffset (readHeader bytes) := by
  refine ⟨fun file size => ?_, fun flash flashOffset flashCapacity => ?_⟩
  · simp only [FailedLoadKeeps, ram_keeps_iff]
    constructor
    · exact fun h hadm => (ramKeeps_all_iff hadm.slot).mp fun m => h m hadm
    · exact fun h m hadm => (ramKeeps_all_iff hadm.slot).mpr (h hadm) m
  · simp only [FailedLoadKeeps, flash_keeps_iff]
    constructor
    · exact fun h bytes hadm => (flashKeeps_all_iff hadm.slot (flash_header hadm)).mp
        fun m => h m bytes hadm
    · exact fun h m bytes hadm => (flashKeeps_all_iff hadm.slot (flash_header hadm)).mpr
        (h bytes hadm) m

/-- Slot 0 holds the one-byte program `HALT`. -/
def haltLoaded : LoaderState :=
  LoaderState.boot.install 0 (fun _ => 0x00) ⟨1, 0, 0, 0, 0, 0, kPlcRuntimeHeaderAddr, 0, 0⟩

/-- A one-byte program `NOP` whose only relocation names a symbol the file does not have. -/
def unresolvedFile : List UInt8 :=
  [0x4F, 0x42, 0x4A, 0x31, 1, 0, 1, 0, 0, 0, 0, 0, 0x3D, 0, 0, 0, 1, 0, 0, 0, 0, 0, 0, 0, 0, 0,
   1, 0, 0x35, 0, 0, 0, 0x35, 0, 0, 0, 0, 0, 0, 0, 0, 0, 0, 0, 0, 0, 0, 0, 0x0C, 0xC1, 0x9C, 0xA7,
   1, 0, 0, 0, 0, 0, 0, 0, 0]

/-- The load is refused after the new code has replaced the program in the slot. -/
theorem unresolvedFile_not_keeps :
    ¬ FailedLoadKeeps haltLoaded 0
      (loadObjectFileIntoSlot haltLoaded 0 (ofBytes unresolvedFile) 61) := by
  intro h
  have hkept := h (by decide +kernel)
  have hcode := hkept.code 0 (by decide +kernel)
  exact absurd hcode (by decide +kernel)

end NodeNet.Loader

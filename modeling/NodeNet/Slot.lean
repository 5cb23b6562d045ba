import NodeNet.ObjectFile

/-! Slot memory: layout, control block, manifest, linked image and object snapshot. -/
namespace NodeNet.Slot
open NodeNet.Bytes NodeNet.ObjectFile

def sdramBase : UInt32 := 0x20000000

def sdramSize : UInt32 := 0x00800000

def kPlcSlotBytecodeRegionBaseV1 : UInt32 := sdramBase + 0x00130000

def kPlcSlotBytecodeRegionSizeV1 : UInt32 := 0x00040000

def kPlcSlotControlRegionBaseV1 : UInt32 := sdramBase + 0x00170000

def kPlcSlotControlRegionSizeV1 : UInt32 := 0x00010000

def kPlcSlotObjectRegionBaseV1 : UInt32 := sdramBase + 0x00180000

def kPlcSlotCountV1 : UInt16 := 16

def kPlcSlotBytecodeStrideV1 : UInt32 := kPlcSlotBytecodeRegionSizeV1 / kPlcSlotCountV1.toUInt32

def kPlcPackageSlotSize : UInt32 := 32 * 4096

def kPlcSlotObjectStrideV1 : UInt32 := kPlcPackageSlotSize + 256

def kPlcProgramControlBlockMagicV1 : UInt32 := 0x31424350

def kPlcLinkedImageMagicV1 : UInt32 := 0x31474D49

def kPlcObjectSnapshotMagicV1 : UInt32 := 0x3146534F

def kPlcSlotDirectoryMagicV1 : UInt32 := 0x31524453

def kPlcSlotStackSizeBytesV1 : UInt32 := 1024

def kPlcSlotTimerSizeBytesV1 : UInt32 := 512

def kPlcSlotParamsSizeBytesV1 : UInt32 := 256

def kPlcSlotScratchSizeBytesV1 : UInt32 := 512

def kPlcSlotStackEntryBytesV1 : UInt32 := 8

def kPlcSlotTimerEntryBytesV1 : UInt32 := 16

def kPlcRuntimeHeaderAddr : UInt32 := sdramBase + 0x00100000

def kPlcSlotControlPausedV1 : UInt32 := 1

def kPlcSlotStatusLoadedV1 : UInt32 := 1

def kPlcSlotStatusRunningV1 : UInt32 := 2

def kPlcSlotStatusFaultedV1 : UInt32 := 0x80000000

structure PlcProgramControlBlockV1 where
  magic : UInt32
  version : UInt16
  slotId : UInt16
  control : UInt32
  status : UInt32
  pc : UInt32
  cycleCounter : UInt32
  faultCode : UInt32
  faultInfo : UInt32
  bytecodeBase : UInt32
  bytecodeSize : UInt32
  stackBase : UInt32
  stackSize : UInt32
  timerBase : UInt32
  timerCount : UInt32
  maxInstructionsPerScan : UInt32
  maxScanTimeUs : UInt32
  paramsBase : UInt32
  paramsSize : UInt32
  deriving DecidableEq

structure PlcLinkedImageHeaderV1 where
  magic : UInt32
  version : UInt16
  slotId : UInt16
  flags : UInt32
  codeSize : UInt32
  entryOffset : UInt32
  symbolCount : UInt16
  relocationCount : UInt16
  runtimeHeaderAddr : UInt32
  linkedCodeChecksum : UInt32
  paramsSize : UInt32
  deriving DecidableEq

structure PlcObjectSnapshotHeaderV1 where
  magic : UInt32
  version : UInt16
  slotId : UInt16
  flags : UInt32
  objectSize : UInt32
  objectChecksum : UInt32
  deriving DecidableEq

structure PlcSlotDirectoryHeaderV1 where
  magic : UInt32
  version : UInt16
  slotCount : UInt16
  entrySize : UInt16
  flags : UInt16
  directoryEpoch : UInt32
  deriving DecidableEq

structure PlcSlotManifestV1 where
  slotId : UInt16
  version : UInt16
  status : UInt32
  flags : UInt32
  controlBlockAddr : UInt32
  linkedImageHeaderAddr : UInt32
  linkedCodeAddr : UInt32
  linkedCodeSize : UInt32
  stackBase : UInt32
  stackSize : UInt32
  timerBase : UInt32
  timerCount : UInt32
  paramsBase : UInt32
  paramsSize : UInt32
  scratchBase : UInt32
  scratchSize : UInt32
  runtimeHeaderAddr : UInt32
  linkedCodeChecksum : UInt32
  loadEpoch : UInt32
  deriving DecidableEq

structure PlcSlotLayoutV1 where
  linkedImageHeaderAddr : UInt32
  linkedCodeAddr : UInt32
  linkedCodeCapacity : UInt32
  stackBase : UInt32
  stackSize : UInt32
  timerBase : UInt32
  timerSize : UInt32
  paramsBase : UInt32
  paramsCapacity : UInt32
  scratchBase : UInt32
  scratchSize : UInt32
  deriving DecidableEq

/-- What the firmware keeps in shared memory for one slot. Code addresses are relative to
`linkedCodeAddr`, snapshot addresses to the snapshot's data. -/
structure SlotMemory where
  linkedHeader : PlcLinkedImageHeaderV1
  linkedCode : Memory
  control : PlcProgramControlBlockV1
  manifest : PlcSlotManifestV1
  stack : Memory
  timers : Memory
  params : Memory
  scratch : Memory
  snapshotHeader : PlcObjectSnapshotHeaderV1
  snapshotData : Memory

def PlcProgramControlBlockV1.zero : PlcProgramControlBlockV1 :=
  ⟨0, 0, 0, 0, 0, 0, 0, 0, 0, 0, 0, 0, 0, 0, 0, 0, 0, 0, 0⟩

def PlcLinkedImageHeaderV1.zero : PlcLinkedImageHeaderV1 := ⟨0, 0, 0, 0, 0, 0, 0, 0, 0, 0, 0⟩

def PlcObjectSnapshotHeaderV1.zero : PlcObjectSnapshotHeaderV1 := ⟨0, 0, 0, 0, 0, 0⟩

def PlcSlotManifestV1.zero : PlcSlotManifestV1 :=
  ⟨0, 0, 0, 0, 0, 0, 0, 0, 0, 0, 0, 0, 0, 0, 0, 0, 0, 0, 0⟩

def SlotMemory.zero : SlotMemory :=
  ⟨.zero, fun _ => 0, .zero, .zero, fun _ => 0, fun _ => 0, fun _ => 0, fun _ => 0, .zero,
    fun _ => 0⟩

def alignUp (value alignment : UInt32) : UInt32 := (value + (alignment - 1)) &&& ~~~(alignment - 1)

def slotBytecodeAddress (slotId : UInt16) : UInt32 :=
  kPlcSlotBytecodeRegionBaseV1 + slotId.toUInt32 * kPlcSlotBytecodeStrideV1

def slotManifestTableBase : UInt32 := kPlcSlotControlRegionBaseV1 + 16

def slotManifestAddress (slotId : UInt16) : UInt32 := slotManifestTableBase + slotId.toUInt32 * 72

def slotControlBlockRegionBase : UInt32 :=
  alignUp (slotManifestTableBase + kPlcSlotCountV1.toUInt32 * 72) 16

def slotControlAddress (slotId : UInt16) : UInt32 :=
  slotControlBlockRegionBase + slotId.toUInt32 * 72

def slotObjectSnapshotCapacity : UInt32 := kPlcSlotObjectStrideV1 - 20

def slotLayout (slotId : UInt16) : PlcSlotLayoutV1 :=
  let slotBase := slotBytecodeAddress slotId
  let slotLimit := slotBase + kPlcSlotBytecodeStrideV1
  let linkedCodeAddr := alignUp (slotBase + 36) 16
  let scratchBase := slotLimit - kPlcSlotScratchSizeBytesV1
  let paramsBase := scratchBase - kPlcSlotParamsSizeBytesV1
  let timerBase := paramsBase - kPlcSlotTimerSizeBytesV1
  let stackBase := timerBase - kPlcSlotStackSizeBytesV1
  { linkedImageHeaderAddr := slotBase
    linkedCodeAddr := linkedCodeAddr
    linkedCodeCapacity := stackBase - linkedCodeAddr
    stackBase := stackBase
    stackSize := kPlcSlotStackSizeBytesV1
    timerBase := timerBase
    timerSize := kPlcSlotTimerSizeBytesV1
    paramsBase := paramsBase
    paramsCapacity := kPlcSlotParamsSizeBytesV1
    scratchBase := scratchBase
    scratchSize := kPlcSlotScratchSizeBytesV1 }

/-- The regions lie in the SDRAM, past the runtime descriptors. -/
def regionAvailable : Bool :=
  let sdramLimit := sdramBase + sdramSize
  let controlLimit := kPlcSlotControlRegionBaseV1 + kPlcSlotControlRegionSizeV1
  let controlBlockLimit := slotControlBlockRegionBase + kPlcSlotCountV1.toUInt32 * 72
  sdramBase + 0x00100100 + 0x00010000 ≤ kPlcSlotBytecodeRegionBaseV1 &&
    kPlcSlotBytecodeRegionBaseV1 + kPlcSlotBytecodeRegionSizeV1 ≤ sdramLimit &&
    kPlcSlotObjectRegionBaseV1 + kPlcSlotCountV1.toUInt32 * kPlcSlotObjectStrideV1 ≤ sdramLimit &&
    controlBlockLimit ≤ controlLimit && controlLimit ≤ sdramLimit

/-- What `writeLoadedSlotMetadata` is told about the loaded program. -/
structure LoadedProgram where
  codeSize : UInt32
  entryOffset : UInt32
  symbolCount : UInt16
  relocationCount : UInt16
  maxInstructionsPerScan : UInt32
  maxScanTimeUs : UInt32
  runtimeHeaderAddr : UInt32
  runtimeStoreEpoch : UInt32
  linkedCodeChecksum : UInt32
  deriving DecidableEq

def loadedLinkedHeader (slotId : UInt16) (l : LoadedProgram) : PlcLinkedImageHeaderV1 where
  magic := kPlcLinkedImageMagicV1
  version := kPlcRuntimeAbiV1Version
  slotId := slotId
  flags := 0
  codeSize := l.codeSize
  entryOffset := l.entryOffset
  symbolCount := l.symbolCount
  relocationCount := l.relocationCount
  runtimeHeaderAddr := l.runtimeHeaderAddr
  linkedCodeChecksum := l.linkedCodeChecksum
  paramsSize := 0

def loadedManifest (slotId : UInt16) (l : LoadedProgram) : PlcSlotManifestV1 :=
  let layout := slotLayout slotId
  { slotId := slotId
    version := kPlcRuntimeAbiV1Version
    status := kPlcSlotStatusLoadedV1
    flags := 0
    controlBlockAddr := slotControlAddress slotId
    linkedImageHeaderAddr := layout.linkedImageHeaderAddr
    linkedCodeAddr := layout.linkedCodeAddr
    linkedCodeSize := l.codeSize
    stackBase := layout.stackBase
    stackSize := layout.stackSize / kPlcSlotStackEntryBytesV1
    timerBase := layout.timerBase
    timerCount := layout.timerSize / kPlcSlotTimerEntryBytesV1
    paramsBase := layout.paramsBase
    paramsSize := 0
    scratchBase := layout.scratchBase
    scratchSize := layout.scratchSize
    runtimeHeaderAddr := l.runtimeHeaderAddr
    linkedCodeChecksum := l.linkedCodeChecksum
    loadEpoch := l.runtimeStoreEpoch }

def loadedControlBlock (slotId : UInt16) (l : LoadedProgram) : PlcProgramControlBlockV1 :=
  let layout := slotLayout slotId
  { magic := kPlcProgramControlBlockMagicV1
    version := kPlcRuntimeAbiV1Version
    slotId := slotId
    control := 0
    status := kPlcSlotStatusLoadedV1
    pc := l.entryOffset
    cycleCounter := 0
    faultCode := 0
    faultInfo := 0
    bytecodeBase := layout.linkedCodeAddr
    bytecodeSize := l.codeSize
    stackBase := layout.stackBase
    stackSize := layout.stackSize / kPlcSlotStackEntryBytesV1
    timerBase := layout.timerBase
    timerCount := layout.timerSize / kPlcSlotTimerEntryBytesV1
    maxInstructionsPerScan := l.maxInstructionsPerScan
    maxScanTimeUs := l.maxScanTimeUs
    paramsBase := layout.paramsBase
    paramsSize := 0 }

def SlotMemory.writeLoadedSlotMetadata (m : SlotMemory) (slotId : UInt16) (l : LoadedProgram) :
    SlotMemory :=
  { m with
    linkedHeader := loadedLinkedHeader slotId l
    manifest := loadedManifest slotId l
    control := loadedControlBlock slotId l
    stack := fun _ => 0
    timers := fun _ => 0
    params := fun _ => 0
    scratch := fun _ => 0 }

def loadedDirectory (runtimeStoreEpoch : UInt32) : PlcSlotDirectoryHeaderV1 where
  magic := kPlcSlotDirectoryMagicV1
  version := kPlcRuntimeAbiV1Version
  slotCount := kPlcSlotCountV1
  entrySize := 72
  flags := 0
  directoryEpoch := runtimeStoreEpoch

def loadedSnapshotHeader (slotId : UInt16) (objectSize objectChecksum : UInt32) :
    PlcObjectSnapshotHeaderV1 where
  magic := kPlcObjectSnapshotMagicV1
  version := kPlcRuntimeAbiV1Version
  slotId := slotId
  flags := 0
  objectSize := objectSize
  objectChecksum := objectChecksum

def objectSnapshotHeaderValid (h : PlcObjectSnapshotHeaderV1) (slotId : UInt16) : Bool :=
  h.magic = kPlcObjectSnapshotMagicV1 && h.version = kPlcRuntimeAbiV1Version &&
    h.slotId = slotId && headerSize ≤ h.objectSize && h.objectSize ≤ slotObjectSnapshotCapacity

def SnapshotFits (slotId : UInt16) (objectSize : UInt32) : Prop :=
  slotId < kPlcSlotCountV1 ∧ headerSize ≤ objectSize ∧ objectSize ≤ slotObjectSnapshotCapacity

instance (slotId : UInt16) (objectSize : UInt32) : Decidable (SnapshotFits slotId objectSize) :=
  inferInstanceAs (Decidable (_ ∧ _ ∧ _))

def SlotMemory.writeObjectFileSnapshot (m : SlotMemory) (slotId : UInt16) (file : Memory)
    (objectSize : UInt32) : SlotMemory × Bool :=
  if SnapshotFits slotId objectSize then
    ({ m with
      snapshotData := copy m.snapshotData 0 file 0 objectSize.toNat
      snapshotHeader :=
        loadedSnapshotHeader slotId objectSize (checksum32 file 0 objectSize) }, true)
  else (m, false)

theorem regionAvailable_eq : regionAvailable = true := by decide +kernel

theorem linkedCodeCapacity_eq {slotId : UInt16} (h : slotId < kPlcSlotCountV1) :
    (slotLayout slotId).linkedCodeCapacity = 14032 := by
  have hall : ∀ n < 16, (slotLayout (UInt16.ofNat n)).linkedCodeCapacity = 14032 := by
    decide +kernel
  simpa using hall slotId.toNat (UInt16.lt_iff_toNat_lt.mp h)

end NodeNet.Slot

import NodeNet.Package

/-! Restoring the program slots from the flash package after a reboot. -/
namespace NodeNet.Package
open NodeNet.Bytes NodeNet.Flash NodeNet.ObjectFile NodeNet.Catalog NodeNet.Publisher
open NodeNet.Slot NodeNet.Loader

@[irreducible] def slotIds : List UInt16 := (List.range kPlcSlotCountV1.toNat).map UInt16.ofNat

theorem mem_slotIds {slotId : UInt16} : slotId ∈ slotIds ↔ slotId < kPlcSlotCountV1 := by
  rw [slotIds, List.mem_map]
  constructor
  · intro h
    obtain ⟨i, hi, rfl⟩ := h
    rw [List.mem_range] at hi
    have h16 : kPlcSlotCountV1.toNat = 16 := rfl
    rw [UInt16.lt_iff_toNat_lt, UInt16.toNat_ofNat_of_lt' (by simp [UInt16.size]; omega)]
    exact hi
  · intro h
    exact ⟨slotId.toNat, List.mem_range.mpr (UInt16.lt_iff_toNat_lt.mp h), UInt16.ofNat_toNat⟩

theorem slotIds_nodup : slotIds.Nodup := by decide +kernel

def packageHeaderAccepted (h : PlcFlashPackageHeader) : Bool :=
  h.magic = kPlcFlashPackageMagic && h.version = kPlcFlashPackageVersion &&
    h.slotCount = kPlcSlotCountV1 && h.entrySize = packageEntrySize.toUInt16 &&
    packageEntrySize * kPlcSlotCountV1.toUInt32 ≤ h.payloadSize &&
    h.payloadSize ≤ kPlcFlashPackageSize - packageHeaderSize

/-- The payload behind the header: the entries, then the objects. -/
structure PackagePayload where
  header : PlcFlashPackageHeader
  bytes : Memory

/-- The staging buffer after the payload was read into it, and the header of a package that
restore goes on with. -/
def readPackage (flash : FlashDriver) (staging : Memory) : Memory × Option PlcFlashPackageHeader :=
  match flashReadBytes flash kPlcFlashPackageBase (fun _ => 0) packageHeaderSize with
  | (_, false) => (staging, none)
  | (headerBytes, true) =>
    let header := readPackageHeader headerBytes
    -- an accepted payload fits into the staging buffer
    if !packageHeaderAccepted header then (staging, none)
    else
      match flashReadBytes flash (kPlcFlashPackageBase + packageHeaderSize) staging
        header.payloadSize with
      | (payload, false) => (payload, none)
      | (payload, true) =>
        (payload, if checksum32 payload 0 header.payloadSize = header.payloadChecksum then
          some header else none)

/-- The checks on an entry that is marked present. -/
def entryAccepted (header : PlcFlashPackageHeader) (entry : PlcFlashPackageEntry)
    (slotId : UInt16) : Bool :=
  let payloadEnd := packageHeaderSize + header.payloadSize
  entry.flags &&& kPlcFlashPackageEntryPresent ≠ 0 && entry.slotId = slotId &&
    headerSize ≤ entry.objectSize && objectsBase ≤ entry.objectOffset &&
    entry.objectOffset ≤ payloadEnd && entry.objectSize ≤ payloadEnd - entry.objectOffset

def payloadEntry (payload : PackagePayload) (slotId : UInt16) : PlcFlashPackageEntry :=
  readPackageEntry payload.bytes (slotId.toUInt32 * packageEntrySize)

def payloadObject (payload : PackagePayload) (entry : PlcFlashPackageEntry) : Memory :=
  fun d => payload.bytes (entry.objectOffset - packageHeaderSize + d)

/-- The snapshot of a slot whose entry is accepted, and whether it was staged. -/
def stagePayload (payload : PackagePayload) (m : SlotMemory) (slotId : UInt16) :
    SlotMemory × Bool :=
  let entry := payloadEntry payload slotId
  if entryAccepted payload.header entry slotId then
    m.writeObjectFileSnapshot slotId (payloadObject payload entry) entry.objectSize
  else (m, false)

def presentSlots (payload : PackagePayload) (s : LoaderState) (slots : List UInt16) :
    List UInt16 :=
  slots.filter fun slotId => (stagePayload payload (s.slots slotId) slotId).2

def stageSlots (payload : PackagePayload) (s : LoaderState) (slots : List UInt16) : LoaderState :=
  slots.foldl (fun s slotId =>
    s.updateSlot slotId fun m => (stagePayload payload m slotId).1) s

/-- A pass over the staged slots: the memory, what each call of the loader was for, and how many
of the calls succeeded. -/
structure RestorePass where
  mem : LoaderState
  loads : List (UInt16 × List UInt8)
  restoredCount : UInt16

/-- Load a staged slot from its snapshot. -/
def restoreSlot (pass : RestorePass) (slotId : UInt16) : RestorePass :=
  let m := pass.mem.slots slotId
  if objectSnapshotHeaderValid m.snapshotHeader slotId then
    let (mem, result) := loadObjectFileIntoSlot pass.mem slotId m.snapshotData
      m.snapshotHeader.objectSize
    { mem := mem
      loads := pass.loads ++
        [(slotId, bytesAt m.snapshotData 0 m.snapshotHeader.objectSize.toNat)]
      restoredCount := if result.status = .Ok then pass.restoredCount + 1 else pass.restoredCount }
  else pass

def restorePass (mem : LoaderState) (slots : List UInt16) : RestorePass :=
  slots.foldl restoreSlot ⟨mem, [], 0⟩

/-- What restore did to the slots, and the calls of the loader in both of its passes. -/
structure RestoredSlots where
  mem : LoaderState
  present : List UInt16
  loads : List (UInt16 × List UInt8)
  restoredCount : UInt16

/-- Publish the catalog; the publisher is always ready, so the result is ignored. -/
def syncPlcRuntimeDefinitions (s : LoaderState) : LoaderState :=
  match s.publisher.publish s.catalog with
  | none => s
  | some publisher => { s with publisher := publisher }

theorem syncPlcRuntimeDefinitions_slots (s : LoaderState) :
    (syncPlcRuntimeDefinitions s).slots = s.slots := by
  rw [syncPlcRuntimeDefinitions]
  split <;> rfl

/-- Stage every slot of the package, load them, publish the catalog and load them again. -/
def restoreSlots (payload : PackagePayload) (s : LoaderState) : RestoredSlots :=
  let present := presentSlots payload s slotIds
  let first := restorePass (stageSlots payload s slotIds) present
  let second := restorePass (syncPlcRuntimeDefinitions first.mem) present
  ⟨second.mem, present, first.loads ++ second.loads, first.restoredCount⟩

/-- The boot clears the control region and the headers of the snapshots. -/
def clearVolatileState (s : LoaderState) : LoaderState :=
  { s with
    directory := ⟨0, 0, 0, 0, 0, 0⟩
    slots := fun i =>
      { s.slots i with
        control := .zero
        manifest := .zero
        snapshotHeader := .zero } }

end NodeNet.Package

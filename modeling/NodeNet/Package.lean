import NodeNet.Lib.LittleEndian
import NodeNet.Lib.Nor
import NodeNet.Loader

/-! The flash package of program slots: how it is built, saved and read back. -/
namespace NodeNet.Package
open NodeNet.Bytes NodeNet.Checks NodeNet.Nor NodeNet.Flash NodeNet.ObjectFile NodeNet.Slot
open NodeNet.Loader

def kPlcFlashPackageMagic : UInt32 := 0x314B4C50

def kPlcFlashPackageVersion : UInt32 := 1

def kPlcFlashPackageBase : UInt32 := 0x204000

def kPlcFlashPackageSize : UInt32 := 32 * 4096

def kPlcFlashPackageEntryPresent : UInt32 := 1

def kSectorSize : UInt32 := 4096

/-- `sizeof(PlcFlashPackageHeader)` and `sizeof(PlcFlashPackageEntry)`. -/
def packageHeaderSize : UInt32 := 28

def packageEntrySize : UInt32 := 20

structure PlcFlashPackageHeader where
  magic : UInt32
  version : UInt32
  slotCount : UInt16
  entrySize : UInt16
  payloadSize : UInt32
  payloadChecksum : UInt32
  flags : UInt32
  packageEpoch : UInt32
  deriving DecidableEq

structure PlcFlashPackageEntry where
  slotId : UInt16
  reserved : UInt16
  flags : UInt32
  objectOffset : UInt32
  objectSize : UInt32
  objectChecksum : UInt32
  deriving DecidableEq

def PlcFlashPackageHeader.bytes (h : PlcFlashPackageHeader) : List UInt8 :=
  le32 h.magic ++ le32 h.version ++ le16 h.slotCount ++ le16 h.entrySize ++
    le32 h.payloadSize ++ le32 h.payloadChecksum ++ le32 h.flags ++ le32 h.packageEpoch

def PlcFlashPackageEntry.bytes (e : PlcFlashPackageEntry) : List UInt8 :=
  le16 e.slotId ++ le16 e.reserved ++ le32 e.flags ++ le32 e.objectOffset ++
    le32 e.objectSize ++ le32 e.objectChecksum

def readPackageHeader (m : Memory) : PlcFlashPackageHeader where
  magic := word32 m 0
  version := word32 m 4
  slotCount := word16 m 8
  entrySize := word16 m 10
  payloadSize := word32 m 12
  payloadChecksum := word32 m 16
  flags := word32 m 20
  packageEpoch := word32 m 24

def readPackageEntry (m : Memory) (a : UInt32) : PlcFlashPackageEntry where
  slotId := word16 m a
  reserved := word16 m (a + 2)
  flags := word32 m (a + 4)
  objectOffset := word32 m (a + 8)
  objectSize := word32 m (a + 12)
  objectChecksum := word32 m (a + 16)

def entryAddr (slotId : UInt16) : UInt32 := packageHeaderSize + slotId.toUInt32 * packageEntrySize

def objectsBase : UInt32 := packageHeaderSize + packageEntrySize * kPlcSlotCountV1.toUInt32

/-- The object that replaces a slot's snapshot in the package; without bytes the slot is left
out. An identifier past the last slot replaces none. -/
structure PackageOverride where
  slotId : UInt16
  objectBytes : Option Memory
  objectSize : UInt32

structure PackedObject where
  bytes : Memory
  size : UInt32
  checksum : UInt32

/-- What the package takes for a slot; an error is a refused override. -/
def packedObject (s : LoaderState) (override : PackageOverride) (slotId : UInt16) :
    Except Unit (Option PackedObject) :=
  let snapshot : Option PackedObject :=
    let header := (s.slots slotId).snapshotHeader
    if objectSnapshotHeaderValid header slotId then
      some ⟨(s.slots slotId).snapshotData, header.objectSize, header.objectChecksum⟩
    else none
  if slotId = override.slotId then
    match override.objectBytes with
    | none => .ok none
    | some bytes =>
      let header := readHeader bytes
      if override.objectSize < headerSize ∨ slotObjectSnapshotCapacity < override.objectSize ∨
          header.magic ≠ kPlcObjectFileMagicV1 ∨ header.version ≠ kPlcObjectFileVersionV1 ∨
          header.totalSize ≠ override.objectSize then .error ()
      else .ok (some ⟨bytes, override.objectSize, header.objectChecksum⟩)
  else .ok snapshot

/-- The image so far, where the next object goes and how many there are. -/
structure PackageImage where
  bytes : Memory
  writeOffset : UInt32
  persistedSlotCount : UInt32

/-- One iteration of the slot loop; an error is the early return, with the buffer it leaves. -/
def packSlot (s : LoaderState) (override : PackageOverride) (i : Nat) (p : PackageImage) :
    Except Memory PackageImage :=
  let slotId := UInt16.ofNat i
  let p := { p with bytes := patch p.bytes (entryAddr slotId) (le16 slotId) }
  match packedObject s override slotId with
  | .error _ => .error p.bytes
  | .ok none => .ok p
  | .ok (some object) =>
    if kPlcFlashPackageSize < p.writeOffset ∨
        kPlcFlashPackageSize - p.writeOffset < object.size then .error p.bytes
    else
      let bytes := copy p.bytes p.writeOffset object.bytes 0 object.size.toNat
      .ok {
        bytes := patch bytes (entryAddr slotId + 4)
          (le32 kPlcFlashPackageEntryPresent ++ le32 p.writeOffset ++ le32 object.size ++
            le32 object.checksum)
        writeOffset := p.writeOffset + object.size
        persistedSlotCount := p.persistedSlotCount + 1 }

def packageHeader (s : LoaderState) (p : PackageImage) : PlcFlashPackageHeader where
  magic := kPlcFlashPackageMagic
  version := kPlcFlashPackageVersion
  slotCount := kPlcSlotCountV1
  entrySize := packageEntrySize.toUInt16
  payloadSize := p.writeOffset - packageHeaderSize
  payloadChecksum := checksum32 p.bytes packageHeaderSize (p.writeOffset - packageHeaderSize)
  flags := p.persistedSlotCount
  packageEpoch := s.publisher.storeEpoch

/-- The buffer erased as the flash is, before the first slot. -/
def emptyPackage (staging : Memory) : PackageImage where
  bytes := fun x => if x < kPlcFlashPackageSize then 0xFF else staging x
  writeOffset := objectsBase
  persistedSlotCount := 0

/-- The package built in the staging buffer; an error leaves the buffer as it is then. -/
def buildPackage (s : LoaderState) (override : PackageOverride) (staging : Memory) :
    Except Memory PackageImage :=
  match forLoop (packSlot s override) 0 kPlcSlotCountV1.toNat (emptyPackage staging) with
  | .error bytes => .error bytes
  | .ok p => .ok { p with bytes := patch p.bytes 0 (packageHeader s p).bytes }

/-- The sector erases, first to last. -/
def flashEraseRange (flashOffset size : UInt32) : List Op :=
  (List.range (size.toNat / kSectorSize.toNat)).map fun i =>
    .erase (flashOffset + UInt32.ofNat i * kSectorSize) kSectorSize.toNat

/-- The page that `flash_write_erased_bytes` programs: its chunk, and ones around it. -/
def erasedPage (data : Memory) (pageOffset consumed : UInt32) (chunk : Nat) : Memory :=
  copy (fun _ => 0xFF) pageOffset data consumed chunk

/-- The page programs of `len` bytes from `consumed` on; the fuel bounds their number. -/
def flashWriteLoop (data : Memory) (len firstPageOffset : UInt32) :
    Nat → UInt32 → UInt32 → List Op
  | 0, _, _ => []
  | fuel + 1, consumed, pageBase =>
    if consumed < len then
      let pageOffset := if consumed = 0 then firstPageOffset else 0
      let chunk := if len - consumed < kPageSize - pageOffset then len - consumed
        else kPageSize - pageOffset
      .program pageBase kPageSize.toNat (erasedPage data pageOffset consumed chunk.toNat) ::
        flashWriteLoop data len firstPageOffset fuel (consumed + chunk) (pageBase + kPageSize)
    else []

def flashWriteErasedBytes (base : UInt32) (data : Memory) (len : UInt32) : List Op :=
  flashWriteLoop data len (base - pageBase base) len.toNat 0 (pageBase base)

/-- What a save leaves: the staging buffer, the flash and the returned flag. -/
structure SavedPackage where
  staging : Memory
  flash : Memory
  ok : Bool

/-- The override's bytes are never those of the staging buffer itself. -/
def savePersistedPlcSlotsPackage (s : LoaderState) (override : PackageOverride)
    (staging flash : Memory) (faults : Faults) : SavedPackage :=
  match buildPackage s override staging with
  | .error bytes => ⟨bytes, flash, false⟩
  | .ok p =>
    let (flash, ok) := perform faults 0
      (flashEraseRange kPlcFlashPackageBase kPlcFlashPackageSize ++
        flashWriteErasedBytes kPlcFlashPackageBase p.bytes p.writeOffset) flash
    ⟨p.bytes, flash, ok⟩

end NodeNet.Package

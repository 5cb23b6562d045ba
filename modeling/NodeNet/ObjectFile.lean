import NodeNet.Lib.Bytes
import NodeNet.Lib.Checks
import NodeNet.Lib.Fnv
import NodeNet.Points

/-! The object file format: header, symbol and relocation records, and `parseObjectFile`. -/
namespace NodeNet.ObjectFile
open NodeNet.Bytes NodeNet.Checks NodeNet.Points

def kPlcObjectFileMagicV1 : UInt32 := 0x314A424F

def kPlcObjectFileVersionV1 : UInt16 := 1

def kPlcRuntimeAbiV1Version : UInt16 := 1

/-- `sizeof(PlcObjectFileHeaderV1)`; the code section starts here. -/
def headerSize : UInt32 := 52

def symbolSize : UInt32 := 102

def relocationSize : UInt32 := 8

structure PlcObjectFileHeaderV1 where
  magic : UInt32
  version : UInt16
  abiVersion : UInt16
  flags : UInt32
  totalSize : UInt32
  codeSize : UInt32
  entryOffset : UInt32
  symbolCount : UInt16
  relocationCount : UInt16
  symbolTableOffset : UInt32
  relocationTableOffset : UInt32
  maxInstructionsPerScan : UInt32
  maxScanTimeUs : UInt32
  runtimeHeaderAddr : UInt32
  objectChecksum : UInt32
  deriving DecidableEq

structure PlcObjectSymbolRecordV1 where
  symbolName : Text
  symbolKind : UInt8
  reserved1 : UInt8
  pointId : PointIdentity
  expectedType : UInt8
  access : UInt8
  deriving DecidableEq

structure PlcObjectRelocationRecordV1 where
  codeOffset : UInt32
  symbolIndex : UInt16
  relocationKind : UInt8
  deriving DecidableEq

def readHeader (file : Memory) : PlcObjectFileHeaderV1 where
  magic := word32 file 0
  version := word16 file 4
  abiVersion := word16 file 6
  flags := word32 file 8
  totalSize := word32 file 12
  codeSize := word32 file 16
  entryOffset := word32 file 20
  symbolCount := word16 file 24
  relocationCount := word16 file 26
  symbolTableOffset := word32 file 28
  relocationTableOffset := word32 file 32
  maxInstructionsPerScan := word32 file 36
  maxScanTimeUs := word32 file 40
  runtimeHeaderAddr := word32 file 44
  objectChecksum := word32 file 48

-- The string functions stop at a zero, not at the end of a record's field.
def readPointIdentity (m : Memory) (a : UInt32) : PointIdentity where
  deviceId := cstring m a 80
  feature := cstring m (a + 16) 64
  pointId := cstring m (a + 48) 32

def readSymbol (m : Memory) (a : UInt32) : PlcObjectSymbolRecordV1 where
  symbolName := cstring m a 102
  symbolKind := m (a + 16)
  reserved1 := m (a + 17)
  pointId := readPointIdentity m (a + 18)
  expectedType := m (a + 98)
  access := m (a + 99)

def readRelocation (m : Memory) (a : UInt32) : PlcObjectRelocationRecordV1 where
  codeOffset := word32 m a
  symbolIndex := word16 m (a + 4)
  relocationKind := m (a + 6)

def symbolAddr (header : PlcObjectFileHeaderV1) (i : UInt16) : UInt32 :=
  header.symbolTableOffset + i.toUInt32 * symbolSize

def relocationAddr (header : PlcObjectFileHeaderV1) (i : UInt16) : UInt32 :=
  header.relocationTableOffset + i.toUInt32 * relocationSize

/-- Pointers into the file become functions of the offset or the record index. -/
structure PlcObjectImageV1 where
  codeBytes : Memory
  codeSize : UInt32
  entryOffset : UInt32
  symbols : UInt16 → PlcObjectSymbolRecordV1
  symbolCount : UInt16
  relocations : UInt16 → PlcObjectRelocationRecordV1
  relocationCount : UInt16

inductive PlcObjectParseStatusV1 where
  | HeaderOutOfRange | BadMagic | BadVersion | CodeOutOfRange | EntryOffsetOutOfRange
  | SymbolTableOutOfRange | RelocationTableOutOfRange
  deriving DecidableEq

structure PlcObjectParseResultV1 where
  header : PlcObjectFileHeaderV1
  objectImage : PlcObjectImageV1

def checksum32 (m : Memory) (a : UInt32) (n : UInt32) : UInt32 := Fnv.hash (bytesAt m a n.toNat)

def imageOf (file : Memory) (header : PlcObjectFileHeaderV1) : PlcObjectImageV1 where
  codeBytes := fun x => file (headerSize + x)
  codeSize := header.codeSize
  entryOffset := header.entryOffset
  symbols := fun i => readSymbol file (symbolAddr header i)
  symbolCount := header.symbolCount
  relocations := fun i => readRelocation file (relocationAddr header i)
  relocationCount := header.relocationCount

def parseObjectFile (file : Memory) (objectFileSize : UInt32) :
    Except PlcObjectParseStatusV1 PlcObjectParseResultV1 :=
  if objectFileSize < headerSize then .error .HeaderOutOfRange
  else
    let header := readHeader file
    if header.magic ≠ kPlcObjectFileMagicV1 then .error .BadMagic
    else if header.version ≠ kPlcObjectFileVersionV1 then .error .BadVersion
    else if header.abiVersion ≠ kPlcRuntimeAbiV1Version then .error .BadVersion
    else if header.totalSize < headerSize ∨ objectFileSize < header.totalSize then
      .error .HeaderOutOfRange
    else if header.codeSize < header.entryOffset then .error .EntryOffsetOutOfRange
    else if header.totalSize < headerSize + header.codeSize then .error .CodeOutOfRange
    else if header.totalSize < symbolAddr header header.symbolCount then
      .error .SymbolTableOutOfRange
    else if header.totalSize < relocationAddr header header.relocationCount then
      .error .RelocationTableOutOfRange
    else if checksum32 file headerSize (header.totalSize - headerSize) ≠ header.objectChecksum then
      .error .BadMagic
    else .ok ⟨header, imageOf file header⟩

/-- The interval of `len` bytes at `off` lies in the payload, without any wrap. -/
def InPayload (header : PlcObjectFileHeaderV1) (off len : Nat) : Prop :=
  headerSize.toNat ≤ off ∧ off + len ≤ header.totalSize.toNat

structure WellFormed (file : Memory) (size : UInt32) : Prop where
  header_fits : headerSize.toNat ≤ size.toNat
  magic : (readHeader file).magic = kPlcObjectFileMagicV1
  version : (readHeader file).version = kPlcObjectFileVersionV1
  abi : (readHeader file).abiVersion = kPlcRuntimeAbiV1Version
  total : (readHeader file).totalSize.toNat ≤ size.toNat
  entry : (readHeader file).entryOffset.toNat ≤ (readHeader file).codeSize.toNat
  code : InPayload (readHeader file) headerSize.toNat (readHeader file).codeSize.toNat
  symbols : InPayload (readHeader file) (readHeader file).symbolTableOffset.toNat
    ((readHeader file).symbolCount.toNat * symbolSize.toNat)
  relocations : InPayload (readHeader file) (readHeader file).relocationTableOffset.toNat
    ((readHeader file).relocationCount.toNat * relocationSize.toNat)
  checksum : checksum32 file headerSize ((readHeader file).totalSize - headerSize) =
    (readHeader file).objectChecksum

/-- None of the three section ends exceeds 32 bits. -/
structure EndsFit (header : PlcObjectFileHeaderV1) : Prop where
  code : headerSize.toNat + header.codeSize.toNat < 2 ^ 32
  symbols : header.symbolTableOffset.toNat + header.symbolCount.toNat * symbolSize.toNat < 2 ^ 32
  relocations : header.relocationTableOffset.toNat +
    header.relocationCount.toNat * relocationSize.toNat < 2 ^ 32

/-- Every record the linker reads by index lies inside the file's payload. -/
def RecordsInside (header : PlcObjectFileHeaderV1) : Prop :=
  (∀ i < header.symbolCount, InPayload header (symbolAddr header i).toNat symbolSize.toNat) ∧
  ∀ i < header.relocationCount,
    InPayload header (relocationAddr header i).toNat relocationSize.toNat

def Accepts (file : Memory) (size : UInt32) : Prop := ∃ r, parseObjectFile file size = .ok r

/-- Acceptance is well-formedness, and what is accepted is safe to read. -/
def ParsesExactly (file : Memory) (size : UInt32) : Prop :=
  (Accepts file size ↔ WellFormed file size) ∧
  (Accepts file size → EndsFit (readHeader file) ∧ RecordsInside (readHeader file))

/-- The checks `parseObjectFile` makes, its sums taken modulo `2 ^ 32`. -/
structure FieldChecks (file : Memory) (size : UInt32) : Prop where
  header_fits : headerSize ≤ size
  magic : (readHeader file).magic = kPlcObjectFileMagicV1
  version : (readHeader file).version = kPlcObjectFileVersionV1
  abi : (readHeader file).abiVersion = kPlcRuntimeAbiV1Version
  total_ge : headerSize ≤ (readHeader file).totalSize
  total_le : (readHeader file).totalSize ≤ size
  entry : (readHeader file).entryOffset ≤ (readHeader file).codeSize
  code : headerSize + (readHeader file).codeSize ≤ (readHeader file).totalSize
  symbols : symbolAddr (readHeader file) (readHeader file).symbolCount ≤
    (readHeader file).totalSize
  relocations : relocationAddr (readHeader file) (readHeader file).relocationCount ≤
    (readHeader file).totalSize
  checksum : checksum32 file headerSize ((readHeader file).totalSize - headerSize) =
    (readHeader file).objectChecksum

/-- Both tables start past the header and no section end wraps. -/
structure SectionsClear (header : PlcObjectFileHeaderV1) : Prop where
  symbols_start : headerSize ≤ header.symbolTableOffset
  relocations_start : headerSize ≤ header.relocationTableOffset
  ends : EndsFit header

theorem parseObjectFile_eq_ok_iff (file : Memory) (size : UInt32) (r : PlcObjectParseResultV1) :
    parseObjectFile file size = .ok r ↔
      FieldChecks file size ∧ r = ⟨readHeader file, imageOf file (readHeader file)⟩ := by
  simp only [parseObjectFile, ite_error_eq_ok, ne_eq, Decidable.not_not, not_or, UInt32.not_lt,
    Except.ok.injEq]
  constructor
  · rintro ⟨hfit, hmagic, hversion, habi, ⟨hge, hle⟩, hentry, hcode, hsym, hrel, hsum, hr⟩
    exact ⟨⟨hfit, hmagic, hversion, habi, hge, hle, hentry, hcode, hsym, hrel, hsum⟩, hr.symm⟩
  · rintro ⟨h, rfl⟩
    exact ⟨h.header_fits, h.magic, h.version, h.abi, ⟨h.total_ge, h.total_le⟩, h.entry, h.code,
      h.symbols, h.relocations, h.checksum, rfl⟩

theorem accepts_iff (file : Memory) (size : UInt32) :
    Accepts file size ↔ FieldChecks file size := by
  simp [Accepts, parseObjectFile_eq_ok_iff]

theorem readSymbol_congr {m m' : Memory} {a a' : UInt32}
    (h : ∀ d : UInt32, d.toNat < 102 → m (a + d) = m' (a' + d)) :
    readSymbol m a = readSymbol m' a' := by
  have hn : (102 : Nat) < 2 ^ 32 := by decide
  have hname := cstring_congr h 0 102 (by decide) hn
  have hdevice := cstring_congr h 18 80 (by decide) hn
  have hfeature := cstring_congr h (18 + 16) 64 (by decide) hn
  have hpoint := cstring_congr h (18 + 48) 32 (by decide) hn
  rw [← UInt32.add_assoc, ← UInt32.add_assoc] at hfeature hpoint
  rw [UInt32.add_zero, UInt32.add_zero] at hname
  simp only [readSymbol, readPointIdentity, hname, hdevice, hfeature, hpoint, h 16 (by decide),
    h 17 (by decide), h 98 (by decide), h 99 (by decide)]

theorem readRelocation_congr {m m' : Memory} {a a' : UInt32}
    (h : ∀ d : UInt32, d.toNat < 8 → m (a + d) = m' (a' + d)) :
    readRelocation m a = readRelocation m' a' := by
  have hn : (8 : Nat) < 2 ^ 32 := by decide
  have hoffset := word32_congr h 0 (by decide) hn
  rw [UInt32.add_zero, UInt32.add_zero] at hoffset
  simp only [readRelocation, hoffset, word16_congr h 4 (by decide) hn, h 6 (by decide)]

theorem readHeader_congr {m m' : Memory} (h : ∀ d : UInt32, d.toNat < 52 → m d = m' d) :
    readHeader m = readHeader m' := by
  have hn : (52 : Nat) < 2 ^ 32 := by decide
  have h' : ∀ d : UInt32, d.toNat < 52 → m (0 + d) = m' (0 + d) := by
    intro d hd
    rw [UInt32.zero_add]
    exact h d hd
  have h32 : ∀ o : UInt32, o.toNat + 4 ≤ 52 → word32 m o = word32 m' o := by
    intro o ho
    simpa using word32_congr h' o ho hn
  have h16 : ∀ o : UInt32, o.toNat + 2 ≤ 52 → word16 m o = word16 m' o := by
    intro o ho
    simpa using word16_congr h' o ho hn
  simp only [readHeader, h32 0 (by decide), h16 4 (by decide), h16 6 (by decide),
    h32 8 (by decide), h32 12 (by decide), h32 16 (by decide), h32 20 (by decide),
    h16 24 (by decide), h16 26 (by decide), h32 28 (by decide), h32 32 (by decide),
    h32 36 (by decide), h32 40 (by decide), h32 44 (by decide), h32 48 (by decide)]

theorem symbolAddr_toNat (header : PlcObjectFileHeaderV1) (i : UInt16) :
    (symbolAddr header i).toNat =
      (header.symbolTableOffset.toNat + i.toNat * symbolSize.toNat) % 2 ^ 32 := by
  simp [symbolAddr, UInt32.toNat_add, UInt32.toNat_mul]

theorem relocationAddr_toNat (header : PlcObjectFileHeaderV1) (i : UInt16) :
    (relocationAddr header i).toNat =
      (header.relocationTableOffset.toNat + i.toNat * relocationSize.toNat) % 2 ^ 32 := by
  simp [relocationAddr, UInt32.toNat_add, UInt32.toNat_mul]

theorem wellFormed_iff (file : Memory) (size : UInt32) :
    WellFormed file size ↔ FieldChecks file size ∧ SectionsClear (readHeader file) := by
  have hsym := symbolAddr_toNat (readHeader file) (readHeader file).symbolCount
  have hrel := relocationAddr_toNat (readHeader file) (readHeader file).relocationCount
  have hcode := UInt32.toNat_add headerSize (readHeader file).codeSize
  have hlt := (readHeader file).totalSize.toNat_lt
  have h52 : headerSize.toNat = 52 := rfl
  constructor
  · intro h
    obtain ⟨hcode₁, hcode₂⟩ := h.code
    obtain ⟨hsym₁, hsym₂⟩ := h.symbols
    obtain ⟨hrel₁, hrel₂⟩ := h.relocations
    refine ⟨⟨?_, h.magic, h.version, h.abi, ?_, ?_, ?_, ?_, ?_, ?_, h.checksum⟩, ?_, ?_, ?_, ?_, ?_⟩
    · exact UInt32.le_iff_toNat_le.mpr h.header_fits
    · rw [UInt32.le_iff_toNat_le]
      omega
    · exact UInt32.le_iff_toNat_le.mpr h.total
    · exact UInt32.le_iff_toNat_le.mpr h.entry
    all_goals first | rw [UInt32.le_iff_toNat_le] | skip
    all_goals omega
  · rintro ⟨h, hc⟩
    have ht := UInt32.le_iff_toNat_le.mp h.total_le
    have hcl := UInt32.le_iff_toNat_le.mp h.code
    have hsl := UInt32.le_iff_toNat_le.mp h.symbols
    have hrl := UInt32.le_iff_toNat_le.mp h.relocations
    have hs₁ := UInt32.le_iff_toNat_le.mp hc.symbols_start
    have hr₁ := UInt32.le_iff_toNat_le.mp hc.relocations_start
    have hce := hc.ends.code
    have hse := hc.ends.symbols
    have hre := hc.ends.relocations
    refine ⟨UInt32.le_iff_toNat_le.mp h.header_fits, h.magic, h.version, h.abi, ht,
      UInt32.le_iff_toNat_le.mp h.entry, ⟨Nat.le_refl _, ?_⟩, ⟨hs₁, ?_⟩, ⟨hr₁, ?_⟩, h.checksum⟩
    all_goals omega

theorem InPayload.record {header : PlcObjectFileHeaderV1} {off n size i : Nat}
    (h : InPayload header off (n * size)) (hi : i < n) :
    InPayload header ((off + i * size) % 2 ^ 32) size := by
  have hlt := header.totalSize.toNat_lt
  have hend : (i + 1) * size ≤ n * size := Nat.mul_le_mul_right size hi
  rw [Nat.succ_mul] at hend
  obtain ⟨hstart, hstop⟩ := h
  rw [Nat.mod_eq_of_lt (by omega)]
  exact ⟨by omega, by omega⟩

theorem recordsInside_of_wellFormed {file : Memory} {size : UInt32} (h : WellFormed file size) :
    RecordsInside (readHeader file) := by
  constructor
  · intro i hi
    rw [symbolAddr_toNat]
    exact h.symbols.record (UInt16.lt_iff_toNat_lt.mp hi)
  · intro i hi
    rw [relocationAddr_toNat]
    exact h.relocations.record (UInt16.lt_iff_toNat_lt.mp hi)

/-- `parseObjectFile` meets its interval specification on a file exactly when, should the file
pass every check with sums modulo `2 ^ 32`, no table overlaps the header and no end wraps. -/
theorem parsesExactly_iff (file : Memory) (size : UInt32) :
    ParsesExactly file size ↔ (FieldChecks file size → SectionsClear (readHeader file)) := by
  unfold ParsesExactly
  rw [accepts_iff, wellFormed_iff]
  constructor
  · rintro ⟨h, -⟩ hf
    exact (h.mp hf).2
  · intro h
    refine ⟨⟨fun hf => ⟨hf, h hf⟩, fun hw => hw.1⟩, fun hf => ⟨(h hf).ends, ?_⟩⟩
    exact recordsInside_of_wellFormed ((wellFormed_iff file size).mpr ⟨hf, h hf⟩)

/-- A bare header whose one relocation record is the header itself. -/
def overlappingFile : List UInt8 :=
  [0x4F, 0x42, 0x4A, 0x31, 1, 0, 1, 0, 0, 0, 0, 0, 52, 0, 0, 0, 0, 0, 0, 0, 0, 0, 0, 0,
   0, 0, 1, 0, 52, 0, 0, 0, 0, 0, 0, 0, 0, 0, 0, 0, 0, 0, 0, 0, 0, 0, 0, 0, 0xC5, 0x9D, 0x1C, 0x81]

/-- It is accepted although its relocation table lies in the header. -/
theorem overlappingFile_not_parsesExactly : ¬ ParsesExactly (ofBytes overlappingFile) 52 := by
  have hf : FieldChecks (ofBytes overlappingFile) 52 := by
    constructor <;> decide +kernel
  intro h
  have hs := ((parsesExactly_iff _ _).mp h hf).relocations_start
  exact absurd hs (by decide +kernel)

end NodeNet.ObjectFile

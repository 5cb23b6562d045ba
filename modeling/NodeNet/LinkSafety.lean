import NodeNet.LoadSpec

/-! When linking patches point operands only. -/
namespace NodeNet.Loader
open NodeNet.Bytes NodeNet.Walk NodeNet.Points NodeNet.Catalog NodeNet.Publisher
open NodeNet.ObjectFile NodeNet.Bytecode NodeNet.Linker NodeNet.Flash NodeNet.Slot

/-- Loads, stores, increments, decrements and edge instructions. -/
def opcodeHasPointOperand (opcode : UInt8) : Bool :=
  [0x10, 0x11, 0x12, 0x13, 0x15, 0x16, 0x17, 0x18, 0x19, 0x1A, 0x20, 0x21, 0x2F, 0x30].contains
    opcode

/-- The byte at `x` is an operand byte of a point instruction of the loader's walk. -/
def PointOperandByte (code : Memory) (size x : Nat) : Prop :=
  ∃ pc, InstructionStart code size pc ∧ opcodeHasPointOperand (opcodeAt code pc) = true ∧
    pc < x ∧ x < nextPc code pc

def fieldWidth (file : Memory) (k : Nat) : Nat :=
  (relocationPatchSize (relocationAt file k).relocationKind).toNat

/-- Address `x` is in the field of relocation `k`, which may wrap. -/
def InField (file : Memory) (k : Nat) (x : UInt32) : Prop :=
  Covers (relocationAt file k).codeOffset (fieldWidth file k) x

/-- The bytes of the linked code that a relocation of the object names. -/
def RelocatedByte (file : Memory) (x : UInt32) : Prop :=
  ∃ k < (readHeader file).relocationCount.toNat, InField file k x

/-- Linking turned the object's code into `linked` by way of point operands only, and what was
validated before still holds. -/
structure PatchesOperandsOnly (file linked : Memory) : Prop where
  others : ∀ x : UInt32, x.toNat < (readHeader file).codeSize.toNat →
    ¬ PointOperandByte (objectImage file).codeBytes (readHeader file).codeSize.toNat x.toNat →
    linked x = (objectImage file).codeBytes x
  inside : ∀ x, RelocatedByte file x → x.toNat < (readHeader file).codeSize.toNat
  starts : ∀ pc, InstructionStart linked (readHeader file).codeSize.toNat pc ↔
    InstructionStart (objectImage file).codeBytes (readHeader file).codeSize.toNat pc
  targets : ∀ pc,
    InstructionStart (objectImage file).codeBytes (readHeader file).codeSize.toNat pc →
    opcodeIsBranch (opcodeAt (objectImage file).codeBytes pc) = true →
    opcodeAt linked pc = opcodeAt (objectImage file).codeBytes pc ∧
      branchTarget linked pc = branchTarget (objectImage file).codeBytes pc
  validated : Validated linked (readHeader file).codeSize.toNat

/-- Every field of the relocation table lies, without a wrap, in operand bytes of point
instructions. -/
def FieldsOnOperands (file : Memory) : Prop :=
  ∀ k < (readHeader file).relocationCount.toNat,
    ∀ x, (relocationAt file k).codeOffset.toNat ≤ x →
      x < (relocationAt file k).codeOffset.toNat + fieldWidth file k →
      PointOperandByte (objectImage file).codeBytes (readHeader file).codeSize.toNat x

/-- Every field of the relocation table lies, without a wrap, in the code section. -/
def FieldsInside (file : Memory) : Prop :=
  ∀ k < (readHeader file).relocationCount.toNat,
    (relocationAt file k).codeOffset.toNat + fieldWidth file k ≤ (readHeader file).codeSize.toNat

theorem not_pointOperand_of_branch {opcode : UInt8} (h : opcodeIsBranch opcode = true) :
    opcodeHasPointOperand opcode = false := by
  unfold opcodeIsBranch at h
  simp only [List.contains_cons, Bool.or_eq_true, beq_iff_eq, List.contains_nil,
    Bool.false_eq_true, or_false] at h
  rcases h with rfl | rfl | rfl <;> rfl

section
variable {code linked : Memory} {size : Nat}

theorem not_pointOperandByte_of_start {pc : Nat} (h : InstructionStart code size pc) :
    ¬ PointOperandByte code size pc := by
  rintro ⟨p, hp, -, hlt, hgt⟩
  have := hp.next_le (pc_lt_nextPc code) h hlt
  omega

theorem not_pointOperandByte_of_branch {pc x : Nat} (h : InstructionStart code size pc)
    (hb : opcodeIsBranch (opcodeAt code pc) = true) (hx : pc < x) (hx' : x < nextPc code pc) :
    ¬ PointOperandByte code size x := by
  rintro ⟨p, hp, hop, hlt, hgt⟩
  rcases Nat.lt_trichotomy p pc with hppc | rfl | hppc
  · have := hp.next_le (pc_lt_nextPc code) h hppc
    omega
  · rw [not_pointOperand_of_branch hb] at hop
    cases hop
  · have := h.next_le (pc_lt_nextPc code) hp hppc
    omega

section
variable (hsize : size < 2 ^ 32) (hv : Validated code size)
  (hothers : ∀ x : UInt32, x.toNat < size → ¬ PointOperandByte code size x.toNat →
    linked x = code x)
include hsize hothers

theorem opcodeAt_eq_of_others (pc : Nat) (h : InstructionStart code size pc) :
    opcodeAt linked pc = opcodeAt code pc := by
  have hofn : (UInt32.ofNat pc).toNat = pc := UInt32.toNat_ofNat_of_lt' (Nat.lt_trans h.lt hsize)
  refine hothers _ (by rw [hofn]; exact h.lt) ?_
  rw [hofn]
  exact not_pointOperandByte_of_start h

include hv in
theorem branchRel_eq_of_others {pc : Nat} (h : InstructionStart code size pc)
    (hb : opcodeIsBranch (opcodeAt code pc) = true) : branchRel linked pc = branchRel code pc := by
  have hofn : (UInt32.ofNat pc).toNat = pc := UInt32.toNat_ofNat_of_lt' (Nat.lt_trans h.lt hsize)
  have hfits := hv.fits pc h
  have hnext : nextPc code pc = pc + 3 := by rw [nextPc, instructionSize_branch hb]
  have hword := word16_congr (m := linked) (w := code) (a := UInt32.ofNat pc + 1)
    (b := UInt32.ofNat pc + 1) (n := 2) ?_ 0 (by decide) (by decide)
  · rw [UInt32.add_zero] at hword
    rw [branchRel, branchRel, hword]
  · intro d hd
    have haddr : (UInt32.ofNat pc + 1 + d).toNat = pc + 1 + d.toNat := by
      rw [UInt32.toNat_add, UInt32.toNat_add, hofn]
      have : (1 : UInt32).toNat = 1 := rfl
      omega
    refine hothers _ (by omega) ?_
    rw [haddr]
    exact not_pointOperandByte_of_branch h hb (by omega) (by omega)

end

end

/-- Patch `f k`, where there is one, fills the field of relocation `k`. -/
def FillsFields (file : Memory) (f : Nat → Option Patch) : Prop :=
  ∀ k q, f k = some q →
    RelocationAdmitted (readHeader file).codeSize (readHeader file).symbolCount
      (relocationAt file k) ∧
    ∀ x, q.Covers x ↔ InField file k x

variable {file : Memory} {f : Nat → Option Patch}

theorem covers_relocationPatch (r : PlcObjectRelocationRecordV1) (l : LinkResult) (x : UInt32) :
    (relocationPatch r l).Covers x ↔
      Covers r.codeOffset (relocationPatchSize r.relocationKind).toNat x := by
  rw [← patchBytes_length r.relocationKind (patchValue r.relocationKind l)]
  rfl

theorem imagePatch_fillsFields (p : PlcRuntimePublisherV1) (c : PointCatalog) (slotId : UInt16)
    (file : Memory) : FillsFields file (imagePatch p c slotId (objectImage file)) := by
  intro k q h
  simp only [imagePatch] at h
  split at h
  · rename_i hadm
    obtain ⟨l, -, rfl⟩ := Option.map_eq_some_iff.mp h
    exact ⟨hadm, covers_relocationPatch _ l⟩
  · cases h

theorem FillsFields.run_of_not_relocated (hf : FillsFields file f) {base : Memory} {x : UInt32}
    (h : ¬ RelocatedByte file x) :
    patchRun f 0 (readHeader file).relocationCount.toNat base x = base x := by
  refine patchRun_of_not_covers fun k q _ hk hq hcovers => h ⟨k, ?_, ((hf k q hq).2 x).mp hcovers⟩
  rw [Nat.zero_add] at hk
  exact hk

theorem relocationPatchSize_le (kind : UInt8) : (relocationPatchSize kind).toNat ≤ 4 := by
  unfold relocationPatchSize
  split
  · decide
  split <;> decide

theorem FieldsOnOperands.operand (h : FieldsOnOperands file)
    (hv : Validated (objectImage file).codeBytes (readHeader file).codeSize.toNat) {x : UInt32}
    (hx : RelocatedByte file x) :
    PointOperandByte (objectImage file).codeBytes (readHeader file).codeSize.toNat x.toNat := by
  obtain ⟨k, hk, hx⟩ := hx
  have hfield := h k hk
  have hpos : 0 < fieldWidth file k := Nat.lt_of_le_of_lt (Nat.zero_le _) hx
  -- the last byte of the field is an operand byte, so the field does not wrap
  obtain ⟨pc, hpc, -, -, hlast⟩ :=
    hfield ((relocationAt file k).codeOffset.toNat + fieldWidth file k - 1) (by omega) (by omega)
  have hfits := hv.fits pc hpc
  have hsize := (readHeader file).codeSize.toNat_lt
  obtain ⟨hlow, hhigh⟩ := (covers_iff (by omega)).mp hx
  exact hfield x.toNat hlow hhigh

theorem patchesOperandsOnly_of_fields {base : Memory} (hf : FillsFields file f)
    (hv : Validated (objectImage file).codeBytes (readHeader file).codeSize.toNat)
    (hbase : ∀ x : UInt32, x.toNat < (readHeader file).codeSize.toNat →
      base x = (objectImage file).codeBytes x) (h : FieldsOnOperands file) :
    PatchesOperandsOnly file (patchRun f 0 (readHeader file).relocationCount.toNat base) := by
  have hsize := (readHeader file).codeSize.toNat_lt
  have hothers : ∀ x : UInt32, x.toNat < (readHeader file).codeSize.toNat →
      ¬ PointOperandByte (objectImage file).codeBytes (readHeader file).codeSize.toNat x.toNat →
      patchRun f 0 (readHeader file).relocationCount.toNat base x =
        (objectImage file).codeBytes x := by
    intro x hx hother
    rw [hf.run_of_not_relocated fun hr => hother (h.operand hv hr), hbase x hx]
  have hop := opcodeAt_eq_of_others hsize hothers
  refine ⟨hothers, fun x hx => ?_, instructionStart_congr hop, fun pc hpc hb => ?_,
    hv.congr hop fun pc => branchRel_eq_of_others hsize hv hothers⟩
  · obtain ⟨pc, hpc, -, -, hlt⟩ := h.operand hv hx
    exact Nat.lt_of_lt_of_le hlt (hv.fits pc hpc)
  · refine ⟨hop pc hpc, ?_⟩
    rw [branchTarget, branchTarget, nextPc, nextPc, hop pc hpc,
      branchRel_eq_of_others hsize hv hothers hpc hb]

theorem fieldsInside_of_inside (hsize : (readHeader file).codeSize.toNat < 2 ^ 16)
    (hf : FillsFields file f)
    (hall : ∀ k < (readHeader file).relocationCount.toNat, (f k).isSome)
    (h : ∀ x, RelocatedByte file x → x.toNat < (readHeader file).codeSize.toNat) :
    FieldsInside file := by
  intro k hk
  obtain ⟨q, hq⟩ := Option.isSome_iff_exists.mp (hall k hk)
  have hkind := (hf k q hq).1.2.1
  have hle : fieldWidth file k ≤ 4 := relocationPatchSize_le _
  have hpos : 0 < fieldWidth file k :=
    Nat.pos_of_ne_zero fun h0 => hkind (UInt32.toNat_inj.mp h0)
  have hbyte : ∀ d : UInt32, d.toNat < fieldWidth file k →
      ((relocationAt file k).codeOffset + d).toNat < (readHeader file).codeSize.toNat := by
    intro d hd
    refine h _ ⟨k, hk, ?_⟩
    rw [InField, Covers, show (relocationAt file k).codeOffset + d -
      (relocationAt file k).codeOffset = d by grind]
    exact hd
  have hfirst := hbyte 0 (by simpa using hpos)
  rw [UInt32.add_zero] at hfirst
  have hofn : (UInt32.ofNat (fieldWidth file k - 1)).toNat = fieldWidth file k - 1 :=
    UInt32.toNat_ofNat_of_lt' (by simp only [UInt32.size]; omega)
  have hlast := hbyte (UInt32.ofNat (fieldWidth file k - 1)) (by rw [hofn]; omega)
  rw [UInt32.toNat_add, hofn] at hlast
  omega

variable {slotId : UInt16}

theorem codeSize_lt (hslot : slotId < kPlcSlotCountV1) {codeSize : UInt32}
    (h : codeSize ≤ (slotLayout slotId).linkedCodeCapacity) : codeSize.toNat < 2 ^ 16 := by
  rw [linkedCodeCapacity_eq hslot, UInt32.le_iff_toNat_le] at h
  exact Nat.lt_of_le_of_lt h (by decide)

def RamLinksOperandsOnly (s : LoaderState) (slotId : UInt16) (file : Memory) (size : UInt32) :
    Prop :=
  let load := loadObjectFileIntoSlot s slotId file size
  load.2.status = .Ok → PatchesOperandsOnly file (load.1.slots slotId).linkedCode

def FlashLinksOperandsOnly (s : LoaderState) (slotId : UInt16) (flash : FlashDriver)
    (flashOffset flashCapacity : UInt32) : Prop :=
  let load := loadObjectFileFromFlash s slotId flash flashOffset flashCapacity
  load.2.status = .Ok →
    PatchesOperandsOnly (fileAt (flashContent flash) flashOffset) (load.1.slots slotId).linkedCode

theorem ramCode_of_not_relocated {s : LoaderState} {x : UInt32} (h : ¬RelocatedByte file x) :
    ramCode s slotId file x =
      copy (s.slots slotId).linkedCode 0 (objectImage file).codeBytes 0
        (readHeader file).codeSize.toNat x :=
  FillsFields.run_of_not_relocated (imagePatch_fillsFields _ _ _ file) h

theorem ram_linkedCode {s : LoaderState} {size : UInt32}
    (h : (loadObjectFileIntoSlot s slotId file size).2.status = .Ok) :
    ((loadObjectFileIntoSlot s slotId file size).1.slots slotId).linkedCode =
      ramCode s slotId file := by
  obtain ⟨-, -, -, hfits⟩ := (ram_ok_iff ..).mp h
  rw [ram_ok_state h, updateSlot_self, SlotMemory.writeObjectFileSnapshot, if_pos hfits,
    ramInstalled_slot]
  rfl

theorem ramLinksOperandsOnly_of_fields {s : LoaderState} {size : UInt32}
    (h : FieldsOnOperands file) : RamLinksOperandsOnly s slotId file size := by
  intro hok
  obtain ⟨hadm, -⟩ := (ram_ok_iff ..).mp hok
  rw [ram_linkedCode hok]
  refine patchesOperandsOnly_of_fields (imagePatch_fillsFields _ _ _ file)
    ((validateSupportedBytecode_iff ..).mp hadm.bytecode) (fun x hx => ?_) h
  have hin : Covers 0 (objectImage file).codeSize.toNat x := covers_zero_iff.mpr hx
  rw [copy_of_covers hin, UInt32.zero_add, UInt32.sub_zero]

theorem fieldsInside_of_ram {s : LoaderState} {size : UInt32}
    (hok : (loadObjectFileIntoSlot s slotId file size).2.status = .Ok)
    (h : RamLinksOperandsOnly s slotId file size) : FieldsInside file := by
  obtain ⟨hadm, -, hl, -⟩ := (ram_ok_iff ..).mp hok
  exact fieldsInside_of_inside (codeSize_lt hadm.slot hadm.fits) (imagePatch_fillsFields _ _ _ file)
    hl (h hok).inside

section
variable {flash : FlashDriver} {flashOffset : UInt32}

theorem flashPatch_fillsFields (p : PlcRuntimePublisherV1) (c : PointCatalog) (slotId : UInt16) :
    FillsFields (fileAt (flashContent flash) flashOffset) (flashPatch p c slotId flash flashOffset
      (readHeader (fileAt (flashContent flash) flashOffset))) := by
  intro k q h
  simp only [flashPatch] at h
  split at h
  · cases h
  rename_i bytes hbytes
  have hr : readRelocation bytes 0 = relocationAt (fileAt (flashContent flash) flashOffset) k :=
    readRelocation_congr fun d hd => readFromFlash_ok (readsFrom_flashContent flash) hbytes hd
  rw [hr] at h
  split at h
  · rename_i hadm
    split at h
    · cases h
    obtain ⟨l, -, rfl⟩ := Option.map_eq_some_iff.mp h
    exact ⟨hadm, covers_relocationPatch _ l⟩
  · cases h

theorem flashCode_byte {s : LoaderState}
    (h : (flashCode s slotId flash flashOffset
      (readHeader (fileAt (flashContent flash) flashOffset))).2 = true) {x : UInt32}
    (hx : x.toNat < (readHeader (fileAt (flashContent flash) flashOffset)).codeSize.toNat) :
    (flashCode s slotId flash flashOffset
        (readHeader (fileAt (flashContent flash) flashOffset))).1 x =
      (objectImage (fileAt (flashContent flash) flashOffset)).codeBytes x := by
  unfold flashCode at h ⊢
  rw [flashReadBytes_ok (readsFrom_flashContent flash) h, copy_of_covers (covers_zero_iff.mpr hx),
    UInt32.sub_zero, UInt32.add_assoc]
  rfl

theorem flash_header {flashCapacity : UInt32} {bytes : Memory}
    (h : FlashAdmitted slotId flash flashOffset flashCapacity bytes) :
    readHeader bytes = readHeader (fileAt (flashContent flash) flashOffset) := by
  have hread := h.read
  rw [← UInt32.add_zero flashOffset] at hread
  refine readHeader_congr fun d hd => ?_
  simpa using readFromFlash_ok (readsFrom_flashContent flash) hread hd

theorem flash_linked {s : LoaderState} {flashCapacity : UInt32}
    (h : (loadObjectFileFromFlash s slotId flash flashOffset flashCapacity).2.status = .Ok) :
    let header := readHeader (fileAt (flashContent flash) flashOffset)
    header.codeSize.toNat < 2 ^ 16 ∧ FlashBytecode s slotId flash flashOffset header ∧
      FlashLinks s slotId flash flashOffset header ∧
      ((loadObjectFileFromFlash s slotId flash flashOffset flashCapacity).1.slots
        slotId).linkedCode = flashLinkedCode s slotId flash flashOffset header := by
  intro header
  obtain ⟨bytes, hadm⟩ : ∃ bytes, FlashAdmitted slotId flash flashOffset flashCapacity bytes := by
    refine Classical.byContradiction fun hnone => ?_
    exact (flash_refused (s := s) fun bytes hadm => hnone ⟨bytes, hadm⟩).2 h
  obtain ⟨-, hb, -, hl, -⟩ := (flash_ok_iff hadm.read).mp h
  have hheader := flash_header hadm
  have hcode : ((loadObjectFileFromFlash s slotId flash flashOffset flashCapacity).1.slots
      slotId).linkedCode = flashLinkedCode s slotId flash flashOffset (readHeader bytes) := by
    rw [flash_ok_state hadm.read h, updateSlot_self]
    unfold flashSnapshot writeObjectFileSnapshotFromFlash
    rw [flashInstalled_slot]
    repeat' split
    all_goals rfl
  have hsmall := codeSize_lt hadm.slot hadm.fits
  rw [hheader] at hb hl hcode hsmall
  exact ⟨hsmall, hb, hl, hcode⟩

theorem flashLinksOperandsOnly_of_fields {s : LoaderState} {flashCapacity : UInt32}
    (h : FieldsOnOperands (fileAt (flashContent flash) flashOffset)) :
    FlashLinksOperandsOnly s slotId flash flashOffset flashCapacity := by
  intro hok
  obtain ⟨-, hb, -, hcode⟩ := flash_linked hok
  rw [hcode]
  have hbytes : ∀ x : UInt32, x.toNat < (readHeader
      (fileAt (flashContent flash) flashOffset)).codeSize.toNat → _ :=
    fun _ hx => flashCode_byte hb.1 hx
  have hvalid := validateSupportedBytecode_congr
    (readHeader (fileAt (flashContent flash) flashOffset)).codeSize.toNat_lt
    (fun x hx => (hbytes x hx).symm) hb.2
  exact patchesOperandsOnly_of_fields (flashPatch_fillsFields _ _ slotId)
    ((validateSupportedBytecode_iff ..).mp hvalid) hbytes h

theorem fieldsInside_of_flash {s : LoaderState} {flashCapacity : UInt32}
    (hok : (loadObjectFileFromFlash s slotId flash flashOffset flashCapacity).2.status = .Ok)
    (h : FlashLinksOperandsOnly s slotId flash flashOffset flashCapacity) :
    FieldsInside (fileAt (flashContent flash) flashOffset) := by
  obtain ⟨hsmall, -, hl, -⟩ := flash_linked hok
  exact fieldsInside_of_inside hsmall (flashPatch_fillsFields _ _ slotId) hl (h hok).inside

end

def onePoint : LoaderState :=
  let definition : PointDefinition :=
    ⟨⟨[0x6E], [0x70], [0x71]⟩, [], .Modbus, .Input, .Bool, 0, 0, 0, 0, [], 0, []⟩
  let catalog := PointCatalog.empty.setEntries [freshEntry definition]
  { LoaderState.boot with
    catalog := catalog
    publisher := (PlcRuntimePublisherV1.initial.publish catalog).getD .initial }

/-- The program `NOP NOP`, with a relocation at offset 0 that names the point. -/
def relocatedNop : List UInt8 :=
  [0x4F, 0x42, 0x4A, 0x31, 1, 0, 1, 0, 0, 0, 0, 0, 164, 0, 0, 0, 2, 0, 0, 0, 0, 0, 0, 0, 1, 0, 1, 0,
    54, 0, 0, 0, 156, 0, 0, 0, 0, 0, 0, 0, 0, 0, 0, 0, 0, 0, 0, 0, 72, 20, 198, 8, 1, 1, 0x78] ++
  List.replicate 17 0 ++ [0x6E] ++ List.replicate 15 0 ++ [0x70] ++ List.replicate 31 0 ++ [0x71]

def relocatedLoad : List UInt8 :=
  [0x4F, 0x42, 0x4A, 0x31, 1, 0, 1, 0, 0, 0, 0, 0, 166, 0, 0, 0, 4, 0, 0, 0, 0, 0, 0, 0, 1, 0, 1, 0,
    56, 0, 0, 0, 158, 0, 0, 0, 0, 0, 0, 0, 0, 0, 0, 0, 0, 0, 0, 0, 0x4B, 0xAD, 0xCE, 0x50,
    0x10, 0, 0, 0, 0x78] ++
  List.replicate 17 0 ++ [0x6E] ++ List.replicate 15 0 ++ [0x70] ++ List.replicate 31 0 ++
  [0x71] ++ List.replicate 35 0 ++ [1]

theorem relocatedLoad_fields : FieldsOnOperands (ofBytes relocatedLoad) := by
  have hcount : (readHeader (ofBytes relocatedLoad)).relocationCount.toNat = 1 := by decide +kernel
  have hoffset : (relocationAt (ofBytes relocatedLoad) 0).codeOffset.toNat = 1 := by decide +kernel
  have hwidth : fieldWidth (ofBytes relocatedLoad) 0 = 2 := by decide +kernel
  have hnext : nextPc (objectImage (ofBytes relocatedLoad)).codeBytes 0 = 3 := by decide +kernel
  intro k hk x hlow hhigh
  rw [hcount] at hk
  obtain rfl : k = 0 := by omega
  rw [hoffset] at hlow hhigh
  rw [hwidth] at hhigh
  exact ⟨0, .origin (by decide +kernel), by decide +kernel, by omega, by omega⟩

theorem fileAt_memoryFlash (content : Memory) :
    fileAt (flashContent (memoryFlash content)) 0 = content := by
  funext x
  simp only [fileAt, flashContent, memoryFlash, UInt32.zero_add]
  congr 1
  grind

end NodeNet.Loader

import NodeNet.Lib.Bytes
import NodeNet.Lib.Walk

/-! The loader's instruction sizes and `validateSupportedBytecode`. -/
namespace NodeNet.Bytecode
open NodeNet.Bytes NodeNet.Walk

def opcodeHasU16Operand (opcode : UInt8) : Bool :=
  [0x10, 0x11, 0x12, 0x13, 0x14, 0x15, 0x16, 0x17, 0x18, 0x19, 0x1A, 0x20, 0x21, 0x2C, 0x2D, 0x2E,
    0x2F, 0x30, 0x32, 0x33, 0x34, 0x35, 0x37, 0x38, 0x3A, 0x3B, 0x3D, 0x3E, 0x3F, 0x41, 0x42,
    0x43].contains opcode

def opcodeHasU32Immediate (opcode : UInt8) : Bool := [0x1B, 0x1C, 0x1D].contains opcode

def opcodeHasTimerStartOperand (opcode : UInt8) : Bool := [0x31, 0x36, 0x39].contains opcode

def opcodeHasCounterCountOperand (opcode : UInt8) : Bool := [0x3C, 0x40].contains opcode

def opcodeIsBranch (opcode : UInt8) : Bool := [0x2C, 0x2D, 0x2E].contains opcode

def opcodeSupportedInCoreStep2 (opcode : UInt8) : Bool :=
  [0x00, 0x01, 0x02, 0x03, 0x04, 0x05, 0x06, 0x07, 0x08, 0x09, 0x0A, 0x0B, 0x0C, 0x15, 0x16, 0x17,
    0x18, 0x19, 0x1A, 0x1B, 0x1C, 0x1D, 0x22, 0x23, 0x24, 0x25, 0x26, 0x27, 0x28, 0x29, 0x2A, 0x2B,
    0x2C, 0x2D, 0x2E, 0x2F, 0x30, 0x31, 0x32, 0x33, 0x34, 0x35, 0x36, 0x37, 0x38, 0x39, 0x3A, 0x3B,
    0x3C, 0x3D, 0x3E, 0x3F, 0x40, 0x41, 0x42, 0x43, 0x44, 0x45, 0x46, 0x47, 0x48, 0x49, 0x4A, 0x4B,
    0x4C, 0x4D, 0x4E, 0x4F, 0x50, 0x51, 0x52, 0x53].contains opcode ||
    opcodeHasU16Operand opcode || opcodeHasU32Immediate opcode

def instructionSizeForOpcode (opcode : UInt8) : Nat :=
  if opcodeHasTimerStartOperand opcode then 7
  else if opcodeHasU32Immediate opcode then 5
  else if opcodeHasCounterCountOperand opcode then 5
  else if opcodeHasU16Operand opcode then 3
  else 1

def opcodeAt (code : Memory) (pc : Nat) : UInt8 := code (UInt32.ofNat pc)

-- `pc` never wraps: both load paths bound the code size by the slot's capacity first.
def nextPc (code : Memory) (pc : Nat) : Nat := pc + instructionSizeForOpcode (opcodeAt code pc)

def branchRel (code : Memory) (pc : Nat) : Int :=
  (word16 code (UInt32.ofNat pc + 1)).toInt16.toInt

/-- Where a taken branch at `pc` goes. -/
def branchTarget (code : Memory) (pc : Nat) : Int := nextPc code pc + branchRel code pc

def isInstructionStartOffset (code : Memory) (size : Nat) (target : Nat) : Bool :=
  !allFrom (nextPc code) size (fun pc => pc != target) size 0

def instructionFits (code : Memory) (size : Nat) (pc : Nat) : Bool :=
  opcodeSupportedInCoreStep2 (opcodeAt code pc) && nextPc code pc ≤ size

def branchLands (code : Memory) (size : Nat) (pc : Nat) : Bool :=
  if opcodeIsBranch (opcodeAt code pc) then
    let target := branchTarget code pc
    if target < 0 ∨ (size : Int) ≤ target then false
    else isInstructionStartOffset code size target.toNat
  else true

def validateSupportedBytecode (code : Memory) (size : Nat) : Bool :=
  allFrom (nextPc code) size (instructionFits code size) size 0 &&
    allFrom (nextPc code) size (branchLands code size) size 0

abbrev InstructionStart (code : Memory) (size : Nat) : Nat → Prop := Visits (nextPc code) size 0

/-- What the validation establishes: supported opcodes, whole instructions, landing branches. -/
structure Validated (code : Memory) (size : Nat) : Prop where
  supported : ∀ pc, InstructionStart code size pc →
    opcodeSupportedInCoreStep2 (opcodeAt code pc) = true
  fits : ∀ pc, InstructionStart code size pc → nextPc code pc ≤ size
  lands : ∀ pc, InstructionStart code size pc → opcodeIsBranch (opcodeAt code pc) = true →
    0 ≤ branchTarget code pc ∧ InstructionStart code size (branchTarget code pc).toNat

theorem instructionSize_pos (opcode : UInt8) : 0 < instructionSizeForOpcode opcode := by
  unfold instructionSizeForOpcode
  repeat' split
  all_goals omega

theorem pc_lt_nextPc (code : Memory) (pc : Nat) : pc < nextPc code pc :=
  Nat.lt_add_of_pos_right (instructionSize_pos _)

theorem allFrom_nextPc_iff (code : Memory) (size : Nat) (check : Nat → Bool) :
    allFrom (nextPc code) size check size 0 = true ↔
      ∀ pc, InstructionStart code size pc → check pc = true :=
  allFrom_iff (pc_lt_nextPc code) size 0 (by omega)

theorem isInstructionStartOffset_iff (code : Memory) (size target : Nat) :
    isInstructionStartOffset code size target = true ↔ InstructionStart code size target := by
  unfold isInstructionStartOffset
  rw [Bool.not_eq_true', ← Bool.not_eq_true, allFrom_nextPc_iff]
  constructor
  · intro h
    refine Classical.byContradiction fun hn => h fun pc hpc => ?_
    have hne : pc ≠ target := fun he => hn (he ▸ hpc)
    simpa using hne
  · intro h hall
    simpa using hall target h

instance (code : Memory) (size target : Nat) : Decidable (InstructionStart code size target) :=
  decidable_of_iff _ (isInstructionStartOffset_iff code size target)

theorem branchLands_iff (code : Memory) (size pc : Nat) :
    branchLands code size pc = true ↔ (opcodeIsBranch (opcodeAt code pc) = true →
      0 ≤ branchTarget code pc ∧ InstructionStart code size (branchTarget code pc).toNat) := by
  unfold branchLands
  by_cases hb : opcodeIsBranch (opcodeAt code pc) = true
  · rw [if_pos hb]
    simp only [hb, true_imp_iff]
    by_cases ht : branchTarget code pc < 0 ∨ (size : Int) ≤ branchTarget code pc
    · rw [if_pos ht]
      simp only [Bool.false_eq_true, false_iff, not_and]
      intro h0 hs
      have := hs.lt
      omega
    · rw [if_neg ht, isInstructionStartOffset_iff]
      rw [not_or] at ht
      exact ⟨fun h => ⟨by omega, h⟩, fun h => h.2⟩
  · rw [if_neg hb]
    simp [hb]

theorem validateSupportedBytecode_iff (code : Memory) (size : Nat) :
    validateSupportedBytecode code size = true ↔ Validated code size := by
  unfold validateSupportedBytecode
  simp only [Bool.and_eq_true, allFrom_nextPc_iff, branchLands_iff, instructionFits,
    decide_eq_true_eq]
  constructor
  · rintro ⟨h₁, h₂⟩
    exact ⟨fun pc h => (h₁ pc h).1, fun pc h => (h₁ pc h).2, h₂⟩
  · rintro ⟨h₁, h₂, h₃⟩
    exact ⟨fun pc h => ⟨h₁ pc h, h₂ pc h⟩, h₃⟩

theorem instructionSize_branch {opcode : UInt8} (h : opcodeIsBranch opcode = true) :
    instructionSizeForOpcode opcode = 3 := by
  unfold opcodeIsBranch at h
  simp only [List.contains_cons, Bool.or_eq_true, beq_iff_eq, List.contains_nil,
    Bool.false_eq_true, or_false] at h
  rcases h with rfl | rfl | rfl <;> rfl

section
variable {code code' : Memory} {size : Nat}

theorem instructionStart_congr
    (hop : ∀ pc, InstructionStart code size pc → opcodeAt code' pc = opcodeAt code pc) (pc : Nat) :
    InstructionStart code' size pc ↔ InstructionStart code size pc :=
  visits_congr (fun p hp => by rw [nextPc, nextPc, hop p hp]) pc

theorem Validated.congr (hv : Validated code size)
    (hop : ∀ pc, InstructionStart code size pc → opcodeAt code' pc = opcodeAt code pc)
    (hrel : ∀ pc, InstructionStart code size pc → opcodeIsBranch (opcodeAt code pc) = true →
      branchRel code' pc = branchRel code pc) : Validated code' size := by
  have hstart := instructionStart_congr hop
  constructor
  · intro pc h
    have h' := (hstart pc).mp h
    rw [hop pc h']
    exact hv.supported pc h'
  · intro pc h
    have h' := (hstart pc).mp h
    rw [nextPc, hop pc h']
    exact hv.fits pc h'
  · intro pc h hb
    have h' := (hstart pc).mp h
    rw [hop pc h'] at hb
    rw [branchTarget, nextPc, hop pc h', hrel pc h' hb, hstart]
    exact hv.lands pc h' hb

theorem validateSupportedBytecode_congr (hsize : size < 2 ^ 32)
    (h : ∀ x : UInt32, x.toNat < size → code' x = code x)
    (hv : validateSupportedBytecode code size = true) :
    validateSupportedBytecode code' size = true := by
  rw [validateSupportedBytecode_iff] at hv ⊢
  have hofn : ∀ pc, pc < size → (UInt32.ofNat pc).toNat = pc := fun pc hpc =>
    UInt32.toNat_ofNat_of_lt' (Nat.lt_trans hpc hsize)
  refine hv.congr (fun pc hpc => h _ (by rw [hofn pc hpc.lt]; exact hpc.lt)) ?_
  intro pc hpc hb
  have hfits := hv.fits pc hpc
  rw [nextPc, instructionSize_branch hb] at hfits
  have hword := word16_congr (m := code') (w := code) (a := 0) (b := 0) (n := size)
    (by simpa using h) (UInt32.ofNat pc + 1)
    (by rw [UInt32.toNat_add, hofn pc hpc.lt]; have : (1 : UInt32).toNat = 1 := rfl; omega) hsize
  rw [UInt32.zero_add] at hword
  rw [branchRel, branchRel, hword]

end

end NodeNet.Bytecode

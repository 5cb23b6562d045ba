import NodeNet.Vm.TypedStack

/-! What the integer and selection instructions compute, on the numbers that operands represent. -/
namespace NodeNet.Vm

def StackType.number (t : StackType) (word : UInt32) : Int :=
  match t with
  | .int16 => word.toUInt16.toInt16.toInt
  | .int32 => word.toInt32.toInt
  | _ => word.toNat

def StackType.word (t : StackType) (n : Int) : UInt32 :=
  match t with
  | .int16 => signExtendI16 (Int16.ofInt n).toUInt16
  | .int32 => (Int32.ofInt n).toUInt32
  | _ => UInt32.ofInt n

def Operand.number (o : Operand) : Int := o.type.number o.value32

def Operand.ofNumber (t : StackType) (n : Int) : Operand := ⟨t.word n, t⟩

def Operand.truth (b : Bool) : Operand := ⟨boolWord b, .bool⟩

/-- Two operands of one integer type. -/
structure Operand.Alike (t : StackType) (a b : Operand) : Prop where
  integer : isIntegerType t = true
  left : a.type = t
  right : b.type = t

open Operand in
/-- What the specification names for an instruction: the operands it takes, the top first, and the
operand it pushes for them. -/
inductive Names : UInt8 → List Operand → Operand → Prop
  | add {t : StackType} {a b : Operand} (h : Alike t a b) :
      Names opcodeAdd [b, a] (ofNumber t (a.number + b.number))
  | sub {t : StackType} {a b : Operand} (h : Alike t a b) :
      Names opcodeSub [b, a] (ofNumber t (a.number - b.number))
  | lt {t : StackType} {a b : Operand} (h : Alike t a b) :
      Names opcodeLt [b, a] (truth (a.number < b.number))
  | le {t : StackType} {a b : Operand} (h : Alike t a b) :
      Names opcodeLe [b, a] (truth (a.number ≤ b.number))
  | gt {t : StackType} {a b : Operand} (h : Alike t a b) :
      Names opcodeGt [b, a] (truth (a.number > b.number))
  | ge {t : StackType} {a b : Operand} (h : Alike t a b) :
      Names opcodeGe [b, a] (truth (a.number ≥ b.number))
  | min {t : StackType} {a b : Operand} (h : Alike t a b) :
      Names opcodeMin [b, a] (ofNumber t (min a.number b.number))
  | max {t : StackType} {a b : Operand} (h : Alike t a b) :
      Names opcodeMax [b, a] (ofNumber t (max a.number b.number))
  | clamp {t : StackType} {value lo hi : Operand} (hlo : Alike t value lo) (hhi : Alike t value hi)
      (h : lo.number ≤ hi.number) :
      Names opcodeClamp [hi, lo, value] (ofNumber t (max lo.number (min value.number hi.number)))
  | sel {onFalse onTrue condition : Operand} (hcondition : condition.type = .bool)
      (h : onFalse.type = onTrue.type) :
      Names opcodeSel [condition, onTrue, onFalse]
        (if condition.number = 1 then onTrue else onFalse)
  | signExtend {a : Operand} (h : a.type = .int16) :
      Names opcodeSxI16ToI32 [a] (ofNumber .int32 a.number)
  | truncate {a : Operand} (h : a.type = .int32) :
      Names opcodeTruncI32ToI16 [a] (ofNumber .int16 a.number)
  | boolToU32 {a : Operand} (h : a.type = .bool) : Names opcodeBoolToU32 [a]
    (ofNumber .uint32 a.number)
  | boolToI32 {a : Operand} (h : a.type = .bool) : Names opcodeBoolToI32 [a] (ofNumber .int32 a.number)
  | u32ToBool {a : Operand} (h : a.type = .uint32) : Names opcodeU32ToBool [a] (truth (a.number ≠ 0))
  | i32ToBool {a : Operand} (h : a.type = .int32) : Names opcodeI32ToBool [a] (truth (a.number ≠ 0))

def ClampsAbove (opcode : UInt8) : List Operand → Prop
  | [hi, _, value] => opcode = opcodeClamp ∧ hi.number < value.number
  | _ => False

theorem signExtendI16_toUInt16 (v : UInt16) : (signExtendI16 v).toUInt16 = v := by
  have h : (v.toBitVec.signExtend 32).setWidth 16 = v.toBitVec := by
    ext k hk
    have hlt : k < 32 := by omega
    rw [BitVec.getElem_setWidth, BitVec.getLsbD_signExtend, BitVec.getLsbD_eq_getElem hk]
    simp [hk, hlt]
  exact congrArg UInt16.ofBitVec h

theorem toInt16_toInt {v : UInt16} (h : v.toNat < 32768) : v.toInt16.toInt = v.toNat :=
  BitVec.toInt_eq_toNat_of_lt (x := v.toBitVec) (by
    have hv : v.toBitVec.toNat = v.toNat := rfl
    omega)

theorem int16_word {v : UInt16} (h : v.toNat < 32768) :
    StackType.int16.word v.toNat = signExtendI16 v := by
  rw [StackType.word, ← toInt16_toInt h, Int16.ofInt_toInt]
  rfl

theorem ofInt_toNat (a : UInt32) : UInt32.ofInt a.toNat = a := by
  have hlt := a.toNat_lt
  have hmod : (a.toNat : Int) % 2 ^ 32 = a.toNat := Int.emod_eq_of_lt (by omega) (by omega)
  rw [UInt32.ofInt, hmod, Int.toNat_natCast, UInt32.ofNat_toNat]

namespace StackType
variable {t : StackType}

theorem integer_cases (h : isIntegerType t = true) : t = .int16 ∨ t = .uint32 ∨ t = .int32 := by
  cases t <;> simp_all [isIntegerType]

theorem word_add (h : isIntegerType t = true) (a b : UInt32) :
    t.word (t.number a + t.number b) = intPass t (a + b) := by
  obtain rfl | rfl | rfl := integer_cases h
  · simp [word, number, intPass]
  · simp [word, number, intPass, ofInt_toNat]
  · simp [word, number, intPass]

theorem word_sub (h : isIntegerType t = true) (a b : UInt32) :
    t.word (t.number a - t.number b) = intPass t (a - b) := by
  obtain rfl | rfl | rfl := integer_cases h
  · simp [word, number, intPass]
  · simp [word, number, intPass, Int.sub_eq_add_neg, UInt32.ofInt_neg, ofInt_toNat,
      UInt32.sub_eq_add_neg]
  · simp [word, number, intPass]

theorem word_number (h : isIntegerType t = true) (a : UInt32) :
    t.word (t.number a) = intPass t a := by
  obtain rfl | rfl | rfl := integer_cases h
  · simp [word, number, intPass]
  · simp [word, number, intPass, ofInt_toNat]
  · simp [word, number, intPass]

theorem intLess_eq (h : isIntegerType t = true) (a b : UInt32) :
    intLess t a b = decide (t.number a < t.number b) := by
  obtain rfl | rfl | rfl := integer_cases h
  · exact decide_eq_decide.mpr Int16.lt_iff_toInt_lt
  · simp [intLess, number, UInt32.lt_iff_toNat_lt]
  · exact decide_eq_decide.mpr Int32.lt_iff_toInt_lt

theorem word_min (h : isIntegerType t = true) (a b : UInt32) :
    t.word (min (t.number a) (t.number b)) = intPass t (if intLess t b a then b else a) := by
  rw [intLess_eq h]
  by_cases hlt : t.number b < t.number a
  · simp only [hlt, decide_true, if_true, Int.min_eq_right (Int.le_of_lt hlt), word_number h]
  · simp [hlt, Int.min_eq_left (Int.not_lt.mp hlt), word_number h]

theorem word_max (h : isIntegerType t = true) (a b : UInt32) :
    t.word (max (t.number a) (t.number b)) = intPass t (if intLess t a b then b else a) := by
  rw [intLess_eq h]
  by_cases hlt : t.number a < t.number b
  · simp only [hlt, decide_true, if_true, Int.max_eq_right (Int.le_of_lt hlt), word_number h]
  · simp [hlt, Int.max_eq_left (Int.not_lt.mp hlt), word_number h]

theorem number_intPass (h : isIntegerType t = true) (a : UInt32) :
    t.number (intPass t a) = t.number a := by
  obtain rfl | rfl | rfl := integer_cases h
  · simp [number, intPass, signExtendI16_toUInt16]
  · rfl
  · rfl

end StackType

namespace Operand
variable {t : StackType} {a b : Operand}

theorem canonical_truth (p : Bool) : (truth p).Canonical where
  typed := by simp [truth]
  bool := fun _ => by cases p <;> simp [truth, boolWord]
  int16 := fun h => by cases h

theorem canonical_ofNumber (h : t = .int16 ∨ t = .uint32 ∨ t = .int32) (n : Int) :
    (ofNumber t n).Canonical := by
  obtain rfl | rfl | rfl := h
  · constructor <;> simp [ofNumber, StackType.word, signExtendI16_toUInt16]
  · constructor <;> simp [ofNumber]
  · constructor <;> simp [ofNumber]

theorem Alike.canonical (h : Alike t a b) (n : Int) : (ofNumber t n).Canonical :=
  canonical_ofNumber (StackType.integer_cases h.integer) n

theorem Alike.typeOk (h : Alike t a b) :
    (decide (a.type = b.type) && isIntegerType a.type) = true := by
  simp [h.left, h.right, h.integer]

end Operand

variable {opcode : UInt8}

theorem Names.canonical {popped : List Operand} {result : Operand} (h : Names opcode popped result)
    (hpopped : ∀ o ∈ popped, o.Canonical) : result.Canonical := by
  cases h with
  | add h | sub h | min h | max h | clamp h => exact h.canonical _
  | lt | le | gt | ge | u32ToBool | i32ToBool => exact Operand.canonical_truth _
  | signExtend | boolToI32 => exact Operand.canonical_ofNumber (by simp) _
  | truncate => exact Operand.canonical_ofNumber (by simp) _
  | boolToU32 => exact Operand.canonical_ofNumber (by simp) _
  | sel =>
    split
    · exact hpopped _ (by simp)
    · exact hpopped _ (by simp)

/-- What a unit that accepts its operands puts out. -/
def AluResult.pushes (usesMoreOperands : Bool) (o : Operand) : AluResult :=
  ⟨true, usesMoreOperands, true, o.value32, o.type⟩

theorem aluResult_of_typeOk {typeOk : Bool} (h : typeOk = true) (more : Bool) (value : UInt32)
    (type : StackType) : aluResult more typeOk value type = .pushes more ⟨value, type⟩ := by
  rw [aluResult, h]
  rfl

namespace Operand.Alike
variable {t : StackType} {a b : Operand}

theorem leftNumber (h : Alike t a b) : a.number = t.number a.value32 := by rw [number, h.left]

theorem rightNumber (h : Alike t a b) : b.number = t.number b.value32 := by rw [number, h.right]

theorem intLess (h : Alike t a b) :
    intLess a.type a.value32 b.value32 = decide (a.number < b.number) ∧
      intLess a.type b.value32 a.value32 = decide (b.number < a.number) := by
  rw [h.leftNumber, h.rightNumber, h.left]
  exact ⟨StackType.intLess_eq h.integer .., StackType.intLess_eq h.integer ..⟩

theorem aluResult (h : Alike t a b) {n : Int} {value : UInt32} (hvalue : t.word n = value) :
    aluResult false (decide (a.type = b.type) && isIntegerType a.type) value a.type =
      .pushes false (ofNumber t n) := by
  rw [aluResult_of_typeOk h.typeOk, ← hvalue, h.left]
  rfl

theorem aluResult_truth (h : Alike t a b) {p q : Bool} (hp : p = q) :
    NodeNet.Vm.aluResult false (decide (a.type = b.type) && isIntegerType a.type) (boolWord p) .bool =
      .pushes false (truth q) := by
  rw [aluResult_of_typeOk h.typeOk, hp]
  rfl

end Operand.Alike

theorem Names.intAlu {a b result : Operand} (h : Names opcode [b, a] result) (mid : Operand) :
    opcodeIsIntOp opcode = true ∧ intAlu opcode a mid b = .pushes false result := by
  cases h with
  | add h =>
    refine ⟨rfl, h.aluResult ?_⟩
    rw [h.leftNumber, h.rightNumber, h.left, StackType.word_add h.integer]
  | sub h =>
    refine ⟨rfl, h.aluResult ?_⟩
    rw [h.leftNumber, h.rightNumber, h.left, StackType.word_sub h.integer]
  | min h =>
    refine ⟨rfl, h.aluResult ?_⟩
    rw [h.leftNumber, h.rightNumber, h.left, StackType.word_min h.integer]
  | max h =>
    refine ⟨rfl, h.aluResult ?_⟩
    rw [h.leftNumber, h.rightNumber, h.left, StackType.word_max h.integer]
  | lt h => exact ⟨rfl, h.aluResult_truth h.intLess.1⟩
  | le h => exact ⟨rfl, h.aluResult_truth (by simp [h.intLess.2, ← decide_not])⟩
  | gt h => exact ⟨rfl, h.aluResult_truth h.intLess.2⟩
  | ge h => exact ⟨rfl, h.aluResult_truth (by simp [h.intLess.1, ← decide_not])⟩

theorem intAlu_clamp {t : StackType} {value lo hi : Operand} (hlo : value.Alike t lo)
    (hhi : value.Alike t hi) (h : lo.number ≤ hi.number) :
    intAlu opcodeClamp lo value hi =
      .pushes true (.ofNumber t (max lo.number value.number)) := by
  have hnot : ¬t.number hi.value32 < t.number lo.value32 := by
    rw [← hhi.rightNumber, ← hlo.rightNumber]
    exact Int.not_lt.mpr h
  refine (aluResult_of_typeOk (by simp [hlo.right, hhi.right, hlo.left, hlo.integer]) ..).trans ?_
  rw [Operand.ofNumber, hlo.rightNumber, hlo.leftNumber, hlo.right,
    StackType.word_max hlo.integer, StackType.intLess_eq hlo.integer hi.value32]
  simp [hnot]

theorem Names.miscAlu_unary {a result : Operand} (h : Names opcode [a] result) (ha : a.Canonical)
    (next third : Operand) :
    opcodeIsMiscOp opcode = true ∧ miscAlu opcode a next third = .pushes false result := by
  cases h with
  | signExtend h =>
    refine ⟨rfl, (aluResult_of_typeOk (by simp [h]) ..).trans ?_⟩
    simp [Operand.ofNumber, Operand.number, StackType.number, StackType.word, h, signExtendI16]
  | truncate h =>
    refine ⟨rfl, (aluResult_of_typeOk (by simp [h]) ..).trans ?_⟩
    have hlow : a.value32.toInt32.toInt16.toUInt16 = a.value32.toUInt16 :=
      congrArg UInt16.ofBitVec
        (BitVec.signExtend_eq_setWidth_of_le a.value32.toBitVec (by decide))
    simp [Operand.ofNumber, Operand.number, StackType.number, StackType.word, h, hlow]
  | boolToU32 h =>
    refine ⟨rfl, (aluResult_of_typeOk (by simp [h]) ..).trans ?_⟩
    obtain hvalue | hvalue := ha.bool h
    · rw [Operand.ofNumber, Operand.number, h, hvalue]
      rfl
    · rw [Operand.ofNumber, Operand.number, h, hvalue]
      rfl
  | boolToI32 h =>
    refine ⟨rfl, (aluResult_of_typeOk (by simp [h]) ..).trans ?_⟩
    obtain hvalue | hvalue := ha.bool h
    · rw [Operand.ofNumber, Operand.number, h, hvalue]
      rfl
    · rw [Operand.ofNumber, Operand.number, h, hvalue]
      rfl
  | u32ToBool h =>
    refine ⟨rfl, (aluResult_of_typeOk (by simp [h]) ..).trans ?_⟩
    have hzero : a.value32.toNat = 0 ↔ a.value32 = 0 := UInt32.toNat_inj (b := 0)
    simp [Operand.truth, Operand.number, StackType.number, h, hzero]
  | i32ToBool h =>
    refine ⟨rfl, (aluResult_of_typeOk (by simp [h]) ..).trans ?_⟩
    have hzero : a.value32.toInt32.toInt = 0 ↔ a.value32 = 0 :=
      (Int32.toInt_inj (y := 0)).trans ⟨congrArg Int32.toUInt32, congrArg UInt32.toInt32⟩
    simp [Operand.truth, Operand.number, StackType.number, h, hzero]

theorem Names.miscAlu_sel {condition onTrue onFalse result : Operand}
    (h : Names opcode [condition, onTrue, onFalse] result) (hnot : opcode ≠ opcodeClamp)
    (hcondition : condition.Canonical) (htyped : onFalse.type ≠ .none) :
    opcodeIsMiscOp opcode = true ∧
      miscAlu opcode condition onTrue onFalse = .pushes true result := by
  cases h with
  | clamp => exact absurd rfl hnot
  | sel hbool htype =>
    rw [htype] at htyped
    refine ⟨rfl, (aluResult_of_typeOk (by simp [hbool, htype, htyped]) ..).trans ?_⟩
    obtain hvalue | hvalue := hcondition.bool hbool
    · simp [Operand.number, StackType.number, hbool, hvalue]
    · simp [Operand.number, StackType.number, hbool, hvalue]

end NodeNet.Vm

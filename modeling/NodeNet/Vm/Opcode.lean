/-! The opcodes of the PLC virtual machine. -/
namespace NodeNet.Vm

@[match_pattern] abbrev opcodeHalt : UInt8 := 0x00
@[match_pattern] abbrev opcodeNop : UInt8 := 0x01
@[match_pattern] abbrev opcodePushTrue : UInt8 := 0x02
@[match_pattern] abbrev opcodePushFalse : UInt8 := 0x03
@[match_pattern] abbrev opcodeDup : UInt8 := 0x04
@[match_pattern] abbrev opcodeDrop : UInt8 := 0x05
@[match_pattern] abbrev opcodeSwap : UInt8 := 0x06
@[match_pattern] abbrev opcodeAnd : UInt8 := 0x07
@[match_pattern] abbrev opcodeOr : UInt8 := 0x08
@[match_pattern] abbrev opcodeXor : UInt8 := 0x09
@[match_pattern] abbrev opcodeNot : UInt8 := 0x0A
@[match_pattern] abbrev opcodeEq : UInt8 := 0x0B
@[match_pattern] abbrev opcodeNe : UInt8 := 0x0C
@[match_pattern] abbrev opcodeLoadBool : UInt8 := 0x10
@[match_pattern] abbrev opcodeStoreBool : UInt8 := 0x11
@[match_pattern] abbrev opcodeLoadI16 : UInt8 := 0x12
@[match_pattern] abbrev opcodeStoreI16 : UInt8 := 0x13
@[match_pattern] abbrev opcodePushI16 : UInt8 := 0x14
@[match_pattern] abbrev opcodeLoadU32 : UInt8 := 0x15
@[match_pattern] abbrev opcodeStoreU32 : UInt8 := 0x16
@[match_pattern] abbrev opcodeLoadI32 : UInt8 := 0x17
@[match_pattern] abbrev opcodeStoreI32 : UInt8 := 0x18
@[match_pattern] abbrev opcodeLoadF32 : UInt8 := 0x19
@[match_pattern] abbrev opcodeStoreF32 : UInt8 := 0x1A
@[match_pattern] abbrev opcodePushU32 : UInt8 := 0x1B
@[match_pattern] abbrev opcodePushI32 : UInt8 := 0x1C
@[match_pattern] abbrev opcodePushF32 : UInt8 := 0x1D
@[match_pattern] abbrev opcodeIncInt16 : UInt8 := 0x20
@[match_pattern] abbrev opcodeDecInt16 : UInt8 := 0x21
@[match_pattern] abbrev opcodeAdd : UInt8 := 0x22
@[match_pattern] abbrev opcodeSub : UInt8 := 0x23
@[match_pattern] abbrev opcodeLt : UInt8 := 0x24
@[match_pattern] abbrev opcodeLe : UInt8 := 0x25
@[match_pattern] abbrev opcodeGt : UInt8 := 0x26
@[match_pattern] abbrev opcodeGe : UInt8 := 0x27
@[match_pattern] abbrev opcodeMin : UInt8 := 0x28
@[match_pattern] abbrev opcodeMax : UInt8 := 0x29
@[match_pattern] abbrev opcodeClamp : UInt8 := 0x2A
@[match_pattern] abbrev opcodeSel : UInt8 := 0x2B
@[match_pattern] abbrev opcodeJmp : UInt8 := 0x2C
@[match_pattern] abbrev opcodeJz : UInt8 := 0x2D
@[match_pattern] abbrev opcodeJnz : UInt8 := 0x2E
@[match_pattern] abbrev opcodeRTrig : UInt8 := 0x2F
@[match_pattern] abbrev opcodeFTrig : UInt8 := 0x30
@[match_pattern] abbrev opcodeTonStart : UInt8 := 0x31
@[match_pattern] abbrev opcodeTonDone : UInt8 := 0x32
@[match_pattern] abbrev opcodeTonReset : UInt8 := 0x33
@[match_pattern] abbrev opcodeTonElapsed : UInt8 := 0x34
@[match_pattern] abbrev opcodeTonRemaining : UInt8 := 0x35
@[match_pattern] abbrev opcodeTofStart : UInt8 := 0x36
@[match_pattern] abbrev opcodeTofDone : UInt8 := 0x37
@[match_pattern] abbrev opcodeTofReset : UInt8 := 0x38
@[match_pattern] abbrev opcodeTpStart : UInt8 := 0x39
@[match_pattern] abbrev opcodeTpDone : UInt8 := 0x3A
@[match_pattern] abbrev opcodeTpReset : UInt8 := 0x3B
@[match_pattern] abbrev opcodeCtuCount : UInt8 := 0x3C
@[match_pattern] abbrev opcodeCtuDone : UInt8 := 0x3D
@[match_pattern] abbrev opcodeCtuValue : UInt8 := 0x3E
@[match_pattern] abbrev opcodeCtuReset : UInt8 := 0x3F
@[match_pattern] abbrev opcodeCtdCount : UInt8 := 0x40
@[match_pattern] abbrev opcodeCtdDone : UInt8 := 0x41
@[match_pattern] abbrev opcodeCtdValue : UInt8 := 0x42
@[match_pattern] abbrev opcodeCtdReset : UInt8 := 0x43
@[match_pattern] abbrev opcodeFeq : UInt8 := 0x44
@[match_pattern] abbrev opcodeFne : UInt8 := 0x45
@[match_pattern] abbrev opcodeFlt : UInt8 := 0x46
@[match_pattern] abbrev opcodeFle : UInt8 := 0x47
@[match_pattern] abbrev opcodeFgt : UInt8 := 0x48
@[match_pattern] abbrev opcodeFge : UInt8 := 0x49
@[match_pattern] abbrev opcodeSxI16ToI32 : UInt8 := 0x4A
@[match_pattern] abbrev opcodeTruncI32ToI16 : UInt8 := 0x4B
@[match_pattern] abbrev opcodeBoolToU32 : UInt8 := 0x4C
@[match_pattern] abbrev opcodeBoolToI32 : UInt8 := 0x4D
@[match_pattern] abbrev opcodeU32ToBool : UInt8 := 0x4E
@[match_pattern] abbrev opcodeI32ToBool : UInt8 := 0x4F
@[match_pattern] abbrev opcodeFadd : UInt8 := 0x50
@[match_pattern] abbrev opcodeFsub : UInt8 := 0x51
@[match_pattern] abbrev opcodeFmul : UInt8 := 0x52
@[match_pattern] abbrev opcodeFdiv : UInt8 := 0x53

def opcodeIsBoolOp (opcode : UInt8) : Bool :=
  [opcodeAnd, opcodeOr, opcodeXor, opcodeNot, opcodeEq, opcodeNe].contains opcode

def opcodeIsIntOp (opcode : UInt8) : Bool :=
  [opcodeAdd, opcodeSub, opcodeLt, opcodeLe, opcodeGt, opcodeGe, opcodeMin, opcodeMax,
    opcodeClamp].contains opcode

def opcodeIsMiscOp (opcode : UInt8) : Bool :=
  [opcodeSel, opcodeSxI16ToI32, opcodeTruncI32ToI16, opcodeBoolToU32, opcodeBoolToI32,
    opcodeU32ToBool, opcodeI32ToBool].contains opcode

def opcodeIsFloatCompare (opcode : UInt8) : Bool :=
  [opcodeFeq, opcodeFne, opcodeFlt, opcodeFle, opcodeFgt, opcodeFge].contains opcode

def opcodeIsFloatOp (opcode : UInt8) : Bool := [opcodeFadd, opcodeFsub, opcodeFmul].contains opcode

def opcodeIsTimerStart (opcode : UInt8) : Bool :=
  [opcodeTonStart, opcodeTofStart, opcodeTpStart].contains opcode

def opcodeIsTimerReset (opcode : UInt8) : Bool :=
  [opcodeTonReset, opcodeTofReset, opcodeTpReset].contains opcode

def opcodeIsTimerDone (opcode : UInt8) : Bool :=
  [opcodeTonDone, opcodeTofDone, opcodeTpDone].contains opcode

def opcodeIsTimerRead (opcode : UInt8) : Bool :=
  opcodeIsTimerDone opcode || [opcodeTonElapsed, opcodeTonRemaining].contains opcode

def opcodeIsCounterCount (opcode : UInt8) : Bool :=
  [opcodeCtuCount, opcodeCtdCount].contains opcode

def opcodeIsCounterReset (opcode : UInt8) : Bool :=
  [opcodeCtuReset, opcodeCtdReset].contains opcode

def opcodeIsCounterDone (opcode : UInt8) : Bool :=
  [opcodeCtuDone, opcodeCtdDone].contains opcode

def opcodeIsCounterValue (opcode : UInt8) : Bool :=
  [opcodeCtuValue, opcodeCtdValue].contains opcode

def opcodeIsPushWide (opcode : UInt8) : Bool :=
  [opcodePushU32, opcodePushI32, opcodePushF32].contains opcode

def opcodeIsJump (opcode : UInt8) : Bool := [opcodeJmp, opcodeJz, opcodeJnz].contains opcode

def opcodeIsEdge (opcode : UInt8) : Bool := [opcodeRTrig, opcodeFTrig].contains opcode

/-- Loads, stores, increments and decrements. -/
def opcodeIsPointAccess (opcode : UInt8) : Bool :=
  [opcodeLoadBool, opcodeStoreBool, opcodeLoadI16, opcodeStoreI16, opcodeLoadU32, opcodeStoreU32,
    opcodeLoadI32, opcodeStoreI32, opcodeLoadF32, opcodeStoreF32, opcodeIncInt16,
    opcodeDecInt16].contains opcode

/-! The virtual machine's combinational arithmetic units. -/

inductive StackType where
  | none | bool | int16 | uint32 | int32 | float32
  deriving DecidableEq

structure Operand where
  value32 : UInt32
  type : StackType
  deriving DecidableEq

/-- The outputs of an arithmetic unit. -/
structure AluResult where
  supported : Bool
  /-- `uses_two_operands` of the boolean unit, `uses_three_operands` of the others. -/
  usesMoreOperands : Bool
  typeOk : Bool
  value : UInt32
  type : StackType
  deriving DecidableEq

def signExtendI16 (v : UInt16) : UInt32 := v.toInt16.toInt32.toUInt32

def boolWord (b : Bool) : UInt32 := if b then 1 else 0

def unsupported : AluResult := ⟨false, false, false, 0, .none⟩

/-- The result of a unit whose type rule decides whether it computes. -/
def aluResult (usesMoreOperands typeOk : Bool) (value : UInt32) (type : StackType) : AluResult :=
  if typeOk then ⟨true, usesMoreOperands, true, value, type⟩
  else ⟨true, usesMoreOperands, false, 0, .none⟩

def isIntegerType (t : StackType) : Bool := [StackType.int16, .uint32, .int32].contains t

/-- The order of the integer types: signed but for `uint32`. -/
def intLess (t : StackType) (a b : UInt32) : Bool :=
  match t with
  | .int16 => a.toUInt16.toInt16 < b.toUInt16.toInt16
  | .int32 => a.toInt32 < b.toInt32
  | _ => a < b

/-- An operand passed through, cut to 16 bits and sign-extended when it is an `int16`. -/
def intPass (t : StackType) (a : UInt32) : UInt32 :=
  if t = .int16 then signExtendI16 a.toUInt16 else a

def intAlu (opcode : UInt8) (lhs mid rhs : Operand) : AluResult :=
  let t := lhs.type
  let a := lhs.value32
  let b := rhs.value32
  let binary := aluResult false (t = rhs.type && isIntegerType t)
  match opcode with
  | opcodeAdd => binary (intPass t (a + b)) t
  | opcodeSub => binary (intPass t (a - b)) t
  | opcodeLt => binary (boolWord (intLess t a b)) .bool
  | opcodeLe => binary (boolWord (!intLess t b a)) .bool
  | opcodeGt => binary (boolWord (intLess t b a)) .bool
  | opcodeGe => binary (boolWord (!intLess t a b)) .bool
  | opcodeMin => binary (intPass t (if intLess t b a then b else a)) t
  | opcodeMax => binary (intPass t (if intLess t a b then b else a)) t
  | opcodeClamp =>
    aluResult true (t = mid.type && t = rhs.type && isIntegerType t)
      (intPass t (if intLess t a mid.value32 then mid.value32
        else if intLess t b a then b else a)) t
  | _ => unsupported

def miscAlu (opcode : UInt8) (top next third : Operand) : AluResult :=
  let unary (t : StackType) := aluResult false (top.type = t)
  match opcode with
  | opcodeSel =>
    let chosen := if top.value32 ≠ 0 then next else third
    aluResult true (top.type = .bool && third.type ≠ .none && third.type = next.type)
      chosen.value32 chosen.type
  | opcodeSxI16ToI32 => unary .int16 (signExtendI16 top.value32.toUInt16) .int32
  | opcodeTruncI32ToI16 => unary .int32 (signExtendI16 top.value32.toUInt16) .int16
  | opcodeBoolToU32 => unary .bool (top.value32 &&& 1) .uint32
  | opcodeBoolToI32 => unary .bool (top.value32 &&& 1) .int32
  | opcodeU32ToBool => unary .uint32 (boolWord (top.value32 ≠ 0)) .bool
  | opcodeI32ToBool => unary .int32 (boolWord (top.value32 ≠ 0)) .bool
  | _ => unsupported

def boolAlu (opcode : UInt8) (top next : Operand) : AluResult :=
  let bools := aluResult true (next.type = .bool && top.type = .bool)
  let same := aluResult true (next.type ≠ .none && next.type = top.type)
  match opcode with
  | opcodeNot => aluResult false (top.type = .bool) (top.value32 &&& 1 ^^^ 1) .bool
  | opcodeAnd => bools (next.value32 &&& top.value32 &&& 1) .bool
  | opcodeOr => bools ((next.value32 ||| top.value32) &&& 1) .bool
  | opcodeXor => bools ((next.value32 ^^^ top.value32) &&& 1) .bool
  | opcodeEq => same (boolWord (next.value32 = top.value32)) .bool
  | opcodeNe => same (boolWord (next.value32 ≠ top.value32)) .bool
  | _ => unsupported

def float32IsNan (raw : UInt32) : Bool :=
  raw &&& 0x7F800000 = 0x7F800000 && raw &&& 0x007FFFFF ≠ 0

def float32IsZero (raw : UInt32) : Bool := raw &&& 0x7FFFFFFF = 0

def float32OrderedKey (raw : UInt32) : UInt32 :=
  if raw &&& 0x80000000 ≠ 0 then ~~~raw else raw ^^^ 0x80000000

def floatCmpAlu (opcode : UInt8) (lhs rhs : Operand) : AluResult :=
  let a := lhs.value32
  let b := rhs.value32
  let unordered := float32IsNan a || float32IsNan b
  let equal := !unordered && (a = b || (float32IsZero a && float32IsZero b))
  let below (x y : UInt32) : Bool := float32OrderedKey x < float32OrderedKey y
  let compare (b : Bool) :=
    aluResult false (lhs.type = .float32 && rhs.type = .float32) (boolWord b) .bool
  match opcode with
  | opcodeFeq => compare equal
  | opcodeFne => compare (!equal)
  | opcodeFlt => compare (!unordered && !equal && below a b)
  | opcodeFle => compare (!unordered && (equal || below a b))
  | opcodeFgt => compare (!unordered && !equal && below b a)
  | opcodeFge => compare (!unordered && (equal || below b a))
  | _ => unsupported

end NodeNet.Vm

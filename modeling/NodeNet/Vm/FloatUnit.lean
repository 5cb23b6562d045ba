import NodeNet.Vm.EntryAccess
import NodeNet.Vm.IntegerOps
import NodeNet.Vm.TypedStack

/-! The unit that adds, subtracts and multiplies floats, and the machine together with it. -/
namespace NodeNet.Vm

structure FloatOp where
  busy : Bool
  done : Bool
  supported : Bool
  typeOk : Bool
  resultValue : UInt32
  resultType : StackType
  opcodeLatched : UInt8
  lhsLatched : Operand
  rhsLatched : Operand
  deriving DecidableEq

def FloatOp.reset : FloatOp := ⟨false, false, false, false, 0, .none, 0, .empty, .empty⟩

/-- One clock cycle of the unit; `compute` is its arithmetic. -/
def FloatOp.step (compute : UInt8 → UInt32 → UInt32 → UInt32) (u : FloatOp) (start : Bool)
    (opcode : UInt8) (lhs rhs : Operand) : FloatOp :=
  if start && !u.busy then
    { u with
      done := false
      busy := true
      opcodeLatched := opcode
      lhsLatched := lhs
      rhsLatched := rhs }
  else if u.busy then
    let supported := opcodeIsFloatOp u.opcodeLatched
    let typeOk := u.lhsLatched.type = .float32 && u.rhsLatched.type = .float32
    { u with
      busy := false
      done := true
      supported := supported
      typeOk := typeOk
      resultValue :=
        if typeOk && supported then
          compute u.opcodeLatched u.lhsLatched.value32 u.rhsLatched.value32
        else 0
      resultType := if typeOk && supported then .float32 else .none }
  else { u with done := false }

def FloatOp.result (u : FloatOp) : AluResult :=
  ⟨u.supported, false, u.typeOk, u.resultValue, u.resultType⟩

structure FloatVm where
  vm : WbPlc
  floatOp : FloatOp

/-- The machine's inputs, with those that come from the unit. -/
def FloatVm.inputs (p : FloatVm) (i : In) : In :=
  { i with floatOpDone := p.floatOp.done, floatOp := p.floatOp.result }

def FloatVm.step (compute : UInt8 → UInt32 → UInt32 → UInt32) (p : FloatVm) (i : In) : FloatVm where
  vm := p.vm.step (p.inputs i)
  floatOp :=
    p.floatOp.step compute p.vm.floatOpStart p.vm.currentOpcode p.vm.data.stack.next
      p.vm.data.stack.top

def FloatVm.reset (adr dat : UInt32) : FloatVm := ⟨.reset adr dat, .reset⟩

theorem canonical_of_typed {value : UInt32} {type : StackType} (hnone : type ≠ .none)
    (hbool : type ≠ .bool) (hint : type ≠ .int16) : (Operand.mk value type).Canonical where
  typed := hnone
  bool := fun h => absurd h hbool
  int16 := fun h => absurd h hint

end NodeNet.Vm

import NodeNet.Lib.Binary32
import NodeNet.Lib.Machine

/-! The iterative divider of floats as its clock drives it. -/
namespace NodeNet.Vm
open NodeNet.Binary32

inductive FdivState where
  | idle | prep | divide | round
  deriving DecidableEq

/-- The inputs of the divider in one clock cycle. -/
structure FdivIn where
  start : Bool
  a : BitVec 32
  b : BitVec 32
  deriving DecidableEq

structure Fdiv where
  state : FdivState
  aLatched : BitVec 32
  bLatched : BitVec 32
  mantA : BitVec 24
  mantB : BitVec 24
  expAUnbiased : BitVec 11
  expBUnbiased : BitVec 11
  resultExpUnbiased : BitVec 11
  divisor : BitVec 25
  remainder : BitVec 25
  quotientMain : BitVec 24
  guardBit : Bool
  roundBit : Bool
  stickyBit : Bool
  iterCount : BitVec 5
  result : BitVec 32
  busy : Bool
  done : Bool
  divByZero : Bool
  invalidOp : Bool
  overflow : Bool
  underflow : Bool
  deriving DecidableEq

namespace Fdiv

def floatQnan : BitVec 32 := 0x7FC00000

def reset : Fdiv where
  state := .idle
  aLatched := 0
  bLatched := 0
  mantA := 0
  mantB := 0
  expAUnbiased := 0
  expBUnbiased := 0
  resultExpUnbiased := 0
  divisor := 0
  remainder := 0
  quotientMain := 0
  guardBit := false
  roundBit := false
  stickyBit := false
  iterCount := 0
  result := 0
  busy := false
  done := false
  divByZero := false
  invalidOp := false
  overflow := false
  underflow := false

def packFloatZero (sign : Bool) : BitVec 32 := pack sign 0 0

def packFloatInf (sign : Bool) : BitVec 32 := pack sign 0xFF 0

/-- The number of zeros above the highest set bit. -/
def leadingZeroCount24 (value : BitVec 24) : BitVec 5 :=
  BitVec.ofNat 5 (((List.range 24).find? fun k => value.getLsbD (23 - k)).getD 24)

/-- The mantissa and the unbiased exponent; a denormal is normalized. -/
def decodeOperand (raw : BitVec 32) : BitVec 24 × BitVec 11 :=
  if exponent raw = 0 then
    if fraction raw = 0 then (0, -126)
    else
      let rawMantissa := (fraction raw).setWidth 24
      let shiftCount := leadingZeroCount24 rawMantissa
      (rawMantissa <<< shiftCount, -126 - shiftCount.setWidth 11)
  else ((1 : BitVec 1) ++ fraction raw, (exponent raw).setWidth 11 - 127)

section
variable (d : Fdiv)

def resultSign : Bool := sign d.aLatched ^^ sign d.bLatched
def needsPrescaleShift : Bool := d.mantA < d.mantB
def shiftedRemainder : BitVec 25 := d.remainder <<< 1
def quotientBit : Bool := d.divisor ≤ d.shiftedRemainder
def roundIncrement : Bool :=
  d.guardBit && (d.roundBit || d.stickyBit || d.quotientMain.getLsbD 0)
def roundMantOverflow : Bool := d.roundIncrement && d.quotientMain = 0xFFFFFF
def roundedMantissa : BitVec 24 :=
  if d.roundMantOverflow then 0x800000
  else if d.roundIncrement then d.quotientMain + 1 else d.quotientMain
def roundedExpValue : BitVec 11 := d.resultExpUnbiased + if d.roundMantOverflow then 1 else 0
def finalBiasedExp : BitVec 11 := d.roundedExpValue + 127

/-- The end of a division. -/
def finish (result : BitVec 32) : Fdiv :=
  { d with result := result, busy := false, done := true, state := .idle }

def stepIdle (i : FdivIn) : Fdiv :=
  if i.start then
    { d with
      aLatched := i.a
      bLatched := i.b
      busy := true
      divByZero := false
      invalidOp := false
      overflow := false
      underflow := false
      state := .prep }
  else d

/-- The quotients that need no division, and the mantissas of the others. -/
def stepPrep : Fdiv :=
  let a := d.aLatched
  let b := d.bLatched
  if isNan a || isNan b then { d.finish floatQnan with invalidOp := true }
  else if (isZero a && isZero b) || (isInf a && isInf b) then
    { d.finish floatQnan with invalidOp := true }
  else if isZero b then { d.finish (packFloatInf d.resultSign) with divByZero := true }
  else if isInf a then d.finish (packFloatInf d.resultSign)
  else if isZero a || isInf b then d.finish (packFloatZero d.resultSign)
  else
    { d with
      mantA := (decodeOperand a).1
      expAUnbiased := (decodeOperand a).2
      mantB := (decodeOperand b).1
      expBUnbiased := (decodeOperand b).2
      state := .divide }

/-- The integer bit of the quotient. -/
def stepDivideFirst : Fdiv :=
  { d with
    divisor := d.mantB.setWidth 25
    resultExpUnbiased :=
      d.expAUnbiased - d.expBUnbiased - if d.needsPrescaleShift then 1 else 0
    remainder :=
      if d.needsPrescaleShift then d.mantA ++ (0 : BitVec 1) - d.mantB.setWidth 25
      else d.mantA.setWidth 25 - d.mantB.setWidth 25
    quotientMain := 0x800000
    guardBit := false
    roundBit := false
    stickyBit := false
    iterCount := 25 }

/-- One more bit: the last two are kept apart from the mantissa. -/
def stepDivideNext : Fdiv :=
  let remainder :=
    if d.quotientBit then d.shiftedRemainder - d.divisor else d.shiftedRemainder
  { d with
    remainder := remainder
    quotientMain :=
      if 3 ≤ d.iterCount then d.quotientMain.extractLsb' 0 23 ++ BitVec.ofBool d.quotientBit
      else d.quotientMain
    guardBit := if d.iterCount = 2 then d.quotientBit else d.guardBit
    roundBit := if 2 ≤ d.iterCount then d.roundBit else d.quotientBit
    stickyBit := if d.iterCount = 1 then remainder ≠ 0 else d.stickyBit
    state := if d.iterCount = 1 then .round else .divide
    iterCount := d.iterCount - 1 }

def stepRound : Fdiv :=
  let d' := { d with iterCount := 0 }
  if 255 ≤ d.finalBiasedExp.toInt then
    { d'.finish (packFloatInf d.resultSign) with overflow := true }
  else if d.finalBiasedExp.toInt ≤ 0 then
    { d'.finish (packFloatZero d.resultSign) with underflow := true }
  else
    d'.finish (pack d.resultSign (d.finalBiasedExp.setWidth 8) (d.roundedMantissa.setWidth 23))

/-- One clock cycle out of reset. -/
def step (i : FdivIn) : Fdiv :=
  let d' := { d with done := false }
  match d.state with
  | .idle => d'.stepIdle i
  | .prep => d'.stepPrep
  | .divide => if d.iterCount = 0 then d'.stepDivideFirst else d'.stepDivideNext
  | .round => d'.stepRound

end

end Fdiv

end NodeNet.Vm

import NodeNet.Lib.Machine
import NodeNet.Vm.State

/-! What one clock cycle does in a state that executes an instruction. -/
namespace NodeNet.Vm

/-- The effect of one cycle of an executing state. -/
inductive Action where
  | wait
  | startRead (addr : UInt32)
  | startWrite (addr data : UInt32)
  | move (finishBusCycle : Bool) (state : State) (data : Datapath)
  | fault (finishBusCycle : Bool) (code info : UInt32) (data : Datapath)
  | startFloatOp
  | capture (offsetQ16 : BitVec 13)
  | halted
  | faulted

/-- A fault that leaves the datapath alone. -/
def fault (s : WbPlc) (finish : Bool) (code info : UInt32) : Action :=
  .fault finish code info s.data

def readWord (i : In) (s : WbPlc) (addr : UInt32) (done : UInt32 → Action) : Action :=
  if !s.bus.cyc then .startRead addr else if i.ack then done i.dat else .wait

def writeWord (i : In) (s : WbPlc) (addr data : UInt32) (done : Action) : Action :=
  if !s.bus.cyc then .startWrite addr data else if i.ack then done else .wait

def moveStack (s : WbPlc) (finish : Bool) (state : State) (stack : Stack) : Action :=
  .move finish state { s.data with stack := stack }

def pushNext (s : WbPlc) (finish : Bool) (value : UInt32) (type : StackType) : Action :=
  moveStack s finish .fetchOpcode (s.data.stack.push value type)

def overflow (s : WbPlc) (finish : Bool) : Action :=
  fault s finish faultStackOverflow (UInt32.ofNat s.data.stack.depth.toNat)

def pushOrOverflow (s : WbPlc) (finish : Bool) (value : UInt32) (type : StackType) : Action :=
  if s.data.stack.full then overflow s finish else pushNext s finish value type

/-- Apply an arithmetic unit to the stack. -/
def applyAlu (s : WbPlc) (r : AluResult) (fewer more : Nat)
    (result : Stack → UInt32 → StackType → Stack) : Action :=
  if s.data.stack.depth.toNat < (if r.usesMoreOperands then more else fewer) then
    fault s false faultStackUnderflow (s.currentPc - 1)
  else if !r.supported || !r.typeOk then fault s false faultTypeMismatch (s.currentPc - 1)
  else if r.usesMoreOperands then
    moveStack s false .fetchOpcode (result s.data.stack r.value r.type)
  else moveStack s false .fetchOpcode (s.data.stack.replaceTop r.value r.type)

/-- A unit with two operands that the stack must hold. -/
def applyBinaryAlu (s : WbPlc) (r : AluResult) (usesThree : Bool) : Action :=
  if s.data.stack.depth.toNat < (if usesThree then 3 else 2) then
    fault s false faultStackUnderflow (s.currentPc - 1)
  else if !r.supported || !r.typeOk then fault s false faultTypeMismatch (s.currentPc - 1)
  else if usesThree then
    moveStack s false .fetchOpcode (s.data.stack.ternaryResult r.value r.type)
  else moveStack s false .fetchOpcode (s.data.stack.binaryResult r.value r.type)

/-- Where the decoder sends an opcode with operands. -/
def decodeFetch (opcode : UInt8) : Option State :=
  if opcode = opcodePushI16 || opcodeIsEdge opcode || opcodeIsTimerStart opcode ||
      opcodeIsTimerReset opcode || opcodeIsTimerRead opcode || opcodeIsCounterCount opcode ||
      opcodeIsCounterDone opcode || opcodeIsCounterValue opcode || opcodeIsCounterReset opcode ||
      opcodeIsJump opcode then some .fetchOperand0
  else if opcodeIsPointAccess opcode || opcodeIsPushWide opcode then some .fetchImmediate0
  else none

def decodeExecute (s : WbPlc) : Action :=
  let opcode := s.currentOpcode
  let stack := s.data.stack
  let underflow : Action := fault s false faultStackUnderflow (s.currentPc - 1)
  let next (stack : Stack) : Action := moveStack s false .fetchOpcode stack
  if opcode = opcodeNop then next stack
  else if opcode = opcodePushTrue then pushOrOverflow s false 1 .bool
  else if opcode = opcodePushFalse then pushOrOverflow s false 0 .bool
  else if opcode = opcodeDup then
    if stack.depth = 0 then underflow else if stack.full then overflow s false
    else next stack.dupTop
  else if opcode = opcodeDrop then if stack.depth = 0 then underflow else next stack.drop1
  else if opcode = opcodeSwap then if stack.depth < 2 then underflow else next stack.swapTop2
  else if opcodeIsBoolOp opcode then
    applyAlu s (boolAlu opcode stack.top stack.next) 1 2 Stack.binaryResult
  else if opcodeIsFloatCompare opcode then
    applyBinaryAlu s (floatCmpAlu opcode stack.next stack.top) false
  else if opcodeIsFloatOp opcode then
    if stack.depth < 2 then underflow else .move false .floatOpStart s.data
  else if opcode = opcodeFdiv then
    if stack.depth < 2 then underflow else fault s false faultTypeMismatch (s.currentPc - 1)
  else if opcodeIsIntOp opcode then
    let r := intAlu opcode stack.next stack.third stack.top
    applyBinaryAlu s r r.usesMoreOperands
  else if opcodeIsMiscOp opcode then
    applyAlu s (miscAlu opcode stack.top stack.next stack.third) 1 3 Stack.ternaryResult
  else if opcode = opcodeHalt then .move false .haltWriteStatus s.data
  else fault s false faultInvalidOpcode opcode.toUInt32

/-- `ST_DECODE`, but for a division that suspends the slot. -/
def decode (s : WbPlc) : Action :=
  match decodeFetch s.currentOpcode with
  | some state => .move false state s.data
  | none => decodeExecute s

/-- Drop the checked top of the stack into the pending value of `popped` and go on; a fault leaves
`kept`. -/
def popPending (s : WbPlc) (type : StackType) (info : UInt32) (state : State)
    (kept popped : Datapath) : Action :=
  if s.data.stack.depth = 0 then .fault false faultStackUnderflow info kept
  else if s.data.stack.top.type ≠ type then .fault false faultTypeMismatch info kept
  else
    .move false state { popped with
      pendingStackValue := s.data.stack.top.value32
      stack := s.data.stack.drop1 }

def readDesc1 (s : WbPlc) : Action :=
  if opcodeIsEdge s.currentOpcode then
    let index := s.currentRuntimeIndex.toUInt32
    if edgeStateBits ≤ index then fault s false faultPointIndexOutOfRange index
    else
      let addr := sharedPointStateBase + index * sharedPointStateStride
      .move false .edgeReadValue { s.data with
        runtimeValueAddr := addr
        runtimeStatusAddr := addr + sharedPointStateQualityOffset }
  else if sharedPointStateWindowBytes ≤ s.currentImmediateU32 then
    fault s false faultPointIndexOutOfRange s.currentImmediateU32
  else
    let addr := sharedPointStateBase + s.currentImmediateU32
    let data := { s.data with
      runtimeValueAddr := addr
      runtimeStatusAddr := addr + sharedPointStateQualityOffset }
    -- the addresses are written even when a store faults
    let store (type : StackType) (state : State) :=
      popPending s type s.currentImmediateU32 state data data
    match s.currentOpcode with
    | opcodeLoadBool => .move false .loadBoolValue data
    | opcodeStoreBool => store .bool .storeBoolReadValue
    | opcodeLoadI16 | opcodeIncInt16 | opcodeDecInt16 => .move false .int16ReadValue data
    | opcodeStoreI16 => store .int16 .int16ReadValue
    | opcodeLoadU32 | opcodeLoadI32 | opcodeLoadF32 => .move false .wide32ReadValue data
    | opcodeStoreU32 => store .uint32 .wide32ReadValue
    | opcodeStoreI32 => store .int32 .wide32ReadValue
    | opcodeStoreF32 => store .float32 .wide32ReadValue
    | opcode => .fault false faultInvalidOpcode opcode.toUInt32 data

/-- The check in front of every timer and counter state. -/
def withEntry (s : WbPlc) (a : Action) : Action :=
  if s.cb.timerBase = 0 ∨ s.cb.timerCount ≤ s.currentRuntimeIndex.toUInt32 then
    fault s false faultPointIndexOutOfRange s.currentRuntimeIndex.toUInt32
  else a

def prepStart (s : WbPlc) (state : State) : Action :=
  withEntry s <| popPending s .bool s.currentRuntimeIndex.toUInt32 state s.data { s.data with
    timerEntryBaseAddr := timerEntryAddr s.cb.timerBase s.currentRuntimeIndex }

def pending (s : WbPlc) : Bool := s.data.pendingStackValue &&& 1 ≠ 0

def timerReadFlags (i : In) (s : WbPlc) (flags : UInt32) : Action :=
  let d := s.data
  let now := i.msCounter
  let elapsed := timerElapsedValue d.valueWord0 d.valueWord1 flags now
  let data := { d with
    valueWord2 := flags
    timerStatusRunning := hasFlag flags timerFlagRunning
    timerStatusDone := hasFlag flags timerFlagDone
    timerStatusInputHigh := hasFlag flags timerFlagInputHigh
    timerStatusElapsedLtPreset := elapsed < d.valueWord1
    timerStatusElapsedGeImmediate := s.currentImmediateU32 ≤ now - d.valueWord0
    timerStatusImmediateIsZero := s.currentImmediateU32 = 0 }
  let push (value : UInt32) (type : StackType) : Action :=
    .move true .fetchOpcode { data with stack := d.stack.push value type }
  if opcodeIsTimerDone s.currentOpcode then
    push (boolWord (timerDoneLive d.valueWord0 d.valueWord1 flags now)) .bool
  else if s.currentOpcode = opcodeTonElapsed then
    push (signExtendI16 (timerMetricI16 elapsed)) .int16
  else if s.currentOpcode = opcodeTonRemaining then
    push (signExtendI16 (timerMetricI16
      (timerRemainingValue d.valueWord0 d.valueWord1 flags now))) .int16
  else .move true .timerWriteWord0 data

def timerWord0 (i : In) (s : WbPlc) : UInt32 :=
  let d := s.data
  if opcodeIsTimerReset s.currentOpcode then 0
  else if s.currentOpcode = opcodeTonStart then
    if !pending s then 0
    else if !d.timerStatusRunning && !d.timerStatusDone then i.msCounter
    else d.valueWord0
  else if s.currentOpcode = opcodeTofStart then
    if pending s then 0
    else if d.timerStatusInputHigh then i.msCounter
    else if d.timerStatusRunning then d.valueWord0
    else 0
  else if d.timerStatusRunning && d.timerStatusElapsedLtPreset then d.valueWord0
  else if pending s && !d.timerStatusInputHigh then i.msCounter
  else 0

def timerWord1 (s : WbPlc) : UInt32 :=
  if opcodeIsTimerReset s.currentOpcode ∨ (s.currentOpcode = opcodeTonStart ∧ !pending s) then 0
  else s.currentImmediateU32

def timerFlags (s : WbPlc) : UInt32 :=
  let d := s.data
  if opcodeIsTimerReset s.currentOpcode ∨ (s.currentOpcode = opcodeTonStart ∧ !pending s) then 0
  else if s.currentOpcode = opcodeTonStart then
    timerPackFlags timerModeTon true true (d.timerStatusDone || d.timerStatusImmediateIsZero ||
      (d.timerStatusRunning && d.timerStatusElapsedGeImmediate))
  else if s.currentOpcode = opcodeTofStart then
    if pending s then timerPackFlags timerModeTof true false true
    else if d.timerStatusInputHigh then
      if d.timerStatusImmediateIsZero then timerPackFlags timerModeTof false false false
      else timerPackFlags timerModeTof false true true
    else if d.timerStatusRunning && d.timerStatusElapsedLtPreset then
      timerPackFlags timerModeTof false true true
    else timerPackFlags timerModeTof false false false
  else if d.timerStatusRunning && d.timerStatusElapsedLtPreset then
    timerPackFlags timerModeTp (pending s) true true
  else if pending s && !d.timerStatusInputHigh then
    timerPackFlags timerModeTp true (!d.timerStatusImmediateIsZero) true
  else timerPackFlags timerModeTp (pending s) false false

def counterReadFlags (s : WbPlc) (flags : UInt32) : Action :=
  let d := s.data
  let data := { d with valueWord2 := flags }
  let push (value : UInt32) (type : StackType) : Action :=
    .move true .fetchOpcode { data with stack := d.stack.push value type }
  if opcodeIsCounterDone s.currentOpcode then
    push (boolWord (counterDoneLive s.currentOpcode d.valueWord0.toUInt16 d.valueWord1.toUInt16))
      .bool
  else if opcodeIsCounterValue s.currentOpcode then
    push (signExtendI16 d.valueWord0.toUInt16) .int16
  else .move true .counterWriteWord0 data

def counterWord0 (s : WbPlc) : UInt32 :=
  let d := s.data
  if opcodeIsCounterReset s.currentOpcode then
    signExtendI16 (counterResetValue s.currentOpcode d.valueWord1.toUInt16)
  else if s.currentOpcode = opcodeCtuCount then
    signExtendI16 (counterUpNextValue d.valueWord0.toUInt16 d.valueWord2 (pending s))
  else
    signExtendI16 (counterDownNextValue d.valueWord0.toUInt16 s.currentImmediateU32.toUInt16
      d.valueWord2 (pending s))

def counterWord1 (s : WbPlc) : UInt32 :=
  if opcodeIsCounterCount s.currentOpcode then signExtendI16 s.currentImmediateU32.toUInt16
  else s.data.valueWord1

def counterFlags (s : WbPlc) : UInt32 :=
  counterPackFlags (counterModeFromOpcode s.currentOpcode)
    (opcodeIsCounterCount s.currentOpcode && pending s)

/-- The addresses of the two edge words of a point in the slot's scratch memory. -/
def edgePrevAddr (s : WbPlc) : UInt32 :=
  s.cb.slotScratchBase + edgeStateWordByteOffset s.currentRuntimeIndex

def edgeValidAddr (s : WbPlc) : UInt32 :=
  s.cb.slotScratchBase + edgeStateSectionBytes + edgeStateWordByteOffset s.currentRuntimeIndex

def edgeReadValue (s : WbPlc) (value : UInt32) : Action :=
  if s.cb.slotScratchBase = 0 then fault s true faultInvalidOpcode s.currentOpcode.toUInt32
  else if edgeStateBits ≤ s.currentRuntimeIndex.toUInt32 then
    fault s true faultPointIndexOutOfRange s.currentRuntimeIndex.toUInt32
  else if s.data.stack.full then overflow s true
  else .move true .edgeReadPrevWord { s.data with pendingStackValue := value &&& 1 }

def edgeReadValidWord (s : WbPlc) (validWord : UInt32) : Action :=
  let d := s.data
  let mask := edgeStateBitMask s.currentRuntimeIndex
  let valid := hasFlag validWord mask
  let previous := hasFlag d.valueWord0 mask
  let edge := if s.currentOpcode = opcodeRTrig then valid && !previous && pending s
    else valid && previous && !pending s
  .move true .edgeWritePrevWord { d with
    valueWord1 := validWord
    stack := d.stack.push (boolWord edge) .bool }

def int16ReadValue (s : WbPlc) (value : UInt32) : Action :=
  let data := { s.data with valueWord0 := value }
  if s.currentOpcode = opcodeLoadI16 then
    pushOrOverflow s true (signExtendI16 value.toUInt16) .int16
  else if s.currentOpcode = opcodeStoreI16 ∧
      value.toUInt16 = s.data.pendingStackValue.toUInt16 then .move true .int16WriteStatus0 data
  else .move true .int16WriteValue0 data

def int16Value (s : WbPlc) : UInt32 :=
  let value := signExtendI16 s.data.valueWord0.toUInt16
  if s.currentOpcode = opcodeStoreI16 then signExtendI16 s.data.pendingStackValue.toUInt16
  else if s.currentOpcode = opcodeIncInt16 then value + 1
  else value - 1

def wide32ReadValue (s : WbPlc) (value : UInt32) : Action :=
  match s.currentOpcode with
  | opcodeLoadU32 => pushOrOverflow s true value .uint32
  | opcodeLoadI32 => pushOrOverflow s true value .int32
  | opcodeLoadF32 => pushOrOverflow s true value .float32
  | _ =>
    .move true (if value = s.data.pendingStackValue then .int16WriteStatus0 else .wide32WriteValue0)
      { s.data with valueWord0 := value }

def writeThen (i : In) (s : WbPlc) (addr data : UInt32) (state : State) : Action :=
  writeWord i s addr data (.move true state s.data)

/-- The timestamps lie after the quality word. -/
def statusAddr (s : WbPlc) (offset : UInt32) : UInt32 :=
  s.data.runtimeStatusAddr + (offset - sharedPointStateQualityOffset)

def captureStore (s : WbPlc) : Action :=
  .capture (addrQ16 s.data.runtimeValueAddr - addrQ16 sharedPointStateBase)

def execute (i : In) (s : WbPlc) : Action :=
  let d := s.data
  match s.state with
  | .pushI16Value => pushOrOverflow s false (signExtendI16 s.currentRuntimeIndex) .int16
  | .pushWide32Value =>
    pushOrOverflow s false s.currentImmediateU32
      (if s.currentOpcode = opcodePushU32 then .uint32
        else if s.currentOpcode = opcodePushI32 then .int32 else .float32)
  | .floatOpStart => .startFloatOp
  | .floatOpWait =>
    if !i.floatOpDone then .wait
    else if !i.floatOp.supported || !i.floatOp.typeOk then
      fault s false faultTypeMismatch (s.currentPc - 1)
    else moveStack s false .fetchOpcode (d.stack.binaryResult i.floatOp.value i.floatOp.type)
  | .readDesc0 => .move false .readDesc1 d
  | .readDesc1 => readDesc1 s
  | .loadBoolValue =>
    readWord i s d.runtimeValueAddr fun value => pushOrOverflow s true (value &&& 1) .bool
  | .edgeReadValue => readWord i s d.runtimeValueAddr (edgeReadValue s)
  | .edgeReadPrevWord =>
    readWord i s (edgePrevAddr s) fun value =>
      .move true .edgeReadValidWord { d with valueWord0 := value }
  | .edgeReadValidWord => readWord i s (edgeValidAddr s) (edgeReadValidWord s)
  | .edgeWritePrevWord =>
    let mask := edgeStateBitMask s.currentRuntimeIndex
    writeThen i s (edgePrevAddr s)
      (if pending s then d.valueWord0 ||| mask else d.valueWord0 &&& ~~~mask) .edgeWriteValidWord
  | .edgeWriteValidWord =>
    writeThen i s (edgeValidAddr s) (d.valueWord1 ||| edgeStateBitMask s.currentRuntimeIndex)
      .fetchOpcode
  | .timerPrepStart => prepStart s .timerReadWord0
  | .timerReadWord0 =>
    withEntry s <|
      if opcodeIsTimerRead s.currentOpcode && d.stack.full then overflow s false
      else readWord i s d.timerEntryBaseAddr fun value =>
        .move true .timerReadWord1 { d with valueWord0 := value }
  | .timerReadWord1 =>
    withEntry s <| readWord i s (d.timerEntryBaseAddr + 4) fun value =>
      .move true .timerReadFlags { d with valueWord1 := value }
  | .timerReadFlags =>
    withEntry s <| readWord i s (d.timerEntryBaseAddr + 8) (timerReadFlags i s)
  | .timerWriteWord0 =>
    withEntry s <| writeThen i s d.timerEntryBaseAddr (timerWord0 i s) .timerWriteWord1
  | .timerWriteWord1 =>
    withEntry s <| writeThen i s (d.timerEntryBaseAddr + 4) (timerWord1 s) .timerWriteFlags
  | .timerWriteFlags =>
    withEntry s <| writeThen i s (d.timerEntryBaseAddr + 8) (timerFlags s) .fetchOpcode
  | .counterPrepStart => prepStart s .counterReadWord0
  | .counterReadWord0 =>
    withEntry s <|
      if (opcodeIsCounterDone s.currentOpcode || opcodeIsCounterValue s.currentOpcode) &&
          d.stack.full then overflow s false
      else readWord i s d.timerEntryBaseAddr fun value =>
        .move true .counterReadWord1 { d with valueWord0 := value }
  | .counterReadWord1 =>
    withEntry s <| readWord i s (d.timerEntryBaseAddr + 4) fun value =>
      .move true .counterReadFlags { d with valueWord1 := value }
  | .counterReadFlags =>
    withEntry s <| readWord i s (d.timerEntryBaseAddr + 8) (counterReadFlags s)
  | .counterWriteWord0 =>
    withEntry s <| writeThen i s d.timerEntryBaseAddr (counterWord0 s) .counterWriteWord1
  | .counterWriteWord1 =>
    withEntry s <| writeThen i s (d.timerEntryBaseAddr + 4) (counterWord1 s) .counterWriteFlags
  | .counterWriteFlags =>
    withEntry s <| writeThen i s (d.timerEntryBaseAddr + 8) (counterFlags s) .fetchOpcode
  | .storeBoolReadValue =>
    readWord i s d.runtimeValueAddr fun value =>
      .move true (if value &&& 1 = d.pendingStackValue &&& 1 then .storeBoolWriteStatus0
        else .storeBoolWriteValue0) { d with valueWord0 := value }
  | .storeBoolWriteValue0 =>
    writeThen i s d.runtimeValueAddr (d.pendingStackValue &&& 1) .storeBoolWriteStatus0
  | .storeBoolWriteStatus0 =>
    writeThen i s d.runtimeStatusAddr pointQualityGood .storeBoolWriteStatus1
  | .storeBoolWriteStatus1 =>
    writeThen i s (statusAddr s sharedPointStateLastUpdateOffset) i.msCounter
      .storeBoolWriteStatus2
  | .storeBoolWriteStatus2 =>
    writeThen i s (statusAddr s sharedPointStateLastGoodUpdateOffset) i.msCounter
      .storeBoolWriteStatus3
  | .storeBoolWriteStatus3 => captureStore s
  | .int16ReadValue => readWord i s d.runtimeValueAddr (int16ReadValue s)
  | .wide32ReadValue => readWord i s d.runtimeValueAddr (wide32ReadValue s)
  | .int16WriteValue0 => writeThen i s d.runtimeValueAddr (int16Value s) .int16WriteStatus0
  | .wide32WriteValue0 => writeThen i s d.runtimeValueAddr d.pendingStackValue .int16WriteStatus0
  | .int16WriteStatus0 => writeThen i s d.runtimeStatusAddr pointQualityGood .int16WriteStatus1
  | .int16WriteStatus1 =>
    writeThen i s (statusAddr s sharedPointStateLastUpdateOffset) i.msCounter .int16WriteStatus2
  | .int16WriteStatus2 =>
    writeThen i s (statusAddr s sharedPointStateLastGoodUpdateOffset) i.msCounter
      .int16WriteStatus3
  | .int16WriteStatus3 => captureStore s
  | .haltWriteStatus =>
    writeThen i s (s.controlBlockAddr + 12) slotStatusRunning .haltWritePc
  | .haltWritePc => writeThen i s (s.controlBlockAddr + 16) s.slotEntryPc .haltWriteCycle
  | .haltWriteCycle =>
    writeWord i s (s.controlBlockAddr + 20) (s.cb.cycleCounter + 1) .halted
  | .faultWriteStatus =>
    writeThen i s (s.controlBlockAddr + 12) (s.cb.status ||| slotStatusFaulted) .faultWriteCode
  | .faultWriteCode => writeThen i s (s.controlBlockAddr + 24) s.faultCodePending .faultWriteInfo
  | .faultWriteInfo => writeWord i s (s.controlBlockAddr + 28) s.faultInfoPending .faulted
  | _ => .wait

/-! One clock cycle of the virtual machine. -/

/-- The assignments in front of the state machine's `case`. -/
def WbPlc.latch (i : In) (s : WbPlc) : WbPlc :=
  { s with
    floatOpStart := false
    fdiv :=
      if i.fdivDone then
        { s.fdiv with
          start := false
          resultValid := true
          resultSlot := s.fdiv.ownerSlot
          resultValueLatched := i.fdivResultValue }
      else { s.fdiv with start := false }
    dirtyEvent :=
      { s.dirtyEvent with
        valid := s.dirtyEvent.valid && !i.clearDirtyEventValidRequest
        overflow := s.dirtyEvent.overflow && !i.clearDirtyEventOverflowRequest }
    lastFaultCode := if i.clearFaultRequest then 0 else s.lastFaultCode
    lastFaultSlot := if i.clearFaultRequest then 0 else s.lastFaultSlot }

def WbPlc.finishIf (s : WbPlc) (finish : Bool) : WbPlc := if finish then s.finishBusCycle else s

/-- Carry out an action; `old` holds the registers as the cycle starts. -/
def WbPlc.perform (s old : WbPlc) : Action → WbPlc
  | .wait => s
  | .startRead addr => s.startRead addr
  | .startWrite addr data => s.startWrite addr data
  | .move finish state data => { s.finishIf finish with state := state, data := data }
  | .fault finish code info data => { (s.finishIf finish).beginFault code info with data := data }
  | .startFloatOp => { s with floatOpStart := true, state := .floatOpWait }
  | .capture offsetQ16 =>
    { s with
      dirtyEvent := captureDirtyPointStateOffsetQ16 old.dirtyEvent s.dirtyEvent offsetQ16
      state := .fetchOpcode }
  | .halted => { s.finishBusCycle with scanCounter := s.scanCounter + 1, state := .nextSlot }
  | .faulted =>
    { s.finishBusCycle with
      lastFaultCode := s.faultCodePending
      lastFaultSlot := UInt8.ofNat s.activeSlot.toNat
      state := .nextSlot }

def WbPlc.startSweep (s : WbPlc) : WbPlc :=
  { s with activeSlot := 0, controlBlockAddr := slotControlBlockAddr 0, state := .readCbMagic }

/-- A slot waits for the divider, or the divider is busy or holds a result. -/
def divisionPending (i : In) (old : WbPlc) : Bool :=
  hasPendingSlotWaits old.slotWait || i.fdivBusy || old.fdiv.resultValid

def stepIdle (i : In) (old s : WbPlc) : WbPlc :=
  let s := { s.finishBusCycle with cachedWord := { s.cachedWord with valid := false } }
  if !i.engineEnable || !i.sdramReady then { s with scanCountdown := i.scanIntervalCycles }
  else if divisionPending i old then s.startSweep
  else if s.scanCountdown ≠ 0 then { s with scanCountdown := s.scanCountdown - 1 }
  else { s.startSweep with scanCountdown := i.scanIntervalCycles }

/-- Read a word of the control block or the manifest. -/
def readCb (i : In) (s : WbPlc) (addr : UInt32) (done : UInt32 → WbPlc → WbPlc) : WbPlc :=
  if !s.bus.cyc then s.startRead addr
  else if i.ack then done i.dat s.finishBusCycle
  else s

/-- Store a word of the control block in a register. -/
def loadCb (i : In) (s : WbPlc) (offset : UInt32) (state : State)
    (store : UInt32 → ControlBlock → ControlBlock) : WbPlc :=
  readCb i s (s.controlBlockAddr + offset) fun word s =>
    { s with cb := store word s.cb, state := state }

/-- Nothing of the slot is executed in this sweep. -/
def slotSkipped (cb : ControlBlock) : Bool :=
  cb.control &&& slotControlPaused ≠ 0 || cb.status &&& slotStatusFaulted ≠ 0 ||
    cb.bytecodeBase = 0 || cb.bytecodeSize = 0 || cb.maxInstructions = 0

def slotStartPc (cb : ControlBlock) : UInt32 := if cb.pc < cb.bytecodeSize then cb.pc else 0

def stepSlotCheck (s : WbPlc) : WbPlc :=
  let wait := s.slotWait s.activeSlot
  if slotSkipped s.cb then { s with state := .nextSlot }
  else if wait.state ≠ .none then
    { s with
      slotEntryPc := wait.entryPc
      currentPc := wait.pc
      instructionCount := wait.instructionCount
      data := { s.data with stack := wait.stack, pendingStackValue := 0 }
      cachedWord := { s.cachedWord with valid := false }
      state := .slotResume }
  else
    { s with
      slotEntryPc := slotStartPc s.cb
      currentPc := slotStartPc s.cb
      instructionCount := 0
      data := { s.data with stack := .empty, pendingStackValue := 0 }
      cachedWord := { s.cachedWord with valid := false }
      state := .fetchOpcode }

def WbPlc.codeAddr (s : WbPlc) : UInt32 := s.cb.bytecodeBase + s.currentPc

def WbPlc.codeWordAddr (s : WbPlc) : UInt32 := s.codeAddr &&& 0xFFFFFFFC

/-- Take the code byte at the current pc, from the cached word or from memory. -/
def fetchByte (i : In) (s : WbPlc) (take : UInt8 → WbPlc → WbPlc) : WbPlc :=
  if s.cachedWord.valid && s.cachedWord.addr = s.codeWordAddr then
    take (pickByte s.cachedWord.data s.codeAddr) { s with currentPc := s.currentPc + 1 }
  else if !s.bus.cyc then s.startRead s.codeWordAddr
  else if i.ack then
    take (pickByte i.dat s.codeAddr)
      { s.finishBusCycle with
        cachedWord := ⟨true, s.codeWordAddr, i.dat⟩
        currentPc := s.currentPc + 1 }
  else s

def stepFetchOpcode (i : In) (s : WbPlc) : WbPlc :=
  if s.cb.maxInstructions ≤ s.instructionCount then
    s.beginFault faultScanBudgetExceeded s.instructionCount
  else if s.cb.bytecodeSize ≤ s.currentPc then s.beginFault faultInvalidOpcode s.currentPc
  else fetchByte i s fun byte s =>
    { s with
      currentOpcode := byte
      instructionCount := s.instructionCount + 1
      state := .decode }

/-- Take an operand byte; `taken` counts the instruction's bytes before it. -/
def fetchOperandByte (i : In) (s : WbPlc) (taken : UInt32) (take : UInt8 → WbPlc → WbPlc) : WbPlc :=
  if s.cb.bytecodeSize ≤ s.currentPc then
    s.beginFault faultPointIndexOutOfRange (s.currentPc - taken)
  else fetchByte i s take

def afterOperand1 (opcode : UInt8) : State :=
  if opcode = opcodePushI16 then .pushI16Value
  else if opcodeIsJump opcode then .branchExecute
  else if opcodeIsTimerStart opcode || opcodeIsCounterCount opcode then .fetchImmediate0
  else if opcodeIsTimerRead opcode || opcodeIsTimerReset opcode then .timerReadWord0
  else if opcodeIsCounterDone opcode || opcodeIsCounterValue opcode ||
      opcodeIsCounterReset opcode then .counterReadWord0
  else .readDesc0

def afterImmediate1 (opcode : UInt8) : State :=
  if opcodeIsCounterCount opcode then .counterPrepStart else .fetchImmediate2

def afterImmediate3 (opcode : UInt8) : State :=
  if opcodeIsPushWide opcode then .pushWide32Value
  else if opcodeIsPointAccess opcode then .readDesc0
  else .timerPrepStart

def withByte0 (v : UInt16) (byte : UInt8) : UInt16 := (v &&& 0xFF00) ||| byte.toUInt16

def withByte1 (v : UInt16) (byte : UInt8) : UInt16 :=
  (v &&& 0x00FF) ||| byte.toUInt16 <<< (8 : UInt16)

/-- The bits of the mask are kept. -/
def withByte (v mask shift : UInt32) (byte : UInt8) : UInt32 :=
  (v &&& mask) ||| (byte.toUInt32 <<< shift)

def stepFetchOperand0 (i : In) (s : WbPlc) : WbPlc :=
  fetchOperandByte i s 1 fun byte s =>
    { s with
      currentRuntimeIndex := withByte0 s.currentRuntimeIndex byte
      state := .fetchOperand1 }

def stepFetchOperand1 (i : In) (s : WbPlc) : WbPlc :=
  fetchOperandByte i s 2 fun byte s =>
    { s with
      currentRuntimeIndex := withByte1 s.currentRuntimeIndex byte
      state := afterOperand1 s.currentOpcode }

def stepFetchImmediate0 (i : In) (s : WbPlc) : WbPlc :=
  fetchOperandByte i s 3 fun byte s =>
    { s with
      currentImmediateU32 := withByte s.currentImmediateU32 0xFFFFFF00 0 byte
      state := .fetchImmediate1 }

def stepFetchImmediate1 (i : In) (s : WbPlc) : WbPlc :=
  fetchOperandByte i s 4 fun byte s =>
    { s with
      currentImmediateU32 := withByte s.currentImmediateU32 0x000000FF 8 byte
      state := afterImmediate1 s.currentOpcode }

def stepFetchImmediate2 (i : In) (s : WbPlc) : WbPlc :=
  fetchOperandByte i s 5 fun byte s =>
    { s with
      currentImmediateU32 := withByte s.currentImmediateU32 0xFF00FFFF 16 byte
      state := .fetchImmediate3 }

def stepFetchImmediate3 (i : In) (s : WbPlc) : WbPlc :=
  fetchOperandByte i s 6 fun byte s =>
    { s with
      currentImmediateU32 := withByte s.currentImmediateU32 0x00FFFFFF 24 byte
      state := afterImmediate3 s.currentOpcode }

/-- Hand the operands to the divider, if it is free, and leave the slot. -/
def startDivision (i : In) (old s : WbPlc) (wait : SlotWait) : WbPlc :=
  if !i.fdivBusy && !old.fdiv.resultValid then
    { s.setWait s.activeSlot { wait with state := .fdivDone } with
      fdiv := { s.fdiv with start := true, ownerSlot := s.activeSlot }
      state := .nextSlot }
  else
    { s.setWait s.activeSlot { wait with state := .fdivStart } with state := .nextSlot }

/-- The decoded instruction is a division that can start. -/
def WbPlc.divides (s : WbPlc) : Bool :=
  s.currentOpcode = opcodeFdiv && !(s.data.stack.depth < 2) &&
    s.data.stack.next.type = .float32 && s.data.stack.top.type = .float32

def stepDecode (i : In) (old s : WbPlc) : WbPlc :=
  if s.divides then
    startDivision i old s
      { state := .none
        pc := s.currentPc
        instructionCount := s.instructionCount
        entryPc := s.slotEntryPc
        stack := s.data.stack }
  else s.perform old (decode old)

def stepSlotResume (i : In) (old s : WbPlc) : WbPlc :=
  let wait := s.slotWait s.activeSlot
  match wait.state with
  | .fdivStart => startDivision i old s wait
  | .fdivDone =>
    if old.fdiv.resultValid && old.fdiv.resultSlot = s.activeSlot then
      { s.setWait s.activeSlot { wait with state := .none } with
        data := { s.data with
          stack := s.data.stack.binaryResult old.fdiv.resultValueLatched .float32 }
        fdiv := { s.fdiv with resultValid := false }
        state := .fetchOpcode }
    else { s with state := .nextSlot }
  | .none => { s with state := .fetchOpcode }

def branchTargetPc (basePc : UInt32) (rel16 : UInt16) : UInt32 := basePc + signExtendI16 rel16

def branchConditional (s : WbPlc) (taken : Bool) : WbPlc :=
  let target := branchTargetPc s.currentPc s.currentRuntimeIndex
  if s.data.stack.depth < 1 then s.beginFault faultStackUnderflow (s.currentPc - 3)
  else if s.data.stack.top.type ≠ .bool then s.beginFault faultTypeMismatch (s.currentPc - 3)
  else if taken && s.cb.bytecodeSize ≤ target then s.beginFault faultInvalidOpcode (s.currentPc - 3)
  else
    { s with
      data := { s.data with stack := s.data.stack.drop1 }
      currentPc := if taken then target else s.currentPc
      state := .fetchOpcode }

def stepBranchExecute (s : WbPlc) : WbPlc :=
  let target := branchTargetPc s.currentPc s.currentRuntimeIndex
  match s.currentOpcode with
  | opcodeJmp =>
    if s.cb.bytecodeSize ≤ target then s.beginFault faultInvalidOpcode (s.currentPc - 3)
    else { s with currentPc := target, state := .fetchOpcode }
  | opcodeJz => branchConditional s (s.data.stack.top.value32 = 0)
  | opcodeJnz => branchConditional s (s.data.stack.top.value32 ≠ 0)
  | opcode => s.beginFault faultInvalidOpcode opcode.toUInt32

def stepNextSlot (i : In) (old s : WbPlc) : WbPlc :=
  let s := { s with cachedWord := { s.cachedWord with valid := false } }
  if s.activeSlot = 15 then
    if divisionPending i old then s.startSweep else { s with state := .idle }
  else
    { s with
      activeSlot := s.activeSlot + 1
      controlBlockAddr := slotControlBlockAddr (s.activeSlot + 1)
      state := .readCbMagic }

/-- One clock cycle out of reset. -/
def WbPlc.step (old : WbPlc) (i : In) : WbPlc :=
  let s := old.latch i
  match s.state with
  | .idle => stepIdle i old s
  | .readCbMagic =>
    readCb i s s.controlBlockAddr fun word s =>
      { s with state := if word ≠ magicControlBlock then .nextSlot else .readCbHeader }
  | .readCbHeader =>
    readCb i s (s.controlBlockAddr + 4) fun word s =>
      { s with
        state :=
          if (word >>> 16).toNat ≠ s.activeSlot.toNat then .nextSlot else .readCbControl }
  | .readCbControl => loadCb i s 8 .readCbStatus fun word cb => { cb with control := word }
  | .readCbStatus => loadCb i s 12 .readCbPc fun word cb => { cb with status := word }
  | .readCbPc => loadCb i s 16 .readCbCycle fun word cb => { cb with pc := word }
  | .readCbCycle => loadCb i s 20 .readCbCodeBase fun word cb => { cb with cycleCounter := word }
  | .readCbCodeBase =>
    loadCb i s 32 .readCbCodeSize fun word cb => { cb with bytecodeBase := word }
  | .readCbCodeSize =>
    loadCb i s 36 .readCbTimerBase fun word cb => { cb with bytecodeSize := word }
  | .readCbTimerBase =>
    loadCb i s 48 .readCbTimerCount fun word cb => { cb with timerBase := word }
  | .readCbTimerCount =>
    loadCb i s 52 .readCbMaxInstr fun word cb => { cb with timerCount := word }
  | .readCbMaxInstr =>
    loadCb i s 56 .readSlotScratchBase fun word cb => { cb with maxInstructions := word }
  | .readSlotScratchBase =>
    readCb i s (slotManifestAddr s.activeSlot + 56) fun word s =>
      { s with cb := { s.cb with slotScratchBase := word }, state := .slotCheck }
  | .slotCheck => stepSlotCheck s
  | .fetchOpcode => stepFetchOpcode i s
  | .fetchOperand0 => stepFetchOperand0 i s
  | .fetchOperand1 => stepFetchOperand1 i s
  | .fetchImmediate0 => stepFetchImmediate0 i s
  | .fetchImmediate1 => stepFetchImmediate1 i s
  | .fetchImmediate2 => stepFetchImmediate2 i s
  | .fetchImmediate3 => stepFetchImmediate3 i s
  | .decode => stepDecode i old s
  | .slotResume => stepSlotResume i old s
  | .branchExecute => stepBranchExecute s
  | .nextSlot => stepNextSlot i old s
  | _ => s.perform old (execute i old)

end NodeNet.Vm

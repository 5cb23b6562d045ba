import NodeNet.Vm.Opcode

/-! The registers of the virtual machine, its inputs and its helper functions. -/
namespace NodeNet.Vm

/-- The states of the machine, `ST_*` in the source. -/
inductive State where
  | idle
  | readCbMagic | readCbHeader | readCbControl | readCbStatus | readCbPc | readCbCycle
  | readCbCodeBase | readCbCodeSize | readCbTimerBase | readCbTimerCount | readCbMaxInstr
  | readSlotScratchBase | slotCheck
  | fetchOpcode | fetchOperand0 | fetchOperand1
  | fetchImmediate0 | fetchImmediate1 | fetchImmediate2 | fetchImmediate3 | decode
  | pushI16Value | pushWide32Value | branchExecute | slotResume | floatOpStart | floatOpWait
  | readDesc0 | readDesc1
  | loadBoolValue | storeBoolReadValue | storeBoolWriteValue0
  | storeBoolWriteStatus0 | storeBoolWriteStatus1 | storeBoolWriteStatus2 | storeBoolWriteStatus3
  | int16ReadValue | int16WriteValue0 | wide32ReadValue | wide32WriteValue0
  | int16WriteStatus0 | int16WriteStatus1 | int16WriteStatus2 | int16WriteStatus3
  | edgeReadValue | edgeReadPrevWord | edgeReadValidWord | edgeWritePrevWord | edgeWriteValidWord
  | timerPrepStart | timerReadWord0 | timerReadWord1 | timerReadFlags
  | timerWriteWord0 | timerWriteWord1 | timerWriteFlags
  | counterPrepStart | counterReadWord0 | counterReadWord1 | counterReadFlags
  | counterWriteWord0 | counterWriteWord1 | counterWriteFlags
  | haltWriteStatus | haltWritePc | haltWriteCycle
  | faultWriteStatus | faultWriteCode | faultWriteInfo | nextSlot
  deriving DecidableEq

abbrev SlotId := BitVec 5

def slotCount : Nat := 16

structure Stack where
  stack0 : Operand
  stack1 : Operand
  stack2 : Operand
  stack3 : Operand
  depth : BitVec 3
  deriving DecidableEq

inductive SlotWaitState where
  | none | fdivStart | fdivDone
  deriving DecidableEq

structure SlotWait where
  state : SlotWaitState
  pc : UInt32
  instructionCount : UInt32
  entryPc : UInt32
  stack : Stack
  deriving DecidableEq

/-- The registers loaded from the slot's control block and manifest. -/
structure ControlBlock where
  control : UInt32
  status : UInt32
  pc : UInt32
  cycleCounter : UInt32
  bytecodeBase : UInt32
  bytecodeSize : UInt32
  timerBase : UInt32
  timerCount : UInt32
  maxInstructions : UInt32
  slotScratchBase : UInt32
  deriving DecidableEq

/-- The bus master's outputs; `m_sel_o` is constant and `m_stb_o` follows `m_cyc_o`. -/
structure Bus where
  cyc : Bool
  we : Bool
  adr : UInt32
  dat : UInt32
  deriving DecidableEq

structure CachedWord where
  valid : Bool
  addr : UInt32
  data : UInt32
  deriving DecidableEq

structure FdivPort where
  start : Bool
  ownerSlot : SlotId
  resultValid : Bool
  resultSlot : SlotId
  resultValueLatched : UInt32
  deriving DecidableEq

structure DirtyEvent where
  valid : Bool
  overflow : Bool
  offsetQ16 : BitVec 13
  deriving DecidableEq

/-- The registers that executing an instruction computes with. -/
structure Datapath where
  stack : Stack
  pendingStackValue : UInt32
  timerEntryBaseAddr : UInt32
  runtimeValueAddr : UInt32
  runtimeStatusAddr : UInt32
  valueWord0 : UInt32
  valueWord1 : UInt32
  valueWord2 : UInt32
  timerStatusRunning : Bool
  timerStatusDone : Bool
  timerStatusInputHigh : Bool
  timerStatusElapsedLtPreset : Bool
  timerStatusElapsedGeImmediate : Bool
  timerStatusImmediateIsZero : Bool
  deriving DecidableEq

structure WbPlc where
  state : State
  activeSlot : SlotId
  controlBlockAddr : UInt32
  cb : ControlBlock
  slotEntryPc : UInt32
  currentPc : UInt32
  instructionCount : UInt32
  currentOpcode : UInt8
  currentRuntimeIndex : UInt16
  currentImmediateU32 : UInt32
  data : Datapath
  bus : Bus
  cachedWord : CachedWord
  floatOpStart : Bool
  fdiv : FdivPort
  slotWait : SlotId → SlotWait
  dirtyEvent : DirtyEvent
  faultCodePending : UInt32
  faultInfoPending : UInt32
  scanCountdown : UInt32
  scanCounter : UInt32
  lastFaultCode : UInt32
  lastFaultSlot : UInt8

/-- What the machine sees in one clock cycle: the bus, the registers the processor writes, the
millisecond counter and the outputs of the two sequential float units. -/
structure In where
  ack : Bool
  dat : UInt32
  engineEnable : Bool
  sdramReady : Bool
  scanIntervalCycles : UInt32
  clearFaultRequest : Bool
  clearDirtyEventValidRequest : Bool
  clearDirtyEventOverflowRequest : Bool
  msCounter : UInt32
  floatOpDone : Bool
  floatOp : AluResult
  fdivBusy : Bool
  fdivDone : Bool
  fdivResultValue : UInt32
  deriving DecidableEq

def controlRegionBase : UInt32 := 0x20170000

def slotDirectoryBytes : UInt32 := 16

def slotManifestBytes : UInt32 := 72

def controlBlockBytes : UInt32 := 72

def controlBlockRegionBase : UInt32 :=
  controlRegionBase + slotDirectoryBytes + UInt32.ofNat slotCount * slotManifestBytes

def controlBlockBase : UInt32 := (controlBlockRegionBase + 15) &&& 0xFFFFFFF0

def slotControlBlockAddr (slot : SlotId) : UInt32 :=
  controlBlockBase + UInt32.ofNat slot.toNat * controlBlockBytes

def slotManifestAddr (slot : SlotId) : UInt32 :=
  controlRegionBase + slotDirectoryBytes + UInt32.ofNat slot.toNat * slotManifestBytes

def magicControlBlock : UInt32 := 0x31424350

def slotControlPaused : UInt32 := 1

def slotStatusRunning : UInt32 := 2

def slotStatusFaulted : UInt32 := 0x80000000

def sharedPointStateBase : UInt32 := 0x207E0000

def sharedPointStateStride : UInt32 := 80

def edgeStateBits : UInt32 := 1024

def edgeStateSectionBytes : UInt32 := edgeStateBits / 8

def sharedPointStateWindowBytes : UInt32 := sharedPointStateStride * edgeStateBits

def sharedPointStateQualityOffset : UInt32 := 68

def sharedPointStateLastUpdateOffset : UInt32 := 72

def sharedPointStateLastGoodUpdateOffset : UInt32 := 76

def pointQualityGood : UInt32 := 1

/-- Bits 16 down to 4, the offset in units of 16 bytes. -/
def addrQ16 (addr : UInt32) : BitVec 13 := BitVec.ofNat 13 (addr.toNat / 16)

def sharedPointStateOffsetQ16Max : BitVec 13 := addrQ16 sharedPointStateWindowBytes

def faultInvalidOpcode : UInt32 := 0x01

def faultPointIndexOutOfRange : UInt32 := 0x04

def faultTypeMismatch : UInt32 := 0x05

def faultScanBudgetExceeded : UInt32 := 0x0A

def faultStackUnderflow : UInt32 := 0x0E

def faultStackOverflow : UInt32 := 0x0F

def Operand.empty : Operand := ⟨0, .none⟩

def Stack.empty : Stack := ⟨.empty, .empty, .empty, .empty, 0⟩

def Stack.top (s : Stack) : Operand := if 1 ≤ s.depth then s.stack0 else .empty

def Stack.next (s : Stack) : Operand := if 2 ≤ s.depth then s.stack1 else .empty

def Stack.third (s : Stack) : Operand := if 3 ≤ s.depth then s.stack2 else .empty

def Stack.full (s : Stack) : Bool := 4 ≤ s.depth

def Stack.push (s : Stack) (value : UInt32) (type : StackType) : Stack :=
  ⟨⟨value, type⟩, s.stack0, s.stack1, s.stack2, s.depth + 1⟩

def Stack.drop1 (s : Stack) : Stack := ⟨s.stack1, s.stack2, s.stack3, .empty, s.depth - 1⟩

def Stack.replaceTop (s : Stack) (value : UInt32) (type : StackType) : Stack :=
  { s with stack0 := ⟨value, type⟩ }

def Stack.binaryResult (s : Stack) (value : UInt32) (type : StackType) : Stack :=
  ⟨⟨value, type⟩, s.stack2, s.stack3, .empty, s.depth - 1⟩

def Stack.ternaryResult (s : Stack) (value : UInt32) (type : StackType) : Stack :=
  ⟨⟨value, type⟩, s.stack3, .empty, .empty, s.depth - 2⟩

def Stack.dupTop (s : Stack) : Stack := ⟨s.stack0, s.stack0, s.stack1, s.stack2, s.depth + 1⟩

def Stack.swapTop2 (s : Stack) : Stack := { s with stack0 := s.stack1, stack1 := s.stack0 }

def pickByte (word lane : UInt32) : UInt8 := (word >>> (8 * (lane &&& 3))).toUInt8

def timerEntryAddr (timerBase : UInt32) (timerIndex : UInt16) : UInt32 :=
  timerBase + timerIndex.toUInt32 * 16

def timerFlagRunning : UInt32 := 1

def timerFlagDone : UInt32 := 2

def timerFlagInputHigh : UInt32 := 4

def hasFlag (flags flag : UInt32) : Bool := flags &&& flag ≠ 0

/-- Bits 9 and 8 of the flags, of a timer as of a counter. -/
def modeFromFlags (flags : UInt32) : UInt32 := (flags >>> 8) &&& 3

def timerModeTon : UInt32 := 1

def timerModeTof : UInt32 := 2

def timerModeTp : UInt32 := 3

def counterModeCtu : UInt32 := 1

def counterModeCtd : UInt32 := 2

def timerPackFlags (mode : UInt32) (inputHigh running done : Bool) : UInt32 :=
  (mode <<< 8) ||| (if inputHigh then timerFlagInputHigh else 0) |||
    (if running then timerFlagRunning else 0) ||| (if done then timerFlagDone else 0)

def counterModeFromOpcode (opcode : UInt8) : UInt32 :=
  match opcode with
  | opcodeCtuCount | opcodeCtuDone | opcodeCtuValue | opcodeCtuReset => counterModeCtu
  | opcodeCtdCount | opcodeCtdDone | opcodeCtdValue | opcodeCtdReset => counterModeCtd
  | _ => 0

def counterPackFlags (mode : UInt32) (inputHigh : Bool) : UInt32 :=
  (mode <<< 8) ||| (if inputHigh then timerFlagInputHigh else 0)

def timerElapsedValue (anchorMs presetMs flags nowMs : UInt32) : UInt32 :=
  let deltaMs := nowMs - anchorMs
  let running := if presetMs ≤ deltaMs then presetMs else deltaMs
  if modeFromFlags flags = timerModeTon then
    if hasFlag flags timerFlagDone then presetMs
    else if hasFlag flags timerFlagRunning then running
    else 0
  else if modeFromFlags flags = timerModeTof ∨ modeFromFlags flags = timerModeTp then
    if hasFlag flags timerFlagRunning then running else 0
  else 0

def timerDoneLive (anchorMs presetMs flags nowMs : UInt32) : Bool :=
  let deltaMs := nowMs - anchorMs
  let running := hasFlag flags timerFlagRunning
  if modeFromFlags flags = timerModeTon then
    hasFlag flags timerFlagDone || (running && presetMs ≤ deltaMs)
  else if modeFromFlags flags = timerModeTof then
    hasFlag flags timerFlagInputHigh || (running && deltaMs < presetMs)
  else if modeFromFlags flags = timerModeTp then
    hasFlag flags timerFlagDone || (running && deltaMs < presetMs)
  else false

def timerRemainingValue (anchorMs presetMs flags nowMs : UInt32) : UInt32 :=
  let elapsedMs := timerElapsedValue anchorMs presetMs flags nowMs
  if presetMs ≤ elapsedMs then 0 else presetMs - elapsedMs

def timerMetricI16 (metric : UInt32) : UInt16 := if 32767 < metric then 0x7FFF else metric.toUInt16

def counterDoneLive (opcode : UInt8) (value preset : UInt16) : Bool :=
  if counterModeFromOpcode opcode = counterModeCtu then preset.toInt16 ≤ value.toInt16
  else if counterModeFromOpcode opcode = counterModeCtd then value.toInt16 ≤ 0
  else false

def counterUpNextValue (stored : UInt16) (flags : UInt32) (nextInputHigh : Bool) : UInt16 :=
  let value := if modeFromFlags flags = counterModeCtu then stored else 0
  if nextInputHigh && !hasFlag flags timerFlagInputHigh then
    if 32767 ≤ value.toInt16 then 0x7FFF else value + 1
  else value

def counterDownNextValue (stored preset : UInt16) (flags : UInt32) (nextInputHigh : Bool) :
    UInt16 :=
  let value := if modeFromFlags flags = counterModeCtd then stored else preset
  if value.toInt16 ≤ 0 then 0
  else if nextInputHigh && !hasFlag flags timerFlagInputHigh then value - 1
  else value

def counterResetValue (opcode : UInt8) (storedPreset : UInt16) : UInt16 :=
  if counterModeFromOpcode opcode = counterModeCtd then storedPreset else 0

def edgeStateWordByteOffset (runtimeIndex : UInt16) : UInt32 :=
  ((runtimeIndex >>> 5) &&& 15).toUInt32 * 4

def edgeStateBitMask (runtimeIndex : UInt16) : UInt32 := 1 <<< (runtimeIndex &&& 31).toUInt32

/-- `captured` is the event the cycle starts with, `e` the one its clear requests leave. -/
def captureDirtyPointStateOffsetQ16 (captured e : DirtyEvent) (offset : BitVec 13) : DirtyEvent :=
  if sharedPointStateOffsetQ16Max < offset then { e with overflow := true }
  else if !captured.valid then { e with valid := true, offsetQ16 := offset }
  else if captured.offsetQ16 ≠ offset then { e with overflow := true }
  else e

def hasPendingSlotWaits (slotWait : SlotId → SlotWait) : Bool :=
  (List.range slotCount).any fun i => (slotWait (BitVec.ofNat 5 i)).state ≠ .none

def clkHz : Nat := 25000000

def defaultScanPeriodMs : Nat := 50

def defaultScanIntervalCycles : UInt32 := UInt32.ofNat (defaultScanPeriodMs * (clkHz / 1000))

/-- The registers after reset; the address and data lines of the bus keep their values. -/
def WbPlc.reset (adr dat : UInt32) : WbPlc where
  state := .idle
  activeSlot := 0
  controlBlockAddr := 0
  cb := ⟨0, 0, 0, 0, 0, 0, 0, 0, 0, 0⟩
  slotEntryPc := 0
  currentPc := 0
  instructionCount := 0
  currentOpcode := 0
  currentRuntimeIndex := 0
  currentImmediateU32 := 0
  data :=
    { stack := .empty
      pendingStackValue := 0
      timerEntryBaseAddr := 0
      runtimeValueAddr := 0
      runtimeStatusAddr := 0
      valueWord0 := 0
      valueWord1 := 0
      valueWord2 := 0
      timerStatusRunning := false
      timerStatusDone := false
      timerStatusInputHigh := false
      timerStatusElapsedLtPreset := false
      timerStatusElapsedGeImmediate := false
      timerStatusImmediateIsZero := false }
  bus := ⟨false, false, adr, dat⟩
  cachedWord := ⟨false, 0, 0⟩
  floatOpStart := false
  fdiv := ⟨false, 0, false, 0, 0⟩
  slotWait := fun _ => ⟨.none, 0, 0, 0, .empty⟩
  dirtyEvent := ⟨false, false, 0⟩
  faultCodePending := 0
  faultInfoPending := 0
  scanCountdown := defaultScanIntervalCycles
  scanCounter := 0
  lastFaultCode := 0
  lastFaultSlot := 0

def WbPlc.startRead (s : WbPlc) (addr : UInt32) : WbPlc := { s with bus := ⟨true, false, addr, 0⟩ }

def WbPlc.startWrite (s : WbPlc) (addr data : UInt32) : WbPlc :=
  { s with bus := ⟨true, true, addr, data⟩ }

def WbPlc.finishBusCycle (s : WbPlc) : WbPlc :=
  { s with bus := { s.bus with cyc := false, we := false } }

def WbPlc.beginFault (s : WbPlc) (code info : UInt32) : WbPlc :=
  { s with
    faultCodePending := code
    faultInfoPending := info
    cachedWord := { s.cachedWord with valid := false }
    state := .faultWriteStatus }

def WbPlc.setWait (s : WbPlc) (slot : SlotId) (w : SlotWait) : WbPlc :=
  { s with slotWait := fun i => if i = slot then w else s.slotWait i }

end NodeNet.Vm

/-! The two mailboxes of the SPI slave, in the system clock domain, and the CPU's accesses. -/
namespace NodeNet.Spi

inductive Reg where
  | status | control | rxLength | rxData | txLength | txData | debug | reserved
  deriving DecidableEq

/-- A bus access; a write brings its data and the lowest byte select. -/
inductive Access where
  | read (reg : Reg)
  | write (reg : Reg) (dat : UInt32) (sel : Bool)
  deriving DecidableEq

structure RxMailbox where
  ready : Bool
  readyBank : Bool
  overflowSticky : Bool
  frameErrorSticky : Bool
  length : Nat
  cpuReadCount : Nat
  cpuReadHold : UInt8
  cpuReadHoldValid : Bool

structure TxMailbox where
  length : Nat
  stagedLength : Nat
  cpuWriteCount : Nat
  loaded : Bool
  loadedBank : Bool
  stageBankSelect : Bool
  irqAsserted : Bool
  readComplete : Bool

def clearRx (word : UInt16) : Bool := word &&& 1 ≠ 0

def commitTx (word : UInt16) : Bool := word &&& 2 ≠ 0

def clearIrq (word : UInt16) : Bool := word &&& 4 ≠ 0

def softReset (word : UInt16) : Bool := word &&& 8 ≠ 0

def controlWrite : Option Access → Option UInt16
  | some (.write .control dat _) => some dat.toUInt16
  | _ => none

def RxMailbox.cpuCanRead (m : RxMailbox) : Bool := m.ready && m.cpuReadCount < m.length

def RxMailbox.takesByte (m : RxMailbox) (fired : Option Access) : Bool :=
  fired = some (.read .rxData) && m.cpuCanRead

def RxMailbox.readData (m : RxMailbox) (request : Bool) (fired : Option Access)
    (cpuReadData : UInt8) : RxMailbox :=
  let next := if request then m else { m with cpuReadHoldValid := false }
  if m.takesByte fired then
    { next with
      cpuReadHold := cpuReadData
      cpuReadHoldValid := true
      cpuReadCount := m.cpuReadCount + 1 }
  else next

def RxMailbox.control (next : RxMailbox) : Option UInt16 → RxMailbox
  | none => next
  | some word =>
    if softReset word then
      { next with
        ready := false
        readyBank := false
        overflowSticky := false
        frameErrorSticky := false
        length := 0
        cpuReadCount := 0
        cpuReadHoldValid := false }
    else if clearRx word then
      { next with
        ready := false
        overflowSticky := false
        frameErrorSticky := false
        length := 0
        cpuReadCount := 0
        cpuReadHoldValid := false }
    else next

def TxMailbox.canWrite (m : TxMailbox) (sel : Bool) : Bool :=
  !m.loaded && sel && m.cpuWriteCount < m.stagedLength

def TxMailbox.writesByte (m : TxMailbox) : Option Access → Option UInt8
  | some (.write .txData dat sel) => if m.canWrite sel then some dat.toUInt8 else none
  | _ => none

/-- `mailboxBytes` is the size of the mailboxes, below 65536: the source compares it in 16 bits. -/
def TxMailbox.stage (m : TxMailbox) (mailboxBytes : Nat) : Option Access → TxMailbox
  | some (.write .txLength dat _) =>
    if !m.loaded then
      { m with
        stagedLength :=
          if mailboxBytes < dat.toUInt16.toNat then mailboxBytes else dat.toUInt16.toNat
        cpuWriteCount := 0
        readComplete := false }
    else m
  | some (.write .txData _ sel) =>
    if m.canWrite sel then { m with cpuWriteCount := m.cpuWriteCount + 1 } else m
  | _ => m

def TxMailbox.commitLength (m : TxMailbox) : Nat :=
  if m.cpuWriteCount < m.stagedLength then m.cpuWriteCount else m.stagedLength

/-- The registers before the clock decide, and `next` are those assigned so far. -/
def TxMailbox.commit (m next : TxMailbox) (word : UInt16) : TxMailbox :=
  if commitTx word && !m.loaded then
    { next with
      length := m.commitLength
      loaded := true
      loadedBank := m.stageBankSelect
      stageBankSelect := !m.stageBankSelect
      irqAsserted := true
      readComplete := false }
  else next

def TxMailbox.acknowledge (m next : TxMailbox) (word : UInt16) : TxMailbox :=
  if clearIrq word then
    if m.readComplete then
      { next with
        irqAsserted := false
        loaded := false
        length := 0
        stagedLength := 0
        cpuWriteCount := 0
        readComplete := false }
    else { next with irqAsserted := false }
  else next

def TxMailbox.control (m next : TxMailbox) : Option UInt16 → TxMailbox
  | none => next
  | some word =>
    if softReset word then
      { length := 0
        stagedLength := 0
        cpuWriteCount := 0
        loaded := false
        loadedBank := false
        stageBankSelect := false
        irqAsserted := false
        readComplete := false }
    else m.acknowledge (m.commit next word) word

/-! The registers that the SPI clock drives, and what one rising edge does to them. -/

def opcodeReadStatus : UInt8 := 0x01

def opcodeWriteRequest : UInt8 := 0x02

def opcodeReadResponse : UInt8 := 0x03

def opcodeWriteControl : UInt8 := 0x04

/-- A shift register takes a bit at its low end. -/
def shiftIn (shift : UInt8) (mosi : Bool) : UInt8 := shift <<< 1 ||| (if mosi then 1 else 0)

def statusByte (spiActive : Bool) (rx : RxMailbox) (tx : TxMailbox) : UInt8 :=
  [spiActive, tx.irqAsserted, tx.loaded, tx.loaded, !tx.loaded, rx.frameErrorSticky,
    rx.overflowSticky, rx.ready].foldl shiftIn 0

/-- Bits, bytes, opcode and control word of the frame. -/
structure Header where
  rxShift : UInt8
  bitCount : Nat
  byteCount : Nat
  opcode : UInt8
  controlWord : UInt16
  statusSnapshot : UInt16
  frameActive : Bool
  frameEndSeen : Bool
  frameOpcodeLatched : UInt8
  frameHasHeaderLatched : Bool
  controlWordLatched : UInt16

namespace Header

/-- The byte that the edge with this bit completes. -/
def rxByte (h : Header) (mosi : Bool) : UInt8 := shiftIn h.rxShift mosi

/-- An edge while the chip is not selected. -/
def deselected (h : Header) : Header :=
  { h with
    rxShift := 0
    bitCount := 0
    byteCount := 0
    opcode := 0
    controlWord := 0
    statusSnapshot := 0
    frameActive := false
    frameHasHeaderLatched := false }

/-- The first edge of a frame. -/
def start (h : Header) (mosi frameEndToggle : Bool) : Header :=
  { h with
    rxShift := shiftIn 0 mosi
    bitCount := 1
    byteCount := 0
    opcode := 0
    controlWord := 0
    statusSnapshot := 0
    frameActive := true
    frameEndSeen := frameEndToggle
    frameOpcodeLatched := 0
    frameHasHeaderLatched := false
    controlWordLatched := 0 }

/-- An edge inside a byte. -/
def bit (h : Header) (mosi : Bool) : Header :=
  { h with
    rxShift := shiftIn h.rxShift mosi
    bitCount := h.bitCount + 1 }

def controlByte (h next : Header) (rxByte : UInt8) : Header :=
  if h.byteCount = 1 then
    { next with controlWord := (h.controlWord &&& 0xFF00) ||| rxByte.toUInt16 }
  else if h.byteCount = 2 then
    { next with
      controlWord := rxByte.toUInt16 <<< 8 ||| (h.controlWord &&& 0x00FF)
      controlWordLatched := rxByte.toUInt16 <<< 8 ||| (h.controlWord &&& 0x00FF) }
  else next

/-- The edge that completes a byte; the byte counter has 16 bits. -/
def byte (h : Header) (mosi : Bool) (status : UInt8) : Header :=
  let next := { h with
    bitCount := 0
    byteCount := (h.byteCount + 1) % 65536
    rxShift := shiftIn 0 mosi
    frameHasHeaderLatched := h.frameHasHeaderLatched || h.byteCount = 2 }
  if h.byteCount = 0 then
    { next with
      opcode := h.rxByte mosi
      frameOpcodeLatched := h.rxByte mosi
      statusSnapshot := status.toUInt16 }
  else if h.opcode = opcodeWriteControl then h.controlByte next (h.rxByte mosi)
  else next

end Header

/-- The write side of a frame: the payload of a WRITE_REQUEST on its way into a bank. -/
structure RxFrame where
  declaredLength : Nat
  acceptRxFrame : Bool
  writeRequestPayloadPhase : Bool
  rxWriteBank : Bool
  rxCommitBank : Bool
  rxBytesRemaining : Nat
  rxWriteAddrCtr : Nat
  rxCommitLength : Nat
  rxCommitValid : Bool
  rxCommitOverflow : Bool

namespace RxFrame

def deselected (f : RxFrame) : RxFrame :=
  { f with
    declaredLength := 0
    acceptRxFrame := true
    writeRequestPayloadPhase := false
    rxBytesRemaining := 0
    rxWriteAddrCtr := 0 }

def start (f : RxFrame) : RxFrame :=
  { f with
    declaredLength := 0
    acceptRxFrame := true
    writeRequestPayloadPhase := false
    rxBytesRemaining := 0
    rxWriteAddrCtr := 0
    rxCommitLength := 0
    rxCommitValid := false
    rxCommitOverflow := false }

/-- The second length byte decides whether the payload is taken. -/
def lengthByte (f : RxFrame) (mailboxBytes : Nat) (rxReady : Bool) (rxByte : UInt8) : RxFrame :=
  let length := rxByte.toNat * 256 + f.declaredLength % 256
  let next := { f with
    declaredLength := length
    rxCommitLength := length
    rxCommitValid := length = 0
    rxCommitOverflow := false
    writeRequestPayloadPhase := false
    rxBytesRemaining := 0
    rxWriteAddrCtr := 0 }
  if mailboxBytes < length || rxReady then
    { next with
      acceptRxFrame := false
      rxCommitValid := false
      rxCommitOverflow := true }
  else if length = 0 then
    { next with
      rxCommitBank := f.rxWriteBank
      rxWriteBank := !f.rxWriteBank }
  else
    { next with
      writeRequestPayloadPhase := true
      rxBytesRemaining := length }

def payloadByte (f : RxFrame) : RxFrame :=
  if f.writeRequestPayloadPhase then
    let last := f.acceptRxFrame && f.rxBytesRemaining = 1
    let next := { f with
      rxCommitLength := f.declaredLength
      rxCommitValid := last
      rxCommitOverflow := !f.acceptRxFrame }
    let next :=
      if f.acceptRxFrame && f.rxBytesRemaining ≠ 0 then
        { next with
          rxBytesRemaining := f.rxBytesRemaining - 1
          rxWriteAddrCtr := f.rxWriteAddrCtr + 1 }
      else next
    if last then
      { next with
        rxCommitBank := f.rxWriteBank
        rxWriteBank := !f.rxWriteBank
        writeRequestPayloadPhase := false }
    else next
  else { f with rxCommitValid := false }

def byte (f : RxFrame) (mailboxBytes : Nat) (rxReady : Bool) (h : Header) (rxByte : UInt8) :
    RxFrame :=
  if h.byteCount = 0 then f
  else if h.opcode = opcodeWriteRequest then
    if h.byteCount = 1 then
      { f with declaredLength := f.declaredLength / 256 * 256 + rxByte.toNat }
    else if h.byteCount = 2 then f.lengthByte mailboxBytes rxReady rxByte
    else f.payloadByte
  else f

end RxFrame

/-- The read side of a frame: the response on its way out. -/
structure TxFrame where
  txShift : UInt8
  readResponsePayloadPhase : Bool
  txLoadedSnapshot : Bool
  txLoadedBankSnapshot : Bool
  txBytesRemaining : Nat
  txLengthSnapshot : Nat
  txLengthCountSnapshot : Nat
  txRamReadAddr : Nat
  frameReadResponseComplete : Bool

namespace TxFrame

def deselected (f : TxFrame) : TxFrame :=
  { f with
    txShift := 0
    readResponsePayloadPhase := false
    txLoadedSnapshot := false
    txLoadedBankSnapshot := false
    txBytesRemaining := 0
    txLengthSnapshot := 0
    txLengthCountSnapshot := 0
    txRamReadAddr := 0 }

def start (_ : TxFrame) : TxFrame :=
  { txShift := 0
    readResponsePayloadPhase := false
    txLoadedSnapshot := false
    txLoadedBankSnapshot := false
    txBytesRemaining := 0
    txLengthSnapshot := 0
    txLengthCountSnapshot := 0
    txRamReadAddr := 0
    frameReadResponseComplete := false }

def bit (f : TxFrame) : TxFrame := { f with txShift := shiftIn f.txShift false }

def opcodeByte (f : TxFrame) (rxByte : UInt8) (tx : TxMailbox) (status : UInt8) : TxFrame :=
  let next := { f with
    readResponsePayloadPhase := false
    txBytesRemaining := 0 }
  if rxByte = opcodeReadStatus then { next with txShift := status }
  else if rxByte = opcodeReadResponse then
    { next with
      txLoadedSnapshot := tx.loaded
      txLoadedBankSnapshot := tx.loadedBank
      txBytesRemaining := tx.length
      txLengthSnapshot := tx.length
      txLengthCountSnapshot := tx.length
      txRamReadAddr := 0
      txShift := if tx.loaded then UInt8.ofNat tx.length else 0 }
  else { next with txShift := 0 }

def firstByte (f : TxFrame) (txSpiReadData : UInt8) : TxFrame :=
  let next := { f with
    txShift := if f.txLoadedSnapshot && f.txLengthCountSnapshot ≠ 0 then txSpiReadData else 0
    frameReadResponseComplete :=
      f.txLoadedSnapshot && (f.txLengthCountSnapshot = 0 || f.txLengthCountSnapshot = 1) }
  if f.txLoadedSnapshot && f.txLengthCountSnapshot ≠ 0 && f.txLengthCountSnapshot ≠ 1 then
    { next with
      readResponsePayloadPhase := true
      txBytesRemaining := f.txBytesRemaining - 1
      txRamReadAddr := 1 }
  else
    { next with
      readResponsePayloadPhase := false
      txBytesRemaining := 0 }

def nextByte (f : TxFrame) (txSpiReadData : UInt8) : TxFrame :=
  if f.readResponsePayloadPhase && f.txBytesRemaining ≠ 0 then
    let next := { f with
      txShift := txSpiReadData
      frameReadResponseComplete := f.txBytesRemaining = 1 }
    if f.txBytesRemaining = 1 then
      { next with
        readResponsePayloadPhase := false
        txBytesRemaining := 0 }
    else
      { next with
        txBytesRemaining := f.txBytesRemaining - 1
        txRamReadAddr := f.txRamReadAddr + 1 }
  else { f with txShift := 0 }

def byte (f : TxFrame) (h : Header) (rxByte : UInt8) (tx : TxMailbox) (status txSpiReadData : UInt8) :
    TxFrame :=
  if h.byteCount = 0 then f.opcodeByte rxByte tx status
  else if h.opcode = opcodeReadStatus then
    { f with txShift := if h.byteCount = 1 then (h.statusSnapshot >>> 8).toUInt8 else 0 }
  else if h.opcode = opcodeReadResponse then
    if h.byteCount = 1 then
      { f with txShift := if f.txLoadedSnapshot then UInt8.ofNat (f.txLengthSnapshot / 256) else 0 }
    else if h.byteCount = 2 then f.firstByte txSpiReadData
    else f.nextByte txSpiReadData
  else { f with txShift := 0 }

end TxFrame

end NodeNet.Spi

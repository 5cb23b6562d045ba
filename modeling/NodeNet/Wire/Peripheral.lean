import NodeNet.Wire.Mailbox

/-! The NodeNet peripheral as one clocked block: receiver, mailboxes, heartbeat and transmitter. -/
namespace NodeNet.Wire

def broadcastDelayPerAddr : UInt32 := 1250000

def lineReadyCycles : UInt32 := 250000

def heartbeatDefaultCycles : UInt32 := 250000000

def computeTxDelay (dst src : UInt8) : UInt32 :=
  if dst = 0 then src.toUInt32 * broadcastDelayPerAddr else lineReadyCycles

structure UartTx where
  busy : Bool
  bitCount : BitVec 4
  counter : BitVec 20

def UartTx.clock (u : UartTx) (divisor : BitVec 20) (valid : Bool) : UartTx :=
  let bitDivisor := if divisor ≠ 0 then divisor else 1
  if !u.busy && valid then
    { busy := true
      bitCount := 10
      counter := 0 }
  else if u.busy then
    if bitDivisor - 1 ≤ u.counter then
      { busy := u.bitCount ≠ 1
        bitCount := u.bitCount - 1
        counter := 0 }
    else { u with counter := u.counter + 1 }
  else u

structure Peripheral where
  decoder : Decoder
  mailbox : RxMailbox
  tx : Transmitter
  uart : UartTx
  uartTxValid : Bool
  uartTxData : UInt8
  uartTxReadyD : Bool
  uartDivisor : BitVec 20
  rxIgnoreCounter : BitVec 24
  txCooldown : UInt32
  hbEnabled : Bool
  heartbeatInterval : UInt32
  heartbeatTimer : UInt32
  heartbeatPending : Bool
  activityBlinkMs : UInt32
  irqMessageEnable : Bool
  irqBroadcastEnable : Bool
  ack : Bool
  datO : UInt32

/-- What reaches the peripheral in a clock: a byte of the UART's receiver and the bus. -/
structure Cycle where
  uartRx : Option UInt8
  uartRxFrameError : Bool
  access : Option Access

namespace Peripheral

/-- Reset; the buffers and the registers that no reset touches keep what they hold. -/
def reset (p : Peripheral) : Peripheral :=
  { decoder := { p.decoder with
      myAddr := 1
      state := .idle
      timeoutCounter := 0
      msgValid := false
      msgDataValid := false
      msgComplete := false
      firstNibble := true
      crc := 0
      error := false }
    mailbox := { p.mailbox with
      src := 0
      dst := 0
      len := 0
      readIdx := 0
      buildCount := 0
      valid := false
      overflow := false
      errorSticky := false
      uartSeenSticky := false
      uartFrameErrorSticky := false }
    tx := { p.tx with
      nodeAddr := 1
      stageDst := 0
      stageLen := 0
      loadCount := 0
      stageValid := false
      pending := false
      pendingIsHeartbeat := false
      active := false
      frameIsHeartbeat := false
      frameDst := 0
      frameLen := 0
      streamIdx := 0
      prefixLfCount := 0
      crc := 0
      currentByte := 0
      state := .idle }
    uart := { busy := false, bitCount := 0, counter := 0 }
    uartTxValid := false
    uartTxData := 0xFF
    uartTxReadyD := false
    uartDivisor := 25
    rxIgnoreCounter := 0
    txCooldown := 0
    hbEnabled := false
    heartbeatInterval := heartbeatDefaultCycles
    heartbeatTimer := 0
    heartbeatPending := false
    activityBlinkMs := 100
    irqMessageEnable := false
    irqBroadcastEnable := false
    ack := false
    datO := 0 }

/-- All registers and buffers at zero. -/
def blank : Peripheral :=
  { decoder := ⟨0, .idle, 0, 0, 0, 0, 0, 0, 0, false, 0, false, 0, 0, 0, 0, false, false, false⟩
    mailbox := ⟨0, 0, 0, 0, 0, false, false, false, false, false, fun _ => 0⟩
    tx := ⟨0, 0, 0, 0, false, false, false, fun _ => 0, false, false, 0, 0, 0, 0, 0, 0, .idle⟩
    uart := ⟨false, 0, 0⟩
    uartTxValid := false
    uartTxData := 0
    uartTxReadyD := false
    uartDivisor := 0
    rxIgnoreCounter := 0
    txCooldown := 0
    hbEnabled := false
    heartbeatInterval := 0
    heartbeatTimer := 0
    heartbeatPending := false
    activityBlinkMs := 0
    irqMessageEnable := false
    irqBroadcastEnable := false
    ack := false
    datO := 0 }

variable (p : Peripheral) (i : Cycle)

/-- The bus access that takes effect, once for each acknowledge. -/
def fired : Option Access := if p.ack then none else i.access

/-- The own echo is ignored while transmitting and shortly after. -/
def rxDecodeEnable : Bool := !p.uart.busy && p.rxIgnoreCounter = 0

def rxByte : Option UInt8 := if p.rxDecodeEnable then i.uartRx else none

def rxInProgress : Bool :=
  p.mailbox.buildCount ≠ 0 || i.uartRx.isSome || p.decoder.msgDataValid ||
    p.decoder.msgComplete && p.decoder.msgValid

def heartbeatTrigger : Bool := p.heartbeatTimer = p.heartbeatInterval

def txIdle : Bool := !p.tx.stageValid && !p.tx.pending && !p.tx.active

/-- The heartbeat generator takes the transmit engine. -/
def heartbeatStarts : Bool :=
  p.hbEnabled && (p.heartbeatPending || p.heartbeatTrigger) && p.txIdle && !p.rxInProgress i

/-- The control register asks for a heartbeat. -/
def heartbeatRequested : Bool :=
  match p.fired i with
  | some (.write .control dat) => p.hbEnabled && dat &&& 4 ≠ 0 && p.txIdle && !p.rxInProgress i
  | _ => false

/-- The control register sends the staged frame. -/
def sendRequested : Bool :=
  match p.fired i with
  | some (.write .control dat) =>
    dat &&& 1 ≠ 0 && p.tx.stageValid && !p.tx.pending && !p.tx.active && !p.rxInProgress i &&
      p.tx.loadCount = p.tx.stageLen
  | _ => false

def frameStarts : Bool :=
  !p.tx.active && !p.rxInProgress i && p.tx.pending && p.txCooldown = 0

/-- One byte for each rising edge of the UART's ready line. -/
def byteEdge : Bool := p.tx.active && !p.uart.busy && !p.uartTxReadyD

/-- The transmit registers that the bus writes, over those assigned so far. -/
def accessTx (next : Transmitter) : Transmitter :=
  match p.fired i with
  | some (.write .txCmd dat) =>
    if !p.tx.active && !p.tx.pending then
      { next with
        stageDst := (dat >>> 24).toUInt8
        stageLen := dat.toUInt16
        loadCount := 0
        stageValid := dat.toUInt16 ≤ maxPayload
        pendingIsHeartbeat := false }
    else next
  | some (.write .txData dat) =>
    if p.tx.stageValid && !p.tx.active && !p.tx.pending && p.tx.loadCount < p.tx.stageLen &&
        p.tx.loadCount < maxPayload then
      { next with
        buffer := fun k => if k = p.tx.loadCount then dat.toUInt8 else p.tx.buffer k
        loadCount := p.tx.loadCount + 1 }
    else next
  | some (.write .config dat) => { next with nodeAddr := dat.toUInt8 }
  | some (.write .control _) =>
    let next :=
      if p.heartbeatRequested i then { next with pending := true, pendingIsHeartbeat := true }
      else next
    if p.sendRequested i then { next with pending := true, pendingIsHeartbeat := false } else next
  | _ => next

def txNext : Transmitter :=
  let next := p.tx
  let next :=
    if p.heartbeatStarts i then { next with pending := true, pendingIsHeartbeat := true } else next
  let next := p.accessTx i next
  -- A pending or active transmitter takes no write but that of the node address.
  let next :=
    if p.frameStarts i then { p.tx.startFrame with nodeAddr := next.nodeAddr } else next
  if p.byteEdge then { p.tx.edge.1 with nodeAddr := next.nodeAddr } else next

def txCooldownNext : UInt32 :=
  if p.sendRequested i then computeTxDelay p.tx.stageDst p.tx.nodeAddr
  else if p.heartbeatRequested i || p.heartbeatStarts i then computeTxDelay 0 p.tx.nodeAddr
  else if p.txCooldown ≠ 0 then p.txCooldown - 1
  else p.txCooldown

def heartbeatPendingNext : Bool :=
  if !p.hbEnabled || p.heartbeatStarts i then false
  else p.heartbeatPending || p.heartbeatTrigger

def bit (b : Bool) (n : UInt32) : UInt32 := if b then 1 <<< n else 0

def statusWord : UInt32 :=
  bit p.mailbox.overflow 31 ||| bit p.mailbox.errorSticky 30 |||
    bit (p.hbEnabled && p.heartbeatTrigger) 29 ||| bit (p.txCooldown ≠ 0) 28 |||
    bit p.tx.pending 27 ||| bit p.tx.active 26 ||| bit (!p.uart.busy) 25 |||
    bit p.mailbox.valid 24 ||| bit p.tx.stageValid 23 |||
    bit (p.tx.stageValid && p.tx.loadCount = p.tx.stageLen) 22 ||| bit p.uart.busy 21 |||
    bit p.decoder.rxTimeout 20 ||| bit p.decoder.error 19 ||| bit p.mailbox.uartSeenSticky 18 |||
    bit p.mailbox.uartFrameErrorSticky 17 ||| p.tx.loadCount.toUInt32

def readWord : Reg → UInt32
  | .txCmd =>
    (p.tx.stageDst.toUInt32 <<< 24) ||| bit p.tx.stageValid 23 ||| bit p.tx.pending 22 |||
      bit p.tx.active 21 ||| p.tx.stageLen.toUInt32
  | .txData => p.tx.loadCount.toUInt32
  | .rxHdr =>
    (p.mailbox.src.toUInt32 <<< 24) ||| (p.mailbox.dst.toUInt32 <<< 16) |||
      bit p.mailbox.valid 15 ||| (p.mailbox.len &&& 0x0FFF).toUInt32
  | .rxData => if p.mailbox.valid then (p.mailbox.buffer p.mailbox.readIdx).toUInt32 else 0
  | .config => (p.heartbeatInterval &&& 0xFFFFFC00) ||| p.tx.nodeAddr.toUInt32
  | .status => p.statusWord
  | .uartBaud => p.uartDivisor.toNat.toUInt32
  | .ledCfg => p.activityBlinkMs
  | .irqCtrl => bit p.irqBroadcastEnable 1 ||| bit p.irqMessageEnable 0
  | .control | .reserved => 0

def hbEnabledNext : Bool :=
  match p.fired i with
  | some (.write .config dat) => dat.toUInt8 ≠ 0
  | _ => p.hbEnabled

def heartbeatIntervalNext : UInt32 :=
  match p.fired i with
  | some (.write .config dat) => if dat >>> 10 ≠ 0 then dat &&& 0xFFFFFC00 else p.heartbeatInterval
  | _ => p.heartbeatInterval

def uartDivisorNext : BitVec 20 :=
  match p.fired i with
  | some (.write .uartBaud dat) =>
    if dat.toBitVec.setWidth 20 ≠ 0 then dat.toBitVec.setWidth 20 else p.uartDivisor
  | _ => p.uartDivisor

def activityBlinkMsNext : UInt32 :=
  match p.fired i with
  | some (.write .ledCfg dat) => dat
  | _ => p.activityBlinkMs

/-- The enables of the message and of the broadcast interrupt. -/
def irqEnablesNext : Bool × Bool :=
  match p.fired i with
  | some (.write .irqCtrl dat) => (dat &&& 1 ≠ 0, dat &&& 2 ≠ 0)
  | _ => (p.irqMessageEnable, p.irqBroadcastEnable)

def rxIgnoreCounterNext : BitVec 24 :=
  if p.uart.busy then p.uartDivisor.setWidth 24 <<< 4
  else if p.rxIgnoreCounter ≠ 0 then p.rxIgnoreCounter - 1
  else p.rxIgnoreCounter

/-- The byte for the UART, with the pulse that offers it. -/
def txByte : Option UInt8 := if p.byteEdge then p.tx.edge.2 else none

/-- One clock of the whole block: every register is assigned from those before the clock. -/
def clock : Peripheral :=
  { decoder := ({ p.decoder with myAddr := p.tx.nodeAddr } : Decoder).clock (p.rxByte i)
    mailbox := p.mailbox.clock p.decoder i.uartRx.isSome i.uartRxFrameError p.rxDecodeEnable
      (p.fired i)
    tx := p.txNext i
    uart := p.uart.clock p.uartDivisor p.uartTxValid
    uartTxValid := p.txByte.isSome
    uartTxData := p.txByte.getD p.uartTxData
    uartTxReadyD := !p.frameStarts i && !p.uart.busy
    uartDivisor := p.uartDivisorNext i
    rxIgnoreCounter := p.rxIgnoreCounterNext
    txCooldown := p.txCooldownNext i
    hbEnabled := p.hbEnabledNext i
    heartbeatInterval := p.heartbeatIntervalNext i
    heartbeatTimer := if p.heartbeatTrigger then 0 else p.heartbeatTimer + 1
    heartbeatPending := p.heartbeatPendingNext i
    activityBlinkMs := p.activityBlinkMsNext i
    irqMessageEnable := (p.irqEnablesNext i).1
    irqBroadcastEnable := (p.irqEnablesNext i).2
    ack := i.access.isSome
    datO :=
      match p.fired i with
      | some (.read reg) => p.readWord reg
      | _ => p.datO }

/-- The byte that the UART takes for the line. -/
def wireByte : Option UInt8 := if !p.uart.busy && p.uartTxValid then some p.uartTxData else none

end Peripheral

end NodeNet.Wire

import NodeNet.Lib.Machine

/-! The Modbus master in hardware: one transaction, clock by clock. -/
namespace NodeNet.Modbus

def crc16Bits : Nat → UInt16 → UInt16
  | 0, c => c
  | bits + 1, c => crc16Bits bits (if c &&& 1 ≠ 0 then (c >>> 1) ^^^ 0xA001 else c >>> 1)

def crc16Step (crcIn : UInt16) (dataIn : UInt8) : UInt16 := crc16Bits 8 (crcIn ^^^ dataIn.toUInt16)

def crc16 (bytes : List UInt8) : UInt16 := bytes.foldl crc16Step 0xFFFF

def maxFrameBytes : Nat := 256

/-- The registers, which the driver leaves as they are until the transaction is done. -/
structure Registers where
  timeoutCycles : Nat
  interframeCycles : Nat
  slaveAddr : UInt8
  functionCode : UInt8
  retryMax : Nat
  txTotalLen : Nat

structure UartOut where
  rx : Option UInt8
  frameError : Bool
  txReady : Bool

inductive Phase where
  | idle | waitPreTxGap | txStream | waitRxStart | waitRxEnd | evalResponse | done
  deriving DecidableEq

structure Status where
  done : Bool
  success : Bool
  timeout : Bool
  crcError : Bool
  frameError : Bool
  exception : Bool
  rxOverflow : Bool
  uartFrameError : Bool
  retrying : Bool
  deriving DecidableEq

def Status.clear : Status := ⟨false, false, false, false, false, false, false, false, false⟩

structure Master where
  phase : Phase
  gapCtr : Nat
  timeoutCtr : Nat
  /-- The received bytes that have a place; there are `rx_count` of them. -/
  rxFrame : List UInt8
  rxCrcFull : UInt16
  retryCount : Nat
  txStreamIdx : Nat
  uartTxValid : Bool
  status : Status

namespace Master

/-- The master after the command to start. -/
def started : Master where
  phase := .waitPreTxGap
  gapCtr := 0
  timeoutCtr := 0
  rxFrame := []
  rxCrcFull := 0xFFFF
  retryCount := 0
  txStreamIdx := 0
  uartTxValid := false
  status := .clear

def resetRxCapture (s : Master) : Master :=
  { s with rxFrame := [], timeoutCtr := 0, gapCtr := 0, rxCrcFull := 0xFFFF }

def startRetryOrFinish (r : Registers) (s : Master) (markTimeout markCrc markFrame : Bool) :
    Master :=
  let status := { s.status with
    timeout := s.status.timeout || markTimeout
    crcError := s.status.crcError || markCrc
    frameError := s.status.frameError || markFrame }
  if s.retryCount < r.retryMax then
    { s.resetRxCapture with
      retryCount := s.retryCount + 1
      txStreamIdx := 0
      phase := .waitPreTxGap
      status := { status with retrying := true } }
  else
    { s with
      phase := .done
      status := { status with done := true, success := false, retrying := false } }

def clockPreTxGap (r : Registers) (s : Master) (i : UartOut) : Master :=
  if i.rx.isSome then { s with gapCtr := 0 }
  else if s.gapCtr < r.interframeCycles then { s with gapCtr := s.gapCtr + 1 }
  else { s with gapCtr := 0, txStreamIdx := 0, phase := .txStream }

/-- A byte is held until the UART has taken it, and then the next is. -/
def clockTxStream (r : Registers) (s : Master) (i : UartOut) : Master :=
  if s.uartTxValid = false ∧ s.txStreamIdx < r.txTotalLen then
    if i.txReady then { s with uartTxValid := true } else s
  else if s.uartTxValid then
    if i.txReady then s else { s with uartTxValid := false, txStreamIdx := s.txStreamIdx + 1 }
  else if i.txReady then { s with timeoutCtr := 0, gapCtr := 0, phase := .waitRxStart }
  else s

def clockRxStart (r : Registers) (s : Master) (i : UartOut) : Master :=
  match i.rx with
  | some b =>
    { s with
      rxFrame := [b]
      rxCrcFull := crc16Step 0xFFFF b
      timeoutCtr := 0
      gapCtr := 0
      phase := .waitRxEnd }
  | none =>
    if s.timeoutCtr < r.timeoutCycles then { s with timeoutCtr := s.timeoutCtr + 1 }
    else s.startRetryOrFinish r true false false

/-- A byte for which there is no place still counts in the checksum. -/
def clockRxEnd (r : Registers) (s : Master) (i : UartOut) : Master :=
  match i.rx with
  | some b =>
    let next := { s with gapCtr := 0, timeoutCtr := 0, rxCrcFull := crc16Step s.rxCrcFull b }
    if s.rxFrame.length < maxFrameBytes then { next with rxFrame := s.rxFrame ++ [b] }
    else { next with status := { s.status with rxOverflow := true } }
  | none =>
    if s.gapCtr < r.interframeCycles then
      if s.timeoutCtr < r.timeoutCycles then
        { s with gapCtr := s.gapCtr + 1, timeoutCtr := s.timeoutCtr + 1 }
      else { s with gapCtr := s.gapCtr + 1 }.startRetryOrFinish r true false false
    else { s with phase := .evalResponse }

def clockEval (r : Registers) (s : Master) : Master :=
  if s.rxFrame.length < 4 then s.startRetryOrFinish r false false true
  else if s.rxCrcFull ≠ 0 then s.startRetryOrFinish r false true false
  else if r.slaveAddr ≠ 0 ∧ s.rxFrame.getD 0 0 ≠ r.slaveAddr then
    s.startRetryOrFinish r false false true
  else if s.rxFrame.getD 1 0 = r.functionCode ||| 0x80 then
    { s with
      phase := .done
      status := { s.status with done := true, success := false, exception := true,
                                retrying := false } }
  else if s.rxFrame.getD 1 0 ≠ r.functionCode then s.startRetryOrFinish r false false true
  else
    { s with
      phase := .done
      status := { s.status with done := true, success := true, retrying := false } }

/-- A framing error of the UART is noted whatever the master does. -/
def noteUart (s : Master) (i : UartOut) : Master :=
  { s with status := { s.status with
      uartFrameError := s.status.uartFrameError || i.frameError } }

/-- No byte is offered to the UART. -/
def unready (s : Master) : Master := { s with uartTxValid := false }

def clockPhase (r : Registers) (s : Master) (i : UartOut) : Master :=
  match s.phase with
  | .idle => { s.unready with gapCtr := 0, timeoutCtr := 0 }
  | .waitPreTxGap => s.unready.clockPreTxGap r i
  | .txStream => s.clockTxStream r i
  | .waitRxStart => s.unready.clockRxStart r i
  | .waitRxEnd => s.unready.clockRxEnd r i
  | .evalResponse => s.unready.clockEval r
  | .done => s.unready

def clock (r : Registers) (s : Master) (i : UartOut) : Master := (s.noteUart i).clockPhase r i

end Master

inductive ModbusError where
  | None | Busy | InvalidArg | HwTimeout | HwCrc | HwFrame | HwException | HwOverflow | HwUartFrame
  | HwUnknown | ResponseMismatch | ResponseLength | ResponseFormat | DriverTimeout
  deriving DecidableEq

def setLastErrorFromStatus (status : Status) : ModbusError :=
  if status.timeout then .HwTimeout
  else if status.crcError then .HwCrc
  else if status.frameError then .HwFrame
  else if status.exception then .HwException
  else if status.rxOverflow then .HwOverflow
  else if status.uartFrameError then .HwUartFrame
  else .HwUnknown

inductive PointQuality where
  | Good | UncertainInitialValue | BadTimeout | BadProtocolError | BadConfigError
  deriving DecidableEq

def qualityFromModbusError : ModbusError → PointQuality
  | .None => .Good
  | .Busy => .UncertainInitialValue
  | .InvalidArg => .BadConfigError
  | .DriverTimeout | .HwTimeout => .BadTimeout
  | _ => .BadProtocolError

/-- What the driver reports: the error, the quality from it, and the code if it sets one. -/
structure Report where
  error : ModbusError
  quality : PointQuality
  exceptionCode : Option UInt8
  deriving DecidableEq

def Report.of (error : ModbusError) (exceptionCode : Option UInt8) : Report :=
  ⟨error, qualityFromModbusError error, exceptionCode⟩

def exceptionCode (error : ModbusError) (frame : List UInt8) : Option UInt8 :=
  if error = .HwException ∧ 5 ≤ frame.length then frame[2]? else none

/-- The frame is not of the slave and the function that were asked. -/
def mismatch (r : Registers) (frame : List UInt8) : Bool :=
  2 ≤ frame.length && ((r.slaveAddr ≠ 0 && frame.getD 0 0 ≠ r.slaveAddr) ||
    frame.getD 1 0 &&& 0x7F ≠ r.functionCode)

/-- The error and the code, unless the frame has another slave or function. -/
def checkedReport (r : Registers) (error : ModbusError) (frame : List UInt8) : Report :=
  .of (if mismatch r frame then .ResponseMismatch else error) (exceptionCode error frame)

def statusError (status : Status) : ModbusError :=
  if status.success then .None else setLastErrorFromStatus status

def pollTransaction (s : Master) : Report :=
  .of (statusError s.status) (exceptionCode (statusError s.status) s.rxFrame)

def runTransaction (r : Registers) (s : Master) : Report :=
  checkedReport r (statusError s.status) s.rxFrame

end NodeNet.Modbus

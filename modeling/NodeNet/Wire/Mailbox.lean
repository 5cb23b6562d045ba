import NodeNet.Wire.Decoder

/-! The receive mailbox of the NodeNet peripheral and the CPU's accesses to it. -/
namespace NodeNet.Wire

inductive Reg where
  | txCmd | txData | rxHdr | rxData | config | control | status | ledCfg | uartBaud | irqCtrl
  | reserved
  deriving DecidableEq

inductive Access where
  | read (reg : Reg)
  | write (reg : Reg) (dat : UInt32)
  deriving DecidableEq

structure RxMailbox where
  src : UInt8
  dst : UInt8
  len : UInt16
  readIdx : UInt16
  buildCount : UInt16
  valid : Bool
  overflow : Bool
  errorSticky : Bool
  uartSeenSticky : Bool
  uartFrameErrorSticky : Bool
  buffer : UInt16 → UInt8

/-- The timeout output, which does not look at the byte of the same clock. -/
def Decoder.rxTimeout (d : Decoder) : Bool := d.timeout && d.state ≠ .idle

/-- A payload byte of the decoder. -/
def RxMailbox.capture (m : RxMailbox) (d : Decoder) : RxMailbox :=
  if d.msgDataValid then
    if !m.valid && m.buildCount < maxPayload then
      { m with
        buffer := fun i => if i = m.buildCount then d.msgData else m.buffer i
        buildCount := m.buildCount + 1 }
    else { m with overflow := true }
  else m

def RxMailbox.seeUart (next : RxMailbox) (uartRxValid uartRxFrameError : Bool) : RxMailbox :=
  { next with
    uartSeenSticky := next.uartSeenSticky || uartRxValid
    uartFrameErrorSticky := next.uartFrameErrorSticky || uartRxFrameError }

/-- The end of a frame: `m` are the registers before the clock, `next` those assigned so far. -/
def RxMailbox.frameEnd (m next : RxMailbox) (d : Decoder) : RxMailbox :=
  if d.msgComplete then
    let next :=
      if d.msgValid && !m.valid && d.msgLen ≤ maxPayload then
        { next with
          src := d.msgSrcAddr
          dst := d.msgDstAddr
          readIdx := 0
          valid := true
          len := d.msgLen }
      else if d.msgValid then { next with overflow := true }
      else next
    { next with buildCount := 0 }
  else next

def RxMailbox.dropPartial (next : RxMailbox) (d : Decoder) (decodeEnable : Bool) : RxMailbox :=
  if d.rxTimeout || d.error then
    { next with
      buildCount := 0
      errorSticky := next.errorSticky || d.error && decodeEnable }
  else next

/-- The clear bit of the control register. -/
def RxMailbox.clear (next : RxMailbox) : RxMailbox :=
  { next with
    valid := false
    readIdx := 0
    overflow := false
    errorSticky := false
    uartSeenSticky := false
    uartFrameErrorSticky := false
    buildCount := 0 }

def RxMailbox.readData (m next : RxMailbox) : RxMailbox :=
  if m.valid then
    if m.len ≤ m.readIdx + 1 then
      { next with
        valid := false
        readIdx := 0 }
    else { next with readIdx := m.readIdx + 1 }
  else next

def clearsMailbox (access : Option Access) : Bool :=
  match access with
  | some (.write .control dat) => dat &&& 2 ≠ 0
  | _ => false

def RxMailbox.access (m next : RxMailbox) (access : Option Access) : RxMailbox :=
  match access with
  | some (.write .control dat) => if dat &&& 2 ≠ 0 then next.clear else next
  | some (.read .rxData) => m.readData next
  | _ => next

def RxMailbox.clock (m : RxMailbox) (d : Decoder) (uartRxValid uartRxFrameError decodeEnable : Bool)
    (access : Option Access) : RxMailbox :=
  m.access (((m.frameEnd ((m.capture d).seeUart uartRxValid uartRxFrameError) d)).dropPartial d
    decodeEnable) access

end NodeNet.Wire

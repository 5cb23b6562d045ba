import NodeNet.Lib.Machine
import NodeNet.Spi.Frame

/-! The SPI slave: its two clock domains, its banks and its lines. -/
namespace NodeNet.Spi

structure Device where
  csN : Bool
  sck : Bool
  header : Header
  rxFrame : RxFrame
  txFrame : TxFrame
  frameEndToggle : Bool
  misoBit : Bool
  rx : RxMailbox
  tx : TxMailbox
  wbRequestLatched : Bool
  wbAck : Bool
  csMeta : Bool
  csSync : Bool
  csPrev : Bool
  rxRam : Bool → Nat → UInt8
  rxCpuData : Bool → UInt8
  txRam : Bool → Nat → UInt8
  txSpiData : Bool → UInt8

/-- An edge of a line, or an edge of the system clock with what the bus requests in it. -/
inductive Event where
  | select
  | deselect
  | rise (mosi : Bool)
  | fall
  | clock (access : Option Access)

namespace Device

/-- Reset with idle lines; the banks and their output registers keep what they hold. -/
def reset (d : Device) : Device :=
  { d with
    csN := true
    sck := false
    header :=
      { rxShift := 0
        bitCount := 0
        byteCount := 0
        opcode := 0
        controlWord := 0
        statusSnapshot := 0
        frameActive := false
        frameEndSeen := false
        frameOpcodeLatched := 0
        frameHasHeaderLatched := false
        controlWordLatched := 0 }
    rxFrame :=
      { declaredLength := 0
        acceptRxFrame := true
        writeRequestPayloadPhase := false
        rxWriteBank := false
        rxCommitBank := false
        rxBytesRemaining := 0
        rxWriteAddrCtr := 0
        rxCommitLength := 0
        rxCommitValid := false
        rxCommitOverflow := false }
    txFrame :=
      { txShift := 0
        readResponsePayloadPhase := false
        txLoadedSnapshot := false
        txLoadedBankSnapshot := false
        txBytesRemaining := 0
        txLengthSnapshot := 0
        txLengthCountSnapshot := 0
        txRamReadAddr := 0
        frameReadResponseComplete := false }
    frameEndToggle := false
    misoBit := false
    rx :=
      { ready := false
        readyBank := false
        overflowSticky := false
        frameErrorSticky := false
        length := 0
        cpuReadCount := 0
        cpuReadHold := 0
        cpuReadHoldValid := false }
    tx :=
      { length := 0
        stagedLength := 0
        cpuWriteCount := 0
        loaded := false
        loadedBank := false
        stageBankSelect := false
        irqAsserted := false
        readComplete := false }
    wbRequestLatched := false
    wbAck := false
    csMeta := true
    csSync := true
    csPrev := true }

variable (d : Device)

/-- The next edge of the SPI clock is the first of a frame. -/
def startsFrame : Bool := !d.header.frameActive || d.frameEndToggle ≠ d.header.frameEndSeen

/-- The edge writes a payload byte; its write enable does not look at the start of a frame. -/
def rxWriteFire : Bool :=
  !d.csN && d.header.frameActive && d.header.bitCount = 7 && d.rxFrame.writeRequestPayloadPhase &&
    d.rxFrame.acceptRxFrame && d.rxFrame.rxBytesRemaining ≠ 0

def txSpiReadData : UInt8 := d.txSpiData d.txFrame.txLoadedBankSnapshot

/-- A rising edge of the SPI clock. -/
def riseEdge (mailboxBytes : Nat) (mosi : Bool) : Device :=
  let d' := { d with
    sck := true
    rxRam :=
      if d.rxWriteFire then fun bank addr =>
        if bank = d.rxFrame.rxWriteBank ∧ addr = d.rxFrame.rxWriteAddrCtr then d.header.rxByte mosi
        else d.rxRam bank addr
      else d.rxRam
    txSpiData := fun bank => d.txRam bank d.txFrame.txRamReadAddr }
  if d.csN then
    { d' with
      header := d.header.deselected
      rxFrame := d.rxFrame.deselected
      txFrame := d.txFrame.deselected }
  else if d.startsFrame then
    { d' with
      header := d.header.start mosi d.frameEndToggle
      rxFrame := d.rxFrame.start
      txFrame := d.txFrame.start }
  else if d.header.bitCount = 7 then
    { d' with
      header := d.header.byte mosi (statusByte true d.rx d.tx)
      rxFrame := d.rxFrame.byte mailboxBytes d.rx.ready d.header (d.header.rxByte mosi)
      txFrame := d.txFrame.byte d.header (d.header.rxByte mosi) d.tx (statusByte true d.rx d.tx)
        d.txSpiReadData }
  else
    { d' with
      header := d.header.bit mosi
      txFrame := d.txFrame.bit }

/-- The end of a chip-select window, two clocks after it has been sampled. -/
def frameEndFire : Bool := !d.csPrev && d.csSync

def writeRequestFrame : Bool :=
  d.frameEndFire && d.header.frameOpcodeLatched = opcodeWriteRequest

def writeControlFrame : Bool :=
  d.frameEndFire && d.header.frameOpcodeLatched = opcodeWriteControl &&
    d.header.frameHasHeaderLatched

/-- The bus access that takes effect, once for each request. -/
def fired (access : Option Access) : Option Access := if d.wbRequestLatched then none else access

/-- The control word that applies; the one of an SPI frame goes before the CPU's. -/
def controlWord (access : Option Access) : Option UInt16 :=
  if d.writeControlFrame then some d.header.controlWordLatched else controlWrite (d.fired access)

/-- A frame end hands the received message over. -/
def delivers : Bool :=
  d.writeRequestFrame && d.header.frameHasHeaderLatched && d.rxFrame.rxCommitValid

def rxFrameEnd (next : RxMailbox) : RxMailbox :=
  if d.writeRequestFrame then
    if d.header.frameHasHeaderLatched && d.rxFrame.rxCommitValid then
      { next with
        length := d.rxFrame.rxCommitLength
        ready := true
        readyBank := d.rxFrame.rxCommitBank
        frameErrorSticky := false
        cpuReadCount := 0
        cpuReadHoldValid := false }
    else if d.header.frameHasHeaderLatched && d.rxFrame.rxCommitOverflow then
      { next with overflowSticky := true }
    else if d.header.frameHasHeaderLatched then { next with frameErrorSticky := true }
    else next
  else next

def marksRead : Bool :=
  d.frameEndFire && d.header.frameOpcodeLatched = opcodeReadResponse && d.tx.loaded &&
    d.txFrame.frameReadResponseComplete

def txFrameEnd (next : TxMailbox) : TxMailbox :=
  if d.marksRead then { next with readComplete := true } else next

def clockEdge (mailboxBytes : Nat) (access : Option Access) : Device :=
  { d with
    csMeta := d.csN
    csSync := d.csMeta
    csPrev := d.csSync
    wbRequestLatched := access.isSome
    wbAck := access.isSome && !d.wbRequestLatched
    rx := d.rxFrameEnd ((d.rx.readData access.isSome (d.fired access)
      (d.rxCpuData d.rx.readyBank)).control (d.controlWord access))
    tx := d.txFrameEnd (d.tx.control (d.tx.stage mailboxBytes (d.fired access))
      (d.controlWord access))
    rxCpuData := fun bank => d.rxRam bank d.rx.cpuReadCount
    txRam :=
      match d.tx.writesByte (d.fired access) with
      | some b => fun bank addr =>
        if bank = d.tx.stageBankSelect ∧ addr = d.tx.cpuWriteCount then b else d.txRam bank addr
      | none => d.txRam }

/-- One event; an edge happens only on a line that is at the other level. -/
def step (mailboxBytes : Nat) : Event → Device
  | .select => { d with csN := false }
  | .deselect =>
    if d.csN then d
    else
      { d with
        csN := true
        frameEndToggle := !d.frameEndToggle }
  | .rise mosi => if d.sck then d else d.riseEdge mailboxBytes mosi
  | .fall =>
    if d.sck then
      { d with
        sck := false
        misoBit := if d.csN then d.misoBit else d.txFrame.txShift.toNat.testBit 7 }
    else d
  | .clock access => d.clockEdge mailboxBytes access

/-- The data register of the bus while it reads `RX_DATA`. -/
def rxDataO : UInt8 :=
  if d.rx.cpuReadHoldValid then d.rx.cpuReadHold
  else if d.rx.cpuCanRead then d.rxCpuData d.rx.readyBank
  else 0

def miso : Bool := !d.csN && d.misoBit

end Device

/-! What a chip-select window brings, and the notes on a run: windows, messages and reads. -/

/-- The byte of eight bits, the highest first. -/
def byteOf (bits : List Bool) : UInt8 := UInt8.ofNat (bits.foldl (fun n b => 2 * n + b.toNat) 0)

/-- What a line has carried in a window: whole bytes, and the bits after them. -/
structure Line where
  bytes : List UInt8
  rest : List Bool
  deriving DecidableEq

def Line.take (l : Line) (bit : Bool) : Line :=
  if l.rest.length = 7 then
    { bytes := l.bytes ++ [byteOf (l.rest ++ [bit])]
      rest := [] }
  else { l with rest := l.rest ++ [bit] }

/-- What a window brings, and whether the mailbox was free at its first clock. -/
structure Window extends Line where
  free : Bool
  deriving DecidableEq

namespace Window

def take (w : Window) (mosi : Bool) : Window := { w with toLine := w.toLine.take mosi }

def isWriteRequest (w : Window) : Bool := w.bytes.head? = some opcodeWriteRequest

/-- The message of a WRITE_REQUEST frame: a payload of the declared length, which a mailbox of
this size can hold, and which found the mailbox free. -/
def message (mailboxBytes : Nat) (w : Window) : Option (List UInt8) :=
  match w.bytes with
  | opcode :: lo :: hi :: payload =>
    if opcode = opcodeWriteRequest ∧ payload.length = hi.toNat * 256 + lo.toNat ∧
        payload.length ≤ mailboxBytes ∧ w.free then some payload
    else none
  | _ => none

end Window

/-- The notes on a run. -/
structure History where
  /-- the window under way, from its first clock on -/
  current : Option Window
  /-- the window whose end has not been processed -/
  waiting : Option Window
  /-- the windows whose end has been processed, and whether an error flag stood after it -/
  ended : List (Window × Bool)
  deliveries : List (List UInt8)
  /-- the bytes that the CPU has read of the last message -/
  taken : List UInt8

def History.empty : History := ⟨none, none, [], [], []⟩

namespace Device

variable (d : Device)

def message : List UInt8 := (List.range d.rx.length).map (d.rxRam d.rx.readyBank)

/-- A control word that releases the receive mailbox. -/
def releases (access : Option Access) : Bool :=
  match d.controlWord access with
  | some word => softReset word || clearRx word
  | none => false

def processed (h : History) (d' : Device) : List (Window × Bool) :=
  match h.waiting with
  | some w => h.ended ++ [(w, d'.rx.overflowSticky || d'.rx.frameErrorSticky)]
  | none => h.ended

/-- The notes on one event. -/
def watch (mailboxBytes : Nat) (e : Event) (h : History) : History :=
  match e with
  | .rise mosi =>
    if d.sck || d.csN then h
    else { h with current := some ((h.current.getD ⟨⟨[], []⟩, !d.rx.ready⟩).take mosi) }
  | .deselect =>
    if d.csN then h
    else
      { h with
        current := none
        waiting := if h.current.isSome then h.current else h.waiting }
  | .clock access =>
    let d' := d.clockEdge mailboxBytes access
    { h with
      waiting := if d.frameEndFire then none else h.waiting
      ended := if d.frameEndFire then processed h d' else h.ended
      deliveries := if d.delivers then h.deliveries ++ [d'.message] else h.deliveries
      taken :=
        if d.delivers || d.releases access then []
        else if d.rx.takesByte (d.fired access) then h.taken ++ [d'.rxDataO]
        else h.taken }
  | .select | .fall => h

/-- No end of a window is on its way through the synchroniser. -/
def settled : Bool := (d.csPrev || !d.csSync) && (d.csSync || !d.csMeta)

/-- Each frame end is processed before the next clock; every window is recognised as a new
frame, stays within the byte counter, ends no WRITE_REQUEST inside its header and finds the
mailbox at the header's end as at its start; and only the end of a window with clocks hands a
message over. -/
def KeepsRx : Device × History → Event → Prop
  | (d, h), .rise _ =>
    d.sck = false →
      if d.csN then h.waiting = none
      else
        match h.current with
        | none => d.startsFrame = true ∧ h.waiting = none ∧ d.settled = true
        | some w =>
          w.rest.length = 7 → w.bytes.length < 65536 ∧
            (w.bytes.length = 2 → w.isWriteRequest = true → w.free = true ∨ d.rx.ready = true)
  | (d, h), .deselect =>
    d.csN = false →
      match h.current with
      | none => True
      | some w => w.isWriteRequest = true → 3 ≤ w.bytes.length
  | (d, h), .clock _ => d.delivers = true → h.waiting.isSome = true
  | _, .select | _, .fall => True

instance : ∀ q e, Decidable (KeepsRx q e)
  | (d, ⟨none, _, _, _, _⟩), .rise _ =>
    inferInstanceAs (Decidable (_ → if d.csN then _ else _ ∧ _ ∧ _))
  | (d, ⟨some _, _, _, _, _⟩), .rise _ =>
    inferInstanceAs (Decidable (_ → if d.csN then _ else _ → _ ∧ (_ → _ → _ ∨ _)))
  | (_, ⟨none, _, _, _, _⟩), .deselect => inferInstanceAs (Decidable (_ → True))
  | (_, ⟨some _, _, _, _, _⟩), .deselect => inferInstanceAs (Decidable (_ → _ → _))
  | (_, _), .clock _ => inferInstanceAs (Decidable (_ → _))
  | (_, _), .select => .isTrue trivial
  | (_, _), .fall => .isTrue trivial

def LeavesMessage : Device × History → Event → Prop
  | (d, _), .clock access => d.releases access = false
  | _, _ => True

/-- The slave together with the notes. -/
def watched (mailboxBytes : Nat) : Device × History → Event → Device × History :=
  Machine.observed (Device.step · mailboxBytes) fun d e h => d.watch mailboxBytes e h

/-- All registers and banks at zero. -/
def blank : Device :=
  { csN := true
    sck := false
    header := ⟨0, 0, 0, 0, 0, 0, false, false, 0, false, 0⟩
    rxFrame := ⟨0, false, false, false, false, 0, 0, 0, false, false⟩
    txFrame := ⟨0, false, false, false, 0, 0, 0, 0, false⟩
    frameEndToggle := false
    misoBit := false
    rx := ⟨false, false, false, false, 0, 0, 0, false⟩
    tx := ⟨0, 0, 0, false, false, false, false, false⟩
    wbRequestLatched := false
    wbAck := false
    csMeta := false
    csSync := false
    csPrev := false
    rxRam := fun _ _ => 0
    rxCpuData := fun _ => 0
    txRam := fun _ _ => 0
    txSpiData := fun _ => 0 }

/-- Eight pulses of the SPI clock, the highest bit first. -/
def byteEvents (b : UInt8) : List Event :=
  [7, 6, 5, 4, 3, 2, 1, 0].flatMap fun k => [.rise (b.toNat.testBit k), .fall]

/-- A chip-select window and the clocks in which its end is processed. -/
def windowEvents (bytes : List UInt8) : List Event :=
  [.select, .clock none, .clock none] ++ bytes.flatMap byteEvents ++
    [.deselect, .clock none, .clock none, .clock none]

end Device

end NodeNet.Spi

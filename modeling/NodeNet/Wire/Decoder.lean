import NodeNet.Lib.Machine
import NodeNet.Wire.Transmit

/-! The NodeNet decoder: one clock, and what it gives out over many. -/
namespace NodeNet.Wire
open NodeNet.Machine

def receiveTimeoutCycles : UInt32 := 25000000

inductive RxState where
  | idle | waitSoh | rxDst | rxSrc | rxLenHi | rxLenLo | waitStx | rxPayload | rxEtx | rxCrc | rxEot
  | validate
  deriving DecidableEq

structure Decoder where
  myAddr : UInt8
  state : RxState
  dst : UInt8
  src : UInt8
  payloadLen : UInt16
  payloadIdx : UInt16
  crc : UInt8
  crcReceived : UInt8
  highNibble : UInt8
  firstNibble : Bool
  timeoutCounter : UInt32
  msgValid : Bool
  msgSrcAddr : UInt8
  msgDstAddr : UInt8
  msgLen : UInt16
  msgData : UInt8
  msgDataValid : Bool
  msgComplete : Bool
  error : Bool

/-- The high and the low nibble are complements. -/
def isValidEncodedNibble (b : UInt8) : Bool := (b >>> 4) ^^^ (b &&& 0x0F) = 0x0F

def Decoder.timeout (d : Decoder) : Bool := receiveTimeoutCycles < d.timeoutCounter

def Decoder.endPulses (d : Decoder) : Decoder :=
  { d with msgValid := false, msgDataValid := false, msgComplete := false, error := false }

def Decoder.goTo (d : Decoder) (state : RxState) : Decoder := { d with state := state }

def Decoder.reject (d : Decoder) : Decoder := { d with state := .idle, error := true }

def Decoder.complete (d : Decoder) (len : UInt16) : Decoder :=
  { d with
    msgSrcAddr := d.src
    msgDstAddr := d.dst
    msgLen := len
    msgComplete := true
    msgValid := true
    state := .idle }

/-- The second nibble of a payload byte. -/
def Decoder.takeByte (d : Decoder) (b : UInt8) : Decoder :=
  let decoded := d.highNibble ||| (b &&& 0x0F)
  { d with
    msgData := decoded
    msgDataValid := true
    crc := d.crc ^^^ decoded
    payloadIdx := d.payloadIdx + 1
    firstNibble := true
    state := if d.payloadIdx + 1 = d.payloadLen then .rxEtx else .rxPayload }

def Decoder.receive (d : Decoder) (b : UInt8) : Decoder :=
  match d.state with
  | .idle => if b = nodenetSoh then { d with state := .rxDst, crc := 0 } else d
  | .rxDst => { d with dst := b, state := .rxSrc }
  | .rxSrc => { d with src := b, state := .rxLenHi }
  | .rxLenHi =>
    { d with
      payloadLen := (b.toUInt16 <<< 8) ||| (d.payloadLen &&& 0x00FF)
      state := .rxLenLo }
  | .rxLenLo =>
    { d with
      payloadLen := (d.payloadLen &&& 0xFF00) ||| b.toUInt16
      crc := d.dst ^^^ d.src ^^^ lenHi d.payloadLen ^^^ b
      payloadIdx := 0
      state := .waitStx }
  | .waitStx =>
    if b = nodenetStx then { d with firstNibble := true, state := .rxPayload }
    else if b = nodenetEot then
      -- a heartbeat, which is broadcast and carries no payload
      if d.dst = 0 then d.complete 0 else d.reject
    else d
  | .rxPayload =>
    if isValidEncodedNibble b then
      if d.firstNibble then { d with highNibble := b &&& 0xF0, firstNibble := false }
      else d.takeByte b
    else if b = nodenetEtx ∧ d.payloadIdx = d.payloadLen then d.goTo .rxCrc
    else d.reject
  | .rxEtx => if b = nodenetEtx then d.goTo .rxCrc else d.reject
  | .rxCrc => { d with crcReceived := b, state := .rxEot }
  | .rxEot =>
    if b = nodenetEot then
      if d.crc = d.crcReceived ∧ (d.dst = d.myAddr ∨ d.dst = 0) then d.complete d.payloadLen
      else d.reject
    else d.reject
  | .waitSoh | .validate => d.goTo .idle

/-- One clock, in which a byte may arrive. -/
def Decoder.clock (d : Decoder) : Option UInt8 → Decoder
  | some b => Decoder.receive { d.endPulses with timeoutCounter := 0 } b
  | none =>
    let d' := { d.endPulses with timeoutCounter := d.timeoutCounter + 1 }
    if d.timeout && d.state ≠ .idle then { d' with state := .idle, firstNibble := true } else d'

inductive Output where
  | data (b : UInt8)
  | complete (src dst : UInt8) (len : UInt16)
  deriving DecidableEq

def Decoder.outputs (d : Decoder) : List Output :=
  (if d.msgDataValid then [.data d.msgData] else []) ++
    (if d.msgComplete && d.msgValid then [.complete d.msgSrcAddr d.msgDstAddr d.msgLen] else [])

/-- The outputs of a run, collected clock by clock. -/
def Decoder.collect : Decoder → List (Option UInt8) → Decoder × List Output
  | d, [] => (d, [])
  | d, rx :: rest =>
    let after := Decoder.collect (d.clock rx) rest
    (after.1, (d.clock rx).outputs ++ after.2)

/-- No clock of the run times a frame out. -/
def NoTimeout (d : Decoder) (rx : Option UInt8) : Prop :=
  rx = none → d.timeout = false ∨ d.state = .idle

instance (d : Decoder) (rx : Option UInt8) : Decidable (NoTimeout d rx) :=
  inferInstanceAs (Decidable (rx = none → d.timeout = false ∨ d.state = .idle))

end NodeNet.Wire

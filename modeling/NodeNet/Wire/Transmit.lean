/-! The transmit side of the NodeNet peripheral: staging a frame and its state machine. -/
namespace NodeNet.Wire

def nodenetSoh : UInt8 := 0x01

def nodenetStx : UInt8 := 0x02

def nodenetEtx : UInt8 := 0x03

def nodenetEot : UInt8 := 0x04

def nodenetLf : UInt8 := 0x0A

def maxPayload : UInt16 := 2048

def encodeNibbleHigh (b : UInt8) : UInt8 :=
  let highNib := b &&& 0xF0
  highNib ||| ((~~~highNib &&& 0xF0) >>> 4)

def encodeNibbleLow (b : UInt8) : UInt8 :=
  let lowNib := b &&& 0x0F
  lowNib ||| (~~~lowNib <<< 4)

def lenHi (len : UInt16) : UInt8 := (len >>> 8).toUInt8

def lenLo (len : UInt16) : UInt8 := len.toUInt8

inductive TxState where
  | idle | prefixLf | prefixSoh | hdrDst | hdrSrc | lenHi | lenLo | stx | payloadHi | payloadLo
  | etx | crc | eot | suffixLf | trailerZero
  deriving DecidableEq

structure Transmitter where
  nodeAddr : UInt8
  stageDst : UInt8
  stageLen : UInt16
  loadCount : UInt16
  stageValid : Bool
  pending : Bool
  pendingIsHeartbeat : Bool
  buffer : UInt16 → UInt8
  active : Bool
  frameIsHeartbeat : Bool
  frameDst : UInt8
  frameLen : UInt16
  streamIdx : UInt16
  prefixLfCount : BitVec 2
  crc : UInt8
  currentByte : UInt8
  state : TxState

/-- A write of the command register stages a frame. -/
def Transmitter.writeTxCmd (t : Transmitter) (dst : UInt8) (len : UInt16) : Transmitter :=
  if !t.active && !t.pending then
    { t with
      stageDst := dst
      stageLen := len
      loadCount := 0
      stageValid := len ≤ maxPayload
      pendingIsHeartbeat := false }
  else t

def Transmitter.writeTxData (t : Transmitter) (b : UInt8) : Transmitter :=
  if t.stageValid && !t.active && !t.pending && t.loadCount < t.stageLen &&
      t.loadCount < maxPayload then
    { t with
      buffer := fun i => if i = t.loadCount then b else t.buffer i
      loadCount := t.loadCount + 1 }
  else t

/-- The send bit of the control register, while no frame comes in. -/
def Transmitter.requestSend (t : Transmitter) : Transmitter :=
  if t.stageValid && !t.pending && !t.active && t.loadCount = t.stageLen then
    { t with
      pending := true
      pendingIsHeartbeat := false }
  else t

def Transmitter.startFrame (t : Transmitter) : Transmitter :=
  if !t.active && t.pending then
    let t := { t with
      pending := false
      active := true
      frameIsHeartbeat := t.pendingIsHeartbeat
      state := .prefixLf
      prefixLfCount := 0
      streamIdx := 0 }
    if t.pendingIsHeartbeat then { t with frameDst := 0, frameLen := 0, crc := t.nodeAddr }
    else
      { t with
        frameDst := t.stageDst
        frameLen := t.stageLen
        crc := t.stageDst ^^^ t.nodeAddr ^^^ lenHi t.stageLen ^^^ lenLo t.stageLen }
  else t

/-- The last byte is on its way: the stage is free again. -/
def Transmitter.finishFrame (t : Transmitter) : Transmitter :=
  { t with
    state := .idle
    active := false
    frameIsHeartbeat := false
    stageValid := false
    pendingIsHeartbeat := false
    stageDst := 0
    stageLen := 0
    loadCount := 0 }

def Transmitter.goTo (t : Transmitter) (state : TxState) : Transmitter := { t with state := state }

/-- The UART becomes ready: the next state, and the byte given to the UART. -/
def Transmitter.edge (t : Transmitter) : Transmitter × Option UInt8 :=
  if !t.active then (t, none)
  else
    match t.state with
    | .prefixLf =>
      (if t.prefixLfCount = 2 then t.goTo .prefixSoh
        else { t with prefixLfCount := t.prefixLfCount + 1 }, some nodenetLf)
    | .prefixSoh => (t.goTo .hdrDst, some nodenetSoh)
    | .hdrDst => (t.goTo .hdrSrc, some t.frameDst)
    | .hdrSrc => (t.goTo .lenHi, some t.nodeAddr)
    | .lenHi => (t.goTo .lenLo, some (Wire.lenHi t.frameLen))
    | .lenLo => (t.goTo (if t.frameIsHeartbeat then .eot else .stx), some (Wire.lenLo t.frameLen))
    | .stx => (t.goTo (if t.frameLen = 0 then .etx else .payloadHi), some nodenetStx)
    | .payloadHi =>
      ({ t with
        currentByte := t.buffer t.streamIdx
        state := .payloadLo }, some (encodeNibbleHigh (t.buffer t.streamIdx)))
    | .payloadLo =>
      let t' := { t with crc := t.crc ^^^ t.currentByte }
      (if t.frameLen ≤ t.streamIdx + 1 then { t' with streamIdx := 0, state := .etx }
        else { t' with streamIdx := t.streamIdx + 1, state := .payloadHi },
        some (encodeNibbleLow t.currentByte))
    | .etx => (t.goTo .crc, some nodenetEtx)
    | .crc => if t.frameIsHeartbeat then (t.finishFrame, some 0) else (t.goTo .eot, some t.crc)
    | .eot => (t.goTo (if t.frameIsHeartbeat then .crc else .trailerZero), some nodenetEot)
    | .trailerZero => (t.goTo .suffixLf, some 0)
    | .suffixLf => (t.finishFrame, some nodenetLf)
    | .idle => ({ t with active := false }, none)

/-- What `n` ready edges leave and emit. -/
def Transmitter.emit : Nat → Transmitter → Transmitter × List UInt8
  | 0, t => (t, [])
  | n + 1, t =>
    let rest := Transmitter.emit n t.edge.1
    (rest.1, t.edge.2.toList ++ rest.2)

/-- The payload is staged, requested and started. -/
def Transmitter.begin (t : Transmitter) (dst : UInt8) (payload : List UInt8) : Transmitter :=
  (payload.foldl Transmitter.writeTxData
    (t.writeTxCmd dst (UInt16.ofNat payload.length))).requestSend.startFrame

/-- Two nibbles for each byte, each with its complement. -/
def encodePayload (payload : List UInt8) : List UInt8 :=
  payload.flatMap fun b => [encodeNibbleHigh b, encodeNibbleLow b]

def frameCrc (dst src : UInt8) (payload : List UInt8) : UInt8 :=
  payload.foldl (· ^^^ ·)
    (dst ^^^ src ^^^ lenHi (UInt16.ofNat payload.length) ^^^ lenLo (UInt16.ofNat payload.length))

def dataFrame (dst src : UInt8) (payload : List UInt8) : List UInt8 :=
  [nodenetLf, nodenetLf, nodenetLf, nodenetSoh, dst, src, lenHi (UInt16.ofNat payload.length),
      lenLo (UInt16.ofNat payload.length), nodenetStx] ++
    encodePayload payload ++
    [nodenetEtx, frameCrc dst src payload, nodenetEot, 0, nodenetLf]

end NodeNet.Wire

import NodeNet.Lib.Machine
import NodeNet.Wire.Framing
import NodeNet.Wire.Peripheral

/-! What one clock does to the transmitter, by what it is doing. -/
namespace NodeNet.Wire

namespace Peripheral

variable {p : Peripheral} {i : Cycle}

def nodeAddrNext (p : Peripheral) (i : Cycle) : UInt8 :=
  match p.fired i with
  | some (.write .config dat) => dat.toUInt8
  | _ => p.tx.nodeAddr

/-- The access leaves the staged frame alone. -/
def sparesStage (p : Peripheral) (i : Cycle) : Bool :=
  match p.fired i with
  | some (.write .txCmd _) | some (.write .txData _) => false
  | some (.write .control dat) => dat &&& 1 = 0
  | _ => true

theorem heartbeatStarts_busy (h : p.txIdle = false) : p.heartbeatStarts i = false := by
  simp [heartbeatStarts, h]

theorem heartbeatRequested_busy (h : p.txIdle = false) : p.heartbeatRequested i = false := by
  unfold heartbeatRequested
  split
  · simp [h]
  · rfl

theorem sendRequested_busy (h : p.tx.pending = true ∨ p.tx.active = true) :
    p.sendRequested i = false := by
  unfold sendRequested
  split
  · rcases h with h | h <;> simp [h]
  · rfl

theorem sendRequested_spares (h : p.sparesStage i = true) : p.sendRequested i = false := by
  unfold sendRequested
  split
  · next dat heq =>
    have hbit : dat &&& 1 = 0 := by simpa [sparesStage, heq] using h
    simp [hbit]
  · rfl

theorem accessTx_spares {next : Transmitter} (haddr : next.nodeAddr = p.tx.nodeAddr)
    (h : p.sparesStage i = true) (hheart : p.heartbeatRequested i = false) :
    p.accessTx i next = { next with nodeAddr := p.nodeAddrNext i } := by
  have hsend := sendRequested_spares h
  have hsame : next = { next with nodeAddr := p.tx.nodeAddr } := by rw [← haddr]
  unfold accessTx nodeAddrNext
  unfold sparesStage at h
  cases hf : p.fired i with
  | none => exact hsame
  | some a =>
    cases a with
    | read reg => exact hsame
    | write reg dat =>
      cases reg with
      | txCmd | txData => simp [hf] at h
      | config => rfl
      | control => simpa [hsend, hheart] using hsame
      | _ => exact hsame

theorem accessTx_busy {next : Transmitter} (haddr : next.nodeAddr = p.tx.nodeAddr)
    (h : p.tx.pending = true ∨ p.tx.active = true) :
    p.accessTx i next = { next with nodeAddr := p.nodeAddrNext i } := by
  have hidle : p.txIdle = false := by rcases h with h | h <;> simp [txIdle, h]
  have hsame : next = { next with nodeAddr := p.tx.nodeAddr } := by rw [← haddr]
  by_cases hspares : p.sparesStage i = true
  · exact accessTx_spares haddr hspares (heartbeatRequested_busy hidle)
  · have hheart := heartbeatRequested_busy (i := i) hidle
    have hsend := sendRequested_busy (i := i) h
    unfold accessTx nodeAddrNext
    unfold sparesStage at hspares
    cases hf : p.fired i with
    | none => exact hsame
    | some a =>
      cases a with
      | read reg => exact hsame
      | write reg dat =>
        cases reg with
        | txCmd => rcases h with h | h <;> simpa [h] using hsame
        | txData => rcases h with h | h <;> simpa [h] using hsame
        | config => rfl
        | control => simpa [hsend, hheart] using hsame
        | _ => exact hsame

theorem txNext_active (h : p.tx.active = true) :
    p.txNext i =
      if p.byteEdge then { p.tx.edge.1 with nodeAddr := p.nodeAddrNext i }
      else { p.tx with nodeAddr := p.nodeAddrNext i } := by
  have hidle : p.txIdle = false := by simp [txIdle, h]
  have hstarts : p.frameStarts i = false := by simp [frameStarts, h]
  simp only [txNext, heartbeatStarts_busy hidle, hstarts, accessTx_busy rfl (Or.inr h),
    Bool.false_eq_true, if_false]

theorem txNext_pending (hactive : p.tx.active = false) (h : p.tx.pending = true) :
    p.txNext i =
      if p.frameStarts i then { p.tx.startFrame with nodeAddr := p.nodeAddrNext i }
      else { p.tx with nodeAddr := p.nodeAddrNext i } := by
  have hidle : p.txIdle = false := by simp [txIdle, h]
  have hedge : p.byteEdge = false := by simp [byteEdge, hactive]
  simp only [txNext, heartbeatStarts_busy hidle, hedge, accessTx_busy rfl (Or.inl h),
    Bool.false_eq_true, if_false]

theorem txNext_free (hactive : p.tx.active = false) (h : p.tx.pending = false) :
    p.txNext i = p.accessTx i
      (if p.heartbeatStarts i then { p.tx with pending := true, pendingIsHeartbeat := true }
      else p.tx) := by
  have hedge : p.byteEdge = false := by simp [byteEdge, hactive]
  have hstarts : p.frameStarts i = false := by simp [frameStarts, h]
  simp only [txNext, hedge, hstarts, Bool.false_eq_true, if_false]

theorem txNext_spares (hactive : p.tx.active = false) (h : p.tx.pending = false)
    (hspares : p.sparesStage i = true) :
    p.txNext i =
      if p.heartbeatStarts i || p.heartbeatRequested i then
        { p.tx with
          pending := true
          pendingIsHeartbeat := true
          nodeAddr := p.nodeAddrNext i }
      else { p.tx with nodeAddr := p.nodeAddrNext i } := by
  rw [txNext_free hactive h]
  cases hreq : p.heartbeatRequested i with
  | false =>
    cases hstarts : p.heartbeatStarts i <;>
      simp only [Bool.false_eq_true, if_false, if_true, Bool.or_false] <;>
      exact accessTx_spares rfl hspares hreq
  | true =>
    have hsend := sendRequested_spares hspares
    obtain ⟨dat, hf⟩ : ∃ dat, p.fired i = some (.write .control dat) := by
      unfold heartbeatRequested at hreq
      split at hreq
      · next dat heq => exact ⟨dat, heq⟩
      · exact absurd hreq Bool.false_ne_true
    have haddr : p.nodeAddrNext i = p.tx.nodeAddr := by simp [nodeAddrNext, hf]
    cases hstarts : p.heartbeatStarts i <;> simp [accessTx, hf, hreq, hsend, haddr]

end Peripheral

/-! The byte handshake between the transmitter and its UART. -/

/-- The UART is offered a byte only while it can take it, and then goes on to the next. -/
structure UartOk (p : Peripheral) : Prop where
  offered : p.uartTxValid = true → p.uart.busy = false ∧ p.uartTxReadyD = true
  counting : p.uart.busy = true → p.uart.bitCount ≠ 0
  rising : p.tx.active = true → p.uartTxReadyD = true → p.uart.busy = true ∨ p.uartTxValid = true

theorem uartOk_reset (p : Peripheral) : UartOk p.reset where
  offered h := absurd h Bool.false_ne_true
  counting h := absurd h Bool.false_ne_true
  rising h := absurd h Bool.false_ne_true

variable {t : Transmitter}

theorem edge_gives (hactive : t.active = true) (h : t.edge.1.active = true) :
    t.edge.2.isSome = true := by
  cases hs : t.state <;> simp only [Transmitter.edge, hactive, hs] at h ⊢
  case crc => cases t.frameIsHeartbeat <;> rfl
  case idle => simp at h
  all_goals rfl

theorem accessTx_active (p : Peripheral) (i : Cycle) (next : Transmitter) :
    (p.accessTx i next).active = next.active := by
  unfold Peripheral.accessTx
  repeat' split
  all_goals rfl

theorem active_next {p : Peripheral} {i : Cycle} (h : (p.txNext i).active = true) :
    p.frameStarts i = true ∨ p.tx.active = true := by
  cases hactive : p.tx.active with
  | true => exact Or.inr rfl
  | false =>
    refine Or.inl ?_
    cases hpending : p.tx.pending with
    | true =>
      cases hstarts : p.frameStarts i with
      | true => rfl
      | false =>
        rw [Peripheral.txNext_pending hactive hpending, hstarts] at h
        exact absurd (h.symm.trans hactive) Bool.false_ne_true.symm
    | false =>
      rw [Peripheral.txNext_free hactive hpending, accessTx_active] at h
      cases hheart : p.heartbeatStarts i <;> simp [hheart, hactive] at h

theorem uart_counting {u : UartTx} (divisor : BitVec 20) (valid : Bool)
    (h : u.busy = true → u.bitCount ≠ 0) (hbusy : (u.clock divisor valid).busy = true) :
    (u.clock divisor valid).bitCount ≠ 0 := by
  simp only [UartTx.clock] at hbusy ⊢
  generalize (if divisor ≠ 0 then divisor else 1) = bitDivisor at hbusy ⊢
  cases hb : u.busy with
  | false => cases valid <;> simp [hb] at hbusy ⊢
  | true =>
    simp only [hb, Bool.not_true, Bool.false_and, Bool.false_eq_true, if_false, if_true] at hbusy ⊢
    by_cases hend : bitDivisor - 1 ≤ u.counter
    · rw [if_pos hend] at hbusy ⊢
      have hlast : u.bitCount ≠ 1 := by simpa using hbusy
      intro hzero
      exact hlast (by simpa [BitVec.sub_eq_iff_eq_add] using hzero)
    · rw [if_neg hend]
      exact h hb

theorem uart_idle {u : UartTx} (h : u.busy = false) (divisor : BitVec 20) :
    u.clock divisor false = u := by
  simp [UartTx.clock, h]

theorem UartOk.clock {p : Peripheral} (h : UartOk p) (i : Cycle) : UartOk (p.clock i) := by
  refine ⟨fun hvalid => ?_, uart_counting _ _ h.counting, fun hactive hready => ?_⟩
  · have hedge : p.byteEdge = true := by
      cases hedge : p.byteEdge with
      | true => rfl
      | false => simp [Peripheral.clock, Peripheral.txByte, hedge] at hvalid
    simp only [Peripheral.byteEdge, Bool.and_eq_true, Bool.not_eq_true'] at hedge
    obtain ⟨⟨hactive, hbusy⟩, hready⟩ := hedge
    have hquiet : p.uartTxValid = false := by
      cases hv : p.uartTxValid with
      | false => rfl
      | true => exact absurd ((h.offered hv).2.symm.trans hready) Bool.false_ne_true.symm
    have hstarts : p.frameStarts i = false := by simp [Peripheral.frameStarts, hactive]
    constructor
    · simp [Peripheral.clock, hquiet, uart_idle hbusy, hbusy]
    · simp [Peripheral.clock, hstarts, hbusy]
  · have hnot : p.frameStarts i = false ∧ p.uart.busy = false := by
      simpa [Peripheral.clock] using hready
    have hwas : p.tx.active = true := (active_next hactive).resolve_left (by simp [hnot.1])
    cases hedge : p.byteEdge with
    | true =>
      have hgoes : p.tx.edge.1.active = true := by
        have hnext : (p.txNext i).active = true := hactive
        rw [Peripheral.txNext_active hwas, hedge] at hnext
        exact hnext
      refine Or.inr ?_
      simpa [Peripheral.clock, Peripheral.txByte, hedge] using edge_gives hwas hgoes
    | false =>
      have hready' : p.uartTxReadyD = true := by
        simpa [Peripheral.byteEdge, hwas, hnot.2] using hedge
      have hvalid : p.uartTxValid = true := (h.rising hwas hready').resolve_left (by simp [hnot.2])
      exact Or.inl (by simp [Peripheral.clock, UartTx.clock, hnot.2, hvalid])

theorem wireByte_clock {p : Peripheral} (h : UartOk p) (i : Cycle) :
    (p.clock i).wireByte = p.txByte := by
  cases hb : p.txByte with
  | none => simp [Peripheral.wireByte, Peripheral.clock, hb]
  | some b =>
    have hvalid : (p.clock i).uartTxValid = true := by simp [Peripheral.clock, hb]
    have hbusy := ((h.clock i).offered hvalid).1
    have hdata : (p.clock i).uartTxData = b := by simp [Peripheral.clock, hb]
    simp [Peripheral.wireByte, hvalid, hbusy, hdata]

/-! The driver's send over the NodeNet peripheral, and what comes out on the line. -/

structure Message where
  dst : UInt8
  bytes : List UInt8
  fits : bytes.length ≤ 2048
  deriving DecidableEq

/-- Where the driver's send stands. -/
inductive SendState where
  | idle
  | polling (m : Message)
  | polled (m : Message)
  | command (m : Message)
  | data (m : Message) (k : Nat)
  | control (m : Message)
  deriving DecidableEq

/-- The driver's other accesses; no other code sends. -/
inductive OtherAccess where
  | read (reg : Reg)
  | config (dat : UInt32)
  | ledCfg (dat : UInt32)
  | uartBaud (dat : UInt32)
  | irqCtrl (dat : UInt32)
  | control (dat : UInt32)
  deriving DecidableEq

def OtherAccess.access : OtherAccess → Access
  | .read reg => .read reg
  | .config dat => .write .config dat
  | .ledCfg dat => .write .ledCfg dat
  | .uartBaud dat => .write .uartBaud dat
  | .irqCtrl dat => .write .irqCtrl dat
  | .control dat => .write .control (dat &&& 0xFFFFFFFE)

inductive CpuAction where
  | wait
  | send (m : Message)
  | step
  | other (a : OtherAccess)
  deriving DecidableEq

def statusTxBusy : UInt32 := 0x0C800000

def SendState.access : SendState → Option Access
  | .idle | .polled _ => none
  | .polling _ => some (.read .status)
  | .command m =>
    some (.write .txCmd ((m.dst.toUInt32 <<< 24) ||| (UInt32.ofNat m.bytes.length)))
  | .data m k => some (.write .txData (m.bytes.getD k 0).toUInt32)
  | .control _ => some (.write .control 1)

/-- The send goes on when its access has taken effect. -/
def SendState.advance : SendState → SendState
  | .idle => .idle
  | .polling m => .polled m
  | .polled m => .polled m
  | .command m => if m.bytes = [] then .control m else .data m 0
  | .data m k => if k + 1 < m.bytes.length then .data m (k + 1) else .control m
  | .control _ => .idle

/-- A node with its driver; the completed sends and the line are kept beside it. -/
structure Station where
  dev : Peripheral
  cpu : SendState
  completed : List Message
  wire : List UInt8

structure Tick where
  uartRx : Option UInt8
  uartRxFrameError : Bool
  cpu : CpuAction
  deriving DecidableEq

namespace Station

variable (s : Station) (t : Tick)

def access : Option Access :=
  match t.cpu with
  | .step => s.cpu.access
  | .other a => some a.access
  | .wait | .send _ => none

def cycle : Cycle := ⟨t.uartRx, t.uartRxFrameError, s.access t⟩

/-- The send's own access takes effect. -/
def sendFires : Bool := t.cpu = .step && !s.dev.ack

def cpuNext : SendState :=
  match s.cpu, t.cpu with
  | .polled m, _ => if s.dev.datO &&& statusTxBusy = 0 then .command m else .polling m
  | .idle, .send m => .polling m
  | cpu, _ => if s.sendFires t then cpu.advance else cpu

def completes : List Message :=
  match s.cpu with
  | .control m => if s.sendFires t then [m] else []
  | _ => []

def tick : Station :=
  { dev := s.dev.clock (s.cycle t)
    cpu := s.cpuNext t
    completed := s.completed ++ s.completes t
    wire := s.wire ++ s.dev.wireByte.toList }

/-- The send found the transmitter free, or finds it so in this clock. -/
def trustsIdle : Bool :=
  match s.cpu with
  | .polling _ => s.sendFires t
  | .polled _ => s.dev.datO &&& statusTxBusy = 0
  | .command _ => true
  | _ => false

def heartbeatTakes : Bool :=
  s.dev.heartbeatStarts (s.cycle t) || s.dev.heartbeatRequested (s.cycle t)

/-- The node address changes after the check byte of a data frame was begun with it and before it
went out in the header. -/
def changesAddress : Bool :=
  (s.dev.txNext (s.cycle t)).nodeAddr ≠ s.dev.tx.nodeAddr &&
    (s.dev.frameStarts (s.cycle t) && !s.dev.tx.pendingIsHeartbeat ||
      s.dev.tx.active && !s.dev.tx.frameIsHeartbeat &&
        (s.dev.tx.state = .prefixLf || s.dev.tx.state = .prefixSoh || s.dev.tx.state = .hdrDst ||
          s.dev.tx.state = .hdrSrc && !s.dev.byteEdge))

end Station

/-- The send meets neither received traffic nor a heartbeat, and no frame a new address. -/
def KeepsSend (s : Station) (t : Tick) : Prop :=
  (s.completes t ≠ [] → s.dev.rxInProgress (s.cycle t) = false) ∧
    (s.trustsIdle t = true → s.heartbeatTakes t = false) ∧ s.changesAddress t = false

instance (s : Station) (t : Tick) : Decidable (KeepsSend s t) :=
  inferInstanceAs (Decidable (_ ∧ _))

def heartbeatFrame (src : UInt8) : List UInt8 :=
  [nodenetLf, nodenetLf, nodenetLf, nodenetSoh, 0, src, 0, 0, nodenetEot, 0]

inductive WireFrame where
  | heartbeat (src : UInt8)
  | data (src : UInt8) (m : Message)

def WireFrame.bytes : WireFrame → List UInt8
  | .heartbeat src => heartbeatFrame src
  | .data src m => dataFrame m.dst src m.bytes

def WireFrame.messages : WireFrame → List Message
  | .heartbeat _ => []
  | .data _ m => [m]

/-! The frame that goes out, byte after byte, while the node address may change. -/

structure Transmitter.Free (t : Transmitter) : Prop where
  active : t.active = false
  pending : t.pending = false
  stage : t.stageValid = false

/-- The header's source byte is out. -/
def Transmitter.pastSrc (t : Transmitter) : Prop :=
  t.state ≠ .prefixLf ∧ t.state ≠ .prefixSoh ∧ t.state ≠ .hdrDst ∧ t.state ≠ .hdrSrc

theorem edge_pending (t : Transmitter) : t.edge.1.pending = t.pending := by
  unfold Transmitter.edge
  repeat' split
  all_goals rfl

theorem edge_nodeAddr (t : Transmitter) : t.edge.1.nodeAddr = t.nodeAddr := by
  unfold Transmitter.edge
  repeat' split
  all_goals rfl

theorem edge_inactive {b : UInt8} (hactive : t.active = true) (hb : t.edge.2 = some b)
    (h : t.edge.1.active = false) : t.edge.1.stageValid = false := by
  cases hs : t.state <;> simp only [Transmitter.edge, hactive, hs] at hb h ⊢
  case crc =>
    cases hh : t.frameIsHeartbeat <;> simp_all [Transmitter.finishFrame, Transmitter.goTo]
  case suffixLf => rfl
  case idle => cases hb
  all_goals
    simp [Transmitter.goTo, hactive] at h
  all_goals
    split at h <;> simp at h

theorem edge_setAddr (h : t.pastSrc) (addr : UInt8) :
    ({ t with nodeAddr := addr } : Transmitter).edge =
      ({ t.edge.1 with nodeAddr := addr }, t.edge.2) := by
  obtain ⟨h1, h2, h3, h4⟩ := h
  cases hactive : t.active with
  | false => simp [Transmitter.edge, hactive]
  | true =>
    cases hs : t.state <;>
      simp_all [Transmitter.edge, Transmitter.goTo, Transmitter.finishFrame]
    all_goals split <;> rfl

theorem edge_pastSrc (hactive : t.active = true) (h : t.pastSrc ∨ t.state = .hdrSrc) :
    t.edge.1.pastSrc := by
  unfold Transmitter.pastSrc at h ⊢
  cases hs : t.state <;>
    simp_all [Transmitter.edge, Transmitter.goTo, Transmitter.finishFrame]
  all_goals split <;> simp_all

theorem active_of_edge {t' : Transmitter} {b : UInt8} (h : t.edge = (t', some b)) :
    t.active = true := by
  cases hactive : t.active with
  | true => rfl
  | false => simp [Transmitter.edge, hactive] at h

theorem edge_heartbeat (h : t.edge.1.active = true) :
    t.edge.1.frameIsHeartbeat = t.frameIsHeartbeat := by
  cases hactive : t.active with
  | false => simp [Transmitter.edge, hactive]
  | true =>
    cases hs : t.state <;>
      simp_all [Transmitter.edge, Transmitter.goTo, Transmitter.finishFrame]
    all_goals split <;> simp_all

theorem Emits.setAddr {t' : Transmitter} {bytes : List UInt8} (h : Emits t bytes t')
    (hpast : t.pastSrc) (addr : UInt8) :
    Emits { t with nodeAddr := addr } bytes { t' with nodeAddr := addr } := by
  induction h with
  | nil t => exact .nil _
  | @cons t t' _ b bytes hb _ ih =>
    have hnext : t'.pastSrc := by
      have hedge := edge_pastSrc (active_of_edge hb) (Or.inl hpast)
      rwa [hb] at hedge
    refine .cons ?_ (ih hnext)
    rw [edge_setAddr hpast addr, hb]

theorem Emits.free {t' : Transmitter} {bytes : List UInt8} (h : Emits t bytes t')
    (hactive : t.active = true) (hpending : t.pending = false) (hdone : t'.active = false) :
    t'.Free := by
  induction h with
  | nil t => simp [hactive] at hdone
  | @cons t t' t'' b bytes hb hrest ih =>
    have hpending' : t'.pending = false := by
      have hedge := edge_pending t
      rw [hb] at hedge
      exact hedge.trans hpending
    cases hactive' : t'.active with
    | true => exact ih hactive' hpending' hdone
    | false =>
      have hstage := edge_inactive (t := t) (b := b) hactive (by rw [hb]) (by rw [hb]; exact hactive')
      rw [hb] at hstage
      cases hrest with
      | nil => exact ⟨hactive', hpending', hstage⟩
      | cons hb' _ => exact absurd (active_of_edge hb') (by simp [hactive'])

/-- A heartbeat goes out. -/
structure Transmitter.Beats (t : Transmitter) : Prop where
  active : t.active = true
  pending : t.pending = false
  heartbeat : t.frameIsHeartbeat = true
  frameDst : t.frameDst = 0
  frameLen : t.frameLen = 0
  count : t.prefixLfCount ≤ 2

def Transmitter.heartbeatTodo (t : Transmitter) : List UInt8 :=
  match t.state with
  | .prefixLf =>
    List.replicate (3 - t.prefixLfCount.toNat) nodenetLf ++
      [nodenetSoh, 0] ++ t.nodeAddr :: [0, 0, nodenetEot, 0]
  | .prefixSoh => [nodenetSoh, 0] ++ t.nodeAddr :: [0, 0, nodenetEot, 0]
  | .hdrDst => [0] ++ t.nodeAddr :: [0, 0, nodenetEot, 0]
  | .hdrSrc => t.nodeAddr :: [0, 0, nodenetEot, 0]
  | .lenHi => [0, 0, nodenetEot, 0]
  | .lenLo => [0, nodenetEot, 0]
  | .eot => [nodenetEot, 0]
  | .crc => [0]
  | _ => []

theorem Transmitter.Beats.edge (h : t.Beats) {b : UInt8} {rest : List UInt8}
    (htodo : t.heartbeatTodo = b :: rest) : t.edge.2 = some b ∧
      (t.edge.1.Beats ∧ t.edge.1.heartbeatTodo = rest ∧ rest ≠ [] ∨
        t.edge.1.Free ∧ rest = []) := by
  have hcount := h.count
  cases hs : t.state <;> simp only [Transmitter.heartbeatTodo, hs] at htodo
  case prefixLf =>
    have hcases : t.prefixLfCount = 0 ∨ t.prefixLfCount = 1 ∨ t.prefixLfCount = 2 := by
      revert hcount
      generalize t.prefixLfCount = count
      revert count
      decide
    rcases hcases with hc | hc | hc <;> rw [hc] at htodo <;> obtain ⟨rfl, rfl⟩ := htodo <;>
      simp [Transmitter.edge, Transmitter.goTo, Transmitter.heartbeatTodo, h.active, hs, hc]
    all_goals constructor <;> simp [h.pending, h.heartbeat, h.frameDst, h.frameLen]
  case crc =>
    obtain ⟨rfl, rfl⟩ := htodo
    simp [Transmitter.edge, h.active, hs, h.heartbeat]
    exact ⟨rfl, h.pending, rfl⟩
  case prefixSoh | hdrDst | hdrSrc | lenHi | lenLo | eot =>
    obtain ⟨rfl, rfl⟩ := htodo
    simp [Transmitter.edge, Transmitter.goTo, Transmitter.heartbeatTodo, h.active, hs, h.heartbeat,
      h.frameDst, h.frameLen, Wire.lenHi, Wire.lenLo]
    constructor <;> first | exact hcount | simp [h.pending]
  all_goals cases htodo

theorem replace_src {done pre : List UInt8} {x src : UInt8} (addr : UInt8)
    (h : done ++ (pre ++ x :: [0, 0, nodenetEot, 0]) = heartbeatFrame src) :
    done ++ (pre ++ addr :: [0, 0, nodenetEot, 0]) = heartbeatFrame addr := by
  have hsplit : heartbeatFrame src =
      [nodenetLf, nodenetLf, nodenetLf, nodenetSoh, 0] ++ src :: [0, 0, nodenetEot, 0] := rfl
  rw [hsplit, ← List.append_assoc] at h
  have hpre := (List.append_inj' h rfl).1
  rw [← List.append_assoc, hpre]
  rfl

theorem heartbeatTodo_setAddr {done : List UInt8} {src : UInt8}
    (h : done ++ t.heartbeatTodo = heartbeatFrame src) (addr : UInt8) :
    ∃ src', done ++ ({ t with nodeAddr := addr } : Transmitter).heartbeatTodo =
      heartbeatFrame src' := by
  cases hs : t.state <;> simp only [Transmitter.heartbeatTodo, hs] at h ⊢
  case prefixLf => exact ⟨addr, replace_src addr h⟩
  case prefixSoh => exact ⟨addr, replace_src addr h⟩
  case hdrDst => exact ⟨addr, replace_src addr h⟩
  case hdrSrc => exact ⟨addr, @replace_src done [] t.nodeAddr src addr h⟩
  all_goals exact ⟨src, h⟩

/-! The words that the driver writes and reads, taken apart. -/

theorem or_and_mask (x y mask : UInt32) : (x ||| y) &&& mask = x &&& mask ||| y &&& mask :=
  UInt32.toBitVec_inj.mp BitVec.and_or_distrib_right

theorem bit_outside {n : UInt32} (b : Bool) (h : 1 <<< n &&& statusTxBusy = 0) :
    Peripheral.bit b n &&& statusTxBusy = 0 := by
  cases b
  · exact UInt32.zero_and
  · exact h

theorem bit_inside {n : UInt32} (b : Bool) (h : 1 <<< n &&& statusTxBusy = 1 <<< n) :
    Peripheral.bit b n &&& statusTxBusy = Peripheral.bit b n := by
  cases b
  · exact UInt32.zero_and
  · exact h

theorem loadCount_and_mask (n : UInt16) : n.toUInt32 &&& statusTxBusy = 0 := by
  have hlow : ∀ k < 16, (0x0C800000#32).getLsbD k = false := by decide
  apply UInt32.toBitVec_inj.mp
  apply BitVec.eq_of_getLsbD_eq
  intro k hk
  by_cases h : k < 16
  · simpa [statusTxBusy] using fun _ _ => hlow k h
  · simp [statusTxBusy, BitVec.getLsbD_of_ge n.toBitVec k (by omega)]

theorem control_noSend (dat : UInt32) : dat &&& 0xFFFFFFFE &&& 1 = 0 := by
  rw [UInt32.and_assoc]
  exact UInt32.and_zero

theorem status_idle (p : Peripheral) :
    p.statusWord &&& statusTxBusy = 0 ↔ p.txIdle = true := by
  simp only [Peripheral.statusWord, or_and_mask, loadCount_and_mask,
    bit_outside _ (show (1 : UInt32) <<< 31 &&& statusTxBusy = 0 by decide),
    bit_outside _ (show (1 : UInt32) <<< 30 &&& statusTxBusy = 0 by decide),
    bit_outside _ (show (1 : UInt32) <<< 29 &&& statusTxBusy = 0 by decide),
    bit_outside _ (show (1 : UInt32) <<< 28 &&& statusTxBusy = 0 by decide),
    bit_outside _ (show (1 : UInt32) <<< 25 &&& statusTxBusy = 0 by decide),
    bit_outside _ (show (1 : UInt32) <<< 24 &&& statusTxBusy = 0 by decide),
    bit_outside _ (show (1 : UInt32) <<< 22 &&& statusTxBusy = 0 by decide),
    bit_outside _ (show (1 : UInt32) <<< 21 &&& statusTxBusy = 0 by decide),
    bit_outside _ (show (1 : UInt32) <<< 20 &&& statusTxBusy = 0 by decide),
    bit_outside _ (show (1 : UInt32) <<< 19 &&& statusTxBusy = 0 by decide),
    bit_outside _ (show (1 : UInt32) <<< 18 &&& statusTxBusy = 0 by decide),
    bit_outside _ (show (1 : UInt32) <<< 17 &&& statusTxBusy = 0 by decide),
    bit_inside _ (show (1 : UInt32) <<< 27 &&& statusTxBusy = (1 : UInt32) <<< 27 by decide),
    bit_inside _ (show (1 : UInt32) <<< 26 &&& statusTxBusy = (1 : UInt32) <<< 26 by decide),
    bit_inside _ (show (1 : UInt32) <<< 23 &&& statusTxBusy = (1 : UInt32) <<< 23 by decide),
    Peripheral.txIdle]
  cases p.tx.pending <;> cases p.tx.active <;> cases p.tx.stageValid <;> decide

theorem txCmd_dst (dst : UInt8) {n : Nat} (h : n ≤ 2048) :
    (((dst.toUInt32 <<< 24) ||| UInt32.ofNat n) >>> 24).toUInt8 = dst := by
  apply UInt8.toBitVec_inj.mp
  apply BitVec.eq_of_getLsbD_eq
  intro k hk
  have hhigh : (UInt32.ofNat n).toBitVec.getLsbD (24 + k) = false := by
    have htest : n.testBit (24 + k) = false :=
      Nat.testBit_lt_two_pow (Nat.lt_of_lt_of_le (show n < 16777216 by omega)
        (Nat.pow_le_pow_right (show 2 > 0 by decide) (show 24 ≤ 24 + k by omega)))
    rw [show (UInt32.ofNat n).toBitVec = BitVec.ofNat 32 n from rfl, BitVec.getLsbD_ofNat, htest,
      Bool.and_false]
  have hindex : 24 + k < 32 := by omega
  have hnot : ¬ 24 + k < 24 := by omega
  have hk' : k < 32 := by omega
  simp only [UInt32.toBitVec_toUInt8, UInt32.toBitVec_shiftRight, UInt32.toBitVec_or,
    UInt32.toBitVec_shiftLeft, BitVec.getLsbD_setWidth, hk, decide_true, Bool.true_and]
  simp [hk, hindex, hk']
  rw [← BitVec.getLsbD_eq_getElem, ← BitVec.getLsbD_eq_getElem, hhigh]
  simp

theorem txCmd_len (dst : UInt8) (n : Nat) :
    ((dst.toUInt32 <<< 24) ||| UInt32.ofNat n).toUInt16 = UInt16.ofNat n := by
  apply UInt16.toBitVec_inj.mp
  apply BitVec.eq_of_getLsbD_eq
  intro k hk
  simp [hk]

/-! The phases of a send: staged, waiting, going out, and what is on the line in each. -/

/-- The first bytes of a message are staged. -/
structure Staged (t : Transmitter) (m : Message) (k : Nat) : Prop where
  valid : t.stageValid = true
  dst : t.stageDst = m.dst
  len : t.stageLen = UInt16.ofNat m.bytes.length
  count : t.loadCount = UInt16.ofNat k
  buffer : Holds t.buffer 0 (m.bytes.take k)

/-- The stage, by where the driver stands. -/
def StageOk (cpu : SendState) (t : Transmitter) : Prop :=
  match cpu with
  | .data m k => k < m.bytes.length ∧ Staged t m k
  | .control m => Staged t m m.bytes.length
  | _ => t.stageValid = false

/-- The driver does not use the mailbox. -/
def SendState.waits : SendState → Bool
  | .idle | .polling _ | .polled _ => true
  | _ => false

/-- The bytes up to the one that the UART takes in this clock. -/
def Station.line (s : Station) : List UInt8 := s.wire ++ s.dev.wireByte.toList

/-- What a free transmitter is when the driver relies on it. -/
def PollOk (s : Station) : Prop :=
  match s.cpu with
  | .polled _ => s.dev.ack = true ∧ (s.dev.datO &&& statusTxBusy = 0 → s.dev.txIdle = true)
  | _ => True

/-- The transmit engine and the line, after these frames. -/
inductive Engine (s : Station) (frames : List WireFrame) : Prop
  | free (hactive : s.dev.tx.active = false) (hpending : s.dev.tx.pending = false)
    (hstage : StageOk s.cpu s.dev.tx) (hline : s.line = frames.flatMap WireFrame.bytes)
    (hdone : frames.flatMap WireFrame.messages = s.completed)
  | heartbeatWaits (hwaits : s.cpu.waits = true) (hactive : s.dev.tx.active = false)
    (hpending : s.dev.tx.pending = true) (hkind : s.dev.tx.pendingIsHeartbeat = true)
    (hline : s.line = frames.flatMap WireFrame.bytes)
    (hdone : frames.flatMap WireFrame.messages = s.completed)
  | messageWaits (m : Message) (hwaits : s.cpu.waits = true) (hactive : s.dev.tx.active = false)
    (hpending : s.dev.tx.pending = true) (hkind : s.dev.tx.pendingIsHeartbeat = false)
    (hstaged : Staged s.dev.tx m m.bytes.length)
    (hline : s.line = frames.flatMap WireFrame.bytes)
    (hdone : frames.flatMap WireFrame.messages ++ [m] = s.completed)
  | heartbeatGoes (src : UInt8) (done : List UInt8) (hwaits : s.cpu.waits = true)
    (hbeats : s.dev.tx.Beats) (htodo : s.dev.tx.heartbeatTodo ≠ [])
    (hframe : done ++ s.dev.tx.heartbeatTodo = heartbeatFrame src)
    (hline : s.line = frames.flatMap WireFrame.bytes ++ done)
    (hdone : frames.flatMap WireFrame.messages = s.completed)
  | messageGoes (src : UInt8) (m : Message) (done todo : List UInt8) (t : Transmitter)
    (hwaits : s.cpu.waits = true) (hactive : s.dev.tx.active = true)
    (hpending : s.dev.tx.pending = false) (hkind : s.dev.tx.frameIsHeartbeat = false)
    (hemits : Emits s.dev.tx todo t) (hend : t.active = false)
    (hframe : done ++ todo = dataFrame m.dst src m.bytes)
    (hline : s.line = frames.flatMap WireFrame.bytes ++ done)
    (hdone : frames.flatMap WireFrame.messages ++ [m] = s.completed)

structure SendOk (s : Station) (frames : List WireFrame) : Prop where
  uart : UartOk s.dev
  poll : PollOk s
  engine : Engine s frames

section
variable {s : Station} {t : Tick}

theorem fired_cycle : s.dev.fired (s.cycle t) = if s.dev.ack then none else s.access t := rfl

theorem other_spares (a : OtherAccess) (dev : Peripheral) {i : Cycle}
    (h : dev.fired i = some a.access) : dev.sparesStage i = true := by
  unfold Peripheral.sparesStage
  rw [h]
  cases a with
  | control dat => simpa [OtherAccess.access] using control_noSend dat
  | _ => rfl

theorem spares_cycle (h : s.sendFires t = false ∨ s.cpu.waits = true) :
    s.dev.sparesStage (s.cycle t) = true := by
  cases hack : s.dev.ack with
  | true =>
    have hfired : s.dev.fired (s.cycle t) = none := by simp [fired_cycle, hack]
    simp [Peripheral.sparesStage, hfired]
  | false =>
    have hfired : s.dev.fired (s.cycle t) = s.access t := by simp [fired_cycle, hack]
    cases hcpu : t.cpu with
    | wait | send m => simp [Peripheral.sparesStage, hfired, Station.access, hcpu]
    | other a => exact other_spares a s.dev (hfired.trans (by simp [Station.access, hcpu]))
    | step =>
      have hwaits : s.cpu.waits = true :=
        h.resolve_left (by simp [Station.sendFires, hcpu, hack])
      cases hs : s.cpu <;>
        simp_all [SendState.waits, Peripheral.sparesStage, Station.access, SendState.access]

theorem line_tick (h : UartOk s.dev) : (s.tick t).line = s.line ++ s.dev.txByte.toList := by
  rw [Station.line, Station.line, ← wireByte_clock h (s.cycle t)]
  rfl

theorem txByte_inactive {p : Peripheral} (h : p.tx.active = false) : p.txByte = none := by
  simp [Peripheral.txByte, Peripheral.byteEdge, h]

theorem completes_nil (h : ∀ m, s.cpu ≠ .control m) : s.completes t = [] := by
  unfold Station.completes
  split
  · next m hs => exact absurd hs (h m)
  · rfl

theorem completed_tick (h : s.completes t = []) : (s.tick t).completed = s.completed := by
  rw [Station.tick, h, List.append_nil]

theorem status_read {m : Message} (hs : s.cpu = .polling m) (hfires : s.sendFires t = true) :
    (s.tick t).dev.ack = true ∧ (s.tick t).dev.datO = s.dev.statusWord := by
  simp only [Station.sendFires, Bool.and_eq_true, decide_eq_true_eq, Bool.not_eq_true'] at hfires
  have haccess : s.access t = some (.read .status) := by
    simp [Station.access, hfires.1, hs, SendState.access]
  have hfired : s.dev.fired (s.cycle t) = some (.read .status) := by
    simp [fired_cycle, hfires.2, haccess]
  constructor
  · simp [Station.tick, Peripheral.clock, Station.cycle, haccess]
  · simp [Station.tick, Peripheral.clock, hfired, Peripheral.readWord]

theorem cpuNext_idle (hs : s.cpu = .idle) :
    s.cpuNext t = .idle ∨ ∃ m, s.cpuNext t = .polling m := by
  unfold Station.cpuNext
  rw [hs]
  cases t.cpu <;> simp [SendState.advance]

theorem cpuNext_polling {m : Message} (hs : s.cpu = .polling m) :
    s.cpuNext t = if s.sendFires t then .polled m else .polling m := by
  unfold Station.cpuNext
  rw [hs]
  cases t.cpu <;> rfl

theorem cpuNext_polled {m : Message} (hs : s.cpu = .polled m) :
    s.cpuNext t = if s.dev.datO &&& statusTxBusy = 0 then .command m else .polling m := by
  unfold Station.cpuNext
  rw [hs]

theorem cpu_busy (hpoll : PollOk s) (hwaits : s.cpu.waits = true) (hbusy : s.dev.txIdle = false) :
    (s.tick t).cpu.waits = true ∧ PollOk (s.tick t) ∧ s.completes t = [] := by
  have hcpu : (s.tick t).cpu = s.cpuNext t := rfl
  cases hs : s.cpu with
  | idle =>
    refine ⟨?_, ?_, completes_nil (by simp [hs])⟩
    · rcases cpuNext_idle (t := t) hs with h | ⟨m, h⟩ <;> rw [hcpu, h] <;> rfl
    · rcases cpuNext_idle (t := t) hs with h | ⟨m, h⟩ <;> simp [PollOk, hcpu, h]
  | polling m =>
    have hnext := cpuNext_polling (t := t) hs
    refine ⟨?_, ?_, completes_nil (by simp [hs])⟩
    · rw [hcpu, hnext]
      split <;> rfl
    · cases hfires : s.sendFires t with
      | false => simp [PollOk, hcpu, hnext, hfires]
      | true =>
        obtain ⟨hack, hdat⟩ := status_read hs hfires
        rw [PollOk, hcpu, hnext, hfires]
        refine ⟨hack, fun hzero => ?_⟩
        rw [hdat, status_idle, hbusy] at hzero
        exact absurd hzero Bool.false_ne_true
  | polled m =>
    have hnonzero : s.dev.datO &&& statusTxBusy ≠ 0 := by
      intro hzero
      rw [PollOk, hs] at hpoll
      exact absurd ((hpoll.2 hzero).symm.trans hbusy) Bool.false_ne_true.symm
    have hnext : (s.tick t).cpu = .polling m := by
      rw [hcpu, cpuNext_polled hs, if_neg hnonzero]
    refine ⟨by rw [hnext]; rfl, ?_, completes_nil (by simp [hs])⟩
    simp [PollOk, hnext]
  | command m | data m k | control m => simp [SendState.waits, hs] at hwaits

end

end NodeNet.Wire

import NodeNet.Wire.Mailbox
import NodeNet.Wire.Peripheral

/-! The frames that the decoder gives out, and the payload of the one that comes in. -/
namespace NodeNet.Wire

/-- A frame as the decoder gave it out, with the node's address at its end. -/
structure Frame where
  src : UInt8
  dst : UInt8
  nodeAddr : UInt8
  payload : List UInt8
  deriving DecidableEq

/-- The payload bytes of the frame that comes in, and the frames that have ended well. -/
structure Heard where
  current : List UInt8
  frames : List Frame
  /-- The mailbox cannot have all bytes of the frame that comes in. -/
  cut : Bool

def Heard.nothing : Heard := ⟨[], [], false⟩

/-- The payload with the byte of this clock. -/
def Decoder.streamed (d : Decoder) (current : List UInt8) : List UInt8 :=
  if d.msgDataValid then current ++ [d.msgData] else current

/-- A start of header is found. -/
def Decoder.begins (d d' : Decoder) : Bool := d.state = .idle && d'.state = .rxDst

/-- What the decoder's registers say about the payload heard so far. -/
def Tracks (d : Decoder) (current : List UInt8) : Prop :=
  match d.state with
  | .idle =>
    d.msgDataValid = false ∧ d.msgValid = d.msgComplete ∧
      (d.msgComplete = true → d.msgLen.toNat = current.length ∧
        (d.msgDstAddr = d.myAddr ∨ d.msgDstAddr = 0))
  | .rxDst | .rxSrc | .rxLenHi | .rxLenLo =>
    d.msgDataValid = false ∧ d.msgComplete = false ∧ d.error = false ∧ current = []
  | .waitStx =>
    d.msgDataValid = false ∧ d.msgComplete = false ∧ d.error = false ∧ current = [] ∧
      d.payloadIdx = 0
  | .rxPayload =>
    d.msgComplete = false ∧ d.error = false ∧
      (d.streamed current).length = d.payloadIdx.toNat ∧
      (d.payloadLen ≠ 0 → d.payloadIdx < d.payloadLen)
  | .rxEtx =>
    d.msgComplete = false ∧ d.error = false ∧
      (d.streamed current).length = d.payloadIdx.toNat ∧ d.payloadIdx = d.payloadLen
  | .rxCrc | .rxEot =>
    d.msgDataValid = false ∧ d.msgComplete = false ∧ d.error = false ∧
      current.length = d.payloadLen.toNat ∧ d.payloadIdx = d.payloadLen
  | .waitSoh | .validate => False

/-- The byte counter of a frame declared empty runs over. -/
def Decoder.Wraps (d : Decoder) (rx : Option UInt8) : Prop :=
  d.state = .rxPayload ∧ d.firstNibble = false ∧ d.payloadIdx = 0xFFFF ∧ d.payloadLen = 0 ∧
    rx.any isValidEncodedNibble = true

theorem streamed_none {d : Decoder} (h : d.msgDataValid = false) (current : List UInt8) :
    d.streamed current = current := by
  rw [Decoder.streamed, h]
  rfl

theorem payloadIdx_succ {idx len : UInt16} (hidx : len ≠ 0 → idx < len)
    (hwrap : ¬ (idx = 0xFFFF ∧ len = 0)) :
    (idx + 1).toNat = idx.toNat + 1 ∧ (len ≠ 0 → idx + 1 ≠ len → idx + 1 < len) := by
  have hadd : (idx + 1).toNat = (idx.toNat + 1) % 65536 := UInt16.toNat_add idx 1
  have hmax : idx.toNat ≠ 65535 := by
    intro h
    by_cases hlen : len = 0
    · exact hwrap ⟨UInt16.toNat_inj.mp h, hlen⟩
    · have hlt := UInt16.lt_iff_toNat_lt.mp (hidx hlen)
      have := UInt16.toNat_lt len
      omega
  have hsucc : (idx + 1).toNat = idx.toNat + 1 := by
    have := UInt16.toNat_lt idx
    omega
  refine ⟨hsucc, fun hlen hne => ?_⟩
  have hlt := UInt16.lt_iff_toNat_lt.mp (hidx hlen)
  have hne' : (idx + 1).toNat ≠ len.toNat := fun h => hne (UInt16.toNat_inj.mp h)
  rw [UInt16.lt_iff_toNat_lt]
  omega

theorem tracks_wait {d d' : Decoder} {current : List UInt8} (h : Tracks d current)
    (hstate : d'.state = d.state) (hidx : d'.payloadIdx = d.payloadIdx)
    (hlen : d'.payloadLen = d.payloadLen) (hdata : d'.msgDataValid = false)
    (hcomplete : d'.msgComplete = false) (hvalid : d'.msgValid = false) (herror : d'.error = false) :
    Tracks d' (d.streamed current) := by
  unfold Tracks at h ⊢
  rw [hstate]
  cases hs : d.state <;> rw [hs] at h <;>
    simp_all [streamed_none]

theorem clock_timeout {d : Decoder} (h : d.rxTimeout = true) (addr : UInt8) :
    ({ d with myAddr := addr } : Decoder).clock none =
      { d.endPulses with
        myAddr := addr
        timeoutCounter := d.timeoutCounter + 1
        state := .idle
        firstNibble := true } := if_pos h

theorem clock_wait {d : Decoder} (h : d.rxTimeout = false) (addr : UInt8) :
    ({ d with myAddr := addr } : Decoder).clock none =
      { d.endPulses with
        myAddr := addr
        timeoutCounter := d.timeoutCounter + 1 } :=
  if_neg fun h' => Bool.false_ne_true (h.symm.trans h')

theorem tracks_clock_none {d : Decoder} {current : List UInt8} (addr : UInt8)
    (h : Tracks d current) :
    Tracks (({ d with myAddr := addr } : Decoder).clock none) (d.streamed current) := by
  cases ht : d.rxTimeout with
  | true =>
    rw [clock_timeout ht]
    exact ⟨rfl, rfl, fun h => absurd h Bool.false_ne_true⟩
  | false =>
    rw [clock_wait ht]
    exact tracks_wait h rfl rfl rfl rfl rfl rfl rfl

/-- The decoder with the pulses of the last clock gone, before it looks at a byte. -/
def Decoder.ready (d : Decoder) (addr : UInt8) : Decoder :=
  { d.endPulses with
    myAddr := addr
    timeoutCounter := 0 }

theorem tracks_idle {d : Decoder} {current : List UInt8} (addr b : UInt8) (hs : d.state = .idle) :
    Tracks ((d.ready addr).receive b)
      (if d.begins ((d.ready addr).receive b) then [] else d.streamed current) := by
  by_cases hb : b = nodenetSoh <;>
    simp [Tracks, Decoder.ready, Decoder.receive, Decoder.begins, Decoder.endPulses, hs, hb]

theorem tracks_header {d : Decoder} {current : List UInt8} (addr b : UInt8) (h : Tracks d current)
    (hs : d.state = .rxDst ∨ d.state = .rxSrc ∨ d.state = .rxLenHi ∨ d.state = .rxLenLo) :
    Tracks ((d.ready addr).receive b) (d.streamed current) := by
  rcases hs with hs | hs | hs | hs <;> simp only [Tracks, hs] at h <;>
    simp [Tracks, Decoder.ready, Decoder.receive, Decoder.endPulses, hs, streamed_none h.1, h.2]

theorem tracks_waitStx {d : Decoder} {current : List UInt8} (addr b : UInt8) (h : Tracks d current)
    (hs : d.state = .waitStx) : Tracks ((d.ready addr).receive b) (d.streamed current) := by
  simp only [Tracks, hs] at h
  rw [streamed_none h.1, h.2.2.2.1]
  by_cases hstx : b = nodenetStx
  · have hpos : d.payloadLen ≠ 0 → 0 < d.payloadLen := UInt16.pos_iff_ne_zero.mpr
    simpa [Tracks, Decoder.ready, Decoder.receive, Decoder.endPulses, Decoder.streamed, hs, hstx,
      h.2.2.2.2] using hpos
  · by_cases heot : b = nodenetEot
    · have hne : nodenetEot ≠ nodenetStx := by decide
      by_cases hd : d.dst = 0 <;>
        simp [Tracks, Decoder.ready, Decoder.receive, Decoder.endPulses, Decoder.complete,
          Decoder.reject, hs, heot, hd, hne]
    · simp [Tracks, Decoder.ready, Decoder.receive, Decoder.endPulses, hs, hstx, heot, h.2.2.2.2]

theorem tracks_takeByte {d : Decoder} {current : List UInt8} (b : UInt8) {d' : Decoder}
    (hd' : d'.payloadIdx = d.payloadIdx) (hlen' : d'.payloadLen = d.payloadLen)
    (hquiet : d'.msgComplete = false ∧ d'.error = false)
    (hlen : (d.streamed current).length = d.payloadIdx.toNat)
    (hidx : d.payloadLen ≠ 0 → d.payloadIdx < d.payloadLen)
    (hwrap : ¬ (d.payloadIdx = 0xFFFF ∧ d.payloadLen = 0)) :
    Tracks (d'.takeByte b) (d.streamed current) := by
  obtain ⟨hsucc, hlt⟩ := payloadIdx_succ hidx hwrap
  by_cases hend : d.payloadIdx + 1 = d.payloadLen
  · simp [Tracks, Decoder.takeByte, Decoder.streamed, hd', hlen', hquiet, hend]
    rw [← hend, hsucc, ← hlen]
    rfl
  · have hstreamed : ∀ l : List UInt8, ((d'.takeByte b).streamed l).length = l.length + 1 := by
      intro l
      simp [Decoder.takeByte, Decoder.streamed]
    have hstate : (d'.takeByte b).state = .rxPayload := by
      simp [Decoder.takeByte, hd', hlen', hend]
    simp only [Tracks, hstate, hstreamed, hlen]
    refine ⟨hquiet.1, hquiet.2, ?_, ?_⟩
    · change d.payloadIdx.toNat + 1 = (d'.payloadIdx + 1).toNat
      rw [hd', hsucc]
    · intro hne
      change d'.payloadIdx + 1 < d'.payloadLen
      rw [hd', hlen']
      exact hlt (by rw [← hlen']; exact hne) hend

theorem tracks_payload {d : Decoder} {current : List UInt8} (addr b : UInt8) (h : Tracks d current)
    (hwrap : ¬ d.Wraps (some b)) (hs : d.state = .rxPayload) :
    Tracks ((d.ready addr).receive b) (d.streamed current) := by
  simp only [Tracks, hs] at h
  obtain ⟨-, -, hlen, hidx⟩ := h
  by_cases hb : isValidEncodedNibble b = true
  · cases hf : d.firstNibble with
    | true =>
      have hkeep : ∀ l : List UInt8, Decoder.streamed
          { d.ready addr with highNibble := b &&& 0xF0, firstNibble := false } l = l :=
        streamed_none rfl
      have hreceive : (d.ready addr).receive b =
          { d.ready addr with highNibble := b &&& 0xF0, firstNibble := false } := by
        simp [Decoder.receive, Decoder.ready, Decoder.endPulses, hs, hb, hf]
      rw [hreceive]
      simp only [Tracks, hkeep]
      simp [Decoder.ready, Decoder.endPulses, hs, hlen]
      exact hidx
    | false =>
      have hreceive : (d.ready addr).receive b = (d.ready addr).takeByte b := by
        simp [Decoder.receive, Decoder.ready, Decoder.endPulses, hs, hb, hf]
      rw [hreceive]
      refine tracks_takeByte b rfl rfl ⟨rfl, rfl⟩ hlen hidx fun hw => ?_
      exact hwrap ⟨hs, hf, hw.1, hw.2, by simpa using hb⟩
  · by_cases hetx : b = nodenetEtx ∧ d.payloadIdx = d.payloadLen
    · have hreceive : (d.ready addr).receive b = (d.ready addr).goTo .rxCrc := by
        simp only [Decoder.receive, Decoder.ready, Decoder.endPulses, hs, hb]
        exact if_pos hetx
      rw [hreceive]
      refine ⟨rfl, rfl, rfl, ?_, hetx.2⟩
      rw [hlen, hetx.2]
      rfl
    · have hreceive : (d.ready addr).receive b = (d.ready addr).reject := by
        simp only [Decoder.receive, Decoder.ready, Decoder.endPulses, hs, hb]
        exact if_neg hetx
      rw [hreceive]
      exact ⟨rfl, rfl, fun h => absurd h Bool.false_ne_true⟩

theorem tracks_etx {d : Decoder} {current : List UInt8} (addr b : UInt8) (h : Tracks d current)
    (hs : d.state = .rxEtx) : Tracks ((d.ready addr).receive b) (d.streamed current) := by
  simp only [Tracks, hs] at h
  by_cases hetx : b = nodenetEtx <;>
    simp [Tracks, Decoder.ready, Decoder.receive, Decoder.endPulses, Decoder.goTo, Decoder.reject,
      hs, hetx, h.2.2]

theorem tracks_trailer {d : Decoder} {current : List UInt8} (addr b : UInt8) (h : Tracks d current)
    (hs : d.state = .rxCrc ∨ d.state = .rxEot) :
    Tracks ((d.ready addr).receive b) (d.streamed current) := by
  rcases hs with hs | hs
  · simp only [Tracks, hs] at h
    simp [Tracks, Decoder.ready, Decoder.receive, Decoder.endPulses, hs, streamed_none h.1, h.2]
  · simp only [Tracks, hs] at h
    rw [streamed_none h.1]
    by_cases heot : b = nodenetEot
    · by_cases hgood : d.crc = d.crcReceived ∧ (d.dst = addr ∨ d.dst = 0) <;>
        simp [Tracks, Decoder.ready, Decoder.receive, Decoder.endPulses, Decoder.complete,
          Decoder.reject, hs, heot, hgood, h.2]
    · simp [Tracks, Decoder.ready, Decoder.receive, Decoder.endPulses, Decoder.reject, hs, heot]

theorem tracks_receive {d : Decoder} {current : List UInt8} (addr b : UInt8)
    (h : Tracks d current) (hwrap : ¬ d.Wraps (some b)) :
    Tracks ((d.ready addr).receive b)
      (if d.begins ((d.ready addr).receive b) then [] else d.streamed current) := by
  by_cases hidle : d.state = .idle
  · exact tracks_idle addr b hidle
  · have hbegins : d.begins ((d.ready addr).receive b) = false := by
      simp [Decoder.begins, hidle]
    rw [hbegins]
    cases hs : d.state with
    | idle => exact absurd hs hidle
    | rxDst => exact tracks_header addr b h (Or.inl hs)
    | rxSrc => exact tracks_header addr b h (Or.inr (Or.inl hs))
    | rxLenHi => exact tracks_header addr b h (Or.inr (Or.inr (Or.inl hs)))
    | rxLenLo => exact tracks_header addr b h (Or.inr (Or.inr (Or.inr hs)))
    | waitStx => exact tracks_waitStx addr b h hs
    | rxPayload => exact tracks_payload addr b h hwrap hs
    | rxEtx => exact tracks_etx addr b h hs
    | rxCrc => exact tracks_trailer addr b h (Or.inl hs)
    | rxEot => exact tracks_trailer addr b h (Or.inr hs)
    | waitSoh | validate => simp [Tracks, hs] at h

theorem tracks_clock {d : Decoder} {current : List UInt8} (addr : UInt8) (rx : Option UInt8)
    (h : Tracks d current) (hwrap : ¬ d.Wraps rx) :
    Tracks (({ d with myAddr := addr } : Decoder).clock rx)
      (if d.begins (({ d with myAddr := addr } : Decoder).clock rx) then []
        else d.streamed current) := by
  cases rx with
  | none =>
    have hbegins : d.begins (({ d with myAddr := addr } : Decoder).clock none) = false := by
      by_cases hs : d.state = .idle <;>
        simp [Decoder.begins, Decoder.clock, Decoder.endPulses, hs]
    rw [hbegins]
    exact tracks_clock_none addr h
  | some b => exact tracks_receive (d := d) addr b h hwrap

/-! What one clock does to the receive mailbox. -/

def RxMailbox.freed (m : RxMailbox) (access : Option Access) : Bool :=
  m.valid && (clearsMailbox access || access = some (.read .rxData) && m.len ≤ m.readIdx + 1)

/-- The mailbox takes the frame that ends. -/
def RxMailbox.accepts (m : RxMailbox) (d : Decoder) : Bool :=
  d.msgComplete && d.msgValid && !m.valid && d.msgLen ≤ maxPayload

theorem access_cases (m next : RxMailbox) (access : Option Access) :
    clearsMailbox access = true ∧ m.access next access = next.clear ∨
      access = some (.read .rxData) ∧ m.access next access = m.readData next ∨
      clearsMailbox access = false ∧ access ≠ some (.read .rxData) ∧
        m.access next access = next := by
  unfold RxMailbox.access
  cases access with
  | none => exact Or.inr (Or.inr ⟨rfl, by simp, rfl⟩)
  | some a =>
    cases a with
    | read reg => cases reg <;> simp [clearsMailbox]
    | write reg dat =>
      by_cases hdat : dat &&& 2 = 0 <;> cases reg <;>
        simp [clearsMailbox, hdat]

theorem readData_fields (m next : RxMailbox) :
    let m' := m.readData next
    m'.src = next.src ∧ m'.dst = next.dst ∧ m'.len = next.len ∧ m'.buffer = next.buffer ∧
      m'.buildCount = next.buildCount ∧
      m'.valid = (next.valid && !(m.valid && m.len ≤ m.readIdx + 1)) := by
  by_cases hv : m.valid = true <;> by_cases hl : m.len ≤ m.readIdx + 1 <;>
    simp [RxMailbox.readData, hv, hl]

theorem frameEnd_accepts {m next : RxMailbox} {d : Decoder} (h : m.accepts d = true) :
    m.frameEnd next d = { next with
      src := d.msgSrcAddr
      dst := d.msgDstAddr
      readIdx := 0
      valid := true
      len := d.msgLen
      buildCount := 0 } := by
  simp only [RxMailbox.accepts, Bool.and_eq_true, Bool.not_eq_true', decide_eq_true_eq] at h
  simp [RxMailbox.frameEnd, h]

theorem frameEnd_drops {m next : RxMailbox} {d : Decoder} (h : m.accepts d = false) :
    let m' := m.frameEnd next d
    m'.src = next.src ∧ m'.dst = next.dst ∧ m'.len = next.len ∧ m'.valid = next.valid ∧
      m'.buffer = next.buffer ∧ m'.readIdx = next.readIdx ∧
      m'.buildCount = if d.msgComplete then 0 else next.buildCount := by
  cases hc : d.msgComplete with
  | false => simp [RxMailbox.frameEnd, hc]
  | true =>
    cases hv : d.msgValid with
    | false => simp [RxMailbox.frameEnd, hc, hv]
    | true =>
      have hcond : (!m.valid && d.msgLen ≤ maxPayload) = false := by
        simpa [RxMailbox.accepts, hc, hv] using h
      simp [RxMailbox.frameEnd, hc, hv, hcond]

/-- The registers of the mailbox before the CPU's access is looked at. -/
def RxMailbox.received (m : RxMailbox) (d : Decoder) (v e en : Bool) : RxMailbox :=
  (m.frameEnd ((m.capture d).seeUart v e) d).dropPartial d en

theorem received_accepts {m : RxMailbox} {d : Decoder} (h : m.accepts d = true) (v e en : Bool) :
    let m' := m.received d v e en
    m'.src = d.msgSrcAddr ∧ m'.dst = d.msgDstAddr ∧ m'.len = d.msgLen ∧ m'.valid = true ∧
      m'.buffer = (m.capture d).buffer ∧ m'.buildCount = 0 := by
  simp only [RxMailbox.received, frameEnd_accepts h]
  cases hd : d.rxTimeout || d.error <;> simp [RxMailbox.dropPartial, hd, RxMailbox.seeUart]

theorem capture_header (m : RxMailbox) (d : Decoder) :
    (m.capture d).src = m.src ∧ (m.capture d).dst = m.dst ∧ (m.capture d).len = m.len ∧
      (m.capture d).valid = m.valid := by
  unfold RxMailbox.capture
  repeat' split
  all_goals exact ⟨rfl, rfl, rfl, rfl⟩

theorem received_drops {m : RxMailbox} {d : Decoder} (h : m.accepts d = false) (v e en : Bool) :
    let m' := m.received d v e en
    m'.src = m.src ∧ m'.dst = m.dst ∧ m'.len = m.len ∧ m'.valid = m.valid ∧
      m'.buffer = (m.capture d).buffer ∧
      m'.buildCount =
        if (d.rxTimeout || d.error) || d.msgComplete then 0 else (m.capture d).buildCount := by
  obtain ⟨hsrc, hdst, hlen, hvalid⟩ := capture_header m d
  obtain ⟨hsrc', hdst', hlen', hvalid', hbuffer', -, hcount'⟩ :=
    @frameEnd_drops m ((m.capture d).seeUart v e) d h
  simp only [RxMailbox.received]
  generalize m.frameEnd ((m.capture d).seeUart v e) d = ended at *
  cases hd : d.rxTimeout || d.error <;> simp only [RxMailbox.dropPartial, hd, Bool.false_eq_true,
    if_false, if_true, Bool.false_or, Bool.true_or]
  · exact ⟨hsrc'.trans hsrc, hdst'.trans hdst, hlen'.trans hlen, hvalid'.trans hvalid, hbuffer',
      hcount'⟩
  · exact ⟨hsrc'.trans hsrc, hdst'.trans hdst, hlen'.trans hlen, hvalid'.trans hvalid, hbuffer',
      trivial⟩

theorem clock_received (m : RxMailbox) (d : Decoder) (v e en : Bool) (access : Option Access) :
    m.clock d v e en access = m.access (m.received d v e en) access := rfl

theorem access_fields (m next : RxMailbox) (access : Option Access) :
    let m' := m.access next access
    m'.src = next.src ∧ m'.dst = next.dst ∧ m'.len = next.len ∧ m'.buffer = next.buffer ∧
      m'.buildCount = (if clearsMailbox access then 0 else next.buildCount) ∧
      m'.valid = (next.valid && !(clearsMailbox access || m.freed access)) := by
  rcases access_cases m next access with ⟨hclear, h⟩ | ⟨hread, h⟩ | ⟨hclear, hread, h⟩
  · simp [h, hclear, RxMailbox.clear]
  · rw [h, hread]
    obtain ⟨hsrc, hdst, hlen, hbuffer, hcount, hvalid⟩ := readData_fields m next
    refine ⟨hsrc, hdst, hlen, hbuffer, hcount, ?_⟩
    simp [hvalid, clearsMailbox, RxMailbox.freed]
  · simp [h, hclear, hread, RxMailbox.freed]

theorem clock_full {m : RxMailbox} {d : Decoder} (hfull : m.valid = true) (v e en : Bool)
    (access : Option Access) :
    let m' := m.clock d v e en access
    m'.src = m.src ∧ m'.dst = m.dst ∧ m'.len = m.len ∧ m'.buffer = m.buffer ∧
      m'.valid = !m.freed access ∧ (m.buildCount = 0 → m'.buildCount = 0) := by
  have hdrops : m.accepts d = false := by simp [RxMailbox.accepts, hfull]
  have hcapture : (m.capture d).buffer = m.buffer ∧ (m.capture d).buildCount = m.buildCount := by
    cases hd : d.msgDataValid <;> simp [RxMailbox.capture, hd, hfull]
  obtain ⟨hsrc, hdst, hlen, hvalid, hbuffer, hcount⟩ := received_drops hdrops v e en
  rw [clock_received]
  obtain ⟨hsrc', hdst', hlen', hbuffer', hcount', hvalid'⟩ :=
    access_fields m (m.received d v e en) access
  refine ⟨hsrc'.trans hsrc, hdst'.trans hdst, hlen'.trans hlen,
    hbuffer'.trans (hbuffer.trans hcapture.1), ?_, fun hzero => ?_⟩
  · rw [hvalid', hvalid, hfull]
    cases hclear : clearsMailbox access <;> simp [RxMailbox.freed, hfull, hclear]
  · rw [hcount', hcount, hcapture.2, hzero]
    simp

theorem clock_empty {m : RxMailbox} {d : Decoder} (hempty : m.valid = false) (v e en : Bool)
    (access : Option Access) :
    let m' := m.clock d v e en access
    m'.buffer = (m.capture d).buffer ∧
      m'.buildCount =
        (if clearsMailbox access || (d.rxTimeout || d.error || d.msgComplete) then 0
        else (m.capture d).buildCount) ∧
      (m'.valid = true → m.accepts d = true ∧ m'.src = d.msgSrcAddr ∧ m'.dst = d.msgDstAddr ∧
        m'.len = d.msgLen) := by
  have hfreed : m.freed access = false := by simp [RxMailbox.freed, hempty]
  rw [clock_received]
  obtain ⟨hsrc', hdst', hlen', hbuffer', hcount', hvalid'⟩ :=
    access_fields m (m.received d v e en) access
  cases haccepts : m.accepts d with
  | true =>
    have hcomplete : d.msgComplete = true := by
      simp only [RxMailbox.accepts, Bool.and_eq_true] at haccepts
      exact haccepts.1.1.1
    obtain ⟨hsrc, hdst, hlen, hvalid, hbuffer, hcount⟩ := received_accepts haccepts v e en
    refine ⟨hbuffer'.trans hbuffer, ?_, fun _ =>
      ⟨rfl, hsrc'.trans hsrc, hdst'.trans hdst, hlen'.trans hlen⟩⟩
    rw [hcount', hcount]
    simp [hcomplete]
  | false =>
    obtain ⟨hsrc, hdst, hlen, hvalid, hbuffer, hcount⟩ := received_drops haccepts v e en
    refine ⟨hbuffer'.trans hbuffer, ?_, fun h => ?_⟩
    · rw [hcount', hcount]
      cases clearsMailbox access <;> simp
    · rw [hvalid', hvalid, hempty] at h
      exact absurd h Bool.false_ne_true

/-! What an empty mailbox has captured of the frame that comes in. -/

def Decoder.inHeader (d : Decoder) : Bool :=
  d.state = .rxDst || d.state = .rxSrc || d.state = .rxLenHi || d.state = .rxLenLo ||
    d.state = .waitStx

def Decoder.afterHeader (d : Decoder) : Bool :=
  d.state = .rxPayload || d.state = .rxEtx || d.state = .rxCrc || d.state = .rxEot

def Decoder.midFrame (d : Decoder) : Bool := d.afterHeader && d.payloadIdx ≠ 0

def Decoder.midPayload (d : Decoder) : Bool := d.state = .rxPayload && d.payloadIdx ≠ 0

/-- The byte counter of an empty mailbox is reset although the decoder goes on with its frame. -/
def Peripheral.losesCount (p : Peripheral) (i : Cycle) : Bool :=
  !p.mailbox.valid &&
    (clearsMailbox (p.fired i) || p.decoder.rxTimeout && (p.rxByte i).isSome)

/-- The mailbox is freed, or loses its byte counter, behind payload bytes of the frame that comes
in. -/
def Peripheral.cuts (p : Peripheral) (i : Cycle) : Bool :=
  p.mailbox.freed (p.fired i) && p.decoder.midFrame || p.losesCount i && p.decoder.midPayload

def Peripheral.endsFrame (p : Peripheral) (i : Cycle) : Bool :=
  p.decoder.state = .rxEot && p.rxByte i = some nodenetEot &&
    p.decoder.crc = p.decoder.crcReceived && (p.decoder.dst = p.tx.nodeAddr || p.decoder.dst = 0)

def hear (p : Peripheral) (i : Cycle) (h : Heard) : Heard :=
  let d := p.decoder
  { current := if d.begins (p.clock i).decoder then [] else d.streamed h.current
    frames :=
      if d.msgComplete && d.msgValid then
        h.frames ++ [⟨d.msgSrcAddr, d.msgDstAddr, d.myAddr, d.streamed h.current⟩]
      else h.frames
    cut := !d.begins (p.clock i).decoder && (h.cut || p.cuts i) }

/-- No frame that the mailbox cannot have in full ends well for this node. -/
def KeepsMailbox (s : Peripheral × Heard) (i : Cycle) : Prop :=
  ((s.2.cut || s.1.cuts i) = true → s.1.endsFrame i = false) ∧ ¬ s.1.decoder.Wraps (s.1.rxByte i)

instance (d : Decoder) (rx : Option UInt8) : Decidable (d.Wraps rx) :=
  inferInstanceAs (Decidable (_ ∧ _))

instance (s : Peripheral × Heard) (i : Cycle) : Decidable (KeepsMailbox s i) :=
  inferInstanceAs (Decidable (_ ∧ _))

/-- The buffer starts with these bytes, as far as it reaches. -/
def RxMailbox.Stores (m : RxMailbox) (bytes : List UInt8) : Prop :=
  ∀ k b, bytes[k]? = some b → k < 2048 → m.buffer (UInt16.ofNat k) = b

def RxMailbox.Holds (m : RxMailbox) (f : Frame) : Prop :=
  m.src = f.src ∧ m.dst = f.dst ∧ m.len.toNat = f.payload.length ∧
    ∀ k b, f.payload[k]? = some b → m.buffer (UInt16.ofNat k) = b

def Frame.Addressed (f : Frame) : Prop := f.dst = f.nodeAddr ∨ f.dst = 0

/-- An empty mailbox has taken the payload so far. -/
structure Captured (m : RxMailbox) (d : Decoder) (current : List UInt8) : Prop where
  fresh : d.state = .idle → d.msgComplete = false → d.error = false → m.buildCount = 0
  header : d.inHeader = true → m.buildCount = 0
  counted : d.state = .rxPayload ∨ d.msgDataValid = true →
    m.buildCount.toNat = min current.length 2048
  stored : d.afterHeader = true ∨ d.msgComplete = true → m.Stores current

/-- Where a clock of the decoder can have come from. -/
structure Follows (d d' : Decoder) (rx : Option UInt8) : Prop where
  header : d'.inHeader = true → d.inHeader = true ∨ d.begins d' = true
  payload : d'.state = .rxPayload ∨ d'.msgDataValid = true →
    (d.state = .rxPayload ∨ d.state = .waitStx) ∧ (d.rxTimeout = true → rx.isSome = true)
  idle : d'.state = .idle → d'.msgComplete = false → d'.error = false →
    d.state = .idle ∨ d.rxTimeout = true ∧ rx = none
  frame : d'.afterHeader = true ∨ d'.msgComplete = true →
    d.afterHeader = true ∨ d.state = .waitStx
  pulse : d'.state = .idle → d'.msgDataValid = false

theorem follows_none (d : Decoder) (addr : UInt8) :
    Follows d (({ d with myAddr := addr } : Decoder).clock none) none := by
  cases ht : d.rxTimeout with
  | true =>
    rw [clock_timeout ht]
    constructor <;> simp [Decoder.inHeader, Decoder.afterHeader, Decoder.endPulses, ht]
  | false =>
    rw [clock_wait ht]
    refine ⟨Or.inl, fun h => ⟨Or.inl ?_, fun h => absurd (ht.symm.trans h) Bool.false_ne_true⟩,
      fun h _ _ => Or.inl h, fun h => Or.inl ?_, fun _ => rfl⟩
    · exact h.resolve_right Bool.false_ne_true
    · exact h.resolve_right Bool.false_ne_true

/-- The two states that the decoder never enters. -/
def Decoder.InUse (d : Decoder) : Prop := d.state ≠ .waitSoh ∧ d.state ≠ .validate

theorem Tracks.inUse {d : Decoder} {current : List UInt8} (h : Tracks d current) : d.InUse := by
  constructor <;> intro hs <;> simp [Tracks, hs] at h

theorem inUse_clock {d : Decoder} (h : d.InUse) (addr : UInt8) (rx : Option UInt8) :
    (({ d with myAddr := addr } : Decoder).clock rx).InUse := by
  cases rx with
  | none =>
    cases ht : d.rxTimeout with
    | true =>
      rw [clock_timeout ht]
      exact ⟨RxState.noConfusion, RxState.noConfusion⟩
    | false =>
      rw [clock_wait ht]
      exact h
  | some b =>
    have hs' : (d.ready addr).state = d.state := rfl
    change ((d.ready addr).receive b).InUse
    cases hs : d.state with
    | waitSoh => exact absurd hs h.1
    | validate => exact absurd hs h.2
    | _ =>
      simp only [Decoder.receive, hs', hs]
      repeat' split
      all_goals
        constructor <;> simp [Decoder.ready, Decoder.endPulses, Decoder.complete, Decoder.reject,
          Decoder.goTo, Decoder.takeByte, hs] <;>
          split <;> simp

theorem follows_some {d : Decoder} (h : d.InUse) (addr b : UInt8) :
    Follows d ((d.ready addr).receive b) (some b) := by
  have hs' : (d.ready addr).state = d.state := rfl
  cases hs : d.state with
  | waitSoh => exact absurd hs h.1
  | validate => exact absurd hs h.2
  | _ =>
    simp only [Decoder.receive, hs', hs]
    repeat' split
    all_goals
      constructor <;> simp [Decoder.inHeader, Decoder.afterHeader, Decoder.begins, Decoder.ready,
        Decoder.endPulses, Decoder.complete, Decoder.reject, Decoder.goTo, Decoder.takeByte, hs] <;>
        split <;> simp

theorem follows_clock {d : Decoder} (h : d.InUse) (addr : UInt8) (rx : Option UInt8) :
    Follows d (({ d with myAddr := addr } : Decoder).clock rx) rx := by
  cases rx with
  | none => exact follows_none d addr
  | some b => exact follows_some h addr b

theorem Peripheral.endsFrame_of_complete {p : Peripheral} {i : Cycle} (hused : p.decoder.InUse)
    (hheader : p.decoder.inHeader = false) (h : (p.clock i).decoder.msgComplete = true) :
    p.endsFrame i = true := by
  have hclock : (({ p.decoder with myAddr := p.tx.nodeAddr } : Decoder).clock
      (p.rxByte i)).msgComplete = true := h
  unfold Peripheral.endsFrame
  cases hrx : p.rxByte i with
  | none =>
    rw [hrx] at hclock
    cases ht : p.decoder.rxTimeout with
    | true => simp [clock_timeout ht, Decoder.endPulses] at hclock
    | false => simp [clock_wait ht, Decoder.endPulses] at hclock
  | some b =>
    rw [hrx] at hclock
    have hready : ((p.decoder.ready p.tx.nodeAddr).receive b).msgComplete = true := hclock
    have hs' : (p.decoder.ready p.tx.nodeAddr).state = p.decoder.state := rfl
    cases hs : p.decoder.state with
    | waitSoh => exact absurd hs hused.1
    | validate => exact absurd hs hused.2
    | rxDst | rxSrc | rxLenHi | rxLenLo | waitStx => simp [Decoder.inHeader, hs] at hheader
    | idle | rxPayload | rxEtx | rxCrc =>
      simp only [Decoder.receive, hs', hs] at hready
      repeat' split at hready
      all_goals simp [Decoder.ready, Decoder.endPulses, Decoder.reject, Decoder.goTo,
        Decoder.takeByte] at hready
    | rxEot =>
      simp only [Decoder.receive, hs', hs] at hready
      split at hready
      case isFalse => simp [Decoder.reject, Decoder.ready, Decoder.endPulses] at hready
      split at hready
      case isFalse => simp [Decoder.reject, Decoder.ready, Decoder.endPulses] at hready
      next hb hend => simpa [hb, Decoder.ready, Decoder.endPulses] using hend

theorem stores_nil (m : RxMailbox) : m.Stores [] := fun k b hb => by simp at hb

theorem captured_nil {m : RxMailbox} (d : Decoder) (h : m.buildCount = 0) : Captured m d [] where
  fresh _ _ _ := h
  header _ := h
  counted _ := by
    rw [h]
    rfl
  stored _ := stores_nil m

theorem streamed_nil {d : Decoder} {current : List UInt8} (h : Tracks d current)
    (hframe : d.inHeader = true ∨ d.afterHeader = true ∧ d.payloadIdx = 0) :
    d.streamed current = [] := by
  cases hs : d.state <;> simp only [Tracks, hs] at h
  case idle => simp [Decoder.inHeader, Decoder.afterHeader, hs] at hframe
  case rxDst | rxSrc | rxLenHi | rxLenLo => rw [streamed_none h.1, h.2.2.2]
  case waitStx => rw [streamed_none h.1, h.2.2.2.1]
  all_goals
    have hidx : d.payloadIdx = 0 := by simpa [Decoder.inHeader, Decoder.afterHeader, hs] using hframe
  case rxPayload | rxEtx =>
    have hlen := h.2.2.1
    rw [hidx] at hlen
    exact List.eq_nil_of_length_eq_zero hlen
  case rxCrc | rxEot =>
    have hlen := h.2.2.2.1
    rw [← h.2.2.2.2, hidx] at hlen
    rw [streamed_none h.1]
    exact List.eq_nil_of_length_eq_zero hlen

theorem afterHeader_of_tracks {d : Decoder} {current : List UInt8} (h : Tracks d current)
    (hidle : d.state ≠ .idle) (hheader : d.inHeader ≠ true) : d.afterHeader = true := by
  cases hs : d.state <;> simp_all [Tracks, Decoder.inHeader, Decoder.afterHeader]

theorem capture_stores {m : RxMailbox} {d : Decoder} {current : List UInt8}
    (hempty : m.valid = false) (hstored : m.Stores current)
    (hcount : d.msgDataValid = true → m.buildCount.toNat = min current.length 2048) :
    (m.capture d).Stores (d.streamed current) := by
  cases hd : d.msgDataValid with
  | false => simpa [RxMailbox.capture, Decoder.streamed, hd] using hstored
  | true =>
    have hcount := hcount hd
    have hmax : maxPayload.toNat = 2048 := rfl
    intro k b hb hk
    simp only [Decoder.streamed, hd, if_true, List.getElem?_append] at hb
    by_cases hroom : m.buildCount < maxPayload
    · have hlt := UInt16.lt_iff_toNat_lt.mp hroom
      have hbuffer : (m.capture d).buffer (UInt16.ofNat k) =
          if UInt16.ofNat k = m.buildCount then d.msgData else m.buffer (UInt16.ofNat k) := by
        simp [RxMailbox.capture, hd, hempty, hroom]
      have hindex : UInt16.ofNat k = m.buildCount ↔ k = current.length := by
        rw [← UInt16.toNat_inj, UInt16.toNat_ofNat_of_lt' (by rw [UInt16.size]; omega)]
        omega
      by_cases hlast : k = current.length
      · rw [if_neg (by omega)] at hb
        rw [hbuffer, if_pos (hindex.mpr hlast)]
        simpa [hlast] using hb
      · have hk' : k < current.length := by
          by_cases hk' : k < current.length
          · exact hk'
          · rw [if_neg hk', List.getElem?_eq_none (by simp; omega)] at hb
            cases hb
        rw [if_pos hk'] at hb
        rw [hbuffer, if_neg (mt hindex.mp hlast)]
        exact hstored k b hb hk
    · have hge : 2048 ≤ m.buildCount.toNat := by
        rw [UInt16.lt_iff_toNat_lt] at hroom
        omega
      rw [if_pos (by omega)] at hb
      have hbuffer : (m.capture d).buffer = m.buffer := by
        simp [RxMailbox.capture, hd, hempty, hroom]
      rw [hbuffer]
      exact hstored k b hb hk

theorem capture_counts {m : RxMailbox} {d : Decoder} {current : List UInt8}
    (hempty : m.valid = false) (hcount : m.buildCount.toNat = min current.length 2048) :
    (m.capture d).buildCount.toNat = min (d.streamed current).length 2048 := by
  have hmax : maxPayload.toNat = 2048 := rfl
  cases hd : d.msgDataValid with
  | false => simpa [RxMailbox.capture, Decoder.streamed, hd] using hcount
  | true =>
    have hlen : (d.streamed current).length = current.length + 1 := by simp [Decoder.streamed, hd]
    rw [hlen]
    by_cases hroom : m.buildCount < maxPayload
    · have hlt := UInt16.lt_iff_toNat_lt.mp hroom
      have hbuild : (m.capture d).buildCount = m.buildCount + 1 := by
        simp [RxMailbox.capture, hd, hempty, hroom]
      have hadd : (m.buildCount + 1).toNat = (m.buildCount.toNat + 1) % 65536 :=
        UInt16.toNat_add m.buildCount 1
      rw [hbuild, hadd]
      omega
    · have hbuild : (m.capture d).buildCount = m.buildCount := by
        simp [RxMailbox.capture, hd, hempty, hroom]
      rw [UInt16.lt_iff_toNat_lt] at hroom
      rw [hbuild]
      omega

end NodeNet.Wire

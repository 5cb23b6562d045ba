import NodeNet.Spi.Header

/-! How the payload of a WRITE_REQUEST frame gets into a bank. -/
namespace NodeNet.Spi

/-- Nothing has been taken. -/
def RxFrame.Quiet (f : RxFrame) : Prop :=
  f.acceptRxFrame = true ∧ f.writeRequestPayloadPhase = false ∧ f.rxCommitValid = false ∧
    f.rxCommitOverflow = false

def RxFrame.Refused (f : RxFrame) : Prop :=
  f.writeRequestPayloadPhase = false ∧ f.rxCommitValid = false ∧ f.rxCommitOverflow = true

/-- The bank starts with these bytes. -/
def Stores (ram : Bool → Nat → UInt8) (bank : Bool) (payload : List UInt8) : Prop :=
  ∀ k b, payload[k]? = some b → ram bank k = b

/-- The payload of an accepted frame is on its way, complete, or too long. -/
structure RxFrame.Accepted (f : RxFrame) (ram : Bool → Nat → UInt8) (length : Nat)
    (payload : List UInt8) : Prop where
  declared : f.declaredLength = length
  accept : f.acceptRxFrame = true
  overflow : f.rxCommitOverflow = false
  commitLength : f.rxCommitLength = length
  partway : payload.length < length → f.writeRequestPayloadPhase = true ∧
    f.rxBytesRemaining = length - payload.length ∧ f.rxWriteAddrCtr = payload.length ∧
    f.rxCommitValid = false ∧ Stores ram f.rxWriteBank payload
  complete : payload.length = length → f.writeRequestPayloadPhase = false ∧
    f.rxCommitValid = true ∧ f.rxCommitBank = !f.rxWriteBank ∧ Stores ram f.rxCommitBank payload
  beyond : length < payload.length → f.writeRequestPayloadPhase = false ∧ f.rxCommitValid = false

/-- What the registers hold after these bytes of a window. -/
def RxFrame.Captures (f : RxFrame) (mailboxBytes : Nat) (ram : Bool → Nat → UInt8) (free : Bool) :
    List UInt8 → Prop
  | opcode :: lo :: hi :: payload =>
    if opcode = opcodeWriteRequest then
      if hi.toNat * 256 + lo.toNat ≤ mailboxBytes ∧ free = true then
        f.Accepted ram (hi.toNat * 256 + lo.toNat) payload
      else f.Refused
    else f.Quiet
  | [opcode, lo] => f.Quiet ∧ (opcode = opcodeWriteRequest → f.declaredLength = lo.toNat)
  | _ => f.Quiet ∧ f.declaredLength = 0

/-- The bank after the byte; only a payload byte is written. -/
def RxFrame.written (f : RxFrame) (ram : Bool → Nat → UInt8) (rxByte : UInt8) :
    Bool → Nat → UInt8 :=
  if f.writeRequestPayloadPhase && f.acceptRxFrame && f.rxBytesRemaining ≠ 0 then fun bank addr =>
    if bank = f.rxWriteBank ∧ addr = f.rxWriteAddrCtr then rxByte else ram bank addr
  else ram

theorem Stores.append {ram : Bool → Nat → UInt8} {bank : Bool} {payload : List UInt8}
    (h : Stores ram bank payload) (rxByte : UInt8) :
    Stores (fun b addr => if b = bank ∧ addr = payload.length then rxByte else ram b addr) bank
      (payload ++ [rxByte]) := by
  intro k b hb
  by_cases hk : k = payload.length
  · subst hk
    simpa using hb
  · have hlt : k < payload.length := by
      have hlen := (List.getElem?_eq_some_iff.mp hb).1
      simp at hlen
      omega
    rw [List.getElem?_append_left hlt] at hb
    simpa [hk] using h k b hb

section
variable {f : RxFrame} {mailboxBytes : Nat} {ram : Bool → Nat → UInt8}

theorem RxFrame.Quiet.written (h : f.Quiet) (rxByte : UInt8) : f.written ram rxByte = ram := by
  simp [RxFrame.written, h.2.1]

theorem RxFrame.payloadByte_refused (h : f.Refused) : f.payloadByte.Refused := by
  obtain ⟨hphase, hvalid, hoverflow⟩ := h
  simp [RxFrame.payloadByte, RxFrame.Refused, hphase, hoverflow]

theorem RxFrame.Accepted.payloadByte {length : Nat} {payload : List UInt8}
    (h : f.Accepted ram length payload) (rxByte : UInt8) :
    f.payloadByte.Accepted (f.written ram rxByte) length (payload ++ [rxByte]) := by
  obtain ⟨hdeclared, haccept, hoverflow, hcommit, hpartway, hcomplete, hbeyond⟩ := h
  rcases Nat.lt_or_ge payload.length length with hlt | hge
  · obtain ⟨hphase, hremaining, haddr, hvalid, hstores⟩ := hpartway hlt
    have hnonzero : length - payload.length ≠ 0 := by omega
    have hwritten : Stores (f.written ram rxByte) f.rxWriteBank (payload ++ [rxByte]) := by
      simpa [RxFrame.written, hphase, haccept, hremaining, haddr, hnonzero] using
        hstores.append rxByte
    by_cases hlast : length - payload.length = 1
    · have hlen : payload.length + 1 = length := by omega
      refine ⟨?_, ?_, ?_, ?_, ?_, ?_, ?_⟩ <;>
        simp [RxFrame.payloadByte, hphase, haccept, hremaining, hlast, hdeclared, hlen, hwritten]
    · have hlen : payload.length + 1 < length := by omega
      refine ⟨?_, ?_, ?_, ?_, ?_, ?_, ?_⟩ <;>
        simp [RxFrame.payloadByte, hphase, haccept, hremaining, hlast, hdeclared, hnonzero, haddr,
          hwritten] <;> omega
  · have hphase : f.writeRequestPayloadPhase = false := by
      rcases Nat.eq_or_lt_of_le hge with heq | hgt
      · exact (hcomplete heq.symm).1
      · exact (hbeyond hgt).1
    refine ⟨?_, ?_, ?_, ?_, ?_, ?_, ?_⟩ <;>
      simp [RxFrame.payloadByte, hphase, haccept, hdeclared, hoverflow, hcommit] <;> omega

variable (ram mailboxBytes) in
theorem RxFrame.lengthByte_spec {free rxReady : Bool} {hi : UInt8} {length : Nat}
    (haccept : f.acceptRxFrame = true) (hlength : hi.toNat * 256 + f.declaredLength % 256 = length)
    (hready : rxReady = !free) :
    if length ≤ mailboxBytes ∧ free = true then
      (f.lengthByte mailboxBytes rxReady hi).Accepted ram length []
    else (f.lengthByte mailboxBytes rxReady hi).Refused := by
  subst hready
  split
  · next hfits =>
    have hbound : ¬ mailboxBytes < length := Nat.not_lt.mpr hfits.1
    by_cases hzero : length = 0
    · refine ⟨?_, ?_, ?_, ?_, ?_, ?_, ?_⟩ <;>
        simp [RxFrame.lengthByte, hlength, hfits.2, hzero, haccept, Stores]
    · refine ⟨?_, ?_, ?_, ?_, ?_, ?_, ?_⟩ <;>
        simp [RxFrame.lengthByte, hlength, hfits.2, hbound, hzero, haccept, Stores]
      omega
  · next hfits =>
    have hrefused : (decide (mailboxBytes < length) || !free) = true := by
      cases free
      · simp
      · simp only [and_true, Nat.not_le] at hfits
        simp [hfits]
    refine ⟨?_, ?_, ?_⟩ <;> simp only [RxFrame.lengthByte, hlength, hrefused, if_true]

/-- The registers follow a window byte by byte. -/
theorem RxFrame.byte_captures {free rxReady : Bool} {bytes : List UInt8} {h : Header}
    (hcaptures : f.Captures mailboxBytes ram free bytes) (hcount : h.byteCount = bytes.length)
    (hopcode : ∀ opcode, bytes.head? = some opcode → h.opcode = opcode)
    (hready : bytes.length = 2 → bytes.head? = some opcodeWriteRequest → rxReady = !free)
    (rxByte : UInt8) :
    (f.byte mailboxBytes rxReady h rxByte).Captures mailboxBytes (f.written ram rxByte) free
      (bytes ++ [rxByte]) := by
  cases bytes with
  | nil =>
    have hzero : h.byteCount = 0 := hcount
    obtain ⟨hquiet, hdeclared⟩ := hcaptures
    simp only [RxFrame.byte, hzero, if_true, List.nil_append]
    exact ⟨hquiet, hdeclared⟩
  | cons opcode bytes =>
    have hop : h.opcode = opcode := hopcode opcode rfl
    cases bytes with
    | nil =>
      have hone : h.byteCount = 1 := hcount
      obtain ⟨hquiet, hdeclared⟩ := hcaptures
      simp only [RxFrame.byte, hone, hop]
      by_cases hwrite : opcode = opcodeWriteRequest
      · simpa [hwrite, RxFrame.Captures, RxFrame.Quiet, hdeclared] using hquiet
      · simpa [hwrite, RxFrame.Captures] using hquiet
    | cons lo bytes =>
      cases bytes with
      | nil =>
        have htwo : h.byteCount = 2 := hcount
        obtain ⟨hquiet, hdeclared⟩ := hcaptures
        simp only [RxFrame.byte, htwo, hop, List.cons_append, List.nil_append, RxFrame.Captures]
        by_cases hwrite : opcode = opcodeWriteRequest
        · have hlength : rxByte.toNat * 256 + f.declaredLength % 256 =
              rxByte.toNat * 256 + lo.toNat := by
            rw [hdeclared hwrite, Nat.mod_eq_of_lt (UInt8.toNat_lt lo)]
          rw [hquiet.written]
          simpa [hwrite] using RxFrame.lengthByte_spec mailboxBytes ram
            hquiet.1 hlength (hready rfl (by rw [hwrite]; rfl))
        · simpa [hwrite] using hquiet
      | cons hi payload =>
        have hbeyond : h.byteCount = payload.length + 3 := hcount
        simp only [RxFrame.Captures, List.cons_append] at hcaptures ⊢
        by_cases hwrite : opcode = opcodeWriteRequest
        · have hbyte : f.byte mailboxBytes rxReady h rxByte = f.payloadByte := by
            simp [RxFrame.byte, hbeyond, hop, hwrite]
          rw [hbyte]
          rw [if_pos hwrite] at hcaptures ⊢
          split at hcaptures
          · next hfits =>
            rw [if_pos hfits]
            exact hcaptures.payloadByte rxByte
          · next hfits =>
            rw [if_neg hfits]
            exact RxFrame.payloadByte_refused hcaptures
        · have hbyte : f.byte mailboxBytes rxReady h rxByte = f := by
            simp [RxFrame.byte, hbeyond, hop, hwrite]
          rw [hbyte]
          simpa [hwrite] using hcaptures

end

/-! What an edge of either clock does to the receive side. -/

namespace Device

variable (mailboxBytes : Nat) (mosi : Bool) {d : Device} {access : Option Access}

theorem rise_spares (d : Device) : (d.riseEdge mailboxBytes mosi).rx = d.rx ∧
    (d.riseEdge mailboxBytes mosi).tx = d.tx ∧
    (d.riseEdge mailboxBytes mosi).wbRequestLatched = d.wbRequestLatched ∧
    (d.riseEdge mailboxBytes mosi).rxCpuData = d.rxCpuData ∧
    (d.riseEdge mailboxBytes mosi).txRam = d.txRam ∧
    (d.riseEdge mailboxBytes mosi).settled = d.settled ∧
    (d.riseEdge mailboxBytes mosi).csN = d.csN ∧
    (d.riseEdge mailboxBytes mosi).frameEndToggle = d.frameEndToggle := by
  simp only [riseEdge]
  split
  · exact ⟨rfl, rfl, rfl, rfl, rfl, rfl, rfl, rfl⟩
  · split
    · exact ⟨rfl, rfl, rfl, rfl, rfl, rfl, rfl, rfl⟩
    · split <;> exact ⟨rfl, rfl, rfl, rfl, rfl, rfl, rfl, rfl⟩

theorem rise_reads (d : Device) : (d.riseEdge mailboxBytes mosi).sck = true ∧
    (d.riseEdge mailboxBytes mosi).txSpiData = fun bank => d.txRam bank d.txFrame.txRamReadAddr := by
  simp only [riseEdge]
  split
  · exact ⟨rfl, rfl⟩
  · split
    · exact ⟨rfl, rfl⟩
    · split <;> exact ⟨rfl, rfl⟩

theorem rise_outside (hcs : d.csN = true) :
    (d.riseEdge mailboxBytes mosi).header = d.header.deselected ∧
      (d.riseEdge mailboxBytes mosi).rxFrame = d.rxFrame.deselected ∧
      (d.riseEdge mailboxBytes mosi).txFrame = d.txFrame.deselected := by
  simp [riseEdge, hcs]

theorem rise_start (hcs : d.csN = false) (hstarts : d.startsFrame = true) :
    (d.riseEdge mailboxBytes mosi).header = d.header.start mosi d.frameEndToggle ∧
      (d.riseEdge mailboxBytes mosi).rxFrame = d.rxFrame.start ∧
      (d.riseEdge mailboxBytes mosi).txFrame = d.txFrame.start := by
  simp [riseEdge, hcs, hstarts]

theorem rise_byte (hcs : d.csN = false) (hstarts : d.startsFrame = false)
    (hlast : d.header.bitCount = 7) :
    (d.riseEdge mailboxBytes mosi).header = d.header.byte mosi (statusByte true d.rx d.tx) ∧
      (d.riseEdge mailboxBytes mosi).rxFrame =
        d.rxFrame.byte mailboxBytes d.rx.ready d.header (d.header.rxByte mosi) ∧
      (d.riseEdge mailboxBytes mosi).txFrame = d.txFrame.byte d.header (d.header.rxByte mosi) d.tx
        (statusByte true d.rx d.tx) d.txSpiReadData := by
  simp [riseEdge, hcs, hstarts, hlast]

theorem rise_bit (hcs : d.csN = false) (hstarts : d.startsFrame = false)
    (hlast : d.header.bitCount ≠ 7) :
    (d.riseEdge mailboxBytes mosi).header = d.header.bit mosi ∧
      (d.riseEdge mailboxBytes mosi).rxFrame = d.rxFrame ∧
      (d.riseEdge mailboxBytes mosi).txFrame = d.txFrame.bit ∧
      (d.riseEdge mailboxBytes mosi).rxRam = d.rxRam := by
  simp [riseEdge, hcs, hstarts, hlast, rxWriteFire]

variable {mailboxBytes mosi}

theorem startsFrame_false (h : d.startsFrame = false) :
    d.header.frameActive = true ∧ d.frameEndToggle = d.header.frameEndSeen := by
  simpa [startsFrame] using h

theorem rise_started (hcs : d.csN = false) (hstarts : d.startsFrame = true) :
    (d.riseEdge mailboxBytes mosi).startsFrame = false := by
  obtain ⟨-, -, -, -, -, -, -, htoggle⟩ :=
    rise_spares mailboxBytes mosi d
  rw [startsFrame, htoggle, (rise_start mailboxBytes mosi hcs hstarts).1]
  simp [Header.start]

theorem rise_continues (hcs : d.csN = false) (hstarts : d.startsFrame = false) :
    (d.riseEdge mailboxBytes mosi).startsFrame = false := by
  obtain ⟨-, -, -, -, -, -, -, htoggle⟩ :=
    rise_spares mailboxBytes mosi d
  obtain ⟨hactive, hseen⟩ := startsFrame_false hstarts
  rw [startsFrame, htoggle]
  by_cases hlast : d.header.bitCount = 7
  · have hheader := Header.byte_spec d.header mosi (statusByte true d.rx d.tx)
    rw [(rise_byte mailboxBytes mosi hcs hstarts hlast).1]
    simp [hheader, hactive, hseen]
  · rw [(rise_bit mailboxBytes mosi hcs hstarts hlast).1]
    simp [Header.bit, hactive, hseen]

theorem settled_clock (h : d.settled = true) (hcs : d.csN = false) :
    (d.clockEdge mailboxBytes access).settled = true := by
  simp only [settled, Bool.and_eq_true] at h
  simp [settled, clockEdge, hcs, h.2]

theorem delivers_spec (h : d.delivers = true) :
    d.frameEndFire = true ∧ d.header.frameOpcodeLatched = opcodeWriteRequest ∧
      d.header.frameHasHeaderLatched = true ∧ d.rxFrame.rxCommitValid = true := by
  simpa [delivers, writeRequestFrame, and_assoc] using h

variable (mailboxBytes access)

theorem clock_delivers (h : d.delivers = true) :
    (d.clockEdge mailboxBytes access).rx.ready = true ∧
      (d.clockEdge mailboxBytes access).rx.readyBank = d.rxFrame.rxCommitBank ∧
      (d.clockEdge mailboxBytes access).rx.length = d.rxFrame.rxCommitLength ∧
      (d.clockEdge mailboxBytes access).rx.cpuReadCount = 0 := by
  obtain ⟨hfire, hopcode, hheader, hvalid⟩ := delivers_spec h
  simp [clockEdge, rxFrameEnd, writeRequestFrame, hfire, hopcode, hheader, hvalid]

theorem clock_raises (hfire : d.frameEndFire = true)
    (hopcode : d.header.frameOpcodeLatched = opcodeWriteRequest)
    (hheader : d.header.frameHasHeaderLatched = true) (hvalid : d.rxFrame.rxCommitValid = false) :
    ((d.clockEdge mailboxBytes access).rx.overflowSticky ||
      (d.clockEdge mailboxBytes access).rx.frameErrorSticky) = true := by
  cases hoverflow : d.rxFrame.rxCommitOverflow <;>
    simp [clockEdge, rxFrameEnd, writeRequestFrame, hfire, hopcode, hheader, hvalid, hoverflow]

theorem rxFrameEnd_other (h : d.delivers = false) (next : RxMailbox) :
    (d.rxFrameEnd next).ready = next.ready ∧ (d.rxFrameEnd next).readyBank = next.readyBank ∧
      (d.rxFrameEnd next).length = next.length ∧
      (d.rxFrameEnd next).cpuReadCount = next.cpuReadCount ∧
      (d.rxFrameEnd next).cpuReadHold = next.cpuReadHold ∧
      (d.rxFrameEnd next).cpuReadHoldValid = next.cpuReadHoldValid := by
  simp only [rxFrameEnd]
  split
  · next hframe =>
    split
    · next hvalid =>
      simp only [delivers, hframe, Bool.true_and] at h
      exact absurd hvalid (by simp [h])
    · split
      · exact ⟨rfl, rfl, rfl, rfl, rfl, rfl⟩
      · split <;> exact ⟨rfl, rfl, rfl, rfl, rfl, rfl⟩
  · exact ⟨rfl, rfl, rfl, rfl, rfl, rfl⟩

theorem clock_released (h : d.delivers = false) (hreleases : d.releases access = true) :
    (d.clockEdge mailboxBytes access).rx.ready = false ∧
      (d.clockEdge mailboxBytes access).rx.cpuReadCount = 0 := by
  obtain ⟨hready, -, -, hcount, -⟩ := rxFrameEnd_other h ((d.rx.readData access.isSome
    (d.fired access) (d.rxCpuData d.rx.readyBank)).control (d.controlWord access))
  refine ⟨hready.trans ?_, hcount.trans ?_⟩ <;> revert hreleases <;>
    cases hword : d.controlWord access <;> simp [releases, RxMailbox.control, hword] <;>
    split <;> simp_all

theorem clock_kept (h : d.delivers = false) (hreleases : d.releases access = false) :
    (d.clockEdge mailboxBytes access).rx.ready = d.rx.ready ∧
      (d.clockEdge mailboxBytes access).rx.readyBank = d.rx.readyBank ∧
      (d.clockEdge mailboxBytes access).rx.length = d.rx.length ∧
      (d.clockEdge mailboxBytes access).rx.cpuReadCount =
        (if d.rx.takesByte (d.fired access) then d.rx.cpuReadCount + 1 else d.rx.cpuReadCount) ∧
      (d.rx.takesByte (d.fired access) = true →
        (d.clockEdge mailboxBytes access).rxDataO = d.rxCpuData d.rx.readyBank) := by
  have hcontrol : ∀ next : RxMailbox, next.control (d.controlWord access) = next := by
    intro next
    cases hword : d.controlWord access with
    | none => rfl
    | some word =>
      simp only [releases, hword, Bool.or_eq_false_iff] at hreleases
      simp [RxMailbox.control, hreleases]
  have hrx : (d.clockEdge mailboxBytes access).rx = d.rxFrameEnd
      (d.rx.readData access.isSome (d.fired access) (d.rxCpuData d.rx.readyBank)) :=
    congrArg d.rxFrameEnd (hcontrol _)
  obtain ⟨hready, hbank, hlength, hcount, hhold, hvalid⟩ := rxFrameEnd_other h
    (d.rx.readData access.isSome (d.fired access) (d.rxCpuData d.rx.readyBank))
  rw [← hrx] at hready hbank hlength hcount hhold hvalid
  refine ⟨hready.trans ?_, hbank.trans ?_, hlength.trans ?_, hcount.trans ?_, fun htakes => ?_⟩
  · simp only [RxMailbox.readData]
    split <;> split <;> rfl
  · simp only [RxMailbox.readData]
    split <;> split <;> rfl
  · simp only [RxMailbox.readData]
    split <;> split <;> rfl
  · simp only [RxMailbox.readData]
    split <;> split <;> rfl
  · have hhold' : (d.clockEdge mailboxBytes access).rx.cpuReadHold = d.rxCpuData d.rx.readyBank :=
      hhold.trans (by simp [RxMailbox.readData, htakes])
    have hvalid' : (d.clockEdge mailboxBytes access).rx.cpuReadHoldValid = true :=
      hvalid.trans (by simp [RxMailbox.readData, htakes])
    simp [rxDataO, hhold', hvalid']

variable {access}

theorem takesByte_spec (h : d.rx.takesByte (d.fired access) = true) :
    d.wbRequestLatched = false ∧ access.isSome = true ∧ d.rx.cpuReadCount < d.rx.length := by
  simp only [RxMailbox.takesByte, RxMailbox.cpuCanRead, Bool.and_eq_true, decide_eq_true_eq] at h
  obtain ⟨hfired, -, hcount⟩ := h
  cases hlatched : d.wbRequestLatched with
  | true => simp [fired, hlatched] at hfired
  | false =>
    simp only [fired, hlatched] at hfired
    exact ⟨rfl, by simp_all, hcount⟩

end Device

end NodeNet.Spi

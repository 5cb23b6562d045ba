import NodeNet.Spi.RxClock

/-! The receive side in step with the windows: each message is delivered once and stays. -/
namespace NodeNet.Spi
open NodeNet.Machine

namespace Device

/-- The SPI clock domain has followed the window. -/
structure Tracks (mailboxBytes : Nat) (d : Device) (w : Window) : Prop where
  line : d.header.Follows w.toLine
  captures : d.rxFrame.Captures mailboxBytes d.rxRam w.free w.bytes

/-- The mailbox shows this message, and the CPU has read the first bytes of it. -/
structure Shows (d : Device) (taken m : List UInt8) : Prop where
  bank : d.rx.readyBank = !d.rxFrame.rxWriteBank
  length : d.rx.length = m.length
  stores : Stores d.rxRam d.rx.readyBank m
  count : d.rx.cpuReadCount ≤ m.length
  taken : taken = m.take d.rx.cpuReadCount
  data : d.wbRequestLatched = false →
    d.rxCpuData d.rx.readyBank = d.rxRam d.rx.readyBank d.rx.cpuReadCount

/-- The windows whose end has been processed have delivered what they brought, or raised a flag. -/
structure Settles (mailboxBytes : Nat) (h : History) : Prop where
  delivered : h.deliveries = h.ended.filterMap fun p => p.1.message mailboxBytes
  raised : ∀ p ∈ h.ended, p.1.isWriteRequest = true → p.1.message mailboxBytes = none → p.2 = true

structure RxOk (mailboxBytes : Nat) (d : Device) (h : History) : Prop where
  idle : d.csN = true → h.current = none
  current : ∀ w, h.current = some w → h.waiting = none ∧ d.startsFrame = false ∧
    d.settled = true ∧ d.Tracks mailboxBytes w ∧ (w.free = true → d.rx.ready = false)
  waiting : ∀ w, h.waiting = some w → d.Tracks mailboxBytes w ∧
    (w.isWriteRequest = true → 3 ≤ w.bytes.length) ∧ (w.free = true → d.rx.ready = false)
  empty : d.rx.ready = false → d.rx.cpuReadCount = 0
  full : d.rx.ready = true → ∃ m, h.deliveries.getLast? = some m ∧ d.Shows h.taken m
  settles : Settles mailboxBytes h

variable {d : Device} {h : History} {mailboxBytes : Nat} {mosi : Bool}

theorem captures_full {f : RxFrame} {ram : Bool → Nat → UInt8} {bytes : List UInt8}
    (hcaptures : f.Captures mailboxBytes ram false bytes) : f.writeRequestPayloadPhase = false := by
  match bytes with
  | [] => exact hcaptures.1.2.1
  | [_] => exact hcaptures.1.2.1
  | [_, _] => exact hcaptures.1.2.1
  | opcode :: lo :: hi :: payload =>
    by_cases hwrite : opcode = opcodeWriteRequest
    · simp [RxFrame.Captures, hwrite] at hcaptures
      exact hcaptures.1
    · simp [RxFrame.Captures, hwrite] at hcaptures
      exact hcaptures.2.1

theorem byte_bank {f : RxFrame} {hd : Header} {rxByte : UInt8}
    (hphase : f.writeRequestPayloadPhase = false) :
    (f.byte mailboxBytes true hd rxByte).rxWriteBank = f.rxWriteBank := by
  simp only [RxFrame.byte]
  split
  · rfl
  · split
    · split
      · rfl
      · split
        · simp [RxFrame.lengthByte]
        · simp [RxFrame.payloadByte, hphase]
    · rfl

theorem tracks_start (hcs : d.csN = false) (hstarts : d.startsFrame = true) (free : Bool) :
    (d.riseEdge mailboxBytes mosi).Tracks mailboxBytes (Window.take ⟨⟨[], []⟩, free⟩ mosi) := by
  obtain ⟨hhead, hframe, -⟩ := rise_start mailboxBytes mosi hcs hstarts
  refine ⟨?_, ?_⟩
  · rw [hhead]
    exact d.header.follows_start mosi d.frameEndToggle
  · rw [hframe]
    exact ⟨⟨rfl, rfl, rfl, rfl⟩, rfl⟩

theorem tracks_bit {w : Window} (htracks : d.Tracks mailboxBytes w) (hcs : d.csN = false)
    (hstarts : d.startsFrame = false) (hbits : w.rest.length ≠ 7) :
    (d.riseEdge mailboxBytes mosi).Tracks mailboxBytes (w.take mosi) := by
  obtain ⟨hline, hcaptures⟩ := htracks
  have hcount : d.header.bitCount ≠ 7 := by
    rw [hline.bitCount]
    exact hbits
  obtain ⟨hhead, hframe, -, hram⟩ := rise_bit mailboxBytes mosi hcs
    hstarts hcount
  refine ⟨?_, ?_⟩
  · rw [hhead]
    exact hline.bit mosi hbits
  · rw [hframe, hram]
    simpa [Window.take, Line.take, hbits] using hcaptures

theorem tracks_byte {w : Window} (htracks : d.Tracks mailboxBytes w) (hcs : d.csN = false)
    (hstarts : d.startsFrame = false) (hbits : w.rest.length = 7) (hfew : w.bytes.length < 65536)
    (hready : w.bytes.length = 2 → w.isWriteRequest = true → d.rx.ready = !w.free) :
    (d.riseEdge mailboxBytes mosi).Tracks mailboxBytes (w.take mosi) := by
  obtain ⟨hline, hcaptures⟩ := htracks
  have hcount : d.header.bitCount = 7 := hline.bitCount.trans hbits
  have hbyte : d.header.byteCount = w.bytes.length :=
    hline.byteCount.trans (Nat.mod_eq_of_lt hfew)
  have hram : (d.riseEdge mailboxBytes mosi).rxRam =
      d.rxFrame.written d.rxRam (d.header.rxByte mosi) := by
    simp [riseEdge, hcs, hstarts, hcount, rxWriteFire, RxFrame.written, (startsFrame_false hstarts).1]
  obtain ⟨hhead, hframe, -⟩ := rise_byte mailboxBytes mosi hcs hstarts
    hcount
  refine ⟨?_, ?_⟩
  · rw [hhead]
    exact hline.byte mosi _ hbits hfew
  · have hbytes : (w.take mosi).bytes = w.bytes ++ [d.header.rxByte mosi] := by
      simp [Window.take, hline.take hbits mosi]
    rw [hframe, hram, hbytes]
    exact RxFrame.byte_captures hcaptures hbyte (fun opcode hop => (hline.opcode opcode hop).1)
      (fun htwo hop => hready htwo (by simp [Window.isWriteRequest, hop])) _

end Device

/-! What the edges of the SPI lines leave of the receive side. -/

namespace Device

variable {d d' : Device} {h : History} {mailboxBytes : Nat} {mosi : Bool}

theorem Tracks.same {w : Window} (htracks : d.Tracks mailboxBytes w) (hheader : d'.header = d.header)
    (hframe : d'.rxFrame = d.rxFrame) (hram : d'.rxRam = d.rxRam) : d'.Tracks mailboxBytes w := by
  obtain ⟨hline, hcaptures⟩ := htracks
  rw [← hheader] at hline
  rw [← hframe, ← hram] at hcaptures
  exact ⟨hline, hcaptures⟩

theorem Shows.keeps {taken m : List UInt8} (hshows : d.Shows taken m) (hrx : d'.rx = d.rx)
    (hbank : d'.rxFrame.rxWriteBank = d.rxFrame.rxWriteBank)
    (hram : d'.rxRam d.rx.readyBank = d.rxRam d.rx.readyBank)
    (hlatched : d'.wbRequestLatched = d.wbRequestLatched) (hdata : d'.rxCpuData = d.rxCpuData) :
    d'.Shows taken m := by
  obtain ⟨hready, hlength, hstores, hcount, htaken, hread⟩ := hshows
  refine ⟨?_, ?_, ?_, ?_, ?_, ?_⟩ <;> rw [hrx]
  · rw [hbank]
    exact hready
  · exact hlength
  · intro k b hb
    rw [hram]
    exact hstores k b hb
  · exact hcount
  · exact htaken
  · rw [hram, hlatched, hdata]
    exact hread

theorem riseEdge_rxRam {bank : Bool} (hbank : bank = !d.rxFrame.rxWriteBank) :
    (d.riseEdge mailboxBytes mosi).rxRam bank = d.rxRam bank := by
  have hram : (d.riseEdge mailboxBytes mosi).rxRam =
      if d.rxWriteFire then fun bank addr =>
        if bank = d.rxFrame.rxWriteBank ∧ addr = d.rxFrame.rxWriteAddrCtr then d.header.rxByte mosi
        else d.rxRam bank addr
      else d.rxRam := by
    simp only [riseEdge]
    split
    · rfl
    · split
      · rfl
      · split <;> rfl
  rw [hram]
  split
  · simp [hbank]
  · rfl

theorem Shows.rise {taken m : List UInt8} (hshows : d.Shows taken m)
    (hbank : (d.riseEdge mailboxBytes mosi).rxFrame.rxWriteBank = d.rxFrame.rxWriteBank) :
    (d.riseEdge mailboxBytes mosi).Shows taken m := by
  obtain ⟨hrx, -, hlatched, hdata, -⟩ := rise_spares mailboxBytes mosi d
  exact hshows.keeps hrx hbank (riseEdge_rxRam hshows.bank) hlatched hdata

theorem rxOk_select (hok : RxOk mailboxBytes d h) :
    RxOk mailboxBytes { d with csN := false } h := by
  obtain ⟨hidle, hcurrent, hwaiting, hempty, hfull, hsettles⟩ := hok
  refine ⟨fun hc => absurd hc Bool.false_ne_true, fun w hw => ?_, fun w hw => ?_, hempty,
    fun hready => ?_, hsettles⟩
  · obtain ⟨hnone, hstarts, hsettled, htracks, hfree⟩ := hcurrent w hw
    exact ⟨hnone, hstarts, hsettled, htracks.same rfl rfl rfl, hfree⟩
  · obtain ⟨htracks, hlong, hfree⟩ := hwaiting w hw
    exact ⟨htracks.same rfl rfl rfl, hlong, hfree⟩
  · obtain ⟨m, hm, hshows⟩ := hfull hready
    exact ⟨m, hm, hshows.keeps rfl rfl rfl rfl rfl⟩

theorem rxOk_fall (hok : RxOk mailboxBytes d h) (misoBit : Bool) :
    RxOk mailboxBytes { d with sck := false, misoBit := misoBit } h := by
  obtain ⟨hidle, hcurrent, hwaiting, hempty, hfull, hsettles⟩ := hok
  refine ⟨hidle, fun w hw => ?_, fun w hw => ?_, hempty, fun hready => ?_, hsettles⟩
  · obtain ⟨hnone, hstarts, hsettled, htracks, hfree⟩ := hcurrent w hw
    exact ⟨hnone, hstarts, hsettled, htracks.same rfl rfl rfl, hfree⟩
  · obtain ⟨htracks, hlong, hfree⟩ := hwaiting w hw
    exact ⟨htracks.same rfl rfl rfl, hlong, hfree⟩
  · obtain ⟨m, hm, hshows⟩ := hfull hready
    exact ⟨m, hm, hshows.keeps rfl rfl rfl rfl rfl⟩

theorem rxOk_deselect (hok : RxOk mailboxBytes d h) (hcs : d.csN = false)
    (hkeeps : KeepsRx (d, h) .deselect) :
    RxOk mailboxBytes { d with csN := true, frameEndToggle := !d.frameEndToggle }
      { h with
        current := none
        waiting := if h.current.isSome then h.current else h.waiting } := by
  obtain ⟨hidle, hcurrent, hwaiting, hempty, hfull, hsettles⟩ := hok
  refine ⟨fun _ => rfl, fun w hw => (Option.some_ne_none w hw.symm).elim, fun w hw => ?_, hempty,
    fun hready => ?_, ⟨hsettles.delivered, hsettles.raised⟩⟩
  · cases hc : h.current with
    | none =>
      simp only [hc, Option.isSome_none, Bool.false_eq_true, if_false] at hw
      obtain ⟨htracks, hlong, hfree⟩ := hwaiting w hw
      exact ⟨htracks.same rfl rfl rfl, hlong, hfree⟩
    | some w' =>
      simp only [hc, Option.isSome_some, if_true, Option.some.injEq] at hw
      subst hw
      obtain ⟨-, -, -, htracks, hfree⟩ := hcurrent w' hc
      have hlong := hkeeps hcs
      simp only [hc] at hlong
      exact ⟨htracks.same rfl rfl rfl, hlong, hfree⟩
  · obtain ⟨m, hm, hshows⟩ := hfull hready
    exact ⟨m, hm, hshows.keeps rfl rfl rfl rfl rfl⟩

theorem rxOk_outside (hok : RxOk mailboxBytes d h) (hcs : d.csN = true)
    (hwait : h.waiting = none) : RxOk mailboxBytes (d.riseEdge mailboxBytes mosi) h := by
  obtain ⟨hidle, hcurrent, hwaiting, hempty, hfull, hsettles⟩ := hok
  have hnone : h.current = none := hidle hcs
  obtain ⟨hrx, -⟩ := rise_spares mailboxBytes mosi d
  refine ⟨fun _ => hnone, fun w hw => ?_, fun w hw => ?_, ?_, fun hready => ?_, hsettles⟩
  · exact (Option.some_ne_none w (hw.symm.trans hnone)).elim
  · exact (Option.some_ne_none w (hw.symm.trans hwait)).elim
  · rw [hrx]
    exact hempty
  · rw [hrx] at hready
    obtain ⟨m, hm, hshows⟩ := hfull hready
    exact ⟨m, hm, hshows.rise (by rw [(rise_outside mailboxBytes mosi hcs).2.1]; rfl)⟩

theorem rxOk_first (hok : RxOk mailboxBytes d h) (hcs : d.csN = false)
    (hstarts : d.startsFrame = true) (hwait : h.waiting = none) (hsettled : d.settled = true) :
    RxOk mailboxBytes (d.riseEdge mailboxBytes mosi)
      { h with current := some (Window.take ⟨⟨[], []⟩, !d.rx.ready⟩ mosi) } := by
  obtain ⟨hidle, hcurrent, hwaiting, hempty, hfull, hsettles⟩ := hok
  obtain ⟨hrx, -, -, -, -, hsettled', hcs', -⟩ :=
    rise_spares mailboxBytes mosi d
  refine ⟨fun hc => ?_, fun w hw => ?_, fun w hw => ?_, ?_, fun hready => ?_,
    ⟨hsettles.delivered, hsettles.raised⟩⟩
  · exact absurd (hcs'.symm.trans hc) (by simp [hcs])
  · have hw : Window.take ⟨⟨[], []⟩, !d.rx.ready⟩ mosi = w := Option.some.inj hw
    subst hw
    refine ⟨hwait, ?_, hsettled'.trans hsettled, tracks_start hcs hstarts _, fun hfree => ?_⟩
    · exact rise_started hcs hstarts
    · rw [hrx]
      simpa [Window.take] using hfree
  · exact (Option.some_ne_none w (hw.symm.trans hwait)).elim
  · rw [hrx]
    exact hempty
  · rw [hrx] at hready
    obtain ⟨m, hm, hshows⟩ := hfull hready
    exact ⟨m, hm, hshows.rise (by rw [(rise_start mailboxBytes mosi hcs hstarts).2.1]; rfl)⟩

/-- A further clock of a window. -/
theorem rxOk_further {w : Window} (hok : RxOk mailboxBytes d h) (hcs : d.csN = false)
    (hw : h.current = some w)
    (hkeeps : w.rest.length = 7 → w.bytes.length < 65536 ∧
      (w.bytes.length = 2 → w.isWriteRequest = true → w.free = true ∨ d.rx.ready = true)) :
    RxOk mailboxBytes (d.riseEdge mailboxBytes mosi) { h with current := some (w.take mosi) } := by
  obtain ⟨hidle, hcurrent, hwaiting, hempty, hfull, hsettles⟩ := hok
  obtain ⟨hwait, hstarts, hsettled, htracks, hfree⟩ := hcurrent w hw
  obtain ⟨hrx, -, -, -, -, hsettled', hcs', -⟩ :=
    rise_spares mailboxBytes mosi d
  have hbank : d.rx.ready = true →
      (d.riseEdge mailboxBytes mosi).rxFrame.rxWriteBank = d.rxFrame.rxWriteBank := by
    intro hready
    have hbusy : w.free = false := by
      cases hf : w.free with
      | false => rfl
      | true => exact absurd (hready.symm.trans (hfree hf)) (by simp)
    have hcaptures := htracks.captures
    rw [hbusy] at hcaptures
    by_cases hlast : d.header.bitCount = 7
    · rw [(rise_byte mailboxBytes mosi hcs hstarts hlast).2.1, hready]
      exact byte_bank (captures_full hcaptures)
    · rw [(rise_bit mailboxBytes mosi hcs hstarts hlast).2.1]
  refine ⟨fun hc => ?_, fun w' hw' => ?_, fun w' hw' => ?_, ?_, fun hready => ?_,
    ⟨hsettles.delivered, hsettles.raised⟩⟩
  · exact absurd (hcs'.symm.trans hc) (by simp [hcs])
  · have hw' : w.take mosi = w' := Option.some.inj hw'
    subst hw'
    refine ⟨hwait, ?_, hsettled'.trans hsettled, ?_, fun hfree' => ?_⟩
    · exact rise_continues hcs hstarts
    · by_cases hbits : w.rest.length = 7
      · obtain ⟨hfew, hheader⟩ := hkeeps hbits
        refine tracks_byte htracks hcs hstarts hbits hfew fun htwo hwrite => ?_
        cases hf : w.free with
        | true => simpa using hfree hf
        | false => simpa [hf] using hheader htwo hwrite
      · exact tracks_bit htracks hcs hstarts hbits
    · rw [hrx]
      exact hfree hfree'
  · exact (Option.some_ne_none w' (hw'.symm.trans hwait)).elim
  · rw [hrx]
    exact hempty
  · rw [hrx] at hready
    obtain ⟨m, hm, hshows⟩ := hfull hready
    exact ⟨m, hm, hshows.rise (hbank hready)⟩

end Device

/-! Every WRITE_REQUEST frame is delivered exactly once with its bytes, or refused. -/

namespace Device

variable {d : Device} {h : History} {mailboxBytes : Nat} {access : Option Access}

theorem message_eq_some_iff {w : Window} {payload : List UInt8} :
    w.message mailboxBytes = some payload ↔
      ∃ lo hi, w.bytes = opcodeWriteRequest :: lo :: hi :: payload ∧
        payload.length = hi.toNat * 256 + lo.toNat ∧ payload.length ≤ mailboxBytes ∧
        w.free = true := by
  constructor
  · intro hmessage
    simp only [Window.message] at hmessage
    split at hmessage
    · next opcode lo hi payload' hbytes =>
      split at hmessage
      · next hframe =>
        simp only [Option.some.injEq] at hmessage
        subst hmessage
        exact ⟨lo, hi, by rw [hbytes, hframe.1], hframe.2⟩
      · exact absurd hmessage (by simp)
    · exact absurd hmessage (by simp)
  · rintro ⟨lo, hi, hbytes, hlength, hfits, hfree⟩
    simp only [Window.message, hbytes, hlength, hfree, and_true, true_and]
    rw [if_pos (by omega)]

theorem tracks_delivers {w : Window} (htracks : d.Tracks mailboxBytes w)
    (hdelivers : d.delivers = true) : ∃ payload, w.message mailboxBytes = some payload ∧
      w.free = true ∧ d.rxFrame.rxCommitLength = payload.length ∧
      d.rxFrame.rxCommitBank = (!d.rxFrame.rxWriteBank) ∧
      Stores d.rxRam d.rxFrame.rxCommitBank payload := by
  obtain ⟨-, hopcode, hheader, hvalid⟩ := delivers_spec hdelivers
  have hlong : 3 ≤ w.bytes.length := by
    simpa using htracks.line.hasHeader.symm.trans hheader
  match hbytes : w.bytes with
  | [] | [_] | [_, _] => simp [hbytes] at hlong
  | opcode :: lo :: hi :: payload =>
    have hwrite : opcode = opcodeWriteRequest :=
      (htracks.line.opcode opcode (by rw [hbytes]; rfl)).2.symm.trans hopcode
    have hcaptures := htracks.captures
    rw [hbytes, RxFrame.Captures, if_pos hwrite] at hcaptures
    split at hcaptures
    · next hfits =>
      have hlength : payload.length = hi.toNat * 256 + lo.toNat := by
        rcases Nat.lt_trichotomy payload.length (hi.toNat * 256 + lo.toNat) with hlt | heq | hgt
        · exact absurd (hvalid.symm.trans (hcaptures.partway hlt).2.2.2.1) (by simp)
        · exact heq
        · exact absurd (hvalid.symm.trans (hcaptures.beyond hgt).2) (by simp)
      obtain ⟨-, -, hbank, hstores⟩ := hcaptures.complete hlength
      refine ⟨payload, message_eq_some_iff.mpr ⟨lo, hi, ?_, hlength, ?_, hfits.2⟩, hfits.2, ?_, hbank,
        hstores⟩
      · rw [hbytes, hwrite]
      · rw [hlength]
        exact hfits.1
      · rw [hcaptures.commitLength, hlength]
    · exact absurd (hvalid.symm.trans hcaptures.2.1) (by simp)

theorem tracks_message {w : Window} (htracks : d.Tracks mailboxBytes w)
    (hfire : d.frameEndFire = true) {payload : List UInt8}
    (hmessage : w.message mailboxBytes = some payload) : d.delivers = true := by
  obtain ⟨lo, hi, hbytes, hlength, hfits, hfree⟩ := message_eq_some_iff.mp hmessage
  have hopcode := (htracks.line.opcode opcodeWriteRequest (by rw [hbytes]; rfl)).2
  have hheader : d.header.frameHasHeaderLatched = true := by
    rw [htracks.line.hasHeader, hbytes]
    simp
  have hcaptures := htracks.captures
  rw [hbytes, RxFrame.Captures, if_pos rfl, if_pos ⟨by omega, hfree⟩] at hcaptures
  simp [delivers, writeRequestFrame, hfire, hopcode, hheader, (hcaptures.complete hlength).2.1]

theorem Shows.clock (mailboxBytes : Nat) (access : Option Access) {taken m : List UInt8}
    (hshows : d.Shows taken m)
    (hdelivers : d.delivers = false) (hreleases : d.releases access = false) :
    (d.clockEdge mailboxBytes access).Shows
      (if d.rx.takesByte (d.fired access) then taken ++ [(d.clockEdge mailboxBytes access).rxDataO]
        else taken) m := by
  obtain ⟨-, hbank', hlength', hcount', hdata'⟩ :=
    clock_kept mailboxBytes access hdelivers hreleases
  obtain ⟨hbank, hlength, hstores, hcount, htaken, hread⟩ := hshows
  by_cases htakes : d.rx.takesByte (d.fired access) = true
  · obtain ⟨hlatched, hsome, hleft⟩ := takesByte_spec htakes
    rw [if_pos htakes] at hcount' ⊢
    have hlt : d.rx.cpuReadCount < m.length := hlength ▸ hleft
    have hbyte : (d.clockEdge mailboxBytes access).rxDataO = m[d.rx.cpuReadCount] := by
      rw [hdata' htakes, hread hlatched]
      exact hstores _ _ (List.getElem?_eq_getElem hlt)
    refine ⟨hbank'.trans hbank, hlength'.trans hlength, ?_, ?_, ?_, fun hidle => ?_⟩
    · rw [hbank']
      exact hstores
    · rw [hcount']
      exact hlt
    · rw [hcount', hbyte, htaken, List.take_append_getElem hlt]
    · exact absurd (hsome.symm.trans hidle) (by simp)
  · rw [if_neg htakes] at hcount' ⊢
    refine ⟨hbank'.trans hbank, hlength'.trans hlength, ?_, ?_, ?_, fun _ => ?_⟩
    · rw [hbank']
      exact hstores
    · rw [hcount']
      exact hcount
    · rw [hcount']
      exact htaken
    · rw [hbank', hcount']
      rfl

/-- A clock that hands a message over. -/
theorem rxOk_delivers (hok : RxOk mailboxBytes d h) (hdelivers : d.delivers = true)
    (hkeeps : KeepsRx (d, h) (.clock access)) :
    RxOk mailboxBytes (d.clockEdge mailboxBytes access) (d.watch mailboxBytes (.clock access) h) := by
  obtain ⟨hidle, hcurrent, hwaiting, hempty, hfull, hsettles⟩ := hok
  obtain ⟨w, hw⟩ := Option.isSome_iff_exists.mp (hkeeps hdelivers)
  obtain ⟨htracks, -, hfree⟩ := hwaiting w hw
  obtain ⟨payload, hmessage, hwfree, hcommit, hbank, hstores⟩ :=
    tracks_delivers htracks hdelivers
  obtain ⟨hready', hbank', hlength', hcount'⟩ :=
    clock_delivers mailboxBytes access hdelivers
  have hzero : d.rx.cpuReadCount = 0 := hempty (hfree hwfree)
  have hfire : d.frameEndFire = true := (delivers_spec hdelivers).1
  have hnone : h.current = none := by
    cases hc : h.current with
    | none => rfl
    | some w' => exact absurd (hw.symm.trans (hcurrent w' hc).1) (by simp)
  have hshown : (d.clockEdge mailboxBytes access).message = payload := by
    have hsame : (d.clockEdge mailboxBytes access).rxRam = d.rxRam := rfl
    apply List.ext_getElem
    · simp [message, hlength', hcommit]
    · intro k hk hk'
      simp only [message, List.getElem_map, List.getElem_range, hbank', hsame]
      exact hstores k _ (List.getElem?_eq_getElem hk')
  have hwatch : d.watch mailboxBytes (.clock access) h =
      { current := none
        waiting := none
        ended := h.ended ++ [(w, (d.clockEdge mailboxBytes access).rx.overflowSticky ||
          (d.clockEdge mailboxBytes access).rx.frameErrorSticky)]
        deliveries := h.deliveries ++ [payload]
        taken := [] } := by
    simp [watch, hfire, hdelivers, processed, hw, hshown, hnone]
  rw [hwatch]
  refine ⟨fun _ => rfl, fun w' hw' => (Option.some_ne_none w' hw'.symm).elim,
    fun w' hw' => (Option.some_ne_none w' hw'.symm).elim,
    fun hempty' => absurd (hready'.symm.trans hempty') (by simp), fun _ => ?_, ?_⟩
  · refine ⟨payload, by simp, ?_, ?_, ?_, ?_, ?_, fun _ => ?_⟩
    · rw [hbank']
      exact hbank
    · rw [hlength', hcommit]
    · rw [hbank']
      exact hstores
    · rw [hcount']
      exact Nat.zero_le _
    · rw [hcount']
      rfl
    · rw [hbank', hcount', ← hzero]
      rfl
  · refine ⟨?_, fun p hp hwrite hmissing => ?_⟩
    · simpa [hmessage] using hsettles.delivered
    · rcases List.mem_append.mp hp with hp | hp
      · exact hsettles.raised p hp hwrite hmissing
      · obtain rfl := List.mem_singleton.mp hp
        exact absurd (hmessage.symm.trans hmissing) (by simp)

theorem settles_other (access : Option Access) (hok : RxOk mailboxBytes d h)
    (hdelivers : d.delivers = false) :
    Settles mailboxBytes (d.watch mailboxBytes (.clock access) h) := by
  obtain ⟨-, -, hwaiting, -, -, hsettles⟩ := hok
  cases hfire : d.frameEndFire with
  | false =>
    refine ⟨?_, ?_⟩
    · simpa [watch, hfire, hdelivers] using hsettles.delivered
    · simpa [watch, hfire] using hsettles.raised
  | true =>
    cases hw : h.waiting with
    | none =>
      refine ⟨?_, ?_⟩
      · simpa [watch, hfire, hdelivers, processed, hw] using hsettles.delivered
      · simpa [watch, hfire, processed, hw] using hsettles.raised
    | some w =>
      obtain ⟨htracks, hlong, -⟩ := hwaiting w hw
      have hmessage : w.message mailboxBytes = none := by
        cases hm : w.message mailboxBytes with
        | none => rfl
        | some payload =>
          exact absurd (hdelivers.symm.trans (tracks_message htracks hfire hm)) (by simp)
      refine ⟨?_, ?_⟩
      · simpa [watch, hfire, hdelivers, processed, hw, hmessage] using hsettles.delivered
      · intro p hp hwrite hmissing
        simp only [watch, hfire, if_true, processed, hw] at hp
        rcases List.mem_append.mp hp with hp | hp
        · exact hsettles.raised p hp hwrite hmissing
        · obtain rfl := List.mem_singleton.mp hp
          have hopcode := (htracks.line.opcode opcodeWriteRequest
            (by simpa [Window.isWriteRequest] using hwrite)).2
          have hheader : d.header.frameHasHeaderLatched = true := by
            rw [htracks.line.hasHeader]
            simpa using hlong hwrite
          refine clock_raises mailboxBytes access hfire hopcode hheader ?_
          simpa [delivers, writeRequestFrame, hfire, hopcode, hheader] using hdelivers

/-- Any other system clock. -/
theorem rxOk_other (hok : RxOk mailboxBytes d h) (hdelivers : d.delivers = false) :
    RxOk mailboxBytes (d.clockEdge mailboxBytes access) (d.watch mailboxBytes (.clock access) h) := by
  have hsettles' := settles_other access hok hdelivers
  obtain ⟨hidle, hcurrent, hwaiting, hempty, hfull, -⟩ := hok
  have hreleased := clock_released mailboxBytes access hdelivers
  have hkept := clock_kept mailboxBytes access hdelivers
  have hready : d.rx.ready = false → (d.clockEdge mailboxBytes access).rx.ready = false := by
    intro hfree
    cases hr : d.releases access with
    | true => exact (hreleased hr).1
    | false => exact (hkept hr).1.trans hfree
  refine ⟨hidle, fun w hw => ?_, fun w hw => ?_, fun hfree => ?_, fun hfull' => ?_, hsettles'⟩
  · obtain ⟨hnone, hstarts, hsettled, htracks, hfree⟩ := hcurrent w hw
    have hcs : d.csN = false := by
      cases hc : d.csN with
      | false => rfl
      | true => exact absurd (hw.symm.trans (hidle hc)) (by simp)
    refine ⟨?_, hstarts, settled_clock hsettled hcs, htracks.same rfl rfl rfl,
      fun hf => hready (hfree hf)⟩
    simpa [watch] using fun _ => hnone
  · have hw : (if d.frameEndFire then none else h.waiting) = some w := hw
    split at hw
    · exact absurd hw (by simp)
    · obtain ⟨htracks, hlong, hfree⟩ := hwaiting w hw
      exact ⟨htracks.same rfl rfl rfl, hlong, fun hf => hready (hfree hf)⟩
  · cases hr : d.releases access with
    | true => exact (hreleased hr).2
    | false =>
      obtain ⟨hready', -, -, hcount', -⟩ := hkept hr
      have hempty' : d.rx.ready = false := hready'.symm.trans hfree
      refine hcount'.trans ?_
      simp [RxMailbox.takesByte, RxMailbox.cpuCanRead, hempty', hempty hempty']
  · cases hr : d.releases access with
    | true => exact absurd (hfull'.symm.trans (hreleased hr).1) (by simp)
    | false =>
      have hready' : d.rx.ready = true := (hkept hr).1.symm.trans hfull'
      obtain ⟨m, hm, hshows⟩ := hfull hready'
      refine ⟨m, ?_, ?_⟩
      · simpa [watch, hdelivers] using hm
      · simpa [watch, hdelivers, hr] using hshows.clock mailboxBytes access hdelivers hr

end Device

/-! The receive side over whole runs of the two clocks. -/

namespace Device

variable {mailboxBytes : Nat}

theorem rxOk_reset (d : Device) : RxOk mailboxBytes d.reset History.empty where
  idle _ := rfl
  current w hw := (Option.some_ne_none w hw.symm).elim
  waiting w hw := (Option.some_ne_none w hw.symm).elim
  empty _ := rfl
  full hready := absurd hready Bool.false_ne_true
  settles := ⟨rfl, fun _ hp => absurd hp List.not_mem_nil⟩

variable {q : Device × History}

theorem rxOk_step {e : Event} (hok : RxOk mailboxBytes q.1 q.2) (hkeeps : KeepsRx q e) :
    RxOk mailboxBytes (watched mailboxBytes q e).1 (watched mailboxBytes q e).2 := by
  obtain ⟨d, h⟩ := q
  change RxOk mailboxBytes (d.step mailboxBytes e) (d.watch mailboxBytes e h)
  cases e with
  | select => exact rxOk_select hok
  | deselect =>
    cases hcs : d.csN with
    | true => simpa [step, watch, hcs] using hok
    | false => simpa [step, watch, hcs] using rxOk_deselect hok hcs hkeeps
  | rise mosi =>
    cases hsck : d.sck with
    | true => simpa [step, watch, hsck] using hok
    | false =>
      have hkeeps := hkeeps hsck
      cases hcs : d.csN with
      | true =>
        simp only [hcs, if_true] at hkeeps
        simpa [step, watch, hsck, hcs] using rxOk_outside hok hcs hkeeps
      | false =>
        simp only [hcs, Bool.false_eq_true, if_false] at hkeeps
        cases hw : h.current with
        | none =>
          simp only [hw] at hkeeps
          obtain ⟨hstarts, hwait, hsettled⟩ := hkeeps
          simpa [step, watch, hsck, hcs, hw] using rxOk_first hok hcs hstarts hwait hsettled
        | some w =>
          simp only [hw] at hkeeps
          simpa [step, watch, hsck, hcs, hw] using rxOk_further hok hcs hw hkeeps
  | fall =>
    cases hsck : d.sck with
    | true => simpa [step, watch, hsck] using rxOk_fall hok _
    | false => simpa [step, watch, hsck] using hok
  | clock access =>
    cases hdelivers : d.delivers with
    | true => exact rxOk_delivers hok hdelivers hkeeps
    | false => exact rxOk_other hok hdelivers

theorem rxOk_run (hok : RxOk mailboxBytes q.1 q.2) {events : List Event}
    (h : Along (watched mailboxBytes) KeepsRx q events) :
    RxOk mailboxBytes (run (watched mailboxBytes) q events).1
      (run (watched mailboxBytes) q events).2 := by
  have hstep : ∀ (q : Device × History) e, RxOk mailboxBytes q.1 q.2 → KeepsRx q e →
      RxOk mailboxBytes (watched mailboxBytes q e).1 (watched mailboxBytes q e).2 :=
    fun _ _ => rxOk_step
  exact run_inv hstep hok h

theorem full_step {e : Event} (hok : RxOk mailboxBytes q.1 q.2) (hkeeps : KeepsRx q e)
    (hleaves : LeavesMessage q e) (hready : q.1.rx.ready = true) :
    (watched mailboxBytes q e).1.rx.ready = true ∧
      (watched mailboxBytes q e).2.deliveries = q.2.deliveries := by
  obtain ⟨d, h⟩ := q
  change (d.step mailboxBytes e).rx.ready = true ∧
    (d.watch mailboxBytes e h).deliveries = h.deliveries
  cases e with
  | select => exact ⟨hready, rfl⟩
  | deselect => cases hcs : d.csN <;> simpa [step, watch, hcs] using hready
  | rise mosi =>
    have hrx := (rise_spares mailboxBytes mosi d).1
    cases hsck : d.sck <;> cases hcs : d.csN <;> simpa [step, watch, hsck, hcs, hrx] using hready
  | fall => cases hsck : d.sck <;> simpa [step, watch, hsck] using hready
  | clock access =>
    have hdelivers : d.delivers = false := by
      cases hd : d.delivers with
      | false => rfl
      | true =>
        obtain ⟨w, hw⟩ := Option.isSome_iff_exists.mp (hkeeps hd)
        obtain ⟨htracks, -, hfree⟩ := hok.waiting w hw
        obtain ⟨-, -, hwfree, -⟩ := tracks_delivers htracks hd
        exact absurd (hready.symm.trans (hfree hwfree)) (by simp)
    exact ⟨(clock_kept mailboxBytes access hdelivers hleaves).1.trans hready,
      by simp [watch, hdelivers]⟩

theorem message_of_shows {d : Device} {taken m : List UInt8} (hshows : d.Shows taken m) :
    d.message = m := by
  apply List.ext_getElem
  · simp [message, hshows.length]
  · intro k hk hk'
    simp only [message, List.getElem_map, List.getElem_range]
    exact hshows.stores k _ (List.getElem?_eq_getElem hk')

theorem message_stays (hok : RxOk mailboxBytes q.1 q.2) (hready : q.1.rx.ready = true)
    {m : List UInt8} (hlast : q.2.deliveries.getLast? = some m) {later : List Event}
    (h : Along (watched mailboxBytes) (fun q e => KeepsRx q e ∧ LeavesMessage q e) q later) :
    (run (watched mailboxBytes) q later).1.rx.ready = true ∧
      (run (watched mailboxBytes) q later).1.message = m ∧
      (run (watched mailboxBytes) q later).2.deliveries = q.2.deliveries ∧
      (run (watched mailboxBytes) q later).2.taken =
        m.take (run (watched mailboxBytes) q later).1.rx.cpuReadCount := by
  have hstep : ∀ (p : Device × History) e, (RxOk mailboxBytes p.1 p.2 ∧ p.1.rx.ready = true ∧
      p.2.deliveries = q.2.deliveries) → KeepsRx p e ∧ LeavesMessage p e →
      RxOk mailboxBytes (watched mailboxBytes p e).1 (watched mailboxBytes p e).2 ∧
        (watched mailboxBytes p e).1.rx.ready = true ∧
        (watched mailboxBytes p e).2.deliveries = q.2.deliveries := by
    intro p e hinv hgood
    obtain ⟨hready', hsame⟩ := full_step hinv.1 hgood.1 hgood.2 hinv.2.1
    exact ⟨rxOk_step hinv.1 hgood.1, hready', hsame.trans hinv.2.2⟩
  obtain ⟨hok', hready', hsame⟩ := run_inv hstep ⟨hok, hready, rfl⟩ h
  obtain ⟨m', hm', hshows⟩ := hok'.full hready'
  rw [hsame, hlast, Option.some.injEq] at hm'
  subst hm'
  exact ⟨hready', message_of_shows hshows, hsame, hshows.taken⟩

/-- Every window that brings a message delivers it once, in order and with its bytes; every other
WRITE_REQUEST frame raises an error flag; and a delivered message stays until it is released. -/
theorem writeRequests_delivered (mailboxBytes : Nat) (d : Device) {events : List Event}
    (h : Along (watched mailboxBytes) KeepsRx (d.reset, History.empty) events) :
    let q := run (watched mailboxBytes) (d.reset, History.empty) events
    q.2.deliveries = (q.2.ended.filterMap fun p => p.1.message mailboxBytes) ∧
      (∀ p ∈ q.2.ended, p.1.isWriteRequest = true → p.1.message mailboxBytes = none →
        p.2 = true) ∧
      (q.1.rx.ready = true → ∃ m, q.2.deliveries.getLast? = some m ∧ ∀ later,
        Along (watched mailboxBytes) (fun q e => KeepsRx q e ∧ LeavesMessage q e) q later →
          let r := run (watched mailboxBytes) q later
          r.1.rx.ready = true ∧ r.1.message = m ∧ r.2.deliveries = q.2.deliveries ∧
            r.2.taken = m.take r.1.rx.cpuReadCount) := by
  intro q
  have hok : RxOk mailboxBytes q.1 q.2 := rxOk_run (rxOk_reset d) h
  refine ⟨hok.settles.delivered, hok.settles.raised, fun hready => ?_⟩
  obtain ⟨m, hm, -⟩ := hok.full hready
  exact ⟨m, hm, fun later hlater => message_stays hok hready hm hlater⟩

def writeFrame : List Event := windowEvents [opcodeWriteRequest, 2, 0, 0x41, 0x42]

theorem writeFrame_delivered :
    (run (watched 256) (blank.reset, History.empty) writeFrame).2.deliveries = [[0x41, 0x42]] :=
  (writeRequests_delivered 256 blank (by decide +kernel)).1.trans (by decide +kernel)

/-- A window without a clock after the frame hands its message over again. -/
theorem clocklessWindow_redelivers :
    let q := run (watched 256) (blank.reset, History.empty) (writeFrame ++ windowEvents [])
    q.2.deliveries ≠ (q.2.ended.filterMap fun p => p.1.message 256) := by
  decide +kernel

end Device

end NodeNet.Spi

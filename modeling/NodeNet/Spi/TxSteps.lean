import NodeNet.Spi.Respond
import NodeNet.Spi.RxClock

/-! The response side in step with the frames: what is loaded, what is sent, what is marked. -/
namespace NodeNet.Spi

namespace Device

/-- What the registers know of a window under way. -/
structure Sends (d : Device) (w : Reading) : Prop where
  line : d.header.Follows w.mosi
  rest : w.miso.rest.length = w.mosi.rest.length
  bytes : w.miso.bytes.length = w.mosi.bytes.length
  exact : w.Exact
  fresh : w.mosi.bytes = [] → d.txFrame.frameReadResponseComplete = false
  responds : w.isRead = true → d.txFrame.Responds w.mosi.bytes.length w.response
  shift : w.isRead = true → w.miso.rest ++ drain d.txFrame.txShift (8 - w.mosi.rest.length) =
    drain (wireByte w.response (w.mosi.bytes.length - 1)) 8
  miso : w.isRead = true → d.sck = false → d.misoBit = d.txFrame.txShift.toNat.testBit 7
  stores : w.isRead = true → ∀ r, w.response = some r →
    Stores d.txRam d.txFrame.txLoadedBankSnapshot r
  data : w.isRead = true → w.mosi.rest ≠ [] → w.response.isSome = true →
    d.txSpiData d.txFrame.txLoadedBankSnapshot =
      d.txRam d.txFrame.txLoadedBankSnapshot d.txFrame.txRamReadAddr

/-- The loaded response, or the bytes staged for the next one. -/
structure Stocks (d : Device) (h : Outbox) : Prop where
  loaded : d.tx.loaded = h.response.isSome
  content : ∀ r, h.response = some r → d.tx.length = r.length ∧
    Stores d.txRam d.tx.loadedBank r ∧ d.tx.stageBankSelect = !d.tx.loadedBank
  staging : d.tx.loaded = false → d.tx.cpuWriteCount = h.staged.length ∧
    h.staged.length ≤ d.tx.stagedLength ∧ Stores d.txRam d.tx.stageBankSelect h.staged

structure TxOk (d : Device) (h : Outbox) : Prop where
  idle : d.csN = true → h.current = none
  current : ∀ w, h.current = some w → d.startsFrame = false ∧ d.Sends w ∧ w.number ≤ h.number
  stocks : d.Stocks h
  latch : h.current = none → d.header.frameOpcodeLatched = opcodeReadResponse →
    d.txFrame.frameReadResponseComplete = true → ∃ w, h.last = some w ∧ w.Whole
  last : ∀ w, h.last = some w → w.number ≤ h.number ∧
    (w.Whole → w.number = h.number → h.shifted = true)
  marked : d.tx.loaded = true → d.tx.readComplete = true → h.shifted = true
  ended : ∀ w ∈ h.ended, w.Exact

variable {d : Device} {h : Outbox} {mailboxBytes : Nat} {mosi : Bool}

theorem sends_start (hcs : d.csN = false) (hstarts : d.startsFrame = true) (miso : Bool)
    (response : Option (List UInt8)) (number : Nat) :
    (d.riseEdge mailboxBytes mosi).Sends (Reading.fresh.clocked mosi miso response number) := by
  obtain ⟨hhead, -, hframe⟩ := rise_start mailboxBytes mosi hcs hstarts
  have htake : Reading.fresh.clocked mosi miso response number =
      ⟨⟨[], [mosi]⟩, ⟨[], [miso]⟩, none, 0⟩ := rfl
  have hread : (⟨⟨[], [mosi]⟩, ⟨[], [miso]⟩, none, 0⟩ : Reading).isRead = false := rfl
  rw [htake]
  refine ⟨?_, rfl, rfl, ?_, fun _ => ?_, ?_, ?_, ?_, ?_, ?_⟩
  · rw [hhead]
    exact d.header.follows_start mosi d.frameEndToggle
  · simp [Reading.Exact, hread]
  · rw [hframe]
    rfl
  all_goals simp [hread]

theorem Sends.bit {w : Reading} (hsends : d.Sends w) (hsck : d.sck = false) (hcs : d.csN = false)
    (hstarts : d.startsFrame = false) (hbits : w.mosi.rest.length ≠ 7)
    (response : Option (List UInt8)) (number : Nat) :
    (d.riseEdge mailboxBytes mosi).Sends (w.clocked mosi d.miso response number) := by
  obtain ⟨hline, hrest, hbytes, hexact, hfresh, hresponds, hshift, hmiso, hstores, hdata⟩ := hsends
  have hcount : d.header.bitCount ≠ 7 := by
    rw [hline.bitCount]
    exact hbits
  obtain ⟨hhead, -, hframe, -⟩ := rise_bit mailboxBytes mosi hcs
    hstarts hcount
  obtain ⟨-, -, -, -, hram, -⟩ := rise_spares mailboxBytes mosi d
  obtain ⟨hsck', hspi⟩ := rise_reads mailboxBytes mosi d
  have hmosi : w.mosi.take mosi = ⟨w.mosi.bytes, w.mosi.rest ++ [mosi]⟩ := by
    simp [Line.take, hbits]
  have htake : w.clocked mosi d.miso response number =
      { w with
        mosi := ⟨w.mosi.bytes, w.mosi.rest ++ [mosi]⟩
        miso := ⟨w.miso.bytes, w.miso.rest ++ [d.miso]⟩ } := by
    simp [Reading.clocked, Line.take, hbits, hrest]
  have hbit := hline.bit mosi hbits
  rw [hmosi] at hbit
  rw [htake]
  refine ⟨?_, ?_, hbytes, hexact, ?_, fun hr => ?_, fun hr => ?_, fun _ hidle => ?_, fun hr => ?_,
    fun hr _ hsome => ?_⟩
  · rw [hhead]
    exact hbit
  · simp [hrest]
  · rw [hframe]
    exact hfresh
  · rw [hframe]
    have hresponds := hresponds hr
    cases hw : w.response with
    | none =>
      rw [hw] at hresponds
      exact hresponds
    | some r =>
      rw [hw] at hresponds
      exact ⟨hresponds.loaded, hresponds.length, hresponds.lengthCount, hresponds.early,
        hresponds.late⟩
  · rw [hframe]
    have hshift := hshift hr
    have hleft : 8 - w.mosi.rest.length = (8 - (w.mosi.rest ++ [mosi]).length) + 1 := by
      have hshort := hline.short
      simp
      omega
    have hout : d.miso = d.txFrame.txShift.toNat.testBit 7 := by
      simp [Device.miso, hcs, hmiso hr hsck]
    rw [hleft, drain] at hshift
    simpa [hout, TxFrame.bit] using hshift
  · exact absurd (hsck'.symm.trans hidle) (by simp)
  · rw [hframe, hram]
    exact hstores hr
  · rw [hspi, hframe, hram]
    rfl

theorem Sends.sent {w : Reading} (hsends : d.Sends w) (hread : w.isRead = true)
    (hsck : d.sck = false) (hcs : d.csN = false) (hbits : w.mosi.rest.length = 7) :
    byteOf (w.miso.rest ++ [d.miso]) = wireByte w.response (w.mosi.bytes.length - 1) := by
  have hshift := hsends.shift hread
  have hout : d.miso = d.txFrame.txShift.toNat.testBit 7 := by
    simp [Device.miso, hcs, hsends.miso hread hsck]
  simp only [hbits, Nat.reduceSub, drain] at hshift
  rw [hout, hshift]
  exact byteOf_drain _

/-- The end of the opcode. -/
theorem Sends.opcode {w : Reading} (hsends : d.Sends w) (hstocks : d.Stocks h)
    (hcs : d.csN = false) (hstarts : d.startsFrame = false) (hbits : w.mosi.rest.length = 7)
    (hempty : w.mosi.bytes = []) :
    (d.riseEdge mailboxBytes mosi).Sends (w.clocked mosi d.miso h.response h.number) := by
  obtain ⟨hline, hrest, hbytes, -, hfresh, -, -, -, -, -⟩ := hsends
  have hcount : d.header.byteCount = 0 := by
    rw [hline.byteCount, hempty]
    rfl
  obtain ⟨hhead, -, hframe⟩ := rise_byte mailboxBytes mosi hcs hstarts
    (hline.bitCount.trans hbits)
  obtain ⟨-, -, -, -, hram, -⟩ := rise_spares mailboxBytes mosi d
  obtain ⟨hsck', -⟩ := rise_reads mailboxBytes mosi d
  have hnone : w.miso.bytes = [] := List.length_eq_zero_iff.mp (by rw [hbytes, hempty]; rfl)
  have hmosi : w.mosi.take mosi = ⟨[d.header.rxByte mosi], []⟩ := by
    rw [hline.take hbits, hempty]
    rfl
  have htake : w.clocked mosi d.miso h.response h.number =
      ⟨⟨[d.header.rxByte mosi], []⟩, ⟨[byteOf (w.miso.rest ++ [d.miso])], []⟩, h.response,
        h.number⟩ := by
    simp only [Reading.clocked, hempty, hbits, and_self, if_true, hmosi]
    simp [Line.take, hrest, hbits, hnone]
  have hbyte := hline.byte mosi (statusByte true d.rx d.tx) hbits (by rw [hempty]; simp)
  rw [hmosi, ← hhead] at hbyte
  rw [htake]
  have hopcode : Reading.isRead ⟨⟨[d.header.rxByte mosi], []⟩,
      ⟨[byteOf (w.miso.rest ++ [d.miso])], []⟩, h.response, h.number⟩ = true →
      (d.riseEdge mailboxBytes mosi).txFrame.Responds 1 h.response ∧
      (d.riseEdge mailboxBytes mosi).txFrame.txShift = wireByte h.response 0 ∧
      (h.response.isSome = true →
        (d.riseEdge mailboxBytes mosi).txFrame.txLoadedBankSnapshot = d.tx.loadedBank) := by
    intro hread
    rw [hframe]
    exact TxFrame.byte_opcode hcount (by simpa [Reading.isRead] using hread) (hfresh hempty)
      hstocks.loaded fun r hr => (hstocks.content r hr).1
  refine ⟨hbyte, rfl, rfl, fun _ k b hb => ?_, fun hnil => ?_, fun hr => (hopcode hr).1, fun hr => ?_,
    fun _ hidle => ?_, fun hr r hresponse => ?_, fun _ hmid => ?_⟩
  · simp at hb
  · simp at hnil
  · rw [(hopcode hr).2.1]
    rfl
  · exact absurd (hsck'.symm.trans hidle) (by simp)
  · have hresponse : h.response = some r := hresponse
    rw [(hopcode hr).2.2 (by rw [hresponse]; rfl), hram]
    exact (hstocks.content r hresponse).2.1
  · exact absurd rfl hmid

/-- The end of any later byte. -/
theorem Sends.further {w : Reading} (hsends : d.Sends w) (hsck : d.sck = false)
    (hcs : d.csN = false) (hstarts : d.startsFrame = false) (hbits : w.mosi.rest.length = 7)
    (hfew : w.mosi.bytes.length < 65536) (hpast : w.mosi.bytes ≠ [])
    (response : Option (List UInt8)) (number : Nat) :
    (d.riseEdge mailboxBytes mosi).Sends (w.clocked mosi d.miso response number) := by
  have hsent := fun hread => hsends.sent hread hsck hcs hbits
  obtain ⟨hline, hrest, hbytes, hexact, -, hresponds, -, -, hstores, hdata⟩ := hsends
  have hpos : w.mosi.bytes.length ≠ 0 := fun hz => hpast (List.length_eq_zero_iff.mp hz)
  have hcount : d.header.byteCount = w.mosi.bytes.length :=
    hline.byteCount.trans (Nat.mod_eq_of_lt hfew)
  obtain ⟨hhead, -, hframe⟩ := rise_byte mailboxBytes mosi hcs hstarts
    (hline.bitCount.trans hbits)
  obtain ⟨-, -, -, -, hram, -⟩ := rise_spares mailboxBytes mosi d
  obtain ⟨hsck', -⟩ := rise_reads mailboxBytes mosi d
  have hmosi : w.mosi.take mosi = ⟨w.mosi.bytes ++ [d.header.rxByte mosi], []⟩ := hline.take hbits mosi
  have htake : w.clocked mosi d.miso response number =
      { w with
        mosi := ⟨w.mosi.bytes ++ [d.header.rxByte mosi], []⟩
        miso := ⟨w.miso.bytes ++ [byteOf (w.miso.rest ++ [d.miso])], []⟩ } := by
    simp only [Reading.clocked, hpast, false_and, if_false, hmosi]
    simp [Line.take, hrest, hbits]
  have hbyte := hline.byte mosi (statusByte true d.rx d.tx) hbits hfew
  rw [hmosi, ← hhead] at hbyte
  rw [htake]
  have hsame : Reading.isRead
      { w with
        mosi := ⟨w.mosi.bytes ++ [d.header.rxByte mosi], []⟩
        miso := ⟨w.miso.bytes ++ [byteOf (w.miso.rest ++ [d.miso])], []⟩ } = w.isRead := by
    cases hb : w.mosi.bytes with
    | nil => exact absurd hb hpast
    | cons opcode bytes => simp [Reading.isRead, hb]
  have hnext : w.isRead = true →
      (d.riseEdge mailboxBytes mosi).txFrame.Responds (w.mosi.bytes.length + 1) w.response ∧
      (d.riseEdge mailboxBytes mosi).txFrame.txShift = wireByte w.response w.mosi.bytes.length ∧
      (w.response.isSome = true → (d.riseEdge mailboxBytes mosi).txFrame.txLoadedBankSnapshot =
        d.txFrame.txLoadedBankSnapshot) := by
    intro hread
    rw [hframe]
    refine TxFrame.byte_responds (hresponds hread) hcount hpos ?_ fun r b hr hb => ?_
    · exact (hline.opcode opcodeReadResponse (by simpa [Reading.isRead] using hread)).1
    · have hmid : w.mosi.rest ≠ [] := fun hz => by simp [hz] at hbits
      exact (hdata hread hmid (by rw [hr]; rfl)).trans (hstores hread r hr _ b hb)
  refine ⟨hbyte, rfl, ?_, fun hr k b hb => ?_, fun hnil => ?_, fun hr => ?_, fun hr => ?_,
    fun _ hidle => ?_, fun hr r hresponse => ?_, fun _ hmid => ?_⟩
  · simp [hbytes]
  · rw [hsame] at hr
    by_cases hk : k + 1 = w.miso.bytes.length
    · simp only [hk, List.getElem?_concat_length, Option.some.injEq] at hb
      rw [← hb, hsent hr, ← hbytes, ← hk]
      rfl
    · have hlt : k + 1 < w.miso.bytes.length := by
        have hlen := (List.getElem?_eq_some_iff.mp hb).1
        simp at hlen
        omega
      rw [List.getElem?_append_left hlt] at hb
      exact hexact hr k b hb
  · simp at hnil
  · rw [hsame] at hr
    simpa using (hnext hr).1
  · rw [hsame] at hr
    simp [(hnext hr).2.1]
  · exact absurd (hsck'.symm.trans hidle) (by simp)
  · rw [hsame] at hr
    have hresponse : w.response = some r := hresponse
    rw [(hnext hr).2.2 (by rw [hresponse]; rfl), hram]
    exact hstores hr r hresponse
  · exact absurd rfl hmid

end Device

/-! What a clock of the bus does to the response that is staged or loaded. -/

theorem stage_spares (m : TxMailbox) (mailboxBytes : Nat) (fired : Option Access) :
    (m.stage mailboxBytes fired).loaded = m.loaded ∧
      (m.stage mailboxBytes fired).length = m.length ∧
      (m.stage mailboxBytes fired).loadedBank = m.loadedBank ∧
      (m.stage mailboxBytes fired).stageBankSelect = m.stageBankSelect ∧
      ((m.stage mailboxBytes fired).readComplete = true → m.readComplete = true) := by
  unfold TxMailbox.stage
  split
  · split
    · exact ⟨rfl, rfl, rfl, rfl, fun h => absurd h (by simp)⟩
    · exact ⟨rfl, rfl, rfl, rfl, id⟩
  · split <;> exact ⟨rfl, rfl, rfl, rfl, id⟩
  · exact ⟨rfl, rfl, rfl, rfl, id⟩

namespace Device

variable (mailboxBytes : Nat) (access : Option Access) {d : Device} {h : Outbox}

/-- The staged bytes after the clock. -/
theorem Stocks.stage (hstocks : d.Stocks h) (hfree : d.tx.loaded = false) :
    (d.tx.stage mailboxBytes (d.fired access)).cpuWriteCount =
        (d.stagedBy access h.staged).length ∧
      (d.stagedBy access h.staged).length ≤
        (d.tx.stage mailboxBytes (d.fired access)).stagedLength ∧
      Stores (d.clockEdge mailboxBytes access).txRam d.tx.stageBankSelect
        (d.stagedBy access h.staged) := by
  obtain ⟨hcount, hfits, hstores⟩ := hstocks.staging hfree
  cases hfired : d.fired access with
  | none =>
    have hram : (d.clockEdge mailboxBytes access).txRam = d.txRam := by
      simp [clockEdge, hfired, TxMailbox.writesByte]
    rw [hram]
    simpa [stagedBy, hfired, TxMailbox.stage, TxMailbox.writesByte] using ⟨hcount, hfits, hstores⟩
  | some a =>
    cases a with
    | read reg =>
      have hram : (d.clockEdge mailboxBytes access).txRam = d.txRam := by
        simp [clockEdge, hfired, TxMailbox.writesByte]
      rw [hram]
      simpa [stagedBy, hfired, TxMailbox.stage, TxMailbox.writesByte] using ⟨hcount, hfits, hstores⟩
    | write reg dat sel =>
      by_cases hreg : reg = .txLength
      · subst hreg
        simp [stagedBy, hfired, TxMailbox.stage, hfree, Stores]
      · by_cases hdata : reg = .txData
        · subst hdata
          by_cases hwrite : d.tx.canWrite sel = true
          · have hram : (d.clockEdge mailboxBytes access).txRam = fun bank addr =>
                if bank = d.tx.stageBankSelect ∧ addr = h.staged.length then dat.toUInt8
                else d.txRam bank addr := by
              simp [clockEdge, hfired, TxMailbox.writesByte, hwrite, hcount]
            have hroom : d.tx.cpuWriteCount < d.tx.stagedLength := by
              simp only [TxMailbox.canWrite, Bool.and_eq_true, decide_eq_true_eq] at hwrite
              exact hwrite.2
            have hby : d.stagedBy access h.staged = h.staged ++ [dat.toUInt8] := by
              simp [stagedBy, hfired, TxMailbox.writesByte, hwrite]
            have hstage : d.tx.stage mailboxBytes (some (.write .txData dat sel)) =
                { d.tx with cpuWriteCount := d.tx.cpuWriteCount + 1 } := by
              simp [TxMailbox.stage, hwrite]
            rw [hram, hby, hstage]
            refine ⟨?_, ?_, hstores.append _⟩
            · simp [hcount]
            · simp
              omega
          · have hram : (d.clockEdge mailboxBytes access).txRam = d.txRam := by
              simp [clockEdge, hfired, TxMailbox.writesByte, hwrite]
            rw [hram]
            simpa [stagedBy, hfired, TxMailbox.stage, TxMailbox.writesByte, hwrite] using
              ⟨hcount, hfits, hstores⟩
        · have hnone : d.tx.writesByte (some (.write reg dat sel)) = none := by
            cases reg <;> first | rfl | exact absurd rfl hdata
          have hram : (d.clockEdge mailboxBytes access).txRam = d.txRam := by
            simp [clockEdge, hfired, hnone]
          have hby : d.stagedBy access h.staged = h.staged := by
            cases reg <;> simp_all [stagedBy]
          have hstage : d.tx.stage mailboxBytes (some (.write reg dat sel)) = d.tx := by
            cases reg <;> first | rfl | exact absurd rfl hdata | exact absurd rfl hreg
          rw [hram, hby, hstage]
          exact ⟨hcount, hfits, hstores⟩

theorem clock_txRam {bank : Bool} (hbank : (d.tx.writesByte (d.fired access)).isSome = true →
    d.tx.stageBankSelect ≠ bank) :
    (d.clockEdge mailboxBytes access).txRam bank = d.txRam bank := by
  funext addr
  cases hwrites : d.tx.writesByte (d.fired access) with
  | none => simp [clockEdge, hwrites]
  | some b =>
    have hne : bank ≠ d.tx.stageBankSelect := fun he => hbank (by rw [hwrites]; rfl) he.symm
    simp [clockEdge, hwrites, hne]

theorem writesByte_loaded (hloaded : d.tx.loaded = true) :
    d.tx.writesByte (d.fired access) = none := by
  unfold TxMailbox.writesByte
  split
  · simp [TxMailbox.canWrite, hloaded]
  · rfl

theorem clock_commits (hcommits : d.wordCommits access = true)
    (hundone : acknowledges (d.controlWord access) = true → d.tx.readComplete = false) :
    (d.clockEdge mailboxBytes access).tx.loaded = true ∧
      (d.clockEdge mailboxBytes access).tx.length = d.tx.commitLength ∧
      (d.clockEdge mailboxBytes access).tx.loadedBank = d.tx.stageBankSelect ∧
      (d.clockEdge mailboxBytes access).tx.stageBankSelect = (!d.tx.stageBankSelect) ∧
      (d.clockEdge mailboxBytes access).tx.readComplete = false := by
  simp only [wordCommits, commits, Bool.and_eq_true, Bool.not_eq_true'] at hcommits
  obtain ⟨hfree, hcommits⟩ := hcommits
  have hmarks : d.marksRead = false := by
    simp [marksRead, hfree]
  cases hword : d.controlWord access with
  | none => simp [hword] at hcommits
  | some word =>
    simp only [hword, Bool.and_eq_true, Bool.not_eq_true'] at hcommits
    simp only [hword, acknowledges, hcommits.2, Bool.not_false, Bool.and_true] at hundone
    cases hack : clearIrq word with
    | false =>
      simp [clockEdge, txFrameEnd, hmarks, hword, TxMailbox.control, hcommits, TxMailbox.acknowledge,
        hack, TxMailbox.commit, hfree]
    | true =>
      simp [clockEdge, txFrameEnd, hmarks, hword, TxMailbox.control, hcommits, TxMailbox.acknowledge,
        hack, hundone hack, TxMailbox.commit, hfree]

theorem txFrameEnd_spares (next : TxMailbox) :
    (d.txFrameEnd next).loaded = next.loaded ∧ (d.txFrameEnd next).length = next.length ∧
      (d.txFrameEnd next).loadedBank = next.loadedBank ∧
      (d.txFrameEnd next).stageBankSelect = next.stageBankSelect ∧
      (d.txFrameEnd next).cpuWriteCount = next.cpuWriteCount ∧
      (d.txFrameEnd next).stagedLength = next.stagedLength ∧
      ((d.txFrameEnd next).readComplete = true →
        d.marksRead = true ∨ next.readComplete = true) := by
  unfold txFrameEnd
  split
  · next hmarks => exact ⟨rfl, rfl, rfl, rfl, rfl, rfl, fun _ => Or.inl hmarks⟩
  · exact ⟨rfl, rfl, rfl, rfl, rfl, rfl, Or.inr⟩

theorem clock_givesUp (hgives : d.givesUp access = true) :
    (d.clockEdge mailboxBytes access).tx.loaded = false ∧
      (d.clockEdge mailboxBytes access).tx.cpuWriteCount = 0 := by
  obtain ⟨hloaded, -, -, -, hcount, -⟩ := txFrameEnd_spares (d := d)
    (d.tx.control (d.tx.stage mailboxBytes (d.fired access)) (d.controlWord access))
  cases hword : d.controlWord access with
  | none => simp [givesUp, resets, acknowledges, hword] at hgives
  | some word =>
    rw [hword] at hloaded hcount
    refine ⟨?_, ?_⟩
    · refine (by simpa [clockEdge, hword] using hloaded : _ = _).trans ?_
      by_cases hreset : softReset word = true
      · simp [TxMailbox.control, hreset]
      · have hack : clearIrq word = true ∧ d.tx.readComplete = true := by
          simpa [givesUp, resets, acknowledges, hword, hreset] using hgives
        simp [TxMailbox.control, hreset, TxMailbox.acknowledge, hack]
    · refine (by simpa [clockEdge, hword] using hcount : _ = _).trans ?_
      by_cases hreset : softReset word = true
      · simp [TxMailbox.control, hreset]
      · have hack : clearIrq word = true ∧ d.tx.readComplete = true := by
          simpa [givesUp, resets, acknowledges, hword, hreset] using hgives
        simp [TxMailbox.control, hreset, TxMailbox.acknowledge, hack]

/-- Any other clock keeps the response and takes the staged byte. -/
theorem clock_keeps (hcommits : d.wordCommits access = false) (hgives : d.givesUp access = false) :
    (d.clockEdge mailboxBytes access).tx.loaded = d.tx.loaded ∧
      (d.clockEdge mailboxBytes access).tx.length = d.tx.length ∧
      (d.clockEdge mailboxBytes access).tx.loadedBank = d.tx.loadedBank ∧
      (d.clockEdge mailboxBytes access).tx.stageBankSelect = d.tx.stageBankSelect ∧
      (d.clockEdge mailboxBytes access).tx.cpuWriteCount =
        (d.tx.stage mailboxBytes (d.fired access)).cpuWriteCount ∧
      (d.clockEdge mailboxBytes access).tx.stagedLength =
        (d.tx.stage mailboxBytes (d.fired access)).stagedLength ∧
      ((d.clockEdge mailboxBytes access).tx.readComplete = true →
        d.marksRead = true ∨ d.tx.readComplete = true) := by
  have hcontrol : ∃ irq, d.tx.control (d.tx.stage mailboxBytes (d.fired access))
      (d.controlWord access) =
      { d.tx.stage mailboxBytes (d.fired access) with irqAsserted := irq } := by
    cases hword : d.controlWord access with
    | none => exact ⟨(d.tx.stage mailboxBytes (d.fired access)).irqAsserted, rfl⟩
    | some word =>
      simp only [givesUp, resets, acknowledges, hword, Bool.or_eq_false_iff] at hgives
      obtain ⟨hreset, hack⟩ := hgives
      have hcommit : d.tx.commit (d.tx.stage mailboxBytes (d.fired access)) word =
          d.tx.stage mailboxBytes (d.fired access) := by
        have hno : (commitTx word && !d.tx.loaded) = false := by
          simp only [wordCommits, commits, hword, hreset, Bool.not_false, Bool.and_true] at hcommits
          rw [Bool.and_comm]
          exact hcommits
        simp [TxMailbox.commit, hno]
      cases hirq : clearIrq word with
      | false =>
        exact ⟨(d.tx.stage mailboxBytes (d.fired access)).irqAsserted, by
          simp [TxMailbox.control, hreset, hcommit, TxMailbox.acknowledge, hirq]⟩
      | true =>
        have hread : d.tx.readComplete = false := by
          simpa [hirq, hreset] using hack
        exact ⟨false, by
          simp [TxMailbox.control, hreset, hcommit, TxMailbox.acknowledge, hirq, hread]⟩
  obtain ⟨irq, hcontrol⟩ := hcontrol
  have htx : (d.clockEdge mailboxBytes access).tx = d.txFrameEnd
      { d.tx.stage mailboxBytes (d.fired access) with irqAsserted := irq } :=
    congrArg d.txFrameEnd hcontrol
  obtain ⟨hloaded, hlength, hbank, hstage, hcount, hfits, hmark⟩ := txFrameEnd_spares (d := d)
    { d.tx.stage mailboxBytes (d.fired access) with irqAsserted := irq }
  obtain ⟨hloaded', hlength', hbank', hstage', hmark'⟩ :=
    stage_spares d.tx mailboxBytes (d.fired access)
  rw [htx]
  exact ⟨hloaded.trans hloaded', hlength.trans hlength', hbank.trans hbank', hstage.trans hstage',
    hcount, hfits, fun hread => (hmark hread).imp_right hmark'⟩

end Device

/-! Every event keeps the response side in step with its notes. -/

namespace Device

variable {d d' : Device} {h : Outbox} {mailboxBytes : Nat} {mosi : Bool} {access : Option Access}

variable {w : Reading}

theorem Sends.same (hsends : d.Sends w) (hheader : d'.header = d.header)
    (hframe : d'.txFrame = d.txFrame) (hspi : d'.txSpiData = d.txSpiData)
    (hmiso : w.isRead = true → d'.sck = false → d'.misoBit = d.txFrame.txShift.toNat.testBit 7)
    (hram : readsBank w = true →
      d'.txRam d.txFrame.txLoadedBankSnapshot = d.txRam d.txFrame.txLoadedBankSnapshot) :
    d'.Sends w := by
  obtain ⟨hline, hrest, hbytes, hexact, hfresh, hresponds, hshift, -, hstores, hdata⟩ := hsends
  refine ⟨?_, hrest, hbytes, hexact, ?_, ?_, ?_, ?_, fun hread r hr => ?_, fun hread hmid hsome => ?_⟩
  · rw [hheader]
    exact hline
  · rw [hframe]
    exact hfresh
  · rw [hframe]
    exact hresponds
  · rw [hframe]
    exact hshift
  · rw [hframe]
    exact hmiso
  · intro k b hb
    rw [hframe, hram (by simp [readsBank, hread, hr])]
    exact hstores hread r hr k b hb
  · rw [hframe, hspi, hram (by simp [readsBank, hread, hsome])]
    exact hdata hread hmid hsome

theorem Stocks.same (hstocks : d.Stocks h) (htx : d'.tx = d.tx) (hram : d'.txRam = d.txRam)
    {h' : Outbox} (hstaged : h'.staged = h.staged) (hresponse : h'.response = h.response) :
    d'.Stocks h' := by
  obtain ⟨hloaded, hcontent, hstaging⟩ := hstocks
  refine ⟨?_, ?_, ?_⟩ <;> rw [htx]
  · rw [hresponse]
    exact hloaded
  · rw [hresponse, hram]
    exact hcontent
  · rw [hstaged, hram]
    exact hstaging

theorem txOk_select (hok : TxOk d h) : TxOk { d with csN := false } h := by
  obtain ⟨-, hcurrent, hstocks, hlatch, hlast, hmarked, hended⟩ := hok
  refine ⟨fun hc => absurd hc Bool.false_ne_true, fun w hw => ?_, ?_, hlatch, hlast, hmarked, hended⟩
  · obtain ⟨hstarts, hsends, hnumber⟩ := hcurrent w hw
    exact ⟨hstarts, hsends.same rfl rfl rfl hsends.miso fun _ => rfl, hnumber⟩
  · exact ⟨hstocks.loaded, hstocks.content, hstocks.staging⟩

theorem txOk_fall (hok : TxOk d h) :
    TxOk { d with
      sck := false
      misoBit := if d.csN then d.misoBit else d.txFrame.txShift.toNat.testBit 7 } h := by
  obtain ⟨hidle, hcurrent, hstocks, hlatch, hlast, hmarked, hended⟩ := hok
  refine ⟨hidle, fun w hw => ?_, ?_, hlatch, hlast, hmarked, hended⟩
  · obtain ⟨hstarts, hsends, hnumber⟩ := hcurrent w hw
    have hcs : d.csN = false := by
      cases hc : d.csN with
      | false => rfl
      | true => exact absurd (hw.symm.trans (hidle hc)) (by simp)
    refine ⟨hstarts, hsends.same rfl rfl rfl (fun _ _ => ?_) fun _ => rfl, hnumber⟩
    simp [hcs]
  · exact ⟨hstocks.loaded, hstocks.content, hstocks.staging⟩

theorem Sends.whole (hsends : d.Sends w)
    (hopcode : d.header.frameOpcodeLatched = opcodeReadResponse)
    (hcomplete : d.txFrame.frameReadResponseComplete = true)
    (hkeeps : w.isRead = true → ∀ r ∈ w.response, r ≠ [] → w.mosi.bytes.length ≠ r.length + 2) :
    w.Whole := by
  cases hbytes : w.mosi.bytes with
  | nil =>
    have hzero := hsends.line.fresh hbytes
    exact absurd (hzero.symm.trans hopcode) (by decide)
  | cons opcode bytes =>
    have hread : w.isRead = true := by
      have hlatched := (hsends.line.opcode opcode (by rw [hbytes]; rfl)).2
      simp [Reading.isRead, hbytes, ← hlatched, hopcode]
    have hresponds := hsends.responds hread
    cases hresponse : w.response with
    | none =>
      rw [hresponse] at hresponds
      exact absurd (hcomplete.symm.trans hresponds.2.2) (by simp)
    | some r =>
      rw [hresponse] at hresponds
      refine ⟨hread, r, hresponse, ?_⟩
      rw [hsends.bytes]
      by_cases hearly : w.mosi.bytes.length < 3
      · exact absurd (hcomplete.symm.trans (hresponds.early hearly).2.2.2) (by simp)
      · have hlate := (hresponds.late (by omega)).2.2
        rw [hcomplete] at hlate
        have hlast : r.length ≤ w.mosi.bytes.length - 2 := of_decide_eq_true hlate.symm
        by_cases hnil : r = []
        · subst hnil
          simp at hlast ⊢
          omega
        · have hpast := hkeeps hread r hresponse hnil
          omega

theorem txOk_deselect (hok : TxOk d h) (hw : h.current = some w)
    (hkeeps : w.isRead = true → ∀ r ∈ w.response, r ≠ [] → w.mosi.bytes.length ≠ r.length + 2) :
    TxOk { d with csN := true, frameEndToggle := !d.frameEndToggle }
      { h with
        current := none
        last := some w
        ended := h.ended ++ [w]
        shifted := h.shifted || w.isWhole && w.number = h.number } := by
  obtain ⟨-, hcurrent, hstocks, -, -, hmarked, hended⟩ := hok
  obtain ⟨-, hsends, hnumber⟩ := hcurrent w hw
  refine ⟨fun _ => rfl, fun w' hw' => (Option.some_ne_none w' hw'.symm).elim, ?_,
    fun _ hopcode hcomplete => ⟨w, rfl, hsends.whole hopcode hcomplete hkeeps⟩, fun w' hw' => ?_,
    fun hloaded hread => ?_, fun w' hw' => ?_⟩
  · exact ⟨hstocks.loaded, hstocks.content, hstocks.staging⟩
  · have hw' : w = w' := Option.some.inj hw'
    subst hw'
    refine ⟨hnumber, fun hwhole hsame => ?_⟩
    simp [w.isWhole_iff.mpr hwhole, hsame]
  · simp [hmarked hloaded hread]
  · rcases List.mem_append.mp hw' with hw' | hw'
    · exact hended w' hw'
    · obtain rfl := List.mem_singleton.mp hw'
      exact hsends.exact

theorem txOk_outside (hok : TxOk d h) (hcs : d.csN = true) :
    TxOk (d.riseEdge mailboxBytes mosi) h := by
  obtain ⟨hidle, -, hstocks, hlatch, hlast, hmarked, hended⟩ := hok
  obtain ⟨-, htx, -, -, hram, -⟩ := rise_spares mailboxBytes mosi d
  obtain ⟨hhead, -, hframe⟩ := rise_outside mailboxBytes mosi hcs
  have hnone := hidle hcs
  refine ⟨fun _ => hnone, fun w hw => ?_, hstocks.same htx hram rfl rfl, ?_, hlast, ?_, hended⟩
  · exact (Option.some_ne_none w (hw.symm.trans hnone)).elim
  · rw [hhead, hframe]
    exact hlatch
  · rw [htx]
    exact hmarked

theorem txOk_clocked (hok : TxOk d h) (hstarts : (d.riseEdge mailboxBytes mosi).startsFrame = false)
    (hcs : d.csN = false) (hsends : (d.riseEdge mailboxBytes mosi).Sends w)
    (hnumber : w.number ≤ h.number) :
    TxOk (d.riseEdge mailboxBytes mosi) { h with current := some w } := by
  obtain ⟨-, -, hstocks, -, hlast, hmarked, hended⟩ := hok
  obtain ⟨-, htx, -, -, hram, -, hcs', -⟩ :=
    rise_spares mailboxBytes mosi d
  refine ⟨fun hc => ?_, fun w' hw' => ?_, hstocks.same htx hram rfl rfl, fun hnone => ?_, hlast, ?_,
    hended⟩
  · exact absurd (hcs'.symm.trans hc) (by simp [hcs])
  · obtain rfl := Option.some.inj hw'
    exact ⟨hstarts, hsends, hnumber⟩
  · exact (Option.some_ne_none w hnone).elim
  · rw [htx]
    exact hmarked

theorem clocked_number {miso : Bool} {response : Option (List UInt8)} {number : Nat}
    (hnumber : w.number ≤ number) : (w.clocked mosi miso response number).number ≤ number := by
  unfold Reading.clocked
  dsimp only
  split
  · exact Nat.le_refl number
  · exact hnumber

theorem txOk_rise (hok : TxOk d h) (hsck : d.sck = false) (hcs : d.csN = false)
    (hkeeps : match h.current with
      | none => d.startsFrame = true
      | some w => w.mosi.rest.length = 7 → w.mosi.bytes.length < 65536) :
    TxOk (d.riseEdge mailboxBytes mosi) { h with
      current := some ((h.current.getD .fresh).clocked mosi d.miso h.response h.number) } := by
  cases hw : h.current with
  | none =>
    simp only [hw] at hkeeps
    refine txOk_clocked hok (rise_started hcs hkeeps) hcs (sends_start hcs hkeeps _ _ _) ?_
    exact Nat.zero_le _
  | some w =>
    simp only [hw] at hkeeps
    obtain ⟨hstarts, hsends, hnumber⟩ := hok.current w hw
    refine txOk_clocked hok (rise_continues hcs hstarts) hcs ?_ (clocked_number hnumber)
    by_cases hbits : w.mosi.rest.length = 7
    · by_cases hempty : w.mosi.bytes = []
      · exact hsends.opcode hok.stocks hcs hstarts hbits hempty
      · exact hsends.further hsck hcs hstarts hbits (hkeeps hbits) hempty _ _
    · exact hsends.bit hsck hcs hstarts hbits _ _

end Device

end NodeNet.Spi

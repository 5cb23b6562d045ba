import NodeNet.Wire.RxCapture
import NodeNet.Wire.SendStage

/-! On a quiet line the receiver comes to rest, whatever it was in. -/
namespace NodeNet.Wire
open NodeNet.Machine

/-- Out of a frame the byte counter is at zero, or about to be reset. -/
structure CountOk (p : Peripheral) : Prop where
  inUse : p.decoder.InUse
  pulse : p.decoder.state = .idle → p.decoder.msgDataValid = false
  fresh : p.decoder.state = .idle → p.decoder.msgComplete = false → p.decoder.error = false →
    p.mailbox.buildCount = 0

theorem countOk_reset (p : Peripheral) : CountOk p.reset := by
  refine ⟨⟨?_, ?_⟩, fun _ => rfl, fun _ _ _ => rfl⟩ <;> exact RxState.noConfusion

theorem clock_counts (m : RxMailbox) (d : Decoder) (v e en : Bool) (access : Option Access) :
    (m.clock d v e en access).buildCount =
      if clearsMailbox access || (d.rxTimeout || d.error || d.msgComplete) then 0
      else (m.capture d).buildCount := by
  cases hvalid : m.valid with
  | false => exact (clock_empty hvalid v e en access).2.1
  | true =>
    have hdrops : m.accepts d = false := by simp [RxMailbox.accepts, hvalid]
    obtain ⟨-, -, -, -, -, hcount⟩ := received_drops hdrops v e en
    obtain ⟨-, -, -, -, hcount', -⟩ := access_fields m (m.received d v e en) access
    rw [clock_received, hcount', hcount]
    cases clearsMailbox access <;> simp

variable {p : Peripheral}

theorem CountOk.clock (h : CountOk p) (i : Cycle) : CountOk (p.clock i) := by
  have hfollows : Follows p.decoder (p.clock i).decoder (p.rxByte i) :=
    follows_clock h.inUse p.tx.nodeAddr (p.rxByte i)
  refine ⟨inUse_clock h.inUse p.tx.nodeAddr (p.rxByte i), hfollows.pulse,
    fun hidle hcomplete herror => ?_⟩
  refine (clock_counts p.mailbox p.decoder _ _ _ _).trans ?_
  split
  · rfl
  · next hquiet =>
    simp only [Bool.or_eq_true, not_or, Bool.not_eq_true] at hquiet
    have hwas : p.decoder.state = .idle := by
      refine (hfollows.idle hidle hcomplete herror).resolve_right fun ht => ?_
      exact absurd (ht.1.symm.trans hquiet.2.1.1) Bool.false_ne_true.symm
    have hcapture : p.mailbox.capture p.decoder = p.mailbox := by
      simp [RxMailbox.capture, h.pulse hwas]
    rw [hcapture]
    exact h.fresh hwas hquiet.2.2 hquiet.2.1.2

/-- Nothing of a frame is on its way to the mailbox. -/
structure RxQuiet (p : Peripheral) : Prop where
  count : p.mailbox.buildCount = 0
  pulse : p.decoder.msgDataValid = false
  complete : p.decoder.msgComplete = false

instance (p : Peripheral) : Decidable (RxQuiet p) :=
  decidable_of_iff (p.mailbox.buildCount = 0 ∧ p.decoder.msgDataValid = false ∧
    p.decoder.msgComplete = false) ⟨fun ⟨h, h', h''⟩ => ⟨h, h', h''⟩, fun ⟨h, h', h''⟩ => ⟨h, h', h''⟩⟩

variable {i : Cycle}

theorem RxQuiet.rxInProgress (h : RxQuiet p) (hrx : i.uartRx = none) :
    p.rxInProgress i = false := by
  simp [Peripheral.rxInProgress, h.count, h.pulse, h.complete, hrx]

/-- The clocks that a quiet line needs at most. -/
def rxWait (p : Peripheral) : Nat :=
  if RxQuiet p then 0
  else if p.decoder.state = .idle then 1
  else 3 + (25000001 - p.decoder.timeoutCounter.toNat)

theorem rxByte_none (hrx : i.uartRx = none) : p.rxByte i = none := by
  simp [Peripheral.rxByte, hrx]

theorem decoder_quiet (hrx : i.uartRx = none) :
    (p.clock i).decoder.msgDataValid = false ∧ (p.clock i).decoder.msgComplete = false ∧
      (p.clock i).decoder.timeoutCounter = p.decoder.timeoutCounter + 1 ∧
      (p.clock i).decoder.state = if p.decoder.rxTimeout then .idle else p.decoder.state := by
  have hdecoder : (p.clock i).decoder =
      (({ p.decoder with myAddr := p.tx.nodeAddr } : Decoder).clock none) := by
    rw [← rxByte_none hrx (p := p)]
    rfl
  rw [hdecoder]
  cases ht : p.decoder.rxTimeout with
  | true =>
    rw [clock_timeout ht]
    exact ⟨rfl, rfl, rfl, rfl⟩
  | false =>
    rw [clock_wait ht]
    exact ⟨rfl, rfl, rfl, rfl⟩

theorem RxQuiet.clock (h : RxQuiet p) (hrx : i.uartRx = none) : RxQuiet (p.clock i) := by
  obtain ⟨hpulse, hcomplete, -, -⟩ := decoder_quiet hrx (p := p)
  refine ⟨?_, hpulse, hcomplete⟩
  have hcapture : p.mailbox.capture p.decoder = p.mailbox := by
    simp [RxMailbox.capture, h.pulse]
  refine (clock_counts p.mailbox p.decoder _ _ _ _).trans ?_
  rw [hcapture, h.count]
  split <;> rfl

/-- Each clock of a quiet line brings the receiver nearer to rest. -/
theorem rxWait_clock (h : CountOk p) (hrx : i.uartRx = none) :
    rxWait (p.clock i) < rxWait p ∨ rxWait (p.clock i) = 0 ∧ RxQuiet p := by
  obtain ⟨hpulse, hcomplete, hcounter, hstate⟩ := decoder_quiet hrx (p := p)
  by_cases hquiet : RxQuiet p
  · exact Or.inr ⟨if_pos (hquiet.clock hrx), hquiet⟩
  · refine Or.inl ?_
    have hcount := clock_counts p.mailbox p.decoder i.uartRx.isSome i.uartRxFrameError
      p.rxDecodeEnable (p.fired i)
    by_cases hidle : p.decoder.state = .idle
    · have hzero : RxQuiet (p.clock i) := by
        refine ⟨hcount.trans ?_, hpulse, hcomplete⟩
        split
        · rfl
        · next hq =>
          simp only [Bool.or_eq_true, not_or, Bool.not_eq_true] at hq
          have hcapture : p.mailbox.capture p.decoder = p.mailbox := by
            simp [RxMailbox.capture, h.pulse hidle]
          rw [hcapture]
          exact h.fresh hidle hq.2.2 hq.2.1.2
      simp [rxWait, hzero, hquiet, hidle]
    · have hwait : rxWait p = 3 + (25000001 - p.decoder.timeoutCounter.toNat) := by
        simp [rxWait, hquiet, hidle]
      cases ht : p.decoder.rxTimeout with
      | true =>
        have hidle' : (p.clock i).decoder.state = .idle := by simp [hstate, ht]
        have hle : rxWait (p.clock i) ≤ 1 := by
          rw [rxWait, if_pos hidle']
          split <;> omega
        omega
      | false =>
        have hlow : p.decoder.timeoutCounter.toNat ≤ 25000000 := by
          have hnot : ¬ receiveTimeoutCycles < p.decoder.timeoutCounter := by
            simpa [Decoder.rxTimeout, Decoder.timeout, hidle] using ht
          exact Nat.le_of_not_lt hnot
        have hnext : (p.clock i).decoder.timeoutCounter.toNat =
            p.decoder.timeoutCounter.toNat + 1 := by
          rw [hcounter, UInt32.toNat_add]
          exact Nat.mod_eq_of_lt (Nat.lt_of_le_of_lt (Nat.succ_le_succ hlow) (by decide))
        have hle : rxWait (p.clock i) ≤
            3 + (25000001 - (p.clock i).decoder.timeoutCounter.toNat) := by
          unfold rxWait
          split
          · omega
          · split <;> omega
        omega

/-! On a quiet line a send comes to its end. -/

/-- What is left of a frame, with the transmitter free after it. -/
def Goes (t : Transmitter) (n : Nat) : Prop :=
  t.active = true ∧ ∃ todo t', Emits t todo t' ∧ t'.Free ∧ todo.length = n

theorem Transmitter.Beats.emits {t : Transmitter} (h : t.Beats) {todo : List UInt8}
    (htodo : t.heartbeatTodo = todo) (hne : todo ≠ []) : ∃ t', Emits t todo t' ∧ t'.Free := by
  induction todo generalizing t with
  | nil => exact absurd rfl hne
  | cons b rest ih =>
    obtain ⟨hb, hafter⟩ := h.edge htodo
    have hedge : t.edge = (t.edge.1, some b) := Prod.ext rfl hb
    rcases hafter with ⟨hbeats, hrest, hne'⟩ | ⟨hfree, hrest⟩
    · obtain ⟨t', hemits, hfree⟩ := ih hbeats hrest hne'
      exact ⟨t', .cons hedge hemits, hfree⟩
    · rw [hrest]
      exact ⟨t.edge.1, .cons hedge (.nil _), hfree⟩

theorem heartbeatTodo_length (t : Transmitter) : t.heartbeatTodo.length ≤ 10 := by
  unfold Transmitter.heartbeatTodo
  split <;> simp

variable {s : Station} {frames : List WireFrame}

theorem goes_of_active (hok : SendOk s frames) (hactive : s.dev.tx.active = true) :
    ∃ n ≤ 4110, Goes s.dev.tx n := by
  cases hok.engine with
  | free hno => exact absurd (hactive.symm.trans hno) Bool.false_ne_true.symm
  | heartbeatWaits _ hno => exact absurd (hactive.symm.trans hno) Bool.false_ne_true.symm
  | messageWaits _ _ hno => exact absurd (hactive.symm.trans hno) Bool.false_ne_true.symm
  | heartbeatGoes src done hwaits hbeats htodo =>
    obtain ⟨t', hemits, hfree⟩ := hbeats.emits rfl htodo
    have hlen := heartbeatTodo_length s.dev.tx
    exact ⟨_, by omega, hactive, _, t', hemits, hfree, rfl⟩
  | messageGoes src m done todo tx hwaits _ hpending hkind hemits hend hframe =>
    have hlen : done.length + todo.length = 14 + 2 * m.bytes.length := by
      rw [← List.length_append, hframe, dataFrame_length]
    have hfits := m.fits
    exact ⟨todo.length, by omega, hactive, todo, tx, hemits,
      hemits.free hactive hpending hend, rfl⟩

/-- The clocks until the UART takes the next byte, at most. -/
def uartWait (p : Peripheral) : Nat :=
  if p.uart.busy then p.uart.bitCount.toNat * 1048576 + (1048576 - p.uart.counter.toNat) + 1
  else if p.uartTxValid then 12582912
  else 0

theorem uartWait_le (p : Peripheral) : uartWait p ≤ 17825792 := by
  have hlt := p.uart.bitCount.isLt
  unfold uartWait
  split
  · omega
  · split <;> omega

theorem uart_busy {u : UartTx} (hb : u.busy = true) (hne : u.bitCount ≠ 0) (divisor : BitVec 20)
    (valid : Bool) :
    let u' := u.clock divisor valid
    u'.busy = false ∨
      u'.busy = true ∧ u'.bitCount.toNat + 1 = u.bitCount.toNat ∧ u'.counter.toNat = 0 ∨
      u'.busy = true ∧ u'.bitCount = u.bitCount ∧ u'.counter.toNat = u.counter.toNat + 1 := by
  simp only [UartTx.clock, hb, Bool.not_true, Bool.false_and, Bool.false_eq_true, if_false, if_true]
  generalize (if divisor ≠ 0 then divisor else 1) = bitDivisor
  by_cases hend : bitDivisor - 1 ≤ u.counter
  · rw [if_pos hend]
    by_cases hlast : u.bitCount = 1
    · exact Or.inl (by simp [hlast])
    · refine Or.inr (Or.inl ⟨by simpa using hlast, ?_, rfl⟩)
      have hpos : u.bitCount.toNat ≠ 0 := fun h => hne (BitVec.eq_of_toNat_eq h)
      have hlt := u.bitCount.isLt
      change (u.bitCount - 1).toNat + 1 = u.bitCount.toNat
      rw [BitVec.toNat_sub]
      have hone : (1 : BitVec 4).toNat = 1 := rfl
      omega
  · rw [if_neg hend]
    refine Or.inr (Or.inr ⟨rfl, rfl, ?_⟩)
    have hlt : u.counter.toNat < (bitDivisor - 1).toNat := Nat.lt_of_not_le hend
    have hmax := (bitDivisor - 1).isLt
    change (u.counter + 1).toNat = u.counter.toNat + 1
    rw [BitVec.toNat_add]
    have hone : (1 : BitVec 20).toNat = 1 := rfl
    omega

theorem uartWait_clock (h : UartOk p) (hactive : p.tx.active = true) (hedge : p.byteEdge = false)
    (i : Cycle) : uartWait (p.clock i) < uartWait p := by
  have hvalid : (p.clock i).uartTxValid = false := by
    simp [Peripheral.clock, Peripheral.txByte, hedge]
  have huart : (p.clock i).uart = p.uart.clock p.uartDivisor p.uartTxValid := rfl
  have hcounter := p.uart.counter.isLt
  cases hb : p.uart.busy with
  | false =>
    have hready : p.uartTxReadyD = true := by
      simpa [Peripheral.byteEdge, hactive, hb] using hedge
    have hoffer : p.uartTxValid = true := (h.rising hactive hready).resolve_left (by simp [hb])
    have hnext : (p.clock i).uart = { busy := true, bitCount := 10, counter := 0 } := by
      simp [huart, UartTx.clock, hb, hoffer]
    simp [uartWait, hnext, hb, hoffer]
  | true =>
    have hne := h.counting hb
    have hwait : uartWait p =
        p.uart.bitCount.toNat * 1048576 + (1048576 - p.uart.counter.toNat) + 1 := if_pos hb
    rcases uart_busy hb (h.counting hb) p.uartDivisor p.uartTxValid with hend | ⟨hb', hbit, hzero⟩ |
      ⟨hb', hbit, hcount⟩
    · have hdone : uartWait (p.clock i) = 0 := by simp [uartWait, huart, hend, hvalid]
      omega
    · have hnext : uartWait (p.clock i) = (p.clock i).uart.bitCount.toNat * 1048576 +
          (1048576 - (p.clock i).uart.counter.toNat) + 1 := if_pos (by rw [huart, hb'])
      rw [huart, hzero] at hnext
      omega
    · have hnext : uartWait (p.clock i) = (p.clock i).uart.bitCount.toNat * 1048576 +
          (1048576 - (p.clock i).uart.counter.toNat) + 1 := if_pos (by rw [huart, hb'])
      rw [huart, hbit, hcount] at hnext
      omega

/-- A clock in which nothing arrives and the driver does nothing. -/
def quietTick : Tick := ⟨none, false, .wait⟩

/-- No send is under way in the driver. -/
structure Live (s : Station) : Prop where
  ok : ∃ frames, SendOk s frames
  count : CountOk s.dev
  idle : s.cpu = .idle

section
variable {s : Station}

theorem fired_quiet (s : Station) : s.dev.fired (s.cycle quietTick) = none := by
  rw [fired_cycle]
  split <;> rfl

theorem nodeAddr_quiet (s : Station) :
    s.dev.nodeAddrNext (s.cycle quietTick) = s.dev.tx.nodeAddr := by
  simp [Peripheral.nodeAddrNext, fired_quiet]

theorem accessTx_nodeAddr {p : Peripheral} {i : Cycle} {next : Transmitter}
    (h : next.nodeAddr = p.tx.nodeAddr) : (p.accessTx i next).nodeAddr = p.nodeAddrNext i := by
  unfold Peripheral.accessTx Peripheral.nodeAddrNext
  cases p.fired i with
  | none => exact h
  | some a =>
    cases a with
    | read reg => exact h
    | write reg dat =>
      cases reg with
      | config => rfl
      | _ =>
        repeat' split
        all_goals first | exact h | simp_all

theorem txNext_nodeAddr (p : Peripheral) (i : Cycle) :
    (p.txNext i).nodeAddr = p.nodeAddrNext i := by
  cases hactive : p.tx.active with
  | true =>
    rw [Peripheral.txNext_active hactive]
    split <;> rfl
  | false =>
    cases hpending : p.tx.pending with
    | true =>
      rw [Peripheral.txNext_pending hactive hpending]
      split <;> rfl
    | false =>
      rw [Peripheral.txNext_free hactive hpending]
      refine accessTx_nodeAddr ?_
      split <;> rfl

theorem keepsSend_quiet (hidle : s.cpu = .idle) : KeepsSend s quietTick := by
  refine ⟨fun h => absurd (completes_nil (by simp [hidle])) h, fun h => ?_, ?_⟩
  · simp [Station.trustsIdle, hidle] at h
  · simp [Station.changesAddress, txNext_nodeAddr, nodeAddr_quiet]

theorem Live.tick (h : Live s) : Live (s.tick quietTick) ∧
    (s.tick quietTick).completed = s.completed := by
  obtain ⟨⟨frames, hok⟩, hcount, hidle⟩ := h
  refine ⟨⟨sendOk_tick hok (keepsSend_quiet hidle), hcount.clock _, ?_⟩,
    completed_tick (completes_nil (by simp [hidle]))⟩
  simp [Station.tick, Station.cpuNext, hidle, quietTick, Station.sendFires]

/-- The clocks that are left at most. -/
def Rank (completed : List Message) (n : Nat) (s : Station) : Prop :=
  Live s ∧ s.completed = completed ∧
    (s.dev.tx.active = false ∧ s.dev.tx.pending = true ∧
        n = 4200 * 20971520 + rxWait s.dev + s.dev.txCooldown.toNat + 1 ∨
      ∃ k, Goes s.dev.tx k ∧ n = k * 20971520 + uartWait s.dev)

theorem cooldown_quiet (hbusy : s.dev.txIdle = false) :
    (s.tick quietTick).dev.txCooldown =
      if s.dev.txCooldown ≠ 0 then s.dev.txCooldown - 1 else s.dev.txCooldown := by
  have hsend : s.dev.sendRequested (s.cycle quietTick) = false := by
    simp [Peripheral.sendRequested, fired_quiet]
  simp only [Station.tick, Peripheral.clock, Peripheral.txCooldownNext, hsend,
    Peripheral.heartbeatRequested_busy hbusy, Peripheral.heartbeatStarts_busy hbusy,
    Bool.false_eq_true, if_false, Bool.or_false]

theorem toNat_pred {n : UInt32} (h : n ≠ 0) : (n - 1).toNat = n.toNat - 1 := by
  have hpos : n.toNat ≠ 0 := fun h' => h (UInt32.toNat_inj.mp h')
  have hlt := UInt32.toNat_lt n
  rw [UInt32.toNat_sub]
  have hone : (1 : UInt32).toNat = 1 := rfl
  omega

/-- A waiting frame starts, or the wait gets shorter. -/
theorem rank_waits {completed : List Message} (hlive : Live s) (hdone : s.completed = completed)
    (hactive : s.dev.tx.active = false) (hpending : s.dev.tx.pending = true) {n : Nat}
    (hn : n = 4200 * 20971520 + rxWait s.dev + s.dev.txCooldown.toNat + 1) :
    ∃ m < n, Rank completed m (s.tick quietTick) := by
  obtain ⟨hlive', hsame⟩ := hlive.tick
  have htx := tx_tick.trans (Peripheral.txNext_pending (i := s.cycle quietTick) hactive hpending)
  rw [nodeAddr_quiet] at htx
  cases hstarts : s.dev.frameStarts (s.cycle quietTick) with
  | true =>
    rw [hstarts, if_pos rfl] at htx
    have hgoes : (s.tick quietTick).dev.tx.active = true := by
      rw [htx]
      simp [Transmitter.startFrame, hactive, hpending]
      split <;> rfl
    obtain ⟨frames, hok⟩ := hlive'.ok
    obtain ⟨k, hk, hgoes⟩ := goes_of_active hok hgoes
    have hwait := uartWait_le (s.tick quietTick).dev
    exact ⟨_, by omega, hlive', hsame.trans hdone, Or.inr ⟨k, hgoes, rfl⟩⟩
  | false =>
    rw [hstarts] at htx
    have hcool := cooldown_quiet (s := s) (by simp [Peripheral.txIdle, hpending])
    refine ⟨_, ?_, hlive', hsame.trans hdone, Or.inl ⟨?_, ?_, rfl⟩⟩
    · rcases rxWait_clock hlive.count (i := s.cycle quietTick) rfl with hlt | ⟨hzero, hquiet⟩
      · have hle : (s.tick quietTick).dev.txCooldown.toNat ≤ s.dev.txCooldown.toNat := by
          rw [hcool]
          split
          · next hne => rw [toNat_pred hne]; omega
          · exact Nat.le_refl _
        have hlt : rxWait (s.tick quietTick).dev < rxWait s.dev := hlt
        omega
      · have hne : s.dev.txCooldown ≠ 0 := by
          have hrx := hquiet.rxInProgress (i := s.cycle quietTick) rfl
          simpa [Peripheral.frameStarts, hactive, hpending, hrx] using hstarts
        have hzero : rxWait (s.tick quietTick).dev = 0 := hzero
        have hpred := toNat_pred hne
        rw [hcool, if_pos hne]
        have hpos : s.dev.txCooldown.toNat ≠ 0 := fun h => hne (UInt32.toNat_inj.mp h)
        omega
    · rw [htx]
      exact hactive
    · rw [htx]
      exact hpending

theorem rank_goes {completed : List Message} (hlive : Live s) (hdone : s.completed = completed)
    {k n : Nat} (hgoes : Goes s.dev.tx k) (hn : n = k * 20971520 + uartWait s.dev) :
    (s.tick quietTick).dev.txIdle = true ∨ ∃ m < n, Rank completed m (s.tick quietTick) := by
  obtain ⟨hlive', hsame⟩ := hlive.tick
  obtain ⟨hactive, todo, t', hemits, hfree, hlen⟩ := hgoes
  obtain ⟨frames, hok⟩ := hlive.ok
  have htx := tx_tick.trans (Peripheral.txNext_active (i := s.cycle quietTick) hactive)
  rw [nodeAddr_quiet] at htx
  cases hedge : s.dev.byteEdge with
  | false =>
    rw [hedge] at htx
    have hlt : uartWait (s.tick quietTick).dev < uartWait s.dev :=
      uartWait_clock hok.uart hactive hedge _
    refine Or.inr ⟨k * 20971520 + uartWait (s.tick quietTick).dev, by omega, hlive',
      hsame.trans hdone, Or.inr ⟨k, ?_, rfl⟩⟩
    rw [htx]
    exact ⟨hactive, todo, t', hemits, hfree, hlen⟩
  | true =>
    rw [hedge, if_pos rfl, ← edge_nodeAddr s.dev.tx] at htx
    cases hemits with
    | nil => exact absurd (hactive.symm.trans hfree.active) Bool.false_ne_true.symm
    | @cons _ t₁ _ b rest hb hrest =>
      rw [hb] at htx
      cases hrest with
      | nil =>
        refine Or.inl ?_
        rw [Peripheral.txIdle, htx]
        simp [hfree.stage, hfree.pending, hfree.active]
      | @cons _ _ _ b' rest' hb' hrest' =>
        have hwait := uartWait_le (s.tick quietTick).dev
        simp only [List.length_cons] at hlen
        refine Or.inr ⟨(rest'.length + 1) * 20971520 + uartWait (s.tick quietTick).dev, by omega,
          hlive', hsame.trans hdone, Or.inr ⟨rest'.length + 1, ?_, rfl⟩⟩
        rw [htx]
        exact ⟨active_of_edge hb', b' :: rest', t', .cons hb' hrest', hfree, rfl⟩

end

/-! Each completed send is on the line once, and the mailbox comes free again. -/

/-- After reset nothing has been sent. -/
def Station.start (p : Peripheral) : Station := ⟨p.reset, .idle, [], []⟩

theorem sendOk_start (p : Peripheral) : SendOk (Station.start p) [] where
  uart := uartOk_reset p
  poll := trivial
  engine := .free rfl rfl rfl rfl rfl

theorem sendOk_run (p : Peripheral) {ticks : List Tick}
    (h : Along Station.tick KeepsSend (Station.start p) ticks) :
    ∃ frames, SendOk (run Station.tick (Station.start p) ticks) frames := by
  have hstep : ∀ s t, (∃ frames, SendOk s frames) → KeepsSend s t →
      ∃ frames, SendOk (s.tick t) frames :=
    fun _ _ ⟨_, hok⟩ hkeeps => sendOk_tick hok hkeeps
  exact run_inv hstep ⟨[], sendOk_start p⟩ h

theorem countOk_run (p : Peripheral) (ticks : List Tick) :
    CountOk (run Station.tick (Station.start p) ticks).dev := by
  have hstep : ∀ s t, CountOk (Station.dev s) → True → CountOk (s.tick t).dev :=
    fun s t hok _ => hok.clock (s.cycle t)
  exact run_inv hstep (countOk_reset p) (along_true _ ticks)

theorem uartOk_run (p : Peripheral) (ticks : List Tick) :
    UartOk (run Station.tick (Station.start p) ticks).dev := by
  have hstep : ∀ s t, UartOk (Station.dev s) → True → UartOk (s.tick t).dev :=
    fun s t hok _ => hok.clock (s.cycle t)
  exact run_inv hstep (uartOk_reset p) (along_true _ ticks)

/-- The mailbox is idle again, with the completed messages as they were. -/
def Reached (completed : List Message) (s : Station) : Prop :=
  Live s ∧ s.completed = completed ∧ s.dev.txIdle = true

theorem reaches_idle (hlive : Live s) (hbusy : s.dev.txIdle = false) :
    ∃ k, Reached s.completed (run Station.tick s (List.replicate k quietTick)) := by
  have hrank : ∃ n, Rank s.completed n s := by
    obtain ⟨frames, hok⟩ := hlive.ok
    have hidle := hlive.idle
    cases hactive : s.dev.tx.active with
    | true =>
      obtain ⟨k, -, hgoes⟩ := goes_of_active hok hactive
      exact ⟨_, hlive, rfl, Or.inr ⟨k, hgoes, rfl⟩⟩
    | false =>
      cases hpending : s.dev.tx.pending with
      | true => exact ⟨_, hlive, rfl, Or.inl ⟨hactive, hpending, rfl⟩⟩
      | false =>
        cases hok.engine with
        | free _ _ hstage =>
          rw [hidle] at hstage
          have hstage : s.dev.tx.stageValid = false := hstage
          simp [Peripheral.txIdle, hactive, hpending, hstage] at hbusy
        | heartbeatWaits _ _ h => exact absurd (hpending.symm.trans h) Bool.false_ne_true
        | messageWaits _ _ _ h => exact absurd (hpending.symm.trans h) Bool.false_ne_true
        | heartbeatGoes _ _ _ h => exact absurd (hactive.symm.trans h.active) Bool.false_ne_true
        | messageGoes _ _ _ _ _ _ h => exact absurd (hactive.symm.trans h) Bool.false_ne_true
  obtain ⟨n, hrank⟩ := hrank
  have hstep : ∀ n s', Rank s.completed n s' → Reached s.completed (s'.tick quietTick) ∨
      ∃ m < n, Rank s.completed m (s'.tick quietTick) := by
    intro n s' h
    obtain ⟨hlive', hsame⟩ := h.1.tick
    rcases h with ⟨hlive, hdone, ⟨hactive, hpending, hn⟩ | ⟨k, hgoes, hn⟩⟩
    · exact Or.inr (rank_waits hlive hdone hactive hpending hn)
    · exact (rank_goes hlive hdone hgoes hn).imp_left fun h => ⟨hlive', hsame.trans hdone, h⟩
  exact reaches_of_rank hstep hrank

theorem line_of_idle (hok : SendOk s frames) (hidle : s.dev.txIdle = true) :
    s.line = frames.flatMap WireFrame.bytes ∧
      frames.flatMap WireFrame.messages = s.completed := by
  simp only [Peripheral.txIdle, Bool.and_eq_true, Bool.not_eq_true'] at hidle
  cases hok.engine with
  | free _ _ _ hline hdone => exact ⟨hline, hdone⟩
  | heartbeatWaits _ _ h => exact absurd (hidle.1.2.symm.trans h) Bool.false_ne_true
  | messageWaits _ _ _ h => exact absurd (hidle.1.2.symm.trans h) Bool.false_ne_true
  | heartbeatGoes _ _ _ h => exact absurd (hidle.2.symm.trans h.active) Bool.false_ne_true
  | messageGoes _ _ _ _ _ _ h => exact absurd (hidle.2.symm.trans h) Bool.false_ne_true

/-- What is on the line: whole frames and the start of one more, with the completed messages in
order and none twice. -/
theorem line_of_sendOk (hok : SendOk s frames) :
    (∃ f part, s.line = frames.flatMap WireFrame.bytes ++ part ∧ part <+: WireFrame.bytes f) ∧
      frames.flatMap WireFrame.messages <+: s.completed := by
  cases hok.engine with
  | free _ _ _ hline hdone =>
    exact ⟨⟨.heartbeat 0, [], hline.trans (List.append_nil _).symm, List.nil_prefix⟩,
      hdone ▸ List.prefix_refl _⟩
  | heartbeatWaits _ _ _ _ hline hdone =>
    exact ⟨⟨.heartbeat 0, [], hline.trans (List.append_nil _).symm, List.nil_prefix⟩,
      hdone ▸ List.prefix_refl _⟩
  | messageWaits _ _ _ _ _ _ hline hdone =>
    exact ⟨⟨.heartbeat 0, [], hline.trans (List.append_nil _).symm, List.nil_prefix⟩,
      hdone ▸ List.prefix_append _ _⟩
  | heartbeatGoes src done _ _ _ hframe hline hdone =>
    exact ⟨⟨.heartbeat src, done, hline, _, hframe⟩, hdone ▸ List.prefix_refl _⟩
  | messageGoes src m done todo _ _ _ _ _ _ _ hframe hline hdone =>
    exact ⟨⟨.data src m, done, hline, todo, hframe⟩, hdone ▸ List.prefix_append _ _⟩

/-- The line carries whole frames and the start of at most one more, the completed messages among
them in order; and once the driver is done, a quiet line brings the mailbox back to idle with every
completed message on the line exactly once. -/
theorem sends_transmitted (p : Peripheral) {ticks : List Tick}
    (h : Along Station.tick KeepsSend (Station.start p) ticks) :
    let s := run Station.tick (Station.start p) ticks
    (∃ (frames : List WireFrame) (f : WireFrame) (part : List UInt8),
        s.line = frames.flatMap WireFrame.bytes ++ part ∧ part <+: WireFrame.bytes f ∧
        frames.flatMap WireFrame.messages <+: s.completed) ∧
      (s.cpu = .idle → ∃ (k : Nat) (frames : List WireFrame),
        let s' := run Station.tick s (List.replicate k quietTick)
        s'.dev.txIdle = true ∧ s'.completed = s.completed ∧
          s'.line = frames.flatMap WireFrame.bytes ∧
          frames.flatMap WireFrame.messages = s.completed) := by
  intro s
  obtain ⟨frames, hok⟩ := sendOk_run p h
  refine ⟨?_, fun hidle => ?_⟩
  · obtain ⟨⟨f, part, hline, hpart⟩, hmessages⟩ := line_of_sendOk hok
    exact ⟨frames, f, part, hline, hpart, hmessages⟩
  · have hlive : Live s := ⟨⟨frames, hok⟩, countOk_run p ticks, hidle⟩
    cases hbusy : s.dev.txIdle with
    | true =>
      obtain ⟨hline, hmessages⟩ := line_of_idle hok hbusy
      exact ⟨0, frames, hbusy, rfl, hline, hmessages⟩
    | false =>
      obtain ⟨k, hlive', hsame, hidle'⟩ := reaches_idle hlive hbusy
      obtain ⟨frames', hok'⟩ := hlive'.ok
      obtain ⟨hline, hmessages⟩ := line_of_idle hok' hidle'
      exact ⟨k, frames', hidle', hsame, hline, hmessages.trans hsame⟩

/-- A staged message whose send command was ignored. -/
structure Wedged (s : Station) (line : List UInt8) : Prop where
  uart : UartOk s.dev
  poll : PollOk s
  waits : s.cpu.waits = true
  stage : s.dev.tx.stageValid = true
  pending : s.dev.tx.pending = false
  active : s.dev.tx.active = false
  line : s.line = line

theorem wedged_tick {line : List UInt8} (h : Wedged s line) (t : Tick) :
    Wedged (s.tick t) line := by
  have hbusy : s.dev.txIdle = false := by simp [Peripheral.txIdle, h.stage]
  obtain ⟨hwaits, hpoll, -⟩ := cpu_busy (t := t) h.poll h.waits hbusy
  have htakes : s.heartbeatTakes t = false := by
    simp [Station.heartbeatTakes, Peripheral.heartbeatStarts_busy hbusy,
      Peripheral.heartbeatRequested_busy hbusy]
  have htx := stageValid_spares h.active h.pending (spares_cycle (Or.inr h.waits)) htakes
  refine ⟨h.uart.clock _, hpoll, hwaits, ?_, ?_, ?_, (line_inactive h.uart h.active).trans h.line⟩
  · rw [htx]
    exact h.stage
  · rw [htx]
    exact h.pending
  · rw [htx]
    exact h.active

theorem wedged_run {line : List UInt8} (h : Wedged s line) (ticks : List Tick) :
    Wedged (run Station.tick s ticks) line := by
  have hstep : ∀ s t, Wedged s line → True → Wedged (s.tick t) line :=
    fun _ t hs _ => wedged_tick hs t
  exact run_inv hstep h (along_true s ticks)

def oneByte : Message := ⟨2, [0x41], by decide⟩

/-- The steps of a send, with these bytes arriving in the clock of its last write. -/
def sendTicks (rx : Option UInt8) : List Tick :=
  [⟨none, false, .send oneByte⟩, ⟨none, false, .step⟩, ⟨none, false, .wait⟩, ⟨none, false, .step⟩,
    ⟨none, false, .wait⟩, ⟨none, false, .step⟩, ⟨none, false, .wait⟩, ⟨rx, false, .step⟩]

theorem sendTicks_transmitted :
    let s := run Station.tick (Station.start Peripheral.blank) (sendTicks none)
    (∃ (frames : List WireFrame) (f : WireFrame) (part : List UInt8),
        s.line = frames.flatMap WireFrame.bytes ++ part ∧ part <+: WireFrame.bytes f ∧
        frames.flatMap WireFrame.messages <+: s.completed) ∧
      (s.cpu = .idle → ∃ (k : Nat) (frames : List WireFrame),
        let s' := run Station.tick s (List.replicate k quietTick)
        s'.dev.txIdle = true ∧ s'.completed = s.completed ∧
          s'.line = frames.flatMap WireFrame.bytes ∧
          frames.flatMap WireFrame.messages = s.completed) :=
  sends_transmitted Peripheral.blank (by decide +kernel)

/-- A byte from the line in the clock of the send command: the send is complete, and whatever
follows, its message never goes out and the mailbox never comes free. -/
theorem sendTicks_lost :
    let s := run Station.tick (Station.start Peripheral.blank) (sendTicks (some nodenetLf))
    s.cpu = .idle ∧ s.completed = [oneByte] ∧
      ∀ later, (run Station.tick s later).line = [] ∧
        (run Station.tick s later).dev.txIdle = false := by
  intro s
  have hcpu : s.cpu = .idle := by decide +kernel
  have htx : s.dev.tx.stageValid = true ∧ s.dev.tx.pending = false ∧ s.dev.tx.active = false := by
    decide +kernel
  have hline : s.line = [] := by decide +kernel
  have hwedged : Wedged s [] :=
    ⟨uartOk_run Peripheral.blank _, pollOk_other (by simp [hcpu]), by rw [hcpu]; rfl, htx.1, htx.2.1,
      htx.2.2, hline⟩
  refine ⟨hcpu, by decide +kernel, fun later => ?_⟩
  have hlater := wedged_run hwedged later
  exact ⟨hlater.line, by simp [Peripheral.txIdle, hlater.stage]⟩

end NodeNet.Wire

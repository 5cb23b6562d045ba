import Mathlib
import NodeNet.Lib.Ring
import NodeNet.Lib.Machine
import NodeNet.Wire.Peripheral

/-! The bus UART with its two FIFOs: which runs lose a byte. -/
namespace NodeNet.UartFifos
open NodeNet.Machine NodeNet.Ring NodeNet.Wire

/-- The cells and the pointers of one FIFO; its depth is two to the pointers' width. -/
structure Fifo (w : Nat) where
  cells : BitVec w → UInt8
  wrPtr : BitVec w
  rdPtr : BitVec w

namespace Fifo
variable {w : Nat} (f : Fifo w)

def empty : Bool := f.wrPtr = f.rdPtr

/-- The sum has the 32 bits of its literal and does not wrap with the pointer. -/
def full : Bool := f.wrPtr.setWidth 32 + 1 = f.rdPtr.setWidth 32

/-- What a clock writes and whether it reads. -/
def clock (pushed : Option UInt8) (popped : Bool) : Fifo w where
  cells k := if k = f.wrPtr then pushed.getD (f.cells k) else f.cells k
  wrPtr := if pushed.isSome then f.wrPtr + 1 else f.wrPtr
  rdPtr := if popped then f.rdPtr + 1 else f.rdPtr

/-- The unread bytes, oldest first. -/
def contents : List UInt8 :=
  (List.range (f.wrPtr - f.rdPtr).toNat).map fun k => f.cells (f.rdPtr + BitVec.ofNat w k)

/-- All but one of the cells are taken, with the pointers at the two ends. -/
def AtEnds : Prop := f.wrPtr.toNat + 1 = 2 ^ w ∧ f.rdPtr.toNat = 0

instance : Decidable f.AtEnds := inferInstanceAs (Decidable (_ ∧ _))

end Fifo

/-- The registers; `uart` is the transmit side of the UART core. -/
structure WbUart (w : Nat) where
  rx : Fifo w
  tx : Fifo w
  rxOverrunSticky : Bool
  rxFrameSticky : Bool
  prescale : BitVec 16
  txData : UInt8
  txValid : Bool
  validD : Bool
  ack : Bool
  datO : UInt32
  uart : UartTx

/-- The inputs in a clock: reset, the bus, and what the receiver of the UART core says. -/
structure Cycle where
  rst : Bool
  valid : Bool
  adr : BitVec 4
  dat : UInt32
  sel0 : Bool
  sel1 : Bool
  we : Bool
  rxByte : Option UInt8
  rxFrame : Bool

def DEFAULT_PRESCALE : BitVec 16 := 27

namespace WbUart
variable {w : Nat} (u : WbUart w) (i : Cycle)

def fire : Bool := i.valid && !u.validD

/-- A byte that is received goes into the FIFO unless it is full. -/
def rxPush : Option UInt8 := if u.rx.full then none else i.rxByte

/-- A read of the data register takes a byte. -/
def rxPop : Bool := u.fire i && i.adr = 0 && !i.we && !u.rx.empty

/-- A write of the data register while the FIFO is not full. -/
def txPush : Option UInt8 :=
  if u.fire i && i.adr = 0 && i.we && i.sel0 && !u.tx.full then some i.dat.toUInt8 else none

/-- The UART core is fed from the FIFO. -/
def txPop : Bool := !u.uart.busy && !u.tx.empty && !u.txValid

def statusWrite : Bool := u.fire i && i.adr = 4 && i.we && i.sel0

def flag (b : Bool) (shift : UInt32) : UInt32 := if b then 1 <<< shift else 0

def status : UInt32 :=
  flag u.rxFrameSticky 5 ||| flag u.rxOverrunSticky 4 ||| flag u.tx.full 3 |||
    flag u.tx.empty 2 ||| flag u.rx.full 1 ||| flag u.rx.empty 0

def readOut : UInt32 :=
  if u.fire i then
    if i.adr = 0 then
      if i.we then u.datO
      else if u.rx.empty then 0 else (u.rx.cells u.rx.rdPtr).toUInt32
    else if i.adr = 4 then u.status
    else if i.adr = 8 then UInt32.ofNat u.prescale.toNat
    else 0
  else u.datO

def baudWrite : BitVec 16 :=
  if u.fire i && i.adr = 8 && i.we then
    (if i.sel1 then BitVec.ofNat 8 (i.dat >>> 8).toNat else u.prescale.extractLsb' 8 8) ++
      (if i.sel0 then BitVec.ofNat 8 i.dat.toNat else u.prescale.extractLsb' 0 8)
  else u.prescale

def divisor : BitVec 20 := u.prescale.setWidth 20 <<< 3

def clock : WbUart w :=
  if i.rst then
    { u with
      rx := { u.rx with wrPtr := 0, rdPtr := 0 }
      tx := { u.tx with wrPtr := 0, rdPtr := 0 }
      rxOverrunSticky := false
      rxFrameSticky := false
      prescale := DEFAULT_PRESCALE
      txData := 0
      txValid := false
      validD := false
      ack := u.fire i
      datO := 0
      uart := { busy := false, bitCount := 0, counter := 0 } }
  else
    { rx := u.rx.clock (u.rxPush i) (u.rxPop i)
      tx := u.tx.clock (u.txPush i) u.txPop
      rxOverrunSticky :=
        if u.statusWrite i && i.dat &&& 0x10 ≠ 0 then false
        else u.rxOverrunSticky || (i.rxByte.isSome && u.rx.full)
      rxFrameSticky :=
        if u.statusWrite i && i.dat &&& 0x20 ≠ 0 then false else u.rxFrameSticky || i.rxFrame
      prescale := u.baudWrite i
      txData := if u.txPop then u.tx.cells u.tx.rdPtr else u.txData
      txValid := u.txPop
      validD := i.valid
      ack := u.fire i
      datO := u.readOut i
      uart := u.uart.clock u.divisor u.txValid }

/-- Power-up: the pointers and flags at zero. -/
def PowerUp : Prop :=
  u.rx.wrPtr = 0 ∧ u.rx.rdPtr = 0 ∧ u.tx.wrPtr = 0 ∧ u.tx.rdPtr = 0 ∧ u.txValid = false ∧
    u.uart.busy = false

/-- The byte that is on its way from the FIFO to the UART core. -/
def inFlight : List UInt8 := if u.txValid then [u.txData] else []

end WbUart

/-- What went through the two FIFOs since the last reset. -/
structure Ledger where
  /-- The received bytes that were not dropped. -/
  kept : List UInt8
  /-- What the reads brought while the FIFO was not empty. -/
  delivered : List UInt8
  /-- The bytes written while the FIFO was reported not full. -/
  accepted : List UInt8
  /-- The bytes that the UART core took to send. -/
  sent : List UInt8

def Ledger.none : Ledger := ⟨[], [], [], []⟩

variable {w : Nat}

def note (u : WbUart w) (i : Cycle) (l : Ledger) : Ledger :=
  if i.rst then .none
  else
    { kept := l.kept ++ (u.rxPush i).toList
      delivered := if u.rxPop i then l.delivered ++ [(u.clock i).datO.toUInt8] else l.delivered
      accepted := l.accepted ++ (u.txPush i).toList
      sent := if !u.uart.busy && u.txValid then l.sent ++ [u.txData] else l.sent }

/-- No byte is lost or made up: what came in is what went out and what is still inside. -/
structure Accounts (p : WbUart w × Ledger) : Prop where
  rx : p.2.kept = p.2.delivered ++ p.1.rx.contents
  tx : p.2.accepted = p.2.sent ++ p.1.inFlight ++ p.1.tx.contents

def DropsFlagged (u : WbUart w) (i : Cycle) : Prop :=
  i.rst = false → i.rxByte.isSome = true → u.rxPush i = none →
    u.rx.contents.length + 1 = 2 ^ w ∧ (u.clock i).rxOverrunSticky = true

/-- A clock that loses nothing silently. -/
def Faithful (p : WbUart w × Ledger) (i : Cycle) : Prop :=
  Accounts (observed WbUart.clock note p i) ∧ DropsFlagged p.1 i

/-- The clock does not write into a FIFO that is full with its pointers at the ends, unless it
reads it as well, and does not clear the overrun flag as a byte is dropped. -/
structure Clear (u : WbUart w) (i : Cycle) : Prop where
  rx : i.rst = false → u.rx.AtEnds → i.rxByte.isSome = true → u.rxPop i = true
  tx : i.rst = false → u.tx.AtEnds → (u.txPush i).isSome = true → u.txPop = true
  flag : i.rst = false → i.rxByte.isSome = true → u.rx.full = true →
    ¬(u.statusWrite i = true ∧ i.dat &&& 0x10 ≠ 0)

/-! The FIFO is a ring that holds its contents. -/

namespace Fifo
variable (f : Fifo w)

def cell (k : Nat) : UInt8 := f.cells (BitVec.ofNat w k)

theorem contents_length : f.contents.length = (f.wrPtr - f.rdPtr).toNat := by
  rw [contents, List.length_map, List.length_range]

theorem holds_contents : Holds (2 ^ w) f.cell f.rdPtr.toNat f.wrPtr.toNat f.contents where
  rd_lt := f.rdPtr.isLt
  room := by
    rw [contents_length]
    exact (f.wrPtr - f.rdPtr).isLt
  place := by
    rw [contents_length, BitVec.toNat_sub]
    have hrd := f.rdPtr.isLt
    rw [Nat.add_mod_mod, show f.rdPtr.toNat + (2 ^ w - f.rdPtr.toNat + f.wrPtr.toNat) =
      f.wrPtr.toNat + 2 ^ w by omega, Nat.add_mod_right, Nat.mod_eq_of_lt f.wrPtr.isLt]
  cell := by
    intro k hk
    have haddr : BitVec.ofNat w ((f.rdPtr.toNat + k) % 2 ^ w) = f.rdPtr + BitVec.ofNat w k := by
      apply BitVec.eq_of_toNat_eq
      rw [BitVec.toNat_ofNat, BitVec.toNat_add, BitVec.toNat_ofNat, Nat.mod_mod, Nat.add_mod_mod]
    simp only [cell, haddr, contents, List.getElem_map, List.getElem_range]

theorem contents_of_holds {items : List UInt8}
    (h : Holds (2 ^ w) f.cell f.rdPtr.toNat f.wrPtr.toNat items) : f.contents = items := by
  have hown := f.holds_contents
  have hlength : f.contents.length = items.length := by
    rw [hown.length_eq, h.length_eq]
  apply List.ext_getElem hlength
  intro k hk hk'
  rw [← hown.cell k hk, h.cell k hk']

theorem empty_iff : f.empty = true ↔ f.contents = [] := by
  rw [← f.holds_contents.empty_iff, empty, decide_eq_true_iff, BitVec.toNat_inj]

theorem full_iff (hw : w < 32) :
    f.full = true ↔ f.contents.length + 1 = 2 ^ w ∧ ¬f.AtEnds := by
  have hpow : 2 ^ w ≤ 2 ^ 31 := Nat.pow_le_pow_right (by omega) (by omega)
  have hwr := f.wrPtr.isLt
  have hrd := f.rdPtr.isLt
  rw [← f.holds_contents.full_iff, full, decide_eq_true_iff, ← BitVec.toNat_inj,
    BitVec.toNat_add, BitVec.toNat_setWidth, BitVec.toNat_setWidth,
    Nat.mod_eq_of_lt (a := f.wrPtr.toNat) (by omega), Nat.mod_eq_of_lt (a := f.rdPtr.toNat) (by omega)]
  change (f.wrPtr.toNat + 1) % 2 ^ 32 = _ ↔ _
  rw [Nat.mod_eq_of_lt (by omega)]
  unfold AtEnds
  by_cases htop : f.wrPtr.toNat + 1 = 2 ^ w
  · rw [htop, Nat.mod_self]
    omega
  · rw [Nat.mod_eq_of_lt (by omega)]
    omega

theorem AtEnds.length (h : f.AtEnds) : f.contents.length + 1 = 2 ^ w := by
  rw [← f.holds_contents.full_iff, h.1, h.2, Nat.mod_self]

theorem succ_toNat (a : BitVec w) : (a + 1).toNat = (a.toNat + 1) % 2 ^ w := by
  rw [BitVec.toNat_add, show (1 : BitVec w) = BitVec.ofNat w 1 from rfl, BitVec.toNat_ofNat,
    Nat.add_mod_mod]

theorem head_eq {x : UInt8} {rest : List UInt8} (h : f.contents = x :: rest) :
    f.cells f.rdPtr = x := by
  have hholds := f.holds_contents
  rw [h] at hholds
  have hhead := hholds.head
  rwa [cell, BitVec.ofNat_toNat, BitVec.setWidth_eq] at hhead

theorem clock_cell (pushed : Option UInt8) (popped : Bool) :
    (f.clock pushed popped).cell =
      fun k => if BitVec.ofNat w k = f.wrPtr then pushed.getD (f.cell k) else f.cell k := rfl

theorem clock_popped {x : UInt8} {rest : List UInt8} (h : f.contents = x :: rest) :
    (f.clock none true).contents = rest := by
  have hholds := f.holds_contents
  rw [h] at hholds
  apply contents_of_holds
  have hpop := hholds.pop
  rw [← succ_toNat] at hpop
  have hcell : (f.clock none true).cell = f.cell := by
    funext k
    rw [clock_cell]
    simp
  rw [hcell]
  exact hpop

theorem clock_pushed (x : UInt8) (hroom : f.contents.length + 1 < 2 ^ w) :
    (f.clock (some x) false).contents = f.contents ++ [x] := by
  apply contents_of_holds
  have hpush := f.holds_contents.push hroom x
  rw [← succ_toNat] at hpush
  refine { hpush with cell := ?_ }
  intro k hk
  rw [← hpush.cell k hk, clock_cell]
  have hlt : (f.rdPtr.toNat + k) % 2 ^ w < 2 ^ w := Nat.mod_lt _ (Nat.two_pow_pos w)
  simp only [← BitVec.toNat_inj, BitVec.toNat_ofNat, Nat.mod_mod, Option.getD_some]
  rfl

theorem clock_idle : (f.clock none false).contents = f.contents := by
  apply contents_of_holds
  have hholds := f.holds_contents
  have hcell : (f.clock none false).cell = f.cell := by
    funext k
    rw [clock_cell]
    simp
  rw [hcell]
  exact hholds

theorem clock_both (y : UInt8) {x : UInt8} {rest : List UInt8} (h : f.contents = x :: rest) :
    (f.clock (some y) true).contents = rest ++ [y] := by
  have hlength := f.holds_contents.room
  rw [h, List.length_cons] at hlength
  have hrest := f.clock_popped h
  have hpushed := (f.clock none true).clock_pushed y (by rw [hrest]; exact hlength)
  rw [hrest] at hpushed
  have hclock : f.clock (some y) true = (f.clock none true).clock (some y) false := by
    simp [clock]
  rw [hclock, hpushed]

theorem clock_overflow (x : UInt8) (hfull : f.contents.length + 1 = 2 ^ w) :
    (f.clock (some x) false).contents = [] := by
  rw [← empty_iff, empty, decide_eq_true_iff]
  apply BitVec.eq_of_toNat_eq
  have hnext := f.holds_contents.full_iff.mpr hfull
  rw [← succ_toNat] at hnext
  exact hnext

/-- What a clock leaves, if it reads only when there is a byte and writes only when a cell is
free or the read frees one. -/
theorem clock_contents (pushed : Option UInt8) (popped : Bool)
    (hpop : popped = true → f.contents ≠ [])
    (hpush : pushed.isSome = true → popped = true ∨ f.contents.length + 1 < 2 ^ w) :
    (f.clock pushed popped).contents =
      (if popped then f.contents.tail else f.contents) ++ pushed.toList := by
  cases popped with
  | false =>
    cases pushed with
    | none =>
      rw [clock_idle]
      simp
    | some x =>
      have hroom := (hpush rfl).resolve_left (by decide)
      rw [f.clock_pushed x hroom]
      simp
  | true =>
    obtain ⟨x, rest, hcontents⟩ := List.exists_cons_of_ne_nil (hpop rfl)
    cases pushed with
    | none =>
      rw [f.clock_popped hcontents, hcontents]
      simp
    | some y =>
      rw [f.clock_both y hcontents, hcontents]
      simp

end Fifo

/-! One clock. -/

section
variable (u : WbUart w) (i : Cycle)

theorem rxPop_contents (h : u.rxPop i = true) : u.rx.contents ≠ [] := by
  unfold WbUart.rxPop at h
  rw [Bool.and_eq_true, Bool.not_eq_true'] at h
  intro hnil
  rw [(u.rx.empty_iff).mpr hnil] at h
  exact absurd h.2 (by decide)

theorem txPop_contents (h : u.txPop = true) : u.tx.contents ≠ [] := by
  unfold WbUart.txPop at h
  rw [Bool.and_eq_true, Bool.and_eq_true, Bool.not_eq_true', Bool.not_eq_true'] at h
  intro hnil
  rw [(u.tx.empty_iff).mpr hnil] at h
  exact absurd h.1.2 (by decide)

theorem room_of_not_full {f : Fifo w} (hw : w < 32) (hfull : f.full = false) (hends : ¬f.AtEnds) :
    f.contents.length + 1 < 2 ^ w := by
  have hroom := f.holds_contents.room
  have hiff := f.full_iff hw
  rw [hfull] at hiff
  have hne : f.contents.length + 1 ≠ 2 ^ w := fun h => absurd (hiff.mpr ⟨h, hends⟩) (by decide)
  omega

theorem rxPush_isSome :
    (u.rxPush i).isSome = true ↔ u.rx.full = false ∧ i.rxByte.isSome = true := by
  unfold WbUart.rxPush
  cases u.rx.full <;> simp

theorem txPush_isSome (h : (u.txPush i).isSome = true) : u.tx.full = false := by
  unfold WbUart.txPush at h
  split at h
  · rename_i hwrite
    rw [Bool.and_eq_true, Bool.not_eq_true'] at hwrite
    exact hwrite.2
  · cases h

theorem clock_rx (hrst : i.rst = false) : (u.clock i).rx = u.rx.clock (u.rxPush i) (u.rxPop i) := by
  rw [WbUart.clock, hrst]
  rfl

theorem clock_tx (hrst : i.rst = false) : (u.clock i).tx = u.tx.clock (u.txPush i) u.txPop := by
  rw [WbUart.clock, hrst]
  rfl

theorem rx_contents (hw : w < 32) (hclear : Clear u i) (hrst : i.rst = false) :
    (u.clock i).rx.contents =
      (if u.rxPop i then u.rx.contents.tail else u.rx.contents) ++ (u.rxPush i).toList := by
  rw [clock_rx u i hrst]
  apply u.rx.clock_contents _ _ (rxPop_contents u i)
  intro hpush
  obtain ⟨hfull, hbyte⟩ := (rxPush_isSome u i).mp hpush
  by_cases hends : u.rx.AtEnds
  · exact .inl (hclear.rx hrst hends hbyte)
  · exact .inr (room_of_not_full hw hfull hends)

theorem tx_contents (hw : w < 32) (hclear : Clear u i) (hrst : i.rst = false) :
    (u.clock i).tx.contents =
      (if u.txPop then u.tx.contents.tail else u.tx.contents) ++ (u.txPush i).toList := by
  rw [clock_tx u i hrst]
  apply u.tx.clock_contents _ _ (txPop_contents u)
  intro hpush
  by_cases hends : u.tx.AtEnds
  · exact .inl (hclear.tx hrst hends hpush)
  · exact .inr (room_of_not_full hw (txPush_isSome u i hpush) hends)

theorem datO_of_rxPop (hrst : i.rst = false) (h : u.rxPop i = true) :
    (u.clock i).datO.toUInt8 :: u.rx.contents.tail = u.rx.contents := by
  obtain ⟨x, rest, hcontents⟩ := List.exists_cons_of_ne_nil (rxPop_contents u i h)
  have hdatO : (u.clock i).datO = u.readOut i := by
    rw [WbUart.clock, hrst]
    rfl
  unfold WbUart.rxPop at h
  simp only [Bool.and_eq_true, decide_eq_true_eq, Bool.not_eq_true'] at h
  obtain ⟨⟨⟨hfire, hadr⟩, hwe⟩, hempty⟩ := h
  have hread : u.readOut i = x.toUInt32 := by
    unfold WbUart.readOut
    simp [hfire, hadr, hwe, hempty, u.rx.head_eq hcontents]
  rw [hdatO, hread, hcontents]
  simp

theorem inFlight_clock (hrst : i.rst = false) :
    (u.clock i).inFlight ++ (if u.txPop then u.tx.contents.tail else u.tx.contents) =
      u.tx.contents := by
  have hvalid : (u.clock i).txValid = u.txPop := by
    rw [WbUart.clock, hrst]
    rfl
  have hdata : (u.clock i).txData = if u.txPop then u.tx.cells u.tx.rdPtr else u.txData := by
    rw [WbUart.clock, hrst]
    rfl
  unfold WbUart.inFlight
  rw [hvalid, hdata]
  cases hpop : u.txPop with
  | false => simp
  | true =>
    obtain ⟨x, rest, hcontents⟩ := List.exists_cons_of_ne_nil (txPop_contents u hpop)
    simp [u.tx.head_eq hcontents, hcontents]

/-- The core is never busy when a byte is offered to it. -/
def Offers (u : WbUart w) : Prop := u.txValid = true → u.uart.busy = false

theorem clock_uart (hrst : i.rst = false) :
    (u.clock i).uart = u.uart.clock u.divisor u.txValid := by
  rw [WbUart.clock, hrst]
  rfl

theorem offers_clock : Offers (u.clock i) := by
  unfold Offers
  cases hrst : i.rst with
  | true =>
    intro hvalid
    rw [WbUart.clock, hrst] at hvalid
    cases hvalid
  | false =>
    intro hvalid
    have hpop : u.txPop = true := by
      rw [WbUart.clock, hrst] at hvalid
      exact hvalid
    unfold WbUart.txPop at hpop
    simp only [Bool.and_eq_true, Bool.not_eq_true'] at hpop
    obtain ⟨⟨hbusy, -⟩, hnone⟩ := hpop
    rw [clock_uart u i hrst, hnone]
    unfold UartTx.clock
    simp [hbusy]

end

/-! Runs. -/

variable {u : WbUart w}

theorem accounts_none (hrx : u.rx.wrPtr = u.rx.rdPtr) (htx : u.tx.wrPtr = u.tx.rdPtr)
    (hvalid : u.txValid = false) : Accounts (u, Ledger.none) where
  rx := by
    have hempty : u.rx.contents = [] := (u.rx.empty_iff).mp (decide_eq_true hrx)
    simp [Ledger.none, hempty]
  tx := by
    have hempty : u.tx.contents = [] := (u.tx.empty_iff).mp (decide_eq_true htx)
    simp [Ledger.none, hempty, WbUart.inFlight, hvalid]

variable {i : Cycle} {l : Ledger}

theorem note_rst (hrst : i.rst = true) : note u i l = .none := by
  rw [note, hrst]
  rfl

theorem note_run (hrst : i.rst = false) : (note u i l).kept = l.kept ++ (u.rxPush i).toList ∧
      (note u i l).delivered =
        (if u.rxPop i then l.delivered ++ [(u.clock i).datO.toUInt8] else l.delivered) ∧
      (note u i l).accepted = l.accepted ++ (u.txPush i).toList ∧
      (note u i l).sent =
        if !u.uart.busy && u.txValid then l.sent ++ [u.txData] else l.sent := by
  rw [note, hrst]
  exact ⟨rfl, rfl, rfl, rfl⟩

theorem note_sent (hrst : i.rst = false) (hoffers : Offers u) :
    (note u i l).sent = l.sent ++ u.inFlight := by
  rw [(note_run hrst).2.2.2]
  unfold WbUart.inFlight
  cases hvalid : u.txValid with
  | false => simp
  | true => simp [hoffers hvalid]

theorem accounts_clock (hw : w < 32) (h : Accounts (u, l)) (hoffers : Offers u)
    (hclear : Clear u i) : Accounts (u.clock i, note u i l) := by
  cases hrst : i.rst with
  | true =>
    rw [note_rst hrst]
    apply accounts_none <;> rw [WbUart.clock, hrst] <;> rfl
  | false =>
    obtain ⟨hkept, hdelivered, haccepted, -⟩ := note_run (u := u) (i := i) (l := l) hrst
    have hrx : l.kept = l.delivered ++ u.rx.contents := h.rx
    have htx : l.accepted = l.sent ++ u.inFlight ++ u.tx.contents := h.tx
    constructor
    · change (note u i l).kept = (note u i l).delivered ++ (u.clock i).rx.contents
      rw [hkept, hdelivered, rx_contents u i hw hclear hrst, hrx]
      cases hpop : u.rxPop i with
      | false => simp
      | true =>
        have hread := datO_of_rxPop u i hrst hpop
        calc l.delivered ++ u.rx.contents ++ (u.rxPush i).toList
            = l.delivered ++ ((u.clock i).datO.toUInt8 :: u.rx.contents.tail) ++
                (u.rxPush i).toList := by rw [hread]
          _ = _ := by simp
    · change (note u i l).accepted =
        (note u i l).sent ++ (u.clock i).inFlight ++ (u.clock i).tx.contents
      have hfed := inFlight_clock u i hrst
      rw [haccepted, note_sent hrst hoffers, tx_contents u i hw hclear hrst, htx]
      calc l.sent ++ u.inFlight ++ u.tx.contents ++ (u.txPush i).toList
          = l.sent ++ u.inFlight ++ ((u.clock i).inFlight ++
              if u.txPop then u.tx.contents.tail else u.tx.contents) ++
              (u.txPush i).toList := by rw [hfed]
        _ = _ := by simp

theorem overrun_clock (hrst : i.rst = false) : (u.clock i).rxOverrunSticky =
      if u.statusWrite i && i.dat &&& 0x10 ≠ 0 then false
      else u.rxOverrunSticky || (i.rxByte.isSome && u.rx.full) := by
  rw [WbUart.clock, hrst]
  rfl

theorem full_of_dropped (hbyte : i.rxByte.isSome = true) (hdrop : u.rxPush i = none) :
    u.rx.full = true := by
  cases hfull : u.rx.full with
  | true => rfl
  | false =>
    have hsome := (rxPush_isSome u i).mpr ⟨hfull, hbyte⟩
    rw [hdrop] at hsome
    cases hsome

theorem dropsFlagged_of_clear (hw : w < 32) (hclear : Clear u i) : DropsFlagged u i := by
  intro hrst hbyte hdrop
  have hfull := full_of_dropped hbyte hdrop
  refine ⟨((u.rx.full_iff hw).mp hfull).1, ?_⟩
  have hkeeps := hclear.flag hrst hbyte hfull
  rw [overrun_clock hrst, if_neg (by simpa using hkeeps), hbyte, hfull]
  simp

/-- A clock that is not clear loses a byte, or the flag of one. -/
theorem clear_of_faithful (hw : w < 32) (h : Accounts (u, l)) (hoffers : Offers u)
    (hfaithful : Faithful (u, l) i) : Clear u i := by
  obtain ⟨hnext, hflagged⟩ := hfaithful
  have hrx : l.kept = l.delivered ++ u.rx.contents := h.rx
  have htx : l.accepted = l.sent ++ u.inFlight ++ u.tx.contents := h.tx
  constructor
  · intro hrst hends hbyte
    have hfull : u.rx.full = false := by
      rw [← Bool.not_eq_true, u.rx.full_iff hw]
      exact fun h => h.2 hends
    obtain ⟨x, hpush⟩ := Option.isSome_iff_exists.mp ((rxPush_isSome u i).mpr ⟨hfull, hbyte⟩)
    refine Decidable.byContradiction fun hpop => ?_
    rw [Bool.not_eq_true] at hpop
    have hlost : (u.clock i).rx.contents = [] := by
      rw [clock_rx u i hrst, hpush, hpop]
      exact u.rx.clock_overflow x (Fifo.AtEnds.length u.rx hends)
    obtain ⟨hkept, hdelivered, -⟩ := note_run (u := u) (i := i) (l := l) hrst
    have haccounts : (note u i l).kept = (note u i l).delivered ++ (u.clock i).rx.contents :=
      hnext.rx
    rw [hkept, hdelivered, hlost, hpush, hpop, hrx] at haccounts
    have hlengths := congrArg List.length haccounts
    simp at hlengths
  · intro hrst hends hpush
    obtain ⟨x, hx⟩ := Option.isSome_iff_exists.mp hpush
    refine Decidable.byContradiction fun hpop => ?_
    rw [Bool.not_eq_true] at hpop
    have hlost : (u.clock i).tx.contents = [] := by
      rw [clock_tx u i hrst, hx, hpop]
      exact u.tx.clock_overflow x (Fifo.AtEnds.length u.tx hends)
    have hnone : (u.clock i).inFlight = [] := by
      have hfed := inFlight_clock u i hrst
      rw [hpop] at hfed
      simpa using hfed
    obtain ⟨-, -, haccepted, -⟩ := note_run (u := u) (i := i) (l := l) hrst
    have haccounts : (note u i l).accepted =
        (note u i l).sent ++ (u.clock i).inFlight ++ (u.clock i).tx.contents := hnext.tx
    rw [haccepted, note_sent hrst hoffers, hlost, hnone, hx, htx] at haccounts
    have hlengths := congrArg List.length haccounts
    simp at hlengths
  · intro hrst hbyte hfull hcleared
    have hdrop : u.rxPush i = none := by
      rw [WbUart.rxPush, if_pos hfull]
    have hflag := (hflagged hrst hbyte hdrop).2
    rw [overrun_clock hrst, if_pos (by simpa using hcleared)] at hflag
    cases hflag

/-- What every clear clock keeps. -/
structure Inv (p : WbUart w × Ledger) : Prop where
  accounts : Accounts p
  offers : Offers p.1

variable {p : WbUart w × Ledger}

theorem inv_clock (hw : w < 32) (h : Inv p) (hclear : Clear p.1 i) :
    Inv (observed WbUart.clock note p i) where
  accounts := accounts_clock hw h.accounts h.offers hclear
  offers := offers_clock p.1 i

theorem inv_powerUp (hu : u.PowerUp) : Inv (u, Ledger.none) where
  accounts := by
    obtain ⟨hrxWr, hrxRd, htxWr, htxRd, hvalid, -⟩ := hu
    exact accounts_none (hrxWr.trans hrxRd.symm) (htxWr.trans htxRd.symm) hvalid
  offers := fun _ => hu.2.2.2.2.2

theorem faithful_iff_clear (hw : w < 32) (h : Inv p) : Faithful p i ↔ Clear p.1 i := by
  constructor
  · exact clear_of_faithful hw h.accounts h.offers
  · intro hclear
    exact ⟨(inv_clock hw h hclear).accounts, dropsFlagged_of_clear hw hclear⟩

/-! The core becomes ready again, so that every byte is sent in the end. -/

/-- The core counts the bits of a frame down to one. -/
def Counts (u : WbUart w) : Prop :=
  u.uart.busy = true → 1 ≤ u.uart.bitCount.toNat ∧ u.uart.bitCount.toNat ≤ 10

/-- At most this many clocks until the core has taken the next byte. -/
def coreRank (u : WbUart w) : Nat :=
  if u.uart.busy then 2 + (u.uart.bitCount.toNat * 2 ^ 20 - u.uart.counter.toNat)
  else if u.txValid then 0 else 1

/-- A frame takes at most this many clocks. -/
def frameTime : Nat := 10 * 2 ^ 20 + 3

theorem coreRank_lt (h : Counts u) : coreRank u < frameTime := by
  unfold coreRank frameTime
  cases hbusy : u.uart.busy with
  | true =>
    have hbits := (h hbusy).2
    simp only [↓reduceIte]
    omega
  | false => cases u.txValid <;> simp

theorem uart_busy_clock {c : UartTx} (divisor : BitVec 20) (valid : Bool) (hbusy : c.busy = true)
    (hlow : 1 ≤ c.bitCount.toNat) (hhigh : c.bitCount.toNat ≤ 10) :
    ((c.clock divisor valid).busy = true → 1 ≤ (c.clock divisor valid).bitCount.toNat ∧
      (c.clock divisor valid).bitCount.toNat ≤ 10 ∧
      (c.clock divisor valid).bitCount.toNat * 2 ^ 20 - (c.clock divisor valid).counter.toNat <
        c.bitCount.toNat * 2 ^ 20 - c.counter.toNat) := by
  have hcounter := c.counter.isLt
  unfold UartTx.clock
  simp only [hbusy, Bool.not_true, Bool.false_and, Bool.false_eq_true, ↓reduceIte]
  generalize (if divisor ≠ 0 then divisor else 1) = bitDivisor
  by_cases hend : bitDivisor - 1 ≤ c.counter
  · rw [if_pos hend]
    intro hmore
    have hne : c.bitCount ≠ 1 := of_decide_eq_true hmore
    have hone : c.bitCount.toNat ≠ 1 := fun h => hne (BitVec.eq_of_toNat_eq h)
    have hnext : (c.bitCount - 1).toNat = c.bitCount.toNat - 1 := by
      rw [BitVec.toNat_sub]
      have hbits := c.bitCount.isLt
      change (2 ^ 4 - 1 + c.bitCount.toNat) % 2 ^ 4 = _
      omega
    have hzero : (0 : BitVec 20).toNat = 0 := rfl
    simp only [hnext, hzero]
    omega
  · rw [if_neg hend]
    intro _
    have hlt : c.counter.toNat < (bitDivisor - 1).toNat := by
      rw [BitVec.le_def] at hend
      omega
    have hdivisor := (bitDivisor - 1).isLt
    have hnext : (c.counter + 1).toNat = c.counter.toNat + 1 := by
      rw [BitVec.toNat_add]
      change (c.counter.toNat + 1) % 2 ^ 20 = _
      omega
    simp only [hnext]
    omega

theorem uart_idle_clock {c : UartTx} (divisor : BitVec 20) (valid : Bool)
    (hbusy : c.busy = false) :
    c.clock divisor valid =
      if valid then { busy := true, bitCount := 10, counter := 0 } else c := by
  unfold UartTx.clock
  cases valid <;> simp [hbusy]

theorem counts_clock (h : Counts u) (i : Cycle) : Counts (u.clock i) := by
  unfold Counts
  cases hrst : i.rst with
  | true =>
    intro hbusy
    rw [WbUart.clock, hrst] at hbusy
    cases hbusy
  | false =>
    rw [clock_uart u i hrst]
    intro hbusy
    cases hcore : u.uart.busy with
    | true =>
      obtain ⟨hlow, hhigh⟩ := h hcore
      have hnext := uart_busy_clock u.divisor u.txValid hcore hlow hhigh hbusy
      exact ⟨hnext.1, hnext.2.1⟩
    | false =>
      rw [uart_idle_clock _ _ hcore] at hbusy ⊢
      cases hvalid : u.txValid with
      | false =>
        rw [hvalid] at hbusy
        rw [if_neg (by decide), hcore] at hbusy
        cases hbusy
      | true =>
        rw [if_pos rfl]
        decide

/-- How far the ledger is from a number of bytes sent. -/
def sendRank (target : Nat) (p : WbUart w × Ledger) : Nat :=
  (target - p.2.sent.length) * frameTime + coreRank p.1

theorem txValid_clock (hrst : i.rst = false) : (u.clock i).txValid = u.txPop := by
  rw [WbUart.clock, hrst]
  rfl

/-- Each clock brings the next byte nearer to being sent, as long as one is waiting. -/
theorem sendRank_clock (hrst : i.rst = false) (h : Inv p) (hcounts : Counts p.1) {target : Nat}
    (htarget : target ≤ p.2.accepted.length) (hwaiting : p.2.sent.length < target) :
    sendRank target (observed WbUart.clock note p i) < sendRank target p := by
  obtain ⟨u, l⟩ := p
  change Counts u at hcounts
  change target ≤ l.accepted.length at htarget
  change l.sent.length < target at hwaiting
  have hsent : (note u i l).sent = l.sent ++ u.inFlight := note_sent hrst h.offers
  have hvalid' : (u.clock i).txValid = u.txPop := txValid_clock hrst
  have huart := clock_uart u i hrst
  unfold sendRank observed
  simp only
  rw [hsent]
  cases hbusy : u.uart.busy with
  | true =>
    have hvalid : u.txValid = false := by
      cases hvalid : u.txValid with
      | false => rfl
      | true =>
        have hidle := h.offers hvalid
        rw [hbusy] at hidle
        cases hidle
    have hpop : u.txPop = false := by simp [WbUart.txPop, hbusy]
    obtain ⟨hlow, hhigh⟩ := hcounts hbusy
    have hnext := uart_busy_clock u.divisor u.txValid hbusy hlow hhigh
    rw [← huart] at hnext
    have hflight : u.inFlight = [] := by simp [WbUart.inFlight, hvalid]
    have hcore : coreRank u = 2 + (u.uart.bitCount.toNat * 2 ^ 20 - u.uart.counter.toNat) := by
      simp [coreRank, hbusy]
    have hcounter := u.uart.counter.isLt
    have hcore' : coreRank (u.clock i) < coreRank u := by
      rw [hcore]
      cases hbusy' : (u.clock i).uart.busy with
      | true =>
        have hlower := (hnext hbusy').2.2
        simp only [coreRank, hbusy', ↓reduceIte]
        omega
      | false =>
        simp only [coreRank, hbusy', hvalid', hpop, Bool.false_eq_true, ↓reduceIte]
        omega
    rw [hflight, List.append_nil]
    omega
  | false =>
    have hidle := uart_idle_clock u.divisor u.txValid hbusy
    rw [← huart] at hidle
    cases hvalid : u.txValid with
    | true =>
      rw [hvalid, if_pos rfl] at hidle
      have hlength : (l.sent ++ u.inFlight).length = l.sent.length + 1 := by
        simp [WbUart.inFlight, hvalid]
      have hcore' : coreRank (u.clock i) < frameTime := coreRank_lt (counts_clock hcounts i)
      rw [hlength]
      have hless : target - l.sent.length = target - (l.sent.length + 1) + 1 := by omega
      rw [hless, Nat.add_mul, Nat.one_mul]
      omega
    | false =>
      rw [hvalid, if_neg (by decide)] at hidle
      have hflight : u.inFlight = [] := by simp [WbUart.inFlight, hvalid]
      have haccounts : l.accepted = l.sent ++ u.inFlight ++ u.tx.contents := h.accounts.tx
      have hsome : u.tx.contents ≠ [] := by
        intro hnil
        rw [hflight, hnil] at haccounts
        have hlengths := congrArg List.length haccounts
        simp at hlengths
        omega
      have hempty : u.tx.empty = false := by
        rw [← Bool.not_eq_true, u.tx.empty_iff]
        exact hsome
      have hpop : u.txPop = true := by simp [WbUart.txPop, hbusy, hvalid, hempty]
      have hcore : coreRank u = 1 := by simp [coreRank, hbusy, hvalid]
      have hcore' : coreRank (u.clock i) = 0 := by
        simp [coreRank, hidle, hbusy, hvalid', hpop]
      rw [hflight, List.append_nil, hcore, hcore']
      omega

theorem note_grows (hrst : i.rst = false) :
    l.accepted <+: (note u i l).accepted ∧ l.sent.length ≤ (note u i l).sent.length := by
  obtain ⟨-, -, haccepted, hsent⟩ := note_run (u := u) (i := i) (l := l) hrst
  rw [haccepted, hsent]
  constructor
  · exact List.prefix_append _ _
  · split
    · simp
    · exact Nat.le_refl _

theorem run_sends (hw : w < 32) {more : List Cycle} (h : Inv p) (hcounts : Counts p.1)
    (hrst : ∀ i ∈ more, i.rst = false) (hclear : Along WbUart.clock Clear p.1 more) {target : Nat}
    (htarget : target ≤ p.2.accepted.length)
    (htime : p.2.sent.length < target → sendRank target p ≤ more.length) :
    let q := run (observed WbUart.clock note) p more
    p.2.accepted <+: q.2.accepted ∧ target ≤ q.2.sent.length ∧ Inv q := by
  induction more generalizing p with
  | nil =>
    refine ⟨List.prefix_refl _, ?_, h⟩
    refine Decidable.byContradiction fun hless => ?_
    have hwaiting : p.2.sent.length < target := Nat.lt_of_not_le hless
    have hzero := htime hwaiting
    unfold sendRank frameTime at hzero
    rw [List.length_nil] at hzero
    have hone : 1 ≤ target - p.2.sent.length := by omega
    have hmul := Nat.mul_le_mul_right (10 * 2 ^ 20 + 3) hone
    omega
  | cons i more ih =>
    have hrst' := hrst i List.mem_cons_self
    have hgrows := note_grows (u := p.1) (i := i) (l := p.2) hrst'
    have hnext := ih (p := observed WbUart.clock note p i) (inv_clock hw h hclear.1)
      (counts_clock hcounts i) (fun j hj => hrst j (List.mem_cons_of_mem _ hj)) hclear.2
      (Nat.le_trans htarget hgrows.1.length_le) (by
        intro hwaiting
        have hbefore : p.2.sent.length < target := Nat.lt_of_le_of_lt hgrows.2 hwaiting
        have hlower := sendRank_clock hrst' h hcounts htarget hbefore
        have hall := htime hbefore
        rw [List.length_cons] at hall
        omega)
    exact ⟨hgrows.1.trans hnext.1, hnext.2⟩

/-- A run loses no byte silently exactly when all of its clocks are clear; and then every byte
that was accepted is sent within a frame's time for each byte that waits. -/
theorem faithful_iff (w : Nat) (u : WbUart w) (hw : w < 32) (hu : u.PowerUp) :
    (∀ events, Along (observed WbUart.clock note) Faithful (u, .none) events ↔
      Along WbUart.clock Clear u events) ∧
    ∀ events more, Along WbUart.clock Clear u (events ++ more) → (∀ i ∈ more, i.rst = false) →
      (2 ^ w + 1) * frameTime ≤ more.length →
      (run (observed WbUart.clock note) (u, .none) events).2.accepted <+:
        (run (observed WbUart.clock note) (u, .none) (events ++ more)).2.sent := by
  constructor
  · intro events
    rw [← along_observed note u Ledger.none events]
    exact along_iff_of_inv Inv (fun p i h hclear => inv_clock hw h hclear)
      (fun p i h => faithful_iff_clear hw h) (inv_powerUp hu)
  · intro events more hclear hrst htime
    have hclear' := (along_observed note u Ledger.none (events ++ more)).mpr hclear
    have hpast : Along (observed WbUart.clock note) (fun p i => Clear p.1 i) (u, .none) events := by
      rw [along_observed]
      exact hclear.of_append_left
    have hboth (p : WbUart w × Ledger) (i : Cycle) (h : Inv p ∧ Counts p.1) (hc : Clear p.1 i) :
        Inv (observed WbUart.clock note p i) ∧ Counts (observed WbUart.clock note p i).1 :=
      ⟨inv_clock hw h.1 hc, counts_clock h.2 i⟩
    have hidle : Counts u := by
      intro hbusy
      rw [hu.2.2.2.2.2] at hbusy
      cases hbusy
    obtain ⟨hinv, hcounts⟩ := run_inv hboth ⟨inv_powerUp hu, hidle⟩ hpast
    have hrest := Along.of_append hclear'
    have hconcat : run (observed WbUart.clock note) (u, Ledger.none) (events ++ more) =
        run (observed WbUart.clock note)
          (run (observed WbUart.clock note) (u, Ledger.none) events) more := by
      rw [run, List.foldl_append]
      rfl
    rw [hconcat]
    generalize run (observed WbUart.clock note) (u, Ledger.none) events = p at hinv hcounts hrest ⊢
    have hunsent : p.2.accepted.length - p.2.sent.length ≤ 2 ^ w := by
      have hlength := congrArg List.length hinv.accounts.tx
      have hroom := p.1.tx.holds_contents.room
      have hflight : p.1.inFlight.length ≤ 1 := by
        unfold WbUart.inFlight
        split <;> simp
      rw [List.length_append, List.length_append] at hlength
      omega
    have hsends := run_sends hw hinv hcounts hrst ((along_observed note p.1 p.2 more).mp hrest)
      (Nat.le_refl _) (by
        intro _
        have hcore := coreRank_lt hcounts
        have hmul := Nat.mul_le_mul_right frameTime hunsent
        rw [Nat.add_mul, Nat.one_mul] at htime
        unfold sendRank
        omega)
    obtain ⟨hgrows, hlength, hafter⟩ := hsends
    refine List.prefix_of_prefix_length_le hgrows ?_ hlength
    rw [hafter.accounts.tx, List.append_assoc]
    exact List.prefix_append _ _

/-- The UART with the default depth, after power-up. -/
def atPowerUp : WbUart 4 where
  rx := ⟨fun _ => 0, 0, 0⟩
  tx := ⟨fun _ => 0, 0, 0⟩
  rxOverrunSticky := false
  rxFrameSticky := false
  prescale := DEFAULT_PRESCALE
  txData := 0
  txValid := false
  validD := false
  ack := false
  datO := 0
  uart := ⟨false, 0, 0⟩

/-- A clock without a bus access in which a byte is received. -/
def receives (b : UInt8) : Cycle := ⟨false, false, 0, 0, false, false, false, some b, false⟩

/-- A byte is received and read, with an idle clock between the accesses. -/
theorem faithful_iff_one :
    Along (observed WbUart.clock note) Faithful (atPowerUp, .none)
      [receives 0x41, ⟨false, true, 0, 0, true, true, false, none, false⟩] ∧
    (run (observed WbUart.clock note) (atPowerUp, Ledger.none)
      [receives 0x41, ⟨false, true, 0, 0, true, true, false, none, false⟩]).2.delivered =
        [0x41] := by
  refine ⟨((faithful_iff 4 atPowerUp (by decide) ⟨rfl, rfl, rfl, rfl, rfl, rfl⟩).1 _).mpr ?_, rfl⟩
  refine ⟨⟨?_, ?_, ?_⟩, ⟨?_, ?_, ?_⟩, trivial⟩ <;> decide

/-- Sixteen bytes that nobody reads: the FIFO is empty afterwards and no overrun is flagged. -/
theorem sixteen_lost :
    let q := run (observed WbUart.clock note) (atPowerUp, Ledger.none)
      (List.replicate 16 (receives 0x41))
    q.2.kept.length = 16 ∧ q.2.delivered = [] ∧ q.1.rx.empty = true ∧
      q.1.rxOverrunSticky = false ∧
      ¬Along (observed WbUart.clock note) Faithful (atPowerUp, .none)
        (List.replicate 16 (receives 0x41)) := by
  refine ⟨by decide, by decide, by decide, by decide, ?_⟩
  intro h
  have hsixteen : List.replicate 16 (receives 0x41) =
      List.replicate 15 (receives 0x41) ++ receives 0x41 :: [] := rfl
  rw [hsixteen] at h
  have hlast := h.at_run
  have hlengths := congrArg List.length hlast.1.rx
  exact absurd hlengths (by decide)

end NodeNet.UartFifos

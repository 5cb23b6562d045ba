import Mathlib
import NodeNet.Lib.Machine

/-! A UART transmitter wired to a receiver: which divisors bring every byte across. -/
namespace NodeNet.UartLoop
open NodeNet.Machine

def bitDivisor (divisor : BitVec 20) : BitVec 20 := if divisor ≠ 0 then divisor else 1

/-- The transmit side. -/
structure Tx where
  shift : BitVec 10
  counter : BitVec 20
  busy : Bool
  bitCount : BitVec 4

namespace Tx

def reset : Tx := ⟨0x3FF, 0, false, 0⟩

/-- `tx_o`. -/
def line (t : Tx) : Bool := t.shift.getLsbD 0

def clock (divisor : BitVec 20) (t : Tx) (request : Option (BitVec 8)) : Tx :=
  if t.busy then
    if bitDivisor divisor - 1 ≤ t.counter then
      { shift := 1#1 ++ t.shift.extractLsb' 1 9
        counter := 0
        busy := t.bitCount ≠ 1
        bitCount := t.bitCount - 1 }
    else { t with counter := t.counter + 1 }
  else
    match request with
    | some data => ⟨1#1 ++ data ++ 0#1, 0, true, 10⟩
    | none => t

variable {divisor : BitVec 20} {t : Tx} {request : Option (BitVec 8)}

theorem clock_shift (h : t.busy = true) (hc : bitDivisor divisor - 1 ≤ t.counter) :
    t.clock divisor request =
      ⟨1#1 ++ t.shift.extractLsb' 1 9, 0, t.bitCount ≠ 1, t.bitCount - 1⟩ := by
  rw [clock.eq_def, if_pos h, if_pos hc]

theorem clock_count (h : t.busy = true) (hc : ¬bitDivisor divisor - 1 ≤ t.counter) :
    t.clock divisor request = { t with counter := t.counter + 1 } := by
  rw [clock.eq_def, if_pos h, if_neg hc]

theorem clock_load (h : t.busy = false) {data : BitVec 8} :
    t.clock divisor (some data) = ⟨1#1 ++ data ++ 0#1, 0, true, 10⟩ := by
  simp [clock, h]

theorem clock_idle (h : t.busy = false) : t.clock divisor none = t := by
  simp [clock, h]

end Tx

/-- The receive side, with the two registers of its synchroniser. -/
structure Rx where
  sync1 : Bool
  sync2 : Bool
  prev : Bool
  shift : BitVec 8
  counter : BitVec 20
  bitCount : BitVec 4
  busy : Bool
  data : BitVec 8
  valid : Bool
  frameError : Bool

def setBit (v : BitVec 8) (n : Nat) (x : Bool) : BitVec 8 :=
  if x then v ||| (1#8 <<< n) else v &&& ~~~(1#8 <<< n)

namespace Rx

def reset : Rx := ⟨true, true, true, 0, 0, 0, false, 0, false, false⟩

def clock (divisor : BitVec 20) (r : Rx) (line : Bool) : Rx :=
  let r' : Rx := { r with
    sync1 := line
    sync2 := r.sync1
    prev := r.sync2
    valid := false
    frameError := false }
  if !r.busy && !r.sync2 && r.prev then
    { r' with
      counter := bitDivisor divisor + bitDivisor divisor >>> 1 - 1
      bitCount := 0
      busy := true }
  else if r.busy then
    if r.counter = 0 then
      if r.bitCount < 8 then
        { r' with
          shift := setBit r.shift r.bitCount.toNat r.sync2
          bitCount := r.bitCount + 1
          counter := bitDivisor divisor - 1 }
      else if r.sync2 then
        { r' with busy := false, data := r.shift, valid := true, prev := true }
      else { r' with busy := false, frameError := true, prev := true }
    else { r' with counter := r.counter - 1 }
  else r'

end Rx

/-- The two sides, and the line between them. -/
structure Pair where
  tx : Tx
  rx : Rx

namespace Pair

def reset : Pair := ⟨.reset, .reset⟩

/-- A clock, with `tx_valid` and its data. -/
def clock (divisor : BitVec 20) (p : Pair) (request : Option (BitVec 8)) : Pair where
  tx := p.tx.clock divisor request
  rx := p.rx.clock divisor p.tx.line

end Pair

/-- The bytes that the transmitter took and that the receiver emitted, and its frame errors. -/
structure Ledger where
  sent : List (BitVec 8)
  emitted : List (BitVec 8)
  errors : Nat

def Ledger.none : Ledger := ⟨[], [], 0⟩

def note (divisor : BitVec 20) (p : Pair) (request : Option (BitVec 8)) (l : Ledger) : Ledger where
  sent := if p.tx.busy then l.sent else l.sent ++ request.toList
  emitted :=
    if (p.clock divisor request).rx.valid then l.emitted ++ [(p.clock divisor request).rx.data]
    else l.emitted
  errors := if (p.clock divisor request).rx.frameError then l.errors + 1 else l.errors

/-- A request is made only when `tx_ready` is up. -/
def Respects (p : Pair) (request : Option (BitVec 8)) : Prop :=
  request.isSome = true → p.tx.busy = false

def after (divisor : BitVec 20) (requests : List (Option (BitVec 8))) : Pair × Ledger :=
  run (observed (Pair.clock divisor) (note divisor)) (.reset, .none) requests

/-- The receiver emits the bytes that the transmitter took, in order, without a frame error, and
has emitted them all some time after the last request. -/
structure LoopsBack (divisor : BitVec 20) : Prop where
  emits : ∀ requests, Along (Pair.clock divisor) Respects .reset requests →
    (after divisor requests).2.emitted <+: (after divisor requests).2.sent ∧
      (after divisor requests).2.errors = 0
  all : ∀ requests idle, Along (Pair.clock divisor) Respects .reset requests →
    10 * divisor.toNat + 3 < idle →
    (after divisor (requests ++ List.replicate idle none)).2.emitted =
      (after divisor requests).2.sent

/-! The frame on the line. -/

/-- The bits of a frame in the order they are sent; behind the stop bit the line is idle. -/
def frameBit (b : BitVec 8) (k : Nat) : Bool :=
  if k = 0 then false else if k ≤ 8 then b.getLsbD (k - 1) else true

theorem frameBit_stop {b : BitVec 8} {k : Nat} (h : 9 ≤ k) : frameBit b k = true := by
  rw [frameBit, if_neg (by omega), if_neg (by omega)]

theorem frame_getLsbD (b : BitVec 8) {j : Nat} (hj : j < 10) :
    (1#1 ++ b ++ 0#1 : BitVec 10).getLsbD j = frameBit b j := by
  have h : (1#1 ++ b ++ 0#1 : BitVec 10).getLsbD j =
      if j < 1 then (0#1).getLsbD j else (1#1 ++ b : BitVec 9).getLsbD (j - 1) :=
    BitVec.getLsbD_append
  have hb : (1#1 ++ b : BitVec 9).getLsbD (j - 1) =
      if j - 1 < 8 then b.getLsbD (j - 1) else (1#1).getLsbD (j - 1 - 8) :=
    BitVec.getLsbD_append
  rw [h, hb, frameBit]
  by_cases h0 : j = 0
  · simp [h0]
  · by_cases h8 : j ≤ 8
    · simp [h0, h8, show j - 1 < 8 by omega]
    · simp [show j = 9 by omega]

theorem shifted_getLsbD (s : BitVec 10) {j : Nat} (hj : j < 10) :
    (1#1 ++ s.extractLsb' 1 9 : BitVec 10).getLsbD j =
      if j < 9 then s.getLsbD (j + 1) else true := by
  have h : (1#1 ++ s.extractLsb' 1 9 : BitVec 10).getLsbD j =
      if j < 9 then (s.extractLsb' 1 9).getLsbD j else (1#1).getLsbD (j - 9) :=
    BitVec.getLsbD_append
  rw [h]
  by_cases h9 : j < 9
  · simp [h9, Nat.add_comm]
  · simp [show j = 9 by omega]

theorem setBit_getLsbD (v : BitVec 8) {n j : Nat} (x : Bool) (hn : n < 8) (hj : j < 8) :
    (setBit v n x).getLsbD j = if j = n then x else v.getLsbD j := by
  unfold setBit
  rcases Nat.lt_trichotomy j n with h | h | h
  · cases x <;> simp [hj, h, Nat.ne_of_lt h]
  · cases x <;> simp [hn, h]
  · cases x <;> simp [hj, show ¬j < n by omega, show j ≠ n by omega, show j - n ≠ 0 by omega]

/-! The transmitter some clocks after it took a byte. -/

structure Tx.Sends (period : Nat) (b : BitVec 8) (age : Nat) (t : Tx) : Prop where
  shift : ∀ j < 10, t.shift.getLsbD j = frameBit b (age / period + j)
  busy : t.busy = decide (age < 10 * period)
  within : age < 10 * period →
    t.counter.toNat = age % period ∧ t.bitCount.toNat + age / period = 10

namespace Tx.Sends
variable {divisor : BitVec 20} {period age : Nat} {b : BitVec 8} {t : Tx}

theorem line (h : t.Sends period b age) : t.line = frameBit b (age / period) :=
  h.shift 0 (by omega)

theorem reset (b : BitVec 8) (hp : 0 < period) : Tx.reset.Sends period b (10 * period) where
  shift j hj := by
    rw [Nat.mul_div_cancel _ hp, frameBit_stop (by omega)]
    have h : ∀ j < 10, (0x3FF#10).getLsbD j = true := by decide
    exact h j hj
  busy := by simp [Tx.reset]
  within h := absurd h (Nat.lt_irrefl _)

theorem load (hp : 0 < period) (h : t.busy = false) :
    (t.clock divisor (some b)).Sends period b 0 := by
  rw [Tx.clock_load h]
  constructor
  · intro j hj
    rw [Nat.zero_div, Nat.zero_add]
    exact frame_getLsbD b hj
  · simp [hp]
  · simp

theorem age_next (h0 : 0 < period) (age : Nat) :
    (age % period = period - 1 ∧ (age + 1) / period = age / period + 1 ∧
      (age + 1) % period = 0) ∨
    (age % period < period - 1 ∧ (age + 1) / period = age / period ∧
      (age + 1) % period = age % period + 1) := by
  have hlt : age % period < period := Nat.mod_lt _ h0
  have hage : period * (age / period) + age % period = age := Nat.div_add_mod age period
  by_cases h : age % period = period - 1
  · have he : age + 1 = period * (age / period + 1) := by
      rw [Nat.mul_add]
      omega
    refine Or.inl ⟨h, ?_, ?_⟩
    · rw [he, Nat.mul_div_cancel_left _ h0]
    · rw [he, Nat.mul_mod_right]
  · have he : age + 1 = age % period + 1 + period * (age / period) := by omega
    have hs : age % period + 1 < period := by omega
    refine Or.inr ⟨by omega, ?_, ?_⟩
    · rw [he, Nat.add_mul_div_left _ _ h0, Nat.div_eq_of_lt hs, Nat.zero_add]
    · rw [he, Nat.add_mul_mod_self_left, Nat.mod_eq_of_lt hs]

theorem clock (hp : (bitDivisor divisor).toNat = period) (h0 : 0 < period)
    (h : t.Sends period b age) : (t.clock divisor none).Sends period b (age + 1) := by
  have hone : (bitDivisor divisor - 1).toNat = period - 1 := by
    rw [BitVec.toNat_sub_of_le (by rw [BitVec.le_def]; simp; omega), hp]
    rfl
  by_cases hbusy : age < 10 * period
  · have hbusy' : t.busy = true := by rw [h.busy, decide_eq_true hbusy]
    obtain ⟨hcounter, hcount⟩ := h.within hbusy
    have hsize : age / period < 10 := (Nat.div_lt_iff_lt_mul h0).mpr hbusy
    rcases age_next h0 age with ⟨hlast, hdiv, hmod⟩ | ⟨hlast, hdiv, hmod⟩
    · rw [Tx.clock_shift hbusy' (by rw [BitVec.le_def, hone, hcounter]; omega)]
      have hone' : t.bitCount = 1 ↔ ¬age + 1 < 10 * period := by
        rw [← Nat.div_lt_iff_lt_mul h0, hdiv, ← BitVec.toNat_inj]
        simp
        omega
      constructor
      · intro j hj
        rw [hdiv]
        change (1#1 ++ t.shift.extractLsb' 1 9 : BitVec 10).getLsbD j = _
        rw [shifted_getLsbD _ hj]
        by_cases h9 : j < 9
        · rw [if_pos h9, h.shift _ (by omega), Nat.add_right_comm, Nat.add_assoc]
        · rw [if_neg h9, frameBit_stop (Nat.le_trans (Nat.le_of_not_lt h9) (Nat.le_add_left _ _))]
      · change decide (t.bitCount ≠ 1) = decide _
        rw [decide_eq_decide, Ne, hone', Decidable.not_not]
      · intro hnext
        have hpos : t.bitCount ≠ 1 := fun e => hone'.mp e hnext
        have hnext' := (Nat.div_lt_iff_lt_mul h0).mpr hnext
        refine ⟨by simp [hmod], ?_⟩
        change (t.bitCount - 1).toNat + _ = 10
        rw [BitVec.toNat_sub_of_le (by rw [BitVec.le_def]; simp; omega), hdiv]
        simp
        omega
    · rw [Tx.clock_count hbusy' (by rw [BitVec.le_def, hone, hcounter]; omega)]
      have hnext : age + 1 < 10 * period := by
        rw [← Nat.div_lt_iff_lt_mul h0, hdiv]
        exact hsize
      constructor
      · intro j hj
        rw [hdiv]
        exact h.shift j hj
      · change t.busy = _
        rw [hbusy', decide_eq_true hnext]
      · intro _
        refine ⟨?_, by rw [hdiv]; exact hcount⟩
        change (t.counter + 1).toNat = _
        have := (bitDivisor divisor).isLt
        rw [BitVec.toNat_add, hcounter, hmod]
        simp
        omega
  · have hidle : t.busy = false := by rw [h.busy, decide_eq_false hbusy]
    rw [Tx.clock_idle hidle]
    have hten : 10 ≤ age / period := (Nat.le_div_iff_mul_le h0).mpr (by omega)
    have hten' : 10 ≤ (age + 1) / period := (Nat.le_div_iff_mul_le h0).mpr (by omega)
    constructor
    · intro j hj
      rw [h.shift j hj, frameBit_stop (by omega), frameBit_stop (by omega)]
    · rw [hidle, decide_eq_false (by omega)]
    · intro hlate
      omega

end Tx.Sends

/-! The receiver some clocks after the transmitter took a byte. -/

/-- The line behind some registers of the synchroniser. -/
def seen (period : Nat) (b : BitVec 8) (delay age : Nat) : Bool :=
  if age < delay then true else frameBit b ((age - delay) / period)

theorem seen_succ (period : Nat) (b : BitVec 8) (delay age : Nat) :
    seen period b (delay + 1) (age + 1) = seen period b delay age := by
  simp [seen]

/-- A sample comes every bit time, the first some clocks after the start edge went by. -/
structure Rx.Hears (period first : Nat) (b : BitVec 8) (age : Nat) (r : Rx) : Prop where
  sync1 : r.sync1 = seen period b 1 age
  sync2 : r.sync2 = seen period b 2 age
  before : age ≤ 2 → r.busy = false ∧ r.prev = true
  since : 2 < age → r.busy = true ∧ r.bitCount.toNat ≤ 8 ∧
    age + r.counter.toNat = 2 + first + r.bitCount.toNat * period ∧
    ∀ j < r.bitCount.toNat, r.shift.getLsbD j = frameBit b (j + first / period)

/-- No frame is being received. -/
structure Rx.Quiet (r : Rx) : Prop where
  sync1 : r.sync1 = true
  sync2 : r.sync2 = true
  prev : r.prev = true
  busy : r.busy = false

def firstSample (divisor : BitVec 20) : Nat :=
  (bitDivisor divisor + bitDivisor divisor >>> 1 - 1).toNat + 1

def lastSample (divisor : BitVec 20) : Nat :=
  2 + firstSample divisor + 8 * (bitDivisor divisor).toNat

namespace Rx
variable {divisor : BitVec 20} {r : Rx} {line : Bool}

theorem clock_quiet (h : r.busy = false) (hs : r.sync2 = true) :
    r.clock divisor line =
      { r with
        sync1 := line, sync2 := r.sync1, prev := true, valid := false, frameError := false } := by
  simp [clock, h, hs]

theorem clock_start (h : r.busy = false) (hs : r.sync2 = false) (hp : r.prev = true) :
    r.clock divisor line =
      { r with
        sync1 := line, sync2 := r.sync1, prev := false, valid := false, frameError := false
        counter := bitDivisor divisor + bitDivisor divisor >>> 1 - 1
        bitCount := 0, busy := true } := by
  simp [clock, h, hs, hp]

theorem clock_wait (h : r.busy = true) (hc : r.counter ≠ 0) :
    r.clock divisor line =
      { r with
        sync1 := line, sync2 := r.sync1, prev := r.sync2, valid := false, frameError := false
        counter := r.counter - 1 } := by
  unfold clock
  simp only [h, Bool.not_true, Bool.false_and, Bool.false_eq_true, if_false, if_true, if_neg hc]

theorem clock_bit (h : r.busy = true) (hc : r.counter = 0) (hb : r.bitCount < 8) :
    r.clock divisor line =
      { r with
        sync1 := line, sync2 := r.sync1, prev := r.sync2, valid := false, frameError := false
        shift := setBit r.shift r.bitCount.toNat r.sync2
        bitCount := r.bitCount + 1, counter := bitDivisor divisor - 1 } := by
  unfold clock
  simp only [h, Bool.not_true, Bool.false_and, Bool.false_eq_true, if_false, if_true, if_pos hc,
    if_pos hb]

theorem clock_stop (h : r.busy = true) (hc : r.counter = 0) (hb : ¬r.bitCount < 8)
    (hs : r.sync2 = true) :
    r.clock divisor line =
      { r with
        sync1 := line, sync2 := r.sync1, prev := true, valid := true, frameError := false
        busy := false, data := r.shift } := by
  unfold clock
  simp only [h, Bool.not_true, Bool.false_and, Bool.false_eq_true, if_false, if_true, if_pos hc,
    if_neg hb, hs]

theorem Quiet.clock (h : r.Quiet) : (r.clock divisor true).Quiet := by
  rw [clock_quiet h.busy h.sync2]
  exact ⟨rfl, h.sync1, rfl, h.busy⟩

theorem Quiet.hears {period first : Nat} {b : BitVec 8} (h : r.Quiet) :
    r.Hears period first b 0 where
  sync1 := h.sync1
  sync2 := h.sync2
  before _ := ⟨h.busy, h.prev⟩
  since h' := absurd h' (by omega)

variable {period age : Nat} {b : BitVec 8}

theorem Hears.clock (hp : (bitDivisor divisor).toNat = period) (h0 : 0 < period)
    (h : r.Hears period (firstSample divisor) b age) (hage : age < lastSample divisor)
    (hline : line = frameBit b (age / period)) :
    (r.clock divisor line).Hears period (firstSample divisor) b (age + 1) ∧
      (r.clock divisor line).valid = false ∧ (r.clock divisor line).frameError = false := by
  have h1 : line = seen period b 1 (age + 1) := by
    rw [seen_succ, hline]
    rfl
  have h2 : r.sync1 = seen period b 2 (age + 1) := by rw [seen_succ, h.sync1]
  by_cases hearly : age ≤ 2
  · obtain ⟨hbusy, hprev⟩ := h.before hearly
    by_cases hquiet : age = 2
    · have hs : r.sync2 = false := by
        rw [h.sync2, seen, if_neg (by omega), hquiet, Nat.sub_self, Nat.zero_div]
        rfl
      rw [clock_start hbusy hs hprev]
      refine ⟨⟨h1, h2, fun h' => absurd h' (by omega), fun _ => ⟨rfl, by simp, ?_, ?_⟩⟩, rfl, rfl⟩
      · change age + 1 + (firstSample divisor - 1) = _
        have : 1 ≤ firstSample divisor := Nat.le_add_left _ _
        simp
        omega
      · intro j hj
        exact absurd hj (Nat.not_lt_zero j)
    · have hs : r.sync2 = true := by rw [h.sync2, seen, if_pos (by omega)]
      rw [clock_quiet hbusy hs]
      exact ⟨⟨h1, h2, fun _ => ⟨hbusy, rfl⟩, fun h' => absurd h' (by omega)⟩, rfl, rfl⟩
  · obtain ⟨hbusy, hcount, hleft, hbits⟩ := h.since (by omega)
    by_cases hc : r.counter = 0
    · have hzero : r.counter.toNat = 0 := by rw [hc]; rfl
      have hlt : r.bitCount.toNat < 8 := by
        refine Nat.lt_of_le_of_ne hcount fun he => ?_
        rw [he] at hleft
        rw [lastSample, hp] at hage
        omega
      have hnext : (r.bitCount + 1).toNat = r.bitCount.toNat + 1 := by
        rw [BitVec.toNat_add]
        simp
        omega
      have hs : r.sync2 = frameBit b (r.bitCount.toNat + firstSample divisor / period) := by
        rw [h.sync2, seen, if_neg (by omega)]
        congr 1
        have he : age - 2 = firstSample divisor + r.bitCount.toNat * period := by omega
        rw [he, Nat.add_mul_div_right _ _ h0, Nat.add_comm]
      rw [clock_bit hbusy hc (by rw [BitVec.lt_def]; exact hlt)]
      refine ⟨⟨h1, h2, fun h' => absurd h' (by omega), fun _ => ⟨hbusy, ?_, ?_, ?_⟩⟩, rfl, rfl⟩
      · change (r.bitCount + 1).toNat ≤ 8
        omega
      · change age + 1 + (bitDivisor divisor - 1).toNat = 2 + _ + (r.bitCount + 1).toNat * period
        rw [BitVec.toNat_sub_of_le (by rw [BitVec.le_def]; simp; omega), hp, hnext, Nat.add_mul]
        simp
        omega
      · intro j hj
        change j < (r.bitCount + 1).toNat at hj
        change (setBit r.shift r.bitCount.toNat r.sync2).getLsbD j = _
        rw [setBit_getLsbD _ _ hlt (by omega)]
        by_cases hj' : j = r.bitCount.toNat
        · rw [if_pos hj', hs, hj']
        · rw [if_neg hj', hbits j (by omega)]
    · have hpos : 1 ≤ r.counter.toNat := by
        refine Nat.one_le_iff_ne_zero.mpr fun he => hc ?_
        exact BitVec.eq_of_toNat_eq he
      rw [clock_wait hbusy hc]
      refine ⟨⟨h1, h2, fun h' => absurd h' (by omega), fun _ => ⟨hbusy, hcount, ?_, hbits⟩⟩,
        rfl, rfl⟩
      change age + 1 + (r.counter - 1).toNat = _
      rw [BitVec.toNat_sub_of_le (by rw [BitVec.le_def]; simpa using hpos)]
      simp
      omega

theorem Hears.stop (line : Bool) (hp : (bitDivisor divisor).toNat = period) (h0 : 0 < period)
    (h : r.Hears period (firstSample divisor) b (lastSample divisor))
    (hstop : frameBit b (8 + firstSample divisor / period) = true) :
    (r.clock divisor line).sync1 = line ∧ (r.clock divisor line).sync2 = r.sync1 ∧
      (r.clock divisor line).prev = true ∧ (r.clock divisor line).busy = false ∧
      (r.clock divisor line).valid = true ∧ (r.clock divisor line).frameError = false ∧
      ∀ j < 8, (r.clock divisor line).data.getLsbD j =
        frameBit b (j + firstSample divisor / period) := by
  have hlast : lastSample divisor = 2 + firstSample divisor + 8 * period := by rw [lastSample, hp]
  have hfirst : 1 ≤ firstSample divisor := Nat.le_add_left _ _
  obtain ⟨hbusy, hcount, hleft, hbits⟩ := h.since (by omega)
  have height : r.bitCount.toNat = 8 := by
    have : 8 * period ≤ r.bitCount.toNat * period := by omega
    exact Nat.le_antisymm hcount (Nat.le_of_mul_le_mul_right this h0)
  rw [height] at hleft hbits
  have hc : r.counter = 0 := BitVec.eq_of_toNat_eq (by simp; omega)
  have hs : r.sync2 = true := by
    rw [h.sync2, seen, if_neg (by omega), ← hstop]
    congr 1
    have he : lastSample divisor - 2 = firstSample divisor + 8 * period := by omega
    rw [he, Nat.add_mul_div_right _ _ h0, Nat.add_comm]
  rw [clock_stop hbusy hc (by rw [BitVec.lt_def, height]; simp) hs]
  exact ⟨rfl, rfl, rfl, rfl, rfl, rfl, hbits⟩

end Rx

/-! The frames on the wire. -/

section Divisor
variable {divisor : BitVec 20}

theorem bitDivisor_of_pos (h : 1 ≤ divisor) : (bitDivisor divisor).toNat = divisor.toNat := by
  have hne : divisor ≠ 0 := by
    intro he
    rw [BitVec.le_def, he] at h
    exact absurd h (by decide)
  rw [bitDivisor, if_pos hne]

theorem toNat_pos (h : 1 ≤ divisor) : 0 < divisor.toNat := by
  rw [BitVec.le_def] at h
  exact h

theorem firstSample_fits (h : 1 ≤ divisor) (hfit : divisor.toNat + divisor.toNat / 2 ≤ 2 ^ 20) :
    firstSample divisor = divisor.toNat + divisor.toNat / 2 := by
  have hpos := toNat_pos h
  rw [firstSample, BitVec.toNat_sub, BitVec.toNat_add, BitVec.toNat_ushiftRight,
    bitDivisor_of_pos h, Nat.shiftRight_eq_div_pow]
  simp
  omega

theorem firstSample_wraps (hfit : 2 ^ 20 < divisor.toNat + divisor.toNat / 2) :
    firstSample divisor + 2 ^ 20 = divisor.toNat + divisor.toNat / 2 := by
  have := divisor.isLt
  rw [firstSample, BitVec.toNat_sub, BitVec.toNat_add, BitVec.toNat_ushiftRight,
    bitDivisor_of_pos (by rw [BitVec.le_def]; simp; omega), Nat.shiftRight_eq_div_pow]
  simp
  omega

end Divisor

/-- Where the two sides are between two clocks, and the clocks until all bytes are emitted. -/
inductive Phase (divisor : BitVec 20) : Nat → Pair → Ledger → Prop
  | settled {p : Pair} {l : Ledger} (b : BitVec 8) (age : Nat)
      (tx : p.tx.Sends divisor.toNat b age) (rx : p.rx.Quiet) (late : 9 * divisor.toNat ≤ age)
      (emitted : l.sent = l.emitted) : Phase divisor 0 p l
  | sending {p : Pair} {l : Ledger} (b : BitVec 8) (age : Nat)
      (tx : p.tx.Sends divisor.toNat b age)
      (rx : p.rx.Hears divisor.toNat (firstSample divisor) b age)
      (early : age ≤ lastSample divisor) (emitted : l.sent = l.emitted ++ [b]) :
      Phase divisor (lastSample divisor + 1 - age) p l
  -- The next byte went into the transmitter at the clock before the stop bit is sampled.
  | overlap {p : Pair} {l : Ledger} (b b' : BitVec 8)
      (tx : p.tx.Sends divisor.toNat b' 0)
      (rx : p.rx.Hears divisor.toNat (firstSample divisor) b (lastSample divisor))
      (emitted : l.sent = l.emitted ++ [b, b']) : Phase divisor (lastSample divisor + 1) p l

section Clock
variable {divisor : BitVec 20} {p : Pair} {l : Ledger} {request : Option (BitVec 8)}

theorem note_quiet (h : (p.clock divisor request).rx.valid = false)
    (he : (p.clock divisor request).rx.frameError = false) :
    note divisor p request l =
      ⟨if p.tx.busy then l.sent else l.sent ++ request.toList, l.emitted, l.errors⟩ := by
  simp [note, h, he]

theorem note_emits (h : (p.clock divisor request).rx.valid = true)
    (he : (p.clock divisor request).rx.frameError = false) :
    note divisor p request l =
      ⟨if p.tx.busy then l.sent else l.sent ++ request.toList,
        l.emitted ++ [(p.clock divisor request).rx.data], l.errors⟩ := by
  simp [note, h, he]

theorem received (line : Bool) (hd : 1 ≤ divisor)
    (hfit : divisor.toNat + divisor.toNat / 2 ≤ 2 ^ 20) {r : Rx} {b : BitVec 8}
    (h : r.Hears divisor.toNat (firstSample divisor) b (lastSample divisor)) :
    (r.clock divisor line).sync1 = line ∧ (r.clock divisor line).sync2 = true ∧
      (r.clock divisor line).prev = true ∧ (r.clock divisor line).busy = false ∧
      (r.clock divisor line).valid = true ∧ (r.clock divisor line).frameError = false ∧
      (r.clock divisor line).data = b := by
  have hpos := toNat_pos hd
  have hone : firstSample divisor / divisor.toNat = 1 := by
    rw [firstSample_fits hd hfit, Nat.add_div_left _ hpos, Nat.div_eq_of_lt (by omega)]
  obtain ⟨h1, h2, hprev, hbusy, hvalid, herror, hdata⟩ :=
    h.stop line (bitDivisor_of_pos hd) hpos (by rw [hone]; exact frameBit_stop (by omega))
  refine ⟨h1, ?_, hprev, hbusy, hvalid, herror, ?_⟩
  · have hlast : lastSample divisor - 1 = 1 + firstSample divisor + 8 * divisor.toNat := by
      rw [lastSample, bitDivisor_of_pos hd]
      omega
    have hnine : 9 ≤ (lastSample divisor - 1) / divisor.toNat := by
      rw [Nat.le_div_iff_mul_le hpos, hlast, firstSample_fits hd hfit]
      omega
    rw [h2, h.sync1, seen, frameBit_stop hnine, ite_self]
  · refine BitVec.eq_of_getLsbD_eq fun j hj => ?_
    rw [hdata j hj, hone, frameBit, if_neg (by omega), if_pos (by omega), Nat.add_sub_cancel]

theorem settled_line {b : BitVec 8} {age : Nat} (hd : 1 ≤ divisor) {t : Tx}
    (tx : t.Sends divisor.toNat b age) (late : 9 * divisor.toNat ≤ age) : t.line = true := by
  rw [tx.line, frameBit_stop ((Nat.le_div_iff_mul_le (toNat_pos hd)).mpr late)]

theorem busy_of_respects {t : Tx} (h : request.isSome = true → t.busy = false) :
    (request = none) ∨ ∃ data, request = some data ∧ t.busy = false := by
  cases request with
  | none => exact .inl rfl
  | some data => exact .inr ⟨data, rfl, h rfl⟩

/-- A clock leads to a phase without a frame error, which is one clock nearer to the end of all
frames when no byte is taken. -/
def Phase.Goes (divisor : BitVec 20) (n : Nat) (p : Pair) (l : Ledger)
    (request : Option (BitVec 8)) : Prop :=
  (∃ m, Phase divisor m (p.clock divisor request) (note divisor p request l) ∧
    (request = none → m = n - 1)) ∧ (note divisor p request l).errors = l.errors

theorem Phase.Goes.idle {n m : Nat} {l' : Ledger} (hnote : note divisor p none l = l')
    (hm : m = n - 1) (he : l'.errors = l.errors)
    (h : Phase divisor m (p.clock divisor none) l') : Phase.Goes divisor n p l none := by
  subst hnote
  exact ⟨⟨m, h, fun _ => hm⟩, he⟩

theorem Phase.Goes.take {n m : Nat} {data : BitVec 8} {l' : Ledger}
    (hnote : note divisor p (some data) l = l') (he : l'.errors = l.errors)
    (h : Phase divisor m (p.clock divisor (some data)) l') :
    Phase.Goes divisor n p l (some data) := by
  subst hnote
  exact ⟨⟨m, h, fun hn => absurd hn (by simp)⟩, he⟩

theorem Phase.clock_settled (hd : 1 ≤ divisor) {b : BitVec 8} {age : Nat}
    (tx : p.tx.Sends divisor.toNat b age) (rx : p.rx.Quiet) (late : 9 * divisor.toNat ≤ age)
    (emitted : l.sent = l.emitted) (hr : Respects p request) :
    Phase.Goes divisor 0 p l request := by
  have hpos := toNat_pos hd
  have hline : p.tx.line = true := settled_line hd tx late
  have hrx : (p.clock divisor request).rx = p.rx.clock divisor true := by
    rw [Pair.clock, hline]
  have hquiet : (p.clock divisor request).rx.Quiet := hrx ▸ rx.clock
  have hvalid : (p.clock divisor request).rx.valid = false := by
    rw [hrx, Rx.clock_quiet rx.busy rx.sync2]
  have herror : (p.clock divisor request).rx.frameError = false := by
    rw [hrx, Rx.clock_quiet rx.busy rx.sync2]
  rcases busy_of_respects hr with rfl | ⟨data, rfl, hidle⟩
  · refine .idle (note_quiet hvalid herror) rfl rfl (.settled b (age + 1) ?_ hquiet (by omega) ?_)
    · exact tx.clock (bitDivisor_of_pos hd) hpos
    · simpa using emitted
  · refine .take (note_quiet hvalid herror) rfl
      (.sending data 0 (Tx.Sends.load hpos hidle) hquiet.hears (Nat.zero_le _) ?_)
    simp [hidle, emitted]

theorem Phase.clock_sending (hd : 1 ≤ divisor)
    (hfit : divisor.toNat + divisor.toNat / 2 ≤ 2 ^ 20) {b : BitVec 8} {age : Nat}
    (tx : p.tx.Sends divisor.toNat b age)
    (rx : p.rx.Hears divisor.toNat (firstSample divisor) b age) (hage : age < lastSample divisor)
    (emitted : l.sent = l.emitted ++ [b]) (hr : Respects p request) :
    Phase.Goes divisor (lastSample divisor + 1 - age) p l request := by
  have hpos := toNat_pos hd
  obtain ⟨hears, hvalid, herror⟩ := rx.clock (bitDivisor_of_pos hd) hpos hage tx.line
  rcases busy_of_respects hr with rfl | ⟨data, rfl, hidle⟩
  · refine .idle (note_quiet hvalid herror) (by omega) rfl (.sending b (age + 1) ?_ hears hage ?_)
    · exact tx.clock (bitDivisor_of_pos hd) hpos
    · simpa using emitted
  · have hdone : 10 * divisor.toNat ≤ age := by
      rw [tx.busy] at hidle
      simpa using hidle
    have hlast : age + 1 = lastSample divisor := by
      rw [lastSample, firstSample_fits hd hfit, bitDivisor_of_pos hd] at hage ⊢
      omega
    refine .take (note_quiet hvalid herror) rfl
      (.overlap b data (Tx.Sends.load hpos hidle) (hlast ▸ hears) ?_)
    simp [hidle, emitted]

theorem Phase.clock_stop (hd : 1 ≤ divisor)
    (hfit : divisor.toNat + divisor.toNat / 2 ≤ 2 ^ 20) {b : BitVec 8}
    (tx : p.tx.Sends divisor.toNat b (lastSample divisor))
    (rx : p.rx.Hears divisor.toNat (firstSample divisor) b (lastSample divisor))
    (emitted : l.sent = l.emitted ++ [b]) (hr : Respects p request) :
    Phase.Goes divisor 1 p l request := by
  have hpos := toNat_pos hd
  have hlate : 9 * divisor.toNat ≤ lastSample divisor := by
    rw [lastSample, firstSample_fits hd hfit, bitDivisor_of_pos hd]
    omega
  obtain ⟨h1, h2, hprev, hbusy, hvalid, herror, hdata⟩ := received p.tx.line hd hfit rx
  have hquiet : (p.clock divisor request).rx.Quiet :=
    ⟨h1.trans (settled_line hd tx hlate), h2, hprev, hbusy⟩
  rcases busy_of_respects hr with rfl | ⟨data, rfl, hidle⟩
  · refine .idle (note_emits hvalid herror) rfl rfl
      (.settled b (lastSample divisor + 1) ?_ hquiet (by omega) ?_)
    · exact tx.clock (bitDivisor_of_pos hd) hpos
    · have : (p.clock divisor none).rx.data = b := hdata
      simp [emitted, this]
  · refine .take (note_emits hvalid herror) rfl
      (.sending data 0 (Tx.Sends.load hpos hidle) hquiet.hears (Nat.zero_le _) ?_)
    have : (p.clock divisor (some data)).rx.data = b := hdata
    simp [hidle, emitted, this]

theorem Phase.clock_overlap (hd : 1 ≤ divisor)
    (hfit : divisor.toNat + divisor.toNat / 2 ≤ 2 ^ 20) {b b' : BitVec 8}
    (tx : p.tx.Sends divisor.toNat b' 0)
    (rx : p.rx.Hears divisor.toNat (firstSample divisor) b (lastSample divisor))
    (emitted : l.sent = l.emitted ++ [b, b']) (hr : Respects p request) :
    Phase.Goes divisor (lastSample divisor + 1) p l request := by
  have hpos := toNat_pos hd
  obtain ⟨h1, h2, hprev, hbusy, hvalid, herror, hdata⟩ := received p.tx.line hd hfit rx
  have hstart : (p.clock divisor request).rx.sync1 = seen divisor.toNat b' 1 1 := h1.trans tx.line
  rcases busy_of_respects hr with rfl | ⟨data, rfl, hidle⟩
  · refine .idle (note_emits hvalid herror) (by omega) rfl (.sending b' 1 ?_
      ⟨hstart, h2, fun _ => ⟨hbusy, hprev⟩, fun h => absurd h (by omega)⟩ ?_ ?_)
    · exact tx.clock (bitDivisor_of_pos hd) hpos
    · rw [lastSample]
      omega
    · have : (p.clock divisor none).rx.data = b := hdata
      simp [emitted, this]
  · rw [tx.busy, decide_eq_true (by omega)] at hidle
    cases hidle

theorem Phase.clock {n : Nat} (hd : 1 ≤ divisor)
    (hfit : divisor.toNat + divisor.toNat / 2 ≤ 2 ^ 20) (h : Phase divisor n p l)
    (hr : Respects p request) : Phase.Goes divisor n p l request := by
  cases h with
  | settled b age tx rx late emitted => exact clock_settled hd tx rx late emitted hr
  | sending b age tx rx early emitted =>
    rcases Nat.lt_or_eq_of_le early with hlt | rfl
    · exact clock_sending hd hfit tx rx hlt emitted hr
    · rw [Nat.add_sub_cancel_left]
      exact clock_stop hd hfit tx rx emitted hr
  | overlap b b' tx rx emitted => exact clock_overlap hd hfit tx rx emitted hr

theorem Phase.emits {n : Nat} (h : Phase divisor n p l) : l.emitted <+: l.sent := by
  cases h with
  | settled b age tx rx late emitted => exact emitted ▸ List.prefix_refl _
  | sending b age tx rx early emitted => exact ⟨[b], emitted.symm⟩
  | overlap b b' tx rx emitted => exact ⟨[b, b'], emitted.symm⟩

theorem Phase.left_le {n : Nat} (h : Phase divisor n p l) : n ≤ lastSample divisor + 1 := by
  cases h with
  | settled b age tx rx late emitted => exact Nat.zero_le _
  | sending b age tx rx early emitted => exact Nat.sub_le _ _
  | overlap b b' tx rx emitted => exact Nat.le_refl _

theorem Phase.emitted_all (h : Phase divisor 0 p l) : l.sent = l.emitted := by
  generalize hn : 0 = n at h
  cases h with
  | settled b age tx rx late emitted => exact emitted
  | sending b age tx rx early emitted => omega
  | overlap b b' tx rx emitted => omega

theorem respects_none (p : Pair) : Respects p none := fun h => absurd h (by simp)

theorem note_none_sent : (note divisor p none l).sent = l.sent := by
  simp [note]

theorem Phase.emits_all (hd : 1 ≤ divisor) (hfit : divisor.toNat + divisor.toNat / 2 ≤ 2 ^ 20)
    {n idle : Nat} (h : Phase divisor n p l) (hidle : n ≤ idle) :
    (run (observed (Pair.clock divisor) (note divisor)) (p, l)
      (List.replicate idle none)).2.emitted = l.sent := by
  induction idle generalizing n p l with
  | zero =>
    obtain rfl : n = 0 := by omega
    exact h.emitted_all.symm
  | succ idle ih =>
    obtain ⟨⟨m, hnext, hm⟩, -⟩ := h.clock hd hfit (respects_none p)
    have := ih hnext (by rw [hm rfl]; omega)
    rw [note_none_sent] at this
    exact this

end Clock

/-! The divisors that loop back. -/

/-- The two sides are in some phase, without a frame error so far. -/
def InPhase (divisor : BitVec 20) (s : Pair × Ledger) : Prop :=
  (∃ n, Phase divisor n s.1 s.2) ∧ s.2.errors = 0

variable {divisor : BitVec 20}

theorem inPhase_after (hd : 1 ≤ divisor) (hfit : divisor.toNat + divisor.toNat / 2 ≤ 2 ^ 20)
    {requests : List (Option (BitVec 8))}
    (h : Along (Pair.clock divisor) Respects .reset requests) :
    InPhase divisor (after divisor requests) := by
  have halong := (along_observed (note divisor) Pair.reset Ledger.none requests).mpr h
  refine run_inv (fun s request hs hr => ?_) ⟨⟨0, ?_⟩, rfl⟩ halong
  · obtain ⟨⟨n, hphase⟩, herror⟩ := hs
    obtain ⟨⟨m, hnext, -⟩, herrors⟩ := hphase.clock hd hfit hr
    exact ⟨⟨m, hnext⟩, herrors.trans herror⟩
  · exact .settled 0 (10 * divisor.toNat) (.reset 0 (toNat_pos hd)) ⟨rfl, rfl, rfl, rfl⟩
      (by omega) rfl

theorem loopsBack_of_fits (hd : 1 ≤ divisor) (hfit : divisor.toNat + divisor.toNat / 2 ≤ 2 ^ 20) :
    LoopsBack divisor where
  emits requests h := by
    obtain ⟨⟨n, hphase⟩, herrors⟩ := inPhase_after hd hfit h
    exact ⟨hphase.emits, herrors⟩
  all requests idle h hidle := by
    obtain ⟨⟨n, hphase⟩, -⟩ := inPhase_after hd hfit h
    have hleft := hphase.left_le
    rw [lastSample, firstSample_fits hd hfit, bitDivisor_of_pos hd] at hleft
    have hpos := toNat_pos hd
    have hn : n ≤ idle := by omega
    have := hphase.emits_all hd hfit hn
    rw [after, run, List.foldl_append]
    exact this

theorem heard (hd : 1 ≤ divisor) (b : BitVec 8) {age : Nat} (hage : age ≤ lastSample divisor) :
    ∃ p, after divisor (some b :: List.replicate age none) = (p, ⟨[b], [], 0⟩) ∧
      p.tx.Sends divisor.toNat b age ∧
      p.rx.Hears divisor.toNat (firstSample divisor) b age := by
  have hpos := toNat_pos hd
  induction age with
  | zero =>
    have hquiet : (Rx.reset.clock divisor Tx.reset.line).Quiet :=
      Rx.Quiet.clock ⟨rfl, rfl, rfl, rfl⟩
    have tx : (Tx.reset.clock divisor (some b)).Sends divisor.toNat b 0 := .load hpos rfl
    exact ⟨Pair.reset.clock divisor (some b), rfl, tx, hquiet.hears⟩
  | succ age ih =>
    obtain ⟨p, hafter, tx, rx⟩ := ih (by omega)
    obtain ⟨hears, hvalid, herror⟩ := rx.clock (bitDivisor_of_pos hd) hpos hage tx.line
    refine ⟨p.clock divisor none, ?_, tx.clock (bitDivisor_of_pos hd) hpos, hears⟩
    rw [List.replicate_succ', ← List.cons_append, after, run_concat, ← after, hafter, observed]
    rw [note_quiet hvalid herror]
    simp

theorem emitted_of_wraps (hwrap : 2 ^ 20 < divisor.toNat + divisor.toNat / 2) {b : BitVec 8}
    (hb : b.getLsbD 7 = true) :
    ∃ data, (after divisor (some b :: List.replicate (lastSample divisor + 1) none)).2 =
      ⟨[b], [data], 0⟩ ∧ data.getLsbD 0 = false := by
  have hd : 1 ≤ divisor := by
    rw [BitVec.le_def]
    simp
    omega
  have hlt := divisor.isLt
  have hzero : firstSample divisor / divisor.toNat = 0 := by
    have := firstSample_wraps hwrap
    exact Nat.div_eq_of_lt (by omega)
  obtain ⟨p, hafter, tx, rx⟩ := heard hd b (Nat.le_refl (lastSample divisor))
  obtain ⟨-, -, -, -, hvalid, herror, hdata⟩ :=
    rx.stop p.tx.line (bitDivisor_of_pos hd) (toNat_pos hd) (by rw [hzero]; exact hb)
  refine ⟨(p.clock divisor none).rx.data, ?_, ?_⟩
  · rw [List.replicate_succ', ← List.cons_append, after, run_concat, ← after, hafter, observed]
    rw [note_emits hvalid herror]
    simp
  · exact (hdata 0 (by omega)).trans (by rw [hzero]; rfl)

theorem along_idle (divisor : BitVec 20) (p : Pair) (n : Nat) :
    Along (Pair.clock divisor) Respects p (List.replicate n none) := by
  induction n generalizing p with
  | zero => trivial
  | succ n ih => exact ⟨respects_none p, ih _⟩

theorem fits_of_loopsBack (h : LoopsBack divisor) : divisor.toNat + divisor.toNat / 2 ≤ 2 ^ 20 := by
  refine Nat.le_of_not_lt fun hwrap => ?_
  obtain ⟨data, hafter, hdata⟩ := emitted_of_wraps hwrap (show (0xFF#8).getLsbD 7 = true from rfl)
  have hprefix := (h.emits (some 0xFF#8 :: List.replicate (lastSample divisor + 1) none)
    ⟨fun _ => rfl, along_idle divisor _ _⟩).1
  rw [hafter] at hprefix
  obtain rfl : data = 0xFF#8 := by simpa using hprefix
  exact absurd hdata (by decide)

/-- Two UARTs loop bytes back exactly with the divisors whose bit time and a half fits the
receiver's counter. -/
theorem loopsBack_iff (divisor : BitVec 20) (hd : 1 ≤ divisor) :
    LoopsBack divisor ↔ divisor.toNat + divisor.toNat / 2 ≤ 2 ^ 20 :=
  ⟨fits_of_loopsBack, loopsBack_of_fits hd⟩

theorem loopsBack_one :
    (1 : BitVec 20) ≤ 1 ∧
      (LoopsBack 1 ↔ (1 : BitVec 20).toNat + (1 : BitVec 20).toNat / 2 ≤ 2 ^ 20) :=
  ⟨by decide, loopsBack_iff 1 (by decide)⟩

/-- The largest divisor does not loop a byte back. -/
theorem not_loopsBack_max : (1 : BitVec 20) ≤ 0xFFFFF ∧ ¬LoopsBack 0xFFFFF :=
  ⟨by decide, fun h => absurd (fits_of_loopsBack h) (by decide)⟩

end NodeNet.UartLoop

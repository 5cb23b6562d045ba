import Mathlib.Algebra.Group.Nat.Defs
import NodeNet.Lib.Machine
import NodeNet.Spi.Header
import NodeNet.Spi.Window

/-! The notes on the response side: what is staged, loaded, shifted out and released. -/
namespace NodeNet.Spi

/-- A window as the response side sees it: both data lines, the response that was loaded when its
opcode ended, and how many had been committed by then. -/
structure Reading where
  mosi : Line
  miso : Line
  response : Option (List UInt8)
  number : Nat
  deriving DecidableEq

def Reading.isRead (w : Reading) : Bool := w.mosi.bytes.head? = some opcodeReadResponse

/-- The bytes after the opcode of a READ_RESPONSE frame: length, response, and zeros. -/
def wireByte (response : Option (List UInt8)) (k : Nat) : UInt8 :=
  match response with
  | some r => (UInt8.ofNat r.length :: UInt8.ofNat (r.length / 256) :: r)[k]?.getD 0
  | none => 0

/-- The window before its first clock. -/
def Reading.fresh : Reading := ⟨⟨[], []⟩, ⟨[], []⟩, none, 0⟩

/-- The window after a clock; the end of the opcode notes which response is loaded. -/
def Reading.clocked (w : Reading) (mosi miso : Bool) (response : Option (List UInt8))
    (number : Nat) : Reading :=
  let next := { w with
    mosi := w.mosi.take mosi
    miso := w.miso.take miso }
  if w.mosi.bytes = [] ∧ w.mosi.rest.length = 7 then
    { next with
      response := response
      number := number }
  else next

/-- All bytes of the response have been shifted out. -/
def Reading.Whole (w : Reading) : Prop :=
  w.isRead = true ∧ ∃ r, w.response = some r ∧ r.length + 3 ≤ w.miso.bytes.length

/-- The frame has shifted out the length, the bytes of the response and zeros after them. -/
def Reading.Exact (w : Reading) : Prop :=
  w.isRead = true → ∀ k b, w.miso.bytes[k + 1]? = some b → b = wireByte w.response k

def Reading.isWhole (w : Reading) : Bool :=
  w.isRead && match w.response with
    | some r => r.length + 3 ≤ w.miso.bytes.length
    | none => false

theorem Reading.isWhole_iff (w : Reading) : w.isWhole = true ↔ w.Whole := by
  cases hr : w.response <;> simp [isWhole, Whole, hr]

structure Outbox where
  staged : List UInt8
  response : Option (List UInt8)
  number : Nat
  /-- one frame has shifted out all of the loaded response -/
  shifted : Bool
  current : Option Reading
  last : Option Reading
  ended : List Reading

def Outbox.empty : Outbox := ⟨[], none, 0, false, none, none, []⟩

def commits (word : Option UInt16) : Bool :=
  match word with
  | some word => commitTx word && !softReset word
  | none => false

def resets (word : Option UInt16) : Bool :=
  match word with
  | some word => softReset word
  | none => false

def acknowledges (word : Option UInt16) : Bool :=
  match word with
  | some word => clearIrq word && !softReset word
  | none => false

namespace Device

variable (d : Device)

def cpuCommits (access : Option Access) : Bool :=
  !d.tx.loaded && commits (controlWrite (d.fired access))

def wordCommits (access : Option Access) : Bool := !d.tx.loaded && commits (d.controlWord access)

/-- The response is given up: by a reset, or by an acknowledge once it is marked as read. -/
def givesUp (access : Option Access) : Bool :=
  resets (d.controlWord access) || acknowledges (d.controlWord access) && d.tx.readComplete

def stagedBy (access : Option Access) (staged : List UInt8) : List UInt8 :=
  match d.fired access with
  | some (.write .txLength _ _) => if d.tx.loaded then staged else []
  | fired =>
    match d.tx.writesByte fired with
    | some b => staged ++ [b]
    | none => staged

/-- The notes on one event. -/
def record (e : Event) (h : Outbox) : Outbox :=
  match e with
  | .rise mosi =>
    if d.sck || d.csN then h
    else { h with current := some ((h.current.getD .fresh).clocked mosi d.miso h.response h.number) }
  | .deselect =>
    if d.csN then h
    else
      match h.current with
      | some w =>
        { h with
          current := none
          last := some w
          ended := h.ended ++ [w]
          shifted := h.shifted || w.isWhole && w.number = h.number }
      | none => h
  | .clock access =>
    if d.cpuCommits access || d.wordCommits access then
      { h with
        staged := if d.givesUp access then [] else d.stagedBy access h.staged
        response := some h.staged
        number := h.number + 1
        shifted := false }
    else
      { h with
        staged := if d.givesUp access then [] else d.stagedBy access h.staged
        response := if d.givesUp access then none else h.response }
  | .select | .fall => h

def readsBank (w : Reading) : Bool := w.isRead && w.response.isSome

/-- Every window is recognised as a new frame and stays within the byte counter; no frame ends
during the last byte of its response; a frame end is processed before the next frame, and marks
a response as read only if none has been committed since the frame began; the control word of a
commit is not displaced or undone; and no byte is staged in the bank that a frame reads. -/
def KeepsTx : Device × Outbox → Event → Prop
  | (d, h), .rise _ =>
    d.sck = false → d.csN = false →
      match h.current with
      | none => d.startsFrame = true
      | some w => w.mosi.rest.length = 7 → w.mosi.bytes.length < 65536
  | (d, h), .deselect =>
    d.csN = false → ∀ w ∈ h.current, w.isRead = true → ∀ r ∈ w.response, r ≠ [] →
      w.mosi.bytes.length ≠ r.length + 2
  | (d, h), .clock access =>
    (d.frameEndFire = true → h.current = none) ∧
      (d.marksRead = true → ∀ w ∈ h.last, w.number = h.number) ∧
      (d.cpuCommits access = true → d.wordCommits access = true) ∧
      (d.wordCommits access = true → acknowledges (d.controlWord access) = true →
        d.tx.readComplete = false) ∧
      ((d.tx.writesByte (d.fired access)).isSome = true → ∀ w ∈ h.current, readsBank w = true →
        d.tx.stageBankSelect ≠ d.txFrame.txLoadedBankSnapshot)
  | _, .select | _, .fall => True

instance : ∀ q e, Decidable (KeepsTx q e)
  | (_, ⟨_, _, _, _, none, _, _⟩), .rise _ => inferInstanceAs (Decidable (_ → _ → _))
  | (_, ⟨_, _, _, _, some _, _, _⟩), .rise _ => inferInstanceAs (Decidable (_ → _ → _ → _))
  | (d, h), .deselect =>
    inferInstanceAs (Decidable (d.csN = false → ∀ w ∈ h.current, w.isRead = true →
      ∀ r ∈ w.response, r ≠ [] → w.mosi.bytes.length ≠ r.length + 2))
  | (d, h), .clock _ =>
    inferInstanceAs (Decidable ((_ → _) ∧ (_ → ∀ w ∈ h.last, w.number = h.number) ∧ (_ → _) ∧
      (_ → _ → _) ∧ (_ → ∀ w ∈ h.current, readsBank w = true →
        d.tx.stageBankSelect ≠ d.txFrame.txLoadedBankSnapshot)))
  | (_, _), .select => .isTrue trivial
  | (_, _), .fall => .isTrue trivial

/-- The slave together with the notes. -/
def recorded (mailboxBytes : Nat) : Device × Outbox → Event → Device × Outbox :=
  Machine.observed (Device.step · mailboxBytes) record

end Device

/-! How a READ_RESPONSE frame sends the snapshot of the response. -/

/-- The next bits that the shift register sends. -/
def drain (shift : UInt8) : Nat → List Bool
  | 0 => []
  | n + 1 => shift.toNat.testBit 7 :: drain (shiftIn shift false) n

theorem drain_value (shift : UInt8) (n m : Nat) (hn : n ≤ 8) :
    (drain shift n).foldl (fun n b => 2 * n + b.toNat) m =
      m * 2 ^ n + shift.toNat / 2 ^ (8 - n) := by
  induction n generalizing shift m with
  | zero =>
    have hlt := UInt8.toNat_lt shift
    simp [drain]
    omega
  | succ n ih =>
    have hlt := UInt8.toNat_lt shift
    have hbit : (shift.toNat.testBit 7).toNat = shift.toNat / 128 := by
      rw [Nat.toNat_testBit]
      omega
    have hnext : (shiftIn shift false).toNat = 2 * (shift.toNat % 128) := by
      rw [shiftIn_toNat, Bool.toNat_false]
      omega
    have hpow : 2 ^ (8 - n) = 2 * 2 ^ (7 - n) := by
      rw [show 8 - n = (7 - n) + 1 by omega, Nat.pow_succ, Nat.mul_comm]
    have hsplit : shift.toNat = 2 ^ (7 - n) * (2 ^ n * (shift.toNat / 128)) + shift.toNat % 128 := by
      rw [← Nat.mul_assoc, ← Nat.pow_add, show 7 - n + n = 7 by omega]
      omega
    have hdiv : shift.toNat / 2 ^ (7 - n) =
        2 ^ n * (shift.toNat / 128) + shift.toNat % 128 / 2 ^ (7 - n) := by
      conv => lhs; rw [hsplit]
      exact Nat.mul_add_div (Nat.two_pow_pos _) _ _
    rw [drain, List.foldl_cons, ih _ _ (by omega), hbit, hnext, hpow, Nat.pow_succ,
      Nat.mul_div_mul_left _ _ (by omega), show 8 - (n + 1) = 7 - n by omega, hdiv, Nat.add_mul,
      Nat.mul_comm (2 ^ n) 2, ← Nat.mul_assoc, Nat.mul_comm 2 m, Nat.mul_comm (shift.toNat / 128)]
    omega

theorem byteOf_drain (shift : UInt8) : byteOf (drain shift 8) = shift := by
  apply UInt8.toNat_inj.mp
  have hlt := UInt8.toNat_lt shift
  rw [byteOf, drain_value shift 8 0 (Nat.le_refl 8), UInt8.toNat_ofNat', Nat.zero_mul, Nat.zero_add,
    Nat.sub_self, Nat.pow_zero, Nat.div_one]
  exact Nat.mod_eq_of_lt hlt

/-- The registers after this many whole bytes of a READ_RESPONSE frame that took a response. -/
structure TxFrame.Sending (f : TxFrame) (r : List UInt8) (count : Nat) : Prop where
  loaded : f.txLoadedSnapshot = true
  length : f.txLengthSnapshot = r.length
  lengthCount : f.txLengthCountSnapshot = r.length
  early : count < 3 → f.txBytesRemaining = r.length ∧ f.txRamReadAddr = 0 ∧
    f.readResponsePayloadPhase = false ∧ f.frameReadResponseComplete = false
  late : 3 ≤ count → f.readResponsePayloadPhase = decide (count - 2 < r.length) ∧
    (count - 2 < r.length → f.txBytesRemaining = r.length - (count - 2) ∧
      f.txRamReadAddr = count - 2) ∧
    f.frameReadResponseComplete = decide (r.length ≤ count - 2)

/-- The same for a frame that found no response. -/
def TxFrame.Idle (f : TxFrame) : Prop :=
  f.txLoadedSnapshot = false ∧ f.readResponsePayloadPhase = false ∧
    f.frameReadResponseComplete = false

def TxFrame.Responds (f : TxFrame) (count : Nat) : Option (List UInt8) → Prop
  | some r => f.Sending r count
  | none => f.Idle

section
variable {f : TxFrame} {h : Header} {tx : TxMailbox} {rxByte status data : UInt8}

theorem TxFrame.byte_opcode (hcount : h.byteCount = 0) (hopcode : rxByte = opcodeReadResponse)
    (hstart : f.frameReadResponseComplete = false) {response : Option (List UInt8)}
    (hloaded : tx.loaded = response.isSome) (hlength : ∀ r, response = some r → tx.length = r.length) :
    (f.byte h rxByte tx status data).Responds 1 response ∧
      (f.byte h rxByte tx status data).txShift = wireByte response 0 ∧
      (response.isSome = true →
        (f.byte h rxByte tx status data).txLoadedBankSnapshot = tx.loadedBank) := by
  have hbyte : f.byte h rxByte tx status data =
      { f with
        readResponsePayloadPhase := false
        txLoadedSnapshot := tx.loaded
        txLoadedBankSnapshot := tx.loadedBank
        txBytesRemaining := tx.length
        txLengthSnapshot := tx.length
        txLengthCountSnapshot := tx.length
        txRamReadAddr := 0
        txShift := if tx.loaded then UInt8.ofNat tx.length else 0 } := by
    subst hopcode
    simp [TxFrame.byte, hcount, TxFrame.opcodeByte, opcodeReadResponse, opcodeReadStatus]
  rw [hbyte]
  cases response with
  | none =>
    have hloaded : tx.loaded = false := hloaded
    exact ⟨⟨hloaded, rfl, hstart⟩, by simp [hloaded, wireByte], fun _ => rfl⟩
  | some r =>
    have hloaded : tx.loaded = true := hloaded
    have hlength := hlength r rfl
    refine ⟨⟨hloaded, hlength, hlength, fun _ => ⟨hlength, rfl, rfl, hstart⟩, ?_⟩, ?_, fun _ => rfl⟩
    · intro hlate
      omega
    · simp [hloaded, hlength, wireByte]

theorem TxFrame.firstByte_sending {r : List UInt8} (hsending : f.Sending r 2)
    (hdata : ∀ b, r[f.txRamReadAddr]? = some b → data = b) :
    (f.firstByte data).Sending r 3 ∧ (f.firstByte data).txShift = wireByte (some r) 2 ∧
      (f.firstByte data).txLoadedBankSnapshot = f.txLoadedBankSnapshot := by
  obtain ⟨hloaded, hlength, hlengthCount, hearly, -⟩ := hsending
  obtain ⟨hremaining, haddr, -, -⟩ := hearly (by omega)
  rw [haddr] at hdata
  cases r with
  | nil =>
    refine ⟨⟨?_, ?_, ?_, ?_, ?_⟩, ?_, ?_⟩ <;>
      simp [TxFrame.firstByte, hloaded, hlength, hlengthCount, wireByte]
  | cons b rest =>
    have hb : data = b := hdata b rfl
    cases rest with
    | nil =>
      refine ⟨⟨?_, ?_, ?_, ?_, ?_⟩, ?_, ?_⟩ <;>
        simp [TxFrame.firstByte, hloaded, hlength, hlengthCount, wireByte, hb]
    | cons b' rest =>
      refine ⟨⟨?_, ?_, ?_, ?_, ?_⟩, ?_, ?_⟩ <;>
        simp [TxFrame.firstByte, hloaded, hlength, hlengthCount, hremaining, wireByte, hb]

theorem TxFrame.nextByte_sending {r : List UInt8} {count : Nat} (hsending : f.Sending r count)
    (hcount : 3 ≤ count) (hdata : ∀ b, r[f.txRamReadAddr]? = some b → data = b) :
    (f.nextByte data).Sending r (count + 1) ∧
      (f.nextByte data).txShift = wireByte (some r) count ∧
      (f.nextByte data).txLoadedBankSnapshot = f.txLoadedBankSnapshot := by
  obtain ⟨hloaded, hlength, hlengthCount, -, hlate⟩ := hsending
  obtain ⟨hphase, hnext, hcomplete⟩ := hlate hcount
  have hwire : wireByte (some r) count = r[count - 2]?.getD 0 := by
    obtain ⟨k, rfl⟩ : ∃ k, count = k + 2 := ⟨count - 2, by omega⟩
    simp [wireByte]
  rw [hwire]
  by_cases hleft : count - 2 < r.length
  · obtain ⟨hremaining, haddr⟩ := hnext hleft
    have hb : data = r[count - 2] := hdata _ (by rw [haddr]; exact List.getElem?_eq_getElem hleft)
    have hpos : r.length - (count - 2) ≠ 0 := by omega
    by_cases hlast : r.length - (count - 2) = 1
    · refine ⟨⟨?_, ?_, ?_, fun hfew => ?_, fun _ => ⟨?_, fun hmore => ?_, ?_⟩⟩, ?_, ?_⟩
      · simp [TxFrame.nextByte, hphase, hleft, hremaining, hlast, hloaded]
      · simp [TxFrame.nextByte, hphase, hleft, hremaining, hlast, hlength]
      · simp [TxFrame.nextByte, hphase, hleft, hremaining, hlast, hlengthCount]
      · omega
      · simp [TxFrame.nextByte, hphase, hleft, hremaining, hlast]
        omega
      · omega
      · simp [TxFrame.nextByte, hphase, hleft, hremaining, hlast]
        omega
      · simp [TxFrame.nextByte, hphase, hleft, hremaining, hlast, hb]
      · simp [TxFrame.nextByte, hphase, hleft, hremaining, hlast]
    · refine ⟨⟨?_, ?_, ?_, fun hfew => ?_, fun _ => ⟨?_, fun hmore => ⟨?_, ?_⟩, ?_⟩⟩, ?_, ?_⟩
      · simp [TxFrame.nextByte, hphase, hleft, hremaining, hlast, hpos, hloaded]
      · simp [TxFrame.nextByte, hphase, hleft, hremaining, hlast, hpos, hlength]
      · simp [TxFrame.nextByte, hphase, hleft, hremaining, hlast, hpos, hlengthCount]
      · omega
      · simp [TxFrame.nextByte, hphase, hleft, hremaining, hlast, hpos]
        omega
      · simp [TxFrame.nextByte, hphase, hleft, hremaining, hlast, hpos]
        omega
      · simp [TxFrame.nextByte, hphase, hleft, hremaining, hlast, hpos, haddr]
        omega
      · simp [TxFrame.nextByte, hphase, hleft, hremaining, hlast, hpos]
        omega
      · simp [TxFrame.nextByte, hphase, hleft, hremaining, hlast, hpos, hb]
      · simp [TxFrame.nextByte, hphase, hleft, hremaining, hlast, hpos]
  · refine ⟨⟨?_, ?_, ?_, fun hfew => ?_, fun _ => ⟨?_, fun hmore => ?_, ?_⟩⟩, ?_, ?_⟩
    · simp [TxFrame.nextByte, hphase, hleft, hloaded]
    · simp [TxFrame.nextByte, hphase, hleft, hlength]
    · simp [TxFrame.nextByte, hphase, hleft, hlengthCount]
    · omega
    · simp [TxFrame.nextByte, hphase, hleft]
      omega
    · omega
    · simp [TxFrame.nextByte, hphase, hleft, hcomplete]
      omega
    · simp [TxFrame.nextByte, hphase, hleft]
    · simp [TxFrame.nextByte, hphase, hleft]

/-- Later bytes load the length, the response and zeros, one after the other. -/
theorem TxFrame.byte_responds {response : Option (List UInt8)} {count : Nat}
    (hresponds : f.Responds count response) (hcount : h.byteCount = count) (hpos : count ≠ 0)
    (hopcode : h.opcode = opcodeReadResponse)
    (hdata : ∀ r b, response = some r → r[f.txRamReadAddr]? = some b → data = b) :
    (f.byte h rxByte tx status data).Responds (count + 1) response ∧
      (f.byte h rxByte tx status data).txShift = wireByte response count ∧
      (response.isSome = true →
        (f.byte h rxByte tx status data).txLoadedBankSnapshot = f.txLoadedBankSnapshot) := by
  have hbyte : f.byte h rxByte tx status data =
      if count = 1 then
        { f with txShift := if f.txLoadedSnapshot then UInt8.ofNat (f.txLengthSnapshot / 256) else 0 }
      else if count = 2 then f.firstByte data
      else f.nextByte data := by
    simp [TxFrame.byte, hcount, hpos, hopcode, opcodeReadResponse, opcodeReadStatus]
  rw [hbyte]
  cases response with
  | none =>
    obtain ⟨hloaded, hphase, hcomplete⟩ := hresponds
    split
    · exact ⟨⟨hloaded, hphase, hcomplete⟩, by simp [hloaded, wireByte], by simp⟩
    · split
      · simp [TxFrame.firstByte, TxFrame.Responds, TxFrame.Idle, hloaded, wireByte]
      · simp [TxFrame.nextByte, TxFrame.Responds, TxFrame.Idle, hloaded, hphase, hcomplete, wireByte]
  | some r =>
    have hdata := fun b => hdata r b rfl
    split
    · next hone =>
      subst hone
      obtain ⟨hloaded, hlength, hlengthCount, hearly, -⟩ := hresponds
      have hearly := hearly (by omega)
      refine ⟨⟨hloaded, hlength, hlengthCount, fun _ => hearly, fun hlate => ?_⟩, ?_, fun _ => rfl⟩
      · omega
      · simp [hloaded, hlength, wireByte]
    · split
      · next htwo =>
        subst htwo
        obtain ⟨hsending, hshift, hbank⟩ := TxFrame.firstByte_sending hresponds hdata
        exact ⟨hsending, hshift, fun _ => hbank⟩
      · next hone htwo =>
        obtain ⟨hsending, hshift, hbank⟩ :=
          TxFrame.nextByte_sending hresponds (by omega) hdata
        exact ⟨hsending, hshift, fun _ => hbank⟩

end

end NodeNet.Spi

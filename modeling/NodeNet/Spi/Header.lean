import Mathlib.Algebra.Group.Nat.Defs
import NodeNet.Spi.Window

/-! How the bit and byte counters follow the bytes of a window. -/
namespace NodeNet.Spi

theorem shiftIn_toNat (shift : UInt8) (mosi : Bool) :
    (shiftIn shift mosi).toNat = (2 * shift.toNat + mosi.toNat) % 256 := by
  have hlow : shift.toNat <<< 1 % 256 = (shift.toNat % 128) <<< 1 := by
    simp only [Nat.shiftLeft_eq]
    omega
  have hbit : (if mosi then (1 : UInt8) else 0).toNat = mosi.toNat := by
    cases mosi <;> rfl
  have hmosi : mosi.toNat < 2 := Bool.toNat_lt mosi
  have hor := Nat.shiftLeft_add_eq_or_of_lt (i := 1) (b := mosi.toNat) hmosi (shift.toNat % 128)
  have hshift : (shift <<< 1).toNat = shift.toNat <<< 1 % 256 := UInt8.toNat_shiftLeft shift 1
  rw [shiftIn, UInt8.toNat_or, hbit, hshift, hlow, ← hor, Nat.shiftLeft_eq]
  omega

theorem foldl_bits (bits : List Bool) (m : Nat) :
    bits.foldl (fun n b => 2 * n + b.toNat) m =
      m * 2 ^ bits.length + bits.foldl (fun n b => 2 * n + b.toNat) 0 := by
  induction bits generalizing m with
  | nil => simp
  | cons b bits ih =>
    rw [List.foldl_cons, List.foldl_cons, ih, ih (2 * 0 + b.toNat), List.length_cons, Nat.pow_succ]
    simp only [Nat.mul_zero, Nat.zero_add, Nat.add_mul, Nat.add_assoc]
    rw [Nat.mul_comm 2 m, Nat.mul_assoc, Nat.mul_comm 2]

theorem foldl_shiftIn (bits : List Bool) (shift : UInt8) :
    (bits.foldl shiftIn shift).toNat =
      bits.foldl (fun n b => 2 * n + b.toNat) shift.toNat % 256 := by
  induction bits generalizing shift with
  | nil => exact (Nat.mod_eq_of_lt (UInt8.toNat_lt shift)).symm
  | cons b bits ih =>
    rw [List.foldl_cons, List.foldl_cons, ih, shiftIn_toNat, foldl_bits, foldl_bits (m := 2 * _ + _)]
    rw [Nat.add_mod, Nat.mul_mod, Nat.mod_mod, ← Nat.mul_mod, ← Nat.add_mod]

theorem foldl_eight (bits : List Bool) (shift : UInt8) (h : bits.length = 8) :
    bits.foldl shiftIn shift = byteOf bits := by
  apply UInt8.toNat_inj.mp
  rw [foldl_shiftIn, foldl_bits, h, byteOf, UInt8.toNat_ofNat']
  omega

namespace Header

variable {h : Header} {l : Line}

/-- The counters, the opcode and the latches after what the line has carried. -/
structure Follows (h : Header) (l : Line) : Prop where
  short : l.rest.length ≤ 7
  bitCount : h.bitCount = l.rest.length
  few : l.bytes.length ≤ 65536
  byteCount : h.byteCount = l.bytes.length % 65536
  shift : ∃ shift, h.rxShift = l.rest.foldl shiftIn shift
  opcode : ∀ opcode, l.bytes.head? = some opcode →
    h.opcode = opcode ∧ h.frameOpcodeLatched = opcode
  fresh : l.bytes = [] → h.frameOpcodeLatched = 0
  hasHeader : h.frameHasHeaderLatched = decide (3 ≤ l.bytes.length)

theorem follows_start (h : Header) (mosi frameEndToggle : Bool) :
    (h.start mosi frameEndToggle).Follows (Line.take ⟨[], []⟩ mosi) := by
  have htake : Line.take ⟨[], []⟩ mosi = ⟨[], [mosi]⟩ := rfl
  rw [htake]
  refine ⟨?_, rfl, ?_, rfl, ⟨0, rfl⟩, ?_, fun _ => rfl, rfl⟩
  · simp
  · simp
  · simp

theorem Follows.bit (hline : h.Follows l) (mosi : Bool) (hbits : l.rest.length ≠ 7) :
    (h.bit mosi).Follows (l.take mosi) := by
  have htake : l.take mosi = { l with rest := l.rest ++ [mosi] } := by
    simp [Line.take, hbits]
  obtain ⟨hshort, hbit, hfew, hbyte, ⟨shift, hshift⟩, hopcode, hfresh, hheader⟩ := hline
  rw [htake]
  refine ⟨?_, ?_, hfew, hbyte, ⟨shift, ?_⟩, hopcode, hfresh, hheader⟩
  · simp
    omega
  · simp [Header.bit, hbit]
  · simp [Header.bit, List.foldl_append, hshift]

theorem Follows.take (hline : h.Follows l) (hbits : l.rest.length = 7) (mosi : Bool) :
    l.take mosi = ⟨l.bytes ++ [h.rxByte mosi], []⟩ := by
  obtain ⟨shift, hshift⟩ := hline.shift
  have hrx : h.rxByte mosi = byteOf (l.rest ++ [mosi]) := by
    rw [Header.rxByte, hshift, ← foldl_eight _ shift (by simp [hbits]), List.foldl_append]
    rfl
  rw [hrx]
  simp [Line.take, hbits]

theorem controlByte_spec (hd next : Header) (rxByte : UInt8) :
    ∃ word latched, hd.controlByte next rxByte =
      { next with controlWord := word, controlWordLatched := latched } := by
  simp only [Header.controlByte]
  split
  · exact ⟨_, _, rfl⟩
  · split
    · exact ⟨_, _, rfl⟩
    · exact ⟨next.controlWord, next.controlWordLatched, rfl⟩

theorem byte_spec (hd : Header) (mosi : Bool) (status : UInt8) :
    (hd.byte mosi status).bitCount = 0 ∧
      (hd.byte mosi status).byteCount = (hd.byteCount + 1) % 65536 ∧
      (hd.byte mosi status).frameHasHeaderLatched =
        (hd.frameHasHeaderLatched || decide (hd.byteCount = 2)) ∧
      (hd.byte mosi status).opcode = (if hd.byteCount = 0 then hd.rxByte mosi else hd.opcode) ∧
      (hd.byte mosi status).frameOpcodeLatched =
        (if hd.byteCount = 0 then hd.rxByte mosi else hd.frameOpcodeLatched) ∧
      (hd.byte mosi status).frameActive = hd.frameActive ∧
      (hd.byte mosi status).frameEndSeen = hd.frameEndSeen := by
  by_cases hzero : hd.byteCount = 0
  · simp [Header.byte, hzero]
  · by_cases hcontrol : hd.opcode = opcodeWriteControl
    · obtain ⟨word, latched, hbyte⟩ := controlByte_spec hd
        { hd with
          bitCount := 0
          byteCount := (hd.byteCount + 1) % 65536
          rxShift := shiftIn 0 mosi
          frameHasHeaderLatched := hd.frameHasHeaderLatched || hd.byteCount = 2 } (hd.rxByte mosi)
      simp only [Header.byte, hzero, hcontrol, if_true, if_false] at hbyte ⊢
      simp [hbyte]
    · simp [Header.byte, hzero, hcontrol]

theorem Follows.byte (hline : h.Follows l) (mosi : Bool) (status : UInt8)
    (hbits : l.rest.length = 7) (hfew : l.bytes.length < 65536) :
    (h.byte mosi status).Follows (l.take mosi) := by
  rw [hline.take hbits]
  obtain ⟨-, -, -, hbyte, -, hopcode, -, hheader⟩ := hline
  rw [Nat.mod_eq_of_lt hfew] at hbyte
  obtain ⟨hbit', hbyte', hheader', hopcode', hlatched', -, -⟩ := byte_spec h mosi status
  refine ⟨?_, hbit', ?_, ?_, ⟨_, rfl⟩, ?_, ?_, ?_⟩
  · simp
  · simp
    omega
  · simp [hbyte', hbyte]
  · intro opcode hop
    rw [hopcode', hlatched', hbyte]
    cases hbytes : l.bytes with
    | nil => simpa [hbytes] using hop
    | cons first bytes =>
      simp only [hbytes, List.cons_append, List.head?_cons, Option.some.injEq] at hop
      subst hop
      simpa using hopcode first (by rw [hbytes]; rfl)
  · simp
  · rw [hheader', hheader, hbyte]
    simp only [List.length_append, List.length_singleton, Bool.or_eq_decide]
    by_cases hthree : 3 ≤ l.bytes.length + 1
    · simp [hthree]
      omega
    · simp [hthree]
      omega

end Header
end NodeNet.Spi

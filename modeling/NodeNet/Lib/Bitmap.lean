/-! Bits of words, and memories of words read and written bit by bit. -/
namespace NodeNet.Bitmap

/-- A word with one bit, numbered modulo the width. -/
def mask (n : UInt32) : UInt32 := 1 <<< n

def bit (w : UInt32) (n : Nat) : Bool := w.toBitVec.getLsbD n

theorem toBitVec_mask (n : UInt32) : (mask n).toBitVec = BitVec.twoPow 32 (n.toNat % 32) := by
  rw [mask, UInt32.toBitVec_shiftLeft, BitVec.twoPow_eq]
  simp

theorem bit_mask (n : UInt32) (k : Nat) :
    bit (mask n) k = (decide (k < 32) && decide (n.toNat % 32 = k)) := by
  rw [bit, toBitVec_mask, BitVec.getLsbD_twoPow]
  by_cases h : n.toNat % 32 = k
  · subst h
    have : n.toNat % 32 < 32 := Nat.mod_lt _ (by decide)
    simp [this]
  · simp [h]

theorem and_mask_ne_zero (w n : UInt32) : (w &&& mask n ≠ 0) ↔ bit w (n.toNat % 32) = true := by
  have hlt : n.toNat % 32 < 32 := Nat.mod_lt _ (by decide)
  rw [ne_eq, ← UInt32.toBitVec_inj, UInt32.toBitVec_and, toBitVec_mask, BitVec.and_twoPow, bit]
  cases h : w.toBitVec.getLsbD (n.toNat % 32) with
  | false => simp
  | true =>
    have hne : BitVec.twoPow 32 (n.toNat % 32) ≠ 0#32 := by
      intro heq
      have hbit := congrArg (BitVec.getLsbD · (n.toNat % 32)) heq
      simp [hlt] at hbit
    simpa using hne

theorem bit_or (v w : UInt32) (k : Nat) : bit (v ||| w) k = (bit v k || bit w k) := by
  simp [bit]

theorem bit_and (v w : UInt32) (k : Nat) : bit (v &&& w) k = (bit v k && bit w k) := by
  simp [bit]

theorem bit_not (w : UInt32) {k : Nat} (h : k < 32) : bit (~~~w) k = !bit w k := by
  simp [bit, h]

def writeBit (w n : UInt32) (b : Bool) : UInt32 := if b then w ||| mask n else w &&& ~~~(mask n)

theorem bit_writeBit (w n : UInt32) (b : Bool) {k : Nat} (h : k < 32) :
    bit (writeBit w n b) k = if n.toNat % 32 = k then b else bit w k := by
  cases b with
  | true =>
    rw [writeBit, if_pos rfl, bit_or, bit_mask]
    by_cases hk : n.toNat % 32 = k <;> simp [h, hk]
  | false =>
    rw [writeBit, if_neg (by simp), bit_and, bit_not _ h, bit_mask]
    by_cases hk : n.toNat % 32 = k <;> simp [h, hk]

abbrev Words := Nat → UInt32

/-- The place of a bit: its word and its number there. -/
structure Place where
  word : Nat
  number : Nat
  deriving DecidableEq

def Words.write (m : Words) (a : Nat) (w : UInt32) : Words := fun x => if x = a then w else m x

def Words.at (m : Words) (p : Place) : Bool := bit (m p.word) p.number

theorem Words.at_write_of_ne (m : Words) {a : Nat} {w : UInt32} {p : Place} (h : p.word ≠ a) :
    (m.write a w).at p = m.at p := by
  simp [Words.at, Words.write, h]

theorem Words.at_write_writeBit (m : Words) (a : Nat) (n : UInt32) (b : Bool) {p : Place}
    (hp : p.number < 32) :
    (m.write a (writeBit (m a) n b)).at p = if p = ⟨a, n.toNat % 32⟩ then b else m.at p := by
  by_cases ha : p.word = a
  · obtain ⟨word, number⟩ := p
    obtain rfl : word = a := ha
    have hbit := bit_writeBit (m word) n b hp
    simp only [Words.at, Words.write, if_true, Place.mk.injEq, true_and]
    rw [hbit]
    by_cases hn : n.toNat % 32 = number
    · simp [hn]
    · rw [if_neg hn, if_neg (fun h => hn h.symm)]
  · rw [Words.at_write_of_ne m ha, if_neg]
    rintro rfl
    exact ha rfl

end NodeNet.Bitmap

import NodeNet.Lib.Bytes

/-! Little-endian words as byte lists, and reading them back. -/
namespace NodeNet.Bytes

def le16 (v : UInt16) : List UInt8 := [v.toUInt8, (v >>> 8).toUInt8]

def le32 (v : UInt32) : List UInt8 :=
  [v.toUInt8, (v >>> 8).toUInt8, (v >>> 16).toUInt8, (v >>> 24).toUInt8]

theorem getLsbD_mod {w : Nat} (x : BitVec w) (hw : 8 < w) (i : Nat) :
    (x % BitVec.ofNat w 256).getLsbD i = (decide (i < 8) && x.getLsbD i) := by
  have h256 : (BitVec.ofNat w 256).toNat = 2 ^ 8 := by
    rw [BitVec.toNat_ofNat]
    exact Nat.mod_eq_of_lt (Nat.pow_lt_pow_right (by decide : 1 < 2) hw)
  rw [BitVec.getLsbD, BitVec.toNat_umod, h256, Nat.testBit_mod_two_pow]
  rfl

theorem word_le16 (v : UInt16) : v.toUInt8.toUInt16 ||| (v >>> 8).toUInt8.toUInt16 <<< 8 = v := by
  refine UInt16.eq_of_toBitVec_eq (BitVec.eq_of_getLsbD_eq fun i hi => ?_)
  have hmod := fun x => getLsbD_mod (w := 16) x (by decide)
  simp [hmod]
  grind

theorem word_le32 (v : UInt32) : v.toUInt8.toUInt32 ||| (v >>> 8).toUInt8.toUInt32 <<< 8 |||
    (v >>> 16).toUInt8.toUInt32 <<< 16 ||| (v >>> 24).toUInt8.toUInt32 <<< 24 = v := by
  refine UInt32.eq_of_toBitVec_eq (BitVec.eq_of_getLsbD_eq fun i hi => ?_)
  have hmod := fun x => getLsbD_mod (w := 32) x (by decide)
  simp [hmod]
  grind

theorem word16_of_le16 {m : Memory} {a : UInt32} {v : UInt16}
    (h : bytesAt m a 2 = le16 v) : word16 m a = v := by
  simp only [bytesAt, le16, List.cons.injEq, and_true] at h
  rw [word16, h.1, h.2]
  refine UInt16.eq_of_toBitVec_eq (BitVec.eq_of_getLsbD_eq fun i hi => ?_)
  have hm := fun x => getLsbD_mod (w := 16) x (by decide)
  simp [hm]
  grind

theorem word32_of_le32 {m : Memory} {a v : UInt32}
    (h : bytesAt m a 4 = le32 v) : word32 m a = v := by
  simp only [bytesAt, le32, List.cons.injEq, and_true] at h
  obtain ⟨h0, h1, h2, h3⟩ := h
  rw [UInt32.add_assoc] at h2 h3
  rw [UInt32.add_assoc] at h3
  have h2' : m (a + 2) = (v >>> 16).toUInt8 := h2
  have h3' : m (a + 3) = (v >>> 24).toUInt8 := h3
  rw [word32, h0, h1, h2', h3']
  refine UInt32.eq_of_toBitVec_eq (BitVec.eq_of_getLsbD_eq fun i hi => ?_)
  have hm := fun x => getLsbD_mod (w := 32) x (by decide)
  simp [hm]
  grind

theorem bytesAt_word32 (m : Memory) (a : UInt32) : bytesAt m a 4 = le32 (word32 m a) := by
  have e2 : a + 1 + 1 = a + 2 := by rw [UInt32.add_assoc]; rfl
  have e3 : a + 2 + 1 = a + 3 := by rw [UInt32.add_assoc]; rfl
  have hbytes : bytesAt m a 4 = [m a, m (a + 1), m (a + 2), m (a + 3)] := by
    simp only [bytesAt, e2, e3]
  rw [hbytes, le32, word32]
  generalize m a = b0
  generalize m (a + 1) = b1
  generalize m (a + 2) = b2
  generalize m (a + 3) = b3
  simp only [List.cons.injEq, and_true]
  refine ⟨?_, ?_, ?_, ?_⟩
  all_goals
    refine UInt8.eq_of_toBitVec_eq (BitVec.eq_of_getLsbD_eq fun i hi => ?_)
    simp
  all_goals grind

theorem bytesAt_patch (m : Memory) (a : UInt32) {bs : List UInt8} (h : bs.length < 2 ^ 32) :
    bytesAt (patch m a bs) a bs.length = bs := by
  refine List.ext_getElem? fun k => ?_
  by_cases hk : k < bs.length
  · have hd : (a + UInt32.ofNat k - a).toNat = k := by
      rw [UInt32.add_comm, UInt32.add_sub_cancel,
        UInt32.toNat_ofNat_of_lt' (by simp [UInt32.size]; omega)]
    rw [bytesAt_getElem? _ _ _ _ hk, List.getElem?_eq_getElem hk, patch, hd,
      List.getElem?_eq_getElem hk]
    rfl
  · rw [List.getElem?_eq_none (by simpa using hk), List.getElem?_eq_none (by omega)]

end NodeNet.Bytes

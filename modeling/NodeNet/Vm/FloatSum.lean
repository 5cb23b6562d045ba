import NodeNet.Vm.FloatRounding

/-! The sums and differences of the float unit are rounded, but for two kinds. -/
namespace NodeNet.Vm
open NodeNet.Binary32
open Fdiv (floatQnan packFloatZero packFloatInf leadingZeroCount24)

namespace Float

/-- The magnitude in units of the least denormal. -/
def Parts.units (p : Parts) : Nat := p.mant * 2 ^ (p.exp - 1)

/-- The parts of a finite float that is not zero. -/
structure Parts.Valid (p : Parts) : Prop where
  exp_pos : 1 ≤ p.exp
  exp_le : p.exp ≤ 254
  mant_pos : 1 ≤ p.mant
  mant_lt : p.mant < 2 ^ 24
  denormal : p.mant < 2 ^ 23 → p.exp = 1

theorem exponent_le_of_finite {raw : BitVec 32} (h : isFinite raw = true) :
    (exponent raw).toNat ≤ 254 := by
  have hlt := (exponent raw).isLt
  have hne : (exponent raw).toNat ≠ 255 := by
    intro heq
    have hfull : exponent raw = 0xFF := BitVec.eq_of_toNat_eq heq
    rw [isFinite, hfull] at h
    exact absurd h (by decide)
  omega

section
variable {s : Bool} {raw : BitVec 32}

theorem parts_valid (hfinite : isFinite raw = true) (hzero : isZero raw = false) :
    (parts s raw).Valid := by
  have hle := exponent_le_of_finite hfinite
  have hpos := significand_pos hzero
  have hlt := significand_lt raw
  by_cases hexp : exponent raw = 0
  · have heff : (parts s raw).exp = 1 := if_pos hexp
    exact ⟨by omega, by omega, hpos, hlt, fun _ => heff⟩
  · have heff : (parts s raw).exp = (exponent raw).toNat := if_neg hexp
    have hone := exponent_pos hexp
    have hsig := significand_of_normal hexp
    refine ⟨by omega, by omega, hpos, hlt, fun hmant => ?_⟩
    change significand raw < 2 ^ 23 at hmant
    omega

theorem parts_units : (parts s raw).units = units raw := by
  change significand raw * 2 ^ (effExp raw - 1) = _
  rw [units, effExp]
  by_cases hexp : exponent raw = 0
  · rw [if_pos hexp, hexp]
    rfl
  · rw [if_neg hexp]

end

section
variable {large small : Parts}

theorem shiftedSmall_eq (hsmall : small.mant < 2 ^ 24) :
    shiftedSmall large small = 8 * small.mant / 2 ^ (large.exp - small.exp) := by
  rw [shiftedSmall, Nat.shiftLeft_eq, Nat.shiftRight_eq_div_pow, Nat.mul_comm]
  split
  · have hpow : 2 ^ 27 ≤ 2 ^ (large.exp - small.exp) := Nat.pow_le_pow_right two_pos (by omega)
    exact (Nat.div_eq_of_lt (by omega)).symm
  · rfl

theorem Parts.below.exp_le (h : small.below large) : small.exp ≤ large.exp := by
  obtain h | h := h
  · exact h.le
  · exact h.1.ge

theorem units_aligned (hl : large.Valid) (hs : small.Valid) (h : small.exp ≤ large.exp) :
    large.units = large.mant * 2 ^ (large.exp - small.exp) * 2 ^ (small.exp - 1) := by
  have hlarge := hl.exp_pos
  have hsmall := hs.exp_pos
  rw [Parts.units, Nat.mul_assoc, ← Nat.pow_add]
  congr 2
  omega

theorem sum_bounds (hl : large.Valid) (hs : small.Valid) (h : small.exp ≤ large.exp) :
    (large.mant + small.mant / 2 ^ (large.exp - small.exp)) * 2 ^ (large.exp - 1) ≤
        large.units + small.units ∧
      large.units + small.units <
        (large.mant + small.mant / 2 ^ (large.exp - small.exp) + 1) * 2 ^ (large.exp - 1) := by
  have hlarge := hl.exp_pos
  have hsmall := hs.exp_pos
  rw [units_aligned hl hs h, Parts.units, ← Nat.add_mul]
  have hpow : 2 ^ (large.exp - 1) = 2 ^ (large.exp - small.exp) * 2 ^ (small.exp - 1) := by
    rw [← Nat.pow_add]
    congr 1
    omega
  have hpos := Nat.two_pow_pos (large.exp - small.exp)
  generalize 2 ^ (large.exp - small.exp) = d at hpow hpos ⊢
  have hdiv := Nat.div_add_mod small.mant d
  have hmod := Nat.mod_lt small.mant hpos
  rw [hpow, ← Nat.mul_assoc, ← Nat.mul_assoc]
  constructor
  · refine Nat.mul_le_mul_right _ ?_
    rw [Nat.add_mul, Nat.mul_comm (small.mant / d)]
    omega
  · refine Nat.mul_lt_mul_of_pos_right ?_ (Nat.two_pow_pos _)
    rw [Nat.add_mul, Nat.add_mul, Nat.mul_comm (small.mant / d)]
    omega

theorem testBit_iff {n k : Nat} (h : n < 2 ^ (k + 1)) : n.testBit k = decide (2 ^ k ≤ n) := by
  rw [Nat.testBit_eq_decide_div_mod_eq]
  have hpos := Nat.two_pow_pos k
  rw [Nat.pow_succ] at h
  by_cases hle : 2 ^ k ≤ n
  · have hdiv : n / 2 ^ k = 1 := by
      rw [Nat.div_eq_iff hpos]
      omega
    simp [hdiv, hle]
  · simp [Nat.div_eq_of_lt (Nat.lt_of_not_le hle), hle]

theorem addMagnitudes_eq (hl : large.Valid) (hs : small.Valid) {m : Nat}
    (hm : m = large.mant + small.mant / 2 ^ (large.exp - small.exp)) :
    addMagnitudes large small =
      if 2 ^ 24 ≤ m then
        if large.exp = 254 then packFloatInf large.sign
        else pack large.sign (.ofNat 8 (large.exp + 1)) (.ofNat 23 (m / 2))
      else pack large.sign (.ofNat 8 large.exp) (.ofNat 23 m) := by
  have hsmall : small.mant / 2 ^ (large.exp - small.exp) ≤ small.mant := Nat.div_le_self ..
  have hltl := hl.mant_lt
  have hlts := hs.mant_lt
  have hpos := hl.mant_pos
  have hexp := hl.exp_le
  have hdiv : 8 * small.mant / 2 ^ (large.exp - small.exp) / 8 =
      small.mant / 2 ^ (large.exp - small.exp) := by
    rw [Nat.div_div_eq_div_mul, Nat.mul_comm, Nat.mul_div_mul_right _ _ (by decide)]
  have hext : (large.mant <<< 3 + shiftedSmall large small) / 8 = m := by
    rw [shiftedSmall_eq hlts, Nat.shiftLeft_eq, hm]
    omega
  generalize small.mant / 2 ^ (large.exp - small.exp) = shifted at hm hsmall
  unfold addMagnitudes
  generalize large.mant <<< 3 + shiftedSmall large small = sumExt at hext ⊢
  simp only [testBit_iff (k := 27) (n := sumExt) (by omega), decide_eq_true_eq,
    Nat.shiftRight_eq_div_pow]
  by_cases hcarry : 2 ^ 24 ≤ m
  · have hle : 2 ^ 27 ≤ sumExt := by omega
    have hmant : sumExt / 2 ^ 1 / 2 ^ 3 % 2 ^ 24 = m / 2 := by omega
    have hnext : (large.exp + 1) % 2 ^ 8 = large.exp + 1 := by omega
    rw [if_pos hcarry, if_pos hle, if_pos hle, hmant, hnext, if_neg (by omega)]
    refine if_congr ?_ rfl rfl
    omega
  · have hle : ¬2 ^ 27 ≤ sumExt := by omega
    have hmant : sumExt / 2 ^ 3 % 2 ^ 24 = m := by omega
    rw [if_neg hcarry, if_neg hle, if_neg hle, hmant, if_neg (by omega), if_neg (by omega)]

theorem addMagnitudes_rounds (hl : large.Valid) (hs : small.Valid) (h : small.below large)
    (hnormal : 2 ^ 23 ≤ large.mant + small.mant) :
    RoundsTo (signed large.sign (((large.units + small.units : Nat) : Rat) * 2 ^ (-149 : Int)))
      (addMagnitudes large small) := by
  obtain ⟨hlow, hhigh⟩ := sum_bounds hl hs h.exp_le
  have hexp := hl.exp_pos
  have hexp' := hl.exp_le
  have hltl := hl.mant_lt
  have hlts := hs.mant_lt
  have hlow' : 2 ^ 23 ≤ large.mant + small.mant / 2 ^ (large.exp - small.exp) := by
    by_cases hdenormal : large.mant < 2 ^ 23
    · have hone := hl.denormal hdenormal
      have hsame : large.exp - small.exp = 0 := by
        have := hs.exp_pos
        omega
      rw [hsame, Nat.pow_zero, Nat.div_one]
      exact hnormal
    · exact Nat.le_add_right_of_le (Nat.le_of_not_lt hdenormal)
  have hhigh' : large.mant + small.mant / 2 ^ (large.exp - small.exp) < 2 ^ 25 := by
    have hle : small.mant / 2 ^ (large.exp - small.exp) ≤ small.mant := Nat.div_le_self ..
    omega
  rw [addMagnitudes_eq hl hs rfl]
  generalize large.mant + small.mant / 2 ^ (large.exp - small.exp) = m at *
  generalize large.units + small.units = y at *
  by_cases hcarry : 2 ^ 24 ≤ m
  · rw [if_pos hcarry]
    have hpow : 2 ^ (large.exp + 1 - 1) = 2 * 2 ^ (large.exp - 1) := by
      rw [← Nat.pow_succ']
      congr 1
      omega
    have hlow2 : m / 2 * 2 ^ (large.exp + 1 - 1) ≤ y := by
      refine le_trans ?_ hlow
      rw [hpow, ← Nat.mul_assoc]
      exact Nat.mul_le_mul_right _ (by omega)
    have hhigh2 : y < (m / 2 + 1) * 2 ^ (large.exp + 1 - 1) := by
      refine hhigh.trans_le ?_
      rw [hpow, ← Nat.mul_assoc]
      exact Nat.mul_le_mul_right _ (by omega)
    split
    · rename_i hmax
      refine roundsTo_inf ?_
      have hle : 2 ^ 277 ≤ y := by
        refine le_trans ?_ hlow
        rw [hmax, Nat.pow_add 2 24 253]
        exact Nat.mul_le_mul_right _ hcarry
      have hcast : ((2 ^ 277 : Nat) : Rat) ≤ y := Nat.cast_le.mpr hle
      rwa [Nat.cast_pow, Nat.cast_ofNat] at hcast
    · exact roundsTo_cut (by omega) (by omega) (by omega) (by omega) hlow2 hhigh2
  · rw [if_neg hcarry]
    exact roundsTo_cut hexp hexp' hlow' (by omega) hlow hhigh

theorem not_addMagnitudes_rounds (hl : large.Valid) (hs : small.Valid)
    (hdenormal : large.mant + small.mant < 2 ^ 23) :
    ¬RoundsTo (signed large.sign (((large.units + small.units : Nat) : Rat) * 2 ^ (-149 : Int)))
      (addMagnitudes large small) := by
  have hlarge := hl.denormal (by omega)
  have hsmall := hs.denormal (by omega)
  have hpos := hl.mant_pos
  have hsum : large.units + small.units = large.mant + small.mant := by
    simp [Parts.units, hlarge, hsmall]
  rw [addMagnitudes_eq hl hs (m := large.mant + small.mant) (by simp [hlarge, hsmall]),
    if_neg (by omega), hlarge, hsum]
  refine not_roundsTo_pack le_rfl (by decide) (by omega) hdenormal ?_ ?_
  · exact_mod_cast (by omega : 0 < large.mant + small.mant)
  · exact_mod_cast hdenormal

theorem shiftCount_spec {diff : Nat} (hdiff : 8 ≤ diff ∨ diff = 4) (hlt : diff < 2 ^ 27) :
    ∃ k, (leadingZeroCount24 (.ofNat 24 (diff >>> 3))).toNat = k ∧ 2 ^ 26 ≤ diff * 2 ^ k ∧
      diff * 2 ^ k < 2 ^ 27 := by
  obtain hdiff | rfl := hdiff
  · have hvalue : (BitVec.ofNat 24 (diff >>> 3)).toNat = diff / 8 := by
      rw [BitVec.toNat_ofNat, Nat.shiftRight_eq_div_pow]
      omega
    have hne : BitVec.ofNat 24 (diff >>> 3) ≠ 0 := by
      intro hzero
      rw [hzero] at hvalue
      change 0 = diff / 8 at hvalue
      omega
    obtain ⟨k, hk, hle, hlow, hhigh⟩ := Fdiv.leadingZeroCount24_spec hne
    rw [hvalue] at hlow hhigh
    have hsplit : 2 ^ 24 = 2 ^ (24 - k) * 2 ^ k := by
      rw [← Nat.pow_add]
      congr 1
      omega
    rw [hsplit] at hhigh
    have hnext : (diff / 8 + 1) * 2 ^ k ≤ 2 ^ 24 := by
      rw [hsplit]
      exact Nat.mul_le_mul_right _ (Nat.lt_of_mul_lt_mul_right hhigh)
    refine ⟨k, hk, ?_, ?_⟩
    · have hmul : 8 * (diff / 8) * 2 ^ k ≤ diff * 2 ^ k := Nat.mul_le_mul_right _ (by omega)
      rw [Nat.mul_assoc] at hmul
      omega
    · have hmul : diff * 2 ^ k < 8 * (diff / 8 + 1) * 2 ^ k :=
        Nat.mul_lt_mul_of_pos_right (by omega) (Nat.two_pow_pos k)
      rw [Nat.mul_assoc] at hmul
      omega
  · exact ⟨24, by decide, by decide, by decide⟩

/-- The difference of the extended mantissas, with what the alignment drops. -/
structure Differs (large small : Parts) (diff dropped : Nat) : Prop where
  ext : large.mant <<< 3 = shiftedSmall large small + diff
  lt : diff < 2 ^ 27
  counted : 8 ≤ diff ∨ diff = 4
  exact : diff * 2 ^ (large.exp - 1) = 8 * (large.units - small.units) + dropped
  /-- Bits are dropped only if the operands are so far apart that little is cancelled. -/
  near : dropped = 0 ∨ 5 ≤ large.exp ∧ 2 ^ 25 ≤ diff ∧ dropped < 2 ^ (large.exp - 1)

theorem exists_differs (hl : large.Valid) (hs : small.Valid) (h : small.below large)
    (hlt : small.units < large.units) : ∃ diff dropped, Differs large small diff dropped := by
  have hexp := h.exp_le
  have hposl := hl.exp_pos
  have hposs := hs.exp_pos
  have hltl := hl.mant_lt
  have hlts := hs.mant_lt
  have haligned := units_aligned hl hs hexp
  have hpow : 2 ^ (large.exp - 1) = 2 ^ (large.exp - small.exp) * 2 ^ (small.exp - 1) := by
    rw [← Nat.pow_add]
    congr 1
    omega
  have hnormal (hd : 1 ≤ large.exp - small.exp) : 2 ^ 23 ≤ large.mant := by
    by_contra hdenormal
    have := hl.denormal (Nat.lt_of_not_le hdenormal)
    omega
  obtain ⟨d, hd⟩ : ∃ d, d = large.exp - small.exp := ⟨_, rfl⟩
  rw [← hd] at haligned hpow hnormal
  have hdiv := Nat.div_add_mod (8 * small.mant) (2 ^ d)
  have hmod := Nat.mod_lt (8 * small.mant) (Nat.two_pow_pos d)
  have hshifted : shiftedSmall large small = 8 * small.mant / 2 ^ d := by
    rw [shiftedSmall_eq hlts, hd]
  have hcut : (8 * large.mant - 8 * small.mant / 2 ^ d) * 2 ^ d =
      8 * (large.mant * 2 ^ d - small.mant) + 8 * small.mant % 2 ^ d := by
    have hle : small.mant ≤ large.mant * 2 ^ d := by
      rw [haligned, Parts.units] at hlt
      exact (Nat.lt_of_mul_lt_mul_right hlt).le
    rw [Nat.sub_mul, Nat.mul_comm (_ / _), Nat.mul_assoc]
    omega
  have hexact : (8 * large.mant - 8 * small.mant / 2 ^ d) * 2 ^ (large.exp - 1) =
      8 * (large.units - small.units) + 8 * small.mant % 2 ^ d * 2 ^ (small.exp - 1) := by
    rw [hpow, ← Nat.mul_assoc, hcut, haligned, Parts.units, ← Nat.sub_mul, Nat.add_mul,
      Nat.mul_assoc]
  have hdropped : 8 * small.mant % 2 ^ d * 2 ^ (small.exp - 1) < 2 ^ (large.exp - 1) := by
    rw [hpow]
    exact Nat.mul_lt_mul_of_pos_right hmod (Nat.two_pow_pos _)
  by_cases hnear : d ≤ 3
  · have hcases : 8 * small.mant % 2 ^ d = 0 ∧ 8 * small.mant / 2 ^ d ≤ 8 * large.mant ∧
        (8 ≤ 8 * large.mant - 8 * small.mant / 2 ^ d ∨
          8 * large.mant - 8 * small.mant / 2 ^ d = 4) := by
      obtain rfl | hfar := Nat.eq_zero_or_pos d
      · rw [haligned, Parts.units] at hlt
        have hmant := Nat.lt_of_mul_lt_mul_right hlt
        omega
      · have hmant := hnormal hfar
        obtain rfl | rfl | rfl : d = 1 ∨ d = 2 ∨ d = 3 := by omega
        all_goals omega
    obtain ⟨hnone, hle, hcounted⟩ := hcases
    rw [hnone, Nat.zero_mul, Nat.add_zero] at hexact
    refine ⟨_, 0, ?_, by omega, hcounted, hexact, Or.inl rfl⟩
    rw [hshifted, Nat.shiftLeft_eq]
    omega
  · have hfar : 8 * small.mant / 2 ^ d ≤ 8 * small.mant / 2 ^ 4 :=
      Nat.div_le_div_left (Nat.pow_le_pow_right two_pos (by omega)) (by decide)
    have hmant := hnormal (by omega)
    refine ⟨_, _, ?_, by omega, by omega, hexact, Or.inr ⟨by omega, by omega, hdropped⟩⟩
    rw [hshifted, Nat.shiftLeft_eq]
    omega

theorem shiftedSmall_of_equal (hl : large.Valid) (hs : small.Valid) (h : small.below large)
    (heq : small.units = large.units) : large.mant <<< 3 = shiftedSmall large small := by
  rw [units_aligned hl hs h.exp_le, Parts.units] at heq
  have hmant := Nat.eq_of_mul_eq_mul_right (Nat.two_pow_pos _) heq
  rw [shiftedSmall_eq hs.mant_lt, Nat.shiftLeft_eq, hmant, ← Nat.mul_assoc,
    Nat.mul_div_cancel _ (Nat.two_pow_pos _), Nat.mul_comm]

theorem Parts.below.units_le (hl : large.Valid) (hs : small.Valid) (h : small.below large) :
    small.units ≤ large.units := by
  rw [units_aligned hl hs h.exp_le, Parts.units]
  refine Nat.mul_le_mul_right _ ?_
  obtain h | ⟨hexp, hmant⟩ := h
  · have hnormal : 2 ^ 23 ≤ large.mant := by
      by_contra hdenormal
      have := hl.denormal (Nat.lt_of_not_le hdenormal)
      have := hs.exp_pos
      omega
    have hpow : 2 ^ 1 ≤ 2 ^ (large.exp - small.exp) :=
      Nat.pow_le_pow_right two_pos (by omega)
    have hmul := Nat.mul_le_mul hnormal hpow
    have := hs.mant_lt
    omega
  · rw [hexp, Nat.sub_self, Nat.pow_zero, Nat.mul_one]
    exact hmant

/-- The difference of the magnitudes is packed with a full mantissa, or it is below the normal
floats. -/
theorem subMagnitudes_cases (hl : large.Valid) (hs : small.Valid) (h : small.below large)
    (hlt : small.units < large.units) (staleSign : Bool) :
    (large.units - small.units < 2 ^ 23 ∧
      subMagnitudes staleSign large small = packFloatZero staleSign) ∨
    (2 ^ 23 ≤ large.units - small.units ∧
      RoundsTo (signed large.sign
          (((large.units - small.units : Nat) : Rat) * 2 ^ (-149 : Int)))
        (subMagnitudes staleSign large small)) := by
  obtain ⟨diff, dropped, hext, hdiff, hcounted, hexact, hnear⟩ := exists_differs hl hs h hlt
  obtain ⟨k, hk, hlow, hhigh⟩ := shiftCount_spec hcounted hdiff
  have hexp := hl.exp_pos
  have hexp' := hl.exp_le
  have hne : ¬large.mant <<< 3 = shiftedSmall large small := by omega
  have hsub : large.mant <<< 3 - shiftedSmall large small = diff := by omega
  have hmant : (diff <<< k % 2 ^ 27) >>> 3 = diff * 2 ^ k / 8 := by
    rw [Nat.shiftLeft_eq, Nat.mod_eq_of_lt hhigh, Nat.shiftRight_eq_div_pow]
  have heq : subMagnitudes staleSign large small =
      if large.exp ≤ k then packFloatZero staleSign
      else pack large.sign (.ofNat 8 (large.exp - k)) (.ofNat 23 (diff * 2 ^ k / 8)) := by
    rw [subMagnitudes, if_neg hne, hsub]
    dsimp only
    rw [hk, hmant, if_neg (c := diff * 2 ^ k / 8 = 0) (by omega)]
  rw [heq]
  generalize large.units - small.units = x at hexact ⊢
  -- Where bits are dropped, at most one place is cancelled.
  have hfew : dropped = 0 ∨ k ≤ 1 ∧ k + 4 ≤ large.exp ∧ dropped < 2 ^ (large.exp - 1) := by
    obtain hnone | ⟨hfar, hbig, hdropped⟩ := hnear
    · exact Or.inl hnone
    · have hone : k ≤ 1 := by
        by_contra htwo
        have hpow : 2 ^ 2 ≤ 2 ^ k := Nat.pow_le_pow_right two_pos (by omega)
        have hmul := Nat.mul_le_mul hbig hpow
        omega
      exact Or.inr ⟨hone, by omega, hdropped⟩
  by_cases hsmall : large.exp ≤ k
  · rw [if_pos hsmall]
    refine Or.inl ⟨?_, rfl⟩
    have hpow : 2 ^ (large.exp - 1 + 1) ≤ 2 ^ k := Nat.pow_le_pow_right two_pos (by omega)
    have hmul := Nat.mul_le_mul_left diff hpow
    rw [Nat.pow_succ, ← Nat.mul_assoc, hexact] at hmul
    omega
  · rw [if_neg hsmall]
    have hpow : 2 ^ (large.exp - 1) = 2 ^ k * 2 ^ (large.exp - k - 1) := by
      rw [← Nat.pow_add]
      congr 1
      omega
    rw [hpow, ← Nat.mul_assoc] at hexact
    have hunit := Nat.two_pow_pos (large.exp - k - 1)
    have hless : dropped = 0 ∨
        8 ≤ 2 ^ (large.exp - k - 1) ∧ dropped < 2 * 2 ^ (large.exp - k - 1) := by
      refine hfew.imp id fun hfar => ?_
      obtain ⟨hone, hplaces, hdropped⟩ := hfar
      have hle : 2 ^ 3 ≤ 2 ^ (large.exp - k - 1) := Nat.pow_le_pow_right two_pos (by omega)
      have htwo : 2 ^ k ≤ 2 ^ 1 := Nat.pow_le_pow_right two_pos hone
      have hmul := Nat.mul_le_mul_right (2 ^ (large.exp - k - 1)) htwo
      rw [hpow] at hdropped
      omega
    have hbottom := Nat.mul_le_mul_right (2 ^ (large.exp - k - 1)) hlow
    have hm : 8 * (diff * 2 ^ k / 8) ≤ diff * 2 ^ k := Nat.mul_div_le ..
    have hm' : diff * 2 ^ k < 8 * (diff * 2 ^ k / 8 + 1) := by omega
    have hcut := Nat.mul_le_mul_right (2 ^ (large.exp - k - 1)) hm
    have hnext := Nat.mul_lt_mul_of_pos_right hm' hunit
    rw [Nat.mul_assoc 8] at hcut hnext
    have hlowx : 2 * (diff * 2 ^ k / 8 * 2 ^ (large.exp - k - 1)) <
        2 * x + 2 ^ (large.exp - k - 1) := by omega
    have hhighx : x < (diff * 2 ^ k / 8 + 1) * 2 ^ (large.exp - k - 1) := by omega
    refine Or.inr ⟨by omega, roundsTo_pack (by omega) (by omega) (by omega) (by omega) ?_ ?_⟩
    · exact_mod_cast hlowx
    · exact_mod_cast hhighx

/-- The number that the operands' sum is, and when the unit rounds it. -/
theorem magnitudes_roundsTo_iff (hl : large.Valid) (hs : small.Valid) (h : small.below large)
    (staleSign : Bool) {x : Rat}
    (hx : x = signed large.sign ((large.units : Rat) * 2 ^ (-149 : Int)) +
      signed small.sign ((small.units : Rat) * 2 ^ (-149 : Int))) :
    RoundsTo x (if large.sign = small.sign then addMagnitudes large small
        else subMagnitudes staleSign large small) ↔
      ¬(large.sign = small.sign ∧ large.mant + small.mant < 2 ^ 23 ∨
        large.sign ≠ small.sign ∧ x ≠ 0 ∧ |x| < 2 ^ (-126 : Int) ∧
          staleSign ≠ decide (x < 0)) := by
  by_cases hsign : large.sign = small.sign
  · have hsum : x =
        signed large.sign (((large.units + small.units : Nat) : Rat) * 2 ^ (-149 : Int)) := by
      rw [hx, hsign]
      push_cast
      cases small.sign <;> simp only [signed, if_true, if_false, Bool.false_eq_true] <;> ring
    rw [if_pos hsign, hsum]
    by_cases hdenormal : large.mant + small.mant < 2 ^ 23
    · exact iff_of_false (not_addMagnitudes_rounds hl hs hdenormal)
        (not_not.mpr (Or.inl ⟨hsign, hdenormal⟩))
    · refine iff_of_true (addMagnitudes_rounds hl hs h (Nat.le_of_not_lt hdenormal)) ?_
      rintro (⟨-, hlt⟩ | ⟨hne, -⟩)
      · exact hdenormal hlt
      · exact hne hsign
  · have hle := h.units_le hl hs
    have hdiff : x =
        signed large.sign (((large.units - small.units : Nat) : Rat) * 2 ^ (-149 : Int)) := by
      rw [hx, Nat.cast_sub hle, Bool.eq_not_of_ne (Ne.symm hsign)]
      cases large.sign <;>
        simp only [signed, if_true, if_false, Bool.false_eq_true, Bool.not_true, Bool.not_false] <;>
        ring
    rw [if_neg hsign]
    obtain heq | hlt := hle.eq_or_lt
    · have hzero : x = 0 := by
        rw [hdiff, heq, Nat.sub_self]
        cases large.sign <;> simp [signed]
      have hres : subMagnitudes staleSign large small = 0 := by
        rw [subMagnitudes, if_pos (shiftedSmall_of_equal hl hs h heq)]
      rw [hres, hzero]
      refine iff_of_true (roundsTo_self (by decide) (value_of_isZero (by decide)).symm) ?_
      · rintro (⟨hsame, -⟩ | ⟨-, hne, -⟩)
        · exact hsign hsame
        · exact hne rfl
    · have hpos : (0 : Rat) < (large.units - small.units : Nat) := by
        exact_mod_cast Nat.sub_pos_of_lt hlt
      have hneg : decide (x < 0) = large.sign := by rw [hdiff, signed_units_neg hpos]
      have habs : |x| < 2 ^ (-126 : Int) ↔ large.units - small.units < 2 ^ 23 := by
        rw [hdiff, abs_signed_units _ hpos.le, units_lt_pow (n := 23) rfl]
        exact_mod_cast Iff.rfl
      have hne : x ≠ 0 := by
        rw [hdiff, ← abs_pos, abs_signed_units _ hpos.le]
        positivity
      rw [hneg, habs]
      obtain ⟨hsmall, hres⟩ | ⟨hbig, hres⟩ := subMagnitudes_cases hl hs h hlt staleSign
      · rw [hres, hdiff]
        by_cases hstale : staleSign = large.sign
        · rw [hstale]
          refine iff_of_true (roundsTo_zero hpos (by exact_mod_cast hsmall)) ?_
          rintro (⟨hsame, -⟩ | ⟨-, -, -, hother⟩)
          · exact hsign hsame
          · exact hother rfl
        · refine iff_of_false (not_roundsTo_zero (Nat.sub_pos_of_lt hlt) hsmall hstale) ?_
          rw [← hdiff]
          exact not_not.mpr (Or.inr ⟨hsign, hne, hsmall, hstale⟩)
      · refine iff_of_true (hdiff ▸ hres) ?_
        rintro (⟨hsame, -⟩ | ⟨-, -, hsmall, -⟩)
        · exact hsign hsame
        · exact absurd hsmall hbig.not_gt

end

theorem Parts.below_total {left right : Parts} (h : ¬right.below left) : left.below right := by
  unfold below at h ⊢
  omega

theorem addsubParts_roundsTo_iff {left right : Parts} (hl : left.Valid) (hr : right.Valid)
    (staleSign : Bool) {x : Rat}
    (hx : x = signed left.sign ((left.units : Rat) * 2 ^ (-149 : Int)) +
      signed right.sign ((right.units : Rat) * 2 ^ (-149 : Int))) :
    RoundsTo x (addsubParts staleSign left right) ↔
      ¬(left.sign = right.sign ∧ left.mant + right.mant < 2 ^ 23 ∨
        left.sign ≠ right.sign ∧ x ≠ 0 ∧ |x| < 2 ^ (-126 : Int) ∧
          staleSign ≠ decide (x < 0)) := by
  unfold addsubParts
  by_cases h : right.below left
  · simp only [if_pos h]
    exact magnitudes_roundsTo_iff hl hr h staleSign hx
  · simp only [if_neg h]
    rw [add_comm] at hx
    rw [magnitudes_roundsTo_iff hr hl (Parts.below_total h) staleSign hx, eq_comm (a := right.sign),
      ne_comm (a := right.sign), Nat.add_comm]

end Float

end NodeNet.Vm

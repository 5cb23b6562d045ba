import NodeNet.Vm.Divider

/-! The mantissas that the divider divides, and the digits of their quotient. -/
namespace NodeNet.Vm.Fdiv
open NodeNet.Binary32

theorem leadingZeroCount24_spec {value : BitVec 24} (h : value ≠ 0) :
    ∃ k, (leadingZeroCount24 value).toNat = k ∧ k < 24 ∧ 2 ^ 23 ≤ value.toNat * 2 ^ k ∧
      value.toNat * 2 ^ k < 2 ^ 24 := by
  cases hfind : (List.range 24).find? fun k => value.getLsbD (23 - k) with
  | none =>
    have hclear := List.find?_eq_none.mp hfind
    refine absurd (BitVec.eq_of_getLsbD_eq fun k hk => ?_) h
    have hbit := hclear (23 - k) (List.mem_range.mpr (by omega))
    have hplace : 23 - (23 - k) = k := by omega
    simpa [hplace] using hbit
  | some k =>
    have hk : k < 24 := List.mem_range.mp (List.mem_of_find?_eq_some hfind)
    have hset := List.find?_some hfind
    obtain ⟨-, -, hbefore⟩ := List.find?_range_eq_some.mp hfind
    have hlow : 2 ^ (23 - k) ≤ value.toNat := Nat.ge_two_pow_of_testBit hset
    have hhigh : value.toNat < 2 ^ (24 - k) := by
      apply Nat.lt_pow_two_of_testBit
      intro j hj
      by_cases hwidth : j < 24
      · have hclear := hbefore (23 - j) (by omega)
        have hplace : 23 - (23 - j) = j := by omega
        have hbit : value.getLsbD j = false := by simpa [hplace] using hclear
        exact hbit
      · exact BitVec.getLsbD_of_ge value j (by omega)
    refine ⟨k, ?_, hk, ?_, ?_⟩
    · rw [leadingZeroCount24, hfind, Option.getD_some, BitVec.toNat_ofNat]
      omega
    · calc
        2 ^ 23 = 2 ^ (23 - k) * 2 ^ k := by rw [← Nat.pow_add]; congr 1; omega
        _ ≤ value.toNat * 2 ^ k := Nat.mul_le_mul_right _ hlow
    · calc
        value.toNat * 2 ^ k < 2 ^ (24 - k) * 2 ^ k :=
          Nat.mul_lt_mul_of_pos_right hhigh (by positivity)
        _ = 2 ^ 24 := by rw [← Nat.pow_add]; congr 1; omega

/-- A normalized mantissa and its exponent stand for the magnitude of a float. -/
structure Decodes (raw : BitVec 32) (mantissa : Nat) (exp : Int) : Prop where
  low : 2 ^ 23 ≤ mantissa
  high : mantissa < 2 ^ 24
  expLow : -149 ≤ exp
  expHigh : exp ≤ 127
  magnitude : magnitude raw = mantissa * 2 ^ (exp - 23)

theorem toInt_sub_of_bounds {x y : BitVec 11} (hlow : -1024 ≤ x.toInt - y.toInt)
    (hhigh : x.toInt - y.toInt < 1024) : (x - y).toInt = x.toInt - y.toInt := by
  rw [BitVec.toInt_sub]
  apply Int.bmod_eq_of_le <;> omega

theorem toInt_setWidth_of_small {w : Nat} {x : BitVec w} (h : x.toNat < 1024) :
    (x.setWidth 11).toInt = x.toNat := by
  have hwidth : (x.setWidth 11).toNat = x.toNat := by
    rw [BitVec.toNat_setWidth]
    omega
  rw [BitVec.toInt_eq_toNat_of_lt (by rw [hwidth]; omega), hwidth]

theorem decodes_denormal {raw : BitVec 32} (hexp : exponent raw = 0)
    (hfraction : fraction raw ≠ 0) :
    Decodes raw (decodeOperand raw).1.toNat (decodeOperand raw).2.toInt := by
  have hraw : ((fraction raw).setWidth 24).toNat = (fraction raw).toNat :=
    BitVec.toNat_setWidth_of_le (by decide)
  have hne : (fraction raw).setWidth 24 ≠ 0 := by
    intro h
    have hzero := congrArg BitVec.toNat h
    rw [hraw] at hzero
    exact hfraction (BitVec.eq_of_toNat_eq hzero)
  obtain ⟨k, hk, hlt, hlow, hhigh⟩ := leadingZeroCount24_spec hne
  rw [hraw] at hlow hhigh
  have hcount : ((leadingZeroCount24 ((fraction raw).setWidth 24)).setWidth 11).toInt = k := by
    rw [toInt_setWidth_of_small (by omega), hk]
  have hmin : (-126 : BitVec 11).toInt = -126 := by decide
  rw [decodeOperand, if_pos hexp, if_neg hfraction]
  simp only [BitVec.shiftLeft_eq', BitVec.toNat_shiftLeft, hraw, hk, Nat.shiftLeft_eq,
    Nat.mod_eq_of_lt hhigh]
  rw [toInt_sub_of_bounds (by omega) (by omega), hmin, hcount]
  refine ⟨hlow, hhigh, by omega, by omega, ?_⟩
  have hscale : (-149 : Int) = k + (-126 - k - 23) := by omega
  rw [magnitude, significand, if_pos hexp, scale, if_pos hexp, hscale, zpow_add₀ two_ne_zero,
    zpow_natCast]
  push_cast
  ring

theorem decodes_normal {raw : BitVec 32} (hfinite : isFinite raw = true) (hexp : exponent raw ≠ 0) :
    Decodes raw (decodeOperand raw).1.toNat (decodeOperand raw).2.toInt := by
  have hfraction := (fraction raw).isLt
  have hwidth := (exponent raw).isLt
  have hmant : (decodeOperand raw).1.toNat = 2 ^ 23 + (fraction raw).toNat := by
    rw [decodeOperand, if_neg hexp]
    exact (toNat_append (1#1) (fraction raw)).trans (by rw [BitVec.toNat_ofNat]; omega)
  have hpos : 0 < (exponent raw).toNat :=
    Nat.pos_of_ne_zero fun h => hexp (BitVec.eq_of_toNat_eq h)
  have hmax : (exponent raw).toNat ≠ 255 := by
    intro h
    have hne : exponent raw ≠ 0xFF := by simpa [isFinite] using hfinite
    exact hne (BitVec.eq_of_toNat_eq h)
  have hbias : (127 : BitVec 11).toInt = 127 := by decide
  have hvalue : ((exponent raw).setWidth 11).toInt = (exponent raw).toNat :=
    toInt_setWidth_of_small (by omega)
  have hexponent : (decodeOperand raw).2.toInt = (exponent raw).toNat - 127 := by
    rw [decodeOperand, if_neg hexp, toInt_sub_of_bounds (by omega) (by omega), hvalue, hbias]
  rw [hmant, hexponent]
  refine ⟨by omega, by omega, by omega, by omega, ?_⟩
  rw [magnitude, significand, if_neg hexp, scale, if_neg hexp]
  congr 2
  omega

theorem decodes {raw : BitVec 32} (hfinite : isFinite raw = true) (hzero : isZero raw = false) :
    Decodes raw (decodeOperand raw).1.toNat (decodeOperand raw).2.toInt := by
  by_cases hexp : exponent raw = 0
  · apply decodes_denormal hexp
    intro hfraction
    cases hzero.symm.trans ((isZero_iff raw).mpr ⟨hexp, hfraction⟩)
  · exact decodes_normal hfinite hexp

/-- The digits after the point so far, with the last two where they are kept; the mantissa's
register shifts the digit before the point out. -/
def digits (d : Fdiv) : Nat :=
  if 2 ≤ d.iterCount.toNat then d.quotientMain.toNat % 2 ^ (25 - d.iterCount.toNat)
  else if d.iterCount.toNat = 1 then 2 * (d.quotientMain.toNat % 2 ^ 23) + d.guardBit.toNat
  else 4 * (d.quotientMain.toNat % 2 ^ 23) + 2 * d.guardBit.toNat + d.roundBit.toNat

/-- The digits and the remainder of the quotient of two numbers, so far. -/
structure Divides (n m : Nat) (d : Fdiv) : Prop where
  range : m ≤ n ∧ n < 2 * m ∧ m < 2 ^ 24
  divisor : d.divisor.toNat = m
  count : d.iterCount.toNat ≤ 25
  remainder : d.remainder.toNat < m
  quotient : (2 ^ (25 - d.iterCount.toNat) + d.digits) * m + d.remainder.toNat =
    n * 2 ^ (25 - d.iterCount.toNat)

namespace Divides
variable {n m : Nat} {d : Fdiv}

theorem shiftedRemainder_toNat (h : Divides n m d) :
    d.shiftedRemainder.toNat = 2 * d.remainder.toNat := by
  have hremainder := h.remainder
  have hm := h.range.2.2
  rw [shiftedRemainder, BitVec.toNat_shiftLeft, Nat.shiftLeft_eq]
  omega

theorem quotientBit_iff (h : Divides n m d) :
    d.quotientBit = true ↔ m ≤ 2 * d.remainder.toNat := by
  rw [quotientBit, decide_eq_true_iff, BitVec.le_def, h.divisor, h.shiftedRemainder_toNat]

theorem nextRemainder (h : Divides n m d) :
    d.stepDivideNext.remainder.toNat + d.quotientBit.toNat * m = 2 * d.remainder.toNat ∧
      d.stepDivideNext.remainder.toNat < m := by
  have hremainder := h.remainder
  have hm := h.range.2.2
  have hshifted := h.shiftedRemainder_toNat
  have hbit := h.quotientBit_iff
  have hdivisor := h.divisor
  cases hq : d.quotientBit with
  | true =>
    have hle := hbit.mp hq
    have hsub : d.stepDivideNext.remainder.toNat = 2 * d.remainder.toNat - m := by
      simp only [stepDivideNext, hq, if_true]
      rw [BitVec.toNat_sub_of_le (by rw [BitVec.le_def]; omega)]
      omega
    rw [hsub, Bool.toNat_true]
    omega
  | false =>
    have hlt : ¬m ≤ 2 * d.remainder.toNat := fun hle => by cases hq.symm.trans (hbit.mpr hle)
    have hkeep : d.stepDivideNext.remainder.toNat = 2 * d.remainder.toNat := by
      simp only [stepDivideNext, hq, Bool.false_eq_true, if_false]
      exact hshifted
    rw [hkeep, Bool.toNat_false]
    omega

theorem nextCount (hpos : d.iterCount.toNat ≠ 0) :
    d.stepDivideNext.iterCount.toNat = d.iterCount.toNat - 1 := by
  have hlt := d.iterCount.isLt
  simp only [stepDivideNext]
  have hone : (1 : BitVec 5) ≤ d.iterCount := by
    change 1 ≤ d.iterCount.toNat
    omega
  rw [BitVec.toNat_sub_of_le hone]
  rfl

/-- Each iteration appends a digit, wherever it is kept. -/
theorem nextDigits (hpos : d.iterCount.toNat ≠ 0) (hle : d.iterCount.toNat ≤ 25) :
    d.stepDivideNext.digits = 2 * d.digits + d.quotientBit.toNat := by
  have hcount := nextCount hpos
  have hthree : 3 ≤ d.iterCount ↔ 3 ≤ d.iterCount.toNat := Iff.rfl
  have htwo : d.iterCount = 2 ↔ d.iterCount.toNat = 2 := BitVec.toNat_inj.symm
  have htwo' : 2 ≤ d.iterCount ↔ 2 ≤ d.iterCount.toNat := Iff.rfl
  obtain hmain | hguard | hround :
      3 ≤ d.iterCount.toNat ∨ d.iterCount.toNat = 2 ∨ d.iterCount.toNat = 1 := by omega
  · have hbit := Bool.toNat_lt d.quotientBit
    have hnew : d.stepDivideNext.quotientMain =
        d.quotientMain.extractLsb' 0 23 ++ BitVec.ofBool d.quotientBit :=
      if_pos (hthree.mpr hmain)
    have happend : d.stepDivideNext.quotientMain.toNat =
        2 * (d.quotientMain.toNat % 2 ^ 23) + d.quotientBit.toNat := by
      rw [hnew]
      refine (toNat_append (d.quotientMain.extractLsb' 0 23) (BitVec.ofBool d.quotientBit)).trans ?_
      rw [BitVec.extractLsb'_toNat, Nat.shiftRight_zero, BitVec.toNat_ofBool]
      omega
    have hdvd : 2 ^ (25 - d.iterCount.toNat) ∣ 2 ^ 23 := Nat.pow_dvd_pow 2 (by omega)
    have hpow : 2 ^ (25 - (d.iterCount.toNat - 1)) = 2 * 2 ^ (25 - d.iterCount.toNat) := by
      rw [← Nat.pow_succ']
      congr 1
      omega
    rw [digits, hcount, if_pos (by omega), happend, digits, if_pos (by omega), hpow,
      ← Nat.mod_mod_of_dvd d.quotientMain.toNat hdvd, Nat.mod_mul]
    generalize d.quotientMain.toNat % 2 ^ 23 = x
    have hlow : (2 * x + d.quotientBit.toNat) % 2 = d.quotientBit.toNat := by omega
    have hhigh : (2 * x + d.quotientBit.toNat) / 2 = x := by omega
    rw [hlow, hhigh, Nat.add_comm]
  · have hnew : d.stepDivideNext.quotientMain = d.quotientMain :=
      if_neg (mt hthree.mp (by omega))
    have hbit : d.stepDivideNext.guardBit = d.quotientBit := if_pos (htwo.mpr hguard)
    rw [digits, hcount, if_neg (by omega), if_pos (by omega), digits, if_pos (by omega), hnew,
      hbit, hguard]
  · have hnew : d.stepDivideNext.quotientMain = d.quotientMain :=
      if_neg (mt hthree.mp (by omega))
    have hguard : d.stepDivideNext.guardBit = d.guardBit := if_neg (mt htwo.mp (by omega))
    have hbit : d.stepDivideNext.roundBit = d.quotientBit := if_neg (mt htwo'.mp (by omega))
    rw [digits, hcount, if_neg (by omega), if_neg (by omega), digits, if_neg (by omega),
      if_pos hround, hnew, hguard, hbit]
    omega

theorem next (h : Divides n m d) (hpos : d.iterCount.toNat ≠ 0) :
    Divides n m d.stepDivideNext := by
  obtain ⟨hremainder, hlt⟩ := h.nextRemainder
  have hcount := nextCount hpos
  have hle := h.count
  refine ⟨h.range, h.divisor, by omega, hlt, ?_⟩
  have hpow : 2 ^ (25 - d.stepDivideNext.iterCount.toNat) =
      2 * 2 ^ (25 - d.iterCount.toNat) := by
    rw [hcount, ← Nat.pow_succ']
    congr 1
    omega
  rw [nextDigits hpos hle, hpow]
  calc
    (2 * 2 ^ (25 - d.iterCount.toNat) + (2 * d.digits + d.quotientBit.toNat)) * m +
          d.stepDivideNext.remainder.toNat
        = 2 * ((2 ^ (25 - d.iterCount.toNat) + d.digits) * m) +
          (d.stepDivideNext.remainder.toNat + d.quotientBit.toNat * m) := by ring
    _ = 2 * ((2 ^ (25 - d.iterCount.toNat) + d.digits) * m + d.remainder.toNat) := by
      rw [hremainder]
      ring
    _ = n * (2 * 2 ^ (25 - d.iterCount.toNat)) := by
      rw [h.quotient]
      ring

end Divides

/-- The first digit of the quotient of two mantissas, the smaller one doubled. -/
theorem divides_first {d : Fdiv} (ha : 2 ^ 23 ≤ d.mantA.toNat) (hb : 2 ^ 23 ≤ d.mantB.toNat) :
    Divides (2 ^ d.needsPrescaleShift.toNat * d.mantA.toNat) d.mantB.toNat d.stepDivideFirst := by
  have halt := d.mantA.isLt
  have hblt := d.mantB.isLt
  have hcount : d.stepDivideFirst.iterCount.toNat = 25 := rfl
  have hwide (x : BitVec 24) : (x.setWidth 25).toNat = x.toNat :=
    BitVec.toNat_setWidth_of_le (by decide)
  have hless : d.needsPrescaleShift = true ↔ d.mantA.toNat < d.mantB.toNat := by
    rw [needsPrescaleShift, decide_eq_true_iff, BitVec.lt_def]
  have hdigits : d.stepDivideFirst.digits = 0 := by
    rw [digits, hcount, if_pos (by omega)]
    exact Nat.mod_one _
  have hremainder : d.stepDivideFirst.remainder.toNat + d.mantB.toNat =
      2 ^ d.needsPrescaleShift.toNat * d.mantA.toNat := by
    cases hshift : d.needsPrescaleShift with
    | true =>
      have hlt := hless.mp hshift
      have hdouble : (d.mantA ++ 0#1 : BitVec 25).toNat = 2 * d.mantA.toNat :=
        (toNat_append d.mantA (0#1)).trans (by rw [BitVec.toNat_ofNat]; omega)
      have hle : d.mantB.setWidth 25 ≤ (d.mantA ++ 0#1 : BitVec 25) := by
        rw [BitVec.le_def, hdouble, hwide]
        omega
      have hsub : d.stepDivideFirst.remainder =
          (d.mantA ++ 0#1 : BitVec 25) - d.mantB.setWidth 25 := if_pos hshift
      rw [hsub, BitVec.toNat_sub_of_le hle, hdouble, hwide, Bool.toNat_true]
      omega
    | false =>
      have hge : ¬d.mantA.toNat < d.mantB.toNat := fun h => by cases hshift.symm.trans (hless.mpr h)
      have hle : d.mantB.setWidth 25 ≤ d.mantA.setWidth 25 := by
        rw [BitVec.le_def, hwide, hwide]
        omega
      have hsub : d.stepDivideFirst.remainder = d.mantA.setWidth 25 - d.mantB.setWidth 25 :=
        if_neg (by rw [hshift]; exact Bool.false_ne_true)
      rw [hsub, BitVec.toNat_sub_of_le hle, hwide, hwide, Bool.toNat_false]
      omega
  have hrange : d.mantB.toNat ≤ 2 ^ d.needsPrescaleShift.toNat * d.mantA.toNat ∧
      2 ^ d.needsPrescaleShift.toNat * d.mantA.toNat < 2 * d.mantB.toNat := by
    cases hshift : d.needsPrescaleShift with
    | true =>
      have hlt := hless.mp hshift
      rw [Bool.toNat_true]
      omega
    | false =>
      have hge : ¬d.mantA.toNat < d.mantB.toNat := fun h => by cases hshift.symm.trans (hless.mpr h)
      rw [Bool.toNat_false]
      omega
  refine ⟨⟨hrange.1, hrange.2, hblt⟩, hwide _, by rw [hcount], by omega, ?_⟩
  rw [hcount, hdigits, ← hremainder]
  omega

end NodeNet.Vm.Fdiv

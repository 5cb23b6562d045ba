import NodeNet.Vm.Divider
import NodeNet.Vm.DividerLoop

/-! The rounded quotient of two floats, and the results that need no division. -/
namespace NodeNet.Vm
open NodeNet.Binary32

section
variable (a b : BitVec 32)

/-- The operands have no quotient. -/
def Invalid : Prop :=
  isNan a = true ∨ isNan b = true ∨ (isZero a = true ∧ isZero b = true) ∨
    (isInf a = true ∧ isInf b = true)

structure HasQuotient (q : Rat) : Prop where
  left : isFinite a = true
  right : isFinite b = true
  divisor : isZero b = false
  eq : q = value a / value b

def Infinite : Prop :=
  isZero b = true ∨ isInf a = true ∨
    ∃ q, HasQuotient a b q ∧ (2 : Rat) ^ 128 - 2 ^ 103 ≤ |q|

def Vanishing : Prop :=
  isZero a = true ∨ isInf b = true ∨ ∃ q, HasQuotient a b q ∧ |q| < 2 ^ (-126 : Int)

/-- The quotient rounded to nearest, ties to even; what is smaller than the normal floats is
flushed to zero. -/
structure RoundedQuotient (r : BitVec 32) : Prop where
  nan : isNan r = true ↔ Invalid a b
  sign : ¬Invalid a b → sign r = (sign a ^^ sign b)
  inf : isInf r = true ↔ ¬Invalid a b ∧ Infinite a b
  zero : isZero r = true ↔ ¬Invalid a b ∧ Vanishing a b
  nearest : ∀ q, HasQuotient a b q → (2 : Rat) ^ (-126 : Int) ≤ |q| →
    |q| < (2 : Rat) ^ 128 - 2 ^ 103 → Nearest q r

end

section
variable {a b : BitVec 32} {q : Rat}

theorem HasQuotient.valid (h : HasQuotient a b q) : ¬Invalid a b := by
  obtain ⟨hnanA, hinfA⟩ := (isFinite_iff a).mp h.left
  obtain ⟨hnanB, -⟩ := (isFinite_iff b).mp h.right
  simp [Invalid, hnanA, hnanB, hinfA, h.divisor]

theorem HasQuotient.not_infinite (h : HasQuotient a b q) (hlt : |q| < (2 : Rat) ^ 128 - 2 ^ 103) :
    ¬Infinite a b := by
  rintro (hzero | hinf | ⟨q', hq', hle⟩)
  · cases h.divisor.symm.trans hzero
  · cases ((isFinite_iff a).mp h.left).2.symm.trans hinf
  · rw [hq'.eq, ← h.eq] at hle
    exact absurd hlt hle.not_gt

theorem HasQuotient.not_vanishing (h : HasQuotient a b q) (hle : (2 : Rat) ^ (-126 : Int) ≤ |q|) :
    ¬Vanishing a b := by
  rintro (hzero | hinf | ⟨q', hq', hlt⟩)
  · rw [h.eq, value_of_isZero hzero, zero_div, abs_zero] at hle
    exact absurd hle (zpow_pos two_pos _).not_ge
  · cases ((isFinite_iff b).mp h.right).2.symm.trans hinf
  · rw [hq'.eq, ← h.eq] at hlt
    exact absurd hlt hle.not_gt

theorem not_vanishing_of_infinite (hvalid : ¬Invalid a b) (h : Infinite a b) :
    ¬Vanishing a b := by
  obtain hzeroB | hinfA | ⟨q, hq, hle⟩ := h
  · rintro (hzero | hinf | ⟨q, hq, -⟩)
    · exact hvalid (.inr (.inr (.inl ⟨hzero, hzeroB⟩)))
    · cases ((isFinite_iff b).mp (isFinite_of_isZero hzeroB)).2.symm.trans hinf
    · cases hq.divisor.symm.trans hzeroB
  · rintro (hzero | hinf | ⟨q, hq, -⟩)
    · cases ((isFinite_iff a).mp (isFinite_of_isZero hzero)).2.symm.trans hinfA
    · exact hvalid (.inr (.inr (.inr ⟨hinfA, hinf⟩)))
    · cases ((isFinite_iff a).mp hq.left).2.symm.trans hinfA
  · exact hq.not_vanishing (le_trans (by norm_num) hle)

end

namespace Fdiv

section
variable {a b : BitVec 32}

theorem roundedQuotient_nan (h : Invalid a b) : RoundedQuotient a b floatQnan where
  nan := iff_of_true (by decide) h
  sign := fun hnot => absurd h hnot
  inf := iff_of_false (by decide) fun hinf => hinf.1 h
  zero := iff_of_false (by decide) fun hzero => hzero.1 h
  nearest := fun _ hq => absurd h hq.valid

theorem roundedQuotient_inf (hvalid : ¬Invalid a b) (h : Infinite a b) :
    RoundedQuotient a b (packFloatInf (sign a ^^ sign b)) := by
  generalize hsign : (sign a ^^ sign b) = s
  constructor
  · exact iff_of_false (by cases s <;> decide) hvalid
  · intro _
    rw [hsign]
    exact sign_pack s _ _
  · exact iff_of_true (by cases s <;> decide) ⟨hvalid, h⟩
  · exact iff_of_false (by cases s <;> decide) fun hzero =>
      not_vanishing_of_infinite hvalid h hzero.2
  · exact fun _ hq _ hlt => absurd h (hq.not_infinite hlt)

theorem roundedQuotient_zero (hvalid : ¬Invalid a b) (h : Vanishing a b) :
    RoundedQuotient a b (packFloatZero (sign a ^^ sign b)) := by
  generalize hsign : (sign a ^^ sign b) = s
  constructor
  · exact iff_of_false (by cases s <;> decide) hvalid
  · intro _
    rw [hsign]
    exact sign_pack s _ _
  · exact iff_of_false (by cases s <;> decide) fun hinf =>
      not_vanishing_of_infinite hvalid hinf.2 h
  · exact iff_of_true (by cases s <;> decide) ⟨hvalid, h⟩
  · exact fun _ hq hle _ => absurd h (hq.not_vanishing hle)

theorem roundedQuotient_normal {q : Rat} {r : BitVec 32} (hq : HasQuotient a b q)
    (hle : (2 : Rat) ^ (-126 : Int) ≤ |q|) (hlt : |q| < (2 : Rat) ^ 128 - 2 ^ 103)
    (hsign : sign r = (sign a ^^ sign b)) (hzero : isZero r = false) (h : Nearest q r) :
    RoundedQuotient a b r := by
  obtain ⟨hnan, hinf⟩ := (isFinite_iff r).mp h.finite
  constructor
  · exact iff_of_false (by rw [hnan]; exact Bool.false_ne_true) hq.valid
  · exact fun _ => hsign
  · exact iff_of_false (by rw [hinf]; exact Bool.false_ne_true) fun h => hq.not_infinite hlt h.2
  · exact iff_of_false (by rw [hzero]; exact Bool.false_ne_true) fun h =>
      hq.not_vanishing hle h.2
  · intro q' hq' _ _
    rwa [hq'.eq, ← hq.eq]

end

end Fdiv

end NodeNet.Vm

/-! The digits that the divider ends with, rounded and packed, are the rounded quotient. -/
namespace NodeNet.Vm.Fdiv
open NodeNet.Binary32 NodeNet.Rounding

/-- The quotient of the magnitudes, by the mantissas and the exponent that the divider has. -/
structure Ratio (a b : BitVec 32) (n m : Nat) (e : Int) : Prop where
  left : isFinite a = true
  right : isFinite b = true
  divisor : isZero b = false
  range : -1000 < e ∧ e < 800
  eq : magnitude a / magnitude b = (n / m : Rat) * 2 ^ e

/-- The divider has the digits of the quotient that its count says. -/
structure Dividing (a b : BitVec 32) (n m : Nat) (e : Int) (d : Fdiv) : Prop where
  latched : d.aLatched = a ∧ d.bLatched = b
  waits : d.done = false
  ratio : Ratio a b n m e
  exp : d.resultExpUnbiased.toInt = e
  divides : Divides n m d

section
variable {a b : BitVec 32} {n m : Nat} {e : Int} {d : Fdiv}

namespace Dividing

theorem hasQuotient (h : Dividing a b n m e d) :
    HasQuotient a b (signed d.resultSign ((n / m : Rat) * 2 ^ e)) where
  left := h.ratio.left
  right := h.ratio.right
  divisor := h.ratio.divisor
  eq := by
    rw [value, value, signed_div, h.ratio.eq, resultSign, h.latched.1, h.latched.2]

theorem pos (h : Dividing a b n m e d) : (0 : Rat) < m := by
  have hrange := h.divides.range
  exact_mod_cast (by omega : 0 < m)

theorem quotient_range (h : Dividing a b n m e d) :
    (2 : Rat) ^ 23 ≤ n / m * 2 ^ 23 ∧ (n / m * 2 ^ 23 : Rat) < 2 ^ 24 - 1 / 2 := by
  obtain ⟨hle, hlt, hwidth⟩ := h.divides.range
  have hm := h.pos
  have hle' : (m : Rat) ≤ n := by exact_mod_cast hle
  have hlt' : (n : Rat) + 1 ≤ 2 * m := by exact_mod_cast hlt
  have hwidth' : (m : Rat) < 2 ^ 24 := by exact_mod_cast hwidth
  rw [div_mul_eq_mul_div]
  constructor
  · rw [le_div_iff₀ hm]
    linarith
  · rw [div_lt_iff₀ hm]
    linarith

theorem roundIncrement_iff (h : Dividing a b n m e d)
    (hsticky : d.stickyBit = true ↔ d.remainder.toNat ≠ 0) :
    d.roundIncrement = true ↔ roundUp (2 ^ 23 + d.quotientMain.toNat % 2 ^ 23)
      (2 * d.guardBit.toNat + d.roundBit.toNat) (d.remainder.toNat / m) := by
  have hrest : (d.remainder.toNat / m : Rat) ≠ 0 ↔ d.stickyBit = true := by
    rw [hsticky, div_ne_zero_iff, Nat.cast_ne_zero]
    exact and_iff_left h.pos.ne'
  have hodd : Odd (2 ^ 23 + d.quotientMain.toNat % 2 ^ 23) ↔
      d.quotientMain.getLsbD 0 = true := by
    rw [BitVec.getLsbD, Nat.testBit_zero, decide_eq_true_iff, Nat.odd_iff]
    omega
  rw [roundUp, hrest, hodd]
  cases hguard : d.guardBit <;> cases hround : d.roundBit <;>
    simp [roundIncrement, hguard, hround]

theorem nearestEven (h : Dividing a b n m e d) (hcount : d.iterCount.toNat = 0)
    (hsticky : d.stickyBit = true ↔ d.remainder.toNat ≠ 0) :
    NearestEven (2 ^ 23 + d.quotientMain.toNat % 2 ^ 23 + d.roundIncrement.toNat : Nat)
      (n / m * 2 ^ 23) := by
  have hm := h.pos
  have hguard := Bool.toNat_lt d.guardBit
  have hround := Bool.toNat_lt d.roundBit
  have hremainder : (d.remainder.toNat : Rat) < m := by exact_mod_cast h.divides.remainder
  have hquotient := h.divides.quotient
  rw [digits, hcount, if_neg (by omega), if_neg (by omega)] at hquotient
  have hquotient' := congrArg (Nat.cast (R := Rat)) hquotient
  push_cast at hquotient'
  refine nearestEven_of_digits (by omega) (by positivity) ((div_lt_one hm).mpr hremainder) ?_
    (h.roundIncrement_iff hsticky)
  push_cast
  field_simp
  linarith

theorem mantissa_lt (h : Dividing a b n m e d) (hcount : d.iterCount.toNat = 0)
    (hsticky : d.stickyBit = true ↔ d.remainder.toNat ≠ 0) :
    d.quotientMain.toNat % 2 ^ 23 + d.roundIncrement.toNat < 2 ^ 23 := by
  by_contra hge
  have hnear := (h.nearestEven hcount hsticky).near
  have hx := h.quotient_range.2
  have hsum : 2 ^ 24 ≤ 2 ^ 23 + d.quotientMain.toNat % 2 ^ 23 + d.roundIncrement.toNat := by omega
  generalize 2 ^ 23 + d.quotientMain.toNat % 2 ^ 23 + d.roundIncrement.toNat = k at hnear hsum
  have hsum' : (2 : Rat) ^ 24 ≤ k := by exact_mod_cast hsum
  have hdist : (k : Rat) - n / m * 2 ^ 23 ≤ 1 / 2 := (le_abs_self _).trans hnear
  linarith

theorem roundMantOverflow_eq (h : Dividing a b n m e d) (hcount : d.iterCount.toNat = 0)
    (hsticky : d.stickyBit = true ↔ d.remainder.toNat ≠ 0) : d.roundMantOverflow = false := by
  have hmantissa := h.mantissa_lt hcount hsticky
  cases hincrement : d.roundIncrement with
  | false => rw [roundMantOverflow, hincrement, Bool.false_and]
  | true =>
    rw [hincrement, Bool.toNat_true] at hmantissa
    rw [roundMantOverflow, hincrement, Bool.true_and]
    apply decide_eq_false
    intro hfull
    have hmain : d.quotientMain.toNat = 2 ^ 24 - 1 := congrArg BitVec.toNat hfull
    omega

theorem finalBiasedExp_toInt (h : Dividing a b n m e d) (hcarry : d.roundMantOverflow = false) :
    d.finalBiasedExp.toInt = e + 127 := by
  have hrange := h.ratio.range
  have hbias : (127 : BitVec 11).toInt = 127 := by decide
  have hsum : d.finalBiasedExp = d.resultExpUnbiased + 127 := by
    simp [finalBiasedExp, roundedExpValue, hcarry]
  rw [hsum, BitVec.toInt_add, h.exp, hbias]
  apply Int.bmod_eq_of_le <;> omega

theorem quotient_scaled (n m : Nat) (e : Int) :
    (n / m : Rat) * 2 ^ e = n / m * 2 ^ 23 * 2 ^ (e - 23) := by
  rw [mul_assoc, ← zpow_natCast, ← zpow_add₀ two_ne_zero]
  congr 2
  omega

theorem abs_quotient (h : Dividing a b n m e d) :
    |signed d.resultSign ((n / m : Rat) * 2 ^ e)| = n / m * 2 ^ 23 * 2 ^ (e - 23) := by
  have hm := h.pos
  rw [abs_signed, abs_of_nonneg (by positivity), quotient_scaled]

theorem exponent_toNat (h : Dividing a b n m e d) (hcarry : d.roundMantOverflow = false)
    (hlow : -127 < e) (hhigh : e < 128) :
    ((d.finalBiasedExp.setWidth 8).toNat : Int) = e + 127 := by
  have hexp := h.finalBiasedExp_toInt hcarry
  rw [BitVec.toInt_eq_toNat_cond] at hexp
  rw [BitVec.toNat_setWidth]
  split at hexp <;> omega

theorem fraction_toNat (h : Dividing a b n m e d) (hcount : d.iterCount.toNat = 0)
    (hsticky : d.stickyBit = true ↔ d.remainder.toNat ≠ 0) :
    (d.roundedMantissa.setWidth 23).toNat =
      d.quotientMain.toNat % 2 ^ 23 + d.roundIncrement.toNat := by
  have hmantissa := h.mantissa_lt hcount hsticky
  have hcarry := h.roundMantOverflow_eq hcount hsticky
  rw [BitVec.toNat_setWidth, roundedMantissa, hcarry]
  cases hincrement : d.roundIncrement with
  | false =>
    simp only [Bool.false_eq_true, if_false, Bool.toNat_false]
    omega
  | true =>
    rw [hincrement, Bool.toNat_true] at hmantissa
    have hone : (1 : BitVec 24).toNat = 1 := rfl
    simp only [Bool.false_eq_true, if_false, if_true, Bool.toNat_true, BitVec.toNat_add, hone]
    omega

theorem normal_range (h : Dividing a b n m e d) (hlow : -127 < e) (hhigh : e < 128) :
    (2 : Rat) ^ (-126 : Int) ≤ |signed d.resultSign ((n / m : Rat) * 2 ^ e)| ∧
      |signed d.resultSign ((n / m : Rat) * 2 ^ e)| < (2 : Rat) ^ 128 - 2 ^ 103 := by
  obtain ⟨hx, hx'⟩ := h.quotient_range
  have hmin : (2 : Rat) ^ (-149 : Int) ≤ 2 ^ (e - 23) := zpow_le_zpow_right₀ one_le_two (by omega)
  have hmax : (2 : Rat) ^ (e - 23) ≤ 2 ^ (104 : Int) := zpow_le_zpow_right₀ one_le_two (by omega)
  rw [h.abs_quotient]
  constructor
  · calc
      (2 : Rat) ^ (-126 : Int) = 2 ^ 23 * 2 ^ (-149 : Int) := by norm_num
      _ ≤ (n / m * 2 ^ 23 * 2 ^ (e - 23) : Rat) :=
        mul_le_mul hx hmin (by positivity) (by linarith)
  · calc
      (n / m * 2 ^ 23 * 2 ^ (e - 23) : Rat) ≤ n / m * 2 ^ 23 * 2 ^ (104 : Int) :=
        mul_le_mul_of_nonneg_left hmax (by linarith)
      _ < (2 ^ 24 - 1 / 2) * 2 ^ (104 : Int) := mul_lt_mul_of_pos_right hx' (by positivity)
      _ = (2 : Rat) ^ 128 - 2 ^ 103 := by norm_num

theorem packed (h : Dividing a b n m e d) (hcount : d.iterCount.toNat = 0)
    (hsticky : d.stickyBit = true ↔ d.remainder.toNat ≠ 0) (hlow : -127 < e) (hhigh : e < 128) :
    RoundedQuotient a b
      (pack d.resultSign (d.finalBiasedExp.setWidth 8) (d.roundedMantissa.setWidth 23)) := by
  have hexponent := h.exponent_toNat (h.roundMantOverflow_eq hcount hsticky) hlow hhigh
  have hfraction := h.fraction_toNat hcount hsticky
  generalize hr : pack d.resultSign (d.finalBiasedExp.setWidth 8)
    (d.roundedMantissa.setWidth 23) = r
  have hsign : sign r = d.resultSign := by rw [← hr, sign_pack]
  have hexp : exponent r = d.finalBiasedExp.setWidth 8 := by rw [← hr, exponent_pack]
  have hpart : fraction r = d.roundedMantissa.setWidth 23 := by rw [← hr, fraction_pack]
  rw [← hexp] at hexponent
  rw [← hpart] at hfraction
  have hnotMax : exponent r ≠ 0xFF := by
    intro hmax
    rw [hmax] at hexponent
    have : (255 : Int) = e + 127 := hexponent
    omega
  have hnotMin : exponent r ≠ 0 := by
    intro hmin
    rw [hmin] at hexponent
    have : (0 : Int) = e + 127 := hexponent
    omega
  have hfinite : isFinite r = true := decide_eq_true hnotMax
  have hzero : isZero r = false :=
    Bool.eq_false_iff.mpr fun hzero => hnotMin ((isZero_iff r).mp hzero).1
  have hscale : scale r = e - 23 := by
    rw [scale, if_neg hnotMin]
    omega
  have hnear : NearestEven (significand r) (n / m * 2 ^ 23) := by
    have hdigits := h.nearestEven hcount hsticky
    rwa [Nat.add_assoc, ← hfraction, ← significand_of_normal hnotMin] at hdigits
  have hnearest := nearest_of_nearestEven hfinite hscale h.quotient_range.1 hnear
  rw [hsign, ← quotient_scaled] at hnearest
  obtain ⟨hlarge, hsmall⟩ := h.normal_range hlow hhigh
  refine roundedQuotient_normal h.hasQuotient hlarge hsmall ?_ hzero hnearest
  rw [hsign, resultSign, h.latched.1, h.latched.2]

theorem result (h : Dividing a b n m e d) (hcount : d.iterCount.toNat = 0)
    (hsticky : d.stickyBit = true ↔ d.remainder.toNat ≠ 0) :
    RoundedQuotient a b d.stepRound.result := by
  obtain ⟨hlow, hhigh⟩ := h.quotient_range
  have hexp := h.finalBiasedExp_toInt (h.roundMantOverflow_eq hcount hsticky)
  have hsign : d.resultSign = (sign a ^^ sign b) := by
    rw [resultSign, h.latched.1, h.latched.2]
  by_cases hover : 255 ≤ d.finalBiasedExp.toInt
  · have hresult : d.stepRound.result = packFloatInf d.resultSign := by
      rw [stepRound, if_pos hover]
      rfl
    rw [hresult, hsign]
    refine roundedQuotient_inf h.hasQuotient.valid (.inr (.inr ⟨_, h.hasQuotient, ?_⟩))
    have hpow : (2 : Rat) ^ (105 : Int) ≤ 2 ^ (e - 23) :=
      zpow_le_zpow_right₀ one_le_two (by omega)
    rw [h.abs_quotient]
    calc
      (2 : Rat) ^ 128 - 2 ^ 103 ≤ 2 ^ 23 * 2 ^ (105 : Int) := by norm_num
      _ ≤ (n / m * 2 ^ 23 * 2 ^ (e - 23) : Rat) :=
        mul_le_mul hlow hpow (by positivity) (by linarith)
  · by_cases hunder : d.finalBiasedExp.toInt ≤ 0
    · have hresult : d.stepRound.result = packFloatZero d.resultSign := by
        rw [stepRound, if_neg hover, if_pos hunder]
        rfl
      rw [hresult, hsign]
      refine roundedQuotient_zero h.hasQuotient.valid (.inr (.inr ⟨_, h.hasQuotient, ?_⟩))
      have hpow : (2 : Rat) ^ (e - 23) ≤ 2 ^ (-150 : Int) :=
        zpow_le_zpow_right₀ one_le_two (by omega)
      rw [h.abs_quotient]
      calc
        (n / m * 2 ^ 23 * 2 ^ (e - 23) : Rat) ≤ n / m * 2 ^ 23 * 2 ^ (-150 : Int) :=
          mul_le_mul_of_nonneg_left hpow (by linarith)
        _ < 2 ^ 24 * 2 ^ (-150 : Int) := mul_lt_mul_of_pos_right (by linarith) (by positivity)
        _ = 2 ^ (-126 : Int) := by norm_num
    · have hresult : d.stepRound.result =
          pack d.resultSign (d.finalBiasedExp.setWidth 8) (d.roundedMantissa.setWidth 23) := by
        rw [stepRound, if_neg hover, if_neg hunder]
        rfl
      rw [hresult]
      exact h.packed hcount hsticky (by omega) (by omega)

end Dividing

end

end NodeNet.Vm.Fdiv

/-! A started division ends with the rounded quotient of its operands. -/
namespace NodeNet.Vm
open NodeNet.Binary32 NodeNet.Machine

namespace Fdiv

/-- The division ends after a number of cycles, whatever the inputs are meanwhile. -/
def Finishes (a b : BitVec 32) : Nat → Fdiv → Prop
  | 0, d => d.done = true ∧ RoundedQuotient a b d.result
  | n + 1, d => d.done = false ∧ ∀ i, Finishes a b n (d.step i)

theorem Finishes.run {a b : BitVec 32} {n : Nat} {d : Fdiv} (h : Finishes a b n d)
    (later : List FdivIn) :
    (later.length < n → (Machine.run step d later).done = false) ∧
      (later.length = n → (Machine.run step d later).done = true ∧
        RoundedQuotient a b (Machine.run step d later).result) := by
  induction later generalizing n d with
  | nil =>
    cases n with
    | zero => exact ⟨fun hlt => absurd hlt (Nat.lt_irrefl 0), fun _ => h⟩
    | succ n => exact ⟨fun _ => h.1, fun hlength => by cases hlength⟩
  | cons i later ih =>
    cases n with
    | zero => exact ⟨fun hlt => absurd hlt (Nat.not_lt_zero _), fun hlength => by cases hlength⟩
    | succ n =>
      obtain ⟨hbefore, hend⟩ := ih (h.2 i)
      exact ⟨fun hlt => hbefore (Nat.lt_of_succ_lt_succ hlt), fun hlength =>
        hend (Nat.succ.inj hlength)⟩

section
variable {a b : BitVec 32} {n m : Nat} {e : Int} {d : Fdiv}

theorem clear_done (h : d.done = false) : ({ d with done := false } : Fdiv) = d := by
  rw [← h]

theorem step_round (h : d.done = false) (hstate : d.state = .round) (i : FdivIn) :
    d.step i = d.stepRound := by
  rw [step, clear_done h, hstate]

theorem step_first (h : d.done = false) (hstate : d.state = .divide) (hcount : d.iterCount = 0)
    (i : FdivIn) : d.step i = d.stepDivideFirst := by
  rw [step, clear_done h, hstate]
  exact if_pos hcount

theorem step_next (h : d.done = false) (hstate : d.state = .divide)
    (hcount : d.iterCount.toNat ≠ 0) (i : FdivIn) : d.step i = d.stepDivideNext := by
  rw [step, clear_done h, hstate]
  exact if_neg fun hzero => hcount (congrArg BitVec.toNat hzero)

theorem step_prep (h : d.done = false) (hstate : d.state = .prep) (i : FdivIn) :
    d.step i = d.stepPrep := by
  rw [step, clear_done h, hstate]

theorem stepRound_done (d : Fdiv) : d.stepRound.done = true := by
  unfold stepRound
  split
  · rfl
  · split <;> rfl

theorem Dividing.finishes_round (h : Dividing a b n m e d) (hstate : d.state = .round)
    (hcount : d.iterCount.toNat = 0)
    (hsticky : d.stickyBit = true ↔ d.remainder.toNat ≠ 0) : Finishes a b 1 d := by
  refine ⟨h.waits, fun i => ?_⟩
  rw [step_round h.waits hstate]
  exact ⟨stepRound_done d, h.result hcount hsticky⟩

theorem Dividing.next (h : Dividing a b n m e d) (hcount : d.iterCount.toNat ≠ 0) :
    Dividing a b n m e d.stepDivideNext where
  latched := h.latched
  waits := h.waits
  ratio := h.ratio
  exp := h.exp
  divides := h.divides.next hcount

theorem Dividing.finishes {k : Nat} (h : Dividing a b n m e d) (hstate : d.state = .divide)
    (hcount : d.iterCount.toNat = k + 1) : Finishes a b (k + 2) d := by
  induction k generalizing d with
  | zero =>
    refine ⟨h.waits, fun i => ?_⟩
    have hlast : d.iterCount = 1 := BitVec.eq_of_toNat_eq hcount
    have hzero : d.iterCount.toNat ≠ 0 := by omega
    rw [step_next h.waits hstate hzero]
    refine (h.next hzero).finishes_round (if_pos hlast) ?_ ?_
    · rw [Divides.nextCount hzero, hcount]
    · have hsticky : d.stepDivideNext.stickyBit = decide (d.stepDivideNext.remainder ≠ 0) :=
        if_pos hlast
      rw [hsticky, decide_eq_true_iff]
      exact not_congr BitVec.toNat_inj.symm
  | succ k ih =>
    refine ⟨h.waits, fun i => ?_⟩
    have hzero : d.iterCount.toNat ≠ 0 := by omega
    have hmore : d.iterCount ≠ 1 := by
      intro hone
      rw [hone] at hcount
      have : 1 = k + 1 + 1 := hcount
      omega
    rw [step_next h.waits hstate hzero]
    refine ih (h.next hzero) (if_neg hmore) ?_
    rw [Divides.nextCount hzero, hcount]
    rfl

/-- The operands of a division that is about to begin. -/
structure Prepared (a b : BitVec 32) (d : Fdiv) : Prop where
  latched : d.aLatched = a ∧ d.bLatched = b
  waits : d.done = false
  count : d.iterCount = 0
  finite : isFinite a = true ∧ isFinite b = true
  nonzero : isZero b = false
  left : Decodes a d.mantA.toNat d.expAUnbiased.toInt
  right : Decodes b d.mantB.toNat d.expBUnbiased.toInt

theorem Prepared.ratio (h : Prepared a b d) (k : Nat) (hk : k ≤ 1) :
    Ratio a b (2 ^ k * d.mantA.toNat) d.mantB.toNat
      (d.expAUnbiased.toInt - d.expBUnbiased.toInt - k) where
  left := h.finite.1
  right := h.finite.2
  divisor := h.nonzero
  range := by
    have ha := h.left.expLow
    have ha' := h.left.expHigh
    have hb := h.right.expLow
    have hb' := h.right.expHigh
    omega
  eq := by
    have hb : (d.mantB.toNat : Rat) ≠ 0 := by
      have hlow := h.right.low
      exact_mod_cast (by omega : d.mantB.toNat ≠ 0)
    have hexp : d.expAUnbiased.toInt - 23 =
        k + (d.expAUnbiased.toInt - d.expBUnbiased.toInt - k) + (d.expBUnbiased.toInt - 23) := by
      omega
    rw [h.left.magnitude, h.right.magnitude, hexp, zpow_add₀ two_ne_zero, zpow_add₀ two_ne_zero,
      zpow_natCast]
    push_cast
    field_simp

theorem Prepared.dividing (h : Prepared a b d) :
    ∃ n m e, Dividing a b n m e d.stepDivideFirst := by
  have hless := Bool.toNat_lt d.needsPrescaleShift
  refine ⟨_, _, _, h.latched, h.waits, h.ratio d.needsPrescaleShift.toNat (by omega), ?_,
    divides_first h.left.low h.right.low⟩
  have ha := h.left.expLow
  have ha' := h.left.expHigh
  have hb := h.right.expLow
  have hb' := h.right.expHigh
  have hshift : (if d.needsPrescaleShift then 1 else 0 : BitVec 11).toInt =
      d.needsPrescaleShift.toNat := by
    cases d.needsPrescaleShift <;> decide
  have hexp := toInt_sub_of_bounds (x := d.expAUnbiased) (y := d.expBUnbiased) (by omega) (by omega)
  simp only [stepDivideFirst]
  rw [toInt_sub_of_bounds (by omega) (by omega), hexp, hshift]

theorem Prepared.finishes (h : Prepared a b d) (hstate : d.state = .divide) :
    Finishes a b 27 d := by
  refine ⟨h.waits, fun i => ?_⟩
  rw [step_first h.waits hstate h.count]
  obtain ⟨n, m, e, hdividing⟩ := h.dividing
  exact hdividing.finishes hstate rfl

/-- The operands are told apart; only finite ones that are not zero are divided. -/
theorem stepPrep_cases (d : Fdiv) (hwaits : d.done = false) (hcount : d.iterCount = 0) :
    (d.stepPrep.done = true ∧ RoundedQuotient d.aLatched d.bLatched d.stepPrep.result) ∨
      (d.stepPrep.state = .divide ∧ Prepared d.aLatched d.bLatched d.stepPrep) := by
  by_cases hnan : (isNan d.aLatched || isNan d.bLatched) = true
  · left
    rw [stepPrep, if_pos hnan]
    rw [Bool.or_eq_true] at hnan
    exact ⟨rfl, roundedQuotient_nan (hnan.imp_right .inl)⟩
  by_cases hsame : (isZero d.aLatched && isZero d.bLatched ||
      isInf d.aLatched && isInf d.bLatched) = true
  · left
    rw [stepPrep, if_neg hnan, if_pos hsame]
    simp only [Bool.or_eq_true, Bool.and_eq_true] at hsame
    exact ⟨rfl, roundedQuotient_nan (.inr (.inr hsame))⟩
  have hvalid : ¬Invalid d.aLatched d.bLatched := by
    simp only [Bool.or_eq_true, Bool.and_eq_true, not_or] at hnan hsame
    rintro (h | h | h | h)
    · exact hnan.1 h
    · exact hnan.2 h
    · exact hsame.1 h
    · exact hsame.2 h
  by_cases hzeroB : isZero d.bLatched = true
  · left
    rw [stepPrep, if_neg hnan, if_neg hsame, if_pos hzeroB]
    exact ⟨rfl, roundedQuotient_inf hvalid (.inl hzeroB)⟩
  by_cases hinfA : isInf d.aLatched = true
  · left
    rw [stepPrep, if_neg hnan, if_neg hsame, if_neg hzeroB, if_pos hinfA]
    exact ⟨rfl, roundedQuotient_inf hvalid (.inr (.inl hinfA))⟩
  by_cases hvanishes : (isZero d.aLatched || isInf d.bLatched) = true
  · left
    rw [stepPrep, if_neg hnan, if_neg hsame, if_neg hzeroB, if_neg hinfA, if_pos hvanishes]
    rw [Bool.or_eq_true] at hvanishes
    exact ⟨rfl, roundedQuotient_zero hvalid (hvanishes.imp_right .inl)⟩
  right
  rw [stepPrep, if_neg hnan, if_neg hsame, if_neg hzeroB, if_neg hinfA, if_neg hvanishes]
  simp only [Bool.or_eq_true, not_or, Bool.not_eq_true] at hnan hvanishes hzeroB hinfA
  have hfiniteA := (isFinite_iff d.aLatched).mpr ⟨hnan.1, hinfA⟩
  have hfiniteB := (isFinite_iff d.bLatched).mpr ⟨hnan.2, hvanishes.2⟩
  exact ⟨rfl, ⟨rfl, rfl⟩, hwaits, hcount, ⟨hfiniteA, hfiniteB⟩, hzeroB,
    decodes hfiniteA hvanishes.1, decodes hfiniteB hzeroB⟩

theorem finishes_prep (hstate : d.state = .prep) (hwaits : d.done = false)
    (hcount : d.iterCount = 0) : ∃ n ≤ 28, Finishes d.aLatched d.bLatched n d := by
  obtain hdone | ⟨hdivide, hprepared⟩ := stepPrep_cases d hwaits hcount
  · refine ⟨1, by omega, hwaits, fun i => ?_⟩
    rw [step_prep hwaits hstate]
    exact hdone
  · refine ⟨28, le_refl 28, hwaits, fun i => ?_⟩
    rw [step_prep hwaits hstate]
    exact hprepared.finishes hdivide

end

/-- A division starts with a cleared count. -/
def Ready (d : Fdiv) : Prop := d.state = .idle ∨ d.state = .prep → d.iterCount = 0

theorem Ready.step {d : Fdiv} (h : d.Ready) (i : FdivIn) : (d.step i).Ready := by
  cases hstate : d.state with
  | idle =>
    have hcount := h (.inl hstate)
    simp only [Fdiv.step, hstate, stepIdle]
    split <;> exact fun _ => hcount
  | prep =>
    have hcount := h (.inr hstate)
    simp only [Fdiv.step, hstate, stepPrep]
    repeat' split
    all_goals exact fun _ => hcount
  | divide =>
    intro hnot
    simp only [Fdiv.step, hstate] at hnot
    split at hnot
    · simp [stepDivideFirst] at hnot
    · simp only [stepDivideNext] at hnot
      split at hnot <;> simp at hnot
  | round =>
    intro _
    simp only [Fdiv.step, hstate, stepRound]
    split
    · rfl
    · split <;> rfl

theorem ready_run (past : List FdivIn) : (Machine.run step reset past).Ready :=
  run_inv (fun _ i h (_ : True) => h.step i) (fun _ => rfl) (along_true _ _)

end Fdiv

open Fdiv

/-- A division that is started when the divider is idle ends in at most 28 cycles with the rounded
quotient of its operands, whatever the inputs are meanwhile. -/
theorem divider_rounds {past : List FdivIn} (hidle : (run Fdiv.step reset past).state = .idle)
    {i : FdivIn} (hstart : i.start = true) :
    ∃ n ≤ 28, ∀ later : List FdivIn,
      (later.length < n → (run Fdiv.step reset (past ++ i :: later)).done = false) ∧
        (later.length = n → (run Fdiv.step reset (past ++ i :: later)).done = true ∧
          RoundedQuotient i.a i.b (run Fdiv.step reset (past ++ i :: later)).result) := by
  have hcount := ready_run past (.inl hidle)
  have hrun (later : List FdivIn) : run Fdiv.step reset (past ++ i :: later) =
      run Fdiv.step ((run Fdiv.step reset past).step i) later := by
    rw [run, List.foldl_append]
    rfl
  generalize run Fdiv.step reset past = d at hidle hcount hrun
  have hstep : d.step i = { d with
      aLatched := i.a, bLatched := i.b, busy := true, done := false, divByZero := false,
      invalidOp := false, overflow := false, underflow := false, state := .prep } := by
    simp [Fdiv.step, hidle, stepIdle, hstart]
  rw [hstep] at hrun
  obtain ⟨n, hn, hfinishes⟩ := finishes_prep (d := { d with
    aLatched := i.a, bLatched := i.b, busy := true, done := false, divByZero := false,
    invalidOp := false, overflow := false, underflow := false, state := .prep }) rfl rfl hcount
  refine ⟨n, hn, fun later => ?_⟩
  rw [hrun]
  exact hfinishes.run later

/-- One divided by three. -/
theorem divider_rounds_third :
    ∃ n ≤ 28, ∀ later : List FdivIn,
      (later.length < n →
        (run Fdiv.step reset ([] ++ ⟨true, 0x3F800000, 0x40400000⟩ :: later)).done = false) ∧
        (later.length = n →
          (run Fdiv.step reset ([] ++ ⟨true, 0x3F800000, 0x40400000⟩ :: later)).done = true ∧
          RoundedQuotient 0x3F800000 0x40400000
            (run Fdiv.step reset ([] ++ ⟨true, 0x3F800000, 0x40400000⟩ :: later)).result) :=
  @divider_rounds [] rfl _ rfl

end NodeNet.Vm

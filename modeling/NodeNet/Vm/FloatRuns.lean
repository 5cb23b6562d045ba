import NodeNet.Vm.FloatPhases
import NodeNet.Vm.FloatSum
import NodeNet.Vm.IntegerSteps

/-! Which sums, differences and products of the float unit are faithful. -/
namespace NodeNet.Vm
open NodeNet.Binary32 NodeNet.Machine
open Fdiv (floatQnan packFloatZero packFloatInf leadingZeroCount24)

namespace Float

section
variable {a b : BitVec 32}

theorem significand_lt_iff : significand a < 2 ^ 23 ↔ exponent a = 0 := by
  have hlt := (fraction a).isLt
  rw [significand]
  split
  · exact iff_of_true hlt ‹_›
  · exact iff_of_false (by omega) ‹_›

theorem finite_or (raw : BitVec 32) :
    isNan raw = true ∨ isInf raw = true ∨ isFinite raw = true := by
  have h := isFinite_iff raw
  cases hnan : isNan raw <;> cases hinf : isInf raw <;> simp [hnan, hinf, h]

theorem exactAddsub_eq (subtract : Bool) :
    (exactAddsub subtract a b).value = value a + signed subtract (value b) := by
  cases subtract
  · rfl
  · exact sub_eq_add_neg ..

theorem exactAddsub_value (subtract : Bool) : (exactAddsub subtract a b).value =
    signed (sign a) ((units a : Rat) * 2 ^ (-149 : Int)) +
      signed (sign b ^^ subtract) ((units b : Rat) * 2 ^ (-149 : Int)) := by
  rw [exactAddsub_eq, Bool.xor_comm, ← signed_signed, ← value_eq_signed, ← value_eq_signed]

theorem value_pack {s : Bool} (h : isFinite a = true) :
    isFinite (pack s (exponent a) (fraction a)) = true ∧
      value (pack s (exponent a) (fraction a)) = signed s (magnitude a) := by
  constructor
  · rw [isFinite, exponent_pack]
    exact h
  · rw [value, sign_pack, magnitude, significand, scale, exponent_pack, fraction_pack]
    rfl

theorem addsDenormals_iff (subtract : Bool) :
    sign a = (sign b ^^ subtract) ∧ significand a + significand b < 2 ^ 23 ↔
      AddsDenormals subtract a b := by
  refine and_congr_right fun _ => ?_
  constructor
  · intro h
    have ha := significand_lt_iff.mp (Nat.lt_of_le_of_lt (Nat.le_add_right ..) h)
    have hb := significand_lt_iff.mp (Nat.lt_of_le_of_lt (Nat.le_add_left ..) h)
    rw [significand, significand, if_pos ha, if_pos hb] at h
    exact ⟨ha, hb, h⟩
  · rintro ⟨ha, hb, h⟩
    rw [significand, significand, if_pos ha, if_pos hb]
    exact h

theorem addsubResult_special (staleSign subtract : Bool)
    (h : ¬(isFinite a = true ∧ isFinite b = true)) :
    Faithful (exactAddsub subtract a b) a b (addsubResult staleSign subtract a b) := by
  have hqnan : isNan floatQnan = true := by decide
  by_cases hnan : isNan a = true ∨ isNan b = true
  · have hres : addsubResult staleSign subtract a b = floatQnan :=
      if_pos (Bool.or_eq_true .. ▸ hnan)
    rw [hres]
    exact faithful_nan hqnan (by tauto) (by tauto)
  · obtain ⟨ha, hb⟩ := not_or.mp hnan
    rw [Bool.not_eq_true] at ha hb
    have hinf : isInf a = true ∨ isInf b = true := by
      have := finite_or a
      have := finite_or b
      tauto
    have hvalid : isInf a = false ∨ isInf b = false ∨ sign a = (sign b ^^ subtract) →
        (exactAddsub subtract a b).invalid = false := by
      rintro (h | h | h) <;> simp [exactAddsub, h]
    unfold addsubResult
    simp only [ha, hb, Bool.or_self, Bool.false_eq_true, if_false]
    cases hia : isInf a <;> cases hib : isInf b
    · simp [hia, hib] at hinf
    · rw [Bool.false_and, if_neg Bool.false_ne_true, if_neg Bool.false_ne_true, if_pos rfl]
      refine faithful_infinite ha hb (hvalid (Or.inl hia)) hinf ?_
      rw [exactAddsub, hia, if_neg Bool.false_ne_true]
    · rw [Bool.and_false, if_neg Bool.false_ne_true, if_pos rfl]
      refine faithful_infinite ha hb (hvalid (Or.inr (Or.inl hib))) hinf ?_
      rw [exactAddsub, hia, if_pos rfl]
    · rw [Bool.and_self, if_pos rfl]
      by_cases hsign : sign a = (sign b ^^ subtract)
      · rw [if_pos hsign]
        refine faithful_infinite ha hb (hvalid (Or.inr (Or.inr hsign))) hinf ?_
        rw [exactAddsub, hia, if_pos rfl]
      · rw [if_neg hsign]
        refine faithful_nan hqnan (Or.inr (Or.inr hinf)) (Or.inr (Or.inr ?_))
        simp [exactAddsub, hia, hib, hsign]

theorem addsubResult_roundsTo_iff (ha : isFinite a = true) (hb : isFinite b = true)
    (staleSign subtract : Bool) :
    RoundsTo (exactAddsub subtract a b).value (addsubResult staleSign subtract a b) ↔
      ¬(isZero a = false ∧ isZero b = false ∧
        (AddsDenormals subtract a b ∨ CancelsBelow staleSign subtract a b)) := by
  have hvalue := exactAddsub_value (a := a) (b := b) subtract
  unfold addsubResult
  simp only [isNan_of_isFinite ha, isNan_of_isFinite hb, isInf_of_isFinite ha,
    isInf_of_isFinite hb, Bool.or_self, Bool.and_self, Bool.false_eq_true, if_false]
  cases hza : isZero a <;> cases hzb : isZero b
  · rw [Bool.false_and, if_neg Bool.false_ne_true, if_neg Bool.false_ne_true,
      if_neg Bool.false_ne_true]
    have hx : (exactAddsub subtract a b).value =
        signed (sign a) (((parts (sign a) a).units : Rat) * 2 ^ (-149 : Int)) +
          signed (sign b ^^ subtract)
            (((parts (sign b ^^ subtract) b).units : Rat) * 2 ^ (-149 : Int)) := by
      rw [hvalue, parts_units, parts_units]
    have hl : (parts (sign a) a).Valid := parts_valid ha hza
    have hr : (parts (sign b ^^ subtract) b).Valid := parts_valid hb hzb
    rw [addsubParts_roundsTo_iff hl hr staleSign hx, ← addsDenormals_iff]
    simp only [true_and]
    rfl
  · rw [Bool.false_and, if_neg Bool.false_ne_true, if_neg Bool.false_ne_true, if_pos rfl]
    refine iff_of_true (roundsTo_self ha ?_) (by simp)
    rw [exactAddsub_eq, value_of_isZero hzb]
    cases subtract <;> simp [signed]
  · rw [Bool.and_false, if_neg Bool.false_ne_true, if_pos rfl]
    obtain ⟨hfinite, hpack⟩ := value_pack (s := sign b ^^ subtract) hb
    refine iff_of_true (roundsTo_self hfinite ?_) (by simp)
    rw [exactAddsub_eq, value_of_isZero hza, zero_add, hpack, value, signed_signed, Bool.xor_comm]
  · rw [Bool.and_self, if_pos rfl]
    refine iff_of_true (roundsTo_self (by decide) ?_) (by simp)
    rw [exactAddsub_eq, value_of_isZero hza, value_of_isZero hzb, value_of_isZero (by decide)]
    cases subtract <;> simp [signed]

theorem addsubResult_faithful_iff (staleSign subtract : Bool) :
    Faithful (exactAddsub subtract a b) a b (addsubResult staleSign subtract a b) ↔
      ¬(isFinite a = true ∧ isFinite b = true ∧ isZero a = false ∧ isZero b = false ∧
        (AddsDenormals subtract a b ∨ CancelsBelow staleSign subtract a b)) := by
  by_cases hfinite : isFinite a = true ∧ isFinite b = true
  · obtain ⟨ha, hb⟩ := hfinite
    have hvalid : (exactAddsub subtract a b).invalid = false := by
      simp [exactAddsub, isInf_of_isFinite ha]
    have hiff := addsubResult_roundsTo_iff ha hb staleSign subtract
    simp only [ha, hb, true_and]
    rw [← hiff]
    exact ⟨fun h => h.roundsTo ha hb, fun h => h.faithful ha hb hvalid⟩
  · refine iff_of_true (addsubResult_special staleSign subtract hfinite) ?_
    rintro ⟨ha, hb, -⟩
    exact hfinite ⟨ha, hb⟩

theorem mulResult_special (h : ¬(isFinite a = true ∧ isFinite b = true)) :
    Faithful (exactMul a b) a b (mulResult a b) := by
  have hqnan : isNan floatQnan = true := by decide
  unfold mulResult
  by_cases hnan : isNan a = true ∨ isNan b = true
  · rw [if_pos (by simpa using hnan)]
    exact faithful_nan hqnan (by tauto) (by tauto)
  · rw [if_neg (by simpa using hnan)]
    obtain ⟨ha, hb⟩ := not_or.mp hnan
    rw [Bool.not_eq_true] at ha hb
    have hinf : isInf a = true ∨ isInf b = true := by
      have := finite_or a
      have := finite_or b
      tauto
    by_cases hvalid : (isInf a && isZero b || isZero a && isInf b) = true
    · rw [if_pos hvalid]
      exact faithful_nan hqnan (Or.inr (Or.inr hinf)) (Or.inr (Or.inr hvalid))
    · rw [if_neg hvalid, if_pos (by simpa using hinf)]
      exact faithful_infinite ha hb (Bool.eq_false_iff.mpr hvalid) hinf rfl

theorem mulParts_eq {left right : Parts} {p m : Nat} {e : Int}
    (hp : p = left.mant * right.mant) (hlt : p < 2 ^ 48)
    (hm : m = if 2 ^ 47 ≤ p then p / 2 ^ 24 else p / 2 ^ 23)
    (he : e = left.exp + right.exp - 127 + if 2 ^ 47 ≤ p then 1 else 0) :
    mulParts left right =
      if m = 0 ∨ e ≤ 0 then packFloatZero (left.sign ^^ right.sign)
      else if 255 ≤ e then packFloatInf (left.sign ^^ right.sign)
      else pack (left.sign ^^ right.sign) (.ofInt 8 e) (.ofNat 23 m) := by
  have hbit : p.testBit 47 = decide (2 ^ 47 ≤ p) := testBit_iff hlt
  have hmant : (if 2 ^ 47 ≤ p then p >>> 1 else p) >>> 23 % 2 ^ 24 = m := by
    rw [hm, Nat.shiftRight_eq_div_pow, Nat.shiftRight_eq_div_pow]
    split <;> omega
  unfold mulParts
  simp only [← hp, hbit, decide_eq_true_eq, hmant, ← he]

theorem cut_bounds (p k : Nat) (d : Int) :
    ((p / 2 ^ k : Nat) : Rat) * 2 ^ (d + k) ≤ p * 2 ^ d ∧
      p * 2 ^ d < ((p / 2 ^ k + 1 : Nat) : Rat) * 2 ^ (d + k) := by
  have hunit : (0 : Rat) < 2 ^ d := zpow_pos two_pos _
  have hle : p / 2 ^ k * 2 ^ k ≤ p := Nat.div_mul_le_self ..
  have hlt : p < (p / 2 ^ k + 1) * 2 ^ k := by
    rw [Nat.mul_comm]
    exact Nat.lt_mul_div_succ p (Nat.two_pow_pos k)
  have hscale (n : Nat) : (n : Rat) * 2 ^ (d + k) = ((n * 2 ^ k : Nat) : Rat) * 2 ^ d := by
    rw [zpow_add₀ two_ne_zero, zpow_natCast]
    push_cast
    ring
  rw [hscale, hscale]
  constructor
  · exact mul_le_mul_of_nonneg_right (Nat.cast_le.mpr hle) hunit.le
  · exact mul_lt_mul_of_pos_right (Nat.cast_lt.mpr hlt) hunit

theorem denormal_product {left right : Parts} (hl : left.Valid) (hr : right.Valid)
    (h : left.mant * right.mant < 2 ^ 46) (hexp : 128 ≤ left.exp + right.exp) :
    2 ^ 23 ≤ left.mant * right.mant ∧ left.exp + right.exp ≤ 255 := by
  have hexpl := hl.exp_le
  have hexpr := hr.exp_le
  by_cases hdenormal : left.mant < 2 ^ 23
  · have hone := hl.denormal hdenormal
    have hnormal : 2 ^ 23 ≤ right.mant := by
      by_contra hlt
      have := hr.denormal (Nat.lt_of_not_le hlt)
      omega
    exact ⟨hnormal.trans (Nat.le_mul_of_pos_left _ hl.mant_pos), by omega⟩
  · have hnormal := Nat.le_of_not_lt hdenormal
    have hlt : right.mant < 2 ^ 23 := by
      by_contra hle
      have hmul := Nat.mul_le_mul hnormal (Nat.le_of_not_lt hle)
      omega
    have hone := hr.denormal hlt
    exact ⟨hnormal.trans (Nat.le_mul_of_pos_right _ hr.mant_pos), by omega⟩

/-- A product of finite floats is rounded unless its mantissa has a leading zero and its exponent
is that of a normal float. -/
theorem mulParts_roundsTo_iff {left right : Parts} (hl : left.Valid) (hr : right.Valid) :
    RoundsTo (signed (left.sign ^^ right.sign)
        (((left.units : Rat) * right.units * 2 ^ (-149 : Int)) * 2 ^ (-149 : Int)))
      (mulParts left right) ↔
      ¬(left.mant * right.mant < 2 ^ 46 ∧ 128 ≤ left.exp + right.exp) := by
  have hposl := hl.exp_pos
  have hposr := hr.exp_pos
  have hprod : left.mant * right.mant < 2 ^ 48 := by
    have hmul := Nat.mul_lt_mul'' hl.mant_lt hr.mant_lt
    omega
  have hprodpos : 0 < left.mant * right.mant := Nat.mul_pos hl.mant_pos hr.mant_pos
  have hy : (left.units : Rat) * right.units * 2 ^ (-149 : Int) =
      (left.mant * right.mant : Nat) * 2 ^ ((left.exp : Int) + right.exp - 151) := by
    have hsplit : (left.exp : Int) + right.exp - 151 =
        ((left.exp - 1 : Nat) : Int) + ((right.exp - 1 : Nat) : Int) + -149 := by omega
    rw [hsplit, zpow_add₀ two_ne_zero, zpow_add₀ two_ne_zero, zpow_natCast, zpow_natCast,
      Parts.units, Parts.units]
    push_cast
    ring
  have hfew (h : left.mant * right.mant < 2 ^ 46) (hexp : 128 ≤ left.exp + right.exp) :=
    denormal_product hl hr h hexp
  rw [hy, mulParts_eq rfl hprod rfl rfl]
  generalize left.mant * right.mant = p at *
  have hunit : (0 : Rat) < 2 ^ ((left.exp : Int) + right.exp - 151) := zpow_pos two_pos _
  generalize hE : (left.exp : Int) + right.exp - 151 = d at *
  have hexp : (left.exp : Int) + right.exp - 127 = d + 24 := by omega
  rw [hexp]
  by_cases hfull : 2 ^ 46 ≤ p
  · refine iff_of_true ?_ (fun h => absurd h.1 hfull.not_gt)
    by_cases hcarry : 2 ^ 47 ≤ p
    · obtain ⟨hlow, hhigh⟩ := cut_bounds p 24 d
      simp only [if_pos hcarry]
      rw [if_congr (or_iff_right (by omega)) rfl rfl]
      have hplace : d + (24 : Nat) = d + 24 + 1 - 1 := by omega
      rw [hplace] at hlow hhigh
      exact roundsTo_scaled (by omega) (by omega) hlow hhigh
    · obtain ⟨hlow, hhigh⟩ := cut_bounds p 23 d
      simp only [if_neg hcarry]
      rw [if_congr (or_iff_right (by omega)) rfl rfl]
      have hplace : d + (23 : Nat) = d + 24 + 0 - 1 := by omega
      rw [hplace] at hlow hhigh
      exact roundsTo_scaled (by omega) (by omega) hlow hhigh
  · have hcarry : ¬2 ^ 47 ≤ p := by omega
    have hlt := Nat.lt_of_not_le hfull
    have hpos : (0 : Rat) < p := by exact_mod_cast hprodpos
    simp only [if_neg hcarry]
    by_cases hbig : 128 ≤ left.exp + right.exp
    · obtain ⟨hone, hsum⟩ := hfew hlt hbig
      refine iff_of_false ?_ (not_not.mpr ⟨hlt, hbig⟩)
      obtain ⟨n, rfl⟩ : ∃ n : Nat, d = n - 23 := ⟨(d + 23).toNat, by omega⟩
      have hcast : (n : Int) - 23 + 24 + 0 = (n + 1 : Nat) := by omega
      rw [hcast, if_neg (by omega), if_neg (by omega), BitVec.ofInt_natCast]
      refine not_roundsTo_pack (by omega) (by omega) (by omega) (by omega) (mul_pos hpos hunit) ?_
      obtain ⟨-, hhigh⟩ := cut_bounds p 23 (n - 23)
      refine hhigh.trans_le ?_
      have hplace : (n : Int) - 23 + (23 : Nat) = n := by omega
      rw [hplace, zpow_natCast, Nat.add_sub_cancel]
      have hle : (p / 2 ^ 23 + 1) * 2 ^ n ≤ 2 ^ 23 * 2 ^ n := Nat.mul_le_mul_right _ (by omega)
      exact_mod_cast hle
    · refine iff_of_true ?_ (fun h => hbig h.2)
      rw [if_pos (Or.inr (by omega))]
      refine roundsTo_zero (mul_pos hpos hunit) ?_
      have hcast : (p : Rat) < 2 ^ 46 := by exact_mod_cast hlt
      have hle : (2 : Rat) ^ d ≤ 2 ^ (-24 : Int) := zpow_le_zpow_right₀ one_le_two (by omega)
      calc
        (p : Rat) * 2 ^ d < 2 ^ 46 * 2 ^ d := mul_lt_mul_of_pos_right hcast hunit
        _ ≤ 2 ^ 46 * 2 ^ (-24 : Int) := mul_le_mul_of_nonneg_left hle (by positivity)
        _ ≤ 2 ^ 23 := by norm_num

theorem scalesDenormal_iff (ha : isFinite a = true) (hb : isFinite b = true)
    (hza : isZero a = false) (hzb : isZero b = false) :
    ScalesDenormal a b ∨ ScalesDenormal b a ↔
      significand a * significand b < 2 ^ 46 ∧ 128 ≤ effExp a + effExp b := by
  have hscales {a b : BitVec 32} (h : ScalesDenormal a b) :
      significand a * significand b < 2 ^ 46 ∧ 128 ≤ effExp a + effExp b := by
    obtain ⟨-, hexp, -, hbig, hlt⟩ := h
    have hne : exponent b ≠ 0 := by
      intro hzero
      rw [hzero] at hbig
      exact absurd hbig (by decide)
    rw [effExp, effExp, if_pos hexp, if_neg hne]
    exact ⟨hlt, by omega⟩
  have heff {a b : BitVec 32} (ha : exponent a = 0) (h : 128 ≤ effExp a + effExp b) :
      127 ≤ (exponent b).toNat := by
    rw [effExp, effExp, if_pos ha] at h
    split at h <;> omega
  constructor
  · rintro (h | h)
    · exact hscales h
    · rw [Nat.mul_comm, Nat.add_comm]
      exact hscales h
  · rintro ⟨hlt, hexp⟩
    by_cases hdenormal : significand a < 2 ^ 23
    · have hzero := significand_lt_iff.mp hdenormal
      exact Or.inl ⟨hza, hzero, hb, heff hzero hexp, hlt⟩
    · have hzero : exponent b = 0 := by
        rw [← significand_lt_iff]
        by_contra hnot
        have hmul := Nat.mul_le_mul (Nat.le_of_not_lt hdenormal) (Nat.le_of_not_lt hnot)
        omega
      rw [Nat.add_comm] at hexp
      rw [Nat.mul_comm] at hlt
      exact Or.inr ⟨hzb, hzero, ha, heff hzero hexp, hlt⟩

theorem not_scalesDenormal_of_zero (h : isZero a = true ∨ isZero b = true) :
    ¬(ScalesDenormal a b ∨ ScalesDenormal b a) := by
  have hexp {raw : BitVec 32} (hzero : isZero raw = true) : ¬127 ≤ (exponent raw).toNat := by
    rw [((isZero_iff raw).mp hzero).1]
    decide
  rintro (⟨hza, -, -, hb, -⟩ | ⟨hzb, -, -, ha, -⟩) <;> obtain h | h := h
  · cases hza.symm.trans h
  · exact hexp h hb
  · exact hexp h ha
  · cases hzb.symm.trans h

/-- The unit's product is faithful but for the flaw. -/
theorem mulResult_faithful_iff :
    Faithful (exactMul a b) a b (mulResult a b) ↔ ¬(ScalesDenormal a b ∨ ScalesDenormal b a) := by
  by_cases hfinite : isFinite a = true ∧ isFinite b = true
  · obtain ⟨ha, hb⟩ := hfinite
    have hvalid : (exactMul a b).invalid = false := by
      simp [exactMul, isInf_of_isFinite ha, isInf_of_isFinite hb]
    have hround : Faithful (exactMul a b) a b (mulResult a b) ↔
        RoundsTo (exactMul a b).value (mulResult a b) :=
      ⟨fun h => h.roundsTo ha hb, fun h => h.faithful ha hb hvalid⟩
    rw [hround]
    have hres : mulResult a b =
        if (isZero a || isZero b) = true then packFloatZero (sign a ^^ sign b)
        else mulParts (parts (sign a) a) (parts (sign b) b) := by
      unfold mulResult
      simp only [isNan_of_isFinite ha, isNan_of_isFinite hb, isInf_of_isFinite ha,
        isInf_of_isFinite hb, Bool.or_self, Bool.false_and, Bool.and_false, Bool.false_eq_true,
        if_false]
    rw [hres]
    by_cases hzero : isZero a = true ∨ isZero b = true
    · rw [if_pos (by simpa using hzero)]
      refine iff_of_true (roundsTo_self ?_ ?_) (not_scalesDenormal_of_zero hzero)
      · cases sign a ^^ sign b <;> decide
      · have hres : value (packFloatZero (sign a ^^ sign b)) = 0 :=
          value_of_isZero (by cases sign a ^^ sign b <;> decide)
        rw [hres]
        obtain h | h := hzero <;> simp [exactMul, value_of_isZero h]
    · rw [if_neg (by simpa using hzero)]
      obtain ⟨hza, hzb⟩ := not_or.mp hzero
      rw [Bool.not_eq_true] at hza hzb
      rw [scalesDenormal_iff ha hb hza hzb]
      have hl : (parts (sign a) a).Valid := parts_valid ha hza
      have hr : (parts (sign b) b).Valid := parts_valid hb hzb
      have hiff := mulParts_roundsTo_iff hl hr
      rw [parts_units, parts_units] at hiff
      have hvalue : (exactMul a b).value = signed (sign a ^^ sign b)
          ((units a : Rat) * units b * 2 ^ (-149 : Int) * 2 ^ (-149 : Int)) := by
        rw [exactMul, value_eq_signed a, value_eq_signed b]
        cases sign a <;> cases sign b <;>
          simp only [signed, Bool.xor_self, Bool.false_xor, Bool.xor_false, Bool.false_eq_true,
            if_true, if_false] <;>
          ring
      rw [hvalue]
      exact hiff
  · refine iff_of_true (mulResult_special hfinite) ?_
    rintro (⟨-, hexp, hb, -⟩ | ⟨-, hexp, ha, -⟩)
    · refine hfinite ⟨?_, hb⟩
      rw [isFinite, hexp]
      decide
    · refine hfinite ⟨ha, ?_⟩
      rw [isFinite, hexp]
      decide

theorem float_op_cases {opcode : UInt8} (hop : opcodeIsFloatOp opcode = true) :
    opcode = opcodeFadd ∨ opcode = opcodeFsub ∨ opcode = opcodeFmul := by
  have hmem := List.mem_of_elem_eq_true hop
  simpa only [List.mem_cons, List.not_mem_nil, or_false] using hmem

theorem compute_faithful_iff {opcode : UInt8} (hop : opcodeIsFloatOp opcode = true)
    (staleSign : Bool) (left right : UInt32) :
    Faithful (exactOf opcode left.toBitVec right.toBitVec) left.toBitVec right.toBitVec
        (compute staleSign opcode left right).toBitVec ↔
      ¬Unfaithful staleSign opcode left.toBitVec right.toBitVec := by
  obtain rfl | rfl | rfl := float_op_cases hop
  · exact addsubResult_faithful_iff staleSign false
  · exact addsubResult_faithful_iff staleSign true
  · exact mulResult_faithful_iff

end

end Float

/-! What the machine's float instructions push. -/

/-- A cycle of the machine and the unit, with the sign that the unit's register holds in it. -/
def FloatVm.next (p : FloatVm) (i : In × Bool) : FloatVm := p.step (Float.compute i.2) i.1

theorem floatPhase_run (adr dat : UInt32) (past : List (In × Bool)) :
    Reached (run FloatVm.next (FloatVm.reset adr dat) past).vm ∧
      FloatPhase (run FloatVm.next (FloatVm.reset adr dat) past) := by
  have hstep : ∀ (p : FloatVm) (i : In × Bool), Reached p.vm ∧ FloatPhase p → True →
      Reached (p.next i).vm ∧ FloatPhase (p.next i) :=
    fun p i h _ => ⟨h.1.step (p.inputs i.1), h.2.step h.1 i.1⟩
  exact run_inv hstep ⟨reached_reset adr dat, floatPhase_reset adr dat⟩ (along_true _ _)

section
variable {p : FloatVm} {a b : UInt32} {rest : List Operand}

/-- From the start of the unit it takes four cycles to the result. -/
theorem FloatPhase.replaces (h : FloatPhase p) (hreached : Reached p.vm)
    (hstate : p.vm.state = .floatOpStart)
    (hstack : p.vm.data.stack.Holds (⟨b, .float32⟩ :: ⟨a, .float32⟩ :: rest))
    (start latch work take : In × Bool) :
    Replaces p.vm (run FloatVm.next p [start, latch, work, take]).vm rest
      ⟨Float.compute work.2 p.vm.currentOpcode a b, .float32⟩ := by
  have hserves := hreached.serves
  rw [hstate] at hserves
  have hop : opcodeIsFloatOp p.vm.currentOpcode = true := hserves
  have htop : p.vm.data.stack.top = ⟨b, .float32⟩ := by
    rw [hstack.eq, Stack.ofList_top _ _ hstack.length]
  have hnext : p.vm.data.stack.next = ⟨a, .float32⟩ := by
    rw [hstack.eq, Stack.ofList_next _ _ _ hstack.length]
  obtain ⟨hstart, hbusy, hdone⟩ : p.vm.floatOpStart = false ∧ p.floatOp.busy = false ∧
      p.floatOp.done = false := by
    cases h with
    | idle _ hstart hbusy hdone => exact ⟨hstart, hbusy, hdone⟩
    | started hwait | busy hwait | done hwait => cases hstate.symm.trans hwait
  -- The machine raises the start line.
  have hone : (p.next start).vm.state = .floatOpWait ∧ (p.next start).vm.floatOpStart = true ∧
      (p.next start).vm.data.stack = p.vm.data.stack ∧
      (p.next start).vm.currentOpcode = p.vm.currentOpcode ∧
      (p.next start).floatOp.busy = false ∧ (p.next start).floatOp.done = false := by
    have hstep : p.vm.step (p.inputs start.1) =
        (p.vm.latch (p.inputs start.1)).perform p.vm .startFloatOp := by
      rw [step_of_acts _ (by rw [hstate]; rfl)]
      simp only [execute, hstate]
    simp only [FloatVm.next, FloatVm.step, hstep]
    simp [WbPlc.perform, WbPlc.latch, FloatOp.step, hstart, hbusy]
  change Replaces p.vm ((((p.next start).next latch).next work).next take).vm rest _
  generalize p.next start = p1 at hone ⊢
  obtain ⟨hstate1, hstart1, hstack1, hopcode1, hbusy1, hdone1⟩ := hone
  -- The unit latches the operands.
  have htwo : (p1.next latch).vm.state = .floatOpWait ∧ (p1.next latch).vm.floatOpStart = false ∧
      (p1.next latch).vm.data.stack = p.vm.data.stack ∧ (p1.next latch).floatOp.busy = true ∧
      (p1.next latch).floatOp.done = false ∧
      (p1.next latch).floatOp.opcodeLatched = p.vm.currentOpcode ∧
      (p1.next latch).floatOp.lhsLatched = ⟨a, .float32⟩ ∧
      (p1.next latch).floatOp.rhsLatched = ⟨b, .float32⟩ := by
    have hstep := step_floatOpWait_of_not_done (i := p1.inputs latch.1) hstate1 hdone1
    simp only [FloatVm.next, FloatVm.step, hstep]
    simp [WbPlc.latch, FloatOp.step, hstart1, hbusy1, hstate1, hstack1, hopcode1, htop, hnext]
  generalize p1.next latch = p2 at htwo ⊢
  obtain ⟨hstate2, hstart2, hstack2, hbusy2, hdone2, hopcode2, hlhs2, hrhs2⟩ := htwo
  -- The unit computes.
  have hthree : (p2.next work).vm.state = .floatOpWait ∧
      (p2.next work).vm.data.stack = p.vm.data.stack ∧ (p2.next work).floatOp.done = true ∧
      (p2.next work).floatOp.result =
        ⟨true, false, true, Float.compute work.2 p.vm.currentOpcode a b, .float32⟩ := by
    have hstep := step_floatOpWait_of_not_done (i := p2.inputs work.1) hstate2 hdone2
    simp only [FloatVm.next, FloatVm.step, hstep]
    simp [WbPlc.latch, FloatOp.step, FloatOp.result, hstart2, hbusy2, hstate2, hstack2, hopcode2,
      hlhs2, hrhs2, hop]
  generalize p2.next work = p3 at hthree ⊢
  obtain ⟨hstate3, hstack3, hdone3, hresult3⟩ := hthree
  -- The machine takes the result.
  have hdone : (p3.inputs take.1).floatOpDone = true := hdone3
  have hresult : (p3.inputs take.1).floatOp =
      ⟨true, false, true, Float.compute work.2 p.vm.currentOpcode a b, .float32⟩ := hresult3
  have hfour : (p3.next take).vm =
      (p3.vm.latch (p3.inputs take.1)).perform p3.vm (moveStack p3.vm false .fetchOpcode
        (.ofList (⟨Float.compute work.2 p.vm.currentOpcode a b, .float32⟩ :: rest))) := by
    have hstep := step_floatOpWait (i := p3.inputs take.1) hstate3
    rw [hdone, hresult, hstack3, hstack.eq, Stack.ofList_binaryResult hstack.length] at hstep
    exact hstep
  rw [hfour]
  refine ⟨rfl, rfl, ?_, ?_⟩
  · have hlength := hstack.length
    simp only [List.length_cons] at hlength ⊢
    omega
  · intro o ho
    obtain rfl | ho := List.mem_cons.mp ho
    · exact canonical_of_typed (by simp) (by simp) (by simp)
    · exact hstack.canonical o (by simp [ho])

end

/-- In every run: a float instruction pushes a faithful result exactly if it is none of the sums
and products that the unit gets wrong. -/
theorem float_faithful_iff (adr dat : UInt32) (past : List (In × Bool))
    (start latch work take : In × Bool) {a b : UInt32} {rest : List Operand}
    (hstate : (run FloatVm.next (FloatVm.reset adr dat) past).vm.state = .floatOpStart)
    (hstack : (run FloatVm.next (FloatVm.reset adr dat) past).vm.data.stack.Holds
      (⟨b, .float32⟩ :: ⟨a, .float32⟩ :: rest)) :
    ∃ result : UInt32,
      Replaces (run FloatVm.next (FloatVm.reset adr dat) past).vm
        (run FloatVm.next (FloatVm.reset adr dat) (past ++ [start, latch, work, take])).vm rest
        ⟨result, .float32⟩ ∧
      (Faithful
          (exactOf (run FloatVm.next (FloatVm.reset adr dat) past).vm.currentOpcode a.toBitVec
            b.toBitVec)
          a.toBitVec b.toBitVec result.toBitVec ↔
        ¬Unfaithful work.2 (run FloatVm.next (FloatVm.reset adr dat) past).vm.currentOpcode
          a.toBitVec b.toBitVec) := by
  obtain ⟨hreached, hphase⟩ := floatPhase_run adr dat past
  have hrun : run FloatVm.next (FloatVm.reset adr dat) (past ++ [start, latch, work, take]) =
      run FloatVm.next (run FloatVm.next (FloatVm.reset adr dat) past)
        [start, latch, work, take] := List.foldl_append
  have hserves := hreached.serves
  rw [hstate] at hserves
  rw [hrun]
  exact ⟨_, hphase.replaces hreached hstate hstack start latch work take,
    Float.compute_faithful_iff hserves work.2 a b⟩

/-- The sweep reaches the first slot, pushes two floats and decodes the instruction. -/
def floatIns (a b : UInt32) (opcode : UInt8) : List (In × Bool) :=
  (timerSlotIns 12 ++ readIns (a * 0x100 + 0x1D) ++ List.replicate 4 quietIn ++
    readIns (b * 0x10000 + 0x1D00 + a / 0x1000000) ++ List.replicate 5 quietIn ++
    readIns (opcode.toUInt32 * 0x10000 + b / 0x10000) ++ List.replicate 4 quietIn).map
      fun i => (i, false)

theorem floatIns_holds {s : Stack} {a b : UInt32}
    (h : s = .ofList [⟨b, .float32⟩, ⟨a, .float32⟩]) :
    s.Holds [⟨b, .float32⟩, ⟨a, .float32⟩] := by
  refine ⟨h, by simp, fun o ho => ?_⟩
  simp only [List.mem_cons, List.not_mem_nil, or_false] at ho
  obtain rfl | rfl := ho <;> exact canonical_of_typed (by simp) (by simp) (by simp)

/-- 1 + 1. -/
theorem float_faithful_ones : ∃ result : UInt32,
    Replaces (run FloatVm.next (FloatVm.reset 0 0)
        (floatIns 0x3F800000 0x3F800000 opcodeFadd)).vm
      (run FloatVm.next (FloatVm.reset 0 0) (floatIns 0x3F800000 0x3F800000 opcodeFadd ++
        [(quietIn, false), (quietIn, false), (quietIn, false), (quietIn, false)])).vm []
      ⟨result, .float32⟩ ∧
    (Faithful (exactOf (run FloatVm.next (FloatVm.reset 0 0)
        (floatIns 0x3F800000 0x3F800000 opcodeFadd)).vm.currentOpcode 0x3F800000 0x3F800000)
        0x3F800000 0x3F800000 result.toBitVec ↔
      ¬Unfaithful false (run FloatVm.next (FloatVm.reset 0 0)
        (floatIns 0x3F800000 0x3F800000 opcodeFadd)).vm.currentOpcode 0x3F800000 0x3F800000) :=
  float_faithful_iff 0 0 (floatIns 0x3F800000 0x3F800000 opcodeFadd) (quietIn, false)
    (quietIn, false) (quietIn, false) (quietIn, false) (by decide +kernel)
    (floatIns_holds (by decide +kernel))

/-- The sum of the least denormal with itself is pushed as a normal float. -/
theorem denormalSum_not_faithful :
    (run FloatVm.next (FloatVm.reset 0 0) (floatIns 1 1 opcodeFadd)).vm.state = .floatOpStart ∧
      (run FloatVm.next (FloatVm.reset 0 0) (floatIns 1 1 opcodeFadd)).vm.data.stack.Holds
        [⟨1, .float32⟩, ⟨1, .float32⟩] ∧
      ∀ result : UInt32,
        Replaces (run FloatVm.next (FloatVm.reset 0 0) (floatIns 1 1 opcodeFadd)).vm
          (run FloatVm.next (FloatVm.reset 0 0) (floatIns 1 1 opcodeFadd ++
            [(quietIn, false), (quietIn, false), (quietIn, false), (quietIn, false)])).vm []
          ⟨result, .float32⟩ →
        ¬Faithful (exactOf opcodeFadd 1 1) 1 1 result.toBitVec := by
  refine ⟨by decide +kernel, floatIns_holds (by decide +kernel), fun result h => ?_⟩
  have htop : (⟨Float.compute false opcodeFadd 1 1, .float32⟩ : Operand) = ⟨result, .float32⟩ := by
    refine Eq.trans ?_ (congrArg Stack.stack0 h.stack.eq)
    decide +kernel
  have hresult : Float.compute false opcodeFadd 1 1 = result := congrArg Operand.value32 htop
  rw [← hresult]
  have hiff := Float.compute_faithful_iff (by decide : opcodeIsFloatOp opcodeFadd = true) false 1 1
  refine hiff.not.mpr (not_not.mpr ⟨by decide, by decide, by decide, by decide, Or.inl ?_⟩)
  exact ⟨by decide, by decide, by decide, by decide⟩

end NodeNet.Vm

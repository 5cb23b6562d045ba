import NodeNet.Lib.FloatOrder
import NodeNet.Vm.DividerLoop
import NodeNet.Vm.FloatUnit

/-! The sums, differences and products of the float unit. -/
namespace NodeNet.Vm
open NodeNet.Binary32
open Fdiv (floatQnan packFloatZero packFloatInf leadingZeroCount24)

namespace Float

/-- The sign, exponent and mantissa that the unit computes with. -/
structure Parts where
  sign : Bool
  exp : Nat
  mant : Nat

/-- A denormal has the exponent of the least normal floats. -/
def effExp (raw : BitVec 32) : Nat := if exponent raw = 0 then 1 else (exponent raw).toNat

def parts (sign : Bool) (raw : BitVec 32) : Parts := ⟨sign, effExp raw, significand raw⟩

def Parts.below (small large : Parts) : Prop :=
  small.exp < large.exp ∨ large.exp = small.exp ∧ small.mant ≤ large.mant

instance (small large : Parts) : Decidable (small.below large) :=
  inferInstanceAs (Decidable (_ ∨ _ ∧ _))

/-- The smaller mantissa at the exponent of the larger one, with three more bits. -/
def shiftedSmall (large small : Parts) : Nat :=
  if 26 < large.exp - small.exp then 0 else (small.mant <<< 3) >>> (large.exp - small.exp)

def addMagnitudes (large small : Parts) : BitVec 32 :=
  let sumExt := large.mant <<< 3 + shiftedSmall large small
  let carry := sumExt.testBit 27
  let largeExp := if carry then (large.exp + 1) % 2 ^ 8 else large.exp
  let normMant := (if carry then sumExt >>> 1 else sumExt) >>> 3 % 2 ^ 24
  if normMant = 0 then packFloatZero large.sign
  else if 0xFF ≤ largeExp then packFloatInf large.sign
  else pack large.sign (.ofNat 8 largeExp) (.ofNat 23 normMant)

/-- `staleSign` is what the last operation left in the register of the result's sign, which is not
written when the difference is too small for a normal float. -/
def subMagnitudes (staleSign : Bool) (large small : Parts) : BitVec 32 :=
  let largeExt := large.mant <<< 3
  if largeExt = shiftedSmall large small then 0
  else
    let diffExt := largeExt - shiftedSmall large small
    let shiftCount := (leadingZeroCount24 (.ofNat 24 (diffExt >>> 3))).toNat
    if large.exp ≤ shiftCount then packFloatZero staleSign
    else
      let resultExp := large.exp - shiftCount
      let normMant := (diffExt <<< shiftCount % 2 ^ 27) >>> 3
      if normMant = 0 then packFloatZero large.sign
      else pack large.sign (.ofNat 8 resultExp) (.ofNat 23 normMant)

def addsubParts (staleSign : Bool) (left right : Parts) : BitVec 32 :=
  let large := if right.below left then left else right
  let small := if right.below left then right else left
  if large.sign = small.sign then addMagnitudes large small
  else subMagnitudes staleSign large small

def addsubResult (staleSign subtract : Bool) (left right : BitVec 32) : BitVec 32 :=
  let rightEffectiveSign := sign right ^^ subtract
  if isNan left || isNan right then floatQnan
  else if isInf left && isInf right then
    if sign left = rightEffectiveSign then packFloatInf (sign left) else floatQnan
  else if isInf left then packFloatInf (sign left)
  else if isInf right then packFloatInf rightEffectiveSign
  else if isZero left && isZero right then 0
  else if isZero left then pack rightEffectiveSign (exponent right) (fraction right)
  else if isZero right then left
  else addsubParts staleSign (parts (sign left) left) (parts rightEffectiveSign right)

def mulParts (left right : Parts) : BitVec 32 :=
  let resultSign := left.sign ^^ right.sign
  let product := left.mant * right.mant
  let carry := product.testBit 47
  let resultExp : Int := left.exp + right.exp - 127 + if carry then 1 else 0
  let normMant := (if carry then product >>> 1 else product) >>> 23 % 2 ^ 24
  if normMant = 0 ∨ resultExp ≤ 0 then packFloatZero resultSign
  else if 255 ≤ resultExp then packFloatInf resultSign
  else pack resultSign (.ofInt 8 resultExp) (.ofNat 23 normMant)

def mulResult (left right : BitVec 32) : BitVec 32 :=
  let resultSign := sign left ^^ sign right
  if isNan left || isNan right then floatQnan
  else if isInf left && isZero right || isZero left && isInf right then floatQnan
  else if isInf left || isInf right then packFloatInf resultSign
  else if isZero left || isZero right then packFloatZero resultSign
  else mulParts (parts (sign left) left) (parts (sign right) right)

/-- The arithmetic of the unit. -/
def compute (staleSign : Bool) (opcode : UInt8) (left right : UInt32) : UInt32 :=
  .ofBitVec <|
    match opcode with
    | opcodeFadd => addsubResult staleSign false left.toBitVec right.toBitVec
    | opcodeFsub => addsubResult staleSign true left.toBitVec right.toBitVec
    | opcodeFmul => mulResult left.toBitVec right.toBitVec
    | _ => 0

end Float

/-- What an operation is to answer: whether it has no value, the sign of its infinite value, and
its value for finite operands. -/
structure Exact where
  invalid : Bool
  infiniteSign : Bool
  value : Rat

def exactAddsub (subtract : Bool) (a b : BitVec 32) : Exact where
  invalid := isInf a && isInf b && (sign a != (sign b ^^ subtract))
  infiniteSign := if isInf a then sign a else sign b ^^ subtract
  value := if subtract then value a - value b else value a + value b

def exactMul (a b : BitVec 32) : Exact where
  invalid := isInf a && isZero b || isZero a && isInf b
  infiniteSign := sign a ^^ sign b
  value := value a * value b

def exactOf (opcode : UInt8) (a b : BitVec 32) : Exact :=
  match opcode with
  | opcodeFadd => exactAddsub false a b
  | opcodeFsub => exactAddsub true a b
  | _ => exactMul a b

/-- The float that is to stand for a number: one next to it or, for a number below the normal
floats, a zero of its sign. -/
def Rounds (x : Rat) (r : BitVec 32) : Prop :=
  Adjacent r x ∨
    |x| < 2 ^ (-126 : Int) ∧ isZero r = true ∧ (x ≠ 0 → sign r = decide (x < 0))

/-- A faithful result of an operation on two floats. -/
structure Faithful (x : Exact) (a b r : BitVec 32) : Prop where
  nan : isNan r = true ↔ isNan a = true ∨ isNan b = true ∨ x.invalid = true
  infinite : isNan a = false → isNan b = false → x.invalid = false →
    isInf a = true ∨ isInf b = true → r = Fdiv.packFloatInf x.infiniteSign
  overflow : isFinite a = true → isFinite b = true → 2 ^ 128 ≤ |x.value| →
    r = Fdiv.packFloatInf (decide (x.value < 0))
  normal : isFinite a = true → isFinite b = true →
    ∀ s, isFinite s = true → exponent s ≠ 0 → value s = x.value → value r = x.value
  rounds : isFinite a = true → isFinite b = true → |x.value| < 2 ^ 128 → Rounds x.value r

def AddsDenormals (subtract : Bool) (a b : BitVec 32) : Prop :=
  sign a = (sign b ^^ subtract) ∧ exponent a = 0 ∧ exponent b = 0 ∧
    (fraction a).toNat + (fraction b).toNat < 2 ^ 23

/-- Two floats of different signs with a difference below the normal floats, of the other sign
than the unit's last result. -/
def CancelsBelow (staleSign subtract : Bool) (a b : BitVec 32) : Prop :=
  sign a ≠ (sign b ^^ subtract) ∧ (exactAddsub subtract a b).value ≠ 0 ∧
    |(exactAddsub subtract a b).value| < 2 ^ (-126 : Int) ∧
    staleSign ≠ decide ((exactAddsub subtract a b).value < 0)

/-- A denormal is multiplied with a number from 1 on, and the product of the significands has a
leading zero. -/
def ScalesDenormal (a b : BitVec 32) : Prop :=
  isZero a = false ∧ exponent a = 0 ∧ isFinite b = true ∧ 127 ≤ (exponent b).toNat ∧
    significand a * significand b < 2 ^ 46

/-- The operations of the unit that are not faithful. -/
def Unfaithful (staleSign : Bool) (opcode : UInt8) (a b : BitVec 32) : Prop :=
  let addsub (subtract : Bool) : Prop :=
    isFinite a = true ∧ isFinite b = true ∧ isZero a = false ∧ isZero b = false ∧
      (AddsDenormals subtract a b ∨ CancelsBelow staleSign subtract a b)
  match opcode with
  | opcodeFadd => addsub false
  | opcodeFsub => addsub true
  | _ => ScalesDenormal a b ∨ ScalesDenormal b a

/-! The float unit rounds sums, differences and products to a float next to them. -/

/-- The infinity from the greatest power of two on, and a rounded number below it. -/
def RoundsTo (x : Rat) (r : BitVec 32) : Prop :=
  2 ^ 128 ≤ |x| ∧ r = packFloatInf (decide (x < 0)) ∨ |x| < 2 ^ 128 ∧ Rounds x r

theorem isNan_of_isFinite {raw : BitVec 32} (h : isFinite raw = true) : isNan raw = false :=
  ((isFinite_iff raw).mp h).1

theorem isInf_of_isFinite {raw : BitVec 32} (h : isFinite raw = true) : isInf raw = false :=
  ((isFinite_iff raw).mp h).2

theorem isNan_packFloatInf (s : Bool) : isNan (packFloatInf s) = false := by
  cases s <;> decide

theorem Rounds.isFinite {x : Rat} {r : BitVec 32} (h : Rounds x r) : isFinite r = true := by
  obtain h | ⟨-, h, -⟩ := h
  · exact h.finite
  · exact isFinite_of_isZero h

theorem units_lt_pow {y : Rat} {k : Int} {n : Nat} (h : (n : Int) = k + 149) :
    y * 2 ^ (-149 : Int) < 2 ^ k ↔ y < 2 ^ n := by
  have hk : k = n + -149 := by omega
  rw [hk, zpow_add₀ two_ne_zero, zpow_natCast, mul_lt_mul_iff_left₀ (by positivity)]

theorem le_magnitude_of_normal {s : BitVec 32} (h : exponent s ≠ 0) :
    (2 : Rat) ^ (-126 : Int) ≤ magnitude s := by
  have hle : 2 ^ 23 ≤ units s :=
    (Nat.pow_le_pow_right two_pos (by omega)).trans (le_units_of_normal h)
  have hcast : (2 ^ 23 : Rat) ≤ units s := by exact_mod_cast hle
  rw [magnitude_eq_units, ← not_lt, units_lt_pow (n := 23) rfl]
  exact hcast.not_gt

theorem units_lt_of_place {s : BitVec 32} {n : Nat} (h : 24 + ((exponent s).toNat - 1) ≤ n) :
    units s < 2 ^ n :=
  (units_lt_next s).trans_le (Nat.pow_le_pow_right two_pos h)

theorem magnitude_lt_of_finite {s : BitVec 32} (h : isFinite s = true) :
    magnitude s < 2 ^ 128 := by
  have hexp : (exponent s).toNat ≤ 254 := by
    have hlt := (exponent s).isLt
    have hne : (exponent s).toNat ≠ 255 := by
      intro heq
      have hfull : exponent s = 0xFF := BitVec.eq_of_toNat_eq heq
      rw [isFinite, hfull] at h
      exact absurd h (by decide)
    omega
  have hlt := units_lt_of_place (s := s) (n := 277) (by omega)
  have hcast : (units s : Rat) < 2 ^ 277 := by exact_mod_cast hlt
  rw [magnitude_eq_units]
  exact (units_lt_pow (k := 128) rfl).mpr hcast

theorem roundsTo_self {r : BitVec 32} {x : Rat} (h : isFinite r = true) (hx : x = value r) :
    RoundsTo x r := by
  rw [hx]
  refine Or.inr ⟨?_, Or.inl (adjacent_self h)⟩
  rw [abs_value]
  exact magnitude_lt_of_finite h

section
variable {x : Exact} {a b r : BitVec 32}

theorem RoundsTo.faithful (ha : isFinite a = true) (hb : isFinite b = true)
    (hx : x.invalid = false) (h : RoundsTo x.value r) : Faithful x a b r where
  nan := by
    have hr : isNan r = false := by
      obtain ⟨-, rfl⟩ | ⟨-, h⟩ := h
      · exact isNan_packFloatInf _
      · exact isNan_of_isFinite h.isFinite
    rw [hr, hx, isNan_of_isFinite ha, isNan_of_isFinite hb]
    simp
  infinite := by
    intro _ _ _ hinf
    rw [isInf_of_isFinite ha, isInf_of_isFinite hb] at hinf
    simp at hinf
  overflow := by
    intro _ _ hle
    obtain ⟨-, h⟩ | ⟨hlt, -⟩ := h
    · exact h
    · exact absurd hle hlt.not_ge
  normal := by
    intro _ _ s hs hnormal hvalue
    obtain ⟨hle, -⟩ | ⟨-, h | ⟨hlt, -⟩⟩ := h
    · rw [← hvalue, abs_value] at hle
      exact absurd (magnitude_lt_of_finite hs) hle.not_gt
    · exact h.value_eq hs hvalue
    · rw [← hvalue, abs_value] at hlt
      exact absurd (le_magnitude_of_normal hnormal) hlt.not_ge
  rounds := by
    intro _ _ hlt
    obtain ⟨hle, -⟩ | ⟨-, h⟩ := h
    · exact absurd hle hlt.not_ge
    · exact h

theorem Faithful.roundsTo (ha : isFinite a = true) (hb : isFinite b = true)
    (h : Faithful x a b r) : RoundsTo x.value r := by
  by_cases hlt : |x.value| < 2 ^ 128
  · exact Or.inr ⟨hlt, h.rounds ha hb hlt⟩
  · have hle := not_lt.mp hlt
    exact Or.inl ⟨hle, h.overflow ha hb hle⟩

theorem faithful_nan (hr : isNan r = true)
    (h : isNan a = true ∨ isNan b = true ∨ isInf a = true ∨ isInf b = true)
    (hx : isNan a = true ∨ isNan b = true ∨ x.invalid = true) : Faithful x a b r := by
  have hnot (ha : isFinite a = true) (hb : isFinite b = true) : False := by
    rw [isNan_of_isFinite ha, isNan_of_isFinite hb, isInf_of_isFinite ha,
      isInf_of_isFinite hb] at h
    simp at h
  refine ⟨iff_of_true hr hx, ?_, fun ha hb => absurd (hnot ha hb) id,
    fun ha hb => absurd (hnot ha hb) id, fun ha hb => absurd (hnot ha hb) id⟩
  intro ha hb hvalid
  rw [ha, hb, hvalid] at hx
  simp at hx

theorem faithful_infinite (ha : isNan a = false) (hb : isNan b = false) (hx : x.invalid = false)
    (h : isInf a = true ∨ isInf b = true) (hr : r = packFloatInf x.infiniteSign) :
    Faithful x a b r := by
  have hnot (ha : isFinite a = true) (hb : isFinite b = true) : False := by
    rw [isInf_of_isFinite ha, isInf_of_isFinite hb] at h
    simp at h
  refine ⟨?_, fun _ _ _ _ => hr, fun ha hb => absurd (hnot ha hb) id,
    fun ha hb => absurd (hnot ha hb) id, fun ha hb => absurd (hnot ha hb) id⟩
  rw [hr, isNan_packFloatInf, ha, hb, hx]
  simp

end

theorem abs_signed_units (s : Bool) {y : Rat} (hy : 0 ≤ y) :
    |signed s (y * 2 ^ (-149 : Int))| = y * 2 ^ (-149 : Int) := by
  rw [abs_signed, abs_of_nonneg (by positivity)]

theorem signed_units_neg {s : Bool} {y : Rat} (hy : 0 < y) :
    decide (signed s (y * 2 ^ (-149 : Int)) < 0) = s := by
  have hpos : 0 < y * (2 : Rat) ^ (-149 : Int) := by positivity
  cases s
  · rw [decide_eq_false_iff_not]
    exact hpos.not_gt
  · rw [decide_eq_true_iff]
    exact neg_lt_zero.mpr hpos

theorem roundsTo_zero {s : Bool} {y : Rat} (hy : 0 < y) (h : y < 2 ^ 23) :
    RoundsTo (signed s (y * 2 ^ (-149 : Int))) (packFloatZero s) := by
  have hbig : y < 2 ^ 277 := h.trans (pow_lt_pow_right₀ one_lt_two (by decide))
  have habs := abs_signed_units s hy.le
  refine Or.inr ⟨?_, Or.inr ⟨?_, ?_, fun _ => ?_⟩⟩
  · rw [habs]
    exact (units_lt_pow (k := 128) rfl).mpr hbig
  · rw [habs]
    exact (units_lt_pow rfl).mpr h
  · cases s <;> decide
  · rw [signed_units_neg hy]
    exact sign_pack ..

theorem roundsTo_inf {s : Bool} {y : Rat} (h : 2 ^ 277 ≤ y) :
    RoundsTo (signed s (y * 2 ^ (-149 : Int))) (packFloatInf s) := by
  have hy : 0 < y := lt_of_lt_of_le (by positivity) h
  refine Or.inl ⟨?_, ?_⟩
  · rw [abs_signed_units s hy.le, ← not_lt]
    exact fun hlt => h.not_gt ((units_lt_pow (k := 128) rfl).mp hlt)
  · rw [signed_units_neg hy]

section
variable {s : Bool} {e m : Nat}

/-- The fields of a packed normal float. -/
structure Packs (s : Bool) (e m : Nat) (r : BitVec 32) : Prop where
  sign : sign r = s
  exponent : (exponent r).toNat = e
  significand : significand r = m
  normal : Binary32.exponent r ≠ 0
  finite : isFinite r = true

theorem packs (he : 1 ≤ e) (he' : e ≤ 254) (hm : 2 ^ 23 ≤ m) (hm' : m < 2 ^ 24) :
    Packs s e m (pack s (.ofNat 8 e) (.ofNat 23 m)) := by
  have hexp : (exponent (pack s (.ofNat 8 e) (.ofNat 23 m))).toNat = e := by
    rw [exponent_pack, BitVec.toNat_ofNat]
    omega
  have hnormal : exponent (pack s (.ofNat 8 e) (.ofNat 23 m)) ≠ 0 := by
    intro hzero
    rw [hzero] at hexp
    change 0 = e at hexp
    omega
  refine ⟨sign_pack .., hexp, ?_, hnormal, ?_⟩
  · rw [significand_of_normal hnormal, fraction_pack, BitVec.toNat_ofNat]
    omega
  · rw [isFinite, decide_eq_true_iff]
    intro hfull
    rw [hfull] at hexp
    change 255 = e at hexp
    omega

/-- A packed float stands for the numbers within half a unit of the last place from below and a unit
from above. -/
theorem roundsTo_pack {y : Rat} (he : 1 ≤ e) (he' : e ≤ 254) (hm : 2 ^ 23 ≤ m) (hm' : m < 2 ^ 24)
    (hlow : 2 * ((m * 2 ^ (e - 1) : Nat) : Rat) < 2 * y + (2 ^ (e - 1) : Nat))
    (hhigh : y < (((m + 1) * 2 ^ (e - 1) : Nat) : Rat)) :
    RoundsTo (signed s (y * 2 ^ (-149 : Int))) (pack s (.ofNat 8 e) (.ofNat 23 m)) := by
  obtain ⟨hsign, hexp, hsig, hnormal, hfinite⟩ := packs (s := s) he he' hm hm'
  generalize pack s (.ofNat 8 e) (.ofNat 23 m) = r at hsign hexp hsig hnormal hfinite ⊢
  subst hsign
  have hunits : units r = m * 2 ^ (e - 1) := by rw [units, hsig, hexp]
  have hadjacent : Adjacent r (signed (sign r) (y * 2 ^ (-149 : Int))) := by
    refine adjacent_of_units hfinite hnormal ?_ ?_
    · rw [hunits, hexp]
      exact_mod_cast hlow
    · rw [hsig, hexp]
      exact_mod_cast hhigh
  have hle : (m + 1) * 2 ^ (e - 1) ≤ 2 ^ 277 := by
    rw [Nat.pow_add 2 24 253]
    exact Nat.mul_le_mul (by omega) (Nat.pow_le_pow_right two_pos (by omega))
  have hcast : (((m + 1) * 2 ^ (e - 1) : Nat) : Rat) ≤ ((2 ^ 277 : Nat) : Rat) :=
    Nat.cast_le.mpr hle
  have hbig : y < 2 ^ 277 := by
    rw [Nat.cast_pow, Nat.cast_ofNat] at hcast
    exact hhigh.trans_le hcast
  have hpos : 0 < y := by
    have hle : 2 ^ (e - 1) ≤ m * 2 ^ (e - 1) := Nat.le_mul_of_pos_left _ (by omega)
    have hcast : ((2 ^ (e - 1) : Nat) : Rat) ≤ ((m * 2 ^ (e - 1) : Nat) : Rat) := by
      exact_mod_cast hle
    have hpow : (0 : Rat) < (2 ^ (e - 1) : Nat) := by exact_mod_cast Nat.two_pow_pos _
    linarith
  refine Or.inr ⟨?_, Or.inl hadjacent⟩
  rw [abs_signed_units _ hpos.le]
  exact (units_lt_pow (k := 128) rfl).mpr hbig

theorem roundsTo_cut {y : Nat} (he : 1 ≤ e) (he' : e ≤ 254) (hm : 2 ^ 23 ≤ m) (hm' : m < 2 ^ 24)
    (hlow : m * 2 ^ (e - 1) ≤ y) (hhigh : y < (m + 1) * 2 ^ (e - 1)) :
    RoundsTo (signed s ((y : Rat) * 2 ^ (-149 : Int))) (pack s (.ofNat 8 e) (.ofNat 23 m)) := by
  refine roundsTo_pack he he' hm hm' ?_ (by exact_mod_cast hhigh)
  have hpos := Nat.two_pow_pos (e - 1)
  have hlt : 2 * (m * 2 ^ (e - 1)) < 2 * y + 2 ^ (e - 1) := by omega
  exact_mod_cast hlt

theorem roundsTo_scaled {y : Rat} {e : Int} (hm : 2 ^ 23 ≤ m) (hm' : m < 2 ^ 24)
    (hlow : (m : Rat) * 2 ^ (e - 1) ≤ y) (hhigh : y < ((m + 1 : Nat) : Rat) * 2 ^ (e - 1)) :
    RoundsTo (signed s (y * 2 ^ (-149 : Int)))
      (if e ≤ 0 then packFloatZero s else if 255 ≤ e then packFloatInf s
        else pack s (.ofInt 8 e) (.ofNat 23 m)) := by
  have hunit : (0 : Rat) < 2 ^ (e - 1) := zpow_pos two_pos _
  have hleast : (2 ^ 23 : Rat) ≤ m := by exact_mod_cast hm
  have hmost : ((m + 1 : Nat) : Rat) ≤ 2 ^ 24 := by exact_mod_cast hm'
  by_cases hzero : e ≤ 0
  · rw [if_pos hzero]
    refine roundsTo_zero (lt_of_lt_of_le (by positivity) hlow) (hhigh.trans_le ?_)
    have hhalf : (2 : Rat) ^ (e - 1) ≤ 2 ^ (-1 : Int) := zpow_le_zpow_right₀ one_le_two (by omega)
    calc
      ((m + 1 : Nat) : Rat) * 2 ^ (e - 1) ≤ 2 ^ 24 * 2 ^ (-1 : Int) :=
        mul_le_mul hmost hhalf hunit.le (by positivity)
      _ = 2 ^ 23 := by norm_num
  · rw [if_neg hzero]
    by_cases hinf : 255 ≤ e
    · rw [if_pos hinf]
      refine roundsTo_inf (le_trans ?_ hlow)
      have hbig : (2 : Rat) ^ (254 : Int) ≤ 2 ^ (e - 1) :=
        zpow_le_zpow_right₀ one_le_two (by omega)
      calc
        (2 : Rat) ^ 277 = 2 ^ 23 * 2 ^ (254 : Int) := (pow_add 2 23 254)
        _ ≤ m * 2 ^ (e - 1) := mul_le_mul hleast hbig (by positivity) (by positivity)
    · rw [if_neg hinf]
      obtain ⟨n, rfl⟩ : ∃ n : Nat, e = n + 1 := ⟨(e - 1).toNat, by omega⟩
      have hofInt : BitVec.ofInt 8 ((n : Int) + 1) = .ofNat 8 (n + 1) :=
        BitVec.ofInt_natCast 8 (n + 1)
      rw [add_sub_cancel_right, zpow_natCast] at hlow hhigh hunit
      rw [hofInt]
      refine roundsTo_pack (by omega) (by omega) hm hm' ?_ ?_
      · rw [Nat.add_sub_cancel]
        push_cast
        linarith
      · rw [Nat.add_sub_cancel]
        exact_mod_cast hhigh

theorem not_roundsTo_pack {y : Rat} (he : 1 ≤ e) (he' : e ≤ 254) (hm : 1 ≤ m) (hm' : m < 2 ^ 23)
    (hy : 0 < y) (hlt : y < ((2 ^ 23 * 2 ^ (e - 1) : Nat) : Rat)) :
    ¬RoundsTo (signed s (y * 2 ^ (-149 : Int))) (pack s (.ofNat 8 e) (.ofNat 23 m)) := by
  have hmant : BitVec.ofNat 23 m = .ofNat 23 (2 ^ 23 + m) := by
    apply BitVec.eq_of_toNat_eq
    rw [BitVec.toNat_ofNat, BitVec.toNat_ofNat]
    omega
  rw [hmant]
  obtain ⟨hsign, hexp, hsig, hnormal, hfinite⟩ :=
    packs (s := s) (m := 2 ^ 23 + m) he he' (by omega) (by omega)
  obtain ⟨hsign', hexp', hsig', -, hfinite'⟩ :=
    packs (s := s) (m := 2 ^ 23) he he' (by omega) (by omega)
  generalize pack s (.ofNat 8 e) (.ofNat 23 (2 ^ 23 + m)) = r at *
  generalize pack s (.ofNat 8 e) (.ofNat 23 (2 ^ 23)) = t at *
  subst hsign
  have hunits : units t = 2 ^ 23 * 2 ^ (e - 1) := by rw [units, hsig', hexp']
  rintro (⟨hle, -⟩ | ⟨-, hadjacent | ⟨-, hzero, -⟩⟩)
  · have hbig : y < 2 ^ 277 := by
      refine hlt.trans_le ?_
      rw [← Nat.pow_add, Nat.cast_pow, Nat.cast_ofNat]
      exact pow_le_pow_right₀ one_le_two (by omega)
    rw [abs_signed_units _ hy.le] at hle
    exact absurd ((units_lt_pow (k := 128) rfl).mpr hbig) hle.not_gt
  · refine not_adjacent_of_between hfinite' hsign' ?_ ?_ hadjacent
    · rw [hunits]
      exact hlt.le
    · rw [hunits, units, hsig, hexp]
      exact Nat.mul_lt_mul_of_pos_right (by omega) (Nat.two_pow_pos _)
  · exact hnormal ((isZero_iff _).mp hzero).1

end

theorem value_denormal {s : Bool} {y : Nat} (hlt : y < 2 ^ 23) :
    isFinite (pack s 0 (.ofNat 23 y)) = true ∧
      value (pack s 0 (.ofNat 23 y)) = signed s ((y : Rat) * 2 ^ (-149 : Int)) := by
  have hexp : exponent (pack s 0 (.ofNat 23 y)) = 0 := exponent_pack ..
  constructor
  · rw [isFinite, hexp]
    decide
  · rw [value_eq_signed, units_of_denormal hexp, sign_pack, fraction_pack, BitVec.toNat_ofNat,
      Nat.mod_eq_of_lt hlt]

theorem not_roundsTo_zero {s staleSign : Bool} {y : Nat} (hy : 0 < y) (hlt : y < 2 ^ 23)
    (hsign : staleSign ≠ s) :
    ¬RoundsTo (signed s ((y : Rat) * 2 ^ (-149 : Int))) (packFloatZero staleSign) := by
  have hpos : (0 : Rat) < y := by exact_mod_cast hy
  have hne : signed s ((y : Rat) * 2 ^ (-149 : Int)) ≠ 0 := by
    rw [← abs_pos, abs_signed_units s hpos.le]
    positivity
  obtain ⟨hfinite, hvalue⟩ := value_denormal (s := s) hlt
  rintro (⟨-, hinf⟩ | ⟨-, hadjacent | ⟨-, -, hzero⟩⟩)
  · have hexp := congrArg exponent hinf
    rw [packFloatZero, packFloatInf, exponent_pack, exponent_pack] at hexp
    exact absurd hexp (by decide)
  · have heq := hadjacent.value_eq hfinite hvalue
    rw [← heq, value_of_isZero (by cases staleSign <;> decide)] at hne
    exact hne rfl
  · have heq := hzero hne
    rw [signed_units_neg hpos] at heq
    exact hsign ((sign_pack ..).symm.trans heq)

end NodeNet.Vm

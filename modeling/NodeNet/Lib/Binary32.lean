import Mathlib.Algebra.Order.Field.Power
import Mathlib.Algebra.Order.Round
import Mathlib.Data.Rat.Floor
import Mathlib.Tactic.FieldSimp
import Mathlib.Tactic.Linarith
import Mathlib.Tactic.Ring

/-! Integers nearest to a rational number, with ties to even, and the digits that decide them. -/
namespace NodeNet.Rounding

structure NearestEven (m : Int) (x : Rat) : Prop where
  near : |(m : Rat) - x| ≤ 1 / 2
  tie : |(m : Rat) - x| = 1 / 2 → Even m

theorem abs_sub_le_of_ne {m k : Int} (hne : k ≠ m) (x : Rat) :
    1 ≤ |(m : Rat) - x| + |(k : Rat) - x| := by
  have hint : (1 : Rat) ≤ |(m : Rat) - k| := by
    have hpos : 1 ≤ |m - k| := Int.one_le_abs (sub_ne_zero.mpr hne.symm)
    exact_mod_cast hpos
  calc
    (1 : Rat) ≤ |(m : Rat) - k| := hint
    _ = |((m : Rat) - x) - (k - x)| := by ring_nf
    _ ≤ |(m : Rat) - x| + |(k : Rat) - x| := abs_sub _ _

namespace NearestEven
variable {m : Int} {x : Rat}

theorem le (h : NearestEven m x) (k : Int) : |(m : Rat) - x| ≤ |(k : Rat) - x| := by
  by_cases hk : k = m
  · rw [hk]
  · have hsum := abs_sub_le_of_ne hk x
    have hnear := h.near
    linarith

theorem even_of_eq (h : NearestEven m x) {k : Int} (hk : k ≠ m)
    (heq : |(k : Rat) - x| = |(m : Rat) - x|) : Even m := by
  apply h.tie
  have hsum := abs_sub_le_of_ne hk x
  have hnear := h.near
  linarith

theorem le_of_grid (h : NearestEven m x) {t : Int} (ht : (t : Rat) ≤ x) {v : Rat}
    (hgrid : (t : Rat) ≤ v → ∃ k : Int, v = k) :
    |(m : Rat) - x| ≤ |v - x| ∧ (|v - x| = |(m : Rat) - x| → v ≠ m → Even m) := by
  by_cases hv : (t : Rat) ≤ v
  · obtain ⟨k, rfl⟩ := hgrid hv
    refine ⟨h.le k, fun heq hne => h.even_of_eq (fun hk => hne ?_) heq⟩
    rw [hk]
  · have hfar : |(t : Rat) - x| < |v - x| := by
      rw [abs_of_nonpos (by linarith), abs_of_nonpos (by linarith)]
      linarith
    have hle := h.le t
    exact ⟨by linarith, fun heq => by linarith⟩

end NearestEven

/-- The increment that rounds a number with two more digits and a rest. -/
def roundUp (main rest : Nat) (f : Rat) : Prop := 2 ≤ rest ∧ (rest = 3 ∨ f ≠ 0 ∨ Odd main)

/-- Rounding by the first digit after the point, the second, and whether anything is left. -/
theorem nearestEven_of_digits {main rest : Nat} {f : Rat} (hrest : rest < 4) (hzero : 0 ≤ f)
    (hone : f < 1) {x : Rat} (hx : x = main + (rest + f) / 4) {up : Bool}
    (hup : up = true ↔ roundUp main rest f) : NearestEven (main + up.toNat : Nat) x := by
  have hcast : ((main + up.toNat : Nat) : Rat) - x = up.toNat - (rest + f) / 4 := by
    rw [hx]
    push_cast
    ring
  cases up with
  | true =>
    obtain ⟨htwo, hwhy⟩ := hup.mp rfl
    have htwo' : (2 : Rat) ≤ rest := by exact_mod_cast htwo
    have hthree : (rest : Rat) ≤ 3 := by exact_mod_cast Nat.le_of_lt_succ hrest
    have hdist : |((main + true.toNat : Nat) : Rat) - x| = 1 - (rest + f) / 4 := by
      rw [hcast]
      simp only [Bool.toNat_true, Nat.cast_one]
      apply abs_of_nonneg
      linarith
    constructor
    · rw [Int.cast_natCast, hdist]
      linarith
    · intro htie
      rw [Int.cast_natCast, hdist] at htie
      have hsum : (rest : Rat) + f = 2 := by linarith
      obtain hrest3 | hf | hodd := hwhy
      · rw [hrest3] at hsum
        push_cast at hsum
        linarith
      · have : f = 0 := by linarith
        exact absurd this hf
      · exact_mod_cast hodd.add_odd (by decide : Odd 1)
  | false =>
    have hnot : ¬roundUp main rest f := fun h => by simpa using hup.mpr h
    have hrest' : (0 : Rat) ≤ rest := Nat.cast_nonneg rest
    have hdist : |((main + false.toNat : Nat) : Rat) - x| = (rest + f) / 4 := by
      rw [hcast]
      simp only [Bool.toNat_false, Nat.cast_zero, zero_sub, abs_neg]
      apply abs_of_nonneg
      linarith
    have hbound : (rest : Rat) + f ≤ 2 := by
      by_cases htwo : 2 ≤ rest
      · have hf : f = 0 := by
          by_contra hf
          exact hnot ⟨htwo, .inr (.inl hf)⟩
        have hne : rest ≠ 3 := fun h => hnot ⟨htwo, .inl h⟩
        have hle : rest ≤ 2 := by omega
        rw [hf, add_zero]
        exact_mod_cast hle
      · have hle : rest ≤ 1 := by omega
        have hle' : (rest : Rat) ≤ 1 := by exact_mod_cast hle
        linarith
    constructor
    · rw [Int.cast_natCast, hdist]
      linarith
    · intro htie
      rw [Int.cast_natCast, hdist] at htie
      have htwo : 2 ≤ rest := by
        by_contra hlt
        have hle : (rest : Rat) ≤ 1 := by exact_mod_cast (by omega : rest ≤ 1)
        linarith
      have hnotOdd : ¬Odd main := fun hodd => hnot ⟨htwo, .inr (.inr hodd)⟩
      simpa using Nat.not_odd_iff_even.mp hnotOdd

end NodeNet.Rounding

/-! The numbers that words of 32 bits hold as floats of single precision. -/
namespace NodeNet.Binary32
open NodeNet.Rounding

def sign (raw : BitVec 32) : Bool := raw.msb

def exponent (raw : BitVec 32) : BitVec 8 := raw.extractLsb' 23 8

def fraction (raw : BitVec 32) : BitVec 23 := raw.extractLsb' 0 23

def isZero (raw : BitVec 32) : Bool := raw.extractLsb' 0 31 = 0

def isInf (raw : BitVec 32) : Bool := exponent raw = 0xFF && fraction raw = 0

def isNan (raw : BitVec 32) : Bool := exponent raw = 0xFF && fraction raw ≠ 0

def isFinite (raw : BitVec 32) : Bool := exponent raw ≠ 0xFF

def pack (sign : Bool) (exponent : BitVec 8) (fraction : BitVec 23) : BitVec 32 :=
  BitVec.ofBool sign ++ exponent ++ fraction

/-- The fraction with its leading bit, which a denormal does not have. -/
def significand (raw : BitVec 32) : Nat :=
  if exponent raw = 0 then (fraction raw).toNat else 2 ^ 23 + (fraction raw).toNat

/-- The exponent of the significand's last bit. -/
def scale (raw : BitVec 32) : Int :=
  if exponent raw = 0 then -149 else (exponent raw).toNat - 150

def magnitude (raw : BitVec 32) : Rat := significand raw * 2 ^ scale raw

def signed (sign : Bool) (x : Rat) : Rat := if sign then -x else x

def value (raw : BitVec 32) : Rat := signed (sign raw) (magnitude raw)

/-- The float nearest to a number, with an even significand in a tie. -/
structure Nearest (q : Rat) (r : BitVec 32) : Prop where
  finite : isFinite r = true
  near : ∀ s, isFinite s = true → |value r - q| ≤ |value s - q|
  tie : ∀ s, isFinite s = true → |value s - q| = |value r - q| → value s ≠ value r →
    Even (significand r)

theorem toNat_sign (raw : BitVec 32) : (sign raw).toNat = raw.toNat / 2 ^ 31 := by
  have hlt := raw.isLt
  rw [sign, BitVec.msb_eq_decide]
  by_cases h : 2 ^ 31 ≤ raw.toNat
  · rw [decide_eq_true h, Bool.toNat_true]
    omega
  · rw [decide_eq_false h, Bool.toNat_false]
    omega

theorem toNat_exponent (raw : BitVec 32) : (exponent raw).toNat = raw.toNat / 2 ^ 23 % 256 := by
  rw [exponent, BitVec.extractLsb'_toNat, Nat.shiftRight_eq_div_pow]

theorem toNat_fraction (raw : BitVec 32) : (fraction raw).toNat = raw.toNat % 2 ^ 23 := by
  rw [fraction, BitVec.extractLsb'_toNat, Nat.shiftRight_zero]

theorem toNat_append {n m : Nat} (x : BitVec n) (y : BitVec m) :
    (x ++ y).toNat = x.toNat * 2 ^ m + y.toNat := by
  rw [BitVec.toNat_append, ← Nat.shiftLeft_add_eq_or_of_lt y.isLt, Nat.shiftLeft_eq]

section
variable (s : Bool) (e : BitVec 8) (f : BitVec 23)

theorem toNat_pack : (pack s e f).toNat = (s.toNat * 2 ^ 8 + e.toNat) * 2 ^ 23 + f.toNat := by
  have hhead := toNat_append (BitVec.ofBool s) e
  rw [BitVec.toNat_ofBool] at hhead
  calc
    (pack s e f).toNat = (BitVec.ofBool s ++ e).toNat * 2 ^ 23 + f.toNat := toNat_append _ f
    _ = (s.toNat * 2 ^ 8 + e.toNat) * 2 ^ 23 + f.toNat := by rw [hhead]

theorem sign_pack : sign (pack s e f) = s := by
  have he := e.isLt
  have hf := f.isLt
  have hs := toNat_sign (pack s e f)
  rw [toNat_pack] at hs
  have heq : (sign (pack s e f)).toNat = s.toNat := by omega
  cases s <;> cases hsign : sign (pack _ e f) <;> simp [hsign] at heq ⊢

theorem exponent_pack : exponent (pack s e f) = e := by
  have he := e.isLt
  have hf := f.isLt
  apply BitVec.eq_of_toNat_eq
  rw [toNat_exponent, toNat_pack]
  omega

theorem fraction_pack : fraction (pack s e f) = f := by
  have hf := f.isLt
  apply BitVec.eq_of_toNat_eq
  rw [toNat_fraction, toNat_pack]
  omega

end

theorem isZero_iff (raw : BitVec 32) :
    isZero raw = true ↔ exponent raw = 0 ∧ fraction raw = 0 := by
  have hzero : (raw.extractLsb' 0 31).toNat = raw.toNat % 2 ^ 31 := by
    rw [BitVec.extractLsb'_toNat, Nat.shiftRight_zero]
  rw [isZero, decide_eq_true_iff, ← BitVec.toNat_inj, ← BitVec.toNat_inj, ← BitVec.toNat_inj,
    hzero, toNat_exponent, toNat_fraction]
  change raw.toNat % 2 ^ 31 = 0 ↔ raw.toNat / 2 ^ 23 % 256 = 0 ∧ raw.toNat % 2 ^ 23 = 0
  omega

theorem isFinite_iff (raw : BitVec 32) :
    isFinite raw = true ↔ isNan raw = false ∧ isInf raw = false := by
  by_cases hexp : exponent raw = 255#8 <;> by_cases hfraction : fraction raw = 0#23 <;>
    simp [isFinite, isNan, isInf, hexp, hfraction]

theorem isFinite_of_isZero {raw : BitVec 32} (h : isZero raw = true) : isFinite raw = true := by
  simp [isFinite, ((isZero_iff raw).mp h).1]

theorem significand_of_normal {raw : BitVec 32} (h : exponent raw ≠ 0) :
    significand raw = 2 ^ 23 + (fraction raw).toNat :=
  if_neg h

theorem significand_lt (raw : BitVec 32) : significand raw < 2 ^ 24 := by
  have hlt := (fraction raw).isLt
  rw [significand]
  split <;> omega

theorem significand_pos {raw : BitVec 32} (h : isZero raw = false) : 0 < significand raw := by
  rw [significand]
  split
  · have hne : (fraction raw).toNat ≠ 0 := by
      intro hfraction
      have : isZero raw = true := (isZero_iff raw).mpr ⟨‹_›, BitVec.eq_of_toNat_eq hfraction⟩
      cases h.symm.trans this
    omega
  · omega

theorem value_of_isZero {raw : BitVec 32} (h : isZero raw = true) : value raw = 0 := by
  obtain ⟨hexp, hfraction⟩ := (isZero_iff raw).mp h
  simp [value, magnitude, significand, signed, hexp, hfraction]

theorem magnitude_nonneg (raw : BitVec 32) : 0 ≤ magnitude raw := by
  unfold magnitude
  positivity

theorem signed_signed (a b : Bool) (x : Rat) : signed a (signed b x) = signed (a ^^ b) x := by
  cases a <;> cases b <;> simp [signed]

theorem abs_signed (s : Bool) (x : Rat) : |signed s x| = |x| := by
  cases s <;> simp [signed]

theorem abs_signed_sub (s : Bool) (v x : Rat) : |v - signed s x| = |signed s v - x| := by
  cases s
  · rfl
  · simp only [signed, if_true]
    rw [← abs_neg]
    ring_nf

theorem signed_div (a b : Bool) (x y : Rat) :
    signed a x / signed b y = signed (a ^^ b) (x / y) := by
  cases a <;> cases b <;> simp [signed, neg_div, div_neg]

theorem abs_value (raw : BitVec 32) : |value raw| = magnitude raw := by
  rw [value, abs_signed, abs_of_nonneg (magnitude_nonneg raw)]

theorem magnitude_grid {raw : BitVec 32} {e : Int} (h : (2 : Rat) ^ e ≤ magnitude raw) :
    ∃ k : Nat, magnitude raw = k * 2 ^ (e - 23) := by
  have hlt : magnitude raw < 2 ^ (24 + scale raw) := by
    rw [magnitude, zpow_add₀ two_ne_zero]
    apply mul_lt_mul_of_pos_right _ (zpow_pos two_pos _)
    exact_mod_cast significand_lt raw
  have hexp : e < 24 + scale raw := (zpow_lt_zpow_iff_right₀ one_lt_two).mp (h.trans_lt hlt)
  obtain ⟨n, hn⟩ := Int.eq_ofNat_of_zero_le (by omega : 0 ≤ scale raw - (e - 23))
  refine ⟨significand raw * 2 ^ n, ?_⟩
  have hscale : scale raw = n + (e - 23) := by omega
  rw [magnitude, hscale, zpow_add₀ two_ne_zero, zpow_natCast]
  push_cast
  ring

theorem nearest_of_nearestEven {r : BitVec 32} {e : Int} {x : Rat} (hfinite : isFinite r = true)
    (hscale : scale r = e - 23) (hx : (2 : Rat) ^ 23 ≤ x) (h : NearestEven (significand r) x) :
    Nearest (signed (sign r) (x * 2 ^ (e - 23))) r := by
  have hunit : (0 : Rat) < 2 ^ (e - 23) := zpow_pos two_pos _
  have hdist (v : Rat) : |v - signed (sign r) (x * 2 ^ (e - 23))| =
      |signed (sign r) v / 2 ^ (e - 23) - x| * 2 ^ (e - 23) := by
    rw [abs_signed_sub, ← abs_of_pos hunit, ← abs_mul, abs_of_pos hunit, sub_mul,
      div_mul_cancel₀ _ hunit.ne']
  have hr : signed (sign r) (value r) / 2 ^ (e - 23) = (significand r : Int) := by
    rw [value, signed_signed, Bool.xor_self, magnitude, hscale]
    simp only [signed, Bool.false_eq_true, if_false, Int.cast_natCast]
    exact mul_div_cancel_right₀ _ hunit.ne'
  have hgrid (s : BitVec 32) := h.le_of_grid (t := 2 ^ 23) (by exact_mod_cast hx)
    (v := signed (sign r) (value s) / 2 ^ (e - 23)) (by
      intro hle
      rw [le_div_iff₀ hunit] at hle
      have hpow : ((2 ^ 23 : Int) : Rat) * 2 ^ (e - 23) = 2 ^ e := by
        rw [Int.cast_pow, Int.cast_ofNat, ← zpow_natCast, ← zpow_add₀ two_ne_zero]
        congr 1
        omega
      rw [hpow] at hle
      have hpos : 0 ≤ signed (sign r) (value s) := (zpow_pos two_pos e).le.trans hle
      have hmagnitude : signed (sign r) (value s) = magnitude s := by
        rw [← abs_of_nonneg hpos, abs_signed, abs_value]
      rw [hmagnitude] at hle ⊢
      obtain ⟨k, hk⟩ := magnitude_grid hle
      exact ⟨k, by rw [hk, mul_div_cancel_right₀ _ hunit.ne', Int.cast_natCast]⟩)
  constructor
  · exact hfinite
  · intro s _
    rw [hdist, hdist, hr]
    exact mul_le_mul_of_nonneg_right (hgrid s).1 hunit.le
  · intro s _ htie hne
    rw [hdist, hdist, hr] at htie
    have heven := (hgrid s).2 (mul_right_cancel₀ hunit.ne' htie) fun heq => hne ?_
    · exact_mod_cast heven
    · rw [← hr, div_left_inj' hunit.ne'] at heq
      have hvalues := congrArg (signed (sign r)) heq
      rwa [signed_signed, signed_signed, Bool.xor_self] at hvalues

end NodeNet.Binary32

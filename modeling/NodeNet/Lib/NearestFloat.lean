import Mathlib.Data.Int.Log
import NodeNet.Lib.FloatOrder

/-! Rounding a number to the nearest float, and what rounding a product keeps of a factor. -/
namespace NodeNet.Rounding

/-- The nearest integer, the even one in a tie. -/
def roundEven (x : Rat) : Int :=
  let down := ⌊x⌋
  if x - down < 1 / 2 then down
  else if 1 / 2 < x - down then down + 1
  else if Even down then down else down + 1

theorem nearestEven_roundEven (x : Rat) : NearestEven (roundEven x) x := by
  have hle := Int.floor_le x
  have hlt := Int.lt_floor_add_one x
  rw [roundEven]
  generalize ⌊x⌋ = down at hle hlt
  have hdown : |(down : Rat) - x| = x - down := by rw [abs_sub_comm, abs_of_nonneg (by linarith)]
  have hup : |((down + 1 : Int) : Rat) - x| = down + 1 - x := by
    push_cast
    rw [abs_of_nonneg (by linarith)]
  split
  case isTrue hlow =>
    constructor <;> rw [hdown]
    · linarith
    · intro htie
      linarith
  case isFalse hlow =>
    split
    case isTrue hhigh =>
      constructor <;> rw [hup]
      · linarith
      · intro htie
        linarith
    case isFalse hhigh =>
      split
      case isTrue heven =>
        refine ⟨?_, fun _ => heven⟩
        rw [hdown]
        linarith
      case isFalse heven =>
        refine ⟨?_, fun _ => (Int.not_even_iff_odd.mp heven).add_one⟩
        rw [hup]
        linarith

end NodeNet.Rounding

namespace NodeNet.Binary32
open NodeNet.Rounding

/-- The float of a significand that counts units of `2 ^ e` times the least denormal; infinity when
there is none. -/
def encode (sign : Bool) (e significand : Nat) : BitVec 32 :=
  BitVec.ofNat 32 (sign.toNat * 2 ^ 31 + min (e * 2 ^ 23 + significand) (255 * 2 ^ 23))

def lastBit (x : Rat) : Int := if x = 0 then -149 else max (Int.log 2 |x| - 23) (-149)

/-- The float nearest to a number, with an even significand in a tie; infinity from half a unit
above the greatest float on. -/
def nearest (x : Rat) : BitVec 32 :=
  encode (x < 0) (lastBit x + 149).toNat (roundEven (|x| / 2 ^ lastBit x)).toNat

def IsFloat (x : Rat) : Prop := ∃ raw, isFinite raw = true ∧ value raw = x

section
variable {s : Bool} {e m : Nat}

theorem bits_encode (s : Bool) (e m : Nat) :
    bits (encode s e m) = min (e * 2 ^ 23 + m) (255 * 2 ^ 23) := by
  have hmin : min (e * 2 ^ 23 + m) (255 * 2 ^ 23) ≤ 255 * 2 ^ 23 := Nat.min_le_right ..
  rw [bits, encode, BitVec.toNat_ofNat]
  cases s
  · rw [Bool.toNat_false]
    omega
  · rw [Bool.toNat_true]
    omega

theorem sign_encode (s : Bool) (e m : Nat) : sign (encode s e m) = s := by
  have hmin : min (e * 2 ^ 23 + m) (255 * 2 ^ 23) ≤ 255 * 2 ^ 23 := Nat.min_le_right ..
  have hsign := toNat_sign (encode s e m)
  rw [encode, BitVec.toNat_ofNat] at hsign
  have heq : (sign (encode s e m)).toNat = s.toNat := by
    rw [encode, hsign]
    cases s
    · rw [Bool.toNat_false]
      omega
    · rw [Bool.toNat_true]
      omega
  cases s <;> cases hcase : sign (encode _ e m) <;> simp [hcase] at heq ⊢

theorem isFinite_iff_bits (raw : BitVec 32) : isFinite raw = true ↔ bits raw < 255 * 2 ^ 23 := by
  have hfraction := (fraction raw).isLt
  have hexp := (exponent raw).isLt
  rw [isFinite, decide_eq_true_iff, ne_eq, ← BitVec.toNat_inj, bits_eq]
  change ¬(exponent raw).toNat = 255 ↔ _
  omega

theorem isFinite_encode : isFinite (encode s e m) = true ↔ e * 2 ^ 23 + m < 255 * 2 ^ 23 := by
  rw [isFinite_iff_bits, bits_encode]
  omega

theorem units_encode (hm : m ≤ 2 ^ 24) (he : e = 0 ∨ 2 ^ 23 ≤ m)
    (hfinite : isFinite (encode s e m) = true) :
    units (encode s e m) = m * 2 ^ e ∧ (Even m → Even (significand (encode s e m))) := by
  have hlt := isFinite_encode.mp hfinite
  have hbits := bits_encode s e m
  rw [Nat.min_eq_left hlt.le, bits_eq] at hbits
  have hfraction := (fraction (encode s e m)).isLt
  have hzero : exponent (encode s e m) = 0 ↔ (exponent (encode s e m)).toNat = 0 :=
    (BitVec.toNat_inj (x := exponent (encode s e m)) (y := 0)).symm
  rw [units, significand]
  have hnotZero : 0 < (exponent (encode s e m)).toNat → exponent (encode s e m) ≠ 0 :=
    fun hpos h => Nat.lt_irrefl 0 ((hzero.mp h) ▸ hpos)
  generalize (exponent (encode s e m)) = exponent at hbits hzero hnotZero ⊢
  generalize (fraction (encode s e m)).toNat = fraction at hbits hfraction ⊢
  obtain hdenormal | hnormal := Nat.lt_or_ge m (2 ^ 23)
  · have he0 : e = 0 := by omega
    have hexp : exponent.toNat = 0 := by omega
    have hm' : fraction = m := by omega
    rw [if_pos (hzero.mpr hexp), hexp, hm', he0]
    exact ⟨rfl, id⟩
  · obtain hsame | hnext := Nat.lt_or_ge m (2 ^ 24)
    · have hexp : exponent.toNat = e + 1 := by omega
      have hm' : 2 ^ 23 + fraction = m := by omega
      rw [if_neg (hnotZero (by omega)), hexp, hm']
      exact ⟨rfl, id⟩
    · have hexp : exponent.toNat = e + 2 := by omega
      have hm' : 2 ^ 23 + fraction = 2 ^ 23 := by omega
      have hmax : m = 2 ^ 24 := by omega
      rw [if_neg (hnotZero (by omega)), hexp, hm', hmax]
      have hpow : (2 : Nat) ^ (e + 2 - 1) = 2 ^ e * 2 := pow_succ 2 e
      refine ⟨?_, fun _ => by decide⟩
      rw [hpow]
      ring

theorem value_encode (hm : m ≤ 2 ^ 24) (he : e = 0 ∨ 2 ^ 23 ≤ m)
    (hfinite : isFinite (encode s e m) = true) :
    value (encode s e m) = signed s (m * 2 ^ e * 2 ^ (-149 : Int)) := by
  rw [value_eq_signed, sign_encode, (units_encode hm he hfinite).1]
  push_cast
  rfl

end

section
variable (x : Rat)

theorem neg149_le_lastBit : -149 ≤ lastBit x := by
  rw [lastBit]
  split
  · exact le_rfl
  · exact le_max_right ..

theorem scaled_lt : |x| / 2 ^ lastBit x < 2 ^ 24 := by
  by_cases hzero : x = 0
  · rw [hzero, abs_zero, zero_div]
    exact pow_pos two_pos _
  · rw [div_lt_iff₀ (zpow_pos two_pos _), ← zpow_natCast, ← zpow_add₀ two_ne_zero]
    refine (Int.lt_zpow_succ_log_self one_lt_two |x|).trans_le (zpow_le_zpow_right₀ one_le_two ?_)
    have hle : Int.log 2 |x| - 23 ≤ lastBit x := by
      rw [lastBit, if_neg hzero]
      exact le_max_left ..
    omega

theorem le_scaled (h : -149 < lastBit x) : 2 ^ 23 ≤ |x| / 2 ^ lastBit x := by
  have hzero : x ≠ 0 := fun hzero => by
    rw [lastBit, if_pos hzero] at h
    exact absurd h (lt_irrefl _)
  have hlog : lastBit x = Int.log 2 |x| - 23 := by
    rw [lastBit, if_neg hzero] at h ⊢
    exact max_eq_left ((lt_max_iff.mp h).resolve_right (lt_irrefl _)).le
  have hpos : 0 < |x| := abs_pos.mpr hzero
  rw [le_div_iff₀ (zpow_pos two_pos _), ← zpow_natCast, ← zpow_add₀ two_ne_zero]
  have hle := Int.zpow_log_le_self one_lt_two hpos
  rwa [hlog, Nat.cast_ofNat, add_sub_cancel]

theorem scaled_nonneg : 0 ≤ |x| / 2 ^ lastBit x := div_nonneg (abs_nonneg x) (zpow_pos two_pos _).le

theorem roundEven_scaled : ∃ m : Nat, roundEven (|x| / 2 ^ lastBit x) = m ∧ m ≤ 2 ^ 24 ∧
    ((lastBit x + 149).toNat = 0 ∨ 2 ^ 23 ≤ m) := by
  have hnear := (nearestEven_roundEven (|x| / 2 ^ lastBit x)).near
  have hlt := scaled_lt x
  have hnonneg := scaled_nonneg x
  have hlow := le_scaled x
  generalize |x| / 2 ^ lastBit x = y at hnear hlt hnonneg hlow
  obtain ⟨hl, hr⟩ := abs_le.mp hnear
  have hpos : (-1 : Int) < roundEven y := by
    have h : (-1 : Rat) < roundEven y := by linarith
    exact_mod_cast h
  have hmax : roundEven y < 2 ^ 24 + 1 := by
    have h : (roundEven y : Rat) < 2 ^ 24 + 1 := by linarith
    exact_mod_cast h
  have hmin : -149 < lastBit x → 2 ^ 23 - 1 < roundEven y := fun h => by
    have hle := hlow h
    have h : (2 : Rat) ^ 23 - 1 < roundEven y := by linarith
    exact_mod_cast h
  refine ⟨(roundEven y).toNat, by omega, by omega, ?_⟩
  have hlast := neg149_le_lastBit x
  by_cases h : -149 < lastBit x
  · have := hmin h
    omega
  · omega

end

/-- A number that does not round to infinity is rounded to the nearest float. -/
theorem nearest_spec {x : Rat} (h : isFinite (nearest x) = true) : Nearest x (nearest x) := by
  obtain ⟨m, hround, hm, he⟩ := roundEven_scaled x
  have hnear := nearestEven_roundEven (|x| / 2 ^ lastBit x)
  rw [hround] at hnear
  have hlast := neg149_le_lastBit x
  have hunit : (0 : Rat) < 2 ^ lastBit x := zpow_pos two_pos _
  rw [nearest, hround, Int.toNat_natCast] at h ⊢
  have heven := (units_encode hm he h).2
  have hvalue := value_encode hm he h
  have hpow : (2 : Rat) ^ (lastBit x + 149).toNat * 2 ^ (-149 : Int) = 2 ^ lastBit x := by
    rw [← zpow_natCast, ← zpow_add₀ two_ne_zero]
    congr 1
    omega
  rw [mul_assoc, hpow] at hvalue
  generalize encode (x < 0) (lastBit x + 149).toNat m = r at h heven hvalue ⊢
  have hx : x = signed (x < 0) |x| := by
    by_cases hneg : x < 0
    · simp [signed, hneg, abs_of_neg hneg]
    · simp [signed, hneg, abs_of_nonneg (not_lt.mp hneg)]
  have hdist (v : Rat) : |v - x| =
      |signed (x < 0) v / 2 ^ lastBit x - |x| / 2 ^ lastBit x| * 2 ^ lastBit x := by
    conv_lhs => rw [hx, abs_signed_sub]
    rw [← sub_div, abs_div, abs_of_pos hunit, div_mul_cancel₀ _ hunit.ne']
  have hr : signed (x < 0) (value r) / 2 ^ lastBit x = (m : Int) := by
    rw [hvalue, signed_signed, Bool.xor_self]
    simp only [signed, Bool.false_eq_true, if_false, Int.cast_natCast]
    exact mul_div_cancel_right₀ _ hunit.ne'
  -- from there on every float is a multiple of the last bit
  obtain ⟨t, ht, hgrid⟩ : ∃ t : Int, (t : Rat) ≤ |x| / 2 ^ lastBit x ∧ ∀ v : BitVec 32,
      (t : Rat) ≤ signed (x < 0) (value v) / 2 ^ lastBit x →
        ∃ k : Int, signed (x < 0) (value v) / 2 ^ lastBit x = k := by
    obtain hlow | hhigh := hlast.eq_or_lt
    · refine ⟨0, by simpa using scaled_nonneg x, fun v _ => ?_⟩
      refine ⟨if (decide (x < 0) ^^ sign v) then -(units v : Int) else units v, ?_⟩
      rw [value_eq_signed, signed_signed, ← hlow, div_eq_iff (zpow_pos two_pos _).ne', signed]
      split <;> push_cast <;> ring
    · refine ⟨2 ^ 23, by exact_mod_cast le_scaled x hhigh, fun v hle => ?_⟩
      rw [le_div_iff₀ hunit] at hle
      have hpow : ((2 ^ 23 : Int) : Rat) * 2 ^ lastBit x = 2 ^ (lastBit x + 23) := by
        rw [Int.cast_pow, Int.cast_ofNat, ← zpow_natCast, ← zpow_add₀ two_ne_zero]
        congr 1
        omega
      rw [hpow] at hle
      have hpos : 0 ≤ signed (x < 0) (value v) := (zpow_pos two_pos _).le.trans hle
      have hmagnitude : signed (x < 0) (value v) = magnitude v := by
        rw [← abs_of_nonneg hpos, abs_signed, abs_value]
      rw [hmagnitude] at hle ⊢
      obtain ⟨k, hk⟩ := magnitude_grid hle
      refine ⟨k, ?_⟩
      rw [hk, div_eq_iff hunit.ne']
      congr 2
      omega
  constructor
  · exact h
  · intro s _
    rw [hdist (value r), hdist (value s), hr]
    exact mul_le_mul_of_nonneg_right (hnear.le_of_grid ht (hgrid s)).1 hunit.le
  · intro s _ htie hne
    rw [hdist (value s), hdist (value r), hr] at htie
    have htie' := mul_right_cancel₀ hunit.ne' htie
    have heven' := (hnear.le_of_grid ht (hgrid s)).2 htie' fun heq => hne ?_
    · exact heven (by exact_mod_cast heven')
    · rw [← hr, div_left_inj' hunit.ne'] at heq
      have hvalues := congrArg (signed (x < 0)) heq
      rw [signed_signed, signed_signed, Bool.xor_self] at hvalues
      simpa only [signed, Bool.false_eq_true, if_false] using hvalues

section
variable {x : Rat}

theorem lt_of_isFinite_nearest (h : isFinite (nearest x) = true) : |x| < 2 ^ 128 := by
  by_contra hnot
  have hle : (2 : Rat) ^ (128 : Int) ≤ |x| := by exact_mod_cast not_lt.mp hnot
  have hzero : x ≠ 0 := fun hzero => by
    rw [hzero, abs_zero] at hle
    exact absurd hle (not_le.mpr (zpow_pos two_pos _))
  have hlog := (Int.zpow_le_iff_le_log one_lt_two (abs_pos.mpr hzero)).mp hle
  have hlast : Int.log 2 |x| - 23 ≤ lastBit x := by
    rw [lastBit, if_neg hzero]
    exact le_max_left ..
  obtain ⟨m, hround, -, he⟩ := roundEven_scaled x
  rw [nearest, isFinite_encode, hround, Int.toNat_natCast] at h
  omega

theorem isFinite_nearest (h : |x| ≤ (2 ^ 24 - 1) * 2 ^ (104 : Int)) :
    isFinite (nearest x) = true := by
  have hlast : lastBit x ≤ 104 := by
    rw [lastBit]
    split
    · decide
    · rename_i hzero
      have hlt : |x| < (2 : Rat) ^ (128 : Int) := by
        refine h.trans_lt ?_
        norm_num
      have := (Int.lt_zpow_iff_log_lt one_lt_two (abs_pos.mpr hzero)).mp hlt
      omega
  obtain ⟨m, hround, hm, -⟩ := roundEven_scaled x
  have hnear := (nearestEven_roundEven (|x| / 2 ^ lastBit x)).near
  rw [hround] at hnear
  rw [nearest, isFinite_encode, hround, Int.toNat_natCast]
  obtain heq | hlt := hlast.eq_or_lt
  · have hscaled : |x| / 2 ^ lastBit x ≤ 2 ^ 24 - 1 := by
      rwa [heq, div_le_iff₀ (zpow_pos two_pos _)]
    have hle := (abs_le.mp hnear).2
    have hm' : (m : Rat) < 2 ^ 24 := by
      rw [Int.cast_natCast] at hle
      linarith
    have hm'' : m < 2 ^ 24 := by exact_mod_cast hm'
    omega
  · omega

theorem abs_value_le {raw : BitVec 32} (h : isFinite raw = true) :
    |value raw| ≤ (2 ^ 24 - 1) * 2 ^ (104 : Int) := by
  have hsig : (significand raw : Rat) ≤ 2 ^ 24 - 1 := by
    have hlt := significand_lt raw
    have hle : significand raw ≤ 2 ^ 24 - 1 := by omega
    have hcast : ((2 ^ 24 - 1 : Nat) : Rat) = 2 ^ 24 - 1 := by norm_num
    rw [← hcast]
    exact_mod_cast hle
  have hscale : scale raw ≤ 104 := by
    have hexp := (exponent raw).isLt
    have hne : (exponent raw).toNat ≠ 255 := by
      rw [isFinite, decide_eq_true_iff, ne_eq, ← BitVec.toNat_inj] at h
      exact h
    rw [scale]
    split <;> omega
  rw [abs_value, magnitude]
  exact mul_le_mul hsig (zpow_le_zpow_right₀ one_le_two hscale) (zpow_pos two_pos _).le
    (by norm_num)

theorem Nearest.eq_of_isFloat {r : BitVec 32} (h : Nearest x r) (hx : IsFloat x) : value r = x := by
  obtain ⟨raw, hfinite, rfl⟩ := hx
  have hle := h.near raw hfinite
  rw [sub_self, abs_zero] at hle
  exact sub_eq_zero.mp (abs_eq_zero.mp (le_antisymm hle (abs_nonneg _)))

theorem nearest_of_isFloat (h : IsFloat x) :
    isFinite (nearest x) = true ∧ value (nearest x) = x := by
  obtain ⟨raw, hfinite, rfl⟩ := h
  have hnearest := isFinite_nearest (abs_value_le hfinite)
  exact ⟨hnearest, (nearest_spec hnearest).eq_of_isFloat ⟨raw, hfinite, rfl⟩⟩

end

section
variable {q : Rat} {r : BitVec 32}

theorem exists_neg (r : BitVec 32) : ∃ r', isFinite r' = isFinite r ∧ value r' = -value r ∧
    significand r' = significand r := by
  refine ⟨pack (!sign r) (exponent r) (fraction r), ?_, ?_, ?_⟩
  · rw [isFinite, isFinite, exponent_pack]
  · rw [value, value, magnitude, magnitude, significand, significand, scale, scale, sign_pack,
      exponent_pack, fraction_pack]
    cases sign r <;> simp [signed]
  · rw [significand, significand, exponent_pack, fraction_pack]

theorem Nearest.neg (h : Nearest q r) : ∃ r', value r' = -value r ∧ Nearest (-q) r' := by
  obtain ⟨r', hfinite, hvalue, hsig⟩ := exists_neg r
  have hdist (a b : Rat) : |-a - -b| = |a - b| := by
    rw [neg_sub_neg, abs_sub_comm]
  have hflip (a b : Rat) : |-a - b| = |a - -b| := by
    rw [← hdist, neg_neg]
  refine ⟨r', hvalue, hfinite.trans h.finite, fun s hs => ?_, fun s hs htie hne => ?_⟩
  · obtain ⟨s', hfinite', hvalue', -⟩ := exists_neg s
    have hle := h.near s' (hfinite'.trans hs)
    rw [hvalue', hflip] at hle
    rwa [hvalue, hdist]
  · obtain ⟨s', hfinite', hvalue', -⟩ := exists_neg s
    rw [hvalue, hdist] at htie
    rw [hsig]
    refine h.tie s' (hfinite'.trans hs) ?_ fun heq => hne ?_
    · rwa [hvalue', hflip]
    · rw [hvalue, ← heq, hvalue', neg_neg]

theorem Nearest.two_mul_le (h : Nearest q r) {z : Rat} (hz : IsFloat z)
    (hside : value r < q ∧ value r < z ∨ q < value r ∧ z < value r) :
    2 * |q - value r| ≤ |z - value r| := by
  obtain ⟨raw, hfinite, rfl⟩ := hz
  have hle := h.near raw hfinite
  obtain ⟨hq, hz⟩ | ⟨hq, hz⟩ := hside
  · rw [abs_of_neg (by linarith : value r - q < 0)] at hle
    rw [abs_of_pos (by linarith), abs_of_pos (by linarith)]
    obtain ⟨habs, -⟩ | ⟨habs, -⟩ := abs_cases (value raw - q) <;> linarith
  · rw [abs_of_pos (by linarith : 0 < value r - q)] at hle
    rw [abs_of_neg (by linarith), abs_of_neg (by linarith)]
    obtain ⟨habs, -⟩ | ⟨habs, -⟩ := abs_cases (value raw - q) <;> linarith

theorem Nearest.le (h : Nearest q r) {z : Rat} (hz : IsFloat z) (hle : q ≤ z) : value r ≤ z := by
  obtain ⟨raw, hfinite, rfl⟩ := hz
  by_contra hlt
  have hnear := h.near raw hfinite
  rw [abs_of_pos (by linarith : 0 < value r - q), abs_of_nonneg (by linarith)] at hnear
  linarith

theorem Nearest.ge (h : Nearest q r) {z : Rat} (hz : IsFloat z) (hle : z ≤ q) : z ≤ value r := by
  obtain ⟨raw, hfinite, rfl⟩ := hz
  by_contra hlt
  have hnear := h.near raw hfinite
  rw [abs_of_neg (by linarith : value r - q < 0), abs_of_nonpos (by linarith)] at hnear
  linarith

end

section
variable {v s y : BitVec 32}

theorem isFloat_units {k e : Nat} (hk : k ≤ 2 ^ 24) (he : e = 0 ∨ 2 ^ 23 ≤ k)
    (hlt : e * 2 ^ 23 + k < 255 * 2 ^ 23) : IsFloat (k * 2 ^ e * 2 ^ (-149 : Int)) :=
  ⟨encode false e k, isFinite_encode.mpr hlt, value_encode hk he (isFinite_encode.mpr hlt)⟩

theorem isFloat_zero : IsFloat 0 := ⟨0, by decide, value_of_isZero (by decide)⟩

theorem le_sub_one (h : 1 < value s) : (2 : Rat) ^ (-23 : Int) ≤ value s - 1 := by
  have hmagnitude : magnitude s = value s := by
    rw [← abs_value, abs_of_pos (one_pos.trans h)]
  have hbound : (2 : Rat) ^ (0 : Int) ≤ magnitude s := by
    rw [hmagnitude, zpow_zero]
    exact h.le
  obtain ⟨k, hk⟩ := magnitude_grid hbound
  rw [hmagnitude, zero_sub] at hk
  have hone : (1 : Rat) = (2 ^ 23 : Nat) * 2 ^ (-23 : Int) := by norm_num
  have hunit : (0 : Rat) < 2 ^ (-23 : Int) := zpow_pos two_pos _
  have hlt : ((2 ^ 23 : Nat) : Rat) < k := by
    rw [hk] at h
    conv_lhs at h => rw [hone]
    exact lt_of_mul_lt_mul_right h hunit.le
  have hle : ((2 ^ 23 + 1 : Nat) : Rat) ≤ k := by exact_mod_cast hlt
  have hmul := mul_le_mul_of_nonneg_right hle hunit.le
  rw [hk]
  conv_rhs => rw [hone]
  push_cast at hmul ⊢
  linarith

theorem le_one_sub (h : value s < 1) : (2 : Rat) ^ (-24 : Int) ≤ 1 - value s := by
  have hunit : (0 : Rat) < 2 ^ (-24 : Int) := zpow_pos two_pos _
  by_cases hhalf : value s < 1 / 2
  · have hsmall : (2 : Rat) ^ (-24 : Int) ≤ 1 / 2 := by norm_num
    exact hsmall.trans (by linarith)
  · have hmagnitude : magnitude s = value s := by
      rw [← abs_value, abs_of_nonneg (by linarith)]
    have hbound : (2 : Rat) ^ (-1 : Int) ≤ magnitude s := by
      rw [hmagnitude]
      norm_num
      linarith
    obtain ⟨k, hk⟩ := magnitude_grid hbound
    rw [hmagnitude] at hk
    norm_num at hk
    have hlt : (k : Rat) < 16777216 := by linarith
    have hlt' : k < 16777216 := by exact_mod_cast hlt
    have hle : ((k + 1 : Nat) : Rat) ≤ 16777216 := by exact_mod_cast hlt'
    push_cast at hle
    rw [hk]
    norm_num
    linarith

/-- The gap to the next float above a positive one. -/
theorem next_above (hpos : 0 < value v)
    (hlt : value v + 2 ^ ((exponent v).toNat - 1) * 2 ^ (-149 : Int) < 2 ^ 128) :
    IsFloat (value v + 2 ^ ((exponent v).toNat - 1) * 2 ^ (-149 : Int)) := by
  have hsig := significand_lt v
  have hvalue : value v = significand v * 2 ^ ((exponent v).toNat - 1) * 2 ^ (-149 : Int) := by
    rw [← abs_of_pos hpos, abs_value, magnitude_eq_units, units]
    push_cast
    rfl
  have hsum : value v + 2 ^ ((exponent v).toNat - 1) * 2 ^ (-149 : Int) =
      (significand v + 1 : Nat) * 2 ^ ((exponent v).toNat - 1) * 2 ^ (-149 : Int) := by
    rw [hvalue]
    push_cast
    ring
  have hnormal : (exponent v).toNat - 1 = 0 ∨ 2 ^ 23 ≤ significand v + 1 := by
    by_cases hexp : exponent v = 0
    · exact .inl (by rw [hexp]; rfl)
    · refine .inr ?_
      rw [significand_of_normal hexp]
      omega
  rw [hsum] at hlt ⊢
  refine isFloat_units (by omega) hnormal ?_
  by_contra hnot
  have hexp := (exponent v).isLt
  have hlow : (254 ≤ (exponent v).toNat - 1) ∨
      253 ≤ (exponent v).toNat - 1 ∧ 2 ^ 24 ≤ significand v + 1 := by omega
  have hmul : (2 : Rat) ^ 277 ≤ (significand v + 1 : Nat) * 2 ^ ((exponent v).toNat - 1) := by
    have hnat : 2 ^ 277 ≤ (significand v + 1) * 2 ^ ((exponent v).toNat - 1) := by
      obtain hbig | ⟨hbig, hfull⟩ := hlow
      · have hle : 2 ^ 23 ≤ significand v + 1 := by omega
        calc
          2 ^ 277 = 2 ^ 23 * 2 ^ 254 := by rw [← pow_add]
          _ ≤ _ := Nat.mul_le_mul hle (Nat.pow_le_pow_right two_pos hbig)
      · calc
          2 ^ 277 = 2 ^ 24 * 2 ^ 253 := by rw [← pow_add]
          _ ≤ _ := Nat.mul_le_mul hfull (Nat.pow_le_pow_right two_pos hbig)
    exact_mod_cast hnat
  have hpow : (2 : Rat) ^ 277 * 2 ^ (-149 : Int) = 2 ^ 128 := by
    rw [← zpow_ofNat 2 277, ← zpow_ofNat 2 128, ← zpow_add₀ two_ne_zero]
    congr 1
  have hunit : (0 : Rat) < 2 ^ (-149 : Int) := zpow_pos two_pos _
  rw [← hpow] at hlt
  exact absurd hlt (not_lt.mpr (mul_le_mul_of_nonneg_right hmul hunit.le))

theorem value_of_pos (hpos : 0 < value v) : value v = units v * 2 ^ (-149 : Int) := by
  rw [← abs_of_pos hpos, abs_value, magnitude_eq_units]

theorem scaled_gap {r : BitVec 32} (hpos : 0 < value v) (hscale : 0 < value s)
    (hne : value s ≠ 1) (hr : value r * value s = value v) :
    value s * 2 ^ (-149 : Int) ≤ |value v * value s - value v| := by
  have hrpos : 0 < value r := pos_of_mul_pos_left (hr ▸ hpos) hscale.le
  have hmove : value v * value s - value v = value s * (value v - value r) := by
    linarith [hr]
  have hunits : units v ≠ units r := fun heq => hne (by
    have hsame : value v = value r := by rw [value_of_pos hpos, value_of_pos hrpos, heq]
    rw [hsame] at hr
    exact (mul_eq_left₀ hrpos.ne').mp hr)
  have hone : (1 : Rat) ≤ |(units v : Rat) - units r| := by
    have hint : 1 ≤ |(units v : Int) - units r| :=
      Int.one_le_abs (sub_ne_zero.mpr (by exact_mod_cast hunits))
    exact_mod_cast hint
  rw [hmove, abs_mul, abs_of_pos hscale, value_of_pos hpos, value_of_pos hrpos, ← sub_mul, abs_mul,
    abs_of_pos (zpow_pos (two_pos : (0 : Rat) < 2) (-149))]
  exact mul_le_mul_of_nonneg_left (le_mul_of_one_le_left (zpow_pos two_pos _).le hone) hscale.le

section
variable (hpos : 0 < value v) (hy : Nearest (value v * value s) y) (hkept : value y = value v)
include hpos hy hkept

theorem scale_pos_of_kept : 0 < value s := by
  by_contra hnot
  have hle := hy.le isFloat_zero (mul_nonpos_of_nonneg_of_nonpos hpos.le (not_lt.mp hnot))
  rw [hkept] at hle
  exact absurd hpos (not_lt.mpr hle)

theorem not_kept_above (hscale : 1 < value s) (hlt : value v * value s < 2 ^ 128)
    (hgap : 2 ^ ((exponent v).toNat - 1) * 2 ^ (-149 : Int) ≤ value v * value s - value v) :
    False := by
  have hunit : (0 : Rat) < 2 ^ ((exponent v).toNat - 1) * 2 ^ (-149 : Int) := by positivity
  have hmore : value v < value v * value s := lt_mul_of_one_lt_right hpos hscale
  have htwice := hy.two_mul_le (next_above hpos (by linarith)) (.inl ⟨by linarith, by linarith⟩)
  rw [hkept, add_sub_cancel_left, abs_of_pos hunit, abs_of_pos (by linarith)] at htwice
  linarith

theorem twice_le_of_kept (hscale : value s < 1) {gap : Rat} (hgap : 0 < gap)
    (hz : IsFloat (value v - gap)) : 2 * (value v - value v * value s) ≤ gap := by
  have hless : value v * value s < value v := mul_lt_of_lt_one_right hpos hscale
  have htwice := hy.two_mul_le hz (.inr ⟨by linarith, by linarith⟩)
  rw [hkept, sub_sub_cancel_left, abs_neg, abs_of_pos hgap, abs_of_neg (by linarith)] at htwice
  linarith

/-- A small number is moved off unless it was not scaled. -/
theorem not_kept_small (hsmall : units v < 2 ^ 24) (hscale : value s < 1) {r : BitVec 32}
    (hr : value r * value s = value v) : False := by
  have hunit : (0 : Rat) < 2 ^ (-149 : Int) := zpow_pos two_pos _
  have hless : value v * value s < value v := mul_lt_of_lt_one_right hpos hscale
  have hgap := scaled_gap hpos (scale_pos_of_kept hpos hy hkept) hscale.ne hr
  rw [abs_of_neg (by linarith)] at hgap
  have hvalue := value_of_pos hpos
  have hcount : 0 < units v := by
    refine Nat.pos_of_ne_zero fun hzero => ?_
    rw [hvalue, hzero, Nat.cast_zero, zero_mul] at hpos
    exact lt_irrefl _ hpos
  have hbelow : IsFloat (value v - 2 ^ (-149 : Int)) := by
    have hfloat := isFloat_units (k := units v - 1) (e := 0) (by omega) (.inl rfl) (by omega)
    rw [pow_zero, mul_one, Nat.cast_pred hcount] at hfloat
    rwa [hvalue, ← sub_one_mul]
  have htwice := twice_le_of_kept hpos hy hkept hscale hunit hbelow
  have hhalf : value s ≤ 1 / 2 := by
    by_contra hmore
    have hlarge := mul_lt_mul_of_pos_right (not_le.mp hmore) hunit
    generalize (2 : Rat) ^ (-149 : Int) = unit at hgap htwice hlarge
    linarith
  -- only the least denormal can be half a unit away
  have hfar : value v * value s ≤ value v * (1 / 2) := mul_le_mul_of_nonneg_left hhalf hpos.le
  have hone : units v = 1 := by
    have hle : (units v : Rat) * 2 ^ (-149 : Int) ≤ 1 * 2 ^ (-149 : Int) := by
      rw [← hvalue]
      linarith
    have hle' : (units v : Rat) ≤ (1 : Nat) := by
      rw [Nat.cast_one]
      exact le_of_mul_le_mul_right hle hunit
    have hle'' : units v ≤ 1 := by exact_mod_cast hle'
    omega
  rw [hone, Nat.cast_one, one_mul] at hvalue
  have hzero : value (0 : BitVec 32) = 0 := value_of_isZero (by decide)
  have heven := hy.tie 0 (by decide) (by
    rw [hkept, hzero, zero_sub, abs_neg, abs_of_nonneg (by linarith [hvalue]),
      abs_of_pos (by linarith)]
    linarith) (by
    rw [hkept, hzero]
    exact hpos.ne)
  have hposy : 0 < value y := hkept.symm ▸ hpos
  have hunitsy : units y = 1 := by
    have heq := hkept.trans hvalue
    rw [value_of_pos hposy] at heq
    have hcast : (units y : Rat) = (1 : Nat) := by
      rw [Nat.cast_one]
      exact (mul_eq_right₀ hunit.ne').mp heq
    exact_mod_cast hcast
  rw [units] at hunitsy
  rw [Nat.eq_one_of_mul_eq_one_right hunitsy] at heven
  exact absurd heven (by decide)

/-- A number with all digits is moved off by the last digit of the factor. -/
theorem not_kept_normal (hlarge : 2 ^ 24 ≤ units v) (hv : isFinite v = true)
    (hscale : value s < 1) : False := by
  have hnormal : exponent v ≠ 0 := fun hzero => by
    have hfraction := (fraction v).isLt
    rw [units_of_denormal hzero] at hlarge
    omega
  have hsig := significand_of_normal hnormal
  have hsiglt := significand_lt v
  have hbits := (isFinite_iff_bits v).mp hv
  have hexp := exponent_pos hnormal
  rw [bits_eq] at hbits
  have hvalue := value_of_pos hpos
  have hless : value v * 2 ^ (-24 : Int) ≤ value v - value v * value s := by
    have hmul := mul_le_mul_of_nonneg_left (le_one_sub hscale) hpos.le
    linarith
  have hplace : ((exponent v).toNat - 1) * 2 ^ 23 + significand v < 255 * 2 ^ 23 := by
    rw [hsig, ← Nat.add_assoc, ← Nat.succ_mul, Nat.succ_eq_add_one, Nat.sub_add_cancel hexp]
    exact hbits
  have hpow : (2 : Rat) ^ (-24 : Int) = 1 / 16777216 := by norm_num
  rw [hpow] at hless
  rw [units, Nat.cast_mul, Nat.cast_pow, Nat.cast_ofNat, mul_assoc] at hvalue
  rw [units] at hlarge
  generalize (exponent v).toNat - 1 = e at hvalue hlarge hplace
  obtain hmore | hleast := Nat.lt_or_ge (2 ^ 23) (significand v)
  · have hunit : (0 : Rat) < 2 ^ e * 2 ^ (-149 : Int) := by positivity
    have hbelow : IsFloat (value v - 2 ^ e * 2 ^ (-149 : Int)) := by
      have hfloat := @isFloat_units (significand v - 1) e (by omega) (.inr (by omega))
        (Nat.lt_of_le_of_lt (Nat.add_le_add_left (Nat.sub_le ..) _) hplace)
      rwa [Nat.cast_pred (by omega), mul_assoc, sub_one_mul, ← hvalue] at hfloat
    have htwice := twice_le_of_kept hpos hy hkept hscale hunit hbelow
    have hcast : ((8388608 : Nat) : Rat) < significand v := by exact_mod_cast hmore
    have hmul := mul_lt_mul_of_pos_right hcast hunit
    rw [← hvalue, Nat.cast_ofNat] at hmul
    generalize (2 : Rat) ^ e * 2 ^ (-149 : Int) = unit at hmul htwice
    linarith
  · obtain ⟨e', rfl⟩ : ∃ e', e = e' + 1 := by
      refine ⟨e - 1, ?_⟩
      have hzero : e ≠ 0 := fun hzero => by
        rw [hzero, pow_zero] at hlarge
        omega
      omega
    have hunit : (0 : Rat) < 2 ^ e' * 2 ^ (-149 : Int) := by positivity
    have hfull : significand v = 8388608 := by omega
    have hvalue' : value v = 16777216 * (2 ^ e' * 2 ^ (-149 : Int)) := by
      rw [hvalue, hfull, pow_succ]
      generalize (2 : Rat) ^ (-149 : Int) = unit
      push_cast
      ring
    have hbelow : IsFloat (value v - 2 ^ e' * 2 ^ (-149 : Int)) := by
      rw [hfull, Nat.succ_mul, Nat.add_assoc] at hplace
      have hfloat := @isFloat_units 16777215 e' (by omega) (.inr (by omega))
        (Nat.lt_trans (Nat.lt_succ_self _) hplace)
      have hsum : value v - 2 ^ e' * 2 ^ (-149 : Int) =
          ((16777215 : Nat) : Rat) * 2 ^ e' * 2 ^ (-149 : Int) := by
        rw [hvalue']
        generalize (2 : Rat) ^ (-149 : Int) = unit
        push_cast
        ring
      rwa [hsum]
    have htwice := twice_le_of_kept hpos hy hkept hscale hunit hbelow
    generalize (2 : Rat) ^ e' * 2 ^ (-149 : Int) = unit at hvalue' htwice hunit
    linarith

/-- A positive float that is kept when it is scaled and rounded was not scaled, if a small one is
itself the scaled value of a float. -/
theorem scale_eq_one_of_kept (hv : isFinite v = true) (hlt : value v * value s < 2 ^ 128)
    (hscaled : units v < 2 ^ 24 → ∃ r, value r * value s = value v) : value s = 1 := by
  have hscale := scale_pos_of_kept hpos hy hkept
  by_contra hne
  obtain hbelow | habove := lt_or_gt_of_ne hne
  · obtain hsmall | hlarge := Nat.lt_or_ge (units v) (2 ^ 24)
    · obtain ⟨r, hr⟩ := hscaled hsmall
      exact not_kept_small hpos hy hkept hsmall hbelow hr
    · exact not_kept_normal hpos hy hkept hlarge hv hbelow
  · refine not_kept_above hpos hy hkept habove hlt ?_
    have hmore : value v < value v * value s := lt_mul_of_one_lt_right hpos habove
    obtain hsmall | hlarge := Nat.lt_or_ge (units v) (2 ^ 24)
    · obtain ⟨r, hr⟩ := hscaled hsmall
      have hgap := scaled_gap hpos hscale hne hr
      rw [abs_of_pos (by linarith)] at hgap
      have hexp : (exponent v).toNat - 1 = 0 := by
        by_contra hexp
        have hnormal : exponent v ≠ 0 := fun hzero => hexp (by rw [hzero]; rfl)
        have hle := le_units_of_normal hnormal
        have hpow : 2 ^ 24 ≤ 2 ^ (23 + ((exponent v).toNat - 1)) :=
          Nat.pow_le_pow_right two_pos (by omega)
        omega
      rw [hexp, pow_zero, one_mul]
      exact (le_mul_of_one_le_left (zpow_pos two_pos _).le habove.le).trans hgap
    · have hnormal : exponent v ≠ 0 := fun hzero => by
        have hfraction := (fraction v).isLt
        rw [units_of_denormal hzero] at hlarge
        omega
      have hsig : 2 ^ 23 ≤ significand v := by
        rw [significand_of_normal hnormal]
        omega
      have hcast : ((8388608 : Nat) : Rat) ≤ significand v := by exact_mod_cast hsig
      have hunit : (0 : Rat) < 2 ^ ((exponent v).toNat - 1) * 2 ^ (-149 : Int) := by positivity
      have hmul := mul_le_mul_of_nonneg_left (le_sub_one habove) hpos.le
      have hpow : (2 : Rat) ^ (-23 : Int) = 1 / 8388608 := by norm_num
      have hlow := mul_le_mul_of_nonneg_right hcast hunit.le
      have hvalue := value_of_pos hpos
      rw [units, Nat.cast_mul, Nat.cast_pow, Nat.cast_ofNat, mul_assoc] at hvalue
      rw [hpow] at hmul
      rw [← hvalue, Nat.cast_ofNat] at hlow
      generalize (2 : Rat) ^ ((exponent v).toNat - 1) * 2 ^ (-149 : Int) = unit at hlow ⊢
      linarith

end

end

theorem isFloat_natCast {n : Nat} (h : n ≤ 2 ^ 24) : IsFloat n := by
  by_cases hzero : n = 0
  · rw [hzero, Nat.cast_zero]
    exact isFloat_zero
  obtain hlt | rfl := h.lt_or_eq
  · have hlog : Nat.log2 n ≤ 23 := Nat.lt_succ_iff.mp ((Nat.log2_lt hzero).mpr hlt)
    have hlow : 2 ^ 23 ≤ n * 2 ^ (23 - Nat.log2 n) := by
      calc
        2 ^ 23 = 2 ^ Nat.log2 n * 2 ^ (23 - Nat.log2 n) := by rw [← pow_add]; congr 1; omega
        _ ≤ _ := Nat.mul_le_mul_right _ (Nat.log2_self_le hzero)
    have hhigh : n * 2 ^ (23 - Nat.log2 n) ≤ 2 ^ 24 := by
      calc
        n * 2 ^ (23 - Nat.log2 n) ≤ 2 ^ (Nat.log2 n + 1) * 2 ^ (23 - Nat.log2 n) :=
          Nat.mul_le_mul_right _ Nat.lt_log2_self.le
        _ = 2 ^ 24 := by rw [← pow_add]; congr 1; omega
    have hfloat := @isFloat_units (n * 2 ^ (23 - Nat.log2 n)) (126 + Nat.log2 n) hhigh (.inr hlow)
      (by omega)
    have heq : ((n * 2 ^ (23 - Nat.log2 n) : Nat) : Rat) * 2 ^ (126 + Nat.log2 n) *
        2 ^ (-149 : Int) = n := by
      rw [Nat.cast_mul, Nat.cast_pow, Nat.cast_ofNat, mul_assoc, mul_assoc, ← mul_assoc (2 ^ _),
        ← pow_add, ← zpow_natCast, ← zpow_add₀ two_ne_zero]
      convert mul_one (n : Rat)
      convert zpow_zero (2 : Rat)
      omega
    rwa [heq] at hfloat
  · have hfloat := @isFloat_units (2 ^ 24) 149 le_rfl (.inr (by decide)) (by decide)
    have heq : ((2 ^ 24 : Nat) : Rat) * 2 ^ 149 * 2 ^ (-149 : Int) = (2 ^ 24 : Nat) := by
      rw [mul_assoc, ← zpow_natCast, ← zpow_add₀ two_ne_zero]
      exact mul_one _
    rwa [heq] at hfloat

theorem floor_value {y : BitVec 32} (h : 2 ^ 23 ≤ value y) : (⌊value y⌋ : Rat) = value y := by
  have hpos : 0 < value y := (pow_pos two_pos _).trans_le h
  have hmagnitude : magnitude y = value y := by rw [← abs_value, abs_of_pos hpos]
  have hbound : (2 : Rat) ^ (23 : Int) ≤ magnitude y := by
    rw [hmagnitude]
    exact_mod_cast h
  obtain ⟨k, hk⟩ := magnitude_grid hbound
  rw [hmagnitude, sub_self, zpow_zero, mul_one] at hk
  rw [hk, Int.floor_natCast, Int.cast_natCast]

/-- A positive integer that is kept when it is cast, scaled, rounded and cut is a float and was not
scaled, if no other factor keeps it when nothing is rounded. -/
theorem integer_kept {n : Int} {c s y : BitVec 32} (hn : 0 < n) (hc : Nearest n c)
    (hlt : value c * value s < 2 ^ 128) (hy : Nearest (value c * value s) y)
    (hfloor : ⌊value y⌋ = n)
    (hexact : n ≤ n * value s → n * value s < n + 1 → value s = 1) :
    IsFloat n ∧ value s = 1 := by
  have hn' : (1 : Rat) ≤ n := by exact_mod_cast hn
  obtain ⟨hle, hnext⟩ := Int.floor_eq_iff.mp hfloor
  have hsmall : value y < 2 ^ 23 → n + 1 ≤ 2 ^ 23 := fun h => by
    have hltn : (n : Rat) < (2 ^ 23 : Int) := by
      push_cast
      linarith
    have hltn' : n < 2 ^ 23 := by exact_mod_cast hltn
    omega
  have hfloat {k : Int} (h0 : 0 ≤ k) (hk : k ≤ 2 ^ 24) : IsFloat k := by
    obtain ⟨k, rfl⟩ := Int.eq_ofNat_of_zero_le h0
    exact_mod_cast @isFloat_natCast k (by exact_mod_cast hk)
  have hnFloat : IsFloat n := by
    by_cases hlarge : 2 ^ 23 ≤ value y
    · refine ⟨y, hy.finite, ?_⟩
      rw [← floor_value hlarge, hfloor]
    · have := hsmall (not_le.mp hlarge)
      exact hfloat hn.le (by omega)
  refine ⟨hnFloat, ?_⟩
  have hvalue := hc.eq_of_isFloat hnFloat
  rw [hvalue] at hy hlt
  obtain heq | hmore := hle.eq_or_lt
  · -- nothing was cut
    have hpos : 0 < value c := by linarith
    refine scale_eq_one_of_kept hpos (by rwa [hvalue]) (by rw [hvalue, heq]) hc.finite
      (by rwa [hvalue]) fun hunits => ?_
    exfalso
    have hcount := value_of_pos hpos
    have hlt' : (units c : Rat) < (2 ^ 24 : Nat) := by exact_mod_cast hunits
    have hmul := mul_lt_mul_of_pos_right hlt' (zpow_pos (two_pos : (0 : Rat) < 2) (-149))
    rw [← hcount, hvalue] at hmul
    norm_num at hmul
    linarith
  · have hless : value y < 2 ^ 23 := by
      by_contra hlarge
      rw [← floor_value (not_lt.mp hlarge), hfloor] at hmore
      exact lt_irrefl _ hmore
    refine hexact ?_ ?_
    · by_contra hbelow
      exact absurd (hy.le hnFloat (not_le.mp hbelow).le) (not_le.mpr hmore)
    · by_contra habove
      have hnextFloat : IsFloat ((n : Rat) + 1) := by
        have := hsmall hless
        exact_mod_cast hfloat (by omega : 0 ≤ n + 1) (by omega)
      exact absurd (hy.ge hnextFloat (not_lt.mp habove)) (not_le.mpr hnext)

end NodeNet.Binary32

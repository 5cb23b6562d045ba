import Mathlib.Order.WithBot
import NodeNet.Lib.Binary32

/-! The order of the floats: the words without their signs count the magnitudes. -/
namespace NodeNet.Binary32

/-- The magnitude in units of the least denormal. -/
def units (raw : BitVec 32) : Nat := significand raw * 2 ^ ((exponent raw).toNat - 1)

/-- The word without its sign. -/
def bits (raw : BitVec 32) : Nat := raw.toNat % 2 ^ 31

/-- The rationals with both infinities. -/
abbrev Extended := WithBot (WithTop Rat)

/-- The number that a word stands for which is not a NaN. -/
def extended (raw : BitVec 32) : Extended :=
  if isInf raw then if sign raw then ⊥ else ((⊤ : WithTop Rat) : Extended)
  else ((value raw : WithTop Rat) : Extended)

/-- The word's place among the words in the order of what they stand for; both zeros have one. -/
def ordinal (raw : BitVec 32) : Int := if sign raw then -(bits raw : Int) else bits raw

theorem bits_eq (raw : BitVec 32) :
    bits raw = (exponent raw).toNat * 2 ^ 23 + (fraction raw).toNat := by
  rw [bits, toNat_exponent, toNat_fraction]
  omega

theorem toNat_eq (raw : BitVec 32) : raw.toNat = (sign raw).toNat * 2 ^ 31 + bits raw := by
  rw [bits, toNat_sign]
  omega

theorem magnitude_eq_units (raw : BitVec 32) : magnitude raw = units raw * 2 ^ (-149 : Int) := by
  rw [magnitude, units, scale]
  by_cases hexp : exponent raw = 0
  · simp [hexp]
  · have hpos : 0 < (exponent raw).toNat := by
      refine Nat.pos_of_ne_zero fun hzero => hexp ?_
      exact BitVec.eq_of_toNat_eq hzero
    have hsplit : ((exponent raw).toNat : Int) - 150 = ((exponent raw).toNat - 1 : Nat) + -149 := by
      omega
    rw [if_neg hexp, hsplit, zpow_add₀ two_ne_zero, zpow_natCast]
    push_cast
    ring

theorem units_lt_next (raw : BitVec 32) : units raw < 2 ^ (24 + ((exponent raw).toNat - 1)) := by
  rw [units, pow_add]
  exact Nat.mul_lt_mul_of_pos_right (significand_lt raw) (Nat.two_pow_pos _)

theorem exponent_pos {raw : BitVec 32} (h : exponent raw ≠ 0) : 0 < (exponent raw).toNat :=
  Nat.pos_of_ne_zero fun hzero => h (BitVec.eq_of_toNat_eq hzero)

theorem le_units_of_normal {raw : BitVec 32} (h : exponent raw ≠ 0) :
    2 ^ (23 + ((exponent raw).toNat - 1)) ≤ units raw := by
  have hsig : 2 ^ 23 ≤ significand raw := by
    rw [significand_of_normal h]
    omega
  rw [units, pow_add]
  exact Nat.mul_le_mul_right _ hsig

theorem units_of_denormal {raw : BitVec 32} (h : exponent raw = 0) :
    units raw = (fraction raw).toNat := by
  simp [units, significand, h]

theorem units_lt_of_exponent {a b : BitVec 32} (h : (exponent a).toNat < (exponent b).toNat) :
    units a < units b := by
  have hb : exponent b ≠ 0 := by
    intro hzero
    rw [hzero] at h
    cases h
  have hlt : units a < 2 ^ (23 + ((exponent b).toNat - 1)) := by
    by_cases ha : exponent a = 0
    · rw [units_of_denormal ha]
      exact (fraction a).isLt.trans_le (Nat.pow_le_pow_right two_pos (by omega))
    · have hpos := exponent_pos ha
      exact (units_lt_next a).trans_le (Nat.pow_le_pow_right two_pos (by omega))
  exact hlt.trans_le (le_units_of_normal hb)

theorem units_lt_of_bits {a b : BitVec 32} (h : bits a < bits b) : units a < units b := by
  have ha := (fraction a).isLt
  have hb := (fraction b).isLt
  rw [bits_eq, bits_eq] at h
  by_cases hexp : (exponent a).toNat < (exponent b).toNat
  · exact units_lt_of_exponent hexp
  · have heq : (exponent a).toNat = (exponent b).toNat := by omega
    have hsame : exponent a = exponent b := BitVec.eq_of_toNat_eq heq
    have hsig : significand a < significand b := by
      rw [significand, significand, hsame]
      split <;> omega
    rw [units, units, heq]
    exact Nat.mul_lt_mul_of_pos_right hsig (Nat.two_pow_pos _)

theorem units_of_bits {a b : BitVec 32} (h : bits a = bits b) : units a = units b := by
  have ha := (fraction a).isLt
  have hb := (fraction b).isLt
  rw [bits_eq, bits_eq] at h
  have hexp : exponent a = exponent b := BitVec.eq_of_toNat_eq (by omega)
  have hfraction : fraction a = fraction b := BitVec.eq_of_toNat_eq (by omega)
  rw [units, units, significand, significand, hexp, hfraction]

theorem units_lt_iff (a b : BitVec 32) : units a < units b ↔ bits a < bits b := by
  constructor
  · intro h
    by_contra hnot
    obtain hlt | heq := Nat.lt_or_eq_of_le (Nat.le_of_not_lt hnot)
    · exact absurd h (Nat.lt_asymm (units_lt_of_bits hlt))
    · rw [units_of_bits heq] at h
      exact absurd h (Nat.lt_irrefl _)
  · exact units_lt_of_bits

theorem value_eq_units (raw : BitVec 32) :
    value raw = (if sign raw then -(units raw : Int) else units raw : Int) * 2 ^ (-149 : Int) := by
  rw [value, magnitude_eq_units, signed]
  split
  · push_cast
    ring
  · push_cast
    rfl

theorem value_lt_iff (a b : BitVec 32) : value a < value b ↔ ordinal a < ordinal b := by
  have hunit : (0 : Rat) < 2 ^ (-149 : Int) := zpow_pos two_pos _
  have hab := units_lt_iff a b
  have hba := units_lt_iff b a
  have hzero (raw : BitVec 32) : units raw = 0 ↔ bits raw = 0 := by
    have hlt := units_lt_iff 0 raw
    have hnone : units 0 = 0 := rfl
    have hnil : bits 0 = 0 := rfl
    omega
  have ha0 := hzero a
  have hb0 := hzero b
  rw [value_eq_units, value_eq_units, mul_lt_mul_iff_left₀ hunit, Int.cast_lt, ordinal, ordinal]
  split <;> split <;> omega

theorem isInf_iff (raw : BitVec 32) : isInf raw = true ↔ bits raw = 255 * 2 ^ 23 := by
  have hlt := (fraction raw).isLt
  have hexp := (exponent raw).isLt
  rw [bits_eq, isInf, Bool.and_eq_true, decide_eq_true_iff, decide_eq_true_iff,
    ← BitVec.toNat_inj, ← BitVec.toNat_inj]
  change (exponent raw).toNat = 255 ∧ (fraction raw).toNat = 0 ↔ _
  omega

theorem isNan_iff (raw : BitVec 32) : isNan raw = true ↔ 255 * 2 ^ 23 < bits raw := by
  have hlt := (fraction raw).isLt
  have hexp := (exponent raw).isLt
  rw [bits_eq, isNan, Bool.and_eq_true, decide_eq_true_iff, decide_eq_true_iff, ne_eq,
    ← BitVec.toNat_inj, ← BitVec.toNat_inj]
  change (exponent raw).toNat = 255 ∧ ¬(fraction raw).toNat = 0 ↔ _
  omega

theorem extended_lt_iff {a b : BitVec 32} (ha : isNan a = false) (hb : isNan b = false) :
    extended a < extended b ↔ ordinal a < ordinal b := by
  have hinfa := isInf_iff a
  have hinfb := isInf_iff b
  have hnana := isNan_iff a
  have hnanb := isNan_iff b
  have hvalue := value_lt_iff a b
  rw [ha] at hnana
  rw [hb] at hnanb
  simp only [Bool.false_eq_true, false_iff, Nat.not_lt] at hnana hnanb
  cases hia : isInf a <;> cases hib : isInf b <;> cases hsa : sign a <;> cases hsb : sign b <;>
    simp only [hia, hib, false_iff, true_iff, Bool.false_eq_true] at hinfa hinfb <;>
    simp only [ordinal, hsa, hsb, if_true, if_false, Bool.false_eq_true] at hvalue ⊢ <;>
    simp only [extended, hia, hib, hsa, hsb, if_true, if_false, Bool.false_eq_true,
      WithBot.coe_lt_coe, WithTop.coe_lt_coe, WithTop.coe_lt_top, WithBot.bot_lt_coe,
      lt_self_iff_false, not_lt_bot, not_top_lt, hvalue, false_iff, true_iff] <;>
    omega

theorem extended_eq_iff {a b : BitVec 32} (ha : isNan a = false) (hb : isNan b = false) :
    extended a = extended b ↔ ordinal a = ordinal b := by
  have hab := extended_lt_iff ha hb
  have hba := extended_lt_iff hb ha
  constructor
  · intro heq
    rw [heq, iff_false_left (lt_irrefl _)] at hab
    rw [heq, iff_false_left (lt_irrefl _)] at hba
    omega
  · intro heq
    rw [heq, iff_false_right (lt_irrefl _)] at hab
    rw [heq, iff_false_right (lt_irrefl _)] at hba
    exact le_antisymm (not_lt.mp hba) (not_lt.mp hab)

theorem ordinal_eq_iff (a b : BitVec 32) :
    ordinal a = ordinal b ↔ a = b ∨ isZero a = true ∧ isZero b = true := by
  have hzero (raw : BitVec 32) : isZero raw = true ↔ bits raw = 0 := by
    have hfraction := (fraction raw).isLt
    rw [isZero_iff, bits_eq, ← BitVec.toNat_inj, ← BitVec.toNat_inj]
    change (exponent raw).toNat = 0 ∧ (fraction raw).toNat = 0 ↔ _
    omega
  have hlta : bits a < 2 ^ 31 := Nat.mod_lt _ (Nat.two_pow_pos 31)
  have hltb : bits b < 2 ^ 31 := Nat.mod_lt _ (Nat.two_pow_pos 31)
  rw [hzero, hzero, ← BitVec.toNat_inj, toNat_eq a, toNat_eq b, ordinal, ordinal]
  cases sign a <;> cases sign b <;>
    simp only [Bool.toNat_true, Bool.toNat_false, if_true, if_false, Bool.false_eq_true] <;>
    omega

/-- The float next to a number, from below or from above. -/
structure Adjacent (r : BitVec 32) (x : Rat) : Prop where
  finite : isFinite r = true
  next : (value r ≤ x ∧ ∀ s, isFinite s = true → value s ≤ x → value s ≤ value r) ∨
    (x ≤ value r ∧ ∀ s, isFinite s = true → x ≤ value s → value r ≤ value s)

theorem Adjacent.value_eq {r s : BitVec 32} {x : Rat} (h : Adjacent r x)
    (hs : isFinite s = true) (hx : value s = x) : value r = x := by
  obtain ⟨hle, hmax⟩ | ⟨hle, hmin⟩ := h.next
  · have hsr := hmax s hs hx.le
    rw [hx] at hsr
    exact le_antisymm hle hsr
  · have hrs := hmin s hs hx.ge
    rw [hx] at hrs
    exact le_antisymm hrs hle

theorem adjacent_self {r : BitVec 32} (h : isFinite r = true) : Adjacent r (value r) :=
  ⟨h, Or.inl ⟨le_rfl, fun _ _ hle => hle⟩⟩

section
variable {r s : BitVec 32}

theorem units_eq_mul (h : (exponent r).toNat ≤ (exponent s).toNat) :
    ∃ n, units s = n * 2 ^ ((exponent r).toNat - 1) := by
  refine ⟨significand s * 2 ^ ((exponent s).toNat - 1 - ((exponent r).toNat - 1)), ?_⟩
  rw [units, Nat.mul_assoc, ← Nat.pow_add]
  congr 2
  omega

theorem le_units_of_lt (h : units r < units s) :
    (significand r + 1) * 2 ^ ((exponent r).toNat - 1) ≤ units s := by
  have hexp : (exponent r).toNat ≤ (exponent s).toNat := by
    by_contra hlt
    exact absurd h (Nat.lt_asymm (units_lt_of_exponent (Nat.lt_of_not_le hlt)))
  obtain ⟨n, hn⟩ := units_eq_mul hexp
  rw [hn, units] at h
  rw [hn]
  exact Nat.mul_le_mul_right _ (Nat.lt_of_mul_lt_mul_right h)

theorem units_le_of_lt (hnormal : exponent r ≠ 0) (h : units s < units r) :
    2 * units s + 2 ^ ((exponent r).toNat - 1) ≤ 2 * units r := by
  have hpos := exponent_pos hnormal
  have hsig := significand_of_normal hnormal
  by_cases hexp : (exponent r).toNat ≤ (exponent s).toNat
  · obtain ⟨n, hn⟩ := units_eq_mul hexp
    rw [hn, units] at h
    have hlt : n + 1 ≤ significand r := Nat.lt_of_mul_lt_mul_right h
    have hle := Nat.mul_le_mul_right (2 ^ ((exponent r).toNat - 1)) hlt
    rw [Nat.add_mul, Nat.one_mul] at hle
    rw [hn, units]
    omega
  · by_cases hdenormal : (exponent s).toNat ≤ 1 ∧ (exponent r).toNat = 1
    · obtain ⟨hs, hr⟩ := hdenormal
      have hlow : exponent s = 0 := BitVec.eq_of_toNat_eq (by
        change (exponent s).toNat = 0
        omega)
      have hfraction := (fraction s).isLt
      rw [units_of_denormal hlow, units, hr, hsig]
      omega
    · obtain ⟨k, hk⟩ : ∃ k, (exponent r).toNat = k + 2 := ⟨(exponent r).toNat - 2, by omega⟩
      have hpow : 2 ^ ((exponent s).toNat - 1) ≤ 2 ^ k :=
        Nat.pow_le_pow_right two_pos (by omega)
      have hlt := significand_lt s
      have hle : units s ≤ (2 ^ 24 - 1) * 2 ^ k := Nat.mul_le_mul (by omega) hpow
      have hge : 2 ^ 23 * 2 ^ (k + 1) ≤ units r := by
        rw [units, hk]
        exact Nat.mul_le_mul (by omega) le_rfl
      rw [hk]
      change 2 * units s + 2 ^ (k + 1) ≤ _
      rw [Nat.pow_succ] at hge ⊢
      omega

theorem value_eq_signed (raw : BitVec 32) :
    value raw = signed (sign raw) (units raw * 2 ^ (-149 : Int)) := by
  rw [value, magnitude_eq_units]

/-- A normal float is next to every number within half a unit of its last place from below and a
unit from above. -/
theorem adjacent_of_units {y : Rat} (hfinite : isFinite r = true) (hnormal : exponent r ≠ 0)
    (hlow : 2 * (units r : Rat) < 2 * y + 2 ^ ((exponent r).toNat - 1))
    (hhigh : y < (significand r + 1 : Nat) * 2 ^ ((exponent r).toNat - 1)) :
    Adjacent r (signed (sign r) (y * 2 ^ (-149 : Int))) := by
  have hunit : (0 : Rat) < 2 ^ (-149 : Int) := zpow_pos two_pos _
  have hy : 0 < y := by
    have hle : 2 ^ ((exponent r).toNat - 1) ≤ units r := by
      rw [units, significand_of_normal hnormal]
      exact Nat.le_mul_of_pos_left _ (by omega)
    have hcast : (2 : Rat) ^ ((exponent r).toNat - 1) ≤ units r := by exact_mod_cast hle
    have hpos : (0 : Rat) < 2 ^ ((exponent r).toNat - 1) := pow_pos two_pos _
    linarith
  have habove (s : BitVec 32) (h : y ≤ units s) : units r ≤ units s := by
    by_contra hlt
    have hgap := units_le_of_lt hnormal (Nat.lt_of_not_le hlt)
    have hcast : 2 * (units s : Rat) + 2 ^ ((exponent r).toNat - 1) ≤ 2 * units r := by
      exact_mod_cast hgap
    linarith
  have hbelow (s : BitVec 32) (h : (units s : Rat) ≤ y) : units s ≤ units r := by
    by_contra hlt
    have hgap := le_units_of_lt (Nat.lt_of_not_le hlt)
    have hcast : ((significand r + 1 : Nat) : Rat) * 2 ^ ((exponent r).toNat - 1) ≤ units s := by
      exact_mod_cast hgap
    linarith
  have hscale (a b : Rat) : a * 2 ^ (-149 : Int) ≤ b * 2 ^ (-149 : Int) ↔ a ≤ b :=
    mul_le_mul_iff_left₀ hunit
  have hnonneg (s : BitVec 32) : (0 : Rat) ≤ units s * 2 ^ (-149 : Int) := by positivity
  have hpos : (0 : Rat) < y * 2 ^ (-149 : Int) := mul_pos hy hunit
  -- A float of the other sign is beyond zero.
  have hother (s : BitVec 32) (hsign : sign s ≠ sign r) : signed (sign r) (value s) ≤ 0 := by
    rw [value_eq_signed, Bool.eq_not_iff.mpr hsign]
    cases sign r <;> simp [signed]
  have hsame (s : BitVec 32) (hsign : sign s = sign r) :
      signed (sign r) (value s) = units s * 2 ^ (-149 : Int) := by
    rw [value_eq_signed, hsign, signed_signed, Bool.xor_self]
    rfl
  have hmax (s : BitVec 32) (hs : signed (sign r) (value s) ≤ y * 2 ^ (-149 : Int)) :
      signed (sign r) (value s) ≤ units r * 2 ^ (-149 : Int) := by
    by_cases hsign : sign s = sign r
    · rw [hsame s hsign, hscale] at hs ⊢
      exact_mod_cast hbelow s hs
    · exact (hother s hsign).trans (hnonneg r)
  have hmin (s : BitVec 32) (hs : y * 2 ^ (-149 : Int) ≤ signed (sign r) (value s)) :
      units r * 2 ^ (-149 : Int) ≤ signed (sign r) (value s) := by
    by_cases hsign : sign s = sign r
    · rw [hsame s hsign, hscale] at hs ⊢
      exact_mod_cast habove s hs
    · exact absurd (hpos.trans_le hs) (hother s hsign).not_gt
  refine ⟨hfinite, ?_⟩
  rw [value_eq_signed r]
  have hle := le_total (units r : Rat) y
  rw [← hscale, ← hscale y] at hle
  cases hr : sign r
  · simp only [hr, signed, Bool.false_eq_true, if_false] at hmax hmin ⊢
    exact hle.imp (fun h => ⟨h, fun s _ => hmax s⟩) (fun h => ⟨h, fun s _ => hmin s⟩)
  · simp only [hr, signed, if_true] at hmax hmin ⊢
    refine hle.symm.imp (fun h => ⟨neg_le_neg h, fun s _ hs => ?_⟩)
      (fun h => ⟨neg_le_neg h, fun s _ hs => ?_⟩)
    · exact le_neg_of_le_neg (hmin s (le_neg_of_le_neg hs))
    · exact neg_le_of_neg_le (hmax s (neg_le_of_neg_le hs))

theorem not_adjacent_of_between {y : Rat} (hfinite : isFinite s = true) (hsign : sign s = sign r)
    (hy : y ≤ units s) (h : units s < units r) :
    ¬Adjacent r (signed (sign r) (y * 2 ^ (-149 : Int))) := by
  intro hadjacent
  have hunit : (0 : Rat) < 2 ^ (-149 : Int) := zpow_pos two_pos _
  have hle : y * 2 ^ (-149 : Int) ≤ units s * 2 ^ (-149 : Int) :=
    mul_le_mul_of_nonneg_right hy hunit.le
  have hlt : (units s : Rat) * 2 ^ (-149 : Int) < units r * 2 ^ (-149 : Int) :=
    mul_lt_mul_of_pos_right (by exact_mod_cast h) hunit
  have hs := value_eq_signed s
  have hr := value_eq_signed r
  rw [hsign] at hs
  cases hcase : sign r <;>
    simp only [hcase, signed, if_true, if_false, Bool.false_eq_true] at hadjacent hs hr
  · obtain ⟨hnext, -⟩ | ⟨-, hnext⟩ := hadjacent.next
    · linarith
    · have := hnext s hfinite (by linarith)
      linarith
  · obtain ⟨-, hnext⟩ | ⟨hnext, -⟩ := hadjacent.next
    · have := hnext s hfinite (by linarith)
      linarith
    · linarith

end

end NodeNet.Binary32

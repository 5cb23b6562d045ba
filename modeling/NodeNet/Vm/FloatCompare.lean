import NodeNet.Lib.FloatOrder
import NodeNet.Vm.IntegerSteps

/-! The float comparisons order what the words stand for. -/
namespace NodeNet.Vm
open NodeNet.Binary32

/-- What the specification names for a comparison of two numbers. -/
def relationOf (opcode : UInt8) (x y : Extended) : Prop :=
  match opcode with
  | opcodeFeq => x = y
  | opcodeFne => x ≠ y
  | opcodeFlt => x < y
  | opcodeFle => x ≤ y
  | opcodeFgt => y < x
  | opcodeFge => y ≤ x
  | _ => False

/-- A NaN is unequal to everything, and in no other relation. -/
def FloatHolds (opcode : UInt8) (a b : UInt32) : Prop :=
  if isNan a.toBitVec = true ∨ isNan b.toBitVec = true then opcode = opcodeFne
  else relationOf opcode (extended a.toBitVec) (extended b.toBitVec)

/-- What the comparison unit answers for two floats. -/
def floatTest (opcode : UInt8) (a b : UInt32) : Bool :=
  (floatCmpAlu opcode ⟨a, .float32⟩ ⟨b, .float32⟩).value = 1

theorem toNat_and_exponentMask (x : Nat) : x &&& 0x7F800000 = x / 2 ^ 23 % 256 * 2 ^ 23 := by
  have hdiv : (x &&& 0x7F800000) / 2 ^ 23 = x / 2 ^ 23 % 256 := by
    rw [Nat.and_div_two_pow]
    exact Nat.and_two_pow_sub_one_eq_mod _ 8
  have hmod : (x &&& 0x7F800000) % 2 ^ 23 = 0 := by
    rw [Nat.and_mod_two_pow]
    exact Nat.and_zero _
  omega

theorem float32IsNan_eq (raw : UInt32) : float32IsNan raw = isNan raw.toBitVec := by
  rw [Bool.eq_iff_iff, isNan_iff, bits, float32IsNan, Bool.and_eq_true, decide_eq_true_iff,
    decide_eq_true_iff, ne_eq, ← UInt32.toNat_inj, ← UInt32.toNat_inj, UInt32.toNat_and,
    UInt32.toNat_and]
  change raw.toNat &&& 0x7F800000 = 0x7F800000 ∧ ¬raw.toNat &&& (2 ^ 23 - 1) = 0 ↔
    255 * 2 ^ 23 < raw.toNat % 2 ^ 31
  rw [toNat_and_exponentMask, Nat.and_two_pow_sub_one_eq_mod]
  omega

theorem float32IsZero_eq (raw : UInt32) : float32IsZero raw = isZero raw.toBitVec := by
  have hbits : (raw.toBitVec.extractLsb' 0 31).toNat = raw.toNat % 2 ^ 31 := by
    rw [BitVec.extractLsb'_toNat, Nat.shiftRight_zero]
    rfl
  rw [Bool.eq_iff_iff, isZero, float32IsZero, decide_eq_true_iff, decide_eq_true_iff,
    ← UInt32.toNat_inj, ← BitVec.toNat_inj, UInt32.toNat_and, hbits]
  change raw.toNat &&& (2 ^ 31 - 1) = 0 ↔ raw.toNat % 2 ^ 31 = 0
  rw [Nat.and_two_pow_sub_one_eq_mod]

theorem sign_eq (raw : UInt32) : (raw &&& 0x80000000 ≠ 0) ↔ sign raw.toBitVec = true := by
  have hlt := raw.toNat_lt
  have hand : (raw &&& 0x80000000).toNat = raw.toNat / 2 ^ 31 * 2 ^ 31 := by
    have hdiv : (raw.toNat &&& 2 ^ 31) / 2 ^ 31 = raw.toNat / 2 ^ 31 := by
      rw [Nat.and_div_two_pow, Nat.div_self (Nat.two_pow_pos 31), Nat.and_one_is_mod]
      omega
    have hmod : (raw.toNat &&& 2 ^ 31) % 2 ^ 31 = 0 := by
      rw [Nat.and_mod_two_pow, Nat.mod_self, Nat.and_zero]
    rw [UInt32.toNat_and]
    change raw.toNat &&& 2 ^ 31 = _
    omega
  rw [ne_eq, ← UInt32.toNat_inj, hand, sign, BitVec.msb_eq_decide, decide_eq_true_iff]
  change ¬raw.toNat / 2 ^ 31 * 2 ^ 31 = 0 ↔ 2 ^ 31 ≤ raw.toNat
  omega

theorem toNat_float32OrderedKey (raw : UInt32) : ((float32OrderedKey raw).toNat : Int) =
    if sign raw.toBitVec then 2 ^ 31 - 1 + ordinal raw.toBitVec
    else 2 ^ 31 + ordinal raw.toBitVec := by
  have hlt := raw.toNat_lt
  have hsign := toNat_sign raw.toBitVec
  have hword : raw.toBitVec.toNat = raw.toNat := rfl
  rw [hword] at hsign
  cases hs : sign raw.toBitVec with
  | true =>
    rw [hs] at hsign
    have hkey : float32OrderedKey raw = ~~~raw := if_pos ((sign_eq raw).mpr hs)
    rw [hkey, ordinal, hs, bits, hword, if_pos rfl, if_pos rfl, UInt32.toNat_not]
    simp only [UInt32.size, Bool.toNat_true] at hsign ⊢
    omega
  | false =>
    rw [hs] at hsign
    have hkey : float32OrderedKey raw = raw ^^^ 0x80000000 :=
      if_neg fun h => by
        rw [(sign_eq raw).mp h] at hs
        cases hs
    have hdiv : (raw.toNat ^^^ 2 ^ 31) / 2 ^ 31 = 1 := by
      rw [Nat.xor_div_two_pow, Nat.div_self (Nat.two_pow_pos 31), ← hsign]
      rfl
    have hmod : (raw.toNat ^^^ 2 ^ 31) % 2 ^ 31 = raw.toNat % 2 ^ 31 := by
      rw [Nat.xor_mod_two_pow, Nat.mod_self, Nat.xor_zero]
    have hxor : (raw ^^^ 0x80000000).toNat = raw.toNat + 2 ^ 31 := by
      rw [UInt32.toNat_xor]
      change raw.toNat ^^^ 2 ^ 31 = _
      simp only [Bool.toNat_false] at hsign
      omega
    rw [hkey, ordinal, hs, bits, hword, hxor, if_neg (by decide), if_neg (by decide)]
    simp only [Bool.toNat_false] at hsign
    omega

section
variable {a b : UInt32}

theorem float32OrderedKey_lt_iff (hne : ordinal a.toBitVec ≠ ordinal b.toBitVec) :
    float32OrderedKey a < float32OrderedKey b ↔ ordinal a.toBitVec < ordinal b.toBitVec := by
  have ha := toNat_float32OrderedKey a
  have hb := toNat_float32OrderedKey b
  have hsign (raw : UInt32) : (sign raw.toBitVec = true → ordinal raw.toBitVec ≤ 0) ∧
      (sign raw.toBitVec = false → 0 ≤ ordinal raw.toBitVec) := by
    rw [ordinal]
    cases sign raw.toBitVec <;> simp
  have hsa := hsign a
  have hsb := hsign b
  rw [UInt32.lt_iff_toNat_lt]
  cases hca : sign a.toBitVec <;> cases hcb : sign b.toBitVec <;>
    simp only [hca, hcb, if_true, if_false, Bool.false_eq_true, true_implies, false_implies,
      true_and] at ha hb hsa hsb <;>
    omega

/-- The unit's test for the same number. -/
def float32Equal (a b : UInt32) : Bool := decide (a = b) || (float32IsZero a && float32IsZero b)

theorem float32Equal_iff :
    float32Equal a b = true ↔ ordinal a.toBitVec = ordinal b.toBitVec := by
  rw [float32Equal, ordinal_eq_iff, UInt32.toBitVec_inj, Bool.or_eq_true, Bool.and_eq_true,
    decide_eq_true_iff, float32IsZero_eq, float32IsZero_eq]

theorem float32Below_iff : (!float32Equal a b && decide (float32OrderedKey a < float32OrderedKey b))
    = true ↔ ordinal a.toBitVec < ordinal b.toBitVec := by
  by_cases h : ordinal a.toBitVec = ordinal b.toBitVec
  · simp [float32Equal_iff.mpr h, h]
  · have hne : float32Equal a b = false := by
      rw [← Bool.not_eq_true, float32Equal_iff]
      exact h
    simp [hne, float32OrderedKey_lt_iff h]

theorem float32AtMost_iff : (float32Equal a b || decide (float32OrderedKey a < float32OrderedKey b))
    = true ↔ ordinal a.toBitVec ≤ ordinal b.toBitVec := by
  have hbelow := float32Below_iff (a := a) (b := b)
  by_cases h : ordinal a.toBitVec = ordinal b.toBitVec
  · simp [float32Equal_iff.mpr h, h]
  · have hne : float32Equal a b = false := by
      rw [← Bool.not_eq_true, float32Equal_iff]
      exact h
    rw [hne] at hbelow ⊢
    rw [Bool.not_false, Bool.true_and] at hbelow
    rw [Bool.false_or, hbelow]
    omega

theorem float32Equal_comm : float32Equal a b = float32Equal b a := by
  rw [Bool.eq_iff_iff, float32Equal_iff, float32Equal_iff]
  exact eq_comm

theorem boolWord_eq_one (p : Bool) : decide (boolWord p = 1) = p := by
  cases p <;> rfl

variable {opcode : UInt8}

theorem float_compare_cases (hop : opcodeIsFloatCompare opcode = true) :
    opcode = opcodeFeq ∨ opcode = opcodeFne ∨ opcode = opcodeFlt ∨ opcode = opcodeFle ∨
      opcode = opcodeFgt ∨ opcode = opcodeFge := by
  have hmem := List.mem_of_elem_eq_true hop
  simpa only [List.mem_cons, List.not_mem_nil, or_false] using hmem

theorem floatTest_unordered (hop : opcodeIsFloatCompare opcode = true)
    (h : (float32IsNan a || float32IsNan b) = true) :
    floatTest opcode a b = true ↔ opcode = opcodeFne := by
  obtain rfl | rfl | rfl | rfl | rfl | rfl := float_compare_cases hop <;>
    simp only [floatTest, floatCmpAlu, aluResult, h, Bool.not_true, Bool.false_and, Bool.not_false,
      decide_true, Bool.and_self, if_true] <;>
    decide

/-- Without a NaN the unit compares the numbers. -/
theorem floatTest_ordered (hop : opcodeIsFloatCompare opcode = true) (ha : isNan a.toBitVec = false)
    (hb : isNan b.toBitVec = false) : floatTest opcode a b = true ↔
      relationOf opcode (extended a.toBitVec) (extended b.toBitVec) := by
  have hordered : (float32IsNan a || float32IsNan b) = false := by
    rw [float32IsNan_eq, float32IsNan_eq, ha, hb]
    rfl
  have htest (p : Bool) :
      decide ((aluResult false true (boolWord p) .bool).value = 1) = p := boolWord_eq_one p
  have hle (x y : UInt32) (hx : isNan x.toBitVec = false) (hy : isNan y.toBitVec = false) :
      extended x.toBitVec ≤ extended y.toBitVec ↔ ordinal x.toBitVec ≤ ordinal y.toBitVec := by
    rw [← not_lt, extended_lt_iff hy hx, not_lt]
  obtain rfl | rfl | rfl | rfl | rfl | rfl := float_compare_cases hop
  · have heq : floatTest opcodeFeq a b = (!false && float32Equal a b) := by
      rw [← htest (!false && _), ← hordered]
      rfl
    rw [heq, Bool.not_false, Bool.true_and, float32Equal_iff]
    exact (extended_eq_iff ha hb).symm
  · have heq : floatTest opcodeFne a b = !(!false && float32Equal a b) := by
      rw [← htest (!(!false && _)), ← hordered]
      rfl
    rw [heq, Bool.not_false, Bool.true_and, Bool.not_eq_true', ← Bool.not_eq_true, float32Equal_iff]
    exact (not_congr (extended_eq_iff ha hb)).symm
  · have heq : floatTest opcodeFlt a b = (!false && !(!false && float32Equal a b) &&
        decide (float32OrderedKey a < float32OrderedKey b)) := by
      rw [← htest (!false && _ && _), ← hordered]
      rfl
    rw [heq, Bool.not_false, Bool.true_and, Bool.true_and, float32Below_iff]
    exact (extended_lt_iff ha hb).symm
  · have heq : floatTest opcodeFle a b = (!false && ((!false && float32Equal a b) ||
        decide (float32OrderedKey a < float32OrderedKey b))) := by
      rw [← htest (!false && (_ || _)), ← hordered]
      rfl
    rw [heq, Bool.not_false, Bool.true_and, Bool.true_and, float32AtMost_iff]
    exact (hle a b ha hb).symm
  · have heq : floatTest opcodeFgt a b = (!false && !(!false && float32Equal a b) &&
        decide (float32OrderedKey b < float32OrderedKey a)) := by
      rw [← htest (!false && _ && _), ← hordered]
      rfl
    rw [heq, Bool.not_false, Bool.true_and, Bool.true_and, float32Equal_comm, float32Below_iff]
    exact (extended_lt_iff hb ha).symm
  · have heq : floatTest opcodeFge a b = (!false && ((!false && float32Equal a b) ||
        decide (float32OrderedKey b < float32OrderedKey a))) := by
      rw [← htest (!false && (_ || _)), ← hordered]
      rfl
    rw [heq, Bool.not_false, Bool.true_and, Bool.true_and, float32Equal_comm, float32AtMost_iff]
    exact (hle b a hb ha).symm

theorem floatTest_iff (hop : opcodeIsFloatCompare opcode = true) :
    floatTest opcode a b = true ↔ FloatHolds opcode a b := by
  unfold FloatHolds
  by_cases h : isNan a.toBitVec = true ∨ isNan b.toBitVec = true
  · rw [if_pos h]
    refine floatTest_unordered hop ?_
    rw [float32IsNan_eq, float32IsNan_eq, Bool.or_eq_true]
    exact h
  · rw [if_neg h]
    obtain ⟨ha, hb⟩ := not_or.mp h
    exact floatTest_ordered hop (Bool.eq_false_iff.mpr ha) (Bool.eq_false_iff.mpr hb)

theorem floatCmpAlu_pushes (hop : opcodeIsFloatCompare opcode = true) :
    floatCmpAlu opcode ⟨a, .float32⟩ ⟨b, .float32⟩ =
      .pushes false (.truth (floatTest opcode a b)) := by
  have htest (p : Bool) : aluResult false true (boolWord p) .bool =
      .pushes false (.truth (decide ((aluResult false true (boolWord p) .bool).value = 1))) := by
    cases p <;> rfl
  obtain rfl | rfl | rfl | rfl | rfl | rfl := float_compare_cases hop <;> exact htest _

end

theorem decode_floatCompare {s : WbPlc} (hop : opcodeIsFloatCompare s.currentOpcode = true) :
    s.divides = false ∧ decode s = applyBinaryAlu s
      (floatCmpAlu s.currentOpcode s.data.stack.next s.data.stack.top) false := by
  generalize hopcode : s.currentOpcode = opcode at hop
  obtain rfl | rfl | rfl | rfl | rfl | rfl := float_compare_cases hop <;>
    simp only [WbPlc.divides, decode, decodeExecute, hopcode] <;>
    exact ⟨rfl, rfl⟩

/-- The float comparisons of the machine order the numbers that the words stand for. -/
structure FloatsOrdered : Prop where
  holds : ∀ (opcode : UInt8) (a b : UInt32), opcodeIsFloatCompare opcode = true →
    (floatTest opcode a b = true ↔ FloatHolds opcode a b)
  irrefl : ∀ a : UInt32, floatTest opcodeFlt a a = false
  trans : ∀ a b c : UInt32, floatTest opcodeFlt a b = true → floatTest opcodeFlt b c = true →
    floatTest opcodeFlt a c = true
  trichotomy : ∀ a b : UInt32, float32IsNan a = false → float32IsNan b = false →
    ([opcodeFlt, opcodeFeq, opcodeFgt].filter fun opcode => floatTest opcode a b).length = 1
  le_eq : ∀ a b : UInt32,
    floatTest opcodeFle a b = (floatTest opcodeFlt a b || floatTest opcodeFeq a b)
  executes : ∀ (s : WbPlc) (i : In) (a b : UInt32) (rest : List Operand), s.state = .decode →
    opcodeIsFloatCompare s.currentOpcode = true →
    s.data.stack.Holds (⟨b, .float32⟩ :: ⟨a, .float32⟩ :: rest) →
    Replaces s (s.step i) rest (.truth (floatTest s.currentOpcode a b))

theorem floatTest_flt_iff {a b : UInt32} : floatTest opcodeFlt a b = true ↔
    (isNan a.toBitVec = false ∧ isNan b.toBitVec = false) ∧
      extended a.toBitVec < extended b.toBitVec := by
  rw [floatTest_iff (by decide), FloatHolds]
  by_cases h : isNan a.toBitVec = true ∨ isNan b.toBitVec = true
  · rw [if_pos h]
    refine iff_of_false (by decide) fun hlt => ?_
    obtain ha | hb := h
    · rw [hlt.1.1] at ha
      cases ha
    · rw [hlt.1.2] at hb
      cases hb
  · rw [if_neg h]
    obtain ⟨ha, hb⟩ := not_or.mp h
    exact (and_iff_right ⟨Bool.eq_false_iff.mpr ha, Bool.eq_false_iff.mpr hb⟩).symm

theorem floatTest_trichotomy {a b : UInt32} (ha : isNan a.toBitVec = false)
    (hb : isNan b.toBitVec = false) :
    ([opcodeFlt, opcodeFeq, opcodeFgt].filter fun opcode => floatTest opcode a b).length = 1 := by
  have hlt := floatTest_ordered (by decide : opcodeIsFloatCompare opcodeFlt = true) ha hb
  have heq := floatTest_ordered (by decide : opcodeIsFloatCompare opcodeFeq = true) ha hb
  have hgt := floatTest_ordered (by decide : opcodeIsFloatCompare opcodeFgt = true) ha hb
  change _ ↔ extended a.toBitVec < extended b.toBitVec at hlt
  change _ ↔ extended a.toBitVec = extended b.toBitVec at heq
  change _ ↔ extended b.toBitVec < extended a.toBitVec at hgt
  obtain h | h | h := lt_trichotomy (extended a.toBitVec) (extended b.toBitVec)
  · rw [iff_true_right h] at hlt
    rw [iff_false_right h.ne, Bool.not_eq_true] at heq
    rw [iff_false_right h.not_gt, Bool.not_eq_true] at hgt
    simp [hlt, heq, hgt]
  · rw [iff_false_right h.not_lt, Bool.not_eq_true] at hlt
    rw [iff_true_right h] at heq
    rw [iff_false_right h.symm.not_lt, Bool.not_eq_true] at hgt
    simp [hlt, heq, hgt]
  · rw [iff_false_right h.not_gt, Bool.not_eq_true] at hlt
    rw [iff_false_right h.ne', Bool.not_eq_true] at heq
    rw [iff_true_right h] at hgt
    simp [hlt, heq, hgt]

theorem floatTest_fle (a b : UInt32) :
    floatTest opcodeFle a b = (floatTest opcodeFlt a b || floatTest opcodeFeq a b) := by
  rw [Bool.eq_iff_iff, Bool.or_eq_true, floatTest_iff (by decide), floatTest_iff (by decide),
    floatTest_iff (by decide), FloatHolds, FloatHolds, FloatHolds]
  by_cases h : isNan a.toBitVec = true ∨ isNan b.toBitVec = true
  · rw [if_pos h, if_pos h, if_pos h]
    decide
  · rw [if_neg h, if_neg h, if_neg h]
    exact le_iff_lt_or_eq

theorem floats_ordered : FloatsOrdered where
  holds := fun _ _ _ hop => floatTest_iff hop
  irrefl := by
    intro a
    rw [← Bool.not_eq_true, floatTest_flt_iff]
    intro h
    exact lt_irrefl _ h.2
  trans := by
    intro a b c hab hbc
    rw [floatTest_flt_iff] at hab hbc ⊢
    exact ⟨⟨hab.1.1, hbc.1.2⟩, hab.2.trans hbc.2⟩
  trichotomy := by
    intro a b ha hb
    rw [float32IsNan_eq] at ha hb
    exact floatTest_trichotomy ha hb
  le_eq := floatTest_fle
  executes := by
    intro s i a b rest hstate hop hstack
    obtain ⟨hdiv, hdecode⟩ := decode_floatCompare hop
    have hsplit : s.data.stack.Holds ([⟨b, .float32⟩, ⟨a, .float32⟩] ++ rest) := hstack
    refine replaces_of_decode hstate hsplit (by simp) (Operand.canonical_truth _) hdiv ?_
    have htop : s.data.stack.top = ⟨b, .float32⟩ := by
      rw [hstack.eq, Stack.ofList_top _ _ hstack.length]
    have hnext : s.data.stack.next = ⟨a, .float32⟩ := by
      rw [hstack.eq, Stack.ofList_next _ _ _ hstack.length]
    rw [hdecode, htop, hnext, floatCmpAlu_pushes hop]
    exact applyBinaryAlu_pushes hstack

end NodeNet.Vm

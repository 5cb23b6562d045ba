import Mathlib

/-! The fragments a payload of the link is cut into, and that they tile it with none to spare. -/
namespace NodeNet.Link

/-- Positive lengths of at most the maximum that add up to the size. -/
structure Splits (size maxLength : Nat) (lengths : List Nat) : Prop where
  sum : lengths.sum = size
  positive : ∀ length ∈ lengths, 0 < length
  bounded : ∀ length ∈ lengths, length ≤ maxLength

theorem Splits.size_le {size maxLength : Nat} {lengths : List Nat}
    (h : Splits size maxLength lengths) : size ≤ lengths.length * maxLength := by
  rw [← h.sum]
  have hbounded := h.bounded
  clear h
  induction lengths with
  | nil => simp
  | cons length rest ih =>
    have hrest := ih fun l hl => hbounded l (List.mem_cons_of_mem _ hl)
    have hlength := hbounded length List.mem_cons_self
    simp only [List.sum_cons, List.length_cons, Nat.add_mul, Nat.one_mul]
    omega

theorem splits_of_le {maxLength : Nat} (hmax : 0 < maxLength) (count : Nat) {size : Nat}
    (h : size ≤ count * maxLength) : ∃ lengths, Splits size maxLength lengths ∧
      lengths.length ≤ count := by
  induction count generalizing size with
  | zero =>
    refine ⟨[], ⟨?_, by simp, by simp⟩, by simp⟩
    simp only [Nat.zero_mul] at h
    simp only [List.sum_nil]
    omega
  | succ count ih =>
    rw [Nat.add_mul, Nat.one_mul] at h
    by_cases hzero : size = 0
    · exact ⟨[], ⟨by simp [hzero], by simp, by simp⟩, by simp⟩
    obtain ⟨lengths, hsplits, hcount⟩ := @ih (size - min size maxLength) (by omega)
    refine ⟨min size maxLength :: lengths, ⟨?_, ?_, ?_⟩, ?_⟩
    · rw [List.sum_cons, hsplits.sum]
      omega
    · intro length hlength
      cases List.mem_cons.mp hlength with
      | inl heq => omega
      | inr hmem => exact hsplits.positive length hmem
    · intro length hlength
      cases List.mem_cons.mp hlength with
      | inl heq => omega
      | inr hmem => exact hsplits.bounded length hmem
    · simp only [List.length_cons]
      omega

structure FragmentPlan where
  fragmentCount : UInt8
  fragmentIndex : UInt8
  fragmentPayloadLength : UInt16
  payloadOffset : UInt32
deriving DecidableEq, Repr

/-- The payload's byte is in the fragment. -/
def FragmentPlan.Covers (plan : FragmentPlan) (position : Nat) : Prop :=
  plan.payloadOffset.toNat ≤ position ∧
    position < plan.payloadOffset.toNat + plan.fragmentPayloadLength.toNat

def computeFragmentCount (payloadSize maxFragmentPayload : UInt32) : Option UInt8 :=
  if maxFragmentPayload = 0 then none
  else
    let fragmentCount := (payloadSize + maxFragmentPayload - 1) / maxFragmentPayload
    if fragmentCount = 0 ∨ 255 < fragmentCount then none else some fragmentCount.toUInt8

def buildFragmentPlan (payloadSize maxFragmentPayload : UInt32) (fragmentIndex : UInt8) :
    Option FragmentPlan :=
  match computeFragmentCount payloadSize maxFragmentPayload with
  | none => none
  | some fragmentCount =>
    if fragmentCount ≤ fragmentIndex then none
    else
      let payloadOffset := fragmentIndex.toUInt32 * maxFragmentPayload
      let remaining := if payloadOffset < payloadSize then payloadSize - payloadOffset else 0
      let payloadLen := if maxFragmentPayload < remaining then maxFragmentPayload else remaining
      if 0xFFFF < payloadLen then none
      else some {
        fragmentCount := fragmentCount
        fragmentIndex := fragmentIndex
        fragmentPayloadLength := payloadLen.toUInt16
        payloadOffset := payloadOffset }

variable {maxFragmentPayload : UInt32}

/-- The rounded-up sum only wraps for payloads that need too many fragments anyway. -/
theorem computeFragmentCount_toNat (payloadSize : UInt32) (hpos : 0 < maxFragmentPayload.toNat)
    (hmax : maxFragmentPayload.toNat ≤ 65535) :
    (computeFragmentCount payloadSize maxFragmentPayload).map UInt8.toNat =
      if payloadSize.toNat = 0 ∨ 255 * maxFragmentPayload.toNat < payloadSize.toNat then none
      else some ((payloadSize.toNat + maxFragmentPayload.toNat - 1) /
        maxFragmentPayload.toNat) := by
  have hsize := payloadSize.toNat_lt
  have hzero : maxFragmentPayload ≠ 0 := by
    intro h
    rw [h] at hpos
    exact absurd hpos (by decide)
  have hsum : (payloadSize + maxFragmentPayload - 1).toNat =
      (payloadSize.toNat + maxFragmentPayload.toNat - 1) % 2 ^ 32 := by
    rw [UInt32.toNat_sub, UInt32.toNat_add, UInt32.toNat_one]
    omega
  have hquotient : ((payloadSize + maxFragmentPayload - 1) / maxFragmentPayload).toNat =
      (payloadSize.toNat + maxFragmentPayload.toNat - 1) % 2 ^ 32 /
        maxFragmentPayload.toNat := by
    rw [UInt32.toNat_div, hsum]
  unfold computeFragmentCount
  rw [if_neg hzero]
  by_cases hwrap : 2 ^ 32 ≤ payloadSize.toNat + maxFragmentPayload.toNat - 1
  · -- The wrapped sum is below the maximum, so that the quotient is zero.
    have hlow : (payloadSize + maxFragmentPayload - 1) / maxFragmentPayload = 0 := by
      apply UInt32.toNat.inj
      rw [hquotient]
      apply Nat.div_eq_of_lt
      omega
    have hmany : payloadSize.toNat = 0 ∨
        255 * maxFragmentPayload.toNat < payloadSize.toNat := by omega
    rw [if_pos hmany]
    change Option.map UInt8.toNat (if _ then none else _) = none
    rw [if_pos (Or.inl hlow)]
    rfl
  · rw [Nat.mod_eq_of_lt (by omega)] at hquotient
    have hcount : ((payloadSize + maxFragmentPayload - 1) / maxFragmentPayload = 0 ∨
        255 < (payloadSize + maxFragmentPayload - 1) / maxFragmentPayload) ↔
        (payloadSize.toNat = 0 ∨ 255 * maxFragmentPayload.toNat < payloadSize.toNat) := by
      rw [← UInt32.toNat_inj, UInt32.lt_iff_toNat_lt, hquotient]
      have hsmall : (payloadSize.toNat + maxFragmentPayload.toNat - 1) /
          maxFragmentPayload.toNat = 0 ↔ payloadSize.toNat = 0 := by
        rw [Nat.div_eq_zero_iff]
        omega
      have hlarge : 255 < (payloadSize.toNat + maxFragmentPayload.toNat - 1) /
          maxFragmentPayload.toNat ↔ 255 * maxFragmentPayload.toNat < payloadSize.toNat := by
        rw [Nat.lt_iff_add_one_le, Nat.le_div_iff_mul_le hpos]
        omega
      exact or_congr hsmall hlarge
    by_cases hfails : payloadSize.toNat = 0 ∨
        255 * maxFragmentPayload.toNat < payloadSize.toNat
    · rw [if_pos hfails]
      change Option.map UInt8.toNat (if _ then none else _) = none
      rw [if_pos (hcount.mpr hfails)]
      rfl
    · rw [if_neg hfails]
      change Option.map UInt8.toNat (if _ then none else _) = some _
      rw [if_neg fun h => hfails (hcount.mp h), Option.map_some, UInt32.toNat_toUInt8,
        hquotient, Nat.mod_eq_of_lt]
      rw [Nat.div_lt_iff_lt_mul hpos]
      omega

theorem computeFragmentCount_bounds {payloadSize : UInt32} (hpos : 0 < maxFragmentPayload.toNat)
    (hmax : maxFragmentPayload.toNat ≤ 65535) {count : UInt8}
    (h : computeFragmentCount payloadSize maxFragmentPayload = some count) :
    0 < payloadSize.toNat ∧ payloadSize.toNat ≤ count.toNat * maxFragmentPayload.toNat ∧
      (count.toNat - 1) * maxFragmentPayload.toNat < payloadSize.toNat := by
  have hcount := computeFragmentCount_toNat payloadSize hpos hmax
  rw [h, Option.map_some] at hcount
  by_cases hfails : payloadSize.toNat = 0 ∨
      255 * maxFragmentPayload.toNat < payloadSize.toNat
  · rw [if_pos hfails] at hcount
    cases hcount
  rw [if_neg hfails, Option.some.injEq] at hcount
  have hupper := Nat.lt_div_mul_add hpos
    (a := payloadSize.toNat + maxFragmentPayload.toNat - 1)
  have hlower := Nat.div_mul_le_self (payloadSize.toNat + maxFragmentPayload.toNat - 1)
    maxFragmentPayload.toNat
  rw [← hcount] at hupper hlower
  rw [Nat.sub_mul, Nat.one_mul]
  omega

/-- The fragment of an index below the count starts at the full fragments before it. -/
theorem buildFragmentPlan_of_lt {payloadSize : UInt32} (hpos : 0 < maxFragmentPayload.toNat)
    (hmax : maxFragmentPayload.toNat ≤ 65535) {count index : UInt8}
    (h : computeFragmentCount payloadSize maxFragmentPayload = some count)
    (hindex : index < count) :
    ∃ plan, buildFragmentPlan payloadSize maxFragmentPayload index = some plan ∧
      plan.fragmentCount = count ∧ plan.fragmentIndex = index ∧
      plan.payloadOffset.toNat = index.toNat * maxFragmentPayload.toNat ∧
      plan.fragmentPayloadLength.toNat =
        min (payloadSize.toNat - index.toNat * maxFragmentPayload.toNat)
          maxFragmentPayload.toNat ∧
      index.toNat * maxFragmentPayload.toNat < payloadSize.toNat := by
  obtain ⟨-, -, hlast⟩ := computeFragmentCount_bounds hpos hmax h
  rw [UInt8.lt_iff_toNat_lt] at hindex
  have hbefore : index.toNat * maxFragmentPayload.toNat < payloadSize.toNat := by
    have hmono := Nat.mul_le_mul_right maxFragmentPayload.toNat
      (show index.toNat ≤ count.toNat - 1 by omega)
    omega
  have hsize := payloadSize.toNat_lt
  have hoffset : (index.toUInt32 * maxFragmentPayload).toNat =
      index.toNat * maxFragmentPayload.toNat := by
    rw [UInt32.toNat_mul, UInt8.toNat_toUInt32, Nat.mod_eq_of_lt (by omega)]
  have hremaining : (payloadSize - index.toUInt32 * maxFragmentPayload).toNat =
      payloadSize.toNat - index.toNat * maxFragmentPayload.toNat := by
    rw [UInt32.toNat_sub_of_le, hoffset]
    rw [UInt32.le_iff_toNat_le, hoffset]
    omega
  have hlen : (if maxFragmentPayload < payloadSize - index.toUInt32 * maxFragmentPayload
      then maxFragmentPayload else payloadSize - index.toUInt32 * maxFragmentPayload).toNat =
      min (payloadSize.toNat - index.toNat * maxFragmentPayload.toNat)
        maxFragmentPayload.toNat := by
    rw [apply_ite UInt32.toNat, hremaining]
    simp only [UInt32.lt_iff_toNat_lt, hremaining]
    split <;> omega
  have hlt : index.toUInt32 * maxFragmentPayload < payloadSize := by
    rw [UInt32.lt_iff_toNat_lt, hoffset]
    exact hbefore
  unfold buildFragmentPlan
  rw [h]
  simp only [UInt8.le_iff_toNat_le, Nat.not_le.mpr hindex, hlt, ↓reduceIte]
  rw [if_neg]
  · refine ⟨_, rfl, rfl, rfl, hoffset, ?_, hbefore⟩
    change (UInt32.toUInt16 _).toNat = _
    rw [UInt32.toNat_toUInt16, hlen, Nat.mod_eq_of_lt (by omega)]
  · rw [UInt32.lt_iff_toNat_lt, hlen]
    change ¬(65535 < _)
    omega

theorem buildFragmentPlan_isSome {payloadSize : UInt32} (hpos : 0 < maxFragmentPayload.toNat)
    (hmax : maxFragmentPayload.toNat ≤ 65535) {count : UInt8}
    (h : computeFragmentCount payloadSize maxFragmentPayload = some count) (index : UInt8) :
    (buildFragmentPlan payloadSize maxFragmentPayload index).isSome = true ↔ index < count := by
  by_cases hindex : index < count
  · obtain ⟨plan, hplan, -⟩ := buildFragmentPlan_of_lt hpos hmax h hindex
    simp [hplan, hindex]
  · have hle : count ≤ index := UInt8.not_lt.mp hindex
    unfold buildFragmentPlan
    rw [h]
    simp [hle]

/-- The plans of a payload are `count` fragments that tile it, and no fewer would do. -/
structure Tiles (payloadSize maxFragmentPayload : UInt32) (count : UInt8) : Prop where
  succeeds : ∀ index,
    (buildFragmentPlan payloadSize maxFragmentPayload index).isSome = true ↔ index < count
  numbered : ∀ index plan, buildFragmentPlan payloadSize maxFragmentPayload index = some plan →
    plan.fragmentCount = count ∧ plan.fragmentIndex = index
  sized : ∀ index plan, buildFragmentPlan payloadSize maxFragmentPayload index = some plan →
    0 < plan.fragmentPayloadLength.toNat ∧
      plan.fragmentPayloadLength.toNat ≤ maxFragmentPayload.toNat
  first : ∀ plan, buildFragmentPlan payloadSize maxFragmentPayload 0 = some plan →
    plan.payloadOffset.toNat = 0
  next : ∀ index index' plan plan',
    buildFragmentPlan payloadSize maxFragmentPayload index = some plan →
    buildFragmentPlan payloadSize maxFragmentPayload index' = some plan' →
    index'.toNat = index.toNat + 1 →
    plan'.payloadOffset.toNat = plan.payloadOffset.toNat + plan.fragmentPayloadLength.toNat
  covers : ∀ position, position < payloadSize.toNat ↔ ∃ index plan,
    buildFragmentPlan payloadSize maxFragmentPayload index = some plan ∧ plan.Covers position
  disjoint : ∀ index index' plan plan' position,
    buildFragmentPlan payloadSize maxFragmentPayload index = some plan →
    buildFragmentPlan payloadSize maxFragmentPayload index' = some plan' →
    plan.Covers position → plan'.Covers position → index = index'
  enough : ∃ lengths, Splits payloadSize.toNat maxFragmentPayload.toNat lengths ∧
    lengths.length = count.toNat
  least : ∀ lengths, Splits payloadSize.toNat maxFragmentPayload.toNat lengths →
    count.toNat ≤ lengths.length

section
variable {payloadSize maxFragmentPayload : UInt32} (hpos : 0 < maxFragmentPayload.toNat)
  (hmax : maxFragmentPayload.toNat ≤ 65535) {count : UInt8}
  (h : computeFragmentCount payloadSize maxFragmentPayload = some count)
include hpos hmax h

theorem buildFragmentPlan_fields {index : UInt8} {plan : FragmentPlan}
    (hplan : buildFragmentPlan payloadSize maxFragmentPayload index = some plan) :
    plan.fragmentCount = count ∧ plan.fragmentIndex = index ∧ index < count ∧
      plan.payloadOffset.toNat = index.toNat * maxFragmentPayload.toNat ∧
      plan.fragmentPayloadLength.toNat =
        min (payloadSize.toNat - index.toNat * maxFragmentPayload.toNat)
          maxFragmentPayload.toNat ∧
      index.toNat * maxFragmentPayload.toNat < payloadSize.toNat := by
  have hindex : index < count := by
    rw [← buildFragmentPlan_isSome hpos hmax h, hplan]
    rfl
  obtain ⟨plan', hplan', hcount, hnumber, hrest⟩ :=
    buildFragmentPlan_of_lt hpos hmax h hindex
  have heq : plan' = plan := by
    rw [hplan] at hplan'
    exact (Option.some.inj hplan').symm
  rw [heq] at hcount hnumber hrest
  exact ⟨hcount, hnumber, hindex, hrest⟩

theorem least_of_count {lengths : List Nat}
    (hsplits : Splits payloadSize.toNat maxFragmentPayload.toNat lengths) :
    count.toNat ≤ lengths.length := by
  obtain ⟨hsize, -, hlast⟩ := computeFragmentCount_bounds hpos hmax h
  have hfit := hsplits.size_le
  have hlt : (count.toNat - 1) * maxFragmentPayload.toNat <
      lengths.length * maxFragmentPayload.toNat := by omega
  have hcount := Nat.lt_of_mul_lt_mul_right hlt
  omega

theorem covers_of_lt {position : Nat} (hposition : position < payloadSize.toNat) :
    ∃ index plan, buildFragmentPlan payloadSize maxFragmentPayload index = some plan ∧
      plan.Covers position := by
  obtain ⟨-, hfit, -⟩ := computeFragmentCount_bounds hpos hmax h
  have hcount := count.toNat_lt
  have hquotient : position / maxFragmentPayload.toNat < count.toNat := by
    rw [Nat.div_lt_iff_lt_mul hpos]
    omega
  have hindex : (UInt8.ofNat (position / maxFragmentPayload.toNat)).toNat =
      position / maxFragmentPayload.toNat := by
    rw [UInt8.toNat_ofNat', Nat.mod_eq_of_lt (by omega)]
  have hbelow : UInt8.ofNat (position / maxFragmentPayload.toNat) < count := by
    rw [UInt8.lt_iff_toNat_lt, hindex]
    exact hquotient
  obtain ⟨plan, hplan, -, -, hoffset, hlen, -⟩ := buildFragmentPlan_of_lt hpos hmax h hbelow
  refine ⟨_, plan, hplan, ?_⟩
  have hlow := Nat.div_mul_le_self position maxFragmentPayload.toNat
  have hhigh := Nat.lt_div_mul_add hpos (a := position)
  rw [hindex] at hoffset hlen
  unfold FragmentPlan.Covers
  omega

theorem disjoint_of_count {index index' : UInt8} {plan plan' : FragmentPlan} {position : Nat}
    (hplan : buildFragmentPlan payloadSize maxFragmentPayload index = some plan)
    (hplan' : buildFragmentPlan payloadSize maxFragmentPayload index' = some plan')
    (hcovers : plan.Covers position) (hcovers' : plan'.Covers position) : index = index' := by
  obtain ⟨-, -, -, hoffset, hlen, -⟩ := buildFragmentPlan_fields hpos hmax h hplan
  obtain ⟨-, -, -, hoffset', hlen', -⟩ := buildFragmentPlan_fields hpos hmax h hplan'
  have hquotient : position / maxFragmentPayload.toNat = index.toNat := by
    unfold FragmentPlan.Covers at hcovers
    rw [Nat.div_eq_iff hpos]
    omega
  have hquotient' : position / maxFragmentPayload.toNat = index'.toNat := by
    unfold FragmentPlan.Covers at hcovers'
    rw [Nat.div_eq_iff hpos]
    omega
  exact UInt8.toNat.inj (hquotient.symm.trans hquotient')

theorem tiles_of_count : Tiles payloadSize maxFragmentPayload count where
  succeeds := buildFragmentPlan_isSome hpos hmax h
  numbered := by
    intro index plan hplan
    obtain ⟨hcount, hnumber, -⟩ := buildFragmentPlan_fields hpos hmax h hplan
    exact ⟨hcount, hnumber⟩
  sized := by
    intro index plan hplan
    obtain ⟨-, -, -, -, hlen, hstart⟩ := buildFragmentPlan_fields hpos hmax h hplan
    omega
  first := by
    intro plan hplan
    obtain ⟨-, -, -, hoffset, -⟩ := buildFragmentPlan_fields hpos hmax h hplan
    simpa using hoffset
  next := by
    intro index index' plan plan' hplan hplan' hnext
    obtain ⟨-, -, -, hoffset, hlen, -⟩ := buildFragmentPlan_fields hpos hmax h hplan
    obtain ⟨-, -, -, hoffset', -, hstart'⟩ := buildFragmentPlan_fields hpos hmax h hplan'
    rw [hnext, Nat.add_mul, Nat.one_mul] at hoffset' hstart'
    omega
  covers := by
    intro position
    constructor
    · exact covers_of_lt hpos hmax h
    · intro hcovers
      obtain ⟨index, plan, hplan, hlow, hhigh⟩ := hcovers
      obtain ⟨-, -, -, hoffset, hlen, -⟩ := buildFragmentPlan_fields hpos hmax h hplan
      omega
  disjoint := by
    intro index index' plan plan' position hplan hplan'
    exact disjoint_of_count hpos hmax h hplan hplan'
  enough := by
    obtain ⟨-, hfit, -⟩ := computeFragmentCount_bounds hpos hmax h
    obtain ⟨lengths, hsplits, hlength⟩ := splits_of_le hpos count.toNat hfit
    exact ⟨lengths, hsplits, Nat.le_antisymm hlength (least_of_count hpos hmax h hsplits)⟩
  least := by
    intro lengths
    exact least_of_count hpos hmax h

end

theorem computeFragmentCount_eq_none {payloadSize : UInt32} (hpos : 0 < maxFragmentPayload.toNat)
    (hmax : maxFragmentPayload.toNat ≤ 65535) :
    computeFragmentCount payloadSize maxFragmentPayload = none ↔
      payloadSize.toNat = 0 ∨ ∀ lengths,
        Splits payloadSize.toNat maxFragmentPayload.toNat lengths → 255 < lengths.length := by
  have hcount := computeFragmentCount_toNat payloadSize hpos hmax
  rw [← Option.map_eq_none_iff (f := UInt8.toNat), hcount]
  have hmany : 255 * maxFragmentPayload.toNat < payloadSize.toNat ↔ ∀ lengths,
      Splits payloadSize.toNat maxFragmentPayload.toNat lengths → 255 < lengths.length := by
    constructor
    · intro hlarge lengths hsplits
      have hfit := hsplits.size_le
      exact Nat.lt_of_mul_lt_mul_right (Nat.lt_of_lt_of_le hlarge hfit)
    · intro hall
      refine Nat.lt_of_not_le fun hle => ?_
      obtain ⟨lengths, hsplits, hlength⟩ := splits_of_le hpos 255 hle
      have hmore := hall lengths hsplits
      omega
  rw [← hmany]
  by_cases hfails : payloadSize.toNat = 0 ∨
      255 * maxFragmentPayload.toNat < payloadSize.toNat
  · rw [if_pos hfails]
    exact ⟨fun _ => hfails, fun _ => rfl⟩
  · rw [if_neg hfails]
    exact ⟨fun hsome => (by cases hsome), fun h => absurd h hfails⟩

/-- Either the fragments tile the payload, as few as can be, or the payload is empty or needs
more than 255 of them and no plan is built. -/
theorem fragmentPlan_tiles (payloadSize maxFragmentPayload : UInt32)
    (hpos : 1 ≤ maxFragmentPayload.toNat) (hmax : maxFragmentPayload.toNat ≤ 65535) :
    (∀ count, computeFragmentCount payloadSize maxFragmentPayload = some count →
      Tiles payloadSize maxFragmentPayload count) ∧
    (computeFragmentCount payloadSize maxFragmentPayload = none ↔
      payloadSize.toNat = 0 ∨ ∀ lengths,
        Splits payloadSize.toNat maxFragmentPayload.toNat lengths → 255 < lengths.length) ∧
    (computeFragmentCount payloadSize maxFragmentPayload = none →
      ∀ index, buildFragmentPlan payloadSize maxFragmentPayload index = none) := by
  refine ⟨fun count => tiles_of_count hpos hmax, computeFragmentCount_eq_none hpos hmax, ?_⟩
  intro hnone index
  rw [buildFragmentPlan, hnone]

/-- Seven bytes in fragments of three. -/
theorem fragmentPlan_tiles_seven : Tiles 7 3 3 ∧ buildFragmentPlan 7 3 2 =
    some { fragmentCount := 3, fragmentIndex := 2, fragmentPayloadLength := 1,
           payloadOffset := 6 } :=
  ⟨(fragmentPlan_tiles 7 3 (by decide) (by decide)).1 3 (by decide), by decide⟩

end NodeNet.Link

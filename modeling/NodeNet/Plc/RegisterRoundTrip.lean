import NodeNet.Lib.NearestFloat
import NodeNet.Plc.Service

/-! A value that is written to holding registers, and what the next poll reads from them. -/
namespace NodeNet.Plc
open NodeNet.Points NodeNet.Catalog NodeNet.Binary32

def u32ToRegisters (value : UInt32) : List UInt16 := [(value >>> 16).toUInt16, value.toUInt16]

/-- The registers that the value is transmitted in; `none` where no register is written. -/
def transmitted (modbus0 : Bool) (d : PointDefinition) (value : UInt32) : Option (List UInt16) :=
  if !isTransientSlotVariable d.id && !isOutput d || writeTarget modbus0 d ≠ .modbus then none
  else
    match d.valueType with
    | .Uint16 | .Int16 | .Enum => some [value.toUInt16]
    | .Uint32 | .Int32 | .Float => some (u32ToRegisters value)
    | _ => none

/-- The conversion to an integer type cuts toward zero. -/
def truncate (x : Rat) : Int := if x < 0 then ⌈x⌉ else ⌊x⌋

/-- The numbers of an integer type. -/
def inRange : PointValueType → Int → Bool
  | .Uint16, z => 0 ≤ z && z < 2 ^ 16
  | .Int16, z => -(2 ^ 15) ≤ z && z < 2 ^ 15
  | .Uint32, z => 0 ≤ z && z < 2 ^ 32
  | .Int32, z => -(2 ^ 31) ≤ z && z < 2 ^ 31
  | _, _ => false

/-- The number that a value of the type stands for. -/
def numberOf (type : PointValueType) (value : UInt32) : Rat :=
  match type with
  | .Uint16 => (value.toUInt16.toNat : Int)
  | .Int16 => value.toUInt16.toInt16.toInt
  | .Uint32 => (value.toNat : Int)
  | .Int32 | .Enum => value.toInt32.toInt
  | .Float => Binary32.value value.toBitVec
  | _ => 0

/-- The number that the registers' bits stand for before they are scaled. -/
def registerNumber (d : PointDefinition) (bits : UInt32) : Rat :=
  match d.valueType with
  | .Enum => bits.toUInt16.toInt16.toInt
  | .Float =>
    if (modbusRef d).registerCount < 2 then bits.toUInt16.toInt16.toInt
    else Binary32.value bits.toBitVec
  | type => numberOf type bits

/-- The float that the registers are cast to; a pair of a float point is one already. -/
def registerFloat (d : PointDefinition) (bits : UInt32) : BitVec 32 :=
  if d.valueType = .Float ∧ ¬(modbusRef d).registerCount < 2 then bits.toBitVec
  else Binary32.nearest (registerNumber d bits)

/-- The product of two floats; `none` where a factor or the product is not a finite number. -/
def applyNumericScale (value : BitVec 32) (d : PointDefinition) : Option (BitVec 32) :=
  let product := Binary32.nearest (Binary32.value value * Binary32.value d.scale.toBitVec)
  if Binary32.isFinite value && Binary32.isFinite d.scale.toBitVec && Binary32.isFinite product then
    some product
  else none

/-- The scaled float in the type; `none` where the conversion is undefined. -/
def scaledNumber (type : PointValueType) (scaled : BitVec 32) : Option Rat :=
  match type with
  | .Float => some (Binary32.value scaled)
  | type =>
    if inRange type (truncate (Binary32.value scaled)) then
      some (truncate (Binary32.value scaled))
    else none

/-- What the registers are decoded to. -/
def readBack (d : PointDefinition) (regs : List UInt16) : Option Rat :=
  (registerBits d regs).bind fun bits =>
    match d.valueType with
    | .Enum => some (registerNumber d bits)
    | type => (applyNumericScale (registerFloat d bits) d).bind (scaledNumber type)

def appliedScale (d : PointDefinition) : Rat :=
  if d.valueType = .Enum then 1 else Binary32.value d.scale.toBitVec

/-- The scale is a number, and some contents of the registers stand for the value under it. -/
structure Representable (d : PointDefinition) (value : UInt32) : Prop where
  scale : d.valueType ≠ .Enum → Binary32.isFinite d.scale.toBitVec = true
  finite : d.valueType = .Float → Binary32.isFinite value.toBitVec = true
  held : ∃ bits : UInt32, (d.valueType = .Float → Binary32.isFinite bits.toBitVec = true) ∧
    registerNumber d bits * appliedScale d = numberOf d.valueType value

theorem truncate_intCast (n : Int) : truncate n = n := by
  rw [truncate]
  split <;> simp

theorem eq_of_kept {n r : Int} {x : Rat} (hn : 0 < n) (hsquare : (r : Rat) * x = n * n)
    (hlow : (n : Rat) ≤ x) (hhigh : x < n + 1) : r = n := by
  have hn' : (0 : Rat) < n := Int.cast_pos.mpr hn
  have hr : (0 : Rat) < r := by
    by_contra hnot
    nlinarith
  have hle : r ≤ n := by
    have hle' : (r : Rat) * n ≤ n * n := by nlinarith
    exact Int.cast_le.mp (le_of_mul_le_mul_right hle' hn')
  have hlt : n * n < r * (n + 1) := by
    have hlt' : (n : Rat) * n < r * (n + 1) := by nlinarith
    exact_mod_cast hlt'
  by_contra hne
  have hless : r ≤ n - 1 := by omega
  nlinarith

/-- An integer that is another one scaled is kept by one more scaling only if it is zero or not
scaled at all. -/
theorem truncate_scaled_iff {n r : Int} {scale : Rat} (h : (r : Rat) * scale = n) :
    truncate (n * scale) = n ↔ n = 0 ∨ scale = 1 := by
  constructor
  · intro hkept
    by_cases hzero : n = 0
    · exact .inl hzero
    refine .inr ?_
    have hsquare : (r : Rat) * (n * scale) = n * n := by
      rw [← h]
      ring
    generalize hx : (n : Rat) * scale = x at hkept hsquare
    rw [truncate] at hkept
    have hrn : r = n := by
      obtain hneg | hpos := Int.lt_or_gt_of_ne hzero
      · have hneg' : (n : Rat) + 1 ≤ 0 := by exact_mod_cast hneg
        split at hkept
        case isTrue hx0 =>
          obtain ⟨hlow, hhigh⟩ := Int.ceil_eq_iff.mp hkept
          have hkeeps := @eq_of_kept (-n) (-r) (-x) (by omega) (by push_cast; linarith)
            (by push_cast; linarith) (by push_cast; linarith)
          omega
        case isFalse hx0 =>
          obtain ⟨hlow, hhigh⟩ := Int.floor_eq_iff.mp hkept
          linarith
      · have hpos' : (1 : Rat) ≤ n := by exact_mod_cast hpos
        split at hkept
        case isTrue hx0 =>
          obtain ⟨hlow, hhigh⟩ := Int.ceil_eq_iff.mp hkept
          linarith
        case isFalse hx0 =>
          obtain ⟨hlow, hhigh⟩ := Int.floor_eq_iff.mp hkept
          exact eq_of_kept hpos hsquare hlow hhigh
    subst hrn
    have hne : (r : Rat) ≠ 0 := Int.cast_ne_zero.mpr hzero
    exact mul_left_cancel₀ hne (h.trans (mul_one _).symm)
  · intro h
    obtain rfl | rfl := h
    · simpa using truncate_intCast 0
    · rw [mul_one, truncate_intCast]

theorem registers_u32 (value : UInt32) :
    ((value >>> 16).toUInt16.toUInt32 <<< 16) ||| value.toUInt16.toUInt32 = value := by
  refine UInt32.toNat_inj.mp ?_
  have hlt := value.toNat_lt
  have hlow : value.toNat % 65536 < 2 ^ 16 := Nat.mod_lt _ (by decide)
  have hhigh : value.toNat / 65536 % 65536 = value.toNat / 65536 := Nat.mod_eq_of_lt (by omega)
  simp only [UInt32.toNat_or, UInt32.toNat_shiftLeft, UInt32.toNat_shiftRight,
    UInt16.toNat_toUInt32, UInt32.toNat_toUInt16]
  rw [show (16 : UInt32).toNat % 32 = 16 from rfl, Nat.shiftRight_eq_div_pow, hhigh,
    Nat.mod_eq_of_lt, ← Nat.shiftLeft_add_eq_or_of_lt hlow, Nat.shiftLeft_eq]
  · omega
  · rw [Nat.shiftLeft_eq]
    omega

variable {d : PointDefinition} {value : UInt32}

theorem writes_of_transmitted {modbus0 : Bool} {regs : List UInt16}
    (h : transmitted modbus0 d value = some regs) :
    takesValue d.valueType (modbusRef d).toModbusRegisters = true := by
  rw [transmitted] at h
  split at h
  · cases h
  · rename_i hguard
    simp only [Bool.or_eq_true, decide_eq_true_eq, not_or, Decidable.not_not] at hguard
    have htarget := hguard.2
    rw [writeTarget] at htarget
    split at htarget
    · rename_i hwrites
      simp only [writesModbus, Bool.and_eq_true] at hwrites
      exact hwrites.2.1.2
    · split at htarget <;> cases htarget

theorem registerCount_of_takes {r : ModbusRegisters}
    (h : (r.table = .HoldingRegisters && r.registerCount = 2) = true) : ¬r.registerCount < 2 := by
  simp only [Bool.and_eq_true, decide_eq_true_eq] at h
  rw [h.2]
  decide

theorem registerBits_u32 (hcount : ¬(modbusRef d).registerCount < 2)
    (htype : d.valueType = .Uint32 ∨ d.valueType = .Int32 ∨ d.valueType = .Float) (value : UInt32) :
    registerBits d (u32ToRegisters value) = some value := by
  obtain htype | htype | htype := htype <;>
    simp only [registerBits, u32ToRegisters, htype, if_neg hcount, List.head?_cons,
      Option.map_some, registers_u32]

theorem registerBits_of_transmitted {modbus0 : Bool} {regs : List UInt16}
    (h : transmitted modbus0 d value = some regs) : ∃ bits, registerBits d regs = some bits ∧
      registerNumber d bits = numberOf (if d.valueType = .Enum then .Int16 else d.valueType) value ∧
      (d.valueType = .Float → registerFloat d bits = value.toBitVec) := by
  have htakes := writes_of_transmitted h
  rw [transmitted] at h
  split at h
  · cases h
  cases htype : d.valueType <;> rw [htype] at h htakes
  case Uint16 | Int16 | Enum =>
    obtain rfl := Option.some.inj h
    refine ⟨value.toUInt16.toUInt32, by simp only [registerBits, htype], ?_, fun h => by cases h⟩
    simp only [registerNumber, htype, numberOf, UInt16.toUInt16_toUInt32, reduceCtorEq, if_true,
      if_false]
  case Uint32 | Int32 =>
    obtain rfl := Option.some.inj h
    refine ⟨value, registerBits_u32 (registerCount_of_takes htakes) (by simp [htype]) value, ?_,
      fun h => by cases h⟩
    simp [registerNumber, htype, numberOf]
  case Float =>
    obtain rfl := Option.some.inj h
    have hcount := registerCount_of_takes htakes
    refine ⟨value, registerBits_u32 hcount (by simp [htype]) value, ?_, fun _ => ?_⟩
    · simp [registerNumber, htype, numberOf, hcount]
    · exact if_pos ⟨htype, hcount⟩
  all_goals cases h

theorem low_half_of_fits {low : UInt16} (h : low.toInt16.toInt = value.toInt32.toInt) :
    value.toUInt16.toInt16.toInt = value.toInt32.toInt := by
  have hlow := low.toInt16.toInt_lt
  have hlow' := low.toInt16.le_toInt
  rw [h] at hlow hlow'
  change (value.toBitVec.setWidth 16).toInt = value.toBitVec.toInt
  change value.toBitVec.toInt < 2 ^ 15 at hlow
  change -2 ^ 15 ≤ value.toBitVec.toInt at hlow'
  have hnat := value.toBitVec.isLt
  rw [BitVec.toInt_eq_toNat_cond] at hlow hlow' ⊢
  rw [BitVec.toInt_eq_toNat_cond, BitVec.toNat_setWidth]
  split at hlow <;> split <;> simp_all <;> omega

def isScaledInteger (type : PointValueType) : Bool :=
  type = .Uint16 || type = .Int16 || type = .Uint32 || type = .Int32

theorem numberOf_inRange {type : PointValueType} (h : isScaledInteger type = true)
    (value : UInt32) : ∃ n : Int, numberOf type value = n ∧ inRange type n = true := by
  cases type
  case Uint16 =>
    refine ⟨_, rfl, ?_⟩
    have hlt := value.toUInt16.toNat_lt
    simp only [inRange, Bool.and_eq_true, decide_eq_true_eq]
    omega
  case Int16 =>
    refine ⟨_, rfl, ?_⟩
    have hlt := value.toUInt16.toInt16.toInt_lt
    have hle := value.toUInt16.toInt16.le_toInt
    simp only [inRange, Bool.and_eq_true, decide_eq_true_eq]
    omega
  case Uint32 =>
    refine ⟨_, rfl, ?_⟩
    have hlt := value.toNat_lt
    simp only [inRange, Bool.and_eq_true, decide_eq_true_eq]
    omega
  case Int32 =>
    refine ⟨_, rfl, ?_⟩
    have hlt := value.toInt32.toInt_lt
    have hle := value.toInt32.le_toInt
    simp only [inRange, Bool.and_eq_true, decide_eq_true_eq]
    omega
  all_goals cases h

theorem registerNumber_integer (h : isScaledInteger d.valueType = true) (bits : UInt32) :
    registerNumber d bits = numberOf d.valueType bits := by
  rw [registerNumber]
  cases htype : d.valueType <;> rw [htype] at h <;> first | rfl | cases h

theorem abs_le_of_inRange {type : PointValueType} {n : Int} (h : inRange type n = true) :
    |(n : Rat)| ≤ (2 ^ 24 - 1) * 2 ^ (104 : Int) := by
  have hle : |n| ≤ 2 ^ 32 := by
    rw [abs_le]
    cases type <;> simp only [inRange, Bool.and_eq_true, decide_eq_true_eq] at h <;> first
      | omega
      | cases h
  have hcast : |(n : Rat)| ≤ (2 ^ 32 : Int) := by exact_mod_cast hle
  refine hcast.trans ?_
  norm_num

theorem bind_scaled_iff {type : PointValueType} (h : isScaledInteger type = true) {c : BitVec 32}
    (hc : isFinite c = true) (hs : isFinite d.scale.toBitVec = true) (n : Int) :
    (applyNumericScale c d).bind (scaledNumber type) = some (n : Rat) ↔
      isFinite (nearest (Binary32.value c * Binary32.value d.scale.toBitVec)) = true ∧
        truncate (Binary32.value (nearest (Binary32.value c * Binary32.value d.scale.toBitVec))) =
          n ∧ inRange type n = true := by
  rw [applyNumericScale, hc, hs]
  simp only [Bool.true_and]
  split
  case isFalse hnot => simp [hnot]
  case isTrue hfinite =>
    have hscaled (y : BitVec 32) : scaledNumber type y =
        if inRange type (truncate (Binary32.value y)) then some (truncate (Binary32.value y) : Rat)
        else none := by
      cases type <;> first | rfl | cases h
    rw [Option.bind_some, hscaled]
    constructor
    · intro hsame
      split at hsame
      · rename_i hrange
        have htruncate := Int.cast_injective (Option.some.inj hsame)
        exact ⟨hfinite, htruncate, htruncate ▸ hrange⟩
      · cases hsame
    · rintro ⟨-, htruncate, hrange⟩
      rw [htruncate, if_pos hrange]

theorem floor_of_truncate {x : Rat} {n : Int} (hn : 0 < n) (h : truncate x = n) : ⌊x⌋ = n := by
  rw [truncate] at h
  split at h
  · rename_i hneg
    have hle : ⌈x⌉ ≤ 0 := Int.ceil_le.mpr (by exact_mod_cast hneg.le)
    omega
  · exact h

theorem truncate_neg (x : Rat) : truncate (-x) = -truncate x := by
  obtain hneg | rfl | hpos := lt_trichotomy x 0
  · rw [truncate, truncate, if_neg (by linarith), if_pos hneg, Int.floor_neg]
  · simp [truncate]
  · rw [truncate, truncate, if_pos (by linarith), if_neg (by linarith), Int.ceil_neg]

theorem truncate_of_floor {x : Rat} {n : Int} (hn : 0 < n) (hlow : n ≤ x) (hhigh : x < n + 1) :
    truncate x = n := by
  have hn' : (0 : Rat) < n := Int.cast_pos.mpr hn
  rw [truncate, if_neg (by linarith)]
  exact Int.floor_eq_iff.mpr ⟨hlow, hhigh⟩

theorem integer_of_kept {n r : Int} {c s y : BitVec 32} (hn : n ≠ 0) (hc : Nearest n c)
    (hlt : |Binary32.value c * Binary32.value s| < 2 ^ 128)
    (hy : Nearest (Binary32.value c * Binary32.value s) y)
    (htruncate : truncate (Binary32.value y) = n) (hheld : r * Binary32.value s = n) :
    IsFloat n ∧ Binary32.value s = 1 := by
  obtain ⟨hlow, hhigh⟩ := abs_lt.mp hlt
  obtain hneg | hpos := Int.lt_or_gt_of_ne hn
  · obtain ⟨c', hcvalue, hc'⟩ := hc.neg
    obtain ⟨y', hyvalue, hy'⟩ := hy.neg
    rw [← neg_mul, ← hcvalue] at hy'
    rw [← Int.cast_neg] at hc'
    have hkept := integer_kept (by omega) hc' (by rw [hcvalue, neg_mul]; linarith) hy'
      (floor_of_truncate (by omega) (by rw [hyvalue, truncate_neg, htruncate])) fun hle hnext => ?_
    · obtain ⟨⟨raw, hfinite, hvalue⟩, hone⟩ := hkept
      obtain ⟨raw', hfinite', hvalue', -⟩ := exists_neg raw
      refine ⟨⟨raw', hfinite'.trans hfinite, ?_⟩, hone⟩
      rw [hvalue', hvalue, Int.cast_neg, neg_neg]
    · have hsame := truncate_of_floor (by omega) hle hnext
      rw [Int.cast_neg, neg_mul, truncate_neg, neg_inj] at hsame
      exact ((truncate_scaled_iff hheld).mp hsame).resolve_left hn
  · exact integer_kept hpos hc hhigh hy (floor_of_truncate hpos htruncate) fun hle hnext =>
      ((truncate_scaled_iff hheld).mp (truncate_of_floor hpos hle hnext)).resolve_left hn

/-- A scaled integer is read back as it was written only if it is zero, or a float that is not
scaled at all. -/
theorem scaledInteger_kept_iff (h : isScaledInteger d.valueType = true)
    (hvalue : Representable d value) :
    (applyNumericScale (nearest (numberOf d.valueType value)) d).bind (scaledNumber d.valueType) =
        some (numberOf d.valueType value) ↔
      numberOf d.valueType value = 0 ∨
        IsFloat (numberOf d.valueType value) ∧ Binary32.value d.scale.toBitVec = 1 := by
  obtain ⟨n, hn, hrange⟩ := numberOf_inRange h value
  obtain ⟨bits, -, hheld⟩ := hvalue.held
  obtain ⟨r, hr, -⟩ := numberOf_inRange h bits
  have hne : d.valueType ≠ .Enum := fun henum => by
    rw [henum] at h
    cases h
  rw [registerNumber_integer h, hr, appliedScale, if_neg hne, hn] at hheld
  have hc := isFinite_nearest (abs_le_of_inRange hrange)
  rw [hn, bind_scaled_iff h hc (hvalue.scale hne)]
  constructor
  · rintro ⟨hfinite, htruncate, -⟩
    by_cases hzero : n = 0
    · exact .inl (by rw [hzero]; rfl)
    · exact .inr (integer_of_kept hzero (nearest_spec hc) (lt_of_isFinite_nearest hfinite)
        (nearest_spec hfinite) htruncate hheld)
  · intro hcond
    have hfloat : IsFloat n ∧ (n : Rat) * Binary32.value d.scale.toBitVec = n := by
      obtain hzero | ⟨hfloat, hone⟩ := hcond
      · rw [hzero, zero_mul]
        exact ⟨isFloat_zero, rfl⟩
      · exact ⟨hfloat, by rw [hone, mul_one]⟩
    obtain ⟨hfinite, hkept⟩ := nearest_of_isFloat hfloat.1
    rw [hkept, hfloat.2, hkept, truncate_intCast]
    exact ⟨hfinite, rfl, hrange⟩

theorem float_kept_iff {v r : BitVec 32} (hv : isFinite v = true)
    (hs : isFinite d.scale.toBitVec = true)
    (hheld : Binary32.value r * Binary32.value d.scale.toBitVec = Binary32.value v) :
    (applyNumericScale v d).bind (scaledNumber .Float) = some (Binary32.value v) ↔
      Binary32.value v = 0 ∨ Binary32.value d.scale.toBitVec = 1 := by
  rw [applyNumericScale, hv, hs]
  simp only [Bool.true_and]
  constructor
  · intro hsame
    split at hsame
    case isFalse => cases hsame
    case isTrue hfinite =>
      have hkept : Binary32.value (nearest _) = Binary32.value v := Option.some.inj hsame
      have hy := nearest_spec hfinite
      obtain ⟨hlow, hhigh⟩ := abs_lt.mp (lt_of_isFinite_nearest hfinite)
      obtain hneg | hzero | hpos := lt_trichotomy (Binary32.value v) 0
      · obtain ⟨v', hfinite', hvalue, -⟩ := exists_neg v
        obtain ⟨r', -, hrvalue, -⟩ := exists_neg r
        obtain ⟨y', hyvalue, hy'⟩ := hy.neg
        rw [← neg_mul, ← hvalue] at hy'
        refine .inr (scale_eq_one_of_kept (by linarith) hy' (by rw [hyvalue, hkept, hvalue])
          (hfinite'.trans hv) (by rw [hvalue, neg_mul]; linarith) fun _ => ⟨r', ?_⟩)
        rw [hrvalue, neg_mul, hheld, hvalue]
      · exact .inl hzero
      · exact .inr (scale_eq_one_of_kept hpos hy hkept hv hhigh fun _ => ⟨r, hheld⟩)
  · intro hcond
    have hkept : Binary32.value v * Binary32.value d.scale.toBitVec = Binary32.value v := by
      obtain hzero | hone := hcond
      · rw [hzero, zero_mul]
      · rw [hone, mul_one]
    obtain ⟨hfinite, hvalue⟩ := nearest_of_isFloat ⟨v, hv, rfl⟩
    rw [hkept, if_pos hfinite, Option.bind_some, scaledNumber, hvalue]

/-- A value that the registers can stand for is read back as it was written exactly where nothing is
scaled, where the value is zero, and where it is a float and the scale is one. -/
theorem readBack_iff {modbus0 : Bool} {d : PointDefinition} {value : UInt32} {regs : List UInt16}
    (h : transmitted modbus0 d value = some regs) (hvalue : Representable d value) :
    readBack d regs = some (numberOf d.valueType value) ↔
      d.valueType = .Enum ∨ numberOf d.valueType value = 0 ∨
        IsFloat (numberOf d.valueType value) ∧ Binary32.value d.scale.toBitVec = 1 := by
  obtain ⟨bits, hbits, hnumber, hfloat⟩ := registerBits_of_transmitted h
  rw [readBack, hbits, Option.bind_some]
  cases htype : d.valueType
  case Uint16 | Int16 | Uint32 | Int32 =>
    have hkept := scaledInteger_kept_iff (by rw [htype]; rfl) hvalue
    rw [htype] at hkept hnumber
    have hcast : registerFloat d bits = nearest (numberOf d.valueType value) := by
      rw [registerFloat, if_neg (by simp [htype]), hnumber, htype]
      rfl
    rw [htype] at hcast
    simpa [hcast] using hkept
  case Float =>
    obtain ⟨r, -, hheld⟩ := hvalue.held
    have htakes := writes_of_transmitted h
    rw [htype] at htakes
    simp only [registerNumber, htype, if_neg (registerCount_of_takes htakes), appliedScale,
      reduceCtorEq, if_false, numberOf] at hheld
    have hkept := float_kept_iff (hvalue.finite htype) (hvalue.scale (by simp [htype])) hheld
    have hexact : IsFloat (Binary32.value value.toBitVec) := ⟨_, hvalue.finite htype, rfl⟩
    simpa [hfloat htype, numberOf, hexact] using hkept
  case Enum =>
    obtain ⟨r, -, hheld⟩ := hvalue.held
    simp only [registerNumber, htype, appliedScale, if_true, mul_one, numberOf, Int.cast_inj]
      at hheld
    have hlow := low_half_of_fits hheld
    simp [hnumber, htype, numberOf, hlow]
  all_goals
    rw [transmitted, htype] at h
    split at h <;> cases h

/-- A setpoint in holding registers of slave 1. -/
def setpoint (type : PointValueType) (registerCount : UInt8) (scale : UInt32) : PointDefinition :=
  ⟨⟨ascii "io", ascii "modbus", ascii "setpoint"⟩, [], .Modbus, .Output, type, 1000, 3000, 0,
    scale, [], 0, [0, 1, 0, 0, registerCount, 3, 3] ++ List.replicate 73 0⟩

/-- With the scale 2 the command 10 is transmitted as 10 and read as 20; with the scale 1 a pair of
registers loses what a float does not hold. -/
theorem setpoint_changed :
    (transmitted true (setpoint .Uint16 1 0x40000000) 10 = some [10] ∧
      Representable (setpoint .Uint16 1 0x40000000) 10 ∧
      readBack (setpoint .Uint16 1 0x40000000) [10] ≠ some (numberOf .Uint16 10)) ∧
    transmitted true (setpoint .Uint32 2 0x3F800000) 16777217 = some [256, 1] ∧
      Representable (setpoint .Uint32 2 0x3F800000) 16777217 ∧
      readBack (setpoint .Uint32 2 0x3F800000) [256, 1] = some (numberOf .Uint32 16777216) := by
  refine ⟨⟨by decide, ⟨fun _ => by decide, nofun, 5, nofun, by decide +kernel⟩, by decide +kernel⟩,
    by decide, ⟨fun _ => by decide, nofun, 16777217, nofun, by decide +kernel⟩, by decide +kernel⟩

theorem setpoint_readBack :
    readBack (setpoint .Uint16 1 0x3F800000) [10] = some (numberOf .Uint16 10) :=
  (readBack_iff (by decide : transmitted true (setpoint .Uint16 1 0x3F800000) 10 = some [10])
    ⟨fun _ => by decide, nofun, 10, nofun, by decide +kernel⟩).mpr
    (.inr (.inr ⟨isFloat_natCast (by decide : 10 ≤ 2 ^ 24), by decide +kernel⟩))

end NodeNet.Plc

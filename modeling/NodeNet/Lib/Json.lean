import NodeNet.Lib.Text

/-! JSON documents as a library holds them, and reads of their values that fall back to a default. -/
namespace NodeNet.Json

inductive Value where
  | null
  | bool (b : Bool)
  | integer (n : Int)
  /-- The bits of a binary32 number. -/
  | float (bits : UInt32)
  | text (t : Text)
  | array (items : List Value)
  | object (members : List (Text × Value))

/-- The calls of the library: parsing, writing, and the binary32 number nearest to an integer. -/
structure Library where
  deserialize : Text → Option Value
  serialize : Value → Text
  ofInteger : Int → UInt32

def Value.items : Value → Option (List Value)
  | array items => some items
  | _ => none

def Value.members : Value → Option (List (Text × Value))
  | object members => some members
  | _ => none

/-- An element of an array; null past its end. -/
def element (items : List Value) (k : Nat) : Value := items.getD k .null

def member (members : List (Text × Value)) (key : Text) : Value :=
  match members.find? fun m => m.1 = key with
  | some m => m.2
  | none => .null

def Value.at (v : Value) (key : Text) : Value :=
  match v.members with
  | some members => member members key
  | none => .null

def Value.isText : Value → Bool
  | text _ => true
  | _ => false

def Value.orText (v : Value) (default : Text) : Text :=
  match v with
  | text t => t.takeWhile (· ≠ 0)
  | _ => default

def Value.orUInt32 (v : Value) (default : UInt32) : UInt32 :=
  match v with
  | integer n => if 0 ≤ n ∧ n < 4294967296 then UInt32.ofNat n.toNat else default
  | _ => default

def Value.orUInt8 (v : Value) (default : UInt8) : UInt8 :=
  match v with
  | integer n => if 0 ≤ n ∧ n < 256 then UInt8.ofNat n.toNat else default
  | _ => default

def Library.orFloat (library : Library) (v : Value) (default : UInt32) : UInt32 :=
  match v with
  | .float bits => bits
  | .integer n => library.ofInteger n
  | _ => default

/-- How a library gives back the binary32 numbers it has written: as they were, or as an integer
where it wrote one without a fraction. -/
def Library.ReadsBack (library : Library) (number : UInt32 → Value) : Prop :=
  ∀ bits, number bits = .float bits ∨ ∃ n, number bits = .integer n ∧ library.ofInteger n = bits

theorem Library.ReadsBack.orFloat {library : Library} {number : UInt32 → Value}
    (h : library.ReadsBack number) (bits default : UInt32) :
    library.orFloat (number bits) default = bits := by
  obtain hfloat | ⟨n, hinteger, hn⟩ := h bits
  · rw [hfloat]
    rfl
  · rw [hinteger]
    exact hn

theorem Library.ReadsBack.not_text {library : Library} {number : UInt32 → Value}
    (h : library.ReadsBack number) (bits : UInt32) : (number bits).isText = false := by
  obtain hfloat | ⟨n, hinteger, -⟩ := h bits
  · rw [hfloat]
    rfl
  · rw [hinteger]
    rfl

def ofUInt8 (b : UInt8) : Value := .integer b.toNat

def ofUInt16 (w : UInt16) : Value := .integer w.toNat

def ofUInt32 (w : UInt32) : Value := .integer w.toNat

@[simp] theorem orUInt32_ofUInt8 (b : UInt8) (default : UInt32) :
    (ofUInt8 b).orUInt32 default = b.toUInt32 := by
  have hlt := b.toNat_lt
  have hrange : (0 : Int) ≤ b.toNat ∧ (b.toNat : Int) < 4294967296 := by omega
  simp only [Value.orUInt32, ofUInt8, hrange, and_self, if_true, Int.toNat_natCast]
  exact UInt32.toNat_inj.mp (by simp)

@[simp] theorem orUInt32_ofUInt16 (w : UInt16) (default : UInt32) :
    (ofUInt16 w).orUInt32 default = w.toUInt32 := by
  have hlt := w.toNat_lt
  have hrange : (0 : Int) ≤ w.toNat ∧ (w.toNat : Int) < 4294967296 := by omega
  simp only [Value.orUInt32, ofUInt16, hrange, and_self, if_true, Int.toNat_natCast]
  exact UInt32.toNat_inj.mp (by simp)

@[simp] theorem orUInt32_ofUInt32 (w default : UInt32) : (ofUInt32 w).orUInt32 default = w := by
  have hlt := w.toNat_lt
  have hrange : (0 : Int) ≤ w.toNat ∧ (w.toNat : Int) < 4294967296 := by omega
  simp only [Value.orUInt32, ofUInt32, hrange, and_self, if_true, Int.toNat_natCast]
  exact UInt32.ofNat_toNat

@[simp] theorem orUInt8_ofUInt8 (b default : UInt8) : (ofUInt8 b).orUInt8 default = b := by
  have hlt := b.toNat_lt
  have hrange : (0 : Int) ≤ b.toNat ∧ (b.toNat : Int) < 256 := by omega
  simp only [Value.orUInt8, ofUInt8, hrange, and_self, if_true, Int.toNat_natCast]
  exact UInt8.ofNat_toNat

theorem orText_text {t : Text} (h : 0 ∉ t) (default : Text) : (Value.text t).orText default = t := by
  induction t with
  | nil => rfl
  | cons b t ih =>
    have hne : b ≠ 0 := by
      rintro rfl
      exact h List.mem_cons_self
    have hrest := ih fun hb => h (List.mem_cons_of_mem b hb)
    simp only [Value.orText] at hrest ⊢
    simpa [hne] using hrest

/-! How long a document is when it is written out, without white space. -/

/-- How the library writes strings, with their quotes, and binary32 numbers. -/
structure Writer where
  textSize : Text → Nat
  floatSize : UInt32 → Nat

def decimalSize (n : Nat) : Nat := (Nat.toDigits 10 n).length

def integerSize (n : Int) : Nat := (if n < 0 then 1 else 0) + decimalSize n.natAbs

variable (w : Writer)

-- The items and the members are counted with the comma or bracket before each.
mutual

def measureJson : Value → Nat
  | .null => 4
  | .bool b => if b then 4 else 5
  | .integer n => integerSize n
  | .float bits => w.floatSize bits
  | .text t => w.textSize t
  | .array items => 2 + (measureItems items - 1)
  | .object members => 2 + (measureMembers members - 1)

def measureItems : List Value → Nat
  | [] => 0
  | v :: rest => 1 + measureJson v + measureItems rest

def measureMembers : List (Text × Value) → Nat
  | [] => 0
  | (key, v) :: rest => 1 + (w.textSize key + 1 + measureJson v) + measureMembers rest

end

theorem measure_object (members : List (Text × Value)) :
    measureJson w (.object members) = 2 + (measureMembers w members - 1) := by
  rw [measureJson]

theorem measure_array (items : List Value) :
    measureJson w (.array items) = 2 + (measureItems w items - 1) := by
  rw [measureJson]

theorem measureMembers_append (a b : List (Text × Value)) :
    measureMembers w (a ++ b) = measureMembers w a + measureMembers w b := by
  induction a with
  | nil => simp [measureMembers]
  | cons m a ih =>
    rw [List.cons_append, measureMembers, measureMembers, ih]
    omega

theorem decimalSize_pos (n : Nat) : 0 < decimalSize n := Nat.length_toDigits_pos

theorem decimalSize_mono {m n : Nat} (h : m ≤ n) : decimalSize m ≤ decimalSize n := by
  have hpos := decimalSize_pos n
  have hn := (Nat.length_toDigits_le_iff (by decide) hpos).mp (Nat.le_refl (decimalSize n))
  exact (Nat.length_toDigits_le_iff (by decide) hpos).mpr (Nat.lt_of_le_of_lt h hn)

theorem decimalSize_le_four {n : Nat} (h : n < 10000) : decimalSize n ≤ 4 :=
  decimalSize_mono (Nat.le_of_lt_succ h)

end NodeNet.Json

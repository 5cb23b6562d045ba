import Mathlib.Tactic.Linter.Lint
import NodeNet.Lib.Text

/-! Point identities, definitions and states, as the catalog stores them. -/
namespace NodeNet.Points

-- The C++ enumerations are bytes, so a cast can produce values without a name.
inductive PointValueType where
  | Bool | Uint16 | Int16 | Uint32 | Int32 | Float | Enum | String
  | unnamed (raw : UInt8) (h : 8 ≤ raw)
  deriving DecidableEq

inductive PointDirection where
  | Input | Output | InOut
  | unnamed (raw : UInt8) (h : 3 ≤ raw)
  deriving DecidableEq

set_option linter.dupNamespace false in
inductive PointBackend where
  | Local | Modbus | NodeNet
  | unnamed (raw : UInt8) (h : 3 ≤ raw)
  deriving DecidableEq

def PointValueType.toByte : PointValueType → UInt8
  | Bool => 0
  | Uint16 => 1
  | Int16 => 2
  | Uint32 => 3
  | Int32 => 4
  | Float => 5
  | Enum => 6
  | String => 7
  | unnamed raw _ => raw

def PointValueType.ofByte (b : UInt8) : PointValueType :=
  if h : 8 ≤ b then unnamed b h
  else if b = 0 then Bool
  else if b = 1 then Uint16
  else if b = 2 then Int16
  else if b = 3 then Uint32
  else if b = 4 then Int32
  else if b = 5 then Float
  else if b = 6 then Enum
  else String

def PointDirection.toByte : PointDirection → UInt8
  | Input => 0
  | Output => 1
  | InOut => 2
  | unnamed raw _ => raw

def PointBackend.toByte : PointBackend → UInt8
  | Local => 0
  | Modbus => 1
  | NodeNet => 2
  | unnamed raw _ => raw

structure PointIdentity where
  deviceId : Text
  feature : Text
  pointId : Text
  deriving DecidableEq

structure PointDefinition where
  id : PointIdentity
  displayName : Text
  backend : PointBackend
  direction : PointDirection
  valueType : PointValueType
  refreshMs : UInt32
  timeoutMs : UInt32
  stringCapacity : UInt16
  /-- The bits of the binary32 scale. -/
  scale : UInt32
  unit : Text
  /-- The address of the enumeration table, zero for none. -/
  enumDef : UInt32
  /-- The bytes of the backend reference union. -/
  ref : List UInt8
  deriving DecidableEq

structure PointState where
  /-- The word of the value union. -/
  value : UInt32
  stringValue : List UInt8
  quality : UInt8
  lastUpdateMs : UInt32
  lastGoodUpdateMs : UInt32
  deriving DecidableEq

structure PointCommandState where
  lastCommandedValue : UInt32
  lastCommandedString : List UInt8
  commandQuality : UInt8
  lastCommandTsMs : UInt32
  lastAckTsMs : UInt32
  pending : Bool
  deriving DecidableEq

def PointState.zero : PointState := ⟨0, List.replicate 64 0, 0, 0, 0⟩

def PointCommandState.zero : PointCommandState := ⟨0, List.replicate 64 0, 0, 0, 0, false⟩

theorem PointValueType.ofByte_toByte (t : PointValueType) : ofByte t.toByte = t := by
  cases t with
  | unnamed raw h => simp [toByte, ofByte, h]
  | _ => rfl

theorem PointValueType.toByte_ofByte (b : UInt8) : (ofByte b).toByte = b := by
  by_cases h : 8 ≤ b
  · simp [ofByte, h, toByte]
  · have hb : b.toNat < 8 := by
      rw [UInt8.le_iff_toNat_le] at h
      exact Nat.lt_of_not_le h
    have hall : ∀ n < 8, (ofByte (UInt8.ofNat n)).toByte = UInt8.ofNat n := by decide
    simpa using hall b.toNat hb

theorem PointValueType.toByte_eq_iff (t : PointValueType) (b : UInt8) :
    t.toByte = b ↔ t = ofByte b := by
  constructor
  · rintro rfl
    exact (ofByte_toByte t).symm
  · rintro rfl
    exact toByte_ofByte b

end NodeNet.Points

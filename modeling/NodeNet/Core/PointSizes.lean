import NodeNet.DefinitionJson
import NodeNet.Lib.Json
import NodeNet.Link.Messages

/-! The JSON of definitions and states in the answers, and how large the node reckons it. -/
namespace NodeNet.Core
open NodeNet.Points NodeNet.Catalog NodeNet.Json

/-- The digits of a number; ten are the most. -/
def decimalDigits : Nat → Nat → Nat
  | 0, _ => 1
  | fuel + 1, value => if value < 10 then 1 else decimalDigits fuel (value / 10) + 1

def decimalU32Length (value : UInt32) : Nat := decimalDigits 9 value.toNat

def decimalI32Length (value : Int) : Nat :=
  if 0 ≤ value then decimalU32Length (.ofNat value.toNat)
  else 1 + decimalU32Length (.ofNat (-(value + 1)).toNat + 1)

def escapedJsonStringLength (value : Text) : Nat :=
  value.foldl (fun length c =>
    if [0x22, 0x5C, 0x08, 0x0C, 0x0A, 0x0D, 0x09].contains c then length + 2
    else length + if c < 0x20 then 6 else 1) 0

def jsonStringValueSize (value : Text) : Nat := 2 + escapedJsonStringLength value

def jsonFieldPrefixSize (key : Text) : Nat := 3 + key.length

def jsonStringFieldSize (key value : Text) : Nat :=
  jsonFieldPrefixSize key + jsonStringValueSize value

def jsonU32FieldSize (key : Text) (value : UInt32) : Nat :=
  jsonFieldPrefixSize key + decimalU32Length value

def jsonI32FieldSize (key : Text) (value : Int) : Nat :=
  jsonFieldPrefixSize key + decimalI32Length value

def jsonBoolFieldSize (key : Text) (value : Bool) : Nat :=
  jsonFieldPrefixSize key + if value then 4 else 5

def jsonFloatFieldSize (key : Text) : Nat := jsonFieldPrefixSize key + 24

def backendMembers (d : PointDefinition) : List (Text × Value) :=
  match d.backend with
  | .Modbus =>
    [(ascii "portIndex", ofUInt8 (d.ref.getD 0 0)),
      (ascii "slaveAddress", ofUInt8 (d.ref.getD 1 0)),
      (ascii "address", ofUInt16 (Plc.modbusRef d).address),
      (ascii "registerCount", ofUInt8 (d.ref.getD 4 0)),
      (ascii "table", ofUInt8 (d.ref.getD 5 0)),
      (ascii "access", ofUInt8 (d.ref.getD 6 0))]
  | .NodeNet =>
    [(ascii "remoteDeviceId", .text (nodeNetRef d).remoteDeviceId),
      (ascii "remoteFeature", .text (nodeNetRef d).remoteFeature),
      (ascii "remotePointId", .text (nodeNetRef d).remotePointId)]
  | _ => []

def serializePointDefinitionCompact (d : PointDefinition) : Value :=
  .object ([(ascii "pointId", .text d.id.pointId),
    (ascii "displayName", .text d.displayName),
    (ascii "backend", ofUInt8 d.backend.toByte),
    (ascii "direction", ofUInt8 d.direction.toByte),
    (ascii "valueType", ofUInt8 d.valueType.toByte),
    (ascii "refreshMs", ofUInt32 d.refreshMs),
    (ascii "timeoutMs", ofUInt32 d.timeoutMs),
    (ascii "stringCapacity", ofUInt16 d.stringCapacity),
    (ascii "scale", .float d.scale),
    (ascii "unit", .text d.unit)] ++ backendMembers d)

def measureBackend (d : PointDefinition) : Nat :=
  match d.backend with
  | .Modbus =>
    1 + jsonU32FieldSize (ascii "portIndex") (d.ref.getD 0 0).toUInt32 +
      (1 + jsonU32FieldSize (ascii "slaveAddress") (d.ref.getD 1 0).toUInt32) +
      (1 + jsonU32FieldSize (ascii "address") (Plc.modbusRef d).address.toUInt32) +
      (1 + jsonU32FieldSize (ascii "registerCount") (d.ref.getD 4 0).toUInt32) +
      (1 + jsonU32FieldSize (ascii "table") (d.ref.getD 5 0).toUInt32) +
      (1 + jsonU32FieldSize (ascii "access") (d.ref.getD 6 0).toUInt32)
  | .NodeNet =>
    1 + jsonStringFieldSize (ascii "remoteDeviceId") (nodeNetRef d).remoteDeviceId +
      (1 + jsonStringFieldSize (ascii "remoteFeature") (nodeNetRef d).remoteFeature) +
      (1 + jsonStringFieldSize (ascii "remotePointId") (nodeNetRef d).remotePointId)
  | _ => 0

def measurePointDefinitionCompactEntry (d : PointDefinition) : Nat :=
  2 + jsonStringFieldSize (ascii "pointId") d.id.pointId +
    (1 + jsonStringFieldSize (ascii "displayName") d.displayName) +
    (1 + jsonU32FieldSize (ascii "backend") d.backend.toByte.toUInt32) +
    (1 + jsonU32FieldSize (ascii "direction") d.direction.toByte.toUInt32) +
    (1 + jsonU32FieldSize (ascii "valueType") d.valueType.toByte.toUInt32) +
    (1 + jsonU32FieldSize (ascii "refreshMs") d.refreshMs) +
    (1 + jsonU32FieldSize (ascii "timeoutMs") d.timeoutMs) +
    (1 + jsonU32FieldSize (ascii "stringCapacity") d.stringCapacity.toUInt32) +
    (1 + jsonFloatFieldSize (ascii "scale")) +
    (1 + jsonStringFieldSize (ascii "unit") d.unit) +
    measureBackend d

/-- How long ago a time was; never is zero. -/
def ageMs (nowMs lastMs : UInt32) : UInt32 := if lastMs = 0 then 0 else nowMs - lastMs

def boolValue (state : PointState) : Bool := typedValue .Bool state.value ≠ 0

def uint16Value (state : PointState) : UInt16 := (typedValue .Uint16 state.value).toUInt16

def int16Value (state : PointState) : Int := (typedValue .Int16 state.value).toUInt16.toInt16.toInt

def int32Value (state : PointState) : Int := (typedValue .Int32 state.value).toInt32.toInt

/-- The value of the type; a type without a name has none. -/
def valueMember (type : PointValueType) (state : PointState) : List (Text × Value) :=
  match type with
  | .Bool => [(ascii "value", .bool (boolValue state))]
  | .Uint16 => [(ascii "value", ofUInt16 (uint16Value state))]
  | .Int16 => [(ascii "value", .integer (int16Value state))]
  | .Uint32 => [(ascii "value", ofUInt32 state.value)]
  | .Int32 | .Enum => [(ascii "value", .integer (int32Value state))]
  | .Float => [(ascii "value", .float state.value)]
  | .String => [(ascii "value", .text (Link.stateText state))]
  | .unnamed _ _ => []

def serializePointStateCompact (d : PointDefinition) (state : PointState) (nowMs : UInt32) : Value :=
  .object ([(ascii "pointId", .text d.id.pointId),
    (ascii "quality", ofUInt8 state.quality),
    (ascii "upMs", ofUInt32 (ageMs nowMs state.lastUpdateMs)),
    (ascii "goodMs", ofUInt32 (ageMs nowMs state.lastGoodUpdateMs))] ++
      valueMember d.valueType state)

def estimatePointStateValueSize (type : PointValueType) (state : PointState) : Nat :=
  match type with
  | .Bool => jsonBoolFieldSize (ascii "value") (boolValue state)
  | .Uint16 => jsonU32FieldSize (ascii "value") (uint16Value state).toUInt32
  | .Int16 => jsonI32FieldSize (ascii "value") (int16Value state)
  | .Uint32 => jsonU32FieldSize (ascii "value") state.value
  | .Int32 | .Enum => jsonI32FieldSize (ascii "value") (int32Value state)
  | .Float => jsonFieldPrefixSize (ascii "value") + 24
  | .String => jsonStringFieldSize (ascii "value") (Link.stateText state)
  | .unnamed _ _ => jsonFieldPrefixSize (ascii "value") + 4

def measurePointStateCompactEntry (d : PointDefinition) (state : PointState) (nowMs : UInt32) :
    Nat :=
  2 + jsonStringFieldSize (ascii "pointId") d.id.pointId +
    (1 + jsonU32FieldSize (ascii "quality") state.quality.toUInt32) +
    (1 + jsonU32FieldSize (ascii "upMs") (ageMs nowMs state.lastUpdateMs)) +
    (1 + jsonU32FieldSize (ascii "goodMs") (ageMs nowMs state.lastGoodUpdateMs)) +
    (1 + estimatePointStateValueSize d.valueType state)

/-- What the writer takes is not more than what the node reckons with. -/
structure Reckoned (w : Writer) : Prop where
  text : ∀ t, w.textSize t ≤ jsonStringValueSize t
  -- quotes, and something for each character
  long : ∀ t, 2 + t.length ≤ w.textSize t
  float : ∀ bits, w.floatSize bits ≤ 24

theorem decimalDigits_eq {fuel n : Nat} (h : decimalSize n ≤ fuel + 1) :
    decimalDigits fuel n = decimalSize n := by
  induction fuel generalizing n with
  | zero =>
    have hpos := decimalSize_pos n
    rw [decimalDigits]
    omega
  | succ fuel ih =>
    rw [decimalDigits]
    by_cases hsmall : n < 10
    · rw [if_pos hsmall, decimalSize, Nat.toDigits_of_lt_base hsmall]
      rfl
    · have hstep : decimalSize n = decimalSize (n / 10) + 1 := by
        rw [decimalSize, Nat.toDigits_of_base_le (by decide) (by omega), List.length_append]
        rfl
      rw [if_neg hsmall, hstep, ih (by omega)]

theorem decimalU32Length_eq (value : UInt32) :
    decimalU32Length value = decimalSize value.toNat := by
  apply decimalDigits_eq
  have hlt := value.toNat_lt
  exact decimalSize_mono (Nat.le_of_lt_succ hlt)

theorem decimalI32Length_eq {value : Int} (hlow : -2147483648 ≤ value)
    (hhigh : value < 2147483648) : decimalI32Length value = integerSize value := by
  rw [decimalI32Length, integerSize]
  by_cases hsign : 0 ≤ value
  · have hsame : (UInt32.ofNat value.toNat).toNat = value.natAbs := by
      rw [UInt32.toNat_ofNat_of_lt' (by rw [UInt32.size]; omega)]
      omega
    rw [if_pos hsign, if_neg (by omega), decimalU32Length_eq, hsame, Nat.zero_add]
  · have hsame : (UInt32.ofNat (-(value + 1)).toNat + 1).toNat = value.natAbs := by
      rw [UInt32.toNat_add, UInt32.toNat_ofNat_of_lt' (by rw [UInt32.size]; omega)]
      change ((-(value + 1)).toNat + 1) % 4294967296 = _
      omega
    rw [if_neg hsign, if_pos (by omega), decimalU32Length_eq, hsame]

end NodeNet.Core

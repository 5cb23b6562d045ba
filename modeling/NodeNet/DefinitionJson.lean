import NodeNet.Lib.Json
import NodeNet.Publisher
import NodeNet.Plc.PollPlan

/-! How a point definition is stored as JSON, and how it is read from a stored text. -/
namespace NodeNet.Points

def PointDirection.ofByte (b : UInt8) : PointDirection :=
  if h : 3 ≤ b then unnamed b h
  else if b = 0 then Input
  else if b = 1 then Output
  else InOut

def PointBackend.ofByte (b : UInt8) : PointBackend :=
  if h : 3 ≤ b then unnamed b h
  else if b = 0 then Local
  else if b = 1 then Modbus
  else NodeNet

theorem PointDirection.ofByte_toByte (d : PointDirection) : ofByte d.toByte = d := by
  cases d with
  | unnamed raw h => simp [toByte, ofByte, h]
  | _ => rfl

theorem PointBackend.ofByte_toByte (b : PointBackend) : ofByte b.toByte = b := by
  cases b with
  | unnamed raw h => simp [toByte, ofByte, h]
  | _ => rfl

theorem PointDirection.toByte_injective {d d' : PointDirection} (h : d.toByte = d'.toByte) :
    d = d' := by
  rw [← PointDirection.ofByte_toByte d, h, PointDirection.ofByte_toByte]

theorem PointBackend.toByte_injective {b b' : PointBackend} (h : b.toByte = b'.toByte) :
    b = b' := by
  rw [← PointBackend.ofByte_toByte b, h, PointBackend.ofByte_toByte]

theorem PointValueType.toByte_injective {t t' : PointValueType} (h : t.toByte = t'.toByte) :
    t = t' := by
  rw [← PointValueType.ofByte_toByte t, h, PointValueType.ofByte_toByte]

/-- The NodeNet member of a definition's backend reference. -/
structure NodeNetPointRef where
  remoteDeviceId : Text
  remoteFeature : Text
  remotePointId : Text
  deriving DecidableEq

def charsAt (bytes : List UInt8) (start size : Nat) : Text :=
  ((bytes.drop start).take size).takeWhile (· ≠ 0)

def nodeNetRef (d : PointDefinition) : NodeNetPointRef where
  remoteDeviceId := charsAt d.ref 0 16
  remoteFeature := charsAt d.ref 16 32
  remotePointId := charsAt d.ref 48 32

end NodeNet.Points

namespace NodeNet.Catalog
open NodeNet.Points NodeNet.Publisher NodeNet.Json NodeNet.Bytes

def kPointBackendRefSize : Nat := 80

/-- The text as an array of `size` characters can hold it. -/
def copyString (size : Nat) (src : Text) : Text := src.take (size - 1)

def modbusRefBytes (portIndex slaveAddress : UInt8) (address : UInt16)
    (registerCount table access : UInt8) : List UInt8 :=
  [portIndex, slaveAddress] ++ le16 address ++ [registerCount, table, access] ++
    List.replicate (kPointBackendRefSize - 7) 0

def nodeNetRefBytes (remoteDeviceId remoteFeature remotePointId : Text) : List UInt8 :=
  charArray 16 (copyString 16 remoteDeviceId) ++ charArray 32 (copyString 32 remoteFeature) ++
    charArray 32 (copyString 32 remotePointId)

def localRefBytes : List UInt8 := List.replicate kPointBackendRefSize 0

def serializeBackend (d : PointDefinition) : List Value :=
  match d.backend with
  | .Modbus =>
    [ofUInt8 (d.ref.getD 0 0), ofUInt8 (d.ref.getD 1 0), ofUInt16 (Plc.modbusRef d).address,
      ofUInt8 (d.ref.getD 4 0), ofUInt8 (d.ref.getD 5 0), ofUInt8 (d.ref.getD 6 0)]
  | .NodeNet =>
    [.text (nodeNetRef d).remoteDeviceId, .text (nodeNetRef d).remoteFeature,
      .text (nodeNetRef d).remotePointId]
  | _ => []

def serializePersistedDefinition (d : PointDefinition) : List Value :=
  [.text d.id.deviceId, .text d.id.feature, .text d.id.pointId, .text d.displayName,
    ofUInt8 d.backend.toByte, ofUInt8 d.direction.toByte, ofUInt8 d.valueType.toByte,
    ofUInt32 d.refreshMs, ofUInt32 d.timeoutMs, ofUInt16 d.stringCapacity, .float d.scale,
    .text d.unit] ++ serializeBackend d

/-- An entry written before scale and unit were stored lacks these two. -/
def storesScale (entry : List Value) : Bool :=
  12 ≤ entry.length && !(element entry 10).isText && (element entry 11).isText

def backendIndex (entry : List Value) : Nat := if storesScale entry then 12 else 10

def deserializeBackend (backend : PointBackend) (entry : List Value) : Option (List UInt8) :=
  let start := backendIndex entry
  match backend with
  | .Modbus =>
    if entry.length < start + 6 then none
    else some (modbusRefBytes ((element entry start).orUInt32 0).toUInt8
      ((element entry (start + 1)).orUInt32 1).toUInt8
      ((element entry (start + 2)).orUInt32 0).toUInt16
      ((element entry (start + 3)).orUInt32 1).toUInt8
      ((element entry (start + 4)).orUInt8 3) ((element entry (start + 5)).orUInt8 1))
  | .NodeNet =>
    if entry.length < start + 3 then none
    else some (nodeNetRefBytes ((element entry start).orText [])
      ((element entry (start + 1)).orText []) ((element entry (start + 2)).orText []))
  | _ => some localRefBytes

/-- A compact entry; `none` where the source returns false. -/
def deserializePersistedDefinition (library : Library) (entry : List Value) :
    Option PointDefinition :=
  if entry.length < 10 then none
  else
    let backend := PointBackend.ofByte ((element entry 4).orUInt32 0).toUInt8
    (deserializeBackend backend entry).map fun ref =>
      { id :=
          { deviceId := copyString 16 ((element entry 0).orText [])
            feature := copyString 32 ((element entry 1).orText [])
            pointId := copyString 32 ((element entry 2).orText []) }
        displayName := copyString 32 ((element entry 3).orText [])
        backend := backend
        direction := .ofByte ((element entry 5).orUInt32 0).toUInt8
        valueType := .ofByte ((element entry 6).orUInt32 0).toUInt8
        refreshMs := (element entry 7).orUInt32 1000
        timeoutMs := (element entry 8).orUInt32 3000
        stringCapacity := ((element entry 9).orUInt32 0).toUInt16
        scale := if storesScale entry then library.orFloat (element entry 10) 0x3F800000
          else 0x3F800000
        unit := if storesScale entry then copyString 10 ((element entry 11).orText []) else []
        enumDef := 0
        ref := ref }

/-- The reference of a legacy entry. -/
def deserializeBackendRef (backend : PointBackend) (obj : List (Text × Value)) : List UInt8 :=
  match backend with
  | .Modbus =>
    modbusRefBytes ((member obj (ascii "portIndex")).orUInt32 0).toUInt8
      ((member obj (ascii "slaveAddress")).orUInt32 1).toUInt8
      ((member obj (ascii "address")).orUInt32 0).toUInt16
      ((member obj (ascii "registerCount")).orUInt32 1).toUInt8
      ((member obj (ascii "table")).orUInt8 3) ((member obj (ascii "access")).orUInt8 1)
  | .NodeNet =>
    nodeNetRefBytes ((member obj (ascii "remoteDeviceId")).orText [])
      ((member obj (ascii "remoteFeature")).orText [])
      ((member obj (ascii "remotePointId")).orText [])
  | _ => localRefBytes

/-- An entry in the format of the requests, with a name for every field. -/
def deserializeDefinition (library : Library) (obj : List (Text × Value)) :
    PointDefinition :=
  let backend := PointBackend.ofByte ((member obj (ascii "backend")).orUInt32 0).toUInt8
  { id :=
      { deviceId := copyString 16 ((member obj (ascii "deviceId")).orText [])
        feature := copyString 32 ((member obj (ascii "feature")).orText [])
        pointId := copyString 32 ((member obj (ascii "pointId")).orText []) }
    displayName := copyString 32 ((member obj (ascii "displayName")).orText [])
    backend := backend
    direction := .ofByte ((member obj (ascii "direction")).orUInt32 0).toUInt8
    valueType := .ofByte ((member obj (ascii "valueType")).orUInt32 0).toUInt8
    refreshMs := (member obj (ascii "refreshMs")).orUInt32 1000
    timeoutMs := (member obj (ascii "timeoutMs")).orUInt32 3000
    stringCapacity := ((member obj (ascii "stringCapacity")).orUInt32 0).toUInt16
    scale := library.orFloat (member obj (ascii "scale")) 0x3F800000
    unit := copyString 10 ((member obj (ascii "unit")).orText [])
    enumDef := 0
    ref := deserializeBackendRef backend obj }

def deserializePersistedEntry (library : Library) (entry : Value) : Option PointDefinition :=
  match entry.items with
  | some items => deserializePersistedDefinition library items
  | none => entry.members.map (deserializeDefinition library)

end NodeNet.Catalog

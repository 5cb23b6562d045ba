import NodeNet.Core.BrowseListing
import NodeNet.Core.PointSizes
import NodeNet.Lib.Paging

/-! What the node reckons with is enough for what is written. -/
namespace NodeNet.Core
open NodeNet.Points NodeNet.Catalog NodeNet.Json NodeNet.Paging

section
theorem integerSize_natCast (n : Nat) : integerSize (n : Int) = decimalSize n := by
  rw [integerSize, if_neg (by omega), Nat.zero_add, Int.natAbs_natCast]

theorem measure_ofUInt8 (w : Writer) (b : UInt8) :
    measureJson w (ofUInt8 b) = decimalU32Length b.toUInt32 := by
  rw [ofUInt8, measureJson, integerSize_natCast, decimalU32Length_eq, UInt8.toNat_toUInt32]

theorem measure_ofUInt16 (w : Writer) (v : UInt16) :
    measureJson w (ofUInt16 v) = decimalU32Length v.toUInt32 := by
  rw [ofUInt16, measureJson, integerSize_natCast, decimalU32Length_eq, UInt16.toNat_toUInt32]

theorem measure_ofUInt32 (w : Writer) (v : UInt32) :
    measureJson w (ofUInt32 v) = decimalU32Length v := by
  rw [ofUInt32, measureJson, integerSize_natCast, decimalU32Length_eq]

/-- A key without characters that need an escape. -/
def PlainKey (key : Text) : Prop := jsonStringValueSize key = 2 + key.length

instance (key : Text) : Decidable (PlainKey key) :=
  inferInstanceAs (Decidable (jsonStringValueSize key = 2 + key.length))

variable {w : Writer}

theorem members_le (hw : Reckoned w) (key : Text) (hkey : PlainKey key) {v : Value}
    {bound restBound : Nat} {rest : List (Text × Value)} (hv : measureJson w v ≤ bound)
    (hrest : measureMembers w rest ≤ restBound) :
    measureMembers w ((key, v) :: rest) ≤ 1 + (jsonFieldPrefixSize key + bound) + restBound := by
  have htext := hw.text key
  rw [PlainKey] at hkey
  rw [measureMembers, jsonFieldPrefixSize]
  omega

theorem measure_text_le (hw : Reckoned w) (t : Text) :
    measureJson w (.text t) ≤ jsonStringValueSize t := by
  rw [measureJson]
  exact hw.text t

theorem measure_float_le (hw : Reckoned w) (bits : UInt32) :
    measureJson w (.float bits) ≤ 24 := by
  rw [measureJson]
  exact hw.float bits

theorem measureMembers_nil (w : Writer) : measureMembers w [] ≤ 0 := by
  simp [measureMembers]

theorem backendMembers_le (hw : Reckoned w) (d : PointDefinition) :
    measureMembers w (backendMembers d) ≤ measureBackend d := by
  have hnil := measureMembers_nil w
  cases hbackend : d.backend with
  | Modbus =>
    rw [backendMembers, measureBackend, hbackend]
    have h := members_le hw (ascii "portIndex") (by decide)
      (Nat.le_of_eq (measure_ofUInt8 w (d.ref.getD 0 0))) <|
      members_le hw (ascii "slaveAddress") (by decide)
        (Nat.le_of_eq (measure_ofUInt8 w (d.ref.getD 1 0))) <|
      members_le hw (ascii "address") (by decide)
        (Nat.le_of_eq (measure_ofUInt16 w (Plc.modbusRef d).address)) <|
      members_le hw (ascii "registerCount") (by decide)
        (Nat.le_of_eq (measure_ofUInt8 w (d.ref.getD 4 0))) <|
      members_le hw (ascii "table") (by decide)
        (Nat.le_of_eq (measure_ofUInt8 w (d.ref.getD 5 0))) <|
      members_le hw (ascii "access") (by decide)
        (Nat.le_of_eq (measure_ofUInt8 w (d.ref.getD 6 0))) hnil
    simp only [jsonU32FieldSize]
    omega
  | NodeNet =>
    rw [backendMembers, measureBackend, hbackend]
    have h := members_le hw (ascii "remoteDeviceId") (by decide)
      (measure_text_le hw (nodeNetRef d).remoteDeviceId) <|
      members_le hw (ascii "remoteFeature") (by decide)
        (measure_text_le hw (nodeNetRef d).remoteFeature) <|
      members_le hw (ascii "remotePointId") (by decide)
        (measure_text_le hw (nodeNetRef d).remotePointId) hnil
    simp only [jsonStringFieldSize]
    omega
  | _ =>
    rw [backendMembers, measureBackend, hbackend]
    exact hnil

theorem measurePointDefinition_le (hw : Reckoned w) (d : PointDefinition) :
    measureJson w (serializePointDefinitionCompact d) ≤ measurePointDefinitionCompactEntry d := by
  have hbackend := backendMembers_le hw d
  have h := members_le hw (ascii "pointId") (by decide) (measure_text_le hw d.id.pointId) <|
    members_le hw (ascii "displayName") (by decide) (measure_text_le hw d.displayName) <|
    members_le hw (ascii "backend") (by decide)
      (Nat.le_of_eq (measure_ofUInt8 w d.backend.toByte)) <|
    members_le hw (ascii "direction") (by decide)
      (Nat.le_of_eq (measure_ofUInt8 w d.direction.toByte)) <|
    members_le hw (ascii "valueType") (by decide)
      (Nat.le_of_eq (measure_ofUInt8 w d.valueType.toByte)) <|
    members_le hw (ascii "refreshMs") (by decide) (Nat.le_of_eq (measure_ofUInt32 w d.refreshMs)) <|
    members_le hw (ascii "timeoutMs") (by decide) (Nat.le_of_eq (measure_ofUInt32 w d.timeoutMs)) <|
    members_le hw (ascii "stringCapacity") (by decide)
      (Nat.le_of_eq (measure_ofUInt16 w d.stringCapacity)) <|
    members_le hw (ascii "scale") (by decide) (measure_float_le hw d.scale) <|
    members_le hw (ascii "unit") (by decide) (measure_text_le hw d.unit) hbackend
  rw [serializePointDefinitionCompact, measureJson]
  simp only [List.cons_append, List.nil_append, measurePointDefinitionCompactEntry,
    jsonStringFieldSize, jsonU32FieldSize, jsonFloatFieldSize]
  omega

theorem measure_int16Value (w : Writer) (state : PointState) :
    measureJson w (.integer (int16Value state)) = decimalI32Length (int16Value state) := by
  have hlow := Int16.le_toInt (typedValue .Int16 state.value).toUInt16.toInt16
  have hhigh := Int16.toInt_lt (typedValue .Int16 state.value).toUInt16.toInt16
  rw [measureJson, decimalI32Length_eq]
  · change -2147483648 ≤ (typedValue .Int16 state.value).toUInt16.toInt16.toInt
    omega
  · change (typedValue .Int16 state.value).toUInt16.toInt16.toInt < 2147483648
    omega

theorem measure_int32Value (w : Writer) (state : PointState) :
    measureJson w (.integer (int32Value state)) = decimalI32Length (int32Value state) := by
  have hlow := Int32.le_toInt (typedValue .Int32 state.value).toInt32
  have hhigh := Int32.toInt_lt (typedValue .Int32 state.value).toInt32
  rw [measureJson, decimalI32Length_eq]
  · change -2147483648 ≤ (typedValue .Int32 state.value).toInt32.toInt
    omega
  · change (typedValue .Int32 state.value).toInt32.toInt < 2147483648
    omega

theorem valueMember_le (hw : Reckoned w) (type : PointValueType) (state : PointState) :
    measureMembers w (valueMember type state) ≤ 1 + estimatePointStateValueSize type state := by
  have hnil := measureMembers_nil w
  have hvalue := fun {v : Value} {bound : Nat} (hv : measureJson w v ≤ bound) =>
    members_le hw (ascii "value") (by decide) hv hnil
  cases type with
  | Bool =>
    have hbool : measureJson w (.bool (boolValue state)) = if boolValue state then 4 else 5 := by
      rw [measureJson]
    exact hvalue (Nat.le_of_eq hbool)
  | Uint16 => exact hvalue (Nat.le_of_eq (measure_ofUInt16 w _))
  | Int16 => exact hvalue (Nat.le_of_eq (measure_int16Value w state))
  | Uint32 => exact hvalue (Nat.le_of_eq (measure_ofUInt32 w _))
  | Int32 => exact hvalue (Nat.le_of_eq (measure_int32Value w state))
  | Enum => exact hvalue (Nat.le_of_eq (measure_int32Value w state))
  | Float => exact hvalue (measure_float_le hw _)
  | String => exact hvalue (measure_text_le hw _)
  | unnamed raw h =>
    rw [valueMember]
    exact Nat.le_trans hnil (Nat.zero_le _)

theorem measurePointState_le (hw : Reckoned w) (d : PointDefinition) (state : PointState)
    (nowMs : UInt32) : measureJson w (serializePointStateCompact d state nowMs) ≤
      measurePointStateCompactEntry d state nowMs := by
  have hvalue := valueMember_le hw d.valueType state
  have h := members_le hw (ascii "pointId") (by decide) (measure_text_le hw d.id.pointId) <|
    members_le hw (ascii "quality") (by decide) (Nat.le_of_eq (measure_ofUInt8 w state.quality)) <|
    members_le hw (ascii "upMs") (by decide)
      (Nat.le_of_eq (measure_ofUInt32 w (ageMs nowMs state.lastUpdateMs))) <|
    members_le hw (ascii "goodMs") (by decide)
      (Nat.le_of_eq (measure_ofUInt32 w (ageMs nowMs state.lastGoodUpdateMs))) hvalue
  rw [serializePointStateCompact, measureJson]
  simp only [List.cons_append, List.nil_append, measurePointStateCompactEntry,
    jsonStringFieldSize, jsonU32FieldSize]
  omega

theorem escapedJsonStringLength_le (value : Text) :
    escapedJsonStringLength value ≤ 6 * value.length := by
  have hstep : ∀ n : Nat, value.foldl (fun length c =>
      if [0x22, 0x5C, 0x08, 0x0C, 0x0A, 0x0D, 0x09].contains c then length + 2
      else length + if c < 0x20 then 6 else 1) n ≤ n + 6 * value.length := by
    induction value with
    | nil => exact fun n => Nat.le_refl _
    | cons c value ih =>
      intro n
      rw [List.foldl_cons, List.length_cons]
      refine Nat.le_trans (ih _) ?_
      split
      · omega
      · split <;> omega
  rw [escapedJsonStringLength]
  simpa using hstep 0

theorem length_le_escapedJsonStringLength (value : Text) :
    value.length ≤ escapedJsonStringLength value := by
  have hstep : ∀ n : Nat, n + value.length ≤ value.foldl (fun length c =>
      if [0x22, 0x5C, 0x08, 0x0C, 0x0A, 0x0D, 0x09].contains c then length + 2
      else length + if c < 0x20 then 6 else 1) n := by
    induction value with
    | nil => exact fun n => Nat.le_refl _
    | cons c value ih =>
      intro n
      rw [List.foldl_cons, List.length_cons]
      refine Nat.le_trans ?_ (ih _)
      split
      · omega
      · split <;> omega
  rw [escapedJsonStringLength]
  simpa using hstep 0

/-- A writer of texts without characters that need an escape. -/
def plainWriter : Writer where
  textSize t := 2 + t.length
  floatSize _ := 24

theorem plainWriter_reckoned : Reckoned plainWriter where
  text t := Nat.add_le_add_left (length_le_escapedJsonStringLength t) 2
  long _ := Nat.le_refl _
  float _ := Nat.le_refl _

end

/-! The pages of the requests: which items they take, and how large their documents are. -/

/-- What a page may take before the items of the document are counted. -/
def pageRoom : Nat := kMaxPayloadSize - kPagedResponseSizeReserve

theorem responseCanAppendItem_iff (currentSize emittedCount itemSize : Nat) :
    responseCanAppendItem currentSize emittedCount itemSize =
      decide (currentSize + ((if emittedCount = 0 then 0 else 1) + itemSize) ≤ pageRoom) := by
  have hmax : kMaxPayloadSize = 2048 := rfl
  have hroom : pageRoom = 1984 := rfl
  have hreserve : kMaxPayloadSize - kPagedResponseSizeReserve = 1984 := rfl
  generalize hcomma : (if emittedCount = 0 then 0 else 1) = comma
  rw [responseCanAppendItem, hmax, hcomma, hroom]
  dsimp only
  split
  · exact (decide_eq_false (by omega)).symm
  · split
    · exact (decide_eq_false (by omega)).symm
    · rw [Nat.add_assoc]
      rfl

theorem responseCanAppendSize_iff (currentSize extraSize : Nat) :
    responseCanAppendSize currentSize extraSize = decide (currentSize + extraSize ≤ pageRoom) := by
  have hmax : kMaxPayloadSize = 2048 := rfl
  have hroom : pageRoom = 1984 := rfl
  rw [responseCanAppendSize, hmax, hroom]
  dsimp only
  split
  · exact (decide_eq_false (by omega)).symm
  · split
    · exact (decide_eq_false (by omega)).symm
    · rfl

def deviceCost (deviceSize : BrowseDeviceMeta → Nat) (emitted : Nat) (m : BrowseDeviceMeta) : Nat :=
  (if emitted = 0 then 0 else 1) + deviceSize m

theorem devicePage_eq (limit : Nat) (deviceSize : BrowseDeviceMeta → Nat)
    (emitted responseSize : Nat) (devices : List BrowseDeviceMeta) :
    devicePage limit deviceSize emitted responseSize devices =
      fill limit pageRoom (deviceCost deviceSize) emitted responseSize devices := by
  induction devices generalizing emitted responseSize with
  | nil => rfl
  | cons m rest ih =>
    rw [devicePage, fill, responseCanAppendItem_iff, ih, deviceCost]
    by_cases hroom : responseSize + ((if emitted = 0 then 0 else 1) + deviceSize m) ≤ pageRoom
    · rw [decide_eq_true hroom, if_neg (Nat.not_lt.mpr hroom), Nat.add_assoc]
      rfl
    · rw [decide_eq_false hroom, if_pos (Nat.not_le.mp hroom)]
      rfl

def listedPoints (isListed : PointDefinition → Bool) (points : List (Entry × Nat)) :
    List (Entry × Nat) := points.filter fun p => isListed p.1.definition

theorem pointPage_eq (listing : PointListing) (isListed : PointDefinition → Bool)
    (offset limit matched emitted responseSize : Nat) (points : List (Entry × Nat)) :
    pointPage listing isListed offset limit matched emitted responseSize points =
      fill limit pageRoom (pointExtraSize listing) emitted responseSize
        ((listedPoints isListed points).drop (offset - matched)) := by
  induction points generalizing matched emitted responseSize with
  | nil => simp [pointPage, listedPoints, fill]
  | cons p rest ih =>
    rw [pointPage]
    cases hlisted : isListed p.1.definition with
    | false =>
      have hcons : listedPoints isListed (p :: rest) = listedPoints isListed rest := by
        simp [listedPoints, hlisted]
      rw [hcons]
      exact ih _ _ _
    | true =>
      have hcons : listedPoints isListed (p :: rest) = p :: listedPoints isListed rest := by
        simp [listedPoints, hlisted]
      rw [hcons]
      by_cases hskip : matched < offset
      · obtain ⟨k, hk⟩ : ∃ k, offset - matched = k + 1 := ⟨offset - matched - 1, by omega⟩
        have hrest : offset - (matched + 1) = k := by omega
        rw [hk, List.drop_succ_cons, ← hrest]
        simp only [Bool.not_true, Bool.false_eq_true, if_false, hskip, if_true]
        exact ih _ _ _
      · have hzero : offset - matched = 0 := by omega
        have hnext : offset - (matched + 1) = 0 := by omega
        rw [hzero, List.drop_zero, fill, responseCanAppendSize_iff]
        simp only [Bool.not_true, Bool.false_eq_true, if_false, hskip]
        by_cases hfull : limit ≤ emitted
        · rw [if_pos hfull, if_pos hfull, ih, fill_full hfull]
        · rw [if_neg hfull, if_neg hfull]
          by_cases hroom : responseSize + pointExtraSize listing emitted p ≤ pageRoom
          · rw [decide_eq_true hroom, if_neg (Nat.not_lt.mpr hroom), ih, hnext, List.drop_zero]
            rfl
          · rw [decide_eq_false hroom, if_pos (Nat.not_le.mp hroom)]
            rfl

variable {w : Writer}

theorem responseDoc_size (w : Writer) (header : List (Text × Value)) (cmd path : Text)
    (kind arrayKey : Text) : ∃ fixed, ∀ (listing : PointListing) (offset : UInt32)
      (count total : Nat) (hasMore : Bool) (items : List Value), listing.cmd = cmd →
      measureJson w (responseDoc header listing path offset count total hasMore kind arrayKey items) =
        fixed + decimalSize offset.toNat + decimalSize count + decimalSize total +
          (if hasMore then 4 else 5) + measureJson w (.array items) := by
  refine ⟨measureMembers w header + w.textSize (ascii "cmd") + w.textSize cmd +
    w.textSize (ascii "path") + w.textSize path + w.textSize (ascii "offset") +
    w.textSize (ascii "count") + w.textSize (ascii "total") + w.textSize (ascii "hasMore") +
    w.textSize (ascii "kind") + w.textSize kind + w.textSize arrayKey + 17, ?_⟩
  intro listing offset count total hasMore items hcmd
  rw [responseDoc, hcmd, measure_object, measureMembers_append]
  simp only [measureMembers, measureJson, ofUInt32, integerSize_natCast]
  omega

theorem escapedJsonStringLength_local (value : Text) :
    jsonStringValueSizeLocal value = jsonStringValueSize value := by
  rw [jsonStringValueSizeLocal, jsonStringValueSize, escapedJsonStringLength]
  have hstep : ∀ n : Nat, value.foldl (fun size c =>
      if [0x22, 0x5C, 0x08, 0x0C, 0x0A, 0x0D, 0x09].contains c then size + 2
      else if c < 0x20 then size + 6
      else size + 1) (2 + n) = 2 + value.foldl (fun length c =>
      if [0x22, 0x5C, 0x08, 0x0C, 0x0A, 0x0D, 0x09].contains c then length + 2
      else length + if c < 0x20 then 6 else 1) n := by
    induction value with
    | nil => exact fun n => rfl
    | cons c value ih =>
      intro n
      rw [List.foldl_cons, List.foldl_cons, ← ih]
      congr 1
      split
      · omega
      · split <;> omega
  exact hstep 0

end NodeNet.Core

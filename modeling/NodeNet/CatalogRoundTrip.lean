import NodeNet.CatalogLookups

/-! Storing a catalog and loading it again. -/
namespace NodeNet.Catalog
open NodeNet.Points NodeNet.Json NodeNet.Machine NodeNet.Publisher NodeNet.Bytes

/-- A C string in an array of `size` characters. -/
structure IsString (size : Nat) (t : Text) : Prop where
  terminated : t.length < size
  noZero : 0 ∉ t

structure FieldsFit (d : PointDefinition) : Prop where
  deviceId : IsString 16 d.id.deviceId
  feature : IsString 32 d.id.feature
  pointId : IsString 32 d.id.pointId
  displayName : IsString 32 d.displayName
  unit : IsString 10 d.unit
  remote : d.backend = .NodeNet → IsString 16 (nodeNetRef d).remoteDeviceId ∧
    IsString 32 (nodeNetRef d).remoteFeature ∧ IsString 32 (nodeNetRef d).remotePointId

structure SameReference (d d' : PointDefinition) : Prop where
  modbus : d.backend = .Modbus → Plc.modbusRef d' = Plc.modbusRef d
  nodeNet : d.backend = .NodeNet → nodeNetRef d' = nodeNetRef d

def storedRef (d : PointDefinition) : List UInt8 :=
  match d.backend with
  | .Modbus => modbusRefBytes (d.ref.getD 0 0) (d.ref.getD 1 0) (Plc.modbusRef d).address
    (d.ref.getD 4 0) (d.ref.getD 5 0) (d.ref.getD 6 0)
  | .NodeNet => nodeNetRefBytes (nodeNetRef d).remoteDeviceId (nodeNetRef d).remoteFeature
    (nodeNetRef d).remotePointId
  | _ => localRefBytes

/-- What a load makes of a stored definition. -/
def restored (d : PointDefinition) : PointDefinition :=
  { d with
    enumDef := 0
    ref := storedRef d }

theorem copyString_of_isString {size : Nat} {t : Text} (h : IsString size t) :
    copyString size t = t := List.take_of_length_le (Nat.le_pred_of_lt h.terminated)

@[simp] theorem toUInt8_of_byte (b : UInt8) : b.toUInt32.toUInt8 = b := by
  exact UInt8.toNat_inj.mp (by simp)

@[simp] theorem toUInt16_of_word (w : UInt16) : w.toUInt32.toUInt16 = w := by
  exact UInt16.toNat_inj.mp (by simp)

/-- A stored definition as it is read back, with its scale as `number` has it. -/
def readBackDefinition (number : UInt32 → Value) (d : PointDefinition) : List Value :=
  (serializePersistedDefinition d).set 10 (number d.scale)

def readBackDocument (number : UInt32 → Value) (c : PointCatalog) : Value :=
  .object [(ascii "points",
    .array ((persistedDefinitions c).map fun d => .array (readBackDefinition number d)))]

theorem readBackDocument_float (c : PointCatalog) :
    readBackDocument .float c = catalogDocument c := rfl

section
variable {library : Library} {number : UInt32 → Value}

theorem storesScale_readBack (hnumber : library.ReadsBack number) (d : PointDefinition) :
    storesScale (readBackDefinition number d) = true := by
  have htext := hnumber.not_text d.scale
  simp [storesScale, readBackDefinition, serializePersistedDefinition, element, htext]
  rfl

theorem deserializeBackend_readBack (hnumber : library.ReadsBack number) {d : PointDefinition}
    (h : FieldsFit d) :
    deserializeBackend d.backend (readBackDefinition number d) = some (storedRef d) := by
  have hstart : backendIndex (readBackDefinition number d) = 12 := by
    rw [backendIndex, if_pos (storesScale_readBack hnumber d)]
  cases hbackend : d.backend with
  | Modbus =>
    simp only [deserializeBackend, hstart]
    simp [readBackDefinition, serializePersistedDefinition, serializeBackend, hbackend, element,
      storedRef]
  | NodeNet =>
    obtain ⟨hdevice, hfeature, hpoint⟩ := h.remote hbackend
    simp only [deserializeBackend, hstart]
    simp [readBackDefinition, serializePersistedDefinition, serializeBackend, hbackend, element,
      storedRef, orText_text hdevice.noZero, orText_text hfeature.noZero, orText_text hpoint.noZero]
  | _ => simp [deserializeBackend, storedRef, hbackend]

/-- A stored definition is read back, but for the enumeration and the bytes of the reference that
its backend does not use. -/
theorem deserialize_readBack (hnumber : library.ReadsBack number) {d : PointDefinition}
    (h : FieldsFit d) :
    deserializePersistedEntry library (.array (readBackDefinition number d)) =
      some (restored d) := by
  have hlength : ¬ (readBackDefinition number d).length < 10 := by
    simp [readBackDefinition, serializePersistedDefinition]
  have hbackend : PointBackend.ofByte
      ((element (readBackDefinition number d) 4).orUInt32 0).toUInt8 = d.backend := by
    simp [readBackDefinition, serializePersistedDefinition, element, PointBackend.ofByte_toByte]
  simp only [deserializePersistedEntry, Value.items, deserializePersistedDefinition,
    if_neg hlength, hbackend, deserializeBackend_readBack hnumber h, storesScale_readBack hnumber,
    if_true, Option.map_some]
  simp [readBackDefinition, serializePersistedDefinition, element, restored, hnumber.orFloat,
    orText_text h.deviceId.noZero, orText_text h.feature.noZero, orText_text h.pointId.noZero,
    orText_text h.displayName.noZero, orText_text h.unit.noZero,
    copyString_of_isString h.deviceId, copyString_of_isString h.feature,
    copyString_of_isString h.pointId, copyString_of_isString h.displayName,
    copyString_of_isString h.unit, PointDirection.ofByte_toByte, PointValueType.ofByte_toByte]

end

theorem charArray_length (size : Nat) (t : Text) : (charArray size t).length = size := by
  simp [charArray]

theorem takeWhile_charArray {size : Nat} {t : Text} (h : IsString size t) :
    (charArray size t).takeWhile (· ≠ 0) = t := by
  have hsplit : charArray size t = t ++ 0 :: List.replicate (size - t.length - 1) 0 := by
    have hlt := h.terminated
    rw [charArray, List.take_append, List.take_of_length_le (by omega), List.take_replicate,
      Nat.min_eq_left (by omega)]
    obtain ⟨k, hk⟩ : ∃ k, size - t.length = k + 1 := ⟨size - t.length - 1, by omega⟩
    rw [hk, List.replicate_succ]
    rfl
  rw [hsplit, List.takeWhile_append_of_pos]
  · simp
  · intro b hb
    have hne : b ≠ 0 := by
      rintro rfl
      exact h.noZero hb
    simpa using hne

variable {d : PointDefinition}

theorem nodeNetRef_bytes {device feature point : Text}
    (hdevice : IsString 16 (copyString 16 device)) (hfeature : IsString 32 (copyString 32 feature))
    (hpoint : IsString 32 (copyString 32 point))
    (href : d.ref = nodeNetRefBytes device feature point) :
    nodeNetRef d = ⟨copyString 16 device, copyString 32 feature, copyString 32 point⟩ := by
  have hbytes : d.ref = charArray 16 (copyString 16 device) ++
      (charArray 32 (copyString 32 feature) ++ charArray 32 (copyString 32 point)) := by
    rw [href, nodeNetRefBytes, List.append_assoc]
  have h16 := charArray_length 16 (copyString 16 device)
  have h32 := charArray_length 32 (copyString 32 feature)
  have h32' := charArray_length 32 (copyString 32 point)
  have hfirst : charsAt d.ref 0 16 = copyString 16 device := by
    rw [charsAt, hbytes, List.drop_zero, List.take_left' h16, takeWhile_charArray hdevice]
  have hsecond : charsAt d.ref 16 32 = copyString 32 feature := by
    rw [charsAt, hbytes, List.drop_left' h16, List.take_left' h32, takeWhile_charArray hfeature]
  have hthird : charsAt d.ref 48 32 = copyString 32 point := by
    have hlength : (charArray 16 (copyString 16 device) ++
        charArray 32 (copyString 32 feature)).length = 48 := by
      rw [List.length_append, h16, h32]
    rw [charsAt, hbytes, ← List.append_assoc, List.drop_left' hlength,
      List.take_of_length_le (Nat.le_of_eq h32'), takeWhile_charArray hpoint]
  rw [nodeNetRef, hfirst, hsecond, hthird]

theorem modbusRef_bytes {portIndex slaveAddress : UInt8} {address : UInt16}
    {registerCount table access : UInt8}
    (href : d.ref = modbusRefBytes portIndex slaveAddress address registerCount table access) :
    Plc.modbusRef d = { portIndex := portIndex, slaveAddress := slaveAddress, address := address
                        registerCount := registerCount, table := .ofByte table
                        access := .ofByte access } := by
  simpa [Plc.modbusRef, href, modbusRefBytes, le16] using word_le16 address

theorem restored_sameReference (h : FieldsFit d) : SameReference d (restored d) where
  modbus hbackend := by
    have href : (restored d).ref = modbusRefBytes (d.ref.getD 0 0) (d.ref.getD 1 0)
        (Plc.modbusRef d).address (d.ref.getD 4 0) (d.ref.getD 5 0) (d.ref.getD 6 0) := by
      simp [restored, storedRef, hbackend]
    rw [modbusRef_bytes href]
    rfl
  nodeNet hbackend := by
    obtain ⟨hdevice, hfeature, hpoint⟩ := h.remote hbackend
    have href : (restored d).ref = nodeNetRefBytes (nodeNetRef d).remoteDeviceId
        (nodeNetRef d).remoteFeature (nodeNetRef d).remotePointId := by
      simp [restored, storedRef, hbackend]
    have hcopied := nodeNetRef_bytes ((copyString_of_isString hdevice).symm ▸ hdevice)
      ((copyString_of_isString hfeature).symm ▸ hfeature)
      ((copyString_of_isString hpoint).symm ▸ hpoint) href
    rw [copyString_of_isString hdevice, copyString_of_isString hfeature,
      copyString_of_isString hpoint] at hcopied
    exact hcopied

variable {library : Library} {number : UInt32 → Value}

theorem storedDefinitions_saved (hnumber : library.ReadsBack number)
    {definitions : List PointDefinition} (hfits : ∀ d ∈ definitions, FieldsFit d)
    (hpersisted : ∀ d ∈ definitions, isTransientSlotVariable d.id = false) :
    storedDefinitions library (definitions.map fun d => .array (readBackDefinition number d)) =
      definitions.map restored := by
  induction definitions with
  | nil => rfl
  | cons d definitions ih =>
    have hread := deserialize_readBack hnumber (hfits d List.mem_cons_self)
    have hid : isTransientSlotVariable (restored d).id = false := hpersisted d List.mem_cons_self
    rw [List.map_cons, storedDefinitions_stored hread hid,
      ih (fun d' hd' => hfits d' (List.mem_cons_of_mem d hd'))
        fun d' hd' => hpersisted d' (List.mem_cons_of_mem d hd')]
    rfl

theorem whole_saved (hnumber : library.ReadsBack number)
    {definitions : List PointDefinition} {room : Nat}
    (hfits : ∀ d ∈ definitions, FieldsFit d)
    (hpersisted : ∀ d ∈ definitions, isTransientSlotVariable d.id = false)
    (hroom : definitions.length ≤ room) :
    Whole library room (definitions.map fun d => .array (readBackDefinition number d)) := by
  refine ⟨fun item hitem => ?_, fun k hk => ?_⟩
  · obtain ⟨d, hd, rfl⟩ := List.mem_map.mp hitem
    rw [readable, deserialize_readBack hnumber (hfits d hd)]
    rfl
  · rw [← List.map_take, storedDefinitions_saved hnumber
      (fun d hd => hfits d (List.mem_of_mem_take hd))
      fun d hd => hpersisted d (List.mem_of_mem_take hd)]
    simp at hk ⊢
    omega

/-- What a catalog keeps of the types of its fields. -/
structure CatalogFits (c : PointCatalog) : Prop where
  size : c.size ≤ kMaxPoints
  fields : ∀ d ∈ c.definitions, FieldsFit d

/-- Every field of a definition but the enumeration is loaded as it was saved. -/
structure Restores (saved loaded : PointDefinition) : Prop where
  fields : loaded = { saved with
    enumDef := 0
    ref := loaded.ref }
  reference : SameReference saved loaded

theorem load_saved (hnumber : library.ReadsBack number) {c : PointCatalog}
    (h : CatalogFits c) (s : BrowsedCatalog) {json : Text} (hjson : json ≠ [])
    (hdoc : library.deserialize json = some (readBackDocument number c)) :
    (s.loadFromJson library (some json)).1 = true ∧
      (s.loadFromJson library (some json)).2.catalog.definitions =
        (persistedDefinitions c).map restored := by
  have hfits : ∀ d ∈ persistedDefinitions c, FieldsFit d := fun d hd =>
    h.fields d (List.mem_filter.mp hd).1
  have hpersisted : ∀ d ∈ persistedDefinitions c, isTransientSlotVariable d.id = false := by
    intro d hd
    simpa using (List.mem_filter.mp hd).2
  have hsize : (persistedDefinitions c).length ≤ kMaxPoints - ([] : List Entry).length := by
    have hle := List.length_filter_le (fun d => !isTransientSlotVariable d.id) c.definitions
    have hlength : c.definitions.length = c.size := by
      simp [PointCatalog.definitions, PointCatalog.size]
    have hfew := h.size
    rw [persistedDefinitions, List.length_nil]
    omega
  let items := (persistedDefinitions c).map fun d => Value.array (readBackDefinition number d)
  have hpoints : storedPoints (readBackDocument number c) = some items := by
    simp [storedPoints, readBackDocument, Value.at, Value.members, member, Value.items, items]
  have hwhole := whole_saved hnumber hfits hpersisted hsize
  have hload : loadEntries library items [] =
      (true, ((persistedDefinitions c).map restored).map freshEntry) := by
    apply Prod.ext
    · exact (loadEntries_true library items []).mpr hwhole
    · rw [loadEntries_whole library items [] hwhole, storedDefinitions_saved hnumber hfits hpersisted,
        List.nil_append]
  cases json with
  | nil => exact absurd rfl hjson
  | cons b json =>
    simp only [BrowsedCatalog.loadFromJson, hdoc, hpoints, hload]
    simp [PointCatalog.definitions, freshEntry, Function.comp_def]

end NodeNet.Catalog

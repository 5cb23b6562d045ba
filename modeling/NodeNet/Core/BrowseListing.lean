import NodeNet.BrowseIndex
import NodeNet.Core.PointSizes
import NodeNet.Lib.FirstSeen

/-! The paths of the point requests: a device, a feature of it, or one point. -/
namespace NodeNet.Core
open NodeNet.Points NodeNet.Catalog NodeNet.FirstSeen

section
inductive PointPathMatchKind where
  | None | Device | Feature | Point
  deriving DecidableEq

def dot : UInt8 := 0x2E

def afterName (name path : Text) : Option Text :=
  if name.isPrefixOf path && (path.drop name.length).head? = some dot then
    some (path.drop (name.length + 1))
  else none

def pathMatchesFeature (path : Text) (definition : PointDefinition) : Bool :=
  match afterName definition.id.deviceId path with
  | none => false
  | some rest => rest = definition.id.feature

def pathMatchesPoint (path : Text) (definition : PointDefinition) : Bool :=
  match afterName definition.id.deviceId path with
  | none => false
  | some featureStart =>
    match afterName definition.id.feature featureStart with
    | none => false
    | some rest => rest = definition.id.pointId

/-- A point decides at once; of the features and devices it is the last one. -/
def classifyFrom (path : Text) : PointPathMatchKind → List PointDefinition → PointPathMatchKind
  | kind, [] => kind
  | kind, definition :: rest =>
    if pathMatchesPoint path definition then .Point
    else if pathMatchesFeature path definition then classifyFrom path .Feature rest
    else if path = definition.id.deviceId then classifyFrom path .Device rest
    else classifyFrom path kind rest

def classifyPointCatalogPath (path : Text) (definitions : List PointDefinition) :
    PointPathMatchKind :=
  if path = [] then .Device else classifyFrom path .None definitions

def listsPoint (path : Text) (kind : PointPathMatchKind) (definition : PointDefinition) : Bool :=
  match kind with
  | .Point => pathMatchesPoint path definition
  | .Feature => pathMatchesFeature path definition
  | _ => false

theorem classifyFrom_device {path : Text} {kind : PointPathMatchKind}
    {definitions : List PointDefinition} (h : classifyFrom path kind definitions = .Device) :
    kind = .Device ∨ ∃ d ∈ definitions, d.id.deviceId = path := by
  induction definitions generalizing kind with
  | nil => exact .inl h
  | cons d rest ih =>
    rw [classifyFrom] at h
    split at h
    · cases h
    · split at h
      · obtain hkind | ⟨d', hd', hpath⟩ := ih h
        · cases hkind
        · exact .inr ⟨d', .tail _ hd', hpath⟩
      · split at h
        · rename_i hpath
          exact .inr ⟨d, .head _, hpath.symm⟩
        · obtain hkind | ⟨d', hd', hpath⟩ := ih h
          · exact .inl hkind
          · exact .inr ⟨d', .tail _ hd', hpath⟩

theorem classify_device {path : Text} {definitions : List PointDefinition} (hpath : path ≠ [])
    (h : classifyPointCatalogPath path definitions = .Device) :
    ∃ d ∈ definitions, d.id.deviceId = path := by
  rw [classifyPointCatalogPath, if_neg hpath] at h
  obtain hkind | hfound := classifyFrom_device h
  · cases hkind
  · exact hfound

/-! The requests for definitions and for states, answered page by page. -/
open NodeNet.Json

/-- The most that a message takes. -/
def kMaxPayloadSize : Nat := 2048

def kPagedResponseSizeReserve : Nat := 64

def responseCanAppendItem (currentSize emittedCount itemSize : Nat) : Bool :=
  if kMaxPayloadSize < itemSize then false
  else
    let nextSize := currentSize + (if emittedCount = 0 then 0 else 1) + itemSize
    if kMaxPayloadSize < nextSize then false
    else nextSize ≤ kMaxPayloadSize - kPagedResponseSizeReserve

def responseCanAppendSize (currentSize extraSize : Nat) : Bool :=
  if kMaxPayloadSize < extraSize then false
  else
    let nextSize := currentSize + extraSize
    if kMaxPayloadSize < nextSize then false
    else nextSize ≤ kMaxPayloadSize - kPagedResponseSizeReserve

def measureDeviceBrowseEntry (m : BrowseDeviceMeta) (deviceId : Text) : Nat :=
  2 + jsonStringFieldSize (ascii "deviceId") deviceId +
    (1 + jsonFieldPrefixSize (ascii "features") + 2 + m.encodedFeaturesSize.toNat)

def measureFeaturePointsGroupEntry (featureName pointsKey : Text) (firstPointSize : Nat) :
    Nat :=
  2 + jsonStringFieldSize (ascii "feature") featureName +
    (1 + jsonFieldPrefixSize pointsKey + 2) + firstPointSize

/-- What differs between the two requests. -/
structure PointListing where
  cmd : Text
  pointsKey : Text
  serialize : Nat → Entry → Value
  measure : Nat → Entry → Nat

def definitionListing : PointListing where
  cmd := ascii "pointDefsRes"
  pointsKey := ascii "points"
  serialize _ e := serializePointDefinitionCompact e.definition
  measure _ e := measurePointDefinitionCompactEntry e.definition

def responseState (virtualState : UInt32 → Nat → PointDefinition → Option PointState)
    (nowMs : UInt32) (index : Nat) (e : Entry) : PointState :=
  (virtualState nowMs index e.definition).getD e.state

def stateListing (virtualState : UInt32 → Nat → PointDefinition → Option PointState)
    (nowMs : UInt32) : PointListing where
  cmd := ascii "pointStatesRes"
  pointsKey := ascii "pointStates"
  serialize index e :=
    serializePointStateCompact e.definition (responseState virtualState nowMs index e) nowMs
  measure index e :=
    measurePointStateCompactEntry e.definition (responseState virtualState nowMs index e) nowMs

def appendDeviceFeatures (entries : List Entry) (b : BrowseIndex) (m : BrowseDeviceMeta) :
    List Text :=
  (((List.range m.featureCount.toNat).map (browseFeatureName entries b m)).takeWhile
    (·.isSome)).filterMap id

def deviceIdOf (entries : List Entry) (m : BrowseDeviceMeta) : Text :=
  ((identityAt entries m.catalogIndex).map (·.deviceId)).getD []

def findBrowseDeviceIndex (entries : List Entry) (b : BrowseIndex) (deviceId : Text) : Nat :=
  if deviceId = [] then b.devices.length
  else (b.devices.findIdx? fun m =>
    (identityAt entries m.catalogIndex).map (·.deviceId) = some deviceId).getD b.devices.length

/-- The devices that a path asks for: all of them, or the one that it names. -/
def listedDevices (entries : List Entry) (b : BrowseIndex) (path : Text) :
    List BrowseDeviceMeta :=
  if path = [] then b.devices
  else (b.devices.drop (findBrowseDeviceIndex entries b path)).take 1

def devicePage (limit : Nat) (deviceSize : BrowseDeviceMeta → Nat) :
    (emitted responseSize : Nat) → List BrowseDeviceMeta → List BrowseDeviceMeta
  | _, _, [] => []
  | emitted, responseSize, m :: rest =>
    if limit ≤ emitted then []
    else if !responseCanAppendItem responseSize emitted (deviceSize m) then []
    else
      m :: devicePage limit deviceSize (emitted + 1)
        (responseSize + (if emitted = 0 then 0 else 1) + deviceSize m) rest

/-- What a point adds to a response; the first one brings its group along. -/
def pointExtraSize (listing : PointListing) (emitted : Nat) (p : Entry × Nat) : Nat :=
  let pointSize := listing.measure p.2 p.1
  if emitted = 0 then
    measureFeaturePointsGroupEntry p.1.definition.id.feature listing.pointsKey pointSize
  else 1 + pointSize

def pointPage (listing : PointListing) (isListed : PointDefinition → Bool) (offset limit : Nat) :
    (matched emitted responseSize : Nat) → List (Entry × Nat) → List (Entry × Nat)
  | _, _, _, [] => []
  | matched, emitted, responseSize, p :: rest =>
    if !isListed p.1.definition then
      pointPage listing isListed offset limit matched emitted responseSize rest
    else if matched < offset then
      pointPage listing isListed offset limit (matched + 1) emitted responseSize rest
    else if limit ≤ emitted then
      pointPage listing isListed offset limit (matched + 1) emitted responseSize rest
    else if !responseCanAppendSize responseSize (pointExtraSize listing emitted p) then []
    else
      p :: pointPage listing isListed offset limit (matched + 1) (emitted + 1)
        (responseSize + pointExtraSize listing emitted p) rest

inductive ReadItem where
  | device (deviceId : Text) (features : List Text)
  | point (index : Nat)
  deriving DecidableEq

structure PointsResponse where
  items : List ReadItem
  hasMore : Bool
  doc : Value

/-- The members come in the order in which they are first set. -/
def responseDoc (header : List (Text × Value)) (listing : PointListing) (path : Text)
    (offset : UInt32) (count total : Nat) (hasMore : Bool) (kind arrayKey : Text)
    (items : List Value) : Value :=
  .object (header ++ [(ascii "cmd", .text listing.cmd), (ascii "path", .text path),
    (ascii "offset", ofUInt32 offset), (ascii "count", .integer count),
    (ascii "total", .integer total), (ascii "hasMore", .bool hasMore), (ascii "kind", .text kind),
    (arrayKey, .array items)])

/-- The sum wraps as the source's does. -/
def moreAfter (offset : UInt32) (count total : Nat) : Bool :=
  (offset + .ofNat count).toNat < total

def deviceValue (deviceId : Text) (features : List Text) : Value :=
  .object [(ascii "deviceId", .text deviceId), (ascii "features", .array (features.map .text))]

variable (w : Writer) (header : List (Text × Value)) (entries : List Entry) (b : BrowseIndex)
  (listing : PointListing) (path : Text) (offset limit : UInt32)

def deviceResponse : PointsResponse :=
  let devices := listedDevices entries b path
  let responseSize := measureJson w
    (responseDoc header listing path offset 0 0 false (ascii "devices") (ascii "devices") [])
  let page := devicePage limit.toNat
    (fun m => measureDeviceBrowseEntry m (deviceIdOf entries m)) 0 responseSize
    (devices.drop offset.toNat)
  let hasMore := moreAfter offset page.length devices.length
  { items := page.map fun m => .device (deviceIdOf entries m) (appendDeviceFeatures entries b m)
    hasMore := hasMore
    doc := responseDoc header listing path offset page.length devices.length hasMore
      (ascii "devices") (ascii "devices") (page.map fun m =>
        deviceValue (deviceIdOf entries m) (appendDeviceFeatures entries b m)) }

def pointGroup : List (Entry × Nat) → List Value
  | [] => []
  | p :: rest =>
    [.object [(ascii "feature", .text p.1.definition.id.feature),
      (listing.pointsKey, .array ((p :: rest).map fun p => listing.serialize p.2 p.1))]]

def pointResponse (kind : PointPathMatchKind) : PointsResponse :=
  let isListed := listsPoint path kind
  let responseSize := measureJson w
    (responseDoc header listing path offset 0 0 false (ascii "points") (ascii "pointFeatures") [])
  let page := pointPage listing isListed offset.toNat limit.toNat 0 0 responseSize entries.zipIdx
  let total := (entries.filter fun e => isListed e.definition).length
  let hasMore := moreAfter offset page.length total
  { items := page.map fun p => .point p.2
    hasMore := hasMore
    doc := responseDoc header listing path offset page.length total hasMore (ascii "points")
      (ascii "pointFeatures") (pointGroup listing page) }

def handlePointsRequest : PointsResponse :=
  let kind := classifyPointCatalogPath path (entries.map (·.definition))
  if path = [] ∨ kind = .Device then deviceResponse w header entries b listing path offset limit
  else pointResponse w header entries listing path offset limit kind

end

/-! What the browse index lists of the catalog: every device, and features that can be another's. -/

/-- The features of a device, in the order of the catalog. -/
def deviceFeatures (entries : List Entry) (deviceId : Text) : List Text :=
  firstSeen ((entries.filter fun e => e.definition.id.deviceId = deviceId).map
    (·.definition.id.feature))

def catalogDevices (entries : List Entry) : List Text :=
  firstSeen (entries.map (·.definition.id.deviceId))

/-- What the strings take with the commas behind them. -/
def listedSize : List Text → Nat
  | [] => 0
  | name :: rest => 1 + jsonStringValueSizeLocal name + listedSize rest

/-- What the strings take in an array. -/
def encodedSize (names : List Text) : Nat := listedSize names - 1

theorem listedSize_append (a b : List Text) : listedSize (a ++ b) = listedSize a + listedSize b := by
  induction a with
  | nil => simp [listedSize]
  | cons name a ih =>
    rw [List.cons_append, listedSize, listedSize, ih]
    omega

theorem encodedSize_concat (names : List Text) (name : Text) :
    encodedSize (names ++ [name]) = encodedSize names +
      ((if names.length = 0 then 0 else 1) + jsonStringValueSizeLocal name) := by
  rw [encodedSize, encodedSize, listedSize_append]
  cases names with
  | nil => simp [listedSize]
  | cons first names =>
    rw [List.length_cons, if_neg (Nat.succ_ne_zero _)]
    simp only [listedSize]
    omega

theorem deviceFeatures_concat (entries : List Entry) (e : Entry) (deviceId : Text) :
    deviceFeatures (entries ++ [e]) deviceId =
      if e.definition.id.deviceId = deviceId then
        note (deviceFeatures entries deviceId) e.definition.id.feature
      else deviceFeatures entries deviceId := by
  rw [deviceFeatures, List.filter_append, List.map_append]
  by_cases hsame : e.definition.id.deviceId = deviceId
  · rw [if_pos hsame, List.filter_cons_of_pos (by simpa using hsame), List.filter_nil,
      List.map_singleton, firstSeen_concat]
    rfl
  · rw [if_neg hsame, List.filter_cons_of_neg (by simpa using hsame), List.filter_nil,
      List.map_nil, List.append_nil]
    rfl

def featureAt (entries : List Entry) (index : UInt16) : Text :=
  ((identityAt entries index).map (·.feature)).getD []

/-- The names that the indices of the features stand for. -/
def shelf (entries : List Entry) (b : BrowseIndex) : List Text :=
  b.featureIndices.map (featureAt entries)

/-- What a device's part of the index has to do with its features. -/
structure Listed (entries done : List Entry) (b : BrowseIndex) (m : BrowseDeviceMeta) : Prop where
  inside : m.catalogIndex.toNat < entries.length
  start : m.featureStart.toNat ≤ b.featureIndices.length
  recorded : ∃ names, m.featureCount.toNat = names.length ∧
    m.encodedFeaturesSize = .ofNat (encodedSize names) ∧
    Recorded (deviceFeatures done (deviceIdOf entries m))
      ((shelf entries b).drop m.featureStart.toNat) names

structure BrowseOk (entries done : List Entry) (b : BrowseIndex) : Prop where
  devices : b.devices.map (deviceIdOf entries) = catalogDevices done
  listed : ∀ m ∈ b.devices, Listed entries done b m
  inside : ∀ i ∈ b.featureIndices, i.toNat < entries.length
  count : b.featureIndices.length ≤ done.length

theorem identityAt_eq {entries : List Entry} {index : UInt16} (h : index.toNat < entries.length) :
    identityAt entries index = some entries[index.toNat].definition.id := by
  rw [identityAt, List.getElem?_eq_getElem h, Option.map_some]

variable {entries done : List Entry} {b : BrowseIndex} {m : BrowseDeviceMeta}

theorem browseFeatureName_eq (hinside : ∀ i ∈ b.featureIndices, i.toNat < entries.length)
    {offset : Nat} (hoffset : offset < m.featureCount.toNat) :
    browseFeatureName entries b m offset =
      ((shelf entries b).drop m.featureStart.toNat)[offset]? := by
  rw [browseFeatureName, if_neg (Nat.not_le.mpr hoffset), List.getElem?_drop, shelf,
    List.getElem?_map]
  cases hindex : b.featureIndices[m.featureStart.toNat + offset]? with
  | none => rfl
  | some index =>
    have hlt := hinside index (List.mem_of_getElem? hindex)
    simp only [Option.map_some, identityAt_eq hlt, featureAt, Option.getD_some]

theorem featureExists_iff (hinside : ∀ i ∈ b.featureIndices, i.toNat < entries.length)
    (feature : Text) : ((List.range m.featureCount.toNat).any fun offset =>
        browseFeatureName entries b m offset = some feature) = true ↔
      feature ∈ ((shelf entries b).drop m.featureStart.toNat).take m.featureCount.toNat := by
  rw [List.any_eq_true, List.mem_take_iff_getElem]
  constructor
  · rintro ⟨offset, hoffset, hname⟩
    rw [List.mem_range] at hoffset
    have hget := of_decide_eq_true hname
    rw [browseFeatureName_eq hinside hoffset] at hget
    obtain ⟨hlt, hvalue⟩ := List.getElem?_eq_some_iff.mp hget
    exact ⟨offset, by omega, hvalue⟩
  · rintro ⟨offset, hoffset, hvalue⟩
    refine ⟨offset, List.mem_range.mpr (by omega), decide_eq_true ?_⟩
    rw [browseFeatureName_eq hinside (by omega)]
    exact List.getElem?_eq_some_iff.mpr ⟨by omega, hvalue⟩

theorem map_range_getElem? {α : Type} {l : List α} {n : Nat} (h : n ≤ l.length) :
    (List.range n).map (fun i => l[i]?) = (l.take n).map some := by
  apply List.ext_getElem
  · simp [Nat.min_eq_left h]
  · intro i hi hi'
    simp at hi
    have hlt : i < l.length := by omega
    simp [hlt]

theorem appendDeviceFeatures_eq (hinside : ∀ i ∈ b.featureIndices, i.toNat < entries.length)
    (hlong : m.featureCount.toNat ≤ ((shelf entries b).drop m.featureStart.toNat).length) :
    appendDeviceFeatures entries b m =
      ((shelf entries b).drop m.featureStart.toNat).take m.featureCount.toNat := by
  have hnames : (List.range m.featureCount.toNat).map (browseFeatureName entries b m) =
      (((shelf entries b).drop m.featureStart.toNat).take m.featureCount.toNat).map some := by
    rw [← map_range_getElem? hlong]
    apply List.map_congr_left
    intro offset hoffset
    exact browseFeatureName_eq hinside (List.mem_range.mp hoffset)
  rw [appendDeviceFeatures, hnames]
  generalize ((shelf entries b).drop m.featureStart.toNat).take m.featureCount.toNat = names
  induction names with
  | nil => rfl
  | cons name names ih => simpa using ih

/-- The place of a device in the index; a new one is the last. -/
theorem withBrowseDevice_spec (h : BrowseOk entries done b) (hsize : entries.length ≤ kMaxPoints)
    (hdone : done.length < entries.length) {e : Entry} (he : entries[done.length]? = some e) :
    ∃ b' device m, withBrowseDevice entries b e.definition.id done.length = (b', device) ∧
      b'.devices[device]? = some m ∧ deviceIdOf entries m = e.definition.id.deviceId ∧
      b'.devices.map (deviceIdOf entries) = catalogDevices (done ++ [e]) ∧
      b'.featureIndices = b.featureIndices ∧ ∀ m' ∈ b'.devices, Listed entries done b' m' := by
  have hmax : kMaxPoints = 1024 := rfl
  have hids : ∀ m ∈ b.devices, (identityAt entries m.catalogIndex).map (·.deviceId) =
      some (deviceIdOf entries m) := by
    intro m hm
    rw [deviceIdOf, identityAt_eq (h.listed m hm).inside]
    rfl
  have hdevices : catalogDevices (done ++ [e]) =
      note (catalogDevices done) e.definition.id.deviceId := by
    rw [catalogDevices, List.map_append, List.map_singleton, firstSeen_concat]
    rfl
  rw [withBrowseDevice]
  cases hfound : b.devices.findIdx? (fun m => decide
      ((identityAt entries m.catalogIndex).map (·.deviceId) = some e.definition.id.deviceId)) with
  | some device =>
    obtain ⟨hlt, hmatch, -⟩ := List.findIdx?_eq_some_iff_getElem.mp hfound
    have hid := of_decide_eq_true hmatch
    have hmem : b.devices[device] ∈ b.devices := List.getElem_mem hlt
    rw [hids _ hmem, Option.some.injEq] at hid
    refine ⟨b, device, b.devices[device], rfl, List.getElem?_eq_getElem hlt, hid, ?_, rfl,
      h.listed⟩
    rw [h.devices, hdevices, note, if_pos]
    rw [← h.devices, ← hid]
    exact List.mem_map_of_mem hmem
  | none =>
    have hnew : e.definition.id.deviceId ∉ catalogDevices done := by
      rw [← h.devices]
      intro hmem
      obtain ⟨m, hm, hid⟩ := List.mem_map.mp hmem
      have hnot := List.findIdx?_eq_none_iff.mp hfound m hm
      rw [hids m hm, hid] at hnot
      simp at hnot
    have hindex : (UInt16.ofNat done.length).toNat = done.length :=
      UInt16.toNat_ofNat_of_lt' (by rw [UInt16.size]; omega)
    have hstart : (UInt16.ofNat b.featureIndices.length).toNat = b.featureIndices.length :=
      UInt16.toNat_ofNat_of_lt' (by have hcount := h.count; rw [UInt16.size]; omega)
    have hid : deviceIdOf entries ⟨UInt16.ofNat done.length,
        UInt16.ofNat b.featureIndices.length, 0, 0⟩ = e.definition.id.deviceId := by
      rw [deviceIdOf, identityAt]
      simp only [hindex, he, Option.map_some, Option.getD_some]
    refine ⟨_, _, _, rfl, by simp, hid, ?_, rfl, fun m' hm' => ?_⟩
    · rw [List.map_append, List.map_singleton, hid, h.devices, hdevices, note, if_neg hnew]
    · rw [List.mem_append, List.mem_singleton] at hm'
      obtain hold | rfl := hm'
      · exact ⟨(h.listed m' hold).inside, (h.listed m' hold).start, (h.listed m' hold).recorded⟩
      · refine ⟨by rw [hindex]; exact hdone, Nat.le_of_eq hstart, [], rfl, rfl, ?_⟩
        have hnone : deviceFeatures done e.definition.id.deviceId = [] := by
          rw [deviceFeatures, List.filter_eq_nil_iff.mpr]
          · rfl
          · intro e' he' hsame
            apply hnew
            rw [catalogDevices, mem_firstSeen]
            exact List.mem_map.mpr ⟨e', he', of_decide_eq_true hsame⟩
        rw [hid, hnone]
        exact Recorded.nil _

theorem shelf_append (entries : List Entry) (b : BrowseIndex) (more : List UInt16)
    {devices : List BrowseDeviceMeta} {start : Nat} (hstart : start ≤ b.featureIndices.length) :
    (shelf entries ⟨devices, b.featureIndices ++ more⟩).drop start =
      (shelf entries b).drop start ++ more.map (featureAt entries) := by
  rw [shelf, List.map_append, List.drop_append_of_le_length]
  · rfl
  · rw [List.length_map]
    exact hstart

theorem Listed.other (h : Listed entries done b m) {e : Entry}
    (hother : deviceIdOf entries m ≠ e.definition.id.deviceId) (devices : List BrowseDeviceMeta)
    (more : List UInt16) :
    Listed entries (done ++ [e]) ⟨devices, b.featureIndices ++ more⟩ m := by
  obtain ⟨names, hcount, hencoded, hrecorded⟩ := h.recorded
  refine ⟨h.inside, ?_, names, hcount, hencoded, ?_⟩
  · rw [List.length_append]
    exact Nat.le_trans h.start (Nat.le_add_right _ _)
  · rw [deviceFeatures_concat, if_neg (Ne.symm hother), shelf_append _ _ _ h.start]
    exact hrecorded.shelved _

/-- One more entry of the catalog. -/
theorem addBrowseEntry_ok (h : BrowseOk entries done b) (hsize : entries.length ≤ kMaxPoints)
    {e : Entry} (he : entries[done.length]? = some e) :
    BrowseOk entries (done ++ [e]) (addBrowseEntry entries b (e, done.length)) := by
  have hmax : kMaxPoints = 1024 := rfl
  have hdone := (List.getElem?_eq_some_iff.mp he).1
  obtain ⟨b', device, m, hwith, hm, hid, hdevices, hsame, hlisted⟩ :=
    withBrowseDevice_spec h hsize hdone he
  have hinside : ∀ i ∈ b'.featureIndices, i.toNat < entries.length := hsame ▸ h.inside
  have hcount : b'.featureIndices.length ≤ done.length := hsame ▸ h.count
  have hmem := List.mem_of_getElem? hm
  -- the ids of the devices differ
  have hunique : ∀ {i : Nat} {m' : BrowseDeviceMeta}, b'.devices[i]? = some m' →
      deviceIdOf entries m' = e.definition.id.deviceId → i = device := by
    intro i m' hm' hid'
    have hnodup : (b'.devices.map (deviceIdOf entries)).Nodup := by
      rw [hdevices]
      exact firstSeen_nodup _
    have hi : (b'.devices.map (deviceIdOf entries))[i]? = some e.definition.id.deviceId := by
      rw [List.getElem?_map, hm', Option.map_some, hid']
    have hdevice : (b'.devices.map (deviceIdOf entries))[device]? =
        some e.definition.id.deviceId := by
      rw [List.getElem?_map, hm, Option.map_some, hid]
    obtain ⟨hlt, hget⟩ := List.getElem?_eq_some_iff.mp hi
    obtain ⟨hlt', hget'⟩ := List.getElem?_eq_some_iff.mp hdevice
    exact (List.getElem_inj hnodup).mp (hget.trans hget'.symm)
  obtain ⟨names, hlength, hencoded, hrecorded⟩ := (hlisted m hmem).recorded
  have hexists := @featureExists_iff entries b' m hinside e.definition.id.feature
  rw [addBrowseEntry, hwith]
  simp only [hm]
  by_cases hfeature : ((List.range m.featureCount.toNat).any fun offset =>
      browseFeatureName entries b' m offset = some e.definition.id.feature) = true
  · have hseen := hexists.mp hfeature
    rw [if_pos (by rw [hfeature]; rfl)]
    refine ⟨hdevices, fun m' hm' => ?_, hinside, ?_⟩
    · obtain ⟨i, hi, rfl⟩ := List.mem_iff_getElem.mp hm'
      by_cases hown : deviceIdOf entries b'.devices[i] = e.definition.id.deviceId
      · have hsame := hunique (List.getElem?_eq_getElem hi) hown
        subst hsame
        rw [List.getElem?_eq_getElem hi, Option.some.injEq] at hm
        rw [hm] at hown ⊢
        refine ⟨(hlisted m hmem).inside, (hlisted m hmem).start, names, hlength, hencoded, ?_⟩
        rw [deviceFeatures_concat, if_pos hown.symm]
        rw [hlength] at hseen
        exact hrecorded.seenAgain hseen
      · have hother := (hlisted _ hm').other hown b'.devices []
        rwa [List.append_nil] at hother
    · rw [List.length_append]
      exact Nat.le_trans hcount (Nat.le_add_right _ _)
  · have hunseen := hfeature
    rw [hexists, hlength] at hunseen
    have hroom : ¬ kMaxPoints ≤ b'.featureIndices.length := by omega
    rw [Bool.not_eq_true] at hfeature
    rw [if_neg (by rw [hfeature]; simp [hroom])]
    have hindex : (UInt16.ofNat done.length).toNat = done.length :=
      UInt16.toNat_ofNat_of_lt' (by rw [UInt16.size]; omega)
    have hname : featureAt entries (UInt16.ofNat done.length) = e.definition.id.feature := by
      rw [featureAt, identityAt]
      simp only [hindex, he, Option.map_some, Option.getD_some]
    have hfew : names.length ≤ done.length := by
      have hlong := hrecorded.long
      rw [List.length_drop, shelf, List.length_map] at hlong
      omega
    refine ⟨?_, fun m' hm' => ?_, fun i hi => ?_, ?_⟩
    · rw [← hdevices]
      apply List.ext_getElem?
      intro i
      rw [List.getElem?_map, List.getElem?_map, List.getElem?_set]
      by_cases hi : device = i
      · subst hi
        rw [if_pos rfl, if_pos (List.getElem?_eq_some_iff.mp hm).1, hm]
        rfl
      · rw [if_neg hi]
    · obtain ⟨i, hi⟩ := List.mem_iff_getElem?.mp hm'
      rw [List.getElem?_set] at hi
      by_cases hdevice : device = i
      · rw [if_pos hdevice, if_pos (List.getElem?_eq_some_iff.mp hm).1, Option.some.injEq] at hi
        subst hi
        have hstart := (hlisted m hmem).start
        have hgrown : (m.featureCount + 1).toNat = names.length + 1 := by
          rw [UInt16.toNat_add, hlength]
          change (names.length + 1) % 65536 = _
          omega
        have hzero : (m.featureCount = 0) ↔ names.length = 0 := by
          rw [← UInt16.toNat_inj, hlength]
          exact Iff.rfl
        refine ⟨(hlisted m hmem).inside, ?_, names ++ [e.definition.id.feature], ?_, ?_, ?_⟩
        · rw [List.length_append]
          exact Nat.le_trans hstart (Nat.le_add_right _ _)
        · rw [hgrown, List.length_append, List.length_singleton]
        · have hcomma : (if m.featureCount = 0 then 0 else 1 : Nat) =
              if names.length = 0 then 0 else 1 := by
            simp only [hzero]
          rw [hcomma, hencoded, encodedSize_concat, UInt16.ofNat_add (encodedSize names)]
        · change Recorded (deviceFeatures (done ++ [e]) (deviceIdOf entries m)) _ _
          rw [deviceFeatures_concat, if_pos hid.symm, shelf_append _ _ _ hstart, List.map_singleton,
            hname]
          exact hrecorded.record (firstSeen_nodup _) hunseen
      · rw [if_neg hdevice] at hi
        have hother : deviceIdOf entries m' ≠ e.definition.id.deviceId := fun hown =>
          hdevice (hunique hi hown).symm
        exact (hlisted m' (List.mem_of_getElem? hi)).other hother _ _
    · rw [List.mem_append, List.mem_singleton] at hi
      obtain hold | rfl := hi
      · exact hinside i hold
      · rw [hindex]
        exact hdone
    · rw [List.length_append, List.length_append]
      exact Nat.add_le_add_right hcount 1

theorem rebuildBrowseIndex_ok (hsize : entries.length ≤ kMaxPoints) :
    BrowseOk entries entries (rebuildBrowseIndex entries) := by
  have hstep : ∀ (rest done : List Entry) (b : BrowseIndex), done ++ rest = entries →
      BrowseOk entries done b →
      BrowseOk entries entries ((rest.zipIdx done.length).foldl (addBrowseEntry entries) b) := by
    intro rest
    induction rest with
    | nil =>
      intro done b hall h
      rw [List.append_nil] at hall
      rw [← hall] at h ⊢
      exact h
    | cons e rest ih =>
      intro done b hall h
      have he : entries[done.length]? = some e := by
        rw [← hall, List.getElem?_append_right (Nat.le_refl _), Nat.sub_self]
        rfl
      have hnext := ih (done ++ [e]) _ (by rw [← hall, List.append_assoc]; rfl)
        (addBrowseEntry_ok h hsize he)
      rw [List.length_append, List.length_singleton] at hnext
      rw [List.zipIdx_cons, List.foldl_cons]
      exact hnext
  exact hstep entries [] .empty rfl ⟨rfl, by simp [BrowseIndex.empty], by simp [BrowseIndex.empty],
    Nat.le_refl _⟩

theorem encodedFeaturesSize_eq (h : BrowseOk entries done b) (hm : m ∈ b.devices)
    (hright : appendDeviceFeatures entries b m = deviceFeatures done (deviceIdOf entries m)) :
    m.encodedFeaturesSize =
      .ofNat (encodedSize (deviceFeatures done (deviceIdOf entries m))) := by
  obtain ⟨names, hlength, hencoded, hrecorded⟩ := (h.listed m hm).recorded
  have hlong := hrecorded.long
  rw [appendDeviceFeatures_eq h.inside (by omega), hlength] at hright
  have hagree := hrecorded.agree names.length (Nat.le_refl _) (by
    rw [← hright, List.take_take, Nat.min_self])
  rw [List.take_length, hright] at hagree
  rw [hencoded, hagree]

end NodeNet.Core

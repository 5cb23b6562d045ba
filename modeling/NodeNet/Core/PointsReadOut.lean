import NodeNet.Core.PagedListing
import NodeNet.Loader

/-! When the definitions and the states of the points can be read out page by page. -/
namespace NodeNet.Core
open NodeNet.Points NodeNet.Catalog NodeNet.Json NodeNet.Paging NodeNet.FirstSeen

inductive PointRequest where
  | definitions
  | states

def PointRequest.listing (virtualState : UInt32 → Nat → PointDefinition → Option PointState) :
    PointRequest → UInt32 → PointListing
  | .definitions, _ => definitionListing
  | .states, nowMs => stateListing virtualState nowMs

/-- The responses of a node whose catalog has the entries. -/
def pointsResponder (w : Writer) (header : List (Text × Value)) (entries : List Entry)
    (listing : UInt32 → PointListing) (path : Text) (limit : UInt32) : Responder :=
  fun now offset =>
    handlePointsRequest w header entries (rebuildBrowseIndex entries) (listing now) path offset limit

def ListsDevices (entries : List Entry) (path : Text) : Prop :=
  path = [] ∨ classifyPointCatalogPath path (entries.map (·.definition)) = .Device

instance (entries : List Entry) (path : Text) : Decidable (ListsDevices entries path) :=
  inferInstanceAs (Decidable (_ ∨ _))

/-- The points that a path stands for, with their places in the catalog. -/
def askedPoints (entries : List Entry) (path : Text) : List (Entry × Nat) :=
  listedPoints (listsPoint path (classifyPointCatalogPath path (entries.map (·.definition))))
    entries.zipIdx

/-- The items that match a path, in the order of the catalog. -/
def matchingItems (entries : List Entry) (path : Text) : List ReadItem :=
  if ListsDevices entries path then
    (askedDevices entries path).map fun deviceId => .device deviceId (deviceFeatures entries deviceId)
  else (askedPoints entries path).map fun p => .point p.2

section
variable (w : Writer) (header : List (Text × Value)) (entries : List Entry)
  (listing : UInt32 → PointListing) (path : Text) (limit : UInt32)

structure DevicesReadable : Prop where
  limit : askedDevices entries path ≠ [] → limit ≠ 0
  empty : askedDevices entries path = [] → ∀ now,
    devicesBase w header listing path now 0 ≤ kMaxPayloadSize
  -- the index has each device's own features
  named : ∀ m ∈ listedDevices entries (rebuildBrowseIndex entries) path,
    appendDeviceFeatures entries (rebuildBrowseIndex entries) m =
      deviceFeatures entries (deviceIdOf entries m)
  room : ∀ (now place : UInt32) deviceId, (askedDevices entries path)[place.toNat]? = some deviceId →
    devicesBase w header listing path now place +
      deviceEntrySize deviceId (deviceFeatures entries deviceId) ≤ pageRoom

structure PointsReadable : Prop where
  limit : askedPoints entries path ≠ [] → limit ≠ 0
  empty : askedPoints entries path = [] → ∀ now,
    pointsBase w header listing path now 0 ≤ kMaxPayloadSize
  room : ∀ (now place : UInt32) p, (askedPoints entries path)[place.toNat]? = some p →
    pointsBase w header listing path now place + pointExtraSize (listing now) 0 p ≤ pageRoom

/-- Every item has room on a page that begins with it. -/
def Readable : Prop :=
  if ListsDevices entries path then DevicesReadable w header entries listing path limit
  else PointsReadable w header entries listing path limit

/-- The points are all of one feature; a path with dots in its names can stand for several. -/
def OneFeature : Prop :=
  ∀ p ∈ askedPoints entries path, ∀ q ∈ askedPoints entries path,
    p.1.definition.id.feature = q.1.definition.id.feature

end

variable {w : Writer} {header : List (Text × Value)} {entries : List Entry}
  {listing : UInt32 → PointListing} {path : Text} {limit : UInt32}

theorem toNat_pos_iff {limit : UInt32} : 0 < limit.toNat ↔ limit ≠ 0 := by
  rw [Nat.pos_iff_ne_zero, ne_eq, ne_eq, ← UInt32.toNat_inj]
  rfl

theorem devices_respond (h : ListsDevices entries path) :
    pointsResponder w header entries listing path limit = fun now offset =>
      deviceResponse w header entries (rebuildBrowseIndex entries) (listing now) path offset
        limit := by
  funext now offset
  rw [pointsResponder, handlePointsRequest]
  exact if_pos h

theorem points_respond (h : ¬ ListsDevices entries path) :
    pointsResponder w header entries listing path limit = fun now offset =>
      pointResponse w header entries (listing now) path offset limit
        (classifyPointCatalogPath path (entries.map (·.definition))) := by
  funext now offset
  rw [pointsResponder, handlePointsRequest]
  exact if_neg h

theorem askedDevices_eq_nil (hsize : entries.length ≤ kMaxPoints)
    (hkind : ListsDevices entries path) : askedDevices entries path = [] ↔
      listedDevices entries (rebuildBrowseIndex entries) path = [] := by
  rw [← listedDevices_ids (rebuildBrowseIndex_ok hsize) hkind, List.map_eq_nil_iff]

theorem askedDevices_get (hsize : entries.length ≤ kMaxPoints) (hkind : ListsDevices entries path)
    {i : Nat} {m : BrowseDeviceMeta}
    (hm : (listedDevices entries (rebuildBrowseIndex entries) path)[i]? = some m) :
    (askedDevices entries path)[i]? = some (deviceIdOf entries m) := by
  rw [← listedDevices_ids (rebuildBrowseIndex_ok hsize) hkind, List.getElem?_map, hm,
    Option.map_some]

theorem deviceSize_eq (hsize : entries.length ≤ kMaxPoints) {m : BrowseDeviceMeta}
    (hm : m ∈ listedDevices entries (rebuildBrowseIndex entries) path)
    (hnamed : appendDeviceFeatures entries (rebuildBrowseIndex entries) m =
      deviceFeatures entries (deviceIdOf entries m))
    (hshort : encodedSize (deviceFeatures entries (deviceIdOf entries m)) < 65536) :
    deviceSize entries m = deviceEntrySize (deviceIdOf entries m)
      (deviceFeatures entries (deviceIdOf entries m)) := by
  rw [deviceSize, measureDeviceBrowseEntry_eq (encodedFeaturesSize_eq (rebuildBrowseIndex_ok hsize)
    (listedDevices_sub hm) hnamed) hshort]

/-- The devices are read out if each has room and its own features. -/
theorem DevicesReadable.readsOut (h : DevicesReadable w header entries listing path limit)
    (hw : Reckoned w) (hsize : entries.length ≤ kMaxPoints) (hkind : ListsDevices entries path) :
    ReadsOut w (pointsResponder w header entries listing path limit)
      (matchingItems entries path) := by
  have hmax : kMaxPoints = 1024 := rfl
  have hmaxPayload : kMaxPayloadSize = 2048 := rfl
  have hroomSize : pageRoom = 1984 := rfl
  have hok := rebuildBrowseIndex_ok hsize
  have hfill := @devices_fill entries _ path w header listing limit hok hsize
  have hsizes : ∀ m ∈ listedDevices entries (rebuildBrowseIndex entries) path,
      deviceSize entries m = deviceEntrySize (deviceIdOf entries m)
        (deviceFeatures entries (deviceIdOf entries m)) := by
    intro m hm
    obtain ⟨i, hi, hget⟩ := List.mem_iff_getElem.mp hm
    have hfew := @listedDevices_few entries _ path hok
    have hplace : (UInt32.ofNat i).toNat = i :=
      UInt32.toNat_ofNat_of_lt' (by rw [UInt32.size]; omega)
    have hroom := h.room 0 (.ofNat i) (deviceIdOf entries m) (by
      rw [hplace]
      exact askedDevices_get hsize hkind (hget ▸ List.getElem?_eq_getElem hi))
    rw [deviceEntrySize] at hroom
    exact deviceSize_eq hsize hm (h.named m hm) (by omega)
  have hitems : matchingItems entries path =
      (listedDevices entries (rebuildBrowseIndex entries) path).map
        (deviceItem entries (rebuildBrowseIndex entries)) := by
    rw [matchingItems, if_pos hkind, ← listedDevices_ids hok hkind, List.map_map]
    apply List.map_congr_left
    intro m hm
    rw [deviceItem, h.named m hm]
    rfl
  rw [devices_respond hkind, hitems]
  refine hfill.readsOut (fun hne => ?_) (fun hnone now => ?_) (fun now offset m hm => ?_)
    fun now offset hbase => ?_
  · rw [ne_eq, ← askedDevices_eq_nil hsize hkind] at hne
    exact toNat_pos_iff.mpr (h.limit hne)
  · exact h.empty ((askedDevices_eq_nil hsize hkind).mpr hnone) now
  · have hroom := h.room now offset _ (askedDevices_get hsize hkind hm)
    rw [deviceCost, if_pos rfl, Nat.zero_add, hsizes m (List.mem_of_getElem? hm)]
    exact hroom
  · refine deviceResponse_small hok hsize (fun m hm => ?_) hbase
    rw [h.named m hm, hsizes m hm]
    exact deviceValue_le hw _ _

/-- They are read out only if it is so. -/
theorem DevicesReadable.of_readsOut (hw : Reckoned w) (hsize : entries.length ≤ kMaxPoints)
    (hkind : ListsDevices entries path)
    (hreads : ReadsOut w (pointsResponder w header entries listing path limit)
      (matchingItems entries path)) : DevicesReadable w header entries listing path limit := by
  have hmax : kMaxPayloadSize = 2048 := rfl
  have hok := rebuildBrowseIndex_ok hsize
  have hfill := @devices_fill entries _ path w header listing limit hok hsize
  rw [devices_respond hkind] at hreads
  have hnamed : ∀ m ∈ listedDevices entries (rebuildBrowseIndex entries) path,
      appendDeviceFeatures entries (rebuildBrowseIndex entries) m =
        deviceFeatures entries (deviceIdOf entries m) := by
    have hitems := hfill.eq_of_readsOut hreads
    rw [matchingItems, if_pos hkind, ← listedDevices_ids hok hkind, List.map_map] at hitems
    intro m hm
    have hitem := List.map_inj_left.mp hitems m hm
    rw [deviceItem, Function.comp_apply, ReadItem.device.injEq] at hitem
    exact hitem.2.symm
  refine ⟨fun hne => ?_, fun hnone now => ?_, hnamed, fun now place deviceId hid => ?_⟩
  · rw [ne_eq, askedDevices_eq_nil hsize hkind] at hne
    exact toNat_pos_iff.mp (hfill.limit_of_readsOut hreads hne)
  · exact hfill.empty_of_readsOut hreads ((askedDevices_eq_nil hsize hkind).mp hnone) now
  · rw [← listedDevices_ids hok hkind, List.getElem?_map, Option.map_eq_some_iff] at hid
    obtain ⟨m, hm, rfl⟩ := hid
    have hmem := List.mem_of_getElem? hm
    obtain ⟨offset, hoffset, hsmall, hreached⟩ :=
      hfill.sent_of_readsOut hreads now (List.getElem?_eq_some_iff.mp hm).1
    -- the document has the features, so that the count of their size did not wrap
    have hvalue : measureJson w (deviceValue (deviceIdOf entries m)
        (deviceFeatures entries (deviceIdOf entries m))) ≤ kMaxPayloadSize := by
      refine Nat.le_trans (Nat.le_trans (item_le_array ?_) (array_le_responseDoc _ _ _ _ _ _)) hsmall
      rw [devicePage_eq]
      refine List.mem_map.mpr ⟨m, hfill.mem_of_reached hm hoffset hreached, ?_⟩
      rw [hnamed m hmem]
    have hshort := encodedSize_le hw (deviceIdOf entries m)
      (deviceFeatures entries (deviceIdOf entries m))
    have hentry := deviceSize_eq hsize hmem (hnamed m hmem) (by omega)
    have hfew := @listedDevices_few entries _ path hok
    have hroom := hfill.fits_of_reached (fun offset offset' hlt => emptySize_le _ _ (by omega))
      (fun a _ x _ emitted => ?_) hm hoffset hreached
    · rw [deviceCost, if_pos rfl, Nat.zero_add, hentry] at hroom
      exact hroom
    · have htwo := two_le_measureDeviceBrowseEntry x (deviceIdOf entries x)
      simp only [deviceCost, if_pos, if_neg (Nat.succ_ne_zero emitted), deviceSize]
      omega

structure ListingReckoned (w : Writer) (listing : PointListing) : Prop where
  key : PlainKey listing.pointsKey
  values : ∀ p : Entry × Nat, measureJson w (listing.serialize p.2 p.1) ≤ listing.measure p.2 p.1
  brackets : ∀ p : Entry × Nat, 2 ≤ listing.measure p.2 p.1

theorem PointRequest.listing_reckoned (hw : Reckoned w)
    (virtualState : UInt32 → Nat → PointDefinition → Option PointState) (request : PointRequest)
    (now : UInt32) : ListingReckoned w (request.listing virtualState now) := by
  cases request with
  | definitions =>
    have hkey : PlainKey (ascii "points") := by decide
    refine ⟨hkey, fun p => measurePointDefinition_le hw p.1.definition, fun p => ?_⟩
    change 2 ≤ measurePointDefinitionCompactEntry p.1.definition
    rw [measurePointDefinitionCompactEntry]
    omega
  | states =>
    have hkey : PlainKey (ascii "pointStates") := by decide
    refine ⟨hkey, fun p => measurePointState_le hw p.1.definition _ now, fun p => ?_⟩
    change 2 ≤ measurePointStateCompactEntry p.1.definition _ now
    rw [measurePointStateCompactEntry]
    omega

theorem PointsReadable.readsOut (h : PointsReadable w header entries listing path limit)
    (hw : Reckoned w) (hlisting : ∀ now, ListingReckoned w (listing now))
    (hsize : entries.length ≤ kMaxPoints) (hkind : ¬ ListsDevices entries path) :
    ReadsOut w (pointsResponder w header entries listing path limit)
      (matchingItems entries path) := by
  have hfill := @points_fill entries path w header listing limit hsize
    (classifyPointCatalogPath path (entries.map (·.definition)))
  rw [points_respond hkind, matchingItems, if_neg hkind]
  refine hfill.readsOut (fun hne => toNat_pos_iff.mpr (h.limit hne)) h.empty h.room ?_
  intro now offset hbase
  exact pointResponse_small hw hsize _ (hlisting now).key (hlisting now).values hbase

theorem PointsReadable.of_readsOut (hlisting : ∀ now, ListingReckoned w (listing now))
    (hsize : entries.length ≤ kMaxPoints) (hkind : ¬ ListsDevices entries path)
    (hone : OneFeature entries path)
    (hreads : ReadsOut w (pointsResponder w header entries listing path limit)
      (matchingItems entries path)) : PointsReadable w header entries listing path limit := by
  have hfill := @points_fill entries path w header listing limit hsize
    (classifyPointCatalogPath path (entries.map (·.definition)))
  rw [points_respond hkind] at hreads
  refine ⟨fun hne => toNat_pos_iff.mp (hfill.limit_of_readsOut hreads hne),
    hfill.empty_of_readsOut hreads, fun now place p hp => ?_⟩
  obtain ⟨offset, hoffset, -, hreached⟩ :=
    hfill.sent_of_readsOut hreads now (List.getElem?_eq_some_iff.mp hp).1
  have hfew := hfill.few
  refine hfill.fits_of_reached (fun offset offset' hlt => emptySize_le _ _ (by omega))
    (fun a ha x hx emitted => ?_) hp hoffset hreached
  have htwo := (hlisting now).brackets x
  simp only [pointExtraSize, if_pos, if_neg (Nat.succ_ne_zero emitted), hone a ha x hx,
    measureFeaturePointsGroupEntry]
  omega

/-- The definitions and the states are read out completely in responses that can be sent, if every
item has room on a page that begins with it; and if a path stands for one feature, only then. -/
theorem points_read_out (hw : Reckoned w)
    (virtualState : UInt32 → Nat → PointDefinition → Option PointState) (request : PointRequest)
    (hsize : entries.length ≤ kMaxPoints) :
    (Readable w header entries (request.listing virtualState) path limit →
      ReadsOut w (pointsResponder w header entries (request.listing virtualState) path limit)
        (matchingItems entries path)) ∧
    (OneFeature entries path →
      ReadsOut w (pointsResponder w header entries (request.listing virtualState) path limit)
        (matchingItems entries path) →
      Readable w header entries (request.listing virtualState) path limit) := by
  have hlisting := request.listing_reckoned hw virtualState
  rw [Readable]
  by_cases hkind : ListsDevices entries path
  · rw [if_pos hkind]
    exact ⟨fun h => h.readsOut hw hsize hkind, fun _ => .of_readsOut hw hsize hkind⟩
  · rw [if_neg hkind]
    exact ⟨fun h => h.readsOut hw hlisting hsize hkind,
      fun hone => .of_readsOut hlisting hsize hkind hone⟩

def deviceOf (features : List Text) : List Entry :=
  features.map fun feature =>
    freshEntry (Loader.defaultDefinition ⟨ascii "io", feature, ascii "x"⟩)

/-- A device with two features is read out. -/
theorem twoFeatures_read_out :
    ReadsOut plainWriter
      (pointsResponder plainWriter [] (deviceOf [ascii "di", ascii "do"])
        (PointRequest.states.listing fun _ _ _ => none) [] 4)
      (matchingItems (deviceOf [ascii "di", ascii "do"]) []) := by
  refine (points_read_out plainWriter_reckoned (fun _ _ _ => none) .states (by decide)).1 ?_
  rw [Readable, if_pos (.inl rfl)]
  have hasked : askedDevices (deviceOf [ascii "di", ascii "do"]) [] = [ascii "io"] := by
    decide +kernel
  refine ⟨fun _ => by decide, fun hnone => ?_, by decide +kernel, fun now place deviceId hid => ?_⟩
  · rw [hasked] at hnone
    cases hnone
  · rw [hasked, List.getElem?_singleton] at hid
    split at hid
    · rename_i hzero
      have hplace : place = 0 := by
        rw [← UInt32.toNat_inj]
        exact hzero
      subst hplace
      cases hid
      exact Nat.le_of_ble_eq_true rfl
    · cases hid

/-- Sixty names of the greatest length. -/
def longFeatures : List Text :=
  (List.range 60).map fun i =>
    [UInt8.ofNat (0x30 + i / 10), UInt8.ofNat (0x30 + i % 10)] ++ List.replicate 29 0x61

/-- A device with so many features is on no page, and the client asks for it forever. -/
theorem longFeatures_not_read_out :
    ¬ ReadsOut plainWriter
      (pointsResponder plainWriter [] (deviceOf longFeatures)
        (PointRequest.definitions.listing fun _ _ _ => none) [] 4)
      (matchingItems (deviceOf longFeatures) []) := by
  intro hreads
  have hreadable := DevicesReadable.of_readsOut plainWriter_reckoned (by decide) (.inl rfl) hreads
  have hfeatures : deviceFeatures (deviceOf longFeatures) (ascii "io") = longFeatures := by
    decide +kernel
  have hasked : askedDevices (deviceOf longFeatures) [] = [ascii "io"] := by
    decide +kernel
  have hroom := hreadable.room 0 0 (ascii "io") (by rw [hasked]; rfl)
  have hlarge : pageRoom < encodedSize longFeatures := by decide +kernel
  rw [hfeatures, deviceEntrySize] at hroom
  omega

end NodeNet.Core

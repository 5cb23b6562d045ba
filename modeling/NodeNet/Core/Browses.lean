import NodeNet.Core.BrowseGroups

/-! What browsing shows of the catalog, after every history of it. -/
namespace NodeNet.Core
open NodeNet.Points NodeNet.Catalog NodeNet.FirstSeen NodeNet.Json

/-- A device with its features, and no others, each once, and the size that is kept of them. -/
structure DeviceBrowsed (w : Writer) (entries : List Entry) (b : BrowseIndex)
    (m : BrowseDeviceMeta) : Prop where
  own : ∀ offset < m.featureCount.toNat, ∃ index e,
    b.featureIndices[m.featureStart.toNat + offset]? = some index ∧
      entries[index.toNat]? = some e ∧ e.definition.id.deviceId = deviceIdOf entries m
  once : (appendDeviceFeatures entries b m).Nodup
  features : ∀ feature, feature ∈ appendDeviceFeatures entries b m ↔
    ∃ e ∈ entries, e.definition.id.deviceId = deviceIdOf entries m ∧
      e.definition.id.feature = feature
  size : 2 + m.encodedFeaturesSize.toNat =
    measureJson w (.array ((appendDeviceFeatures entries b m).map .text))

structure Browses (w : Writer) (entries : List Entry) (b : BrowseIndex) : Prop where
  once : (b.devices.map (deviceIdOf entries)).Nodup
  devices : ∀ deviceId, deviceId ∈ b.devices.map (deviceIdOf entries) ↔
    ∃ e ∈ entries, e.definition.id.deviceId = deviceId
  found : ∀ deviceId, deviceId ≠ [] → (∃ e ∈ entries, e.definition.id.deviceId = deviceId) →
    ∃ m, b.devices[findBrowseDeviceIndex entries b deviceId]? = some m ∧
      deviceIdOf entries m = deviceId
  listed : ∀ m ∈ b.devices, DeviceBrowsed w entries b m

/-- The library writes each device's features in the bytes that are counted for them. -/
def SizesWritten (w : Writer) (entries : List Entry) : Prop :=
  ∀ deviceId ∈ catalogDevices entries,
    2 + encodedSize (deviceFeatures entries deviceId) % 65536 =
      measureJson w (.array ((deviceFeatures entries deviceId).map .text))

variable {entries : List Entry} {b : BrowseIndex} {m : BrowseDeviceMeta}

theorem mem_catalogDevices {deviceId : Text} :
    deviceId ∈ catalogDevices entries ↔ ∃ e ∈ entries, e.definition.id.deviceId = deviceId := by
  rw [catalogDevices, mem_firstSeen, List.mem_map]

theorem mem_deviceFeatures {deviceId feature : Text} :
    feature ∈ deviceFeatures entries deviceId ↔
      ∃ e ∈ entries, e.definition.id.deviceId = deviceId ∧ e.definition.id.feature = feature := by
  rw [deviceFeatures, mem_firstSeen, List.mem_map]
  constructor
  · rintro ⟨e, he, rfl⟩
    obtain ⟨he, hid⟩ := List.mem_filter.mp he
    exact ⟨e, he, of_decide_eq_true hid, rfl⟩
  · rintro ⟨e, he, hid, rfl⟩
    exact ⟨e, List.mem_filter.mpr ⟨he, decide_eq_true hid⟩, rfl⟩

theorem Apart.features_eq (h : Apart entries entries b) (hok : BrowseOk entries entries b)
    (hm : m ∈ b.devices) :
    appendDeviceFeatures entries b m = deviceFeatures entries (deviceIdOf entries m) := by
  have hfits := h.fits m hm
  have hlong : m.featureCount.toNat ≤ ((shelf entries b).drop m.featureStart.toNat).length := by
    rw [List.length_drop, shelf, List.length_map, h.length_eq]
    omega
  have hwindow := window_map m (·.2) (featurePairs entries)
  rw [h.own m hm, featurePairs_device, ← h.shelf_eq] at hwindow
  rw [appendDeviceFeatures_eq hok.inside hlong]
  exact hwindow

theorem Apart.own_points (h : Apart entries entries b) (hok : BrowseOk entries entries b)
    (hm : m ∈ b.devices) {offset : Nat} (hoffset : offset < m.featureCount.toNat) :
    ∃ index e, b.featureIndices[m.featureStart.toNat + offset]? = some index ∧
      entries[index.toNat]? = some e ∧ e.definition.id.deviceId = deviceIdOf entries m := by
  have hfits := h.fits m hm
  have hlength := h.length_eq
  have hindex := List.getElem?_eq_getElem
    (show m.featureStart.toNat + offset < b.featureIndices.length by omega)
  generalize b.featureIndices[m.featureStart.toNat + offset] = index at hindex
  have hinside := hok.inside index (List.mem_of_getElem? hindex)
  have hpair : (featurePairs entries)[m.featureStart.toNat + offset]? =
      some (pairAt entries index) := by
    rw [← h.shelved, List.getElem?_map, hindex, Option.map_some]
  have hid := (h.place_iff hm hpair).mpr ⟨by omega, by omega⟩
  refine ⟨index, entries[index.toNat], hindex, List.getElem?_eq_getElem hinside, ?_⟩
  rw [← hid, pairAt, identityAt_eq hinside]
  rfl

theorem Apart.deviceBrowsed_iff (h : Apart entries entries b) (hok : BrowseOk entries entries b)
    (hm : m ∈ b.devices) (w : Writer) : DeviceBrowsed w entries b m ↔
      2 + encodedSize (deviceFeatures entries (deviceIdOf entries m)) % 65536 =
        measureJson w (.array ((deviceFeatures entries (deviceIdOf entries m)).map .text)) := by
  have hfeatures := h.features_eq hok hm
  have hsize : m.encodedFeaturesSize.toNat =
      encodedSize (deviceFeatures entries (deviceIdOf entries m)) % 65536 := by
    rw [encodedFeaturesSize_eq hok hm hfeatures]
    exact UInt16.toNat_ofNat'
  constructor
  · intro hbrowsed
    rw [← hsize, ← hfeatures]
    exact hbrowsed.size
  · intro hwritten
    refine ⟨fun offset hoffset => h.own_points hok hm hoffset, ?_, fun feature => ?_, ?_⟩
    · rw [hfeatures]
      exact firstSeen_nodup _
    · rw [hfeatures]
      exact mem_deviceFeatures
    · rw [hsize, hfeatures]
      exact hwritten

theorem rebuilt_browses_iff (w : Writer) (hsize : entries.length ≤ kMaxPoints) :
    Browses w entries (rebuildBrowseIndex entries) ↔
      GroupedByDevice entries ∧ SizesWritten w entries := by
  have hok := rebuildBrowseIndex_ok hsize
  constructor
  · intro h
    obtain ⟨hapart, hgrouped⟩ | ⟨hforeign, -⟩ := rebuildBrowseIndex_groups hsize
    · refine ⟨hgrouped, fun deviceId hdevice => ?_⟩
      rw [← hok.devices] at hdevice
      obtain ⟨m, hm, rfl⟩ := List.mem_map.mp hdevice
      exact (hapart.deviceBrowsed_iff hok hm w).mp (h.listed m hm)
    · obtain ⟨m, hm, offset, hoffset, index, hindex, hother⟩ := hforeign
      obtain ⟨index', e, hindex', he, hid⟩ := (h.listed m hm).own offset hoffset
      rw [hindex, Option.some.injEq] at hindex'
      subst hindex'
      refine absurd ?_ hother
      rw [pairAt, identityAt, he]
      exact hid
  · rintro ⟨hgrouped, hwritten⟩
    obtain ⟨hapart, -⟩ | ⟨-, hnot⟩ := rebuildBrowseIndex_groups hsize
    · refine ⟨?_, fun deviceId => ?_, fun deviceId hname hsome => ?_, fun m hm => ?_⟩
      · rw [hok.devices]
        exact firstSeen_nodup _
      · rw [hok.devices]
        exact mem_catalogDevices
      · exact findBrowseDeviceIndex_get hok hname (mem_catalogDevices.mpr hsome)
      · exact (hapart.deviceBrowsed_iff hok hm w).mpr (hwritten _ (deviceIdOf_mem hok hm))
    · exact absurd hgrouped hnot

/-! Over whole histories the index is out of date only after a load that failed half-way. -/

/-- A load that fails with points in the catalog leaves them without an index. -/
def strands (library : Library) (memory : CatalogMemory) : MemoryOperation → Bool
  | .catalog (.loadFromJson json) =>
    let load := memory.browsed.loadFromJson library json
    CatalogMemory.isTaken library json && !load.1 && !load.2.catalog.entries.isEmpty
  | _ => false

/-- The operation builds the browse index, or empties it with the catalog. -/
def reindexes (library : Library) (memory : CatalogMemory) : MemoryOperation → Bool
  | .catalog (.upsert definition) =>
    (memory.browsed.upsert definition).1 && memory.browsed.batchUpdateDepth = 0
  | .catalog (.remove id) =>
    (memory.browsed.remove id).1 && memory.browsed.batchUpdateDepth = 0
  | .catalog .clear => true
  | .catalog (.replaceSlotVariableDefinitions slotId definitions) =>
    (memory.replaceSlotVariableDefinitions slotId (some definitions)).2.1 &&
      memory.browsed.batchUpdateDepth = 0
  | .catalog (.loadFromJson json) => CatalogMemory.isTaken library json
  | .catalog .endBatchUpdate =>
    memory.browsed.batchUpdateDepth = 1 && memory.browsed.batchBrowseRebuildPending
  | .catalog .beginBatchUpdate | .setState _ _ | .setCommandState _ _ => false

/-- The catalog, and whether a load has left points of which no index was built since. -/
structure History where
  memory : CatalogMemory
  stranded : Bool

def History.next (library : Library) (h : History) (operation : MemoryOperation) : History where
  memory := h.memory.operate library operation
  stranded := strands library h.memory operation ||
    (h.stranded && !reindexes library h.memory operation)

def History.after (library : Library) (operations : List MemoryOperation) : History :=
  operations.foldl (History.next library) ⟨.start, false⟩

/-- What is kept of the browse index in and out of a batch. -/
structure Kept (s : BrowsedCatalog) (stranded : Bool) : Prop where
  depth : s.batchUpdateDepth = 0 → s.batchBrowseRebuildPending = false
  built : stranded = false →
    s.batchBrowseRebuildPending = true ∨ s.browse = rebuildBrowseIndex s.catalog.entries
  stranded : stranded = true →
    s.batchBrowseRebuildPending = true ∨ s.browse = .empty ∧ s.catalog.entries ≠ []

variable {stranded : Bool}

theorem kept_reindexed {s : BrowsedCatalog} (h : Kept s stranded) (c : PointCatalog) :
    Kept (s.reindexed c) (stranded && !decide (s.batchUpdateDepth = 0)) := by
  rw [BrowsedCatalog.reindexed]
  by_cases hdepth : s.batchUpdateDepth = 0
  · rw [if_neg (not_not_intro hdepth), decide_eq_true hdepth, Bool.not_true, Bool.and_false]
    exact ⟨h.depth, fun _ => .inr rfl, fun hs => by cases hs⟩
  · rw [if_pos hdepth]
    exact ⟨fun hzero => absurd hzero hdepth, fun _ => .inl rfl, fun _ => .inl rfl⟩

theorem rebuildBrowseIndex_congr {entries entries' : List Entry}
    (h : entries'.map (·.definition) = entries.map (·.definition)) :
    rebuildBrowseIndex entries' = rebuildBrowseIndex entries := by
  have hids : ∀ index, identityAt entries' index = identityAt entries index := by
    intro index
    have hat := congrArg (fun l : List PointDefinition => l[index.toNat]?.map (·.id)) h
    simpa [identityAt, Function.comp_def] using hat
  have hstep : ∀ (b : BrowseIndex) (e e' : Entry) (index : Nat), e'.definition = e.definition →
      addBrowseEntry entries' b (e', index) = addBrowseEntry entries b (e, index) := by
    intro b e e' index he
    have hdevice : ∀ id k, withBrowseDevice entries' b id k = withBrowseDevice entries b id k := by
      intro id k
      simp only [withBrowseDevice, hids]
    have hname : ∀ b m offset,
        browseFeatureName entries' b m offset = browseFeatureName entries b m offset := by
      intro b m offset
      simp only [browseFeatureName, hids]
    simp only [addBrowseEntry, he, hdevice, hname]
  have hfold : ∀ (rest rest' : List Entry) (b : BrowseIndex) (k : Nat),
      rest'.map (·.definition) = rest.map (·.definition) →
      (rest'.zipIdx k).foldl (addBrowseEntry entries') b =
        (rest.zipIdx k).foldl (addBrowseEntry entries) b := by
    intro rest
    induction rest with
    | nil =>
      intro rest' b k hrest
      rw [List.map_eq_nil_iff.mp hrest]
      rfl
    | cons e rest ih =>
      intro rest' b k hrest
      cases rest' with
      | nil => cases hrest
      | cons e' rest' =>
        obtain ⟨he, hrest⟩ := List.cons.inj hrest
        rw [List.zipIdx_cons, List.zipIdx_cons, List.foldl_cons, List.foldl_cons,
          hstep b e e' k he]
        exact ih rest' _ _ hrest
  exact hfold entries entries' .empty 0 h

theorem kept_of_definitions {s s' : BrowsedCatalog} (h : Kept s stranded)
    (hbrowse : s'.browse = s.browse) (hdepth : s'.batchUpdateDepth = s.batchUpdateDepth)
    (hpending : s'.batchBrowseRebuildPending = s.batchBrowseRebuildPending)
    (hsame : s'.catalog.entries.map (·.definition) = s.catalog.entries.map (·.definition)) :
    Kept s' stranded := by
  refine ⟨fun hzero => ?_, fun hbuilt => ?_, fun hleft => ?_⟩
  · rw [hpending]
    exact h.depth (hdepth ▸ hzero)
  · rw [hpending, hbrowse, rebuildBrowseIndex_congr hsame]
    exact h.built hbuilt
  · rw [hpending, hbrowse]
    refine (h.stranded hleft).imp id fun hboth => ⟨hboth.1, fun hnil => hboth.2 ?_⟩
    rw [hnil] at hsame
    exact List.map_eq_nil_iff.mp hsame.symm

/-- What a load makes of the index. -/
theorem kept_loadFromJson {s : BrowsedCatalog} (h : Kept s stranded) (library : Library)
    (json : Option Text) : let load := s.loadFromJson library json
    Kept load.2 (
      (CatalogMemory.isTaken library json && !load.1 && !load.2.catalog.entries.isEmpty) ||
      (stranded && !CatalogMemory.isTaken library json)) := by
  have hcleared (kept : Bool) : Kept s.clear (kept && false) := by
    rw [Bool.and_false]
    exact ⟨h.depth, fun _ => .inr rfl, fun hs => by cases hs⟩
  cases json with
  | none => exact hcleared stranded
  | some text =>
    cases text with
    | nil => exact hcleared stranded
    | cons c text =>
      simp only [BrowsedCatalog.loadFromJson, CatalogMemory.isTaken]
      cases library.deserialize (c :: text) with
      | none =>
        simp only [Option.isSome_none, Bool.false_and, Bool.not_false, Bool.and_true,
          Bool.false_or]
        exact h
      | some doc =>
        dsimp only [Option.isSome_some]
        cases storedPoints doc with
        | none => exact hcleared stranded
        | some items =>
          dsimp only
          generalize loadEntries library items [] = loaded
          obtain ⟨ok, entries⟩ := loaded
          cases ok with
          | true =>
            simp only [Bool.not_true, Bool.and_false, Bool.false_and, Bool.or_false]
            exact ⟨h.depth, fun _ => .inr rfl, fun hs => by cases hs⟩
          | false =>
            simp only [Bool.not_false, Bool.and_true, Bool.true_and, Bool.not_true,
              Bool.and_false, Bool.or_false]
            refine ⟨h.depth, fun hbuilt => .inr ?_, fun hleft => .inr ⟨rfl, ?_⟩⟩
            · have hnil : entries = [] := by simpa using hbuilt
              subst hnil
              rfl
            · simpa using hleft

theorem kept_changed {s s' : BrowsedCatalog} {changed : Bool} (h : Kept s stranded)
    (hsame : changed = false → s' = s) (hmade : changed = true → ∃ c, s' = s.reindexed c) :
    Kept s' (stranded && !(changed && decide (s.batchUpdateDepth = 0))) := by
  cases changed with
  | false =>
    rw [hsame rfl, Bool.false_and, Bool.not_false, Bool.and_true]
    exact h
  | true =>
    obtain ⟨c, hc⟩ := hmade rfl
    rw [hc, Bool.true_and]
    exact kept_reindexed h c

theorem kept_operate {m : CatalogMemory} (h : Kept m.browsed stranded) (library : Library)
    (operation : MemoryOperation) : Kept (m.operate library operation).browsed
      (strands library m operation || (stranded && !reindexes library m operation)) := by
  have hsame : (stranded && !false) = stranded := by rw [Bool.not_false, Bool.and_true]
  cases operation with
  | setState index state =>
    change Kept _ (stranded && !false)
    rw [hsame]
    exact kept_of_definitions h rfl rfl rfl (setState_definitions _ index state)
  | setCommandState index command =>
    change Kept _ (stranded && !false)
    rw [hsame]
    exact kept_of_definitions h rfl rfl rfl (definitions_modify _ index fun _ => rfl)
  | catalog operation =>
    cases operation with
    | upsert definition =>
      refine kept_changed h ?_ ?_
      · intro hfailed
        change (m.browsed.upsert definition).2 = m.browsed
        rw [BrowsedCatalog.upsert] at hfailed ⊢
        cases hc : m.browsed.catalog.upsert definition with
        | none => rfl
        | some c =>
          rw [hc] at hfailed
          cases hfailed
      · intro hdone
        change ∃ c, (m.browsed.upsert definition).2 = m.browsed.reindexed c
        rw [BrowsedCatalog.upsert] at hdone ⊢
        cases hc : m.browsed.catalog.upsert definition with
        | none =>
          rw [hc] at hdone
          cases hdone
        | some c => exact ⟨c, rfl⟩
    | remove id =>
      refine kept_changed h ?_ ?_
      · intro hfailed
        change (m.browsed.remove id).2 = m.browsed
        rw [BrowsedCatalog.remove] at hfailed ⊢
        cases hc : m.browsed.catalog.remove id with
        | none => rfl
        | some c =>
          rw [hc] at hfailed
          cases hfailed
      · intro hdone
        change ∃ c, (m.browsed.remove id).2 = m.browsed.reindexed c
        rw [BrowsedCatalog.remove] at hdone ⊢
        cases hc : m.browsed.catalog.remove id with
        | none =>
          rw [hc] at hdone
          cases hdone
        | some c => exact ⟨c, rfl⟩
    | replaceSlotVariableDefinitions slotId definitions =>
      refine kept_changed h ?_ ?_
      · intro hfailed
        change (m.replaceSlotVariableDefinitions slotId (some definitions)).2.2.browsed = m.browsed
        rw [CatalogMemory.replaceSlotVariableDefinitions] at hfailed ⊢
        cases hr : m.storage.replaceSlotVariableDefinitions slotId (some definitions) with
        | none => rfl
        | some p =>
          rw [hr] at hfailed
          obtain ⟨storage, changed⟩ := p
          dsimp only at hfailed ⊢
          rw [hfailed]
          rfl
      · intro hdone
        change ∃ c, (m.replaceSlotVariableDefinitions slotId (some definitions)).2.2.browsed =
          m.browsed.reindexed c
        rw [CatalogMemory.replaceSlotVariableDefinitions] at hdone ⊢
        cases hr : m.storage.replaceSlotVariableDefinitions slotId (some definitions) with
        | none =>
          rw [hr] at hdone
          cases hdone
        | some p =>
          rw [hr] at hdone
          obtain ⟨storage, changed⟩ := p
          dsimp only at hdone ⊢
          rw [hdone]
          exact ⟨_, rfl⟩
    | clear =>
      change Kept _ (stranded && false)
      rw [Bool.and_false]
      exact ⟨h.depth, fun _ => .inr rfl, fun hs => by cases hs⟩
    | loadFromJson json => exact kept_loadFromJson h library json
    | beginBatchUpdate =>
      change Kept _ (stranded && !false)
      rw [hsame]
      exact ⟨fun hzero => absurd hzero (Nat.succ_ne_zero _), h.built, h.stranded⟩
    | endBatchUpdate =>
      change Kept m.browsed.endBatchUpdate (stranded && !(decide (m.browsed.batchUpdateDepth = 1) &&
        m.browsed.batchBrowseRebuildPending))
      rw [BrowsedCatalog.endBatchUpdate]
      by_cases hzero : m.browsed.batchUpdateDepth = 0
      · rw [if_pos hzero, h.depth hzero, Bool.and_false, hsame]
        exact h
      · rw [if_neg hzero]
        dsimp only
        by_cases hone : m.browsed.batchUpdateDepth = 1
        · cases hpending : m.browsed.batchBrowseRebuildPending with
          | true =>
            rw [if_pos (by simp [hone]), decide_eq_true hone]
            simp only [Bool.and_self, Bool.not_true, Bool.and_false]
            exact ⟨fun _ => rfl, fun _ => .inr rfl, fun hs => by cases hs⟩
          | false =>
            rw [if_neg (by simp), Bool.and_false, hsame]
            refine ⟨fun _ => rfl, fun hbuilt => ?_, fun hleft => ?_⟩
            · have hkept := h.built hbuilt
              rw [hpending] at hkept
              exact hkept
            · have hkept := h.stranded hleft
              rw [hpending] at hkept
              exact hkept
        · have hmore : ¬ m.browsed.batchUpdateDepth - 1 = 0 := by omega
          rw [if_neg (by simp [hmore]), decide_eq_false hone, Bool.false_and, hsame]
          exact ⟨fun hnone => absurd hnone hmore, h.built, h.stranded⟩

theorem kept_after (library : Library) (operations : List MemoryOperation) :
    Kept (History.after library operations).memory.browsed
      (History.after library operations).stranded := by
  have hfold : ∀ h : History, Kept h.memory.browsed h.stranded →
      Kept (operations.foldl (History.next library) h).memory.browsed
        (operations.foldl (History.next library) h).stranded := by
    induction operations with
    | nil => exact fun h hkept => hkept
    | cons operation operations ih =>
      exact fun h hkept => ih _ (kept_operate hkept library operation)
  exact hfold _ ⟨fun _ => rfl, fun _ => .inr rfl, fun hs => by cases hs⟩

theorem after_memory (library : Library) (operations : List MemoryOperation) :
    (History.after library operations).memory = CatalogMemory.after library operations := by
  have hfold : ∀ h : History, (operations.foldl (History.next library) h).memory =
      operations.foldl (CatalogMemory.operate library) h.memory := by
    induction operations with
    | nil => exact fun h => rfl
    | cons operation operations ih => exact fun h => ih _
  exact hfold _

/-- Outside of a batch, browsing shows the devices and their features exactly if no load has left
points without an index, the catalog groups the features by device, and the library writes each
list in the bytes that are counted for it. -/
theorem after_browses_iff (w : Writer) (library : Library) (operations : List MemoryOperation)
    (hdepth : (CatalogMemory.after library operations).browsed.batchUpdateDepth = 0) :
    Browses w (CatalogMemory.after library operations).browsed.catalog.entries
        (CatalogMemory.after library operations).browsed.browse ↔
      (History.after library operations).stranded = false ∧
        GroupedByDevice (CatalogMemory.after library operations).browsed.catalog.entries ∧
        SizesWritten w (CatalogMemory.after library operations).browsed.catalog.entries := by
  have hkept := kept_after library operations
  have hmirrors := mirrors_after library operations
  rw [after_memory] at hkept
  have hsize : (CatalogMemory.after library operations).browsed.catalog.entries.length ≤
      kMaxPoints := by
    have hcount := hmirrors.count
    have hmax := hmirrors.size
    rw [PointCatalog.size] at hcount
    omega
  have hpending := hkept.depth hdepth
  cases hstranded : (History.after library operations).stranded with
  | false =>
    have hbuilt := hkept.built hstranded
    rw [hpending] at hbuilt
    rw [hbuilt.resolve_left Bool.false_ne_true, rebuilt_browses_iff w hsize]
    exact ⟨fun h => ⟨rfl, h⟩, fun h => h.2⟩
  | true =>
    have hleft := hkept.stranded hstranded
    rw [hpending] at hleft
    obtain ⟨hempty, hpoints⟩ := hleft.resolve_left Bool.false_ne_true
    constructor
    · intro h
      obtain ⟨e, he⟩ := List.exists_mem_of_ne_nil _ hpoints
      have hlisted := (h.devices e.definition.id.deviceId).mpr ⟨e, he, rfl⟩
      rw [hempty] at hlisted
      cases hlisted
    · intro h
      cases h.1

def pointOf (deviceId feature : String) : PointDefinition :=
  { onePoint with id := ⟨ascii deviceId, ascii feature, ascii "x"⟩ }

theorem one_point_browsed :
    (CatalogMemory.after emptyEntryLibrary [.catalog (.upsert onePoint)]).browsed.batchUpdateDepth =
        0 ∧
      (Browses plainWriter
          (CatalogMemory.after emptyEntryLibrary
            [.catalog (.upsert onePoint)]).browsed.catalog.entries
          (CatalogMemory.after emptyEntryLibrary [.catalog (.upsert onePoint)]).browsed.browse ↔
        (History.after emptyEntryLibrary [.catalog (.upsert onePoint)]).stranded = false ∧
          GroupedByDevice (CatalogMemory.after emptyEntryLibrary
            [.catalog (.upsert onePoint)]).browsed.catalog.entries ∧
          SizesWritten plainWriter (CatalogMemory.after emptyEntryLibrary
            [.catalog (.upsert onePoint)]).browsed.catalog.entries) :=
  ⟨by decide, after_browses_iff plainWriter emptyEntryLibrary [.catalog (.upsert onePoint)]
    (by decide)⟩

/-- Two devices in turn. -/
def interleaved : CatalogMemory :=
  CatalogMemory.after emptyEntryLibrary
    [.catalog (.upsert (pointOf "a" "f")), .catalog (.upsert (pointOf "b" "g")),
      .catalog (.upsert (pointOf "a" "h"))]

/-- The first device is shown with a feature of the second, and without its own. -/
theorem interleaved_not_browsed :
    interleaved.browsed.batchUpdateDepth = 0 ∧
      interleaved.browsed.browse.devices.map (fun m =>
        (deviceIdOf interleaved.browsed.catalog.entries m,
          appendDeviceFeatures interleaved.browsed.catalog.entries interleaved.browsed.browse m)) =
        [(ascii "a", [ascii "f", ascii "g"]), (ascii "b", [ascii "g"])] ∧
      ¬ Browses plainWriter interleaved.browsed.catalog.entries interleaved.browsed.browse := by
  refine ⟨by decide +kernel, by decide +kernel, fun h => ?_⟩
  have hdevice : (⟨0, 0, 2, 7⟩ : BrowseDeviceMeta) ∈ interleaved.browsed.browse.devices := by
    decide +kernel
  have hshown := ((h.listed _ hdevice).features (ascii "g")).mp (by decide +kernel)
  have hnone : ¬ ∃ e ∈ interleaved.browsed.catalog.entries,
      e.definition.id.deviceId = deviceIdOf interleaved.browsed.catalog.entries ⟨0, 0, 2, 7⟩ ∧
        e.definition.id.feature = ascii "g" := by
    decide +kernel
  exact hnone hshown

end NodeNet.Core

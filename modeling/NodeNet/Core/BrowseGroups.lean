import NodeNet.CatalogMirror
import NodeNet.Core.PagedListing

/-! When the browse index keeps the features of the devices apart. -/
namespace NodeNet.Core
open NodeNet.Points NodeNet.Catalog NodeNet.FirstSeen NodeNet.Json

def featurePair (e : Entry) : Text × Text :=
  (e.definition.id.deviceId, e.definition.id.feature)

/-- The features of all devices, in the order of the catalog. -/
def featurePairs (entries : List Entry) : List (Text × Text) :=
  firstSeen (entries.map featurePair)

/-- Before all features of a device are seen, none of another device is new. -/
def GroupedByDevice (entries : List Entry) : Prop := Grouped ((featurePairs entries).map (·.1))

theorem featurePairs_concat (entries : List Entry) (e : Entry) :
    featurePairs (entries ++ [e]) = note (featurePairs entries) (featurePair e) := by
  rw [featurePairs, List.map_append, List.map_singleton, firstSeen_concat]
  rfl

theorem featurePairs_device (entries : List Entry) (deviceId : Text) :
    ((featurePairs entries).filter fun p => p.1 = deviceId).map (·.2) =
      deviceFeatures entries deviceId := by
  rw [featurePairs, firstSeen_values, deviceFeatures, List.filter_map, List.map_map]
  rfl

theorem mem_featurePairs_keys {entries : List Entry} {deviceId : Text} :
    deviceId ∈ (featurePairs entries).map (·.1) ↔ deviceId ∈ catalogDevices entries := by
  rw [catalogDevices, mem_firstSeen]
  constructor
  · intro h
    obtain ⟨p, hp, rfl⟩ := List.mem_map.mp h
    obtain ⟨e, he, rfl⟩ := List.mem_map.mp (mem_firstSeen.mp hp)
    exact List.mem_map_of_mem he
  · intro h
    obtain ⟨e, he, rfl⟩ := List.mem_map.mp h
    exact List.mem_map.mpr ⟨featurePair e, mem_firstSeen.mpr (List.mem_map_of_mem he), rfl⟩

def pairAt (entries : List Entry) (index : UInt16) : Text × Text :=
  ((identityAt entries index).map fun id => (id.deviceId, id.feature)).getD ([], [])

/-- The part of the shared array that a device takes for its own. -/
def window {α : Type} (m : BrowseDeviceMeta) (l : List α) : List α :=
  (l.drop m.featureStart.toNat).take m.featureCount.toNat

theorem window_map {α β : Type} (m : BrowseDeviceMeta) (f : α → β) (l : List α) :
    window m (l.map f) = (window m l).map f := by
  rw [window, window, List.map_take, List.map_drop]

/-- Each device's part has the features of the device, and the array nothing else. -/
structure Apart (entries done : List Entry) (b : BrowseIndex) : Prop where
  shelved : b.featureIndices.map (pairAt entries) = featurePairs done
  own : ∀ m ∈ b.devices, window m (featurePairs done) =
    (featurePairs done).filter fun p => p.1 = deviceIdOf entries m
  fits : ∀ m ∈ b.devices,
    m.featureStart.toNat + m.featureCount.toNat ≤ (featurePairs done).length

/-- Some device's part has a feature of another. -/
def Foreign (entries : List Entry) (b : BrowseIndex) : Prop :=
  ∃ m ∈ b.devices, ∃ offset < m.featureCount.toNat, ∃ index,
    b.featureIndices[m.featureStart.toNat + offset]? = some index ∧
      (pairAt entries index).1 ≠ deviceIdOf entries m

variable {entries done : List Entry} {b : BrowseIndex}

/-- What one more entry does to the index. -/
inductive Added (entries done : List Entry) (b : BrowseIndex) (e : Entry) (b₂ : BrowseIndex) :
    Prop
  | known (m : BrowseDeviceMeta) (hm : m ∈ b.devices)
      (hid : deviceIdOf entries m = e.definition.id.deviceId)
      (hseen : e.definition.id.feature ∈ window m (shelf entries b)) (hsame : b₂ = b)
  | another (m : BrowseDeviceMeta) (device : Nat) (size : UInt16)
      (hm : b.devices[device]? = some m) (hid : deviceIdOf entries m = e.definition.id.deviceId)
      (hunseen : e.definition.id.feature ∉ window m (shelf entries b))
      (hadded : b₂ = ⟨b.devices.set device
        ⟨m.catalogIndex, m.featureStart, m.featureCount + 1, size⟩,
        b.featureIndices ++ [UInt16.ofNat done.length]⟩)
  | first (m : BrowseDeviceMeta)
      (hnew : e.definition.id.deviceId ∉ catalogDevices done)
      (hid : deviceIdOf entries m = e.definition.id.deviceId)
      (hstart : m.featureStart.toNat = b.featureIndices.length) (hcount : m.featureCount = 1)
      (hadded : b₂ = ⟨b.devices ++ [m], b.featureIndices ++ [UInt16.ofNat done.length]⟩)

theorem deviceIds_eq (h : BrowseOk entries done b) : ∀ m ∈ b.devices,
    (identityAt entries m.catalogIndex).map (·.deviceId) = some (deviceIdOf entries m) := by
  intro m hm
  rw [deviceIdOf, identityAt_eq (h.listed m hm).inside]
  rfl

theorem addBrowseEntry_added (h : BrowseOk entries done b) (hsize : entries.length ≤ kMaxPoints)
    {e : Entry} (he : entries[done.length]? = some e) :
    Added entries done b e (addBrowseEntry entries b (e, done.length)) := by
  have hmax : kMaxPoints = 1024 := rfl
  have hdone := (List.getElem?_eq_some_iff.mp he).1
  have hcount := h.count
  have hroom : ¬ kMaxPoints ≤ b.featureIndices.length := by omega
  rw [addBrowseEntry, withBrowseDevice]
  cases hfound : b.devices.findIdx? (fun m => decide
      ((identityAt entries m.catalogIndex).map (·.deviceId) = some e.definition.id.deviceId)) with
  | some device =>
    obtain ⟨hlt, hmatch, -⟩ := List.findIdx?_eq_some_iff_getElem.mp hfound
    have hm : b.devices[device]? = some b.devices[device] := List.getElem?_eq_getElem hlt
    have hmem : b.devices[device] ∈ b.devices := List.getElem_mem hlt
    have hid := of_decide_eq_true hmatch
    rw [deviceIds_eq h _ hmem, Option.some.injEq] at hid
    have hexists := @featureExists_iff entries b b.devices[device] h.inside
      e.definition.id.feature
    simp only [hm]
    by_cases hseen : e.definition.id.feature ∈ window b.devices[device] (shelf entries b)
    · rw [hexists.mpr hseen, Bool.true_or, if_pos rfl]
      exact .known _ hmem hid hseen rfl
    · have hnot := mt hexists.mp hseen
      rw [Bool.not_eq_true] at hnot
      rw [hnot, Bool.false_or, if_neg (by simpa using hroom)]
      exact .another _ device _ hm hid hseen rfl
  | none =>
    have hnew : e.definition.id.deviceId ∉ catalogDevices done := by
      rw [← h.devices]
      intro hmem
      obtain ⟨m, hm, hid⟩ := List.mem_map.mp hmem
      have hnot := List.findIdx?_eq_none_iff.mp hfound m hm
      rw [deviceIds_eq h m hm, hid] at hnot
      simp at hnot
    have hindex : (UInt16.ofNat done.length).toNat = done.length :=
      UInt16.toNat_ofNat_of_lt' (by rw [UInt16.size]; omega)
    have hstart : (UInt16.ofNat b.featureIndices.length).toNat = b.featureIndices.length :=
      UInt16.toNat_ofNat_of_lt' (by rw [UInt16.size]; omega)
    simp only [List.getElem?_concat_length]
    have hnone : ((List.range (0 : UInt16).toNat).any fun offset =>
        browseFeatureName entries ⟨b.devices ++ [⟨UInt16.ofNat done.length,
          UInt16.ofNat b.featureIndices.length, 0, 0⟩], b.featureIndices⟩
          ⟨UInt16.ofNat done.length, UInt16.ofNat b.featureIndices.length, 0, 0⟩ offset =
            some e.definition.id.feature) = false := rfl
    rw [hnone, Bool.false_or, if_neg (by simpa using hroom)]
    have hid : ∀ m : BrowseDeviceMeta, m.catalogIndex = UInt16.ofNat done.length →
        deviceIdOf entries m = e.definition.id.deviceId := by
      intro m hcatalog
      rw [deviceIdOf, identityAt, hcatalog, hindex, he]
      rfl
    rw [List.set_append_right _ _ (Nat.le_refl _), Nat.sub_self, List.set_cons_zero]
    exact .first _ hnew (hid _ rfl) hstart rfl rfl

theorem featureAt_eq (index : UInt16) : featureAt entries index = (pairAt entries index).2 := by
  rw [featureAt, pairAt]
  cases identityAt entries index with
  | none => rfl
  | some id => rfl

theorem pairAt_last {e : Entry} (hsize : entries.length ≤ kMaxPoints)
    (he : entries[done.length]? = some e) :
    pairAt entries (UInt16.ofNat done.length) = featurePair e := by
  have hmax : kMaxPoints = 1024 := rfl
  have hdone := (List.getElem?_eq_some_iff.mp he).1
  have hindex : (UInt16.ofNat done.length).toNat = done.length :=
    UInt16.toNat_ofNat_of_lt' (by rw [UInt16.size]; omega)
  rw [pairAt, identityAt, hindex, he]
  rfl

variable {m : BrowseDeviceMeta}

theorem deviceIdOf_mem (h : BrowseOk entries done b) (hm : m ∈ b.devices) :
    deviceIdOf entries m ∈ catalogDevices done := by
  rw [← h.devices]
  exact List.mem_map_of_mem hm

section
variable (h : Apart entries done b)
include h

theorem Apart.shelf_eq : shelf entries b = (featurePairs done).map (·.2) := by
  rw [shelf, ← h.shelved, List.map_map]
  exact List.map_congr_left fun index _ => featureAt_eq index

theorem Apart.length_eq : b.featureIndices.length = (featurePairs done).length := by
  rw [← h.shelved, List.length_map]

theorem Apart.place_iff {m : BrowseDeviceMeta} (hm : m ∈ b.devices) {k : Nat}
    {p : Text × Text} (hk : (featurePairs done)[k]? = some p) :
    p.1 = deviceIdOf entries m ↔
      m.featureStart.toNat ≤ k ∧ k < m.featureStart.toNat + m.featureCount.toNat := by
  have hmem : p ∈ featurePairs done := List.mem_of_getElem? hk
  have hown : p.1 = deviceIdOf entries m ↔ p ∈ window m (featurePairs done) := by
    rw [h.own m hm, List.mem_filter, decide_eq_true_eq]
    exact ⟨fun hid => ⟨hmem, hid⟩, fun hboth => hboth.2⟩
  rw [hown, window, List.mem_take_iff_getElem]
  constructor
  · rintro ⟨j, hj, hget⟩
    rw [List.length_drop] at hj
    rw [List.getElem_drop] at hget
    obtain ⟨hlt, hvalue⟩ := List.getElem?_eq_some_iff.mp hk
    have hsame := (List.getElem_inj (firstSeen_nodup _)).mp (hget.trans hvalue.symm)
    omega
  · rintro ⟨hlow, hhigh⟩
    obtain ⟨hlt, hvalue⟩ := List.getElem?_eq_some_iff.mp hk
    refine ⟨k - m.featureStart.toNat, ?_, ?_⟩
    · rw [List.length_drop]
      omega
    · have hplace : m.featureStart.toNat + (k - m.featureStart.toNat) = k := by omega
      simp only [List.getElem_drop, hplace]
      exact hvalue

theorem Apart.seen_iff {m : BrowseDeviceMeta} (hm : m ∈ b.devices) {e : Entry}
    (hid : deviceIdOf entries m = e.definition.id.deviceId) :
    e.definition.id.feature ∈ window m (shelf entries b) ↔
      featurePair e ∈ featurePairs done := by
  rw [h.shelf_eq, window_map, h.own m hm, hid]
  constructor
  · intro hmem
    obtain ⟨p, hp, hfeature⟩ := List.mem_map.mp hmem
    obtain ⟨hp, hdevice⟩ := List.mem_filter.mp hp
    have hpair : featurePair e = p := Prod.ext (of_decide_eq_true hdevice).symm hfeature.symm
    rw [hpair]
    exact hp
  · intro hmem
    exact List.mem_map.mpr ⟨featurePair e, List.mem_filter.mpr ⟨hmem, by simp [featurePair]⟩, rfl⟩

end

theorem window_concat {α : Type} {l : List α}
    (hfits : m.featureStart.toNat + m.featureCount.toNat ≤ l.length) (more : List α) :
    window m (l ++ more) = window m l := by
  rw [window, window, List.drop_append_of_le_length (by omega),
    List.take_append_of_le_length (by rw [List.length_drop]; omega)]

theorem window_grown {α : Type} {m₂ : BrowseDeviceMeta} {l : List α} (a : α)
    (hstart : m₂.featureStart = m.featureStart)
    (hcount : m₂.featureCount.toNat = m.featureCount.toNat + 1)
    (hend : m.featureStart.toNat + m.featureCount.toNat = l.length) :
    window m₂ (l ++ [a]) = window m l ++ [a] := by
  have hlong : (l.drop m.featureStart.toNat).length = m.featureCount.toNat := by
    rw [List.length_drop]
    omega
  rw [window, window, hstart, hcount, List.drop_append_of_le_length (by omega),
    List.take_of_length_le (by rw [List.length_append, List.length_singleton]; omega),
    List.take_of_length_le (by omega)]

theorem mem_set_device (h : BrowseOk entries done b) {x m' : BrowseDeviceMeta} {device : Nat}
    (hm : b.devices[device]? = some m) (hm' : m' ∈ b.devices.set device x) :
    m' = x ∨ m' ∈ b.devices ∧ deviceIdOf entries m' ≠ deviceIdOf entries m := by
  obtain ⟨i, hi⟩ := List.getElem?_of_mem hm'
  rw [List.getElem?_set] at hi
  by_cases hsame : device = i
  · rw [if_pos hsame, if_pos (List.getElem?_eq_some_iff.mp hm).1] at hi
    exact .inl (Option.some.inj hi).symm
  · rw [if_neg hsame] at hi
    refine .inr ⟨List.mem_of_getElem? hi, fun hid => hsame ?_⟩
    have hnodup : (b.devices.map (deviceIdOf entries)).Nodup := by
      rw [h.devices]
      exact firstSeen_nodup _
    have hlt := (List.getElem?_eq_some_iff.mp hi).1
    refine ((List.getElem?_inj (by simpa using hlt) hnodup).mp ?_).symm
    rw [List.getElem?_map, List.getElem?_map, hi, hm, Option.map_some, Option.map_some, hid]

theorem Apart.own_concat (h : Apart entries done b) (hm : m ∈ b.devices)
    {p : Text × Text} (hother : p.1 ≠ deviceIdOf entries m) :
    window m (featurePairs done ++ [p]) =
      (featurePairs done ++ [p]).filter fun q => q.1 = deviceIdOf entries m := by
  rw [window_concat (h.fits m hm), h.own m hm, List.filter_append]
  simp [hother]

theorem foreign_of_another (h : Apart entries done b) {device : Nat} {size : UInt16}
    {more : List UInt16} (hm : b.devices[device]? = some m)
    (hcount : (m.featureCount + 1).toNat = m.featureCount.toNat + 1)
    (hmore : m.featureStart.toNat + m.featureCount.toNat < (featurePairs done).length) :
    Foreign entries ⟨b.devices.set device
      ⟨m.catalogIndex, m.featureStart, m.featureCount + 1, size⟩, b.featureIndices ++ more⟩ := by
  have hlt := (List.getElem?_eq_some_iff.mp hm).1
  have hmem := List.mem_of_getElem? hm
  obtain ⟨p, hpair⟩ : ∃ p, (featurePairs done)[m.featureStart.toNat + m.featureCount.toNat]? =
      some p := ⟨_, List.getElem?_eq_getElem hmore⟩
  have hindices := hpair
  rw [← h.shelved, List.getElem?_map, Option.map_eq_some_iff] at hindices
  obtain ⟨index, hindex, hat⟩ := hindices
  refine ⟨_, List.mem_iff_getElem?.mpr ⟨device, List.getElem?_set_self hlt⟩, m.featureCount.toNat,
    by rw [hcount]; exact Nat.lt_succ_self _, index, ?_, ?_⟩
  · rw [List.getElem?_append_left (List.getElem?_eq_some_iff.mp hindex).1]
    exact hindex
  · rw [hat]
    intro hid
    have hplace := (h.place_iff hmem hpair).mp hid
    omega

theorem Apart.step (hok : BrowseOk entries done b) (h : Apart entries done b)
    (hgrouped : GroupedByDevice done) (hsize : entries.length ≤ kMaxPoints) {e : Entry}
    (he : entries[done.length]? = some e) {b₂ : BrowseIndex} (hadded : Added entries done b e b₂) :
    (Apart entries (done ++ [e]) b₂ ∧ GroupedByDevice (done ++ [e])) ∨
      (Foreign entries b₂ ∧ ¬ GroupedByDevice (done ++ [e])) := by
  have hlast := pairAt_last hsize he
  have hpairs := featurePairs_concat done e
  cases hadded with
  | known m hm hid hseen hsame =>
    rw [h.seen_iff hm hid] at hseen
    rw [note, if_pos hseen] at hpairs
    rw [GroupedByDevice, hpairs, hsame]
    refine .inl ⟨⟨?_, fun m' hm' => ?_, fun m' hm' => ?_⟩, hgrouped⟩
    · rw [hpairs]
      exact h.shelved
    · rw [hpairs]
      exact h.own m' hm'
    · rw [hpairs]
      exact h.fits m' hm'
  | first m hnew hid hstart hcount hadded =>
    have hkeys : e.definition.id.deviceId ∉ (featurePairs done).map (·.1) := by
      rw [mem_featurePairs_keys]
      exact hnew
    have hfresh : featurePair e ∉ featurePairs done := fun hmem =>
      hkeys (List.mem_map.mpr ⟨_, hmem, rfl⟩)
    rw [note, if_neg hfresh] at hpairs
    have hone : m.featureCount.toNat = 1 := by
      rw [hcount]
      rfl
    rw [GroupedByDevice, hpairs, List.map_append, List.map_singleton, grouped_concat, hadded]
    refine .inl ⟨⟨?_, fun m' hm' => ?_, fun m' hm' => ?_⟩, hgrouped, fun hmem => absurd hmem hkeys⟩
    · rw [List.map_append, List.map_singleton, hlast, hpairs, h.shelved]
    · rw [hpairs]
      cases List.mem_append.mp hm' with
      | inl hold =>
        refine h.own_concat hold fun hsame => hnew ?_
        have hdevice : e.definition.id.deviceId = deviceIdOf entries m' := hsame
        rw [hdevice]
        exact deviceIdOf_mem hok hold
      | inr hm' =>
        have hnone : (featurePairs done).filter (fun p => p.1 = deviceIdOf entries m) = [] := by
          rw [List.filter_eq_nil_iff]
          intro p hp hown
          refine hkeys (List.mem_map.mpr ⟨p, hp, ?_⟩)
          rw [← hid]
          exact of_decide_eq_true hown
        rw [List.mem_singleton.mp hm', window, hstart, h.length_eq, hone, List.drop_left,
          List.filter_append, hnone, hid]
        simp [featurePair]
    · rw [hpairs, List.length_append, List.length_singleton]
      cases List.mem_append.mp hm' with
      | inl hold => exact Nat.le_succ_of_le (h.fits m' hold)
      | inr hm' =>
        have hlength := h.length_eq
        rw [List.mem_singleton.mp hm']
        omega
  | another m device size hm hid hunseen hadded =>
    have hmem := List.mem_of_getElem? hm
    rw [h.seen_iff hmem hid] at hunseen
    rw [note, if_neg hunseen] at hpairs
    have hfits := h.fits m hmem
    have hmax : kMaxPoints = 1024 := rfl
    have hfew : (featurePairs done).length ≤ done.length := by
      rw [← h.length_eq]
      exact hok.count
    have hdone := (List.getElem?_eq_some_iff.mp he).1
    have hcount : (m.featureCount + 1).toNat = m.featureCount.toNat + 1 := by
      rw [UInt16.toNat_add]
      change (m.featureCount.toNat + 1) % 65536 = _
      omega
    have hkey : e.definition.id.deviceId ∈ (featurePairs done).map (·.1) := by
      rw [mem_featurePairs_keys, ← hid]
      exact deviceIdOf_mem hok hmem
    have hgroups : GroupedByDevice (done ++ [e]) ↔
        m.featureStart.toNat + m.featureCount.toNat = (featurePairs done).length := by
      rw [GroupedByDevice, hpairs, List.map_append, List.map_singleton, grouped_concat]
      constructor
      · intro hboth
        have hend := hboth.2 hkey
        rw [List.getLast?_map, Option.map_eq_some_iff] at hend
        obtain ⟨p, hp, hdevice⟩ := hend
        rw [List.getLast?_eq_getElem?] at hp
        have hplace := (h.place_iff hmem hp).mp (hdevice.trans hid.symm)
        omega
      · intro hend
        refine ⟨hgrouped, fun _ => ?_⟩
        obtain ⟨k, hk⟩ := List.getElem?_of_mem hkey
        rw [List.getElem?_map, Option.map_eq_some_iff] at hk
        obtain ⟨p, hp, hdevice⟩ := hk
        have hplace := (h.place_iff hmem hp).mp (hdevice.trans hid.symm)
        have hlt := (List.getElem?_eq_some_iff.mp hp).1
        obtain ⟨q, hq⟩ : ∃ q, (featurePairs done)[(featurePairs done).length - 1]? = some q :=
          ⟨_, List.getElem?_eq_getElem (by omega)⟩
        have hown := (h.place_iff hmem hq).mpr ⟨by omega, by omega⟩
        rw [List.getLast?_map, List.getLast?_eq_getElem?, hq, Option.map_some, hown, hid]
        rfl
    rw [hgroups, hadded]
    by_cases hend : m.featureStart.toNat + m.featureCount.toNat = (featurePairs done).length
    · refine .inl ⟨⟨?_, fun m' hm' => ?_, fun m' hm' => ?_⟩, hend⟩
      · rw [List.map_append, List.map_singleton, hlast, hpairs, h.shelved]
      · rw [hpairs]
        obtain rfl | ⟨hold, hother⟩ := mem_set_device hok hm hm'
        · have hown := h.own m hmem
          have hgrown : window ⟨m.catalogIndex, m.featureStart, m.featureCount + 1, size⟩
              (featurePairs done ++ [featurePair e]) =
                window m (featurePairs done) ++ [featurePair e] :=
            window_grown _ rfl hcount hend
          have hsame : deviceIdOf entries ⟨m.catalogIndex, m.featureStart, m.featureCount + 1,
              size⟩ = deviceIdOf entries m := rfl
          rw [hgrown, hown, List.filter_append, hsame, hid]
          simp [featurePair]
        · rw [hid] at hother
          exact h.own_concat hold (Ne.symm hother)
      · rw [hpairs, List.length_append, List.length_singleton]
        obtain rfl | ⟨hold, -⟩ := mem_set_device hok hm hm'
        · dsimp only
          omega
        · exact Nat.le_succ_of_le (h.fits m' hold)
    · exact .inr ⟨foreign_of_another h hm hcount (by omega), hend⟩

/-- Nothing is taken out of the index: a feature of another device stays in the part. -/
theorem Foreign.step (hok : BrowseOk entries done b) (h : Foreign entries b) {e : Entry}
    (hsize : entries.length ≤ kMaxPoints) (he : entries[done.length]? = some e)
    {b₂ : BrowseIndex} (hadded : Added entries done b e b₂) : Foreign entries b₂ := by
  obtain ⟨m', hm', offset, hoffset, index, hindex, hother⟩ := h
  have hstays : ∀ more : List UInt16,
      (b.featureIndices ++ more)[m'.featureStart.toNat + offset]? = some index := by
    intro more
    rw [List.getElem?_append_left (List.getElem?_eq_some_iff.mp hindex).1]
    exact hindex
  cases hadded with
  | known m hm hid hseen hsame =>
    rw [hsame]
    exact ⟨m', hm', offset, hoffset, index, hindex, hother⟩
  | first m hnew hid hstart hcount hadded =>
    rw [hadded]
    exact ⟨m', List.mem_append_left _ hm', offset, hoffset, index, hstays _, hother⟩
  | another m device size hm hid hunseen hadded =>
    rw [hadded]
    obtain ⟨i, hi⟩ := List.getElem?_of_mem hm'
    by_cases hsame : device = i
    · have hown : m' = m := by
        rw [hsame, hi] at hm
        exact Option.some.inj hm
      subst hown
      have hmax : kMaxPoints = 1024 := rfl
      have hdone := (List.getElem?_eq_some_iff.mp he).1
      have hrecorded := (hok.listed m' hm').recorded
      have hcount : (m'.featureCount + 1).toNat = m'.featureCount.toNat + 1 := by
        obtain ⟨names, hlength, -, hnames⟩ := hrecorded
        have hlong := hnames.long
        have hfew := hok.count
        rw [List.length_drop, shelf, List.length_map] at hlong
        rw [UInt16.toNat_add]
        change (m'.featureCount.toNat + 1) % 65536 = _
        omega
      refine ⟨_, List.mem_iff_getElem?.mpr ⟨device, List.getElem?_set_self ?_⟩, offset, ?_, index,
        hstays _, hother⟩
      · exact (List.getElem?_eq_some_iff.mp hm).1
      · dsimp only
        omega
    · refine ⟨m', List.mem_iff_getElem?.mpr ⟨i, ?_⟩, offset, hoffset, index, hstays _, hother⟩
      rw [List.getElem?_set_ne hsame]
      exact hi

/-- The index that is built of the catalog keeps the devices apart exactly if the catalog groups
their features. -/
theorem rebuildBrowseIndex_groups (hsize : entries.length ≤ kMaxPoints) :
    (Apart entries entries (rebuildBrowseIndex entries) ∧ GroupedByDevice entries) ∨
      (Foreign entries (rebuildBrowseIndex entries) ∧ ¬ GroupedByDevice entries) := by
  have hstep : ∀ (rest done : List Entry) (b : BrowseIndex), done ++ rest = entries →
      BrowseOk entries done b →
      ((Apart entries done b ∧ GroupedByDevice done) ∨
        (Foreign entries b ∧ ¬ GroupedByDevice done)) →
      let built := (rest.zipIdx done.length).foldl (addBrowseEntry entries) b
      (Apart entries entries built ∧ GroupedByDevice entries) ∨
        (Foreign entries built ∧ ¬ GroupedByDevice entries) := by
    intro rest
    induction rest with
    | nil =>
      intro done b hall _ h
      rw [List.append_nil] at hall
      rw [← hall] at h ⊢
      exact h
    | cons e rest ih =>
      intro done b hall hok h
      have he : entries[done.length]? = some e := by
        rw [← hall, List.getElem?_append_right (Nat.le_refl _), Nat.sub_self]
        rfl
      have hadded := addBrowseEntry_added hok hsize he
      have hnext := ih (done ++ [e]) _ (by rw [← hall, List.append_assoc]; rfl)
        (addBrowseEntry_ok hok hsize he) ?_
      · rw [List.length_append, List.length_singleton] at hnext
        rw [List.zipIdx_cons, List.foldl_cons]
        exact hnext
      · cases h with
        | inl h => exact h.1.step hok h.2 hsize he hadded
        | inr h =>
          refine .inr ⟨h.1.step hok hsize he hadded, fun hgrouped => h.2 ?_⟩
          have hmore : ∃ more, featurePairs (done ++ [e]) = featurePairs done ++ more := by
            rw [featurePairs_concat, note]
            split
            · exact ⟨[], (List.append_nil _).symm⟩
            · exact ⟨_, rfl⟩
          obtain ⟨more, hmore⟩ := hmore
          rw [GroupedByDevice, hmore, List.map_append] at hgrouped
          exact hgrouped.of_append
  have hempty : BrowseOk entries [] .empty :=
    ⟨rfl, by simp [BrowseIndex.empty], by simp [BrowseIndex.empty], Nat.le_refl _⟩
  refine hstep entries [] .empty rfl hempty (.inl ⟨⟨rfl, by simp [BrowseIndex.empty],
    by simp [BrowseIndex.empty]⟩, ?_⟩)
  intro i j k _ _ hk
  exact absurd hk (Nat.not_lt_zero k)

end NodeNet.Core

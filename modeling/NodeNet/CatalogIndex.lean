import NodeNet.CatalogFile
import NodeNet.Lib.Machine
import NodeNet.Lib.Probing

/-! The identity index over the operations of a catalog: what a rebuild makes, and what a lookup
then finds. -/
namespace NodeNet.Catalog
open NodeNet.Points NodeNet.Json NodeNet.Machine

theorem lookupFrom_eq (entries : List Entry) (slots : Nat → Option Nat) (id : PointIdentity)
    (probes slot : Nat) : lookupFrom entries slots id probes slot =
      Probing.search nextSlot (hasIdentityAt entries id) slots probes slot := by
  induction probes generalizing slot with
  | zero => rfl
  | succ probes ih =>
    unfold lookupFrom Probing.search
    cases slots slot with
    | none => rfl
    | some i => simp [ih]

theorem insertFrom_eq (entries : List Entry) (id : PointIdentity) (index probes slot : Nat)
    (slots : Nat → Option Nat) : insertFrom entries id index probes slot slots =
      Probing.place nextSlot (hasIdentityAt entries id) index slots probes slot := by
  induction probes generalizing slot with
  | zero => rfl
  | succ probes ih =>
    unfold insertFrom Probing.place
    cases slots slot with
    | none => rfl
    | some i =>
      simp only [ih]
      rfl

theorem firstSlot_lt (id : PointIdentity) : firstSlot id < kIndexCapacity :=
  Nat.mod_lt _ (by decide)

def identities (entries : List Entry) : List PointIdentity := entries.map (·.definition.id)

variable {entries : List Entry} {id : PointIdentity}

theorem hasIdentityAt_iff {i : Nat} :
    hasIdentityAt entries id i = true ↔ (identities entries)[i]? = some id := by
  cases hat : entries[i]? <;> simp [hasIdentityAt, identities, hat]

/-- The index holds the first `count` entries, each in one slot that its walk comes to. -/
structure IndexHolds (entries : List Entry) (slots : Nat → Option Nat) (count : Nat) : Prop where
  bound : ∀ s i, slots s = some i → i < count
  once : ∀ s s' i, slots s = some i → slots s' = some i → s = s'
  reaches : ∀ i id, i < count → (identities entries)[i]? = some id →
    Probing.Reaches nextSlot slots kIndexCapacity (firstSlot id) i

theorem index_unique (hnodup : (identities entries).Nodup) {i j : Nat}
    (hi : (identities entries)[i]? = some id) (hj : (identities entries)[j]? = some id) : i = j :=
  (List.getElem?_inj (List.getElem?_eq_some_iff.mp hi).1 hnodup).mp (hi.trans hj.symm)

theorem indexHolds_empty (entries : List Entry) : IndexHolds entries (fun _ => none) 0 where
  bound _ i h := absurd h.symm (Option.some_ne_none i)
  once _ _ i h := absurd h.symm (Option.some_ne_none i)
  reaches i _ h := absurd h (Nat.not_lt_zero i)

/-- Inserting the next entry. -/
theorem IndexHolds.insert (hnodup : (identities entries).Nodup) {slots : Nat → Option Nat}
    {count : Nat} (h : IndexHolds entries slots count) (hcount : count < kIndexCapacity) {e : Entry}
    (he : entries[count]? = some e) :
    IndexHolds entries (insertIndex entries slots (e, count)) (count + 1) := by
  have hid : (identities entries)[count]? = some e.definition.id := by
    simp [identities, he]
  have hnone : ∀ s i, slots s = some i → hasIdentityAt entries e.definition.id i = false := by
    intro s i hs
    apply Bool.eq_false_iff.mpr
    intro hfound
    have hsame := index_unique hnodup (hasIdentityAt_iff.mp hfound) hid
    have hlt := h.bound s i hs
    omega
  have hnew : ∀ s, slots s ≠ some count := fun s hs => Nat.lt_irrefl _ (h.bound s count hs)
  have hfree : ∃ k < kIndexCapacity,
      slots (Probing.probe nextSlot k (firstSlot e.definition.id)) = none :=
    Probing.exists_free (firstSlot_lt e.definition.id) hcount h.bound h.once
  obtain ⟨s, hs, -, hplace, hreaches⟩ := Probing.place_of_free hnone hnew hfree
  have hinsert : insertIndex entries slots (e, count) = Probing.store slots s count := by
    rw [insertIndex, insertFrom_eq]
    exact hplace
  rw [hinsert]
  refine ⟨fun t i ht => ?_, fun t t' i ht ht' => ?_, fun i id hi hat => ?_⟩
  · unfold Probing.store at ht
    split at ht
    · cases ht
      omega
    · have hlt := h.bound t i ht
      omega
  · unfold Probing.store at ht ht'
    split at ht <;> split at ht'
    · next hts hts' => exact hts.trans hts'.symm
    · cases ht
      exact absurd ht' (hnew t')
    · cases ht'
      exact absurd ht (hnew t)
    · exact h.once t t' i ht ht'
  · by_cases hlast : i = count
    · subst hlast
      rw [hid] at hat
      cases hat
      exact hreaches
    · exact (h.reaches i id (by omega) hat).store hs

theorem rebuildIndex_holds (hnodup : (identities entries).Nodup)
    (hfits : entries.length ≤ kIndexCapacity) :
    IndexHolds entries (rebuildIndex entries) entries.length := by
  have hrest : ∀ (rest : List Entry) (slots : Nat → Option Nat) (count : Nat),
      count + rest.length = entries.length → entries.drop count = rest →
      IndexHolds entries slots count →
      IndexHolds entries ((rest.zipIdx count).foldl (insertIndex entries) slots)
        entries.length := by
    intro rest
    induction rest with
    | nil =>
      intro slots count hlength _ h
      rw [List.length_nil, Nat.add_zero] at hlength
      exact hlength ▸ h
    | cons e rest ih =>
      intro slots count hlength hdrop h
      rw [List.length_cons] at hlength
      have he : entries[count]? = some e := by
        have hhead := congrArg List.head? hdrop
        rwa [List.head?_drop, List.head?_cons] at hhead
      have htail : entries.drop (count + 1) = rest := by
        have htl := congrArg List.tail hdrop
        rwa [List.tail_drop, List.tail_cons] at htl
      rw [List.zipIdx_cons, List.foldl_cons]
      exact ih _ (count + 1) (by omega) htail (h.insert hnodup (by omega) he)
  exact hrest entries _ 0 (Nat.zero_add _) rfl (indexHolds_empty entries)

theorem lookup_of_holds (hnodup : (identities entries).Nodup) {slots : Nat → Option Nat}
    (h : IndexHolds entries slots entries.length) {i : Nat}
    (hi : (identities entries)[i]? = some id) :
    lookupFrom entries slots id kIndexCapacity (firstSlot id) = some i := by
  have hlt : i < entries.length := by
    simpa [identities] using (List.getElem?_eq_some_iff.mp hi).1
  rw [lookupFrom_eq]
  refine Probing.search_of_reaches (h.reaches i id hlt hi) (hasIdentityAt_iff.mpr hi) ?_
  intro s j _ hfound
  exact index_unique hnodup (hasIdentityAt_iff.mp hfound) hi

/-! Distinct identities and sound lookups over whole histories of the catalog. -/

def PointCatalog.find (c : PointCatalog) (id : PointIdentity) : Option PointDefinition :=
  (c.lookupIndex id).bind fun i => c.entries[i]?.map (·.definition)

def PointCatalog.findState (c : PointCatalog) (id : PointIdentity) : Option PointState :=
  (c.lookupIndex id).bind fun i => c.entries[i]?.map (·.state)

def PointCatalog.findCommandState (c : PointCatalog) (id : PointIdentity) :
    Option PointCommandState :=
  (c.lookupIndex id).bind fun i => c.entries[i]?.map (·.command)

/-- No two entries have one identity, and the lookups find the entry that has it. -/
structure Consistent (c : PointCatalog) : Prop where
  distinct : (identities c.entries).Nodup
  found : ∀ i e, c.entries[i]? = some e →
    c.findIndex e.definition.id = some i ∧ c.find e.definition.id = some e.definition ∧
      c.findState e.definition.id = some e.state ∧
      c.findCommandState e.definition.id = some e.command
  missing : ∀ id, id ∉ identities c.entries →
    c.findIndex id = none ∧ c.find id = none ∧ c.findState id = none ∧ c.findCommandState id = none

inductive CatalogOperation where
  | upsert (definition : PointDefinition)
  | remove (id : PointIdentity)
  | clear
  | replaceSlotVariableDefinitions (slotId : UInt16) (definitions : List PointDefinition)
  | loadFromJson (json : Option Text)
  | beginBatchUpdate
  | endBatchUpdate

def operate (library : Library) (s : BrowsedCatalog) : CatalogOperation → BrowsedCatalog
  | .upsert definition => (s.upsert definition).2
  | .remove id => (s.remove id).2
  | .clear => s.clear
  | .replaceSlotVariableDefinitions slotId definitions =>
    (s.replaceSlotVariableDefinitions slotId definitions).2
  | .loadFromJson json => (s.loadFromJson library json).2
  | .beginBatchUpdate => s.beginBatchUpdate
  | .endBatchUpdate => s.endBatchUpdate

def readable (library : Library) (item : Value) : Bool :=
  (deserializePersistedEntry library item).isSome

/-- The points that the items store, without the variables of slots. -/
def storedDefinitions (library : Library) (items : List Value) : List PointDefinition :=
  (items.filterMap (deserializePersistedEntry library)).filter fun d =>
    !isTransientSlotVariable d.id

/-- Every item can be read, and none comes after `kMaxPoints` stored points. -/
def Whole (library : Library) (room : Nat) (items : List Value) : Prop :=
  (∀ item ∈ items, readable library item = true) ∧
    ∀ k < items.length, (storedDefinitions library (items.take k)).length < room

/-- The items store every point once; or they cannot be loaded as a whole, and then no point comes
before the one that cannot be read. -/
def LoadsUnique (library : Library) (items : List Value) : Prop :=
  (Whole library kMaxPoints items → ((storedDefinitions library items).map (·.id)).Nodup) ∧
    (¬ Whole library kMaxPoints items →
      storedDefinitions library (items.takeWhile (readable library)) = [])

def textPoints (library : Library) (json : Option Text) : Option (List Value) :=
  match json with
  | none | some [] => none
  | some json => (library.deserialize json).bind storedPoints

/-- The new variables of a slot have identities of their own, and a loaded text stores every
point once and is read to its end. -/
def KeepsUnique (library : Library) (s : BrowsedCatalog) : CatalogOperation → Prop
  | .replaceSlotVariableDefinitions slotId definitions =>
    definitions.length ≤ kMaxPoints →
    s.catalog.size - (slotVariables slotId s.catalog).length + definitions.length ≤ kMaxPoints →
      (definitions.map (·.id)).Nodup ∧
        ∀ e ∈ s.catalog.entries, isSlotVariablePoint slotId e = false →
          e.definition.id ∉ definitions.map (·.id)
  | .loadFromJson json => ∀ items, textPoints library json = some items → LoadsUnique library items
  | _ => True

/-- What the operations keep, beyond what the lookups show. -/
structure Indexed (c : PointCatalog) : Prop where
  distinct : (identities c.entries).Nodup
  size : c.entries.length ≤ kMaxPoints
  holds : IndexHolds c.entries c.indexSlots c.entries.length

variable {c : PointCatalog}

theorem Indexed.lookup (h : Indexed c) {i : Nat} {e : Entry} (he : c.entries[i]? = some e) :
    c.lookupIndex e.definition.id = some i := by
  have hne : c.entries ≠ [] := by
    intro hnil
    rw [hnil] at he
    cases he
  rw [PointCatalog.lookupIndex, if_neg hne]
  exact lookup_of_holds h.distinct h.holds (by simp [identities, he])

theorem lookup_of_not_mem (hid : id ∉ identities c.entries) : c.lookupIndex id = none := by
  cases hlookup : c.lookupIndex id with
  | none => rfl
  | some i =>
    obtain ⟨e, he, rfl⟩ := findIndex_spec hlookup
    exact absurd (List.mem_map.mpr ⟨e, List.mem_of_getElem? he, rfl⟩) hid

theorem Indexed.consistent (h : Indexed c) : Consistent c where
  distinct := h.distinct
  found i e he := by
    have hlookup := h.lookup he
    refine ⟨hlookup, ?_, ?_, ?_⟩
    · simp [PointCatalog.find, hlookup, he]
    · simp [PointCatalog.findState, hlookup, he]
    · simp [PointCatalog.findCommandState, hlookup, he]
  missing id hid := by
    have hlookup := lookup_of_not_mem hid
    refine ⟨hlookup, ?_, ?_, ?_⟩
    · simp [PointCatalog.find, hlookup]
    · simp [PointCatalog.findState, hlookup]
    · simp [PointCatalog.findCommandState, hlookup]

theorem indexed_empty : Indexed .empty := ⟨List.nodup_nil, Nat.zero_le _, indexHolds_empty []⟩

theorem indexed_cleared (c : PointCatalog) : Indexed c.cleared :=
  ⟨List.nodup_nil, Nat.zero_le _, indexHolds_empty []⟩

theorem kMaxPoints_le : kMaxPoints ≤ kIndexCapacity := Nat.le_refl _

theorem indexed_of_rebuilt (hdistinct : (identities c.entries).Nodup)
    (hsize : c.entries.length ≤ kMaxPoints) (hslots : c.indexSlots = rebuildIndex c.entries) :
    Indexed c :=
  ⟨hdistinct, hsize, hslots ▸ rebuildIndex_holds hdistinct (Nat.le_trans hsize kMaxPoints_le)⟩

theorem indexed_setEntries (hdistinct : (identities entries).Nodup)
    (hsize : entries.length ≤ kMaxPoints) :
    Indexed (c.setEntries entries) := indexed_of_rebuilt hdistinct hsize rfl

theorem identities_modify (entries : List Entry) {i : Nat} {definition : PointDefinition}
    (hi : (identities entries)[i]? = some definition.id) :
    identities (entries.modify i fun e => { e with definition := definition }) =
      identities entries := by
  induction entries generalizing i with
  | nil => cases i <;> rfl
  | cons e entries ih =>
    cases i with
    | zero => simpa [identities, eq_comm] using hi
    | succ i =>
      have hrest := ih (by simpa [identities] using hi)
      simpa [identities] using hrest

theorem Indexed.upsert {s : BrowsedCatalog} (h : Indexed s.catalog)
    (definition : PointDefinition) : Indexed (s.upsert definition).2.catalog := by
  unfold BrowsedCatalog.upsert PointCatalog.upsert
  cases hfind : s.catalog.findIndex definition.id with
  | some i =>
    obtain ⟨e, he, hid⟩ := findIndex_spec hfind
    simp only [reindexed_catalog]
    refine indexed_setEntries ?_ ?_
    · rw [identities_modify _ (by simp [identities, he, hid])]
      exact h.distinct
    · simpa using h.size
  | none =>
    by_cases hfull : kMaxPoints ≤ s.catalog.size
    · simpa [hfull] using h
    · simp only [hfull, if_false, reindexed_catalog]
      have hnew : definition.id ∉ identities s.catalog.entries := by
        intro hmem
        obtain ⟨e, he, hid⟩ := List.mem_map.mp hmem
        obtain ⟨i, hi⟩ := List.getElem?_of_mem he
        have hlookup : s.catalog.findIndex e.definition.id = some i := h.lookup hi
        rw [hid, hfind] at hlookup
        cases hlookup
      refine indexed_setEntries ?_ ?_
      · rw [identities, List.map_append]
        refine List.nodup_append.mpr
          ⟨h.distinct, by simp [freshEntry], fun id hid id' hid' hsame => ?_⟩
        have hid' : id' = definition.id := by simpa [freshEntry] using hid'
        exact hnew (hid' ▸ hsame ▸ hid)
      · simp only [PointCatalog.size] at hfull
        simp
        omega

theorem Indexed.remove {s : BrowsedCatalog} (h : Indexed s.catalog) (id : PointIdentity) :
    Indexed (s.remove id).2.catalog := by
  unfold BrowsedCatalog.remove PointCatalog.remove
  cases s.catalog.findIndex id with
  | none => exact h
  | some i =>
    simp only [reindexed_catalog]
    refine indexed_setEntries ?_ ?_
    · exact h.distinct.sublist ((List.eraseIdx_sublist _ _).map _)
    · exact Nat.le_trans (List.length_eraseIdx_le _ _) h.size

theorem eq_of_identity (hdistinct : (identities entries).Nodup) {e e' : Entry} (he : e ∈ entries)
    (he' : e' ∈ entries) (hid : e.definition.id = e'.definition.id) : e = e' := by
  obtain ⟨i, hi⟩ := List.getElem?_of_mem he
  obtain ⟨j, hj⟩ := List.getElem?_of_mem he'
  have hat : (identities entries)[i]? = some e.definition.id := by simp [identities, hi]
  have hat' : (identities entries)[j]? = some e.definition.id := by simp [identities, hj, hid]
  have hsame := index_unique hdistinct hat hat'
  subst hsame
  exact Option.some.inj (hi.symm.trans hj)

/-- The new list has distinct identities exactly if the new variables bring none twice and none
that another entry has. -/
theorem replacedEntries_distinct (slotId : UInt16) (definitions : List PointDefinition)
    (hdistinct : (identities entries).Nodup) :
    (identities (replacedEntries slotId definitions entries)).Nodup ↔
      (definitions.map (·.id)).Nodup ∧ ∀ e ∈ entries, isSlotVariablePoint slotId e = false →
        e.definition.id ∉ definitions.map (·.id) := by
  let kept := entries.filter fun e => !isSlotVariablePoint slotId e
  have hkept : (identities kept).Nodup := hdistinct.sublist (List.filter_sublist.map _)
  have hperm : (identities (replacedEntries slotId definitions entries)).Perm
      (definitions.map (·.id) ++ identities kept) := by
    have hsplit : (kept.takeWhile fun e => !isLaterSlotPoint slotId e) ++
        (kept.dropWhile fun e => !isLaterSlotPoint slotId e) = kept :=
      List.takeWhile_append_dropWhile
    have hfresh : identities (definitions.map freshEntry) = definitions.map (·.id) := by
      simp [identities, freshEntry, Function.comp_def]
    rw [← hfresh, ← hsplit]
    simp only [identities, ← List.map_append]
    refine List.Perm.map _ ?_
    rw [replacedEntries, ← List.append_assoc]
    exact List.Perm.append_right _ List.perm_append_comm
  rw [hperm.nodup_iff, List.nodup_append]
  constructor
  · rintro ⟨hnodup, -, happart⟩
    refine ⟨hnodup, fun e he hother hmem => ?_⟩
    exact happart _ hmem _ (List.mem_map.mpr
      ⟨e, List.mem_filter.mpr ⟨he, by simp [hother]⟩, rfl⟩) rfl
  · rintro ⟨hnodup, happart⟩
    refine ⟨hnodup, hkept, fun id hid id' hid' hsame => ?_⟩
    obtain ⟨e, he, rfl⟩ := List.mem_map.mp hid'
    obtain ⟨he, hother⟩ := List.mem_filter.mp he
    exact happart e he (by simpa using hother) (hsame ▸ hid)

end NodeNet.Catalog

import NodeNet.SlotReplacement

/-! The arrays of the catalog against the list of its entries, over whole histories. -/
namespace NodeNet.Catalog
open NodeNet.Points NodeNet.Arrays NodeNet.Json

namespace CatalogStorage

theorem count_eq_length (s : CatalogStorage) : s.rows.length = s.count := taken_length ..

theorem toEntries_rows {s : CatalogStorage}
    (h : ∀ r ∈ s.rows, r.plcMeta = classifyPlcPointMeta r.definition) :
    s.toEntries.map Row.ofEntry = s.rows := by
  rw [toEntries, ← taken_map]
  refine taken_congr fun i hi => ?_
  have hkind := h (s.row i) (List.mem_map.mpr ⟨i, List.mem_range.mpr hi, rfl⟩)
  calc
    Row.ofEntry ⟨s.entries i, s.commandStates i, s.pointStates i⟩
        = { s.row i with plcMeta := classifyPlcPointMeta (s.row i).definition } := rfl
    _ = s.row i := by rw [← hkind]

theorem rows_storeDefinition {s : CatalogStorage} {entries : List Entry}
    (h : s.rows = entries.map Row.ofEntry) (index : Nat) (definition : PointDefinition) :
    (s.storeDefinition index definition).rows =
      (entries.modify index fun e => { e with definition := definition }).map Row.ofEntry := by
  have hrow : (s.storeDefinition index definition).row = store s.row index
      { s.row index with
        definition := definition
        plcMeta := classifyPlcPointMeta definition } := by
    funext j
    by_cases hj : j = index <;> simp [row, storeDefinition, store, hj]
  have hcount : (s.storeDefinition index definition).count = s.count := rfl
  rw [rows, hrow, hcount, taken_store]
  rw [rows] at h
  rw [h]
  refine List.ext_getElem? fun j => ?_
  rw [List.getElem?_set, List.getElem?_map, List.getElem?_map, List.getElem?_modify]
  by_cases hj : index = j
  · subst hj
    rw [if_pos rfl]
    cases hentry : entries[index]? with
    | none =>
      have hout := List.getElem?_eq_none_iff.mp hentry
      simp [Nat.not_lt.mpr hout]
    | some e =>
      have hlt := (List.getElem?_eq_some_iff.mp hentry).1
      have hcount : index < s.count := by
        rw [← taken_length s.row s.count, h, List.length_map]
        exact hlt
      have hat : (taken s.row s.count)[index]? = some (Row.ofEntry e) := by
        rw [h, List.getElem?_map, hentry]
        rfl
      rw [taken_getElem? _ hcount] at hat
      rw [Option.some.inj hat]
      simp [hlt, Row.ofEntry]
  · simp [hj]

theorem rows_appendPoint (s : CatalogStorage) (definition : PointDefinition) :
    (s.appendPoint definition).rows = s.rows ++ [freshRow definition] := by
  have hrow : (s.appendPoint definition).row = fill s.row s.count [freshRow definition] := by
    change (s.placePoint s.count definition).row = _
    rw [row_placePoint]
    rfl
  rw [rows, hrow]
  exact taken_appended s.row s.count [freshRow definition]

theorem rows_removePoint {s : CatalogStorage} {index : Nat} (h : index < s.count) :
    (s.removePoint index).rows = s.rows.eraseIdx index := by
  rw [rows, rows, ← taken_erase s.row h]
  change taken _ (s.count - 1) = _
  refine taken_congr fun j hj => ?_
  have hne : j ≠ s.count - 1 := by omega
  by_cases hmoved : s.count - index - 1 ≠ 0
  · rw [← row_movePoints]
    simp [row, removePoint, store, hne, hmoved]
  · have hzero : s.count - index - 1 = 0 := Decidable.not_not.mp hmoved
    rw [hzero, memmove, if_neg (by omega)]
    simp [row, removePoint, store, hne, hzero]

theorem rows_loaded (definitions : List PointDefinition) :
    (definitions.foldl loadPoint cleared).rows = (definitions.map freshEntry).map Row.ofEntry := by
  have hfold : ∀ (ds : List PointDefinition) (s : CatalogStorage),
      (∀ i, s.commandStates i = .zero ∧ s.pointStates i = .zero) →
      (ds.foldl loadPoint s).rows = s.rows ++ ds.map freshRow := by
    intro ds
    induction ds with
    | nil => simp
    | cons d ds ih =>
      intro s hzero
      have hrow : (s.loadPoint d).row = fill s.row s.count [freshRow d] := by
        funext j
        rw [fill, fill, store]
        by_cases hj : j = s.count
        · subst hj
          obtain ⟨hcommand, hstate⟩ := hzero s.count
          simp [row, loadPoint, storeDefinition, store, freshRow, freshEntry, Row.ofEntry, hcommand,
            hstate]
        · simp [row, loadPoint, storeDefinition, store, hj]
      have hloaded : (s.loadPoint d).rows = s.rows ++ [freshRow d] := by
        rw [rows, hrow]
        exact taken_appended s.row s.count [freshRow d]
      rw [List.foldl_cons, ih (s.loadPoint d) hzero, hloaded]
      simp
  have hrows := hfold definitions cleared fun i => ⟨rfl, rfl⟩
  rw [hrows, List.map_map]
  rfl

end CatalogStorage

/-- The arrays hold the catalog's entries, and what kind each point is. -/
structure Mirrors (m : CatalogMemory) : Prop where
  rows : m.storage.rows = m.browsed.catalog.entries.map Row.ofEntry
  size : m.storage.count ≤ kMaxPoints

variable {m : CatalogMemory}

theorem Mirrors.count (h : Mirrors m) : m.storage.count = m.browsed.catalog.size := by
  have hlength := congrArg List.length h.rows
  rw [CatalogStorage.count_eq_length, List.length_map] at hlength
  exact hlength

theorem Mirrors.others (h : Mirrors m) (slotId : UInt16) :
    m.storage.others slotId = (m.browsed.catalog.entries.filter fun e =>
      !Catalog.isSlotVariablePoint slotId e).map Row.ofEntry := by
  rw [CatalogStorage.others, h.rows, List.filter_map]
  rfl

theorem Mirrors.replacePoints_rows (h : Mirrors m) (slotId : UInt16)
    (definitions : List PointDefinition) : (m.storage.replacePoints slotId definitions).rows =
      (replacedEntries slotId definitions m.browsed.catalog.entries).map Row.ofEntry := by
  rw [CatalogStorage.replacePoints_rows, h.others, List.takeWhile_map, List.dropWhile_map,
    replacedEntries, List.map_append, List.map_append, List.map_map]
  rfl

theorem Mirrors.toEntries_replacePoints (h : Mirrors m) (slotId : UInt16)
    (definitions : List PointDefinition) : (m.storage.replacePoints slotId definitions).toEntries =
      replacedEntries slotId definitions m.browsed.catalog.entries := by
  have hrows := h.replacePoints_rows slotId definitions
  have hkinds : ∀ r ∈ (m.storage.replacePoints slotId definitions).rows,
      r.plcMeta = classifyPlcPointMeta r.definition := by
    intro r hr
    rw [hrows] at hr
    obtain ⟨e, -, rfl⟩ := List.mem_map.mp hr
    rfl
  have hboth := (CatalogStorage.toEntries_rows hkinds).trans hrows
  refine (List.map_inj_right fun a b hab => ?_).mp hboth
  simp only [Row.ofEntry, Row.mk.injEq] at hab
  obtain ⟨hdefinition, hcommand, -, hstate⟩ := hab
  cases a
  cases b
  simp_all

theorem mirrors_start : Mirrors .start := ⟨rfl, Nat.zero_le _⟩

theorem Mirrors.of_rows (hrows : m.storage.rows = m.browsed.catalog.entries.map Row.ofEntry)
    (hsize : m.browsed.catalog.entries.length ≤ kMaxPoints) : Mirrors m := by
  refine ⟨hrows, ?_⟩
  have hlength := congrArg List.length hrows
  rw [CatalogStorage.count_eq_length, List.length_map] at hlength
  omega

theorem Mirrors.upsert (h : Mirrors m) (definition : PointDefinition) :
    Mirrors (m.upsert definition) := by
  have hcount := h.count
  rw [CatalogMemory.upsert, BrowsedCatalog.upsert, PointCatalog.upsert]
  cases hfind : m.browsed.catalog.findIndex definition.id with
  | some index =>
    refine .of_rows ?_ ?_
    · simpa using CatalogStorage.rows_storeDefinition h.rows index definition
    · have hsize := h.size
      rw [hcount, PointCatalog.size] at hsize
      simpa using hsize
  | none =>
    by_cases hfull : kMaxPoints ≤ m.storage.count
    · have hfull' : kMaxPoints ≤ m.browsed.catalog.size := hcount ▸ hfull
      simp only [hfull, hfull', if_true]
      exact ⟨h.rows, h.size⟩
    · have hfull' : ¬ kMaxPoints ≤ m.browsed.catalog.size := hcount ▸ hfull
      simp only [hfull, hfull', if_false]
      refine .of_rows ?_ ?_
      · simp only [reindexed_catalog, setEntries_entries]
        rw [CatalogStorage.rows_appendPoint, h.rows, List.map_append]
        rfl
      · simp only [reindexed_catalog, setEntries_entries, List.length_append,
          List.length_singleton]
        rw [PointCatalog.size] at hfull'
        omega

theorem Mirrors.remove (h : Mirrors m) (id : PointIdentity) : Mirrors (m.remove id) := by
  rw [CatalogMemory.remove, BrowsedCatalog.remove, PointCatalog.remove]
  cases hfind : m.browsed.catalog.findIndex id with
  | none => exact ⟨h.rows, h.size⟩
  | some index =>
    have hlt : index < m.storage.count := h.count ▸ findIndex_lt hfind
    refine .of_rows ?_ ?_
    · simp only [reindexed_catalog, setEntries_entries]
      rw [CatalogStorage.rows_removePoint hlt, h.rows, List.eraseIdx_eq_take_drop_succ,
        List.eraseIdx_eq_take_drop_succ, List.map_append, List.map_take, List.map_drop]
    · have hsize := h.size
      rw [h.count, PointCatalog.size] at hsize
      simp only [reindexed_catalog, setEntries_entries]
      exact Nat.le_trans (List.length_eraseIdx_le _ _) hsize

theorem Mirrors.replaced (h : Mirrors m) (slotId : UInt16)
    (definitions : Option (List PointDefinition)) :
    Mirrors (m.replaceSlotVariableDefinitions slotId definitions).2.2 := by
  rw [CatalogMemory.replaceSlotVariableDefinitions]
  obtain ⟨hnone, -⟩ | ⟨ds, -, hfits, ⟨-, hsame⟩ | ⟨-, hchanged⟩⟩ :=
    CatalogStorage.replaceSlotVariableDefinitions_cases slotId definitions m.storage
  · rw [hnone]
    exact h
  · rw [hsame]
    exact h
  · rw [hchanged]
    refine ⟨?_, ?_⟩
    · simp only [if_true, reindexed_catalog, setEntries_entries]
      rw [h.toEntries_replacePoints, h.replacePoints_rows]
    · have hrows := h.replacePoints_rows slotId ds
      have hlength := congrArg List.length hrows
      have hsizes := length_replacedEntries slotId ds m.browsed.catalog.entries
      have hvariables : (m.storage.slotVariables slotId).length =
          (m.browsed.catalog.entries.filter (Catalog.isSlotVariablePoint slotId)).length := by
        rw [CatalogStorage.slotVariables, h.rows, List.filter_map, List.length_map]
        rfl
      have hcount := h.count
      have hfit := hfits.2
      rw [CatalogStorage.count_eq_length, List.length_map] at hlength
      rw [PointCatalog.size] at hcount
      change (m.storage.replacePoints slotId ds).count ≤ kMaxPoints
      omega

theorem loadEntries_fresh (library : Library) (items : List Value) (entries : List Entry)
    (h : ∃ ds : List PointDefinition, entries = ds.map freshEntry)
    (hsize : entries.length ≤ kMaxPoints) :
    (∃ ds : List PointDefinition, (loadEntries library items entries).2 = ds.map freshEntry) ∧
      (loadEntries library items entries).2.length ≤ kMaxPoints := by
  induction items generalizing entries with
  | nil => exact ⟨h, hsize⟩
  | cons item items ih =>
    rw [loadEntries]
    by_cases hfull : kMaxPoints ≤ entries.length
    · rw [if_pos hfull]
      exact ⟨h, hsize⟩
    · rw [if_neg hfull]
      cases deserializePersistedEntry library item with
      | none => exact ⟨h, hsize⟩
      | some definition =>
        dsimp only
        by_cases htransient : isTransientSlotVariable definition.id = true
        · rw [if_pos htransient]
          exact ih entries h hsize
        · rw [if_neg htransient]
          obtain ⟨ds, rfl⟩ := h
          refine ih _ ⟨ds ++ [definition], by simp⟩ ?_
          rw [List.length_append, List.length_singleton]
          omega

theorem loadFromJson_entries (library : Library) (s : BrowsedCatalog) (json : Option Text) :
    (CatalogMemory.isTaken library json = false ∧ (s.loadFromJson library json).2 = s) ∨
      CatalogMemory.isTaken library json = true ∧
        (∃ ds : List PointDefinition,
          (s.loadFromJson library json).2.catalog.entries = ds.map freshEntry) ∧
        (s.loadFromJson library json).2.catalog.entries.length ≤ kMaxPoints := by
  have hempty : ∃ ds : List PointDefinition, ([] : List Entry) = ds.map freshEntry := ⟨[], rfl⟩
  cases json with
  | none => exact .inr ⟨rfl, hempty, Nat.zero_le _⟩
  | some text =>
    cases text with
    | nil => exact .inr ⟨rfl, hempty, Nat.zero_le _⟩
    | cons c text =>
      simp only [BrowsedCatalog.loadFromJson, CatalogMemory.isTaken]
      cases library.deserialize (c :: text) with
      | none => exact .inl ⟨rfl, rfl⟩
      | some doc =>
        refine .inr ⟨rfl, ?_⟩
        dsimp only
        cases storedPoints doc with
        | none => exact ⟨hempty, Nat.zero_le _⟩
        | some items =>
          have hloaded := loadEntries_fresh library items [] hempty (Nat.zero_le _)
          dsimp only
          generalize loadEntries library items [] = loaded at hloaded ⊢
          obtain ⟨ok, entries⟩ := loaded
          cases ok with
          | false => exact hloaded
          | true => exact hloaded

theorem Mirrors.loaded (h : Mirrors m) (library : Library) (json : Option Text) :
    Mirrors (m.loadFromJson library json) := by
  rw [CatalogMemory.loadFromJson]
  obtain ⟨htaken, hsame⟩ | ⟨htaken, ⟨ds, hentries⟩, hsize⟩ :=
    loadFromJson_entries library m.browsed json
  · rw [htaken, hsame]
    exact h
  · refine .of_rows ?_ hsize
    simp only [htaken, if_true]
    rw [CatalogStorage.rows_loaded, PointCatalog.definitions, hentries]
    simp [freshEntry, Function.comp_def]

theorem Mirrors.modified (h : Mirrors m) {storage : CatalogStorage} {catalog : PointCatalog}
    {index : Nat} {f : Entry → Entry} {g : Row → Row} (hcount : storage.count = m.storage.count)
    (hrow : storage.row = store m.storage.row index (g (m.storage.row index)))
    (hfg : ∀ e, Row.ofEntry (f e) = g (Row.ofEntry e))
    (hentries : catalog.entries = m.browsed.catalog.entries.modify index f) :
    Mirrors ⟨storage, { m.browsed with catalog := catalog }⟩ := by
  refine ⟨?_, hcount ▸ h.size⟩
  have hrows := h.rows
  dsimp only
  rw [CatalogStorage.rows, hcount, hrow, taken_store, hentries]
  rw [CatalogStorage.rows] at hrows
  refine List.ext_getElem? fun j => ?_
  rw [hrows, List.getElem?_set, List.getElem?_map, List.getElem?_map, List.getElem?_modify]
  by_cases hj : index = j
  · subst hj
    rw [if_pos rfl]
    cases hentry : m.browsed.catalog.entries[index]? with
    | none =>
      have hout := List.getElem?_eq_none_iff.mp hentry
      simp [Nat.not_lt.mpr hout]
    | some e =>
      have hlt := (List.getElem?_eq_some_iff.mp hentry).1
      have hcount : index < m.storage.count := by
        rw [h.count]
        exact hlt
      have hat : (taken m.storage.row m.storage.count)[index]? = some (Row.ofEntry e) := by
        rw [hrows, List.getElem?_map, hentry]
        rfl
      rw [taken_getElem? _ hcount] at hat
      rw [Option.some.inj hat]
      simp [hlt, hfg]
  · simp [hj]

theorem Mirrors.operate (h : Mirrors m) (library : Library) (operation : MemoryOperation) :
    Mirrors (m.operate library operation) := by
  cases operation with
  | catalog operation =>
    cases operation with
    | upsert definition => exact h.upsert definition
    | remove id => exact h.remove id
    | clear => exact ⟨rfl, Nat.zero_le _⟩
    | replaceSlotVariableDefinitions slotId definitions =>
      exact h.replaced slotId (some definitions)
    | loadFromJson json => exact h.loaded library json
    | beginBatchUpdate => exact ⟨h.rows, h.size⟩
    | endBatchUpdate =>
      refine ⟨?_, h.size⟩
      rw [CatalogMemory.operate]
      simpa using h.rows
  | setState index state =>
    refine h.modified (g := fun r => { r with state := state }) rfl ?_ (fun e => rfl) rfl
    funext j
    by_cases hj : j = index <;> simp [CatalogStorage.row, store, hj]
  | setCommandState index command =>
    have hentries := Eq.refl (m.browsed.catalog.entries.modify index
      fun e => { e with command := command })
    refine h.modified (g := fun r => { r with command := command }) rfl ?_ (fun e => rfl) hentries
    funext j
    by_cases hj : j = index <;> simp [CatalogStorage.row, store, hj]

def CatalogMemory.after (library : Library) (operations : List MemoryOperation) : CatalogMemory :=
  operations.foldl (CatalogMemory.operate library) .start

theorem mirrors_after (library : Library) (operations : List MemoryOperation) :
    Mirrors (CatalogMemory.after library operations) := by
  have hfold : ∀ m, Mirrors m → Mirrors (operations.foldl (CatalogMemory.operate library) m) := by
    induction operations with
    | nil => exact fun m h => h
    | cons operation operations ih => exact fun m h => ih _ (h.operate library operation)
  exact hfold .start mirrors_start

/-- What replacing the variables of a slot does: the result of the call, whether it says that
something changed, and the catalog after it. -/
structure Replaced (slotId : UInt16) (definitions : Option (List PointDefinition))
    (m : CatalogMemory) (result : Bool × Bool × CatalogMemory) : Prop where
  succeeds : result.1 = true ↔ ∃ ds, definitions = some ds ∧ m.storage.Fits slotId ds
  refused : result.1 = false → result.2 = (false, m)
  unchanged : ∀ ds, definitions = some ds → result.1 = true →
    CatalogStorage.SameDefinitions ((m.storage.slotVariables slotId).map (·.definition)) ds →
      result.2 = (false, m)
  /-- The other points stay as they are and in their order, around the list. -/
  changed : ∀ ds, definitions = some ds → result.1 = true →
    ¬ CatalogStorage.SameDefinitions ((m.storage.slotVariables slotId).map (·.definition)) ds →
      result.2.1 = true ∧
      (∃ before after, m.storage.others slotId = before ++ after ∧
        result.2.2.storage.rows = before ++ ds.map freshRow ++ after) ∧
      result.2.2.storage.slotVariables slotId =
        (ds.map freshRow).filter (Row.isSlotVariable slotId) ∧
      result.2.2.browsed.catalog.entries.map Row.ofEntry = result.2.2.storage.rows ∧
      result.2.2.browsed.catalog.defsGeneration = m.browsed.catalog.defsGeneration + 1

/-- After every history, the call replaces the slot's variables and touches nothing else. -/
theorem slotVariables_replaced (library : Library) (operations : List MemoryOperation)
    (slotId : UInt16) (definitions : Option (List PointDefinition)) :
    Replaced slotId definitions (CatalogMemory.after library operations)
      ((CatalogMemory.after library operations).replaceSlotVariableDefinitions slotId
        definitions) := by
  have hmirrors := mirrors_after library operations
  generalize CatalogMemory.after library operations = m at hmirrors ⊢
  have hafter := hmirrors.replaced slotId definitions
  rw [CatalogMemory.replaceSlotVariableDefinitions] at hafter ⊢
  obtain ⟨hnone, hrefused⟩ | ⟨ds, hds, hfits, ⟨hsame, hresult⟩ | ⟨hother, hresult⟩⟩ :=
    CatalogStorage.replaceSlotVariableDefinitions_cases slotId definitions m.storage
  · rw [hnone]
    refine ⟨⟨fun h => ?_, fun h => ?_⟩, fun _ => rfl, fun _ _ h => ?_, fun _ _ h => ?_⟩
    · cases h
    · obtain ⟨ds, hds, hfits⟩ := h
      exact absurd hfits (hrefused ds hds)
    · cases h
    · cases h
  · rw [hresult]
    refine ⟨⟨fun _ => ⟨ds, hds, hfits⟩, fun _ => rfl⟩, fun h => ?_, fun _ _ _ _ => rfl,
      fun ds' hds' _ hother => ?_⟩
    · cases h
    · rw [hds] at hds'
      cases hds'
      exact absurd hsame hother
  · rw [hresult] at hafter ⊢
    refine ⟨⟨fun _ => ⟨ds, hds, hfits⟩, fun _ => rfl⟩, fun h => ?_, fun ds' hds' _ hsame => ?_,
      fun ds' hds' _ _ => ?_⟩
    · cases h
    · rw [hds] at hds'
      cases hds'
      exact absurd hsame hother
    · rw [hds] at hds'
      cases hds'
      have hrows := CatalogStorage.replacePoints_rows slotId ds m.storage
      refine ⟨rfl, ⟨_, _, List.takeWhile_append_dropWhile.symm, hrows⟩, ?_, hafter.rows.symm, ?_⟩
      · have hnone : ∀ l : List Row, (∀ r ∈ l, r ∈ m.storage.others slotId) →
            l.filter (Row.isSlotVariable slotId) = [] := by
          intro l hl
          rw [List.filter_eq_nil_iff]
          intro r hr
          simpa using (List.mem_filter.mp (hl r hr)).2
        simp only [if_true]
        rw [CatalogStorage.slotVariables, hrows, List.filter_append, List.filter_append,
          hnone _ fun r hr => (List.takeWhile_sublist _).subset hr,
          hnone _ fun r hr => (List.dropWhile_sublist _).subset hr, List.nil_append, List.append_nil]
      · simp [PointCatalog.setEntries]

/-- A local point that belongs to no slot. -/
def plainDefinition : PointDefinition :=
  { zeroDefinition with id := ⟨ascii "d", ascii "f", ascii "p"⟩ }

/-- A variable of the slot 0 whose scale is not a number. -/
def nanVariable : PointDefinition :=
  { zeroDefinition with
    id := ⟨ascii "d", ascii "plc.slot0", ascii "v"⟩
    scale := 0x7FC00000 }

def nanMemory : CatalogMemory :=
  (CatalogMemory.start.replaceSlotVariableDefinitions 0 (some [nanVariable])).2.2

/-- A definition that is no variable of the slot does not become one; and a variable whose scale is
not a number is not even equal to itself, so that giving the same list again replaces its state. -/
theorem replaced_not_exactly :
    ((CatalogMemory.start.replaceSlotVariableDefinitions 0 (some [plainDefinition])).1 = true ∧
      ((CatalogMemory.start.replaceSlotVariableDefinitions 0
        (some [plainDefinition])).2.2.storage.slotVariables 0).map (·.definition) ≠
          [plainDefinition]) ∧
    (nanMemory.storage.slotVariables 0).map (·.definition) = [nanVariable] ∧
      (nanMemory.replaceSlotVariableDefinitions 0 (some [nanVariable])).2.1 = true :=
  ⟨⟨by decide +kernel, by decide +kernel⟩, by decide +kernel, by decide +kernel⟩

end NodeNet.Catalog

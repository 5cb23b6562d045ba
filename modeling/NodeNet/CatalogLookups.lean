import NodeNet.CatalogIndex

/-! Lookups over every history: when a loaded text or new slot variables keep them sound. -/
namespace NodeNet.Catalog
open NodeNet.Points NodeNet.Json NodeNet.Machine NodeNet.Publisher NodeNet.Bytes

section
variable {library : Library} {item : Value} {items : List Value} {d : PointDefinition}

theorem storedDefinitions_transient (hread : deserializePersistedEntry library item = some d)
    (htransient : isTransientSlotVariable d.id = true) :
    storedDefinitions library (item :: items) = storedDefinitions library items := by
  simp [storedDefinitions, hread, htransient]

theorem storedDefinitions_stored (hread : deserializePersistedEntry library item = some d)
    (htransient : isTransientSlotVariable d.id = false) :
    storedDefinitions library (item :: items) = d :: storedDefinitions library items := by
  simp [storedDefinitions, hread, htransient]

theorem not_whole_of_full (room : Nat) (hroom : room = 0) :
    ¬ Whole library room (item :: items) := by
  intro h
  have hfirst := h.2 0 (Nat.zero_lt_succ _)
  rw [hroom] at hfirst
  exact Nat.not_lt_zero _ hfirst

theorem not_whole_of_unread (room : Nat) (hread : deserializePersistedEntry library item = none) :
    ¬ Whole library room (item :: items) := by
  intro h
  have hitem := h.1 item List.mem_cons_self
  simp [readable, hread] at hitem

theorem whole_transient {room : Nat} (hroom : 0 < room)
    (hread : deserializePersistedEntry library item = some d)
    (htransient : isTransientSlotVariable d.id = true) :
    Whole library room (item :: items) ↔ Whole library room items := by
  have hreadable : readable library item = true := by simp [readable, hread]
  constructor
  · rintro ⟨hall, hfew⟩
    refine ⟨fun i hi => hall i (List.mem_cons_of_mem _ hi), fun k hk => ?_⟩
    have hnext := hfew (k + 1) (Nat.succ_lt_succ hk)
    rwa [List.take_succ_cons, storedDefinitions_transient hread htransient] at hnext
  · rintro ⟨hall, hfew⟩
    refine ⟨fun i hi => ?_, fun k hk => ?_⟩
    · cases hi with
      | head => exact hreadable
      | tail _ hi => exact hall i hi
    · cases k with
      | zero => exact hroom
      | succ k =>
        rw [List.take_succ_cons, storedDefinitions_transient hread htransient]
        exact hfew k (Nat.lt_of_succ_lt_succ hk)

theorem whole_stored {room : Nat} (hread : deserializePersistedEntry library item = some d)
    (htransient : isTransientSlotVariable d.id = false) :
    Whole library (room + 1) (item :: items) ↔ Whole library room items := by
  have hreadable : readable library item = true := by simp [readable, hread]
  constructor
  · rintro ⟨hall, hfew⟩
    refine ⟨fun i hi => hall i (List.mem_cons_of_mem _ hi), fun k hk => ?_⟩
    have hnext := hfew (k + 1) (Nat.succ_lt_succ hk)
    rw [List.take_succ_cons, storedDefinitions_stored hread htransient, List.length_cons] at hnext
    exact Nat.lt_of_succ_lt_succ hnext
  · rintro ⟨hall, hfew⟩
    refine ⟨fun i hi => ?_, fun k hk => ?_⟩
    · cases hi with
      | head => exact hreadable
      | tail _ hi => exact hall i hi
    · cases k with
      | zero => exact Nat.zero_lt_succ _
      | succ k =>
        rw [List.take_succ_cons, storedDefinitions_stored hread htransient, List.length_cons]
        exact Nat.succ_lt_succ (hfew k (Nat.lt_of_succ_lt_succ hk))

end

section
variable (library : Library) (items : List Value)

theorem loadEntries_prefix (entries : List Entry) :
    entries <+: (loadEntries library items entries).2 := by
  induction items generalizing entries with
  | nil => exact List.prefix_refl _
  | cons item items ih =>
    unfold loadEntries
    by_cases hfull : kMaxPoints ≤ entries.length
    · simp [hfull]
    · rw [if_neg hfull]
      cases deserializePersistedEntry library item with
      | none => exact List.prefix_refl _
      | some d =>
        cases htransient : isTransientSlotVariable d.id with
        | true => simpa [htransient] using ih entries
        | false =>
          have hnext := (List.prefix_append entries [freshEntry d]).trans (ih _)
          simpa [htransient] using hnext

theorem loadEntries_true (entries : List Entry) : (loadEntries library items entries).1 = true ↔
    Whole library (kMaxPoints - entries.length) items := by
  induction items generalizing entries with
  | nil => simp [loadEntries, Whole]
  | cons item items ih =>
    unfold loadEntries
    by_cases hfull : kMaxPoints ≤ entries.length
    · rw [if_pos hfull]
      have hnot : ¬ Whole library (kMaxPoints - entries.length) (item :: items) :=
        not_whole_of_full _ (by omega)
      simp [hnot]
    · rw [if_neg hfull]
      cases hread : deserializePersistedEntry library item with
      | none =>
        have hnot : ¬ Whole library (kMaxPoints - entries.length) (item :: items) :=
          not_whole_of_unread _ hread
        simp [hnot]
      | some d =>
        cases htransient : isTransientSlotVariable d.id with
        | true => simpa [htransient] using
            (ih entries).trans (whole_transient (by omega) hread htransient).symm
        | false =>
          have hroom : kMaxPoints - entries.length =
              kMaxPoints - (entries ++ [freshEntry d]).length + 1 := by
            rw [List.length_append, List.length_singleton]
            omega
          rw [hroom]
          simpa [htransient] using
            (ih (entries ++ [freshEntry d])).trans (whole_stored hread htransient).symm

theorem loadEntries_whole (entries : List Entry)
    (h : Whole library (kMaxPoints - entries.length) items) :
    (loadEntries library items entries).2 =
      entries ++ (storedDefinitions library items).map freshEntry := by
  induction items generalizing entries with
  | nil => simp [loadEntries, storedDefinitions]
  | cons item items ih =>
    have hfull : ¬ kMaxPoints ≤ entries.length := fun hfull =>
      not_whole_of_full _ (by omega) h
    cases hread : deserializePersistedEntry library item with
    | none => exact absurd h (not_whole_of_unread _ hread)
    | some d =>
      cases htransient : isTransientSlotVariable d.id with
      | true =>
        rw [whole_transient (by omega) hread htransient] at h
        rw [storedDefinitions_transient hread htransient]
        simpa [loadEntries, hfull, hread, htransient] using ih entries h
      | false =>
        have hroom : kMaxPoints - entries.length =
            kMaxPoints - (entries ++ [freshEntry d]).length + 1 := by
          rw [List.length_append, List.length_singleton]
          omega
        rw [hroom, whole_stored hread htransient] at h
        rw [storedDefinitions_stored hread htransient]
        simpa [loadEntries, hfull, hread, htransient] using ih _ h

theorem loadEntries_nil : (loadEntries library items []).2 = [] ↔
    storedDefinitions library (items.takeWhile (readable library)) = [] := by
  induction items with
  | nil => simp [loadEntries, storedDefinitions]
  | cons item items ih =>
    have hroom : kMaxPoints ≠ 0 := by decide
    cases hread : deserializePersistedEntry library item with
    | none => simp [loadEntries, hread, readable, storedDefinitions]
    | some d =>
      have hreadable : readable library item = true := by simp [readable, hread]
      rw [List.takeWhile_cons, if_pos hreadable]
      cases htransient : isTransientSlotVariable d.id with
      | true =>
        rw [storedDefinitions_transient hread htransient]
        simpa [loadEntries, hroom, hread, htransient] using ih
      | false =>
        rw [storedDefinitions_stored hread htransient]
        have hprefix := loadEntries_prefix library items [freshEntry d]
        have hsome : (loadEntries library items [freshEntry d]).2 ≠ [] := by
          intro hnil
          rw [hnil] at hprefix
          simpa using hprefix.length_le
        simpa [loadEntries, hroom, hread, htransient] using hsome

end

theorem loadFromJson_catalog (library : Library) (s : BrowsedCatalog) (json : Option Text) :
    (textPoints library json = none → (s.loadFromJson library json).2.catalog = s.catalog ∨
      (s.loadFromJson library json).2.catalog = s.catalog.cleared) ∧
    ∀ items, textPoints library json = some items →
      (s.loadFromJson library json).2.catalog = { s.catalog.cleared with
        entries := (loadEntries library items []).2
        indexSlots := if (loadEntries library items []).1 then
            rebuildIndex (loadEntries library items []).2
          else fun _ => none } := by
  cases json with
  | none => exact ⟨fun _ => .inr rfl, fun items h => absurd h.symm (Option.some_ne_none items)⟩
  | some json =>
    cases json with
    | nil => exact ⟨fun _ => .inr rfl, fun items h => absurd h.symm (Option.some_ne_none items)⟩
    | cons b json =>
      simp only [textPoints, BrowsedCatalog.loadFromJson]
      cases library.deserialize (b :: json) with
      | none => simp
      | some doc =>
        rw [Option.bind_some]
        cases hpoints : storedPoints doc with
        | none => simp [hpoints, BrowsedCatalog.clear]
        | some items =>
          refine ⟨fun h => absurd h (Option.some_ne_none items), fun items' h => ?_⟩
          cases h
          cases hload : loadEntries library items [] with
          | mk read entries =>
            cases read with
            | true => simp [hpoints, hload, BrowsedCatalog.clear]
            | false => simp [hpoints, hload, BrowsedCatalog.clear, PointCatalog.cleared,
                PointCatalog.empty]

theorem loadEntries_length (library : Library) (items : List Value) (entries : List Entry)
    (h : entries.length ≤ kMaxPoints) : (loadEntries library items entries).2.length ≤ kMaxPoints := by
  induction items generalizing entries with
  | nil => exact h
  | cons item items ih =>
    unfold loadEntries
    by_cases hfull : kMaxPoints ≤ entries.length
    · rw [if_pos hfull]
      exact h
    · rw [if_neg hfull]
      cases deserializePersistedEntry library item with
      | none => exact h
      | some d =>
        cases htransient : isTransientSlotVariable d.id with
        | true => simpa [htransient] using ih entries h
        | false =>
          have hnext := ih (entries ++ [freshEntry d]) (by
            rw [List.length_append, List.length_singleton]
            omega)
          simpa [htransient] using hnext

theorem identities_fresh (definitions : List PointDefinition) :
    identities (definitions.map freshEntry) = definitions.map (·.id) := by
  simp [identities, freshEntry, Function.comp_def]

theorem entries_nil_of_unindexed {c : PointCatalog} (h : Consistent c)
    (hslots : c.indexSlots = fun _ => none) : c.entries = [] := by
  cases hentries : c.entries with
  | nil => rfl
  | cons e entries =>
    have hfound := (h.found 0 e (by rw [hentries]; rfl)).1
    have hnone : lookupFrom c.entries (fun _ => none) e.definition.id kIndexCapacity
        (firstSlot e.definition.id) = none := rfl
    rw [PointCatalog.findIndex, PointCatalog.lookupIndex, hslots, hnone, ite_self] at hfound
    cases hfound

variable {library : Library}

theorem load_step {s : BrowsedCatalog} (h : Indexed s.catalog) (json : Option Text) :
    (Consistent (s.loadFromJson library json).2.catalog →
      KeepsUnique library s (.loadFromJson json)) ∧
    (KeepsUnique library s (.loadFromJson json) →
      Indexed (s.loadFromJson library json).2.catalog) := by
  obtain ⟨hnone, hsome⟩ := loadFromJson_catalog library s json
  cases hitems : textPoints library json with
  | none =>
    refine ⟨fun _ items hother => ?_, fun _ => ?_⟩
    · exact absurd (hitems.symm.trans hother) (Option.some_ne_none items).symm
    · rcases hnone hitems with hsame | hcleared
      · rw [hsame]
        exact h
      · rw [hcleared]
        exact indexed_cleared _
  | some items =>
    rw [hsome items hitems]
    have htrue := loadEntries_true library items []
    have hlength := loadEntries_length library items [] (Nat.zero_le _)
    by_cases hwhole : Whole library kMaxPoints items
    · have hentries := loadEntries_whole library items [] hwhole
      rw [List.nil_append] at hentries
      rw [htrue.mpr hwhole, if_pos rfl]
      refine ⟨fun hconsistent items' hother => ?_, fun hkeeps => ?_⟩
      · cases hitems.symm.trans hother
        refine ⟨fun _ => ?_, fun hnot => absurd hwhole hnot⟩
        have hdistinct := hconsistent.distinct
        rwa [hentries, identities_fresh] at hdistinct
      · refine indexed_of_rebuilt ?_ hlength rfl
        rw [hentries, identities_fresh]
        exact (hkeeps items hitems).1 hwhole
    · have hfalse : (loadEntries library items []).1 = false :=
        Bool.eq_false_iff.mpr fun ht => hwhole (htrue.mp ht)
      rw [hfalse, if_neg Bool.false_ne_true]
      refine ⟨fun hconsistent items' hother => ?_, fun hkeeps => ?_⟩
      · cases hitems.symm.trans hother
        refine ⟨fun hall => absurd hall hwhole, fun _ => ?_⟩
        exact (loadEntries_nil library items).mp (entries_nil_of_unindexed hconsistent rfl)
      · have hnil := (loadEntries_nil library items).mpr ((hkeeps items hitems).2 hwhole)
        rw [hnil]
        exact ⟨List.nodup_nil, Nat.zero_le _, indexHolds_empty []⟩

theorem replace_step {s : BrowsedCatalog} (h : Indexed s.catalog) (slotId : UInt16)
    (definitions : List PointDefinition) :
    (Consistent (s.replaceSlotVariableDefinitions slotId definitions).2.catalog →
      KeepsUnique library s (.replaceSlotVariableDefinitions slotId definitions)) ∧
    (KeepsUnique library s (.replaceSlotVariableDefinitions slotId definitions) →
      Indexed (s.replaceSlotVariableDefinitions slotId definitions).2.catalog) := by
  unfold BrowsedCatalog.replaceSlotVariableDefinitions PointCatalog.replaceSlotVariableDefinitions
  by_cases hmany : kMaxPoints < definitions.length
  · rw [if_pos hmany]
    exact ⟨fun _ hfew => absurd hmany (Nat.not_lt.mpr hfew), fun _ => h⟩
  · rw [if_neg hmany]
    dsimp only
    by_cases hfull : kMaxPoints <
        s.catalog.size - (slotVariables slotId s.catalog).length + definitions.length
    · rw [if_pos hfull]
      exact ⟨fun _ _ hfits => absurd hfull (Nat.not_lt.mpr hfits), fun _ => h⟩
    · rw [if_neg hfull]
      by_cases hsame :
          sameDefinitions ((slotVariables slotId s.catalog).map (·.definition)) definitions = true
      · rw [if_pos hsame]
        have hids := ids_of_sameDefinitions hsame
        rw [List.map_map] at hids
        refine ⟨fun _ _ _ => ⟨?_, fun e he hother hmem => ?_⟩, fun _ => h⟩
        · rw [← hids]
          exact h.distinct.sublist (List.filter_sublist.map _)
        · rw [← hids] at hmem
          obtain ⟨e', he', hid⟩ := List.mem_map.mp hmem
          obtain ⟨he', hvariable⟩ := List.mem_filter.mp he'
          rw [eq_of_identity h.distinct he' he hid, hother] at hvariable
          cases hvariable
      · rw [if_neg hsame]
        simp only [if_true, reindexed_catalog]
        have hdistinct := replacedEntries_distinct slotId definitions h.distinct
        refine ⟨fun hconsistent _ _ => hdistinct.mp hconsistent.distinct, fun hkeeps => ?_⟩
        refine indexed_setEntries (hdistinct.mpr
          (hkeeps (Nat.not_lt.mp hmany) (Nat.not_lt.mp hfull))) ?_
        have hlength := length_replacedEntries slotId definitions s.catalog.entries
        simp only [slotVariables, PointCatalog.size] at hfull
        omega

theorem operate_step {s : BrowsedCatalog} (h : Indexed s.catalog) (operation : CatalogOperation) :
    (Consistent (operate library s operation).catalog → KeepsUnique library s operation) ∧
    (KeepsUnique library s operation → Indexed (operate library s operation).catalog) := by
  cases operation with
  | upsert definition => exact ⟨fun _ => trivial, fun _ => h.upsert definition⟩
  | remove id => exact ⟨fun _ => trivial, fun _ => h.remove id⟩
  | clear => exact ⟨fun _ => trivial, fun _ => indexed_cleared _⟩
  | replaceSlotVariableDefinitions slotId definitions => exact replace_step h slotId definitions
  | loadFromJson json => exact load_step h json
  | beginBatchUpdate => exact ⟨fun _ => trivial, fun _ => h⟩
  | endBatchUpdate =>
    refine ⟨fun _ => trivial, fun _ => ?_⟩
    rw [operate, endBatchUpdate_catalog]
    exact h

/-- Over every history the identities stay distinct and the lookups sound exactly as long as
every operation meets the condition. -/
theorem lookups_sound_iff (library : Library) (operations : List CatalogOperation) :
    Along (operate library)
        (fun s operation => Consistent (operate library s operation).catalog) .empty operations ↔
      Along (operate library) (KeepsUnique library) .empty operations := by
  refine along_iff_of_inv (fun s => Indexed s.catalog) (fun s operation h => ?_)
    (fun s operation h => ?_) indexed_empty
  · exact (operate_step h operation).2
  · obtain ⟨hkeeps, hindexed⟩ := @operate_step library s h operation
    exact ⟨hkeeps, fun hcond => (hindexed hcond).consistent⟩

/-- A list of a point and of an entry that cannot be read. -/
def brokenListText : Text := ascii "[[\"io\",\"di\",\"x\",\"\",0,0,0,1000,3000,0],[]]"

def brokenListLibrary : Library where
  deserialize json :=
    if json = brokenListText then
      some (.array [.array [.text (ascii "io"), .text (ascii "di"), .text (ascii "x"), .text [],
        .integer 0, .integer 0, .integer 0, .integer 1000, .integer 3000, .integer 0], .array []])
    else none
  serialize _ := brokenListText
  ofInteger _ := 0

/-- The load fails at the second entry and leaves the first one where no lookup finds it. -/
theorem brokenList_lost :
    ¬ Along (operate brokenListLibrary)
      (fun s operation => Consistent (operate brokenListLibrary s operation).catalog) .empty
      [.loadFromJson (some brokenListText)] := by
  intro h
  have hnil := entries_nil_of_unindexed h.1 rfl
  have hone : (operate brokenListLibrary .empty
      (.loadFromJson (some brokenListText))).catalog.entries.length = 1 := by decide
  rw [hnil] at hone
  cases hone

end NodeNet.Catalog

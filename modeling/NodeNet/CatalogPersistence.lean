import NodeNet.CatalogRoundTrip

/-! Every catalog that the operations reach is restored from its saved text. -/
namespace NodeNet.Catalog
open NodeNet.Points NodeNet.Publisher NodeNet.Json NodeNet.Machine

theorem isString_copy {size : Nat} (hsize : 0 < size) (v : Value) :
    IsString size (copyString size (v.orText [])) where
  terminated := by
    rw [copyString, List.length_take]
    omega
  noZero hzero := by
    have hmem := List.mem_of_mem_take hzero
    cases v with
    | text t =>
      have hne := List.all_takeWhile (p := fun b : UInt8 => b ≠ 0) (l := t)
      rw [List.all_eq_true] at hne
      have h0 := hne 0 hmem
      simp at h0
    | _ => cases hmem

variable {library : Library}

/-- Whatever is read from a text fits into its fields. -/
theorem deserialized_fits {item : Value} {d : PointDefinition}
    (h : deserializePersistedEntry library item = some d) : FieldsFit d := by
  unfold deserializePersistedEntry at h
  cases hitems : item.items with
  | some entry =>
    rw [hitems] at h
    unfold deserializePersistedDefinition at h
    dsimp only at h
    split at h
    · cases h
    · obtain ⟨ref, href, rfl⟩ := Option.map_eq_some_iff.mp h
      refine ⟨isString_copy (by decide) _, isString_copy (by decide) _,
        isString_copy (by decide) _, isString_copy (by decide) _, ?_, fun hbackend => ?_⟩
      · dsimp only
        split
        · exact isString_copy (by decide) _
        · exact ⟨by decide, by simp⟩
      · dsimp only at hbackend
        rw [hbackend] at href
        unfold deserializeBackend at href
        dsimp only at href
        split at href
        · cases href
        · have hbytes := Option.some.inj href
          rw [nodeNetRef_bytes (isString_copy (by decide) _) (isString_copy (by decide) _)
            (isString_copy (by decide) _) hbytes.symm]
          exact ⟨isString_copy (by decide) _, isString_copy (by decide) _,
            isString_copy (by decide) _⟩
  | none =>
    rw [hitems] at h
    obtain ⟨obj, -, rfl⟩ := Option.map_eq_some_iff.mp h
    refine ⟨isString_copy (by decide) _, isString_copy (by decide) _, isString_copy (by decide) _,
      isString_copy (by decide) _, isString_copy (by decide) _, fun hbackend => ?_⟩
    have hbytes : (deserializeDefinition library obj).ref = nodeNetRefBytes
        ((member obj (ascii "remoteDeviceId")).orText [])
        ((member obj (ascii "remoteFeature")).orText [])
        ((member obj (ascii "remotePointId")).orText []) := by
      have hbackend' : PointBackend.ofByte ((member obj (ascii "backend")).orUInt32 0).toUInt8 =
          .NodeNet := hbackend
      simp [deserializeDefinition, hbackend', deserializeBackendRef]
    rw [nodeNetRef_bytes (isString_copy (by decide) _) (isString_copy (by decide) _)
      (isString_copy (by decide) _) hbytes]
    exact ⟨isString_copy (by decide) _, isString_copy (by decide) _, isString_copy (by decide) _⟩

theorem loadEntries_fits {items : List Value} {entries : List Entry}
    (h : ∀ e ∈ entries, FieldsFit e.definition) :
    ∀ e ∈ (loadEntries library items entries).2, FieldsFit e.definition := by
  induction items generalizing entries with
  | nil => exact h
  | cons item items ih =>
    unfold loadEntries
    by_cases hfull : kMaxPoints ≤ entries.length
    · rw [if_pos hfull]
      exact h
    · rw [if_neg hfull]
      cases hread : deserializePersistedEntry library item with
      | none => exact h
      | some d =>
        cases htransient : isTransientSlotVariable d.id with
        | true => simpa [htransient] using ih h
        | false =>
          have hnext : ∀ e ∈ entries ++ [freshEntry d], FieldsFit e.definition := by
            intro e he
            rcases List.mem_append.mp he with he | he
            · exact h e he
            · rw [List.mem_singleton.mp he]
              exact deserialized_fits hread
          simpa [htransient] using ih hnext

def CatalogEdit.definitions : CatalogEdit → List PointDefinition
  | .upsert definition => [definition]
  | .replaceSlotVariables _ definitions => definitions
  | .remove _ | .clear => []

theorem mem_modify_definition {entries : List Entry} {i : Nat} {definition : PointDefinition}
    {e : Entry} (h : e ∈ entries.modify i fun e => { e with definition := definition }) :
    e.definition = definition ∨ e ∈ entries := by
  induction entries generalizing i with
  | nil => cases i <;> cases h
  | cons e' entries ih =>
    cases i with
    | zero =>
      rw [List.modify_zero_cons] at h
      rcases List.mem_cons.mp h with rfl | h
      · exact .inl rfl
      · exact .inr (List.mem_cons_of_mem _ h)
    | succ i =>
      rw [List.modify_succ_cons] at h
      rcases List.mem_cons.mp h with rfl | h
      · exact .inr List.mem_cons_self
      · exact (ih h).imp_right (List.mem_cons_of_mem _)

/-- An edit leaves only definitions that were there or that it brings. -/
theorem mem_edited_definition {c : PointCatalog} {edit : CatalogEdit} {e : Entry}
    (h : e ∈ (c.edited edit).entries) : e.definition ∈ edit.definitions ∨ e ∈ c.entries := by
  cases edit with
  | upsert definition =>
    rw [PointCatalog.edited, PointCatalog.upsert] at h
    cases hfind : c.findIndex definition.id with
    | some i =>
      rw [hfind] at h
      exact (mem_modify_definition h).imp_left List.mem_singleton.mpr
    | none =>
      rw [hfind] at h
      dsimp only at h
      split at h
      · exact .inr h
      · rcases List.mem_append.mp h with h | h
        · exact .inr h
        · rw [List.mem_singleton.mp h]
          exact .inl (List.mem_singleton.mpr rfl)
  | remove id =>
    rw [PointCatalog.edited, PointCatalog.remove] at h
    cases hfind : c.findIndex id with
    | none =>
      rw [hfind] at h
      exact .inr h
    | some i =>
      rw [hfind] at h
      exact .inr (List.mem_of_mem_eraseIdx h)
  | replaceSlotVariables slotId definitions =>
    rw [PointCatalog.edited, PointCatalog.replaceSlotVariableDefinitions] at h
    dsimp only at h
    split at h
    · exact .inr h
    · split at h
      · exact .inr h
      · split at h
        · exact .inr h
        · have hmem : e ∈ replacedEntries slotId definitions c.entries := h
          rw [replacedEntries] at hmem
          rcases List.mem_append.mp hmem with hmem | hmem
          · rcases List.mem_append.mp hmem with hmem | hmem
            · exact .inr (List.mem_filter.mp ((List.takeWhile_sublist _).mem hmem)).1
            · obtain ⟨d, hd, rfl⟩ := List.mem_map.mp hmem
              exact .inl hd
          · exact .inr (List.mem_filter.mp ((List.dropWhile_sublist _).mem hmem)).1
  | clear => cases h

theorem CatalogFits.edited {c : PointCatalog} (h : CatalogFits c) {edit : CatalogEdit}
    (hfits : ∀ d ∈ edit.definitions, FieldsFit d) : CatalogFits (c.edited edit) where
  size := edited_size h.size edit
  fields d hd := by
    obtain ⟨e, he, rfl⟩ := List.mem_map.mp hd
    rcases mem_edited_definition he with hnew | hold
    · exact hfits _ hnew
    · exact h.fields _ (List.mem_map.mpr ⟨e, hold, rfl⟩)

/-- The definitions that the caller hands over have their types. -/
def OperationFits : CatalogOperation → Prop
  | .upsert definition => FieldsFit definition
  | .replaceSlotVariableDefinitions _ definitions => ∀ d ∈ definitions, FieldsFit d
  | _ => True

theorem upsert_edited (s : BrowsedCatalog) (definition : PointDefinition) :
    (s.upsert definition).2.catalog = s.catalog.edited (.upsert definition) := by
  unfold BrowsedCatalog.upsert PointCatalog.edited
  dsimp only
  cases s.catalog.upsert definition with
  | none => rfl
  | some c => exact reindexed_catalog s c

theorem remove_edited (s : BrowsedCatalog) (id : PointIdentity) :
    (s.remove id).2.catalog = s.catalog.edited (.remove id) := by
  unfold BrowsedCatalog.remove PointCatalog.edited
  dsimp only
  cases s.catalog.remove id with
  | none => rfl
  | some c => exact reindexed_catalog s c

theorem replace_edited (s : BrowsedCatalog) (slotId : UInt16) (definitions : List PointDefinition) :
    (s.replaceSlotVariableDefinitions slotId definitions).2.catalog =
      s.catalog.edited (.replaceSlotVariables slotId definitions) := by
  unfold BrowsedCatalog.replaceSlotVariableDefinitions PointCatalog.edited
    PointCatalog.replaceSlotVariableDefinitions
  dsimp only
  by_cases hmany : kMaxPoints < definitions.length
  · simp [hmany]
  · by_cases hfull : kMaxPoints <
        s.catalog.size - (slotVariables slotId s.catalog).length + definitions.length
    · simp [hmany, hfull]
    · by_cases hsame :
          sameDefinitions ((slotVariables slotId s.catalog).map (·.definition)) definitions = true
      · simp [hmany, hfull, hsame]
      · simp [hmany, hfull, hsame]

theorem CatalogFits.loaded {s : BrowsedCatalog} (h : CatalogFits s.catalog)
    (json : Option Text) : CatalogFits (s.loadFromJson library json).2.catalog := by
  obtain ⟨hnone, hsome⟩ := loadFromJson_catalog library s json
  have hcleared : CatalogFits s.catalog.cleared := ⟨Nat.zero_le _, fun d hd => by cases hd⟩
  cases hitems : textPoints library json with
  | none =>
    rcases hnone hitems with hsame | hclear
    · rw [hsame]
      exact h
    · rw [hclear]
      exact hcleared
  | some items =>
    rw [hsome items hitems]
    refine ⟨loadEntries_length library items [] (Nat.zero_le _), fun d hd => ?_⟩
    obtain ⟨e, he, rfl⟩ := List.mem_map.mp hd
    exact loadEntries_fits (fun e he => by cases he) e he

theorem CatalogFits.operated {s : BrowsedCatalog} (h : CatalogFits s.catalog)
    {operation : CatalogOperation} (hfits : OperationFits operation) :
    CatalogFits (operate library s operation).catalog := by
  cases operation with
  | upsert definition =>
    rw [operate, upsert_edited]
    exact h.edited fun d hd => List.mem_singleton.mp hd ▸ hfits
  | remove id =>
    rw [operate, remove_edited]
    exact h.edited fun d hd => by cases hd
  | clear => exact ⟨Nat.zero_le _, fun d hd => by cases hd⟩
  | replaceSlotVariableDefinitions slotId definitions =>
    rw [operate, replace_edited]
    exact h.edited hfits
  | loadFromJson json => exact h.loaded json
  | beginBatchUpdate => exact h
  | endBatchUpdate =>
    rw [operate, endBatchUpdate_catalog]
    exact h

theorem CatalogFits.run {operations : List CatalogOperation} {s : BrowsedCatalog}
    (h : CatalogFits s.catalog) (hfits : ∀ operation ∈ operations, OperationFits operation) :
    CatalogFits (Machine.run (operate library) s operations).catalog := by
  induction operations generalizing s with
  | nil => exact h
  | cons operation operations ih =>
    exact ih (h.operated (hfits operation List.mem_cons_self))
      fun later hlater => hfits later (List.mem_cons_of_mem _ hlater)

/-- A reachable catalog that has been saved is loaded definition by definition, but for the
enumerations, which the format does not store. Of its text the library may give back a scale
without a fraction as an integer. -/
theorem saved_catalog_restored (library : Library) {number : UInt32 → Value}
    (hnumber : library.ReadsBack number) (operations : List CatalogOperation)
    (hfits : ∀ operation ∈ operations, OperationFits operation) (s : BrowsedCatalog)
    {outSize : Nat} {json : Text} :
    let c := (run (operate library) .empty operations).catalog
    c.saveToJson library outSize = some json →
    library.deserialize json = some (readBackDocument number c) →
      let load := s.loadFromJson library (some json)
      load.1 = true ∧ load.2.catalog.definitions.length = (persistedDefinitions c).length ∧
        ∀ (k : Nat) saved, (persistedDefinitions c)[k]? = some saved →
          ∃ loaded, load.2.catalog.definitions[k]? = some loaded ∧ Restores saved loaded := by
  intro c hsave hdoc load
  have hfits' : CatalogFits c :=
    CatalogFits.run ⟨Nat.zero_le _, fun d hd => by cases hd⟩ hfits
  have hjson : json ≠ [] := by
    rintro rfl
    unfold PointCatalog.saveToJson at hsave
    dsimp only at hsave
    split at hsave
    · cases hsave
    · split at hsave
      · cases hsave
      · next hsized =>
        rw [Option.some.inj hsave] at hsized
        exact hsized (.inl rfl)
  obtain ⟨htrue, hdefinitions⟩ := load_saved hnumber hfits' s hjson hdoc
  refine ⟨htrue, by rw [hdefinitions, List.length_map], fun k saved hsaved => ?_⟩
  refine ⟨restored saved, by rw [hdefinitions, List.getElem?_map, hsaved]; rfl, rfl, ?_⟩
  have hmem := (List.mem_filter.mp (List.mem_of_getElem? hsaved)).1
  exact restored_sameReference (hfits'.fields saved hmem)

def enumPoint : PointDefinition :=
  { onePoint with
    valueType := .Enum
    enumDef := 0x40001000 }

def enumHistory : List CatalogOperation := [.upsert enumPoint]

def enumCatalogText : Text :=
  ascii "\x7b\"points\":[[\"io\",\"di\",\"x\",\"\",0,0,6,1000,3000,0,1,\"\"]]\x7d"

/-- The scale 1 is written without a fraction. -/
def oneAsInteger (bits : UInt32) : Value := if bits = 0x3F800000 then .integer 1 else .float bits

/-- A library that knows the text of this catalog. -/
def enumLibrary : Library where
  deserialize json :=
    if json = enumCatalogText then
      some (.object [(ascii "points", .array [.array (readBackDefinition oneAsInteger enumPoint)])])
    else none
  serialize _ := enumCatalogText
  ofInteger n := if n = 1 then 0x3F800000 else 0

theorem enumLibrary_readsBack : enumLibrary.ReadsBack oneAsInteger := by
  intro bits
  by_cases hone : bits = 0x3F800000
  · subst hone
    exact .inr ⟨1, rfl, rfl⟩
  · exact .inl (if_neg hone)

theorem enumPoint_fits : FieldsFit enumPoint where
  deviceId := ⟨by decide, by decide⟩
  feature := ⟨by decide, by decide⟩
  pointId := ⟨by decide, by decide⟩
  displayName := ⟨by decide, by decide⟩
  unit := ⟨by decide, by decide⟩
  remote hbackend := by cases hbackend

theorem enumCatalog_restored :
    let c := (run (operate enumLibrary) .empty enumHistory).catalog
    c.saveToJson enumLibrary 8192 = some enumCatalogText ∧
      (BrowsedCatalog.empty.loadFromJson enumLibrary (some enumCatalogText)).1 = true := by
  intro c
  have hsave : c.saveToJson enumLibrary 8192 = some enumCatalogText := by decide
  have hdefinitions : persistedDefinitions c = [enumPoint] := by decide
  have hdoc : enumLibrary.deserialize enumCatalogText =
      some (readBackDocument oneAsInteger c) := by
    rw [readBackDocument, hdefinitions]
    rfl
  have hfits : ∀ operation ∈ enumHistory, OperationFits operation := by
    intro operation hmem
    rw [List.mem_singleton.mp hmem]
    exact enumPoint_fits
  exact ⟨hsave, (saved_catalog_restored enumLibrary enumLibrary_readsBack enumHistory hfits .empty
    hsave hdoc).1⟩

/-- The enumeration is lost. -/
theorem enumCatalog_changed :
    let c := (run (operate enumLibrary) .empty enumHistory).catalog
    c.saveToJson enumLibrary 8192 = some enumCatalogText ∧
      enumLibrary.deserialize enumCatalogText = some (readBackDocument oneAsInteger c) ∧
      (BrowsedCatalog.empty.loadFromJson enumLibrary
        (some enumCatalogText)).2.catalog.definitions ≠ persistedDefinitions c := by
  intro c
  have hdefinitions : persistedDefinitions c = [enumPoint] := by decide
  refine ⟨by decide, ?_, by decide⟩
  rw [readBackDocument, hdefinitions]
  rfl

end NodeNet.Catalog

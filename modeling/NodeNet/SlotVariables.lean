import NodeNet.LoadSpec

/-! What reconciling an object's variables does to the slot's variables in the catalog. -/
namespace NodeNet.Loader
open NodeNet.Bytes NodeNet.Checks NodeNet.Points NodeNet.Catalog NodeNet.Publisher
open NodeNet.ObjectFile NodeNet.Bytecode NodeNet.Linker NodeNet.Flash NodeNet.Slot

/-- How the catalog reads a loader's slot feature. -/
structure ReadsAsSlot (slotId : UInt16) (feature : Text) : Prop where
  parsed : parseSlotFeatureSuffix feature = some slotId
  not_plc : feature ≠ ascii "plc"
  isPrefix : slotPrefix.isPrefixOf feature = true
  digits_ne : feature.drop 8 ≠ []
  digits : (feature.drop 8).all isAsciiDigit = true

variable {slotId : UInt16}

theorem slotFeature_reads (h : slotId < kPlcSlotCountV1) :
    ReadsAsSlot slotId (slotFeature slotId) := by
  have hall : ∀ n < 16, parseSlotFeatureSuffix (slotFeature (UInt16.ofNat n)) =
        some (UInt16.ofNat n) ∧ slotFeature (UInt16.ofNat n) ≠ ascii "plc" ∧
      slotPrefix.isPrefixOf (slotFeature (UInt16.ofNat n)) = true ∧
      (slotFeature (UInt16.ofNat n)).drop 8 ≠ [] ∧
      ((slotFeature (UInt16.ofNat n)).drop 8).all isAsciiDigit = true := by decide +kernel
  obtain ⟨h1, h2, h3, h4, h5⟩ := hall slotId.toNat (UInt16.lt_iff_toNat_lt.mp h)
  rw [UInt16.ofNat_toNat] at h1 h2 h3 h4 h5
  exact ⟨h1, h2, h3, h4, h5⟩

theorem take_not_reserved {name : Text} (h : name ∉ kReservedPointIds) :
    name.take 31 ∉ kReservedPointIds := by
  intro hr
  have hshort : ∀ r ∈ kReservedPointIds, r.length < 31 := by decide
  have hlen := hshort _ hr
  rw [List.length_take] at hlen
  rw [List.take_of_length_le (by omega)] at hr
  exact h hr

theorem isReservedSlotPointId_eq_false {pointId : Text} :
    isReservedSlotPointId pointId = false ↔ pointId ≠ [] ∧ pointId ∉ kReservedPointIds := by
  simp [isReservedSlotPointId]

theorem isSlotVariablePoint_of_named {e : Entry} (hslot : slotId < kPlcSlotCountV1)
    (hlocal : e.definition.backend = .Local)
    (hfeature : e.definition.id.feature = slotFeature slotId)
    (hname : isReservedSlotPointId e.definition.id.pointId = false) :
    Catalog.isSlotVariablePoint slotId e = true := by
  obtain ⟨hne, hres⟩ := isReservedSlotPointId_eq_false.mp hname
  have hr := slotFeature_reads hslot
  have hcmd : ∀ r ∈ ["start", "stop", "reset", "clearFault"].map ascii,
      e.definition.id.pointId ≠ r := by
    intro r hmem he
    have hsub : ∀ r ∈ ["start", "stop", "reset", "clearFault"].map ascii,
        r ∈ kReservedPointIds := by decide
    exact hres (he ▸ hsub r hmem)
  have hkind : classifyPlcPointMeta e.definition = ⟨true, true, slotId, .SlotOther⟩ := by
    simp only [List.map_cons, List.map_nil, List.mem_cons, List.not_mem_nil, or_false,
      forall_eq_or_imp, forall_eq] at hcmd
    obtain ⟨h1, h2, h3, h4⟩ := hcmd
    simp [classifyPlcPointMeta, hlocal, hfeature, hr.not_plc, hr.parsed, h1, h2, h3, h4]
  simp [Catalog.isSlotVariablePoint, hkind, isTransientSlotVariable, hfeature, hr.isPrefix,
    hr.digits_ne, hr.digits, hres, hne]

theorem buildSlotVariableIdentity_named {c : PointCatalog} {name : Text} {id : PointIdentity}
    (h : buildSlotVariableIdentity c slotId name = some id) :
    id.feature = slotFeature slotId ∧ isReservedSlotPointId id.pointId = false := by
  unfold buildSlotVariableIdentity at h
  split at h
  · cases h
  rename_i hchecks
  cases h
  simp only [not_or, Bool.not_eq_true] at hchecks
  obtain ⟨-, -, hres⟩ := hchecks
  obtain ⟨hne, hnot⟩ := isReservedSlotPointId_eq_false.mp hres
  refine ⟨rfl, isReservedSlotPointId_eq_false.mpr ⟨?_, take_not_reserved hnot⟩⟩
  cases name with
  | nil => exact absurd rfl hne
  | cons b bs => simp [slotVariableIdentity]

theorem buildExpected_isSlotVariable {c : PointCatalog} {symbol : PlcObjectSymbolRecordV1}
    {d : PointDefinition} (hslot : slotId < kPlcSlotCountV1)
    (h : buildExpectedSlotVariableDefinition c slotId symbol = some d) :
    Catalog.isSlotVariablePoint slotId (freshEntry d) = true := by
  unfold buildExpectedSlotVariableDefinition at h
  split at h
  · cases h
  rename_i id hid
  obtain ⟨hfeature, hname⟩ := buildSlotVariableIdentity_named hid
  split at h
  · cases h
    exact isSlotVariablePoint_of_named hslot rfl hfeature hname
  · cases h
    exact isSlotVariablePoint_of_named hslot rfl hfeature hname

theorem buildExpected_scale {c : PointCatalog} {symbol : PlcObjectSymbolRecordV1}
    {d : PointDefinition} (h : buildExpectedSlotVariableDefinition c slotId symbol = some d) :
    d.scale = 0x3F800000 := by
  unfold buildExpectedSlotVariableDefinition at h
  split at h
  · cases h
  · split at h <;> cases h <;> rfl

variable {readSymbol : UInt16 → Option PlcObjectSymbolRecordV1}

theorem declaredDefinitions_all {s : LoaderState} {symbolCount : UInt16}
    {ds : List PointDefinition} {P : PointDefinition → Prop}
    (hbuilt : ∀ symbol d, buildExpectedSlotVariableDefinition s.catalog slotId symbol = some d → P d)
    (h : declaredDefinitions s slotId symbolCount readSymbol = some ds) : ∀ d ∈ ds, P d := by
  unfold declaredDefinitions at h
  split at h
  · cases h
  rename_i e he
  cases h
  refine forLoop_inv (P := fun e => ∀ d ∈ e.definitions, P d) ?_ he (by simp)
  intro i e t hbody hall
  unfold declareSymbol at hbody
  split at hbody
  · cases hbody
  rename_i symbol _
  split at hbody
  · cases hbody
    exact hall
  split at hbody
  · cases hbody
  split at hbody
  · cases hbody
  rename_i d hd
  cases hbody
  intro d' hd'
  rcases List.mem_append.mp hd' with hd' | hd'
  · exact hall d' hd'
  · rw [List.mem_singleton.mp hd']
    exact hbuilt symbol d hd

theorem declaredDefinitions_isSlotVariable {s : LoaderState} {symbolCount : UInt16}
    {ds : List PointDefinition} (hslot : slotId < kPlcSlotCountV1)
    (h : declaredDefinitions s slotId symbolCount readSymbol = some ds) :
    ∀ d ∈ ds, Catalog.isSlotVariablePoint slotId (freshEntry d) = true :=
  declaredDefinitions_all (fun _ _ => buildExpected_isSlotVariable hslot) h

theorem declaredDefinitions_scale {s : LoaderState} {symbolCount : UInt16}
    {ds : List PointDefinition}
    (h : declaredDefinitions s slotId symbolCount readSymbol = some ds) :
    ∀ d ∈ ds, d.scale = 0x3F800000 :=
  declaredDefinitions_all (fun _ _ => buildExpected_scale) h

theorem slotVariables_replacedEntries {ds : List PointDefinition} {entries : List Entry}
    (h : ∀ d ∈ ds, Catalog.isSlotVariablePoint slotId (freshEntry d) = true) :
    (replacedEntries slotId ds entries).filter (Catalog.isSlotVariablePoint slotId) =
      ds.map freshEntry := by
  have hcompacted : ∀ e ∈ entries.filter (fun e => !Catalog.isSlotVariablePoint slotId e),
      ¬ Catalog.isSlotVariablePoint slotId e = true := by
    intro e he
    simpa using (List.mem_filter.mp he).2
  have hbefore : ∀ {es : List Entry},
      (∀ e ∈ es, e ∈ entries.filter (fun e => !Catalog.isSlotVariablePoint slotId e)) →
      es.filter (Catalog.isSlotVariablePoint slotId) = [] :=
    fun hes => List.filter_eq_nil_iff.mpr fun e he => hcompacted e (hes e he)
  unfold replacedEntries
  simp only [List.filter_append]
  rw [hbefore fun e he => (List.takeWhile_sublist _).mem he,
    hbefore fun e he => (List.dropWhile_sublist _).mem he]
  simp only [List.nil_append, List.append_nil]
  rw [List.filter_eq_self]
  intro e he
  obtain ⟨d, hd, rfl⟩ := List.mem_map.mp he
  exact h d hd

/-- The checks `replaceSlotVariableDefinitions` makes before it changes the catalog. -/
def ReplacementFits (c : PointCatalog) (slotId : UInt16) (ds : List PointDefinition) : Prop :=
  ds.length ≤ kMaxPoints ∧ c.size - (slotVariables slotId c).length + ds.length ≤ kMaxPoints

/-- Declaring would leave the slot's variables as they are: either the declaration is refused,
or the definitions declared are those the catalog has for the slot. -/
def DeclaresPresent (c : PointCatalog) (slotId : UInt16)
    (declared : Option (List PointDefinition)) : Prop :=
  ∀ ds, declared = some ds → ReplacementFits c slotId ds →
    (slotVariables slotId c).map (·.definition) = ds

theorem replaceSlotVariableDefinitions_cases (c : PointCatalog) (slotId : UInt16)
    {ds : List PointDefinition} (hscale : ∀ d ∈ ds, d.scale = 0x3F800000) :
    (¬ ReplacementFits c slotId ds ∧ c.replaceSlotVariableDefinitions slotId ds = none) ∨
    (ReplacementFits c slotId ds ∧ (slotVariables slotId c).map (·.definition) = ds ∧
      c.replaceSlotVariableDefinitions slotId ds = some (c, false)) ∨
    (ReplacementFits c slotId ds ∧ (slotVariables slotId c).map (·.definition) ≠ ds ∧
      c.replaceSlotVariableDefinitions slotId ds =
        some (c.setEntries (replacedEntries slotId ds c.entries), true)) := by
  unfold PointCatalog.replaceSlotVariableDefinitions ReplacementFits
  by_cases h1 : kMaxPoints < ds.length
  · exact .inl ⟨fun h => Nat.not_lt.mpr h.1 h1, if_pos h1⟩
  rw [if_neg h1]
  by_cases h2 : kMaxPoints < c.size - (slotVariables slotId c).length + ds.length
  · exact .inl ⟨fun h => Nat.not_lt.mpr h.2 h2, if_pos h2⟩
  simp only [if_neg h2, sameDefinitions_iff hscale]
  by_cases h3 : (slotVariables slotId c).map (·.definition) = ds
  · exact .inr (.inl ⟨⟨Nat.not_lt.mp h1, Nat.not_lt.mp h2⟩, h3, if_pos h3⟩)
  · exact .inr (.inr ⟨⟨Nat.not_lt.mp h1, Nat.not_lt.mp h2⟩, h3, if_neg h3⟩)

theorem reconcile_slotVariables_iff {s : LoaderState} {symbolCount : UInt16}
    (hslot : slotId < kPlcSlotCountV1) :
    slotVariables slotId (reconcileSlotVariablePoints s slotId symbolCount readSymbol).1.catalog =
        slotVariables slotId s.catalog ↔
      DeclaresPresent s.catalog slotId (declaredDefinitions s slotId symbolCount readSymbol) := by
  rw [reconcile_catalog]
  cases hd : declaredDefinitions s slotId symbolCount readSymbol with
  | none =>
    refine ⟨fun _ ds hds => ?_, fun _ => rfl⟩
    cases hds
  | some ds =>
    have hall := declaredDefinitions_isSlotVariable hslot hd
    have hone : DeclaresPresent s.catalog slotId (some ds) ↔ (ReplacementFits s.catalog slotId ds →
        (slotVariables slotId s.catalog).map (·.definition) = ds) :=
      ⟨fun h => h ds rfl, fun h ds' he => by cases he; exact h⟩
    rw [hone]
    simp only
    rcases replaceSlotVariableDefinitions_cases s.catalog slotId (declaredDefinitions_scale hd) with
      ⟨hfit, hr⟩ | ⟨hfit, hsame, hr⟩ | ⟨hfit, hdiff, hr⟩
    · rw [hr]
      exact ⟨fun _ h => absurd h hfit, fun _ => rfl⟩
    · rw [hr]
      exact ⟨fun _ _ => hsame, fun _ => rfl⟩
    · rw [hr]
      constructor
      · intro h _
        have hnew : slotVariables slotId s.catalog = ds.map freshEntry := by
          rw [← h]
          exact slotVariables_replacedEntries hall
        have hdefs : (slotVariables slotId s.catalog).map (·.definition) = ds := by
          rw [hnew]
          simp [Function.comp_def, freshEntry]
        exact hdefs
      · exact fun h => absurd (h hfit) hdiff

theorem declare_needsPublish {s : LoaderState} {i n : Nat} {e t : ExpectedDefinitions}
    (hready : s.publisher.ready = false)
    (h : forLoop (declareSymbol s slotId readSymbol) i n e = .ok t)
    (hstart : e.needsPublish = true ↔ e.definitions ≠ []) :
    t.needsPublish = true ↔ t.definitions ≠ [] := by
  refine forLoop_inv (P := fun e => e.needsPublish = true ↔ e.definitions ≠ []) ?_ h hstart
  intro i e t hbody hiff
  unfold declareSymbol at hbody
  split at hbody
  · cases hbody
  split at hbody
  · cases hbody
    exact hiff
  split at hbody
  · cases hbody
  split at hbody
  · cases hbody
  cases hbody
  have hindex (i : Nat) : s.publisher.pointStateIndexForCatalogIndex i = none := by
    simp [PlcRuntimePublisherV1.pointStateIndexForCatalogIndex, hready]
  simp only [hindex, Option.isSome_none, Bool.and_false]
  split <;> simp

/-- There is room for the definitions in place of the slot's own, and the publisher is ready, or
there is nothing to publish. -/
structure Room (s : LoaderState) (slotId : UInt16) (ds : List PointDefinition) : Prop where
  fits : ReplacementFits s.catalog slotId ds
  ready : s.publisher.ready = true ∨ ds = [] ∧ slotVariables slotId s.catalog = []

theorem filter_nil_of_slotVariables {c : PointCatalog} (hslot : slotId < kPlcSlotCountV1)
    (h : slotVariables slotId c = []) : c.definitions.filter (isSlotVariablePoint slotId) = [] := by
  refine List.filter_eq_nil_iff.mpr fun d hd hvariable => ?_
  obtain ⟨e, he, rfl⟩ := List.mem_map.mp hd
  simp only [isSlotVariablePoint, Bool.and_eq_true, decide_eq_true_eq, Bool.not_eq_true']
    at hvariable
  have hmem : e ∈ slotVariables slotId c :=
    List.mem_filter.mpr ⟨he, isSlotVariablePoint_of_named hslot hvariable.1.1 hvariable.1.2
      hvariable.2⟩
  rw [h] at hmem
  cases hmem

theorem publish_isSome (p : PlcRuntimePublisherV1) (c : PointCatalog) :
    (p.publish c).isSome = p.ready := by
  unfold PlcRuntimePublisherV1.publish
  cases p.ready with
  | false => rfl
  | true =>
    simp only [Bool.not_true, Bool.false_eq_true, if_false]
    split <;> rfl

section
variable {s : LoaderState} {symbolCount : UInt16} {e : ExpectedDefinitions}
  (hloop : forLoop (declareSymbol s slotId readSymbol) 0 symbolCount.toNat ⟨[], false⟩ = .ok e)
include hloop

theorem declaredDefinitions_ok :
    declaredDefinitions s slotId symbolCount readSymbol = some e.definitions := by
  rw [declaredDefinitions, hloop]

/-- Reconciling fails for want of room, or where it has to publish before the publisher is ready. -/
theorem reconcile_succeeds_iff :
    (reconcileSlotVariablePoints s slotId symbolCount readSymbol).2 = true ↔
      ReplacementFits s.catalog slotId e.definitions ∧ (s.publisher.ready = true ∨
        (slotVariables slotId s.catalog).map (·.definition) = e.definitions ∧
          e.needsPublish = false ∧
          (s.catalog.definitions.filter (isSlotVariablePoint slotId)).length =
            e.definitions.length) := by
  have hscale := declaredDefinitions_scale (declaredDefinitions_ok hloop)
  unfold reconcileSlotVariablePoints
  rw [hloop]
  obtain ⟨hfit, hr⟩ | ⟨hfit, hsame, hr⟩ | ⟨hfit, hdiff, hr⟩ :=
    replaceSlotVariableDefinitions_cases s.catalog slotId hscale
  · simp [hr, hfit]
  · have hpublish := publish_isSome s.publisher s.catalog
    simp only [hr, hfit, hsame, true_and, Bool.false_or]
    split
    · next hneeds =>
      have hloud : ¬ (e.needsPublish = false ∧
          (s.catalog.definitions.filter (isSlotVariablePoint slotId)).length =
            e.definitions.length) := by
        rintro ⟨hquiet, hcount⟩
        simp [hquiet, hcount] at hneeds
      rw [← hpublish]
      split <;> simp_all
    · next hquiet => exact iff_of_true rfl (.inr (by simpa using hquiet))
  · have hpublish := publish_isSome s.publisher
      (s.catalog.setEntries (replacedEntries slotId e.definitions s.catalog.entries))
    simp only [hr, hfit, hdiff, true_and, false_and, or_false, Bool.true_or, if_true]
    rw [← hpublish]
    split <;> simp_all

/-- Before the publisher is ready there is nothing to publish only if nothing is declared. -/
theorem nothing_published_iff (hslot : slotId < kPlcSlotCountV1)
    (hready : s.publisher.ready = false) :
    ((slotVariables slotId s.catalog).map (·.definition) = e.definitions ∧
        e.needsPublish = false ∧
        (s.catalog.definitions.filter (isSlotVariablePoint slotId)).length =
          e.definitions.length) ↔
      e.definitions = [] ∧ slotVariables slotId s.catalog = [] := by
  have hneeds := declare_needsPublish hready hloop (by simp)
  constructor
  · rintro ⟨hsame, hquiet, -⟩
    have hnil : e.definitions = [] := by
      refine Classical.byContradiction fun hne => ?_
      rw [hneeds.mpr hne] at hquiet
      cases hquiet
    rw [hnil] at hsame
    exact ⟨hnil, List.map_eq_nil_iff.mp hsame⟩
  · rintro ⟨hnil, hvariables⟩
    refine ⟨by rw [hvariables, hnil]; rfl, Bool.eq_false_iff.mpr fun h => hneeds.mp h hnil, ?_⟩
    rw [filter_nil_of_slotVariables hslot hvariables, hnil]

theorem reconcile_room_iff (hslot : slotId < kPlcSlotCountV1) :
    (reconcileSlotVariablePoints s slotId symbolCount readSymbol).2 = true ↔
      Room s slotId e.definitions := by
  rw [reconcile_succeeds_iff hloop]
  cases hready : s.publisher.ready with
  | true => exact ⟨fun h => ⟨h.1, .inl hready⟩, fun h => ⟨h.fits, .inl rfl⟩⟩
  | false =>
    rw [nothing_published_iff hloop hslot hready]
    simp only [Bool.false_eq_true, false_or]
    refine ⟨fun h => ⟨h.1, .inr h.2⟩, fun h => ⟨h.fits, h.ready.resolve_left ?_⟩⟩
    rw [hready]
    exact Bool.false_ne_true

end

/-- Where there is room, the slot's variables are then those declared. -/
theorem declaredCatalog_variables {c : PointCatalog} {ds : List PointDefinition}
    (hall : ∀ d ∈ ds, Catalog.isSlotVariablePoint slotId (freshEntry d) = true)
    (hscale : ∀ d ∈ ds, d.scale = 0x3F800000) (hfits : ReplacementFits c slotId ds) :
    (slotVariables slotId (declaredCatalog c slotId (some ds))).map (·.definition) = ds := by
  obtain ⟨hnot, -⟩ | ⟨-, hsame, hr⟩ | ⟨-, -, hr⟩ :=
    replaceSlotVariableDefinitions_cases c slotId hscale
  · exact absurd hfits hnot
  · simp only [declaredCatalog, hr]
    exact hsame
  · simp only [declaredCatalog, hr, slotVariables, setEntries_entries]
    rw [slotVariables_replacedEntries hall, List.map_map]
    exact List.map_id' _

/-- Reconciling succeeds and leaves the slot these variables exactly if the object declares them and
there is room. -/
theorem reconcile_declares_iff {s : LoaderState} {symbolCount : UInt16}
    (hslot : slotId < kPlcSlotCountV1) (ds : List PointDefinition) :
    (reconcileSlotVariablePoints s slotId symbolCount readSymbol).2 = true ∧
        (slotVariables slotId
          (reconcileSlotVariablePoints s slotId symbolCount readSymbol).1.catalog).map
            (·.definition) = ds ↔
      declaredDefinitions s slotId symbolCount readSymbol = some ds ∧ Room s slotId ds := by
  have hcatalog : (reconcileSlotVariablePoints s slotId symbolCount readSymbol).1.catalog =
      declaredCatalog s.catalog slotId (declaredDefinitions s slotId symbolCount readSymbol) :=
    reconcile_catalog ..
  rw [hcatalog]
  cases hloop : forLoop (declareSymbol s slotId readSymbol) 0 symbolCount.toNat ⟨[], false⟩ with
  | error e => simp [reconcileSlotVariablePoints, declaredDefinitions, hloop]
  | ok e =>
    have hd := declaredDefinitions_ok hloop
    have hvariables := declaredCatalog_variables (c := s.catalog)
      (declaredDefinitions_isSlotVariable hslot hd) (declaredDefinitions_scale hd)
    rw [reconcile_room_iff hloop hslot, hd, Option.some.injEq]
    constructor
    · rintro ⟨hroom, rfl⟩
      rw [hvariables hroom.fits]
      exact ⟨rfl, hroom⟩
    · rintro ⟨rfl, hroom⟩
      exact ⟨hroom, hvariables hroom.fits⟩

/-- The slot's variables can be declared. -/
def Declarable (s : LoaderState) (slotId : UInt16) (declared : Option (List PointDefinition)) :
    Prop :=
  ∃ ds, declared = some ds ∧ Room s slotId ds

theorem declarable_iff {s : LoaderState} (hslot : slotId < kPlcSlotCountV1) (symbolCount : UInt16)
    (readSymbol : UInt16 → Option PlcObjectSymbolRecordV1) :
    (reconcileSlotVariablePoints s slotId symbolCount readSymbol).2 = true ↔
      Declarable s slotId (declaredDefinitions s slotId symbolCount readSymbol) := by
  have h := @reconcile_declares_iff slotId readSymbol s symbolCount hslot
  exact ⟨fun h2 => ⟨_, (h _).mp ⟨h2, rfl⟩⟩, fun ⟨ds, hds⟩ => ((h ds).mpr hds).1⟩

end NodeNet.Loader

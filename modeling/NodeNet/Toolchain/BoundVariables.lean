import NodeNet.SlotVariables
import NodeNet.Toolchain.ObjectBytes

/-! The slot variables of an accepted program, as the firmware's loader declares them. -/
namespace NodeNet.Toolchain
open NodeNet.Bytes NodeNet.Chars NodeNet.Checks NodeNet.Points NodeNet.Catalog NodeNet.ObjectFile
open NodeNet.Linker NodeNet.Loader NodeNet.Slot

def isVariable (symbol : PlcAssemblySymbol) : Bool := symbol.kind = .SlotVar

def isVariableRecord (r : PlcObjectSymbolRecordV1) : Bool := r.symbolKind = kPlcSymbolSlotVar

theorem declareLoop_finished {s : LoaderState} {slotId : UInt16}
    {symbols : UInt16 → PlcObjectSymbolRecordV1} {n i : Nat} {e t : ExpectedDefinitions}
    (hfull : e.definitions.length ≤ kMaxPoints)
    (h : forLoop (declareSymbol s slotId (some ∘ symbols)) i n e = .ok t) :
    ∃ ds, t.definitions = e.definitions ++ ds ∧ e.definitions.length + ds.length ≤ kMaxPoints ∧
      (((List.range' i n).map (symbols ∘ UInt16.ofNat)).filter isVariableRecord).map
        (buildExpectedSlotVariableDefinition s.catalog slotId) = ds.map some := by
  induction n generalizing i e with
  | zero =>
    cases h
    exact ⟨[], by simp, by simpa using hfull, rfl⟩
  | succ n ih =>
    unfold forLoop declareSymbol at h
    simp only [Function.comp_apply] at h
    rw [List.range'_succ, List.map_cons, Function.comp_apply]
    by_cases hkind : (symbols (UInt16.ofNat i)).symbolKind = kPlcSymbolSlotVar
    · have hvar : isVariableRecord (symbols (UInt16.ofNat i)) = true := by
        simp [isVariableRecord, hkind]
      rw [List.filter_cons_of_pos hvar, List.map_cons]
      rw [if_neg (by simpa using hkind)] at h
      by_cases hmax : kMaxPoints ≤ e.definitions.length
      · simp [hmax] at h
      · rw [if_neg hmax] at h
        cases hbuild : buildExpectedSlotVariableDefinition s.catalog slotId
            (symbols (UInt16.ofNat i)) with
        | none => simp [hbuild] at h
        | some d =>
          simp only [hbuild] at h
          obtain ⟨ds, hds, hlen, hmap⟩ := ih (by simp; omega) h
          refine ⟨d :: ds, by simp [hds], ?_, by rw [hmap]; rfl⟩
          simp only [List.length_append, List.length_cons, List.length_nil] at hlen ⊢
          omega
    · have hvar : ¬ isVariableRecord (symbols (UInt16.ofNat i)) = true := by
        simp [isVariableRecord, hkind]
      rw [List.filter_cons_of_neg hvar]
      rw [if_pos hkind] at h
      exact ih hfull h

theorem declareLoop_ok {s : LoaderState} {slotId : UInt16}
    {symbols : UInt16 → PlcObjectSymbolRecordV1} {n i : Nat} {e : ExpectedDefinitions}
    {ds : List PointDefinition} (hfull : e.definitions.length + ds.length ≤ kMaxPoints)
    (h : (((List.range' i n).map (symbols ∘ UInt16.ofNat)).filter isVariableRecord).map
      (buildExpectedSlotVariableDefinition s.catalog slotId) = ds.map some) :
    ∃ t, forLoop (declareSymbol s slotId (some ∘ symbols)) i n e = .ok t ∧
      t.definitions = e.definitions ++ ds := by
  induction n generalizing i e ds with
  | zero =>
    cases ds with
    | nil => exact ⟨e, rfl, by simp⟩
    | cons d ds => simp at h
  | succ n ih =>
    rw [List.range'_succ, List.map_cons, Function.comp_apply] at h
    unfold forLoop declareSymbol
    simp only [Function.comp_apply]
    by_cases hkind : (symbols (UInt16.ofNat i)).symbolKind = kPlcSymbolSlotVar
    · have hvar : isVariableRecord (symbols (UInt16.ofNat i)) = true := by
        simp [isVariableRecord, hkind]
      rw [List.filter_cons_of_pos hvar, List.map_cons] at h
      cases ds with
      | nil => simp at h
      | cons d ds =>
        rw [List.map_cons, List.cons.injEq] at h
        simp only [List.length_cons] at hfull
        rw [if_neg (by simpa using hkind), if_neg (by omega)]
        simp only [h.1]
        obtain ⟨t, ht, hdefs⟩ := ih (e := ⟨e.definitions ++ [d], _⟩) (by simp; omega) h.2
        exact ⟨t, ht, by simp [hdefs]⟩
    · have hvar : ¬ isVariableRecord (symbols (UInt16.ofNat i)) = true := by
        simp [isVariableRecord, hkind]
      rw [List.filter_cons_of_neg hvar] at h
      rw [if_pos hkind]
      exact ih hfull h

theorem declaredDefinitions_iff {s : LoaderState} {slotId count : UInt16}
    {symbols : UInt16 → PlcObjectSymbolRecordV1} {ds : List PointDefinition} :
    declaredDefinitions s slotId count (some ∘ symbols) = some ds ↔
      ds.length ≤ kMaxPoints ∧
      (((List.range' 0 count.toNat).map (symbols ∘ UInt16.ofNat)).filter isVariableRecord).map
        (buildExpectedSlotVariableDefinition s.catalog slotId) = ds.map some := by
  unfold declaredDefinitions
  constructor
  · intro h
    cases hloop : forLoop (declareSymbol s slotId (some ∘ symbols)) 0 count.toNat ⟨[], false⟩ with
    | error e => simp [hloop] at h
    | ok t =>
      simp only [hloop, Option.some.injEq] at h
      obtain ⟨ds', hds, hlen, hmap⟩ := declareLoop_finished (Nat.zero_le _) hloop
      have hsame : ds = ds' := by rw [← h, hds, List.nil_append]
      subst hsame
      exact ⟨by simpa using hlen, hmap⟩
  · intro h
    obtain ⟨t, ht, hdefs⟩ := @declareLoop_ok s slotId symbols count.toNat 0 ⟨[], false⟩ ds
      (by simpa using h.1) h.2
    simp [ht, hdefs]

def variableDefinition (c : PointCatalog) (slotId : UInt16) (v : PlcAssemblySymbol) :
    PointDefinition where
  id := slotVariableIdentity c slotId (nameText v.name)
  displayName := nameText v.name
  backend := .Local
  direction := if v.slotVarPrivate then .Input else .InOut
  valueType := .ofByte (expectedTypeByte v.expectedType)
  refreshMs := 0
  timeoutMs := 0
  stringCapacity := 0
  scale := 0x3F800000
  unit := []
  enumDef := 0
  ref := List.replicate 80 0

/-- A variable the firmware takes: its type is supported, its name neither empty nor reserved. -/
structure Bindable (v : PlcAssemblySymbol) : Prop where
  supported : v.expectedType ≠ some .String
  named : nameText v.name ≠ []
  free : nameText v.name ∉ kReservedPointIds

theorem nameText_length {v : PlcAssemblySymbol} (hlen : v.name.length < 16) :
    (nameText v.name).take 31 = nameText v.name := by
  have hle := (List.takeWhile_sublist (p := (· != 0)) (l := asciiBytes v.name)).length_le
  rw [asciiBytes, List.length_map] at hle
  exact List.take_of_length_le (by rw [nameText, asciiBytes]; omega)

theorem isSupported_toByte (t : PlcValueType) :
    isSupportedSlotVariableType t.toByte = true ↔ t ≠ .String := by
  cases t <;> decide

/-- The loader builds a variable's definition exactly if the variable is one it can take. -/
theorem buildExpected_iff {c : PointCatalog} {slotId : UInt16} {r : PlcObjectSymbolRecordV1}
    {v : PlcAssemblySymbol} (hc : c.size ≠ 0) (hr : ReadsAs r v) (hlen : v.name.length < 16)
    (htype : v.expectedType.isSome = true) :
    buildExpectedSlotVariableDefinition c slotId r = some (variableDefinition c slotId v) ↔
      Bindable v := by
  obtain ⟨t, ht⟩ := Option.isSome_iff_exists.mp htype
  have htext := nameText_length hlen
  have hreserved : isReservedSlotPointId (nameText v.name) = false ↔
      nameText v.name ≠ [] ∧ nameText v.name ∉ kReservedPointIds := isReservedSlotPointId_eq_false
  unfold buildExpectedSlotVariableDefinition Loader.buildSlotVariableIdentity
  rw [hr.name]
  by_cases hname : nameText v.name ≠ [] ∧ nameText v.name ∉ kReservedPointIds
  · have hfree := hreserved.mpr hname
    rw [if_neg (by simp [hc, hname.1, hfree])]
    simp only [hr.expectedType, hr.flags, ht, expectedTypeByte]
    by_cases hstring : t = .String
    · subst hstring
      constructor
      · intro h
        have hunsupported : isSupportedSlotVariableType PlcValueType.String.toByte = false := by
          decide
        rw [hunsupported] at h
        have hrefresh := congrArg PointDefinition.refreshMs (Option.some.inj h)
        exact absurd hrefresh (show (1000 : UInt32) ≠ 0 by decide)
      · intro h
        exact absurd ht h.supported
    · have hsupported := (isSupported_toByte t).mpr hstring
      rw [hsupported, htext]
      refine ⟨fun _ => ⟨by simp [ht, hstring], hname.1, hname.2⟩, fun _ => ?_⟩
      simp only [variableDefinition, ht, expectedTypeByte]
      cases v.slotVarPrivate with
      | false => rfl
      | true => rfl
  · have hrefused : c.size = 0 ∨ nameText v.name = [] ∨
        isReservedSlotPointId (nameText v.name) = true := by
      by_cases hfree : isReservedSlotPointId (nameText v.name) = true
      · exact .inr (.inr hfree)
      · exact absurd (hreserved.mp (by simpa using hfree)) hname
    rw [if_pos hrefused]
    refine ⟨fun h => by simp at h, fun h => absurd ⟨h.named, h.free⟩ hname⟩

/-- Records read beside the symbols: what the chosen ones map to is right exactly if it is right for
each chosen symbol. -/
theorem filter_map_range_iff {α β : Type} {f : Nat → α} {p : α → Bool} {g : α → β}
    {symbols : List PlcAssemblySymbol} {q : PlcAssemblySymbol → Bool} {g' : PlcAssemblySymbol → β}
    {P : PlcAssemblySymbol → Prop} {k : Nat}
    (hp : ∀ i s, symbols[i]? = some s → p (f (k + i)) = q s)
    (hg : ∀ i s, symbols[i]? = some s → q s = true → (g (f (k + i)) = g' s ↔ P s)) :
    (((List.range' k symbols.length).map f).filter p).map g = (symbols.filter q).map g' ↔
      ∀ s ∈ symbols.filter q, P s := by
  induction symbols generalizing k with
  | nil => simp
  | cons s symbols ih =>
    have hrest := ih (k := k + 1)
      (fun i t ht => by rw [Nat.add_assoc, Nat.add_comm 1]; exact hp (i + 1) t ht)
      (fun i t ht => by rw [Nat.add_assoc, Nat.add_comm 1]; exact hg (i + 1) t ht)
    have hfirst := hp 0 s rfl
    rw [Nat.add_zero] at hfirst
    rw [List.length_cons, List.range'_succ, List.map_cons]
    cases hq : q s with
    | false =>
      rw [List.filter_cons_of_neg (by simp [hfirst, hq]), List.filter_cons_of_neg (by simp [hq])]
      exact hrest
    | true =>
      have hmap := hg 0 s rfl hq
      rw [Nat.add_zero] at hmap
      rw [List.filter_cons_of_pos (by simp [hfirst, hq]), List.filter_cons_of_pos hq, List.map_cons,
        List.map_cons, List.cons.injEq, hmap, hrest]
      simp

def variablesOf (assembly : PlcAssemblyResult) : List PlcAssemblySymbol :=
  assembly.symbols.filter isVariable

def slotPointIds : List Text :=
  ["loaded", "state", "runEnabled", "status", "faultCode", "faultInfo", "bytecodeSize",
    "loadEpoch", "objectSize", "paramsSummary", "start", "stop", "reset", "clearFault"].map ascii

/-- The firmware takes the variables of the program into its catalog and publishes them, each as a
point of its own. -/
structure Bound (s : LoaderState) (slotId : UInt16) (file : Memory)
    (vars : List PlcAssemblySymbol) : Prop where
  succeeds : (ramDeclare s slotId file).2 = true
  declared : (slotVariables slotId (ramDeclare s slotId file).1.catalog).map (·.definition) =
    vars.map (variableDefinition s.catalog slotId)
  distinct : (vars.map fun v => (variableDefinition s.catalog slotId v).id).Nodup
  builtin : ∀ v ∈ vars, ∀ deviceId slot, ∀ pointId ∈ slotPointIds,
    (variableDefinition s.catalog slotId v).id ≠ ⟨deviceId, slotFeature slot, pointId⟩
  slots : ∀ v ∈ vars, ∀ c other w, other < kPlcSlotCountV1 → other ≠ slotId →
    (variableDefinition s.catalog slotId v).id ≠ (variableDefinition c other w).id

/-- No more variables than points, each one bindable, and no two of one name to the firmware. -/
structure Portable (vars : List PlcAssemblySymbol) : Prop where
  count : vars.length ≤ kMaxPoints
  bindable : ∀ v ∈ vars, Bindable v
  distinct : (vars.map fun v => nameText v.name).Nodup

theorem writeSymbols_name {symbols : List PlcAssemblySymbol} {records : List UInt8}
    (h : writeSymbols symbols = .ok records) {v : PlcAssemblySymbol} (hv : v ∈ symbols) :
    v.name.length < 16 := by
  obtain ⟨i, hi⟩ := List.getElem?_of_mem hv
  obtain ⟨-, record, -, hrecord, -, -⟩ := writeSymbols_record h hi
  obtain ⟨name, -, hname, -, -⟩ := writeSymbol_cases hrecord
  exact (writeFixedAscii_cases hname).1

theorem slotFeature_inj {a b : UInt16} (ha : a < kPlcSlotCountV1) (hb : b < kPlcSlotCountV1)
    (h : slotFeature a = slotFeature b) : a = b := by
  have hreads := (slotFeature_reads ha).parsed
  rw [h, (slotFeature_reads hb).parsed] at hreads
  exact (Option.some.inj hreads).symm

theorem slotPointIds_reserved : ∀ pointId ∈ slotPointIds, pointId ∈ kReservedPointIds := by decide

theorem ramDeclared_iff {assembly : PlcAssemblyResult} {options : PlcObjectFileOptions}
    {bytes : List UInt8} {file : Memory} (hbuild : build assembly options = .ok bytes)
    (hfile : bytesAt file 0 bytes.length = bytes) (hsymbols : SymbolsOk assembly.symbols)
    {s : LoaderState} {slotId : UInt16} (hc : s.catalog.size ≠ 0) :
    ramDeclared s slotId file =
        some ((variablesOf assembly).map (variableDefinition s.catalog slotId)) ↔
      (variablesOf assembly).length ≤ kMaxPoints ∧ ∀ v ∈ variablesOf assembly, Bindable v := by
  obtain ⟨records, hrecords, -, -⟩ := build_cases hbuild
  obtain ⟨hcount, hreads⟩ := build_symbols hbuild hfile hsymbols.count
  rw [ramDeclared, declaredDefinitions_iff, hcount, List.length_map, List.map_map]
  refine and_congr_right fun _ => filter_map_range_iff (fun i v hv => ?_) (fun i v hv hvar => ?_)
  · rw [Nat.zero_add, Function.comp_apply, isVariableRecord, isVariable]
    have hkind : ((objectImage file).symbols (UInt16.ofNat i)).symbolKind = v.kind.toByte :=
      (hreads i v hv).kind
    rw [hkind]
    cases v.kind with
    | ConstPointId => rfl
    | ParamPointId => rfl
    | SlotVar => rfl
  · rw [Nat.zero_add, Function.comp_apply, Function.comp_apply]
    have hmem := List.mem_of_getElem? hv
    exact buildExpected_iff hc (hreads i v hv) (writeSymbols_name hrecords hmem)
      (hsymbols.declared v hmem (by simpa [isVariable] using hvar)).2

/-- ASCII characters, none of them zero. -/
def isPlain (name : CodeUnits) : Bool := name.all fun c => 0 < c && c < 0x80

def Plain (name : CodeUnits) : Prop := name ≠ [] ∧ isPlain name = true

theorem isPlain_mem {name : CodeUnits} (h : isPlain name = true) :
    ∀ c ∈ name, 0 < c ∧ c < 0x80 := by
  simpa [isPlain] using h

theorem asciiByte_plain {c : UInt16} (h : 0 < c ∧ c < 0x80) :
    asciiByte c = c.toUInt8 ∧ c.toUInt8 ≠ 0 ∧ c.toUInt8.toNat = c.toNat := by
  have hpos : 0 < c.toNat := UInt16.lt_iff_toNat_lt.mp h.1
  have hlt : c.toNat < 128 := UInt16.lt_iff_toNat_lt.mp h.2
  have hnat : c.toUInt8.toNat = c.toNat := by
    rw [UInt16.toNat_toUInt8]
    exact Nat.mod_eq_of_lt (by omega)
  refine ⟨if_pos h.2, ?_, hnat⟩
  intro h0
  rw [h0] at hnat
  change 0 = c.toNat at hnat
  omega

theorem nameText_plain {name : CodeUnits} (h : Plain name) : nameText name = asciiBytes name := by
  have hnonzero : ∀ b ∈ asciiBytes name, (b != 0) = true := by
    intro b hb
    obtain ⟨c, hc, rfl⟩ := List.mem_map.mp hb
    obtain ⟨hbyte, hne, -⟩ := asciiByte_plain (isPlain_mem h.2 c hc)
    rw [hbyte]
    simpa using hne
  have hall := @List.takeWhile_append_of_pos _ (· != 0) (asciiBytes name) [] hnonzero
  rw [List.append_nil, List.takeWhile_nil, List.append_nil] at hall
  exact hall

theorem asciiBytes_inj {a b : CodeUnits} (ha : isPlain a = true) (hb : isPlain b = true)
    (h : asciiBytes a = asciiBytes b) : a = b := by
  induction a generalizing b with
  | nil =>
    cases b with
    | nil => rfl
    | cons d b => simp [asciiBytes] at h
  | cons c a ih =>
    cases b with
    | nil => simp [asciiBytes] at h
    | cons d b =>
      simp only [asciiBytes, List.map_cons, List.cons.injEq] at h
      simp only [isPlain, List.all_cons, Bool.and_eq_true] at ha hb
      obtain ⟨hc, -, hcnat⟩ := asciiByte_plain (by simpa using ha.1)
      obtain ⟨hd, -, hdnat⟩ := asciiByte_plain (by simpa using hb.1)
      have hsame : c = d := by
        rw [← UInt16.toNat_inj, ← hcnat, ← hdnat, ← hc, ← hd, h.1]
      rw [hsame, ih ha.2 hb.2 h.2]

/-- The two names the firmware reserves and the assembler does not. -/
def unreservedNames : List CodeUnits := [lit "loadEpoch", lit "objectSize"]

theorem reserved_cases {name : CodeUnits} (h : Plain name)
    (hname : asciiBytes name ∈ kReservedPointIds) : name ∈ reservedSlotVariableNames ∨
      name ∈ unreservedNames := by
  have hall : ∀ r ∈ kReservedPointIds, ∃ known ∈ reservedSlotVariableNames ++ unreservedNames,
      isPlain known = true ∧ asciiBytes known = r := by decide
  obtain ⟨known, hmem, hplain, heq⟩ := hall _ hname
  rw [← asciiBytes_inj hplain h.2 heq]
  exact List.mem_append.mp hmem

theorem unreserved_reserved : ∀ name ∈ unreservedNames,
    Plain name ∧ asciiBytes name ∈ kReservedPointIds := by
  intro name hname
  simp only [unreservedNames, List.mem_cons, List.not_mem_nil, or_false] at hname
  rcases hname with rfl | rfl
  · exact ⟨⟨by decide, by decide⟩, by decide⟩
  · exact ⟨⟨by decide, by decide⟩, by decide⟩

theorem portable_of_plain {assembly : PlcAssemblyResult} (hsymbols : SymbolsOk assembly.symbols)
    (hplain : ∀ v ∈ variablesOf assembly, Plain v.name) :
    Portable (variablesOf assembly) ↔ (variablesOf assembly).length ≤ kMaxPoints ∧
      ∀ v ∈ variablesOf assembly, v.expectedType ≠ some .String ∧ v.name ∉ unreservedNames := by
  constructor
  · intro h
    refine ⟨h.count, fun v hv => ⟨(h.bindable v hv).supported, fun hname => ?_⟩⟩
    have hfree := (h.bindable v hv).free
    rw [nameText_plain (hplain v hv)] at hfree
    exact hfree (unreserved_reserved _ hname).2
  · intro h
    refine ⟨h.1, fun v hv => ⟨(h.2 v hv).1, ?_, ?_⟩, ?_⟩
    · rw [nameText_plain (hplain v hv)]
      simpa [asciiBytes] using (hplain v hv).1
    · rw [nameText_plain (hplain v hv)]
      intro hname
      obtain ⟨hmem, hvar⟩ := List.mem_filter.mp hv
      rcases reserved_cases (hplain v hv) hname with hreserved | hreserved
      · exact (hsymbols.declared v hmem (by simpa [isVariable] using hvar)).1 hreserved
      · exact (h.2 v hv).2 hreserved
    · have hnodup : ((variablesOf assembly).map (·.name)).Nodup :=
        hsymbols.distinct.sublist (List.filter_sublist.map _)
      rw [List.nodup_iff_pairwise_ne, List.pairwise_map] at hnodup ⊢
      refine hnodup.imp_of_mem fun hv hw hne heq => hne ?_
      rw [nameText_plain (hplain _ hv), nameText_plain (hplain _ hw)] at heq
      exact asciiBytes_inj (hplain _ hv).2 (hplain _ hw).2 heq

/-- The catalog has room for the variables in place of the slot's own, and the publisher is ready, or
there are none before and after. -/
structure HasRoom (s : LoaderState) (slotId : UInt16) (vars : List PlcAssemblySymbol) : Prop where
  fits : s.catalog.size - (slotVariables slotId s.catalog).length + vars.length ≤ kMaxPoints
  ready : s.publisher.ready = true ∨ vars = [] ∧ slotVariables slotId s.catalog = []

theorem room_iff {s : LoaderState} {slotId : UInt16} {vars : List PlcAssemblySymbol}
    (hcount : vars.length ≤ kMaxPoints) :
    Room s slotId (vars.map (variableDefinition s.catalog slotId)) ↔ HasRoom s slotId vars := by
  constructor
  · rintro ⟨⟨-, hfits⟩, hready⟩
    rw [List.length_map] at hfits
    exact ⟨hfits, hready.imp_right fun h => ⟨List.map_eq_nil_iff.mp h.1, h.2⟩⟩
  · rintro ⟨hfits, hready⟩
    rw [← List.length_map (variableDefinition s.catalog slotId)] at hfits hcount
    exact ⟨⟨hcount, hfits⟩, hready.imp_right fun h => ⟨List.map_eq_nil_iff.mpr h.1, h.2⟩⟩

/-- For every program the assembler and the builder accept, and every slot of a firmware with points
in its catalog: the variables become points of their own, apart from the firmware's and from those
of every other slot, exactly if there are no more of them than points and the catalog has room, none
is a string, and their names, as the firmware reads them, are neither empty nor reserved nor twice
the same. -/
theorem variables_bound_iff {platform : Platform} {source : CodeUnits}
    {options : PlcObjectFileOptions}
    {assembly : PlcAssemblyResult} {bytes : List UInt8} {file : Memory} {s : LoaderState}
    {slotId : UInt16} (hassemble : assemble platform source options = .ok assembly)
    (hbuild : build assembly options = .ok bytes) (hfile : bytesAt file 0 bytes.length = bytes)
    (hc : s.catalog.size ≠ 0) (hslot : slotId < kPlcSlotCountV1) :
    Bound s slotId file (variablesOf assembly) ↔
      Portable (variablesOf assembly) ∧ HasRoom s slotId (variablesOf assembly) := by
  have hsymbols := assemble_symbolsOk hassemble
  have hdeclared := @ramDeclared_iff assembly options bytes file hbuild hfile hsymbols s slotId hc
  obtain ⟨records, hrecords, -, -⟩ := build_cases hbuild
  have hshort : ∀ v ∈ variablesOf assembly, (nameText v.name).take 31 = nameText v.name :=
    fun v hv => nameText_length (writeSymbols_name hrecords (List.mem_filter.mp hv).1)
  have hnames : (variablesOf assembly).map (fun v => nameText v.name) =
      ((variablesOf assembly).map fun v => (variableDefinition s.catalog slotId v).id).map
        (·.pointId) := by
    rw [List.map_map]
    exact List.map_congr_left fun v hv => (hshort v hv).symm
  have hreconciled := @reconcile_declares_iff slotId
    (some ∘ (objectImage file).symbols) s (readHeader file).symbolCount hslot
    ((variablesOf assembly).map (variableDefinition s.catalog slotId))
  constructor
  · intro h
    obtain ⟨hlist, hroom⟩ := hreconciled.mp ⟨h.succeeds, h.declared⟩
    obtain ⟨hcount, hbindable⟩ := hdeclared.mp hlist
    refine ⟨⟨hcount, hbindable, ?_⟩, (room_iff hcount).mp hroom⟩
    have hids : (variablesOf assembly).map
        (fun v => (variableDefinition s.catalog slotId v).id) =
        ((variablesOf assembly).map fun v => nameText v.name).map
          (slotVariableIdentity s.catalog slotId) := by
      rw [List.map_map]
      rfl
    exact List.Pairwise.of_map _ (fun a b hne heq => hne (congrArg _ heq)) (hids ▸ h.distinct)
  · rintro ⟨h, hroom⟩
    obtain ⟨hsucceeds, hvariables⟩ :=
      hreconciled.mpr ⟨hdeclared.mpr ⟨h.count, h.bindable⟩, (room_iff h.count).mpr hroom⟩
    refine ⟨hsucceeds, hvariables, ?_, ?_, ?_⟩
    · exact List.Pairwise.of_map _ (fun a b hne heq => hne (congrArg _ heq)) (hnames ▸ h.distinct)
    · intro v hv deviceId slot pointId hpoint heq
      have hname : (nameText v.name).take 31 = pointId := congrArg PointIdentity.pointId heq
      rw [hshort v hv] at hname
      exact (h.bindable v hv).free (hname ▸ slotPointIds_reserved pointId hpoint)
    · intro v _ c other w hother hne heq
      exact hne (slotFeature_inj hother hslot (congrArg PointIdentity.feature heq).symm)

def oneFirmware : LoaderState :=
  { LoaderState.boot with
    catalog := { PointCatalog.empty with
      entries := [freshEntry (defaultDefinition ⟨ascii "soc", slotFeature 0, ascii "loaded"⟩)] } }

/-- A program of one Boolean variable, assembled. -/
def oneVariable (name : CodeUnits) : PlcAssemblyResult where
  codeBytes := []
  symbols := [⟨name, .SlotVar, [], some .Bool, .ReadWrite, false⟩]
  relocations := []

def objectFileOf (assembly : PlcAssemblyResult) : List UInt8 :=
  match build assembly .default with
  | .ok bytes => bytes
  | .error _ => []

theorem build_objectFileOf {assembly : PlcAssemblyResult} (h : objectFileOf assembly ≠ []) :
    build assembly .default = .ok (objectFileOf assembly) := by
  unfold objectFileOf at h ⊢
  cases hbuild : build assembly .default with
  | ok bytes => rfl
  | error e => simp [hbuild] at h

/-- The variable x of a program is bound. -/
theorem variable_bound : Bound oneFirmware 0 (ofBytes (objectFileOf (oneVariable (lit "x"))))
    (variablesOf (oneVariable (lit "x"))) := by
  have hassemble : assemble plainPlatform (lit "VAR BOOL x") .default =
      .ok (oneVariable (lit "x")) := eq_ok_of_toOption (by decide +kernel)
  have hfile : objectFileOf (oneVariable (lit "x")) ≠ [] := by decide +kernel
  have hlength : (objectFileOf (oneVariable (lit "x"))).length < 4294967296 := by decide +kernel
  have hplain : ∀ v ∈ variablesOf (oneVariable (lit "x")), Plain v.name := by
    intro v hv
    obtain rfl := List.mem_singleton.mp hv
    exact ⟨by decide, by decide⟩
  refine (variables_bound_iff hassemble (build_objectFileOf hfile) (bytesAt_ofBytes hlength)
    (by decide) (by decide)).mpr
      ⟨(portable_of_plain (assemble_symbolsOk hassemble) hplain).mpr ?_, ?_⟩
  · exact ⟨by decide, by decide⟩
  · exact ⟨by decide, .inl rfl⟩

/-- The assembler and the builder accept a variable loadEpoch, which the firmware refuses. -/
theorem loadEpoch_unbound :
    assemble plainPlatform (lit "VAR BOOL loadEpoch") .default =
        .ok (oneVariable (lit "loadEpoch")) ∧
      build (oneVariable (lit "loadEpoch")) .default =
        .ok (objectFileOf (oneVariable (lit "loadEpoch"))) ∧
      ¬ Bound oneFirmware 0 (ofBytes (objectFileOf (oneVariable (lit "loadEpoch"))))
        (variablesOf (oneVariable (lit "loadEpoch"))) := by
  have hassemble : assemble plainPlatform (lit "VAR BOOL loadEpoch") .default =
      .ok (oneVariable (lit "loadEpoch")) := eq_ok_of_toOption (by decide +kernel)
  have hfile : objectFileOf (oneVariable (lit "loadEpoch")) ≠ [] := by decide +kernel
  have hlength : (objectFileOf (oneVariable (lit "loadEpoch"))).length < 4294967296 := by
    decide +kernel
  refine ⟨hassemble, build_objectFileOf hfile, fun hbound => ?_⟩
  have hlist := ((reconcile_declares_iff (by decide) _).mp ⟨hbound.succeeds, hbound.declared⟩).1
  have hdeclared := (ramDeclared_iff (build_objectFileOf hfile) (bytesAt_ofBytes hlength)
    (assemble_symbolsOk hassemble) (by decide)).mp hlist
  have hfree := (hdeclared.2 _ (List.mem_singleton.mpr rfl)).free
  exact absurd hfree (by decide)

end NodeNet.Toolchain

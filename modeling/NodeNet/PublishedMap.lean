import NodeNet.CatalogRoundTrip
import NodeNet.Lib.Machine

/-! The runtime map over every sequence of publish calls. -/
namespace NodeNet.Publisher
open NodeNet.Points NodeNet.Catalog NodeNet.Machine

/-- What the runtime map shows of a definition. -/
structure PublishedDefinition where
  id : PointIdentity
  backend : PointBackend
  direction : PointDirection
  valueType : PointValueType
  deriving DecidableEq

def published (d : PointDefinition) : PublishedDefinition :=
  ⟨d.id, d.backend, d.direction, d.valueType⟩

def publishedDefinitions (c : PointCatalog) : List PublishedDefinition :=
  c.definitions.map published

/-- The strings of an identity are C strings in their arrays. -/
structure IdentityFits (id : PointIdentity) : Prop where
  deviceId : IsString 16 id.deviceId
  feature : IsString 32 id.feature
  pointId : IsString 32 id.pointId

/-- What the type of a catalog ensures. -/
structure Sized (c : PointCatalog) : Prop where
  size : c.size ≤ kMaxPoints
  identities : ∀ d ∈ c.definitions, IdentityFits d.id

/-- Catalogs with one definition hash have the same definition bytes. -/
def HashesApart (catalogs : List PointCatalog) : Prop :=
  ∀ c ∈ catalogs, ∀ c' ∈ catalogs, hashCatalogDefinitions c = hashCatalogDefinitions c' →
    c.definitions.flatMap definitionBytes = c'.definitions.flatMap definitionBytes

theorem definitionBytes_length (d : PointDefinition) : (definitionBytes d).length = 83 := by
  simp [definitionBytes, charArray_length]

theorem published_of_bytes {d d' : PointDefinition} (hd : IdentityFits d.id)
    (hd' : IdentityFits d'.id) (h : definitionBytes d = definitionBytes d') :
    published d = published d' := by
  unfold definitionBytes at h
  obtain ⟨hstrings, htypes⟩ := List.append_inj h (by simp [charArray_length])
  obtain ⟨hpair, hpoint⟩ := List.append_inj hstrings (by simp [charArray_length])
  obtain ⟨hdevice, hfeature⟩ := List.append_inj hpair (by simp [charArray_length])
  have htext : ∀ {size t t'}, IsString size t → IsString size t' →
      charArray size t = charArray size t' → t = t' := by
    intro size t t' ht ht' heq
    rw [← takeWhile_charArray ht, heq, takeWhile_charArray ht']
  have hid : d.id = d'.id := by
    have hdevice := htext hd.deviceId hd'.deviceId hdevice
    have hfeature := htext hd.feature hd'.feature hfeature
    have hpoint := htext hd.pointId hd'.pointId hpoint
    cases hdid : d.id
    cases hdid' : d'.id
    simp_all
  simp only [List.cons.injEq, and_true] at htypes
  rw [published, published, hid, PointBackend.toByte_injective htypes.1,
    PointDirection.toByte_injective htypes.2.1, PointValueType.toByte_injective htypes.2.2]

theorem published_of_flatMap {ds ds' : List PointDefinition} (hd : ∀ d ∈ ds, IdentityFits d.id)
    (hd' : ∀ d ∈ ds', IdentityFits d.id)
    (h : ds.flatMap definitionBytes = ds'.flatMap definitionBytes) :
    ds.map published = ds'.map published := by
  induction ds generalizing ds' with
  | nil =>
    cases ds' with
    | nil => rfl
    | cons d' ds' =>
      have hlength := congrArg List.length h
      simp [definitionBytes_length] at hlength
      omega
  | cons d ds ih =>
    cases ds' with
    | nil =>
      have hlength := congrArg List.length h
      simp [definitionBytes_length] at hlength
    | cons d' ds' =>
      rw [List.flatMap_cons, List.flatMap_cons] at h
      obtain ⟨hhead, htail⟩ := List.append_inj h
        ((definitionBytes_length d).trans (definitionBytes_length d').symm)
      rw [List.map_cons, List.map_cons,
        published_of_bytes (hd d List.mem_cons_self) (hd' d' List.mem_cons_self) hhead,
        ih (fun e he => hd e (List.mem_cons_of_mem _ he))
          (fun e he => hd' e (List.mem_cons_of_mem _ he)) htail]

theorem flatMap_of_published {ds ds' : List PointDefinition}
    (h : ds.map published = ds'.map published) :
    ds.flatMap definitionBytes = ds'.flatMap definitionBytes := by
  induction ds generalizing ds' with
  | nil =>
    cases ds' with
    | nil => rfl
    | cons d' ds' => cases h
  | cons d ds ih =>
    cases ds' with
    | nil => cases h
    | cons d' ds' =>
      rw [List.map_cons, List.map_cons, List.cons.injEq] at h
      have hbytes : definitionBytes d = definitionBytes d' := by
        have hsame := h.1
        simp only [published, PublishedDefinition.mk.injEq] at hsame
        simp [definitionBytes, hsame]
      rw [List.flatMap_cons, List.flatMap_cons, hbytes, ih h.2]

theorem hash_eq_iff {catalogs : List PointCatalog} (hapart : HashesApart catalogs)
    {c c' : PointCatalog} (hc : c ∈ catalogs) (hc' : c' ∈ catalogs) (hsized : Sized c)
    (hsized' : Sized c') : hashCatalogDefinitions c = hashCatalogDefinitions c' ↔
      publishedDefinitions c = publishedDefinitions c' := by
  constructor
  · intro h
    exact published_of_flatMap hsized.identities hsized'.identities (hapart c hc c' hc' h)
  · intro h
    rw [hashCatalogDefinitions, hashCatalogDefinitions, flatMap_of_published h]

def publishStep (p : PlcRuntimePublisherV1) (c : PointCatalog) : PlcRuntimePublisherV1 :=
  (p.publish c).getD p

/-- The publisher after the calls so far, as far as the last one tells. -/
structure PublishedAfter (past : List PointCatalog) (p : PlcRuntimePublisherV1) : Prop where
  ready : p.ready = true
  first : past = [] → p.headerWritten = false
  last : ∀ c, past.getLast? = some c → p.headerWritten = true ∧
    p.definitionHash = hashCatalogDefinitions c ∧
    p.descriptors = c.definitions.zipIdx.map descriptorOf

theorem publishedAfter_initial : PublishedAfter [] .initial where
  ready := rfl
  first _ := rfl
  last c h := by cases h

theorem descriptors_of_published {ds ds' : List PointDefinition}
    (h : ds.map published = ds'.map published) (start : Nat) :
    (ds.zipIdx start).map descriptorOf = (ds'.zipIdx start).map descriptorOf := by
  induction ds generalizing ds' start with
  | nil =>
    cases ds' with
    | nil => rfl
    | cons d' ds' => cases h
  | cons d ds ih =>
    cases ds' with
    | nil => cases h
    | cons d' ds' =>
      rw [List.map_cons, List.map_cons, List.cons.injEq] at h
      have hdescriptor : descriptorOf (d, start) = descriptorOf (d', start) := by
        have hsame := h.1
        simp only [published, PublishedDefinition.mk.injEq] at hsame
        simp [descriptorOf, mapFlags, isDynamicSlotVariablePoint, hsame]
      rw [List.zipIdx_cons, List.zipIdx_cons, List.map_cons, List.map_cons, hdescriptor,
        ih h.2 (start + 1)]

/-- One call: the table is that of the catalog, and the epoch moves with what is published. -/
theorem publish_step {past : List PointCatalog} {p : PlcRuntimePublisherV1} {c : PointCatalog}
    (h : PublishedAfter past p) (hapart : HashesApart (past ++ [c]))
    (hsized : ∀ c' ∈ past ++ [c], Sized c') :
    ∃ p', p.publish c = some p' ∧ PublishedAfter (past ++ [c]) p' ∧
      p'.storeEpoch = if past.getLast?.map publishedDefinitions = some (publishedDefinitions c) then
          p.storeEpoch
        else p.storeEpoch + 1 := by
  have hc : c ∈ past ++ [c] := List.mem_append_right _ (List.mem_singleton.mpr rfl)
  have hsizedc := hsized c hc
  have hlast : ∀ c', (past ++ [c]).getLast? = some c' → c' = c := by
    intro c' hc'
    rw [List.getLast?_append, List.getLast?_singleton, Option.some_or, Option.some.injEq] at hc'
    exact hc'.symm
  have htable : (c.definitions.take kMaxPoints).zipIdx.map descriptorOf =
      c.definitions.zipIdx.map descriptorOf := by
    have hlength : c.definitions.length ≤ kMaxPoints := by
      have hsize := hsizedc.size
      simpa [PointCatalog.definitions, PointCatalog.size] using hsize
    rw [List.take_of_length_le hlength]
  cases hdue : p.due c with
  | true =>
    have hpublish : p.publish c = some { p.rebuildDescriptors c with
        definitionHash := hashCatalogDefinitions c
        storeEpoch := p.storeEpoch + 1
        headerWritten := true } := by
      simp [PlcRuntimePublisherV1.publish, h.ready, hdue]
    refine ⟨_, hpublish, ?_, ?_⟩
    · refine ⟨h.ready, fun hnil => absurd hnil (by simp), fun c' hc' => ?_⟩
      rw [hlast c' hc']
      exact ⟨rfl, rfl, htable⟩
    · have hchanged : past.getLast?.map publishedDefinitions ≠ some (publishedDefinitions c) := by
        intro hsame
        obtain ⟨c', hc', hsame⟩ := Option.map_eq_some_iff.mp hsame
        obtain ⟨hwritten, hhash, -⟩ := h.last c' hc'
        have hmem : c' ∈ past ++ [c] := List.mem_append_left _ (List.mem_of_getLast? hc')
        have hequal := (hash_eq_iff hapart hmem hc (hsized c' hmem) hsizedc).mpr hsame
        simp [PlcRuntimePublisherV1.due, hwritten, hhash, hequal] at hdue
      rw [if_neg hchanged]
  | false =>
    refine ⟨p, publish_of_not_due h.ready hdue, ?_⟩
    simp only [PlcRuntimePublisherV1.due, Bool.or_eq_false_iff, Bool.not_eq_false',
      decide_eq_false_iff_not, ne_eq, Decidable.not_not] at hdue
    obtain ⟨hwritten, hhash⟩ := hdue
    have hsome : ∃ c', past.getLast? = some c' := by
      cases hpast : past.getLast? with
      | some c' => exact ⟨c', rfl⟩
      | none =>
        have hunwritten := h.first (List.getLast?_eq_none_iff.mp hpast)
        rw [hwritten] at hunwritten
        cases hunwritten
    obtain ⟨c', hc'⟩ := hsome
    obtain ⟨-, hhash', hdescriptors⟩ := h.last c' hc'
    have hmem : c' ∈ past ++ [c] := List.mem_append_left _ (List.mem_of_getLast? hc')
    have hsame : publishedDefinitions c' = publishedDefinitions c :=
      (hash_eq_iff hapart hmem hc (hsized c' hmem) hsizedc).mp (hhash'.symm.trans hhash.symm)
    refine ⟨⟨h.ready, fun hnil => absurd hnil (by simp), fun c'' hc'' => ?_⟩, ?_⟩
    · rw [hlast c'' hc'']
      exact ⟨hwritten, hhash.symm, hdescriptors.trans (descriptors_of_published hsame 0)⟩
    · rw [hc', Option.map_some, hsame, if_pos rfl]

theorem publishedAfter_run {catalogs : List PointCatalog} (hapart : HashesApart catalogs)
    (hsized : ∀ c ∈ catalogs, Sized c) :
    PublishedAfter catalogs (run publishStep .initial catalogs) := by
  let Inv (past : List PointCatalog) (p : PlcRuntimePublisherV1) : Prop :=
    HashesApart past → (∀ c ∈ past, Sized c) → PublishedAfter past p
  have hstep : ∀ past c, Inv past (run publishStep .initial past) → True →
      Inv (past ++ [c]) (publishStep (run publishStep .initial past) c) := by
    intro past c ih _ hapart hsized
    have hpast : ∀ c' ∈ past, c' ∈ past ++ [c] := fun c' hc' => List.mem_append_left _ hc'
    have hbefore := ih
      (fun c' hc' c'' hc'' => hapart c' (hpast c' hc') c'' (hpast c'' hc''))
      fun c' hc' => hsized c' (hpast c' hc')
    obtain ⟨p', hpublish, hafter, -⟩ := publish_step hbefore hapart hsized
    rw [publishStep, hpublish]
    exact hafter
  have hinitial : Inv [] .initial := fun _ _ => publishedAfter_initial
  exact run_inv_past hstep hinitial (along_true _ catalogs) hapart hsized

def pointStateRecord (index : Nat) : Nat := index * kPlcSharedPointStateStride.toNat

theorem recordOffset_toNat {index : Nat} (h : index < kMaxPoints) :
    (sharedPointStateRecordOffset index).toNat = pointStateRecord index := by
  have hstride : kPlcSharedPointStateStride.toNat = 80 := rfl
  have hmax : kMaxPoints = 1024 := rfl
  rw [sharedPointStateRecordOffset, pointStateRecord, UInt32.toNat_mul, UInt32.toNat_ofNat',
    hstride]
  omega

/-- After a publish call every entry has the record of its own, the table shows the catalog, the
epoch has moved exactly if the published definitions have changed, and no request for an entry of
an unsupported type is resolved. -/
theorem runtime_map_correct {catalogs : List PointCatalog} {c : PointCatalog}
    (hapart : HashesApart (catalogs ++ [c])) (hsized : ∀ c' ∈ catalogs ++ [c], Sized c') :
    let p := run publishStep .initial catalogs
    ∃ p', p.publish c = some p' ∧
      (∀ i < c.size, ∃ index, p'.pointStateIndexForCatalogIndex i = some index ∧
        index.toNat = i ∧
        (p'.pointStateValueOffsetForCatalogIndex i).toNat = pointStateRecord i) ∧
      (∀ i j, i < j → pointStateRecord i + kPlcSharedPointStateStride.toNat ≤ pointStateRecord j) ∧
      p'.descriptors = c.definitions.zipIdx.map descriptorOf ∧
      (∀ request i d, c.findIndex request.pointId = some i → c.definitions[i]? = some d →
        mapValueType d.valueType = .Invalid →
          p'.resolveLinkRequest c request = .error .UnsupportedPointType) ∧
      p'.storeEpoch =
        if catalogs.getLast?.map publishedDefinitions = some (publishedDefinitions c) then
          p.storeEpoch
        else p.storeEpoch + 1 := by
  intro p
  have hpast : ∀ c' ∈ catalogs, c' ∈ catalogs ++ [c] := fun c' hc' => List.mem_append_left _ hc'
  have hbefore : PublishedAfter catalogs p := publishedAfter_run
    (fun c' hc' c'' hc'' => hapart c' (hpast c' hc') c'' (hpast c'' hc''))
    fun c' hc' => hsized c' (hpast c' hc')
  obtain ⟨p', hpublish, hafter, hepoch⟩ := publish_step hbefore hapart hsized
  have hsize := (hsized c (List.mem_append_right _ (List.mem_singleton.mpr rfl))).size
  refine ⟨p', hpublish, fun i hi => ?_, fun i j hij => ?_, ?_, fun request i d hi hd htype => ?_,
    hepoch⟩
  · have hlt : i < kMaxPoints := Nat.lt_of_lt_of_le hi hsize
    have hmax : kMaxPoints = 1024 := rfl
    refine ⟨UInt16.ofNat i, ?_, ?_, ?_⟩
    · simp [PlcRuntimePublisherV1.pointStateIndexForCatalogIndex, hafter.ready, hlt]
    · rw [UInt16.toNat_ofNat']
      omega
    · rw [← recordOffset_toNat hlt]
      simp [PlcRuntimePublisherV1.pointStateValueOffsetForCatalogIndex, hafter.ready,
        Nat.not_le.mpr hlt]
  · have hstride : kPlcSharedPointStateStride.toNat = 80 := rfl
    rw [pointStateRecord, pointStateRecord, hstride]
    omega
  · exact (hafter.last c (by simp)).2.2
  · simp [PlcRuntimePublisherV1.resolveLinkRequest, hi, hd, htype]

def textPoint : PointDefinition :=
  ⟨⟨ascii "io", ascii "di", ascii "name"⟩, [], .Local, .Input, .String, 1000, 3000, 32, 0x3F800000,
    [], 0, List.replicate 80 0⟩

def textCatalog : PointCatalog := (PointCatalog.empty.upsert textPoint).getD .empty

def switchPoint : PointDefinition :=
  { textPoint with id := ⟨ascii "io", ascii "di", ascii "x"⟩, valueType := .Bool }

/-- The text point and a switch. -/
def grownCatalog : PointCatalog := (textCatalog.upsert switchPoint).getD .empty

theorem grown_cases {c : PointCatalog} (h : c ∈ [textCatalog, grownCatalog]) :
    c = textCatalog ∨ c = grownCatalog :=
  (List.mem_cons.mp h).imp_right List.mem_singleton.mp

theorem grownCatalog_sized : ∀ c ∈ [textCatalog, grownCatalog], Sized c := by
  have htexts : IdentityFits textPoint.id ∧ IdentityFits switchPoint.id :=
    ⟨⟨⟨by decide, by decide⟩, ⟨by decide, by decide⟩, ⟨by decide, by decide⟩⟩,
      ⟨⟨by decide, by decide⟩, ⟨by decide, by decide⟩, ⟨by decide, by decide⟩⟩⟩
  have hfirst : textCatalog.definitions = [textPoint] := by decide
  have hsecond : grownCatalog.definitions = [textPoint, switchPoint] := by decide
  intro c hc
  rcases grown_cases hc with rfl | rfl
  · exact ⟨by decide, by simpa [hfirst] using htexts.1⟩
  · exact ⟨by decide, by simpa [hsecond] using htexts⟩

/-- The second catalog has more points than the first, so the epoch moves twice. -/
theorem grownCatalog_published :
    ∃ p', (run publishStep .initial [textCatalog]).publish grownCatalog = some p' ∧
      (∃ index, p'.pointStateIndexForCatalogIndex 1 = some index ∧ index.toNat = 1) ∧
      p'.storeEpoch = 2 := by
  have hhashes : hashCatalogDefinitions textCatalog ≠ hashCatalogDefinitions grownCatalog := by
    decide +kernel
  have hapart : HashesApart ([textCatalog] ++ [grownCatalog]) := by
    intro c hc c' hc' hsame
    rcases grown_cases hc with rfl | rfl <;> rcases grown_cases hc' with rfl | rfl
    · rfl
    · exact absurd hsame hhashes
    · exact absurd hsame.symm hhashes
    · rfl
  obtain ⟨p', hpublish, hindex, -, -, -, hepoch⟩ := runtime_map_correct hapart grownCatalog_sized
  obtain ⟨index, hsome, hnat, -⟩ := hindex 1 (by decide)
  exact ⟨p', hpublish, ⟨index, hsome, hnat⟩, hepoch.trans (by decide +kernel)⟩

/-- A text point has no runtime type, but it has an index. -/
theorem textPoint_indexed :
    let p' := publishStep .initial textCatalog
    textCatalog.definitions = [textPoint] ∧ mapValueType textPoint.valueType = .Invalid ∧
      p'.pointStateIndexForCatalogIndex 0 = some 0 := by
  decide +kernel

end NodeNet.Publisher

import NodeNet.Link.DefsOk

/-! The ESP32's definitions are those of the generation it reports. -/
namespace NodeNet.Link
open NodeNet.Points NodeNet.Catalog NodeNet.Machine

/-- A generation of the catalog in the course of the events, with its definitions. -/
def Published (events : List LinkEvent) (generation : UInt32)
    (definitions : List PointDefinition) : Prop :=
  ∃ n ≤ events.length, (run LinkState.next .start (events.take n)).catalog.defsGeneration =
      generation ∧
    (run LinkState.next .start (events.take n)).catalog.definitions = definitions

theorem Published.concat {events : List LinkEvent} {generation : UInt32}
    {definitions : List PointDefinition} (h : Published events generation definitions)
    (event : LinkEvent) : Published (events ++ [event]) generation definitions := by
  obtain ⟨n, hn, hgeneration, hdefinitions⟩ := h
  refine ⟨n, ?_, ?_, ?_⟩
  · rw [List.length_append]
    omega
  · rw [List.take_append_of_le_length hn, hgeneration]
  · rw [List.take_append_of_le_length hn, hdefinitions]

theorem published_now (events : List LinkEvent) :
    Published events (run LinkState.next .start events).catalog.defsGeneration
      (run LinkState.next .start events).catalog.definitions :=
  ⟨events.length, Nat.le_refl _, by rw [List.take_length], by rw [List.take_length]⟩

theorem run_pipeline {K : Stream} (hK : K.Lawful) (events : List LinkEvent) :
    (run LinkState.next .start events).esp.FlagsOk ∧
      K.PipelineOk (run LinkState.next .start events) := by
  have hstep : ∀ s e, s.esp.FlagsOk ∧ K.PipelineOk s → True →
      (s.next e).esp.FlagsOk ∧ K.PipelineOk (s.next e) :=
    fun s e h _ => ⟨flags_next h.1 e, Stream.pipeline_next hK h.2 h.1 e⟩
  exact run_inv hstep ⟨Esp.start_flags, Stream.start_pipeline K⟩ (along_true _ _)

theorem run_defs {events : List LinkEvent} (h : Along LinkState.next DefsUndisturbed .start events) :
    DefsOk (Published events) (run LinkState.next .start events) := by
  have hstep : ∀ past event, DefsOk (Published past) (run LinkState.next .start past) →
      DefsUndisturbed (run LinkState.next .start past) event →
      DefsOk (Published (past ++ [event])) ((run LinkState.next .start past).next event) := by
    intro past event hdefs hquiet
    obtain ⟨hflags, hpipeline⟩ := run_pipeline defsStream_lawful past
    exact defs_next (hdefs.mono fun g definitions hpast => hpast.concat event) hflags hpipeline
      ((published_now past).concat event) hquiet
  exact @run_inv_past _ _ LinkState.next DefsUndisturbed (fun past => DefsOk (Published past)) .start
    hstep (start_defs _) events h

/-- The records are those of the definitions of the generation that the ESP32 reports. -/
def DefsFromOneGeneration (events : List LinkEvent) : Prop :=
  ∃ n ≤ events.length,
    (run LinkState.next .start (events.take n)).catalog.defsGeneration =
      (run LinkState.next .start events).esp.defsGeneration ∧
    (run LinkState.next .start events).esp.definitionRecords =
      definitionRecords (run LinkState.next .start (events.take n)).catalog.definitions

instance (events : List LinkEvent) : Decidable (DefsFromOneGeneration events) :=
  inferInstanceAs (Decidable (∃ n ≤ _, _ = _ ∧ _ = _))

/-- Where no edit disturbs the loading, a complete snapshot of the definitions is of the
generation reported, and has each of its points once. -/
theorem defs_from_one_generation (events : List LinkEvent)
    (h : Along LinkState.next DefsUndisturbed .start events)
    (hseen : (run LinkState.next .start events).esp.defsResponseSeen = true) :
    DefsFromOneGeneration events := by
  obtain ⟨definitions, ⟨n, hn, hgeneration, hdefinitions⟩, hrecords⟩ := (run_defs h).done hseen
  exact ⟨n, hn, hgeneration, by rw [hrecords, hdefinitions]⟩

def samplePoint (pointId unit : String) : PointDefinition where
  id := ⟨ascii "plc", ascii "inputs", ascii pointId⟩
  displayName := ascii pointId
  backend := .Local
  direction := .Input
  valueType := .Uint16
  refreshMs := 0
  timeoutMs := 0
  stringCapacity := 0
  scale := 0x3F800000
  unit := ascii unit
  enumDef := 0
  ref := List.replicate 16 0

/-- Two points, and the ESP32 has asked for the definitions from the given record on. -/
def twoPointsLoaded : List LinkEvent :=
  [.edit (.upsert (samplePoint "a" "C")), .edit (.upsert (samplePoint "b" "C")), .poll false, .take,
    .respond 0, .poll false]

def defsRoundTrip : List LinkEvent := [.poll false, .take, .respond 0, .poll false]

def editedBetweenChunks : List LinkEvent :=
  twoPointsLoaded ++ defsRoundTrip ++ [.edit (.upsert (samplePoint "b" "F"))] ++ defsRoundTrip

/-- The two chunks of an undisturbed snapshot. -/
theorem undisturbed_fromOneGeneration :
    (run LinkState.next .start
      (twoPointsLoaded ++ defsRoundTrip ++ defsRoundTrip)).esp.defsResponseSeen
      = true ∧ DefsFromOneGeneration (twoPointsLoaded ++ defsRoundTrip ++ defsRoundTrip) :=
  ⟨by decide +kernel, defs_from_one_generation _ (by decide +kernel) (by decide +kernel)⟩

/-- The two chunks are of two generations, and the ESP32 reports the first. -/
theorem editedBetweenChunks_mixed :
    (run LinkState.next .start editedBetweenChunks).esp.defsResponseSeen = true ∧
      ¬DefsFromOneGeneration editedBetweenChunks := by
  decide +kernel

/-! The ESP32 hears of no generation that is not yet, and its definitions of the present one are
those of the catalog. -/

def SameGeneration (c c' : PointCatalog) : Prop :=
  c'.defsGeneration = c.defsGeneration ∧ c'.definitions = c.definitions

theorem markStateDirty_generation (c : PointCatalog) (index : Nat) :
    (c.markStateDirty index).defsGeneration = c.defsGeneration := by
  rw [PointCatalog.markStateDirty]
  split
  · rfl
  · dsimp only
    split <;> rfl

theorem stored_generation (c : PointCatalog) (index : Nat) (state : PointState) :
    (c.stored index state).defsGeneration = c.defsGeneration := by
  rw [PointCatalog.stored, markStateDirty_generation]
  rfl

theorem updateState_generation (c : PointCatalog) (id : PointIdentity) (state : PointState) :
    ((c.updateState id state).getD c).defsGeneration = c.defsGeneration := by
  rw [PointCatalog.updateState]
  split
  · rfl
  · split
    · rfl
    · split
      · rfl
      · exact markStateDirty_generation _ _

theorem dropDirty_generation (c : PointCatalog) :
    (dropDirty c).defsGeneration = c.defsGeneration := by
  rw [dropDirty, PointCatalog.popDirtyStateIndex]
  split <;> rfl

theorem pumpUpdates_generation (p : ResolvePointState) (c : PointCatalog) :
    (pumpUpdates p c).2.defsGeneration = c.defsGeneration ∧
      ∀ f, (pumpUpdates p c).1 = some f → f.generation = c.defsGeneration := by
  rw [pumpUpdates]
  split
  · exact ⟨rfl, fun f hf => by cases hf; rfl⟩
  · split
    · exact ⟨rfl, fun f hf => by cases hf⟩
    · split
      · exact ⟨dropDirty_generation c, fun f hf => by cases hf⟩
      · exact ⟨dropDirty_generation c, fun f hf => by cases hf; rfl⟩

theorem service_generation (p : ResolvePointState) (c : PointCatalog) (writeStatus : UInt8)
    (r : Request) : SameGeneration c (service p c writeStatus r).2 ∧
      ((service p c writeStatus r).1.generation = c.defsGeneration ∨
        (service p c writeStatus r).1.generation = 0) ∧
      ∀ m n g q, (service p c writeStatus r).1.payload = .caps m n g q → g = c.defsGeneration := by
  cases r with
  | getCaps =>
    refine ⟨⟨rfl, rfl⟩, .inl rfl, fun m n g q h => ?_⟩
    cases h
    rfl
  | getDefsSnapshot resumeOffset maxChunkPayload requestedGeneration =>
    exact ⟨⟨rfl, rfl⟩, .inl rfl, fun m n g q h => by cases h⟩
  | getStatesSnapshot startIndex maxRecords includeStrings =>
    refine ⟨?_, .inl rfl, fun m n g q h => by cases h⟩
    rw [service]
    dsimp only
    split
    · exact ⟨rfl, rfl⟩
    · exact ⟨rfl, rfl⟩
  | writeState pointIndex expectedValueType valueBits =>
    refine ⟨⟨rfl, rfl⟩, ?_⟩
    rw [service, writeStateResponse]
    dsimp only
    split
    · exact ⟨.inr rfl, fun m n g q h => by cases h⟩
    · split
      · exact ⟨.inr rfl, fun m n g q h => by cases h⟩
      · exact ⟨.inl rfl, fun m n g q h => by cases h⟩

theorem poll_catalog (s : LinkState) (timedOut : Bool) : (s.poll timedOut).catalog = s.catalog := by
  rw [LinkState.poll]
  generalize s.esp.pollAction _ _ _ = action
  cases action with
  | read as =>
    rw [LinkState.polled]
    split <;> rfl
  | _ => rfl

theorem next_sameGeneration (s : LinkState) {event : LinkEvent} (h : ∀ e, event ≠ .edit e) :
    SameGeneration s.catalog (s.next event).catalog := by
  cases event with
  | edit e => exact absurd rfl (h e)
  | update id state =>
    exact ⟨updateState_generation _ _ _, updateState_getD_definitions _ _ _⟩
  | store index state => exact ⟨stored_generation _ _ _, stored_definitions _ _ _⟩
  | requestFullSync => exact ⟨rfl, rfl⟩
  | runtime resolvePointState => exact ⟨rfl, rfl⟩
  | take =>
    rw [LinkState.next, LinkState.take]
    split
    · exact ⟨rfl, rfl⟩
    · exact ⟨rfl, rfl⟩
  | respond writeStatus =>
    rw [LinkState.next, LinkState.respond]
    split
    · exact ⟨rfl, rfl⟩
    · exact (service_generation _ _ _ _).1
  | pump =>
    rw [LinkState.next, LinkState.pump]
    split
    · exact ⟨(pumpUpdates_generation _ _).1, (pumpUpdates_cases _ _).1⟩
    · exact ⟨rfl, rfl⟩
  | poll timedOut =>
    rw [LinkState.next, poll_catalog]
    exact ⟨rfl, rfl⟩
  | askRefresh =>
    rw [LinkState.next]
    split
    · exact ⟨rfl, rfl⟩
    · exact ⟨rfl, rfl⟩
  | askWrite pointIndex expectedValueType valueBits =>
    rw [LinkState.next]
    split
    · exact ⟨rfl, rfl⟩
    · exact ⟨rfl, rfl⟩

namespace Esp

theorem processStateUpdateFrame_generation (s : Esp) (generation statesSequence : UInt32)
    (records : List StateRecord) :
    (s.processStateUpdateFrame generation statesSequence records).defsGeneration =
        s.defsGeneration ∨
      (s.processStateUpdateFrame generation statesSequence records).defsGeneration =
        generation := by
  rw [processStateUpdateFrame]
  split
  · split
    · exact .inl rfl
    · exact .inr rfl
  · dsimp only
    split <;> exact .inl rfl

/-- The generation that the ESP32 goes by is its own or one that the frame names. -/
theorem readResponse_generation (s : Esp) (f : Frame) (as : ReadAs) :
    (s.readResponse f as).defsGeneration = s.defsGeneration ∨
      (s.readResponse f as).defsGeneration = f.generation ∨
      ∃ m n g q, f.payload = .caps m n g q ∧ (s.readResponse f as).defsGeneration = g := by
  have hupdate (s : Esp) (q : UInt32) (records : List StateRecord) :=
    processStateUpdateFrame_generation s f.generation q records
  cases as with
  | writeState =>
    rw [readResponse]
    cases f.payload with
    | statesUpdates q records => exact (hupdate _ q records).imp_right .inl
    | _ => exact .inl rfl
  | unsolicited =>
    rw [readResponse, handleUnsolicitedResponse]
    split
    · exact .inr (.inl rfl)
    · cases f.payload with
      | statesUpdates q records => exact (hupdate _ q records).imp_right .inl
      | _ => exact .inl rfl
  | caps =>
    rw [readResponse]
    cases hf : f.payload with
    | caps m n g q => exact .inr (.inr ⟨m, n, g, q, rfl, rfl⟩)
    | _ => exact .inl rfl
  | defs =>
    rw [readResponse]
    cases f.payload with
    | defsSnapshot chunk records =>
      obtain ⟨cached, total, hstored⟩ :=
        storeDefsChunk_eq { s with defsRequestSent := false } chunk records
      left
      dsimp only
      rw [defsChunkSeen, hstored]
    | statesUpdates q records => exact (hupdate _ q records).imp_right .inl
    | _ => exact .inl rfl
  | states =>
    rw [readResponse]
    cases f.payload with
    | statesSnapshot chunk records =>
      obtain ⟨cached, sequence, place, seen, view, published, hseen⟩ :=
        statesChunkSeen_eq s chunk records
      left
      dsimp only
      rw [hseen]
    | statesUpdates q records => exact (hupdate _ q records).imp_right .inl
    | _ => exact .inl rfl

end Esp

theorem sendDefs_generation (s : Esp) :
    s.sendDefsSnapshotRequest.1.defsGeneration = s.defsGeneration := by
  rw [Esp.sendDefsSnapshotRequest]
  split <;> rfl

/-- No generation is heard of before the catalog has it. -/
structure GenerationsOk (s : LinkState) : Prop where
  esp : s.esp.defsGeneration ≤ s.catalog.defsGeneration
  frame : ∀ f, s.response = some f → f.generation ≤ s.catalog.defsGeneration
  caps : ∀ f m n g q, s.response = some f → f.payload = .caps m n g q →
    g ≤ s.catalog.defsGeneration

theorem start_generations : GenerationsOk .start where
  esp := by decide
  frame f h := by cases h
  caps f m n g q h := by cases h

/-- The edit does not make the generation come round to 0. -/
def GenerationLasts (s : LinkState) : LinkEvent → Prop
  | .edit e => (s.catalog.edited e).defsGeneration = s.catalog.defsGeneration ∨
      s.catalog.defsGeneration ≠ 0xFFFFFFFF
  | _ => True

variable {s : LinkState}

theorem edited_generation {e : CatalogEdit} (h : GenerationLasts s (.edit e)) :
    s.catalog.edited e = s.catalog ∨
      s.catalog.defsGeneration < (s.catalog.edited e).defsGeneration := by
  obtain hsame | ⟨hnext, -⟩ := edited_cases s.catalog e
  · exact .inl hsame
  · obtain hkept | hroom := h
    · exact .inl (edited_eq_of_generation hkept)
    · right
      have hlt := s.catalog.defsGeneration.toNat_lt
      have hmax : s.catalog.defsGeneration.toNat ≠ 2 ^ 32 - 1 :=
        fun heq => hroom (UInt32.toNat_inj.mp heq)
      have hone : (1 : UInt32).toNat = 1 := rfl
      rw [hnext, UInt32.lt_iff_toNat_lt, UInt32.toNat_add]
      omega

namespace GenerationsOk

theorem same (h : GenerationsOk s) {s' : LinkState}
    (hesp : s'.esp.defsGeneration = s.esp.defsGeneration) (hresponse : s'.response = s.response)
    (hcatalog : s.catalog.defsGeneration ≤ s'.catalog.defsGeneration) : GenerationsOk s' where
  esp := by
    rw [hesp]
    exact UInt32.le_trans h.esp hcatalog
  frame f hf := UInt32.le_trans (h.frame f (hresponse.symm.trans hf)) hcatalog
  caps f m n g q hf hp := UInt32.le_trans (h.caps f m n g q (hresponse.symm.trans hf) hp) hcatalog

theorem heard {s' : LinkState} (hesp : s'.esp.defsGeneration ≤ s'.catalog.defsGeneration)
    (hresponse : s'.response = none) : GenerationsOk s' where
  esp := hesp
  frame f hf := by cases hresponse.symm.trans hf
  caps f m n g q hf := by cases hresponse.symm.trans hf

theorem poll (h : GenerationsOk s) (timedOut : Bool) : GenerationsOk (s.poll timedOut) := by
  rw [LinkState.poll]
  generalize s.esp.pollAction _ _ _ = action
  cases action with
  | nothing => exact h
  | drain => exact heard (UInt32.zero_le ..) rfl
  | resetMailbox => exact heard (UInt32.zero_le ..) rfl
  | capsTimeout => exact heard (UInt32.zero_le ..) rfl
  | sendCaps => exact h.same rfl rfl (UInt32.le_refl _)
  | sendDefs => exact h.same (sendDefs_generation _) rfl (UInt32.le_refl _)
  | sendStates => exact h.same (sendStates_sameDefs _ _).generation rfl (UInt32.le_refl _)
  | refresh => exact h.same (refreshStates_sameDefs _).generation rfl (UInt32.le_refl _)
  | sendWriteState => exact h.same rfl rfl (UInt32.le_refl _)
  | read as =>
    rw [LinkState.polled]
    cases hf : s.response with
    | none => exact h
    | some f =>
      apply heard _ rfl
      change (s.esp.readResponse f as).defsGeneration ≤ s.catalog.defsGeneration
      obtain hsame | hframe | ⟨m, n, g, q, hpayload, hcaps⟩ := s.esp.readResponse_generation f as
      · rw [hsame]
        exact h.esp
      · rw [hframe]
        exact h.frame f hf
      · rw [hcaps]
        exact h.caps f m n g q hf hpayload

theorem responded (h : GenerationsOk s) {c : PointCatalog}
    (hcatalog : c.defsGeneration = s.catalog.defsGeneration) (serving : Option Request) {f : Frame}
    (hframe : f.generation ≤ s.catalog.defsGeneration)
    (hcaps : ∀ m n g q, f.payload = .caps m n g q → g ≤ s.catalog.defsGeneration) :
    GenerationsOk { s with catalog := c, serving := serving, response := some f } where
  esp := by
    rw [hcatalog]
    exact h.esp
  frame f' hf := by
    cases hf
    rw [hcatalog]
    exact hframe
  caps f' m n g q hf hp := by
    cases hf
    rw [hcatalog]
    exact hcaps m n g q hp

theorem respond (h : GenerationsOk s) (writeStatus : UInt8) :
    GenerationsOk (s.respond writeStatus) := by
  rw [LinkState.respond]
  split
  · exact h
  · rename_i r hr
    obtain ⟨hsame, hframe, hcaps⟩ := service_generation s.resolvePointState s.catalog writeStatus r
    refine h.responded hsame.1 none ?_ fun m n g q hp => UInt32.le_of_eq (hcaps m n g q hp)
    obtain hframe | hframe := hframe
    · exact UInt32.le_of_eq hframe
    · exact UInt32.le_trans (UInt32.le_of_eq hframe) (UInt32.zero_le ..)

theorem pump (h : GenerationsOk s) : GenerationsOk s.pump := by
  rw [LinkState.pump]
  split
  · rename_i hempty
    obtain ⟨hcatalog, hframe⟩ := pumpUpdates_generation s.resolvePointState s.catalog
    obtain ⟨-, hupdate⟩ := pumpUpdates_cases s.resolvePointState s.catalog
    cases hf : (pumpUpdates s.resolvePointState s.catalog).1 with
    | none => exact h.same rfl (hf.trans hempty.2.2.symm) (UInt32.le_of_eq hcatalog.symm)
    | some f =>
      obtain ⟨q, records, hpayload⟩ := hupdate f hf
      have hresponded := h.responded hcatalog s.serving (UInt32.le_of_eq (hframe f hf))
        fun m n g q hcaps => by cases hpayload.symm.trans hcaps
      rw [← hf] at hresponded
      exact hresponded
  · exact h

theorem next (h : GenerationsOk s) {event : LinkEvent} (hlasts : GenerationLasts s event) :
    GenerationsOk (s.next event) := by
  cases event with
  | edit e =>
    refine h.same rfl rfl ?_
    obtain hsame | hlater := edited_generation hlasts
    · rw [LinkState.next, hsame]
      exact UInt32.le_refl _
    · exact UInt32.le_of_lt hlater
  | update id state => exact h.same rfl rfl (UInt32.le_of_eq (updateState_generation _ _ _).symm)
  | store index state => exact h.same rfl rfl (UInt32.le_of_eq (stored_generation _ _ _).symm)
  | requestFullSync => exact h.same rfl rfl (UInt32.le_refl _)
  | runtime resolvePointState => exact h.same rfl rfl (UInt32.le_refl _)
  | take =>
    rw [LinkState.next, LinkState.take]
    split
    · exact h.same rfl rfl (UInt32.le_refl _)
    · exact h
  | respond writeStatus => exact h.respond writeStatus
  | pump => exact h.pump
  | poll timedOut => exact h.poll timedOut
  | askRefresh =>
    rw [LinkState.next]
    split
    · exact h.same rfl rfl (UInt32.le_refl _)
    · exact h
  | askWrite pointIndex expectedValueType valueBits =>
    rw [LinkState.next]
    split
    · exact h.same rfl rfl (UInt32.le_refl _)
    · exact h

end GenerationsOk

/-- What the ESP32 has of the present generation, or loads of it, is what the catalog has. -/
def Fresh (s : LinkState) : Prop :=
  s.esp.defsGeneration = s.catalog.defsGeneration →
    DefsOk (fun g definitions => g = s.catalog.defsGeneration → definitions = s.catalog.definitions)
      s

variable {past : UInt32 → List PointDefinition → Prop}

theorem defsOk_of_resync {esp : Esp} {g : UInt32} (h : esp.defsGeneration ≠ g)
    (request : Option Request) :
    DefsOk past { s with esp := esp.beginFullResync g, request := request, response := none } where
  done hseen := by
    have hkeeps : esp.keepsDefs g = true := hseen
    simp only [Esp.keepsDefs, Bool.and_eq_true, decide_eq_true_eq] at hkeeps
    exact absurd hkeeps.1.2.symm h
  loading hcaps := by cases hcaps
  caps _ f _ _ _ _ hf := by cases hf

theorem defsOk_of_capsSeen {m n : Nat} {g q : UInt32} (h : s.esp.defsGeneration ≠ g)
    (hpast : past g s.catalog.definitions) :
    DefsOk past { s with esp := s.esp.capsSeen m n g q, response := none } := by
  have hnot : s.esp.preservesDefs g = false := by
    simp [Esp.preservesDefs, h.symm]
  refine ⟨fun hseen => ?_, fun _ _ => ?_, fun _ f _ _ _ _ hf => by cases hf⟩
  · cases hnot.symm.trans hseen
  · refine ⟨s.catalog.definitions, 0, hpast, ⟨?_, Nat.zero_le _, fun hfirst => (by cases hfirst),
      fun hfirst => (by cases hfirst), rfl⟩, .inr rfl, fun f _ _ hf => (by cases hf)⟩
    change (if s.esp.preservesDefs g then s.esp.nextDefsOffset else 0) = _
    rw [hnot, Nat.zero_mul]
    rfl

/-- The ESP32 takes up the present generation with nothing of an older one. -/
theorem fresh_poll_of_ne (h : s.esp.defsGeneration ≠ s.catalog.defsGeneration) (timedOut : Bool) :
    Fresh (s.poll timedOut) := by
  rw [LinkState.poll]
  generalize s.esp.pollAction _ _ _ = action
  have hkept {s' : LinkState} (hesp : s'.esp.defsGeneration = s.esp.defsGeneration)
      (hcatalog : s'.catalog = s.catalog) : Fresh s' := by
    intro heq
    rw [hesp, hcatalog] at heq
    exact absurd heq h
  have hresync (esp : Esp) (hesp : esp.defsGeneration = s.esp.defsGeneration) (g : UInt32)
      (request : Option Request) :
      Fresh { s with esp := esp.beginFullResync g, request := request, response := none } := by
    intro heq
    have heq : g = s.catalog.defsGeneration := heq
    exact defsOk_of_resync (by rw [hesp, heq]; exact h) request
  cases action with
  | nothing => exact hkept rfl rfl
  | drain => exact hresync s.esp rfl 0 s.request
  | resetMailbox => exact hresync s.esp rfl 0 none
  | capsTimeout => exact hresync s.esp rfl 0 none
  | sendCaps => exact hkept rfl rfl
  | sendDefs => exact hkept (sendDefs_generation _) rfl
  | sendStates => exact hkept (sendStates_sameDefs _ _).generation rfl
  | refresh => exact hkept (refreshStates_sameDefs _).generation rfl
  | sendWriteState => exact hkept rfl rfl
  | read as =>
    rw [LinkState.polled]
    cases hf : s.response with
    | none => exact hkept rfl rfl
    | some f =>
      have hreads := s.esp.readResponse_reads f as
      change Fresh { s with esp := s.esp.readResponse f as, response := none }
      generalize s.esp.readResponse f as = next at hreads ⊢
      cases hreads with
      | absorbs sequence keepsWrite hquiet => exact hkept rfl rfl
      | resyncs records sequence keepsWrite g =>
        exact hresync (s.esp.touched records sequence keepsWrite) rfl g s.request
      | caps m n g q has hpayload =>
        intro heq
        have heq : g = s.catalog.defsGeneration := heq
        exact defsOk_of_capsSeen (by rw [heq]; exact h) fun _ => rfl
      | defs chunk records has hpayload =>
        refine hkept ?_ rfl
        obtain ⟨cached, total, hstored⟩ :=
          Esp.storeDefsChunk_eq { s.esp with defsRequestSent := false } chunk records
        change (s.esp.defsChunkSeen chunk records).defsGeneration = _
        rw [Esp.defsChunkSeen, hstored]
      | states chunk records has hpayload =>
        exact hkept (statesChunkSeen_sameDefs _ _ _).generation rfl

theorem next_esp_generation {event : LinkEvent} (h : ∀ timedOut, event ≠ .poll timedOut) :
    (s.next event).esp.defsGeneration = s.esp.defsGeneration := by
  cases event with
  | poll timedOut => exact absurd rfl (h timedOut)
  | take =>
    rw [LinkState.next, LinkState.take]
    split <;> rfl
  | respond writeStatus =>
    rw [LinkState.next, LinkState.respond]
    split <;> rfl
  | pump =>
    rw [LinkState.next, LinkState.pump]
    split <;> rfl
  | askRefresh =>
    rw [LinkState.next]
    split <;> rfl
  | askWrite pointIndex expectedValueType valueBits =>
    rw [LinkState.next]
    split <;> rfl
  | _ => rfl

theorem Fresh.next (h : Fresh s) (hok : GenerationsOk s) (hflags : s.esp.FlagsOk)
    (hpipeline : defsStream.PipelineOk s) {event : LinkEvent}
    (hlasts : GenerationLasts s event) : Fresh (s.next event) := by
  by_cases hedit : ∃ e, event = .edit e
  · obtain ⟨e, rfl⟩ := hedit
    obtain hsame | hlater := edited_generation hlasts
    · rw [LinkState.next, hsame]
      exact h
    · intro heq
      have heq : s.esp.defsGeneration = (s.catalog.edited e).defsGeneration := heq
      have hle := hok.esp
      rw [heq] at hle
      exact absurd hlater (UInt32.not_lt.mpr hle)
  · have hnot : ∀ e, event ≠ .edit e := fun e he => hedit ⟨e, he⟩
    obtain ⟨hgeneration, hdefinitions⟩ := next_sameGeneration s hnot
    by_cases hcurrent : s.esp.defsGeneration = s.catalog.defsGeneration
    · intro _
      rw [hgeneration, hdefinitions]
      have hquiet : DefsUndisturbed s event := by
        cases event with
        | edit e => exact absurd rfl (hnot e)
        | _ => trivial
      exact defs_next (h hcurrent) hflags hpipeline (fun _ => rfl) hquiet
    · by_cases hpoll : ∃ timedOut, event = .poll timedOut
      · obtain ⟨timedOut, rfl⟩ := hpoll
        exact fresh_poll_of_ne hcurrent timedOut
      · intro heq
        rw [next_esp_generation fun timedOut he => hpoll ⟨timedOut, he⟩, hgeneration] at heq
        exact absurd heq hcurrent

end NodeNet.Link

import NodeNet.Link.DefsChunks

/-! What is loaded of the definitions, and under way, is of one generation of the catalog. -/
namespace NodeNet.Link
open NodeNet.Points NodeNet.Catalog

def isLastDefsChunk : Payload → Bool
  | .defsSnapshot chunk _ => !chunk.more
  | _ => false

/-- Caps that do not keep the definitions are under way. -/
def startsDefs (s : Esp) : Payload → Bool
  | .caps _ _ defsGeneration _ => !s.preservesDefs defsGeneration
  | _ => false

/-- The ESP32 loads the definitions, or is about to, and the last chunk is not under way. -/
def LinkState.loadsDefs (s : LinkState) : Bool :=
  if s.esp.capsResponseSeen then
    !s.esp.defsResponseSeen && !(s.response.any fun f => isLastDefsChunk f.payload)
  else s.response.any fun f => startsDefs s.esp f.payload

/-- No edit makes a new generation while the ESP32 loads the definitions. -/
def DefsUndisturbed (s : LinkState) : LinkEvent → Prop
  | .edit e => s.loadsDefs = true → (s.catalog.edited e).defsGeneration = s.catalog.defsGeneration
  | _ => True

instance DefsUndisturbed.decidable : ∀ s event, Decidable (DefsUndisturbed s event)
  | s, .edit e => inferInstanceAs (Decidable (s.loadsDefs = true →
      (s.catalog.edited e).defsGeneration = s.catalog.defsGeneration))
  | _, .update _ _ | _, .store _ _ | _, .requestFullSync | _, .runtime _ | _, .take | _, .respond _
  | _, .pump | _, .poll _ | _, .askRefresh | _, .askWrite _ _ _ => .isTrue trivial

/-- The records and the flags of the definitions are as they were. -/
structure SameDefs (s s' : Esp) : Prop where
  caps : s'.capsResponseSeen = s.capsResponseSeen
  seen : s'.defsResponseSeen = s.defsResponseSeen
  preserve : s'.preserveDefsOnResync = s.preserveDefsOnResync
  generation : s'.defsGeneration = s.defsGeneration
  records : s'.definitionRecords = s.definitionRecords
  place : s'.nextDefsOffset = s.nextDefsOffset
  total : s'.defsTotalBytes = s.defsTotalBytes

theorem SameDefs.loaded {s s' : Esp} (h : SameDefs s s') {definitions : List PointDefinition}
    {first : Nat} (hloaded : Loaded definitions first s) : Loaded definitions first s' where
  place := h.place.trans hloaded.place
  bound := hloaded.bound
  count hfirst := by rw [h.records, hloaded.count hfirst]
  total hfirst := h.total.trans (hloaded.total hfirst)
  records := by rw [h.records, hloaded.records]

/-- What is loaded, or under way to be, is of one generation. -/
structure DefsOk (past : UInt32 → List PointDefinition → Prop) (s : LinkState) : Prop where
  done : s.esp.defsResponseSeen = true → ∃ definitions,
    past s.esp.defsGeneration definitions ∧ s.esp.definitionRecords = definitionRecords definitions
  loading : s.esp.capsResponseSeen = true → s.esp.defsResponseSeen = false → ∃ definitions first,
    past s.esp.defsGeneration definitions ∧ Loaded definitions first s.esp ∧
      (s.response.any (fun f => isLastDefsChunk f.payload) = true ∨
        s.catalog.definitions = definitions) ∧
      ∀ f chunk records, s.response = some f → f.payload = .defsSnapshot chunk records →
        ChunkOf definitions first chunk records
  caps : s.esp.capsResponseSeen = false → ∀ f m n g q, s.response = some f →
    f.payload = .caps m n g q → s.esp.preservesDefs g = false → past g s.catalog.definitions

theorem start_defs (past : UInt32 → List PointDefinition → Prop) : DefsOk past .start where
  done h := by cases h
  loading h := by cases h
  caps _ f _ _ _ _ h := by cases h

variable {past : UInt32 → List PointDefinition → Prop} {s : LinkState}

theorem DefsOk.mono {past' : UInt32 → List PointDefinition → Prop}
    (hpast : ∀ g definitions, past g definitions → past' g definitions) (h : DefsOk past s) :
    DefsOk past' s where
  done hseen := by
    obtain ⟨definitions, hdefs, hrecords⟩ := h.done hseen
    exact ⟨definitions, hpast _ _ hdefs, hrecords⟩
  loading hcaps hseen := by
    obtain ⟨definitions, first, hdefs, hrest⟩ := h.loading hcaps hseen
    exact ⟨definitions, first, hpast _ _ hdefs, hrest⟩
  caps hcaps f m n g q hf hpayload hpreserve :=
    hpast _ _ (h.caps hcaps f m n g q hf hpayload hpreserve)

theorem DefsOk.same (h : DefsOk past s) {s' : LinkState} (hsame : SameDefs s.esp s'.esp)
    (hresponse : s'.response = s.response)
    (hdefinitions : s'.catalog.definitions = s.catalog.definitions) : DefsOk past s' where
  done hseen := by
    rw [hsame.generation, hsame.records]
    exact h.done (hsame.seen.symm.trans hseen)
  loading hcaps hseen := by
    obtain ⟨definitions, first, hdefs, hloaded, hrest⟩ :=
      h.loading (hsame.caps.symm.trans hcaps) (hsame.seen.symm.trans hseen)
    rw [← hsame.generation, ← hresponse, ← hdefinitions] at *
    exact ⟨definitions, first, hdefs, hsame.loaded hloaded, hrest⟩
  caps hcaps f m n g q hf hpayload hpreserve := by
    rw [hdefinitions]
    refine h.caps (hsame.caps.symm.trans hcaps) f m n g q (hresponse.symm.trans hf) hpayload ?_
    simpa only [Esp.preservesDefs, hsame.preserve, hsame.seen, hsame.generation] using hpreserve

theorem DefsOk.dropped (h : DefsOk past s) (esp : Esp) (hsame : SameDefs s.esp esp)
    (hquiet : s.esp.capsResponseSeen = true → s.esp.defsResponseSeen = false →
      defsStream.brings s.response = false) :
    DefsOk past { s with esp := esp, response := none } where
  done hseen := by
    rw [hsame.generation, hsame.records]
    exact h.done (hsame.seen.symm.trans hseen)
  loading hcaps hseen := by
    have hcaps' := hsame.caps.symm.trans hcaps
    have hseen' := hsame.seen.symm.trans hseen
    obtain ⟨definitions, first, hdefs, hloaded, hcurrent, -⟩ := h.loading hcaps' hseen'
    refine ⟨definitions, first, by rw [hsame.generation]; exact hdefs, hsame.loaded hloaded,
      .inr (hcurrent.resolve_left fun hlast => ?_), fun f _ _ hf => (by cases hf)⟩
    have hbrings := hquiet hcaps' hseen'
    cases hf : s.response with
    | none =>
      rw [hf] at hlast
      cases hlast
    | some f =>
      rw [hf] at hlast hbrings
      have hlast : isLastDefsChunk f.payload = true := hlast
      have hbrings : defsStream.answers f.payload = false := hbrings
      cases hpayload : f.payload with
      | defsSnapshot chunk records =>
        rw [hpayload] at hbrings
        cases hbrings
      | _ =>
        rw [hpayload] at hlast
        cases hlast
  caps _ f _ _ _ _ hf := by cases hf

theorem DefsOk.resync (h : DefsOk past s) {esp : Esp} (hsame : SameDefs s.esp esp) (g : UInt32)
    (request : Option Request) :
    DefsOk past { s with esp := esp.beginFullResync g, request := request, response := none } where
  done hseen := by
    have hkeeps : esp.keepsDefs g = true := hseen
    have hkept := hkeeps
    simp only [Esp.keepsDefs, Bool.and_eq_true, decide_eq_true_eq] at hkept
    obtain ⟨definitions, hdefs, hrecords⟩ := h.done (hsame.seen.symm.trans hkept.2)
    refine ⟨definitions, ?_, ?_⟩
    · change past g definitions
      rw [hkept.1.2, hsame.generation]
      exact hdefs
    · change (if esp.keepsDefs g then esp.definitionRecords else []) = _
      rw [if_pos hkeeps, hsame.records, hrecords]
  loading hcaps := by cases hcaps
  caps _ f _ _ _ _ hf := by cases hf

theorem DefsOk.capsSeen (h : DefsOk past s) (hnone : s.esp.capsResponseSeen = false) {f : Frame}
    (hf : s.response = some f) {m n : Nat} {g q : UInt32} (hpayload : f.payload = .caps m n g q) :
    DefsOk past { s with esp := s.esp.capsSeen m n g q, response := none } where
  done hseen := by
    have hkeeps : s.esp.preservesDefs g = true := hseen
    have hkept := hkeeps
    simp only [Esp.preservesDefs, Bool.and_eq_true, decide_eq_true_eq] at hkept
    obtain ⟨definitions, hdefs, hrecords⟩ := h.done hkept.1.2
    refine ⟨definitions, ?_, ?_⟩
    · change past g definitions
      rw [hkept.2]
      exact hdefs
    · change (if s.esp.preservesDefs g then s.esp.definitionRecords else []) = _
      rw [if_pos hkeeps, hrecords]
  loading _ hseen := by
    have hkeeps : s.esp.preservesDefs g = false := hseen
    refine ⟨s.catalog.definitions, 0, h.caps hnone f m n g q hf hpayload hkeeps, ⟨?_, Nat.zero_le _,
      fun hfirst => (by cases hfirst), fun hfirst => (by cases hfirst), rfl⟩, .inr rfl,
      fun f _ _ hf => (by cases hf)⟩
    change (if s.esp.preservesDefs g then s.esp.nextDefsOffset else 0) = _
    rw [hkeeps, Nat.zero_mul]
    rfl
  caps _ f _ _ _ _ hf := by cases hf

theorem DefsOk.defsChunkSeen (h : DefsOk past s) (hcaps : s.esp.capsResponseSeen = true)
    (hnone : s.esp.defsResponseSeen = false) {f : Frame} (hf : s.response = some f)
    {chunk : DefsSnapshotChunkPrefix} {records : List DefinitionRecord}
    (hpayload : f.payload = .defsSnapshot chunk records) :
    DefsOk past { s with esp := s.esp.defsChunkSeen chunk records, response := none } := by
  obtain ⟨definitions, first, hdefs, hloaded, hcurrent, hchunks⟩ := h.loading hcaps hnone
  have hchunk := hchunks f chunk records hf hpayload
  obtain ⟨cached, total, hstored⟩ :=
    Esp.storeDefsChunk_eq { s.esp with defsRequestSent := false } chunk records
  have hgeneration : (s.esp.defsChunkSeen chunk records).defsGeneration = s.esp.defsGeneration := by
    rw [Esp.defsChunkSeen, hstored]
  have hseen : (s.esp.defsChunkSeen chunk records).defsResponseSeen = !chunk.more := by
    rw [Esp.defsChunkSeen, hstored]
    change (!chunk.more || s.esp.defsResponseSeen) = !chunk.more
    rw [hnone, Bool.or_false]
  refine ⟨fun hdone => ⟨definitions, ?_, ?_⟩, fun _ hmore => ⟨definitions, _, ?_,
    defsChunkSeen_loaded hloaded hchunk, .inr (hcurrent.resolve_left fun hlast => ?_),
    fun f _ _ hf => (by cases hf)⟩, fun _ f _ _ _ _ hf => (by cases hf)⟩
  · rw [hgeneration]
    exact hdefs
  · refine defsChunkSeen_complete hloaded hchunk ?_
    rw [hseen] at hdone
    simpa using hdone
  · rw [hgeneration]
    exact hdefs
  · rw [hseen] at hmore
    rw [hf, Option.any_some, hpayload] at hlast
    exact Esp.false_of_flag hlast hmore

theorem touched_sameDefs (s : Esp) (records : List StateRecord) (sequence : UInt32)
    (keepsWrite : Bool) : SameDefs s (s.touched records sequence keepsWrite) :=
  ⟨rfl, rfl, rfl, rfl, rfl, rfl, rfl⟩

theorem statesChunkSeen_sameDefs (s : Esp) (chunk : StatesSnapshotChunkPrefix)
    (records : List StateRecord) : SameDefs s (s.statesChunkSeen chunk records) := by
  obtain ⟨cached, sequence, place, seen, view, published, hseen⟩ :=
    Esp.statesChunkSeen_eq s chunk records
  rw [hseen]
  exact ⟨rfl, rfl, rfl, rfl, rfl, rfl, rfl⟩

theorem sendStates_sameDefs (s : Esp) (startIndex : Nat) :
    SameDefs s (s.sendStatesSnapshotRequest startIndex).1 := by
  rw [Esp.sendStatesSnapshotRequest]
  dsimp only
  split
  · exact ⟨rfl, rfl, rfl, rfl, rfl, rfl, rfl⟩
  · exact ⟨rfl, rfl, rfl, rfl, rfl, rfl, rfl⟩

theorem refreshStates_sameDefs (s : Esp) : SameDefs s s.refreshStates.1 := by
  rw [Esp.refreshStates, Esp.sendStatesSnapshotRequest]
  dsimp only
  split
  · exact ⟨rfl, rfl, rfl, rfl, rfl, rfl, rfl⟩
  · exact ⟨rfl, rfl, rfl, rfl, rfl, rfl, rfl⟩

theorem Loaded.sendDefs {definitions : List PointDefinition} {first : Nat} {s : Esp}
    (h : Loaded definitions first s) : Loaded definitions first s.sendDefsSnapshotRequest.1 := by
  rw [Esp.sendDefsSnapshotRequest]
  split
  · exact h
  · by_cases hplace : s.nextDefsOffset = 0
    · have hfirst : first = 0 := by
        have hzero := h.place.symm.trans hplace
        exact (Nat.mul_eq_zero.mp hzero).resolve_right (by decide)
      rw [hfirst]
      refine ⟨?_, Nat.zero_le _, fun h => (by cases h), fun h => (by cases h), rfl⟩
      rw [Nat.zero_mul]
      exact hplace
    · simp only [hplace, if_false]
      exact ⟨h.place, h.bound, h.count, h.total, h.records⟩

theorem DefsOk.sendDefs (h : DefsOk past s) (hcaps : s.esp.capsResponseSeen = true)
    (hnone : s.esp.defsResponseSeen = false) :
    DefsOk past (s.sent s.esp.sendDefsSnapshotRequest) := by
  have hcaps' : s.esp.sendDefsSnapshotRequest.1.capsResponseSeen = true := by
    rw [Esp.sendDefsSnapshotRequest]
    split <;> exact hcaps
  have hnone' : s.esp.sendDefsSnapshotRequest.1.defsResponseSeen = false := by
    rw [Esp.sendDefsSnapshotRequest]
    split <;> exact hnone
  have hgeneration : s.esp.sendDefsSnapshotRequest.1.defsGeneration = s.esp.defsGeneration := by
    rw [Esp.sendDefsSnapshotRequest]
    split <;> rfl
  refine ⟨fun hseen => (Esp.false_of_flag hseen hnone').elim, fun _ _ => ?_,
    fun hcaps => (Esp.false_of_flag hcaps' hcaps).elim⟩
  obtain ⟨definitions, first, hdefs, hloaded, hrest⟩ := h.loading hcaps hnone
  exact ⟨definitions, first, by rw [LinkState.sent, hgeneration]; exact hdefs, hloaded.sendDefs,
    hrest⟩

theorem brings_of_absorbed (hflags : s.esp.FlagsOk) (hpipeline : defsStream.PipelineOk s)
    {f : Frame} (hf : s.response = some f) {as : Esp.ReadAs}
    (hguard : s.esp.Guard s.request.isSome s.response.isSome (.read as))
    (hquiet : Esp.awaited as f.payload = false) (hcaps : s.esp.capsResponseSeen = true)
    (hnone : s.esp.defsResponseSeen = false) : defsStream.brings s.response = false := by
  cases hbrings : defsStream.brings s.response with
  | false => rfl
  | true =>
    have hsent : s.esp.defsRequestSent = true := (hpipeline.current hcaps).response hbrings
    have hanswers : defsStream.answers f.payload = true := by
      rw [hf] at hbrings
      exact hbrings
    cases as with
    | writeState => exact (Esp.false_of_flag hguard.1 (hflags.noDefs hnone).2.2).elim
    | unsolicited => exact (Esp.false_of_flag hsent (hguard.2.2.2 hnone)).elim
    | caps => exact (Esp.false_of_flag hcaps hguard.2.1).elim
    | defs =>
      cases hpayload : f.payload with
      | defsSnapshot chunk records =>
        rw [hpayload] at hquiet
        cases hquiet
      | _ =>
        rw [hpayload] at hanswers
        cases hanswers
    | states => exact (Esp.false_of_flag (hguard.2.2.2.2 hcaps) hnone).elim

theorem DefsOk.read (h : DefsOk past s) (hflags : s.esp.FlagsOk)
    (hpipeline : defsStream.PipelineOk s) {f : Frame} (hf : s.response = some f)
    {as : Esp.ReadAs} (hguard : s.esp.Guard s.request.isSome s.response.isSome (.read as)) :
    DefsOk past { s with esp := s.esp.readResponse f as, response := none } := by
  have hreads := s.esp.readResponse_reads f as
  generalize s.esp.readResponse f as = next at hreads ⊢
  cases hreads with
  | absorbs sequence keepsWrite hquiet =>
    exact h.dropped _ (touched_sameDefs _ _ _ _)
      (brings_of_absorbed hflags hpipeline hf hguard hquiet)
  | resyncs records sequence keepsWrite g => exact h.resync (touched_sameDefs _ _ _ _) g s.request
  | caps m n g q has hpayload =>
    rw [has] at hguard
    exact h.capsSeen hguard.2.1 hf hpayload
  | defs chunk records has hpayload =>
    rw [has] at hguard
    exact h.defsChunkSeen (hflags.capsSeen_of_defsRequestSent hguard.1) hguard.2.1 hf hpayload
  | states chunk records has hpayload =>
    rw [has] at hguard
    have hdefs := (hflags.seen_of_readStates hguard).2
    refine h.dropped _ (statesChunkSeen_sameDefs _ _ _) fun _ hnone => ?_
    exact (Esp.false_of_flag hdefs hnone).elim

theorem DefsOk.poll (h : DefsOk past s) (hflags : s.esp.FlagsOk)
    (hpipeline : defsStream.PipelineOk s) (timedOut : Bool) : DefsOk past (s.poll timedOut) := by
  have hguard := s.esp.pollAction_guard s.request.isSome s.response.isSome timedOut
  rw [LinkState.poll]
  generalize s.esp.pollAction _ _ _ = action at hguard ⊢
  have hself : SameDefs s.esp s.esp := ⟨rfl, rfl, rfl, rfl, rfl, rfl, rfl⟩
  cases action with
  | nothing => exact h
  | drain => exact h.resync hself 0 s.request
  | resetMailbox => exact h.resync hself 0 none
  | capsTimeout => exact h.resync hself 0 none
  | sendCaps => exact h.same ⟨rfl, rfl, rfl, rfl, rfl, rfl, rfl⟩ rfl rfl
  | sendDefs => exact h.sendDefs hguard.1 hguard.2.2.1
  | sendStates => exact h.same (sendStates_sameDefs _ _) rfl rfl
  | refresh => exact h.same (refreshStates_sameDefs _) rfl rfl
  | sendWriteState => exact h.same ⟨rfl, rfl, rfl, rfl, rfl, rfl, rfl⟩ rfl rfl
  | read as =>
    rw [LinkState.polled]
    cases hf : s.response with
    | none => exact h
    | some f => exact h.read hflags hpipeline hf hguard

theorem DefsOk.responded (h : DefsOk past s) (hempty : s.response = none) {c : PointCatalog}
    (hdefinitions : c.definitions = s.catalog.definitions) (serving : Option Request)
    (f : Frame)
    (hchunk : ∀ chunk records, f.payload = .defsSnapshot chunk records →
      s.esp.capsResponseSeen = true → s.esp.defsResponseSeen = false →
      ∀ first, s.esp.nextDefsOffset = first * kDefinitionRecordSize → first ≤ s.catalog.size →
        ChunkOf s.catalog.definitions first chunk records)
    (hcaps : ∀ m n g q, f.payload = .caps m n g q → past g s.catalog.definitions) :
    DefsOk past { s with catalog := c, serving := serving, response := some f } := by
  refine ⟨h.done, fun hseen hnone => ?_, fun hseen f' m n g q hf' hpayload _ => ?_⟩
  · obtain ⟨definitions, first, hdefs, hloaded, hcurrent, -⟩ := h.loading hseen hnone
    rw [hempty] at hcurrent
    have hcurrent : s.catalog.definitions = definitions :=
      hcurrent.resolve_left fun hlast => (by cases hlast)
    refine ⟨definitions, first, hdefs, hloaded, .inr (hdefinitions.trans hcurrent),
      fun f' chunk records hf' hpayload => ?_⟩
    cases hf'
    rw [← hcurrent]
    refine hchunk chunk records hpayload hseen hnone first hloaded.place ?_
    have hbound := hloaded.bound
    rw [← hcurrent] at hbound
    simpa [PointCatalog.definitions, PointCatalog.size] using hbound
  · cases hf'
    change past g c.definitions
    rw [hdefinitions]
    exact hcaps m n g q hpayload

theorem DefsOk.respond (h : DefsOk past s) (hpipeline : defsStream.PipelineOk s)
    (hnow : past s.catalog.defsGeneration s.catalog.definitions) (writeStatus : UInt8) :
    DefsOk past (s.respond writeStatus) := by
  rw [LinkState.respond]
  split
  · exact h
  · rename_i r hr
    have hempty : s.response = none := by
      cases hf : s.response with
      | none => rfl
      | some f =>
        rw [hpipeline.slots f hf] at hr
        cases hr
    have hdefinitions : (service s.resolvePointState s.catalog writeStatus r).2.definitions =
        s.catalog.definitions := by
      cases r with
      | getStatesSnapshot startIndex maxRecords includeStrings =>
        rw [service]
        dsimp only
        split <;> rfl
      | _ => rfl
    refine h.responded hempty hdefinitions none _ (fun chunk records hpayload hseen hnone first
      hplace hfirst => ?_) fun m n g q hpayload => ?_
    · cases r with
      | getDefsSnapshot resumeOffset maxChunkPayload requestedGeneration =>
        have hoffset : resumeOffset = s.esp.nextDefsOffset := by
          refine ((hpipeline.current hseen).serving resumeOffset ?_).2
          rw [hr]
          rfl
        rw [hoffset, hplace] at hpayload
        obtain ⟨chunk', records', hpayload', hchunk⟩ :=
          defsSnapshotResponse_chunkOf s.catalog hfirst maxChunkPayload
        cases hpayload.symm.trans hpayload'
        exact hchunk
      | getCaps => cases hpayload
      | getStatesSnapshot startIndex maxRecords includeStrings => cases hpayload
      | writeState pointIndex expectedValueType valueBits =>
        obtain ⟨type, hwrite⟩ | ⟨code, related, hwrite⟩ :=
          writeStateResponse_payload s.catalog pointIndex expectedValueType writeStatus
        · cases hwrite.symm.trans hpayload
        · cases hwrite.symm.trans hpayload
    · cases r with
      | getCaps =>
        cases hpayload
        exact hnow
      | getDefsSnapshot resumeOffset maxChunkPayload requestedGeneration => cases hpayload
      | getStatesSnapshot startIndex maxRecords includeStrings => cases hpayload
      | writeState pointIndex expectedValueType valueBits =>
        obtain ⟨type, hwrite⟩ | ⟨code, related, hwrite⟩ :=
          writeStateResponse_payload s.catalog pointIndex expectedValueType writeStatus
        · cases hwrite.symm.trans hpayload
        · cases hwrite.symm.trans hpayload

theorem dropDirty_definitions (c : PointCatalog) : (dropDirty c).definitions = c.definitions := by
  rw [dropDirty, PointCatalog.popDirtyStateIndex]
  split <;> rfl

theorem pumpUpdates_cases (p : ResolvePointState) (c : PointCatalog) :
    (pumpUpdates p c).2.definitions = c.definitions ∧
      ∀ f, (pumpUpdates p c).1 = some f → ∃ q records, f.payload = .statesUpdates q records := by
  rw [pumpUpdates]
  split
  · exact ⟨rfl, fun f hf => by cases hf; exact ⟨_, _, rfl⟩⟩
  · split
    · exact ⟨rfl, fun f hf => by cases hf⟩
    · split
      · exact ⟨dropDirty_definitions c, fun f hf => by cases hf⟩
      · exact ⟨dropDirty_definitions c, fun f hf => by cases hf; exact ⟨_, _, rfl⟩⟩

theorem DefsOk.pump (h : DefsOk past s) : DefsOk past s.pump := by
  rw [LinkState.pump]
  split
  · rename_i hempty
    obtain ⟨hdefinitions, hupdate⟩ := pumpUpdates_cases s.resolvePointState s.catalog
    cases hf : (pumpUpdates s.resolvePointState s.catalog).1 with
    | none =>
      exact h.same ⟨rfl, rfl, rfl, rfl, rfl, rfl, rfl⟩ (hf.trans hempty.2.2.symm) hdefinitions
    | some f =>
      obtain ⟨q, records, hpayload⟩ := hupdate f hf
      have hresponded := h.responded hempty.2.2 hdefinitions s.serving f
        (fun chunk records hdefs => by cases hpayload.symm.trans hdefs)
        (fun m n g q hcaps => by cases hpayload.symm.trans hcaps)
      rw [← hf] at hresponded
      exact hresponded
  · exact h

theorem DefsOk.edit (h : DefsOk past s) {e : CatalogEdit} (hquiet : DefsUndisturbed s (.edit e)) :
    DefsOk past { s with catalog := s.catalog.edited e } := by
  by_cases hloads : s.loadsDefs = true
  · rw [edited_eq_of_generation (hquiet hloads)]
    exact h
  · rw [LinkState.loadsDefs] at hloads
    refine ⟨h.done, fun hcaps hnone => ?_, fun hcaps f m n g q hf hpayload hpreserve => ?_⟩
    · obtain ⟨definitions, first, hdefs, hloaded, -, hchunks⟩ := h.loading hcaps hnone
      refine ⟨definitions, first, hdefs, hloaded, .inl ?_, hchunks⟩
      rw [if_pos hcaps, hnone] at hloads
      simpa using hloads
    · refine absurd ?_ hloads
      have hf : s.response = some f := hf
      rw [if_neg (by rw [hcaps]; exact Bool.false_ne_true), hf, Option.any_some, hpayload]
      change (!s.esp.preservesDefs g) = true
      rw [hpreserve]
      rfl

theorem defs_next (h : DefsOk past s) (hflags : s.esp.FlagsOk)
    (hpipeline : defsStream.PipelineOk s)
    (hnow : past s.catalog.defsGeneration s.catalog.definitions) {event : LinkEvent}
    (hquiet : DefsUndisturbed s event) : DefsOk past (s.next event) := by
  have hself : SameDefs s.esp s.esp := ⟨rfl, rfl, rfl, rfl, rfl, rfl, rfl⟩
  cases event with
  | edit e => exact h.edit hquiet
  | update id state => exact h.same hself rfl (updateState_getD_definitions _ _ _)
  | store index state => exact h.same hself rfl (stored_definitions _ _ _)
  | requestFullSync => exact h.same hself rfl rfl
  | runtime resolvePointState => exact h.same hself rfl rfl
  | take =>
    rw [LinkState.next, LinkState.take]
    split
    · exact h.same hself rfl rfl
    · exact h
  | respond writeStatus => exact h.respond hpipeline hnow writeStatus
  | pump => exact h.pump
  | poll timedOut => exact h.poll hflags hpipeline timedOut
  | askRefresh =>
    rw [LinkState.next]
    split
    · exact h.same ⟨rfl, rfl, rfl, rfl, rfl, rfl, rfl⟩ rfl rfl
    · exact h
  | askWrite pointIndex expectedValueType valueBits =>
    rw [LinkState.next]
    split
    · exact h.same ⟨rfl, rfl, rfl, rfl, rfl, rfl, rfl⟩ rfl rfl
    · exact h

end NodeNet.Link

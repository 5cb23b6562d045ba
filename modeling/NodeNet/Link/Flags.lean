import NodeNet.Lib.Machine
import NodeNet.Link.Esp

/-! The two processors and the mailbox between them. -/
namespace NodeNet.Link
open NodeNet.Points NodeNet.Catalog

/-- The mailbox has room for one request and one response. -/
structure LinkState where
  catalog : PointCatalog
  /-- What the SoC's resolver answers by now; the runtime changes it without a notice. -/
  resolvePointState : ResolvePointState
  request : Option Request
  /-- The request that the SoC has taken and not yet answered. -/
  serving : Option Request
  response : Option Frame
  esp : Esp

inductive LinkEvent where
  | edit (e : CatalogEdit)
  | update (id : PointIdentity) (state : PointState)
  | store (index : Nat) (state : PointState)
  | requestFullSync
  /-- The runtime moves on. -/
  | runtime (resolvePointState : ResolvePointState)
  | take
  | respond (writeStatus : UInt8)
  | pump
  | poll (timedOut : Bool)
  /-- The ESP32's own users ask for new states, or for a write. -/
  | askRefresh
  | askWrite (pointIndex : Nat) (expectedValueType : UInt8) (valueBits : UInt32)

def LinkState.start : LinkState := ⟨.empty, fun _ _ => none, none, none, none, .start⟩

/-- A request that is sent fills the request's place. -/
def LinkState.sent (s : LinkState) (p : Esp × Option Request) : LinkState :=
  { s with esp := p.1, request := p.2.or s.request }

def LinkState.polled (s : LinkState) : Esp.PollAction → LinkState
  | .nothing => s
  | .drain => { s with esp := s.esp.beginFullResync 0, response := none }
  | .resetMailbox | .capsTimeout =>
    { s with esp := s.esp.beginFullResync 0, request := none, response := none }
  | .sendCaps => s.sent s.esp.sendCapsRequest
  | .sendDefs => s.sent s.esp.sendDefsSnapshotRequest
  | .sendStates => s.sent (s.esp.sendStatesSnapshotRequest s.esp.nextStatesStartIndex)
  | .refresh => s.sent s.esp.refreshStates
  | .sendWriteState => s.sent s.esp.sendWriteStateRequest
  | .read as =>
    match s.response with
    | none => s
    | some f => { s with esp := s.esp.readResponse f as, response := none }

def LinkState.poll (s : LinkState) (timedOut : Bool) : LinkState :=
  s.polled (s.esp.pollAction s.request.isSome s.response.isSome timedOut)

/-- The SoC takes a request only when it can answer it. -/
def LinkState.take (s : LinkState) : LinkState :=
  if s.serving = none ∧ s.response = none then { s with serving := s.request, request := none }
  else s

def LinkState.respond (s : LinkState) (writeStatus : UInt8) : LinkState :=
  match s.serving with
  | none => s
  | some r =>
    let (f, c) := service s.resolvePointState s.catalog writeStatus r
    { s with catalog := c, serving := none, response := some f }

def LinkState.pump (s : LinkState) : LinkState :=
  if s.request = none ∧ s.serving = none ∧ s.response = none then
    let (f, c) := pumpUpdates s.resolvePointState s.catalog
    { s with catalog := c, response := f }
  else s

def LinkState.next (s : LinkState) : LinkEvent → LinkState
  | .edit e => { s with catalog := s.catalog.edited e }
  | .update id state => { s with catalog := (s.catalog.updateState id state).getD s.catalog }
  | .store index state => { s with catalog := s.catalog.stored index state }
  | .requestFullSync => { s with catalog := s.catalog.requestRuntimeFullSync }
  | .runtime resolvePointState => { s with resolvePointState := resolvePointState }
  | .take => s.take
  | .respond writeStatus => s.respond writeStatus
  | .pump => s.pump
  | .poll timedOut => s.poll timedOut
  | .askRefresh =>
    if s.esp.capsResponseSeen && !s.esp.statesRequestSent && s.esp.statesResponseSeen then
      { s with esp := { s.esp with refreshRequested := true } }
    else s
  | .askWrite pointIndex expectedValueType valueBits =>
    if s.esp.capsResponseSeen && s.esp.statesResponseSeen && s.esp.pendingWriteState.isNone &&
        !s.esp.writeStateRequestSent then
      { s with esp := { s.esp with
          pendingWriteState := some (.writeState pointIndex expectedValueType valueBits) } }
    else s

/-! What a poll of the mailbox can do, and under which flags. -/

namespace Esp

/-- The flags under which a poll does each of its actions. -/
def Guard (s : Esp) (rxReady responseReady : Bool) : PollAction → Prop
  | .nothing => True
  | .drain => s.resyncPending = false ∧ s.capsRequestSent = false ∧ s.capsResponseSeen = false ∧
      responseReady = true
  | .resetMailbox =>
    s.resyncPending = false ∧ s.capsRequestSent = false ∧ s.capsResponseSeen = false
  | .sendCaps => s.capsRequestSent = false ∧ rxReady = false ∧
      (s.resyncPending = true ∨ s.capsResponseSeen = false)
  | .sendDefs => s.capsResponseSeen = true ∧ s.defsRequestSent = false ∧
      s.defsResponseSeen = false ∧ rxReady = false
  | .sendStates => s.defsResponseSeen = true ∧ s.statesRequestSent = false ∧
      s.statesResponseSeen = false ∧ rxReady = false ∧
      (s.resyncPending = true → s.capsRequestSent = true)
  | .refresh => s.capsResponseSeen = true ∧ s.statesResponseSeen = true ∧
      s.statesRequestSent = false ∧ rxReady = false ∧
      (s.isRuntimeIdleReady = true → responseReady = false)
  | .sendWriteState => s.isRuntimeIdleReady = true ∧ rxReady = false ∧ responseReady = false
  | .capsTimeout => s.capsRequestSent = true ∧ s.capsResponseSeen = false
  | .read .writeState => s.writeStateRequestSent = true ∧ responseReady = true
  | .read .unsolicited => responseReady = true ∧
      (s.capsRequestSent = true → s.capsResponseSeen = true) ∧
      (s.defsResponseSeen = true → s.statesRequestSent = false) ∧
      (s.defsResponseSeen = false → s.defsRequestSent = false)
  | .read .caps => s.capsRequestSent = true ∧ s.capsResponseSeen = false ∧ responseReady = true
  | .read .defs => s.defsRequestSent = true ∧ s.defsResponseSeen = false ∧ responseReady = true
  | .read .states => s.statesRequestSent = true ∧ s.statesResponseSeen = false ∧
      responseReady = true ∧ (s.capsRequestSent = true → s.capsResponseSeen = true) ∧
      (s.capsResponseSeen = true → s.defsResponseSeen = true)

theorem ite_action {P : PollAction → Prop} {b : Bool} {x y : PollAction} (hx : b = true → P x)
    (hy : b = false → P y) : P (if b then x else y) := by
  cases b with
  | true => exact hx rfl
  | false => exact hy rfl

theorem pollAction_guard (s : Esp) (rxReady responseReady timedOut : Bool) :
    s.Guard rxReady responseReady (s.pollAction rxReady responseReady timedOut) := by
  unfold pollAction
  dsimp only
  refine ite_action (fun h => ?_) fun hstartup => ?_
  · simp only [Bool.and_eq_true, Bool.not_eq_true'] at h
    exact ite_action (fun hready => ⟨h.1.1.1, h.1.1.2, h.1.2, hready⟩)
      fun _ => ⟨h.1.1.1, h.1.1.2, h.1.2⟩
  refine ite_action (fun h => ?_) fun hresync => ?_
  · simp only [Bool.and_eq_true, Bool.not_eq_true'] at h
    exact ⟨h.1.2, h.2, .inl h.1.1⟩
  refine ite_action (fun h => ?_) fun hwrite => ?_
  · simp only [Bool.and_eq_true] at h
    exact h
  refine ite_action (fun h => ?_) fun hidle => ?_
  · simp only [isRuntimeIdleReady, Bool.and_eq_true, Bool.not_eq_true'] at h
    simp [Guard, h]
  refine ite_action (fun h => ?_) fun hrefresh => ?_
  · simp only [Bool.and_eq_true, Bool.not_eq_true'] at h
    refine ⟨h.1.1.1.2, h.1.1.2, h.1.2, h.2, fun hready => ?_⟩
    simpa [hready] using hidle
  refine ite_action (fun h => ?_) fun hasked => ?_
  · simp only [Bool.and_eq_true, Bool.not_eq_true'] at h
    refine ⟨h.1.2, h.2, ?_⟩
    simpa [h.1.2] using hidle
  refine ite_action (fun h => ?_) fun hfirst => ?_
  · simp only [Bool.and_eq_true, Bool.not_eq_true'] at h
    exact ⟨h.1.1, h.2, .inr h.1.2⟩
  refine ite_action (fun h => ?_) fun hcaps => ?_
  · simp only [Bool.and_eq_true, Bool.not_eq_true'] at h
    exact ⟨h.1.1, h.1.2, h.2⟩
  refine ite_action (fun h => ?_) fun htimeout => ?_
  · simp only [Bool.and_eq_true, Bool.not_eq_true'] at h
    exact h.1
  refine ite_action (fun h => ?_) fun hsendDefs => ?_
  · simp only [Bool.and_eq_true, Bool.not_eq_true'] at h
    exact ⟨h.1.1.1, h.1.1.2, h.1.2, h.2⟩
  refine ite_action (fun h => ?_) fun hreadBefore => ?_
  · simp only [Bool.and_eq_true, Bool.not_eq_true'] at h
    simp [Guard, h]
  refine ite_action (fun h => ?_) fun hdefs => ?_
  · simp only [Bool.and_eq_true, Bool.not_eq_true'] at h
    exact ⟨h.1.1, h.1.2, h.2⟩
  refine ite_action (fun h => ?_) fun hsendStates => ?_
  · simp only [Bool.and_eq_true, Bool.not_eq_true'] at h
    refine ⟨h.1.1.1, h.1.1.2, h.1.2, h.2, fun hpending => ?_⟩
    simpa [hpending, h.2] using hresync
  refine ite_action (fun h => ?_) fun hreadLater => ?_
  · simp only [Bool.and_eq_true, Bool.not_eq_true'] at h
    refine ⟨h.2, fun hsent => ?_, fun _ => h.1.1.2, fun hnone => ?_⟩
    · simpa [hsent, h.2] using hcaps
    · rw [h.1.1.1] at hnone
      cases hnone
  refine ite_action (fun h => ?_) fun _ => trivial
  simp only [Bool.and_eq_true, Bool.not_eq_true'] at h
  refine ⟨h.1.1, h.1.2, h.2, fun hsent => ?_, fun hseen => ?_⟩
  · simpa [hsent, h.2] using hcaps
  · by_cases hdefs' : s.defsRequestSent = true
    · simpa [hdefs', h.2] using hdefs
    · simpa [hdefs', hseen, h.2] using hreadBefore

/-- The cache of the states after the records of an update. -/
def absorbedRecords (s : Esp) (f : Frame) : List StateRecord :=
  match f.payload with
  | .statesUpdates _ records =>
    records.foldl (fun cache r => cacheRecord (growTo (r.pointIndex + 1) cache) r) s.stateRecords
  | _ => s.stateRecords

/-- Only the states are others, and a write may be over. -/
def touched (s : Esp) (records : List StateRecord) (sequence : UInt32) (keepsWrite : Bool) : Esp :=
  { s with
    stateRecords := records
    statesSequence := sequence
    writeStateRequestSent := keepsWrite && s.writeStateRequestSent
    pendingWriteState := if keepsWrite then s.pendingWriteState else none }

theorem processStateUpdateFrame_cases (s : Esp) (generation statesSequence : UInt32)
    (records : List StateRecord) :
    let absorbed := records.foldl
      (fun cache r => cacheRecord (growTo (r.pointIndex + 1) cache) r) s.stateRecords
    (∃ sequence, s.processStateUpdateFrame generation statesSequence records =
      s.touched absorbed sequence true) ∨
      ∃ sequence g, s.processStateUpdateFrame generation statesSequence records =
        (s.touched absorbed sequence true).beginFullResync g := by
  dsimp only
  rw [processStateUpdateFrame]
  by_cases hnone : records = []
  · rw [if_pos hnone, hnone]
    split
    · exact .inl ⟨s.statesSequence, rfl⟩
    · exact .inr ⟨s.statesSequence, generation, rfl⟩
  · rw [if_neg hnone]
    dsimp only
    split
    · exact .inr ⟨statesSequence, _, rfl⟩
    · exact .inl ⟨statesSequence, rfl⟩

/-- The payload that a reading waits for. -/
def awaited : ReadAs → Payload → Bool
  | .caps, .caps _ _ _ _ => true
  | .defs, .defsSnapshot _ _ => true
  | .states, .statesSnapshot _ _ => true
  | _, _ => false

/-- A response is absorbed, starts a resync, or is the answer that was waited for. -/
inductive Reads (s : Esp) (f : Frame) (as : ReadAs) : Esp → Prop
  | absorbs (sequence : UInt32) (keepsWrite : Bool) (hquiet : awaited as f.payload = false) :
    Reads s f as (s.touched (s.absorbedRecords f) sequence keepsWrite)
  | resyncs (records : List StateRecord) (sequence : UInt32) (keepsWrite : Bool) (g : UInt32) :
    Reads s f as ((s.touched records sequence keepsWrite).beginFullResync g)
  | caps (maxFragmentPayload pointCount : Nat) (defsGeneration statesSequence : UInt32)
      (has : as = .caps)
      (hf : f.payload = .caps maxFragmentPayload pointCount defsGeneration statesSequence) :
    Reads s f as (s.capsSeen maxFragmentPayload pointCount defsGeneration statesSequence)
  | defs (chunk : DefsSnapshotChunkPrefix) (records : List DefinitionRecord) (has : as = .defs)
      (hf : f.payload = .defsSnapshot chunk records) : Reads s f as (s.defsChunkSeen chunk records)
  | states (chunk : StatesSnapshotChunkPrefix) (records : List StateRecord) (has : as = .states)
      (hf : f.payload = .statesSnapshot chunk records) :
    Reads s f as (s.statesChunkSeen chunk records)

theorem processed_reads {s : Esp} {f : Frame} (as : ReadAs) {statesSequence : UInt32}
    {records : List StateRecord} (hf : f.payload = .statesUpdates statesSequence records)
    (keepsWrite : Bool) :
    Reads s f as ((s.touched s.stateRecords s.statesSequence keepsWrite).processStateUpdateFrame
      f.generation statesSequence records) := by
  have habsorbed : s.absorbedRecords f = records.foldl
      (fun cache r => cacheRecord (growTo (r.pointIndex + 1) cache) r) s.stateRecords := by
    rw [absorbedRecords, hf]
  obtain ⟨sequence, h⟩ | ⟨sequence, g, h⟩ := processStateUpdateFrame_cases
    (s.touched s.stateRecords s.statesSequence keepsWrite) f.generation statesSequence records
  · rw [h]
    have hquiet : awaited as f.payload = false := by
      rw [hf]
      cases as <;> rfl
    have habsorbs := Reads.absorbs (s := s) sequence keepsWrite hquiet
    rw [habsorbed] at habsorbs
    cases keepsWrite with
    | true => exact habsorbs
    | false => exact habsorbs
  · rw [h]
    cases keepsWrite with
    | true => exact .resyncs _ sequence true g
    | false => exact .resyncs _ sequence false g

theorem readResponse_reads (s : Esp) (f : Frame) (as : ReadAs) :
    Reads s f as (s.readResponse f as) := by
  have hother (keepsWrite : Bool)
      (hf : ∀ statesSequence records, f.payload ≠ .statesUpdates statesSequence records)
      (hquiet : awaited as f.payload = false) :
      Reads s f as (s.touched s.stateRecords s.statesSequence keepsWrite) := by
    have habsorbed : s.absorbedRecords f = s.stateRecords := by
      rw [absorbedRecords]
      split
      · rename_i hp
        exact absurd hp (hf _ _)
      · rfl
    have habsorbs := Reads.absorbs (s := s) s.statesSequence keepsWrite hquiet
    rw [habsorbed] at habsorbs
    exact habsorbs
  cases as with
  | writeState =>
    rw [readResponse]
    cases hf : f.payload with
    | statesUpdates statesSequence records => exact processed_reads .writeState hf false
    | _ => exact hother false (by simp [hf]) (by simp [awaited])
  | unsolicited =>
    rw [readResponse, handleUnsolicitedResponse]
    split
    · exact .resyncs s.stateRecords s.statesSequence true f.generation
    · cases hf : f.payload with
      | statesUpdates statesSequence records =>
        exact processed_reads .unsolicited hf true
      | _ => exact hother true (by simp [hf]) (by simp [awaited])
  | caps =>
    rw [readResponse]
    cases hf : f.payload with
    | caps maxFragmentPayload pointCount defsGeneration statesSequence =>
      exact .caps _ _ _ _ rfl hf
    | statesUpdates statesSequence records =>
      have hquiet : awaited .caps f.payload = false := by simp [hf, awaited]
      have habsorbs := Reads.absorbs (s := s) statesSequence true hquiet
      rw [absorbedRecords, hf] at habsorbs
      exact habsorbs
    | _ => exact hother true (by simp [hf]) (by simp [hf, awaited])
  | defs =>
    rw [readResponse]
    cases hf : f.payload with
    | defsSnapshot chunk records => exact .defs chunk records rfl hf
    | statesUpdates statesSequence records =>
      exact processed_reads .defs hf true
    | _ => exact hother true (by simp [hf]) (by simp [hf, awaited])
  | states =>
    rw [readResponse]
    cases hf : f.payload with
    | statesSnapshot chunk records => exact .states chunk records rfl hf
    | statesUpdates statesSequence records =>
      exact processed_reads .states hf true
    | _ => exact hother true (by simp [hf]) (by simp [hf, awaited])

end Esp

/-! What always holds of the ESP32's flags. -/

namespace Esp

theorem false_of_flag {b : Bool} (h : b = true) (h' : b = false) : False := by
  rw [h] at h'
  cases h'

structure FlagsOk (s : Esp) : Prop where
  noCaps : s.capsResponseSeen = false → s.defsRequestSent = false ∧ s.statesResponseSeen = false ∧
    s.nextStatesStartIndex = 0 ∧ s.writeStateRequestSent = false
  pending : s.resyncPending = true → s.capsResponseSeen = false ∧ s.capsRequestSent = false ∧
    s.statesRequestSent = false
  asked : s.capsRequestSent = true → s.capsResponseSeen = false
  statesSent : s.statesRequestSent = true → s.statesResponseSeen = false
  defsSent : s.defsRequestSent = true → s.defsResponseSeen = false
  noDefs : s.defsResponseSeen = false →
    s.statesResponseSeen = false ∧ s.nextStatesStartIndex = 0 ∧ s.writeStateRequestSent = false
  fresh : s.resyncPending = false → s.capsRequestSent = false → s.capsResponseSeen = false →
    s.defsResponseSeen = false ∧ s.statesRequestSent = false

theorem start_flags : FlagsOk .start := by
  constructor <;> decide

theorem beginFullResync_flags (s : Esp) (g : UInt32) : FlagsOk (s.beginFullResync g) where
  noCaps _ := ⟨rfl, rfl, rfl, rfl⟩
  pending _ := ⟨rfl, rfl, rfl⟩
  asked h := by cases h
  statesSent h := by cases h
  defsSent h := by cases h
  noDefs _ := ⟨rfl, rfl, rfl⟩
  fresh h := by cases h

theorem storeDefsChunk_eq (s : Esp) (chunk : DefsSnapshotChunkPrefix)
    (records : List DefinitionRecord) : ∃ cached total, s.storeDefsChunk chunk records =
      { s with definitionRecords := cached, defsTotalBytes := total } := by
  rw [storeDefsChunk]
  split <;> split <;> exact ⟨_, _, rfl⟩

theorem statesChunkSeen_eq (s : Esp) (chunk : StatesSnapshotChunkPrefix)
    (records : List StateRecord) : ∃ cached sequence place seen view published,
      s.statesChunkSeen chunk records =
        { s with
          statesRequestSent := false
          stateRecords := cached
          statesSequence := sequence
          nextStatesStartIndex := place
          statesResponseSeen := seen
          runtimeResyncViewActive := view
          havePublishedSnapshot := published } := by
  rw [statesChunkSeen]
  split
  · exact ⟨_, _, _, _, _, _, rfl⟩
  · dsimp only
    split <;> exact ⟨_, _, _, _, _, _, rfl⟩

variable {s : Esp} (h : FlagsOk s)
include h

theorem FlagsOk.touched (records : List StateRecord) (sequence : UInt32) (keepsWrite : Bool) :
    FlagsOk (s.touched records sequence keepsWrite) := by
  refine ⟨fun hcaps => ?_, h.pending, h.asked, h.statesSent, h.defsSent, fun hdefs => ?_, h.fresh⟩
  · obtain ⟨hdefs, hstates, hnext, hwrite⟩ := h.noCaps hcaps
    exact ⟨hdefs, hstates, hnext, by simp [Esp.touched, hwrite]⟩
  · obtain ⟨hstates, hnext, hwrite⟩ := h.noDefs hdefs
    exact ⟨hstates, hnext, by simp [Esp.touched, hwrite]⟩

theorem FlagsOk.capsSeen (hnone : s.capsResponseSeen = false)
    (maxFragmentPayload pointCount : Nat) (defsGeneration statesSequence : UInt32) :
    FlagsOk (s.capsSeen maxFragmentPayload pointCount defsGeneration statesSequence) where
  noCaps hcaps := by cases hcaps
  pending hpending := by cases hpending
  asked hasked := by cases hasked
  statesSent := h.statesSent
  defsSent hdefs := by cases hdefs
  noDefs _ := (h.noCaps hnone).2
  fresh _ _ hcaps := by cases hcaps

theorem FlagsOk.capsSeen_of_defsRequestSent (hsent : s.defsRequestSent = true) :
    s.capsResponseSeen = true := by
  cases hcaps : s.capsResponseSeen with
  | true => rfl
  | false =>
    rw [(h.noCaps hcaps).1] at hsent
    cases hsent

theorem FlagsOk.defsChunkSeen (hsent : s.defsRequestSent = true)
    (chunk : DefsSnapshotChunkPrefix) (records : List DefinitionRecord) :
    FlagsOk (s.defsChunkSeen chunk records) := by
  have hcaps := h.capsSeen_of_defsRequestSent hsent
  have hnone := h.defsSent hsent
  obtain ⟨cached, total, hstored⟩ :=
    storeDefsChunk_eq { s with defsRequestSent := false } chunk records
  rw [Esp.defsChunkSeen, hstored]
  refine ⟨fun hcaps' => ?_, h.pending, h.asked, h.statesSent, fun hsent' => (by cases hsent'),
    fun _ => h.noDefs hnone, fun _ _ hcaps' => ?_⟩
  · exact (false_of_flag hcaps hcaps').elim
  · exact (false_of_flag hcaps hcaps').elim

theorem FlagsOk.seen_of_readStates {rxReady responseReady : Bool}
    (hguard : s.Guard rxReady responseReady (.read .states)) :
    s.capsResponseSeen = true ∧ s.defsResponseSeen = true := by
  obtain ⟨hsent, -, -, hcaps, hdefs⟩ := hguard
  have hseen : s.capsResponseSeen = true := by
    cases hnone : s.capsResponseSeen with
    | true => rfl
    | false =>
      cases hasked : s.capsRequestSent with
      | true => exact (false_of_flag (hcaps hasked) hnone).elim
      | false =>
        cases hpending : s.resyncPending with
        | true => exact (false_of_flag hsent (h.pending hpending).2.2).elim
        | false => exact (false_of_flag hsent (h.fresh hpending hasked hnone).2).elim
  exact ⟨hseen, hdefs hseen⟩

theorem FlagsOk.statesChunkSeen (hcaps : s.capsResponseSeen = true)
    (hdefs : s.defsResponseSeen = true) (chunk : StatesSnapshotChunkPrefix)
    (records : List StateRecord) : FlagsOk (s.statesChunkSeen chunk records) := by
  obtain ⟨cached, sequence, place, seen, view, published, hseen⟩ :=
    statesChunkSeen_eq s chunk records
  rw [hseen]
  exact ⟨fun hnone => (false_of_flag hcaps hnone).elim,
    fun hpending => ⟨(h.pending hpending).1, (h.pending hpending).2.1, rfl⟩, h.asked,
    fun hsent => (by cases hsent), h.defsSent, fun hnone => (false_of_flag hdefs hnone).elim,
    fun _ _ hnone => (false_of_flag hcaps hnone).elim⟩

theorem FlagsOk.readResponse {f : Frame} {as : ReadAs} {rxReady responseReady : Bool}
    (hguard : s.Guard rxReady responseReady (.read as)) : FlagsOk (s.readResponse f as) := by
  have hreads := s.readResponse_reads f as
  generalize s.readResponse f as = next at hreads ⊢
  cases hreads with
  | absorbs sequence keepsWrite _ => exact h.touched _ _ _
  | resyncs records sequence keepsWrite g => exact beginFullResync_flags _ g
  | caps _ _ _ _ has _ =>
    rw [has] at hguard
    exact h.capsSeen hguard.2.1 _ _ _ _
  | defs chunk records has _ =>
    rw [has] at hguard
    exact h.defsChunkSeen hguard.1 chunk records
  | states chunk records has _ =>
    rw [has] at hguard
    obtain ⟨hcaps, hdefs⟩ := h.seen_of_readStates hguard
    exact h.statesChunkSeen hcaps hdefs chunk records

theorem FlagsOk.sendCapsRequest (hnone : s.capsResponseSeen = false) :
    FlagsOk s.sendCapsRequest.1 where
  noCaps := h.noCaps
  pending hpending := by cases hpending
  asked _ := hnone
  statesSent := h.statesSent
  defsSent := h.defsSent
  noDefs := h.noDefs
  fresh _ hasked := by cases hasked

theorem FlagsOk.sendDefsSnapshotRequest (hcaps : s.capsResponseSeen = true)
    (hnone : s.defsResponseSeen = false) : FlagsOk s.sendDefsSnapshotRequest.1 := by
  rw [Esp.sendDefsSnapshotRequest]
  split
  · exact h
  · exact ⟨fun hcaps' => (false_of_flag hcaps hcaps').elim, h.pending, h.asked, h.statesSent,
      fun _ => hnone, h.noDefs, fun _ _ hcaps' => (false_of_flag hcaps hcaps').elim⟩

theorem FlagsOk.sendStatesSnapshotRequest (hdefs : s.defsResponseSeen = true)
    (hnone : s.statesResponseSeen = false)
    (hasked : s.resyncPending = true → s.capsRequestSent = true) (startIndex : Nat) :
    FlagsOk (s.sendStatesSnapshotRequest startIndex).1 := by
  rw [Esp.sendStatesSnapshotRequest]
  dsimp only
  split
  · exact h
  · refine ⟨h.noCaps, fun hpending => ?_, h.asked, fun _ => hnone, h.defsSent, h.noDefs,
      fun hpending hasked' hcaps => ?_⟩
    · exact (false_of_flag (hasked hpending) (h.pending hpending).2.1).elim
    · exact (false_of_flag hdefs (h.fresh hpending hasked' hcaps).1).elim

theorem FlagsOk.refreshStates (hcaps : s.capsResponseSeen = true)
    (hstates : s.statesResponseSeen = true) : FlagsOk s.refreshStates.1 := by
  have hdefs : s.defsResponseSeen = true := by
    cases hnone : s.defsResponseSeen with
    | true => rfl
    | false => exact (false_of_flag hstates (h.noDefs hnone).1).elim
  have hbase : FlagsOk
      { s with refreshRequested := false, statesResponseSeen := false, nextStatesStartIndex := 0 } :=
    ⟨fun hcaps' => (false_of_flag hcaps hcaps').elim, h.pending, h.asked, fun _ => rfl, h.defsSent,
      fun hnone => (false_of_flag hdefs hnone).elim,
      fun _ _ hcaps' => (false_of_flag hcaps hcaps').elim⟩
  refine hbase.sendStatesSnapshotRequest hdefs rfl (fun hpending => ?_) 0
  exact (false_of_flag hcaps (h.pending hpending).1).elim

theorem FlagsOk.caps_of_guard {rxReady responseReady : Bool}
    (hguard : s.Guard rxReady responseReady .sendCaps) : s.capsResponseSeen = false := by
  obtain ⟨-, -, hpending | hnone⟩ := hguard
  · exact (h.pending hpending).1
  · exact hnone

theorem FlagsOk.sendWriteStateRequest (hidle : s.isRuntimeIdleReady = true) :
    FlagsOk s.sendWriteStateRequest.1 := by
  simp only [isRuntimeIdleReady, Bool.and_eq_true] at hidle
  refine ⟨fun hcaps => ?_, h.pending, h.asked, h.statesSent, h.defsSent, fun hdefs => ?_, h.fresh⟩
  · exact (false_of_flag hidle.1.1.1.2 (h.noCaps hcaps).2.1).elim
  · exact (false_of_flag hidle.1.1.1.1 hdefs).elim

theorem FlagsOk.wished (refresh : Bool) (write : Option Request) :
    FlagsOk { s with refreshRequested := refresh, pendingWriteState := write } :=
  ⟨h.noCaps, h.pending, h.asked, h.statesSent, h.defsSent, h.noDefs, h.fresh⟩

end Esp

theorem polled_flags {s : LinkState} (h : s.esp.FlagsOk) {rxReady responseReady : Bool}
    {action : Esp.PollAction} (hguard : s.esp.Guard rxReady responseReady action) :
    (s.polled action).esp.FlagsOk := by
  cases action with
  | nothing => exact h
  | drain => exact Esp.beginFullResync_flags _ _
  | resetMailbox => exact Esp.beginFullResync_flags _ _
  | capsTimeout => exact Esp.beginFullResync_flags _ _
  | sendCaps => exact h.sendCapsRequest (h.caps_of_guard hguard)
  | sendDefs => exact h.sendDefsSnapshotRequest hguard.1 hguard.2.2.1
  | sendStates =>
    obtain ⟨hdefs, -, hnone, -, hasked⟩ := hguard
    exact h.sendStatesSnapshotRequest hdefs hnone hasked _
  | refresh => exact h.refreshStates hguard.1 hguard.2.1
  | sendWriteState => exact h.sendWriteStateRequest hguard.1
  | read as =>
    rw [LinkState.polled]
    cases hresponse : s.response with
    | none => exact h
    | some f => exact h.readResponse hguard

theorem flags_next {s : LinkState} (h : s.esp.FlagsOk) (event : LinkEvent) :
    (s.next event).esp.FlagsOk := by
  cases event with
  | poll timedOut =>
    exact polled_flags h (s.esp.pollAction_guard s.request.isSome s.response.isSome timedOut)
  | take =>
    rw [LinkState.next, LinkState.take]
    split <;> exact h
  | respond writeStatus =>
    rw [LinkState.next, LinkState.respond]
    split <;> exact h
  | pump =>
    rw [LinkState.next, LinkState.pump]
    split <;> exact h
  | askRefresh =>
    rw [LinkState.next]
    split
    · exact h.wished _ _
    · exact h
  | askWrite pointIndex expectedValueType valueBits =>
    rw [LinkState.next]
    split
    · exact h.wished _ _
    · exact h
  | _ => exact h

end NodeNet.Link

import NodeNet.DirtyQueue
import NodeNet.Link.StateCache

/-! What the ESP32 has of the states, or has under way, is queued or as the catalog has it. -/
namespace NodeNet.Link
open NodeNet.Points NodeNet.Catalog

def Payload.records : Payload → List StateRecord
  | .statesSnapshot _ records | .statesUpdates _ records => records
  | _ => []

def LinkState.chunkUnderWay (s : LinkState) : Option StatesSnapshotChunkPrefix :=
  s.response.bind fun f =>
    match f.payload with
    | .statesSnapshot chunk _ => some chunk
    | _ => none

def LinkState.loadsStates (s : LinkState) : Bool :=
  s.esp.capsResponseSeen && s.esp.defsResponseSeen && !s.esp.statesResponseSeen

def LinkState.awaitsChunk (s : LinkState) : Bool :=
  !s.esp.statesRequestSent || (statesStream.asks s.request).isSome ||
    (statesStream.asks s.serving).isSome

/-- The points before this one are loaded, with further chunks of the snapshot to be built. -/
def LinkState.covered (s : LinkState) : Nat :=
  if s.loadsStates then
    match s.chunkUnderWay with
    | some chunk => if chunk.more then chunk.returnedStartIndex + chunk.returnedRecordCount else 0
    | none => if s.awaitsChunk then s.esp.nextStatesStartIndex else 0
  else 0

/-- All points are loaded, or the last chunk of them is under way. -/
def LinkState.complete (s : LinkState) : Bool :=
  s.esp.capsResponseSeen && s.esp.defsResponseSeen &&
    (s.esp.statesResponseSeen || s.chunkUnderWay.any (!·.more))

/-- What the cache of a point is after the frame that is under way. -/
def LinkState.view (s : LinkState) (index : Nat) : Option StateRecord :=
  (s.response.bind fun f => latest index f.payload.records).or s.esp.stateRecords[index]?

/-- A point's record as the SoC would send it now. -/
def LinkState.record (s : LinkState) (index : Nat) : Option StateRecord :=
  currentRecord (resolved s.resolvePointState s.catalog) index

/-- The cache of a point has the value that the SoC has. -/
def LinkState.Shows (s : LinkState) (index : Nat) : Prop :=
  ∃ r r', s.view index = some r ∧ s.record index = some r' ∧ r.normal = r'.normal

structure StatesOk (s : LinkState) : Prop where
  queue : QueueOk s.catalog
  strings : ∀ n m b, s.request = some (.getStatesSnapshot n m b) ∨
    s.serving = some (.getStatesSnapshot n m b) → b = true
  write : ∀ r, s.esp.pendingWriteState = some r → statesStream.asked r = none
  chunk : s.esp.capsResponseSeen = true → ∀ f chunk records, s.response = some f →
    f.payload = .statesSnapshot chunk records → chunk.returnedRecordCount = records.length ∧
      (∀ r ∈ records, r.pointIndex < chunk.totalPointCount) ∧
      (s.esp.defsResponseSeen = true → chunk.returnedStartIndex = s.esp.nextStatesStartIndex)
  part : ∀ i < s.covered, i < s.catalog.size ∧ (i ∈ s.catalog.queued ∨ s.Shows i)
  whole : s.complete = true → s.catalog.runtimeFullSyncRequired = false →
    ∀ i < s.catalog.size, i ∈ s.catalog.queued ∨ s.Shows i

theorem start_states : StatesOk .start where
  queue := empty_queueOk
  strings n m b h := by
    cases h with
    | inl h => cases h
    | inr h => cases h
  write r h := by cases h
  chunk h := by cases h
  part i h := by cases h
  whole h := by cases h

variable {s : LinkState}

theorem brings_iff : statesStream.brings s.response = s.chunkUnderWay.isSome := by
  rw [Stream.brings, LinkState.chunkUnderWay]
  cases s.response with
  | none => rfl
  | some f =>
    obtain ⟨generation, sequence, payload⟩ := f
    cases payload <;> rfl

theorem chunkUnderWay_none (h : statesStream.brings s.response = false) :
    s.chunkUnderWay = none := by
  rw [brings_iff] at h
  cases hchunk : s.chunkUnderWay with
  | none => rfl
  | some chunk =>
    rw [hchunk] at h
    cases h

theorem covered_of_no_chunk (h : s.chunkUnderWay = none) : s.covered =
    if s.loadsStates then if s.awaitsChunk then s.esp.nextStatesStartIndex else 0 else 0 := by
  rw [LinkState.covered, h]

theorem complete_of_no_chunk (h : s.chunkUnderWay = none) : s.complete =
    (s.esp.capsResponseSeen && s.esp.defsResponseSeen && s.esp.statesResponseSeen) := by
  rw [LinkState.complete, h, Option.any_none, Bool.or_false]

theorem covered_zero (h : s.loadsStates = false) : s.covered = 0 := by
  rw [LinkState.covered, h]
  rfl

theorem loadsStates_iff : s.loadsStates = true ↔ s.esp.capsResponseSeen = true ∧
    s.esp.defsResponseSeen = true ∧ s.esp.statesResponseSeen = false := by
  simp [LinkState.loadsStates, and_assoc]

/-- The step keeps the points, and what the ESP32 has or will have of each point that counts. -/
structure Carries (s s' : LinkState) : Prop where
  covered : s'.covered ≤ s.covered
  complete : s'.complete = true → s.complete = true
  shows : ∀ i, (i < s'.covered ∨ s'.complete = true) → ∀ r, s.view i = some r → s'.view i = some r

variable {s' : LinkState}

theorem StatesOk.carried (h : StatesOk s) (hcatalog : s'.catalog = s.catalog)
    (hresolve : s'.resolvePointState = s.resolvePointState) (hcarries : Carries s s')
    (hstrings : ∀ n m b, s'.request = some (.getStatesSnapshot n m b) ∨
      s'.serving = some (.getStatesSnapshot n m b) → b = true)
    (hwrite : ∀ r, s'.esp.pendingWriteState = some r → statesStream.asked r = none)
    (hchunk : s'.esp.capsResponseSeen = true → ∀ f chunk records, s'.response = some f →
      f.payload = .statesSnapshot chunk records → chunk.returnedRecordCount = records.length ∧
        (∀ r ∈ records, r.pointIndex < chunk.totalPointCount) ∧
        (s'.esp.defsResponseSeen = true → chunk.returnedStartIndex = s'.esp.nextStatesStartIndex)) :
    StatesOk s' := by
  have hshows : ∀ i, (i < s'.covered ∨ s'.complete = true) → s.Shows i → s'.Shows i := by
    intro i hi hshows
    obtain ⟨r, r', hview, hcurrent, hsame⟩ := hshows
    refine ⟨r, r', hcarries.shows i hi r hview, ?_, hsame⟩
    rw [LinkState.record, hresolve, hcatalog]
    exact hcurrent
  refine ⟨by rw [hcatalog]; exact h.queue, hstrings, hwrite, hchunk, fun i hi => ?_,
    fun hcomplete hrequired i hi => ?_⟩
  · obtain ⟨hsize, hqueued⟩ := h.part i (Nat.lt_of_lt_of_le hi hcarries.covered)
    rw [hcatalog]
    exact ⟨hsize, hqueued.imp_right (hshows i (.inl hi))⟩
  · rw [hcatalog] at hrequired hi ⊢
    exact (h.whole (hcarries.complete hcomplete) hrequired i hi).imp_right
      (hshows i (.inr hcomplete))

theorem Carries.of_nothing (hcovered : s'.covered = 0) (hcomplete : s'.complete = false) :
    Carries s s' where
  covered := by
    rw [hcovered]
    exact Nat.zero_le _
  complete h := (Esp.false_of_flag h hcomplete).elim
  shows i hi := by
    obtain hi | hi := hi
    · rw [hcovered] at hi
      cases hi
    · exact (Esp.false_of_flag hi hcomplete).elim

theorem StatesOk.without_caps (h : StatesOk s) {esp : Esp} {request : Option Request}
    {response : Option Frame} (hseen : esp.capsResponseSeen = false)
    (hwrite : ∀ r, esp.pendingWriteState = some r → statesStream.asked r = none)
    (hrequest : ∀ n m b, request = some (.getStatesSnapshot n m b) → b = true) :
    StatesOk { s with esp := esp, request := request, response := response } := by
  refine h.carried rfl rfl (.of_nothing (covered_zero ?_) ?_) (fun n m b hb => ?_) hwrite
    fun hcaps => (Esp.false_of_flag hcaps hseen).elim
  · rw [LinkState.loadsStates, hseen]
    rfl
  · rw [LinkState.complete, hseen]
    rfl
  · exact hb.elim (hrequest n m b) fun hserving => h.strings n m b (.inr hserving)

variable {f : Frame}

theorem absorbed_view (hf : s.response = some f)
    (hupdates : ∀ chunk records, f.payload ≠ .statesSnapshot chunk records) {i : Nat}
    {r : StateRecord} (hview : s.view i = some r) : (s.esp.absorbedRecords f)[i]? = some r := by
  rw [LinkState.view, hf, Option.bind_some] at hview
  rw [Esp.absorbedRecords]
  cases hpayload : f.payload with
  | statesUpdates statesSequence records =>
    rw [hpayload] at hview
    exact foldl_update hview
  | statesSnapshot chunk records => exact absurd hpayload (hupdates chunk records)
  | _ =>
    rw [hpayload] at hview
    exact hview

theorem StatesOk.absorbed (h : StatesOk s) (hflags : s.esp.FlagsOk)
    (hpipeline : statesStream.PipelineOk s) (hf : s.response = some f) (sequence : UInt32)
    (keepsWrite : Bool) : StatesOk { s with
      esp := s.esp.touched (s.esp.absorbedRecords f) sequence keepsWrite, response := none } := by
  have hwrite : ∀ r, (s.esp.touched (s.esp.absorbedRecords f) sequence
      keepsWrite).pendingWriteState = some r → statesStream.asked r = none := by
    intro r hr
    cases keepsWrite with
    | true => exact h.write r hr
    | false => cases hr
  cases hseen : s.esp.capsResponseSeen with
  | false => exact h.without_caps hseen hwrite fun n m b hb => h.strings n m b (.inl hb)
  | true =>
    refine h.carried rfl rfl ?_ h.strings hwrite fun _ f' _ _ hf' => (by cases hf')
    cases hbrings : statesStream.brings s.response with
    | true =>
      -- the chunk is lost, and no other is under way
      have hcurrent := hpipeline.current hseen
      have hsent : s.esp.statesRequestSent = true := hcurrent.response hbrings
      have hrequest : s.request.bind statesStream.asked = none := by
        change statesStream.asks s.request = none
        cases hasks : statesStream.asks s.request with
        | none => rfl
        | some n => exact (Esp.false_of_flag hbrings (hcurrent.request n hasks).2.2.2).elim
      have hserving := hpipeline.slots f hf
      refine .of_nothing ?_ ?_
      · rw [covered_of_no_chunk rfl]
        simp [LinkState.awaitsChunk, Esp.touched, hsent, hrequest, hserving, Stream.asks]
      · rw [complete_of_no_chunk rfl]
        simp [Esp.touched, hflags.statesSent hsent]
    | false =>
      have hchunk := chunkUnderWay_none hbrings
      refine ⟨?_, fun hcomplete => ?_, fun i _ r hview => ?_⟩
      · rw [covered_of_no_chunk hchunk, covered_of_no_chunk rfl]
        exact Nat.le_refl _
      · rw [complete_of_no_chunk rfl] at hcomplete
        rw [complete_of_no_chunk hchunk]
        exact hcomplete
      · refine absorbed_view hf (fun chunk records hpayload => ?_) hview
        rw [hf, Stream.brings, Option.map_some, hpayload] at hbrings
        cases hbrings

variable {chunk : StatesSnapshotChunkPrefix}

theorem statesChunkSeen_more (esp : Esp) (records : List StateRecord) (hmore : chunk.more = true) :
    esp.statesChunkSeen chunk records =
      { esp.storeSnapshotChunk chunk records with
        statesRequestSent := false
        nextStatesStartIndex := if chunk.returnedRecordCount = 0 then esp.nextStatesStartIndex
          else chunk.returnedStartIndex + chunk.returnedRecordCount } := by
  rw [Esp.statesChunkSeen, hmore]
  by_cases hempty : chunk.returnedRecordCount = 0
  · simp only [hempty, decide_true, Bool.and_true, if_true]
    rfl
  · simp only [hempty, decide_false, Bool.and_false, Bool.false_eq_true, if_false, if_true]

theorem statesChunkSeen_last (esp : Esp) (records : List StateRecord) (hmore : chunk.more = false) :
    esp.statesChunkSeen chunk records =
      { esp.storeSnapshotChunk chunk records with
        statesRequestSent := false
        nextStatesStartIndex := chunk.returnedStartIndex + chunk.returnedRecordCount
        statesResponseSeen := true
        runtimeResyncViewActive := false
        havePublishedSnapshot := true } := by
  rw [Esp.statesChunkSeen, hmore]
  rfl

theorem covered_le_place (h : s.chunkUnderWay = none) : s.covered ≤ s.esp.nextStatesStartIndex := by
  rw [covered_of_no_chunk h]
  split
  · split
    · exact Nat.le_refl _
    · exact Nat.zero_le _
  · exact Nat.zero_le _

theorem Carries.of_start (hchunk : s'.chunkUnderWay = none)
    (hplace : s'.esp.nextStatesStartIndex = 0) (hnone : s'.esp.statesResponseSeen = false) :
    Carries s s' := by
  refine .of_nothing (Nat.eq_zero_of_le_zero ?_) ?_
  · exact hplace ▸ covered_le_place hchunk
  · rw [complete_of_no_chunk hchunk, hnone, Bool.and_false]

theorem StatesOk.restarted (h : StatesOk s) {esp : Esp}
    (hplace : esp.nextStatesStartIndex = 0) (hseen : esp.statesResponseSeen = false)
    (hwrite : ∀ r, esp.pendingWriteState = some r → statesStream.asked r = none) :
    StatesOk { s with esp := esp, response := none } :=
  h.carried rfl rfl (.of_start rfl hplace hseen) h.strings hwrite fun _ f' _ _ hf' => by cases hf'

theorem covered_mono (h : s.chunkUnderWay = none) (h' : s'.chunkUnderWay = none)
    (hloads : s'.loadsStates = true → s.loadsStates = true)
    (hawaits : s'.awaitsChunk = true → s.awaitsChunk = true)
    (hplace : s'.esp.nextStatesStartIndex ≤ s.esp.nextStatesStartIndex) :
    s'.covered ≤ s.covered := by
  rw [covered_of_no_chunk h, covered_of_no_chunk h']
  by_cases hloads' : s'.loadsStates = true
  · rw [if_pos hloads', if_pos (hloads hloads')]
    by_cases hawaits' : s'.awaitsChunk = true
    · rw [if_pos hawaits', if_pos (hawaits hawaits')]
      exact hplace
    · rw [if_neg hawaits']
      exact Nat.zero_le _
  · rw [if_neg hloads']
    exact Nat.zero_le _

theorem statesChunkSeen_carries (h : StatesOk s) (hcaps : s.esp.capsResponseSeen = true)
    (hdefs : s.esp.defsResponseSeen = true) (hnone : s.esp.statesResponseSeen = false)
    (hf : s.response = some f) {records : List StateRecord}
    (hpayload : f.payload = .statesSnapshot chunk records) :
    Carries s { s with esp := s.esp.statesChunkSeen chunk records, response := none } := by
  obtain ⟨hcount, htotal, hplace⟩ := h.chunk hcaps f chunk records hf hpayload
  have hunder : s.chunkUnderWay = some chunk := by
    rw [LinkState.chunkUnderWay, hf, Option.bind_some, hpayload]
  have hcached : ∀ i r, s.view i = some r →
      (s.esp.storeSnapshotChunk chunk records).stateRecords[i]? = some r := by
    intro i r hview
    rw [LinkState.view, hf, Option.bind_some, hpayload] at hview
    exact foldl_snapshot htotal hview
  cases hmore : chunk.more with
  | true =>
    have hloads : s.loadsStates = true := loadsStates_iff.mpr ⟨hcaps, hdefs, hnone⟩
    have hcovered : s.covered = chunk.returnedStartIndex + chunk.returnedRecordCount := by
      rw [LinkState.covered, hloads, hunder]
      simp [hmore]
    rw [statesChunkSeen_more s.esp records hmore]
    refine ⟨Nat.le_trans (covered_le_place rfl) ?_, fun hcomplete => ?_,
      fun i _ r hview => hcached i r hview⟩
    · dsimp only
      rw [hcovered, hplace hdefs]
      split
      · exact Nat.le_add_right _ _
      · exact Nat.le_refl _
    · rw [complete_of_no_chunk rfl] at hcomplete
      simp [Esp.storeSnapshotChunk, hnone] at hcomplete
  | false =>
    have hcomplete : s.complete = true := by
      rw [LinkState.complete, hunder, hcaps, hdefs]
      simp [hmore]
    rw [statesChunkSeen_last s.esp records hmore]
    refine ⟨?_, fun _ => hcomplete, fun i _ r hview => hcached i r hview⟩
    rw [covered_zero]
    · exact Nat.zero_le _
    · simp [LinkState.loadsStates]

theorem StatesOk.statesChunkSeen (h : StatesOk s) (hcaps : s.esp.capsResponseSeen = true)
    (hdefs : s.esp.defsResponseSeen = true) (hnone : s.esp.statesResponseSeen = false)
    (hf : s.response = some f) {records : List StateRecord}
    (hpayload : f.payload = .statesSnapshot chunk records) :
    StatesOk { s with esp := s.esp.statesChunkSeen chunk records, response := none } := by
  have hpending : (s.esp.statesChunkSeen chunk records).pendingWriteState =
      s.esp.pendingWriteState := by
    obtain ⟨cached, sequence, place, seen, view, published, hseen⟩ :=
      Esp.statesChunkSeen_eq s.esp chunk records
    rw [hseen]
  exact h.carried rfl rfl (statesChunkSeen_carries h hcaps hdefs hnone hf hpayload) h.strings
    (fun r hr => h.write r (hpending.symm.trans hr)) fun _ f' _ _ hf' => (by cases hf')

theorem StatesOk.read (h : StatesOk s) (hflags : s.esp.FlagsOk)
    (hpipeline : statesStream.PipelineOk s) (hf : s.response = some f) {as : Esp.ReadAs}
    {rxReady responseReady : Bool} (hguard : s.esp.Guard rxReady responseReady (.read as)) :
    StatesOk { s with esp := s.esp.readResponse f as, response := none } := by
  have hreads := s.esp.readResponse_reads f as
  generalize s.esp.readResponse f as = next at hreads ⊢
  cases hreads with
  | absorbs sequence keepsWrite _ => exact h.absorbed hflags hpipeline hf sequence keepsWrite
  | resyncs records sequence keepsWrite g =>
    exact h.without_caps rfl (fun r hr => by cases hr) fun n m b hb => h.strings n m b (.inl hb)
  | caps m n g q has _ =>
    rw [has] at hguard
    obtain ⟨-, hstates, hplace, -⟩ := hflags.noCaps hguard.2.1
    exact h.restarted hplace hstates h.write
  | defs chunk records has _ =>
    rw [has] at hguard
    obtain ⟨hstates, hplace, -⟩ := hflags.noDefs hguard.2.1
    obtain ⟨cached, total, hstored⟩ :=
      Esp.storeDefsChunk_eq { s.esp with defsRequestSent := false } chunk records
    have hseen : (s.esp.defsChunkSeen chunk records).statesResponseSeen = false ∧
        (s.esp.defsChunkSeen chunk records).nextStatesStartIndex = 0 ∧
        (s.esp.defsChunkSeen chunk records).pendingWriteState = s.esp.pendingWriteState := by
      rw [Esp.defsChunkSeen, hstored]
      exact ⟨hstates, hplace, rfl⟩
    exact h.restarted hseen.2.1 hseen.1 fun r hr => h.write r (hseen.2.2.symm.trans hr)
  | states chunk records has hpayload =>
    rw [has] at hguard
    obtain ⟨hcaps, hdefs⟩ := hflags.seen_of_readStates hguard
    exact h.statesChunkSeen hcaps hdefs hguard.2.1 hf hpayload

/-- A request for a chunk keeps what is loaded before the place from which it asks. -/
theorem StatesOk.sendStates (h : StatesOk s) (hpipeline : statesStream.PipelineOk s)
    (hsent : s.esp.statesRequestSent = false)
    (hnone : s.esp.statesResponseSeen = false) :
    StatesOk (s.sent (s.esp.sendStatesSnapshotRequest s.esp.nextStatesStartIndex)) := by
  rw [Esp.sendStatesSnapshotRequest]
  dsimp only
  split
  · rw [LinkState.sent]
    exact h
  · have hstrings : ∀ n m b, some (Request.getStatesSnapshot s.esp.nextStatesStartIndex
        s.esp.computeMaxStateRecords true) = some (.getStatesSnapshot n m b) ∨
        s.serving = some (.getStatesSnapshot n m b) → b = true := by
      intro n m b hb
      obtain hb | hb := hb
      · cases hb
        rfl
      · exact h.strings n m b (.inr hb)
    refine h.carried rfl rfl ?_ hstrings h.write h.chunk
    by_cases hseen : s.esp.capsResponseSeen = true
    · have hchunk := chunkUnderWay_none ((hpipeline.current hseen).none_of_not_waiting hsent).2
      generalize hnext : s.sent _ = next
      have hchunk' : next.chunkUnderWay = none := by
        rw [← hnext]
        exact hchunk
      have hcomplete : next.complete = false := by
        rw [complete_of_no_chunk hchunk', ← hnext]
        simp [LinkState.sent, hnone]
      refine ⟨covered_mono hchunk hchunk' ?_ (fun _ => ?_) ?_,
        fun hcomplete' => (Esp.false_of_flag hcomplete' hcomplete).elim, fun i hi r hview => ?_⟩
      · rw [← hnext]
        exact id
      · rw [LinkState.awaitsChunk, hsent]
        rfl
      · rw [← hnext]
        exact Nat.le_refl _
      · have hle := Nat.lt_of_lt_of_le (hi.resolve_right fun hcomplete' =>
          Esp.false_of_flag hcomplete' hcomplete) (covered_le_place hchunk')
        rw [← hnext] at hle ⊢
        have hplace : s.esp.nextStatesStartIndex ≠ 0 :=
          Nat.ne_of_gt (Nat.lt_of_le_of_lt (Nat.zero_le _) hle)
        rw [LinkState.view] at hview ⊢
        simpa [LinkState.sent, hplace] using hview
    · refine .of_nothing (covered_zero ?_) ?_
      · simp [LinkState.loadsStates, LinkState.sent, hseen]
      · simp [LinkState.complete, LinkState.sent, hseen]

theorem refreshStates_spec (esp : Esp) : esp.refreshStates.1.nextStatesStartIndex = 0 ∧
    esp.refreshStates.1.statesResponseSeen = false ∧
    esp.refreshStates.1.pendingWriteState = esp.pendingWriteState ∧
    ∀ n m b, esp.refreshStates.2 = some (.getStatesSnapshot n m b) → b = true := by
  rw [Esp.refreshStates, Esp.sendStatesSnapshotRequest]
  dsimp only
  split
  · exact ⟨rfl, rfl, rfl, fun n m b hb => by cases hb⟩
  · exact ⟨rfl, rfl, rfl, fun n m b hb => by cases hb; rfl⟩

theorem StatesOk.refresh (h : StatesOk s) (hpipeline : statesStream.PipelineOk s)
    (hrequest : s.request = none) (hseen : s.esp.capsResponseSeen = true)
    (hsent : s.esp.statesRequestSent = false) : StatesOk (s.sent s.esp.refreshStates) := by
  have hbrings := ((hpipeline.current hseen).none_of_not_waiting hsent).2
  obtain ⟨hplace, hnone, hpending, hstrings⟩ := refreshStates_spec s.esp
  refine h.carried rfl rfl (.of_start (chunkUnderWay_none hbrings) hplace hnone) (fun n m b hb => ?_)
    (fun r hr => h.write r (hpending.symm.trans hr)) fun _ f chunk records hf hpayload => ?_
  · obtain hb | hb := hb
    · rw [LinkState.sent, hrequest, Option.or_none] at hb
      exact hstrings n m b hb
    · exact h.strings n m b (.inr hb)
  · rw [show s.response = some f from hf, Stream.brings, Option.map_some, hpayload] at hbrings
    cases hbrings

theorem StatesOk.other (h : StatesOk s) {esp : Esp} {request : Option Request}
    (hrequest : s.request = none) (hasks : statesStream.asks request = none)
    (hcaps : esp.capsResponseSeen = s.esp.capsResponseSeen)
    (hdefs : esp.defsResponseSeen = s.esp.defsResponseSeen)
    (hstates : esp.statesResponseSeen = s.esp.statesResponseSeen)
    (hsent : esp.statesRequestSent = s.esp.statesRequestSent)
    (hplace : esp.nextStatesStartIndex = s.esp.nextStatesStartIndex)
    (hrecords : esp.stateRecords = s.esp.stateRecords)
    (hwrite : esp.pendingWriteState = s.esp.pendingWriteState) :
    StatesOk (s.sent (esp, request)) := by
  have hnone : statesStream.asks (request.or s.request) = statesStream.asks s.request := by
    rw [hrequest, Option.or_none, hasks]
    rfl
  refine h.carried rfl rfl ⟨Nat.le_of_eq ?_, fun hcomplete => ?_, fun i _ r hview => ?_⟩
    (fun n m b hb => ?_) (fun r hr => h.write r (hwrite.symm.trans hr)) ?_
  · simp only [LinkState.covered, LinkState.loadsStates, LinkState.awaitsChunk, LinkState.sent,
      LinkState.chunkUnderWay, hcaps, hdefs, hstates, hsent, hplace, hnone]
    rfl
  · simpa only [LinkState.complete, LinkState.sent, LinkState.chunkUnderWay, hcaps, hdefs,
      hstates] using hcomplete
  · simpa only [LinkState.view, LinkState.sent, hrecords] using hview
  · obtain hb | hb := hb
    · have hb : request = some (.getStatesSnapshot n m b) := by
        rw [LinkState.sent, hrequest, Option.or_none] at hb
        exact hb
      rw [hb] at hasks
      cases hasks
    · exact h.strings n m b (.inr hb)
  · simp only [LinkState.sent, hcaps, hdefs, hplace]
    exact h.chunk

theorem StatesOk.poll (h : StatesOk s) (hflags : s.esp.FlagsOk)
    (hpipeline : statesStream.PipelineOk s) (timedOut : Bool) : StatesOk (s.poll timedOut) := by
  have hguard := s.esp.pollAction_guard s.request.isSome s.response.isSome timedOut
  rw [LinkState.poll]
  generalize s.esp.pollAction _ _ _ = action at hguard ⊢
  have hnone : s.request.isSome = false → s.request = none := by
    cases s.request with
    | none => simp
    | some r => simp
  have hrequest : ∀ n m b, s.request = some (.getStatesSnapshot n m b) → b = true :=
    fun n m b hb => h.strings n m b (.inl hb)
  cases action with
  | nothing => exact h
  | drain => exact h.without_caps rfl (fun r hr => by cases hr) hrequest
  | resetMailbox => exact h.without_caps rfl (fun r hr => by cases hr) fun n m b hb => by cases hb
  | capsTimeout => exact h.without_caps rfl (fun r hr => by cases hr) fun n m b hb => by cases hb
  | sendCaps =>
    exact h.without_caps (hflags.caps_of_guard hguard) h.write fun n m b hb => by cases hb
  | sendDefs =>
    have hsent : ∀ p : Esp × Option Request, s.sent p = s.sent (p.1, p.2) := fun _ => rfl
    rw [LinkState.polled, hsent]
    refine h.other (hnone hguard.2.2.2) ?_ ?_ ?_ ?_ ?_ ?_ ?_ ?_
    all_goals
      rw [Esp.sendDefsSnapshotRequest]
      split <;> rfl
  | sendStates =>
    obtain ⟨-, hsent, hstates, -⟩ := hguard
    exact h.sendStates hpipeline hsent hstates
  | refresh =>
    obtain ⟨hseen, -, hsent, hready, -⟩ := hguard
    exact h.refresh hpipeline (hnone hready) hseen hsent
  | sendWriteState =>
    refine h.other (hnone hguard.2.1) ?_ rfl rfl rfl rfl rfl rfl rfl
    cases hpending : s.esp.pendingWriteState with
    | none => rfl
    | some r => exact h.write r hpending
  | read as =>
    rw [LinkState.polled]
    cases hf : s.response with
    | none => exact h
    | some f => exact h.read hflags hpipeline hf hguard

end NodeNet.Link

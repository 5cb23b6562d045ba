import NodeNet.Link.StatesOk

/-! What the SoC answers and sends by itself keeps the states in order. -/
namespace NodeNet.Link
open NodeNet.Points NodeNet.Catalog NodeNet.Machine

section
variable {s : LinkState}

theorem StatesOk.take (h : StatesOk s) : StatesOk s.take := by
  rw [LinkState.take]
  split
  · rename_i hempty
    obtain ⟨hserving, hresponse⟩ := hempty
    refine h.carried rfl rfl ⟨?_, fun hcomplete => hcomplete, fun i _ r hview => hview⟩
      (fun n m b hb => ?_) h.write h.chunk
    · have hchunk : s.chunkUnderWay = none := by
        rw [LinkState.chunkUnderWay, hresponse]
        rfl
      refine covered_mono hchunk hchunk id (fun hawaits => ?_) (Nat.le_refl _)
      simpa [LinkState.awaitsChunk, hserving, Stream.asks] using hawaits
    · obtain hb | hb := hb
      · cases hb
      · exact h.strings n m b (.inl hb)
  · exact h

theorem StatesOk.answered (h : StatesOk s) (hresponse : s.response = none)
    (hserving : statesStream.asks s.serving = none) {f : Frame}
    (hanswers : statesStream.answers f.payload = false) (hrecords : f.payload.records = []) :
    StatesOk { s with serving := none, response := some f } := by
  have hchunk : s.chunkUnderWay = none := by
    rw [LinkState.chunkUnderWay, hresponse]
    rfl
  have hchunk' : LinkState.chunkUnderWay { s with serving := none, response := some f } = none :=
    chunkUnderWay_none hanswers
  refine h.carried rfl rfl ⟨covered_mono hchunk hchunk' id (fun hawaits => ?_) (Nat.le_refl _),
    fun hcomplete => ?_, fun i _ r hview => ?_⟩ (fun n m b hb => ?_) h.write
    fun _ f' chunk records hf hpayload => ?_
  · rw [LinkState.awaitsChunk, hserving]
    exact hawaits
  · rw [complete_of_no_chunk hchunk'] at hcomplete
    rw [complete_of_no_chunk hchunk]
    exact hcomplete
  · rw [LinkState.view, hresponse] at hview
    rw [LinkState.view, Option.bind_some, hrecords]
    exact hview
  · obtain hb | hb := hb
    · exact h.strings n m b (.inl hb)
    · cases hb
  · cases hf
    rw [hpayload] at hanswers
    cases hanswers

theorem service_other {p : ResolvePointState} {c : PointCatalog} {writeStatus : UInt8} {r : Request}
    (hr : statesStream.asked r = none) : (service p c writeStatus r).2 = c ∧
      (service p c writeStatus r).1.payload.records = [] := by
  cases r with
  | getCaps => exact ⟨rfl, rfl⟩
  | getDefsSnapshot resumeOffset maxChunkPayload requestedGeneration => exact ⟨rfl, rfl⟩
  | getStatesSnapshot startIndex maxRecords includeStrings => cases hr
  | writeState pointIndex expectedValueType valueBits =>
    rw [service]
    refine ⟨rfl, ?_⟩
    obtain ⟨type, h⟩ | ⟨code, related, h⟩ :=
      writeStateResponse_payload c pointIndex expectedValueType writeStatus
    · rw [h]
      rfl
    · rw [h]
      rfl

theorem StatesOk.asked (h : StatesOk s) (hflags : s.esp.FlagsOk)
    (hpipeline : statesStream.PipelineOk s) (hresponse : s.response = none) {n : Nat}
    (hasks : statesStream.asks s.serving = some n) (hcaps : s.esp.capsResponseSeen = true)
    (hdefs : s.esp.defsResponseSeen = true) :
    s.esp.statesResponseSeen = false ∧ n = s.esp.nextStatesStartIndex ∧ n ≤ s.catalog.size ∧
      ∀ i < n, i ∈ s.catalog.queued ∨ s.Shows i := by
  obtain ⟨hsent, hplace⟩ := (hpipeline.current hcaps).serving n hasks
  have hnone := hflags.statesSent hsent
  have hchunk : s.chunkUnderWay = none := by
    rw [LinkState.chunkUnderWay, hresponse]
    rfl
  have hawaits : s.awaitsChunk = true := by
    rw [LinkState.awaitsChunk, hasks, Option.isSome_some, Bool.or_true]
  have hcovered : s.covered = n := by
    rw [covered_of_no_chunk hchunk, if_pos (loadsStates_iff.mpr ⟨hcaps, hdefs, hnone⟩),
      if_pos hawaits]
    exact hplace.symm
  refine ⟨hnone, hplace, ?_, fun i hi => (h.part i (by omega)).2⟩
  by_cases hzero : n = 0
  · omega
  · have hlast := (h.part (n - 1) (by omega)).1
    omega

/-- A chunk of the snapshot is under way, built from the points as they are. -/
structure Served (s s' : LinkState) (n : Nat) (f : Frame) (chunk : StatesSnapshotChunkPrefix)
    (records : List StateRecord) : Prop where
  response : s'.response = some f
  payload : f.payload = .statesSnapshot chunk records
  snapshot : SnapshotOf (resolved s.resolvePointState s.catalog) n chunk records
  esp : s'.esp = s.esp
  resolve : s'.resolvePointState = s.resolvePointState
  entries : s'.catalog.entries = s.catalog.entries
  queue : s'.catalog.dirtyStateQueue = s.catalog.dirtyStateQueue

variable {s' : LinkState} {n : Nat} {f : Frame} {chunk : StatesSnapshotChunkPrefix}
  {records : List StateRecord}

theorem Served.shows (h : Served s s' n f chunk records) (hresponse : s.response = none) {i : Nat}
    (hi : s.Shows i ∨ chunk.returnedStartIndex ≤ i ∧
      i < chunk.returnedStartIndex + records.length) : s'.Shows i := by
  have hcurrent : ∀ j, s'.record j = s.record j := by
    intro j
    rw [LinkState.record, LinkState.record, currentRecord_resolved, currentRecord_resolved,
      h.resolve, h.entries]
  have hview : s'.view i = (latest i records).or s.esp.stateRecords[i]? := by
    rw [LinkState.view, h.response, Option.bind_some, h.payload, h.esp]
    rfl
  cases hlatest : latest i records with
  | some r =>
    obtain ⟨hmem, hindex⟩ := latest_mem hlatest
    refine ⟨r, r, by rw [hview, hlatest]; rfl, ?_, rfl⟩
    rw [hcurrent, ← hindex]
    exact h.snapshot.current r hmem
  | none =>
    obtain hshows | ⟨hfirst, hlast⟩ := hi
    · obtain ⟨r, r', hview', hcurrent', hsame⟩ := hshows
      refine ⟨r, r', ?_, by rw [hcurrent]; exact hcurrent', hsame⟩
      rw [hview, hlatest]
      rw [LinkState.view, hresponse] at hview'
      exact hview'
    · obtain ⟨r, hmem, hindex⟩ := h.snapshot.named i hfirst hlast
      obtain ⟨r', hr'⟩ := latest_isSome hmem hindex
      rw [hlatest] at hr'
      cases hr'

theorem Served.ok (hserved : Served s s' n f chunk records) (h : StatesOk s)
    (hflags : s.esp.FlagsOk) (hpipeline : statesStream.PipelineOk s) (hresponse : s.response = none)
    (hasks : statesStream.asks s.serving = some n) (hqueue : QueueOk s'.catalog)
    (hrequest : s'.request = s.request) (hserving : s'.serving = none) : StatesOk s' := by
  have hunder : s'.chunkUnderWay = some chunk := by
    rw [LinkState.chunkUnderWay, hserved.response, Option.bind_some, hserved.payload]
  have hsize : s'.catalog.size = s.catalog.size := by
    rw [PointCatalog.size, PointCatalog.size, hserved.entries]
  obtain ⟨hplaced, hcount, hbounded, hmore, htotal, -, -⟩ := hserved.snapshot
  rw [resolved_size] at hplaced hbounded hmore
  have hshown : s'.esp.capsResponseSeen = true → s'.esp.defsResponseSeen = true →
      ∀ i < chunk.returnedStartIndex + records.length, i ∈ s'.catalog.queued ∨ s'.Shows i := by
    rw [hserved.esp]
    intro hcaps hdefs i hi
    obtain ⟨-, -, hbound, hbefore⟩ := h.asked hflags hpipeline hresponse hasks hcaps hdefs
    rw [PointCatalog.queued, hserved.queue]
    by_cases hfirst : i < n
    · exact (hbefore i hfirst).imp_right fun hshows => hserved.shows hresponse (.inl hshows)
    · exact .inr (hserved.shows hresponse (.inr ⟨by omega, hi⟩))
  refine ⟨hqueue, fun n' m b hb => ?_, ?_, fun hcaps f' chunk' records' hf' hpayload' => ?_,
    fun i hi => ?_, fun hcomplete _ i hi => ?_⟩
  · rw [hrequest, hserving] at hb
    obtain hb | hb := hb
    · exact h.strings n' m b (.inl hb)
    · cases hb
  · rw [hserved.esp]
    exact h.write
  · cases hserved.response.symm.trans hf'
    cases hserved.payload.symm.trans hpayload'
    refine ⟨hcount, htotal, ?_⟩
    rw [hserved.esp] at hcaps ⊢
    intro hdefs
    obtain ⟨-, hplace, hbound, -⟩ := h.asked hflags hpipeline hresponse hasks hcaps hdefs
    rw [hplaced, Nat.min_eq_left hbound]
    exact hplace
  · rw [LinkState.covered, hunder] at hi
    by_cases hloads : s'.loadsStates = true
    · rw [if_pos hloads] at hi
      obtain ⟨hcaps, hdefs, -⟩ := loadsStates_iff.mp hloads
      have hi' : i < chunk.returnedStartIndex + records.length := by
        cases hlast : chunk.more with
        | true => simpa [hlast, hcount] using hi
        | false => simp [hlast] at hi
      rw [hsize]
      exact ⟨Nat.lt_of_lt_of_le hi' hbounded, hshown hcaps hdefs i hi'⟩
    · rw [if_neg hloads] at hi
      cases hi
  · rw [LinkState.complete, hunder] at hcomplete
    simp only [Bool.and_eq_true, Bool.or_eq_true, Option.any_some, Bool.not_eq_true'] at hcomplete
    obtain ⟨⟨hcaps, hdefs⟩, hdone⟩ := hcomplete
    refine hshown hcaps hdefs i ?_
    rw [hserved.esp] at hcaps hdefs hdone
    have hlast := hdone.resolve_left fun hseen =>
      Esp.false_of_flag hseen (h.asked hflags hpipeline hresponse hasks hcaps hdefs).1
    rw [hlast] at hmore
    have hnot := of_decide_eq_false hmore.symm
    rw [hsize] at hi
    omega

theorem StatesOk.served (h : StatesOk s) (hflags : s.esp.FlagsOk)
    (hpipeline : statesStream.PipelineOk s) (hresponse : s.response = none) {m : Nat}
    (hserving : s.serving = some (.getStatesSnapshot n m true)) (writeStatus : UInt8) :
    StatesOk { s with
      catalog := (service s.resolvePointState s.catalog writeStatus (.getStatesSnapshot n m true)).2
      serving := none
      response := some
        (service s.resolvePointState s.catalog writeStatus (.getStatesSnapshot n m true)).1 } := by
  obtain ⟨chunk, records, hpayload, hmore, hsnapshot⟩ :=
    statesSnapshotFrame_snapshotOf (resolved s.resolvePointState s.catalog) n m
  have hasks : statesStream.asks s.serving = some n := by
    rw [hserving]
    rfl
  have hc : (service s.resolvePointState s.catalog writeStatus (.getStatesSnapshot n m true)).2 =
      if chunk.more then s.catalog else s.catalog.acknowledgeRuntimeFullSync := by
    rw [service]
    dsimp only
    rw [statesSnapshotResponse, hmore]
  refine @Served.ok s _ n _ chunk records
    ⟨rfl, hpayload, hsnapshot, rfl, rfl, ?_, ?_⟩ h hflags hpipeline hresponse hasks ?_ rfl rfl
  · dsimp only
    rw [hc]
    split <;> rfl
  · dsimp only
    rw [hc]
    split <;> rfl
  · dsimp only
    rw [hc]
    split
    · exact h.queue
    · exact h.queue.acknowledgeRuntimeFullSync

theorem StatesOk.respond (h : StatesOk s) (hflags : s.esp.FlagsOk)
    (hpipeline : statesStream.PipelineOk s) (writeStatus : UInt8) :
    StatesOk (s.respond writeStatus) := by
  rw [LinkState.respond]
  split
  · exact h
  · rename_i r hr
    have hresponse : s.response = none := by
      cases hf : s.response with
      | none => rfl
      | some f =>
        rw [hpipeline.slots f hf] at hr
        cases hr
    cases hasked : statesStream.asked r with
    | none =>
      obtain ⟨hcatalog, hrecords⟩ := @service_other s.resolvePointState s.catalog writeStatus r hasked
      have hasks : statesStream.asks s.serving = none := by
        rw [hr]
        exact hasked
      have hanswered := h.answered hresponse hasks
        (statesStream_lawful.service s.resolvePointState s.catalog writeStatus r hasked) hrecords
      dsimp only
      rw [hcatalog]
      exact hanswered
    | some n =>
      cases r with
      | getStatesSnapshot startIndex maxRecords includeStrings =>
        have hstrings := h.strings startIndex maxRecords includeStrings (.inr hr)
        rw [hstrings] at hr ⊢
        exact h.served hflags hpipeline hresponse hr writeStatus
      | getCaps => cases hasked
      | getDefsSnapshot resumeOffset maxChunkPayload requestedGeneration => cases hasked
      | writeState pointIndex expectedValueType valueBits => cases hasked

/-- The head of the queue goes out with its state as it is. -/
theorem StatesOk.sentUpdate (h : StatesOk s) (hresponse : s.response = none) {index : Nat}
    {sequence generation : UInt32} {rest : List (Nat × UInt32)}
    (hqueue : s.catalog.dirtyStateQueue = (index, sequence) :: rest) {r : StateRecord}
    (hr : s.record index = some r) (hindex : r.pointIndex = index) :
    StatesOk { s with
      catalog := { s.catalog with
        dirtyStateQueue := rest
        dirtyStateFlags := fun i => if i = index then false else s.catalog.dirtyStateFlags i }
      response := some ⟨generation, sequence, .statesUpdates sequence [r]⟩ } := by
  have hqueued : ∀ i, i ∈ s.catalog.queued ↔ i = index ∨ i ∈ rest.map (·.1) := by
    intro i
    rw [PointCatalog.queued, hqueue]
    exact List.mem_cons
  have hchunk : s.chunkUnderWay = none := by
    rw [LinkState.chunkUnderWay, hresponse]
    rfl
  generalize hnext : LinkState.mk _ _ _ _ _ _ = next
  have hchunk' : next.chunkUnderWay = none := by
    rw [← hnext]
    rfl
  have hcovered : next.covered = s.covered := by
    rw [covered_of_no_chunk hchunk, covered_of_no_chunk hchunk', ← hnext]
    rfl
  have hview : ∀ i, next.view i = if index = i then some r else s.esp.stateRecords[i]? := by
    intro i
    rw [LinkState.view, ← hnext, Option.bind_some, Payload.records, latest, hindex]
    by_cases hi : index = i
    · rw [if_pos hi, if_pos hi]
      rfl
    · rw [if_neg hi, if_neg hi]
      rfl
  have hshows : ∀ i, i ∈ s.catalog.queued ∨ s.Shows i → i ∈ rest.map (·.1) ∨ next.Shows i := by
    intro i hi
    by_cases hsame : index = i
    · refine .inr ⟨r, r, by rw [hview, if_pos hsame], ?_, rfl⟩
      rw [← hsame, ← hnext]
      exact hr
    · rw [hqueued] at hi
      obtain (hi | hi) | ⟨r', r'', hview', hcurrent, hnormal⟩ := hi
      · exact absurd hi.symm hsame
      · exact .inl hi
      · rw [LinkState.view, hresponse] at hview'
        refine .inr ⟨r', r'', by rw [hview, if_neg hsame]; exact hview', ?_, hnormal⟩
        rw [← hnext]
        exact hcurrent
  refine ⟨?_, ?_, ?_, ?_, fun i hi => ?_, fun hcomplete hrequired i hi => ?_⟩
  · rw [← hnext]
    exact h.queue.popped hqueue
  · rw [← hnext]
    exact h.strings
  · rw [← hnext]
    exact h.write
  · rw [← hnext]
    intro _ f chunk records hf hpayload
    cases hf
    cases hpayload
  · rw [hcovered] at hi
    obtain ⟨hsize, hshown⟩ := h.part i hi
    have hshown' := hshows i hshown
    rw [← hnext] at hshown' ⊢
    exact ⟨hsize, hshown'⟩
  · rw [complete_of_no_chunk hchunk', ← hnext] at hcomplete
    have hcomplete' : s.complete = true := by
      rw [complete_of_no_chunk hchunk]
      exact hcomplete
    rw [← hnext] at hrequired hi
    have hshown' := hshows i (h.whole hcomplete' hrequired i hi)
    rw [← hnext] at hshown' ⊢
    exact hshown'

theorem StatesOk.pump (h : StatesOk s) : StatesOk s.pump := by
  rw [LinkState.pump]
  split
  · rename_i hempty
    obtain ⟨-, hserving, hresponse⟩ := hempty
    rw [pumpUpdates]
    by_cases hrequired : s.catalog.runtimeFullSyncRequired = true
    · rw [if_pos hrequired]
      have hasks : statesStream.asks s.serving = none := by
        rw [hserving]
        rfl
      have hanswered := h.answered (f := ⟨s.catalog.defsGeneration, s.catalog.statesSequence,
        .statesUpdates s.catalog.statesSequence []⟩) hresponse hasks rfl rfl
      rw [← hserving] at hanswered
      exact hanswered
    · rw [if_neg hrequired]
      cases hqueue : s.catalog.dirtyStateQueue with
      | nil =>
        dsimp only
        rw [← hresponse]
        exact h
      | cons head rest =>
        obtain ⟨index, sequence⟩ := head
        have hmem : index ∈ s.catalog.queued := by
          rw [PointCatalog.queued, hqueue]
          exact .head _
        have hlt : index < s.catalog.entries.length := h.queue.bound index hmem
        have hr : s.record index = some (stateRecord index s.catalog.entries[index].definition
            ((s.resolvePointState index s.catalog.entries[index].definition).getD
              s.catalog.entries[index].state) true) := by
          rw [LinkState.record, currentRecord_resolved, List.getElem?_eq_getElem hlt,
            Option.map_some]
        dsimp only
        rw [List.getElem?_eq_getElem hlt, dropDirty, PointCatalog.popDirtyStateIndex, hqueue]
        exact h.sentUpdate hresponse hqueue hr rfl
  · exact h

end

/-! The ESP32's states become those of the catalog. -/

/-- While a full sync is called for, a point that is loaded already keeps its value, unless the
resolver gives it another. -/
def LinkState.KeepsLoaded (s : LinkState) (index : Nat) (state : PointState) : Prop :=
  match s.catalog.entries[index]? with
  | none => True
  | some e => s.catalog.runtimeFullSyncRequired = true → index < s.covered →
      (s.resolvePointState index e.definition).isSome = true ∨
        pointStatePayloadEqual e.definition.valueType e.state state = true

instance (s : LinkState) (index : Nat) (state : PointState) :
    Decidable (s.KeepsLoaded index state) := by
  rw [LinkState.KeepsLoaded]
  split <;> infer_instance

/-- The resolver gives each point that is loaded, and not queued, the value it has. -/
def LinkState.KeepsResolved (s : LinkState) (resolvePointState : ResolvePointState) : Prop :=
  ∀ index < s.catalog.size,
    index < s.covered ∨ s.complete = true ∧ s.catalog.runtimeFullSyncRequired = false →
      index ∈ s.catalog.queued ∨
        (currentRecord (resolved resolvePointState s.catalog) index).map StateRecord.normal =
          (s.record index).map StateRecord.normal

instance (s : LinkState) (resolvePointState : ResolvePointState) :
    Decidable (s.KeepsResolved resolvePointState) :=
  Nat.decidableBallLT _ _

/-- What the points that are loaded already are spared until the last chunk is built: a change of
value while a full sync is called for, a call for a full sync that would drop one of them from
the queue, and a change of the definitions; and, then and later, a move of the runtime without a
notice. -/
def StatesUndisturbed (s : LinkState) : LinkEvent → Prop
  | .edit e => (s.catalog.edited e).defsGeneration = s.catalog.defsGeneration ∨ s.covered = 0
  | .update id state =>
    match s.catalog.lookupIndex id with
    | none => True
    | some index => s.KeepsLoaded index state
  | .store index state => s.KeepsLoaded index state
  | .requestFullSync => ∀ i ∈ s.catalog.queued, s.covered ≤ i
  | .runtime resolvePointState => s.KeepsResolved resolvePointState
  | _ => True

variable {s : LinkState}

theorem StatesOk.changed (h : StatesOk s) {index : Nat} {state : PointState} {c : PointCatalog}
    (hqueue : QueueOk c)
    (hentries : c.entries = s.catalog.entries.modify index fun e => { e with state := state })
    (hrequired : c.runtimeFullSyncRequired = s.catalog.runtimeFullSyncRequired)
    (hqueued : ∀ i ∈ s.catalog.queued, i ∈ c.queued)
    (hindex : ∀ e, s.catalog.entries[index]? = some e → index ∈ c.queued ∨
      (s.resolvePointState index e.definition).isSome = true ∨
      pointStatePayloadEqual e.definition.valueType e.state state = true ∨
      s.catalog.runtimeFullSyncRequired = true ∧ s.covered ≤ index) :
    StatesOk { s with catalog := c } := by
  have hshows : ∀ i, (i = index → s.catalog.runtimeFullSyncRequired = true → i < s.covered) →
      i ∈ s.catalog.queued ∨ s.Shows i →
      i ∈ c.queued ∨ LinkState.Shows { s with catalog := c } i := by
    intro i hcounts hi
    obtain hi | ⟨r, r', hview, hcurrent, hnormal⟩ := hi
    · exact .inl (hqueued i hi)
    · rw [LinkState.record, currentRecord_resolved, Option.map_eq_some_iff] at hcurrent
      obtain ⟨e, he, hr'⟩ := hcurrent
      by_cases hsame : i = index
      · have hnow : LinkState.record { s with catalog := c } i = some (stateRecord i e.definition
            ((s.resolvePointState i e.definition).getD state) true) := by
          rw [LinkState.record, currentRecord_resolved]
          dsimp only
          rw [hentries, hsame, List.getElem?_modify_eq, ← hsame, he]
          rfl
        cases hresolved : s.resolvePointState i e.definition with
        | some virtual =>
          rw [hresolved] at hr' hnow
          exact .inr ⟨r, r', hview, hnow.trans (congrArg some hr'), hnormal⟩
        | none =>
          rw [hresolved] at hr' hnow
          obtain hmem | hsome | hequal | ⟨hcalled, hlater⟩ := hindex e (hsame ▸ he)
          · exact .inl (hsame ▸ hmem)
          · rw [← hsame, hresolved] at hsome
            cases hsome
          · refine .inr ⟨r, _, hview, hnow, ?_⟩
            rw [hnormal, ← hr']
            exact stateRecord_normal hequal
          · have hbefore := hcounts hsame hcalled
            omega
      · refine .inr ⟨r, r', hview, ?_, hnormal⟩
        rw [LinkState.record, currentRecord_resolved]
        dsimp only
        rw [hentries, List.getElem?_modify_ne _ _ (Ne.symm hsame), he, ← hr']
        rfl
  have hsize : c.size = s.catalog.size := by
    rw [PointCatalog.size, PointCatalog.size, hentries, List.length_modify]
  refine ⟨hqueue, h.strings, h.write, h.chunk, fun i hi => ?_, fun hcomplete hcalled i hi => ?_⟩
  · obtain ⟨hlt, hshown⟩ := h.part i hi
    exact ⟨hsize.symm ▸ hlt, hshows i (fun _ _ => hi) hshown⟩
  · change i < c.size at hi
    rw [hsize] at hi
    have hnot : s.catalog.runtimeFullSyncRequired = false := hrequired.symm.trans hcalled
    refine hshows i (fun _ hcalled' => ?_) (h.whole hcomplete hnot i hi)
    exact (Esp.false_of_flag hcalled' hnot).elim

theorem StatesOk.noticed (h : StatesOk s) {index : Nat} {state : PointState}
    (hquiet : s.KeepsLoaded index state) :
    StatesOk { s with catalog := (s.catalog.setState index state).markStateDirty index } := by
  have hset := h.queue.setState index state
  obtain ⟨hentries, hrequired, hqueued, hmarked⟩ := hset.markStateDirty_spec index
  refine h.changed (hset.markStateDirty index) hentries hrequired hqueued fun e he => ?_
  have hlt : index < (s.catalog.setState index state).size := by
    rw [size_eq_of_definitions (setState_definitions s.catalog index state)]
    exact (List.getElem?_eq_some_iff.mp he).1
  cases hcalled : s.catalog.runtimeFullSyncRequired with
  | false => exact .inl (hmarked hlt hcalled)
  | true =>
    rw [LinkState.KeepsLoaded, he] at hquiet
    by_cases hloaded : index < s.covered
    · exact .inr ((hquiet hcalled hloaded).imp_right .inl)
    · exact .inr (.inr (.inr ⟨rfl, Nat.le_of_not_lt hloaded⟩))

theorem StatesOk.update (h : StatesOk s) {id : PointIdentity} {state : PointState}
    (hquiet : StatesUndisturbed s (.update id state)) :
    StatesOk { s with catalog := (s.catalog.updateState id state).getD s.catalog } := by
  rw [StatesUndisturbed] at hquiet
  rw [PointCatalog.updateState]
  cases hlookup : s.catalog.lookupIndex id with
  | none => exact h
  | some index =>
    rw [hlookup] at hquiet
    dsimp only
    cases he : s.catalog.entries[index]? with
    | none => exact h
    | some e =>
      dsimp only
      by_cases hequal : pointStatePayloadEqual e.definition.valueType e.state state = true
      · rw [if_pos hequal]
        refine h.changed (h.queue.setState index state) rfl rfl (fun i hi => hi) fun e' he' => ?_
        cases he.symm.trans he'
        exact .inr (.inr (.inl hequal))
      · rw [if_neg hequal]
        exact h.noticed hquiet

theorem StatesOk.requestFullSync (h : StatesOk s)
    (hquiet : StatesUndisturbed s .requestFullSync) :
    StatesOk { s with catalog := s.catalog.requestRuntimeFullSync } := by
  refine ⟨h.queue.requestRuntimeFullSync, h.strings, h.write, h.chunk, fun i hi => ?_,
    fun _ hrequired => (by cases hrequired)⟩
  obtain ⟨hsize, hqueued | hshows⟩ := h.part i hi
  · exact absurd hi (Nat.not_lt.mpr (hquiet i hqueued))
  · exact ⟨hsize, .inr hshows⟩

theorem StatesOk.edit (h : StatesOk s) {e : CatalogEdit} (hquiet : StatesUndisturbed s (.edit e)) :
    StatesOk { s with catalog := s.catalog.edited e } := by
  obtain hsame | ⟨hgeneration, hrequired, -⟩ := edited_cases s.catalog e
  · rw [hsame]
    exact h
  · by_cases hkept : (s.catalog.edited e).defsGeneration = s.catalog.defsGeneration
    · rw [edited_eq_of_generation hkept]
      exact h
    · have hnothing := hquiet.resolve_left hkept
      refine ⟨h.queue.edited e, h.strings, h.write, h.chunk, fun i hi => ?_,
        fun _ hnot => (Esp.false_of_flag hrequired hnot).elim⟩
      change i < s.covered at hi
      rw [hnothing] at hi
      cases hi

theorem StatesOk.runtime (h : StatesOk s) {p : ResolvePointState} (hquiet : s.KeepsResolved p) :
    StatesOk { s with resolvePointState := p } := by
  have hshows : ∀ i < s.catalog.size,
      i < s.covered ∨ s.complete = true ∧ s.catalog.runtimeFullSyncRequired = false →
        i ∈ s.catalog.queued ∨ s.Shows i →
          i ∈ s.catalog.queued ∨ LinkState.Shows { s with resolvePointState := p } i := by
    intro i hi hcounts hshown
    obtain hqueued | ⟨r, r', hview, hrecord, hnormal⟩ := hshown
    · exact .inl hqueued
    · refine (hquiet i hi hcounts).imp_right fun hsame => ?_
      rw [hrecord, Option.map_some] at hsame
      obtain ⟨r'', hrecord', hsame'⟩ := Option.map_eq_some_iff.mp hsame
      exact ⟨r, r'', hview, hrecord', hnormal.trans hsame'.symm⟩
  refine ⟨h.queue, h.strings, h.write, h.chunk, fun i hi => ?_, fun hcomplete hnot i hi => ?_⟩
  · obtain ⟨hlt, hshown⟩ := h.part i hi
    exact ⟨hlt, hshows i hlt (.inl hi) hshown⟩
  · exact hshows i hi (.inr ⟨hcomplete, hnot⟩) (h.whole hcomplete hnot i hi)

theorem states_next (h : StatesOk s) (hflags : s.esp.FlagsOk)
    (hpipeline : statesStream.PipelineOk s) {event : LinkEvent}
    (hquiet : StatesUndisturbed s event) : StatesOk (s.next event) := by
  cases event with
  | edit e => exact h.edit hquiet
  | update id state => exact h.update hquiet
  | store index state => exact h.noticed hquiet
  | requestFullSync => exact h.requestFullSync hquiet
  | runtime resolvePointState => exact h.runtime hquiet
  | take => exact h.take
  | respond writeStatus => exact h.respond hflags hpipeline writeStatus
  | pump => exact h.pump
  | poll timedOut => exact h.poll hflags hpipeline timedOut
  | askRefresh =>
    rw [LinkState.next]
    split
    · exact h.carried rfl rfl ⟨Nat.le_refl _, id, fun i _ r hview => hview⟩ h.strings h.write h.chunk
    · exact h
  | askWrite pointIndex expectedValueType valueBits =>
    rw [LinkState.next]
    split
    · refine h.carried rfl rfl ⟨Nat.le_refl _, id, fun i _ r hview => hview⟩ h.strings
        (fun r hr => ?_) h.chunk
      cases hr
      rfl
    · exact h

/-- The flags, what is under way and the states are in order. -/
structure LinkOk (s : LinkState) : Prop where
  flags : s.esp.FlagsOk
  pipeline : statesStream.PipelineOk s
  states : StatesOk s

theorem run_linkOk {events : List LinkEvent}
    (h : Along LinkState.next StatesUndisturbed .start events) :
    LinkOk (run LinkState.next .start events) := by
  have hstep : ∀ s event, LinkOk s → StatesUndisturbed s event → LinkOk (s.next event) :=
    fun s event hs hquiet =>
      ⟨flags_next hs.flags event,
        Stream.pipeline_next statesStream_lawful hs.pipeline hs.flags event,
        states_next hs.states hs.flags hs.pipeline hquiet⟩
  exact run_inv hstep ⟨Esp.start_flags, Stream.start_pipeline _, start_states⟩ h

/-- No change is outstanding, and the ESP32 is not resyncing. -/
structure LinkState.Quiet (s : LinkState) : Prop where
  queue : s.catalog.dirtyStateQueue = []
  required : s.catalog.runtimeFullSyncRequired = false
  request : s.request = none
  serving : s.serving = none
  response : s.response = none
  synced : s.esp.resyncPending = false ∧ s.esp.capsResponseSeen = true ∧
    s.esp.defsResponseSeen = true ∧ s.esp.statesResponseSeen = true

/-- A point's state, as the resolver gives it or else as the catalog has it. -/
def LinkState.stateOf (s : LinkState) (index : Nat) (e : Entry) : PointState :=
  (s.resolvePointState index e.definition).getD e.state

/-- The ESP32's cache of a point has the value of the point's state. -/
def LinkState.Cached (s : LinkState) (index : Nat) (e : Entry) : Prop :=
  s.esp.stateRecords[index]?.map StateRecord.normal =
    some (stateRecord index e.definition (s.stateOf index e) true).normal

instance StatesUndisturbed.decidable : ∀ s event, Decidable (StatesUndisturbed s event)
  | s, .edit e => inferInstanceAs (Decidable
      ((s.catalog.edited e).defsGeneration = s.catalog.defsGeneration ∨ s.covered = 0))
  | s, .update id state => by
    rw [StatesUndisturbed]
    split <;> infer_instance
  | s, .store index state => inferInstanceAs (Decidable (s.KeepsLoaded index state))
  | s, .requestFullSync => inferInstanceAs (Decidable (∀ i ∈ s.catalog.queued, s.covered ≤ i))
  | s, .runtime resolvePointState =>
    inferInstanceAs (Decidable (s.KeepsResolved resolvePointState))
  | _, .take | _, .respond _ | _, .pump | _, .poll _ | _, .askRefresh | _, .askWrite _ _ _ =>
    .isTrue trivial

def sampleText (pointId : String) : PointDefinition where
  id := ⟨ascii "plc", ascii "texts", ascii pointId⟩
  displayName := ascii pointId
  backend := .Local
  direction := .Input
  valueType := .String
  refreshMs := 0
  timeoutMs := 0
  stringCapacity := 32
  scale := 0x3F800000
  unit := []
  enumDef := 0
  ref := List.replicate 16 0

def sampleState (text : String) : PointState :=
  { PointState.zero with stringValue := ascii text, quality := 1 }

/-- A request goes out and its answer is read. -/
def roundTrip : List LinkEvent := [.poll false, .take, .respond 0, .poll false]

/-- Three texts, two of which fit into a chunk; the ESP32 has the definitions and a chunk. -/
def firstChunkLoaded : List LinkEvent :=
  [.edit (.upsert (sampleText "a")), .edit (.upsert (sampleText "b")),
    .edit (.upsert (sampleText "c"))] ++ roundTrip ++ roundTrip ++ roundTrip ++ roundTrip ++ roundTrip

def changedBetweenChunks (index : Nat) : List LinkEvent :=
  firstChunkLoaded ++ [.store index (sampleState "on")] ++ roundTrip

def runtimeText (index : Nat) (text : String) : LinkEvent :=
  .runtime fun i _ => if i = index then some (sampleState text) else none

/-- The point behind the first chunk is one of the runtime, which changes it before its chunk, and
again with a notice once it is loaded. -/
def runtimeMoves : List LinkEvent :=
  firstChunkLoaded ++ [runtimeText 2 "on"] ++ roundTrip ++
    [.store 2 (sampleState "x"), runtimeText 2 "off", .pump, .poll false]

instance (s : LinkState) : Decidable s.Quiet :=
  decidable_of_iff (s.catalog.dirtyStateQueue = [] ∧ s.catalog.runtimeFullSyncRequired = false ∧
      s.request = none ∧ s.serving = none ∧ s.response = none ∧ s.esp.resyncPending = false ∧
      s.esp.capsResponseSeen = true ∧ s.esp.defsResponseSeen = true ∧
      s.esp.statesResponseSeen = true)
    ⟨fun ⟨hqueue, hrequired, hrequest, hserving, hresponse, hsynced⟩ =>
      ⟨hqueue, hrequired, hrequest, hserving, hresponse, hsynced⟩,
      fun h => ⟨h.queue, h.required, h.request, h.serving, h.response, h.synced⟩⟩

instance (s : LinkState) (index : Nat) (e : Entry) : Decidable (s.Cached index e) :=
  inferInstanceAs (Decidable (_ = _))

/-- Nor is a move of the runtime queued. -/
example : (run LinkState.next .start (runtimeMoves ++ [runtimeText 2 "on"])).Quiet ∧
    ∃ e ∈ (run LinkState.next .start (runtimeMoves ++ [runtimeText 2 "on"])).catalog.entries[2]?,
      ¬(run LinkState.next .start (runtimeMoves ++ [runtimeText 2 "on"])).Cached 2 e := by
  decide +kernel

end NodeNet.Link

import NodeNet.Link.FrameReads
import NodeNet.Link.FrameStores

/-! What the ESP32's handlers do with the bytes of a frame. -/
namespace NodeNet.Link
open NodeNet.Bytes NodeNet.Points

def readStatesUpdatePrefix (bytes : List UInt8) : StatesUpdatePrefix where
  statesSequence :=
    readLe32 (byteAt bytes 0) (byteAt bytes 1) (byteAt bytes 2) (byteAt bytes 3)
  updateCount := (readLe16 (byteAt bytes 4) (byteAt bytes 5)).toNat

def kMsgStatesUpdatesRes : UInt8 := 0x23

structure Handling where
  reads : List Read
  /-- The differences of sizes that are computed: of what, and what is taken away. -/
  differences : List (Nat × Nat)
  /-- The frame is counted as received. -/
  counted : Bool
  esp : Esp

def Handling.ignored (s : Esp) (reads : List Read) : Handling := ⟨reads, [], false, s⟩

/-- Decoding the header of a frame that is too short reads nothing of it. -/
def headerReads (frame : List UInt8) : List Read :=
  if frame.length < kHeaderSize then [] else [⟨0, kHeaderSize⟩]

/-- The records behind the prefix are measured, and stored if they are all there. -/
def handleRecords (s : Esp) (frame : List UInt8) (behind : Nat → UInt8)
    (payloadLength prefixSize recordCount : Nat) (store : List StateRecord → Bool × Esp) :
    Handling :=
  let chunkBytes := memoryAt (frame.drop (kHeaderSize + prefixSize)) behind
  let chunkPayloadBytes := sizeDifference payloadLength prefixSize
  let measured := measureStateRecordsAt chunkBytes chunkPayloadBytes recordCount 0
  let reads : List Read := ⟨0, kHeaderSize⟩ :: ⟨kHeaderSize, prefixSize⟩ ::
    measured.2.map fun offset => ⟨kHeaderSize + prefixSize + offset, kStateRecordSize⟩
  let differences := [(payloadLength, prefixSize)]
  match measured.1 with
  | none => ⟨reads, differences, false, s⟩
  | some expectedRecordsPayload =>
    let expectedPayload := prefixSize + expectedRecordsPayload
    if payloadLength < expectedPayload ∨ frame.length < kHeaderSize + expectedPayload then
      ⟨reads, differences, false, s⟩
    else
      let records := readStateRecords recordCount (bytesFrom chunkBytes 0 expectedRecordsPayload)
      let stored := store (records.map (·.view))
      ⟨⟨kHeaderSize + prefixSize, expectedRecordsPayload⟩ :: reads, differences, stored.1,
        stored.2⟩

def processStateUpdateBytes (s : Esp) (frame : List UInt8) (behind : Nat → UInt8) : Handling :=
  if frame.length < kHeaderSize + statesUpdatePrefixSize then .ignored s []
  else
    match decodeHeader (some frame) with
    | none => .ignored s (headerReads frame)
    | some header =>
      let update := readStatesUpdatePrefix (frame.drop kHeaderSize)
      handleRecords s frame behind header.payloadLength.toNat statesUpdatePrefixSize
        update.updateCount fun records =>
          (update.updateCount ≠ 0,
            s.processStateUpdateFrame header.generation update.statesSequence records)

/-- An update that comes before the capabilities is stored whatever it calls for. -/
def updateBeforeCaps (s : Esp) (frame : List UInt8) (behind : Nat → UInt8) : Handling :=
  match decodeHeader (some frame) with
  | none => .ignored s (headerReads frame)
  | some header =>
    if frame.length < kHeaderSize + statesUpdatePrefixSize then .ignored s (headerReads frame)
    else
      let update := readStatesUpdatePrefix (frame.drop kHeaderSize)
      handleRecords s frame behind header.payloadLength.toNat statesUpdatePrefixSize
        update.updateCount fun records => (true, s.storeUpdateChunk update.statesSequence records)

def defsResponse (s : Esp) (frame : List UInt8) (behind : Nat → UInt8) : Handling :=
  match decodeHeader (some frame) with
  | none => .ignored s (headerReads frame)
  | some header =>
    if header.messageType = kMsgStatesUpdatesRes then processStateUpdateBytes s frame behind
    else if frame.length < kHeaderSize + defsChunkPrefixSize then .ignored s (headerReads frame)
    else if header.messageType ≠ kMsgDefsSnapshotRes then .ignored s (headerReads frame)
    else
      let chunk := readDefsPrefix (frame.drop kHeaderSize)
      let expectedPayload := defsChunkPrefixSize + chunk.chunkPayloadBytes
      let reads : List Read := [⟨0, kHeaderSize⟩, ⟨kHeaderSize, defsChunkPrefixSize⟩]
      if header.payloadLength.toNat < expectedPayload ∨
          frame.length < kHeaderSize + expectedPayload then .ignored s reads
      else
        let recordCount := chunk.chunkPayloadBytes / kDefinitionRecordSize
        let records := readDefinitionRecords recordCount
          (frame.drop (kHeaderSize + defsChunkPrefixSize))
        -- the most that is copied of them
        ⟨⟨kHeaderSize + defsChunkPrefixSize, recordCount * kDefinitionRecordSize⟩ :: reads, [],
          true, (s.defsChunkSeen chunk (records.map (·.view))).wrapped⟩

def statesResponse (s : Esp) (frame : List UInt8) (behind : Nat → UInt8) : Handling :=
  match decodeHeader (some frame) with
  | none => .ignored s (headerReads frame)
  | some header =>
    if header.messageType = kMsgStatesUpdatesRes then processStateUpdateBytes s frame behind
    else if frame.length < kHeaderSize + statesChunkPrefixSize then .ignored s (headerReads frame)
    else if header.messageType ≠ kMsgStatesSnapshotRes then .ignored s (headerReads frame)
    else
      let chunk := readStatesPrefix (frame.drop kHeaderSize)
      handleRecords s frame behind header.payloadLength.toNat statesChunkPrefixSize
        chunk.returnedRecordCount fun records => (true, (s.statesChunkSeen chunk records).wrapped)

/-- The handlers of the states and the definitions. The callers of the first two have seen that
the frame is a state update. -/
inductive FrameHandler where
  | stateUpdate | beforeCaps | definitions | states

def FrameHandler.handle : FrameHandler → Esp → List UInt8 → (Nat → UInt8) → Handling
  | .stateUpdate => processStateUpdateBytes
  | .beforeCaps => updateBeforeCaps
  | .definitions => defsResponse
  | .states => statesResponse

def encodedStates (prefixSize recordCount : Nat) (frame : List UInt8) : List StateRecord :=
  (recordsFrom (frame.drop (kHeaderSize + prefixSize)) 0 recordCount).map (·.view)

def encodedDefinitions (recordCount : Nat) (frame : List UInt8) : List DefinitionRecord :=
  (List.range recordCount).map fun k => (readDefinitionRecord
    (frame.drop (kHeaderSize + defsChunkPrefixSize + k * kDefinitionRecordSize))).view

def updateRecords (frame : List UInt8) : List StateRecord :=
  encodedStates statesUpdatePrefixSize
    (readStatesUpdatePrefix (frame.drop kHeaderSize)).updateCount frame

def chunkRecords (frame : List UInt8) : List StateRecord :=
  encodedStates statesChunkPrefixSize
    (readStatesPrefix (frame.drop kHeaderSize)).returnedRecordCount frame

def chunkDefinitionRecords (frame : List UInt8) : List DefinitionRecord :=
  encodedDefinitions
    ((readDefsPrefix (frame.drop kHeaderSize)).chunkPayloadBytes / kDefinitionRecordSize) frame

def FrameHandler.Stores (s : Esp) (frame : List UInt8) (announced : Nat) (s' : Esp) :
    FrameHandler → Prop
  | .stateUpdate | .beforeCaps => StoresStates s s' announced (updateRecords frame)
  | .definitions =>
    if (readHeader frame).messageType = kMsgStatesUpdatesRes then
      StoresStates s s' announced (updateRecords frame)
    else StoresDefinitions s s' announced (readDefsPrefix (frame.drop kHeaderSize))
      (chunkDefinitionRecords frame)
  | .states =>
    if (readHeader frame).messageType = kMsgStatesUpdatesRes then
      StoresStates s s' announced (updateRecords frame)
    else StoresStates s s' announced (chunkRecords frame)

/-- Nothing but the frame is read, no size becomes negative, and the frame is ignored or just what
it encodes is stored. -/
structure ParsedInside (s : Esp) (frame : List UInt8) (stores : Esp → Prop) (h : Handling) :
    Prop where
  reads : ∀ r ∈ h.reads, r.start + r.size ≤ frame.length
  sizes : ∀ d ∈ h.differences, d.2 ≤ d.1
  effect : if h.counted then stores h.esp else h.esp = s

/-- All the records lie in the frame, and within the length that the header gives. -/
def RecordsWhole (payloadLength prefixSize recordCount : Nat) (frame : List UInt8) : Prop :=
  prefixSize + recordStart (frame.drop (kHeaderSize + prefixSize)) 0 recordCount ≤ payloadLength ∧
    kHeaderSize + prefixSize +
      recordStart (frame.drop (kHeaderSize + prefixSize)) 0 recordCount ≤ frame.length

/-- The header's length covers the prefix, the frame has each record that this length has room
for, and what is asked for holds if it has them all. -/
structure RecordsSound (payloadLength prefixSize recordCount : Nat) (frame : List UInt8)
    (kept : Prop) : Prop where
  covers : prefixSize ≤ payloadLength
  inside : ∀ k < recordCount,
    prefixSize + recordStart (frame.drop (kHeaderSize + prefixSize)) 0 k + kStateRecordSize ≤
      payloadLength →
    kHeaderSize + prefixSize + recordStart (frame.drop (kHeaderSize + prefixSize)) 0 k +
      kStateRecordSize ≤ frame.length
  kept : RecordsWhole payloadLength prefixSize recordCount frame → kept

variable {frame : List UInt8}

theorem recordsWhole_iff {payloadLength prefixSize recordCount : Nat}
    (hlong : kHeaderSize + prefixSize ≤ frame.length) (hcovers : prefixSize ≤ payloadLength)
    (behind : Nat → UInt8) : RecordsWhole payloadLength prefixSize recordCount frame ↔
      ∃ n, (measureStateRecordsAt (memoryAt (frame.drop (kHeaderSize + prefixSize)) behind)
          (payloadLength - prefixSize) recordCount 0).1 = some n ∧
        prefixSize + n ≤ payloadLength ∧ kHeaderSize + (prefixSize + n) ≤ frame.length := by
  have hdrop : (frame.drop (kHeaderSize + prefixSize)).length =
      frame.length - (kHeaderSize + prefixSize) := List.length_drop
  constructor
  · intro h
    have hlength := h.1
    have hframe := h.2
    refine ⟨_, (measured_eq_iff (by omega)).mpr ⟨rfl, .inr (by omega)⟩, hlength, by omega⟩
  · rintro ⟨n, hn, hlength, hframe⟩
    have heq := ((measured_eq_iff (by omega)).mp hn).1
    rw [heq] at hlength hframe
    exact ⟨hlength, by omega⟩

variable {behind : Nat → UInt8}

theorem stored_records {prefixSize recordCount n : Nat} {chunkPayloadBytes : Nat}
    (hn : (measureStateRecordsAt (memoryAt (frame.drop (kHeaderSize + prefixSize)) behind)
      chunkPayloadBytes recordCount 0).1 = some n)
    (hframe : kHeaderSize + (prefixSize + n) ≤ frame.length) :
    (readStateRecords recordCount (bytesFrom
        (memoryAt (frame.drop (kHeaderSize + prefixSize)) behind) 0 n)).map (·.view) =
      encodedStates prefixSize recordCount frame := by
  have hdrop : (frame.drop (kHeaderSize + prefixSize)).length =
      frame.length - (kHeaderSize + prefixSize) := List.length_drop
  have hstart := ((measured_eq_iff (by omega)).mp hn).1
  have hread : readStateRecords recordCount
      (((frame.drop (kHeaderSize + prefixSize)).drop 0).take n) = _ :=
    readStateRecords_eq (by omega) (by omega)
  rw [bytesFrom_memoryAt (by omega), encodedStates, hread]

variable {stores : Esp → Prop}

theorem handled_inside_iff {s : Esp} {payloadLength prefixSize recordCount : Nat}
    {store : List StateRecord → Bool × Esp} {kept : Prop}
    (hlong : kHeaderSize + prefixSize ≤ frame.length) (hsize : payloadLength < 65536)
    (hkept : RecordsWhole payloadLength prefixSize recordCount frame →
      ((if (store (encodedStates prefixSize recordCount frame)).1 then
          stores (store (encodedStates prefixSize recordCount frame)).2
        else (store (encodedStates prefixSize recordCount frame)).2 = s) ↔ kept)) :
    ParsedInside s frame stores
        (handleRecords s frame behind payloadLength prefixSize recordCount store) ↔
      RecordsSound payloadLength prefixSize recordCount frame kept := by
  by_cases hcovers : prefixSize ≤ payloadLength
  · have hdrop : (frame.drop (kHeaderSize + prefixSize)).length =
        frame.length - (kHeaderSize + prefixSize) := List.length_drop
    have hinside := measured_inside_iff (frame.drop (kHeaderSize + prefixSize)) behind
      (payloadLength - prefixSize) recordCount 0
    have hwhole : RecordsWhole payloadLength prefixSize recordCount frame ↔ _ :=
      recordsWhole_iff hlong hcovers behind
    simp only [handleRecords, sizeDifference_eq hsize hcovers]
    generalize hm : measureStateRecordsAt (memoryAt (frame.drop (kHeaderSize + prefixSize)) behind)
      (payloadLength - prefixSize) recordCount 0 = measured at *
    -- the reads of the header and the prefix are inside
    have hreads : (∀ r ∈ (⟨0, kHeaderSize⟩ :: ⟨kHeaderSize, prefixSize⟩ ::
          measured.2.map fun offset => ⟨kHeaderSize + prefixSize + offset, kStateRecordSize⟩ :
            List Read), r.start + r.size ≤ frame.length) ↔
        ∀ k < recordCount,
          prefixSize + recordStart (frame.drop (kHeaderSize + prefixSize)) 0 k +
            kStateRecordSize ≤ payloadLength →
          kHeaderSize + prefixSize + recordStart (frame.drop (kHeaderSize + prefixSize)) 0 k +
            kStateRecordSize ≤ frame.length := by
      have hheader : 0 + kHeaderSize ≤ frame.length := by omega
      simp only [List.forall_mem_cons, List.forall_mem_map, hheader, hlong, true_and]
      constructor
      · intro h k hk hallowed
        have hin := hinside.mp (fun o ho => by have hr := h o ho; omega) k hk (by omega)
        omega
      · intro h o ho
        have hin := hinside.mpr (fun k hk hallowed => by have hr := h k hk (by omega); omega) o ho
        omega
    have hsizes : ∀ d ∈ [(payloadLength, prefixSize)], d.2 ≤ d.1 := by
      simpa using hcovers
    -- a frame that is not stored meets what is asked of the others
    have hignored : ¬ RecordsWhole payloadLength prefixSize recordCount frame →
        ∀ reads : List Read, (reads = ⟨0, kHeaderSize⟩ :: ⟨kHeaderSize, prefixSize⟩ ::
          measured.2.map fun offset => ⟨kHeaderSize + prefixSize + offset, kStateRecordSize⟩) →
        (ParsedInside s frame stores ⟨reads, [(payloadLength, prefixSize)], false, s⟩ ↔
          RecordsSound payloadLength prefixSize recordCount frame kept) := by
      intro hnot reads heq
      constructor
      · intro h
        exact ⟨hcovers, hreads.mp (heq ▸ h.reads), fun hwhole => absurd hwhole hnot⟩
      · intro h
        exact ⟨heq ▸ hreads.mpr h.inside, hsizes, by simp⟩
    cases hresult : measured.1 with
    | none =>
      refine hignored (fun h => ?_) _ rfl
      obtain ⟨n, hn, -⟩ := hwhole.mp h
      rw [hresult] at hn
      cases hn
    | some n =>
      dsimp only
      by_cases hshort : payloadLength < prefixSize + n ∨
          frame.length < kHeaderSize + (prefixSize + n)
      · rw [if_pos hshort]
        refine hignored (fun h => ?_) _ rfl
        obtain ⟨n', hn, hlength, hframe⟩ := hwhole.mp h
        rw [hresult] at hn
        cases hn
        omega
      · have hread := hresult
        rw [← hm] at hread
        rw [if_neg hshort, stored_records hread (by omega)]
        have hall : RecordsWhole payloadLength prefixSize recordCount frame :=
          hwhole.mpr ⟨n, hresult, by omega, by omega⟩
        have hstored : kHeaderSize + prefixSize + n ≤ frame.length := by omega
        constructor
        · intro h
          have hrest := h.reads
          rw [List.forall_mem_cons] at hrest
          exact ⟨hcovers, hreads.mp hrest.2, fun _ => (hkept hall).mp h.effect⟩
        · intro h
          refine ⟨?_, hsizes, (hkept hall).mpr (h.kept hall)⟩
          rw [List.forall_mem_cons]
          exact ⟨hstored, hreads.mpr h.inside⟩
  · constructor
    · intro h
      have hdifferences : (handleRecords s frame behind payloadLength prefixSize recordCount
          store).differences = [(payloadLength, prefixSize)] := by
        simp only [handleRecords]
        split
        · rfl
        · split
          · rfl
          · rfl
      have hsizes := h.sizes (payloadLength, prefixSize) (by simp [hdifferences])
      exact absurd hsizes hcovers
    · intro h
      exact absurd h.covers hcovers

theorem handled_stored_iff {s : Esp} {payloadLength prefixSize recordCount : Nat}
    {put : List StateRecord → Esp} {kept : Prop} (hlong : kHeaderSize + prefixSize ≤ frame.length)
    (hsize : payloadLength < 65536)
    (hkept : stores (put (encodedStates prefixSize recordCount frame)) ↔ kept) :
    ParsedInside s frame stores
        (handleRecords s frame behind payloadLength prefixSize recordCount fun records =>
          (true, put records)) ↔
      RecordsSound payloadLength prefixSize recordCount frame kept := by
  refine handled_inside_iff hlong hsize fun _ => ?_
  rw [if_pos rfl]
  exact hkept

theorem readDefinitionRecords_eq (recordCount : Nat) (bytes : List UInt8) :
    readDefinitionRecords recordCount bytes = (List.range recordCount).map fun k =>
      readDefinitionRecord (bytes.drop (k * kDefinitionRecordSize)) := by
  induction recordCount generalizing bytes with
  | zero => rfl
  | succ recordCount ih =>
    rw [readDefinitionRecords, ih, List.range_succ_eq_map, List.map_cons, List.map_map]
    simp only [Nat.zero_mul, List.drop_zero, List.drop_drop]
    congr 1
    apply List.map_congr_left
    intro k _
    have hplace : kDefinitionRecordSize + k * kDefinitionRecordSize =
        (k + 1) * kDefinitionRecordSize := by rw [Nat.succ_mul, Nat.add_comm]
    rw [hplace]
    rfl

theorem read_encodedDefinitions (recordCount : Nat) (frame : List UInt8) :
    (readDefinitionRecords recordCount (frame.drop (kHeaderSize + defsChunkPrefixSize))).map
      (·.view) = encodedDefinitions recordCount frame := by
  rw [readDefinitionRecords_eq, List.map_map, encodedDefinitions]
  apply List.map_congr_left
  intro k _
  simp only [Function.comp_apply, List.drop_drop]

theorem encodedDefinitions_length (recordCount : Nat) (frame : List UInt8) :
    (encodedDefinitions recordCount frame).length = recordCount := by
  rw [encodedDefinitions, List.length_map, List.length_range]

def RecordsFrameSound (prefixSize recordCount : Nat) (frame : List UInt8) (kept : Prop) : Prop :=
  decodeHeader (some frame) = some (readHeader frame) →
    kHeaderSize + prefixSize ≤ frame.length →
    RecordsSound (readHeader frame).payloadLength.toNat prefixSize recordCount frame kept

def Esp.UpdateSound (s : Esp) (announced : Nat) (frame : List UInt8) : Prop :=
  let update := readStatesUpdatePrefix (frame.drop kHeaderSize)
  RecordsFrameSound statesUpdatePrefixSize update.updateCount frame
    (s.UpdateKept announced update (updateRecords frame))

/-- When a frame is parsed inside its bytes, and ignored or just stored. -/
def FrameHandler.Sound (s : Esp) (frame : List UInt8) (announced : Nat) : FrameHandler → Prop
  | .stateUpdate => s.UpdateSound announced frame
  | .beforeCaps =>
    RecordsFrameSound statesUpdatePrefixSize
      (readStatesUpdatePrefix (frame.drop kHeaderSize)).updateCount frame
      (∀ r ∈ updateRecords frame, r.pointIndex < announced)
  | .definitions =>
    let chunk := readDefsPrefix (frame.drop kHeaderSize)
    if (readHeader frame).messageType = kMsgStatesUpdatesRes then s.UpdateSound announced frame
    else
      decodeHeader (some frame) = some (readHeader frame) →
      (readHeader frame).messageType = kMsgDefsSnapshotRes →
      defsChunkPrefixSize + chunk.chunkPayloadBytes ≤ (readHeader frame).payloadLength.toNat →
      kHeaderSize + (defsChunkPrefixSize + chunk.chunkPayloadBytes) ≤ frame.length →
      DefinitionsKept announced chunk (chunk.chunkPayloadBytes / kDefinitionRecordSize)
  | .states =>
    let chunk := readStatesPrefix (frame.drop kHeaderSize)
    if (readHeader frame).messageType = kMsgStatesUpdatesRes then s.UpdateSound announced frame
    else
      (readHeader frame).messageType = kMsgStatesSnapshotRes →
      RecordsFrameSound statesChunkPrefixSize chunk.returnedRecordCount frame
        (∀ r ∈ chunkRecords frame, r.pointIndex < announced ∧
          (r.pointIndex < chunk.totalPointCount ∨ r.pointIndex < s.stateRecords.length))

theorem ParsedInside.ignored {s : Esp} {reads : List Read}
    (h : ∀ r ∈ reads, r.start + r.size ≤ frame.length) :
    ParsedInside s frame stores (.ignored s reads) := ⟨h, by simp [Handling.ignored], rfl⟩

theorem headerReads_inside (frame : List UInt8) :
    ∀ r ∈ headerReads frame, r.start + r.size ≤ frame.length := by
  intro r hr
  rw [headerReads] at hr
  split at hr
  · cases hr
  · rename_i hlong
    rw [List.mem_singleton] at hr
    rw [hr, Nat.zero_add]
    exact Nat.le_of_not_lt hlong

theorem readHeader_of_decoded {header : ProtocolHeader}
    (h : decodeHeader (some frame) = some header) : header = readHeader frame :=
  (decodeHeader_spec.mp h).2.2.symm

theorem encodedStates_length (prefixSize recordCount : Nat) (frame : List UInt8) :
    (encodedStates prefixSize recordCount frame).length = recordCount := by
  rw [encodedStates, List.length_map, recordsFrom_length]

theorem processStateUpdateBytes_inside_iff (s : Esp) (frame : List UInt8) (behind : Nat → UInt8)
    (announced : Nat) :
    ParsedInside s frame (fun s' => StoresStates s s' announced (updateRecords frame))
      (processStateUpdateBytes s frame behind) ↔ s.UpdateSound announced frame := by
  rw [processStateUpdateBytes, Esp.UpdateSound]
  by_cases hshort : frame.length < kHeaderSize + statesUpdatePrefixSize
  · rw [if_pos hshort]
    exact iff_of_true (.ignored (by simp)) fun _ hlong => absurd hlong (Nat.not_le.mpr hshort)
  · rw [if_neg hshort]
    have hlong : kHeaderSize + statesUpdatePrefixSize ≤ frame.length := Nat.le_of_not_lt hshort
    cases hheader : decodeHeader (some frame) with
    | none =>
      refine iff_of_true (.ignored (headerReads_inside frame)) fun hdecoded => ?_
      rw [hheader] at hdecoded
      cases hdecoded
    | some header =>
      obtain rfl := readHeader_of_decoded hheader
      refine (handled_inside_iff hlong (UInt16.toNat_lt _) fun _ =>
        processed_kept_iff _ (encodedStates_length _ _ _)).trans ?_
      exact ⟨fun h _ _ => h, fun h => h hheader hlong⟩

theorem updateBeforeCaps_inside_iff (s : Esp) (frame : List UInt8) (behind : Nat → UInt8)
    (announced : Nat) :
    ParsedInside s frame (fun s' => StoresStates s s' announced (updateRecords frame))
        (updateBeforeCaps s frame behind) ↔
      RecordsFrameSound statesUpdatePrefixSize
        (readStatesUpdatePrefix (frame.drop kHeaderSize)).updateCount frame
        (∀ r ∈ updateRecords frame, r.pointIndex < announced) := by
  rw [updateBeforeCaps]
  cases hheader : decodeHeader (some frame) with
  | none =>
    refine iff_of_true (.ignored (headerReads_inside frame)) fun hdecoded => ?_
    rw [hheader] at hdecoded
    cases hdecoded
  | some header =>
    obtain rfl := readHeader_of_decoded hheader
    by_cases hshort : frame.length < kHeaderSize + statesUpdatePrefixSize
    · simp only [if_pos hshort]
      exact iff_of_true (.ignored (headerReads_inside frame))
        fun _ hlong => absurd hlong (Nat.not_le.mpr hshort)
    · have hlong : kHeaderSize + statesUpdatePrefixSize ≤ frame.length := Nat.le_of_not_lt hshort
      simp only [if_neg hshort]
      refine (handled_stored_iff hlong (UInt16.toNat_lt _)
        (storeUpdateChunk_stores_iff _ _ _ _)).trans ?_
      exact ⟨fun h _ _ => h, fun h => h hheader hlong⟩

theorem defsResponse_inside_iff (s : Esp) (frame : List UInt8) (behind : Nat → UInt8)
    (announced : Nat) :
    ParsedInside s frame (fun s' => FrameHandler.Stores s frame announced s' .definitions)
      (defsResponse s frame behind) ↔ FrameHandler.Sound s frame announced .definitions := by
  rw [defsResponse, FrameHandler.Sound]
  cases hheader : decodeHeader (some frame) with
  | none =>
    refine iff_of_true (.ignored (headerReads_inside frame)) ?_
    split
    · intro hdecoded
      rw [hheader] at hdecoded
      cases hdecoded
    · intro hdecoded
      cases hdecoded
  | some header =>
    obtain rfl := readHeader_of_decoded hheader
    dsimp only [FrameHandler.Stores]
    by_cases hupdate : (readHeader frame).messageType = kMsgStatesUpdatesRes
    · simp only [if_pos hupdate]
      exact processStateUpdateBytes_inside_iff s frame behind announced
    · simp only [if_neg hupdate, forall_const]
      by_cases hshort : frame.length < kHeaderSize + defsChunkPrefixSize
      · rw [if_pos hshort]
        exact iff_of_true (.ignored (headerReads_inside frame)) fun _ _ hframe => by omega
      · rw [if_neg hshort]
        by_cases htype : (readHeader frame).messageType ≠ kMsgDefsSnapshotRes
        · rw [if_pos htype]
          exact iff_of_true (.ignored (headerReads_inside frame)) fun heq => absurd heq htype
        · rw [if_neg htype]
          have hchunk : (readDefsPrefix (frame.drop kHeaderSize)).chunkPayloadBytes /
              kDefinitionRecordSize * kDefinitionRecordSize ≤
                (readDefsPrefix (frame.drop kHeaderSize)).chunkPayloadBytes :=
            Nat.div_mul_le_self _ _
          split
          · rename_i hcut
            refine iff_of_true (.ignored ?_) fun _ hlength hframe => by omega
            simp only [List.forall_mem_cons, List.not_mem_nil, false_implies, implies_true,
              and_true]
            exact ⟨by omega, by omega⟩
          · rename_i hwhole
            rw [read_encodedDefinitions]
            have hcount := encodedDefinitions_length
              ((readDefsPrefix (frame.drop kHeaderSize)).chunkPayloadBytes /
                kDefinitionRecordSize) frame
            have hstores := defsChunkSeen_stores_iff s announced
              (readDefsPrefix (frame.drop kHeaderSize)) hcount
            rw [hcount] at hstores
            constructor
            · intro h _ _ _
              exact hstores.mp h.effect
            · intro h
              refine ⟨?_, by simp, hstores.mpr (h (Decidable.not_not.mp htype) (by omega)
                (by omega))⟩
              simp only [List.forall_mem_cons, List.not_mem_nil, false_implies, implies_true,
                and_true]
              exact ⟨by omega, by omega, by omega⟩

theorem statesResponse_inside_iff (s : Esp) (frame : List UInt8) (behind : Nat → UInt8)
    (announced : Nat) :
    ParsedInside s frame (fun s' => FrameHandler.Stores s frame announced s' .states)
      (statesResponse s frame behind) ↔ FrameHandler.Sound s frame announced .states := by
  rw [statesResponse, FrameHandler.Sound]
  cases hheader : decodeHeader (some frame) with
  | none =>
    refine iff_of_true (.ignored (headerReads_inside frame)) ?_
    split
    · intro hdecoded
      rw [hheader] at hdecoded
      cases hdecoded
    · intro _ hdecoded
      rw [hheader] at hdecoded
      cases hdecoded
  | some header =>
    obtain rfl := readHeader_of_decoded hheader
    dsimp only [FrameHandler.Stores]
    by_cases hupdate : (readHeader frame).messageType = kMsgStatesUpdatesRes
    · simp only [if_pos hupdate]
      exact processStateUpdateBytes_inside_iff s frame behind announced
    · simp only [if_neg hupdate]
      by_cases hshort : frame.length < kHeaderSize + statesChunkPrefixSize
      · rw [if_pos hshort]
        exact iff_of_true (.ignored (headerReads_inside frame))
          fun _ _ hlong => absurd hlong (Nat.not_le.mpr hshort)
      · have hlong : kHeaderSize + statesChunkPrefixSize ≤ frame.length :=
          Nat.le_of_not_lt hshort
        rw [if_neg hshort]
        by_cases htype : (readHeader frame).messageType ≠ kMsgStatesSnapshotRes
        · rw [if_pos htype]
          exact iff_of_true (.ignored (headerReads_inside frame)) fun heq => absurd heq htype
        · rw [if_neg htype]
          refine (handled_stored_iff hlong (UInt16.toNat_lt _)
            (statesChunkSeen_stores_iff _ _ _ _)).trans ?_
          exact ⟨fun h _ _ _ => h, fun h => h (Decidable.not_not.mp htype) hheader hlong⟩

/-- A frame is parsed inside its bytes, and ignored or just stored, exactly if the header's length
covers the prefix, the frame has each record that this length has room for, and its records have
their places. -/
theorem frame_parsed_iff (handler : FrameHandler) (s : Esp) (frame : List UInt8)
    (behind : Nat → UInt8) (announced : Nat) :
    ParsedInside s frame (fun s' => handler.Stores s frame announced s')
      (handler.handle s frame behind) ↔ handler.Sound s frame announced := by
  cases handler with
  | stateUpdate => exact processStateUpdateBytes_inside_iff s frame behind announced
  | beforeCaps => exact updateBeforeCaps_inside_iff s frame behind announced
  | definitions => exact defsResponse_inside_iff s frame behind announced
  | states => exact statesResponse_inside_iff s frame behind announced

/-- A state update whose header gives no length, with one record. -/
def lengthlessUpdate : List UInt8 :=
  headerBytes
    { magic := kMagic, version := kVersion, messageType := kMsgStatesUpdatesRes,
      flags := kFlagResponse, requestId := 0, fragmentIndex := 0, fragmentCount := 1,
      payloadLength := 0, generation := 0, sequence := 0 } ++ [1, 0, 0, 0, 1, 0, 0, 0]

/-- The record is read from behind the frame. -/
theorem lengthlessUpdate_outside :
    ¬ ParsedInside Esp.start lengthlessUpdate
        (fun s' => FrameHandler.stateUpdate.Stores Esp.start lengthlessUpdate 1 s')
        (FrameHandler.stateUpdate.handle Esp.start lengthlessUpdate fun _ => 0) ∧
      ⟨26, 16⟩ ∈ (FrameHandler.stateUpdate.handle Esp.start lengthlessUpdate fun _ => 0).reads ∧
      lengthlessUpdate.length = 26 := by
  have hread : (⟨26, 16⟩ : Read) ∈
      (FrameHandler.stateUpdate.handle Esp.start lengthlessUpdate fun _ => 0).reads := by
    decide
  have hlength : lengthlessUpdate.length = 26 := by decide
  refine ⟨fun h => ?_, hread, hlength⟩
  have hinside : 26 + 16 ≤ lengthlessUpdate.length := h.reads _ hread
  rw [hlength] at hinside
  omega

end NodeNet.Link

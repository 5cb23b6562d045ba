import NodeNet.Link.Messages

/-! The ESP32's side of the link: its caches, and one poll of the mailbox. -/
namespace NodeNet.Link
open NodeNet.Points

structure Esp where
  resyncPending : Bool
  capsRequestSent : Bool
  capsResponseSeen : Bool
  defsRequestSent : Bool
  defsResponseSeen : Bool
  statesRequestSent : Bool
  statesResponseSeen : Bool
  preserveDefsOnResync : Bool
  runtimeResyncViewActive : Bool
  havePublishedSnapshot : Bool
  refreshRequested : Bool
  writeStateRequestSent : Bool
  /-- The write that is asked for and not yet answered. -/
  pendingWriteState : Option Request
  defsGeneration : UInt32
  defsTotalBytes : Nat
  nextDefsOffset : Nat
  nextStatesStartIndex : Nat
  pointCount : Nat
  maxFragmentPayload : Nat
  statesSequence : UInt32
  definitionRecords : List DefinitionRecord
  stateRecords : List StateRecord
  deriving DecidableEq

def Esp.start : Esp where
  resyncPending := false
  capsRequestSent := false
  capsResponseSeen := false
  defsRequestSent := false
  defsResponseSeen := false
  statesRequestSent := false
  statesResponseSeen := false
  preserveDefsOnResync := false
  runtimeResyncViewActive := false
  havePublishedSnapshot := false
  refreshRequested := false
  writeStateRequestSent := false
  pendingWriteState := none
  defsGeneration := 0
  defsTotalBytes := 0
  nextDefsOffset := 0
  nextStatesStartIndex := 0
  pointCount := 0
  maxFragmentPayload := 0
  statesSequence := 0
  definitionRecords := []
  stateRecords := []

namespace Esp

/-- The definitions are kept if the generation is the one they are of. -/
def keepsDefs (s : Esp) (newDefsGeneration : UInt32) : Bool :=
  newDefsGeneration ≠ 0 && newDefsGeneration = s.defsGeneration && s.defsResponseSeen

def keepsRuntimeView (s : Esp) (newDefsGeneration : UInt32) : Bool :=
  s.keepsDefs newDefsGeneration && s.statesResponseSeen && s.havePublishedSnapshot

/-- The caches that are not kept are emptied. -/
def beginFullResync (s : Esp) (newDefsGeneration : UInt32) : Esp :=
  let preserveDefs := s.keepsDefs newDefsGeneration
  let preserveRuntimeView := s.keepsRuntimeView newDefsGeneration
  { s with
    resyncPending := true
    preserveDefsOnResync := preserveDefs
    runtimeResyncViewActive := preserveRuntimeView
    capsRequestSent := false
    capsResponseSeen := false
    defsRequestSent := false
    defsResponseSeen := preserveDefs
    statesRequestSent := false
    statesResponseSeen := false
    refreshRequested := false
    pointCount := if preserveDefs then s.pointCount else 0
    maxFragmentPayload := if preserveDefs then s.maxFragmentPayload else 0
    defsGeneration := newDefsGeneration
    statesSequence := 0
    defsTotalBytes := if preserveDefs then s.defsTotalBytes else 0
    nextDefsOffset := if preserveDefs then s.nextDefsOffset else 0
    nextStatesStartIndex := 0
    writeStateRequestSent := false
    pendingWriteState := none
    definitionRecords := if preserveDefs then s.definitionRecords else []
    stateRecords := if preserveRuntimeView then s.stateRecords else [] }

/-- Overwrite records from the given one on, if they all fit. -/
def overwrite (records : List DefinitionRecord) (first : Nat) (new : List DefinitionRecord) :
    List DefinitionRecord :=
  if records.length < first + new.length then records
  else records.take first ++ new ++ records.drop (first + new.length)

def storeDefsChunk (s : Esp) (chunk : DefsSnapshotChunkPrefix) (records : List DefinitionRecord) :
    Esp :=
  let s := if s.definitionRecords.length ≠ chunk.totalPointCount ∨
      s.defsTotalBytes ≠ chunk.totalSerializedBytes then
    { s with
      definitionRecords := List.replicate chunk.totalPointCount .zero
      defsTotalBytes := chunk.totalSerializedBytes }
  else s
  if chunk.chunkOffset % kDefinitionRecordSize = 0 ∧
      chunk.chunkPayloadBytes % kDefinitionRecordSize = 0 then
    { s with
      definitionRecords := overwrite s.definitionRecords
        (chunk.chunkOffset / kDefinitionRecordSize)
        (records.take (chunk.chunkPayloadBytes / kDefinitionRecordSize)) }
  else s

def growTo (count : Nat) (records : List StateRecord) : List StateRecord :=
  records ++ List.replicate (count - records.length) .zero

def cacheRecord (records : List StateRecord) (r : StateRecord) : List StateRecord :=
  records.set r.pointIndex r

def storeSnapshotChunk (s : Esp) (chunk : StatesSnapshotChunkPrefix) (records : List StateRecord) :
    Esp :=
  { s with
    stateRecords := records.foldl cacheRecord (growTo chunk.totalPointCount s.stateRecords)
    statesSequence := chunk.statesSequenceBase }

def storeUpdateChunk (s : Esp) (statesSequence : UInt32) (records : List StateRecord) : Esp :=
  { s with
    stateRecords := records.foldl (fun cache r => cacheRecord (growTo (r.pointIndex + 1) cache) r)
      s.stateRecords
    statesSequence := statesSequence }

/-- An update without records calls for a full sync. -/
def processStateUpdateFrame (s : Esp) (generation statesSequence : UInt32)
    (records : List StateRecord) : Esp :=
  if records = [] then
    if !s.defsResponseSeen || !s.statesResponseSeen || statesSequence ≤ s.statesSequence then s
    else s.beginFullResync generation
  else
    let next := s.storeUpdateChunk statesSequence records
    let gap := s.capsResponseSeen && s.statesSequence ≠ 0 && s.statesSequence < statesSequence &&
      records.length < (statesSequence - s.statesSequence).toNat
    if gap then next.beginFullResync next.defsGeneration else next

def handleUnsolicitedResponse (s : Esp) (f : Frame) : Esp :=
  if s.capsResponseSeen && f.generation ≠ s.defsGeneration then s.beginFullResync f.generation
  else
    match f.payload with
    | .statesUpdates statesSequence records =>
      s.processStateUpdateFrame f.generation statesSequence records
    | _ => s

def isRuntimeIdleReady (s : Esp) : Bool :=
  s.defsResponseSeen && s.statesResponseSeen && !s.capsRequestSent && !s.defsRequestSent &&
    !s.statesRequestSent

def computeMaxStateRecords (s : Esp) : Nat :=
  (s.maxFragmentPayload - statesChunkPrefixSize) / kStateRecordSize

def computeMaxDefsPayloadBytes (s : Esp) : Nat := s.maxFragmentPayload - defsChunkPrefixSize

def sendCapsRequest (s : Esp) : Esp × Option Request :=
  ({ s with resyncPending := false, capsRequestSent := true }, some .getCaps)

def sendDefsSnapshotRequest (s : Esp) : Esp × Option Request :=
  let maxChunkPayload := s.computeMaxDefsPayloadBytes
  if maxChunkPayload = 0 then (s, none)
  else
    ({ s with
        defsRequestSent := true
        defsTotalBytes := if s.nextDefsOffset = 0 then 0 else s.defsTotalBytes
        definitionRecords := if s.nextDefsOffset = 0 then [] else s.definitionRecords },
      some (.getDefsSnapshot s.nextDefsOffset maxChunkPayload s.defsGeneration))

def sendStatesSnapshotRequest (s : Esp) (startIndex : Nat) : Esp × Option Request :=
  let maxRecords := s.computeMaxStateRecords
  if maxRecords = 0 then (s, none)
  else
    let resets := startIndex = 0 && !s.runtimeResyncViewActive
    ({ s with
        statesRequestSent := true
        statesSequence := if resets then 0 else s.statesSequence
        stateRecords := if resets then List.replicate s.pointCount .zero else s.stateRecords },
      some (.getStatesSnapshot startIndex maxRecords true))

def refreshStates (s : Esp) : Esp × Option Request :=
  { s with
    refreshRequested := false
    statesResponseSeen := false
    nextStatesStartIndex := 0 }.sendStatesSnapshotRequest 0

def sendWriteStateRequest (s : Esp) : Esp × Option Request :=
  ({ s with writeStateRequestSent := true }, s.pendingWriteState)

/-- What a response is read as; the flags say which. -/
inductive ReadAs where
  | writeState | unsolicited | caps | defs | states
  deriving DecidableEq

def preservesDefs (s : Esp) (defsGeneration : UInt32) : Bool :=
  s.preserveDefsOnResync && s.defsResponseSeen && defsGeneration = s.defsGeneration

def capsSeen (s : Esp) (maxFragmentPayload pointCount : Nat)
    (defsGeneration statesSequence : UInt32) : Esp :=
  let preserveDefs := s.preservesDefs defsGeneration
  let keepsView := s.runtimeResyncViewActive
  { s with
    capsRequestSent := false
    capsResponseSeen := true
    pointCount := pointCount
    maxFragmentPayload := maxFragmentPayload
    defsGeneration := defsGeneration
    -- emptying the cache of the states sets their sequence back too
    statesSequence := if keepsView then statesSequence else 0
    defsRequestSent := false
    defsResponseSeen := preserveDefs
    defsTotalBytes := if preserveDefs then s.defsTotalBytes else 0
    nextDefsOffset := if preserveDefs then s.nextDefsOffset else 0
    resyncPending := false
    preserveDefsOnResync := false
    definitionRecords := if preserveDefs then s.definitionRecords else []
    stateRecords := if keepsView then s.stateRecords else List.replicate pointCount .zero }

def defsChunkSeen (s : Esp) (chunk : DefsSnapshotChunkPrefix) (records : List DefinitionRecord) :
    Esp :=
  let next := { s with defsRequestSent := false }.storeDefsChunk chunk records
  { next with
    nextDefsOffset := chunk.chunkOffset + chunk.chunkPayloadBytes
    defsResponseSeen := !chunk.more || s.defsResponseSeen }

def statesChunkSeen (s : Esp) (chunk : StatesSnapshotChunkPrefix) (records : List StateRecord) :
    Esp :=
  let next := { s.storeSnapshotChunk chunk records with statesRequestSent := false }
  if chunk.more && chunk.returnedRecordCount = 0 then next
  else
    let next := { next with
      nextStatesStartIndex := chunk.returnedStartIndex + chunk.returnedRecordCount }
    if chunk.more then next
    else
      { next with
        statesResponseSeen := true
        runtimeResyncViewActive := false
        havePublishedSnapshot := true }

def readResponse (s : Esp) (f : Frame) : ReadAs → Esp
  | .writeState =>
    let next := { s with writeStateRequestSent := false, pendingWriteState := none }
    match f.payload with
    | .statesUpdates statesSequence records =>
      next.processStateUpdateFrame f.generation statesSequence records
    | _ => next
  | .unsolicited => s.handleUnsolicitedResponse f
  | .caps =>
    match f.payload with
    | .caps maxFragmentPayload pointCount defsGeneration statesSequence =>
      s.capsSeen maxFragmentPayload pointCount defsGeneration statesSequence
    | .statesUpdates statesSequence records => s.storeUpdateChunk statesSequence records
    | _ => s
  | .defs =>
    match f.payload with
    | .defsSnapshot chunk records => s.defsChunkSeen chunk records
    | .statesUpdates statesSequence records =>
      s.processStateUpdateFrame f.generation statesSequence records
    | _ => s
  | .states =>
    match f.payload with
    | .statesSnapshot chunk records => s.statesChunkSeen chunk records
    | .statesUpdates statesSequence records =>
      s.processStateUpdateFrame f.generation statesSequence records
    | _ => s

inductive PollAction where
  | nothing
  /-- A mailbox found in use at the start: a response is drained, or else all is reset. -/
  | drain
  | resetMailbox
  | sendCaps | sendDefs | sendStates | refresh | sendWriteState
  | capsTimeout
  | read (as : ReadAs)
  deriving DecidableEq

/-- The branches of a poll, in their order. -/
def pollAction (s : Esp) (rxReady responseReady timedOut : Bool) : PollAction :=
  let canSend := !rxReady
  let noCaps := !s.capsResponseSeen
  let noDefs := !s.defsResponseSeen
  let noStates := !s.statesResponseSeen
  if !s.resyncPending && !s.capsRequestSent && noCaps && (rxReady || responseReady) then
    if responseReady then .drain else .resetMailbox
  else if s.resyncPending && !s.capsRequestSent && canSend then .sendCaps
  else if s.writeStateRequestSent && responseReady then .read .writeState
  else if s.isRuntimeIdleReady && responseReady then .read .unsolicited
  else if s.refreshRequested && s.capsResponseSeen && s.statesResponseSeen &&
      !s.statesRequestSent && canSend then .refresh
  else if s.pendingWriteState.isSome && !s.writeStateRequestSent && s.isRuntimeIdleReady &&
      canSend then .sendWriteState
  else if !s.capsRequestSent && noCaps && canSend then .sendCaps
  else if s.capsRequestSent && noCaps && responseReady then .read .caps
  else if s.capsRequestSent && noCaps && timedOut then .capsTimeout
  else if s.capsResponseSeen && !s.defsRequestSent && noDefs && canSend then .sendDefs
  else if s.capsResponseSeen && !s.defsRequestSent && noDefs && responseReady then
    .read .unsolicited
  else if s.defsRequestSent && noDefs && responseReady then .read .defs
  else if s.defsResponseSeen && !s.statesRequestSent && noStates && canSend then .sendStates
  else if s.defsResponseSeen && !s.statesRequestSent && noStates && responseReady then
    .read .unsolicited
  else if s.statesRequestSent && noStates && responseReady then .read .states
  else .nothing

end Esp

end NodeNet.Link

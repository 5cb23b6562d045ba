import NodeNet.Core.State
import NodeNet.Lib.Machine

/-! The main loop as a machine: the requests, the parts of an iteration and the VM in between. -/
namespace NodeNet.Core
open NodeNet.Bytes NodeNet.Nor NodeNet.Points NodeNet.Slot NodeNet.Loader

inductive Request where
  | upsert (definition : PointDefinition)
  | remove (id : PointIdentity)
  | engineEnabled (requested stored : Bool)
  | slotCommand (command : SlotCommand) (slotId : UInt16) (requested stored : Bool)
  /-- A property whose change saves the preferences. -/
  | property (stored : Bool)
  | erase (r : EraseRequest) (faults : Faults)
  | uploadBegin (r : UploadBeginRequest)
  | uploadData (c : UploadChunk)
  /-- A chunk that is not decoded, or whose frame is cut. -/
  | uploadDataInvalid
  | uploadCommit (uploadId : UInt32) (faults : Faults)
  | uploadAbort (uploadId : UInt32)
  | uploadStatus

/-- A template and a discovery are several definitions in one message. -/
def NodeNetCore.handle (s : NodeNetCore) (nowMs : UInt32) : Request → NodeNetCore × Reply
  | .upsert definition =>
    let (mem, reply) := upsertPointDefinition s.mem definition
    ({ s with mem := mem }, reply)
  | .remove id =>
    let (mem, reply) := removePointDefinition s.mem id
    ({ s with mem := mem }, reply)
  | .engineEnabled requested stored => handleEngineEnabled s requested stored
  | .slotCommand command slotId requested stored =>
    handleSlotCommand s command slotId requested stored
  | .property stored => (s.savePreferences stored, .ok ())
  | .erase r faults => handlePlcEraseRequest s r faults
  | .uploadBegin r => handlePlcUploadBeginRequest s r nowMs
  | .uploadData c => handlePlcUploadDataChunk s c nowMs
  | .uploadDataInvalid => ({ s with session := s.session.refuse }, .error .invalidChunkSize)
  | .uploadCommit uploadId faults => handlePlcUploadCommitRequest s uploadId faults
  | .uploadAbort uploadId => handlePlcUploadAbortRequest s uploadId
  | .uploadStatus => (s, .ok ())

/-- What the VM writes back to a control block after a scan. -/
structure ScanReport where
  status : UInt32
  pc : UInt32
  cycleCounter : UInt32
  faultCode : UInt32
  faultInfo : UInt32

inductive Event where
  /-- A request, in the part of the loop that takes them. -/
  | request (r : Request) (nowMs : UInt32)
  /-- The next part of the loop. -/
  | advance (nowMs : UInt32)
  /-- The VM begins a sweep, writes a slot's control block, or ends the sweep. -/
  | vmStart
  | vmReport (slotId : UInt16) (report : ScanReport)
  | vmFinish

def reportControl (report : ScanReport) (control : PlcProgramControlBlockV1) :
    PlcProgramControlBlockV1 :=
  { control with
    status := report.status
    pc := report.pc
    cycleCounter := report.cycleCounter
    faultCode := report.faultCode
    faultInfo := report.faultInfo }

def NodeNetCore.sessionTimedOut (s : NodeNetCore) (nowMs : UInt32) : Bool :=
  s.session.active && kPlcUploadSessionTimeoutMs ≤ nowMs - s.session.lastActivityMs

def NodeNetCore.goTo (s : NodeNetCore) (phase : LoopPhase) : NodeNetCore := { s with phase := phase }

def NodeNetCore.endUpload (s : NodeNetCore) : NodeNetCore := { s with session := .reset }

/-- One part of the loop; a deferred operation that finds the engine busy waits for the next
iteration. -/
def NodeNetCore.advance (s : NodeNetCore) (nowMs : UInt32) : NodeNetCore :=
  match s.phase with
  | .service => s.goTo .input
  | .input => s.goTo .refresh
  | .refresh => s.enterRefresh.goTo .refreshRun
  | .refreshRun =>
    if s.pendingPlcRuntimeMapRefresh && !s.engineBusy then s.runRefresh.goTo .timeout
    else s.goTo .timeout
  | .timeout =>
    if s.sessionTimedOut nowMs then s.endUpload.goTo .erase
    else s.goTo .erase
  | .erase => (s.disableFor (s.pendingPlcErase.map (·.restoreEngineEnabled))).goTo .eraseRun
  | .eraseRun =>
    match s.pendingPlcErase with
    | none => s.goTo .autoLoad
    | some p => if s.engineBusy then s.goTo .autoLoad else (s.runErase p).goTo .autoLoad
  | .autoLoad =>
    (s.disableFor (s.pendingPlcAutoLoad.map (·.restoreEngineEnabled))).goTo .autoLoadRun
  | .autoLoadRun =>
    match s.pendingPlcAutoLoad with
    | none => s.goTo .service
    | some p => if s.engineBusy then s.goTo .service else (s.runAutoLoad p).goTo .service

/-- The request an event makes, and the response to it. -/
def NodeNetCore.answer (s : NodeNetCore) : Event → Option (Request × Reply)
  | .request r nowMs =>
    if s.phase = .service ∨ s.phase = .input then some (r, (s.handle nowMs r).2) else none
  | _ => none

/-- Requests are taken before the deferred operations; the VM may act in between. -/
def NodeNetCore.next (s : NodeNetCore) : Event → NodeNetCore
  | .request r nowMs =>
    if s.phase = .service ∨ s.phase = .input then (s.handle nowMs r).1 else s
  | .advance nowMs => s.advance nowMs
  | .vmStart => if s.engineEnabled then { s with engineBusy := true } else s
  | .vmReport slotId report =>
    if s.engineBusy then { s with mem := updateControl s.mem slotId (reportControl report) } else s
  | .vmFinish => { s with engineBusy := false }

def NodeNetCore.erases (s : NodeNetCore) : Event → Option PendingPlcErase
  | .advance _ => if s.phase = .eraseRun ∧ s.engineBusy = false then s.pendingPlcErase else none
  | _ => none

def NodeNetCore.autoLoads (s : NodeNetCore) : Event → Option PendingPlcAutoLoad
  | .advance _ =>
    if s.phase = .autoLoadRun ∧ s.engineBusy = false then s.pendingPlcAutoLoad else none
  | _ => none

/-- An event relinks the slots for a pending refresh. -/
def NodeNetCore.refreshes (s : NodeNetCore) : Event → Bool
  | .advance _ => s.phase = .refreshRun && s.pendingPlcRuntimeMapRefresh && !s.engineBusy
  | _ => false

/-- An event carries out a deferred operation. -/
def NodeNetCore.rewrites (s : NodeNetCore) (e : Event) : Prop :=
  s.refreshes e = true ∨ (s.erases e).isSome ∨ (s.autoLoads e).isSome

/-- The state in which the main loop is entered. -/
def NodeNetCore.start (mem : LoaderState) (staging flash : Memory) (nextPlcUploadId epoch : UInt32)
    (preferences : Preferences) : NodeNetCore where
  phase := .service
  mem := mem
  staging := staging
  flash := flash
  session := .reset
  nextPlcUploadId := nextPlcUploadId
  pendingPlcErase := none
  pendingPlcAutoLoad := none
  pendingPlcRuntimeMapRefresh := false
  pendingPlcRuntimeMapRestoreEngine := false
  lastObservedPlcRuntimeStoreEpoch := epoch
  engineEnabled := preferences.plcEngineEnabled
  engineBusy := false
  preferences := preferences

/-- A blank board with the engine enabled. -/
def NodeNetCore.blank : NodeNetCore :=
  .start .boot (fun _ => 0xFF) (fun _ => 0xFF) 1 0 ⟨true, 0⟩

/-- One iteration of the loop in which nothing else happens. -/
def iteration (nowMs : UInt32) : List Event := List.replicate 9 (.advance nowMs)

def volatileUpload (slotId : UInt16) (uploadId : UInt32) (bytes : List UInt8) : List Event :=
  [.request (.uploadBegin
      ⟨slotId, UInt32.ofNat bytes.length, Fnv.hash bytes, false, true, true⟩) 0,
    .request (.uploadData ⟨uploadId, 0, bytes, payloadChecksum16 bytes⟩) 0,
    .request (.uploadCommit uploadId noFaults) 0] ++ iteration 0

end NodeNet.Core

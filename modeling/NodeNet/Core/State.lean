import NodeNet.Restore

/-! The firmware core: its upload session, its deferred slot operations and the engine's bits. -/
namespace NodeNet.Core
open NodeNet.Bytes NodeNet.Nor NodeNet.Points NodeNet.Catalog NodeNet.Publisher NodeNet.Slot
open NodeNet.ObjectFile NodeNet.Loader NodeNet.Package

def kPlcUploadSessionTimeoutMs : UInt32 := 15000

def kPlcUploadVolatileStagingSize : UInt32 := 128 * 1024

/-- Every session auto-loads: the begin request refuses the others. -/
structure PlcUploadSession where
  active : Bool
  slotId : UInt16
  uploadId : UInt32
  totalSize : UInt32
  bytesReceived : UInt32
  expectedOffset : UInt32
  expectedChecksum : UInt32
  payloadChecksum : UInt32
  persistToFlash : Bool
  restoreSlotRunning : Bool
  lastActivityMs : UInt32
  lastErrorStatus : UInt32
  deriving DecidableEq

/-- The session that `resetPlcUploadSession` leaves. -/
def PlcUploadSession.reset : PlcUploadSession where
  active := false
  slotId := 0
  uploadId := 0
  totalSize := 0
  bytesReceived := 0
  expectedOffset := 0
  expectedChecksum := 0
  payloadChecksum := Fnv.basis
  persistToFlash := false
  restoreSlotRunning := false
  lastActivityMs := 0
  lastErrorStatus := 0

structure PendingPlcErase where
  slotId : UInt16
  persistToFlash : Bool
  restoreEngineEnabled : Bool
  deriving DecidableEq

/-- The object lies at the start of the slot's snapshot data. -/
structure PendingPlcAutoLoad where
  slotId : UInt16
  objectSize : UInt32
  restoreEngineEnabled : Bool
  restoreSlotRunning : Bool
  deriving DecidableEq

/-- What the preferences keep of the PLC across a reboot. -/
structure Preferences where
  plcEngineEnabled : Bool
  plcSlotRunMask : UInt32
  deriving DecidableEq

/-- The next part of the main loop; a deferred operation disables the engine in one part and
looks at it in the next. -/
inductive LoopPhase where
  | service | input | refresh | refreshRun | timeout | erase | eraseRun | autoLoad | autoLoadRun
  deriving DecidableEq

structure NodeNetCore where
  phase : LoopPhase
  mem : LoaderState
  staging : Memory
  flash : Memory
  session : PlcUploadSession
  nextPlcUploadId : UInt32
  pendingPlcErase : Option PendingPlcErase
  pendingPlcAutoLoad : Option PendingPlcAutoLoad
  pendingPlcRuntimeMapRefresh : Bool
  pendingPlcRuntimeMapRestoreEngine : Bool
  lastObservedPlcRuntimeStoreEpoch : UInt32
  engineEnabled : Bool
  engineBusy : Bool
  preferences : Preferences

def plcControlBlockLoaded (control : PlcProgramControlBlockV1) (slotId : UInt16) : Bool :=
  control.magic = kPlcProgramControlBlockMagicV1 && control.slotId = slotId &&
    control.bytecodeSize ≠ 0 && control.bytecodeBase ≠ 0

def plcSlotPaused (control : PlcProgramControlBlockV1) : Bool :=
  control.control &&& kPlcSlotControlPausedV1 ≠ 0

def plcSlotFaulted (control : PlcProgramControlBlockV1) : Bool :=
  control.status &&& kPlcSlotStatusFaultedV1 ≠ 0

def plcControlBlockReloadable (control : PlcProgramControlBlockV1) (slotId : UInt16) : Bool :=
  plcControlBlockLoaded control slotId && !plcSlotFaulted control

def setPaused (control : PlcProgramControlBlockV1) (paused : Bool) :
    PlcProgramControlBlockV1 :=
  { control with
    control :=
      if paused then control.control ||| kPlcSlotControlPausedV1
      else control.control &&& ~~~kPlcSlotControlPausedV1 }

def updateControl (s : LoaderState) (slotId : UInt16)
    (f : PlcProgramControlBlockV1 → PlcProgramControlBlockV1) : LoaderState :=
  s.updateSlot slotId fun m => { m with control := f m.control }

/-- The slots with a loaded program that is not paused, a bit each. -/
def plcSlotRunMaskSnapshot (s : LoaderState) : UInt32 :=
  slotIds.foldl (fun mask slotId =>
    let control := (s.slots slotId).control
    if plcControlBlockLoaded control slotId && !plcSlotPaused control then
      mask ||| (1 <<< slotId.toUInt32)
    else mask) 0

def NodeNetCore.savePreferences (s : NodeNetCore) (stored : Bool) : NodeNetCore :=
  { s with
    preferences :=
      if stored then ⟨s.engineEnabled, plcSlotRunMaskSnapshot s.mem⟩ else s.preferences }

/-! The deferred operations of the main loop: runtime-map refresh, erase and auto-load. -/

/-- The slot's manifest names the current store epoch. -/
def plcSlotManifestRuntimeMapOk (s : LoaderState) (slotId : UInt16) : Bool :=
  let manifest := (s.slots slotId).manifest
  plcControlBlockReloadable (s.slots slotId).control slotId && manifest.slotId = slotId &&
    manifest.version = NodeNet.ObjectFile.kPlcRuntimeAbiV1Version &&
    manifest.status = kPlcSlotStatusLoadedV1 && manifest.runtimeHeaderAddr = kPlcRuntimeHeaderAddr &&
    manifest.loadEpoch = s.publisher.storeEpoch

/-- Run a loaded slot's snapshot through the loader again. -/
def reloadSlot (s : LoaderState) (slotId : UInt16) : LoaderState :=
  let slotRunning := !plcSlotPaused (s.slots slotId).control
  let (s, result) := loadObjectFileIntoSlot s slotId (s.slots slotId).snapshotData
    (s.slots slotId).snapshotHeader.objectSize
  if result.status ≠ .Ok then s
  else
    let control := (s.slots slotId).control
    if control.magic = kPlcProgramControlBlockMagicV1 ∧ control.slotId = slotId then
      updateControl s slotId (setPaused · !slotRunning)
    else s

def refreshMirrorProgramRuntimeMap (s : LoaderState) (slotId : UInt16) : LoaderState :=
  if plcSlotManifestRuntimeMapOk s slotId then s
  else if !plcControlBlockLoaded (s.slots slotId).control slotId then s
  else if !objectSnapshotHeaderValid (s.slots slotId).snapshotHeader slotId then s
  else reloadSlot s slotId

/-- One iteration of the refresh loops: faulted and unloaded slots are skipped. -/
def refreshSlot (s : LoaderState) (slotId : UInt16) : LoaderState :=
  if plcControlBlockReloadable (s.slots slotId).control slotId then
    refreshMirrorProgramRuntimeMap s slotId
  else s

def refreshSlots (s : LoaderState) (slots : List UInt16) : LoaderState := slots.foldl refreshSlot s

/-- A refresh begins: the epoch has moved and none is pending. -/
def NodeNetCore.refreshDue (s : NodeNetCore) : Bool :=
  s.mem.publisher.ready && s.mem.publisher.headerWritten && !s.pendingPlcRuntimeMapRefresh &&
    s.lastObservedPlcRuntimeStoreEpoch ≠ s.mem.publisher.storeEpoch

/-- The part of the refresh before the engine's busy bit is read. -/
def NodeNetCore.enterRefresh (s : NodeNetCore) : NodeNetCore :=
  if s.refreshDue then
    { s with
      lastObservedPlcRuntimeStoreEpoch := s.mem.publisher.storeEpoch
      pendingPlcRuntimeMapRefresh := true
      pendingPlcRuntimeMapRestoreEngine := s.engineEnabled
      engineEnabled := false }
  else s

/-- The part of the refresh after the engine was found idle. -/
def NodeNetCore.runRefresh (s : NodeNetCore) : NodeNetCore :=
  let mem := refreshSlots s.mem slotIds
  { s with
    mem := mem
    engineEnabled := s.engineEnabled || s.pendingPlcRuntimeMapRestoreEngine
    pendingPlcRuntimeMapRestoreEngine := false
    pendingPlcRuntimeMapRefresh := false
    lastObservedPlcRuntimeStoreEpoch := mem.publisher.storeEpoch }

/-- What an erase or an auto-load did to the slots, and the epoch it noted if it relinked the
other slots. -/
structure SlotWork where
  mem : LoaderState
  relinked : Option UInt32

/-- Relinking the other slots settles a pending refresh. -/
def NodeNetCore.finish (s : NodeNetCore) (work : SlotWork) (restoreEngineEnabled : Bool) :
    NodeNetCore :=
  { s with
    mem := work.mem
    engineEnabled := s.engineEnabled || restoreEngineEnabled
    pendingPlcRuntimeMapRefresh := s.pendingPlcRuntimeMapRefresh && work.relinked.isNone
    pendingPlcRuntimeMapRestoreEngine := s.pendingPlcRuntimeMapRestoreEngine && work.relinked.isNone
    lastObservedPlcRuntimeStoreEpoch := work.relinked.getD s.lastObservedPlcRuntimeStoreEpoch }

def otherSlots (slotId : UInt16) : List UInt16 := slotIds.filter (· ≠ slotId)

/-- The erase's `memset`s of the control block, the manifest and the two headers. -/
def clearSlotHeaders (m : SlotMemory) : SlotMemory :=
  { m with
    control := .zero
    manifest := .zero
    linkedHeader := .zero
    snapshotHeader := .zero }

def clearSlotRegions (m : SlotMemory) : SlotMemory :=
  { m with
    linkedCode := fun _ => 0
    stack := fun _ => 0
    timers := fun _ => 0
    params := fun _ => 0
    scratch := fun _ => 0 }

def eraseSlot (s : LoaderState) (slotId : UInt16) : SlotWork :=
  let s := s.updateSlot slotId clearSlotHeaders
  match s.catalog.replaceSlotVariableDefinitions slotId [] with
  | none => ⟨s, none⟩
  | some (_, false) => ⟨s.updateSlot slotId clearSlotRegions, none⟩
  | some (catalog, true) =>
    match s.publisher.publish catalog with
    | none => ⟨{ s with catalog := catalog }, none⟩
    | some publisher =>
      let s := refreshSlots
        ({ s with catalog := catalog, publisher := publisher }.updateSlot slotId clearSlotRegions)
        (otherSlots slotId)
      ⟨s, some s.publisher.storeEpoch⟩

/-- The part of an erase or an auto-load before the engine's busy bit is read. -/
def NodeNetCore.disableFor (s : NodeNetCore) (restoreEngineEnabled : Option Bool) : NodeNetCore :=
  { s with engineEnabled := s.engineEnabled && !(restoreEngineEnabled.getD false) }

/-- The part of the erase after the engine was found idle. -/
def NodeNetCore.runErase (s : NodeNetCore) (p : PendingPlcErase) : NodeNetCore :=
  { s.finish (eraseSlot s.mem p.slotId) p.restoreEngineEnabled with pendingPlcErase := none }

/-- The control block after a successful load hands the run state back. -/
def restoreRunState (s : LoaderState) (slotId : UInt16) (running : Bool) : LoaderState :=
  let control := (s.slots slotId).control
  if control.magic = kPlcProgramControlBlockMagicV1 ∧ control.slotId = slotId then
    updateControl s slotId fun control =>
      { setPaused control !running with status := kPlcSlotStatusLoadedV1 }
  else s

/-- The epoch noted is the one before the other slots were relinked. -/
def autoLoadSlot (s : LoaderState) (p : PendingPlcAutoLoad) : SlotWork :=
  let (loaded, result) := loadObjectFileIntoSlot s p.slotId (s.slots p.slotId).snapshotData
    p.objectSize
  if result.status ≠ .Ok then ⟨loaded, none⟩
  else
    let loaded := restoreRunState loaded p.slotId p.restoreSlotRunning
    let after := loaded.publisher.storeEpoch
    if after ≠ s.publisher.storeEpoch then ⟨refreshSlots loaded (otherSlots p.slotId), some after⟩
    else ⟨loaded, none⟩

/-- The part of the auto-load after the engine was found idle. -/
def NodeNetCore.runAutoLoad (s : NodeNetCore) (p : PendingPlcAutoLoad) : NodeNetCore :=
  { s.finish (autoLoadSlot s.mem p) p.restoreEngineEnabled with pendingPlcAutoLoad := none }

/-! The requests that the core answers: uploads, erases, PLC commands and point definitions. -/

inductive RequestError where
  | slotOutOfRange | uploadBusy | flashPersistFailed | flashUploadRequiresAutoLoad
  | volatileUploadRequiresAutoLoad | sizeOutOfRange | unsupportedArtifactType | noActiveUpload
  | uploadIdMismatch | offsetMismatch | invalidChunkSize | invalidOffset | chunkChecksumMismatch
  | uploadIncomplete | payloadChecksumMismatch | loadStagingFailed | loadFailed | rejected
  deriving DecidableEq

/-- The response: ok, or the error. -/
abbrev Reply := Except RequestError Unit

instance exceptDecidableEq {ε α : Type} [DecidableEq ε] [DecidableEq α] : DecidableEq (Except ε α)
  | .ok a, .ok b => decidable_of_iff (a = b) ⟨congrArg _, Except.ok.inj⟩
  | .error a, .error b => decidable_of_iff (a = b) ⟨congrArg _, Except.error.inj⟩
  | .ok _, .error _ => .isFalse fun h => by cases h
  | .error _, .ok _ => .isFalse fun h => by cases h

inductive SlotCommand where
  | start | stop | reset | clearFault
  deriving DecidableEq

structure EraseRequest where
  slotId : UInt16
  persistToFlash : Bool

structure UploadBeginRequest where
  slotId : UInt16
  totalSize : UInt32
  payloadCrc32 : UInt32
  persistToFlash : Bool
  autoLoad : Bool
  /-- The artifact type is `objectFileV1`. -/
  objectFileV1 : Bool

structure UploadChunk where
  uploadId : UInt32
  offset : UInt32
  payload : List UInt8
  payloadChecksum : UInt16

/-- `upsertPointDefinition`; an identical definition changes nothing. -/
def upsertPointDefinition (s : LoaderState) (definition : PointDefinition) : LoaderState × Reply :=
  let existing := (s.catalog.findIndex definition.id).bind (s.catalog.definitions[·]?)
  if existing = some definition then (s, .ok ())
  else
    match s.catalog.upsert definition with
    | none => (s, .error .rejected)
    | some catalog => (syncPlcRuntimeDefinitions { s with catalog := catalog }, .ok ())

def removePointDefinition (s : LoaderState) (id : PointIdentity) : LoaderState × Reply :=
  match s.catalog.remove id with
  | none => (s, .error .rejected)
  | some catalog => (syncPlcRuntimeDefinitions { s with catalog := catalog }, .ok ())

/-- The engineEnabled point: the bit is written, and the preferences are saved. -/
def handleEngineEnabled (s : NodeNetCore) (requested stored : Bool) : NodeNetCore × Reply :=
  (NodeNetCore.savePreferences { s with engineEnabled := requested } stored, .ok ())

def startControl (control : PlcProgramControlBlockV1) : PlcProgramControlBlockV1 :=
  { setPaused control false with
    status := if control.status ≠ kPlcSlotStatusRunningV1 then kPlcSlotStatusLoadedV1
      else control.status }

def stopControl (control : PlcProgramControlBlockV1) : PlcProgramControlBlockV1 :=
  { setPaused control true with
    status := if plcSlotFaulted control then control.status else kPlcSlotStatusLoadedV1 }

/-- The entry offset of the linked image, when it lies in the code. -/
def resetControl (m : SlotMemory) (slotId : UInt16) : PlcProgramControlBlockV1 :=
  let entryOffset :=
    if m.linkedHeader.magic = kPlcLinkedImageMagicV1 ∧ m.linkedHeader.slotId = slotId then
      m.linkedHeader.entryOffset
    else 0
  { m.control with
    pc := if entryOffset < m.control.bytecodeSize then entryOffset else 0
    cycleCounter := 0
    faultCode := 0
    faultInfo := 0
    status :=
      if plcSlotFaulted m.control ∨ m.control.status = kPlcSlotStatusRunningV1 then
        kPlcSlotStatusLoadedV1
      else m.control.status }

def clearFaultControl (control : PlcProgramControlBlockV1) : PlcProgramControlBlockV1 :=
  { control with
    faultCode := 0
    faultInfo := 0
    status := if plcSlotFaulted control then kPlcSlotStatusLoadedV1 else control.status }

def commandedControl (m : SlotMemory) (slotId : UInt16) :
    SlotCommand → PlcProgramControlBlockV1
  | .start => startControl m.control
  | .stop => stopControl m.control
  | .reset => resetControl m slotId
  | .clearFault => clearFaultControl m.control

/-- Starting and stopping are what the preferences remember. -/
def SlotCommand.saves (command : SlotCommand) : Bool := command = .start || command = .stop

/-- Only loaded slots take commands, and a faulted one does not start. -/
def slotCommandAccepted (control : PlcProgramControlBlockV1) (slotId : UInt16)
    (command : SlotCommand) : Bool :=
  plcControlBlockLoaded control slotId && !(command = .start && plcSlotFaulted control)

def NodeNetCore.command (s : NodeNetCore) (command : SlotCommand) (slotId : UInt16)
    (stored : Bool) : NodeNetCore :=
  let control := commandedControl (s.mem.slots slotId) slotId command
  NodeNetCore.savePreferences { s with mem := updateControl s.mem slotId fun _ => control }
    (stored && command.saves)

/-- The slot points of the PLC: `false` is acknowledged and does nothing. -/
def handleSlotCommand (s : NodeNetCore) (command : SlotCommand) (slotId : UInt16)
    (requested stored : Bool) : NodeNetCore × Reply :=
  if kPlcSlotCountV1 ≤ slotId then (s, .error .rejected)
  else if !requested then (s, .ok ())
  else if !slotCommandAccepted (s.mem.slots slotId).control slotId command then
    (s, .error .rejected)
  else (s.command command slotId stored, .ok ())

def eraseError (s : NodeNetCore) (r : EraseRequest) : Option RequestError :=
  if kPlcSlotCountV1 ≤ r.slotId then some .slotOutOfRange
  else if s.session.active || s.pendingPlcAutoLoad.isSome then some .uploadBusy
  else none

def NodeNetCore.savePackage (s : NodeNetCore) (persistToFlash : Bool) (override : PackageOverride)
    (faults : Faults) : SavedPackage :=
  if persistToFlash then savePersistedPlcSlotsPackage s.mem override s.staging s.flash faults
  else ⟨s.staging, s.flash, true⟩

def NodeNetCore.withPackage (s : NodeNetCore) (saved : SavedPackage) : NodeNetCore :=
  { s with staging := saved.staging, flash := saved.flash }

def NodeNetCore.queueErase (s : NodeNetCore) (r : EraseRequest) : NodeNetCore :=
  { s with pendingPlcErase := some ⟨r.slotId, r.persistToFlash, s.engineEnabled⟩ }

def handlePlcEraseRequest (s : NodeNetCore) (r : EraseRequest) (faults : Faults) :
    NodeNetCore × Reply :=
  match eraseError s r with
  | some error => (s, .error error)
  | none =>
    let saved := s.savePackage r.persistToFlash ⟨r.slotId, none, 0⟩ faults
    if saved.ok then ((s.withPackage saved).queueErase r, .ok ())
    else (s.withPackage saved, .error .flashPersistFailed)

/-- The checks of a begin request; a pending auto-load or erase is not one of them. -/
def beginError (session : PlcUploadSession) (r : UploadBeginRequest) : Option RequestError :=
  if session.active then some .uploadBusy
  else if kPlcSlotCountV1 ≤ r.slotId then some .slotOutOfRange
  else if !r.autoLoad then
    some (if r.persistToFlash then .flashUploadRequiresAutoLoad
      else .volatileUploadRequiresAutoLoad)
  else if r.totalSize < headerSize ∨ kPlcUploadVolatileStagingSize < r.totalSize then
    some .sizeOutOfRange
  else if !r.objectFileV1 then some .unsupportedArtifactType
  else none

/-- The upload's slot is stopped as the stop command does it. -/
def beginUpload (s : NodeNetCore) (r : UploadBeginRequest) (nowMs : UInt32) : NodeNetCore :=
  let control := (s.mem.slots r.slotId).control
  let loaded := plcControlBlockLoaded control r.slotId
  { s with
    mem := if loaded then updateControl s.mem r.slotId stopControl else s.mem
    staging := fun x => if x < kPlcUploadVolatileStagingSize then 0xFF else s.staging x
    nextPlcUploadId := s.nextPlcUploadId + 1
    session := { PlcUploadSession.reset with
      active := true
      restoreSlotRunning := loaded && !plcSlotPaused control
      slotId := r.slotId
      uploadId := s.nextPlcUploadId
      totalSize := r.totalSize
      expectedChecksum := r.payloadCrc32
      persistToFlash := r.persistToFlash
      lastActivityMs := nowMs } }

def handlePlcUploadBeginRequest (s : NodeNetCore) (r : UploadBeginRequest) (nowMs : UInt32) :
    NodeNetCore × Reply :=
  match beginError s.session r with
  | some error => (s, .error error)
  | none => (beginUpload s r nowMs, .ok ())

/-- The additive checksum of a data frame. -/
def payloadChecksum16 (payload : List UInt8) : UInt16 :=
  payload.foldl (fun sum b => sum + b.toUInt16) 0

def chunkError (session : PlcUploadSession) (c : UploadChunk) : Option RequestError :=
  let size := UInt32.ofNat c.payload.length
  if c.uploadId ≠ session.uploadId then some .uploadIdMismatch
  else if c.offset ≠ session.expectedOffset then some .offsetMismatch
  else if c.payload.length = 0 ∨ NodeNet.Flash.kPageSize.toNat < c.payload.length then
    some .invalidChunkSize
  else if c.offset % NodeNet.Flash.kPageSize ≠ 0 ∨ session.totalSize < c.offset + size then
    some .invalidOffset
  else if payloadChecksum16 c.payload ≠ c.payloadChecksum then some .chunkChecksumMismatch
  else none

def PlcUploadSession.refuse (session : PlcUploadSession) : PlcUploadSession :=
  { session with lastErrorStatus := 1 }

def PlcUploadSession.accept (session : PlcUploadSession) (payload : List UInt8)
    (nowMs : UInt32) : PlcUploadSession :=
  { session with
    bytesReceived := session.bytesReceived + UInt32.ofNat payload.length
    expectedOffset := session.expectedOffset + UInt32.ofNat payload.length
    payloadChecksum := Fnv.hashFrom session.payloadChecksum payload
    lastActivityMs := nowMs
    lastErrorStatus := 0 }

def handlePlcUploadDataChunk (s : NodeNetCore) (c : UploadChunk) (nowMs : UInt32) :
    NodeNetCore × Reply :=
  if !s.session.active then (s, .error .noActiveUpload)
  else
    match chunkError s.session c with
    | some error => ({ s with session := s.session.refuse }, .error error)
    | none =>
      ({ s with
        staging := patch s.staging c.offset c.payload
        session := s.session.accept c.payload nowMs }, .ok ())

def handlePlcUploadAbortRequest (s : NodeNetCore) (uploadId : UInt32) : NodeNetCore × Reply :=
  if !s.session.active then (s, .error .noActiveUpload)
  else if uploadId ≠ 0 ∧ uploadId ≠ s.session.uploadId then (s, .error .uploadIdMismatch)
  else ({ s with session := .reset }, .ok ())

/-- The object is staged in the slot's snapshot data, whether or not the save then succeeds. -/
def stageUpload (s : NodeNetCore) : NodeNetCore :=
  { s with
    mem := s.mem.updateSlot s.session.slotId fun m =>
      { m with snapshotData := copy m.snapshotData 0 s.staging 0 s.session.totalSize.toNat } }

/-- The checks of a commit before it writes anything. -/
def commitError (session : PlcUploadSession) (uploadId : UInt32) : Option RequestError :=
  if !session.active then some .noActiveUpload
  else if uploadId ≠ session.uploadId then some .uploadIdMismatch
  else if session.bytesReceived ≠ session.totalSize then some .uploadIncomplete
  else if session.payloadChecksum ≠ session.expectedChecksum then some .payloadChecksumMismatch
  else if kPlcSlotCountV1 ≤ session.slotId ∨ slotObjectSnapshotCapacity < session.totalSize then
    some (if session.persistToFlash then .flashPersistFailed else .loadStagingFailed)
  else none

/-- The uploaded object, which takes its slot's place in the package. -/
def NodeNetCore.uploadOverride (s : NodeNetCore) : PackageOverride :=
  ⟨s.session.slotId, some (s.mem.slots s.session.slotId).snapshotData, s.session.totalSize⟩

/-- The session is over and its object waits to be loaded. -/
def NodeNetCore.queueAutoLoad (s : NodeNetCore) : NodeNetCore :=
  { s with
    pendingPlcAutoLoad := some
      ⟨s.session.slotId, s.session.totalSize, s.engineEnabled, s.session.restoreSlotRunning⟩
    session := .reset }

def handlePlcUploadCommitRequest (s : NodeNetCore) (uploadId : UInt32) (faults : Faults) :
    NodeNetCore × Reply :=
  match commitError s.session uploadId with
  | some error => (s, .error error)
  | none =>
    let s := stageUpload s
    let saved := s.savePackage s.session.persistToFlash s.uploadOverride faults
    if saved.ok then ((s.withPackage saved).queueAutoLoad, .ok ())
    else (s.withPackage saved, .error .flashPersistFailed)

end NodeNet.Core

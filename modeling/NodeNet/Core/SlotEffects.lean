import NodeNet.Core.Loop
import NodeNet.LoadEffects

/-! What the parts of the loop leave alone. -/
namespace NodeNet.Core
open NodeNet.Slot NodeNet.Loader NodeNet.Package NodeNet.Bytes NodeNet.ObjectFile

section
variable (s : NodeNetCore) (phase : LoopPhase)

@[simp] theorem goTo_phase : (s.goTo phase).phase = phase := rfl

@[simp] theorem goTo_mem : (s.goTo phase).mem = s.mem := rfl

@[simp] theorem goTo_staging : (s.goTo phase).staging = s.staging := rfl

@[simp] theorem goTo_flash : (s.goTo phase).flash = s.flash := rfl

@[simp] theorem goTo_session : (s.goTo phase).session = s.session := rfl

@[simp] theorem goTo_nextPlcUploadId : (s.goTo phase).nextPlcUploadId = s.nextPlcUploadId := rfl

@[simp] theorem goTo_pendingPlcErase : (s.goTo phase).pendingPlcErase = s.pendingPlcErase := rfl

@[simp] theorem goTo_pendingPlcAutoLoad :
    (s.goTo phase).pendingPlcAutoLoad = s.pendingPlcAutoLoad := rfl

@[simp] theorem goTo_pendingPlcRuntimeMapRefresh :
    (s.goTo phase).pendingPlcRuntimeMapRefresh = s.pendingPlcRuntimeMapRefresh := rfl

@[simp] theorem goTo_pendingPlcRuntimeMapRestoreEngine :
    (s.goTo phase).pendingPlcRuntimeMapRestoreEngine = s.pendingPlcRuntimeMapRestoreEngine := rfl

@[simp] theorem goTo_lastObservedPlcRuntimeStoreEpoch :
    (s.goTo phase).lastObservedPlcRuntimeStoreEpoch = s.lastObservedPlcRuntimeStoreEpoch := rfl

@[simp] theorem goTo_engineEnabled : (s.goTo phase).engineEnabled = s.engineEnabled := rfl

@[simp] theorem goTo_engineBusy : (s.goTo phase).engineBusy = s.engineBusy := rfl

@[simp] theorem goTo_preferences : (s.goTo phase).preferences = s.preferences := rfl

end

section
variable (s : NodeNetCore) (command : SlotCommand) (slotId : UInt16) (stored : Bool)

theorem command_mem : (s.command command slotId stored).mem =
    updateControl s.mem slotId fun _ =>
      commandedControl (s.mem.slots slotId) slotId command := rfl

theorem command_pendingPlcErase :
    (s.command command slotId stored).pendingPlcErase = s.pendingPlcErase := rfl

theorem command_pendingPlcAutoLoad :
    (s.command command slotId stored).pendingPlcAutoLoad = s.pendingPlcAutoLoad := rfl

theorem runRefresh_mem : s.runRefresh.mem = refreshSlots s.mem slotIds := by
  rw [NodeNetCore.runRefresh]

@[simp] theorem runRefresh_pendingPlcErase : s.runRefresh.pendingPlcErase = s.pendingPlcErase := by
  rw [NodeNetCore.runRefresh]

@[simp] theorem runRefresh_pendingPlcAutoLoad :
    s.runRefresh.pendingPlcAutoLoad = s.pendingPlcAutoLoad := by
  rw [NodeNetCore.runRefresh]

end

@[simp] theorem stageUpload_session (s : NodeNetCore) : (stageUpload s).session = s.session := rfl

@[simp] theorem stageUpload_staging (s : NodeNetCore) : (stageUpload s).staging = s.staging := rfl

/-- The deferred operations touch neither the upload nor what is stored. -/
structure Defers (s t : NodeNetCore) : Prop where
  session : t.session = s.session
  staging : t.staging = s.staging
  flash : t.flash = s.flash
  nextPlcUploadId : t.nextPlcUploadId = s.nextPlcUploadId
  preferences : t.preferences = s.preferences
  engineBusy : t.engineBusy = s.engineBusy
  phase : t.phase = s.phase

theorem defers_enterRefresh (s : NodeNetCore) : Defers s s.enterRefresh := by
  rw [NodeNetCore.enterRefresh]
  split <;> exact ⟨rfl, rfl, rfl, rfl, rfl, rfl, rfl⟩

theorem defers_runRefresh (s : NodeNetCore) : Defers s s.runRefresh := by
  rw [NodeNetCore.runRefresh]
  exact ⟨rfl, rfl, rfl, rfl, rfl, rfl, rfl⟩

theorem defers_runErase (s : NodeNetCore) (p : PendingPlcErase) : Defers s (s.runErase p) := by
  rw [NodeNetCore.runErase]
  exact ⟨rfl, rfl, rfl, rfl, rfl, rfl, rfl⟩

theorem defers_runAutoLoad (s : NodeNetCore) (p : PendingPlcAutoLoad) :
    Defers s (s.runAutoLoad p) := by
  rw [NodeNetCore.runAutoLoad]
  exact ⟨rfl, rfl, rfl, rfl, rfl, rfl, rfl⟩

/-- What a part of the loop can do; it waits when it has nothing to do or finds the engine busy. -/
inductive Advanced (s : NodeNetCore) (nowMs : UInt32) : NodeNetCore → Prop where
  | waits (phase : LoopPhase) : Advanced s nowMs (s.goTo phase)
  | entersRefresh (hphase : s.phase = .refresh) :
    Advanced s nowMs (s.enterRefresh.goTo .refreshRun)
  | refreshes (hphase : s.phase = .refreshRun) (hidle : s.engineBusy = false)
    (hpending : s.pendingPlcRuntimeMapRefresh = true) :
    Advanced s nowMs (s.runRefresh.goTo .timeout)
  | timesOut (hphase : s.phase = .timeout) (htimeout : s.sessionTimedOut nowMs = true) :
    Advanced s nowMs (s.endUpload.goTo .erase)
  | disablesForErase (hphase : s.phase = .erase) :
    Advanced s nowMs
      ((s.disableFor (s.pendingPlcErase.map (·.restoreEngineEnabled))).goTo .eraseRun)
  | erases (hphase : s.phase = .eraseRun) (hidle : s.engineBusy = false) (p : PendingPlcErase)
    (hpending : s.pendingPlcErase = some p) : Advanced s nowMs ((s.runErase p).goTo .autoLoad)
  | disablesForAutoLoad (hphase : s.phase = .autoLoad) :
    Advanced s nowMs
      ((s.disableFor (s.pendingPlcAutoLoad.map (·.restoreEngineEnabled))).goTo .autoLoadRun)
  | autoLoads (hphase : s.phase = .autoLoadRun) (hidle : s.engineBusy = false)
    (p : PendingPlcAutoLoad) (hpending : s.pendingPlcAutoLoad = some p) :
    Advanced s nowMs ((s.runAutoLoad p).goTo .service)

theorem advance_cases (s : NodeNetCore) (nowMs : UInt32) : Advanced s nowMs (s.advance nowMs) := by
  rw [NodeNetCore.advance]
  cases hphase : s.phase with
  | service => exact .waits .input
  | input => exact .waits .refresh
  | refresh => exact .entersRefresh hphase
  | refreshRun =>
    dsimp only
    split
    · rename_i hrun
      simp only [Bool.and_eq_true, Bool.not_eq_true'] at hrun
      exact .refreshes hphase hrun.2 hrun.1
    · exact .waits .timeout
  | timeout =>
    dsimp only
    split
    · rename_i htimeout
      exact .timesOut hphase htimeout
    · exact .waits .erase
  | erase => exact .disablesForErase hphase
  | eraseRun =>
    cases hp : s.pendingPlcErase with
    | none => exact .waits .autoLoad
    | some p =>
      cases hbusy : s.engineBusy with
      | true => exact .waits .autoLoad
      | false => exact .erases hphase hbusy p hp
  | autoLoad => exact .disablesForAutoLoad hphase
  | autoLoadRun =>
    cases hp : s.pendingPlcAutoLoad with
    | none => exact .waits .service
    | some p =>
      cases hbusy : s.engineBusy with
      | true => exact .waits .service
      | false => exact .autoLoads hphase hbusy p hp

theorem advance_upload (s : NodeNetCore) (nowMs : UInt32) :
    (s.advance nowMs).staging = s.staging ∧
      ((s.advance nowMs).session = s.session ∨ (s.advance nowMs).session = .reset) := by
  have h := advance_cases s nowMs
  generalize s.advance nowMs = t at h ⊢
  cases h with
  | waits phase => exact ⟨rfl, .inl rfl⟩
  | entersRefresh _ =>
    have hkept := defers_enterRefresh s
    exact ⟨hkept.staging, .inl hkept.session⟩
  | refreshes _ _ _ =>
    rw [goTo_staging, goTo_session]
    have hkept := defers_runRefresh s
    exact ⟨hkept.staging, .inl hkept.session⟩
  | timesOut _ _ => exact ⟨rfl, .inr rfl⟩
  | disablesForErase _ => exact ⟨rfl, .inl rfl⟩
  | erases _ _ p _ =>
    have hkept := defers_runErase s p
    exact ⟨hkept.staging, .inl hkept.session⟩
  | disablesForAutoLoad _ => exact ⟨rfl, .inl rfl⟩
  | autoLoads _ _ p _ =>
    have hkept := defers_runAutoLoad s p
    exact ⟨hkept.staging, .inl hkept.session⟩

theorem advance_engineBusy (s : NodeNetCore) (nowMs : UInt32) :
    (s.advance nowMs).engineBusy = s.engineBusy := by
  have h := advance_cases s nowMs
  generalize s.advance nowMs = t at h ⊢
  cases h with
  | waits phase => rfl
  | entersRefresh _ => exact (defers_enterRefresh s).engineBusy
  | refreshes _ _ _ =>
    rw [goTo_engineBusy]
    exact (defers_runRefresh s).engineBusy
  | timesOut _ _ => rfl
  | disablesForErase _ => rfl
  | erases _ _ p _ => exact (defers_runErase s p).engineBusy
  | disablesForAutoLoad _ => rfl
  | autoLoads _ _ p _ => exact (defers_runAutoLoad s p).engineBusy

def LoopPhase.following : LoopPhase → LoopPhase
  | .service => .input
  | .input => .refresh
  | .refresh => .refreshRun
  | .refreshRun => .timeout
  | .timeout => .erase
  | .erase => .eraseRun
  | .eraseRun => .autoLoad
  | .autoLoad => .autoLoadRun
  | .autoLoadRun => .service

theorem advance_phase (s : NodeNetCore) (nowMs : UInt32) :
    (s.advance nowMs).phase = s.phase.following := by
  rw [NodeNetCore.advance]
  cases s.phase with
  | service => rfl
  | input => rfl
  | refresh => rfl
  | refreshRun =>
    dsimp only
    split <;> rfl
  | timeout =>
    dsimp only
    split <;> rfl
  | erase => rfl
  | eraseRun =>
    cases s.pendingPlcErase with
    | none => rfl
    | some p =>
      dsimp only
      split <;> rfl
  | autoLoad => rfl
  | autoLoadRun =>
    cases s.pendingPlcAutoLoad with
    | none => rfl
    | some p =>
      dsimp only
      split <;> rfl

/-! What the deferred operations leave in each slot's memory. -/

theorem copy_self (m : Memory) (n : Nat) : copy m 0 m 0 n = m := by
  funext x
  by_cases hx : Covers 0 n x
  · rw [copy_of_covers hx, UInt32.sub_zero, UInt32.zero_add]
  · rw [copy_of_not_covers hx]

variable {slotId : UInt16}

theorem snapshotFits_of_valid {h : PlcObjectSnapshotHeaderV1} (hslot : slotId < kPlcSlotCountV1)
    (hvalid : objectSnapshotHeaderValid h slotId = true) : SnapshotFits slotId h.objectSize := by
  simp only [objectSnapshotHeaderValid, Bool.and_eq_true, decide_eq_true_eq] at hvalid
  exact ⟨hslot, hvalid.1.2, hvalid.2⟩

/-- The slot's memory after its own snapshot was loaded again. -/
def reloaded (m : SlotMemory) (slotId : UInt16) (code : Memory) (l : LoadedProgram) : SlotMemory :=
  { SlotMemory.writeLoadedSlotMetadata { m with linkedCode := code } slotId l with
    snapshotHeader := loadedSnapshotHeader slotId m.snapshotHeader.objectSize
      (checksum32 m.snapshotData 0 m.snapshotHeader.objectSize)
    control := setPaused (loadedControlBlock slotId l) (plcSlotPaused m.control) }

/-- What a refresh does to the slot it looks at. -/
inductive AfterRefresh (m : SlotMemory) (slotId : UInt16) : SlotMemory → Prop where
  | kept : AfterRefresh m slotId m
  | unlinked (hloaded : plcControlBlockReloadable m.control slotId = true)
    (hvalid : objectSnapshotHeaderValid m.snapshotHeader slotId = true) (code : Memory)
    (hcode : LinkedFrom slotId m.snapshotData m.snapshotHeader.objectSize code) :
    AfterRefresh m slotId { m with linkedCode := code }
  | reloaded (hloaded : plcControlBlockReloadable m.control slotId = true)
    (hvalid : objectSnapshotHeaderValid m.snapshotHeader slotId = true) (code : Memory)
    (hcode : LinkedFrom slotId m.snapshotData m.snapshotHeader.objectSize code)
    (l : LoadedProgram) (hsize : l.codeSize = (readHeader m.snapshotData).codeSize) :
    AfterRefresh m slotId (reloaded m slotId code l)

@[simp] theorem updateControl_self (s : LoaderState) (slotId : UInt16)
    (f : PlcProgramControlBlockV1 → PlcProgramControlBlockV1) :
    (updateControl s slotId f).slots slotId =
      { s.slots slotId with control := f (s.slots slotId).control } := updateSlot_self ..

variable {j : UInt16}

theorem updateControl_of_ne (s : LoaderState) (h : j ≠ slotId)
    (f : PlcProgramControlBlockV1 → PlcProgramControlBlockV1) :
    (updateControl s slotId f).slots j = s.slots j := updateSlot_of_ne s h _

theorem reloadSlot_of_ne (s : LoaderState) (h : j ≠ slotId) :
    (reloadSlot s slotId).slots j = s.slots j := by
  rw [reloadSlot]
  have hload := load_of_ne s h (s.slots slotId).snapshotData
    (s.slots slotId).snapshotHeader.objectSize
  dsimp only
  split
  · exact hload
  · split
    · rw [updateControl_of_ne _ h, hload]
    · exact hload

theorem reloadSlot_slot {s : LoaderState} (hslot : slotId < kPlcSlotCountV1)
    (hloaded : plcControlBlockReloadable (s.slots slotId).control slotId = true)
    (hvalid : objectSnapshotHeaderValid (s.slots slotId).snapshotHeader slotId = true) :
    AfterRefresh (s.slots slotId) slotId ((reloadSlot s slotId).slots slotId) := by
  rw [reloadSlot]
  generalize hload : loadObjectFileIntoSlot s slotId (s.slots slotId).snapshotData
    (s.slots slotId).snapshotHeader.objectSize = load
  have hafter := load_slot s slotId (s.slots slotId).snapshotData
    (s.slots slotId).snapshotHeader.objectSize
  rw [hload] at hafter
  obtain ⟨t, result⟩ := load
  dsimp only at hafter ⊢
  generalize hm : t.slots slotId = m at hafter
  generalize hst : result.status = status at hafter
  cases hafter with
  | refused h =>
    rw [if_pos h, hm]
    exact .kept
  | unlinked h code hcode =>
    rw [if_pos h, hm]
    exact .unlinked hloaded hvalid code hcode
  | unsaved h hfits code _ l => exact absurd (snapshotFits_of_valid hslot hvalid) hfits
  | loaded hfits code hcode l hsize =>
    rw [if_neg (by simp), if_pos ⟨rfl, rfl⟩, updateControl_self, hm]
    have hdata := copy_self (s.slots slotId).snapshotData
      (s.slots slotId).snapshotHeader.objectSize.toNat
    have heq : { withSnapshot (SlotMemory.writeLoadedSlotMetadata
          { s.slots slotId with linkedCode := code } slotId l) slotId
          (s.slots slotId).snapshotData (s.slots slotId).snapshotHeader.objectSize with
        control := setPaused (loadedControlBlock slotId l)
          (plcSlotPaused (s.slots slotId).control) } =
        reloaded (s.slots slotId) slotId code l := by
      simp only [withSnapshot, reloaded, SlotMemory.writeLoadedSlotMetadata, hdata]
    simp only [Bool.not_not]
    have hafter := AfterRefresh.reloaded hloaded hvalid code hcode l hsize
    rw [← heq] at hafter
    exact hafter

theorem refreshSlot_of_ne (s : LoaderState) (h : j ≠ slotId) :
    (refreshSlot s slotId).slots j = s.slots j := by
  rw [refreshSlot, refreshMirrorProgramRuntimeMap]
  repeat' split
  all_goals first | rfl | exact reloadSlot_of_ne s h

theorem refreshSlot_slot (s : LoaderState) (hslot : slotId < kPlcSlotCountV1) :
    AfterRefresh (s.slots slotId) slotId ((refreshSlot s slotId).slots slotId) := by
  rw [refreshSlot]
  split
  · rename_i hloaded
    rw [refreshMirrorProgramRuntimeMap]
    split
    · exact .kept
    · split
      · exact .kept
      · split
        · exact .kept
        · rename_i hvalid
          exact reloadSlot_slot hslot hloaded (by simpa using hvalid)
  · exact .kept

theorem refreshSlots_of_not_mem {slots : List UInt16} (h : j ∉ slots) (s : LoaderState) :
    (refreshSlots s slots).slots j = s.slots j := by
  induction slots generalizing s with
  | nil => rfl
  | cons k slots ih =>
    have hjk : j ≠ k := fun hjk => h (hjk ▸ List.mem_cons_self)
    have hrest := ih (fun hj => h (List.mem_cons_of_mem k hj)) (refreshSlot s k)
    rw [refreshSlot_of_ne s hjk] at hrest
    exact hrest

theorem refreshSlots_slot {slots : List UInt16} (hnodup : slots.Nodup)
    (hslots : ∀ k ∈ slots, k < kPlcSlotCountV1) (s : LoaderState) (j : UInt16) :
    AfterRefresh (s.slots j) j ((refreshSlots s slots).slots j) := by
  induction slots generalizing s with
  | nil => exact .kept
  | cons k slots ih =>
    have hrest := ih (List.nodup_cons.mp hnodup).2
      (fun i hi => hslots i (List.mem_cons_of_mem k hi)) (refreshSlot s k)
    change AfterRefresh _ j ((refreshSlots (refreshSlot s k) slots).slots j)
    by_cases hj : j = k
    · subst hj
      rw [refreshSlots_of_not_mem (List.nodup_cons.mp hnodup).1]
      exact refreshSlot_slot s (hslots j List.mem_cons_self)
    · rw [refreshSlot_of_ne s hj] at hrest
      exact hrest

theorem otherSlots_nodup (slotId : UInt16) : (otherSlots slotId).Nodup :=
  slotIds_nodup.filter _

theorem mem_otherSlots {k : UInt16} : k ∈ otherSlots slotId ↔ k < kPlcSlotCountV1 ∧ k ≠ slotId := by
  simp [otherSlots, mem_slotIds]

/-- An erased slot: no program, no manifest, no snapshot; the snapshot's data area is kept. -/
structure Cleared (m m' : SlotMemory) : Prop where
  control : m'.control = .zero
  manifest : m'.manifest = .zero
  linkedHeader : m'.linkedHeader = .zero
  snapshotHeader : m'.snapshotHeader = .zero
  snapshotData : m'.snapshotData = m.snapshotData

theorem cleared_headers (m : SlotMemory) : Cleared m (clearSlotHeaders m) :=
  ⟨rfl, rfl, rfl, rfl, rfl⟩

theorem cleared_regions (m : SlotMemory) : Cleared m (clearSlotRegions (clearSlotHeaders m)) :=
  ⟨rfl, rfl, rfl, rfl, rfl⟩

theorem eraseSlot_cleared (s : LoaderState) (slotId : UInt16) :
    Cleared (s.slots slotId) ((eraseSlot s slotId).mem.slots slotId) := by
  have hself : (s.updateSlot slotId clearSlotHeaders).slots slotId =
      clearSlotHeaders (s.slots slotId) := updateSlot_self ..
  rw [eraseSlot]
  dsimp only
  split
  · rw [hself]
    exact cleared_headers _
  · rw [updateSlot_self, hself]
    exact cleared_regions _
  · split
    · change Cleared _ ((s.updateSlot slotId clearSlotHeaders).slots slotId)
      rw [hself]
      exact cleared_headers _
    · have hout : slotId ∉ otherSlots slotId := fun hmem => (mem_otherSlots.mp hmem).2 rfl
      rw [refreshSlots_of_not_mem hout, updateSlot_self]
      change Cleared _ (clearSlotRegions ((s.updateSlot slotId clearSlotHeaders).slots slotId))
      rw [hself]
      exact cleared_regions _

theorem eraseSlot_other (s : LoaderState) (hj : j ≠ slotId) :
    AfterRefresh (s.slots j) j ((eraseSlot s slotId).mem.slots j) := by
  have hcleared := updateSlot_of_ne s hj clearSlotHeaders
  rw [eraseSlot]
  dsimp only
  split
  · rw [hcleared]
    exact .kept
  · rw [updateSlot_of_ne _ hj, hcleared]
    exact .kept
  · split
    · change AfterRefresh _ j ((s.updateSlot slotId clearSlotHeaders).slots j)
      rw [hcleared]
      exact .kept
    · rename_i catalog _ _ publisher _
      have hafter := refreshSlots_slot (otherSlots_nodup slotId)
        (fun k hk => (mem_otherSlots.mp hk).1) (LoaderState.updateSlot
          { s.updateSlot slotId clearSlotHeaders with
            catalog := catalog
            publisher := publisher } slotId clearSlotRegions) j
      rw [updateSlot_of_ne _ hj] at hafter
      change AfterRefresh ((s.updateSlot slotId clearSlotHeaders).slots j) j _ at hafter
      rw [hcleared] at hafter
      exact hafter

def autoLoadedControl (slotId : UInt16) (l : LoadedProgram) (running : Bool) :
    PlcProgramControlBlockV1 :=
  { setPaused (loadedControlBlock slotId l) !running with status := kPlcSlotStatusLoadedV1 }

inductive AfterAutoLoad (m : SlotMemory) (p : PendingPlcAutoLoad) : SlotMemory → Prop where
  | refused : AfterAutoLoad m p m
  | unlinked (code : Memory) (hcode : LinkedFrom p.slotId m.snapshotData p.objectSize code) :
    AfterAutoLoad m p { m with linkedCode := code }
  | unsaved (hfits : ¬ SnapshotFits p.slotId p.objectSize) (code : Memory)
    (hcode : LinkedFrom p.slotId m.snapshotData p.objectSize code) (l : LoadedProgram) :
    AfterAutoLoad m p (SlotMemory.writeLoadedSlotMetadata { m with linkedCode := code } p.slotId l)
  | loaded (hfits : SnapshotFits p.slotId p.objectSize) (code : Memory)
    (hcode : LinkedFrom p.slotId m.snapshotData p.objectSize code) (l : LoadedProgram)
    (hsize : l.codeSize = (readHeader m.snapshotData).codeSize) :
    AfterAutoLoad m p
      { withSnapshot (SlotMemory.writeLoadedSlotMetadata { m with linkedCode := code } p.slotId l)
          p.slotId m.snapshotData p.objectSize with
        control := autoLoadedControl p.slotId l p.restoreSlotRunning }

theorem restoreRunState_self {s : LoaderState} {l : LoadedProgram}
    (h : (s.slots slotId).control = loadedControlBlock slotId l) (running : Bool) :
    (restoreRunState s slotId running).slots slotId =
      { s.slots slotId with control := autoLoadedControl slotId l running } := by
  rw [restoreRunState]
  dsimp only
  rw [if_pos (by rw [h]; exact ⟨rfl, rfl⟩), updateControl_self, h]
  rfl

theorem restoreRunState_of_ne (s : LoaderState) (h : j ≠ slotId) (running : Bool) :
    (restoreRunState s slotId running).slots j = s.slots j := by
  rw [restoreRunState]
  dsimp only
  split
  · exact updateControl_of_ne s h _
  · rfl

theorem autoLoadSlot_slot (s : LoaderState) (p : PendingPlcAutoLoad) :
    AfterAutoLoad (s.slots p.slotId) p ((autoLoadSlot s p).mem.slots p.slotId) := by
  rw [autoLoadSlot]
  generalize hload : loadObjectFileIntoSlot s p.slotId (s.slots p.slotId).snapshotData
    p.objectSize = load
  have hafter := load_slot s p.slotId (s.slots p.slotId).snapshotData p.objectSize
  rw [hload] at hafter
  obtain ⟨t, result⟩ := load
  dsimp only at hafter ⊢
  generalize hm : t.slots p.slotId = m at hafter
  generalize hst : result.status = status at hafter
  cases hafter with
  | refused h =>
    rw [if_pos h, hm]
    exact .refused
  | unlinked h code hcode =>
    rw [if_pos h, hm]
    exact .unlinked code hcode
  | unsaved h hfits code hcode l =>
    rw [if_pos h, hm]
    exact .unsaved hfits code hcode l
  | loaded hfits code hcode l hsize =>
    have hcontrol : (t.slots p.slotId).control = loadedControlBlock p.slotId l := by rw [hm]; rfl
    rw [if_neg (by simp)]
    have hself := restoreRunState_self hcontrol p.restoreSlotRunning
    rw [hm] at hself
    split
    · have hout : p.slotId ∉ otherSlots p.slotId := fun hmem => (mem_otherSlots.mp hmem).2 rfl
      rw [refreshSlots_of_not_mem hout, hself]
      exact .loaded hfits code hcode l hsize
    · rw [hself]
      exact .loaded hfits code hcode l hsize

theorem autoLoadSlot_other (s : LoaderState) {p : PendingPlcAutoLoad} (hj : j ≠ p.slotId) :
    AfterRefresh (s.slots j) j ((autoLoadSlot s p).mem.slots j) := by
  have hload := load_of_ne s hj (s.slots p.slotId).snapshotData p.objectSize
  rw [autoLoadSlot]
  dsimp only
  split
  · rw [hload]
    exact .kept
  · have hrun := restoreRunState_of_ne (loadObjectFileIntoSlot s p.slotId
      (s.slots p.slotId).snapshotData p.objectSize).1 hj p.restoreSlotRunning
    split
    · have hafter := refreshSlots_slot (otherSlots_nodup p.slotId)
        (fun k hk => (mem_otherSlots.mp hk).1) (restoreRunState (loadObjectFileIntoSlot s p.slotId
          (s.slots p.slotId).snapshotData p.objectSize).1 p.slotId p.restoreSlotRunning) j
      rw [hrun, hload] at hafter
      exact hafter
    · rw [hrun, hload]
      exact .kept

theorem refreshed_snapshotData {m m' : SlotMemory} (h : AfterRefresh m slotId m') :
    m'.snapshotData = m.snapshotData := by
  cases h <;> rfl

theorem refreshSlots_snapshotData (s : LoaderState) (j : UInt16) :
    ((refreshSlots s slotIds).slots j).snapshotData = (s.slots j).snapshotData :=
  refreshed_snapshotData (refreshSlots_slot slotIds_nodup (fun _ hk => mem_slotIds.mp hk) s j)

theorem eraseSlot_snapshotData (s : LoaderState) (slotId j : UInt16) :
    ((eraseSlot s slotId).mem.slots j).snapshotData = (s.slots j).snapshotData := by
  by_cases hj : j = slotId
  · subst hj
    exact (eraseSlot_cleared s j).snapshotData
  · exact refreshed_snapshotData (eraseSlot_other s hj)

end NodeNet.Core

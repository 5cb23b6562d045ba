import NodeNet.Core.SlotEffects

/-! What one event can do to a slot's memory. -/
namespace NodeNet.Core
open NodeNet.Bytes NodeNet.Nor NodeNet.Slot NodeNet.ObjectFile NodeNet.Loader NodeNet.Package

theorem upsertPointDefinition_slots (s : LoaderState) (definition : NodeNet.Points.PointDefinition) :
    (upsertPointDefinition s definition).1.slots = s.slots := by
  rw [upsertPointDefinition]
  repeat' split
  all_goals first | rfl | exact syncPlcRuntimeDefinitions_slots _

theorem removePointDefinition_slots (s : LoaderState) (id : NodeNet.Points.PointIdentity) :
    (removePointDefinition s id).1.slots = s.slots := by
  rw [removePointDefinition]
  split
  · rfl
  · exact syncPlcRuntimeDefinitions_slots _

theorem or_and_self (c bit : UInt32) : (c ||| bit) &&& bit = bit := by
  rw [← UInt32.toBitVec_inj]
  change (c.toBitVec ||| bit.toBitVec) &&& bit.toBitVec = bit.toBitVec
  refine BitVec.eq_of_getElem_eq fun i hi => ?_
  simp only [BitVec.getElem_and, BitVec.getElem_or]
  cases bit.toBitVec[i] <;> simp

theorem plcSlotPaused_setPaused (control : PlcProgramControlBlockV1) (paused : Bool) :
    plcSlotPaused (setPaused control paused) = paused := by
  cases paused with
  | true =>
    have hone := or_and_self control.control kPlcSlotControlPausedV1
    simp only [plcSlotPaused, setPaused, if_true, hone]
    decide
  | false =>
    have hzero : (control.control &&& ~~~kPlcSlotControlPausedV1) &&& kPlcSlotControlPausedV1 = 0 := by
      rw [UInt32.and_assoc, UInt32.and_comm (~~~_), UInt32.and_not_self, UInt32.and_zero]
    simp [plcSlotPaused, setPaused, hzero]

/-- The slot's control block after a command, and the rest of its memory as it was. -/
def commanded (m : SlotMemory) (slotId : UInt16) (command : SlotCommand) : SlotMemory :=
  { m with control := commandedControl m slotId command }

/-- The slot's memory after an object of this size was staged. -/
def stagedObject (m : SlotMemory) (staging : Memory) (size : UInt32) : SlotMemory :=
  { m with snapshotData := copy m.snapshotData 0 staging 0 size.toNat }

def reported (m : SlotMemory) (report : ScanReport) : SlotMemory :=
  { m with control := reportControl report m.control }

/-- The slot's memory after an upload for it began. -/
def stoppedForUpload (m : SlotMemory) : SlotMemory := { m with control := stopControl m.control }

/-- The ways in which an event leaves the memory of slot `j`. -/
inductive SlotStep (s : NodeNetCore) (e : Event) (j : UInt16) : SlotMemory → Prop where
  | kept : SlotStep s e j (s.mem.slots j)
  | commanded {command : SlotCommand} {stored : Bool}
    (hanswer : s.answer e = some (.slotCommand command j true stored, .ok ()))
    (haccepted : slotCommandAccepted (s.mem.slots j).control j command = true) :
    SlotStep s e j (commanded (s.mem.slots j) j command)
  | stopped {r : UploadBeginRequest} (hanswer : s.answer e = some (.uploadBegin r, .ok ()))
    (hslot : r.slotId = j) (hloaded : plcControlBlockLoaded (s.mem.slots j).control j = true) :
    SlotStep s e j (stoppedForUpload (s.mem.slots j))
  | staged {uploadId : UInt32} {faults : Faults} {reply : Reply}
    (hanswer : s.answer e = some (.uploadCommit uploadId faults, reply))
    (hcommit : commitError s.session uploadId = none) (hslot : s.session.slotId = j) :
    SlotStep s e j (stagedObject (s.mem.slots j) s.staging s.session.totalSize)
  | reported {report : ScanReport} (hevent : e = .vmReport j report)
    (hbusy : s.engineBusy = true) : SlotStep s e j (reported (s.mem.slots j) report)
  | refreshed {m : SlotMemory} (hrewrites : s.rewrites e) (h : AfterRefresh (s.mem.slots j) j m) :
    SlotStep s e j m
  | erased {q : PendingPlcErase} {m : SlotMemory} (hq : s.erases e = some q)
    (hslot : q.slotId = j) (h : Cleared (s.mem.slots j) m) : SlotStep s e j m
  | autoLoaded {p : PendingPlcAutoLoad} {m : SlotMemory} (hp : s.autoLoads e = some p)
    (hslot : p.slotId = j) (h : AfterAutoLoad (s.mem.slots j) p m) : SlotStep s e j m

theorem answer_request {s : NodeNetCore} {r : Request} {nowMs : UInt32}
    (h : s.phase = .service ∨ s.phase = .input) :
    s.answer (.request r nowMs) = some (r, (s.handle nowMs r).2) := if_pos h

theorem handleSlotCommand_cases (s : NodeNetCore) (command : SlotCommand) (slotId : UInt16)
    (requested stored : Bool) :
    (handleSlotCommand s command slotId requested stored).1 = s ∨
      (requested = true ∧ slotCommandAccepted (s.mem.slots slotId).control slotId command = true ∧
        handleSlotCommand s command slotId requested stored =
          (s.command command slotId stored, .ok ())) := by
  rw [handleSlotCommand]
  split
  · exact .inl rfl
  · split
    · exact .inl rfl
    · split
      · exact .inl rfl
      · rename_i hrequested haccepted
        simp only [Bool.not_eq_true', Bool.not_eq_false] at hrequested haccepted
        exact .inr ⟨hrequested, haccepted, rfl⟩

theorem command_of_ok {s : NodeNetCore} {command : SlotCommand} {slotId : UInt16} {stored : Bool}
    (h : (handleSlotCommand s command slotId true stored).2 = .ok ()) :
    slotId < kPlcSlotCountV1 ∧
      slotCommandAccepted (s.mem.slots slotId).control slotId command = true ∧
      (handleSlotCommand s command slotId true stored).1 = s.command command slotId stored := by
  rw [handleSlotCommand] at h ⊢
  by_cases hslot : kPlcSlotCountV1 ≤ slotId
  · simp [hslot] at h
  · rw [if_neg hslot] at h ⊢
    by_cases haccepted : slotCommandAccepted (s.mem.slots slotId).control slotId command = true
    · refine ⟨UInt16.not_le.mp hslot, haccepted, ?_⟩
      simp [haccepted]
    · simp [haccepted] at h

theorem updateControl_slot (s : LoaderState) (slotId j : UInt16)
    (f : PlcProgramControlBlockV1 → PlcProgramControlBlockV1) :
    (updateControl s slotId f).slots j =
      if j = slotId then { s.slots j with control := f (s.slots j).control } else s.slots j := rfl

/-- A request changes a slot's memory in one of the ways of `SlotStep`. -/
theorem handle_slotStep {s : NodeNetCore} (hphase : s.phase = .service ∨ s.phase = .input)
    (r : Request) (nowMs : UInt32) (j : UInt16) :
    SlotStep s (.request r nowMs) j ((s.handle nowMs r).1.mem.slots j) := by
  have hanswer : s.answer (.request r nowMs) = some (r, (s.handle nowMs r).2) :=
    answer_request hphase
  cases r with
  | upsert definition =>
    change SlotStep _ _ _ ((upsertPointDefinition s.mem definition).1.slots j)
    rw [upsertPointDefinition_slots]
    exact .kept
  | remove id =>
    change SlotStep _ _ _ ((removePointDefinition s.mem id).1.slots j)
    rw [removePointDefinition_slots]
    exact .kept
  | engineEnabled requested stored => exact .kept
  | slotCommand command slotId requested stored =>
    change s.answer _ =
      some (_, (handleSlotCommand s command slotId requested stored).2) at hanswer
    change SlotStep _ _ _ ((handleSlotCommand s command slotId requested stored).1.mem.slots j)
    cases handleSlotCommand_cases s command slotId requested stored with
    | inl h =>
      rw [h]
      exact .kept
    | inr h =>
      obtain ⟨rfl, haccepted, h⟩ := h
      rw [h] at hanswer ⊢
      rw [command_mem, updateControl_slot]
      split
      · rename_i hj
        subst hj
        exact .commanded hanswer haccepted
      · exact .kept
  | property stored => exact .kept
  | erase r faults =>
    change SlotStep _ _ _ ((handlePlcEraseRequest s r faults).1.mem.slots j)
    rw [handlePlcEraseRequest]
    split
    · exact .kept
    · dsimp only
      split <;> exact .kept
  | uploadBegin r =>
    change s.answer _ = some (_, (handlePlcUploadBeginRequest s r nowMs).2) at hanswer
    change SlotStep _ _ _ ((handlePlcUploadBeginRequest s r nowMs).1.mem.slots j)
    rw [handlePlcUploadBeginRequest] at hanswer ⊢
    cases hb : beginError s.session r with
    | some e => exact .kept
    | none =>
      rw [hb] at hanswer
      dsimp only [beginUpload]
      split
      · rename_i hloaded
        rw [updateControl_slot]
        split
        · rename_i hj
          subst hj
          exact .stopped hanswer rfl hloaded
        · exact .kept
      · exact .kept
  | uploadData c =>
    change SlotStep _ _ _ ((handlePlcUploadDataChunk s c nowMs).1.mem.slots j)
    rw [handlePlcUploadDataChunk]
    repeat' split
    all_goals exact .kept
  | uploadDataInvalid => exact .kept
  | uploadCommit uploadId faults =>
    change SlotStep _ _ _ ((handlePlcUploadCommitRequest s uploadId faults).1.mem.slots j)
    rw [handlePlcUploadCommitRequest]
    cases hc : commitError s.session uploadId with
    | some e => exact .kept
    | none =>
      have hstaged : SlotStep s (.request (.uploadCommit uploadId faults) nowMs) j
          ((stageUpload s).mem.slots j) := by
        change SlotStep _ _ _ (if j = s.session.slotId then _ else _)
        split
        · rename_i hj
          subst hj
          exact .staged hanswer hc rfl
        · exact .kept
      dsimp only
      split <;> exact hstaged
  | uploadAbort uploadId =>
    change SlotStep _ _ _ ((handlePlcUploadAbortRequest s uploadId).1.mem.slots j)
    rw [handlePlcUploadAbortRequest]
    repeat' split
    all_goals exact .kept
  | uploadStatus => exact .kept

theorem advance_slotStep (s : NodeNetCore) (nowMs : UInt32) (j : UInt16) :
    SlotStep s (.advance nowMs) j ((s.advance nowMs).mem.slots j) := by
  have h := advance_cases s nowMs
  generalize s.advance nowMs = t at h ⊢
  cases h with
  | waits phase => exact .kept
  | entersRefresh _ =>
    rw [NodeNetCore.enterRefresh]
    split <;> exact .kept
  | refreshes hphase hidle hpending =>
    have hrefreshes : s.refreshes (.advance nowMs) = true := by
      simp [NodeNetCore.refreshes, hphase, hidle, hpending]
    rw [goTo_mem, runRefresh_mem]
    exact .refreshed (.inl hrefreshes)
      (refreshSlots_slot slotIds_nodup (fun _ hk => mem_slotIds.mp hk) s.mem j)
  | timesOut _ _ => exact .kept
  | disablesForErase _ => exact .kept
  | erases hphase hidle p hp =>
    have hq : s.erases (.advance nowMs) = some p := (if_pos ⟨hphase, hidle⟩).trans hp
    change SlotStep _ _ _ ((eraseSlot s.mem p.slotId).mem.slots j)
    by_cases hj : j = p.slotId
    · subst hj
      exact .erased hq rfl (eraseSlot_cleared s.mem p.slotId)
    · exact .refreshed (.inr (.inl (by rw [hq]; rfl))) (eraseSlot_other s.mem hj)
  | disablesForAutoLoad _ => exact .kept
  | autoLoads hphase hidle p hp =>
    have hload : s.autoLoads (.advance nowMs) = some p := (if_pos ⟨hphase, hidle⟩).trans hp
    change SlotStep _ _ _ ((autoLoadSlot s.mem p).mem.slots j)
    by_cases hj : j = p.slotId
    · subst hj
      exact .autoLoaded hload rfl (autoLoadSlot_slot s.mem p)
    · exact .refreshed (.inr (.inr (by rw [hload]; rfl))) (autoLoadSlot_other s.mem hj)

theorem slotStep (s : NodeNetCore) (e : Event) (j : UInt16) :
    SlotStep s e j ((s.next e).mem.slots j) := by
  cases e with
  | request r nowMs =>
    by_cases hphase : s.phase = .service ∨ s.phase = .input
    · simp only [NodeNetCore.next, if_pos hphase]
      exact handle_slotStep hphase r nowMs j
    · simp only [NodeNetCore.next, if_neg hphase]
      exact .kept
  | advance nowMs => exact advance_slotStep s nowMs j
  | vmStart =>
    simp only [NodeNetCore.next]
    split <;> exact .kept
  | vmReport slotId report =>
    simp only [NodeNetCore.next]
    split
    · rename_i hbusy
      rw [updateControl_slot]
      split
      · rename_i hj
        subst hj
        exact .reported rfl hbusy
      · exact .kept
    · exact .kept
  | vmFinish => exact .kept

end NodeNet.Core

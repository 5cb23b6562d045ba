import NodeNet.Core.RecordStep
import NodeNet.Lib.SavedFlag

/-! What one event can do to the engine's bit and to what the pending operations saved of it. -/
namespace NodeNet.Core
open NodeNet.Bytes NodeNet.Nor NodeNet.Slot NodeNet.Loader NodeNet.Package

/-- The operations that disable the engine while they are pending. -/
inductive Deferred where
  | refresh | erase | autoLoad
  deriving DecidableEq

def NodeNetCore.savedEngine (s : NodeNetCore) : Deferred → Option Bool
  | .refresh =>
    if s.pendingPlcRuntimeMapRefresh then some s.pendingPlcRuntimeMapRestoreEngine else none
  | .erase => s.pendingPlcErase.map (·.restoreEngineEnabled)
  | .autoLoad => s.pendingPlcAutoLoad.map (·.restoreEngineEnabled)

def NodeNetCore.engineFlag (s : NodeNetCore) : SavedFlag Deferred := ⟨s.engineEnabled, s.savedEngine⟩

/-- No erase, auto-load or refresh is pending. -/
structure NodeNetCore.Settled (s : NodeNetCore) : Prop where
  erase : s.pendingPlcErase = none
  autoLoad : s.pendingPlcAutoLoad = none
  refresh : s.pendingPlcRuntimeMapRefresh = false

variable {s : NodeNetCore}

theorem Settled.saved (h : s.Settled) (i : Deferred) : s.engineFlag.saved i = none := by
  cases i with
  | refresh => simp [NodeNetCore.engineFlag, NodeNetCore.savedEngine, h.refresh]
  | erase => simp [NodeNetCore.engineFlag, NodeNetCore.savedEngine, h.erase]
  | autoLoad => simp [NodeNetCore.engineFlag, NodeNetCore.savedEngine, h.autoLoad]

theorem blank_settled : NodeNetCore.blank.Settled := ⟨rfl, rfl, rfl⟩

/-- What is left of a pending refresh by an operation that may have relinked the other slots. -/
def settleRefresh (work : SlotWork) (f : SavedFlag Deferred) : SavedFlag Deferred :=
  if work.relinked.isSome then f.drop .refresh else f

/-- The ways in which an event leaves the engine's bit and the saved ones. -/
inductive EngineStep (s : NodeNetCore) (e : Event) : SavedFlag Deferred → Prop where
  | kept : EngineStep s e s.engineFlag
  | commanded {requested stored : Bool}
    (hanswer : s.answer e = some (.engineEnabled requested stored, .ok ())) :
    EngineStep s e (s.engineFlag.command requested)
  | queuesErase {r : EraseRequest} {faults : Faults} (h : QueuesErase s e r faults) :
    EngineStep s e (s.engineFlag.save .erase)
  | queuesAutoLoad {faults : Faults} (h : QueuesAutoLoad s e faults) :
    EngineStep s e (s.engineFlag.save .autoLoad)
  | entersRefresh (hdue : s.refreshDue = true) :
    EngineStep s e ((s.engineFlag.save .refresh).disable .refresh)
  | refreshes (h : s.refreshes e = true) : EngineStep s e (s.engineFlag.restore .refresh)
  | disablesForErase (hphase : s.phase = .erase) :
    EngineStep s e (s.engineFlag.disable .erase)
  | erases {q : PendingPlcErase} (hq : s.erases e = some q) :
    EngineStep s e (settleRefresh (eraseSlot s.mem q.slotId) (s.engineFlag.restore .erase))
  | disablesForAutoLoad (hphase : s.phase = .autoLoad) :
    EngineStep s e (s.engineFlag.disable .autoLoad)
  | autoLoads {p : PendingPlcAutoLoad} (hp : s.autoLoads e = some p) :
    EngineStep s e (settleRefresh (autoLoadSlot s.mem p) (s.engineFlag.restore .autoLoad))

theorem enterRefresh_engineFlag (hdue : s.refreshDue = true) :
    s.enterRefresh.engineFlag = (s.engineFlag.save .refresh).disable .refresh := by
  rw [NodeNetCore.enterRefresh, if_pos hdue]
  refine SavedFlag.ext ?_ (funext fun i => ?_)
  · simp [NodeNetCore.engineFlag, SavedFlag.save, SavedFlag.setSaved, SavedFlag.disable]
  · cases i with
    | refresh => rfl
    | erase => rfl
    | autoLoad => rfl

theorem runRefresh_engineFlag (hpending : s.pendingPlcRuntimeMapRefresh = true) :
    s.runRefresh.engineFlag = s.engineFlag.restore .refresh := by
  rw [NodeNetCore.runRefresh]
  refine SavedFlag.ext ?_ (funext fun i => ?_)
  · simp [NodeNetCore.engineFlag, NodeNetCore.savedEngine, SavedFlag.restore, hpending]
  · cases i with
    | refresh => rfl
    | erase => rfl
    | autoLoad => rfl

theorem restored_bit (f : SavedFlag Deferred) {i : Deferred} {restore : Bool}
    (h : f.saved i = some restore) : (f.restore i).enabled = (f.enabled || restore) := by
  simp [SavedFlag.restore, h]

theorem settleRefresh_enabled (work : SlotWork) (f : SavedFlag Deferred) :
    (settleRefresh work f).enabled = f.enabled := by
  rw [settleRefresh]
  split <;> rfl

theorem settleRefresh_other (work : SlotWork) (f : SavedFlag Deferred) {i : Deferred}
    (h : i ≠ .refresh) : (settleRefresh work f).saved i = f.saved i := by
  rw [settleRefresh]
  split
  · exact SavedFlag.setSaved_of_ne f h none
  · rfl

theorem settleRefresh_refresh (work : SlotWork) (f : SavedFlag Deferred) :
    (settleRefresh work f).saved .refresh =
      if work.relinked.isSome then none else f.saved .refresh := by
  rw [settleRefresh]
  split
  · exact SavedFlag.setSaved_self f .refresh none
  · rfl

theorem finish_savedRefresh (s : NodeNetCore) (work : SlotWork) (restore : Bool) :
    (s.finish work restore).savedEngine .refresh =
      if work.relinked.isSome then none else s.savedEngine .refresh := by
  obtain ⟨mem, relinked⟩ := work
  cases relinked with
  | none => simp [NodeNetCore.savedEngine, NodeNetCore.finish]
  | some epoch => simp [NodeNetCore.savedEngine, NodeNetCore.finish]

theorem runErase_engineFlag {q : PendingPlcErase} (hq : s.pendingPlcErase = some q) :
    (s.runErase q).engineFlag =
      settleRefresh (eraseSlot s.mem q.slotId) (s.engineFlag.restore .erase) := by
  have hsaved : s.engineFlag.saved .erase = some q.restoreEngineEnabled := by
    simp [NodeNetCore.engineFlag, NodeNetCore.savedEngine, hq]
  rw [NodeNetCore.runErase]
  generalize eraseSlot s.mem q.slotId = work
  refine SavedFlag.ext ?_ (funext fun i => ?_)
  · rw [settleRefresh_enabled, restored_bit _ hsaved]
    rfl
  · cases i with
    | refresh =>
      rw [settleRefresh_refresh]
      exact finish_savedRefresh s work q.restoreEngineEnabled
    | erase =>
      rw [settleRefresh_other _ _ (by decide)]
      rfl
    | autoLoad =>
      rw [settleRefresh_other _ _ (by decide)]
      rfl

theorem runAutoLoad_engineFlag {p : PendingPlcAutoLoad} (hp : s.pendingPlcAutoLoad = some p) :
    (s.runAutoLoad p).engineFlag =
      settleRefresh (autoLoadSlot s.mem p) (s.engineFlag.restore .autoLoad) := by
  have hsaved : s.engineFlag.saved .autoLoad = some p.restoreEngineEnabled := by
    simp [NodeNetCore.engineFlag, NodeNetCore.savedEngine, hp]
  rw [NodeNetCore.runAutoLoad]
  generalize autoLoadSlot s.mem p = work
  refine SavedFlag.ext ?_ (funext fun i => ?_)
  · rw [settleRefresh_enabled, restored_bit _ hsaved]
    rfl
  · cases i with
    | refresh =>
      rw [settleRefresh_refresh]
      exact finish_savedRefresh s work p.restoreEngineEnabled
    | erase =>
      rw [settleRefresh_other _ _ (by decide)]
      rfl
    | autoLoad =>
      rw [settleRefresh_other _ _ (by decide)]
      rfl

theorem disableFor_engineFlag_erase (s : NodeNetCore) :
    (s.disableFor (s.pendingPlcErase.map (·.restoreEngineEnabled))).engineFlag =
      s.engineFlag.disable .erase := rfl

theorem disableFor_engineFlag_autoLoad (s : NodeNetCore) :
    (s.disableFor (s.pendingPlcAutoLoad.map (·.restoreEngineEnabled))).engineFlag =
      s.engineFlag.disable .autoLoad := rfl

theorem goTo_engineFlag (s : NodeNetCore) (phase : LoopPhase) :
    (s.goTo phase).engineFlag = s.engineFlag := rfl

theorem advance_engineStep (s : NodeNetCore) (nowMs : UInt32) :
    EngineStep s (.advance nowMs) (s.advance nowMs).engineFlag := by
  have h := advance_cases s nowMs
  generalize s.advance nowMs = t at h ⊢
  cases h with
  | waits phase => exact .kept
  | entersRefresh _ =>
    rw [goTo_engineFlag]
    by_cases hdue : s.refreshDue = true
    · rw [enterRefresh_engineFlag hdue]
      exact .entersRefresh hdue
    · rw [NodeNetCore.enterRefresh, if_neg hdue]
      exact .kept
  | refreshes hphase hidle hpending =>
    rw [goTo_engineFlag, runRefresh_engineFlag hpending]
    exact .refreshes (by simp [NodeNetCore.refreshes, hphase, hidle, hpending])
  | timesOut _ _ => exact .kept
  | disablesForErase hphase =>
    rw [goTo_engineFlag, disableFor_engineFlag_erase]
    exact .disablesForErase hphase
  | erases hphase hidle q hq =>
    have herases : s.erases (.advance nowMs) = some q := (if_pos ⟨hphase, hidle⟩).trans hq
    rw [goTo_engineFlag, runErase_engineFlag hq]
    exact .erases herases
  | disablesForAutoLoad hphase =>
    rw [goTo_engineFlag, disableFor_engineFlag_autoLoad]
    exact .disablesForAutoLoad hphase
  | autoLoads hphase hidle p hp =>
    have hloads : s.autoLoads (.advance nowMs) = some p := (if_pos ⟨hphase, hidle⟩).trans hp
    rw [goTo_engineFlag, runAutoLoad_engineFlag hp]
    exact .autoLoads hloads

theorem command_engineFlag (s : NodeNetCore) (command : SlotCommand) (slotId : UInt16)
    (stored : Bool) : (s.command command slotId stored).engineFlag = s.engineFlag := rfl

theorem queueErase_engineFlag (s : NodeNetCore) (saved : SavedPackage) (r : EraseRequest) :
    ((s.withPackage saved).queueErase r).engineFlag = s.engineFlag.save .erase := by
  refine SavedFlag.ext rfl (funext fun i => ?_)
  cases i with
  | refresh => rfl
  | erase => rfl
  | autoLoad => rfl

theorem queueAutoLoad_engineFlag (s : NodeNetCore) (saved : SavedPackage) :
    (((stageUpload s).withPackage saved).queueAutoLoad).engineFlag =
      s.engineFlag.save .autoLoad := by
  refine SavedFlag.ext rfl (funext fun i => ?_)
  cases i with
  | refresh => rfl
  | erase => rfl
  | autoLoad => rfl

theorem request_engineStep (hphase : s.phase = .service ∨ s.phase = .input) (r : Request)
    (nowMs : UInt32) : EngineStep s (.request r nowMs) (s.handle nowMs r).1.engineFlag := by
  have hanswer : s.answer (.request r nowMs) = some (r, (s.handle nowMs r).2) :=
    answer_request hphase
  cases r with
  | upsert definition => exact .kept
  | remove id => exact .kept
  | engineEnabled requested stored => exact .commanded hanswer
  | slotCommand command slotId requested stored =>
    change EngineStep _ _ (handleSlotCommand s command slotId requested stored).1.engineFlag
    cases handleSlotCommand_cases s command slotId requested stored with
    | inl h =>
      rw [h]
      exact .kept
    | inr h =>
      rw [h.2.2, command_engineFlag]
      exact .kept
  | property stored => exact .kept
  | erase r faults =>
    change s.answer _ = some (_, (handlePlcEraseRequest s r faults).2) at hanswer
    change EngineStep _ _ (handlePlcEraseRequest s r faults).1.engineFlag
    rw [handlePlcEraseRequest] at hanswer ⊢
    cases he : eraseError s r with
    | some error => exact .kept
    | none =>
      rw [he] at hanswer
      dsimp only at hanswer ⊢
      split
      · rename_i hok
        rw [if_pos hok] at hanswer
        rw [queueErase_engineFlag]
        exact .queuesErase (erase_of_answer hanswer)
      · exact .kept
  | uploadBegin r =>
    change EngineStep _ _ (handlePlcUploadBeginRequest s r nowMs).1.engineFlag
    rw [handlePlcUploadBeginRequest]
    split <;> exact .kept
  | uploadData c =>
    change EngineStep _ _ (handlePlcUploadDataChunk s c nowMs).1.engineFlag
    rw [handlePlcUploadDataChunk]
    repeat' split
    all_goals exact .kept
  | uploadDataInvalid => exact .kept
  | uploadCommit uploadId faults =>
    change s.answer _ = some (_, (handlePlcUploadCommitRequest s uploadId faults).2) at hanswer
    change EngineStep _ _ (handlePlcUploadCommitRequest s uploadId faults).1.engineFlag
    rw [handlePlcUploadCommitRequest] at hanswer ⊢
    cases hc : commitError s.session uploadId with
    | some error => exact .kept
    | none =>
      rw [hc] at hanswer
      dsimp only at hanswer ⊢
      rw [stageUpload_session] at hanswer ⊢
      split
      · rename_i hok
        rw [if_pos hok] at hanswer
        rw [queueAutoLoad_engineFlag]
        exact .queuesAutoLoad (commit_of_answer hanswer)
      · exact .kept
  | uploadAbort uploadId =>
    change EngineStep _ _ (handlePlcUploadAbortRequest s uploadId).1.engineFlag
    rw [handlePlcUploadAbortRequest]
    repeat' split
    all_goals exact .kept
  | uploadStatus => exact .kept

/-- A request does not move the loop on. -/
theorem handle_phase (s : NodeNetCore) (nowMs : UInt32) (r : Request) :
    (s.handle nowMs r).1.phase = s.phase := by
  cases r with
  | upsert definition => rfl
  | remove id => rfl
  | engineEnabled requested stored => rfl
  | slotCommand command slotId requested stored =>
    change (handleSlotCommand s command slotId requested stored).1.phase = _
    cases handleSlotCommand_cases s command slotId requested stored with
    | inl h => rw [h]
    | inr h =>
      rw [h.2.2]
      rfl
  | property stored => rfl
  | erase r faults =>
    change (handlePlcEraseRequest s r faults).1.phase = _
    rw [handlePlcEraseRequest]
    split
    · rfl
    · dsimp only
      split <;> rfl
  | uploadBegin r =>
    change (handlePlcUploadBeginRequest s r nowMs).1.phase = _
    rw [handlePlcUploadBeginRequest]
    split <;> rfl
  | uploadData c =>
    change (handlePlcUploadDataChunk s c nowMs).1.phase = _
    rw [handlePlcUploadDataChunk]
    repeat' split
    all_goals rfl
  | uploadDataInvalid => rfl
  | uploadCommit uploadId faults =>
    change (handlePlcUploadCommitRequest s uploadId faults).1.phase = _
    rw [handlePlcUploadCommitRequest]
    split
    · rfl
    · dsimp only
      split <;> rfl
  | uploadAbort uploadId =>
    change (handlePlcUploadAbortRequest s uploadId).1.phase = _
    rw [handlePlcUploadAbortRequest]
    repeat' split
    all_goals rfl
  | uploadStatus => rfl

theorem engineStep (s : NodeNetCore) (e : Event) : EngineStep s e (s.next e).engineFlag := by
  cases e with
  | request r nowMs =>
    by_cases hphase : s.phase = .service ∨ s.phase = .input
    · simp only [NodeNetCore.next, if_pos hphase]
      exact request_engineStep hphase r nowMs
    · simp only [NodeNetCore.next, if_neg hphase]
      exact .kept
  | advance nowMs => exact advance_engineStep s nowMs
  | vmStart =>
    simp only [NodeNetCore.next]
    split <;> exact .kept
  | vmReport slotId report =>
    simp only [NodeNetCore.next]
    split <;> exact .kept
  | vmFinish => exact .kept

end NodeNet.Core

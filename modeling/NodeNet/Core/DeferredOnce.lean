import NodeNet.Core.SlotStep
import NodeNet.Core.UploadBytes

/-! Acknowledged erases and auto-loads are executed once, unless another one takes their record. -/
namespace NodeNet.Core
open NodeNet.Bytes NodeNet.Machine NodeNet.Nor NodeNet.Slot NodeNet.ObjectFile NodeNet.Loader
open NodeNet.Package

/-- The deferred operations that were acknowledged and those that were executed, in order. -/
structure DeferredNotes where
  upload : UploadNotes
  erasesAcked : List UInt16
  erasesDone : List UInt16
  loadsAcked : List (UInt16 × List UInt8)
  loadsDone : List (UInt16 × List UInt8)

def DeferredNotes.none : DeferredNotes := ⟨.none, [], [], [], []⟩

/-- The slot and the bytes that a pending auto-load runs the loader on. -/
def loadOf (s : NodeNetCore) (p : PendingPlcAutoLoad) : UInt16 × List UInt8 :=
  (p.slotId, bytesAt (s.mem.slots p.slotId).snapshotData 0 p.objectSize.toNat)

/-- What a request promises, if it is answered ok. -/
def acked {α : Type} (reply : Reply) (promise : α) : List α :=
  match reply with
  | .ok _ => [promise]
  | .error _ => []

def erasesAcked (s : NodeNetCore) (e : Event) : List UInt16 :=
  match s.answer e with
  | some (.erase r _, reply) => acked reply r.slotId
  | _ => []

/-- An acknowledged commit promises to load the chunks that were acknowledged. -/
def loadsAcked (s : NodeNetCore) (e : Event) (upload : UploadNotes) :
    List (UInt16 × List UInt8) :=
  match s.answer e with
  | some (.uploadCommit _ _, reply) => acked reply (upload.begun.slotId, upload.received)
  | _ => []

def noteDeferred (s : NodeNetCore) (e : Event) (notes : DeferredNotes) : DeferredNotes where
  upload := noteUpload s e notes.upload
  erasesAcked := notes.erasesAcked ++ erasesAcked s e
  erasesDone := notes.erasesDone ++ (s.erases e).toList.map (·.slotId)
  loadsAcked := notes.loadsAcked ++ loadsAcked s e notes.upload
  loadsDone := notes.loadsDone ++ (s.autoLoads e).toList.map (loadOf s)

/-- Whatever was acknowledged is executed, once and in order, or still pending. -/
structure DeferredKept (s : NodeNetCore) (notes : DeferredNotes) : Prop where
  erases : notes.erasesAcked = notes.erasesDone ++ s.pendingPlcErase.toList.map (·.slotId)
  loads : notes.loadsAcked = notes.loadsDone ++ s.pendingPlcAutoLoad.toList.map (loadOf s)

structure Settled (s : NodeNetCore) : Prop where
  erase : s.pendingPlcErase = none
  autoLoad : s.pendingPlcAutoLoad = none

/-- Nothing acknowledged is lost, and what finds the engine idle is executed. -/
structure ExecutesDeferred (p : NodeNetCore × DeferredNotes) (e : Event) : Prop where
  kept : DeferredKept (observed NodeNetCore.next noteDeferred p e).1
    (observed NodeNetCore.next noteDeferred p e).2
  erased : ∀ q, p.1.erases e = some q →
    (p.1.next e).pendingPlcErase = none ∧
      Cleared (p.1.mem.slots q.slotId) ((p.1.next e).mem.slots q.slotId)
  loaded : ∀ q, p.1.autoLoads e = some q →
    (p.1.next e).pendingPlcAutoLoad = none ∧ (p.1.next e).mem = (autoLoadSlot p.1.mem q).mem
  /-- An iteration of the loop with the engine idle leaves nothing pending. -/
  settled : (p.1.next e).engineBusy = false → ∀ nowMs,
    Settled (run NodeNetCore.next (p.1.next e) (iteration nowMs))

/-- No erase is accepted while one is pending; no commit is while an auto-load is pending, and one
whose save fails leaves the object of that load as it is. -/
structure Uncontended (s : NodeNetCore) (e : Event) : Prop where
  erase : ∀ r faults reply, s.answer e = some (.erase r faults, reply) → eraseError s r = none →
    (s.savePackage r.persistToFlash ⟨r.slotId, none, 0⟩ faults).ok = true →
    s.pendingPlcErase = none
  commit : ∀ uploadId faults reply p, s.answer e = some (.uploadCommit uploadId faults, reply) →
    commitError s.session uploadId = none → s.pendingPlcAutoLoad = some p →
    ((stageUpload s).savePackage s.session.persistToFlash (stageUpload s).uploadOverride faults).ok
        = false ∧
      loadOf (stageUpload s) p = loadOf s p

def pendingErases (s : NodeNetCore) : List UInt16 := s.pendingPlcErase.toList.map (·.slotId)

def pendingLoads (s : NodeNetCore) : List (UInt16 × List UInt8) :=
  s.pendingPlcAutoLoad.toList.map (loadOf s)

/-- Both records, and the bytes the slots hold for a load, are as before. -/
structure KeepsPending (s t : NodeNetCore) : Prop where
  erase : t.pendingPlcErase = s.pendingPlcErase
  autoLoad : t.pendingPlcAutoLoad = s.pendingPlcAutoLoad
  snapshotData : ∀ j, (t.mem.slots j).snapshotData = (s.mem.slots j).snapshotData

variable {s t : NodeNetCore}

theorem KeepsPending.of_mem (herase : t.pendingPlcErase = s.pendingPlcErase)
    (hload : t.pendingPlcAutoLoad = s.pendingPlcAutoLoad) (hmem : t.mem = s.mem) :
    KeepsPending s t := ⟨herase, hload, fun j => by rw [hmem]⟩

theorem loadOf_congr (h : ∀ j, (t.mem.slots j).snapshotData = (s.mem.slots j).snapshotData)
    (p : PendingPlcAutoLoad) : loadOf t p = loadOf s p := by
  rw [loadOf, loadOf, h]

theorem KeepsPending.erases (h : KeepsPending s t) : pendingErases t = pendingErases s := by
  rw [pendingErases, pendingErases, h.erase]

theorem KeepsPending.loads (h : KeepsPending s t) : pendingLoads t = pendingLoads s := by
  rw [pendingLoads, pendingLoads, h.autoLoad]
  congr 1
  funext p
  exact loadOf_congr h.snapshotData p

theorem updateControl_snapshotData (s : LoaderState) (slotId j : UInt16)
    (f : PlcProgramControlBlockV1 → PlcProgramControlBlockV1) :
    ((updateControl s slotId f).slots j).snapshotData = (s.slots j).snapshotData := by
  by_cases hj : j = slotId
  · subst hj
    rw [updateControl_self]
  · rw [updateControl_of_ne s hj]

/-- Only erases and commits touch the records, and only commits the snapshot data. -/
def Request.pends : Request → Bool
  | .erase _ _ => true
  | .uploadCommit _ _ => true
  | _ => false

theorem handle_keepsPending {r : Request} (hr : r.pends = false) (s : NodeNetCore)
    (nowMs : UInt32) : KeepsPending s (s.handle nowMs r).1 := by
  cases r with
  | upsert definition =>
    exact ⟨rfl, rfl, fun j => by
      change ((upsertPointDefinition s.mem definition).1.slots j).snapshotData = _
      rw [upsertPointDefinition_slots]⟩
  | remove id =>
    exact ⟨rfl, rfl, fun j => by
      change ((removePointDefinition s.mem id).1.slots j).snapshotData = _
      rw [removePointDefinition_slots]⟩
  | engineEnabled requested stored => exact .of_mem rfl rfl rfl
  | slotCommand command slotId requested stored =>
    change KeepsPending s (handleSlotCommand s command slotId requested stored).1
    cases handleSlotCommand_cases s command slotId requested stored with
    | inl h =>
      rw [h]
      exact .of_mem rfl rfl rfl
    | inr h =>
      rw [h.2.2]
      refine ⟨command_pendingPlcErase .., command_pendingPlcAutoLoad .., fun j => ?_⟩
      rw [command_mem, updateControl_snapshotData]
  | property stored => exact .of_mem rfl rfl rfl
  | erase r faults => cases hr
  | uploadBegin r =>
    change KeepsPending s (handlePlcUploadBeginRequest s r nowMs).1
    rw [handlePlcUploadBeginRequest]
    split
    · exact .of_mem rfl rfl rfl
    · refine ⟨rfl, rfl, fun j => ?_⟩
      dsimp only [beginUpload]
      split
      · exact updateControl_snapshotData ..
      · rfl
  | uploadData c =>
    change KeepsPending s (handlePlcUploadDataChunk s c nowMs).1
    rw [handlePlcUploadDataChunk]
    split
    · exact .of_mem rfl rfl rfl
    · split <;> exact .of_mem rfl rfl rfl
  | uploadDataInvalid => exact .of_mem rfl rfl rfl
  | uploadCommit uploadId faults => cases hr
  | uploadAbort uploadId =>
    change KeepsPending s (handlePlcUploadAbortRequest s uploadId).1
    rw [handlePlcUploadAbortRequest]
    repeat' split
    all_goals exact .of_mem rfl rfl rfl
  | uploadStatus => exact .of_mem rfl rfl rfl

/-- One event moves the erases and the loads from acknowledged over pending to done. -/
structure Balanced (s t : NodeNetCore) (ackedErases doneErases : List UInt16)
    (ackedLoads doneLoads : List (UInt16 × List UInt8)) : Prop where
  erases : pendingErases s ++ ackedErases = doneErases ++ pendingErases t
  loads : pendingLoads s ++ ackedLoads = doneLoads ++ pendingLoads t

theorem KeepsPending.balanced (h : KeepsPending s t) : Balanced s t [] [] [] [] :=
  ⟨by simp [h.erases], by simp [h.loads]⟩

/-- With every acknowledged operation accounted for, one more event keeps the account exactly when
it is balanced. -/
theorem deferredKept_iff_balanced {notes : DeferredNotes} (h : DeferredKept s notes)
    {ackedErases doneErases : List UInt16} {ackedLoads doneLoads : List (UInt16 × List UInt8)}
    (upload : UploadNotes) :
    DeferredKept t ⟨upload, notes.erasesAcked ++ ackedErases, notes.erasesDone ++ doneErases,
        notes.loadsAcked ++ ackedLoads, notes.loadsDone ++ doneLoads⟩ ↔
      Balanced s t ackedErases doneErases ackedLoads doneLoads := by
  have herases : notes.erasesAcked ++ ackedErases =
      notes.erasesDone ++ doneErases ++ pendingErases t ↔
      pendingErases s ++ ackedErases = doneErases ++ pendingErases t := by
    rw [h.erases, List.append_assoc, List.append_assoc]
    exact List.append_right_inj _
  have hloads : notes.loadsAcked ++ ackedLoads = notes.loadsDone ++ doneLoads ++ pendingLoads t ↔
      pendingLoads s ++ ackedLoads = doneLoads ++ pendingLoads t := by
    rw [h.loads, List.append_assoc, List.append_assoc]
    exact List.append_right_inj _
  constructor
  · intro hkept
    exact ⟨herases.mp hkept.erases, hloads.mp hkept.loads⟩
  · intro hb
    exact ⟨herases.mpr hb.erases, hloads.mpr hb.loads⟩

theorem toList_append_eq {α β : Type} {f : α → β} {o : Option α} {b : β} :
    o.toList.map f ++ [b] = [b] ↔ o = none := by
  cases o <;> simp

theorem erase_balanced (s : NodeNetCore) (r : EraseRequest) (faults : Faults) :
    Balanced s (handlePlcEraseRequest s r faults).1
        (acked (handlePlcEraseRequest s r faults).2 r.slotId) [] [] [] ↔
      (eraseError s r = none →
        (s.savePackage r.persistToFlash ⟨r.slotId, none, 0⟩ faults).ok = true →
        s.pendingPlcErase = none) := by
  rw [handlePlcEraseRequest]
  cases he : eraseError s r with
  | some e =>
    have hkept : KeepsPending s s := .of_mem rfl rfl rfl
    exact ⟨fun _ h => (by cases h), fun _ => hkept.balanced⟩
  | none =>
    dsimp only
    cases hok : (s.savePackage r.persistToFlash ⟨r.slotId, none, 0⟩ faults).ok with
    | true =>
      constructor
      · intro hb _ _
        exact toList_append_eq.mp hb.erases
      · intro hfree
        exact ⟨toList_append_eq.mpr (hfree rfl rfl), by simp [pendingLoads,
          NodeNetCore.queueErase, NodeNetCore.withPackage, loadOf]⟩
    | false =>
      have hkept : KeepsPending s (s.withPackage (s.savePackage r.persistToFlash
          ⟨r.slotId, none, 0⟩ faults)) := .of_mem rfl rfl rfl
      exact ⟨fun _ _ h => (by cases h), fun _ => hkept.balanced⟩

theorem HandsOver.loads {upload : UploadNotes} (h : HandsOver upload t) :
    pendingLoads t = [(upload.begun.slotId, upload.received)] := by
  obtain ⟨p, hp, hslot, hsize, hbytes⟩ := h.pending
  rw [pendingLoads, hp, Option.toList_some, List.map_singleton, loadOf, hbytes, hslot]

/-- An accepted commit takes the record, and may do so when it is free; a commit whose save fails
has staged its object all the same. -/
theorem commit_balanced {upload : UploadNotes} (hinv : UploadInv (s, upload)) (uploadId : UInt32)
    (faults : Faults) : Balanced s (handlePlcUploadCommitRequest s uploadId faults).1 [] []
        (acked (handlePlcUploadCommitRequest s uploadId faults).2
          (upload.begun.slotId, upload.received)) [] ↔
      ∀ p, commitError s.session uploadId = none → s.pendingPlcAutoLoad = some p →
        ((stageUpload s).savePackage s.session.persistToFlash (stageUpload s).uploadOverride
            faults).ok = false ∧
          loadOf (stageUpload s) p = loadOf s p := by
  have hover := (commit_upload hinv uploadId faults).2
  rw [handlePlcUploadCommitRequest] at hover ⊢
  cases hc : commitError s.session uploadId with
  | some e =>
    have hkept : KeepsPending s s := .of_mem rfl rfl rfl
    exact ⟨fun _ _ h => (by cases h), fun _ => hkept.balanced⟩
  | none =>
    rw [hc] at hover
    dsimp only at hover ⊢
    rw [stageUpload_session] at hover ⊢
    cases hok : ((stageUpload s).savePackage s.session.persistToFlash
      (stageUpload s).uploadOverride faults).ok with
    | true =>
      rw [hok, if_pos rfl] at hover
      rw [if_pos rfl]
      have hloads := (hover rfl).loads
      constructor
      · intro hb p _ hp
        have hnone := hb.loads
        rw [hloads] at hnone
        rw [toList_append_eq.mp hnone] at hp
        cases hp
      · intro hfree
        refine ⟨by simp [pendingErases, NodeNetCore.queueAutoLoad, NodeNetCore.withPackage,
          stageUpload], ?_⟩
        rw [hloads]
        refine toList_append_eq.mpr ?_
        cases hp : s.pendingPlcAutoLoad with
        | none => rfl
        | some p => cases (hfree p rfl hp).1
    | false =>
      rw [if_neg (by simp)]
      have hsaved : pendingLoads ((stageUpload s).withPackage ((stageUpload s).savePackage
          s.session.persistToFlash (stageUpload s).uploadOverride faults)) =
          s.pendingPlcAutoLoad.toList.map (loadOf (stageUpload s)) := rfl
      constructor
      · intro hb p _ hp
        have hloads := hb.loads
        simp only [acked, List.append_nil, List.nil_append] at hloads
        rw [hsaved, pendingLoads, hp] at hloads
        exact ⟨rfl, (List.singleton_inj.mp hloads).symm⟩
      · intro hsame
        refine ⟨by simp [pendingErases, NodeNetCore.withPackage, stageUpload], ?_⟩
        simp only [acked, List.append_nil, List.nil_append]
        rw [hsaved, pendingLoads]
        cases hp : s.pendingPlcAutoLoad with
        | none => rfl
        | some p => rw [Option.toList_some, List.map_singleton, List.map_singleton,
            (hsame p rfl hp).2]

/-- The main loop drops a record only with the operation it executes. -/
theorem advance_balanced (s : NodeNetCore) (nowMs : UInt32) :
    Balanced s (s.advance nowMs) [] ((s.erases (.advance nowMs)).toList.map (·.slotId)) []
      ((s.autoLoads (.advance nowMs)).toList.map (loadOf s)) := by
  have hgoTo : ∀ phase, KeepsPending s (s.goTo phase) := fun phase => .of_mem rfl rfl rfl
  rw [NodeNetCore.advance, NodeNetCore.erases, NodeNetCore.autoLoads]
  cases s.phase with
  | service => simpa using (hgoTo .input).balanced
  | input => simpa using (hgoTo .refresh).balanced
  | refresh =>
    have hkept : KeepsPending s (s.enterRefresh.goTo .refreshRun) := by
      rw [NodeNetCore.enterRefresh]
      split <;> exact .of_mem rfl rfl rfl
    simpa using hkept.balanced
  | refreshRun =>
    have hkept : KeepsPending s (s.runRefresh.goTo .timeout) := by
      refine ⟨by rw [goTo_pendingPlcErase, runRefresh_pendingPlcErase],
        by rw [goTo_pendingPlcAutoLoad, runRefresh_pendingPlcAutoLoad], fun j => ?_⟩
      rw [goTo_mem, runRefresh_mem, refreshSlots_snapshotData]
    dsimp only
    split
    · simpa using hkept.balanced
    · simpa using (hgoTo .timeout).balanced
  | timeout =>
    dsimp only
    split
    · have hkept : KeepsPending s (s.endUpload.goTo .erase) := .of_mem rfl rfl rfl
      exact hkept.balanced
    · exact (hgoTo .erase).balanced
  | erase =>
    have hkept : KeepsPending s ((s.disableFor (s.pendingPlcErase.map
        (·.restoreEngineEnabled))).goTo .eraseRun) := .of_mem rfl rfl rfl
    simpa using hkept.balanced
  | eraseRun =>
    cases hp : s.pendingPlcErase with
    | none => simpa using (hgoTo .autoLoad).balanced
    | some p =>
      dsimp only
      cases hbusy : s.engineBusy with
      | true => simpa using (hgoTo .autoLoad).balanced
      | false =>
        have hloads := loadOf_congr (s := s) (t := (s.runErase p).goTo .autoLoad)
          (eraseSlot_snapshotData s.mem p.slotId)
        exact ⟨by simp [pendingErases, hp, NodeNetCore.runErase],
          by simp [pendingLoads, NodeNetCore.runErase, NodeNetCore.finish, loadOf,
            eraseSlot_snapshotData]⟩
  | autoLoad =>
    have hkept : KeepsPending s ((s.disableFor (s.pendingPlcAutoLoad.map
        (·.restoreEngineEnabled))).goTo .autoLoadRun) := .of_mem rfl rfl rfl
    simpa using hkept.balanced
  | autoLoadRun =>
    cases hp : s.pendingPlcAutoLoad with
    | none => simpa using (hgoTo .service).balanced
    | some p =>
      dsimp only
      cases hbusy : s.engineBusy with
      | true => simpa using (hgoTo .service).balanced
      | false =>
        exact ⟨by simp [pendingErases, NodeNetCore.runAutoLoad, NodeNetCore.finish],
          by simp [pendingLoads, hp, NodeNetCore.runAutoLoad]⟩

theorem uncontended_of_unanswered {e : Event} (h : s.answer e = none) : Uncontended s e :=
  ⟨fun r faults reply ha => (by rw [h] at ha; cases ha),
    fun uploadId faults reply p ha => (by rw [h] at ha; cases ha)⟩

theorem next_keepsPending {e : Event} (hanswer : s.answer e = none)
    (hadvance : ∀ nowMs, e ≠ .advance nowMs) : KeepsPending s (s.next e) := by
  cases e with
  | request r nowMs =>
    by_cases hphase : s.phase = .service ∨ s.phase = .input
    · simp [NodeNetCore.answer, hphase] at hanswer
    · simp only [NodeNetCore.next, if_neg hphase]
      exact .of_mem rfl rfl rfl
  | advance nowMs => exact absurd rfl (hadvance nowMs)
  | vmStart =>
    simp only [NodeNetCore.next]
    split <;> exact .of_mem rfl rfl rfl
  | vmReport slotId report =>
    simp only [NodeNetCore.next]
    split
    · exact ⟨rfl, rfl, fun j => updateControl_snapshotData ..⟩
    · exact .of_mem rfl rfl rfl
  | vmFinish => exact .of_mem rfl rfl rfl

/-- An event is balanced exactly when it does not contend. -/
theorem next_balanced {upload : UploadNotes} (hinv : UploadInv (s, upload)) (e : Event) :
    Balanced s (s.next e) (erasesAcked s e) ((s.erases e).toList.map (·.slotId))
        (loadsAcked s e upload) ((s.autoLoads e).toList.map (loadOf s)) ↔
      Uncontended s e := by
  rw [erasesAcked, loadsAcked]
  by_cases hadvance : ∃ nowMs, e = .advance nowMs
  · obtain ⟨nowMs, rfl⟩ := hadvance
    exact ⟨fun _ => uncontended_of_unanswered rfl, fun _ => advance_balanced s nowMs⟩
  have hne : ∀ nowMs, e ≠ .advance nowMs := fun nowMs h => hadvance ⟨nowMs, h⟩
  have hdone : s.erases e = none ∧ s.autoLoads e = none := by
    cases e with
    | advance nowMs => exact absurd rfl (hne nowMs)
    | request r nowMs => exact ⟨rfl, rfl⟩
    | vmStart => exact ⟨rfl, rfl⟩
    | vmReport slotId report => exact ⟨rfl, rfl⟩
    | vmFinish => exact ⟨rfl, rfl⟩
  rw [hdone.1, hdone.2]
  cases hanswer : s.answer e with
  | none =>
    exact ⟨fun _ => uncontended_of_unanswered hanswer,
      fun _ => (next_keepsPending hanswer hne).balanced⟩
  | some answered =>
    cases e with
    | request r nowMs =>
      by_cases hphase : s.phase = .service ∨ s.phase = .input
      case neg => simp [NodeNetCore.answer, hphase] at hanswer
      have hanswered := hanswer
      rw [NodeNetCore.answer, if_pos hphase, Option.some.injEq] at hanswer
      subst hanswer
      rw [NodeNetCore.next, if_pos hphase]
      cases r with
      | erase r faults =>
        refine Iff.trans (erase_balanced s r faults) ?_
        constructor
        · intro h
          refine ⟨fun r' faults' reply ha => ?_, fun uploadId faults' reply p ha => ?_⟩
          · rw [hanswered] at ha
            cases ha
            exact h
          · rw [hanswered] at ha
            cases ha
        · intro h
          exact h.erase r faults _ hanswered
      | uploadCommit uploadId faults =>
        refine Iff.trans (commit_balanced hinv uploadId faults) ?_
        constructor
        · intro h
          refine ⟨fun r faults' reply ha => ?_, fun uploadId' faults' reply p ha => ?_⟩
          · rw [hanswered] at ha
            cases ha
          · rw [hanswered] at ha
            cases ha
            exact h p
        · intro h p
          exact h.commit uploadId faults _ p hanswered
      | _ =>
        refine ⟨fun _ => ⟨fun r faults reply ha => ?_, fun uploadId faults reply p ha => ?_⟩,
          fun _ => (handle_keepsPending rfl s nowMs).balanced⟩
        · rw [hanswered] at ha
          cases ha
        · rw [hanswered] at ha
          cases ha
    | advance nowMs => cases hanswer
    | vmStart => cases hanswer
    | vmReport slotId report => cases hanswer
    | vmFinish => cases hanswer

def DeferredInv (p : NodeNetCore × DeferredNotes) : Prop :=
  UploadInv (p.1, p.2.upload) ∧ DeferredKept p.1 p.2

theorem kept_next_iff {p : NodeNetCore × DeferredNotes} (h : DeferredInv p) (e : Event) :
    DeferredKept (observed NodeNetCore.next noteDeferred p e).1
        (observed NodeNetCore.next noteDeferred p e).2 ↔ Uncontended p.1 e :=
  (deferredKept_iff_balanced h.2 _).trans (next_balanced h.1 e)

def LoopPhase.untilErase : LoopPhase → Nat
  | .eraseRun => 0
  | .erase => 1
  | .timeout => 2
  | .refreshRun => 3
  | .refresh => 4
  | .input => 5
  | .service => 6
  | .autoLoadRun => 7
  | .autoLoad => 8

def LoopPhase.untilAutoLoad : LoopPhase → Nat
  | .autoLoadRun => 0
  | .autoLoad => 1
  | .eraseRun => 2
  | .erase => 3
  | .timeout => 4
  | .refreshRun => 5
  | .refresh => 6
  | .input => 7
  | .service => 8

theorem advance_pending (s : NodeNetCore) (nowMs : UInt32) :
    ((s.advance nowMs).pendingPlcErase = s.pendingPlcErase ∨
        (s.advance nowMs).pendingPlcErase = none) ∧
      ((s.advance nowMs).pendingPlcAutoLoad = s.pendingPlcAutoLoad ∨
        (s.advance nowMs).pendingPlcAutoLoad = none) := by
  have h := advance_cases s nowMs
  generalize s.advance nowMs = t at h ⊢
  cases h with
  | waits phase => exact ⟨.inl rfl, .inl rfl⟩
  | entersRefresh _ =>
    rw [NodeNetCore.enterRefresh]
    split <;> exact ⟨.inl rfl, .inl rfl⟩
  | refreshes _ _ _ => simp
  | timesOut _ _ => exact ⟨.inl rfl, .inl rfl⟩
  | disablesForErase _ => exact ⟨.inl rfl, .inl rfl⟩
  | erases _ _ p _ => exact ⟨.inr rfl, .inl rfl⟩
  | disablesForAutoLoad _ => exact ⟨.inl rfl, .inl rfl⟩
  | autoLoads _ _ p _ => exact ⟨.inl rfl, .inr rfl⟩

theorem advance_settlesErase (hidle : s.engineBusy = false) (nowMs : UInt32) :
    (s.advance nowMs).pendingPlcErase = none ∨
      (s.advance nowMs).phase.untilErase < s.phase.untilErase := by
  cases hphase : s.phase with
  | eraseRun =>
    left
    rw [NodeNetCore.advance, hphase]
    cases hp : s.pendingPlcErase with
    | none => exact hp
    | some p => simp [hidle, NodeNetCore.runErase]
  | _ =>
    right
    rw [advance_phase, hphase]
    decide

theorem advance_settlesAutoLoad (hidle : s.engineBusy = false) (nowMs : UInt32) :
    (s.advance nowMs).pendingPlcAutoLoad = none ∨
      (s.advance nowMs).phase.untilAutoLoad < s.phase.untilAutoLoad := by
  cases hphase : s.phase with
  | autoLoadRun =>
    left
    rw [NodeNetCore.advance, hphase]
    cases hp : s.pendingPlcAutoLoad with
    | none => exact hp
    | some p => simp [hidle, NodeNetCore.runAutoLoad]
  | _ =>
    right
    rw [advance_phase, hphase]
    decide

theorem untilErase_lt (phase : LoopPhase) : phase.untilErase < 9 := by
  cases phase <;> decide

theorem untilAutoLoad_lt (phase : LoopPhase) : phase.untilAutoLoad < 9 := by
  cases phase <;> decide

theorem iteration_settled (hidle : s.engineBusy = false) (nowMs : UInt32) :
    Settled (run NodeNetCore.next s (iteration nowMs)) := by
  have hgood : ∀ t : NodeNetCore, t.engineBusy = false →
      (t.next (.advance nowMs)).engineBusy = false := by
    intro t ht
    exact (advance_engineBusy t nowMs).trans ht
  refine ⟨?_, ?_⟩
  · refine run_replicate_of_measure (fun t => t.pendingPlcErase = none)
      (fun t => t.phase.untilErase) hgood (fun t _ ht => ?_)
      (fun t ht => advance_settlesErase ht nowMs) hidle (untilErase_lt _)
    exact (advance_pending t nowMs).1.elim (·.trans ht) id
  · refine run_replicate_of_measure (fun t => t.pendingPlcAutoLoad = none)
      (fun t => t.phase.untilAutoLoad) hgood (fun t _ ht => ?_)
      (fun t ht => advance_settlesAutoLoad ht nowMs) hidle (untilAutoLoad_lt _)
    exact (advance_pending t nowMs).2.elim (·.trans ht) id

/-- In every run, the acknowledged erases and loads are all executed, once and in order, exactly
when no record is taken from an operation that still waits. -/
theorem executes_deferred_iff (mem : LoaderState) (staging flash : Memory)
    (nextPlcUploadId epoch : UInt32) (preferences : Preferences) (events : List Event) :
    Along (observed NodeNetCore.next noteDeferred) ExecutesDeferred
        (.start mem staging flash nextPlcUploadId epoch preferences, .none) events ↔
      Along NodeNetCore.next Uncontended
        (.start mem staging flash nextPlcUploadId epoch preferences) events := by
  rw [← along_observed noteDeferred _ DeferredNotes.none]
  refine along_iff_of_inv DeferredInv (fun p e h hu => ?_) (fun p e h => ?_) ?_
  · exact ⟨uploadInv_next h.1 e, (kept_next_iff h e).mpr hu⟩
  · constructor
    · intro hexec
      exact (kept_next_iff h e).mp hexec.kept
    · intro hu
      exact ⟨(kept_next_iff h e).mpr hu, fun q => erases_executed, fun q => autoLoads_executed,
        iteration_settled⟩
  · exact ⟨fun hactive => (by cases hactive), ⟨rfl, rfl⟩⟩

/-- A scan runs through an iteration of the loop, before which an erase was requested. -/
def eraseWhileBusy : List Event :=
  .vmStart :: .request (.erase ⟨0, false⟩ noFaults) 0 :: iteration 1

/-- A second erase is acknowledged and takes the record from the first. -/
theorem eraseTwice_not_executed :
    ¬ Along (observed NodeNetCore.next noteDeferred) ExecutesDeferred (.blank, .none)
      (eraseWhileBusy ++ [.request (.erase ⟨1, false⟩ noFaults) 2]) := by
  intro h
  have hat : ExecutesDeferred (run (observed NodeNetCore.next noteDeferred) (.blank, .none)
    eraseWhileBusy) (.request (.erase ⟨1, false⟩ noFaults) 2) := h.at_run
  have hkept := hat.kept.erases
  revert hkept
  decide

end NodeNet.Core

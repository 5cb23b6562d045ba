import NodeNet.Core.SlotStep

/-! What one event can do to the upload session and to the pending operations. -/
namespace NodeNet.Core
open NodeNet.Bytes NodeNet.Nor NodeNet.Slot NodeNet.ObjectFile NodeNet.Loader NodeNet.Package

structure SameUpload (session session' : PlcUploadSession) : Prop where
  active : session'.active = session.active
  slotId : session'.slotId = session.slotId
  totalSize : session'.totalSize = session.totalSize
  persistToFlash : session'.persistToFlash = session.persistToFlash
  restoreSlotRunning : session'.restoreSlotRunning = session.restoreSlotRunning

theorem SameUpload.refl (session : PlcUploadSession) : SameUpload session session :=
  ⟨rfl, rfl, rfl, rfl, rfl⟩

/-- An event answers an erase request ok. -/
structure QueuesErase (s : NodeNetCore) (e : Event) (r : EraseRequest) (faults : Faults) :
    Prop where
  answer : s.answer e = some (.erase r faults, .ok ())
  checked : eraseError s r = none
  saved : (s.savePackage r.persistToFlash ⟨r.slotId, none, 0⟩ faults).ok = true
  next : s.next e =
    (s.withPackage (s.savePackage r.persistToFlash ⟨r.slotId, none, 0⟩ faults)).queueErase r

def commitSave (s : NodeNetCore) (faults : Faults) : SavedPackage :=
  (stageUpload s).savePackage s.session.persistToFlash (stageUpload s).uploadOverride faults

/-- An event answers a commit ok. -/
structure QueuesAutoLoad (s : NodeNetCore) (e : Event) (faults : Faults) : Prop where
  answer : ∃ uploadId, s.answer e = some (.uploadCommit uploadId faults, .ok ()) ∧
    commitError s.session uploadId = none
  saved : (commitSave s faults).ok = true
  next : s.next e = ((stageUpload s).withPackage (commitSave s faults)).queueAutoLoad

inductive SessionStep (s : NodeNetCore) (e : Event) : Prop where
  | kept (h : SameUpload s.session (s.next e).session)
  | begun (r : UploadBeginRequest) (nowMs : UInt32)
    (hanswer : s.answer e = some (.uploadBegin r, .ok ()))
    (hchecked : beginError s.session r = none) (hnext : s.next e = beginUpload s r nowMs)
  | queued (faults : Faults) (h : QueuesAutoLoad s e faults)
  | ended (h : (s.next e).session = .reset) (hanswer : ∀ uploadId faults,
      s.answer e ≠ some (.uploadCommit uploadId faults, .ok ()))

/-- What an event does to the pending erase. -/
inductive EraseStep (s : NodeNetCore) (e : Event) : Prop where
  | kept (h : (s.next e).pendingPlcErase = s.pendingPlcErase)
  | done (q : PendingPlcErase) (hq : s.erases e = some q)
    (hnone : (s.next e).pendingPlcErase = none)
  | queued (r : EraseRequest) (faults : Faults) (h : QueuesErase s e r faults)

inductive AutoLoadStep (s : NodeNetCore) (e : Event) : Prop where
  | kept (h : (s.next e).pendingPlcAutoLoad = s.pendingPlcAutoLoad)
  | done (q : PendingPlcAutoLoad) (hq : s.autoLoads e = some q)
    (hnone : (s.next e).pendingPlcAutoLoad = none)
  | queued (faults : Faults) (h : QueuesAutoLoad s e faults)

/-- What an event does to the upload and to the pending operations. -/
structure RecordStep (s : NodeNetCore) (e : Event) : Prop where
  session : SessionStep s e
  erase : EraseStep s e
  autoLoad : AutoLoadStep s e

/-- What a commit has checked before it stages the object. -/
structure CommitFits (session : PlcUploadSession) : Prop where
  active : session.active = true
  complete : session.bytesReceived = session.totalSize
  checksum : session.payloadChecksum = session.expectedChecksum
  slot : session.slotId < kPlcSlotCountV1
  capacity : session.totalSize ≤ slotObjectSnapshotCapacity

theorem commitFits_of_accepted {session : PlcUploadSession} {uploadId : UInt32}
    (h : commitError session uploadId = none) : CommitFits session := by
  rw [commitError] at h
  split at h
  · cases h
  · rename_i hactive
    split at h
    · cases h
    · split at h
      · cases h
      · rename_i hcomplete
        split at h
        · cases h
        · rename_i hchecksum
          split at h
          · cases h
          · rename_i hfits
            simp only [ne_eq, Decidable.not_not, not_or, UInt16.not_le, UInt32.not_lt]
              at hcomplete hchecksum hfits
            exact ⟨by simpa using hactive, hcomplete, hchecksum, hfits.1, hfits.2⟩

theorem sized_of_begun {session : PlcUploadSession} {r : UploadBeginRequest}
    (h : beginError session r = none) :
    headerSize ≤ r.totalSize ∧ r.totalSize ≤ kPlcUploadVolatileStagingSize := by
  rw [beginError] at h
  by_cases hs : r.totalSize < headerSize ∨ kPlcUploadVolatileStagingSize < r.totalSize
  · rw [if_pos hs] at h
    repeat' split at h
    all_goals cases h
  · simpa only [not_or, UInt32.not_lt] using hs

variable {s : NodeNetCore}

theorem idle_of_erase {r : EraseRequest} (h : eraseError s r = none) :
    s.session.active = false ∧ s.pendingPlcAutoLoad = none := by
  rw [eraseError] at h
  split at h
  · cases h
  · split at h
    · cases h
    · rename_i hidle
      simpa only [Bool.or_eq_true, not_or, Bool.not_eq_true, Option.isSome_eq_false_iff,
        Option.isNone_iff_eq_none] using hidle

variable {e : Event}

theorem pending_of_erases {q : PendingPlcErase} (h : s.erases e = some q) :
    s.pendingPlcErase = some q := by
  cases e with
  | advance nowMs =>
    rw [NodeNetCore.erases] at h
    split at h
    · exact h
    · cases h
  | request r nowMs => cases h
  | vmStart => cases h
  | vmReport slotId report => cases h
  | vmFinish => cases h

theorem pending_of_autoLoads {q : PendingPlcAutoLoad} (h : s.autoLoads e = some q) :
    s.pendingPlcAutoLoad = some q := by
  cases e with
  | advance nowMs =>
    rw [NodeNetCore.autoLoads] at h
    split at h
    · exact h
    · cases h
  | request r nowMs => cases h
  | vmStart => cases h
  | vmReport slotId report => cases h
  | vmFinish => cases h

theorem erases_executed {q : PendingPlcErase} (h : s.erases e = some q) :
    (s.next e).pendingPlcErase = none ∧
      Cleared (s.mem.slots q.slotId) ((s.next e).mem.slots q.slotId) := by
  cases e with
  | advance nowMs =>
    rw [NodeNetCore.erases] at h
    split at h
    · rename_i hrun
      simp only [NodeNetCore.next, NodeNetCore.advance, hrun.1, h, hrun.2]
      exact ⟨rfl, eraseSlot_cleared s.mem q.slotId⟩
    · cases h
  | request r nowMs => cases h
  | vmStart => cases h
  | vmReport slotId report => cases h
  | vmFinish => cases h

theorem autoLoads_executed {q : PendingPlcAutoLoad} (h : s.autoLoads e = some q) :
    (s.next e).pendingPlcAutoLoad = none ∧ (s.next e).mem = (autoLoadSlot s.mem q).mem := by
  cases e with
  | advance nowMs =>
    rw [NodeNetCore.autoLoads] at h
    split at h
    · rename_i hrun
      simp only [NodeNetCore.next, NodeNetCore.advance, hrun.1, h, hrun.2]
      exact ⟨rfl, rfl⟩
    · cases h
  | request r nowMs => cases h
  | vmStart => cases h
  | vmReport slotId report => cases h
  | vmFinish => cases h

theorem request_of_answer {r : Request} {reply : Reply} (h : s.answer e = some (r, reply)) :
    ∃ nowMs, (s.handle nowMs r).2 = reply ∧ s.next e = (s.handle nowMs r).1 := by
  cases e with
  | request r' nowMs =>
    by_cases hphase : s.phase = .service ∨ s.phase = .input
    · simp only [NodeNetCore.answer, if_pos hphase, Option.some.injEq, Prod.mk.injEq] at h
      obtain ⟨rfl, hreply⟩ := h
      exact ⟨nowMs, hreply, if_pos hphase⟩
    · simp [NodeNetCore.answer, hphase] at h
  | advance nowMs => cases h
  | vmStart => cases h
  | vmReport slotId report => cases h
  | vmFinish => cases h

theorem begin_of_answer {r : UploadBeginRequest} (h : s.answer e = some (.uploadBegin r, .ok ())) :
    beginError s.session r = none ∧ ∃ nowMs, s.next e = beginUpload s r nowMs := by
  obtain ⟨nowMs, hreply, hnext⟩ := request_of_answer h
  change (handlePlcUploadBeginRequest s r nowMs).2 = _ at hreply
  change _ = (handlePlcUploadBeginRequest s r nowMs).1 at hnext
  rw [handlePlcUploadBeginRequest] at hreply hnext
  cases hb : beginError s.session r with
  | some error => simp [hb] at hreply
  | none =>
    rw [hb] at hnext
    exact ⟨rfl, nowMs, hnext⟩

theorem erase_of_answer {r : EraseRequest} {faults : Faults}
    (h : s.answer e = some (.erase r faults, .ok ())) : QueuesErase s e r faults := by
  obtain ⟨nowMs, hreply, hnext⟩ := request_of_answer h
  change (handlePlcEraseRequest s r faults).2 = _ at hreply
  change _ = (handlePlcEraseRequest s r faults).1 at hnext
  rw [handlePlcEraseRequest] at hreply hnext
  cases he : eraseError s r with
  | some error => simp [he] at hreply
  | none =>
    rw [he] at hreply hnext
    dsimp only at hreply hnext
    cases hok : (s.savePackage r.persistToFlash ⟨r.slotId, none, 0⟩ faults).ok with
    | true =>
      rw [if_pos hok] at hnext
      exact ⟨h, he, hok, hnext⟩
    | false => simp [hok] at hreply

theorem commit_of_answer {uploadId : UInt32} {faults : Faults}
    (h : s.answer e = some (.uploadCommit uploadId faults, .ok ())) :
    QueuesAutoLoad s e faults := by
  obtain ⟨nowMs, hreply, hnext⟩ := request_of_answer h
  change (handlePlcUploadCommitRequest s uploadId faults).2 = _ at hreply
  change _ = (handlePlcUploadCommitRequest s uploadId faults).1 at hnext
  rw [handlePlcUploadCommitRequest] at hreply hnext
  cases hc : commitError s.session uploadId with
  | some error => simp [hc] at hreply
  | none =>
    rw [hc] at hreply hnext
    dsimp only at hreply hnext
    rw [stageUpload_session] at hreply hnext
    cases hok : (commitSave s faults).ok with
    | true =>
      have hsaved := hok
      rw [commitSave] at hok
      rw [if_pos hok] at hnext
      exact ⟨⟨uploadId, h, hc⟩, hsaved, hnext⟩
    | false =>
      rw [commitSave] at hok
      simp [hok] at hreply

theorem RecordStep.of_same (hsession : SameUpload s.session (s.next e).session)
    (herase : (s.next e).pendingPlcErase = s.pendingPlcErase)
    (hload : (s.next e).pendingPlcAutoLoad = s.pendingPlcAutoLoad) : RecordStep s e :=
  ⟨.kept hsession, .kept herase, .kept hload⟩

theorem request_recordStep (hphase : s.phase = .service ∨ s.phase = .input) (r : Request)
    (nowMs : UInt32) : RecordStep s (.request r nowMs) := by
  have hanswer : s.answer (.request r nowMs) = some (r, (s.handle nowMs r).2) :=
    answer_request hphase
  have hnext : s.next (.request r nowMs) = (s.handle nowMs r).1 := if_pos hphase
  have hsame : ∀ t, s.next (.request r nowMs) = t → SameUpload s.session t.session →
      t.pendingPlcErase = s.pendingPlcErase → t.pendingPlcAutoLoad = s.pendingPlcAutoLoad →
      RecordStep s (.request r nowMs) := by
    intro t ht hsession herase hload
    subst ht
    exact .of_same hsession herase hload
  cases r with
  | upsert definition => exact hsame _ hnext (.refl _) rfl rfl
  | remove id => exact hsame _ hnext (.refl _) rfl rfl
  | engineEnabled requested stored => exact hsame _ hnext (.refl _) rfl rfl
  | slotCommand command slotId requested stored =>
    change _ = (handleSlotCommand s command slotId requested stored).1 at hnext
    cases handleSlotCommand_cases s command slotId requested stored with
    | inl h =>
      rw [h] at hnext
      exact hsame _ hnext (.refl _) rfl rfl
    | inr h =>
      rw [h.2.2] at hnext
      exact hsame _ hnext (.refl _) (command_pendingPlcErase ..) (command_pendingPlcAutoLoad ..)
  | property stored => exact hsame _ hnext (.refl _) rfl rfl
  | erase r faults =>
    change s.answer _ = some (_, (handlePlcEraseRequest s r faults).2) at hanswer
    change _ = (handlePlcEraseRequest s r faults).1 at hnext
    rw [handlePlcEraseRequest] at hanswer hnext
    cases he : eraseError s r with
    | some error =>
      rw [he] at hnext
      exact hsame _ hnext (.refl _) rfl rfl
    | none =>
      rw [he] at hanswer hnext
      dsimp only at hanswer hnext
      cases hok : (s.savePackage r.persistToFlash ⟨r.slotId, none, 0⟩ faults).ok with
      | true =>
        rw [if_pos hok] at hanswer hnext
        have hkept : SameUpload s.session (s.next (.request (.erase r faults) nowMs)).session := by
          rw [hnext]
          exact .refl _
        exact ⟨.kept hkept, .queued r faults ⟨hanswer, he, hok, hnext⟩, .kept (by rw [hnext]; rfl)⟩
      | false =>
        rw [if_neg (by simp [hok])] at hnext
        exact hsame _ hnext (.refl _) rfl rfl
  | uploadBegin r =>
    change s.answer _ = some (_, (handlePlcUploadBeginRequest s r nowMs).2) at hanswer
    change _ = (handlePlcUploadBeginRequest s r nowMs).1 at hnext
    rw [handlePlcUploadBeginRequest] at hanswer hnext
    cases hb : beginError s.session r with
    | some error =>
      rw [hb] at hnext
      exact hsame _ hnext (.refl _) rfl rfl
    | none =>
      rw [hb] at hanswer hnext
      exact ⟨.begun r nowMs hanswer hb hnext, .kept (by rw [hnext]; rfl),
        .kept (by rw [hnext]; rfl)⟩
  | uploadData c =>
    change _ = (handlePlcUploadDataChunk s c nowMs).1 at hnext
    rw [handlePlcUploadDataChunk] at hnext
    split at hnext
    · exact hsame _ hnext (.refl _) rfl rfl
    · split at hnext <;> exact hsame _ hnext ⟨rfl, rfl, rfl, rfl, rfl⟩ rfl rfl
  | uploadDataInvalid => exact hsame _ hnext ⟨rfl, rfl, rfl, rfl, rfl⟩ rfl rfl
  | uploadCommit uploadId faults =>
    change s.answer _ = some (_, (handlePlcUploadCommitRequest s uploadId faults).2) at hanswer
    change _ = (handlePlcUploadCommitRequest s uploadId faults).1 at hnext
    rw [handlePlcUploadCommitRequest] at hanswer hnext
    cases hc : commitError s.session uploadId with
    | some error =>
      rw [hc] at hnext
      exact hsame _ hnext (.refl _) rfl rfl
    | none =>
      rw [hc] at hanswer hnext
      dsimp only at hanswer hnext
      cases hok : (commitSave s faults).ok with
      | true =>
        rw [commitSave] at hok
        rw [stageUpload_session, if_pos hok] at hanswer hnext
        have hqueued : QueuesAutoLoad s (.request (.uploadCommit uploadId faults) nowMs) faults :=
          ⟨⟨uploadId, hanswer, hc⟩, hok, hnext⟩
        exact ⟨.queued faults hqueued, .kept (by rw [hnext]; rfl), .queued faults hqueued⟩
      | false =>
        rw [commitSave] at hok
        rw [stageUpload_session, if_neg (by simp [hok])] at hnext
        exact hsame _ hnext (.refl _) rfl rfl
  | uploadAbort uploadId =>
    change _ = (handlePlcUploadAbortRequest s uploadId).1 at hnext
    rw [handlePlcUploadAbortRequest] at hnext
    split at hnext
    · exact hsame _ hnext (.refl _) rfl rfl
    · split at hnext
      · exact hsame _ hnext (.refl _) rfl rfl
      · refine ⟨.ended (by rw [hnext]) fun id faults ha => ?_, .kept (by rw [hnext]),
          .kept (by rw [hnext])⟩
        rw [hanswer] at ha
        cases ha
  | uploadStatus => exact hsame _ hnext (.refl _) rfl rfl

theorem advance_recordStep (s : NodeNetCore) (nowMs : UInt32) :
    RecordStep s (.advance nowMs) := by
  have h := advance_cases s nowMs
  have hsame : ∀ t, s.next (.advance nowMs) = t → t.session = s.session →
      t.pendingPlcErase = s.pendingPlcErase → t.pendingPlcAutoLoad = s.pendingPlcAutoLoad →
      RecordStep s (.advance nowMs) := by
    intro t ht hsession herase hload
    subst ht
    exact .of_same (hsession ▸ .refl _) herase hload
  have hnext : s.next (.advance nowMs) = s.advance nowMs := rfl
  generalize s.advance nowMs = t at h hnext
  cases h with
  | waits phase => exact hsame _ hnext rfl rfl rfl
  | entersRefresh _ =>
    rw [NodeNetCore.enterRefresh] at hnext
    split at hnext <;> exact hsame _ hnext rfl rfl rfl
  | refreshes _ _ _ =>
    refine hsame _ hnext ?_ ?_ ?_
    · rw [goTo_session, (defers_runRefresh s).session]
    · rw [goTo_pendingPlcErase, runRefresh_pendingPlcErase]
    · rw [goTo_pendingPlcAutoLoad, runRefresh_pendingPlcAutoLoad]
  | timesOut _ _ =>
    refine ⟨.ended (by rw [hnext]; rfl) fun id faults ha => (by cases ha), .kept (by rw [hnext]; rfl),
      .kept (by rw [hnext]; rfl)⟩
  | disablesForErase _ => exact hsame _ hnext rfl rfl rfl
  | erases hphase hidle p hp =>
    have hq : s.erases (.advance nowMs) = some p := (if_pos ⟨hphase, hidle⟩).trans hp
    exact ⟨.kept (by rw [hnext]; exact .refl _), .done p hq (by rw [hnext]; rfl),
      .kept (by rw [hnext]; rfl)⟩
  | disablesForAutoLoad _ => exact hsame _ hnext rfl rfl rfl
  | autoLoads hphase hidle p hp =>
    have hq : s.autoLoads (.advance nowMs) = some p := (if_pos ⟨hphase, hidle⟩).trans hp
    exact ⟨.kept (by rw [hnext]; exact .refl _), .kept (by rw [hnext]; rfl),
      .done p hq (by rw [hnext]; rfl)⟩

theorem recordStep (s : NodeNetCore) (e : Event) : RecordStep s e := by
  cases e with
  | request r nowMs =>
    by_cases hphase : s.phase = .service ∨ s.phase = .input
    · exact request_recordStep hphase r nowMs
    · have hnext : s.next (.request r nowMs) = s := if_neg hphase
      exact .of_same (by rw [hnext]; exact .refl _) (by rw [hnext]) (by rw [hnext])
  | advance nowMs => exact advance_recordStep s nowMs
  | vmStart =>
    cases henabled : s.engineEnabled with
    | true =>
      have hnext : s.next .vmStart = { s with engineBusy := true } := if_pos henabled
      exact .of_same (by rw [hnext]; exact .refl _) (by rw [hnext]) (by rw [hnext])
    | false =>
      have hnext : s.next .vmStart = s := if_neg (by simp [henabled])
      exact .of_same (by rw [hnext]; exact .refl _) (by rw [hnext]) (by rw [hnext])
  | vmReport slotId report =>
    by_cases hbusy : s.engineBusy = true
    · have hnext : s.next (.vmReport slotId report) =
          { s with mem := updateControl s.mem slotId (reportControl report) } := if_pos hbusy
      exact .of_same (by rw [hnext]; exact .refl _) (by rw [hnext]) (by rw [hnext])
    · have hnext : s.next (.vmReport slotId report) = s := if_neg hbusy
      exact .of_same (by rw [hnext]; exact .refl _) (by rw [hnext]) (by rw [hnext])
  | vmFinish => exact .of_same (.refl _) rfl rfl

/-- The upload has a size that a begin request accepts, and what waits to be loaded has one that a
snapshot can have. -/
structure UploadFits (s : NodeNetCore) : Prop where
  sized : s.session.active = true → headerSize ≤ s.session.totalSize
  fits : ∀ q, s.pendingPlcAutoLoad = some q → SnapshotFits q.slotId q.objectSize

theorem UploadFits.next (h : UploadFits s) (e : Event) : UploadFits (s.next e) := by
  constructor
  case sized =>
    intro hactive
    cases (recordStep s e).session with
    | kept hsame =>
      rw [hsame.totalSize]
      exact h.sized (hsame.active ▸ hactive)
    | begun r nowMs _ hchecked hnext =>
      rw [hnext]
      exact (sized_of_begun hchecked).1
    | queued faults hqueued =>
      rw [hqueued.next] at hactive
      cases hactive
    | ended hreset _ =>
      rw [hreset] at hactive
      cases hactive
  case fits =>
    intro q hq
    cases (recordStep s e).autoLoad with
    | kept hsame => exact h.fits q (hsame ▸ hq)
    | done _ _ hnone =>
      rw [hnone] at hq
      cases hq
    | queued faults hqueued =>
      obtain ⟨_, _, hchecked⟩ := hqueued.answer
      have hfits := commitFits_of_accepted hchecked
      rw [hqueued.next] at hq
      cases hq
      exact ⟨hfits.slot, h.sized hfits.active, hfits.capacity⟩

end NodeNet.Core

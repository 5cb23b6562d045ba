import NodeNet.Core.RecordStep
import NodeNet.Lib.Machine

/-! An upload that does not replace a program leaves the slot's run state alone, if there was
nothing to stop when it began. -/
namespace NodeNet.Core
open NodeNet.Bytes NodeNet.Machine NodeNet.Nor NodeNet.Slot NodeNet.ObjectFile NodeNet.Loader
open NodeNet.Package

structure RunState where
  paused : Bool
  status : UInt32
  deriving DecidableEq

def runState (control : PlcProgramControlBlockV1) : RunState :=
  ⟨plcSlotPaused control, control.status⟩

/-- A slot and its run state before the upload for it began. -/
abbrev RunNote := Option (UInt16 × RunState)

/-- The notes of the upload in progress and of the one that waits to be loaded. -/
structure RunNotes where
  session : RunNote
  autoLoad : RunNote

/-- A start or a stop command sets the run state anew. -/
def RunNotes.forget (notes : RunNotes) (slotId : UInt16) : RunNotes where
  session := notes.session.filter (·.1 ≠ slotId)
  autoLoad := notes.autoLoad.filter (·.1 ≠ slotId)

/-- What a start or stop command that is carried out leaves of the notes. -/
def RunNotes.commanded (notes : RunNotes) : Option (Request × Reply) → RunNotes
  | some (.slotCommand command slotId true _, .ok _) =>
    if command.saves then notes.forget slotId else notes
  | _ => notes

/-- A note lasts as long as the upload or the pending load. -/
def RunNotes.lasting (notes : RunNotes) (s : NodeNetCore) : RunNotes where
  session := if s.session.active then notes.session else none
  autoLoad := if s.pendingPlcAutoLoad.isSome then notes.autoLoad else none

def noteRunState (s : NodeNetCore) (e : Event) (notes : RunNotes) : RunNotes :=
  match s.answer e with
  | some (.uploadBegin r, .ok _) =>
    { notes with session := some (r.slotId, runState (s.mem.slots r.slotId).control) }
  | some (.uploadCommit _ _, .ok _) => ⟨none, notes.session⟩
  | answer => (notes.commanded answer).lasting (s.next e)

def RunNotes.Watches (notes : RunNotes) (slotId : UInt16) (before : RunState) : Prop :=
  notes.session = some (slotId, before) ∨ notes.autoLoad = some (slotId, before)

/-- However an upload ends without a new program, its slot's run state is the one noted. -/
structure KeepsRunState (p : NodeNetCore × RunNotes) (e : Event) : Prop where
  ended : ∀ slotId before, p.2.session = some (slotId, before) → p.1.session.active = true →
    (p.1.next e).session.active = false →
    (∀ uploadId faults, p.1.answer e ≠ some (.uploadCommit uploadId faults, .ok ())) →
    runState ((p.1.next e).mem.slots slotId).control = before
  failed : ∀ slotId before q, p.2.autoLoad = some (slotId, before) → p.1.autoLoads e = some q →
    (loadObjectFileIntoSlot p.1.mem q.slotId (p.1.mem.slots q.slotId).snapshotData
      q.objectSize).2.status ≠ .Ok →
    runState ((p.1.next e).mem.slots slotId).control = before

def NothingToStop (control : PlcProgramControlBlockV1) (slotId : UInt16) : Prop :=
  plcControlBlockLoaded control slotId = true → plcSlotPaused control = true ∧
    (plcSlotFaulted control = true ∨ control.status = kPlcSlotStatusLoadedV1)

/-- An upload begins only for a slot with nothing to stop and nothing pending, and until it is over
no fault is cleared in the slot and the VM writes no other status to it. -/
structure Undisturbed (p : NodeNetCore × RunNotes) (e : Event) : Prop where
  begins : ∀ r reply, p.1.answer e = some (.uploadBegin r, reply) →
    beginError p.1.session r = none →
    NothingToStop (p.1.mem.slots r.slotId).control r.slotId ∧
      (∀ q, p.1.pendingPlcErase = some q → q.slotId ≠ r.slotId) ∧
      ∀ q, p.1.pendingPlcAutoLoad = some q → q.slotId ≠ r.slotId
  commands : ∀ command slotId stored reply before,
    p.1.answer e = some (.slotCommand command slotId true stored, reply) →
    p.2.Watches slotId before → command.saves = false →
    plcSlotFaulted (p.1.mem.slots slotId).control = false
  reports : ∀ slotId report before, e = .vmReport slotId report → p.1.engineBusy = true →
    p.2.Watches slotId before → report.status = (p.1.mem.slots slotId).control.status

/-- A slot under upload: its run state is the noted one, and nothing is running in it. -/
structure Watched (s : NodeNetCore) (slotId : UInt16) (before : RunState) : Prop where
  same : runState (s.mem.slots slotId).control = before
  stopped : NothingToStop (s.mem.slots slotId).control slotId
  erase : ∀ q, s.pendingPlcErase = some q → q.slotId ≠ slotId

structure RunInv (p : NodeNetCore × RunNotes) : Prop where
  watched : ∀ slotId before, p.2.Watches slotId before → Watched p.1 slotId before
  session : ∀ slotId before, p.2.session = some (slotId, before) →
    p.1.session.active = true ∧ p.1.session.slotId = slotId ∧
      ∀ q, p.1.pendingPlcAutoLoad = some q → q.slotId ≠ slotId
  autoLoad : ∀ slotId before, p.2.autoLoad = some (slotId, before) →
    ∃ q, p.1.pendingPlcAutoLoad = some q ∧ q.slotId = slotId
  sizes : UploadFits p.1

variable {slotId : UInt16}

theorem stopControl_runState {control : PlcProgramControlBlockV1} (h : NothingToStop control slotId)
    (hloaded : plcControlBlockLoaded control slotId = true) :
    runState (stopControl control) = runState control := by
  obtain ⟨hpaused, hstatus⟩ := h hloaded
  have hp : plcSlotPaused (stopControl control) = true := plcSlotPaused_setPaused control true
  have hs : (stopControl control).status = control.status := by
    rw [stopControl]
    cases hstatus with
    | inl hf => simp [hf]
    | inr hl => simp [hl]
  rw [runState, runState, hp, hs, hpaused]

theorem stopControl_nothingToStop (control : PlcProgramControlBlockV1) (slotId : UInt16) :
    NothingToStop (stopControl control) slotId := by
  intro _
  refine ⟨plcSlotPaused_setPaused control true, ?_⟩
  cases hf : plcSlotFaulted control with
  | true =>
    left
    have hs : (stopControl control).status = control.status := by simp [stopControl, hf]
    rw [plcSlotFaulted, hs]
    exact hf
  | false =>
    right
    simp [stopControl, hf]

theorem commandedControl_runState {m : SlotMemory} {command : SlotCommand}
    (hcommand : command.saves = false) (hclear : plcSlotFaulted m.control = false)
    (hstop : NothingToStop m.control slotId)
    (hloaded : plcControlBlockLoaded m.control slotId = true) :
    runState (commandedControl m slotId command) = runState m.control ∧
      NothingToStop (commandedControl m slotId command) slotId := by
  obtain ⟨hpaused, hstatus⟩ := hstop hloaded
  have hl : m.control.status = kPlcSlotStatusLoadedV1 := hstatus.resolve_left (by simp [hclear])
  have hne : kPlcSlotStatusLoadedV1 ≠ kPlcSlotStatusRunningV1 := by decide
  have hsame : (commandedControl m slotId command).control = m.control.control ∧
      (commandedControl m slotId command).status = m.control.status := by
    cases command with
    | start => cases hcommand
    | stop => cases hcommand
    | reset => simp [commandedControl, resetControl, hclear, hl, hne]
    | clearFault => simp [commandedControl, clearFaultControl, hclear]
  have hp : plcSlotPaused (commandedControl m slotId command) = plcSlotPaused m.control := by
    rw [plcSlotPaused, hsame.1, plcSlotPaused]
  refine ⟨?_, fun _ => ⟨hp.trans hpaused, .inr (hsame.2.trans hl)⟩⟩
  rw [runState, runState, hp, hsame.2]

theorem refreshed_runState {m m' : SlotMemory} (h : AfterRefresh m slotId m')
    (hstop : NothingToStop m.control slotId) :
    runState m'.control = runState m.control ∧ NothingToStop m'.control slotId := by
  cases h with
  | kept => exact ⟨rfl, hstop⟩
  | unlinked _ _ code _ => exact ⟨rfl, hstop⟩
  | reloaded hreloadable _ code _ l _ =>
    simp only [plcControlBlockReloadable, Bool.and_eq_true, Bool.not_eq_true'] at hreloadable
    obtain ⟨hpaused, hstatus⟩ := hstop hreloadable.1
    have hl := hstatus.resolve_left (by simp [hreloadable.2])
    have hp : plcSlotPaused (reloaded m slotId code l).control = true := by
      rw [← hpaused]
      exact plcSlotPaused_setPaused _ _
    have hs : (reloaded m slotId code l).control.status = kPlcSlotStatusLoadedV1 := rfl
    refine ⟨?_, fun _ => ⟨hp, .inr hs⟩⟩
    rw [runState, runState, hp, hs, hpaused, hl]

theorem autoLoad_failed {s : LoaderState} {p : PendingPlcAutoLoad}
    (hfits : SnapshotFits p.slotId p.objectSize)
    (hfailed : (loadObjectFileIntoSlot s p.slotId (s.slots p.slotId).snapshotData
      p.objectSize).2.status ≠ .Ok) :
    ((autoLoadSlot s p).mem.slots p.slotId).control = (s.slots p.slotId).control := by
  have hafter := load_slot s p.slotId (s.slots p.slotId).snapshotData p.objectSize
  rw [autoLoadSlot]
  dsimp only
  rw [if_pos hfailed]
  generalize ((loadObjectFileIntoSlot s p.slotId (s.slots p.slotId).snapshotData
    p.objectSize).1.slots p.slotId) = m at hafter ⊢
  generalize (loadObjectFileIntoSlot s p.slotId (s.slots p.slotId).snapshotData
    p.objectSize).2.status = status at hafter hfailed
  cases hafter with
  | refused _ => rfl
  | unlinked _ code _ => rfl
  | unsaved _ hnot code _ l => exact absurd hfits hnot
  | loaded _ code _ l _ => exact absurd rfl hfailed

variable {s : NodeNetCore} {e : Event}

/-- A slot under upload stays as it is, whatever else happens. -/
theorem Watched.next {before : RunState} (h : Watched s slotId before)
    (hcommand : ∀ command stored,
      s.answer e = some (.slotCommand command slotId true stored, .ok ()) →
      command.saves = false ∧ plcSlotFaulted (s.mem.slots slotId).control = false)
    (hreport : ∀ report, e = .vmReport slotId report → s.engineBusy = true →
      report.status = (s.mem.slots slotId).control.status)
    (herase : ∀ r faults, QueuesErase s e r faults → r.slotId ≠ slotId)
    (hload : ∀ q, s.autoLoads e = some q → q.slotId ≠ slotId) :
    Watched (s.next e) slotId before := by
  have hrun : runState ((s.next e).mem.slots slotId).control =
        runState (s.mem.slots slotId).control ∧
      NothingToStop ((s.next e).mem.slots slotId).control slotId := by
    have hstep := slotStep s e slotId
    generalize (s.next e).mem.slots slotId = m at hstep ⊢
    cases hstep with
    | kept => exact ⟨rfl, h.stopped⟩
    | commanded hanswer haccepted =>
      obtain ⟨hsaves, hclear⟩ := hcommand _ _ hanswer
      simp only [slotCommandAccepted, Bool.and_eq_true] at haccepted
      exact commandedControl_runState hsaves hclear h.stopped haccepted.1
    | stopped _ _ hloaded =>
      exact ⟨stopControl_runState h.stopped hloaded, stopControl_nothingToStop _ _⟩
    | staged _ _ _ => exact ⟨rfl, h.stopped⟩
    | reported hevent hbusy =>
      rename_i report
      have hsame := hreport report hevent hbusy
      have hstatus : (reported (s.mem.slots slotId) report).control.status =
          (s.mem.slots slotId).control.status := hsame
      refine ⟨?_, fun hloaded => ?_⟩
      · rw [runState, runState, hstatus]
        rfl
      · rw [plcSlotFaulted, hstatus]
        exact h.stopped hloaded
    | refreshed _ hafter => exact refreshed_runState hafter h.stopped
    | erased hq hslot _ => exact absurd hslot (h.erase _ (pending_of_erases hq))
    | autoLoaded hq hslot _ => exact absurd hslot (hload _ hq)
  refine ⟨hrun.1.trans h.same, hrun.2, fun q hq => ?_⟩
  cases (recordStep s e).erase with
  | kept hkept => exact h.erase q (hkept ▸ hq)
  | done _ _ hnone =>
    rw [hnone] at hq
    cases hq
  | queued r faults hqueued =>
    rw [hqueued.next] at hq
    cases hq
    exact herase r faults hqueued

theorem lasting_session {notes : RunNotes} {n : UInt16 × RunState}
    (h : (notes.lasting s).session = some n) :
    s.session.active = true ∧ notes.session = some n := by
  cases hactive : s.session.active with
  | true => simpa [RunNotes.lasting, hactive] using h
  | false => simp [RunNotes.lasting, hactive] at h

theorem lasting_autoLoad {notes : RunNotes} {n : UInt16 × RunState}
    (h : (notes.lasting s).autoLoad = some n) :
    s.pendingPlcAutoLoad.isSome = true ∧ notes.autoLoad = some n := by
  cases hp : s.pendingPlcAutoLoad with
  | some q => simpa [RunNotes.lasting, hp] using h
  | none => simp [RunNotes.lasting, hp] at h

/-- What a note that is kept says of the command. -/
def Spared (slotId : UInt16) (answer : Option (Request × Reply)) : Prop :=
  ∀ command stored, answer = some (.slotCommand command slotId true stored, .ok ()) →
    command.saves = false

theorem commanded_sub {notes : RunNotes} {answer : Option (Request × Reply)} {before : RunState} :
    ((notes.commanded answer).session = some (slotId, before) →
        notes.session = some (slotId, before) ∧ Spared slotId answer) ∧
      ((notes.commanded answer).autoLoad = some (slotId, before) →
        notes.autoLoad = some (slotId, before) ∧ Spared slotId answer) := by
  rw [RunNotes.commanded.eq_def]
  split
  · rename_i command slot stored _
    cases hsaves : command.saves with
    | true =>
      simp only [RunNotes.forget, Option.filter_eq_some_iff, decide_eq_true_eq, if_true]
      refine ⟨fun h => ⟨h.1, ?_⟩, fun h => ⟨h.1, ?_⟩⟩
      all_goals
        intro command' stored' ha
        cases ha
        exact absurd rfl h.2
    | false =>
      simp only [Bool.false_eq_true, if_false]
      refine ⟨fun h => ⟨h, ?_⟩, fun h => ⟨h, ?_⟩⟩
      all_goals
        intro command' stored' ha
        cases ha
        exact hsaves
  · rename_i hother
    refine ⟨fun h => ⟨h, ?_⟩, fun h => ⟨h, ?_⟩⟩
    all_goals
      intro command stored ha
      exact absurd ha (hother _ _ _ _)

theorem noteRunState_begun {r : UploadBeginRequest} (h : s.answer e = some (.uploadBegin r, .ok ()))
    (notes : RunNotes) : noteRunState s e notes =
      { notes with session := some (r.slotId, runState (s.mem.slots r.slotId).control) } := by
  rw [noteRunState, h]

theorem noteRunState_committed {uploadId : UInt32} {faults : Faults}
    (h : s.answer e = some (.uploadCommit uploadId faults, .ok ())) (notes : RunNotes) :
    noteRunState s e notes = ⟨none, notes.session⟩ := by
  rw [noteRunState, h]

theorem noteRunState_other (hbegin : ∀ r, s.answer e ≠ some (.uploadBegin r, .ok ()))
    (hcommit : ∀ uploadId faults, s.answer e ≠ some (.uploadCommit uploadId faults, .ok ()))
    (notes : RunNotes) :
    noteRunState s e notes = (notes.commanded (s.answer e)).lasting (s.next e) := by
  rw [noteRunState]
  split
  · rename_i r _ ha
    exact absurd ha (hbegin r)
  · rename_i uploadId faults _ ha
    exact absurd ha (hcommit uploadId faults)
  · rfl

theorem autoLoads_of_answer {r : Request} {reply : Reply} (h : s.answer e = some (r, reply)) :
    s.autoLoads e = none := by
  cases e with
  | request r nowMs => rfl
  | advance nowMs => cases h
  | vmStart => cases h
  | vmReport slotId report => cases h
  | vmFinish => cases h

variable {p : NodeNetCore × RunNotes}

theorem RunInv.watched_next (h : RunInv p) (hu : Undisturbed p e) {before : RunState}
    (hw : p.2.Watches slotId before) (hspared : Spared slotId (p.1.answer e))
    (hload : ∀ q, p.1.autoLoads e = some q → q.slotId ≠ slotId) :
    Watched (p.1.next e) slotId before := by
  refine (h.watched slotId before hw).next (fun command stored ha => ?_) (fun report he hbusy => ?_)
    (fun r faults hqueued => ?_) hload
  · have hsaves := hspared command stored ha
    exact ⟨hsaves, hu.commands command slotId stored _ before ha hw hsaves⟩
  · exact hu.reports slotId report before he hbusy hw
  · have hidle := idle_of_erase hqueued.checked
    cases hw with
    | inl hs =>
      have hactive := (h.session slotId before hs).1
      rw [hidle.1] at hactive
      cases hactive
    | inr ha =>
      obtain ⟨q, hq, _⟩ := h.autoLoad slotId before ha
      rw [hidle.2] at hq
      cases hq

theorem RunInv.begun (h : RunInv p) (hu : Undisturbed p e) {r : UploadBeginRequest}
    (ha : p.1.answer e = some (.uploadBegin r, .ok ())) :
    RunInv (observed NodeNetCore.next noteRunState p e) := by
  obtain ⟨hchecked, nowMs, hnext⟩ := begin_of_answer ha
  obtain ⟨hstop, herase, hload⟩ := hu.begins r _ ha hchecked
  have hspared : ∀ slotId, Spared slotId (p.1.answer e) := by
    intro slotId command stored hcommand
    rw [ha] at hcommand
    cases hcommand
  have hnone := autoLoads_of_answer ha
  have hself : Watched (p.1.next e) r.slotId (runState (p.1.mem.slots r.slotId).control) := by
    rw [hnext]
    have hcontrol : runState ((beginUpload p.1 r nowMs).mem.slots r.slotId).control =
          runState (p.1.mem.slots r.slotId).control ∧
        NothingToStop ((beginUpload p.1 r nowMs).mem.slots r.slotId).control r.slotId := by
      dsimp only [beginUpload]
      split
      · rename_i hloaded
        rw [updateControl_self]
        exact ⟨stopControl_runState hstop hloaded, stopControl_nothingToStop _ _⟩
      · exact ⟨rfl, hstop⟩
    exact ⟨hcontrol.1, hcontrol.2, herase⟩
  rw [observed, noteRunState_begun ha]
  refine ⟨fun slotId before hw => ?_, fun slotId before hs => ?_, fun slotId before hl => ?_,
    h.sizes.next e⟩
  · cases hw with
    | inl hs =>
      cases hs
      exact hself
    | inr hl =>
      refine h.watched_next hu (.inr hl) (hspared slotId) fun q hq => ?_
      rw [hnone] at hq
      cases hq
  · cases hs
    rw [hnext]
    exact ⟨rfl, rfl, hload⟩
  · rw [hnext]
    exact h.autoLoad slotId before hl

theorem RunInv.committed (h : RunInv p) (hu : Undisturbed p e) {uploadId : UInt32} {faults : Faults}
    (ha : p.1.answer e = some (.uploadCommit uploadId faults, .ok ())) :
    RunInv (observed NodeNetCore.next noteRunState p e) := by
  have hqueued := commit_of_answer ha
  obtain ⟨_, _, hchecked⟩ := hqueued.answer
  have hnone := autoLoads_of_answer ha
  rw [observed, noteRunState_committed ha]
  refine ⟨fun slotId before hw => ?_, fun slotId before hs => (by cases hs),
    fun slotId before hl => ?_, h.sizes.next e⟩
  · have hs := hw.resolve_left (by simp)
    refine h.watched_next hu (.inl hs) (fun command stored hcommand => ?_) fun q hq => ?_
    · rw [ha] at hcommand
      cases hcommand
    · rw [hnone] at hq
      cases hq
  · rw [hqueued.next]
    exact ⟨_, rfl, (h.session slotId before hl).2.1⟩

/-- Nothing else writes a note. -/
theorem RunInv.other (h : RunInv p) (hu : Undisturbed p e)
    (hbegin : ∀ r, p.1.answer e ≠ some (.uploadBegin r, .ok ()))
    (hcommit : ∀ uploadId faults, p.1.answer e ≠ some (.uploadCommit uploadId faults, .ok ())) :
    RunInv (observed NodeNetCore.next noteRunState p e) := by
  have hsession : (p.1.next e).session.active = true →
      SameUpload p.1.session (p.1.next e).session := by
    intro hactive
    cases (recordStep p.1 e).session with
    | kept hsame => exact hsame
    | begun r _ ha _ _ => exact absurd ha (hbegin r)
    | queued faults hqueued =>
      obtain ⟨uploadId, ha, _⟩ := hqueued.answer
      exact absurd ha (hcommit uploadId faults)
    | ended hreset _ =>
      rw [hreset] at hactive
      cases hactive
  have hpending : ∀ q, (p.1.next e).pendingPlcAutoLoad = some q →
      p.1.pendingPlcAutoLoad = some q ∧ p.1.autoLoads e = none := by
    intro q hq
    cases (recordStep p.1 e).autoLoad with
    | kept hsame =>
      refine ⟨hsame ▸ hq, ?_⟩
      cases hl : p.1.autoLoads e with
      | none => rfl
      | some q' =>
        rw [(autoLoads_executed hl).1] at hq
        cases hq
    | done _ _ hnone =>
      rw [hnone] at hq
      cases hq
    | queued faults hqueued =>
      obtain ⟨uploadId, ha, _⟩ := hqueued.answer
      exact absurd ha (hcommit uploadId faults)
  rw [observed, noteRunState_other hbegin hcommit]
  refine ⟨fun slotId before hw => ?_, fun slotId before hs => ?_, fun slotId before hl => ?_,
    h.sizes.next e⟩
  · cases hw with
    | inl hs =>
      have hold := commanded_sub.1 (lasting_session hs).2
      refine h.watched_next hu (.inl hold.1) hold.2 fun q hq => ?_
      exact (h.session slotId before hold.1).2.2 q (pending_of_autoLoads hq)
    | inr hl =>
      obtain ⟨hsome, hkept⟩ := lasting_autoLoad hl
      have hold := commanded_sub.2 hkept
      refine h.watched_next hu (.inr hold.1) hold.2 fun q hq => ?_
      obtain ⟨q', hq'⟩ := Option.isSome_iff_exists.mp hsome
      rw [(hpending q' hq').2] at hq
      cases hq
  · obtain ⟨hactive, hkept⟩ := lasting_session hs
    have hold := commanded_sub.1 hkept
    have hsame := hsession hactive
    obtain ⟨_, hslot, hload⟩ := h.session slotId before hold.1
    exact ⟨hactive, hsame.slotId.trans hslot, fun q hq => hload q (hpending q hq).1⟩
  · obtain ⟨hsome, hkept⟩ := lasting_autoLoad hl
    have hold := commanded_sub.2 hkept
    obtain ⟨q', hq'⟩ := Option.isSome_iff_exists.mp hsome
    obtain ⟨q, hq, hslot⟩ := h.autoLoad slotId before hold.1
    have heq := Option.some.inj (hq.symm.trans (hpending q' hq').1)
    exact ⟨q', hq', heq ▸ hslot⟩

theorem runInv_next (h : RunInv p) (hu : Undisturbed p e) :
    RunInv (observed NodeNetCore.next noteRunState p e) := by
  by_cases hbegin : ∃ r, p.1.answer e = some (.uploadBegin r, .ok ())
  · obtain ⟨r, ha⟩ := hbegin
    exact h.begun hu ha
  · by_cases hcommit : ∃ uploadId faults, p.1.answer e = some (.uploadCommit uploadId faults, .ok ())
    · obtain ⟨uploadId, faults, ha⟩ := hcommit
      exact h.committed hu ha
    · exact h.other hu (fun r ha => hbegin ⟨r, ha⟩)
        (fun uploadId faults ha => hcommit ⟨uploadId, faults, ha⟩)

theorem spared_of_ended (h : (s.next e).session.active = false) (hactive : s.session.active = true)
    (slotId : UInt16) : Spared slotId (s.answer e) := by
  intro command stored ha
  obtain ⟨nowMs, _, hnext⟩ := request_of_answer ha
  change _ = (handleSlotCommand s command slotId true stored).1 at hnext
  cases handleSlotCommand_cases s command slotId true stored with
  | inl hsame =>
    rw [hnext, hsame, hactive] at h
    cases h
  | inr hdone =>
    rw [hnext, hdone.2.2] at h
    change s.session.active = false at h
    rw [hactive] at h
    cases h

theorem keepsRunState_of_inv (h : RunInv p) (hu : Undisturbed p e) : KeepsRunState p e := by
  constructor
  case ended =>
    intro slotId before hs hactive hended _
    refine (h.watched_next hu (.inl hs) (spared_of_ended hended hactive slotId) fun q hq => ?_).same
    exact (h.session slotId before hs).2.2 q (pending_of_autoLoads hq)
  case failed =>
    intro slotId before q hl hq hfailed
    have hpending := pending_of_autoLoads hq
    obtain ⟨q', hq', hslot⟩ := h.autoLoad slotId before hl
    have heq := Option.some.inj (hpending.symm.trans hq')
    subst heq
    subst hslot
    rw [(autoLoads_executed hq).2, autoLoad_failed (h.sizes.fits q hpending) hfailed]
    exact (h.watched q.slotId before (.inr hl)).same

/-- Along every run in which uploads find nothing to stop, an upload that replaces no program leaves
the run state as it was. -/
theorem keeps_run_state (mem : LoaderState) (staging flash : Memory)
    (nextPlcUploadId epoch : UInt32) (preferences : Preferences) (events : List Event)
    (h : Along (observed NodeNetCore.next noteRunState) Undisturbed
      (.start mem staging flash nextPlcUploadId epoch preferences, ⟨none, none⟩) events) :
    Along (observed NodeNetCore.next noteRunState) KeepsRunState
      (.start mem staging flash nextPlcUploadId epoch preferences, ⟨none, none⟩) events := by
  refine along_of_inv RunInv (fun _ _ => runInv_next) (fun _ _ => keepsRunState_of_inv) ?_ h
  refine ⟨fun slotId before hw => ?_, fun slotId before hs => (by cases hs),
    fun slotId before hl => (by cases hl), fun hactive => (by cases hactive),
    fun q hq => (by cases hq)⟩
  cases hw with
  | inl hs => cases hs
  | inr hl => cases hl

def abortedUpload : List Event :=
  [.request (.uploadBegin ⟨0, 64, 0, false, true, true⟩) 0, .request (.uploadAbort 1) 1]

theorem abortedUpload_keeps :
    Along (observed NodeNetCore.next noteRunState) KeepsRunState (.blank, ⟨none, none⟩)
      abortedUpload := by
  refine keeps_run_state _ _ _ _ _ _ _ ⟨?_, ?_, trivial⟩
  · refine ⟨fun r reply ha _ => ?_, fun command slotId stored reply before ha => ?_,
      fun slotId report before he => (by cases he)⟩
    · cases ha
      refine ⟨fun hloaded => ?_, fun q hq => (by cases hq), fun q hq => (by cases hq)⟩
      revert hloaded
      decide
    · cases ha
  · refine ⟨fun r reply ha => ?_, fun command slotId stored reply before ha => ?_,
      fun slotId report before he => (by cases he)⟩
    · cases ha
    · cases ha

/-- A board whose slot 0 runs a program. -/
def NodeNetCore.running : NodeNetCore :=
  .start (LoaderState.boot.updateSlot 0 fun m =>
    { m with control := loadedControlBlock 0 ⟨5, 0, 0, 0, 0, 0, 0, 0, 0⟩ })
    (fun _ => 0xFF) (fun _ => 0xFF) 1 0 ⟨true, 1⟩

/-- Aborted, the upload leaves the running program paused. -/
theorem abortedUpload_not_keeps :
    ¬ Along (observed NodeNetCore.next noteRunState) KeepsRunState (.running, ⟨none, none⟩)
      abortedUpload := by
  intro h
  have hended := h.2.1.ended 0 ⟨false, kPlcSlotStatusLoadedV1⟩ (by decide) (by decide) (by decide)
    (fun uploadId faults ha => (by cases ha))
  revert hended
  decide

end NodeNet.Core

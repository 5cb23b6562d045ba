import NodeNet.Core.RestoreExact
import NodeNet.Core.SnapshotSound
import NodeNet.Core.RunState

/-! The run state that the slots and the engine were last given, and what holds of the slots. -/
namespace NodeNet.Core
open NodeNet.Bytes NodeNet.Machine NodeNet.Nor NodeNet.Flash NodeNet.Slot NodeNet.ObjectFile
open NodeNet.Loader NodeNet.Package

/-- The run state that was last acknowledged: of the engine, and of the slots that had a command or
an upload that restored one. -/
structure RunExpected where
  engine : Bool
  slots : UInt16 → Option Bool
  /-- An upload has stopped the slot while it ran, and nothing has set its run state since. -/
  held : UInt16 → Bool

/-- Nothing is acknowledged yet. -/
def RunExpected.start (preferences : Preferences) : RunExpected :=
  ⟨preferences.plcEngineEnabled, fun _ => none, fun _ => false⟩

def RunExpected.setSlot (x : RunExpected) (slotId : UInt16) (running : Option Bool) : RunExpected :=
  { x with
    slots := fun j => if j = slotId then running else x.slots j
    held := fun j => if j = slotId then false else x.held j }

def RunExpected.hold (x : RunExpected) (slotId : UInt16) : RunExpected :=
  { x with held := fun j => if j = slotId then true else x.held j }

def AutoLoadSucceeds (s : NodeNetCore) (q : PendingPlcAutoLoad) : Prop :=
  (loadObjectFileIntoSlot s.mem q.slotId (s.mem.slots q.slotId).snapshotData
    q.objectSize).2.status = .Ok

instance (s : NodeNetCore) (q : PendingPlcAutoLoad) : Decidable (AutoLoadSucceeds s q) :=
  inferInstanceAs (Decidable (_ = _))

def slotRuns (s : LoaderState) (slotId : UInt16) : Bool :=
  plcControlBlockLoaded (s.slots slotId).control slotId && !plcSlotPaused (s.slots slotId).control

/-- A deferred operation gives its slot another program, with the run state from before the upload,
or none. -/
def noteReplaced (s : NodeNetCore) (e : Event) (x : RunExpected) : RunExpected :=
  match s.erases e, s.autoLoads e with
  | some q, _ => x.setSlot q.slotId none
  | none, some q =>
    if AutoLoadSucceeds s q then x.setSlot q.slotId (some q.restoreSlotRunning) else x
  | none, none => x

/-- The acknowledged run state after an event. -/
def noteExpected (s : NodeNetCore) (e : BoardEvent) (x : RunExpected) : RunExpected :=
  match e with
  | .reboot _ _ _ => { x with held := fun _ => false }
  | .core e =>
    match s.answer e with
    | some (.engineEnabled requested _, .ok _) => { x with engine := requested }
    | some (.slotCommand command slotId true _, .ok _) =>
      if command.saves then x.setSlot slotId (some (command = .start)) else x
    | some (.uploadBegin r, .ok _) => if slotRuns s.mem r.slotId then x.hold r.slotId else x
    | _ => noteReplaced s e x

variable {slotId : UInt16}

theorem runMaskBit_testBit (mask : UInt32) (h : slotId < kPlcSlotCountV1) :
    runMaskBit mask slotId = mask.toBitVec.getLsbD slotId.toNat := by
  have hi : slotId.toNat < 16 := UInt16.lt_iff_toNat_lt.mp h
  have hbit : ∀ n < 16, ((1 : UInt32) <<< (UInt16.ofNat n).toUInt32).toBitVec =
      BitVec.twoPow 32 n := by decide
  have hslot := hbit slotId.toNat hi
  rw [UInt16.ofNat_toNat] at hslot
  have hand : (mask &&& 1 <<< slotId.toUInt32).toBitVec =
      if mask.toBitVec.getLsbD slotId.toNat then BitVec.twoPow 32 slotId.toNat else 0#32 := by
    rw [UInt32.toBitVec_and, hslot, BitVec.and_twoPow]
  have hne : ∀ n < 16, BitVec.twoPow 32 n ≠ 0#32 := by decide
  rw [runMaskBit]
  cases hset : mask.toBitVec.getLsbD slotId.toNat with
  | true =>
    rw [hset, if_pos rfl] at hand
    rw [decide_eq_true_eq]
    intro hzero
    rw [hzero] at hand
    exact hne slotId.toNat hi hand.symm
  | false =>
    rw [hset, if_neg Bool.false_ne_true] at hand
    rw [decide_eq_false_iff_not, Decidable.not_not]
    exact UInt32.toBitVec_inj.mp hand

theorem runMaskBit_or (mask : UInt32) {k : UInt16} (h : slotId < kPlcSlotCountV1)
    (hk : k < kPlcSlotCountV1) :
    runMaskBit (mask ||| (1 <<< k.toUInt32)) slotId = (runMaskBit mask slotId || slotId = k) := by
  have hi : slotId.toNat < 16 := UInt16.lt_iff_toNat_lt.mp h
  have hki : k.toNat < 16 := UInt16.lt_iff_toNat_lt.mp hk
  have hbit : ∀ n < 16, ∀ i < 16, ((1 : UInt32) <<< (UInt16.ofNat n).toUInt32).toBitVec.getLsbD i =
      decide (i = n) := by decide
  have hslot := hbit k.toNat hki slotId.toNat hi
  rw [UInt16.ofNat_toNat] at hslot
  rw [runMaskBit_testBit _ h, runMaskBit_testBit _ h, UInt32.toBitVec_or, BitVec.getLsbD_or, hslot]
  congr 1
  exact decide_eq_decide.mpr UInt16.toNat_inj

theorem runMaskBit_snapshot (s : LoaderState) (h : slotId < kPlcSlotCountV1) :
    runMaskBit (plcSlotRunMaskSnapshot s) slotId = slotRuns s slotId := by
  have hfold : ∀ slots : List UInt16, (∀ k ∈ slots, k < kPlcSlotCountV1) → ∀ mask,
      runMaskBit (slots.foldl (fun mask k =>
        let control := (s.slots k).control
        if plcControlBlockLoaded control k && !plcSlotPaused control then
          mask ||| (1 <<< k.toUInt32)
        else mask) mask) slotId =
      (runMaskBit mask slotId || (slotId ∈ slots && slotRuns s slotId)) := by
    intro slots
    induction slots with
    | nil => simp
    | cons k slots ih =>
      intro hslots mask
      have hk := hslots k List.mem_cons_self
      rw [List.foldl_cons, ih fun i hi => hslots i (List.mem_cons_of_mem k hi)]
      change (runMaskBit (if slotRuns s k then mask ||| (1 <<< k.toUInt32) else mask) slotId || _) =
        _
      by_cases hrun : slotRuns s k = true
      · rw [if_pos hrun, runMaskBit_or mask h hk]
        by_cases hj : slotId = k
        · subst hj
          simp [hrun]
        · simp [hj]
      · rw [if_neg hrun]
        by_cases hj : slotId = k
        · subst hj
          simp [hrun]
        · simp [hj]
  have hmem := mem_slotIds.mpr h
  have hzero : runMaskBit 0 slotId = false := by
    rw [runMaskBit_testBit 0 h]
    exact BitVec.getLsbD_zero
  rw [plcSlotRunMaskSnapshot, hfold slotIds (fun k hk => mem_slotIds.mp hk) 0, hzero]
  simp [hmem]

/-! What an event does to the run state of a slot. -/

/-- A slot that is loaded was loaded before, and is paused or not as it was. -/
def KeepsRun (m m' : SlotMemory) (slotId : UInt16) : Prop :=
  plcControlBlockLoaded m'.control slotId = true →
    plcControlBlockLoaded m.control slotId = true ∧
      plcSlotPaused m'.control = plcSlotPaused m.control

theorem keepsRun_of_refresh {m m' : SlotMemory} (h : AfterRefresh m slotId m') :
    KeepsRun m m' slotId := by
  cases h with
  | kept => exact fun hloaded => ⟨hloaded, rfl⟩
  | unlinked _ _ code _ => exact fun hloaded => ⟨hloaded, rfl⟩
  | reloaded hreloadable _ code _ l _ =>
    simp only [plcControlBlockReloadable, Bool.and_eq_true] at hreloadable
    exact fun _ => ⟨hreloadable.1, plcSlotPaused_setPaused _ _⟩

theorem keepsRun_of_command (m : SlotMemory) {command : SlotCommand}
    (h : command.saves = false) : KeepsRun m (commanded m slotId command) slotId := by
  intro hloaded
  cases command with
  | start => cases h
  | stop => cases h
  | reset => exact ⟨hloaded, rfl⟩
  | clearFault => exact ⟨hloaded, rfl⟩

variable {s : NodeNetCore} {e : Event} {x : RunExpected} {j : UInt16}

theorem slot_keepsRun (hfits : UploadFits s)
    (hcommand : ∀ command stored,
      s.answer e = some (.slotCommand command j true stored, .ok ()) → command.saves = false)
    (hbegin : ∀ r, s.answer e = some (.uploadBegin r, .ok ()) → r.slotId ≠ j)
    (hload : ∀ q, s.autoLoads e = some q → q.slotId = j → ¬ AutoLoadSucceeds s q) :
    KeepsRun (s.mem.slots j) ((s.next e).mem.slots j) j := by
  by_cases hloads : ∃ q, s.autoLoads e = some q ∧ q.slotId = j
  · obtain ⟨q, hq, rfl⟩ := hloads
    have hcontrol := autoLoad_failed (hfits.fits q (pending_of_autoLoads hq)) (hload q hq rfl)
    rw [(autoLoads_executed hq).2, KeepsRun, hcontrol]
    exact fun hloaded => ⟨hloaded, rfl⟩
  · have hstep := slotStep s e j
    generalize (s.next e).mem.slots j = m at hstep ⊢
    cases hstep with
    | kept => exact fun hloaded => ⟨hloaded, rfl⟩
    | commanded hanswer _ => exact keepsRun_of_command _ (hcommand _ _ hanswer)
    | stopped hanswer hslot _ => exact absurd hslot (hbegin _ hanswer)
    | staged _ _ _ => exact fun hloaded => ⟨hloaded, rfl⟩
    | reported _ _ => exact fun hloaded => ⟨hloaded, rfl⟩
    | refreshed _ hafter => exact keepsRun_of_refresh hafter
    | erased _ _ hcleared =>
      intro hloaded
      rw [hcleared.control] at hloaded
      cases hloaded
    | autoLoaded hq hslot _ => exact absurd ⟨_, hq, hslot⟩ hloads

theorem autoLoad_paused {mem : LoaderState} {q : PendingPlcAutoLoad}
    (h : (loadObjectFileIntoSlot mem q.slotId (mem.slots q.slotId).snapshotData
      q.objectSize).2.status = .Ok) :
    plcSlotPaused ((autoLoadSlot mem q).mem.slots q.slotId).control = !q.restoreSlotRunning := by
  have hafter := load_slot mem q.slotId (mem.slots q.slotId).snapshotData q.objectSize
  rw [autoLoadSlot]
  dsimp only
  rw [if_neg (not_not_intro h)]
  rw [h] at hafter
  generalize (loadObjectFileIntoSlot mem q.slotId (mem.slots q.slotId).snapshotData
    q.objectSize).1 = t at hafter ⊢
  generalize hm : t.slots q.slotId = m at hafter
  cases hafter with
  | refused hnot => exact absurd rfl hnot
  | unlinked hnot code _ => exact absurd rfl hnot
  | unsaved hnot _ code _ l => exact absurd rfl hnot
  | loaded _ code _ l _ =>
    have hcontrol : (t.slots q.slotId).control = loadedControlBlock q.slotId l := by
      rw [hm]
      rfl
    have hself := congrArg SlotMemory.control
      (restoreRunState_self hcontrol q.restoreSlotRunning)
    have hpaused : plcSlotPaused (autoLoadedControl q.slotId l q.restoreSlotRunning) =
        !q.restoreSlotRunning := plcSlotPaused_setPaused _ _
    split
    · have hout : q.slotId ∉ otherSlots q.slotId := fun hmem => (mem_otherSlots.mp hmem).2 rfl
      rw [refreshSlots_of_not_mem hout, hself]
      exact hpaused
    · rw [hself]
      exact hpaused

theorem setSlot_of_ne (h : j ≠ slotId) (x : RunExpected) (running : Option Bool) :
    (x.setSlot slotId running).slots j = x.slots j ∧
      (x.setSlot slotId running).held j = x.held j := ⟨if_neg h, if_neg h⟩

theorem setSlot_expected {running : Option Bool} {b : Bool}
    (h : (x.setSlot slotId running).slots j = some b) :
    j = slotId ∧ running = some b ∨ j ≠ slotId ∧ x.slots j = some b := by
  by_cases hj : j = slotId
  · exact .inl ⟨hj, (if_pos hj).symm.trans h⟩
  · exact .inr ⟨hj, (if_neg hj).symm.trans h⟩

theorem answer_of_erases {q : PendingPlcErase} (h : s.erases e = some q) : s.answer e = none := by
  cases e with
  | request r nowMs => cases h
  | advance nowMs => rfl
  | vmStart => rfl
  | vmReport slotId report => rfl
  | vmFinish => rfl

theorem idle_of_autoLoads {q : PendingPlcAutoLoad} (h : s.autoLoads e = some q) :
    s.answer e = none ∧ s.erases e = none := by
  cases e with
  | advance nowMs =>
    refine ⟨rfl, ?_⟩
    rw [NodeNetCore.autoLoads] at h
    split at h
    · rename_i hrun
      rw [NodeNetCore.erases, if_neg]
      rw [hrun.1]
      exact fun hphase => by cases hphase.1
    · cases h
  | request r nowMs => cases h
  | vmStart => cases h
  | vmReport slotId report => cases h
  | vmFinish => cases h

theorem noteExpected_slot (x : RunExpected)
    (hcommand : ∀ command stored,
      s.answer e = some (.slotCommand command j true stored, .ok ()) → command.saves = false)
    (hbegin : ∀ r, s.answer e = some (.uploadBegin r, .ok ()) → r.slotId ≠ j)
    (herase : ∀ q, s.erases e = some q → q.slotId ≠ j)
    (hload : ∀ q, s.autoLoads e = some q → q.slotId = j → ¬ AutoLoadSucceeds s q) :
    (noteExpected s (.core e) x).slots j = x.slots j ∧
      (noteExpected s (.core e) x).held j = x.held j := by
  rw [noteExpected]
  split
  · exact ⟨rfl, rfl⟩
  · rename_i command slotId stored _ hanswer
    split
    · rename_i hsaves
      refine setSlot_of_ne (fun hj => ?_) x _
      subst hj
      exact Bool.false_ne_true ((hcommand _ _ hanswer).symm.trans hsaves)
    · exact ⟨rfl, rfl⟩
  · rename_i r _ hanswer
    split
    · exact ⟨rfl, if_neg (Ne.symm (hbegin r hanswer))⟩
    · exact ⟨rfl, rfl⟩
  · rw [noteReplaced]
    split
    · rename_i q hq
      exact setSlot_of_ne (Ne.symm (herase q hq)) x none
    · rename_i q _ hq
      split
      · rename_i hsucceeds
        exact setSlot_of_ne (fun hj => hload q hq hj.symm hsucceeds) x _
      · exact ⟨rfl, rfl⟩
    · exact ⟨rfl, rfl⟩

theorem next_of_command {command : SlotCommand} {stored : Bool}
    (h : s.answer e = some (.slotCommand command slotId true stored, .ok ())) :
    slotCommandAccepted (s.mem.slots slotId).control slotId command = true ∧
      s.next e = s.command command slotId stored := by
  obtain ⟨nowMs, hreply, hnext⟩ := request_of_answer h
  obtain ⟨_, haccepted, hcommanded⟩ := command_of_ok hreply
  exact ⟨haccepted, hnext.trans hcommanded⟩

theorem command_slotRuns {command : SlotCommand} {stored : Bool} (hsaves : command.saves = true)
    (haccepted : slotCommandAccepted (s.mem.slots slotId).control slotId command = true)
    (j : UInt16) : slotRuns (s.command command slotId stored).mem j =
      if j = slotId then decide (command = .start) else slotRuns s.mem j := by
  rw [command_mem, slotRuns, updateControl_slot]
  by_cases hj : j = slotId
  · subst hj
    simp only [slotCommandAccepted, Bool.and_eq_true] at haccepted
    rw [if_pos rfl, if_pos rfl]
    have hloaded : plcControlBlockLoaded (commandedControl (s.mem.slots j) j command) j = true := by
      rw [← haccepted.1]
      cases command <;> rfl
    have hpaused : plcSlotPaused (commandedControl (s.mem.slots j) j command) =
        decide (command = .stop) := by
      cases command with
      | start => exact plcSlotPaused_setPaused (s.mem.slots j).control false
      | stop => exact plcSlotPaused_setPaused (s.mem.slots j).control true
      | reset => cases hsaves
      | clearFault => cases hsaves
    change (plcControlBlockLoaded (commandedControl (s.mem.slots j) j command) j &&
      !plcSlotPaused (commandedControl (s.mem.slots j) j command)) = _
    rw [hloaded, hpaused]
    revert hsaves
    cases command <;> decide
  · rw [if_neg hj, if_neg hj]
    rfl

/-- A loaded slot runs or is paused as it is expected, unless an upload holds it. -/
def SlotLive (s : NodeNetCore) (x : RunExpected) (j : UInt16) : Prop :=
  ∀ running, x.slots j = some running → plcControlBlockLoaded (s.mem.slots j).control j = true →
    x.held j = true ∨ plcSlotPaused (s.mem.slots j).control = !running

theorem live_of_command {command : SlotCommand} {stored : Bool}
    (hanswer : s.answer e = some (.slotCommand command j true stored, .ok ()))
    (hsaves : command.saves = true) : SlotLive (s.next e) (noteExpected s (.core e) x) j := by
  intro running hx hloaded
  obtain ⟨haccepted, hnext⟩ := next_of_command hanswer
  rw [noteExpected, hanswer] at hx
  dsimp only at hx
  rw [if_pos hsaves, RunExpected.setSlot] at hx
  dsimp only at hx
  rw [if_pos rfl, Option.some.injEq] at hx
  have hruns : slotRuns (s.command command j stored).mem j = _ :=
    command_slotRuns hsaves haccepted j
  rw [if_pos rfl, ← hnext, slotRuns, hloaded, Bool.true_and, hx] at hruns
  exact .inr (by rw [← hruns, Bool.not_not])

theorem live_of_begin (h : SlotLive s x j) {r : UploadBeginRequest}
    (hanswer : s.answer e = some (.uploadBegin r, .ok ())) (hslot : r.slotId = j) :
    SlotLive (s.next e) (noteExpected s (.core e) x) j := by
  subst hslot
  intro running hx hloaded
  obtain ⟨-, nowMs, hnext⟩ := begin_of_answer hanswer
  rw [noteExpected, hanswer] at hx ⊢
  dsimp only at hx ⊢
  by_cases hruns : slotRuns s.mem r.slotId = true
  · rw [if_pos hruns]
    exact .inl (if_pos rfl)
  · rw [if_neg hruns] at hx ⊢
    rw [hnext, beginUpload] at hloaded ⊢
    dsimp only at hloaded ⊢
    by_cases hbefore : plcControlBlockLoaded (s.mem.slots r.slotId).control r.slotId = true
    · -- the slot was paused already
      rw [slotRuns, hbefore, Bool.true_and] at hruns
      have hpaused : plcSlotPaused (s.mem.slots r.slotId).control = true := by simpa using hruns
      rw [if_pos hbefore, updateControl_self]
      refine (h running hx hbefore).imp_right fun hlive => ?_
      rw [← hlive, hpaused]
      exact plcSlotPaused_setPaused _ true
    · rw [if_neg hbefore] at hloaded
      exact absurd hloaded hbefore

theorem live_of_autoLoad {q : PendingPlcAutoLoad} (hq : s.autoLoads e = some q)
    (hslot : q.slotId = j) (hsucceeds : AutoLoadSucceeds s q) :
    SlotLive (s.next e) (noteExpected s (.core e) x) j := by
  subst hslot
  intro running hx _
  obtain ⟨hanswer, herase⟩ := idle_of_autoLoads hq
  rw [noteExpected, hanswer] at hx
  dsimp only at hx
  rw [noteReplaced, herase, hq] at hx
  dsimp only at hx
  rw [if_pos hsucceeds, RunExpected.setSlot] at hx
  dsimp only at hx
  rw [if_pos rfl, Option.some.injEq] at hx
  rw [(autoLoads_executed hq).2, autoLoad_paused hsucceeds, hx]
  exact .inr rfl

theorem SlotLive.next (h : SlotLive s x j) (hfits : UploadFits s) (e : Event) :
    SlotLive (s.next e) (noteExpected s (.core e) x) j := by
  by_cases hcommand : ∀ command stored,
      s.answer e = some (.slotCommand command j true stored, .ok ()) → command.saves = false
  case neg =>
    simp only [not_forall, Bool.not_eq_false] at hcommand
    obtain ⟨command, stored, hanswer, hsaves⟩ := hcommand
    exact live_of_command hanswer hsaves
  by_cases hbegin : ∀ r, s.answer e = some (.uploadBegin r, .ok ()) → r.slotId ≠ j
  case neg =>
    simp only [not_forall, not_not] at hbegin
    obtain ⟨r, hanswer, hslot⟩ := hbegin
    exact live_of_begin h hanswer hslot
  by_cases herase : ∀ q, s.erases e = some q → q.slotId ≠ j
  case neg =>
    simp only [not_forall, not_not] at herase
    obtain ⟨q, hq, hslot⟩ := herase
    intro running hx
    rw [noteExpected, answer_of_erases hq] at hx
    dsimp only at hx
    rw [noteReplaced, hq] at hx
    exact absurd hx (by simp [RunExpected.setSlot, hslot])
  by_cases hload : ∀ q, s.autoLoads e = some q → q.slotId = j → ¬ AutoLoadSucceeds s q
  case neg =>
    simp only [not_forall, not_not] at hload
    obtain ⟨q, hq, hslot, hsucceeds⟩ := hload
    exact live_of_autoLoad hq hslot hsucceeds
  obtain ⟨hslots, hheld⟩ := noteExpected_slot x hcommand hbegin herase hload
  intro running hx hloaded
  obtain ⟨hbefore, hpaused⟩ := slot_keepsRun hfits hcommand hbegin hload hloaded
  rw [hheld, hpaused]
  exact h running (hslots ▸ hx) hbefore

/-- An upload, in progress or waiting to be loaded, will leave its slot running, or paused. -/
def HandsBack (s : NodeNetCore) (slotId : UInt16) (running : Bool) : Prop :=
  s.session.active = true ∧ s.session.slotId = slotId ∧ s.session.restoreSlotRunning = running ∨
    ∃ q, s.pendingPlcAutoLoad = some q ∧ q.slotId = slotId ∧ q.restoreSlotRunning = running

theorem HandsBack.before {running : Bool} (h : HandsBack (s.next e) j running) :
    HandsBack s j running ∨ ∃ r, s.answer e = some (.uploadBegin r, .ok ()) ∧
      beginError s.session r = none ∧ r.slotId = j ∧ slotRuns s.mem j = running := by
  obtain ⟨hactive, hslot, hrunning⟩ | ⟨q, hq, hslot, hrunning⟩ := h
  · cases (recordStep s e).session with
    | kept hsame =>
      exact .inl (.inl ⟨hsame.active ▸ hactive, hsame.slotId ▸ hslot,
        hsame.restoreSlotRunning ▸ hrunning⟩)
    | begun r nowMs hanswer hchecked hnext =>
      rw [hnext] at hslot hrunning
      change r.slotId = j at hslot
      subst hslot
      exact .inr ⟨r, hanswer, hchecked, rfl, hrunning⟩
    | queued faults hqueued =>
      rw [hqueued.next] at hactive
      cases hactive
    | ended hreset _ =>
      rw [hreset] at hactive
      cases hactive
  · cases (recordStep s e).autoLoad with
    | kept hsame => exact .inl (.inr ⟨q, hsame ▸ hq, hslot, hrunning⟩)
    | done _ _ hnone =>
      rw [hnone] at hq
      cases hq
    | queued faults hqueued =>
      obtain ⟨_, _, hchecked⟩ := hqueued.answer
      rw [hqueued.next] at hq
      cases hq
      exact .inl (.inl ⟨(commitFits_of_accepted hchecked).active, hslot, hrunning⟩)

theorem slot_of_begun {session : PlcUploadSession} {r : UploadBeginRequest}
    (h : beginError session r = none) : r.slotId < kPlcSlotCountV1 := by
  rw [beginError] at h
  split at h
  · cases h
  · split at h
    · cases h
    · rename_i hslot
      exact UInt16.not_le.mp hslot

end NodeNet.Core

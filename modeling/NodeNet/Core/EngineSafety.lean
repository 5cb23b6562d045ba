import NodeNet.Core.EngineStep

/-! The slots are rewritten only while the engine is disabled and idle. -/
namespace NodeNet.Core
open NodeNet.Bytes NodeNet.Machine NodeNet.Nor NodeNet.Points NodeNet.Slot NodeNet.Loader
open NodeNet.Package

/-- Two control blocks of the same program, whatever its run state. -/
structure SameBlock (control control' : PlcProgramControlBlockV1) : Prop where
  magic : control'.magic = control.magic
  version : control'.version = control.version
  slotId : control'.slotId = control.slotId
  bytecodeBase : control'.bytecodeBase = control.bytecodeBase
  bytecodeSize : control'.bytecodeSize = control.bytecodeSize
  stackBase : control'.stackBase = control.stackBase
  stackSize : control'.stackSize = control.stackSize
  timerBase : control'.timerBase = control.timerBase
  timerCount : control'.timerCount = control.timerCount
  maxInstructionsPerScan : control'.maxInstructionsPerScan = control.maxInstructionsPerScan
  maxScanTimeUs : control'.maxScanTimeUs = control.maxScanTimeUs
  paramsBase : control'.paramsBase = control.paramsBase
  paramsSize : control'.paramsSize = control.paramsSize

/-- What the VM runs in the slot is unchanged: the code, the control block and the working
memory. -/
structure SameProgram (m m' : SlotMemory) : Prop where
  linkedHeader : m'.linkedHeader = m.linkedHeader
  linkedCode : m'.linkedCode = m.linkedCode
  control : SameBlock m.control m'.control
  manifest : m'.manifest = m.manifest
  stack : m'.stack = m.stack
  timers : m'.timers = m.timers
  params : m'.params = m.params
  scratch : m'.scratch = m.scratch

/-- Slots are rewritten by deferred operations alone, only while the engine is disabled and idle,
and the engine is enabled again only once the operation is done. -/
structure RewritesDisabled (s : NodeNetCore) (e : Event) : Prop where
  disabled : s.rewrites e → s.engineEnabled = false ∧ s.engineBusy = false
  rewrites : ∀ j, ¬ SameProgram (s.mem.slots j) ((s.next e).mem.slots j) → s.rewrites e
  refreshed : s.refreshes e = true → (s.next e).pendingPlcRuntimeMapRefresh = false
  erased : (s.erases e).isSome → (s.next e).pendingPlcErase = none
  loaded : (s.autoLoads e).isSome → (s.next e).pendingPlcAutoLoad = none

/-- The operation is not pending, or it has saved an enabled engine and disables it again. -/
def DisablesAgain (s : NodeNetCore) (i : Deferred) : Prop := s.savedEngine i ≠ some false

/-- What enables the engine leaves no refresh pending, and no operation that will not disable the
engine again. -/
structure EnablesSafely (s : NodeNetCore) (e : Event) : Prop where
  command : ∀ stored reply, s.answer e = some (.engineEnabled true stored, reply) →
    s.pendingPlcRuntimeMapRefresh = false ∧ DisablesAgain s .erase ∧ DisablesAgain s .autoLoad
  refresh : s.refreshes e = true → s.pendingPlcRuntimeMapRestoreEngine = true →
    DisablesAgain s .erase ∧ DisablesAgain s .autoLoad
  erase : ∀ q, s.erases e = some q → q.restoreEngineEnabled = true →
    (s.pendingPlcRuntimeMapRefresh = false ∨ (eraseSlot s.mem q.slotId).relinked.isSome) ∧
      DisablesAgain s .autoLoad
  autoLoad : ∀ q, s.autoLoads e = some q → q.restoreEngineEnabled = true →
    (s.pendingPlcRuntimeMapRefresh = false ∨ (autoLoadSlot s.mem q).relinked.isSome) ∧
      DisablesAgain s .erase

theorem SameBlock.refl (control : PlcProgramControlBlockV1) : SameBlock control control :=
  ⟨rfl, rfl, rfl, rfl, rfl, rfl, rfl, rfl, rfl, rfl, rfl, rfl, rfl⟩

theorem SameProgram.refl (m : SlotMemory) : SameProgram m m :=
  ⟨rfl, rfl, .refl _, rfl, rfl, rfl, rfl, rfl⟩

theorem sameBlock_commanded (m : SlotMemory) (slotId : UInt16) (command : SlotCommand) :
    SameBlock m.control (commandedControl m slotId command) := by
  cases command <;> exact ⟨rfl, rfl, rfl, rfl, rfl, rfl, rfl, rfl, rfl, rfl, rfl, rfl, rfl⟩

theorem rewrites_of_changed (s : NodeNetCore) (e : Event) (j : UInt16)
    (h : ¬ SameProgram (s.mem.slots j) ((s.next e).mem.slots j)) : s.rewrites e := by
  have hstep := slotStep s e j
  generalize (s.next e).mem.slots j = m at hstep h
  cases hstep with
  | kept => exact absurd (.refl _) h
  | commanded _ _ =>
    exact absurd ⟨rfl, rfl, sameBlock_commanded _ j _, rfl, rfl, rfl, rfl, rfl⟩ h
  | stopped _ _ _ =>
    exact absurd ⟨rfl, rfl, sameBlock_commanded (s.mem.slots j) j .stop, rfl, rfl, rfl, rfl, rfl⟩ h
  | staged _ _ _ => exact absurd ⟨rfl, rfl, .refl _, rfl, rfl, rfl, rfl, rfl⟩ h
  | reported _ _ =>
    exact absurd ⟨rfl, rfl, ⟨rfl, rfl, rfl, rfl, rfl, rfl, rfl, rfl, rfl, rfl, rfl, rfl, rfl⟩, rfl,
      rfl, rfl, rfl, rfl⟩ h
  | refreshed hrewrites _ => exact hrewrites
  | erased hq _ _ => exact .inr (.inl (by rw [hq]; rfl))
  | autoLoaded hp _ _ => exact .inr (.inr (by rw [hp]; rfl))

/-- The engine is disabled, or every pending operation will disable it before it goes to work. -/
structure EngineGuarded (s : NodeNetCore) : Prop where
  guarded : s.engineFlag.Guarded (· ≠ .refresh)
  erase : s.phase = .eraseRun → s.pendingPlcErase.isSome → s.engineEnabled = false
  autoLoad : s.phase = .autoLoadRun → s.pendingPlcAutoLoad.isSome → s.engineEnabled = false

variable {s : NodeNetCore}

theorem EngineGuarded.refresh (h : EngineGuarded s)
    (hpending : s.pendingPlcRuntimeMapRefresh = true) : s.engineEnabled = false := by
  have hsaved : s.engineFlag.saved .refresh = some s.pendingPlcRuntimeMapRestoreEngine :=
    if_pos hpending
  cases henabled : s.engineEnabled with
  | false => rfl
  | true => exact absurd rfl (h.guarded henabled _ _ hsaved).2

variable {e : Event}

theorem EngineGuarded.erases (h : EngineGuarded s) {q : PendingPlcErase}
    (hq : s.erases e = some q) : s.engineEnabled = false ∧ s.engineBusy = false := by
  have hpending := pending_of_erases hq
  cases e with
  | advance nowMs =>
    rw [NodeNetCore.erases] at hq
    split at hq
    · rename_i hrun
      exact ⟨h.erase hrun.1 (by rw [hpending]; rfl), hrun.2⟩
    · cases hq
  | request r nowMs => cases hq
  | vmStart => cases hq
  | vmReport slotId report => cases hq
  | vmFinish => cases hq

theorem EngineGuarded.autoLoads (h : EngineGuarded s) {p : PendingPlcAutoLoad}
    (hp : s.autoLoads e = some p) : s.engineEnabled = false ∧ s.engineBusy = false := by
  have hpending := pending_of_autoLoads hp
  cases e with
  | advance nowMs =>
    rw [NodeNetCore.autoLoads] at hp
    split at hp
    · rename_i hrun
      exact ⟨h.autoLoad hrun.1 (by rw [hpending]; rfl), hrun.2⟩
    · cases hp
  | request r nowMs => cases hp
  | vmStart => cases hp
  | vmReport slotId report => cases hp
  | vmFinish => cases hp

theorem run_of_refreshes (h : s.refreshes e = true) :
    s.pendingPlcRuntimeMapRefresh = true ∧ s.engineBusy = false ∧
      (s.next e).pendingPlcRuntimeMapRefresh = false := by
  cases e with
  | advance nowMs =>
    simp only [NodeNetCore.refreshes, Bool.and_eq_true, decide_eq_true_eq, Bool.not_eq_true'] at h
    obtain ⟨⟨hphase, hpending⟩, hidle⟩ := h
    refine ⟨hpending, hidle, ?_⟩
    simp only [NodeNetCore.next, NodeNetCore.advance, hphase, hpending, hidle, Bool.not_false,
      Bool.and_true, if_true]
    rfl
  | request r nowMs => cases h
  | vmStart => cases h
  | vmReport slotId report => cases h
  | vmFinish => cases h

theorem EngineGuarded.rewrites (h : EngineGuarded s) : RewritesDisabled s e where
  disabled hrewrites := by
    rcases hrewrites with hrefresh | herase | hload
    · obtain ⟨hpending, hidle, _⟩ := run_of_refreshes hrefresh
      exact ⟨h.refresh hpending, hidle⟩
    · obtain ⟨q, hq⟩ := Option.isSome_iff_exists.mp herase
      exact h.erases hq
    · obtain ⟨p, hp⟩ := Option.isSome_iff_exists.mp hload
      exact h.autoLoads hp
  rewrites := rewrites_of_changed s e
  refreshed hrefresh := (run_of_refreshes hrefresh).2.2
  erased herase := by
    obtain ⟨q, hq⟩ := Option.isSome_iff_exists.mp herase
    exact (erases_executed hq).1
  loaded hload := by
    obtain ⟨p, hp⟩ := Option.isSome_iff_exists.mp hload
    exact (autoLoads_executed hp).1

theorem guarded_of_pending {f : SavedFlag Deferred}
    (hrefresh : f.enabled = true → f.saved .refresh = none)
    (herase : f.enabled = true → f.saved .erase ≠ some false)
    (hload : f.enabled = true → f.saved .autoLoad ≠ some false) :
    f.Guarded (· ≠ .refresh) := by
  intro henabled i saved hi
  cases i with
  | refresh =>
    rw [hrefresh henabled] at hi
    cases hi
  | erase =>
    cases saved with
    | true => exact ⟨rfl, by decide⟩
    | false => exact absurd hi (herase henabled)
  | autoLoad =>
    cases saved with
    | true => exact ⟨rfl, by decide⟩
    | false => exact absurd hi (hload henabled)

theorem saved_none_of_refresh (h : s.pendingPlcRuntimeMapRefresh = false) :
    s.engineFlag.saved .refresh = none := by
  simp [NodeNetCore.engineFlag, NodeNetCore.savedEngine, h]

theorem restore_saved {f : SavedFlag Deferred} {i j : Deferred} (h : j ≠ i) :
    (f.restore i).saved j = f.saved j := SavedFlag.setSaved_of_ne f h none

theorem restore_done (f : SavedFlag Deferred) (i : Deferred) : (f.restore i).saved i = none :=
  SavedFlag.setSaved_self f i none

theorem settled_refresh {work : SlotWork} {i : Deferred} (hi : i ≠ .refresh)
    (h : s.pendingPlcRuntimeMapRefresh = false ∨ work.relinked.isSome) :
    (settleRefresh work (s.engineFlag.restore i)).saved .refresh = none := by
  rw [settleRefresh_refresh, restore_saved (Ne.symm hi)]
  cases h with
  | inl h =>
    rw [saved_none_of_refresh h]
    split <;> rfl
  | inr h => rw [if_pos h]

theorem EngineGuarded.next_guarded (h : EngineGuarded s) (hsafe : EnablesSafely s e) :
    (s.next e).engineFlag.Guarded (· ≠ .refresh) := by
  have hstep := engineStep s e
  generalize (s.next e).engineFlag = f at hstep ⊢
  cases hstep with
  | kept => exact h.guarded
  | commanded hanswer =>
    rename_i requested stored
    cases requested with
    | false => exact SavedFlag.guarded_of_disabled rfl
    | true =>
      obtain ⟨hrefresh, herase, hload⟩ := hsafe.command stored _ hanswer
      exact guarded_of_pending (fun _ => saved_none_of_refresh hrefresh) (fun _ => herase)
        (fun _ => hload)
  | queuesErase _ => exact h.guarded.save (by decide)
  | queuesAutoLoad _ => exact h.guarded.save (by decide)
  | entersRefresh _ =>
    refine SavedFlag.guarded_of_disabled ?_
    simp [SavedFlag.disable, SavedFlag.save, SavedFlag.setSaved]
  | refreshes hrefresh =>
    have hpending := (run_of_refreshes hrefresh).1
    have hsaved : s.engineFlag.saved .refresh = some s.pendingPlcRuntimeMapRestoreEngine :=
      if_pos hpending
    have hbit : (s.engineFlag.restore .refresh).enabled = s.pendingPlcRuntimeMapRestoreEngine := by
      rw [restored_bit _ hsaved]
      exact (congrArg (· || _) (h.refresh hpending)).trans (Bool.false_or _)
    refine guarded_of_pending (fun _ => restore_done _ _) (fun henabled => ?_) (fun henabled => ?_)
    · rw [hbit] at henabled
      rw [restore_saved (by decide)]
      exact (hsafe.refresh hrefresh henabled).1
    · rw [hbit] at henabled
      rw [restore_saved (by decide)]
      exact (hsafe.refresh hrefresh henabled).2
  | disablesForErase _ => exact h.guarded.disable .erase
  | erases hq =>
    rename_i q
    have hsaved : s.engineFlag.saved .erase = some q.restoreEngineEnabled := by
      simp [NodeNetCore.engineFlag, NodeNetCore.savedEngine, pending_of_erases hq]
    have hbit : (s.engineFlag.restore .erase).enabled = q.restoreEngineEnabled := by
      rw [restored_bit _ hsaved]
      exact (congrArg (· || _) (h.erases hq).1).trans (Bool.false_or _)
    refine guarded_of_pending (fun henabled => ?_) (fun _ => ?_) (fun henabled => ?_)
    · rw [settleRefresh_enabled, hbit] at henabled
      exact settled_refresh (by decide) (hsafe.erase q hq henabled).1
    · rw [settleRefresh_other _ _ (by decide), restore_done]
      exact fun hnone => (by cases hnone)
    · rw [settleRefresh_enabled, hbit] at henabled
      rw [settleRefresh_other _ _ (by decide), restore_saved (by decide)]
      exact (hsafe.erase q hq henabled).2
  | disablesForAutoLoad _ => exact h.guarded.disable .autoLoad
  | autoLoads hp =>
    rename_i p
    have hsaved : s.engineFlag.saved .autoLoad = some p.restoreEngineEnabled := by
      simp [NodeNetCore.engineFlag, NodeNetCore.savedEngine, pending_of_autoLoads hp]
    have hbit : (s.engineFlag.restore .autoLoad).enabled = p.restoreEngineEnabled := by
      rw [restored_bit _ hsaved]
      exact (congrArg (· || _) (h.autoLoads hp).1).trans (Bool.false_or _)
    refine guarded_of_pending (fun henabled => ?_) (fun henabled => ?_) (fun _ => ?_)
    · rw [settleRefresh_enabled, hbit] at henabled
      exact settled_refresh (by decide) (hsafe.autoLoad p hp henabled).1
    · rw [settleRefresh_enabled, hbit] at henabled
      rw [settleRefresh_other _ _ (by decide), restore_saved (by decide)]
      exact (hsafe.autoLoad p hp henabled).2
    · rw [settleRefresh_other _ _ (by decide), restore_done]
      exact fun hnone => (by cases hnone)

theorem next_cases {phase : LoopPhase} (h : (s.next e).phase = phase) (hservice : phase ≠ .service)
    (hinput : phase ≠ .input) : (∃ nowMs, e = .advance nowMs ∧ s.phase.following = phase) ∨
      (s.phase = phase ∧ (s.next e).engineEnabled = s.engineEnabled ∧
        (s.next e).pendingPlcErase = s.pendingPlcErase ∧
        (s.next e).pendingPlcAutoLoad = s.pendingPlcAutoLoad) := by
  cases e with
  | request r nowMs =>
    by_cases hphase : s.phase = .service ∨ s.phase = .input
    · have hnext : s.next (.request r nowMs) = (s.handle nowMs r).1 := if_pos hphase
      rw [hnext, handle_phase] at h
      cases hphase with
      | inl hphase => exact absurd (h.symm.trans hphase) hservice
      | inr hphase => exact absurd (h.symm.trans hphase) hinput
    · have hnext : s.next (.request r nowMs) = s := if_neg hphase
      rw [hnext] at h ⊢
      exact .inr ⟨h, rfl, rfl, rfl⟩
  | advance nowMs => exact .inl ⟨nowMs, rfl, (advance_phase s nowMs).symm.trans h⟩
  | vmStart =>
    simp only [NodeNetCore.next] at h ⊢
    split at h <;> exact .inr ⟨h, by split <;> rfl, by split <;> rfl, by split <;> rfl⟩
  | vmReport slotId report =>
    simp only [NodeNetCore.next] at h ⊢
    split at h <;> exact .inr ⟨h, by split <;> rfl, by split <;> rfl, by split <;> rfl⟩
  | vmFinish => exact .inr ⟨h, rfl, rfl, rfl⟩

theorem EngineGuarded.next_erase (h : EngineGuarded s) (hphase : (s.next e).phase = .eraseRun)
    (hpending : (s.next e).pendingPlcErase.isSome) : (s.next e).engineEnabled = false := by
  cases next_cases hphase (by decide) (by decide) with
  | inl hadvance =>
    obtain ⟨nowMs, rfl, hfollowing⟩ := hadvance
    have herase : s.phase = .erase := by
      revert hfollowing
      cases s.phase <;> decide
    simp only [NodeNetCore.next, NodeNetCore.advance, herase] at hpending ⊢
    obtain ⟨q, hq⟩ := Option.isSome_iff_exists.mp hpending
    have hsaved : s.engineFlag.saved .erase = some q.restoreEngineEnabled :=
      congrArg (Option.map PendingPlcErase.restoreEngineEnabled) hq
    exact h.guarded.disabled hsaved
  | inr hkept =>
    obtain ⟨hrun, henabled, herase, _⟩ := hkept
    rw [herase] at hpending
    rw [henabled]
    exact h.erase hrun hpending

theorem EngineGuarded.next_autoLoad (h : EngineGuarded s) (hphase : (s.next e).phase = .autoLoadRun)
    (hpending : (s.next e).pendingPlcAutoLoad.isSome) : (s.next e).engineEnabled = false := by
  cases next_cases hphase (by decide) (by decide) with
  | inl hadvance =>
    obtain ⟨nowMs, rfl, hfollowing⟩ := hadvance
    have hload : s.phase = .autoLoad := by
      revert hfollowing
      cases s.phase <;> decide
    simp only [NodeNetCore.next, NodeNetCore.advance, hload] at hpending ⊢
    obtain ⟨p, hp⟩ := Option.isSome_iff_exists.mp hpending
    have hsaved : s.engineFlag.saved .autoLoad = some p.restoreEngineEnabled :=
      congrArg (Option.map PendingPlcAutoLoad.restoreEngineEnabled) hp
    exact h.guarded.disabled hsaved
  | inr hkept =>
    obtain ⟨hrun, henabled, _, hload⟩ := hkept
    rw [hload] at hpending
    rw [henabled]
    exact h.autoLoad hrun hpending

theorem EngineGuarded.step (h : EngineGuarded s) (hsafe : EnablesSafely s e) :
    EngineGuarded (s.next e) :=
  ⟨h.next_guarded hsafe, h.next_erase, h.next_autoLoad⟩

theorem engineGuarded_of_settled (h : s.Settled) : EngineGuarded s where
  guarded _ i saved hi := by
    rw [Settled.saved h i] at hi
    cases hi
  erase _ hpending := by
    rw [h.erase] at hpending
    cases hpending
  autoLoad _ hpending := by
    rw [h.autoLoad] at hpending
    cases hpending

/-- In every run in which the engine is never enabled under a pending operation, the slots are
rewritten only while the engine is disabled and idle. -/
theorem rewrites_disabled (s : NodeNetCore) (hs : s.Settled) (es : List Event)
    (h : Along NodeNetCore.next EnablesSafely s es) :
    Along NodeNetCore.next RewritesDisabled s es :=
  along_of_inv EngineGuarded (fun _ _ => EngineGuarded.step) (fun _ _ hguarded _ => hguarded.rewrites)
    (engineGuarded_of_settled hs) h

theorem enablesSafely_of_erase (hrefresh : s.pendingPlcRuntimeMapRefresh = false)
    (hload : s.pendingPlcAutoLoad = none) (herase : DisablesAgain s .erase) (e : Event) :
    EnablesSafely s e where
  command _ _ _ := ⟨hrefresh, herase, by simp [DisablesAgain, NodeNetCore.savedEngine, hload]⟩
  refresh hrefreshes := by
    have hpending := (run_of_refreshes hrefreshes).1
    rw [hrefresh] at hpending
    cases hpending
  erase _ _ _ := ⟨.inl hrefresh, by simp [DisablesAgain, NodeNetCore.savedEngine, hload]⟩
  autoLoad q hq := by
    have hpending := pending_of_autoLoads hq
    rw [hload] at hpending
    cases hpending

theorem erase_rewrites_disabled : Along NodeNetCore.next RewritesDisabled .blank
    (.request (.erase ⟨0, false⟩ noFaults) 0 :: iteration 0) := by
  have hquiet : Along NodeNetCore.next (fun s _ => s.pendingPlcRuntimeMapRefresh = false ∧
      s.pendingPlcAutoLoad = none ∧ s.savedEngine .erase ≠ some false) .blank
      (.request (.erase ⟨0, false⟩ noFaults) 0 :: iteration 0) := by decide +kernel
  exact rewrites_disabled .blank blank_settled _
    (hquiet.mono fun s e h => enablesSafely_of_erase h.1 h.2.1 h.2.2 e)

/-- A definition is added during a scan and the refresh waits for it; an erase is queued, the scan
ends, and the loop comes to the erase. -/
def eraseDuringRefresh : List Event :=
  .vmStart :: .request (.upsert ⟨⟨[0x6E], [0x70], [0x71]⟩, [], .Modbus, .Input, .Bool, 0, 0, 0, 0,
    [], 0, []⟩) 0 :: iteration 0 ++
    .request (.erase ⟨0, false⟩ noFaults) 1 :: .vmFinish :: List.replicate 6 (.advance 1)

/-- The refresh enables the engine, and the erase, which saved a disabled one, leaves it so. -/
theorem eraseDuringRefresh_not_disabled :
    ¬ Along NodeNetCore.next RewritesDisabled .blank (eraseDuringRefresh ++ [.advance 1]) := by
  intro h
  have hat : RewritesDisabled (run NodeNetCore.next .blank eraseDuringRefresh) (.advance 1) :=
    h.at_run
  have herases : ((run NodeNetCore.next .blank eraseDuringRefresh).erases (.advance 1)).isSome := by
    decide +kernel
  have henabled : (run NodeNetCore.next .blank eraseDuringRefresh).engineEnabled = true := by
    decide +kernel
  have hdisabled := (hat.disabled (.inr (.inl herases))).1
  rw [henabled] at hdisabled
  cases hdisabled

end NodeNet.Core

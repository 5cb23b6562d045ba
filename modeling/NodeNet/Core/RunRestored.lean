import NodeNet.Core.EngineCommand
import NodeNet.Core.RunExpected

/-! A reboot gives the slots and the engine the run state that was last acknowledged. -/
namespace NodeNet.Core
open NodeNet.Bytes NodeNet.Machine NodeNet.Nor NodeNet.Flash NodeNet.Slot NodeNet.ObjectFile
open NodeNet.Loader NodeNet.Package

def RestoresRunState (p : NodeNetCore × RunExpected) (e : BoardEvent) : Prop :=
  ∀ mem staging unreadable, e = .reboot mem staging unreadable →
    let s := (p.1.reboot mem staging unreadable).state
    s.engineEnabled = p.2.engine ∧ ∀ slotId running, slotId < kPlcSlotCountV1 →
      p.2.slots slotId = some running → plcControlBlockLoaded (s.mem.slots slotId).control slotId →
      plcSlotPaused (s.mem.slots slotId).control = !running

/-- No deferred operation has cleared the engine's bit for the time being. -/
def EngineShown (s : NodeNetCore) : Prop :=
  s.engineEnabled = true ∨ ∀ i, s.savedEngine i ≠ some true

/-- No slot but the commanded one has lost its program or its run state, or is under an upload that
will run it again. -/
structure SlotsShown (p : NodeNetCore × RunExpected) (commanded : Option UInt16) : Prop where
  acknowledged : ∀ j, j < kPlcSlotCountV1 → some j ≠ commanded → p.2.slots j ≠ none →
    plcControlBlockLoaded (p.1.mem.slots j).control j = true ∧ p.2.held j = false
  uploads : ∀ j running, some j ≠ commanded → HandsBack p.1 j running →
    running = slotRuns p.1.mem j

/-- The preferences are saved when the bits are as they are to stay; a command whose save fails, and
an upload when it begins, find their bit saved. -/
structure SavesInTime (p : NodeNetCore × RunExpected) (e : BoardEvent) : Prop where
  operations : ∀ e', e = .core e' → CommandsKept (p.1, p.2.engine) e'
  engine : ∀ e' requested stored reply, e = .core e' →
    p.1.answer e' = some (.engineEnabled requested stored, reply) →
    if stored then SlotsShown p none else p.1.preferences.plcEngineEnabled = requested
  command : ∀ e' command slotId stored, e = .core e' →
    p.1.answer e' = some (.slotCommand command slotId true stored, .ok ()) → command.saves = true →
    (∀ running, HandsBack p.1 slotId running → running = decide (command = .start)) ∧
      if stored then EngineShown p.1 ∧ SlotsShown p (some slotId)
      else runMaskBit p.1.preferences.plcSlotRunMask slotId = decide (command = .start)
  property : ∀ e' reply, e = .core e' → p.1.answer e' = some (.property true, reply) →
    EngineShown p.1 ∧ SlotsShown p none
  upload : ∀ e' r, e = .core e' → p.1.answer e' = some (.uploadBegin r, .ok ()) →
    runMaskBit p.1.preferences.plcSlotRunMask r.slotId = slotRuns p.1.mem r.slotId
  reboot : ∀ mem staging unreadable, e = .reboot mem staging unreadable →
    (readPackage (driver p.1.flash unreadable) staging).2.isSome ∨
      p.1.preferences.plcEngineEnabled = false

/-- The saved preferences are the acknowledged run state. -/
structure PreferencesExpected (p : NodeNetCore × RunExpected) : Prop where
  engine : p.1.preferences.plcEngineEnabled = p.2.engine
  slots : ∀ j running, j < kPlcSlotCountV1 → p.2.slots j = some running →
    runMaskBit p.1.preferences.plcSlotRunMask j = running

/-- The acknowledged run state is in the preferences, in the bits and in what the pending operations
will do to them. -/
structure RunRemembered (p : NodeNetCore × RunExpected) : Prop where
  saved : PreferencesExpected p
  engine : RemembersCommand (p.1, p.2.engine)
  live : ∀ j, j < kPlcSlotCountV1 → SlotLive p.1 p.2 j
  uploads : ∀ j running, HandsBack p.1 j running → j < kPlcSlotCountV1 ∧
    runMaskBit p.1.preferences.plcSlotRunMask j = running
  sizes : UploadFits p.1

variable {s : NodeNetCore} {e : Event} {x : RunExpected}

inductive PreferencesStep (s : NodeNetCore) (e : Event) : Prop where
  | engine {requested stored : Bool}
    (hanswer : s.answer e = some (.engineEnabled requested stored, .ok ()))
    (hnext : s.next e = NodeNetCore.savePreferences { s with engineEnabled := requested } stored)
  | command {command : SlotCommand} {slotId : UInt16} {stored : Bool}
    (hanswer : s.answer e = some (.slotCommand command slotId true stored, .ok ()))
    (hsaves : command.saves = true)
    (haccepted : slotCommandAccepted (s.mem.slots slotId).control slotId command = true)
    (hnext : s.next e = s.command command slotId stored)
  | property {stored : Bool} (hanswer : s.answer e = some (.property stored, .ok ()))
    (hnext : s.next e = s.savePreferences stored)
  | kept (hpreferences : (s.next e).preferences = s.preferences)
    (hengine : ∀ requested stored reply,
      s.answer e ≠ some (.engineEnabled requested stored, reply))
    (hcommand : ∀ command slotId stored,
      s.answer e = some (.slotCommand command slotId true stored, .ok ()) → command.saves = false)

/-- Only the engine, a command and the property touch the preferences. -/
theorem handle_preferences (s : NodeNetCore) (nowMs : UInt32) {r : Request}
    (hengine : ∀ requested stored, r ≠ .engineEnabled requested stored)
    (hcommand : ∀ command slotId requested stored, r ≠ .slotCommand command slotId requested stored)
    (hproperty : ∀ stored, r ≠ .property stored) :
    (s.handle nowMs r).1.preferences = s.preferences := by
  cases r with
  | upsert definition => rfl
  | remove id => rfl
  | engineEnabled requested stored => exact absurd rfl (hengine requested stored)
  | slotCommand command slotId requested stored =>
    exact absurd rfl (hcommand command slotId requested stored)
  | property stored => exact absurd rfl (hproperty stored)
  | erase r faults =>
    change (handlePlcEraseRequest s r faults).1.preferences = _
    rw [handlePlcEraseRequest]
    split
    · rfl
    · dsimp only
      split <;> rfl
  | uploadBegin r =>
    change (handlePlcUploadBeginRequest s r nowMs).1.preferences = _
    rw [handlePlcUploadBeginRequest]
    split <;> rfl
  | uploadData c =>
    change (handlePlcUploadDataChunk s c nowMs).1.preferences = _
    rw [handlePlcUploadDataChunk]
    repeat' split
    all_goals rfl
  | uploadDataInvalid => rfl
  | uploadCommit uploadId faults =>
    change (handlePlcUploadCommitRequest s uploadId faults).1.preferences = _
    rw [handlePlcUploadCommitRequest]
    split
    · rfl
    · dsimp only
      split <;> rfl
  | uploadAbort uploadId =>
    change (handlePlcUploadAbortRequest s uploadId).1.preferences = _
    rw [handlePlcUploadAbortRequest]
    repeat' split
    all_goals rfl
  | uploadStatus => rfl

/-- A command that is not acknowledged, or not one that is saved, keeps the preferences. -/
theorem unsaved_preferences {command : SlotCommand} {slotId : UInt16} {requested stored : Bool}
    (h : ¬ (requested = true ∧ (handleSlotCommand s command slotId requested stored).2 = .ok () ∧
      command.saves = true)) :
    (handleSlotCommand s command slotId requested stored).1.preferences = s.preferences := by
  cases handleSlotCommand_cases s command slotId requested stored with
  | inl hsame => rw [hsame]
  | inr hcommanded =>
    obtain ⟨rfl, _, hcommanded⟩ := hcommanded
    have hunsaved : command.saves = false := by
      cases hsaves : command.saves with
      | false => rfl
      | true => exact absurd ⟨rfl, by rw [hcommanded], hsaves⟩ h
    rw [hcommanded, NodeNetCore.command, hunsaved, Bool.and_false]
    rfl

theorem slotCommand_preferencesStep (hphase : s.phase = .service ∨ s.phase = .input)
    (command : SlotCommand) (slotId : UInt16) (requested stored : Bool) (nowMs : UInt32) :
    PreferencesStep s (.request (.slotCommand command slotId requested stored) nowMs) := by
  have hanswer : s.answer (.request (.slotCommand command slotId requested stored) nowMs) =
      some (_, (handleSlotCommand s command slotId requested stored).2) := answer_request hphase
  have hnext : s.next (.request (.slotCommand command slotId requested stored) nowMs) =
      (handleSlotCommand s command slotId requested stored).1 := if_pos hphase
  by_cases hdone : requested = true ∧
      (handleSlotCommand s command slotId requested stored).2 = .ok () ∧ command.saves = true
  · obtain ⟨rfl, hok, hsaves⟩ := hdone
    obtain ⟨_, haccepted, hcommand⟩ := command_of_ok hok
    rw [hok] at hanswer
    exact .command hanswer hsaves haccepted (hnext.trans hcommand)
  · refine .kept (by rw [hnext]; exact unsaved_preferences hdone)
      (fun requested' stored' reply h => ?_) (fun command' slotId' stored' h => ?_)
    · rw [hanswer] at h
      cases h
    · rw [hanswer, Option.some.injEq, Prod.mk.injEq] at h
      obtain ⟨heq, hok⟩ := h
      cases heq
      exact Bool.eq_false_iff.mpr fun hsaves => hdone ⟨rfl, hok, hsaves⟩

theorem request_preferencesStep (hphase : s.phase = .service ∨ s.phase = .input) (r : Request)
    (nowMs : UInt32) : PreferencesStep s (.request r nowMs) := by
  have hanswer : s.answer (.request r nowMs) = some (r, (s.handle nowMs r).2) :=
    answer_request hphase
  have hnext : s.next (.request r nowMs) = (s.handle nowMs r).1 := if_pos hphase
  have hkept : (∀ requested stored, r ≠ .engineEnabled requested stored) →
      (∀ command slotId requested stored, r ≠ .slotCommand command slotId requested stored) →
      (∀ stored, r ≠ .property stored) → PreferencesStep s (.request r nowMs) := by
    intro hengine hcommand hproperty
    refine .kept (by rw [hnext]; exact handle_preferences s nowMs hengine hcommand hproperty)
      (fun requested stored reply h => ?_) (fun command slotId stored h => ?_)
    · rw [hanswer, Option.some.injEq, Prod.mk.injEq] at h
      exact absurd h.1 (hengine requested stored)
    · rw [hanswer, Option.some.injEq, Prod.mk.injEq] at h
      exact absurd h.1 (hcommand command slotId true stored)
  cases r with
  | engineEnabled requested stored => exact .engine hanswer hnext
  | slotCommand command slotId requested stored =>
    exact slotCommand_preferencesStep hphase command slotId requested stored nowMs
  | property stored => exact .property hanswer hnext
  | _ => exact hkept (by simp) (by simp) (by simp)

theorem advance_preferences (s : NodeNetCore) (nowMs : UInt32) :
    (s.advance nowMs).preferences = s.preferences := by
  have h := advance_cases s nowMs
  generalize s.advance nowMs = t at h ⊢
  cases h with
  | waits phase => rfl
  | entersRefresh _ => exact (defers_enterRefresh s).preferences
  | refreshes _ _ _ => rfl
  | timesOut _ _ => rfl
  | disablesForErase _ => rfl
  | erases _ _ p _ => rfl
  | disablesForAutoLoad _ => rfl
  | autoLoads _ _ p _ => rfl

theorem preferencesStep (s : NodeNetCore) (e : Event) : PreferencesStep s e := by
  cases e with
  | request r nowMs =>
    by_cases hphase : s.phase = .service ∨ s.phase = .input
    · exact request_preferencesStep hphase r nowMs
    · have hnext : s.next (.request r nowMs) = s := if_neg hphase
      have hnone : s.answer (.request r nowMs) = none := if_neg hphase
      exact .kept (by rw [hnext]) (fun _ _ _ => by rw [hnone]; simp)
        (fun _ _ _ h => by rw [hnone] at h; cases h)
  | advance nowMs =>
    exact .kept (advance_preferences s nowMs) (fun _ _ _ h => by cases h) (fun _ _ _ h => by cases h)
  | vmStart =>
    refine .kept ?_ (fun _ _ _ h => by cases h) (fun _ _ _ h => by cases h)
    simp only [NodeNetCore.next]
    split <;> rfl
  | vmReport slotId report =>
    refine .kept ?_ (fun _ _ _ h => by cases h) (fun _ _ _ h => by cases h)
    simp only [NodeNetCore.next]
    split <;> rfl
  | vmFinish => exact .kept rfl (fun _ _ _ h => by cases h) (fun _ _ _ h => by cases h)

theorem noteReplaced_of_answer {r : Request} {reply : Reply}
    (h : s.answer e = some (r, reply)) (x : RunExpected) : noteReplaced s e x = x := by
  cases e with
  | request r nowMs => rfl
  | advance nowMs => cases h
  | vmStart => cases h
  | vmReport slotId report => cases h
  | vmFinish => cases h

theorem noteReplaced_engine (s : NodeNetCore) (e : Event) (x : RunExpected) :
    (noteReplaced s e x).engine = x.engine := by
  rw [noteReplaced]
  split
  · rfl
  · split <;> rfl
  · rfl

theorem noteExpected_engine (s : NodeNetCore) (e : Event) (x : RunExpected) :
    (noteExpected s (.core e) x).engine = noteCommand s e x.engine := by
  rw [noteCommand]
  split
  · rename_i requested stored reply hanswer
    obtain ⟨_, rfl, _⟩ := request_of_answer hanswer
    rw [noteExpected, hanswer]
    rfl
  · rename_i hother
    rw [noteExpected]
    split
    · rename_i hanswer
      exact absurd hanswer (hother _ _ _)
    · split <;> rfl
    · split <;> rfl
    · exact noteReplaced_engine s e x

theorem noteExpected_before (hcommand : ∀ command slotId stored,
      s.answer e = some (.slotCommand command slotId true stored, .ok ()) → command.saves = false)
    {j : UInt16} {running : Bool} (hx : (noteExpected s (.core e) x).slots j = some running) :
    x.slots j = some running ∨ ∃ q, s.autoLoads e = some q ∧ q.slotId = j ∧
      q.restoreSlotRunning = running := by
  rw [noteExpected] at hx
  split at hx
  · exact .inl hx
  · rename_i hanswer
    rw [hcommand _ _ _ hanswer] at hx
    exact .inl hx
  · split at hx <;> exact .inl hx
  · rw [noteReplaced] at hx
    split at hx
    · obtain ⟨_, hnone⟩ | ⟨_, hsame⟩ := setSlot_expected hx
      · cases hnone
      · exact .inl hsame
    · rename_i q _ hq
      split at hx
      · obtain ⟨hslot, hrunning⟩ | ⟨_, hsame⟩ := setSlot_expected hx
        · exact .inr ⟨q, hq, hslot.symm, Option.some.inj hrunning⟩
        · exact .inl hsame
      · exact .inl hx
    · exact .inl hx

theorem saved_expected {x : RunExpected}
    (hpreferences : s.preferences = ⟨s.engineEnabled, plcSlotRunMaskSnapshot s.mem⟩)
    (hengine : s.engineEnabled = x.engine)
    (hslots : ∀ j running, j < kPlcSlotCountV1 → x.slots j = some running →
      slotRuns s.mem j = running) : PreferencesExpected (s, x) := by
  refine ⟨?_, fun j running hj hx => ?_⟩
  · rw [hpreferences]
    exact hengine
  · rw [hpreferences]
    exact (runMaskBit_snapshot s.mem hj).trans (hslots j running hj hx)

namespace RunRemembered

theorem slotRuns_eq (h : RunRemembered (s, x)) {commanded : Option UInt16}
    (hshown : SlotsShown (s, x) commanded) {j : UInt16} {running : Bool}
    (hj : j < kPlcSlotCountV1) (hne : some j ≠ commanded) (hx : x.slots j = some running) :
    slotRuns s.mem j = running := by
  obtain ⟨hloaded, hheld⟩ := hshown.acknowledged j hj hne (by rw [hx]; exact Option.some_ne_none _)
  have hlive := (h.live j hj running hx hloaded).resolve_left (by rw [hheld]; exact Bool.false_ne_true)
  rw [slotRuns, hloaded, hlive, Bool.true_and, Bool.not_not]

theorem engine_eq (h : RunRemembered (s, x)) (hshown : EngineShown s) :
    s.engineEnabled = x.engine := by
  have hremembers : s.engineFlag.Remembered ↔ x.engine = true := h.engine
  rw [Bool.eq_iff_iff, ← hremembers]
  refine ⟨.inl, fun hremembered => ?_⟩
  obtain henabled | hnone := hshown
  · exact henabled
  · exact hremembered.resolve_right fun ⟨i, hi⟩ => hnone i hi

theorem saved_command (h : RunRemembered (s, x)) {command : SlotCommand} {slotId : UInt16}
    {stored : Bool} (hsaves : command.saves = true)
    (haccepted : slotCommandAccepted (s.mem.slots slotId).control slotId command = true)
    (hcond : if stored then EngineShown s ∧ SlotsShown (s, x) (some slotId)
      else runMaskBit s.preferences.plcSlotRunMask slotId = decide (command = .start)) :
    PreferencesExpected (s.command command slotId stored,
      x.setSlot slotId (some (decide (command = .start)))) := by
  cases stored with
  | true =>
    obtain ⟨hengine, hslots⟩ := hcond
    have hpreferences : (s.command command slotId true).preferences =
        ⟨s.engineEnabled, plcSlotRunMaskSnapshot (s.command command slotId true).mem⟩ := by
      simp only [NodeNetCore.command, NodeNetCore.savePreferences, hsaves, Bool.and_true, if_true]
    refine saved_expected hpreferences (h.engine_eq hengine) fun j running hj hx => ?_
    rw [command_slotRuns hsaves haccepted]
    cases setSlot_expected hx with
    | inl hself =>
      rw [if_pos hself.1]
      exact Option.some.inj hself.2
    | inr hother =>
      rw [if_neg hother.1]
      exact h.slotRuns_eq hslots hj (fun heq => hother.1 (Option.some.inj heq)) hother.2
  | false =>
    refine ⟨h.saved.engine, fun j running hj hx => ?_⟩
    change runMaskBit s.preferences.plcSlotRunMask j = running
    cases setSlot_expected hx with
    | inl hself =>
      rw [hself.1]
      exact hcond.trans (Option.some.inj hself.2)
    | inr hother => exact h.saved.slots j running hj hother.2

theorem saved_next (h : RunRemembered (s, x)) (hs : SavesInTime (s, x) (.core e)) :
    PreferencesExpected (s.next e, noteExpected s (.core e) x) := by
  cases preferencesStep s e with
  | engine hanswer hnext =>
    rename_i requested stored
    have hnote : noteExpected s (.core e) x = { x with engine := requested } := by
      rw [noteExpected, hanswer]
    have hcond := hs.engine e requested stored _ rfl hanswer
    rw [hnote, hnext]
    cases stored with
    | true =>
      exact saved_expected rfl rfl fun j running hj hx =>
        h.slotRuns_eq hcond hj (Option.some_ne_none j) hx
    | false => exact ⟨hcond, h.saved.slots⟩
  | command hanswer hsaves haccepted hnext =>
    rename_i command slotId stored
    have hnote : noteExpected s (.core e) x =
        x.setSlot slotId (some (decide (command = .start))) := by
      rw [noteExpected, hanswer]
      exact if_pos hsaves
    rw [hnote, hnext]
    exact h.saved_command hsaves haccepted
      (hs.command e command slotId stored rfl hanswer hsaves).2
  | property hanswer hnext =>
    rename_i stored
    have hnote : noteExpected s (.core e) x = x := by
      rw [noteExpected, hanswer]
      exact noteReplaced_of_answer hanswer x
    rw [hnote, hnext]
    cases stored with
    | true =>
      obtain ⟨hengine, hslots⟩ := hs.property e _ rfl hanswer
      exact saved_expected rfl (h.engine_eq hengine) fun j running hj hx =>
        h.slotRuns_eq hslots hj (Option.some_ne_none j) hx
    | false => exact h.saved
  | kept hpreferences hengine hcommand =>
    refine ⟨?_, fun j running hj hx => ?_⟩
    · have hnote : noteCommand s e x.engine = x.engine := by
        rw [noteCommand]
        split
        · rename_i hanswer
          exact absurd hanswer (hengine _ _ _)
        · rfl
      change (s.next e).preferences.plcEngineEnabled = (noteExpected s (.core e) x).engine
      rw [hpreferences, noteExpected_engine, hnote]
      exact h.saved.engine
    · change runMaskBit (s.next e).preferences.plcSlotRunMask j = running
      rw [hpreferences]
      obtain hsame | ⟨q, hq, hslot, hrunning⟩ := noteExpected_before hcommand hx
      · exact h.saved.slots j running hj hsame
      · exact (h.uploads j running (.inr ⟨q, pending_of_autoLoads hq, hslot, hrunning⟩)).2

theorem engine_next (h : RunRemembered (s, x)) (hs : SavesInTime (s, x) (.core e)) :
    RemembersCommand (s.next e, (noteExpected s (.core e) x).engine) := by
  rw [noteExpected_engine]
  exact RemembersCommand.step h.engine (hs.operations e rfl)

/-- What an upload hands back is saved until it does. -/
theorem uploads_next (h : RunRemembered (s, x)) (hs : SavesInTime (s, x) (.core e)) {j : UInt16}
    {running : Bool} (hback : HandsBack (s.next e) j running) : j < kPlcSlotCountV1 ∧
      runMaskBit (s.next e).preferences.plcSlotRunMask j = running := by
  obtain hbefore | ⟨r, hanswer, hchecked, rfl, hruns⟩ := hback.before
  case inr =>
    refine ⟨slot_of_begun hchecked, ?_⟩
    obtain ⟨-, nowMs, hnext⟩ := begin_of_answer hanswer
    rw [hnext, ← hruns]
    exact hs.upload e r rfl hanswer
  obtain ⟨hj, hmask⟩ := h.uploads j running hbefore
  refine ⟨hj, ?_⟩
  cases preferencesStep s e with
  | engine hanswer hnext =>
    rename_i requested stored
    have hcond := hs.engine e requested stored _ rfl hanswer
    rw [hnext]
    cases stored with
    | true =>
      have hshown := hcond.uploads j running (Option.some_ne_none j) hbefore
      exact (runMaskBit_snapshot s.mem hj).trans hshown.symm
    | false => exact hmask
  | command hanswer hsaves haccepted hnext =>
    rename_i command slotId stored
    obtain ⟨hsame, hcond⟩ := hs.command e command slotId stored rfl hanswer hsaves
    rw [hnext, NodeNetCore.command, NodeNetCore.savePreferences, hsaves, Bool.and_true]
    cases stored with
    | true =>
      rw [if_pos rfl] at hcond ⊢
      refine (runMaskBit_snapshot _ hj).trans ?_
      have hruns : slotRuns (s.command command slotId true).mem j = _ :=
        command_slotRuns hsaves haccepted j
      rw [command_mem] at hruns
      refine hruns.trans ?_
      by_cases hslot : j = slotId
      · rw [if_pos hslot]
        exact (hsame running (hslot ▸ hbefore)).symm
      · rw [if_neg hslot]
        exact (hcond.2.uploads j running (fun heq => hslot (Option.some.inj heq)) hbefore).symm
    | false => exact hmask
  | property hanswer hnext =>
    rename_i stored
    rw [hnext]
    cases stored with
    | true =>
      obtain ⟨-, hslots⟩ := hs.property e _ rfl hanswer
      exact (runMaskBit_snapshot s.mem hj).trans
        (hslots.uploads j running (Option.some_ne_none j) hbefore).symm
    | false => exact hmask
  | kept hpreferences _ _ =>
    rw [hpreferences]
    exact hmask

theorem core (h : RunRemembered (s, x)) (hs : SavesInTime (s, x) (.core e)) :
    RunRemembered (s.next e, noteExpected s (.core e) x) where
  saved := h.saved_next hs
  engine := h.engine_next hs
  live j hj := (h.live j hj).next h.sizes e
  uploads _ _ hback := h.uploads_next hs hback
  sizes := h.sizes.next e

end RunRemembered

theorem refreshIfNeeded_preferences (s : NodeNetCore) :
    s.refreshIfNeeded.preferences = s.preferences := by
  rw [NodeNetCore.refreshIfNeeded]
  split
  · exact (defers_runRefresh _).preferences.trans (defers_enterRefresh s).preferences
  · exact (defers_enterRefresh s).preferences

theorem restored_preferences (s : NodeNetCore) (payload : PackagePayload) :
    (restored s payload).state.preferences = s.preferences :=
  refreshIfNeeded_preferences (restoredCore s payload)

theorem reboot_preferences (s : NodeNetCore) (mem : LoaderState) (staging : Memory)
    (unreadable : UInt32 → Bool) :
    (s.reboot mem staging unreadable).state.preferences = s.preferences := by
  obtain ⟨boot, hfresh, hreboot⟩ := reboot_cases s mem staging unreadable
  rw [← hfresh.preferences]
  cases hreboot with
  | inl hnone =>
    obtain ⟨bytes, _, hnone⟩ := hnone
    rw [hnone]
  | inr hsome =>
    obtain ⟨payload, _, hsome⟩ := hsome
    rw [hsome]
    exact restored_preferences boot payload

theorem restored_paused (s : NodeNetCore) (payload : PackagePayload)
    (hslot : slotId < kPlcSlotCountV1)
    (hloaded : plcControlBlockLoaded ((restored s payload).state.mem.slots slotId).control slotId) :
    plcSlotPaused ((restored s payload).state.mem.slots slotId).control =
      !runMaskBit s.preferences.plcSlotRunMask slotId := by
  rw [restored_slot _ _ (mem_slotIds.mpr hslot),
    refreshIfNeeded_preferences (restoredCore s payload)] at hloaded ⊢
  rw [runBitApplied] at hloaded ⊢
  split
  · exact plcSlotPaused_setPaused _ _
  · rename_i hnot
    rw [if_neg hnot] at hloaded
    exact absurd hloaded hnot

theorem refreshIfNeeded_refresh (h : s.engineBusy = false) :
    s.refreshIfNeeded.pendingPlcRuntimeMapRefresh = false := by
  have hbusy : s.enterRefresh.engineBusy = false := (defers_enterRefresh s).engineBusy.trans h
  rw [NodeNetCore.refreshIfNeeded, hbusy, Bool.not_false, Bool.and_true]
  split
  · rw [NodeNetCore.runRefresh]
  · rename_i hnot
    exact Bool.eq_false_iff.mpr hnot

theorem refreshIfNeeded_pendingPlcErase (s : NodeNetCore) :
    s.refreshIfNeeded.pendingPlcErase = s.pendingPlcErase := by
  have henter : s.enterRefresh.pendingPlcErase = s.pendingPlcErase := by
    rw [NodeNetCore.enterRefresh]
    split <;> rfl
  rw [NodeNetCore.refreshIfNeeded]
  split
  · rw [runRefresh_pendingPlcErase, henter]
  · exact henter

theorem reboot_idle (s : NodeNetCore) (mem : LoaderState) (staging : Memory)
    (unreadable : UInt32 → Bool) : (s.reboot mem staging unreadable).state.Settled ∧
      (s.reboot mem staging unreadable).state.session = .reset := by
  obtain ⟨boot, hfresh, hreboot⟩ := reboot_cases s mem staging unreadable
  cases hreboot with
  | inl hnone =>
    obtain ⟨bytes, _, hnone⟩ := hnone
    rw [hnone]
    exact ⟨⟨hfresh.erase, hfresh.autoLoad, hfresh.refresh⟩, hfresh.session⟩
  | inr hsome =>
    obtain ⟨payload, _, hsome⟩ := hsome
    rw [hsome]
    refine ⟨⟨?_, ?_, ?_⟩, ?_⟩
    · exact (refreshIfNeeded_pendingPlcErase (restoredCore boot payload)).trans hfresh.erase
    · exact (refreshIfNeeded_pendingPlcAutoLoad (restoredCore boot payload)).trans hfresh.autoLoad
    · exact refreshIfNeeded_refresh (s := restoredCore boot payload) hfresh.engineBusy
    · exact (refreshIfNeeded_session (restoredCore boot payload)).trans hfresh.session

/-- With a package, or with the engine off in the preferences, the reboot restores the run state that
they have. -/
theorem reboot_restores {s : NodeNetCore} {mem : LoaderState} {staging : Memory}
    {unreadable : UInt32 → Bool}
    (h : (readPackage (driver s.flash unreadable) staging).2.isSome ∨
      s.preferences.plcEngineEnabled = false) :
    (s.reboot mem staging unreadable).state.engineEnabled = s.preferences.plcEngineEnabled ∧
      ∀ j, j < kPlcSlotCountV1 →
        plcControlBlockLoaded ((s.reboot mem staging unreadable).state.mem.slots j).control j →
        plcSlotPaused ((s.reboot mem staging unreadable).state.mem.slots j).control =
          !runMaskBit s.preferences.plcSlotRunMask j := by
  obtain ⟨boot, hfresh, hreboot⟩ := reboot_cases s mem staging unreadable
  cases hreboot with
  | inl hnone =>
    obtain ⟨bytes, hread, hnone⟩ := hnone
    rw [hfresh.staging] at hread
    rw [hread] at h
    rw [hnone]
    refine ⟨hfresh.engineEnabled.trans (h.resolve_left nofun).symm, fun j _ hloaded => ?_⟩
    have hcleared : (boot.mem.slots j).control = .zero := by
      rw [hfresh.mem]
      rfl
    change plcControlBlockLoaded (boot.mem.slots j).control j at hloaded
    rw [hcleared] at hloaded
    cases hloaded
  | inr hsome =>
    obtain ⟨payload, _, hsome⟩ := hsome
    rw [hsome, ← hfresh.preferences]
    refine ⟨?_, fun j hj hloaded => restored_paused boot payload hj hloaded⟩
    change (restoredCore boot payload).refreshIfNeeded.preferences.plcEngineEnabled = _
    rw [refreshIfNeeded_preferences]
    rfl

namespace RunRemembered

theorem restores {p : NodeNetCore × RunExpected} {e : BoardEvent} (h : RunRemembered p)
    (hs : SavesInTime p e) : RestoresRunState p e := by
  intro mem staging unreadable he
  obtain ⟨hengine, hslots⟩ := @reboot_restores p.1 mem staging unreadable
    (hs.reboot mem staging unreadable he)
  refine ⟨hengine.trans h.saved.engine, fun slotId running hslot hx hloaded => ?_⟩
  rw [hslots slotId hslot hloaded, h.saved.slots slotId running hslot hx]

theorem not_handsBack (hsession : s.session = .reset) (hload : s.pendingPlcAutoLoad = none)
    (j : UInt16) (running : Bool) : ¬ HandsBack s j running := by
  rintro (⟨hactive, -⟩ | ⟨q, hq, -⟩)
  · rw [hsession] at hactive
    cases hactive
  · rw [hload] at hq
    cases hq

theorem reboot {mem : LoaderState} {staging : Memory} {unreadable : UInt32 → Bool}
    (h : RunRemembered (s, x)) (hs : SavesInTime (s, x) (.reboot mem staging unreadable)) :
    RunRemembered ((s.reboot mem staging unreadable).state, { x with held := fun _ => false }) := by
  obtain ⟨hsettled, hsession⟩ := reboot_idle s mem staging unreadable
  obtain ⟨hengine, hslots⟩ := h.restores hs mem staging unreadable rfl
  have hpreferences := reboot_preferences s mem staging unreadable
  refine ⟨⟨?_, ?_⟩, ?_, fun j hj running hx hloaded => .inr (hslots j running hj hx hloaded),
    fun j running hback => absurd hback (not_handsBack hsession hsettled.autoLoad j running),
    reboot_uploadFits s mem staging unreadable⟩
  · exact (congrArg Preferences.plcEngineEnabled hpreferences).trans h.saved.engine
  · intro j running hj hx
    rw [hpreferences]
    exact h.saved.slots j running hj hx
  · rw [RemembersCommand, SavedFlag.remembered_of_idle (Settled.saved hsettled)]
    exact Bool.eq_iff_iff.mp hengine

theorem start (mem : LoaderState) (staging flash : Memory) (nextPlcUploadId epoch : UInt32)
    (preferences : Preferences) : RunRemembered
      (.start mem staging flash nextPlcUploadId epoch preferences, .start preferences) where
  saved := ⟨rfl, fun _ _ _ hx => by cases hx⟩
  engine := SavedFlag.remembered_of_idle (Settled.saved ⟨rfl, rfl, rfl⟩)
  live _ _ _ hx := by cases hx
  uploads j running hback := absurd hback (not_handsBack rfl rfl j running)
  sizes := uploadFits_of_idle rfl rfl

end RunRemembered

theorem reboot_disabled (h : s.preferences.plcEngineEnabled = false) (mem : LoaderState)
    (staging : Memory) (unreadable : UInt32 → Bool) :
    (s.reboot mem staging unreadable).state.engineEnabled = false := by
  obtain ⟨boot, hfresh, hreboot⟩ := reboot_cases s mem staging unreadable
  cases hreboot with
  | inl hnone =>
    obtain ⟨bytes, _, hnone⟩ := hnone
    rw [hnone]
    exact hfresh.engineEnabled
  | inr hsome =>
    obtain ⟨payload, _, hsome⟩ := hsome
    rw [hsome]
    change (restoredCore boot payload).refreshIfNeeded.preferences.plcEngineEnabled = _
    rw [refreshIfNeeded_preferences]
    exact (congrArg Preferences.plcEngineEnabled hfresh.preferences).trans h

/-- From the main loop's start on, along every run that saves the preferences in time, every reboot
restores the run state that was last acknowledged. -/
theorem restores_run_state (mem : LoaderState) (staging flash : Memory)
    (nextPlcUploadId epoch : UInt32) (preferences : Preferences) (es : List BoardEvent)
    (h : Along (observed boardNext noteExpected) SavesInTime
      (.start mem staging flash nextPlcUploadId epoch preferences, .start preferences) es) :
    Along (observed boardNext noteExpected) RestoresRunState
      (.start mem staging flash nextPlcUploadId epoch preferences, .start preferences) es := by
  refine along_of_inv RunRemembered (fun p e hp hs => ?_) (fun _ _ => RunRemembered.restores)
    (RunRemembered.start mem staging flash nextPlcUploadId epoch preferences) h
  cases e with
  | core e => exact hp.core hs
  | reboot mem staging unreadable => exact hp.reboot hs

/-- A blank board with a package in its flash. -/
def NodeNetCore.packaged : NodeNetCore :=
  NodeNetCore.blank.withPackage (savePersistedPlcSlotsPackage oneSnapshot ⟨kPlcSlotCountV1, none, 0⟩
    (fun _ => 0xFF) (fun _ => 0xFF) noFaults)

/-- The engine is disabled and a property saves the preferences before the reboot. -/
theorem disabled_restores_run_state :
    Along (observed boardNext noteExpected) RestoresRunState (.packaged, .start ⟨true, 0⟩)
      [.core (.request (.engineEnabled false true) 0), .core (.request (.property true) 0),
        .reboot .boot (fun _ => 0) fun _ => false] := by
  have hshown : ∀ s : NodeNetCore, s.session = .reset → s.pendingPlcAutoLoad = none → ∀ engine,
      SlotsShown (s, { RunExpected.start ⟨true, 0⟩ with engine := engine }) none :=
    fun s hsession hload engine => ⟨fun j _ _ hx => absurd rfl hx, fun j running _ hback =>
      absurd hback (RunRemembered.not_handsBack hsession hload j running)⟩
  refine restores_run_state .boot _ _ 1 0 ⟨true, 0⟩ _ ⟨?_, ?_, ?_, trivial⟩
  · refine ⟨fun e' he => ?_, fun e' requested stored reply he ha => ?_,
      fun e' command slotId stored he ha => (by cases he; cases ha),
      fun e' reply he ha => (by cases he; cases ha), fun e' r he ha => (by cases he; cases ha),
      fun mem staging unreadable he => (by cases he)⟩
    · cases he
      refine ⟨fun stored reply _ i => ?_, fun r faults ha => (by cases ha),
        fun uploadId faults ha => (by cases ha), fun q hq => (by cases hq),
        fun q hq => (by cases hq)⟩
      cases i <;> exact nofun
    · cases he
      cases ha
      exact hshown _ rfl rfl true
  · refine ⟨fun e' he => ?_, fun e' requested stored reply he ha => (by cases he; cases ha),
      fun e' command slotId stored he ha => (by cases he; cases ha), fun e' reply he ha => ?_,
      fun e' r he ha => (by cases he; cases ha), fun mem staging unreadable he => (by cases he)⟩
    · cases he
      exact ⟨fun stored reply ha => (by cases ha), fun r faults ha => (by cases ha),
        fun uploadId faults ha => (by cases ha), fun q hq => (by cases hq),
        fun q hq => (by cases hq)⟩
    · cases he
      refine ⟨.inr fun i => ?_, hshown _ rfl rfl false⟩
      cases i <;> exact nofun
  · refine ⟨fun e' he => (by cases he), fun e' requested stored reply he => (by cases he),
      fun e' command slotId stored he => (by cases he), fun e' reply he => (by cases he),
      fun e' r he => (by cases he), fun mem staging unreadable he => ?_⟩
    cases he
    obtain ⟨q, payload, _, _, hread⟩ :=
      reads_saved (savePackage_noFaults oneSnapshot_built fun _ => 0xFF) fun _ => 0
    exact .inl (congrArg (fun r => r.2.isSome) hread)

/-- A definition is added during a scan; while the refresh waits, a property saves the preferences.
An object is then uploaded to the flash. -/
def saveDuringRefresh : List Event :=
  .vmStart :: .request (.upsert ⟨⟨[0x6E], [0x70], [0x71]⟩, [], .Modbus, .Input, .Bool, 0, 0, 0, 0,
    [], 0, []⟩) 0 :: iteration 0 ++
    [.request (.property true) 1,
      .request (.uploadBegin ⟨0, 52, Fnv.hash emptyFile, true, true, true⟩) 1,
      .request (.uploadData ⟨1, 0, emptyFile, payloadChecksum16 emptyFile⟩) 1,
      .request (.uploadCommit 1 noFaults) 1]

/-- The bit that the refresh cleared is saved, and the reboot leaves the engine disabled. -/
theorem saveDuringRefresh_not_restored :
    ¬ Along (observed boardNext noteExpected) RestoresRunState (.blank, .start ⟨true, 0⟩)
      (saveDuringRefresh.map .core ++ [.reboot .boot (fun _ => 0) fun _ => false]) := by
  intro h
  have hengine := (h.at_run .boot (fun _ => 0) (fun _ => false) rfl).1
  have hexpected : (run (observed boardNext noteExpected) (.blank, .start ⟨true, 0⟩)
      (saveDuringRefresh.map .core)).2.engine = true := by decide +kernel
  have hsaved : (run NodeNetCore.next .blank saveDuringRefresh).preferences.plcEngineEnabled =
      false := by decide +kernel
  rw [hexpected, run_observed, run_core, reboot_disabled hsaved] at hengine
  cases hengine

end NodeNet.Core

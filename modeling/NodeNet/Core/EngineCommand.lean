import NodeNet.Core.EngineStep

/-! The engine's bit is the last command's whenever no deferred operation is pending. -/
namespace NodeNet.Core
open NodeNet.Bytes NodeNet.Machine NodeNet.Nor NodeNet.Points NodeNet.Slot NodeNet.Loader
open NodeNet.Package

/-- The value of the last engineEnabled command. -/
def noteCommand (s : NodeNetCore) (e : Event) (last : Bool) : Bool :=
  match s.answer e with
  | some (.engineEnabled requested _, _) => requested
  | _ => last

/-- When nothing is pending, the engine's bit is the last command's. -/
def FollowsCommand (p : NodeNetCore × Bool) : Prop := p.1.Settled → p.1.engineEnabled = p.2

/-- The operation did not save an enabled engine, or the bit is set or another one has saved it. -/
def Replaceable (s : NodeNetCore) (i : Deferred) : Prop :=
  s.savedEngine i = some true → s.engineFlag.RememberedBut i

theorem Replaceable.remembered {s : NodeNetCore} {i : Deferred} (h : Replaceable s i) :
    s.engineFlag.Remembered ↔ s.engineFlag.RememberedBut i := SavedFlag.remembered_iff_but h

/-- What was saved is not overtaken by a command, and not lost while it is all there is. -/
structure CommandsKept (p : NodeNetCore × Bool) (e : Event) : Prop where
  disables : ∀ stored reply, p.1.answer e = some (.engineEnabled false stored, reply) →
    ∀ i, p.1.savedEngine i ≠ some true
  erase : ∀ r faults, p.1.answer e = some (.erase r faults, .ok ()) → Replaceable p.1 .erase
  commit : ∀ uploadId faults, p.1.answer e = some (.uploadCommit uploadId faults, .ok ()) →
    Replaceable p.1 .autoLoad
  eraseRelinks : ∀ q, p.1.erases e = some q → (eraseSlot p.1.mem q.slotId).relinked.isSome →
    Replaceable p.1 .refresh
  autoLoadRelinks : ∀ q, p.1.autoLoads e = some q → (autoLoadSlot p.1.mem q).relinked.isSome →
    Replaceable p.1 .refresh

/-- The last command is what the bit and the saved bits remember. -/
def RemembersCommand (p : NodeNetCore × Bool) : Prop :=
  p.1.engineFlag.Remembered ↔ p.2 = true

theorem remembered_settleRefresh {f : SavedFlag Deferred} {work : SlotWork}
    (h : work.relinked.isSome → f.saved .refresh = some true → f.RememberedBut .refresh) :
    (settleRefresh work f).Remembered ↔ f.Remembered := by
  rw [settleRefresh]
  split
  · rename_i hrelinked
    rw [SavedFlag.remembered_drop, SavedFlag.remembered_iff_but (h hrelinked)]
  · exact Iff.rfl

theorem remembered_done {s : NodeNetCore} {work : SlotWork} {i : Deferred} (hi : i ≠ .refresh)
    (h : work.relinked.isSome → Replaceable s .refresh) :
    (settleRefresh work (s.engineFlag.restore i)).Remembered ↔ s.engineFlag.Remembered := by
  rw [remembered_settleRefresh, SavedFlag.remembered_restore]
  intro hrelinked hsaved
  rw [SavedFlag.rememberedBut_restore _ hi]
  refine h hrelinked ?_
  have hother : (s.engineFlag.restore i).saved .refresh = s.engineFlag.saved .refresh :=
    if_neg (Ne.symm hi)
  rw [hother] at hsaved
  exact hsaved

theorem commanded_engineFlag {s : NodeNetCore} {e : Event} {requested stored : Bool} {reply : Reply}
    (h : s.answer e = some (.engineEnabled requested stored, reply)) :
    (s.next e).engineFlag = s.engineFlag.command requested := by
  obtain ⟨nowMs, _, hnext⟩ := request_of_answer h
  rw [hnext]
  rfl

theorem remembered_command {f : SavedFlag Deferred} {requested : Bool}
    (h : requested = false → ∀ i, f.saved i ≠ some true) :
    (f.command requested).Remembered ↔ requested = true := by
  cases requested with
  | true => exact iff_of_true (.inl rfl) rfl
  | false =>
    refine iff_of_false (fun hremembered => ?_) Bool.false_ne_true
    cases hremembered with
    | inl henabled => cases henabled
    | inr hsaved =>
      obtain ⟨i, hi⟩ := hsaved
      exact h rfl i hi

variable {p : NodeNetCore × Bool}

theorem remembered_step {e : Event} (h : CommandsKept p e)
    (hcommand : ∀ requested stored reply,
      p.1.answer e ≠ some (.engineEnabled requested stored, reply)) :
    (p.1.next e).engineFlag.Remembered ↔ p.1.engineFlag.Remembered := by
  have hstep := engineStep p.1 e
  generalize (p.1.next e).engineFlag = f at hstep ⊢
  cases hstep with
  | kept => exact Iff.rfl
  | commanded hanswer => exact absurd hanswer (hcommand _ _ _)
  | queuesErase hqueues =>
    rw [SavedFlag.remembered_save]
    exact (h.erase _ _ hqueues.answer).remembered.symm
  | queuesAutoLoad hqueues =>
    obtain ⟨uploadId, hanswer, _⟩ := hqueues.answer
    rw [SavedFlag.remembered_save]
    exact (h.commit _ _ hanswer).remembered.symm
  | entersRefresh hdue =>
    have hnone : p.1.engineFlag.saved .refresh = none := by
      simp only [NodeNetCore.refreshDue, Bool.and_eq_true, Bool.not_eq_true'] at hdue
      simp [NodeNetCore.engineFlag, NodeNetCore.savedEngine, hdue.1.2]
    rw [SavedFlag.remembered_disable, SavedFlag.remembered_save]
    exact (SavedFlag.remembered_iff_but fun hsome => by rw [hnone] at hsome; cases hsome).symm
  | refreshes _ => exact SavedFlag.remembered_restore _ _
  | disablesForErase _ => exact SavedFlag.remembered_disable _ _
  | erases hq => exact remembered_done (by decide) (h.eraseRelinks _ hq)
  | disablesForAutoLoad _ => exact SavedFlag.remembered_disable _ _
  | autoLoads hp => exact remembered_done (by decide) (h.autoLoadRelinks _ hp)

theorem RemembersCommand.step {e : Event} (h : RemembersCommand p) (hkept : CommandsKept p e) :
    RemembersCommand (p.1.next e, noteCommand p.1 e p.2) := by
  by_cases hcommand : ∃ requested stored reply,
      p.1.answer e = some (.engineEnabled requested stored, reply)
  · obtain ⟨requested, stored, reply, hanswer⟩ := hcommand
    rw [RemembersCommand, commanded_engineFlag hanswer]
    simp only [noteCommand, hanswer]
    refine remembered_command fun hfalse => ?_
    rw [hfalse] at hanswer
    exact hkept.disables stored reply hanswer
  · have hother : ∀ requested stored reply,
        p.1.answer e ≠ some (.engineEnabled requested stored, reply) := by
      intro requested stored reply hanswer
      exact hcommand ⟨requested, stored, reply, hanswer⟩
    have hnote : noteCommand p.1 e p.2 = p.2 := by
      rw [noteCommand]
      split
      · rename_i hanswer
        exact absurd hanswer (hother _ _ _)
      · rfl
    rw [RemembersCommand, hnote]
    exact (remembered_step hkept hother).trans h

theorem followsCommand_of_remembers (h : RemembersCommand p) : FollowsCommand p := by
  intro hsettled
  have hidle := SavedFlag.remembered_of_idle (Settled.saved hsettled)
  rw [Bool.eq_iff_iff]
  exact hidle.symm.trans h

/-- After every run in which no command overtakes a saved bit and none is lost, the engine's bit is
the last command's if nothing is pending. -/
theorem engine_follows_command (s : NodeNetCore) (hs : s.Settled) (es : List Event)
    (h : Along (observed NodeNetCore.next noteCommand) CommandsKept (s, s.engineEnabled) es) :
    FollowsCommand (run (observed NodeNetCore.next noteCommand) (s, s.engineEnabled) es) := by
  refine followsCommand_of_remembers (run_inv (fun _ _ => RemembersCommand.step) ?_ h)
  exact SavedFlag.remembered_of_idle (Settled.saved hs)

theorem disabled_follows_command :
    FollowsCommand (run (observed NodeNetCore.next noteCommand) (.blank, true)
      [.request (.engineEnabled false true) 0]) := by
  refine engine_follows_command .blank blank_settled _ ⟨⟨fun stored reply _ i => ?_,
    fun r faults ha => (by cases ha), fun uploadId faults ha => (by cases ha),
    fun q hq => (by cases hq), fun q hq => (by cases hq)⟩, trivial⟩
  cases i <;> decide

/-- A definition is added during a scan; before the slots are relinked, the engine is disabled. -/
def disableDuringRefresh : List Event :=
  .vmStart :: .request (.upsert ⟨⟨[0x6E], [0x70], [0x71]⟩, [], .Modbus, .Input, .Bool, 0, 0, 0, 0,
    [], 0, []⟩) 0 :: iteration 0 ++
    .request (.engineEnabled false true) 1 :: .vmFinish :: iteration 1

/-- The refresh enables the engine again. -/
theorem disableDuringRefresh_not_follows :
    ¬ FollowsCommand (run (observed NodeNetCore.next noteCommand) (.blank, true)
      disableDuringRefresh) := by
  intro h
  have hsettled : (run NodeNetCore.next .blank disableDuringRefresh).Settled :=
    ⟨by decide +kernel, by decide +kernel, by decide +kernel⟩
  have henabled : (run NodeNetCore.next .blank disableDuringRefresh).engineEnabled = true := by
    decide +kernel
  have hlast : (run (observed NodeNetCore.next noteCommand) (.blank, true)
      disableDuringRefresh).2 = false := by decide +kernel
  rw [← run_observed noteCommand .blank true] at hsettled henabled
  have hfollows := h hsettled
  rw [henabled, hlast] at hfollows
  cases hfollows

end NodeNet.Core

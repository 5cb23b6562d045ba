import NodeNet.Plc.BatchResults

/-! What a batch whose start is refused does to the polls that follow. -/
namespace NodeNet.Plc
open NodeNet.Points NodeNet.Catalog NodeNet.Machine

/-- One poll: the clock and what the master answers, and the batches that it would start. -/
structure PollStep where
  input : LoopIn
  accepts : ModbusPollBatch → Bool

/-- The batch that an idle poll selects, with its index. -/
def selected (p : PlcState) (nowMs : UInt32) : Option (Nat × ModbusPollBatch) :=
  (selectBatch p nowMs p.core.plan.batches.length p.core.nextBatchIndex none).2.bind fun s =>
    (p.core.plan.batches[s.1]?).map fun b => (s.1, b)

def PollStep.answered (e : PollStep) (p : PlcState) : LoopIn :=
  { e.input with
    startOk := (selected p e.input.nowMs).elim false fun s => e.accepts s.2 }

def PlcState.poll (scaled : PointDefinition → UInt32 → UInt32) (p : PlcState) (e : PollStep) :
    PlcState :=
  pollNextPoint scaled p (e.answered p)

def startable (p : PlcState) (e : PollStep) (b : ModbusPollBatch) : Bool :=
  startBatchPoll p.core.modbus0 b (e.accepts b)

def batchDue (p : PlcState) (nowMs : UInt32) (b : ModbusPollBatch) : Prop :=
  batchPollUrgency p.catalog nowMs none (p.core.plan.membersOf b) ≠ none

/-- The poll selects the batch, and its start is refused. -/
structure Refused (p : PlcState) (e : PollStep) (k : Nat) (b : ModbusPollBatch) : Prop where
  idle : p.core.activeBatch = none
  selected : selected p e.input.nowMs = some (k, b)
  refused : startable p e b = false

/-- The quality that stands for a refused start. -/
def refusalError (p : PlcState) (e : PollStep) (b : ModbusPollBatch) : UInt8 :=
  if b.portIndex ≠ 0 ∨ p.core.modbus0 = false then pointQualityBadConfigError else e.input.error

/-- The batch's points carry the error and the time of the poll. -/
def Marked (p : PlcState) (e : PollStep) (b : ModbusPollBatch) (c : PointCatalog) : Prop :=
  ∀ m ∈ p.core.plan.membersOf b, ∀ x, c.entries[m.catalogIndex]? = some x →
    ReadAt b m x.definition →
      x.state.quality = refusalError p e b ∧ x.state.lastUpdateMs = e.input.nowMs

/-- Another batch is due and would be started. -/
def OtherWaits (p : PlcState) (e : PollStep) (k : Nat) : Prop :=
  ∃ j b, j ≠ k ∧ p.core.plan.batches[j]? = some b ∧ startable p e b = true ∧
    batchDue p e.input.nowMs b

/-- The batch that the last selection refused. -/
def noteRefused (p : PlcState) (e : PollStep) (last : Option Nat) : Option Nat :=
  if p.core.activeBatch = none then
    (selected p e.input.nowMs).bind fun s => if startable p e s.2 then none else some s.1
  else last

section
variable (scaled : PointDefinition → UInt32 → UInt32)

/-- A refused start does not keep the others from being polled. -/
structure PollsOn (s : PlcState × Option Nat) (e : PollStep) : Prop where
  marks : ∀ k b, Refused s.1 e k b → Marked s.1 e b (s.1.poll scaled e).catalog
  once : ∀ k b, Refused s.1 e k b → s.2 = some k → ¬OtherWaits s.1 e k
  turns : ∀ k b, Refused s.1 e k b → batchDue (s.1.poll scaled e) e.input.nowMs b →
    ¬OtherWaits s.1 e k

/-- No start is refused, or there was nothing to mark and no other batch to start. -/
def RefusalIdle (s : PlcState × Option Nat) (e : PollStep) : Prop :=
  ∀ k b, Refused s.1 e k b → Marked s.1 e b s.1.catalog ∧ ¬OtherWaits s.1 e k

end

theorem eq_or_mem_of_better {α : Type} {better : Bool} {a b : α} {chosen : Option α}
    (h : b ∈ if better = true then some a else chosen) : a = b ∨ b ∈ chosen := by
  cases better with
  | true => exact .inl (Option.some.inj h)
  | false => exact .inr h

theorem selectBatch_due {p : PlcState} {nowMs : UInt32} {attempts next : Nat}
    {chosen : Option (Nat × UInt32)}
    (h : ∀ s ∈ chosen, ∃ b, p.core.plan.batches[s.1]? = some b ∧ batchDue p nowMs b) :
    ∀ s ∈ (selectBatch p nowMs attempts next chosen).2,
      ∃ b, p.core.plan.batches[s.1]? = some b ∧ batchDue p nowMs b := by
  induction attempts generalizing next chosen with
  | zero => exact h
  | succ attempts ih =>
    rw [selectBatch]
    dsimp only
    split
    · exact ih h
    · rename_i urgency hurgency
      obtain ⟨b, hb, hurgent⟩ := Option.bind_eq_some_iff.mp hurgency
      have hdue : batchDue p nowMs b := by
        rw [batchDue, hurgent]
        exact Option.some_ne_none _
      refine ih fun s hs => ?_
      obtain rfl | hs := eq_or_mem_of_better hs
      · exact ⟨b, hb, hdue⟩
      · exact h s hs

theorem selected_due {p : PlcState} {nowMs : UInt32} {k : Nat} {b : ModbusPollBatch}
    (h : selected p nowMs = some (k, b)) :
    p.core.plan.batches[k]? = some b ∧ batchDue p nowMs b := by
  obtain ⟨s, hs, hsome⟩ := Option.bind_eq_some_iff.mp h
  obtain ⟨b', hb', heq⟩ := Option.map_eq_some_iff.mp hsome
  obtain ⟨rfl, rfl⟩ := Prod.mk.inj heq
  obtain ⟨b, hb, hdue⟩ := selectBatch_due (fun s hs => by cases hs) s hs
  rw [hb', Option.some.injEq] at hb
  exact ⟨hb', hb ▸ hdue⟩

theorem poll_of_refused {scaled : PointDefinition → UInt32 → UInt32} {p : PlcState} {e : PollStep}
    {k : Nat} {b : ModbusPollBatch} (h : Refused p e k b) :
    (p.poll scaled e).catalog = p.catalog ∧ (p.poll scaled e).core.plan = p.core.plan := by
  have hbatch := (selected_due h.selected).1
  have hsome : p.core.plan.batches ≠ [] := by
    intro hnil
    rw [hnil] at hbatch
    cases hbatch
  have hselected := h.selected
  have hanswer : (e.answered p).startOk = e.accepts b := by
    rw [PollStep.answered, hselected]
    rfl
  have hrefused := h.refused
  rw [startable, ← hanswer] at hrefused
  have htaken : (selectBatch p (e.answered p).nowMs p.core.plan.batches.length
      p.core.nextBatchIndex none).2.bind (fun s =>
        (p.core.plan.batches[s.1]?).map fun b => (s.1, b)) = some (k, b) := hselected
  rw [PlcState.poll, pollNextPoint, if_neg hsome, h.idle]
  simp only [Option.isSome_none, Bool.false_eq_true, if_false, htaken, hrefused, failActiveBatch,
    h.idle, and_self]

/-- Along every run of polls, over any plan, catalog and clock, the refused starts keep no other
batch waiting exactly when each has nothing left to mark and no other batch to start. -/
theorem polls_on_iff (scaled : PointDefinition → UInt32 → UInt32) (p : PlcState)
    (es : List PollStep) :
    Along (observed (PlcState.poll scaled) noteRefused) (PollsOn scaled) (p, none) es ↔
      Along (observed (PlcState.poll scaled) noteRefused) RefusalIdle (p, none) es := by
  refine along_iff_of_inv (fun _ => True) (fun _ _ _ _ => trivial) (fun s e _ => ?_) trivial
  constructor
  · intro h k b hrefused
    obtain ⟨hcatalog, hplan⟩ := @poll_of_refused scaled _ _ _ _ hrefused
    have hmarks := h.marks k b hrefused
    rw [hcatalog] at hmarks
    refine ⟨hmarks, h.turns k b hrefused ?_⟩
    rw [batchDue, hcatalog, hplan]
    exact (selected_due hrefused.selected).2
  · intro h
    refine ⟨fun k b hrefused => ?_, fun k b hrefused _ => (h k b hrefused).2,
      fun k b hrefused _ => (h k b hrefused).2⟩
    rw [(poll_of_refused hrefused).1]
    exact (h k b hrefused).1

def polledInput (pointId : String) (portIndex : UInt8) : PointDefinition :=
  { samplePoint pointId .Modbus [portIndex, 1, 5, 0, 1, 2, 1] with refreshMs := 100 }

/-- One input hangs on a port that is not there; the other was read half a second ago. -/
def twoPorts : PlcState :=
  run (PlcState.next fun _ bits => bits) (.start true)
    [.edit (.upsert (polledInput "here" 0)), .edit (.upsert (polledInput "absent" 1)),
      .store 0 { PointState.zero with lastUpdateMs := 500 },
      .loop ⟨0, false, false, .Idle, none, 0⟩]

def pollAt (nowMs : UInt32) : PollStep := ⟨⟨nowMs, false, false, .Idle, none, 0⟩, fun _ => true⟩

def absentBatch : ModbusPollBatch := ⟨1, 1, .DiscreteInputs, 5, 1, 1, 1⟩

/-- The absent port's input is due for longer. Its start is refused, it is not marked, and it stays
the most urgent. -/
theorem absent_not_polls_on : ¬Along (observed (PlcState.poll fun _ bits => bits) noteRefused)
    (PollsOn fun _ bits => bits) (twoPorts, none) [pollAt 1000] := by
  intro h
  have hrefused : Refused twoPorts (pollAt 1000) 1 absentBatch :=
    ⟨by decide +kernel, by decide +kernel, by decide +kernel⟩
  have hmarked := h.1.marks 1 absentBatch hrefused ⟨1, 0⟩ (by decide +kernel)
    (freshEntry (polledInput "absent" 1)) (by decide +kernel) ⟨rfl, rfl, rfl, rfl, rfl⟩
  exact absurd hmarked.2 (by decide)

end NodeNet.Plc

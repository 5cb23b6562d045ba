import NodeNet.CatalogEdits
import NodeNet.Lib.Machine
import NodeNet.Plc.PollCoverage
import NodeNet.Plc.Service

/-! When a batch starts, the poll plan is the one of the current catalog. -/
namespace NodeNet.Plc
open NodeNet.Points NodeNet.Catalog NodeNet.Machine

inductive PlcEvent where
  | edit (e : CatalogEdit)
  /-- A store from outside, of a slot or a command. -/
  | store (index : Nat) (state : PointState)
  | setModbusBatchMaxGap (maxGap : UInt16)
  | loop (i : LoopIn)

def PlcState.next (scaled : PointDefinition → UInt32 → UInt32) (p : PlcState) : PlcEvent → PlcState
  | .edit e => { p with catalog := p.catalog.edited e }
  | .store index state => { p with catalog := p.catalog.stored index state }
  | .setModbusBatchMaxGap maxGap => { p with core := p.core.setModbusBatchMaxGap maxGap }
  | .loop i => p.loop scaled i

theorem updateMembers_definitions (b : ModbusPollBatch)
    (result : ModbusPollBatchMember → PointDefinition → PointState → PointState)
    (members : List ModbusPollBatchMember) (c : PointCatalog) :
    (updateMembers b result members c).definitions = c.definitions := by
  induction members generalizing c with
  | nil => rfl
  | cons m members ih =>
    rw [updateMembers]
    cases c.entries[m.catalogIndex]? with
    | none => exact ih c
    | some e =>
      dsimp only
      by_cases hmatches : memberMatches b m e.definition = true
      · rw [if_pos hmatches, ih, updateState_getD_definitions]
      · rw [if_neg hmatches]
        exact ih c

theorem applyWritablePointState_definitions (modbus0 : Bool) (c : PointCatalog) (index : Nat)
    (i : LoopIn) : (applyWritablePointState modbus0 c index i).1.definitions = c.definitions := by
  rw [applyWritablePointState]
  cases c.entries[index]? with
  | none => rfl
  | some e =>
    dsimp only
    split
    · rfl
    · rw [updateCommandState_getD_definitions, updateState_getD_definitions]

theorem applyNextWritablePointState_frame (p : PlcState) (i : LoopIn) :
    (applyNextWritablePointState p i).1.catalog.definitions = p.catalog.definitions ∧
      ∃ next, (applyNextWritablePointState p i).1.core =
        { p.core with nextOutputApplyIndex := next } := by
  rw [applyNextWritablePointState]
  dsimp only
  split
  · exact ⟨rfl, _, rfl⟩
  · exact ⟨applyWritablePointState_definitions .., _, rfl⟩

theorem failActiveBatch_definitions (p : PlcState) (nowMs : UInt32) (error : UInt8) :
    (failActiveBatch p nowMs error).definitions = p.catalog.definitions := by
  rw [failActiveBatch]
  split
  · rfl
  · exact updateMembers_definitions ..

section
variable (scaled : PointDefinition → UInt32 → UInt32)

theorem completeActiveBatch_definitions (p : PlcState) (i : LoopIn) :
    (completeActiveBatch scaled p i).definitions = p.catalog.definitions := by
  rw [completeActiveBatch]
  split
  · rfl
  · split
    · exact updateMembers_definitions ..
    · rfl

theorem pollNextPoint_frame (p : PlcState) (i : LoopIn) :
    (pollNextPoint scaled p i).catalog.definitions = p.catalog.definitions ∧
      (pollNextPoint scaled p i).core.plan = p.core.plan ∧
      (pollNextPoint scaled p i).core.maxGap = p.core.maxGap := by
  rw [pollNextPoint]
  split
  · exact ⟨rfl, rfl, rfl⟩
  · split
    · split
      · exact ⟨rfl, rfl, rfl⟩
      · exact ⟨completeActiveBatch_definitions .., rfl, rfl⟩
      · exact ⟨failActiveBatch_definitions .., rfl, rfl⟩
      · exact ⟨failActiveBatch_definitions .., rfl, rfl⟩
      · exact ⟨rfl, rfl, rfl⟩
    · dsimp only
      split
      · exact ⟨rfl, rfl, rfl⟩
      · split
        · exact ⟨rfl, rfl, rfl⟩
        · exact ⟨failActiveBatch_definitions .., rfl, rfl⟩

theorem rebuildPollPlanIfNeeded_frame (p : PlcState) :
    (rebuildPollPlanIfNeeded p).catalog = p.catalog ∧
      (rebuildPollPlanIfNeeded p).core.maxGap = p.core.maxGap ∧
      (rebuildPollPlanIfNeeded p).core.activeBatch = p.core.activeBatch := by
  rw [rebuildPollPlanIfNeeded]
  dsimp only
  split <;> exact ⟨rfl, rfl, rfl⟩

def planUsed (p : PlcState) : PollPlan :=
  if p.core.activeBatch = none then (rebuildPollPlanIfNeeded p).core.plan else p.core.plan

theorem loop_frame (p : PlcState) (i : LoopIn) :
    (p.loop scaled i).catalog.definitions = p.catalog.definitions ∧
      (p.loop scaled i).core.plan = planUsed p ∧
      (p.loop scaled i).core.maxGap = p.core.maxGap := by
  rw [PlcState.loop, planUsed]
  obtain ⟨hcatalog, hgap, -⟩ := rebuildPollPlanIfNeeded_frame p
  obtain ⟨hdefinitions, next, hcore⟩ :=
    applyNextWritablePointState_frame (rebuildPollPlanIfNeeded p) i
  by_cases hidle : p.core.activeBatch = none
  · rw [if_pos hidle, if_pos hidle]
    dsimp only
    split
    · rw [hdefinitions, hcore, hcatalog]
      exact ⟨rfl, rfl, hgap⟩
    · obtain ⟨hdefinitions', hplan, hgap'⟩ := pollNextPoint_frame scaled
        (applyNextWritablePointState (rebuildPollPlanIfNeeded p) i).1 i
      rw [hdefinitions', hplan, hgap', hdefinitions, hcore, hcatalog]
      exact ⟨rfl, rfl, hgap⟩
  · rw [if_neg hidle, if_neg hidle]
    exact pollNextPoint_frame scaled p i

/-- The gap and the definitions that the plan was built from. -/
abbrev BuiltFrom := Option (UInt16 × List PointDefinition)

/-- An iteration begins with the hash that the plan was built under. -/
def KeepsPlan (p : PlcState) : PlcEvent → Prop
  | .loop _ => p.core.activeBatch = none ∧
      computeModbusPlanHash p.core.maxGap p.catalog.definitions = p.core.planHash
  | _ => False

instance KeepsPlan.decidable (p : PlcState) (event : PlcEvent) : Decidable (KeepsPlan p event) :=
  match event with
  | .loop _ => inferInstanceAs (Decidable (_ ∧ _))
  | .edit _ | .store _ _ | .setModbusBatchMaxGap _ => .isFalse id

def noteBuilt (p : PlcState) (event : PlcEvent) (built : BuiltFrom) : BuiltFrom :=
  match event with
  | .loop i =>
    if p.core.activeBatch = none ∧ ¬KeepsPlan p (.loop i) then
      some (p.core.maxGap, p.catalog.definitions)
    else built
  | .setModbusBatchMaxGap _ => none
  | _ => built

/-- The hash is the plan's only for the bytes that the plan was built from. -/
def NoCollision (s : PlcState × BuiltFrom) (event : PlcEvent) : Prop :=
  KeepsPlan s.1 event → ∃ built ∈ s.2,
    planHashBytes s.1.core.maxGap s.1.catalog.definitions = planHashBytes built.1 built.2

def livePoints (definitions : List PointDefinition) : List PollPoint :=
  (polledPoints definitions).filter hasRegisters

/-- The polled points are still those that the plan was built from, at the same indices. -/
def SamePolled (s : PlcState × BuiltFrom) (event : PlcEvent) : Prop :=
  KeepsPlan s.1 event → ∀ built ∈ s.2,
    planHashBytes s.1.core.maxGap s.1.catalog.definitions = planHashBytes built.1 built.2 →
      livePoints s.1.catalog.definitions = livePoints built.2

/-- The plan is the current catalog's, and it polls each point at its index and registers. -/
structure PlanFresh (p : PlcState) : Prop where
  rebuilt : p.core.plan = rebuildPollPlan p.core.maxGap p.catalog.definitions
  covers : ∀ index d, p.catalog.definitions[index]? = some d → isPolled d = true →
    modbusPointSpan (modbusRef d).toModbusRegisters ≠ 0 →
      Covered p.core.plan ⟨index, (modbusRef d).toModbusRegisters⟩

def StartsFresh (p : PlcState) (event : PlcEvent) : Prop :=
  p.core.activeBatch = none → (p.next scaled event).core.activeBatch ≠ none →
    PlanFresh (p.next scaled event)

theorem rebuilt_fresh {p : PlcState} (hsize : p.catalog.size ≤ kMaxPoints)
    (h : p.core.plan = rebuildPollPlan p.core.maxGap p.catalog.definitions) : PlanFresh p := by
  refine ⟨h, fun index d hd hpolled hspan => ?_⟩
  rw [h, rebuildPollPlan]
  refine planOf_covered _ (Nat.le_trans (length_polledPoints_le _) ?_)
    (mem_polledPoints.mpr ⟨d, hd, hpolled, rfl⟩) hspan
  rwa [PointCatalog.definitions, List.length_map]

theorem rebuildPollPlan_congr {maxGap : UInt16} {definitions definitions' : List PointDefinition}
    (h : livePoints definitions = livePoints definitions') :
    rebuildPollPlan maxGap definitions = rebuildPollPlan maxGap definitions' := by
  rw [rebuildPollPlan, rebuildPollPlan, ← planOf_filter, ← planOf_filter maxGap (polledPoints _)]
  exact congrArg (planOf maxGap) h

/-- What holds between the steps of a run. -/
structure PlanNoted (s : PlcState × BuiltFrom) : Prop where
  size : s.1.catalog.size ≤ kMaxPoints
  built : ∀ built ∈ s.2, s.1.core.maxGap = built.1 ∧
    s.1.core.plan = rebuildPollPlan built.1 built.2

variable {s : PlcState × BuiltFrom}

theorem planUsed_fresh {i : LoopIn} (h : PlanNoted s) (hcollision : NoCollision s (.loop i))
    (hpolled : SamePolled s (.loop i)) (hidle : s.1.core.activeBatch = none) :
    planUsed s.1 = rebuildPollPlan s.1.core.maxGap s.1.catalog.definitions := by
  rw [planUsed, if_pos hidle, rebuildPollPlanIfNeeded]
  dsimp only
  by_cases hhash : computeModbusPlanHash s.1.core.maxGap s.1.catalog.definitions =
      s.1.core.planHash
  · obtain ⟨built, hbuilt, hbytes⟩ := hcollision ⟨hidle, hhash⟩
    obtain ⟨hgap, hplan⟩ := h.built built hbuilt
    rw [if_pos hhash, hplan, hgap]
    exact (rebuildPollPlan_congr (hpolled ⟨hidle, hhash⟩ built hbuilt hbytes)).symm
  · rw [if_neg hhash]

theorem planUsed_noted {i : LoopIn} (h : PlanNoted s) : ∀ built ∈ noteBuilt s.1 (.loop i) s.2,
      s.1.core.maxGap = built.1 ∧ planUsed s.1 = rebuildPollPlan built.1 built.2 := by
  intro built hbuilt
  rw [noteBuilt] at hbuilt
  by_cases hidle : s.1.core.activeBatch = none
  · rw [planUsed, if_pos hidle, rebuildPollPlanIfNeeded]
    dsimp only
    by_cases hhash : computeModbusPlanHash s.1.core.maxGap s.1.catalog.definitions =
        s.1.core.planHash
    · have hkeeps : KeepsPlan s.1 (.loop i) := ⟨hidle, hhash⟩
      rw [if_neg fun hnot => hnot.2 hkeeps] at hbuilt
      rw [if_pos hhash]
      exact h.built built hbuilt
    · rw [if_pos ⟨hidle, fun hkeeps => hhash hkeeps.2⟩] at hbuilt
      obtain rfl := Option.mem_some.mp hbuilt
      rw [if_neg hhash]
      exact ⟨rfl, rfl⟩
  · rw [if_neg fun hnot => hidle hnot.1] at hbuilt
    rw [planUsed, if_neg hidle]
    exact h.built built hbuilt

theorem planNoted_step {event : PlcEvent} (h : PlanNoted s) :
    PlanNoted (observed (PlcState.next scaled) noteBuilt s event) := by
  cases event with
  | loop i =>
    obtain ⟨hdefinitions, hplan, hgap⟩ := loop_frame scaled s.1 i
    refine ⟨?_, fun built hbuilt => ?_⟩
    · change (s.1.loop scaled i).catalog.size ≤ kMaxPoints
      rw [size_eq_of_definitions hdefinitions]
      exact h.size
    · change (s.1.loop scaled i).core.maxGap = _ ∧ (s.1.loop scaled i).core.plan = _
      rw [hplan, hgap]
      exact planUsed_noted h built hbuilt
  | setModbusBatchMaxGap maxGap => exact ⟨h.size, fun built hbuilt => by cases hbuilt⟩
  | edit e => exact ⟨edited_size h.size e, h.built⟩
  | store index state => exact ⟨stored_size h.size index state, h.built⟩

theorem startsFresh_of_samePolled {event : PlcEvent} (h : PlanNoted s)
    (hcollision : NoCollision s event) (hpolled : SamePolled s event) :
    StartsFresh scaled s.1 event := by
  intro hidle hstarts
  cases event with
  | loop i =>
    obtain ⟨hdefinitions, hplan, hgap⟩ := loop_frame scaled s.1 i
    refine rebuilt_fresh (@planNoted_step scaled s (.loop i) h).size ?_
    change (s.1.loop scaled i).core.plan = rebuildPollPlan (s.1.loop scaled i).core.maxGap
      (s.1.loop scaled i).catalog.definitions
    rw [hplan, hgap, hdefinitions, planUsed_fresh h hcollision hpolled hidle]
  | _ => exact absurd hidle hstarts

/-- The service with an empty catalog. -/
def PlcState.start (modbus0 : Bool) : PlcState := ⟨.empty, .start modbus0⟩

/-- Where the edits that the hash does not see leave the polled points as they are, every batch
that is started is one of the current catalog's plan. -/
theorem started_batch_fresh (modbus0 : Bool) (events : List PlcEvent)
    (hcollision : Along (observed (PlcState.next scaled) noteBuilt) NoCollision
      (.start modbus0, none) events)
    (hpolled : Along (observed (PlcState.next scaled) noteBuilt) SamePolled
      (.start modbus0, none) events) :
    Along (PlcState.next scaled) (StartsFresh scaled) (.start modbus0) events := by
  rw [← along_observed noteBuilt (.start modbus0) none]
  have hstart : PlanNoted (.start modbus0, none) := ⟨Nat.zero_le _, fun built hb => by cases hb⟩
  refine along_of_inv PlanNoted (fun s event h _ => planNoted_step scaled h)
    (fun s event h hgood => ?_) hstart (hcollision.and hpolled)
  exact startsFresh_of_samePolled scaled h hgood.1 hgood.2

end

instance NoCollision.decidable (s : PlcState × BuiltFrom) (event : PlcEvent) :
    Decidable (NoCollision s event) :=
  inferInstanceAs (Decidable (KeepsPlan s.1 event → _))

instance SamePolled.decidable (s : PlcState × BuiltFrom) (event : PlcEvent) :
    Decidable (SamePolled s event) :=
  inferInstanceAs (Decidable (KeepsPlan s.1 event → _))

def samplePoint (pointId : String) (backend : PointBackend) (ref : List UInt8) : PointDefinition where
  id := ⟨ascii "node", ascii "io", ascii pointId⟩
  displayName := []
  backend := backend
  direction := .Input
  valueType := .Bool
  refreshMs := 0
  timeoutMs := 0
  stringCapacity := 0
  scale := 0
  unit := []
  enumDef := 0
  ref := ref

/-- A discrete input of slave 1 between two points of the node itself. -/
def samplePoints : List PlcEvent :=
  [.edit (.upsert (samplePoint "first" .Local [])),
    .edit (.upsert (samplePoint "input" .Modbus [0, 1, 5, 0, 1, 2, 1])),
    .edit (.upsert (samplePoint "last" .Local []))]

def sampleLoop (status : TransactionStatus) : PlcEvent :=
  .loop ⟨1000, true, true, status, some [1], 0⟩

def polledAround (e : CatalogEdit) : List PlcEvent :=
  samplePoints ++ [sampleLoop .Idle, sampleLoop .Success, .edit e, sampleLoop .Idle]

/-- A point that is removed after the Modbus points moves none of them. -/
theorem removedLast_fresh : Along (PlcState.next fun _ bits => bits)
    (StartsFresh fun _ bits => bits) (.start true)
    (polledAround (.remove ⟨ascii "node", ascii "io", ascii "last"⟩)) :=
  started_batch_fresh _ true _ (by decide +kernel) (by decide +kernel)

def shiftedRun : List PlcEvent := polledAround (.remove ⟨ascii "node", ascii "io", ascii "first"⟩)

/-- A point that is removed before them does, and the plan still has the old indices. -/
theorem removedFirst_stale : ¬∀ (scaled : PointDefinition → UInt32 → UInt32) (modbus0 : Bool)
    (events : List PlcEvent),
    Along (observed (PlcState.next scaled) noteBuilt) NoCollision (.start modbus0, none) events →
      Along (PlcState.next scaled) (StartsFresh scaled) (.start modbus0) events := by
  intro h
  have hfresh := h (fun _ bits => bits) true shiftedRun (by decide +kernel)
  have hlast : shiftedRun = shiftedRun.take 6 ++ [sampleLoop .Idle] := rfl
  rw [hlast] at hfresh
  have hstarted := hfresh.at_run (by decide +kernel) (by decide +kernel)
  exact absurd hstarted.rebuilt (by decide +kernel)

end NodeNet.Plc

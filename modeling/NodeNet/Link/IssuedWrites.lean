import NodeNet.Link.Converges
import NodeNet.Link.Generations
import NodeNet.Slot

/-! The writes that the SoC accepts, and what the ESP32 had cached when it sent them. -/
namespace NodeNet.Link
open NodeNet.Points NodeNet.Catalog NodeNet.Machine

def Request.isWrite : Request → Bool
  | .writeState _ _ _ => true
  | _ => false

/-- The point that a write is applied to, if the request passes the guards. -/
def writeTarget (c : PointCatalog) (pointIndex : Nat) (expectedValueType : UInt8) :
    Option PointDefinition :=
  match c.entries[pointIndex]? with
  | none => none
  | some e =>
    if expectedValueType ≠ e.definition.valueType.toByte then none else some e.definition

/-- The SoC takes a write of a slot's variable for a device's own output that is no text. -/
def acceptsVariableWrite (deviceId : Text) (definition : PointDefinition) : Bool :=
  let plcMeta := classifyPlcPointMeta definition
  definition.id.deviceId = deviceId && plcMeta.isLocal && plcMeta.hasSlot &&
    plcMeta.slotId < NodeNet.Slot.kPlcSlotCountV1 && plcMeta.pointKind = .SlotOther &&
    (definition.direction = .Output || definition.direction = .InOut) &&
    [PointValueType.Bool, .Uint16, .Int16, .Uint32, .Int32, .Float, .Enum].contains
      definition.valueType

/-- What the ESP32 had cached of the definitions when it sent a write. -/
structure Issue where
  generation : UInt32
  definitionRecords : List DefinitionRecord

/-- Of the write that waits in the mailbox, and of the one that the SoC has taken. -/
structure Issued where
  waiting : Option Issue
  served : Option Issue

def Issued.start : Issued := ⟨none, none⟩

def noteWrites (s : LinkState) (event : LinkEvent) (n : Issued) : Issued :=
  match event with
  | .poll timedOut =>
    if s.esp.pollAction s.request.isSome s.response.isSome timedOut = .sendWriteState then
      { n with waiting := some ⟨s.esp.defsGeneration, s.esp.definitionRecords⟩ }
    else n
  | .take => if s.serving = none ∧ s.response = none then { n with served := n.waiting } else n
  | _ => n

/-- A write is under way from the ESP32 to its answer. -/
def LinkState.writes (s : LinkState) : Bool :=
  s.request.any Request.isWrite || s.serving.any Request.isWrite

/-- A write is sent only when the ESP32 has the definitions of the present generation, and no edit
makes a new one while a write is under way. -/
def WritesUndisturbed (s : LinkState) : LinkEvent → Prop
  | .edit e => (s.catalog.edited e).defsGeneration = s.catalog.defsGeneration ∨
      s.writes = false ∧ s.catalog.defsGeneration ≠ 0xFFFFFFFF
  | .poll timedOut =>
    s.esp.pollAction s.request.isSome s.response.isSome timedOut = .sendWriteState →
      s.esp.defsGeneration = s.catalog.defsGeneration
  | _ => True

instance WritesUndisturbed.decidable : ∀ s event, Decidable (WritesUndisturbed s event)
  | s, .edit e => inferInstanceAs (Decidable
      ((s.catalog.edited e).defsGeneration = s.catalog.defsGeneration ∨
        s.writes = false ∧ s.catalog.defsGeneration ≠ 0xFFFFFFFF))
  | s, .poll timedOut => inferInstanceAs (Decidable
      (s.esp.pollAction s.request.isSome s.response.isSome timedOut = .sendWriteState →
        s.esp.defsGeneration = s.catalog.defsGeneration))
  | _, .update _ _ | _, .store _ _ | _, .requestFullSync | _, .runtime _ | _, .take | _, .respond _
  | _, .pump | _, .askRefresh | _, .askWrite _ _ _ => .isTrue trivial

/-- A write that the SoC accepts was sent under the present generation, and is applied to the point
whose definition the ESP32 had cached for its index. -/
def WritesHit (p : LinkState × Issued) : LinkEvent → Prop
  | .respond _ => ∀ pointIndex expectedValueType valueBits definition,
      p.1.serving = some (.writeState pointIndex expectedValueType valueBits) →
      writeTarget p.1.catalog pointIndex expectedValueType = some definition →
      ∃ issue, p.2.served = some issue ∧ issue.generation = p.1.catalog.defsGeneration ∧
        issue.definitionRecords[pointIndex]? = some (definitionRecord pointIndex definition)
  | _ => True

def Issue.Current (issue : Issue) (c : PointCatalog) : Prop :=
  issue.generation = c.defsGeneration ∧
    issue.definitionRecords = Link.definitionRecords c.definitions

theorem Issue.Current.same {issue : Issue} {c c' : PointCatalog} (h : issue.Current c)
    (hsame : SameGeneration c c') : issue.Current c' :=
  ⟨h.1.trans hsame.1.symm, by rw [h.2, hsame.2]⟩

/-- A write that is under way was sent under the present generation. -/
structure IssuedOk (s : LinkState) (n : Issued) : Prop where
  waiting : s.request.any Request.isWrite = true →
    ∃ issue, n.waiting = some issue ∧ issue.Current s.catalog
  served : s.serving.any Request.isWrite = true →
    ∃ issue, n.served = some issue ∧ issue.Current s.catalog

variable {s : LinkState} {n : Issued}

theorem IssuedOk.kept (h : IssuedOk s n) {s' : LinkState}
    (hrequest : s'.request.any Request.isWrite = true → s.request.any Request.isWrite = true)
    (hserving : s'.serving.any Request.isWrite = true → s.serving.any Request.isWrite = true)
    (hsame : SameGeneration s.catalog s'.catalog) : IssuedOk s' n where
  waiting hwrite := by
    obtain ⟨issue, hissue, hcurrent⟩ := h.waiting (hrequest hwrite)
    exact ⟨issue, hissue, hcurrent.same hsame⟩
  served hwrite := by
    obtain ⟨issue, hissue, hcurrent⟩ := h.served (hserving hwrite)
    exact ⟨issue, hissue, hcurrent.same hsame⟩

theorem sent_isWrite {p : Esp × Option Request} (hother : ∀ r, p.2 = some r → r.isWrite = false)
    (h : (s.sent p).request.any Request.isWrite = true) :
    s.request.any Request.isWrite = true := by
  rw [LinkState.sent] at h
  cases hsent : p.2 with
  | none =>
    rw [hsent] at h
    exact h
  | some r =>
    rw [hsent] at h
    cases (hother r hsent).symm.trans h

theorem sendDefs_notWrite (s : Esp) (r : Request) (h : s.sendDefsSnapshotRequest.2 = some r) :
    r.isWrite = false := by
  rw [Esp.sendDefsSnapshotRequest] at h
  split at h
  · cases h
  · cases h
    rfl

theorem sendStates_notWrite (s : Esp) (startIndex : Nat) (r : Request)
    (h : (s.sendStatesSnapshotRequest startIndex).2 = some r) : r.isWrite = false := by
  rw [Esp.sendStatesSnapshotRequest] at h
  split at h
  · cases h
  · cases h
    rfl

theorem IssuedOk.poll (h : IssuedOk s n) (hfresh : Fresh s) (timedOut : Bool)
    (hcurrent : WritesUndisturbed s (.poll timedOut)) :
    IssuedOk (s.poll timedOut) (noteWrites s (.poll timedOut) n) := by
  have hguard := s.esp.pollAction_guard s.request.isSome s.response.isSome timedOut
  rw [LinkState.poll, noteWrites]
  rw [WritesUndisturbed] at hcurrent
  generalize s.esp.pollAction _ _ _ = action at hguard hcurrent ⊢
  have hsame : SameGeneration s.catalog s.catalog := ⟨rfl, rfl⟩
  have hsent {p : Esp × Option Request} (hother : ∀ r, p.2 = some r → r.isWrite = false) :
      IssuedOk (s.sent p) n := h.kept (sent_isWrite hother) id hsame
  have hnone {esp : Esp} : IssuedOk { s with esp := esp, request := none, response := none } n :=
    h.kept (fun hwrite => by cases hwrite) id hsame
  cases action with
  | nothing => exact h
  | drain => exact h.kept id id hsame
  | resetMailbox => exact hnone
  | capsTimeout => exact hnone
  | sendCaps => exact hsent fun r hr => by cases hr; rfl
  | sendDefs => exact hsent (sendDefs_notWrite s.esp)
  | sendStates => exact hsent (sendStates_notWrite s.esp _)
  | refresh => exact hsent (sendStates_notWrite _ 0)
  | sendWriteState =>
    have hready := hguard.1
    simp only [Esp.isRuntimeIdleReady, Bool.and_eq_true] at hready
    have hgeneration := hcurrent rfl
    obtain ⟨definitions, hpast, hrecords⟩ := (hfresh hgeneration).done hready.1.1.1.1
    constructor
    · intro _
      refine ⟨_, rfl, hgeneration, ?_⟩
      rw [hrecords, hpast hgeneration]
      rfl
    · exact h.served
  | read as =>
    rw [LinkState.polled]
    cases hf : s.response with
    | none => exact h
    | some f => exact h.kept id id hsame

theorem IssuedOk.next (h : IssuedOk s n) (hfresh : Fresh s) {event : LinkEvent}
    (hundisturbed : WritesUndisturbed s event) :
    IssuedOk (s.next event) (noteWrites s event n) := by
  by_cases hedit : ∃ e, event = .edit e
  · obtain ⟨e, rfl⟩ := hedit
    obtain hkept | ⟨hnone, -⟩ := hundisturbed
    · rw [LinkState.next, edited_eq_of_generation hkept]
      exact h
    · rw [LinkState.writes, Bool.or_eq_false_iff] at hnone
      exact ⟨fun hwrite => (Esp.false_of_flag hwrite hnone.1).elim,
        fun hwrite => (Esp.false_of_flag hwrite hnone.2).elim⟩
  · have hsame := next_sameGeneration s fun e he => hedit ⟨e, he⟩
    cases event with
    | edit e => exact absurd ⟨e, rfl⟩ hedit
    | poll timedOut => exact h.poll hfresh timedOut hundisturbed
    | take =>
      rw [LinkState.next, LinkState.take, noteWrites]
      by_cases hfree : s.serving = none ∧ s.response = none
      · rw [if_pos hfree, if_pos hfree]
        exact ⟨fun hwrite => (by cases hwrite), h.waiting⟩
      · rw [if_neg hfree, if_neg hfree]
        exact h
    | respond writeStatus =>
      refine h.kept ?_ ?_ hsame
      · rw [LinkState.next, LinkState.respond]
        split <;> exact id
      · rw [LinkState.next, LinkState.respond]
        split
        · exact id
        · exact fun hwrite => by cases hwrite
    | pump =>
      refine h.kept ?_ ?_ hsame
      · rw [LinkState.next, LinkState.pump]
        split <;> exact id
      · rw [LinkState.next, LinkState.pump]
        split <;> exact id
    | askRefresh =>
      refine h.kept ?_ ?_ hsame
      · rw [LinkState.next]
        split <;> exact id
      · rw [LinkState.next]
        split <;> exact id
    | askWrite pointIndex expectedValueType valueBits =>
      refine h.kept ?_ ?_ hsame
      · rw [LinkState.next]
        split <;> exact id
      · rw [LinkState.next]
        split <;> exact id
    | update id state => exact h.kept (fun h => h) (fun h => h) hsame
    | store index state => exact h.kept id id hsame
    | requestFullSync => exact h.kept id id hsame
    | runtime resolvePointState => exact h.kept id id hsame

/-- What holds of the link and of the notes on it. -/
structure WritesOk (p : LinkState × Issued) : Prop where
  flags : p.1.esp.FlagsOk
  pipeline : defsStream.PipelineOk p.1
  generations : GenerationsOk p.1
  fresh : Fresh p.1
  issued : IssuedOk p.1 p.2

theorem WritesUndisturbed.lasts {event : LinkEvent} (h : WritesUndisturbed s event) :
    GenerationLasts s event := by
  cases event with
  | edit e => exact h.imp_right And.right
  | _ => trivial

theorem WritesOk.next {p : LinkState × Issued} (h : WritesOk p) {event : LinkEvent}
    (hundisturbed : WritesUndisturbed p.1 event) :
    WritesOk (observed LinkState.next noteWrites p event) where
  flags := flags_next h.flags event
  pipeline := Stream.pipeline_next defsStream_lawful h.pipeline h.flags event
  generations := h.generations.next hundisturbed.lasts
  fresh := h.fresh.next h.generations h.flags h.pipeline hundisturbed.lasts
  issued := h.issued.next h.fresh hundisturbed

theorem definitionRecords_get {c : PointCatalog} {i : Nat} {e : Entry}
    (h : c.entries[i]? = some e) :
    (definitionRecords c.definitions)[i]? = some (definitionRecord i e.definition) := by
  simp [definitionRecords, PointCatalog.definitions, h]

theorem WritesOk.hit {p : LinkState × Issued} (h : WritesOk p) (event : LinkEvent) :
    WritesHit p event := by
  cases event with
  | respond writeStatus =>
    intro pointIndex expectedValueType valueBits definition hserving htarget
    obtain ⟨issue, hissue, hgeneration, hrecords⟩ := h.issued.served (by rw [hserving]; rfl)
    refine ⟨issue, hissue, hgeneration, ?_⟩
    rw [writeTarget] at htarget
    split at htarget
    · cases htarget
    · rename_i e he
      split at htarget
      · cases htarget
      · cases htarget
        rw [hrecords, definitionRecords_get he]
  | _ => trivial

theorem start_writes : WritesOk (.start, .start) where
  flags := Esp.start_flags
  pipeline := Stream.start_pipeline defsStream
  generations := start_generations
  fresh := fun _ => start_defs _
  issued := ⟨fun h => (by cases h), fun h => (by cases h)⟩

/-- Where no write is sent under an older generation, and no edit disturbs one, each write that the
SoC accepts is applied to the point that the ESP32 had cached for its index. -/
theorem writes_hit {events : List LinkEvent}
    (h : Along LinkState.next WritesUndisturbed .start events) :
    Along (observed LinkState.next noteWrites) WritesHit (.start, .start) events :=
  along_of_inv WritesOk (fun _ _ hok hundisturbed => hok.next hundisturbed)
    (fun _ event hok _ => hok.hit event) start_writes ((along_observed ..).mpr h)

def slotOutput (pointId : String) : PointDefinition :=
  { samplePoint pointId "" with
    id := ⟨ascii "plc", ascii "plc.slot0", ascii pointId⟩, direction := .Output }

/-- Two variables are loaded, and the ESP32 has sent a write of the first. -/
def firstOutputWritten : List LinkEvent :=
  [.edit (.replaceSlotVariables 0 [slotOutput "a", slotOutput "b"])] ++ roundTrip ++ roundTrip ++
    roundTrip ++ roundTrip ++ [.askWrite 0 1 7, .poll false]

theorem writes_hit_first :
    (run LinkState.next .start firstOutputWritten).request = some (.writeState 0 1 7) ∧
      Along (observed LinkState.next noteWrites) WritesHit (.start, .start)
        (firstOutputWritten ++ [.take, .respond 0]) :=
  ⟨by decide +kernel, writes_hit (by decide +kernel)⟩

/-- The first variable is gone when the write is taken from the mailbox. -/
def firstOutputRemoved : List LinkEvent :=
  firstOutputWritten ++ [.edit (.replaceSlotVariables 0 [slotOutput "b"]), .take]

/-- The write is applied to the second variable, which has the index of the first. -/
theorem firstOutputRemoved_not_hit :
    acceptsVariableWrite (ascii "plc") (slotOutput "b") = true ∧
      ¬Along (observed LinkState.next noteWrites) WritesHit (.start, .start)
        (firstOutputRemoved ++ [.respond 0]) := by
  refine ⟨by decide, fun h => ?_⟩
  have hserving : (run (observed LinkState.next noteWrites) (.start, .start)
      firstOutputRemoved).1.serving = some (.writeState 0 1 7) := by
    decide +kernel
  have htarget : writeTarget (run (observed LinkState.next noteWrites) (.start, .start)
      firstOutputRemoved).1.catalog 0 1 = some (slotOutput "b") := by
    decide +kernel
  have hcached : (run (observed LinkState.next noteWrites) (.start, .start)
      firstOutputRemoved).2.served.bind (·.definitionRecords[0]?) =
        some (definitionRecord 0 (slotOutput "a")) := by
    decide +kernel
  obtain ⟨issue, hissue, -, hrecord⟩ := h.at_run 0 1 7 _ hserving htarget
  rw [hissue, Option.bind_some, hrecord] at hcached
  revert hcached
  decide

end NodeNet.Link

import NodeNet.Lib.Fnv
import NodeNet.Points

/-! The point catalog: entries in index order, the identity hash index and dirty tracking. -/
namespace NodeNet.Catalog
open NodeNet.Points

def kMaxPoints : Nat := 1024

def kIndexCapacity : Nat := 1024

structure Entry where
  definition : PointDefinition
  command : PointCommandState
  state : PointState
  deriving DecidableEq

structure PointCatalog where
  entries : List Entry
  indexSlots : Nat → Option Nat
  dirtyStateQueue : List (Nat × UInt32)
  dirtyStateFlags : Nat → Bool
  runtimeFullSyncRequired : Bool
  defsGeneration : UInt32
  statesSequence : UInt32

def PointCatalog.empty : PointCatalog := ⟨[], fun _ => none, [], fun _ => false, true, 0, 0⟩

def PointCatalog.size (c : PointCatalog) : Nat := c.entries.length

def PointCatalog.definitions (c : PointCatalog) : List PointDefinition :=
  c.entries.map (·.definition)

inductive PlcPointKind where
  | None | EngineEnabled | EngineClearFault | SlotStart | SlotStop | SlotReset
  | SlotClearFault | SlotOther
  deriving DecidableEq

structure PlcPointMeta where
  isLocal : Bool
  hasSlot : Bool
  slotId : UInt16
  pointKind : PlcPointKind
  deriving DecidableEq

def isAsciiDigit (c : UInt8) : Bool := 0x30 ≤ c && c ≤ 0x39

def slotPrefix : Text := ascii "plc.slot"

/-- The digits of a slot feature, read as a number of at most 16 bits. -/
def parseDigits (acc : Nat) : Text → Option UInt16
  | [] => some (UInt16.ofNat acc)
  | c :: cs =>
    if isAsciiDigit c then
      let acc := acc * 10 + (c.toNat - 0x30)
      if acc > 0xFFFF then none else parseDigits acc cs
    else none

def parseSlotFeatureSuffix (feature : Text) : Option UInt16 :=
  if slotPrefix.isPrefixOf feature then
    match feature.drop 8 with
    | [] => none
    | cs => parseDigits 0 cs
  else none

def kReservedPointIds : List Text :=
  ["loaded", "state", "runEnabled", "status", "cycleCounter", "faultCode", "faultInfo",
    "bytecodeSize", "loadEpoch", "objectSize", "paramsSummary", "start", "stop", "reset",
    "clearFault"].map ascii

def isTransientSlotVariable (id : PointIdentity) : Bool :=
  slotPrefix.isPrefixOf id.feature && id.feature.drop 8 ≠ [] &&
    (id.feature.drop 8).all isAsciiDigit && !kReservedPointIds.contains id.pointId &&
    id.pointId ≠ []

def classifyPlcPointMeta (definition : PointDefinition) : PlcPointMeta :=
  if definition.backend ≠ .Local then ⟨false, false, 0, .None⟩
  else if definition.id.feature = ascii "plc" then
    ⟨true, false, 0,
      if definition.id.pointId = ascii "engineEnabled" then .EngineEnabled
      else if definition.id.pointId = ascii "engineClearFault" then .EngineClearFault
      else .None⟩
  else
    match parseSlotFeatureSuffix definition.id.feature with
    | none => ⟨true, false, 0, .None⟩
    | some slotId =>
      ⟨true, true, slotId,
        if definition.id.pointId = ascii "start" then .SlotStart
        else if definition.id.pointId = ascii "stop" then .SlotStop
        else if definition.id.pointId = ascii "reset" then .SlotReset
        else if definition.id.pointId = ascii "clearFault" then .SlotClearFault
        else .SlotOther⟩

def isSlotVariablePoint (slotId : UInt16) (e : Entry) : Bool :=
  let m := classifyPlcPointMeta e.definition
  m.isLocal && m.hasSlot && m.slotId = slotId && m.pointKind = .SlotOther &&
    isTransientSlotVariable e.definition.id

/-- The slot's variables, in catalog order. -/
def slotVariables (slotId : UInt16) (c : PointCatalog) : List Entry :=
  c.entries.filter (isSlotVariablePoint slotId)

def hashIdentity (id : PointIdentity) : UInt32 :=
  Fnv.hash (id.deviceId ++ [0] ++ id.feature ++ [0] ++ id.pointId ++ [0])

def hasIdentityAt (entries : List Entry) (id : PointIdentity) (i : Nat) : Bool :=
  match entries[i]? with
  | some e => e.definition.id = id
  | none => false

def firstSlot (id : PointIdentity) : Nat := (hashIdentity id).toNat % kIndexCapacity

def nextSlot (slot : Nat) : Nat := (slot + 1) % kIndexCapacity

def lookupFrom (entries : List Entry) (slots : Nat → Option Nat) (id : PointIdentity) :
    Nat → Nat → Option Nat
  | 0, _ => none
  | probes + 1, slot =>
    match slots slot with
    | none => none
    | some i =>
      if hasIdentityAt entries id i then some i
      else lookupFrom entries slots id probes (nextSlot slot)

def PointCatalog.lookupIndex (c : PointCatalog) (id : PointIdentity) : Option Nat :=
  if c.entries = [] then none
  else lookupFrom c.entries c.indexSlots id kIndexCapacity (firstSlot id)

/-- `none` where the source returns the catalog's size. -/
def PointCatalog.findIndex (c : PointCatalog) (id : PointIdentity) : Option Nat := c.lookupIndex id

def insertFrom (entries : List Entry) (id : PointIdentity) (index : Nat) :
    Nat → Nat → (Nat → Option Nat) → Nat → Option Nat
  | 0, _, slots => slots
  | probes + 1, slot, slots =>
    match slots slot with
    | none => fun s => if s = slot then some index else slots s
    | some i =>
      if hasIdentityAt entries id i then fun s => if s = slot then some index else slots s
      else insertFrom entries id index probes (nextSlot slot) slots

def insertIndex (entries : List Entry) (slots : Nat → Option Nat) (p : Entry × Nat) :
    Nat → Option Nat :=
  insertFrom entries p.1.definition.id p.2 kIndexCapacity (firstSlot p.1.definition.id) slots

def rebuildIndex (entries : List Entry) : Nat → Option Nat :=
  entries.zipIdx.foldl (insertIndex entries) (fun _ => none)

def PointCatalog.requestRuntimeFullSync (c : PointCatalog) : PointCatalog :=
  { c with
    dirtyStateQueue := []
    dirtyStateFlags := fun _ => false
    statesSequence := if c.runtimeFullSyncRequired then c.statesSequence else c.statesSequence + 1
    runtimeFullSyncRequired := true }

def PointCatalog.acknowledgeRuntimeFullSync (c : PointCatalog) : PointCatalog :=
  { c with runtimeFullSyncRequired := false }

def PointCatalog.markStateDirty (c : PointCatalog) (index : Nat) : PointCatalog :=
  if c.size ≤ index ∨ c.runtimeFullSyncRequired ∨ c.dirtyStateFlags index then c
  else
    let c := { c with statesSequence := c.statesSequence + 1 }
    if kMaxPoints ≤ c.dirtyStateQueue.length then c.requestRuntimeFullSync
    else
      { c with
        dirtyStateQueue := c.dirtyStateQueue ++ [(index, c.statesSequence)]
        dirtyStateFlags := fun i => if i = index then true else c.dirtyStateFlags i }

def PointCatalog.popDirtyStateIndex (c : PointCatalog) : Option (Nat × PointCatalog) :=
  match c.dirtyStateQueue with
  | [] => none
  | (index, _) :: rest =>
    some (index,
      { c with
        dirtyStateQueue := rest
        dirtyStateFlags := fun i => if i = index then false else c.dirtyStateFlags i })

/-- What every change of the entry list ends with. -/
def PointCatalog.setEntries (c : PointCatalog) (entries : List Entry) : PointCatalog :=
  { c.requestRuntimeFullSync with
    entries := entries
    indexSlots := rebuildIndex entries
    defsGeneration := c.defsGeneration + 1 }

def freshEntry (definition : PointDefinition) : Entry := ⟨definition, .zero, .zero⟩

def PointCatalog.upsert (c : PointCatalog) (definition : PointDefinition) : Option PointCatalog :=
  match c.findIndex definition.id with
  | some i => some (c.setEntries (c.entries.modify i fun e => { e with definition := definition }))
  | none =>
    if kMaxPoints ≤ c.size then none
    else some (c.setEntries (c.entries ++ [freshEntry definition]))

def PointCatalog.remove (c : PointCatalog) (id : PointIdentity) : Option PointCatalog :=
  match c.findIndex id with
  | none => none
  | some i => some (c.setEntries (c.entries.eraseIdx i))

/-- An entry that the new variables of `slotId` are inserted before. -/
def isLaterSlotPoint (slotId : UInt16) (e : Entry) : Bool :=
  let m := classifyPlcPointMeta e.definition
  m.hasSlot && m.pointKind = .SlotOther && slotId < m.slotId

def replacedEntries (slotId : UInt16) (definitions : List PointDefinition)
    (entries : List Entry) : List Entry :=
  let compacted := entries.filter fun e => !isSlotVariablePoint slotId e
  let before := compacted.takeWhile fun e => !isLaterSlotPoint slotId e
  let rest := compacted.dropWhile fun e => !isLaterSlotPoint slotId e
  before ++ definitions.map freshEntry ++ rest

def floatEqual (a b : UInt32) : Bool :=
  let isNaN (w : UInt32) : Bool := 0x7F800000 < w &&& 0x7FFFFFFF
  !isNaN a && !isNaN b && (a = b || ((a ||| b) &&& 0x7FFFFFFF = 0))

/-- The comparison of the source; the scales are compared as numbers. -/
def pointDefinitionsEqual (lhs rhs : PointDefinition) : Bool :=
  lhs.id = rhs.id && lhs.displayName = rhs.displayName && lhs.backend = rhs.backend &&
    lhs.direction = rhs.direction && lhs.valueType = rhs.valueType &&
    lhs.refreshMs = rhs.refreshMs && lhs.timeoutMs = rhs.timeoutMs &&
    lhs.stringCapacity = rhs.stringCapacity && floatEqual lhs.scale rhs.scale &&
    lhs.unit = rhs.unit && lhs.enumDef = rhs.enumDef && lhs.ref = rhs.ref

def sameDefinitions : List PointDefinition → List PointDefinition → Bool
  | [], [] => true
  | lhs :: current, rhs :: definitions =>
    pointDefinitionsEqual lhs rhs && sameDefinitions current definitions
  | _, _ => false

theorem ids_of_sameDefinitions {current definitions : List PointDefinition}
    (h : sameDefinitions current definitions = true) :
    current.map (·.id) = definitions.map (·.id) := by
  induction current generalizing definitions with
  | nil =>
    cases definitions with
    | nil => rfl
    | cons d ds => cases h
  | cons lhs current ih =>
    cases definitions with
    | nil => cases h
    | cons rhs definitions =>
      rw [sameDefinitions, Bool.and_eq_true] at h
      have hid : lhs.id = rhs.id := by
        simp only [pointDefinitionsEqual, Bool.and_eq_true, decide_eq_true_eq] at h
        exact h.1.1.1.1.1.1.1.1.1.1.1.1
      rw [List.map_cons, List.map_cons, hid, ih h.2]

theorem sameDefinitions_iff {current definitions : List PointDefinition}
    (hscale : ∀ d ∈ definitions, d.scale = 0x3F800000) :
    sameDefinitions current definitions = true ↔ current = definitions := by
  have hone (scale : UInt32) : floatEqual scale 0x3F800000 = true ↔ scale = 0x3F800000 := by
    constructor
    · intro h
      simp only [floatEqual, Bool.and_eq_true, Bool.or_eq_true, decide_eq_true_eq] at h
      obtain hsame | hzero := h.2
      · exact hsame
      · have hbit := congrArg (fun w => w.toBitVec.getLsbD 23) hzero
        simp at hbit
    · rintro rfl
      decide
  induction current generalizing definitions with
  | nil => cases definitions <;> simp [sameDefinitions]
  | cons lhs current ih =>
    cases definitions with
    | nil => simp [sameDefinitions]
    | cons rhs definitions =>
      have hfirst := hscale rhs List.mem_cons_self
      rw [sameDefinitions, Bool.and_eq_true, List.cons.injEq]
      refine and_congr ?_ (ih fun d hd => hscale d (List.mem_cons_of_mem _ hd))
      cases lhs
      cases rhs
      simp only at hfirst
      subst hfirst
      simp [pointDefinitionsEqual, hone, and_assoc]

/-- The new catalog and whether it changed; `none` where the source returns false. -/
def PointCatalog.replaceSlotVariableDefinitions (c : PointCatalog) (slotId : UInt16)
    (definitions : List PointDefinition) : Option (PointCatalog × Bool) :=
  if kMaxPoints < definitions.length then none
  else
    let existing := slotVariables slotId c
    if kMaxPoints < c.size - existing.length + definitions.length then none
    else if sameDefinitions (existing.map (·.definition)) definitions then some (c, false)
    else some (c.setEntries (replacedEntries slotId definitions c.entries), true)

theorem lookupFrom_spec {entries : List Entry} {slots : Nat → Option Nat} {id : PointIdentity}
    {i probes slot : Nat} (h : lookupFrom entries slots id probes slot = some i) :
    ∃ e, entries[i]? = some e ∧ e.definition.id = id := by
  induction probes generalizing slot with
  | zero => cases h
  | succ probes ih =>
    unfold lookupFrom at h
    split at h
    · cases h
    · rename_i j _
      by_cases hj : hasIdentityAt entries id j = true
      · rw [if_pos hj] at h
        cases h
        unfold hasIdentityAt at hj
        split at hj
        · rename_i e he
          exact ⟨e, he, by simpa using hj⟩
        · cases hj
      · rw [if_neg hj] at h
        exact ih h

theorem findIndex_spec {c : PointCatalog} {id : PointIdentity} {i : Nat}
    (h : c.findIndex id = some i) : ∃ e, c.entries[i]? = some e ∧ e.definition.id = id := by
  unfold PointCatalog.findIndex PointCatalog.lookupIndex at h
  split at h
  · cases h
  · exact lookupFrom_spec h

theorem findIndex_lt {c : PointCatalog} {id : PointIdentity} {i : Nat}
    (h : c.findIndex id = some i) : i < c.size := by
  obtain ⟨e, he, -⟩ := findIndex_spec h
  exact (List.getElem?_eq_some_iff.mp he).1

@[simp] theorem setEntries_entries (c : PointCatalog) (es : List Entry) :
    (c.setEntries es).entries = es := rfl

@[simp] theorem setEntries_indexSlots (c : PointCatalog) (es : List Entry) :
    (c.setEntries es).indexSlots = rebuildIndex es := rfl

@[simp] theorem setEntries_size (c : PointCatalog) (es : List Entry) :
    (c.setEntries es).size = es.length := rfl

end NodeNet.Catalog

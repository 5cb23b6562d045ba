import NodeNet.CatalogIndex
import NodeNet.Lib.Arrays

/-! The parallel arrays in which the catalog keeps its points, and the edits of them. -/
namespace NodeNet.Catalog
open NodeNet.Points NodeNet.Arrays NodeNet.Json

structure CatalogStorage where
  entries : Nat → PointDefinition
  commandStates : Nat → PointCommandState
  plcPointMeta : Nat → PlcPointMeta
  pointStates : Nat → PointState
  count : Nat

/-- The definition of a cleared element; its bytes are all zero after `memset`. -/
def zeroDefinition : PointDefinition where
  id := ⟨[], [], []⟩
  displayName := []
  backend := .Local
  direction := .Input
  valueType := .Bool
  refreshMs := 0
  timeoutMs := 0
  stringCapacity := 0
  scale := 0
  unit := []
  enumDef := 0
  ref := []

def kEmptyMeta : PlcPointMeta := ⟨false, false, 0, .None⟩

namespace CatalogStorage

def cleared : CatalogStorage where
  entries _ := zeroDefinition
  commandStates _ := .zero
  plcPointMeta _ := kEmptyMeta
  pointStates _ := .zero
  count := 0

def copyPoint (s : CatalogStorage) (target source : Nat) : CatalogStorage :=
  { s with
    entries := store s.entries target (s.entries source)
    commandStates := store s.commandStates target (s.commandStates source)
    plcPointMeta := store s.plcPointMeta target (s.plcPointMeta source)
    pointStates := store s.pointStates target (s.pointStates source) }

def movePoints (s : CatalogStorage) (target source count : Nat) : CatalogStorage :=
  { s with
    entries := memmove s.entries target source count
    commandStates := memmove s.commandStates target source count
    plcPointMeta := memmove s.plcPointMeta target source count
    pointStates := memmove s.pointStates target source count }

/-- A new point in its place, with a fresh state and command state. -/
def placePoint (s : CatalogStorage) (index : Nat) (definition : PointDefinition) :
    CatalogStorage :=
  { s with
    entries := store s.entries index definition
    commandStates := store s.commandStates index .zero
    plcPointMeta := store s.plcPointMeta index (classifyPlcPointMeta definition)
    pointStates := store s.pointStates index .zero }

def placePoints (s : CatalogStorage) (start : Nat) : List PointDefinition → CatalogStorage
  | [] => s
  | definition :: rest => (s.placePoint start definition).placePoints (start + 1) rest

/-- The definition of a point that the catalog has already. -/
def storeDefinition (s : CatalogStorage) (index : Nat) (definition : PointDefinition) :
    CatalogStorage :=
  { s with
    entries := store s.entries index definition
    plcPointMeta := store s.plcPointMeta index (classifyPlcPointMeta definition) }

def appendPoint (s : CatalogStorage) (definition : PointDefinition) : CatalogStorage :=
  { s.placePoint s.count definition with count := s.count + 1 }

/-- The rest moves up, and the last element is cleared. -/
def removePoint (s : CatalogStorage) (index : Nat) : CatalogStorage :=
  let movedCount := s.count - index - 1
  let moved := if movedCount ≠ 0 then s.movePoints index (index + 1) movedCount else s
  { entries := store moved.entries (s.count - 1) { zeroDefinition with scale := 0x3F800000 }
    commandStates := store moved.commandStates (s.count - 1) .zero
    plcPointMeta := store moved.plcPointMeta (s.count - 1) kEmptyMeta
    pointStates := store moved.pointStates (s.count - 1) .zero
    count := s.count - 1 }

/-- A point that is read from a document; its states were cleared before. -/
def loadPoint (s : CatalogStorage) (definition : PointDefinition) : CatalogStorage :=
  { s.storeDefinition s.count definition with count := s.count + 1 }

def isSlotVariable (slotId : UInt16) (s : CatalogStorage) (index : Nat) : Bool :=
  let m := s.plcPointMeta index
  m.isLocal && m.hasSlot && m.slotId = slotId && m.pointKind = .SlotOther &&
    isTransientSlotVariable (s.entries index).id

end CatalogStorage

structure LayoutScan where
  existingSlotVarCount : Nat
  matchedDefinitionCount : Nat
  layoutChanged : Bool

namespace CatalogStorage

/-- One turn of the loop that compares the slot's variables with the list. -/
def scanPoint (slotId : UInt16) (definitions : List PointDefinition) (s : CatalogStorage)
    (scan : LayoutScan) (index : Nat) : LayoutScan :=
  if s.isSlotVariable slotId index then
    { existingSlotVarCount := scan.existingSlotVarCount + 1
      matchedDefinitionCount := scan.matchedDefinitionCount + 1
      layoutChanged := scan.layoutChanged ||
        match definitions[scan.matchedDefinitionCount]? with
        | none => true
        | some definition => !pointDefinitionsEqual (s.entries index) definition }
  else scan

def scanLayout (slotId : UInt16) (definitions : List PointDefinition) (s : CatalogStorage) :
    LayoutScan :=
  (List.range s.count).foldl (scanPoint slotId definitions s) ⟨0, 0, false⟩

/-- One turn of the loop that drops the slot's variables. -/
def compactPoint (slotId : UInt16) (p : CatalogStorage × Nat) (index : Nat) :
    CatalogStorage × Nat :=
  if p.1.isSlotVariable slotId index then p
  else (if p.2 ≠ index then p.1.copyPoint p.2 index else p.1, p.2 + 1)

def compactPoints (slotId : UInt16) (s : CatalogStorage) : CatalogStorage × Nat :=
  (List.range s.count).foldl (compactPoint slotId) (s, 0)

def insertPosition (slotId : UInt16) (s : CatalogStorage) (compactedCount : Nat) : Nat :=
  firstWhere (fun m => m.hasSlot && m.pointKind = .SlotOther && slotId < m.slotId)
    s.plcPointMeta compactedCount

def replacePoints (slotId : UInt16) (definitions : List PointDefinition) (s : CatalogStorage) :
    CatalogStorage :=
  let (compacted, compactedCount) := s.compactPoints slotId
  let position := compacted.insertPosition slotId compactedCount
  let roomy :=
    if position < compactedCount ∧ definitions.length ≠ 0 then
      compacted.movePoints (position + definitions.length) position (compactedCount - position)
    else compacted
  { roomy.placePoints position definitions with count := compactedCount + definitions.length }

/-- The new arrays and whether the layout changed; `none` where the source returns false. -/
def replaceSlotVariableDefinitions (slotId : UInt16) (definitions : Option (List PointDefinition))
    (s : CatalogStorage) : Option (CatalogStorage × Bool) :=
  match definitions with
  | none => none
  | some definitions =>
    if kMaxPoints < definitions.length then none
    else
      let scan := s.scanLayout slotId definitions
      if kMaxPoints < s.count - scan.existingSlotVarCount + definitions.length then none
      else if scan.layoutChanged || scan.existingSlotVarCount ≠ definitions.length then
        some (s.replacePoints slotId definitions, true)
      else some (s, false)

/-- The points, as the list of the catalog's entries has them. -/
def toEntries (s : CatalogStorage) : List Entry :=
  taken (fun i => ⟨s.entries i, s.commandStates i, s.pointStates i⟩) s.count

end CatalogStorage

structure CatalogMemory where
  storage : CatalogStorage
  browsed : BrowsedCatalog

namespace CatalogMemory

def start : CatalogMemory := ⟨.cleared, .empty⟩

/-- The result of the call, `changed_out`, and the catalog after it. -/
def replaceSlotVariableDefinitions (m : CatalogMemory) (slotId : UInt16)
    (definitions : Option (List PointDefinition)) : Bool × Bool × CatalogMemory :=
  match m.storage.replaceSlotVariableDefinitions slotId definitions with
  | none => (false, false, m)
  | some (storage, changed) =>
    (true, changed,
      if changed then
        ⟨storage, m.browsed.reindexed (m.browsed.catalog.setEntries storage.toEntries)⟩
      else m)

def upsert (m : CatalogMemory) (definition : PointDefinition) : CatalogMemory where
  storage :=
    match m.browsed.catalog.findIndex definition.id with
    | some index => m.storage.storeDefinition index definition
    | none =>
      if kMaxPoints ≤ m.storage.count then m.storage else m.storage.appendPoint definition
  browsed := (m.browsed.upsert definition).2

def remove (m : CatalogMemory) (id : PointIdentity) : CatalogMemory where
  storage :=
    match m.browsed.catalog.findIndex id with
    | some index => m.storage.removePoint index
    | none => m.storage
  browsed := (m.browsed.remove id).2

/-- The text is taken for a catalog, if only for an empty one. -/
def isTaken (library : Library) : Option Text → Bool
  | none | some [] => true
  | some json => (library.deserialize json).isSome

def loadFromJson (library : Library) (m : CatalogMemory) (json : Option Text) :
    CatalogMemory :=
  let browsed := (m.browsed.loadFromJson library json).2
  { storage :=
      if isTaken library json then
        browsed.catalog.definitions.foldl CatalogStorage.loadPoint .cleared
      else m.storage
    browsed := browsed }

end CatalogMemory

inductive MemoryOperation where
  | catalog (operation : CatalogOperation)
  | setState (index : Nat) (state : PointState)
  | setCommandState (index : Nat) (command : PointCommandState)

def CatalogMemory.operate (library : Library) (m : CatalogMemory) :
    MemoryOperation → CatalogMemory
  | .catalog (.upsert definition) => m.upsert definition
  | .catalog (.remove id) => m.remove id
  | .catalog .clear => ⟨.cleared, m.browsed.clear⟩
  | .catalog (.replaceSlotVariableDefinitions slotId definitions) =>
    (m.replaceSlotVariableDefinitions slotId (some definitions)).2.2
  | .catalog (.loadFromJson json) => m.loadFromJson library json
  | .catalog .beginBatchUpdate => { m with browsed := m.browsed.beginBatchUpdate }
  | .catalog .endBatchUpdate => { m with browsed := m.browsed.endBatchUpdate }
  | .setState index state =>
    { storage := { m.storage with pointStates := store m.storage.pointStates index state }
      browsed := { m.browsed with catalog := m.browsed.catalog.setState index state } }
  | .setCommandState index command =>
    { storage := { m.storage with commandStates := store m.storage.commandStates index command }
      browsed := { m.browsed with catalog := { m.browsed.catalog with
        entries :=
          m.browsed.catalog.entries.modify index fun e => { e with command := command } } } }

/-! What replacing the variables of a slot does to the arrays of the catalog. -/

/-- What the four arrays hold of one point. -/
structure Row where
  definition : PointDefinition
  command : PointCommandState
  plcMeta : PlcPointMeta
  state : PointState
  deriving DecidableEq

def Row.ofEntry (e : Entry) : Row :=
  ⟨e.definition, e.command, classifyPlcPointMeta e.definition, e.state⟩

def freshRow (definition : PointDefinition) : Row := Row.ofEntry (freshEntry definition)

def Row.isSlotVariable (slotId : UInt16) (r : Row) : Bool :=
  r.plcMeta.isLocal && r.plcMeta.hasSlot && r.plcMeta.slotId = slotId &&
    r.plcMeta.pointKind = .SlotOther && isTransientSlotVariable r.definition.id

def Row.isLater (slotId : UInt16) (r : Row) : Bool :=
  r.plcMeta.hasSlot && r.plcMeta.pointKind = .SlotOther && slotId < r.plcMeta.slotId

namespace CatalogStorage

def row (s : CatalogStorage) (index : Nat) : Row :=
  ⟨s.entries index, s.commandStates index, s.plcPointMeta index, s.pointStates index⟩

def rows (s : CatalogStorage) : List Row := taken s.row s.count

theorem row_copyPoint (s : CatalogStorage) (target source : Nat) :
    (s.copyPoint target source).row = store s.row target (s.row source) := by
  funext j
  by_cases hj : j = target <;> simp [row, copyPoint, store, hj]

theorem row_movePoints (s : CatalogStorage) (target source count : Nat) :
    (s.movePoints target source count).row = memmove s.row target source count := by
  funext j
  by_cases hj : target ≤ j ∧ j < target + count <;> simp [row, movePoints, memmove, hj]

theorem row_placePoint (s : CatalogStorage) (index : Nat) (definition : PointDefinition) :
    (s.placePoint index definition).row = store s.row index (freshRow definition) := by
  funext j
  by_cases hj : j = index <;>
    simp [row, placePoint, store, freshRow, freshEntry, Row.ofEntry, hj]

theorem row_placePoints (s : CatalogStorage) (position : Nat) (definitions : List PointDefinition) :
    (s.placePoints position definitions).row = fill s.row position (definitions.map freshRow) := by
  induction definitions generalizing s position with
  | nil => rfl
  | cons definition definitions ih =>
    rw [placePoints, ih, row_placePoint]
    rfl

theorem row_compactPoint (slotId : UInt16) (p : CatalogStorage × Nat) (index : Nat) :
    ((compactPoint slotId p index).1.row, (compactPoint slotId p index).2) =
      compactStep (Row.isSlotVariable slotId) (p.1.row, p.2) index := by
  have hsame : p.1.isSlotVariable slotId index = (p.1.row index).isSlotVariable slotId := rfl
  rw [compactPoint, compactStep, hsame]
  by_cases hdrops : (p.1.row index).isSlotVariable slotId = true
  · rw [if_pos hdrops, if_pos hdrops]
  · rw [if_neg hdrops, if_neg hdrops]
    by_cases hmoved : p.2 ≠ index
    · simp only [if_pos hmoved, row_copyPoint]
    · simp only [if_neg hmoved]

theorem row_compactPoints (slotId : UInt16) (s : CatalogStorage) :
    ((s.compactPoints slotId).1.row, (s.compactPoints slotId).2) =
      compact (Row.isSlotVariable slotId) s.row s.count := by
  have hfold : ∀ (l : List Nat) (p : CatalogStorage × Nat),
      ((l.foldl (compactPoint slotId) p).1.row, (l.foldl (compactPoint slotId) p).2) =
        l.foldl (compactStep (Row.isSlotVariable slotId)) (p.1.row, p.2) := by
    intro l
    induction l with
    | nil => exact fun p => rfl
    | cons index l ih =>
      intro p
      rw [List.foldl_cons, List.foldl_cons, ih, row_compactPoint]
  exact hfold (List.range s.count) (s, 0)

/-- The points that are no variables of the slot. -/
def others (slotId : UInt16) (s : CatalogStorage) : List Row :=
  s.rows.filter fun r => !r.isSlotVariable slotId

def slotVariables (slotId : UInt16) (s : CatalogStorage) : List Row :=
  s.rows.filter (Row.isSlotVariable slotId)

theorem compactPoints_rows (slotId : UInt16) (s : CatalogStorage) :
    taken (s.compactPoints slotId).1.row (s.compactPoints slotId).2 = s.others slotId := by
  have hkept := (compacted (Row.isSlotVariable slotId) s.row s.count).kept
  rw [← row_compactPoints] at hkept
  exact hkept

/-- The new points stand before the first variable of a later slot. -/
theorem replacePoints_rows (slotId : UInt16) (definitions : List PointDefinition)
    (s : CatalogStorage) : (s.replacePoints slotId definitions).rows =
      ((s.others slotId).takeWhile fun r => !r.isLater slotId) ++ definitions.map freshRow ++
        (s.others slotId).dropWhile fun r => !r.isLater slotId := by
  have hothers := compactPoints_rows slotId s
  rw [replacePoints]
  generalize hcompacted : s.compactPoints slotId = p at hothers
  obtain ⟨compacted, compactedCount⟩ := p
  dsimp only at hothers ⊢
  generalize hposition : compacted.insertPosition slotId compactedCount = position
  have hfirst : position = (s.others slotId).findIdx (Row.isLater slotId) := by
    rw [← hposition, insertPosition, firstWhere_eq, ← hothers, taken, taken, List.findIdx_map,
      List.findIdx_map]
    rfl
  have hle : position ≤ compactedCount := by
    rw [hfirst, ← taken_length compacted.row compactedCount, hothers]
    exact List.findIdx_le_length
  rw [List.takeWhile_eq_take_findIdx_not, List.dropWhile_eq_drop_findIdx_not]
  simp only [Bool.not_not]
  rw [← hfirst, ← hothers, rows]
  have hlength : definitions.length = (definitions.map freshRow).length := by simp
  by_cases hroom : position < compactedCount ∧ definitions.length ≠ 0
  · rw [if_pos hroom]
    have hrow : (CatalogStorage.row { (compacted.movePoints (position + definitions.length)
        position (compactedCount - position)).placePoints position definitions with
          count := compactedCount + definitions.length }) =
        fill (memmove compacted.row (position + (definitions.map freshRow).length) position
          (compactedCount - position)) position (definitions.map freshRow) := by
      rw [← hlength, ← row_movePoints, ← row_placePoints]
      rfl
    rw [hrow]
    dsimp only
    rw [hlength]
    exact taken_inserted compacted.row hle (definitions.map freshRow)
  · rw [if_neg hroom]
    have hrow : (CatalogStorage.row { compacted.placePoints position definitions with
          count := compactedCount + definitions.length }) =
        fill compacted.row position (definitions.map freshRow) := by
      rw [← row_placePoints]
      rfl
    rw [hrow]
    dsimp only
    rw [hlength]
    by_cases hend : position < compactedCount
    · have hnil : definitions = [] := by
        by_cases hzero : definitions.length ≠ 0
        · exact absurd ⟨hend, hzero⟩ hroom
        · exact List.length_eq_zero_iff.mp (Decidable.not_not.mp hzero)
      rw [hnil]
      simp [fill]
    · obtain rfl : position = compactedCount := by omega
      rw [taken_appended, List.take_of_length_le (by simp), List.drop_eq_nil_of_le (by simp),
        List.append_nil]

/-! The loop that compares. -/

/-- The slot's variables and the list agree so far. -/
def Agree (current definitions : List PointDefinition) : Prop :=
  ∀ (k : Nat) (d : PointDefinition), current[k]? = some d →
    ∃ d', definitions[k]? = some d' ∧ pointDefinitionsEqual d d' = true

/-- The variables' definitions are the list's, in order. -/
def SameDefinitions (current definitions : List PointDefinition) : Prop :=
  Agree current definitions ∧ current.length = definitions.length

/-- What the loop has found before an index. -/
structure Scanned (definitions current : List PointDefinition) (scan : LayoutScan) : Prop where
  existing : scan.existingSlotVarCount = current.length
  matched : scan.matchedDefinitionCount = current.length
  changed : scan.layoutChanged = false ↔ Agree current definitions

theorem Scanned.step {slotId : UInt16} {definitions : List PointDefinition} {s : CatalogStorage}
    {index : Nat} {scan : LayoutScan}
    (h : Scanned definitions (((taken s.row index).filter (Row.isSlotVariable slotId)).map
      (·.definition)) scan) :
    Scanned definitions (((taken s.row (index + 1)).filter (Row.isSlotVariable slotId)).map
      (·.definition)) (s.scanPoint slotId definitions scan index) := by
  have hsame : s.isSlotVariable slotId index = (s.row index).isSlotVariable slotId := rfl
  rw [scanPoint, hsame, taken_succ, List.filter_append]
  generalize hvariables : ((taken s.row index).filter (Row.isSlotVariable slotId)).map
    (·.definition) = current at h
  by_cases hvariable : (s.row index).isSlotVariable slotId = true
  · rw [if_pos hvariable, List.filter_cons_of_pos hvariable, List.map_append, hvariables]
    refine ⟨by simp [h.existing], by simp [h.matched], ?_⟩
    have hlast : Agree (current ++ [(s.row index).definition]) definitions ↔
        Agree current definitions ∧ ∃ d', definitions[current.length]? = some d' ∧
          pointDefinitionsEqual (s.entries index) d' = true := by
      constructor
      · intro hagree
        refine ⟨fun k d hk => hagree k d ?_, hagree current.length _ (by simp; rfl)⟩
        rw [List.getElem?_append_left (List.getElem?_eq_some_iff.mp hk).1]
        exact hk
      · intro hagree k d hk
        by_cases hold : k < current.length
        · rw [List.getElem?_append_left hold] at hk
          exact hagree.1 k d hk
        · rw [List.getElem?_append_right (by omega), List.getElem?_singleton] at hk
          split at hk
          · obtain rfl : k = current.length := by omega
            cases hk
            exact hagree.2
          · cases hk
    have hmap : List.map (·.definition) [s.row index] = [(s.row index).definition] := rfl
    rw [List.filter_nil, hmap, hlast, ← h.changed, h.matched]
    dsimp only
    rw [Bool.or_eq_false_iff]
    cases hfound : definitions[current.length]? with
    | none => simp
    | some d' => simp
  · rw [if_neg hvariable, List.filter_cons_of_neg hvariable, List.filter_nil, List.append_nil,
      hvariables]
    exact h

theorem scanLayout_scanned (slotId : UInt16) (definitions : List PointDefinition)
    (s : CatalogStorage) : Scanned definitions ((s.slotVariables slotId).map (·.definition))
      (s.scanLayout slotId definitions) := by
  have hfold : ∀ n, Scanned definitions
      (((taken s.row n).filter (Row.isSlotVariable slotId)).map (·.definition))
      ((List.range n).foldl (scanPoint slotId definitions s) ⟨0, 0, false⟩) := by
    intro n
    induction n with
    | zero => exact ⟨rfl, rfl, fun _ k d hk => (by cases hk), fun _ => rfl⟩
    | succ n ih =>
      rw [List.range_succ, List.foldl_append]
      exact ih.step
  exact hfold s.count

/-- The list fits beside the other points. -/
def Fits (slotId : UInt16) (s : CatalogStorage) (definitions : List PointDefinition) : Prop :=
  definitions.length ≤ kMaxPoints ∧
    s.count - (s.slotVariables slotId).length + definitions.length ≤ kMaxPoints

theorem replaceSlotVariableDefinitions_cases (slotId : UInt16)
    (definitions : Option (List PointDefinition)) (s : CatalogStorage) :
    (s.replaceSlotVariableDefinitions slotId definitions = none ∧
      ∀ ds, definitions = some ds → ¬ s.Fits slotId ds) ∨
    ∃ ds, definitions = some ds ∧ s.Fits slotId ds ∧
      (SameDefinitions ((s.slotVariables slotId).map (·.definition)) ds ∧
          s.replaceSlotVariableDefinitions slotId definitions = some (s, false) ∨
        ¬ SameDefinitions ((s.slotVariables slotId).map (·.definition)) ds ∧
          s.replaceSlotVariableDefinitions slotId definitions =
            some (s.replacePoints slotId ds, true)) := by
  cases definitions with
  | none => exact .inl ⟨rfl, fun ds h => by cases h⟩
  | some ds =>
    have hscan := scanLayout_scanned slotId ds s
    have hexisting : (s.scanLayout slotId ds).existingSlotVarCount =
        (s.slotVariables slotId).length := by
      rw [hscan.existing, List.length_map]
    rw [replaceSlotVariableDefinitions]
    dsimp only
    rw [hexisting]
    by_cases hmany : kMaxPoints < ds.length
    · rw [if_pos hmany]
      refine .inl ⟨rfl, fun ds' h hfits => ?_⟩
      cases h
      exact absurd hfits.1 (Nat.not_le.mpr hmany)
    · rw [if_neg hmany]
      by_cases hfull : kMaxPoints < s.count - (s.slotVariables slotId).length + ds.length
      · rw [if_pos hfull]
        refine .inl ⟨rfl, fun ds' h hfits => ?_⟩
        cases h
        exact absurd hfits.2 (Nat.not_le.mpr hfull)
      · rw [if_neg hfull]
        refine .inr ⟨ds, rfl, ⟨Nat.not_lt.mp hmany, Nat.not_lt.mp hfull⟩, ?_⟩
        have hsame : ((s.scanLayout slotId ds).layoutChanged ||
            decide ((s.slotVariables slotId).length ≠ ds.length)) = false ↔
            SameDefinitions ((s.slotVariables slotId).map (·.definition)) ds := by
          rw [Bool.or_eq_false_iff, hscan.changed, SameDefinitions, List.length_map]
          simp
        by_cases h : SameDefinitions ((s.slotVariables slotId).map (·.definition)) ds
        · rw [hsame.mpr h]
          exact .inl ⟨h, rfl⟩
        · refine .inr ⟨h, ?_⟩
          rw [if_pos (Bool.of_not_eq_false fun hfalse => h (hsame.mp hfalse))]

end CatalogStorage

end NodeNet.Catalog

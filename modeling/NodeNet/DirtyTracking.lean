import NodeNet.CatalogMirror
import NodeNet.DirtyQueue

/-! The ring, the bitmap and the counters behind the queue of the points still to be sent. -/
namespace NodeNet.Catalog
open NodeNet.Arrays NodeNet.Json NodeNet.Machine NodeNet.Points

structure DirtyTracking where
  dirtyStateQueue : Nat → UInt16
  dirtyStateSequenceQueue : Nat → UInt32
  dirtyStateFlags : Nat → UInt8
  dirtyStateQueueHead : Nat
  dirtyStateQueueTail : Nat
  dirtyStateQueueCount : Nat
  runtimeFullSyncRequired : Bool
  statesSequence : UInt32

namespace DirtyTracking

/-- The state that the constructor and `resetDirtyStateTracking` leave. -/
def reset : DirtyTracking where
  dirtyStateQueue _ := 0
  dirtyStateSequenceQueue _ := 0
  dirtyStateFlags _ := 0
  dirtyStateQueueHead := 0
  dirtyStateQueueTail := 0
  dirtyStateQueueCount := 0
  runtimeFullSyncRequired := true
  statesSequence := 0

def requestRuntimeFullSync (t : DirtyTracking) : DirtyTracking :=
  { reset with
    statesSequence := if t.runtimeFullSyncRequired then t.statesSequence else t.statesSequence + 1 }

def acknowledgeRuntimeFullSync (t : DirtyTracking) : DirtyTracking :=
  { t with runtimeFullSyncRequired := false }

def dirtyStateFlag (t : DirtyTracking) (index : Nat) : Bool :=
  if kMaxPoints ≤ index then false else testBit t.dirtyStateFlags index

def setDirtyStateFlag (t : DirtyTracking) (index : Nat) (dirty : Bool) : DirtyTracking :=
  if kMaxPoints ≤ index then t
  else { t with dirtyStateFlags := setBit t.dirtyStateFlags index dirty }

/-- The stores at the tail. -/
def enqueue (t : DirtyTracking) (index : Nat) : DirtyTracking :=
  { t with
    dirtyStateQueue := store t.dirtyStateQueue t.dirtyStateQueueTail (UInt16.ofNat index)
    dirtyStateSequenceQueue :=
      store t.dirtyStateSequenceQueue t.dirtyStateQueueTail t.statesSequence
    dirtyStateQueueTail := (t.dirtyStateQueueTail + 1) % kMaxPoints
    dirtyStateQueueCount := t.dirtyStateQueueCount + 1 }

def markStateDirty (t : DirtyTracking) (count index : Nat) : DirtyTracking :=
  if count ≤ index then t
  else if t.runtimeFullSyncRequired then t
  else if t.dirtyStateFlag index then t
  else
    let t := { t with statesSequence := t.statesSequence + 1 }
    if kMaxPoints ≤ t.dirtyStateQueueCount then t.requestRuntimeFullSync
    else (t.enqueue index).setDirtyStateFlag index true

/-- `none` where the source returns false. -/
def peekDirtyStateIndex (t : DirtyTracking) : Option (Nat × UInt32) :=
  if t.dirtyStateQueueCount = 0 then none
  else
    some ((t.dirtyStateQueue t.dirtyStateQueueHead).toNat,
      t.dirtyStateSequenceQueue t.dirtyStateQueueHead)

/-- The head and the count after the first element is taken. -/
def advance (t : DirtyTracking) : DirtyTracking :=
  { t with
    dirtyStateQueueHead := (t.dirtyStateQueueHead + 1) % kMaxPoints
    dirtyStateQueueCount := t.dirtyStateQueueCount - 1 }

def popDirtyStateIndex (t : DirtyTracking) : DirtyTracking :=
  match t.peekDirtyStateIndex with
  | none => t
  | some (index, _) => t.advance.setDirtyStateFlag index false

def queued (t : DirtyTracking) : List (Nat × UInt32) :=
  ringContents (fun k => ((t.dirtyStateQueue k).toNat, t.dirtyStateSequenceQueue k)) kMaxPoints
    t.dirtyStateQueueHead t.dirtyStateQueueCount

end DirtyTracking

structure TrackedCatalog where
  memory : CatalogMemory
  tracking : DirtyTracking

inductive TrackedOperation where
  -- with the stores through the pointers that `findState` and `findCommandState` give
  | memory (operation : MemoryOperation)
  | updateState (id : PointIdentity) (state : PointState)
  | notifyStateChanged (id : PointIdentity)
  | notifyStateChangedAt (index : Nat)
  | peekDirtyStateIndex
  | popDirtyStateIndex
  | acknowledgeDirtyStateIndex
  | requestRuntimeFullSync
  | acknowledgeRuntimeFullSync

namespace TrackedCatalog

def start : TrackedCatalog := ⟨.start, .reset⟩

def catalog (s : TrackedCatalog) : PointCatalog := s.memory.browsed.catalog

def setCatalog (s : TrackedCatalog) (c : PointCatalog) : CatalogMemory :=
  { s.memory with browsed := { s.memory.browsed with catalog := c } }

def markStateDirty (s : TrackedCatalog) (index : Nat) : TrackedCatalog where
  memory := s.setCatalog (s.catalog.markStateDirty index)
  tracking := s.tracking.markStateDirty s.memory.storage.count index

/-- What an operation on the entries does to the tracking. -/
def retracked (library : Library) (s : TrackedCatalog) : MemoryOperation → DirtyTracking
  | .catalog (.upsert definition) =>
    if (s.memory.browsed.upsert definition).1 then s.tracking.requestRuntimeFullSync
    else s.tracking
  | .catalog (.remove id) =>
    if (s.memory.browsed.remove id).1 then s.tracking.requestRuntimeFullSync else s.tracking
  | .catalog .clear => .reset
  | .catalog (.replaceSlotVariableDefinitions slotId definitions) =>
    if (s.memory.replaceSlotVariableDefinitions slotId (some definitions)).2.1 then
      s.tracking.requestRuntimeFullSync
    else s.tracking
  | .catalog (.loadFromJson json) =>
    if CatalogMemory.isTaken library json then .reset else s.tracking
  | .catalog .beginBatchUpdate | .catalog .endBatchUpdate | .setState _ _
  | .setCommandState _ _ => s.tracking

def operate (library : Library) (s : TrackedCatalog) (operation : MemoryOperation) :
    TrackedCatalog :=
  ⟨s.memory.operate library operation, s.retracked library operation⟩

def updateState (library : Library) (s : TrackedCatalog) (id : PointIdentity)
    (state : PointState) : TrackedCatalog :=
  match s.catalog.lookupIndex id with
  | none => s
  | some index =>
    let stored := s.operate library (.setState index state)
    if pointStatePayloadEqual (s.memory.storage.entries index).valueType
        (s.memory.storage.pointStates index) state then stored
    else stored.markStateDirty index

def notifyStateChangedAt (s : TrackedCatalog) (index : Nat) : TrackedCatalog :=
  if s.memory.storage.count ≤ index then s else s.markStateDirty index

def notifyStateChanged (s : TrackedCatalog) (id : PointIdentity) : TrackedCatalog :=
  match s.catalog.lookupIndex id with
  | none => s
  | some index => s.markStateDirty index

def popDirtyStateIndex (s : TrackedCatalog) : TrackedCatalog where
  memory := s.setCatalog ((s.catalog.popDirtyStateIndex.map (·.2)).getD s.catalog)
  tracking := s.tracking.popDirtyStateIndex

def next (library : Library) (s : TrackedCatalog) : TrackedOperation → TrackedCatalog
  | .memory operation => s.operate library operation
  | .updateState id state => s.updateState library id state
  | .notifyStateChanged id => s.notifyStateChanged id
  | .notifyStateChangedAt index => s.notifyStateChangedAt index
  | .peekDirtyStateIndex => s
  | .popDirtyStateIndex | .acknowledgeDirtyStateIndex => s.popDirtyStateIndex
  | .requestRuntimeFullSync =>
    ⟨s.setCatalog s.catalog.requestRuntimeFullSync, s.tracking.requestRuntimeFullSync⟩
  | .acknowledgeRuntimeFullSync =>
    ⟨s.setCatalog s.catalog.acknowledgeRuntimeFullSync, s.tracking.acknowledgeRuntimeFullSync⟩

end TrackedCatalog

/-! The ring holds the queue, and the bitmap its flags. -/

structure Tracks (t : DirtyTracking) (c : PointCatalog) : Prop where
  head : t.dirtyStateQueueHead < kMaxPoints
  tail : t.dirtyStateQueueTail = (t.dirtyStateQueueHead + t.dirtyStateQueueCount) % kMaxPoints
  queued : t.queued = c.dirtyStateQueue
  flags : ∀ i, t.dirtyStateFlag i = c.dirtyStateFlags i
  required : t.runtimeFullSyncRequired = c.runtimeFullSyncRequired
  sequence : t.statesSequence = c.statesSequence

variable {t : DirtyTracking}

theorem dirtyStateFlag_zero (h : t.dirtyStateFlags = fun _ => 0) (i : Nat) :
    t.dirtyStateFlag i = false := by
  rw [DirtyTracking.dirtyStateFlag, h]
  simp [testBit]

theorem tracks_reset {c : PointCatalog} (hqueue : c.dirtyStateQueue = [])
    (hflags : c.dirtyStateFlags = fun _ => false) (hrequired : c.runtimeFullSyncRequired = true)
    (hsequence : c.statesSequence = 0) : Tracks .reset c where
  head := by decide
  tail := rfl
  queued := hqueue.symm
  flags i := by rw [hflags, dirtyStateFlag_zero rfl]
  required := hrequired.symm
  sequence := hsequence.symm

theorem dirtyStateFlag_setDirtyStateFlag {index : Nat} (h : index < kMaxPoints) (dirty : Bool)
    (i : Nat) : (t.setDirtyStateFlag index dirty).dirtyStateFlag i =
      if i = index then dirty else t.dirtyStateFlag i := by
  rw [DirtyTracking.setDirtyStateFlag, if_neg (Nat.not_le.mpr h), DirtyTracking.dirtyStateFlag,
    DirtyTracking.dirtyStateFlag, testBit_setBit]
  by_cases hi : i = index
  · subst hi
    rw [if_neg (Nat.not_le.mpr h), if_pos rfl, if_pos rfl]
  · rw [if_neg hi, if_neg hi]

theorem setDirtyStateFlag_eq {index : Nat} (h : index < kMaxPoints) (dirty : Bool) :
    t.setDirtyStateFlag index dirty =
      { t with dirtyStateFlags := setBit t.dirtyStateFlags index dirty } :=
  if_neg (Nat.not_le.mpr h)

theorem queued_enqueue {index : Nat} (hindex : index < kMaxPoints)
    (htail : t.dirtyStateQueueTail = (t.dirtyStateQueueHead + t.dirtyStateQueueCount) % kMaxPoints)
    (hroom : t.dirtyStateQueueCount < kMaxPoints) :
    (t.enqueue index).queued = t.queued ++ [(index, t.statesSequence)] := by
  have hsize : kMaxPoints = 1024 := rfl
  have hnat : (UInt16.ofNat index).toNat = index := by
    rw [UInt16.toNat_ofNat']
    exact Nat.mod_eq_of_lt (by omega)
  rw [DirtyTracking.queued, DirtyTracking.queued, ← ringContents_push _ _ hroom, ← htail]
  congr 1
  funext k
  by_cases hk : k = t.dirtyStateQueueTail
  · simp [DirtyTracking.enqueue, store, hk, hnat]
  · simp [DirtyTracking.enqueue, store, hk]

theorem queued_advance (hhead : t.dirtyStateQueueHead < kMaxPoints) {p : Nat × UInt32}
    (hpeek : t.peekDirtyStateIndex = some p) : t.queued = p :: t.advance.queued := by
  rw [DirtyTracking.peekDirtyStateIndex] at hpeek
  by_cases hempty : t.dirtyStateQueueCount = 0
  · rw [if_pos hempty] at hpeek
    cases hpeek
  · rw [if_neg hempty] at hpeek
    have hcount : t.dirtyStateQueueCount = t.dirtyStateQueueCount - 1 + 1 := by omega
    rw [DirtyTracking.queued, hcount, ringContents_pop _ hhead, Option.some.inj hpeek]
    rfl

theorem peekDirtyStateIndex_eq (hhead : t.dirtyStateQueueHead < kMaxPoints) :
    t.peekDirtyStateIndex = t.queued.head? := by
  cases hpeek : t.peekDirtyStateIndex with
  | some p =>
    rw [queued_advance hhead hpeek]
    rfl
  | none =>
    by_cases hempty : t.dirtyStateQueueCount = 0
    · rw [DirtyTracking.queued, hempty]
      rfl
    · rw [DirtyTracking.peekDirtyStateIndex, if_neg hempty] at hpeek
      cases hpeek

section
variable {t : DirtyTracking} {c : PointCatalog} (h : Tracks t c)
include h

theorem Tracks.congr {c' : PointCatalog} (hqueue : c'.dirtyStateQueue = c.dirtyStateQueue)
    (hflags : c'.dirtyStateFlags = c.dirtyStateFlags)
    (hrequired : c'.runtimeFullSyncRequired = c.runtimeFullSyncRequired)
    (hsequence : c'.statesSequence = c.statesSequence) : Tracks t c' := by
  refine ⟨h.head, h.tail, ?_, fun i => ?_, ?_, ?_⟩
  · rw [h.queued, hqueue]
  · rw [h.flags, hflags]
  · rw [h.required, hrequired]
  · rw [h.sequence, hsequence]

theorem Tracks.requestRuntimeFullSync :
    Tracks t.requestRuntimeFullSync c.requestRuntimeFullSync where
  head := by
    change 0 < kMaxPoints
    decide
  tail := rfl
  queued := rfl
  flags i := by
    rw [dirtyStateFlag_zero rfl]
    rfl
  required := rfl
  sequence := by
    rw [DirtyTracking.requestRuntimeFullSync, PointCatalog.requestRuntimeFullSync, h.required,
      h.sequence]

theorem Tracks.acknowledgeRuntimeFullSync :
    Tracks t.acknowledgeRuntimeFullSync c.acknowledgeRuntimeFullSync :=
  ⟨h.head, h.tail, h.queued, h.flags, rfl, h.sequence⟩

theorem Tracks.count : t.dirtyStateQueueCount = c.dirtyStateQueue.length := by
  rw [← h.queued, DirtyTracking.queued, ringContents, taken_length]

theorem Tracks.markStateDirty (hok : QueueOk c) (index : Nat) :
    Tracks (t.markStateDirty c.size index) (c.markStateDirty index) := by
  rw [DirtyTracking.markStateDirty, PointCatalog.markStateDirty, h.required, h.flags]
  by_cases hout : c.size ≤ index
  · rw [if_pos hout, if_pos (.inl hout)]
    exact h
  · rw [if_neg hout]
    cases hrequired : c.runtimeFullSyncRequired with
    | true =>
      rw [if_pos rfl, if_pos (.inr (.inl rfl))]
      exact h
    | false =>
      cases hflag : c.dirtyStateFlags index with
      | true =>
        rw [if_neg Bool.false_ne_true, if_pos rfl, if_pos (.inr (.inr rfl))]
        exact h
      | false =>
        have hroom := hok.has_room (Nat.not_le.mp hout) hflag
        have hindex : index < kMaxPoints := Nat.lt_of_lt_of_le (Nat.not_le.mp hout) hok.size
        have hcount := h.count
        have hpassed : ¬ (c.size ≤ index ∨ false = true ∨ false = true) := by simp [hout]
        rw [if_neg Bool.false_ne_true, if_neg Bool.false_ne_true, if_neg hpassed]
        dsimp only
        rw [if_neg (by omega), if_neg (by omega)]
        refine ⟨?_, ?_, ?_, fun i => ?_, ?_, ?_⟩
        · rw [setDirtyStateFlag_eq hindex]
          exact h.head
        · rw [setDirtyStateFlag_eq hindex]
          simp only [DirtyTracking.enqueue]
          rw [h.tail, Nat.mod_add_mod, Nat.add_assoc]
        · rw [setDirtyStateFlag_eq hindex, ← h.sequence, ← h.queued]
          have hroom : t.dirtyStateQueueCount < kMaxPoints := by omega
          exact queued_enqueue hindex h.tail hroom
        · rw [dirtyStateFlag_setDirtyStateFlag hindex]
          dsimp only
          rw [← h.flags]
          rfl
        · rw [setDirtyStateFlag_eq hindex]
          rfl
        · rw [setDirtyStateFlag_eq hindex, ← h.sequence]
          rfl

theorem Tracks.popDirtyStateIndex (hok : QueueOk c) :
    Tracks t.popDirtyStateIndex ((c.popDirtyStateIndex.map (·.2)).getD c) := by
  have hpeek := peekDirtyStateIndex_eq h.head
  rw [h.queued] at hpeek
  rw [DirtyTracking.popDirtyStateIndex, PointCatalog.popDirtyStateIndex, hpeek]
  cases hqueue : c.dirtyStateQueue with
  | nil => exact h
  | cons p rest =>
    obtain ⟨index, sequence⟩ := p
    rw [hqueue] at hpeek
    have hqueued := queued_advance h.head hpeek
    have hindex : index < kMaxPoints := by
      refine Nat.lt_of_lt_of_le (hok.bound index ?_) hok.size
      rw [PointCatalog.queued, hqueue]
      exact List.mem_cons_self
    have hrest : t.advance.queued = rest := by
      rw [h.queued, hqueue] at hqueued
      exact (List.cons.inj hqueued).2.symm
    have hcount := h.count
    rw [hqueue, List.length_cons] at hcount
    dsimp only [List.head?_cons]
    refine ⟨?_, ?_, ?_, fun i => ?_, ?_, ?_⟩
    · rw [setDirtyStateFlag_eq hindex]
      exact Nat.mod_lt _ (by decide)
    · rw [setDirtyStateFlag_eq hindex]
      simp only [DirtyTracking.advance]
      rw [h.tail, hcount, Nat.mod_add_mod]
      congr 1
      omega
    · rw [setDirtyStateFlag_eq hindex]
      exact hrest
    · rw [dirtyStateFlag_setDirtyStateFlag hindex]
      have hflag := h.flags i
      rw [DirtyTracking.dirtyStateFlag] at hflag ⊢
      simp [DirtyTracking.advance, hflag]
    · rw [setDirtyStateFlag_eq hindex]
      exact h.required
    · rw [setDirtyStateFlag_eq hindex]
      exact h.sequence

end

end NodeNet.Catalog

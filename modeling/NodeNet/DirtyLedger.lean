import NodeNet.DirtyTracking

/-! Runs of the catalog with its dirty tracking: what is queued, what has left, what is served. -/
namespace NodeNet.Catalog
open NodeNet.Json NodeNet.Machine NodeNet.Points

structure Tracked (s : TrackedCatalog) : Prop where
  mirrors : Mirrors s.memory
  tracks : Tracks s.tracking s.catalog
  ok : QueueOk s.catalog

theorem tracked_start : Tracked .start :=
  ⟨mirrors_start, tracks_reset rfl rfl rfl rfl, empty_queueOk⟩

theorem Mirrors.catalog_size {m : CatalogMemory} (h : Mirrors m) :
    m.browsed.catalog.size ≤ kMaxPoints := by
  rw [← h.count]
  exact h.size

theorem upsert_cases (s : BrowsedCatalog) (definition : PointDefinition) :
    ((s.upsert definition).1 = false ∧ (s.upsert definition).2.catalog = s.catalog) ∨
      (s.upsert definition).1 = true ∧
        ∃ entries, (s.upsert definition).2.catalog = s.catalog.setEntries entries := by
  rw [BrowsedCatalog.upsert, PointCatalog.upsert]
  cases s.catalog.findIndex definition.id with
  | some i => exact .inr ⟨rfl, _, reindexed_catalog _ _⟩
  | none =>
    by_cases hfull : kMaxPoints ≤ s.catalog.size
    · simp [hfull]
    · simp only [hfull, if_false]
      exact .inr ⟨trivial, _, reindexed_catalog _ _⟩

theorem remove_cases (s : BrowsedCatalog) (id : PointIdentity) :
    ((s.remove id).1 = false ∧ (s.remove id).2.catalog = s.catalog) ∨
      (s.remove id).1 = true ∧
        ∃ entries, (s.remove id).2.catalog = s.catalog.setEntries entries := by
  rw [BrowsedCatalog.remove, PointCatalog.remove]
  cases s.catalog.findIndex id with
  | none => exact .inl ⟨rfl, rfl⟩
  | some i => exact .inr ⟨rfl, _, reindexed_catalog _ _⟩

theorem replaceSlotVariableDefinitions_catalog (m : CatalogMemory) (slotId : UInt16)
    (definitions : Option (List PointDefinition)) :
    let result := m.replaceSlotVariableDefinitions slotId definitions
    (result.2.1 = false ∧ result.2.2.browsed.catalog = m.browsed.catalog) ∨
      result.2.1 = true ∧
        ∃ entries, result.2.2.browsed.catalog = m.browsed.catalog.setEntries entries := by
  intro result
  simp only [result, CatalogMemory.replaceSlotVariableDefinitions]
  cases m.storage.replaceSlotVariableDefinitions slotId definitions with
  | none => exact .inl ⟨rfl, rfl⟩
  | some p =>
    obtain ⟨storage, changed⟩ := p
    cases changed with
    | false => exact .inl ⟨rfl, rfl⟩
    | true => exact .inr ⟨rfl, _, reindexed_catalog _ _⟩

theorem loadFromJson_tracking (library : Library) (s : BrowsedCatalog) (json : Option Text) :
    (CatalogMemory.isTaken library json = false ∧ (s.loadFromJson library json).2 = s) ∨
      CatalogMemory.isTaken library json = true ∧
        (s.loadFromJson library json).2.catalog.dirtyStateQueue = [] ∧
        ((s.loadFromJson library json).2.catalog.dirtyStateFlags = fun _ => false) ∧
        (s.loadFromJson library json).2.catalog.runtimeFullSyncRequired = true ∧
        (s.loadFromJson library json).2.catalog.statesSequence = 0 := by
  cases json with
  | none => exact .inr ⟨rfl, rfl, rfl, rfl, rfl⟩
  | some text =>
    cases text with
    | nil => exact .inr ⟨rfl, rfl, rfl, rfl, rfl⟩
    | cons c text =>
      simp only [BrowsedCatalog.loadFromJson, CatalogMemory.isTaken]
      cases library.deserialize (c :: text) with
      | none => exact .inl ⟨rfl, rfl⟩
      | some doc =>
        dsimp only
        cases storedPoints doc with
        | none => exact .inr ⟨rfl, rfl, rfl, rfl, rfl⟩
        | some items =>
          dsimp only
          generalize loadEntries library items [] = loaded
          obtain ⟨ok, entries⟩ := loaded
          cases ok with
          | false => exact .inr ⟨rfl, rfl, rfl, rfl, rfl⟩
          | true => exact .inr ⟨rfl, rfl, rfl, rfl, rfl⟩

section
variable {s : TrackedCatalog} (h : Tracked s)
include h

theorem Tracked.kept {m : CatalogMemory} (hm : Mirrors m)
    (hqueue : m.browsed.catalog.dirtyStateQueue = s.catalog.dirtyStateQueue)
    (hflags : m.browsed.catalog.dirtyStateFlags = s.catalog.dirtyStateFlags)
    (hrequired : m.browsed.catalog.runtimeFullSyncRequired = s.catalog.runtimeFullSyncRequired)
    (hsequence : m.browsed.catalog.statesSequence = s.catalog.statesSequence)
    (hsize : m.browsed.catalog.size = s.catalog.size) : Tracked ⟨m, s.tracking⟩ := by
  refine ⟨hm, h.tracks.congr hqueue hflags hrequired hsequence, fun i => ?_, fun i hi => ?_, ?_,
    hm.catalog_size, fun hcalled => ?_⟩
  · have hflag := h.ok.flags i
    rw [PointCatalog.queued] at hflag ⊢
    change m.browsed.catalog.dirtyStateFlags i = true ↔ i ∈ m.browsed.catalog.dirtyStateQueue.map _
    rw [hflags, hqueue]
    exact hflag
  · change i < m.browsed.catalog.size
    rw [hsize]
    refine h.ok.bound i ?_
    rw [PointCatalog.queued, ← hqueue]
    exact hi
  · change (m.browsed.catalog.dirtyStateQueue.map _).Nodup
    rw [hqueue]
    exact h.ok.nodup
  · change m.browsed.catalog.dirtyStateQueue.map _ = []
    rw [hqueue]
    exact h.ok.idle (hrequired.symm.trans hcalled)

theorem Tracked.same {m : CatalogMemory} (hm : Mirrors m)
    (hcatalog : m.browsed.catalog = s.catalog) : Tracked ⟨m, s.tracking⟩ := by
  refine h.kept hm ?_ ?_ ?_ ?_ ?_
  · rw [hcatalog]
  · rw [hcatalog]
  · rw [hcatalog]
  · rw [hcatalog]
  · rw [hcatalog]

theorem Tracked.edited {m : CatalogMemory} (hm : Mirrors m) {entries : List Entry}
    (hcatalog : m.browsed.catalog = s.catalog.setEntries entries) :
    Tracked ⟨m, s.tracking.requestRuntimeFullSync⟩ := by
  refine ⟨hm, ?_, .of_emptied ?_ ?_ hm.catalog_size⟩
  · refine h.tracks.requestRuntimeFullSync.congr ?_ ?_ ?_ ?_
    · exact congrArg (·.dirtyStateQueue) hcatalog
    · exact congrArg (·.dirtyStateFlags) hcatalog
    · exact congrArg (·.runtimeFullSyncRequired) hcatalog
    · exact congrArg (·.statesSequence) hcatalog
  · exact congrArg (·.dirtyStateQueue) hcatalog
  · exact congrArg (·.dirtyStateFlags) hcatalog

theorem Tracked.operate (library : Library) (operation : MemoryOperation) :
    Tracked (s.operate library operation) := by
  have hm := h.mirrors.operate library operation
  rw [TrackedCatalog.operate]
  cases operation with
  | setState index state => exact h.kept hm rfl rfl rfl rfl (List.length_modify ..)
  | setCommandState index command => exact h.kept hm rfl rfl rfl rfl (List.length_modify ..)
  | catalog operation =>
    rw [TrackedCatalog.retracked.eq_def]
    cases operation with
    | beginBatchUpdate => exact h.same hm rfl
    | endBatchUpdate => exact h.same hm (endBatchUpdate_catalog _)
    | clear => exact ⟨hm, tracks_reset rfl rfl rfl rfl, .of_emptied rfl rfl (Nat.zero_le _)⟩
    | upsert definition =>
      dsimp only
      obtain ⟨hfailed, hsame⟩ | ⟨hdone, entries, hset⟩ := upsert_cases s.memory.browsed definition
      · rw [hfailed, if_neg Bool.false_ne_true]
        exact h.same hm hsame
      · rw [hdone, if_pos rfl]
        exact h.edited hm hset
    | remove id =>
      dsimp only
      obtain ⟨hfailed, hsame⟩ | ⟨hdone, entries, hset⟩ := remove_cases s.memory.browsed id
      · rw [hfailed, if_neg Bool.false_ne_true]
        exact h.same hm hsame
      · rw [hdone, if_pos rfl]
        exact h.edited hm hset
    | replaceSlotVariableDefinitions slotId definitions =>
      dsimp only
      obtain ⟨hfailed, hsame⟩ | ⟨hdone, entries, hset⟩ :=
        replaceSlotVariableDefinitions_catalog s.memory slotId (some definitions)
      · rw [hfailed, if_neg Bool.false_ne_true]
        exact h.same hm hsame
      · rw [hdone, if_pos rfl]
        exact h.edited hm hset
    | loadFromJson json =>
      dsimp only
      obtain ⟨hfailed, hsame⟩ | ⟨htaken, hqueue, hflags, hrequired, hsequence⟩ :=
        loadFromJson_tracking library s.memory.browsed json
      · rw [hfailed, if_neg Bool.false_ne_true]
        refine h.same hm ?_
        change (s.memory.browsed.loadFromJson library json).2.catalog = _
        rw [hsame]
        rfl
      · rw [htaken, if_pos rfl]
        exact ⟨hm, tracks_reset hqueue hflags hrequired hsequence,
          .of_emptied hqueue hflags hm.catalog_size⟩

theorem Tracked.count : s.memory.storage.count = s.catalog.size := h.mirrors.count

theorem Tracked.markStateDirty (index : Nat) : Tracked (s.markStateDirty index) := by
  have htracks := h.tracks.markStateDirty h.ok index
  rw [← h.count] at htracks
  refine ⟨⟨?_, h.mirrors.size⟩, htracks, h.ok.markStateDirty index⟩
  have hentries : (s.catalog.markStateDirty index).entries = s.catalog.entries :=
    (h.ok.markStateDirty_spec index).1
  have hrows := h.mirrors.rows
  change _ = (s.catalog.markStateDirty index).entries.map _
  rw [hentries]
  exact hrows

theorem Tracked.popDirtyStateIndex : Tracked s.popDirtyStateIndex := by
  have htracks := h.tracks.popDirtyStateIndex h.ok
  rw [TrackedCatalog.popDirtyStateIndex]
  rw [PointCatalog.popDirtyStateIndex] at htracks ⊢
  cases hqueue : s.catalog.dirtyStateQueue with
  | nil =>
    rw [hqueue] at htracks
    exact ⟨h.mirrors, htracks, h.ok⟩
  | cons p rest =>
    rw [hqueue] at htracks
    exact ⟨⟨h.mirrors.rows, h.mirrors.size⟩, htracks, h.ok.popped hqueue⟩

theorem Tracked.next (library : Library) (operation : TrackedOperation) :
    Tracked (s.next library operation) := by
  cases operation with
  | memory operation => exact h.operate library operation
  | updateState id state =>
    rw [TrackedCatalog.next, TrackedCatalog.updateState]
    cases s.catalog.lookupIndex id with
    | none => exact h
    | some index =>
      have hstored := h.operate library (.setState index state)
      dsimp only
      split
      · exact hstored
      · exact hstored.markStateDirty index
  | notifyStateChanged id =>
    rw [TrackedCatalog.next, TrackedCatalog.notifyStateChanged]
    cases s.catalog.lookupIndex id with
    | none => exact h
    | some index => exact h.markStateDirty index
  | notifyStateChangedAt index =>
    rw [TrackedCatalog.next, TrackedCatalog.notifyStateChangedAt]
    split
    · exact h
    · exact h.markStateDirty index
  | peekDirtyStateIndex => exact h
  | popDirtyStateIndex => exact h.popDirtyStateIndex
  | acknowledgeDirtyStateIndex => exact h.popDirtyStateIndex
  | requestRuntimeFullSync =>
    exact ⟨⟨h.mirrors.rows, h.mirrors.size⟩, h.tracks.requestRuntimeFullSync,
      h.ok.requestRuntimeFullSync⟩
  | acknowledgeRuntimeFullSync =>
    exact ⟨⟨h.mirrors.rows, h.mirrors.size⟩, h.tracks.acknowledgeRuntimeFullSync,
      h.ok.acknowledgeRuntimeFullSync⟩

end

/-! What goes into the queue and what leaves it. -/

/-- The point is given the next sequence number, unless it waits already or all are to be sent. -/
def DirtyTracking.newEntry (t : DirtyTracking) (index : Nat) : List (Nat × UInt32) :=
  if t.runtimeFullSyncRequired || t.dirtyStateFlag index then []
  else [(index, t.statesSequence + 1)]

namespace TrackedCatalog

def markedIndex (s : TrackedCatalog) : TrackedOperation → Option Nat
  | .updateState id state =>
    (s.catalog.lookupIndex id).filter fun index =>
      !pointStatePayloadEqual (s.memory.storage.entries index).valueType
        (s.memory.storage.pointStates index) state
  | .notifyStateChanged id => s.catalog.lookupIndex id
  | .notifyStateChangedAt index => if s.memory.storage.count ≤ index then none else some index
  | _ => none

def entering (s : TrackedCatalog) (operation : TrackedOperation) : List (Nat × UInt32) :=
  match s.markedIndex operation with
  | none => []
  | some index => s.tracking.newEntry index

def leaving (s : TrackedCatalog) : TrackedOperation → List (Nat × UInt32)
  | .popDirtyStateIndex | .acknowledgeDirtyStateIndex => s.tracking.peekDirtyStateIndex.toList
  | _ => []

end TrackedCatalog

/-- What has entered and left the queue since a full sync was last called for. -/
structure Ledger where
  entered : List (Nat × UInt32)
  left : List (Nat × UInt32)

def Ledger.next (library : Library) (s : TrackedCatalog) (l : Ledger)
    (operation : TrackedOperation) : Ledger :=
  if (s.next library operation).tracking.runtimeFullSyncRequired then ⟨[], []⟩
  else ⟨l.entered ++ s.entering operation, l.left ++ s.leaving operation⟩

structure TrackedRun where
  catalog : TrackedCatalog
  ledger : Ledger

def TrackedRun.next (library : Library) (r : TrackedRun) (operation : TrackedOperation) :
    TrackedRun :=
  ⟨r.catalog.next library operation, r.ledger.next library r.catalog operation⟩

def TrackedRun.start : TrackedRun := ⟨.start, ⟨[], []⟩⟩

variable {s : TrackedCatalog}

theorem Tracked.marked (h : Tracked s) {index : Nat} (hindex : index < s.memory.storage.count) :
    let t := s.tracking.markStateDirty s.memory.storage.count index
    t.runtimeFullSyncRequired = s.tracking.runtimeFullSyncRequired ∧
      t.queued = s.tracking.queued ++ s.tracking.newEntry index ∧
      t.statesSequence =
        s.tracking.statesSequence + UInt32.ofNat (s.tracking.newEntry index).length ∧
      (s.tracking.runtimeFullSyncRequired = false → index ∈ t.queued.map (·.1)) := by
  have htracks := h.tracks.markStateDirty h.ok index
  rw [h.count] at hindex
  rw [h.count]
  intro t
  rw [DirtyTracking.newEntry, htracks.required, htracks.queued, htracks.sequence, h.tracks.required,
    h.tracks.queued, h.tracks.sequence, h.tracks.flags]
  obtain ⟨hsame, hwhy⟩ | ⟨-, hrequired, hnot, hmarked⟩ := h.ok.markStateDirty_cases index
  · rw [hsame]
    cases hrequired : s.catalog.runtimeFullSyncRequired with
    | true => simp
    | false =>
      have hmem : index ∈ s.catalog.queued := by
        obtain hout | hcalled | hmem := hwhy
        · omega
        · rw [hrequired] at hcalled
          cases hcalled
        · exact hmem
      have hflag := (h.ok.flags index).mpr hmem
      rw [hflag]
      exact ⟨rfl, (List.append_nil _).symm, (UInt32.add_zero _).symm, fun _ => hmem⟩
  · have hflag : s.catalog.dirtyStateFlags index = false := by
      rw [Bool.eq_false_iff]
      exact fun hflag => hnot ((h.ok.flags index).mp hflag)
    rw [hmarked, hrequired, hflag]
    exact ⟨rfl, rfl, rfl, fun _ => by simp⟩

theorem Tracked.peek_queued (h : Tracked s) : s.tracking.queued =
      s.tracking.peekDirtyStateIndex.toList ++ s.tracking.popDirtyStateIndex.queued := by
  have htracks := h.tracks.popDirtyStateIndex h.ok
  rw [peekDirtyStateIndex_eq h.tracks.head, htracks.queued, h.tracks.queued,
    PointCatalog.popDirtyStateIndex]
  cases hqueue : s.catalog.dirtyStateQueue with
  | nil =>
    dsimp only
    exact hqueue.symm
  | cons p rest => rfl

/-- Whatever is done, a full sync is called for, or what was queued and what enters now is what
leaves now and what stays queued. -/
structure Passed (s : TrackedCatalog) (operation : TrackedOperation) (t : DirtyTracking) :
    Prop where
  queue : t.runtimeFullSyncRequired = true ∨
    s.leaving operation ++ t.queued = s.tracking.queued ++ s.entering operation ∧
      t.statesSequence = s.tracking.statesSequence + UInt32.ofNat (s.entering operation).length
  marked : ∀ index, s.markedIndex operation = some index →
    t.runtimeFullSyncRequired = true ∨ index ∈ t.queued.map (·.1)
  called : operation ≠ .acknowledgeRuntimeFullSync →
    s.tracking.runtimeFullSyncRequired = true → t.runtimeFullSyncRequired = true

section
variable {s : TrackedCatalog}

theorem passed_of_same {operation : TrackedOperation} {t : DirtyTracking}
    (hmarked : s.markedIndex operation = none) (hleaving : s.leaving operation = [])
    (hqueued : t.queued = s.tracking.queued) (hsequence : t.statesSequence =
      s.tracking.statesSequence)
    (hcalled : operation ≠ .acknowledgeRuntimeFullSync →
      s.tracking.runtimeFullSyncRequired = true → t.runtimeFullSyncRequired = true) :
    Passed s operation t := by
  refine ⟨.inr ?_, fun index hindex => ?_, hcalled⟩
  · rw [TrackedCatalog.entering, hmarked, hleaving, hqueued, hsequence]
    simp
  · rw [hmarked] at hindex
    cases hindex

theorem passed_of_called {operation : TrackedOperation} {t : DirtyTracking}
    (h : t.runtimeFullSyncRequired = true) : Passed s operation t :=
  ⟨.inl h, fun _ _ => .inl h, fun _ _ => h⟩

variable (h : Tracked s)
include h

theorem Tracked.passed_of_marked {operation : TrackedOperation} {index : Nat}
    (hmarked : s.markedIndex operation = some index) (hleaving : s.leaving operation = [])
    (hindex : index < s.memory.storage.count) :
    Passed s operation (s.tracking.markStateDirty s.memory.storage.count index) := by
  obtain ⟨hrequired, hqueued, hsequence, hmem⟩ := h.marked hindex
  have hentering : s.entering operation = s.tracking.newEntry index := by
    rw [TrackedCatalog.entering, hmarked]
  refine ⟨.inr ⟨?_, ?_⟩, fun i hi => ?_, fun _ hcalled => hrequired.trans hcalled⟩
  · rw [hleaving, hentering, List.nil_append]
    exact hqueued
  · rw [hentering]
    exact hsequence
  · rw [hmarked] at hi
    cases hi
    cases hcalled : s.tracking.runtimeFullSyncRequired with
    | true => exact .inl (hrequired.trans hcalled)
    | false => exact .inr (hmem hcalled)

theorem Tracked.lookup_lt {id : PointIdentity} {index : Nat}
    (hlookup : s.catalog.lookupIndex id = some index) : index < s.memory.storage.count := by
  rw [h.count]
  exact findIndex_lt hlookup

theorem Tracked.popped_counters :
    s.tracking.popDirtyStateIndex.runtimeFullSyncRequired = s.tracking.runtimeFullSyncRequired ∧
      s.tracking.popDirtyStateIndex.statesSequence = s.tracking.statesSequence := by
  have htracks := h.tracks.popDirtyStateIndex h.ok
  rw [htracks.required, htracks.sequence, h.tracks.required, h.tracks.sequence,
    PointCatalog.popDirtyStateIndex]
  cases s.catalog.dirtyStateQueue with
  | nil => exact ⟨rfl, rfl⟩
  | cons p rest => exact ⟨rfl, rfl⟩

theorem Tracked.passed_of_popped {operation : TrackedOperation}
    (hmarked : s.markedIndex operation = none)
    (hleaving : s.leaving operation = s.tracking.peekDirtyStateIndex.toList) :
    Passed s operation s.tracking.popDirtyStateIndex := by
  obtain ⟨hrequired, hsequence⟩ := h.popped_counters
  have hentering : s.entering operation = [] := by rw [TrackedCatalog.entering, hmarked]
  refine ⟨.inr ⟨?_, ?_⟩, fun index hindex => ?_, fun _ hcalled => hrequired.trans hcalled⟩
  · rw [hleaving, hentering, List.append_nil]
    exact h.peek_queued.symm
  · rw [hentering, hsequence]
    exact (UInt32.add_zero _).symm
  · rw [hmarked] at hindex
    cases hindex

theorem Tracked.passed (library : Library) (operation : TrackedOperation) :
    Passed s operation (s.next library operation).tracking := by
  cases operation with
  | memory operation =>
    have hkept : Passed s (.memory operation) s.tracking :=
      passed_of_same rfl rfl rfl rfl fun _ hcalled => hcalled
    have hrequested (edited : Bool) : Passed s (.memory operation)
        (if edited then s.tracking.requestRuntimeFullSync else s.tracking) := by
      cases edited with
      | true => exact passed_of_called rfl
      | false => exact hkept
    have hreset (cleared : Bool) : Passed s (.memory operation)
        (if cleared then .reset else s.tracking) := by
      cases cleared with
      | true => exact passed_of_called rfl
      | false => exact hkept
    change Passed s _ (s.retracked library operation)
    cases operation with
    | setState index state => exact hkept
    | setCommandState index command => exact hkept
    | catalog operation =>
      cases operation with
      | upsert definition => exact hrequested _
      | remove id => exact hrequested _
      | clear => exact hreset true
      | replaceSlotVariableDefinitions slotId definitions => exact hrequested _
      | loadFromJson json => exact hreset _
      | beginBatchUpdate => exact hkept
      | endBatchUpdate => exact hkept
  | updateState id state =>
    have hmarked : s.markedIndex (.updateState id state) = (s.catalog.lookupIndex id).filter
        fun index => !pointStatePayloadEqual (s.memory.storage.entries index).valueType
          (s.memory.storage.pointStates index) state := rfl
    rw [TrackedCatalog.next, TrackedCatalog.updateState]
    cases hlookup : s.catalog.lookupIndex id with
    | none =>
      rw [hlookup] at hmarked
      exact passed_of_same hmarked rfl rfl rfl fun _ hcalled => hcalled
    | some index =>
      rw [hlookup] at hmarked
      dsimp only
      by_cases hequal : pointStatePayloadEqual (s.memory.storage.entries index).valueType
          (s.memory.storage.pointStates index) state = true
      · rw [if_pos hequal]
        rw [Option.filter_some, hequal] at hmarked
        exact passed_of_same hmarked rfl rfl rfl fun _ hcalled => hcalled
      · rw [if_neg hequal]
        rw [Bool.not_eq_true] at hequal
        rw [Option.filter_some, hequal] at hmarked
        exact h.passed_of_marked hmarked rfl (h.lookup_lt hlookup)
  | notifyStateChanged id =>
    have hmarked : s.markedIndex (.notifyStateChanged id) = s.catalog.lookupIndex id := rfl
    rw [TrackedCatalog.next, TrackedCatalog.notifyStateChanged]
    cases hlookup : s.catalog.lookupIndex id with
    | none => exact passed_of_same (hmarked.trans hlookup) rfl rfl rfl fun _ hcalled => hcalled
    | some index =>
      exact h.passed_of_marked (hmarked.trans hlookup) rfl (h.lookup_lt hlookup)
  | notifyStateChangedAt index =>
    have hmarked : s.markedIndex (.notifyStateChangedAt index) =
        if s.memory.storage.count ≤ index then none else some index := rfl
    rw [TrackedCatalog.next, TrackedCatalog.notifyStateChangedAt]
    by_cases hout : s.memory.storage.count ≤ index
    · rw [if_pos hout] at hmarked ⊢
      exact passed_of_same hmarked rfl rfl rfl fun _ hcalled => hcalled
    · rw [if_neg hout] at hmarked ⊢
      exact h.passed_of_marked hmarked rfl (Nat.not_le.mp hout)
  | peekDirtyStateIndex => exact passed_of_same rfl rfl rfl rfl fun _ hcalled => hcalled
  | popDirtyStateIndex => exact h.passed_of_popped rfl rfl
  | acknowledgeDirtyStateIndex => exact h.passed_of_popped rfl rfl
  | requestRuntimeFullSync => exact passed_of_called rfl
  | acknowledgeRuntimeFullSync =>
    exact passed_of_same rfl rfl rfl rfl fun hother _ => absurd rfl hother

end

/-! Whole runs. -/

/-- What has entered has left or is queued, in one order and with consecutive sequence numbers, the
last of which is the current one. -/
structure Recorded (r : TrackedRun) : Prop where
  ordered : r.ledger.entered = r.ledger.left ++ r.catalog.tracking.queued
  consecutive : ∀ k p, r.ledger.entered[k]? = some p →
    p.2 + UInt32.ofNat (r.ledger.entered.length - 1 - k) = r.catalog.tracking.statesSequence

theorem newEntry_cases (t : DirtyTracking) (index : Nat) :
    t.newEntry index = [] ∨ t.newEntry index = [(index, t.statesSequence + 1)] := by
  rw [DirtyTracking.newEntry]
  split
  · exact .inl rfl
  · exact .inr rfl

theorem entering_cases (s : TrackedCatalog) (operation : TrackedOperation) :
    s.entering operation = [] ∨
      ∃ index, s.entering operation = [(index, s.tracking.statesSequence + 1)] := by
  rw [TrackedCatalog.entering]
  cases s.markedIndex operation with
  | none => exact .inl rfl
  | some index =>
    cases newEntry_cases s.tracking index with
    | inl hnone => exact .inl hnone
    | inr hone => exact .inr ⟨index, hone⟩

theorem consecutive_append {entered : List (Nat × UInt32)} {sequence : UInt32}
    (h : ∀ k p, entered[k]? = some p → p.2 + UInt32.ofNat (entered.length - 1 - k) = sequence)
    (index k : Nat) {p : Nat × UInt32} (hk : (entered ++ [(index, sequence + 1)])[k]? = some p) :
    p.2 + UInt32.ofNat ((entered ++ [(index, sequence + 1)]).length - 1 - k) = sequence + 1 := by
  rw [List.length_append, List.length_singleton, Nat.add_sub_cancel]
  by_cases hold : k < entered.length
  · rw [List.getElem?_append_left hold] at hk
    have hlast : entered.length - k = entered.length - 1 - k + 1 := by omega
    rw [hlast, UInt32.ofNat_add, ← UInt32.add_assoc, h k p hk]
    rfl
  · rw [List.getElem?_append_right (Nat.not_lt.mp hold)] at hk
    have hlast : k - entered.length = 0 := by
      have hlt := (List.getElem?_eq_some_iff.mp hk).1
      rw [List.length_singleton] at hlt
      omega
    have hzero : entered.length - k = 0 := by omega
    rw [hlast, List.getElem?_cons_zero] at hk
    rw [← Option.some.inj hk, hzero]
    exact UInt32.add_zero _

theorem Recorded.next {r : TrackedRun} (h : Recorded r) (ht : Tracked r.catalog)
    (library : Library) (operation : TrackedOperation) :
    Recorded (r.next library operation) := by
  have hnext := ht.next library operation
  have hpassed := ht.passed library operation
  rw [TrackedRun.next, Ledger.next]
  cases hcalled : (r.catalog.next library operation).tracking.runtimeFullSyncRequired with
  | true =>
    rw [if_pos rfl]
    refine ⟨?_, fun k p hk => by cases hk⟩
    have hidle := hnext.ok.idle (hnext.tracks.required.symm.trans hcalled)
    have hempty : (r.catalog.next library operation).catalog.dirtyStateQueue = [] :=
      List.map_eq_nil_iff.mp hidle
    exact (hnext.tracks.queued.trans hempty).symm
  | false =>
    rw [if_neg Bool.false_ne_true]
    obtain hcalled' | ⟨hqueue, hsequence⟩ := hpassed.queue
    · rw [hcalled] at hcalled'
      cases hcalled'
    refine ⟨?_, fun k p hk => ?_⟩
    · dsimp only
      rw [List.append_assoc, hqueue, ← List.append_assoc, h.ordered]
    · dsimp only at hk ⊢
      rw [hsequence]
      obtain hnone | ⟨index, hone⟩ := entering_cases r.catalog operation
      · rw [hnone, List.append_nil] at hk ⊢
        rw [h.consecutive k p hk]
        exact (UInt32.add_zero _).symm
      · rw [hone] at hk ⊢
        exact consecutive_append h.consecutive index k hk

def TrackedRun.after (library : Library) (operations : List TrackedOperation) : TrackedRun :=
  run (TrackedRun.next library) .start operations

theorem after_sound (library : Library) (operations : List TrackedOperation) :
    Tracked (TrackedRun.after library operations).catalog ∧
      Recorded (TrackedRun.after library operations) := by
  have hstart : Tracked TrackedRun.start.catalog ∧ Recorded .start :=
    ⟨tracked_start, rfl, fun k p hk => by cases hk⟩
  have hstep : ∀ (r : TrackedRun) operation, Tracked r.catalog ∧ Recorded r → True →
      Tracked (r.next library operation).catalog ∧ Recorded (r.next library operation) :=
    fun r operation hr _ => ⟨hr.1.next library operation, hr.2.next hr.1 library operation⟩
  exact run_inv hstep hstart (along_true _ _)

theorem run_catalog (library : Library) (r : TrackedRun) (operations : List TrackedOperation) :
    (run (TrackedRun.next library) r operations).catalog =
      run (TrackedCatalog.next library) r.catalog operations := by
  induction operations generalizing r with
  | nil => rfl
  | cons operation operations ih => exact ih (r.next library operation)

def DirtyTracking.queuedIndices (t : DirtyTracking) : List Nat := t.queued.map (·.1)

/-- The point is queued, or all points are to be sent. -/
def DirtyTracking.Covers (t : DirtyTracking) (index : Nat) : Prop :=
  t.runtimeFullSyncRequired = true ∨ index ∈ t.queuedIndices

theorem Tracked.covers_next (h : Tracked s) (library : Library) {operation : TrackedOperation}
    (hother : operation ≠ .acknowledgeRuntimeFullSync) {index : Nat}
    (hcovered : s.tracking.Covers index) :
    (s.next library operation).tracking.Covers index ∨ index ∈ (s.leaving operation).map (·.1) := by
  have hpassed := h.passed library operation
  obtain hcalled | ⟨hqueue, -⟩ := hpassed.queue
  · exact .inl (.inl hcalled)
  · cases hcovered with
    | inl hcalled => exact .inl (.inl (hpassed.called hother hcalled))
    | inr hmem =>
      have hboth : index ∈ (s.leaving operation ++
          (s.next library operation).tracking.queued).map (·.1) := by
        rw [hqueue, List.map_append]
        exact List.mem_append_left _ hmem
      rw [List.map_append, List.mem_append] at hboth
      cases hboth with
      | inl hleft => exact .inr hleft
      | inr hstays => exact .inl (.inr hstays)

theorem covers_run (library : Library) {index : Nat} (operations : List TrackedOperation)
    (hother : .acknowledgeRuntimeFullSync ∉ operations) (h : Tracked s)
    (hcovered : s.tracking.Covers index) :
    (run (TrackedCatalog.next library) s operations).tracking.Covers index ∨
      ∃ before operation after, operations = before ++ operation :: after ∧
        index ∈ ((run (TrackedCatalog.next library) s before).leaving operation).map (·.1) := by
  induction operations generalizing s with
  | nil => exact .inl hcovered
  | cons operation operations ih =>
    rw [List.mem_cons, not_or] at hother
    cases h.covers_next library (Ne.symm hother.1) hcovered with
    | inr hleft => exact .inr ⟨[], operation, operations, rfl, hleft⟩
    | inl hcovered =>
      cases ih hother.2 (h.next library operation) hcovered with
      | inl hcovered => exact .inl hcovered
      | inr hlater =>
        obtain ⟨before, operation', after, rfl, hleft⟩ := hlater
        exact .inr ⟨operation :: before, operation', after, rfl, hleft⟩

structure QueueSound (r : TrackedRun) : Prop where
  distinct : r.catalog.tracking.queuedIndices.Nodup
  bound : ∀ i ∈ r.catalog.tracking.queuedIndices, i < r.catalog.memory.storage.count
  flagged : ∀ i, r.catalog.tracking.dirtyStateFlag i = true ↔ i ∈ r.catalog.tracking.queuedIndices
  first : r.catalog.tracking.peekDirtyStateIndex = r.catalog.tracking.queued.head?
  recorded : Recorded r

/-- After every history the ring holds each point at most once and in the order of marking; and a
point that was marked is queued, or has been taken out since, or all points are to be sent. -/
theorem dirtyQueue_sound (library : Library) (operations : List TrackedOperation) :
    QueueSound (TrackedRun.after library operations) ∧
      ∀ before operation rest index, operations = before ++ operation :: rest →
        (TrackedRun.after library before).catalog.markedIndex operation = some index →
        .acknowledgeRuntimeFullSync ∉ rest →
        (TrackedRun.after library operations).catalog.tracking.Covers index ∨
          ∃ middle operation' last, rest = middle ++ operation' :: last ∧
            index ∈ ((TrackedRun.after library (before ++ operation :: middle)).catalog.leaving
              operation').map (·.1) := by
  constructor
  · obtain ⟨htracked, hrecorded⟩ := after_sound library operations
    have hqueued : (TrackedRun.after library operations).catalog.tracking.queuedIndices =
        (TrackedRun.after library operations).catalog.catalog.queued := by
      rw [DirtyTracking.queuedIndices, htracked.tracks.queued]
      rfl
    refine ⟨?_, fun i hi => ?_, fun i => ?_, peekDirtyStateIndex_eq htracked.tracks.head, hrecorded⟩
    · rw [hqueued]
      exact htracked.ok.nodup
    · rw [hqueued] at hi
      rw [htracked.count]
      exact htracked.ok.bound i hi
    · rw [hqueued, htracked.tracks.flags]
      exact htracked.ok.flags i
  · intro before operation rest index hsplit hmarked hother
    have htracked := (after_sound library before).1
    have hrun (more : List TrackedOperation) :
        (TrackedRun.after library (before ++ operation :: more)).catalog =
          run (TrackedCatalog.next library)
            ((TrackedRun.after library before).catalog.next library operation) more := by
      rw [TrackedRun.after, run_catalog, run, List.foldl_append, TrackedRun.after, run_catalog]
      rfl
    have hcovered := (htracked.passed library operation).marked index hmarked
    obtain hcovers | ⟨middle, operation', last, hrest, hleft⟩ :=
      covers_run library rest hother (htracked.next library operation) hcovered
    · rw [hsplit, hrun]
      exact .inl hcovers
    · rw [← hrun] at hleft
      exact .inr ⟨middle, operation', last, hrest, hleft⟩

end NodeNet.Catalog

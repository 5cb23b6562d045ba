import NodeNet.Lib.Machine
import NodeNet.Link.RecordBytes

/-! The queue of point updates between the link and its consumers, and what a consumer misses. -/
namespace NodeNet.UpdateQueue
open Machine
open Link (CachedStateRecord CharArray)

def kMaxPendingPointUpdates : Nat := 512

structure PendingPointUpdate where
  pointIndex : UInt16
  sequence : UInt32
  deriving DecidableEq

structure PointUpdate where
  sequence : UInt32
  state : CachedStateRecord
  deriving DecidableEq

/-- What the state lock guards; the pending updates stand oldest first. -/
structure Cache where
  stateRecords : List CachedStateRecord
  statesSequence : UInt32
  pendingPointUpdates : List PendingPointUpdate
  /-- The last snapshot that was begun is complete. -/
  statesResponseSeen : Bool

def Cache.start : Cache := ⟨[], 0, [], false⟩

def emptyRecord : CachedStateRecord := ⟨⟨0, 0, 0, 0, 0, 0⟩, .of 64 []⟩

def enqueuePendingPointUpdate (pending : List PendingPointUpdate) (pointIndex : UInt16)
    (sequence : UInt32) : List PendingPointUpdate :=
  (if pending.length = kMaxPendingPointUpdates then pending.tail else pending) ++
    [⟨pointIndex, sequence⟩]

def resetStateCache (c : Cache) (pointCount : Nat) : Cache :=
  { c with
    stateRecords := List.replicate pointCount emptyRecord
    statesSequence := 0
    pendingPointUpdates := [] }

def growTo (count : Nat) (records : List CachedStateRecord) : List CachedStateRecord :=
  records ++ List.replicate (count - records.length) emptyRecord

def cacheRecord (records : List CachedStateRecord) (cached : CachedStateRecord) :
    List CachedStateRecord :=
  records.set cached.record.pointIndex.toNat cached

def storeSnapshotChunk (c : Cache) (totalPointCount : Nat) (statesSequenceBase : UInt32)
    (records : List CachedStateRecord) : Cache :=
  { c with
    stateRecords := records.foldl cacheRecord (growTo totalPointCount c.stateRecords)
    statesSequence := statesSequenceBase }

def storeUpdate (statesSequence : UInt32) (c : Cache) (cached : CachedStateRecord) : Cache :=
  { c with
    stateRecords :=
      cacheRecord (growTo (cached.record.pointIndex.toNat + 1) c.stateRecords) cached
    pendingPointUpdates :=
      enqueuePendingPointUpdate c.pendingPointUpdates cached.record.pointIndex statesSequence }

def storeUpdateChunk (c : Cache) (statesSequence : UInt32) (records : List CachedStateRecord) :
    Cache :=
  { records.foldl (storeUpdate statesSequence) c with statesSequence := statesSequence }

/-- The update that is handed out, if the consumer gives a place for it and gets the lock. -/
def popPointUpdate (outUpdate locked : Bool) (c : Cache) : Option PointUpdate × Cache :=
  if !outUpdate then (none, c)
  else if !locked then (none, c)
  else
    match c.pendingPointUpdates with
    | [] => (none, c)
    | pending :: rest =>
      (c.stateRecords[pending.pointIndex.toNat]?.map fun state => ⟨pending.sequence, state⟩,
        { c with pendingPointUpdates := rest })

inductive Event where
  /-- A snapshot is begun over an empty cache. -/
  | restart (pointCount : Nat)
  /-- A snapshot is begun behind the one that is published. -/
  | resync
  | snapshotChunk (totalPointCount : Nat) (statesSequenceBase : UInt32)
      (records : List CachedStateRecord) (more : Bool)
  | updateChunk (statesSequence : UInt32) (records : List CachedStateRecord)
  | pop (outUpdate locked : Bool)

def next (c : Cache) : Event → Cache
  | .restart pointCount => { resetStateCache c pointCount with statesResponseSeen := false }
  | .resync => { c with statesSequence := 0, statesResponseSeen := false }
  | .snapshotChunk totalPointCount statesSequenceBase records more =>
    -- chunks are read as long as the snapshot is not complete
    if c.statesResponseSeen then c
    else
      { storeSnapshotChunk c totalPointCount statesSequenceBase records with
        statesResponseSeen := !more }
  | .updateChunk statesSequence records => storeUpdateChunk c statesSequence records
  | .pop outUpdate locked => (popPointUpdate outUpdate locked c).2

/-! What the consumer is owed. -/

/-- What happened to the points, the last one first. -/
inductive Seen where
  | changed (pointIndex : UInt16)
  | returned (pointIndex : UInt16)
  | snapshot
  deriving DecidableEq

def note (c : Cache) (e : Event) (h : List Seen) : List Seen :=
  match e with
  | .restart _ => h
  | .resync => h
  | .snapshotChunk _ _ _ more => if c.statesResponseSeen || more then h else .snapshot :: h
  | .updateChunk _ records => (records.map fun r => Seen.changed r.record.pointIndex).reverse ++ h
  | .pop outUpdate locked =>
    match (popPointUpdate outUpdate locked c).1 with
    | none => h
    | some update => .returned update.state.record.pointIndex :: h

/-- The point was changed by an update after the last complete snapshot and was not returned at or
after its last change. -/
def Owed (p : UInt16) : List Seen → Prop
  | [] => False
  | .snapshot :: _ => False
  | .returned q :: h => q ≠ p ∧ Owed p h
  | .changed q :: h => q = p ∨ Owed p h

instance Owed.decidable (p : UInt16) : ∀ h, Decidable (Owed p h)
  | [] => inferInstanceAs (Decidable False)
  | .snapshot :: _ => inferInstanceAs (Decidable False)
  | .returned _ :: h => @instDecidableAnd _ _ _ (Owed.decidable p h)
  | .changed _ :: h => @instDecidableOr _ _ _ (Owed.decidable p h)

abbrev step : Cache × List Seen → Event → Cache × List Seen := observed next note

def pendingPoints (c : Cache) : List UInt16 := c.pendingPointUpdates.map (·.pointIndex)

def changedPoints (records : List CachedStateRecord) : List UInt16 :=
  records.map (·.record.pointIndex)

def lastPoints (points : List UInt16) : List UInt16 :=
  points.drop (points.length - kMaxPendingPointUpdates)

/-- The points of the queue and of a frame behind it that have room. -/
def keptPoints (c : Cache) (records : List CachedStateRecord) : List UInt16 :=
  lastPoints (pendingPoints c ++ changedPoints records)

/-- While a snapshot is complete, no frame pushes the last entry of a point that is owed out of the
queue. -/
def KeepsOwed (s : Cache × List Seen) : Event → Prop
  | .updateChunk _ records =>
    s.1.statesResponseSeen = true →
      ∀ p ∈ pendingPoints s.1 ++ changedPoints records,
        Owed p s.2 ∨ p ∈ changedPoints records → p ∈ keptPoints s.1 records
  | .restart _ | .resync | .snapshotChunk _ _ _ _ | .pop _ _ => True

theorem owed_changed {p : UInt16} {h : List Seen} (records : List CachedStateRecord) :
    Owed p ((records.map fun r => Seen.changed r.record.pointIndex).reverse ++ h) ↔
      p ∈ changedPoints records ∨ Owed p h := by
  have hlist : ∀ points : List UInt16, Owed p (points.map Seen.changed ++ h) ↔
      p ∈ points ∨ Owed p h := by
    intro points
    induction points with
    | nil => simp
    | cons q points ih =>
      rw [List.map_cons, List.cons_append, Owed, ih, List.mem_cons, or_assoc, eq_comm]
  have hreverse : (records.map fun r => Seen.changed r.record.pointIndex).reverse =
      (changedPoints records).reverse.map Seen.changed := by
    rw [← List.map_reverse, changedPoints, ← List.map_reverse, List.map_map]
    rfl
  rw [hreverse, hlist, List.mem_reverse]

/-! The queue. -/

theorem lastPoints_append (a b : List UInt16) :
    lastPoints (lastPoints a ++ b) = lastPoints (a ++ b) := by
  have hsplit : lastPoints a ++ b = (a ++ b).drop (a.length - kMaxPendingPointUpdates) := by
    rw [List.drop_append_of_le_length (Nat.sub_le _ _)]
    rfl
  have hcount : a.length - kMaxPendingPointUpdates +
      (a.length + b.length - (a.length - kMaxPendingPointUpdates) - kMaxPendingPointUpdates) =
        a.length + b.length - kMaxPendingPointUpdates := by
    generalize kMaxPendingPointUpdates = size
    omega
  rw [hsplit, lastPoints, lastPoints, List.drop_drop, List.length_drop, List.length_append,
    hcount]

theorem lastPoints_of_le {points : List UInt16} (h : points.length ≤ kMaxPendingPointUpdates) :
    lastPoints points = points := by
  rw [lastPoints, Nat.sub_eq_zero_of_le h, List.drop_zero]

theorem points_enqueue {pending : List PendingPointUpdate}
    (h : pending.length ≤ kMaxPendingPointUpdates) (pointIndex : UInt16) (sequence : UInt32) :
    (enqueuePendingPointUpdate pending pointIndex sequence).map (·.pointIndex) =
      lastPoints (pending.map (·.pointIndex) ++ [pointIndex]) := by
  unfold enqueuePendingPointUpdate
  by_cases hfull : pending.length = kMaxPendingPointUpdates
  · rw [if_pos hfull, lastPoints]
    have hone : (pending.map (·.pointIndex) ++ [pointIndex]).length -
        kMaxPendingPointUpdates = 1 := by
      rw [List.length_append, List.length_map, hfull, List.length_singleton,
        Nat.add_sub_cancel_left]
    have hpos : 1 ≤ (pending.map (·.pointIndex)).length := by
      rw [List.length_map, hfull]
      decide
    rw [hone, List.drop_append_of_le_length hpos]
    simp
  · rw [if_neg hfull, lastPoints_of_le]
    · simp
    · rw [List.length_append, List.length_map, List.length_singleton]
      omega

theorem length_enqueue {pending : List PendingPointUpdate}
    (h : pending.length ≤ kMaxPendingPointUpdates) (pointIndex : UInt16) (sequence : UInt32) :
    (enqueuePendingPointUpdate pending pointIndex sequence).length ≤
      kMaxPendingPointUpdates := by
  have hpoints := congrArg List.length (points_enqueue h pointIndex sequence)
  rw [List.length_map, lastPoints, List.length_drop] at hpoints
  omega

/-- The entry's record is in the cache, and is the one of its point. -/
def Stored (records : List CachedStateRecord) (e : PendingPointUpdate) : Prop :=
  ∃ cached, records[e.pointIndex.toNat]? = some cached ∧ cached.record.pointIndex = e.pointIndex

variable {records : List CachedStateRecord} {e : PendingPointUpdate}

theorem Stored.growTo (h : Stored records e) (count : Nat) : Stored (growTo count records) e := by
  obtain ⟨cached, hcached, hindex⟩ := h
  refine ⟨cached, ?_, hindex⟩
  have hlt := (List.getElem?_eq_some_iff.mp hcached).1
  rw [UpdateQueue.growTo, List.getElem?_append_left hlt, hcached]

theorem Stored.cacheRecord (h : Stored records e) (cached : CachedStateRecord) :
    Stored (cacheRecord records cached) e := by
  obtain ⟨old, hold, hindex⟩ := h
  rw [UpdateQueue.cacheRecord]
  by_cases heq : cached.record.pointIndex = e.pointIndex
  · have hlt := (List.getElem?_eq_some_iff.mp hold).1
    exact ⟨cached, by rw [heq, List.getElem?_set_self hlt], heq⟩
  · refine ⟨old, ?_, hindex⟩
    rw [List.getElem?_set_ne (fun h => heq (UInt16.toNat_inj.mp h)), hold]

theorem stored_update (records : List CachedStateRecord) (cached : CachedStateRecord)
    (sequence : UInt32) :
    Stored (cacheRecord (growTo (cached.record.pointIndex.toNat + 1) records) cached)
      ⟨cached.record.pointIndex, sequence⟩ := by
  refine ⟨cached, ?_, rfl⟩
  rw [cacheRecord, List.getElem?_set_self]
  rw [growTo, List.length_append, List.length_replicate]
  omega

/-! What holds of the cache along a run. -/

structure CacheOk (c : Cache) : Prop where
  room : c.pendingPointUpdates.length ≤ kMaxPendingPointUpdates
  stored : ∀ e ∈ c.pendingPointUpdates, Stored c.stateRecords e

variable {c : Cache}

theorem cacheOk_storeUpdate (h : CacheOk c) (statesSequence : UInt32) (cached : CachedStateRecord) :
    CacheOk (storeUpdate statesSequence c cached) where
  room := length_enqueue h.room _ _
  stored e he := by
    have hkept : e ∈ c.pendingPointUpdates ∨ e = ⟨cached.record.pointIndex, statesSequence⟩ := by
      rcases List.mem_append.mp he with hold | hnew
      · refine .inl ?_
        by_cases hfull : c.pendingPointUpdates.length = kMaxPendingPointUpdates
        · rw [if_pos hfull] at hold
          exact List.mem_of_mem_tail hold
        · rw [if_neg hfull] at hold
          exact hold
      · exact .inr (List.mem_singleton.mp hnew)
    rcases hkept with hold | rfl
    · exact ((h.stored e hold).growTo _).cacheRecord cached
    · exact stored_update _ _ _

theorem cacheOk_updates (h : CacheOk c) (statesSequence : UInt32)
    (records : List CachedStateRecord) :
    CacheOk (records.foldl (storeUpdate statesSequence) c) := by
  induction records generalizing c with
  | nil => exact h
  | cons r records ih => exact ih (cacheOk_storeUpdate h statesSequence r)

theorem stored_snapshot (h : Stored records e) (chunk : List CachedStateRecord) :
    Stored (chunk.foldl cacheRecord records) e := by
  induction chunk generalizing records with
  | nil => exact h
  | cons r chunk ih => exact ih (h.cacheRecord r)

theorem points_updates (h : CacheOk c) (statesSequence : UInt32)
    (records : List CachedStateRecord) :
    pendingPoints (records.foldl (storeUpdate statesSequence) c) = keptPoints c records := by
  induction records generalizing c with
  | nil =>
    rw [keptPoints, changedPoints, List.map_nil, List.append_nil, lastPoints_of_le]
    · rfl
    · rw [pendingPoints, List.length_map]
      exact h.room
  | cons r records ih =>
    have hfirst : pendingPoints (storeUpdate statesSequence c r) =
        lastPoints (pendingPoints c ++ [r.record.pointIndex]) := points_enqueue h.room _ _
    rw [List.foldl_cons, ih (cacheOk_storeUpdate h statesSequence r), keptPoints, hfirst,
      lastPoints_append, List.append_assoc]
    rfl

theorem pop_cases (h : CacheOk c) :
    (c.pendingPointUpdates = [] ∧ popPointUpdate true true c = (none, c)) ∨
      ∃ e rest update, c.pendingPointUpdates = e :: rest ∧
        update.state.record.pointIndex = e.pointIndex ∧
        popPointUpdate true true c = (some update, { c with pendingPointUpdates := rest }) := by
  cases hpending : c.pendingPointUpdates with
  | nil => exact .inl ⟨rfl, by simp [popPointUpdate, hpending]⟩
  | cons e rest =>
    obtain ⟨cached, hcached, hindex⟩ := h.stored e (hpending ▸ List.mem_cons_self)
    exact .inr ⟨e, rest, ⟨e.sequence, cached⟩, rfl, hindex, by
      simp [popPointUpdate, hpending, hcached]⟩

theorem pop_other {outUpdate locked : Bool} (h : ¬(outUpdate = true ∧ locked = true)) :
    popPointUpdate outUpdate locked c = (none, c) := by
  cases outUpdate <;> cases locked <;> first | rfl | exact absurd ⟨rfl, rfl⟩ h

/-- Each point that is owed waits in the queue. -/
structure Inv (s : Cache × List Seen) : Prop where
  cache : CacheOk s.1
  owed : s.1.statesResponseSeen = true → ∀ p, Owed p s.2 → p ∈ pendingPoints s.1

theorem cacheOk_start : CacheOk Cache.start where
  room := Nat.zero_le _
  stored _ he := absurd he List.not_mem_nil

theorem inv_start : Inv (Cache.start, []) where
  cache := cacheOk_start
  owed _ _ howed := howed.elim

variable {s : Cache × List Seen}

theorem cacheOk_step (h : CacheOk s.1) (e : Event) : CacheOk (step s e).1 := by
  cases e with
  | restart pointCount => exact ⟨Nat.zero_le _, fun e he => absurd he List.not_mem_nil⟩
  | resync => exact ⟨h.room, h.stored⟩
  | snapshotChunk totalPointCount statesSequenceBase records more =>
    simp only [step, observed, next]
    by_cases hseen : s.1.statesResponseSeen = true
    · rw [if_pos hseen]
      exact h
    · rw [if_neg hseen]
      exact ⟨h.room, fun e he => stored_snapshot ((h.stored e he).growTo _) records⟩
  | updateChunk statesSequence records =>
    have hfold := cacheOk_updates h statesSequence records
    exact ⟨hfold.room, hfold.stored⟩
  | pop outUpdate locked =>
    change CacheOk (popPointUpdate outUpdate locked s.1).2
    by_cases hthrough : outUpdate = true ∧ locked = true
    · obtain ⟨rfl, rfl⟩ := hthrough
      rcases pop_cases h with ⟨-, hpop⟩ | ⟨e, rest, update, hpending, -, hpop⟩
      · rw [hpop]
        exact h
      · rw [hpop]
        have hroom := h.room
        rw [hpending, List.length_cons] at hroom
        exact ⟨Nat.le_of_succ_le hroom, fun e' he' =>
          h.stored e' (hpending ▸ List.mem_cons_of_mem e he')⟩
    · rw [pop_other hthrough]
      exact h

theorem inv_step (s : Cache × List Seen) (e : Event) (h : Inv s) (hkeeps : KeepsOwed s e) :
    Inv (step s e) := by
  refine ⟨cacheOk_step h.cache e, ?_⟩
  cases e with
  | restart pointCount => exact fun hseen => absurd hseen Bool.false_ne_true
  | resync => exact fun hseen => absurd hseen Bool.false_ne_true
  | snapshotChunk totalPointCount statesSequenceBase records more =>
    simp only [step, observed, next, note]
    by_cases hseen : s.1.statesResponseSeen = true
    · rw [if_pos hseen, if_pos (by rw [hseen]; rfl)]
      exact h.owed
    · rw [if_neg hseen]
      intro hmore p howed
      have hlast : more = false := by simpa using hmore
      rw [if_neg (by rw [hlast]; simpa using hseen)] at howed
      exact howed.elim
  | updateChunk statesSequence records =>
    intro hseen p howed
    have hcomplete : s.1.statesResponseSeen = true := by
      have hfold : ∀ (l : List CachedStateRecord) (c : Cache),
          (l.foldl (storeUpdate statesSequence) c).statesResponseSeen =
            c.statesResponseSeen := by
        intro l
        induction l with
        | nil => exact fun c => rfl
        | cons r l ih => exact fun c => ih _
      exact (hfold records s.1).symm.trans hseen
    have howed' := (owed_changed records).mp howed
    have hqueued : p ∈ pendingPoints s.1 ++ changedPoints records :=
      List.mem_append.mpr (howed'.symm.imp_left (h.owed hcomplete p))
    have hkept := hkeeps hcomplete p hqueued howed'.symm
    rw [← points_updates h.cache statesSequence records] at hkept
    exact hkept
  | pop outUpdate locked =>
    change (popPointUpdate outUpdate locked s.1).2.statesResponseSeen = true →
      ∀ p, Owed p (note s.1 (.pop outUpdate locked) s.2) →
        p ∈ pendingPoints (popPointUpdate outUpdate locked s.1).2
    rw [note]
    by_cases hthrough : outUpdate = true ∧ locked = true
    · obtain ⟨rfl, rfl⟩ := hthrough
      rcases pop_cases h.cache with ⟨-, hpop⟩ | ⟨e, rest, update, hpending, hindex, hpop⟩
      · rw [hpop]
        exact h.owed
      · rw [hpop]
        intro hseen p howed
        have hin := h.owed hseen p howed.2
        rw [pendingPoints, hpending, List.map_cons] at hin
        rcases List.mem_cons.mp hin with hfirst | hrest
        · exact absurd (hindex.trans hfirst.symm) howed.1
        · exact hrest
    · rw [pop_other hthrough]
      exact h.owed

/-- A pop that gets the lock and finds nothing leaves nothing owed. -/
theorem pops_deliver {events : List Event} (h : Along step KeepsOwed (Cache.start, []) events)
    (hseen : (run step (Cache.start, []) events).1.statesResponseSeen = true)
    (hpop : (popPointUpdate true true (run step (Cache.start, []) events).1).1 = none)
    (p : UInt16) : ¬Owed p (run step (Cache.start, []) events).2 := by
  have hinv : Inv (run step (Cache.start, []) events) := run_inv inv_step inv_start h
  intro howed
  have hin := hinv.owed hseen p howed
  rcases pop_cases hinv.cache with ⟨hempty, -⟩ | ⟨e, rest, update, -, -, hsome⟩
  · rw [pendingPoints, hempty] at hin
    exact absurd hin List.not_mem_nil
  · rw [hsome] at hpop
    cases hpop

def sampleRecord (pointIndex : UInt16) : CachedStateRecord :=
  ⟨⟨pointIndex, 3, 1, 7, 0, 0⟩, .of 64 []⟩

def snapshotOf (pointCount : Nat) : List Event :=
  [.restart pointCount, .snapshotChunk pointCount 0 [] false]

theorem pops_deliver_sample : ¬Owed 0 (run step (Cache.start, [])
    (snapshotOf 1 ++ [.updateChunk 1 [sampleRecord 0], .pop true true])).2 := by
  have hkeeps : Along step KeepsOwed (Cache.start, [])
      (snapshotOf 1 ++ [.updateChunk 1 [sampleRecord 0], .pop true true]) := by
    refine ⟨trivial, trivial, fun _ p _ hp => ?_, trivial, trivial⟩
    rcases hp with howed | hin
    · exact howed.elim
    · exact hin
  exact pops_deliver hkeeps (by decide) (by decide) 0

/-! What happens where a frame pushes out what is owed. -/

theorem drained (h : CacheOk s.1) (hseen : s.1.statesResponseSeen = true) {p : UInt16}
    (howed : Owed p s.2) (hlost : p ∉ pendingPoints s.1) :
    ∃ s', run step s (List.replicate s.1.pendingPointUpdates.length (.pop true true)) = s' ∧
      s'.1.statesResponseSeen = true ∧ (popPointUpdate true true s'.1).1 = none ∧ Owed p s'.2 := by
  obtain ⟨c, history⟩ := s
  generalize hn : c.pendingPointUpdates.length = n
  induction n generalizing c history with
  | zero =>
    refine ⟨(c, history), rfl, hseen, ?_, howed⟩
    rcases pop_cases h with ⟨-, hpop⟩ | ⟨e, rest, update, hpending, -, -⟩
    · exact congrArg Prod.fst hpop
    · rw [show c.pendingPointUpdates = e :: rest from hpending] at hn
      cases hn
  | succ n ih =>
    rcases pop_cases h with ⟨hempty, -⟩ | ⟨e, rest, update, hpending, hindex, hpop⟩
    · rw [show c.pendingPointUpdates = [] from hempty] at hn
      cases hn
    · have hnext : step (c, history) (.pop true true) =
          ({ c with pendingPointUpdates := rest },
            .returned update.state.record.pointIndex :: history) := by
        simp only [step, observed, next, note]
        rw [hpop]
      have hrest : rest.length = n := by
        rw [show c.pendingPointUpdates = e :: rest from hpending, List.length_cons] at hn
        omega
      have hpoints : pendingPoints c = e.pointIndex :: rest.map (·.pointIndex) := by
        rw [pendingPoints, show c.pendingPointUpdates = e :: rest from hpending, List.map_cons]
      have hne : p ≠ e.pointIndex ∧ p ∉ rest.map (·.pointIndex) := by
        rw [show pendingPoints c = _ from hpoints, List.mem_cons, not_or] at hlost
        exact hlost
      have hok := cacheOk_step h (.pop true true)
      rw [hnext] at hok
      have hagain := ih { c with pendingPointUpdates := rest }
        (.returned update.state.record.pointIndex :: history) hok hseen
        ⟨fun heq => hne.1 (heq.symm.trans hindex), howed⟩ hne.2 hrest
      rw [List.replicate_succ]
      change ∃ s', run step (step (c, history) (.pop true true)) _ = s' ∧ _
      rw [hnext]
      exact hagain

theorem frames_run (h : CacheOk s.1) (points : List UInt16) :
    ∃ s', run step s (points.map fun p => .updateChunk 1 [sampleRecord p]) = s' ∧ CacheOk s'.1 ∧
      s'.1.statesResponseSeen = s.1.statesResponseSeen ∧
      pendingPoints s'.1 = lastPoints (pendingPoints s.1 ++ points) ∧
      ∀ p, Owed p s'.2 ↔ p ∈ points ∨ Owed p s.2 := by
  induction points generalizing s with
  | nil =>
    refine ⟨s, rfl, h, rfl, ?_, fun p => by simp⟩
    rw [List.append_nil, lastPoints_of_le]
    rw [pendingPoints, List.length_map]
    exact h.room
  | cons q points ih =>
    have hok := cacheOk_step h (.updateChunk 1 [sampleRecord q])
    obtain ⟨s', hrun, hok', hseen, hpending, howed⟩ := ih hok
    have hfirst : pendingPoints (step s (.updateChunk 1 [sampleRecord q])).1 =
        lastPoints (pendingPoints s.1 ++ [q]) := points_updates h 1 [sampleRecord q]
    refine ⟨s', hrun, hok', hseen, ?_, fun p => ?_⟩
    · rw [hpending, hfirst, lastPoints_append, List.append_assoc, List.singleton_append]
    · have hone : Owed p (step s (.updateChunk 1 [sampleRecord q])).2 ↔
          p ∈ [q] ∨ Owed p s.2 := owed_changed [sampleRecord q]
      simp only [howed, hone, List.mem_cons, List.not_mem_nil, false_or, or_assoc, or_left_comm]

/-- One point more than the queue has room for. -/
def manyPoints : List UInt16 := (List.range 513).map UInt16.ofNat

def manyFrames : List Event := manyPoints.map fun p => .updateChunk 1 [sampleRecord p]

/-- A consumer that waits until the queue is full misses the first point, and one that does not get
the lock is told that there is nothing. -/
theorem pops_miss :
    (∃ s, run step (Cache.start, [])
        (snapshotOf 513 ++ manyFrames ++ List.replicate 512 (.pop true true)) = s ∧
      s.1.statesResponseSeen = true ∧ (popPointUpdate true true s.1).1 = none ∧ Owed 0 s.2) ∧
    ∃ s, run step (Cache.start, []) (snapshotOf 1 ++ [.updateChunk 1 [sampleRecord 0]]) = s ∧
      s.1.statesResponseSeen = true ∧ (popPointUpdate true false s.1).1 = none ∧ Owed 0 s.2 := by
  constructor
  · generalize hs : run step (Cache.start, []) (snapshotOf 513) = s
    have hok : CacheOk s.1 := by
      rw [← hs]
      exact cacheOk_step (cacheOk_step cacheOk_start _) _
    have hseen : s.1.statesResponseSeen = true := by rw [← hs]; rfl
    have hpending : pendingPoints s.1 = [] := by rw [← hs]; rfl
    obtain ⟨s', hrun, hok', hseen', hpending', howed⟩ := frames_run hok manyPoints
    rw [hpending, List.nil_append] at hpending'
    have hlost : 0 ∉ pendingPoints s'.1 := by
      rw [hpending']
      decide +kernel
    have hlength : s'.1.pendingPointUpdates.length = 512 := by
      have hmap := congrArg List.length hpending'
      rw [pendingPoints, List.length_map] at hmap
      rw [hmap]
      decide +kernel
    have hdrain := drained hok' (hseen'.trans hseen) ((howed 0).mpr (.inl (by decide +kernel)))
      hlost
    rw [hlength] at hdrain
    have hsplit : run step (Cache.start, [])
        (snapshotOf 513 ++ manyFrames ++ List.replicate 512 (.pop true true)) =
          run step s' (List.replicate 512 (.pop true true)) := by
      rw [run, List.foldl_append, List.foldl_append]
      change run step (run step (run step _ _) manyFrames) _ = _
      rw [hs, manyFrames, hrun]
    rw [hsplit]
    exact hdrain
  · exact ⟨_, rfl, by decide, by decide, by decide⟩

end NodeNet.UpdateQueue

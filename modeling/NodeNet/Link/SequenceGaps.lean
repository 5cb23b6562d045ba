import Mathlib.Tactic.SplitIfs
import NodeNet.Link.Converges

/-! Update frames that are lost, and which of the losses the ESP32 notices. -/
namespace NodeNet.Link
open NodeNet.Machine NodeNet.Points NodeNet.Catalog

def Payload.isUpdate : Payload → Bool
  | .statesUpdates _ _ => true
  | .caps _ _ _ _ | .defsSnapshot _ _ | .statesSnapshot _ _ | .writeState _ _ | .error _ _ => false

inductive LossyEvent where
  | link (e : LinkEvent)
  /-- The update frame in the mailbox never arrives. -/
  | loseUpdate

def LinkState.lossyNext (s : LinkState) : LossyEvent → LinkState
  | .link e => s.next e
  | .loseUpdate =>
    match s.response with
    | none => s
    | some f => if f.payload.isUpdate then { s with response := none } else s

/-- The least base of the snapshot's chunks, the updates that are applied since its first chunk, and
whether one of them came after its last chunk. -/
structure Heard where
  base : UInt32
  applied : List UInt32
  current : Bool

def heard (s : Esp) (f : Frame) (as : Esp.ReadAs) (h : Heard) : Heard :=
  match f.payload with
  | .statesSnapshot chunk _ =>
    if as = .states then
      if s.nextStatesStartIndex = 0 then ⟨chunk.statesSequenceBase, [], false⟩
      else ⟨min h.base chunk.statesSequenceBase, h.applied, false⟩
    else h
  | .statesUpdates statesSequence records =>
    let otherGeneration :=
      as = .unsolicited && s.capsResponseSeen && f.generation ≠ s.defsGeneration
    if records = [] || otherGeneration then h else ⟨h.base, statesSequence :: h.applied, true⟩
  | .caps _ _ _ _ | .defsSnapshot _ _ | .writeState _ _ | .error _ _ => h

def LinkState.heardBy (s : LinkState) (h : Heard) : Esp.PollAction → Heard
  | .read as =>
    match s.response with
    | none => h
    | some f => heard s.esp f as h
  | _ => h

def LinkState.note (s : LinkState) (e : LossyEvent) (h : Heard) : Heard :=
  match e with
  | .link (.poll timedOut) =>
    s.heardBy h (s.esp.pollAction s.request.isSome s.response.isSome timedOut)
  | _ => h

abbrev lossyStep : LinkState × Heard → LossyEvent → LinkState × Heard :=
  observed LinkState.lossyNext LinkState.note

/-- Outside a resync, once an update is processed, every update after the snapshot's base up to the
local sequence is applied. -/
def Complete (s : LinkState × Heard) : Prop :=
  s.1.esp.statesResponseSeen = true → s.2.current = true →
    ∀ q, s.2.base < q → q ≤ s.1.esp.statesSequence → q ∈ s.2.applied

/-! When losses show. -/

/-- A chunk of the snapshot is there, or all of it. -/
def Esp.countsUpdates (s : Esp) : Bool := s.statesResponseSeen || s.nextStatesStartIndex ≠ 0

/-- The update `q` is one of those that the snapshot and its updates must have brought. -/
def Passed (s : Esp) (h : Heard) (q : UInt32) : Prop :=
  s.countsUpdates = true ∧ h.base < q ∧ q ≤ s.statesSequence

def Frame.updateSequence (f : Frame) : Option UInt32 :=
  match f.payload with
  | .statesUpdates statesSequence (_ :: _) => some statesSequence
  | _ => none

/-- The number comes up in the list, behind smaller ones only. -/
def comesUp (q : UInt32) : List UInt32 → Bool
  | [] => false
  | p :: rest => p = q || (p < q && comesUp q rest)

/-- The numbers of the updates that the SoC has still to bring. -/
structure Outgoing where
  mailed : Option UInt32
  queue : List UInt32
  counter : UInt32

def LinkState.outgoing (s : LinkState) : Outgoing where
  mailed := s.response.bind Frame.updateSequence
  queue := s.catalog.dirtyStateQueue.map (·.2)
  counter := s.catalog.statesSequence

/-- The update that is read over the local sequence 0 is the first one. -/
def StartsAtOne (s : LinkState) : Prop :=
  s.esp.countsUpdates = true → s.esp.statesSequence = 0 → ∀ q ∈ s.outgoing.mailed, q ≤ 1

/-- The updates that a later chunk of a snapshot passes over are queued. -/
def PassesQueued (s : LinkState) : Prop :=
  s.esp.statesResponseSeen = false → s.esp.nextStatesStartIndex ≠ 0 → ∀ chunk ∈ s.chunkUnderWay,
    ∀ q, s.esp.statesSequence < q → q ≤ chunk.statesSequenceBase →
      chunk.statesSequenceBase ≤ s.outgoing.counter ∧ comesUp q s.outgoing.queue = true

/-- What is asked of a poll, of a loss, and of a step that sets the SoC's sequence back to 0. -/
def LossesShow (s : LinkState × Heard) : LossyEvent → Prop
  | .link (.poll _) => StartsAtOne s.1 ∧ PassesQueued s.1
  | .link e => (s.1.next e).catalog.statesSequence = 0 →
      ∀ q, s.2.base < q → q ≤ s.1.esp.statesSequence → s.1.esp.countsUpdates = true →
        q ∈ s.2.applied
  | .loseUpdate => ∀ q ∈ s.1.outgoing.mailed, ¬ Passed s.1.esp s.2 q

/-- The numbers after `a`, up to `b`. -/
def numbersBetween (a b : UInt32) : List UInt32 :=
  (List.range (b.toNat - a.toNat)).map fun i => UInt32.ofNat (a.toNat + 1 + i)

theorem mem_numbersBetween {a b q : UInt32} : q ∈ numbersBetween a b ↔ a < q ∧ q ≤ b := by
  rw [numbersBetween, List.mem_map, UInt32.lt_iff_toNat_lt, UInt32.le_iff_toNat_le]
  constructor
  · rintro ⟨i, hi, rfl⟩
    have hb := b.toNat_lt
    rw [List.mem_range] at hi
    have hsize : UInt32.size = 2 ^ 32 := rfl
    rw [UInt32.toNat_ofNat_of_lt' (by omega)]
    omega
  · rintro ⟨hlt, hle⟩
    refine ⟨q.toNat - a.toNat - 1, List.mem_range.mpr (by omega), ?_⟩
    rw [show a.toNat + 1 + (q.toNat - a.toNat - 1) = q.toNat by omega, UInt32.ofNat_toNat]

theorem forall_numbersBetween {a b : UInt32} {P : UInt32 → Prop} :
    (∀ q ∈ numbersBetween a b, P q) ↔ ∀ q, a < q → q ≤ b → P q :=
  forall_congr' fun _ => by rw [mem_numbersBetween, and_imp]

instance (s : Esp) (h : Heard) (q : UInt32) : Decidable (Passed s h q) :=
  inferInstanceAs (Decidable (_ ∧ _ ∧ _))

-- Numbers are decided one after the other: deciding them over the whole type would not end.
instance (s : LinkState) : Decidable (StartsAtOne s) :=
  have : Decidable (∀ q ∈ s.outgoing.mailed, q ≤ 1) := Option.decidableForallMem _
  inferInstanceAs (Decidable (_ → _ → ∀ q ∈ s.outgoing.mailed, q ≤ 1))

instance (s : LinkState) : Decidable (PassesQueued s) :=
  have (chunk : StatesSnapshotChunkPrefix) :
      Decidable (∀ q ∈ numbersBetween s.esp.statesSequence chunk.statesSequenceBase,
        chunk.statesSequenceBase ≤ s.outgoing.counter ∧ comesUp q s.outgoing.queue = true) :=
    List.decidableBAll _ _
  decidable_of_iff (s.esp.statesResponseSeen = false → s.esp.nextStatesStartIndex ≠ 0 →
      ∀ chunk ∈ s.chunkUnderWay,
        ∀ q ∈ numbersBetween s.esp.statesSequence chunk.statesSequenceBase,
          chunk.statesSequenceBase ≤ s.outgoing.counter ∧ comesUp q s.outgoing.queue = true)
    (imp_congr_right fun _ => imp_congr_right fun _ => forall_congr' fun _ =>
      imp_congr_right fun _ => forall_numbersBetween)

instance (s : LinkState × Heard) (e : LossyEvent) : Decidable (LossesShow s e) :=
  have : Decidable (∀ q ∈ numbersBetween s.2.base s.1.esp.statesSequence,
      s.1.esp.countsUpdates = true → q ∈ s.2.applied) := List.decidableBAll _ _
  have restarts (e : LinkEvent) : Decidable ((s.1.next e).catalog.statesSequence = 0 →
      ∀ q, s.2.base < q → q ≤ s.1.esp.statesSequence → s.1.esp.countsUpdates = true →
        q ∈ s.2.applied) :=
    decidable_of_iff ((s.1.next e).catalog.statesSequence = 0 →
      ∀ q ∈ numbersBetween s.2.base s.1.esp.statesSequence, s.1.esp.countsUpdates = true →
        q ∈ s.2.applied) (imp_congr_right fun _ => forall_numbersBetween)
  match e with
  | .link (.poll _) => inferInstanceAs (Decidable (_ ∧ _))
  | .link (.edit e) => restarts (.edit e)
  | .link (.update id state) => restarts (.update id state)
  | .link (.store index state) => restarts (.store index state)
  | .link .requestFullSync => restarts .requestFullSync
  | .link (.runtime resolvePointState) => restarts (.runtime resolvePointState)
  | .link .take => restarts .take
  | .link (.respond writeStatus) => restarts (.respond writeStatus)
  | .link .pump => restarts .pump
  | .link .askRefresh => restarts .askRefresh
  | .link (.askWrite index type bits) => restarts (.askWrite index type bits)
  | .loseUpdate => (Option.decidableForallMem _ :
      Decidable (∀ q ∈ s.1.outgoing.mailed, ¬ Passed s.1.esp s.2 q))

/-! The SoC sends one record at a time. -/

def SingleRecord (s : LinkState) : Prop :=
  ∀ f ∈ s.response, ∀ statesSequence records,
    f.payload = .statesUpdates statesSequence records → records.length ≤ 1

theorem service_isUpdate (p : ResolvePointState) (c : PointCatalog) (writeStatus : UInt8)
    (r : Request) : (service p c writeStatus r).1.payload.isUpdate = false := by
  cases r with
  | getCaps => rfl
  | getDefsSnapshot resumeOffset maxChunkPayload generation => rfl
  | getStatesSnapshot startIndex maxRecords includeStrings => rfl
  | writeState pointIndex expectedValueType valueBits =>
    change (writeStateResponse c pointIndex expectedValueType writeStatus).payload.isUpdate = false
    rw [writeStateResponse]
    cases c.entries[pointIndex]? with
    | none => rfl
    | some e =>
      dsimp only
      split_ifs <;> rfl

theorem pumpUpdates_single (p : ResolvePointState) (c : PointCatalog) : ∀ f ∈ (pumpUpdates p c).1,
    ∀ statesSequence records, f.payload = .statesUpdates statesSequence records →
      records.length ≤ 1 := by
  intro f hf statesSequence records hpayload
  rw [pumpUpdates] at hf
  by_cases hrequired : c.runtimeFullSyncRequired = true
  · rw [if_pos hrequired] at hf
    obtain rfl := Option.mem_some_iff.mp hf
    obtain ⟨-, rfl⟩ := Payload.statesUpdates.inj hpayload
    exact Nat.zero_le 1
  · rw [if_neg hrequired] at hf
    cases hqueue : c.dirtyStateQueue with
    | nil =>
      rw [hqueue] at hf
      cases hf
    | cons head rest =>
      rw [hqueue] at hf
      obtain ⟨index, sequence⟩ := head
      cases hentry : c.entries[index]? with
      | none =>
        simp only [hentry] at hf
        cases hf
      | some e =>
        simp only [hentry] at hf
        obtain rfl := Option.mem_some_iff.mp hf
        obtain ⟨-, rfl⟩ := Payload.statesUpdates.inj hpayload
        exact Nat.le_refl 1

theorem singleRecord_of_none {s : LinkState} (h : s.response = none) : SingleRecord s := by
  intro f hf
  rw [h] at hf
  cases hf

theorem singleRecord_polled {s : LinkState} (h : SingleRecord s) (action : Esp.PollAction) :
    SingleRecord (s.polled action) := by
  cases action with
  | drain => exact singleRecord_of_none rfl
  | resetMailbox => exact singleRecord_of_none rfl
  | capsTimeout => exact singleRecord_of_none rfl
  | read as =>
    rw [LinkState.polled]
    cases hresponse : s.response with
    | none => exact h
    | some f => exact singleRecord_of_none rfl
  | nothing => exact h
  | sendCaps => exact h
  | sendDefs => exact h
  | sendStates => exact h
  | refresh => exact h
  | sendWriteState => exact h

theorem singleRecord_next {s : LinkState} (h : SingleRecord s) (e : LossyEvent) :
    SingleRecord (s.lossyNext e) := by
  cases e with
  | loseUpdate =>
    rw [LinkState.lossyNext]
    cases hresponse : s.response with
    | none => exact h
    | some f =>
      dsimp only
      split_ifs
      · exact singleRecord_of_none rfl
      · exact h
  | link e =>
    rw [LinkState.lossyNext]
    cases e with
    | poll timedOut => exact singleRecord_polled h _
    | take =>
      rw [LinkState.next, LinkState.take]
      split_ifs <;> exact h
    | respond writeStatus =>
      rw [LinkState.next, LinkState.respond]
      cases hserving : s.serving with
      | none => exact h
      | some r =>
        intro f hf statesSequence records hpayload
        obtain rfl := Option.mem_some_iff.mp hf
        have hquiet := service_isUpdate s.resolvePointState s.catalog writeStatus r
        rw [hpayload] at hquiet
        cases hquiet
    | pump =>
      rw [LinkState.next, LinkState.pump]
      split_ifs
      · exact pumpUpdates_single s.resolvePointState s.catalog
      · exact h
    | askRefresh =>
      rw [LinkState.next]
      split_ifs <;> exact h
    | askWrite pointIndex expectedValueType valueBits =>
      rw [LinkState.next]
      split_ifs <;> exact h
    | edit e => exact h
    | update id state => exact h
    | store index state => exact h
    | requestFullSync => exact h
    | runtime resolvePointState => exact h

/-! What the SoC has still to bring. -/

theorem comesUp_append {q : UInt32} {numbers : List UInt32} (h : comesUp q numbers = true)
    (more : List UInt32) : comesUp q (numbers ++ more) = true := by
  induction numbers with
  | nil => cases h
  | cons p rest ih =>
    simp only [comesUp, Bool.or_eq_true, Bool.and_eq_true, List.cons_append] at h ⊢
    exact h.imp_right fun h => ⟨h.1, ih h.2⟩

theorem mem_of_comesUp {q : UInt32} {numbers : List UInt32} (h : comesUp q numbers = true) :
    q ∈ numbers := by
  induction numbers with
  | nil => cases h
  | cons p rest ih =>
    simp only [comesUp, Bool.or_eq_true, Bool.and_eq_true, decide_eq_true_eq] at h
    obtain rfl | ⟨-, h⟩ := h
    · exact List.mem_cons_self
    · exact List.mem_cons_of_mem _ (ih h)

theorem comesUp_cons {p q : UInt32} {rest : List UInt32} :
    comesUp q (p :: rest) = true ↔ p = q ∨ p < q ∧ comesUp q rest = true := by
  simp only [comesUp, Bool.or_eq_true, Bool.and_eq_true, decide_eq_true_eq]

namespace Outgoing

/-- What the SoC does to its numbers: it queues one, mails the first, drops all of them with or
without a number of its own for that, or starts again. -/
inductive Step : Outgoing → Outgoing → Prop
  | stays (o : Outgoing) : Step o o
  | marks (mailed : Option UInt32) (queue : List UInt32) (counter : UInt32) :
    Step ⟨mailed, queue, counter⟩ ⟨mailed, queue ++ [counter + 1], counter + 1⟩
  | mails (q : UInt32) (queue : List UInt32) (counter : UInt32) :
    Step ⟨none, q :: queue, counter⟩ ⟨some q, queue, counter⟩
  | drops (mailed : Option UInt32) (queue : List UInt32) (counter : UInt32) :
    Step ⟨mailed, queue, counter⟩ ⟨mailed, [], counter + 1⟩
  | restarts (o : Outgoing) : Step o ⟨o.mailed, [], 0⟩

/-- The update `q`, at or before the local sequence, comes before any later one, or all that comes
is so much later that the gap shows. -/
def Owes (o : Outgoing) (statesSequence q : UInt32) : Prop :=
  statesSequence ≤ o.counter ∧ comesUp q (o.mailed.toList ++ o.queue) = true ∨
    statesSequence < o.counter ∧
      (∀ p ∈ o.mailed, p < q ∨ statesSequence.toNat + 1 < p.toNat) ∧
      ∀ p ∈ o.queue, statesSequence.toNat + 1 < p.toNat

variable {o o' : Outgoing} {statesSequence q : UInt32}

theorem toNat_add_one {n : UInt32} (h : n + 1 ≠ 0) : (n + 1).toNat = n.toNat + 1 := by
  have hlt := n.toNat_lt
  have hone : (1 : UInt32).toNat = 1 := rfl
  rw [UInt32.toNat_add, hone]
  refine Nat.mod_eq_of_lt (Nat.lt_of_le_of_ne hlt fun heq => h ?_)
  rw [← UInt32.toNat_inj, UInt32.toNat_add, hone, heq]
  rfl

theorem Owes.step (h : o.Owes statesSequence q) (hstep : Step o o') (hcounter : o'.counter ≠ 0) :
    o'.Owes statesSequence q := by
  rw [Owes, UInt32.le_iff_toNat_le, UInt32.lt_iff_toNat_lt] at h ⊢
  cases hstep with
  | stays => exact h
  | restarts => exact absurd rfl hcounter
  | marks mailed queue counter =>
    have hnext := toNat_add_one hcounter
    dsimp only at h ⊢
    obtain ⟨hlocal, hcomes⟩ | ⟨hlocal, hmailed, hqueue⟩ := h
    · refine .inl ⟨by omega, ?_⟩
      rw [← List.append_assoc]
      exact comesUp_append hcomes _
    · refine .inr ⟨by omega, hmailed, fun p hp => ?_⟩
      obtain hp | hp := List.mem_append.mp hp
      · exact hqueue p hp
      · rw [List.mem_singleton.mp hp]
        omega
  | mails p queue counter =>
    dsimp only at h ⊢
    obtain ⟨hlocal, hcomes⟩ | ⟨hlocal, -, hqueue⟩ := h
    · exact .inl ⟨hlocal, hcomes⟩
    · refine .inr ⟨hlocal, fun p' hp => ?_, fun p' hp => hqueue p' (List.mem_cons_of_mem _ hp)⟩
      obtain rfl := Option.some.inj hp
      exact .inr (hqueue p List.mem_cons_self)
  | drops mailed queue counter =>
    have hnext := toNat_add_one hcounter
    dsimp only at h ⊢
    obtain ⟨hlocal, hcomes⟩ | ⟨hlocal, hmailed, -⟩ := h
    · cases mailed with
      | none => exact .inr ⟨by omega, fun p hp => (by cases hp), fun p hp => (by cases hp)⟩
      | some p =>
        obtain rfl | ⟨hlt, -⟩ := comesUp_cons.mp hcomes
        · exact .inl ⟨by omega, comesUp_cons.mpr (.inl rfl)⟩
        · refine .inr ⟨by omega, fun p' hp => ?_, fun p' hp => (by cases hp)⟩
          obtain rfl := Option.some.inj hp
          exact .inl hlt
    · exact .inr ⟨by omega, hmailed, fun p hp => (by cases hp)⟩

theorem Owes.lost (h : o.Owes statesSequence q) (hother : ∀ p ∈ o.mailed, p ≠ q) :
    Owes { o with mailed := none } statesSequence q := by
  obtain ⟨hlocal, hcomes⟩ | ⟨hlocal, -, hqueue⟩ := h
  · refine .inl ⟨hlocal, ?_⟩
    cases hmailed : o.mailed with
    | none =>
      rw [hmailed] at hcomes
      exact hcomes
    | some p =>
      rw [hmailed] at hcomes
      obtain heq | ⟨-, hrest⟩ := comesUp_cons.mp hcomes
      · exact absurd heq (hother p hmailed)
      · exact hrest
  · exact .inr ⟨hlocal, fun p hp => (by cases hp), hqueue⟩

theorem Owes.passed (h : o.Owes statesSequence q) {base : UInt32}
    (hpass : ∀ p, statesSequence < p → p ≤ base →
      base ≤ o.counter ∧ comesUp p o.queue = true) : o.Owes base q := by
  by_cases hback : base ≤ statesSequence
  · rw [UInt32.le_iff_toNat_le] at hback
    rw [Owes, UInt32.le_iff_toNat_le, UInt32.lt_iff_toNat_lt] at h ⊢
    obtain ⟨hlocal, hcomes⟩ | ⟨hlocal, hfirst, hqueue⟩ := h
    · exact .inl ⟨by omega, hcomes⟩
    · refine .inr ⟨by omega, fun p hp => (hfirst p hp).imp_right fun _ => by omega,
        fun p hp => ?_⟩
      have hlater := hqueue p hp
      omega
  · have hforward := UInt32.not_le.mp hback
    obtain ⟨-, hcomes⟩ | ⟨-, -, hqueue⟩ := h
    · exact .inl ⟨(hpass base hforward UInt32.le_rfl).1, hcomes⟩
    · rw [UInt32.lt_iff_toNat_lt] at hforward
      have hbound := base.toNat_lt
      have hsize : UInt32.size = 2 ^ 32 := rfl
      have hnext : (UInt32.ofNat (statesSequence.toNat + 1)).toNat = statesSequence.toNat + 1 :=
        UInt32.toNat_ofNat_of_lt' (by omega)
      have hcomes := (hpass (UInt32.ofNat (statesSequence.toNat + 1))
        (by rw [UInt32.lt_iff_toNat_lt, hnext]; omega)
        (by rw [UInt32.le_iff_toNat_le, hnext]; omega)).2
      have hlater := hqueue _ (mem_of_comesUp hcomes)
      omega

end Outgoing

/-- Each update that the snapshot or its updates must have brought is applied, or owed. -/
def Known (s : Esp) (o : Outgoing) (h : Heard) : Prop :=
  ∀ q, Passed s h q → q ∈ h.applied ∨ h.current = false ∧ o.Owes s.statesSequence q

theorem complete_of_known {s : LinkState × Heard} (h : Known s.1.esp s.1.outgoing s.2) :
    Complete s := by
  intro hseen hcurrent q hbase hq
  obtain happlied | ⟨hnone, -⟩ := h q ⟨by rw [Esp.countsUpdates, hseen]; rfl, hbase, hq⟩
  · exact happlied
  · rw [hcurrent] at hnone
    cases hnone

/-! What a frame does to the local sequence. -/

variable {s : Esp} {o : Outgoing} {h : Heard} {statesSequence : UInt32} {records : List StateRecord}

theorem known_of_uncounted (hnone : s.countsUpdates = false) : Known s o h := by
  rintro q ⟨hcounts, -⟩
  rw [hnone] at hcounts
  cases hcounts

theorem known_resync (s : Esp) (g : UInt32) (o : Outgoing) (h : Heard) :
    Known (s.beginFullResync g) o h :=
  known_of_uncounted rfl

theorem known_same {s' : Esp} (hknown : Known s o h) (hcounts : s'.countsUpdates = s.countsUpdates)
    (hsequence : s'.statesSequence = s.statesSequence) : Known s' o h := by
  rintro q ⟨hcounted, hbase, hq⟩
  rw [hsequence] at hq ⊢
  exact hknown q ⟨hcounts ▸ hcounted, hbase, hq⟩

/-- With one record, the local sequence goes on by one, or back, or a resync starts. -/
theorem known_processed (hcaps : s.countsUpdates = true → s.capsResponseSeen = true)
    (hknown : Known s o h) {generation : UInt32} (hone : records.length ≤ 1)
    (hmailed : o.mailed = if records = [] then none else some statesSequence)
    (hfirst : s.countsUpdates = true → s.statesSequence = 0 → ∀ q ∈ o.mailed, q ≤ 1) :
    Known (s.processStateUpdateFrame generation statesSequence records) { o with mailed := none }
      (if records = [] then h else ⟨h.base, statesSequence :: h.applied, true⟩) := by
  rw [Esp.processStateUpdateFrame]
  by_cases hnone : records = []
  · rw [if_pos hnone, if_pos hnone]
    rw [if_pos hnone] at hmailed
    split_ifs
    · rw [← hmailed]
      exact hknown
    · exact known_resync _ _ _ _
  · rw [if_neg hnone, if_neg hnone]
    rw [if_neg hnone] at hmailed
    dsimp only
    split_ifs with hgap
    · exact known_resync _ _ _ _
    · rintro q ⟨hcounts, hbase, hq⟩
      change s.countsUpdates = true at hcounts
      change q ≤ statesSequence at hq
      refine .inl ?_
      by_cases heq : q = statesSequence
      · exact heq ▸ List.mem_cons_self
      refine List.mem_cons_of_mem _ ?_
      have hlt : q < statesSequence := UInt32.lt_of_le_of_ne hq heq
      have hstep : s.statesSequence ≠ 0 → statesSequence.toNat ≤ s.statesSequence.toNat + 1 := by
        intro hzero
        by_cases hnext : s.statesSequence < statesSequence
        · have hshort : (statesSequence - s.statesSequence).toNat ≤ records.length :=
            Nat.not_lt.mp fun hmore => hgap (by simp [hcaps hcounts, hzero, hnext, hmore])
          rw [UInt32.toNat_sub_of_le _ _ (UInt32.le_of_lt hnext)] at hshort
          omega
        · have hback := UInt32.le_iff_toNat_le.mp (UInt32.not_lt.mp hnext)
          omega
      by_cases hbefore : q ≤ s.statesSequence
      · have hzero : s.statesSequence ≠ 0 := by
          intro hzero
          rw [hzero] at hbefore
          exact UInt32.lt_irrefl _ (UInt32.lt_of_lt_of_le
            (UInt32.lt_of_le_of_lt UInt32.zero_le hbase) hbefore)
        obtain happlied | ⟨-, howes⟩ := hknown q ⟨hcounts, hbase, hbefore⟩
        · exact happlied
        have hlate := hstep hzero
        rw [Outgoing.Owes, hmailed] at howes
        obtain ⟨-, hcomes⟩ | ⟨-, hother, -⟩ := howes
        · obtain heq' | ⟨hless, -⟩ := comesUp_cons.mp hcomes
          · exact absurd heq'.symm heq
          · exact absurd (UInt32.lt_trans hless hlt) (UInt32.lt_irrefl _)
        · obtain hless | hmore := hother statesSequence rfl
          · exact absurd (UInt32.lt_trans hless hlt) (UInt32.lt_irrefl _)
          · omega
      · exfalso
        have hafter := UInt32.lt_iff_toNat_lt.mp (UInt32.not_le.mp hbefore)
        rw [UInt32.lt_iff_toNat_lt] at hlt
        by_cases hzero : s.statesSequence = 0
        · have hle := UInt32.le_iff_toNat_le.mp (hfirst hcounts hzero statesSequence hmailed)
          have hone' : (1 : UInt32).toNat = 1 := rfl
          omega
        · have hlate := hstep hzero
          omega

variable {f : Frame} {as : Esp.ReadAs}

theorem heard_updates (hf : f.payload = .statesUpdates statesSequence records)
    (hsame : as = .unsolicited → s.capsResponseSeen = true → f.generation = s.defsGeneration) :
    heard s f as h = if records = [] then h else ⟨h.base, statesSequence :: h.applied, true⟩ := by
  have hother : (as = .unsolicited && s.capsResponseSeen &&
      f.generation ≠ s.defsGeneration : Bool) = false := by
    by_cases has : as = .unsolicited
    · cases hcaps : s.capsResponseSeen with
      | false => simp
      | true => simp [hsame has hcaps]
    · simp [has]
  rw [heard, hf]
  dsimp only
  rw [hother, Bool.or_false]
  by_cases hnone : records = []
  · rw [if_pos hnone, if_pos (decide_eq_true hnone)]
  · rw [if_neg hnone, if_neg (by simpa using hnone)]

theorem heard_other (hupdate : f.payload.isUpdate = false) (hstates : as ≠ .states) :
    heard s f as h = h := by
  rw [heard]
  cases hf : f.payload with
  | statesUpdates statesSequence records =>
    rw [hf] at hupdate
    cases hupdate
  | statesSnapshot chunk records => exact if_neg hstates
  | caps _ _ _ _ => rfl
  | defsSnapshot _ _ => rfl
  | writeState _ _ => rfl
  | error _ _ => rfl

theorem updateSequence_eq (hf : f.payload = .statesUpdates statesSequence records) :
    f.updateSequence = if records = [] then none else some statesSequence := by
  rw [Frame.updateSequence, hf]
  cases records <;> rfl

theorem updateSequence_none (hf : f.payload.isUpdate = false) : f.updateSequence = none := by
  rw [Frame.updateSequence]
  cases hp : f.payload with
  | statesUpdates statesSequence records =>
    rw [hp] at hf
    cases hf
  | _ => rfl

theorem countsUpdates_false : s.countsUpdates = false ↔
    s.statesResponseSeen = false ∧ s.nextStatesStartIndex = 0 := by
  simp [Esp.countsUpdates]

theorem processed_uncounted {generation : UInt32} (h : s.countsUpdates = false) :
    (s.processStateUpdateFrame generation statesSequence records).countsUpdates = false := by
  rw [Esp.processStateUpdateFrame]
  dsimp only
  split_ifs
  · exact h
  · rfl
  · rfl
  · exact h

theorem read_uncounted (h : s.countsUpdates = false) (has : as = .caps ∨ as = .defs) :
    (s.readResponse f as).countsUpdates = false := by
  rcases has with rfl | rfl
  · rw [Esp.readResponse]
    cases f.payload with
    | caps _ _ _ _ => exact h
    | statesUpdates _ _ => exact h
    | _ => exact h
  · rw [Esp.readResponse]
    cases f.payload with
    | defsSnapshot chunk records =>
      obtain ⟨cached, total, hstored⟩ :=
        Esp.storeDefsChunk_eq { s with defsRequestSent := false } chunk records
      change (s.defsChunkSeen chunk records).countsUpdates = false
      rw [Esp.defsChunkSeen, hstored]
      exact h
    | statesUpdates _ _ => exact processed_uncounted h
    | _ => exact h

/-- The frame in the mailbox while a poll reads it. -/
structure Readable (s : Esp) (o : Outgoing) (f : Frame) : Prop where
  single : ∀ statesSequence records, f.payload = .statesUpdates statesSequence records →
    records.length ≤ 1
  mailed : o.mailed = f.updateSequence
  first : s.countsUpdates = true → s.statesSequence = 0 → ∀ q ∈ o.mailed, q ≤ 1
  passes : s.statesResponseSeen = false → s.nextStatesStartIndex ≠ 0 → ∀ chunk records,
    f.payload = .statesSnapshot chunk records → ∀ q, s.statesSequence < q →
      q ≤ chunk.statesSequenceBase →
        chunk.statesSequenceBase ≤ o.counter ∧ comesUp q o.queue = true

theorem known_chunk {chunk : StatesSnapshotChunkPrefix}
    (hf : f.payload = .statesSnapshot chunk records) (hknown : Known s o h)
    (hread : Readable s o f) (hunseen : s.statesResponseSeen = false) :
    Known (s.statesChunkSeen chunk records) { o with mailed := none } (heard s f .states h) := by
  have hlocal : (s.statesChunkSeen chunk records).statesSequence = chunk.statesSequenceBase := by
    rw [Esp.statesChunkSeen]
    dsimp only
    split_ifs <;> rfl
  have hnone : o.mailed = none := hread.mailed.trans (updateSequence_none (by rw [hf]; rfl))
  rw [← hnone]
  rintro q ⟨-, hbase, hq⟩
  rw [hlocal] at hq ⊢
  rw [heard, hf] at hbase ⊢
  dsimp only at hbase ⊢
  rw [if_pos rfl] at hbase ⊢
  by_cases hstart : s.nextStatesStartIndex = 0
  · rw [if_pos hstart] at hbase
    exact absurd (UInt32.lt_of_lt_of_le hbase hq) (UInt32.lt_irrefl _)
  · rw [if_neg hstart] at hbase ⊢
    have hpass := hread.passes hunseen hstart chunk records hf
    have hbefore : h.base < q := by
      have hmin : (if h.base ≤ chunk.statesSequenceBase then h.base
        else chunk.statesSequenceBase) < q := hbase
      split_ifs at hmin
      · exact hmin
      · exact absurd (UInt32.lt_of_lt_of_le hmin hq) (UInt32.lt_irrefl _)
    by_cases hlate : q ≤ s.statesSequence
    · have hcounts : s.countsUpdates = true := by simp [Esp.countsUpdates, hstart]
      obtain happlied | ⟨-, howes⟩ := hknown q ⟨hcounts, hbefore, hlate⟩
      · exact .inl happlied
      · exact .inr ⟨rfl, howes.passed hpass⟩
    · obtain ⟨hcounter, hcomes⟩ := hpass q (UInt32.not_le.mp hlate) hq
      refine .inr ⟨rfl, .inl ⟨hcounter, ?_⟩⟩
      rw [hnone]
      exact hcomes

theorem known_read {rxReady responseReady : Bool} (hflags : s.FlagsOk)
    (hguard : s.Guard rxReady responseReady (.read as)) (hknown : Known s o h)
    (hf : Readable s o f) :
    Known (s.readResponse f as) { o with mailed := none } (heard s f as h) := by
  have hcaps : s.countsUpdates = true → s.capsResponseSeen = true := by
    intro hcounts
    cases hnone : s.capsResponseSeen with
    | true => rfl
    | false =>
      obtain ⟨-, hseen, hplace, -⟩ := hflags.noCaps hnone
      rw [countsUpdates_false.mpr ⟨hseen, hplace⟩] at hcounts
      cases hcounts
  have hother (hquiet : f.payload.isUpdate = false) : ({ o with mailed := none } : Outgoing) = o := by
    rw [← updateSequence_none hquiet, ← hf.mailed]
  cases as with
  | caps =>
    obtain ⟨-, hseen, hplace, -⟩ := hflags.noCaps hguard.2.1
    exact known_of_uncounted (read_uncounted (countsUpdates_false.mpr ⟨hseen, hplace⟩) (.inl rfl))
  | defs =>
    obtain ⟨hseen, hplace, -⟩ := hflags.noDefs hguard.2.1
    exact known_of_uncounted (read_uncounted (countsUpdates_false.mpr ⟨hseen, hplace⟩) (.inr rfl))
  | states =>
    rw [Esp.readResponse]
    cases hp : f.payload with
    | statesSnapshot chunk records => exact known_chunk hp hknown hf hguard.2.1
    | statesUpdates statesSequence records =>
      rw [heard_updates hp (fun has => by cases has)]
      exact known_processed hcaps hknown (hf.single _ _ hp)
        (hf.mailed.trans (updateSequence_eq hp)) hf.first
    | _ =>
      rw [hother (by rw [hp]; rfl), heard, hp]
      exact hknown
  | writeState =>
    rw [Esp.readResponse]
    have hnext : Known { s with writeStateRequestSent := false, pendingWriteState := none } o h :=
      known_same hknown rfl rfl
    cases hp : f.payload with
    | statesUpdates statesSequence records =>
      rw [heard_updates hp (fun has => by cases has)]
      exact known_processed
        (s := { s with writeStateRequestSent := false, pendingWriteState := none }) hcaps hnext
        (hf.single _ _ hp) (hf.mailed.trans (updateSequence_eq hp)) hf.first
    | _ =>
      rw [hother (by rw [hp]; rfl), heard_other (by rw [hp]; rfl) (by decide)]
      exact hnext
  | unsolicited =>
    rw [Esp.readResponse, Esp.handleUnsolicitedResponse]
    by_cases hgeneration : (s.capsResponseSeen && f.generation ≠ s.defsGeneration : Bool) = true
    · rw [if_pos hgeneration]
      exact known_resync s f.generation _ _
    · rw [if_neg hgeneration]
      cases hp : f.payload with
      | statesUpdates statesSequence records =>
        have hsame : s.capsResponseSeen = true → f.generation = s.defsGeneration := by
          intro hseen
          rw [hseen, Bool.true_and, decide_eq_true_eq, Decidable.not_not] at hgeneration
          exact hgeneration
        rw [heard_updates hp fun _ => hsame]
        exact known_processed hcaps hknown (hf.single _ _ hp)
          (hf.mailed.trans (updateSequence_eq hp)) hf.first
      | _ =>
        rw [hother (by rw [hp]; rfl), heard_other (by rw [hp]; rfl) (by decide)]
        exact hknown

theorem sentStates_counts (hunseen : s.statesResponseSeen = false) :
    (s.sendStatesSnapshotRequest s.nextStatesStartIndex).1.countsUpdates = s.countsUpdates ∧
      (s.countsUpdates = true →
        (s.sendStatesSnapshotRequest s.nextStatesStartIndex).1.statesSequence =
          s.statesSequence) := by
  rw [Esp.sendStatesSnapshotRequest]
  dsimp only
  split_ifs with hnone hresets
  · exact ⟨rfl, fun _ => rfl⟩
  · refine ⟨rfl, fun hcounts => ?_⟩
    rw [Bool.and_eq_true, decide_eq_true_eq] at hresets
    rw [countsUpdates_false.mpr ⟨hunseen, hresets.1⟩] at hcounts
    cases hcounts
  · exact ⟨rfl, fun _ => rfl⟩

theorem refreshStates_uncounted (s : Esp) : s.refreshStates.1.countsUpdates = false := by
  rw [Esp.refreshStates, Esp.sendStatesSnapshotRequest]
  dsimp only
  split_ifs <;> rfl

theorem known_sent {s' : Esp} (hknown : Known s o h) (hcounts : s'.countsUpdates = s.countsUpdates)
    (hsequence : s.countsUpdates = true → s'.statesSequence = s.statesSequence) :
    Known s' o h := by
  cases hcounted : s.countsUpdates with
  | true => exact known_same hknown hcounts (hsequence hcounted)
  | false => exact known_of_uncounted (hcounts.trans hcounted)

theorem known_polled {s : LinkState} {action : Esp.PollAction} (hflags : s.esp.FlagsOk)
    (hguard : s.esp.Guard s.request.isSome s.response.isSome action)
    (hknown : Known s.esp s.outgoing h) (hread : ∀ f ∈ s.response, Readable s.esp s.outgoing f) :
    Known (s.polled action).esp (s.polled action).outgoing (s.heardBy h action) := by
  cases action with
  | nothing => exact hknown
  | drain => exact known_resync s.esp 0 _ h
  | resetMailbox => exact known_resync s.esp 0 _ h
  | capsTimeout => exact known_resync s.esp 0 _ h
  | sendCaps => exact known_same hknown rfl rfl
  | sendDefs =>
    refine known_same (s := s.esp) hknown ?_ ?_ <;>
      · rw [LinkState.polled, LinkState.sent, Esp.sendDefsSnapshotRequest]
        split_ifs <;> rfl
  | sendStates =>
    obtain ⟨hcounts, hsequence⟩ := sentStates_counts hguard.2.2.1
    exact known_sent hknown hcounts hsequence
  | refresh => exact known_of_uncounted (refreshStates_uncounted s.esp)
  | sendWriteState => exact known_same hknown rfl rfl
  | read as =>
    rw [LinkState.polled, LinkState.heardBy]
    cases hresponse : s.response with
    | none => exact hknown
    | some f => exact known_read hflags hguard hknown (hread f hresponse)

/-! Steps of the SoC. -/

theorem markStateDirty_outgoing {c : PointCatalog} (hqueue : QueueOk c) (index : Nat)
    (mailed : Option UInt32) :
    Outgoing.Step ⟨mailed, c.dirtyStateQueue.map (·.2), c.statesSequence⟩
      ⟨mailed, (c.markStateDirty index).dirtyStateQueue.map (·.2),
        (c.markStateDirty index).statesSequence⟩ := by
  obtain ⟨hsame, -⟩ | ⟨-, -, -, hmarked⟩ := hqueue.markStateDirty_cases index
  · rw [hsame]
    exact .stays _
  · rw [hmarked, List.map_append]
    exact .marks _ _ _

theorem requestRuntimeFullSync_outgoing {c : PointCatalog} (hqueue : QueueOk c)
    (mailed : Option UInt32) :
    Outgoing.Step ⟨mailed, c.dirtyStateQueue.map (·.2), c.statesSequence⟩
      ⟨mailed, [], c.requestRuntimeFullSync.statesSequence⟩ := by
  rw [PointCatalog.requestRuntimeFullSync]
  dsimp only
  by_cases hrequired : c.runtimeFullSyncRequired = true
  · have hidle : c.dirtyStateQueue = [] := List.map_eq_nil_iff.mp (hqueue.idle hrequired)
    rw [if_pos hrequired, hidle]
    exact .stays _
  · rw [if_neg hrequired]
    exact .drops _ _ _

theorem edited_outgoing {c : PointCatalog} (hqueue : QueueOk c) (e : CatalogEdit)
    (mailed : Option UInt32) :
    Outgoing.Step ⟨mailed, c.dirtyStateQueue.map (·.2), c.statesSequence⟩
      ⟨mailed, (c.edited e).dirtyStateQueue.map (·.2), (c.edited e).statesSequence⟩ := by
  have hset := requestRuntimeFullSync_outgoing hqueue mailed
  cases e with
  | upsert definition =>
    rw [PointCatalog.edited, PointCatalog.upsert]
    cases c.findIndex definition.id with
    | some i => exact hset
    | none =>
      dsimp only
      split
      · exact .stays _
      · exact hset
  | remove id =>
    rw [PointCatalog.edited, PointCatalog.remove]
    cases c.findIndex id with
    | none => exact .stays _
    | some i => exact hset
  | replaceSlotVariables slotId definitions =>
    rw [PointCatalog.edited, PointCatalog.replaceSlotVariableDefinitions]
    dsimp only
    split
    · exact .stays _
    · split
      · exact .stays _
      · split
        · exact .stays _
        · exact hset
  | clear => exact .restarts ⟨mailed, c.dirtyStateQueue.map (·.2), c.statesSequence⟩

theorem updateState_outgoing {c : PointCatalog} (hqueue : QueueOk c) (id : PointIdentity)
    (state : PointState) (mailed : Option UInt32) :
    Outgoing.Step ⟨mailed, c.dirtyStateQueue.map (·.2), c.statesSequence⟩
      ⟨mailed, ((c.updateState id state).getD c).dirtyStateQueue.map (·.2),
        ((c.updateState id state).getD c).statesSequence⟩ := by
  rw [PointCatalog.updateState]
  cases c.lookupIndex id with
  | none => exact .stays _
  | some index =>
    dsimp only
    cases c.entries[index]? with
    | none => exact .stays _
    | some e =>
      dsimp only
      split
      · exact .stays _
      · exact markStateDirty_outgoing (hqueue.setState index state) index mailed

def ServesEmpty (s : LinkState) : Prop := s.serving ≠ none → s.response = none

theorem pump_outgoing {s : LinkState} (hqueue : QueueOk s.catalog) :
    Outgoing.Step s.outgoing s.pump.outgoing := by
  rw [LinkState.pump]
  split_ifs with hempty
  · obtain ⟨-, -, hresponse⟩ := hempty
    rw [LinkState.outgoing, hresponse, pumpUpdates]
    by_cases hrequired : s.catalog.runtimeFullSyncRequired = true
    · rw [if_pos hrequired]
      exact .stays _
    · rw [if_neg hrequired]
      cases hdirty : s.catalog.dirtyStateQueue with
      | nil =>
        rw [LinkState.outgoing]
        dsimp only
        rw [hdirty]
        exact .stays _
      | cons head rest =>
        obtain ⟨index, sequence⟩ := head
        have hlt : index < s.catalog.entries.length := hqueue.bound index (by
          rw [PointCatalog.queued, hdirty]
          exact .head _)
        dsimp only
        rw [List.getElem?_eq_getElem hlt, dropDirty, PointCatalog.popDirtyStateIndex, hdirty]
        exact .mails _ _ _
  · exact .stays _

theorem respond_outgoing {s : LinkState} (hserves : ServesEmpty s) (writeStatus : UInt8) :
    (s.respond writeStatus).outgoing = s.outgoing := by
  rw [LinkState.respond]
  cases hserving : s.serving with
  | none => rfl
  | some r =>
    have hresponse : s.response = none := hserves (by rw [hserving]; exact Option.some_ne_none r)
    have hquiet := updateSequence_none (service_isUpdate s.resolvePointState s.catalog writeStatus r)
    have hcatalog : (service s.resolvePointState s.catalog writeStatus r).2.dirtyStateQueue =
        s.catalog.dirtyStateQueue ∧
        (service s.resolvePointState s.catalog writeStatus r).2.statesSequence =
          s.catalog.statesSequence := by
      cases r with
      | getStatesSnapshot startIndex maxRecords includeStrings =>
        rw [service]
        dsimp only
        split_ifs <;> exact ⟨rfl, rfl⟩
      | _ => exact ⟨rfl, rfl⟩
    rw [LinkState.outgoing, LinkState.outgoing, hresponse]
    dsimp only
    rw [hcatalog.1, hcatalog.2, Option.bind_some, hquiet]
    rfl

theorem next_outgoing {s : LinkState} (hqueue : QueueOk s.catalog) (hserves : ServesEmpty s)
    {e : LinkEvent} (hpoll : ∀ timedOut, e ≠ .poll timedOut) :
    Outgoing.Step s.outgoing (s.next e).outgoing := by
  cases e with
  | poll timedOut => exact absurd rfl (hpoll timedOut)
  | take =>
    rw [LinkState.next, LinkState.take]
    split_ifs <;> exact .stays _
  | respond writeStatus =>
    rw [LinkState.next, respond_outgoing hserves]
    exact .stays _
  | pump => exact pump_outgoing hqueue
  | askRefresh =>
    rw [LinkState.next]
    split_ifs <;> exact .stays _
  | askWrite pointIndex expectedValueType valueBits =>
    rw [LinkState.next]
    split_ifs <;> exact .stays _
  | edit e => exact edited_outgoing hqueue e _
  | update id state => exact updateState_outgoing hqueue id state _
  | store index state =>
    exact markStateDirty_outgoing (hqueue.setState index state) index _
  | requestFullSync => exact requestRuntimeFullSync_outgoing hqueue _
  | runtime resolvePointState => exact .stays _

theorem next_esp {s : LinkState} {e : LinkEvent} (hpoll : ∀ timedOut, e ≠ .poll timedOut) :
    (s.next e).esp.countsUpdates = s.esp.countsUpdates ∧
      (s.next e).esp.statesSequence = s.esp.statesSequence := by
  cases e with
  | poll timedOut => exact absurd rfl (hpoll timedOut)
  | take =>
    rw [LinkState.next, LinkState.take]
    split_ifs <;> exact ⟨rfl, rfl⟩
  | respond writeStatus =>
    rw [LinkState.next, LinkState.respond]
    cases s.serving <;> exact ⟨rfl, rfl⟩
  | pump =>
    rw [LinkState.next, LinkState.pump]
    split_ifs <;> exact ⟨rfl, rfl⟩
  | askRefresh =>
    rw [LinkState.next]
    split_ifs <;> exact ⟨rfl, rfl⟩
  | askWrite pointIndex expectedValueType valueBits =>
    rw [LinkState.next]
    split_ifs <;> exact ⟨rfl, rfl⟩
  | edit e => exact ⟨rfl, rfl⟩
  | update id state => exact ⟨rfl, rfl⟩
  | store index state => exact ⟨rfl, rfl⟩
  | requestFullSync => exact ⟨rfl, rfl⟩
  | runtime resolvePointState => exact ⟨rfl, rfl⟩

theorem queueOk_service {c : PointCatalog} (h : QueueOk c) (p : ResolvePointState)
    (writeStatus : UInt8) (r : Request) : QueueOk (service p c writeStatus r).2 := by
  cases r with
  | getStatesSnapshot startIndex maxRecords includeStrings =>
    rw [service]
    dsimp only
    split_ifs
    · exact h
    · exact h.acknowledgeRuntimeFullSync
  | _ => exact h

theorem queueOk_pumpUpdates {c : PointCatalog} (h : QueueOk c) (p : ResolvePointState) :
    QueueOk (pumpUpdates p c).2 := by
  rw [pumpUpdates]
  by_cases hrequired : c.runtimeFullSyncRequired = true
  · rw [if_pos hrequired]
    exact h
  rw [if_neg hrequired]
  cases hdirty : c.dirtyStateQueue with
  | nil => exact h
  | cons head rest =>
    have hpopped := h.popped hdirty
    dsimp only
    rw [dropDirty, PointCatalog.popDirtyStateIndex, hdirty]
    cases c.entries[head.1]? <;> exact hpopped

theorem queueOk_updateState {c : PointCatalog} (h : QueueOk c) (id : PointIdentity)
    (state : PointState) :
    QueueOk ((c.updateState id state).getD c) := by
  rw [PointCatalog.updateState]
  cases c.lookupIndex id with
  | none => exact h
  | some index =>
    dsimp only
    cases c.entries[index]? with
    | none => exact h
    | some e =>
      dsimp only
      split
      · exact h.setState index state
      · exact (h.setState index state).markStateDirty index

theorem queueOk_next {s : LinkState} (h : QueueOk s.catalog) (e : LinkEvent) :
    QueueOk (s.next e).catalog := by
  cases e with
  | poll timedOut =>
    rw [LinkState.next, LinkState.poll]
    cases s.esp.pollAction s.request.isSome s.response.isSome timedOut with
    | read as =>
      rw [LinkState.polled]
      cases s.response <;> exact h
    | _ => exact h
  | take =>
    rw [LinkState.next, LinkState.take]
    split_ifs <;> exact h
  | respond writeStatus =>
    rw [LinkState.next, LinkState.respond]
    cases s.serving with
    | none => exact h
    | some r => exact queueOk_service h s.resolvePointState writeStatus r
  | pump =>
    rw [LinkState.next, LinkState.pump]
    split_ifs
    · exact queueOk_pumpUpdates h s.resolvePointState
    · exact h
  | askRefresh =>
    rw [LinkState.next]
    split_ifs <;> exact h
  | askWrite pointIndex expectedValueType valueBits =>
    rw [LinkState.next]
    split_ifs <;> exact h
  | edit e => exact h.edited e
  | update id state => exact queueOk_updateState h id state
  | store index state => exact (h.setState index state).markStateDirty index
  | requestFullSync => exact h.requestRuntimeFullSync
  | runtime resolvePointState => exact h

theorem servesEmpty_next {s : LinkState} (h : ServesEmpty s) (e : LinkEvent) :
    ServesEmpty (s.next e) := by
  cases e with
  | poll timedOut =>
    rw [LinkState.next, LinkState.poll]
    cases s.esp.pollAction s.request.isSome s.response.isSome timedOut with
    | read as =>
      rw [LinkState.polled]
      cases hresponse : s.response with
      | none => exact fun _ => hresponse
      | some f => exact fun _ => rfl
    | drain => exact fun _ => rfl
    | resetMailbox => exact fun _ => rfl
    | capsTimeout => exact fun _ => rfl
    | _ => exact h
  | take =>
    rw [LinkState.next, LinkState.take]
    split_ifs with hfree
    · exact fun _ => hfree.2
    · exact h
  | respond writeStatus =>
    rw [LinkState.next, LinkState.respond]
    cases hserving : s.serving with
    | none => exact h
    | some r => exact fun hne => absurd rfl hne
  | pump =>
    rw [LinkState.next, LinkState.pump]
    split_ifs with hfree
    · exact fun hne => absurd hfree.2.1 hne
    · exact h
  | askRefresh =>
    rw [LinkState.next]
    split_ifs <;> exact h
  | askWrite pointIndex expectedValueType valueBits =>
    rw [LinkState.next]
    split_ifs <;> exact h
  | edit e => exact h
  | update id state => exact h
  | store index state => exact h
  | requestFullSync => exact h
  | runtime resolvePointState => exact h

/-! Runs. -/

/-- The flags, the queue and the mailbox are in order, and nothing is missed. -/
structure GapsOk (s : LinkState × Heard) : Prop where
  flags : s.1.esp.FlagsOk
  single : SingleRecord s.1
  queue : QueueOk s.1.catalog
  serves : ServesEmpty s.1
  known : Known s.1.esp s.1.outgoing s.2

theorem chunkUnderWay_eq {s : LinkState} {f : Frame} {chunk : StatesSnapshotChunkPrefix}
    {records : List StateRecord} (hf : f ∈ s.response)
    (hpayload : f.payload = .statesSnapshot chunk records) : chunk ∈ s.chunkUnderWay := by
  rw [LinkState.chunkUnderWay, Option.mem_def.mp hf, Option.bind_some, hpayload]
  rfl

theorem known_poll {s : LinkState × Heard} (h : GapsOk s) (hstart : StartsAtOne s.1)
    (hpass : PassesQueued s.1) (timedOut : Bool) :
    Known (lossyStep s (.link (.poll timedOut))).1.esp
      (lossyStep s (.link (.poll timedOut))).1.outgoing
      (lossyStep s (.link (.poll timedOut))).2 := by
  refine known_polled h.flags
    (s.1.esp.pollAction_guard s.1.request.isSome s.1.response.isSome timedOut) h.known fun f hf => ?_
  refine ⟨h.single f hf, ?_, hstart, fun hunseen hlater chunk records hpayload =>
    hpass hunseen hlater chunk (chunkUnderWay_eq hf hpayload)⟩
  rw [LinkState.outgoing, Option.mem_def.mp hf]
  rfl

theorem known_next {s : LinkState × Heard} (h : GapsOk s) {e : LinkEvent}
    (hpoll : ∀ timedOut, e ≠ .poll timedOut)
    (hback : (s.1.next e).catalog.statesSequence = 0 → ∀ q, s.2.base < q →
      q ≤ s.1.esp.statesSequence → s.1.esp.countsUpdates = true → q ∈ s.2.applied) :
    Known (s.1.next e).esp (s.1.next e).outgoing s.2 := by
  obtain ⟨hcounts, hsequence⟩ := next_esp (s := s.1) hpoll
  have hstep := next_outgoing h.queue h.serves hpoll
  rintro q ⟨hcounted, hbase, hq⟩
  rw [hcounts] at hcounted
  rw [hsequence] at hq ⊢
  by_cases hzero : (s.1.next e).catalog.statesSequence = 0
  · exact .inl (hback hzero q hbase hq hcounted)
  · exact (h.known q ⟨hcounted, hbase, hq⟩).imp_right fun howed =>
      ⟨howed.1, howed.2.step hstep hzero⟩

theorem flags_lossyNext {s : LinkState} (h : s.esp.FlagsOk) (e : LossyEvent) :
    (s.lossyNext e).esp.FlagsOk := by
  cases e with
  | link e => exact flags_next h e
  | loseUpdate =>
    rw [LinkState.lossyNext]
    cases s.response with
    | none => exact h
    | some f =>
      dsimp only
      split_ifs <;> exact h

theorem loseUpdate_cases (s : LinkState) : s.lossyNext .loseUpdate = s ∨
    s.lossyNext .loseUpdate = { s with response := none } := by
  rw [LinkState.lossyNext]
  cases s.response with
  | none => exact .inl rfl
  | some f =>
    dsimp only
    split_ifs
    · exact .inr rfl
    · exact .inl rfl

theorem gapsOk_step {s : LinkState × Heard} {e : LossyEvent} (h : GapsOk s)
    (hshow : LossesShow s e) : GapsOk (lossyStep s e) := by
  cases e with
  | loseUpdate =>
    have hsame := loseUpdate_cases s.1
    refine ⟨flags_lossyNext h.flags _, singleRecord_next h.single _, ?_, ?_, ?_⟩
    · change QueueOk (s.1.lossyNext .loseUpdate).catalog
      obtain hsame | hsame := hsame <;>
        · rw [hsame]
          exact h.queue
    · change ServesEmpty (s.1.lossyNext .loseUpdate)
      obtain hsame | hsame := hsame
      · rw [hsame]
        exact h.serves
      · rw [hsame]
        exact fun _ => rfl
    · change Known (s.1.lossyNext .loseUpdate).esp (s.1.lossyNext .loseUpdate).outgoing s.2
      obtain hsame | hsame := hsame
      · rw [hsame]
        exact h.known
      · rw [hsame]
        intro q hq
        refine (h.known q hq).imp_right fun howed => ⟨howed.1, howed.2.lost fun p hp heq => ?_⟩
        exact hshow p hp (heq ▸ hq)
  | link e =>
    refine ⟨flags_next h.flags e, singleRecord_next h.single (.link e), queueOk_next h.queue e,
      servesEmpty_next h.serves e, ?_⟩
    by_cases hpoll : ∃ timedOut, e = .poll timedOut
    · obtain ⟨timedOut, rfl⟩ := hpoll
      exact known_poll h hshow.1 hshow.2 timedOut
    · have hnone : ∀ timedOut, e ≠ .poll timedOut := fun timedOut heq => hpoll ⟨timedOut, heq⟩
      cases e with
      | poll timedOut => exact absurd rfl (hnone timedOut)
      | _ => exact known_next h hnone hshow

theorem gapsOk_start : GapsOk (.start, ⟨0, [], false⟩) where
  flags := Esp.start_flags
  single := singleRecord_of_none rfl
  queue := empty_queueOk
  serves := fun hne => absurd rfl hne
  known := known_of_uncounted rfl

/-- No lost update goes unnoticed, if none of the losses is one that the numbers cannot show. -/
theorem losses_noticed {events : List LossyEvent}
    (h : Along lossyStep LossesShow (.start, ⟨0, [], false⟩) events) :
    Complete (run lossyStep (.start, ⟨0, [], false⟩) events) :=
  complete_of_known (run_inv (fun _ _ hs hshow => gapsOk_step hs hshow) gapsOk_start h).known

def lossy (events : List LinkEvent) : List LossyEvent := events.map .link

/-- One text point, and the bootstrap with the base 0. -/
def bootstrap : List LossyEvent :=
  lossy ([.edit (.upsert (sampleText "a"))] ++ roundTrip ++ roundTrip ++ roundTrip)

/-- The second update after the bootstrap reaches the ESP32, and the first one does or does not. -/
def twoUpdates (first : LossyEvent) : List LossyEvent :=
  bootstrap ++ lossy [.store 0 (sampleState "x"), .pump] ++ [first] ++
    lossy [.store 0 (sampleState "y"), .pump, .poll false]

/-- Three text points whose states take two chunks; the point `a` changes between the chunks of a
refresh, and its update is sent after the second one. -/
def changedWhileRefreshed : List LossyEvent :=
  lossy (firstChunkLoaded ++ roundTrip ++ [.store 1 (sampleState "x"), .pump, .poll false,
    .askRefresh] ++ roundTrip ++ [.store 0 (sampleState "y")] ++ roundTrip ++ [.pump, .poll false])

theorem losses_noticed_sample : Complete (run lossyStep (.start, ⟨0, [], false⟩)
    changedWhileRefreshed) :=
  losses_noticed (by decide +kernel)

/-- The first update after the bootstrap is lost, and nothing shows it. -/
theorem losses_unnoticed :
    ¬ ∀ events, Complete (run lossyStep (.start, ⟨0, [], false⟩) events) := by
  intro h
  have hmissed : let s := run lossyStep (.start, ⟨0, [], false⟩) (twoUpdates .loseUpdate)
      s.1.esp.statesResponseSeen = true ∧ s.2.current = true ∧ s.1.esp.statesSequence = 2 ∧
        s.2.base = 0 ∧ s.2.applied = [2] := by
    decide +kernel
  obtain ⟨hseen, hcurrent, hlocal, hbase, happlied⟩ := hmissed
  have hone := h (twoUpdates .loseUpdate) hseen hcurrent 1 (by rw [hbase]; decide)
    (by rw [hlocal]; decide)
  rw [happlied] at hone
  exact absurd hone (by decide)

end NodeNet.Link

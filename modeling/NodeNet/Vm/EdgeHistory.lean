import NodeNet.Vm.EdgeMemory

/-! Histories of edge evaluations by any mix of slots. -/
namespace NodeNet.Vm
open NodeNet.Bitmap NodeNet.Machine

structure EdgePoint where
  slot : SlotId
  index : UInt16
  deriving DecidableEq

/-- A sampled value, with the scratch base that the slot had. -/
structure EdgeSample where
  point : EdgePoint
  base : UInt32
  value : Bool
  deriving DecidableEq

def EdgeSample.prevPlace (s : EdgeSample) : Place := NodeNet.Vm.prevPlace s.base s.point.index

def EdgeSample.validPlace (s : EdgeSample) : Place := NodeNet.Vm.validPlace s.base s.point.index

def EdgeSample.places (s : EdgeSample) : List Place := [s.prevPlace, s.validPlace]

/-- The samples so far, the latest first. -/
abbrev EdgeHistory := List EdgeSample

/-- The last sampled value of a point. -/
def EdgeHistory.last (history : EdgeHistory) (point : EdgePoint) : Option Bool :=
  (history.find? fun s => s.point = point).map EdgeSample.value

/-- The edge between the last sampled value and the next. -/
def edgeResult (opcode : UInt8) (last : Option Bool) (sample : Bool) : Bool :=
  match last with
  | none => false
  | some last => if opcode = opcodeRTrig then !last && sample else last && !sample

namespace EdgeEvaluation

def sampled (e : EdgeEvaluation) : EdgeSample :=
  ⟨⟨e.vm.activeSlot, e.vm.currentRuntimeIndex⟩, e.vm.cb.slotScratchBase, e.sample⟩

/-- An evaluation after others: the memory it leaves and the history with its sample. -/
def evaluate (p : Words × EdgeHistory) (e : EdgeEvaluation) : Words × EdgeHistory :=
  ((e.result p.1).2, e.sampled :: p.2)

/-- The instruction pushes the edge of its own point's samples. -/
def Follows (p : Words × EdgeHistory) (e : EdgeEvaluation) : Prop :=
  (e.result p.1).1.data.stack = e.vm.data.stack.push
    (boolWord (edgeResult e.vm.currentOpcode (p.2.last e.sampled.point) e.sample)) .bool

/-- Its slot's scratch base is still the one of the point's earlier samples, none of its two bits is
one of another point that was sampled, and its valid bit was clear before the point's first sample. -/
structure Isolated (initial : Words) (history : EdgeHistory) (e : EdgeEvaluation) : Prop where
  base : ∀ s ∈ history, s.point = e.sampled.point → s.base = e.sampled.base
  apart : ∀ s ∈ history, s.point ≠ e.sampled.point → ∀ p ∈ s.places, p ∉ e.sampled.places
  clear : history.last e.sampled.point = none → initial.at e.validPlace = false

end EdgeEvaluation

theorem EdgeHistory.last_cons (s : EdgeSample) (history : EdgeHistory) (point : EdgePoint) :
    EdgeHistory.last (s :: history) point =
      if s.point = point then some s.value else history.last point := by
  by_cases h : s.point = point <;> simp [EdgeHistory.last, h]

theorem EdgeHistory.last_eq_none {history : EdgeHistory} {point : EdgePoint} :
    history.last point = none ↔ ∀ s ∈ history, s.point ≠ point := by
  simp [EdgeHistory.last]

/-- The memory holds the last sample of every sampled point and is else as it was. -/
structure EdgeInv (initial : Words) (p : Words × EdgeHistory) : Prop where
  valid : ∀ s ∈ p.2, p.1.at s.validPlace = true
  prev : ∀ s ∈ p.2, p.2.last s.point = some (p.1.at s.prevPlace)
  rest : ∀ place : Place, place.number < 32 → (∀ s ∈ p.2, place ∉ s.places) →
    p.1.at place = initial.at place

theorem edgeInv_initial (initial : Words) : EdgeInv initial (initial, []) where
  valid := by simp
  prev := by simp
  rest := fun _ _ _ => rfl

theorem EdgeSample.number_lt {s : EdgeSample} {place : Place} (h : place ∈ s.places) :
    place.number < 32 := by
  simp only [EdgeSample.places, List.mem_cons, List.not_mem_nil, or_false] at h
  obtain rfl | rfl := h
  · exact edgeBitNumber_lt _
  · exact edgeBitNumber_lt _

theorem EdgeSample.prevPlace_ne (s : EdgeSample) : s.prevPlace ≠ s.validPlace := fun h =>
  prevPlace_word_ne s.base s.point.index (congrArg Place.word h)

namespace EdgeEvaluation
variable {e : EdgeEvaluation} {initial : Words} {p : Words × EdgeHistory}

theorem written_of_not_mem {m : Words} {place : Place} (hlt : place.number < 32)
    (h : place ∉ e.sampled.places) : (e.written m).at place = m.at place := by
  simp only [EdgeSample.places, List.mem_cons, List.not_mem_nil, or_false, not_or] at h
  have hprev : place ≠ e.prevPlace := h.1
  have hvalid : place ≠ e.validPlace := h.2
  rw [written_at hlt, if_neg hvalid, if_neg hprev]

theorem written_validPlace (m : Words) : (e.written m).at e.validPlace = true := by
  rw [written_at (edgeBitNumber_lt _), if_pos rfl]

theorem written_prevPlace (m : Words) : (e.written m).at e.prevPlace = e.sample := by
  have hne : e.prevPlace ≠ e.validPlace := e.sampled.prevPlace_ne
  rw [written_at (edgeBitNumber_lt _), if_neg hne, if_pos rfl]

theorem places_eq {s t : EdgeSample} (hpoint : s.point = t.point) (hbase : s.base = t.base) :
    s.prevPlace = t.prevPlace ∧ s.validPlace = t.validPlace := by
  simp [EdgeSample.prevPlace, EdgeSample.validPlace, hpoint, hbase]

theorem Isolated.follows (h : e.Isolated initial p.2) (haccepted : e.Accepted p.1)
    (hinv : EdgeInv initial p) : e.Follows p := by
  have hedge : e.edge p.1 =
      edgeResult e.vm.currentOpcode (p.2.last e.sampled.point) e.sample := by
    cases hlast : p.2.last e.sampled.point with
    | none =>
      have hnot := EdgeHistory.last_eq_none.mp hlast
      have hvalid : p.1.at e.validPlace = false := by
        rw [hinv.rest e.validPlace (edgeBitNumber_lt _), h.clear hlast]
        intro s hs hmem
        exact h.apart s hs (hnot s hs) _ hmem (List.mem_cons_of_mem _ (List.mem_singleton_self _))
      simp [edge, edgeResult, hvalid]
    | some last =>
      obtain ⟨s, hfind, -⟩ := Option.map_eq_some_iff.mp hlast
      have hs := List.mem_of_find?_eq_some hfind
      have hpoint : s.point = e.sampled.point := by simpa using List.find?_some hfind
      obtain ⟨hprevPlace, hvalidPlace⟩ := places_eq hpoint (h.base s hs hpoint)
      have hvalid : p.1.at e.validPlace = true := by
        have := hinv.valid s hs
        rwa [hvalidPlace] at this
      have hprev : last = p.1.at e.prevPlace := by
        have := hinv.prev s hs
        rw [hpoint, hlast, hprevPlace] at this
        exact Option.some.inj this
      simp [edge, edgeResult, hvalid, hprev]
  rw [Follows, haccepted.result_eq.1, pushed, hedge]

theorem Isolated.evaluate (h : e.Isolated initial p.2) (haccepted : e.Accepted p.1)
    (hinv : EdgeInv initial p) : EdgeInv initial (evaluate p e) := by
  have hmem : (EdgeEvaluation.evaluate p e).1 = e.written p.1 := haccepted.result_eq.2
  constructor
  · intro s hs
    rw [hmem]
    by_cases hpoint : s.point = e.sampled.point
    · have hbase : s.base = e.sampled.base := by
        obtain rfl | hs := List.mem_cons.mp hs
        · rfl
        · exact h.base s hs hpoint
      rw [(places_eq hpoint hbase).2]
      exact written_validPlace _
    · obtain rfl | hs := List.mem_cons.mp hs
      · exact absurd rfl hpoint
      · have hplace : s.validPlace ∈ s.places := by simp [EdgeSample.places]
        rw [written_of_not_mem (EdgeSample.number_lt hplace) (h.apart s hs hpoint _ hplace)]
        exact hinv.valid s hs
  · intro s hs
    rw [hmem]
    change EdgeHistory.last (e.sampled :: p.2) s.point = _
    rw [EdgeHistory.last_cons]
    by_cases hpoint : e.sampled.point = s.point
    · have hbase : s.base = e.sampled.base := by
        obtain rfl | hs := List.mem_cons.mp hs
        · rfl
        · exact h.base s hs hpoint.symm
      rw [if_pos hpoint, (places_eq hpoint.symm hbase).1]
      exact congrArg some (written_prevPlace _).symm
    · obtain rfl | hs := List.mem_cons.mp hs
      · exact absurd rfl hpoint
      · have hplace : s.prevPlace ∈ s.places := by simp [EdgeSample.places]
        rw [if_neg hpoint, written_of_not_mem (EdgeSample.number_lt hplace)
          (h.apart s hs (fun heq => hpoint heq.symm) _ hplace)]
        exact hinv.prev s hs
  · intro place hlt hnot
    have hnot' := fun s hs => hnot s (List.mem_cons_of_mem _ hs)
    rw [hmem, written_of_not_mem hlt (hnot _ (List.mem_cons_self ..))]
    exact hinv.rest place hlt hnot'

end EdgeEvaluation

open EdgeEvaluation

/-- In a history of isolated evaluations each result depends on its own point's samples only. -/
theorem edges_follow_samples {initial : Words} {evaluations : List EdgeEvaluation}
    (haccepted : Along evaluate (fun p e => e.Accepted p.1) (initial, []) evaluations)
    (hisolated : Along evaluate (fun p e => e.Isolated initial p.2) (initial, []) evaluations) :
    Along evaluate (fun p e => e.Follows p) (initial, []) evaluations :=
  along_of_inv (EdgeInv initial) (fun _ _ hinv h => h.2.evaluate h.1 hinv)
    (fun _ _ hinv h => h.2.follows h.1 hinv) (edgeInv_initial initial) (haccepted.and hisolated)

/-- An evaluation that the bus answers at once; the stack is empty. -/
def promptEvaluation (opcode : UInt8) (slot : SlotId) (index : UInt16) (value : UInt32) :
    EdgeEvaluation where
  vm :=
    { WbPlc.reset 0 0 with
      state := .edgeReadValue
      activeSlot := slot
      cb := ⟨0, 0, 0, 0, 0, 0, 0, 0, 0, 512⟩
      currentOpcode := opcode
      currentRuntimeIndex := index }
  value := value
  inputs := List.replicate 10 { quietIn with ack := true }

def risingEdge : List EdgeEvaluation :=
  [promptEvaluation opcodeRTrig 0 0 0, promptEvaluation opcodeRTrig 0 0 1,
    promptEvaluation opcodeFTrig 0 1 1]

theorem risingEdge_follows :
    Along evaluate (fun p e => e.Follows p) (fun _ => 0, []) risingEdge := by
  refine edges_follow_samples ?_ ?_
  · refine ⟨⟨rfl, rfl, rfl, ?_⟩, ⟨rfl, rfl, rfl, ?_⟩, ⟨rfl, rfl, rfl, ?_⟩, trivial⟩
    all_goals decide +kernel
  · refine ⟨⟨?_, ?_, ?_⟩, ⟨?_, ?_, ?_⟩, ⟨?_, ?_, ?_⟩, trivial⟩
    all_goals decide +kernel

/-- A point sampled low, then the first sample of the point 512 above it. -/
def aliasedPoints : List EdgeEvaluation :=
  [promptEvaluation opcodeRTrig 0 0 0, promptEvaluation opcodeRTrig 0 512 1]

/-- The first sample of the second point reports an edge. -/
theorem aliasedPoints_not_follows :
    Along evaluate (fun p e => e.Accepted p.1) (fun _ => 0, []) aliasedPoints ∧
      ¬Along evaluate (fun p e => e.Follows p) (fun _ => 0, []) aliasedPoints := by
  constructor
  · refine ⟨⟨rfl, rfl, rfl, ?_⟩, ⟨rfl, rfl, rfl, ?_⟩, trivial⟩
    all_goals decide +kernel
  · intro h
    have hsecond := h.2.1
    revert hsecond
    simp only [Follows]
    decide +kernel

end NodeNet.Vm

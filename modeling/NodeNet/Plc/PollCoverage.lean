import NodeNet.Plc.PollPlan

/-! Every point that the plan is made of is a member of a batch with its own registers. -/
namespace NodeNet.Plc
open NodeNet.Bytes NodeNet.Points NodeNet.Catalog

theorem ModbusTable.ofByte_toByte (t : ModbusTable) : ofByte t.toByte = t := by
  cases t with
  | unnamed raw h => exact dif_pos h
  | _ => rfl

theorem ModbusTable.toByte_injective {a b : ModbusTable} (h : a.toByte = b.toByte) : a = b := by
  rw [← ofByte_toByte a, h, ofByte_toByte]

/-- The sort order but for the index. -/
def PollPoint.rank (p : PollPoint) : Nat :=
  ((p.ref.portIndex.toNat * 256 + p.ref.slaveAddress.toNat) * 256 + p.ref.table.toByte.toNat) *
    65536 + p.ref.address.toNat

theorem modbusPollSortBefore_iff (p q : PollPoint) :
    modbusPollSortBefore p q = true ↔ p.rank < q.rank ∨ p.rank = q.rank ∧ p.index < q.index := by
  have hslave := p.ref.slaveAddress.toNat_lt
  have hslave' := q.ref.slaveAddress.toNat_lt
  have htable := p.ref.table.toByte.toNat_lt
  have htable' := q.ref.table.toByte.toNat_lt
  have haddress := p.ref.address.toNat_lt
  have haddress' := q.ref.address.toNat_lt
  unfold modbusPollSortBefore PollPoint.rank
  split
  case isTrue h =>
    have hne := mt UInt8.toNat_inj.mp h
    simp only [decide_eq_true_eq, UInt8.lt_iff_toNat_lt]
    omega
  case isFalse h =>
    have heq := congrArg UInt8.toNat (Decidable.not_not.mp h)
    split
    case isTrue h =>
      have hne := mt UInt8.toNat_inj.mp h
      simp only [decide_eq_true_eq, UInt8.lt_iff_toNat_lt]
      omega
    case isFalse h =>
      have heq' := congrArg UInt8.toNat (Decidable.not_not.mp h)
      split
      case isTrue h =>
        have hne : p.ref.table.toByte.toNat ≠ q.ref.table.toByte.toNat := fun hbyte =>
          h (ModbusTable.toByte_injective (UInt8.toNat_inj.mp hbyte))
        simp only [decide_eq_true_eq, UInt8.lt_iff_toNat_lt]
        omega
      case isFalse h =>
        have heq'' := congrArg (UInt8.toNat ∘ ModbusTable.toByte) (Decidable.not_not.mp h)
        simp only [Function.comp] at heq''
        split
        case isTrue h =>
          have hne := mt UInt16.toNat_inj.mp h
          simp only [decide_eq_true_eq, UInt16.lt_iff_toNat_lt]
          omega
        case isFalse h =>
          have heq''' := congrArg UInt16.toNat (Decidable.not_not.mp h)
          simp only [decide_eq_true_eq]
          omega

theorem mem_insertPoint {p q : PollPoint} {sorted : List PollPoint} :
    q ∈ insertPoint p sorted ↔ q = p ∨ q ∈ sorted := by
  induction sorted with
  | nil => simp [insertPoint]
  | cons r rest ih =>
    rw [insertPoint]
    split
    · simp only [List.mem_cons, ih]
      exact or_left_comm
    · simp

theorem length_insertPoint (p : PollPoint) (sorted : List PollPoint) :
    (insertPoint p sorted).length = sorted.length + 1 := by
  induction sorted with
  | nil => rfl
  | cons r rest ih =>
    rw [insertPoint]
    split <;> simp [ih]

/-- No point of the list comes before an earlier one. -/
def Descends (sorted : List PollPoint) : Prop :=
  sorted.Pairwise fun later earlier => modbusPollSortBefore later earlier = false

theorem insertPoint_descends (p : PollPoint) {sorted : List PollPoint} (h : Descends sorted) :
    Descends (insertPoint p sorted) := by
  have hbefore := modbusPollSortBefore_iff
  induction sorted with
  | nil => exact List.pairwise_singleton _ p
  | cons q rest ih =>
    obtain ⟨hq, hrest⟩ := List.pairwise_cons.mp h
    rw [insertPoint]
    split
    case isTrue hlt =>
      refine List.pairwise_cons.mpr ⟨fun r hr => ?_, ih hrest⟩
      obtain rfl | hr := mem_insertPoint.mp hr
      · rw [Bool.eq_false_iff, ne_eq, hbefore]
        rw [hbefore] at hlt
        omega
      · exact hq r hr
    case isFalse hge =>
      refine List.pairwise_cons.mpr ⟨fun r hr => ?_, h⟩
      obtain rfl | hr := List.mem_cons.mp hr
      · exact Bool.eq_false_iff.mpr hge
      · have hqr := hq r hr
        rw [Bool.eq_false_iff, ne_eq, hbefore] at hqr ⊢
        rw [hbefore] at hge
        omega

theorem foldl_insertPoint (points sorted : List PollPoint) :
    (Descends sorted → Descends (points.foldl (fun sorted p => insertPoint p sorted) sorted)) ∧
      (∀ q, q ∈ points.foldl (fun sorted p => insertPoint p sorted) sorted ↔
        q ∈ points ∨ q ∈ sorted) ∧
      (points.foldl (fun sorted p => insertPoint p sorted) sorted).length =
        points.length + sorted.length := by
  induction points generalizing sorted with
  | nil => simp
  | cons p points ih =>
    obtain ⟨hdescends, hmem, hlength⟩ := ih (insertPoint p sorted)
    refine ⟨fun h => hdescends (insertPoint_descends p h), fun q => ?_, ?_⟩
    · rw [List.foldl_cons, hmem, mem_insertPoint, List.mem_cons]
      exact or_assoc.symm.trans (or_congr_left or_comm)
    · rw [List.foldl_cons, hlength, length_insertPoint, List.length_cons]
      omega

theorem mem_sortedPoints {points : List PollPoint} {q : PollPoint} :
    q ∈ sortedPoints points ↔ q ∈ points := by
  have h := (foldl_insertPoint points []).2.1 q
  rw [sortedPoints, List.mem_reverse, h]
  simp

theorem length_sortedPoints (points : List PollPoint) :
    (sortedPoints points).length = points.length := by
  have h := (foldl_insertPoint points []).2.2
  rw [sortedPoints, List.length_reverse, h]
  rfl

def PollPoint.sameTable (p q : PollPoint) : Prop :=
  p.ref.portIndex = q.ref.portIndex ∧ p.ref.slaveAddress = q.ref.slaveAddress ∧
    p.ref.table = q.ref.table

theorem sortedPoints_sorted (points : List PollPoint) :
    (sortedPoints points).Pairwise fun p q => p.sameTable q → p.ref.address ≤ q.ref.address := by
  rw [sortedPoints, List.pairwise_reverse]
  have h := (foldl_insertPoint points []).1 List.Pairwise.nil
  refine h.imp fun {q p} hqp hsame => ?_
  obtain ⟨hport, hslave, htable⟩ := hsame
  rw [Bool.eq_false_iff, ne_eq, modbusPollSortBefore_iff] at hqp
  rw [UInt16.le_iff_toNat_le]
  simp only [PollPoint.rank, hport, hslave, htable] at hqp
  omega

theorem mem_polledPoints {definitions : List PointDefinition} {p : PollPoint} :
    p ∈ polledPoints definitions ↔ ∃ d, definitions[p.index]? = some d ∧ isPolled d = true ∧
      p.ref = (modbusRef d).toModbusRegisters := by
  simp only [polledPoints, List.mem_map, List.mem_filter, Prod.exists, List.mem_zipIdx_iff_getElem?]
  constructor
  · intro h
    obtain ⟨d, i, ⟨hget, hpolled⟩, rfl⟩ := h
    exact ⟨d, hget, hpolled, rfl⟩
  · intro h
    obtain ⟨d, hget, hpolled, href⟩ := h
    refine ⟨d, p.index, ⟨hget, hpolled⟩, ?_⟩
    rw [← href]

theorem length_polledPoints_le (definitions : List PointDefinition) :
    (polledPoints definitions).length ≤ definitions.length := by
  rw [polledPoints, List.length_map, ← List.length_zipIdx (l := definitions) (i := 0)]
  exact List.length_filter_le ..

/-- The point is a member of a batch at its own index, and the batch reads all its registers. -/
def Covered (plan : PollPlan) (p : PollPoint) : Prop :=
  ∃ b ∈ plan.batches, ∃ k < b.memberCount, ∃ m : ModbusPollBatchMember,
    plan.members[b.memberStart + k]? = some m ∧ m.catalogIndex = p.index ∧
      b.portIndex = p.ref.portIndex ∧ b.slaveAddress = p.ref.slaveAddress ∧
      b.table = p.ref.table ∧ b.startAddress.toNat + m.addressOffset.toNat = p.ref.address.toNat ∧
      m.addressOffset.toNat + (modbusPointSpan p.ref).toNat ≤ b.quantity.toNat

/-- What holds of the batches while the points are packed. -/
structure Built (plan : PollPlan) (rest : List PollPoint) : Prop where
  count : plan.batches.length ≤ plan.members.length
  last : ∀ b older, plan.batches = b :: older →
    b.memberStart + b.memberCount = plan.members.length ∧ 1 ≤ b.quantity.toNat ∧
      ∀ q ∈ rest, b.portIndex = q.ref.portIndex → b.slaveAddress = q.ref.slaveAddress →
        b.table = q.ref.table → b.startAddress.toNat ≤ q.ref.address.toNat

theorem addMember_covered {b : ModbusPollBatch} {older : List ModbusPollBatch}
    {members : List ModbusPollBatchMember} {p : PollPoint}
    (hlast : b.memberStart + b.memberCount = members.length)
    (hport : b.portIndex = p.ref.portIndex) (hslave : b.slaveAddress = p.ref.slaveAddress)
    (htable : b.table = p.ref.table) (hstart : b.startAddress.toNat ≤ p.ref.address.toNat)
    (hquantity : p.ref.address.toNat - b.startAddress.toNat + (modbusPointSpan p.ref).toNat ≤
      b.quantity.toNat) : Covered (addMember b older members p) p := by
  have hoffset : (p.ref.address - b.startAddress).toNat =
      p.ref.address.toNat - b.startAddress.toNat := by
    rw [UInt16.toNat_sub_of_le _ _ (UInt16.le_iff_toNat_le.mpr hstart)]
  refine ⟨_, List.mem_cons_self, b.memberCount, Nat.lt_succ_self _,
    ⟨p.index, p.ref.address - b.startAddress⟩, ?_, rfl, hport, hslave, htable, ?_, ?_⟩
  · simp [addMember, hlast]
  · change b.startAddress.toNat + (p.ref.address - b.startAddress).toNat = _
    omega
  · change (p.ref.address - b.startAddress).toNat + _ ≤ b.quantity.toNat
    omega

theorem addMember_keeps {b b' : ModbusPollBatch} {older : List ModbusPollBatch}
    {members : List ModbusPollBatchMember} {p q : PollPoint}
    (hbatch : b = { b' with quantity := b.quantity }) (hgrows : b'.quantity ≤ b.quantity)
    (h : Covered ⟨b' :: older, members⟩ q) : Covered (addMember b older members p) q := by
  obtain ⟨c, hc, k, hk, m, hm, hindex, hport, hslave, htable, hstart, hquantity⟩ := h
  have hm' : (members ++ [(⟨p.index, p.ref.address - b.startAddress⟩ : ModbusPollBatchMember)])[
      c.memberStart + k]? = some m := by
    have hlt := (List.getElem?_eq_some_iff.mp hm).1
    rw [List.getElem?_append_left hlt]
    exact hm
  obtain rfl | hc := List.mem_cons.mp hc
  · refine ⟨{ b with memberCount := b.memberCount + 1 }, List.mem_cons_self, k, ?_, m, ?_⟩
    · rw [hbatch]
      exact Nat.lt_succ_of_lt hk
    · have hle := UInt16.le_iff_toNat_le.mp hgrows
      rw [hbatch]
      exact ⟨by rw [hbatch] at hm'; exact hm', hindex, hport, hslave, htable, hstart,
        Nat.le_trans hquantity hle⟩
  · exact ⟨c, List.mem_cons_of_mem _ hc, k, hk, m, hm', hindex, hport, hslave, htable, hstart,
      hquantity⟩

theorem addMember_keeps_older {b : ModbusPollBatch} {plan : PollPlan} {p q : PollPoint}
    (h : Covered plan q) : Covered (addMember b plan.batches plan.members p) q := by
  obtain ⟨c, hc, k, hk, m, hm, hrest⟩ := h
  refine ⟨c, List.mem_cons_of_mem _ hc, k, hk, m, ?_, hrest⟩
  have hlt := (List.getElem?_eq_some_iff.mp hm).1
  exact (List.getElem?_append_left hlt).trans hm

theorem mergedQuantity_spec {b : ModbusPollBatch} {r : ModbusRegisters}
    (hquantity : 1 ≤ b.quantity.toNat) (hspan : modbusPointSpan r ≠ 0)
    (hstart : b.startAddress.toNat ≤ r.address.toNat) :
    b.quantity.toNat ≤ mergedQuantity b r ∧
      r.address.toNat - b.startAddress.toNat + (modbusPointSpan r).toNat ≤ mergedQuantity b r := by
  have hpos : (modbusPointSpan r).toNat ≠ 0 := fun h => hspan (UInt16.toNat_inj.mp h)
  unfold mergedQuantity
  dsimp only
  omega

theorem batchLimit_lt (table : ModbusTable) : batchLimit table < 2 ^ 16 := by
  unfold batchLimit
  split <;> decide

section
variable {maxGap : UInt16} {plan : PollPlan} {p : PollPoint} {rest : List PollPoint}

/-- A point goes into the last batch or opens a new one. -/
theorem addPoint_spec (h : Built plan (p :: rest))
    (hsorted : ∀ q ∈ rest, p.sameTable q → p.ref.address ≤ q.ref.address)
    (hspan : modbusPointSpan p.ref ≠ 0) (hroom : plan.members.length < kMaxPoints) :
    ∃ next, addPoint maxGap plan p = some next ∧ Built next rest ∧ Covered next p ∧
      (∀ q, Covered plan q → Covered next q) ∧
      next.members.length = plan.members.length + 1 := by
  have hopen : ∃ next, (if kMaxModbusPollBatches ≤ plan.batches.length ∨
        kMaxModbusBatchMembers ≤ plan.members.length then none
      else some (addMember (newBatch plan.members.length p.ref) plan.batches plan.members p)) =
        some next ∧ Built next rest ∧ Covered next p ∧
      (∀ q, Covered plan q → Covered next q) ∧
      next.members.length = plan.members.length + 1 := by
    have hnot : ¬(kMaxModbusPollBatches ≤ plan.batches.length ∨
        kMaxModbusBatchMembers ≤ plan.members.length) := by
      have hcount := h.count
      simp only [kMaxModbusPollBatches, kMaxModbusBatchMembers]
      omega
    refine ⟨_, if_neg hnot, ⟨?_, ?_⟩, ?_, fun q hq => addMember_keeps_older hq, ?_⟩
    · simpa [addMember] using h.count
    · intro b older hb
      obtain ⟨rfl, -⟩ := List.cons.inj hb
      refine ⟨by simp [addMember, newBatch], ?_, fun q hq hport hslave htable => ?_⟩
      · have hpos : (modbusPointSpan p.ref).toNat ≠ 0 := fun hz => hspan (UInt16.toNat_inj.mp hz)
        exact Nat.one_le_iff_ne_zero.mpr hpos
      · exact UInt16.le_iff_toNat_le.mp (hsorted q hq ⟨hport, hslave, htable⟩)
    · exact addMember_covered rfl rfl rfl rfl (Nat.le_refl _) (by simp [newBatch])
    · simp [addMember]
  unfold addPoint
  dsimp only
  cases hbatches : plan.batches with
  | nil =>
    rw [hbatches] at hopen
    exact hopen
  | cons b older =>
    dsimp only
    by_cases happends : appendsToBatch maxGap b p.ref = true
    · rw [if_pos happends]
      simp only [appendsToBatch, Bool.and_eq_true, decide_eq_true_eq] at happends
      obtain ⟨⟨⟨⟨hport, hslave⟩, htable⟩, -⟩, hlimit⟩ := happends
      obtain ⟨hlast, hquantity, hstarts⟩ := h.last b older hbatches
      have hstart := hstarts p List.mem_cons_self hport hslave htable
      obtain ⟨hgrows, hcovers⟩ := mergedQuantity_spec hquantity hspan hstart
      have hmerged : (UInt16.ofNat (mergedQuantity b p.ref)).toNat = mergedQuantity b p.ref :=
        UInt16.toNat_ofNat_of_lt' (Nat.lt_of_le_of_lt hlimit (batchLimit_lt _))
      refine ⟨_, rfl, ⟨?_, ?_⟩, ?_, fun q hq => ?_, by simp [addMember]⟩
      · have hcount := h.count
        rw [hbatches] at hcount
        simp only [addMember, List.length_cons, List.length_append, List.length_nil] at hcount ⊢
        omega
      · intro c older' hc
        obtain ⟨rfl, -⟩ := List.cons.inj hc
        refine ⟨?_, ?_, fun q hq => hstarts q (List.mem_cons_of_mem _ hq)⟩
        · simp [addMember, ← hlast, Nat.add_assoc]
        · change 1 ≤ (UInt16.ofNat (mergedQuantity b p.ref)).toNat
          omega
      · refine addMember_covered hlast hport hslave htable hstart ?_
        change p.ref.address.toNat - b.startAddress.toNat + (modbusPointSpan p.ref).toNat ≤
          (UInt16.ofNat (mergedQuantity b p.ref)).toNat
        omega
      · refine @addMember_keeps _ b _ _ _ _ rfl ?_ ?_
        · rw [UInt16.le_iff_toNat_le]
          change _ ≤ (UInt16.ofNat (mergedQuantity b p.ref)).toNat
          omega
        · rw [← hbatches]
          exact hq
    · rw [if_neg happends]
      rw [hbatches] at hopen
      exact hopen

end

theorem addPoints_spec {maxGap : UInt16} {rest : List PollPoint} {plan : PollPlan}
    (h : Built plan rest)
    (hsorted : rest.Pairwise fun p q => p.sameTable q → p.ref.address ≤ q.ref.address)
    (hroom : plan.members.length + rest.length ≤ kMaxPoints) :
    (∀ q, Covered plan q → Covered (addPoints maxGap plan rest) q) ∧
      ∀ p ∈ rest, modbusPointSpan p.ref ≠ 0 → Covered (addPoints maxGap plan rest) p := by
  induction rest generalizing plan with
  | nil => exact ⟨fun q hq => hq, by simp⟩
  | cons p rest ih =>
    obtain ⟨hp, hrest⟩ := List.pairwise_cons.mp hsorted
    rw [List.length_cons] at hroom
    rw [addPoints]
    by_cases hspan : modbusPointSpan p.ref = 0
    · rw [if_pos hspan]
      have hbuilt : Built plan rest :=
        ⟨h.count, fun b older hb => ⟨(h.last b older hb).1, (h.last b older hb).2.1,
          fun q hq => (h.last b older hb).2.2 q (List.mem_cons_of_mem _ hq)⟩⟩
      obtain ⟨hkeeps, hcovers⟩ := ih hbuilt hrest (by omega)
      refine ⟨hkeeps, fun q hq hne => ?_⟩
      obtain rfl | hq := List.mem_cons.mp hq
      · exact absurd hspan hne
      · exact hcovers q hq hne
    · obtain ⟨next, hnext, hbuilt, hcovered, hkeep, hlength⟩ :=
        @addPoint_spec maxGap _ _ _ h hp hspan (by omega)
      rw [if_neg hspan, hnext]
      obtain ⟨hkeeps, hcovers⟩ := ih hbuilt hrest (by omega)
      refine ⟨fun q hq => hkeeps q (hkeep q hq), fun q hq hne => ?_⟩
      obtain rfl | hq := List.mem_cons.mp hq
      · exact hkeeps q hcovered
      · exact hcovers q hq hne

theorem planOf_covered (maxGap : UInt16) {points : List PollPoint}
    (hlength : points.length ≤ kMaxPoints) {p : PollPoint} (hp : p ∈ points)
    (hspan : modbusPointSpan p.ref ≠ 0) : Covered (planOf maxGap points) p := by
  have hbuilt : Built .empty (sortedPoints points) := ⟨Nat.le_refl 0, fun _ _ hb => by cases hb⟩
  have hroom : PollPlan.empty.members.length + (sortedPoints points).length ≤ kMaxPoints := by
    rw [length_sortedPoints]
    simpa [PollPlan.empty] using hlength
  obtain ⟨b, hb, hrest⟩ := (@addPoints_spec maxGap _ _ hbuilt (sortedPoints_sorted points)
    hroom).2 p (mem_sortedPoints.mpr hp) hspan
  exact ⟨b, List.mem_reverse.mpr hb, hrest⟩

def hasRegisters (p : PollPoint) : Bool := modbusPointSpan p.ref ≠ 0

theorem insertPoint_of_all {p : PollPoint} {sorted : List PollPoint}
    (h : ∀ q ∈ sorted, modbusPollSortBefore p q = false) : insertPoint p sorted = p :: sorted := by
  cases sorted with
  | nil => rfl
  | cons q rest => simp [insertPoint, h q List.mem_cons_self]

theorem filter_insertPoint (f : PollPoint → Bool) (p : PollPoint) {sorted : List PollPoint}
    (h : Descends sorted) :
    (insertPoint p sorted).filter f =
      if f p then insertPoint p (sorted.filter f) else sorted.filter f := by
  have hbefore := modbusPollSortBefore_iff
  induction sorted with
  | nil => simp [insertPoint, List.filter_cons]
  | cons q rest ih =>
    obtain ⟨hq, hrest⟩ := List.pairwise_cons.mp h
    rw [insertPoint]
    split
    case isTrue hlt =>
      rw [List.filter_cons, ih hrest, List.filter_cons]
      cases f p <;> cases f q <;> simp [insertPoint, hlt]
    case isFalse hge =>
      have hall : ∀ r ∈ (q :: rest).filter f, modbusPollSortBefore p r = false := by
        intro r hr
        obtain rfl | hr := List.mem_cons.mp (List.mem_filter.mp hr).1
        · exact Bool.eq_false_iff.mpr hge
        · have hqr := hq r hr
          rw [Bool.eq_false_iff, ne_eq, hbefore] at hqr ⊢
          rw [hbefore] at hge
          omega
      rw [insertPoint_of_all hall, List.filter_cons]

theorem foldl_insertPoint_filter (f : PollPoint → Bool) (points : List PollPoint)
    {sorted : List PollPoint} (h : Descends sorted) :
    (points.foldl (fun sorted p => insertPoint p sorted) sorted).filter f =
      (points.filter f).foldl (fun sorted p => insertPoint p sorted) (sorted.filter f) := by
  induction points generalizing sorted with
  | nil => rfl
  | cons p points ih =>
    rw [List.foldl_cons, ih (insertPoint_descends p h), filter_insertPoint f p h, List.filter_cons]
    cases f p <;> rfl

theorem addPoints_filter (maxGap : UInt16) (points : List PollPoint) (plan : PollPlan) :
    addPoints maxGap plan points = addPoints maxGap plan (points.filter hasRegisters) := by
  induction points generalizing plan with
  | nil => rfl
  | cons p points ih =>
    by_cases hspan : modbusPointSpan p.ref = 0
    · have hnot : hasRegisters p = false := by simp [hasRegisters, hspan]
      rw [addPoints, if_pos hspan, List.filter_cons, hnot, ih]
      rfl
    · have hhas : hasRegisters p = true := by simp [hasRegisters, hspan]
      rw [List.filter_cons, hhas, if_pos rfl, addPoints, addPoints, if_neg hspan, if_neg hspan]
      cases addPoint maxGap plan p with
      | none => rfl
      | some plan => exact ih plan

theorem planOf_filter (maxGap : UInt16) (points : List PollPoint) :
    planOf maxGap (points.filter hasRegisters) = planOf maxGap points := by
  have hsorted : sortedPoints (points.filter hasRegisters) =
      (sortedPoints points).filter hasRegisters := by
    have h := foldl_insertPoint_filter hasRegisters points List.Pairwise.nil
    rw [List.filter_nil] at h
    rw [sortedPoints, ← h, sortedPoints, List.filter_reverse]
  rw [planOf, hsorted, ← addPoints_filter]
  rfl

end NodeNet.Plc

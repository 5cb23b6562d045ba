import NodeNet.Plc.PollCoverage
import NodeNet.Plc.Service

/-! The plan that a rebuild makes: every point once, in a batch that fits it. -/
namespace NodeNet.Plc
open NodeNet.Bytes NodeNet.Points NodeNet.Catalog

/-- A Modbus point that is no writable coil and has registers. -/
def Pollable (d : PointDefinition) : Prop :=
  isPolled d = true ∧ modbusPointSpan (modbusRef d).toModbusRegisters ≠ 0

/-- The member stands for a point of the batch's table, and the batch reads all of it. -/
structure Fits (b : ModbusPollBatch) (m : ModbusPollBatchMember) (r : ModbusRegisters) : Prop where
  port : b.portIndex = r.portIndex
  slave : b.slaveAddress = r.slaveAddress
  table : b.table = r.table
  address : b.startAddress.toNat + m.addressOffset.toNat = r.address.toNat
  span : m.addressOffset.toNat + (modbusPointSpan r).toNat ≤ b.quantity.toNat

/-- Some member of the batch reads one of the addresses from `o` to `o + gap`. -/
def Reads (definitions : List PointDefinition) (plan : PollPlan) (b : ModbusPollBatch)
    (gap o : Nat) : Prop :=
  ∃ m ∈ plan.membersOf b, ∃ d, definitions[m.catalogIndex]? = some d ∧
    ∃ x, o ≤ x ∧ x ≤ o + gap ∧ m.addressOffset.toNat ≤ x ∧
      x < m.addressOffset.toNat + (modbusPointSpan (modbusRef d).toModbusRegisters).toNat

structure PlanCorrect (maxGap : UInt16) (definitions : List PointDefinition) (plan : PollPlan) :
    Prop where
  placed : ∀ i d, definitions[i]? = some d → Pollable d →
    ((plan.batches.flatMap plan.membersOf).map (·.catalogIndex)).count i = 1
  fits : ∀ b ∈ plan.batches, ∀ m ∈ plan.membersOf b, ∃ d,
    definitions[m.catalogIndex]? = some d ∧ Pollable d ∧ Fits b m (modbusRef d).toModbusRegisters
  accepted : ∀ b ∈ plan.batches, 1 ≤ b.quantity.toNat ∧ b.quantity.toNat ≤ batchLimit b.table
  holes : ∀ b ∈ plan.batches, ∀ o, o + maxGap.toNat < b.quantity.toNat →
    Reads definitions plan b maxGap.toNat o

/-- A batch and the points that were packed into it. -/
structure Group where
  batch : ModbusPollBatch
  points : List PollPoint

def memberOf (b : ModbusPollBatch) (p : PollPoint) : ModbusPollBatchMember :=
  ⟨p.index, p.ref.address - b.startAddress⟩

/-- The groups are held the last first, as the batches of a plan in the making. -/
def groupPoints : List Group → List PollPoint
  | [] => []
  | g :: older => groupPoints older ++ g.points

def groupMembers : List Group → List ModbusPollBatchMember
  | [] => []
  | g :: older => groupMembers older ++ g.points.map (memberOf g.batch)

def Numbered : List Group → Prop
  | [] => True
  | g :: older => g.batch.memberStart = (groupMembers older).length ∧ Numbered older

/-- The registers of a point, counted from the start of the batch. -/
def ReadsOffset (b : ModbusPollBatch) (p : PollPoint) (x : Nat) : Prop :=
  p.ref.address.toNat - b.startAddress.toNat ≤ x ∧
    x < p.ref.address.toNat - b.startAddress.toNat + (modbusPointSpan p.ref).toNat

/-- What holds of one group. -/
structure Packed (maxGap : UInt16) (g : Group) : Prop where
  count : g.batch.memberCount = g.points.length
  fits : ∀ p ∈ g.points, Fits g.batch (memberOf g.batch p) p.ref
  least : ∀ p ∈ g.points, g.batch.startAddress.toNat ≤ p.ref.address.toNat
  limit : (∀ p ∈ g.points, (modbusPointSpan p.ref).toNat ≤ batchLimit p.ref.table) →
    g.batch.quantity.toNat ≤ batchLimit g.batch.table
  tail : ∃ p ∈ g.points, ReadsOffset g.batch p (g.batch.quantity.toNat - 1)
  holes : ∀ o, o + maxGap.toNat < g.batch.quantity.toNat →
    ∃ p ∈ g.points, ∃ x, o ≤ x ∧ x ≤ o + maxGap.toNat ∧ ReadsOffset g.batch p x

structure Holds (maxGap : UInt16) (plan : PollPlan) (groups : List Group) : Prop where
  batches : plan.batches = groups.map (·.batch)
  members : plan.members = groupMembers groups
  numbered : Numbered groups
  packed : ∀ g ∈ groups, Packed maxGap g

theorem memberOf_offset {b : ModbusPollBatch} {p : PollPoint}
    (h : b.startAddress.toNat ≤ p.ref.address.toNat) :
    (memberOf b p).addressOffset.toNat = p.ref.address.toNat - b.startAddress.toNat :=
  UInt16.toNat_sub_of_le _ _ (UInt16.le_iff_toNat_le.mpr h)

theorem newBatch_packed (maxGap : UInt16) (memberStart : Nat) {p : PollPoint}
    (hspan : modbusPointSpan p.ref ≠ 0) :
    Packed maxGap ⟨{ newBatch memberStart p.ref with memberCount := 1 }, [p]⟩ where
  count := rfl
  fits q hq := by
    rw [List.mem_singleton.mp hq]
    refine ⟨rfl, rfl, rfl, ?_, ?_⟩
    · simp [newBatch, memberOf]
    · simp [newBatch, memberOf]
  least q hq := by
    rw [List.mem_singleton.mp hq]
    exact Nat.le_refl _
  limit h := h p List.mem_cons_self
  tail := by
    have hpos : (modbusPointSpan p.ref).toNat ≠ 0 := fun hz => hspan (UInt16.toNat_inj.mp hz)
    refine ⟨p, List.mem_cons_self, ?_⟩
    simp only [ReadsOffset, newBatch]
    omega
  holes o ho := by
    refine ⟨p, List.mem_cons_self, o, Nat.le_refl o, Nat.le_add_right _ _, ?_⟩
    simp only [ReadsOffset, newBatch] at ho ⊢
    omega

def mergedBatch (b : ModbusPollBatch) (r : ModbusRegisters) : ModbusPollBatch :=
  { b with quantity := UInt16.ofNat (mergedQuantity b r), memberCount := b.memberCount + 1 }

theorem mergedQuantity_eq {b : ModbusPollBatch} {r : ModbusRegisters}
    (hquantity : 1 ≤ b.quantity.toNat) (hspan : modbusPointSpan r ≠ 0)
    (hstart : b.startAddress.toNat ≤ r.address.toNat) :
    mergedQuantity b r =
      max (r.address.toNat - b.startAddress.toNat + (modbusPointSpan r).toNat)
        b.quantity.toNat := by
  have hpos : (modbusPointSpan r).toNat ≠ 0 := fun h => hspan (UInt16.toNat_inj.mp h)
  unfold mergedQuantity
  dsimp only
  omega

variable {maxGap : UInt16}

theorem quantity_pos {g : Group} (h : Packed maxGap g) : 1 ≤ g.batch.quantity.toNat := by
  obtain ⟨p, hp, hreads⟩ := h.tail
  have hfits := (h.fits p hp).span
  rw [memberOf_offset (h.least p hp)] at hfits
  unfold ReadsOffset at hreads
  omega

/-- A point that may be merged leaves no hole wider than the gap. -/
theorem merged_packed {g : Group} {p : PollPoint} (h : Packed maxGap g)
    (happends : appendsToBatch maxGap g.batch p.ref = true) (hspan : modbusPointSpan p.ref ≠ 0)
    (hstart : g.batch.startAddress.toNat ≤ p.ref.address.toNat) :
    Packed maxGap ⟨mergedBatch g.batch p.ref, g.points ++ [p]⟩ := by
  simp only [appendsToBatch, Bool.and_eq_true, decide_eq_true_eq] at happends
  obtain ⟨⟨⟨⟨hport, hslave⟩, htable⟩, hnear⟩, hlimit⟩ := happends
  have hpos : (modbusPointSpan p.ref).toNat ≠ 0 := fun hz => hspan (UInt16.toNat_inj.mp hz)
  have hquantity := quantity_pos h
  have hmerged : (mergedBatch g.batch p.ref).quantity.toNat = mergedQuantity g.batch p.ref :=
    UInt16.toNat_ofNat_of_lt' (Nat.lt_of_le_of_lt hlimit (batchLimit_lt _))
  have heq := mergedQuantity_eq hquantity hspan hstart
  have hgrows : g.batch.quantity.toNat ≤ (mergedBatch g.batch p.ref).quantity.toNat := by omega
  have hoffset := memberOf_offset hstart
  constructor
  · simp [mergedBatch, h.count]
  · intro q hq
    obtain hq | hq := List.mem_append.mp hq
    · have hfits := h.fits q hq
      exact ⟨hfits.port, hfits.slave, hfits.table, hfits.address,
        Nat.le_trans hfits.span hgrows⟩
    · rw [List.mem_singleton.mp hq]
      refine ⟨hport, hslave, htable, ?_, ?_⟩
      · change g.batch.startAddress.toNat + (memberOf g.batch p).addressOffset.toNat = _
        omega
      · change (memberOf g.batch p).addressOffset.toNat + _ ≤
          (mergedBatch g.batch p.ref).quantity.toNat
        omega
  · intro q hq
    obtain hq | hq := List.mem_append.mp hq
    · exact h.least q hq
    · rw [List.mem_singleton.mp hq]
      exact hstart
  · intro _
    rw [hmerged]
    change _ ≤ batchLimit g.batch.table
    rw [htable]
    exact hlimit
  · by_cases hends : g.batch.quantity.toNat ≤
      p.ref.address.toNat - g.batch.startAddress.toNat + (modbusPointSpan p.ref).toNat
    · refine ⟨p, List.mem_append_right _ List.mem_cons_self, ?_⟩
      have hend : (mergedBatch g.batch p.ref).quantity.toNat =
          p.ref.address.toNat - g.batch.startAddress.toNat + (modbusPointSpan p.ref).toNat := by
        omega
      rw [hend]
      simp only [ReadsOffset, mergedBatch]
      omega
    · obtain ⟨q, hq, hreads⟩ := h.tail
      refine ⟨q, List.mem_append_left _ hq, ?_⟩
      have hsame : (mergedBatch g.batch p.ref).quantity.toNat = g.batch.quantity.toNat := by omega
      rw [hsame]
      exact hreads
  · intro o ho
    change o + maxGap.toNat < (mergedBatch g.batch p.ref).quantity.toNat at ho
    by_cases hinside : o + maxGap.toNat < g.batch.quantity.toNat
    · obtain ⟨q, hq, hreads⟩ := h.holes o hinside
      exact ⟨q, List.mem_append_left _ hq, hreads⟩
    -- the window lies past the old end; it meets the point, or the last old register
    by_cases hmeets : p.ref.address.toNat - g.batch.startAddress.toNat ≤ o + maxGap.toNat
    · refine ⟨p, List.mem_append_right _ List.mem_cons_self,
        max o (p.ref.address.toNat - g.batch.startAddress.toNat), by omega, by omega, ?_⟩
      simp only [ReadsOffset, mergedBatch]
      omega
    · obtain ⟨q, hq, hreads⟩ := h.tail
      exact ⟨q, List.mem_append_left _ hq, g.batch.quantity.toNat - 1, by omega, by omega, hreads⟩

/-- The last batch of a plan in the making starts before every point of its table to come. -/
def StartsBefore (groups : List Group) (rest : List PollPoint) : Prop :=
  ∀ g older, groups = g :: older → ∀ q ∈ rest, g.batch.portIndex = q.ref.portIndex →
    g.batch.slaveAddress = q.ref.slaveAddress → g.batch.table = q.ref.table →
      g.batch.startAddress.toNat ≤ q.ref.address.toNat

theorem groupMembers_length (groups : List Group) :
    (groupMembers groups).length = (groupPoints groups).length := by
  induction groups with
  | nil => rfl
  | cons g older ih => simp [groupMembers, groupPoints, ih]

variable {groups : List Group}

theorem groups_length (h : ∀ g ∈ groups, Packed maxGap g) :
    groups.length ≤ (groupPoints groups).length := by
  induction groups with
  | nil => exact Nat.le_refl 0
  | cons g older ih =>
    obtain ⟨p, hp, -⟩ := (h g List.mem_cons_self).tail
    have hone : 1 ≤ g.points.length := List.length_pos_of_mem hp
    have holder := ih fun g hg => h g (List.mem_cons_of_mem _ hg)
    simp only [groupPoints, List.length_cons, List.length_append]
    omega

section
variable {maxGap : UInt16} {plan : PollPlan} {groups : List Group} {p : PollPoint}
  {rest : List PollPoint}

/-- One more point joins the last group or opens one. -/
theorem addPoint_holds (h : Holds maxGap plan groups) (hbefore : StartsBefore groups (p :: rest))
    (hsorted : ∀ q ∈ rest, p.sameTable q → p.ref.address ≤ q.ref.address)
    (hspan : modbusPointSpan p.ref ≠ 0) (hroom : (groupPoints groups).length < kMaxPoints) :
    ∃ next groups', addPoint maxGap plan p = some next ∧ Holds maxGap next groups' ∧
      StartsBefore groups' rest ∧ groupPoints groups' = groupPoints groups ++ [p] := by
  have hopen : ∃ next groups', (if kMaxModbusPollBatches ≤ plan.batches.length ∨
        kMaxModbusBatchMembers ≤ plan.members.length then none
      else some (addMember (newBatch plan.members.length p.ref) plan.batches plan.members p)) =
        some next ∧ Holds maxGap next groups' ∧
      StartsBefore groups' rest ∧ groupPoints groups' = groupPoints groups ++ [p] := by
    have hnot : ¬(kMaxModbusPollBatches ≤ plan.batches.length ∨
        kMaxModbusBatchMembers ≤ plan.members.length) := by
      have hcount := groups_length h.packed
      rw [h.batches, h.members, List.length_map, groupMembers_length]
      simp only [kMaxModbusPollBatches, kMaxModbusBatchMembers]
      omega
    refine ⟨_, ⟨{ newBatch plan.members.length p.ref with memberCount := 1 }, [p]⟩ :: groups,
      if_neg hnot, ?_, ?_, rfl⟩
    · refine ⟨by simp [addMember, h.batches, newBatch],
        by simp [addMember, h.members, groupMembers, memberOf, newBatch],
        ⟨by simp [h.members, newBatch], h.numbered⟩, ?_⟩
      intro g hg
      obtain rfl | hg := List.mem_cons.mp hg
      · exact newBatch_packed maxGap _ hspan
      · exact h.packed g hg
    · intro g older hg q hq hport hslave htable
      obtain ⟨rfl, -⟩ := List.cons.inj hg
      exact UInt16.le_iff_toNat_le.mp (hsorted q hq ⟨hport, hslave, htable⟩)
  unfold addPoint
  dsimp only
  cases groups with
  | nil =>
    have hnone : plan.batches = [] := h.batches
    rw [hnone] at hopen ⊢
    exact hopen
  | cons g older =>
    have hbatches : plan.batches = g.batch :: older.map (·.batch) := h.batches
    rw [hbatches] at hopen ⊢
    dsimp only
    by_cases happends : appendsToBatch maxGap g.batch p.ref = true
    case neg =>
      rw [if_neg happends]
      exact hopen
    rw [if_pos happends]
    have hsame := happends
    simp only [appendsToBatch, Bool.and_eq_true, decide_eq_true_eq] at hsame
    obtain ⟨⟨⟨⟨hport, hslave⟩, htable⟩, -⟩, -⟩ := hsame
    have hstart := hbefore g older rfl p List.mem_cons_self hport hslave htable
    have hpacked := h.packed g List.mem_cons_self
    refine ⟨_, ⟨mergedBatch g.batch p.ref, g.points ++ [p]⟩ :: older, rfl, ?_, ?_, ?_⟩
    · refine ⟨rfl, ?_, ⟨h.numbered.1, h.numbered.2⟩, ?_⟩
      · have hmembers : plan.members =
            groupMembers older ++ g.points.map (memberOf g.batch) := h.members
        simp only [addMember, hmembers, groupMembers, List.map_append, List.append_assoc]
        rfl
      · intro k hk
        obtain rfl | hk := List.mem_cons.mp hk
        · exact merged_packed hpacked happends hspan hstart
        · exact h.packed k (List.mem_cons_of_mem _ hk)
    · intro k older' hk q hq
      obtain ⟨rfl, -⟩ := List.cons.inj hk
      exact hbefore g older rfl q (List.mem_cons_of_mem _ hq)
    · simp [groupPoints]

end

theorem addPoints_holds {rest : List PollPoint} {plan : PollPlan} (h : Holds maxGap plan groups)
    (hbefore : StartsBefore groups rest)
    (hsorted : rest.Pairwise fun p q => p.sameTable q → p.ref.address ≤ q.ref.address)
    (hroom : (groupPoints groups).length + rest.length ≤ kMaxPoints) :
    ∃ groups', Holds maxGap (addPoints maxGap plan rest) groups' ∧
      groupPoints groups' = groupPoints groups ++ rest.filter hasRegisters := by
  induction rest generalizing plan groups with
  | nil => exact ⟨groups, h, by simp⟩
  | cons p rest ih =>
    obtain ⟨hp, hrest⟩ := List.pairwise_cons.mp hsorted
    rw [List.length_cons] at hroom
    rw [addPoints]
    by_cases hspan : modbusPointSpan p.ref = 0
    · rw [if_pos hspan, List.filter_cons_of_neg (by simp [hasRegisters, hspan])]
      exact ih h (fun g older hg q hq => hbefore g older hg q (List.mem_cons_of_mem _ hq)) hrest
        (by omega)
    · obtain ⟨next, groups', hnext, hholds, hstarts, hpoints⟩ :=
        addPoint_holds h hbefore hp hspan (by omega)
      rw [if_neg hspan, hnext, List.filter_cons_of_pos (by simp [hasRegisters, hspan])]
      obtain ⟨final, hfinal, hall⟩ := ih hholds hstarts hrest
        (by rw [hpoints, List.length_append, List.length_singleton]; omega)
      exact ⟨final, hfinal, by rw [hall, hpoints, List.append_assoc]; rfl⟩

theorem members_at (h : Numbered groups)
    (hcount : ∀ g ∈ groups, g.batch.memberCount = g.points.length) {g : Group} (hg : g ∈ groups) :
    ((groupMembers groups).drop g.batch.memberStart).take g.batch.memberCount =
      g.points.map (memberOf g.batch) := by
  induction groups with
  | nil => cases hg
  | cons k older ih =>
    rw [groupMembers]
    obtain rfl | hg := List.mem_cons.mp hg
    · rw [h.1, List.drop_left, hcount g List.mem_cons_self, List.take_of_length_le]
      simp
    · have hinside := ih h.2 (fun j hj => hcount j (List.mem_cons_of_mem _ hj)) hg
      have hlength := congrArg List.length hinside
      rw [List.length_take, List.length_drop, List.length_map,
        ← hcount g (List.mem_cons_of_mem _ hg)] at hlength
      by_cases hstart : g.batch.memberStart ≤ (groupMembers older).length
      · rw [List.drop_append_of_le_length hstart, List.take_append_of_le_length, hinside]
        rw [List.length_drop]
        omega
      · have hnone : g.batch.memberCount = 0 := by omega
        rw [hnone, List.take_zero]
        rw [hnone, List.take_zero] at hinside
        exact hinside

theorem flatMap_members (groups : List Group) :
    groups.reverse.flatMap (fun g => g.points.map (memberOf g.batch)) = groupMembers groups := by
  induction groups with
  | nil => rfl
  | cons g older ih => simp [groupMembers, List.flatMap_append, ih]

theorem members_index (groups : List Group) :
    (groupMembers groups).map (·.catalogIndex) = (groupPoints groups).map (·.index) := by
  induction groups with
  | nil => rfl
  | cons g older ih =>
    simp only [groupMembers, groupPoints, List.map_append, ih, List.map_map]
    rfl

theorem insertPoint_perm (p : PollPoint) (sorted : List PollPoint) :
    (insertPoint p sorted).Perm (p :: sorted) := by
  induction sorted with
  | nil => exact List.Perm.refl _
  | cons q rest ih =>
    rw [insertPoint]
    split
    · exact (ih.cons q).trans (List.Perm.swap p q rest)
    · exact List.Perm.refl _

theorem foldl_insertPoint_perm (points sorted : List PollPoint) :
    (points.foldl (fun sorted p => insertPoint p sorted) sorted).Perm (points ++ sorted) := by
  induction points generalizing sorted with
  | nil => exact List.Perm.refl _
  | cons p points ih =>
    rw [List.foldl_cons]
    exact ((ih (insertPoint p sorted)).trans ((insertPoint_perm p sorted).append_left points)).trans
      List.perm_middle

theorem sortedPoints_perm (points : List PollPoint) : (sortedPoints points).Perm points := by
  have h := foldl_insertPoint_perm points []
  rw [List.append_nil] at h
  exact (List.reverse_perm _).trans h

theorem polledPoints_indices (definitions : List PointDefinition) :
    ((polledPoints definitions).map (·.index)).Nodup := by
  have hsub : ((definitions.zipIdx.filter fun p => isPolled p.1).map (·.2)).Sublist
      (definitions.zipIdx.map (·.2)) := List.filter_sublist.map _
  have hnodup : (definitions.zipIdx.map (·.2)).Nodup := by
    rw [List.zipIdx_map_snd]
    exact List.nodup_range'
  have h := hnodup.sublist hsub
  rw [polledPoints, List.map_map]
  exact h

theorem rebuilt_holds (maxGap : UInt16) {definitions : List PointDefinition}
    (h : definitions.length ≤ kMaxPoints) :
    ∃ groups, Holds maxGap (addPoints maxGap .empty (sortedPoints (polledPoints definitions)))
        groups ∧
      (groupPoints groups).Perm ((polledPoints definitions).filter hasRegisters) := by
  have hlength := length_polledPoints_le definitions
  have hempty : Holds maxGap .empty [] := ⟨rfl, rfl, trivial, fun g hg => by cases hg⟩
  have hroom : (groupPoints []).length + (sortedPoints (polledPoints definitions)).length ≤
      kMaxPoints := by
    rw [length_sortedPoints, groupPoints, List.length_nil]
    omega
  obtain ⟨groups, hholds, hpoints⟩ := addPoints_holds hempty (fun g older hg => by cases hg)
    (sortedPoints_sorted _) hroom
  refine ⟨groups, hholds, ?_⟩
  rw [hpoints]
  exact (sortedPoints_perm _).filter _

theorem points_sublist {g : Group} (hg : g ∈ groups) : g.points.Sublist (groupPoints groups) := by
  induction groups with
  | nil => cases hg
  | cons k older ih =>
    obtain rfl | hg := List.mem_cons.mp hg
    · exact List.sublist_append_right _ _
    · exact (ih hg).trans (List.sublist_append_left _ _)

/-- The plan of groups that hold the pollable points, each once. -/
structure GroupsOf (maxGap : UInt16) (definitions : List PointDefinition) (plan : PollPlan)
    (groups : List Group) : Prop where
  batches : plan.batches = groups.reverse.map (·.batch)
  members : ∀ g ∈ groups, plan.membersOf g.batch = g.points.map (memberOf g.batch)
  indices : (plan.batches.flatMap plan.membersOf).map (·.catalogIndex) =
    (groupPoints groups).map (·.index)
  points : (groupPoints groups).Perm ((polledPoints definitions).filter hasRegisters)
  packed : ∀ g ∈ groups, Packed maxGap g

theorem rebuilt_groups (maxGap : UInt16) {definitions : List PointDefinition}
    (h : definitions.length ≤ kMaxPoints) :
    ∃ groups, GroupsOf maxGap definitions (rebuildPollPlan maxGap definitions) groups := by
  obtain ⟨groups, hholds, hpoints⟩ := rebuilt_holds maxGap h
  have hmembers : ∀ g ∈ groups, (rebuildPollPlan maxGap definitions).membersOf g.batch =
      g.points.map (memberOf g.batch) := by
    intro g hg
    change ((addPoints _ _ _).members.drop _).take _ = _
    rw [hholds.members]
    exact members_at hholds.numbered (fun k hk => (hholds.packed k hk).count) hg
  have hbatches : (rebuildPollPlan maxGap definitions).batches = groups.reverse.map (·.batch) := by
    change (addPoints _ _ _).batches.reverse = _
    rw [hholds.batches, List.map_reverse]
  refine ⟨groups, hbatches, hmembers, ?_, hpoints, hholds.packed⟩
  rw [hbatches, List.flatMap_map, ← members_index, ← flatMap_members, List.flatMap_def,
    List.flatMap_def, List.map_congr_left fun g hg => hmembers g (List.mem_reverse.mp hg)]

section
variable {maxGap : UInt16} {definitions : List PointDefinition} {plan : PollPlan}
  {groups : List Group} (h : GroupsOf maxGap definitions plan groups)
include h

theorem batch_of_plan {b : ModbusPollBatch} (hb : b ∈ plan.batches) :
    ∃ g ∈ groups, g.batch = b := by
  rw [h.batches] at hb
  obtain ⟨g, hg, hgb⟩ := List.mem_map.mp hb
  exact ⟨g, List.mem_reverse.mp hg, hgb⟩

theorem point_of_group {g : Group} (hg : g ∈ groups) {p : PollPoint} (hp : p ∈ g.points) :
    ∃ d, definitions[p.index]? = some d ∧ Pollable d ∧
      p.ref = (modbusRef d).toModbusRegisters := by
  have hin : p ∈ groupPoints groups := (points_sublist hg).mem hp
  obtain ⟨hpolled, hspan⟩ := List.mem_filter.mp (h.points.mem_iff.mp hin)
  obtain ⟨d, hget, hpoll, href⟩ := mem_polledPoints.mp hpolled
  simp only [hasRegisters, href, decide_eq_true_eq] at hspan
  exact ⟨d, hget, ⟨hpoll, hspan⟩, href⟩

theorem groups_nodup {b : ModbusPollBatch} (hb : b ∈ plan.batches) :
    ((plan.membersOf b).map (·.catalogIndex)).Nodup := by
  obtain ⟨g, hg, rfl⟩ := batch_of_plan h hb
  have hnodup : ((groupPoints groups).map (·.index)).Nodup :=
    (h.points.map (·.index)).nodup_iff.mpr ((polledPoints_indices definitions).sublist
      ((List.filter_sublist (p := hasRegisters)).map (·.index)))
  rw [h.members g hg, List.map_map]
  exact hnodup.sublist ((points_sublist hg).map (·.index))

theorem groups_placed {i : Nat} {d : PointDefinition} (hget : definitions[i]? = some d)
    (hd : Pollable d) :
    ((plan.batches.flatMap plan.membersOf).map (·.catalogIndex)).count i = 1 := by
  rw [h.indices, (h.points.map _).count_eq]
  have hnodup := (polledPoints_indices definitions).sublist
    ((List.filter_sublist (p := hasRegisters)).map (·.index))
  have hin : (⟨i, (modbusRef d).toModbusRegisters⟩ : PollPoint) ∈
      (polledPoints definitions).filter hasRegisters := by
    refine List.mem_filter.mpr ⟨mem_polledPoints.mpr ⟨d, hget, hd.1, rfl⟩, ?_⟩
    simpa [hasRegisters] using hd.2
  rw [hnodup.count, if_pos (List.mem_map.mpr ⟨_, hin, rfl⟩)]

theorem groups_fits {b : ModbusPollBatch} (hb : b ∈ plan.batches) {m : ModbusPollBatchMember}
    (hm : m ∈ plan.membersOf b) :
    ∃ d, definitions[m.catalogIndex]? = some d ∧ Pollable d ∧
      Fits b m (modbusRef d).toModbusRegisters := by
  obtain ⟨g, hg, rfl⟩ := batch_of_plan h hb
  rw [h.members g hg] at hm
  obtain ⟨p, hp, rfl⟩ := List.mem_map.mp hm
  obtain ⟨d, hget, hd, href⟩ := point_of_group h hg hp
  refine ⟨d, hget, hd, ?_⟩
  rw [← href]
  exact (h.packed g hg).fits p hp

theorem groups_holes {b : ModbusPollBatch} (hb : b ∈ plan.batches) {o : Nat}
    (ho : o + maxGap.toNat < b.quantity.toNat) : Reads definitions plan b maxGap.toNat o := by
  obtain ⟨g, hg, rfl⟩ := batch_of_plan h hb
  obtain ⟨p, hp, x, hlow, hhigh, hreads⟩ := (h.packed g hg).holes o ho
  obtain ⟨d, hget, -, href⟩ := point_of_group h hg hp
  refine ⟨memberOf g.batch p, ?_, d, hget, x, hlow, hhigh, ?_⟩
  · rw [h.members g hg]
    exact List.mem_map_of_mem hp
  · rw [memberOf_offset ((h.packed g hg).least p hp), ← href]
    exact hreads

theorem groups_accepted (hlimit : ∀ d ∈ definitions, Pollable d →
      (modbusPointSpan (modbusRef d).toModbusRegisters).toNat ≤ batchLimit (modbusRef d).table)
    {b : ModbusPollBatch} (hb : b ∈ plan.batches) :
    1 ≤ b.quantity.toNat ∧ b.quantity.toNat ≤ batchLimit b.table := by
  obtain ⟨g, hg, rfl⟩ := batch_of_plan h hb
  refine ⟨quantity_pos (h.packed g hg), (h.packed g hg).limit fun p hp => ?_⟩
  obtain ⟨d, hget, hd, href⟩ := point_of_group h hg hp
  rw [href]
  exact hlimit d (List.mem_of_getElem? hget) hd

end

theorem span_le_limit (r : ModbusRegisters) :
    (modbusPointSpan r).toNat ≤ batchLimit r.table ↔
      modbusTableIsBitwise r.table = true ∨ r.registerCount.toNat ≤ kMaxModbusBatchRegisters := by
  rw [modbusPointSpan, batchLimit]
  by_cases hbits : modbusTableIsBitwise r.table = true
  · simp [hbits, kMaxModbusBatchBits]
  · simp [hbits]

/-- A rebuild makes a correct plan exactly when no pollable point asks for more registers than one
request of the master can read. -/
theorem rebuildPollPlan_correct_iff (maxGap : UInt16) (c : PointCatalog) (h : c.size ≤ kMaxPoints) :
    PlanCorrect maxGap c.definitions (rebuildPollPlan maxGap c.definitions) ↔
      ∀ d ∈ c.definitions, Pollable d → modbusTableIsBitwise (modbusRef d).table = true ∨
        (modbusRef d).registerCount.toNat ≤ kMaxModbusBatchRegisters := by
  have hsize : c.definitions.length ≤ kMaxPoints := by
    rw [PointCatalog.definitions, List.length_map]
    exact h
  obtain ⟨groups, hgroups⟩ := rebuilt_groups maxGap hsize
  constructor
  · intro hcorrect d hd hpoll
    obtain ⟨i, hget⟩ := List.mem_iff_getElem?.mp hd
    have hone := hcorrect.placed i d hget hpoll
    have hin : i ∈ ((rebuildPollPlan maxGap c.definitions).batches.flatMap
        (rebuildPollPlan maxGap c.definitions).membersOf).map (·.catalogIndex) :=
      List.count_pos_iff.mp (by omega)
    obtain ⟨m, hm, hmi⟩ := List.mem_map.mp hin
    obtain ⟨b, hb, hmb⟩ := List.mem_flatMap.mp hm
    obtain ⟨d', hget', -, hfits⟩ := hcorrect.fits b hb m hmb
    rw [hmi, hget, Option.some.injEq] at hget'
    subst hget'
    have hlimit := (hcorrect.accepted b hb).2
    have hspan := hfits.span
    rw [hfits.table] at hlimit
    exact (span_le_limit _).mp (by omega)
  · intro hlimit
    exact ⟨fun i d hget hd => groups_placed hgroups hget hd,
      fun b hb m hm => groups_fits hgroups hb hm,
      fun b hb => groups_accepted hgroups
        (fun d hd hpoll => (span_le_limit _).mpr (hlimit d hd hpoll)) hb,
      fun b hb o ho => groups_holes hgroups hb ho⟩

/-- A Modbus input of some registers. -/
def registerPoint (registerCount : UInt8) : PointDefinition :=
  ⟨⟨ascii "io", ascii "modbus", ascii "block"⟩, [], .Modbus, .Input, .String, 1000, 3000, 32,
    0x3F800000, [], 0, [0, 1, 0, 0, registerCount, 4, 1] ++ List.replicate 73 0⟩

def registerCatalog (registerCount : UInt8) : PointCatalog :=
  (PointCatalog.empty.upsert (registerPoint registerCount)).getD .empty

theorem registerCatalog_definitions :
    (registerCatalog 2).definitions = [registerPoint 2] ∧
      (registerCatalog 126).definitions = [registerPoint 126] := by decide

theorem registerCatalog_correct :
    PlanCorrect 4 (registerCatalog 2).definitions
      (rebuildPollPlan 4 (registerCatalog 2).definitions) := by
  refine (rebuildPollPlan_correct_iff 4 (registerCatalog 2) (by decide)).mpr fun d hd _ => ?_
  rw [registerCatalog_definitions.1, List.mem_singleton] at hd
  subst hd
  exact .inr (by decide)

/-- The batch asks for 126 registers at once. -/
theorem registerCatalog_not_correct :
    ¬PlanCorrect 0 (registerCatalog 126).definitions
      (rebuildPollPlan 0 (registerCatalog 126).definitions) := by
  intro h
  rw [registerCatalog_definitions.2] at h
  have haccepted := h.accepted ⟨0, 1, .InputRegisters, 0, 126, 0, 1⟩ (by decide)
  exact absurd haccepted.2 (by decide)

end NodeNet.Plc

import NodeNet.Plc.PlanFresh
import NodeNet.Plc.PollExact

/-! A batch that ends changes the states of its own points, each by the words at its address. -/
namespace NodeNet.Plc
open NodeNet.Points NodeNet.Catalog NodeNet.Machine

/-- The definition is of the point that the batch reads at the member's offset. -/
structure ReadAt (b : ModbusPollBatch) (m : ModbusPollBatchMember) (d : PointDefinition) :
    Prop where
  backend : d.backend = .Modbus
  port : (modbusRef d).portIndex = b.portIndex
  slave : (modbusRef d).slaveAddress = b.slaveAddress
  table : (modbusRef d).table = b.table
  address : (modbusRef d).address.toNat = b.startAddress.toNat + m.addressOffset.toNat

theorem memberMatches_iff {b : ModbusPollBatch} {m : ModbusPollBatchMember}
    {d : PointDefinition} : memberMatches b m d = true ↔ ReadAt b m d := by
  have haddress : (b.startAddress ≤ (modbusRef d).address ∧
      (modbusRef d).address - b.startAddress = m.addressOffset) ↔
      (modbusRef d).address.toNat = b.startAddress.toNat + m.addressOffset.toNat := by
    rw [UInt16.le_iff_toNat_le]
    constructor
    · intro h
      obtain ⟨hle, hoffset⟩ := h
      have hsub := UInt16.toNat_sub_of_le _ _ (UInt16.le_iff_toNat_le.mpr hle)
      rw [hoffset] at hsub
      omega
    · intro h
      have hle : b.startAddress.toNat ≤ (modbusRef d).address.toNat := by omega
      refine ⟨hle, UInt16.toNat_inj.mp ?_⟩
      rw [UInt16.toNat_sub_of_le _ _ (UInt16.le_iff_toNat_le.mpr hle)]
      omega
  simp only [memberMatches, Bool.and_eq_true, decide_eq_true_eq]
  constructor
  · intro h
    obtain ⟨⟨⟨⟨⟨hbackend, hport⟩, hslave⟩, htable⟩, hle⟩, hoffset⟩ := h
    exact ⟨hbackend, hport, hslave, htable, haddress.mp ⟨hle, hoffset⟩⟩
  · intro h
    obtain ⟨hle, hoffset⟩ := haddress.mpr h.address
    exact ⟨⟨⟨⟨⟨h.backend, h.port⟩, h.slave⟩, h.table⟩, hle⟩, hoffset⟩

/-- The bits that the type is decoded from, of the registers that are available. -/
def registerBitsAt (d : PointDefinition) (regs : Nat → UInt16) (available : UInt16) :
    Option UInt32 :=
  if d.valueType = .String ∨ available = 0 then none
  else
    let wide := ((regs 0).toUInt32 <<< 16) ||| (regs 1).toUInt32
    match d.valueType with
    | .Bool | .Uint16 | .Int16 | .Enum => some (regs 0).toUInt32
    | .Uint32 | .Int32 =>
      if (modbusRef d).registerCount < 2 ∨ available < 2 then none else some wide
    | .Float =>
      if 2 ≤ (modbusRef d).registerCount then if available < 2 then none else some wide
      else some (regs 0).toUInt32
    | _ => none

def registersRead (d : PointDefinition) (available : UInt16) : Nat :=
  if d.valueType = .String ∨ available = 0 then 0
  else
    match d.valueType with
    | .Bool | .Uint16 | .Int16 | .Enum => 1
    | .Uint32 | .Int32 => if (modbusRef d).registerCount < 2 ∨ available < 2 then 0 else 2
    | .Float =>
      if 2 ≤ (modbusRef d).registerCount then if available < 2 then 0 else 2
      else 1
    | _ => 0

theorem registersRead_le (d : PointDefinition) (available : UInt16) :
    registersRead d available ≤ available.toNat := by
  rw [registersRead]
  split
  case isTrue h => exact Nat.zero_le _
  case isFalse h =>
    have hsome : available.toNat ≠ 0 := fun hzero => h (.inr (UInt16.toNat_inj.mp hzero))
    have htwo : ¬available < 2 → 2 ≤ available.toNat := fun hlt =>
      UInt16.le_iff_toNat_le.mp (UInt16.not_lt.mp hlt)
    have hwide : ∀ few : Prop, [Decidable few] → (¬few → ¬available < 2) →
        (if few then 0 else 2) ≤ available.toNat := by
      intro few _ hfew
      split
      · exact Nat.zero_le _
      · exact htwo (hfew ‹_›)
    cases d.valueType <;> dsimp only
    case Bool | Uint16 | Int16 | Enum => omega
    case Uint32 | Int32 => exact hwide _ fun h hlt => h (.inr hlt)
    case Float =>
      split
      · exact hwide _ id
      · omega
    all_goals exact Nat.zero_le _

section
variable (scaled : PointDefinition → UInt32 → UInt32)

def decodeRegisterState (d : PointDefinition) (regs : Nat → UInt16) (available : UInt16)
    (state : PointState) : PointState × Bool :=
  decodeState d ((registerBitsAt d regs available).map (registerValue scaled d)) state

/-- How a batch ends: its words are there, they cannot be read, or its transaction failed. -/
inductive BatchEnd where
  | read (regs : Nat → UInt16)
  | unread (error : UInt8)
  | failed (error : UInt8)

/-- The state of a point of the batch after that, by the words at the point's own address. -/
def endState (b : ModbusPollBatch) (nowMs : UInt32) (d : PointDefinition) (state : PointState) :
    BatchEnd → PointState
  | .read regs =>
    let own := (modbusRef d).address - b.startAddress
    let (next, ok) :=
      if modbusTableIsBitwise b.table then decodeBitState (regs own.toNat) state
      else decodeRegisterState scaled d (fun k => regs (own.toNat + k)) (b.quantity - own) state
    { next with
      lastUpdateMs := nowMs
      lastGoodUpdateMs := if ok then nowMs else next.lastGoodUpdateMs }
  | .unread error | .failed error => { state with quality := error, lastUpdateMs := nowMs }

def endedBatch (p : PlcState) (i : LoopIn) (b : ModbusPollBatch) : BatchEnd → PointCatalog
  | .read regs =>
    completeActiveBatch scaled p { i with values := some ((List.range b.quantity.toNat).map regs) }
  | .unread error => completeActiveBatch scaled p { i with values := none, error := error }
  | .failed error => failActiveBatch p i.nowMs error

/-- How many words of the response a point takes. -/
def wordsTaken (b : ModbusPollBatch) (d : PointDefinition) (own : UInt16) : Nat :=
  if modbusTableIsBitwise b.table then 1 else registersRead d (b.quantity - own)

/-- The end of a batch reached the points that it read, each by its own words, and no others. -/
structure ResultsRight (b : ModbusPollBatch) (members : List ModbusPollBatchMember)
    (nowMs : UInt32) (result : BatchEnd) (c c' : PointCatalog) : Prop where
  reached : ∀ m ∈ members, ∀ e, c.entries[m.catalogIndex]? = some e → ReadAt b m e.definition →
    c'.entries[m.catalogIndex]? =
      some { e with state := endState scaled b nowMs e.definition e.state result }
  inside : ∀ m ∈ members, ∀ e, c.entries[m.catalogIndex]? = some e → ReadAt b m e.definition →
    m.addressOffset.toNat + wordsTaken b e.definition m.addressOffset ≤ b.quantity.toNat
  others : ∀ k : Nat, (∀ m ∈ members, m.catalogIndex = k → ∀ e, c.entries[k]? = some e →
    ¬ReadAt b m e.definition) → c'.entries[k]? = c.entries[k]?

end

theorem hasIdentityAt_congr {entries entries' : List Entry}
    (h : entries'.map (·.definition) = entries.map (·.definition)) :
    hasIdentityAt entries' = hasIdentityAt entries := by
  funext id i
  have hget := congrArg (fun ds => ds[i]?) h
  simp only [List.getElem?_map] at hget
  rw [hasIdentityAt, hasIdentityAt]
  cases he : entries[i]? with
  | none =>
    rw [he, Option.map_none, Option.map_eq_none_iff] at hget
    rw [hget]
  | some e =>
    rw [he, Option.map_some, Option.map_eq_some_iff] at hget
    obtain ⟨e', he', hsame⟩ := hget
    rw [he']
    dsimp only
    rw [hsame]

variable {c : PointCatalog}

theorem lookupIndex_congr {c' : PointCatalog} (hdefinitions : c'.definitions = c.definitions)
    (hslots : c'.indexSlots = c.indexSlots) (id : PointIdentity) :
    c'.lookupIndex id = c.lookupIndex id := by
  have hfrom : ∀ probes slot, lookupFrom c'.entries c'.indexSlots id probes slot =
      lookupFrom c.entries c.indexSlots id probes slot := by
    intro probes
    induction probes with
    | zero => exact fun _ => rfl
    | succ probes ih =>
      intro slot
      rw [lookupFrom, lookupFrom, hslots, hasIdentityAt_congr hdefinitions]
      cases c.indexSlots slot with
      | none => rfl
      | some i =>
        dsimp only
        rw [← hslots, ih, hslots]
  have hempty : c'.entries = [] ↔ c.entries = [] := by
    have hlength := congrArg List.length hdefinitions
    simp only [PointCatalog.definitions, List.length_map] at hlength
    rw [← List.length_eq_zero_iff, ← List.length_eq_zero_iff, hlength]
  rw [PointCatalog.lookupIndex, PointCatalog.lookupIndex, hfrom]
  by_cases h : c.entries = []
  · rw [if_pos h, if_pos (hempty.mpr h)]
  · rw [if_neg h, if_neg (mt hempty.mp h)]

theorem markStateDirty_entries (c : PointCatalog) (index : Nat) :
    (c.markStateDirty index).entries = c.entries ∧
      (c.markStateDirty index).indexSlots = c.indexSlots := by
  unfold PointCatalog.markStateDirty
  dsimp only
  repeat' split
  all_goals exact ⟨rfl, rfl⟩

theorem updateState_of_lookup {id : PointIdentity} {j : Nat} (h : c.lookupIndex id = some j)
    (state : PointState) : ((c.updateState id state).getD c).entries =
        c.entries.modify j (fun e => { e with state := state }) ∧
      ((c.updateState id state).getD c).indexSlots = c.indexSlots := by
  obtain ⟨e, he, -⟩ := findIndex_spec h
  rw [PointCatalog.updateState, h]
  dsimp only
  rw [he]
  dsimp only
  split
  · exact ⟨rfl, rfl⟩
  · exact markStateDirty_entries _ j

theorem updateState_of_no_lookup {id : PointIdentity} (h : c.lookupIndex id = none)
    (state : PointState) : (c.updateState id state).getD c = c := by
  rw [PointCatalog.updateState, h]
  rfl

theorem updateState_indexSlots (c : PointCatalog) (id : PointIdentity) (state : PointState) :
    ((c.updateState id state).getD c).indexSlots = c.indexSlots := by
  cases h : c.lookupIndex id with
  | none => rw [updateState_of_no_lookup h]
  | some j => exact (updateState_of_lookup h state).2

theorem updateState_other {id : PointIdentity} {k : Nat} (h : c.lookupIndex id ≠ some k)
    (state : PointState) : ((c.updateState id state).getD c).entries[k]? = c.entries[k]? := by
  cases hlookup : c.lookupIndex id with
  | none => rw [updateState_of_no_lookup hlookup]
  | some j =>
    rw [(updateState_of_lookup hlookup state).1, List.getElem?_modify]
    have hne : j ≠ k := fun hjk => h (hjk ▸ hlookup)
    simp [hne]

section
variable {b : ModbusPollBatch}
  {result : ModbusPollBatchMember → PointDefinition → PointState → PointState}

theorem updateMembers_other {members : List ModbusPollBatchMember} {c : PointCatalog} {k : Nat}
    (h : ∀ m ∈ members, ∀ d, c.definitions[m.catalogIndex]? = some d →
      memberMatches b m d = true → c.lookupIndex d.id ≠ some k) :
    (updateMembers b result members c).entries[k]? = c.entries[k]? := by
  induction members generalizing c with
  | nil => rfl
  | cons m members ih =>
    have hrest := fun m' hm' => h m' (List.mem_cons_of_mem m hm')
    rw [updateMembers]
    cases he : c.entries[m.catalogIndex]? with
    | none => exact ih hrest
    | some e =>
      dsimp only
      by_cases hmatches : memberMatches b m e.definition = true
      case neg =>
        rw [if_neg hmatches]
        exact ih hrest
      have hd : c.definitions[m.catalogIndex]? = some e.definition := by
        simp [PointCatalog.definitions, he]
      have hne := h m List.mem_cons_self e.definition hd hmatches
      rw [if_pos hmatches, ih, updateState_other hne]
      intro m' hm' d hd' hmatches'
      rw [updateState_getD_definitions] at hd'
      rw [lookupIndex_congr (updateState_getD_definitions ..) (updateState_indexSlots ..)]
      exact hrest m' hm' d hd' hmatches'

/-- Where each matching member's identity leads to its own entry, each gets its own result. -/
theorem updateMembers_reached {members : List ModbusPollBatchMember} {c : PointCatalog}
    (hnodup : (members.map (·.catalogIndex)).Nodup)
    (hown : ∀ m ∈ members, ∀ d, c.definitions[m.catalogIndex]? = some d →
      memberMatches b m d = true → c.lookupIndex d.id = some m.catalogIndex)
    {m : ModbusPollBatchMember} (hm : m ∈ members) {e : Entry}
    (he : c.entries[m.catalogIndex]? = some e) (hmatches : memberMatches b m e.definition = true) :
    (updateMembers b result members c).entries[m.catalogIndex]? =
      some { e with state := result m e.definition e.state } := by
  induction members generalizing c with
  | nil => cases hm
  | cons m' members ih =>
    obtain ⟨hfresh, hnodup⟩ := List.nodup_cons.mp hnodup
    have hrest := fun n hn => hown n (List.mem_cons_of_mem m' hn)
    rw [updateMembers]
    obtain rfl | hm := List.mem_cons.mp hm
    · have hd : c.definitions[m.catalogIndex]? = some e.definition := by
        simp [PointCatalog.definitions, he]
      have hlookup := hown m List.mem_cons_self e.definition hd hmatches
      rw [he]
      dsimp only
      rw [if_pos hmatches, updateMembers_other, (updateState_of_lookup hlookup _).1,
        List.getElem?_modify_eq, he]
      · rfl
      · intro n hn d hd' hmatches' hsame
        rw [updateState_getD_definitions] at hd'
        rw [lookupIndex_congr (updateState_getD_definitions ..) (updateState_indexSlots ..),
          hrest n hn d hd' hmatches', Option.some.injEq] at hsame
        exact hfresh (List.mem_map.mpr ⟨n, hn, hsame⟩)
    · cases he' : c.entries[m'.catalogIndex]? with
      | none => exact ih hnodup hrest hm he
      | some e' =>
        dsimp only
        by_cases hmatches' : memberMatches b m' e'.definition = true
        case neg =>
          rw [if_neg hmatches']
          exact ih hnodup hrest hm he
        have hd : c.definitions[m'.catalogIndex]? = some e'.definition := by
          simp [PointCatalog.definitions, he']
        have hlookup := hown m' List.mem_cons_self e'.definition hd hmatches'
        have hne : c.lookupIndex e'.definition.id ≠ some m.catalogIndex := by
          rw [hlookup, ne_eq, Option.some.injEq]
          exact fun hsame => hfresh (List.mem_map.mpr ⟨m, hm, hsame.symm⟩)
        rw [if_pos hmatches']
        refine ih hnodup (fun n hn d hd' hmatches'' => ?_) hm ?_
        · rw [updateState_getD_definitions] at hd'
          rw [lookupIndex_congr (updateState_getD_definitions ..) (updateState_indexSlots ..)]
          exact hrest n hn d hd' hmatches''
        · rw [updateState_other hne]
          exact he

end

theorem drop_range_map (regs : Nat → UInt16) (quantity own : Nat) :
    (((List.range quantity).map regs).take quantity).drop own =
      (List.range (quantity - own)).map fun k => regs (own + k) := by
  refine List.ext_getElem? fun k => ?_
  rw [List.getElem?_drop, List.take_of_length_le (by simp), List.getElem?_map, List.getElem?_map]
  by_cases hk : own + k < quantity
  · rw [List.getElem?_range hk, List.getElem?_range (by omega)]
    rfl
  · rw [List.getElem?_eq_none (by simp; omega), List.getElem?_eq_none (by simp; omega)]
    rfl

theorem registerBits_eq (d : PointDefinition) (regs : Nat → UInt16) {available : UInt16}
    (h : 0 < available.toNat) :
    registerBits d ((List.range available.toNat).map regs) = registerBitsAt d regs available := by
  have hsome : available ≠ 0 := fun hzero => by
    rw [hzero] at h
    cases h
  have hone : available.toNat = available.toNat - 1 + 1 := by omega
  have hwords : (List.range available.toNat).map regs =
      regs 0 :: (List.range (available.toNat - 1)).map fun k => regs (k + 1) := by
    rw [hone, List.range_succ_eq_map, List.map_cons, List.map_map]
    rfl
  have hlow : ((List.range (available.toNat - 1)).map fun k => regs (k + 1)).head? =
      if available < 2 then none else some (regs 1) := by
    by_cases hfew : available < 2
    · have hfew' := UInt16.lt_iff_toNat_lt.mp hfew
      rw [if_pos hfew, show available.toNat - 1 = 0 by
        rw [show (2 : UInt16).toNat = 2 from rfl] at hfew'; omega]
      rfl
    · have hmany := UInt16.le_iff_toNat_le.mp (UInt16.not_lt.mp hfew)
      rw [show (2 : UInt16).toNat = 2 from rfl] at hmany
      rw [if_neg hfew, show available.toNat - 1 = available.toNat - 2 + 1 by omega,
        List.range_succ_eq_map]
      rfl
  rw [registerBits.eq_def, registerBitsAt, hwords]
  dsimp only
  rw [hlow]
  have hcount := UInt8.not_lt (a := (modbusRef d).registerCount) (b := 2)
  cases htype : d.valueType <;> by_cases hfew : available < 2 <;>
    by_cases hwide : (modbusRef d).registerCount < 2 <;> simp [hsome, hfew, hwide, ← hcount]

section
variable (scaled : PointDefinition → UInt32 → UInt32)

theorem memberResult_eq {b : ModbusPollBatch} {m : ModbusPollBatchMember} {d : PointDefinition}
    (hd : ReadAt b m d) (hin : m.addressOffset.toNat < b.quantity.toNat) (i : LoopIn)
    (regs : Nat → UInt16) (state : PointState) :
    memberResult scaled b { i with values := some ((List.range b.quantity.toNat).map regs) } m d
      state = endState scaled b i.nowMs d state (.read regs) := by
  have hown : (modbusRef d).address - b.startAddress = m.addressOffset := by
    refine UInt16.toNat_inj.mp ?_
    have haddress := hd.address
    rw [UInt16.toNat_sub_of_le _ _ (UInt16.le_iff_toNat_le.mpr (by omega))]
    omega
  have hleft : (b.quantity - m.addressOffset).toNat = b.quantity.toNat - m.addressOffset.toNat :=
    UInt16.toNat_sub_of_le _ _ (UInt16.le_iff_toNat_le.mpr (by omega))
  have hwords := drop_range_map regs b.quantity.toNat m.addressOffset.toNat
  have hfirst : (List.range (b.quantity.toNat - m.addressOffset.toNat)).map
      (fun k => regs (m.addressOffset.toNat + k)) = regs m.addressOffset.toNat ::
        (List.range (b.quantity.toNat - m.addressOffset.toNat - 1)).map
          fun k => regs (m.addressOffset.toNat + (k + 1)) := by
    rw [show b.quantity.toNat - m.addressOffset.toNat =
        b.quantity.toNat - m.addressOffset.toNat - 1 + 1 by omega, List.range_succ_eq_map,
      List.map_cons, List.map_map]
    rfl
  rw [memberResult, endState]
  dsimp only
  rw [decodeMember, hown, hwords]
  by_cases hbits : modbusTableIsBitwise b.table = true
  · rw [if_pos hbits, if_pos hbits, hfirst]
  · rw [if_neg hbits, if_neg hbits, decodeRegisterState, ← registerBits_eq _ _ (by omega), hleft]

end

/-- The batch is in flight, and the plan is one that was built from some catalog. -/
structure InFlight (p : PlcState) (b : ModbusPollBatch) : Prop where
  active : p.core.activeBatch = some b
  master : p.core.modbus0 = true
  planned : ∃ (maxGap : UInt16) (built : List PointDefinition), built.length ≤ kMaxPoints ∧
    p.core.plan = rebuildPollPlan maxGap built ∧ b ∈ p.core.plan.batches

section
variable {p : PlcState} {b : ModbusPollBatch}

theorem InFlight.nodup (h : InFlight p b) :
    ((p.core.plan.membersOf b).map (·.catalogIndex)).Nodup := by
  obtain ⟨maxGap, built, hsize, hplan, hb⟩ := h.planned
  rw [hplan] at hb ⊢
  obtain ⟨groups, hgroups⟩ := rebuilt_groups maxGap hsize
  exact groups_nodup hgroups hb

theorem InFlight.inside (h : InFlight p b) {m : ModbusPollBatchMember}
    (hm : m ∈ p.core.plan.membersOf b) : m.addressOffset.toNat < b.quantity.toNat := by
  obtain ⟨maxGap, built, hsize, hplan, hb⟩ := h.planned
  rw [hplan] at hb hm
  obtain ⟨groups, hgroups⟩ := rebuilt_groups maxGap hsize
  obtain ⟨d, -, hd, hfits⟩ := groups_fits hgroups hb hm
  have hpos : (modbusPointSpan (modbusRef d).toModbusRegisters).toNat ≠ 0 :=
    fun hzero => hd.2 (UInt16.toNat_inj.mp hzero)
  have hspan := hfits.span
  omega

variable (scaled : PointDefinition → UInt32 → UInt32)

theorem wordsTaken_le (h : InFlight p b) {m : ModbusPollBatchMember}
    (hm : m ∈ p.core.plan.membersOf b) (d : PointDefinition) :
    m.addressOffset.toNat + wordsTaken b d m.addressOffset ≤ b.quantity.toNat := by
  have hin := h.inside hm
  rw [wordsTaken]
  split
  · omega
  · have hread := registersRead_le d (b.quantity - m.addressOffset)
    rw [UInt16.toNat_sub_of_le _ _ (UInt16.le_iff_toNat_le.mpr (by omega))] at hread
    omega

/-- How the members of the batch in flight are updated when it ends. -/
def endResult (b : ModbusPollBatch) (i : LoopIn) :
    BatchEnd → ModbusPollBatchMember → PointDefinition → PointState → PointState
  | .read regs =>
    memberResult scaled b { i with values := some ((List.range b.quantity.toNat).map regs) }
  | .unread error => memberResult scaled b { i with values := none, error := error }
  | .failed error => fun _ _ state => { state with quality := error, lastUpdateMs := i.nowMs }

theorem endedBatch_eq (h : InFlight p b) (i : LoopIn) (result : BatchEnd) :
    endedBatch scaled p i b result =
      updateMembers b (endResult scaled b i result) (p.core.plan.membersOf b) p.catalog := by
  cases result <;>
    simp only [endedBatch, completeActiveBatch, failActiveBatch, h.active, h.master, if_true] <;>
    rfl

theorem endResult_eq (h : InFlight p b) (i : LoopIn) (result : BatchEnd)
    {m : ModbusPollBatchMember} (hm : m ∈ p.core.plan.membersOf b) {d : PointDefinition}
    (hd : ReadAt b m d) (state : PointState) :
    endResult scaled b i result m d state = endState scaled b i.nowMs d state result := by
  cases result with
  | read regs => exact memberResult_eq scaled hd (h.inside hm) i regs state
  | unread error => rfl
  | failed error => rfl

/-- However the batch ends, the results reach the right points, exactly when the identity index
leads from each of these points to the point itself. -/
theorem batch_results_right_iff (h : InFlight p b) :
    (∀ (i : LoopIn) (result : BatchEnd),
      ResultsRight scaled b (p.core.plan.membersOf b) i.nowMs result p.catalog
        (endedBatch scaled p i b result)) ↔
      ∀ m ∈ p.core.plan.membersOf b, ∀ e, p.catalog.entries[m.catalogIndex]? = some e →
        ReadAt b m e.definition → p.catalog.lookupIndex e.definition.id = some m.catalogIndex := by
  have hentry : ∀ (k : Nat) d, p.catalog.definitions[k]? = some d →
      ∃ e, p.catalog.entries[k]? = some e ∧ e.definition = d := by
    intro k d hd
    rw [PointCatalog.definitions, List.getElem?_map, Option.map_eq_some_iff] at hd
    exact hd
  constructor
  · intro hright m hm e he hread
    refine Decidable.byContradiction fun hnot => ?_
    have hresult := (hright ⟨e.state.lastUpdateMs + 1, false, false, .Error, none, 0⟩
      (.failed 0)).reached m hm e he hread
    have hkept : (endedBatch scaled p ⟨e.state.lastUpdateMs + 1, false, false, .Error, none, 0⟩ b
        (.failed 0)).entries[m.catalogIndex]? = p.catalog.entries[m.catalogIndex]? := by
      rw [endedBatch_eq scaled h]
      refine updateMembers_other fun n hn d hd _ hlookup => hnot ?_
      obtain ⟨e', he', hid⟩ := findIndex_spec hlookup
      rw [he, Option.some.injEq] at he'
      rw [he', hid]
      exact hlookup
    rw [hkept, he, Option.some.injEq] at hresult
    have htime := congrArg (fun e : Entry => e.state.lastUpdateMs) hresult
    change e.state.lastUpdateMs = e.state.lastUpdateMs + 1 at htime
    grind
  · intro hown i result
    have hlookup : ∀ m ∈ p.core.plan.membersOf b, ∀ d,
        p.catalog.definitions[m.catalogIndex]? = some d → memberMatches b m d = true →
          p.catalog.lookupIndex d.id = some m.catalogIndex := by
      intro m hm d hd hmatches
      obtain ⟨e, he, rfl⟩ := hentry _ d hd
      exact hown m hm e he (memberMatches_iff.mp hmatches)
    rw [endedBatch_eq scaled h]
    refine ⟨fun m hm e he hread => ?_, fun m hm e _ _ => wordsTaken_le h hm e.definition,
      fun k hk => updateMembers_other fun m hm d hd hmatches hsame => ?_⟩
    · rw [updateMembers_reached h.nodup hlookup hm he (memberMatches_iff.mpr hread),
        endResult_eq scaled h i result hm hread]
    · obtain ⟨e, he, rfl⟩ := hentry _ d hd
      rw [hlookup m hm e.definition hd hmatches, Option.some.injEq] at hsame
      subst hsame
      exact hk m hm rfl e he (memberMatches_iff.mp hmatches)

end

/-- What holds between the steps of a run. -/
structure Planned (p : PlcState) : Prop where
  size : p.catalog.size ≤ kMaxPoints
  built : ∃ (maxGap : UInt16) (built : List PointDefinition), built.length ≤ kMaxPoints ∧
    p.core.plan = rebuildPollPlan maxGap built
  active : ∀ b, p.core.activeBatch = some b → p.core.modbus0 = true ∧ b ∈ p.core.plan.batches

theorem Planned.inFlight {p : PlcState} (h : Planned p) {b : ModbusPollBatch}
    (hb : p.core.activeBatch = some b) : InFlight p b := by
  obtain ⟨maxGap, built, hsize, hplan⟩ := h.built
  exact ⟨hb, (h.active b hb).1, maxGap, built, hsize, hplan, (h.active b hb).2⟩

theorem startBatchPoll_master {modbus0 : Bool} {b : ModbusPollBatch} {startOk : Bool}
    (h : startBatchPoll modbus0 b startOk = true) : modbus0 = true := by
  simp only [startBatchPoll, Bool.and_eq_true] at h
  exact h.1.1.1

section
variable (scaled : PointDefinition → UInt32 → UInt32)

theorem pollNextPoint_active (p : PlcState) (i : LoopIn) :
    (pollNextPoint scaled p i).core.modbus0 = p.core.modbus0 ∧
      ∀ b, (pollNextPoint scaled p i).core.activeBatch = some b → p.core.activeBatch = some b ∨
        p.core.modbus0 = true ∧ b ∈ p.core.plan.batches := by
  rw [pollNextPoint]
  split
  · exact ⟨rfl, fun b hb => .inl hb⟩
  split
  · split
    · exact ⟨rfl, fun b hb => .inl hb⟩
    all_goals exact ⟨rfl, fun b hb => by cases hb⟩
  · dsimp only
    generalize hselected : (selectBatch p i.nowMs p.core.plan.batches.length p.core.nextBatchIndex
      none).2.bind (fun s => (p.core.plan.batches[s.1]?).map fun b => (s.1, b)) = selected
    cases selected with
    | none => exact ⟨rfl, fun b hb => .inl hb⟩
    | some chosen =>
      obtain ⟨s, _, hs⟩ := Option.bind_eq_some_iff.mp hselected
      obtain ⟨b, hb, hchosen⟩ := Option.map_eq_some_iff.mp hs
      rw [← hchosen]
      dsimp only
      split
      · rename_i hstarted
        refine ⟨rfl, fun b' hb' => .inr ⟨startBatchPoll_master hstarted, ?_⟩⟩
        rw [← Option.some.inj hb']
        exact List.mem_of_getElem? hb
      · exact ⟨rfl, fun b' hb' => .inl hb'⟩

theorem rebuilt_planned {p : PlcState} (h : Planned p) (hidle : p.core.activeBatch = none) :
    Planned (rebuildPollPlanIfNeeded p) := by
  rw [rebuildPollPlanIfNeeded]
  dsimp only
  split
  · exact h
  · refine ⟨h.size, ⟨p.core.maxGap, p.catalog.definitions, ?_, rfl⟩, fun b hb => ?_⟩
    · rw [PointCatalog.definitions, List.length_map]
      exact h.size
    · change p.core.activeBatch = some b at hb
      rw [hidle] at hb
      cases hb

theorem applied_planned {p : PlcState} (h : Planned p) (i : LoopIn) :
    Planned (applyNextWritablePointState p i).1 := by
  obtain ⟨hdefinitions, next, hcore⟩ := applyNextWritablePointState_frame p i
  refine ⟨?_, ?_, ?_⟩
  · rw [size_eq_of_definitions hdefinitions]
    exact h.size
  · rw [hcore]
    exact h.built
  · rw [hcore]
    exact h.active

theorem polled_planned {p : PlcState} (h : Planned p) (i : LoopIn) :
    Planned (pollNextPoint scaled p i) := by
  obtain ⟨hdefinitions, hplan, -⟩ := pollNextPoint_frame scaled p i
  obtain ⟨hmaster, hactive⟩ := pollNextPoint_active scaled p i
  refine ⟨?_, ?_, fun b hb => ?_⟩
  · rw [size_eq_of_definitions hdefinitions]
    exact h.size
  · rw [hplan]
    exact h.built
  · rw [hmaster, hplan]
    exact (hactive b hb).elim (h.active b) id

theorem planned_step {p : PlcState} (h : Planned p) (event : PlcEvent) :
    Planned (p.next scaled event) := by
  cases event with
  | edit e => exact ⟨edited_size h.size e, h.built, h.active⟩
  | store index state => exact ⟨stored_size h.size index state, h.built, h.active⟩
  | setModbusBatchMaxGap maxGap => exact ⟨h.size, h.built, h.active⟩
  | loop i =>
    change Planned (p.loop scaled i)
    rw [PlcState.loop]
    split
    · rename_i hidle
      have happlied := applied_planned (rebuilt_planned h hidle) i
      dsimp only
      split
      · exact happlied
      · exact polled_planned scaled happlied i
    · exact polled_planned scaled h i

theorem inFlight_of_run {c : PointCatalog} (hsize : c.size ≤ kMaxPoints) (modbus0 : Bool)
    (events : List PlcEvent) {b : ModbusPollBatch}
    (hb : (run (PlcState.next scaled) ⟨c, .start modbus0⟩ events).core.activeBatch = some b) :
    InFlight (run (PlcState.next scaled) ⟨c, .start modbus0⟩ events) b := by
  have hstart : Planned ⟨c, .start modbus0⟩ :=
    ⟨hsize, ⟨0, [], Nat.zero_le _, rfl⟩, fun b hb => by cases hb⟩
  have hstep : ∀ p event, Planned p → True → Planned (PlcState.next scaled p event) :=
    fun p event h _ => planned_step scaled h event
  exact (run_inv hstep hstart (along_true _ events)).inFlight hb

end

def inputsCatalog (first second : String) : PointCatalog :=
  PointCatalog.empty.setEntries
    [freshEntry (samplePoint first .Modbus [0, 1, 5, 0, 1, 2, 1]),
      freshEntry (samplePoint second .Modbus [0, 1, 6, 0, 1, 2, 1])]

def inputsPolled (first second : String) : PlcState :=
  run (PlcState.next fun _ bits => bits) ⟨inputsCatalog first second, .start true⟩
    [sampleLoop .Idle]

def inputsBatch : ModbusPollBatch := ⟨0, 1, .DiscreteInputs, 5, 2, 0, 2⟩

def inputsRead : BatchEnd := .read fun k => if k = 0 then 1 else 0

def inputsIn : LoopIn := ⟨1000, false, false, .Success, none, 0⟩

theorem inputs_right :
    ResultsRight (fun _ bits => bits) inputsBatch
      ((inputsPolled "first" "second").core.plan.membersOf inputsBatch) inputsIn.nowMs inputsRead
      (inputsPolled "first" "second").catalog
      (endedBatch (fun _ bits => bits) (inputsPolled "first" "second") inputsIn inputsBatch
        inputsRead) := by
  have hflight : InFlight (inputsPolled "first" "second") inputsBatch :=
    inFlight_of_run (fun _ bits => bits) (by decide) true _ (by decide +kernel)
  refine (batch_results_right_iff (fun _ bits => bits) hflight).mpr ?_ inputsIn inputsRead
  have hmembers : (inputsPolled "first" "second").core.plan.membersOf inputsBatch =
      [⟨0, 0⟩, ⟨1, 1⟩] := by decide +kernel
  have hentries : (inputsPolled "first" "second").catalog.entries =
      (inputsCatalog "first" "second").entries := by decide +kernel
  intro m hm e he _
  rw [hmembers] at hm
  rw [hentries] at he
  obtain rfl | hm := List.mem_cons.mp hm
  · obtain rfl := Option.some.inj he
    decide +kernel
  · obtain rfl := List.mem_singleton.mp hm
    obtain rfl := Option.some.inj he
    decide +kernel

/-- Of two points with one identity, the first keeps its state whatever is read for it. -/
theorem doubledInputs_not_right :
    ¬∀ (i : LoopIn) (result : BatchEnd),
      ResultsRight (fun _ bits => bits) inputsBatch
        ((inputsPolled "input" "input").core.plan.membersOf inputsBatch) i.nowMs result
        (inputsPolled "input" "input").catalog
        (endedBatch (fun _ bits => bits) (inputsPolled "input" "input") i inputsBatch result) := by
  intro h
  have hmember : (⟨0, 0⟩ : ModbusPollBatchMember) ∈
      (inputsPolled "input" "input").core.plan.membersOf inputsBatch := by decide +kernel
  have hread : ReadAt inputsBatch ⟨0, 0⟩ (samplePoint "input" .Modbus [0, 1, 5, 0, 1, 2, 1]) :=
    ⟨rfl, rfl, rfl, rfl, rfl⟩
  have hresult := (h inputsIn inputsRead).reached ⟨0, 0⟩ hmember
    (freshEntry (samplePoint "input" .Modbus [0, 1, 5, 0, 1, 2, 1])) (by decide +kernel) hread
  revert hresult
  decide +kernel

end NodeNet.Plc

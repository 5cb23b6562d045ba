import NodeNet.Vm.Serves

/-! How the address registers are set. -/
namespace NodeNet.Vm

/-- The address of the point that an edge, load or store instruction names. -/
def pointAddr (s : WbPlc) : UInt32 :=
  if opcodeIsEdge s.currentOpcode then
    sharedPointStateBase + s.currentRuntimeIndex.toUInt32 * sharedPointStateStride
  else sharedPointStateBase + s.currentImmediateU32

/-- The check that the first cycle of a point instruction makes on its operand. -/
def pointInRange (s : WbPlc) : Bool :=
  if opcodeIsEdge s.currentOpcode then s.currentRuntimeIndex.toUInt32 < edgeStateBits
  else s.currentImmediateU32 < sharedPointStateWindowBytes

def storedType (opcode : UInt8) : Option StackType :=
  match opcode with
  | opcodeStoreBool => some .bool
  | opcodeStoreI16 => some .int16
  | opcodeStoreU32 => some .uint32
  | opcodeStoreI32 => some .int32
  | opcodeStoreF32 => some .float32
  | _ => none

def storeAccepted (s : WbPlc) : Bool :=
  match storedType s.currentOpcode with
  | some type => s.data.stack.depth ≠ 0 && s.data.stack.top.type = type
  | none => true

/-- What the second descriptor cycle does: a fault, or the addresses of a point in range. -/
inductive AddressesPoint (s : WbPlc) : Action → Prop
  | fault (code info : UInt32) {data : Datapath}
      (htimer : data.timerEntryBaseAddr = s.data.timerEntryBaseAddr) :
      AddressesPoint s (.fault false code info data)
  | move {state : State} {data : Datapath}
      (htimer : data.timerEntryBaseAddr = s.data.timerEntryBaseAddr)
      (hrange : pointInRange s = true) (haccepted : storeAccepted s = true)
      (hvalue : data.runtimeValueAddr = pointAddr s)
      (hstatus : data.runtimeStatusAddr = pointAddr s + sharedPointStateQualityOffset) :
      AddressesPoint s (.move false state data)

namespace AddressesPoint
variable {s : WbPlc}

theorem ite {p : Prop} [Decidable p] {a b : Action} (ha : p → AddressesPoint s a)
    (hb : ¬p → AddressesPoint s b) : AddressesPoint s (if p then a else b) := by
  by_cases hp : p
  · rw [if_pos hp]
    exact ha hp
  · rw [if_neg hp]
    exact hb hp

theorem popPending {type : StackType} {info : UInt32} {state : State} {data : Datapath}
    (htimer : data.timerEntryBaseAddr = s.data.timerEntryBaseAddr)
    (hrange : pointInRange s = true) (hstored : storedType s.currentOpcode = some type)
    (hvalue : data.runtimeValueAddr = pointAddr s)
    (hstatus : data.runtimeStatusAddr = pointAddr s + sharedPointStateQualityOffset) :
    AddressesPoint s (popPending s type info state data data) :=
  .ite (fun _ => .fault _ _ htimer) fun hdepth => .ite (fun _ => .fault _ _ htimer) fun htype =>
    .move htimer hrange (by simpa [storeAccepted, hstored] using ⟨hdepth, Decidable.not_not.mp htype⟩)
      hvalue hstatus

end AddressesPoint

theorem storedType_of_edge {opcode : UInt8} (h : opcodeIsEdge opcode = true) :
    storedType opcode = none := by
  have hmem : opcode ∈ [opcodeRTrig, opcodeFTrig] := List.contains_iff_mem.mp h
  simp only [List.mem_cons, List.not_mem_nil, or_false] at hmem
  obtain rfl | rfl := hmem
  · rfl
  · rfl

theorem readDesc1_addressesPoint (s : WbPlc) : AddressesPoint s (readDesc1 s) := by
  unfold readDesc1
  dsimp only
  refine .ite (fun hedge => ?_) fun hedge => ?_
  · refine .ite (fun _ => .fault _ _ rfl) fun hindex => ?_
    have haddr : pointAddr s =
        sharedPointStateBase + s.currentRuntimeIndex.toUInt32 * sharedPointStateStride :=
      if_pos hedge
    refine .move rfl ?_ ?_ haddr.symm (by rw [haddr])
    · simpa [pointInRange, hedge] using hindex
    · have hstored : storedType s.currentOpcode = none :=
        storedType_of_edge hedge
      simp [storeAccepted, hstored]
  · refine .ite (fun _ => .fault _ _ rfl) fun himmediate => ?_
    have haddr : pointAddr s = sharedPointStateBase + s.currentImmediateU32 := if_neg hedge
    have hrange : pointInRange s = true := by simpa [pointInRange, hedge] using himmediate
    split
    all_goals first
      | exact .fault _ _ rfl
      | exact .popPending rfl hrange (by rw [‹s.currentOpcode = _›]; rfl) haddr.symm (by rw [haddr])
      | (refine .move rfl hrange ?_ haddr.symm (by rw [haddr])
         rw [storeAccepted, ‹s.currentOpcode = _›]
         rfl)

inductive PreparesEntry (s : WbPlc) (state : State) : Action → Prop
  | fault (code info : UInt32) : PreparesEntry s state (.fault false code info s.data)
  | move {data : Datapath} (hvalid : entryValid s = true)
      (haddr : data.timerEntryBaseAddr = timerEntryAddr s.cb.timerBase s.currentRuntimeIndex) :
      PreparesEntry s state (.move false state data)

theorem prepStart_preparesEntry (s : WbPlc) (state : State) :
    PreparesEntry s state (prepStart s state) := by
  unfold prepStart withEntry popPending fault
  split
  case isTrue => exact .fault ..
  case isFalse hvalid =>
    split
    · exact .fault ..
    · split
      · exact .fault ..
      · exact .move (by simp only [entryValid, hvalid, decide_false, Bool.not_false]) rfl

def State.preparesEntry : State → Bool
  | .timerPrepStart | .counterPrepStart => true
  | _ => false

def State.readsEntry : State → Bool
  | .timerReadWord0 | .counterReadWord0 => true
  | _ => false

theorem step_of_acts (i : In) {s : WbPlc} (hacts : s.state.acts = true) :
    s.step i = (s.latch i).perform s (execute i s) := by
  have hl : (s.latch i).state = s.state := rfl
  unfold WbPlc.step
  dsimp only
  rw [hl]
  generalize s.state = state at hacts
  cases state <;> cases hacts <;> rfl

theorem State.acts_of_executes {state : State} (h : state.executes = true) :
    state.acts = true := by simp [State.acts, h]

theorem State.executes_of_preparesEntry {state : State} (h : state.preparesEntry = true) :
    state.executes = true := by
  cases state <;> first | rfl | cases h

theorem step_preparesEntry (i : In) {s : WbPlc} (h : s.state.preparesEntry = true) :
    (s.step i).state = .faultWriteStatus ∧
        (s.step i).data.timerEntryBaseAddr = s.data.timerEntryBaseAddr ∨
      (s.step i).state.readsEntry = true ∧ entryValid s = true ∧
        (s.step i).data.timerEntryBaseAddr =
          timerEntryAddr s.cb.timerBase s.currentRuntimeIndex := by
  rw [step_of_acts i (State.acts_of_executes (State.executes_of_preparesEntry h))]
  have hcases : ∃ state : State, state.readsEntry = true ∧
      PreparesEntry s state (execute i s) := by
    unfold execute
    generalize s.state = state at h
    cases state <;> cases h
    · exact ⟨_, rfl, prepStart_preparesEntry s _⟩
    · exact ⟨_, rfl, prepStart_preparesEntry s _⟩
  obtain ⟨state, hreads, hprep⟩ := hcases
  generalize execute i s = a at hprep
  cases hprep with
  | fault code info => exact .inl ⟨rfl, rfl⟩
  | move hvalid haddr => exact .inr ⟨hreads, hvalid, haddr⟩

theorem step_timerEntry (i : In) {s : WbPlc} (h : s.state.preparesEntry = false)
    (hserves : s.state.serves s.currentOpcode = true) :
    (s.step i).data.timerEntryBaseAddr = s.data.timerEntryBaseAddr := by
  by_cases hst : s.state = .readDesc1
  · rw [step_of_acts i (by rw [hst]; rfl)]
    have hpoint := readDesc1_addressesPoint s
    have hexec : execute i s = readDesc1 s := by
      unfold execute
      rw [hst]
    rw [hexec]
    generalize readDesc1 s = a at hpoint
    cases hpoint with
    | fault _ _ htimer => exact htimer
    | move htimer => exact htimer
  · have hset : s.state.setsAddress = false := by
      generalize s.state = state at h hst
      cases state <;> first | rfl | exact absurd rfl hst | cases h
    exact congrArg Addresses.timerEntry ((step_keeps i hserves).addresses hset)

end NodeNet.Vm

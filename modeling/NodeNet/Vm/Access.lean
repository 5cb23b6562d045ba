import NodeNet.Vm.Frame

/-! The bus cycle that each state of the machine runs. -/
namespace NodeNet.Vm

/-- The check that `withEntry` makes. -/
def entryValid (s : WbPlc) : Bool :=
  !(s.cb.timerBase = 0 ∨ s.cb.timerCount ≤ s.currentRuntimeIndex.toUInt32)

def WbPlc.entryAccess (s : WbPlc) (overflows : Bool) (offset : UInt32) : Option UInt32 :=
  if entryValid s && !overflows then some (s.data.timerEntryBaseAddr + offset) else none

/-- A read of the word with the next code byte. -/
def WbPlc.codeAccess (s : WbPlc) : Option UInt32 :=
  if s.cachedWord.valid && s.cachedWord.addr = s.codeWordAddr then none else some s.codeWordAddr

def WbPlc.accessAddr (s : WbPlc) : Option UInt32 :=
  let d := s.data
  match s.state with
  | .readCbMagic => some s.controlBlockAddr
  | .readCbHeader => some (s.controlBlockAddr + 4)
  | .readCbControl => some (s.controlBlockAddr + 8)
  | .readCbStatus => some (s.controlBlockAddr + 12)
  | .readCbPc => some (s.controlBlockAddr + 16)
  | .readCbCycle => some (s.controlBlockAddr + 20)
  | .readCbCodeBase => some (s.controlBlockAddr + 32)
  | .readCbCodeSize => some (s.controlBlockAddr + 36)
  | .readCbTimerBase => some (s.controlBlockAddr + 48)
  | .readCbTimerCount => some (s.controlBlockAddr + 52)
  | .readCbMaxInstr => some (s.controlBlockAddr + 56)
  | .readSlotScratchBase => some (slotManifestAddr s.activeSlot + 56)
  | .fetchOpcode =>
    if s.cb.maxInstructions ≤ s.instructionCount ∨ s.cb.bytecodeSize ≤ s.currentPc then none
    else s.codeAccess
  | .fetchOperand0 | .fetchOperand1
  | .fetchImmediate0 | .fetchImmediate1 | .fetchImmediate2 | .fetchImmediate3 =>
    if s.cb.bytecodeSize ≤ s.currentPc then none else s.codeAccess
  | .loadBoolValue | .edgeReadValue | .storeBoolReadValue | .storeBoolWriteValue0
  | .int16ReadValue | .int16WriteValue0 | .wide32ReadValue | .wide32WriteValue0 =>
    some d.runtimeValueAddr
  | .storeBoolWriteStatus0 | .int16WriteStatus0 => some d.runtimeStatusAddr
  | .storeBoolWriteStatus1 | .int16WriteStatus1 =>
    some (statusAddr s sharedPointStateLastUpdateOffset)
  | .storeBoolWriteStatus2 | .int16WriteStatus2 =>
    some (statusAddr s sharedPointStateLastGoodUpdateOffset)
  | .edgeReadPrevWord | .edgeWritePrevWord => some (edgePrevAddr s)
  | .edgeReadValidWord | .edgeWriteValidWord => some (edgeValidAddr s)
  | .timerReadWord0 => s.entryAccess (opcodeIsTimerRead s.currentOpcode && d.stack.full) 0
  | .counterReadWord0 =>
    s.entryAccess ((opcodeIsCounterDone s.currentOpcode || opcodeIsCounterValue s.currentOpcode) &&
      d.stack.full) 0
  | .timerWriteWord0 | .counterWriteWord0 => s.entryAccess false 0
  | .timerReadWord1 | .timerWriteWord1 | .counterReadWord1 | .counterWriteWord1 =>
    s.entryAccess false 4
  | .timerReadFlags | .timerWriteFlags | .counterReadFlags | .counterWriteFlags =>
    s.entryAccess false 8
  | .haltWriteStatus | .faultWriteStatus => some (s.controlBlockAddr + 12)
  | .haltWritePc => some (s.controlBlockAddr + 16)
  | .haltWriteCycle => some (s.controlBlockAddr + 20)
  | .faultWriteCode => some (s.controlBlockAddr + 24)
  | .faultWriteInfo => some (s.controlBlockAddr + 28)
  | _ => none

def State.writes : State → Bool
  | .storeBoolWriteValue0 | .storeBoolWriteStatus0 | .storeBoolWriteStatus1
  | .storeBoolWriteStatus2 | .int16WriteValue0 | .wide32WriteValue0 | .int16WriteStatus0
  | .int16WriteStatus1 | .int16WriteStatus2 | .edgeWritePrevWord | .edgeWriteValidWord
  | .timerWriteWord0 | .timerWriteWord1 | .timerWriteFlags
  | .counterWriteWord0 | .counterWriteWord1 | .counterWriteFlags
  | .haltWriteStatus | .haltWritePc | .haltWriteCycle
  | .faultWriteStatus | .faultWriteCode | .faultWriteInfo => true
  | _ => false

def Action.finishes : Action → Bool
  | .move finish _ _ | .fault finish _ _ _ => finish
  | .halted | .faulted => true
  | _ => false

/-- An executing state with an access reads or writes a word there and then releases the bus. -/
inductive Accesses (i : In) (s : WbPlc) (addr : UInt32) : Bool → Action → Prop
  | read {done : UInt32 → Action} (h : ∀ word, (done word).finishes = true) :
      Accesses i s addr false (readWord i s addr done)
  | write (data : UInt32) {done : Action} (h : done.finishes = true) :
      Accesses i s addr true (writeWord i s addr data done)

variable {s : WbPlc} {a : Action}

theorem withEntry_of_valid (h : entryValid s = true) : withEntry s a = a := by
  unfold withEntry
  rw [if_neg]
  simpa [entryValid] using h

theorem entryAccess_eq_some {overflows : Bool} {offset addr : UInt32} :
    s.entryAccess overflows offset = some addr ↔
      entryValid s = true ∧ overflows = false ∧ s.data.timerEntryBaseAddr + offset = addr := by
  simp [WbPlc.entryAccess, and_assoc]

theorem finishes_ite {p : Prop} [Decidable p] {b : Action} (ha : a.finishes = true)
    (hb : b.finishes = true) : (if p then a else b).finishes = true := by
  by_cases hp : p
  · rwa [if_pos hp]
  · rwa [if_neg hp]

theorem pushOrOverflow_finishes (s : WbPlc) (value : UInt32) (type : StackType) :
    (pushOrOverflow s true value type).finishes = true :=
  finishes_ite rfl rfl

theorem wide32ReadValue_finishes (s : WbPlc) (value : UInt32) :
    (wide32ReadValue s value).finishes = true := by
  unfold wide32ReadValue
  split
  · exact pushOrOverflow_finishes ..
  · exact pushOrOverflow_finishes ..
  · exact pushOrOverflow_finishes ..
  · rfl

/-- The states that only execute or end an instruction. -/
def State.acts (state : State) : Bool := state.executes || state.ends

theorem execute_accesses (i : In) {addr : UInt32} (hacts : s.state.acts = true)
    (h : s.accessAddr = some addr) : Accesses i s addr s.state.writes (execute i s) := by
  unfold WbPlc.accessAddr at h
  unfold execute
  generalize s.state = state at h hacts
  cases state <;> cases hacts
  all_goals dsimp only at h ⊢
  all_goals first
    | cases h
    | (obtain ⟨hvalid, hover, rfl⟩ := entryAccess_eq_some.mp h; rw [withEntry_of_valid hvalid])
  case loadBoolValue => exact .read fun _ => pushOrOverflow_finishes ..
  case edgeReadValue => exact .read fun _ => finishes_ite rfl (finishes_ite rfl (finishes_ite rfl rfl))
  case int16ReadValue =>
    exact .read fun _ => finishes_ite (pushOrOverflow_finishes ..) (finishes_ite rfl rfl)
  case wide32ReadValue => exact .read (wide32ReadValue_finishes s)
  case timerReadFlags =>
    exact .read fun _ => finishes_ite rfl (finishes_ite rfl (finishes_ite rfl rfl))
  case counterReadFlags => exact .read fun _ => finishes_ite rfl (finishes_ite rfl rfl)
  case timerReadWord0 | counterReadWord0 =>
    rw [if_neg (by simp [hover])]
    simp only [UInt32.add_zero]
    exact .read fun _ => rfl
  case timerWriteWord0 | counterWriteWord0 =>
    simp only [UInt32.add_zero]
    exact .write _ rfl
  all_goals first
    | exact .read fun _ => rfl
    | exact .write _ rfl

/-- What a cycle does to the bus: it starts the state's access, waits for the answer or leaves
the bus free. -/
inductive BusStep (i : In) (s : WbPlc) : WbPlc → Prop
  | start {addr : UInt32} (hcyc : s.bus.cyc = false) (haddr : s.accessAddr = some addr)
      (dat : UInt32) : BusStep i s { s.latch i with bus := ⟨true, s.state.writes, addr, dat⟩ }
  | wait (hcyc : s.bus.cyc = true) (hack : i.ack = false) : BusStep i s (s.latch i)
  | free {t : WbPlc} (hwhy : s.bus.cyc = true ∧ i.ack = true ∨ s.accessAddr = none)
      (hcyc : t.bus.cyc = false) : BusStep i s t

theorem perform_finishes (s old : WbPlc) (h : a.finishes = true) :
    (s.perform old a).bus.cyc = false := by
  cases a with
  | move finish state data => cases h; rfl
  | fault finish code info data => cases h; rfl
  | halted => rfl
  | faulted => rfl
  | wait | startRead | startWrite | startFloatOp | capture => cases h

variable {i : In}

theorem busStep_of_accesses {addr : UInt32} {writes : Bool} (haddr : s.accessAddr = some addr)
    (hw : s.state.writes = writes) (h : Accesses i s addr writes a) :
    BusStep i s ((s.latch i).perform s a) := by
  cases hcyc : s.bus.cyc with
  | false =>
    have hstep := BusStep.start (i := i) hcyc haddr
    rw [hw] at hstep
    cases h with
    | read hdone => simpa [readWord, hcyc, WbPlc.perform, WbPlc.startRead] using hstep 0
    | write data hdone => simpa [writeWord, hcyc, WbPlc.perform, WbPlc.startWrite] using hstep data
  | true =>
    cases hack : i.ack with
    | false =>
      have hwait : a = .wait := by
        cases h <;> simp [readWord, writeWord, hcyc, hack]
      rw [hwait]
      exact .wait hcyc hack
    | true =>
      refine .free (.inl ⟨hcyc, hack⟩) (perform_finishes _ _ ?_)
      cases h with
      | read hdone => simpa [readWord, hcyc, hack] using hdone i.dat
      | write data hdone => simpa [writeWord, hcyc, hack] using hdone

theorem busStep_of_readCb {addr : UInt32} {done : UInt32 → WbPlc → WbPlc}
    (haddr : s.accessAddr = some addr) (hw : s.state.writes = false)
    (hdone : ∀ w t, (done w t).bus = t.bus) : BusStep i s (readCb i (s.latch i) addr done) := by
  have hl : (s.latch i).bus = s.bus := rfl
  unfold readCb
  rw [hl]
  cases hcyc : s.bus.cyc with
  | false =>
    have hstep := BusStep.start (i := i) hcyc haddr 0
    rw [hw] at hstep
    simpa [WbPlc.startRead] using hstep
  | true =>
    cases hack : i.ack with
    | false => simpa using BusStep.wait hcyc hack
    | true => exact .free (.inl ⟨hcyc, hack⟩) (by simp [hdone, WbPlc.finishBusCycle])

theorem busStep_of_fetchByte {take : UInt8 → WbPlc → WbPlc}
    (hbus : s.bus.cyc = true → s.codeAccess = some s.bus.adr) (haddr : s.accessAddr = s.codeAccess)
    (hw : s.state.writes = false) (htake : ∀ b t, (take b t).bus = t.bus) :
    BusStep i s (fetchByte i (s.latch i) take) := by
  have hl : (s.latch i).bus = s.bus := rfl
  have hc : (s.latch i).cachedWord = s.cachedWord := rfl
  have ha : (s.latch i).codeWordAddr = s.codeWordAddr := rfl
  unfold fetchByte
  rw [hl, hc, ha]
  by_cases hhit : (s.cachedWord.valid && decide (s.cachedWord.addr = s.codeWordAddr)) = true
  · have hnone : s.codeAccess = none := if_pos hhit
    have hcyc : s.bus.cyc = false := by
      cases hcyc : s.bus.cyc with
      | false => rfl
      | true => cases hnone.symm.trans (hbus hcyc)
    rw [if_pos hhit]
    exact .free (.inr (haddr.trans hnone)) (by rw [htake]; exact hcyc)
  · have hsome : s.accessAddr = some s.codeWordAddr := haddr.trans (if_neg hhit)
    rw [if_neg hhit]
    cases hcyc : s.bus.cyc with
    | false =>
      have hstep := BusStep.start (i := i) hcyc hsome 0
      rw [hw] at hstep
      simpa [WbPlc.startRead] using hstep
    | true =>
      cases hack : i.ack with
      | false => simpa using BusStep.wait hcyc hack
      | true => exact .free (.inl ⟨hcyc, hack⟩) (by simp [htake, WbPlc.finishBusCycle])

def Action.starts : Action → Bool
  | .startRead _ | .startWrite _ _ => true
  | _ => false

theorem perform_offBus {old : WbPlc} (h : a.starts = false) (hcyc : s.bus.cyc = false) :
    (s.perform old a).bus.cyc = false := by
  cases a with
  | startRead | startWrite => cases h
  | move finish state data =>
    cases finish <;> simp [WbPlc.perform, WbPlc.finishIf, WbPlc.finishBusCycle, hcyc]
  | fault finish code info data =>
    cases finish <;>
      simp [WbPlc.perform, WbPlc.finishIf, WbPlc.finishBusCycle, WbPlc.beginFault, hcyc]
  | wait | startFloatOp | capture => exact hcyc
  | halted | faulted => rfl

theorem starts_of_continues (h : Continues true a) : a.starts = false := by
  cases h with
  | startRead h | startWrite h => cases h
  | _ => rfl

theorem withEntry_starts (h : entryValid s = true → a.starts = false) :
    (withEntry s a).starts = false := by
  unfold withEntry
  split
  case isTrue => rfl
  case isFalse hvalid => exact h (by simp only [entryValid, hvalid, decide_false, Bool.not_false])

theorem entryAccess_eq_none {overflows : Bool} {offset : UInt32} :
    s.entryAccess overflows offset = none ↔ (entryValid s = true → overflows = true) := by
  simp [WbPlc.entryAccess]

theorem execute_offBus (i : In) (hacts : s.state.acts = true) (h : s.accessAddr = none) :
    (execute i s).starts = false := by
  cases hoff : s.state.offBus with
  | true =>
    have hexec : s.state.executes = true := by
      generalize s.state = state at hoff
      cases state <;> first | rfl | cases hoff
    have hcont := execute_continues i s hexec
    rw [hoff] at hcont
    exact starts_of_continues hcont
  | false =>
    unfold WbPlc.accessAddr at h
    unfold execute
    generalize s.state = state at h hacts hoff
    cases state <;> cases hacts <;> cases hoff
    all_goals dsimp only at h ⊢
    all_goals first
      | cases h
      | (refine withEntry_starts fun hvalid => ?_
         have hover := entryAccess_eq_none.mp h hvalid
         first
           | cases hover
           | (rw [if_pos hover]; rfl))

theorem startDivision_bus (i : In) (old s : WbPlc) (wait : SlotWait) :
    (startDivision i old s wait).bus = s.bus := by
  unfold startDivision
  split <;> rfl

theorem stepSlotResume_bus (i : In) (old s : WbPlc) : (stepSlotResume i old s).bus = s.bus := by
  unfold stepSlotResume
  dsimp only
  split
  · exact startDivision_bus ..
  · split <;> rfl
  · rfl

theorem branchConditional_bus (s : WbPlc) (taken : Bool) :
    (branchConditional s taken).bus = s.bus := by
  unfold branchConditional
  dsimp only
  repeat' split
  all_goals rfl

theorem stepBranchExecute_bus (s : WbPlc) : (stepBranchExecute s).bus = s.bus := by
  unfold stepBranchExecute
  dsimp only
  split
  · split <;> rfl
  · exact branchConditional_bus ..
  · exact branchConditional_bus ..
  · rfl

theorem stepSlotCheck_bus (s : WbPlc) : (stepSlotCheck s).bus = s.bus := by
  unfold stepSlotCheck
  dsimp only
  repeat' split
  all_goals rfl

theorem stepNextSlot_bus (i : In) (old s : WbPlc) : (stepNextSlot i old s).bus = s.bus := by
  unfold stepNextSlot
  dsimp only
  repeat' split
  all_goals rfl

/-- What the decoder does with an instruction that it executes itself. -/
inductive Decoded (s : WbPlc) : Action → Prop
  | fault (code info : UInt32) : Decoded s (fault s false code info)
  | next (stack : Stack) : Decoded s (moveStack s false .fetchOpcode stack)
  | float (h : opcodeIsFloatOp s.currentOpcode = true) : Decoded s (.move false .floatOpStart s.data)
  | halt : Decoded s (.move false .haltWriteStatus s.data)

namespace Decoded
variable {s : WbPlc}

theorem ite {p : Prop} [Decidable p] {a b : Action} (ha : p → Decoded s a)
    (hb : ¬p → Decoded s b) : Decoded s (if p then a else b) := by
  by_cases hp : p
  · rw [if_pos hp]
    exact ha hp
  · rw [if_neg hp]
    exact hb hp

theorem push (value : UInt32) (type : StackType) : Decoded s (pushOrOverflow s false value type) :=
  .ite (fun _ => .fault ..) fun _ => .next _

theorem alu (r : AluResult) (fewer more : Nat) (result : Stack → UInt32 → StackType → Stack) :
    Decoded s (applyAlu s r fewer more result) :=
  .ite (fun _ => .fault ..) fun _ => .ite (fun _ => .fault ..) fun _ =>
    .ite (fun _ => .next _) fun _ => .next _

theorem binaryAlu (r : AluResult) (usesThree : Bool) : Decoded s (applyBinaryAlu s r usesThree) :=
  .ite (fun _ => .fault ..) fun _ => .ite (fun _ => .fault ..) fun _ =>
    .ite (fun _ => .next _) fun _ => .next _

end Decoded

theorem decodeExecute_decoded (s : WbPlc) : Decoded s (decodeExecute s) := by
  unfold decodeExecute
  dsimp only
  repeat' first
    | exact .fault ..
    | exact .next _
    | exact .push ..
    | exact .alu ..
    | exact .binaryAlu ..
    | exact .halt
    | exact .float (by assumption)
    | refine Decoded.ite (fun _ => ?_) fun _ => ?_

theorem decode_starts (s : WbPlc) : (decode s).starts = false := by
  unfold decode
  cases decodeFetch s.currentOpcode with
  | some state => rfl
  | none =>
    have h := decodeExecute_decoded s
    generalize decodeExecute s = a at h ⊢
    cases h <;> rfl

theorem stepDecode_offBus {old : WbPlc} (hcyc : s.bus.cyc = false) :
    (stepDecode i old s).bus.cyc = false := by
  unfold stepDecode
  split
  · rw [startDivision_bus]
    exact hcyc
  · exact perform_offBus (decode_starts old) hcyc

def WbPlc.OnBus (s : WbPlc) : Prop :=
  s.bus.cyc = true → s.accessAddr = some s.bus.adr ∧ s.bus.we = s.state.writes

theorem busStep_of_none {t : WbPlc} (hbus : s.OnBus) (h : s.accessAddr = none)
    (ht : s.bus.cyc = false → t.bus.cyc = false) : BusStep i s t := by
  have hcyc : s.bus.cyc = false := by
    cases hcyc : s.bus.cyc with
    | false => rfl
    | true => cases h.symm.trans (hbus hcyc).1
  exact .free (.inr h) (ht hcyc)

theorem busStep_of_execute (hbus : s.OnBus) (hacts : s.state.acts = true) :
    BusStep i s ((s.latch i).perform s (execute i s)) := by
  cases haddr : s.accessAddr with
  | none =>
    exact busStep_of_none hbus haddr fun hcyc => perform_offBus (execute_offBus i hacts haddr) hcyc
  | some addr => exact busStep_of_accesses haddr rfl (execute_accesses i hacts haddr)

theorem busStep_of_fetchOperandByte {taken : UInt32} {take : UInt8 → WbPlc → WbPlc} (hbus : s.OnBus)
    (haddr : s.accessAddr = if s.cb.bytecodeSize ≤ s.currentPc then none else s.codeAccess)
    (hw : s.state.writes = false) (htake : ∀ b t, (take b t).bus = t.bus) :
    BusStep i s (fetchOperandByte i (s.latch i) taken take) := by
  unfold fetchOperandByte
  by_cases hsize : s.cb.bytecodeSize ≤ s.currentPc
  · rw [if_pos hsize] at haddr
    refine busStep_of_none hbus haddr fun hcyc => ?_
    have hl : (s.latch i).cb.bytecodeSize ≤ (s.latch i).currentPc := hsize
    rw [if_pos hl]
    exact hcyc
  · rw [if_neg hsize] at haddr
    have hl : ¬(s.latch i).cb.bytecodeSize ≤ (s.latch i).currentPc := hsize
    rw [if_neg hl]
    exact busStep_of_fetchByte (fun h => haddr.symm.trans (hbus h).1) haddr hw htake

theorem busStep_of_fetchOpcode (hbus : s.OnBus) (hst : s.state = .fetchOpcode) :
    BusStep i s (stepFetchOpcode i (s.latch i)) := by
  have haddr : s.accessAddr = if s.cb.maxInstructions ≤ s.instructionCount ∨
      s.cb.bytecodeSize ≤ s.currentPc then none else s.codeAccess := by
    simp only [WbPlc.accessAddr, hst]
  unfold stepFetchOpcode
  split
  case isTrue hmax => exact busStep_of_none hbus (by rw [haddr, if_pos (.inl hmax)]) id
  case isFalse hmax =>
    split
    case isTrue hsize => exact busStep_of_none hbus (by rw [haddr, if_pos (.inr hsize)]) id
    case isFalse hsize =>
      have hnone : ¬(s.cb.maxInstructions ≤ s.instructionCount ∨ s.cb.bytecodeSize ≤ s.currentPc) :=
        not_or.mpr ⟨hmax, hsize⟩
      rw [if_neg hnone] at haddr
      exact busStep_of_fetchByte (fun h => haddr.symm.trans (hbus h).1) haddr (by rw [hst]; rfl)
        fun _ _ => rfl

theorem step_busStep (i : In) (hbus : s.OnBus) : BusStep i s (s.step i) := by
  have hl : (s.latch i).state = s.state := rfl
  unfold WbPlc.step
  dsimp only
  rw [hl]
  cases hst : s.state
  case idle =>
    refine busStep_of_none hbus (by simp [WbPlc.accessAddr, hst]) fun _ => ?_
    unfold stepIdle
    dsimp only
    repeat' split
    all_goals rfl
  case slotCheck =>
    exact busStep_of_none hbus (by simp [WbPlc.accessAddr, hst])
      fun h => (congrArg Bus.cyc (stepSlotCheck_bus _)).trans h
  case slotResume =>
    exact busStep_of_none hbus (by simp [WbPlc.accessAddr, hst])
      fun h => (congrArg Bus.cyc (stepSlotResume_bus ..)).trans h
  case branchExecute =>
    exact busStep_of_none hbus (by simp [WbPlc.accessAddr, hst])
      fun h => (congrArg Bus.cyc (stepBranchExecute_bus _)).trans h
  case nextSlot =>
    exact busStep_of_none hbus (by simp [WbPlc.accessAddr, hst])
      fun h => (congrArg Bus.cyc (stepNextSlot_bus ..)).trans h
  case decode =>
    exact busStep_of_none hbus (by simp [WbPlc.accessAddr, hst]) fun h => stepDecode_offBus h
  case fetchOpcode => exact busStep_of_fetchOpcode hbus hst
  case fetchOperand0 | fetchOperand1 | fetchImmediate0 | fetchImmediate1 | fetchImmediate2 |
      fetchImmediate3 =>
    refine busStep_of_fetchOperandByte hbus ?_ (by rw [hst]; rfl) fun _ _ => rfl
    simp only [WbPlc.accessAddr, hst]
  case readCbMagic | readCbHeader | readCbControl | readCbStatus | readCbPc | readCbCycle |
      readCbCodeBase | readCbCodeSize | readCbTimerBase | readCbTimerCount | readCbMaxInstr |
      readSlotScratchBase =>
    exact busStep_of_readCb (by simp only [WbPlc.accessAddr, hst]; rfl) (by rw [hst]; rfl)
      fun _ _ => rfl
  all_goals exact busStep_of_execute hbus (by rw [hst]; rfl)

theorem OnBus.step (h : s.OnBus) : (s.step i).OnBus := by
  have hstep := step_busStep i h
  generalize s.step i = t at hstep
  intro hcyc
  cases hstep with
  | start _ haddr dat => exact ⟨haddr, rfl⟩
  | wait => exact h hcyc
  | free _ hfree => cases hfree.symm.trans hcyc

theorem onBus_reset (adr dat : UInt32) : (WbPlc.reset adr dat).OnBus := fun h => by cases h

def accessStarted (s : WbPlc) (i : In) : Option UInt32 :=
  if !s.bus.cyc && (s.step i).bus.cyc then some (s.step i).bus.adr else none

theorem accessStarted_eq (i : In) (hbus : s.OnBus) :
    accessStarted s i = if s.bus.cyc then none else s.accessAddr := by
  have hstep := step_busStep i hbus
  unfold accessStarted
  generalize s.step i = t at hstep
  cases hstep with
  | start hcyc haddr dat => simp [hcyc, haddr]
  | wait hcyc => simp [hcyc]
  | free hwhy hfree =>
    rw [hfree]
    cases hwhy with
    | inl h => simp [h.1]
    | inr h => simp [h]

/-- The word that a bus cycle reads or writes: all four bytes of it are selected, and memory drops
the two low address bits. -/
def wordAddr (addr : UInt32) : Nat := addr.toNat / 4 * 4

end NodeNet.Vm

import NodeNet.Vm.Access

/-! Which opcodes each state serves, and which registers its cycles keep. -/
namespace NodeNet.Vm

/-- Instructions on a timer or counter entry. -/
def opcodeIsTimer (opcode : UInt8) : Bool :=
  opcodeIsTimerStart opcode || opcodeIsTimerRead opcode || opcodeIsTimerReset opcode

def opcodeIsCounter (opcode : UInt8) : Bool :=
  opcodeIsCounterCount opcode || opcodeIsCounterDone opcode || opcodeIsCounterValue opcode ||
    opcodeIsCounterReset opcode

def opcodeIsWideLoad (opcode : UInt8) : Bool :=
  [opcodeLoadU32, opcodeLoadI32, opcodeLoadF32].contains opcode

def opcodeIsWideStore (opcode : UInt8) : Bool :=
  [opcodeStoreU32, opcodeStoreI32, opcodeStoreF32].contains opcode

/-- The store, the increment and the decrement of a 16-bit value. -/
def opcodeWritesInt16 (opcode : UInt8) : Bool :=
  [opcodeStoreI16, opcodeIncInt16, opcodeDecInt16].contains opcode

/-- The opcodes that a state works for; all of them where it says nothing. -/
def State.serves (opcode : UInt8) : State → Bool
  | .fetchOperand0 | .fetchOperand1 => decodeFetch opcode = some .fetchOperand0
  | .fetchImmediate0 | .fetchImmediate1 =>
    opcodeIsPushWide opcode || opcodeIsPointAccess opcode || opcodeIsTimerStart opcode ||
      opcodeIsCounterCount opcode
  | .fetchImmediate2 | .fetchImmediate3 =>
    opcodeIsPushWide opcode || opcodeIsPointAccess opcode || opcodeIsTimerStart opcode
  | .branchExecute => opcodeIsJump opcode
  | .pushI16Value => opcode = opcodePushI16
  | .pushWide32Value => opcodeIsPushWide opcode
  | .floatOpStart | .floatOpWait => opcodeIsFloatOp opcode
  | .readDesc0 | .readDesc1 => opcodeIsEdge opcode || opcodeIsPointAccess opcode
  | .loadBoolValue => opcode = opcodeLoadBool
  | .storeBoolReadValue | .storeBoolWriteValue0 | .storeBoolWriteStatus0
  | .storeBoolWriteStatus1 | .storeBoolWriteStatus2 | .storeBoolWriteStatus3 =>
    opcode = opcodeStoreBool
  | .int16ReadValue => opcode = opcodeLoadI16 || opcodeWritesInt16 opcode
  | .int16WriteValue0 => opcodeWritesInt16 opcode
  | .wide32ReadValue => opcodeIsWideLoad opcode || opcodeIsWideStore opcode
  | .wide32WriteValue0 => opcodeIsWideStore opcode
  | .int16WriteStatus0 | .int16WriteStatus1 | .int16WriteStatus2 | .int16WriteStatus3 =>
    opcodeWritesInt16 opcode || opcodeIsWideStore opcode
  | .edgeReadValue | .edgeReadPrevWord | .edgeReadValidWord | .edgeWritePrevWord
  | .edgeWriteValidWord => opcodeIsEdge opcode
  | .timerPrepStart => opcodeIsTimerStart opcode
  | .timerReadWord0 | .timerReadWord1 | .timerReadFlags => opcodeIsTimer opcode
  | .timerWriteWord0 | .timerWriteWord1 | .timerWriteFlags =>
    opcodeIsTimerStart opcode || opcodeIsTimerReset opcode
  | .counterPrepStart => opcodeIsCounterCount opcode
  | .counterReadWord0 | .counterReadWord1 | .counterReadFlags => opcodeIsCounter opcode
  | .counterWriteWord0 | .counterWriteWord1 | .counterWriteFlags =>
    opcodeIsCounterCount opcode || opcodeIsCounterReset opcode
  | _ => true

variable {opcode : UInt8} {state : State}

theorem decodeFetch_serves (h : decodeFetch opcode = some state) : state.serves opcode = true := by
  have hall := h
  unfold decodeFetch at h
  split at h
  case isTrue =>
    obtain rfl := Option.some.inj h
    exact decide_eq_true hall
  case isFalse =>
    split at h
    case isTrue hwide =>
      obtain rfl := Option.some.inj h
      simp only [Bool.or_eq_true] at hwide
      simp [State.serves, hwide.symm]
    case isFalse => cases h

theorem afterOperand1_serves (h : State.fetchOperand1.serves opcode = true) :
    (afterOperand1 opcode).serves opcode = true := by
  have hfetch : decodeFetch opcode = some .fetchOperand0 := of_decide_eq_true h
  unfold afterOperand1
  split
  case isTrue hpush => exact decide_eq_true hpush
  case isFalse hpush =>
    split
    case isTrue hjump => exact hjump
    case isFalse hjump =>
      split
      case isTrue hstart =>
        simp only [Bool.or_eq_true] at hstart
        cases hstart <;> simp [State.serves, *]
      case isFalse hstart =>
        split
        case isTrue htimer =>
          simp only [Bool.or_eq_true] at htimer
          cases htimer <;> simp [State.serves, opcodeIsTimer, *]
        case isFalse htimer =>
          split
          case isTrue hcounter =>
            simp only [Bool.or_eq_true] at hcounter
            simp [State.serves, opcodeIsCounter, or_assoc] at hcounter ⊢
            exact .inr hcounter
          case isFalse hcounter =>
            unfold decodeFetch at hfetch
            simp_all [State.serves]

theorem afterImmediate1_serves (h : State.fetchImmediate1.serves opcode = true) :
    (afterImmediate1 opcode).serves opcode = true := by
  unfold afterImmediate1
  split
  case isTrue hcount => exact hcount
  case isFalse hcount => simpa [State.serves, hcount] using h

theorem afterImmediate3_serves (h : State.fetchImmediate3.serves opcode = true) :
    (afterImmediate3 opcode).serves opcode = true := by
  unfold afterImmediate3
  split
  case isTrue hpush => exact hpush
  case isFalse hpush =>
    split
    case isTrue hpoint => simp [State.serves, hpoint]
    case isFalse hpoint => simpa [State.serves, hpush, hpoint] using h

structure Addresses where
  timerEntry : UInt32
  runtimeValue : UInt32
  runtimeStatus : UInt32

def Datapath.addresses (d : Datapath) : Addresses :=
  ⟨d.timerEntryBaseAddr, d.runtimeValueAddr, d.runtimeStatusAddr⟩

def State.setsAddress : State → Bool
  | .readDesc1 | .timerPrepStart | .counterPrepStart => true
  | _ => false

/-- What an executing state does: it keeps the address registers, unless it sets them, and goes on
in a state that serves the instruction. -/
inductive Executes (s : WbPlc) : Action → Prop
  | wait : Executes s .wait
  | startRead (addr : UInt32) : Executes s (.startRead addr)
  | startWrite (addr data : UInt32) : Executes s (.startWrite addr data)
  | move (finish : Bool) {state : State} {data : Datapath}
      (hserves : state.serves s.currentOpcode = true)
      (haddr : s.state.setsAddress = false → data.addresses = s.data.addresses) :
      Executes s (.move finish state data)
  | fault (finish : Bool) (code info : UInt32) {data : Datapath}
      (haddr : s.state.setsAddress = false → data.addresses = s.data.addresses) :
      Executes s (.fault finish code info data)
  | startFloatOp (h : s.state = .floatOpStart) : Executes s .startFloatOp
  | capture (offsetQ16 : BitVec 13) : Executes s (.capture offsetQ16)
  | halted : Executes s .halted
  | faulted : Executes s .faulted

namespace Executes
variable {s : WbPlc}

theorem ite {p : Prop} [Decidable p] {a b : Action} (ha : p → Executes s a)
    (hb : ¬p → Executes s b) : Executes s (if p then a else b) := by
  by_cases hp : p
  · rw [if_pos hp]
    exact ha hp
  · rw [if_neg hp]
    exact hb hp

theorem readWord {i : In} {addr : UInt32} {done : UInt32 → Action}
    (hdone : ∀ word, Executes s (done word)) : Executes s (readWord i s addr done) :=
  .ite (fun _ => .startRead addr) fun _ => .ite (fun _ => hdone _) fun _ => .wait

theorem writeThen {i : In} {addr data : UInt32} {state : State}
    (hserves : state.serves s.currentOpcode = true) :
    Executes s (writeThen i s addr data state) :=
  .ite (fun _ => .startWrite addr data) fun _ =>
    .ite (fun _ => .move true hserves fun _ => rfl) fun _ => .wait

theorem withEntry {a : Action} (h : Executes s a) : Executes s (withEntry s a) :=
  .ite (fun _ => .fault false _ _ fun _ => rfl) fun _ => h

theorem push (finish : Bool) (value : UInt32) (type : StackType) :
    Executes s (pushOrOverflow s finish value type) :=
  .ite (fun _ => .fault finish _ _ fun _ => rfl) fun _ => .move finish rfl fun _ => rfl

theorem popPending {type : StackType} {info : UInt32} {state : State} {kept popped : Datapath}
    (hserves : state.serves s.currentOpcode = true) (hsets : s.state.setsAddress = true) :
    Executes s (popPending s type info state kept popped) :=
  have hset : ∀ {p : Prop}, s.state.setsAddress = false → p := fun h => by cases hsets.symm.trans h
  .ite (fun _ => .fault false _ _ hset) fun _ =>
    .ite (fun _ => .fault false _ _ hset) fun _ => .move false hserves hset

end Executes

variable {s : WbPlc}

theorem readDesc1_executes (hstate : s.state = .readDesc1) : Executes s (readDesc1 s) := by
  have hset : ∀ {p : Prop}, s.state.setsAddress = false → p := fun hn => by
    rw [hstate] at hn
    cases hn
  have hsets : s.state.setsAddress = true := by rw [hstate]; rfl
  unfold readDesc1
  dsimp only
  refine .ite (fun hedge => ?_) fun _ => ?_
  · exact .ite (fun _ => .fault false _ _ hset) fun _ => .move false hedge hset
  · refine .ite (fun _ => .fault false _ _ hset) fun _ => ?_
    split
    all_goals first
      | exact .fault false _ _ hset
      | exact .move false (by rw [‹s.currentOpcode = _›]; rfl) hset
      | exact .popPending (by rw [‹s.currentOpcode = _›]; rfl) hsets

theorem timerReadFlags_executes (i : In) (flags : UInt32)
    (h : opcodeIsTimer s.currentOpcode = true) : Executes s (timerReadFlags i s flags) := by
  unfold timerReadFlags
  dsimp only
  refine .ite (fun _ => .move true rfl fun _ => rfl) fun hdone => ?_
  refine .ite (fun _ => .move true rfl fun _ => rfl) fun helapsed => ?_
  refine .ite (fun _ => .move true rfl fun _ => rfl) fun hremaining => ?_
  refine .move true ?_ fun _ => rfl
  simpa [State.serves, opcodeIsTimer, opcodeIsTimerRead, hdone, helapsed, hremaining] using h

theorem counterReadFlags_executes (flags : UInt32) (h : opcodeIsCounter s.currentOpcode = true) :
    Executes s (counterReadFlags s flags) := by
  unfold counterReadFlags
  dsimp only
  refine .ite (fun _ => .move true rfl fun _ => rfl) fun hdone => ?_
  refine .ite (fun _ => .move true rfl fun _ => rfl) fun hvalue => ?_
  refine .move true ?_ fun _ => rfl
  simpa [State.serves, opcodeIsCounter, hdone, hvalue] using h

theorem edgeReadValue_executes (value : UInt32) (h : opcodeIsEdge s.currentOpcode = true) :
    Executes s (edgeReadValue s value) :=
  .ite (fun _ => .fault true _ _ fun _ => rfl) fun _ =>
    .ite (fun _ => .fault true _ _ fun _ => rfl) fun _ =>
      .ite (fun _ => .fault true _ _ fun _ => rfl) fun _ => .move true h fun _ => rfl

theorem int16ReadValue_executes (value : UInt32)
    (h : State.int16ReadValue.serves s.currentOpcode = true) :
    Executes s (int16ReadValue s value) := by
  unfold int16ReadValue
  dsimp only
  refine .ite (fun _ => .push ..) fun hload => ?_
  have hwrites : opcodeWritesInt16 s.currentOpcode = true := by
    simpa [State.serves, hload] using h
  refine .ite (fun _ => .move true ?_ fun _ => rfl) fun _ => .move true hwrites fun _ => rfl
  simp [State.serves, hwrites]

theorem wide32ReadValue_executes (value : UInt32)
    (h : State.wide32ReadValue.serves s.currentOpcode = true) :
    Executes s (wide32ReadValue s value) := by
  unfold wide32ReadValue
  split
  · exact .push ..
  · exact .push ..
  · exact .push ..
  case _ hu32 hi32 hf32 =>
    have hstore : opcodeIsWideStore s.currentOpcode = true := by
      have hload : opcodeIsWideLoad s.currentOpcode = false := by
        simpa [opcodeIsWideLoad] using ⟨hu32, hi32, hf32⟩
      simpa [State.serves, hload] using h
    refine .move true ?_ fun _ => rfl
    split
    · simp [State.serves, hstore]
    · exact hstore

theorem execute_executes (i : In) (hacts : s.state.acts = true)
    (h : s.state.serves s.currentOpcode = true) : Executes s (execute i s) := by
  unfold execute
  cases hst : s.state <;> rw [hst] at h hacts <;> cases hacts
  case floatOpStart => exact .startFloatOp hst
  case floatOpWait =>
    exact .ite (fun _ => .wait) fun _ => .ite (fun _ => .fault false _ _ fun _ => rfl) fun _ =>
      .move false rfl fun _ => rfl
  case readDesc0 => exact .move false h fun _ => rfl
  case readDesc1 => exact readDesc1_executes hst
  case timerPrepStart =>
    have hstart : opcodeIsTimerStart s.currentOpcode = true := h
    exact .withEntry (.popPending (by simp [State.serves, opcodeIsTimer, hstart]) (by rw [hst]; rfl))
  case counterPrepStart =>
    have hcount : opcodeIsCounterCount s.currentOpcode = true := h
    exact .withEntry
      (.popPending (by simp [State.serves, opcodeIsCounter, hcount]) (by rw [hst]; rfl))
  case timerReadWord0 | counterReadWord0 =>
    exact .withEntry (.ite (fun _ => .fault false _ _ fun _ => rfl) fun _ =>
      .readWord fun _ => .move true h fun _ => rfl)
  case timerReadWord1 | counterReadWord1 =>
    exact .withEntry (.readWord fun _ => .move true h fun _ => rfl)
  case timerReadFlags => exact .withEntry (.readWord fun _ => timerReadFlags_executes i _ h)
  case counterReadFlags => exact .withEntry (.readWord fun _ => counterReadFlags_executes _ h)
  case edgeReadValue => exact .readWord fun _ => edgeReadValue_executes _ h
  case int16ReadValue => exact .readWord fun _ => int16ReadValue_executes _ h
  case wide32ReadValue => exact .readWord fun _ => wide32ReadValue_executes _ h
  case int16WriteValue0 =>
    have hwrites : opcodeWritesInt16 s.currentOpcode = true := h
    exact .writeThen (by simp [State.serves, hwrites])
  case wide32WriteValue0 =>
    have hstore : opcodeIsWideStore s.currentOpcode = true := h
    exact .writeThen (by simp [State.serves, hstore])
  case storeBoolReadValue =>
    refine .readWord fun _ => .move true ?_ fun _ => rfl
    split <;> exact h
  all_goals first
    | exact .push ..
    | exact .capture _
    | exact .writeThen h
    | exact .writeThen rfl
    | exact .withEntry (.writeThen h)
    | exact .withEntry (.writeThen rfl)
    | exact .ite (fun _ => .startWrite ..) fun _ => .ite (fun _ => .halted) fun _ => .wait
    | exact .ite (fun _ => .startWrite ..) fun _ => .ite (fun _ => .faulted) fun _ => .wait
    | exact .readWord fun _ => .push ..
    | exact .readWord fun _ => .move true h fun _ => rfl

/-- The slot's registers and the registers of the fetched instruction. -/
structure Operands where
  activeSlot : SlotId
  controlBlockAddr : UInt32
  cb : ControlBlock
  opcode : UInt8
  runtimeIndex : UInt16
  immediate : UInt32

def WbPlc.operands (s : WbPlc) : Operands :=
  ⟨s.activeSlot, s.controlBlockAddr, s.cb, s.currentOpcode, s.currentRuntimeIndex,
    s.currentImmediateU32⟩

theorem perform_operands (s old : WbPlc) (a : Action) :
    (s.perform old a).operands = s.operands := by
  cases a
  case move finish _ _ | fault finish _ _ _ => cases finish <;> rfl
  all_goals rfl

def State.loadsCb : State → Bool
  | .readCbControl | .readCbStatus | .readCbPc | .readCbCycle | .readCbCodeBase | .readCbCodeSize
  | .readCbTimerBase | .readCbTimerCount | .readCbMaxInstr | .readSlotScratchBase => true
  | _ => false

/-- What a cycle keeps: the address registers unless the state sets them, the slot's registers
unless it loads them, and that the state serves the instruction. -/
structure Keeps (state : State) (s t : WbPlc) : Prop where
  addresses : state.setsAddress = false → t.data.addresses = s.data.addresses
  cb : state.loadsCb = false → t.cb = s.cb
  serves : t.state.serves t.currentOpcode = true

theorem Keeps.ite {a b : WbPlc} {p : Prop} [Decidable p] (ha : Keeps state s a)
    (hb : Keeps state s b) : Keeps state s (if p then a else b) := by
  by_cases hp : p
  · rwa [if_pos hp]
  · rwa [if_neg hp]

variable {i : In}

theorem perform_keeps {a : Action} (h : Executes s a)
    (hserves : s.state.serves s.currentOpcode = true) :
    Keeps s.state s ((s.latch i).perform s a) := by
  have hop : ((s.latch i).perform s a).operands = s.operands := perform_operands (s.latch i) s a
  refine ⟨fun hset => ?_, fun _ => congrArg Operands.cb hop, ?_⟩
  · cases h with
    | move finish _ haddr => cases finish <;> exact haddr hset
    | fault finish _ _ haddr => cases finish <;> exact haddr hset
    | _ => rfl
  · cases h with
    | wait => exact hserves
    | startRead => exact hserves
    | startWrite => exact hserves
    | move finish hs => cases finish <;> exact hs
    | fault finish => cases finish <;> rfl
    | startFloatOp hst => rw [hst] at hserves; exact hserves
    | capture | halted | faulted => rfl

variable {take : UInt8 → WbPlc → WbPlc}

theorem fetchByte_keeps (hserves : s.state.serves s.currentOpcode = true)
    (htake : ∀ b t, t.currentOpcode = s.currentOpcode → Keeps state t (take b t)) :
    Keeps state s (fetchByte i s take) := by
  unfold fetchByte
  refine .ite ?_ (.ite ⟨fun _ => rfl, fun _ => rfl, hserves⟩
    (.ite ?_ ⟨fun _ => rfl, fun _ => rfl, hserves⟩))
  · have h := htake (pickByte s.cachedWord.data s.codeAddr)
      { s with currentPc := s.currentPc + 1 } rfl
    exact ⟨h.1, h.2, h.3⟩
  · have h := htake (pickByte i.dat s.codeAddr) { s.finishBusCycle with
        cachedWord := ⟨true, s.codeWordAddr, i.dat⟩
        currentPc := s.currentPc + 1 } rfl
    exact ⟨h.1, h.2, h.3⟩

theorem fetchOperandByte_keeps {taken : UInt32} (hserves : s.state.serves s.currentOpcode = true)
    (htake : ∀ b t, t.currentOpcode = s.currentOpcode → Keeps state t (take b t)) :
    Keeps state s (fetchOperandByte i s taken take) :=
  .ite ⟨fun _ => rfl, fun _ => rfl, rfl⟩ (fetchByte_keeps hserves htake)

theorem readCb_keeps {addr : UInt32} {done : UInt32 → WbPlc → WbPlc}
    (hserves : s.state.serves s.currentOpcode = true) (hdone : ∀ w t, Keeps state t (done w t)) :
    Keeps state s (readCb i s addr done) := by
  refine .ite ⟨fun _ => rfl, fun _ => rfl, hserves⟩
    (.ite ?_ ⟨fun _ => rfl, fun _ => rfl, hserves⟩)
  have h := hdone i.dat s.finishBusCycle
  exact ⟨h.1, h.2, h.3⟩

theorem startDivision_keeps (i : In) (old s : WbPlc) (wait : SlotWait) :
    Keeps state s (startDivision i old s wait) :=
  .ite ⟨fun _ => rfl, fun _ => rfl, rfl⟩ ⟨fun _ => rfl, fun _ => rfl, rfl⟩

theorem decode_executes (s : WbPlc) : Executes s (decode s) := by
  unfold decode
  cases hfetch : decodeFetch s.currentOpcode with
  | some state => exact .move false (decodeFetch_serves hfetch) fun _ => rfl
  | none =>
    have h := decodeExecute_decoded s
    generalize decodeExecute s = a at h
    cases h with
    | fault code info => exact .fault false code info fun _ => rfl
    | next stack => exact .move false rfl fun _ => rfl
    | float h => exact .move false h fun _ => rfl
    | halt => exact .move false rfl fun _ => rfl

theorem stepSlotCheck_keeps (s : WbPlc) : Keeps state s (stepSlotCheck s) :=
  .ite ⟨fun _ => rfl, fun _ => rfl, rfl⟩
    (.ite ⟨fun _ => rfl, fun _ => rfl, rfl⟩ ⟨fun _ => rfl, fun _ => rfl, rfl⟩)

theorem stepSlotResume_keeps (i : In) (old s : WbPlc) : Keeps state s (stepSlotResume i old s) := by
  unfold stepSlotResume
  dsimp only
  split
  · exact startDivision_keeps ..
  · exact .ite ⟨fun _ => rfl, fun _ => rfl, rfl⟩ ⟨fun _ => rfl, fun _ => rfl, rfl⟩
  · exact ⟨fun _ => rfl, fun _ => rfl, rfl⟩

theorem branchConditional_keeps (s : WbPlc) (taken : Bool) :
    Keeps state s (branchConditional s taken) :=
  .ite ⟨fun _ => rfl, fun _ => rfl, rfl⟩ (.ite ⟨fun _ => rfl, fun _ => rfl, rfl⟩
    (.ite ⟨fun _ => rfl, fun _ => rfl, rfl⟩ ⟨fun _ => rfl, fun _ => rfl, rfl⟩))

theorem stepBranchExecute_keeps (s : WbPlc) : Keeps state s (stepBranchExecute s) := by
  unfold stepBranchExecute
  dsimp only
  split
  · exact .ite ⟨fun _ => rfl, fun _ => rfl, rfl⟩ ⟨fun _ => rfl, fun _ => rfl, rfl⟩
  · exact branchConditional_keeps ..
  · exact branchConditional_keeps ..
  · exact ⟨fun _ => rfl, fun _ => rfl, rfl⟩

theorem stepNextSlot_keeps (i : In) (old s : WbPlc) : Keeps state s (stepNextSlot i old s) :=
  .ite (.ite ⟨fun _ => rfl, fun _ => rfl, rfl⟩ ⟨fun _ => rfl, fun _ => rfl, rfl⟩)
    ⟨fun _ => rfl, fun _ => rfl, rfl⟩

theorem stepIdle_keeps {old : WbPlc} (hidle : s.state = .idle) :
    Keeps .idle s (stepIdle i old s) := by
  have hserves : s.state.serves s.currentOpcode = true := by rw [hidle]; rfl
  exact .ite ⟨fun _ => rfl, fun _ => rfl, hserves⟩ (.ite ⟨fun _ => rfl, fun _ => rfl, rfl⟩
    (.ite ⟨fun _ => rfl, fun _ => rfl, hserves⟩ ⟨fun _ => rfl, fun _ => rfl, rfl⟩))

theorem step_keeps (i : In) (h : s.state.serves s.currentOpcode = true) :
    Keeps s.state s (s.step i) := by
  have hl : (s.latch i).state = s.state := rfl
  have hlatch : ∀ {t : WbPlc}, Keeps s.state (s.latch i) t → Keeps s.state s t :=
    fun hk => ⟨hk.1, hk.2, hk.3⟩
  have hservesLatch : (s.latch i).state.serves (s.latch i).currentOpcode = true := h
  unfold WbPlc.step
  dsimp only
  rw [hl]
  cases hst : s.state
  all_goals rw [hst] at hlatch h
  case idle => exact hlatch (stepIdle_keeps hst)
  case slotCheck => exact hlatch (stepSlotCheck_keeps _)
  case slotResume => exact hlatch (stepSlotResume_keeps ..)
  case branchExecute => exact hlatch (stepBranchExecute_keeps _)
  case nextSlot => exact hlatch (stepNextSlot_keeps ..)
  case decode =>
    have hperform := perform_keeps (i := i) (decode_executes s) (by rw [hst]; rfl)
    rw [hst] at hperform
    exact .ite (hlatch (startDivision_keeps ..)) hperform
  case fetchOpcode =>
    exact hlatch (.ite ⟨fun _ => rfl, fun _ => rfl, rfl⟩ (.ite ⟨fun _ => rfl, fun _ => rfl, rfl⟩
      (fetchByte_keeps hservesLatch fun _ _ _ => ⟨fun _ => rfl, fun _ => rfl, rfl⟩)))
  case fetchOperand0 | fetchImmediate0 | fetchImmediate2 =>
    exact hlatch (fetchOperandByte_keeps hservesLatch fun _ t ht =>
      ⟨fun _ => rfl, fun _ => rfl, (congrArg (State.serves · _) ht).trans h⟩)
  case fetchOperand1 =>
    exact hlatch (fetchOperandByte_keeps hservesLatch fun _ t ht =>
      ⟨fun _ => rfl, fun _ => rfl, afterOperand1_serves ((congrArg (State.serves · _) ht).trans h)⟩)
  case fetchImmediate1 =>
    exact hlatch (fetchOperandByte_keeps hservesLatch fun _ t ht =>
      ⟨fun _ => rfl, fun _ => rfl,
        afterImmediate1_serves ((congrArg (State.serves · _) ht).trans h)⟩)
  case fetchImmediate3 =>
    exact hlatch (fetchOperandByte_keeps hservesLatch fun _ t ht =>
      ⟨fun _ => rfl, fun _ => rfl,
        afterImmediate3_serves ((congrArg (State.serves · _) ht).trans h)⟩)
  case readCbMagic | readCbHeader =>
    refine hlatch (readCb_keeps hservesLatch fun _ _ => ⟨fun _ => rfl, fun _ => rfl, ?_⟩)
    dsimp only
    split <;> rfl
  case readCbControl | readCbStatus | readCbPc | readCbCycle | readCbCodeBase | readCbCodeSize |
      readCbTimerBase | readCbTimerCount | readCbMaxInstr | readSlotScratchBase =>
    exact hlatch (readCb_keeps hservesLatch fun _ _ => ⟨fun _ => rfl, fun hn => (by cases hn), rfl⟩)
  all_goals
    have hperform := perform_keeps (i := i)
      (execute_executes i (by rw [hst]; rfl) (by rw [hst]; exact h))
      (by rw [hst]; exact h)
    rw [hst] at hperform
    exact hperform

theorem step_operands (i : In) (hacts : s.state.acts = true) :
    (s.step i).operands = s.operands := by
  have hl : (s.latch i).state = s.state := rfl
  have hperform : ((s.latch i).perform s (execute i s)).operands = s.operands :=
    perform_operands (s.latch i) s (execute i s)
  unfold WbPlc.step
  dsimp only
  rw [hl]
  generalize s.state = state at hacts
  cases state <;> cases hacts <;> exact hperform

/-- How the fetch hands an instruction over to the states that execute it. -/
inductive Enters (opcode : UInt8) : State → Prop
  | operand1 : Enters opcode (afterOperand1 opcode)
  | immediate1 : Enters opcode (afterImmediate1 opcode)
  | immediate3 : Enters opcode (afterImmediate3 opcode)
  | float (h : opcodeIsFloatOp opcode = true) : Enters opcode .floatOpStart

/-- A machine that executes has just entered its instruction. -/
def Entered (t : WbPlc) : Prop := t.state.executes = true → Enters t.currentOpcode t.state

theorem entered_of_not {t : WbPlc} (h : t.state.executes = false) : Entered t :=
  fun hexec => by cases h.symm.trans hexec

theorem Entered.ite {a b : WbPlc} {p : Prop} [Decidable p] (ha : Entered a) (hb : Entered b) :
    Entered (if p then a else b) := by
  by_cases hp : p
  · rwa [if_pos hp]
  · rwa [if_neg hp]

theorem fetchByte_entered (hexec : s.state.executes = false) (htake : ∀ b t, Entered (take b t)) :
    Entered (fetchByte i s take) :=
  .ite (htake _ _) (.ite (entered_of_not hexec) (.ite (htake _ _) (entered_of_not hexec)))

theorem fetchOperandByte_entered {taken : UInt32} (hexec : s.state.executes = false)
    (htake : ∀ b t, Entered (take b t)) : Entered (fetchOperandByte i s taken take) :=
  .ite (entered_of_not rfl) (fetchByte_entered hexec htake)

theorem readCb_entered {addr : UInt32} {done : UInt32 → WbPlc → WbPlc}
    (hexec : s.state.executes = false)
    (hdone : ∀ w t, Entered (done w t)) : Entered (readCb i s addr done) :=
  .ite (entered_of_not hexec) (.ite (hdone _ _) (entered_of_not hexec))

theorem decodeFetch_executes (h : decodeFetch opcode = some state) : state.executes = false := by
  unfold decodeFetch at h
  split at h
  · obtain rfl := Option.some.inj h
    rfl
  · split at h
    · obtain rfl := Option.some.inj h
      rfl
    · cases h

theorem stepDecode_entered (i : In) (s : WbPlc) : Entered (stepDecode i s (s.latch i)) := by
  refine .ite (.ite (entered_of_not rfl) (entered_of_not rfl)) ?_
  unfold decode
  cases hfetch : decodeFetch s.currentOpcode with
  | some state => exact entered_of_not (decodeFetch_executes hfetch)
  | none =>
    have h := decodeExecute_decoded s
    generalize decodeExecute s = a at h
    cases h with
    | fault code info => exact entered_of_not rfl
    | next stack => exact entered_of_not rfl
    | float h => exact fun _ => .float h
    | halt => exact entered_of_not rfl

theorem stepSlotResume_entered (i : In) (old s : WbPlc) : Entered (stepSlotResume i old s) := by
  unfold stepSlotResume
  dsimp only
  split
  · exact .ite (entered_of_not rfl) (entered_of_not rfl)
  · exact .ite (entered_of_not rfl) (entered_of_not rfl)
  · exact entered_of_not rfl

theorem stepBranchExecute_entered (s : WbPlc) : Entered (stepBranchExecute s) := by
  unfold stepBranchExecute branchConditional
  dsimp only
  repeat' split
  all_goals exact entered_of_not rfl

theorem perform_ends (h : s.state.ends = true) :
    ((s.latch i).perform s (execute i s)).state.executes = false := by
  have hl : (s.latch i).state = s.state := rfl
  unfold execute writeThen writeWord
  generalize hst : s.state = state at h
  cases state <;> cases h
  all_goals
    dsimp only
    split
    · rw [WbPlc.perform, WbPlc.startWrite, hl, hst]; rfl
    · split
      · rfl
      · rw [WbPlc.perform, hl, hst]; rfl

theorem step_entered (i : In) (hexec : s.state.executes = false) : Entered (s.step i) := by
  have hl : (s.latch i).state = s.state := rfl
  have hexec' : (s.latch i).state.executes = false := hexec
  unfold WbPlc.step
  dsimp only
  rw [hl]
  cases hst : s.state
  all_goals rw [hst] at hexec
  case idle =>
    have hidle : (s.latch i).finishBusCycle.state.executes = false := hexec'
    exact .ite (entered_of_not hidle) (.ite (entered_of_not rfl)
      (.ite (entered_of_not hidle) (entered_of_not rfl)))
  case slotCheck =>
    exact .ite (entered_of_not rfl) (.ite (entered_of_not rfl) (entered_of_not rfl))
  case slotResume => exact stepSlotResume_entered i s _
  case branchExecute => exact stepBranchExecute_entered _
  case nextSlot =>
    exact .ite (.ite (entered_of_not rfl) (entered_of_not rfl)) (entered_of_not rfl)
  case decode => exact stepDecode_entered i s
  case fetchOpcode =>
    exact .ite (entered_of_not rfl) (.ite (entered_of_not rfl)
      (fetchByte_entered hexec' fun _ _ => entered_of_not rfl))
  case fetchOperand1 => exact fetchOperandByte_entered hexec' fun _ _ _ => .operand1
  case fetchImmediate1 => exact fetchOperandByte_entered hexec' fun _ _ _ => .immediate1
  case fetchImmediate3 => exact fetchOperandByte_entered hexec' fun _ _ _ => .immediate3
  case fetchOperand0 | fetchImmediate0 | fetchImmediate2 =>
    exact fetchOperandByte_entered hexec' fun _ _ => entered_of_not rfl
  case readCbMagic | readCbHeader =>
    refine readCb_entered hexec' fun _ _ => entered_of_not ?_
    dsimp only
    split <;> rfl
  case readCbControl | readCbStatus | readCbPc | readCbCycle | readCbCodeBase | readCbCodeSize |
      readCbTimerBase | readCbTimerCount | readCbMaxInstr | readSlotScratchBase =>
    exact readCb_entered hexec' fun _ _ => entered_of_not rfl
  case haltWriteStatus | haltWritePc | haltWriteCycle | faultWriteStatus | faultWriteCode |
      faultWriteInfo =>
    exact entered_of_not (perform_ends (by rw [hst]; rfl))
  all_goals cases hexec

theorem step_enters (i : In) (hbus : s.OnBus) (hexec : s.state.executes = false)
    (h : (s.step i).state.executes = true) :
    (s.step i).bus.cyc = false ∧ Enters (s.step i).currentOpcode (s.step i).state := by
  refine ⟨?_, step_entered i hexec h⟩
  have hstep := step_busStep i hbus
  generalize s.step i = t at hstep h
  cases hstep with
  | start => cases hexec.symm.trans h
  | wait => cases hexec.symm.trans h
  | free _ hcyc => exact hcyc

end NodeNet.Vm

import NodeNet.Vm.Step

/-! What the cycles of an executing instruction leave alone, and where they lead. -/
namespace NodeNet.Vm

def State.executes : State → Bool
  | .pushI16Value | .pushWide32Value | .floatOpStart | .floatOpWait | .readDesc0 | .readDesc1
  | .loadBoolValue | .storeBoolReadValue | .storeBoolWriteValue0
  | .storeBoolWriteStatus0 | .storeBoolWriteStatus1 | .storeBoolWriteStatus2
  | .storeBoolWriteStatus3 | .int16ReadValue | .int16WriteValue0 | .wide32ReadValue
  | .wide32WriteValue0 | .int16WriteStatus0 | .int16WriteStatus1 | .int16WriteStatus2
  | .int16WriteStatus3 | .edgeReadValue | .edgeReadPrevWord | .edgeReadValidWord
  | .edgeWritePrevWord | .edgeWriteValidWord | .timerPrepStart | .timerReadWord0
  | .timerReadWord1 | .timerReadFlags | .timerWriteWord0 | .timerWriteWord1 | .timerWriteFlags
  | .counterPrepStart | .counterReadWord0 | .counterReadWord1 | .counterReadFlags
  | .counterWriteWord0 | .counterWriteWord1 | .counterWriteFlags => true
  | _ => false

def State.offBus : State → Bool
  | .pushI16Value | .pushWide32Value | .floatOpStart | .floatOpWait | .readDesc0 | .readDesc1
  | .storeBoolWriteStatus3 | .int16WriteStatus3 | .timerPrepStart | .counterPrepStart => true
  | _ => false

def State.ends : State → Bool
  | .haltWriteStatus | .haltWritePc | .haltWriteCycle
  | .faultWriteStatus | .faultWriteCode | .faultWriteInfo => true
  | _ => false

/-- The actions of an executing state; one that starts no bus cycle need not finish one. -/
inductive Continues (offBus : Bool) : Action → Prop
  | wait : Continues offBus .wait
  | startRead (h : offBus = false) (addr : UInt32) : Continues offBus (.startRead addr)
  | startWrite (h : offBus = false) (addr data : UInt32) : Continues offBus (.startWrite addr data)
  | move {finish : Bool} {state : State} (hf : finish = true ∨ offBus = true)
      (hs : state.executes = true) (data : Datapath) : Continues offBus (.move finish state data)
  | next {finish : Bool} (hf : finish = true ∨ offBus = true) (data : Datapath) :
      Continues offBus (.move finish .fetchOpcode data)
  | fault (finish : Bool) (code info : UInt32) (data : Datapath) :
      Continues offBus (.fault finish code info data)
  | startFloatOp (h : offBus = true) : Continues offBus .startFloatOp
  | capture (h : offBus = true) (offsetQ16 : BitVec 13) : Continues offBus (.capture offsetQ16)

namespace Continues
variable {offBus : Bool} {s : WbPlc}

theorem ite {p : Prop} [Decidable p] {a b : Action} (ha : Continues offBus a)
    (hb : Continues offBus b) : Continues offBus (if p then a else b) := by
  by_cases hp : p
  · rwa [if_pos hp]
  · rwa [if_neg hp]

theorem readWord {i : In} {addr : UInt32} {done : UInt32 → Action} (h : offBus = false)
    (hdone : ∀ word, Continues offBus (done word)) : Continues offBus (readWord i s addr done) :=
  .ite (.startRead h addr) (.ite (hdone _) .wait)

theorem writeThen {i : In} {addr data : UInt32} {state : State} (h : offBus = false)
    (hs : state.executes = true ∨ state = .fetchOpcode) :
    Continues offBus (writeThen i s addr data state) := by
  refine .ite (.startWrite h addr data) (.ite ?_ .wait)
  rcases hs with hs | rfl
  · exact .move (.inl rfl) hs _
  · exact .next (.inl rfl) _

theorem withEntry {a : Action} (h : Continues offBus a) : Continues offBus (withEntry s a) :=
  .ite (.fault ..) h

theorem push {finish : Bool} (hf : finish = true ∨ offBus = true) (value : UInt32)
    (type : StackType) : Continues offBus (pushOrOverflow s finish value type) :=
  .ite (.fault ..) (.next hf _)

theorem popPending {type : StackType} {info : UInt32} {state : State} {kept popped : Datapath}
    (h : offBus = true) (hs : state.executes = true) :
    Continues offBus (popPending s type info state kept popped) :=
  .ite (.fault ..) (.ite (.fault ..) (.move (.inr h) hs _))

end Continues

theorem readDesc1_continues (s : WbPlc) : Continues true (readDesc1 s) := by
  unfold readDesc1
  dsimp only
  refine .ite (.ite (.fault ..) (.move (.inr rfl) rfl _)) (.ite (.fault ..) ?_)
  split
  all_goals first
    | exact .fault ..
    | exact .move (.inr rfl) rfl _
    | exact .popPending rfl rfl

theorem timerReadFlags_continues (i : In) (s : WbPlc) (flags : UInt32) :
    Continues false (timerReadFlags i s flags) :=
  .ite (.next (.inl rfl) _)
    (.ite (.next (.inl rfl) _) (.ite (.next (.inl rfl) _) (.move (.inl rfl) rfl _)))

theorem counterReadFlags_continues (s : WbPlc) (flags : UInt32) :
    Continues false (counterReadFlags s flags) :=
  .ite (.next (.inl rfl) _) (.ite (.next (.inl rfl) _) (.move (.inl rfl) rfl _))

theorem edgeReadValue_continues (s : WbPlc) (value : UInt32) :
    Continues false (edgeReadValue s value) :=
  .ite (.fault ..) (.ite (.fault ..) (.ite (.fault ..) (.move (.inl rfl) rfl _)))

theorem int16ReadValue_continues (s : WbPlc) (value : UInt32) :
    Continues false (int16ReadValue s value) :=
  .ite (.push (.inl rfl) ..) (.ite (.move (.inl rfl) rfl _) (.move (.inl rfl) rfl _))

theorem wide32ReadValue_continues (s : WbPlc) (value : UInt32) :
    Continues false (wide32ReadValue s value) := by
  unfold wide32ReadValue
  split
  all_goals first
    | exact .push (.inl rfl) ..
    | refine .move (.inl rfl) ?_ _
  split <;> rfl

theorem execute_continues (i : In) (s : WbPlc) (h : s.state.executes = true) :
    Continues s.state.offBus (execute i s) := by
  unfold execute
  generalize s.state = state at h
  cases state <;> cases h
  case floatOpWait => exact .ite .wait (.ite (.fault ..) (.next (.inr rfl) _))
  case timerReadWord0 | counterReadWord0 =>
    exact .withEntry (.ite (.fault ..) (.readWord rfl fun _ => .move (.inl rfl) rfl _))
  case timerReadFlags => exact .withEntry (.readWord rfl (timerReadFlags_continues i s))
  case counterReadFlags => exact .withEntry (.readWord rfl (counterReadFlags_continues s))
  case edgeReadValue => exact .readWord rfl (edgeReadValue_continues s)
  case int16ReadValue => exact .readWord rfl (int16ReadValue_continues s)
  case wide32ReadValue => exact .readWord rfl (wide32ReadValue_continues s)
  case storeBoolReadValue =>
    refine .readWord rfl fun _ => .move (.inl rfl) ?_ _
    split <;> rfl
  all_goals first
    | exact .writeThen rfl (.inl rfl)
    | exact .writeThen rfl (.inr rfl)
    | exact .withEntry (.writeThen rfl (.inl rfl))
    | exact .withEntry (.writeThen rfl (.inr rfl))
    | exact .withEntry (.popPending rfl rfl)
    | exact .withEntry (.readWord rfl fun _ => .move (.inl rfl) rfl _)
    | exact .readWord rfl fun _ => .move (.inl rfl) rfl _
    | exact .readWord rfl fun _ => .push (.inl rfl) ..
    | exact .push (.inr rfl) ..
    | exact .move (.inr rfl) rfl _
    | exact .capture rfl _
    | exact .startFloatOp rfl
    | exact readDesc1_continues s

/-- States that can change what the active slot waits for. -/
def State.suspends : State → Bool
  | .decode | .slotResume => true
  | _ => false

/-- The machine stays at the slot; unless it suspends, no slot's wait changes. -/
structure SameSlot (suspends : Bool) (s t : WbPlc) : Prop where
  activeSlot : t.activeSlot = s.activeSlot
  controlBlockAddr : t.controlBlockAddr = s.controlBlockAddr
  waits : ∀ j, (suspends = true → j ≠ s.activeSlot) → t.slotWait j = s.slotWait j

section
variable {suspends : Bool}

theorem SameSlot.of_eq {s t : WbPlc} (hslot : t.activeSlot = s.activeSlot)
    (haddr : t.controlBlockAddr = s.controlBlockAddr) (hwait : t.slotWait = s.slotWait) :
    SameSlot suspends s t :=
  ⟨hslot, haddr, fun _ _ => by rw [hwait]⟩

theorem SameSlot.ite {s a b : WbPlc} {p : Prop} [Decidable p] (ha : SameSlot suspends s a)
    (hb : SameSlot suspends s b) : SameSlot suspends s (if p then a else b) := by
  by_cases hp : p
  · rwa [if_pos hp]
  · rwa [if_neg hp]

theorem perform_sameSlot (s old : WbPlc) (a : Action) : SameSlot suspends s (s.perform old a) := by
  cases a
  case move finish _ _ | fault finish _ _ _ => cases finish <;> exact .of_eq rfl rfl rfl
  all_goals exact .of_eq rfl rfl rfl

theorem fetchByte_sameSlot (i : In) (s : WbPlc) (take : UInt8 → WbPlc → WbPlc)
    (htake : ∀ b s, SameSlot suspends s (take b s)) : SameSlot suspends s (fetchByte i s take) := by
  unfold fetchByte
  refine .ite ?_ (.ite (.of_eq rfl rfl rfl) (.ite ?_ (.of_eq rfl rfl rfl)))
  · have h := htake (pickByte s.cachedWord.data s.codeAddr) { s with currentPc := s.currentPc + 1 }
    exact ⟨h.1, h.2, h.3⟩
  · have h := htake (pickByte i.dat s.codeAddr) { s.finishBusCycle with
        cachedWord := ⟨true, s.codeWordAddr, i.dat⟩
        currentPc := s.currentPc + 1 }
    exact ⟨h.1, h.2, h.3⟩

theorem fetchOperandByte_sameSlot (i : In) (s : WbPlc) (taken : UInt32)
    (take : UInt8 → WbPlc → WbPlc)
    (htake : ∀ b s, SameSlot suspends s (take b s)) :
    SameSlot suspends s (fetchOperandByte i s taken take) :=
  .ite (.of_eq rfl rfl rfl) (fetchByte_sameSlot i s take htake)

theorem readCb_sameSlot (i : In) (s : WbPlc) (addr : UInt32) (done : UInt32 → WbPlc → WbPlc)
    (hdone : ∀ w s, SameSlot suspends s (done w s)) :
    SameSlot suspends s (readCb i s addr done) := by
  refine .ite (.of_eq rfl rfl rfl) (.ite ?_ (.of_eq rfl rfl rfl))
  have h := hdone i.dat s.finishBusCycle
  exact ⟨h.1, h.2, h.3⟩

theorem startDivision_sameSlot (i : In) (old s : WbPlc) (wait : SlotWait) :
    SameSlot true s (startDivision i old s wait) :=
  .ite ⟨rfl, rfl, fun _ hj => if_neg (hj rfl)⟩ ⟨rfl, rfl, fun _ hj => if_neg (hj rfl)⟩

theorem stepSlotResume_sameSlot (i : In) (old s : WbPlc) :
    SameSlot true s (stepSlotResume i old s) := by
  unfold stepSlotResume
  dsimp only
  split
  · exact startDivision_sameSlot ..
  · exact .ite ⟨rfl, rfl, fun _ hj => if_neg (hj rfl)⟩ (.of_eq rfl rfl rfl)
  · exact .of_eq rfl rfl rfl

theorem branchConditional_sameSlot (s : WbPlc) (taken : Bool) :
    SameSlot suspends s (branchConditional s taken) :=
  .ite (.of_eq rfl rfl rfl)
    (.ite (.of_eq rfl rfl rfl) (.ite (.of_eq rfl rfl rfl) (.of_eq rfl rfl rfl)))

theorem stepBranchExecute_sameSlot (s : WbPlc) : SameSlot suspends s (stepBranchExecute s) := by
  unfold stepBranchExecute
  dsimp only
  split
  · exact .ite (.of_eq rfl rfl rfl) (.of_eq rfl rfl rfl)
  · exact branchConditional_sameSlot ..
  · exact branchConditional_sameSlot ..
  · exact .of_eq rfl rfl rfl

end

theorem step_sameSlot (s : WbPlc) (i : In) (hidle : s.state ≠ .idle) (hnext : s.state ≠ .nextSlot) :
    SameSlot s.state.suspends s (s.step i) := by
  have hl : (s.latch i).state = s.state := rfl
  suffices h : SameSlot s.state.suspends (s.latch i) (s.step i) from ⟨h.1, h.2, h.3⟩
  unfold WbPlc.step
  dsimp only
  rw [hl]
  generalize s.state = state at hidle hnext
  cases state
  case idle => exact absurd rfl hidle
  case nextSlot => exact absurd rfl hnext
  case slotCheck => exact .ite (.of_eq rfl rfl rfl) (.ite (.of_eq rfl rfl rfl) (.of_eq rfl rfl rfl))
  case fetchOpcode =>
    exact .ite (.of_eq rfl rfl rfl) (.ite (.of_eq rfl rfl rfl)
      (fetchByte_sameSlot _ _ _ fun _ _ => .of_eq rfl rfl rfl))
  case decode => exact .ite (startDivision_sameSlot ..) (perform_sameSlot ..)
  case slotResume => exact stepSlotResume_sameSlot ..
  case branchExecute => exact stepBranchExecute_sameSlot _
  all_goals first
    | exact perform_sameSlot ..
    | exact readCb_sameSlot _ _ _ _ fun _ _ => .of_eq rfl rfl rfl
    | exact fetchOperandByte_sameSlot _ _ _ _ fun _ _ => .of_eq rfl rfl rfl

theorem setWait_self (s : WbPlc) (slot : SlotId) (w : SlotWait) :
    (s.setWait slot w).slotWait slot = w :=
  if_pos rfl

/-- States that ask nothing of the slot. -/
def State.sweeps : State → Bool
  | .idle | .nextSlot | .readCbMagic | .readCbHeader | .readCbControl | .readCbStatus => true
  | _ => false

/-- The sweep goes to a slot with its control block address and leaves every wait alone. -/
structure SweepStep (s t : WbPlc) : Prop where
  waits : t.slotWait = s.slotWait
  sweeps : t.state.sweeps = true
  addr : t.state ≠ .idle → t.controlBlockAddr = slotControlBlockAddr t.activeSlot

theorem SweepStep.ite {s a b : WbPlc} {p : Prop} [Decidable p] (ha : SweepStep s a)
    (hb : SweepStep s b) : SweepStep s (if p then a else b) := by
  by_cases hp : p
  · rwa [if_pos hp]
  · rwa [if_neg hp]

theorem step_sweeps {s : WbPlc} {i : In} (h : s.state = .idle ∨ s.state = .nextSlot) :
    SweepStep s (s.step i) := by
  have hl : (s.latch i).state = s.state := rfl
  unfold WbPlc.step
  dsimp only
  rw [hl]
  rcases h with h | h
  · rw [h]
    have hsweeps : s.state.sweeps = true := by rw [h]; rfl
    exact .ite ⟨rfl, hsweeps, fun hn => absurd h hn⟩ (.ite ⟨rfl, rfl, fun _ => rfl⟩
      (.ite ⟨rfl, hsweeps, fun hn => absurd h hn⟩ ⟨rfl, rfl, fun _ => rfl⟩))
  · rw [h]
    exact .ite (.ite ⟨rfl, rfl, fun _ => rfl⟩ ⟨rfl, rfl, fun hn => absurd rfl hn⟩)
      ⟨rfl, rfl, fun _ => rfl⟩

/-- A cycle without a bus answer. -/
def quietIn : In where
  ack := false
  dat := 0
  engineEnable := true
  sdramReady := true
  scanIntervalCycles := 1
  clearFaultRequest := false
  clearDirtyEventValidRequest := false
  clearDirtyEventOverflowRequest := false
  msCounter := 0
  floatOpDone := false
  floatOp := ⟨false, false, false, 0, .none⟩
  fdivBusy := false
  fdivDone := false
  fdivResultValue := 0

def readIns (dat : UInt32) : List In := [quietIn, { quietIn with ack := true, dat := dat }]

end NodeNet.Vm

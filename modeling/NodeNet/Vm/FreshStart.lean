import NodeNet.Core.State
import NodeNet.LoadEffects
import NodeNet.Vm.Addressing
import NodeNet.Vm.SlotAccess

/-! The record that a slot's suspended division left is dead once the slot waits for nothing. -/
namespace NodeNet.Vm
open NodeNet.Machine NodeNet.Bytes NodeNet.ObjectFile NodeNet.Slot NodeNet.Loader NodeNet.Core
open NodeNet.Flash

section
variable {slot : SlotId} {w : SlotWait}

theorem setWait_ite {p : Prop} [Decidable p] (a b : WbPlc) :
    (if p then a else b).setWait slot w = if p then a.setWait slot w else b.setWait slot w := by
  by_cases hp : p
  · rw [if_pos hp, if_pos hp]
  · rw [if_neg hp, if_neg hp]

theorem perform_setWait (s old : WbPlc) (a : Action) :
    (s.setWait slot w).perform (old.setWait slot w) a = (s.perform old a).setWait slot w := by
  cases a
  case move finish _ _ | fault finish _ _ _ => cases finish <;> rfl
  all_goals rfl

theorem readCb_setWait (i : In) (s : WbPlc) (addr : UInt32) {done : UInt32 → WbPlc → WbPlc}
    (hdone : ∀ word s, done word (s.setWait slot w) = (done word s).setWait slot w) :
    readCb i (s.setWait slot w) addr done = (readCb i s addr done).setWait slot w := by
  unfold readCb
  rw [setWait_ite, setWait_ite, ← hdone]
  rfl

theorem fetchByte_setWait (i : In) (s : WbPlc) {take : UInt8 → WbPlc → WbPlc}
    (htake : ∀ byte s, take byte (s.setWait slot w) = (take byte s).setWait slot w) :
    fetchByte i (s.setWait slot w) take = (fetchByte i s take).setWait slot w := by
  unfold fetchByte
  rw [setWait_ite, setWait_ite, setWait_ite, ← htake, ← htake]
  rfl

theorem fetchOperandByte_setWait (i : In) (s : WbPlc) (taken : UInt32)
    {take : UInt8 → WbPlc → WbPlc}
    (htake : ∀ byte s, take byte (s.setWait slot w) = (take byte s).setWait slot w) :
    fetchOperandByte i (s.setWait slot w) taken take =
      (fetchOperandByte i s taken take).setWait slot w := by
  unfold fetchOperandByte
  rw [setWait_ite, ← fetchByte_setWait i s htake]
  rfl

theorem branchConditional_setWait (s : WbPlc) (taken : Bool) :
    branchConditional (s.setWait slot w) taken = (branchConditional s taken).setWait slot w := by
  unfold branchConditional
  simp only [setWait_ite]
  rfl

theorem stepBranchExecute_setWait (s : WbPlc) :
    stepBranchExecute (s.setWait slot w) = (stepBranchExecute s).setWait slot w := by
  unfold stepBranchExecute
  dsimp only
  have hop : (s.setWait slot w).currentOpcode = s.currentOpcode := rfl
  rw [hop]
  split
  · rw [setWait_ite]
    rfl
  · exact branchConditional_setWait ..
  · exact branchConditional_setWait ..
  · rfl

theorem divisionPending_setWait (i : In) (s : WbPlc) (hstate : w.state = (s.slotWait slot).state) :
    divisionPending i (s.setWait slot w) = divisionPending i s := by
  have hwaits : hasPendingSlotWaits (s.setWait slot w).slotWait = hasPendingSlotWaits s.slotWait := by
    unfold hasPendingSlotWaits
    refine congrArg (List.any _) (funext fun n => ?_)
    have heq : ((s.setWait slot w).slotWait (BitVec.ofNat 5 n)).state =
        (s.slotWait (BitVec.ofNat 5 n)).state := by
      by_cases hn : BitVec.ofNat 5 n = slot
      · subst hn
        simp [WbPlc.setWait, hstate]
      · simp [WbPlc.setWait, hn]
    rw [heq]
  rw [divisionPending, hwaits]
  rfl

theorem stepIdle_setWait (i : In) (old s : WbPlc) (hstate : w.state = (old.slotWait slot).state) :
    stepIdle i (old.setWait slot w) (s.setWait slot w) = (stepIdle i old s).setWait slot w := by
  unfold stepIdle
  simp only [setWait_ite, divisionPending_setWait i old hstate]
  rfl

theorem stepNextSlot_setWait (i : In) (old s : WbPlc)
    (hstate : w.state = (old.slotWait slot).state) :
    stepNextSlot i (old.setWait slot w) (s.setWait slot w) =
      (stepNextSlot i old s).setWait slot w := by
  unfold stepNextSlot
  simp only [setWait_ite, divisionPending_setWait i old hstate]
  rfl

theorem waits_setWait_self (s : WbPlc) (v : SlotWait) :
    ((s.setWait slot w).setWait slot v).slotWait = (s.setWait slot v).slotWait := by
  funext i
  by_cases hi : i = slot <;> simp [WbPlc.setWait, hi]

theorem waits_setWait_comm (s : WbPlc) {slot' : SlotId} (v : SlotWait) (h : slot' ≠ slot) :
    ((s.setWait slot w).setWait slot' v).slotWait =
      ((s.setWait slot' v).setWait slot w).slotWait := by
  funext i
  by_cases hi : i = slot'
  · simp [WbPlc.setWait, hi, h]
  · simp [WbPlc.setWait, hi]

theorem startDivision_setWait_self (i : In) (old s : WbPlc) (v : SlotWait)
    (h : s.activeSlot = slot) :
    startDivision i (old.setWait slot w) (s.setWait slot w) v = startDivision i old s v := by
  subst h
  unfold startDivision
  by_cases hfree : (!i.fdivBusy && !old.fdiv.resultValid) = true
  · refine (if_pos hfree).trans (.trans ?_ (if_pos hfree).symm)
    exact congrArg (fun f => { s with
      slotWait := f
      fdiv := { s.fdiv with start := true, ownerSlot := s.activeSlot }
      state := .nextSlot }) (waits_setWait_self s { v with state := .fdivDone })
  · refine (if_neg hfree).trans (.trans ?_ (if_neg hfree).symm)
    exact congrArg (fun f => { s with slotWait := f, state := .nextSlot })
      (waits_setWait_self s { v with state := .fdivStart })

theorem startDivision_setWait (i : In) (old s : WbPlc) (v : SlotWait) (h : s.activeSlot ≠ slot) :
    startDivision i (old.setWait slot w) (s.setWait slot w) v =
      (startDivision i old s v).setWait slot w := by
  unfold startDivision
  rw [setWait_ite]
  by_cases hfree : (!i.fdivBusy && !old.fdiv.resultValid) = true
  · refine (if_pos hfree).trans (.trans ?_ (if_pos hfree).symm)
    exact congrArg (fun f => { s with
      slotWait := f
      fdiv := { s.fdiv with start := true, ownerSlot := s.activeSlot }
      state := .nextSlot }) (waits_setWait_comm s { v with state := .fdivDone } h)
  · refine (if_neg hfree).trans (.trans ?_ (if_neg hfree).symm)
    exact congrArg (fun f => { s with slotWait := f, state := .nextSlot })
      (waits_setWait_comm s { v with state := .fdivStart } h)

theorem slotWait_setWait_of_ne (s : WbPlc) {j : SlotId} (h : j ≠ slot) :
    (s.setWait slot w).slotWait j = s.slotWait j := if_neg h

theorem stepSlotCheck_setWait (s : WbPlc) (hw : w.state = .none)
    (hdead : (s.slotWait slot).state = .none) :
    stepSlotCheck (s.setWait slot w) = (stepSlotCheck s).setWait slot w := by
  unfold stepSlotCheck
  dsimp only
  by_cases hslot : s.activeSlot = slot
  · have hwait : ((s.setWait slot w).slotWait (s.setWait slot w).activeSlot).state = .none := by
      change ((s.setWait slot w).slotWait s.activeSlot).state = .none
      rw [hslot, setWait_self, hw]
    have hwait' : (s.slotWait s.activeSlot).state = .none := by rw [hslot, hdead]
    simp only [hwait, hwait', ne_eq, not_true_eq_false, if_false, setWait_ite]
    rfl
  · have hwait : (s.setWait slot w).slotWait (s.setWait slot w).activeSlot =
        s.slotWait s.activeSlot := slotWait_setWait_of_ne s hslot
    rw [hwait]
    simp only [setWait_ite]
    rfl

theorem stepSlotResume_setWait (i : In) (old s : WbPlc) (hw : w.state = .none)
    (hdead : (s.slotWait slot).state = .none) :
    stepSlotResume i (old.setWait slot w) (s.setWait slot w) =
      (stepSlotResume i old s).setWait slot w := by
  unfold stepSlotResume
  dsimp only
  by_cases hslot : s.activeSlot = slot
  · have hwait : ((s.setWait slot w).slotWait (s.setWait slot w).activeSlot).state = .none := by
      change ((s.setWait slot w).slotWait s.activeSlot).state = .none
      rw [hslot, setWait_self, hw]
    have hwait' : (s.slotWait s.activeSlot).state = .none := by rw [hslot, hdead]
    rw [hwait, hwait']
    rfl
  · have hwait : (s.setWait slot w).slotWait (s.setWait slot w).activeSlot =
        s.slotWait s.activeSlot := slotWait_setWait_of_ne s hslot
    rw [hwait]
    cases (s.slotWait s.activeSlot).state with
    | none => rfl
    | fdivStart => exact startDivision_setWait i old s _ hslot
    | fdivDone =>
      dsimp only
      rw [setWait_ite]
      by_cases hdone : (old.fdiv.resultValid && old.fdiv.resultSlot = s.activeSlot) = true
      · refine (if_pos hdone).trans (.trans ?_ (if_pos hdone).symm)
        exact congrArg (fun f => { s with
          slotWait := f
          data := { s.data with
            stack := s.data.stack.binaryResult old.fdiv.resultValueLatched .float32 }
          fdiv := { s.fdiv with resultValid := false }
          state := .fetchOpcode })
          (waits_setWait_comm s { s.slotWait s.activeSlot with state := .none } hslot)
      · exact (if_neg hdone).trans (if_neg hdone).symm

def WbPlc.suspendsSlot (s : WbPlc) (slot : SlotId) : Bool :=
  s.state = .decode && s.divides && s.activeSlot = slot

theorem stepDecode_setWait (i : In) (old s : WbPlc)
    (hnot : (s.divides && s.activeSlot = slot) = false) :
    stepDecode i (old.setWait slot w) (s.setWait slot w) =
      (stepDecode i old s).setWait slot w := by
  unfold stepDecode
  have hdivides : (s.setWait slot w).divides = s.divides := rfl
  rw [hdivides]
  cases hdiv : s.divides with
  | false => exact perform_setWait s old _
  | true =>
    rw [hdiv] at hnot
    have hslot : s.activeSlot ≠ slot := by simpa using hnot
    exact startDivision_setWait i old s _ hslot

theorem stepDecode_setWait_self (i : In) (old s : WbPlc)
    (hsuspends : (s.divides && s.activeSlot = slot) = true) :
    stepDecode i (old.setWait slot w) (s.setWait slot w) = stepDecode i old s := by
  simp only [Bool.and_eq_true, decide_eq_true_eq] at hsuspends
  unfold stepDecode
  have hdivides : (s.setWait slot w).divides = s.divides := rfl
  rw [hdivides, if_pos hsuspends.1, if_pos hsuspends.1]
  exact startDivision_setWait_self i old s _ hsuspends.2

theorem step_setWait {s : WbPlc} (i : In) (hw : w.state = .none)
    (hdead : (s.slotWait slot).state = .none) (hnot : s.suspendsSlot slot = false) :
    (s.setWait slot w).step i = (s.step i).setWait slot w := by
  have hstate : w.state = (s.slotWait slot).state := hw.trans hdead.symm
  by_cases hacts : s.state.acts = true
  · have hexecute : execute i (s.setWait slot w) = execute i s := rfl
    rw [step_of_acts i hacts, step_of_acts i (s := s.setWait slot w) hacts, hexecute]
    exact perform_setWait (s.latch i) s (execute i s)
  have hl : (s.latch i).state = s.state := rfl
  have hl' : ((s.setWait slot w).latch i).state = s.state := rfl
  unfold WbPlc.step
  dsimp only
  rw [hl, hl']
  cases hst : s.state
  case idle => exact stepIdle_setWait i s (s.latch i) hstate
  case nextSlot => exact stepNextSlot_setWait i s (s.latch i) hstate
  case slotCheck => exact stepSlotCheck_setWait (s.latch i) hw hdead
  case slotResume => exact stepSlotResume_setWait i s (s.latch i) hw hdead
  case branchExecute => exact stepBranchExecute_setWait (s.latch i)
  case decode =>
    have hnot' : (s.divides && s.activeSlot = slot) = false := by
      simpa only [WbPlc.suspendsSlot, hst, decide_true, Bool.true_and] using hnot
    exact stepDecode_setWait i s (s.latch i) hnot'
  case fetchOpcode =>
    dsimp only
    unfold stepFetchOpcode
    rw [setWait_ite, setWait_ite, ← fetchByte_setWait i (s.latch i) fun _ _ => rfl]
    rfl
  case fetchOperand0 | fetchOperand1 | fetchImmediate0 | fetchImmediate1 | fetchImmediate2
    | fetchImmediate3 =>
    exact fetchOperandByte_setWait i (s.latch i) _ fun _ _ => rfl
  case readCbMagic | readCbHeader | readCbControl | readCbStatus | readCbPc | readCbCycle
    | readCbCodeBase | readCbCodeSize | readCbTimerBase | readCbTimerCount | readCbMaxInstr
    | readSlotScratchBase =>
    exact readCb_setWait i (s.latch i) _ fun _ _ => rfl
  all_goals
    rw [hst] at hacts
    exact absurd rfl hacts

theorem step_setWait_self {s : WbPlc} (i : In) (hsuspends : s.suspendsSlot slot = true) :
    (s.setWait slot w).step i = s.step i := by
  simp only [WbPlc.suspendsSlot, Bool.and_assoc, Bool.and_eq_true, decide_eq_true_eq] at hsuspends
  obtain ⟨hst, hself⟩ := hsuspends
  have hl : (s.latch i).state = .decode := hst
  have hl' : ((s.setWait slot w).latch i).state = .decode := hst
  unfold WbPlc.step
  dsimp only
  rw [hl, hl']
  have hself' : (s.divides && s.activeSlot = slot) = true := by simpa using hself
  exact stepDecode_setWait_self i s (s.latch i) hself'

theorem step_wait_of_dead {s : WbPlc} (i : In) (hdead : (s.slotWait slot).state = .none)
    (hnot : s.suspendsSlot slot = false) : (s.step i).slotWait slot = s.slotWait slot := by
  by_cases hsweep : s.state = .idle ∨ s.state = .nextSlot
  · exact congrFun (step_sweeps hsweep).waits slot
  · have hsweep' := not_or.mp hsweep
    have hsame := step_sameSlot s i hsweep'.1 hsweep'.2
    by_cases hself : s.state.suspends = true ∧ s.activeSlot = slot
    · obtain ⟨hsuspends, hslot⟩ := hself
      have hl : (s.latch i).state = s.state := rfl
      unfold WbPlc.step
      dsimp only
      rw [hl]
      cases hst : s.state
      case decode =>
        have hdivides : (s.latch i).divides = false := by
          have hdivides : s.divides = false := by
            simpa [WbPlc.suspendsSlot, hst, hslot] using hnot
          exact hdivides
        dsimp only
        unfold stepDecode
        rw [hdivides]
        have hperform : SameSlot false (s.latch i) _ := perform_sameSlot (s.latch i) s (decode s)
        exact hperform.waits slot fun hc => by cases hc
      case slotResume =>
        have hwait : ((s.latch i).slotWait (s.latch i).activeSlot).state = .none := by
          change (s.slotWait s.activeSlot).state = .none
          rw [hslot, hdead]
        dsimp only
        unfold stepSlotResume
        dsimp only
        rw [hwait]
        rfl
      all_goals
        rw [hst] at hsuspends
        cases hsuspends
    · exact hsame.waits slot fun hs heq => hself ⟨hs, heq.symm⟩

end

/-- The machines differ at most in a dead record of the slot. -/
def AgreesBesides (slot : SlotId) (s t : WbPlc) : Prop :=
  t = s ∨ (s.slotWait slot).state = .none ∧ ∃ w : SlotWait, w.state = .none ∧ t = s.setWait slot w

theorem AgreesBesides.step {slot : SlotId} {s t : WbPlc} (h : AgreesBesides slot s t) (i : In) :
    AgreesBesides slot (s.step i) (t.step i) := by
  obtain rfl | ⟨hdead, w, hw, rfl⟩ := h
  · exact .inl rfl
  · cases hsuspends : s.suspendsSlot slot with
    | true => exact .inl (step_setWait_self i hsuspends)
    | false =>
      have hkept := step_wait_of_dead i hdead hsuspends
      exact .inr ⟨by rw [hkept, hdead], w, hw, step_setWait i hw hdead hsuspends⟩

theorem run_agreesBesides {slot : SlotId} {s t : WbPlc} (h : AgreesBesides slot s t)
    (inputs : List In) :
    AgreesBesides slot (run WbPlc.step s inputs) (run WbPlc.step t inputs) := by
  induction inputs generalizing s t with
  | nil => exact h
  | cons i inputs ih => exact ih (h.step i)

/-! The first scan of a slot after a load or a reset. -/

/-- The entry offset that the slot's linked image records. -/
def linkedEntry (m : SlotMemory) (slotId : UInt16) : UInt32 :=
  if m.linkedHeader.magic = kPlcLinkedImageMagicV1 ∧ m.linkedHeader.slotId = slotId then
    m.linkedHeader.entryOffset
  else 0

/-- The control block that a successful load or a reset leaves, and the program's entry offset. -/
inductive Restarts (slotId : UInt16) : PlcProgramControlBlockV1 → UInt32 → Prop
  | load (s : LoaderState) (file : Memory) (size : UInt32)
      (hok : (loadObjectFileIntoSlot s slotId file size).2.status = .Ok) :
      Restarts slotId ((loadObjectFileIntoSlot s slotId file size).1.slots slotId).control
        (readHeader file).entryOffset
  | loadFromFlash (s : LoaderState) (flash : FlashDriver) (flashOffset flashCapacity : UInt32)
      (bytes : Memory) (hbytes : readFromFlash flash flashOffset headerSize = some bytes)
      (hok : (loadObjectFileFromFlash s slotId flash flashOffset flashCapacity).2.status = .Ok) :
      Restarts slotId
        ((loadObjectFileFromFlash s slotId flash flashOffset flashCapacity).1.slots slotId).control
        (readHeader bytes).entryOffset
  | reset (s : LoaderState)
      (haccepted : slotCommandAccepted (s.slots slotId).control slotId .reset = true) :
      Restarts slotId (commandedControl (s.slots slotId) slotId .reset)
        (linkedEntry (s.slots slotId) slotId)

/-- The machine gives the slot a scan. -/
def WbPlc.admits (s : WbPlc) (slot : SlotId) : Bool :=
  s.state = .slotCheck && s.activeSlot = slot && !slotSkipped s.cb

/-- The slot had a scan. -/
def noteAdmitted (slot : SlotId) (s : WbPlc) (_ : In) (admitted : Bool) : Bool :=
  admitted || s.admits slot

/-- The scan begins at the entry offset with nothing on the stack. -/
structure StartsAt (entry : UInt32) (s : WbPlc) : Prop where
  state : s.state = .fetchOpcode
  stack : s.data.stack = .empty
  currentPc : s.currentPc = entry
  entryPc : s.slotEntryPc = entry
  instructionCount : s.instructionCount = 0

/-- The slot's first scan begins at the entry offset with nothing on the stack, and the fields of
the slot's record have no influence on the run. -/
structure StartsFresh (slot : SlotId) (entry : UInt32) (s : WbPlc) (inputs : List In) : Prop where
  first : Along (observed WbPlc.step (noteAdmitted slot))
    (fun p i => p.2 = false → p.1.admits slot = true → StartsAt entry (p.1.step i))
    (s, false) inputs
  independent : ∀ w : SlotWait, w.state = (s.slotWait slot).state →
    AgreesBesides slot (run WbPlc.step s inputs) (run WbPlc.step (s.setWait slot w) inputs)

/-- Until the slot's first scan its control block is read as it was left. -/
def ServesControl (slot : SlotId) (control : PlcProgramControlBlockV1) (p : WbPlc × Bool) (i : In) :
    Prop :=
  p.2 = false → p.1.bus.cyc = true → p.1.bus.we = false → i.ack = true →
    (p.1.bus.adr = slotControlBlockAddr slot + 16 → i.dat = control.pc) ∧
      (p.1.bus.adr = slotControlBlockAddr slot + 36 → i.dat = control.bytecodeSize)

instance (slot : SlotId) (control : PlcProgramControlBlockV1) (p : WbPlc × Bool) (i : In) :
    Decidable (ServesControl slot control p i) :=
  inferInstanceAs (Decidable (_ → _ → _ → _ → _))

def State.beforePc (state : State) : Bool := state.sweeps || state = .readCbPc

/-- The states of a visit between the slot's pc and the check. -/
def State.awaitsCheck : State → Bool
  | .readCbCycle | .readCbCodeBase | .readCbCodeSize | .readCbTimerBase | .readCbTimerCount
  | .readCbMaxInstr | .readSlotScratchBase | .slotCheck => true
  | _ => false

/-- The control and status words that were read skip the slot. -/
def skipFlags (cb : ControlBlock) : Bool :=
  cb.control &&& slotControlPaused ≠ 0 || cb.status &&& slotStatusFaulted ≠ 0

/-- The slot waits for no division, and the machine is not at it, unless before its pc is read or
to skip it. -/
structure AtRest (slot : SlotId) (s : WbPlc) : Prop where
  wait : (s.slotWait slot).state = .none
  visit : s.activeSlot = slot →
    (s.state.beforePc || s.state.awaitsCheck && skipFlags s.cb) = true

instance (slot : SlotId) (s : WbPlc) : Decidable (AtRest slot s) :=
  decidable_of_iff ((s.slotWait slot).state = .none ∧ (s.activeSlot = slot →
    (s.state.beforePc || s.state.awaitsCheck && skipFlags s.cb) = true))
    ⟨fun h => ⟨h.1, h.2⟩, fun h => ⟨h.wait, h.visit⟩⟩

theorem writeObjectFileSnapshotFromFlash_control (m : SlotMemory) (slotId : UInt16)
    (flash : FlashDriver) (flashOffset objectSize objectChecksum : UInt32) :
    (writeObjectFileSnapshotFromFlash m slotId flash flashOffset objectSize
      objectChecksum).1.control = m.control := by
  unfold writeObjectFileSnapshotFromFlash
  repeat' split
  all_goals rfl

theorem Restarts.pc {slotId : UInt16} {control : PlcProgramControlBlockV1} {entry : UInt32}
    (h : Restarts slotId control entry) (hentry : entry < control.bytecodeSize) :
    control.pc = entry := by
  cases h with
  | load s file size hok =>
    have hcontrol : ((loadObjectFileIntoSlot s slotId file size).1.slots slotId).control =
        loadedControlBlock slotId (ramProgram s slotId file) := by
      obtain ⟨-, -, -, hfits⟩ := (ram_ok_iff s slotId file size).mp hok
      rw [ram_ok_state hok, updateSlot_self, writeObjectFileSnapshot_of_fits hfits,
        ramInstalled_slot]
      rfl
    rw [hcontrol]
    rfl
  | loadFromFlash s flash flashOffset flashCapacity bytes hbytes hok =>
    have hcontrol : ((loadObjectFileFromFlash s slotId flash flashOffset
        flashCapacity).1.slots slotId).control =
        loadedControlBlock slotId (flashProgram s slotId flash flashOffset (readHeader bytes)) := by
      rw [flash_ok_state hbytes hok, updateSlot_self]
      have hkept := writeObjectFileSnapshotFromFlash_control
        ((flashInstalled s slotId flash flashOffset (readHeader bytes)).slots slotId) slotId flash
        flashOffset (readHeader bytes).totalSize (readHeader bytes).objectChecksum
      rw [flashInstalled_slot] at hkept
      rw [flashSnapshot, flashInstalled_slot, hkept]
      rfl
    rw [hcontrol]
    rfl
  | reset s haccepted => exact if_pos hentry

def State.hasCodeSize (state : State) : Bool :=
  state.awaitsCheck && state ≠ .readCbCycle && state ≠ .readCbCodeBase && state ≠ .readCbCodeSize

/-- What holds until the slot's first scan. -/
structure Awaits (slot : SlotId) (control : PlcProgramControlBlockV1) (s : WbPlc) : Prop where
  wait : (s.slotWait slot).state = .none
  visit : s.activeSlot = slot → s.state.beforePc = true ∨ s.state.awaitsCheck = true ∧
    (skipFlags s.cb = true ∨ s.cb.pc = control.pc ∧
      (s.state.hasCodeSize = true → s.cb.bytecodeSize = control.bytecodeSize))

theorem AtRest.awaits {slot : SlotId} {s : WbPlc} (h : AtRest slot s)
    (control : PlcProgramControlBlockV1) : Awaits slot control s where
  wait := h.wait
  visit hslot := by
    have hvisit := h.visit hslot
    simp only [Bool.or_eq_true, Bool.and_eq_true] at hvisit
    exact hvisit.imp_right fun hskip => ⟨hskip.1, .inl hskip.2⟩

/-- What a cycle that loads a word before the check leaves alone. -/
structure LoadsOn (s t : WbPlc) : Prop where
  awaitsCheck : t.state.awaitsCheck = true
  pc : t.cb.pc = s.cb.pc
  skipFlags : skipFlags t.cb = skipFlags s.cb
  codeSize : t.state.hasCodeSize = true → s.state = .readCbCodeSize ∨
    s.state.hasCodeSize = true ∧ t.cb.bytecodeSize = s.cb.bytecodeSize

theorem LoadsOn.readCb {i : In} {s t : WbPlc} {addr : UInt32} {done : UInt32 → WbPlc → WbPlc}
    (hstate : t.state = s.state) (hcb : t.cb = s.cb) (h : s.state.awaitsCheck = true)
    (hdone : LoadsOn s (done i.dat t.finishBusCycle)) : LoadsOn s (readCb i t addr done) := by
  have hstay : ∀ u : WbPlc, u.state = t.state → u.cb = t.cb → LoadsOn s u := by
    intro u hu hucb
    refine ⟨by rw [hu, hstate, h], by rw [hucb, hcb], by rw [hucb, hcb], fun hsize => .inr ?_⟩
    rw [hu, hstate] at hsize
    exact ⟨hsize, by rw [hucb, hcb]⟩
  unfold NodeNet.Vm.readCb
  repeat' split
  · exact hstay _ rfl rfl
  · exact hdone
  · exact hstay _ rfl rfl

theorem step_awaitsCheck {s : WbPlc} (i : In) (h : s.state.awaitsCheck = true)
    (hcheck : s.state ≠ .slotCheck) : LoadsOn s (s.step i) := by
  have hl : (s.latch i).state = s.state := rfl
  unfold WbPlc.step
  dsimp only
  rw [hl]
  cases hst : s.state
  case slotCheck => exact absurd hst hcheck
  case readCbCycle | readCbCodeBase =>
    exact .readCb hl rfl h ⟨rfl, rfl, rfl, fun hsize => by cases hsize⟩
  case readCbCodeSize => exact .readCb hl rfl h ⟨rfl, rfl, rfl, fun _ => .inl hst⟩
  case readCbTimerBase | readCbTimerCount | readCbMaxInstr | readSlotScratchBase =>
    exact .readCb hl rfl h ⟨rfl, rfl, rfl, fun _ => .inr ⟨by rw [hst]; rfl, rfl⟩⟩
  all_goals
    rw [hst] at h
    cases h

theorem step_beforePc {s : WbPlc} (i : In) (h : s.state.beforePc = true)
    (hpc : s.state ≠ .readCbPc) :
    (s.step i).state.beforePc = true := by
  by_cases hsweep : s.state = .idle ∨ s.state = .nextSlot
  · simp [State.beforePc, (step_sweeps (i := i) hsweep).sweeps]
  have hl : (s.latch i).state = s.state := rfl
  unfold WbPlc.step
  dsimp only
  rw [hl]
  cases hst : s.state
  case idle => exact absurd (.inl hst) hsweep
  case nextSlot => exact absurd (.inr hst) hsweep
  case readCbPc => exact absurd hst hpc
  case readCbMagic | readCbHeader =>
    refine readCb_state (P := fun state => state.beforePc = true) (by rw [hl, h]) fun _ _ => ?_
    dsimp only
    split <;> rfl
  case readCbControl | readCbStatus =>
    exact readCb_state (P := fun state => state.beforePc = true) (by rw [hl, h]) fun _ _ => rfl
  all_goals
    rw [hst] at h
    cases h

section
variable {slot : SlotId} {control : PlcProgramControlBlockV1} {s : WbPlc} {i : In}

theorem Awaits.suspends (h : Awaits slot control s) : s.suspendsSlot slot = false := by
  by_cases hslot : s.activeSlot = slot
  · have hst : s.state ≠ .decode := by
      intro hst
      have hvisit := h.visit hslot
      rw [hst] at hvisit
      obtain hvisit | ⟨hvisit, -⟩ := hvisit <;> cases hvisit
    simp [WbPlc.suspendsSlot, hst]
  · simp [WbPlc.suspendsSlot, hslot]

theorem Awaits.readCbPc (hr : Reached s) (hserves : ServesControl slot control (s, false) i)
    (hslot : s.activeSlot = slot) (hst : s.state = .readCbPc) :
    (s.step i).state.beforePc = true ∨ (s.step i).state.awaitsCheck = true ∧
      (s.step i).cb.pc = control.pc ∧ (s.step i).state.hasCodeSize = false := by
  have hl : (s.latch i).state = .readCbPc := hst
  have hstep : s.step i = loadCb i (s.latch i) 16 .readCbCycle
      fun word cb => { cb with pc := word } := by
    unfold WbPlc.step
    dsimp only
    rw [hl]
  have haddr : s.accessAddr = some (s.controlBlockAddr + 16) := by simp only [WbPlc.accessAddr, hst]
  obtain ⟨-, hstate, -⟩ | ⟨hans, hadr, hdone⟩ := step_readCb_cases hr.onBus hstep haddr
  · rw [hstate, hst]
    exact .inl rfl
  · simp only [Bool.and_eq_true] at hans
    have hwe : s.bus.we = false := by
      rw [(hr.onBus hans.1).2, hst]
      rfl
    have hdat := (hserves rfl hans.1 hwe hans.2).1 (by
      rw [← hslot, ← hr.slotAddr (by simp [hst])]
      exact hadr)
    rw [hdone]
    exact .inr ⟨rfl, hdat, rfl⟩

theorem Awaits.readCbCodeSize (hr : Reached s) (hserves : ServesControl slot control (s, false) i)
    (hslot : s.activeSlot = slot) (hst : s.state = .readCbCodeSize)
    (hsize : (s.step i).state.hasCodeSize = true) :
    (s.step i).cb.bytecodeSize = control.bytecodeSize := by
  have hl : (s.latch i).state = .readCbCodeSize := hst
  have hstep : s.step i = loadCb i (s.latch i) 36 .readCbTimerBase
      fun word cb => { cb with bytecodeSize := word } := by
    unfold WbPlc.step
    dsimp only
    rw [hl]
  have haddr : s.accessAddr = some (s.controlBlockAddr + 36) := by simp only [WbPlc.accessAddr, hst]
  obtain ⟨-, hstate, -⟩ | ⟨hans, hadr, hdone⟩ := step_readCb_cases hr.onBus hstep haddr
  · rw [hstate, hst] at hsize
    cases hsize
  · simp only [Bool.and_eq_true] at hans
    have hwe : s.bus.we = false := by
      rw [(hr.onBus hans.1).2, hst]
      rfl
    have hdat := (hserves rfl hans.1 hwe hans.2).2 (by
      rw [← hslot, ← hr.slotAddr (by simp [hst])]
      exact hadr)
    rw [hdone]
    exact hdat

theorem step_slotCheck (i : In) (hst : s.state = .slotCheck) :
    s.step i = stepSlotCheck (s.latch i) := by
  have hl : (s.latch i).state = .slotCheck := hst
  unfold WbPlc.step
  dsimp only
  rw [hl]

theorem Awaits.step (h : Awaits slot control s) (hr : Reached s)
    (hserves : ServesControl slot control (s, false) i) (hnot : s.admits slot = false) :
    Awaits slot control (s.step i) where
  wait := by rw [step_wait_of_dead i h.wait h.suspends, h.wait]
  visit hslot' := by
    by_cases hsweep : s.state = .idle ∨ s.state = .nextSlot
    · exact .inl (by simp [State.beforePc, (step_sweeps (i := i) hsweep).sweeps])
    have hsweep' := not_or.mp hsweep
    have hslot : s.activeSlot = slot := by
      rw [← (step_sameSlot s i hsweep'.1 hsweep'.2).activeSlot, hslot']
    obtain hbefore | ⟨hawaits, hheld⟩ := h.visit hslot
    · by_cases hpc : s.state = .readCbPc
      · refine (Awaits.readCbPc hr hserves hslot hpc).imp_right fun hread => ?_
        refine ⟨hread.1, .inr ⟨hread.2.1, fun hsize => ?_⟩⟩
        rw [hread.2.2] at hsize
        cases hsize
      · exact .inl (step_beforePc i hbefore hpc)
    · by_cases hcheck : s.state = .slotCheck
      · have hskip : slotSkipped (s.latch i).cb = true := by
          change slotSkipped s.cb = true
          simpa [WbPlc.admits, hcheck, hslot] using hnot
        rw [step_slotCheck i hcheck, stepSlotCheck, if_pos hskip]
        exact .inl rfl
      · have hload := step_awaitsCheck i hawaits hcheck
        refine .inr ⟨hload.awaitsCheck, hheld.imp (fun hskip => ?_) fun hread => ⟨?_, ?_⟩⟩
        · rw [hload.skipFlags, hskip]
        · rw [hload.pc, hread.1]
        · intro hsize
          obtain hst | ⟨hsize', hkept⟩ := hload.codeSize hsize
          · exact Awaits.readCbCodeSize hr hserves hslot hst hsize
          · rw [hkept, hread.2 hsize']

theorem Awaits.starts {entry : UInt32} (h : Awaits slot control s) (hpc : control.pc = entry)
    (hentry : entry < control.bytecodeSize) (hadmits : s.admits slot = true) :
    StartsAt entry (s.step i) := by
  simp only [WbPlc.admits, Bool.and_eq_true, decide_eq_true_eq, Bool.not_eq_true'] at hadmits
  obtain ⟨⟨hst, hslot⟩, hskip⟩ := hadmits
  have hread : s.cb.pc = control.pc ∧ s.cb.bytecodeSize = control.bytecodeSize := by
    have hvisit := h.visit hslot
    rw [hst] at hvisit
    obtain hvisit | ⟨-, hflags | hread⟩ := hvisit
    · cases hvisit
    · simp only [slotSkipped, Bool.or_eq_false_iff] at hskip
      have hflags' : skipFlags s.cb = false :=
        Bool.or_eq_false_iff.mpr ⟨hskip.1.1.1.1, hskip.1.1.1.2⟩
      rw [hflags'] at hflags
      cases hflags
    · exact ⟨hread.1, hread.2 rfl⟩
  have hstart : slotStartPc s.cb = entry := by
    rw [slotStartPc, hread.1, hread.2, hpc, if_pos hentry]
  have hskip' : ¬slotSkipped (s.latch i).cb = true := by
    change ¬slotSkipped s.cb = true
    rw [hskip]
    nofun
  have hwait : ((s.latch i).slotWait (s.latch i).activeSlot).state = .none := by
    change (s.slotWait s.activeSlot).state = .none
    rw [hslot, h.wait]
  rw [step_slotCheck i hst, stepSlotCheck, if_neg hskip', hwait]
  exact ⟨rfl, rfl, hstart, hstart, rfl⟩

end

/-- After a load or a reset of a slot at rest its first scan starts afresh. -/
theorem starts_fresh {slot : SlotId} {control : PlcProgramControlBlockV1} {entry : UInt32}
    {adr dat : UInt32} {before after : List In}
    (hrestarts : Restarts (UInt16.ofNat slot.toNat) control entry)
    (hserves : Along (observed WbPlc.step (noteAdmitted slot)) (ServesControl slot control)
      (run WbPlc.step (WbPlc.reset adr dat) before, false) after)
    (hrest : AtRest slot (run WbPlc.step (WbPlc.reset adr dat) before))
    (hentry : entry < control.bytecodeSize) :
    StartsFresh slot entry (run WbPlc.step (WbPlc.reset adr dat) before) after where
  first := by
    have hreached : Reached (run WbPlc.step (WbPlc.reset adr dat) before) :=
      run_inv (fun _ i h (_ : True) => h.step i) (reached_reset adr dat) (along_true _ _)
    refine along_of_inv (fun p => Reached p.1 ∧ (p.2 = false → Awaits slot control p.1))
      (fun p i h hs => ⟨h.1.step i, fun hadmitted => ?_⟩) (fun p i h _ hfirst hadmits => ?_)
      ⟨hreached, fun _ => hrest.awaits control⟩ hserves
    · obtain ⟨s, admitted⟩ := p
      simp only [observed, noteAdmitted, Bool.or_eq_false_iff] at hadmitted
      obtain ⟨rfl, hnot⟩ := hadmitted
      exact (h.2 rfl).step h.1 hs hnot
    · exact (h.2 hfirst).starts (hrestarts.pc hentry) hentry hadmits
  independent w hw := by
    have hdead := hrest.wait
    refine run_agreesBesides (.inr ⟨hdead, w, hw.trans hdead, rfl⟩) after

def divisionSlot : LoaderState :=
  LoaderState.boot.updateSlot 0 fun m => m.writeLoadedSlotMetadata 0 ⟨11, 0, 0, 0, 10, 0, 0, 0, 0⟩

def divisionControl : PlcProgramControlBlockV1 :=
  commandedControl (divisionSlot.slots 0) 0 .reset

theorem divisionControl_restarts : Restarts (UInt16.ofNat (0 : SlotId).toNat) divisionControl 0 :=
  .reset divisionSlot (by decide +kernel)

/-- The reads of the first slot's control block and manifest. -/
def divisionSlotIns : List In :=
  (([0, 1, 2, 3, 4, 5, 8, 9, 12, 13, 14].map ((controlBlockWords divisionControl).getD · 0) ++
    [0]).map readIns).flatten

/-- The sweep reaches the first slot and executes it up to its division. -/
def divisionIns : List In :=
  [{ quietIn with engineEnable := false }, quietIn, quietIn] ++ divisionSlotIns ++ [quietIn] ++
    readIns 0x8000001D ++ List.replicate 4 quietIn ++ readIns 0x00001D3F ++
    List.replicate 5 quietIn ++ readIns 0x00534000 ++ List.replicate 4 quietIn

/-- The rest of the sweep, and the reads of the first slot in the next. -/
def nextVisitIns : List In :=
  [quietIn] ++ (List.replicate 15 (readIns 0 ++ [quietIn])).flatten ++ divisionSlotIns

/-- A slot that is reset while it waits for the divider goes on with its saved stack and pc. -/
theorem suspendedSlot_not_fresh :
    Restarts (UInt16.ofNat (0 : SlotId).toNat) divisionControl 0 ∧
      0 < divisionControl.bytecodeSize ∧
      Along (observed WbPlc.step (noteAdmitted 0)) (ServesControl 0 divisionControl)
        (run WbPlc.step (WbPlc.reset 0 0) divisionIns, false) (nextVisitIns ++ [quietIn]) ∧
      ¬StartsFresh 0 0 (run WbPlc.step (WbPlc.reset 0 0) divisionIns)
        (nextVisitIns ++ [quietIn]) := by
  refine ⟨divisionControl_restarts, by decide +kernel, by decide +kernel, fun h => ?_⟩
  have hstart := h.first.at_run (by decide +kernel) (by decide +kernel)
  exact absurd hstart.stack (by decide +kernel)

theorem resetSlot_starts_fresh :
    StartsFresh 0 0 (run WbPlc.step (WbPlc.reset 0 0) [])
      ([{ quietIn with engineEnable := false }, quietIn, quietIn] ++ divisionSlotIns ++ [quietIn]) :=
  starts_fresh divisionControl_restarts (by decide +kernel) (by decide +kernel) (by decide +kernel)

end NodeNet.Vm

import NodeNet.Slot
import NodeNet.Vm.EntryAccess

/-! The loader's layout of a slot against the addresses that the machine computes for it. -/
namespace NodeNet.Vm
open NodeNet.Slot NodeNet.Machine

/-- Two halves of a word, the first field in the low half. -/
def halves (low high : UInt16) : UInt32 := low.toUInt32 ||| (high.toUInt32 <<< 16)

def controlBlockWords (cb : PlcProgramControlBlockV1) : List UInt32 :=
  [cb.magic, halves cb.version cb.slotId, cb.control, cb.status, cb.pc, cb.cycleCounter,
    cb.faultCode, cb.faultInfo, cb.bytecodeBase, cb.bytecodeSize, cb.stackBase, cb.stackSize,
    cb.timerBase, cb.timerCount, cb.maxInstructionsPerScan, cb.maxScanTimeUs, cb.paramsBase,
    cb.paramsSize]

def manifestWords (m : PlcSlotManifestV1) : List UInt32 :=
  [halves m.slotId m.version, m.status, m.flags, m.controlBlockAddr, m.linkedImageHeaderAddr,
    m.linkedCodeAddr, m.linkedCodeSize, m.stackBase, m.stackSize, m.timerBase, m.timerCount,
    m.paramsBase, m.paramsSize, m.scratchBase, m.scratchSize, m.runtimeHeaderAddr,
    m.linkedCodeChecksum, m.loadEpoch]

/-- The machine's slot as the loader numbers it. -/
def WbPlc.slotId (s : WbPlc) : UInt16 := UInt16.ofNat s.activeSlot.toNat

/-- Memory answers the reads of a loaded slot's tables with what the loader wrote there for some
program; of the control block only the words that the machine does not write. -/
def ServesSlots (loaded : LoadedProgram) (s : WbPlc) (i : In) : Prop :=
  s.bus.cyc = true → s.bus.we = false → i.ack = true → ∀ n < 18,
    (s.bus.adr = slotManifestAddress s.slotId + UInt32.ofNat (4 * n) →
      i.dat = (manifestWords (loadedManifest s.slotId loaded)).getD n 0) ∧
    (8 ≤ n → s.bus.adr = slotControlAddress s.slotId + UInt32.ofNat (4 * n) →
      i.dat = (controlBlockWords (loadedControlBlock s.slotId loaded)).getD n 0)

instance (loaded : LoadedProgram) (s : WbPlc) (i : In) : Decidable (ServesSlots loaded s i) :=
  inferInstanceAs (Decidable (_ → _ → _ → ∀ n < 18, _))

def InRegion (base size addr : UInt32) : Prop :=
  base.toNat ≤ addr.toNat ∧ addr.toNat + 4 ≤ base.toNat + size.toNat

def State.accessesEdge : State → Bool
  | .edgeReadPrevWord | .edgeReadValidWord | .edgeWritePrevWord | .edgeWriteValidWord => true
  | _ => false

def takesScratchBase (s : WbPlc) (i : In) : Bool :=
  s.state = .readSlotScratchBase && s.bus.cyc && i.ack

def EdgeInScratch (s : WbPlc) (i : In) : Prop :=
  s.state.accessesEdge = true → ∀ addr ∈ accessStarted s i,
    InRegion (slotLayout s.slotId).scratchBase (slotLayout s.slotId).scratchSize addr

def EntryInTimers (s : WbPlc) (i : In) : Prop :=
  s.state.accessesEntry = true → ∀ addr ∈ accessStarted s i,
    InRegion (slotLayout s.slotId).timerBase (slotLayout s.slotId).timerSize addr

/-- In this cycle the machine and the loader agree on the slot's memory. -/
structure AgreesOnLayout (s : WbPlc) (i : In) : Prop where
  edges : EdgeInScratch s i
  timers : EntryInTimers s i
  scratchBase : takesScratchBase s i = true → i.dat = (slotLayout s.slotId).scratchBase

/-- The code, stack, timers, params and scratch of a slot. -/
def slotRegions (slotId : UInt16) : List (UInt32 × UInt32) :=
  let layout := slotLayout slotId
  [(layout.linkedCodeAddr, layout.linkedCodeCapacity), (layout.stackBase, layout.stackSize),
    (layout.timerBase, layout.timerSize), (layout.paramsBase, layout.paramsCapacity),
    (layout.scratchBase, layout.scratchSize)]

def RegionsDisjoint (a b : UInt32 × UInt32) : Prop :=
  a.1.toNat + a.2.toNat ≤ b.1.toNat ∨ b.1.toNat + b.2.toNat ≤ a.1.toNat

instance (a b : UInt32 × UInt32) : Decidable (RegionsDisjoint a b) :=
  inferInstanceAs (Decidable (_ ∨ _))

def allSlotRegions : List (UInt32 × UInt32) :=
  (List.range kPlcSlotCountV1.toNat).flatMap fun n => slotRegions (UInt16.ofNat n)

theorem allSlotRegions_disjoint : allSlotRegions.Pairwise RegionsDisjoint := by decide +kernel

variable {slotId : UInt16}

@[elab_as_elim]
theorem forall_slot {motive : UInt16 → Prop} (h : slotId < kPlcSlotCountV1)
    (hall : ∀ n < 16, motive (UInt16.ofNat n)) : motive slotId := by
  simpa using hall slotId.toNat (UInt16.lt_iff_toNat_lt.mp h)

theorem tableAddrs_eq {slot : SlotId} (h : slot.toNat < 16) :
    slotControlBlockAddr slot = slotControlAddress (UInt16.ofNat slot.toNat) ∧
      slotManifestAddr slot = slotManifestAddress (UInt16.ofNat slot.toNat) := by
  have hall : ∀ n < 16, slotControlBlockAddr (BitVec.ofNat 5 n) =
      slotControlAddress (UInt16.ofNat (BitVec.ofNat 5 n).toNat) ∧
      slotManifestAddr (BitVec.ofNat 5 n) =
        slotManifestAddress (UInt16.ofNat (BitVec.ofNat 5 n).toNat) := by
    decide +kernel
  simpa using hall slot.toNat h

variable {s : WbPlc}

theorem slotId_lt (h : s.activeSlot.toNat < 16) : s.slotId < kPlcSlotCountV1 := by
  rw [UInt16.lt_iff_toNat_lt]
  change s.activeSlot.toNat % 2 ^ 16 < 16
  omega

theorem step_slot_lt (i : In) (h : s.activeSlot.toNat < 16) : (s.step i).activeSlot.toNat < 16 := by
  by_cases hidle : s.state = .idle
  · have hl : (s.latch i).state = .idle := hidle
    have hstep : s.step i = stepIdle i s (s.latch i) := by
      unfold WbPlc.step
      dsimp only
      rw [hl]
    rw [hstep]
    unfold stepIdle
    dsimp only
    repeat' split
    all_goals first
      | exact h
      | exact (by decide : (0 : SlotId).toNat < 16)
  · by_cases hnext : s.state = .nextSlot
    · have hl : (s.latch i).state = .nextSlot := hnext
      have hstep : s.step i = stepNextSlot i s (s.latch i) := by
        unfold WbPlc.step
        dsimp only
        rw [hl]
      rw [hstep]
      unfold stepNextSlot
      dsimp only
      split
      · split
        · exact (by decide : (0 : SlotId).toNat < 16)
        · exact h
      case isFalse hlast =>
        have hlast' : s.activeSlot ≠ 15 := hlast
        change (s.activeSlot + 1).toNat < 16
        have hne : s.activeSlot.toNat ≠ 15 := fun hn => hlast' (BitVec.eq_of_toNat_eq hn)
        rw [BitVec.toNat_add]
        change (s.activeSlot.toNat + 1) % 32 < 16
        omega
    · rw [(step_sameSlot s i hidle hnext).activeSlot]
      exact h

def State.hasScratchBase (state : State) : Bool :=
  state.hasTimerCount && state ≠ .readCbMaxInstr && state ≠ .readSlotScratchBase

/-- The slot's registers hold what the loader wrote at the places where the machine reads. -/
structure SlotLoaded (s : WbPlc) : Prop where
  timerBase : s.state.hasTimerBase = true → s.cb.timerBase = (slotLayout s.slotId).timerBase
  timerCount : s.state.hasTimerCount = true →
    s.cb.timerCount = (slotLayout s.slotId).timerSize / kPlcSlotTimerEntryBytesV1
  scratchBase : s.state.hasScratchBase = true →
    s.cb.slotScratchBase = (slotLayout s.slotId).scratchSize

theorem step_readSlotScratchBase (i : In) (h : s.state = .readSlotScratchBase) :
    s.step i = readCb i (s.latch i) (slotManifestAddr s.activeSlot + 56) fun word s =>
      { s with cb := { s.cb with slotScratchBase := word }, state := .slotCheck } := by
  have hl : (s.latch i).state = .readSlotScratchBase := h
  unfold WbPlc.step
  dsimp only
  rw [hl]
  rfl

theorem step_readCbMaxInstr (i : In) (hr : Reached s) (h : s.state = .readCbMaxInstr) :
    (s.step i).state.hasScratchBase = false := by
  have hl : (s.latch i).state = .readCbMaxInstr := h
  have hread : s.accessAddr = some (s.controlBlockAddr + 56) := by
    simp only [WbPlc.accessAddr, h]
  have hstep : s.step i = loadCb i (s.latch i) 56 .readSlotScratchBase
      fun word cb => { cb with maxInstructions := word } := by
    unfold WbPlc.step
    dsimp only
    rw [hl]
  obtain ⟨-, hstate, -⟩ | ⟨-, -, hdone⟩ := step_readCb_cases hr.onBus hstep hread
  · rw [hstate, h]
    rfl
  · rw [hdone]
    rfl

theorem ServesSlots.word {loaded : LoadedProgram} {i : In} (h : ServesSlots loaded s i)
    (hr : Reached s) (hslot : s.activeSlot.toNat < 16) (hans : (s.bus.cyc && i.ack) = true)
    (hreads : s.state.writes = false) {n : Nat} (hn : n < 18) :
    (s.bus.adr = slotManifestAddr s.activeSlot + UInt32.ofNat (4 * n) →
      i.dat = (manifestWords (loadedManifest s.slotId loaded)).getD n 0) ∧
    (8 ≤ n → s.bus.adr = slotControlBlockAddr s.activeSlot + UInt32.ofNat (4 * n) →
      i.dat = (controlBlockWords (loadedControlBlock s.slotId loaded)).getD n 0) := by
  simp only [Bool.and_eq_true] at hans
  have hwe : s.bus.we = false := (hr.onBus hans.1).2.trans hreads
  obtain ⟨hcontrol, hmanifest⟩ := tableAddrs_eq hslot
  rw [hcontrol, hmanifest]
  exact h hans.1 hwe hans.2 n hn

theorem State.hasTimerCount_of_hasScratchBase {state : State} (h : state.hasScratchBase = true) :
    state.hasTimerCount = true := by
  simp only [State.hasScratchBase, Bool.and_eq_true] at h
  exact h.1.1

theorem step_slotId (i : In) (h : s.state ≠ .idle ∧ s.state ≠ .nextSlot) :
    (s.step i).slotId = s.slotId := by
  unfold WbPlc.slotId
  rw [(step_sameSlot s i h.1 h.2).activeSlot]

theorem SlotLoaded.of_none (h : s.state.hasTimerBase = false) : SlotLoaded s where
  timerBase := fun hn => by cases h.symm.trans hn
  timerCount := fun hn => by cases h.symm.trans (State.hasTimerBase_of_hasTimerCount hn)
  scratchBase := fun hn => by
    cases h.symm.trans
      (State.hasTimerBase_of_hasTimerCount (State.hasTimerCount_of_hasScratchBase hn))

section
variable {s : WbPlc} {i : In} {loaded : LoadedProgram} (hr : Reached s)
  (hslot : s.activeSlot.toNat < 16) (hserves : ServesSlots loaded s i)
include hr hslot hserves

theorem slotLoaded_timerBase (hst : s.state = .readCbTimerBase) : SlotLoaded (s.step i) := by
  have hid := step_slotId i (s := s) (by rw [hst]; exact ⟨nofun, nofun⟩)
  have hread : s.accessAddr = some (s.controlBlockAddr + 48) := by
    simp only [WbPlc.accessAddr, hst]
  obtain ⟨-, hstate, -⟩ | ⟨hans, hadr, hdone⟩ :=
    step_readCb_cases hr.onBus (step_readCbTimerBase i hst) hread
  · exact .of_none (by rw [hstate, hst]; rfl)
  · have hadr' : s.bus.adr = slotControlBlockAddr s.activeSlot + UInt32.ofNat (4 * 12) := by
      rw [← hr.slotAddr (by rw [hst]; nofun)]
      exact hadr
    have hword := (hserves.word hr hslot hans (by rw [hst]; rfl) (by decide : 12 < 18)).2
      (by decide) hadr'
    refine ⟨fun _ => ?_, fun hn => ?_, fun hn => ?_⟩
    · rw [hid, hdone]
      exact hword
    · rw [hdone] at hn
      cases hn
    · rw [hdone] at hn
      cases hn

theorem SlotLoaded.timerCount_step (h : SlotLoaded s) (hst : s.state = .readCbTimerCount) :
    SlotLoaded (s.step i) := by
  have hid := step_slotId i (s := s) (by rw [hst]; exact ⟨nofun, nofun⟩)
  have hread : s.accessAddr = some (s.controlBlockAddr + 52) := by
    simp only [WbPlc.accessAddr, hst]
  have hbase := h.timerBase (by rw [hst]; rfl)
  obtain ⟨-, hstate, hcb⟩ | ⟨hans, hadr, hdone⟩ :=
    step_readCb_cases hr.onBus (step_readCbTimerCount i hst) hread
  · refine ⟨fun _ => ?_, fun hn => ?_, fun hn => ?_⟩
    · rw [hid, hcb]
      exact hbase
    · rw [hstate, hst] at hn
      cases hn
    · rw [hstate, hst] at hn
      cases hn
  · have hadr' : s.bus.adr = slotControlBlockAddr s.activeSlot + UInt32.ofNat (4 * 13) := by
      rw [← hr.slotAddr (by rw [hst]; nofun)]
      exact hadr
    have hword := (hserves.word hr hslot hans (by rw [hst]; rfl) (by decide : 13 < 18)).2
      (by decide) hadr'
    refine ⟨fun _ => ?_, fun _ => ?_, fun hn => ?_⟩
    · rw [hid, hdone]
      exact hbase
    · rw [hid, hdone]
      exact hword
    · rw [hdone] at hn
      cases hn

theorem SlotLoaded.scratchBase_step (h : SlotLoaded s) (hst : s.state = .readSlotScratchBase) :
    SlotLoaded (s.step i) := by
  have hid := step_slotId i (s := s) (by rw [hst]; exact ⟨nofun, nofun⟩)
  have hread : s.accessAddr = some (slotManifestAddr s.activeSlot + 56) := by
    simp only [WbPlc.accessAddr, hst]
  have hbase := h.timerBase (by rw [hst]; rfl)
  have hcount := h.timerCount (by rw [hst]; rfl)
  obtain ⟨-, hstate, hcb⟩ | ⟨hans, hadr, hdone⟩ :=
    step_readCb_cases hr.onBus (step_readSlotScratchBase i hst) hread
  · refine ⟨fun _ => ?_, fun _ => ?_, fun hn => ?_⟩
    · rw [hid, hcb]
      exact hbase
    · rw [hid, hcb]
      exact hcount
    · rw [hstate, hst] at hn
      cases hn
  · have hword := (hserves.word hr hslot hans (by rw [hst]; rfl) (by decide : 14 < 18)).1 hadr
    refine ⟨fun _ => ?_, fun _ => ?_, fun _ => ?_⟩
    · rw [hid, hdone]
      exact hbase
    · rw [hid, hdone]
      exact hcount
    · rw [hid, hdone]
      exact hword

theorem SlotLoaded.step (h : SlotLoaded s) : SlotLoaded (s.step i) := by
  by_cases hbase : s.state = .readCbTimerBase
  · exact slotLoaded_timerBase hr hslot hserves hbase
  · by_cases hcount : s.state = .readCbTimerCount
    · exact h.timerCount_step hr hslot hserves hcount
    · by_cases hscratch : s.state = .readSlotScratchBase
      · exact h.scratchBase_step hr hslot hserves hscratch
      · cases hhas : s.state.hasTimerBase with
        | false => exact .of_none (step_hasTimerBase i hhas hbase)
        | true =>
          have hhas' : s.state.hasTimerCount = true := by simp [State.hasTimerCount, hhas, hcount]
          have hid := step_slotId i (State.ne_idle_of_hasTimerBase hhas)
          obtain ⟨hb, hc⟩ := step_timers i hhas' hr.serves
          refine ⟨fun _ => ?_, fun _ => ?_, fun hn => ?_⟩
          · rw [hid, hb]
            exact h.timerBase hhas
          · rw [hid, hc]
            exact h.timerCount hhas'
          · have hmax : s.state ≠ .readCbMaxInstr := fun hst => by
              have hnone := step_readCbMaxInstr i hr hst
              cases hnone.symm.trans hn
            have hcb : (s.step i).cb = s.cb := (step_keeps i hr.serves).cb (by
              generalize s.state = state at hhas' hscratch hmax
              cases state <;>
                first | rfl | exact absurd rfl hscratch | exact absurd rfl hmax | cases hhas')
            rw [hid, hcb]
            exact h.scratchBase (by simp [State.hasScratchBase, hhas', hmax, hscratch])

end

/-- What holds of a machine whose slots are served. -/
structure SlotInv (s : WbPlc) : Prop where
  reached : Reached s
  slot_lt : s.activeSlot.toNat < 16
  loaded : SlotLoaded s

theorem slotInv_reset (adr dat : UInt32) : SlotInv (WbPlc.reset adr dat) where
  reached := reached_reset adr dat
  slot_lt := (by decide : (0 : SlotId).toNat < 16)
  loaded := .of_none rfl

theorem SlotInv.step {i : In} (h : SlotInv s) (hserves : ∃ loaded, ServesSlots loaded s i) :
    SlotInv (s.step i) := by
  obtain ⟨loaded, hserves⟩ := hserves
  exact ⟨h.reached.step i, step_slot_lt i h.slot_lt,
    h.loaded.step h.reached h.slot_lt hserves⟩

theorem SlotInv.takes {i : In} (h : SlotInv s) (hserves : ∃ loaded, ServesSlots loaded s i)
    (htakes : takesScratchBase s i = true) : i.dat = (slotLayout s.slotId).scratchSize := by
  obtain ⟨loaded, hserves⟩ := hserves
  simp only [takesScratchBase, Bool.and_eq_true, decide_eq_true_eq] at htakes
  obtain ⟨⟨hst, hcyc⟩, hack⟩ := htakes
  have hadr : s.bus.adr = slotManifestAddr s.activeSlot + 56 := by
    have haddr := (h.reached.onBus hcyc).1
    simp only [WbPlc.accessAddr, hst] at haddr
    exact (Option.some.inj haddr).symm
  exact (hserves.word h.reached h.slot_lt (by simp [hcyc, hack]) (by rw [hst]; rfl)
    (by decide : 14 < 18)).1 hadr

theorem scratchSize_ne (h : slotId < kPlcSlotCountV1) :
    (slotLayout slotId).scratchSize ≠ (slotLayout slotId).scratchBase := by
  refine forall_slot h ?_
  decide +kernel

theorem step_hasScratchBase {i : In} (hr : Reached s) (h : s.state.hasScratchBase = false)
    (htakes : takesScratchBase s i = false) : (s.step i).state.hasScratchBase = false := by
  have hnone : ∀ state : State, state.hasTimerBase = false → state.hasScratchBase = false := by
    intro state
    cases state <;> first | exact fun _ => rfl | exact nofun
  by_cases hbase : s.state = .readCbTimerBase
  · obtain ⟨-, hstate, -⟩ | ⟨-, -, hdone⟩ :=
      step_readCb_cases hr.onBus (step_readCbTimerBase i hbase)
        (show s.accessAddr = some (s.controlBlockAddr + 48) by simp only [WbPlc.accessAddr, hbase])
    · rw [hstate, hbase]
      rfl
    · rw [hdone]
      rfl
  · by_cases hcount : s.state = .readCbTimerCount
    · obtain ⟨-, hstate, -⟩ | ⟨-, -, hdone⟩ :=
        step_readCb_cases hr.onBus (step_readCbTimerCount i hcount)
          (show s.accessAddr = some (s.controlBlockAddr + 52) by
            simp only [WbPlc.accessAddr, hcount])
      · rw [hstate, hcount]
        rfl
      · rw [hdone]
        rfl
    · by_cases hscratch : s.state = .readSlotScratchBase
      · obtain ⟨-, hstate, -⟩ | ⟨hans, -, -⟩ :=
          step_readCb_cases hr.onBus (step_readSlotScratchBase i hscratch)
            (show s.accessAddr = some (slotManifestAddr s.activeSlot + 56) by
              simp only [WbPlc.accessAddr, hscratch])
        · rw [hstate, hscratch]
          rfl
        · simp only [Bool.and_eq_true] at hans
          simp [takesScratchBase, hscratch, hans] at htakes
      · by_cases hmax : s.state = .readCbMaxInstr
        · exact step_readCbMaxInstr i hr hmax
        · refine hnone _ (step_hasTimerBase i ?_ hbase)
          cases hhas : s.state.hasTimerBase with
          | false => rfl
          | true => simp [State.hasScratchBase, State.hasTimerCount, hhas, hcount, hmax, hscratch] at h

theorem State.hasScratchBase_of_accesses {state : State}
    (h : state.accessesEdge = true ∨ state.accessesEntry = true) : state.hasScratchBase = true := by
  cases state <;> first | rfl | (cases h <;> contradiction)

theorem edgeStateWordByteOffset_le (index : UInt16) : (edgeStateWordByteOffset index).toNat ≤ 60 := by
  have hword : ((index >>> 5) &&& 15).toNat ≤ 15 := by
    rw [UInt16.toNat_and]
    exact Nat.and_le_right
  have h4 : (4 : UInt32).toNat = 4 := rfl
  rw [edgeStateWordByteOffset, UInt32.toNat_mul, UInt16.toNat_toUInt32, h4]
  omega

theorem SlotInv.edge_lt {i : In} {addr : UInt32} (h : SlotInv s)
    (haccesses : s.state.accessesEdge = true) (haddr : addr ∈ accessStarted s i) :
    addr.toNat < 1024 := by
  rw [accessStarted_eq i h.reached.onBus] at haddr
  have haccess : s.accessAddr = some addr := by
    cases hcyc : s.bus.cyc with
    | true => simp [hcyc] at haddr
    | false => simpa [hcyc] using haddr
  have hbase := h.loaded.scratchBase (State.hasScratchBase_of_accesses (.inl haccesses))
  have hsize : (slotLayout s.slotId).scratchSize = 512 := rfl
  rw [hsize] at hbase
  have hoffset := edgeStateWordByteOffset_le s.currentRuntimeIndex
  have h512 : (512 : UInt32).toNat = 512 := rfl
  have h128 : edgeStateSectionBytes.toNat = 128 := rfl
  unfold WbPlc.accessAddr edgePrevAddr edgeValidAddr at haccess
  rw [hbase] at haccess
  generalize s.state = state at haccess haccesses
  cases state <;> cases haccesses <;> cases haccess
  all_goals
    simp only [UInt32.toNat_add, h512, h128]
    omega

theorem layout_above (h : slotId < kPlcSlotCountV1) :
    1024 ≤ (slotLayout slotId).scratchBase.toNat := by
  refine forall_slot h ?_
  decide +kernel

theorem timers_fit (h : slotId < kPlcSlotCountV1) :
    (slotLayout slotId).timerBase.toNat + 512 < 2 ^ 32 ∧
      (slotLayout slotId).timerSize.toNat = 512 := by
  refine forall_slot h ?_
  decide +kernel

theorem inRegion_entry (h : slotId < kPlcSlotCountV1) {index : UInt16} {offset : UInt32}
    (hindex : index.toUInt32 < (slotLayout slotId).timerSize / 16)
    (hoffset : offset = 0 ∨ offset = 4 ∨ offset = 8) :
    InRegion (slotLayout slotId).timerBase (slotLayout slotId).timerSize
      (timerEntryAddr (slotLayout slotId).timerBase index + offset) := by
  obtain ⟨hfits, hsize⟩ := timers_fit h
  have h16 : (16 : UInt32).toNat = 16 := rfl
  have hlt := UInt32.lt_iff_toNat_lt.mp hindex
  rw [UInt32.toNat_div, hsize, h16] at hlt
  have hsmall : offset.toNat ≤ 8 := by
    obtain rfl | rfl | rfl := hoffset <;> decide
  unfold InRegion timerEntryAddr
  simp only [UInt32.toNat_add, UInt32.toNat_mul, h16, hsize]
  generalize (slotLayout slotId).timerBase.toNat = base at hfits
  omega

theorem SlotInv.entryInTimers {p : WbPlc × EntryNote} {i : In} (h : SlotInv p.1)
    (hentry : EntryInv p)
    (hcond : Addressed p i) : EntryInTimers p.1 i := by
  intro haccesses addr haddr
  obtain ⟨s, n⟩ := p
  have hstates : s.state.executes = true ∧ s.state.preparesEntry = false := by
    dsimp only at haccesses
    generalize s.state = state at haccesses
    cases state <;> first | exact ⟨rfl, rfl⟩ | cases haccesses
  have hop := State.isEntry_of_serves (.inr haccesses) h.reached.serves
  obtain ⟨-, -, haccess⟩ := hentry.accesses hstates.1 hop haddr
  obtain ⟨hvalid, offset, hoffset, rfl⟩ := accessAddr_of_entry haccesses haccess
  have hholds := hentry.holdsEntry hcond hstates.1 hop hstates.2 fun _ _ => by simp [haccess]
  have hhas : s.state.hasTimerBase = true ∧ s.state.hasTimerCount = true := by
    dsimp only at haccesses
    generalize s.state = state at haccesses
    cases state <;> first | exact ⟨rfl, rfl⟩ | cases haccesses
  have hcount := h.loaded.timerCount hhas.2
  simp only [entryValid, Bool.not_eq_true', decide_eq_false_iff_not, not_or] at hvalid
  unfold WbPlc.HoldsEntry at hholds
  rw [h.loaded.timerBase hhas.1] at hholds
  dsimp only at hcount hholds ⊢
  rw [hholds]
  refine inRegion_entry (slotId_lt h.slot_lt) ?_ hoffset
  rw [← UInt32.not_le]
  exact fun hle => hvalid.2 (hcount ▸ hle)

def EdgeOutsideScratch (s : WbPlc) (i : In) : Prop :=
  s.state.accessesEdge = true → ∀ addr ∈ accessStarted s i,
    ¬InRegion (slotLayout s.slotId).scratchBase (slotLayout s.slotId).scratchSize addr

/-- Runs over slots that the loader wrote. The machine and the loader agree exactly as long as no
scratch base is taken, since the machine takes the manifest's scratch size for it; then all edge
memory is outside its slot's scratch memory. Timers and counters are in their slot's timer memory if
they are addressed, and the regions of the layout are disjoint. -/
theorem agreesOnLayout_iff {adr dat : UInt32} {inputs : List In}
    (hserves : Along WbPlc.step (fun s i => ∃ loaded, ServesSlots loaded s i) (WbPlc.reset adr dat)
      inputs) :
    (Along WbPlc.step AgreesOnLayout (WbPlc.reset adr dat) inputs ↔
      Along WbPlc.step (fun s i => takesScratchBase s i = false) (WbPlc.reset adr dat) inputs) ∧
    Along WbPlc.step EdgeOutsideScratch (WbPlc.reset adr dat) inputs ∧
    (Along (observed WbPlc.step noteEntry) Addressed (WbPlc.reset adr dat, EntryNote.reset) inputs →
      Along WbPlc.step EntryInTimers (WbPlc.reset adr dat) inputs) ∧
    allSlotRegions.Pairwise RegionsDisjoint := by
  have hstep : ∀ s i, SlotInv s → (∃ loaded, ServesSlots loaded s i) → SlotInv (s.step i) :=
    fun _ _ h hs => h.step hs
  refine ⟨⟨fun hagrees => ?_, fun hnone => ?_⟩, ?_, fun haddressed => ?_, allSlotRegions_disjoint⟩
  · refine along_of_inv SlotInv (fun s i h hs => hstep s i h hs.1) (fun s i h hs => ?_)
      (slotInv_reset adr dat) (hserves.and hagrees)
    cases htakes : takesScratchBase s i with
    | false => rfl
    | true =>
      exact absurd ((h.takes hs.1 htakes).symm.trans (hs.2.scratchBase htakes))
        (scratchSize_ne (slotId_lt h.slot_lt))
  · refine along_of_inv (fun s => SlotInv s ∧ s.state.hasScratchBase = false)
      (fun s i h hs => ⟨hstep s i h.1 hs.1, step_hasScratchBase h.1.reached h.2 hs.2⟩)
      (fun s i h hs => ?_) ⟨slotInv_reset adr dat, rfl⟩ (hserves.and hnone)
    have hno : ¬(s.state.accessesEdge = true ∨ s.state.accessesEntry = true) := fun ha => by
      cases h.2.symm.trans (State.hasScratchBase_of_accesses ha)
    exact ⟨fun ha => absurd (.inl ha) hno, fun ha => absurd (.inr ha) hno,
      fun htakes => by cases hs.2.symm.trans htakes⟩
  · refine along_of_inv SlotInv hstep (fun s i h _ haccesses addr haddr hin => ?_)
      (slotInv_reset adr dat) hserves
    have hlt := h.edge_lt haccesses haddr
    have habove := layout_above (slotId_lt h.slot_lt)
    have hbase := hin.1
    omega
  · refine (along_observed noteEntry _ EntryNote.reset inputs).mp ?_
    refine along_of_inv (fun p => EntryInv p ∧ SlotInv p.1)
      (fun p i h hs => ⟨h.1.step hs.1, h.2.step hs.2⟩)
      (fun p i h hs => h.2.entryInTimers h.1 hs.1)
      ⟨entryInv_reset adr dat, slotInv_reset adr dat⟩
      (haddressed.and ((along_observed noteEntry _ EntryNote.reset inputs).mpr hserves))

def firstProgram : LoadedProgram := ⟨4, 0, 0, 0, 10, 0, 0, 0, 0⟩

/-- The sweep reads the first slot's tables as the loader writes them, up to the scratch base. -/
def firstSlotIns : List In :=
  let control := controlBlockWords (loadedControlBlock 0 firstProgram)
  let manifest := manifestWords (loadedManifest 0 firstProgram)
  [{ quietIn with engineEnable := false }, quietIn, quietIn] ++
    (([0, 1, 2, 3, 4, 5, 8, 9, 12, 13, 14].map (control.getD · 0) ++ [manifest.getD 14 0]).map
      readIns).flatten

theorem firstSlot_served :
    Along WbPlc.step (fun s i => ∃ loaded, ServesSlots loaded s i) (WbPlc.reset 0 0)
      firstSlotIns := by
  have hserves : Along WbPlc.step (ServesSlots firstProgram) (WbPlc.reset 0 0) firstSlotIns := by
    decide +kernel
  exact hserves.mono fun _ _ h => ⟨firstProgram, h⟩

/-- The machine takes 512 for the scratch base of the first slot. -/
theorem firstSlot_not_agrees :
    ¬ Along WbPlc.step AgreesOnLayout (WbPlc.reset 0 0) firstSlotIns := by
  intro h
  have hsplit : firstSlotIns =
      firstSlotIns.take 26 ++ { quietIn with ack := true, dat := 512 } :: [] := by
    decide +kernel
  rw [hsplit] at h
  exact absurd (h.at_run.scratchBase (by decide +kernel)) (by decide +kernel)

theorem firstSlot_agreesOnLayout_iff :
    (Along WbPlc.step AgreesOnLayout (WbPlc.reset 0 0) firstSlotIns ↔
      Along WbPlc.step (fun s i => takesScratchBase s i = false) (WbPlc.reset 0 0) firstSlotIns) ∧
    Along WbPlc.step EdgeOutsideScratch (WbPlc.reset 0 0) firstSlotIns ∧
    (Along (observed WbPlc.step noteEntry) Addressed (WbPlc.reset 0 0, EntryNote.reset)
      firstSlotIns →
      Along WbPlc.step EntryInTimers (WbPlc.reset 0 0) firstSlotIns) ∧
    allSlotRegions.Pairwise RegionsDisjoint :=
  agreesOnLayout_iff firstSlot_served

end NodeNet.Vm

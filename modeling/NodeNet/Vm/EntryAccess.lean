import NodeNet.Vm.Addressing

/-! Which timer and counter entries the machine reads and writes. -/
namespace NodeNet.Vm
open NodeNet.Machine

def opcodeIsEntry (opcode : UInt8) : Bool := opcodeIsTimer opcode || opcodeIsCounter opcode

def opcodePreparesEntry (opcode : UInt8) : Bool :=
  opcodeIsTimerStart opcode || opcodeIsCounterCount opcode

/-- The address of the last entry that an instruction prepared, and the words answered last from
the control block for the table, each with its address. -/
structure EntryNote where
  prepared : UInt32
  timerBase : UInt32 × UInt32
  timerCount : UInt32 × UInt32

def EntryNote.reset : EntryNote := ⟨0, (0, 0), (0, 0)⟩

def noteEntry (s : WbPlc) (i : In) (n : EntryNote) : EntryNote where
  prepared :=
    if s.state.preparesEntry && (s.step i).state.readsEntry then
      timerEntryAddr s.cb.timerBase s.currentRuntimeIndex
    else n.prepared
  timerBase :=
    if s.state = .readCbTimerBase && s.bus.cyc && i.ack then (s.bus.adr, i.dat) else n.timerBase
  timerCount :=
    if s.state = .readCbTimerCount && s.bus.cyc && i.ack then (s.bus.adr, i.dat)
    else n.timerCount

/-- A timer or counter instruction accesses its entry in the table of the slot it executes in. -/
def OwnEntry (p : WbPlc × EntryNote) (i : In) : Prop :=
  p.1.state.executes = true → opcodeIsEntry p.1.currentOpcode = true →
    ∀ addr ∈ accessStarted p.1 i,
      p.2.timerBase.1 = slotControlBlockAddr p.1.activeSlot + 48 ∧
      p.2.timerCount.1 = slotControlBlockAddr p.1.activeSlot + 52 ∧
      p.1.currentRuntimeIndex.toUInt32 < p.2.timerCount.2 ∧
      (addr - timerEntryAddr p.2.timerBase.2 p.1.currentRuntimeIndex).toNat + 4 ≤ 16

instance (p : WbPlc × EntryNote) (i : In) : Decidable (OwnEntry p i) :=
  @instDecidableForall _ _ _ (@instDecidableForall _ _ _ (Option.decidableForallMem _))

/-- An instruction that does not prepare its entry, and passes its checks, finds it prepared. -/
def Addressed (p : WbPlc × EntryNote) (_ : In) : Prop :=
  p.1.state.readsEntry = true → opcodePreparesEntry p.1.currentOpcode = false →
    p.1.bus.cyc = false → p.1.accessAddr ≠ none →
    p.2.prepared = timerEntryAddr p.1.cb.timerBase p.1.currentRuntimeIndex

instance (p : WbPlc × EntryNote) (i : In) : Decidable (Addressed p i) :=
  inferInstanceAs (Decidable (_ → _ → _ → _ → _))

/-- The control block answers with a timer base at a multiple of the entry's size. -/
def AlignedBase (p : WbPlc × EntryNote) (i : In) : Prop :=
  p.1.state = .readCbTimerBase → p.1.bus.cyc = true → i.ack = true → i.dat.toNat % 16 = 0

def State.hasTimerBase : State → Bool
  | .idle | .nextSlot | .readCbMagic | .readCbHeader | .readCbControl | .readCbStatus | .readCbPc
  | .readCbCycle | .readCbCodeBase | .readCbCodeSize | .readCbTimerBase => false
  | _ => true

def State.hasTimerCount (state : State) : Bool := state.hasTimerBase && state ≠ .readCbTimerCount

/-- The notes on the table agree with the registers of the slot. -/
structure TableNoted (n : EntryNote) (s : WbPlc) : Prop where
  timerBase : s.state.hasTimerBase = true →
    n.timerBase = (slotControlBlockAddr s.activeSlot + 48, s.cb.timerBase)
  timerCount : s.state.hasTimerCount = true →
    n.timerCount = (slotControlBlockAddr s.activeSlot + 52, s.cb.timerCount)

def WbPlc.HoldsEntry (s : WbPlc) : Prop :=
  s.data.timerEntryBaseAddr = timerEntryAddr s.cb.timerBase s.currentRuntimeIndex

variable {s : WbPlc}

theorem step_slotAddr (i : In)
    (h : s.state ≠ .idle → s.controlBlockAddr = slotControlBlockAddr s.activeSlot) :
    (s.step i).state ≠ .idle →
      (s.step i).controlBlockAddr = slotControlBlockAddr (s.step i).activeSlot := by
  by_cases hsweep : s.state = .idle ∨ s.state = .nextSlot
  · exact (step_sweeps hsweep).addr
  · rw [not_or] at hsweep
    have hsame := step_sameSlot s i hsweep.1 hsweep.2
    intro _
    rw [hsame.controlBlockAddr, hsame.activeSlot, h hsweep.1]

variable {i : In} {addr : UInt32}

theorem readCb_state {P : State → Prop} {done : UInt32 → WbPlc → WbPlc} (h : P s.state)
    (hdone : ∀ w t, P (done w t).state) : P (readCb i s addr done).state := by
  unfold readCb
  split
  · exact h
  · split
    · exact hdone _ _
    · exact h

theorem step_readCb_cases {done : UInt32 → WbPlc → WbPlc} (hbus : s.OnBus)
    (hstep : s.step i = readCb i (s.latch i) addr done) (haddr : s.accessAddr = some addr) :
    ((s.bus.cyc && i.ack) = false ∧ (s.step i).state = s.state ∧ (s.step i).cb = s.cb) ∨
      ((s.bus.cyc && i.ack) = true ∧ s.bus.adr = addr ∧
        s.step i = done i.dat (s.latch i).finishBusCycle) := by
  have hb : (s.latch i).bus = s.bus := rfl
  rw [hstep]
  unfold readCb
  rw [hb]
  cases hcyc : s.bus.cyc with
  | false => exact .inl ⟨rfl, rfl, rfl⟩
  | true =>
    cases hack : i.ack with
    | false => exact .inl ⟨rfl, rfl, rfl⟩
    | true => exact .inr ⟨rfl, Option.some.inj ((hbus hcyc).1.symm.trans haddr), rfl⟩

theorem step_hasTimerBase (i : In) (h : s.state.hasTimerBase = false)
    (hbase : s.state ≠ .readCbTimerBase) : (s.step i).state.hasTimerBase = false := by
  have hsweep : s.state = .idle ∨ s.state = .nextSlot → (s.step i).state.hasTimerBase = false := by
    intro hs
    have hsweeps := (step_sweeps (i := i) hs).sweeps
    generalize (s.step i).state = state at hsweeps
    cases state <;> first | rfl | cases hsweeps
  have hl : (s.latch i).state = s.state := rfl
  by_cases hs : s.state = .idle ∨ s.state = .nextSlot
  · exact hsweep hs
  · unfold WbPlc.step
    dsimp only
    rw [hl]
    cases hst : s.state <;> rw [hst] at h hbase hs
    all_goals first
      | (cases h; done)
      | skip
    case idle => exact absurd (.inl rfl) hs
    case nextSlot => exact absurd (.inr rfl) hs
    case readCbTimerBase => exact absurd rfl hbase
    all_goals
      refine readCb_state (P := fun state => state.hasTimerBase = false) (by rw [hl, hst]; rfl)
        fun _ _ => ?_
      first
        | rfl
        | (dsimp only; split <;> rfl)

theorem step_readCbTimerBase (i : In) (h : s.state = .readCbTimerBase) :
    s.step i = loadCb i (s.latch i) 48 .readCbTimerCount
      fun word cb => { cb with timerBase := word } := by
  have hl : (s.latch i).state = .readCbTimerBase := h
  unfold WbPlc.step
  dsimp only
  rw [hl]

theorem step_readCbTimerCount (i : In) (h : s.state = .readCbTimerCount) :
    s.step i = loadCb i (s.latch i) 52 .readCbMaxInstr
      fun word cb => { cb with timerCount := word } := by
  have hl : (s.latch i).state = .readCbTimerCount := h
  unfold WbPlc.step
  dsimp only
  rw [hl]

theorem step_timers (i : In) (h : s.state.hasTimerCount = true)
    (hserves : s.state.serves s.currentOpcode = true) :
    (s.step i).cb.timerBase = s.cb.timerBase ∧ (s.step i).cb.timerCount = s.cb.timerCount := by
  cases hloads : s.state.loadsCb with
  | false =>
    rw [(step_keeps i hserves).cb hloads]
    exact ⟨rfl, rfl⟩
  | true =>
    have hl : (s.latch i).state = s.state := rfl
    unfold WbPlc.step
    dsimp only
    rw [hl]
    cases hst : s.state <;> rw [hst] at h hloads
    all_goals first
      | (cases h; done)
      | (cases hloads; done)
      | skip
    all_goals
      dsimp only [loadCb, readCb]
      repeat' split
      all_goals exact ⟨rfl, rfl⟩

/-- What a cycle of the machine knows about itself. -/
structure Reached (s : WbPlc) : Prop where
  onBus : s.OnBus
  serves : s.state.serves s.currentOpcode = true
  slotAddr : s.state ≠ .idle → s.controlBlockAddr = slotControlBlockAddr s.activeSlot

theorem reached_reset (adr dat : UInt32) : Reached (WbPlc.reset adr dat) where
  onBus := onBus_reset adr dat
  serves := rfl
  slotAddr := fun h => absurd rfl h

theorem Reached.step (h : Reached s) (i : In) : Reached (s.step i) where
  onBus := OnBus.step h.onBus
  serves := (step_keeps i h.serves).serves
  slotAddr := step_slotAddr i h.slotAddr

variable {state : State}

theorem State.ne_idle_of_hasTimerBase (h : state.hasTimerBase = true) :
    state ≠ .idle ∧ state ≠ .nextSlot := by
  cases state <;> first | (cases h; done) | exact ⟨nofun, nofun⟩

theorem State.hasTimerBase_of_hasTimerCount (h : state.hasTimerCount = true) :
    state.hasTimerBase = true := by
  simp only [State.hasTimerCount, Bool.and_eq_true] at h
  exact h.1

theorem step_activeSlot (i : In) (h : s.state.hasTimerBase = true) :
    (s.step i).activeSlot = s.activeSlot := by
  have hne := State.ne_idle_of_hasTimerBase h
  exact (step_sameSlot s i hne.1 hne.2).activeSlot

theorem TableNoted.load_timerBase {n : EntryNote} (h : Reached s)
    (hst : s.state = .readCbTimerBase) : TableNoted (noteEntry s i n) (s.step i) := by
  have hslot := (step_sameSlot s i (by rw [hst]; nofun) (by rw [hst]; nofun)).activeSlot
  have hread : s.accessAddr = some (s.controlBlockAddr + 48) := by
    simp only [WbPlc.accessAddr, hst]
  obtain ⟨-, hstate, -⟩ | ⟨hans, hadr, hdone⟩ :=
    step_readCb_cases h.onBus (step_readCbTimerBase i hst) hread
  · refine ⟨fun hn => ?_, fun hn => ?_⟩
    · rw [hstate, hst] at hn
      cases hn
    · rw [hstate, hst] at hn
      cases hn
  · refine ⟨fun _ => ?_, fun hn => ?_⟩
    · have hnote : (noteEntry s i n).timerBase = (s.bus.adr, i.dat) := by
        simp only [Bool.and_eq_true] at hans
        simp [noteEntry, hst, hans]
      have hadr' : s.bus.adr = slotControlBlockAddr s.activeSlot + 48 := by
        rw [← h.slotAddr (by rw [hst]; nofun)]
        exact hadr
      rw [hnote, hslot, hadr', hdone]
    · rw [hdone] at hn
      cases hn

theorem TableNoted.load_timerCount {n : EntryNote} (h : Reached s)
    (hst : s.state = .readCbTimerCount) (ht : TableNoted n s) :
    TableNoted (noteEntry s i n) (s.step i) := by
  have hslot := (step_sameSlot s i (by rw [hst]; nofun) (by rw [hst]; nofun)).activeSlot
  have hread : s.accessAddr = some (s.controlBlockAddr + 52) := by
    simp only [WbPlc.accessAddr, hst]
  have hbase : (noteEntry s i n).timerBase = n.timerBase := by
    simp [noteEntry, hst]
  have hnoted := ht.timerBase (by rw [hst]; rfl)
  obtain ⟨-, hstate, hcb⟩ | ⟨hans, hadr, hdone⟩ :=
    step_readCb_cases h.onBus (step_readCbTimerCount i hst) hread
  · refine ⟨fun _ => ?_, fun hn => ?_⟩
    · rw [hbase, hslot, hcb, hnoted]
    · rw [hstate, hst] at hn
      cases hn
  · refine ⟨fun _ => ?_, fun _ => ?_⟩
    · rw [hbase, hslot, hnoted, hdone]
      rfl
    · have hnote : (noteEntry s i n).timerCount = (s.bus.adr, i.dat) := by
        simp only [Bool.and_eq_true] at hans
        simp [noteEntry, hst, hans]
      have hadr' : s.bus.adr = slotControlBlockAddr s.activeSlot + 52 := by
        rw [← h.slotAddr (by rw [hst]; nofun)]
        exact hadr
      rw [hnote, hslot, hadr', hdone]

theorem TableNoted.step {n : EntryNote} (i : In) (h : Reached s) (ht : TableNoted n s) :
    TableNoted (noteEntry s i n) (s.step i) := by
  by_cases hbase : s.state = .readCbTimerBase
  · exact .load_timerBase h hbase
  · by_cases hcount : s.state = .readCbTimerCount
    · exact ht.load_timerCount h hcount
    · have hnbase : (noteEntry s i n).timerBase = n.timerBase := by simp [noteEntry, hbase]
      have hncount : (noteEntry s i n).timerCount = n.timerCount := by simp [noteEntry, hcount]
      cases hhas : s.state.hasTimerBase with
      | false =>
        have hnone := step_hasTimerBase i hhas hbase
        refine ⟨fun hn => ?_, fun hn => ?_⟩
        · cases hnone.symm.trans hn
        · cases hnone.symm.trans (State.hasTimerBase_of_hasTimerCount hn)
      | true =>
        have hhas' : s.state.hasTimerCount = true := by simp [State.hasTimerCount, hhas, hcount]
        obtain ⟨hbase', hcount'⟩ := step_timers i hhas' h.serves
        refine ⟨fun _ => ?_, fun _ => ?_⟩
        · rw [hnbase, ht.timerBase hhas, step_activeSlot i hhas, hbase']
        · rw [hncount, ht.timerCount hhas', step_activeSlot i hhas, hcount']


/-- The notes agree with the machine, and an instruction under way holds its entry's address. -/
structure EntryInv (p : WbPlc × EntryNote) : Prop where
  reached : Reached p.1
  table : TableNoted p.2 p.1
  prepared : p.2.prepared = p.1.data.timerEntryBaseAddr
  entry : p.1.state.executes = true → opcodeIsEntry p.1.currentOpcode = true →
    p.1.state.preparesEntry = false →
    (p.1.state.readsEntry = true →
      p.1.bus.cyc = true ∨ opcodePreparesEntry p.1.currentOpcode = true) →
    p.1.HoldsEntry

variable {p : WbPlc × EntryNote}

theorem prepared_step (i : In) (h : EntryInv p) :
    (noteEntry p.1 i p.2).prepared = (p.1.step i).data.timerEntryBaseAddr := by
  obtain ⟨s, n⟩ := p
  cases hprep : s.state.preparesEntry with
  | false =>
    rw [step_timerEntry i hprep h.reached.serves]
    simpa [noteEntry, hprep] using h.prepared
  | true =>
    obtain ⟨hstate, haddr⟩ | ⟨hreads, -, haddr⟩ := step_preparesEntry i hprep
    · rw [haddr]
      simpa [noteEntry, hprep, hstate, State.readsEntry] using h.prepared
    · rw [haddr]
      simp [noteEntry, hprep, hreads]

def State.accessesEntry : State → Bool
  | .timerReadWord0 | .timerReadWord1 | .timerReadFlags
  | .timerWriteWord0 | .timerWriteWord1 | .timerWriteFlags
  | .counterReadWord0 | .counterReadWord1 | .counterReadFlags
  | .counterWriteWord0 | .counterWriteWord1 | .counterWriteFlags => true
  | _ => false

variable {opcode : UInt8}

theorem of_contains {test : UInt8 → Bool} {b : Bool} {opcodes : List UInt8}
    (h : opcodes.contains opcode = true) (hall : (opcodes.all fun o => test o == b) = true) :
    test opcode = b :=
  eq_of_beq (List.all_eq_true.mp hall opcode (List.contains_iff_mem.mp h))

theorem of_decide_eq {test : UInt8 → Bool} {b : Bool} {other : UInt8}
    (h : decide (opcode = other) = true) (hother : test other = b) : test opcode = b := by
  rw [of_decide_eq_true h]
  exact hother

theorem not_entry_of_pointAccess (h : opcodeIsPointAccess opcode = true) :
    opcodeIsEntry opcode = false := of_contains h rfl

theorem State.entry_of_serves (hexec : state.executes = true) (hserves : state.serves opcode = true)
    (hentry : opcodeIsEntry opcode = true) :
    state.preparesEntry = true ∨ state.accessesEntry = true := by
  have hedge : opcodeIsEdge opcode = true → opcodeIsEntry opcode = false :=
    fun h => of_contains h rfl
  have hwrites : opcodeWritesInt16 opcode = true → opcodeIsEntry opcode = false :=
    fun h => of_contains h rfl
  have hstore : opcodeIsWideStore opcode = true → opcodeIsEntry opcode = false :=
    fun h => of_contains h rfl
  have hload : opcodeIsWideLoad opcode = true → opcodeIsEntry opcode = false :=
    fun h => of_contains h rfl
  have hno : opcodeIsEntry opcode ≠ false := by simp [hentry]
  cases state <;> cases hexec
  all_goals first
    | exact .inl rfl
    | exact .inr rfl
    | exact absurd (of_decide_eq hserves rfl) hno
    | exact absurd (hedge hserves) hno
    | exact absurd (hwrites hserves) hno
    | exact absurd (hstore hserves) hno
    | exact absurd (of_contains hserves rfl) hno
    | (cases (Bool.or_eq_true _ _).mp hserves with
        | inl h => first
          | exact absurd (hedge h) hno
          | exact absurd (hwrites h) hno
          | exact absurd (hload h) hno
          | exact absurd (of_decide_eq h rfl) hno
        | inr h => first
          | exact absurd (not_entry_of_pointAccess h) hno
          | exact absurd (hwrites h) hno
          | exact absurd (hstore h) hno)

theorem State.isEntry_of_serves (hstate : state.preparesEntry = true ∨ state.accessesEntry = true)
    (hserves : state.serves opcode = true) : opcodeIsEntry opcode = true := by
  cases state <;> first | (simp [State.preparesEntry, State.accessesEntry] at hstate; done) | skip
  all_goals
    simp only [State.serves, Bool.or_eq_true] at hserves
    simp [opcodeIsEntry, opcodeIsTimer, opcodeIsCounter] at hserves ⊢
    grind

theorem Enters.readsEntry (h : Enters opcode state) (haccesses : state.accessesEntry = true) :
    state.readsEntry = true ∧ opcodePreparesEntry opcode = false := by
  cases h with
  | operand1 =>
    unfold afterOperand1 at haccesses ⊢
    split at haccesses
    · cases haccesses
    · split at haccesses
      · cases haccesses
      · split at haccesses
        · cases haccesses
        case _ hpush hjump hprep =>
          have hprep' : opcodePreparesEntry opcode = false := by
            simpa [opcodePreparesEntry] using hprep
          rw [if_neg hpush, if_neg hjump, if_neg hprep]
          refine ⟨?_, hprep'⟩
          split at haccesses <;> rename_i htimer
          · rw [if_pos htimer]
            rfl
          · rw [if_neg htimer]
            split at haccesses <;> rename_i hcounter
            · rw [if_pos hcounter]
              rfl
            · cases haccesses
  | immediate1 =>
    unfold afterImmediate1 at haccesses
    split at haccesses <;> cases haccesses
  | immediate3 =>
    unfold afterImmediate3 at haccesses
    split at haccesses
    · cases haccesses
    · split at haccesses <;> cases haccesses
  | float => cases haccesses

theorem step_readsEntry_of_none (i : In) (h : s.state.readsEntry = true)
    (hnone : s.accessAddr = none) : (s.step i).state = .faultWriteStatus := by
  have hacts : s.state.acts = true := by
    generalize s.state = state at h
    cases state <;> first | rfl | cases h
  rw [step_of_acts i hacts]
  unfold WbPlc.accessAddr at hnone
  unfold execute
  generalize s.state = state at h hnone
  cases state <;> cases h
  all_goals
    dsimp only at hnone ⊢
    unfold withEntry
    split
    case isTrue => rfl
    case isFalse hvalid =>
      rw [if_pos (entryAccess_eq_none.mp hnone
        (by simp only [entryValid, hvalid, decide_false, Bool.not_false]))]
      rfl

theorem EntryInv.holdsEntry (h : EntryInv p) (hcond : Addressed p i)
    (hexec : p.1.state.executes = true) (hentry : opcodeIsEntry p.1.currentOpcode = true)
    (hprep : p.1.state.preparesEntry = false)
    (hpasses : p.1.state.readsEntry = true → p.1.bus.cyc = false → p.1.accessAddr ≠ none) :
    p.1.HoldsEntry := by
  by_cases hunder : p.1.state.readsEntry = true →
      p.1.bus.cyc = true ∨ opcodePreparesEntry p.1.currentOpcode = true
  · exact h.entry hexec hentry hprep hunder
  · -- the instruction has still to start its first access, so the condition speaks about it
    simp only [Classical.not_imp, not_or, Bool.not_eq_true] at hunder
    obtain ⟨hread, hcyc, hno⟩ := hunder
    unfold WbPlc.HoldsEntry
    rw [← h.prepared]
    exact hcond hread hno hcyc (hpasses hread hcyc)

theorem EntryInv.step_entry (h : EntryInv p) (hcond : Addressed p i)
    (hexec : (p.1.step i).state.executes = true)
    (hentry : opcodeIsEntry (p.1.step i).currentOpcode = true)
    (hprep : (p.1.step i).state.preparesEntry = false)
    (hreads : (p.1.step i).state.readsEntry = true →
      (p.1.step i).bus.cyc = true ∨ opcodePreparesEntry (p.1.step i).currentOpcode = true) :
    (p.1.step i).HoldsEntry := by
  obtain ⟨s, n⟩ := p
  cases hs : s.state.executes with
  | false =>
    obtain ⟨hcyc, henters⟩ := step_enters i h.reached.onBus hs hexec
    have hserves := (step_keeps i h.reached.serves).serves
    have haccesses : (s.step i).state.accessesEntry = true := by
      cases State.entry_of_serves hexec hserves hentry with
      | inl hp => cases hprep.symm.trans hp
      | inr ha => exact ha
    obtain ⟨hread, hno⟩ := henters.readsEntry haccesses
    cases hreads hread with
    | inl hc => cases hcyc.symm.trans hc
    | inr hp => cases hno.symm.trans hp
  | true =>
    have hop := step_operands i (State.acts_of_executes hs)
    have hcb : (s.step i).cb = s.cb := congrArg Operands.cb hop
    have hindex : (s.step i).currentRuntimeIndex = s.currentRuntimeIndex :=
      congrArg Operands.runtimeIndex hop
    have hopcode : (s.step i).currentOpcode = s.currentOpcode := congrArg Operands.opcode hop
    unfold WbPlc.HoldsEntry
    rw [hcb, hindex]
    cases hsprep : s.state.preparesEntry with
    | true =>
      obtain ⟨hfault, -⟩ | ⟨-, -, haddr⟩ := step_preparesEntry i hsprep
      · rw [hfault] at hexec
        cases hexec
      · exact haddr
    | false =>
      rw [step_timerEntry i hsprep h.reached.serves]
      refine h.holdsEntry hcond hs (hopcode ▸ hentry) hsprep fun hread _ hnone => ?_
      rw [step_readsEntry_of_none i hread hnone] at hexec
      cases hexec

theorem EntryInv.step (h : EntryInv p) (hcond : Addressed p i) :
    EntryInv (observed WbPlc.step noteEntry p i) where
  reached := h.reached.step i
  table := h.table.step i h.reached
  prepared := prepared_step i h
  entry := h.step_entry hcond

theorem entryInv_reset (adr dat : UInt32) : EntryInv (WbPlc.reset adr dat, EntryNote.reset) where
  reached := reached_reset adr dat
  table := ⟨fun h => (by cases h), fun h => (by cases h)⟩
  prepared := rfl
  entry := fun h => by cases h

theorem accessAddr_of_entry (haccesses : s.state.accessesEntry = true)
    (h : s.accessAddr = some addr) : entryValid s = true ∧
      ∃ offset, (offset = 0 ∨ offset = 4 ∨ offset = 8) ∧
        s.data.timerEntryBaseAddr + offset = addr := by
  unfold WbPlc.accessAddr at h
  generalize s.state = state at h haccesses
  cases state <;> cases haccesses
  all_goals
    obtain ⟨hvalid, -, haddr⟩ := entryAccess_eq_some.mp h
    exact ⟨hvalid, _, by simp, haddr⟩

theorem EntryInv.accesses (h : EntryInv p) (hexec : p.1.state.executes = true)
    (hentry : opcodeIsEntry p.1.currentOpcode = true) (haddr : addr ∈ accessStarted p.1 i) :
    p.1.state.accessesEntry = true ∧ p.1.bus.cyc = false ∧ p.1.accessAddr = some addr := by
  rw [accessStarted_eq i h.reached.onBus] at haddr
  cases hcyc : p.1.bus.cyc with
  | true => simp [hcyc] at haddr
  | false =>
    have haddr' : p.1.accessAddr = some addr := by simpa [hcyc] using haddr
    cases State.entry_of_serves hexec h.reached.serves hentry with
    | inl hprep =>
      unfold WbPlc.accessAddr at haddr'
      generalize p.1.state = state at hprep haddr'
      cases state <;> cases hprep <;> cases haddr'
    | inr haccesses => exact ⟨haccesses, rfl, haddr'⟩

theorem EntryInv.ownEntry (h : EntryInv p) (hcond : Addressed p i) : OwnEntry p i := by
  intro hexec hentry addr haddr
  obtain ⟨haccesses, hcyc, haddr⟩ := h.accesses hexec hentry haddr
  obtain ⟨s, n⟩ := p
  obtain ⟨hvalid, offset, hoffset, rfl⟩ := accessAddr_of_entry haccesses haddr
  have hprep : s.state.preparesEntry = false := by
    generalize s.state = state at haccesses
    cases state <;> first | rfl | cases haccesses
  have hholds := h.holdsEntry hcond hexec hentry hprep fun _ _ => by simp [haddr]
  have hbase : s.state.hasTimerBase = true ∧ s.state.hasTimerCount = true := by
    generalize s.state = state at haccesses
    cases state <;> first | exact ⟨rfl, rfl⟩ | cases haccesses
  rw [h.table.timerBase hbase.1, h.table.timerCount hbase.2]
  refine ⟨rfl, rfl, ?_, ?_⟩
  · simp [entryValid] at hvalid
    exact hvalid.2
  · rw [hholds, UInt32.add_comm, UInt32.add_sub_cancel]
    obtain rfl | rfl | rfl := hoffset <;> decide

/-- The prepared entry and the table are aligned. -/
structure Aligned (p : WbPlc × EntryNote) : Prop where
  prepared : p.2.prepared.toNat % 16 = 0
  timerBase : p.1.state.hasTimerBase = true → p.1.cb.timerBase.toNat % 16 = 0

theorem timerEntryAddr_aligned {base : UInt32} (h : base.toNat % 16 = 0) (index : UInt16) :
    (timerEntryAddr base index).toNat % 16 = 0 := by
  have h16 : (16 : UInt32).toNat = 16 := rfl
  rw [timerEntryAddr, UInt32.toNat_add, UInt32.toNat_mul, h16]
  omega

theorem eq_of_aligned {a b : UInt32} (ha : a.toNat % 16 = 0) (hb : b.toNat % 16 = 0)
    (h : (a - b).toNat + 4 ≤ 16) : a = b := by
  rw [UInt32.toNat_sub] at h
  apply UInt32.toNat_inj.mp
  have := a.toNat_lt
  have := b.toNat_lt
  omega

theorem Aligned.step (h : Aligned p) (hinv : EntryInv p) (hbase : AlignedBase p i) :
    Aligned (observed WbPlc.step noteEntry p i) := by
  obtain ⟨s, n⟩ := p
  refine ⟨?_, fun hhas => ?_⟩
  · change (noteEntry s i n).prepared.toNat % 16 = 0
    unfold noteEntry
    dsimp only
    split
    case isTrue hprep =>
      simp only [Bool.and_eq_true] at hprep
      refine timerEntryAddr_aligned (h.timerBase ?_) _
      have hp := hprep.1
      generalize s.state = state at hp
      cases state <;> first | rfl | cases hp
    case isFalse => exact h.prepared
  · by_cases hst : s.state = .readCbTimerBase
    · have hread : s.accessAddr = some (s.controlBlockAddr + 48) := by
        simp only [WbPlc.accessAddr, hst]
      obtain ⟨-, hstate, -⟩ | ⟨hans, -, hdone⟩ :=
        step_readCb_cases hinv.reached.onBus (step_readCbTimerBase i hst) hread
      · change (s.step i).state.hasTimerBase = true at hhas
        rw [hstate, hst] at hhas
        cases hhas
      · simp only [Bool.and_eq_true] at hans
        change (s.step i).cb.timerBase.toNat % 16 = 0
        rw [hdone]
        exact hbase hst hans.1 hans.2
    · cases hbefore : s.state.hasTimerBase with
      | false => cases (step_hasTimerBase i hbefore hst).symm.trans hhas
      | true =>
        have hn : (noteEntry s i n).timerBase = n.timerBase := by simp [noteEntry, hst]
        have hafter := (hinv.table.step i hinv.reached).timerBase hhas
        rw [hn, hinv.table.timerBase hbefore] at hafter
        change (s.step i).cb.timerBase.toNat % 16 = 0
        rw [← (Prod.mk.inj hafter).2]
        exact h.timerBase hbefore

theorem EntryInv.addressed (h : EntryInv p) (halign : Aligned p) (hown : OwnEntry p i) :
    Addressed p i := by
  intro hread hno hcyc hpasses
  obtain ⟨s, n⟩ := p
  have hstates : s.state.executes = true ∧ s.state.accessesEntry = true ∧
      s.state.hasTimerBase = true := by
    generalize s.state = state at hread
    cases state <;> first | exact ⟨rfl, rfl, rfl⟩ | cases hread
  have hentry := State.isEntry_of_serves (.inr hstates.2.1) h.reached.serves
  obtain ⟨addr, haddr⟩ := Option.ne_none_iff_exists'.mp hpasses
  have hstarted : addr ∈ accessStarted s i := by
    rw [accessStarted_eq i h.reached.onBus, hcyc]
    exact haddr
  have hzero : s.data.timerEntryBaseAddr = addr := by
    unfold WbPlc.accessAddr at haddr
    dsimp only at hread
    generalize s.state = state at haddr hread
    cases state <;> cases hread
    all_goals simpa using (entryAccess_eq_some.mp haddr).2.2
  obtain ⟨-, -, -, hwithin⟩ := hown hstates.1 hentry addr hstarted
  rw [h.table.timerBase hstates.2.2, ← hzero, ← h.prepared] at hwithin
  exact eq_of_aligned halign.prepared
    (timerEntryAddr_aligned (halign.timerBase hstates.2.2) _) hwithin

/-- From reset, whatever the inputs: timer and counter instructions access their own entries if
each is addressed, and with aligned timer bases only then. -/
theorem accesses_own_entry (adr dat : UInt32) (inputs : List In) :
    (Along (observed WbPlc.step noteEntry) Addressed (WbPlc.reset adr dat, EntryNote.reset) inputs →
      Along (observed WbPlc.step noteEntry) OwnEntry (WbPlc.reset adr dat, EntryNote.reset)
        inputs) ∧
    (Along (observed WbPlc.step noteEntry) AlignedBase (WbPlc.reset adr dat, EntryNote.reset)
      inputs →
      Along (observed WbPlc.step noteEntry) OwnEntry (WbPlc.reset adr dat, EntryNote.reset) inputs →
      Along (observed WbPlc.step noteEntry) Addressed (WbPlc.reset adr dat, EntryNote.reset)
        inputs) := by
  constructor
  · exact along_of_inv EntryInv (fun _ _ h hcond => h.step hcond)
      (fun _ _ h hcond => h.ownEntry hcond) (entryInv_reset adr dat)
  · intro hbases howns
    have hinit : EntryInv (WbPlc.reset adr dat, EntryNote.reset) ∧
        Aligned (WbPlc.reset adr dat, EntryNote.reset) :=
      ⟨entryInv_reset adr dat, rfl, fun h => (by cases h)⟩
    refine along_of_inv (fun p => EntryInv p ∧ Aligned p) ?_ ?_ hinit (hbases.and howns)
    · intro p i ⟨hinv, halign⟩ ⟨hbase, hown⟩
      exact ⟨hinv.step (hinv.addressed halign hown), halign.step hinv hbase⟩
    · intro p i ⟨hinv, halign⟩ ⟨_, hown⟩
      exact hinv.addressed halign hown

/-- The sweep loads the first slot's control block, with one timer at 0x20300000. -/
def timerSlotIns (bytecodeSize : UInt32) : List In :=
  [{ quietIn with engineEnable := false }, quietIn, quietIn] ++
    ([magicControlBlock, 0, 0, 0, 0, 0, 0x20200000, bytecodeSize, 0x20300000, 1, 10, 0].map
      readIns).flatten ++ [quietIn]

/-- The only instruction is a `TON_DONE` of the slot's timer. -/
def tonDoneIns : List In := timerSlotIns 4 ++ readIns 0x32 ++ [quietIn, quietIn, quietIn]

/-- After reset a `TON_DONE` reads at address zero. -/
theorem tonDone_not_own :
    ¬ Along (observed WbPlc.step noteEntry) OwnEntry (WbPlc.reset 0 0, EntryNote.reset)
      (tonDoneIns ++ [quietIn]) := by
  intro h
  exact absurd h.at_run (by decide +kernel)

/-- The `TON_DONE` follows a `TON_START` of the slot's timer. -/
def tonStartIns : List In :=
  timerSlotIns 12 ++ readIns 0x3102 ++ List.replicate 5 quietIn ++ readIns 0x64 ++
    List.replicate 4 quietIn ++ ([0, 0, 0, 0, 0, 0, 0x32].map readIns).flatten ++
    List.replicate 3 quietIn ++ ([0, 100, 261].map readIns).flatten

theorem tonStart_own :
    Along (observed WbPlc.step noteEntry) OwnEntry (WbPlc.reset 0 0, EntryNote.reset) tonStartIns :=
  (accesses_own_entry 0 0 tonStartIns).1 (by decide +kernel)

end NodeNet.Vm

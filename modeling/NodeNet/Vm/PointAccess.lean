import NodeNet.Vm.EntryAccess

/-! Which bytes of the shared point states an instruction reads and writes. -/
namespace NodeNet.Vm
open NodeNet.Machine

def opcodeStoresPoint (opcode : UInt8) : Bool :=
  opcode = opcodeStoreBool || opcodeWritesInt16 opcode || opcodeIsWideStore opcode

def WordInRecord (record : Nat) (addr : UInt32) : Prop :=
  sharedPointStateBase.toNat + record * sharedPointStateStride.toNat ≤ wordAddr addr ∧
    wordAddr addr + 4 ≤
      sharedPointStateBase.toNat + (record + 1) * sharedPointStateStride.toNat

/-- The record in which the instruction's value lies. -/
def pointRecord (s : WbPlc) : Nat := s.currentImmediateU32.toNat / sharedPointStateStride.toNat

/-- A load, store, increment or decrement accesses one record of the window only. -/
def OneRecord (s : WbPlc) (i : In) : Prop :=
  s.state.executes = true → opcodeIsPointAccess s.currentOpcode = true →
    ∀ addr ∈ accessStarted s i,
      pointRecord s < edgeStateBits.toNat ∧ WordInRecord (pointRecord s) addr

instance (record : Nat) (addr : UInt32) : Decidable (WordInRecord record addr) :=
  inferInstanceAs (Decidable (_ ∧ _))

instance (s : WbPlc) (i : In) : Decidable (OneRecord s i) :=
  @instDecidableForall _ _ _ (@instDecidableForall _ _ _ (Option.decidableForallMem _))

/-- A store that does not fault is to the first word of a record. -/
def StoresAligned (s : WbPlc) (_ : In) : Prop :=
  s.state = .readDesc1 → opcodeStoresPoint s.currentOpcode = true → storeAccepted s = true →
    s.currentImmediateU32 < sharedPointStateWindowBytes →
    s.currentImmediateU32.toNat % sharedPointStateStride.toNat < 4

instance (s : WbPlc) (i : In) : Decidable (StoresAligned s i) :=
  inferInstanceAs (Decidable (_ → _ → _ → _ → _))

def State.accessesPoint : State → Bool
  | .loadBoolValue | .storeBoolReadValue | .storeBoolWriteValue0 | .storeBoolWriteStatus0
  | .storeBoolWriteStatus1 | .storeBoolWriteStatus2 | .storeBoolWriteStatus3
  | .int16ReadValue | .int16WriteValue0 | .wide32ReadValue | .wide32WriteValue0
  | .int16WriteStatus0 | .int16WriteStatus1 | .int16WriteStatus2 | .int16WriteStatus3 => true
  | _ => false

variable {state : State} {opcode : UInt8}

theorem State.point_of_serves (hexec : state.executes = true) (hserves : state.serves opcode = true)
    (hpoint : opcodeIsPointAccess opcode = true) :
    state = .readDesc0 ∨ state = .readDesc1 ∨ state.accessesPoint = true := by
  have hno : opcodeIsPointAccess opcode ≠ false := by simp [hpoint]
  have hentry : ¬(state.preparesEntry = true ∨ state.accessesEntry = true) := by
    intro hstate
    cases (not_entry_of_pointAccess hpoint).symm.trans (State.isEntry_of_serves hstate hserves)
  cases state <;> cases hexec
  all_goals first
    | exact .inl rfl
    | exact .inr (.inl rfl)
    | exact .inr (.inr rfl)
    | exact absurd (.inl rfl) hentry
    | exact absurd (.inr rfl) hentry
    | exact absurd (of_decide_eq hserves rfl) hno
    | exact absurd (of_contains hserves rfl) hno

theorem State.isPointAccess_of_serves (hstate : state.accessesPoint = true)
    (hserves : state.serves opcode = true) :
    opcodeIsPointAccess opcode = true ∧ opcodeIsEdge opcode = false := by
  have hcontains : ∀ {opcodes : List UInt8}, opcodes.contains opcode = true →
      (opcodes.all fun o => opcodeIsPointAccess o == true) = true →
      (opcodes.all fun o => opcodeIsEdge o == false) = true →
      opcodeIsPointAccess opcode = true ∧ opcodeIsEdge opcode = false :=
    fun h hpoint hedge => ⟨of_contains h hpoint, of_contains h hedge⟩
  have heq : ∀ {other : UInt8}, decide (opcode = other) = true →
      opcodeIsPointAccess other = true → opcodeIsEdge other = false →
      opcodeIsPointAccess opcode = true ∧ opcodeIsEdge opcode = false :=
    fun h hpoint hedge => ⟨of_decide_eq h hpoint, of_decide_eq h hedge⟩
  cases state <;> cases hstate
  all_goals first
    | exact heq hserves rfl rfl
    | exact hcontains hserves rfl rfl
    | (cases (Bool.or_eq_true _ _).mp hserves with
        | inl h => first
          | exact heq h rfl rfl
          | exact hcontains h rfl rfl
        | inr h => exact hcontains h rfl rfl)

/-- The address registers hold the point in the window, at the start of its record for a store. -/
structure PointAddressed (s : WbPlc) : Prop where
  inRange : s.currentImmediateU32 < sharedPointStateWindowBytes
  value : s.data.runtimeValueAddr = sharedPointStateBase + s.currentImmediateU32
  status : s.data.runtimeStatusAddr =
    sharedPointStateBase + s.currentImmediateU32 + sharedPointStateQualityOffset
  aligned : opcodeStoresPoint s.currentOpcode = true →
    s.currentImmediateU32.toNat % sharedPointStateStride.toNat < 4

structure PointInv (s : WbPlc) : Prop where
  reached : Reached s
  addressed : s.state.accessesPoint = true → PointAddressed s

theorem Enters.not_accessesPoint (h : Enters opcode state) : state.accessesPoint = false := by
  cases h
  case operand1 =>
    unfold afterOperand1
    repeat' split
    all_goals rfl
  case immediate1 =>
    unfold afterImmediate1
    split <;> rfl
  case immediate3 =>
    unfold afterImmediate3
    repeat' split
    all_goals rfl
  case float => rfl

theorem State.executes_of_accessesPoint (h : state.accessesPoint = true) :
    state.executes = true ∧ state.setsAddress = false := by
  cases state <;> first | exact ⟨rfl, rfl⟩ | cases h

variable {s : WbPlc}

theorem PointAddressed.of_same {t : WbPlc} (h : PointAddressed s) (hop : t.operands = s.operands)
    (haddr : t.data.addresses = s.data.addresses) : PointAddressed t := by
  have himm : t.currentImmediateU32 = s.currentImmediateU32 := congrArg Operands.immediate hop
  have hopcode : t.currentOpcode = s.currentOpcode := congrArg Operands.opcode hop
  have hvalue : t.data.runtimeValueAddr = s.data.runtimeValueAddr :=
    congrArg Addresses.runtimeValue haddr
  have hstatus : t.data.runtimeStatusAddr = s.data.runtimeStatusAddr :=
    congrArg Addresses.runtimeStatus haddr
  exact ⟨himm ▸ h.inRange, by rw [hvalue, himm, h.value], by rw [hstatus, himm, h.status],
    by rw [hopcode, himm]; exact h.aligned⟩

theorem step_readDesc1 (i : In) (hst : s.state = .readDesc1)
    (hedge : opcodeIsEdge s.currentOpcode = false) (hcond : StoresAligned s i)
    (haccesses : (s.step i).state.accessesPoint = true) : PointAddressed (s.step i) := by
  have hacts : s.state.acts = true := by rw [hst]; rfl
  have hop := step_operands i hacts
  have hexec : execute i s = readDesc1 s := by
    unfold execute
    rw [hst]
  rw [step_of_acts i hacts, hexec] at hop haccesses ⊢
  have hpoint := readDesc1_addressesPoint s
  generalize readDesc1 s = a at hpoint hop haccesses ⊢
  cases hpoint with
  | fault => cases haccesses
  | move _ hrange haccepted hvalue hstatus =>
    have haddr : pointAddr s = sharedPointStateBase + s.currentImmediateU32 := by
      simp [pointAddr, hedge]
    have hin : s.currentImmediateU32 < sharedPointStateWindowBytes := by
      simpa [pointInRange, hedge] using hrange
    exact ⟨hin, hvalue.trans haddr,
      hstatus.trans (congrArg (· + sharedPointStateQualityOffset) haddr),
      fun hstores => hcond hst hstores haccepted hin⟩

theorem PointInv.step {i : In} (h : PointInv s) (hcond : StoresAligned s i) :
    PointInv (s.step i) := by
  refine ⟨h.reached.step i, fun haccesses => ?_⟩
  have hexec' := (State.executes_of_accessesPoint haccesses).1
  cases hexec : s.state.executes with
  | false =>
    have henters := (step_enters i h.reached.onBus hexec hexec').2
    cases henters.not_accessesPoint.symm.trans haccesses
  | true =>
    have hacts := State.acts_of_executes hexec
    have hop := step_operands i hacts
    have hopcode : (s.step i).currentOpcode = s.currentOpcode := congrArg Operands.opcode hop
    obtain ⟨hpoint, hedge⟩ :=
      State.isPointAccess_of_serves haccesses (step_keeps i h.reached.serves).serves
    rw [hopcode] at hpoint hedge
    obtain hst | hst | hst := State.point_of_serves hexec h.reached.serves hpoint
    · have hnext : (s.step i).state = .readDesc1 := by
        rw [step_of_acts i hacts]
        unfold execute
        rw [hst]
        rfl
      rw [hnext] at haccesses
      cases haccesses
    · exact step_readDesc1 i hst hedge hcond haccesses
    · exact (h.addressed hst).of_same hop
        ((step_keeps i h.reached.serves).addresses (State.executes_of_accessesPoint hst).2)

theorem pointInv_reset (adr dat : UInt32) : PointInv (WbPlc.reset adr dat) :=
  ⟨reached_reset adr dat, fun h => by cases h⟩

theorem accessAddr_of_point {addr : UInt32} (haccesses : s.state.accessesPoint = true)
    (hserves : s.state.serves s.currentOpcode = true) (h : s.accessAddr = some addr) :
    addr = s.data.runtimeValueAddr ∨
      opcodeStoresPoint s.currentOpcode = true ∧
        ∃ offset, (offset = 0 ∨ offset = 4 ∨ offset = 8) ∧
          addr = s.data.runtimeStatusAddr + offset := by
  have hstores : ∀ {opcode : UInt8},
      decide (opcode = opcodeStoreBool) = true ∨ opcodeWritesInt16 opcode = true ∨
        opcodeIsWideStore opcode = true → opcodeStoresPoint opcode = true := by
    intro opcode hop
    simpa [opcodeStoresPoint, or_assoc] using hop
  unfold WbPlc.accessAddr at h
  generalize s.state = state at h haccesses hserves
  cases state <;> cases haccesses <;> cases h
  all_goals first
    | exact .inl rfl
    | exact .inr ⟨hstores (.inl hserves), 0, .inl rfl, (UInt32.add_zero _).symm⟩
    | exact .inr ⟨hstores (.inl hserves), 4, .inr (.inl rfl), rfl⟩
    | exact .inr ⟨hstores (.inl hserves), 8, .inr (.inr rfl), rfl⟩
    | exact .inr ⟨hstores (.inr ((Bool.or_eq_true _ _).mp hserves)), 0, .inl rfl,
        (UInt32.add_zero _).symm⟩
    | exact .inr ⟨hstores (.inr ((Bool.or_eq_true _ _).mp hserves)), 4, .inr (.inl rfl), rfl⟩
    | exact .inr ⟨hstores (.inr ((Bool.or_eq_true _ _).mp hserves)), 8, .inr (.inr rfl), rfl⟩

theorem wordInRecord_value {immediate : UInt32} (h : immediate < sharedPointStateWindowBytes) :
    WordInRecord (immediate.toNat / 80) (sharedPointStateBase + immediate) := by
  have hlt : immediate.toNat < 81920 := UInt32.lt_iff_toNat_lt.mp h
  have hbase : sharedPointStateBase.toNat = 545128448 := rfl
  have hstride : sharedPointStateStride.toNat = 80 := rfl
  have haddr : (sharedPointStateBase + immediate).toNat = 545128448 + immediate.toNat := by
    rw [UInt32.toNat_add, hbase]
    omega
  unfold WordInRecord wordAddr
  rw [haddr, hbase, hstride]
  omega

theorem wordInRecord_status {immediate offset : UInt32}
    (h : immediate < sharedPointStateWindowBytes)
    (halign : immediate.toNat % sharedPointStateStride.toNat < 4)
    (hoffset : offset = 0 ∨ offset = 4 ∨ offset = 8) :
    WordInRecord (immediate.toNat / 80)
      (sharedPointStateBase + immediate + sharedPointStateQualityOffset + offset) := by
  have hlt : immediate.toNat < 81920 := UInt32.lt_iff_toNat_lt.mp h
  have hbase : sharedPointStateBase.toNat = 545128448 := rfl
  have hstride : sharedPointStateStride.toNat = 80 := rfl
  have hquality : sharedPointStateQualityOffset.toNat = 68 := rfl
  have hsmall : offset.toNat ≤ 8 ∧ offset.toNat % 4 = 0 := by
    obtain rfl | rfl | rfl := hoffset <;> decide
  rw [hstride] at halign
  have haddr : (sharedPointStateBase + immediate + sharedPointStateQualityOffset + offset).toNat =
      545128448 + immediate.toNat + 68 + offset.toNat := by
    simp only [UInt32.toNat_add, hbase, hquality]
    omega
  unfold WordInRecord wordAddr
  rw [haddr, hbase, hstride]
  omega

theorem PointInv.oneRecord (h : PointInv s) (i : In) : OneRecord s i := by
  intro hexec hpoint addr haddr
  rw [accessStarted_eq i h.reached.onBus] at haddr
  have haccess : s.accessAddr = some addr := by
    cases hcyc : s.bus.cyc with
    | true => simp [hcyc] at haddr
    | false => simpa [hcyc] using haddr
  have haccesses : s.state.accessesPoint = true := by
    obtain hst | hst | hst := State.point_of_serves hexec h.reached.serves hpoint
    · simp [WbPlc.accessAddr, hst] at haccess
    · simp [WbPlc.accessAddr, hst] at haccess
    · exact hst
  have haddressed := h.addressed haccesses
  have hlt : s.currentImmediateU32.toNat < 81920 := UInt32.lt_iff_toNat_lt.mp haddressed.inRange
  refine ⟨?_, ?_⟩
  · change s.currentImmediateU32.toNat / 80 < 1024
    omega
  · obtain rfl | ⟨hstores, offset, hoffset, rfl⟩ :=
      accessAddr_of_point haccesses h.reached.serves haccess
    · rw [haddressed.value]
      exact wordInRecord_value haddressed.inRange
    · rw [haddressed.status]
      exact wordInRecord_status haddressed.inRange (haddressed.aligned hstores) hoffset

def State.beforeLastStatus : State → Option Nat
  | .storeBoolReadValue | .int16ReadValue | .wide32ReadValue => some 4
  | .storeBoolWriteValue0 | .int16WriteValue0 | .wide32WriteValue0 => some 3
  | .storeBoolWriteStatus0 | .int16WriteStatus0 => some 2
  | .storeBoolWriteStatus1 | .int16WriteStatus1 => some 1
  | .storeBoolWriteStatus2 | .int16WriteStatus2 => some 0
  | _ => none

/-- A bus cycle that is answered at once. -/
def answeredIns : List In := readIns 0

theorem step_start (i : In) {addr : UInt32} (hbus : s.OnBus) (hcyc : s.bus.cyc = false)
    (haddr : s.accessAddr = some addr) :
    ∃ dat, s.step i = { s.latch i with bus := ⟨true, s.state.writes, addr, dat⟩ } := by
  have hstep := step_busStep i hbus
  generalize s.step i = t at hstep
  cases hstep with
  | start _ haddr' dat =>
    obtain rfl := Option.some.inj (haddr.symm.trans haddr')
    exact ⟨dat, rfl⟩
  | wait h => cases hcyc.symm.trans h
  | free hwhy =>
    cases hwhy with
    | inl h => cases hcyc.symm.trans h.1
    | inr h => cases haddr.symm.trans h

theorem not_load_of_stores (h : opcodeStoresPoint opcode = true) :
    opcode ≠ opcodeLoadI16 ∧ opcodeIsWideLoad opcode = false := by
  simp only [opcodeStoresPoint, Bool.or_eq_true] at h
  obtain (h | h) | h := h
  · rw [of_decide_eq_true h]
    decide
  · refine ⟨?_, of_contains h rfl⟩
    rintro rfl
    cases h
  · refine ⟨?_, of_contains h rfl⟩
    rintro rfl
    cases h

theorem readWord_answered {i : In} (hcyc : s.bus.cyc = true) (hack : i.ack = true) (addr : UInt32)
    (done : UInt32 → Action) : readWord i s addr done = done i.dat := by
  simp [readWord, hcyc, hack]

theorem writeThen_answered {i : In} (hcyc : s.bus.cyc = true) (hack : i.ack = true)
    (addr data : UInt32) (state : State) :
    writeThen i s addr data state = .move true state s.data := by
  simp [writeThen, writeWord, hcyc, hack]

theorem execute_answered {i : In} {n : Nat} (hcyc : s.bus.cyc = true) (hack : i.ack = true)
    (hstores : opcodeStoresPoint s.currentOpcode = true)
    (h : s.state.beforeLastStatus = some (n + 1)) :
    ∃ state data, execute i s = .move true state data ∧
      ∃ m ≤ n, state.beforeLastStatus = some m := by
  obtain ⟨hi16, hwide⟩ := not_load_of_stores hstores
  unfold execute
  generalize s.state = state at h
  cases state <;> cases h
  all_goals dsimp only
  all_goals first
    | rw [writeThen_answered hcyc hack]
    | rw [readWord_answered hcyc hack]
  case int16ReadValue =>
    unfold int16ReadValue
    rw [if_neg hi16]
    split
    · exact ⟨_, _, rfl, 2, by omega, rfl⟩
    · exact ⟨_, _, rfl, 3, by omega, rfl⟩
  case wide32ReadValue =>
    unfold wide32ReadValue
    split
    case h_4 =>
      refine ⟨_, _, rfl, ?_⟩
      split
      · exact ⟨2, by omega, rfl⟩
      · exact ⟨3, by omega, rfl⟩
    all_goals
      rename_i hop
      rw [hop] at hwide
      cases hwide
  case storeBoolReadValue =>
    refine ⟨_, _, rfl, ?_⟩
    split
    · exact ⟨2, by omega, rfl⟩
    · exact ⟨3, by omega, rfl⟩
  all_goals exact ⟨_, _, rfl, _, Nat.le_refl _, rfl⟩

/-- A store under way in an unaligned record, between two bus cycles. -/
structure StoresUnaligned (s : WbPlc) : Prop where
  reached : Reached s
  cyc : s.bus.cyc = false
  stores : opcodeStoresPoint s.currentOpcode = true
  inRange : s.currentImmediateU32 < sharedPointStateWindowBytes
  status : s.data.runtimeStatusAddr =
    sharedPointStateBase + s.currentImmediateU32 + sharedPointStateQualityOffset
  unaligned : 4 ≤ s.currentImmediateU32.toNat % sharedPointStateStride.toNat

theorem State.of_beforeLastStatus {n : Nat} (h : state.beforeLastStatus = some n) :
    state.executes = true ∧ state.setsAddress = false ∧ state.accessesPoint = true := by
  cases state <;> first | exact ⟨rfl, rfl, rfl⟩ | cases h

theorem accessAddr_of_beforeLastStatus {n : Nat} (h : s.state.beforeLastStatus = some n) :
    ∃ addr, s.accessAddr = some addr := by
  unfold WbPlc.accessAddr
  generalize s.state = state at h
  cases state <;> first | exact ⟨_, rfl⟩ | cases h

theorem StoresUnaligned.of_same {t : WbPlc} (h : StoresUnaligned s) (hreached : Reached t)
    (hcyc : t.bus.cyc = false) (hop : t.operands = s.operands)
    (haddr : t.data.addresses = s.data.addresses) : StoresUnaligned t := by
  have himm : t.currentImmediateU32 = s.currentImmediateU32 := congrArg Operands.immediate hop
  have hopcode : t.currentOpcode = s.currentOpcode := congrArg Operands.opcode hop
  have hstatus : t.data.runtimeStatusAddr = s.data.runtimeStatusAddr :=
    congrArg Addresses.runtimeStatus haddr
  exact ⟨hreached, hcyc, hopcode ▸ h.stores, himm ▸ h.inRange, by rw [hstatus, himm, h.status],
    himm ▸ h.unaligned⟩

theorem StoresUnaligned.answered {n : Nat} (h : StoresUnaligned s)
    (hn : s.state.beforeLastStatus = some (n + 1)) :
      StoresUnaligned (run WbPlc.step s answeredIns) ∧
      ∃ m ≤ n, (run WbPlc.step s answeredIns).state.beforeLastStatus = some m := by
  obtain ⟨addr, haddr⟩ := accessAddr_of_beforeLastStatus hn
  obtain ⟨dat, hstart⟩ := step_start quietIn h.reached.onBus h.cyc haddr
  obtain ⟨hexec, hset, -⟩ := State.of_beforeLastStatus hn
  have hstate : (s.step quietIn).state = s.state := by
    rw [hstart]
    rfl
  have hcyc : (s.step quietIn).bus.cyc = true := by rw [hstart]
  have hreached := h.reached.step quietIn
  have hop := step_operands quietIn (State.acts_of_executes hexec)
  have hkeep := (step_keeps quietIn h.reached.serves).addresses hset
  have hstores : opcodeStoresPoint (s.step quietIn).currentOpcode = true := by
    rw [show (s.step quietIn).currentOpcode = s.currentOpcode from congrArg Operands.opcode hop]
    exact h.stores
  change StoresUnaligned ((s.step quietIn).step { quietIn with ack := true, dat := 0 }) ∧
    ∃ m ≤ n, ((s.step quietIn).step { quietIn with ack := true, dat := 0 }).state.beforeLastStatus
      = some m
  rw [← hstate] at hn hexec hset
  generalize s.step quietIn = t at hop hkeep hcyc hreached hstores hn hexec hset
  have hacts := State.acts_of_executes hexec
  obtain ⟨state, data, hmove, m, hm, hstage⟩ :=
    execute_answered (i := { quietIn with ack := true, dat := 0 }) hcyc rfl hstores hn
  have hstep : t.step { quietIn with ack := true, dat := 0 } =
      (t.latch { quietIn with ack := true, dat := 0 }).perform t (.move true state data) := by
    rw [step_of_acts _ hacts, hmove]
  refine ⟨h.of_same (hreached.step _) ?_ ((step_operands _ hacts).trans hop)
    (((step_keeps _ hreached.serves).addresses hset).trans hkeep), m, hm, ?_⟩
  · rw [hstep]
    rfl
  · rw [hstep]
    exact hstage

theorem not_wordInRecord_last {immediate : UInt32} (h : immediate < sharedPointStateWindowBytes)
    (hunaligned : 4 ≤ immediate.toNat % sharedPointStateStride.toNat) :
    ¬WordInRecord (immediate.toNat / 80)
      (sharedPointStateBase + immediate + sharedPointStateQualityOffset + 8) := by
  have hlt : immediate.toNat < 81920 := UInt32.lt_iff_toNat_lt.mp h
  have hbase : sharedPointStateBase.toNat = 545128448 := rfl
  have hstride : sharedPointStateStride.toNat = 80 := rfl
  have hquality : sharedPointStateQualityOffset.toNat = 68 := rfl
  have height : (8 : UInt32).toNat = 8 := rfl
  rw [hstride] at hunaligned
  have haddr : (sharedPointStateBase + immediate + sharedPointStateQualityOffset + 8).toNat =
      545128448 + immediate.toNat + 68 + 8 := by
    simp only [UInt32.toNat_add, hbase, hquality, height]
    omega
  unfold WordInRecord wordAddr
  rw [haddr, hbase, hstride]
  omega

theorem StoresUnaligned.leaves {n : Nat} (h : StoresUnaligned s)
    (hn : s.state.beforeLastStatus = some n) : ∃ inputs, ¬ Along WbPlc.step OneRecord s inputs := by
  induction n using Nat.strongRecOn generalizing s with
  | ind n ih =>
    cases n with
    | zero =>
      refine ⟨[quietIn], fun halong => ?_⟩
      have haccess : s.accessAddr = some (s.data.runtimeStatusAddr + 8) := by
        unfold WbPlc.accessAddr
        generalize s.state = state at hn
        cases state <;> cases hn <;> rfl
      have hstarted : s.data.runtimeStatusAddr + 8 ∈ accessStarted s quietIn := by
        rw [accessStarted_eq quietIn h.reached.onBus, h.cyc]
        exact haccess
      obtain ⟨hexec, -, haccesses⟩ := State.of_beforeLastStatus hn
      have hpoint := (State.isPointAccess_of_serves haccesses h.reached.serves).1
      have hrecord := (halong.1 hexec hpoint _ hstarted).2
      rw [h.status] at hrecord
      exact not_wordInRecord_last h.inRange h.unaligned hrecord
    | succ n =>
      obtain ⟨hnext, m, hm, hstage⟩ := h.answered hn
      obtain ⟨inputs, hleaves⟩ := ih m (by omega) hnext hstage
      exact ⟨answeredIns ++ inputs, fun halong => hleaves halong.of_append⟩

theorem popPending_accepted {type : StackType} (hstored : storedType s.currentOpcode = some type)
    (haccepted : storeAccepted s = true) (info : UInt32) (state : State) (kept popped : Datapath) :
    popPending s type info state kept popped = .move false state { popped with
      pendingStackValue := s.data.stack.top.value32
      stack := s.data.stack.drop1 } := by
  rw [storeAccepted, hstored] at haccepted
  simp only [Bool.and_eq_true, decide_eq_true_eq] at haccepted
  rw [popPending, if_neg haccepted.1, if_neg (Decidable.not_not.mpr haccepted.2)]

theorem edge_of_stores (h : opcodeStoresPoint opcode = true) : opcodeIsEdge opcode = false := by
  simp only [opcodeStoresPoint, Bool.or_eq_true] at h
  obtain (h | h) | h := h
  · exact of_decide_eq h rfl
  · exact of_contains h rfl
  · exact of_contains h rfl

theorem readDesc1_stores (hstores : opcodeStoresPoint s.currentOpcode = true)
    (haccepted : storeAccepted s = true)
    (hin : s.currentImmediateU32 < sharedPointStateWindowBytes) :
    ∃ state data, readDesc1 s = .move false state data ∧ state.beforeLastStatus = some 4 ∧
      data.runtimeStatusAddr =
        sharedPointStateBase + s.currentImmediateU32 + sharedPointStateQualityOffset := by
  have hedge : ¬opcodeIsEdge s.currentOpcode = true := by simp [edge_of_stores hstores]
  have hwindow : ¬sharedPointStateWindowBytes ≤ s.currentImmediateU32 := UInt32.not_le.mpr hin
  unfold readDesc1
  rw [if_neg hedge, if_neg hwindow]
  dsimp only
  split
  all_goals first
    | (rename_i hop; rw [hop] at hstores; cases hstores; done)
    | (rw [popPending_accepted (by rw [‹s.currentOpcode = _›]; rfl) haccepted]
       exact ⟨_, _, rfl, rfl, rfl⟩)
    | exact ⟨_, _, rfl, rfl, rfl⟩
    | (simp only [opcodeStoresPoint, opcodeWritesInt16, opcodeIsWideStore, Bool.or_eq_true,
         decide_eq_true_eq, List.contains_iff_mem, List.mem_cons, List.not_mem_nil, or_false]
         at hstores
       obtain (h | h | h | h) | h | h | h := hstores <;> contradiction)

theorem step_readDesc1_stores (h : Reached s) (hnot : ¬StoresAligned s quietIn) :
    StoresUnaligned (s.step quietIn) ∧
      ∃ n, (s.step quietIn).state.beforeLastStatus = some n := by
  simp only [StoresAligned, Classical.not_imp, Nat.not_lt] at hnot
  obtain ⟨hst, hstores, haccepted, hin, hunaligned⟩ := hnot
  have hacts : s.state.acts = true := by
    rw [hst]
    rfl
  have hcyc : s.bus.cyc = false := by
    cases hcyc : s.bus.cyc with
    | false => rfl
    | true =>
      have haddr := (h.onBus hcyc).1
      rw [WbPlc.accessAddr, hst] at haddr
      cases haddr
  obtain ⟨state, data, hread, hstage, hstatus⟩ := readDesc1_stores hstores haccepted hin
  have hexec : execute quietIn s = .move false state data := by
    unfold execute
    rw [hst]
    exact hread
  have hreached := h.step quietIn
  rw [step_of_acts _ hacts, hexec] at hreached ⊢
  exact ⟨⟨hreached, hcyc, hstores, hin, hstatus, hunaligned⟩, 4, hstage⟩

theorem reached_run (adr dat : UInt32) (inputs : List In) :
    Reached (run WbPlc.step (WbPlc.reset adr dat) inputs) := by
  have hstep : ∀ s i, Reached s → True → Reached (s.step i) := fun _ i h _ => h.step i
  exact run_inv hstep (reached_reset adr dat) (along_true _ _)

/-- From reset, whatever the inputs: an instruction accesses one record of the window only, if
every store that does not fault is to the first word of a record. Any other store leaves its
record as the run goes on. -/
theorem accesses_one_record (adr dat : UInt32) (inputs : List In) :
    (Along WbPlc.step StoresAligned (WbPlc.reset adr dat) inputs →
      Along WbPlc.step OneRecord (WbPlc.reset adr dat) inputs) ∧
    (¬ StoresAligned (run WbPlc.step (WbPlc.reset adr dat) inputs) quietIn →
      ∃ more, ¬ Along WbPlc.step OneRecord (WbPlc.reset adr dat) (inputs ++ more)) := by
  constructor
  · exact along_of_inv PointInv (fun _ _ h hcond => h.step hcond) (fun _ i h _ => h.oneRecord i)
      (pointInv_reset adr dat)
  · intro hnot
    obtain ⟨hunaligned, n, hstage⟩ := step_readDesc1_stores (reached_run adr dat inputs) hnot
    obtain ⟨more, hleaves⟩ := hunaligned.leaves hstage
    exact ⟨quietIn :: more, fun halong => hleaves halong.of_append.2⟩

/-- The only instruction is an `INC_INT16`; the last byte of its immediate is zero. -/
def incIns (word : UInt32) : List In :=
  timerSlotIns 5 ++ readIns word ++ List.replicate 4 quietIn ++ readIns 0 ++
    [quietIn, quietIn] ++ readIns 0 ++ readIns 0

/-- An increment at offset 76 writes its quality into the second record. -/
theorem inc_not_oneRecord :
    ¬ Along WbPlc.step OneRecord (WbPlc.reset 0 0) (incIns 0x4C20 ++ [quietIn]) := by
  intro h
  exact absurd h.at_run (by decide +kernel)

/-- An increment at offset 80 stays in the second record. -/
theorem inc_oneRecord :
    Along WbPlc.step OneRecord (WbPlc.reset 0 0) (incIns 0x5020 ++ [0, 0, 0].flatMap readIns) :=
  (accesses_one_record 0 0 _).1 (by decide +kernel)

end NodeNet.Vm

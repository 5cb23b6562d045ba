import NodeNet.Vm.EdgeMemory

/-! One timer or counter instruction, cycle by cycle, on the three words of its entry. -/
namespace NodeNet.Vm
open NodeNet.Bitmap NodeNet.Machine

/-- The registers that the words of an entry are computed from. -/
structure SameInstruction (s t : WbPlc) : Prop where
  opcode : s.currentOpcode = t.currentOpcode
  immediate : s.currentImmediateU32 = t.currentImmediateU32
  data : s.data = t.data

/-- The states of a family of instructions on entries, and what they compute at a time of the
millisecond counter. -/
structure EntryFamily where
  prepStart : State
  readWord0 : State
  readWord1 : State
  readFlags : State
  writeWord0 : State
  writeWord1 : State
  writeFlags : State
  /-- A reader that needs room on the stack. -/
  reads : UInt8 → Bool
  /-- The registers with the flags, and what a reader pushes. -/
  latch : UInt32 → WbPlc → UInt32 → Datapath
  reading : UInt32 → WbPlc → UInt32 → Option Operand
  word0 : UInt32 → WbPlc → UInt32
  word1 : WbPlc → UInt32
  flags : WbPlc → UInt32

namespace EntryFamily

def states (f : EntryFamily) : List State :=
  [f.prepStart, f.readWord0, f.readWord1, f.readFlags, f.writeWord0, f.writeWord1, f.writeFlags]

/-- A reader pushes and is done; the others go on and write. -/
def afterFlags (f : EntryFamily) (now : UInt32) (s : WbPlc) (flags : UInt32) : Action :=
  match f.reading now s flags with
  | some o => .move true .fetchOpcode
      { f.latch now s flags with stack := s.data.stack.push o.value32 o.type }
  | none => .move true f.writeWord0 (f.latch now s flags)

/-- The machine executes the family in its states. -/
structure Executes (f : EntryFamily) : Prop where
  nodup : f.states.Nodup
  executes : ∀ state ∈ f.states, state.executes = true
  prepStart : ∀ {i : In} {s : WbPlc}, s.state = f.prepStart →
    execute i s = NodeNet.Vm.prepStart s f.readWord0
  readWord0 : ∀ {i : In} {s : WbPlc}, s.state = f.readWord0 → execute i s = withEntry s
    (if f.reads s.currentOpcode && s.data.stack.full then overflow s false
      else readWord i s s.data.timerEntryBaseAddr fun value =>
        .move true f.readWord1 { s.data with valueWord0 := value })
  readWord1 : ∀ {i : In} {s : WbPlc}, s.state = f.readWord1 → execute i s = withEntry s
    (readWord i s (s.data.timerEntryBaseAddr + 4) fun value =>
      .move true f.readFlags { s.data with valueWord1 := value })
  readFlags : ∀ {i : In} {s : WbPlc}, s.state = f.readFlags → execute i s = withEntry s
    (readWord i s (s.data.timerEntryBaseAddr + 8) (f.afterFlags i.msCounter s))
  writeWord0 : ∀ {i : In} {s : WbPlc}, s.state = f.writeWord0 → execute i s = withEntry s
    (writeThen i s s.data.timerEntryBaseAddr (f.word0 i.msCounter s) f.writeWord1)
  writeWord1 : ∀ {i : In} {s : WbPlc}, s.state = f.writeWord1 → execute i s = withEntry s
    (writeThen i s (s.data.timerEntryBaseAddr + 4) (f.word1 s) f.writeFlags)
  writeFlags : ∀ {i : In} {s : WbPlc}, s.state = f.writeFlags → execute i s = withEntry s
    (writeThen i s (s.data.timerEntryBaseAddr + 8) (f.flags s) .fetchOpcode)
  latch_congr : ∀ {s t : WbPlc}, SameInstruction s t → ∀ now flags,
    f.latch now s flags = f.latch now t flags
  reading_congr : ∀ {s t : WbPlc}, SameInstruction s t → ∀ now flags,
    f.reading now s flags = f.reading now t flags
  word0_congr : ∀ {s t : WbPlc}, SameInstruction s t → ∀ now, f.word0 now s = f.word0 now t
  word1_congr : ∀ {s t : WbPlc}, SameInstruction s t → f.word1 s = f.word1 t
  flags_congr : ∀ {s t : WbPlc}, SameInstruction s t → f.flags s = f.flags t
  latch_base : ∀ now s flags,
    (f.latch now s flags).timerEntryBaseAddr = s.data.timerEntryBaseAddr
  latch_stack : ∀ now s flags, (f.latch now s flags).stack = s.data.stack

theorem Executes.acts {f : EntryFamily} (hf : f.Executes) (state : State) (h : state ∈ f.states) :
    state.acts = true := State.acts_of_executes (hf.executes state h)

end EntryFamily

/-- The machine and the memory, with the times at which the flags were read and the first word was
put out. -/
structure EntryRun where
  vm : WbPlc
  memory : Words
  readTime : Nat
  latchTime : Nat

/-- The inputs of a cycle at a time in milliseconds, with the word that the bus answers. -/
def timedIn (time : Nat) (s : WbPlc) (m : Words) (i : In) : In :=
  { i with dat := m (wordAddr s.bus.adr), msCounter := UInt32.ofNat time }

def entryCycle (f : EntryFamily) (r : EntryRun) (tick : Nat × In) : EntryRun :=
  let s := r.vm
  if s.state ∈ f.states then
    { vm := s.step (timedIn tick.1 s r.memory tick.2)
      memory := afterCycle s r.memory tick.2
      readTime := if s.state = f.readFlags && s.bus.cyc && tick.2.ack then tick.1 else r.readTime
      latchTime := if s.state = f.writeWord0 && !s.bus.cyc then tick.1 else r.latchTime }
  else r

/-- An instruction that is about to access its entry, and the cycles that follow with their
times. -/
structure EntryEvaluation where
  vm : WbPlc
  ticks : List (Nat × In)

namespace EntryEvaluation
variable (f : EntryFamily) (e : EntryEvaluation) (m : Words)

def result : EntryRun := run (entryCycle f) ⟨e.vm, m, 0, 0⟩ e.ticks

/-- The registers once the entry is prepared. -/
def entered : Datapath :=
  if e.vm.state = f.prepStart then
    { e.vm.data with
      timerEntryBaseAddr := timerEntryAddr e.vm.cb.timerBase e.vm.currentRuntimeIndex
      pendingStackValue := e.vm.data.stack.top.value32
      stack := e.vm.data.stack.drop1 }
  else e.vm.data

def addr : UInt32 := (e.entered f).timerEntryBaseAddr

/-- The words of the entry. -/
def place0 : Nat := wordAddr (e.addr f)

def place1 : Nat := wordAddr (e.addr f + 4)

def place2 : Nat := wordAddr (e.addr f + 8)

/-- The machine when it reads the flags. -/
def loaded : WbPlc :=
  { e.vm with
    data := { e.entered f with
      valueWord0 := m (e.place0 f)
      valueWord1 := m (e.place1 f) } }

/-- The machine when it writes the entry; the flags were read at the time. -/
def latched (readTime : Nat) : WbPlc :=
  { e.vm with data := f.latch (UInt32.ofNat readTime) (e.loaded f m) (m (e.place2 f)) }

def written0 (readTime latchTime : Nat) : Words :=
  m.write (e.place0 f) (f.word0 (UInt32.ofNat latchTime) (e.latched f m readTime))

def written1 (readTime latchTime : Nat) : Words :=
  (e.written0 f m readTime latchTime).write (e.place1 f) (f.word1 (e.latched f m readTime))

def written (readTime latchTime : Nat) : Words :=
  (e.written1 f m readTime latchTime).write (e.place2 f) (f.flags (e.latched f m readTime))

def reading (readTime : Nat) : Option Operand :=
  f.reading (UInt32.ofNat readTime) (e.loaded f m) (m (e.place2 f))

/-- The instruction starts off the bus, with its entry to be prepared or at the first word, and
completes. -/
structure Accepted : Prop where
  state : e.vm.state = f.prepStart ∨ e.vm.state = f.readWord0
  cyc : e.vm.bus.cyc = false
  completes : (e.result f m).vm.state = .fetchOpcode

structure Completed (r : EntryRun) : Prop where
  base : r.vm.data.timerEntryBaseAddr = e.addr f
  outcome :
    (∃ o, e.reading f m r.readTime = some o ∧ r.memory = m ∧
      r.vm.data.stack = (e.entered f).stack.push o.value32 o.type) ∨
    (e.reading f m r.readTime = none ∧ r.memory = e.written f m r.readTime r.latchTime ∧
      r.vm.data.stack = (e.entered f).stack)

/-- The registers that no cycle of the instruction changes. -/
structure Holds (s : WbPlc) : Prop where
  cb : s.cb = e.vm.cb
  index : s.currentRuntimeIndex = e.vm.currentRuntimeIndex
  opcode : s.currentOpcode = e.vm.currentOpcode
  immediate : s.currentImmediateU32 = e.vm.currentImmediateU32

end EntryEvaluation

theorem step_guardedRead {i : In} {s : WbPlc} {addr : UInt32} {done : UInt32 → Action}
    (hacts : s.state.acts = true) (h : execute i s = withEntry s (readWord i s addr done)) :
    (s.step i).state = .faultWriteStatus ∨
      (s.bus.cyc = false ∧ s.step i = (s.latch i).startRead addr) ∨
      (s.bus.cyc = true ∧ i.ack = false ∧ s.step i = s.latch i) ∨
      (s.bus.cyc = true ∧ i.ack = true ∧ s.step i = (s.latch i).perform s (done i.dat)) := by
  by_cases hentry : s.cb.timerBase = 0 ∨ s.cb.timerCount ≤ s.currentRuntimeIndex.toUInt32
  · left
    rw [step_of_acts i hacts, h, withEntry, if_pos hentry]
    rfl
  · right
    rw [withEntry, if_neg hentry] at h
    exact step_readWord hacts h

theorem step_guardedWrite {i : In} {s : WbPlc} {addr data : UInt32} {state : State}
    (hacts : s.state.acts = true) (h : execute i s = withEntry s (writeThen i s addr data state)) :
    (s.step i).state = .faultWriteStatus ∨
      (s.bus.cyc = false ∧ s.step i = (s.latch i).startWrite addr data) ∨
      (s.bus.cyc = true ∧ i.ack = false ∧ s.step i = s.latch i) ∨
      (s.bus.cyc = true ∧ i.ack = true ∧
        s.step i = { (s.latch i).finishBusCycle with state := state, data := s.data }) := by
  by_cases hentry : s.cb.timerBase = 0 ∨ s.cb.timerCount ≤ s.currentRuntimeIndex.toUInt32
  · left
    rw [step_of_acts i hacts, h, withEntry, if_pos hentry]
    rfl
  · right
    rw [withEntry, if_neg hentry] at h
    exact step_writeThen hacts h

end NodeNet.Vm

/-! What the registers, the memory and the bus hold in each state of an instruction on an entry. -/
namespace NodeNet.Vm.EntryEvaluation
open NodeNet.Bitmap NodeNet.Machine
open NodeNet.Vm.EdgeEvaluation (afterCycle_of_read)

variable {f : EntryFamily} {e : EntryEvaluation} {m : Words} {r : EntryRun} {tick : Nat × In}

/-- The state an instruction is in, and what it has read and written by then. -/
inductive Progress (f : EntryFamily) (e : EntryEvaluation) (m : Words) (r : EntryRun) : Prop
  | prepare (hs : e.Holds r.vm) (hstate : r.vm.state = f.prepStart)
      (hprepare : e.vm.state = f.prepStart) (hcyc : r.vm.bus.cyc = false)
      (hdata : r.vm.data = e.vm.data) (hmem : r.memory = m)
  | readWord0 (hs : e.Holds r.vm) (hstate : r.vm.state = f.readWord0)
      (hbus : r.vm.bus.Reads (e.addr f)) (hdata : r.vm.data = e.entered f) (hmem : r.memory = m)
  | readWord1 (hs : e.Holds r.vm) (hstate : r.vm.state = f.readWord1)
      (hbus : r.vm.bus.Reads (e.addr f + 4))
      (hdata : r.vm.data = { e.entered f with valueWord0 := m (e.place0 f) })
      (hmem : r.memory = m)
  | readFlags (hs : e.Holds r.vm) (hstate : r.vm.state = f.readFlags)
      (hbus : r.vm.bus.Reads (e.addr f + 8)) (hdata : r.vm.data = (e.loaded f m).data)
      (hmem : r.memory = m)
  | writeWord0 (hs : e.Holds r.vm) (hstate : r.vm.state = f.writeWord0)
      (hbus : r.vm.bus.Writes (e.addr f)
        (f.word0 (UInt32.ofNat r.latchTime) (e.latched f m r.readTime)))
      (hdata : r.vm.data = (e.latched f m r.readTime).data)
      (hreading : e.reading f m r.readTime = none) (hmem : r.memory = m)
  | writeWord1 (hs : e.Holds r.vm) (hstate : r.vm.state = f.writeWord1)
      (hbus : r.vm.bus.Writes (e.addr f + 4) (f.word1 (e.latched f m r.readTime)))
      (hdata : r.vm.data = (e.latched f m r.readTime).data)
      (hreading : e.reading f m r.readTime = none)
      (hmem : r.memory = e.written0 f m r.readTime r.latchTime)
  | writeFlags (hs : e.Holds r.vm) (hstate : r.vm.state = f.writeFlags)
      (hbus : r.vm.bus.Writes (e.addr f + 8) (f.flags (e.latched f m r.readTime)))
      (hdata : r.vm.data = (e.latched f m r.readTime).data)
      (hreading : e.reading f m r.readTime = none)
      (hmem : r.memory = e.written1 f m r.readTime r.latchTime)
  | done (hstate : r.vm.state = .fetchOpcode) (h : e.Completed f m r)
  | faulted (hstate : r.vm.state = .faultWriteStatus)

theorem entryCycle_of_mem (hmem : r.vm.state ∈ f.states) (hflags : r.vm.state ≠ f.readFlags)
    (hword0 : r.vm.state ≠ f.writeWord0) :
    entryCycle f r tick =
      ⟨r.vm.step (timedIn tick.1 r.vm r.memory tick.2), afterCycle r.vm r.memory tick.2,
        r.readTime, r.latchTime⟩ := by
  simp [entryCycle, hmem, hflags, hword0]

theorem entryCycle_of_not_mem (h : r.vm.state ∉ f.states) : entryCycle f r tick = r := by
  simp [entryCycle, h]

theorem prepStart_cases (s : WbPlc) (state : State) :
    (∃ finish code info data, NodeNet.Vm.prepStart s state = .fault finish code info data) ∨
      NodeNet.Vm.prepStart s state = .move false state { s.data with
        timerEntryBaseAddr := timerEntryAddr s.cb.timerBase s.currentRuntimeIndex
        pendingStackValue := s.data.stack.top.value32
        stack := s.data.stack.drop1 } := by
  unfold NodeNet.Vm.prepStart withEntry popPending
  repeat' split
  · exact .inl ⟨_, _, _, _, rfl⟩
  · exact .inl ⟨_, _, _, _, rfl⟩
  · exact .inl ⟨_, _, _, _, rfl⟩
  · exact .inr rfl

theorem cycle_prepare (hf : f.Executes) (hs : e.Holds r.vm) (hstate : r.vm.state = f.prepStart)
    (hprepare : e.vm.state = f.prepStart) (hcyc : r.vm.bus.cyc = false)
    (hdata : r.vm.data = e.vm.data) (hmem : r.memory = m) :
    Progress f e m (entryCycle f r tick) := by
  have hnodup := hf.nodup
  simp only [EntryFamily.states, List.nodup_cons, List.mem_cons, not_or] at hnodup
  have hafter : afterCycle r.vm r.memory tick.2 = m := by simp [afterCycle, hcyc, hmem]
  rw [entryCycle_of_mem (by simp [EntryFamily.states, hstate])
    (by rw [hstate]; exact hnodup.1.2.2.1) (by rw [hstate]; exact hnodup.1.2.2.2.1), hafter,
    step_of_acts _ (hf.acts _ (by simp [EntryFamily.states, hstate])), hf.prepStart hstate]
  obtain ⟨finish, code, info, data, h⟩ | h := prepStart_cases r.vm f.readWord0
  · rw [h]
    exact .faulted rfl
  · rw [h]
    refine .readWord0 ⟨hs.cb, hs.index, hs.opcode, hs.immediate⟩ rfl
      (fun h => by cases hcyc.symm.trans h) ?_ rfl
    simp only [WbPlc.perform, entered, hprepare, if_true, hs.cb, hs.index, hdata]

theorem cycle_readWord0 (hf : f.Executes) (hs : e.Holds r.vm) (hstate : r.vm.state = f.readWord0)
    (hbus : r.vm.bus.Reads (e.addr f)) (hdata : r.vm.data = e.entered f) (hmem : r.memory = m) :
    Progress f e m (entryCycle f r tick) := by
  have hnodup := hf.nodup
  simp only [EntryFamily.states, List.nodup_cons, List.mem_cons, not_or] at hnodup
  have hafter : afterCycle r.vm r.memory tick.2 = m := by
    rw [afterCycle_of_read fun h => (hbus h).1, hmem]
  have hin : r.vm.state ∈ f.states := by simp [EntryFamily.states, hstate]
  rw [entryCycle_of_mem hin (by rw [hstate]; exact hnodup.2.1.2.1)
    (by rw [hstate]; exact hnodup.2.1.2.2.1), hafter]
  have haddr : r.vm.data.timerEntryBaseAddr = e.addr f := by rw [hdata]; rfl
  have hexec := hf.readWord0 (i := timedIn tick.1 r.vm r.memory tick.2) hstate
  cases hfull : f.reads r.vm.currentOpcode && r.vm.data.stack.full with
  | true =>
    rw [hfull, if_pos rfl] at hexec
    rw [step_of_acts _ (hf.acts _ hin), hexec, withEntry]
    split <;> exact .faulted rfl
  | false =>
    rw [hfull, if_neg Bool.false_ne_true, haddr] at hexec
    obtain h | ⟨-, h⟩ | ⟨-, -, h⟩ | ⟨hcyc, -, h⟩ := step_guardedRead (hf.acts _ hin) hexec
    · exact .faulted h
    · rw [h]
      exact .readWord0 ⟨hs.cb, hs.index, hs.opcode, hs.immediate⟩ hstate (fun _ => ⟨rfl, rfl⟩)
        hdata rfl
    · rw [h]
      exact .readWord0 ⟨hs.cb, hs.index, hs.opcode, hs.immediate⟩ hstate hbus hdata rfl
    · rw [h]
      refine .readWord1 ⟨hs.cb, hs.index, hs.opcode, hs.immediate⟩ rfl (fun h => by cases h) ?_ rfl
      simp only [WbPlc.perform, hdata, timedIn, (hbus hcyc).2, hmem, place0]

theorem cycle_readWord1 (hf : f.Executes) (hs : e.Holds r.vm) (hstate : r.vm.state = f.readWord1)
    (hbus : r.vm.bus.Reads (e.addr f + 4))
    (hdata : r.vm.data = { e.entered f with valueWord0 := m (e.place0 f) })
    (hmem : r.memory = m) : Progress f e m (entryCycle f r tick) := by
  have hnodup := hf.nodup
  simp only [EntryFamily.states, List.nodup_cons, List.mem_cons, not_or] at hnodup
  have hafter : afterCycle r.vm r.memory tick.2 = m := by
    rw [afterCycle_of_read fun h => (hbus h).1, hmem]
  have hin : r.vm.state ∈ f.states := by simp [EntryFamily.states, hstate]
  rw [entryCycle_of_mem hin (by rw [hstate]; exact hnodup.2.2.1.1)
    (by rw [hstate]; exact hnodup.2.2.1.2.1), hafter]
  have haddr : r.vm.data.timerEntryBaseAddr = e.addr f := by rw [hdata]; rfl
  have hexec := hf.readWord1 (i := timedIn tick.1 r.vm r.memory tick.2) hstate
  rw [haddr] at hexec
  obtain h | ⟨-, h⟩ | ⟨-, -, h⟩ | ⟨hcyc, -, h⟩ := step_guardedRead (hf.acts _ hin) hexec
  · exact .faulted h
  · rw [h]
    exact .readWord1 ⟨hs.cb, hs.index, hs.opcode, hs.immediate⟩ hstate (fun _ => ⟨rfl, rfl⟩)
      hdata rfl
  · rw [h]
    exact .readWord1 ⟨hs.cb, hs.index, hs.opcode, hs.immediate⟩ hstate hbus hdata rfl
  · rw [h]
    refine .readFlags ⟨hs.cb, hs.index, hs.opcode, hs.immediate⟩ rfl (fun h => by cases h) ?_ rfl
    simp only [WbPlc.perform, hdata, timedIn, (hbus hcyc).2, hmem, place1, loaded]

theorem afterFlags_eq (f : EntryFamily) (now : UInt32) (s : WbPlc) (flags : UInt32) :
    (∃ o, f.reading now s flags = some o ∧
      f.afterFlags now s flags = .move true .fetchOpcode
        { f.latch now s flags with stack := s.data.stack.push o.value32 o.type }) ∨
    (f.reading now s flags = none ∧
      f.afterFlags now s flags = .move true f.writeWord0 (f.latch now s flags)) := by
  rw [EntryFamily.afterFlags]
  cases f.reading now s flags with
  | some o => exact .inl ⟨o, rfl, rfl⟩
  | none => exact .inr ⟨rfl, rfl⟩

theorem cycle_readFlags (hf : f.Executes) (hs : e.Holds r.vm) (hstate : r.vm.state = f.readFlags)
    (hbus : r.vm.bus.Reads (e.addr f + 8)) (hdata : r.vm.data = (e.loaded f m).data)
    (hmem : r.memory = m) : Progress f e m (entryCycle f r tick) := by
  have hnodup := hf.nodup
  simp only [EntryFamily.states, List.nodup_cons, List.mem_cons, not_or] at hnodup
  have hafter : afterCycle r.vm r.memory tick.2 = m := by
    rw [afterCycle_of_read fun h => (hbus h).1, hmem]
  have hin : r.vm.state ∈ f.states := by simp [EntryFamily.states, hstate]
  have hword0 : f.readFlags ≠ f.writeWord0 := hnodup.2.2.2.1.1
  have haddr : r.vm.data.timerEntryBaseAddr = e.addr f := by rw [hdata]; rfl
  have hsame : SameInstruction r.vm (e.loaded f m) := ⟨hs.opcode, hs.immediate, hdata⟩
  have hexec := hf.readFlags (i := timedIn tick.1 r.vm r.memory tick.2) hstate
  rw [haddr] at hexec
  rw [entryCycle, if_pos hin, hafter]
  simp only [hstate, hword0, decide_true, Bool.true_and, decide_false, Bool.false_and,
    Bool.false_eq_true, if_false]
  obtain h | ⟨hcyc, h⟩ | ⟨hcyc, hack, h⟩ | ⟨hcyc, hack, h⟩ :=
    step_guardedRead (hf.acts _ hin) hexec
  · exact .faulted h
  · rw [h, hcyc]
    exact .readFlags ⟨hs.cb, hs.index, hs.opcode, hs.immediate⟩ hstate (fun _ => ⟨rfl, rfl⟩)
      hdata rfl
  · rw [h]
    exact .readFlags ⟨hs.cb, hs.index, hs.opcode, hs.immediate⟩ hstate hbus hdata rfl
  · have hack' : tick.2.ack = true := hack
    have hflags : (timedIn tick.1 r.vm r.memory tick.2).dat = m (e.place2 f) := by
      simp only [timedIn, (hbus hcyc).2, hmem, place2]
    rw [h, hcyc, hack', hflags]
    change Progress f e m ⟨(r.vm.latch _).perform r.vm
      (f.afterFlags (UInt32.ofNat tick.1) r.vm (m (e.place2 f))), m, tick.1, r.latchTime⟩
    have hlatch := hf.latch_congr hsame (UInt32.ofNat tick.1) (m (e.place2 f))
    have hreading := hf.reading_congr hsame (UInt32.ofNat tick.1) (m (e.place2 f))
    obtain ⟨o, ho, hafter⟩ | ⟨ho, hafter⟩ :=
      afterFlags_eq f (UInt32.ofNat tick.1) r.vm (m (e.place2 f))
    · rw [hafter]
      refine .done rfl ⟨?_, .inl ⟨o, hreading.symm.trans ho, rfl, ?_⟩⟩
      · exact (hf.latch_base ..).trans haddr
      · have hstack : r.vm.data.stack = (e.loaded f m).data.stack :=
          congrArg Datapath.stack hdata
        exact congrArg (fun stack => stack.push o.value32 o.type) hstack
    · rw [hafter]
      exact .writeWord0 ⟨hs.cb, hs.index, hs.opcode, hs.immediate⟩ rfl (fun h => by cases h)
        hlatch (hreading.symm.trans ho) rfl

theorem cycle_writeWord0 (hf : f.Executes) (hs : e.Holds r.vm)
    (hstate : r.vm.state = f.writeWord0)
    (hbus : r.vm.bus.Writes (e.addr f)
      (f.word0 (UInt32.ofNat r.latchTime) (e.latched f m r.readTime)))
    (hdata : r.vm.data = (e.latched f m r.readTime).data)
    (hreading : e.reading f m r.readTime = none) (hmem : r.memory = m) :
    Progress f e m (entryCycle f r tick) := by
  have hnodup := hf.nodup
  simp only [EntryFamily.states, List.nodup_cons, List.mem_cons, not_or] at hnodup
  have hin : r.vm.state ∈ f.states := by simp [EntryFamily.states, hstate]
  have hflags : f.writeWord0 ≠ f.readFlags := fun h => hnodup.2.2.2.1.1 h.symm
  have haddr : r.vm.data.timerEntryBaseAddr = e.addr f := by
    rw [hdata]
    exact hf.latch_base ..
  have hsame : SameInstruction r.vm (e.latched f m r.readTime) := ⟨hs.opcode, hs.immediate, hdata⟩
  have hexec := hf.writeWord0 (i := timedIn tick.1 r.vm r.memory tick.2) hstate
  rw [haddr, hf.word0_congr hsame] at hexec
  rw [entryCycle, if_pos hin]
  simp only [hstate, hflags, decide_true, Bool.true_and, decide_false, Bool.false_and,
    Bool.false_eq_true, if_false]
  obtain h | ⟨hcyc, h⟩ | ⟨hcyc, hack, h⟩ | ⟨hcyc, hack, h⟩ :=
    step_guardedWrite (hf.acts _ hin) hexec
  · exact .faulted h
  · have hafter : afterCycle r.vm r.memory tick.2 = m := by simp [afterCycle, hcyc, hmem]
    rw [h, hcyc, hafter]
    exact .writeWord0 ⟨hs.cb, hs.index, hs.opcode, hs.immediate⟩ hstate
      (fun _ => ⟨rfl, rfl, rfl⟩) hdata hreading rfl
  · have hack' : tick.2.ack = false := hack
    have hafter : afterCycle r.vm r.memory tick.2 = m := by simp [afterCycle, hack', hmem]
    rw [h, hcyc, hafter]
    exact .writeWord0 ⟨hs.cb, hs.index, hs.opcode, hs.immediate⟩ hstate hbus hdata hreading rfl
  · have hack' : tick.2.ack = true := hack
    obtain ⟨hwe, hadr, hdat⟩ := hbus hcyc
    have hafter : afterCycle r.vm r.memory tick.2 =
        e.written0 f m r.readTime r.latchTime := by
      simp [afterCycle, hcyc, hwe, hack', hadr, hdat, hmem, written0, place0]
    rw [h, hcyc, hafter]
    exact .writeWord1 ⟨hs.cb, hs.index, hs.opcode, hs.immediate⟩ rfl (fun h => by cases h)
      hdata hreading rfl

theorem cycle_writeWord1 (hf : f.Executes) (hs : e.Holds r.vm)
    (hstate : r.vm.state = f.writeWord1)
    (hbus : r.vm.bus.Writes (e.addr f + 4) (f.word1 (e.latched f m r.readTime)))
    (hdata : r.vm.data = (e.latched f m r.readTime).data)
    (hreading : e.reading f m r.readTime = none)
    (hmem : r.memory = e.written0 f m r.readTime r.latchTime) :
    Progress f e m (entryCycle f r tick) := by
  have hnodup := hf.nodup
  simp only [EntryFamily.states, List.nodup_cons, List.mem_cons, not_or] at hnodup
  have hin : r.vm.state ∈ f.states := by simp [EntryFamily.states, hstate]
  rw [entryCycle_of_mem hin (by rw [hstate]; exact fun h => hnodup.2.2.2.1.2.1 h.symm)
    (by rw [hstate]; exact fun h => hnodup.2.2.2.2.1.1 h.symm)]
  have haddr : r.vm.data.timerEntryBaseAddr = e.addr f := by
    rw [hdata]
    exact hf.latch_base ..
  have hsame : SameInstruction r.vm (e.latched f m r.readTime) := ⟨hs.opcode, hs.immediate, hdata⟩
  have hexec := hf.writeWord1 (i := timedIn tick.1 r.vm r.memory tick.2) hstate
  rw [haddr, hf.word1_congr hsame] at hexec
  obtain h | ⟨hcyc, h⟩ | ⟨-, hack, h⟩ | ⟨hcyc, hack, h⟩ :=
    step_guardedWrite (hf.acts _ hin) hexec
  · exact .faulted h
  · have hafter : afterCycle r.vm r.memory tick.2 = r.memory := by simp [afterCycle, hcyc]
    rw [h, hafter]
    exact .writeWord1 ⟨hs.cb, hs.index, hs.opcode, hs.immediate⟩ hstate
      (fun _ => ⟨rfl, rfl, rfl⟩) hdata hreading hmem
  · have hack' : tick.2.ack = false := hack
    have hafter : afterCycle r.vm r.memory tick.2 = r.memory := by simp [afterCycle, hack']
    rw [h, hafter]
    exact .writeWord1 ⟨hs.cb, hs.index, hs.opcode, hs.immediate⟩ hstate hbus hdata hreading hmem
  · have hack' : tick.2.ack = true := hack
    obtain ⟨hwe, hadr, hdat⟩ := hbus hcyc
    have hafter : afterCycle r.vm r.memory tick.2 =
        e.written1 f m r.readTime r.latchTime := by
      simp [afterCycle, hcyc, hwe, hack', hadr, hdat, hmem, written1, place1]
    rw [h, hafter]
    exact .writeFlags ⟨hs.cb, hs.index, hs.opcode, hs.immediate⟩ rfl (fun h => by cases h)
      hdata hreading rfl

theorem cycle_writeFlags (hf : f.Executes) (hs : e.Holds r.vm)
    (hstate : r.vm.state = f.writeFlags)
    (hbus : r.vm.bus.Writes (e.addr f + 8) (f.flags (e.latched f m r.readTime)))
    (hdata : r.vm.data = (e.latched f m r.readTime).data)
    (hreading : e.reading f m r.readTime = none)
    (hmem : r.memory = e.written1 f m r.readTime r.latchTime) :
    Progress f e m (entryCycle f r tick) := by
  have hnodup := hf.nodup
  simp only [EntryFamily.states, List.nodup_cons, List.mem_cons, not_or] at hnodup
  have hin : r.vm.state ∈ f.states := by simp [EntryFamily.states, hstate]
  rw [entryCycle_of_mem hin (by rw [hstate]; exact fun h => hnodup.2.2.2.1.2.2.1 h.symm)
    (by rw [hstate]; exact fun h => hnodup.2.2.2.2.1.2.1 h.symm)]
  have haddr : r.vm.data.timerEntryBaseAddr = e.addr f := by
    rw [hdata]
    exact hf.latch_base ..
  have hsame : SameInstruction r.vm (e.latched f m r.readTime) := ⟨hs.opcode, hs.immediate, hdata⟩
  have hexec := hf.writeFlags (i := timedIn tick.1 r.vm r.memory tick.2) hstate
  rw [haddr, hf.flags_congr hsame] at hexec
  obtain h | ⟨hcyc, h⟩ | ⟨-, hack, h⟩ | ⟨hcyc, hack, h⟩ :=
    step_guardedWrite (hf.acts _ hin) hexec
  · exact .faulted h
  · have hafter : afterCycle r.vm r.memory tick.2 = r.memory := by simp [afterCycle, hcyc]
    rw [h, hafter]
    exact .writeFlags ⟨hs.cb, hs.index, hs.opcode, hs.immediate⟩ hstate
      (fun _ => ⟨rfl, rfl, rfl⟩) hdata hreading hmem
  · have hack' : tick.2.ack = false := hack
    have hafter : afterCycle r.vm r.memory tick.2 = r.memory := by simp [afterCycle, hack']
    rw [h, hafter]
    exact .writeFlags ⟨hs.cb, hs.index, hs.opcode, hs.immediate⟩ hstate hbus hdata hreading hmem
  · have hack' : tick.2.ack = true := hack
    obtain ⟨hwe, hadr, hdat⟩ := hbus hcyc
    have hafter : afterCycle r.vm r.memory tick.2 =
        e.written f m r.readTime r.latchTime := by
      simp [afterCycle, hcyc, hwe, hack', hadr, hdat, hmem, written, place2]
    rw [h, hafter]
    refine .done rfl ⟨haddr, .inr ⟨hreading, rfl, ?_⟩⟩
    exact (congrArg Datapath.stack hdata).trans (hf.latch_stack ..)

theorem Progress.cycle (hf : f.Executes) (h : Progress f e m r) :
    Progress f e m (entryCycle f r tick) := by
  have hnot : ∀ {state : State}, state.executes = false → state ∉ f.states := by
    intro state hstate hmem
    rw [hf.executes state hmem] at hstate
    cases hstate
  cases h with
  | prepare hs hstate hprepare hcyc hdata hmem =>
    exact cycle_prepare hf hs hstate hprepare hcyc hdata hmem
  | readWord0 hs hstate hbus hdata hmem => exact cycle_readWord0 hf hs hstate hbus hdata hmem
  | readWord1 hs hstate hbus hdata hmem => exact cycle_readWord1 hf hs hstate hbus hdata hmem
  | readFlags hs hstate hbus hdata hmem => exact cycle_readFlags hf hs hstate hbus hdata hmem
  | writeWord0 hs hstate hbus hdata hreading hmem =>
    exact cycle_writeWord0 hf hs hstate hbus hdata hreading hmem
  | writeWord1 hs hstate hbus hdata hreading hmem =>
    exact cycle_writeWord1 hf hs hstate hbus hdata hreading hmem
  | writeFlags hs hstate hbus hdata hreading hmem =>
    exact cycle_writeFlags hf hs hstate hbus hdata hreading hmem
  | done hstate h =>
    rw [entryCycle_of_not_mem (hnot (by rw [hstate]; rfl))]
    exact .done hstate h
  | faulted hstate =>
    rw [entryCycle_of_not_mem (hnot (by rw [hstate]; rfl))]
    exact .faulted hstate

theorem Accepted.completed (hf : f.Executes) (h : e.Accepted f m) :
    e.Completed f m (e.result f m) := by
  have hstart : Progress f e m ⟨e.vm, m, 0, 0⟩ := by
    by_cases hprepare : e.vm.state = f.prepStart
    · exact .prepare ⟨rfl, rfl, rfl, rfl⟩ hprepare hprepare h.cyc rfl rfl
    · have hstate := h.state.resolve_left hprepare
      refine .readWord0 ⟨rfl, rfl, rfl, rfl⟩ hstate (fun hcyc => ?_) ?_ rfl
      · cases h.cyc.symm.trans hcyc
      · rw [entered, if_neg hprepare]
  have hrun : Progress f e m (e.result f m) :=
    run_inv (fun _ _ hp (_ : True) => hp.cycle hf) hstart (along_true _ _)
  have hnot : (e.result f m).vm.state ∉ f.states := by
    intro hmem
    have hexec := hf.executes _ hmem
    rw [h.completes] at hexec
    cases hexec
  cases hrun with
  | done _ h => exact h
  | faulted hstate => cases h.completes.symm.trans hstate
  | prepare _ hstate | readWord0 _ hstate | readWord1 _ hstate | readFlags _ hstate
  | writeWord0 _ hstate | writeWord1 _ hstate | writeFlags _ hstate =>
    exact absurd (by simp [EntryFamily.states, hstate]) hnot

theorem places_ne (f : EntryFamily) (e : EntryEvaluation) :
    e.place0 f ≠ e.place1 f ∧ e.place0 f ≠ e.place2 f ∧ e.place1 f ≠ e.place2 f := by
  have h4 : (4 : UInt32).toNat = 4 := rfl
  have h8 : (8 : UInt32).toNat = 8 := rfl
  simp only [place0, place1, place2, wordAddr, UInt32.toNat_add, h4, h8]
  omega

theorem written_words (f : EntryFamily) (e : EntryEvaluation) (m : Words)
    (readTime latchTime : Nat) :
    e.written f m readTime latchTime (e.place0 f) =
        f.word0 (UInt32.ofNat latchTime) (e.latched f m readTime) ∧
      e.written f m readTime latchTime (e.place1 f) = f.word1 (e.latched f m readTime) ∧
      e.written f m readTime latchTime (e.place2 f) = f.flags (e.latched f m readTime) := by
  obtain ⟨h01, h02, h12⟩ := places_ne f e
  simp [written, written1, written0, Words.write, h01, h02, h12]

end NodeNet.Vm.EntryEvaluation

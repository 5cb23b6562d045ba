import NodeNet.Lib.Bitmap
import NodeNet.Vm.Addressing

/-! One evaluation of an edge instruction, cycle by cycle, on the edge memory. -/
namespace NodeNet.Vm
open NodeNet.Bitmap NodeNet.Machine

def State.evaluatesEdge : State → Bool
  | .edgeReadValue | .edgeReadPrevWord | .edgeReadValidWord | .edgeWritePrevWord
  | .edgeWriteValidWord => true
  | _ => false

/-- The inputs with the word that the bus answers; the point is read as `value`. -/
def answered (value : UInt32) (s : WbPlc) (m : Words) (i : In) : In :=
  { i with dat := if s.state = .edgeReadValue then value else m (wordAddr s.bus.adr) }

/-- The memory after a cycle; an acknowledged write takes effect. -/
def afterCycle (s : WbPlc) (m : Words) (i : In) : Words :=
  if s.bus.cyc && s.bus.we && i.ack then m.write (wordAddr s.bus.adr) s.bus.dat else m

def edgeCycle (value : UInt32) (p : WbPlc × Words) (i : In) : WbPlc × Words :=
  if p.1.state.evaluatesEdge then
    (p.1.step (answered value p.1 p.2 i), afterCycle p.1 p.2 i)
  else p

/-- The numbers of the bits of a point in its two words, and the places of the two bits. -/
def edgeBitNumber (index : UInt16) : UInt32 := (index &&& 31).toUInt32

def prevPlace (base : UInt32) (index : UInt16) : Place :=
  ⟨wordAddr (base + edgeStateWordByteOffset index), (edgeBitNumber index).toNat⟩

def validPlace (base : UInt32) (index : UInt16) : Place :=
  ⟨wordAddr (base + edgeStateSectionBytes + edgeStateWordByteOffset index),
    (edgeBitNumber index).toNat⟩

/-- An edge instruction that has its point's address, the word it reads there, and the inputs of the
cycles that follow. -/
structure EdgeEvaluation where
  vm : WbPlc
  value : UInt32
  inputs : List In

namespace EdgeEvaluation
variable (e : EdgeEvaluation)

/-- The machine and the memory when the evaluation is over. -/
def result (m : Words) : WbPlc × Words := run (edgeCycle e.value) (e.vm, m) e.inputs

def sample : Bool := e.value &&& 1 ≠ 0

def bitNumber : UInt32 := edgeBitNumber e.vm.currentRuntimeIndex

def prevPlace : Place := NodeNet.Vm.prevPlace e.vm.cb.slotScratchBase e.vm.currentRuntimeIndex

def validPlace : Place := NodeNet.Vm.validPlace e.vm.cb.slotScratchBase e.vm.currentRuntimeIndex

/-- An edge instruction that the machine accepts and completes. -/
structure Accepted (m : Words) : Prop where
  state : e.vm.state = .edgeReadValue
  cyc : e.vm.bus.cyc = false
  opcode : opcodeIsEdge e.vm.currentOpcode = true
  completes : (e.result m).1.state = .fetchOpcode

/-- What the instruction pushes. -/
def edge (m : Words) : Bool :=
  if e.vm.currentOpcode = opcodeRTrig then m.at e.validPlace && !m.at e.prevPlace && e.sample
  else m.at e.validPlace && m.at e.prevPlace && !e.sample

def prevWritten (m : Words) : Words :=
  m.write e.prevPlace.word (writeBit (m e.prevPlace.word) e.bitNumber e.sample)

def written (m : Words) : Words :=
  (e.prevWritten m).write e.validPlace.word (writeBit (m e.validPlace.word) e.bitNumber true)

def pushed (m : Words) : Stack := e.vm.data.stack.push (boolWord (e.edge m)) .bool

/-- The registers that no cycle of the evaluation changes. -/
structure Holds (s : WbPlc) : Prop where
  base : s.cb.slotScratchBase = e.vm.cb.slotScratchBase
  index : s.currentRuntimeIndex = e.vm.currentRuntimeIndex
  opcode : s.currentOpcode = e.vm.currentOpcode

end EdgeEvaluation

theorem step_readWord {i : In} {s : WbPlc} {addr : UInt32} {done : UInt32 → Action}
    (hacts : s.state.acts = true) (h : execute i s = readWord i s addr done) :
    (s.bus.cyc = false ∧ s.step i = (s.latch i).startRead addr) ∨
      (s.bus.cyc = true ∧ i.ack = false ∧ s.step i = s.latch i) ∨
      (s.bus.cyc = true ∧ i.ack = true ∧ s.step i = (s.latch i).perform s (done i.dat)) := by
  rw [step_of_acts i hacts, h]
  cases hcyc : s.bus.cyc with
  | false => simp [readWord, hcyc, WbPlc.perform]
  | true =>
    cases hack : i.ack with
    | false => simp [readWord, hcyc, hack, WbPlc.perform]
    | true => simp [readWord, hcyc, hack]

theorem step_writeThen {i : In} {s : WbPlc} {addr data : UInt32} {state : State}
    (hacts : s.state.acts = true) (h : execute i s = writeThen i s addr data state) :
    (s.bus.cyc = false ∧ s.step i = (s.latch i).startWrite addr data) ∨
      (s.bus.cyc = true ∧ i.ack = false ∧ s.step i = s.latch i) ∨
      (s.bus.cyc = true ∧ i.ack = true ∧
        s.step i = { (s.latch i).finishBusCycle with state := state, data := s.data }) := by
  rw [step_of_acts i hacts, h]
  cases hcyc : s.bus.cyc with
  | false => simp [writeThen, writeWord, hcyc, WbPlc.perform]
  | true =>
    cases hack : i.ack with
    | false => simp [writeThen, writeWord, hcyc, hack, WbPlc.perform]
    | true => simp [writeThen, writeWord, hcyc, hack, WbPlc.perform, WbPlc.finishIf]

theorem edgeBitNumber_toNat (index : UInt16) : (edgeBitNumber index).toNat = index.toNat % 32 := by
  have hand : index.toNat &&& 31 = index.toNat % 32 := Nat.and_two_pow_sub_one_eq_mod _ 5
  simp [edgeBitNumber, hand]

theorem edgeBitNumber_lt (index : UInt16) : (edgeBitNumber index).toNat < 32 := by
  rw [edgeBitNumber_toNat]
  exact Nat.mod_lt _ (by decide)

theorem prevPlace_word_ne (base : UInt32) (index : UInt16) :
    (prevPlace base index).word ≠ (validPlace base index).word := by
  have h128 : edgeStateSectionBytes.toNat = 128 := rfl
  simp only [prevPlace, validPlace, wordAddr, UInt32.toNat_add, h128]
  omega

def Bus.Reads (b : Bus) (addr : UInt32) : Prop := b.cyc = true → b.we = false ∧ b.adr = addr

def Bus.Writes (b : Bus) (addr data : UInt32) : Prop :=
  b.cyc = true → b.we = true ∧ b.adr = addr ∧ b.dat = data

namespace EdgeEvaluation
variable {e : EdgeEvaluation} {m : Words}

/-- What the registers and the memory hold in each state of the evaluation. -/
inductive Progress (e : EdgeEvaluation) (m : Words) : WbPlc × Words → Prop
  | readValue {s : WbPlc} (hs : e.Holds s) (hstate : s.state = .edgeReadValue)
      (hbus : s.bus.cyc = true → s.bus.we = false) (hstack : s.data.stack = e.vm.data.stack) :
      Progress e m (s, m)
  | readPrevWord {s : WbPlc} (hs : e.Holds s) (hstate : s.state = .edgeReadPrevWord)
      (hbus : s.bus.Reads (edgePrevAddr e.vm)) (hstack : s.data.stack = e.vm.data.stack)
      (hpending : pending s = e.sample) : Progress e m (s, m)
  | readValidWord {s : WbPlc} (hs : e.Holds s) (hstate : s.state = .edgeReadValidWord)
      (hbus : s.bus.Reads (edgeValidAddr e.vm)) (hstack : s.data.stack = e.vm.data.stack)
      (hpending : pending s = e.sample) (hprev : s.data.valueWord0 = m e.prevPlace.word) :
      Progress e m (s, m)
  | writePrevWord {s : WbPlc} (hs : e.Holds s) (hstate : s.state = .edgeWritePrevWord)
      (hbus : s.bus.Writes (edgePrevAddr e.vm)
        (writeBit (m e.prevPlace.word) e.bitNumber e.sample))
      (hstack : s.data.stack = e.pushed m) (hpending : pending s = e.sample)
      (hprev : s.data.valueWord0 = m e.prevPlace.word)
      (hvalid : s.data.valueWord1 = m e.validPlace.word) : Progress e m (s, m)
  | writeValidWord {s : WbPlc} (hs : e.Holds s) (hstate : s.state = .edgeWriteValidWord)
      (hbus : s.bus.Writes (edgeValidAddr e.vm)
        (writeBit (m e.validPlace.word) e.bitNumber true))
      (hstack : s.data.stack = e.pushed m) (hvalid : s.data.valueWord1 = m e.validPlace.word) :
      Progress e m (s, e.prevWritten m)
  | done {s : WbPlc} (hstate : s.state = .fetchOpcode) (hstack : s.data.stack = e.pushed m) :
      Progress e m (s, e.written m)
  | faulted {s : WbPlc} (hstate : s.state = .faultWriteStatus) : Progress e m (s, m)

theorem edgeCycle_of_evaluates {value : UInt32} {s : WbPlc} (i : In)
    (h : s.state.evaluatesEdge = true) :
    edgeCycle value (s, m) i = (s.step (answered value s m i), afterCycle s m i) := by
  simp [edgeCycle, h]

theorem edgeCycle_of_idle {value : UInt32} {p : WbPlc × Words} (i : In)
    (h : p.1.state.evaluatesEdge = false) : edgeCycle value p i = p := by
  simp [edgeCycle, h]

theorem afterCycle_of_read {s : WbPlc} {i : In} (h : s.bus.cyc = true → s.bus.we = false) :
    afterCycle s m i = m := by
  cases hcyc : s.bus.cyc with
  | false => simp [afterCycle, hcyc]
  | true => simp [afterCycle, h hcyc]

theorem step_edgeReadValue {s : WbPlc} {i : In} (hdat : i.dat = e.value) (hs : e.Holds s)
    (hstate : s.state = .edgeReadValue) (hbus : s.bus.cyc = true → s.bus.we = false)
    (hstack : s.data.stack = e.vm.data.stack) : Progress e m (s.step i, m) := by
  have hread : execute i s = readWord i s s.data.runtimeValueAddr (edgeReadValue s) := by
    simp [execute, hstate]
  obtain ⟨-, heq⟩ | ⟨hcyc, -, heq⟩ | ⟨-, -, heq⟩ := step_readWord (by rw [hstate]; rfl) hread
  · rw [heq]
    exact .readValue ⟨hs.base, hs.index, hs.opcode⟩ hstate (fun _ => rfl) hstack
  · rw [heq]
    exact .readValue ⟨hs.base, hs.index, hs.opcode⟩ hstate hbus hstack
  · rw [heq, hdat, edgeReadValue]
    repeat' split
    · exact .faulted rfl
    · exact .faulted rfl
    · exact .faulted rfl
    · refine .readPrevWord ⟨hs.base, hs.index, hs.opcode⟩ rfl (fun h => by cases h) hstack ?_
      have hand : e.value &&& 1 &&& 1 = e.value &&& 1 := by
        rw [UInt32.and_assoc]
        rfl
      simp [pending, sample, WbPlc.perform, hand]

theorem step_edgeReadPrevWord {s : WbPlc} {i : In} (hdat : i.dat = m (wordAddr s.bus.adr))
    (hs : e.Holds s) (hstate : s.state = .edgeReadPrevWord)
    (hbus : s.bus.Reads (edgePrevAddr e.vm)) (hstack : s.data.stack = e.vm.data.stack)
    (hpending : pending s = e.sample) : Progress e m (s.step i, m) := by
  have haddr : edgePrevAddr s = edgePrevAddr e.vm := by
    rw [edgePrevAddr, hs.base, hs.index, edgePrevAddr]
  have hread : execute i s = readWord i s (edgePrevAddr e.vm) fun value =>
      .move true .edgeReadValidWord { s.data with valueWord0 := value } := by
    simp [execute, hstate, haddr]
  obtain ⟨-, heq⟩ | ⟨hcyc, -, heq⟩ | ⟨hcyc, -, heq⟩ := step_readWord (by rw [hstate]; rfl) hread
  · rw [heq]
    exact .readPrevWord ⟨hs.base, hs.index, hs.opcode⟩ hstate (fun _ => ⟨rfl, rfl⟩) hstack hpending
  · rw [heq]
    exact .readPrevWord ⟨hs.base, hs.index, hs.opcode⟩ hstate hbus hstack hpending
  · rw [heq, hdat, (hbus hcyc).2]
    exact .readValidWord ⟨hs.base, hs.index, hs.opcode⟩ rfl (fun h => by cases h) hstack hpending
      rfl

theorem hasFlag_edgeStateBitMask (w : UInt32) :
    hasFlag w (edgeStateBitMask e.vm.currentRuntimeIndex) = bit w e.bitNumber.toNat := by
  have hlt : e.bitNumber.toNat % 32 = e.bitNumber.toNat := Nat.mod_eq_of_lt (edgeBitNumber_lt _)
  have h := and_mask_ne_zero w e.bitNumber
  rw [hlt] at h
  rw [Bool.eq_iff_iff, ← h, hasFlag, decide_eq_true_eq]
  rfl

theorem step_edgeReadValidWord {s : WbPlc} {i : In} (hdat : i.dat = m (wordAddr s.bus.adr))
    (hs : e.Holds s) (hstate : s.state = .edgeReadValidWord)
    (hbus : s.bus.Reads (edgeValidAddr e.vm)) (hstack : s.data.stack = e.vm.data.stack)
    (hpending : pending s = e.sample) (hprev : s.data.valueWord0 = m e.prevPlace.word) :
    Progress e m (s.step i, m) := by
  have haddr : edgeValidAddr s = edgeValidAddr e.vm := by
    rw [edgeValidAddr, hs.base, hs.index, edgeValidAddr]
  have hread : execute i s = readWord i s (edgeValidAddr e.vm) (edgeReadValidWord s) := by
    simp [execute, hstate, haddr]
  obtain ⟨-, heq⟩ | ⟨hcyc, -, heq⟩ | ⟨hcyc, -, heq⟩ := step_readWord (by rw [hstate]; rfl) hread
  · rw [heq]
    exact .readValidWord ⟨hs.base, hs.index, hs.opcode⟩ hstate (fun _ => ⟨rfl, rfl⟩) hstack
      hpending hprev
  · rw [heq]
    exact .readValidWord ⟨hs.base, hs.index, hs.opcode⟩ hstate hbus hstack hpending hprev
  · rw [heq, hdat, (hbus hcyc).2, edgeReadValidWord]
    refine .writePrevWord ⟨hs.base, hs.index, hs.opcode⟩ rfl (fun h => by cases h) ?_ hpending
      hprev rfl
    simp only [WbPlc.perform, hs.index, hs.opcode, hprev, hpending, hstack,
      hasFlag_edgeStateBitMask]
    rfl

theorem step_edgeWritePrevWord {s : WbPlc} {i : In} (hs : e.Holds s)
    (hstate : s.state = .edgeWritePrevWord)
    (hbus : s.bus.Writes (edgePrevAddr e.vm)
      (writeBit (m e.prevPlace.word) e.bitNumber e.sample))
    (hstack : s.data.stack = e.pushed m) (hpending : pending s = e.sample)
    (hprev : s.data.valueWord0 = m e.prevPlace.word)
    (hvalid : s.data.valueWord1 = m e.validPlace.word) :
    Progress e m (s.step i, afterCycle s m i) := by
  have haddr : edgePrevAddr s = edgePrevAddr e.vm := by
    rw [edgePrevAddr, hs.base, hs.index, edgePrevAddr]
  have hwrite : execute i s = writeThen i s (edgePrevAddr e.vm)
      (writeBit (m e.prevPlace.word) e.bitNumber e.sample) .edgeWriteValidWord := by
    simp only [execute, hstate, haddr, hprev, hpending, hs.index]
    rfl
  obtain ⟨hcyc, heq⟩ | ⟨-, hack, heq⟩ | ⟨hcyc, hack, heq⟩ :=
    step_writeThen (by rw [hstate]; rfl) hwrite
  · rw [heq, afterCycle, hcyc]
    exact .writePrevWord ⟨hs.base, hs.index, hs.opcode⟩ hstate (fun _ => ⟨rfl, rfl, rfl⟩) hstack
      hpending hprev hvalid
  · have hmem : afterCycle s m i = m := by simp [afterCycle, hack]
    rw [heq, hmem]
    exact .writePrevWord ⟨hs.base, hs.index, hs.opcode⟩ hstate hbus hstack hpending hprev hvalid
  · obtain ⟨hwe, hadr, hdat⟩ := hbus hcyc
    have hmem : afterCycle s m i = e.prevWritten m := by
      simp [afterCycle, hcyc, hwe, hack, hadr, hdat, prevWritten, prevPlace,
        NodeNet.Vm.prevPlace, edgePrevAddr]
    rw [heq, hmem]
    exact .writeValidWord ⟨hs.base, hs.index, hs.opcode⟩ rfl (fun h => by cases h) hstack hvalid

theorem step_edgeWriteValidWord {s : WbPlc} {i : In} (hs : e.Holds s)
    (hstate : s.state = .edgeWriteValidWord)
    (hbus : s.bus.Writes (edgeValidAddr e.vm)
      (writeBit (m e.validPlace.word) e.bitNumber true))
    (hstack : s.data.stack = e.pushed m) (hvalid : s.data.valueWord1 = m e.validPlace.word) :
    Progress e m (s.step i, afterCycle s (e.prevWritten m) i) := by
  have haddr : edgeValidAddr s = edgeValidAddr e.vm := by
    rw [edgeValidAddr, hs.base, hs.index, edgeValidAddr]
  have hwrite : execute i s = writeThen i s (edgeValidAddr e.vm)
      (writeBit (m e.validPlace.word) e.bitNumber true) .fetchOpcode := by
    simp only [execute, hstate, haddr, hvalid, hs.index]
    rfl
  obtain ⟨hcyc, heq⟩ | ⟨-, hack, heq⟩ | ⟨hcyc, hack, heq⟩ :=
    step_writeThen (by rw [hstate]; rfl) hwrite
  · rw [heq, afterCycle, hcyc]
    exact .writeValidWord ⟨hs.base, hs.index, hs.opcode⟩ hstate (fun _ => ⟨rfl, rfl, rfl⟩) hstack
      hvalid
  · have hmem : afterCycle s (e.prevWritten m) i = e.prevWritten m := by simp [afterCycle, hack]
    rw [heq, hmem]
    exact .writeValidWord ⟨hs.base, hs.index, hs.opcode⟩ hstate hbus hstack hvalid
  · obtain ⟨hwe, hadr, hdat⟩ := hbus hcyc
    have hmem : afterCycle s (e.prevWritten m) i = e.written m := by
      simp [afterCycle, hcyc, hwe, hack, hadr, hdat, written, validPlace,
        NodeNet.Vm.validPlace, edgeValidAddr]
    rw [heq, hmem]
    exact .done rfl hstack

theorem Progress.cycle {p : WbPlc × Words} (i : In) (h : Progress e m p) :
    Progress e m (edgeCycle e.value p i) := by
  induction h with
  | @readValue s hs hstate hbus hstack =>
    rw [edgeCycle_of_evaluates i (by rw [hstate]; rfl), afterCycle_of_read hbus]
    exact step_edgeReadValue (if_pos hstate) hs hstate hbus hstack
  | @readPrevWord s hs hstate hbus hstack hpending =>
    rw [edgeCycle_of_evaluates i (by rw [hstate]; rfl), afterCycle_of_read fun h => (hbus h).1]
    exact step_edgeReadPrevWord (if_neg (by simp [hstate])) hs hstate hbus hstack hpending
  | @readValidWord s hs hstate hbus hstack hpending hprev =>
    rw [edgeCycle_of_evaluates i (by rw [hstate]; rfl), afterCycle_of_read fun h => (hbus h).1]
    exact step_edgeReadValidWord (if_neg (by simp [hstate])) hs hstate hbus hstack hpending hprev
  | @writePrevWord s hs hstate hbus hstack hpending hprev hvalid =>
    rw [edgeCycle_of_evaluates i (by rw [hstate]; rfl)]
    exact step_edgeWritePrevWord hs hstate hbus hstack hpending hprev hvalid
  | @writeValidWord s hs hstate hbus hstack hvalid =>
    rw [edgeCycle_of_evaluates i (by rw [hstate]; rfl)]
    exact step_edgeWriteValidWord hs hstate hbus hstack hvalid
  | @done s hstate hstack =>
    rw [edgeCycle_of_idle i (by rw [hstate]; rfl)]
    exact .done hstate hstack
  | @faulted s hstate =>
    rw [edgeCycle_of_idle i (by rw [hstate]; rfl)]
    exact .faulted hstate

theorem written_at {p : Place} (hp : p.number < 32) :
    (e.written m).at p =
      if p = e.validPlace then true else if p = e.prevPlace then e.sample else m.at p := by
  have hlt : e.bitNumber.toNat % 32 = e.bitNumber.toNat := Nat.mod_eq_of_lt (edgeBitNumber_lt _)
  have hword : m e.validPlace.word = e.prevWritten m e.validPlace.word := by
    have hne := prevPlace_word_ne e.vm.cb.slotScratchBase e.vm.currentRuntimeIndex
    rw [prevWritten, Words.write, if_neg fun h => hne h.symm]
  rw [written, hword, Words.at_write_writeBit _ _ _ _ hp, prevWritten,
    Words.at_write_writeBit _ _ _ _ hp, hlt]
  rfl

theorem Accepted.result_eq (h : e.Accepted m) :
    (e.result m).1.data.stack = e.pushed m ∧ (e.result m).2 = e.written m := by
  have hstart : Progress e m (e.vm, m) :=
    .readValue ⟨rfl, rfl, rfl⟩ h.state (fun hcyc => by simp [h.cyc] at hcyc) rfl
  have hrun : Progress e m (e.result m) :=
    run_inv (fun _ i hp (_ : True) => hp.cycle i) hstart (along_true _ _)
  have hdone := h.completes
  generalize e.result m = p at hrun hdone
  cases hrun with
  | done hstate hstack => exact ⟨hstack, rfl⟩
  | readValue _ hstate => simp [hstate] at hdone
  | readPrevWord _ hstate => simp [hstate] at hdone
  | readValidWord _ hstate => simp [hstate] at hdone
  | writePrevWord _ hstate => simp [hstate] at hdone
  | writeValidWord _ hstate => simp [hstate] at hdone
  | faulted hstate => simp [hstate] at hdone

end EdgeEvaluation

end NodeNet.Vm

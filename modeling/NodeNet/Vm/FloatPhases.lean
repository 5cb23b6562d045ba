import NodeNet.Vm.FloatUnit
import NodeNet.Vm.IntegerSteps

/-! The float unit works only while the machine waits for it, on the operands of the stack. -/
namespace NodeNet.Vm

section
variable {i : In} {s : WbPlc}

theorem State.float_of_serves {opcode : UInt8} {state : State} (hexec : state.executes = true)
    (hserves : state.serves opcode = true) (hop : opcodeIsFloatOp opcode = true) :
    state = .floatOpStart ∨ state = .floatOpWait := by
  have hmem : opcode ∈ [opcodeFadd, opcodeFsub, opcodeFmul] := List.contains_iff_mem.mp hop
  simp only [List.mem_cons, List.not_mem_nil, or_false] at hmem
  rcases hmem with rfl | rfl | rfl
  all_goals
    cases state <;> first
      | exact .inl rfl
      | exact .inr rfl
      | (cases hexec; done)
      | cases hserves

theorem Enters.ne_floatOpWait {opcode : UInt8} {state : State} (h : Enters opcode state) :
    state ≠ .floatOpWait := by
  cases h with
  | operand1 =>
    unfold afterOperand1
    repeat' split
    all_goals exact fun h => by cases h
  | immediate1 =>
    unfold afterImmediate1
    split <;> exact fun h => by cases h
  | immediate3 =>
    unfold afterImmediate3
    repeat' split
    all_goals exact fun h => by cases h
  | float => exact fun h => by cases h

theorem step_ne_floatOpWait (i : In) (h : Reached s) (hstart : s.state ≠ .floatOpStart)
    (hwait : s.state ≠ .floatOpWait) : (s.step i).state ≠ .floatOpWait := by
  intro hstate
  by_cases hexec : s.state.executes = true
  · have hop : (s.step i).currentOpcode = s.currentOpcode :=
      congrArg Operands.opcode (step_operands i (State.acts_of_executes hexec))
    have hserves := (step_keeps i h.serves).serves
    rw [hstate, hop] at hserves
    rcases State.float_of_serves hexec h.serves hserves with hs | hs
    · exact hstart hs
    · exact hwait hs
  · have hnot : s.state.executes = false := by simpa using hexec
    exact (step_entered i hnot (by rw [hstate]; rfl)).ne_floatOpWait hstate

theorem perform_floatOpStart {t : WbPlc} {a : Action} (ht : t.floatOpStart = false)
    (ha : Executes s a) (hstart : s.state ≠ .floatOpStart) :
    (t.perform s a).floatOpStart = false := by
  cases ha with
  | startFloatOp h => exact absurd h hstart
  | move finish | fault finish => cases finish <;> exact ht
  | wait | startRead | startWrite | capture | halted | faulted => exact ht

theorem ite_floatOpStart {p : Prop} [Decidable p] {a b : WbPlc} (ha : a.floatOpStart = false)
    (hb : b.floatOpStart = false) : (if p then a else b).floatOpStart = false := by
  by_cases hp : p
  · rwa [if_pos hp]
  · rwa [if_neg hp]

theorem fetchByte_floatOpStart {take : UInt8 → WbPlc → WbPlc} (hs : s.floatOpStart = false)
    (htake : ∀ byte t, (take byte t).floatOpStart = t.floatOpStart) :
    (fetchByte i s take).floatOpStart = false :=
  ite_floatOpStart ((htake ..).trans hs)
    (ite_floatOpStart hs (ite_floatOpStart ((htake ..).trans hs) hs))

theorem readCb_floatOpStart {addr : UInt32} {done : UInt32 → WbPlc → WbPlc}
    (hs : s.floatOpStart = false)
    (hdone : ∀ word t, (done word t).floatOpStart = t.floatOpStart) :
    (readCb i s addr done).floatOpStart = false :=
  ite_floatOpStart hs (ite_floatOpStart ((hdone ..).trans hs) hs)

/-- The unit is started in one state only. -/
theorem step_floatOpStart (i : In) (h : Reached s) (hstart : s.state ≠ .floatOpStart) :
    (s.step i).floatOpStart = false := by
  have hl : (s.latch i).state = s.state := rfl
  have hlatch : (s.latch i).floatOpStart = false := rfl
  by_cases hacts : s.state.acts = true
  · rw [step_of_acts i hacts]
    exact perform_floatOpStart hlatch (execute_executes i hacts h.serves) hstart
  unfold WbPlc.step
  dsimp only
  rw [hl]
  cases hst : s.state <;> rw [hst] at hacts
  case idle =>
    exact ite_floatOpStart hlatch
      (ite_floatOpStart hlatch (ite_floatOpStart hlatch hlatch))
  case slotCheck => exact ite_floatOpStart hlatch (ite_floatOpStart hlatch hlatch)
  case slotResume =>
    unfold stepSlotResume
    dsimp only
    split
    · exact ite_floatOpStart hlatch hlatch
    · exact ite_floatOpStart hlatch hlatch
    · exact hlatch
  case branchExecute =>
    unfold stepBranchExecute branchConditional
    dsimp only
    repeat' split
    all_goals exact hlatch
  case nextSlot => exact ite_floatOpStart (ite_floatOpStart hlatch hlatch) hlatch
  case decode =>
    exact ite_floatOpStart (ite_floatOpStart hlatch hlatch)
      (perform_floatOpStart hlatch (decode_executes s) hstart)
  case fetchOpcode =>
    exact ite_floatOpStart hlatch
      (ite_floatOpStart hlatch (fetchByte_floatOpStart hlatch fun _ _ => rfl))
  case fetchOperand0 | fetchOperand1 | fetchImmediate0 | fetchImmediate1 | fetchImmediate2 |
      fetchImmediate3 =>
    exact ite_floatOpStart hlatch (fetchByte_floatOpStart hlatch fun _ _ => rfl)
  case readCbMagic | readCbHeader | readCbControl | readCbStatus | readCbPc | readCbCycle |
      readCbCodeBase | readCbCodeSize | readCbTimerBase | readCbTimerCount | readCbMaxInstr |
      readSlotScratchBase =>
    exact readCb_floatOpStart hlatch fun _ _ => rfl
  all_goals exact absurd rfl hacts

end

/-- The unit in the course of its work for the machine. -/
inductive FloatPhase (p : FloatVm) : Prop
  | idle (hstate : p.vm.state ≠ .floatOpWait) (hstart : p.vm.floatOpStart = false)
      (hbusy : p.floatOp.busy = false) (hdone : p.floatOp.done = false)
  | started (hstate : p.vm.state = .floatOpWait) (hstart : p.vm.floatOpStart = true)
      (hbusy : p.floatOp.busy = false) (hdone : p.floatOp.done = false)
  | busy (hstate : p.vm.state = .floatOpWait) (hstart : p.vm.floatOpStart = false)
      (hbusy : p.floatOp.busy = true) (hdone : p.floatOp.done = false)
      (hopcode : p.floatOp.opcodeLatched = p.vm.currentOpcode)
      (hlhs : p.floatOp.lhsLatched = p.vm.data.stack.next)
      (hrhs : p.floatOp.rhsLatched = p.vm.data.stack.top)
  | done (hstate : p.vm.state = .floatOpWait) (hstart : p.vm.floatOpStart = false)
      (hbusy : p.floatOp.busy = false) (hdone : p.floatOp.done = true)
      (hsupported : p.floatOp.supported = opcodeIsFloatOp p.vm.currentOpcode)
      (htypeOk : p.floatOp.typeOk =
        (p.vm.data.stack.next.type = .float32 && p.vm.data.stack.top.type = .float32))
      (htype : (p.floatOp.supported && p.floatOp.typeOk) = true →
        p.floatOp.resultType = .float32)

section
variable {compute : UInt8 → UInt32 → UInt32 → UInt32} {p : FloatVm}

theorem floatPhase_reset (adr dat : UInt32) : FloatPhase (FloatVm.reset adr dat) :=
  .idle (fun h => by cases h) rfl rfl rfl

theorem step_floatOpWait {i : In} {s : WbPlc} (hstate : s.state = .floatOpWait) :
    s.step i = (s.latch i).perform s (if !i.floatOpDone then .wait
      else if !i.floatOp.supported || !i.floatOp.typeOk then
        fault s false faultTypeMismatch (s.currentPc - 1)
      else moveStack s false .fetchOpcode
        (s.data.stack.binaryResult i.floatOp.value i.floatOp.type)) := by
  rw [step_of_acts i (by rw [hstate]; rfl)]
  simp only [execute, hstate]

theorem step_floatOpWait_of_not_done {i : In} {s : WbPlc} (hstate : s.state = .floatOpWait)
    (hdone : i.floatOpDone = false) : s.step i = s.latch i := by
  rw [step_floatOpWait hstate, hdone]
  rfl

theorem FloatPhase.step (h : FloatPhase p) (hreached : Reached p.vm) (i : In) :
    FloatPhase (p.step compute i) := by
  cases h with
  | idle hstate hstart hbusy hdone =>
    by_cases hfloat : p.vm.state = .floatOpStart
    · have hstep : p.vm.step (p.inputs i) = (p.vm.latch (p.inputs i)).perform p.vm .startFloatOp := by
        rw [step_of_acts _ (by rw [hfloat]; rfl)]
        simp only [execute, hfloat]
      refine .started ?_ ?_ ?_ ?_
      · simp only [FloatVm.step, hstep]
        rfl
      · simp only [FloatVm.step, hstep]
        rfl
      · simp [FloatVm.step, FloatOp.step, hstart, hbusy]
      · simp [FloatVm.step, FloatOp.step, hstart, hbusy]
    · refine .idle (step_ne_floatOpWait _ hreached hfloat hstate)
        (step_floatOpStart _ hreached hfloat) ?_ ?_
      · simp [FloatVm.step, FloatOp.step, hstart, hbusy]
      · simp [FloatVm.step, FloatOp.step, hstart, hbusy]
  | started hstate hstart hbusy hdone =>
    have hstep := step_floatOpWait_of_not_done (i := p.inputs i) hstate hdone
    refine .busy ?_ ?_ ?_ ?_ ?_ ?_ ?_
    all_goals simp [FloatVm.step, hstep, FloatOp.step, hstart, hbusy, WbPlc.latch, hstate]
  | busy hstate hstart hbusy hdone hopcode hlhs hrhs =>
    have hstep := step_floatOpWait_of_not_done (i := p.inputs i) hstate hdone
    refine .done ?_ ?_ ?_ ?_ ?_ ?_ ?_
    all_goals
      simp [FloatVm.step, hstep, FloatOp.step, hstart, hbusy, WbPlc.latch, hstate, hopcode, hlhs,
        hrhs]
    exact fun hop hnext htop => ⟨hnext, htop, hop⟩
  | done hstate hstart hbusy hdone =>
    have hstart' : (p.vm.step (p.inputs i)).floatOpStart = false :=
      step_floatOpStart _ hreached (by rw [hstate]; exact fun h => by cases h)
    have hstate' : (p.vm.step (p.inputs i)).state ≠ .floatOpWait := by
      have hdone' : (p.inputs i).floatOpDone = true := hdone
      rw [step_floatOpWait hstate, hdone']
      simp only [Bool.not_true, Bool.false_eq_true, if_false]
      split <;> exact fun h => by cases h
    refine .idle hstate' hstart' ?_ ?_
    all_goals simp [FloatVm.step, FloatOp.step, hstart, hbusy]

end

end NodeNet.Vm

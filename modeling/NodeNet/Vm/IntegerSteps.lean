import NodeNet.Vm.EntryAccess
import NodeNet.Vm.IntegerOps

/-! The cycle that executes an integer or selection instruction. -/
namespace NodeNet.Vm

/-- An instruction that pops these operands, the top first, and pushes the result. -/
structure Replaces (s t : WbPlc) (rest : List Operand) (result : Operand) : Prop where
  state : t.state = .fetchOpcode
  stack : t.data.stack.Holds (result :: rest)

variable {s : WbPlc}

theorem step_decode (i : In) (hstate : s.state = .decode) :
    s.step i = stepDecode i s (s.latch i) := by
  have hlatch : (s.latch i).state = .decode := hstate
  simp only [WbPlc.step, hlatch]

/-- The instructions that the decoder tests for before the integer and selection instructions. -/
def opcodeDecodesEarlier (opcode : UInt8) : Bool :=
  (decodeFetch opcode).isSome ||
    [opcodeNop, opcodePushTrue, opcodePushFalse, opcodeDup, opcodeDrop, opcodeSwap,
      opcodeFdiv].contains opcode ||
    opcodeIsBoolOp opcode || opcodeIsFloatCompare opcode || opcodeIsFloatOp opcode

theorem decode_of_later (h : opcodeDecodesEarlier s.currentOpcode = false) : s.divides = false ∧
      decode s =
        let stack := s.data.stack
        if opcodeIsIntOp s.currentOpcode then
          let r := intAlu s.currentOpcode stack.next stack.third stack.top
          applyBinaryAlu s r r.usesMoreOperands
        else if opcodeIsMiscOp s.currentOpcode then
          applyAlu s (miscAlu s.currentOpcode stack.top stack.next stack.third) 1 3
            Stack.ternaryResult
        else if s.currentOpcode = opcodeHalt then .move false .haltWriteStatus s.data
        else fault s false faultInvalidOpcode s.currentOpcode.toUInt32 := by
  simp only [opcodeDecodesEarlier, Bool.or_eq_false_iff, Option.isSome_eq_false_iff,
    Option.isNone_iff_eq_none, List.contains_cons, List.contains_nil, beq_eq_false_iff_ne,
    and_true, ne_eq] at h
  obtain ⟨⟨⟨⟨hfetch, hnop, htrue, hfalse, hdup, hdrop, hswap, hdiv⟩, hbool⟩, hcompare⟩, hfloat⟩ := h
  constructor
  · simp only [WbPlc.divides, hdiv, decide_false, Bool.false_and]
  · unfold decode
    rewrite [hfetch]
    dsimp only
    unfold decodeExecute
    dsimp only
    rewrite [if_neg hnop, if_neg htrue, if_neg hfalse, if_neg hdup, if_neg hdrop, if_neg hswap,
      if_neg (Bool.eq_false_iff.mp hbool), if_neg (Bool.eq_false_iff.mp hcompare),
      if_neg (Bool.eq_false_iff.mp hfloat), if_neg hdiv]
    rfl

theorem intOp_later {opcode : UInt8} (h : opcodeIsIntOp opcode = true) :
    opcodeDecodesEarlier opcode = false :=
  of_contains h (by decide +kernel)

theorem miscOp_later {opcode : UInt8} (h : opcodeIsMiscOp opcode = true) :
    opcodeDecodesEarlier opcode = false ∧ opcodeIsIntOp opcode = false :=
  ⟨of_contains h (by decide +kernel), of_contains h (by decide +kernel)⟩

theorem decode_intOp (h : opcodeIsIntOp s.currentOpcode = true) : s.divides = false ∧
      decode s =
        let r := intAlu s.currentOpcode s.data.stack.next s.data.stack.third s.data.stack.top
        applyBinaryAlu s r r.usesMoreOperands := by
  obtain ⟨hdiv, heq⟩ := decode_of_later (intOp_later h)
  exact ⟨hdiv, heq.trans (if_pos h)⟩

theorem decode_miscOp (h : opcodeIsMiscOp s.currentOpcode = true) : s.divides = false ∧
      decode s =
        applyAlu s (miscAlu s.currentOpcode s.data.stack.top s.data.stack.next s.data.stack.third)
          1 3 Stack.ternaryResult := by
  obtain ⟨hlater, hint⟩ := miscOp_later h
  obtain ⟨hdiv, heq⟩ := decode_of_later hlater
  exact ⟨hdiv, heq.trans ((if_neg (Bool.eq_false_iff.mp hint)).trans (if_pos h))⟩

theorem step_of_decode (i : In) (hstate : s.state = .decode) (hdiv : s.divides = false)
    {stack : Stack} (h : decode s = moveStack s false .fetchOpcode stack) :
    (s.step i).state = .fetchOpcode ∧ (s.step i).data.stack = stack := by
  have hdiv' : (s.latch i).divides = false := hdiv
  rw [step_decode i hstate, stepDecode, hdiv', h]
  exact ⟨rfl, rfl⟩

section
variable {s : WbPlc} {rest : List Operand} {a b c result : Operand}

theorem applyBinaryAlu_pushes (hstack : s.data.stack.Holds (b :: a :: rest)) :
    applyBinaryAlu s (.pushes false result) false =
      moveStack s false .fetchOpcode (Stack.ofList (result :: rest)) := by
  have hdepth : ¬s.data.stack.depth.toNat < 2 := by
    rw [hstack.eq, Stack.ofList_depth hstack.length]
    simp
  rw [applyBinaryAlu, if_neg (by simpa using hdepth), hstack.eq,
    Stack.ofList_binaryResult hstack.length]
  rfl

theorem applyBinaryAlu_pushes_ternary (hstack : s.data.stack.Holds (c :: b :: a :: rest)) :
    applyBinaryAlu s (.pushes true result) true =
      moveStack s false .fetchOpcode (Stack.ofList (result :: rest)) := by
  have hdepth : ¬s.data.stack.depth.toNat < 3 := by
    rw [hstack.eq, Stack.ofList_depth hstack.length]
    simp
  rw [applyBinaryAlu, if_neg (by simpa using hdepth), hstack.eq,
    Stack.ofList_ternaryResult hstack.length]
  rfl

theorem applyAlu_pushes (hstack : s.data.stack.Holds (a :: rest)) (more : Nat)
    (result' : Stack → UInt32 → StackType → Stack) :
    applyAlu s (.pushes false result) 1 more result' =
      moveStack s false .fetchOpcode (Stack.ofList (result :: rest)) := by
  have hdepth : ¬s.data.stack.depth.toNat < 1 := by
    rw [hstack.eq, Stack.ofList_depth hstack.length]
    simp
  rw [applyAlu, if_neg (by simpa [AluResult.pushes] using hdepth), hstack.eq]
  rfl

theorem applyAlu_pushes_ternary (hstack : s.data.stack.Holds (c :: b :: a :: rest)) (fewer : Nat) :
    applyAlu s (.pushes true result) fewer 3 Stack.ternaryResult =
      moveStack s false .fetchOpcode (Stack.ofList (result :: rest)) := by
  have hdepth : ¬s.data.stack.depth.toNat < 3 := by
    rw [hstack.eq, Stack.ofList_depth hstack.length]
    simp
  rw [applyAlu, if_neg (by simpa [AluResult.pushes] using hdepth), hstack.eq]
  simp only [AluResult.pushes, Stack.ofList_ternaryResult hstack.length]
  rfl

end

variable {rest : List Operand}

theorem replaces_of_decode {i : In} {popped : List Operand} {result : Operand}
    (hstate : s.state = .decode) (hstack : s.data.stack.Holds (popped ++ rest))
    (hpopped : popped ≠ []) (hresult : result.Canonical) (hdiv : s.divides = false)
    (h : decode s = moveStack s false .fetchOpcode (Stack.ofList (result :: rest))) :
    Replaces s (s.step i) rest result := by
  obtain ⟨hfetch, heq⟩ := step_of_decode i hstate hdiv h
  have hlength := hstack.length
  rw [List.length_append] at hlength
  have hpos : 0 < popped.length := List.length_pos_iff.mpr hpopped
  refine ⟨hfetch, heq, by rw [List.length_cons]; omega, ?_⟩
  intro o ho
  obtain rfl | ho := List.mem_cons.mp ho
  · exact hresult
  · exact hstack.canonical o (List.mem_append_right _ ho)

theorem Names.replaces_binary (i : In) {a b result : Operand} (hstate : s.state = .decode)
    (hstack : s.data.stack.Holds (b :: a :: rest)) (h : Names s.currentOpcode [b, a] result) :
    Replaces s (s.step i) rest result := by
  obtain ⟨hint, halu⟩ := h.intAlu s.data.stack.third
  obtain ⟨hdiv, hdecode⟩ := decode_intOp hint
  have hcanonical := h.canonical fun o ho => hstack.canonical o (List.mem_append_left rest ho)
  have hsplit : s.data.stack.Holds ([b, a] ++ rest) := hstack
  refine replaces_of_decode hstate hsplit (by simp) hcanonical hdiv ?_
  have htop : s.data.stack.top = b := by rw [hstack.eq, Stack.ofList_top _ _ hstack.length]
  have hnext : s.data.stack.next = a := by rw [hstack.eq, Stack.ofList_next _ _ _ hstack.length]
  rw [hdecode, htop, hnext, halu]
  exact applyBinaryAlu_pushes hstack

theorem Names.replaces_unary (i : In) {a result : Operand} (hstate : s.state = .decode)
    (hstack : s.data.stack.Holds (a :: rest)) (h : Names s.currentOpcode [a] result) :
    Replaces s (s.step i) rest result := by
  have ha : a.Canonical := hstack.canonical a (List.mem_cons_self ..)
  obtain ⟨hmisc, halu⟩ := h.miscAlu_unary ha s.data.stack.next s.data.stack.third
  obtain ⟨hdiv, hdecode⟩ := decode_miscOp hmisc
  have hcanonical := h.canonical fun o ho => hstack.canonical o (List.mem_append_left rest ho)
  have hsplit : s.data.stack.Holds ([a] ++ rest) := hstack
  refine replaces_of_decode hstate hsplit (by simp) hcanonical hdiv ?_
  have htop : s.data.stack.top = a := by rw [hstack.eq, Stack.ofList_top _ _ hstack.length]
  rw [hdecode, htop, halu]
  exact applyAlu_pushes hstack 3 _

theorem Names.replaces_sel (i : In) {condition onTrue onFalse result : Operand}
    (hstate : s.state = .decode)
    (hstack : s.data.stack.Holds (condition :: onTrue :: onFalse :: rest))
    (h : Names s.currentOpcode [condition, onTrue, onFalse] result)
    (hnot : s.currentOpcode ≠ opcodeClamp) : Replaces s (s.step i) rest result := by
  have hcondition : condition.Canonical := hstack.canonical condition (by simp)
  have hfalse : onFalse.Canonical := hstack.canonical onFalse (by simp)
  obtain ⟨hmisc, halu⟩ := h.miscAlu_sel hnot hcondition hfalse.typed
  obtain ⟨hdiv, hdecode⟩ := decode_miscOp hmisc
  have hcanonical := h.canonical fun o ho => hstack.canonical o (List.mem_append_left rest ho)
  have hsplit : s.data.stack.Holds ([condition, onTrue, onFalse] ++ rest) := hstack
  refine replaces_of_decode hstate hsplit (by simp)
    hcanonical hdiv ?_
  have htop : s.data.stack.top = condition := by
    rw [hstack.eq, Stack.ofList_top _ _ hstack.length]
  have hnext : s.data.stack.next = onTrue := by
    rw [hstack.eq, Stack.ofList_next _ _ _ hstack.length]
  have hthird : s.data.stack.third = onFalse := by
    rw [hstack.eq, Stack.ofList_third _ _ _ _ hstack.length]
  rw [hdecode, htop, hnext, hthird, halu]
  exact applyAlu_pushes_ternary hstack 1

theorem replaces_clamp (i : In) {t : StackType} {value lo hi : Operand} (hstate : s.state = .decode)
    (hopcode : s.currentOpcode = opcodeClamp)
    (hstack : s.data.stack.Holds (hi :: lo :: value :: rest)) (hlo : value.Alike t lo)
    (hhi : value.Alike t hi) (h : lo.number ≤ hi.number) :
    Replaces s (s.step i) rest (.ofNumber t (max lo.number value.number)) := by
  obtain ⟨hdiv, hdecode⟩ := decode_intOp (s := s) (by rw [hopcode]; rfl)
  have hsplit : s.data.stack.Holds ([hi, lo, value] ++ rest) := hstack
  refine replaces_of_decode hstate hsplit (by simp)
    (hlo.canonical _) hdiv ?_
  have htop : s.data.stack.top = hi := by rw [hstack.eq, Stack.ofList_top _ _ hstack.length]
  have hnext : s.data.stack.next = lo := by
    rw [hstack.eq, Stack.ofList_next _ _ _ hstack.length]
  have hthird : s.data.stack.third = value := by
    rw [hstack.eq, Stack.ofList_third _ _ _ _ hstack.length]
  rw [hdecode, htop, hnext, hthird, hopcode, intAlu_clamp hlo hhi h]
  exact applyBinaryAlu_pushes_ternary hstack

theorem Replaces.unique {t : WbPlc} {a b : Operand} (ha : Replaces s t rest a)
    (hb : Replaces s t rest b) : a = b := by
  have heq := ha.stack.eq.symm.trans hb.stack.eq
  exact congrArg Stack.stack0 heq

theorem Operand.Alike.number_ofNumber {t : StackType} {a b : Operand} (h : a.Alike t b) :
    (ofNumber t a.number).number = a.number ∧ (ofNumber t b.number).number = b.number := by
  simp only [ofNumber, number, h.left, h.right, StackType.word_number h.integer,
    StackType.number_intPass h.integer, and_self]

/-- The larger of the minimum and the value is the clamp exactly if the value is not above the
maximum. -/
theorem clamp_word_eq_iff {t : StackType} {value lo hi : Operand} (hhi : value.Alike t hi)
    (h : lo.number ≤ hi.number) :
    Operand.ofNumber t (max lo.number value.number) =
        .ofNumber t (max lo.number (min value.number hi.number)) ↔
      ¬hi.number < value.number := by
  constructor
  · intro heq hlt
    have hmax : max lo.number value.number = value.number := by omega
    have hclamp : max lo.number (min value.number hi.number) = hi.number := by omega
    rw [hmax, hclamp] at heq
    have hnumber := congrArg Operand.number heq
    rw [hhi.number_ofNumber.1, hhi.number_ofNumber.2] at hnumber
    omega
  · intro hle
    have hmin : min value.number hi.number = value.number := by omega
    rw [hmin]

/-- An integer or selection instruction computes what is named for its operands exactly if it is
not a clamp of a value above the maximum. -/
theorem instruction_computes_iff {s : WbPlc} (i : In) {popped rest : List Operand}
    {result : Operand}
    (hstate : s.state = .decode) (hstack : s.data.stack.Holds (popped ++ rest))
    (h : Names s.currentOpcode popped result) :
    Replaces s (s.step i) rest result ↔ ¬ClampsAbove s.currentOpcode popped := by
  have hnames := h
  generalize hopcode : s.currentOpcode = opcode at h
  cases h with
  | @clamp t value lo hi hlo hhi hle =>
    have hmax := replaces_clamp i hstate hopcode hstack hlo hhi hle
    have hclamps : ClampsAbove opcodeClamp [hi, lo, value] ↔ hi.number < value.number :=
      and_iff_right rfl
    rw [hclamps, ← clamp_word_eq_iff hhi hle]
    constructor
    · intro hreplaces
      exact hmax.unique hreplaces
    · intro heq
      rw [← heq]
      exact hmax
  | sel =>
    refine iff_of_true (hnames.replaces_sel i hstate hstack (by rw [hopcode]; decide)) ?_
    rintro ⟨hclamp, -⟩
    exact absurd hclamp (by decide)
  | signExtend | truncate | boolToU32 | boolToI32 | u32ToBool | i32ToBool =>
    exact iff_of_true (hnames.replaces_unary i hstate hstack) (by simp [ClampsAbove])
  | add | sub | lt | le | gt | ge | min | max =>
    exact iff_of_true (hnames.replaces_binary i hstate hstack) (by simp [ClampsAbove])

/-- The machine about to execute an instruction on three 16-bit integers. -/
def threeOperands (opcode : UInt8) (hi lo value : UInt32) : WbPlc :=
  { WbPlc.reset 0 0 with
    state := .decode
    currentOpcode := opcode
    data := { (WbPlc.reset 0 0).data with
      stack := .ofList [⟨hi, .int16⟩, ⟨lo, .int16⟩, ⟨value, .int16⟩] } }

theorem threeOperands_holds :
    (threeOperands opcodeClamp 10 0 5).data.stack.Holds
      ([⟨10, .int16⟩, ⟨0, .int16⟩, ⟨5, .int16⟩] ++ []) := by
  refine ⟨rfl, by decide, ?_⟩
  intro o ho
  simp only [List.append_nil, List.mem_cons, List.not_mem_nil, or_false] at ho
  obtain rfl | rfl | rfl := ho <;> constructor <;> decide

theorem clamp_within :
    Replaces (threeOperands opcodeClamp 10 0 5) ((threeOperands opcodeClamp 10 0 5).step quietIn) []
      ⟨5, .int16⟩ :=
  (instruction_computes_iff quietIn rfl threeOperands_holds
    (.clamp (t := .int16) ⟨rfl, rfl, rfl⟩ ⟨rfl, rfl, rfl⟩ (by decide))).mpr fun h =>
      absurd h.2 (by decide)

/-- Clamped to 0 and 10, 50 stays 50. -/
theorem clamp_above :
    Names opcodeClamp [⟨10, .int16⟩, ⟨0, .int16⟩, ⟨50, .int16⟩] ⟨10, .int16⟩ ∧
      ¬Replaces (threeOperands opcodeClamp 10 0 50)
        ((threeOperands opcodeClamp 10 0 50).step quietIn) [] ⟨10, .int16⟩ := by
  constructor
  · exact .clamp (t := .int16) ⟨rfl, rfl, rfl⟩ ⟨rfl, rfl, rfl⟩ (by decide)
  · intro h
    have htop := congrArg Stack.stack0 h.stack.eq
    revert htop
    decide

end NodeNet.Vm

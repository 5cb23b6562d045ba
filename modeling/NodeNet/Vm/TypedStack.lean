import NodeNet.Vm.Step

/-! The operand stack as a list of typed operands, the top first. -/
namespace NodeNet.Vm

/-- What a stack entry holds: a type, with truth values 0 or 1 and 16-bit integers
sign-extended. -/
structure Operand.Canonical (o : Operand) : Prop where
  typed : o.type ≠ .none
  bool : o.type = .bool → o.value32 = 0 ∨ o.value32 = 1
  int16 : o.type = .int16 → o.value32 = signExtendI16 o.value32.toUInt16

def Stack.ofList (l : List Operand) : Stack :=
  ⟨l.getD 0 .empty, l.getD 1 .empty, l.getD 2 .empty, l.getD 3 .empty, BitVec.ofNat 3 l.length⟩

structure Stack.Holds (s : Stack) (l : List Operand) : Prop where
  eq : s = Stack.ofList l
  length : l.length ≤ 4
  canonical : ∀ o ∈ l, o.Canonical

namespace Stack

@[simp] theorem ofList_nil : ofList [] = .empty := rfl

variable {l : List Operand}

theorem ofList_depth (h : l.length ≤ 4) : (ofList l).depth.toNat = l.length := by
  simp only [ofList, BitVec.toNat_ofNat]
  omega

@[simp] theorem ofList_top (a : Operand) (l : List Operand) (h : (a :: l).length ≤ 4) :
    (ofList (a :: l)).top = a := by
  have hdepth : (1 : BitVec 3) ≤ (ofList (a :: l)).depth := by
    rw [BitVec.le_def, ofList_depth h, List.length_cons]
    exact Nat.le_add_left 1 l.length
  rw [top, if_pos hdepth]
  rfl

theorem ofList_next (a b : Operand) (l : List Operand) (h : (a :: b :: l).length ≤ 4) :
    (ofList (a :: b :: l)).next = b := by
  have hdepth : (2 : BitVec 3) ≤ (ofList (a :: b :: l)).depth := by
    rw [BitVec.le_def, ofList_depth h]
    exact Nat.le_add_left 2 l.length
  rw [next, if_pos hdepth]
  rfl

theorem ofList_third (a b c : Operand) (l : List Operand) (h : (a :: b :: c :: l).length ≤ 4) :
    (ofList (a :: b :: c :: l)).third = c := by
  have hdepth : (3 : BitVec 3) ≤ (ofList (a :: b :: c :: l)).depth := by
    rw [BitVec.le_def, ofList_depth h]
    exact Nat.le_add_left 3 l.length
  rw [third, if_pos hdepth]
  rfl

theorem getD_of_length_le {n : Nat} (h : l.length ≤ n) : l.getD n .empty = .empty := by
  rw [List.getD_eq_getElem?_getD, List.getElem?_eq_none h]
  rfl

theorem ofNat_succ (n : Nat) : BitVec.ofNat 3 (n + 1) = BitVec.ofNat 3 n + 1 := by
  rw [BitVec.ofNat_add]
  rfl

theorem ofList_binaryResult {a b : Operand} (h : (a :: b :: l).length ≤ 4) (value : UInt32)
    (type : StackType) :
    (ofList (a :: b :: l)).binaryResult value type = ofList (⟨value, type⟩ :: l) := by
  have hlast : l.getD 2 .empty = .empty :=
    getD_of_length_le (Nat.le_of_succ_le_succ (Nat.le_of_succ_le_succ h))
  simp only [binaryResult, ofList, List.getD_cons_zero, List.getD_cons_succ, List.length_cons,
    ofNat_succ, BitVec.add_sub_cancel, hlast]

theorem ofList_ternaryResult {a b c : Operand} (h : (a :: b :: c :: l).length ≤ 4) (value : UInt32)
    (type : StackType) :
    (ofList (a :: b :: c :: l)).ternaryResult value type = ofList (⟨value, type⟩ :: l) := by
  have hlength : l.length ≤ 1 := by
    simp only [List.length_cons] at h
    omega
  have h1 : l.getD 1 .empty = .empty := getD_of_length_le hlength
  have h2 : l.getD 2 .empty = .empty := getD_of_length_le (by omega)
  have hdepth : BitVec.ofNat 3 l.length + 1 + 1 + 1 - 2 = BitVec.ofNat 3 l.length + 1 := by
    generalize BitVec.ofNat 3 l.length = d
    revert d
    decide
  simp only [ternaryResult, ofList, List.getD_cons_zero, List.getD_cons_succ, List.length_cons,
    ofNat_succ, h1, h2, hdepth]

end Stack

end NodeNet.Vm

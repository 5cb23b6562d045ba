import NodeNet.Lib.Bytes

/-! NOR flash: erasing sets bits, programming clears them, and an operation may be cut short. -/
namespace NodeNet.Nor
open NodeNet.Bytes

inductive Op where
  | erase (a : UInt32) (n : Nat)
  /-- The data is addressed from the start of the programmed range. -/
  | program (a : UInt32) (n : Nat) (data : Memory)

/-- A completed operation. -/
def Op.apply : Op → Memory → Memory
  | .erase a n, m => fun x => if Covers a n x then 0xFF else m x
  | .program a n data, m => fun x => if Covers a n x then m x &&& data (x - a) else m x

/-- A failed operation, which has moved some of the bits it was to move. -/
def Op.interrupt (moved : Memory) : Op → Memory → Memory
  | .erase a n, m => fun x => if Covers a n x then m x ||| moved x else m x
  | .program a n data, m => fun x =>
    if Covers a n x then m x &&& (data (x - a) ||| moved x) else m x

/-- Which operations fail, and which bits they have moved by then. -/
abbrev Faults := Nat → Option Memory

def noFaults : Faults := fun _ => none

/-- Operations one after the other, up to the first that the driver reports to have failed. An
operation that fails without a report is none of the faults. -/
def perform (faults : Faults) : Nat → List Op → Memory → Memory × Bool
  | _, [], m => (m, true)
  | k, op :: ops, m =>
    match faults k with
    | none => perform faults (k + 1) ops (op.apply m)
    | some moved => (op.interrupt moved m, false)

/-- The cell is erased by the operation, or not programmed to anything but ones. -/
def Op.Spares (x : UInt32) : Op → Prop
  | .erase _ _ => True
  | .program a n data => Covers a n x → data (x - a) = 0xFF

variable {m : Memory}

theorem perform_inv {faults : Faults} {P : Memory → Prop} {ops : List Op}
    (hdone : ∀ op ∈ ops, ∀ m, P m → P (op.apply m))
    (hcut : ∀ op ∈ ops, ∀ moved m, P m → P (op.interrupt moved m)) {k : Nat} (h : P m) :
    P (perform faults k ops m).1 := by
  induction ops generalizing k m with
  | nil => exact h
  | cons op ops ih =>
    rw [perform]
    cases faults k with
    | none =>
      exact ih (fun o ho => hdone o (List.mem_cons_of_mem _ ho))
        (fun o ho => hcut o (List.mem_cons_of_mem _ ho)) (hdone op List.mem_cons_self m h)
    | some moved => exact hcut op List.mem_cons_self moved m h

theorem Op.apply_erased {op : Op} {x : UInt32} (hop : op.Spares x) (h : m x = 0xFF) :
    op.apply m x = 0xFF := by
  cases op with
  | erase a n => simp [Op.apply, h]
  | program a n data =>
    by_cases hc : Covers a n x
    · simp [Op.apply, hc, h, hop hc]
    · simp [Op.apply, hc, h]

theorem or_ones (b : UInt8) : 0xFF ||| b = 0xFF := by
  have hall : ∀ n < 256, 0xFF ||| UInt8.ofNat n = 0xFF := by decide +kernel
  simpa using hall b.toNat b.toNat_lt

theorem Op.interrupt_erased {op : Op} {x : UInt32} (hop : op.Spares x) (moved : Memory)
    (h : m x = 0xFF) : op.interrupt moved m x = 0xFF := by
  cases op with
  | erase a n => simp [Op.interrupt, h, or_ones]
  | program a n data =>
    by_cases hc : Covers a n x
    · simp [Op.interrupt, hc, h, hop hc, or_ones]
    · simp [Op.interrupt, hc, h]

theorem perform_erased {faults : Faults} {ops : List Op} {x : UInt32}
    (hops : ∀ op ∈ ops, op.Spares x) {k : Nat} (h : m x = 0xFF) :
    (perform faults k ops m).1 x = 0xFF :=
  perform_inv (P := fun m => m x = 0xFF) (fun op hop _ hm => op.apply_erased (hops op hop) hm)
    (fun op hop moved _ hm => op.interrupt_erased (hops op hop) moved hm) h

theorem perform_noFaults (k : Nat) (ops : List Op) (m : Memory) :
    perform noFaults k ops m = (ops.foldl (fun m op => op.apply m) m, true) := by
  induction ops generalizing k m with
  | nil => rfl
  | cons op ops ih => simp [perform, noFaults] at ih ⊢; exact ih _ _

theorem perform_ok {faults : Faults} {k : Nat} {ops : List Op}
    (h : (perform faults k ops m).2 = true) :
    (perform faults k ops m).1 = ops.foldl (fun m op => op.apply m) m := by
  induction ops generalizing k m with
  | nil => rfl
  | cons op ops ih =>
    rw [perform] at h ⊢
    cases hf : faults k with
    | none =>
      simp only [hf] at h ⊢
      exact ih h
    | some moved => simp [hf] at h

end NodeNet.Nor

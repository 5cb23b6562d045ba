import Mathlib.Algebra.Group.Nat.Defs

/-! Byte memories with wrapping 32-bit addresses: reading, little-endian words, copies, patches. -/
namespace NodeNet.Bytes

/-- Contents of a 32-bit address space; an address past the top wraps to the bottom. -/
abbrev Memory := UInt32 → UInt8

/-- The `n` bytes from address `a` on. -/
def bytesAt (m : Memory) (a : UInt32) : Nat → List UInt8
  | 0 => []
  | n + 1 => m a :: bytesAt m (a + 1) n

/-- The memory that holds a byte string at address zero and zeros after it. -/
def ofBytes (bs : List UInt8) : Memory := fun a => bs.getD a.toNat 0

/-- A zero-terminated string of at most `n` bytes. -/
def cstring (m : Memory) (a : UInt32) (n : Nat) : List UInt8 :=
  (bytesAt m a n).takeWhile (· != 0)

def word16 (m : Memory) (a : UInt32) : UInt16 :=
  (m a).toUInt16 ||| ((m (a + 1)).toUInt16 <<< 8)

def word32 (m : Memory) (a : UInt32) : UInt32 :=
  (m a).toUInt32 ||| ((m (a + 1)).toUInt32 <<< 8) |||
    ((m (a + 2)).toUInt32 <<< 16) ||| ((m (a + 3)).toUInt32 <<< 24)

/-- Address `x` is one of the `n` addresses from `a` on. -/
def Covers (a : UInt32) (n : Nat) (x : UInt32) : Prop := (x - a).toNat < n

instance (a : UInt32) (n : Nat) (x : UInt32) : Decidable (Covers a n x) :=
  inferInstanceAs (Decidable (_ < _))

/-- Overwrite the bytes from address `a` on. -/
def patch (m : Memory) (a : UInt32) (bs : List UInt8) : Memory :=
  fun x => bs[(x - a).toNat]?.getD (m x)

/-- Copy `n` bytes from address `b` of `src` to address `a`. -/
def copy (m : Memory) (a : UInt32) (src : Memory) (b : UInt32) (n : Nat) : Memory :=
  fun x => if Covers a n x then src (b + (x - a)) else m x

/-- Bytes to be written at an address. -/
structure Patch where
  offset : UInt32
  bytes : List UInt8
  deriving DecidableEq

def Patch.apply (q : Patch) (m : Memory) : Memory := patch m q.offset q.bytes

def Patch.Covers (q : Patch) (x : UInt32) : Prop := Bytes.Covers q.offset q.bytes.length x

instance (q : Patch) (x : UInt32) : Decidable (q.Covers x) :=
  inferInstanceAs (Decidable (Bytes.Covers _ _ _))

/-- Apply the patches `f i, f (i + 1), ...`, at most `n` of them, up to the first missing one. -/
def patchRun (f : Nat → Option Patch) (i : Nat) : Nat → Memory → Memory
  | 0, m => m
  | n + 1, m =>
    match f i with
    | none => m
    | some q => patchRun f (i + 1) n (q.apply m)

theorem succ_address (a : UInt32) (k : Nat) :
    a + 1 + UInt32.ofNat k = a + UInt32.ofNat (k + 1) := by
  rw [UInt32.ofNat_add, UInt32.add_assoc, UInt32.add_comm 1]
  rfl

@[simp] theorem bytesAt_length (m : Memory) (a : UInt32) (n : Nat) :
    (bytesAt m a n).length = n := by
  induction n generalizing a with
  | zero => rfl
  | succ n ih => simp [bytesAt, ih]

theorem bytesAt_append (m : Memory) (a : UInt32) (n k : Nat) :
    bytesAt m a (n + k) = bytesAt m a n ++ bytesAt m (a + UInt32.ofNat n) k := by
  induction n generalizing a with
  | zero => simp [bytesAt]
  | succ n ih =>
    rw [Nat.succ_add]
    simp only [bytesAt, List.cons_append]
    rw [ih, succ_address]

theorem bytesAt_getElem? (m : Memory) (a : UInt32) (n k : Nat) (h : k < n) :
    (bytesAt m a n)[k]? = some (m (a + UInt32.ofNat k)) := by
  induction n generalizing a k with
  | zero => omega
  | succ n ih =>
    cases k with
    | zero => simp [bytesAt]
    | succ k =>
      simp only [bytesAt, List.getElem?_cons_succ]
      rw [ih (a + 1) k (by omega), succ_address]

theorem bytesAt_congr {m w : Memory} {a b : UInt32} {n : Nat}
    (h : ∀ k < n, m (a + UInt32.ofNat k) = w (b + UInt32.ofNat k)) :
    bytesAt m a n = bytesAt w b n := by
  refine List.ext_getElem? (fun k => ?_)
  by_cases hk : k < n
  · rw [bytesAt_getElem? m a n k hk, bytesAt_getElem? w b n k hk, h k hk]
  · rw [List.getElem?_eq_none (by simpa using hk), List.getElem?_eq_none (by simpa using hk)]

theorem word16_congr {m w : Memory} {a b : UInt32} {n : Nat}
    (h : ∀ d : UInt32, d.toNat < n → m (a + d) = w (b + d)) (o : UInt32)
    (ho : o.toNat + 2 ≤ n) (hn : n < 2 ^ 32) : word16 m (a + o) = word16 w (b + o) := by
  have h1 := h o (by omega)
  have h2 := h (o + 1) (by rw [UInt32.toNat_add]; have : (1 : UInt32).toNat = 1 := rfl; omega)
  rw [← UInt32.add_assoc, ← UInt32.add_assoc] at h2
  simp only [word16, h1, h2]

theorem word32_congr {m w : Memory} {a b : UInt32} {n : Nat}
    (h : ∀ d : UInt32, d.toNat < n → m (a + d) = w (b + d)) (o : UInt32)
    (ho : o.toNat + 4 ≤ n) (hn : n < 2 ^ 32) : word32 m (a + o) = word32 w (b + o) := by
  have hk : ∀ k : UInt32, k.toNat < 4 → m (a + o + k) = w (b + o + k) := by
    intro k hk
    rw [UInt32.add_assoc, UInt32.add_assoc]
    exact h (o + k) (by rw [UInt32.toNat_add]; omega)
  have h0 := hk 0 (by decide)
  rw [UInt32.add_zero, UInt32.add_zero] at h0
  simp only [word32, h0, hk 1 (by decide), hk 2 (by decide), hk 3 (by decide)]

theorem cstring_congr {m w : Memory} {a b : UInt32} {n : Nat}
    (h : ∀ d : UInt32, d.toNat < n → m (a + d) = w (b + d)) (o : UInt32) (k : Nat)
    (ho : o.toNat + k ≤ n) (hn : n < 2 ^ 32) : cstring m (a + o) k = cstring w (b + o) k := by
  unfold cstring
  rw [bytesAt_congr]
  intro i hi
  have hofn : (UInt32.ofNat i).toNat = i := UInt32.toNat_ofNat_of_lt' (by simp [UInt32.size]; omega)
  rw [UInt32.add_assoc, UInt32.add_assoc]
  exact h _ (by rw [UInt32.toNat_add, hofn]; omega)

@[simp] theorem patch_of_not_covers {m : Memory} {a x : UInt32} {bs : List UInt8}
    (h : ¬ Covers a bs.length x) : patch m a bs x = m x := by
  have hl : bs.length ≤ (x - a).toNat := Nat.le_of_not_lt h
  simp [patch, List.getElem?_eq_none hl]

theorem copy_of_covers {m src : Memory} {a b x : UInt32} {n : Nat} (h : Covers a n x) :
    copy m a src b n x = src (b + (x - a)) := if_pos h

theorem copy_of_not_covers {m src : Memory} {a b x : UInt32} {n : Nat} (h : ¬ Covers a n x) :
    copy m a src b n x = m x := if_neg h

theorem covers_zero_iff {n : Nat} {x : UInt32} : Covers 0 n x ↔ x.toNat < n := by
  simp [Covers]

theorem covers_iff {a x : UInt32} {n : Nat} (h : a.toNat + n ≤ 2 ^ 32) :
    Covers a n x ↔ a.toNat ≤ x.toNat ∧ x.toNat < a.toNat + n := by
  have hx := x.toNat_lt
  have ha := a.toNat_lt
  unfold Covers
  rw [UInt32.toNat_sub]
  omega

theorem bytesAt_copy (m src : Memory) (b : UInt32) {n : Nat} (h : n < 2 ^ 32) :
    bytesAt (copy m 0 src b n) 0 n = bytesAt src b n := by
  refine bytesAt_congr fun k hk => ?_
  have hk' : (UInt32.ofNat k).toNat = k :=
    UInt32.toNat_ofNat_of_lt' (by simp [UInt32.size]; omega)
  rw [UInt32.zero_add, copy_of_covers (covers_zero_iff.mpr (by rw [hk']; exact hk)), UInt32.sub_zero]

theorem copy_congr {m src src' : Memory} {a b b' : UInt32} {n : Nat}
    (h : ∀ d : UInt32, d.toNat < n → src (b + d) = src' (b' + d)) :
    copy m a src b n = copy m a src' b' n := by
  funext x
  by_cases hx : Covers a n x
  · rw [copy_of_covers hx, copy_of_covers hx, h _ hx]
  · rw [copy_of_not_covers hx, copy_of_not_covers hx]

theorem copy_copy (m src : Memory) (a b : UInt32) {n : Nat} (k : Nat) (hn : n < 2 ^ 32) :
    copy (copy m a src b n) (a + UInt32.ofNat n) src (b + UInt32.ofNat n) k =
      copy m a src b (n + k) := by
  have hofn : (UInt32.ofNat n).toNat = n := UInt32.toNat_ofNat_of_lt' hn
  funext x
  have hx := x.toNat_lt
  have hsub := UInt32.toNat_sub x a
  have hsub' := UInt32.toNat_sub x (a + UInt32.ofNat n)
  have hadd := UInt32.toNat_add a (UInt32.ofNat n)
  have ha := a.toNat_lt
  rw [hofn] at hadd
  by_cases hk : Covers (a + UInt32.ofNat n) k x
  · have hboth : Covers a (n + k) x := by
      unfold Covers at hk ⊢
      omega
    rw [copy_of_covers hk, copy_of_covers hboth]
    congr 1
    grind
  · rw [copy_of_not_covers hk]
    by_cases hn' : Covers a n x
    · rw [copy_of_covers hn', copy_of_covers (Nat.lt_of_lt_of_le hn' (Nat.le_add_right n k))]
    · have hneither : ¬ Covers a (n + k) x := by
        unfold Covers at hk hn' ⊢
        omega
      rw [copy_of_not_covers hn', copy_of_not_covers hneither]

theorem Patch.apply_of_not_covers {q : Patch} {m : Memory} {x : UInt32} (h : ¬ q.Covers x) :
    q.apply m x = m x := patch_of_not_covers h

theorem patchRun_of_not_covers {f : Nat → Option Patch} {i n : Nat} {m : Memory} {x : UInt32}
    (h : ∀ j q, i ≤ j → j < i + n → f j = some q → ¬ q.Covers x) :
    patchRun f i n m x = m x := by
  induction n generalizing i m with
  | zero => rfl
  | succ n ih =>
    unfold patchRun
    cases hf : f i with
    | none => rfl
    | some q =>
      have hq := h i q (Nat.le_refl i) (by omega) hf
      simp only
      rw [ih fun j q hj hjn => h j q (by omega) (by omega), Patch.apply_of_not_covers hq]

theorem Patch.apply_of_covers {q : Patch} {m m' : Memory} {x : UInt32} (h : q.Covers x) :
    q.apply m x = q.apply m' x := by
  simp only [Patch.apply, patch, List.getElem?_eq_getElem (show (x - q.offset).toNat <
    q.bytes.length from h), Option.getD_some]

theorem patchRun_byte {f : Nat → Option Patch} {i n : Nat} {m m' : Memory} {x : UInt32}
    (h : m x = m' x) : patchRun f i n m x = patchRun f i n m' x := by
  induction n generalizing i m m' with
  | zero => exact h
  | succ n ih =>
    unfold patchRun
    cases f i with
    | none => exact h
    | some q =>
      refine ih ?_
      by_cases hq : q.Covers x
      · exact Patch.apply_of_covers hq
      · rw [Patch.apply_of_not_covers hq, Patch.apply_of_not_covers hq, h]

theorem patchRun_congr {f g : Nat → Option Patch} {i n : Nat} {m : Memory}
    (h : ∀ k, i ≤ k → k < i + n → f k = g k) : patchRun f i n m = patchRun g i n m := by
  induction n generalizing i m with
  | zero => rfl
  | succ n ih =>
    unfold patchRun
    rw [h i (Nat.le_refl i) (by omega)]
    cases g i with
    | none => rfl
    | some q => exact ih fun k hk hkn => h k (by omega) (by omega)

end NodeNet.Bytes

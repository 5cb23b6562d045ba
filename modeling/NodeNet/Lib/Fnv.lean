import Mathlib.Algebra.Group.Nat.Defs

/-! FNV-1a hashing as a fold of an invertible byte step. -/
namespace NodeNet.Fnv

def prime : UInt32 := 16777619

def basis : UInt32 := 2166136261

/-- The inverse of the prime modulo `2 ^ 32`. -/
def primeInverse : UInt32 := 899433627

def step (h : UInt32) (b : UInt8) : UInt32 := (h ^^^ b.toUInt32) * prime

def hashFrom (h : UInt32) (bs : List UInt8) : UInt32 := bs.foldl step h

def hash (bs : List UInt8) : UInt32 := hashFrom basis bs

@[simp] theorem hashFrom_nil (h : UInt32) : hashFrom h [] = h := rfl

@[simp] theorem hashFrom_cons (h : UInt32) (b : UInt8) (bs : List UInt8) :
    hashFrom h (b :: bs) = hashFrom (step h b) bs := rfl

theorem hashFrom_append (h : UInt32) (as bs : List UInt8) :
    hashFrom h (as ++ bs) = hashFrom (hashFrom h as) bs := List.foldl_append

theorem hash_append (as bs : List UInt8) :
    hash (as ++ bs) = hashFrom (hash as) bs := hashFrom_append basis as bs

theorem prime_mul_inverse : prime * primeInverse = 1 := by decide

theorem mul_prime_cancel {x y : UInt32} (h : x * prime = y * prime) : x = y := by
  have hx : ∀ z : UInt32, z * prime * primeInverse = z := fun z => by
    rw [UInt32.mul_assoc, prime_mul_inverse, UInt32.mul_one]
  rw [← hx x, ← hx y, h]

theorem step_cancel {x y : UInt32} {b : UInt8} (h : step x b = step y b) : x = y :=
  (UInt32.xor_left_inj b.toUInt32).mp (mul_prime_cancel h)

theorem hashFrom_cancel {x y : UInt32} {bs : List UInt8}
    (h : hashFrom x bs = hashFrom y bs) : x = y := by
  induction bs generalizing x y with
  | nil => exact h
  | cons b bs ih => exact step_cancel (ih h)

theorem hash_append_eq_iff (as bs : List UInt8) :
    hash (as ++ bs) = hash bs ↔ hash as = basis := by
  rw [hash_append]
  constructor
  · exact hashFrom_cancel
  · intro h
    rw [h]
    rfl

end NodeNet.Fnv

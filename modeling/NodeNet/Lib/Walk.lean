/-! Walks that advance a position until a limit, as an instruction decoder does. -/
namespace NodeNet.Walk

variable {next next' : Nat → Nat} {limit : Nat}

/-- Positions below the limit that a walk from `origin` stops at. -/
inductive Visits (next : Nat → Nat) (limit origin : Nat) : Nat → Prop
  | origin (h : origin < limit) : Visits next limit origin origin
  | step {pc : Nat} (h : Visits next limit origin pc) (hn : next pc < limit) :
      Visits next limit origin (next pc)

/-- Run a check at every position of the walk; the fuel bounds the number of positions. -/
def allFrom (next : Nat → Nat) (limit : Nat) (check : Nat → Bool) : Nat → Nat → Bool
  | 0, _ => true
  | fuel + 1, pc => if pc < limit then check pc && allFrom next limit check fuel (next pc) else true

theorem Visits.lt {o pc : Nat} (h : Visits next limit o pc) : pc < limit := by
  cases h with
  | origin h => exact h
  | step _ hn => exact hn

theorem Visits.origin_lt {o pc : Nat} (h : Visits next limit o pc) : o < limit := by
  induction h with
  | origin h => exact h
  | step _ _ ih => exact ih

theorem Visits.trans {o p q : Nat} (hp : Visits next limit o p) (hq : Visits next limit p q) :
    Visits next limit o q := by
  induction hq with
  | origin _ => exact hp
  | step _ hn ih => exact ih.step hn

theorem Visits.le {o pc : Nat} (hinc : ∀ p, p < next p) (h : Visits next limit o pc) : o ≤ pc := by
  induction h with
  | origin _ => exact Nat.le_refl _
  | step _ _ ih => exact Nat.le_trans ih (Nat.le_of_lt (hinc _))

theorem visits_iff {o pc : Nat} :
    Visits next limit o pc ↔ o < limit ∧ (pc = o ∨ Visits next limit (next o) pc) := by
  constructor
  · intro h
    refine ⟨h.origin_lt, ?_⟩
    induction h with
    | origin _ => exact .inl rfl
    | step _ hn ih =>
      rcases ih with rfl | ih
      · exact .inr (.origin hn)
      · exact .inr (ih.step hn)
  · rintro ⟨ho, rfl | h⟩
    · exact .origin ho
    · exact (Visits.step (.origin ho) h.origin_lt).trans h

theorem Visits.lt_or_visits {o p q : Nat} (hinc : ∀ p, p < next p) (hp : Visits next limit o p)
    (hq : Visits next limit o q) : q < p ∨ Visits next limit p q := by
  induction hp with
  | origin _ => exact .inr hq
  | @step p _ _ ih =>
    have hnext := hinc p
    rcases ih with h | h
    · exact .inl (by omega)
    · rcases (visits_iff.mp h).2 with rfl | h
      · exact .inl hnext
      · exact .inr h

theorem Visits.next_le {o p q : Nat} (hinc : ∀ p, p < next p) (hp : Visits next limit o p)
    (hq : Visits next limit o q) (hlt : p < q) : next p ≤ q := by
  rcases hp.lt_or_visits hinc hq with h | h
  · omega
  · rcases (visits_iff.mp h).2 with rfl | h
    · omega
    · exact h.le hinc

theorem allFrom_iff {check : Nat → Bool} (hinc : ∀ p, p < next p) (fuel pc : Nat)
    (hfuel : limit ≤ pc + fuel) :
    allFrom next limit check fuel pc = true ↔ ∀ q, Visits next limit pc q → check q = true := by
  induction fuel generalizing pc with
  | zero =>
    refine ⟨fun _ q hq => ?_, fun _ => rfl⟩
    have := hq.origin_lt
    omega
  | succ fuel ih =>
    unfold allFrom
    by_cases hpc : pc < limit
    · have hnext := hinc pc
      rw [if_pos hpc, Bool.and_eq_true, ih (next pc) (by omega)]
      constructor
      · rintro ⟨hc, hrest⟩ q hq
        rcases (visits_iff.mp hq).2 with rfl | hq
        · exact hc
        · exact hrest q hq
      · intro h
        refine ⟨h pc (.origin hpc), fun q hq => h q ?_⟩
        exact visits_iff.mpr ⟨hpc, .inr hq⟩
    · rw [if_neg hpc]
      refine ⟨fun _ q hq => absurd hq.origin_lt hpc, fun _ => rfl⟩

theorem visits_congr {o : Nat} (h : ∀ p, Visits next limit o p → next' p = next p) (pc : Nat) :
    Visits next' limit o pc ↔ Visits next limit o pc := by
  constructor
  · intro hv
    induction hv with
    | origin ho => exact .origin ho
    | step _ hn ih =>
      rw [h _ ih] at hn ⊢
      exact ih.step hn
  · intro hv
    induction hv with
    | origin ho => exact .origin ho
    | step hp hn ih =>
      rw [← h _ hp] at hn ⊢
      exact ih.step hn

end NodeNet.Walk

/-! Checks and counted loops that return early with an error. -/
namespace NodeNet.Checks

variable {ε α β σ : Type _} {p : Prop} [Decidable p]

/-- Run a fallible body for the indices `i, i + 1, ..., i + n - 1`. -/
def forLoop (body : Nat → σ → Except ε σ) (i : Nat) : Nat → σ → Except ε σ
  | 0, s => .ok s
  | n + 1, s =>
    match body i s with
    | .error e => .error e
    | .ok s => forLoop body (i + 1) n s

theorem ite_error_eq_ok {e : ε} {x : Except ε α} {r : α} :
    (if p then .error e else x) = .ok r ↔ ¬ p ∧ x = .ok r := by
  by_cases hp : p <;> simp [hp]

theorem bind_eq_ok {x : Except ε α} {f : α → Except ε β} {r : β} :
    x.bind f = .ok r ↔ ∃ a, x = .ok a ∧ f a = .ok r := by
  cases x <;> simp [Except.bind]

theorem forLoop_inv {body : Nat → σ → Except ε σ} {P : σ → Prop}
    (h : ∀ i s t, body i s = .ok t → P s → P t) {i n : Nat} {s t : σ}
    (hrun : forLoop body i n s = .ok t) (hs : P s) : P t := by
  induction n generalizing i s with
  | zero =>
    cases hrun
    exact hs
  | succ n ih =>
    unfold forLoop at hrun
    cases hb : body i s with
    | error e =>
      rw [hb] at hrun
      cases hrun
    | ok u =>
      rw [hb] at hrun
      exact ih hrun (h i s u hb hs)

/-- An invariant that follows the index holds after a finished loop; after a stopped one holds
what it gives at the error. -/
theorem forLoop_ind (body : Nat → σ → Except ε σ) (P : Nat → σ → Prop) (Q : ε → Prop)
    {n i : Nat} {s : σ}
    (hok : ∀ j s t, i ≤ j → j < i + n → P j s → body j s = .ok t → P (j + 1) t)
    (herr : ∀ j s e, i ≤ j → j < i + n → P j s → body j s = .error e → Q e) (hs : P i s) :
    (∀ t, forLoop body i n s = .ok t → P (i + n) t) ∧ ∀ e, forLoop body i n s = .error e → Q e := by
  induction n generalizing i s with
  | zero =>
    refine ⟨fun t ht => ?_, fun e he => ?_⟩
    · cases ht
      exact hs
    · cases he
  | succ n ih =>
    rw [forLoop]
    cases hb : body i s with
    | error e =>
      refine ⟨fun t ht => (by cases ht), fun e' he => ?_⟩
      cases he
      exact herr i s e (Nat.le_refl i) (by omega) hs hb
    | ok u =>
      have h := ih (i := i + 1) (s := u)
        (fun j s t hj hlt => hok j s t (by omega) (by omega))
        (fun j s e hj hlt => herr j s e (by omega) (by omega))
        (hok i s u (Nat.le_refl i) (by omega) hs hb)
      rw [show i + 1 + n = i + (n + 1) by omega] at h
      exact h

theorem forLoop_each {body : Nat → σ → Except ε σ} {i n : Nat} {s t : σ}
    (h : forLoop body i n s = .ok t) {j : Nat} (hij : i ≤ j) (hj : j < i + n) :
    ∃ u v, body j u = .ok v := by
  have hall := (forLoop_ind body (fun j _ => ∀ k, i ≤ k → k < j → ∃ u v, body k u = .ok v)
    (fun _ => True) (n := n) (i := i) (s := s) (fun j u v _ _ hbefore hbody k hik hk => by
      by_cases hkj : k = j
      · exact ⟨u, v, hkj ▸ hbody⟩
      · exact hbefore k hik (by omega)) (fun _ _ _ _ _ _ _ => trivial)
    (fun k hik hk => by omega)).1 t h
  exact hall j hij hj

end NodeNet.Checks

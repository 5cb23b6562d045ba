/-! Deterministic machines driven by events: runs, conditions along a run, and invariants. -/
namespace NodeNet.Machine

variable {σ ε : Type _} {next : σ → ε → σ}

/-- The state after a list of events. -/
def run (next : σ → ε → σ) (s : σ) (events : List ε) : σ := events.foldl next s

theorem run_concat (s : σ) (events : List ε) (e : ε) :
    run next s (events ++ [e]) = next (run next s events) e := by
  rw [run, List.foldl_append]
  rfl

/-- Every step of the run meets the condition. -/
def Along (next : σ → ε → σ) (good : σ → ε → Prop) : σ → List ε → Prop
  | _, [] => True
  | s, e :: events => good s e ∧ Along next good (next s e) events

instance Along.decidable (next : σ → ε → σ) (good : σ → ε → Prop)
    [∀ s e, Decidable (good s e)] : ∀ s events, Decidable (Along next good s events)
  | _, [] => .isTrue trivial
  | s, e :: events =>
    have := Along.decidable next good (next s e) events
    inferInstanceAs (Decidable (good s e ∧ Along next good (next s e) events))

theorem Along.mono {good good' : σ → ε → Prop} (h : ∀ s e, good s e → good' s e) {s : σ}
    {events : List ε} (ha : Along next good s events) : Along next good' s events := by
  induction events generalizing s with
  | nil => trivial
  | cons e events ih => exact ⟨h s e ha.1, ih ha.2⟩

theorem Along.and {good good' : σ → ε → Prop} {s : σ} {events : List ε}
    (h : Along next good s events) (h' : Along next good' s events) :
    Along next (fun s e => good s e ∧ good' s e) s events := by
  induction events generalizing s with
  | nil => trivial
  | cons e events ih => exact ⟨⟨h.1, h'.1⟩, ih h.2 h'.2⟩

theorem Along.at_run {good : σ → ε → Prop} {s : σ} {events rest : List ε} {e : ε}
    (h : Along next good s (events ++ e :: rest)) : good (run next s events) e := by
  induction events generalizing s with
  | nil => exact h.1
  | cons e' events ih => exact ih h.2

theorem Along.of_append {good : σ → ε → Prop} {s : σ} {events rest : List ε}
    (h : Along next good s (events ++ rest)) : Along next good (run next s events) rest := by
  induction events generalizing s with
  | nil => exact h
  | cons e events ih => exact ih h.2

theorem Along.of_append_left {good : σ → ε → Prop} {s : σ} {events rest : List ε}
    (h : Along next good s (events ++ rest)) : Along next good s events := by
  induction events generalizing s with
  | nil => trivial
  | cons e events ih => exact ⟨h.1, ih h.2⟩

theorem run_inv {good : σ → ε → Prop} {Inv : σ → Prop}
    (hstep : ∀ s e, Inv s → good s e → Inv (next s e)) {s : σ} {events : List ε}
    (hs : Inv s) (h : Along next good s events) : Inv (run next s events) := by
  induction events generalizing s with
  | nil => exact hs
  | cons e events ih => exact ih (hstep s e hs h.1) h.2

theorem run_inv_past {good : σ → ε → Prop} {Inv : List ε → σ → Prop} {s : σ}
    (hstep : ∀ past e, Inv past (run next s past) → good (run next s past) e →
      Inv (past ++ [e]) (next (run next s past) e)) (hs : Inv [] s) {events : List ε}
    (h : Along next good s events) : Inv events (run next s events) := by
  have hrest : ∀ events past, Inv past (run next s past) →
      Along next good (run next s past) events →
        Inv (past ++ events) (run next s (past ++ events)) := by
    intro events
    induction events with
    | nil =>
      intro past hpast _
      rw [List.append_nil]
      exact hpast
    | cons e events ih =>
      intro past hpast hgood
      have hnext := hstep past e hpast hgood.1
      have hconcat : run next s (past ++ [e]) = next (run next s past) e := run_concat s past e
      rw [← hconcat] at hnext
      have hrun := ih (past ++ [e]) hnext (by rw [hconcat]; exact hgood.2)
      rwa [List.append_assoc] at hrun
  exact hrest events [] hs h

theorem along_of_inv {good cond : σ → ε → Prop} (Inv : σ → Prop)
    (hstep : ∀ s e, Inv s → good s e → Inv (next s e))
    (hcond : ∀ s e, Inv s → good s e → cond s e) {s : σ} {events : List ε} (hs : Inv s)
    (h : Along next good s events) : Along next cond s events := by
  induction events generalizing s with
  | nil => trivial
  | cons e events ih => exact ⟨hcond s e hs h.1, ih (hstep s e hs h.1) h.2⟩

theorem along_iff_of_inv {cond cond' : σ → ε → Prop} (Inv : σ → Prop)
    (hstep : ∀ s e, Inv s → cond' s e → Inv (next s e))
    (hcond : ∀ s e, Inv s → (cond s e ↔ cond' s e)) {s : σ} {events : List ε} (hs : Inv s) :
    Along next cond s events ↔ Along next cond' s events := by
  induction events generalizing s with
  | nil => exact Iff.rfl
  | cons e events ih =>
    have hhead := hcond s e hs
    constructor
    · intro h
      have he := hhead.mp h.1
      exact ⟨he, (ih (hstep s e hs he)).mp h.2⟩
    · intro h
      exact ⟨hhead.mpr h.1, (ih (hstep s e hs h.1)).mpr h.2⟩

theorem along_true (s : σ) (events : List ε) : Along next (fun _ _ => True) s events := by
  induction events generalizing s with
  | nil => trivial
  | cons e events ih => exact ⟨trivial, ih (next s e)⟩

theorem run_replicate_of_measure {Good : σ → Prop} (Done : σ → Prop) (measure : σ → Nat) {e : ε}
    (hgood : ∀ s, Good s → Good (next s e)) (hdone : ∀ s, Good s → Done s → Done (next s e))
    (hstep : ∀ s, Good s → Done (next s e) ∨ measure (next s e) < measure s) {n : Nat} {s : σ}
    (hs : Good s) (hn : measure s < n) : Done (run next s (List.replicate n e)) := by
  have hkeep : ∀ n s, Good s → Done s → Done (run next s (List.replicate n e)) := by
    intro n
    induction n with
    | zero => exact fun s _ h => h
    | succ n ih => exact fun s hs h => ih (next s e) (hgood s hs) (hdone s hs h)
  induction n generalizing s with
  | zero => omega
  | succ n ih =>
    cases hstep s hs with
    | inl h => exact hkeep n (next s e) (hgood s hs) h
    | inr h => exact ih (hgood s hs) (by omega)

theorem reaches_of_rank {Rank : Nat → σ → Prop} {Done : σ → Prop} {e : ε}
    (hstep : ∀ n s, Rank n s → Done (next s e) ∨ ∃ m < n, Rank m (next s e)) {n : Nat} {s : σ}
    (hs : Rank n s) : ∃ k, Done (run next s (List.replicate k e)) := by
  induction n using Nat.strongRecOn generalizing s with
  | ind n ih =>
    rcases hstep n s hs with h | ⟨m, hm, h⟩
    · exact ⟨1, h⟩
    · obtain ⟨k, hk⟩ := ih m hm h
      exact ⟨k + 1, hk⟩

/-- The machine together with an observer that keeps notes on its steps. -/
def observed {γ : Type _} (next : σ → ε → σ) (note : σ → ε → γ → γ) (p : σ × γ) (e : ε) : σ × γ :=
  (next p.1 e, note p.1 e p.2)

theorem run_observed {γ : Type _} (note : σ → ε → γ → γ) (s : σ) (g : γ) (events : List ε) :
    (run (observed next note) (s, g) events).1 = run next s events := by
  induction events generalizing s g with
  | nil => rfl
  | cons e events ih => exact ih (next s e) (note s e g)

theorem along_observed {γ : Type _} (note : σ → ε → γ → γ) {good : σ → ε → Prop} (s : σ) (g : γ)
    (events : List ε) :
    Along (observed next note) (fun p e => good p.1 e) (s, g) events ↔ Along next good s events := by
  induction events generalizing s g with
  | nil => exact Iff.rfl
  | cons e events ih => exact and_congr_right fun _ => ih (next s e) (note s e g)

end NodeNet.Machine

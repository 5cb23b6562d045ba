import Mathlib.Data.Set.Basic

/-! A flag that pending operations save, clear while they are at work, and restore. -/
namespace NodeNet

@[ext] structure SavedFlag (ι : Type _) where
  enabled : Bool
  saved : ι → Option Bool

namespace SavedFlag
variable {ι : Type _} [DecidableEq ι]

def command (f : SavedFlag ι) (enabled : Bool) : SavedFlag ι := { f with enabled := enabled }

def setSaved (f : SavedFlag ι) (i : ι) (saved : Option Bool) : SavedFlag ι :=
  { f with saved := fun j => if j = i then saved else f.saved j }

theorem setSaved_self (f : SavedFlag ι) (i : ι) (saved : Option Bool) :
    (f.setSaved i saved).saved i = saved := if_pos rfl

theorem setSaved_of_ne (f : SavedFlag ι) {i j : ι} (h : j ≠ i) (saved : Option Bool) :
    (f.setSaved i saved).saved j = f.saved j := if_neg h

/-- The operation becomes pending, and forgets what it saved if it was. -/
def save (f : SavedFlag ι) (i : ι) : SavedFlag ι := f.setSaved i (some f.enabled)

/-- The operation is not pending any more, and does not restore the flag. -/
def drop (f : SavedFlag ι) (i : ι) : SavedFlag ι := f.setSaved i none

/-- The flag is cleared for an operation that saved it set. -/
def disable (f : SavedFlag ι) (i : ι) : SavedFlag ι :=
  { f with enabled := f.enabled && !(f.saved i).getD false }

/-- The operation is done. -/
def restore (f : SavedFlag ι) (i : ι) : SavedFlag ι :=
  { (f.drop i) with enabled := f.enabled || (f.saved i).getD false }

/-- The flag is set, or will be once the operations other than `i` are done. -/
def RememberedBut (f : SavedFlag ι) (i : ι) : Prop :=
  f.enabled = true ∨ ∃ j, j ≠ i ∧ f.saved j = some true

/-- The flag is set, or will be once the pending operations are done. -/
def Remembered (f : SavedFlag ι) : Prop := f.enabled = true ∨ ∃ i, f.saved i = some true

omit [DecidableEq ι] in
theorem remembered_split (f : SavedFlag ι) (i : ι) :
    f.Remembered ↔ f.RememberedBut i ∨ f.saved i = some true := by
  constructor
  · intro h
    cases h with
    | inl h => exact .inl (.inl h)
    | inr h =>
      obtain ⟨j, hj⟩ := h
      by_cases hji : j = i
      · exact .inr (hji ▸ hj)
      · exact .inl (.inr ⟨j, hji, hj⟩)
  · intro h
    cases h with
    | inl h => exact h.imp_right fun ⟨j, _, hj⟩ => ⟨j, hj⟩
    | inr h => exact .inr ⟨i, h⟩

omit [DecidableEq ι] in
theorem remembered_iff_but {f : SavedFlag ι} {i : ι}
    (h : f.saved i = some true → f.RememberedBut i) : f.Remembered ↔ f.RememberedBut i := by
  rw [remembered_split f i]
  exact or_iff_left_of_imp h

omit [DecidableEq ι] in
theorem remembered_of_idle {f : SavedFlag ι} (h : ∀ i, f.saved i = none) :
    f.Remembered ↔ f.enabled = true := by
  simp [Remembered, h]

theorem remembered_setSaved (f : SavedFlag ι) (i : ι) (saved : Option Bool) :
    (f.setSaved i saved).Remembered ↔ f.RememberedBut i ∨ saved = some true := by
  have hbut : (f.setSaved i saved).RememberedBut i ↔ f.RememberedBut i := by
    refine or_congr_right (exists_congr fun j => and_congr_right fun hj => ?_)
    rw [setSaved_of_ne f hj]
  rw [remembered_split _ i, hbut, setSaved_self]

theorem remembered_save (f : SavedFlag ι) (i : ι) :
    (f.save i).Remembered ↔ f.RememberedBut i := by
  rw [save, remembered_setSaved, Option.some.injEq]
  exact or_iff_left_of_imp .inl

theorem remembered_drop (f : SavedFlag ι) (i : ι) :
    (f.drop i).Remembered ↔ f.RememberedBut i := by
  rw [drop, remembered_setSaved]
  simp

omit [DecidableEq ι] in
theorem remembered_disable (f : SavedFlag ι) (i : ι) :
    (f.disable i).Remembered ↔ f.Remembered := by
  cases hi : f.saved i with
  | none => simp [disable, Remembered, hi]
  | some b =>
    cases b with
    | false => simp [disable, Remembered, hi]
    | true => exact iff_of_true (.inr ⟨i, hi⟩) (.inr ⟨i, hi⟩)

theorem remembered_restore (f : SavedFlag ι) (i : ι) :
    (f.restore i).Remembered ↔ f.Remembered := by
  rw [remembered_split f i]
  cases hi : f.saved i with
  | none =>
    have heq : f.restore i = f.drop i := by simp [restore, drop, setSaved, hi]
    rw [heq, remembered_drop]
    simp
  | some b =>
    cases b with
    | false =>
      have heq : f.restore i = f.drop i := by simp [restore, drop, setSaved, hi]
      rw [heq, remembered_drop]
      simp
    | true => exact iff_of_true (.inl (by simp [restore, hi])) (.inr rfl)

theorem rememberedBut_restore (f : SavedFlag ι) {i j : ι} (hij : i ≠ j) :
    (f.restore i).RememberedBut j ↔ f.RememberedBut j := by
  have hsaved : ∀ k, (f.restore i).saved k = if k = i then none else f.saved k := fun _ => rfl
  constructor
  · intro h
    cases h with
    | inl h =>
      simp only [restore, Bool.or_eq_true] at h
      cases h with
      | inl h => exact .inl h
      | inr h =>
        cases hi : f.saved i with
        | none => simp [hi] at h
        | some b =>
          simp only [hi, Option.getD_some] at h
          exact .inr ⟨i, hij, by rw [hi, h]⟩
    | inr h =>
      obtain ⟨k, hkj, hk⟩ := h
      rw [hsaved] at hk
      by_cases hki : k = i
      · simp [hki] at hk
      · exact .inr ⟨k, hkj, by simpa [hki] using hk⟩
  · intro h
    cases h with
    | inl h => exact .inl (by simp [restore, h])
    | inr h =>
      obtain ⟨k, hkj, hk⟩ := h
      by_cases hki : k = i
      · exact .inl (by simp [restore, ← hki, hk])
      · exact .inr ⟨k, hkj, by simpa [hsaved, hki] using hk⟩

/-- A set flag is guarded: every pending operation saved it set, and is one that clears it again
before it goes to work. -/
def Guarded (again : ι → Prop) (f : SavedFlag ι) : Prop :=
  f.enabled = true → ∀ i saved, f.saved i = some saved → saved = true ∧ again i

omit [DecidableEq ι] in
theorem guarded_of_disabled {again : ι → Prop} {f : SavedFlag ι} (h : f.enabled = false) :
    f.Guarded again := by
  intro henabled
  rw [h] at henabled
  cases henabled

omit [DecidableEq ι] in
theorem Guarded.disable {again : ι → Prop} {f : SavedFlag ι} (h : f.Guarded again) (i : ι) :
    (f.disable i).Guarded again := by
  intro henabled
  simp only [SavedFlag.disable, Bool.and_eq_true] at henabled
  exact h henabled.1

omit [DecidableEq ι] in
theorem Guarded.disabled {again : ι → Prop} {f : SavedFlag ι} (h : f.Guarded again) {i : ι}
    {saved : Bool} (hi : f.saved i = some saved) : (f.disable i).enabled = false := by
  cases henabled : f.enabled with
  | false => simp [SavedFlag.disable, henabled]
  | true =>
    obtain ⟨rfl, _⟩ := h henabled i saved hi
    simp [SavedFlag.disable, hi]

theorem Guarded.save {again : ι → Prop} {f : SavedFlag ι} (h : f.Guarded again) {i : ι}
    (hi : again i) : (f.save i).Guarded again := by
  intro henabled j saved hj
  by_cases hji : j = i
  · subst hji
    rw [SavedFlag.save, setSaved_self, Option.some.injEq] at hj
    exact ⟨hj ▸ henabled, hi⟩
  · rw [SavedFlag.save, setSaved_of_ne f hji] at hj
    exact h henabled j saved hj

end SavedFlag
end NodeNet

/-! The elements of a list, each where it is first seen, lists that are grouped, and an index that
shares its place with other indices. -/
namespace NodeNet.FirstSeen
variable {α : Type}

section
variable [DecidableEq α]

def note (seen : List α) (a : α) : List α := if a ∈ seen then seen else seen ++ [a]

def firstSeen (l : List α) : List α := l.foldl note []

theorem firstSeen_concat (l : List α) (a : α) : firstSeen (l ++ [a]) = note (firstSeen l) a := by
  rw [firstSeen, List.foldl_append]
  rfl

theorem mem_note {seen : List α} {a b : α} : b ∈ note seen a ↔ b ∈ seen ∨ b = a := by
  rw [note]
  split
  · rename_i hmem
    constructor
    · exact .inl
    · rintro (h | rfl)
      · exact h
      · exact hmem
  · simp

theorem note_nodup {seen : List α} (h : seen.Nodup) (a : α) : (note seen a).Nodup := by
  rw [note]
  split
  · exact h
  · rename_i hmem
    rw [List.nodup_append]
    refine ⟨h, by simp, fun b hb c hc => ?_⟩
    rintro rfl
    rw [List.mem_singleton] at hc
    exact hmem (hc ▸ hb)

theorem firstSeen_nodup (l : List α) : (firstSeen l).Nodup := by
  have hstep : ∀ seen : List α, seen.Nodup → (l.foldl note seen).Nodup := by
    induction l with
    | nil => exact fun seen h => h
    | cons a l ih => exact fun seen h => ih _ (note_nodup h a)
  exact hstep [] List.nodup_nil

theorem firstSeen_length_le (l : List α) : (firstSeen l).length ≤ l.length := by
  have hstep : ∀ seen : List α, (l.foldl note seen).length ≤ seen.length + l.length := by
    induction l with
    | nil => exact fun seen => Nat.le_refl _
    | cons a l ih =>
      intro seen
      have hrest := ih (note seen a)
      have hnote : (note seen a).length ≤ seen.length + 1 := by
        rw [note]
        split
        · omega
        · simp
      rw [List.foldl_cons, List.length_cons]
      omega
  have hall := hstep []
  rw [List.length_nil, Nat.zero_add] at hall
  exact hall

theorem firstSeen_values {β : Type} [DecidableEq β] (l : List (α × β)) (a : α) :
    ((firstSeen l).filter fun p => p.1 = a).map (·.2) =
      firstSeen ((l.filter fun p => p.1 = a).map (·.2)) := by
  have hnote : ∀ (seen : List (α × β)) (p : α × β),
      ((note seen p).filter fun q => q.1 = a).map (·.2) =
        if p.1 = a then note ((seen.filter fun q => q.1 = a).map (·.2)) p.2
        else (seen.filter fun q => q.1 = a).map (·.2) := by
    intro seen p
    have hmem : p.1 = a → (p ∈ seen ↔ p.2 ∈ (seen.filter fun q => q.1 = a).map (·.2)) := by
      rintro rfl
      simp
    rw [note]
    by_cases hkey : p.1 = a
    · rw [if_pos hkey, note]
      by_cases hseen : p ∈ seen
      · rw [if_pos hseen, if_pos ((hmem hkey).mp hseen)]
      · rw [if_neg hseen, if_neg (mt (hmem hkey).mpr hseen), List.filter_append,
          List.map_append]
        simp [hkey]
    · rw [if_neg hkey]
      split
      · rfl
      · simp [List.filter_append, hkey]
  have hstep : ∀ seen : List (α × β), ((l.foldl note seen).filter fun q => q.1 = a).map (·.2) =
      ((l.filter fun q => q.1 = a).map (·.2)).foldl note
        ((seen.filter fun q => q.1 = a).map (·.2)) := by
    induction l with
    | nil => exact fun seen => rfl
    | cons p l ih =>
      intro seen
      rw [List.foldl_cons, ih, hnote]
      by_cases hkey : p.1 = a
      · simp [hkey]
      · simp [hkey]
  exact hstep []

theorem mem_firstSeen {l : List α} {a : α} : a ∈ firstSeen l ↔ a ∈ l := by
  have hstep : ∀ seen : List α, a ∈ l.foldl note seen ↔ a ∈ seen ∨ a ∈ l := by
    induction l with
    | nil => simp
    | cons b l ih =>
      intro seen
      rw [List.foldl_cons, ih, mem_note, List.mem_cons, or_assoc]
  rw [firstSeen, hstep]
  simp

end

/-! Lists in which what is equal stands together. -/

/-- Between equal elements stand only equal ones. -/
def Grouped (l : List α) : Prop :=
  ∀ i j k, i ≤ j → j ≤ k → k < l.length → l[i]? = l[k]? → l[j]? = l[i]?

theorem Grouped.of_append {l more : List α} (h : Grouped (l ++ more)) : Grouped l := by
  intro i j k hij hjk hk hsame
  have hall := h i j k hij hjk (by rw [List.length_append]; omega)
  rw [List.getElem?_append_left (by omega), List.getElem?_append_left (by omega),
    List.getElem?_append_left (by omega)] at hall
  exact hall hsame

theorem grouped_concat {l : List α} {a : α} :
    Grouped (l ++ [a]) ↔ Grouped l ∧ (a ∈ l → l.getLast? = some a) := by
  have hnew : (l ++ [a])[l.length]? = some a := by simp
  have hold : ∀ i < l.length, (l ++ [a])[i]? = l[i]? := fun i hi => List.getElem?_append_left hi
  constructor
  · intro h
    refine ⟨h.of_append, fun ha => ?_⟩
    obtain ⟨i, hi⟩ := List.getElem?_of_mem ha
    have hlt := (List.getElem?_eq_some_iff.mp hi).1
    have hlast := h i (l.length - 1) l.length (by omega) (by omega) (by simp)
      (by rw [hnew, hold i hlt, hi])
    rw [hold i hlt, hold _ (by omega), hi] at hlast
    rw [List.getLast?_eq_getElem?, hlast]
  · rintro ⟨h, hlast⟩ i j k hij hjk hk hsame
    rw [List.length_append, List.length_singleton] at hk
    by_cases hinside : k < l.length
    · rw [hold i (by omega), hold k hinside] at hsame
      rw [hold i (by omega), hold j (by omega)]
      exact h i j k hij hjk hinside hsame
    · obtain rfl : k = l.length := by omega
      by_cases hi : i < l.length
      · rw [hnew, hold i hi] at hsame
        rw [hold i hi, hsame]
        by_cases hj : j < l.length
        · have hend := hlast (List.mem_of_getElem? hsame)
          rw [List.getLast?_eq_getElem?] at hend
          have hmiddle := h i j (l.length - 1) hij (by omega) (by omega) (by rw [hsame, hend])
          rw [hold j hj, hmiddle, hsame]
        · obtain rfl : j = l.length := by omega
          exact hnew
      · obtain rfl : j = i := by omega
        rfl

/-- The entries that were recorded of the elements seen so far. An element is recorded if it is
not on the shelf yet, as far as the shelf is taken to hold the recorded ones; but what lies there
can be another's. -/
structure Recorded (seen shelf recorded : List α) : Prop where
  long : recorded.length ≤ shelf.length
  known : ∀ a ∈ recorded, a ∈ seen
  covered : ∀ a ∈ seen, a ∈ recorded ∨ a ∈ shelf.take recorded.length
  fresh : ∀ k a, recorded[k]? = some a → a ∉ shelf.take k
  agree : ∀ k ≤ recorded.length, shelf.take k = seen.take k → recorded.take k = shelf.take k

theorem Recorded.nil (shelf : List α) : Recorded [] shelf [] where
  long := Nat.zero_le _
  known := by simp
  covered := by simp
  fresh := by simp
  agree k hk _ := by
    rw [Nat.le_zero.mp hk]
    rfl

variable {seen shelf recorded : List α}

theorem Recorded.shelved (h : Recorded seen shelf recorded) (more : List α) :
    Recorded seen (shelf ++ more) recorded := by
  have htake : ∀ k ≤ recorded.length, (shelf ++ more).take k = shelf.take k := fun k hk =>
    List.take_append_of_le_length (Nat.le_trans hk h.long)
  refine ⟨?_, h.known, ?_, ?_, ?_⟩
  · rw [List.length_append]
    exact Nat.le_trans h.long (Nat.le_add_right _ _)
  · rw [htake _ (Nat.le_refl _)]
    exact h.covered
  · intro k a ha
    have hk := (List.getElem?_eq_some_iff.mp ha).1
    rw [htake k (Nat.le_of_lt hk)]
    exact h.fresh k a ha
  · intro k hk
    rw [htake k hk]
    exact h.agree k hk

theorem Recorded.length_le (h : Recorded seen shelf recorded)
    (hagree : shelf.take seen.length = seen) : recorded.length ≤ seen.length := by
  by_cases hmore : seen.length < recorded.length
  · have hfresh := h.fresh seen.length recorded[seen.length] (List.getElem?_eq_getElem hmore)
    rw [hagree] at hfresh
    exact absurd (h.known _ (List.getElem_mem hmore)) hfresh
  · omega

variable [DecidableEq α]

theorem Recorded.agree_note (h : Recorded seen shelf recorded) (a : α) {k : Nat}
    (hk : k ≤ recorded.length) (hsame : shelf.take k = (note seen a).take k) :
    recorded.take k = shelf.take k := by
  rw [note] at hsame
  split at hsame
  · exact h.agree k hk hsame
  · by_cases hshort : k ≤ seen.length
    · rw [List.take_append_of_le_length hshort] at hsame
      exact h.agree k hk hsame
    · have hprefix : shelf.take seen.length = seen := by
        have hboth := congrArg (List.take seen.length) hsame
        rw [List.take_take, List.take_take, Nat.min_eq_left (by omega)] at hboth
        simpa using hboth
      have hle := h.length_le hprefix
      omega

theorem Recorded.seenAgain (h : Recorded seen shelf recorded) {a : α}
    (ha : a ∈ shelf.take recorded.length) : Recorded (note seen a) shelf recorded := by
  refine ⟨h.long, fun b hb => mem_note.mpr (.inl (h.known b hb)), fun b hb => ?_, h.fresh,
    fun k hk hsame => h.agree_note a hk hsame⟩
  obtain hseen | rfl := mem_note.mp hb
  · exact h.covered b hseen
  · exact .inr ha

/-- The element is recorded, since it is not found on the shelf. -/
theorem Recorded.record (h : Recorded seen shelf recorded) (hnodup : seen.Nodup) {a : α}
    (ha : a ∉ shelf.take recorded.length) :
    Recorded (note seen a) (shelf ++ [a]) (recorded ++ [a]) := by
  have htake : ∀ k ≤ recorded.length, (shelf ++ [a]).take k = shelf.take k := fun k hk =>
    List.take_append_of_le_length (Nat.le_trans hk h.long)
  refine ⟨?_, ?_, ?_, ?_, ?_⟩
  · simpa using h.long
  · intro b hb
    rw [List.mem_append, List.mem_singleton] at hb
    exact mem_note.mpr (hb.imp (h.known b) id)
  · intro b hb
    obtain hseen | rfl := mem_note.mp hb
    · obtain hrecorded | hshelf := h.covered b hseen
      · exact .inl (List.mem_append_left _ hrecorded)
      · refine .inr ?_
        rw [← htake _ (Nat.le_refl _)] at hshelf
        exact (List.take_sublist_take_left (by simp)).subset hshelf
    · simp
  · intro k b hb
    rw [List.getElem?_append] at hb
    split at hb
    · rename_i hk
      rw [htake k (Nat.le_of_lt hk)]
      exact h.fresh k b hb
    · rename_i hk
      have hlast : k - recorded.length = 0 ∧ b = a := by
        rw [List.getElem?_singleton] at hb
        split at hb
        · rename_i hzero
          exact ⟨hzero, (Option.some.inj hb).symm⟩
        · cases hb
      have hend : k = recorded.length := by omega
      rw [hlast.2, hend, htake _ (Nat.le_refl _)]
      exact ha
  · intro k hk hsame
    by_cases hold : k ≤ recorded.length
    · rw [htake k hold] at hsame ⊢
      rw [List.take_append_of_le_length hold]
      exact h.agree_note a hold hsame
    · have hend : k = recorded.length + 1 := by
        rw [List.length_append, List.length_singleton] at hk
        omega
      subst hend
      have hbefore : shelf.take recorded.length = (note seen a).take recorded.length := by
        have hboth := congrArg (List.take recorded.length) hsame
        rwa [List.take_take, List.take_take, Nat.min_eq_left (Nat.le_succ _),
          htake _ (Nat.le_refl _)] at hboth
      have hall : recorded = shelf.take recorded.length := by
        have hagree := h.agree_note a (Nat.le_refl _) hbefore
        rwa [List.take_length] at hagree
      rw [← hall] at ha
      have hcovered : ∀ b ∈ seen, b ∈ recorded := by
        intro b hb
        have hboth := h.covered b hb
        rw [← hall] at hboth
        exact hboth.elim id id
      have hnew : a ∉ seen := fun hseen => ha (hcovered a hseen)
      rw [note, if_neg hnew] at hsame hbefore
      have hlong : recorded.length ≤ seen.length := by
        have hlengths := congrArg List.length hsame
        have hshelf := h.long
        rw [List.length_take, List.length_take, List.length_append, List.length_append,
          List.length_singleton] at hlengths
        omega
      have hshort : seen.length ≤ recorded.length := by
        by_cases hmore : recorded.length < seen.length
        · rw [List.take_append_of_le_length (Nat.le_of_lt hmore), ← hall] at hbefore
          have hmem : seen[recorded.length] ∈ seen.take recorded.length :=
            Eq.subst (motive := fun l => seen[recorded.length] ∈ l) hbefore
              (hcovered _ (List.getElem_mem hmore))
          obtain ⟨i, hi, hget⟩ := List.mem_take_iff_getElem.mp hmem
          have hsame := (List.getElem_inj hnodup).mp hget
          omega
        · omega
      have hlength : seen.length = recorded.length := by omega
      have hseen : seen = recorded := by
        rw [List.take_append_of_le_length hlong, ← hall, ← hlength, List.take_length] at hbefore
        exact hbefore.symm
      rw [hsame, hseen]

end NodeNet.FirstSeen

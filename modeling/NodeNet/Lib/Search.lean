/-! Searching a list for the first place where a pattern stands. -/
namespace NodeNet.Search

variable {α : Type _} [DecidableEq α]

def find (pattern : List α) : List α → Option Nat
  | [] => if pattern = [] then some 0 else none
  | c :: text =>
    if pattern <+: c :: text then some 0 else (find pattern text).map (· + 1)

/-- The search from a position on; no pattern stands past the end. -/
def findFrom (pattern text : List α) (position : Nat) : Option Nat :=
  if position ≤ text.length then (find pattern (text.drop position)).map (position + ·) else none

theorem find_isPrefix {pattern text : List α} {position : Nat}
    (h : find pattern text = some position) : pattern <+: text.drop position := by
  induction text generalizing position with
  | nil =>
    unfold find at h
    split at h
    · rename_i hpattern
      subst hpattern
      exact List.nil_prefix
    · cases h
  | cons c text ih =>
    unfold find at h
    split at h
    · rename_i hprefix
      cases h
      exact hprefix
    · obtain ⟨i, hi, rfl⟩ := Option.map_eq_some_iff.mp h
      exact ih hi

theorem find_le {pattern text : List α} {position : Nat}
    (h : find pattern text = some position) : position + pattern.length ≤ text.length := by
  have hprefix := (find_isPrefix h).length_le
  have hposition : position ≤ text.length := by
    induction text generalizing position with
    | nil =>
      unfold find at h
      split at h <;> cases h
      exact Nat.le_refl _
    | cons c text ih =>
      unfold find at h
      split at h
      · cases h
        exact Nat.zero_le _
      · obtain ⟨i, hi, rfl⟩ := Option.map_eq_some_iff.mp h
        have := ih hi (find_isPrefix hi).length_le
        simpa using this
  rw [List.length_drop] at hprefix
  omega

theorem find_split {pattern text : List α} {position : Nat}
    (h : find pattern text = some position) :
    text = text.take position ++ pattern ++ text.drop (position + pattern.length) := by
  obtain ⟨rest, hrest⟩ := find_isPrefix h
  have hdrop : text.drop (position + pattern.length) = rest := by
    rw [← List.drop_drop, ← hrest, List.drop_left]
  rw [hdrop, List.append_assoc, hrest, List.take_append_drop]

end NodeNet.Search

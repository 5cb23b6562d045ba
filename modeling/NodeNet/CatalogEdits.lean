import NodeNet.PointUpdates

/-! The edits of the catalog, and the stores from outside to the states of its points. -/
namespace NodeNet.Catalog
open NodeNet.Points

/-- What `clear` leaves. -/
def PointCatalog.cleared (c : PointCatalog) : PointCatalog :=
  { PointCatalog.empty with defsGeneration := c.defsGeneration + 1 }

inductive CatalogEdit where
  | upsert (definition : PointDefinition)
  | remove (id : PointIdentity)
  | replaceSlotVariables (slotId : UInt16) (definitions : List PointDefinition)
  | clear

def PointCatalog.edited (c : PointCatalog) : CatalogEdit → PointCatalog
  | .upsert definition => (c.upsert definition).getD c
  | .remove id => (c.remove id).getD c
  | .replaceSlotVariables slotId definitions =>
    ((c.replaceSlotVariableDefinitions slotId definitions).map (·.1)).getD c
  | .clear => c.cleared

def PointCatalog.stored (c : PointCatalog) (index : Nat) (state : PointState) : PointCatalog :=
  (c.setState index state).markStateDirty index

theorem length_replacedEntries (slotId : UInt16) (definitions : List PointDefinition)
    (entries : List Entry) :
    (replacedEntries slotId definitions entries).length +
      (entries.filter (isSlotVariablePoint slotId)).length = entries.length + definitions.length := by
  have hsplit := congrArg List.length
    (List.takeWhile_append_dropWhile (p := fun e => !isLaterSlotPoint slotId e)
      (l := entries.filter fun e => !isSlotVariablePoint slotId e))
  have hcount := List.length_eq_countP_add_countP (isSlotVariablePoint slotId) (l := entries)
  have hrest : entries.countP (fun e => decide ¬isSlotVariablePoint slotId e = true) =
      (entries.filter fun e => !isSlotVariablePoint slotId e).length := by
    simp [List.countP_eq_length_filter]
  rw [hrest, List.countP_eq_length_filter] at hcount
  rw [List.length_append] at hsplit
  simp only [replacedEntries, List.length_append, List.length_map]
  omega

variable {c : PointCatalog}

/-- No edit makes the catalog larger than it may be. -/
theorem edited_size (h : c.size ≤ kMaxPoints) (e : CatalogEdit) :
    (c.edited e).size ≤ kMaxPoints := by
  cases e with
  | upsert definition =>
    rw [PointCatalog.edited, PointCatalog.upsert]
    cases c.findIndex definition.id with
    | some i => simpa [PointCatalog.size] using h
    | none =>
      by_cases hfull : kMaxPoints ≤ c.size
      · simpa [hfull] using h
      · simp only [hfull, if_false, Option.getD_some, setEntries_size, List.length_append,
          List.length_singleton]
        simp only [PointCatalog.size] at hfull
        omega
  | remove id =>
    rw [PointCatalog.edited, PointCatalog.remove]
    cases c.findIndex id with
    | none => exact h
    | some i =>
      simp only [Option.getD_some, setEntries_size]
      exact Nat.le_trans (List.length_eraseIdx_le _ _) h
  | replaceSlotVariables slotId definitions =>
    rw [PointCatalog.edited, PointCatalog.replaceSlotVariableDefinitions]
    by_cases hmany : kMaxPoints < definitions.length
    · rw [if_pos hmany]
      exact h
    · rw [if_neg hmany]
      by_cases hfull : kMaxPoints <
          c.size - (slotVariables slotId c).length + definitions.length
      · rw [if_pos hfull]
        exact h
      · rw [if_neg hfull]
        by_cases hsame :
            sameDefinitions ((slotVariables slotId c).map (·.definition)) definitions = true
        · rw [if_pos hsame]
          exact h
        · rw [if_neg hsame]
          have hlength := length_replacedEntries slotId definitions c.entries
          simp only [Option.map_some, Option.getD_some, setEntries_size]
          simp only [slotVariables, PointCatalog.size] at hfull
          omega
  | clear => exact Nat.zero_le _

theorem edited_cases (c : PointCatalog) (e : CatalogEdit) : c.edited e = c ∨
    (c.edited e).defsGeneration = c.defsGeneration + 1 ∧
      (c.edited e).runtimeFullSyncRequired = true ∧ (c.edited e).dirtyStateQueue = [] ∧
      (c.edited e).dirtyStateFlags = fun _ => false := by
  cases e with
  | upsert definition =>
    rw [PointCatalog.edited, PointCatalog.upsert]
    cases c.findIndex definition.id with
    | some i => exact .inr ⟨rfl, rfl, rfl, rfl⟩
    | none =>
      dsimp only
      split
      · exact .inl rfl
      · exact .inr ⟨rfl, rfl, rfl, rfl⟩
  | remove id =>
    rw [PointCatalog.edited, PointCatalog.remove]
    cases c.findIndex id with
    | none => exact .inl rfl
    | some i => exact .inr ⟨rfl, rfl, rfl, rfl⟩
  | replaceSlotVariables slotId definitions =>
    rw [PointCatalog.edited, PointCatalog.replaceSlotVariableDefinitions]
    dsimp only
    split
    · exact .inl rfl
    · split
      · exact .inl rfl
      · split
        · exact .inl rfl
        · exact .inr ⟨rfl, rfl, rfl, rfl⟩
  | clear => exact .inr ⟨rfl, rfl, rfl, rfl⟩

theorem edited_eq_of_generation {e : CatalogEdit}
    (h : (c.edited e).defsGeneration = c.defsGeneration) : c.edited e = c := by
  obtain hsame | ⟨hgeneration, -⟩ := edited_cases c e
  · exact hsame
  · rw [hgeneration] at h
    have hne : c.defsGeneration + 1 ≠ c.defsGeneration := by
      intro heq
      have hnat := congrArg UInt32.toNat heq
      rw [UInt32.toNat_add] at hnat
      have hlt := c.defsGeneration.toNat_lt
      have hone : (1 : UInt32).toNat = 1 := rfl
      omega
    exact absurd h hne

@[simp] theorem stored_definitions (c : PointCatalog) (index : Nat) (state : PointState) :
    (c.stored index state).definitions = c.definitions := by
  rw [PointCatalog.stored, markStateDirty_definitions, setState_definitions]

theorem size_eq_of_definitions {c' : PointCatalog} (h : c'.definitions = c.definitions) :
    c'.size = c.size := by
  have hlength := congrArg List.length h
  simpa only [PointCatalog.definitions, PointCatalog.size, List.length_map] using hlength

theorem stored_size (h : c.size ≤ kMaxPoints) (index : Nat) (state : PointState) :
    (c.stored index state).size ≤ kMaxPoints := by
  rw [size_eq_of_definitions (stored_definitions c index state)]
  exact h

end NodeNet.Catalog

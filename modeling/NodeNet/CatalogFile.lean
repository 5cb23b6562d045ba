import NodeNet.BrowseIndex
import NodeNet.Catalog
import NodeNet.DefinitionJson

/-! The catalog as a JSON text: `saveToJson` and `loadFromJson`. -/
namespace NodeNet.Catalog
open NodeNet.Points NodeNet.Json

/-- The loop over the stored points: whether it reads all of them, and the entries it makes. -/
def loadEntries (library : Library) : List Value → List Entry → Bool × List Entry
  | [], entries => (true, entries)
  | item :: items, entries =>
    if kMaxPoints ≤ entries.length then (false, entries)
    else
      match deserializePersistedEntry library item with
      | none => (false, entries)
      | some definition =>
        if isTransientSlotVariable definition.id then loadEntries library items entries
        else loadEntries library items (entries ++ [freshEntry definition])

/-- The list of points in a document: under its own name, or the document itself. -/
def storedPoints (doc : Value) : Option (List Value) :=
  match (doc.at (ascii "points")).items with
  | some items => some items
  | none => doc.items

/-- The result of the call comes first. No text is a null pointer. -/
def BrowsedCatalog.loadFromJson (library : Library) (s : BrowsedCatalog) (json : Option Text) :
    Bool × BrowsedCatalog :=
  match json with
  | none | some [] => (true, s.clear)
  | some json =>
    match library.deserialize json with
    | none => (false, s)
    | some doc =>
      match storedPoints doc with
      | none => (true, s.clear)
      | some items =>
        let cleared := s.clear
        match loadEntries library items [] with
        -- the entries stay, but neither index is rebuilt
        | (false, entries) =>
          (false, { cleared with catalog := { cleared.catalog with entries := entries } })
        | (true, entries) =>
          (true, { cleared with
            catalog := { cleared.catalog with
              entries := entries
              indexSlots := rebuildIndex entries }
            browse := rebuildBrowseIndex entries })

def persistedDefinitions (c : PointCatalog) : List PointDefinition :=
  c.definitions.filter fun d => !isTransientSlotVariable d.id

def catalogDocument (c : PointCatalog) : Value :=
  .object [(ascii "points",
    .array ((persistedDefinitions c).map fun d => .array (serializePersistedDefinition d)))]

/-- The text in the buffer; `none` where the source returns false. -/
def PointCatalog.saveToJson (library : Library) (c : PointCatalog) (outSize : Nat) :
    Option Text :=
  if outSize = 0 then none
  else
    let json := library.serialize (catalogDocument c)
    if json.length = 0 ∨ outSize ≤ json.length then none else some json

/-! What a failed `loadFromJson` leaves of the catalog. -/

theorem cleared_generation_ne (c : PointCatalog) : c.cleared.defsGeneration ≠ c.defsGeneration := by
  change c.defsGeneration + 1 ≠ c.defsGeneration
  intro heq
  have hnat := congrArg UInt32.toNat heq
  rw [UInt32.toNat_add] at hnat
  have hlt := c.defsGeneration.toNat_lt
  have hone : (1 : UInt32).toNat = 1 := rfl
  omega

theorem loadFromJson_generation {library : Library} {s : BrowsedCatalog} {json : Option Text}
    (h : json.bind library.deserialize ≠ none) :
    (s.loadFromJson library json).2.catalog.defsGeneration = s.catalog.cleared.defsGeneration := by
  cases json with
  | none => exact absurd rfl h
  | some json =>
    cases json with
    | nil => rfl
    | cons b json =>
      cases hdoc : library.deserialize (b :: json) with
      | none => exact absurd hdoc h
      | some doc =>
        simp only [BrowsedCatalog.loadFromJson, hdoc]
        cases storedPoints doc with
        | none => rfl
        | some items =>
          dsimp only
          split <;> rfl

/-- A load that fails leaves the catalog as it was exactly if the text is no JSON document. -/
theorem failedLoad_unchanged_iff (library : Library) (s : BrowsedCatalog) (json : Option Text)
    (h : (s.loadFromJson library json).1 = false) :
    (s.loadFromJson library json).2 = s ↔ json.bind library.deserialize = none := by
  constructor
  · intro hsame
    apply Classical.byContradiction
    intro hdoc
    have hgeneration := loadFromJson_generation (s := s) hdoc
    rw [hsame] at hgeneration
    exact cleared_generation_ne s.catalog hgeneration.symm
  · intro hnone
    cases json with
    | none => cases h
    | some json =>
      cases json with
      | nil => cases h
      | cons b json =>
        have hnone : library.deserialize (b :: json) = none := hnone
        simp [BrowsedCatalog.loadFromJson, hnone]

def emptyEntryLibrary : Library where
  deserialize json := if json = ascii "[[]]" then some (.array [.array []]) else none
  serialize _ := ascii "[[]]"
  ofInteger _ := 0

def onePoint : PointDefinition :=
  ⟨⟨ascii "io", ascii "di", ascii "x"⟩, [], .Local, .Input, .Bool, 1000, 3000, 0, 0x3F800000, [],
    0, localRefBytes⟩

def onePointCatalog : BrowsedCatalog := (BrowsedCatalog.empty.upsert onePoint).2

theorem brokenText_unchanged : (onePointCatalog.loadFromJson emptyEntryLibrary
    (some (ascii "[["))).2 = onePointCatalog :=
  (failedLoad_unchanged_iff emptyEntryLibrary onePointCatalog (some (ascii "[[")) (by decide)).mpr
    (by decide)

/-- The list is a document, but its entry is refused after the catalog has been cleared. -/
theorem emptyEntry_clears :
    let load := onePointCatalog.loadFromJson emptyEntryLibrary (some (ascii "[[]]"))
    load.1 = false ∧ load.2.catalog.entries = [] ∧ onePointCatalog.catalog.entries ≠ [] ∧
      load.2 ≠ onePointCatalog := by
  intro load
  have hfailed : load.1 = false := by decide
  have hempty : load.2.catalog.entries = [] := by decide
  have hone : onePointCatalog.catalog.entries ≠ [] := by decide
  exact ⟨hfailed, hempty, hone, fun hsame => hone (hsame ▸ hempty)⟩

end NodeNet.Catalog

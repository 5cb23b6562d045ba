import NodeNet.CatalogEdits

/-! The catalog with its browse index: the devices, and the features of each. -/
namespace NodeNet.Catalog
open NodeNet.Points

structure BrowseDeviceMeta where
  catalogIndex : UInt16
  featureStart : UInt16
  featureCount : UInt16
  encodedFeaturesSize : UInt16
  deriving DecidableEq

structure BrowseIndex where
  devices : List BrowseDeviceMeta
  featureIndices : List UInt16
  deriving DecidableEq

def BrowseIndex.empty : BrowseIndex := ⟨[], []⟩

structure BrowsedCatalog where
  catalog : PointCatalog
  browse : BrowseIndex
  batchUpdateDepth : Nat
  batchBrowseRebuildPending : Bool

def BrowsedCatalog.empty : BrowsedCatalog := ⟨.empty, .empty, 0, false⟩

/-- The length of a text as a JSON string, its quotes and escapes included. -/
def jsonStringValueSizeLocal (value : Text) : Nat :=
  value.foldl (fun size c =>
    if [0x22, 0x5C, 0x08, 0x0C, 0x0A, 0x0D, 0x09].contains c then size + 2
    else if c < 0x20 then size + 6
    else size + 1) 2

def identityAt (entries : List Entry) (index : UInt16) : Option PointIdentity :=
  entries[index.toNat]?.map (·.definition.id)

def browseFeatureName (entries : List Entry) (b : BrowseIndex) (m : BrowseDeviceMeta)
    (offset : Nat) : Option Text :=
  if m.featureCount.toNat ≤ offset then none
  else
    match b.featureIndices[m.featureStart.toNat + offset]? with
    | none => none
    | some index => (identityAt entries index).map (·.feature)

/-- The device of an entry, as the last one if it is new. -/
def withBrowseDevice (entries : List Entry) (b : BrowseIndex) (id : PointIdentity) (index : Nat) :
    BrowseIndex × Nat :=
  match b.devices.findIdx? fun m =>
      (identityAt entries m.catalogIndex).map (·.deviceId) = some id.deviceId with
  | some device => (b, device)
  | none =>
    ({ b with devices := b.devices ++
        [⟨UInt16.ofNat index, UInt16.ofNat b.featureIndices.length, 0, 0⟩] }, b.devices.length)

def addBrowseEntry (entries : List Entry) (b : BrowseIndex) (p : Entry × Nat) : BrowseIndex :=
  let id := p.1.definition.id
  let (b, device) := withBrowseDevice entries b id p.2
  match b.devices[device]? with
  | none => b
  | some m =>
    let featureExists := (List.range m.featureCount.toNat).any fun offset =>
      browseFeatureName entries b m offset = some id.feature
    if featureExists || kMaxPoints ≤ b.featureIndices.length then b
    else
      { devices := b.devices.set device
          { m with
            encodedFeaturesSize := m.encodedFeaturesSize + UInt16.ofNat
              ((if m.featureCount = 0 then 0 else 1) + jsonStringValueSizeLocal id.feature)
            featureCount := m.featureCount + 1 }
        featureIndices := b.featureIndices ++ [UInt16.ofNat p.2] }

def rebuildBrowseIndex (entries : List Entry) : BrowseIndex :=
  entries.zipIdx.foldl (addBrowseEntry entries) .empty

/-- What every change of the entries ends with; in a batch the rebuild waits. -/
def BrowsedCatalog.reindexed (s : BrowsedCatalog) (c : PointCatalog) : BrowsedCatalog :=
  if s.batchUpdateDepth ≠ 0 then
    { s with
      catalog := c
      batchBrowseRebuildPending := true }
  else
    { s with
      catalog := c
      browse := rebuildBrowseIndex c.entries }

def BrowsedCatalog.clear (s : BrowsedCatalog) : BrowsedCatalog :=
  { s with
    catalog := s.catalog.cleared
    browse := .empty }

/-- The result of the call comes first. -/
def BrowsedCatalog.upsert (s : BrowsedCatalog) (definition : PointDefinition) :
    Bool × BrowsedCatalog :=
  match s.catalog.upsert definition with
  | none => (false, s)
  | some c => (true, s.reindexed c)

def BrowsedCatalog.remove (s : BrowsedCatalog) (id : PointIdentity) : Bool × BrowsedCatalog :=
  match s.catalog.remove id with
  | none => (false, s)
  | some c => (true, s.reindexed c)

def BrowsedCatalog.replaceSlotVariableDefinitions (s : BrowsedCatalog) (slotId : UInt16)
    (definitions : List PointDefinition) : Bool × BrowsedCatalog :=
  match s.catalog.replaceSlotVariableDefinitions slotId definitions with
  | none => (false, s)
  | some (c, changed) => (true, if changed then s.reindexed c else s)

def BrowsedCatalog.beginBatchUpdate (s : BrowsedCatalog) : BrowsedCatalog :=
  { s with batchUpdateDepth := s.batchUpdateDepth + 1 }

def BrowsedCatalog.endBatchUpdate (s : BrowsedCatalog) : BrowsedCatalog :=
  if s.batchUpdateDepth = 0 then s
  else
    let s := { s with batchUpdateDepth := s.batchUpdateDepth - 1 }
    if s.batchUpdateDepth = 0 && s.batchBrowseRebuildPending then
      { s with
        batchBrowseRebuildPending := false
        browse := rebuildBrowseIndex s.catalog.entries }
    else s

@[simp] theorem reindexed_catalog (s : BrowsedCatalog) (c : PointCatalog) :
    (s.reindexed c).catalog = c := by
  unfold BrowsedCatalog.reindexed
  split <;> rfl

@[simp] theorem endBatchUpdate_catalog (s : BrowsedCatalog) :
    s.endBatchUpdate.catalog = s.catalog := by
  unfold BrowsedCatalog.endBatchUpdate
  split
  · rfl
  · dsimp only
    split <;> rfl

end NodeNet.Catalog

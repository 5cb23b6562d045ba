import NodeNet.Catalog

/-! Typed point values, and how the catalog's states are updated. -/
namespace NodeNet.Catalog
open NodeNet.Points

/-- The bits of the value union that the type uses; none for strings and unnamed types. -/
def valueMask : PointValueType → UInt32
  | .Bool => 0xFF
  | .Uint16 | .Int16 => 0xFFFF
  | .Uint32 | .Int32 | .Float | .Enum => 0xFFFFFFFF
  | .String | .unnamed _ _ => 0

def typedValue (type : PointValueType) (value : UInt32) : UInt32 := value &&& valueMask type

/-- The union after its typed member is assigned. -/
def assignValue (type : PointValueType) (old value : UInt32) : UInt32 :=
  (old &&& ~~~(valueMask type)) ||| typedValue type value

def pointStatePayloadEqual (type : PointValueType) (lhs rhs : PointState) : Bool :=
  lhs.quality = rhs.quality &&
    match type with
    | .Float => floatEqual lhs.value rhs.value
    | .String =>
      (lhs.stringValue.take 64).takeWhile (· ≠ 0) = (rhs.stringValue.take 64).takeWhile (· ≠ 0)
    | .unnamed _ _ => false
    | _ => typedValue type lhs.value = typedValue type rhs.value

def PointCatalog.setState (c : PointCatalog) (index : Nat) (state : PointState) : PointCatalog :=
  { c with entries := c.entries.modify index fun e => { e with state := state } }

/-- `none` where the source returns false. -/
def PointCatalog.updateState (c : PointCatalog) (id : PointIdentity) (state : PointState) :
    Option PointCatalog :=
  match c.lookupIndex id with
  | none => none
  | some index =>
    match c.entries[index]? with
    | none => none
    | some e =>
      if pointStatePayloadEqual e.definition.valueType e.state state then
        some (c.setState index state)
      else some ((c.setState index state).markStateDirty index)

def PointCatalog.updateCommandState (c : PointCatalog) (id : PointIdentity)
    (command : PointCommandState) : Option PointCatalog :=
  match c.lookupIndex id with
  | none => none
  | some index =>
    some { c with entries := c.entries.modify index fun e => { e with command := command } }

theorem definitions_modify (entries : List Entry) (index : Nat) {f : Entry → Entry}
    (hf : ∀ e, (f e).definition = e.definition) :
    (entries.modify index f).map (·.definition) = entries.map (·.definition) := by
  induction entries generalizing index with
  | nil => cases index <;> rfl
  | cons e entries ih =>
    cases index with
    | zero => simp [hf]
    | succ index => simp [ih]

@[simp] theorem setState_definitions (c : PointCatalog) (index : Nat) (state : PointState) :
    (c.setState index state).definitions = c.definitions :=
  definitions_modify c.entries index fun _ => rfl

@[simp] theorem markStateDirty_definitions (c : PointCatalog) (index : Nat) :
    (c.markStateDirty index).definitions = c.definitions := by
  unfold PointCatalog.markStateDirty
  dsimp only
  repeat' split
  all_goals rfl

theorem updateState_definitions {c c' : PointCatalog} {id : PointIdentity} {state : PointState}
    (h : c.updateState id state = some c') : c'.definitions = c.definitions := by
  unfold PointCatalog.updateState at h
  split at h
  · cases h
  · split at h
    · cases h
    · split at h
      · cases h
        exact setState_definitions ..
      · cases h
        rw [markStateDirty_definitions, setState_definitions]

theorem updateCommandState_definitions {c c' : PointCatalog} {id : PointIdentity}
    {command : PointCommandState} (h : c.updateCommandState id command = some c') :
    c'.definitions = c.definitions := by
  unfold PointCatalog.updateCommandState at h
  split at h
  · cases h
  · cases h
    exact definitions_modify c.entries _ fun _ => rfl

@[simp] theorem updateState_getD_definitions (c : PointCatalog) (id : PointIdentity)
    (state : PointState) : ((c.updateState id state).getD c).definitions = c.definitions := by
  cases h : c.updateState id state with
  | none => rfl
  | some c' => exact updateState_definitions h

@[simp] theorem updateCommandState_getD_definitions (c : PointCatalog) (id : PointIdentity)
    (command : PointCommandState) :
    ((c.updateCommandState id command).getD c).definitions = c.definitions := by
  cases h : c.updateCommandState id command with
  | none => rfl
  | some c' => exact updateCommandState_definitions h

end NodeNet.Catalog

import NodeNet.Catalog
import NodeNet.Lib.LittleEndian

/-! The poll plan: the Modbus points of the catalog, sorted and packed into batches. -/
namespace NodeNet.Plc
open NodeNet.Bytes NodeNet.Points NodeNet.Catalog

inductive ModbusTable where
  | Coils | DiscreteInputs | HoldingRegisters | InputRegisters
  | unnamed (raw : UInt8) (h : raw = 0 ∨ 4 < raw)
  deriving DecidableEq

inductive ModbusAccess where
  | Read | Write | ReadWrite
  | unnamed (raw : UInt8) (h : raw = 0 ∨ 3 < raw)
  deriving DecidableEq

def ModbusTable.toByte : ModbusTable → UInt8
  | Coils => 1
  | DiscreteInputs => 2
  | HoldingRegisters => 3
  | InputRegisters => 4
  | unnamed raw _ => raw

def ModbusTable.ofByte (b : UInt8) : ModbusTable :=
  if h : b = 0 ∨ 4 < b then unnamed b h
  else if b = 1 then Coils
  else if b = 2 then DiscreteInputs
  else if b = 3 then HoldingRegisters
  else InputRegisters

def ModbusAccess.ofByte (b : UInt8) : ModbusAccess :=
  if h : b = 0 ∨ 3 < b then unnamed b h
  else if b = 1 then Read
  else if b = 2 then Write
  else ReadWrite

/-- Where a point lies; all of a Modbus reference but its access. -/
structure ModbusRegisters where
  portIndex : UInt8
  slaveAddress : UInt8
  address : UInt16
  registerCount : UInt8
  table : ModbusTable
  deriving DecidableEq

structure ModbusPointRef extends ModbusRegisters where
  access : ModbusAccess
  deriving DecidableEq

/-- The Modbus member of a definition's backend reference. -/
def modbusRef (d : PointDefinition) : ModbusPointRef where
  portIndex := d.ref.getD 0 0
  slaveAddress := d.ref.getD 1 0
  address := (d.ref.getD 2 0).toUInt16 ||| ((d.ref.getD 3 0).toUInt16 <<< 8)
  registerCount := d.ref.getD 4 0
  table := .ofByte (d.ref.getD 5 0)
  access := .ofByte (d.ref.getD 6 0)

def modbusTableIsBitwise (table : ModbusTable) : Bool := table = .Coils || table = .DiscreteInputs

def ModbusPointRef.writable (r : ModbusPointRef) : Bool :=
  r.access = .Write || r.access = .ReadWrite

/-- A Modbus point with its catalog index. -/
structure PollPoint where
  index : Nat
  ref : ModbusRegisters
  deriving DecidableEq

def modbusPointSpan (r : ModbusRegisters) : UInt16 :=
  if modbusTableIsBitwise r.table then 1 else r.registerCount.toUInt16

def isPolled (d : PointDefinition) : Bool :=
  d.backend = .Modbus && !((modbusRef d).table = .Coils && (modbusRef d).writable)

/-- The points that the plan is made of, in catalog order. -/
def polledPoints (definitions : List PointDefinition) : List PollPoint :=
  (definitions.zipIdx.filter fun p => isPolled p.1).map fun p =>
    ⟨p.2, (modbusRef p.1).toModbusRegisters⟩

def modbusPollSortBefore (lhs rhs : PollPoint) : Bool :=
  if lhs.ref.portIndex ≠ rhs.ref.portIndex then lhs.ref.portIndex < rhs.ref.portIndex
  else if lhs.ref.slaveAddress ≠ rhs.ref.slaveAddress then
    lhs.ref.slaveAddress < rhs.ref.slaveAddress
  else if lhs.ref.table ≠ rhs.ref.table then lhs.ref.table.toByte < rhs.ref.table.toByte
  else if lhs.ref.address ≠ rhs.ref.address then lhs.ref.address < rhs.ref.address
  else lhs.index < rhs.index

def insertPoint (p : PollPoint) : List PollPoint → List PollPoint
  | [] => [p]
  | q :: rest => if modbusPollSortBefore p q then q :: insertPoint p rest else p :: q :: rest

def sortedPoints (points : List PollPoint) : List PollPoint :=
  (points.foldl (fun sorted p => insertPoint p sorted) []).reverse

structure ModbusPollBatchMember where
  catalogIndex : Nat
  addressOffset : UInt16
  deriving DecidableEq

structure ModbusPollBatch where
  portIndex : UInt8
  slaveAddress : UInt8
  table : ModbusTable
  startAddress : UInt16
  quantity : UInt16
  memberStart : Nat
  memberCount : Nat
  deriving DecidableEq

def kMaxModbusBatchRegisters : Nat := 125

def kMaxModbusBatchBits : Nat := 256

def kMaxModbusPollBatches : Nat := kMaxPoints

def kMaxModbusBatchMembers : Nat := kMaxPoints

structure PollPlan where
  batches : List ModbusPollBatch
  members : List ModbusPollBatchMember
  deriving DecidableEq

def PollPlan.empty : PollPlan := ⟨[], []⟩

/-- The registers that the batch has when the point is merged. -/
def mergedQuantity (b : ModbusPollBatch) (r : ModbusRegisters) : Nat :=
  let pointEnd := r.address.toNat + (modbusPointSpan r).toNat - 1
  let batchEnd := b.startAddress.toNat + b.quantity.toNat - 1
  max pointEnd batchEnd - b.startAddress.toNat + 1

def batchLimit (table : ModbusTable) : Nat :=
  if modbusTableIsBitwise table then kMaxModbusBatchBits else kMaxModbusBatchRegisters

def appendsToBatch (maxGap : UInt16) (b : ModbusPollBatch) (r : ModbusRegisters) : Bool :=
  b.portIndex = r.portIndex && b.slaveAddress = r.slaveAddress && b.table = r.table &&
    r.address.toNat ≤ b.startAddress.toNat + b.quantity.toNat - 1 + 1 + maxGap.toNat &&
    mergedQuantity b r ≤ batchLimit r.table

/-- The last batch takes the point as its next member. -/
def addMember (b : ModbusPollBatch) (older : List ModbusPollBatch)
    (members : List ModbusPollBatchMember) (p : PollPoint) : PollPlan where
  batches := { b with memberCount := b.memberCount + 1 } :: older
  members := members ++ [⟨p.index, p.ref.address - b.startAddress⟩]

def newBatch (memberStart : Nat) (r : ModbusRegisters) : ModbusPollBatch where
  portIndex := r.portIndex
  slaveAddress := r.slaveAddress
  table := r.table
  startAddress := r.address
  quantity := modbusPointSpan r
  memberStart := memberStart
  memberCount := 0

/-- One more point; `none` when the tables are full. The batches are held the last first. -/
def addPoint (maxGap : UInt16) (plan : PollPlan) (p : PollPoint) : Option PollPlan :=
  let opened : Option PollPlan :=
    if kMaxModbusPollBatches ≤ plan.batches.length ∨ kMaxModbusBatchMembers ≤ plan.members.length then
      none
    else some (addMember (newBatch plan.members.length p.ref) plan.batches plan.members p)
  match plan.batches with
  | [] => opened
  | b :: older =>
    if appendsToBatch maxGap b p.ref then
      some (addMember { b with quantity := UInt16.ofNat (mergedQuantity b p.ref) } older
        plan.members p)
    else opened

def addPoints (maxGap : UInt16) (plan : PollPlan) : List PollPoint → PollPlan
  | [] => plan
  | p :: rest =>
    if modbusPointSpan p.ref = 0 then addPoints maxGap plan rest
    else
      match addPoint maxGap plan p with
      | none => plan
      | some plan => addPoints maxGap plan rest

/-- The plan of these points; a point without registers is left out. -/
def planOf (maxGap : UInt16) (points : List PollPoint) : PollPlan :=
  let plan := addPoints maxGap .empty (sortedPoints points)
  { plan with batches := plan.batches.reverse }

def rebuildPollPlan (maxGap : UInt16) (definitions : List PointDefinition) : PollPlan :=
  planOf maxGap (polledPoints definitions)

def planHashBytesOf (d : PointDefinition) : List UInt8 :=
  if d.backend ≠ .Modbus then []
  else
    let r := modbusRef d
    [r.portIndex, r.slaveAddress] ++ le16 r.address ++ [r.registerCount, r.table.toByte] ++
      le32 d.refreshMs ++ [d.valueType.toByte]

def planHashBytes (maxGap : UInt16) (definitions : List PointDefinition) : List UInt8 :=
  definitions.flatMap planHashBytesOf ++ le16 maxGap

def computeModbusPlanHash (maxGap : UInt16) (definitions : List PointDefinition) : UInt32 :=
  Fnv.hash (planHashBytes maxGap definitions)

end NodeNet.Plc

import NodeNet.Plc.PollPlan
import NodeNet.PointUpdates

/-! The PLC service: writes of commanded values, and the poll of one batch at a time. -/
namespace NodeNet.Plc
open NodeNet.Points NodeNet.Catalog

def pointQualityGood : UInt8 := 1

def pointQualityBadConfigError : UInt8 := 7

def pointQualityBadWriteRejected : UInt8 := 9

def commandQualityAcked : UInt8 := 2

def commandQualityProtocolError : UInt8 := 6

inductive TransactionStatus where
  | Idle | Busy | Success | WatchdogTimeout | Error
  deriving DecidableEq

/-- What the Modbus master and the clock answer in one iteration; `values` is what the finished
read returned and `error` the quality that its last error stands for. -/
structure LoopIn where
  nowMs : UInt32
  writeOk : Bool
  startOk : Bool
  status : TransactionStatus
  values : Option (List UInt16)
  error : UInt8

/-- A batch is active while its transaction is in flight. -/
structure PlcCore where
  /-- The Modbus master is there. -/
  modbus0 : Bool
  plan : PollPlan
  nextBatchIndex : Nat
  planHash : UInt32
  maxGap : UInt16
  activeBatch : Option ModbusPollBatch
  nextOutputApplyIndex : Nat
  deriving DecidableEq

structure PlcState where
  catalog : PointCatalog
  core : PlcCore

def PlcCore.start (modbus0 : Bool) : PlcCore := ⟨modbus0, .empty, 0, 0, 6, none, 0⟩

def PlcCore.setModbusBatchMaxGap (core : PlcCore) (maxGap : UInt16) : PlcCore :=
  { core with maxGap := maxGap, planHash := 0 }

def isOutput (d : PointDefinition) : Bool := d.direction = .Output || d.direction = .InOut

def isWrittenType : PointValueType → Bool
  | .String | .unnamed _ _ => false
  | _ => true

def isAcked (type : PointValueType) (state : PointState) (command : PointCommandState) : Bool :=
  command.commandQuality = commandQualityAcked &&
    typedValue type command.lastCommandedValue = typedValue type state.value

def needsApply (type : PointValueType) (state : PointState) (command : PointCommandState) : Bool :=
  isWrittenType type && !isAcked type state command

def scanTakes (d : PointDefinition) (state : PointState) (command : PointCommandState) : Bool :=
  isOutput d && state.quality = pointQualityGood &&
    !(state.lastUpdateMs = 0 && state.lastGoodUpdateMs = 0) && needsApply d.valueType state command

/-- The next index of the scan, and the point that it takes. -/
def scanOutputs (c : PointCatalog) : Nat → Nat → Nat × Option Nat
  | 0, index => (index, none)
  | attempts + 1, index =>
    let next := (index + 1) % c.size
    match c.entries[index]? with
    | none => scanOutputs c attempts next
    | some e =>
      if scanTakes e.definition e.state e.command then (next, some index)
      else scanOutputs c attempts next

inductive WriteTarget where
  | unsupported | localPoint | modbus
  deriving DecidableEq

/-- The registers that a value of the type is written to. -/
def takesValue (type : PointValueType) (r : ModbusRegisters) : Bool :=
  match type with
  | .Bool => r.table = .Coils
  | .Uint16 | .Int16 | .Enum => r.table = .HoldingRegisters && r.registerCount = 1
  | .Uint32 | .Int32 | .Float => r.table = .HoldingRegisters && r.registerCount = 2
  | _ => false

def writesModbus (d : PointDefinition) : Bool :=
  d.backend = .Modbus && (modbusRef d).portIndex = 0 &&
    takesValue d.valueType (modbusRef d).toModbusRegisters && (modbusRef d).writable

def writeTarget (modbus0 : Bool) (d : PointDefinition) : WriteTarget :=
  if modbus0 && writesModbus d then .modbus
  else if isWrittenType d.valueType && d.backend = .Local then .localPoint
  else .unsupported

/-- Only a coil is not written when its value is found applied. -/
def alreadyApplied (d : PointDefinition) (state : PointState) (command : PointCommandState) :
    Bool :=
  d.valueType = .Bool && isAcked .Bool state command && state.quality = pointQualityGood

def begunState (state : PointState) (nowMs : UInt32) : PointState :=
  { state with lastUpdateMs := nowMs }

/-- The live value becomes the commanded one. -/
def recordValue (type : PointValueType) (live : PointState) (command : PointCommandState) :
    PointCommandState :=
  { command with
    lastCommandedValue := assignValue type command.lastCommandedValue live.value }

def copyValue (type : PointValueType) (live next : PointState) : PointState :=
  { next with value := assignValue type next.value live.value }

def finishState (ok : Bool) (nowMs : UInt32) (next : PointState) : PointState :=
  if ok then { next with quality := pointQualityGood, lastGoodUpdateMs := nowMs }
  else { next with quality := pointQualityBadWriteRejected }

def finishCommand (ok : Bool) (nowMs : UInt32) (command : PointCommandState) : PointCommandState :=
  let command := { command with lastCommandTsMs := nowMs, pending := false }
  if ok then { command with commandQuality := commandQualityAcked, lastAckTsMs := nowMs }
  else { command with commandQuality := commandQualityProtocolError }

def writeOk (target : WriteTarget) (already busOk : Bool) : Bool :=
  match target with
  | .unsupported => false
  | .localPoint => true
  | .modbus => already || busOk

def applyWritablePointState (modbus0 : Bool) (c : PointCatalog) (index : Nat) (i : LoopIn) :
    PointCatalog × Bool :=
  match c.entries[index]? with
  | none => (c, false)
  | some e =>
    let d := e.definition
    let target := writeTarget modbus0 d
    if !isTransientSlotVariable d.id && !isOutput d || target = .unsupported then (c, false)
    else
      let ok := writeOk target (alreadyApplied d e.state e.command) i.writeOk
      let next := finishState ok i.nowMs
        (copyValue d.valueType e.state (begunState e.state i.nowMs))
      let command := finishCommand ok i.nowMs (recordValue d.valueType e.state e.command)
      let updated := c.updateState d.id next
      let c := updated.getD c
      let commanded := c.updateCommandState d.id command
      (commanded.getD c, ok && updated.isSome && commanded.isSome)

def applyNextWritablePointState (p : PlcState) (i : LoopIn) : PlcState × Bool :=
  let (next, taken) := scanOutputs p.catalog p.catalog.size p.core.nextOutputApplyIndex
  let core := { p.core with nextOutputApplyIndex := next }
  match taken with
  | none => (⟨p.catalog, core⟩, false)
  | some index =>
    let (c, ok) := applyWritablePointState core.modbus0 p.catalog index i
    (⟨c, core⟩, ok)

def rebuildPollPlanIfNeeded (p : PlcState) : PlcState :=
  let nextHash := computeModbusPlanHash p.core.maxGap p.catalog.definitions
  if nextHash = p.core.planHash then p
  else
    { p with
      core := { p.core with
        plan := rebuildPollPlan p.core.maxGap p.catalog.definitions
        nextBatchIndex := 0
        planHash := nextHash } }

def PollPlan.membersOf (plan : PollPlan) (b : ModbusPollBatch) : List ModbusPollBatchMember :=
  (plan.members.drop b.memberStart).take b.memberCount

/-- How long the most overdue member has waited; `none` when no member is due. -/
def batchPollUrgency (c : PointCatalog) (nowMs : UInt32) (urgency : Option UInt32) :
    List ModbusPollBatchMember → Option UInt32
  | [] => urgency
  | m :: rest =>
    match c.entries[m.catalogIndex]? with
    | none => batchPollUrgency c nowMs urgency rest
    | some e =>
      let refreshMs := e.definition.refreshMs
      let elapsedMs := nowMs - e.state.lastUpdateMs
      if refreshMs = 0 then some 0xFFFFFFFF
      else if elapsedMs < refreshMs then batchPollUrgency c nowMs urgency rest
      else
        let overdueMs := elapsedMs - refreshMs
        batchPollUrgency c nowMs (some (max overdueMs (urgency.getD 0))) rest

/-- The first batch of the greatest urgency, going round from `next`, and where to go on. -/
def selectBatch (p : PlcState) (nowMs : UInt32) : Nat → Nat → Option (Nat × UInt32) →
    Nat × Option (Nat × UInt32)
  | 0, next, selected => (next, selected)
  | attempts + 1, next, selected =>
    let following := (next + 1) % p.core.plan.batches.length
    let urgency := (p.core.plan.batches[next]?).bind fun b =>
      batchPollUrgency p.catalog nowMs none (p.core.plan.membersOf b)
    match urgency with
    | none => selectBatch p nowMs attempts following selected
    | some urgency =>
      let better := match selected with
        | none => true
        | some (_, most) => most < urgency
      selectBatch p nowMs attempts following (if better then some (next, urgency) else selected)

def startBatchPoll (modbus0 : Bool) (b : ModbusPollBatch) (startOk : Bool) : Bool :=
  modbus0 && b.portIndex = 0 && startOk &&
    match b.table with
    | .unnamed _ _ => false
    | _ => true

def finishBatch (core : PlcCore) : PlcCore := { core with activeBatch := none }

/-- The member is still the point that the batch was built for. -/
def memberMatches (b : ModbusPollBatch) (m : ModbusPollBatchMember) (d : PointDefinition) : Bool :=
  let r := modbusRef d
  d.backend = .Modbus && r.portIndex = b.portIndex && r.slaveAddress = b.slaveAddress &&
    r.table = b.table && b.startAddress ≤ r.address && r.address - b.startAddress = m.addressOffset

/-- Update the states of the batch's members that still match. -/
def updateMembers (b : ModbusPollBatch)
    (result : ModbusPollBatchMember → PointDefinition → PointState → PointState) :
    List ModbusPollBatchMember → PointCatalog → PointCatalog
  | [], c => c
  | m :: rest, c =>
    match c.entries[m.catalogIndex]? with
    | none => updateMembers b result rest c
    | some e =>
      if memberMatches b m e.definition then
        updateMembers b result rest
          ((c.updateState e.definition.id (result m e.definition e.state)).getD c)
      else updateMembers b result rest c

def failActiveBatch (p : PlcState) (nowMs : UInt32) (error : UInt8) : PointCatalog :=
  match p.core.activeBatch with
  | none => p.catalog
  | some b =>
    updateMembers b (fun _ _ state => { state with quality := error, lastUpdateMs := nowMs })
      (p.core.plan.membersOf b) p.catalog

section
-- the float arithmetic that scales what registers hold to a value of the type
variable (scaled : PointDefinition → UInt32 → UInt32)

/-- The registers that the type is decoded from; `none` for too few. -/
def registerBits (d : PointDefinition) (regs : List UInt16) : Option UInt32 :=
  match regs with
  | [] => none
  | r :: rest =>
    let wide := (rest.head?).map fun low => (r.toUInt32 <<< 16) ||| low.toUInt32
    match d.valueType with
    | .Bool | .Uint16 | .Int16 | .Enum => some r.toUInt32
    | .Uint32 | .Int32 => if (modbusRef d).registerCount < 2 then none else wide
    | .Float => if (modbusRef d).registerCount < 2 then some r.toUInt32 else wide
    | _ => none

def signExtend16 (v : UInt32) : UInt32 := if v &&& 0x8000 = 0 then v else v ||| 0xFFFF0000

def registerValue (d : PointDefinition) (bits : UInt32) : UInt32 :=
  match d.valueType with
  | .Bool => if bits ≠ 0 then 1 else 0
  | .Enum => signExtend16 bits
  | _ => scaled d bits

def decodeState (d : PointDefinition) (value : Option UInt32) (state : PointState) :
    PointState × Bool :=
  match value with
  | none => ({ state with quality := pointQualityBadConfigError }, false)
  | some value =>
    ({ state with
        value := assignValue d.valueType state.value value
        quality := pointQualityGood }, true)

/-- A bit is stored in the union's Boolean, whatever the type. -/
def decodeBitState (bit : UInt16) (state : PointState) : PointState × Bool :=
  ({ state with
      value := assignValue .Bool state.value (if bit ≠ 0 then 1 else 0)
      quality := pointQualityGood }, true)

def decodeMember (b : ModbusPollBatch) (values : List UInt16) (m : ModbusPollBatchMember)
    (d : PointDefinition) (state : PointState) : PointState × Bool :=
  let regs := (values.take b.quantity.toNat).drop m.addressOffset.toNat
  if modbusTableIsBitwise b.table then
    match regs with
    | [] => ({ state with quality := pointQualityBadConfigError }, false)
    | bit :: _ => decodeBitState bit state
  else decodeState d ((registerBits d regs).map (registerValue scaled d)) state

def memberResult (b : ModbusPollBatch) (i : LoopIn) (m : ModbusPollBatchMember)
    (d : PointDefinition) (state : PointState) : PointState :=
  match i.values with
  | none => { state with quality := i.error, lastUpdateMs := i.nowMs }
  | some values =>
    let (next, ok) := decodeMember scaled b values m d state
    { next with
      lastUpdateMs := i.nowMs
      lastGoodUpdateMs := if ok then i.nowMs else next.lastGoodUpdateMs }

def completeActiveBatch (p : PlcState) (i : LoopIn) : PointCatalog :=
  match p.core.activeBatch with
  | none => p.catalog
  | some b =>
    if p.core.modbus0 then
      updateMembers b (memberResult scaled b i) (p.core.plan.membersOf b) p.catalog
    else p.catalog

def pollNextPoint (p : PlcState) (i : LoopIn) : PlcState :=
  if p.core.plan.batches = [] then p
  else if p.core.activeBatch.isSome then
    match if p.core.modbus0 then i.status else .Error with
    | .Busy => p
    | .Success => ⟨completeActiveBatch scaled p i, finishBatch p.core⟩
    | .WatchdogTimeout | .Error => ⟨failActiveBatch p i.nowMs i.error, finishBatch p.core⟩
    | .Idle => ⟨p.catalog, finishBatch p.core⟩
  else
    let (next, selected) :=
      selectBatch p i.nowMs p.core.plan.batches.length p.core.nextBatchIndex none
    match selected.bind fun s => (p.core.plan.batches[s.1]?).map fun b => (s.1, b) with
    | none => { p with core := { p.core with nextBatchIndex := next } }
    | some (index, b) =>
      let core := { p.core with nextBatchIndex := (index + 1) % p.core.plan.batches.length }
      if startBatchPoll core.modbus0 b i.startOk then
        { p with core := { core with activeBatch := some b } }
      else ⟨failActiveBatch { p with core := core } i.nowMs i.error, core⟩

/-- One iteration; a point that was written takes the whole of it. -/
def PlcState.loop (p : PlcState) (i : LoopIn) : PlcState :=
  if p.core.activeBatch = none then
    let (p, applied) := applyNextWritablePointState (rebuildPollPlanIfNeeded p) i
    if applied then p else pollNextPoint scaled p i
  else pollNextPoint scaled p i

end

end NodeNet.Plc

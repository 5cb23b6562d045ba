import NodeNet.Lib.Machine
import NodeNet.Plc.Service

/-! The writes of one Modbus point in the steps between which a store can land. -/
namespace NodeNet.Plc
open NodeNet.Points NodeNet.Catalog NodeNet.Machine

def pointQualityBadProtocolError : UInt8 := 6

/-- A point whose stored values the service writes to the bus. -/
structure WritablePoint where
  definition : PointDefinition
  writes : writesModbus definition = true
  output : isOutput definition = true

/-- The registers, or the raw coil, that a write transmits. -/
def wireWords (type : PointValueType) (value : UInt32) : List UInt16 :=
  let value := typedValue type value
  match type with
  | .Bool => [if value ≠ 0 then 0xFF00 else 0]
  | .Uint32 | .Int32 | .Float => [(value >>> 16).toUInt16, value.toUInt16]
  | _ => [value.toUInt16]

/-- What a write of the service holds in its own variables. -/
structure Write where
  nowMs : UInt32
  next : PointState
  command : PointCommandState
  already : Bool
  value : UInt32
  ok : Bool
  deriving DecidableEq

inductive WriteStage where
  | begun | checked | sent | recorded | filled | updated
  deriving DecidableEq

/-- A write asked for from outside, with the copy of the state that it began with. -/
structure ExternalWrite where
  value : UInt32
  next : PointState
  ok : Bool
  nowMs : UInt32
  deriving DecidableEq

inductive ExternalStage where
  | begun | sent | updated
  deriving DecidableEq

inductive Phase where
  | idle
  | selected (nowMs : UInt32)
  | writing (stage : WriteStage) (w : Write)
  | external (stage : ExternalStage) (x : ExternalWrite)
  | polled (next : PointState)
  deriving DecidableEq

/-- The point's states in the shared memory, what the processor is at, and what a log of the
stores and the bus would say. -/
structure WriteRace where
  live : PointState
  command : PointCommandState
  phase : Phase
  /-- What the last successful write transmitted. -/
  lastWrite : Option (List UInt16)
  /-- The last value stored since the write in flight read the one that it transmits. -/
  flight : Option UInt32
  /-- The stored value that the point has; `none` when a poll has put another there. -/
  stored : Option UInt32
  deriving DecidableEq

inductive RaceEvent where
  /-- The VM stores a value. -/
  | store (value nowMs : UInt32)
  /-- The scan comes to the point. -/
  | scan (nowMs : UInt32)
  | external (value : UInt32)
  /-- A poll of the point's batch ends. -/
  | poll (b : ModbusPollBatch) (i : LoopIn) (m : ModbusPollBatchMember)
  /-- The processor does its next step; a transaction that it waits for ends so. -/
  | advance (busOk : Bool) (nowMs : UInt32)

def WriteRace.start : WriteRace := ⟨.zero, .zero, .idle, none, none, none⟩

def storedState (live : PointState) (value nowMs : UInt32) : PointState :=
  { live with
    value := value
    quality := pointQualityGood
    lastUpdateMs := nowMs
    lastGoodUpdateMs := nowMs }

def externalState (x : ExternalWrite) : PointState :=
  if x.ok then
    { x.next with
      value := assignValue .Bool x.next.value x.value
      quality := pointQualityGood
      lastUpdateMs := x.nowMs
      lastGoodUpdateMs := x.nowMs }
  else { x.next with quality := pointQualityBadProtocolError, lastUpdateMs := x.nowMs }

def externalCommand (x : ExternalWrite) : PointCommandState :=
  { PointCommandState.zero with
    lastCommandedValue := assignValue .Bool 0 x.value
    commandQuality := if x.ok then commandQualityAcked else commandQualityProtocolError
    lastCommandTsMs := x.nowMs
    lastAckTsMs := if x.ok then x.nowMs else 0 }

/-- Only coils are written from outside. -/
def takesExternal (d : PointDefinition) : Bool :=
  d.valueType = .Bool && (modbusRef d).table = .Coils

/-- The values that the bus has taken, after a write that ended so. -/
def wireAfter (type : PointValueType) (transmitted : Bool) (value : UInt32)
    (last : Option (List UInt16)) : Option (List UInt16) :=
  if transmitted then some (wireWords type value) else last

section
variable (scaled : PointDefinition → UInt32 → UInt32) (d : PointDefinition)

def advanceWrite (busOk : Bool) (s : WriteRace) (w : Write) : WriteStage → WriteRace
  | .begun =>
    { s with
      phase := .writing .checked
        { w with already := alreadyApplied d s.live w.command, value := s.live.value }
      flight := none }
  | .checked =>
    if w.already then { s with phase := .writing .sent { w with ok := true } }
    else
      { s with
        phase := .writing .sent { w with value := s.live.value, ok := busOk }
        flight := none }
  | .sent =>
    { s with
      phase := .writing .recorded { w with command := recordValue d.valueType s.live w.command } }
  | .recorded =>
    { s with phase := .writing .filled { w with next := copyValue d.valueType s.live w.next } }
  | .filled =>
    { s with live := finishState w.ok w.nowMs w.next, phase := .writing .updated w }
  | .updated =>
    { s with
      command := finishCommand w.ok w.nowMs w.command
      phase := .idle
      lastWrite := wireAfter d.valueType (w.ok && !w.already) w.value s.lastWrite
      flight := none }

def advanceExternal (busOk : Bool) (nowMs : UInt32) (s : WriteRace) (x : ExternalWrite) :
    ExternalStage → WriteRace
  | .begun => { s with phase := .external .sent { x with ok := busOk, nowMs := nowMs } }
  | .sent =>
    { s with
      live := externalState x
      phase := .external .updated x
      stored := if x.ok then some x.value else s.stored }
  | .updated =>
    { s with
      command := externalCommand x
      phase := .idle
      lastWrite := wireAfter d.valueType x.ok x.value s.lastWrite
      flight := none }

def advance (busOk : Bool) (nowMs : UInt32) (s : WriteRace) : WriteRace :=
  match s.phase with
  | .idle => s
  | .selected nowMs =>
    { s with
      phase := .writing .begun ⟨nowMs, begunState s.live nowMs, s.command, false, 0, false⟩ }
  | .writing stage w => advanceWrite d busOk s w stage
  | .external stage x => advanceExternal d busOk nowMs s x stage
  | .polled next =>
    { s with
      live := next
      phase := .idle
      flight := none
      stored := s.stored.filter fun v => typedValue d.valueType v = typedValue d.valueType next.value }

/-- One step of the VM or of the processor, which starts nothing new in the middle of a write. -/
def WriteRace.next (s : WriteRace) : RaceEvent → WriteRace
  | .store value nowMs =>
    { s with live := storedState s.live value nowMs, flight := some value, stored := some value }
  | .scan nowMs =>
    if s.phase = .idle && scanTakes d s.live s.command then { s with phase := .selected nowMs }
    else s
  | .external value =>
    if s.phase = .idle && takesExternal d then
      { s with phase := .external .begun ⟨value, s.live, false, 0⟩, flight := none }
    else s
  | .poll b i m =>
    if s.phase = .idle && isPolled d && memberMatches b m d then
      { s with phase := .polled (memberResult scaled b i m d s.live) }
    else s
  | .advance busOk nowMs => advance d busOk nowMs s

end

/-- The write from the selected point on, with nothing between its steps. -/
def writeAlone (d : PointDefinition) (busOk : Bool) (s : WriteRace) : WriteRace :=
  (List.range 7).foldl (fun s _ => advance d busOk 0 s) s

theorem writeAlone_eq {d : PointDefinition} {busOk : Bool} {s : WriteRace} {nowMs : UInt32}
    (h : s.phase = .selected nowMs) :
    let ok := alreadyApplied d s.live s.command || busOk
    (writeAlone d busOk s).live =
        finishState ok nowMs (copyValue d.valueType s.live (begunState s.live nowMs)) ∧
      (writeAlone d busOk s).command =
        finishCommand ok nowMs (recordValue d.valueType s.live s.command) := by
  obtain ⟨live, command, phase, lastWrite, flight, stored⟩ := s
  obtain rfl : phase = .selected nowMs := h
  by_cases halready : alreadyApplied d live command = true <;>
    simp [writeAlone, List.range_succ, advance, advanceWrite, halready]

theorem applyWritablePointState_steps (p : WritablePoint) {c : PointCatalog} {index : Nat}
    {e : Entry} (i : LoopIn) (he : c.entries[index]? = some e) (hd : e.definition = p.definition) :
    let s : WriteRace := { WriteRace.start with
      live := e.state, command := e.command, phase := .selected i.nowMs }
    let after := writeAlone p.definition i.writeOk s
    let updated := (c.updateState p.definition.id after.live).getD c
    (applyWritablePointState true c index i).1 =
      (updated.updateCommandState p.definition.id after.command).getD updated := by
  intro s after updated
  obtain ⟨hlive, hcommand⟩ := @writeAlone_eq p.definition i.writeOk s i.nowMs rfl
  have htarget : writeTarget true p.definition = .modbus := by simp [writeTarget, p.writes]
  simp only [updated, after]
  rw [applyWritablePointState, he, hlive, hcommand]
  simp [hd, htarget, p.output, writeOk, s]

/-! What holds between the steps of a write while the stores keep clear of its gaps. -/

theorem typedValue_assignValue (type : PointValueType) (old value : UInt32) :
    typedValue type (assignValue type old value) = typedValue type value := by
  unfold typedValue assignValue typedValue
  generalize valueMask type = mask
  apply UInt32.toBitVec_inj.mp
  apply BitVec.eq_of_getLsbD_eq
  intro i _
  simp only [UInt32.toBitVec_and, UInt32.toBitVec_or, UInt32.toBitVec_not, BitVec.getLsbD_and,
    BitVec.getLsbD_or, BitVec.getLsbD_not]
  cases mask.toBitVec.getLsbD i <;> simp

theorem wireWords_congr {type : PointValueType} {a b : UInt32}
    (h : typedValue type a = typedValue type b) : wireWords type a = wireWords type b := by
  simp only [wireWords, h]

/-- A commanded value that is acknowledged is the one last transmitted. -/
def AckedTransmitted (d : PointDefinition) (s : WriteRace) : Prop :=
  s.command.commandQuality = commandQualityAcked →
    s.lastWrite = some (wireWords d.valueType s.command.lastCommandedValue)

/-- The value that the write transmits which ends with the next step of the processor. -/
def endingWrite (s : WriteRace) : Option UInt32 :=
  match s.phase with
  | .writing .updated w => some w.value
  | .external .updated x => some x.value
  | _ => none

section
variable (scaled : PointDefinition → UInt32 → UInt32) (d : PointDefinition)

/-- The point has the value and the scan will take it. -/
def Pending (s : WriteRace) (value : UInt32) : Prop :=
  typedValue d.valueType s.live.value = typedValue d.valueType value ∧
    scanTakes d s.live s.command = true

/-- When a write ends, the last value stored meanwhile is the transmitted one or pending. -/
def FlightKept (s : WriteRace) (event : RaceEvent) : Prop :=
  match event with
  | .advance _ _ => ∀ sent ∈ endingWrite s, ∀ value ∈ s.flight,
      typedValue d.valueType value = typedValue d.valueType sent ∨
        Pending d (s.next scaled d event) value
  | _ => True

/-- A poll leaves a stored value that has not been transmitted. -/
def PollKeeps (s : WriteRace) (event : RaceEvent) : Prop :=
  match event, s.phase with
  | .advance _ _, .polled _ => ∀ value ∈ s.stored,
      s.lastWrite ≠ some (wireWords d.valueType value) →
        typedValue d.valueType (s.next scaled d event).live.value = typedValue d.valueType value
  | _, _ => True

/-- Nothing is stored between the transmission of a value and its record, nor between the copy of
the value and the update; nor at all before the update that tells of a rejected write. -/
def WriteClear (s : WriteRace) (w : Write) : WriteStage → Prop
  | .sent => w.ok = true → typedValue d.valueType s.live.value = typedValue d.valueType w.value
  | .filled => typedValue d.valueType s.live.value = typedValue d.valueType w.next.value ∧
      (w.ok = false → ∀ value ∈ s.flight,
        typedValue d.valueType value = typedValue d.valueType w.value)
  | _ => True

/-- An external write updates the state that it copied when it began. -/
def ExternalClear (s : WriteRace) (x : ExternalWrite) : ExternalStage → Prop
  | .sent => ∀ value ∈ s.flight,
      x.ok = true ∧ typedValue d.valueType value = typedValue d.valueType x.value
  | _ => True

/-- A poll finds the stored value applied, or reads the same. -/
def PollClear (s : WriteRace) (next : PointState) : Prop :=
  s.stored.isSome = true → needsApply d.valueType s.live s.command = true →
    typedValue d.valueType next.value = typedValue d.valueType s.live.value

def PhaseClear (s : WriteRace) : Phase → Prop
  | .writing stage w => WriteClear d s w stage
  | .external stage x => ExternalClear d s x stage
  | .polled next => PollClear d s next
  | _ => True

/-- The stores keep clear of the processor's steps, and the clocks do not read zero, which stands
for no time. -/
def StoresClear (s : WriteRace) : RaceEvent → Prop
  | .store _ nowMs => nowMs ≠ 0
  | .scan nowMs => nowMs ≠ 0
  | .advance _ _ => PhaseClear d s s.phase
  | _ => True

/-- What is stored after the update of the write in flight has all that the scan looks for. -/
def Settled (s : WriteRace) (sent : UInt32) : Prop :=
  ∀ value ∈ s.flight, typedValue d.valueType value = typedValue d.valueType sent ∨
    s.live.quality = pointQualityGood ∧
      ¬(s.live.lastUpdateMs = 0 ∧ s.live.lastGoodUpdateMs = 0)

/-- What a write found applied was transmitted before. -/
def AlreadyHolds (w : Write) : Prop :=
  w.already = true → w.command.commandQuality = commandQualityAcked ∧
    typedValue d.valueType w.command.lastCommandedValue = typedValue d.valueType w.value

def Recorded (s : WriteRace) (w : Write) : Prop :=
  (w.ok = true → typedValue d.valueType w.command.lastCommandedValue =
    typedValue d.valueType w.value) ∧
    (w.already = true → s.lastWrite = some (wireWords d.valueType w.value))

def WriteKept (s : WriteRace) (w : Write) : WriteStage → Prop
  | .begun => w.command = s.command
  | .checked | .sent => w.command = s.command ∧ AlreadyHolds d w
  | .recorded | .filled => Recorded d s w
  | .updated => Recorded d s w ∧ Settled d s w.value

def PhaseKept (s : WriteRace) : Prop :=
  match s.phase with
  | .selected nowMs => nowMs ≠ 0
  | .writing stage w => w.nowMs ≠ 0 ∧ WriteKept d s w stage
  | .external .updated x => takesExternal d = true ∧ Settled d s x.value
  | .external _ x => takesExternal d = true ∧
      (s.flight = none → typedValue d.valueType s.live.value = typedValue d.valueType x.next.value)
  | _ => True

/-- What holds between the steps of a run in which stores keep clear. -/
structure RaceKept (s : WriteRace) : Prop where
  acked : AckedTransmitted d s
  flight : ∀ value ∈ s.flight, typedValue d.valueType s.live.value = typedValue d.valueType value
  stored : ∀ value ∈ s.stored, typedValue d.valueType s.live.value = typedValue d.valueType value
  phase : PhaseKept d s

variable {d}

theorem raceKept_store {s : WriteRace} (h : RaceKept d s) {value nowMs : UInt32}
    (hnow : nowMs ≠ 0) : RaceKept d (s.next scaled d (.store value nowMs)) := by
  have hsettled : ∀ sent, Settled d (s.next scaled d (.store value nowMs)) sent := by
    intro sent v _
    exact .inr ⟨rfl, fun hzero => hnow hzero.1⟩
  refine ⟨h.acked, fun v hv => ?_, fun v hv => ?_, ?_⟩
  · rw [← Option.mem_some.mp hv]
    rfl
  · rw [← Option.mem_some.mp hv]
    rfl
  · have hphase := h.phase
    obtain ⟨live, command, phase, lastWrite, flight, stored⟩ := s
    cases phase with
    | writing stage w =>
      refine ⟨hphase.1, ?_⟩
      cases stage with
      | updated => exact ⟨hphase.2.1, hsettled w.value⟩
      | _ => exact hphase.2
    | external stage x =>
      cases stage with
      | updated => exact ⟨hphase.1, hsettled x.value⟩
      | _ => exact ⟨hphase.1, fun hnone => by cases hnone⟩
    | _ => exact hphase

theorem alreadyApplied_holds {live : PointState} {w : Write}
    (h : alreadyApplied d live w.command = true) :
    w.command.commandQuality = commandQualityAcked ∧
      typedValue d.valueType w.command.lastCommandedValue = typedValue d.valueType live.value := by
  simp only [alreadyApplied, isAcked, Bool.and_eq_true, decide_eq_true_eq] at h
  rw [h.1.1]
  exact h.1.2

theorem AckedTransmitted.lastWrite_eq {s : WriteRace} (h : AckedTransmitted d s) {value : UInt32}
    (hquality : s.command.commandQuality = commandQualityAcked)
    (hvalue : typedValue d.valueType s.command.lastCommandedValue = typedValue d.valueType value) :
    s.lastWrite = some (wireWords d.valueType value) := by
  rw [h hquality, wireWords_congr hvalue]

/-- The steps of a write keep what holds while the stores keep clear of it. -/
theorem raceKept_write {s : WriteRace} (h : RaceKept d s) {stage : WriteStage} {w : Write}
    (busOk : Bool) (hphase : s.phase = .writing stage w) (hclear : WriteClear d s w stage) :
    RaceKept d (advanceWrite d busOk s w stage) := by
  have hkept := h.phase
  simp only [PhaseKept, hphase] at hkept
  obtain ⟨hnow, hkept⟩ := hkept
  cases stage with
  | begun =>
    refine ⟨h.acked, fun v hv => (by cases hv), h.stored, hnow, hkept, fun halready => ?_⟩
    exact alreadyApplied_holds halready
  | checked =>
    rw [advanceWrite]
    by_cases halready : w.already = true
    · rw [if_pos halready]
      exact ⟨h.acked, h.flight, h.stored, hnow, hkept.1, hkept.2⟩
    · rw [if_neg halready]
      refine ⟨h.acked, fun v hv => (by cases hv), h.stored, hnow, hkept.1, fun halready' => ?_⟩
      exact absurd halready' halready
  | sent =>
    refine ⟨h.acked, h.flight, h.stored, hnow, fun hok => ?_, fun halready => ?_⟩
    · change typedValue _ (assignValue _ _ _) = _
      rw [typedValue_assignValue]
      exact hclear hok
    · obtain ⟨hcommand, hholds⟩ := hkept
      obtain ⟨hquality, hvalue⟩ := hholds halready
      rw [hcommand] at hquality hvalue
      exact h.acked.lastWrite_eq hquality hvalue
  | recorded => exact ⟨h.acked, h.flight, h.stored, hnow, hkept⟩
  | filled =>
    obtain ⟨hsame, hrejected⟩ := hclear
    have hvalue : (finishState w.ok w.nowMs w.next).value = w.next.value := by
      unfold finishState
      split <;> rfl
    refine ⟨h.acked, fun v hv => ?_, fun v hv => ?_, hnow, hkept, fun v hv => ?_⟩
    · change typedValue _ (finishState w.ok w.nowMs w.next).value = _
      rw [hvalue, ← hsame]
      exact h.flight v hv
    · change typedValue _ (finishState w.ok w.nowMs w.next).value = _
      rw [hvalue, ← hsame]
      exact h.stored v hv
    · cases hok : w.ok with
      | false => exact .inl (hrejected hok v hv)
      | true =>
        refine .inr ?_
        change (finishState w.ok w.nowMs w.next).quality = _ ∧ ¬(_ ∧
          (finishState w.ok w.nowMs w.next).lastGoodUpdateMs = 0)
        rw [hok]
        exact ⟨rfl, fun hzero => hnow hzero.2⟩
  | updated =>
    obtain ⟨⟨hrecorded, halready⟩, -⟩ := hkept
    refine ⟨fun hquality => ?_, fun v hv => (by cases hv), h.stored, trivial⟩
    change (finishCommand w.ok w.nowMs w.command).commandQuality = _ at hquality
    change wireAfter _ (w.ok && !w.already) _ _ =
      some (wireWords _ (finishCommand w.ok w.nowMs w.command).lastCommandedValue)
    cases hok : w.ok with
    | false =>
      rw [hok] at hquality
      cases hquality
    | true =>
      have hlast : (finishCommand true w.nowMs w.command).lastCommandedValue =
        w.command.lastCommandedValue := rfl
      rw [hlast, wireWords_congr (hrecorded hok)]
      cases hfound : w.already with
      | false => rfl
      | true => exact halready hfound

theorem raceKept_external {s : WriteRace} (h : RaceKept d s) {stage : ExternalStage}
    {x : ExternalWrite} (busOk : Bool) (nowMs : UInt32) (hphase : s.phase = .external stage x)
    (hclear : ExternalClear d s x stage) :
    RaceKept d (advanceExternal d busOk nowMs s x stage) := by
  have hkept := h.phase
  have htype (htakes : takesExternal d = true) : d.valueType = .Bool := by
    simp only [takesExternal, Bool.and_eq_true, decide_eq_true_eq] at htakes
    exact htakes.1
  cases stage with
  | begun =>
    simp only [PhaseKept, hphase] at hkept
    exact ⟨h.acked, h.flight, h.stored, hkept⟩
  | sent =>
    simp only [PhaseKept, hphase] at hkept
    obtain ⟨htakes, hcopied⟩ := hkept
    have hvalue : typedValue d.valueType (externalState x).value =
        if x.ok then typedValue d.valueType x.value else typedValue d.valueType x.next.value := by
      unfold externalState
      cases x.ok with
      | false => rfl
      | true =>
        rw [htype htakes]
        exact typedValue_assignValue ..
    have hflight : ∀ v ∈ s.flight, typedValue d.valueType (externalState x).value =
        typedValue d.valueType v := by
      intro v hv
      obtain ⟨hok, hsame⟩ := hclear v hv
      rw [hvalue, hok, hsame]
      rfl
    refine ⟨h.acked, hflight, fun v hv => ?_, htakes, fun v hv => .inl (hclear v hv).2⟩
    change v ∈ (if x.ok then some x.value else s.stored) at hv
    change typedValue _ (externalState x).value = _
    rw [hvalue]
    cases hok : x.ok with
    | true =>
      rw [hok] at hv
      rw [← Option.mem_some.mp hv]
      rfl
    | false =>
      rw [hok] at hv
      have hnone : s.flight = none := by
        cases hf : s.flight with
        | none => rfl
        | some u =>
          have hfalse := (hclear u hf).1
          rw [hok] at hfalse
          cases hfalse
      exact (hcopied hnone).symm.trans (h.stored v hv)
  | updated =>
    simp only [PhaseKept, hphase] at hkept
    refine ⟨fun hquality => ?_, fun v hv => (by cases hv), h.stored, trivial⟩
    change (if x.ok then commandQualityAcked else commandQualityProtocolError) = _ at hquality
    change wireAfter _ x.ok _ _ = some (wireWords _ (assignValue .Bool 0 x.value))
    cases hok : x.ok with
    | false =>
      rw [hok] at hquality
      cases hquality
    | true =>
      have hvalue := typedValue_assignValue .Bool 0 x.value
      rw [htype hkept.1]
      exact congrArg some (wireWords_congr hvalue.symm)

theorem raceKept_step {s : WriteRace} {event : RaceEvent} (h : RaceKept d s)
    (hclear : StoresClear d s event) : RaceKept d (s.next scaled d event) := by
  cases event with
  | store value nowMs => exact raceKept_store scaled h hclear
  | scan nowMs =>
    rw [WriteRace.next]
    split
    · exact ⟨h.acked, h.flight, h.stored, hclear⟩
    · exact h
  | external value =>
    rw [WriteRace.next]
    split
    case isTrue hstarts =>
      simp only [Bool.and_eq_true, decide_eq_true_eq] at hstarts
      exact ⟨h.acked, fun v hv => (by cases hv), h.stored, hstarts.2, fun _ => rfl⟩
    case isFalse => exact h
  | poll b i m =>
    rw [WriteRace.next]
    split
    · exact ⟨h.acked, h.flight, h.stored, trivial⟩
    · exact h
  | advance busOk nowMs =>
    rw [WriteRace.next, advance]
    have hphase := h.phase
    cases hat : s.phase with
    | idle => exact h
    | selected nowMs =>
      simp only [PhaseKept, hat] at hphase
      exact ⟨h.acked, h.flight, h.stored, hphase, rfl⟩
    | writing stage w =>
      simp only [StoresClear, hat, PhaseClear] at hclear
      exact raceKept_write h busOk hat hclear
    | external stage x =>
      simp only [StoresClear, hat, PhaseClear] at hclear
      exact raceKept_external h busOk nowMs hat hclear
    | polled next =>
      refine ⟨h.acked, fun v hv => (by cases hv), fun v hv => ?_, trivial⟩
      obtain ⟨-, hsame⟩ := Option.filter_eq_some_iff.mp hv
      simpa using (decide_eq_true_eq.mp hsame).symm

end

/-! No value that is stored to a writable point is lost while the stores keep clear. -/

section
variable (scaled : PointDefinition → UInt32 → UInt32) (p : WritablePoint)

theorem WritablePoint.isWrittenType : isWrittenType p.definition.valueType = true := by
  have hwrites := p.writes
  simp only [writesModbus, Bool.and_eq_true] at hwrites
  have htakes := hwrites.1.2
  cases htype : p.definition.valueType with
  | String | unnamed raw hraw => simp [takesValue, htype] at htakes
  | _ => rfl

theorem WritablePoint.needsApply_iff {state : PointState} {command : PointCommandState} :
    needsApply p.definition.valueType state command = true ↔
      isAcked p.definition.valueType state command = false := by
  simp [needsApply, p.isWrittenType]

theorem flightKept_of_settled {s s' : WriteRace} (h : RaceKept p.definition s) {sent : UInt32}
    (hsettled : Settled p.definition s sent) (hlive : s'.live = s.live)
    (hacked : s'.command.commandQuality = commandQualityAcked →
      typedValue p.definition.valueType s'.command.lastCommandedValue =
        typedValue p.definition.valueType sent) :
    ∀ value ∈ s.flight,
      typedValue p.definition.valueType value = typedValue p.definition.valueType sent ∨
        Pending p.definition s' value := by
  intro value hvalue
  have hflight := h.flight value hvalue
  by_cases hsame : typedValue p.definition.valueType value = typedValue p.definition.valueType sent
  · exact .inl hsame
  · obtain heq | ⟨hquality, htimes⟩ := hsettled value hvalue
    · exact .inl heq
    · refine .inr ⟨by rw [hlive]; exact hflight, ?_⟩
      have hneeds : needsApply p.definition.valueType s'.live s'.command = true := by
        rw [p.needsApply_iff, Bool.eq_false_iff]
        intro hfound
        simp only [isAcked, Bool.and_eq_true, decide_eq_true_eq] at hfound
        rw [hacked hfound.1, hlive, hflight] at hfound
        exact hsame hfound.2.symm
      rw [hlive] at hneeds ⊢
      simp only [scanTakes, p.output, hquality, hneeds]
      simpa using Decidable.not_and_iff_not_or_not.mp htimes

theorem flightKept_step {s : WriteRace} {event : RaceEvent} (h : RaceKept p.definition s) :
    FlightKept scaled p.definition s event := by
  cases event with
  | advance busOk nowMs =>
    intro sent hsent
    have hphase := h.phase
    cases hat : s.phase with
    | writing stage w =>
      cases stage with
      | updated =>
        simp only [PhaseKept, hat] at hphase
        simp only [endingWrite, hat] at hsent
        obtain rfl := Option.mem_some.mp hsent
        refine flightKept_of_settled p h hphase.2.2 ?_ ?_
        · simp [WriteRace.next, advance, hat, advanceWrite]
        · intro hquality
          simp only [WriteRace.next, advance, hat, advanceWrite] at hquality ⊢
          cases hok : w.ok with
          | false =>
            rw [hok] at hquality
            cases hquality
          | true => exact hphase.2.1.1 hok
      | _ => simp [endingWrite, hat] at hsent
    | external stage x =>
      cases stage with
      | updated =>
        simp only [PhaseKept, hat] at hphase
        simp only [endingWrite, hat] at hsent
        obtain rfl := Option.mem_some.mp hsent
        refine flightKept_of_settled p h hphase.2 ?_ ?_
        · simp [WriteRace.next, advance, hat, advanceExternal]
        · intro _
          have htype := hphase.1
          simp only [takesExternal, Bool.and_eq_true, decide_eq_true_eq] at htype
          simp only [WriteRace.next, advance, hat, advanceExternal, htype.1]
          exact typedValue_assignValue ..
      | _ => simp [endingWrite, hat] at hsent
    | _ => simp [endingWrite, hat] at hsent
  | _ => trivial

theorem pollKeeps_step {s : WriteRace} {event : RaceEvent} (h : RaceKept p.definition s)
    (hclear : StoresClear p.definition s event) : PollKeeps scaled p.definition s event := by
  cases event with
  | advance busOk nowMs =>
    cases hat : s.phase with
    | polled next =>
      simp only [StoresClear, hat, PhaseClear] at hclear
      simp only [PollKeeps, hat]
      intro value hvalue huntransmitted
      have hstored := h.stored value hvalue
      have hneeds : needsApply p.definition.valueType s.live s.command = true := by
        rw [p.needsApply_iff, Bool.eq_false_iff]
        intro hfound
        simp only [isAcked, Bool.and_eq_true, decide_eq_true_eq] at hfound
        exact huntransmitted (h.acked.lastWrite_eq hfound.1 (hfound.2.trans hstored))
      have hsome : s.stored.isSome = true := Option.isSome_iff_exists.mpr ⟨value, hvalue⟩
      simp only [WriteRace.next, advance, hat]
      exact (hclear hsome hneeds).trans hstored
    | _ => simp only [PollKeeps, hat]
  | _ => trivial

/-- An acknowledged value is the one last transmitted, a value stored during a write is
transmitted or pending when the write ends, and a poll overwrites no value that has not been
transmitted. -/
theorem commands_kept (events : List RaceEvent)
    (hclear : Along (WriteRace.next scaled p.definition) (StoresClear p.definition) .start events) :
    Along (WriteRace.next scaled p.definition)
      (fun s event => AckedTransmitted p.definition (s.next scaled p.definition event) ∧
        FlightKept scaled p.definition s event ∧ PollKeeps scaled p.definition s event)
      .start events := by
  have hstart : RaceKept p.definition .start :=
    ⟨fun hquality => (by cases hquality), fun v hv => (by cases hv), fun v hv => (by cases hv),
      trivial⟩
  refine along_of_inv (RaceKept p.definition) (fun s event h hgood => raceKept_step scaled h hgood)
    (fun s event h hgood => ⟨?_, flightKept_step scaled p h, pollKeeps_step scaled p h hgood⟩)
    hstart hclear
  exact (raceKept_step scaled h hgood).acked

end

instance WriteClear.decidable (d : PointDefinition) (s : WriteRace) (w : Write) :
    ∀ stage, Decidable (WriteClear d s w stage)
  | .sent => inferInstanceAs (Decidable (_ → _))
  | .filled => inferInstanceAs (Decidable (_ ∧ _))
  | .begun | .checked | .recorded | .updated => .isTrue trivial

instance ExternalClear.decidable (d : PointDefinition) (s : WriteRace) (x : ExternalWrite) :
    ∀ stage, Decidable (ExternalClear d s x stage)
  | .sent => inferInstanceAs (Decidable (∀ _ ∈ s.flight, _))
  | .begun | .updated => .isTrue trivial

instance PollClear.decidable (d : PointDefinition) (s : WriteRace) (next : PointState) :
    Decidable (PollClear d s next) :=
  inferInstanceAs (Decidable (_ → _ → _))

instance PhaseClear.decidable (d : PointDefinition) (s : WriteRace) :
    ∀ phase, Decidable (PhaseClear d s phase)
  | .writing stage w => inferInstanceAs (Decidable (WriteClear d s w stage))
  | .external stage x => inferInstanceAs (Decidable (ExternalClear d s x stage))
  | .polled next => inferInstanceAs (Decidable (PollClear d s next))
  | .idle | .selected _ => .isTrue trivial

instance StoresClear.decidable (d : PointDefinition) (s : WriteRace) :
    ∀ event, Decidable (StoresClear d s event)
  | .store _ nowMs => inferInstanceAs (Decidable (nowMs ≠ 0))
  | .scan nowMs => inferInstanceAs (Decidable (nowMs ≠ 0))
  | .advance _ _ => inferInstanceAs (Decidable (PhaseClear d s s.phase))
  | .external _ | .poll _ _ _ => .isTrue trivial

def sampleCoil : PointDefinition where
  id := ⟨ascii "node", ascii "io", ascii "relay"⟩
  displayName := []
  backend := .Modbus
  direction := .Output
  valueType := .Bool
  refreshMs := 0
  timeoutMs := 0
  stringCapacity := 0
  scale := 0
  unit := []
  enumDef := 0
  ref := [0, 1, 5, 0, 1, 1, 3]

def sampleWritable : WritablePoint := ⟨sampleCoil, by decide, by decide⟩

def processorSteps (n : Nat) : List RaceEvent := List.replicate n (.advance true 20)

/-- The VM switches the relay on, and off again after so many steps of the write. -/
def switchedDuring (steps : Nat) : List RaceEvent :=
  [.store 1 10, .scan 20] ++ processorSteps steps ++ .store 0 30 :: processorSteps (7 - steps)

/-- Switched off after the record of the transmitted value, the relay is pending. -/
theorem switchedAfterRecord_kept :
    Along (WriteRace.next (fun _ bits => bits) sampleCoil)
      (fun s event => AckedTransmitted sampleCoil (s.next (fun _ bits => bits) sampleCoil event) ∧
        FlightKept (fun _ bits => bits) sampleCoil s event ∧
        PollKeeps (fun _ bits => bits) sampleCoil s event)
      .start (switchedDuring 4) :=
  commands_kept (fun _ bits => bits) sampleWritable (switchedDuring 4) (by decide +kernel)

/-- Switched off before it, the relay is acknowledged as off while the bus was told on. -/
theorem switchedBeforeRecord_lost :
    ¬∀ (scaled : PointDefinition → UInt32 → UInt32) (p : WritablePoint) (events : List RaceEvent),
      Along (WriteRace.next scaled p.definition)
        (fun s event => AckedTransmitted p.definition (s.next scaled p.definition event) ∧
          FlightKept scaled p.definition s event ∧ PollKeeps scaled p.definition s event)
        .start events := by
  intro h
  have hrun := h (fun _ bits => bits) sampleWritable (switchedDuring 3)
  have hlast : switchedDuring 3 = (switchedDuring 3).take 9 ++ [.advance true 20] := rfl
  rw [hlast] at hrun
  exact absurd (hrun.at_run.1 (by decide +kernel)) (by decide +kernel)

end NodeNet.Plc

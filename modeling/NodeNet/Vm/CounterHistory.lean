import NodeNet.Vm.EntryHistory
import NodeNet.Vm.EntryProgress
import NodeNet.Vm.IntegerOps

/-! The counter instructions on the words of their entry. -/
namespace NodeNet.Vm
open NodeNet.Bitmap NodeNet.Machine

def counterFamily : EntryFamily where
  prepStart := .counterPrepStart
  readWord0 := .counterReadWord0
  readWord1 := .counterReadWord1
  readFlags := .counterReadFlags
  writeWord0 := .counterWriteWord0
  writeWord1 := .counterWriteWord1
  writeFlags := .counterWriteFlags
  reads := fun opcode => opcodeIsCounterDone opcode || opcodeIsCounterValue opcode
  latch := fun _ s flags => { s.data with valueWord2 := flags }
  reading := fun _ s _ =>
    let value := s.data.valueWord0.toUInt16
    if opcodeIsCounterDone s.currentOpcode then
      some ⟨boolWord (counterDoneLive s.currentOpcode value s.data.valueWord1.toUInt16), .bool⟩
    else if opcodeIsCounterValue s.currentOpcode then some ⟨signExtendI16 value, .int16⟩
    else none
  word0 := fun _ s => counterWord0 s
  word1 := counterWord1
  flags := counterFlags

theorem counterFamily_executes : counterFamily.Executes where
  nodup := by decide
  executes := by decide
  prepStart := fun h => by simp [execute, h, counterFamily]
  readWord0 := fun h => by simp [execute, h, counterFamily]
  readWord1 := fun h => by simp [execute, h, counterFamily]
  readFlags := by
    intro i s h
    have haction : counterReadFlags s = counterFamily.afterFlags i.msCounter s := by
      funext flags
      simp only [counterReadFlags, EntryFamily.afterFlags, counterFamily]
      by_cases hdone : opcodeIsCounterDone s.currentOpcode = true
      · simp [hdone]
      · by_cases hvalue : opcodeIsCounterValue s.currentOpcode = true <;> simp [hdone, hvalue]
    have hstate : s.state = .counterReadFlags := h
    rw [← haction]
    simp only [execute, hstate]
  writeWord0 := fun h => by simp [execute, h, counterFamily]
  writeWord1 := fun h => by simp [execute, h, counterFamily]
  writeFlags := fun h => by simp [execute, h, counterFamily]
  latch_congr := fun h _ _ => by simp [counterFamily, h.data]
  reading_congr := fun h _ _ => by simp [counterFamily, h.data, h.opcode]
  word0_congr := fun h _ => by
    simp [counterFamily, counterWord0, pending, h.data, h.opcode, h.immediate]
  word1_congr := fun h => by simp [counterFamily, counterWord1, h.data, h.opcode, h.immediate]
  flags_congr := fun h => by simp [counterFamily, counterFlags, pending, h.data, h.opcode]
  latch_base := fun _ _ _ => rfl
  latch_stack := fun _ _ _ => rfl

theorem le_toInt16 {v : UInt16} (h : v.toNat < 32768) (n : Int16) :
    (n ≤ v.toInt16) ↔ n.toInt ≤ v.toNat := by
  rw [Int16.le_iff_toInt_le, toInt16_toInt h]

theorem toInt16_le {v : UInt16} (h : v.toNat < 32768) (n : Int16) :
    (v.toInt16 ≤ n) ↔ v.toNat ≤ n.toInt := by
  rw [Int16.le_iff_toInt_le, toInt16_toInt h]

theorem counterUpNextValue_toNat {stored : UInt16} {flags : UInt32} {input : Bool} {n : Nat}
    (h : (if modeFromFlags flags = counterModeCtu then stored else 0).toNat = min 32767 n) :
    (counterUpNextValue stored flags input).toNat =
      min 32767 (n + (input && !hasFlag flags timerFlagInputHigh).toNat) := by
  rw [counterUpNextValue]
  generalize (if modeFromFlags flags = counterModeCtu then stored else 0) = value at h ⊢
  have hlt : value.toNat < 32768 := by omega
  have hle : (32767 ≤ value.toInt16) ↔ 32767 ≤ value.toNat := by
    rw [le_toInt16 hlt]
    exact Int.ofNat_le (m := 32767)
  cases input && !hasFlag flags timerFlagInputHigh with
  | false => simpa using h
  | true =>
    by_cases hmax : 32767 ≤ value.toNat
    · simp only [if_true, hle.mpr hmax, Bool.toNat_true]
      have : (0x7FFF : UInt16).toNat = 32767 := rfl
      omega
    · simp only [if_true, mt hle.mp hmax, if_false, Bool.toNat_true, UInt16.toNat_add]
      have : (1 : UInt16).toNat = 1 := rfl
      omega

theorem counterDownNextValue_toNat {stored preset : UInt16} {flags : UInt32} {input : Bool} {n : Nat}
    (hpreset : preset.toNat < 32768)
    (h : (if modeFromFlags flags = counterModeCtd then stored else preset).toNat =
      preset.toNat - n) :
    (counterDownNextValue stored preset flags input).toNat =
      preset.toNat - (n + (input && !hasFlag flags timerFlagInputHigh).toNat) := by
  rw [counterDownNextValue]
  generalize (if modeFromFlags flags = counterModeCtd then stored else preset) = value at h ⊢
  have hlt : value.toNat < 32768 := by omega
  have hle : (value.toInt16 ≤ 0) ↔ value.toNat ≤ 0 := by
    rw [toInt16_le hlt]
    exact Int.ofNat_le (n := 0)
  by_cases hzero : value.toNat ≤ 0
  · simp only [hle.mpr hzero, if_true]
    have : (0 : UInt16).toNat = 0 := rfl
    omega
  · simp only [mt hle.mp hzero, if_false]
    cases input && !hasFlag flags timerFlagInputHigh with
    | false => simpa using h
    | true =>
      simp only [if_true, Bool.toNat_true]
      rw [UInt16.toNat_sub_of_le]
      · have : (1 : UInt16).toNat = 1 := rfl
        omega
      · rw [UInt16.le_iff_toNat_le]
        have : (1 : UInt16).toNat = 1 := rfl
        omega

theorem counterPackFlags_mode (b : Bool) :
    modeFromFlags (counterPackFlags counterModeCtu b) = counterModeCtu ∧
      modeFromFlags (counterPackFlags counterModeCtd b) = counterModeCtd := by
  cases b <;> decide

theorem counterPackFlags_inputHigh (b : Bool) :
    hasFlag (counterPackFlags counterModeCtu b) timerFlagInputHigh = b ∧
      hasFlag (counterPackFlags counterModeCtd b) timerFlagInputHigh = b := by
  cases b <;> decide

/-! What the counter instructions on one entry push, by the counts so far. -/

inductive CounterEvent where
  | count (preset : UInt16) (input : Bool)
  | reset
  deriving DecidableEq

def lastInput : List CounterEvent → Bool
  | .count _ input :: _ => input
  | _ => false

def risingEdges : List CounterEvent → Nat
  | .count _ input :: past => risingEdges past + (input && !lastInput past).toNat
  | _ => 0

def lastPreset : List CounterEvent → UInt16
  | .count preset _ :: _ => preset
  | .reset :: past => lastPreset past
  | [] => 0

/-- `CTU`, or `CTD` with its fixed preset. -/
inductive CounterKind where
  | up
  | down (preset : UInt16)

namespace CounterKind

def mode : CounterKind → UInt32
  | up => counterModeCtu
  | down _ => counterModeCtd

def value (kind : CounterKind) (events : List CounterEvent) : Nat :=
  match kind with
  | up => min 32767 (risingEdges events)
  | down preset => preset.toNat - risingEdges events

def done (kind : CounterKind) (events : List CounterEvent) : Bool :=
  match kind with
  | up => (lastPreset events).toInt16.toInt ≤ kind.value events
  | down _ => kind.value events = 0

/-- A counter that counts down does so from its own preset, which is not negative. -/
def Accepts (kind : CounterKind) (preset : UInt16) : Prop :=
  match kind with
  | up => True
  | down fixed => preset = fixed ∧ fixed.toNat < 32768

end CounterKind

def counterEvent (e : EntryEvaluation) (_ : EntryRun) : Option CounterEvent :=
  if opcodeIsCounterCount e.vm.currentOpcode then
    some (.count e.vm.currentImmediateU32.toUInt16 e.input)
  else if opcodeIsCounterReset e.vm.currentOpcode then some .reset
  else none

abbrev CounterHistory := EntryHistory CounterEvent

open EntryHistory

/-- An instruction of the counter's family on its entry. -/
structure CounterKind.Counts (kind : CounterKind) (site : Site) (p : CounterHistory)
    (e : EntryEvaluation) : Prop where
  onEntry : OnEntry counterFamily opcodeIsCounterCount site p e
  family : counterModeFromOpcode e.vm.currentOpcode = kind.mode
  preset : opcodeIsCounterCount e.vm.currentOpcode = true →
    kind.Accepts e.vm.currentImmediateU32.toUInt16

/-- The readers and the reset find the entry's address. -/
structure CounterRuns (kind : CounterKind) (site : Site) (p : CounterHistory)
    (e : EntryEvaluation) : Prop where
  counts : kind.Counts site p e
  addressed : AtEntry opcodeIsCounterCount site p e

/-- A reader pushes the value, or whether the counter is done. -/
structure CounterKind.Follows (kind : CounterKind) (p : CounterHistory) (e : EntryEvaluation) :
    Prop where
  value : opcodeIsCounterValue e.vm.currentOpcode = true →
    (e.result counterFamily p.memory).vm.data.stack =
      e.vm.data.stack.push (StackType.int16.word (kind.value p.events)) .int16
  done : opcodeIsCounterDone e.vm.currentOpcode = true →
    (e.result counterFamily p.memory).vm.data.stack =
      e.vm.data.stack.push (boolWord (kind.done p.events)) .bool

/-- The words of the entry by the events so far; before the first event the flags are clear. -/
structure CounterInv (kind : CounterKind) (site : Site) (p : CounterHistory) : Prop where
  fresh : p.events = [] → p.memory site.place2 = 0
  flags : p.events ≠ [] → p.memory site.place2 = counterPackFlags kind.mode (lastInput p.events)
  value : p.events ≠ [] → (p.memory site.place0).toUInt16.toNat = kind.value p.events
  preset : p.events ≠ [] → (p.memory site.place1).toUInt16 = lastPreset p.events ∧
    kind.Accepts (lastPreset p.events)

namespace CounterKind

def countOpcode : CounterKind → UInt8
  | up => opcodeCtuCount
  | down _ => opcodeCtdCount

def doneOpcode : CounterKind → UInt8
  | up => opcodeCtuDone
  | down _ => opcodeCtdDone

def valueOpcode : CounterKind → UInt8
  | up => opcodeCtuValue
  | down _ => opcodeCtdValue

def resetOpcode : CounterKind → UInt8
  | up => opcodeCtuReset
  | down _ => opcodeCtdReset

theorem opcode_cases {kind : CounterKind} {opcode : UInt8}
    (h : counterModeFromOpcode opcode = kind.mode) :
    opcode = kind.countOpcode ∨ opcode = kind.doneOpcode ∨ opcode = kind.valueOpcode ∨
      opcode = kind.resetOpcode := by
  cases kind with
  | up =>
    revert h
    unfold counterModeFromOpcode
    split
    all_goals intro h
    all_goals first
      | exact absurd h (by decide)
      | simp [countOpcode, doneOpcode, valueOpcode, resetOpcode]
  | down =>
    change counterModeFromOpcode opcode = counterModeCtd at h
    revert h
    unfold counterModeFromOpcode
    split
    all_goals intro h
    all_goals first
      | exact absurd h (by decide)
      | simp [countOpcode, doneOpcode, valueOpcode, resetOpcode]

theorem countOpcode_tests (kind : CounterKind) :
    opcodeIsCounterCount kind.countOpcode = true ∧ opcodeIsCounterReset kind.countOpcode = false ∧
      opcodeIsCounterDone kind.countOpcode = false ∧
      opcodeIsCounterValue kind.countOpcode = false := by
  cases kind <;> exact ⟨rfl, rfl, rfl, rfl⟩

theorem resetOpcode_tests (kind : CounterKind) :
    opcodeIsCounterCount kind.resetOpcode = false ∧ opcodeIsCounterReset kind.resetOpcode = true ∧
      opcodeIsCounterDone kind.resetOpcode = false ∧
      opcodeIsCounterValue kind.resetOpcode = false := by
  cases kind <;> exact ⟨rfl, rfl, rfl, rfl⟩

theorem doneOpcode_tests (kind : CounterKind) :
    opcodeIsCounterCount kind.doneOpcode = false ∧ opcodeIsCounterReset kind.doneOpcode = false ∧
      opcodeIsCounterDone kind.doneOpcode = true ∧
      opcodeIsCounterValue kind.doneOpcode = false := by
  cases kind <;> exact ⟨rfl, rfl, rfl, rfl⟩

theorem valueOpcode_tests (kind : CounterKind) :
    opcodeIsCounterCount kind.valueOpcode = false ∧ opcodeIsCounterReset kind.valueOpcode = false ∧
      opcodeIsCounterDone kind.valueOpcode = false ∧
      opcodeIsCounterValue kind.valueOpcode = true := by
  cases kind <;> exact ⟨rfl, rfl, rfl, rfl⟩

end CounterKind

namespace CounterKind
variable {kind : CounterKind} {s : WbPlc}

theorem value_cons (kind : CounterKind) (preset : UInt16) (input : Bool)
    (past : List CounterEvent) :
    kind.value (.count preset input :: past) =
      match kind with
      | up => min 32767 (risingEdges past + (input && !lastInput past).toNat)
      | down fixed => fixed.toNat - (risingEdges past + (input && !lastInput past).toNat) := by
  cases kind <;> rfl

theorem counterFlags_count (h : s.currentOpcode = kind.countOpcode) :
    counterFlags s = counterPackFlags kind.mode (pending s) := by
  rw [counterFlags, h]
  cases kind <;> rfl

theorem counterFlags_reset (h : s.currentOpcode = kind.resetOpcode) :
    counterFlags s = counterPackFlags kind.mode false := by
  rw [counterFlags, h]
  cases kind <;> rfl

theorem counterWord1_count (h : s.currentOpcode = kind.countOpcode) :
    (counterWord1 s).toUInt16 = s.currentImmediateU32.toUInt16 := by
  rw [counterWord1, h, if_pos kind.countOpcode_tests.1, signExtendI16_toUInt16]

theorem counterWord1_reset (h : s.currentOpcode = kind.resetOpcode) :
    counterWord1 s = s.data.valueWord1 := by
  rw [counterWord1, h, if_neg (Bool.eq_false_iff.mp kind.resetOpcode_tests.1)]

variable {events : List CounterEvent}

theorem counterWord0_count {preset : UInt16} (h : s.currentOpcode = kind.countOpcode)
    (himmediate : s.currentImmediateU32.toUInt16 = preset) (haccepts : kind.Accepts preset)
    (hlast : hasFlag s.data.valueWord2 timerFlagInputHigh = lastInput events)
    (hfresh : events = [] → s.data.valueWord2 = 0)
    (hheld : events ≠ [] → modeFromFlags s.data.valueWord2 = kind.mode ∧
      s.data.valueWord0.toUInt16.toNat = kind.value events) :
    (counterWord0 s).toUInt16.toNat = kind.value (.count preset (pending s) :: events) := by
  have hreset := Bool.eq_false_iff.mp kind.countOpcode_tests.2.1
  rw [← h] at hreset
  rw [counterWord0, if_neg hreset, value_cons, ← hlast]
  cases kind with
  | up =>
    have hopcode : s.currentOpcode = opcodeCtuCount := h
    rw [if_pos hopcode, signExtendI16_toUInt16]
    refine counterUpNextValue_toNat ?_
    by_cases hnil : events = []
    · rw [hfresh hnil, hnil]
      rfl
    · have hmode : modeFromFlags s.data.valueWord2 = counterModeCtu := (hheld hnil).1
      rw [if_pos hmode]
      exact (hheld hnil).2
  | down fixed =>
    have hopcode : s.currentOpcode ≠ opcodeCtuCount := by
      rw [h]
      exact fun heq : opcodeCtdCount = opcodeCtuCount => absurd heq (by decide)
    obtain ⟨rfl, hlt⟩ := haccepts
    rw [if_neg hopcode, signExtendI16_toUInt16, himmediate]
    refine counterDownNextValue_toNat hlt ?_
    by_cases hnil : events = []
    · rw [hfresh hnil, hnil]
      rfl
    · have hmode : modeFromFlags s.data.valueWord2 = counterModeCtd := (hheld hnil).1
      rw [if_pos hmode]
      exact (hheld hnil).2

theorem counterWord0_reset (h : s.currentOpcode = kind.resetOpcode)
    (hpreset : s.data.valueWord1.toUInt16 = lastPreset events)
    (haccepts : kind.Accepts (lastPreset events)) :
    (counterWord0 s).toUInt16.toNat = kind.value (.reset :: events) := by
  rw [counterWord0, h, if_pos kind.resetOpcode_tests.2.1, signExtendI16_toUInt16, hpreset]
  cases kind with
  | up => rfl
  | down fixed =>
    obtain ⟨heq, -⟩ := haccepts
    rw [heq]
    rfl

theorem value_lt (haccepts : kind.Accepts (lastPreset events)) : kind.value events < 32768 := by
  cases kind with
  | up => exact Nat.lt_succ_of_le (Nat.min_le_left ..)
  | down fixed => exact Nat.lt_of_le_of_lt (Nat.sub_le ..) haccepts.2

theorem counterDoneLive_eq {value : UInt16} (haccepts : kind.Accepts (lastPreset events))
    (hvalue : value.toNat = kind.value events) :
    counterDoneLive kind.doneOpcode value (lastPreset events) = kind.done events := by
  have hlt : value.toNat < 32768 := hvalue ▸ value_lt haccepts
  cases kind with
  | up =>
    have hle := le_toInt16 hlt (lastPreset events).toInt16
    rw [hvalue] at hle
    exact decide_eq_decide.mpr hle
  | down fixed =>
    have hle := (toInt16_le hlt 0).trans (Int.ofNat_le (n := 0))
    rw [hvalue, Nat.le_zero] at hle
    exact decide_eq_decide.mpr hle

end CounterKind

namespace CounterInv
variable {kind : CounterKind} {site : Site} {p : CounterHistory} {e : EntryEvaluation}

theorem inputHigh (h : CounterInv kind site p) :
    hasFlag (p.memory site.place2) timerFlagInputHigh = lastInput p.events := by
  by_cases hnil : p.events = []
  · rw [h.fresh hnil, hnil]
    rfl
  · rw [h.flags hnil]
    cases kind with
    | up => exact (counterPackFlags_inputHigh _).1
    | down => exact (counterPackFlags_inputHigh _).2

theorem modeHeld (h : CounterInv kind site p) (hevents : p.events ≠ []) :
    modeFromFlags (p.memory site.place2) = kind.mode := by
  rw [h.flags hevents]
  cases kind with
  | up => exact (counterPackFlags_mode _).1
  | down => exact (counterPackFlags_mode _).2

theorem writing_data (hr : CounterRuns kind site p e) :
    (e.writing counterFamily p.memory).data =
      { e.entered counterFamily with
        valueWord0 := p.memory site.place0
        valueWord1 := p.memory site.place1
        valueWord2 := p.memory site.place2 } := by
  rw [hr.counts.onEntry.writing_data counterFamily_executes hr.addressed]
  rfl

theorem reading_eq_none (hdone : opcodeIsCounterDone e.vm.currentOpcode = false)
    (hvalue : opcodeIsCounterValue e.vm.currentOpcode = false) (m : Words) (readTime : Nat) :
    e.reading counterFamily m readTime = none := by
  simp [EntryEvaluation.reading, EntryEvaluation.loaded, counterFamily, hdone, hvalue]

/-- A count keeps the invariant. -/
theorem evaluate_count (h : CounterInv kind site p) (hr : CounterRuns kind site p e)
    (hopcode : e.vm.currentOpcode = kind.countOpcode) :
    CounterInv kind site (evaluate counterFamily counterEvent p e) := by
  obtain ⟨hcount, hreset, hdone, hvalue⟩ := kind.countOpcode_tests
  rw [← hopcode] at hcount hreset hdone hvalue
  obtain ⟨h0, h1, h2⟩ := hr.counts.onEntry.wrote counterFamily_executes hr.addressed
    (reading_eq_none hdone hvalue ..)
  change _ = counterWord0 (e.writing counterFamily p.memory) at h0
  change _ = counterWord1 (e.writing counterFamily p.memory) at h1
  change _ = counterFlags (e.writing counterFamily p.memory) at h2
  have hevents : (evaluate counterFamily counterEvent p e).events =
      .count e.vm.currentImmediateU32.toUInt16 e.input :: p.events := by
    simp [evaluate, counterEvent, hcount]
  have hdata := writing_data hr
  have hwriting : (e.writing counterFamily p.memory).currentOpcode = kind.countOpcode := hopcode
  have hpending : pending (e.writing counterFamily p.memory) = e.input := by
    rw [pending, hdata]
    simp only [(hr.counts.onEntry.entered_of_prepares hcount).1]
    rfl
  constructor
  · intro hnil
    cases hevents.symm.trans hnil
  · intro _
    rw [hevents]
    refine h2.trans ?_
    rw [CounterKind.counterFlags_count hwriting, hpending]
    rfl
  · intro _
    rw [hevents, ← hpending]
    refine (congrArg (fun w => w.toUInt16.toNat) h0).trans ?_
    refine CounterKind.counterWord0_count hwriting rfl (hr.counts.preset hcount) ?_ ?_ ?_
    · rw [hdata]
      exact h.inputHigh
    · rw [hdata]
      exact h.fresh
    · rw [hdata]
      exact fun hnil => ⟨h.modeHeld hnil, h.value hnil⟩
  · intro _
    rw [hevents]
    refine ⟨(congrArg UInt32.toUInt16 h1).trans ?_, hr.counts.preset hcount⟩
    exact CounterKind.counterWord1_count hwriting

theorem evaluate_reset (h : CounterInv kind site p) (hr : CounterRuns kind site p e)
    (hopcode : e.vm.currentOpcode = kind.resetOpcode) :
    CounterInv kind site (evaluate counterFamily counterEvent p e) := by
  obtain ⟨hcount, hreset, hdone, hvalue⟩ := kind.resetOpcode_tests
  rw [← hopcode] at hcount hreset hdone hvalue
  obtain ⟨h0, h1, h2⟩ := hr.counts.onEntry.wrote counterFamily_executes hr.addressed
    (reading_eq_none hdone hvalue ..)
  change _ = counterWord0 (e.writing counterFamily p.memory) at h0
  change _ = counterWord1 (e.writing counterFamily p.memory) at h1
  change _ = counterFlags (e.writing counterFamily p.memory) at h2
  have hpast : p.events ≠ [] := fun hnil => by
    rw [hr.counts.onEntry.first hnil] at hcount
    cases hcount
  have hevents : (evaluate counterFamily counterEvent p e).events = .reset :: p.events := by
    simp [evaluate, counterEvent, hcount, hreset]
  have hdata := writing_data hr
  have hwriting : (e.writing counterFamily p.memory).currentOpcode = kind.resetOpcode := hopcode
  constructor
  · intro hnil
    cases hevents.symm.trans hnil
  · intro _
    rw [hevents]
    exact h2.trans (CounterKind.counterFlags_reset hwriting)
  · intro _
    rw [hevents]
    refine (congrArg (fun w => w.toUInt16.toNat) h0).trans ?_
    refine CounterKind.counterWord0_reset hwriting ?_ (h.preset hpast).2
    rw [hdata]
    exact (h.preset hpast).1
  · intro _
    rw [hevents]
    refine ⟨(congrArg UInt32.toUInt16 h1).trans ?_, (h.preset hpast).2⟩
    rw [CounterKind.counterWord1_reset hwriting, hdata]
    exact (h.preset hpast).1

theorem evaluate_reader (h : CounterInv kind site p) (hr : CounterRuns kind site p e) {o : Operand}
    (hcount : opcodeIsCounterCount e.vm.currentOpcode = false)
    (hreset : opcodeIsCounterReset e.vm.currentOpcode = false)
    (hreading : e.reading counterFamily p.memory (e.result counterFamily p.memory).readTime =
      some o) :
    CounterInv kind site (evaluate counterFamily counterEvent p e) := by
  have hmem : (evaluate counterFamily counterEvent p e).memory = p.memory :=
    (hr.counts.onEntry.pushed counterFamily_executes hreading).1
  have hevents : (evaluate counterFamily counterEvent p e).events = p.events := by
    simp [evaluate, counterEvent, hcount, hreset]
  constructor
  · rw [hevents, hmem]
    exact h.fresh
  · rw [hevents, hmem]
    exact h.flags
  · rw [hevents, hmem]
    exact h.value
  · rw [hevents, hmem]
    exact h.preset

theorem reading_done (h : CounterInv kind site p) (hr : CounterRuns kind site p e)
    (hopcode : e.vm.currentOpcode = kind.doneOpcode) (readTime : Nat) :
    e.reading counterFamily p.memory readTime = some ⟨boolWord (kind.done p.events), .bool⟩ := by
  obtain ⟨hcount, -, hdone, -⟩ := kind.doneOpcode_tests
  rw [← hopcode] at hcount hdone
  have hpast : p.events ≠ [] := fun hnil => by
    rw [hr.counts.onEntry.first hnil] at hcount
    cases hcount
  obtain ⟨hpreset, haccepts⟩ := h.preset hpast
  rw [EntryEvaluation.reading, hr.counts.onEntry.loaded counterFamily_executes hr.addressed]
  rw [hopcode] at hdone
  simp only [counterFamily, hopcode, hdone, if_true, hpreset,
    CounterKind.counterDoneLive_eq haccepts (h.value hpast)]

theorem reading_value (h : CounterInv kind site p) (hr : CounterRuns kind site p e)
    (hopcode : e.vm.currentOpcode = kind.valueOpcode) (readTime : Nat) :
    e.reading counterFamily p.memory readTime =
      some ⟨StackType.int16.word (kind.value p.events), .int16⟩ := by
  obtain ⟨hcount, -, hdone, hvalue⟩ := kind.valueOpcode_tests
  rw [← hopcode] at hcount hdone hvalue
  have hpast : p.events ≠ [] := fun hnil => by
    rw [hr.counts.onEntry.first hnil] at hcount
    cases hcount
  have hword := h.value hpast
  have hlt := CounterKind.value_lt (h.preset hpast).2
  rw [← hword] at hlt ⊢
  rw [EntryEvaluation.reading, hr.counts.onEntry.loaded counterFamily_executes hr.addressed,
    int16_word hlt]
  simp [counterFamily, hdone, hvalue]

theorem evaluate (h : CounterInv kind site p) (hr : CounterRuns kind site p e) :
    CounterInv kind site (evaluate counterFamily counterEvent p e) := by
  obtain hopcode | hopcode | hopcode | hopcode := CounterKind.opcode_cases hr.counts.family
  · exact h.evaluate_count hr hopcode
  · obtain ⟨hcount, hreset, -, -⟩ := kind.doneOpcode_tests
    rw [← hopcode] at hcount hreset
    exact h.evaluate_reader hr hcount hreset (h.reading_done hr hopcode _)
  · obtain ⟨hcount, hreset, -, -⟩ := kind.valueOpcode_tests
    rw [← hopcode] at hcount hreset
    exact h.evaluate_reader hr hcount hreset (h.reading_value hr hopcode _)
  · exact h.evaluate_reset hr hopcode

theorem between (h : CounterInv kind site p) {memory : Words}
    (hspares : Spares site p.memory memory) (prepared : UInt32) :
    CounterInv kind site ⟨memory, prepared, p.events⟩ := by
  constructor
  · exact fun hnil => hspares.word2.trans (h.fresh hnil)
  · exact fun hevents => hspares.word2.trans (h.flags hevents)
  · exact fun hevents => (congrArg (fun w => w.toUInt16.toNat) hspares.word0).trans (h.value hevents)
  · exact fun hevents => ⟨(congrArg UInt32.toUInt16 hspares.word1).trans (h.preset hevents).1,
      (h.preset hevents).2⟩

theorem follows (h : CounterInv kind site p) (hr : CounterRuns kind site p e) : kind.Follows p e := by
  have hentered : opcodeIsCounterCount e.vm.currentOpcode = false →
      (e.entered counterFamily).stack = e.vm.data.stack := fun hcount =>
    congrArg Datapath.stack (hr.counts.onEntry.entered_of_not counterFamily_executes hcount)
  obtain hopcode | hopcode | hopcode | hopcode := CounterKind.opcode_cases hr.counts.family
  · obtain ⟨-, -, hdone, hvalue⟩ := kind.countOpcode_tests
    rw [← hopcode] at hdone hvalue
    constructor <;> simp [hdone, hvalue]
  · obtain ⟨hcount, -, -, hvalue⟩ := kind.doneOpcode_tests
    rw [← hopcode] at hcount hvalue
    refine ⟨fun h => absurd (hvalue.symm.trans h) Bool.false_ne_true, fun _ => ?_⟩
    rw [(hr.counts.onEntry.pushed counterFamily_executes (h.reading_done hr hopcode _)).2,
      hentered hcount]
  · obtain ⟨hcount, -, hdone, -⟩ := kind.valueOpcode_tests
    rw [← hopcode] at hcount hdone
    refine ⟨fun _ => ?_, fun h => absurd (hdone.symm.trans h) Bool.false_ne_true⟩
    rw [(hr.counts.onEntry.pushed counterFamily_executes (h.reading_value hr hopcode _)).2,
      hentered hcount]
  · obtain ⟨-, -, hdone, hvalue⟩ := kind.resetOpcode_tests
    rw [← hopcode] at hdone hvalue
    constructor <;> simp [hdone, hvalue]

end CounterInv

/-- Along every history of one counter whose flags were clear, in which the readers and the resets
find the entry's address, the readers push the value by the rising edges since the last reset, and
whether the counter is done. -/
theorem counter_follows {kind : CounterKind} {site : Site} {memory : Words} {prepared : UInt32}
    (hfresh : memory site.place2 = 0) {acts : List EntryAct}
    (h : Along (next counterFamily counterEvent) (Each site (CounterRuns kind site))
      ⟨memory, prepared, []⟩ acts) :
    Along (next counterFamily counterEvent) (Shown kind.Follows) ⟨memory, prepared, []⟩ acts := by
  refine shown_of_each (CounterInv kind site) (fun _ _ hinv hr => hinv.evaluate hr)
    (fun _ _ prepared hinv hspares => hinv.between hspares prepared)
    (fun _ _ hinv hr => hinv.follows hr) ?_ h
  constructor
  · exact fun _ => hfresh
  · exact fun hnil => absurd rfl hnil
  · exact fun hnil => absurd rfl hnil
  · exact fun hnil => absurd rfl hnil

/-- A count up to one, and a reader of the value that finds an address in the register. -/
def promptCount (index : UInt16) (input : UInt32) : EntryEvaluation :=
  promptEntry .counterPrepStart index opcodeCtuCount 1 (.ofList [⟨input, .bool⟩]) 0

def promptValue (prepared : UInt32) : EntryEvaluation :=
  (promptEntry .counterReadWord0 0 opcodeCtuValue 0 .empty 0).addressed prepared

section
variable {p : CounterHistory}

theorem promptCount_counts {input : UInt32}
    (hdone : ((promptCount 0 input).result counterFamily p.memory).vm.state = .fetchOpcode) :
    CounterKind.up.Counts firstSite p (promptCount 0 input) where
  onEntry := ⟨⟨.inl rfl, rfl, hdone⟩, rfl, rfl, rfl, fun h => (by cases h), fun _ => rfl⟩
  family := rfl
  preset := fun _ => trivial

theorem promptValue_counts {base : UInt32} (hprepared : base = p.prepared) (hevents : p.events ≠ [])
    (hdone : ((promptValue base).result counterFamily p.memory).vm.state = .fetchOpcode) :
    CounterKind.up.Counts firstSite p (promptValue base) where
  onEntry := ⟨⟨.inr rfl, rfl, hdone⟩, rfl, rfl, rfl, fun _ => hprepared,
    fun hnil => absurd hnil hevents⟩
  family := rfl
  preset := fun _ => trivial

end

def countedEdge : List EntryAct := [.own (promptCount 0 1), .own (promptValue 16)]

theorem countedEdge_follows :
    Along (next counterFamily counterEvent) (Shown CounterKind.up.Follows) ⟨fun _ => 0, 16, []⟩
      countedEdge := by
  suffices hruns : Along (next counterFamily counterEvent)
      (Each firstSite (CounterRuns CounterKind.up firstSite)) ⟨fun _ => 0, 16, []⟩ countedEdge from
    counter_follows rfl hruns
  refine ⟨⟨promptCount_counts ?_, ?_⟩, ⟨promptValue_counts ?_ ?_ ?_, ?_⟩, trivial⟩
  all_goals decide +kernel

/-- Before the value is read, another counter counts a false input. -/
def countTakenOver : List EntryAct :=
  [.own (promptCount 0 1),
    other counterFamily
      (evaluate counterFamily counterEvent ⟨fun _ => 0, 16, []⟩ (promptCount 0 1))
      (promptCount 1 0),
    .own (promptValue 32)]

/-- The value is that of the other counter. -/
theorem countTakenOver_not_follow :
    Along (next counterFamily counterEvent) (Each firstSite (CounterKind.up.Counts firstSite))
        ⟨fun _ => 0, 16, []⟩ countTakenOver ∧
      ¬Along (next counterFamily counterEvent) (Shown CounterKind.up.Follows)
        ⟨fun _ => 0, 16, []⟩ countTakenOver := by
  constructor
  · refine ⟨promptCount_counts ?_, ⟨?_, ?_, ?_⟩, promptValue_counts ?_ ?_ ?_, trivial⟩
    all_goals decide +kernel
  · intro h
    have hvalue := h.2.2.1.value rfl
    revert hvalue
    decide +kernel

end NodeNet.Vm

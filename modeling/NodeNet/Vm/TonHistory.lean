import NodeNet.Vm.EntryHistory
import NodeNet.Vm.IntegerOps

/-! The timer instructions on the words of their entry. -/
namespace NodeNet.Vm
open NodeNet.Bitmap NodeNet.Machine EntryHistory

structure EntryWords where
  word0 : UInt32
  word1 : UInt32
  flags : UInt32

/-- What a reader pushes at the time `now`. -/
def EntryWords.reading (w : EntryWords) (opcode : UInt8) (now : UInt32) : Option Operand :=
  if opcodeIsTimerDone opcode then
    some ⟨boolWord (timerDoneLive w.word0 w.word1 w.flags now), .bool⟩
  else if opcode = opcodeTonElapsed then
    some ⟨signExtendI16 (timerMetricI16 (timerElapsedValue w.word0 w.word1 w.flags now)), .int16⟩
  else if opcode = opcodeTonRemaining then
    some ⟨signExtendI16 (timerMetricI16 (timerRemainingValue w.word0 w.word1 w.flags now)), .int16⟩
  else none

def timerLatch (now : UInt32) (s : WbPlc) (flags : UInt32) : Datapath :=
  let d := s.data
  { d with
    valueWord2 := flags
    timerStatusRunning := hasFlag flags timerFlagRunning
    timerStatusDone := hasFlag flags timerFlagDone
    timerStatusInputHigh := hasFlag flags timerFlagInputHigh
    timerStatusElapsedLtPreset :=
      timerElapsedValue d.valueWord0 d.valueWord1 flags now < d.valueWord1
    timerStatusElapsedGeImmediate := s.currentImmediateU32 ≤ now - d.valueWord0
    timerStatusImmediateIsZero := s.currentImmediateU32 = 0 }

def timerFamily : EntryFamily where
  prepStart := .timerPrepStart
  readWord0 := .timerReadWord0
  readWord1 := .timerReadWord1
  readFlags := .timerReadFlags
  writeWord0 := .timerWriteWord0
  writeWord1 := .timerWriteWord1
  writeFlags := .timerWriteFlags
  reads := opcodeIsTimerRead
  latch := timerLatch
  reading := fun now s flags =>
    EntryWords.reading ⟨s.data.valueWord0, s.data.valueWord1, flags⟩ s.currentOpcode now
  word0 := fun now s => timerWord0 { quietIn with msCounter := now } s
  word1 := timerWord1
  flags := timerFlags

theorem timerReadFlags_eq (i : In) (s : WbPlc) :
    timerReadFlags i s = timerFamily.afterFlags i.msCounter s := by
  funext flags
  simp only [timerReadFlags, EntryFamily.afterFlags, timerFamily, EntryWords.reading]
  by_cases hdone : opcodeIsTimerDone s.currentOpcode = true
  · simp only [hdone, if_true]
    rfl
  · by_cases helapsed : s.currentOpcode = opcodeTonElapsed
    · simp only [helapsed, if_true]
      rfl
    · by_cases hremaining : s.currentOpcode = opcodeTonRemaining
      · simp only [hremaining, if_true]
        rfl
      · simp only [hdone, helapsed, hremaining, if_false]
        rfl

theorem timerFamily_executes : timerFamily.Executes where
  nodup := by decide
  executes := by decide
  prepStart := fun h => by simp [execute, h, timerFamily]
  readWord0 := fun h => by simp [execute, h, timerFamily]
  readWord1 := fun h => by simp [execute, h, timerFamily]
  readFlags := by
    intro i s h
    have hstate : s.state = .timerReadFlags := h
    rw [← timerReadFlags_eq]
    simp only [execute, hstate]
  writeWord0 := fun h => by
    simp only [execute, h, timerFamily]
    rfl
  writeWord1 := fun h => by simp [execute, h, timerFamily]
  writeFlags := fun h => by simp [execute, h, timerFamily]
  latch_congr := fun h _ _ => by simp [timerFamily, timerLatch, h.data, h.immediate]
  reading_congr := fun h _ _ => by simp [timerFamily, h.data, h.opcode]
  word0_congr := fun h _ => by simp [timerFamily, timerWord0, pending, h.data, h.opcode]
  word1_congr := fun h => by
    simp [timerFamily, timerWord1, pending, h.data, h.opcode, h.immediate]
  flags_congr := fun h => by simp [timerFamily, timerFlags, pending, h.data, h.opcode]
  latch_base := fun _ _ _ => rfl
  latch_stack := fun _ _ _ => rfl

theorem ofNat_sub_ofNat {t now : Nat} (hle : t ≤ now) (hlt : now - t < 4294967296) :
    (UInt32.ofNat now - UInt32.ofNat t).toNat = now - t := by
  rw [UInt32.toNat_sub, UInt32.toNat_ofNat', UInt32.toNat_ofNat']
  omega

theorem timerPackFlags_flags (mode : UInt32) (inputHigh running done : Bool)
    (h : mode = timerModeTon ∨ mode = timerModeTof ∨ mode = timerModeTp) :
    modeFromFlags (timerPackFlags mode inputHigh running done) = mode ∧
      hasFlag (timerPackFlags mode inputHigh running done) timerFlagInputHigh = inputHigh ∧
      hasFlag (timerPackFlags mode inputHigh running done) timerFlagRunning = running ∧
      hasFlag (timerPackFlags mode inputHigh running done) timerFlagDone = done := by
  obtain rfl | rfl | rfl := h <;> cases inputHigh <;> cases running <;> cases done <;>
    exact ⟨rfl, rfl, rfl, rfl⟩

theorem signExtendI16_timerMetricI16 (metric : UInt32) :
    signExtendI16 (timerMetricI16 metric) = StackType.int16.word (min 32767 metric.toNat : Nat) := by
  rw [timerMetricI16]
  have hmax : (32767 : UInt32).toNat = 32767 := rfl
  by_cases h : 32767 < metric
  · rw [if_pos h]
    rw [UInt32.lt_iff_toNat_lt, hmax] at h
    rw [Nat.min_eq_left (by omega)]
    rfl
  · rw [if_neg h]
    rw [UInt32.lt_iff_toNat_lt, hmax] at h
    have hword : metric.toUInt16.toNat = min 32767 metric.toNat := by
      rw [UInt32.toNat_toUInt16]
      omega
    rw [← hword, int16_word (by omega)]

/-! Histories of the timer instructions on one entry, with the times at which they ran. -/

/-- A start reads the flags at one time and puts out the anchor at another. -/
inductive TimerEvent where
  | start (input : Bool) (readTime latchTime : Nat)
  | reset

def TimerEvent.Before : TimerEvent → Nat → Prop
  | start _ readTime latchTime, now => readTime ≤ now ∧ latchTime ≤ now
  | reset, _ => True

instance (event : TimerEvent) (now : Nat) : Decidable (event.Before now) := by
  cases event <;> unfold TimerEvent.Before <;> infer_instance

abbrev TimerHistory := EntryHistory TimerEvent

def timerEvent (e : EntryEvaluation) (r : EntryRun) : Option TimerEvent :=
  if opcodeIsTimerStart e.vm.currentOpcode then some (.start e.input r.readTime r.latchTime)
  else if opcodeIsTimerReset e.vm.currentOpcode then some .reset
  else none

inductive TimerKind where
  | ton | tof | tp

namespace TimerKind

def startOpcode : TimerKind → UInt8
  | ton => opcodeTonStart
  | tof => opcodeTofStart
  | tp => opcodeTpStart

def resetOpcode : TimerKind → UInt8
  | ton => opcodeTonReset
  | tof => opcodeTofReset
  | tp => opcodeTpReset

def opcodes : TimerKind → List UInt8
  | ton => [opcodeTonStart, opcodeTonReset, opcodeTonDone, opcodeTonElapsed, opcodeTonRemaining]
  | tof => [opcodeTofStart, opcodeTofReset, opcodeTofDone]
  | tp => [opcodeTpStart, opcodeTpReset, opcodeTpDone]

/-- The opcode starts the timer, resets it or reads it. -/
inductive Uses (kind : TimerKind) (opcode : UInt8) : Prop
  | start (h : opcode = kind.startOpcode) (hstart : opcodeIsTimerStart opcode = true)
      (hreset : opcodeIsTimerReset opcode = false) (hread : opcodeIsTimerRead opcode = false)
  | reset (h : opcode = kind.resetOpcode) (hstart : opcodeIsTimerStart opcode = false)
      (hreset : opcodeIsTimerReset opcode = true) (hread : opcodeIsTimerRead opcode = false)
  | read (hstart : opcodeIsTimerStart opcode = false)
      (hreset : opcodeIsTimerReset opcode = false) (hread : opcodeIsTimerRead opcode = true)

theorem uses_of_mem {kind : TimerKind} {opcode : UInt8} (h : opcode ∈ kind.opcodes) :
    kind.Uses opcode := by
  cases kind with
  | ton =>
    simp only [opcodes, List.mem_cons, List.not_mem_nil, or_false] at h
    obtain rfl | rfl | rfl | rfl | rfl := h
    · exact .start rfl rfl rfl rfl
    · exact .reset rfl rfl rfl rfl
    · exact .read rfl rfl rfl
    · exact .read rfl rfl rfl
    · exact .read rfl rfl rfl
  | tof =>
    simp only [opcodes, List.mem_cons, List.not_mem_nil, or_false] at h
    obtain rfl | rfl | rfl := h
    · exact .start rfl rfl rfl rfl
    · exact .reset rfl rfl rfl rfl
    · exact .read rfl rfl rfl
  | tp =>
    simp only [opcodes, List.mem_cons, List.not_mem_nil, or_false] at h
    obtain rfl | rfl | rfl := h
    · exact .start rfl rfl rfl rfl
    · exact .reset rfl rfl rfl rfl
    · exact .read rfl rfl rfl

/-- An instruction of the timer's family on its entry, at a time after the earlier ones. -/
structure Runs (kind : TimerKind) (preset : UInt32) (site : Site) (p : TimerHistory)
    (e : EntryEvaluation) : Prop where
  onEntry : OnEntry timerFamily opcodeIsTimerStart site p e
  family : e.vm.currentOpcode ∈ kind.opcodes
  preset : opcodeIsTimerStart e.vm.currentOpcode = true → e.vm.currentImmediateU32 = preset
  order : ∀ event ∈ p.events, event.Before (e.result timerFamily p.memory).readTime

end TimerKind

section
variable {kind : TimerKind} {preset : UInt32} {site : Site} {p : TimerHistory}
  {e : EntryEvaluation}

theorem EntryWords.reading_of_not {w : EntryWords} {opcode : UInt8}
    (h : opcodeIsTimerRead opcode = false) (now : UInt32) : w.reading opcode now = none := by
  simp only [opcodeIsTimerRead, Bool.or_eq_false_iff, List.contains_cons, List.contains_nil,
    beq_eq_false_iff_ne, and_true, ne_eq] at h
  obtain ⟨hdone, helapsed, hremaining⟩ := h
  simp [EntryWords.reading, hdone, helapsed, hremaining]

theorem timer_writing (hr : kind.Runs preset site p e)
    (hp : AtEntry opcodeIsTimerStart site p e) :
    (e.writing timerFamily p.memory).data =
      timerLatch (UInt32.ofNat (e.result timerFamily p.memory).readTime)
        { e.vm with
          data := { e.entered timerFamily with
            valueWord0 := p.memory site.place0
            valueWord1 := p.memory site.place1 } }
        (p.memory site.place2) :=
  hr.onEntry.writing_data timerFamily_executes hp

theorem timer_pending (hr : kind.Runs preset site p e)
    (hp : AtEntry opcodeIsTimerStart site p e)
    (hstart : opcodeIsTimerStart e.vm.currentOpcode = true) :
    pending (e.writing timerFamily p.memory) = e.input := by
  rw [pending, timer_writing hr hp, timerLatch]
  simp only [(hr.onEntry.entered_of_prepares hstart).1]
  rfl

def EntryHistory.words (p : TimerHistory) (site : Site) : EntryWords :=
  ⟨p.memory site.place0, p.memory site.place1, p.memory site.place2⟩

theorem EntryHistory.words_of_spares {memory : Words} (h : Spares site p.memory memory)
    (prepared : UInt32) : EntryHistory.words ⟨memory, prepared, p.events⟩ site = p.words site := by
  simp only [EntryHistory.words, h.word0, h.word1, h.word2]

theorem timer_wrote (hr : kind.Runs preset site p e)
    (hp : AtEntry opcodeIsTimerStart site p e)
    (hread : opcodeIsTimerRead e.vm.currentOpcode = false) :
    (evaluate timerFamily timerEvent p e).words site =
      ⟨timerWord0
          { quietIn with
            msCounter := UInt32.ofNat (e.result timerFamily p.memory).latchTime }
          (e.writing timerFamily p.memory),
        timerWord1 (e.writing timerFamily p.memory),
        timerFlags (e.writing timerFamily p.memory)⟩ := by
  obtain ⟨h0, h1, h2⟩ :=
    hr.onEntry.wrote timerFamily_executes hp (EntryWords.reading_of_not hread _)
  rw [EntryHistory.words, evaluate]
  exact congr (congr (congrArg EntryWords.mk h0) h1) h2

theorem timer_reset (hr : kind.Runs preset site p e)
    (hp : AtEntry opcodeIsTimerStart site p e)
    (hreset : opcodeIsTimerReset e.vm.currentOpcode = true)
    (hread : opcodeIsTimerRead e.vm.currentOpcode = false) :
    (evaluate timerFamily timerEvent p e).words site = ⟨0, 0, 0⟩ := by
  have hopcode : opcodeIsTimerReset (e.writing timerFamily p.memory).currentOpcode = true := hreset
  rw [timer_wrote hr hp hread]
  generalize e.writing timerFamily p.memory = s at hopcode ⊢
  simp [timerWord0, timerWord1, timerFlags, hopcode]

theorem timer_read (hr : kind.Runs preset site p e)
    (hp : AtEntry opcodeIsTimerStart site p e)
    (hstart : opcodeIsTimerStart e.vm.currentOpcode = false)
    (hreset : opcodeIsTimerReset e.vm.currentOpcode = false) {o : Operand}
    (hreading : (p.words site).reading e.vm.currentOpcode
      (UInt32.ofNat (e.result timerFamily p.memory).readTime) = some o) :
    (evaluate timerFamily timerEvent p e).words site = p.words site ∧
      (evaluate timerFamily timerEvent p e).events = p.events ∧
      (e.result timerFamily p.memory).vm.data.stack = e.vm.data.stack.push o.value32 o.type := by
  have hentered := hr.onEntry.entered_of_not timerFamily_executes hstart
  have h : e.reading timerFamily p.memory (e.result timerFamily p.memory).readTime = some o := by
    rw [EntryEvaluation.reading, hr.onEntry.loaded timerFamily_executes hp, hentered,
      (hr.onEntry.places timerFamily_executes hp).2.2]
    exact hreading
  obtain ⟨hmem, hstack⟩ := hr.onEntry.pushed timerFamily_executes h
  refine ⟨?_, ?_, ?_⟩
  · simp only [EntryHistory.words, evaluate, hmem]
  · simp [evaluate, timerEvent, hstart, hreset]
  · rw [hstack, hentered]

end

/-! What the `TON` instructions on one entry push, by the starts so far. -/

/-- The anchor of the timer: what the first of the last starts with a true input latched. -/
def tonAnchor : List TimerEvent → Option Nat
  | .start input _ latchTime :: past =>
    if input then some ((tonAnchor past).getD latchTime) else none
  | _ => none

/-- A start since the anchor found the preset reached. -/
def tonReached (preset : Nat) : List TimerEvent → Bool
  | .start input readTime _ :: past =>
    input && (preset = 0 ||
      (tonAnchor past).any fun t => tonReached preset past || preset ≤ readTime - t)
  | _ => false

def tonDone (preset : Nat) (events : List TimerEvent) (now : Nat) : Bool :=
  (tonAnchor events).any fun t => preset ≤ now - t

def tonElapsed (preset : Nat) (events : List TimerEvent) (now : Nat) : Nat :=
  match tonAnchor events with
  | some t => min (now - t) preset
  | none => 0

/-- An idle timer has no preset stored. -/
def tonRemaining (preset : Nat) (events : List TimerEvent) (now : Nat) : Nat :=
  match tonAnchor events with
  | some t => preset - min (now - t) preset
  | none => 0

/-- The readers push what the starts so far make of the timer. -/
structure TonFollows (preset : UInt32) (p : TimerHistory) (e : EntryEvaluation) : Prop where
  done : e.vm.currentOpcode = opcodeTonDone →
    (e.result timerFamily p.memory).vm.data.stack =
      e.vm.data.stack.push
        (boolWord (tonDone preset.toNat p.events (e.result timerFamily p.memory).readTime)) .bool
  elapsed : e.vm.currentOpcode = opcodeTonElapsed →
    (e.result timerFamily p.memory).vm.data.stack =
      e.vm.data.stack.push
        (StackType.int16.word (min 32767
          (tonElapsed preset.toNat p.events (e.result timerFamily p.memory).readTime) : Nat)) .int16
  remaining : e.vm.currentOpcode = opcodeTonRemaining →
    (e.result timerFamily p.memory).vm.data.stack =
      e.vm.data.stack.push
        (StackType.int16.word (min 32767
          (tonRemaining preset.toNat p.events (e.result timerFamily p.memory).readTime) : Nat))
        .int16

/-- The readers and the reset find the entry's address, and until a start finds the preset reached,
the counter does not come round after the anchor. -/
structure TonRuns (preset : UInt32) (site : Site) (p : TimerHistory) (e : EntryEvaluation) : Prop
    where
  runs : TimerKind.ton.Runs preset site p e
  addressed : AtEntry opcodeIsTimerStart site p e
  inTime : opcodeIsTimerReset e.vm.currentOpcode = false →
    ∀ t, tonAnchor p.events = some t → tonReached preset.toNat p.events = false →
      (e.result timerFamily p.memory).readTime - t < 4294967296

/-- The words of the entry by the starts so far; before the first event the flags are clear. -/
structure TonInv (preset : UInt32) (site : Site) (p : TimerHistory) : Prop where
  fresh : p.events = [] → p.memory site.place2 = 0
  idle : p.events ≠ [] → tonAnchor p.events = none → p.words site = ⟨0, 0, 0⟩
  running : ∀ t, tonAnchor p.events = some t →
    p.words site = ⟨UInt32.ofNat t, preset,
      timerPackFlags timerModeTon true true (tonReached preset.toNat p.events)⟩

theorem tonAnchor_le {events : List TimerEvent} {t now : Nat}
    (horder : ∀ event ∈ events, event.Before now) (h : tonAnchor events = some t) : t ≤ now := by
  induction events generalizing t with
  | nil => cases h
  | cons event past ih =>
    have hpast := fun event h => horder event (List.mem_cons_of_mem _ h)
    cases event with
    | reset => cases h
    | start input readTime latchTime =>
      rw [tonAnchor] at h
      split at h
      · obtain rfl := Option.some.inj h
        cases hanchor : tonAnchor past with
        | none => exact (horder _ (List.mem_cons_self ..)).2
        | some t => exact ih hpast hanchor
      · cases h

theorem tonReached_le {preset : Nat} {events : List TimerEvent} {t now : Nat}
    (horder : ∀ event ∈ events, event.Before now) (hreached : tonReached preset events = true)
    (h : tonAnchor events = some t) : preset ≤ now - t := by
  induction events generalizing t with
  | nil => cases h
  | cons event past ih =>
    have hpast := fun event h => horder event (List.mem_cons_of_mem _ h)
    cases event with
    | reset => cases h
    | start input readTime latchTime =>
      have hread : readTime ≤ now := (horder _ (List.mem_cons_self ..)).1
      simp only [tonReached, Bool.and_eq_true, Bool.or_eq_true, decide_eq_true_eq] at hreached
      rw [tonAnchor, if_pos hreached.1] at h
      obtain rfl := Option.some.inj h
      obtain hzero | hany := hreached.2
      · omega
      · cases hanchor : tonAnchor past with
        | none => simp [hanchor] at hany
        | some t =>
          simp only [hanchor, Option.any_some, Bool.or_eq_true, decide_eq_true_eq] at hany
          rw [Option.getD_some]
          obtain hany | hany := hany
          · exact ih hpast hany hanchor
          · omega

namespace TonInv
variable {preset : UInt32} {site : Site} {p : TimerHistory} {e : EntryEvaluation}

theorem delta_eq (hr : TonRuns preset site p e)
    (hreset : opcodeIsTimerReset e.vm.currentOpcode = false) {t : Nat}
    (hanchor : tonAnchor p.events = some t) (hnot : tonReached preset.toNat p.events = false) :
    (UInt32.ofNat (e.result timerFamily p.memory).readTime - UInt32.ofNat t).toNat =
      (e.result timerFamily p.memory).readTime - t :=
  ofNat_sub_ofNat (tonAnchor_le hr.runs.order hanchor) (hr.inTime hreset t hanchor hnot)

theorem flags_eq (b : Bool) :
    modeFromFlags (timerPackFlags timerModeTon true true b) = timerModeTon ∧
      hasFlag (timerPackFlags timerModeTon true true b) timerFlagRunning = true ∧
      hasFlag (timerPackFlags timerModeTon true true b) timerFlagDone = b := by
  obtain ⟨hmode, -, hrunning, hdone⟩ := timerPackFlags_flags timerModeTon true true b (.inl rfl)
  exact ⟨hmode, hrunning, hdone⟩

theorem doneLive_eq (h : TonInv preset site p) (hr : TonRuns preset site p e)
    (hreset : opcodeIsTimerReset e.vm.currentOpcode = false) (hevents : p.events ≠ []) :
    timerDoneLive (p.words site).word0 (p.words site).word1 (p.words site).flags
        (UInt32.ofNat (e.result timerFamily p.memory).readTime) =
      tonDone preset.toNat p.events (e.result timerFamily p.memory).readTime := by
  cases hanchor : tonAnchor p.events with
  | none =>
    rw [h.idle hevents hanchor, tonDone, hanchor]
    rfl
  | some t =>
    rw [h.running t hanchor, tonDone, hanchor, Option.any_some]
    obtain ⟨hmode, hrunning, hdone⟩ := flags_eq (tonReached preset.toNat p.events)
    simp only [timerDoneLive, hmode, hrunning, hdone, if_true, Bool.true_and]
    cases hreached : tonReached preset.toNat p.events with
    | true => simpa using tonReached_le hr.runs.order hreached hanchor
    | false =>
      have hdelta := delta_eq hr hreset hanchor hreached
      rw [Bool.false_or]
      exact decide_eq_decide.mpr (by rw [UInt32.le_iff_toNat_le, hdelta])

theorem elapsedValue_eq (h : TonInv preset site p) (hr : TonRuns preset site p e)
    (hreset : opcodeIsTimerReset e.vm.currentOpcode = false) (hevents : p.events ≠ []) :
    (timerElapsedValue (p.words site).word0 (p.words site).word1 (p.words site).flags
        (UInt32.ofNat (e.result timerFamily p.memory).readTime)).toNat =
      tonElapsed preset.toNat p.events (e.result timerFamily p.memory).readTime := by
  cases hanchor : tonAnchor p.events with
  | none =>
    rw [h.idle hevents hanchor, tonElapsed, hanchor]
    rfl
  | some t =>
    rw [h.running t hanchor, tonElapsed, hanchor]
    obtain ⟨hmode, hrunning, hdone⟩ := flags_eq (tonReached preset.toNat p.events)
    simp only [timerElapsedValue, hmode, hrunning, hdone, if_true]
    cases hreached : tonReached preset.toNat p.events with
    | true =>
      have hle := tonReached_le hr.runs.order hreached hanchor
      rw [if_pos rfl]
      omega
    | false =>
      have hdelta := delta_eq hr hreset hanchor hreached
      rw [if_neg Bool.false_ne_true]
      split
      · rename_i hle
        rw [UInt32.le_iff_toNat_le, hdelta] at hle
        omega
      · rename_i hle
        rw [UInt32.le_iff_toNat_le, hdelta] at hle
        omega

theorem remainingValue_eq (h : TonInv preset site p) (hr : TonRuns preset site p e)
    (hreset : opcodeIsTimerReset e.vm.currentOpcode = false) (hevents : p.events ≠ []) :
    (timerRemainingValue (p.words site).word0 (p.words site).word1 (p.words site).flags
        (UInt32.ofNat (e.result timerFamily p.memory).readTime)).toNat =
      tonRemaining preset.toNat p.events (e.result timerFamily p.memory).readTime := by
  have helapsed := h.elapsedValue_eq hr hreset hevents
  rw [timerRemainingValue]
  generalize timerElapsedValue (p.words site).word0 (p.words site).word1 (p.words site).flags
    (UInt32.ofNat (e.result timerFamily p.memory).readTime) = elapsed at helapsed ⊢
  have hzero : (0 : UInt32).toNat = 0 := rfl
  have hword1 : (p.words site).word1.toNat - elapsed.toNat =
      tonRemaining preset.toNat p.events (e.result timerFamily p.memory).readTime := by
    rw [helapsed]
    cases hanchor : tonAnchor p.events with
    | none =>
      rw [h.idle hevents hanchor, tonElapsed, tonRemaining, hanchor]
      rfl
    | some t => rw [h.running t hanchor, tonElapsed, tonRemaining, hanchor]
  by_cases hle : (p.words site).word1 ≤ elapsed
  · rw [if_pos hle]
    rw [UInt32.le_iff_toNat_le] at hle
    omega
  · rw [if_neg hle, UInt32.toNat_sub_of_le]
    · exact hword1
    · rw [UInt32.le_iff_toNat_le] at hle ⊢
      omega

theorem start_low (hr : TonRuns preset site p e)
    (hopcode : e.vm.currentOpcode = opcodeTonStart) (hinput : e.input = false) :
    (evaluate timerFamily timerEvent p e).words site = ⟨0, 0, 0⟩ := by
  have hstart : opcodeIsTimerStart e.vm.currentOpcode = true := by rw [hopcode]; rfl
  have hpending := timer_pending hr.runs hr.addressed hstart
  rw [timer_wrote hr.runs hr.addressed (by rw [hopcode]; rfl)]
  have hwriting : (e.writing timerFamily p.memory).currentOpcode = opcodeTonStart := hopcode
  generalize e.writing timerFamily p.memory = s at hpending hwriting ⊢
  have hnot : opcodeIsTimerReset opcodeTonStart = false := rfl
  simp [timerWord0, timerWord1, timerFlags, hwriting, hpending, hinput, hnot]

/-- A start with a true input latches the anchor, if there is none, and notes whether the preset is
reached. -/
theorem start_high (h : TonInv preset site p) (hr : TonRuns preset site p e)
    (hopcode : e.vm.currentOpcode = opcodeTonStart) (hinput : e.input = true) :
    (evaluate timerFamily timerEvent p e).words site =
      ⟨UInt32.ofNat ((tonAnchor p.events).getD (e.result timerFamily p.memory).latchTime), preset,
        timerPackFlags timerModeTon true true (preset.toNat = 0 ||
          (tonAnchor p.events).any fun t => tonReached preset.toNat p.events ||
            preset.toNat ≤ (e.result timerFamily p.memory).readTime - t)⟩ := by
  have hstart : opcodeIsTimerStart e.vm.currentOpcode = true := by rw [hopcode]; rfl
  have hreset : opcodeIsTimerReset e.vm.currentOpcode = false := by rw [hopcode]; rfl
  have hpending := timer_pending hr.runs hr.addressed hstart
  have hdata := timer_writing hr.runs hr.addressed
  have hpreset := hr.runs.preset hstart
  have himmediate : (e.writing timerFamily p.memory).currentImmediateU32 = preset := hpreset
  have hwriting : (e.writing timerFamily p.memory).currentOpcode = opcodeTonStart := hopcode
  have hzero : preset = 0 ↔ preset.toNat = 0 := (UInt32.toNat_inj (b := 0)).symm
  rw [timer_wrote hr.runs hr.addressed (by rw [hopcode]; rfl)]
  generalize e.writing timerFamily p.memory = s at hpending hdata himmediate hwriting ⊢
  have hnot : opcodeIsTimerReset opcodeTonStart = false := rfl
  cases hanchor : tonAnchor p.events with
  | none =>
    have hflags : p.memory site.place2 = 0 := by
      by_cases hevents : p.events = []
      · exact h.fresh hevents
      · exact congrArg EntryWords.flags (h.idle hevents hanchor)
    have hclear : hasFlag 0 timerFlagRunning = false ∧ hasFlag 0 timerFlagDone = false :=
      ⟨rfl, rfl⟩
    simp [timerWord0, timerWord1, timerFlags, hwriting, hpending, hinput, hnot, hdata, timerLatch,
      hflags, hclear.1, hclear.2, himmediate, hpreset, hzero]
  | some t =>
    have hwords := h.running t hanchor
    have h0 : p.memory site.place0 = UInt32.ofNat t := congrArg EntryWords.word0 hwords
    have hflags := congrArg EntryWords.flags hwords
    change p.memory site.place2 = _ at hflags
    obtain ⟨-, hrunning, hdone⟩ := flags_eq (tonReached preset.toNat p.events)
    have hreachedNow : (tonReached preset.toNat p.events || (decide (preset.toNat = 0) ||
        decide (preset ≤ UInt32.ofNat (e.result timerFamily p.memory).readTime -
          UInt32.ofNat t))) =
        (decide (preset.toNat = 0) || (tonReached preset.toNat p.events ||
          decide (preset.toNat ≤ (e.result timerFamily p.memory).readTime - t))) := by
      cases hreached : tonReached preset.toNat p.events with
      | true => simp
      | false =>
        have hdelta := delta_eq hr hreset hanchor hreached
        rw [Bool.false_or, Bool.false_or]
        congr 1
        exact decide_eq_decide.mpr (by rw [UInt32.le_iff_toNat_le, hdelta])
    simp [timerWord0, timerWord1, timerFlags, hwriting, hpending, hinput, hnot, hdata, timerLatch,
      h0, hflags, hrunning, hdone, himmediate, hpreset, hzero, ← hreachedNow, Bool.or_assoc]

theorem evaluate_start (h : TonInv preset site p) (hr : TonRuns preset site p e)
    (hopcode : e.vm.currentOpcode = opcodeTonStart) :
    TonInv preset site (evaluate timerFamily timerEvent p e) := by
  have hstart : opcodeIsTimerStart e.vm.currentOpcode = true := by rw [hopcode]; rfl
  have hevents : (evaluate timerFamily timerEvent p e).events =
      .start e.input (e.result timerFamily p.memory).readTime
        (e.result timerFamily p.memory).latchTime :: p.events := by
    simp [evaluate, timerEvent, hstart]
  constructor
  · intro hnil
    cases hevents.symm.trans hnil
  · intro _ hanchor
    rw [hevents, tonAnchor] at hanchor
    cases hinput : e.input with
    | false => exact start_low hr hopcode hinput
    | true => simp [hinput] at hanchor
  · intro t hanchor
    rw [hevents, tonAnchor] at hanchor
    cases hinput : e.input with
    | false => simp [hinput] at hanchor
    | true =>
      rw [if_pos hinput] at hanchor
      obtain rfl := Option.some.inj hanchor
      rw [h.start_high hr hopcode hinput, hevents, tonReached, hinput, Bool.true_and]

theorem evaluate_reset (hr : TonRuns preset site p e)
    (hstart : opcodeIsTimerStart e.vm.currentOpcode = false)
    (hreset : opcodeIsTimerReset e.vm.currentOpcode = true)
    (hread : opcodeIsTimerRead e.vm.currentOpcode = false) :
    TonInv preset site (evaluate timerFamily timerEvent p e) := by
  have hevents : (evaluate timerFamily timerEvent p e).events = .reset :: p.events := by
    simp [evaluate, timerEvent, hstart, hreset]
  constructor
  · intro hnil
    cases hevents.symm.trans hnil
  · intro _ _
    exact timer_reset hr.runs hr.addressed hreset hread
  · intro t hanchor
    rw [hevents] at hanchor
    cases hanchor

def reads (preset : UInt32) (p : TimerHistory) (e : EntryEvaluation) : Operand :=
  let now := (e.result timerFamily p.memory).readTime
  if opcodeIsTimerDone e.vm.currentOpcode then ⟨boolWord (tonDone preset.toNat p.events now), .bool⟩
  else if e.vm.currentOpcode = opcodeTonElapsed then
    ⟨StackType.int16.word (min 32767 (tonElapsed preset.toNat p.events now) : Nat), .int16⟩
  else ⟨StackType.int16.word (min 32767 (tonRemaining preset.toNat p.events now) : Nat), .int16⟩

theorem reading_eq (h : TonInv preset site p) (hr : TonRuns preset site p e)
    (hstart : opcodeIsTimerStart e.vm.currentOpcode = false)
    (hreset : opcodeIsTimerReset e.vm.currentOpcode = false)
    (hread : opcodeIsTimerRead e.vm.currentOpcode = true) :
    (p.words site).reading e.vm.currentOpcode
      (UInt32.ofNat (e.result timerFamily p.memory).readTime) = some (reads preset p e) := by
  have hevents : p.events ≠ [] := fun hnil => by
    rw [hr.runs.onEntry.first hnil] at hstart
    cases hstart
  have hdone := h.doneLive_eq hr hreset hevents
  have helapsed := h.elapsedValue_eq hr hreset hevents
  have hremaining := h.remainingValue_eq hr hreset hevents
  simp only [EntryWords.reading, reads, hdone, signExtendI16_timerMetricI16, helapsed, hremaining]
  split
  · rfl
  · rename_i hnot
    split
    · rfl
    · rename_i hnot'
      have heq : e.vm.currentOpcode = opcodeTonRemaining := by
        simpa [opcodeIsTimerRead, hnot, hnot'] using hread
      rw [if_pos heq]

theorem evaluate (h : TonInv preset site p) (hr : TonRuns preset site p e) :
    TonInv preset site (evaluate timerFamily timerEvent p e) := by
  cases TimerKind.uses_of_mem hr.runs.family with
  | start hopcode => exact h.evaluate_start hr hopcode
  | reset _ hstart hreset hread => exact evaluate_reset hr hstart hreset hread
  | read hstart hreset hread =>
    obtain ⟨hwords, hevents, -⟩ := timer_read hr.runs hr.addressed hstart hreset
      (h.reading_eq hr hstart hreset hread)
    constructor
    · intro hnil
      exact (congrArg EntryWords.flags hwords).trans (h.fresh (hevents.symm.trans hnil))
    · rw [hevents, hwords]
      exact h.idle
    · rw [hevents, hwords]
      exact h.running

theorem between (h : TonInv preset site p) {memory : Words} (hspares : Spares site p.memory memory)
    (prepared : UInt32) : TonInv preset site ⟨memory, prepared, p.events⟩ := by
  constructor
  · exact fun hnil => hspares.word2.trans (h.fresh hnil)
  · rw [words_of_spares hspares]
    exact h.idle
  · rw [words_of_spares hspares]
    exact h.running

theorem follows (h : TonInv preset site p) (hr : TonRuns preset site p e) :
    TonFollows preset p e := by
  have hpushed : opcodeIsTimerRead e.vm.currentOpcode = true →
      (e.result timerFamily p.memory).vm.data.stack =
        e.vm.data.stack.push (reads preset p e).value32 (reads preset p e).type := by
    intro hread
    cases TimerKind.uses_of_mem hr.runs.family with
    | start _ _ _ hnot => cases hnot.symm.trans hread
    | reset _ _ _ hnot => cases hnot.symm.trans hread
    | read hstart hreset _ =>
      exact (timer_read hr.runs hr.addressed hstart hreset
        (h.reading_eq hr hstart hreset hread)).2.2
  constructor
  · intro hopcode
    rw [hpushed (by rw [hopcode]; rfl), reads, if_pos (by rw [hopcode]; rfl)]
  · intro hopcode
    rw [hpushed (by rw [hopcode]; rfl), reads, if_neg (by rw [hopcode]; decide), if_pos hopcode]
  · intro hopcode
    rw [hpushed (by rw [hopcode]; rfl), reads, if_neg (by rw [hopcode]; decide),
      if_neg (by rw [hopcode]; decide)]

end TonInv

theorem tonInv_fresh {preset : UInt32} {site : Site} {memory : Words}
    (hfresh : memory site.place2 = 0) (prepared : UInt32) :
    TonInv preset site ⟨memory, prepared, []⟩ where
  fresh := fun _ => hfresh
  idle := fun hnil => absurd rfl hnil
  running := fun t hanchor => by cases hanchor

end NodeNet.Vm

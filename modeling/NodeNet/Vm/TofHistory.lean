import NodeNet.Vm.TonHistory

/-! What the `TOF` instructions on one entry push, by the starts so far. -/
namespace NodeNet.Vm
open NodeNet.Bitmap NodeNet.Machine EntryHistory

def timerInput : List TimerEvent → Bool
  | .start input _ _ :: _ => input
  | _ => false

/-- What the start latched that last saw the input fall. -/
def tofFell : List TimerEvent → Option Nat
  | .start input _ latchTime :: past =>
    if input then none else if timerInput past then some latchTime else tofFell past
  | _ => none

/-- A start since the fall found the preset over. -/
def tofExpired (preset : Nat) : List TimerEvent → Bool
  | .start input readTime _ :: past =>
    !input && if timerInput past then preset = 0
      else (tofFell past).any fun t => tofExpired preset past || preset ≤ readTime - t
  | _ => false

def tofDone (preset : Nat) (events : List TimerEvent) (now : Nat) : Bool :=
  timerInput events || (tofFell events).any fun t => now - t < preset

structure TofFollows (preset : UInt32) (p : TimerHistory) (e : EntryEvaluation) : Prop where
  done : e.vm.currentOpcode = opcodeTofDone →
    (e.result timerFamily p.memory).vm.data.stack =
      e.vm.data.stack.push
        (boolWord (tofDone preset.toNat p.events (e.result timerFamily p.memory).readTime)) .bool

/-- The reader and the reset find the entry's address, and until a start finds the preset over, the
counter does not come round after the fall. -/
structure TofRuns (preset : UInt32) (site : Site) (p : TimerHistory) (e : EntryEvaluation) : Prop
    where
  runs : TimerKind.tof.Runs preset site p e
  addressed : AtEntry opcodeIsTimerStart site p e
  inTime : opcodeIsTimerReset e.vm.currentOpcode = false →
    ∀ t, tofFell p.events = some t → tofExpired preset.toNat p.events = false →
      (e.result timerFamily p.memory).readTime - t < 4294967296

/-- The words of the entry while the input is high, while the fall is not over, and else. -/
structure TofInv (preset : UInt32) (site : Site) (p : TimerHistory) : Prop where
  high : timerInput p.events = true →
    p.memory site.place2 = timerPackFlags timerModeTof true false true
  running : ∀ t, tofFell p.events = some t → tofExpired preset.toNat p.events = false →
    p.words site = ⟨UInt32.ofNat t, preset, timerPackFlags timerModeTof false true true⟩
  idle : timerInput p.events = false →
    (∀ t, tofFell p.events = some t → tofExpired preset.toNat p.events = true) →
    p.memory site.place2 = 0 ∨
      p.memory site.place2 = timerPackFlags timerModeTof false false false

variable {events : List TimerEvent}

theorem tofFell_le {t now : Nat} (horder : ∀ event ∈ events, event.Before now)
    (h : tofFell events = some t) : t ≤ now := by
  induction events with
  | nil => cases h
  | cons event past ih =>
    cases event with
    | reset => cases h
    | start input readTime latchTime =>
      rw [tofFell] at h
      split at h
      · cases h
      · split at h
        · obtain rfl := Option.some.inj h
          exact (horder _ (List.mem_cons_self ..)).2
        · exact ih (fun event h => horder event (List.mem_cons_of_mem _ h)) h

theorem tofFell_of_high (h : timerInput events = true) : tofFell events = none := by
  cases events with
  | nil => rfl
  | cons event past =>
    cases event with
    | reset => rfl
    | start input readTime latchTime => exact if_pos h

theorem tofExpired_le {preset : Nat} {t now : Nat} (horder : ∀ event ∈ events, event.Before now)
    (hexpired : tofExpired preset events = true) (h : tofFell events = some t) :
    preset ≤ now - t := by
  induction events with
  | nil => cases h
  | cons event past ih =>
    cases event with
    | reset => cases h
    | start input readTime latchTime =>
      have hread : readTime ≤ now := (horder _ (List.mem_cons_self ..)).1
      rw [tofFell] at h
      rw [tofExpired] at hexpired
      split at h
      · cases h
      · split at h
        · rename_i hhigh
          simp only [hhigh, if_true, Bool.and_eq_true, decide_eq_true_eq] at hexpired
          omega
        · rename_i hhigh
          rw [if_neg hhigh] at hexpired
          simp only [h, Option.any_some, Bool.and_eq_true, Bool.or_eq_true,
            decide_eq_true_eq] at hexpired
          obtain hpast | hpast := hexpired.2
          · exact ih (fun event h => horder event (List.mem_cons_of_mem _ h)) hpast h
          · omega

namespace TofInv
variable {preset : UInt32} {site : Site} {p : TimerHistory} {e : EntryEvaluation}

theorem delta_eq (hr : TofRuns preset site p e)
    (hreset : opcodeIsTimerReset e.vm.currentOpcode = false) {t : Nat}
    (hfell : tofFell p.events = some t) (hnot : tofExpired preset.toNat p.events = false) :
    (UInt32.ofNat (e.result timerFamily p.memory).readTime - UInt32.ofNat t).toNat =
      (e.result timerFamily p.memory).readTime - t :=
  ofNat_sub_ofNat (tofFell_le hr.runs.order hfell) (hr.inTime hreset t hfell hnot)

theorem over_or (events : List TimerEvent) (preset : Nat) :
    (∃ t, tofFell events = some t ∧ tofExpired preset events = false) ∨
      ∀ t, tofFell events = some t → tofExpired preset events = true := by
  cases hexpired : tofExpired preset events with
  | true => exact .inr fun _ _ => rfl
  | false =>
    cases hfell : tofFell events with
    | none => exact .inr fun t h => by cases h
    | some t => exact .inl ⟨t, rfl, rfl⟩

theorem doneLive_eq (h : TofInv preset site p) (hr : TofRuns preset site p e)
    (hreset : opcodeIsTimerReset e.vm.currentOpcode = false) :
    timerDoneLive (p.words site).word0 (p.words site).word1 (p.words site).flags
        (UInt32.ofNat (e.result timerFamily p.memory).readTime) =
      tofDone preset.toNat p.events (e.result timerFamily p.memory).readTime := by
  cases hhigh : timerInput p.events with
  | true =>
    have hflags : (p.words site).flags = timerPackFlags timerModeTof true false true := h.high hhigh
    rw [hflags, tofDone, hhigh]
    rfl
  | false =>
    rw [tofDone, hhigh, Bool.false_or]
    obtain ⟨t, hfell, hnot⟩ | hover := over_or p.events preset.toNat
    · have hdelta := delta_eq hr hreset hfell hnot
      rw [h.running t hfell hnot, hfell, Option.any_some]
      have hlive : timerDoneLive (UInt32.ofNat t) preset
          (timerPackFlags timerModeTof false true true)
          (UInt32.ofNat (e.result timerFamily p.memory).readTime) =
          decide (UInt32.ofNat (e.result timerFamily p.memory).readTime - UInt32.ofNat t <
            preset) := by
        obtain ⟨hmode, hinput, hrunning, -⟩ :=
          timerPackFlags_flags timerModeTof false true true (.inr (.inl rfl))
        have hne : timerModeTof ≠ timerModeTon := by decide
        simp only [timerDoneLive, hmode, hinput, hrunning, hne, if_false, if_true, Bool.true_and,
          Bool.false_or]
      rw [hlive]
      exact decide_eq_decide.mpr (by rw [UInt32.lt_iff_toNat_lt, hdelta])
    · have hdone : timerDoneLive (p.words site).word0 (p.words site).word1 (p.words site).flags
          (UInt32.ofNat (e.result timerFamily p.memory).readTime) = false := by
        obtain hflags | hflags := h.idle hhigh hover
        · change (p.words site).flags = _ at hflags
          rw [hflags]
          rfl
        · change (p.words site).flags = _ at hflags
          rw [hflags]
          rfl
      rw [hdone]
      cases hfell : tofFell p.events with
      | none => rfl
      | some t =>
        have hle := tofExpired_le hr.runs.order (hover t hfell) hfell
        rw [Option.any_some]
        exact (decide_eq_false (by omega)).symm

theorem flags_eq (h : TofInv preset site p) :
    hasFlag (p.memory site.place2) timerFlagInputHigh = timerInput p.events ∧
      (hasFlag (p.memory site.place2) timerFlagRunning = true ↔
        ∃ t, tofFell p.events = some t ∧ tofExpired preset.toNat p.events = false) := by
  cases hhigh : timerInput p.events with
  | true =>
    rw [h.high hhigh, tofFell_of_high hhigh]
    refine ⟨rfl, iff_of_false (by decide) ?_⟩
    rintro ⟨t, hnone, -⟩
    cases hnone
  | false =>
    obtain ⟨t, hfell, hnot⟩ | hover := over_or p.events preset.toNat
    · have hflags : p.memory site.place2 = timerPackFlags timerModeTof false true true :=
        congrArg EntryWords.flags (h.running t hfell hnot)
      rw [hflags]
      exact ⟨rfl, iff_of_true rfl ⟨t, hfell, hnot⟩⟩
    · have hnot : ¬∃ t, tofFell p.events = some t ∧ tofExpired preset.toNat p.events = false := by
        rintro ⟨t, hfell, hnot⟩
        cases (hover t hfell).symm.trans hnot
      obtain hflags | hflags := h.idle hhigh hover
      · rw [hflags]
        exact ⟨rfl, iff_of_false (by decide) hnot⟩
      · rw [hflags]
        exact ⟨rfl, iff_of_false (by decide) hnot⟩

theorem start_words (h : TofInv preset site p) (hr : TofRuns preset site p e)
    (hopcode : e.vm.currentOpcode = opcodeTofStart) :
    (evaluate timerFamily timerEvent p e).words site =
      let running := hasFlag (p.memory site.place2) timerFlagRunning &&
        decide (timerElapsedValue (p.memory site.place0) (p.memory site.place1)
          (p.memory site.place2) (UInt32.ofNat (e.result timerFamily p.memory).readTime) <
            p.memory site.place1)
      if e.input then ⟨0, preset, timerPackFlags timerModeTof true false true⟩
      else if timerInput p.events then
        ⟨UInt32.ofNat (e.result timerFamily p.memory).latchTime, preset,
          if preset = 0 then timerPackFlags timerModeTof false false false
          else timerPackFlags timerModeTof false true true⟩
      else
        ⟨if hasFlag (p.memory site.place2) timerFlagRunning then p.memory site.place0 else 0, preset,
          if running then timerPackFlags timerModeTof false true true
          else timerPackFlags timerModeTof false false false⟩ := by
  have hstart : opcodeIsTimerStart e.vm.currentOpcode = true := by rw [hopcode]; rfl
  have hpending := timer_pending hr.runs hr.addressed hstart
  have hdata := timer_writing hr.runs hr.addressed
  have hpreset := hr.runs.preset hstart
  have himmediate : (e.writing timerFamily p.memory).currentImmediateU32 = preset := hpreset
  have hwriting : (e.writing timerFamily p.memory).currentOpcode = opcodeTofStart := hopcode
  rw [timer_wrote hr.runs hr.addressed (by rw [hopcode]; rfl)]
  generalize e.writing timerFamily p.memory = s at hpending hdata himmediate hwriting ⊢
  have hnot : opcodeIsTimerReset opcodeTofStart = false := rfl
  have hne : opcodeTofStart ≠ opcodeTonStart := by decide
  have hhigh := h.flags_eq.1
  simp only [timerWord0, timerWord1, timerFlags, hwriting, hpending, hnot, hne, hdata, timerLatch,
    himmediate, hpreset, hhigh]
  cases e.input with
  | true => simp
  | false =>
    cases timerInput p.events with
    | true => simp
    | false => simp

theorem elapsed_lt (h : TofInv preset site p) (hr : TofRuns preset site p e)
    (hreset : opcodeIsTimerReset e.vm.currentOpcode = false) {t : Nat}
    (hfell : tofFell p.events = some t) (hnot : tofExpired preset.toNat p.events = false) :
    (timerElapsedValue (p.memory site.place0) (p.memory site.place1) (p.memory site.place2)
        (UInt32.ofNat (e.result timerFamily p.memory).readTime) < p.memory site.place1) ↔
      ¬preset.toNat ≤ (e.result timerFamily p.memory).readTime - t := by
  have hwords := h.running t hfell hnot
  have h0 : p.memory site.place0 = UInt32.ofNat t := congrArg EntryWords.word0 hwords
  have h1 : p.memory site.place1 = preset := congrArg EntryWords.word1 hwords
  have h2 : p.memory site.place2 = timerPackFlags timerModeTof false true true :=
    congrArg EntryWords.flags hwords
  obtain ⟨hmode, -, hrunning, -⟩ :=
    timerPackFlags_flags timerModeTof false true true (.inr (.inl rfl))
  have hne : timerModeTof ≠ timerModeTon := by decide
  have hdelta := delta_eq hr hreset hfell hnot
  simp only [timerElapsedValue, h0, h1, h2, hmode, hrunning, hne, if_false, true_or, if_true]
  split
  · rename_i hle
    rw [UInt32.le_iff_toNat_le, hdelta] at hle
    rw [UInt32.lt_iff_toNat_lt]
    omega
  · rename_i hle
    rw [UInt32.le_iff_toNat_le, hdelta] at hle
    rw [UInt32.lt_iff_toNat_lt, hdelta]
    omega

/-- A start with a false input latches the time of a fall, or finds a running timer over or not. -/
theorem evaluate_low (h : TofInv preset site p) (hr : TofRuns preset site p e)
    (hopcode : e.vm.currentOpcode = opcodeTofStart) (hinput : e.input = false) :
    TofInv preset site (evaluate timerFamily timerEvent p e) := by
  have hstart : opcodeIsTimerStart e.vm.currentOpcode = true := by rw [hopcode]; rfl
  have hreset : opcodeIsTimerReset e.vm.currentOpcode = false := by rw [hopcode]; rfl
  have hevents : (evaluate timerFamily timerEvent p e).events =
      .start false (e.result timerFamily p.memory).readTime
        (e.result timerFamily p.memory).latchTime :: p.events := by
    simp [evaluate, timerEvent, hstart, hinput]
  have hwords := h.start_words hr hopcode
  rw [hinput, if_neg Bool.false_ne_true] at hwords
  have hzero : preset = 0 ↔ preset.toNat = 0 := (UInt32.toNat_inj (b := 0)).symm
  have hflags : (evaluate timerFamily timerEvent p e).memory site.place2 =
      ((evaluate timerFamily timerEvent p e).words site).flags := rfl
  have hexpired (t : Nat) (hlow : timerInput p.events = false)
      (hfell : tofFell p.events = some t) :
      tofExpired preset.toNat (evaluate timerFamily timerEvent p e).events =
        (tofExpired preset.toNat p.events ||
          decide (preset.toNat ≤ (e.result timerFamily p.memory).readTime - t)) := by
    rw [hevents, tofExpired, hlow, if_neg Bool.false_ne_true, hfell]
    rfl
  have hfell : tofFell (evaluate timerFamily timerEvent p e).events =
      if timerInput p.events then some (e.result timerFamily p.memory).latchTime
      else tofFell p.events := by
    rw [hevents, tofFell, if_neg Bool.false_ne_true]
  constructor
  · intro hhigh
    rw [hevents] at hhigh
    cases hhigh
  · intro t ht hnot
    rw [hfell] at ht
    cases hhigh : timerInput p.events with
    | true =>
      rw [hhigh, if_pos rfl] at hwords ht
      obtain rfl := Option.some.inj ht
      rw [hevents, tofExpired, hhigh, if_pos rfl, Bool.not_false, Bool.true_and,
        decide_eq_false_iff_not] at hnot
      rw [hwords, if_neg (mt hzero.mp hnot)]
    | false =>
      rw [hhigh, if_neg Bool.false_ne_true] at hwords ht
      rw [hexpired t hhigh ht, Bool.or_eq_false_iff, decide_eq_false_iff_not] at hnot
      have hold := h.running t ht hnot.1
      have h0 : p.memory site.place0 = UInt32.ofNat t := congrArg EntryWords.word0 hold
      have hrunning := h.flags_eq.2.mpr ⟨t, ht, hnot.1⟩
      have hlt := (h.elapsed_lt hr hreset ht hnot.1).mpr hnot.2
      rw [hwords]
      simp only [hrunning, hlt, if_true, decide_true, Bool.and_self]
      rw [h0]
  · intro _ hover
    right
    rw [hflags, hwords]
    cases hhigh : timerInput p.events with
    | true =>
      rw [hhigh, if_pos rfl] at hfell
      have hdone := hover _ hfell
      rw [hevents, tofExpired, hhigh, if_pos rfl, Bool.not_false, Bool.true_and,
        decide_eq_true_eq] at hdone
      simp only [if_true, hzero.mpr hdone]
    | false =>
      rw [hhigh, if_neg Bool.false_ne_true] at hfell
      simp only [Bool.false_eq_true, if_false]
      cases hrunning : hasFlag (p.memory site.place2) timerFlagRunning with
      | false => simp
      | true =>
        obtain ⟨t, ht, hnot⟩ := h.flags_eq.2.mp hrunning
        have hdone := hover t (hfell.trans ht)
        rw [hexpired t hhigh ht, hnot, Bool.false_or, decide_eq_true_eq] at hdone
        have hge := mt (h.elapsed_lt hr hreset ht hnot).mp (not_not_intro hdone)
        simp [hge]

theorem evaluate_start (h : TofInv preset site p) (hr : TofRuns preset site p e)
    (hopcode : e.vm.currentOpcode = opcodeTofStart) :
    TofInv preset site (evaluate timerFamily timerEvent p e) := by
  have hstart : opcodeIsTimerStart e.vm.currentOpcode = true := by rw [hopcode]; rfl
  have hreset : opcodeIsTimerReset e.vm.currentOpcode = false := by rw [hopcode]; rfl
  have hevents : (evaluate timerFamily timerEvent p e).events =
      .start e.input (e.result timerFamily p.memory).readTime
        (e.result timerFamily p.memory).latchTime :: p.events := by
    simp [evaluate, timerEvent, hstart]
  have hwords := h.start_words hr hopcode
  have hzero : preset = 0 ↔ preset.toNat = 0 := (UInt32.toNat_inj (b := 0)).symm
  have hflags : (evaluate timerFamily timerEvent p e).memory site.place2 =
      ((evaluate timerFamily timerEvent p e).words site).flags := rfl
  cases hinput : e.input with
  | true =>
    simp only [hinput, if_true] at hwords
    constructor
    · intro _
      rw [hflags, hwords]
    · intro t hfell
      rw [hevents, tofFell, if_pos hinput] at hfell
      cases hfell
    · intro hlow
      rw [hevents] at hlow
      cases hinput.symm.trans hlow
  | false => exact h.evaluate_low hr hopcode hinput

theorem evaluate_reset (hr : TofRuns preset site p e)
    (hstart : opcodeIsTimerStart e.vm.currentOpcode = false)
    (hreset : opcodeIsTimerReset e.vm.currentOpcode = true)
    (hread : opcodeIsTimerRead e.vm.currentOpcode = false) :
    TofInv preset site (evaluate timerFamily timerEvent p e) := by
  have hevents : (evaluate timerFamily timerEvent p e).events = .reset :: p.events := by
    simp [evaluate, timerEvent, hstart, hreset]
  have hwords := timer_reset hr.runs hr.addressed hreset hread
  constructor
  · intro hhigh
    rw [hevents] at hhigh
    cases hhigh
  · intro t hfell
    rw [hevents] at hfell
    cases hfell
  · intro _ _
    exact .inl (congrArg EntryWords.flags hwords)

theorem reading_eq (h : TofInv preset site p) (hr : TofRuns preset site p e)
    (hopcode : e.vm.currentOpcode = opcodeTofDone) :
    (p.words site).reading e.vm.currentOpcode
        (UInt32.ofNat (e.result timerFamily p.memory).readTime) =
      some ⟨boolWord (tofDone preset.toNat p.events (e.result timerFamily p.memory).readTime),
        .bool⟩ := by
  rw [EntryWords.reading, if_pos (by rw [hopcode]; rfl), h.doneLive_eq hr (by rw [hopcode]; rfl)]

theorem done_of_read (hr : TofRuns preset site p e)
    (hread : opcodeIsTimerRead e.vm.currentOpcode = true) :
    e.vm.currentOpcode = opcodeTofDone := by
  have hmem := hr.runs.family
  simp only [TimerKind.opcodes, List.mem_cons, List.not_mem_nil, or_false] at hmem
  obtain hopcode | hopcode | hopcode := hmem
  · rw [hopcode] at hread
    exact absurd hread (by decide)
  · rw [hopcode] at hread
    exact absurd hread (by decide)
  · exact hopcode

theorem evaluate (h : TofInv preset site p) (hr : TofRuns preset site p e) :
    TofInv preset site (evaluate timerFamily timerEvent p e) := by
  cases TimerKind.uses_of_mem hr.runs.family with
  | start hopcode => exact h.evaluate_start hr hopcode
  | reset _ hstart hreset hread => exact evaluate_reset hr hstart hreset hread
  | read hstart hreset hread =>
    obtain ⟨hwords, hevents, -⟩ := timer_read hr.runs hr.addressed hstart hreset
      (h.reading_eq hr (done_of_read hr hread))
    have hflags : (EntryHistory.evaluate timerFamily timerEvent p e).memory site.place2 =
        p.memory site.place2 := congrArg EntryWords.flags hwords
    constructor
    · rw [hevents, hflags]
      exact h.high
    · rw [hevents, hwords]
      exact h.running
    · rw [hevents, hflags]
      exact h.idle

theorem between (h : TofInv preset site p) {memory : Words} (hspares : Spares site p.memory memory)
    (prepared : UInt32) : TofInv preset site ⟨memory, prepared, p.events⟩ := by
  constructor
  · exact fun hhigh => hspares.word2.trans (h.high hhigh)
  · rw [words_of_spares hspares]
    exact h.running
  · intro hlow hover
    simpa only [hspares.word2] using h.idle hlow hover

theorem follows (h : TofInv preset site p) (hr : TofRuns preset site p e) :
    TofFollows preset p e where
  done := fun hopcode =>
    (timer_read hr.runs hr.addressed (by rw [hopcode]; rfl) (by rw [hopcode]; rfl)
      (h.reading_eq hr hopcode)).2.2

end TofInv

theorem tofInv_fresh {preset : UInt32} {site : Site} {memory : Words}
    (hfresh : memory site.place2 = 0) (prepared : UInt32) :
    TofInv preset site ⟨memory, prepared, []⟩ where
  high := fun hhigh => by cases hhigh
  running := fun t hfell => by cases hfell
  idle := fun _ _ => .inl hfresh

/-- Along every history of one timer whose flags were clear, in which the readers and the resets
find the entry's address, the `TON` readers push by the anchor that the starts latched, and
`TOF_DONE` by the input and the time of its last fall. -/
theorem timers_follow {preset : UInt32} {site : Site} {memory : Words} {prepared : UInt32}
    (hfresh : memory site.place2 = 0) (acts : List EntryAct) :
    (Along (next timerFamily timerEvent) (Each site (TonRuns preset site)) ⟨memory, prepared, []⟩
        acts →
      Along (next timerFamily timerEvent) (Shown (TonFollows preset)) ⟨memory, prepared, []⟩
        acts) ∧
    (Along (next timerFamily timerEvent) (Each site (TofRuns preset site)) ⟨memory, prepared, []⟩
        acts →
      Along (next timerFamily timerEvent) (Shown (TofFollows preset)) ⟨memory, prepared, []⟩
        acts) := by
  constructor
  · intro h
    exact shown_of_each (TonInv preset site) (fun _ _ hinv hr => hinv.evaluate hr)
      (fun _ _ prepared hinv hspares => hinv.between hspares prepared)
      (fun _ _ hinv hr => hinv.follows hr) (tonInv_fresh hfresh prepared) h
  · intro h
    exact shown_of_each (TofInv preset site) (fun _ _ hinv hr => hinv.evaluate hr)
      (fun _ _ prepared hinv hspares => hinv.between hspares prepared)
      (fun _ _ hinv hr => hinv.follows hr) (tofInv_fresh hfresh prepared) h

/-- A start of a timer of one second, and a reader that finds an address in the register. -/
def secondStart (index : UInt16) (opcode : UInt8) (input : UInt32) (time : Nat) :
    EntryEvaluation :=
  promptEntry .timerPrepStart index opcode 1000 (.ofList [⟨input, .bool⟩]) time

def secondRead (opcode : UInt8) (prepared : UInt32) (time : Nat) : EntryEvaluation :=
  (promptEntry .timerReadWord0 0 opcode 0 .empty time).addressed prepared

section
variable {kind : TimerKind} {opcode : UInt8} {input : UInt32} {time : Nat} {p : TimerHistory}

theorem secondStart_runs (hfamily : opcode ∈ kind.opcodes)
    (hstart : opcodeIsTimerStart opcode = true)
    (hdone : ((secondStart 0 opcode input time).result timerFamily p.memory).vm.state = .fetchOpcode)
    (horder : ∀ event ∈ p.events,
      event.Before ((secondStart 0 opcode input time).result timerFamily p.memory).readTime) :
    kind.Runs 1000 firstSite p (secondStart 0 opcode input time) where
  onEntry := ⟨⟨.inl rfl, rfl, hdone⟩, rfl, rfl, (if_pos hstart).symm,
    fun hnot => (by cases hstart.symm.trans hnot), fun _ => hstart⟩
  family := hfamily
  preset := fun _ => rfl
  order := horder

theorem secondRead_runs {base : UInt32} (hfamily : opcode ∈ kind.opcodes)
    (hstart : opcodeIsTimerStart opcode = false) (hprepared : base = p.prepared)
    (hevents : p.events ≠ [])
    (hdone : ((secondRead opcode base time).result timerFamily p.memory).vm.state = .fetchOpcode)
    (horder : ∀ event ∈ p.events,
      event.Before ((secondRead opcode base time).result timerFamily p.memory).readTime) :
    kind.Runs 1000 firstSite p (secondRead opcode base time) where
  onEntry := ⟨⟨.inr rfl, rfl, hdone⟩, rfl, rfl,
    (if_neg (by rw [secondRead, EntryEvaluation.addressed, promptEntry, hstart]; simp)).symm,
    fun _ => hprepared, fun hnil => absurd hnil hevents⟩
  family := hfamily
  preset := fun h => by cases hstart.symm.trans h
  order := horder

end

/-- A timer that is read when its time is up, after another timer has been started and it has been
started again; and one that is read after the input has fallen. -/
def tonSecond : List EntryAct :=
  let start := secondStart 0 opcodeTonStart 1 0
  [.own start,
    other timerFamily (evaluate timerFamily timerEvent ⟨fun _ => 0, 16, []⟩ start)
      (secondStart 1 opcodeTonStart 1 0),
    .own (secondStart 0 opcodeTonStart 1 1), .own (secondRead opcodeTonDone 16 1000)]

def tofSecond : List EntryAct :=
  [.own (secondStart 0 opcodeTofStart 1 0), .own (secondStart 0 opcodeTofStart 0 5),
    .own (secondRead opcodeTofDone 16 500)]

theorem timers_follow_second :
    Along (next timerFamily timerEvent) (Shown (TonFollows 1000)) ⟨fun _ => 0, 16, []⟩
        tonSecond ∧
      Along (next timerFamily timerEvent) (Shown (TofFollows 1000)) ⟨fun _ => 0, 16, []⟩
        tofSecond := by
  have hearly {n : Nat} (h : n < 4294967296) (t : Nat) : n - t < 4294967296 :=
    Nat.lt_of_le_of_lt (Nat.sub_le n t) h
  suffices hruns :
      Along (next timerFamily timerEvent) (Each firstSite (TonRuns 1000 firstSite))
          ⟨fun _ => 0, 16, []⟩ tonSecond ∧
        Along (next timerFamily timerEvent) (Each firstSite (TofRuns 1000 firstSite))
          ⟨fun _ => 0, 16, []⟩ tofSecond from
    ⟨(timers_follow rfl _).1 hruns.1, (timers_follow rfl _).2 hruns.2⟩
  constructor
  · refine ⟨⟨secondStart_runs ?_ ?_ ?_ ?_, ?_, fun _ t _ _ => hearly ?_ t⟩, ⟨?_, ?_, ?_⟩,
      ⟨secondStart_runs ?_ ?_ ?_ ?_, ?_, fun _ t _ _ => hearly ?_ t⟩,
      ⟨secondRead_runs ?_ ?_ ?_ ?_ ?_ ?_, ?_, fun _ t _ _ => hearly ?_ t⟩, trivial⟩
    all_goals decide +kernel
  · refine ⟨⟨secondStart_runs ?_ ?_ ?_ ?_, ?_, fun _ t _ _ => hearly ?_ t⟩,
      ⟨secondStart_runs ?_ ?_ ?_ ?_, ?_, fun _ t _ _ => hearly ?_ t⟩,
      ⟨secondRead_runs ?_ ?_ ?_ ?_ ?_ ?_, ?_, fun _ t _ _ => hearly ?_ t⟩, trivial⟩
    all_goals decide +kernel

/-- Less than the period of the millisecond counter after the start. -/
def TimerEvent.Within : TimerEvent → Nat → Prop
  | start _ readTime _, now => now - readTime < 4294967296
  | reset, _ => True

instance TimerEvent.Within.decidable :
    ∀ (event : TimerEvent) (now : Nat), Decidable (event.Within now)
  | start _ readTime _, now => inferInstanceAs (Decidable (now - readTime < 4294967296))
  | reset, _ => inferInstanceAs (Decidable True)

/-- An evaluation less than the period of the counter after the one before it. -/
def TonGaps (p : TimerHistory) (e : EntryEvaluation) : Prop :=
  TimerKind.ton.Runs 1000 firstSite p e ∧
    ∀ event ∈ p.events.head?, event.Within (e.result timerFamily p.memory).readTime

/-- A timer of one second that is read when its time is up; before that another timer is started
with a false input. -/
def tonTakenOver : List EntryAct :=
  let start := secondStart 0 opcodeTonStart 1 0
  [.own start,
    other timerFamily (evaluate timerFamily timerEvent ⟨fun _ => 0, 16, []⟩ start)
      (secondStart 1 opcodeTonStart 0 0),
    .own (secondRead opcodeTonDone 32 1000)]

/-- A timer of one second whose third start comes a whole period of the counter after the first. -/
def wrappedStarts : List EntryAct :=
  [.own (secondStart 0 opcodeTonStart 1 0), .own (secondStart 0 opcodeTonStart 1 1),
    .own (secondStart 0 opcodeTonStart 1 4294967296),
    .own (secondRead opcodeTonDone 16 4294967296)]

/-- Neither timer is reported done, although its input has been high for a second: the reader of
the first finds the address of the other timer. -/
theorem timers_not_follow :
    (Along (next timerFamily timerEvent) (Each firstSite TonGaps) ⟨fun _ => 0, 16, []⟩
        tonTakenOver ∧
      ¬Along (next timerFamily timerEvent) (Shown (TonFollows 1000)) ⟨fun _ => 0, 16, []⟩
        tonTakenOver) ∧
    Along (next timerFamily timerEvent) (Each firstSite TonGaps) ⟨fun _ => 0, 16, []⟩
        wrappedStarts ∧
      ¬Along (next timerFamily timerEvent) (Shown (TonFollows 1000)) ⟨fun _ => 0, 16, []⟩
        wrappedStarts := by
  refine ⟨⟨?_, fun h => ?_⟩, ?_, fun h => ?_⟩
  · refine ⟨⟨secondStart_runs ?_ ?_ ?_ ?_, ?_⟩, ⟨?_, ?_, ?_⟩,
      ⟨secondRead_runs ?_ ?_ ?_ ?_ ?_ ?_, ?_⟩, trivial⟩
    all_goals decide +kernel
  · have hdone := h.2.2.1.done rfl
    revert hdone
    decide +kernel
  · refine ⟨⟨secondStart_runs ?_ ?_ ?_ ?_, ?_⟩, ⟨secondStart_runs ?_ ?_ ?_ ?_, ?_⟩,
      ⟨secondStart_runs ?_ ?_ ?_ ?_, ?_⟩, ⟨secondRead_runs ?_ ?_ ?_ ?_ ?_ ?_, ?_⟩, trivial⟩
    all_goals decide +kernel
  · have hdone := h.2.2.2.1.done rfl
    revert hdone
    decide +kernel

end NodeNet.Vm

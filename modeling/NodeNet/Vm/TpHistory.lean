import NodeNet.Vm.TofHistory

/-! What `TP_DONE` on one entry pushes, by the starts so far. -/
namespace NodeNet.Vm
open NodeNet.Bitmap NodeNet.Machine EntryHistory

/-- The pulse that began at the anchor is not over. -/
def tpRunning (preset : Nat) (pulse : Option Nat) (now : Nat) : Bool :=
  pulse.any fun t => now - t < preset

/-- The anchor of the last pulse: a start begins one when it sees the input rise and none runs. -/
def tpPulse (preset : Nat) : List TimerEvent → Option Nat
  | .start input readTime latchTime :: past =>
    if !tpRunning preset (tpPulse preset past) readTime && input && !timerInput past then
      some latchTime
    else tpPulse preset past
  | _ => none

/-- The last start found a pulse running or began one. -/
def tpActive (preset : Nat) : List TimerEvent → Bool
  | .start input readTime _ :: past =>
    tpRunning preset (tpPulse preset past) readTime || (input && !timerInput past)
  | _ => false

def tpDone (preset : Nat) (events : List TimerEvent) (now : Nat) : Bool :=
  tpRunning preset (tpPulse preset events) now

/-- `TP_DONE` pushes whether the pulse is not over; a start leaves the pulse in the entry. -/
structure TpFollows (preset : UInt32) (site : Site) (p : TimerHistory) (e : EntryEvaluation) :
    Prop where
  done : e.vm.currentOpcode = opcodeTpDone →
    (e.result timerFamily p.memory).vm.data.stack =
      e.vm.data.stack.push
        (boolWord (tpDone preset.toNat p.events (e.result timerFamily p.memory).readTime)) .bool
  pulse : e.vm.currentOpcode = opcodeTpStart →
    let p' := evaluate timerFamily timerEvent p e
    hasFlag (p'.words site).flags timerFlagDone = tpActive preset.toNat p'.events ∧
      (tpActive preset.toNat p'.events = true → preset ≠ 0 →
        ∃ t, tpPulse preset.toNat p'.events = some t ∧ (p'.words site).word0 = UInt32.ofNat t)

/-- The reader and the reset find the entry's address; while the last start left a pulse running,
`TP_DONE` is not evaluated when the pulse is over, and no start when the counter has come round. -/
structure TpRuns (preset : UInt32) (site : Site) (p : TimerHistory) (e : EntryEvaluation) : Prop
    where
  runs : TimerKind.tp.Runs preset site p e
  addressed : AtEntry opcodeIsTimerStart site p e
  inTime : e.vm.currentOpcode = opcodeTpStart → ∀ t, tpPulse preset.toNat p.events = some t →
    tpActive preset.toNat p.events = true →
    (e.result timerFamily p.memory).readTime - t < 4294967296
  notOver : e.vm.currentOpcode = opcodeTpDone → ∀ t, tpPulse preset.toNat p.events = some t →
    tpActive preset.toNat p.events = true →
    (e.result timerFamily p.memory).readTime - t < preset.toNat

/-- The words of the entry with a pulse and without. -/
structure TpInv (preset : UInt32) (site : Site) (p : TimerHistory) : Prop where
  active : ∀ t, tpPulse preset.toNat p.events = some t → tpActive preset.toNat p.events = true →
    preset ≠ 0 →
    p.words site = ⟨UInt32.ofNat t, preset,
      timerPackFlags timerModeTp (timerInput p.events) true true⟩
  empty : tpActive preset.toNat p.events = true → preset = 0 →
    p.memory site.place2 = timerPackFlags timerModeTp (timerInput p.events) false true
  idle : tpActive preset.toNat p.events = false →
    timerInput p.events = false ∧ p.memory site.place2 = 0 ∨
      p.memory site.place2 = timerPackFlags timerModeTp (timerInput p.events) false false

variable {events : List TimerEvent}

theorem tpPulse_le {preset : Nat} {t now : Nat} (horder : ∀ event ∈ events, event.Before now)
    (h : tpPulse preset events = some t) : t ≤ now := by
  induction events with
  | nil => cases h
  | cons event past ih =>
    cases event with
    | reset => cases h
    | start input readTime latchTime =>
      rw [tpPulse] at h
      split at h
      · obtain rfl := Option.some.inj h
        exact (horder _ (List.mem_cons_self ..)).2
      · exact ih (fun event h => horder event (List.mem_cons_of_mem _ h)) h

theorem tpPulse_of_active {preset : Nat} (h : tpActive preset events = true) :
    ∃ t, tpPulse preset events = some t := by
  cases events with
  | nil => cases h
  | cons event past =>
    cases event with
    | reset => cases h
    | start input readTime latchTime =>
      rw [tpPulse]
      split
      · exact ⟨latchTime, rfl⟩
      · rename_i hnot
        rw [tpActive] at h
        cases hrunning : tpRunning preset (tpPulse preset past) readTime with
        | true =>
          cases hpulse : tpPulse preset past with
          | none => simp [tpRunning, hpulse] at hrunning
          | some t => exact ⟨t, rfl⟩
        | false => simp [hrunning] at h hnot; simp [h] at hnot

theorem tpRunning_of_not_active {preset : Nat} {now : Nat}
    (horder : ∀ event ∈ events, event.Before now) (h : tpActive preset events = false) :
    tpRunning preset (tpPulse preset events) now = false := by
  cases events with
  | nil => rfl
  | cons event past =>
    cases event with
    | reset => rfl
    | start input readTime latchTime =>
      have hread : readTime ≤ now := (horder _ (List.mem_cons_self ..)).1
      rw [tpActive, Bool.or_eq_false_iff] at h
      rw [tpPulse, if_neg (by simp [Bool.and_assoc, h.2])]
      cases hpulse : tpPulse preset past with
      | none => rfl
      | some t =>
        have hover := h.1
        rw [hpulse, tpRunning, Option.any_some, decide_eq_false_iff_not] at hover
        rw [tpRunning, Option.any_some, decide_eq_false_iff_not]
        omega

namespace TpInv
variable {preset : UInt32} {site : Site} {p : TimerHistory} {e : EntryEvaluation}

theorem flags_eq (h : TpInv preset site p) :
    hasFlag (p.memory site.place2) timerFlagInputHigh = timerInput p.events ∧
      hasFlag (p.memory site.place2) timerFlagRunning =
        (tpActive preset.toNat p.events && decide (preset ≠ 0)) ∧
      hasFlag (p.memory site.place2) timerFlagDone = tpActive preset.toNat p.events := by
  have hpack (running done : Bool) :=
    timerPackFlags_flags timerModeTp (timerInput p.events) running done (.inr (.inr rfl))
  cases hactive : tpActive preset.toNat p.events with
  | true =>
    by_cases hzero : preset = 0
    · rw [h.empty hactive hzero]
      simpa [hzero] using (hpack false true).2
    · obtain ⟨t, hpulse⟩ := tpPulse_of_active hactive
      have hflags : p.memory site.place2 =
          timerPackFlags timerModeTp (timerInput p.events) true true :=
        congrArg EntryWords.flags (h.active t hpulse hactive hzero)
      rw [hflags]
      simpa [hzero] using (hpack true true).2
  | false =>
    obtain ⟨hlow, hflags⟩ | hflags := h.idle hactive
    · rw [hflags, hlow]
      exact ⟨rfl, rfl, rfl⟩
    · rw [hflags]
      simpa using (hpack false false).2

theorem running_eq (h : TpInv preset site p) (hr : TpRuns preset site p e)
    (hopcode : e.vm.currentOpcode = opcodeTpStart) :
    (hasFlag (p.memory site.place2) timerFlagRunning &&
      decide (timerElapsedValue (p.memory site.place0) (p.memory site.place1)
        (p.memory site.place2) (UInt32.ofNat (e.result timerFamily p.memory).readTime) <
          p.memory site.place1)) =
      tpRunning preset.toNat (tpPulse preset.toNat p.events)
        (e.result timerFamily p.memory).readTime := by
  rw [h.flags_eq.2.1]
  cases hactive : tpActive preset.toNat p.events with
  | false => simp [tpRunning_of_not_active hr.runs.order hactive]
  | true =>
    obtain ⟨t, hpulse⟩ := tpPulse_of_active hactive
    rw [hpulse, tpRunning, Option.any_some, Bool.true_and]
    by_cases hzero : preset = 0
    · simp [hzero]
    · have hwords := h.active t hpulse hactive hzero
      have h0 : p.memory site.place0 = UInt32.ofNat t := congrArg EntryWords.word0 hwords
      have h1 : p.memory site.place1 = preset := congrArg EntryWords.word1 hwords
      have h2 : p.memory site.place2 = timerPackFlags timerModeTp (timerInput p.events) true true :=
        congrArg EntryWords.flags hwords
      obtain ⟨hmode, -, hrunning, -⟩ :=
        timerPackFlags_flags timerModeTp (timerInput p.events) true true (.inr (.inr rfl))
      have hton : timerModeTp ≠ timerModeTon := by decide
      have hdelta := ofNat_sub_ofNat (tpPulse_le hr.runs.order hpulse)
        (hr.inTime hopcode t hpulse hactive)
      rw [decide_eq_true hzero, Bool.true_and]
      refine decide_eq_decide.mpr ?_
      simp only [timerElapsedValue, h0, h1, h2, hmode, hrunning, hton, if_false, or_true, if_true]
      split
      · rename_i hle
        rw [UInt32.le_iff_toNat_le, hdelta] at hle
        rw [UInt32.lt_iff_toNat_lt]
        omega
      · rw [UInt32.lt_iff_toNat_lt, hdelta]

theorem start_words (h : TpInv preset site p) (hr : TpRuns preset site p e)
    (hopcode : e.vm.currentOpcode = opcodeTpStart) :
    (evaluate timerFamily timerEvent p e).words site =
      if tpRunning preset.toNat (tpPulse preset.toNat p.events)
          (e.result timerFamily p.memory).readTime then
        ⟨p.memory site.place0, preset, timerPackFlags timerModeTp e.input true true⟩
      else if e.input && !timerInput p.events then
        ⟨UInt32.ofNat (e.result timerFamily p.memory).latchTime, preset,
          timerPackFlags timerModeTp true (preset ≠ 0) true⟩
      else ⟨0, preset, timerPackFlags timerModeTp e.input false false⟩ := by
  have hstart : opcodeIsTimerStart e.vm.currentOpcode = true := by rw [hopcode]; rfl
  have hpending := timer_pending hr.runs hr.addressed hstart
  have hdata := timer_writing hr.runs hr.addressed
  have hpreset := hr.runs.preset hstart
  have himmediate : (e.writing timerFamily p.memory).currentImmediateU32 = preset := hpreset
  have hwriting : (e.writing timerFamily p.memory).currentOpcode = opcodeTpStart := hopcode
  have hrunning := h.running_eq hr hopcode
  rw [timer_wrote hr.runs hr.addressed (by rw [hopcode]; rfl)]
  generalize e.writing timerFamily p.memory = s at hpending hdata himmediate hwriting ⊢
  have hnot : opcodeIsTimerReset opcodeTpStart = false := rfl
  have hton : opcodeTpStart ≠ opcodeTonStart := by decide
  have htof : opcodeTpStart ≠ opcodeTofStart := by decide
  simp only [timerWord0, timerWord1, timerFlags, hwriting, hpending, hnot, hton, htof, hdata,
    timerLatch, himmediate, hpreset, h.flags_eq.1, hrunning, Bool.false_eq_true, false_or,
    false_and, if_false]
  cases tpRunning preset.toNat (tpPulse preset.toNat p.events)
    (e.result timerFamily p.memory).readTime with
  | true => simp
  | false =>
    cases e.input with
    | false => simp
    | true => cases timerInput p.events <;> simp

theorem evaluate_start (h : TpInv preset site p) (hr : TpRuns preset site p e)
    (hopcode : e.vm.currentOpcode = opcodeTpStart) :
    TpInv preset site (evaluate timerFamily timerEvent p e) := by
  have hstart : opcodeIsTimerStart e.vm.currentOpcode = true := by rw [hopcode]; rfl
  have hevents : (evaluate timerFamily timerEvent p e).events =
      .start e.input (e.result timerFamily p.memory).readTime
        (e.result timerFamily p.memory).latchTime :: p.events := by
    simp [evaluate, timerEvent, hstart]
  have hwords := h.start_words hr hopcode
  have hflags : (evaluate timerFamily timerEvent p e).memory site.place2 =
      ((evaluate timerFamily timerEvent p e).words site).flags := rfl
  have hinput : timerInput (evaluate timerFamily timerEvent p e).events = e.input := by
    rw [hevents]
    rfl
  have hactive : tpActive preset.toNat (evaluate timerFamily timerEvent p e).events =
      (tpRunning preset.toNat (tpPulse preset.toNat p.events)
        (e.result timerFamily p.memory).readTime || (e.input && !timerInput p.events)) := by
    rw [hevents]
    rfl
  have hpulse : tpPulse preset.toNat (evaluate timerFamily timerEvent p e).events =
      if !tpRunning preset.toNat (tpPulse preset.toNat p.events)
          (e.result timerFamily p.memory).readTime && e.input && !timerInput p.events then
        some (e.result timerFamily p.memory).latchTime
      else tpPulse preset.toNat p.events := by
    rw [hevents]
    rfl
  cases hrunning : tpRunning preset.toNat (tpPulse preset.toNat p.events)
      (e.result timerFamily p.memory).readTime with
  | true =>
    -- the anchor of the running pulse is kept
    rw [hrunning] at hwords hactive hpulse
    simp only [if_true, Bool.true_or, Bool.not_true, Bool.false_and, Bool.false_eq_true,
      if_false] at hwords hactive hpulse
    have hold : ∃ t, tpPulse preset.toNat p.events = some t ∧
        tpActive preset.toNat p.events = true ∧ preset ≠ 0 := by
      cases hactive : tpActive preset.toNat p.events with
      | false => cases hrunning.symm.trans (tpRunning_of_not_active hr.runs.order hactive)
      | true =>
        obtain ⟨t, ht⟩ := tpPulse_of_active hactive
        refine ⟨t, ht, rfl, fun hzero => ?_⟩
        rw [ht, hzero] at hrunning
        simp [tpRunning] at hrunning
    obtain ⟨t, ht, hold, hzero⟩ := hold
    have h0 : p.memory site.place0 = UInt32.ofNat t :=
      congrArg EntryWords.word0 (h.active t ht hold hzero)
    constructor
    · intro t' ht' _ _
      rw [hpulse, ht] at ht'
      obtain rfl := Option.some.inj ht'
      rw [hwords, hinput, h0]
    · exact fun _ hzero' => absurd hzero' hzero
    · intro hidle
      cases hactive.symm.trans hidle
  | false =>
    rw [hrunning] at hwords hactive hpulse
    simp only [Bool.false_eq_true, if_false, Bool.false_or, Bool.not_false,
      Bool.true_and] at hwords hactive hpulse
    cases hrises : e.input && !timerInput p.events with
    | true =>
      -- a pulse begins
      rw [hrises] at hwords hactive hpulse
      rw [if_pos rfl] at hwords hpulse
      have hhigh : e.input = true := by
        rw [Bool.and_eq_true] at hrises
        exact hrises.1
      constructor
      · intro t ht _ hzero
        rw [hpulse] at ht
        obtain rfl := Option.some.inj ht
        rw [hwords, hinput, hhigh, decide_eq_true hzero]
      · intro _ hzero
        rw [hflags, hwords, hinput, hhigh, decide_eq_false (not_not_intro hzero)]
      · intro hidle
        cases hactive.symm.trans hidle
    | false =>
      rw [hrises] at hwords hactive
      rw [if_neg Bool.false_ne_true] at hwords
      constructor
      · intro t _ hnot
        cases hactive.symm.trans hnot
      · intro hnot
        cases hactive.symm.trans hnot
      · intro _
        right
        rw [hflags, hwords, hinput]

theorem evaluate_reset (hr : TpRuns preset site p e)
    (hstart : opcodeIsTimerStart e.vm.currentOpcode = false)
    (hreset : opcodeIsTimerReset e.vm.currentOpcode = true)
    (hread : opcodeIsTimerRead e.vm.currentOpcode = false) :
    TpInv preset site (evaluate timerFamily timerEvent p e) := by
  have hevents : (evaluate timerFamily timerEvent p e).events = .reset :: p.events := by
    simp [evaluate, timerEvent, hstart, hreset]
  have hwords := timer_reset hr.runs hr.addressed hreset hread
  constructor
  · intro t hpulse
    rw [hevents] at hpulse
    cases hpulse
  · intro hactive
    rw [hevents] at hactive
    cases hactive
  · intro _
    rw [hevents]
    exact .inl ⟨rfl, congrArg EntryWords.flags hwords⟩

theorem doneLive_eq (h : TpInv preset site p) (now : UInt32) :
    timerDoneLive (p.words site).word0 (p.words site).word1 (p.words site).flags now =
      tpActive preset.toNat p.events := by
  obtain ⟨-, hrunning, hdone⟩ := h.flags_eq
  change hasFlag (p.words site).flags timerFlagRunning = _ at hrunning
  change hasFlag (p.words site).flags timerFlagDone = _ at hdone
  cases hactive : tpActive preset.toNat p.events with
  | false =>
    have hmode : modeFromFlags (p.words site).flags = 0 ∨
        modeFromFlags (p.words site).flags = timerModeTp := by
      obtain ⟨-, hflags⟩ | hflags := h.idle hactive
      · left
        simp only [EntryHistory.words, hflags]
        decide
      · exact .inr (by
          rw [EntryHistory.words, hflags]
          exact (timerPackFlags_flags _ _ _ _ (.inr (.inr rfl))).1)
    rw [hactive] at hrunning hdone
    have htp : timerModeTp ≠ timerModeTon ∧ timerModeTp ≠ timerModeTof := by decide
    have hnone : (0 : UInt32) ≠ timerModeTon ∧ (0 : UInt32) ≠ timerModeTof ∧
        (0 : UInt32) ≠ timerModeTp := by decide
    obtain hmode | hmode := hmode
    · simp only [timerDoneLive, hmode, hnone.1, hnone.2.1, hnone.2.2, if_false]
    · simp [timerDoneLive, hmode, htp.1, htp.2, hrunning, hdone]
  | true =>
    have hmode : modeFromFlags (p.words site).flags = timerModeTp := by
      by_cases hzero : preset = 0
      · rw [EntryHistory.words, h.empty hactive hzero]
        exact (timerPackFlags_flags _ _ _ _ (.inr (.inr rfl))).1
      · obtain ⟨t, hpulse⟩ := tpPulse_of_active hactive
        rw [h.active t hpulse hactive hzero]
        exact (timerPackFlags_flags _ _ _ _ (.inr (.inr rfl))).1
    rw [hactive] at hdone
    have htp : timerModeTp ≠ timerModeTon ∧ timerModeTp ≠ timerModeTof := by decide
    simp [timerDoneLive, hmode, htp.1, htp.2, hdone]

theorem active_eq (hr : TpRuns preset site p e) (hopcode : e.vm.currentOpcode = opcodeTpDone) :
    tpActive preset.toNat p.events =
      tpDone preset.toNat p.events (e.result timerFamily p.memory).readTime := by
  cases hactive : tpActive preset.toNat p.events with
  | false => exact (tpRunning_of_not_active hr.runs.order hactive).symm
  | true =>
    obtain ⟨t, hpulse⟩ := tpPulse_of_active hactive
    rw [tpDone, hpulse, tpRunning, Option.any_some]
    exact (decide_eq_true (hr.notOver hopcode t hpulse hactive)).symm

theorem reading_eq (h : TpInv preset site p) (hr : TpRuns preset site p e)
    (hopcode : e.vm.currentOpcode = opcodeTpDone) :
    (p.words site).reading e.vm.currentOpcode
        (UInt32.ofNat (e.result timerFamily p.memory).readTime) =
      some ⟨boolWord (tpDone preset.toNat p.events (e.result timerFamily p.memory).readTime),
        .bool⟩ := by
  rw [EntryWords.reading, if_pos (by rw [hopcode]; rfl), h.doneLive_eq, active_eq hr hopcode]

theorem done_of_read (hr : TpRuns preset site p e)
    (hread : opcodeIsTimerRead e.vm.currentOpcode = true) :
    e.vm.currentOpcode = opcodeTpDone := by
  have hmem := hr.runs.family
  simp only [TimerKind.opcodes, List.mem_cons, List.not_mem_nil, or_false] at hmem
  obtain hopcode | hopcode | hopcode := hmem
  · rw [hopcode] at hread
    exact absurd hread (by decide)
  · rw [hopcode] at hread
    exact absurd hread (by decide)
  · exact hopcode

theorem evaluate (h : TpInv preset site p) (hr : TpRuns preset site p e) :
    TpInv preset site (evaluate timerFamily timerEvent p e) := by
  cases TimerKind.uses_of_mem hr.runs.family with
  | start hopcode => exact h.evaluate_start hr hopcode
  | reset _ hstart hreset hread => exact evaluate_reset hr hstart hreset hread
  | read hstart hreset hread =>
    obtain ⟨hwords, hevents, -⟩ := timer_read hr.runs hr.addressed hstart hreset
      (h.reading_eq hr (done_of_read hr hread))
    have hflags : (EntryHistory.evaluate timerFamily timerEvent p e).memory site.place2 =
        p.memory site.place2 := congrArg EntryWords.flags hwords
    constructor
    · rw [hevents, hwords]
      exact h.active
    · rw [hevents, hflags]
      exact h.empty
    · rw [hevents, hflags]
      exact h.idle

theorem between (h : TpInv preset site p) {memory : Words} (hspares : Spares site p.memory memory)
    (prepared : UInt32) : TpInv preset site ⟨memory, prepared, p.events⟩ := by
  constructor
  · rw [words_of_spares hspares]
    exact h.active
  · exact fun hactive hzero => hspares.word2.trans (h.empty hactive hzero)
  · intro hidle
    simpa only [hspares.word2] using h.idle hidle

theorem follows (h : TpInv preset site p) (hr : TpRuns preset site p e) :
    TpFollows preset site p e where
  done := fun hopcode =>
    (timer_read hr.runs hr.addressed (by rw [hopcode]; rfl) (by rw [hopcode]; rfl)
      (h.reading_eq hr hopcode)).2.2
  pulse := by
    intro _
    have hnext := h.evaluate hr
    refine ⟨hnext.flags_eq.2.2, fun hactive hzero => ?_⟩
    obtain ⟨t, hpulse⟩ := tpPulse_of_active hactive
    exact ⟨t, hpulse, congrArg EntryWords.word0 (hnext.active t hpulse hactive hzero)⟩

end TpInv

/-- Along every history of one timer whose flags were clear, in which the readers and the resets
find the entry's address and no `TP_DONE` is evaluated between the end of a pulse and the start that
finds it over, `TP_DONE` pushes whether the pulse is not over. -/
theorem tp_follows {preset : UInt32} {site : Site} {memory : Words} {prepared : UInt32}
    (hfresh : memory site.place2 = 0) {acts : List EntryAct}
    (h : Along (next timerFamily timerEvent) (Each site (TpRuns preset site))
      ⟨memory, prepared, []⟩ acts) :
    Along (next timerFamily timerEvent) (Shown (TpFollows preset site)) ⟨memory, prepared, []⟩
      acts := by
  refine shown_of_each (TpInv preset site) (fun _ _ hinv hr => hinv.evaluate hr)
    (fun _ _ prepared hinv hspares => hinv.between hspares prepared)
    (fun _ _ hinv hr => hinv.follows hr) ?_ h
  constructor
  · intro t hpulse
    cases hpulse
  · intro hactive
    cases hactive
  · exact fun _ => .inl ⟨rfl, hfresh⟩

def pulseSecond : List EntryAct :=
  [.own (secondStart 0 opcodeTpStart 1 0), .own (secondRead opcodeTpDone 16 500)]

theorem pulseSecond_follows :
    Along (next timerFamily timerEvent) (Shown (TpFollows 1000 firstSite)) ⟨fun _ => 0, 16, []⟩
      pulseSecond := by
  have hearly {n k : Nat} (h : n < k) (t : Nat) : n - t < k := Nat.lt_of_le_of_lt (Nat.sub_le n t) h
  suffices hruns : Along (next timerFamily timerEvent) (Each firstSite (TpRuns 1000 firstSite))
      ⟨fun _ => 0, 16, []⟩ pulseSecond from tp_follows rfl hruns
  refine ⟨⟨secondStart_runs ?_ ?_ ?_ ?_, ?_, fun _ t _ _ => hearly ?_ t,
    fun _ t _ _ => hearly ?_ t⟩, ⟨secondRead_runs ?_ ?_ ?_ ?_ ?_ ?_, ?_,
    fun _ t _ _ => hearly ?_ t, fun _ t _ _ => hearly ?_ t⟩, trivial⟩
  all_goals decide +kernel

/-- A pulse of one second that is read two seconds after it began. -/
def pulseOver : List EntryAct :=
  [.own (secondStart 0 opcodeTpStart 1 0), .own (secondRead opcodeTpDone 16 2000)]

/-- A pulse of one second that is read while it runs; before that another timer is started with a
false input. -/
def pulseTakenOver : List EntryAct :=
  let start := secondStart 0 opcodeTpStart 1 0
  [.own start,
    other timerFamily (evaluate timerFamily timerEvent ⟨fun _ => 0, 16, []⟩ start)
      (secondStart 1 opcodeTpStart 0 0),
    .own (secondRead opcodeTpDone 32 500)]

/-- The first pulse is reported although it is over, the second is not although it runs. -/
theorem pulses_not_follow :
    (Along (next timerFamily timerEvent) (Each firstSite (TimerKind.tp.Runs 1000 firstSite))
        ⟨fun _ => 0, 16, []⟩ pulseOver ∧
      ¬Along (next timerFamily timerEvent) (Shown (TpFollows 1000 firstSite))
        ⟨fun _ => 0, 16, []⟩ pulseOver) ∧
    Along (next timerFamily timerEvent) (Each firstSite (TimerKind.tp.Runs 1000 firstSite))
        ⟨fun _ => 0, 16, []⟩ pulseTakenOver ∧
      ¬Along (next timerFamily timerEvent) (Shown (TpFollows 1000 firstSite))
        ⟨fun _ => 0, 16, []⟩ pulseTakenOver := by
  refine ⟨⟨?_, fun h => ?_⟩, ?_, fun h => ?_⟩
  · refine ⟨secondStart_runs ?_ ?_ ?_ ?_, secondRead_runs ?_ ?_ ?_ ?_ ?_ ?_, trivial⟩
    all_goals decide +kernel
  · have hdone := h.2.1.done rfl
    revert hdone
    decide +kernel
  · refine ⟨secondStart_runs ?_ ?_ ?_ ?_, ⟨?_, ?_, ?_⟩, secondRead_runs ?_ ?_ ?_ ?_ ?_ ?_, trivial⟩
    all_goals decide +kernel
  · have hdone := h.2.2.1.done rfl
    revert hdone
    decide +kernel

end NodeNet.Vm

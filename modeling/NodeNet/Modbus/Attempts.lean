import NodeNet.Modbus.Master

/-! The attempts of a transaction, and the bits that they leave in the status. -/
namespace NodeNet.Modbus
open NodeNet.Machine

section
/-- How an attempt ends. -/
inductive Outcome where
  | timeout | badCrc | short | wrongSlave | wrongFunction | exception | good
  deriving DecidableEq

/-- What an answer of these bytes is. -/
def evaluate (r : Registers) (received : List UInt8) : Outcome :=
  if received.length < 4 then .short
  else if crc16 received ≠ 0 then .badCrc
  else if r.slaveAddr ≠ 0 ∧ received.getD 0 0 ≠ r.slaveAddr then .wrongSlave
  else if received.getD 1 0 = r.functionCode ||| 0x80 then .exception
  else if received.getD 1 0 ≠ r.functionCode then .wrongFunction
  else .good

structure Attempts where
  /-- What was received in the attempt under way. -/
  received : List UInt8
  earlier : List Outcome
  last : Option Outcome

def Attempts.start : Attempts := ⟨[], [], none⟩

def attemptEnd (r : Registers) (s : Master) (i : UartOut) (received : List UInt8) :
    Option Outcome :=
  match s.phase with
  | .waitRxStart => if i.rx = none ∧ r.timeoutCycles ≤ s.timeoutCtr then some .timeout else none
  | .waitRxEnd =>
    if i.rx = none ∧ s.gapCtr < r.interframeCycles ∧ r.timeoutCycles ≤ s.timeoutCtr then
      some .timeout
    else none
  | .evalResponse => some (evaluate r received)
  | _ => none

def listens (phase : Phase) : Bool := phase = .waitRxStart || phase = .waitRxEnd

def Attempts.note (n : Attempts) (phase : Phase) (i : UartOut) (done : Bool) :
    Option Outcome → Attempts
  | some o =>
    if done then { n with last := some o }
    else { n with received := [], earlier := n.earlier ++ [o] }
  | none => if listens phase then { n with received := n.received ++ i.rx.toList } else n

def noteAttempt (r : Registers) (s : Master) (i : UartOut) (n : Attempts) : Attempts :=
  n.note s.phase i ((s.clock r i).phase = .done) (attemptEnd r s i n.received)

/-- A transaction with its attempts, from the command to start. -/
def transaction (r : Registers) (line : List UartOut) : Master × Attempts :=
  run (observed (Master.clock r) (noteAttempt r)) (.started, .start) line

def Outcome.error : Outcome → ModbusError
  | .timeout => .HwTimeout
  | .badCrc => .HwCrc
  | .short | .wrongSlave | .wrongFunction => .HwFrame
  | .exception => .HwException
  | .good => .None

/-- The place of an outcome in the driver's chain. -/
def Outcome.rank : Outcome → Nat
  | .timeout => 0
  | .badCrc => 1
  | .short | .wrongSlave | .wrongFunction => 2
  | .exception => 3
  | .good => 4

/-- Whether an attempt ended with this place in the chain. -/
def Attempts.ranked (n : Attempts) (rank : Nat) : Bool :=
  (n.earlier ++ n.last.toList).any fun o => o.rank = rank

/-- The bits of the status are those of all the attempts. -/
structure AttemptsOk (s : Master) (n : Attempts) : Prop where
  frame : s.rxFrame = n.received.take maxFrameBytes
  crc : s.rxCrcFull = crc16 n.received
  fresh : s.phase = .waitPreTxGap ∨ s.phase = .txStream ∨ s.phase = .waitRxStart → n.received = []
  retried : ∀ o ∈ n.earlier, o.rank < 3
  last : n.last.isSome = decide (s.phase = .done)
  timeout : s.status.timeout = n.ranked 0
  crcError : s.status.crcError = n.ranked 1
  frameError : s.status.frameError = n.ranked 2
  exception : s.status.exception = n.ranked 3
  success : s.status.success = n.ranked 4

theorem crc16_concat (bytes : List UInt8) (b : UInt8) :
    crc16 (bytes ++ [b]) = crc16Step (crc16 bytes) b := by
  rw [crc16, List.foldl_append]
  rfl

variable {received : List UInt8} {earlier : List Outcome}

theorem ranked_of_none (rank : Nat) :
    Attempts.ranked ⟨received, earlier, none⟩ rank = earlier.any fun o => o.rank = rank := by
  rw [Attempts.ranked, Option.toList_none, List.append_nil]

theorem ranked_of_last (o : Outcome) (rank : Nat) :
    Attempts.ranked ⟨received, earlier, some o⟩ rank =
      ((earlier.any fun o => o.rank = rank) || decide (o.rank = rank)) := by
  rw [Attempts.ranked, Option.toList_some, List.any_append, List.any_cons, List.any_nil,
    Bool.or_false]

theorem ranked_concat (o : Outcome) (rank : Nat) :
    Attempts.ranked ⟨received, earlier ++ [o], none⟩ rank =
      ((earlier.any fun o => o.rank = rank) || decide (o.rank = rank)) := by
  rw [ranked_of_none, List.any_append, List.any_cons, List.any_nil, Bool.or_false]

variable {r : Registers} {s : Master} {n : Attempts} {i : UartOut}

theorem start_attemptsOk : AttemptsOk .started .start where
  frame := rfl
  crc := rfl
  fresh := fun _ => rfl
  retried := by simp [Attempts.start]
  last := rfl
  timeout := rfl
  crcError := rfl
  frameError := rfl
  exception := rfl
  success := rfl

theorem AttemptsOk.open_bits (h : AttemptsOk s n) (hopen : s.phase ≠ .done) :
    n = ⟨n.received, n.earlier, none⟩ ∧ s.status.exception = false ∧ s.status.success = false := by
  have hlast : n.last = none := by
    have hsome := h.last
    rw [decide_eq_false hopen] at hsome
    exact Option.not_isSome_iff_eq_none.mp (by simp [hsome])
  have hn : n = ⟨n.received, n.earlier, none⟩ := by rw [← hlast]
  have hlow : ∀ rank, 3 ≤ rank → n.ranked rank = false := by
    intro rank hrank
    rw [hn, ranked_of_none, List.any_eq_false]
    intro o ho
    have hlt := h.retried o ho
    simp only [decide_eq_true_eq]
    omega
  exact ⟨hn, h.exception.trans (hlow 3 (Nat.le_refl _)), h.success.trans (hlow 4 (by omega))⟩

theorem AttemptsOk.keeps {s' : Master} (h : AttemptsOk s n) (hframe : s'.rxFrame = s.rxFrame)
    (hcrc : s'.rxCrcFull = s.rxCrcFull) (hdone : s'.phase = .done ↔ s.phase = .done)
    (hfresh : s'.phase = .waitPreTxGap ∨ s'.phase = .txStream ∨ s'.phase = .waitRxStart →
      s.phase = .waitPreTxGap ∨ s.phase = .txStream ∨ s.phase = .waitRxStart)
    (hstatus : s'.status = { s.status with
      uartFrameError := s'.status.uartFrameError, rxOverflow := s'.status.rxOverflow }) :
    AttemptsOk s' n where
  frame := hframe.trans h.frame
  crc := hcrc.trans h.crc
  fresh := fun hbefore => h.fresh (hfresh hbefore)
  retried := h.retried
  last := by rw [h.last, decide_eq_decide.mpr hdone]
  timeout := by rw [hstatus, ← h.timeout]
  crcError := by rw [hstatus, ← h.crcError]
  frameError := by rw [hstatus, ← h.frameError]
  exception := by rw [hstatus, ← h.exception]
  success := by rw [hstatus, ← h.success]

theorem AttemptsOk.takes {s' : Master} (h : AttemptsOk s n) (hopen : s.phase ≠ .done) {b : UInt8}
    (hframe : s'.rxFrame = (s.rxFrame ++ [b]).take maxFrameBytes)
    (hcrc : s'.rxCrcFull = crc16Step s.rxCrcFull b) (hphase : s'.phase = .waitRxEnd)
    (hstatus : s'.status = { s.status with rxOverflow := s'.status.rxOverflow }) :
    AttemptsOk s' { n with received := n.received ++ [b] } where
  frame := by
    rw [hframe, h.frame, List.take_append, List.take_append, List.take_take, Nat.min_self,
      List.length_take]
    congr 2
    omega
  crc := by rw [hcrc, h.crc, crc16_concat]
  fresh := fun hbefore => by simp [hphase] at hbefore
  retried := h.retried
  last := by
    have hnot : s'.phase ≠ .done := by simp [hphase]
    rw [h.last, decide_eq_false hopen, decide_eq_false hnot]
  timeout := by rw [hstatus]; exact h.timeout
  crcError := by rw [hstatus]; exact h.crcError
  frameError := by rw [hstatus]; exact h.frameError
  exception := by rw [hstatus]; exact h.exception
  success := by rw [hstatus]; exact h.success

/-- An attempt that ends with an error is noted, whether another follows or not. -/
theorem AttemptsOk.ended (h : AttemptsOk s n) (hopen : s.phase ≠ .done) {o : Outcome}
    (herror : o.rank < 3) :
    AttemptsOk (s.startRetryOrFinish r (o.rank = 0) (o.rank = 1) (o.rank = 2))
      (n.note s.phase i
        ((s.startRetryOrFinish r (o.rank = 0) (o.rank = 1) (o.rank = 2)).phase = .done)
        (some o)) := by
  obtain ⟨hn, hexception, hsuccess⟩ := h.open_bits hopen
  have htimeout := h.timeout
  have hcrcError := h.crcError
  have hframeError := h.frameError
  rw [hn, ranked_of_none] at htimeout hcrcError hframeError
  have hlow : ∀ rank, 3 ≤ rank → ((n.earlier.any fun o => o.rank = rank) ||
      decide (o.rank = rank)) = false := by
    intro rank hrank
    rw [Bool.or_eq_false_iff, List.any_eq_false, decide_eq_false_iff_not]
    refine ⟨fun o ho => ?_, by omega⟩
    have hlt := h.retried o ho
    simp only [decide_eq_true_eq]
    omega
  rw [Master.startRetryOrFinish, Attempts.note]
  by_cases hretry : s.retryCount < r.retryMax
  · simp only [if_pos hretry, reduceCtorEq, decide_false, Bool.false_eq_true, if_false]
    rw [hn]
    refine ⟨rfl, rfl, fun _ => rfl, fun o' ho' => ?_, rfl, ?_, ?_, ?_, ?_, ?_⟩
    · rw [List.mem_append, List.mem_singleton] at ho'
      cases ho' with
      | inl hearlier => exact h.retried o' hearlier
      | inr heq => rw [heq]; exact herror
    · rw [ranked_concat, ← htimeout]
    · rw [ranked_concat, ← hcrcError]
    · rw [ranked_concat, ← hframeError]
    · rw [ranked_concat, hlow 3 (Nat.le_refl _)]
      exact hexception
    · rw [ranked_concat, hlow 4 (by omega)]
      exact hsuccess
  · simp only [if_neg hretry, decide_true, if_true]
    rw [hn]
    refine ⟨h.frame, h.crc, fun hp => by simp at hp, h.retried, rfl, ?_, ?_, ?_, ?_, ?_⟩
    · rw [ranked_of_last, ← htimeout]
    · rw [ranked_of_last, ← hcrcError]
    · rw [ranked_of_last, ← hframeError]
    · rw [ranked_of_last, hlow 3 (Nat.le_refl _)]
      exact hexception
    · rw [ranked_of_last, hlow 4 (by omega)]

theorem AttemptsOk.noteUart (h : AttemptsOk s n) (i : UartOut) : AttemptsOk (s.noteUart i) n :=
  h.keeps rfl rfl Iff.rfl id rfl

theorem evaluate_take (received : List UInt8) :
    ((received.take maxFrameBytes).length < 4 ↔ received.length < 4) ∧
      (received.take maxFrameBytes).getD 0 0 = received.getD 0 0 ∧
      (received.take maxFrameBytes).getD 1 0 = received.getD 1 0 := by
  refine ⟨?_, ?_, ?_⟩
  · rw [List.length_take, maxFrameBytes]
    omega
  · rw [List.getD_eq_getElem?_getD, List.getD_eq_getElem?_getD,
      List.getElem?_take_of_lt (by decide)]
  · rw [List.getD_eq_getElem?_getD, List.getD_eq_getElem?_getD,
      List.getElem?_take_of_lt (by decide)]

/-- The answer is taken for what it is. -/
theorem AttemptsOk.evaluated (h : AttemptsOk s n) (hphase : s.phase = .evalResponse) :
    AttemptsOk (s.clockEval r)
      (n.note s.phase i ((s.clockEval r).phase = .done) (some (evaluate r n.received))) := by
  have hopen : s.phase ≠ .done := by simp [hphase]
  obtain ⟨hshort, h0, h1⟩ := evaluate_take n.received
  rw [← h.frame] at hshort h0 h1
  have hclock : ∀ o, o.rank < 3 → o = evaluate r n.received →
      s.clockEval r = s.startRetryOrFinish r (o.rank = 0) (o.rank = 1) (o.rank = 2) →
      AttemptsOk (s.clockEval r)
        (n.note s.phase i ((s.clockEval r).phase = .done) (some (evaluate r n.received))) := by
    intro o hlow heq hfinish
    rw [hfinish, ← heq]
    exact h.ended hopen hlow
  have hends : ∀ o, 3 ≤ o.rank → o = evaluate r n.received →
      s.clockEval r = { s with
        phase := .done
        status := { s.status with
          done := true
          success := decide (o.rank = 4)
          exception := s.status.exception || decide (o.rank = 3)
          retrying := false } } →
      AttemptsOk (s.clockEval r)
        (n.note s.phase i ((s.clockEval r).phase = .done) (some (evaluate r n.received))) := by
    intro o hhigh heq hfinish
    obtain ⟨hn, hexception, hsuccess⟩ := h.open_bits hopen
    have htimeout := h.timeout
    have hcrcError := h.crcError
    have hframeError := h.frameError
    rw [hn, ranked_of_none] at htimeout hcrcError hframeError
    have hnone : ∀ rank, 3 ≤ rank → (n.earlier.any fun o => o.rank = rank) = false := by
      intro rank hrank
      rw [List.any_eq_false]
      intro o ho
      have hlt := h.retried o ho
      simp only [decide_eq_true_eq]
      omega
    have hnot : ∀ rank < 3, decide (o.rank = rank) = false := by
      intro rank hrank
      rw [decide_eq_false_iff_not]
      omega
    rw [hfinish, ← heq, Attempts.note, if_pos (decide_eq_true rfl), hn]
    refine ⟨h.frame, h.crc, fun hp => by simp at hp, h.retried, rfl, ?_, ?_, ?_, ?_, ?_⟩
    · rw [ranked_of_last, hnot 0 (by omega), Bool.or_false]
      exact htimeout
    · rw [ranked_of_last, hnot 1 (by omega), Bool.or_false]
      exact hcrcError
    · rw [ranked_of_last, hnot 2 (by omega), Bool.or_false]
      exact hframeError
    · rw [ranked_of_last, hnone 3 (Nat.le_refl _)]
      simp [hexception]
    · rw [ranked_of_last, hnone 4 (by omega), Bool.false_or]
  by_cases hlen : n.received.length < 4
  · exact hclock .short (by decide) (by rw [evaluate, if_pos hlen])
      (by rw [Master.clockEval, if_pos (hshort.mpr hlen)]; rfl)
  · have hlen' : ¬ s.rxFrame.length < 4 := fun hlt => hlen (hshort.mp hlt)
    by_cases hcrc : crc16 n.received = 0
    · have hcrc' : ¬ s.rxCrcFull ≠ 0 := by simp [h.crc, hcrc]
      have hsame : ¬ crc16 n.received ≠ 0 := by simp [hcrc]
      by_cases hslave : r.slaveAddr ≠ 0 ∧ n.received.getD 0 0 ≠ r.slaveAddr
      · exact hclock .wrongSlave (by decide)
          (by rw [evaluate, if_neg hlen, if_neg hsame, if_pos hslave])
          (by rw [Master.clockEval, if_neg hlen', if_neg hcrc', h0, if_pos hslave]; rfl)
      · by_cases hexc : n.received.getD 1 0 = r.functionCode ||| 0x80
        · exact hends .exception (by decide)
            (by rw [evaluate, if_neg hlen, if_neg hsame, if_neg hslave, if_pos hexc])
            (by
              rw [Master.clockEval, if_neg hlen', if_neg hcrc', h0, if_neg hslave, h1, if_pos hexc]
              simp [Outcome.rank])
        · by_cases hfunction : n.received.getD 1 0 ≠ r.functionCode
          · exact hclock .wrongFunction (by decide)
              (by rw [evaluate, if_neg hlen, if_neg hsame, if_neg hslave, if_neg hexc,
                if_pos hfunction])
              (by
                rw [Master.clockEval, if_neg hlen', if_neg hcrc', h0, if_neg hslave, h1,
                  if_neg hexc, if_pos hfunction]
                rfl)
          · exact hends .good (by decide)
              (by rw [evaluate, if_neg hlen, if_neg hsame, if_neg hslave, if_neg hexc,
                if_neg hfunction])
              (by
                rw [Master.clockEval, if_neg hlen', if_neg hcrc', h0, if_neg hslave, h1,
                  if_neg hexc, if_neg hfunction]
                simp [Outcome.rank])
    · have hcrc' : s.rxCrcFull ≠ 0 := by simpa [h.crc] using hcrc
      exact hclock .badCrc (by decide) (by rw [evaluate, if_neg hlen, if_pos hcrc])
        (by rw [Master.clockEval, if_neg hlen', if_pos hcrc']; rfl)

theorem AttemptsOk.unready (h : AttemptsOk s n) : AttemptsOk s.unready n :=
  h.keeps rfl rfl Iff.rfl id rfl

theorem AttemptsOk.preTxGap (h : AttemptsOk s n) (hphase : s.phase = .waitPreTxGap) :
    AttemptsOk (s.clockPreTxGap r i) n := by
  have hbefore : s.phase = .waitPreTxGap ∨ s.phase = .txStream ∨ s.phase = .waitRxStart :=
    .inl hphase
  rw [Master.clockPreTxGap]
  split
  · exact h.keeps rfl rfl Iff.rfl id rfl
  · split
    · exact h.keeps rfl rfl Iff.rfl id rfl
    · exact h.keeps rfl rfl (by simp [hphase]) (fun _ => hbefore) rfl

theorem AttemptsOk.txStream (h : AttemptsOk s n) (hphase : s.phase = .txStream) :
    AttemptsOk (s.clockTxStream r i) n := by
  have hbefore : s.phase = .waitPreTxGap ∨ s.phase = .txStream ∨ s.phase = .waitRxStart :=
    .inr (.inl hphase)
  rw [Master.clockTxStream]
  split
  · split
    · exact h.keeps rfl rfl Iff.rfl id rfl
    · exact h
  · split
    · split
      · exact h
      · exact h.keeps rfl rfl Iff.rfl id rfl
    · split
      · exact h.keeps rfl rfl (by simp [hphase]) (fun _ => hbefore) rfl
      · exact h

theorem AttemptsOk.rxStart (h : AttemptsOk s n) (hphase : s.phase = .waitRxStart) :
    AttemptsOk (s.clockRxStart r i)
      (n.note .waitRxStart i ((s.clockRxStart r i).phase = .done)
        (if i.rx = none ∧ r.timeoutCycles ≤ s.timeoutCtr then some .timeout else none)) := by
  have hopen : s.phase ≠ .done := by simp [hphase]
  have hnone : n.received = [] := h.fresh (.inr (.inr hphase))
  rw [Master.clockRxStart]
  cases hrx : i.rx with
  | some b =>
    have hrest : ¬ (some b = none ∧ r.timeoutCycles ≤ s.timeoutCtr) := by simp
    rw [if_neg hrest, Attempts.note, hrx]
    have hframe : s.rxFrame = [] := by rw [h.frame, hnone, List.take_nil]
    refine h.takes hopen (by simp [hframe, maxFrameBytes]) ?_ rfl rfl
    rw [h.crc, hnone]
    rfl
  | none =>
    dsimp only
    by_cases hwaits : s.timeoutCtr < r.timeoutCycles
    · have hrest : ¬ ((none : Option UInt8) = none ∧ r.timeoutCycles ≤ s.timeoutCtr) :=
        fun hend => Nat.not_le.mpr hwaits hend.2
      rw [if_pos hwaits, if_neg hrest, Attempts.note, hrx, Option.toList_none, List.append_nil]
      exact h.keeps rfl rfl Iff.rfl id rfl
    · rw [if_neg hwaits, if_pos ⟨rfl, Nat.le_of_not_lt hwaits⟩, ← hphase]
      exact h.ended (o := .timeout) hopen (by decide)

theorem AttemptsOk.rxEnd (h : AttemptsOk s n) (hphase : s.phase = .waitRxEnd) :
    AttemptsOk (s.clockRxEnd r i)
      (n.note .waitRxEnd i ((s.clockRxEnd r i).phase = .done)
        (if i.rx = none ∧ s.gapCtr < r.interframeCycles ∧ r.timeoutCycles ≤ s.timeoutCtr then
          some .timeout
        else none)) := by
  have hopen : s.phase ≠ .done := by simp [hphase]
  rw [Master.clockRxEnd]
  cases hrx : i.rx with
  | some b =>
    have hrest : ¬ (some b = none ∧ s.gapCtr < r.interframeCycles ∧
      r.timeoutCycles ≤ s.timeoutCtr) := by simp
    rw [if_neg hrest, Attempts.note, hrx]
    dsimp only
    split
    · rename_i hroom
      refine h.takes hopen ?_ rfl hphase rfl
      rw [List.take_of_length_le]
      rw [List.length_append]
      exact hroom
    · rename_i hfull
      refine h.takes hopen ?_ rfl hphase rfl
      have hlong : s.rxFrame.length = maxFrameBytes := by
        have hle := List.length_take_le maxFrameBytes n.received
        rw [← h.frame] at hle
        omega
      rw [← hlong, List.take_left]
  | none =>
    dsimp only
    by_cases hgap : s.gapCtr < r.interframeCycles
    · rw [if_pos hgap]
      by_cases hwaits : s.timeoutCtr < r.timeoutCycles
      · have hrest : ¬ ((none : Option UInt8) = none ∧ s.gapCtr < r.interframeCycles ∧
            r.timeoutCycles ≤ s.timeoutCtr) := fun hend => Nat.not_le.mpr hwaits hend.2.2
        rw [if_pos hwaits, if_neg hrest, Attempts.note, hrx, Option.toList_none, List.append_nil]
        exact h.keeps rfl rfl Iff.rfl id rfl
      · rw [if_neg hwaits, if_pos ⟨rfl, hgap, Nat.le_of_not_lt hwaits⟩, ← hphase]
        have hcounted : AttemptsOk { s with gapCtr := s.gapCtr + 1 } n :=
          h.keeps rfl rfl Iff.rfl id rfl
        exact hcounted.ended (o := .timeout) hopen (by decide)
    · have hrest : ¬ ((none : Option UInt8) = none ∧ s.gapCtr < r.interframeCycles ∧
          r.timeoutCycles ≤ s.timeoutCtr) := fun hend => hgap hend.2.1
      rw [if_neg hgap, if_neg hrest, Attempts.note, hrx, Option.toList_none, List.append_nil]
      exact h.keeps rfl rfl (by simp [hphase]) (by simp) rfl

theorem AttemptsOk.clockPhase (h : AttemptsOk s n) :
    AttemptsOk (s.clockPhase r i)
      (n.note s.phase i ((s.clockPhase r i).phase = .done) (attemptEnd r s i n.received)) := by
  have hready := h.unready
  rw [attemptEnd, Master.clockPhase]
  cases hphase : s.phase with
  | idle => exact hready.keeps rfl rfl Iff.rfl id rfl
  | waitPreTxGap => exact hready.preTxGap hphase
  | txStream => exact h.txStream hphase
  | waitRxStart => exact hready.rxStart hphase
  | waitRxEnd => exact hready.rxEnd hphase
  | evalResponse =>
    have hstep := hready.evaluated (r := r) (i := i) hphase
    rw [show s.unready.phase = .evalResponse from hphase] at hstep
    exact hstep
  | done => exact hready

theorem AttemptsOk.clock (h : AttemptsOk s n) :
    AttemptsOk (s.clock r i) (noteAttempt r s i n) := (h.noteUart i).clockPhase

theorem transaction_ok (r : Registers) (line : List UartOut) :
    AttemptsOk (transaction r line).1 (transaction r line).2 := by
  have hstep : ∀ (p : Master × Attempts) (i : UartOut), AttemptsOk p.1 p.2 → True →
      AttemptsOk (observed (Master.clock r) (noteAttempt r) p i).1
        (observed (Master.clock r) (noteAttempt r) p i).2 := fun _ _ h _ => h.clock
  exact run_inv hstep start_attemptsOk (along_true _ _)

end

/-! Whether the driver's report of a transaction is of its last attempt. -/

/-- What there is to report of the last attempt: its error, and the code if it is an exception
with one. -/
def reportOf (o : Outcome) (received : List UInt8) : Report :=
  .of o.error (exceptionCode o.error (received.take maxFrameBytes))

def checkedReportOf (r : Registers) (o : Outcome) (received : List UInt8) : Report :=
  checkedReport r o.error (received.take maxFrameBytes)

/-- Both ways to run a transaction report the last attempt. -/
structure ReportsLast (r : Registers) (s : Master) (n : Attempts) (o : Outcome) : Prop where
  polled : pollTransaction s = reportOf o n.received
  waited : runTransaction r s = checkedReportOf r o n.received

/-- The error that the driver finds is the last attempt's if no earlier attempt ended with one that
stands before it in the chain. -/
theorem statusError_eq_iff {s : Master} {n : Attempts} {o : Outcome} (h : AttemptsOk s n)
    (hlast : n.last = some o) :
    statusError s.status = o.error ↔ o = .good ∨ ∀ e ∈ n.earlier, o.rank ≤ e.rank := by
  have hn : n = ⟨n.received, n.earlier, some o⟩ := by rw [← hlast]
  have htimeout := h.timeout
  have hcrcError := h.crcError
  have hframeError := h.frameError
  have hexception := h.exception
  have hsuccess := h.success
  have hnone : ∀ rank, 3 ≤ rank → (n.earlier.any fun e => e.rank = rank) = false := by
    intro rank hrank
    rw [List.any_eq_false]
    intro e he
    have hlt := h.retried e he
    simp only [decide_eq_true_eq]
    omega
  have hany : ∀ rank, (∀ e ∈ n.earlier, rank ≤ e.rank) ↔
      ∀ lower < rank, (n.earlier.any fun e => e.rank = lower) = false := by
    intro rank
    simp only [List.any_eq_false, decide_eq_true_eq]
    constructor
    · intro hall lower hlower e he heq
      have hle := hall e he
      omega
    · intro hall e he
      rcases Nat.lt_or_ge e.rank rank with hlt | hge
      · exact absurd rfl (hall e.rank hlt e he)
      · exact hge
  rw [hn, ranked_of_last] at htimeout hcrcError hframeError hexception hsuccess
  rw [hnone 3 (Nat.le_refl _), Bool.false_or] at hexception
  rw [hnone 4 (by omega), Bool.false_or] at hsuccess
  rw [hany, statusError, setLastErrorFromStatus, htimeout, hcrcError, hframeError, hexception,
    hsuccess]
  have hone : ∀ p : Nat → Prop, (∀ k < 1, p k) ↔ p 0 := by
    intro p
    exact ⟨fun h => h 0 (by omega), fun h k hk => by
      have hk : k = 0 := by omega
      rw [hk]
      exact h⟩
  have htwo : ∀ p : Nat → Prop, (∀ k < 2, p k) ↔ p 0 ∧ p 1 := by
    intro p
    rw [Nat.forall_lt_succ_right, hone]
  have hthree : ∀ p : Nat → Prop, (∀ k < 3, p k) ↔ p 0 ∧ p 1 ∧ p 2 := by
    intro p
    rw [Nat.forall_lt_succ_right, htwo, and_assoc]
  cases o with
  | good => simp [Outcome.rank, Outcome.error]
  | timeout => simp [Outcome.rank, Outcome.error]
  | badCrc =>
    rw [Outcome.rank, hone]
    cases (n.earlier.any fun e => e.rank = 0) <;> simp [Outcome.error]
  | exception =>
    rw [Outcome.rank, hthree]
    cases (n.earlier.any fun e => e.rank = 0) <;> cases (n.earlier.any fun e => e.rank = 1) <;>
      cases (n.earlier.any fun e => e.rank = 2) <;> simp [Outcome.error]
  | short =>
    rw [Outcome.rank, htwo]
    cases (n.earlier.any fun e => e.rank = 0) <;> cases (n.earlier.any fun e => e.rank = 1) <;>
      simp [Outcome.error]
  | wrongSlave =>
    rw [Outcome.rank, htwo]
    cases (n.earlier.any fun e => e.rank = 0) <;> cases (n.earlier.any fun e => e.rank = 1) <;>
      simp [Outcome.error]
  | wrongFunction =>
    rw [Outcome.rank, htwo]
    cases (n.earlier.any fun e => e.rank = 0) <;> cases (n.earlier.any fun e => e.rank = 1) <;>
      simp [Outcome.error]

/-- The report is of the last attempt exactly if that was good, or if no earlier attempt ended with
an error that stands before its error in the chain. -/
theorem reports_last_iff (r : Registers) (line : List UartOut) (o : Outcome)
    (hlast : (transaction r line).2.last = some o) :
    ReportsLast r (transaction r line).1 (transaction r line).2 o ↔
      o = .good ∨ ∀ e ∈ (transaction r line).2.earlier, o.rank ≤ e.rank := by
  have h := transaction_ok r line
  rw [← statusError_eq_iff h hlast]
  constructor
  · intro hreports
    exact congrArg Report.error hreports.polled
  · intro herror
    refine ⟨?_, ?_⟩
    · rw [pollTransaction, herror, h.frame, reportOf]
    · rw [runTransaction, herror, h.frame, checkedReportOf]

def quiet (txReady : Bool) : UartOut := ⟨none, false, txReady⟩

/-- The gap of 16 clocks, a request of 8 bytes of 10 clocks each, and what follows. -/
def attemptLine (answer : List UartOut) : List UartOut :=
  List.replicate 17 (quiet true) ++
    (List.replicate 8 ([quiet true, quiet true] ++ List.replicate 10 (quiet false))).flatten ++
    [quiet true] ++ answer

/-- The bytes one by one, and the gap behind them. -/
def answerLine (bytes : List UInt8) : List UartOut :=
  bytes.flatMap (fun b => List.replicate 9 (quiet true) ++ [⟨some b, false, true⟩]) ++
    List.replicate 18 (quiet true)

def sampleRegisters : Registers where
  timeoutCycles := 40
  interframeCycles := 16
  slaveAddr := 1
  functionCode := 3
  retryMax := 1
  txTotalLen := 8

/-- First no answer, and then an exception with the code 2. -/
def exceptionAfterSilence : List UartOut :=
  attemptLine (List.replicate 41 (quiet true)) ++
    attemptLine (answerLine [0x01, 0x83, 0x02, 0xC0, 0xF1])

theorem exceptionAfterSilence_iff :
    ReportsLast sampleRegisters (transaction sampleRegisters exceptionAfterSilence).1
        (transaction sampleRegisters exceptionAfterSilence).2 .exception ↔
      Outcome.exception = .good ∨
        ∀ e ∈ (transaction sampleRegisters exceptionAfterSilence).2.earlier,
          Outcome.exception.rank ≤ e.rank :=
  reports_last_iff sampleRegisters exceptionAfterSilence .exception (by decide +kernel)

/-- The driver reports a timeout and no code. -/
theorem exceptionAfterSilence_not_last :
    (transaction sampleRegisters exceptionAfterSilence).2.last = some .exception ∧
      pollTransaction (transaction sampleRegisters exceptionAfterSilence).1 =
        .of .HwTimeout none ∧
      reportOf .exception (transaction sampleRegisters exceptionAfterSilence).2.received =
        .of .HwException (some 2) ∧
      ¬ ReportsLast sampleRegisters (transaction sampleRegisters exceptionAfterSilence).1
        (transaction sampleRegisters exceptionAfterSilence).2 .exception := by
  have hpolled : pollTransaction (transaction sampleRegisters exceptionAfterSilence).1 =
      .of .HwTimeout none := by decide +kernel
  have hlast : reportOf .exception (transaction sampleRegisters exceptionAfterSilence).2.received =
      .of .HwException (some 2) := by decide +kernel
  refine ⟨by decide +kernel, hpolled, hlast, fun h => ?_⟩
  have hsame := h.polled
  rw [hpolled, hlast] at hsame
  cases congrArg Report.error hsame

end NodeNet.Modbus

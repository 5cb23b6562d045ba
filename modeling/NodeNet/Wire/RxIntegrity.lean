import NodeNet.Lib.Machine
import NodeNet.Wire.RxCapture

/-! The mailbox holds a decoded frame whenever it is valid. -/
namespace NodeNet.Wire
open NodeNet.Machine

theorem idle_of_complete {d : Decoder} {current : List UInt8} (h : Tracks d current)
    (hcomplete : d.msgComplete = true) : d.state = .idle := by
  cases hs : d.state <;> simp_all [Tracks]

/-- An empty mailbox that has missed payload bytes of the frame takes nothing of it. -/
structure Missed (m : RxMailbox) (d : Decoder) : Prop where
  running : d.msgComplete = false
  fresh : d.state = .idle → d.error = false → m.buildCount = 0

/-- The invariant of the undisturbed receiver. -/
structure RxOk (q : Peripheral × Heard) : Prop where
  tracks : Tracks q.1.decoder q.2.current
  apart : q.2.cut = true → q.1.decoder.inHeader = false
  full : q.1.mailbox.valid = true → q.1.mailbox.buildCount = 0 ∧
    ∃ f ∈ q.2.frames, f.Addressed ∧ q.1.mailbox.Holds f
  empty : q.1.mailbox.valid = false → q.2.cut = false →
    Captured q.1.mailbox q.1.decoder q.2.current
  missed : q.1.mailbox.valid = false → q.2.cut = true → Missed q.1.mailbox q.1.decoder

theorem buildCount_idle {m : RxMailbox} {d : Decoder} {current : List UInt8} (h : Tracks d current)
    (hfresh : d.state = .idle → d.msgComplete = false → d.error = false → m.buildCount = 0)
    (hheader : d.inHeader = true → m.buildCount = 0) (hidle : d.state = .idle ∨ d.inHeader = true) :
    (d.rxTimeout || d.error || d.msgComplete) = false → (m.capture d).buildCount = 0 := by
  intro hquiet
  simp only [Bool.or_eq_false_iff] at hquiet
  have hpulse : d.msgDataValid = false ∧ m.buildCount = 0 := by
    rcases hidle with hs | hs
    · simp only [Tracks, hs] at h
      exact ⟨h.1, hfresh hs hquiet.2 hquiet.1.2⟩
    · refine ⟨?_, hheader hs⟩
      simp only [Decoder.inHeader, Bool.or_eq_true, decide_eq_true_eq] at hs
      rcases hs with (((hs | hs) | hs) | hs) | hs <;> simp only [Tracks, hs] at h <;> exact h.1
  simp [RxMailbox.capture, hpulse]

theorem captured_fresh {m : RxMailbox} {d d' : Decoder} {current : List UInt8} {rx : Option UInt8}
    (h : Tracks d current) (hfollows : Follows d d' rx) (hzero : m.buildCount = 0)
    (hstart : d.state = .idle ∨ d.inHeader = true ∨ d.afterHeader = true ∧ d.payloadIdx = 0) :
    Captured m d' (if d.begins d' then [] else d.streamed current) := by
  by_cases hnil : (if d.begins d' then [] else d.streamed current) = []
  · rw [hnil]
    exact captured_nil d' hzero
  · have hbegins : d.begins d' ≠ true := fun hb => hnil (if_pos hb)
    have hs : d.state = .idle := by
      refine hstart.resolve_right fun hb => hnil ((if_neg hbegins).trans (streamed_nil h hb))
    have hpayload : ¬ (d.state = .rxPayload ∨ d.state = .waitStx) := by
      simp [hs]
    have hafter : ¬ (d.afterHeader = true ∨ d.state = .waitStx) := by
      simp [Decoder.afterHeader, hs]
    exact ⟨fun _ _ _ => hzero, fun _ => hzero, fun hb => absurd (hfollows.payload hb).1 hpayload,
      fun hb => absurd (hfollows.frame hb) hafter⟩

section
variable {p : Peripheral} {i : Cycle} {h : Heard}

theorem follows_of_ok (hok : RxOk (p, h)) :
    Follows p.decoder (p.clock i).decoder (p.rxByte i) :=
  follows_clock hok.tracks.inUse p.tx.nodeAddr (p.rxByte i)

theorem buildCount_clock (hok : RxOk (p, h)) (hempty : p.mailbox.valid = false)
    (hearly : p.decoder.state = .idle ∨ p.decoder.inHeader = true) :
    (p.clock i).mailbox.buildCount = 0 := by
  obtain ⟨-, hcount, -⟩ := clock_empty (d := p.decoder) hempty i.uartRx.isSome
    i.uartRxFrameError p.rxDecodeEnable (p.fired i)
  refine Eq.trans hcount ?_
  split
  · rfl
  · next hquiet =>
    simp only [Bool.or_eq_true, not_or] at hquiet
    refine buildCount_idle hok.tracks ?_ ?_ hearly (by simpa using hquiet.2)
    · intro hs hcomplete herror
      cases hcut : h.cut with
      | false => exact (hok.empty hempty hcut).fresh hs hcomplete herror
      | true => exact (hok.missed hempty hcut).fresh hs herror
    · intro hheader
      cases hcut : h.cut with
      | false => exact (hok.empty hempty hcut).header hheader
      | true => exact absurd ((hok.apart hcut).symm.trans hheader) Bool.false_ne_true

theorem afterHeader_of_cuts (hcuts : p.cuts i = true) : p.decoder.afterHeader = true := by
  simp only [Peripheral.cuts, Decoder.midFrame, Decoder.midPayload, Bool.or_eq_true,
    Bool.and_eq_true] at hcuts
  rcases hcuts with ⟨-, hafter, -⟩ | ⟨-, hpayload, -⟩
  · exact hafter
  · simp [Decoder.afterHeader, of_decide_eq_true hpayload]

theorem inHeader_of_cut (hok : RxOk (p, h)) (hcut : (h.cut || p.cuts i) = true) :
    p.decoder.inHeader = false := by
  rcases Bool.or_eq_true_iff.mp hcut with hbefore | hcuts
  · exact hok.apart hbefore
  · have hafter := afterHeader_of_cuts hcuts
    cases hs : p.decoder.state <;> simp_all [Decoder.afterHeader, Decoder.inHeader]

/-- A clock that loses the count leaves it right only where no byte has been counted. -/
theorem counted_lost (hok : RxOk (p, h)) (hempty : p.mailbox.valid = false)
    (hs : p.decoder.state = .rxPayload) (hlost : p.losesCount i = true) (hcuts : p.cuts i = false)
    (hcount : p.mailbox.buildCount.toNat = min h.current.length 2048) :
    (p.clock i).mailbox.buildCount.toNat = min (p.decoder.streamed h.current).length 2048 := by
  have hafter : p.decoder.afterHeader = true := by simp [Decoder.afterHeader, hs]
  have hidx : p.decoder.payloadIdx = 0 := by
    simp only [Peripheral.cuts, hlost, Bool.true_and, Bool.or_eq_false_iff] at hcuts
    simpa [Decoder.midPayload, hs] using hcuts.2
  have hnil := streamed_nil hok.tracks (Or.inr ⟨hafter, hidx⟩)
  have hzero := capture_counts (d := p.decoder) hempty hcount
  rw [hnil] at hzero ⊢
  obtain ⟨-, hbuild, -⟩ := clock_empty (d := p.decoder) hempty i.uartRx.isSome
    i.uartRxFrameError p.rxDecodeEnable (p.fired i)
  rw [show (p.clock i).mailbox.buildCount = _ from hbuild]
  split
  · rfl
  · exact hzero

theorem counted_kept (hok : RxOk (p, h)) (hempty : p.mailbox.valid = false)
    (hs : p.decoder.state = .rxPayload) (hlost : p.losesCount i = false)
    (htimeout : p.decoder.rxTimeout = true → (p.rxByte i).isSome = true)
    (hcount : p.mailbox.buildCount.toNat = min h.current.length 2048) :
    (p.clock i).mailbox.buildCount.toNat = min (p.decoder.streamed h.current).length 2048 := by
  have hclear : clearsMailbox (p.fired i) = false ∧ p.decoder.rxTimeout = false := by
    simp only [Peripheral.losesCount, hempty, Bool.not_false, Bool.true_and, Bool.or_eq_false_iff]
      at hlost
    refine ⟨hlost.1, ?_⟩
    cases ht : p.decoder.rxTimeout with
    | false => rfl
    | true => simp [ht, htimeout ht] at hlost
  have hquiet : p.decoder.error = false ∧ p.decoder.msgComplete = false := by
    have htracks := hok.tracks
    simp only [Tracks, hs] at htracks
    exact ⟨htracks.2.1, htracks.1⟩
  obtain ⟨-, hbuild, -⟩ := clock_empty (d := p.decoder) hempty i.uartRx.isSome
    i.uartRxFrameError p.rxDecodeEnable (p.fired i)
  have hsame : (p.clock i).mailbox.buildCount = (p.mailbox.capture p.decoder).buildCount := by
    refine Eq.trans hbuild (if_neg ?_)
    simp [hclear, hquiet]
  rw [hsame]
  exact capture_counts hempty hcount

/-- What an empty mailbox has captured after a clock of a frame that it can have in full. -/
theorem captured_clock (hok : RxOk (p, h)) (hempty : p.mailbox.valid = false)
    (hwhole : (hear p i h).cut = false) :
    Captured (p.clock i).mailbox (p.clock i).decoder (hear p i h).current := by
  have htracks := hok.tracks
  have hfollows := follows_of_ok (i := i) hok
  obtain ⟨hbuffer, hcount, -⟩ := clock_empty (d := p.decoder) hempty i.uartRx.isSome
    i.uartRxFrameError p.rxDecodeEnable (p.fired i)
  have hbuffer : (p.clock i).mailbox.buffer = (p.mailbox.capture p.decoder).buffer := hbuffer
  by_cases hearly : p.decoder.state = .idle ∨ p.decoder.inHeader = true
  · exact captured_fresh htracks hfollows (buildCount_clock hok hempty hearly)
      (hearly.imp_right Or.inl)
  simp only [not_or] at hearly
  have hbegins : p.decoder.begins (p.clock i).decoder ≠ true := by
    simp [Decoder.begins, hearly.1]
  have hcurrent : (hear p i h).current = p.decoder.streamed h.current := if_neg hbegins
  have hafter : p.decoder.afterHeader = true := afterHeader_of_tracks htracks hearly.1 hearly.2
  have hwait : p.decoder.state ≠ .waitStx := by
    intro hs
    simp [Decoder.afterHeader, hs] at hafter
  have hbegins' : p.decoder.begins (p.clock i).decoder = false := by simpa using hbegins
  simp only [hear, hbegins', Bool.not_false, Bool.true_and, Bool.or_eq_false_iff] at hwhole
  have hcaptured : Captured p.mailbox p.decoder h.current := hok.empty hempty hwhole.1
  rw [hcurrent]
  refine ⟨fun hs hc he => ?_, fun hh => ?_, fun hc => ?_, fun _ k b hb hk => ?_⟩
  · have htimeout := ((hfollows.idle hs hc he).resolve_left hearly.1).1
    refine hcount.trans (if_pos ?_)
    simp [htimeout]
  · exact absurd ((hfollows.header hh).resolve_right hbegins) hearly.2
  · obtain ⟨hpayload, htimeout⟩ := hfollows.payload hc
    have hs : p.decoder.state = .rxPayload := hpayload.resolve_right hwait
    have hcounted := hcaptured.counted (Or.inl hs)
    cases hlost : p.losesCount i with
    | true => exact counted_lost hok hempty hs hlost hwhole.2 hcounted
    | false => exact counted_kept hok hempty hs hlost htimeout hcounted
  · rw [hbuffer]
    exact capture_stores hempty (hcaptured.stored (Or.inl hafter))
      (fun hd => hcaptured.counted (Or.inr hd)) k b hb hk

theorem running_clock (hok : RxOk (p, h)) (hkeeps : KeepsMailbox (p, h) i)
    (hcut : (hear p i h).cut = true) : (p.clock i).decoder.msgComplete = false := by
  have hbefore : (h.cut || p.cuts i) = true := (Bool.and_eq_true_iff.mp hcut).2
  cases hcomplete : (p.clock i).decoder.msgComplete with
  | false => rfl
  | true =>
    have hends := Peripheral.endsFrame_of_complete hok.tracks.inUse (inHeader_of_cut hok hbefore)
      hcomplete
    exact absurd ((hkeeps.1 hbefore).symm.trans hends) Bool.false_ne_true

theorem missed_clock (hok : RxOk (p, h)) (hkeeps : KeepsMailbox (p, h) i)
    (hempty : p.mailbox.valid = false) (hcut : (hear p i h).cut = true) :
    Missed (p.clock i).mailbox (p.clock i).decoder := by
  have hrunning := running_clock hok hkeeps hcut
  refine ⟨hrunning, fun hs herror => ?_⟩
  rcases (follows_of_ok hok).idle hs hrunning herror with hidle | ⟨htimeout, -⟩
  · exact buildCount_clock hok hempty (Or.inl hidle)
  · obtain ⟨-, hcount, -⟩ := clock_empty (d := p.decoder) hempty i.uartRx.isSome
      i.uartRxFrameError p.rxDecodeEnable (p.fired i)
    exact Eq.trans hcount (if_pos (by simp [htimeout]))

theorem captured_freed (hok : RxOk (p, h)) (hfreed : p.mailbox.freed (p.fired i) = true)
    (hwhole : (hear p i h).cut = false) (hzero : (p.clock i).mailbox.buildCount = 0) :
    Captured (p.clock i).mailbox (p.clock i).decoder (hear p i h).current := by
  refine captured_fresh hok.tracks (follows_of_ok hok) hzero ?_
  by_cases hs : p.decoder.state = .idle
  · exact Or.inl hs
  refine Or.inr ?_
  by_cases hheader : p.decoder.inHeader = true
  · exact Or.inl hheader
  have hafter := afterHeader_of_tracks hok.tracks hs hheader
  have hbegins : p.decoder.begins (p.clock i).decoder = false := by
    simp [Decoder.begins, hs]
  have hmid : p.decoder.midFrame = false := by
    simp only [hear, hbegins, Bool.not_false, Bool.true_and, Bool.or_eq_false_iff, Peripheral.cuts,
      hfreed] at hwhole
    exact hwhole.2.1
  exact Or.inr ⟨hafter, by simpa [Decoder.midFrame, hafter] using hmid⟩

/-- A valid mailbox holds a frame that has ended. -/
theorem full_clock (hok : RxOk (p, h)) (hvalid : (p.clock i).mailbox.valid = true) :
    (p.clock i).mailbox.buildCount = 0 ∧
      ∃ f ∈ (hear p i h).frames, f.Addressed ∧ (p.clock i).mailbox.Holds f := by
  cases hfull : p.mailbox.valid with
  | true =>
    obtain ⟨hzero, f, hf, haddr, hsrc, hdst, hlen, hbytes⟩ := hok.full hfull
    obtain ⟨hsrc', hdst', hlen', hbuffer', -, hzero'⟩ := clock_full (d := p.decoder) hfull
      i.uartRx.isSome i.uartRxFrameError p.rxDecodeEnable (p.fired i)
    have hmem : f ∈ (hear p i h).frames := by
      simp only [hear]
      split
      · exact List.mem_append_left _ hf
      · exact hf
    refine ⟨hzero' hzero, f, hmem, haddr, hsrc'.trans hsrc, hdst'.trans hdst, ?_, ?_⟩
    · exact (congrArg UInt16.toNat hlen').trans hlen
    · intro k b hb
      exact (congrFun hbuffer' _).trans (hbytes k b hb)
  | false =>
    obtain ⟨hbuffer, hcount, htake⟩ := clock_empty (d := p.decoder) hfull i.uartRx.isSome
      i.uartRxFrameError p.rxDecodeEnable (p.fired i)
    obtain ⟨haccepts, hsrc, hdst, hlen⟩ := htake hvalid
    simp only [RxMailbox.accepts, Bool.and_eq_true, decide_eq_true_eq] at haccepts
    obtain ⟨⟨⟨hcomplete, hmsg⟩, -⟩, hmax⟩ := haccepts
    have hs : p.decoder.state = .idle := idle_of_complete hok.tracks hcomplete
    have hwhole : h.cut = false := by
      cases hcut : h.cut with
      | false => rfl
      | true =>
        have hrunning := (hok.missed hfull hcut).running
        exact absurd (hrunning.symm.trans hcomplete) Bool.false_ne_true
    have hended := hok.tracks
    simp only [Tracks, hs] at hended
    obtain ⟨hpulse, -, hended⟩ := hended
    obtain ⟨hmsgLen, haddr⟩ := hended hcomplete
    have hstreamed : p.decoder.streamed h.current = h.current := streamed_none hpulse h.current
    have hcapture : p.mailbox.capture p.decoder = p.mailbox := by
      simp [RxMailbox.capture, hpulse]
    rw [hcapture] at hbuffer
    refine ⟨hcount.trans (if_pos (by simp [hcomplete])),
      ⟨p.decoder.msgSrcAddr, p.decoder.msgDstAddr, p.decoder.myAddr,
        p.decoder.streamed h.current⟩, ?_, haddr, hsrc, hdst, ?_, ?_⟩
    · simp [hear, hcomplete, hmsg]
    · rw [hstreamed, ← hmsgLen]
      exact congrArg UInt16.toNat hlen
    · intro k b hb
      rw [hstreamed] at hb
      have hk : k < 2048 := by
        have hlt : k < h.current.length := (List.getElem?_eq_some_iff.mp hb).1
        have hmax := UInt16.le_iff_toNat_le.mp hmax
        have hmaxPayload : maxPayload.toNat = 2048 := rfl
        omega
      exact (congrFun hbuffer _).trans
        ((hok.empty hfull hwhole).stored (Or.inr hcomplete) k b hb hk)

end

theorem rxOk_reset (p : Peripheral) : RxOk (p.reset, .nothing) where
  tracks := ⟨rfl, rfl, fun h => absurd h Bool.false_ne_true⟩
  apart h := absurd h Bool.false_ne_true
  full h := absurd h Bool.false_ne_true
  empty _ _ := captured_nil _ rfl
  missed _ h := absurd h Bool.false_ne_true

theorem rxOk_clock {p : Peripheral} {i : Cycle} {h : Heard} (hok : RxOk (p, h))
    (hkeeps : KeepsMailbox (p, h) i) : RxOk (p.clock i, hear p i h) := by
  refine ⟨tracks_clock p.tx.nodeAddr (p.rxByte i) hok.tracks hkeeps.2, fun hcut => ?_, full_clock hok,
    fun hvalid hwhole => ?_, fun hvalid hcut => ?_⟩
  · obtain ⟨hbegins, hbefore⟩ := Bool.and_eq_true_iff.mp hcut
    have hheader := inHeader_of_cut hok hbefore
    cases hafter : (p.clock i).decoder.inHeader with
    | false => rfl
    | true =>
      rcases (follows_of_ok hok).header hafter with hd | hd
      · exact absurd (hheader.symm.trans hd) Bool.false_ne_true
      · simp [hd] at hbegins
  · cases hfull : p.mailbox.valid with
    | true =>
      obtain ⟨-, -, -, -, hvalid', hzero⟩ := clock_full (d := p.decoder) hfull
        i.uartRx.isSome i.uartRxFrameError p.rxDecodeEnable (p.fired i)
      have hfreed : p.mailbox.freed (p.fired i) = true := by
        simpa using hvalid'.symm.trans hvalid
      exact captured_freed hok hfreed hwhole (hzero (hok.full hfull).1)
    | false => exact captured_clock hok hfull hwhole
  · cases hfull : p.mailbox.valid with
    | true =>
      obtain ⟨-, -, -, -, -, hzero⟩ := clock_full (d := p.decoder) hfull
        i.uartRx.isSome i.uartRxFrameError p.rxDecodeEnable (p.fired i)
      exact ⟨running_clock hok hkeeps hcut, fun _ _ => hzero (hok.full hfull).1⟩
    | false => exact missed_clock hok hkeeps hfull hcut

theorem keepsMailbox_run (p : Peripheral) {cycles : List Cycle}
    (h : Along (observed Peripheral.clock hear) KeepsMailbox (p.reset, .nothing) cycles) :
    RxOk (run (observed Peripheral.clock hear) (p.reset, .nothing) cycles) := by
  have hstep : ∀ (q : Peripheral × Heard) i, RxOk q → KeepsMailbox q i →
      RxOk (observed Peripheral.clock hear q i) := fun _ _ => rxOk_clock
  exact run_inv hstep (rxOk_reset p) h

def LeavesMailbox (p : Peripheral) (i : Cycle) : Prop := p.mailbox.freed (p.fired i) = false

theorem holds_run {p : Peripheral} {f : Frame} (hvalid : p.mailbox.valid = true)
    (hholds : p.mailbox.Holds f) {later : List Cycle}
    (h : Along Peripheral.clock LeavesMailbox p later) :
    (run Peripheral.clock p later).mailbox.valid = true ∧
      (run Peripheral.clock p later).mailbox.Holds f := by
  have hstep : ∀ (p : Peripheral) i, p.mailbox.valid = true ∧ p.mailbox.Holds f →
      LeavesMailbox p i → (p.clock i).mailbox.valid = true ∧ (p.clock i).mailbox.Holds f := by
    intro p i hinv hleaves
    obtain ⟨hvalid, hsrc, hdst, hlen, hbytes⟩ := hinv
    obtain ⟨hsrc', hdst', hlen', hbuffer', hvalid', -⟩ := clock_full (d := p.decoder) hvalid
      i.uartRx.isSome i.uartRxFrameError p.rxDecodeEnable (p.fired i)
    refine ⟨hvalid'.trans ?_, hsrc'.trans hsrc, hdst'.trans hdst, ?_, ?_⟩
    · have hfreed : p.mailbox.freed (p.fired i) = false := hleaves
      simp [hfreed]
    · exact (congrArg UInt16.toNat hlen').trans hlen
    · intro k b hb
      exact (congrFun hbuffer' _).trans (hbytes k b hb)
  exact run_inv hstep ⟨hvalid, hholds⟩ h

/-- Whenever the mailbox is valid it holds one decoded frame for this node, and it goes on to
hold it until the CPU frees it. -/
theorem rxMailbox_holds (p : Peripheral) {cycles : List Cycle}
    (h : Along (observed Peripheral.clock hear) KeepsMailbox (p.reset, .nothing) cycles) :
    let q := run (observed Peripheral.clock hear) (p.reset, .nothing) cycles
    q.1.mailbox.valid = true → ∃ f ∈ q.2.frames, f.Addressed ∧
      ∀ later, Along Peripheral.clock LeavesMailbox q.1 later →
        (run Peripheral.clock q.1 later).mailbox.valid = true ∧
          (run Peripheral.clock q.1 later).mailbox.Holds f := by
  intro q hvalid
  obtain ⟨-, f, hf, haddr, hholds⟩ := (keepsMailbox_run p h).full hvalid
  exact ⟨f, hf, haddr, fun later hlater => holds_run hvalid hholds hlater⟩

/-- A clock in which this byte arrives and the bus makes this access. -/
def wireCycle (access : Option Access) (b : UInt8) : Cycle := ⟨some b, false, access⟩

/-- A frame from node 2 with the byte 0x41 for node 1. -/
def firstFrame : List Cycle := (dataFrame 1 2 [0x41]).map (wireCycle none)

theorem firstFrame_held : ∃ f ∈ (run (observed Peripheral.clock hear)
    (Peripheral.blank.reset, .nothing) firstFrame).2.frames, f.Addressed ∧
      ∀ later, Along Peripheral.clock LeavesMailbox
        (run (observed Peripheral.clock hear) (Peripheral.blank.reset, .nothing) firstFrame).1 later →
        (run Peripheral.clock (run (observed Peripheral.clock hear)
          (Peripheral.blank.reset, .nothing) firstFrame).1 later).mailbox.valid = true ∧
        (run Peripheral.clock (run (observed Peripheral.clock hear)
          (Peripheral.blank.reset, .nothing) firstFrame).1 later).mailbox.Holds f :=
  rxMailbox_holds Peripheral.blank (by decide +kernel) (by decide +kernel)

/-- A frame of node 3 follows while the CPU takes the byte of the first: the mailbox comes out
valid again, with the new header over the old byte. -/
def secondFrame : List Cycle :=
  ((dataFrame 1 3 [0x42]).take 11).map (wireCycle none) ++
    [wireCycle (some (.read .rxData)) nodenetEtx] ++
    ((dataFrame 1 3 [0x42]).drop 12).map (wireCycle none)

theorem secondFrame_mixed :
    let q := run (observed Peripheral.clock hear) (Peripheral.blank.reset, .nothing)
      (firstFrame ++ secondFrame)
    q.1.mailbox.valid = true ∧ ¬ ∃ f ∈ q.2.frames, f.Addressed ∧ q.1.mailbox.Holds f := by
  intro q
  have hframes : q.2.frames = [⟨2, 1, 1, [0x41]⟩, ⟨3, 1, 1, [0x42]⟩] := by decide +kernel
  have hmailbox : q.1.mailbox.valid = true ∧ q.1.mailbox.src = 3 ∧
      q.1.mailbox.buffer (UInt16.ofNat 0) = 0x41 := by
    decide +kernel
  refine ⟨hmailbox.1, ?_⟩
  rintro ⟨f, hf, -, hsrc, -, -, hbytes⟩
  rw [hframes] at hf
  simp only [List.mem_cons, List.not_mem_nil, or_false] at hf
  rcases hf with rfl | rfl
  · exact absurd (hmailbox.2.1.symm.trans hsrc) (by decide)
  · exact absurd (hmailbox.2.2.symm.trans (hbytes 0 0x42 rfl)) (by decide)

end NodeNet.Wire

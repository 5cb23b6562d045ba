import NodeNet.Spi.TxSteps

/-! Commits are kept, frames send the committed response, and only whole frames mark it as read. -/
namespace NodeNet.Spi
open NodeNet.Machine
namespace Device

variable {d : Device} {h : Outbox} {mailboxBytes : Nat} {mosi : Bool} {access : Option Access}

theorem clock_stores (hcount : d.tx.cpuWriteCount = h.staged.length)
    (hstores : Stores d.txRam d.tx.stageBankSelect h.staged) :
    Stores (d.clockEdge mailboxBytes access).txRam d.tx.stageBankSelect h.staged := by
  intro k b hb
  have hk := (List.getElem?_eq_some_iff.mp hb).1
  rw [← hstores k b hb]
  cases hwrites : d.tx.writesByte (d.fired access) with
  | none => simp [clockEdge, hwrites]
  | some b' =>
    have hne : k ≠ d.tx.cpuWriteCount := by omega
    simp [clockEdge, hwrites, hne]

theorem stocks_commits (hstocks : d.Stocks h) (hcommits : d.wordCommits access = true)
    (hundone : acknowledges (d.controlWord access) = true → d.tx.readComplete = false) :
    (d.clockEdge mailboxBytes access).Stocks
      { h with
        staged := if d.givesUp access then [] else d.stagedBy access h.staged
        response := some h.staged
        number := h.number + 1
        shifted := false } := by
  obtain ⟨hloaded, hlength, hbank, hstage, -⟩ :=
    clock_commits mailboxBytes access hcommits hundone
  have hfree : d.tx.loaded = false := by
    simp only [wordCommits, Bool.and_eq_true, Bool.not_eq_true'] at hcommits
    exact hcommits.1
  obtain ⟨hcount, hfits, hstores⟩ := hstocks.staging hfree
  refine ⟨hloaded, fun r hr => ?_, fun hempty => absurd (hloaded.symm.trans hempty) (by simp)⟩
  obtain rfl := Option.some.inj hr
  refine ⟨?_, ?_, ?_⟩
  · rw [hlength, TxMailbox.commitLength]
    split <;> omega
  · rw [hbank]
    exact clock_stores hcount hstores
  · rw [hstage, hbank]

theorem stocks_givesUp (mailboxBytes : Nat) (hgives : d.givesUp access = true) :
    (d.clockEdge mailboxBytes access).Stocks
      { h with
        staged := if d.givesUp access then [] else d.stagedBy access h.staged
        response := if d.givesUp access then none else h.response } := by
  obtain ⟨hloaded, hcount⟩ := clock_givesUp mailboxBytes access hgives
  refine ⟨?_, ?_, fun _ => ⟨?_, ?_, ?_⟩⟩ <;> simp [hgives, hloaded, hcount, Stores]

theorem stocks_keeps (mailboxBytes : Nat) (hstocks : d.Stocks h)
    (hcommits : d.wordCommits access = false)
    (hgives : d.givesUp access = false) :
    (d.clockEdge mailboxBytes access).Stocks
      { h with
        staged := if d.givesUp access then [] else d.stagedBy access h.staged
        response := if d.givesUp access then none else h.response } := by
  obtain ⟨hloaded, hlength, hbank, hstage, hcount, hfits, -⟩ :=
    clock_keeps mailboxBytes access hcommits hgives
  simp only [hgives, Bool.false_eq_true, if_false]
  refine ⟨hloaded.trans hstocks.loaded, fun r hr => ?_, fun hfree => ?_⟩
  · obtain ⟨hlen, hstores, hother⟩ := hstocks.content r hr
    have hfull : d.tx.loaded = true := hstocks.loaded.trans (by rw [hr]; rfl)
    refine ⟨hlength.trans hlen, ?_, ?_⟩
    · intro k b hb
      rw [hbank, clock_txRam mailboxBytes access (by simp [writesByte_loaded access hfull])]
      exact hstores k b hb
    · rw [hstage, hbank]
      exact hother
  · obtain ⟨hcount', hfits', hstores'⟩ :=
      hstocks.stage mailboxBytes access (hloaded.symm.trans hfree)
    refine ⟨hcount.trans hcount', ?_, ?_⟩
    · rw [hfits]
      exact hfits'
    · rw [hstage]
      exact hstores'

theorem txOk_clock (hok : TxOk d h) (hkeeps : KeepsTx (d, h) (.clock access)) :
    TxOk (d.clockEdge mailboxBytes access) (d.record (.clock access) h) := by
  obtain ⟨hidle, hcurrent, hstocks, hlatch, hlast, hmarked, hended⟩ := hok
  obtain ⟨hquiet, hmarks, hcpu, hundone, hbank⟩ := hkeeps
  have hwindow : ∀ w number, h.number ≤ number → h.current = some w →
      (d.clockEdge mailboxBytes access).startsFrame = false ∧
        (d.clockEdge mailboxBytes access).Sends w ∧ w.number ≤ number := by
    intro w number hle hw
    obtain ⟨hstarts, hsends, hnumber⟩ := hcurrent w hw
    refine ⟨hstarts, hsends.same rfl rfl rfl hsends.miso fun hreads => ?_, by omega⟩
    exact clock_txRam mailboxBytes access fun hwrites => hbank hwrites w hw hreads
  cases hcommits : d.wordCommits access with
  | true =>
    have hrecord : d.record (.clock access) h =
        { h with
          staged := if d.givesUp access then [] else d.stagedBy access h.staged
          response := some h.staged
          number := h.number + 1
          shifted := false } := by
      simp [record, hcommits]
    rw [hrecord]
    refine ⟨hidle, fun w hw => hwindow w _ (Nat.le_succ _) hw,
      stocks_commits hstocks hcommits (hundone hcommits), hlatch, fun w hw => ⟨?_, fun _ hsame => ?_⟩,
      fun _ hread => ?_, hended⟩
    · exact Nat.le_succ_of_le (hlast w hw).1
    · have hle := (hlast w hw).1
      have hsame : w.number = h.number + 1 := hsame
      omega
    · have hclear := (clock_commits mailboxBytes access hcommits (hundone hcommits)).2.2.2.2
      exact absurd (hclear.symm.trans hread) (by simp)
  | false =>
    have hcpu' : d.cpuCommits access = false := by
      cases hc : d.cpuCommits access with
      | false => rfl
      | true => exact absurd (hcommits.symm.trans (hcpu hc)) (by simp)
    have hrecord : d.record (.clock access) h =
        { h with
          staged := if d.givesUp access then [] else d.stagedBy access h.staged
          response := if d.givesUp access then none else h.response } := by
      simp [record, hcommits, hcpu']
    rw [hrecord]
    cases hgives : d.givesUp access with
    | true =>
      have hstocks' := stocks_givesUp (h := h) mailboxBytes hgives
      rw [hgives] at hstocks'
      refine ⟨hidle, fun w hw => hwindow w _ (Nat.le_refl _) hw, hstocks', hlatch, hlast,
        fun hloaded => ?_, hended⟩
      have hclear := (clock_givesUp mailboxBytes access hgives).1
      exact absurd (hclear.symm.trans hloaded) (by simp)
    | false =>
      have hstocks' := stocks_keeps mailboxBytes hstocks hcommits hgives
      rw [hgives] at hstocks'
      refine ⟨hidle, fun w hw => hwindow w _ (Nat.le_refl _) hw, hstocks', hlatch, hlast,
        fun hloaded hread => ?_, hended⟩
      obtain ⟨hsame, -, -, -, -, -, hmark⟩ :=
        clock_keeps mailboxBytes access hcommits hgives
      rcases hmark hread with hmark | hmark
      · have hspec := hmark
        simp only [marksRead, Bool.and_eq_true, decide_eq_true_eq] at hspec
        obtain ⟨⟨⟨hfire, hopcode⟩, -⟩, hcomplete⟩ := hspec
        obtain ⟨w, hw, hwhole⟩ := hlatch (hquiet hfire) hopcode hcomplete
        exact (hlast w hw).2 hwhole (hmarks hmark w hw)
      · exact hmarked (hsame.symm.trans hloaded) hmark

theorem txOk_reset (d : Device) : TxOk d.reset Outbox.empty where
  idle _ := rfl
  current w hw := (Option.some_ne_none w hw.symm).elim
  stocks :=
    { loaded := rfl
      content := fun r hr => (Option.some_ne_none r hr.symm).elim
      staging := fun _ => ⟨rfl, Nat.le_refl 0, by simp [Stores, Outbox.empty]⟩ }
  latch _ hopcode := absurd hopcode (show (0 : UInt8) ≠ opcodeReadResponse by decide)
  last w hw := (Option.some_ne_none w hw.symm).elim
  marked hloaded := absurd hloaded Bool.false_ne_true
  ended _ hw := absurd hw List.not_mem_nil

theorem txOk_step {q : Device × Outbox} {e : Event} (hok : TxOk q.1 q.2) (hkeeps : KeepsTx q e) :
    TxOk (recorded mailboxBytes q e).1 (recorded mailboxBytes q e).2 := by
  obtain ⟨d, h⟩ := q
  change TxOk (d.step mailboxBytes e) (d.record e h)
  cases e with
  | select => exact txOk_select hok
  | deselect =>
    cases hcs : d.csN with
    | true => simpa [step, record, hcs] using hok
    | false =>
      cases hw : h.current with
      | none =>
        obtain ⟨-, -, hstocks, hlatch, hlast, hmarked, hended⟩ := hok
        have hstep : d.step mailboxBytes .deselect =
            { d with
              csN := true
              frameEndToggle := !d.frameEndToggle } := by
          simp [step, hcs]
        have hrecord : d.record .deselect h = h := by
          simp [record, hcs, hw]
        rw [hstep, hrecord]
        refine ⟨fun _ => hw, fun w hw' => ?_, ⟨hstocks.loaded, hstocks.content, hstocks.staging⟩,
          hlatch, hlast, hmarked, hended⟩
        exact (Option.some_ne_none w (hw'.symm.trans hw)).elim
      | some w =>
        simpa [step, record, hcs, hw] using txOk_deselect hok hw (hkeeps hcs w hw)
  | rise mosi =>
    cases hsck : d.sck with
    | true => simpa [step, record, hsck] using hok
    | false =>
      cases hcs : d.csN with
      | true => simpa [step, record, hsck, hcs] using txOk_outside hok hcs
      | false => simpa [step, record, hsck, hcs] using txOk_rise hok hsck hcs (hkeeps hsck hcs)
  | fall =>
    cases hsck : d.sck with
    | true => simpa [step, record, hsck] using txOk_fall hok
    | false => simpa [step, record, hsck] using hok
  | clock access => exact txOk_clock hok hkeeps

/-- A committed response stays loaded until it is given up, every frame sends a prefix of the
response it found, and a response that is marked as read has been shifted out by one frame. -/
theorem responses_kept (mailboxBytes : Nat) (d : Device) {events : List Event}
    (h : Along (recorded mailboxBytes) KeepsTx (d.reset, Outbox.empty) events) :
    let q := run (recorded mailboxBytes) (d.reset, Outbox.empty) events
    q.1.tx.loaded = q.2.response.isSome ∧
      (∀ w, w ∈ q.2.ended ∨ q.2.current = some w → w.Exact) ∧
      (q.1.tx.loaded = true → q.1.tx.readComplete = true → q.2.shifted = true) := by
  intro q
  have hstep : ∀ (q : Device × Outbox) e, TxOk q.1 q.2 → KeepsTx q e →
      TxOk (recorded mailboxBytes q e).1 (recorded mailboxBytes q e).2 := fun _ _ => txOk_step
  have hok : TxOk q.1 q.2 := run_inv hstep (txOk_reset d) h
  refine ⟨hok.stocks.loaded, fun w hw => ?_, hok.marked⟩
  rcases hw with hw | hw
  · exact hok.ended w hw
  · exact (hok.current w hw).2.1.exact

/-- Accesses of the CPU, one after the other. -/
def busEvents (accesses : List Access) : List Event :=
  accesses.flatMap fun access => [.clock (some access), .clock none]

def stageTwo : List Event :=
  busEvents [.write .txLength 2 true, .write .txData 0x4f true, .write .txData 0x4b true]

def commitWord : Access := .write .control 2 true

/-- One frame shifts out a response of two bytes. -/
def readTwo : List Event :=
  stageTwo ++ busEvents [commitWord] ++ windowEvents [opcodeReadResponse, 0, 0, 0, 0]

theorem readResponse_kept :
    let q := run (recorded 256) (blank.reset, Outbox.empty) readTwo
    q.1.tx.loaded = true ∧ q.1.tx.readComplete = true ∧ q.2.shifted = true := by
  intro q
  have h : Along (recorded 256) KeepsTx (blank.reset, Outbox.empty) readTwo := by decide +kernel
  have hloaded : q.1.tx.loaded = true := by decide +kernel
  have hread : q.1.tx.readComplete = true := by decide +kernel
  exact ⟨hloaded, hread, (responses_kept 256 blank h).2.2 hloaded hread⟩

/-- The CPU's commit is lost when an SPI control frame ends in the same clock. -/
theorem displacedCommit_lost :
    let q := run (recorded 256) (blank.reset, Outbox.empty)
      (stageTwo ++ (windowEvents [opcodeWriteControl, 1, 0]).dropLast ++
        [.clock (some commitWord), .clock none])
    q.2.response = some [0x4f, 0x4b] ∧ q.1.tx.loaded ≠ q.2.response.isSome := by
  decide +kernel

end Device
end NodeNet.Spi

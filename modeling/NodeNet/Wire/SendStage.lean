import NodeNet.Wire.SendPhases

/-! A clock of a waiting or sending transmitter keeps the phases. -/
namespace NodeNet.Wire

section
variable {s : Station} {t : Tick} {frames : List WireFrame}

theorem tx_tick : (s.tick t).dev.tx = s.dev.txNext (s.cycle t) := rfl

theorem line_inactive (huart : UartOk s.dev) (h : s.dev.tx.active = false) :
    (s.tick t).line = s.line := by
  rw [line_tick huart, txByte_inactive h]
  exact List.append_nil _

variable {tx : Transmitter}

theorem Staged.start {m : Message} (h : Staged tx m m.bytes.length) (hactive : tx.active = false)
    (hpending : tx.pending = true) (hkind : tx.pendingIsHeartbeat = false) :
    Started tx.startFrame m.dst tx.nodeAddr m.bytes ∧ tx.startFrame.pending = false ∧
      tx.startFrame.nodeAddr = tx.nodeAddr := by
  have hstart : tx.startFrame = { tx with
      pending := false
      active := true
      frameIsHeartbeat := false
      state := .prefixLf
      prefixLfCount := 0
      streamIdx := 0
      frameDst := tx.stageDst
      frameLen := tx.stageLen
      crc := tx.stageDst ^^^ tx.nodeAddr ^^^ lenHi tx.stageLen ^^^ lenLo tx.stageLen } := by
    simp [Transmitter.startFrame, hactive, hpending, hkind]
  have hbuffer := h.buffer
  rw [List.take_length] at hbuffer
  rw [hstart]
  refine ⟨⟨rfl, rfl, rfl, rfl, rfl, rfl, h.dst, h.len, ?_, hbuffer⟩, rfl, rfl⟩
  rw [h.dst, h.len]

theorem heartbeat_start (hactive : tx.active = false) (hpending : tx.pending = true)
    (hkind : tx.pendingIsHeartbeat = true) (addr : UInt8) :
    let tx' := { tx.startFrame with nodeAddr := addr }
    tx'.Beats ∧ tx'.heartbeatTodo = heartbeatFrame addr := by
  have hstart : tx.startFrame = { tx with
      pending := false
      active := true
      frameIsHeartbeat := true
      state := .prefixLf
      prefixLfCount := 0
      streamIdx := 0
      frameDst := 0
      frameLen := 0
      crc := tx.nodeAddr } := by
    simp [Transmitter.startFrame, hactive, hpending, hkind]
  rw [hstart]
  exact ⟨⟨rfl, rfl, rfl, rfl, rfl, show (0 : BitVec 2) ≤ 2 by decide⟩, rfl⟩

theorem heartbeatWaits_tick (hok : SendOk s frames) (hwaits : s.cpu.waits = true)
    (hactive : s.dev.tx.active = false) (hpending : s.dev.tx.pending = true)
    (hkind : s.dev.tx.pendingIsHeartbeat = true)
    (hline : s.line = frames.flatMap WireFrame.bytes)
    (hdone : frames.flatMap WireFrame.messages = s.completed) : SendOk (s.tick t) frames := by
  have hbusy : s.dev.txIdle = false := by simp [Peripheral.txIdle, hpending]
  obtain ⟨hwaits', hpoll', hnone⟩ := cpu_busy (t := t) hok.poll hwaits hbusy
  have hline' := (line_inactive (t := t) hok.uart hactive).trans hline
  have hdone' := hdone.trans (completed_tick hnone).symm
  have htx := tx_tick.trans (Peripheral.txNext_pending (i := s.cycle t) hactive hpending)
  refine ⟨hok.uart.clock _, hpoll', ?_⟩
  cases hstarts : s.dev.frameStarts (s.cycle t) with
  | false =>
    rw [hstarts] at htx
    exact .heartbeatWaits hwaits' (by rw [htx]; exact hactive) (by rw [htx]; exact hpending)
      (by rw [htx]; exact hkind) hline' hdone'
  | true =>
    rw [hstarts, if_pos rfl] at htx
    obtain ⟨hbeats, htodo⟩ :=
      heartbeat_start hactive hpending hkind (s.dev.nodeAddrNext (s.cycle t))
    rw [← htx] at hbeats htodo
    refine .heartbeatGoes (s.dev.nodeAddrNext (s.cycle t)) [] hwaits' hbeats ?_ htodo
      (hline'.trans (List.append_nil _).symm) hdone'
    rw [htodo]
    exact List.cons_ne_nil _ _

theorem messageWaits_tick (hok : SendOk s frames) (hkeeps : KeepsSend s t) {m : Message}
    (hwaits : s.cpu.waits = true)
    (hactive : s.dev.tx.active = false) (hpending : s.dev.tx.pending = true)
    (hkind : s.dev.tx.pendingIsHeartbeat = false) (hstaged : Staged s.dev.tx m m.bytes.length)
    (hline : s.line = frames.flatMap WireFrame.bytes)
    (hdone : frames.flatMap WireFrame.messages ++ [m] = s.completed) :
    SendOk (s.tick t) frames := by
  have hbusy : s.dev.txIdle = false := by simp [Peripheral.txIdle, hpending]
  obtain ⟨hwaits', hpoll', hnone⟩ := cpu_busy (t := t) hok.poll hwaits hbusy
  have hline' := (line_inactive (t := t) hok.uart hactive).trans hline
  have hdone' := hdone.trans (completed_tick hnone).symm
  have htx := tx_tick.trans (Peripheral.txNext_pending (i := s.cycle t) hactive hpending)
  refine ⟨hok.uart.clock _, hpoll', ?_⟩
  cases hstarts : s.dev.frameStarts (s.cycle t) with
  | false =>
    rw [hstarts] at htx
    exact .messageWaits m hwaits' (by rw [htx]; exact hactive) (by rw [htx]; exact hpending)
      (by rw [htx]; exact hkind)
      (by rw [htx]; exact ⟨hstaged.valid, hstaged.dst, hstaged.len, hstaged.count, hstaged.buffer⟩)
      hline' hdone'
  | true =>
    rw [hstarts, if_pos rfl] at htx
    obtain ⟨hstarted, hfree, haddr⟩ := hstaged.start hactive hpending hkind
    have hsame : s.dev.nodeAddrNext (s.cycle t) = s.dev.tx.nodeAddr := by
      have hchange := hkeeps.2.2
      rw [tx_tick] at htx
      simp only [Station.changesAddress, hstarts, hkind, htx] at hchange
      simpa using hchange
    have htx' : (s.tick t).dev.tx = s.dev.tx.startFrame := by
      rw [htx, hsame, ← haddr]
    rw [← htx'] at hstarted hfree
    obtain ⟨t', hemits, hend⟩ := hstarted.emits m.fits
    exact .messageGoes s.dev.tx.nodeAddr m [] _ t' hwaits' hstarted.active hfree
      hstarted.notHeartbeat hemits hend rfl (hline'.trans (List.append_nil _).symm) hdone'

theorem Beats_setAddr (h : tx.Beats) (addr : UInt8) :
    ({ tx with nodeAddr := addr } : Transmitter).Beats :=
  ⟨h.active, h.pending, h.heartbeat, h.frameDst, h.frameLen, h.count⟩

theorem heartbeatTodo_ne_nil (h : tx.heartbeatTodo ≠ []) (addr : UInt8) :
    ({ tx with nodeAddr := addr } : Transmitter).heartbeatTodo ≠ [] := by
  cases hs : tx.state <;> simp_all [Transmitter.heartbeatTodo]

theorem stageOk_waits {cpu : SendState} (hwaits : cpu.waits = true)
    (hstage : tx.stageValid = false) : StageOk cpu tx := by
  cases cpu <;> first | exact hstage | exact absurd hwaits (by simp [SendState.waits])

theorem heartbeatGoes_tick (hok : SendOk s frames) {src : UInt8} {done : List UInt8}
    (hwaits : s.cpu.waits = true) (hbeats : s.dev.tx.Beats) (htodo : s.dev.tx.heartbeatTodo ≠ [])
    (hframe : done ++ s.dev.tx.heartbeatTodo = heartbeatFrame src)
    (hline : s.line = frames.flatMap WireFrame.bytes ++ done)
    (hdone : frames.flatMap WireFrame.messages = s.completed) :
    ∃ frames', SendOk (s.tick t) frames' := by
  have hbusy : s.dev.txIdle = false := by simp [Peripheral.txIdle, hbeats.active]
  obtain ⟨hwaits', hpoll', hnone⟩ := cpu_busy (t := t) hok.poll hwaits hbusy
  have hdone' := hdone.trans (completed_tick hnone).symm
  have htx := tx_tick.trans (Peripheral.txNext_active (i := s.cycle t) hbeats.active)
  have hline' := line_tick (t := t) hok.uart
  cases hedge : s.dev.byteEdge with
  | false =>
    rw [hedge] at htx
    have hnobyte : s.dev.txByte = none := by simp [Peripheral.txByte, hedge]
    rw [hnobyte, hline] at hline'
    obtain ⟨src', hframe'⟩ := heartbeatTodo_setAddr hframe (s.dev.nodeAddrNext (s.cycle t))
    refine ⟨frames, hok.uart.clock _, hpoll', .heartbeatGoes src' done hwaits' ?_ ?_ ?_ ?_ hdone'⟩
    · rw [htx]
      exact Beats_setAddr hbeats _
    · rw [htx]
      exact heartbeatTodo_ne_nil htodo _
    · rw [htx]
      exact hframe'
    · rw [hline']
      exact List.append_nil _
  | true =>
    rw [hedge, if_pos rfl] at htx
    obtain ⟨b, rest, hcons⟩ := List.exists_cons_of_ne_nil htodo
    obtain ⟨hbyte, hafter⟩ := hbeats.edge hcons
    have hsome : s.dev.txByte = some b := by simp [Peripheral.txByte, hedge, hbyte]
    rw [hsome, hline] at hline'
    rw [hcons] at hframe
    rcases hafter with ⟨hbeats', hrest, hne⟩ | ⟨hfree, hrest⟩
    · have hframe' : (done ++ [b]) ++ s.dev.tx.edge.1.heartbeatTodo = heartbeatFrame src := by
        rw [hrest, List.append_assoc]
        exact hframe
      obtain ⟨src', hframe'⟩ := heartbeatTodo_setAddr hframe' (s.dev.nodeAddrNext (s.cycle t))
      refine ⟨frames, hok.uart.clock _, hpoll',
        .heartbeatGoes src' (done ++ [b]) hwaits' ?_ ?_ ?_ ?_ hdone'⟩
      · rw [htx]
        exact Beats_setAddr hbeats' _
      · rw [htx]
        exact heartbeatTodo_ne_nil (by rw [hrest]; exact hne) _
      · rw [htx]
        exact hframe'
      · rw [hline', List.append_assoc]
        rfl
    · refine ⟨frames ++ [.heartbeat src], hok.uart.clock _, hpoll', .free ?_ ?_ ?_ ?_ ?_⟩
      · rw [htx]
        exact hfree.active
      · rw [htx]
        exact hfree.pending
      · rw [htx]
        exact stageOk_waits hwaits' hfree.stage
      · rw [hline', List.append_assoc, List.flatMap_append]
        have hall : done ++ [b] = heartbeatFrame src := by rw [← hframe, hrest]
        simp [WireFrame.bytes, ← hall]
      · rw [List.flatMap_append, ← hdone']
        exact List.append_nil _

theorem address_kept (hkeeps : KeepsSend s t) (hactive : s.dev.tx.active = true)
    (hkind : s.dev.tx.frameIsHeartbeat = false) :
    s.dev.nodeAddrNext (s.cycle t) = s.dev.tx.nodeAddr ∨ s.dev.tx.pastSrc ∨
      s.dev.tx.state = .hdrSrc ∧ s.dev.byteEdge = true := by
  have hchange := hkeeps.2.2
  have haddr : (s.dev.txNext (s.cycle t)).nodeAddr = s.dev.nodeAddrNext (s.cycle t) := by
    rw [Peripheral.txNext_active hactive]
    split <;> rfl
  simp only [Station.changesAddress, haddr, hactive, hkind] at hchange
  by_cases hsame : s.dev.nodeAddrNext (s.cycle t) = s.dev.tx.nodeAddr
  · exact Or.inl hsame
  · refine Or.inr ?_
    cases hs : s.dev.tx.state <;> simp_all [Transmitter.pastSrc]

theorem messageGoes_tick (hok : SendOk s frames) (hkeeps : KeepsSend s t) {src : UInt8}
    {m : Message} {done todo : List UInt8} (hwaits : s.cpu.waits = true)
    (hactive : s.dev.tx.active = true) (hpending : s.dev.tx.pending = false)
    (hkind : s.dev.tx.frameIsHeartbeat = false) (hemits : Emits s.dev.tx todo tx)
    (hend : tx.active = false) (hframe : done ++ todo = dataFrame m.dst src m.bytes)
    (hline : s.line = frames.flatMap WireFrame.bytes ++ done)
    (hdone : frames.flatMap WireFrame.messages ++ [m] = s.completed) :
    ∃ frames', SendOk (s.tick t) frames' := by
  have hbusy : s.dev.txIdle = false := by simp [Peripheral.txIdle, hactive]
  obtain ⟨hwaits', hpoll', hnone⟩ := cpu_busy (t := t) hok.poll hwaits hbusy
  have hdone' := hdone.trans (completed_tick hnone).symm
  have htx := tx_tick.trans (Peripheral.txNext_active (i := s.cycle t) hactive)
  have hline' := line_tick (t := t) hok.uart
  have haddr := address_kept hkeeps hactive hkind
  cases hedge : s.dev.byteEdge with
  | false =>
    rw [hedge] at htx haddr
    have hnobyte : s.dev.txByte = none := by simp [Peripheral.txByte, hedge]
    rw [hnobyte, hline] at hline'
    have hemits' : ∃ tx', Emits (s.tick t).dev.tx todo tx' ∧ tx'.active = false := by
      rcases haddr with hsame | hpast | ⟨-, hfalse⟩
      · refine ⟨tx, ?_, hend⟩
        rw [htx, hsame]
        exact hemits
      · refine ⟨{ tx with nodeAddr := s.dev.nodeAddrNext (s.cycle t) }, ?_, hend⟩
        rw [htx]
        exact hemits.setAddr hpast _
      · exact absurd hfalse Bool.false_ne_true
    obtain ⟨tx', hemits', hend'⟩ := hemits'
    refine ⟨frames, hok.uart.clock _, hpoll', .messageGoes src m done todo tx' hwaits' ?_ ?_ ?_
      hemits' hend' hframe ?_ hdone'⟩
    · rw [htx]
      exact hactive
    · rw [htx]
      exact hpending
    · rw [htx]
      exact hkind
    · rw [hline']
      exact List.append_nil _
  | true =>
    rw [hedge, if_pos rfl] at htx
    cases hemits with
    | nil => exact absurd (hactive.symm.trans hend) Bool.false_ne_true.symm
    | @cons _ tx₁ _ b rest hb hrest =>
      have hsome : s.dev.txByte = some b := by simp [Peripheral.txByte, hedge, hb]
      rw [hsome, hline] at hline'
      have hframe' : (done ++ [b]) ++ rest = dataFrame m.dst src m.bytes := by
        rw [List.append_assoc]
        exact hframe
      have hpast : s.dev.nodeAddrNext (s.cycle t) = s.dev.tx.nodeAddr ∨ tx₁.pastSrc := by
        have hnext := edge_pastSrc (t := s.dev.tx) hactive
        rw [hb] at hnext
        exact haddr.imp_right fun h => hnext (h.imp_right And.left)
      have hemits' : ∃ tx', Emits (s.tick t).dev.tx rest tx' ∧ tx'.active = false := by
        rw [hb] at htx
        rcases hpast with hsame | hpast
        · refine ⟨tx, ?_, hend⟩
          have haddr₁ : tx₁.nodeAddr = s.dev.tx.nodeAddr := by
            have hedgeAddr := edge_nodeAddr s.dev.tx
            rwa [hb] at hedgeAddr
          rw [htx, hsame, ← haddr₁]
          exact hrest
        · refine ⟨{ tx with nodeAddr := s.dev.nodeAddrNext (s.cycle t) }, ?_, hend⟩
          rw [htx]
          exact hrest.setAddr hpast _
      obtain ⟨tx', hemits', hend'⟩ := hemits'
      have hnext : (s.tick t).dev.tx.active = s.dev.tx.edge.1.active := by rw [htx]
      have hpending' : (s.tick t).dev.tx.pending = false := by
        rw [htx]
        exact (edge_pending s.dev.tx).trans hpending
      cases hgoes : (s.tick t).dev.tx.active with
      | true =>
        refine ⟨frames, hok.uart.clock _, hpoll', .messageGoes src m (done ++ [b]) rest tx' hwaits'
          hgoes hpending' ?_ hemits' hend' hframe' ?_ hdone'⟩
        · rw [htx]
          exact (edge_heartbeat (hnext.symm.trans hgoes)).trans hkind
        · rw [hline', List.append_assoc]
          rfl
      | false =>
        have hnil : rest = [] := by
          cases hemits' with
          | nil => rfl
          | cons hb' _ => exact absurd ((active_of_edge hb').symm.trans hgoes) Bool.false_ne_true.symm
        have hstage : (s.tick t).dev.tx.stageValid = false := by
          rw [htx]
          exact edge_inactive (b := b) hactive (by rw [hb]) (hnext.symm.trans hgoes)
        refine ⟨frames ++ [.data src m], hok.uart.clock _, hpoll',
          .free hgoes hpending' (stageOk_waits hwaits' hstage) ?_ ?_⟩
        · rw [hnil, List.append_nil] at hframe'
          rw [hline', List.append_assoc, List.flatMap_append]
          simp [WireFrame.bytes, ← hframe']
        · rw [List.flatMap_append, ← hdone']
          rfl

end

/-! A clock of a free transmitter: the driver stages a message, or a heartbeat comes first. -/

variable {s : Station} {t : Tick} {frames : List WireFrame}

theorem cpuNext_quiet (h : s.sendFires t = false) (hpolled : ∀ m, s.cpu ≠ .polled m)
    (hidle : s.cpu ≠ .idle) : s.cpuNext t = s.cpu := by
  unfold Station.cpuNext
  cases hs : s.cpu with
  | idle => exact absurd hs hidle
  | polled m => exact absurd hs (hpolled m)
  | _ => cases t.cpu <;> simp [h]

theorem pollOk_other (h : ∀ m, s.cpu ≠ .polled m) : PollOk s := by
  unfold PollOk
  split
  · next m hs => exact absurd hs (h m)
  · trivial

theorem stageValid_spares (hactive : s.dev.tx.active = false) (hpending : s.dev.tx.pending = false)
    (hspares : s.dev.sparesStage (s.cycle t) = true) (htakes : s.heartbeatTakes t = false) :
    (s.tick t).dev.tx = { s.dev.tx with nodeAddr := s.dev.nodeAddrNext (s.cycle t) } := by
  rw [tx_tick, Peripheral.txNext_spares hactive hpending hspares]
  exact if_neg fun h => Bool.false_ne_true (htakes.symm.trans h)

/-- A heartbeat takes the free transmitter only while the driver is polling. -/
theorem heartbeat_tick (hok : SendOk s frames) (hkeeps : KeepsSend s t)
    (hactive : s.dev.tx.active = false) (hpending : s.dev.tx.pending = false)
    (hstage : StageOk s.cpu s.dev.tx) (hline : s.line = frames.flatMap WireFrame.bytes)
    (hdone : frames.flatMap WireFrame.messages = s.completed)
    (htakes : s.heartbeatTakes t = true) : SendOk (s.tick t) frames := by
  have hidle : s.dev.txIdle = true := by
    cases hidle : s.dev.txIdle with
    | true => rfl
    | false =>
      simp [Station.heartbeatTakes, Peripheral.heartbeatStarts_busy hidle,
        Peripheral.heartbeatRequested_busy hidle] at htakes
  have hvalid : s.dev.tx.stageValid = false := by
    simp only [Peripheral.txIdle, Bool.and_eq_true, Bool.not_eq_true'] at hidle
    exact hidle.1.1
  have htrusts : s.trustsIdle t = false := by
    cases htrusts : s.trustsIdle t with
    | false => rfl
    | true => exact absurd (htakes.symm.trans (hkeeps.2.1 htrusts)) Bool.false_ne_true.symm
  have hwaits : s.cpu.waits = true := by
    cases hs : s.cpu with
    | idle | polling m | polled m => rfl
    | command m => simp [Station.trustsIdle, hs] at htrusts
    | data m k =>
      rw [hs] at hstage
      exact absurd (hstage.2.valid.symm.trans hvalid) Bool.false_ne_true.symm
    | control m =>
      rw [hs] at hstage
      exact absurd (hstage.valid.symm.trans hvalid) Bool.false_ne_true.symm
  have hcpu : (∃ m, (s.tick t).cpu = .polling m) ∨ (s.tick t).cpu = .idle := by
    cases hs : s.cpu with
    | idle => exact (cpuNext_idle (t := t) hs).symm
    | polling m =>
      have hquiet : s.sendFires t = false := by simpa [Station.trustsIdle, hs] using htrusts
      exact Or.inl ⟨m, (cpuNext_polling hs).trans (if_neg (by simp [hquiet]))⟩
    | polled m =>
      have hnonzero : s.dev.datO &&& statusTxBusy ≠ 0 := by
        simpa [Station.trustsIdle, hs] using htrusts
      exact Or.inl ⟨m, (cpuNext_polled hs).trans (if_neg hnonzero)⟩
    | command m | data m k | control m => simp [SendState.waits, hs] at hwaits
  have hnone : s.completes t = [] := by
    refine completes_nil fun m hs => ?_
    simp [SendState.waits, hs] at hwaits
  have htx : (s.tick t).dev.tx = { s.dev.tx with
      pending := true
      pendingIsHeartbeat := true
      nodeAddr := s.dev.nodeAddrNext (s.cycle t) } := by
    rw [tx_tick, Peripheral.txNext_spares hactive hpending (spares_cycle (Or.inr hwaits))]
    exact if_pos htakes
  refine ⟨hok.uart.clock _, ?_, .heartbeatWaits ?_ ?_ ?_ ?_ ?_ ?_⟩
  · refine pollOk_other fun m hs => ?_
    rcases hcpu with ⟨m', h⟩ | h <;> rw [h] at hs <;> cases hs
  · rcases hcpu with ⟨m, h⟩ | h <;> rw [h] <;> rfl
  · rw [htx]
    exact hactive
  · rw [htx]
  · rw [htx]
  · exact (line_inactive hok.uart hactive).trans hline
  · exact hdone.trans (completed_tick hnone).symm

/-- Without a heartbeat and without a write of the send the stage stays as it is. -/
theorem spares_tick (hok : SendOk s frames) (hactive : s.dev.tx.active = false)
    (hpending : s.dev.tx.pending = false) (hstage : StageOk s.cpu s.dev.tx)
    (hline : s.line = frames.flatMap WireFrame.bytes)
    (hdone : frames.flatMap WireFrame.messages = s.completed)
    (htakes : s.heartbeatTakes t = false) (hquiet : s.sendFires t = false ∨ s.cpu.waits = true) :
    SendOk (s.tick t) frames := by
  have htx := stageValid_spares hactive hpending (spares_cycle hquiet) htakes
  have hnone : s.completes t = [] := by
    unfold Station.completes
    split
    · next m hs =>
      have hno := hquiet.resolve_right (by simp [SendState.waits, hs])
      simp [hno]
    · rfl
  have hcpu : (s.tick t).cpu = s.cpuNext t := rfl
  refine ⟨hok.uart.clock _, ?_, .free ?_ ?_ ?_ ?_ ?_⟩
  · cases hs : s.cpu with
    | polling m =>
      cases hfires : s.sendFires t with
      | false => exact pollOk_other (by simp [hcpu, cpuNext_polling hs, hfires])
      | true =>
        obtain ⟨hack, hdat⟩ := status_read hs hfires
        rw [PollOk, hcpu, cpuNext_polling hs, hfires]
        refine ⟨hack, fun hzero => ?_⟩
        rw [hdat, status_idle] at hzero
        rw [Peripheral.txIdle, htx]
        exact hzero
    | idle =>
      refine pollOk_other fun m h => ?_
      rcases cpuNext_idle (t := t) hs with h' | ⟨m', h'⟩ <;> rw [hcpu, h'] at h <;> cases h
    | polled m =>
      refine pollOk_other fun m' h => ?_
      rw [hcpu, cpuNext_polled hs] at h
      split at h <;> cases h
    | command m | data m k | control m =>
      have hno := hquiet.resolve_right (by simp [SendState.waits, hs])
      have hsame := cpuNext_quiet hno (by simp [hs]) (by simp [hs])
      exact pollOk_other (by simp [hcpu, hsame, hs])
  · rw [htx]
    exact hactive
  · rw [htx]
    exact hpending
  · rw [htx, hcpu]
    cases hs : s.cpu with
    | idle =>
      rw [hs] at hstage
      rcases cpuNext_idle (t := t) hs with h | ⟨m, h⟩ <;> rw [h] <;> exact hstage
    | polling m =>
      rw [hs] at hstage
      rw [cpuNext_polling hs]
      split <;> exact hstage
    | polled m =>
      rw [hs] at hstage
      rw [cpuNext_polled hs]
      split <;> exact hstage
    | command m | data m k | control m =>
      have hno := hquiet.resolve_right (by simp [SendState.waits, hs])
      rw [cpuNext_quiet hno (by simp [hs]) (by simp [hs]), hs]
      rw [hs] at hstage
      first
      | exact hstage
      | exact ⟨hstage.1, hstage.2.valid, hstage.2.dst, hstage.2.len, hstage.2.count,
          hstage.2.buffer⟩
      | exact ⟨hstage.valid, hstage.dst, hstage.len, hstage.count, hstage.buffer⟩
  · exact (line_inactive hok.uart hactive).trans hline
  · exact hdone.trans (completed_tick hnone).symm

theorem fired_step (hfires : s.sendFires t = true) {a : Access} (ha : s.cpu.access = some a) :
    s.dev.fired (s.cycle t) = some a := by
  simp only [Station.sendFires, Bool.and_eq_true, decide_eq_true_eq, Bool.not_eq_true'] at hfires
  simp [fired_cycle, hfires.2, Station.access, hfires.1, ha]

theorem cpuNext_step (hfires : s.sendFires t = true) (hpolled : ∀ m, s.cpu ≠ .polled m) :
    s.cpuNext t = s.cpu.advance := by
  have hstep : t.cpu = .step := by
    simp only [Station.sendFires, Bool.and_eq_true, decide_eq_true_eq] at hfires
    exact hfires.1
  unfold Station.cpuNext
  cases hs : s.cpu with
  | polled m => exact absurd hs (hpolled m)
  | _ => simp [hstep, hfires]

theorem command_tick {m : Message} (hs : s.cpu = .command m) (hfires : s.sendFires t = true)
    (hactive : s.dev.tx.active = false) (hpending : s.dev.tx.pending = false)
    (htakes : s.heartbeatTakes t = false) :
    Staged (s.tick t).dev.tx m 0 ∧ (s.tick t).dev.tx.active = false ∧
      (s.tick t).dev.tx.pending = false := by
  have hfired := fired_step hfires (a := .write .txCmd
    ((m.dst.toUInt32 <<< 24) ||| (UInt32.ofNat m.bytes.length))) (by rw [hs]; rfl)
  have hstarts : s.dev.heartbeatStarts (s.cycle t) = false := by
    simp only [Station.heartbeatTakes, Bool.or_eq_false_iff] at htakes
    exact htakes.1
  have hmax : UInt16.ofNat m.bytes.length ≤ maxPayload := by
    have := m.fits
    rw [UInt16.le_iff_toNat_le, UInt16.toNat_ofNat', Nat.mod_eq_of_lt (by omega)]
    exact m.fits
  have htx : (s.tick t).dev.tx = { s.dev.tx with
      stageDst := m.dst
      stageLen := UInt16.ofNat m.bytes.length
      loadCount := 0
      stageValid := true
      pendingIsHeartbeat := false } := by
    rw [tx_tick, Peripheral.txNext_free hactive hpending, hstarts]
    simp only [Peripheral.accessTx, hfired, hactive, hpending, txCmd_dst m.dst m.fits, txCmd_len]
    simp [hmax, hactive, hpending]
  rw [htx]
  refine ⟨⟨rfl, rfl, rfl, rfl, ?_⟩, hactive, hpending⟩
  intro j hj
  simp at hj

theorem staged_keeps {tx : Transmitter} {m : Message} {k : Nat} {dev : Peripheral}
    (h : Staged tx m k) (htx : dev.tx = tx) (i : Cycle) : dev.heartbeatStarts i = false := by
  refine Peripheral.heartbeatStarts_busy ?_
  simp [Peripheral.txIdle, htx, h.valid]

/-- The data register takes the next byte. -/
theorem data_tick {m : Message} {k : Nat} (hs : s.cpu = .data m k) (hfires : s.sendFires t = true)
    (hactive : s.dev.tx.active = false) (hpending : s.dev.tx.pending = false)
    (hk : k < m.bytes.length) (hstaged : Staged s.dev.tx m k) :
    Staged (s.tick t).dev.tx m (k + 1) ∧ (s.tick t).dev.tx.active = false ∧
      (s.tick t).dev.tx.pending = false := by
  have hfits := m.fits
  have hfired := fired_step hfires (a := .write .txData (m.bytes.getD k 0).toUInt32)
    (by rw [hs]; rfl)
  have hroom : s.dev.tx.loadCount < s.dev.tx.stageLen ∧ s.dev.tx.loadCount < maxPayload := by
    have hmax : maxPayload.toNat = 2048 := rfl
    rw [hstaged.count, hstaged.len, UInt16.lt_iff_toNat_lt, UInt16.lt_iff_toNat_lt,
      UInt16.toNat_ofNat', UInt16.toNat_ofNat', Nat.mod_eq_of_lt (by omega),
      Nat.mod_eq_of_lt (by omega)]
    omega
  have htx : (s.tick t).dev.tx = { s.dev.tx with
      buffer := fun j => if j = s.dev.tx.loadCount then m.bytes.getD k 0 else s.dev.tx.buffer j
      loadCount := s.dev.tx.loadCount + 1 } := by
    rw [tx_tick, Peripheral.txNext_free hactive hpending, staged_keeps hstaged rfl]
    simp [Peripheral.accessTx, hfired, hactive, hpending, hstaged.valid, hroom]
  rw [htx]
  refine ⟨⟨hstaged.valid, hstaged.dst, hstaged.len, ?_, ?_⟩, hactive, hpending⟩
  · rw [hstaged.count, UInt16.ofNat_add]
    rfl
  · intro j hj
    have hlen : j < k + 1 := by
      rw [List.length_take] at hj
      omega
    have hindex : UInt16.ofNat (0 + j) = s.dev.tx.loadCount ↔ j = k := by
      rw [hstaged.count, ← UInt16.toNat_inj, UInt16.toNat_ofNat', UInt16.toNat_ofNat',
        Nat.mod_eq_of_lt (by omega), Nat.mod_eq_of_lt (by omega)]
      omega
    change (if UInt16.ofNat (0 + j) = s.dev.tx.loadCount then m.bytes.getD k 0
      else s.dev.tx.buffer (UInt16.ofNat (0 + j))) = _
    by_cases hlast : j = k
    · rw [if_pos (hindex.mpr hlast)]
      subst hlast
      simp [List.getElem?_eq_getElem hk]
    · have hj' : j < (m.bytes.take k).length := by
        rw [List.length_take]
        omega
      rw [if_neg (mt hindex.mp hlast), hstaged.buffer j hj']
      simp

theorem control_tick {m : Message} (hs : s.cpu = .control m) (hfires : s.sendFires t = true)
    (hactive : s.dev.tx.active = false) (hpending : s.dev.tx.pending = false)
    (hstaged : Staged s.dev.tx m m.bytes.length)
    (hquiet : s.dev.rxInProgress (s.cycle t) = false) :
    (s.tick t).dev.tx = { s.dev.tx with pending := true, pendingIsHeartbeat := false } := by
  have hfired := fired_step hfires (a := .write .control 1) (by rw [hs]; rfl)
  have hcount : s.dev.tx.loadCount = s.dev.tx.stageLen := hstaged.count.trans hstaged.len.symm
  have hidle : s.dev.txIdle = false := by simp [Peripheral.txIdle, hstaged.valid]
  have hrequest : s.dev.sendRequested (s.cycle t) = true := by
    simp [Peripheral.sendRequested, hfired, hstaged.valid, hpending, hactive, hquiet, hcount]
  rw [tx_tick, Peripheral.txNext_free hactive hpending, staged_keeps hstaged rfl]
  simp [Peripheral.accessTx, hfired, Peripheral.heartbeatRequested_busy hidle, hrequest]

/-- A clock of a free transmitter. -/
theorem free_tick (hok : SendOk s frames) (hkeeps : KeepsSend s t)
    (hactive : s.dev.tx.active = false) (hpending : s.dev.tx.pending = false)
    (hstage : StageOk s.cpu s.dev.tx) (hline : s.line = frames.flatMap WireFrame.bytes)
    (hdone : frames.flatMap WireFrame.messages = s.completed) : SendOk (s.tick t) frames := by
  cases htakes : s.heartbeatTakes t with
  | true => exact heartbeat_tick hok hkeeps hactive hpending hstage hline hdone htakes
  | false =>
    have hquiet := spares_tick (t := t) hok hactive hpending hstage hline hdone htakes
    cases hfires : s.sendFires t with
    | false => exact hquiet (Or.inl hfires)
    | true =>
      have hline' := (line_inactive (t := t) hok.uart hactive).trans hline
      have hcpu : (s.tick t).cpu = s.cpuNext t := rfl
      cases hs : s.cpu with
      | idle | polling m | polled m => exact hquiet (Or.inr (by rw [hs]; rfl))
      | command m =>
        obtain ⟨hstaged, hactive', hpending'⟩ :=
          command_tick hs hfires hactive hpending htakes
        have hnext : (s.tick t).cpu = if m.bytes = [] then .control m else .data m 0 := by
          rw [hcpu, cpuNext_step hfires (by simp [hs]), hs]
          rfl
        have hnone := completes_nil (s := s) (t := t) (by simp [hs])
        refine ⟨hok.uart.clock _, pollOk_other ?_, .free hactive' hpending' ?_ hline'
          (hdone.trans (completed_tick hnone).symm)⟩
        · intro m' h
          rw [hnext] at h
          split at h <;> cases h
        · rw [hnext]
          split
          · next hnil =>
            rw [StageOk, hnil]
            exact hstaged
          · next hne => exact ⟨List.length_pos_iff.mpr hne, hstaged⟩
      | data m k =>
        rw [hs] at hstage
        obtain ⟨hstaged, hactive', hpending'⟩ :=
          data_tick hs hfires hactive hpending hstage.1 hstage.2
        have hnext : (s.tick t).cpu =
            if k + 1 < m.bytes.length then .data m (k + 1) else .control m := by
          rw [hcpu, cpuNext_step hfires (by simp [hs]), hs]
          rfl
        have hnone := completes_nil (s := s) (t := t) (by simp [hs])
        refine ⟨hok.uart.clock _, pollOk_other ?_, .free hactive' hpending' ?_ hline'
          (hdone.trans (completed_tick hnone).symm)⟩
        · intro m' h
          rw [hnext] at h
          split at h <;> cases h
        · rw [hnext]
          split
          · next hk => exact ⟨hk, hstaged⟩
          · next hk =>
            have hend : k + 1 = m.bytes.length := by
              have := hstage.1
              omega
            rw [StageOk, ← hend]
            exact hstaged
      | control m =>
        rw [hs] at hstage
        have hcompletes : s.completes t = [m] := by simp [Station.completes, hs, hfires]
        have hrx := hkeeps.1 (by simp [hcompletes])
        have htx := control_tick hs hfires hactive hpending hstage hrx
        have hnext : (s.tick t).cpu = .idle := by
          rw [hcpu, cpuNext_step hfires (by simp [hs]), hs]
          rfl
        refine ⟨hok.uart.clock _, pollOk_other (by simp [hnext]),
          .messageWaits m (by rw [hnext]; rfl) ?_ ?_ ?_ ?_ hline' ?_⟩
        · rw [htx]
          exact hactive
        · rw [htx]
        · rw [htx]
        · rw [htx]
          exact ⟨hstage.valid, hstage.dst, hstage.len, hstage.count, hstage.buffer⟩
        · rw [hdone, Station.tick, hcompletes]

theorem sendOk_tick (hok : SendOk s frames) (hkeeps : KeepsSend s t) :
    ∃ frames', SendOk (s.tick t) frames' := by
  cases hok.engine with
  | free hactive hpending hstage hline hdone =>
    exact ⟨frames, free_tick hok hkeeps hactive hpending hstage hline hdone⟩
  | heartbeatWaits hwaits hactive hpending hkind hline hdone =>
    exact ⟨frames, heartbeatWaits_tick hok hwaits hactive hpending hkind hline hdone⟩
  | messageWaits m hwaits hactive hpending hkind hstaged hline hdone =>
    exact ⟨frames, messageWaits_tick hok hkeeps hwaits hactive hpending hkind hstaged hline hdone⟩
  | heartbeatGoes src done hwaits hbeats htodo hframe hline hdone =>
    exact heartbeatGoes_tick hok hwaits hbeats htodo hframe hline hdone
  | messageGoes src m done todo tx hwaits hactive hpending hkind hemits hend hframe hline hdone =>
    exact messageGoes_tick hok hkeeps hwaits hactive hpending hkind hemits hend hframe hline hdone

end NodeNet.Wire

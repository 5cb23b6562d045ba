import NodeNet.Wire.Transmit

/-! What the transmit state machine puts on the wire for a staged payload. -/
namespace NodeNet.Wire

/-- The ready edges give exactly these bytes to the UART, one each. -/
inductive Emits : Transmitter → List UInt8 → Transmitter → Prop where
  | nil (t : Transmitter) : Emits t [] t
  | cons {t t' t'' : Transmitter} {b : UInt8} {bytes : List UInt8} (hb : t.edge = (t', some b))
    (h : Emits t' bytes t'') : Emits t (b :: bytes) t''

theorem Emits.append {t t' t'' : Transmitter} {bytes rest : List UInt8} (h : Emits t bytes t')
    (h' : Emits t' rest t'') : Emits t (bytes ++ rest) t'' := by
  induction h with
  | nil t => exact h'
  | cons hb _ ih => exact .cons hb (ih h')

theorem emit_inactive {t : Transmitter} (h : t.active = false) (n : Nat) : t.emit n = (t, []) := by
  induction n with
  | zero => rfl
  | succ n ih =>
    have hedge : t.edge = (t, none) := by simp [Transmitter.edge, h]
    rw [Transmitter.emit, hedge, ih]
    rfl

theorem Emits.emit {t t' : Transmitter} {bytes : List UInt8} (h : Emits t bytes t')
    (hdone : t'.active = false) {n : Nat} (hn : bytes.length ≤ n) : t.emit n = (t', bytes) := by
  induction h generalizing n with
  | nil t => exact emit_inactive hdone n
  | cons hb _ ih =>
    cases n with
    | zero => simp at hn
    | succ n =>
      rw [Transmitter.emit, hb, ih hdone (by simpa using hn)]
      rfl

theorem emits_byte {t : Transmitter} (hactive : t.active = true) (hstate : t.state = .payloadHi) :
    Emits t [encodeNibbleHigh (t.buffer t.streamIdx), encodeNibbleLow (t.buffer t.streamIdx)]
      (if t.frameLen ≤ t.streamIdx + 1 then
        { t with
          currentByte := t.buffer t.streamIdx
          crc := t.crc ^^^ t.buffer t.streamIdx
          streamIdx := 0
          state := .etx }
      else
        { t with
          currentByte := t.buffer t.streamIdx
          crc := t.crc ^^^ t.buffer t.streamIdx
          streamIdx := t.streamIdx + 1
          state := .payloadHi }) := by
  have hhigh : t.edge = ({ t with currentByte := t.buffer t.streamIdx, state := .payloadLo },
      some (encodeNibbleHigh (t.buffer t.streamIdx))) := by
    simp [Transmitter.edge, hactive, hstate]
  refine .cons hhigh (.cons ?_ (.nil _))
  simp only [Transmitter.edge, hactive]
  rfl

/-- The buffer holds these bytes from an index on. -/
def Holds (buffer : UInt16 → UInt8) (i : Nat) (bytes : List UInt8) : Prop :=
  ∀ j (h : j < bytes.length), buffer (UInt16.ofNat (i + j)) = bytes.get ⟨j, h⟩

theorem Holds.tail {buffer : UInt16 → UInt8} {i : Nat} {b : UInt8} {bytes : List UInt8}
    (h : Holds buffer i (b :: bytes)) : Holds buffer (i + 1) bytes := by
  intro j hj
  have hb := h (j + 1) (by simpa using hj)
  rw [show i + 1 + j = i + (j + 1) by omega, hb]
  rfl

theorem Holds.head {buffer : UInt16 → UInt8} {i : Nat} {b : UInt8} {bytes : List UInt8}
    (h : Holds buffer i (b :: bytes)) : buffer (UInt16.ofNat i) = b := h 0 (by simp)

theorem emits_payload {payload : List UInt8} (hne : payload ≠ []) {t : Transmitter} {i : Nat}
    (hactive : t.active = true) (hstate : t.state = .payloadHi)
    (hidx : t.streamIdx = UInt16.ofNat i) (hlen : t.frameLen = UInt16.ofNat (i + payload.length))
    (hbound : i + payload.length ≤ 2048) (hbuffer : Holds t.buffer i payload) :
    ∃ currentByte, Emits t (encodePayload payload)
      { t with
        currentByte := currentByte
        crc := payload.foldl (· ^^^ ·) t.crc
        streamIdx := 0
        state := .etx } := by
  induction payload generalizing t i with
  | nil => exact absurd rfl hne
  | cons b rest ih =>
    have hbyte := emits_byte hactive hstate
    have hb : t.buffer t.streamIdx = b := by rw [hidx, hbuffer.head]
    have hnext : t.streamIdx + 1 = UInt16.ofNat (i + 1) := by rw [hidx, UInt16.ofNat_add]; rfl
    have hle : t.frameLen ≤ t.streamIdx + 1 ↔ rest = [] := by
      rw [hnext, hlen, UInt16.le_iff_toNat_le, UInt16.toNat_ofNat', UInt16.toNat_ofNat',
        Nat.mod_eq_of_lt (by omega), Nat.mod_eq_of_lt (by simp at hbound ⊢; omega),
        ← List.length_eq_zero_iff]
      simp
    rw [hb] at hbyte
    by_cases hrest : rest = []
    · subst hrest
      rw [if_pos (hle.mpr rfl)] at hbyte
      exact ⟨b, hbyte⟩
    · rw [if_neg (hrest ∘ hle.mp)] at hbyte
      obtain ⟨currentByte, hemits⟩ := ih hrest (t := { t with
          currentByte := b
          crc := t.crc ^^^ b
          streamIdx := t.streamIdx + 1
          state := .payloadHi }) (i := i + 1) hactive rfl hnext
        (by rw [hlen, List.length_cons]; congr 1; omega)
        (by simp at hbound; omega) hbuffer.tail
      exact ⟨currentByte, hbyte.append hemits⟩

/-- Staging writes the payload to the buffer, byte after byte. -/
theorem stagePayload {payload : List UInt8} {t : Transmitter} {i : Nat}
    (hactive : t.active = false) (hpending : t.pending = false) (hvalid : t.stageValid = true)
    (hcount : t.loadCount = UInt16.ofNat i)
    (hlen : t.stageLen = UInt16.ofNat (i + payload.length)) (hbound : i + payload.length ≤ 2048) :
    ∃ buffer, payload.foldl Transmitter.writeTxData t =
        { t with buffer := buffer, loadCount := t.stageLen } ∧
      Holds buffer i payload ∧ ∀ j < i, buffer (UInt16.ofNat j) = t.buffer (UInt16.ofNat j) := by
  induction payload generalizing t i with
  | nil =>
    refine ⟨t.buffer, ?_, fun j hj => by simp at hj, fun _ _ => rfl⟩
    cases t
    simp only [List.length_nil, Nat.add_zero] at hcount hlen
    simp [hcount, hlen]
  | cons b rest ih =>
    simp only [List.length_cons] at hlen hbound
    have hlt : t.loadCount < t.stageLen := by
      rw [hcount, hlen, UInt16.lt_iff_toNat_lt, UInt16.toNat_ofNat', UInt16.toNat_ofNat',
        Nat.mod_eq_of_lt (by omega), Nat.mod_eq_of_lt (by omega)]
      omega
    have hmax : t.loadCount < maxPayload := by
      rw [hcount, UInt16.lt_iff_toNat_lt, UInt16.toNat_ofNat', Nat.mod_eq_of_lt (by omega)]
      change i < 2048
      omega
    have hwrite : t.writeTxData b = { t with
        buffer := fun k => if k = t.loadCount then b else t.buffer k
        loadCount := t.loadCount + 1 } := by
      simp [Transmitter.writeTxData, hactive, hpending, hvalid, hlt, hmax]
    have hnext : t.loadCount + 1 = UInt16.ofNat (i + 1) := by
      rw [hcount, UInt16.ofNat_add]
      rfl
    have hne : ∀ j < i, UInt16.ofNat j ≠ t.loadCount := by
      intro j hj heq
      rw [hcount] at heq
      have := congrArg UInt16.toNat heq
      rw [UInt16.toNat_ofNat', UInt16.toNat_ofNat', Nat.mod_eq_of_lt (by omega),
        Nat.mod_eq_of_lt (by omega)] at this
      omega
    obtain ⟨buffer, hfold, hholds, hkept⟩ := ih (t := { t with
        buffer := fun k => if k = t.loadCount then b else t.buffer k
        loadCount := t.loadCount + 1 }) (i := i + 1) hactive hpending hvalid hnext
      (by rw [hlen]; congr 1; omega) (by omega)
    refine ⟨buffer, ?_, ?_, ?_⟩
    · rw [List.foldl_cons, hwrite, hfold]
    · intro j hj
      cases j with
      | zero =>
        rw [Nat.add_zero, hkept i (by omega)]
        simp [hcount]
      | succ j =>
        rw [show i + (j + 1) = i + 1 + j by omega, hholds j (by simpa using hj)]
        rfl
    · intro j hj
      rw [hkept j (by omega)]
      exact if_neg (hne j hj)

/-- A started data frame: its registers and the payload in the buffer. -/
structure Started (t : Transmitter) (dst src : UInt8) (payload : List UInt8) : Prop where
  active : t.active = true
  state : t.state = .prefixLf
  prefixLfCount : t.prefixLfCount = 0
  streamIdx : t.streamIdx = 0
  nodeAddr : t.nodeAddr = src
  notHeartbeat : t.frameIsHeartbeat = false
  frameDst : t.frameDst = dst
  frameLen : t.frameLen = UInt16.ofNat payload.length
  crc : t.crc = dst ^^^ src ^^^ lenHi (UInt16.ofNat payload.length) ^^^
    lenLo (UInt16.ofNat payload.length)
  buffer : Holds t.buffer 0 payload

theorem begin_started {t : Transmitter} (hactive : t.active = false) (hpending : t.pending = false)
    (dst : UInt8) {payload : List UInt8} (hlen : payload.length ≤ 2048) :
    Started (t.begin dst payload) dst t.nodeAddr payload := by
  have hle : UInt16.ofNat payload.length ≤ maxPayload := by
    rw [UInt16.le_iff_toNat_le, UInt16.toNat_ofNat', Nat.mod_eq_of_lt (by omega)]
    exact hlen
  have hcmd : t.writeTxCmd dst (UInt16.ofNat payload.length) = { t with
      stageDst := dst
      stageLen := UInt16.ofNat payload.length
      loadCount := 0
      stageValid := true
      pendingIsHeartbeat := false } := by
    simp [Transmitter.writeTxCmd, hactive, hpending, hle]
  obtain ⟨buffer, hfold, hholds, -⟩ := @stagePayload payload { t with
      stageDst := dst
      stageLen := UInt16.ofNat payload.length
      loadCount := 0
      stageValid := true
      pendingIsHeartbeat := false } 0 hactive hpending rfl rfl (by simp) (by omega)
  rw [Transmitter.begin, hcmd, hfold]
  simp only [Transmitter.requestSend, Transmitter.startFrame, hactive, hpending]
  exact ⟨rfl, rfl, rfl, rfl, rfl, rfl, rfl, rfl, rfl, hholds⟩

/-- A started frame goes out whole, and then the transmitter is free. -/
theorem Started.emits {t : Transmitter} {dst src : UInt8} {payload : List UInt8}
    (h : Started t dst src payload) (hlen : payload.length ≤ 2048) :
    ∃ t', Emits t (dataFrame dst src payload) t' ∧ t'.active = false := by
  obtain ⟨hactive, hstate, hcount, hidx, haddr, hheart, hdst, hflen, hcrc, hbuffer⟩ := h
  have hheader : Emits t [nodenetLf, nodenetLf, nodenetLf, nodenetSoh, dst, src,
      lenHi (UInt16.ofNat payload.length), lenLo (UInt16.ofNat payload.length), nodenetStx]
      { t with prefixLfCount := 2, state := if t.frameLen = 0 then .etx else .payloadHi } := by
    rw [← hdst, ← haddr, ← hflen]
    cases t
    simp only at hactive hstate hcount hheart
    subst hactive hstate hcount hheart
    exact .cons rfl (.cons rfl (.cons rfl (.cons rfl (.cons rfl (.cons rfl (.cons rfl (.cons rfl
      (.cons rfl (.nil _)))))))))
  have hpayload : ∃ currentByte, Emits
      { t with prefixLfCount := 2, state := if t.frameLen = 0 then .etx else .payloadHi }
      (encodePayload payload)
      { t with
        prefixLfCount := 2
        currentByte := currentByte
        crc := frameCrc dst src payload
        state := .etx } := by
    by_cases hne : payload = []
    · refine ⟨t.currentByte, ?_⟩
      subst hne
      have hzero : t.frameLen = 0 := hflen
      rw [if_pos hzero, frameCrc, List.foldl_nil, ← hcrc]
      exact .nil _
    · have hpos : t.frameLen ≠ 0 := by
        intro h0
        have := congrArg UInt16.toNat (hflen.symm.trans h0)
        rw [UInt16.toNat_ofNat', Nat.mod_eq_of_lt (by omega)] at this
        exact hne (List.length_eq_zero_iff.mp this)
      rw [if_neg hpos]
      obtain ⟨currentByte, hemits⟩ := emits_payload hne (i := 0) (t := { t with
          prefixLfCount := 2
          state := .payloadHi }) hactive rfl hidx (by rw [hflen, Nat.zero_add]) (by omega) hbuffer
      refine ⟨currentByte, ?_⟩
      rw [frameCrc, ← hcrc]
      simp only [← hidx] at hemits
      exact hemits
  obtain ⟨currentByte, hpayload⟩ := hpayload
  have htrailer : Emits
      { t with
        prefixLfCount := 2
        currentByte := currentByte
        crc := frameCrc dst src payload
        state := .etx }
      [nodenetEtx, frameCrc dst src payload, nodenetEot, 0, nodenetLf]
      (Transmitter.finishFrame { t with
        prefixLfCount := 2
        currentByte := currentByte
        crc := frameCrc dst src payload
        state := .suffixLf }) := by
    cases t
    simp only at hactive hheart
    subst hactive hheart
    exact .cons rfl (.cons rfl (.cons rfl (.cons rfl (.cons rfl (.nil _)))))
  exact ⟨_, (hheader.append hpayload).append htrailer, rfl⟩

theorem encodePayload_length (payload : List UInt8) :
    (encodePayload payload).length = 2 * payload.length := by
  induction payload with
  | nil => rfl
  | cons b rest ih =>
    rw [encodePayload] at ih ⊢
    simp [ih]
    omega

theorem dataFrame_length (dst src : UInt8) (payload : List UInt8) :
    (dataFrame dst src payload).length = 14 + 2 * payload.length := by
  simp [dataFrame, encodePayload_length]
  omega

theorem begin_emits {t : Transmitter} (hactive : t.active = false) (hpending : t.pending = false)
    (dst : UInt8) {payload : List UInt8} (hlen : payload.length ≤ 2048) {n : Nat}
    (hn : 14 + 2 * payload.length ≤ n) :
    ((t.begin dst payload).emit n).2 = dataFrame dst t.nodeAddr payload := by
  obtain ⟨t', hemits, hdone⟩ := (begin_started hactive hpending dst hlen).emits hlen
  rw [hemits.emit hdone (by rw [dataFrame_length]; exact hn)]

end NodeNet.Wire

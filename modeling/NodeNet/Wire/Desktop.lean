import NodeNet.Lib.LittleEndian
import NodeNet.Wire.Decoder
import NodeNet.Wire.Framing

/-! A data frame, byte by byte through the decoder. -/
namespace NodeNet.Wire
open NodeNet.Bytes NodeNet.Machine

/-- The registers that count between two bytes: the pulses are over. -/
def Decoder.quiet (d : Decoder) : Decoder := { d.endPulses with timeoutCounter := 0 }

@[simp] theorem quiet_quiet (d : Decoder) : d.quiet.quiet = d.quiet := rfl

theorem quiet_outputs (d : Decoder) : d.quiet.outputs = [] := rfl

/-- The bytes of a run without the clocks between them. -/
def Decoder.decode : Decoder → List UInt8 → Decoder × List Output
  | d, [] => (d, [])
  | d, b :: bytes =>
    let rest := Decoder.decode (d.receive b).quiet bytes
    (rest.1, (d.receive b).outputs ++ rest.2)

theorem decode_append (d : Decoder) (bytes rest : List UInt8) :
    d.decode (bytes ++ rest) =
      (((d.decode bytes).1.decode rest).1,
        (d.decode bytes).2 ++ ((d.decode bytes).1.decode rest).2) := by
  induction bytes generalizing d with
  | nil => rfl
  | cons b bytes ih =>
    rw [List.cons_append, Decoder.decode, ih]
    simp only [Decoder.decode, List.append_assoc]

variable {d : Decoder}

theorem clock_none (h : NoTimeout d none) :
    (d.clock none).quiet = d.quiet ∧ (d.clock none).outputs = [] := by
  have hno : (d.timeout && d.state ≠ .idle) = false := by
    cases h rfl with
    | inl ht => rw [ht, Bool.false_and]
    | inr hs => simp [hs]
  simp only [Decoder.clock, hno]
  exact ⟨rfl, rfl⟩

theorem collect_decode {cycles : List (Option UInt8)} (h : Along Decoder.clock NoTimeout d cycles) :
    (d.collect cycles).1.quiet = (d.quiet.decode (cycles.filterMap id)).1 ∧
      (d.collect cycles).2 = (d.quiet.decode (cycles.filterMap id)).2 := by
  induction cycles generalizing d with
  | nil => exact ⟨rfl, rfl⟩
  | cons rx cycles ih =>
    obtain ⟨hstate, houtputs⟩ := ih h.2
    cases rx with
    | none =>
      obtain ⟨hquiet, hnone⟩ := clock_none h.1
      rw [hquiet] at hstate houtputs
      simp only [Decoder.collect, List.filterMap_cons, id_eq, hnone, List.nil_append]
      exact ⟨hstate, houtputs⟩
    | some b =>
      simp only [Decoder.collect, List.filterMap_cons, id_eq, Decoder.decode]
      exact ⟨hstate, congrArg _ houtputs⟩

theorem encodeNibbleHigh_valid (b : UInt8) : isValidEncodedNibble (encodeNibbleHigh b) = true ∧
    encodeNibbleHigh b &&& 0xF0 = b &&& 0xF0 := by
  have hall : ∀ n < 256, isValidEncodedNibble (encodeNibbleHigh (UInt8.ofNat n)) = true ∧
      encodeNibbleHigh (UInt8.ofNat n) &&& 0xF0 = UInt8.ofNat n &&& 0xF0 := by decide +kernel
  simpa using hall b.toNat b.toNat_lt

theorem encodeNibbleLow_valid (b : UInt8) : isValidEncodedNibble (encodeNibbleLow b) = true ∧
    (b &&& 0xF0) ||| (encodeNibbleLow b &&& 0x0F) = b := by
  have hall : ∀ n < 256, isValidEncodedNibble (encodeNibbleLow (UInt8.ofNat n)) = true ∧
      (UInt8.ofNat n &&& 0xF0) ||| (encodeNibbleLow (UInt8.ofNat n) &&& 0x0F) = UInt8.ofNat n := by
    decide +kernel
  simpa using hall b.toNat b.toNat_lt

theorem length_of_bytes (len old : UInt16) :
    ((((lenHi len).toUInt16 <<< 8) ||| (old &&& 0x00FF)) &&& 0xFF00) ||| (lenLo len).toUInt16 =
      len := by
  refine UInt16.eq_of_toBitVec_eq (BitVec.eq_of_getLsbD_eq fun i hi => ?_)
  have hm := fun x => getLsbD_mod (w := 16) x (by decide)
  have hlow : ∀ i < 16, (255#16).getLsbD i = decide (i < 8) := by decide
  have hhigh : ∀ i < 16, (65280#16).getLsbD i = decide (8 ≤ i) := by decide
  simp [lenHi, lenLo, hm, hlow i hi, hhigh i hi]
  grind

theorem lenHi_of_bytes (len old : UInt16) :
    lenHi (((lenHi len).toUInt16 <<< 8) ||| (old &&& 0x00FF)) = lenHi len := by
  refine UInt8.eq_of_toBitVec_eq (BitVec.eq_of_getLsbD_eq fun i hi => ?_)
  have hm := fun x => getLsbD_mod (w := 16) x (by decide)
  simp [lenHi, hm, hi]
  grind

theorem decode_byte (hstate : d.state = .rxPayload) (hfirst : d.firstNibble = true) (b : UInt8) :
    d.decode [encodeNibbleHigh b, encodeNibbleLow b] =
      ({ d.quiet with
        highNibble := b &&& 0xF0
        msgData := b
        crc := d.crc ^^^ b
        payloadIdx := d.payloadIdx + 1
        state := if d.payloadIdx + 1 = d.payloadLen then .rxEtx else .rxPayload },
        d.outputs ++ [.data b]) := by
  obtain ⟨hvalid, hhigh⟩ := encodeNibbleHigh_valid b
  obtain ⟨hvalid', hlow⟩ := encodeNibbleLow_valid b
  cases d
  simp only at hstate hfirst
  subst hstate hfirst
  simp only [Decoder.decode, Decoder.receive, hvalid, if_true, Decoder.quiet, Decoder.endPulses,
    hvalid', Bool.false_eq_true, if_false, Decoder.takeByte, hhigh, hlow, Decoder.outputs]
  rfl

/-- The rest of a payload is given out byte by byte, and added to the check byte. -/
theorem decode_payload {payload : List UInt8} (hne : payload ≠ []) {i : Nat} (hquiet : d.quiet = d)
    (hstate : d.state = .rxPayload) (hfirst : d.firstNibble = true)
    (hidx : d.payloadIdx = UInt16.ofNat i) (hlen : d.payloadLen = UInt16.ofNat (i + payload.length))
    (hbound : i + payload.length ≤ 2048) : ∃ highNibble msgData, d.decode (encodePayload payload) =
      ({ d with
        highNibble := highNibble
        msgData := msgData
        crc := payload.foldl (· ^^^ ·) d.crc
        payloadIdx := d.payloadLen
        state := .rxEtx }, payload.map .data) := by
  induction payload generalizing d i with
  | nil => exact absurd rfl hne
  | cons b rest ih =>
    have hbyte := decode_byte hstate hfirst b
    have hout : d.outputs = [] := by rw [← hquiet, quiet_outputs]
    have hnext : d.payloadIdx + 1 = UInt16.ofNat (i + 1) := by rw [hidx, UInt16.ofNat_add]; rfl
    simp only [List.length_cons] at hlen hbound
    have hlast : d.payloadIdx + 1 = d.payloadLen ↔ rest = [] := by
      rw [hnext, hlen, ← UInt16.toNat_inj, UInt16.toNat_ofNat', UInt16.toNat_ofNat',
        Nat.mod_eq_of_lt (by omega), Nat.mod_eq_of_lt (by omega), ← List.length_eq_zero_iff]
      omega
    rw [hout, List.nil_append, hquiet] at hbyte
    have hsplit : encodePayload (b :: rest) =
        [encodeNibbleHigh b, encodeNibbleLow b] ++ encodePayload rest := rfl
    rw [hsplit, decode_append, hbyte]
    by_cases hrest : rest = []
    · subst hrest
      refine ⟨b &&& 0xF0, b, ?_⟩
      rw [if_pos (hlast.mpr rfl), hlast.mpr rfl]
      rfl
    · rw [if_neg (hrest ∘ hlast.mp)]
      obtain ⟨highNibble, msgData, hdecode⟩ := ih hrest (d := { d with
          highNibble := b &&& 0xF0
          msgData := b
          crc := d.crc ^^^ b
          payloadIdx := d.payloadIdx + 1
          state := .rxPayload }) (i := i + 1) (by rw [← hquiet]; rfl) rfl hfirst hnext
        (by rw [hlen]; congr 1; omega) (by omega)
      refine ⟨highNibble, msgData, ?_⟩
      rw [hdecode]
      rfl

theorem decode_header (hquiet : d.quiet = d) (hstate : d.state = .idle) (dst src : UInt8)
    (len : UInt16) :
    d.decode [nodenetLf, nodenetLf, nodenetLf, nodenetSoh, dst, src, lenHi len, lenLo len,
        nodenetStx] =
      ({ d with
        state := .rxPayload
        dst := dst
        src := src
        payloadLen := len
        payloadIdx := 0
        crc := dst ^^^ src ^^^ lenHi len ^^^ lenLo len
        firstNibble := true }, []) := by
  have hlen := length_of_bytes len d.payloadLen
  have hhi := lenHi_of_bytes len d.payloadLen
  cases d
  simp only at hstate hlen hhi
  subst hstate
  simp only [Decoder.quiet, Decoder.endPulses, Decoder.mk.injEq, true_and] at hquiet
  obtain ⟨rfl, rfl, rfl, rfl, rfl⟩ := hquiet
  simp [Decoder.decode, Decoder.receive, nodenetLf, nodenetSoh, nodenetStx, Decoder.quiet,
    Decoder.endPulses, Decoder.outputs, hlen, hhi]

/-- The decoder expects the end of the text: after the payload, or when there is none. -/
def ExpectsEtx (d : Decoder) : Prop :=
  d.state = .rxEtx ∨ d.state = .rxPayload ∧ d.payloadIdx = d.payloadLen

theorem receive_etx (h : ExpectsEtx d) : d.receive nodenetEtx = d.goTo .rxCrc := by
  have hinvalid : isValidEncodedNibble nodenetEtx = false := by decide
  cases h with
  | inl h =>
    rw [Decoder.receive, h]
    simp only [if_true]
  | inr h =>
    rw [Decoder.receive, h.1]
    simp only [hinvalid, h.2, Bool.false_eq_true, if_false, and_self, if_true]

/-- The bytes behind the payload end the frame: its check byte has to be right, and it has to be
for this node, or for none here. What follows the end is not a start. -/
theorem decode_ending (hquiet : d.quiet = d) (hetx : ExpectsEtx d) (c : UInt8) {x y : UInt8}
    (hx : x ≠ nodenetSoh) (hy : y ≠ nodenetSoh) :
    (d.decode [nodenetEtx, c, nodenetEot, x, y]).1.state = .idle ∧
      (d.decode [nodenetEtx, c, nodenetEot, x, y]).2 =
        if d.crc = c ∧ (d.dst = d.myAddr ∨ d.dst = 0) then [.complete d.src d.dst d.payloadLen]
        else [] := by
  have hreceive := receive_etx hetx
  cases d
  simp only [Decoder.quiet, Decoder.endPulses, Decoder.mk.injEq, true_and] at hquiet
  obtain ⟨rfl, rfl, rfl, rfl, rfl⟩ := hquiet
  rw [Decoder.decode, hreceive]
  rename_i myAddr state dst src payloadLen payloadIdx crc crcReceived highNibble firstNibble _ _ _ _
  by_cases hdst : crc = c ∧ (dst = myAddr ∨ dst = 0)
  · rw [if_pos hdst]
    simp [Decoder.decode, Decoder.receive, hx, hy, Decoder.quiet, Decoder.endPulses,
      Decoder.outputs, Decoder.goTo, Decoder.complete, hdst]
  · rw [if_neg hdst]
    simp [Decoder.decode, Decoder.receive, hx, hy, Decoder.quiet, Decoder.endPulses,
      Decoder.outputs, Decoder.goTo, Decoder.reject, hdst]

theorem decode_text (hquiet : d.quiet = d) (hstate : d.state = .idle) (dst src : UInt8)
    {payload : List UInt8} (hlen : payload.length ≤ 2048) :
    ∃ after : Decoder, d.decode ([nodenetLf, nodenetLf, nodenetLf, nodenetSoh, dst, src,
        lenHi (UInt16.ofNat payload.length), lenLo (UInt16.ofNat payload.length), nodenetStx] ++
          encodePayload payload) = (after, payload.map .data) ∧
      ExpectsEtx after ∧ after.crc = frameCrc dst src payload ∧ after.src = src ∧
      after.dst = dst ∧ after.myAddr = d.myAddr ∧
      after.payloadLen = UInt16.ofNat payload.length ∧ after.quiet = after := by
  rw [decode_append, decode_header hquiet hstate dst src (UInt16.ofNat payload.length)]
  simp only [List.nil_append]
  by_cases hne : payload = []
  · subst hne
    exact ⟨_, rfl, .inr ⟨rfl, rfl⟩, rfl, rfl, rfl, rfl, rfl, by rw [← hquiet]; rfl⟩
  · obtain ⟨highNibble, msgData, hdecode⟩ := decode_payload hne (i := 0) (d := { d with
        state := .rxPayload
        dst := dst
        src := src
        payloadLen := UInt16.ofNat payload.length
        payloadIdx := 0
        crc := dst ^^^ src ^^^ lenHi (UInt16.ofNat payload.length) ^^^
          lenLo (UInt16.ofNat payload.length)
        firstNibble := true }) (by rw [← hquiet]; rfl) rfl rfl rfl (by simp) (by omega)
    rw [hdecode]
    exact ⟨_, rfl, .inl rfl, rfl, rfl, rfl, rfl, rfl, by rw [← hquiet]; rfl⟩

/-- A frame in the idle state gives its payload out, completes if it is for this node, and leaves
the decoder idle. -/
theorem decode_dataFrame (hquiet : d.quiet = d) (hstate : d.state = .idle) (dst src : UInt8)
    {payload : List UInt8} (hlen : payload.length ≤ 2048) :
    (d.decode (dataFrame dst src payload)).1.state = .idle ∧
      (d.decode (dataFrame dst src payload)).2 = payload.map .data ++
        if dst = d.myAddr ∨ dst = 0 then
          [.complete src dst (UInt16.ofNat payload.length)]
        else [] := by
  obtain ⟨after, htext, hetx, hcrc, hsrc, hdst, haddr, hfinal, hq⟩ :=
    decode_text hquiet hstate dst src hlen
  have hending := decode_ending hq hetx (frameCrc dst src payload) (x := 0) (y := nodenetLf)
    (by decide) (by decide)
  simp only [hcrc, hsrc, hdst, haddr, hfinal, true_and] at hending
  rw [dataFrame, decode_append, htext]
  exact ⟨hending.1, congrArg _ hending.2⟩

/-- What the transmitter puts on the wire for a payload, the decoder gives out again: the payload,
and one completion if the frame is for its own address or for all. -/
theorem wire_roundTrip (t : Transmitter) (hactive : t.active = false) (hpending : t.pending = false)
    (dst : UInt8) (payload : List UInt8) (hlen : payload.length ≤ maxPayload.toNat) (n : Nat)
    (hn : 14 + 2 * payload.length ≤ n) (d : Decoder) (hidle : d.state = .idle)
    (cycles : List (Option UInt8))
    (hbytes : cycles.filterMap id = ((t.begin dst payload).emit n).2)
    (hno : Along Decoder.clock NoTimeout d cycles) :
    (d.collect cycles).1.state = .idle ∧
      (d.collect cycles).2 = payload.map .data ++
        if dst = d.myAddr ∨ dst = 0 then
          [.complete t.nodeAddr dst (UInt16.ofNat payload.length)]
        else [] := by
  obtain ⟨hstate, houtputs⟩ := collect_decode hno
  rw [hbytes, begin_emits hactive hpending dst hlen hn] at hstate houtputs
  obtain ⟨hdone, hout⟩ := decode_dataFrame (d := d.quiet) rfl hidle dst t.nodeAddr hlen
  refine ⟨?_, houtputs.trans hout⟩
  rw [← hstate] at hdone
  exact hdone

def Decoder.reset (myAddr : UInt8) : Decoder where
  myAddr := myAddr
  state := .idle
  dst := 0
  src := 0
  payloadLen := 0
  payloadIdx := 0
  crc := 0
  crcReceived := 0
  highNibble := 0
  firstNibble := true
  timeoutCounter := 0
  msgValid := false
  msgSrcAddr := 0
  msgDstAddr := 0
  msgLen := 0
  msgData := 0
  msgDataValid := false
  msgComplete := false
  error := false

def Transmitter.reset (nodeAddr : UInt8) : Transmitter where
  nodeAddr := nodeAddr
  stageDst := 0
  stageLen := 0
  loadCount := 0
  stageValid := false
  pending := false
  pendingIsHeartbeat := false
  buffer := fun _ => 0
  active := false
  frameIsHeartbeat := false
  frameDst := 0
  frameLen := 0
  streamIdx := 0
  prefixLfCount := 0
  crc := 0
  currentByte := 0
  state := .idle

/-- Two bytes from node 1 to node 2, an idle clock behind each. -/
theorem wire_roundTrip_twoBytes :
    ((Decoder.reset 2).collect ((dataFrame 2 1 [3, 4]).flatMap fun b => [some b, none])).2 =
      [.data 3, .data 4, .complete 1 2 2] :=
  (wire_roundTrip (.reset 1) rfl rfl 2 [3, 4] (by decide) 18 (by decide) (.reset 2) rfl
    ((dataFrame 2 1 [3, 4]).flatMap fun b => [some b, none]) (by decide)
    (by decide +kernel)).2

end NodeNet.Wire

/-! The frame format of the desktop program, against the transmitter and the decoder. -/
namespace NodeNet.Desktop
open NodeNet.Bytes NodeNet.Wire NodeNet.Machine

structure Message where
  destination : UInt8
  source : UInt8
  payload : List UInt8
  showInConsole : Bool
  deriving DecidableEq

/-- The exceptions of a decoding; an index past the end is one too. -/
inductive DecodeError where
  | indexOutOfRange | sohNotFound | invalidStx
  | invalidHighNibble (src dst : UInt8)
  | invalidLowNibble (src dst : UInt8)
  | etxMissing | crcMismatch | eotMissing
  deriving DecidableEq

def encodeHigh (b : UInt8) : UInt8 :=
  let high := b &&& 0xF0
  high ||| ((~~~high &&& 0xF0) >>> 4)

def encodeLow (b : UInt8) : UInt8 :=
  let low := b &&& 0x0F
  low ||| (~~~low <<< 4)

/-- The check byte starts from the low byte of the length alone. -/
def encodeCrc (src dst : UInt8) (payload : List UInt8) : UInt8 :=
  payload.foldl (· ^^^ ·) (src ^^^ dst ^^^ UInt8.ofNat payload.length)

def encode (src dst : UInt8) (payload : List UInt8) : List UInt8 :=
  let len := payload.length
  [nodenetLf, nodenetLf, nodenetLf, nodenetSoh, dst, src, UInt8.ofNat ((len >>> 8) &&& 0xFF),
      UInt8.ofNat (len &&& 0xFF), nodenetStx] ++
    (payload.flatMap fun b => [encodeHigh b, encodeLow b]) ++
    [nodenetEtx, encodeCrc src dst payload, nodenetEot, nodenetLf, nodenetLf]

def byteAt (frame : List UInt8) (i : Nat) : Except DecodeError UInt8 :=
  match frame[i]? with
  | some b => .ok b
  | none => .error .indexOutOfRange

/-- A byte is its own complement with the nibbles swapped. -/
def isComplemented (b : UInt8) : Bool := ~~~((b >>> 4) ||| (b <<< 4)) = b

/-- The payload from an index on, and the check byte with it. -/
def decodePayload (frame : List UInt8) (src dst : UInt8) :
    Nat → Nat → UInt8 → Except DecodeError (List UInt8 × UInt8)
  | 0, _, crc => .ok ([], crc)
  | len + 1, i, crc => do
    let highEncoded ← byteAt frame i
    let lowEncoded ← byteAt frame (i + 1)
    if !isComplemented highEncoded then throw (.invalidHighNibble src dst)
    if !isComplemented lowEncoded then throw (.invalidLowNibble src dst)
    let value := (highEncoded &&& 0xF0) ||| (lowEncoded &&& 0x0F)
    let rest ← decodePayload frame src dst len (i + 2) (crc ^^^ value)
    return (value :: rest.1, rest.2)

def checkTrailer (frame : List UInt8) (trailer : Nat) (crc : UInt8) : Except DecodeError Unit := do
  if (← byteAt frame trailer) ≠ nodenetEtx then throw .etxMissing
  if (← byteAt frame (trailer + 1)) ≠ crc then throw .crcMismatch
  if (← byteAt frame (trailer + 2)) ≠ nodenetEot then throw .eotMissing

def heartbeatPayload (src : UInt8) : List UInt8 :=
  ("\x7b\"cmd\":\"heartBeat\", \"from\":\"" ++ toString src ++ "\"\x7d").toList.map
    fun c => UInt8.ofNat c.toNat

def decode (frame : List UInt8) : Except DecodeError Message :=
  match frame.idxOf? nodenetSoh with
  | none => .error .sohNotFound
  | some pos => do
    let dst ← byteAt frame (pos + 1)
    let src ← byteAt frame (pos + 2)
    let len := ((← byteAt frame (pos + 3)).toUInt16 <<< 8) ||| (← byteAt frame (pos + 4)).toUInt16
    let stx ← byteAt frame (pos + 5)
    if stx = nodenetStx then
      let payloadStart := pos + 6
      let text ← decodePayload frame src dst len.toNat payloadStart
        (src ^^^ dst ^^^ lenHi len ^^^ lenLo len)
      checkTrailer frame (payloadStart + len.toNat * 2) text.2
      return { source := src, destination := dst, payload := text.1, showInConsole := true }
    else if stx = nodenetEot then
      return {
        source := src
        destination := 0
        payload := heartbeatPayload src
        showInConsole := true }
    else throw .invalidStx

theorem byteAt_append (pre rest : List UInt8) (i : Nat) :
    byteAt (pre ++ rest) (pre.length + i) = byteAt rest i := by
  rw [byteAt, byteAt, List.getElem?_append_right (by omega), Nat.add_sub_cancel_left]

theorem checkTrailer_append (pre rest : List UInt8) (crc : UInt8) :
    checkTrailer (pre ++ rest) pre.length crc = checkTrailer rest 0 crc := by
  have h0 := byteAt_append pre rest 0
  have h1 := byteAt_append pre rest 1
  have h2 := byteAt_append pre rest 2
  simp only [Nat.add_zero] at h0
  simp only [checkTrailer, h0, h1, h2, Nat.zero_add]

theorem encoded_byte (b : UInt8) :
    isComplemented (encodeNibbleHigh b) = true ∧ isComplemented (encodeNibbleLow b) = true ∧
      (encodeNibbleHigh b &&& 0xF0) ||| (encodeNibbleLow b &&& 0x0F) = b := by
  have hall : ∀ n < 256, isComplemented (encodeNibbleHigh (UInt8.ofNat n)) = true ∧
      isComplemented (encodeNibbleLow (UInt8.ofNat n)) = true ∧
      (encodeNibbleHigh (UInt8.ofNat n) &&& 0xF0) ||| (encodeNibbleLow (UInt8.ofNat n) &&& 0x0F) =
        UInt8.ofNat n := by decide +kernel
  simpa using hall b.toNat b.toNat_lt

theorem decodePayload_encoded (pre text rest : List UInt8) (src dst crc : UInt8) :
    decodePayload (pre ++ (encodePayload text ++ rest)) src dst text.length pre.length crc =
      .ok (text, text.foldl (· ^^^ ·) crc) := by
  induction text generalizing pre crc with
  | nil => rfl
  | cons b text ih =>
    obtain ⟨hhigh, hlow, hvalue⟩ := encoded_byte b
    have hframe : encodePayload (b :: text) ++ rest =
        encodeNibbleHigh b :: encodeNibbleLow b :: (encodePayload text ++ rest) := rfl
    have hfirst : byteAt (pre ++ (encodePayload (b :: text) ++ rest)) pre.length =
      .ok (encodeNibbleHigh b) := byteAt_append pre _ 0
    have hsecond : byteAt (pre ++ (encodePayload (b :: text) ++ rest)) (pre.length + 1) =
      .ok (encodeNibbleLow b) := byteAt_append pre _ 1
    have hrest := ih (pre ++ [encodeNibbleHigh b, encodeNibbleLow b]) (crc ^^^ b)
    simp only [List.append_assoc, List.cons_append, List.nil_append, List.length_append,
      List.length_cons, List.length_nil, Nat.zero_add, Nat.reduceAdd] at hrest
    rw [hframe] at hfirst hsecond ⊢
    simp only [List.length_cons, decodePayload, hfirst, hsecond, hhigh, hlow, hvalue, hrest, bind,
      Except.bind, Bool.not_true, Bool.false_eq_true, if_false]
    rfl

def header (src dst : UInt8) (len : UInt16) : List UInt8 :=
  [nodenetLf, nodenetLf, nodenetLf, nodenetSoh, dst, src, lenHi len, lenLo len, nodenetStx]

theorem decode_frame (src dst : UInt8) (text rest : List UInt8) (len : UInt16)
    (hlen : len.toNat = text.length) :
    decode (header src dst len ++ (encodePayload text ++ rest)) =
      (checkTrailer rest 0
        (text.foldl (· ^^^ ·) (src ^^^ dst ^^^ lenHi len ^^^ lenLo len))).map fun _ =>
        { source := src, destination := dst, payload := text, showInConsole := true } := by
  have htext := decodePayload_encoded (header src dst len) text rest src dst
    (src ^^^ dst ^^^ lenHi len ^^^ lenLo len)
  have htrailer := checkTrailer_append (header src dst len ++ encodePayload text) rest
    (text.foldl (· ^^^ ·) (src ^^^ dst ^^^ lenHi len ^^^ lenLo len))
  rw [List.append_assoc, List.length_append, encodePayload_length] at htrailer
  have hsoh : List.idxOf? nodenetSoh (header src dst len ++ (encodePayload text ++ rest)) =
      some 3 := by
    simp [header, List.idxOf?, List.findIdx?_cons, nodenetLf, nodenetSoh]
  have hbytes : ((lenHi len).toUInt16 <<< 8) ||| (lenLo len).toUInt16 = len := by
    rw [UInt16.or_comm]
    exact word_le16 len
  have hdst : byteAt (header src dst len ++ (encodePayload text ++ rest)) (3 + 1) = .ok dst := rfl
  have hsrc : byteAt (header src dst len ++ (encodePayload text ++ rest)) (3 + 2) = .ok src := rfl
  have hhi : byteAt (header src dst len ++ (encodePayload text ++ rest)) (3 + 3) =
    .ok (lenHi len) := rfl
  have hlo : byteAt (header src dst len ++ (encodePayload text ++ rest)) (3 + 4) =
    .ok (lenLo len) := rfl
  have hstx : byteAt (header src dst len ++ (encodePayload text ++ rest)) (3 + 5) =
    .ok nodenetStx := rfl
  have hstart : (header src dst len).length = 3 + 6 := rfl
  rw [hstart] at htext htrailer
  rw [decode, hsoh]
  simp only [hdst, hsrc, hhi, hlo, hstx, hbytes, hlen, htext, bind, Except.bind, if_true,
    Nat.mul_comm text.length 2, htrailer]
  cases checkTrailer rest 0 (text.foldl (· ^^^ ·) (src ^^^ dst ^^^ lenHi len ^^^ lenLo len)) with
  | error e => rfl
  | ok u => rfl

theorem lenHi_ofNat (n : Nat) : UInt8.ofNat ((n >>> 8) &&& 0xFF) = lenHi (UInt16.ofNat n) := by
  have hmask : (n >>> 8) &&& 0xFF = n / 256 % 256 := by
    rw [Nat.shiftRight_eq_div_pow]
    exact Nat.and_two_pow_sub_one_eq_mod _ 8
  rw [hmask, lenHi, ← UInt8.toNat_inj]
  simp [Nat.shiftRight_eq_div_pow]
  omega

theorem lenLo_ofNat (n : Nat) : UInt8.ofNat (n &&& 0xFF) = lenLo (UInt16.ofNat n) := by
  have hmask : n &&& 0xFF = n % 256 := Nat.and_two_pow_sub_one_eq_mod _ 8
  rw [hmask, lenLo, ← UInt8.toNat_inj]
  simp

theorem encode_eq (src dst : UInt8) (payload : List UInt8) :
    encode src dst payload = header src dst (UInt16.ofNat payload.length) ++
      (encodePayload payload ++
        [nodenetEtx, encodeCrc src dst payload, nodenetEot, nodenetLf, nodenetLf]) := by
  rw [encode, lenHi_ofNat, lenLo_ofNat, List.append_assoc]
  rfl

theorem foldl_xor_inj (bytes : List UInt8) (a b : UInt8) :
    bytes.foldl (· ^^^ ·) a = bytes.foldl (· ^^^ ·) b ↔ a = b := by
  induction bytes generalizing a b with
  | nil => rfl
  | cons c bytes ih =>
    rw [List.foldl_cons, List.foldl_cons, ih]
    exact UInt8.xor_left_inj c

variable {payload : List UInt8}

theorem encodeCrc_eq_iff (src dst : UInt8) (hlen : payload.length < 65536) :
    encodeCrc src dst payload = frameCrc dst src payload ↔ payload.length < 256 := by
  have hlow : UInt8.ofNat payload.length = lenLo (UInt16.ofNat payload.length) := by
    rw [lenLo, ← UInt8.toNat_inj]
    simp
  have hhigh : lenHi (UInt16.ofNat payload.length) = 0 ↔ payload.length < 256 := by
    rw [lenHi, ← UInt8.toNat_inj]
    simp [Nat.shiftRight_eq_div_pow]
    omega
  have hcancel (x : UInt8) : dst ^^^ src = dst ^^^ src ^^^ x ↔ x = 0 := by
    have h := @UInt8.xor_right_inj 0 x (dst ^^^ src)
    rw [UInt8.xor_zero] at h
    rw [h]
    exact eq_comm
  rw [encodeCrc, frameCrc, foldl_xor_inj, hlow, UInt8.xor_comm src dst, UInt8.xor_left_inj,
    hcancel, hhigh]

theorem checkTrailer_end (c crc x y : UInt8) :
    checkTrailer [nodenetEtx, c, nodenetEot, x, y] 0 crc =
      if c = crc then .ok () else .error .crcMismatch := by
  by_cases h : c = crc
  · simp [checkTrailer, byteAt, h, bind, Except.bind, pure, Except.pure]
  · simp [checkTrailer, byteAt, h, bind, Except.bind, throw, throwThe, MonadExceptOf.throw]

theorem decode_short (src dst c x y : UInt8) (hlen : payload.length < 65536) :
    decode (header src dst (UInt16.ofNat payload.length) ++
        (encodePayload payload ++ [nodenetEtx, c, nodenetEot, x, y])) =
      if c = frameCrc dst src payload then
        .ok { source := src, destination := dst, payload := payload, showInConsole := true }
      else .error .crcMismatch := by
  have htoNat : (UInt16.ofNat payload.length).toNat = payload.length := by
    rw [UInt16.toNat_ofNat', Nat.mod_eq_of_lt hlen]
  rw [decode_frame src dst payload _ _ htoNat, UInt8.xor_comm src dst, checkTrailer_end]
  change Except.map _ (if c = frameCrc dst src payload then _ else _) = _
  by_cases h : c = frameCrc dst src payload
  · rw [if_pos h, if_pos h]
    rfl
  · rw [if_neg h, if_neg h]
    rfl

theorem decode_dataFrame (src dst : UInt8) (hlen : payload.length ≤ 2048) :
    decode (dataFrame dst src payload) =
      .ok { source := src, destination := dst, payload := payload, showInConsole := true } := by
  have hshort : payload.length < 65536 := by omega
  have hframe := decode_short src dst (frameCrc dst src payload) 0 nodenetLf hshort
  rw [if_pos rfl] at hframe
  rw [← hframe, dataFrame, List.append_assoc]
  rfl

theorem decode_long (src dst : UInt8) {rest : List UInt8} (hlen : 65536 ≤ payload.length) :
    decode (header src dst (UInt16.ofNat payload.length) ++ (encodePayload payload ++ rest)) =
      .error .etxMissing := by
  have htoNat : (UInt16.ofNat payload.length).toNat =
      (payload.take (payload.length % 65536)).length := by
    rw [UInt16.toNat_ofNat', List.length_take]
    omega
  have hsplit : encodePayload payload = encodePayload (payload.take (payload.length % 65536)) ++
      encodePayload (payload.drop (payload.length % 65536)) := by
    rw [encodePayload, encodePayload, encodePayload, ← List.flatMap_append,
      List.take_append_drop]
  have hlonger : payload.drop (payload.length % 65536) ≠ [] := by
    rw [ne_eq, List.drop_eq_nil_iff]
    omega
  obtain ⟨b, more, hdrop⟩ := List.exists_cons_of_ne_nil hlonger
  rw [hsplit, List.append_assoc, decode_frame src dst _ _ _ htoNat, hdrop]
  have hetx : encodeNibbleHigh b ≠ nodenetEtx := by
    intro h
    have hvalid := (encodeNibbleHigh_valid b).1
    rw [h] at hvalid
    exact absurd hvalid (by decide)
  have hbyte : byteAt (encodePayload (b :: more) ++ rest) 0 = .ok (encodeNibbleHigh b) := rfl
  simp [checkTrailer, hbyte, hetx, bind, Except.bind, throw, throwThe, MonadExceptOf.throw,
    Except.map]

theorem decode_encode_iff (src dst : UInt8) (payload : List UInt8) :
    decode (encode src dst payload) =
        .ok { source := src, destination := dst, payload := payload, showInConsole := true } ↔
      payload.length < 256 := by
  rw [encode_eq]
  by_cases hlen : payload.length < 65536
  · rw [decode_short src dst _ _ _ hlen, ← encodeCrc_eq_iff src dst hlen]
    by_cases h : encodeCrc src dst payload = frameCrc dst src payload
    · simp [h]
    · simp [h]
  · rw [decode_long src dst (by omega)]
    simp
    omega

theorem encode_collected_iff (src dst : UInt8) (hlen : payload.length ≤ 2048) {d : Decoder}
    (hidle : d.state = .idle) (haddr : dst = d.myAddr ∨ dst = 0) {cycles : List (Option UInt8)}
    (hbytes : cycles.filterMap id = encode src dst payload)
    (hno : Along Decoder.clock NoTimeout d cycles) : (d.collect cycles).2 =
        payload.map .data ++ [.complete src dst (UInt16.ofNat payload.length)] ↔
      payload.length < 256 := by
  obtain ⟨-, houtputs⟩ := collect_decode hno
  obtain ⟨after, htext, hetx, hcrc, hsrc, hdst, hmine, hfinal, hq⟩ :=
    Wire.decode_text (d := d.quiet) rfl hidle dst src hlen
  have hending := (decode_ending hq hetx (encodeCrc src dst payload) (x := nodenetLf)
    (y := nodenetLf) (by decide) (by decide)).2
  have hmine' : dst = d.quiet.myAddr ∨ dst = 0 := haddr
  simp only [hcrc, hsrc, hdst, hmine, hfinal, hmine', and_true] at hending
  have hframe : encode src dst payload = [nodenetLf, nodenetLf, nodenetLf, nodenetSoh, dst, src,
      lenHi (UInt16.ofNat payload.length), lenLo (UInt16.ofNat payload.length), nodenetStx] ++
      encodePayload payload ++
      [nodenetEtx, encodeCrc src dst payload, nodenetEot, nodenetLf, nodenetLf] := by
    rw [encode_eq, List.append_assoc]
    rfl
  rw [houtputs, hbytes, hframe, decode_append, htext, hending, List.append_cancel_left_eq,
    ← encodeCrc_eq_iff src dst (by omega)]
  by_cases h : encodeCrc src dst payload = frameCrc dst src payload
  · simp [h]
  · simp [h, Ne.symm h]

/-- Desktop and device agree on the frames up to 255 bytes of payload: longer ones of the desktop
are refused by the decoder and by the desktop itself. What the transmitter sends, the desktop reads
at every length. -/
theorem desktop_format_iff (src dst : UInt8) (payload : List UInt8) :
    (payload.length ≤ maxPayload.toNat →
      (∀ (d : Decoder) (cycles : List (Option UInt8)), d.state = .idle →
        (dst = d.myAddr ∨ dst = 0) → cycles.filterMap id = encode src dst payload →
        Along Decoder.clock NoTimeout d cycles →
        ((d.collect cycles).2 =
            payload.map .data ++ [.complete src dst (UInt16.ofNat payload.length)] ↔
          payload.length < 256)) ∧
      ∀ (t : Transmitter) (n : Nat), t.active = false → t.pending = false → t.nodeAddr = src →
        14 + 2 * payload.length ≤ n →
        decode ((t.begin dst payload).emit n).2 =
          .ok { source := src, destination := dst, payload := payload, showInConsole := true }) ∧
    (decode (encode src dst payload) =
        .ok { source := src, destination := dst, payload := payload, showInConsole := true } ↔
      payload.length < 256) := by
  refine ⟨fun hlen => ⟨?_, ?_⟩, decode_encode_iff src dst payload⟩
  · intro d cycles hidle haddr hbytes hno
    exact encode_collected_iff src dst hlen hidle haddr hbytes hno
  · intro t n hactive hpending haddr hn
    rw [begin_emits hactive hpending dst hlen hn, haddr, decode_dataFrame src dst hlen]

/-- Two bytes from node 1 to node 2, in all three directions. -/
theorem desktop_format_twoBytes :
    ((Decoder.reset 2).collect ((encode 1 2 [3, 4]).flatMap fun b => [some b, none])).2 =
        [.data 3, .data 4, .complete 1 2 2] ∧
      decode (((Transmitter.reset 1).begin 2 [3, 4]).emit 18).2 =
        .ok { source := 1, destination := 2, payload := [3, 4], showInConsole := true } ∧
      decode (encode 1 2 [3, 4]) =
        .ok { source := 1, destination := 2, payload := [3, 4], showInConsole := true } := by
  have h := desktop_format_iff 1 2 [3, 4]
  refine ⟨?_, ?_, h.2.mpr (by decide)⟩
  · exact ((h.1 (by decide)).1 (.reset 2)
      ((encode 1 2 [3, 4]).flatMap fun b => [some b, none]) rfl (by decide) (by decide)
      (by decide +kernel)).mpr (by decide)
  · exact (h.1 (by decide)).2 (.reset 1) 18 rfl rfl rfl (by decide)

theorem along_bytes (d : Decoder) (bytes : List UInt8) :
    Along Decoder.clock NoTimeout d (bytes.map some) := by
  induction bytes generalizing d with
  | nil => trivial
  | cons b bytes ih => exact ⟨fun h => by simp at h, ih _⟩

/-- A desktop frame of 256 zero bytes is refused on both sides. -/
theorem longFrame_refused :
    decode (encode 1 2 (List.replicate 256 0)) = .error .crcMismatch ∧
      ((Decoder.reset 2).collect ((encode 1 2 (List.replicate 256 0)).map some)).2 ≠
        (List.replicate 256 0).map .data ++ [.complete 1 2 256] := by
  have hlength : (List.replicate 256 (0 : UInt8)).length = 256 := List.length_replicate ..
  refine ⟨?_, ?_⟩
  · have hcrc : encodeCrc 1 2 (List.replicate 256 0) ≠ frameCrc 2 1 (List.replicate 256 0) := by
      intro h
      have hshort := (encodeCrc_eq_iff 1 2 (by omega)).mp h
      omega
    rw [encode_eq, decode_short 1 2 _ _ _ (by omega), if_neg hcrc]
  · intro h
    have hbytes : ((encode 1 2 (List.replicate 256 0)).map some).filterMap id =
        encode 1 2 (List.replicate 256 0) := by
      rw [List.filterMap_map]
      exact List.filterMap_some
    have hshort := (encode_collected_iff 1 2 (by omega) (d := .reset 2) rfl (.inl rfl) hbytes
      (along_bytes _ _)).mp (by rw [hlength]; exact h)
    omega

end NodeNet.Desktop

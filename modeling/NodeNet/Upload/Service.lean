import Mathlib.Algebra.Group.Nat.Defs
import NodeNet.Core.Loop
import NodeNet.Core.UploadBytes
import NodeNet.Points

/-! The upload service, the device and the link between them. -/
namespace NodeNet.Upload
open NodeNet.Points NodeNet.Core NodeNet.Bytes NodeNet.Nor NodeNet.Machine

/-! The Base64 text of a chunk: the service writes it and the device reads it back. -/

def padding : UInt8 := 0x3D

def base64Char (sextet : Nat) : UInt8 :=
  if sextet < 26 then UInt8.ofNat (0x41 + sextet)
  else if sextet < 52 then UInt8.ofNat (0x61 + (sextet - 26))
  else if sextet < 62 then UInt8.ofNat (0x30 + (sextet - 52))
  else if sextet = 62 then 0x2B
  else 0x2F

/-- `Convert.ToBase64String`. -/
def toBase64String : List UInt8 → Text
  | [] => []
  | [x] =>
    [base64Char (x.toNat / 4), base64Char (x.toNat % 4 * 16), padding, padding]
  | [x, y] =>
    [base64Char (x.toNat / 4), base64Char (x.toNat % 4 * 16 + y.toNat / 16),
      base64Char (y.toNat % 16 * 4), padding]
  | x :: y :: z :: rest =>
    base64Char (x.toNat / 4) :: base64Char (x.toNat % 4 * 16 + y.toNat / 16) ::
      base64Char (y.toNat % 16 * 4 + z.toNat / 64) :: base64Char (z.toNat % 64) ::
      toBase64String rest

/-- The sextet of a character; `-2` for the padding and `-1` for any other one. -/
def base64Value (c : UInt8) : Int :=
  if 0x41 ≤ c ∧ c ≤ 0x5A then c.toNat - 0x41
  else if 0x61 ≤ c ∧ c ≤ 0x7A then 26 + (c.toNat - 0x61)
  else if 0x30 ≤ c ∧ c ≤ 0x39 then 52 + (c.toNat - 0x30)
  else if c = 0x2B then 62
  else if c = 0x2F then 63
  else if c = 0x3D then -2
  else -1

def quartet (a b c d : Int) : Nat :=
  (a.toNat <<< 18) ||| (b.toNat <<< 12) |||
    ((if c < 0 then 0 else c.toNat) <<< 6) ||| (if d < 0 then 0 else d.toNat)

def quartetByte (quartet shift : Nat) : UInt8 := UInt8.ofNat ((quartet >>> shift) &&& 0xFF)

/-- The bytes of the quartets that are left; `room` is what the buffer still takes. -/
def decodeQuartets : Text → Nat → Option (List UInt8)
  | c0 :: c1 :: c2 :: c3 :: rest, room =>
    let a := base64Value c0
    let b := base64Value c1
    let c := base64Value c2
    let d := base64Value c3
    let bits := quartet a b c d
    if a < 0 ∨ b < 0 ∨ c = -1 ∨ d = -1 then none
    else if room = 0 then none
    else if c = -2 then
      if d ≠ -2 ∨ rest ≠ [] then none else some [quartetByte bits 16]
    else if room = 1 then none
    else if d = -2 then
      if rest ≠ [] then none else some [quartetByte bits 16, quartetByte bits 8]
    else if room = 2 then none
    else
      (decodeQuartets rest (room - 3)).map
        ([quartetByte bits 16, quartetByte bits 8, quartetByte bits 0] ++ ·)
  | _, _ => some []

def decodeBase64Bytes (text : Text) (capacity : Nat) : Option (List UInt8) :=
  if text.length = 0 ∨ text.length % 4 ≠ 0 then none else decodeQuartets text capacity

theorem base64Value_char {n : Nat} (h : n < 64) : base64Value (base64Char n) = n := by
  have hall : ((List.range 64).all fun n => base64Value (base64Char n) == (n : Int)) = true := rfl
  have hn := List.all_eq_true.mp hall n (List.mem_range.mpr h)
  simpa using hn

theorem base64Value_padding : base64Value padding = -2 := rfl

theorem quartet_sextets {a b c d : Nat} (hb : b < 64) (hc : c < 64) (hd : d < 64) :
    quartet a b c d = ((a * 64 + b) * 64 + c) * 64 + d := by
  have h1 : a <<< 18 ||| b <<< 12 = (a * 64 + b) <<< 12 := by
    rw [← Nat.shiftLeft_add_eq_or_of_lt (by rw [Nat.shiftLeft_eq]; omega)]
    simp only [Nat.shiftLeft_eq]
    omega
  have h2 : (a * 64 + b) <<< 12 ||| c <<< 6 = ((a * 64 + b) * 64 + c) <<< 6 := by
    rw [← Nat.shiftLeft_add_eq_or_of_lt (by rw [Nat.shiftLeft_eq]; omega)]
    simp only [Nat.shiftLeft_eq]
    omega
  have h3 : ((a * 64 + b) * 64 + c) <<< 6 ||| d = ((a * 64 + b) * 64 + c) * 64 + d := by
    rw [← Nat.shiftLeft_add_eq_or_of_lt (by omega), Nat.shiftLeft_eq]
  have hc0 : ¬ (c : Int) < 0 := by omega
  have hd0 : ¬ (d : Int) < 0 := by omega
  simp only [quartet, if_neg hc0, if_neg hd0, Int.toNat_natCast]
  rw [h1, h2, h3]

theorem quartetByte_eq {bits shift : Nat} {x : UInt8} (h : bits / 2 ^ shift % 256 = x.toNat) :
    quartetByte bits shift = x := by
  have h256 : (0xFF : Nat) = 2 ^ 8 - 1 := rfl
  rw [quartetByte, Nat.shiftRight_eq_div_pow, h256, Nat.and_two_pow_sub_one_eq_mod]
  exact (congrArg UInt8.ofNat h).trans (UInt8.ofNat_toNat)

theorem quartetByte_bytes {bits : Nat} {x y z : UInt8}
    (h : bits = (x.toNat * 256 + y.toNat) * 256 + z.toNat) :
    quartetByte bits 16 = x ∧ quartetByte bits 8 = y ∧ quartetByte bits 0 = z := by
  have hx := x.toNat_lt
  have hy := y.toNat_lt
  have hz := z.toNat_lt
  refine ⟨quartetByte_eq ?_, quartetByte_eq ?_, quartetByte_eq ?_⟩
  all_goals omega

theorem decodeQuartets_whole (x y z : UInt8) (rest : Text) {room : Nat} (h : 3 ≤ room) :
    decodeQuartets (base64Char (x.toNat / 4) :: base64Char (x.toNat % 4 * 16 + y.toNat / 16) ::
      base64Char (y.toNat % 16 * 4 + z.toNat / 64) :: base64Char (z.toNat % 64) :: rest) room =
      (decodeQuartets rest (room - 3)).map ([x, y, z] ++ ·) := by
  have hx := x.toNat_lt
  have hy := y.toNat_lt
  have hz := z.toNat_lt
  have hq := quartet_sextets (a := x.toNat / 4) (b := x.toNat % 4 * 16 + y.toNat / 16)
    (c := y.toNat % 16 * 4 + z.toNat / 64) (d := z.toNat % 64) (by omega) (by omega) (by omega)
  obtain ⟨hb16, hb8, hb0⟩ := quartetByte_bytes (x := x) (y := y) (z := z) (hq.trans (by omega))
  rw [decodeQuartets, base64Value_char (by omega), base64Value_char (by omega),
    base64Value_char (by omega), base64Value_char (by omega)]
  simp only [hb16, hb8, hb0]
  rw [if_neg (by omega), if_neg (by omega), if_neg (by omega), if_neg (by omega),
    if_neg (by omega), if_neg (by omega)]

theorem decodeQuartets_toBase64String (bytes : List UInt8) {room : Nat}
    (h : bytes.length ≤ room) : decodeQuartets (toBase64String bytes) room = some bytes := by
  induction bytes using toBase64String.induct generalizing room with
  | case1 => rfl
  | case2 x =>
    have hx := x.toNat_lt
    have hq := quartet_sextets (a := x.toNat / 4) (b := x.toNat % 4 * 16) (c := 0) (d := 0)
      (by omega) (by omega) (by omega)
    have hpad : quartet ↑(x.toNat / 4) ↑(x.toNat % 4 * 16) (-2) (-2) =
        quartet ↑(x.toNat / 4) ↑(x.toNat % 4 * 16) ↑(0 : Nat) ↑(0 : Nat) := rfl
    obtain ⟨hb16, -, -⟩ :=
      quartetByte_bytes (x := x) (y := 0) (z := 0) (hq.trans (by simp; omega))
    have hroom : room ≠ 0 := by simp at h; omega
    rw [toBase64String, decodeQuartets, base64Value_char (by omega), base64Value_char (by omega),
      base64Value_padding]
    simp only [hpad, hb16]
    rw [if_neg (by omega), if_neg hroom]
    simp
  | case3 x y =>
    have hx := x.toNat_lt
    have hy := y.toNat_lt
    have hq := quartet_sextets (a := x.toNat / 4) (b := x.toNat % 4 * 16 + y.toNat / 16)
      (c := y.toNat % 16 * 4) (d := 0) (by omega) (by omega) (by omega)
    have hpad : quartet ↑(x.toNat / 4) ↑(x.toNat % 4 * 16 + y.toNat / 16) ↑(y.toNat % 16 * 4) (-2) =
        quartet ↑(x.toNat / 4) ↑(x.toNat % 4 * 16 + y.toNat / 16) ↑(y.toNat % 16 * 4) ↑(0 : Nat) :=
      rfl
    obtain ⟨hb16, hb8, -⟩ :=
      quartetByte_bytes (x := x) (y := y) (z := 0) (hq.trans (by simp; omega))
    have hroom : 2 ≤ room := by simpa using h
    rw [toBase64String, decodeQuartets, base64Value_char (by omega), base64Value_char (by omega),
      base64Value_char (by omega), base64Value_padding]
    simp only [hpad, hb16, hb8]
    rw [if_neg (by omega), if_neg (by omega), if_neg (by omega), if_neg (by omega)]
    simp
  | case4 x y z rest ih =>
    have hroom : rest.length + 3 ≤ room := by
      simp only [List.length_cons] at h
      omega
    rw [toBase64String, decodeQuartets_whole x y z _ (by omega), ih (by omega)]
    rfl

theorem toBase64String_length_mod (bytes : List UInt8) :
    (toBase64String bytes).length % 4 = 0 := by
  induction bytes using toBase64String.induct with
  | case1 => rfl
  | case2 x => simp [toBase64String]
  | case3 x y => simp [toBase64String]
  | case4 x y z rest ih =>
    simp only [toBase64String, List.length_cons]
    omega

theorem toBase64String_ne_nil {bytes : List UInt8} (h : bytes ≠ []) :
    toBase64String bytes ≠ [] := by
  fun_cases toBase64String bytes with
  | case1 => exact absurd rfl h
  | case2 => simp
  | case3 => simp
  | case4 => simp

theorem decodeBase64Bytes_toBase64String {bytes : List UInt8} {capacity : Nat} (hne : bytes ≠ [])
    (hfits : bytes.length ≤ capacity) :
    decodeBase64Bytes (toBase64String bytes) capacity = some bytes := by
  have hlen : (toBase64String bytes).length ≠ 0 := by simpa using toBase64String_ne_nil hne
  rw [decodeBase64Bytes, if_neg (by simp [hlen, toBase64String_length_mod]),
    decodeQuartets_toBase64String bytes hfits]

/-! The service: it begins an upload, sends the chunks one by one and commits. -/

/-- An object file; the length of an array is a positive `int`. -/
structure ObjectFile where
  bytes : List UInt8
  length_lt : bytes.length < 2 ^ 31
  deriving DecidableEq

structure PlcUploadOptions where
  slotId : UInt16
  persistToFlash : Bool
  autoLoad : Bool

structure DataRequest where
  uploadId : UInt32
  offset : UInt32
  dataBase64 : Text

/-- What the service sends. -/
inductive UploadRequest where
  | beginReq (r : UploadBeginRequest)
  | dataReq (r : DataRequest)
  | commitReq (uploadId : UInt32)
  | statusReq

/-- The fields of a response that the service reads; a field that is missing is `none`. -/
structure BeginResponse where
  ok : Bool
  uploadId : Option UInt32
  acceptedChunkSize : Option UInt32

structure DataResponse where
  ok : Bool
  uploadId : UInt32
  offset : UInt32
  expectedOffset : Option UInt32

structure CommitResponse where
  ok : Bool
  uploadId : Option UInt32
  autoLoadPending : Bool

/-- The last auto-load's slot is there when the device has a valid result of it. -/
structure StatusResponse where
  autoLoadInProgress : Bool
  autoLoadSlotId : Option UInt16
  lastAutoLoadSlotId : Option UInt16

inductive UploadResponse where
  | beginRes (r : BeginResponse)
  | dataRes (r : DataResponse)
  | commitRes (r : CommitResponse)
  | statusRes (r : StatusResponse)

def createBeginRequest (file : ObjectFile) (options : PlcUploadOptions) : UploadBeginRequest :=
  ⟨options.slotId, UInt32.ofNat file.bytes.length, Fnv.hash file.bytes, options.persistToFlash,
    options.autoLoad, true⟩

/-- The `count` bytes of the file from an offset. -/
def createDataRequest (uploadId : UInt32) (file : ObjectFile) (offset count : Nat) : DataRequest :=
  ⟨uploadId, UInt32.ofNat offset, toBase64String ((file.bytes.drop offset).take count)⟩

/-- Where a call of `UploadObjectFile` is. -/
inductive UploadPhase where
  /-- No call runs: there was none yet, or the last one has thrown. -/
  | idle
  | beginning
  | sending (uploadId : UInt32) (acceptedChunkSize offset : Nat)
  | committing (uploadId : UInt32)
  /-- The commit is answered; the deferred status is polled for a while. -/
  | observing (uploadId : UInt32) (waiting : Bool)
  /-- The last call has returned its result. -/
  | succeeded (uploadId : UInt32)
  deriving DecidableEq

structure UploadService where
  phase : UploadPhase
  file : ObjectFile
  options : PlcUploadOptions

def UploadService.fresh : UploadService := ⟨.idle, ⟨[], Nat.two_pow_pos 31⟩, ⟨0, true, true⟩⟩

/-- The service after a step, and the requests that it sends. -/
abbrev Turn := UploadService × List UploadRequest

def UploadService.goTo (s : UploadService) (phase : UploadPhase) : UploadService :=
  { s with phase := phase }

/-- An exception ends the call. -/
def UploadService.throw (s : UploadService) : Turn := (s.goTo .idle, [])

/-- No call begins before the last one has ended. -/
def UploadPhase.free : UploadPhase → Bool
  | .idle => true
  | .succeeded _ => true
  | _ => false

def UploadService.call (s : UploadService) (file : ObjectFile) (options : PlcUploadOptions) : Turn :=
  if s.phase.free then
    (⟨.beginning, file, options⟩, [.beginReq (createBeginRequest file options)])
  else (s, [])

/-- The head of the loop over the chunks. -/
def UploadService.sendFrom (s : UploadService) (uploadId : UInt32)
    (acceptedChunkSize offset : Nat) : Turn :=
  if offset < s.file.bytes.length then
    (s.goTo (.sending uploadId acceptedChunkSize offset),
      [.dataReq (createDataRequest uploadId s.file offset
        (min acceptedChunkSize (s.file.bytes.length - offset)))])
  else (s.goTo (.committing uploadId), [.commitReq uploadId])

def UploadService.takeBegin (s : UploadService) (r : BeginResponse) : Turn :=
  if !r.ok then s.throw
  else
    match r.uploadId, r.acceptedChunkSize with
    | some uploadId, some acceptedChunkSize =>
      if acceptedChunkSize = 0 ∨ 2 ^ 31 ≤ acceptedChunkSize.toNat then s.throw
      else s.sendFrom uploadId acceptedChunkSize.toNat 0
    | _, _ => s.throw

def UploadService.takeData (s : UploadService) (uploadId : UInt32)
    (acceptedChunkSize offset : Nat) (r : DataResponse) : Turn :=
  if r.uploadId = uploadId ∧ r.offset = UInt32.ofNat offset then
    let count := min acceptedChunkSize (s.file.bytes.length - offset)
    if !r.ok then s.throw
    else if r.expectedOffset ≠ some (UInt32.ofNat (offset + count)) then s.throw
    else s.sendFrom uploadId acceptedChunkSize (offset + acceptedChunkSize)
  else (s, [])

def UploadService.takeCommit (s : UploadService) (uploadId : UInt32) (r : CommitResponse) : Turn :=
  if r.uploadId = some uploadId then
    if !r.ok then s.throw
    else if r.autoLoadPending then (s.goTo (.observing uploadId false), [])
    else (s.goTo (.succeeded uploadId), [])
  else (s, [])

def hasDeferredUploadResult (r : StatusResponse) (slotId : UInt16) : Bool :=
  r.lastAutoLoadSlotId = some slotId

def isDeferredUploadInProgress (r : StatusResponse) (slotId : UInt16) : Bool :=
  r.autoLoadInProgress && (r.autoLoadSlotId.getD slotId = slotId)

def UploadService.takeStatus (s : UploadService) (uploadId : UInt32) (r : StatusResponse) : Turn :=
  if hasDeferredUploadResult r s.options.slotId ||
      !isDeferredUploadInProgress r s.options.slotId then
    (s.goTo (.succeeded uploadId), [])
  else (s.goTo (.observing uploadId false), [])

/-- A response reaches the service; the waiter of the phase takes it or lets it pass. -/
def UploadService.receive (s : UploadService) : UploadResponse → Turn
  | .beginRes r => if s.phase = .beginning then s.takeBegin r else (s, [])
  | .dataRes r =>
    match s.phase with
    | .sending uploadId acceptedChunkSize offset => s.takeData uploadId acceptedChunkSize offset r
    | _ => (s, [])
  | .commitRes r =>
    match s.phase with
    | .committing uploadId => s.takeCommit uploadId r
    | _ => (s, [])
  | .statusRes r =>
    match s.phase with
    | .observing uploadId true => s.takeStatus uploadId r
    | _ => (s, [])

/-- A wait times out; the polls catch that. -/
def UploadService.timeout (s : UploadService) : Turn :=
  match s.phase with
  | .observing uploadId true => (s.goTo (.observing uploadId false), [])
  | .observing _ false => (s, [])
  | .idle => (s, [])
  | .succeeded _ => (s, [])
  | _ => s.throw

def UploadService.poll (s : UploadService) : Turn :=
  match s.phase with
  | .observing uploadId false => (s.goTo (.observing uploadId true), [.statusReq])
  | _ => (s, [])

/-- The window in which the deferred status is polled is over. -/
def UploadService.closeWindow (s : UploadService) : Turn :=
  match s.phase with
  | .observing uploadId false => (s.goTo (.succeeded uploadId), [])
  | _ => (s, [])

/-- What the service does by itself: it is called, or time passes. -/
inductive ServiceEvent where
  | call (file : ObjectFile) (options : PlcUploadOptions)
  | timeout
  | poll
  | closeWindow

def UploadService.act (s : UploadService) : ServiceEvent → Turn
  | .call file options => s.call file options
  | .timeout => s.timeout
  | .poll => s.poll
  | .closeWindow => s.closeWindow

/-! The service and the device over a link that loses, delays, repeats and reorders. -/

/-- A request as the device reads it; `faults` is what a save of it meets. -/
def UploadRequest.read (faults : Faults) : UploadRequest → Request
  | .beginReq r => .uploadBegin r
  | .dataReq r =>
    match decodeBase64Bytes r.dataBase64 NodeNet.Flash.kPageSize.toNat with
    | some payload =>
      .uploadData ⟨r.uploadId, r.offset, payload, payloadChecksum16 payload⟩
    | none => .uploadDataInvalid
  | .commitReq uploadId => .uploadCommit uploadId faults
  | .statusReq => .uploadStatus

def beginResponse (after : NodeNetCore) : Reply → BeginResponse
  | .ok _ => ⟨true, some after.session.uploadId, some NodeNet.Flash.kPageSize⟩
  | .error .uploadBusy => ⟨false, some after.session.uploadId, none⟩
  | .error _ => ⟨false, none, none⟩

def dataResponse (after : NodeNetCore) (r : DataRequest) : Reply → DataResponse
  | .ok _ => ⟨true, r.uploadId, r.offset, some after.session.expectedOffset⟩
  | .error .noActiveUpload => ⟨false, r.uploadId, r.offset, none⟩
  | .error _ => ⟨false, r.uploadId, r.offset, some after.session.expectedOffset⟩

def commitResponse (before : NodeNetCore) : Reply → CommitResponse
  | .ok _ => ⟨true, some before.session.uploadId, true⟩
  | .error .noActiveUpload => ⟨false, none, false⟩
  | .error _ => ⟨false, some before.session.uploadId, false⟩

/-- The response to a request; `status` is what the device says of its auto-loads. -/
def respond (before after : NodeNetCore) (reply : Reply) (status : StatusResponse) :
    UploadRequest → UploadResponse
  | .beginReq _ => .beginRes (beginResponse after reply)
  | .dataReq r => .dataRes (dataResponse after r reply)
  | .commitReq _ => .commitRes (commitResponse before reply)
  | .statusReq => .statusRes status

/-- A message, with the file of the call that it was sent for. -/
structure Sent (α : Type) where
  message : α
  file : ObjectFile

/-- The two parties and all that they ever sent: what was sent may arrive late, again or never. -/
structure Link where
  service : UploadService
  device : NodeNetCore
  requests : List (Sent UploadRequest)
  responses : List (Sent UploadResponse)

inductive LinkEvent where
  /-- The service acts by itself. -/
  | service (e : ServiceEvent)
  /-- A status request that is not part of a call. -/
  | askStatus
  /-- A response that was sent reaches the service. -/
  | receive (index : Nat)
  /-- A request that was sent reaches the device. -/
  | deliver (index : Nat) (nowMs : UInt32) (faults : Faults) (status : StatusResponse)
  /-- The device goes on, or takes some other request. -/
  | device (e : Event)

/-- The requests of an upload come over the link only. -/
def isUpload : Event → Bool
  | .request (.uploadBegin _) _ => true
  | .request (.uploadData _) _ => true
  | .request (.uploadCommit _ _) _ => true
  | _ => false

def Link.turn (s : Link) (t : Turn) : Link :=
  { s with
    service := t.1
    requests := s.requests ++ t.2.map (⟨·, t.1.file⟩) }

/-- The device answers a request if its main loop takes requests now. -/
def Link.takeRequest (s : Link) (sent : Sent UploadRequest) (nowMs : UInt32) (faults : Faults)
    (status : StatusResponse) : Link :=
  let e : Event := .request (sent.message.read faults) nowMs
  match s.device.answer e with
  | none => s
  | some (_, reply) =>
    { s with
      device := s.device.next e
      responses := s.responses ++
        [⟨respond s.device (s.device.next e) reply status sent.message, sent.file⟩] }

def Link.next (s : Link) : LinkEvent → Link
  | .service e => s.turn (s.service.act e)
  | .askStatus => { s with requests := s.requests ++ [⟨.statusReq, s.service.file⟩] }
  | .receive index =>
    match s.responses[index]? with
    | none => s
    | some sent => s.turn (s.service.receive sent.message)
  | .deliver index nowMs faults status =>
    match s.requests[index]? with
    | none => s
    | some sent => s.takeRequest sent nowMs faults status
  | .device e => if isUpload e then s else { s with device := s.device.next e }

/-- What happened so far: the upload ids that were given out, and what was committed under them. -/
structure History where
  notes : UploadNotes
  begun : List (UInt32 × ObjectFile)
  committed : List (UInt32 × List UInt8)

def History.none : History := ⟨.none, [], []⟩

def committedBytes (s : NodeNetCore) : List UInt8 :=
  match s.pendingPlcAutoLoad with
  | none => []
  | some p => bytesAt (s.mem.slots p.slotId).snapshotData 0 p.objectSize.toNat

def noteBegun (s : NodeNetCore) (file : ObjectFile) (e : Event)
    (begun : List (UInt32 × ObjectFile)) : List (UInt32 × ObjectFile) :=
  match s.answer e with
  | some (.uploadBegin _, .ok _) => (s.nextPlcUploadId, file) :: begun
  | _ => begun

def noteCommitted (s : NodeNetCore) (e : Event) (committed : List (UInt32 × List UInt8)) :
    List (UInt32 × List UInt8) :=
  match s.answer e with
  | some (.uploadCommit uploadId _, .ok _) => (uploadId, committedBytes (s.next e)) :: committed
  | _ => committed

def noteRequest (s : NodeNetCore) (file : ObjectFile) (e : Event) (h : History) : History :=
  ⟨noteUpload s e h.notes, noteBegun s file e h.begun, noteCommitted s e h.committed⟩

def noteLink (s : Link) (event : LinkEvent) (h : History) : History :=
  match event with
  | .deliver index nowMs faults _ =>
    match s.requests[index]? with
    | none => h
    | some sent =>
      noteRequest s.device sent.file (.request (sent.message.read faults) nowMs) h
  | _ => h

/-- A link over which nothing was sent. -/
def Link.fresh (device : NodeNetCore) : Link := ⟨.fresh, device, [], []⟩

/-- A call that has succeeded: its file was committed under its upload id. -/
def Agrees (p : Link × History) : Prop :=
  ∀ uploadId, p.1.service.phase = .succeeded uploadId →
    (uploadId, p.1.service.file.bytes) ∈ p.2.committed

/-- The begin response that is taken answers a begin request for the same file. -/
def takesOwn (p : Link × History) : LinkEvent → Bool
  | .receive index =>
    match p.1.responses[index]? with
    | some ⟨.beginRes r, file⟩ =>
      p.1.service.phase ≠ .beginning || !r.ok || file = p.1.service.file
    | _ => true
  | _ => true

/-- An upload id that is given out was not given to another file before. -/
def givesFresh (p : Link × History) : LinkEvent → Bool
  | .deliver index _ _ _ =>
    match p.1.requests[index]? with
    | some ⟨.beginReq r, file⟩ =>
      (beginError p.1.device.session r).isSome ||
        p.2.begun.all fun given => given.1 ≠ p.1.device.nextPlcUploadId || given.2 = file
    | _ => true
  | _ => true

/-- Upload ids tell the files apart: the one that a call takes, and the one that is given out. -/
def TellsApart (p : Link × History) (e : LinkEvent) : Prop :=
  takesOwn p e = true ∧ givesFresh p e = true

instance (p : Link × History) (e : LinkEvent) : Decidable (TellsApart p e) :=
  inferInstanceAs (Decidable (_ ∧ _))

end NodeNet.Upload

import NodeNet.Upload.Service

/-! What the link keeps: an upload id stands for one file, and its chunks are of that file. -/
namespace NodeNet.Upload
open NodeNet.Bytes NodeNet.Nor NodeNet.Core NodeNet.Machine NodeNet.Loader

structure Grows (h h' : History) : Prop where
  begun : ∀ given ∈ h.begun, given ∈ h'.begun
  committed : ∀ done ∈ h.committed, done ∈ h'.committed

theorem Grows.refl (h : History) : Grows h h := ⟨fun _ hg => hg, fun _ hd => hd⟩

/-- A chunk is cut out of the file that its upload id was given to. -/
structure ChunkOf (h : History) (r : DataRequest) (file : ObjectFile) : Prop where
  given : (r.uploadId, file) ∈ h.begun
  cut : ∃ offset count, 0 < count ∧ count ≤ 256 ∧ offset < file.bytes.length ∧
    r = createDataRequest r.uploadId file offset count

/-- A response that opens a call for the file. -/
structure Opens (h : History) (r : BeginResponse) (file : ObjectFile) : Prop where
  given : ∃ uploadId, r.uploadId = some uploadId ∧ (uploadId, file) ∈ h.begun
  chunkSize : r.acceptedChunkSize = some NodeNet.Flash.kPageSize

/-- A response to a commit that was carried out. -/
def Confirms (h : History) (r : CommitResponse) : Prop :=
  ∃ uploadId file, r.uploadId = some uploadId ∧ (uploadId, file) ∈ h.begun ∧
    (uploadId, file.bytes) ∈ h.committed

def RequestOk (h : History) (sent : Sent UploadRequest) : Prop :=
  match sent.message with
  | .beginReq r => r.totalSize = UInt32.ofNat sent.file.bytes.length
  | .dataReq r => ChunkOf h r sent.file
  | _ => True

def ResponseOk (h : History) (sent : Sent UploadResponse) : Prop :=
  match sent.message with
  | .beginRes r => r.ok = true → Opens h r sent.file
  | .commitRes r => r.ok = true → Confirms h r
  | _ => True

/-- What the service's phase says of its upload id. -/
def PhaseOk (h : History) (file : ObjectFile) : UploadPhase → Prop
  | .idle => True
  | .beginning => True
  | .sending uploadId acceptedChunkSize _ => (uploadId, file) ∈ h.begun ∧ acceptedChunkSize = 256
  | .committing uploadId => (uploadId, file) ∈ h.begun
  | .observing uploadId _ => (uploadId, file.bytes) ∈ h.committed
  | .succeeded uploadId => (uploadId, file.bytes) ∈ h.committed

/-- The session receives the front of the file that its upload id was given to. -/
structure Receives (h : History) (session : PlcUploadSession) (file : ObjectFile) : Prop where
  given : (session.uploadId, file) ∈ h.begun
  totalSize : h.notes.begun.totalSize = UInt32.ofNat file.bytes.length
  front : h.notes.received <+: file.bytes

structure LinkInv (p : Link × History) : Prop where
  upload : UploadInv (p.1.device, p.2.notes)
  single : ∀ uploadId file file', (uploadId, file) ∈ p.2.begun → (uploadId, file') ∈ p.2.begun →
    file = file'
  session : p.1.device.session.active = true → ∃ file, Receives p.2 p.1.device.session file
  requests : ∀ sent ∈ p.1.requests, RequestOk p.2 sent
  responses : ∀ sent ∈ p.1.responses, ResponseOk p.2 sent
  service : PhaseOk p.2 p.1.service.file p.1.service.phase

section
variable {h h' : History} (hgrows : Grows h h')
include hgrows

theorem RequestOk.grow {sent : Sent UploadRequest} (hok : RequestOk h sent) :
    RequestOk h' sent := by
  obtain ⟨message, file⟩ := sent
  cases message with
  | beginReq r => exact hok
  | dataReq r => exact ⟨hgrows.begun _ hok.given, hok.cut⟩
  | commitReq uploadId => trivial
  | statusReq => trivial

theorem ResponseOk.grow {sent : Sent UploadResponse} (hok : ResponseOk h sent) :
    ResponseOk h' sent := by
  obtain ⟨message, file⟩ := sent
  cases message with
  | beginRes r =>
    intro hr
    obtain ⟨⟨uploadId, hid, hgiven⟩, hsize⟩ := hok hr
    exact ⟨⟨uploadId, hid, hgrows.begun _ hgiven⟩, hsize⟩
  | dataRes r => trivial
  | commitRes r =>
    intro hr
    obtain ⟨uploadId, file', hid, hgiven, hdone⟩ := hok hr
    exact ⟨uploadId, file', hid, hgrows.begun _ hgiven, hgrows.committed _ hdone⟩
  | statusRes r => trivial

theorem PhaseOk.grow {file : ObjectFile} {phase : UploadPhase} (hok : PhaseOk h file phase) :
    PhaseOk h' file phase := by
  cases phase with
  | idle => trivial
  | beginning => trivial
  | sending uploadId acceptedChunkSize offset => exact ⟨hgrows.begun _ hok.1, hok.2⟩
  | committing uploadId => exact hgrows.begun _ hok
  | observing uploadId waiting => exact hgrows.committed _ hok
  | succeeded uploadId => exact hgrows.committed _ hok

end

/-- What the service may do in a turn. -/
structure TurnOk (h : History) (t : Turn) : Prop where
  phase : PhaseOk h t.1.file t.1.phase
  requests : ∀ m ∈ t.2, RequestOk h ⟨m, t.1.file⟩

section
variable {h : History} {s : UploadService}

theorem TurnOk.silent {phase : UploadPhase} (hphase : PhaseOk h s.file phase) :
    TurnOk h (s.goTo phase, []) := ⟨hphase, fun _ hm => by cases hm⟩

theorem TurnOk.still (hphase : PhaseOk h s.file s.phase) : TurnOk h (s, []) :=
  ⟨hphase, fun _ hm => by cases hm⟩

variable {uploadId : UInt32}

theorem sendFrom_ok (hgiven : (uploadId, s.file) ∈ h.begun) (offset : Nat) :
    TurnOk h (s.sendFrom uploadId 256 offset) := by
  rw [UploadService.sendFrom]
  split
  · rename_i hoffset
    refine ⟨⟨hgiven, rfl⟩, fun m hm => ?_⟩
    rw [List.mem_singleton] at hm
    subst hm
    exact ⟨hgiven, offset, min 256 (s.file.bytes.length - offset), by omega, by omega, hoffset,
      rfl⟩
  · refine ⟨hgiven, fun m hm => ?_⟩
    rw [List.mem_singleton] at hm
    subst hm
    trivial

theorem act_ok (hs : PhaseOk h s.file s.phase) (e : ServiceEvent) : TurnOk h (s.act e) := by
  cases e with
  | call file options =>
    change TurnOk h (s.call file options)
    rw [UploadService.call]
    split
    · refine ⟨trivial, fun m hm => ?_⟩
      rw [List.mem_singleton] at hm
      subst hm
      exact rfl
    · exact .still hs
  | timeout =>
    change TurnOk h s.timeout
    have hstill : TurnOk h (s, []) := .still hs
    rw [UploadService.timeout]
    generalize s.phase = phase at hs
    cases phase with
    | idle => exact hstill
    | beginning => exact .silent trivial
    | sending uploadId acceptedChunkSize offset => exact .silent trivial
    | committing uploadId => exact .silent trivial
    | observing uploadId waiting =>
      cases waiting with
      | true => exact .silent hs
      | false => exact hstill
    | succeeded uploadId => exact hstill
  | poll =>
    change TurnOk h s.poll
    rw [UploadService.poll]
    split
    · rename_i hphase
      rw [hphase] at hs
      refine ⟨hs, fun m hm => ?_⟩
      rw [List.mem_singleton] at hm
      subst hm
      trivial
    · exact .still hs
  | closeWindow =>
    change TurnOk h s.closeWindow
    rw [UploadService.closeWindow]
    split
    · rename_i hphase
      rw [hphase] at hs
      exact .silent hs
    · exact .still hs

theorem takeBegin_ok {r : BeginResponse} (hopens : r.ok = true → Opens h r s.file) :
    TurnOk h (s.takeBegin r) := by
  rw [UploadService.takeBegin]
  split
  · exact .silent trivial
  · rename_i hok
    obtain ⟨⟨uploadId, hid, hgiven⟩, hsize⟩ := hopens (by simpa using hok)
    rw [hid, hsize]
    exact sendFrom_ok hgiven 0

theorem takeData_ok (hgiven : (uploadId, s.file) ∈ h.begun) {offset : Nat}
    (hphase : s.phase = .sending uploadId 256 offset) (r : DataResponse) :
    TurnOk h (s.takeData uploadId 256 offset r) := by
  have hsame : PhaseOk h s.file s.phase := by
    rw [hphase]
    exact ⟨hgiven, rfl⟩
  simp only [UploadService.takeData]
  split
  · split
    · exact .silent trivial
    · split
      · exact .silent trivial
      · exact sendFrom_ok hgiven _
  · exact .still hsame

theorem takeCommit_ok
    (hsingle : ∀ uploadId file file', (uploadId, file) ∈ h.begun →
    (uploadId, file') ∈ h.begun → file = file') (hgiven : (uploadId, s.file) ∈ h.begun)
    (hphase : s.phase = .committing uploadId) {r : CommitResponse}
    (hconfirms : r.ok = true → Confirms h r) : TurnOk h (s.takeCommit uploadId r) := by
  rw [UploadService.takeCommit]
  split
  · rename_i hid
    split
    · exact .silent trivial
    · rename_i hok
      obtain ⟨uploadId', file, hid', hgiven', hdone⟩ := hconfirms (by simpa using hok)
      rw [hid, Option.some.injEq] at hid'
      subst hid'
      have hfile := hsingle uploadId s.file file hgiven hgiven'
      rw [← hfile] at hdone
      split
      · exact .silent hdone
      · exact .silent hdone
  · have hsame : PhaseOk h s.file s.phase := by
      rw [hphase]
      exact hgiven
    exact .still hsame

theorem takeStatus_ok (hdone : (uploadId, s.file.bytes) ∈ h.committed) (r : StatusResponse) :
    TurnOk h (s.takeStatus uploadId r) := by
  rw [UploadService.takeStatus]
  split
  · exact .silent hdone
  · exact .silent hdone

end

/-- A response that is received is taken as the phase allows. -/
theorem receive_ok {p : Link × History} (h : LinkInv p) {index : Nat}
    {sent : Sent UploadResponse} (hsent : p.1.responses[index]? = some sent)
    (hown : takesOwn p (.receive index) = true) :
    TurnOk p.2 (p.1.service.receive sent.message) := by
  have hmessage := h.responses sent (List.mem_of_getElem? hsent)
  have hservice := h.service
  simp only [takesOwn, hsent] at hown
  obtain ⟨message, file⟩ := sent
  cases message with
  | beginRes r =>
    simp only [UploadService.receive]
    split
    · rename_i hphase
      refine takeBegin_ok fun hok => ?_
      simp only [hphase, hok, ne_eq, not_true_eq_false, decide_false, Bool.not_true, Bool.false_or,
        decide_eq_true_eq] at hown
      rw [← hown]
      exact hmessage hok
    · exact .still hservice
  | dataRes r =>
    simp only [UploadService.receive]
    split
    · rename_i uploadId acceptedChunkSize offset hphase
      rw [hphase] at hservice
      obtain ⟨hgiven, rfl⟩ := hservice
      exact takeData_ok hgiven hphase r
    · exact .still hservice
  | commitRes r =>
    simp only [UploadService.receive]
    split
    · rename_i uploadId hphase
      rw [hphase] at hservice
      exact takeCommit_ok h.single hservice hphase hmessage
    · exact .still hservice
  | statusRes r =>
    simp only [UploadService.receive]
    split
    · rename_i uploadId hphase
      rw [hphase] at hservice
      exact takeStatus_ok hservice r
    · exact .still hservice

theorem LinkInv.turn {s : Link} {h : History} (hinv : LinkInv (s, h)) {t : Turn}
    (ht : TurnOk h t) : LinkInv (s.turn t, h) where
  upload := hinv.upload
  single := hinv.single
  session := hinv.session
  requests := by
    intro sent hsent
    change sent ∈ s.requests ++ t.2.map (⟨·, t.1.file⟩) at hsent
    rw [List.mem_append, List.mem_map] at hsent
    obtain hold | ⟨m, hm, rfl⟩ := hsent
    · exact hinv.requests sent hold
    · exact ht.requests m hm
  responses := hinv.responses
  service := ht.phase

/-! A call that succeeds has committed its file, if the upload ids tell the files apart. -/

def SameSession (s t : NodeNetCore) : Prop :=
  t.session.active = true →
    s.session.active = true ∧ t.session.uploadId = s.session.uploadId

theorem sameSession_of_kept {s t : NodeNetCore}
    (h : t.session = s.session ∨ t.session = .reset) : SameSession s t := by
  intro hactive
  obtain h | h := h
  · rw [h] at hactive ⊢
    exact ⟨hactive, rfl⟩
  · rw [h] at hactive
    cases hactive

theorem handle_sameSession (s : NodeNetCore) (r : Request) (nowMs : UInt32)
    (hother : isUpload (.request r nowMs) = false) : SameSession s (s.handle nowMs r).1 := by
  cases r with
  | upsert definition => exact sameSession_of_kept (.inl rfl)
  | remove id => exact sameSession_of_kept (.inl rfl)
  | engineEnabled requested stored => exact sameSession_of_kept (.inl rfl)
  | slotCommand command slotId requested stored =>
    exact sameSession_of_kept (.inl (slotCommand_upload s command slotId requested stored).1)
  | property stored => exact sameSession_of_kept (.inl rfl)
  | erase r faults =>
    refine sameSession_of_kept (.inl ?_)
    simp only [NodeNetCore.handle, handlePlcEraseRequest]
    split
    · rfl
    · split <;> rfl
  | uploadBegin r => cases hother
  | uploadData c => cases hother
  | uploadDataInvalid => exact fun hactive => ⟨hactive, rfl⟩
  | uploadCommit uploadId faults => cases hother
  | uploadAbort uploadId =>
    simp only [NodeNetCore.handle, handlePlcUploadAbortRequest]
    split
    · exact sameSession_of_kept (.inl rfl)
    · split
      · exact sameSession_of_kept (.inl rfl)
      · exact sameSession_of_kept (.inr rfl)
  | uploadStatus => exact sameSession_of_kept (.inl rfl)

theorem next_sameSession (s : NodeNetCore) {e : Event} (hother : isUpload e = false) :
    SameSession s (s.next e) := by
  cases e with
  | request r nowMs =>
    simp only [NodeNetCore.next]
    split
    · exact handle_sameSession s r nowMs hother
    · exact sameSession_of_kept (.inl rfl)
  | advance nowMs => exact sameSession_of_kept (advance_upload s nowMs).2
  | vmStart =>
    simp only [NodeNetCore.next]
    split <;> exact sameSession_of_kept (.inl rfl)
  | vmReport slotId report =>
    simp only [NodeNetCore.next]
    split <;> exact sameSession_of_kept (.inl rfl)
  | vmFinish => exact sameSession_of_kept (.inl rfl)

theorem noteUpload_of_other (s : NodeNetCore) {e : Event} (hother : isUpload e = false)
    (notes : UploadNotes) : noteUpload s e notes = notes := by
  cases e with
  | request r nowMs =>
    rw [noteUpload, NodeNetCore.answer]
    split
    · rename_i heq
      split at heq
      · rw [(Prod.mk.inj (Option.some.inj heq)).1] at hother
        cases hother
      · cases heq
    · rename_i heq
      split at heq
      · rw [(Prod.mk.inj (Option.some.inj heq)).1] at hother
        cases hother
      · cases heq
    · rfl
  | advance nowMs => rfl
  | vmStart => rfl
  | vmReport slotId report => rfl
  | vmFinish => rfl

theorem LinkInv.session_of_same {s : Link} {h : History} (hinv : LinkInv (s, h))
    {device : NodeNetCore} (hsame : SameSession s.device device)
    (hactive : device.session.active = true) : ∃ file, Receives h device.session file := by
  obtain ⟨hbefore, hid⟩ := hsame hactive
  obtain ⟨file, hgiven, htotal, hfront⟩ := hinv.session hbefore
  refine ⟨file, ?_, htotal, hfront⟩
  rw [hid]
  exact hgiven

theorem LinkInv.device {s : Link} {h : History} (hinv : LinkInv (s, h)) {e : Event}
    (hother : isUpload e = false) : LinkInv ({ s with device := s.device.next e }, h) where
  upload := by
    have hnext := uploadInv_next hinv.upload e
    rw [observed, noteUpload_of_other _ hother] at hnext
    exact hnext
  single := hinv.single
  session := hinv.session_of_same (next_sameSession s.device hother)
  requests := hinv.requests
  responses := hinv.responses
  service := hinv.service

/-- What a request leaves that the device answers. -/
structure Answered (h h' : History) (device : NodeNetCore) (response : Sent UploadResponse) :
    Prop where
  grows : Grows h h'
  single : ∀ uploadId file file', (uploadId, file) ∈ h'.begun → (uploadId, file') ∈ h'.begun →
    file = file'
  session : device.session.active = true → ∃ file, Receives h' device.session file
  response : ResponseOk h' response

section
variable {s : Link} {h : History} {file : ObjectFile}

theorem noteRequest_refused {e : Event} {r : Request} {error : RequestError}
    (hanswer : s.device.answer e = some (r, .error error)) :
    noteRequest s.device file e h = h := by
  simp only [noteRequest, noteUpload, noteBegun, noteCommitted, hanswer]

theorem answered_refused (hinv : LinkInv (s, h)) {e : Event} {r : Request} {error : RequestError}
    (hanswer : s.device.answer e = some (r, .error error)) {device : NodeNetCore}
    (hsame : SameSession s.device device) {response : UploadResponse}
    (hresponse : ResponseOk h ⟨response, file⟩) :
    Answered h (noteRequest s.device file e h) device ⟨response, file⟩ := by
  rw [noteRequest_refused hanswer]
  exact ⟨.refl h, hinv.single, hinv.session_of_same hsame, hresponse⟩

theorem beginResponse_error (after : NodeNetCore) (error : RequestError) :
    (beginResponse after (.error error)).ok = false := by
  cases error <;> rfl

theorem commitResponse_error (before : NodeNetCore) (error : RequestError) :
    (commitResponse before (.error error)).ok = false := by
  cases error <;> rfl

theorem handle_begin (s : NodeNetCore) (r : UploadBeginRequest) (nowMs : UInt32) :
    (∃ error, s.handle nowMs (.uploadBegin r) = (s, .error error)) ∨
      beginError s.session r = none ∧
        s.handle nowMs (.uploadBegin r) = (beginUpload s r nowMs, .ok ()) := by
  simp only [NodeNetCore.handle, handlePlcUploadBeginRequest]
  cases hb : beginError s.session r with
  | some error => exact .inl ⟨error, rfl⟩
  | none => exact .inr ⟨rfl, rfl⟩

theorem handle_chunk (s : NodeNetCore) (c : UploadChunk) (nowMs : UInt32) :
    (∃ t error, SameSession s t ∧ s.handle nowMs (.uploadData c) = (t, .error error)) ∨
      s.session.active = true ∧ ChunkFits s.session c ∧
        s.handle nowMs (.uploadData c) =
          ({ s with
            staging := patch s.staging c.offset c.payload
            session := s.session.accept c.payload nowMs }, .ok ()) := by
  simp only [NodeNetCore.handle, handlePlcUploadDataChunk]
  cases hactive : s.session.active with
  | false => exact .inl ⟨s, _, sameSession_of_kept (.inl rfl), rfl⟩
  | true =>
    cases hc : chunkError s.session c with
    | some error =>
      refine .inl ⟨{ s with session := s.session.refuse }, error, ?_, rfl⟩
      exact fun hactive => ⟨hactive, rfl⟩
    | none => exact .inr ⟨rfl, chunkFits_of_accepted hc, rfl⟩

variable {session : PlcUploadSession}

theorem uploadId_of_commit {uploadId : UInt32} (h : commitError session uploadId = none) :
    uploadId = session.uploadId := by
  rw [commitError] at h
  split at h
  · cases h
  · split at h
    · cases h
    · rename_i hid
      simpa using hid

theorem handle_commit (s : NodeNetCore) (uploadId : UInt32) (faults : Faults) (nowMs : UInt32) :
    (∃ t error, t.session = s.session ∧
        s.handle nowMs (.uploadCommit uploadId faults) = (t, .error error)) ∨
      s.session.active = true ∧ uploadId = s.session.uploadId ∧
        ∃ t, t.session = .reset ∧ s.handle nowMs (.uploadCommit uploadId faults) = (t, .ok ()) := by
  simp only [NodeNetCore.handle, handlePlcUploadCommitRequest]
  cases hc : commitError s.session uploadId with
  | some error => exact .inl ⟨s, error, rfl, rfl⟩
  | none =>
    dsimp only
    split
    · exact .inr ⟨(commitFits_of_accepted hc).active, uploadId_of_commit hc, _, rfl, rfl⟩
    · exact .inl ⟨(stageUpload s).withPackage _, _, rfl, rfl⟩

variable {nowMs : UInt32} {faults : Faults}

theorem begin_answered (hinv : LinkInv (s, h)) {r : UploadBeginRequest}
    (hr : RequestOk h ⟨.beginReq r, file⟩)
    (hfresh : beginError s.device.session r = none →
      ∀ file', (s.device.nextPlcUploadId, file') ∈ h.begun → file' = file)
    (hanswer : s.device.answer (.request (.uploadBegin r) nowMs) =
      some (.uploadBegin r, (s.device.handle nowMs (.uploadBegin r)).2)) :
    Answered h (noteRequest s.device file (.request (.uploadBegin r) nowMs) h)
      (s.device.handle nowMs (.uploadBegin r)).1
      ⟨.beginRes (beginResponse (s.device.handle nowMs (.uploadBegin r)).1
        (s.device.handle nowMs (.uploadBegin r)).2), file⟩ := by
  obtain ⟨error, hhandle⟩ | ⟨hb, hhandle⟩ := handle_begin s.device r nowMs
  · rw [hhandle] at hanswer ⊢
    refine answered_refused hinv hanswer (sameSession_of_kept (.inl rfl)) fun hok => ?_
    rw [beginResponse_error] at hok
    cases hok
  · rw [hhandle] at hanswer ⊢
    have hnote : noteRequest s.device file (.request (.uploadBegin r) nowMs) h =
        ⟨⟨r, []⟩, (s.device.nextPlcUploadId, file) :: h.begun, h.committed⟩ := by
      simp only [noteRequest, noteUpload, noteBegun, noteCommitted, hanswer]
    have hold := hfresh hb
    rw [hnote]
    constructor
    case grows => exact ⟨fun _ hg => List.mem_cons_of_mem _ hg, fun _ hd => hd⟩
    case single =>
      intro uploadId file₁ file₂ h₁ h₂
      simp only [List.mem_cons, Prod.mk.injEq] at h₁ h₂
      obtain ⟨rfl, rfl⟩ | h₁ := h₁
      · obtain ⟨-, rfl⟩ | h₂ := h₂
        · rfl
        · exact (hold _ h₂).symm
      · obtain ⟨rfl, rfl⟩ | h₂ := h₂
        · exact hold _ h₁
        · exact hinv.single _ _ _ h₁ h₂
    case session =>
      intro _
      exact ⟨file, List.mem_cons_self, hr, List.nil_prefix⟩
    case response =>
      intro _
      exact ⟨⟨s.device.nextPlcUploadId, rfl, List.mem_cons_self⟩, rfl⟩

theorem ChunkOf.read {r : DataRequest} (hr : ChunkOf h r file) (faults : Faults) :
    ∃ offset count c, (UploadRequest.dataReq r).read faults = .uploadData c ∧
      c.uploadId = r.uploadId ∧ offset < 2 ^ 31 ∧ c.offset = UInt32.ofNat offset ∧
      c.payload = (file.bytes.drop offset).take count := by
  obtain ⟨offset, count, hpos, hcount, hoffset, heq⟩ := hr.cut
  have hne : (file.bytes.drop offset).take count ≠ [] := by
    rw [ne_eq, List.take_eq_nil_iff, List.drop_eq_nil_iff]
    omega
  have hfits : ((file.bytes.drop offset).take count).length ≤ NodeNet.Flash.kPageSize.toNat :=
    Nat.le_trans (List.length_take_le ..) hcount
  have hlength := file.length_lt
  have hread : (UploadRequest.dataReq (createDataRequest r.uploadId file offset count)).read faults =
      .uploadData ⟨r.uploadId, UInt32.ofNat offset, (file.bytes.drop offset).take count,
        payloadChecksum16 ((file.bytes.drop offset).take count)⟩ := by
    simp only [UploadRequest.read, createDataRequest, decodeBase64Bytes_toBase64String hne hfits]
  rw [← heq] at hread
  exact ⟨offset, count, _, hread, rfl, by omega, rfl, rfl⟩

theorem front_chunk {staging : Memory} {c : UploadChunk} (hstaged : Staged session staging h.notes)
    (hc : ChunkFits session c) (hfront : h.notes.received <+: file.bytes) {offset count : Nat}
    (hoffset : offset < 2 ^ 31) (hat : c.offset = UInt32.ofNat offset)
    (hpayload : c.payload = (file.bytes.drop offset).take count) :
    h.notes.received ++ c.payload <+: file.bytes := by
  have hlength : h.notes.received.length = offset := by
    rw [← hstaged.received, ← hstaged.expectedOffset, ← hc.offset, hat]
    exact UInt32.toNat_ofNat_of_lt' (by simp [UInt32.size]; omega)
  rw [List.prefix_iff_eq_take, hlength] at hfront
  rw [hfront, hpayload, ← List.take_add]
  exact List.take_prefix _ _

theorem data_answered (hinv : LinkInv (s, h)) {r : DataRequest} (hr : ChunkOf h r file)
    {q : Request} (hq : (UploadRequest.dataReq r).read faults = q)
    (hanswer : s.device.answer (.request q nowMs) = some (q, (s.device.handle nowMs q).2)) :
    Answered h (noteRequest s.device file (.request q nowMs) h) (s.device.handle nowMs q).1
      ⟨.dataRes (dataResponse (s.device.handle nowMs q).1 r (s.device.handle nowMs q).2),
        file⟩ := by
  obtain ⟨offset, count, c, hread, hid, hoffset, hat, hpayload⟩ := hr.read faults
  obtain rfl : q = .uploadData c := hq.symm.trans hread
  obtain ⟨t, error, hsame, hhandle⟩ | ⟨hactive, hfits, hhandle⟩ := handle_chunk s.device c nowMs
  · rw [hhandle] at hanswer ⊢
    exact answered_refused hinv hanswer hsame trivial
  · rw [hhandle] at hanswer ⊢
    obtain ⟨file', hgiven, htotal, hfront⟩ := hinv.session hactive
    -- the upload id of the chunk is the session's, so both are of one file
    obtain rfl : file' = file := by
      rw [← hfits.uploadId, hid] at hgiven
      exact hinv.single _ _ _ hgiven hr.given
    have hnote : noteRequest s.device file' (.request (.uploadData c) nowMs) h =
        { h with notes := ⟨h.notes.begun, h.notes.received ++ c.payload⟩ } := by
      simp only [noteRequest, noteUpload, noteBegun, noteCommitted, hanswer]
    rw [hnote]
    constructor
    case grows => exact ⟨fun _ hg => hg, fun _ hd => hd⟩
    case single => exact hinv.single
    case session =>
      intro _
      exact ⟨file', hgiven, htotal,
        front_chunk (hinv.upload hactive) hfits hfront hoffset hat hpayload⟩
    case response => trivial

theorem committedBytes_of_handsOver {t : NodeNetCore} (hover : HandsOver h.notes t)
    (hreceives : Receives h session file) : committedBytes t = file.bytes := by
  obtain ⟨p, hp, -, -, hbytes⟩ := hover.pending
  have hlength : h.notes.received.length = file.bytes.length := by
    rw [hover.size, hreceives.totalSize]
    have hlt := file.length_lt
    exact UInt32.toNat_ofNat_of_lt' (by simp [UInt32.size]; omega)
  rw [committedBytes, hp]
  exact hbytes.trans (hreceives.front.eq_of_length hlength)

theorem commit_answered (hinv : LinkInv (s, h)) {uploadId : UInt32}
    (hanswer : s.device.answer (.request (.uploadCommit uploadId faults) nowMs) =
      some (.uploadCommit uploadId faults,
        (s.device.handle nowMs (.uploadCommit uploadId faults)).2))
    (hnext : s.device.next (.request (.uploadCommit uploadId faults) nowMs) =
      (s.device.handle nowMs (.uploadCommit uploadId faults)).1) :
    Answered h (noteRequest s.device file (.request (.uploadCommit uploadId faults) nowMs) h)
      (s.device.handle nowMs (.uploadCommit uploadId faults)).1
      ⟨.commitRes (commitResponse s.device
        (s.device.handle nowMs (.uploadCommit uploadId faults)).2), file⟩ := by
  obtain ⟨t, error, hsession, hhandle⟩ | ⟨hactive, hid, t, hreset, hhandle⟩ :=
    handle_commit s.device uploadId faults nowMs
  · rw [hhandle] at hanswer ⊢
    refine answered_refused hinv hanswer (sameSession_of_kept (.inl hsession)) fun hok => ?_
    rw [commitResponse_error] at hok
    cases hok
  · rw [hhandle] at hanswer hnext ⊢
    obtain ⟨file', hreceives⟩ := hinv.session hactive
    have hover := commitsUpload_of_inv hinv.upload _ uploadId faults hanswer
    rw [hnext] at hover
    have hnote : noteRequest s.device file (.request (.uploadCommit uploadId faults) nowMs) h =
        { h with committed := (uploadId, file'.bytes) :: h.committed } := by
      simp only [noteRequest, noteUpload, noteBegun, noteCommitted, hanswer, hnext]
      rw [committedBytes_of_handsOver hover hreceives]
    rw [hnote]
    constructor
    case grows => exact ⟨fun _ hg => hg, fun _ hd => List.mem_cons_of_mem _ hd⟩
    case single => exact hinv.single
    case session =>
      intro hactive'
      rw [hreset] at hactive'
      cases hactive'
    case response =>
      intro _
      refine ⟨s.device.session.uploadId, file', rfl, hreceives.given, ?_⟩
      rw [← hid]
      exact List.mem_cons_self

theorem LinkInv.answered (hinv : LinkInv (s, h)) {h' : History} {device : NodeNetCore}
    {response : Sent UploadResponse} (hanswered : Answered h h' device response)
    (hupload : UploadInv (device, h'.notes)) :
    LinkInv ({ s with device := device, responses := s.responses ++ [response] }, h') where
  upload := hupload
  single := hanswered.single
  session := hanswered.session
  requests sent hsent := (hinv.requests sent hsent).grow hanswered.grows
  responses := by
    intro sent hsent
    change sent ∈ s.responses ++ [response] at hsent
    rw [List.mem_append, List.mem_singleton] at hsent
    obtain hold | rfl := hsent
    · exact (hinv.responses sent hold).grow hanswered.grows
    · exact hanswered.response
  service := hinv.service.grow hanswered.grows

/-- A request that reaches the device keeps the invariant. -/
theorem LinkInv.deliver (hinv : LinkInv (s, h)) {index : Nat} {status : StatusResponse}
    (hfresh : givesFresh (s, h) (.deliver index nowMs faults status) = true) :
    LinkInv (observed Link.next noteLink (s, h) (.deliver index nowMs faults status)) := by
  rw [observed]
  cases hsent : s.requests[index]? with
  | none =>
    simp only [Link.next, noteLink, hsent]
    exact hinv
  | some sent =>
    simp only [Link.next, noteLink, hsent, Link.takeRequest]
    by_cases hphase : s.device.phase = .service ∨ s.device.phase = .input
    · have hanswer (r : Request) :
          s.device.answer (.request r nowMs) = some (r, (s.device.handle nowMs r).2) := by
        rw [NodeNetCore.answer, if_pos hphase]
      have hnext (r : Request) :
          s.device.next (.request r nowMs) = (s.device.handle nowMs r).1 := by
        rw [NodeNetCore.next, if_pos hphase]
      simp only [hanswer, hnext]
      have hupload := uploadInv_next hinv.upload
        (.request (sent.message.read faults) nowMs)
      rw [observed, hnext] at hupload
      refine hinv.answered ?_ hupload
      have hrequest := hinv.requests sent (List.mem_of_getElem? hsent)
      simp only [givesFresh, hsent] at hfresh
      obtain ⟨message, file⟩ := sent
      cases message with
      | beginReq r =>
        refine begin_answered hinv hrequest (fun hb file' hgiven => ?_) (hanswer _)
        dsimp only at hfresh
        rw [hb] at hfresh
        have hall := List.all_eq_true.mp hfresh _ hgiven
        simpa using hall
      | dataReq r => exact data_answered hinv hrequest rfl (hanswer _)
      | commitReq uploadId => exact commit_answered hinv (hanswer _) (hnext _)
      | statusReq =>
        have hother : isUpload (.request .uploadStatus nowMs) = false := rfl
        have hnote : noteRequest s.device file (.request .uploadStatus nowMs) h = h := by
          rw [noteRequest, noteUpload_of_other _ hother]
          simp only [noteBegun, noteCommitted, hanswer]
        change Answered h (noteRequest s.device file (.request .uploadStatus nowMs) h) s.device _
        rw [hnote]
        exact ⟨.refl h, hinv.single, hinv.session, trivial⟩
    · have hanswer (r : Request) : s.device.answer (.request r nowMs) = none := by
        rw [NodeNetCore.answer, if_neg hphase]
      simp only [hanswer, noteRequest, noteUpload, noteBegun, noteCommitted]
      exact hinv

end

theorem linkInv_next {p : Link × History} (h : LinkInv p) {e : LinkEvent}
    (hapart : TellsApart p e) : LinkInv (observed Link.next noteLink p e) := by
  obtain ⟨s, history⟩ := p
  cases e with
  | service e => exact h.turn (act_ok h.service e)
  | askStatus =>
    refine ⟨h.upload, h.single, h.session, fun sent hsent => ?_, h.responses, h.service⟩
    change sent ∈ s.requests ++ [_] at hsent
    rw [List.mem_append, List.mem_singleton] at hsent
    obtain hold | rfl := hsent
    · exact h.requests sent hold
    · trivial
  | receive index =>
    rw [observed]
    cases hsent : s.responses[index]? with
    | none =>
      simp only [Link.next, noteLink, hsent]
      exact h
    | some sent =>
      simp only [Link.next, noteLink, hsent]
      exact h.turn (receive_ok h hsent hapart.1)
  | deliver index nowMs faults status => exact h.deliver hapart.2
  | device e =>
    rw [observed]
    simp only [Link.next, noteLink]
    split
    · exact h
    · rename_i hother
      exact h.device (by simpa using hother)

theorem linkInv_fresh (mem : LoaderState) (staging flash : Memory)
    (nextPlcUploadId epoch : UInt32) (preferences : Preferences) :
    LinkInv (.fresh (.start mem staging flash nextPlcUploadId epoch preferences), .none) where
  upload hactive := by cases hactive
  single _ _ _ h := by cases h
  session hactive := by cases hactive
  requests _ h := by cases h
  responses _ h := by cases h
  service := trivial

/-- A call that succeeds has committed its file, in every run whose upload ids tell the files
apart. -/
theorem upload_agrees (mem : LoaderState) (staging flash : Memory)
    (nextPlcUploadId epoch : UInt32) (preferences : Preferences) (events : List LinkEvent)
    (hapart : Along (observed Link.next noteLink) TellsApart
      (.fresh (.start mem staging flash nextPlcUploadId epoch preferences), .none) events) :
    Agrees (run (observed Link.next noteLink)
      (.fresh (.start mem staging flash nextPlcUploadId epoch preferences), .none) events) := by
  have hinv := run_inv (fun p e => linkInv_next (p := p) (e := e))
    (linkInv_fresh mem staging flash nextPlcUploadId epoch preferences) hapart
  intro uploadId hphase
  have hservice := hinv.service
  rw [hphase] at hservice
  exact hservice

/-- A device that has nothing to say of its auto-loads. -/
def noStatus : StatusResponse := ⟨false, none, none⟩

def volatileOptions : PlcUploadOptions := ⟨0, false, true⟩

/-- An object file of two chunks. -/
def firstFile : ObjectFile :=
  ⟨List.replicate 257 0, by rw [List.length_replicate]; decide⟩

/-- The same file with another first chunk. -/
def editedFile : ObjectFile :=
  ⟨1 :: List.replicate 256 0, by rw [List.length_cons, List.length_replicate]; decide⟩

/-- A call that nothing disturbs. -/
def quietUpload : List LinkEvent :=
  [.service (.call firstFile volatileOptions), .deliver 0 0 noFaults noStatus, .receive 0,
    .deliver 1 0 noFaults noStatus, .receive 1, .deliver 2 0 noFaults noStatus, .receive 2,
    .deliver 3 0 noFaults noStatus, .receive 3, .service .closeWindow]

theorem upload_agrees_quiet :
    Agrees (run (observed Link.next noteLink) (.fresh .blank, .none) quietUpload) ∧
      (run (observed Link.next noteLink) (.fresh .blank, .none) quietUpload).1.service.phase =
        .succeeded 1 :=
  ⟨upload_agrees .boot (fun _ => 0xFF) (fun _ => 0xFF) 1 0 ⟨true, 0⟩ quietUpload
    (by decide +kernel), by decide +kernel⟩

/-- The first call gives up after one chunk; the call for the edited file takes the begin response
and the first acknowledgement that were meant for it. -/
def editedUpload : List LinkEvent :=
  [.service (.call firstFile volatileOptions), .deliver 0 0 noFaults noStatus, .receive 0,
    .deliver 1 0 noFaults noStatus, .service .timeout,
    .service (.call editedFile volatileOptions), .receive 0, .receive 1,
    .deliver 4 0 noFaults noStatus, .receive 2, .deliver 5 0 noFaults noStatus, .receive 3,
    .service .closeWindow]

theorem editedUpload_not_agrees :
    ¬ Agrees (run (observed Link.next noteLink) (.fresh .blank, .none) editedUpload) := by
  intro h
  have hphase : (run (observed Link.next noteLink)
      (.fresh .blank, .none) editedUpload).1.service.phase = .succeeded 1 := by decide +kernel
  have hmissing : ¬ (1, (run (observed Link.next noteLink)
      (.fresh .blank, .none) editedUpload).1.service.file.bytes) ∈ (run
        (observed Link.next noteLink) (.fresh .blank, .none) editedUpload).2.committed := by
    decide +kernel
  exact hmissing (h 1 hphase)

end NodeNet.Upload

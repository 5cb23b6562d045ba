import NodeNet.Core.RecordStep
import NodeNet.PackageImage

/-! A committed upload hands the auto-load the chunks it acknowledged. -/
namespace NodeNet.Core
open NodeNet.Bytes NodeNet.Machine NodeNet.Nor NodeNet.Slot NodeNet.ObjectFile NodeNet.Loader
open NodeNet.Package

/-- What the client was told of the upload it is making. -/
structure UploadNotes where
  begun : UploadBeginRequest
  /-- The payloads of the acknowledged chunks, one after the other. -/
  received : List UInt8

def UploadNotes.none : UploadNotes := ⟨⟨0, 0, 0, false, false, false⟩, []⟩

def noteUpload (s : NodeNetCore) (e : Event) (notes : UploadNotes) : UploadNotes :=
  match s.answer e with
  | some (.uploadBegin r, .ok _) => ⟨r, []⟩
  | some (.uploadData c, .ok _) => { notes with received := notes.received ++ c.payload }
  | _ => notes

/-- The auto-load that a commit leaves pending is for the acknowledged bytes. -/
structure HandsOver (notes : UploadNotes) (s : NodeNetCore) : Prop where
  pending : ∃ p, s.pendingPlcAutoLoad = some p ∧ p.slotId = notes.begun.slotId ∧
    p.objectSize = notes.begun.totalSize ∧
    bytesAt (s.mem.slots p.slotId).snapshotData 0 p.objectSize.toNat = notes.received
  size : notes.received.length = notes.begun.totalSize.toNat
  checksum : Fnv.hash notes.received = notes.begun.payloadCrc32

def CommitsUpload (p : NodeNetCore × UploadNotes) (e : Event) : Prop :=
  ∀ uploadId faults, p.1.answer e = some (.uploadCommit uploadId faults, .ok ()) →
    HandsOver p.2 (p.1.next e)

/-- The staging buffer holds the acknowledged bytes, or a package that a failed save left. -/
structure Staged (session : PlcUploadSession) (staging : Memory) (notes : UploadNotes) : Prop where
  slotId : session.slotId = notes.begun.slotId
  totalSize : session.totalSize = notes.begun.totalSize
  expectedChecksum : session.expectedChecksum = notes.begun.payloadCrc32
  headerFits : headerSize ≤ session.totalSize
  totalFits : session.totalSize ≤ kPlcUploadVolatileStagingSize
  received : session.bytesReceived.toNat = notes.received.length
  expectedOffset : session.expectedOffset = session.bytesReceived
  bounded : session.bytesReceived ≤ session.totalSize
  payloadChecksum : session.payloadChecksum = Fnv.hash notes.received
  staged : bytesAt staging 0 notes.received.length = notes.received ∨
    session.persistToFlash = true ∧ session.bytesReceived = session.totalSize ∧
      word32 staging 0 ≠ kPlcObjectFileMagicV1

def UploadInv (p : NodeNetCore × UploadNotes) : Prop :=
  p.1.session.active = true → Staged p.1.session p.1.staging p.2

structure ChunkFits (session : PlcUploadSession) (c : UploadChunk) : Prop where
  uploadId : c.uploadId = session.uploadId
  offset : c.offset = session.expectedOffset
  nonempty : 0 < c.payload.length
  fits : c.payload.length ≤ 256
  bounded : c.offset + UInt32.ofNat c.payload.length ≤ session.totalSize

variable {session : PlcUploadSession}

theorem chunkFits_of_accepted {c : UploadChunk} (h : chunkError session c = none) :
    ChunkFits session c := by
  rw [chunkError] at h
  split at h
  · cases h
  · rename_i hid
    split at h
    · cases h
    · rename_i hoffset
      split at h
      · cases h
      · rename_i hsize
        split at h
        · cases h
        · rename_i hbound
          have h256 : NodeNet.Flash.kPageSize.toNat = 256 := rfl
          simp only [ne_eq, Decidable.not_not, not_or, UInt32.not_lt] at hid hoffset hsize hbound
          exact ⟨hid, hoffset, Nat.pos_of_ne_zero hsize.1, by omega, hbound.2⟩

variable {staging : Memory}

theorem bytesAt_chunk {received payload : List UInt8} {offset : UInt32}
    (hoffset : offset.toNat = received.length) (hbound : received.length + payload.length < 2 ^ 32)
    (h : bytesAt staging 0 received.length = received) :
    bytesAt (patch staging offset payload) 0 (received ++ payload).length =
      received ++ payload := by
  have hofs : offset = UInt32.ofNat received.length := by rw [← hoffset, UInt32.ofNat_toNat]
  rw [List.length_append, bytesAt_append]
  congr 1
  · rw [← h]
    simp only [bytesAt_length]
    refine bytesAt_congr fun k hk => patch_of_not_covers ?_
    have hk' : (0 + UInt32.ofNat k).toNat = k := by
      rw [UInt32.zero_add, UInt32.toNat_ofNat_of_lt' (by simp [UInt32.size]; omega)]
    rw [covers_iff (by omega), hk']
    omega
  · rw [UInt32.zero_add, ← hofs]
    exact bytesAt_patch staging offset (by omega)

variable {notes : UploadNotes}

/-- An accepted chunk is staged behind the ones before it. -/
theorem Staged.chunk (h : Staged session staging notes) {c : UploadChunk} (hc : ChunkFits session c)
    (nowMs : UInt32) : Staged (session.accept c.payload nowMs) (patch staging c.offset c.payload)
      { notes with received := notes.received ++ c.payload } := by
  have hsize : (UInt32.ofNat c.payload.length).toNat = c.payload.length :=
    UInt32.toNat_ofNat_of_lt' (by have := hc.fits; simp [UInt32.size]; omega)
  have htotal := UInt32.le_iff_toNat_le.mp h.totalFits
  have hstaging : kPlcUploadVolatileStagingSize.toNat = 131072 := by decide
  have hbounded := UInt32.le_iff_toNat_le.mp h.bounded
  have hoffset : c.offset = session.bytesReceived := hc.offset.trans h.expectedOffset
  have hfits := hc.fits
  have hend := UInt32.le_iff_toNat_le.mp hc.bounded
  rw [hoffset, UInt32.toNat_add, hsize] at hend
  have hsum : (session.bytesReceived + UInt32.ofNat c.payload.length).toNat =
      session.bytesReceived.toNat + c.payload.length := by
    rw [UInt32.toNat_add, hsize]
    omega
  constructor
  case slotId => exact h.slotId
  case totalSize => exact h.totalSize
  case expectedChecksum => exact h.expectedChecksum
  case headerFits => exact h.headerFits
  case totalFits => exact h.totalFits
  case received =>
    change (session.bytesReceived + _).toNat = _
    rw [hsum, h.received, List.length_append]
  case expectedOffset =>
    change session.expectedOffset + _ = session.bytesReceived + _
    rw [h.expectedOffset]
  case bounded =>
    change session.bytesReceived + UInt32.ofNat c.payload.length ≤ session.totalSize
    rw [UInt32.le_iff_toNat_le, hsum]
    omega
  case payloadChecksum =>
    change Fnv.hashFrom session.payloadChecksum c.payload = _
    rw [h.payloadChecksum, Fnv.hash_append]
  case staged =>
    left
    have hreceived := h.received
    cases h.staged with
    | inl hstaged => exact bytesAt_chunk (by rw [hoffset, hreceived]) (by omega) hstaged
    | inr hspoiled =>
      -- a full session takes no further chunk
      have hnonempty := hc.nonempty
      have hfull := congrArg UInt32.toNat hspoiled.2.1
      omega

theorem stageUpload_bytes (s : NodeNetCore) :
    bytesAt ((stageUpload s).mem.slots s.session.slotId).snapshotData 0
      s.session.totalSize.toNat = bytesAt s.staging 0 s.session.totalSize.toNat := by
  have hslot : ((stageUpload s).mem.slots s.session.slotId).snapshotData =
      copy (s.mem.slots s.session.slotId).snapshotData 0 s.staging 0
        s.session.totalSize.toNat := by
    rw [stageUpload, updateSlot_self]
  rw [hslot, bytesAt_copy _ _ _ s.session.totalSize.toNat_lt]

theorem stageUpload_magic (s : NodeNetCore) (h : headerSize ≤ s.session.totalSize) :
    (readHeader ((stageUpload s).mem.slots s.session.slotId).snapshotData).magic =
      word32 s.staging 0 := by
  have hle := UInt32.le_iff_toNat_le.mp h
  have h52 : headerSize.toNat = 52 := rfl
  have hb := stageUpload_bytes s
  rw [show s.session.totalSize.toNat = 4 + (s.session.totalSize.toNat - 4) by omega,
    bytesAt_append, bytesAt_append] at hb
  have h4 := (List.append_inj hb (by simp)).1
  simp only [bytesAt, List.cons.injEq, and_true] at h4
  obtain ⟨h0, h1, h2, h3⟩ := h4
  have h2' : ((stageUpload s).mem.slots s.session.slotId).snapshotData (0 + 2) =
      s.staging (0 + 2) := h2
  have h3' : ((stageUpload s).mem.slots s.session.slotId).snapshotData (0 + 3) =
      s.staging (0 + 3) := h3
  change word32 _ 0 = _
  rw [word32, h0, h1, h2', h3', word32]

theorem Staged.refuse (h : Staged session staging notes) : Staged session.refuse staging notes :=
  ⟨h.slotId, h.totalSize, h.expectedChecksum, h.headerFits, h.totalFits, h.received,
    h.expectedOffset, h.bounded, h.payloadChecksum, h.staged⟩

variable {s : NodeNetCore}

theorem staged_begun {r : UploadBeginRequest} (h : beginError s.session r = none) (nowMs : UInt32) :
    Staged (beginUpload s r nowMs).session (beginUpload s r nowMs).staging ⟨r, []⟩ := by
  have hsize := sized_of_begun h
  exact ⟨rfl, rfl, rfl, hsize.1, hsize.2, rfl, rfl, UInt32.zero_le, rfl, .inl rfl⟩

theorem Staged.spoiled (h : Staged session staging notes) (hpersist : session.persistToFlash = true)
    (hfull : session.bytesReceived = session.totalSize) {staging' : Memory}
    (hfront : word32 staging' 0 ≠ kPlcObjectFileMagicV1) : Staged session staging' notes :=
  ⟨h.slotId, h.totalSize, h.expectedChecksum, h.headerFits, h.totalFits, h.received,
    h.expectedOffset, h.bounded, h.payloadChecksum, .inr ⟨hpersist, hfull, hfront⟩⟩

theorem Staged.handsOver (h : Staged s.session s.staging notes) (hfits : CommitFits s.session)
    (hstaged : bytesAt s.staging 0 notes.received.length = notes.received) {t : NodeNetCore}
    {restoreEngine : Bool} (hmem : t.mem = (stageUpload s).mem)
    (hpending : t.pendingPlcAutoLoad = some ⟨s.session.slotId, s.session.totalSize, restoreEngine,
      s.session.restoreSlotRunning⟩) : HandsOver notes t := by
  have hlength : notes.received.length = s.session.totalSize.toNat := by
    rw [← h.received, hfits.complete]
  refine ⟨⟨_, hpending, h.slotId, h.totalSize, ?_⟩, ?_, ?_⟩
  · change bytesAt (t.mem.slots s.session.slotId).snapshotData 0 s.session.totalSize.toNat = _
    rw [hmem, stageUpload_bytes, ← hlength, hstaged]
  · rw [hlength, h.totalSize]
  · rw [← h.payloadChecksum, hfits.checksum, h.expectedChecksum]

/-- A commit keeps the session's invariant, and hands the upload over if it is answered ok. -/
theorem commit_upload (h : UploadInv (s, notes)) (uploadId : UInt32) (faults : Faults) :
    UploadInv ((handlePlcUploadCommitRequest s uploadId faults).1, notes) ∧
      ((handlePlcUploadCommitRequest s uploadId faults).2 = .ok () →
        HandsOver notes (handlePlcUploadCommitRequest s uploadId faults).1) := by
  rw [handlePlcUploadCommitRequest]
  cases hc : commitError s.session uploadId with
  | some e => exact ⟨h, fun hok => (by cases hok)⟩
  | none =>
    have hfits := commitFits_of_accepted hc
    have hst := h hfits.active
    dsimp only
    generalize hsaved : (stageUpload s).savePackage (stageUpload s).session.persistToFlash
      (stageUpload s).uploadOverride faults = saved
    have hkept : saved.ok = true →
        bytesAt s.staging 0 notes.received.length = notes.received := by
      intro hok
      refine hst.staged.resolve_right fun hs => ?_
      -- a saved override is an object file, so the buffer did not hold a package
      rw [stageUpload_session, hs.1] at hsaved
      rw [← hsaved] at hok
      have hmagic := savePackage_override hfits.slot hok
      exact hs.2.2 ((stageUpload_magic s hst.headerFits).symm.trans hmagic)
    cases hok : saved.ok with
    | true =>
      refine ⟨fun hactive => ?_, fun _ => hst.handsOver hfits (hkept hok) rfl rfl⟩
      cases hactive
    | false =>
      refine ⟨fun _ => ?_, fun h => (by cases h)⟩
      have hpersist : s.session.persistToFlash = true := by
        cases hp : s.session.persistToFlash with
        | true => rfl
        | false =>
          rw [stageUpload_session, hp] at hsaved
          rw [← hsaved] at hok
          cases hok
      rw [stageUpload_session, hpersist] at hsaved
      have hfront : word32 saved.staging 0 ≠ kPlcObjectFileMagicV1 := by
        rw [← hsaved]
        exact savePackage_front _ _ _ _ _
      exact hst.spoiled hpersist hfits.complete hfront

theorem erase_upload (h : UploadInv (s, notes)) (r : EraseRequest) (faults : Faults) :
    UploadInv ((handlePlcEraseRequest s r faults).1, notes) := by
  rw [handlePlcEraseRequest]
  cases he : eraseError s r with
  | some e => exact h
  | none =>
    intro hactive
    have hsession : s.session.active = true := by
      dsimp only at hactive
      split at hactive <;> exact hactive
    rw [eraseError] at he
    split at he
    · cases he
    · simp [hsession] at he

theorem slotCommand_upload (s : NodeNetCore) (command : SlotCommand) (slotId : UInt16)
    (requested stored : Bool) :
    (handleSlotCommand s command slotId requested stored).1.session = s.session ∧
      (handleSlotCommand s command slotId requested stored).1.staging = s.staging := by
  rw [handleSlotCommand]
  repeat' split
  all_goals exact ⟨rfl, rfl⟩

theorem UploadInv.of_kept {t : NodeNetCore} (h : UploadInv (s, notes))
    (hstaging : t.staging = s.staging) (hsession : t.session = s.session ∨ t.session = .reset) :
    UploadInv (t, notes) := by
  intro hactive
  change t.session.active = true at hactive
  change Staged t.session t.staging notes
  cases hsession with
  | inl hs =>
    rw [hs] at hactive ⊢
    rw [hstaging]
    exact h hactive
  | inr hs =>
    rw [hs] at hactive
    cases hactive

theorem handle_upload (h : UploadInv (s, notes)) (r : Request) (nowMs : UInt32)
    (hphase : s.phase = .service ∨ s.phase = .input) :
    UploadInv ((s.handle nowMs r).1, noteUpload s (.request r nowMs) notes) := by
  rw [noteUpload, NodeNetCore.answer, if_pos hphase]
  cases r with
  | upsert definition => exact h.of_kept rfl (.inl rfl)
  | remove id => exact h.of_kept rfl (.inl rfl)
  | engineEnabled requested stored => exact h.of_kept rfl (.inl rfl)
  | slotCommand command slotId requested stored =>
    have hkept := slotCommand_upload s command slotId requested stored
    exact h.of_kept hkept.2 (.inl hkept.1)
  | property stored => exact h.of_kept rfl (.inl rfl)
  | erase r faults => exact erase_upload h r faults
  | uploadBegin r =>
    change UploadInv ((handlePlcUploadBeginRequest s r nowMs).1, _)
    simp only [NodeNetCore.handle, handlePlcUploadBeginRequest]
    cases hb : beginError s.session r with
    | some e => exact h
    | none => exact fun _ => staged_begun hb nowMs
  | uploadData c =>
    change UploadInv ((handlePlcUploadDataChunk s c nowMs).1, _)
    simp only [NodeNetCore.handle, handlePlcUploadDataChunk]
    cases hactive : s.session.active with
    | false => exact h
    | true =>
      cases hc : chunkError s.session c with
      | some e => exact fun _ => (h hactive).refuse
      | none => exact fun _ => (h hactive).chunk (chunkFits_of_accepted hc) nowMs
  | uploadDataInvalid => exact fun hactive => (h hactive).refuse
  | uploadCommit uploadId faults => exact (commit_upload h uploadId faults).1
  | uploadAbort uploadId =>
    change UploadInv ((handlePlcUploadAbortRequest s uploadId).1, notes)
    rw [handlePlcUploadAbortRequest]
    split
    · exact h
    · split
      · exact h
      · exact h.of_kept rfl (.inr rfl)
  | uploadStatus => exact h

theorem uploadInv_next {p : NodeNetCore × UploadNotes} (h : UploadInv p) (e : Event) :
    UploadInv (observed NodeNetCore.next noteUpload p e) := by
  obtain ⟨s, notes⟩ := p
  rw [observed]
  cases e with
  | request r nowMs =>
    by_cases hphase : s.phase = .service ∨ s.phase = .input
    · simp only [NodeNetCore.next, if_pos hphase]
      exact handle_upload h r nowMs hphase
    · simp only [NodeNetCore.next, noteUpload, NodeNetCore.answer, if_neg hphase]
      exact h
  | advance nowMs =>
    have hkept := advance_upload s nowMs
    exact h.of_kept hkept.1 hkept.2
  | vmStart =>
    simp only [NodeNetCore.next]
    split
    · exact h.of_kept rfl (.inl rfl)
    · exact h
  | vmReport slotId report =>
    simp only [NodeNetCore.next]
    split
    · exact h.of_kept rfl (.inl rfl)
    · exact h
  | vmFinish => exact h.of_kept rfl (.inl rfl)

theorem commitsUpload_of_inv {p : NodeNetCore × UploadNotes} (h : UploadInv p) (e : Event) :
    CommitsUpload p e := by
  intro uploadId faults hanswer
  obtain ⟨s, notes⟩ := p
  cases e with
  | request r nowMs =>
    by_cases hphase : s.phase = .service ∨ s.phase = .input
    · simp only [NodeNetCore.answer, if_pos hphase, Option.some.injEq, Prod.mk.injEq] at hanswer
      obtain ⟨rfl, hreply⟩ := hanswer
      simp only [NodeNetCore.next, if_pos hphase]
      exact (commit_upload h uploadId faults).2 hreply
    · simp [NodeNetCore.answer, hphase] at hanswer
  | advance _ => cases hanswer
  | vmStart => cases hanswer
  | vmReport _ _ => cases hanswer
  | vmFinish => cases hanswer

/-- In every run, a commit answered ok hands the auto-load exactly the acknowledged chunks. -/
theorem commits_upload (mem : LoaderState) (staging flash : Memory)
    (nextPlcUploadId epoch : UInt32) (preferences : Preferences) (events : List Event) :
    Along (observed NodeNetCore.next noteUpload) CommitsUpload
      (.start mem staging flash nextPlcUploadId epoch preferences, .none) events :=
  along_of_inv UploadInv (fun _ e h _ => uploadInv_next h e)
    (fun _ e h _ => commitsUpload_of_inv h e) (fun hactive => by cases hactive)
    (along_true _ events)

end NodeNet.Core

import NodeNet.Core.RecordStep
import NodeNet.Core.RestoreExact
import NodeNet.LoadAgreement

/-! A persistent erase holds through reboots, unless a save packs the erased slot again. -/
namespace NodeNet.Core
open NodeNet.Bytes NodeNet.Machine NodeNet.Nor NodeNet.Flash NodeNet.Slot NodeNet.ObjectFile
open NodeNet.Loader NodeNet.Package

/-- The slots whose persistent erase was acknowledged and that took no upload since then. -/
def noteErased (s : NodeNetCore) (e : BoardEvent) (erased : List UInt16) : List UInt16 :=
  match e with
  | .reboot _ _ _ => erased
  | .core e =>
    match s.answer e with
    | some (.erase r _, .ok _) => if r.persistToFlash then r.slotId :: erased else erased
    | some (.uploadCommit uploadId _, _) =>
      if commitError s.session uploadId = none then erased.filter (· ≠ s.session.slotId) else erased
    | _ => erased

/-- The restore neither stages nor loads the slot. -/
structure NotRestored (slotId : UInt16) (mem : LoaderState) (r : Restore) : Prop where
  present : slotId ∉ r.present
  loads : ∀ bytes, (slotId, bytes) ∉ r.loads
  slot : r.state.mem.slots slotId = (clearVolatileState mem).slots slotId

/-- No reboot restores an erased slot. -/
def StaysErased (p : NodeNetCore × List UInt16) (e : BoardEvent) : Prop :=
  ∀ mem staging unreadable, e = .reboot mem staging unreadable →
    ∀ slotId ∈ p.2, NotRestored slotId mem (p.1.reboot mem staging unreadable)

/-- A save finds no snapshot in RAM of an erased slot that it is not for. -/
def ClearedInRam (s : NodeNetCore) (erased : List UInt16) (slotId : UInt16) : Prop :=
  ∀ k ∈ erased, k ≠ slotId → objectSnapshotHeaderValid (s.mem.slots k).snapshotHeader k = false

/-- Every request that saves the package comes after the erased slots were cleared in RAM. -/
structure SavesCleared (p : NodeNetCore × List UInt16) (e : BoardEvent) : Prop where
  erase : ∀ e' r faults reply, e = .core e' → p.1.answer e' = some (.erase r faults, reply) →
    r.persistToFlash = true → eraseError p.1 r = none → ClearedInRam p.1 p.2 r.slotId
  commit : ∀ e' uploadId faults reply, e = .core e' →
    p.1.answer e' = some (.uploadCommit uploadId faults, reply) →
    p.1.session.persistToFlash = true → commitError p.1.session uploadId = none →
    ClearedInRam p.1 p.2 p.1.session.slotId

/-- The size field of the slot's entry in the flash is erased. -/
def EntryErased (flash : Memory) (slotId : UInt16) : Prop :=
  slotId < kPlcSlotCountV1 ∧ ∀ j < 4,
    flash (kPlcFlashPackageBase + (entryAddr slotId + 12 + UInt32.ofNat j)) = 0xFF

variable {slotId : UInt16}

theorem entrySize_addr (h : slotId < kPlcSlotCountV1) {j : Nat} (hj : j < 4) :
    (entryAddr slotId + 12 + UInt32.ofNat j).toNat = 28 + 20 * slotId.toNat + 12 + j := by
  have hi : slotId.toNat < 16 := UInt16.lt_iff_toNat_lt.mp h
  have haddr := entryAddr_toNat hi
  rw [UInt16.ofNat_toNat] at haddr
  have hj' : (UInt32.ofNat j).toNat = j :=
    UInt32.toNat_ofNat_of_lt' (by simp [UInt32.size]; omega)
  rw [UInt32.toNat_add, UInt32.toNat_add, haddr, hj', show (12 : UInt32).toNat = 12 from rfl]
  omega

variable {s : LoaderState} {override : PackageOverride}

theorem buildPackage_sizeErased {staging : Memory} {p : PackageImage}
    (hp : buildPackage s override staging = .ok p) (hslot : slotId < kPlcSlotCountV1)
    (habsent : packedObject s override slotId = .ok none) {j : Nat} (hj : j < 4) :
    p.bytes (entryAddr slotId + 12 + UInt32.ofNat j) = 0xFF := by
  obtain ⟨q, hq, rfl⟩ := buildPackage_ok hp
  have hi : slotId.toNat < 16 := UInt16.lt_iff_toNat_lt.mp hslot
  have hentry := hq.absent slotId.toNat hi (by rw [UInt16.ofNat_toNat]; exact habsent)
  rw [UInt16.ofNat_toNat] at hentry
  have hsize : word32 q.bytes (entryAddr slotId + 12) = 0xFFFFFFFF :=
    congrArg PlcFlashPackageEntry.objectSize hentry
  have haddr := entrySize_addr hslot hj
  have hlength : (packageHeader s q).bytes.length = 28 := by
    simp [PlcFlashPackageHeader.bytes, le32, le16]
  change patch q.bytes 0 (packageHeader s q).bytes _ = 0xFF
  rw [patch_of_not_covers (by rw [covers_zero_iff]; omega)]
  have hbytes := bytesAt_word32 q.bytes (entryAddr slotId + 12)
  rw [hsize] at hbytes
  have hget := congrArg (fun bs => bs[j]?) hbytes
  rw [bytesAt_getElem? _ _ _ _ hj] at hget
  have hones : ∀ n < 4, (le32 0xFFFFFFFF)[n]? = some 0xFF := by decide
  rw [hones j hj] at hget
  exact Option.some.inj hget

theorem save_keepsErased {staging flash : Memory} {faults : Faults}
    (habsent : packedObject s override slotId = .ok none) (h : EntryErased flash slotId) :
    EntryErased (savePersistedPlcSlotsPackage s override staging flash faults).flash slotId :=
  ⟨h.1, fun j hj => savePackage_spares (fun _ hp => buildPackage_sizeErased hp h.1 habsent hj)
    (h.2 j hj)⟩

theorem save_erases {staging flash : Memory} {faults : Faults} (hslot : slotId < kPlcSlotCountV1)
    (habsent : packedObject s override slotId = .ok none)
    (hok : (savePersistedPlcSlotsPackage s override staging flash faults).ok = true) :
    EntryErased (savePersistedPlcSlotsPackage s override staging flash faults).flash slotId := by
  refine ⟨hslot, fun j hj => ?_⟩
  have hi : slotId.toNat < 16 := UInt16.lt_iff_toNat_lt.mp hslot
  have haddr := entrySize_addr hslot hj
  obtain ⟨p, hbuilt, hflash⟩ := savePackage_flash hok
  have hlow : 348 ≤ p.writeOffset.toNat := by
    obtain ⟨q, hq, rfl⟩ := buildPackage_ok hbuilt
    have hoffset := hq.offset
    have hbase := objectsBase_le s override 16
    exact hoffset ▸ hbase
  rw [hflash _ (UInt32.lt_iff_toNat_lt.mpr (by omega))]
  exact buildPackage_sizeErased hbuilt hslot habsent hj

theorem stagePayload_erased (payload : PackagePayload)
    (haccepted : packageHeaderAccepted payload.header = true)
    (hsize : (payloadEntry payload slotId).objectSize = 0xFFFFFFFF) (m : SlotMemory) :
    stagePayload payload m slotId = (m, false) := by
  simp only [packageHeaderAccepted, Bool.and_eq_true, decide_eq_true_eq] at haccepted
  have hpayload := UInt32.le_iff_toNat_le.mp haccepted.2
  rw [show (kPlcFlashPackageSize - packageHeaderSize).toNat = 131044 by decide] at hpayload
  have hend : (packageHeaderSize + payload.header.payloadSize).toNat ≤ 131072 := by
    rw [UInt32.toNat_add, packageHeaderSize_toNat]
    omega
  have hrefused : entryAccepted payload.header (payloadEntry payload slotId) slotId = false := by
    rw [entryAccepted, hsize]
    by_cases hle : (payloadEntry payload slotId).objectOffset ≤
        packageHeaderSize + payload.header.payloadSize
    · have hnot : ¬ (0xFFFFFFFF : UInt32) ≤ packageHeaderSize + payload.header.payloadSize -
          (payloadEntry payload slotId).objectOffset := by
        rw [UInt32.le_iff_toNat_le, UInt32.toNat_sub_of_le _ _ hle,
          show (0xFFFFFFFF : UInt32).toNat = 4294967295 from rfl]
        omega
      simp [hnot]
    · simp [hle]
  rw [stagePayload, hrefused]
  rfl

theorem payloadSize_addr (h : slotId < kPlcSlotCountV1) {j : Nat} (hj : j < 4) :
    (slotId.toUInt32 * packageEntrySize + 12 + UInt32.ofNat j).toNat =
        20 * slotId.toNat + 12 + j ∧
      packageHeaderSize + (slotId.toUInt32 * packageEntrySize + 12 + UInt32.ofNat j) =
        entryAddr slotId + 12 + UInt32.ofNat j := by
  have hi : slotId.toNat < 16 := UInt16.lt_iff_toNat_lt.mp h
  obtain ⟨haddr, hentry⟩ := payloadEntry_addr hi
  rw [UInt16.ofNat_toNat] at haddr hentry
  have hj' : (UInt32.ofNat j).toNat = j :=
    UInt32.toNat_ofNat_of_lt' (by simp [UInt32.size]; omega)
  constructor
  · rw [UInt32.toNat_add, UInt32.toNat_add, haddr, hj', show (12 : UInt32).toNat = 12 from rfl]
    omega
  · rw [← UInt32.add_assoc, ← UInt32.add_assoc, hentry]

theorem readPackage_sizeErased {flash : FlashDriver} {content : Memory}
    (hread : ReadsFrom flash content)
    (h : EntryErased content slotId) {staging payload : Memory} {header : PlcFlashPackageHeader}
    (hok : readPackage flash staging = (payload, some header)) :
    packageHeaderAccepted header = true ∧
      (payloadEntry ⟨header, payload⟩ slotId).objectSize = 0xFFFFFFFF := by
  have hi : slotId.toNat < 16 := UInt16.lt_iff_toNat_lt.mp h.1
  rw [readPackage] at hok
  split at hok
  · cases hok
  · rename_i headerBytes _
    by_cases haccepted : packageHeaderAccepted (readPackageHeader headerBytes) = true
    · simp only [haccepted, Bool.not_true, Bool.false_eq_true, if_false] at hok
      split at hok
      · cases hok
      · rename_i bytes hbytes
        simp only [Prod.mk.injEq] at hok
        obtain ⟨rfl, hheader⟩ := hok
        split at hheader
        · cases hheader
          refine ⟨haccepted, word32_of_le32 ?_⟩
          have hcopy := flashReadBytes_ok hread (congrArg Prod.snd hbytes)
          rw [hbytes] at hcopy
          simp only [packageHeaderAccepted, Bool.and_eq_true, decide_eq_true_eq] at haccepted
          have hlow := UInt32.le_iff_toNat_le.mp haccepted.1.2
          rw [show (packageEntrySize * kPlcSlotCountV1.toUInt32).toNat = 320 by decide] at hlow
          have hones : le32 0xFFFFFFFF = bytesAt (fun _ => 0xFF) 0 4 := by decide
          rw [hones]
          refine bytesAt_congr fun j hj => ?_
          obtain ⟨haddr, hentry⟩ := payloadSize_addr h.1 hj
          simp only at hcopy ⊢
          rw [hcopy, copy_of_covers (covers_zero_iff.mpr (by omega)), UInt32.sub_zero,
            UInt32.add_assoc, hentry]
          exact h.2 j hj
        · cases hheader
    · simp [haccepted] at hok

theorem reboot_notRestored {s : NodeNetCore} (h : EntryErased s.flash slotId) (mem : LoaderState)
    (staging : Memory) (unreadable : UInt32 → Bool) :
    NotRestored slotId mem (s.reboot mem staging unreadable) := by
  obtain ⟨boot, hfresh, hreboot⟩ := reboot_cases s mem staging unreadable
  cases hreboot with
  | inl hnone =>
    obtain ⟨bytes, _, hnone⟩ := hnone
    rw [hnone]
    refine ⟨List.not_mem_nil, fun _ => List.not_mem_nil, ?_⟩
    change boot.mem.slots slotId = _
    rw [hfresh.mem]
  | inr hsome =>
    obtain ⟨payload, hread, hsome⟩ := hsome
    obtain ⟨haccepted, hsize⟩ :=
      readPackage_sizeErased (driver_readsFrom s.flash unreadable) h hread
    obtain ⟨hpresent, hloads, hslot⟩ := restoreSlots_passedOver
      (stagePayload_erased payload haccepted hsize) boot.mem
    have hzero : plcControlBlockLoaded (boot.mem.slots slotId).control slotId = false := by
      rw [hfresh.mem]
      rfl
    rw [hsome]
    refine ⟨hpresent, hloads, ?_⟩
    rw [← hslot] at hzero
    rw [restored_unloaded boot payload h.1 hzero, hslot, hfresh.mem]

/-- The ways in which an event leaves the flash. -/
inductive FlashStep (s : NodeNetCore) (e : Event) : Memory → Prop where
  | kept : FlashStep s e s.flash
  | erase {r : EraseRequest} {faults : Faults} {reply : Reply}
    (hanswer : s.answer e = some (.erase r faults, reply)) (hchecked : eraseError s r = none)
    (hpersist : r.persistToFlash = true) : FlashStep s e
      (savePersistedPlcSlotsPackage s.mem ⟨r.slotId, none, 0⟩ s.staging s.flash faults).flash
  | commit {uploadId : UInt32} {faults : Faults} {reply : Reply}
    (hanswer : s.answer e = some (.uploadCommit uploadId faults, reply))
    (hchecked : commitError s.session uploadId = none) (hpersist : s.session.persistToFlash = true) :
    FlashStep s e (savePersistedPlcSlotsPackage (stageUpload s).mem (stageUpload s).uploadOverride
      s.staging s.flash faults).flash

theorem advance_flash (s : NodeNetCore) (nowMs : UInt32) : (s.advance nowMs).flash = s.flash := by
  have h := advance_cases s nowMs
  generalize s.advance nowMs = t at h ⊢
  cases h with
  | waits phase => rfl
  | entersRefresh _ => exact (defers_enterRefresh s).flash
  | refreshes _ _ _ => rfl
  | timesOut _ _ => rfl
  | disablesForErase _ => rfl
  | erases _ _ p _ => rfl
  | disablesForAutoLoad _ => rfl
  | autoLoads _ _ p _ => rfl

theorem handle_flashStep {s : NodeNetCore} (hphase : s.phase = .service ∨ s.phase = .input)
    (r : Request) (nowMs : UInt32) :
    FlashStep s (.request r nowMs) (s.handle nowMs r).1.flash := by
  have hanswer : s.answer (.request r nowMs) = some (r, (s.handle nowMs r).2) :=
    answer_request hphase
  cases r with
  | upsert definition => exact .kept
  | remove id => exact .kept
  | engineEnabled requested stored => exact .kept
  | slotCommand command slotId requested stored =>
    change FlashStep _ _ (handleSlotCommand s command slotId requested stored).1.flash
    cases handleSlotCommand_cases s command slotId requested stored with
    | inl h =>
      rw [h]
      exact .kept
    | inr h =>
      rw [h.2.2]
      exact .kept
  | property stored => exact .kept
  | erase r faults =>
    change FlashStep _ _ (handlePlcEraseRequest s r faults).1.flash
    rw [handlePlcEraseRequest]
    cases he : eraseError s r with
    | some error => exact .kept
    | none =>
      have hsaved : FlashStep s (.request (.erase r faults) nowMs)
          (s.savePackage r.persistToFlash ⟨r.slotId, none, 0⟩ faults).flash := by
        rw [NodeNetCore.savePackage]
        split
        · rename_i hpersist
          exact .erase hanswer he hpersist
        · exact .kept
      dsimp only
      split <;> exact hsaved
  | uploadBegin r =>
    change FlashStep _ _ (handlePlcUploadBeginRequest s r nowMs).1.flash
    rw [handlePlcUploadBeginRequest]
    split <;> exact .kept
  | uploadData c =>
    change FlashStep _ _ (handlePlcUploadDataChunk s c nowMs).1.flash
    rw [handlePlcUploadDataChunk]
    repeat' split
    all_goals exact .kept
  | uploadDataInvalid => exact .kept
  | uploadCommit uploadId faults =>
    change FlashStep _ _ (handlePlcUploadCommitRequest s uploadId faults).1.flash
    rw [handlePlcUploadCommitRequest]
    cases hc : commitError s.session uploadId with
    | some error => exact .kept
    | none =>
      have hsaved : FlashStep s (.request (.uploadCommit uploadId faults) nowMs)
          ((stageUpload s).savePackage s.session.persistToFlash (stageUpload s).uploadOverride
            faults).flash := by
        rw [NodeNetCore.savePackage]
        split
        · rename_i hpersist
          exact .commit hanswer hc hpersist
        · exact .kept
      dsimp only
      split <;> exact hsaved
  | uploadAbort uploadId =>
    change FlashStep _ _ (handlePlcUploadAbortRequest s uploadId).1.flash
    rw [handlePlcUploadAbortRequest]
    repeat' split
    all_goals exact .kept
  | uploadStatus => exact .kept

theorem flashStep (s : NodeNetCore) (e : Event) : FlashStep s e (s.next e).flash := by
  cases e with
  | request r nowMs =>
    by_cases hphase : s.phase = .service ∨ s.phase = .input
    · simp only [NodeNetCore.next, if_pos hphase]
      exact handle_flashStep hphase r nowMs
    · simp only [NodeNetCore.next, if_neg hphase]
      exact .kept
  | advance nowMs =>
    change FlashStep _ _ (s.advance nowMs).flash
    rw [advance_flash]
    exact .kept
  | vmStart =>
    simp only [NodeNetCore.next]
    split <;> exact .kept
  | vmReport slotId report =>
    simp only [NodeNetCore.next]
    split <;> exact .kept
  | vmFinish => exact .kept

theorem packedObject_cleared {k : UInt16} (hne : k ≠ override.slotId)
    (h : objectSnapshotHeaderValid (s.slots k).snapshotHeader k = false) :
    packedObject s override k = .ok none := by
  rw [packedObject, if_neg hne]
  simp only [h]
  rfl

theorem packedObject_omitted (s : LoaderState) (slotId : UInt16) (size : UInt32) :
    packedObject s ⟨slotId, none, size⟩ slotId = .ok none := by
  rw [packedObject, if_pos rfl]

/-- Every entry that an acknowledged erase left empty is still empty. -/
def EntriesErased (p : NodeNetCore × List UInt16) : Prop := ∀ k ∈ p.2, EntryErased p.1.flash k

theorem mem_noteErased {s : NodeNetCore} {e : Event} {erased : List UInt16} {k : UInt16}
    (h : k ∈ noteErased s (.core e) erased) :
    (k ∈ erased ∧ ∀ uploadId faults reply, s.answer e = some (.uploadCommit uploadId faults, reply) →
        commitError s.session uploadId = none → k ≠ s.session.slotId) ∨
      ∃ r faults, s.answer e = some (.erase r faults, .ok ()) ∧ r.persistToFlash = true ∧
        k = r.slotId := by
  rw [noteErased] at h
  split at h
  · rename_i r faults _ hanswer
    have hkept : ∀ uploadId faults' reply, s.answer e =
        some (.uploadCommit uploadId faults', reply) →
        commitError s.session uploadId = none → k ≠ s.session.slotId := by
      intro uploadId faults' reply hcommit
      rw [hanswer] at hcommit
      cases hcommit
    split at h
    · rename_i hpersist
      cases List.mem_cons.mp h with
      | inl hk => exact .inr ⟨r, faults, hanswer, hpersist, hk⟩
      | inr hk => exact .inl ⟨hk, hkept⟩
    · exact .inl ⟨h, hkept⟩
  · rename_i uploadId faults reply hanswer
    split at h
    · rw [List.mem_filter] at h
      exact .inl ⟨h.1, fun _ _ _ _ _ => by simpa using h.2⟩
    · rename_i hrefused
      refine .inl ⟨h, fun uploadId' faults' reply' hcommit hchecked => ?_⟩
      rw [hanswer] at hcommit
      cases hcommit
      exact absurd hchecked hrefused
  · rename_i hother
    refine .inl ⟨h, fun uploadId faults reply hcommit => ?_⟩
    exact absurd hcommit (hother uploadId faults reply)

theorem slotId_of_erase {s : NodeNetCore} {r : EraseRequest} (h : eraseError s r = none) :
    r.slotId < kPlcSlotCountV1 := by
  rw [eraseError] at h
  split at h
  · cases h
  · rename_i hslot
    exact UInt16.not_le.mp hslot

theorem refreshIfNeeded_flash (s : NodeNetCore) : s.refreshIfNeeded.flash = s.flash := by
  rw [NodeNetCore.refreshIfNeeded]
  split
  · rw [(defers_runRefresh _).flash, (defers_enterRefresh s).flash]
  · exact (defers_enterRefresh s).flash

theorem reboot_flash (s : NodeNetCore) (mem : LoaderState) (staging : Memory)
    (unreadable : UInt32 → Bool) : (s.reboot mem staging unreadable).state.flash = s.flash := by
  obtain ⟨boot, hfresh, hreboot⟩ := reboot_cases s mem staging unreadable
  rw [← hfresh.flash]
  cases hreboot with
  | inl hnone =>
    obtain ⟨bytes, _, hnone⟩ := hnone
    rw [hnone]
  | inr hsome =>
    obtain ⟨payload, _, hsome⟩ := hsome
    rw [hsome]
    exact refreshIfNeeded_flash _

theorem EntriesErased.step {p : NodeNetCore × List UInt16} {e : BoardEvent}
    (h : EntriesErased p) (hsaves : SavesCleared p e) :
    EntriesErased (boardNext p.1 e, noteErased p.1 e p.2) := by
  obtain ⟨s, erased⟩ := p
  intro k hk
  cases e with
  | reboot mem staging unreadable =>
    change EntryErased (s.reboot mem staging unreadable).state.flash k
    rw [reboot_flash]
    exact h k hk
  | core e =>
    change EntryErased (s.next e).flash k
    have hstep := flashStep s e
    generalize hflash : (s.next e).flash = flash at hstep
    cases mem_noteErased hk with
    | inr hnew =>
      obtain ⟨r, faults, hanswer, hpersist, rfl⟩ := hnew
      have hqueued := erase_of_answer hanswer
      have hslot := slotId_of_erase hqueued.checked
      have hsaved := hqueued.saved
      rw [NodeNetCore.savePackage, if_pos hpersist] at hsaved
      rw [← hflash, hqueued.next, NodeNetCore.savePackage, if_pos hpersist]
      exact save_erases hslot (packedObject_omitted s.mem r.slotId 0) hsaved
    | inl hold =>
      obtain ⟨hold, hnotUploaded⟩ := hold
      have herased := h k hold
      cases hstep with
      | kept => exact herased
      | erase hanswer hchecked hpersist =>
        rename_i r faults reply
        refine save_keepsErased ?_ herased
        by_cases hk : k = r.slotId
        · rw [hk]
          exact packedObject_omitted s.mem r.slotId 0
        · exact packedObject_cleared hk
            (hsaves.erase e r faults reply rfl hanswer hpersist hchecked k hold hk)
      | commit hanswer hchecked hpersist =>
        rename_i uploadId faults reply
        have hk := hnotUploaded uploadId faults reply hanswer hchecked
        refine save_keepsErased (packedObject_cleared hk ?_) herased
        rw [stageUpload, updateSlot_of_ne _ hk]
        exact hsaves.commit e uploadId faults reply rfl hanswer hpersist hchecked k hold hk

/-- An acknowledged persistent erase is not undone by a reboot, in every run whose saves come after
the erased slots were cleared in RAM. -/
theorem erased_stays (s : NodeNetCore) (es : List BoardEvent)
    (h : Along (observed boardNext noteErased) SavesCleared (s, []) es) :
    Along (observed boardNext noteErased) StaysErased (s, []) es := by
  refine along_of_inv EntriesErased (fun _ _ => EntriesErased.step) ?_ ?_ h
  · intro p e herased _ mem staging unreadable _ k hk
    exact reboot_notRestored (herased k hk) mem staging unreadable
  · intro k hk
    cases hk

theorem erased_stays_eraseThenReboot :
    Along (observed boardNext noteErased) StaysErased (.blank, [])
      [.core (.request (.erase ⟨0, true⟩ noFaults) 0), .reboot .boot (fun _ => 0) fun _ => false] :=
  erased_stays _ _
    ⟨⟨fun _ _ _ _ _ _ _ _ k hk => (by cases hk), fun _ _ _ _ _ _ _ _ k hk => (by cases hk)⟩,
      ⟨fun _ _ _ _ he => (by cases he), fun _ _ _ _ he => (by cases he)⟩, trivial⟩

/-- A persistent erase of slot 0 is answered while the VM scans. -/
def eraseDuringScan : List Event :=
  volatileUpload 0 1 emptyFile ++ [.vmStart, .request (.erase ⟨0, true⟩ noFaults) 1] ++ iteration 1

/-- A persistent erase of another slot, before the first is executed. -/
def eraseOther : Event := .request (.erase ⟨1, true⟩ noFaults) 2

theorem eraseOther_saved :
    (savePersistedPlcSlotsPackage (run NodeNetCore.next .blank eraseDuringScan).mem ⟨1, none, 0⟩
      (run NodeNetCore.next .blank eraseDuringScan).staging
      (run NodeNetCore.next .blank eraseDuringScan).flash noFaults).ok = true := by
  refine savePackage_noFaults ?_ _
  have hok : (match buildPackage (run NodeNetCore.next .blank eraseDuringScan).mem ⟨1, none, 0⟩
      (run NodeNetCore.next .blank eraseDuringScan).staging with
    | .ok _ => true
    | .error _ => false) = true := by decide +kernel
  split at hok
  · rename_i p hp
    exact ⟨p, hp⟩
  · cases hok

theorem eraseOther_next :
    (run NodeNetCore.next .blank eraseDuringScan).next eraseOther =
      ((run NodeNetCore.next .blank eraseDuringScan).withPackage
        (savePersistedPlcSlotsPackage (run NodeNetCore.next .blank eraseDuringScan).mem ⟨1, none, 0⟩
          (run NodeNetCore.next .blank eraseDuringScan).staging
          (run NodeNetCore.next .blank eraseDuringScan).flash noFaults)).queueErase ⟨1, true⟩ := by
  have hsaved := eraseOther_saved
  have hphase : (run NodeNetCore.next .blank eraseDuringScan).phase = .service := by
    decide +kernel
  have hchecked : eraseError (run NodeNetCore.next .blank eraseDuringScan) ⟨1, true⟩ = none := by
    decide +kernel
  generalize run NodeNetCore.next .blank eraseDuringScan = s at hsaved hphase hchecked ⊢
  have hnext : s.next eraseOther = (handlePlcEraseRequest s ⟨1, true⟩ noFaults).1 :=
    if_pos (.inl hphase)
  rw [hnext, handlePlcEraseRequest, hchecked]
  simp only [NodeNetCore.savePackage, if_true, hsaved]

theorem queueErase_reboot (s : NodeNetCore) (r : EraseRequest) (mem : LoaderState)
    (staging : Memory) (unreadable : UInt32 → Bool) :
    (s.queueErase r).reboot mem staging unreadable = s.reboot mem staging unreadable := rfl

/-- The second save packs slot 0 again, and the reboot brings it back. -/
theorem eraseOther_not_staysErased :
    ¬ Along (observed boardNext noteErased) StaysErased (.blank, [])
      ((eraseDuringScan ++ [eraseOther]).map .core ++
        [.reboot .boot (fun _ => 0) fun _ => false]) := by
  intro h
  have hpresent := (h.at_run .boot (fun _ => 0) (fun _ => false) rfl 0 (by decide +kernel)).present
  rw [run_observed, run_core, run_concat, eraseOther_next] at hpresent
  refine hpresent ?_
  rw [queueErase_reboot, reboot_present eraseOther_saved, List.mem_filter]
  exact ⟨mem_slotIds.mpr (by decide), by decide +kernel⟩

end NodeNet.Core

import NodeNet.Core.RestoreExact
import NodeNet.Core.RecordStep
import NodeNet.LoadAgreement

/-! A valid snapshot header describes the slot's snapshot, and the snapshot is the object that the
slot's code was linked from. -/
namespace NodeNet.Core
open NodeNet.Bytes NodeNet.Machine NodeNet.Nor NodeNet.Flash NodeNet.Slot NodeNet.ObjectFile
open NodeNet.Loader NodeNet.Package

def snapshotBytes (m : SlotMemory) : List UInt8 :=
  bytesAt m.snapshotData 0 m.snapshotHeader.objectSize.toNat

/-- A valid header has the checksum of the bytes, and a loaded slot's code comes from them. -/
structure SnapshotSound (slotId : UInt16) (m : SlotMemory) : Prop where
  checksum : objectSnapshotHeaderValid m.snapshotHeader slotId = true →
    Fnv.hash (snapshotBytes m) = m.snapshotHeader.objectChecksum
  linked : objectSnapshotHeaderValid m.snapshotHeader slotId = true →
    plcControlBlockLoaded m.control slotId = true →
    ∃ file size, bytesAt file 0 size.toNat = snapshotBytes m ∧
      LinkedFrom slotId file size m.linkedCode

/-- A commit leaves the bytes of a valid snapshot as they are. -/
def CommitSpares (s : NodeNetCore) (e : Event) : Prop :=
  ∀ uploadId faults reply, s.answer e = some (.uploadCommit uploadId faults, reply) →
    commitError s.session uploadId = none →
    objectSnapshotHeaderValid (s.mem.slots s.session.slotId).snapshotHeader s.session.slotId = true →
    ∀ d, d < (s.mem.slots s.session.slotId).snapshotHeader.objectSize → d < s.session.totalSize →
      s.staging d = (s.mem.slots s.session.slotId).snapshotData d

variable {slotId : UInt16} {m : SlotMemory}

theorem sound_of_invalid (h : objectSnapshotHeaderValid m.snapshotHeader slotId = false) :
    SnapshotSound slotId m where
  checksum hvalid := by
    rw [h] at hvalid
    cases hvalid
  linked hvalid := by
    rw [h] at hvalid
    cases hvalid

theorem SnapshotSound.congr {m' : SlotMemory} (h : SnapshotSound slotId m)
    (hheader : m'.snapshotHeader = m.snapshotHeader)
    (hbytes : objectSnapshotHeaderValid m.snapshotHeader slotId = true →
      snapshotBytes m' = snapshotBytes m) (hcode : m'.linkedCode = m.linkedCode)
    (hloaded : plcControlBlockLoaded m'.control slotId = plcControlBlockLoaded m.control slotId) :
    SnapshotSound slotId m' where
  checksum hvalid := by
    rw [hheader] at hvalid ⊢
    rw [hbytes hvalid]
    exact h.checksum hvalid
  linked hvalid hl := by
    rw [hheader] at hvalid
    rw [hloaded] at hl
    rw [hbytes hvalid, hcode]
    exact h.linked hvalid hl

theorem sound_withSnapshot {file : Memory} {size : UInt32} {m' : SlotMemory}
    (hheader : m'.snapshotHeader = loadedSnapshotHeader slotId size (checksum32 file 0 size))
    (hdata : m'.snapshotData = copy m.snapshotData 0 file 0 size.toNat)
    (hlinked : plcControlBlockLoaded m'.control slotId = true →
      LinkedFrom slotId file size m'.linkedCode) : SnapshotSound slotId m' := by
  have hbytes : snapshotBytes m' = bytesAt file 0 size.toNat := by
    rw [snapshotBytes, hheader, hdata]
    exact bytesAt_copy _ _ _ size.toNat_lt
  refine ⟨fun _ => ?_, fun _ hloaded => ⟨file, size, hbytes.symm, hlinked hloaded⟩⟩
  rw [hbytes, hheader]
  rfl

theorem refreshed_sound {m' : SlotMemory} (h : SnapshotSound slotId m)
    (hafter : AfterRefresh m slotId m') : SnapshotSound slotId m' := by
  cases hafter with
  | kept => exact h
  | unlinked _ _ code hcode => exact ⟨h.checksum, fun _ _ => ⟨_, _, rfl, hcode⟩⟩
  | reloaded _ _ code hcode l _ =>
    refine ⟨fun _ => rfl, fun _ _ => ⟨_, _, rfl, hcode⟩⟩

/-- An object that the loader admits with the size of an upload is admitted with the size of the
snapshot whose bytes it begins with. -/
theorem admitted_of_snapshot {file data : Memory} {size o t : UInt32}
    (hbytes : bytesAt file 0 size.toNat = bytesAt data 0 o.toNat)
    (hold : RamAdmitted slotId file size) (hnew : RamAdmitted slotId data t) :
    RamAdmitted slotId data o := by
  have hsize : size = o := by
    have hlength := congrArg List.length hbytes
    rw [bytesAt_length, bytesAt_length] at hlength
    exact UInt32.toNat_inj.mp hlength
  subst hsize
  have hlow := UInt32.le_iff_toNat_le.mp hold.checks.header_fits
  rw [show headerSize.toNat = 52 from rfl] at hlow
  have hheader : readHeader file = readHeader data := by
    refine readHeader_congr fun d hd => ?_
    have hget := congrArg (fun bs => bs[d.toNat]?) hbytes
    rw [bytesAt_getElem? _ _ _ _ (by omega), bytesAt_getElem? _ _ _ _ (by omega),
      UInt32.ofNat_toNat, UInt32.zero_add] at hget
    exact Option.some.inj hget
  have htotal := hold.checks.total_le
  rw [hheader] at htotal
  exact ⟨{ hnew.checks with header_fits := hold.checks.header_fits, total_le := htotal }, hnew.slot,
    hnew.fits, hnew.bytecode⟩

theorem autoLoaded_sound {p : PendingPlcAutoLoad} {m' : SlotMemory}
    (hfits : SnapshotFits p.slotId p.objectSize) (h : SnapshotSound p.slotId m)
    (hafter : AfterAutoLoad m p m') : SnapshotSound p.slotId m' := by
  cases hafter with
  | refused => exact h
  | unlinked code hcode =>
    refine ⟨h.checksum, fun hvalid hloaded => ?_⟩
    obtain ⟨file, size, hbytes, hlinked⟩ := h.linked hvalid hloaded
    obtain ⟨hadmitted, hstate⟩ := hcode
    exact ⟨m.snapshotData, m.snapshotHeader.objectSize, rfl,
      admitted_of_snapshot hbytes hlinked.1 hadmitted, hstate⟩
  | unsaved hnot code _ l => exact absurd hfits hnot
  | loaded _ code hcode l _ => exact sound_withSnapshot (m := m) rfl rfl fun _ => hcode

theorem copied_bytes {data staging : Memory} {o t : UInt32}
    (h : ∀ d, d < o → d < t → staging d = data d) :
    bytesAt (copy data 0 staging 0 t.toNat) 0 o.toNat = bytesAt data 0 o.toNat := by
  refine bytesAt_congr fun k hk => ?_
  have hk' : (UInt32.ofNat k).toNat = k := by
    have := o.toNat_lt
    exact UInt32.toNat_ofNat_of_lt' (by simp [UInt32.size]; omega)
  rw [UInt32.zero_add]
  by_cases hcover : Covers 0 t.toNat (UInt32.ofNat k)
  · have hlt := covers_zero_iff.mp hcover
    rw [copy_of_covers hcover, UInt32.sub_zero, UInt32.zero_add]
    exact h _ (UInt32.lt_iff_toNat_lt.mpr (by omega)) (UInt32.lt_iff_toNat_lt.mpr hlt)
  · rw [copy_of_not_covers hcover]

theorem commandedControl_loaded (m : SlotMemory) (slotId : UInt16) (command : SlotCommand) :
    plcControlBlockLoaded (commandedControl m slotId command) slotId =
      plcControlBlockLoaded m.control slotId := by
  cases command <;> rfl

theorem SnapshotSound.next {s : NodeNetCore} {e : Event}
    (h : SnapshotSound slotId (s.mem.slots slotId)) (hfits : UploadFits s)
    (hspares : CommitSpares s e) : SnapshotSound slotId ((s.next e).mem.slots slotId) := by
  have hstep := slotStep s e slotId
  generalize (s.next e).mem.slots slotId = m at hstep ⊢
  cases hstep with
  | kept => exact h
  | commanded _ _ => exact h.congr rfl (fun _ => rfl) rfl (commandedControl_loaded _ slotId _)
  | stopped _ _ _ =>
    exact h.congr rfl (fun _ => rfl) rfl (commandedControl_loaded (s.mem.slots slotId) slotId .stop)
  | staged hanswer hcommit hslot =>
    subst hslot
    refine h.congr rfl (fun hvalid => ?_) rfl rfl
    exact copied_bytes (hspares _ _ _ hanswer hcommit hvalid)
  | reported _ _ => exact h.congr rfl (fun _ => rfl) rfl rfl
  | refreshed _ hafter => exact refreshed_sound h hafter
  | erased _ _ hcleared =>
    refine sound_of_invalid ?_
    rw [hcleared.snapshotHeader]
    rfl
  | autoLoaded hp hslot hafter =>
    subst hslot
    exact autoLoaded_sound (hfits.fits _ (pending_of_autoLoads hp)) h hafter

theorem staged_sound {payload : PackagePayload} (h : SnapshotSound slotId m)
    (hloaded : plcControlBlockLoaded m.control slotId = false) :
    SnapshotSound slotId (stagePayload payload m slotId).1 := by
  rw [stagePayload]
  split
  · rw [SlotMemory.writeObjectFileSnapshot]
    split
    · refine sound_withSnapshot (m := m) rfl rfl fun hl => ?_
      change plcControlBlockLoaded m.control slotId = true at hl
      rw [hloaded] at hl
      cases hl
    · exact h
  · exact h

theorem restoreSlot_sound {pass : RestorePass} {k j : UInt16} (hk : k < kPlcSlotCountV1)
    (h : SnapshotSound j (pass.mem.slots j)) :
    SnapshotSound j ((restoreSlot pass k).mem.slots j) := by
  rw [restoreSlot]
  by_cases hvalid : objectSnapshotHeaderValid (pass.mem.slots k).snapshotHeader k = true
  case neg =>
    rw [if_neg hvalid]
    exact h
  rw [if_pos hvalid]
  by_cases hj : j = k
  · subst hj
    have hafter := load_slot pass.mem j (pass.mem.slots j).snapshotData
      (pass.mem.slots j).snapshotHeader.objectSize
    change SnapshotSound j ((loadObjectFileIntoSlot pass.mem j (pass.mem.slots j).snapshotData
      (pass.mem.slots j).snapshotHeader.objectSize).1.slots j)
    generalize (loadObjectFileIntoSlot pass.mem j (pass.mem.slots j).snapshotData
      (pass.mem.slots j).snapshotHeader.objectSize).1.slots j = m at hafter ⊢
    generalize (loadObjectFileIntoSlot pass.mem j (pass.mem.slots j).snapshotData
      (pass.mem.slots j).snapshotHeader.objectSize).2.status = status at hafter
    cases hafter with
    | refused _ => exact h
    | unlinked _ code hcode => exact ⟨h.checksum, fun _ _ => ⟨_, _, rfl, hcode⟩⟩
    | unsaved _ hnot code _ l => exact absurd (snapshotFits_of_valid hk hvalid) hnot
    | loaded _ code hcode l _ =>
      exact sound_withSnapshot (m := pass.mem.slots j) rfl rfl fun _ => hcode
  · have hother := load_of_ne pass.mem hj (pass.mem.slots k).snapshotData
      (pass.mem.slots k).snapshotHeader.objectSize
    change SnapshotSound j ((loadObjectFileIntoSlot pass.mem k _ _).1.slots j)
    rw [hother]
    exact h

theorem restorePass_sound {slots : List UInt16} (hslots : ∀ k ∈ slots, k < kPlcSlotCountV1)
    {j : UInt16} (pass : RestorePass) (h : SnapshotSound j (pass.mem.slots j)) :
    SnapshotSound j ((slots.foldl restoreSlot pass).mem.slots j) := by
  induction slots generalizing pass with
  | nil => exact h
  | cons k slots ih =>
    exact ih (fun i hi => hslots i (List.mem_cons_of_mem k hi)) (restoreSlot pass k)
      (restoreSlot_sound (hslots k List.mem_cons_self) h)

theorem restoreSlots_sound (payload : PackagePayload) {s : LoaderState}
    (h : SnapshotSound slotId (s.slots slotId))
    (hloaded : plcControlBlockLoaded (s.slots slotId).control slotId = false) :
    SnapshotSound slotId ((restoreSlots payload s).mem.slots slotId) := by
  have hpresent : ∀ k ∈ presentSlots payload s slotIds, k < kPlcSlotCountV1 :=
    fun k hk => mem_slotIds.mp (List.mem_filter.mp hk).1
  have hstaged : SnapshotSound slotId ((stageSlots payload s slotIds).slots slotId) := by
    by_cases hin : slotId ∈ slotIds
    · rw [stageSlots_of_mem payload slotIds_nodup hin]
      exact staged_sound h hloaded
    · rw [stageSlots_of_not_mem payload hin]
      exact h
  rw [restoreSlots]
  refine restorePass_sound hpresent _ ?_
  change SnapshotSound slotId ((syncPlcRuntimeDefinitions _).slots slotId)
  rw [syncPlcRuntimeDefinitions_slots]
  exact restorePass_sound hpresent _ hstaged

theorem clearVolatileState_sound (mem : LoaderState) (slotId : UInt16) :
    SnapshotSound slotId ((clearVolatileState mem).slots slotId) := sound_of_invalid rfl

theorem reboot_sound (s : NodeNetCore) (mem : LoaderState) (staging : Memory)
    (unreadable : UInt32 → Bool) (hslot : slotId < kPlcSlotCountV1) :
    SnapshotSound slotId ((s.reboot mem staging unreadable).state.mem.slots slotId) := by
  obtain ⟨boot, hfresh, hreboot⟩ := reboot_cases s mem staging unreadable
  have hsound : SnapshotSound slotId (boot.mem.slots slotId) := by
    rw [hfresh.mem]
    exact clearVolatileState_sound mem slotId
  cases hreboot with
  | inl hnone =>
    obtain ⟨bytes, _, hnone⟩ := hnone
    rw [hnone]
    exact hsound
  | inr hsome =>
    obtain ⟨payload, _, hsome⟩ := hsome
    have hloaded : plcControlBlockLoaded (boot.mem.slots slotId).control slotId = false := by
      rw [hfresh.mem]
      rfl
    have hslots := restoreSlots_sound payload hsound hloaded
    rw [← restoredCore_slots] at hslots
    have hrefreshed := refreshed_sound hslots (refreshIfNeeded_slot _ slotId)
    rw [hsome, restored_slot _ _ (mem_slotIds.mpr hslot), runBitApplied]
    split
    · exact hrefreshed.congr rfl (fun _ => rfl) rfl rfl
    · exact hrefreshed

theorem refreshIfNeeded_session (s : NodeNetCore) : s.refreshIfNeeded.session = s.session := by
  rw [NodeNetCore.refreshIfNeeded]
  split
  · exact (defers_runRefresh _).session.trans (defers_enterRefresh s).session
  · exact (defers_enterRefresh s).session

theorem enterRefresh_pendingPlcAutoLoad (s : NodeNetCore) :
    s.enterRefresh.pendingPlcAutoLoad = s.pendingPlcAutoLoad := by
  rw [NodeNetCore.enterRefresh]
  split <;> rfl

theorem refreshIfNeeded_pendingPlcAutoLoad (s : NodeNetCore) :
    s.refreshIfNeeded.pendingPlcAutoLoad = s.pendingPlcAutoLoad := by
  rw [NodeNetCore.refreshIfNeeded]
  split
  · rw [runRefresh_pendingPlcAutoLoad, enterRefresh_pendingPlcAutoLoad]
  · exact enterRefresh_pendingPlcAutoLoad s

theorem uploadFits_of_idle {s : NodeNetCore} (hsession : s.session = .reset)
    (hload : s.pendingPlcAutoLoad = none) : UploadFits s where
  sized hactive := by
    rw [hsession] at hactive
    cases hactive
  fits q hq := by
    rw [hload] at hq
    cases hq

theorem reboot_uploadFits (s : NodeNetCore) (mem : LoaderState) (staging : Memory)
    (unreadable : UInt32 → Bool) : UploadFits (s.reboot mem staging unreadable).state := by
  obtain ⟨boot, hfresh, hreboot⟩ := reboot_cases s mem staging unreadable
  cases hreboot with
  | inl hnone =>
    obtain ⟨bytes, _, hnone⟩ := hnone
    rw [hnone]
    exact uploadFits_of_idle hfresh.session hfresh.autoLoad
  | inr hsome =>
    obtain ⟨payload, _, hsome⟩ := hsome
    rw [hsome]
    refine uploadFits_of_idle ?_ ?_
    · exact (refreshIfNeeded_session (restoredCore boot payload)).trans hfresh.session
    · exact (refreshIfNeeded_pendingPlcAutoLoad (restoredCore boot payload)).trans hfresh.autoLoad

def SnapshotsSound (s : NodeNetCore) : Prop :=
  ∀ slotId, slotId < kPlcSlotCountV1 → SnapshotSound slotId (s.mem.slots slotId)

/-- No commit of the run writes over a valid snapshot. -/
def CommitsSpare (s : NodeNetCore) (e : BoardEvent) : Prop := ∀ e', e = .core e' → CommitSpares s e'

/-- From every boot on, the snapshots are sound in every state of every run whose commits write over
no valid snapshot. -/
theorem snapshots_sound (s : NodeNetCore) (mem : LoaderState) (staging : Memory)
    (unreadable : UInt32 → Bool) (es : List BoardEvent)
    (h : Along boardNext CommitsSpare (s.reboot mem staging unreadable).state es) :
    SnapshotsSound (run boardNext (s.reboot mem staging unreadable).state es) := by
  have hinv : ∀ t e, UploadFits t ∧ SnapshotsSound t → CommitsSpare t e →
      UploadFits (boardNext t e) ∧ SnapshotsSound (boardNext t e) := by
    intro t e ht hspares
    cases e with
    | core e =>
      exact ⟨ht.1.next e, fun slotId hslot => (ht.2 slotId hslot).next ht.1 (hspares e rfl)⟩
    | reboot mem staging unreadable =>
      exact ⟨reboot_uploadFits t mem staging unreadable,
        fun slotId hslot => reboot_sound t mem staging unreadable hslot⟩
  exact (run_inv hinv ⟨reboot_uploadFits s mem staging unreadable,
    fun slotId hslot => reboot_sound s mem staging unreadable hslot⟩ h).2

theorem uploaded_snapshots_sound :
    SnapshotsSound (run boardNext (NodeNetCore.blank.reboot .boot (fun _ => 0) fun _ => false).state
      ((volatileUpload 0 1 emptyFile).map .core)) := by
  have hinvalid : Along boardNext (fun s _ => objectSnapshotHeaderValid
      (s.mem.slots s.session.slotId).snapshotHeader s.session.slotId = false)
      (NodeNetCore.blank.reboot .boot (fun _ => 0) fun _ => false).state
      ((volatileUpload 0 1 emptyFile).map .core) := by decide +kernel
  refine snapshots_sound _ _ _ _ _
    (hinvalid.mono fun s e h e' _ uploadId faults reply _ _ hvalid => ?_)
  rw [h] at hvalid
  cases hvalid

/-- A second upload, of bytes that are no object, is committed and fails to load. -/
def uploadOver : List Event :=
  volatileUpload 0 1 emptyFile ++ volatileUpload 0 2 (List.replicate 52 0)

/-- The first object's header is left with the second one's bytes. -/
theorem uploadOver_not_sound :
    ¬ SnapshotsSound (run boardNext
      (NodeNetCore.blank.reboot .boot (fun _ => 0) fun _ => false).state
      (uploadOver.map .core)) := by
  intro h
  have hchecksum := (h 0 (by decide)).checksum (by decide +kernel)
  revert hchecksum
  decide +kernel

end NodeNet.Core

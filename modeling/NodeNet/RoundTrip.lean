import NodeNet.LoadEffects
import NodeNet.PackageFlash
import NodeNet.Restore

/-! A saved package reads back: restore finds every slot's entry and object as they were packed. -/
namespace NodeNet.Package
open NodeNet.Bytes NodeNet.Nor NodeNet.Flash NodeNet.ObjectFile NodeNet.Slot NodeNet.Loader

structure ReadsBack (s : LoaderState) (override : PackageOverride) (q : PackageImage)
    (payload : PackagePayload) : Prop where
  header : payload.header = packageHeader s q
  bytes : ∀ d : UInt32, d.toNat + 28 < q.writeOffset.toNat →
    payload.bytes d = q.bytes (packageHeaderSize + d)

theorem packageHeaderSize_toNat : packageHeaderSize.toNat = 28 := rfl

variable {s : LoaderState} {override : PackageOverride} {q : PackageImage}

theorem packageHeader_payloadSize (hq : PackedUpTo s override 16 q) :
    (packageHeader s q).payloadSize.toNat = q.writeOffset.toNat - 28 := by
  have hbase := objectsBase_le s override 16
  have hoffset := hq.offset
  exact UInt32.toNat_sub_of_le _ _ (UInt32.le_iff_toNat_le.mpr (by
    rw [packageHeaderSize_toNat]
    omega))

theorem packageHeader_accepted (hq : PackedUpTo s override 16 q) :
    packageHeaderAccepted (packageHeader s q) = true := by
  have hsize := packageHeader_payloadSize hq
  have hbase := objectsBase_le s override 16
  have hoffset := hq.offset
  have hbound := hq.bound
  rw [kPlcFlashPackageSize_toNat] at hbound
  have hlow : packageEntrySize * kPlcSlotCountV1.toUInt32 ≤ (packageHeader s q).payloadSize := by
    rw [UInt32.le_iff_toNat_le, hsize,
      show (packageEntrySize * kPlcSlotCountV1.toUInt32).toNat = 320 by decide]
    omega
  have hhigh : (packageHeader s q).payloadSize ≤ kPlcFlashPackageSize - packageHeaderSize := by
    rw [UInt32.le_iff_toNat_le, hsize,
      show (kPlcFlashPackageSize - packageHeaderSize).toNat = 131044 by decide]
    omega
  simp only [packageHeaderAccepted, Bool.and_eq_true, decide_eq_true_eq]
  exact ⟨⟨⟨⟨⟨rfl, rfl⟩, rfl⟩, rfl⟩, hlow⟩, hhigh⟩

/-- The package read back from flash cells that hold it. -/
theorem readPackage_saved (hq : PackedUpTo s override 16 q) {flash : FlashDriver} {content : Memory}
    (hread : ReadsAs flash content)
    (hcontent : ∀ d : UInt32, d < q.writeOffset → content (kPlcFlashPackageBase + d) =
      patch q.bytes 0 (packageHeader s q).bytes d) (staging : Memory) :
    ∃ payload, readPackage flash staging = (payload.bytes, some payload.header) ∧
      ReadsBack s override q payload := by
  have hsize := packageHeader_payloadSize hq
  have hbase := objectsBase_le s override 16
  have hoffset := hq.offset
  have hbound := hq.bound
  rw [kPlcFlashPackageSize_toNat] at hbound
  have hheaderLength : (packageHeader s q).bytes.length = 28 := by
    simp [PlcFlashPackageHeader.bytes, le32, le16]
  rw [readPackage, flashReadBytes_eq hread]
  have hheader : readPackageHeader (copy (fun _ => 0) 0 content kPlcFlashPackageBase
      packageHeaderSize.toNat) = packageHeader s q := by
    refine readPackageHeader_of_bytes ?_
    have hpatch : bytesAt (patch q.bytes 0 (packageHeader s q).bytes) 0
        (packageHeader s q).bytes.length = (packageHeader s q).bytes :=
      bytesAt_patch q.bytes 0 (by omega)
    rw [hheaderLength] at hpatch
    rw [← hpatch]
    refine bytesAt_congr fun k hk => ?_
    have hk' : (UInt32.ofNat k).toNat = k :=
      UInt32.toNat_ofNat_of_lt' (by simp [UInt32.size]; omega)
    rw [UInt32.zero_add, copy_of_covers (covers_zero_iff.mpr (by rw [hk']; exact hk)),
      UInt32.sub_zero]
    exact hcontent _ (UInt32.lt_iff_toNat_lt.mpr (by omega))
  simp only [hheader, packageHeader_accepted hq, Bool.not_true, Bool.false_eq_true, if_false]
  rw [flashReadBytes_eq hread]
  generalize hpayload : copy staging 0 content (kPlcFlashPackageBase + packageHeaderSize)
    (packageHeader s q).payloadSize.toNat = bytes
  have hbytes : ∀ d : UInt32, d.toNat + 28 < q.writeOffset.toNat →
      bytes d = q.bytes (packageHeaderSize + d) := by
    intro d hd
    have hsum : (packageHeaderSize + d).toNat = 28 + d.toNat := by
      rw [UInt32.toNat_add, packageHeaderSize_toNat]
      omega
    rw [← hpayload, copy_of_covers (covers_zero_iff.mpr (by omega)), UInt32.sub_zero,
      UInt32.add_assoc, hcontent _ (UInt32.lt_iff_toNat_lt.mpr (by omega)),
      patch_of_not_covers (by rw [covers_zero_iff]; omega)]
  have hsum : checksum32 bytes 0 (packageHeader s q).payloadSize =
      (packageHeader s q).payloadChecksum := by
    change Fnv.hash _ = Fnv.hash _
    congr 1
    refine bytesAt_congr fun k hk => ?_
    have hk' : (UInt32.ofNat k).toNat = k :=
      UInt32.toNat_ofNat_of_lt' (by simp [UInt32.size]; omega)
    rw [UInt32.zero_add, hbytes _ (by omega)]
  simp only [hsum, if_true]
  exact ⟨⟨packageHeader s q, bytes⟩, rfl, rfl, hbytes⟩

/-- The object saved for a slot: the override, or the slot's snapshot if it is valid. -/
def savedObject (s : LoaderState) (override : PackageOverride) (slotId : UInt16) :
    Option (List UInt8) :=
  let m := s.slots slotId
  if slotId = override.slotId then
    override.objectBytes.map (bytesAt · 0 override.objectSize.toNat)
  else if objectSnapshotHeaderValid m.snapshotHeader slotId then
    some (bytesAt m.snapshotData 0 m.snapshotHeader.objectSize.toNat)
  else none

variable {slotId : UInt16}

theorem packedObject_saved {packed : Option PackedObject}
    (h : packedObject s override slotId = .ok packed) :
    savedObject s override slotId = packed.map (fun o => bytesAt o.bytes 0 o.size.toNat) ∧
      ∀ object, packed = some object →
        headerSize ≤ object.size ∧ object.size ≤ slotObjectSnapshotCapacity := by
  rw [packedObject] at h
  rw [savedObject]
  dsimp only at h ⊢
  by_cases hslot : slotId = override.slotId
  · rw [if_pos hslot] at h ⊢
    cases hbytes : override.objectBytes with
    | none =>
      simp only [hbytes, Except.ok.injEq] at h
      subst h
      exact ⟨rfl, fun object ho => (by cases ho)⟩
    | some bytes =>
      simp only [hbytes] at h
      split at h
      · cases h
      · rename_i hchecks
        simp only [not_or, UInt32.not_lt] at hchecks
        cases h
        refine ⟨rfl, fun object ho => ?_⟩
        cases ho
        exact ⟨hchecks.1, hchecks.2.1⟩
  · rw [if_neg hslot] at h ⊢
    cases h
    split
    · rename_i hvalid
      refine ⟨rfl, fun object ho => ?_⟩
      cases ho
      simp only [objectSnapshotHeaderValid, Bool.and_eq_true, decide_eq_true_eq] at hvalid
      exact ⟨hvalid.1.2, hvalid.2⟩
    · exact ⟨rfl, fun object ho => (by cases ho)⟩

theorem payloadEntry_addr {i : Nat} (hi : i < 16) :
    ((UInt16.ofNat i).toUInt32 * packageEntrySize).toNat = 20 * i ∧
      packageHeaderSize + (UInt16.ofNat i).toUInt32 * packageEntrySize =
        entryAddr (UInt16.ofNat i) := by
  have hall : ∀ n < 16, ((UInt16.ofNat n).toUInt32 * packageEntrySize).toNat = 20 * n := by decide
  exact ⟨hall i hi, rfl⟩

variable {payload : PackagePayload}

theorem ReadsBack.entry (h : ReadsBack s override q payload) (hq : PackedUpTo s override 16 q)
    {i : Nat} (hi : i < 16) : payloadEntry payload (UInt16.ofNat i) =
      readPackageEntry q.bytes (entryAddr (UInt16.ofNat i)) := by
  have hbase := objectsBase_le s override 16
  have hoffset := hq.offset
  obtain ⟨haddr, hentry⟩ := payloadEntry_addr hi
  refine readPackageEntry_congr fun d hd => ?_
  have hsum : ((UInt16.ofNat i).toUInt32 * packageEntrySize + d).toNat = 20 * i + d.toNat := by
    rw [UInt32.toNat_add, haddr]
    omega
  rw [h.bytes _ (by omega), ← UInt32.add_assoc, hentry]

theorem ReadsBack.absent (h : ReadsBack s override q payload) (hq : PackedUpTo s override 16 q)
    {i : Nat} (hi : i < 16) (hpacked : packedObject s override (UInt16.ofNat i) = .ok none) :
    entryAccepted payload.header (payloadEntry payload (UInt16.ofNat i)) (UInt16.ofNat i) =
      false := by
  have hsize := packageHeader_payloadSize hq
  have hoffset := hq.offset
  have hbound := hq.bound
  rw [kPlcFlashPackageSize_toNat] at hbound
  have hbase := objectsBase_le s override 16
  rw [h.entry hq hi, hq.absent i hi hpacked, h.header]
  have hend : (packageHeaderSize + (packageHeader s q).payloadSize).toNat =
      q.writeOffset.toNat := by
    rw [UInt32.toNat_add, packageHeaderSize_toNat, hsize]
    omega
  have hnot : ¬ (0xFFFFFFFF : UInt32) ≤ packageHeaderSize + (packageHeader s q).payloadSize := by
    rw [UInt32.le_iff_toNat_le, hend]
    have : (0xFFFFFFFF : UInt32).toNat = 4294967295 := rfl
    omega
  simp [entryAccepted, absentEntry, hnot]

theorem offsetBefore_succ_le (s : LoaderState) (override : PackageOverride) {i : Nat} (hi : i < 16)
    {object : PackedObject} (h : packedObject s override (UInt16.ofNat i) = .ok (some object)) :
    offsetBefore s override i + object.size.toNat ≤ offsetBefore s override 16 := by
  have hmono := offsetBefore_mono s override (show i + 1 ≤ 16 by omega)
  rw [offsetBefore, packedSize, h] at hmono
  exact hmono

/-- A packed slot's entry is accepted and points to its object. -/
theorem ReadsBack.present (h : ReadsBack s override q payload) (hq : PackedUpTo s override 16 q)
    {i : Nat} (hi : i < 16) {object : PackedObject}
    (hpacked : packedObject s override (UInt16.ofNat i) = .ok (some object)) :
    let entry := payloadEntry payload (UInt16.ofNat i)
    entryAccepted payload.header entry (UInt16.ofNat i) = true ∧ entry.objectSize = object.size ∧
      bytesAt (payloadObject payload entry) 0 object.size.toNat =
        bytesAt object.bytes 0 object.size.toNat := by
  have hsize := packageHeader_payloadSize hq
  have hoffset := hq.offset
  have hbound := hq.bound
  rw [kPlcFlashPackageSize_toNat] at hbound
  have hlow := objectsBase_le s override i
  have hhigh := offsetBefore_succ_le s override hi hpacked
  have hfits := (packedObject_saved hpacked).2 object rfl
  have hend : (packageHeaderSize + (packageHeader s q).payloadSize).toNat =
      q.writeOffset.toNat := by
    rw [UInt32.toNat_add, packageHeaderSize_toNat, hsize]
    omega
  have hofs : (UInt32.ofNat (offsetBefore s override i)).toNat = offsetBefore s override i :=
    UInt32.toNat_ofNat_of_lt' (by simp [UInt32.size]; omega)
  dsimp only
  rw [h.entry hq hi, hq.entry i hi object hpacked, h.header]
  refine ⟨?_, rfl, ?_⟩
  · have h1 : objectsBase ≤ UInt32.ofNat (offsetBefore s override i) := by
      rw [UInt32.le_iff_toNat_le, hofs, objectsBase_toNat]
      exact hlow
    have h2 : UInt32.ofNat (offsetBefore s override i) ≤
        packageHeaderSize + (packageHeader s q).payloadSize := by
      rw [UInt32.le_iff_toNat_le, hofs, hend]
      omega
    have h3 : object.size ≤ packageHeaderSize + (packageHeader s q).payloadSize -
        UInt32.ofNat (offsetBefore s override i) := by
      rw [UInt32.le_iff_toNat_le, UInt32.toNat_sub_of_le _ _ h2, hofs, hend]
      omega
    have hflags : kPlcFlashPackageEntryPresent &&& kPlcFlashPackageEntryPresent ≠ 0 := by decide
    simp only [entryAccepted, presentEntry, Bool.and_eq_true]
    exact ⟨⟨⟨⟨⟨decide_eq_true hflags, rfl⟩, decide_eq_true hfits.1⟩, decide_eq_true h1⟩,
      decide_eq_true h2⟩, decide_eq_true h3⟩
  · refine bytesAt_congr fun k hk => ?_
    have hk' : (UInt32.ofNat k).toNat = k := by
      have := object.size.toNat_lt
      exact UInt32.toNat_ofNat_of_lt' (by simp [UInt32.size]; omega)
    have hle : packageHeaderSize ≤ UInt32.ofNat (offsetBefore s override i) := by
      rw [UInt32.le_iff_toNat_le, hofs, packageHeaderSize_toNat]
      omega
    have hsub : (UInt32.ofNat (offsetBefore s override i) - packageHeaderSize).toNat =
        offsetBefore s override i - 28 := by
      rw [UInt32.toNat_sub_of_le _ _ hle, hofs, packageHeaderSize_toNat]
    rw [UInt32.zero_add, payloadObject]
    change payload.bytes (UInt32.ofNat (offsetBefore s override i) - packageHeaderSize + _) = _
    have hsum : (UInt32.ofNat (offsetBefore s override i) - packageHeaderSize +
        UInt32.ofNat k).toNat = offsetBefore s override i - 28 + k := by
      rw [UInt32.toNat_add, hsub, hk']
      omega
    rw [h.bytes _ (by omega)]
    have haddr : packageHeaderSize + (UInt32.ofNat (offsetBefore s override i) -
        packageHeaderSize + UInt32.ofNat k) =
        UInt32.ofNat (offsetBefore s override i) + UInt32.ofNat k := by grind
    rw [haddr, hq.bytes i hi object hpacked _ (UInt32.lt_iff_toNat_lt.mpr (by omega))]

/-- The slot has a valid snapshot, of these bytes. -/
structure Holds (m : SlotMemory) (slotId : UInt16) (bytes : List UInt8) : Prop where
  valid : objectSnapshotHeaderValid m.snapshotHeader slotId = true
  bytes : bytesAt m.snapshotData 0 m.snapshotHeader.objectSize.toNat = bytes

theorem loadedSnapshotHeader_valid {size : UInt32} (h : SnapshotFits slotId size)
    (checksum : UInt32) :
    objectSnapshotHeaderValid (loadedSnapshotHeader slotId size checksum) slotId = true := by
  simp [objectSnapshotHeaderValid, loadedSnapshotHeader, h.2.1, h.2.2]

theorem holds_withSnapshot (m : SlotMemory) {size : UInt32} (h : SnapshotFits slotId size)
    (file : Memory) : Holds (withSnapshot m slotId file size) slotId (bytesAt file 0 size.toNat) :=
  ⟨loadedSnapshotHeader_valid h _, bytesAt_copy _ _ _ size.toNat_lt⟩

theorem stagePayload_present (h : ReadsBack s override q payload) (hq : PackedUpTo s override 16 q)
    (hslot : slotId < kPlcSlotCountV1) {bytes : List UInt8}
    (hsaved : savedObject s override slotId = some bytes) (m : SlotMemory) :
    (stagePayload payload m slotId).2 = true ∧
      Holds (stagePayload payload m slotId).1 slotId bytes := by
  have hi : slotId.toNat < 16 := UInt16.lt_iff_toNat_lt.mp hslot
  obtain ⟨packed, hpacked⟩ := hq.accepted slotId.toNat hi
  have hsave := (packedObject_saved hpacked).1
  rw [UInt16.ofNat_toNat, hsaved] at hsave
  cases packed with
  | none => cases hsave
  | some object =>
    cases hsave
    obtain ⟨haccepted, hsize, hbytes⟩ := h.present hq hi hpacked
    have hfits := (packedObject_saved hpacked).2 object rfl
    rw [UInt16.ofNat_toNat] at haccepted hsize hbytes
    rw [stagePayload, if_pos haccepted, hsize]
    have hsnapshot : SnapshotFits slotId object.size := ⟨hslot, hfits.1, hfits.2⟩
    rw [writeObjectFileSnapshot_of_fits hsnapshot]
    dsimp only
    rw [← hbytes]
    refine ⟨?_, holds_withSnapshot m hsnapshot _⟩
    rw [SlotMemory.writeObjectFileSnapshot, if_pos hsnapshot]

theorem stagePayload_absent (h : ReadsBack s override q payload) (hq : PackedUpTo s override 16 q)
    (hslot : slotId < kPlcSlotCountV1) (hsaved : savedObject s override slotId = none)
    (m : SlotMemory) : stagePayload payload m slotId = (m, false) := by
  have hi : slotId.toNat < 16 := UInt16.lt_iff_toNat_lt.mp hslot
  obtain ⟨packed, hpacked⟩ := hq.accepted slotId.toNat hi
  have hsave := (packedObject_saved hpacked).1
  rw [UInt16.ofNat_toNat, hsaved] at hsave
  cases packed with
  | some object => cases hsave
  | none =>
    have hrefused := h.absent hq hi hpacked
    rw [UInt16.ofNat_toNat] at hrefused
    rw [stagePayload, hrefused]
    rfl

variable {slots : List UInt16}

theorem stageSlots_of_not_mem (payload : PackagePayload) {j : UInt16} (h : j ∉ slots)
    (s : LoaderState) : (stageSlots payload s slots).slots j = s.slots j := by
  induction slots generalizing s with
  | nil => rfl
  | cons k slots ih =>
    have hjk : j ≠ k := fun hjk => h (hjk ▸ List.mem_cons_self)
    have hrest := ih (fun hj => h (List.mem_cons_of_mem k hj))
      (s.updateSlot k fun m => (stagePayload payload m k).1)
    rw [updateSlot_of_ne s hjk] at hrest
    exact hrest

theorem stageSlots_of_mem (payload : PackagePayload) (hnodup : slots.Nodup) {j : UInt16}
    (h : j ∈ slots) (s : LoaderState) :
    (stageSlots payload s slots).slots j = (stagePayload payload (s.slots j) j).1 := by
  induction slots generalizing s with
  | nil => cases h
  | cons k slots ih =>
    obtain ⟨hk, hrest⟩ := List.nodup_cons.mp hnodup
    change (stageSlots payload (s.updateSlot k _) slots).slots j = _
    by_cases hj : j = k
    · subst hj
      rw [stageSlots_of_not_mem payload hk, updateSlot_self]
    · have hmem : j ∈ slots := (List.mem_cons.mp h).resolve_left hj
      rw [ih hrest hmem, updateSlot_of_ne s hj]

theorem load_holds {bytes : List UInt8} (hslot : slotId < kPlcSlotCountV1)
    (h : Holds (s.slots slotId) slotId bytes) :
    Holds ((loadObjectFileIntoSlot s slotId (s.slots slotId).snapshotData
      (s.slots slotId).snapshotHeader.objectSize).1.slots slotId) slotId bytes := by
  have hvalid := h.valid
  simp only [objectSnapshotHeaderValid, Bool.and_eq_true, decide_eq_true_eq] at hvalid
  have hfits : SnapshotFits slotId (s.slots slotId).snapshotHeader.objectSize :=
    ⟨hslot, hvalid.1.2, hvalid.2⟩
  have hafter := load_slot s slotId (s.slots slotId).snapshotData
    (s.slots slotId).snapshotHeader.objectSize
  generalize (loadObjectFileIntoSlot s slotId (s.slots slotId).snapshotData
    (s.slots slotId).snapshotHeader.objectSize).1.slots slotId = m at hafter ⊢
  generalize (loadObjectFileIntoSlot s slotId (s.slots slotId).snapshotData
    (s.slots slotId).snapshotHeader.objectSize).2.status = status at hafter
  cases hafter with
  | refused _ => exact h
  | unlinked _ code _ => exact ⟨h.valid, h.bytes⟩
  | unsaved _ hnot code _ l => exact absurd hfits hnot
  | loaded _ code _ l _ =>
    rw [← h.bytes]
    exact holds_withSnapshot _ hfits _

/-- What the passes do to slots whose snapshots are known. -/
structure Passes (saved : UInt16 → Option (List UInt8)) (mem : LoaderState) (slots : List UInt16)
    (pass pass' : RestorePass) : Prop where
  loads : pass'.loads = pass.loads ++ slots.filterMap fun k => (saved k).map (k, ·)
  holds : ∀ k bytes, k < kPlcSlotCountV1 → Holds (mem.slots k) k bytes →
    Holds (pass'.mem.slots k) k bytes
  other : ∀ k, k ∉ slots → pass'.mem.slots k = mem.slots k

theorem restoreSlots_passes {saved : UInt16 → Option (List UInt8)} (pass : RestorePass)
    (hslots : ∀ k ∈ slots, k < kPlcSlotCountV1 ∧
      ∃ bytes, saved k = some bytes ∧ Holds (pass.mem.slots k) k bytes) :
    Passes saved pass.mem slots pass (slots.foldl restoreSlot pass) := by
  induction slots generalizing pass with
  | nil => exact ⟨by simp, fun _ _ _ h => h, fun _ _ => rfl⟩
  | cons k slots ih =>
    obtain ⟨hk, bytes, hsaved, hholds⟩ := hslots k List.mem_cons_self
    have hload := load_holds hk hholds
    have hother : ∀ j, j ≠ k → (restoreSlot pass k).mem.slots j = pass.mem.slots j := by
      intro j hj
      rw [restoreSlot, if_pos hholds.valid]
      exact load_of_ne pass.mem hj _ _
    have hkeep : ∀ j bytes, j < kPlcSlotCountV1 → Holds (pass.mem.slots j) j bytes →
        Holds ((restoreSlot pass k).mem.slots j) j bytes := by
      intro j bytes' hj h
      by_cases hjk : j = k
      · subst hjk
        rw [restoreSlot, if_pos hholds.valid]
        exact load_holds hj h
      · rw [hother j hjk]
        exact h
    have hrest := ih (restoreSlot pass k) fun j hj => by
      obtain ⟨hlt, b, hb, hh⟩ := hslots j (List.mem_cons_of_mem k hj)
      exact ⟨hlt, b, hb, hkeep j b hlt hh⟩
    refine ⟨?_, fun j b hj h => hrest.holds j b hj (hkeep j b hj h), fun j hj => ?_⟩
    · rw [List.foldl_cons, hrest.loads, restoreSlot, if_pos hholds.valid]
      simp [hsaved, hholds.bytes]
    · have hjk : j ≠ k := fun hjk => hj (hjk ▸ List.mem_cons_self)
      rw [List.foldl_cons, hrest.other j fun h => hj (List.mem_cons_of_mem k h), hother j hjk]

/-- A slot that the restore passes over: not staged, not loaded, and its memory as it was. -/
structure PassedOver (slotId : UInt16) (s : LoaderState) (r : RestoredSlots) : Prop where
  present : slotId ∉ r.present
  loads : ∀ bytes, (slotId, bytes) ∉ r.loads
  slot : r.mem.slots slotId = s.slots slotId

theorem restoreSlots_other {j : UInt16} (h : j ∉ slots) (pass : RestorePass) :
    (slots.foldl restoreSlot pass).mem.slots j = pass.mem.slots j ∧
      ∀ bytes, (j, bytes) ∈ (slots.foldl restoreSlot pass).loads → (j, bytes) ∈ pass.loads := by
  induction slots generalizing pass with
  | nil => exact ⟨rfl, fun _ hin => hin⟩
  | cons k slots ih =>
    have hjk : j ≠ k := fun hjk => h (hjk ▸ List.mem_cons_self)
    obtain ⟨hmem, hloads⟩ := ih (fun hin => h (List.mem_cons_of_mem k hin)) (restoreSlot pass k)
    rw [List.foldl_cons, hmem]
    by_cases hvalid : objectSnapshotHeaderValid (pass.mem.slots k).snapshotHeader k = true
    · rw [restoreSlot, if_pos hvalid] at hloads ⊢
      refine ⟨load_of_ne pass.mem hjk _ _, fun bytes hin => ?_⟩
      have hcases := hloads bytes hin
      simp only [List.mem_append, List.mem_singleton, Prod.mk.injEq, hjk, false_and, or_false]
        at hcases
      exact hcases
    · rw [restoreSlot, if_neg hvalid] at hloads ⊢
      exact ⟨rfl, hloads⟩

theorem restoreSlots_passedOver (h : ∀ m, stagePayload payload m slotId = (m, false))
    (s : LoaderState) : PassedOver slotId s (restoreSlots payload s) := by
  have hnot : slotId ∉ presentSlots payload s slotIds := by
    rw [presentSlots, List.mem_filter, h]
    simp
  have hstaged : (stageSlots payload s slotIds).slots slotId = s.slots slotId := by
    by_cases hin : slotId ∈ slotIds
    · rw [stageSlots_of_mem payload slotIds_nodup hin, h]
    · exact stageSlots_of_not_mem payload hin s
  obtain ⟨hmem, hloads⟩ := restoreSlots_other hnot ⟨stageSlots payload s slotIds, [], 0⟩
  rw [restoreSlots]
  generalize hfirst : restorePass (stageSlots payload s slotIds)
    (presentSlots payload s slotIds) = first
  rw [restorePass] at hfirst
  rw [hfirst] at hmem hloads
  obtain ⟨hmem', hloads'⟩ := restoreSlots_other hnot ⟨syncPlcRuntimeDefinitions first.mem, [], 0⟩
  refine ⟨hnot, fun bytes hin => ?_, ?_⟩
  · cases List.mem_append.mp hin with
    | inl hin => cases hloads bytes hin
    | inr hin => cases hloads' bytes hin
  · change (restorePass (syncPlcRuntimeDefinitions first.mem) _).mem.slots slotId = _
    rw [restorePass, hmem', syncPlcRuntimeDefinitions_slots, hmem, hstaged]

end NodeNet.Package

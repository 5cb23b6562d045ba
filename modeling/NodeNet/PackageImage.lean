import NodeNet.Package

/-! What the built package holds: the entry and the object of every slot. -/
namespace NodeNet.Package
open NodeNet.Bytes NodeNet.Checks NodeNet.ObjectFile NodeNet.Slot NodeNet.Loader

/-- The bytes a slot takes up in the package. -/
def packedSize (s : LoaderState) (override : PackageOverride) (i : Nat) : Nat :=
  match packedObject s override (UInt16.ofNat i) with
  | .ok (some object) => object.size.toNat
  | _ => 0

/-- Where the objects of the slots from `i` on begin. -/
def offsetBefore (s : LoaderState) (override : PackageOverride) : Nat → Nat
  | 0 => objectsBase.toNat
  | i + 1 => offsetBefore s override i + packedSize s override i

def presentEntry (s : LoaderState) (override : PackageOverride) (i : Nat) (object : PackedObject) :
    PlcFlashPackageEntry where
  slotId := UInt16.ofNat i
  reserved := 0xFFFF
  flags := kPlcFlashPackageEntryPresent
  objectOffset := UInt32.ofNat (offsetBefore s override i)
  objectSize := object.size
  objectChecksum := object.checksum

/-- The entry of a slot that is not: all ones but the slot's number. -/
def absentEntry (i : Nat) : PlcFlashPackageEntry :=
  ⟨UInt16.ofNat i, 0xFFFF, 0xFFFFFFFF, 0xFFFFFFFF, 0xFFFFFFFF, 0xFFFFFFFF⟩

/-- The image after the slots below `i`. -/
structure PackedUpTo (s : LoaderState) (override : PackageOverride) (i : Nat)
    (p : PackageImage) : Prop where
  offset : p.writeOffset.toNat = offsetBefore s override i
  bound : offsetBefore s override i ≤ kPlcFlashPackageSize.toNat
  accepted : ∀ j < i, ∃ r, packedObject s override (UInt16.ofNat j) = .ok r
  entry : ∀ j < i, ∀ object, packedObject s override (UInt16.ofNat j) = .ok (some object) →
    readPackageEntry p.bytes (entryAddr (UInt16.ofNat j)) = presentEntry s override j object
  bytes : ∀ j < i, ∀ object, packedObject s override (UInt16.ofNat j) = .ok (some object) →
    ∀ d : UInt32, d < object.size →
      p.bytes (UInt32.ofNat (offsetBefore s override j) + d) = object.bytes d
  absent : ∀ j < i, packedObject s override (UInt16.ofNat j) = .ok none →
    readPackageEntry p.bytes (entryAddr (UInt16.ofNat j)) = absentEntry j
  blank : ∀ x : UInt32, x.toNat < 28 ∨ 28 + 20 * i ≤ x.toNat ∧ x.toNat < 348 → p.bytes x = 0xFF

theorem kPlcSlotCountV1_toNat : kPlcSlotCountV1.toNat = 16 := rfl

theorem objectsBase_toNat : objectsBase.toNat = 348 := by decide

theorem kPlcFlashPackageSize_toNat : kPlcFlashPackageSize.toNat = 131072 := by decide

variable {i : Nat}

theorem offsetBefore_mono (s : LoaderState) (override : PackageOverride) {j : Nat} (h : i ≤ j) :
    offsetBefore s override i ≤ offsetBefore s override j := by
  induction h with
  | refl => exact Nat.le_refl _
  | step _ ih => exact Nat.le_trans ih (Nat.le_add_right _ _)

theorem objectsBase_le (s : LoaderState) (override : PackageOverride) (i : Nat) :
    348 ≤ offsetBefore s override i := by
  have h := offsetBefore_mono s override (Nat.zero_le i)
  rwa [offsetBefore, objectsBase_toNat] at h

theorem entryAddr_toNat (h : i < 16) : (entryAddr (UInt16.ofNat i)).toNat = 28 + 20 * i := by
  have hall : ∀ n < 16, (entryAddr (UInt16.ofNat n)).toNat = 28 + 20 * n := by decide
  exact hall i h

theorem readPackageEntry_congr {m w : Memory} {a b : UInt32}
    (h : ∀ d : UInt32, d.toNat < 20 → m (a + d) = w (b + d)) :
    readPackageEntry m a = readPackageEntry w b := by
  have h0 := word16_congr h 0 (by decide) (by decide)
  rw [UInt32.add_zero, UInt32.add_zero] at h0
  simp only [readPackageEntry, h0, word16_congr h 2 (by decide) (by decide),
    word32_congr h 4 (by decide) (by decide), word32_congr h 8 (by decide) (by decide),
    word32_congr h 12 (by decide) (by decide), word32_congr h 16 (by decide) (by decide)]

theorem readPackageEntry_of_bytes {m : Memory} {a : UInt32} {e : PlcFlashPackageEntry}
    (h : bytesAt m a 20 = e.bytes) : readPackageEntry m a = e := by
  rw [show 20 = 2 + (2 + (4 + (4 + (4 + 4)))) from rfl] at h
  simp only [bytesAt_append, PlcFlashPackageEntry.bytes, List.append_assoc] at h
  obtain ⟨h0, h⟩ := List.append_inj h (by simp [le16])
  obtain ⟨h2, h⟩ := List.append_inj h (by simp [le16])
  obtain ⟨h4, h⟩ := List.append_inj h (by simp [le32])
  obtain ⟨h8, h⟩ := List.append_inj h (by simp [le32])
  obtain ⟨h12, h16⟩ := List.append_inj h (by simp [le32])
  have e4 : a + UInt32.ofNat 2 + UInt32.ofNat 2 = a + 4 := by rw [UInt32.add_assoc]; rfl
  have e8 : a + 4 + UInt32.ofNat 4 = a + 8 := by rw [UInt32.add_assoc]; rfl
  have e12 : a + 8 + UInt32.ofNat 4 = a + 12 := by rw [UInt32.add_assoc]; rfl
  have e16 : a + 12 + UInt32.ofNat 4 = a + 16 := by rw [UInt32.add_assoc]; rfl
  rw [e4] at h4
  rw [e4, e8] at h8
  rw [e4, e8, e12] at h12
  rw [e4, e8, e12, e16] at h16
  have e2 : a + UInt32.ofNat 2 = a + 2 := rfl
  rw [e2] at h2
  simp only [readPackageEntry, word16_of_le16 h0, word16_of_le16 h2, word32_of_le32 h4,
    word32_of_le32 h8, word32_of_le32 h12, word32_of_le32 h16]

theorem readPackageHeader_of_bytes {m : Memory} {h : PlcFlashPackageHeader}
    (hb : bytesAt m 0 28 = h.bytes) : readPackageHeader m = h := by
  rw [show 28 = 4 + (4 + (2 + (2 + (4 + (4 + (4 + 4)))))) from rfl] at hb
  simp only [bytesAt_append, PlcFlashPackageHeader.bytes, List.append_assoc] at hb
  obtain ⟨h0, hb⟩ := List.append_inj hb (by simp [le32])
  obtain ⟨h4, hb⟩ := List.append_inj hb (by simp [le32])
  obtain ⟨h8, hb⟩ := List.append_inj hb (by simp [le16])
  obtain ⟨h10, hb⟩ := List.append_inj hb (by simp [le16])
  obtain ⟨h12, hb⟩ := List.append_inj hb (by simp [le32])
  obtain ⟨h16, hb⟩ := List.append_inj hb (by simp [le32])
  obtain ⟨h20, h24⟩ := List.append_inj hb (by simp [le32])
  simp only [readPackageHeader, word32_of_le32 h0, word32_of_le32 (a := 4) h4,
    word16_of_le16 (a := 8) h8, word16_of_le16 (a := 10) h10, word32_of_le32 (a := 12) h12,
    word32_of_le32 (a := 16) h16, word32_of_le32 (a := 20) h20, word32_of_le32 (a := 24) h24]

/-- What one iteration does to the image. -/
inductive PacksSlot (s : LoaderState) (override : PackageOverride) (i : Nat) (p : PackageImage) :
    PackageImage → Prop where
  | absent (h : packedObject s override (UInt16.ofNat i) = .ok none) :
    PacksSlot s override i p
      { p with bytes := patch p.bytes (entryAddr (UInt16.ofNat i)) (le16 (UInt16.ofNat i)) }
  | present (object : PackedObject)
    (h : packedObject s override (UInt16.ofNat i) = .ok (some object))
    (hoffset : p.writeOffset ≤ kPlcFlashPackageSize)
    (hsize : object.size ≤ kPlcFlashPackageSize - p.writeOffset) :
    PacksSlot s override i p
      { bytes := patch
          (copy (patch p.bytes (entryAddr (UInt16.ofNat i)) (le16 (UInt16.ofNat i)))
            p.writeOffset object.bytes 0 object.size.toNat)
          (entryAddr (UInt16.ofNat i) + 4)
          (le32 kPlcFlashPackageEntryPresent ++ le32 p.writeOffset ++ le32 object.size ++
            le32 object.checksum)
        writeOffset := p.writeOffset + object.size
        persistedSlotCount := p.persistedSlotCount + 1 }

variable {s : LoaderState} {override : PackageOverride} {p t : PackageImage}

theorem packSlot_ok (h : packSlot s override i p = .ok t) : PacksSlot s override i p t := by
  rw [packSlot] at h
  cases hp : packedObject s override (UInt16.ofNat i) with
  | error e => simp [hp] at h
  | ok r =>
    cases r with
    | none =>
      simp only [hp, Except.ok.injEq] at h
      rw [← h]
      exact .absent hp
    | some object =>
      simp only [hp] at h
      rw [ite_error_eq_ok] at h
      obtain ⟨hfit, h⟩ := h
      simp only [not_or, UInt32.not_lt] at hfit
      cases h
      exact .present object hp hfit.1 hfit.2

theorem PacksSlot.bytes_below (h : PacksSlot s override i p t) (hi : i < 16) {x : UInt32}
    (hx : x.toNat < p.writeOffset.toNat)
    (hne : x.toNat < 28 + 20 * i ∨ 28 + 20 * i + 20 ≤ x.toNat) : t.bytes x = p.bytes x := by
  have ha := entryAddr_toNat hi
  have hlow : ¬ Covers (entryAddr (UInt16.ofNat i)) (le16 (UInt16.ofNat i)).length x := by
    rw [covers_iff (by rw [ha]; simp [le16]; omega), ha]
    simp [le16]
    omega
  cases h with
  | absent h => exact patch_of_not_covers hlow
  | present object h hoffset hsize =>
    have ha4 : (entryAddr (UInt16.ofNat i) + 4).toNat = 28 + 20 * i + 4 := by
      rw [UInt32.toNat_add, ha]
      exact Nat.mod_eq_of_lt (by simp; omega)
    have hhigh : ¬ Covers (entryAddr (UInt16.ofNat i) + 4)
        (le32 kPlcFlashPackageEntryPresent ++ le32 p.writeOffset ++ le32 object.size ++
          le32 object.checksum).length x := by
      rw [covers_iff (by rw [ha4]; simp [le32]; omega), ha4]
      simp [le32]
      omega
    have hobject : ¬ Covers p.writeOffset object.size.toNat x := by
      have hsum := UInt32.le_iff_toNat_le.mp hsize
      rw [UInt32.toNat_sub_of_le _ _ hoffset] at hsum
      have hle := UInt32.le_iff_toNat_le.mp hoffset
      rw [kPlcFlashPackageSize_toNat] at hsum hle
      rw [covers_iff (by omega)]
      omega
    exact (patch_of_not_covers hhigh).trans
      ((copy_of_not_covers hobject).trans (patch_of_not_covers hlow))

theorem bytesAt_ones {m : Memory} {a : UInt32} {n : Nat}
    (h : ∀ k < n, m (a + UInt32.ofNat k) = 0xFF) : bytesAt m a n = List.replicate n 0xFF := by
  refine List.ext_getElem? fun k => ?_
  by_cases hk : k < n
  · rw [bytesAt_getElem? _ _ _ _ hk, h k hk, List.getElem?_replicate, if_pos hk]
  · rw [List.getElem?_eq_none (by simpa using hk), List.getElem?_eq_none (by simpa using hk)]

theorem bytesAt_slotId {m : Memory} {a : UInt32} (v : UInt16) {n : Nat} (hn : n < 2 ^ 16)
    (hblank : ∀ k < n, m (a + 2 + UInt32.ofNat k) = 0xFF) :
    bytesAt (patch m a (le16 v)) a (2 + n) = le16 v ++ List.replicate n 0xFF := by
  rw [bytesAt_append]
  have hv := bytesAt_patch m a (show (le16 v).length < 2 ^ 32 by simp [le16])
  rw [show (2 : Nat) = (le16 v).length from rfl, hv]
  congr 1
  refine bytesAt_ones fun k hk => ?_
  have hd : a + UInt32.ofNat (le16 v).length + UInt32.ofNat k - a = 2 + UInt32.ofNat k := by
    rw [UInt32.add_assoc, UInt32.add_comm, UInt32.add_sub_cancel]
    rfl
  have hc : ¬ Covers a (le16 v).length (a + UInt32.ofNat (le16 v).length + UInt32.ofNat k) := by
    rw [Covers, hd, UInt32.toNat_add, UInt32.toNat_ofNat_of_lt' (by simp [UInt32.size]; omega)]
    simp [le16]
    omega
  rw [patch_of_not_covers hc]
  exact hblank k hk

theorem absentEntry_bytes (i : Nat) :
    (absentEntry i).bytes = le16 (UInt16.ofNat i) ++ List.replicate 18 0xFF := by
  have h2 : le16 0xFFFF = List.replicate 2 0xFF := by decide
  have h4 : le32 0xFFFFFFFF = List.replicate 4 0xFF := by decide
  simp only [PlcFlashPackageEntry.bytes, absentEntry, h2, h4, List.append_assoc,
    List.replicate_append_replicate]

theorem presentEntry_bytes (s : LoaderState) (override : PackageOverride) (i : Nat)
    (object : PackedObject) :
    (presentEntry s override i object).bytes =
      (le16 (UInt16.ofNat i) ++ List.replicate 2 0xFF) ++
        (le32 kPlcFlashPackageEntryPresent ++ le32 (UInt32.ofNat (offsetBefore s override i)) ++
          le32 object.size ++ le32 object.checksum) := by
  simp only [PlcFlashPackageEntry.bytes, presentEntry, List.append_assoc]
  rfl

theorem entryAddr_add {k : Nat} (hi : i < 16) (hk : k < 20) :
    (entryAddr (UInt16.ofNat i) + UInt32.ofNat k).toNat = 28 + 20 * i + k := by
  rw [UInt32.toNat_add, entryAddr_toNat hi,
    UInt32.toNat_ofNat_of_lt' (by simp [UInt32.size]; omega)]
  omega

/-- The iteration writes the whole entry of its slot. -/
theorem PacksSlot.entry (h : PacksSlot s override i p t) (hi : i < 16)
    (hoff : p.writeOffset = UInt32.ofNat (offsetBefore s override i))
    (hlow : 348 ≤ p.writeOffset.toNat)
    (hblank : ∀ k < 20, p.bytes (entryAddr (UInt16.ofNat i) + UInt32.ofNat k) = 0xFF) :
    (∀ object, packedObject s override (UInt16.ofNat i) = .ok (some object) →
      readPackageEntry t.bytes (entryAddr (UInt16.ofNat i)) = presentEntry s override i object) ∧
    (packedObject s override (UInt16.ofNat i) = .ok none →
      readPackageEntry t.bytes (entryAddr (UInt16.ofNat i)) = absentEntry i) := by
  have hnumber : ∀ n ≤ 18, bytesAt (patch p.bytes (entryAddr (UInt16.ofNat i))
      (le16 (UInt16.ofNat i))) (entryAddr (UInt16.ofNat i)) (2 + n) =
      le16 (UInt16.ofNat i) ++ List.replicate n 0xFF := by
    intro n hn
    refine bytesAt_slotId _ (by omega) fun k hk => ?_
    have hb := hblank (2 + k) (by omega)
    rwa [UInt32.ofNat_add, ← UInt32.add_assoc] at hb
  cases h with
  | absent hp =>
    refine ⟨fun object ho => ?_, fun _ => ?_⟩
    · rw [hp] at ho
      cases ho
    · refine readPackageEntry_of_bytes ?_
      rw [absentEntry_bytes]
      exact hnumber 18 (by omega)
  | present object hp hoffset hsize =>
    refine ⟨fun object' ho => ?_, fun ho => ?_⟩
    · rw [hp] at ho
      cases ho
      refine readPackageEntry_of_bytes ?_
      rw [presentEntry_bytes, show 20 = 4 + 16 from rfl, bytesAt_append, ← hoff]
      congr 1
      · -- the number and the two bytes after it lie below the words and the object
        rw [← hnumber 2 (by omega)]
        refine bytesAt_congr fun k hk => ?_
        have haddr := entryAddr_add hi (show k < 20 by omega)
        refine (patch_of_not_covers ?_).trans (copy_of_not_covers ?_)
        · have h4 := entryAddr_add hi (show 4 < 20 by omega)
          have h4' : (entryAddr (UInt16.ofNat i) + 4).toNat = 28 + 20 * i + 4 := h4
          rw [covers_iff (by rw [h4']; simp [le32]; omega), h4', haddr]
          simp [le32]
          omega
        · have hle := UInt32.le_iff_toNat_le.mp hoffset
          have hsum := UInt32.le_iff_toNat_le.mp hsize
          rw [UInt32.toNat_sub_of_le _ _ hoffset] at hsum
          rw [kPlcFlashPackageSize_toNat] at hsum hle
          rw [covers_iff (by omega), haddr]
          omega
      · exact bytesAt_patch
          (copy (patch p.bytes (entryAddr (UInt16.ofNat i)) (le16 (UInt16.ofNat i)))
            p.writeOffset object.bytes 0 object.size.toNat) (entryAddr (UInt16.ofNat i) + 4)
          (by simp [le32])
    · rw [hp] at ho
      cases ho

theorem PacksSlot.object (h : PacksSlot s override i p t) (hi : i < 16)
    (hlow : 348 ≤ p.writeOffset.toNat) {object : PackedObject}
    (ho : packedObject s override (UInt16.ofNat i) = .ok (some object)) {d : UInt32}
    (hd : d < object.size) : t.bytes (p.writeOffset + d) = object.bytes d := by
  cases h with
  | absent hp =>
    rw [hp] at ho
    cases ho
  | present object' hp hoffset hsize =>
    rw [hp] at ho
    cases ho
    have hle := UInt32.le_iff_toNat_le.mp hoffset
    have hsum := UInt32.le_iff_toNat_le.mp hsize
    have hlt := UInt32.lt_iff_toNat_lt.mp hd
    rw [UInt32.toNat_sub_of_le _ _ hoffset] at hsum
    rw [kPlcFlashPackageSize_toNat] at hsum hle
    have hx : (p.writeOffset + d).toNat = p.writeOffset.toNat + d.toNat := by
      rw [UInt32.toNat_add]
      omega
    have h4 : (entryAddr (UInt16.ofNat i) + 4).toNat = 28 + 20 * i + 4 :=
      entryAddr_add hi (show 4 < 20 by omega)
    refine (patch_of_not_covers ?_).trans ?_
    · rw [covers_iff (by rw [h4]; simp [le32]; omega), h4, hx]
      simp [le32]
      omega
    · have hsub : p.writeOffset + d - p.writeOffset = d := by
        rw [UInt32.add_comm, UInt32.add_sub_cancel]
      rw [copy_of_covers (by rw [Covers, hsub]; exact hlt), hsub, UInt32.zero_add]

theorem PacksSlot.writeOffset (h : PacksSlot s override i p t) :
    t.writeOffset.toNat = p.writeOffset.toNat + packedSize s override i ∧
      (p.writeOffset.toNat ≤ kPlcFlashPackageSize.toNat →
        t.writeOffset.toNat ≤ kPlcFlashPackageSize.toNat) := by
  cases h with
  | absent hp => simp [packedSize, hp]
  | present object hp hoffset hsize =>
    have hle := UInt32.le_iff_toNat_le.mp hoffset
    have hsum := UInt32.le_iff_toNat_le.mp hsize
    rw [UInt32.toNat_sub_of_le _ _ hoffset] at hsum
    rw [kPlcFlashPackageSize_toNat] at *
    simp only [packedSize, hp, UInt32.toNat_add]
    omega

theorem PacksSlot.accepted (h : PacksSlot s override i p t) :
    ∃ r, packedObject s override (UInt16.ofNat i) = .ok r := by
  cases h with
  | absent hp => exact ⟨none, hp⟩
  | present object hp _ _ => exact ⟨some object, hp⟩

theorem offsetBefore_add {j : Nat} (hj : j < i)
    (hbound : offsetBefore s override i ≤ kPlcFlashPackageSize.toNat) {object : PackedObject}
    (ho : packedObject s override (UInt16.ofNat j) = .ok (some object)) {d : UInt32}
    (hd : d < object.size) :
    (UInt32.ofNat (offsetBefore s override j) + d).toNat = offsetBefore s override j + d.toNat ∧
      offsetBefore s override j + d.toNat < offsetBefore s override i := by
  have hnext : offsetBefore s override (j + 1) = offsetBefore s override j + object.size.toNat := by
    rw [offsetBefore, packedSize, ho]
  have hmono := offsetBefore_mono s override (show j + 1 ≤ i from hj)
  have hlt := UInt32.lt_iff_toNat_lt.mp hd
  rw [kPlcFlashPackageSize_toNat] at hbound
  rw [UInt32.toNat_add, UInt32.toNat_ofNat_of_lt' (by simp [UInt32.size]; omega)]
  omega

/-- One more slot. -/
theorem PackedUpTo.step (h : PackedUpTo s override i p) (hi : i < 16)
    (ht : PacksSlot s override i p t) : PackedUpTo s override (i + 1) t := by
  have hlow : 348 ≤ p.writeOffset.toNat := by
    rw [h.offset]
    exact objectsBase_le s override i
  have hoff : p.writeOffset = UInt32.ofNat (offsetBefore s override i) := by
    rw [← h.offset, UInt32.ofNat_toNat]
  have hentry := ht.entry hi hoff hlow fun k hk => h.blank _ (by
    rw [entryAddr_add hi hk]
    omega)
  constructor
  case offset => rw [ht.writeOffset.1, h.offset, offsetBefore]
  case bound =>
    have hb := ht.writeOffset.2 (by rw [h.offset]; exact h.bound)
    rwa [ht.writeOffset.1, h.offset] at hb
  case accepted =>
    intro j hj
    by_cases hji : j < i
    · exact h.accepted j hji
    · obtain rfl : j = i := by omega
      exact ht.accepted
  case entry =>
    intro j hj object ho
    by_cases hji : j < i
    · rw [← h.entry j hji object ho]
      refine readPackageEntry_congr fun d hd => ht.bytes_below hi ?_ ?_
      all_goals
        have haddr := entryAddr_add (show j < 16 by omega) hd
        rw [UInt32.ofNat_toNat] at haddr
        omega
    · obtain rfl : j = i := by omega
      exact hentry.1 object ho
  case bytes =>
    intro j hj object ho d hd
    by_cases hji : j < i
    · rw [← h.bytes j hji object ho d hd]
      have haddr := offsetBefore_add hji h.bound ho hd
      have hbase := objectsBase_le s override j
      refine ht.bytes_below hi ?_ ?_
      · rw [haddr.1, h.offset]
        exact haddr.2
      · rw [haddr.1]
        omega
    · obtain rfl : j = i := by omega
      rw [← hoff]
      exact ht.object hi hlow ho hd
  case absent =>
    intro j hj ho
    by_cases hji : j < i
    · rw [← h.absent j hji ho]
      refine readPackageEntry_congr fun d hd => ht.bytes_below hi ?_ ?_
      all_goals
        have haddr := entryAddr_add (show j < 16 by omega) hd
        rw [UInt32.ofNat_toNat] at haddr
        omega
    · obtain rfl : j = i := by omega
      exact hentry.2 ho
  case blank =>
    intro x hx
    rw [← h.blank x (by omega)]
    exact ht.bytes_below hi (by omega) (by omega)

theorem packSlot_error {bytes : Memory} (h : packSlot s override i p = .error bytes) :
    bytes = patch p.bytes (entryAddr (UInt16.ofNat i)) (le16 (UInt16.ofNat i)) := by
  rw [packSlot] at h
  cases hp : packedObject s override (UInt16.ofNat i) with
  | error e =>
    simp only [hp, Except.error.injEq] at h
    exact h.symm
  | ok r =>
    cases r with
    | none => simp [hp] at h
    | some object =>
      simp only [hp] at h
      split at h
      · cases h
        rfl
      · cases h

theorem packedUpTo_empty (s : LoaderState) (override : PackageOverride) (staging : Memory) :
    PackedUpTo s override 0 (emptyPackage staging) where
  offset := rfl
  bound := by rw [offsetBefore, objectsBase_toNat, kPlcFlashPackageSize_toNat]; omega
  accepted _ hj := by omega
  entry _ hj := by omega
  bytes _ hj := by omega
  absent _ hj := by omega
  blank x hx := by
    have hlt : x < kPlcFlashPackageSize := by
      rw [UInt32.lt_iff_toNat_lt, kPlcFlashPackageSize_toNat]
      omega
    simp [emptyPackage, hlt]

theorem buildPackage_ok {staging : Memory} (h : buildPackage s override staging = .ok p) :
    ∃ q, PackedUpTo s override 16 q ∧
      p = { q with bytes := patch q.bytes 0 (packageHeader s q).bytes } := by
  rw [buildPackage] at h
  cases hrun : forLoop (packSlot s override) 0 kPlcSlotCountV1.toNat (emptyPackage staging) with
  | error e => simp [hrun] at h
  | ok q =>
    simp only [hrun, Except.ok.injEq] at h
    have hind := forLoop_ind (packSlot s override) (PackedUpTo s override)
      (fun _ => True) (n := kPlcSlotCountV1.toNat)
      (fun j p t _ hj hp ht => hp.step (by rw [kPlcSlotCountV1_toNat] at hj; omega) (packSlot_ok ht))
      (fun _ _ _ _ _ _ _ => trivial) (packedUpTo_empty s override staging)
    exact ⟨q, hind.1 q hrun, h.symm⟩

theorem buildPackage_error {staging bytes : Memory}
    (h : buildPackage s override staging = .error bytes) (x : UInt32) (hx : x.toNat < 28) :
    bytes x = 0xFF := by
  rw [buildPackage] at h
  cases hrun : forLoop (packSlot s override) 0 kPlcSlotCountV1.toNat (emptyPackage staging) with
  | ok q => simp [hrun] at h
  | error e =>
    simp only [hrun, Except.error.injEq] at h
    subst h
    have hind := forLoop_ind (packSlot s override) (PackedUpTo s override)
      (fun bytes => bytes x = 0xFF) (n := kPlcSlotCountV1.toNat)
      (fun j p t _ hj hp ht => hp.step (by rw [kPlcSlotCountV1_toNat] at hj; omega) (packSlot_ok ht))
      (fun j p e _ hj hp he => by
        have hlt : j < 16 := by
          rw [kPlcSlotCountV1_toNat] at hj
          omega
        have ha := entryAddr_toNat hlt
        rw [packSlot_error he, patch_of_not_covers, hp.blank x (.inl hx)]
        rw [covers_iff (by rw [ha]; simp [le16]; omega), ha]
        simp [le16]
        omega) (packedUpTo_empty s override staging)
    exact hind.2 _ hrun

theorem packageHeader_read (m : Memory) (h : PlcFlashPackageHeader) :
    readPackageHeader (patch m 0 h.bytes) = h := by
  refine readPackageHeader_of_bytes ?_
  exact bytesAt_patch m 0 (by simp [PlcFlashPackageHeader.bytes, le32, le16])

theorem savePackage_front (s : LoaderState) (override : PackageOverride) (staging flash : Memory)
    (faults : NodeNet.Nor.Faults) :
    word32 (savePersistedPlcSlotsPackage s override staging flash faults).staging 0 ≠
      kPlcObjectFileMagicV1 := by
  rw [savePersistedPlcSlotsPackage]
  cases hb : buildPackage s override staging with
  | error bytes =>
    have hones : word32 bytes 0 = 0xFFFFFFFF := by
      rw [word32, buildPackage_error hb 0 (by decide), buildPackage_error hb (0 + 1) (by decide),
        buildPackage_error hb (0 + 2) (by decide), buildPackage_error hb (0 + 3) (by decide)]
      decide
    simp only [hones]
    decide
  | ok p =>
    obtain ⟨q, -, hp⟩ := buildPackage_ok hb
    have hmagic : word32 p.bytes 0 = kPlcFlashPackageMagic := by
      have hread := packageHeader_read q.bytes (packageHeader s q)
      rw [hp]
      exact congrArg PlcFlashPackageHeader.magic hread
    simp only [hmagic]
    decide

theorem savePackage_override {slotId : UInt16} {bytes : Memory} {size : UInt32}
    {staging flash : Memory} {faults : NodeNet.Nor.Faults} (hslot : slotId < kPlcSlotCountV1)
    (h : (savePersistedPlcSlotsPackage s ⟨slotId, some bytes, size⟩ staging flash faults).ok = true) :
    (readHeader bytes).magic = kPlcObjectFileMagicV1 := by
  rw [savePersistedPlcSlotsPackage] at h
  cases hb : buildPackage s ⟨slotId, some bytes, size⟩ staging with
  | error e => simp [hb] at h
  | ok p =>
    obtain ⟨q, hq, -⟩ := buildPackage_ok hb
    obtain ⟨r, hr⟩ := hq.accepted slotId.toNat (UInt16.lt_iff_toNat_lt.mp hslot)
    rw [UInt16.ofNat_toNat, packedObject] at hr
    simp only [if_true] at hr
    split at hr
    · cases hr
    · rename_i hbad
      simp only [not_or, ne_eq, Decidable.not_not] at hbad
      exact hbad.2.2.1

end NodeNet.Package

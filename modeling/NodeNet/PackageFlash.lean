import NodeNet.PackageImage

/-! What a save of the package leaves in the flash. -/
namespace NodeNet.Package
open NodeNet.Bytes NodeNet.Nor NodeNet.Flash NodeNet.Slot NodeNet.Loader

theorem eraseSectors_erased {a : UInt32} {n : Nat} (hn : a.toNat + 4096 * n < 2 ^ 32) (m : Memory)
    {x : UInt32} (hx : Covers a (4096 * n) x) :
    ((List.range n).map fun i => Op.erase (a + UInt32.ofNat i * kSectorSize)
      kSectorSize.toNat).foldl (fun m op => op.apply m) m x = 0xFF := by
  induction n generalizing m with
  | zero => exact absurd hx (by simp [Covers])
  | succ n ih =>
    rw [List.range_succ, List.map_append, List.foldl_append]
    have hsector : kSectorSize.toNat = 4096 := rfl
    have ha : (a + UInt32.ofNat n * kSectorSize).toNat = a.toNat + 4096 * n := by
      rw [UInt32.toNat_add, UInt32.toNat_mul, hsector,
        UInt32.toNat_ofNat_of_lt' (by simp [UInt32.size]; omega)]
      omega
    simp only [List.map_cons, List.map_nil, List.foldl_cons, List.foldl_nil, Op.apply, hsector]
    rw [covers_iff (by omega)] at hx
    split
    · rfl
    · rename_i hout
      rw [covers_iff (by omega), ha] at hout
      exact ih (by omega) m ((covers_iff (by omega)).mpr (by omega))

theorem erasedPage_apply (data : Memory) {consumed : UInt32} {chunk : Nat} (y : UInt32) :
    erasedPage data 0 consumed chunk y = if y.toNat < chunk then data (consumed + y) else 0xFF := by
  rw [erasedPage]
  by_cases hy : y.toNat < chunk
  · rw [if_pos hy, copy_of_covers (covers_zero_iff.mpr hy), UInt32.sub_zero]
  · rw [if_neg hy, copy_of_not_covers fun hc => hy (covers_zero_iff.mp hc)]

theorem flashWriteLoop_done (data : Memory) (len : UInt32) (fuel : Nat) (pageBase : UInt32) :
    flashWriteLoop data len 0 fuel len pageBase = [] := by
  cases fuel with
  | zero => rfl
  | succ fuel => simp [flashWriteLoop]

theorem ones_and (b : UInt8) : 0xFF &&& b = b := by
  have hall : ∀ n < 256, 0xFF &&& UInt8.ofNat n = UInt8.ofNat n := by decide +kernel
  simpa using hall b.toNat b.toNat_lt

theorem programPage_apply (data : Memory) {base consumed : UInt32} {chunk : Nat} {m : Memory}
    (hbound : base.toNat + consumed.toNat + 256 < 2 ^ 32) (hchunk : chunk ≤ 256)
    (herased : ∀ x, base.toNat + consumed.toNat ≤ x.toNat →
      x.toNat < base.toNat + consumed.toNat + chunk → m x = 0xFF) (x : UInt32) :
    (Op.program (base + consumed) 256 (erasedPage data 0 consumed chunk)).apply m x =
      if base.toNat + consumed.toNat ≤ x.toNat ∧ x.toNat < base.toNat + consumed.toNat + chunk then
        data (x - base)
      else m x := by
  have hsum : (base + consumed).toNat = base.toNat + consumed.toNat := by
    rw [UInt32.toNat_add]
    omega
  simp only [Op.apply]
  by_cases hc : Covers (base + consumed) 256 x
  case neg =>
    rw [if_neg hc, if_neg]
    rw [covers_iff (by omega)] at hc
    omega
  rw [if_pos hc, erasedPage_apply]
  have hx := (covers_iff (by omega)).mp hc
  have hd : (x - (base + consumed)).toNat = x.toNat - (base.toNat + consumed.toNat) := by
    rw [UInt32.toNat_sub_of_le _ _ (by rw [UInt32.le_iff_toNat_le]; omega), hsum]
  have haddr : consumed + (x - (base + consumed)) = x - base := by grind
  rw [hd, haddr]
  by_cases hin : x.toNat < base.toNat + consumed.toNat + chunk
  · rw [if_pos (by omega), if_pos (by omega), herased x (by omega) hin, ones_and]
  · rw [if_neg (by omega), if_neg (by omega), UInt8.and_comm, ones_and]

structure WritesPage (data : Memory) (base len : UInt32) (fuel : Nat) (consumed chunk : UInt32) :
    Prop where
  size : chunk.toNat = min (len.toNat - consumed.toNat) 256
  next : (consumed + chunk).toNat = consumed.toNat + chunk.toNat
  ops : flashWriteLoop data len 0 (fuel + 1) consumed (base + consumed) =
    .program (base + consumed) 256 (erasedPage data 0 consumed chunk.toNat) ::
      flashWriteLoop data len 0 fuel (consumed + chunk) (base + (consumed + chunk))

theorem flashWriteLoop_step (data : Memory) (base : UInt32) {len consumed : UInt32} (fuel : Nat)
    (hlt : consumed.toNat < len.toNat) : ∃ chunk, WritesPage data base len fuel consumed chunk := by
  have h256 : kPageSize.toNat = 256 := rfl
  have hrest : (len - consumed).toNat = len.toNat - consumed.toNat :=
    UInt32.toNat_sub_of_le _ _ (UInt32.le_iff_toNat_le.mpr (by omega))
  generalize hchunk : (if len - consumed < kPageSize then len - consumed else kPageSize) = chunk
  have hsize : chunk.toNat = min (len.toNat - consumed.toNat) 256 := by
    rw [← hchunk]
    split
    · rename_i h
      rw [UInt32.lt_iff_toNat_lt] at h
      omega
    · rename_i h
      rw [UInt32.lt_iff_toNat_lt] at h
      omega
  have hnext : (consumed + chunk).toNat = consumed.toNat + chunk.toNat := by
    have := len.toNat_lt
    rw [UInt32.toNat_add]
    omega
  refine ⟨chunk, hsize, hnext, ?_⟩
  rw [flashWriteLoop, if_pos (UInt32.lt_iff_toNat_lt.mpr hlt)]
  simp only [ite_self, UInt32.sub_zero, hchunk]
  by_cases hlast : chunk.toNat = 256
  · rw [show chunk = kPageSize from UInt32.toNat_inj.mp (hlast.trans h256.symm),
      UInt32.add_assoc]
    rfl
  · rw [show consumed + chunk = len from UInt32.toNat_inj.mp (by omega), flashWriteLoop_done,
      flashWriteLoop_done]
    rfl

theorem flashWriteLoop_apply {data : Memory} {base len : UInt32}
    (hbound : base.toNat + len.toNat + 256 < 2 ^ 32) (fuel : Nat) (consumed : UInt32) (m : Memory)
    (hconsumed : consumed.toNat ≤ len.toNat) (hfuel : len.toNat ≤ consumed.toNat + fuel)
    (herased : ∀ x, base.toNat + consumed.toNat ≤ x.toNat → x.toNat < base.toNat + len.toNat →
      m x = 0xFF) (x : UInt32) :
    (flashWriteLoop data len 0 fuel consumed (base + consumed)).foldl (fun m op => op.apply m) m x =
      if base.toNat + consumed.toNat ≤ x.toNat ∧ x.toNat < base.toNat + len.toNat then
        data (x - base)
      else m x := by
  induction fuel generalizing consumed m with
  | zero =>
    rw [if_neg (by omega)]
    rfl
  | succ fuel ih =>
    by_cases hlt : consumed.toNat < len.toNat
    case neg =>
      have hdone : consumed = len := UInt32.toNat_inj.mp (by omega)
      rw [hdone, flashWriteLoop_done, if_neg (by omega)]
      rfl
    obtain ⟨chunk, hsize, hnext, hops⟩ := flashWriteLoop_step data base fuel hlt
    have hcell := programPage_apply data (by omega) (show chunk.toNat ≤ 256 by omega)
      fun x hx hx' => herased x hx (by omega)
    rw [hops, List.foldl_cons]
    generalize Op.apply (.program (base + consumed) 256
      (erasedPage data 0 consumed chunk.toNat)) m = m' at hcell ⊢
    rw [ih (consumed + chunk) m' (by omega) (by omega) (fun y hy hy' => ?_), hcell x, hnext]
    · by_cases hx : base.toNat + (consumed.toNat + chunk.toNat) ≤ x.toNat ∧
          x.toNat < base.toNat + len.toNat
      · rw [if_pos hx, if_pos (by omega)]
      · rw [if_neg hx]
        by_cases hx' : base.toNat + consumed.toNat ≤ x.toNat ∧
            x.toNat < base.toNat + consumed.toNat + chunk.toNat
        · rw [if_pos hx', if_pos (by omega)]
        · rw [if_neg hx', if_neg (by omega)]
    · rw [hcell y, if_neg (by omega)]
      exact herased y (by omega) hy'

theorem flashWriteLoop_spares {data : Memory} {base len x : UInt32} (h : data (x - base) = 0xFF)
    (fuel : Nat) (consumed : UInt32) (hconsumed : consumed.toNat ≤ len.toNat) :
    ∀ op ∈ flashWriteLoop data len 0 fuel consumed (base + consumed), op.Spares x := by
  induction fuel generalizing consumed with
  | zero =>
    intro op hop
    cases hop
  | succ fuel ih =>
    by_cases hlt : consumed.toNat < len.toNat
    case neg =>
      have hdone : consumed = len := UInt32.toNat_inj.mp (by omega)
      rw [hdone, flashWriteLoop_done]
      intro op hop
      cases hop
    obtain ⟨chunk, hsize, hnext, hops⟩ := flashWriteLoop_step data base fuel hlt
    rw [hops]
    intro op hop
    cases hop with
    | head =>
      intro _
      have haddr : consumed + (x - (base + consumed)) = x - base := by grind
      rw [erasedPage_apply, haddr, h, ite_self]
    | tail _ hop => exact ih (consumed + chunk) (by omega) op hop

theorem kPlcFlashPackageBase_toNat : kPlcFlashPackageBase.toNat = 2113536 := by decide

theorem flashWriteErasedBytes_package (data : Memory) (len : UInt32) :
    flashWriteErasedBytes kPlcFlashPackageBase data len =
      flashWriteLoop data len 0 len.toNat 0 (kPlcFlashPackageBase + 0) := by
  have hpage : pageBase kPlcFlashPackageBase = kPlcFlashPackageBase := by decide
  rw [flashWriteErasedBytes, hpage, UInt32.sub_self, UInt32.add_zero]

theorem flashEraseRange_package :
    flashEraseRange kPlcFlashPackageBase kPlcFlashPackageSize =
      (List.range 32).map fun i =>
        .erase (kPlcFlashPackageBase + UInt32.ofNat i * kSectorSize) kSectorSize.toNat := by
  rw [flashEraseRange, show kPlcFlashPackageSize.toNat / kSectorSize.toNat = 32 by decide]

variable {override : PackageOverride}

theorem savePackage_flash {s : LoaderState} {staging flash : Memory} {faults : Faults}
    (hok : (savePersistedPlcSlotsPackage s override staging flash faults).ok = true) :
    ∃ p, buildPackage s override staging = .ok p ∧
      ∀ d : UInt32, d < p.writeOffset →
        (savePersistedPlcSlotsPackage s override staging flash faults).flash
          (kPlcFlashPackageBase + d) = p.bytes d := by
  rw [savePersistedPlcSlotsPackage] at hok ⊢
  cases hb : buildPackage s override staging with
  | error bytes => simp [hb] at hok
  | ok p =>
    obtain ⟨q, hq, hp⟩ := buildPackage_ok hb
    refine ⟨p, rfl, fun d hd => ?_⟩
    simp only [hb] at hok ⊢
    rw [perform_ok hok, List.foldl_append, flashWriteErasedBytes_package]
    have hoffset := hq.offset
    have hbound := hq.bound
    have hbase := kPlcFlashPackageBase_toNat
    rw [kPlcFlashPackageSize_toNat] at hbound
    have hwrite : p.writeOffset = q.writeOffset := by rw [hp]
    have hlen : p.writeOffset.toNat ≤ 131072 := by
      rw [hwrite]
      omega
    rw [UInt32.lt_iff_toNat_lt] at hd
    have hsum : (kPlcFlashPackageBase + d).toNat = 2113536 + d.toNat := by
      rw [UInt32.toNat_add, hbase]
      omega
    have haddr : kPlcFlashPackageBase + d - kPlcFlashPackageBase = d := by
      rw [UInt32.add_comm, UInt32.add_sub_cancel]
    rw [flashWriteLoop_apply (by omega) _ _ _ (by simp) (by simp) (fun x hx hx' => ?_), hsum, hbase,
      if_pos (by simpa using hd), haddr]
    rw [UInt32.toNat_zero] at hx
    have hend : kPlcFlashPackageBase.toNat + 4096 * 32 < 2 ^ 32 := by decide
    have hcovers : Covers kPlcFlashPackageBase (4096 * 32) x :=
      (covers_iff (Nat.le_of_lt hend)).mpr ⟨by omega, by omega⟩
    rw [flashEraseRange_package]
    exact eraseSectors_erased hend flash hcovers

theorem savePackage_noFaults {s : LoaderState} {staging : Memory}
    (h : ∃ p, buildPackage s override staging = .ok p) (flash : Memory) :
    (savePersistedPlcSlotsPackage s override staging flash noFaults).ok = true := by
  obtain ⟨p, hp⟩ := h
  rw [savePersistedPlcSlotsPackage, hp]
  simp only [perform_noFaults]

theorem savePackage_spares {s : LoaderState} {staging flash : Memory} {faults : Faults} {d : UInt32}
    (hbytes : ∀ p, buildPackage s override staging = .ok p → p.bytes d = 0xFF)
    (hflash : flash (kPlcFlashPackageBase + d) = 0xFF) :
    (savePersistedPlcSlotsPackage s override staging flash faults).flash
      (kPlcFlashPackageBase + d) = 0xFF := by
  rw [savePersistedPlcSlotsPackage]
  cases hb : buildPackage s override staging with
  | error bytes => exact hflash
  | ok p =>
    refine perform_erased (fun op hop => ?_) hflash
    rw [List.mem_append] at hop
    cases hop with
    | inl herase =>
      rw [flashEraseRange_package, List.mem_map] at herase
      obtain ⟨i, _, rfl⟩ := herase
      exact trivial
    | inr hwrite =>
      rw [flashWriteErasedBytes_package] at hwrite
      have haddr : kPlcFlashPackageBase + d - kPlcFlashPackageBase = d := by
        rw [UInt32.add_comm, UInt32.add_sub_cancel]
      exact flashWriteLoop_spares (haddr.symm ▸ hbytes p hb) _ 0 (by simp) op hwrite

end NodeNet.Package

import NodeNet.PackageFlash

/-! Byte ranges of the flash: disjoint writes into an erased area are read back in full. -/
namespace NodeNet.FlashRanges
open NodeNet.Bytes NodeNet.Nor NodeNet.Flash NodeNet.Package

def kSectorSize : UInt32 := 4096
def kRuntimeDataBase : UInt32 := 0x200000
def kRuntimeDataEnd : UInt32 := 0x244000

def isSafeReadAddress (flashOffset : UInt32) : Bool :=
  kRuntimeDataBase ≤ flashOffset && flashOffset < kRuntimeDataEnd

def isSafeWriteAddress (flashOffset : UInt32) : Bool :=
  kRuntimeDataBase ≤ flashOffset && flashOffset < kRuntimeDataEnd

/-- `readPage` over a chip: the 256 bytes of the page, unless the driver reports a failure.
A timeout that `waitReady` clears, and answers as success, is left out. -/
def readPageOf (content : Memory) (failed : Bool) (pageBase : UInt32) : Option Memory :=
  if pageBase % kPageSize ≠ 0 ∨ isSafeReadAddress pageBase = false then none
  else if failed then none
  else some fun x => if x < kPageSize then content (pageBase + x) else 0

/-- The driver as the readers see it; `fails` tells which page reads report a failure. -/
def driver (content : Memory) (fails : UInt32 → Bool) : FlashDriver where
  readPage pageBase := readPageOf content (fails pageBase) pageBase

/-- `writePage` and `eraseSector` refuse an address off its boundary or outside the window. -/
def accepts : Op → Bool
  | .erase sectorBase _ => sectorBase % kSectorSize = 0 && isSafeWriteAddress sectorBase
  | .program pageBase _ _ => pageBase % kPageSize = 0 && isSafeWriteAddress pageBase

/-- Calls of `writePage` and `eraseSector`, up to the first that reports a failure; one that times
out and yet reports success is left out. -/
def callDriver (faults : Faults) : Nat → List Op → Memory → Memory × Bool
  | _, [], content => (content, true)
  | calls, op :: ops, content =>
    if accepts op then
      match faults calls with
      | none => callDriver faults (calls + 1) ops (op.apply content)
      | some moved => (op.interrupt moved content, false)
    else (content, false)

theorem callDriver_ok {faults : Faults} {calls : Nat} {ops : List Op} {content : Memory}
    (h : (callDriver faults calls ops content).2 = true) :
    (callDriver faults calls ops content).1 =
      ops.foldl (fun content op => op.apply content) content := by
  induction ops generalizing calls content with
  | nil => rfl
  | cons op ops ih =>
    rw [callDriver] at h ⊢
    cases haccepts : accepts op with
    | false => simp [haccepts] at h
    | true =>
      cases hfault : faults calls with
      | none =>
        simp only [haccepts, hfault, ↓reduceIte] at h ⊢
        exact ih h
      | some moved => simp [haccepts, hfault] at h

theorem callDriver_noFaults {ops : List Op} (h : ∀ op ∈ ops, accepts op = true) (calls : Nat)
    (content : Memory) : (callDriver noFaults calls ops content).2 = true := by
  induction ops generalizing calls content with
  | nil => rfl
  | cons op ops ih =>
    rw [callDriver, if_pos (h op List.mem_cons_self)]
    exact ih (fun o ho => h o (List.mem_cons_of_mem _ ho)) _ _

/-! A write ANDs its bytes into the flash, page by page. -/

variable {x : UInt32}

theorem covers_split {a : UInt32} {n k : Nat} (hk : k ≤ n) (hn : n < 2 ^ 32) :
    Covers a n x ↔ Covers a k x ∨ Covers (a + UInt32.ofNat k) (n - k) x := by
  have hofn : (UInt32.ofNat k).toNat = k := UInt32.toNat_ofNat_of_lt' (by simp [UInt32.size]; omega)
  have hsub : x - (a + UInt32.ofNat k) = x - a - UInt32.ofNat k := by grind
  have hlt := (x - a).toNat_lt
  unfold Covers
  rw [hsub]
  generalize x - a = d at hlt ⊢
  rw [UInt32.toNat_sub, hofn]
  omega

theorem not_covers_both {a : UInt32} {n k : Nat} (hk : k ≤ n) (hn : n < 2 ^ 32)
    (hfirst : Covers a k x) : ¬Covers (a + UInt32.ofNat k) (n - k) x := by
  have hofn : (UInt32.ofNat k).toNat = k := UInt32.toNat_ofNat_of_lt' (by simp [UInt32.size]; omega)
  have hsub : x - (a + UInt32.ofNat k) = x - a - UInt32.ofNat k := by grind
  have hlt := (x - a).toNat_lt
  unfold Covers at hfirst ⊢
  rw [hsub]
  generalize x - a = d at hlt hfirst ⊢
  rw [UInt32.toNat_sub, hofn]
  omega

theorem programChunk_apply (data : Memory) {base consumed page pageOffset : UInt32}
    (chunk : Nat) (hplace : base + consumed = page + pageOffset)
    (hchunk : pageOffset.toNat + chunk ≤ 256) (content : Memory) (x : UInt32) :
    (Op.program page 256 (erasedPage data pageOffset consumed chunk)).apply content x =
      if Covers (base + consumed) chunk x then content x &&& data (x - base) else content x := by
  have hsub : x - (base + consumed) = x - page - pageOffset := by
    rw [hplace]
    grind
  have hlt := (x - page).toNat_lt
  have haddr : consumed + (x - page - pageOffset) = x - base := by grind
  simp only [Op.apply, erasedPage]
  by_cases hcovers : Covers (base + consumed) chunk x
  · have hcovers' : Covers pageOffset chunk (x - page) := by
      unfold Covers at hcovers ⊢
      rwa [← hsub]
    have hpage : Covers page 256 x := by
      unfold Covers at hcovers' ⊢
      generalize x - page = d at hlt hcovers' ⊢
      have hd := UInt32.toNat_sub d pageOffset
      omega
    rw [if_pos hcovers, if_pos hpage, copy_of_covers hcovers', haddr]
  · have hcovers' : ¬Covers pageOffset chunk (x - page) := by
      unfold Covers at hcovers ⊢
      rwa [← hsub]
    rw [if_neg hcovers, copy_of_not_covers hcovers', UInt8.and_comm, ones_and, ite_self]

theorem chunk_toNat {len consumed pageOffset : UInt32} (hlt : consumed < len)
    (hoffset : pageOffset.toNat < 256) :
    (if len - consumed < kPageSize - pageOffset then len - consumed
      else kPageSize - pageOffset).toNat =
      min (len.toNat - consumed.toNat) (256 - pageOffset.toNat) := by
  rw [UInt32.lt_iff_toNat_lt] at hlt
  have hpage : kPageSize.toNat = 256 := rfl
  have hrest : (len - consumed).toNat = len.toNat - consumed.toNat :=
    UInt32.toNat_sub_of_le _ _ (UInt32.le_iff_toNat_le.mpr (by omega))
  have hroom : (kPageSize - pageOffset).toNat = 256 - pageOffset.toNat := by
    rw [UInt32.toNat_sub_of_le _ _ (UInt32.le_iff_toNat_le.mpr (by omega)), hpage]
  rw [apply_ite UInt32.toNat, hrest, hroom]
  simp only [UInt32.lt_iff_toNat_lt, hrest, hroom]
  split <;> omega

/-- What is left of a write ANDs its bytes into the range that is left. -/
theorem flashWriteLoop_and (data : Memory) (base len firstPageOffset : UInt32)
    (hfirst : firstPageOffset.toNat < 256) (fuel : Nat) (consumed page : UInt32)
    (hfuel : len.toNat ≤ consumed.toNat + fuel) (hconsumed : consumed.toNat ≤ len.toNat)
    (hplace : consumed < len →
      base + consumed = page + if consumed = 0 then firstPageOffset else 0)
    (content : Memory) (x : UInt32) :
    (flashWriteLoop data len firstPageOffset fuel consumed page).foldl
        (fun content op => op.apply content) content x =
      if Covers (base + consumed) (len.toNat - consumed.toNat) x then
        content x &&& data (x - base)
      else content x := by
  induction fuel generalizing consumed page content with
  | zero =>
    rw [if_neg]
    · rfl
    · unfold Covers
      omega
  | succ fuel ih =>
    rw [flashWriteLoop]
    by_cases hlt : consumed < len
    case neg =>
      rw [if_neg hlt, if_neg]
      · rfl
      · rw [UInt32.lt_iff_toNat_lt] at hlt
        unfold Covers
        omega
    have hoffset : (if consumed = 0 then firstPageOffset else 0).toNat < 256 := by
      split
      · exact hfirst
      · decide
    have hcell := chunk_toNat hlt hoffset
    have hpage := hplace hlt
    rw [if_pos hlt]
    generalize (if consumed = 0 then firstPageOffset else 0) = pageOffset at hoffset hcell hpage ⊢
    simp only
    generalize (if len - consumed < kPageSize - pageOffset then len - consumed
      else kPageSize - pageOffset) = chunk at hcell ⊢
    have hlen := len.toNat_lt
    rw [UInt32.lt_iff_toNat_lt] at hlt
    have hnext : (consumed + chunk).toNat = consumed.toNat + chunk.toNat := by
      rw [UInt32.toNat_add]
      omega
    rw [List.foldl_cons, ih (consumed + chunk) (page + kPageSize) (by omega) (by omega)]
    · have hprogram := programChunk_apply data chunk.toNat hpage (by omega) content x
      have hsize : kPageSize.toNat = 256 := rfl
      rw [hsize, hprogram]
      have hsplit := covers_split (a := base + consumed) (x := x)
        (n := len.toNat - consumed.toNat) (k := chunk.toNat) (by omega) (by omega)
      have hapart := not_covers_both (a := base + consumed) (x := x)
        (n := len.toNat - consumed.toNat) (k := chunk.toNat) (by omega) (by omega)
      rw [UInt32.ofNat_toNat, UInt32.add_assoc] at hsplit hapart
      rw [show len.toNat - (consumed + chunk).toNat =
        len.toNat - consumed.toNat - chunk.toNat by omega]
      by_cases hin : Covers (base + consumed) chunk.toNat x
      · rw [if_neg (hapart hin), if_pos hin, if_pos (hsplit.mpr (.inl hin))]
      · by_cases hrest : Covers (base + (consumed + chunk))
            (len.toNat - consumed.toNat - chunk.toNat) x
        · rw [if_pos hrest, if_neg hin, if_pos (hsplit.mpr (.inr hrest))]
        · rw [if_neg hrest, if_neg hin, if_neg fun h => (hsplit.mp h).elim hin hrest]
    · intro hmore
      rw [UInt32.lt_iff_toNat_lt] at hmore
      have hsome : consumed + chunk ≠ 0 := by
        intro hzero
        rw [hzero] at hnext
        simp only [UInt32.toNat_zero] at hnext
        omega
      have hend : pageOffset + chunk = kPageSize := by
        apply UInt32.toNat.inj
        have hsize : kPageSize.toNat = 256 := rfl
        rw [UInt32.toNat_add]
        omega
      rw [if_neg hsome, UInt32.add_zero, ← UInt32.add_assoc, hpage, UInt32.add_assoc, hend]

theorem flashWriteErasedBytes_and (base : UInt32) (data : Memory) (len : UInt32)
    (content : Memory) (x : UInt32) :
    (flashWriteErasedBytes base data len).foldl (fun content op => op.apply content) content x =
      if Covers base len.toNat x then content x &&& data (x - base) else content x := by
  have hoffset := pageOffset_toNat base
  have h := flashWriteLoop_and data base len (base - pageBase base) (by omega) len.toNat 0
    (pageBase base)
    (by simp) (by simp) (fun _ => by rw [if_pos rfl]; grind) content x
  rw [flashWriteErasedBytes, h, UInt32.add_zero]
  rfl

/-! Writes of several ranges. -/

/-- The calls of one `flash_write_erased_bytes`. -/
def writeOps (q : Patch) : List Op :=
  flashWriteErasedBytes q.offset (ofBytes q.bytes) (UInt32.ofNat q.bytes.length)

/-- Writes one after the other, up to the first that fails. -/
def writeRanges (faults : Faults) (writes : List Patch) (content : Memory) : Memory × Bool :=
  callDriver faults 0 (writes.flatMap writeOps) content

/-- The range ends where the addresses do, or before. -/
def InSpace (q : Patch) : Prop := q.offset.toNat + q.bytes.length < 2 ^ 32

/-- No two of the ranges share a byte. -/
def Disjoint (writes : List Patch) : Prop :=
  writes.Pairwise fun q r => ∀ x, ¬(q.Covers x ∧ r.Covers x)

variable {q : Patch}

theorem writeOps_apply (h : InSpace q) (content : Memory) (x : UInt32) :
    (writeOps q).foldl (fun content op => op.apply content) content x =
      if q.Covers x then content x &&& ofBytes q.bytes (x - q.offset) else content x := by
  unfold InSpace at h
  have hlen : (UInt32.ofNat q.bytes.length).toNat = q.bytes.length :=
    UInt32.toNat_ofNat_of_lt' (by simp [UInt32.size]; omega)
  rw [writeOps, flashWriteErasedBytes_and, hlen]
  rfl

variable {writes : List Patch}

theorem writes_apply_of_not_covers (hspace : ∀ q ∈ writes, InSpace q)
    (hx : ∀ q ∈ writes, ¬q.Covers x) (content : Memory) :
    (writes.flatMap writeOps).foldl (fun content op => op.apply content) content x = content x := by
  induction writes generalizing content with
  | nil => rfl
  | cons q writes ih =>
    rw [List.flatMap_cons, List.foldl_append,
      ih (fun r hr => hspace r (List.mem_cons_of_mem _ hr))
        (fun r hr => hx r (List.mem_cons_of_mem _ hr)),
      writeOps_apply (hspace q List.mem_cons_self), if_neg (hx q List.mem_cons_self)]

theorem writes_apply_of_covers (hspace : ∀ q ∈ writes, InSpace q) (hdisjoint : Disjoint writes)
    (hq : q ∈ writes) (hx : q.Covers x) (content : Memory) :
    (writes.flatMap writeOps).foldl (fun content op => op.apply content) content x =
      content x &&& ofBytes q.bytes (x - q.offset) := by
  induction writes generalizing content with
  | nil => cases hq
  | cons r writes ih =>
    have hspace' := fun p hp => hspace p (List.mem_cons_of_mem r hp)
    obtain ⟨happart, hdisjoint'⟩ := List.pairwise_cons.mp hdisjoint
    rw [List.flatMap_cons, List.foldl_append]
    cases List.mem_cons.mp hq with
    | inl heq =>
      rw [← heq] at happart ⊢
      rw [writes_apply_of_not_covers hspace' fun p hp hpx => happart p hp x ⟨hx, hpx⟩,
        writeOps_apply (by rw [heq]; exact hspace r List.mem_cons_self), if_pos hx]
    | inr hmem =>
      rw [ih hspace' hdisjoint' hmem, writeOps_apply (hspace r List.mem_cons_self),
        if_neg fun hrx => happart q hmem x ⟨hrx, hx⟩]

/-! Reading back. -/

theorem readPageOf_some {content page : Memory} {failed : Bool} {pageBase : UInt32}
    (h : readPageOf content failed pageBase = some page) (hx : x < kPageSize) :
    page x = content (pageBase + x) := by
  unfold readPageOf at h
  split at h
  · cases h
  · split at h
    · cases h
    · rw [← Option.some.inj h]
      exact if_pos hx

theorem driver_readsFrom (content : Memory) (fails : UInt32 → Bool) :
    ReadsFrom (driver content fails) content := by
  intro pos page hpage x hx
  exact readPageOf_some hpage hx

theorem readPageOf_window (content : Memory) {pos : UInt32}
    (hlow : kRuntimeDataBase.toNat ≤ pos.toNat) (hhigh : pos.toNat < kRuntimeDataEnd.toNat) :
    (readPageOf content false (pageBase pos)).isSome = true := by
  have hlow' : 0x200000 ≤ pos.toNat := hlow
  have hhigh' : pos.toNat < 0x244000 := hhigh
  have hpage := pageBase_toNat pos
  have haligned : pageBase pos % kPageSize = 0 := by
    apply UInt32.toNat.inj
    rw [UInt32.toNat_mod, hpage]
    change 2 ^ 8 * (pos.toNat / 2 ^ 8) % 256 = 0
    omega
  have hsafe : isSafeReadAddress (pageBase pos) = true := by
    unfold isSafeReadAddress
    simp only [Bool.and_eq_true, decide_eq_true_eq, UInt32.le_iff_toNat_le,
      UInt32.lt_iff_toNat_lt, hpage]
    change 0x200000 ≤ _ ∧ _ < 0x244000
    omega
  simp [readPageOf, haligned, hsafe]

theorem flashReadLoop_ends {flash : FlashDriver} (base size : UInt32)
    (hread : ∀ d : UInt32, d < size → (flash.readPage (pageBase (base + d))).isSome = true)
    (fuel : Nat) (copied : UInt32) (out : Memory) :
    (flashReadLoop flash base size fuel copied out).2 = true := by
  induction fuel generalizing copied out with
  | zero => rfl
  | succ fuel ih =>
    rw [flashReadLoop]
    by_cases hlt : copied < size
    · obtain ⟨page, hpage⟩ := Option.isSome_iff_exists.mp (hread copied hlt)
      rw [if_pos hlt]
      simp only [hpage]
      exact ih _ _
    · rw [if_neg hlt]

theorem flashReadBytes_driver (content : Memory) (fails : UInt32 → Bool) (base size : UInt32)
    (out : Memory) :
    ((flashReadBytes (driver content fails) base out size).2 = true →
      bytesAt (flashReadBytes (driver content fails) base out size).1 0 size.toNat =
        bytesAt content base size.toNat) ∧
    ((∀ page, fails page = false) → kRuntimeDataBase.toNat ≤ base.toNat →
      base.toNat + size.toNat ≤ kRuntimeDataEnd.toNat →
      (flashReadBytes (driver content fails) base out size).2 = true) := by
  constructor
  · intro hok
    rw [flashReadBytes_ok (driver_readsFrom content fails) hok, bytesAt_copy _ _ _ size.toNat_lt]
  · intro hfails hlow hhigh
    apply flashReadLoop_ends
    intro d hd
    rw [UInt32.lt_iff_toNat_lt] at hd
    have hend : kRuntimeDataEnd.toNat = 0x244000 := rfl
    have hsum : (base + d).toNat = base.toNat + d.toNat := by
      rw [UInt32.toNat_add]
      omega
    change (readPageOf content (fails _) (pageBase (base + d))).isSome = true
    rw [hfails]
    exact readPageOf_window content (by omega) (by omega)

/-- The programs of a write inside the window are all accepted. -/
theorem flashWriteLoop_accepts (data : Memory) {base len firstPageOffset : UInt32}
    (hlow : kRuntimeDataBase.toNat ≤ base.toNat)
    (hhigh : base.toNat + len.toNat ≤ kRuntimeDataEnd.toNat)
    (hfirst : firstPageOffset.toNat < 256) (fuel : Nat) (consumed page : UInt32)
    (hconsumed : consumed.toNat ≤ len.toNat)
    (hplace : consumed < len → page.toNat % 256 = 0 ∧
      base.toNat + consumed.toNat =
        page.toNat + (if consumed = 0 then firstPageOffset else 0).toNat) :
    ∀ op ∈ flashWriteLoop data len firstPageOffset fuel consumed page, accepts op = true := by
  induction fuel generalizing consumed page with
  | zero =>
    intro op hop
    cases hop
  | succ fuel ih =>
    rw [flashWriteLoop]
    by_cases hlt : consumed < len
    case neg =>
      rw [if_neg hlt]
      intro op hop
      cases hop
    have hoffset : (if consumed = 0 then firstPageOffset else 0).toNat < 256 := by
      split
      · exact hfirst
      · decide
    have hcell := chunk_toNat hlt hoffset
    obtain ⟨haligned, hpage⟩ := hplace hlt
    rw [if_pos hlt]
    generalize (if consumed = 0 then firstPageOffset else 0) = pageOffset at hoffset hcell hpage ⊢
    simp only
    generalize (if len - consumed < kPageSize - pageOffset then len - consumed
      else kPageSize - pageOffset) = chunk at hcell ⊢
    rw [UInt32.lt_iff_toNat_lt] at hlt
    have hbase : kRuntimeDataBase.toNat = 0x200000 := rfl
    have hend : kRuntimeDataEnd.toNat = 0x244000 := rfl
    have hsize : kPageSize.toNat = 256 := rfl
    have hnext : (consumed + chunk).toNat = consumed.toNat + chunk.toNat := by
      rw [UInt32.toNat_add]
      omega
    have hpage' : (page + kPageSize).toNat = page.toNat + 256 := by
      rw [UInt32.toNat_add]
      omega
    intro op hop
    cases hop with
    | head =>
      have hmod : page % kPageSize = 0 := by
        apply UInt32.toNat.inj
        rw [UInt32.toNat_mod]
        exact haligned
      have hsafe : isSafeWriteAddress page = true := by
        unfold isSafeWriteAddress
        simp only [Bool.and_eq_true, decide_eq_true_eq, UInt32.le_iff_toNat_le,
          UInt32.lt_iff_toNat_lt]
        omega
      simp [accepts, hmod, hsafe]
    | tail _ hop =>
      refine ih (consumed + chunk) (page + kPageSize) (by omega) ?_ op hop
      intro hmore
      rw [UInt32.lt_iff_toNat_lt] at hmore
      have hsome : consumed + chunk ≠ 0 := by
        intro hzero
        rw [hzero] at hnext
        simp only [UInt32.toNat_zero] at hnext
        omega
      rw [if_neg hsome, UInt32.toNat_zero]
      omega

theorem writeOps_accepts (hlow : kRuntimeDataBase.toNat ≤ q.offset.toNat)
    (hhigh : q.offset.toNat + q.bytes.length ≤ kRuntimeDataEnd.toNat) :
    ∀ op ∈ writeOps q, accepts op = true := by
  have hend : kRuntimeDataEnd.toNat = 0x244000 := rfl
  have hlen : (UInt32.ofNat q.bytes.length).toNat = q.bytes.length :=
    UInt32.toNat_ofNat_of_lt' (by simp [UInt32.size]; omega)
  have hoffset := pageOffset_toNat q.offset
  have hpage := pageBase_toNat q.offset
  apply flashWriteLoop_accepts _ hlow (by rw [hlen]; exact hhigh) (by omega) _ _ _ (by simp)
  intro _
  rw [if_pos rfl, UInt32.toNat_zero, hoffset, hpage]
  omega

/-- What the ranges say a cell of the area holds: the byte of the range it is in, or ones. -/
def written (writes : List Patch) : Memory := fun x =>
  match writes.find? fun q => q.Covers x with
  | some q => ofBytes q.bytes (x - q.offset)
  | none => 0xFF

theorem written_of_covers (hdisjoint : Disjoint writes) (hq : q ∈ writes) (hx : q.Covers x) :
    written writes x = ofBytes q.bytes (x - q.offset) := by
  induction writes with
  | nil => cases hq
  | cons r writes ih =>
    obtain ⟨happart, hdisjoint'⟩ := List.pairwise_cons.mp hdisjoint
    cases List.mem_cons.mp hq with
    | inl heq =>
      rw [heq] at hx ⊢
      simp [written, hx]
    | inr hmem =>
      have hr : ¬r.Covers x := fun hrx => happart q hmem x ⟨hrx, hx⟩
      have htail := ih hdisjoint' hmem
      unfold written at htail ⊢
      rw [List.find?_cons_of_neg (by simpa using hr)]
      exact htail

theorem written_of_not_covers (hx : ∀ q ∈ writes, ¬q.Covers x) : written writes x = 0xFF := by
  have hnone : (writes.find? fun q => q.Covers x) = none := by
    rw [List.find?_eq_none]
    intro q hq
    simpa using hx q hq
  simp [written, hnone]

theorem writes_apply_erased (hspace : ∀ q ∈ writes, InSpace q) (hdisjoint : Disjoint writes)
    {content : Memory} (herased : content x = 0xFF) :
    (writes.flatMap writeOps).foldl (fun content op => op.apply content) content x =
      written writes x := by
  by_cases hx : ∃ q ∈ writes, q.Covers x
  · obtain ⟨q, hq, hx⟩ := hx
    rw [writes_apply_of_covers hspace hdisjoint hq hx, herased, ones_and,
      written_of_covers hdisjoint hq hx]
  · have hx' : ∀ q ∈ writes, ¬q.Covers x := fun q hq h => hx ⟨q, hq, h⟩
    rw [writes_apply_of_not_covers hspace hx', herased, written_of_not_covers hx']

theorem bytesAt_written (hdisjoint : Disjoint writes) (hq : q ∈ writes) (hspace : InSpace q)
    {k n : Nat} (h : k + n ≤ q.bytes.length) :
    bytesAt (written writes) (q.offset + UInt32.ofNat k) n = (q.bytes.drop k).take n := by
  unfold InSpace at hspace
  refine List.ext_getElem? fun i => ?_
  by_cases hi : i < n
  · have hofn : (UInt32.ofNat (k + i)).toNat = k + i :=
      UInt32.toNat_ofNat_of_lt' (by simp [UInt32.size]; omega)
    have hsub : q.offset + UInt32.ofNat (k + i) - q.offset = UInt32.ofNat (k + i) := by
      rw [UInt32.add_comm, UInt32.add_sub_cancel]
    have hcovers : q.Covers (q.offset + UInt32.ofNat (k + i)) := by
      unfold Patch.Covers Covers
      rw [hsub, hofn]
      omega
    rw [bytesAt_getElem? _ _ _ _ hi, UInt32.add_assoc, ← UInt32.ofNat_add,
      written_of_covers hdisjoint hq hcovers, hsub, List.getElem?_take_of_lt hi,
      List.getElem?_drop]
    unfold ofBytes
    rw [hofn, List.getD_eq_getElem?_getD, List.getElem?_eq_getElem (by omega)]
    rfl
  · rw [List.getElem?_eq_none (by simpa using hi), List.getElem?_eq_none]
    rw [List.length_take]
    omega

/-- Disjoint ranges written in any order into an erased area are read back whole or in part, and
the bytes between them still read as erased. Without a timeout every call succeeds. -/
theorem flashRanges_readBack (area : UInt32) (size : Nat) (content : Memory) (writes : List Patch)
    (faults : Faults) (harea : area.toNat + size < 2 ^ 32)
    (herased : ∀ x, Covers area size x → content x = 0xFF)
    (hinside : ∀ q ∈ writes, area.toNat ≤ q.offset.toNat ∧
      q.offset.toNat + q.bytes.length ≤ area.toNat + size)
    (hdisjoint : Disjoint writes) :
    (kRuntimeDataBase.toNat ≤ area.toNat → area.toNat + size ≤ kRuntimeDataEnd.toNat →
      (writeRanges noFaults writes content).2 = true ∧
      ∀ base len out, area.toNat ≤ base.toNat → base.toNat + len.toNat ≤ area.toNat + size →
        (flashReadBytes (driver (writeRanges noFaults writes content).1 fun _ => false)
          base out len).2 = true) ∧
    ((writeRanges faults writes content).2 = true → ∀ fails base len out,
      area.toNat ≤ base.toNat → base.toNat + len.toNat ≤ area.toNat + size →
      (flashReadBytes (driver (writeRanges faults writes content).1 fails) base out len).2 = true →
      bytesAt (flashReadBytes (driver (writeRanges faults writes content).1 fails)
          base out len).1 0 len.toNat = bytesAt (written writes) base len.toNat ∧
      ∀ q ∈ writes, ∀ k, base = q.offset + UInt32.ofNat k → k + len.toNat ≤ q.bytes.length →
        bytesAt (flashReadBytes (driver (writeRanges faults writes content).1 fails)
          base out len).1 0 len.toNat = (q.bytes.drop k).take len.toNat) := by
  have hspace : ∀ q ∈ writes, InSpace q := by
    intro q hq
    have h := hinside q hq
    unfold InSpace
    omega
  constructor
  · intro hlow hhigh
    constructor
    · apply callDriver_noFaults
      intro op hop
      obtain ⟨q, hq, hop⟩ := List.mem_flatMap.mp hop
      have h := hinside q hq
      exact writeOps_accepts (by omega) (by omega) op hop
    · intro base len out hfrom hto
      exact (flashReadBytes_driver _ _ base len out).2 (fun _ => rfl) (by omega) (by omega)
  · intro hok fails base len out hfrom hto hread
    have hbytes : bytesAt (writeRanges faults writes content).1 base len.toNat =
        bytesAt (written writes) base len.toNat := by
      apply bytesAt_congr
      intro i hi
      have hofn : (UInt32.ofNat i).toNat = i :=
        UInt32.toNat_ofNat_of_lt' (by simp [UInt32.size]; omega)
      have hcovers : Covers area size (base + UInt32.ofNat i) := by
        rw [covers_iff (by omega), UInt32.toNat_add, hofn]
        omega
      rw [writeRanges, callDriver_ok hok,
        writes_apply_erased hspace hdisjoint (herased _ hcovers)]
    rw [(flashReadBytes_driver _ fails base len out).1 hread, hbytes]
    refine ⟨rfl, ?_⟩
    intro q hq k hbase hk
    rw [hbase]
    exact bytesAt_written hdisjoint hq (hspace q hq) hk

/-- Two ranges that share a page, the later one written first. -/
theorem flashRanges_readBack_two :
    let writes : List Patch := [⟨0x200102, [4, 5]⟩, ⟨0x2000FE, [1, 2, 3]⟩]
    let read := flashReadBytes
      (driver (writeRanges noFaults writes fun _ => 0xFF).1 fun _ => false) 0x2000FE (fun _ => 0) 6
    read.2 = true ∧ bytesAt read.1 0 6 = [1, 2, 3, 0xFF, 4, 5] := by
  have hdisjoint : Disjoint [⟨0x200102, [4, 5]⟩, ⟨0x2000FE, [1, 2, 3]⟩] := by
    refine List.pairwise_pair.mpr fun x h => ?_
    obtain ⟨hfirst, hsecond⟩ := h
    have hfirst' := (covers_iff (a := 0x200102) (n := 2) (by decide)).mp hfirst
    have hsecond' := (covers_iff (a := 0x2000FE) (n := 3) (by decide)).mp hsecond
    have h1 : (0x200102 : UInt32).toNat = 0x200102 := rfl
    have h2 : (0x2000FE : UInt32).toNat = 0x2000FE := rfl
    omega
  have h := flashRanges_readBack 0x200000 4096 (fun _ => 0xFF)
    [⟨0x200102, [4, 5]⟩, ⟨0x2000FE, [1, 2, 3]⟩] noFaults (by decide) (fun _ _ => rfl)
    (by decide) hdisjoint
  obtain ⟨hwrites, hreads⟩ := h.1 (by decide) (by decide)
  have hread := hreads 0x2000FE 6 (fun _ => 0) (by decide) (by decide)
  refine ⟨hread, ?_⟩
  have hbytes := (h.2 hwrites (fun _ => false) 0x2000FE 6 (fun _ => 0) (by decide) (by decide)
    hread).1
  rw [show (6 : UInt32).toNat = 6 from rfl] at hbytes
  rw [hbytes]
  decide

end NodeNet.FlashRanges

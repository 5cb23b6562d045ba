import NodeNet.Core.SnapshotSound
import NodeNet.LinkSafety
import NodeNet.PublishedMap

/-! What a refresh of the runtime map leaves of a running program. -/
namespace NodeNet.Core
open NodeNet.Bytes NodeNet.Machine NodeNet.Catalog NodeNet.Publisher NodeNet.Slot
open NodeNet.ObjectFile NodeNet.Linker NodeNet.Loader

/-- A relocation of the slot's object names the byte. Only a relocation table that lies past the
object's end can name other bytes than the snapshot's own relocations. -/
def OperandByte (m : SlotMemory) (x : UInt32) : Prop :=
  ∃ file : Memory, bytesAt file 0 m.snapshotHeader.objectSize.toNat = snapshotBytes m ∧
    RelocatedByte file x

/-- The program starts over as after a load: headers and manifest are those of the linked object. -/
structure StartsOver (slotId : UInt16) (l : LoadedProgram) (m m' : SlotMemory) : Prop where
  linkedHeader : m'.linkedHeader = loadedLinkedHeader slotId l
  manifest : m'.manifest = loadedManifest slotId l
  snapshotHeader : m'.snapshotHeader = loadedSnapshotHeader slotId m.snapshotHeader.objectSize
    (checksum32 m.snapshotData 0 m.snapshotHeader.objectSize)
  stack : m'.stack = fun _ => 0
  timers : m'.timers = fun _ => 0
  params : m'.params = fun _ => 0
  scratch : m'.scratch = fun _ => 0
  status : m'.control.status = kPlcSlotStatusLoadedV1
  pc : m'.control.pc = m'.linkedHeader.entryOffset
  cycleCounter : m'.control.cycleCounter = 0
  faultCode : m'.control.faultCode = 0
  faultInfo : m'.control.faultInfo = 0
  snapshotData : m'.snapshotData = m.snapshotData

/-- The slot is linked again from its snapshot when its turn comes. -/
structure ReloadDue (s : LoaderState) (slotId : UInt16) : Prop where
  loaded : plcControlBlockLoaded (s.slots slotId).control slotId = true
  valid : objectSnapshotHeaderValid (s.slots slotId).snapshotHeader slotId = true
  stale : plcSlotManifestRuntimeMapOk s slotId = false

/-- The loader takes the snapshot, and every symbol of it resolves with its type. -/
structure Resolvable (s : LoaderState) (slotId : UInt16) : Prop where
  admitted : RamAdmitted slotId (s.slots slotId).snapshotData
    (s.slots slotId).snapshotHeader.objectSize
  declares : (ramDeclare s slotId (s.slots slotId).snapshotData).2 = true
  links : RamLinks s slotId (s.slots slotId).snapshotData

/-- A refresh changes point operands and starts the program over. -/
structure Relinked (s s' : LoaderState) (slotId : UInt16) : Prop where
  others : ∀ j, j ≠ slotId → s'.slots j = s.slots j
  code : ∀ x, ¬OperandByte (s.slots slotId) x →
    (s'.slots slotId).linkedCode x = (s.slots slotId).linkedCode x
  paused : plcSlotPaused (s'.slots slotId).control = plcSlotPaused (s.slots slotId).control
  rest : s'.slots slotId =
      { s.slots slotId with linkedCode := (s'.slots slotId).linkedCode } ∨
    ReloadDue s slotId ∧ StartsOver slotId (ramProgram s slotId (s.slots slotId).snapshotData)
      (s.slots slotId) (s'.slots slotId)
  kept : ¬ReloadDue s slotId → s' = s
  restarted : ReloadDue s slotId → Resolvable s slotId →
    StartsOver slotId (ramProgram s slotId (s.slots slotId).snapshotData) (s.slots slotId)
      (s'.slots slotId)

variable {s : LoaderState} {slotId : UInt16}

theorem same_byte {file data : Memory} {size : UInt32}
    (h : bytesAt file 0 size.toNat = bytesAt data 0 size.toNat) {d : UInt32} (hd : d < size) :
    file d = data d := by
  rw [UInt32.lt_iff_toNat_lt] at hd
  have hget := congrArg (fun bs => bs[d.toNat]?) h
  rw [bytesAt_getElem? _ _ _ _ hd, bytesAt_getElem? _ _ _ _ hd, UInt32.ofNat_toNat,
    UInt32.zero_add] at hget
  exact Option.some.inj hget

theorem relinked_code {file data : Memory} {size : UInt32} {x : UInt32}
    (hold : LinkedFrom slotId file size (s.slots slotId).linkedCode)
    (hbytes : bytesAt file 0 size.toNat = bytesAt data 0 size.toNat) (hfile : ¬RelocatedByte file x)
    (hdata : ¬RelocatedByte data x) : ramCode s slotId data x = (s.slots slotId).linkedCode x := by
  obtain ⟨hadmitted, s', hcode⟩ := hold
  have hlow := UInt32.le_iff_toNat_le.mp hadmitted.checks.header_fits
  rw [show headerSize.toNat = 52 from rfl] at hlow
  have hheader : readHeader file = readHeader data :=
    readHeader_congr fun d hd => same_byte hbytes (UInt32.lt_iff_toNat_lt.mpr (by omega))
  rw [ramCode_of_not_relocated hdata, ← hheader]
  by_cases hx : Covers 0 (readHeader file).codeSize.toNat x
  case neg => rw [copy_of_not_covers hx]
  rw [copy_of_covers hx, hcode, ramCode_of_not_relocated hfile, copy_of_covers hx]
  have hinside : headerSize + (0 + (x - 0)) < size := by
    have htotal := UInt32.le_iff_toNat_le.mp hadmitted.checks.total_le
    have hsections := UInt32.le_iff_toNat_le.mp hadmitted.checks.code
    have hsmall := codeSize_lt hadmitted.slot hadmitted.fits
    rw [covers_zero_iff] at hx
    rw [UInt32.toNat_add, show headerSize.toNat = 52 from rfl] at hsections
    rw [UInt32.lt_iff_toNat_lt, UInt32.sub_zero, UInt32.zero_add, UInt32.toNat_add,
      show headerSize.toNat = 52 from rfl]
    omega
  exact (same_byte hbytes hinside).symm

/-- A reload links the slot's code again, or gives up on the way. -/
theorem reloadSlot_cases (hslot : slotId < kPlcSlotCountV1)
    (hvalid : objectSnapshotHeaderValid (s.slots slotId).snapshotHeader slotId = true) :
    Resolvable s slotId ∧ (reloadSlot s slotId).slots slotId =
        reloaded (s.slots slotId) slotId (ramCode s slotId (s.slots slotId).snapshotData)
          (ramProgram s slotId (s.slots slotId).snapshotData) ∨
      ¬Resolvable s slotId ∧ ((reloadSlot s slotId).slots slotId = s.slots slotId ∨
        (reloadSlot s slotId).slots slotId = { s.slots slotId with
          linkedCode := ramCode s slotId (s.slots slotId).snapshotData }) := by
  rw [reloadSlot]
  dsimp only
  by_cases hadm : RamAdmitted slotId (s.slots slotId).snapshotData
    (s.slots slotId).snapshotHeader.objectSize
  case neg =>
    obtain ⟨hstate, hstatus⟩ := ram_refused (s := s) hadm
    rw [if_pos hstatus, hstate]
    exact .inr ⟨fun h => hadm h.admitted, .inl rfl⟩
  obtain ⟨hundeclared, hunlinked, hlinked⟩ := ram_admitted (s := s) hadm
  cases hdeclares : (ramDeclare s slotId (s.slots slotId).snapshotData).2 with
  | false =>
    obtain ⟨hstate, hstatus⟩ := hundeclared hdeclares
    rw [if_pos hstatus, hstate, ramDeclare_slots]
    refine .inr ⟨fun h => ?_, .inl rfl⟩
    rw [h.declares] at hdeclares
    cases hdeclares
  | true =>
    by_cases hlinks : RamLinks s slotId (s.slots slotId).snapshotData
    case neg =>
      obtain ⟨hstate, hstatus⟩ := hunlinked hdeclares hlinks
      rw [if_pos hstatus, hstate, setCode_slot, ramDeclare_slots]
      exact .inr ⟨fun h => hlinks h.links, .inr rfl⟩
    obtain ⟨hstate, hstatus⟩ := hlinked hdeclares hlinks
    have hfits := snapshotFits_of_valid hslot hvalid
    have hself := congrArg (·.slots slotId) hstate
    rw [updateSlot_self, ramInstalled_slot, writeObjectFileSnapshot_of_fits hfits] at hself
    have hmagic : ((loadObjectFileIntoSlot s slotId (s.slots slotId).snapshotData
        (s.slots slotId).snapshotHeader.objectSize).1.slots slotId).control =
        loadedControlBlock slotId (ramProgram s slotId (s.slots slotId).snapshotData) := by
      rw [hself]
      rfl
    refine .inl ⟨⟨hadm, hdeclares, hlinks⟩, ?_⟩
    rw [if_neg (fun h => h (hstatus.mpr hfits)), hmagic, if_pos ⟨rfl, rfl⟩, updateControl_self,
      hself]
    simp only [withSnapshot, reloaded, SlotMemory.writeLoadedSlotMetadata, Bool.not_not, copy_self]

theorem reloaded_startsOver (m : SlotMemory) (slotId : UInt16) (code : Memory) (l : LoadedProgram) :
    StartsOver slotId l m (reloaded m slotId code l) :=
  ⟨rfl, rfl, rfl, rfl, rfl, rfl, rfl, rfl, rfl, rfl, rfl, rfl, rfl⟩

theorem refresh_of_not_due (h : ¬ReloadDue s slotId) :
    refreshMirrorProgramRuntimeMap s slotId = s := by
  rw [refreshMirrorProgramRuntimeMap]
  by_cases hstale : plcSlotManifestRuntimeMapOk s slotId = true
  · rw [if_pos hstale]
  by_cases hloaded : plcControlBlockLoaded (s.slots slotId).control slotId = true
  case neg => simp [hstale, hloaded]
  by_cases hvalid : objectSnapshotHeaderValid (s.slots slotId).snapshotHeader slotId = true
  case neg => simp [hvalid]
  exact absurd ⟨hloaded, hvalid, Bool.eq_false_iff.mpr hstale⟩ h

theorem refresh_of_due (h : ReloadDue s slotId) :
    refreshMirrorProgramRuntimeMap s slotId = reloadSlot s slotId := by
  simp [refreshMirrorProgramRuntimeMap, h.loaded, h.valid, h.stale]

theorem relinked_self (h : ¬ReloadDue s slotId) : Relinked s s slotId where
  others _ _ := rfl
  code _ _ := rfl
  paused := rfl
  rest := .inl rfl
  kept _ := rfl
  restarted hdue := absurd hdue h

/-- One refresh of one slot whose snapshot is sound. -/
theorem refresh_relinked (hslot : slotId < kPlcSlotCountV1)
    (h : SnapshotSound slotId (s.slots slotId)) :
    Relinked s (refreshMirrorProgramRuntimeMap s slotId) slotId := by
  by_cases hdue : ReloadDue s slotId
  case neg =>
    rw [refresh_of_not_due hdue]
    exact relinked_self hdue
  rw [refresh_of_due hdue]
  have hcode : ∀ x, ¬OperandByte (s.slots slotId) x →
      ramCode s slotId (s.slots slotId).snapshotData x = (s.slots slotId).linkedCode x := by
    intro x hx
    obtain ⟨file, size, hbytes, hlinked⟩ := h.linked hdue.valid hdue.loaded
    have hsize : size = (s.slots slotId).snapshotHeader.objectSize := by
      have hlength := congrArg List.length hbytes
      rw [snapshotBytes, bytesAt_length, bytesAt_length] at hlength
      exact UInt32.toNat_inj.mp hlength
    rw [hsize] at hbytes hlinked
    exact relinked_code hlinked hbytes (fun hfile => hx ⟨file, hbytes, hfile⟩)
      fun hdata => hx ⟨_, rfl, hdata⟩
  have hother : ∀ j, j ≠ slotId → (reloadSlot s slotId).slots j = s.slots j :=
    fun j hj => reloadSlot_of_ne s hj
  cases reloadSlot_cases hslot hdue.valid with
  | inl hdone =>
    obtain ⟨_, hslots⟩ := hdone
    refine ⟨hother, ?_, ?_, .inr ⟨hdue, ?_⟩, fun hnot => absurd hdue hnot, fun _ _ => ?_⟩
    · rw [hslots]
      exact hcode
    · rw [hslots]
      exact plcSlotPaused_setPaused _ _
    · rw [hslots]
      exact reloaded_startsOver ..
    · rw [hslots]
      exact reloaded_startsOver ..
  | inr hfailed =>
    obtain ⟨hnot, hkept | hslots⟩ := hfailed
    · refine ⟨hother, ?_, ?_, .inl ?_, fun hnot => absurd hdue hnot, fun _ h => absurd h hnot⟩
      all_goals rw [hkept]
      exact fun _ _ => rfl
    · refine ⟨hother, ?_, ?_, .inl ?_, fun hnot => absurd hdue hnot, fun _ h => absurd h hnot⟩
      all_goals rw [hslots]
      exact hcode

/-- The regions of a slot that its program writes while it runs. -/
structure ProgramData where
  stack : Memory
  timers : Memory
  params : Memory
  scratch : Memory

def withData (m : SlotMemory) (d : ProgramData) : SlotMemory :=
  { m with stack := d.stack, timers := d.timers, params := d.params, scratch := d.scratch }

/-- The loader's state when a refresh comes to a slot: the catalog has changed, the new map has been
published, and the programs have run. -/
def changed (s : LoaderState) (catalog : PointCatalog) (publisher : PlcRuntimePublisherV1)
    (data : UInt16 → ProgramData) : LoaderState :=
  { s with
    catalog := catalog
    publisher := publisher
    slots := fun j => withData (s.slots j) (data j) }

/-- In every run whose commits write over no valid snapshot, and for every change of the catalog, a
refresh changes operands of the slot's code at most, and a slot that is linked again starts over. -/
theorem refresh_restarts (s : NodeNetCore) (mem : LoaderState) (staging : Memory)
    (unreadable : UInt32 → Bool) (es : List BoardEvent)
    (h : Along boardNext CommitsSpare (s.reboot mem staging unreadable).state es)
    (catalog : PointCatalog) (publisher : PlcRuntimePublisherV1) (data : UInt16 → ProgramData)
    (slotId : UInt16) (hslot : slotId < kPlcSlotCountV1) :
    let t := changed (run boardNext (s.reboot mem staging unreadable).state es).mem catalog
      publisher data
    Relinked t (refreshMirrorProgramRuntimeMap t slotId) slotId := by
  have hsound := snapshots_sound s mem staging unreadable es h slotId hslot
  exact refresh_relinked hslot (hsound.congr rfl (fun _ => rfl) rfl rfl)

/-- What stays of a running slot when its relinking is transparent to it. -/
structure Transparent (m m' : SlotMemory) : Prop where
  timers : m'.timers = m.timers
  cycleCounter : m'.control.cycleCounter = m.control.cycleCounter
  paused : plcSlotPaused m'.control = plcSlotPaused m.control
  faultCode : m'.control.faultCode = m.control.faultCode
  faultInfo : m'.control.faultInfo = m.control.faultInfo

/-- An object whose code is one `HALT`. -/
def haltFile : List UInt8 :=
  [0x4F, 0x42, 0x4A, 0x31, 1, 0, 1, 0, 0, 0, 0, 0, 0x35, 0, 0, 0, 1, 0, 0, 0, 0, 0, 0, 0, 0, 0,
   0, 0, 0x35, 0, 0, 0, 0x35, 0, 0, 0, 0, 0, 0, 0, 0, 0, 0, 0, 0, 0, 0, 0, 0x1F, 0x5D, 0x0C, 0x05,
   0]

/-- The program is loaded, started and scanned, and then a point is added to the catalog. -/
def addedPoint : List Event :=
  volatileUpload 0 1 haltFile ++
    [.request (.slotCommand .start 0 true true) 0, .request (.engineEnabled true true) 0, .vmStart,
      .vmReport 0 ⟨2, 0, 1, 0, 0⟩, .vmFinish, .request (.upsert textPoint) 0]

def addedPointCore : NodeNetCore :=
  run boardNext (NodeNetCore.blank.reboot .boot (fun _ => 0) fun _ => false).state
    (addedPoint.map .core)

def programData (m : SlotMemory) : ProgramData := ⟨m.stack, m.timers, m.params, m.scratch⟩

/-- The slot when the refresh comes to it: `HALT` has written no data but its cycle counter. -/
def beforeRefresh : LoaderState :=
  changed addedPointCore.mem addedPointCore.mem.catalog addedPointCore.mem.publisher
    fun j => programData (addedPointCore.mem.slots j)

theorem addedPoint_relinked :
    Relinked beforeRefresh (refreshMirrorProgramRuntimeMap beforeRefresh 0) 0 := by
  have hinvalid : Along boardNext (fun s _ => objectSnapshotHeaderValid
      (s.mem.slots s.session.slotId).snapshotHeader s.session.slotId = false ∨
        s.session.active = false)
      (NodeNetCore.blank.reboot .boot (fun _ => 0) fun _ => false).state
      (addedPoint.map .core) := by decide +kernel
  refine refresh_restarts _ _ _ _ _ (hinvalid.mono ?_) _ _ _ 0 (by decide)
  intro s e h e' _ uploadId faults reply _ hcommit hvalid
  cases h with
  | inl h =>
    rw [h] at hvalid
    cases hvalid
  | inr h =>
    rw [commitError, h] at hcommit
    cases hcommit

theorem beforeRefresh_due : ReloadDue beforeRefresh 0 :=
  ⟨by decide +kernel, by decide +kernel, by decide +kernel⟩

theorem beforeRefresh_cycles :
    ((refreshMirrorProgramRuntimeMap beforeRefresh 0).slots 0).control.cycleCounter ≠
      (beforeRefresh.slots 0).control.cycleCounter := by decide +kernel

theorem beforeRefresh_resolvable : Resolvable beforeRefresh 0 := by
  have hcycles := beforeRefresh_cycles
  rw [refresh_of_due beforeRefresh_due] at hcycles
  obtain hdone | ⟨_, hkept | hlinked⟩ := reloadSlot_cases (by decide) beforeRefresh_due.valid
  · exact hdone.1
  · exact absurd (by rw [hkept]) hcycles
  · exact absurd (by rw [hlinked]) hcycles

theorem refresh_not_transparent :
    ReloadDue beforeRefresh 0 ∧ Resolvable beforeRefresh 0 ∧
      ¬Transparent (beforeRefresh.slots 0)
        ((refreshMirrorProgramRuntimeMap beforeRefresh 0).slots 0) := by
  refine ⟨beforeRefresh_due, beforeRefresh_resolvable, fun h => ?_⟩
  exact beforeRefresh_cycles h.cycleCounter

end NodeNet.Core

import NodeNet.LoadSpec

/-! What a load from RAM leaves in each slot's memory. -/
namespace NodeNet.Loader
open NodeNet.Bytes NodeNet.ObjectFile NodeNet.Slot

/-- The snapshot a successful load takes. -/
def withSnapshot (m : SlotMemory) (slotId : UInt16) (file : Memory) (size : UInt32) : SlotMemory :=
  { m with
    snapshotData := copy m.snapshotData 0 file 0 size.toNat
    snapshotHeader := loadedSnapshotHeader slotId size (checksum32 file 0 size) }

/-- The loader linked this code from the object, against the catalog of some state. -/
def LinkedFrom (slotId : UInt16) (file : Memory) (size : UInt32) (code : Memory) : Prop :=
  RamAdmitted slotId file size ∧ ∃ s : LoaderState, code = ramCode s slotId file

inductive AfterLoad (m : SlotMemory) (slotId : UInt16) (file : Memory) (size : UInt32) :
    PlcSlotLoadStatusV1 → SlotMemory → Prop where
  | refused {status : PlcSlotLoadStatusV1} (h : status ≠ .Ok) :
    AfterLoad m slotId file size status m
  | unlinked {status : PlcSlotLoadStatusV1} (h : status ≠ .Ok) (code : Memory)
    (hcode : LinkedFrom slotId file size code) :
    AfterLoad m slotId file size status { m with linkedCode := code }
  | unsaved {status : PlcSlotLoadStatusV1} (h : status ≠ .Ok) (hfits : ¬ SnapshotFits slotId size)
    (code : Memory) (hcode : LinkedFrom slotId file size code) (l : LoadedProgram) :
    AfterLoad m slotId file size status
      (SlotMemory.writeLoadedSlotMetadata { m with linkedCode := code } slotId l)
  | loaded (hfits : SnapshotFits slotId size) (code : Memory)
    (hcode : LinkedFrom slotId file size code) (l : LoadedProgram)
    (hsize : l.codeSize = (readHeader file).codeSize) :
    AfterLoad m slotId file size .Ok
      (withSnapshot (SlotMemory.writeLoadedSlotMetadata { m with linkedCode := code } slotId l)
        slotId file size)

theorem writeObjectFileSnapshot_of_fits {m : SlotMemory} {slotId : UInt16} {file : Memory}
    {size : UInt32} (h : SnapshotFits slotId size) :
    (m.writeObjectFileSnapshot slotId file size).1 = withSnapshot m slotId file size := by
  simp [SlotMemory.writeObjectFileSnapshot, h, withSnapshot]

theorem writeObjectFileSnapshot_of_not_fits {m : SlotMemory} {slotId : UInt16} {file : Memory}
    {size : UInt32} (h : ¬ SnapshotFits slotId size) :
    (m.writeObjectFileSnapshot slotId file size).1 = m := by
  simp [SlotMemory.writeObjectFileSnapshot, h]

theorem install_of_ne (s : LoaderState) {slotId j : UInt16} (h : j ≠ slotId) (code : Memory)
    (l : LoadedProgram) : (s.install slotId code l).slots j = s.slots j := by
  have h1 : (s.setCode slotId code).slots j = s.slots j := updateSlot_of_ne s h _
  have h2 := updateSlot_of_ne (s.setCode slotId code) h fun m => m.writeLoadedSlotMetadata slotId l
  rw [h1] at h2
  exact h2

theorem load_of_ne (s : LoaderState) {slotId j : UInt16} (h : j ≠ slotId) (file : Memory)
    (size : UInt32) : (loadObjectFileIntoSlot s slotId file size).1.slots j = s.slots j := by
  by_cases hadm : RamAdmitted slotId file size
  case neg => rw [(ram_refused (s := s) hadm).1]
  obtain ⟨hundeclared, hunlinked, hlinked⟩ := ram_admitted (s := s) hadm
  cases h2 : (ramDeclare s slotId file).2 with
  | false => rw [(hundeclared h2).1, ramDeclare_slots]
  | true =>
    by_cases hl : RamLinks s slotId file
    · rw [(hlinked h2 hl).1, updateSlot_of_ne _ h, ramInstalled, install_of_ne _ h,
        ramDeclare_slots]
    · rw [(hunlinked h2 hl).1]
      have hcode := updateSlot_of_ne (ramDeclare s slotId file).1 h
        fun m => { m with linkedCode := ramCode s slotId file }
      rw [ramDeclare_slots] at hcode
      exact hcode

theorem load_slot (s : LoaderState) (slotId : UInt16) (file : Memory) (size : UInt32) :
    AfterLoad (s.slots slotId) slotId file size
      (loadObjectFileIntoSlot s slotId file size).2.status
      ((loadObjectFileIntoSlot s slotId file size).1.slots slotId) := by
  by_cases hadm : RamAdmitted slotId file size
  case neg =>
    obtain ⟨hstate, hstatus⟩ := ram_refused (s := s) hadm
    rw [hstate]
    exact .refused hstatus
  have hcode : LinkedFrom slotId file size (ramCode s slotId file) := ⟨hadm, s, rfl⟩
  obtain ⟨hundeclared, hunlinked, hlinked⟩ := ram_admitted (s := s) hadm
  cases h2 : (ramDeclare s slotId file).2 with
  | false =>
    obtain ⟨hstate, hstatus⟩ := hundeclared h2
    rw [hstate, ramDeclare_slots]
    exact .refused hstatus
  | true =>
    by_cases hl : RamLinks s slotId file
    case neg =>
      obtain ⟨hstate, hstatus⟩ := hunlinked h2 hl
      rw [hstate, setCode_slot, ramDeclare_slots]
      exact .unlinked hstatus _ hcode
    obtain ⟨hstate, hstatus⟩ := hlinked h2 hl
    rw [hstate, updateSlot_self, ramInstalled_slot]
    by_cases hfits : SnapshotFits slotId size
    · rw [hstatus.mpr hfits, writeObjectFileSnapshot_of_fits hfits]
      exact .loaded hfits _ hcode _ rfl
    · rw [writeObjectFileSnapshot_of_not_fits hfits]
      exact .unsaved (fun hok => hfits (hstatus.mp hok)) hfits _ hcode _

end NodeNet.Loader

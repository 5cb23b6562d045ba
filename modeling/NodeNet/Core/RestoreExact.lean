import NodeNet.Core.Loop
import NodeNet.Core.SlotEffects
import NodeNet.RoundTrip

/-! The reboot: the slots come back from the flash package, their run state from the preferences. -/
namespace NodeNet.Core
open NodeNet.Bytes NodeNet.Machine NodeNet.Flash NodeNet.Slot NodeNet.Loader NodeNet.Package
open NodeNet.Nor NodeNet.ObjectFile

def runMaskBit (mask : UInt32) (slotId : UInt16) : Bool := mask &&& (1 <<< slotId.toUInt32) ≠ 0

/-- A loaded slot is paused or not as its bit says. -/
def applyRunBit (mask : UInt32) (mem : LoaderState) (slotId : UInt16) : LoaderState :=
  if plcControlBlockLoaded (mem.slots slotId).control slotId then
    updateControl mem slotId (setPaused · !runMaskBit mask slotId)
  else mem

def NodeNetCore.applyPersistedPlcRuntimeState (s : NodeNetCore) : NodeNetCore :=
  { s with
    mem := slotIds.foldl (applyRunBit s.preferences.plcSlotRunMask) s.mem
    engineEnabled := s.preferences.plcEngineEnabled }

/-- Both parts of the refresh at once. -/
def NodeNetCore.refreshIfNeeded (s : NodeNetCore) : NodeNetCore :=
  let s := s.enterRefresh
  if s.pendingPlcRuntimeMapRefresh && !s.engineBusy then s.runRefresh else s

/-- The state after a restore, and what was staged and loaded in it. -/
structure Restore where
  state : NodeNetCore
  present : List UInt16
  loads : List (UInt16 × List UInt8)
  restoredCount : UInt16

/-- Without a package the run state is not applied either. -/
def restorePersistedPlcSlots (s : NodeNetCore) (flash : FlashDriver) : Restore :=
  match readPackage flash s.staging with
  | (staging, none) => ⟨{ s with staging := staging }, [], [], 0⟩
  | (staging, some header) =>
    let restored := restoreSlots ⟨header, staging⟩ s.mem
    let s := NodeNetCore.refreshIfNeeded { s with staging := staging, mem := restored.mem }
    ⟨s.applyPersistedPlcRuntimeState, restored.present, restored.loads, restored.restoredCount⟩

/-- The flash driver over these cells; some pages may fail to read. -/
def driver (content : Memory) (unreadable : UInt32 → Bool) : FlashDriver :=
  ⟨fun a => if unreadable a then none else some fun x => content (a + x)⟩

/-- The core when restore begins: RAM as it happens to be, but for the volatile state, the flash
and the preferences as they were. -/
def NodeNetCore.reset (s : NodeNetCore) (mem : LoaderState) (staging : Memory) : NodeNetCore :=
  { NodeNetCore.start (clearVolatileState mem) staging s.flash 1 0 s.preferences with
    engineEnabled := false }

/-- A reboot, in which some pages of the flash may fail to read. -/
def NodeNetCore.reboot (s : NodeNetCore) (mem : LoaderState) (staging : Memory)
    (unreadable : UInt32 → Bool) : Restore :=
  restorePersistedPlcSlots (s.reset mem staging) (driver s.flash unreadable)

theorem driver_readsFrom (content : Memory) (unreadable : UInt32 → Bool) :
    ReadsFrom (driver content unreadable) content := by
  intro pos page hpage x _
  simp only [driver] at hpage
  split at hpage
  · cases hpage
  · cases hpage
    rfl

theorem driver_readsAs (content : Memory) : ReadsAs (driver content fun _ => false) content :=
  fun _ => ⟨_, rfl, fun _ _ => rfl⟩

/-- What can happen to the board over its boots. -/
inductive BoardEvent where
  | core (e : Event)
  | reboot (mem : LoaderState) (staging : Memory) (unreadable : UInt32 → Bool)

def boardNext (s : NodeNetCore) : BoardEvent → NodeNetCore
  | .core e => s.next e
  | .reboot mem staging unreadable => (s.reboot mem staging unreadable).state

theorem run_core (s : NodeNetCore) (es : List Event) :
    run boardNext s (es.map .core) = run NodeNetCore.next s es := by
  rw [run, List.foldl_map]
  rfl

/-! A reboot restores exactly the objects that the last save of the package stored. -/

def savedLoads (saved : UInt16 → Option (List UInt8)) : List (UInt16 × List UInt8) :=
  slotIds.filterMap fun k => (saved k).map (k, ·)

/-- Each saved object is staged and loaded, in both passes, and no other slot is touched. -/
structure RestoresExactly (saved : UInt16 → Option (List UInt8)) (mem : LoaderState)
    (r : Restore) : Prop where
  present : r.present = slotIds.filter fun k => (saved k).isSome
  loads : r.loads = savedLoads saved ++ savedLoads saved
  holds : ∀ k bytes, k < kPlcSlotCountV1 → saved k = some bytes →
    Holds (r.state.mem.slots k) k bytes
  other : ∀ k, k < kPlcSlotCountV1 → saved k = none → r.state.mem.slots k = mem.slots k

theorem filter_filterMap (saved : UInt16 → Option (List UInt8)) (slots : List UInt16) :
    (slots.filter fun k => (saved k).isSome).filterMap (fun k => (saved k).map (k, ·)) =
      slots.filterMap fun k => (saved k).map (k, ·) := by
  induction slots with
  | nil => rfl
  | cons k slots ih => cases h : saved k <;> simp [h, ih]

variable {s : LoaderState} {override : PackageOverride}

/-- The slots after a restore from a package that reads back. -/
theorem restoreSlots_saved {q : PackageImage} {payload : PackagePayload}
    (h : ReadsBack s override q payload) (hq : PackedUpTo s override 16 q) (mem : LoaderState) :
    (restoreSlots payload mem).present =
        (slotIds.filter fun k => (savedObject s override k).isSome) ∧
      (restoreSlots payload mem).loads =
        savedLoads (savedObject s override) ++ savedLoads (savedObject s override) ∧
      (∀ k bytes, k < kPlcSlotCountV1 → savedObject s override k = some bytes →
        Holds ((restoreSlots payload mem).mem.slots k) k bytes) ∧
      ∀ k, k < kPlcSlotCountV1 → savedObject s override k = none →
        (restoreSlots payload mem).mem.slots k = mem.slots k := by
  have hpresent : presentSlots payload mem slotIds =
      slotIds.filter fun k => (savedObject s override k).isSome := by
    refine List.filter_congr fun k hk => ?_
    have hlt := mem_slotIds.mp hk
    cases hsaved : savedObject s override k with
    | none => rw [stagePayload_absent h hq hlt hsaved]; rfl
    | some bytes => rw [(stagePayload_present h hq hlt hsaved _).1]; rfl
  have hstaged : ∀ k bytes, k < kPlcSlotCountV1 → savedObject s override k = some bytes →
      Holds ((stageSlots payload mem slotIds).slots k) k bytes := by
    intro k bytes hk hsaved
    rw [stageSlots_of_mem payload slotIds_nodup (mem_slotIds.mpr hk)]
    exact (stagePayload_present h hq hk hsaved _).2
  have hmem : ∀ k ∈ presentSlots payload mem slotIds, k < kPlcSlotCountV1 ∧
      ∃ bytes, savedObject s override k = some bytes := by
    intro k hk
    rw [hpresent, List.mem_filter] at hk
    exact ⟨mem_slotIds.mp hk.1, Option.isSome_iff_exists.mp hk.2⟩
  have hfirst : Passes (savedObject s override) (stageSlots payload mem slotIds)
      (presentSlots payload mem slotIds) ⟨stageSlots payload mem slotIds, [], 0⟩
      (restorePass (stageSlots payload mem slotIds) (presentSlots payload mem slotIds)) :=
    restoreSlots_passes ⟨stageSlots payload mem slotIds, [], 0⟩ fun k hk => by
      obtain ⟨hlt, bytes, hsaved⟩ := hmem k hk
      exact ⟨hlt, bytes, hsaved, hstaged k bytes hlt hsaved⟩
  generalize hpass : restorePass (stageSlots payload mem slotIds)
    (presentSlots payload mem slotIds) = first at hfirst
  have hsync := syncPlcRuntimeDefinitions_slots first.mem
  have hsecond : Passes (savedObject s override) (syncPlcRuntimeDefinitions first.mem)
      (presentSlots payload mem slotIds) ⟨syncPlcRuntimeDefinitions first.mem, [], 0⟩
      (restorePass (syncPlcRuntimeDefinitions first.mem) (presentSlots payload mem slotIds)) :=
    restoreSlots_passes ⟨syncPlcRuntimeDefinitions first.mem, [], 0⟩ fun k hk => by
      obtain ⟨hlt, bytes, hsaved⟩ := hmem k hk
      change _ ∧ ∃ bytes, _ = _ ∧ Holds ((syncPlcRuntimeDefinitions first.mem).slots k) k bytes
      rw [hsync]
      exact ⟨hlt, bytes, hsaved, hfirst.holds k bytes hlt (hstaged k bytes hlt hsaved)⟩
  rw [restoreSlots]
  simp only [hpass]
  refine ⟨hpresent, ?_, fun k bytes hk hsaved => ?_, fun k hk hsaved => ?_⟩
  · rw [hfirst.loads, hsecond.loads, hpresent, filter_filterMap]
    rfl
  · refine hsecond.holds k bytes hk ?_
    rw [hsync]
    exact hfirst.holds k bytes hk (hstaged k bytes hk hsaved)
  · have hnot : k ∉ presentSlots payload mem slotIds := by
      intro hin
      obtain ⟨_, bytes, hsome⟩ := hmem k hin
      rw [hsaved] at hsome
      cases hsome
    rw [hsecond.other k hnot, hsync, hfirst.other k hnot,
      stageSlots_of_mem payload slotIds_nodup (mem_slotIds.mpr hk), stagePayload_absent h hq hk hsaved]

theorem refreshed_holds {m m' : SlotMemory} {slotId : UInt16} (hslot : slotId < kPlcSlotCountV1)
    (h : AfterRefresh m slotId m') {bytes : List UInt8} (hm : Holds m slotId bytes) :
    Holds m' slotId bytes := by
  cases h with
  | kept => exact hm
  | unlinked _ _ code _ => exact ⟨hm.valid, hm.bytes⟩
  | reloaded _ hvalid code _ l _ =>
    exact ⟨loadedSnapshotHeader_valid (snapshotFits_of_valid hslot hvalid) _, hm.bytes⟩

theorem refreshed_unloaded {m m' : SlotMemory} {slotId : UInt16} (h : AfterRefresh m slotId m')
    (hm : plcControlBlockLoaded m.control slotId = false) : m' = m := by
  cases h with
  | kept => rfl
  | unlinked hloaded _ _ _ => simp [plcControlBlockReloadable, hm] at hloaded
  | reloaded hloaded _ _ _ _ _ => simp [plcControlBlockReloadable, hm] at hloaded

theorem enterRefresh_mem (s : NodeNetCore) : s.enterRefresh.mem = s.mem := by
  rw [NodeNetCore.enterRefresh]
  split <;> rfl

theorem refreshIfNeeded_slot (s : NodeNetCore) (j : UInt16) :
    AfterRefresh (s.mem.slots j) j (s.refreshIfNeeded.mem.slots j) := by
  rw [NodeNetCore.refreshIfNeeded]
  split
  · have hafter := refreshSlots_slot slotIds_nodup (fun _ hk => mem_slotIds.mp hk)
      s.enterRefresh.mem j
    rw [runRefresh_mem]
    rw [enterRefresh_mem] at hafter ⊢
    exact hafter
  · rw [enterRefresh_mem]
    exact .kept

/-- The control block of a loaded slot once its bit was applied. -/
def runBitApplied (mask : UInt32) (m : SlotMemory) (slotId : UInt16) : SlotMemory :=
  if plcControlBlockLoaded m.control slotId then
    { m with control := setPaused m.control !runMaskBit mask slotId }
  else m

theorem applyRunBit_slot (mask : UInt32) (s : LoaderState) (slotId j : UInt16) :
    (applyRunBit mask s slotId).slots j =
      if j = slotId then runBitApplied mask (s.slots j) j else s.slots j := by
  rw [applyRunBit]
  by_cases hj : j = slotId
  · subst hj
    rw [if_pos rfl, runBitApplied]
    split
    · rw [updateControl_self]
    · rfl
  · rw [if_neg hj]
    split
    · exact updateControl_of_ne s hj _
    · rfl

theorem applyRunBits_slot (mask : UInt32) {slots : List UInt16} (hnodup : slots.Nodup)
    (s : LoaderState) (j : UInt16) :
    (slots.foldl (applyRunBit mask) s).slots j =
      if j ∈ slots then runBitApplied mask (s.slots j) j else s.slots j := by
  induction slots generalizing s with
  | nil => rfl
  | cons k slots ih =>
    obtain ⟨hk, hrest⟩ := List.nodup_cons.mp hnodup
    rw [List.foldl_cons, ih hrest, applyRunBit_slot]
    by_cases hj : j = k
    · subst hj
      simp [hk]
    · simp [hj]

theorem runBitApplied_holds {mask : UInt32} {m : SlotMemory} {slotId : UInt16} {bytes : List UInt8}
    (h : Holds m slotId bytes) : Holds (runBitApplied mask m slotId) slotId bytes := by
  rw [runBitApplied]
  split
  · exact ⟨h.valid, h.bytes⟩
  · exact h

/-- The core with the slots of the package, before the refresh. -/
def restoredCore (s : NodeNetCore) (payload : PackagePayload) : NodeNetCore :=
  { s with staging := payload.bytes, mem := (restoreSlots payload s.mem).mem }

/-- What a restore from this payload comes to. -/
def restored (s : NodeNetCore) (payload : PackagePayload) : Restore :=
  ⟨(restoredCore s payload).refreshIfNeeded.applyPersistedPlcRuntimeState,
    (restoreSlots payload s.mem).present, (restoreSlots payload s.mem).loads,
    (restoreSlots payload s.mem).restoredCount⟩

theorem restore_of_read {s : NodeNetCore} {flash : FlashDriver} {payload : PackagePayload}
    (h : readPackage flash s.staging = (payload.bytes, some payload.header)) :
    restorePersistedPlcSlots s flash = restored s payload := by
  rw [restorePersistedPlcSlots, h]
  rfl

/-- The core when restore begins. -/
structure FreshBoot (s : NodeNetCore) (mem : LoaderState) (staging : Memory)
    (boot : NodeNetCore) : Prop where
  mem : boot.mem = clearVolatileState mem
  staging : boot.staging = staging
  flash : boot.flash = s.flash
  preferences : boot.preferences = s.preferences
  session : boot.session = .reset
  erase : boot.pendingPlcErase = none
  autoLoad : boot.pendingPlcAutoLoad = none
  refresh : boot.pendingPlcRuntimeMapRefresh = false
  engineEnabled : boot.engineEnabled = false
  engineBusy : boot.engineBusy = false
  phase : boot.phase = .service

theorem reset_freshBoot (s : NodeNetCore) (mem : LoaderState) (staging : Memory) :
    FreshBoot s mem staging (s.reset mem staging) :=
  ⟨rfl, rfl, rfl, rfl, rfl, rfl, rfl, rfl, rfl, rfl, rfl⟩

theorem reboot_cases (s : NodeNetCore) (mem : LoaderState) (staging : Memory)
    (unreadable : UInt32 → Bool) : ∃ boot, FreshBoot s mem staging boot ∧
      ((∃ bytes, readPackage (driver s.flash unreadable) boot.staging = (bytes, none) ∧
          s.reboot mem staging unreadable = ⟨{ boot with staging := bytes }, [], [], 0⟩) ∨
        ∃ payload, readPackage (driver s.flash unreadable) boot.staging =
            (payload.bytes, some payload.header) ∧
          s.reboot mem staging unreadable = restored boot payload) := by
  have hfresh := reset_freshBoot s mem staging
  rw [NodeNetCore.reboot]
  generalize s.reset mem staging = boot at hfresh
  refine ⟨boot, hfresh, ?_⟩
  cases hread : readPackage (driver s.flash unreadable) boot.staging with
  | mk bytes header =>
    cases header with
    | none =>
      left
      rw [restorePersistedPlcSlots, hread]
      exact ⟨bytes, rfl, rfl⟩
    | some header => exact .inr ⟨⟨header, bytes⟩, rfl, restore_of_read hread⟩

theorem restoredCore_slots (s : NodeNetCore) (payload : PackagePayload) :
    (restoredCore s payload).mem.slots = (restoreSlots payload s.mem).mem.slots := rfl

theorem restored_slot (s : NodeNetCore) (payload : PackagePayload) {k : UInt16}
    (hk : k ∈ slotIds) :
    (restored s payload).state.mem.slots k =
      runBitApplied (restoredCore s payload).refreshIfNeeded.preferences.plcSlotRunMask
        ((restoredCore s payload).refreshIfNeeded.mem.slots k) k := by
  have happly := applyRunBits_slot
    (restoredCore s payload).refreshIfNeeded.preferences.plcSlotRunMask slotIds_nodup
    (restoredCore s payload).refreshIfNeeded.mem k
  rw [if_pos hk] at happly
  exact happly

theorem restored_holds (s : NodeNetCore) (payload : PackagePayload) {k : UInt16}
    (hk : k < kPlcSlotCountV1) {bytes : List UInt8}
    (h : Holds ((restoreSlots payload s.mem).mem.slots k) k bytes) :
    Holds ((restored s payload).state.mem.slots k) k bytes := by
  rw [restored_slot s payload (mem_slotIds.mpr hk)]
  rw [← restoredCore_slots] at h
  exact runBitApplied_holds (refreshed_holds hk (refreshIfNeeded_slot _ k) h)

theorem restored_unloaded (s : NodeNetCore) (payload : PackagePayload) {k : UInt16}
    (hk : k < kPlcSlotCountV1)
    (h : plcControlBlockLoaded ((restoreSlots payload s.mem).mem.slots k).control k = false) :
    (restored s payload).state.mem.slots k = (restoreSlots payload s.mem).mem.slots k := by
  rw [← restoredCore_slots] at h ⊢
  rw [restored_slot s payload (mem_slotIds.mpr hk),
    refreshed_unloaded (refreshIfNeeded_slot _ k) h, runBitApplied, h]
  rfl

theorem reads_saved {staging flash : Memory} {faults : Faults}
    (hok : (savePersistedPlcSlotsPackage s override staging flash faults).ok = true)
    (buffer : Memory) : ∃ q payload, PackedUpTo s override 16 q ∧ ReadsBack s override q payload ∧
      readPackage (driver (savePersistedPlcSlotsPackage s override staging flash faults).flash
        fun _ => false) buffer = (payload.bytes, some payload.header) := by
  obtain ⟨p, hbuilt, hflash⟩ := savePackage_flash hok
  obtain ⟨q, hq, rfl⟩ := buildPackage_ok hbuilt
  obtain ⟨payload, hread, hback⟩ := readPackage_saved hq
    (driver_readsAs (savePersistedPlcSlotsPackage s override staging flash faults).flash)
    hflash buffer
  exact ⟨q, payload, hq, hback, hread⟩

theorem reboot_reads {staging flash : Memory} {faults : Faults}
    (hok : (savePersistedPlcSlotsPackage s override staging flash faults).ok = true)
    (core : NodeNetCore) (mem : LoaderState) (buffer : Memory) :
    ∃ q payload boot, PackedUpTo s override 16 q ∧ ReadsBack s override q payload ∧
      boot.mem = clearVolatileState mem ∧
      (core.withPackage (savePersistedPlcSlotsPackage s override staging flash faults)).reboot
        mem buffer (fun _ => false) = restored boot payload := by
  obtain ⟨q, payload, hq, hback, hread⟩ := reads_saved hok buffer
  refine ⟨q, payload, _, hq, hback, ?_, by rw [NodeNetCore.reboot, restore_of_read hread]⟩
  rfl

theorem reboot_present {staging flash : Memory} {faults : Faults}
    (hok : (savePersistedPlcSlotsPackage s override staging flash faults).ok = true)
    (core : NodeNetCore) (mem : LoaderState) (buffer : Memory) :
    ((core.withPackage (savePersistedPlcSlotsPackage s override staging flash faults)).reboot
      mem buffer fun _ => false).present =
        slotIds.filter fun k => (savedObject s override k).isSome := by
  obtain ⟨q, payload, boot, hq, hback, -, hreboot⟩ := reboot_reads hok core mem buffer
  rw [hreboot]
  exact (restoreSlots_saved hback hq boot.mem).1

/-- After a save that succeeds, a reboot restores the saved objects and nothing else. -/
theorem save_restores_exactly (s : LoaderState) (override : PackageOverride)
    (staging flash : Memory) (faults : Faults)
    (hok : (savePersistedPlcSlotsPackage s override staging flash faults).ok = true)
    (core : NodeNetCore) (mem : LoaderState) (buffer : Memory) :
    RestoresExactly (savedObject s override) (clearVolatileState mem)
      ((core.withPackage (savePersistedPlcSlotsPackage s override staging flash faults)).reboot
        mem buffer fun _ => false) := by
  obtain ⟨q, payload, boot, hq, hback, hmem, hreboot⟩ := reboot_reads hok core mem buffer
  rw [hreboot]
  obtain ⟨hpresent, hloads, hholds, hother⟩ := restoreSlots_saved hback hq boot.mem
  refine ⟨hpresent, hloads, fun k bytes hk hsaved => ?_, fun k hk hsaved => ?_⟩
  · exact restored_holds boot payload hk (hholds k bytes hk hsaved)
  · have hslot := hother k hk hsaved
    have hzero : plcControlBlockLoaded (boot.mem.slots k).control k = false := by
      rw [hmem]
      rfl
    rw [← hslot] at hzero
    rw [restored_unloaded boot payload hk hzero, hslot, hmem]

/-- A board whose slot 3 holds a snapshot. -/
def oneSnapshot : LoaderState :=
  LoaderState.boot.updateSlot 3 fun m => { m with snapshotHeader := loadedSnapshotHeader 3 64 0 }

theorem oneSnapshot_built : ∃ p, buildPackage oneSnapshot ⟨kPlcSlotCountV1, none, 0⟩ (fun _ => 0xFF) =
    .ok p := by
  have hok : (match buildPackage oneSnapshot ⟨kPlcSlotCountV1, none, 0⟩ (fun _ => 0xFF) with
    | .ok _ => true
    | .error _ => false) = true := by decide +kernel
  split at hok
  · rename_i p hp
    exact ⟨p, hp⟩
  · cases hok

theorem oneSnapshot_restores :
    RestoresExactly (savedObject oneSnapshot ⟨kPlcSlotCountV1, none, 0⟩) (clearVolatileState .boot)
      ((NodeNetCore.blank.withPackage (savePersistedPlcSlotsPackage oneSnapshot
        ⟨kPlcSlotCountV1, none, 0⟩ (fun _ => 0xFF) (fun _ => 0xFF) noFaults)).reboot .boot
        (fun _ => 0) fun _ => false) :=
  save_restores_exactly _ _ _ _ _ (savePackage_noFaults oneSnapshot_built _) _ _ _

end NodeNet.Core

import NodeNet.Link.Flags

/-! What is under way between the processors, of either stream of chunks. -/
namespace NodeNet.Link
open NodeNet.Points NodeNet.Catalog

/-- A stream of chunks: which requests ask from where on, which responses bring a chunk, whether
the ESP32 waits for one, and its place. -/
structure Stream where
  asked : Request → Option Nat
  answers : Payload → Bool
  waiting : Esp → Bool
  place : Esp → Nat

namespace Stream

def asks (K : Stream) (request : Option Request) : Option Nat := request.bind K.asked

def brings (K : Stream) (response : Option Frame) : Bool :=
  (response.map fun f => K.answers f.payload).getD false

/-- What is under way was asked for by the ESP32 as it is now. -/
structure Current (K : Stream) (s : LinkState) : Prop where
  request : ∀ n, K.asks s.request = some n → K.waiting s.esp = true ∧ n = K.place s.esp ∧
    K.asks s.serving = none ∧ K.brings s.response = false
  serving : ∀ n, K.asks s.serving = some n → K.waiting s.esp = true ∧ n = K.place s.esp
  response : K.brings s.response = true → K.waiting s.esp = true

def Keeps (K : Stream) (s s' : Esp) : Prop :=
  K.waiting s = true → K.waiting s' = true ∧ K.place s' = K.place s

/-- A request is of another matter, or it is the only one of the stream. -/
def Sent (K : Stream) (s : Esp) (p : Esp × Option Request) : Prop :=
  (K.asks p.2 = none ∧ K.Keeps s p.1) ∨
    K.waiting s = false ∧ (K.asks p.2 = none ∨
      K.waiting p.1 = true ∧ K.asks p.2 = some (K.place p.1))

/-- What the ESP32 and the SoC do with a stream. -/
structure Lawful (K : Stream) : Prop where
  getCaps : K.asked .getCaps = none
  writeState : ∀ i t v, K.asked (.writeState i t v) = none
  caps : ∀ m n g q, K.answers (.caps m n g q) = false
  updates : ∀ q records, K.answers (.statesUpdates q records) = false
  service : ∀ p c w r, K.asked r = none → K.answers (service p c w r).1.payload = false
  touched : ∀ (s : Esp) records q w, K.Keeps s (s.touched records q w)
  sendCaps : ∀ s : Esp, K.Keeps s s.sendCapsRequest.1
  capsSeen : ∀ (s : Esp) m n g q, s.FlagsOk → s.capsResponseSeen = false →
    K.Keeps s (s.capsSeen m n g q)
  defsChunk : ∀ (s : Esp) chunk records, K.answers (.defsSnapshot chunk records) = true ∨
    K.Keeps s (s.defsChunkSeen chunk records)
  statesChunk : ∀ (s : Esp) chunk records, K.answers (.statesSnapshot chunk records) = true ∨
    K.Keeps s (s.statesChunkSeen chunk records)
  sendDefs : ∀ s : Esp, s.defsRequestSent = false → K.Sent s s.sendDefsSnapshotRequest
  sendStates : ∀ s : Esp, s.statesRequestSent = false →
    K.Sent s (s.sendStatesSnapshotRequest s.nextStatesStartIndex)
  refresh : ∀ s : Esp, s.statesRequestSent = false → K.Sent s s.refreshStates
  sendWrite : ∀ s : Esp, K.Keeps s s.sendWriteStateRequest.1
  wishes : ∀ (s : Esp) refresh write, K.Keeps s
    { s with refreshRequested := refresh, pendingWriteState := write }

/-- The answer to the caps request that counts is still to come. -/
def CapsUnderWay (K : Stream) (s : LinkState) : Prop :=
  s.request = some .getCaps ∨
    (s.serving = some .getCaps ∨ ∃ f m n g q, s.response = some f ∧ f.payload = .caps m n g q) ∧
      K.Current s

structure PipelineOk (K : Stream) (s : LinkState) : Prop where
  slots : ∀ f, s.response = some f → s.serving = none
  start : s.esp.resyncPending = false → s.esp.capsRequestSent = false →
    s.esp.capsResponseSeen = false → s.request = none ∧ s.serving = none
  caps : s.esp.capsRequestSent = true → K.CapsUnderWay s
  current : s.esp.capsResponseSeen = true → K.Current s
  write : ∀ r, s.esp.pendingWriteState = some r → K.asked r = none

variable {K : Stream} {s : LinkState}

theorem Current.of_none (hrequest : K.asks s.request = none) (hserving : K.asks s.serving = none)
    (hresponse : K.brings s.response = false) : K.Current s := by
  refine ⟨fun n h => ?_, fun n h => ?_, fun h => ?_⟩
  · rw [hrequest] at h
    cases h
  · rw [hserving] at h
    cases h
  · exact (Esp.false_of_flag h hresponse).elim

theorem Current.keeps (h : K.Current s) {esp : Esp} (hkeeps : K.Keeps s.esp esp) :
    K.Current { s with esp := esp } := by
  refine ⟨fun n hn => ?_, fun n hn => ?_, fun hr => ?_⟩
  · obtain ⟨hwaiting, hplace, hrest⟩ := h.request n hn
    exact ⟨(hkeeps hwaiting).1, hplace.trans (hkeeps hwaiting).2.symm, hrest⟩
  · obtain ⟨hwaiting, hplace⟩ := h.serving n hn
    exact ⟨(hkeeps hwaiting).1, hplace.trans (hkeeps hwaiting).2.symm⟩
  · exact (hkeeps (h.response hr)).1

theorem Current.dropped (h : K.Current s) : K.Current { s with response := none } :=
  ⟨fun n hn => ⟨(h.request n hn).1, (h.request n hn).2.1, (h.request n hn).2.2.1, rfl⟩, h.serving,
    fun hr => by cases hr⟩

theorem Current.none_of_not_waiting (h : K.Current s) (hwaiting : K.waiting s.esp = false) :
    K.asks s.serving = none ∧ K.brings s.response = false := by
  constructor
  · cases hserving : K.asks s.serving with
    | none => rfl
    | some n => exact (Esp.false_of_flag (h.serving n hserving).1 hwaiting).elim
  · cases hresponse : K.brings s.response with
    | false => rfl
    | true => exact (Esp.false_of_flag (h.response hresponse) hwaiting).elim

theorem Current.sent (h : K.Current s) (hnone : s.request = none) {p : Esp × Option Request}
    (hsent : K.Sent s.esp p) : K.Current (s.sent p) := by
  have hrequest : (s.sent p).request = p.2 := by simp [LinkState.sent, hnone]
  obtain ⟨hother, hkeeps⟩ | ⟨hwaiting, hsent⟩ := hsent
  · have hserving := (h.keeps hkeeps).serving
    have hresponse := (h.keeps hkeeps).response
    refine ⟨fun n hn => ?_, hserving, hresponse⟩
    rw [hrequest, hother] at hn
    cases hn
  · obtain ⟨hserving, hresponse⟩ := h.none_of_not_waiting hwaiting
    obtain hother | ⟨hwaits, hasks⟩ := hsent
    · exact .of_none (by rw [hrequest, hother]) hserving hresponse
    · refine ⟨fun n hn => ?_, fun n hn => ?_, fun hr => ?_⟩
      · rw [hrequest, hasks] at hn
        exact ⟨hwaits, (Option.some.inj hn).symm, hserving, hresponse⟩
      · rw [show K.asks (s.sent p).serving = none from hserving] at hn
        cases hn
      · exact (Esp.false_of_flag hr hresponse).elim

theorem PipelineOk.of_resync (hslots : ∀ f, s.response = some f → s.serving = none)
    (hpending : s.esp.resyncPending = true) (hasked : s.esp.capsRequestSent = false)
    (hseen : s.esp.capsResponseSeen = false) (hwrite : s.esp.pendingWriteState = none) :
    K.PipelineOk s where
  slots := hslots
  start h := (Esp.false_of_flag hpending h).elim
  caps h := (Esp.false_of_flag h hasked).elim
  current h := (Esp.false_of_flag h hseen).elim
  write r h := by
    rw [hwrite] at h
    cases h

theorem start_pipeline (K : Stream) : K.PipelineOk .start where
  slots f h := by cases h
  start _ _ _ := ⟨rfl, rfl⟩
  caps h := by cases h
  current h := by cases h
  write r h := by cases h

theorem PipelineOk.points (h : K.PipelineOk s) (c : PointCatalog) (p : ResolvePointState) :
    K.PipelineOk { s with catalog := c, resolvePointState := p } := by
  refine ⟨h.slots, h.start, fun hasked => ?_, fun hseen => ?_, h.write⟩
  · obtain hrequest | ⟨hunder, hcurrent⟩ := h.caps hasked
    · exact .inl hrequest
    · exact .inr ⟨hunder, hcurrent.request, hcurrent.serving, hcurrent.response⟩
  · exact ⟨(h.current hseen).request, (h.current hseen).serving, (h.current hseen).response⟩

theorem PipelineOk.sent (h : K.PipelineOk s) (hnone : s.request = none)
    {p : Esp × Option Request} (hsent : K.Sent s.esp p)
    (hpending : p.1.resyncPending = s.esp.resyncPending)
    (hasked : p.1.capsRequestSent = s.esp.capsRequestSent)
    (hseen : p.1.capsResponseSeen = s.esp.capsResponseSeen)
    (hwrite : p.1.pendingWriteState = s.esp.pendingWriteState)
    (hcaps : s.esp.resyncPending = false → s.esp.capsRequestSent = false →
      s.esp.capsResponseSeen = true) : K.PipelineOk (s.sent p) where
  slots := h.slots
  start h₁ h₂ h₃ := by
    have hcaps := hcaps (hpending.symm.trans h₁) (hasked.symm.trans h₂)
    exact (Esp.false_of_flag hcaps (hseen.symm.trans h₃)).elim
  caps h' := by
    obtain hrequest | ⟨hunder, hcurrent⟩ := h.caps (hasked.symm.trans h')
    · rw [hnone] at hrequest
      cases hrequest
    · exact .inr ⟨hunder, hcurrent.sent hnone hsent⟩
  current h' := (h.current (hseen.symm.trans h')).sent hnone hsent
  write r hr := h.write r (hwrite.symm.trans hr)

theorem asCaps_of_asked {esp : Esp} (hflags : esp.FlagsOk) (hasked : esp.capsRequestSent = true)
    {as : Esp.ReadAs} {rxReady responseReady : Bool}
    (hguard : esp.Guard rxReady responseReady (.read as)) : as = .caps := by
  have hnone := hflags.asked hasked
  cases as with
  | caps => rfl
  | writeState => exact (Esp.false_of_flag hguard.1 (hflags.noCaps hnone).2.2.2).elim
  | unsolicited => exact (Esp.false_of_flag (hguard.2.1 hasked) hnone).elim
  | defs => exact (Esp.false_of_flag hguard.1 (hflags.noCaps hnone).1).elim
  | states => exact (Esp.false_of_flag (hguard.2.2.2.1 hasked) hnone).elim

theorem Current.taken (h : K.Current s) (hserving : s.serving = none)
    (hbrings : K.brings s.response = true) (esp : Esp) :
    K.Current { s with esp := esp, response := none } := by
  have hrequest : K.asks s.request = none := by
    cases hasks : K.asks s.request with
    | none => rfl
    | some n => exact (Esp.false_of_flag hbrings (h.request n hasks).2.2.2).elim
  exact .of_none hrequest (by rw [hserving]; rfl) rfl

theorem PipelineOk.chunkSeen (h : K.PipelineOk s) (hflags : s.esp.FlagsOk) {f : Frame}
    (hf : s.response = some f) {esp : Esp} (hcaps : s.esp.capsResponseSeen = true)
    (hkeeps : K.answers f.payload = true ∨ K.Keeps s.esp esp)
    (hasked : esp.capsRequestSent = s.esp.capsRequestSent)
    (hseen : esp.capsResponseSeen = s.esp.capsResponseSeen)
    (hwrite : esp.pendingWriteState = s.esp.pendingWriteState) :
    K.PipelineOk { s with esp := esp, response := none } where
  slots f h' := by cases h'
  start _ _ h' := (Esp.false_of_flag hcaps (hseen.symm.trans h')).elim
  caps h' := (Esp.false_of_flag hcaps (hflags.asked (hasked.symm.trans h'))).elim
  current _ := by
    obtain hanswers | hkeeps := hkeeps
    · have hbrings : K.brings s.response = true := by
        rw [hf]
        exact hanswers
      exact (h.current hcaps).taken (h.slots f hf) hbrings esp
    · exact ((h.current hcaps).keeps hkeeps).dropped
  write r hr := h.write r (hwrite.symm.trans hr)

variable (hK : K.Lawful)
include hK

theorem PipelineOk.absorbed (h : K.PipelineOk s) (hflags : s.esp.FlagsOk) {f : Frame}
    (hf : s.response = some f) {as : Esp.ReadAs} {rxReady responseReady : Bool}
    (hguard : s.esp.Guard rxReady responseReady (.read as))
    (hquiet : Esp.awaited as f.payload = false) (records : List StateRecord) (sequence : UInt32)
    (keepsWrite : Bool) :
    K.PipelineOk
      { s with esp := s.esp.touched records sequence keepsWrite, response := none } where
  slots f h' := by cases h'
  start := h.start
  caps hasked := by
    obtain hrequest | ⟨hserving | ⟨f', m, n, g, q, hf', hcaps⟩, -⟩ := h.caps hasked
    · exact .inl hrequest
    · rw [h.slots f hf] at hserving
      cases hserving
    · rw [hf] at hf'
      cases hf'
      rw [asCaps_of_asked hflags hasked hguard, hcaps] at hquiet
      cases hquiet
  current hseen := ((h.current hseen).keeps (hK.touched s.esp _ _ _)).dropped
  write r hr := by
    cases keepsWrite with
    | true => exact h.write r hr
    | false => cases hr

theorem PipelineOk.capsSeen (h : K.PipelineOk s) (hflags : s.esp.FlagsOk) {f : Frame}
    (hf : s.response = some f) (hasked : s.esp.capsRequestSent = true)
    (m n : Nat) (g q : UInt32) :
    K.PipelineOk { s with esp := s.esp.capsSeen m n g q, response := none } where
  slots f h' := by cases h'
  start _ _ h' := by cases h'
  caps h' := by cases h'
  current _ := by
    obtain hrequest | ⟨-, hcurrent⟩ := h.caps hasked
    · refine .of_none ?_ ?_ rfl
      · change K.asks s.request = none
        rw [hrequest]
        exact hK.getCaps
      · change K.asks s.serving = none
        rw [h.slots f hf]
        rfl
    · exact (hcurrent.keeps (hK.capsSeen s.esp m n g q hflags (hflags.asked hasked))).dropped
  write := h.write

theorem PipelineOk.read (h : K.PipelineOk s) (hflags : s.esp.FlagsOk) {f : Frame}
    (hf : s.response = some f) {as : Esp.ReadAs} {rxReady responseReady : Bool}
    (hguard : s.esp.Guard rxReady responseReady (.read as)) :
    K.PipelineOk { s with esp := s.esp.readResponse f as, response := none } := by
  have hreads := s.esp.readResponse_reads f as
  generalize s.esp.readResponse f as = next at hreads ⊢
  cases hreads with
  | absorbs sequence keepsWrite hquiet =>
    exact h.absorbed hK hflags hf hguard hquiet _ sequence keepsWrite
  | resyncs records sequence keepsWrite g =>
    exact .of_resync (fun f hf => by cases hf) rfl rfl rfl rfl
  | caps m n g q has hpayload =>
    rw [has] at hguard
    exact h.capsSeen hK hflags hf hguard.1 m n g q
  | defs chunk records has hpayload =>
    rw [has] at hguard
    obtain ⟨cached, total, hstored⟩ :=
      Esp.storeDefsChunk_eq { s.esp with defsRequestSent := false } chunk records
    have hkeeps := hK.defsChunk s.esp chunk records
    rw [← hpayload] at hkeeps
    refine h.chunkSeen hflags hf (hflags.capsSeen_of_defsRequestSent hguard.1) hkeeps ?_ ?_ ?_
    · rw [Esp.defsChunkSeen, hstored]
    · rw [Esp.defsChunkSeen, hstored]
    · rw [Esp.defsChunkSeen, hstored]
  | states chunk records has hpayload =>
    rw [has] at hguard
    have hkeeps := hK.statesChunk s.esp chunk records
    rw [← hpayload] at hkeeps
    obtain ⟨cached, sequence, place, seen, view, published, hseen⟩ :=
      Esp.statesChunkSeen_eq s.esp chunk records
    refine h.chunkSeen hflags hf (hflags.seen_of_readStates hguard).1 hkeeps ?_ ?_ ?_
    · rw [hseen]
    · rw [hseen]
    · rw [hseen]

theorem PipelineOk.take (h : K.PipelineOk s) : K.PipelineOk s.take := by
  rw [LinkState.take]
  split
  · rename_i hempty
    refine ⟨fun f hf => ?_, fun h₁ h₂ h₃ => ?_, fun hasked => ?_, fun hseen => ?_, h.write⟩
    · rw [show s.response = some f from hf] at hempty
      cases hempty.2
    · exact ⟨rfl, (h.start h₁ h₂ h₃).1⟩
    · obtain hrequest | ⟨hserving | ⟨f, m, n, g, q, hf, -⟩, -⟩ := h.caps hasked
      · refine .inr ⟨.inl hrequest, .of_none rfl ?_ ?_⟩
        · change K.asks s.request = none
          rw [hrequest]
          exact hK.getCaps
        · change K.brings s.response = false
          rw [hempty.2]
          rfl
      · rw [hempty.1] at hserving
        cases hserving
      · rw [hempty.2] at hf
        cases hf
    · refine ⟨fun n hn => (by cases hn), fun n hn => ?_, (h.current hseen).response⟩
      obtain ⟨hwaiting, hplace, -⟩ := (h.current hseen).request n hn
      exact ⟨hwaiting, hplace⟩
  · exact h

theorem brings_service {p : ResolvePointState} {c : PointCatalog} {writeStatus : UInt8}
    {r : Request} (hbrings : K.brings (some (service p c writeStatus r).1) = true) :
    ∃ n, K.asked r = some n := by
  cases hasked : K.asked r with
  | none => exact (Esp.false_of_flag hbrings (hK.service p c writeStatus r hasked)).elim
  | some n => exact ⟨n, rfl⟩

theorem Current.respond (h : K.Current s) (writeStatus : UInt8) {r : Request}
    (hr : s.serving = some r) :
    K.Current { s with
      catalog := (service s.resolvePointState s.catalog writeStatus r).2
      serving := none
      response := some (service s.resolvePointState s.catalog writeStatus r).1 } := by
  have hwaiting : ∀ n, K.asked r = some n → K.asks s.serving = some n := by
    intro n hn
    rw [hr]
    exact hn
  refine ⟨fun n hn => ?_, fun n hn => (by cases hn), fun hbrings => ?_⟩
  · obtain ⟨hwaits, hplace, hserving, -⟩ := h.request n hn
    refine ⟨hwaits, hplace, rfl, ?_⟩
    cases hbrings : K.brings (some (service s.resolvePointState s.catalog writeStatus r).1) with
    | false => rfl
    | true =>
      obtain ⟨m, hm⟩ := brings_service hK hbrings
      rw [hwaiting m hm] at hserving
      cases hserving
  · obtain ⟨n, hn⟩ := brings_service hK hbrings
    exact (h.serving n (hwaiting n hn)).1

theorem PipelineOk.respond (h : K.PipelineOk s) (writeStatus : UInt8) :
    K.PipelineOk (s.respond writeStatus) := by
  rw [LinkState.respond]
  split
  · exact h
  · rename_i r hr
    refine ⟨fun f hf => rfl, fun h₁ h₂ h₃ => ?_, fun hasked => ?_, fun hseen => ?_, h.write⟩
    · exact ⟨(h.start h₁ h₂ h₃).1, rfl⟩
    · obtain hrequest | ⟨hserving | ⟨f, m, n, g, q, hf, -⟩, hcurrent⟩ := h.caps hasked
      · exact .inl hrequest
      · have hcurrent := hcurrent.respond hK writeStatus hr
        rw [hr] at hserving
        cases hserving
        exact .inr ⟨.inr ⟨_, _, _, _, _, rfl, rfl⟩, hcurrent⟩
      · rw [h.slots f hf] at hr
        cases hr
    · exact (h.current hseen).respond hK writeStatus hr

theorem brings_pumpUpdates (p : ResolvePointState) (c : PointCatalog) :
    K.brings (pumpUpdates p c).1 = false := by
  rw [pumpUpdates]
  split
  · exact hK.updates _ _
  · split
    · rfl
    · split
      · rfl
      · exact hK.updates _ _

theorem PipelineOk.pump (h : K.PipelineOk s) : K.PipelineOk s.pump := by
  rw [LinkState.pump]
  split
  · rename_i hempty
    obtain ⟨hrequest, hserving, hresponse⟩ := hempty
    refine ⟨fun f hf => hserving, fun _ _ _ => ⟨hrequest, hserving⟩, fun hasked => ?_,
      fun hseen => .of_none ?_ ?_ (brings_pumpUpdates hK _ _), h.write⟩
    · obtain hcaps | ⟨hcaps | ⟨f, m, n, g, q, hf, -⟩, -⟩ := h.caps hasked
      · rw [hrequest] at hcaps
        cases hcaps
      · rw [hserving] at hcaps
        cases hcaps
      · rw [hresponse] at hf
        cases hf
    · change K.asks s.request = none
      rw [hrequest]
      rfl
    · change K.asks s.serving = none
      rw [hserving]
      rfl
  · exact h

theorem PipelineOk.poll (h : K.PipelineOk s) (hflags : s.esp.FlagsOk) (timedOut : Bool) :
    K.PipelineOk (s.poll timedOut) := by
  have hguard := s.esp.pollAction_guard s.request.isSome s.response.isSome timedOut
  rw [LinkState.poll]
  generalize s.esp.pollAction _ _ _ = action at hguard ⊢
  have hnone : s.request.isSome = false → s.request = none := by
    cases s.request with
    | none => simp
    | some r => simp
  cases action with
  | nothing => exact h
  | drain => exact .of_resync (fun f hf => by cases hf) rfl rfl rfl rfl
  | resetMailbox => exact .of_resync (fun f hf => by cases hf) rfl rfl rfl rfl
  | capsTimeout => exact .of_resync (fun f hf => by cases hf) rfl rfl rfl rfl
  | sendCaps =>
    have hseen := hflags.caps_of_guard hguard
    refine ⟨h.slots, fun _ hasked => (by cases hasked), fun _ => .inl rfl, fun hseen' => ?_,
      h.write⟩
    exact (Esp.false_of_flag hseen' hseen).elim
  | sendDefs =>
    obtain ⟨hseen, hdefs, -, hrequest⟩ := hguard
    have hsent := hK.sendDefs s.esp hdefs
    refine h.sent (hnone hrequest) hsent ?_ ?_ ?_ ?_ fun _ _ => hseen
    all_goals
      rw [Esp.sendDefsSnapshotRequest]
      split <;> rfl
  | sendStates =>
    obtain ⟨hdefs, hstates, -, hrequest, hasked⟩ := hguard
    refine h.sent (hnone hrequest) (hK.sendStates s.esp hstates) ?_ ?_ ?_ ?_ fun h₁ h₂ => ?_
    case refine_5 =>
      cases hseen : s.esp.capsResponseSeen with
      | true => rfl
      | false => exact (Esp.false_of_flag hdefs (hflags.fresh h₁ h₂ hseen).1).elim
    all_goals
      rw [Esp.sendStatesSnapshotRequest]
      dsimp only
      split <;> rfl
  | refresh =>
    obtain ⟨hseen, -, hstates, hrequest, -⟩ := hguard
    refine h.sent (hnone hrequest) (hK.refresh s.esp hstates) ?_ ?_ ?_ ?_ fun _ _ => hseen
    all_goals
      rw [Esp.refreshStates, Esp.sendStatesSnapshotRequest]
      dsimp only
      split <;> rfl
  | sendWriteState =>
    obtain ⟨hidle, hrequest, -⟩ := hguard
    simp only [Esp.isRuntimeIdleReady, Bool.and_eq_true, Bool.not_eq_true'] at hidle
    have hasks : K.asks s.esp.pendingWriteState = none := by
      cases hpending : s.esp.pendingWriteState with
      | none => rfl
      | some r => exact h.write r hpending
    refine h.sent (hnone hrequest) (.inl ⟨hasks, hK.sendWrite s.esp⟩) rfl rfl rfl rfl fun _ _ => ?_
    cases hseen : s.esp.capsResponseSeen with
    | true => rfl
    | false => exact (Esp.false_of_flag hidle.1.1.1.2 (hflags.noCaps hseen).2.1).elim
  | read as =>
    rw [LinkState.polled]
    cases hf : s.response with
    | none => exact h
    | some f => exact h.read hK hflags hf hguard

theorem PipelineOk.wishes (h : K.PipelineOk s) (refresh : Bool) {write : Option Request}
    (hwrite : ∀ r, write = some r → K.asked r = none) :
    K.PipelineOk { s with esp :=
      { s.esp with refreshRequested := refresh, pendingWriteState := write } } := by
  refine ⟨h.slots, h.start, fun hasked => ?_, fun hseen => ?_, hwrite⟩
  · obtain hrequest | ⟨hunder, hcurrent⟩ := h.caps hasked
    · exact .inl hrequest
    · exact .inr ⟨hunder, hcurrent.keeps (hK.wishes s.esp refresh write)⟩
  · exact (h.current hseen).keeps (hK.wishes s.esp refresh write)

theorem pipeline_next (h : K.PipelineOk s) (hflags : s.esp.FlagsOk) (event : LinkEvent) :
    K.PipelineOk (s.next event) := by
  cases event with
  | edit e => exact h.points _ _
  | update id state => exact h.points _ _
  | store index state => exact h.points _ _
  | requestFullSync => exact h.points _ _
  | runtime resolvePointState => exact h.points _ _
  | take => exact h.take hK
  | respond writeStatus => exact h.respond hK writeStatus
  | pump => exact h.pump hK
  | poll timedOut => exact h.poll hK hflags timedOut
  | askRefresh =>
    rw [LinkState.next]
    split
    · exact h.wishes hK true h.write
    · exact h
  | askWrite pointIndex expectedValueType valueBits =>
    rw [LinkState.next]
    split
    · refine h.wishes hK s.esp.refreshRequested fun r hr => ?_
      cases hr
      exact hK.writeState _ _ _
    · exact h

end Stream

/-! The two streams of chunks between the processors. -/

/-- The chunks of the definitions. -/
def defsStream : Stream where
  asked
    | .getDefsSnapshot resumeOffset _ _ => some resumeOffset
    | _ => none
  answers
    | .defsSnapshot _ _ => true
    | _ => false
  waiting s := s.defsRequestSent
  place s := s.nextDefsOffset

def statesStream : Stream where
  asked
    | .getStatesSnapshot startIndex _ _ => some startIndex
    | _ => none
  answers
    | .statesSnapshot _ _ => true
    | _ => false
  waiting s := s.statesRequestSent
  place s := s.nextStatesStartIndex

theorem writeStateResponse_payload (c : PointCatalog) (pointIndex : Nat)
    (expectedValueType status : UInt8) :
    (∃ type, (writeStateResponse c pointIndex expectedValueType status).payload =
      .writeState status type) ∨
      ∃ code related, (writeStateResponse c pointIndex expectedValueType status).payload =
        .error code related := by
  rw [writeStateResponse]
  split
  · exact .inr ⟨_, _, rfl⟩
  · split
    · exact .inr ⟨_, _, rfl⟩
    · exact .inl ⟨_, rfl⟩

theorem defsStream_lawful : defsStream.Lawful where
  getCaps := rfl
  writeState _ _ _ := rfl
  caps _ _ _ _ := rfl
  updates _ _ := rfl
  service _ c w r hr := by
    cases r with
    | getCaps => rfl
    | getDefsSnapshot resumeOffset maxChunkPayload requestedGeneration => cases hr
    | getStatesSnapshot startIndex maxRecords includeStrings => rfl
    | writeState pointIndex expectedValueType valueBits =>
      rw [service]
      obtain ⟨type, h⟩ | ⟨code, related, h⟩ :=
        writeStateResponse_payload c pointIndex expectedValueType w
      · rw [h]
        rfl
      · rw [h]
        rfl
  touched _ _ _ _ h := ⟨h, rfl⟩
  sendCaps _ h := ⟨h, rfl⟩
  capsSeen s m n g q hflags hnone h := (Esp.false_of_flag h (hflags.noCaps hnone).1).elim
  defsChunk _ _ _ := .inl rfl
  statesChunk s chunk records := by
    obtain ⟨cached, sequence, place, seen, view, published, hseen⟩ :=
      Esp.statesChunkSeen_eq s chunk records
    rw [hseen]
    exact .inr fun h => ⟨h, rfl⟩
  sendDefs s hnone := by
    rw [Esp.sendDefsSnapshotRequest]
    split
    · exact .inr ⟨hnone, .inl rfl⟩
    · exact .inr ⟨hnone, .inr ⟨rfl, rfl⟩⟩
  sendStates s _ := by
    rw [Esp.sendStatesSnapshotRequest]
    dsimp only
    split
    · exact .inl ⟨rfl, fun h => ⟨h, rfl⟩⟩
    · exact .inl ⟨rfl, fun h => ⟨h, rfl⟩⟩
  refresh s _ := by
    rw [Esp.refreshStates, Esp.sendStatesSnapshotRequest]
    dsimp only
    split
    · exact .inl ⟨rfl, fun h => ⟨h, rfl⟩⟩
    · exact .inl ⟨rfl, fun h => ⟨h, rfl⟩⟩
  sendWrite _ h := ⟨h, rfl⟩
  wishes _ _ _ h := ⟨h, rfl⟩

theorem statesStream_lawful : statesStream.Lawful where
  getCaps := rfl
  writeState _ _ _ := rfl
  caps _ _ _ _ := rfl
  updates _ _ := rfl
  service _ c w r hr := by
    cases r with
    | getCaps => rfl
    | getDefsSnapshot resumeOffset maxChunkPayload requestedGeneration => rfl
    | getStatesSnapshot startIndex maxRecords includeStrings => cases hr
    | writeState pointIndex expectedValueType valueBits =>
      rw [service]
      obtain ⟨type, h⟩ | ⟨code, related, h⟩ :=
        writeStateResponse_payload c pointIndex expectedValueType w
      · rw [h]
        rfl
      · rw [h]
        rfl
  touched _ _ _ _ h := ⟨h, rfl⟩
  sendCaps _ h := ⟨h, rfl⟩
  capsSeen _ _ _ _ _ _ _ h := ⟨h, rfl⟩
  defsChunk s chunk records := by
    obtain ⟨cached, total, hstored⟩ :=
      Esp.storeDefsChunk_eq { s with defsRequestSent := false } chunk records
    rw [Esp.defsChunkSeen, hstored]
    exact .inr fun h => ⟨h, rfl⟩
  statesChunk _ _ _ := .inl rfl
  sendDefs s _ := by
    rw [Esp.sendDefsSnapshotRequest]
    split
    · exact .inl ⟨rfl, fun h => ⟨h, rfl⟩⟩
    · exact .inl ⟨rfl, fun h => ⟨h, rfl⟩⟩
  sendStates s hnone := by
    rw [Esp.sendStatesSnapshotRequest]
    dsimp only
    split
    · exact .inr ⟨hnone, .inl rfl⟩
    · exact .inr ⟨hnone, .inr ⟨rfl, rfl⟩⟩
  refresh s hnone := by
    rw [Esp.refreshStates, Esp.sendStatesSnapshotRequest]
    dsimp only
    split
    · exact .inr ⟨hnone, .inl rfl⟩
    · exact .inr ⟨hnone, .inr ⟨rfl, rfl⟩⟩
  sendWrite _ h := ⟨h, rfl⟩
  wishes _ _ _ h := ⟨h, rfl⟩

end NodeNet.Link

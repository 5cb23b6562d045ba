import NodeNet.Link.Flags

/-! Which requests can be under way between the processors, in the order of their answers. -/
namespace NodeNet.Link
open NodeNet.Points NodeNet.Catalog Esp

def Request.readAs : Request → ReadAs
  | .getCaps => .caps
  | .getDefsSnapshot _ _ _ => .defs
  | .getStatesSnapshot _ _ _ => .states
  | .writeState _ _ _ => .writeState

/-- The reading that a response is for; only writes are answered by an error. -/
def Payload.readAs : Payload → ReadAs
  | .caps _ _ _ _ => .caps
  | .defsSnapshot _ _ => .defs
  | .statesSnapshot _ _ => .states
  | .statesUpdates _ _ => .unsolicited
  | .writeState _ _ => .writeState
  | .error _ _ => .writeState

theorem service_readAs (p : ResolvePointState) (c : PointCatalog) (writeStatus : UInt8)
    (r : Request) : (service p c writeStatus r).1.payload.readAs = r.readAs := by
  cases r with
  | getCaps => rfl
  | getDefsSnapshot resumeOffset maxChunkPayload requestedGeneration => rfl
  | getStatesSnapshot startIndex maxRecords includeStrings => rfl
  | writeState pointIndex expectedValueType valueBits =>
    rw [service, writeStateResponse]
    split
    · rfl
    · split <;> rfl

theorem pumpUpdates_readAs {p : ResolvePointState} {c : PointCatalog} {f : Frame}
    (h : (pumpUpdates p c).1 = some f) : f.payload.readAs = .unsolicited := by
  rw [pumpUpdates] at h
  split at h
  · cases h
    rfl
  · split at h
    · cases h
    · split at h
      · cases h
      · cases h
        rfl

theorem awaited_of_eq {payload : Payload} (hwrite : payload.readAs ≠ .writeState)
    (hupdate : payload.readAs ≠ .unsolicited) : awaited payload.readAs payload = true := by
  cases payload with
  | caps => rfl
  | defsSnapshot => rfl
  | statesSnapshot => rfl
  | statesUpdates => exact absurd rfl hupdate
  | writeState => exact absurd rfl hwrite
  | error => exact absurd rfl hwrite

namespace Esp

/-- What the flags say of the answers that are still to come: those of requests from before a resync
come first, and none is left over when the ESP32 is idle. -/
structure FlightOk (s : Esp) (flight : List ReadAs) : Prop where
  short : flight.length ≤ 2
  write : s.writeStateRequestSent = true →
    flight = .writeState :: (if s.statesRequestSent then [.states] else [])
  noWrite : s.writeStateRequestSent = false → .writeState ∉ flight
  asked : s.capsRequestSent = true →
    if s.statesRequestSent then flight = [.caps, .states] else ∃ before, flight = before ++ [.caps]
  noDefs : s.capsResponseSeen = true → s.defsResponseSeen = false →
    if s.defsRequestSent then ∃ before, flight = before ++ [.defs] ∧ .defs ∉ before
    else .defs ∉ flight
  noStates : s.writeStateRequestSent = false → s.capsResponseSeen = true →
    s.defsResponseSeen = true → s.statesResponseSeen = false → flight = [] ∨
      if s.statesRequestSent then flight = [.states] ∨ flight = [.caps, .states]
      else flight = [.caps]
  idle : s.writeStateRequestSent = false → s.statesResponseSeen = true → flight = []

theorem start_flight : Esp.start.FlightOk [] where
  short := by decide
  write h := by cases h
  noWrite _ := by simp
  asked h := by cases h
  noDefs h := by cases h
  noStates _ h := by cases h
  idle _ _ := rfl

theorem resync_flight (s : Esp) (g : UInt32) {flight : List ReadAs} (hshort : flight.length ≤ 2)
    (h : .writeState ∉ flight) : (s.beginFullResync g).FlightOk flight where
  short := hshort
  write h := by cases h
  noWrite _ := h
  asked h := by cases h
  noDefs h := by cases h
  noStates _ h := by cases h
  idle _ h := by cases h

variable {s : Esp} {flight : List ReadAs} {rxReady responseReady : Bool}

/-- The flags that say what is under way. -/
structure SameFlags (s s' : Esp) : Prop where
  write : s'.writeStateRequestSent = s.writeStateRequestSent
  caps : s'.capsRequestSent = s.capsRequestSent
  capsSeen : s'.capsResponseSeen = s.capsResponseSeen
  defs : s'.defsRequestSent = s.defsRequestSent
  defsSeen : s'.defsResponseSeen = s.defsResponseSeen
  states : s'.statesRequestSent = s.statesRequestSent
  statesSeen : s'.statesResponseSeen = s.statesResponseSeen

theorem FlightOk.same {s' : Esp} (h : s.FlightOk flight) (hsame : SameFlags s s') :
    s'.FlightOk flight where
  short := h.short
  write := by
    rw [hsame.write, hsame.states]
    exact h.write
  noWrite := by
    rw [hsame.write]
    exact h.noWrite
  asked := by
    rw [hsame.caps, hsame.states]
    exact h.asked
  noDefs := by
    rw [hsame.capsSeen, hsame.defsSeen, hsame.defs]
    exact h.noDefs
  noStates := by
    rw [hsame.write, hsame.capsSeen, hsame.defsSeen, hsame.statesSeen, hsame.states]
    exact h.noStates
  idle := by
    rw [hsame.write, hsame.statesSeen]
    exact h.idle

theorem touched_same (s : Esp) (records : List StateRecord) (sequence : UInt32)
    {keepsWrite : Bool} (hwrite : s.writeStateRequestSent = false) :
    SameFlags s (s.touched records sequence keepsWrite) :=
  ⟨by simp [touched, hwrite], rfl, rfl, rfl, rfl, rfl, rfl⟩

variable {rest : List ReadAs}

theorem tail_of_last {k last : ReadAs} {before : List ReadAs} (hne : k ≠ last)
    (h : k :: rest = before ++ [last]) :
    ∃ before', before = k :: before' ∧ rest = before' ++ [last] := by
  cases before with
  | nil =>
    cases h
    exact absurd rfl hne
  | cons first before' =>
    cases h
    exact ⟨before', rfl, rfl⟩

/-- An answer that nothing waits for is passed over. -/
theorem FlightOk.passed {k : ReadAs} (h : s.FlightOk (k :: rest)) (hflags : s.FlagsOk)
    (hwrite : s.writeStateRequestSent = false) {as : ReadAs}
    (hguard : s.Guard rxReady responseReady (.read as)) (hne : k ≠ as) (has : as ≠ .writeState) :
    s.FlightOk rest where
  short := Nat.le_of_succ_le h.short
  write hsent := (false_of_flag hsent hwrite).elim
  noWrite _ hmem := h.noWrite hwrite (List.mem_cons_of_mem _ hmem)
  asked hsent := by
    have hasked := h.asked hsent
    have hnone := hflags.asked hsent
    have hcaps : as = .caps := by
      cases as with
      | writeState => exact absurd rfl has
      | unsolicited => exact (false_of_flag (hguard.2.1 hsent) hnone).elim
      | caps => rfl
      | defs => exact (false_of_flag (hflags.capsSeen_of_defsRequestSent hguard.1) hnone).elim
      | states => exact (false_of_flag (hguard.2.2.2.1 hsent) hnone).elim
    rw [hcaps] at hne
    split at hasked
    next =>
      cases hasked
      exact absurd rfl hne
    next hstates =>
      obtain ⟨before, hbefore⟩ := hasked
      obtain ⟨before', -, hrest⟩ := tail_of_last hne hbefore
      rw [if_neg hstates]
      exact ⟨before', hrest⟩
  noDefs hcaps hnone := by
    have hdefs := h.noDefs hcaps hnone
    split at hdefs
    next hsent =>
      have hdefsAs : as = .defs := by
        cases as with
        | writeState => exact absurd rfl has
        | unsolicited => exact (false_of_flag hsent (hguard.2.2.2 hnone)).elim
        | caps => exact (false_of_flag hcaps hguard.2.1).elim
        | defs => rfl
        | states => exact (false_of_flag (hguard.2.2.2.2 hcaps) hnone).elim
      rw [hdefsAs] at hne
      obtain ⟨before, hbefore, hmem⟩ := hdefs
      obtain ⟨before', hcons, hrest⟩ := tail_of_last hne hbefore
      rw [if_pos hsent]
      exact ⟨before', hrest, fun hin => hmem (hcons ▸ List.mem_cons_of_mem _ hin)⟩
    next hsent =>
      rw [if_neg hsent]
      exact fun hin => hdefs (List.mem_cons_of_mem _ hin)
  noStates _ hcaps hdefs hnone := by
    have hstates := (h.noStates hwrite hcaps hdefs hnone).resolve_left (List.cons_ne_nil _ _)
    split at hstates
    next hsent =>
      have hstatesAs : as = .states := by
        cases as with
        | writeState => exact absurd rfl has
        | unsolicited => exact (false_of_flag hsent (hguard.2.2.1 hdefs)).elim
        | caps => exact (false_of_flag hcaps hguard.2.1).elim
        | defs => exact (false_of_flag hdefs (hflags.defsSent hguard.1)).elim
        | states => rfl
      rw [hstatesAs] at hne
      obtain hone | htwo := hstates
      · cases hone
        exact absurd rfl hne
      · cases htwo
        rw [if_pos hsent]
        exact .inr (.inl rfl)
    next =>
      cases hstates
      exact .inl rfl
  idle _ hseen := absurd (h.idle hwrite hseen) (List.cons_ne_nil _ _)

/-- The caps are seen. -/
theorem FlightOk.capsSeen (h : s.FlightOk (.caps :: rest)) (hflags : s.FlagsOk)
    (hasked : s.capsRequestSent = true) (hnone : s.capsResponseSeen = false)
    (maxFragmentPayload pointCount : Nat) (defsGeneration statesSequence : UInt32) :
    (s.capsSeen maxFragmentPayload pointCount defsGeneration statesSequence).FlightOk rest := by
  have hwrite : s.writeStateRequestSent = false := (hflags.noCaps hnone).2.2.2
  have hstates : s.statesResponseSeen = false := (hflags.noCaps hnone).2.1
  have hrest : if s.statesRequestSent then rest = [.states] else rest = [] ∨ rest = [.caps] := by
    have hflight := h.asked hasked
    split at hflight
    next hsent =>
      rw [if_pos hsent]
      exact (List.cons.inj hflight).2
    next hsent =>
      rw [if_neg hsent]
      obtain ⟨before, hbefore⟩ := hflight
      have hshort := h.short
      cases before with
      | nil => exact .inl (List.cons.inj hbefore).2
      | cons first before' =>
        obtain ⟨-, hlast⟩ := List.cons.inj hbefore
        rw [hlast] at hshort
        have hempty : before' = [] := by
          cases before' with
          | nil => rfl
          | cons second rest' =>
            simp at hshort
        rw [hempty] at hlast
        exact .inr hlast
  have hdefs : .defs ∉ rest := by
    split at hrest
    · simp [hrest]
    · obtain hrest | hrest := hrest <;> simp [hrest]
  refine ⟨Nat.le_of_succ_le h.short, fun hsent => (false_of_flag hsent hwrite).elim,
    fun _ hmem => h.noWrite hwrite (List.mem_cons_of_mem _ hmem), fun hsent => (by cases hsent),
    fun _ _ => hdefs, fun _ _ _ _ => ?_, fun _ hseen => (false_of_flag hseen hstates).elim⟩
  change rest = [] ∨ if s.statesRequestSent then rest = [.states] ∨ rest = [.caps, .states]
    else rest = [.caps]
  split at hrest
  next hsent =>
    rw [if_pos hsent]
    exact .inr (.inl hrest)
  next hsent =>
    rw [if_neg hsent]
    exact hrest

theorem FlightOk.defsChunkSeen (h : s.FlightOk (.defs :: rest)) (hflags : s.FlagsOk)
    (hsent : s.defsRequestSent = true) (chunk : DefsSnapshotChunkPrefix)
    (records : List DefinitionRecord) : (s.defsChunkSeen chunk records).FlightOk rest := by
  have hcaps := hflags.capsSeen_of_defsRequestSent hsent
  have hnone := hflags.defsSent hsent
  obtain ⟨hstates, -, hwrite⟩ := hflags.noDefs hnone
  have hdefs := h.noDefs hcaps hnone
  rw [if_pos hsent] at hdefs
  obtain ⟨before, hbefore, hmem⟩ := hdefs
  have hrest : rest = [] := by
    cases before with
    | nil => exact (List.cons.inj hbefore).2
    | cons first before' =>
      obtain ⟨hfirst, -⟩ := List.cons.inj hbefore
      exact absurd (hfirst ▸ List.mem_cons_self) hmem
  obtain ⟨cached, total, hstored⟩ :=
    storeDefsChunk_eq { s with defsRequestSent := false } chunk records
  rw [Esp.defsChunkSeen, hstored, hrest]
  have hasked : s.capsRequestSent = false := by
    cases hsent' : s.capsRequestSent with
    | false => rfl
    | true => exact (false_of_flag hcaps (hflags.asked hsent')).elim
  exact ⟨by simp, fun hsent' => (false_of_flag hsent' hwrite).elim, fun _ => by simp,
    fun hsent' => (false_of_flag hsent' hasked).elim, fun _ _ => by simp, fun _ _ _ _ => .inl rfl,
    fun _ _ => rfl⟩

theorem FlightOk.statesChunkSeen (h : s.FlightOk (.states :: rest)) (hflags : s.FlagsOk)
    (hwrite : s.writeStateRequestSent = false) (hcaps : s.capsResponseSeen = true)
    (hdefs : s.defsResponseSeen = true) (hsent : s.statesRequestSent = true)
    (chunk : StatesSnapshotChunkPrefix) (records : List StateRecord) :
    (s.statesChunkSeen chunk records).FlightOk rest := by
  have hflight := (h.noStates hwrite hcaps hdefs (hflags.statesSent hsent)).resolve_left
    (List.cons_ne_nil _ _)
  rw [if_pos hsent] at hflight
  have hrest : rest = [] := by
    obtain hone | htwo := hflight
    · exact (List.cons.inj hone).2
    · cases htwo
  have hasked : s.capsRequestSent = false := by
    cases hsent' : s.capsRequestSent with
    | false => rfl
    | true => exact (false_of_flag hcaps (hflags.asked hsent')).elim
  obtain ⟨cached, sequence, place, seen, view, published, hseen⟩ :=
    statesChunkSeen_eq s chunk records
  rw [hseen, hrest]
  exact ⟨by simp, fun hsent' => (false_of_flag hsent' hwrite).elim, fun _ => by simp,
    fun hsent' => (false_of_flag hsent' hasked).elim,
    fun _ hnone => (false_of_flag hdefs hnone).elim, fun _ _ _ _ => .inl rfl, fun _ _ => rfl⟩

/-- An answer that is not a write's is read. -/
theorem FlightOk.read {k : ReadAs} (h : s.FlightOk (k :: rest)) (hflags : s.FlagsOk)
    (hwrite : s.writeStateRequestSent = false) {as : ReadAs}
    (hguard : s.Guard rxReady responseReady (.read as)) {f : Frame} (hf : f.payload.readAs = k)
    (hanswer : k ≠ .unsolicited) : (s.readResponse f as).FlightOk rest := by
  have has : as ≠ .writeState := by
    intro heq
    rw [heq] at hguard
    exact false_of_flag hguard.1 hwrite
  have hk : k ≠ .writeState := by
    intro heq
    exact h.noWrite hwrite (heq ▸ List.mem_cons_self)
  have hreads := s.readResponse_reads f as
  generalize s.readResponse f as = next at hreads ⊢
  cases hreads with
  | absorbs sequence keepsWrite hquiet =>
    have hne : k ≠ as := by
      intro heq
      subst hf
      rw [← heq, awaited_of_eq hk hanswer] at hquiet
      cases hquiet
    exact (h.passed hflags hwrite hguard hne has).same (touched_same s _ _ hwrite)
  | resyncs records sequence keepsWrite g =>
    exact resync_flight _ g (Nat.le_of_succ_le h.short)
      fun hmem => h.noWrite hwrite (List.mem_cons_of_mem _ hmem)
  | caps maxFragmentPayload pointCount defsGeneration statesSequence has' hp =>
    rw [has'] at hguard
    rw [hp] at hf
    cases hf
    exact h.capsSeen hflags hguard.1 hguard.2.1 _ _ _ _
  | defs chunk records has' hp =>
    rw [has'] at hguard
    rw [hp] at hf
    cases hf
    exact h.defsChunkSeen hflags hguard.1 chunk records
  | states chunk records has' hp =>
    rw [has'] at hguard
    rw [hp] at hf
    cases hf
    obtain ⟨hcaps, hdefs⟩ := hflags.seen_of_readStates hguard
    exact h.statesChunkSeen hflags hwrite hcaps hdefs hguard.1 chunk records

theorem FlightOk.updated (h : s.FlightOk flight)
    (hwrite : s.writeStateRequestSent = false) {as : ReadAs} {f : Frame}
    (hf : f.payload.readAs = .unsolicited) : (s.readResponse f as).FlightOk flight := by
  have hreads := s.readResponse_reads f as
  generalize s.readResponse f as = next at hreads ⊢
  cases hreads with
  | absorbs sequence keepsWrite hquiet => exact h.same (touched_same s _ _ hwrite)
  | resyncs records sequence keepsWrite g => exact resync_flight _ g h.short (h.noWrite hwrite)
  | caps _ _ _ _ _ hp => exact (by rw [hp] at hf; cases hf)
  | defs _ _ _ hp => exact (by rw [hp] at hf; cases hf)
  | states _ _ _ hp => exact (by rw [hp] at hf; cases hf)

theorem FlightOk.written (h : s.FlightOk flight) (hflags : s.FlagsOk)
    (hwrite : s.writeStateRequestSent = true) {f : Frame}
    (hf : f.payload.readAs = .writeState) :
    (s.readResponse f .writeState).FlightOk flight.tail := by
  have hflight := h.write hwrite
  have hcaps : s.capsResponseSeen = true := by
    cases hnone : s.capsResponseSeen with
    | true => rfl
    | false => exact (false_of_flag hwrite (hflags.noCaps hnone).2.2.2).elim
  have hdefs : s.defsResponseSeen = true := by
    cases hnone : s.defsResponseSeen with
    | true => rfl
    | false => exact (false_of_flag hwrite (hflags.noDefs hnone).2.2).elim
  have hasked : s.capsRequestSent = false := by
    cases hsent : s.capsRequestSent with
    | false => rfl
    | true => exact (false_of_flag hcaps (hflags.asked hsent)).elim
  have hread : s.readResponse f .writeState =
      { s with writeStateRequestSent := false, pendingWriteState := none } := by
    rw [readResponse]
    cases hp : f.payload with
    | statesUpdates statesSequence records => exact (by rw [hp] at hf; cases hf)
    | _ => rfl
  rw [hread, hflight]
  change FlightOk _ (if s.statesRequestSent then [.states] else [])
  cases hstates : s.statesRequestSent with
  | true =>
    have hnone := hflags.statesSent hstates
    exact ⟨by simp, fun hsent => (by cases hsent), fun _ => by simp,
      fun hsent => (false_of_flag hsent hasked).elim,
      fun _ hnone' => (false_of_flag hdefs hnone').elim,
      fun _ _ _ _ => .inr (by simp), fun _ hseen => (false_of_flag hseen hnone).elim⟩
  | false =>
    exact ⟨by simp, fun hsent => (by cases hsent), fun _ => by simp,
      fun hsent => (false_of_flag hsent hasked).elim,
      fun _ hnone' => (false_of_flag hdefs hnone').elim, fun _ _ _ _ => .inl rfl, fun _ _ => rfl⟩

/-! The requests that are sent go behind the others. -/

theorem append_short {k : ReadAs} (h : flight.length ≤ 1) : (flight ++ [k]).length ≤ 2 := by
  rw [List.length_append, List.length_singleton]
  omega

theorem FlightOk.sendCaps (h : s.FlightOk flight) (hflags : s.FlagsOk)
    (hone : flight.length ≤ 1) (hguard : s.Guard rxReady responseReady .sendCaps) :
    s.sendCapsRequest.1.FlightOk (flight ++ [.caps]) := by
  have hnone := hflags.caps_of_guard hguard
  have hwrite : s.writeStateRequestSent = false := (hflags.noCaps hnone).2.2.2
  have hstates : s.statesRequestSent = false := by
    cases hpending : s.resyncPending with
    | true => exact (hflags.pending hpending).2.2
    | false => exact (hflags.fresh hpending hguard.1 hnone).2
  refine ⟨append_short hone, fun hsent => (false_of_flag hsent hwrite).elim, fun _ hmem => ?_,
    fun _ => ?_, fun hcaps => (false_of_flag hcaps hnone).elim,
    fun _ hcaps => (false_of_flag hcaps hnone).elim,
    fun _ hseen => (false_of_flag hseen (hflags.noCaps hnone).2.1).elim⟩
  · obtain hmem | hmem := List.mem_append.mp hmem
    · exact h.noWrite hwrite hmem
    · cases List.mem_singleton.mp hmem
  · change if s.statesRequestSent then _ else _
    rw [hstates]
    exact ⟨flight, rfl⟩

theorem FlightOk.sendDefs (h : s.FlightOk flight) (hflags : s.FlagsOk)
    (hone : flight.length ≤ 1) (hguard : s.Guard rxReady responseReady .sendDefs) :
    s.sendDefsSnapshotRequest.1.FlightOk
      (flight ++ (s.sendDefsSnapshotRequest.2.map Request.readAs).toList) := by
  obtain ⟨hcaps, hunsent, hnone, -⟩ := hguard
  obtain ⟨hstates, -, hwrite⟩ := hflags.noDefs hnone
  have hdefs := h.noDefs hcaps hnone
  rw [hunsent] at hdefs
  rw [Esp.sendDefsSnapshotRequest]
  split
  · simpa using h
  · refine ⟨append_short hone, fun hsent => (false_of_flag hsent hwrite).elim, fun _ hmem => ?_,
      fun hasked => (false_of_flag hcaps (hflags.asked hasked)).elim,
      fun _ _ => ⟨flight, rfl, hdefs⟩, fun _ _ hdefs' => (false_of_flag hdefs' hnone).elim,
      fun _ hseen => (false_of_flag hseen hstates).elim⟩
    obtain hmem | hmem := List.mem_append.mp hmem
    · exact h.noWrite hwrite hmem
    · cases List.mem_singleton.mp hmem

theorem FlightOk.sendStates (h : s.FlightOk flight) (hone : flight.length ≤ 1)
    (hdefs : s.defsResponseSeen = true) (hunsent : s.statesRequestSent = false)
    (hnone : s.statesResponseSeen = false) (startIndex : Nat) :
    (s.sendStatesSnapshotRequest startIndex).1.FlightOk
      (flight ++ ((s.sendStatesSnapshotRequest startIndex).2.map Request.readAs).toList) := by
  rw [Esp.sendStatesSnapshotRequest]
  dsimp only
  split
  · simpa using h
  · refine ⟨append_short hone, fun hwrite => ?_, fun hwrite hmem => ?_, fun hsent => ?_,
      fun _ hdefs' => (false_of_flag hdefs hdefs').elim, fun hwrite hcaps _ _ => ?_,
      fun _ hseen => (false_of_flag hseen hnone).elim⟩
    · have hflight := h.write hwrite
      rw [hunsent] at hflight
      rw [hflight]
      rfl
    · obtain hmem | hmem := List.mem_append.mp hmem
      · exact h.noWrite hwrite hmem
      · cases List.mem_singleton.mp hmem
    · have hflight := h.asked hsent
      rw [hunsent] at hflight
      obtain ⟨before, hbefore⟩ := hflight
      have hempty : before = [] := by
        rw [hbefore, List.length_append, List.length_singleton] at hone
        exact List.eq_nil_of_length_eq_zero (by omega)
      rw [hbefore, hempty]
      rfl
    · have hflight := h.noStates hwrite hcaps hdefs hnone
      rw [hunsent] at hflight
      obtain hflight | hflight := hflight
      · rw [hflight]
        exact .inr (.inl rfl)
      · change flight = [.caps] at hflight
        rw [hflight]
        exact .inr (.inr rfl)

theorem FlightOk.refresh (h : s.FlightOk flight) (hflags : s.FlagsOk) (hone : flight.length ≤ 1)
    (hguard : s.Guard rxReady responseReady .refresh) :
    s.refreshStates.1.FlightOk (flight ++ (s.refreshStates.2.map Request.readAs).toList) := by
  obtain ⟨-, hseen, hunsent, -, -⟩ := hguard
  have hdefs : s.defsResponseSeen = true := by
    cases hnone : s.defsResponseSeen with
    | true => rfl
    | false => exact (false_of_flag hseen (hflags.noDefs hnone).1).elim
  have hbase : Esp.FlightOk
      { s with refreshRequested := false, statesResponseSeen := false, nextStatesStartIndex := 0 }
      flight :=
    ⟨h.short, h.write, h.noWrite, h.asked, h.noDefs, fun hwrite _ _ _ => .inl (h.idle hwrite hseen),
      fun _ hseen' => by cases hseen'⟩
  exact hbase.sendStates hone hdefs hunsent rfl 0

theorem FlightOk.sendWrite (h : s.FlightOk flight)
    (hwrite : s.writeStateRequestSent = false) (hidle : s.isRuntimeIdleReady = true) :
    s.sendWriteStateRequest.1.FlightOk (flight ++ [.writeState]) := by
  simp only [isRuntimeIdleReady, Bool.and_eq_true, Bool.not_eq_true'] at hidle
  obtain ⟨⟨⟨⟨hdefs, hstates⟩, hasked⟩, -⟩, hunsent⟩ := hidle
  rw [h.idle hwrite hstates]
  refine ⟨by simp, fun _ => ?_, fun hsent => (by cases hsent),
    fun hsent => (false_of_flag hsent hasked).elim,
    fun _ hnone => (false_of_flag hdefs hnone).elim, fun hsent => (by cases hsent),
    fun hsent => (by cases hsent)⟩
  change [ReadAs.writeState] = .writeState :: (if s.statesRequestSent then [.states] else [])
  rw [hunsent]
  rfl

end Esp

end NodeNet.Link

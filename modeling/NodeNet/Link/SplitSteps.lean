import NodeNet.Link.Flight

/-! The link with the ids of its requests, and with the time between the checks of the mailbox and
what is done about them. -/
namespace NodeNet.Link
open NodeNet.Points NodeNet.Catalog Esp

/-- A request with the id in its header, and its number among all requests. -/
structure Ticket where
  requestId : UInt8
  number : Nat
  request : Request
  deriving DecidableEq

def Ticket.isWrite (t : Ticket) : Bool := t.request.readAs = .writeState

/-- A response with the request whose id is in its header; an update answers none. -/
structure Reply where
  answers : Option Ticket
  frame : Frame
  deriving DecidableEq

structure SplitLink where
  catalog : PointCatalog
  resolvePointState : ResolvePointState
  request : Option Ticket
  serving : Option Ticket
  response : Option Reply
  /-- The SoC has found the mailbox empty and is making an update. -/
  pumping : Bool
  esp : Esp
  nextRequestId : UInt8
  requestCount : Nat
  /-- What a poll has read of the mailbox: a request waits, a response is ready. -/
  status : Option (Bool × Bool)
  /-- The pending write as it was sent last. -/
  writeTicket : Option Ticket
  /-- The writes that the SoC has answered, and those that the ESP32 has cleared as answered, each
  with the response that it has taken for the answer. -/
  answered : List Ticket
  settled : List (Option Ticket × Reply)

def SplitLink.start : SplitLink where
  catalog := .empty
  resolvePointState _ _ := none
  request := none
  serving := none
  response := none
  pumping := false
  esp := .start
  nextRequestId := 1
  requestCount := 0
  status := none
  writeTicket := none
  answered := []
  settled := []

inductive CatalogWork where
  | edit (e : CatalogEdit)
  | update (id : PointIdentity) (state : PointState)
  | store (index : Nat) (state : PointState)
  | requestFullSync

def CatalogWork.apply (c : PointCatalog) : CatalogWork → PointCatalog
  | .edit e => c.edited e
  | .update id state => (c.updateState id state).getD c
  | .store index state => c.stored index state
  | .requestFullSync => c.requestRuntimeFullSync

inductive SplitEvent where
  | work (w : CatalogWork)
  | runtime (resolvePointState : ResolvePointState)
  | take
  | respond (writeStatus : UInt8)
  | beginPump
  | endPump
  | readStatus
  | act (timedOut : Bool)
  | askRefresh
  | askWrite (pointIndex : Nat) (expectedValueType : UInt8) (valueBits : UInt32)

namespace SplitLink

def ticket (s : SplitLink) (r : Request) : Ticket := ⟨s.nextRequestId, s.requestCount, r⟩

/-- A request takes the next id, also when it is then not sent. -/
def make (s : SplitLink) (p : Esp × Option Request) : SplitLink :=
  { s with
    esp := p.1
    request := (p.2.map s.ticket).or s.request
    nextRequestId := if s.nextRequestId + 1 = 0 then 1 else s.nextRequestId + 1
    requestCount := s.requestCount + 1 }

def read (s : SplitLink) (as : ReadAs) : SplitLink :=
  match s.response with
  | none => s
  | some reply =>
    { s with
      esp := s.esp.readResponse reply.frame as
      response := none
      settled := if as = .writeState then s.settled ++ [(s.writeTicket, reply)] else s.settled }

/-- The rest of a poll, behind the reading of the status. -/
def acted (s : SplitLink) (rxReady : Bool) : PollAction → SplitLink
  | .nothing => s
  | .drain => { s with esp := s.esp.beginFullResync 0, response := none }
  | .resetMailbox => { s with esp := s.esp.beginFullResync 0, request := none, response := none }
  | .capsTimeout =>
    { s with
      esp := s.esp.beginFullResync 0
      request := if rxReady then none else s.request
      response := if rxReady then none else s.response }
  | .sendCaps => s.make s.esp.sendCapsRequest
  | .sendDefs => s.make s.esp.sendDefsSnapshotRequest
  | .sendStates => s.make (s.esp.sendStatesSnapshotRequest s.esp.nextStatesStartIndex)
  | .refresh => s.make s.esp.refreshStates
  | .sendWriteState =>
    { s.make s.esp.sendWriteStateRequest with writeTicket := s.esp.pendingWriteState.map s.ticket }
  | .read as => s.read as

def respond (s : SplitLink) (writeStatus : UInt8) : SplitLink :=
  match s.serving with
  | none => s
  | some t =>
    let (f, c) := service s.resolvePointState s.catalog writeStatus t.request
    { s with
      catalog := c
      serving := none
      response := some ⟨some t, f⟩
      answered := if t.isWrite then s.answered ++ [t] else s.answered }

def endPump (s : SplitLink) : SplitLink :=
  if s.pumping then
    { s with
      catalog := (pumpUpdates s.resolvePointState s.catalog).2
      response := (pumpUpdates s.resolvePointState s.catalog).1.map fun frame => ⟨none, frame⟩
      pumping := false }
  else s

def next (s : SplitLink) : SplitEvent → SplitLink
  | .work w => { s with catalog := w.apply s.catalog }
  | .runtime resolvePointState => { s with resolvePointState := resolvePointState }
  | .take =>
    if s.serving = none ∧ s.response = none ∧ s.pumping = false then
      { s with serving := s.request, request := none }
    else s
  | .respond writeStatus => s.respond writeStatus
  | .beginPump =>
    if s.request = none ∧ s.serving = none ∧ s.response = none then { s with pumping := true }
    else s
  | .endPump => s.endPump
  | .readStatus => { s with status := some (s.request.isSome, s.response.isSome) }
  | .act timedOut =>
    match s.status with
    | none => s
    | some (rxReady, responseReady) =>
      { s with status := none }.acted rxReady (s.esp.pollAction rxReady responseReady timedOut)
  | .askRefresh =>
    if s.esp.capsResponseSeen && !s.esp.statesRequestSent && s.esp.statesResponseSeen then
      { s with esp := { s.esp with refreshRequested := true } }
    else s
  | .askWrite pointIndex expectedValueType valueBits =>
    if s.esp.capsResponseSeen && s.esp.statesResponseSeen && s.esp.pendingWriteState.isNone &&
        !s.esp.writeStateRequestSent then
      { s with esp := { s.esp with
          pendingWriteState := some (.writeState pointIndex expectedValueType valueBits) } }
    else s

/-- An update and a write pass each other: the update is made when the mailbox was empty and put
there while the write waits, or it has come since the poll that sends the write has looked. -/
def crosses (s : SplitLink) : SplitEvent → Bool
  | .endPump => s.pumping && s.request.any Ticket.isWrite &&
      (pumpUpdates s.resolvePointState s.catalog).1.isSome
  | .act timedOut => s.response.isSome && s.status.any fun status =>
      s.esp.pollAction status.1 status.2 timedOut = .sendWriteState
  | _ => false

/-- The write whose answer is in the mailbox. -/
def answerWaiting (s : SplitLink) : Option Ticket :=
  (s.response.bind Reply.answers).filter Ticket.isWrite

/-- Each write that was cleared as answered was cleared by its own answer, and each answer has
cleared one write, or is still in the mailbox. -/
structure WritesSettled (s : SplitLink) : Prop where
  own : ∀ p ∈ s.settled, ∃ t, p.1 = some t ∧ p.2.answers = some t ∧
    p.2.frame.payload.readAs = .writeState
  once : s.answered.map some = s.settled.map (·.1) ++ (s.answerWaiting.map some).toList
  distinct : s.answered.Nodup

/-- The requests whose answers are still to come, in their order. -/
def underWay (s : SplitLink) : List Ticket :=
  (s.response.bind Reply.answers).toList ++ s.serving.toList ++ s.request.toList

def kinds (tickets : List Ticket) : List ReadAs := tickets.map fun t => t.request.readAs

structure ReplyOk (reply : Reply) : Prop where
  answer : ∀ t, reply.answers = some t → reply.frame.payload.readAs = t.request.readAs
  update : reply.answers = none → reply.frame.payload.readAs = .unsolicited

/-- What holds as long as no update and write pass each other. -/
structure SplitOk (s : SplitLink) : Prop where
  flags : s.esp.FlagsOk
  flight : s.esp.FlightOk (kinds s.underWay)
  serving : s.serving.isSome = true → s.response = none
  pumping : s.pumping = true → s.serving = none ∧ s.response = none
  reply : ∀ reply, s.response = some reply → ReplyOk reply
  apart : s.esp.writeStateRequestSent = true → ∀ reply, s.response = some reply →
    reply.answers.isSome = true
  first : s.esp.writeStateRequestSent = true → s.underWay.head? = s.writeTicket
  pending : ∀ r, s.esp.pendingWriteState = some r → r.readAs = .writeState
  status : ∀ rxReady responseReady, s.status = some (rxReady, responseReady) →
    (rxReady = false → s.request = none) ∧ (responseReady = true → s.response.isSome = true)

theorem start_split : SplitOk start where
  flags := start_flags
  flight := start_flight
  serving h := by cases h
  pumping h := by cases h
  reply _ h := by cases h
  apart h := by cases h
  first h := by cases h
  pending _ h := by cases h
  status _ _ h := by cases h

variable {s : SplitLink}

theorem SplitOk.looked (h : SplitOk s) : SplitOk { s with status := none } where
  flags := h.flags
  flight := h.flight
  serving := h.serving
  pumping := h.pumping
  reply := h.reply
  apart := h.apart
  first := h.first
  pending := h.pending
  status _ _ hstatus := by cases hstatus

theorem SplitOk.answering_short (h : SplitOk s) :
    ((s.response.bind Reply.answers).toList ++ s.serving.toList).length ≤ 1 := by
  cases hserving : s.serving with
  | none =>
    rw [Option.toList_none, List.append_nil]
    cases s.response.bind Reply.answers <;> simp
  | some t =>
    rw [h.serving (by rw [hserving]; rfl)]
    simp

theorem SplitOk.flight_short (h : SplitOk s) (hnone : s.request = none) :
    (kinds s.underWay).length ≤ 1 := by
  rw [kinds, List.length_map, underWay, hnone, Option.toList_none, List.append_nil]
  exact h.answering_short

/-- A resync, which may empty the mailbox. -/
theorem SplitOk.resynced (h : SplitOk s) (hstatus : s.status = none)
    (hwrite : s.esp.writeStateRequestSent = false) (g : UInt32) {request : Option Ticket}
    {response : Option Reply} (hrequest : request = none ∨ request = s.request)
    (hresponse : response = none ∨ response = s.response) :
    SplitOk { s with
      esp := s.esp.beginFullResync g
      request := request
      response := response } := by
  have hmem : ∀ t ∈ (response.bind Reply.answers).toList ++ s.serving.toList ++ request.toList,
      t ∈ s.underWay := by
    intro t ht
    rw [underWay]
    obtain rfl | rfl := hrequest <;> obtain rfl | rfl := hresponse <;>
      simp only [List.mem_append, Option.bind_none, Option.toList_none, List.not_mem_nil, false_or,
        or_false] at ht ⊢
    · exact .inl (.inr ht)
    · exact .inl ht
    · obtain ht | ht := ht
      · exact .inl (.inr ht)
      · exact .inr ht
    · exact ht
  have hshort : ((response.bind Reply.answers).toList ++ s.serving.toList).length ≤ 1 := by
    obtain rfl | rfl := hresponse
    · cases s.serving <;> simp
    · exact h.answering_short
  refine ⟨beginFullResync_flags _ g, resync_flight _ g ?_ ?_, fun hserving => ?_,
    fun hpumping => ?_, fun reply hreply => ?_, fun hsent => (by cases hsent),
    fun hsent => (by cases hsent),
    fun r hr => (by cases hr), fun _ _ hs => ?_⟩
  · rw [kinds, List.length_map, underWay, List.length_append]
    have hlast : request.toList.length ≤ 1 := by cases request <;> simp
    have hfirst : ((response.bind Reply.answers).toList ++ s.serving.toList).length ≤ 1 := hshort
    change ((response.bind Reply.answers).toList ++ s.serving.toList).length +
      request.toList.length ≤ 2
    omega
  · intro hin
    obtain ⟨t, ht, hkind⟩ := List.mem_map.mp hin
    exact h.flight.noWrite hwrite (List.mem_map.mpr ⟨t, hmem t ht, hkind⟩)
  · obtain rfl | rfl := hresponse
    · rfl
    · exact h.serving hserving
  · refine ⟨(h.pumping hpumping).1, ?_⟩
    obtain rfl | rfl := hresponse
    · rfl
    · exact (h.pumping hpumping).2
  · obtain rfl | rfl := hresponse
    · cases hreply
    · exact h.reply reply hreply
  · rw [hstatus] at hs
    cases hs

/-! A request is made. -/

theorem underWay_make (hnone : s.request = none) (p : Esp × Option Request) :
    (s.make p).underWay = s.underWay ++ (p.2.map s.ticket).toList := by
  rw [underWay, underWay, hnone, Option.toList_none, List.append_nil, make, hnone]
  change _ ++ ((p.2.map s.ticket).or none).toList = _
  rw [Option.or_none]

theorem kinds_make (hnone : s.request = none) (p : Esp × Option Request) :
    kinds (s.make p).underWay = kinds s.underWay ++ (p.2.map Request.readAs).toList := by
  rw [underWay_make hnone, kinds, List.map_append]
  cases p.2 <;> rfl

theorem SplitOk.make (h : SplitOk s) (hstatus : s.status = none) (hnone : s.request = none)
    {p : Esp × Option Request} (hflags : p.1.FlagsOk)
    (hflight : p.1.FlightOk (kinds s.underWay ++ (p.2.map Request.readAs).toList))
    (hwrite : p.1.writeStateRequestSent = s.esp.writeStateRequestSent)
    (hpending : p.1.pendingWriteState = s.esp.pendingWriteState) : SplitOk (s.make p) where
  flags := hflags
  flight := by
    rw [kinds_make hnone]
    exact hflight
  serving := h.serving
  pumping := h.pumping
  reply := h.reply
  apart hsent := h.apart (hwrite ▸ hsent)
  first hsent := by
    have hsent' : s.esp.writeStateRequestSent = true := hwrite ▸ hsent
    have hhead := h.first hsent'
    rw [underWay_make hnone, List.head?_append]
    cases hunder : s.underWay with
    | nil =>
      have hkinds := h.flight.write hsent'
      rw [hunder] at hkinds
      cases hkinds
    | cons t rest =>
      rw [hunder] at hhead
      exact hhead
  pending r hr := h.pending r (hpending ▸ hr)
  status rxReady responseReady hs := by
    change s.status = _ at hs
    rw [hstatus] at hs
    cases hs

end SplitLink

/-! The steps of the link keep what is under way in order. -/

namespace SplitLink

variable {s : SplitLink}

/-! A response is read. -/

theorem readResponse_pending (e : Esp) (f : Frame) (as : ReadAs) :
    (e.readResponse f as).pendingWriteState = e.pendingWriteState ∨
      (e.readResponse f as).pendingWriteState = none := by
  have hreads := e.readResponse_reads f as
  generalize e.readResponse f as = next at hreads ⊢
  cases hreads with
  | absorbs sequence keepsWrite hquiet =>
    cases keepsWrite with
    | true => exact .inl rfl
    | false => exact .inr rfl
  | resyncs records sequence keepsWrite g => exact .inr rfl
  | caps _ _ _ _ _ _ => exact .inl rfl
  | defs chunk records _ _ =>
    obtain ⟨cached, total, hstored⟩ :=
      storeDefsChunk_eq { e with defsRequestSent := false } chunk records
    rw [Esp.defsChunkSeen, hstored]
    exact .inl rfl
  | states chunk records _ _ =>
    obtain ⟨cached, sequence, place, seen, view, published, hseen⟩ :=
      statesChunkSeen_eq e chunk records
    rw [hseen]
    exact .inl rfl

theorem readResponse_write (e : Esp) (f : Frame) (as : ReadAs)
    (h : e.writeStateRequestSent = false ∨ as = .writeState) :
    (e.readResponse f as).writeStateRequestSent = false := by
  obtain h | rfl := h
  · have hreads := e.readResponse_reads f as
    generalize e.readResponse f as = next at hreads ⊢
    cases hreads with
    | absorbs sequence keepsWrite hquiet => simp [touched, h]
    | resyncs records sequence keepsWrite g => rfl
    | caps _ _ _ _ _ _ => exact h
    | defs chunk records _ _ =>
      obtain ⟨cached, total, hstored⟩ :=
        storeDefsChunk_eq { e with defsRequestSent := false } chunk records
      rw [Esp.defsChunkSeen, hstored]
      exact h
    | states chunk records _ _ =>
      obtain ⟨cached, sequence, place, seen, view, published, hseen⟩ :=
        statesChunkSeen_eq e chunk records
      rw [hseen]
      exact h
  · rw [readResponse]
    cases f.payload with
    | statesUpdates statesSequence records =>
      obtain ⟨sequence, h⟩ | ⟨sequence, g, h⟩ := processStateUpdateFrame_cases
        { e with writeStateRequestSent := false, pendingWriteState := none } f.generation
        statesSequence records
      · exact (congrArg writeStateRequestSent h).trans rfl
      · exact (congrArg writeStateRequestSent h).trans rfl
    | _ => rfl

theorem request_answered (r : Request) : r.readAs ≠ .unsolicited := by
  cases r <;> exact fun h => by cases h

theorem readAs_write {e : Esp} (hflags : e.FlagsOk) (hwrite : e.writeStateRequestSent = true)
    (rxReady timedOut : Bool) : e.pollAction rxReady true timedOut = .read .writeState := by
  have hcaps : e.capsResponseSeen = true := by
    cases hnone : e.capsResponseSeen with
    | true => rfl
    | false => exact (false_of_flag hwrite (hflags.noCaps hnone).2.2.2).elim
  have hpending : e.resyncPending = false := by
    cases hpending : e.resyncPending with
    | false => rfl
    | true => exact (false_of_flag hcaps (hflags.pending hpending).1).elim
  simp [pollAction, hcaps, hpending, hwrite]

theorem underWay_read {reply : Reply} (hresponse : s.response = some reply) :
    s.underWay = reply.answers.toList ++ (s.serving.toList ++ s.request.toList) := by
  rw [underWay, hresponse, Option.bind_some, List.append_assoc]

theorem SplitOk.read (h : SplitOk s) (hstatus : s.status = none) {as : ReadAs}
    {rxReady timedOut : Bool} (hact : s.esp.pollAction rxReady true timedOut = .read as)
    {reply : Reply} (hresponse : s.response = some reply) : SplitOk (s.read as) := by
  have hguard := s.esp.pollAction_guard rxReady true timedOut
  rw [hact] at hguard
  have hserving : s.serving = none := by
    cases hserving : s.serving with
    | none => rfl
    | some t =>
      have hnone := h.serving (by rw [hserving]; rfl)
      rw [hresponse] at hnone
      cases hnone
  have hflight := h.flight
  rw [underWay_read hresponse, hserving] at hflight
  have hnext : (s.esp.readResponse reply.frame as).FlightOk (kinds s.request.toList) := by
    cases hanswers : reply.answers with
    | none =>
      rw [hanswers] at hflight
      have hwrite : s.esp.writeStateRequestSent = false := by
        cases hwrite : s.esp.writeStateRequestSent with
        | false => rfl
        | true =>
          have hsome := h.apart hwrite reply hresponse
          rw [hanswers] at hsome
          cases hsome
      exact hflight.updated hwrite ((h.reply reply hresponse).update hanswers)
    | some t =>
      rw [hanswers] at hflight
      have hkind := (h.reply reply hresponse).answer t hanswers
      cases hwrite : s.esp.writeStateRequestSent with
      | false => exact hflight.read h.flags hwrite hguard hkind (request_answered t.request)
      | true =>
        have has : as = .writeState := by
          rw [readAs_write h.flags hwrite] at hact
          cases hact
          rfl
        have hfirst := hflight.write hwrite
        rw [has]
        exact hflight.written h.flags hwrite (hkind.trans (List.cons.inj hfirst).1)
  have hended : (s.esp.readResponse reply.frame as).writeStateRequestSent = false := by
    apply readResponse_write
    cases hwrite : s.esp.writeStateRequestSent with
    | false => exact .inl rfl
    | true =>
      rw [readAs_write h.flags hwrite] at hact
      cases hact
      exact .inr rfl
  have hread : s.read as = { s with
      esp := s.esp.readResponse reply.frame as
      response := none
      settled := if as = .writeState then s.settled ++ [(s.writeTicket, reply)]
        else s.settled } := by
    rw [SplitLink.read, hresponse]
  rw [hread]
  refine ⟨h.flags.readResponse hguard, ?_, fun _ => rfl, fun hpumping => ⟨hserving, rfl⟩,
    fun _ hnone => (by cases hnone), fun _ _ hnone => (by cases hnone),
    fun hsent => (false_of_flag hsent hended).elim, fun r hr => ?_, fun _ _ hs => ?_⟩
  · change Esp.FlightOk _ (kinds (s.serving.toList ++ s.request.toList))
    rw [hserving]
    exact hnext
  · obtain hkept | hgone := readResponse_pending s.esp reply.frame as
    · exact h.pending r (hkept ▸ hr)
    · change Esp.pendingWriteState _ = _ at hr
      rw [hgone] at hr
      cases hr
  · change s.status = _ at hs
    rw [hstatus] at hs
    cases hs

/-! The rest of a poll. -/

theorem pollAction_sendWriteState {e : Esp} {rxReady responseReady timedOut : Bool}
    (h : e.pollAction rxReady responseReady timedOut = .sendWriteState) :
    e.pendingWriteState.isSome = true ∧ e.writeStateRequestSent = false := by
  cases hwants : e.pendingWriteState.isSome && !e.writeStateRequestSent with
  | true => simpa using hwants
  | false =>
    refine absurd h ?_
    rw [pollAction, hwants, Bool.false_and, Bool.false_and]
    repeat' refine ite_action (P := fun a => a ≠ .sendWriteState) (fun _ => ?_) fun _ => ?_
    all_goals first | contradiction | decide

theorem SplitOk.acted (h : SplitOk s) (hstatus : s.status = none)
    {rxReady responseReady timedOut : Bool} (hrx : rxReady = false → s.request = none)
    (hresponse : responseReady = true → s.response.isSome = true) {action : PollAction}
    (hact : s.esp.pollAction rxReady responseReady timedOut = action)
    (hapart : action = .sendWriteState → s.response = none) : SplitOk (s.acted rxReady action) := by
  have hguard := s.esp.pollAction_guard rxReady responseReady timedOut
  rw [hact] at hguard
  cases action with
  | nothing => exact h
  | drain =>
    exact h.resynced hstatus (h.flags.noCaps hguard.2.2.1).2.2.2 0 (.inr rfl) (.inl rfl)
  | resetMailbox =>
    exact h.resynced hstatus (h.flags.noCaps hguard.2.2).2.2.2 0 (.inl rfl) (.inl rfl)
  | capsTimeout =>
    apply h.resynced hstatus (h.flags.noCaps hguard.2).2.2.2 0
    · cases rxReady with
      | true => exact .inl rfl
      | false => exact .inr rfl
    · cases rxReady with
      | true => exact .inl rfl
      | false => exact .inr rfl
  | sendCaps =>
    have hnone := hrx hguard.2.1
    exact h.make hstatus hnone (h.flags.sendCapsRequest (h.flags.caps_of_guard hguard))
      (h.flight.sendCaps h.flags (h.flight_short hnone) hguard) rfl rfl
  | sendDefs =>
    have hnone := hrx hguard.2.2.2
    apply h.make hstatus hnone (h.flags.sendDefsSnapshotRequest hguard.1 hguard.2.2.1)
      (h.flight.sendDefs h.flags (h.flight_short hnone) hguard)
    · rw [sendDefsSnapshotRequest]
      split <;> rfl
    · rw [sendDefsSnapshotRequest]
      split <;> rfl
  | sendStates =>
    obtain ⟨hdefs, hunsent, hstates, hready, hasked⟩ := hguard
    have hnone := hrx hready
    apply h.make hstatus hnone (h.flags.sendStatesSnapshotRequest hdefs hstates hasked _)
      (h.flight.sendStates (h.flight_short hnone) hdefs hunsent hstates _)
    · rw [sendStatesSnapshotRequest]
      dsimp only
      split <;> rfl
    · rw [sendStatesSnapshotRequest]
      dsimp only
      split <;> rfl
  | refresh =>
    have hnone := hrx hguard.2.2.2.1
    apply h.make hstatus hnone (h.flags.refreshStates hguard.1 hguard.2.1)
      (h.flight.refresh h.flags (h.flight_short hnone) hguard)
    · rw [refreshStates, sendStatesSnapshotRequest]
      dsimp only
      split <;> rfl
    · rw [refreshStates, sendStatesSnapshotRequest]
      dsimp only
      split <;> rfl
  | sendWriteState =>
    obtain ⟨hidle, hready, -⟩ := hguard
    have hnone := hrx hready
    have hempty := hapart rfl
    obtain ⟨hsome, hwrite⟩ := pollAction_sendWriteState hact
    obtain ⟨r, hr⟩ := Option.isSome_iff_exists.mp hsome
    have hkind := h.pending r hr
    have hidle' := hidle
    simp only [isRuntimeIdleReady, Bool.and_eq_true] at hidle'
    have hkinds : kinds s.underWay = [] := h.flight.idle hwrite hidle'.1.1.1.2
    have hunder : s.underWay = [] := List.map_eq_nil_iff.mp hkinds
    have hsent : s.esp.sendWriteStateRequest.2 = some r := hr
    have hmade : (s.make s.esp.sendWriteStateRequest).underWay = [s.ticket r] := by
      rw [underWay_make hnone, hunder, hsent]
      rfl
    refine ⟨h.flags.sendWriteStateRequest hidle, ?_, h.serving, h.pumping, h.reply,
      fun _ reply hreply => ?_, fun _ => ?_, h.pending, fun _ _ hs => ?_⟩
    · change Esp.FlightOk _ (kinds (s.make s.esp.sendWriteStateRequest).underWay)
      have hflight := h.flight.sendWrite hwrite hidle
      rw [hkinds] at hflight
      rw [hmade]
      change Esp.FlightOk _ [r.readAs]
      rw [hkind]
      exact hflight
    · change s.response = some reply at hreply
      rw [hempty] at hreply
      cases hreply
    · change (s.make s.esp.sendWriteStateRequest).underWay.head? =
        s.esp.pendingWriteState.map s.ticket
      rw [hmade, hr]
      rfl
    · change s.status = _ at hs
      rw [hstatus] at hs
      cases hs
  | read as =>
    have hready : responseReady = true := by
      cases as with
      | writeState => exact hguard.2
      | unsolicited => exact hguard.1
      | caps => exact hguard.2.2
      | defs => exact hguard.2.2
      | states => exact hguard.2.2.1
    rw [hready] at hact
    obtain ⟨reply, hreply⟩ := Option.isSome_iff_exists.mp (hresponse hready)
    exact h.read hstatus hact hreply

theorem SplitOk.asked (h : SplitOk s) {esp : Esp} (hsame : SameFlags s.esp esp)
    (hflags : esp.FlagsOk)
    (hpending : ∀ r, esp.pendingWriteState = some r → r.readAs = .writeState) :
    SplitOk { s with esp := esp } :=
  ⟨hflags, h.flight.same hsame, h.serving, h.pumping, h.reply,
    fun hsent => h.apart (hsame.write ▸ hsent), fun hsent => h.first (hsame.write ▸ hsent),
    hpending, h.status⟩

theorem SplitOk.took (h : SplitOk s) : SplitOk (s.next .take) := by
  rw [SplitLink.next]
  split
  next hfree =>
    obtain ⟨hserving, hresponse, hpumping⟩ := hfree
    have hunder : (s.response.bind Reply.answers).toList ++ s.request.toList ++
        (none : Option Ticket).toList = s.underWay := by
      rw [underWay, hserving]
      simp
    refine ⟨h.flags, ?_, fun _ => hresponse, fun hpump => ?_, h.reply, h.apart, fun hsent => ?_,
      h.pending, fun rxReady responseReady hs => ⟨fun _ => rfl, (h.status _ _ hs).2⟩⟩
    · change Esp.FlightOk _ (kinds ((s.response.bind Reply.answers).toList ++ s.request.toList ++
        (none : Option Ticket).toList))
      rw [hunder]
      exact h.flight
    · change s.pumping = true at hpump
      rw [hpumping] at hpump
      cases hpump
    · change ((s.response.bind Reply.answers).toList ++ s.request.toList ++
        (none : Option Ticket).toList).head? = _
      rw [hunder]
      exact h.first hsent
  next => exact h

theorem SplitOk.responded (h : SplitOk s) (writeStatus : UInt8) :
    SplitOk (s.next (.respond writeStatus)) := by
  rw [SplitLink.next, SplitLink.respond]
  cases hserving : s.serving with
  | none => exact h
  | some t =>
    have hresponse := h.serving (by rw [hserving]; rfl)
    have hunder : s.underWay = t :: s.request.toList := by
      rw [underWay, hserving, hresponse]
      rfl
    have hflight := h.flight
    rw [hunder] at hflight
    refine ⟨h.flags, hflight, fun hnone => (by cases hnone), fun hpumping => ?_,
      fun reply hreply => ?_, fun _ reply hreply => ?_, fun hsent => ?_, h.pending,
      fun rxReady responseReady hs => ⟨(h.status _ _ hs).1, fun _ => rfl⟩⟩
    · have hnone := (h.pumping hpumping).1
      rw [hserving] at hnone
      cases hnone
    · cases hreply
      refine ⟨fun t' ht => ?_, fun hnone => (by cases hnone)⟩
      cases ht
      exact service_readAs s.resolvePointState s.catalog writeStatus t.request
    · cases hreply
      rfl
    · have hfirst := h.first hsent
      rw [hunder] at hfirst
      exact hfirst

/-- The update goes into an empty mailbox, and past no write request. -/
theorem SplitOk.pumped (h : SplitOk s) (happart : s.crosses .endPump = false) :
    SplitOk (s.next .endPump) := by
  rw [SplitLink.next, SplitLink.endPump]
  split
  next hpumping =>
    obtain ⟨hserving, hresponse⟩ := h.pumping hpumping
    have hunder : s.underWay = s.request.toList := by
      rw [underWay, hserving, hresponse]
      rfl
    have hquiet : ((((pumpUpdates s.resolvePointState s.catalog).1.map
        fun frame => Reply.mk none frame).bind Reply.answers).toList ++ s.serving.toList ++
          s.request.toList) = s.underWay := by
      rw [hunder, hserving]
      cases (pumpUpdates s.resolvePointState s.catalog).1 <;> rfl
    have hreply : ∀ reply, ((pumpUpdates s.resolvePointState s.catalog).1.map
        fun frame => Reply.mk none frame) = some reply →
          ∃ f, (pumpUpdates s.resolvePointState s.catalog).1 = some f ∧ reply = ⟨none, f⟩ := by
      intro reply hreply
      obtain ⟨f, hf, rfl⟩ := Option.map_eq_some_iff.mp hreply
      exact ⟨f, hf, rfl⟩
    refine ⟨h.flags, ?_, fun hsome => ?_, fun hpump => (by cases hpump), fun reply hr => ?_,
      fun hsent reply hr => ?_, fun hsent => ?_, h.pending, fun rxReady responseReady hs => ?_⟩
    · have hflight := h.flight
      rw [← hquiet] at hflight
      exact hflight
    · rw [hserving] at hsome
      cases hsome
    · obtain ⟨f, hf, rfl⟩ := hreply reply hr
      exact ⟨fun t ht => (by cases ht), fun _ => pumpUpdates_readAs hf⟩
    · obtain ⟨f, hf, -⟩ := hreply reply hr
      have hkinds := h.flight.write hsent
      rw [hunder] at hkinds
      cases hrequest : s.request with
      | none =>
        rw [hrequest] at hkinds
        cases hkinds
      | some t =>
        rw [hrequest] at hkinds
        have hwrite : t.isWrite = true := decide_eq_true (List.cons.inj hkinds).1
        rw [crosses, hpumping, hrequest, Option.any_some, hwrite, hf] at happart
        cases happart
    · have hfirst := h.first hsent
      rw [← hquiet] at hfirst
      exact hfirst
    · obtain ⟨hrx, hready⟩ := h.status _ _ hs
      refine ⟨hrx, fun htrue => ?_⟩
      have hsome := hready htrue
      rw [hresponse] at hsome
      cases hsome
  next => exact h

theorem SplitOk.next (h : SplitOk s) {event : SplitEvent} (happart : s.crosses event = false) :
    SplitOk (s.next event) := by
  cases event with
  | work w => exact ⟨h.flags, h.flight, h.serving, h.pumping, h.reply, h.apart, h.first, h.pending,
      h.status⟩
  | runtime resolvePointState => exact ⟨h.flags, h.flight, h.serving, h.pumping, h.reply, h.apart,
      h.first, h.pending, h.status⟩
  | take => exact h.took
  | respond writeStatus => exact h.responded writeStatus
  | beginPump =>
    rw [SplitLink.next]
    split
    next hfree =>
      exact ⟨h.flags, h.flight, h.serving, fun _ => hfree.2, h.reply, h.apart, h.first, h.pending,
        h.status⟩
    next => exact h
  | endPump => exact h.pumped happart
  | readStatus =>
    refine ⟨h.flags, h.flight, h.serving, h.pumping, h.reply, h.apart, h.first, h.pending,
      fun rxReady responseReady hs => ?_⟩
    cases hs
    refine ⟨fun hnone => ?_, id⟩
    change s.request = none
    cases hrequest : s.request with
    | none => rfl
    | some t =>
      rw [hrequest] at hnone
      cases hnone
  | act timedOut =>
    rw [SplitLink.next]
    cases hstatus : s.status with
    | none => exact h
    | some status =>
      obtain ⟨hrx, hresponse⟩ := h.status status.1 status.2 hstatus
      refine h.looked.acted rfl hrx hresponse rfl fun haction => ?_
      rw [crosses, hstatus, Option.any_some, haction] at happart
      simpa using happart
  | askRefresh =>
    rw [SplitLink.next]
    split
    · exact h.asked ⟨rfl, rfl, rfl, rfl, rfl, rfl, rfl⟩ (h.flags.wished _ _) h.pending
    · exact h
  | askWrite pointIndex expectedValueType valueBits =>
    rw [SplitLink.next]
    split
    · refine h.asked ⟨rfl, rfl, rfl, rfl, rfl, rfl, rfl⟩ (h.flags.wished _ _) fun r hr => ?_
      cases hr
      rfl
    · exact h

end SplitLink

end NodeNet.Link

import NodeNet.Link.Generations
import NodeNet.Link.SplitSteps

/-! Each write of the ESP32 is settled by its own answer, where no update crosses it. -/
namespace NodeNet.Link
open NodeNet.Points NodeNet.Catalog NodeNet.Machine Esp

namespace SplitLink

variable {s : SplitLink}

/-! The numbers of the requests rise. -/

/-- Tickets in the order of their making, of which the next has this number. -/
structure Rising (next : Nat) (tickets : List Ticket) : Prop where
  rising : (tickets.map Ticket.number).Pairwise (· < ·)
  below : ∀ t ∈ tickets, t.number < next

variable {tickets : List Ticket}

theorem Rising.sublist {n : Nat} {part : List Ticket} (h : Rising n tickets)
    (hpart : part.Sublist tickets) : Rising n part :=
  ⟨h.rising.sublist (hpart.map _), fun t ht => h.below t (hpart.subset ht)⟩

theorem Rising.append {n : Nat} (h : Rising n tickets) {t : Ticket} (ht : t.number = n) :
    Rising (n + 1) (tickets ++ [t]) := by
  constructor
  · rw [List.map_append, List.pairwise_append]
    refine ⟨h.rising, by simp, fun a ha b hb => ?_⟩
    obtain ⟨u, hu, rfl⟩ := List.mem_map.mp ha
    rw [List.map_singleton, List.mem_singleton, ht] at hb
    rw [hb]
    exact h.below u hu
  · intro u hu
    obtain hu | hu := List.mem_append.mp hu
    · exact Nat.lt_succ_of_lt (h.below u hu)
    · rw [List.mem_singleton.mp hu, ht]
      exact Nat.lt_succ_self n

theorem Rising.succ {n : Nat} (h : Rising n tickets) : Rising (n + 1) tickets :=
  ⟨h.rising, fun t ht => Nat.lt_succ_of_lt (h.below t ht)⟩

theorem Rising.nodup {n : Nat} (h : Rising n tickets) : tickets.Nodup :=
  List.Pairwise.of_map Ticket.number
    (fun _ _ hlt heq => absurd (congrArg Ticket.number heq) (Nat.ne_of_lt hlt)) h.rising

def Numbered (s : SplitLink) : Prop :=
  Rising s.requestCount (s.answered ++ s.serving.toList ++ s.request.toList)

theorem Numbered.make (h : Numbered s) (hnone : s.request = none) (p : Esp × Option Request) :
    Numbered (s.make p) := by
  rw [Numbered, hnone, Option.toList_none, List.append_nil] at h
  rw [Numbered, SplitLink.make, hnone]
  change Rising (s.requestCount + 1) (s.answered ++ s.serving.toList ++
    ((p.2.map s.ticket).or none).toList)
  cases p.2 with
  | none =>
    rw [Option.map_none, Option.none_or, Option.toList_none, List.append_nil]
    exact h.succ
  | some r => exact h.append rfl

theorem Numbered.emptied (h : Numbered s) {request : Option Ticket}
    (hrequest : request = none ∨ request = s.request) :
    Rising s.requestCount (s.answered ++ s.serving.toList ++ request.toList) := by
  obtain rfl | rfl := hrequest
  · rw [Option.toList_none, List.append_nil]
    exact h.sublist (List.sublist_append_left _ _)
  · exact h

theorem Numbered.acted (h : Numbered s) {rxReady responseReady timedOut : Bool}
    (hrx : rxReady = false → s.request = none) {action : PollAction}
    (hact : s.esp.pollAction rxReady responseReady timedOut = action) :
    Numbered (s.acted rxReady action) := by
  have hguard := s.esp.pollAction_guard rxReady responseReady timedOut
  rw [hact] at hguard
  cases action with
  | nothing => exact h
  | drain => exact h
  | resetMailbox => exact h.emptied (.inl rfl)
  | capsTimeout =>
    apply h.emptied
    cases rxReady with
    | true => exact .inl rfl
    | false => exact .inr rfl
  | sendCaps => exact h.make (hrx hguard.2.1) _
  | sendDefs => exact h.make (hrx hguard.2.2.2) _
  | sendStates => exact h.make (hrx hguard.2.2.2.1) _
  | refresh => exact h.make (hrx hguard.2.2.2.1) _
  | sendWriteState => exact h.make (hrx hguard.2.1) _
  | read as =>
    rw [SplitLink.acted, SplitLink.read]
    split <;> exact h

theorem Numbered.next (h : Numbered s) (hok : SplitOk s) (event : SplitEvent) :
    Numbered (s.next event) := by
  cases event with
  | take =>
    rw [SplitLink.next]
    split
    next hfree =>
      rw [Numbered, hfree.1] at h
      rw [Numbered]
      simpa using h
    next => exact h
  | respond writeStatus =>
    rw [SplitLink.next, SplitLink.respond]
    cases hserving : s.serving with
    | none => exact h
    | some t =>
      rw [Numbered, hserving] at h
      change Rising s.requestCount ((if t.isWrite then s.answered ++ [t] else s.answered) ++ [] ++
        s.request.toList)
      apply h.sublist
      split
      · simp
      · simp
  | beginPump =>
    rw [SplitLink.next]
    split <;> exact h
  | endPump =>
    rw [SplitLink.next, SplitLink.endPump]
    split <;> exact h
  | act timedOut =>
    rw [SplitLink.next]
    cases hstatus : s.status with
    | none => exact h
    | some status =>
      obtain ⟨hrx, -⟩ := hok.status status.1 status.2 hstatus
      exact Numbered.acted (s := { s with status := none }) h hrx rfl
  | askRefresh =>
    rw [SplitLink.next]
    split <;> exact h
  | askWrite pointIndex expectedValueType valueBits =>
    rw [SplitLink.next]
    split <;> exact h
  | _ => exact h

/-! The writes that were cleared as answered. -/

structure SettledOk (s : SplitLink) : Prop where
  own : ∀ p ∈ s.settled, ∃ t, p.1 = some t ∧ p.2.answers = some t ∧
    p.2.frame.payload.readAs = .writeState
  once : s.answered.map some = s.settled.map (·.1) ++ (s.answerWaiting.map some).toList

theorem SplitOk.none_waiting (h : SplitOk s) (hwrite : s.esp.writeStateRequestSent = false) :
    s.answerWaiting = none := by
  rw [answerWaiting, Option.filter_eq_none_iff]
  intro t ht hkind
  refine h.flight.noWrite hwrite (List.mem_map.mpr ⟨t, ?_, of_decide_eq_true hkind⟩)
  rw [underWay, ht]
  simp

theorem SettledOk.emptied (h : SettledOk s) (hok : SplitOk s)
    (hwrite : s.esp.writeStateRequestSent = false) {s' : SplitLink}
    (hanswered : s'.answered = s.answered) (hsettled : s'.settled = s.settled)
    (hresponse : s'.response = none ∨ s'.response = s.response) : SettledOk s' := by
  constructor
  · rw [hsettled]
    exact h.own
  · have hbefore := h.once
    have hnone := hok.none_waiting hwrite
    rw [hnone] at hbefore
    have hafter : s'.answerWaiting = none := by
      obtain hempty | hsame := hresponse
      · rw [answerWaiting, hempty]
        rfl
      · rw [answerWaiting, hsame]
        exact hnone
    rw [hanswered, hsettled, hafter]
    exact hbefore

theorem SplitOk.settles (h : SplitOk s) (hwrite : s.esp.writeStateRequestSent = true)
    {reply : Reply} (hresponse : s.response = some reply) :
    ∃ t, s.writeTicket = some t ∧ reply.answers = some t ∧ t.isWrite = true ∧
      reply.frame.payload.readAs = .writeState := by
  obtain ⟨t, ht⟩ := Option.isSome_iff_exists.mp (h.apart hwrite reply hresponse)
  have hunder := underWay_read hresponse
  rw [ht] at hunder
  have hfirst := h.first hwrite
  rw [hunder] at hfirst
  have hkinds := h.flight.write hwrite
  rw [hunder] at hkinds
  have hkind : t.request.readAs = .writeState := (List.cons.inj hkinds).1
  exact ⟨t, hfirst.symm, ht, decide_eq_true hkind,
    ((h.reply reply hresponse).answer t ht).trans hkind⟩

theorem SettledOk.read (h : SettledOk s) (hok : SplitOk s) {as : ReadAs} {rxReady timedOut : Bool}
    (hact : s.esp.pollAction rxReady true timedOut = .read as) : SettledOk (s.read as) := by
  rw [SplitLink.read]
  cases hresponse : s.response with
  | none => exact h
  | some reply =>
    cases hwrite : s.esp.writeStateRequestSent with
    | false =>
      have has : as ≠ .writeState := by
        intro heq
        have hguard := s.esp.pollAction_guard rxReady true timedOut
        rw [hact, heq] at hguard
        exact false_of_flag hguard.1 hwrite
      refine h.emptied hok hwrite ?_ ?_ ?_
      · rfl
      · exact if_neg has
      · exact .inl rfl
    | true =>
      have has : as = .writeState := by
        rw [readAs_write hok.flags hwrite] at hact
        cases hact
        rfl
      obtain ⟨t, hticket, hanswers, hkind, hpayload⟩ := hok.settles hwrite hresponse
      have hwaiting : s.answerWaiting = some t := by
        rw [answerWaiting, hresponse, Option.bind_some, hanswers, Option.filter_some, if_pos hkind]
      have honce := h.once
      rw [hwaiting] at honce
      dsimp only
      rw [if_pos has, hticket]
      constructor
      · intro p hp
        obtain hp | hp := List.mem_append.mp hp
        · exact h.own p hp
        · rw [List.mem_singleton.mp hp]
          exact ⟨t, rfl, hanswers, hpayload⟩
      · change s.answered.map some = (s.settled ++ [(some t, reply)]).map (·.1) ++ []
        rw [honce, List.map_append, List.append_nil]
        rfl

theorem SettledOk.acted (h : SettledOk s) (hok : SplitOk s) {rxReady responseReady timedOut : Bool}
    {action : PollAction} (hact : s.esp.pollAction rxReady responseReady timedOut = action) :
    SettledOk (s.acted rxReady action) := by
  have hguard := s.esp.pollAction_guard rxReady responseReady timedOut
  rw [hact] at hguard
  cases action with
  | drain =>
    exact h.emptied hok (hok.flags.noCaps hguard.2.2.1).2.2.2 rfl rfl (.inl rfl)
  | resetMailbox => exact h.emptied hok (hok.flags.noCaps hguard.2.2).2.2.2 rfl rfl (.inl rfl)
  | capsTimeout =>
    refine h.emptied hok (hok.flags.noCaps hguard.2).2.2.2 ?_ ?_ ?_
    · rfl
    · rfl
    · cases rxReady with
      | true => exact .inl rfl
      | false => exact .inr rfl
  | read as =>
    have hready : responseReady = true := by
      cases as with
      | writeState => exact hguard.2
      | unsolicited => exact hguard.1
      | caps => exact hguard.2.2
      | defs => exact hguard.2.2
      | states => exact hguard.2.2.1
    rw [hready] at hact
    exact h.read hok hact
  | _ => exact ⟨h.own, h.once⟩

theorem SettledOk.next (h : SettledOk s) (hok : SplitOk s) (event : SplitEvent) :
    SettledOk (s.next event) := by
  cases event with
  | respond writeStatus =>
    rw [SplitLink.next, SplitLink.respond]
    cases hserving : s.serving with
    | none => exact h
    | some t =>
      have hresponse := hok.serving (by rw [hserving]; rfl)
      have honce := h.once
      rw [answerWaiting, hresponse] at honce
      refine ⟨h.own, ?_⟩
      change (if t.isWrite then s.answered ++ [t] else s.answered).map some =
        s.settled.map (·.1) ++ (((some t).filter Ticket.isWrite).map some).toList
      rw [Option.filter_some]
      split
      · rw [List.map_append, honce]
        simp
      · rw [honce]
        rfl
  | endPump =>
    rw [SplitLink.next, SplitLink.endPump]
    split
    next hpumping =>
      have honce := h.once
      rw [answerWaiting, (hok.pumping hpumping).2] at honce
      refine ⟨h.own, ?_⟩
      rw [honce]
      have hnone : ((((pumpUpdates s.resolvePointState s.catalog).1.map
          fun frame => Reply.mk none frame).bind Reply.answers).filter Ticket.isWrite) = none := by
        cases (pumpUpdates s.resolvePointState s.catalog).1 <;> rfl
      rw [answerWaiting, hnone]
      rfl
    next => exact h
  | act timedOut =>
    rw [SplitLink.next]
    cases hstatus : s.status with
    | none => exact h
    | some status =>
      exact SettledOk.acted (s := { s with status := none }) ⟨h.own, h.once⟩ hok.looked rfl
  | take =>
    rw [SplitLink.next]
    split
    · exact ⟨h.own, h.once⟩
    · exact h
  | beginPump =>
    rw [SplitLink.next]
    split
    · exact ⟨h.own, h.once⟩
    · exact h
  | askRefresh =>
    rw [SplitLink.next]
    split
    · exact ⟨h.own, h.once⟩
    · exact h
  | askWrite pointIndex expectedValueType valueBits =>
    rw [SplitLink.next]
    split
    · exact ⟨h.own, h.once⟩
    · exact h
  | _ => exact ⟨h.own, h.once⟩

structure RunOk (s : SplitLink) : Prop where
  split : SplitOk s
  numbered : Numbered s
  settled : SettledOk s

/-- In a run in which no update and write pass each other, each write is settled by its own answer,
and each answer settles one write. -/
theorem writes_settled {events : List SplitEvent}
    (h : Along SplitLink.next (fun s event => s.crosses event = false) .start events) :
    WritesSettled (run SplitLink.next .start events) := by
  have hstart : RunOk .start :=
    ⟨start_split, ⟨by decide, by decide⟩, ⟨fun p hp => (by cases hp), rfl⟩⟩
  have hstep : ∀ (s : SplitLink) (event : SplitEvent), RunOk s → s.crosses event = false →
      RunOk (s.next event) := fun s event hok hapart =>
    ⟨hok.split.next hapart, hok.numbered.next hok.split event, hok.settled.next hok.split event⟩
  have hrun := run_inv hstep hstart h
  refine ⟨hrun.settled.own, hrun.settled.once, ?_⟩
  have hall := hrun.numbered.nodup
  rw [List.append_assoc] at hall
  exact (List.nodup_append.mp hall).1

/-- A request of the ESP32, and its answer. -/
def trip : List SplitEvent :=
  [.readStatus, .act false, .take, .respond 0, .readStatus, .act false]

def pointLoaded : List SplitEvent :=
  [.work (.edit (.upsert (samplePoint "a" "C")))] ++ trip ++ trip ++ trip ++ [.askWrite 0 1 7]

def stored : SplitEvent := .work (.store 0 { PointState.zero with value := 1 })

def updateBefore : List SplitEvent :=
  pointLoaded ++ [stored, .beginPump, .endPump, .readStatus, .act false] ++ trip

theorem updateBefore_settled :
    (run SplitLink.next .start updateBefore).settled.length = 1 ∧
      WritesSettled (run SplitLink.next .start updateBefore) :=
  ⟨by decide +kernel, writes_settled (by decide +kernel)⟩

/-- The SoC has seen an empty mailbox, then the write arrives, and then the update. -/
def updateCrossed : List SplitEvent :=
  pointLoaded ++ [stored, .beginPump, .readStatus, .act false, .endPump, .readStatus, .act false]

/-- The update settles the write, which the SoC has not even taken. -/
theorem updateCrossed_notSettled :
    ¬ WritesSettled (run SplitLink.next .start updateCrossed) := by
  intro h
  have hupdate : ((run SplitLink.next .start updateCrossed).settled.all
      fun p => p.2.answers.isSome) = false := by
    decide +kernel
  have hanswers : ((run SplitLink.next .start updateCrossed).settled.all
      fun p => p.2.answers.isSome) = true := by
    rw [List.all_eq_true]
    intro p hp
    obtain ⟨t, -, ht, -⟩ := h.own p hp
    rw [ht]
    rfl
  exact false_of_flag hanswers hupdate

end SplitLink

end NodeNet.Link

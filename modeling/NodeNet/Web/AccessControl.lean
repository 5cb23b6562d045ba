import NodeNet.Lib.Machine
import NodeNet.Web.Server

/-! What the guard lets through, and what it leaves of a handler whose request it refuses. -/
namespace NodeNet.Web

open Points Search

/-- The current cookie stands among the cookies of the header, from its start or a separator to its
end or the next semicolon. -/
def CarriesCookie (w : Server) (cookie : Option Text) : Prop :=
  w.authTokenValid = true ∧ ∃ header before after, cookie = some header ∧
    cString header = before ++ authCookie w ++ after ∧
    (before = [] ∨ before.getLast? = some 59 ∨ before.getLast? = some 32) ∧
    (after = [] ∨ after.head? = some 59)

theorem getLast?_take {text : Text} {pos : Nat} (hle : pos ≤ text.length) (hpos : pos ≠ 0) :
    (text.take pos).getLast? = text[pos - 1]? := by
  rw [List.getLast?_eq_getElem?, List.length_take, Nat.min_eq_left hle,
    List.getElem?_take_of_lt (by omega)]

variable {w : Server}

theorem carriesCookie_of_valid {cookie : Option Text}
    (h : requestHasValidAuthCookie w cookie = true) : CarriesCookie w cookie := by
  cases cookie with
  | none => simp [requestHasValidAuthCookie] at h
  | some header =>
    unfold requestHasValidAuthCookie at h
    simp only at h
    split at h
    · cases h
    · rename_i hchecks
      simp only [Bool.or_eq_true, Bool.not_eq_true', not_or, Bool.not_eq_false] at hchecks
      have hvalid : w.authTokenValid = true := hchecks.1.1.1
      split at h
      · cases h
      · rename_i pos hfind
        have hle := find_le hfind
        have hsplit := find_split hfind
        split at h
        · cases h
        · rename_i hbefore
          refine ⟨hvalid, header, (cString header).take pos,
            (cString header).drop (pos + (authCookie w).length), rfl, hsplit, ?_, ?_⟩
          · by_cases hpos : pos = 0
            · exact .inl (by simp [hpos])
            · rw [getLast?_take (by omega) hpos]
              have hcases : (cString header)[pos - 1]? = some 59 ∨
                  (cString header)[pos - 1]? = some 32 := by
                by_cases hsemicolon : (cString header)[pos - 1]? = some 59
                · exact .inl hsemicolon
                · exact .inr (by simpa [hpos, hsemicolon] using hbefore)
              exact .inr hcases
          · simp only [Bool.or_eq_true, decide_eq_true_eq] at h
            rcases h with h | h
            · exact .inl (by rw [h, List.drop_length])
            · exact .inr (by rw [List.head?_drop, h])

/-- Where the guard refuses: no anonymous access, no public URI, and not the current cookie. -/
structure Refused (w : Server) (r : Request) : Prop where
  anonymous : w.settings.anonymousAccess = false
  notPublic : isPublicUri r.uri = false
  cookie : ¬ CarriesCookie w r.cookie

def refusal : Reply := .error (ascii "401 Unauthorized") (ascii "authentication required")

theorem Refused.authenticated {r : Request} (h : Refused w r) :
    (getAuthStateForRequest w r.cookie).authenticated = false := by
  have hvalid : requestHasValidAuthCookie w r.cookie = false := by
    cases hvalid : requestHasValidAuthCookie w r.cookie with
    | false => rfl
    | true => exact absurd (carriesCookie_of_valid hvalid) h.cookie
  simp [getAuthStateForRequest, h.anonymous, hvalid, makeAnonymousAuthState]

theorem rejectIfUnauthenticated_refused {r : Request} (h : Refused w r) :
    rejectIfUnauthenticated r (.start w) = send r.sends refusal (.start w) := by
  have hauth : (getAuthStateForRequest (Exchange.start w).web r.cookie).authenticated = false :=
    h.authenticated
  rw [rejectIfUnauthenticated, h.notPublic, hauth]
  rfl

theorem guarded_sent {r : Request} (h : Refused w r) (hsent : r.sends 0 = true)
    (rest : Exchange → Outcome) : guarded r rest (.start w) = rest ⟨w, 1, 0, [refusal]⟩ := by
  rw [guarded, rejectIfUnauthenticated_refused h]
  simp [returnOnError, send, Exchange.start, hsent]

theorem guarded_unsent {r : Request} (h : Refused w r) (hsent : r.sends 0 = false)
    (rest : Exchange → Outcome) : guarded r rest (.start w) = (⟨w, 1, 0, []⟩, false) := by
  rw [guarded, rejectIfUnauthenticated_refused h]
  simp [returnOnError, send, Exchange.start, hsent]

end NodeNet.Web

/-! Handlers that neither change what a refused request may not change nor reveal anything. -/
namespace NodeNet.Web

open Points Link

/-- No write and no refresh is queued, no client registered, and nothing revealed. -/
structure Shut (w : Server) (x : Exchange) : Prop where
  write : x.web.link.pendingWriteState = w.link.pendingWriteState
  refresh : x.web.link.refreshRequested = w.link.refreshRequested
  clients : x.web.wsClients = w.wsClients
  silent : ∀ reply ∈ x.replies, reply.reveals = false

def Quiet (handle : Exchange → Outcome) : Prop := ∀ w x, Shut w x → Shut w (handle x).1

theorem Shut.updated {w : Server} {x : Exchange} (h : Shut w x) {next : Server}
    (hlink : next.link = x.web.link) (hclients : next.wsClients = x.web.wsClients) :
    Shut w (x.updated next) where
  write := by rw [← h.write, ← hlink]; rfl
  refresh := by rw [← h.refresh, ← hlink]; rfl
  clients := by rw [← h.clients, ← hclients]; rfl
  silent := h.silent

theorem quiet_send (sends : Nat → Bool) {reply : Reply} (hreply : reply.reveals = false) :
    Quiet (send sends reply) := by
  intro w x h
  refine ⟨h.write, h.refresh, h.clients, ?_⟩
  intro sent hsent
  simp only [send] at hsent
  split at hsent
  · rcases List.mem_append.mp hsent with hmem | hmem
    · exact h.silent sent hmem
    · rw [List.mem_singleton.mp hmem]
      exact hreply
  · exact h.silent sent hsent

theorem quiet_sendError (sends : Nat → Bool) (status message : String) :
    Quiet (sendError sends status message) := quiet_send sends rfl

variable {rest : Exchange → Outcome}

theorem Shut.returnOnError {w : Server} {step : Outcome} (h : Shut w step.1) (hrest : Quiet rest) :
    Shut w (returnOnError step rest).1 := by
  unfold Web.returnOnError
  split
  · exact hrest w step.1 h
  · exact h

theorem quiet_withBody (r : Request) {rest : Text → Exchange → Outcome}
    (hrest : ∀ body, Quiet (rest body)) : Quiet (withBody r rest) := by
  intro w x h
  unfold withBody
  split
  · exact quiet_sendError r.sends _ _ w x h
  · exact hrest _ w x h

theorem quiet_rejectIfUnauthenticated (r : Request) : Quiet (rejectIfUnauthenticated r) := by
  intro w x h
  unfold rejectIfUnauthenticated
  split
  · exact h
  · split
    · exact h
    · exact quiet_sendError r.sends _ _ w x h

theorem quiet_guarded (r : Request) (hrest : Quiet rest) : Quiet (guarded r rest) := fun w x h =>
  (quiet_rejectIfUnauthenticated r w x h).returnOnError hrest

theorem refreshLiveStaStatus_link (r : Request) (w : Server) :
    (refreshLiveStaStatus r w).link = w.link ∧ (refreshLiveStaStatus r w).wsClients = w.wsClients := by
  unfold refreshLiveStaStatus
  repeat' split
  all_goals exact ⟨rfl, rfl⟩

theorem quiet_serveChunks (r : Request) (contentType : Text) (reads : Nat) (file : Text) :
    Quiet (serveChunks r contentType reads file) := by
  induction reads generalizing file with
  | zero => exact quiet_send r.sends rfl
  | succ reads ih =>
    intro w x h
    have hrest : Quiet fun x =>
        if (file.take kFileChunkSize).length < kFileChunkSize then send r.sends .lastChunk x
        else serveChunks r contentType reads (file.drop kFileChunkSize) x := by
      intro w x h
      dsimp only
      split
      · exact quiet_send r.sends rfl w x h
      · exact ih (file.drop kFileChunkSize) w x h
    unfold serveChunks
    refine Shut.returnOnError ?_ hrest
    split
    · exact h
    · exact quiet_send r.sends rfl w x h

theorem quiet_handleStatic (r : Request) : Quiet (handleStatic r) := by
  refine quiet_guarded r ?_
  intro w x h
  dsimp only
  split
  · exact quiet_sendError r.sends _ _ w x h
  · unfold serveFile
    split
    · exact quiet_sendError r.sends _ _ w x h
    · exact quiet_serveChunks r _ _ _ w x h

theorem quiet_handleRoot (r : Request) : Quiet (handleRoot r) := fun w x h =>
  quiet_send r.sends rfl w x h

theorem quiet_sendWifiStatus (r : Request) : Quiet (sendWifiStatus r) := fun w x h =>
  quiet_send r.sends rfl w _
    (h.updated (refreshLiveStaStatus_link r x.web).1 (refreshLiveStaStatus_link r x.web).2)

theorem quiet_handleWifiScan (r : Request) : Quiet (handleWifiScan r) := fun w x h =>
  quiet_send r.sends rfl w x h

theorem quiet_handleSettingsGet (r : Request) : Quiet (handleSettingsGet r) := fun w x h =>
  quiet_send r.sends rfl w x h

theorem quiet_handleAuthStatus (r : Request) : Quiet (handleAuthStatus r) := fun w x h =>
  quiet_send r.sends rfl w x h

theorem quiet_handleAuthLogin (r : Request) : Quiet (handleAuthLogin r) := by
  refine quiet_withBody r ?_
  intro payload w x h
  dsimp only
  split
  · exact quiet_sendError r.sends _ _ w x h
  · split
    · exact quiet_send r.sends rfl w _ (h.updated rfl rfl)
    · exact quiet_send r.sends rfl w _ (h.updated rfl rfl)

theorem quiet_handleAuthLogout (r : Request) : Quiet (handleAuthLogout r) := fun w _ h =>
  quiet_send r.sends rfl w _ (h.updated rfl rfl)

theorem Shut.changed {w : Server} {x : Exchange} (h : Shut w x) {change : Server × Bool}
    (hlink : change.1.link = x.web.link) (hclients : change.1.wsClients = x.web.wsClients)
    (hrest : Quiet rest) : Shut w (changed change rest x).1 :=
  Shut.returnOnError (h.updated hlink hclients) hrest

theorem setStationCredentials_link (r : Request) (ssid : Text) (w : Server) :
    (setStationCredentials r ssid w).1.link = w.link ∧
      (setStationCredentials r ssid w).1.wsClients = w.wsClients := by
  unfold setStationCredentials
  split <;> exact ⟨rfl, rfl⟩

theorem forgetStationCredentials_link (r : Request) (w : Server) :
    (forgetStationCredentials r w).1.link = w.link ∧
      (forgetStationCredentials r w).1.wsClients = w.wsClients := by
  unfold forgetStationCredentials
  split <;> exact ⟨rfl, rfl⟩

theorem setSiteSettings_link (r : Request) (settings : SiteSettings) (w : Server) :
    (setSiteSettings r settings w).1.link = w.link ∧
      (setSiteSettings r settings w).1.wsClients = w.wsClients := by
  unfold setSiteSettings
  split <;> exact ⟨rfl, rfl⟩

theorem quiet_handleWifiConfig (r : Request) : Quiet (handleWifiConfig r) := by
  refine quiet_withBody r ?_
  intro payload w x h
  dsimp only
  split
  · exact quiet_sendError r.sends _ _ w x h
  · split
    · exact quiet_sendError r.sends _ _ w x h
    · split
      · exact quiet_sendError r.sends _ _ w x h
      · have hlink := setStationCredentials_link r (extractJsonString payload (ascii "ssid")) x.web
        exact h.changed hlink.1 hlink.2 (quiet_sendWifiStatus r)

theorem quiet_handleWifiDisconnect (r : Request) : Quiet (handleWifiDisconnect r) := fun _ _ h =>
  h.changed rfl rfl (quiet_sendWifiStatus r)

theorem quiet_handleWifiForget (r : Request) : Quiet (handleWifiForget r) := fun _ x h =>
  have hlink := forgetStationCredentials_link r x.web
  h.changed hlink.1 hlink.2 (quiet_sendWifiStatus r)

theorem quiet_handleSettingsPost (r : Request) : Quiet (handleSettingsPost r) := by
  refine quiet_withBody r ?_
  intro payload w x h
  dsimp only
  split
  · exact quiet_sendError r.sends _ _ w x h
  · rename_i anonymousAccess _
    split
    · exact quiet_sendError r.sends _ _ w x h
    · split
      · exact quiet_sendError r.sends _ _ w x h
      · have hlink := setSiteSettings_link r
          ⟨extractJsonString payload (ascii "language"), anonymousAccess⟩ x.web
        exact h.changed hlink.1 hlink.2 (quiet_handleSettingsGet r)

end NodeNet.Web

/-! When the rest of a guarded handler stays without effect and reveals nothing. -/
namespace NodeNet.Web
open Points Link Search Machine

def Reveals (x : Exchange) : Prop := ∃ reply ∈ x.replies, reply.reveals = true

variable {w : Server} {x : Exchange}

theorem Reveals.not_shut (h : Reveals x) : ¬ Shut w x := by
  obtain ⟨reply, hmem, hreply⟩ := h
  intro hshut
  rw [hshut.silent reply hmem] at hreply
  cases hreply

theorem reveals_send {sends : Nat → Bool} {reply : Reply} (hreply : reply.reveals = true)
    (hsent : sends x.sendCalls = true) : Reveals (send sends reply x).1 :=
  ⟨reply, by simp [send, hsent], hreply⟩

theorem Reveals.send (h : Reveals x) (sends : Nat → Bool) (reply : Reply) :
    Reveals (send sends reply x).1 := by
  obtain ⟨shown, hmem, hshown⟩ := h
  refine ⟨shown, ?_, hshown⟩
  simp only [Web.send]
  split
  · exact List.mem_append_left _ hmem
  · exact hmem

theorem Reveals.returnOnError {step : Outcome} (h : Reveals step.1) {rest : Exchange → Outcome}
    (hrest : ∀ x, Reveals x → Reveals (rest x).1) : Reveals (returnOnError step rest).1 := by
  unfold Web.returnOnError
  split
  · exact hrest step.1 h
  · exact h

theorem Reveals.sendStateRecords (r : Request) (count index : Nat) (h : Reveals x) :
    Reveals (sendStateRecords r count index x).1 := by
  induction count generalizing index x with
  | zero => exact h
  | succ count ih =>
    unfold Web.sendStateRecords
    dsimp only
    split
    · exact h
    · refine Reveals.returnOnError ?_ fun x hx => ih (index + 1) hx
      exact Reveals.send h r.sends _

def refusedExchange (w : Server) : Exchange := ⟨w, 1, 0, [refusal]⟩

theorem shut_refused (w : Server) : Shut w (refusedExchange w) :=
  ⟨rfl, rfl, rfl, by simp [refusedExchange, refusal, Reply.reveals]⟩

theorem shut_start (w : Server) : Shut w (.start w) := ⟨rfl, rfl, rfl, by simp [Exchange.start]⟩

theorem shut_send_iff (h : Shut w x) {sends : Nat → Bool} {reply : Reply}
    (hreply : reply.reveals = true) :
    Shut w (send sends reply x).1 ↔ sends x.sendCalls = false := by
  constructor
  · intro hshut
    cases hsent : sends x.sendCalls with
    | false => rfl
    | true => exact absurd hshut (reveals_send hreply hsent).not_shut
  · intro hsent
    exact ⟨h.write, h.refresh, h.clients, by simpa [send, hsent] using h.silent⟩

/-- A client gets a slot unless it has one or none is free. -/
def HasNoSlotFor (w : Server) (fd : Int) : Prop :=
  fd ∈ w.wsClients ∨ ∀ client ∈ w.wsClients, 0 ≤ client

theorem addWsClient_wsClients_iff (w : Server) (fd : Int) :
    (w.addWsClient fd).wsClients = w.wsClients ↔ HasNoSlotFor w fd := by
  unfold Server.addWsClient HasNoSlotFor
  by_cases hmem : fd ∈ w.wsClients
  · simp [hmem]
  · rw [if_neg hmem]
    cases hfree : w.wsClients.findIdx? (· < 0) with
    | none => simpa [hmem] using List.findIdx?_eq_none_iff.mp hfree
    | some index =>
      obtain ⟨hlt, hneg, _⟩ := List.findIdx?_eq_some_iff_getElem.mp hfree
      have hold : w.wsClients[index] ∈ w.wsClients := List.getElem_mem hlt
      constructor
      · intro hset
        have hget : (w.wsClients.set index fd)[index]? = w.wsClients[index]? :=
          congrArg (·[index]?) hset
        rw [List.getElem?_set_self hlt, List.getElem?_eq_getElem hlt] at hget
        exact absurd (Option.some.inj hget ▸ hold) hmem
      · rintro (h | h)
        · exact absurd h hmem
        · have := h _ hold
          simp at hneg
          omega

/-- A refresh changes nothing if the link does not take it or has one to do. -/
def RefreshIdle (link : Esp) : Prop := link.takesRefresh = false ∨ link.refreshRequested = true

theorem requestStatesRefresh_iff (link : Esp) :
    link.requestStatesRefresh.refreshRequested = link.refreshRequested ↔ RefreshIdle link := by
  unfold Esp.requestStatesRefresh RefreshIdle
  cases htakes : link.takesRefresh with
  | false => simp
  | true => simp [eq_comm (a := true)]

theorem requestStatesRefresh_pendingWriteState (link : Esp) :
    link.requestStatesRefresh.pendingWriteState = link.pendingWriteState := by
  unfold Esp.requestStatesRefresh
  split <;> rfl

theorem takesWrite_pending {link : Esp} (h : link.takesWrite = true) :
    link.pendingWriteState = none := by
  simp [Esp.takesWrite] at h
  exact h.1.2

/-- A write without a body or without its three members, or one that the link does not take. -/
def WriteIdle (w : Server) (body : Option Text) : Prop :=
  body.bind (fun body => writeOf (cString body)) = none ∨ w.link.takesWrite = false

theorem shut_systemInfo_iff (h : Shut w x) (r : Request) :
    Shut w (let x := x.updated (refreshLiveStaStatus r x.web)
      send r.sends (.systemInfo x.web.systemInfo) x).1 ↔ r.sends x.sendCalls = false :=
  shut_send_iff (h.updated (refreshLiveStaStatus_link r x.web).1
    (refreshLiveStaStatus_link r x.web).2) rfl

theorem shut_definitions_iff (w : Server) (r : Request) :
    Shut w (let info := (refusedExchange w).web.defs
      let copied := tryLocked r ((refusedExchange w).web.link.definitionRecords.take info.pointCount)
        [] (refusedExchange w)
      send r.sends (.definitions info copied.1) copied.2).1 ↔ r.sends 1 = false := by
  have h : Shut w { refusedExchange w with lockCalls := 1 } :=
    ⟨rfl, rfl, rfl, (shut_refused w).silent⟩
  exact shut_send_iff h rfl

theorem shut_snapshot_iff (h : Shut w x) (r : Request) :
    Shut w (returnOnError (send r.sends (.snapshotHead x.web.snapshot) x) fun y =>
      returnOnError (sendStateRecords r x.web.snapshot.loadedPoints 0 y) fun y =>
        returnOnError (send r.sends .snapshotTail y) (send r.sends .lastChunk)).1 ↔
      r.sends x.sendCalls = false := by
  constructor
  · intro hshut
    cases hsent : r.sends x.sendCalls with
    | false => rfl
    | true =>
      refine absurd hshut (Reveals.not_shut (Reveals.returnOnError (reveals_send rfl hsent) ?_))
      intro y hy
      refine Reveals.returnOnError (hy.sendStateRecords r _ 0) ?_
      intro y hy
      exact Reveals.returnOnError (hy.send r.sends _) fun y hy => hy.send r.sends _
  · intro hsent
    have hhead : Shut w (send r.sends (.snapshotHead x.web.snapshot) x).1 :=
      (shut_send_iff h rfl).mpr hsent
    have hfails : (send r.sends (.snapshotHead x.web.snapshot) x).2 = false := hsent
    rw [returnOnError, hfails]
    exact hhead

theorem shut_send_quiet_iff {sends : Nat → Bool} {reply : Reply} (hreply : reply.reveals = false) :
    Shut w (send sends reply x).1 ↔ Shut w x := by
  constructor
  · intro h
    refine ⟨h.write, h.refresh, h.clients, fun sent hmem => h.silent sent ?_⟩
    simp only [send]
    split
    · exact List.mem_append_left _ hmem
    · exact hmem
  · exact quiet_send sends hreply w x

theorem shut_requestStatesRefresh_iff (h : Shut w x) (hweb : x.web = w) :
    Shut w (x.updated { x.web with link := x.web.link.requestStatesRefresh }) ↔
      RefreshIdle w.link := by
  subst hweb
  rw [← requestStatesRefresh_iff]
  constructor
  · intro hshut
    exact hshut.refresh
  · intro hsame
    exact ⟨requestStatesRefresh_pendingWriteState x.web.link, hsame, rfl, h.silent⟩

theorem shut_write_iff (w : Server) (r : Request) :
    Shut w (withBody r (fun payload x =>
      match writeOf payload with
      | none => sendError r.sends "400 Bad Request" "invalid plc write payload" x
      | some (pointIndex, valueType, valueBits) =>
        if x.web.link.takesWrite then
          let link := x.web.link.requestWriteState pointIndex valueType valueBits
          send r.sends .accepted (x.updated { x.web with link := link })
        else sendError r.sends "409 Conflict" "plc write refused" x) (refusedExchange w)).1 ↔
      WriteIdle w r.body := by
  have hx := shut_refused w
  unfold withBody WriteIdle
  cases hbody : r.body with
  | none => exact iff_of_true (quiet_sendError r.sends _ _ w _ hx) (.inl rfl)
  | some body =>
    dsimp only [Option.bind_some]
    cases hwrite : writeOf (cString body) with
    | none => exact iff_of_true (quiet_sendError r.sends _ _ w _ hx) (.inl rfl)
    | some write =>
      obtain ⟨pointIndex, valueType, valueBits⟩ := write
      cases htakes : w.link.takesWrite with
      | false =>
        have hweb : (refusedExchange w).web.link.takesWrite = false := htakes
        simp only [hweb]
        exact iff_of_true (quiet_sendError r.sends _ _ w _ hx) (by simp)
      | true =>
        have hweb : (refusedExchange w).web.link.takesWrite = true := htakes
        simp only [hweb, if_true]
        refine iff_of_false ?_ (by simp)
        intro hshut
        have hqueued := ((shut_send_quiet_iff rfl).mp hshut).write
        rw [takesWrite_pending htakes] at hqueued
        simp [Exchange.updated, Esp.requestWriteState, hweb] at hqueued

theorem shut_hello_iff (w : Server) (r : Request) :
    Shut w (let next := refreshLiveStaStatus r ((refusedExchange w).web.addWsClient r.sockfd)
      send r.sends (.hello next.systemInfo) ((refusedExchange w).updated next)).1 ↔
      HasNoSlotFor w r.sockfd ∧ r.sends 1 = false := by
  have hlink := refreshLiveStaStatus_link r (w.addWsClient r.sockfd)
  have hadd : (w.addWsClient r.sockfd).link = w.link := by
    unfold Server.addWsClient
    repeat' split
    all_goals rfl
  constructor
  · intro hshut
    constructor
    · rw [← addWsClient_wsClients_iff, ← hlink.2]
      exact hshut.clients
    · cases hsent : r.sends 1 with
      | false => rfl
      | true => exact absurd hshut (reveals_send rfl hsent).not_shut
  · intro h
    obtain ⟨hslot, hsent⟩ := h
    have hclients := hlink.2.trans ((addWsClient_wsClients_iff w r.sockfd).mpr hslot)
    have hshut := (shut_refused w).updated (hlink.1.trans hadd) hclients
    exact (shut_send_iff hshut rfl).mpr hsent

/-! The registered handlers, and the server as it answers one request after the other. -/

inductive UriHandler where
  | root | systemInfo | wifiStatus | wifiScan | settingsGet | authStatus | authLogin | authLogout
  | wifiConfig | wifiDisconnect | wifiForget | settingsPost | defs | snapshot | refresh | plcWrite
  | ws | static
  deriving DecidableEq

/-- In the order of their registration; the last one is for every path. -/
def uriHandlers : List (String × HttpMethod × UriHandler) :=
  [("/", .get, .root),
   ("/api/system/info", .get, .systemInfo),
   ("/api/wifi/status", .get, .wifiStatus),
   ("/api/wifi/scan", .get, .wifiScan),
   ("/api/settings", .get, .settingsGet),
   ("/api/auth/status", .get, .authStatus),
   ("/api/auth/login", .post, .authLogin),
   ("/api/auth/logout", .post, .authLogout),
   ("/api/wifi/config", .post, .wifiConfig),
   ("/api/wifi/disconnect", .post, .wifiDisconnect),
   ("/api/wifi/forget", .post, .wifiForget),
   ("/api/settings", .post, .settingsPost),
   ("/api/plc/defs", .get, .defs),
   ("/api/plc/states/snapshot", .get, .snapshot),
   ("/api/plc/states/refresh", .post, .refresh),
   ("/api/plc/write", .post, .plcWrite),
   ("/ws", .get, .ws),
   ("/*", .get, .static)]

/-- The handler of a request, where `uriMatch` is the match of a template and a path that the
server is configured with. -/
def handlerOf (uriMatch : Text → Text → Bool) (r : Request) : Option UriHandler :=
  (uriHandlers.find? fun entry =>
    uriMatch (ascii entry.1) r.path && entry.2.1 = r.method).map (·.2.2)

def UriHandler.handle : UriHandler → Request → Exchange → Outcome
  | .root => handleRoot
  | .systemInfo => handleSystemInfo
  | .wifiStatus => handleWifiStatus
  | .wifiScan => handleWifiScan
  | .settingsGet => handleSettingsGet
  | .authStatus => handleAuthStatus
  | .authLogin => handleAuthLogin
  | .authLogout => handleAuthLogout
  | .wifiConfig => handleWifiConfig
  | .wifiDisconnect => handleWifiDisconnect
  | .wifiForget => handleWifiForget
  | .settingsPost => handleSettingsPost
  | .defs => handleDefs
  | .snapshot => handleSnapshot
  | .refresh => handleSnapshotRefresh
  | .plcWrite => handlePlcWrite
  | .ws => handleWs
  | .static => handleStatic

/-- A request without a handler is turned away by the HTTP library. -/
def serve (uriMatch : Text → Text → Bool) (w : Server) (r : Request) : Exchange :=
  match handlerOf uriMatch r with
  | none => .start w
  | some handler => (handler.handle r (.start w)).1

def serveFrame (w : Server) (f : Frame) : Exchange := (handleWsFrame f (.start w)).1

/-- What happens to the server: requests, frames, and what others do meanwhile. -/
inductive Event where
  | request (r : Request)
  | frame (f : Frame)
  /-- A broadcast to the client fails. -/
  | clientLost (fd : Int)
  | linkMoves (link : Esp) (boot : BootProgress) (defs : DefinitionsInfo) (snapshot : SnapshotInfo)
  | wifiMoves (wifi : WifiStatus) (staNetif staShouldConnect wifiInitialized : Bool)
  | settingsLoaded (settings : SiteSettings)
  | filesMounted (files : List (Text × Text))

def Server.next (uriMatch : Text → Text → Bool) (w : Server) : Event → Server
  | .request r => (serve uriMatch w r).web
  | .frame f => (serveFrame w f).web
  | .clientLost fd => w.removeWsClient fd
  | .linkMoves link boot defs snapshot =>
    { w with link := link, boot := boot, defs := defs, snapshot := snapshot }
  | .wifiMoves wifi staNetif staShouldConnect wifiInitialized =>
    { w with
      wifi := wifi
      staNetif := staNetif
      staShouldConnect := staShouldConnect
      wifiInitialized := wifiInitialized }
  | .settingsLoaded settings => { w with settings := settings }
  | .filesMounted files => { w with files := files }

/-! Which refused requests stay without effect and see nothing. -/

variable {uriMatch : Text → Text → Bool}

/-- What keeps a refused request without effect: the refusal cannot be sent, the handler does
nothing that matters, or what it does fails. -/
def Harmless (uriMatch : Text → Text → Bool) (w : Server) (r : Request) : Prop :=
  r.sends 0 = true →
    match handlerOf uriMatch r with
    | some .systemInfo | some .defs | some .snapshot => r.sends 1 = false
    | some .refresh => RefreshIdle w.link
    | some .plcWrite => WriteIdle w r.body
    | some .ws => HasNoSlotFor w r.sockfd ∧ r.sends 1 = false
    | _ => True

theorem shut_serve_iff {r : Request} (h : Refused w r) :
    Shut w (serve uriMatch w r) ↔ Harmless uriMatch w r := by
  unfold serve Harmless
  have hquiet : ∀ {handle : Exchange → Outcome}, Quiet handle → Shut w (handle (.start w)).1 :=
    fun hq => hq w _ (shut_start w)
  have hguarded : ∀ {rest : Exchange → Outcome} {P : Prop},
      (Shut w (rest (refusedExchange w)).1 ↔ P) →
      (Shut w (guarded r rest (.start w)).1 ↔ (r.sends 0 = true → P)) := by
    intro rest P hrest
    cases hsent : r.sends 0 with
    | false =>
      rw [guarded_unsent h hsent]
      exact iff_of_true ⟨rfl, rfl, rfl, (shut_start w).silent⟩ (by simp)
    | true =>
      rw [guarded_sent h hsent]
      exact hrest.trans ⟨fun hP _ => hP, fun hP => hP rfl⟩
  cases handlerOf uriMatch r with
  | none => exact iff_of_true (shut_start w) fun _ => trivial
  | some handler =>
    cases handler with
    | root => exact iff_of_true (hquiet (quiet_handleRoot r)) fun _ => trivial
    | systemInfo => exact hguarded (shut_systemInfo_iff (shut_refused w) r)
    | wifiStatus => exact iff_of_true (hquiet (quiet_sendWifiStatus r)) fun _ => trivial
    | wifiScan => exact iff_of_true (hquiet (quiet_handleWifiScan r)) fun _ => trivial
    | settingsGet => exact iff_of_true (hquiet (quiet_handleSettingsGet r)) fun _ => trivial
    | authStatus => exact iff_of_true (hquiet (quiet_handleAuthStatus r)) fun _ => trivial
    | authLogin => exact iff_of_true (hquiet (quiet_handleAuthLogin r)) fun _ => trivial
    | authLogout => exact iff_of_true (hquiet (quiet_handleAuthLogout r)) fun _ => trivial
    | wifiConfig => exact iff_of_true (hquiet (quiet_handleWifiConfig r)) fun _ => trivial
    | wifiDisconnect => exact iff_of_true (hquiet (quiet_handleWifiDisconnect r)) fun _ => trivial
    | wifiForget => exact iff_of_true (hquiet (quiet_handleWifiForget r)) fun _ => trivial
    | settingsPost => exact iff_of_true (hquiet (quiet_handleSettingsPost r)) fun _ => trivial
    | defs => exact hguarded (shut_definitions_iff w r)
    | snapshot => exact hguarded (shut_snapshot_iff (shut_refused w) r)
    | refresh =>
      exact hguarded ((shut_send_quiet_iff rfl).trans
        (shut_requestStatesRefresh_iff (shut_refused w) rfl))
    | plcWrite => exact hguarded (shut_write_iff w r)
    | ws => exact hguarded (shut_hello_iff w r)
    | static => exact iff_of_true (hquiet (quiet_handleStatic r)) fun _ => trivial

/-- A frame has an effect only on a registered connection, by asking for a refresh. -/
def FrameHarmless (w : Server) (f : Frame) : Prop :=
  f.sockfd ∈ w.wsClients → ∀ message, f.message = some message →
    (find (ascii "refresh_states") message).isSome → RefreshIdle w.link

theorem shut_serveFrame_iff (w : Server) (f : Frame) :
    Shut w (serveFrame w f) ↔ FrameHarmless w f := by
  unfold serveFrame handleWsFrame FrameHarmless
  have hstart := shut_start w
  have hregistered : (Exchange.start w).web.isWsClientRegistered f.sockfd =
      decide (f.sockfd ∈ w.wsClients) := by
    simp [Server.isWsClientRegistered, Exchange.start]
  rw [hregistered]
  by_cases hmem : f.sockfd ∈ w.wsClients
  · simp only [hmem, decide_true, Bool.not_true, Bool.false_eq_true, if_false]
    cases f.message with
    | none => exact iff_of_true hstart (by simp)
    | some message =>
      dsimp only
      by_cases hfind : (find (ascii "refresh_states") message).isSome
      · rw [if_pos hfind]
        refine (shut_requestStatesRefresh_iff hstart rfl).trans ?_
        constructor
        · intro hidle _ _ _ _
          exact hidle
        · intro hall
          exact hall trivial message rfl hfind
      · rw [if_neg hfind]
        refine iff_of_true hstart ?_
        intro _ other hother hasks
        cases hother
        exact absurd hasks hfind
  · simp only [hmem, decide_false, Bool.not_false, if_true]
    exact iff_of_true (quiet_sendError f.sends _ _ w _ hstart) fun h => h.elim

/-- The frame of a client whose handshake does not carry the current cookie. -/
structure FrameRefused (w : Server) (f : Frame) : Prop where
  anonymous : w.settings.anonymousAccess = false
  cookie : ¬ CarriesCookie w f.cookie

/-- Without anonymous access, what lacks the current cookie has no effect and sees nothing. -/
def KeepsOut (uriMatch : Text → Text → Bool) (w : Server) : Event → Prop
  | .request r => Refused w r → Shut w (serve uriMatch w r)
  | .frame f => FrameRefused w f → Shut w (serveFrame w f)
  | _ => True

def Spared (uriMatch : Text → Text → Bool) (w : Server) : Event → Prop
  | .request r => Refused w r → Harmless uriMatch w r
  | .frame f => FrameRefused w f → FrameHarmless w f
  | _ => True

theorem keepsOut_iff (w : Server) (e : Event) :
    KeepsOut uriMatch w e ↔ Spared uriMatch w e := by
  cases e with
  | request r => exact forall_congr' fun h => shut_serve_iff h
  | frame f => exact forall_congr' fun _ => shut_serveFrame_iff w f
  | clientLost | linkMoves | wifiMoves | settingsLoaded | filesMounted => exact Iff.rfl

/-- Along a run the server keeps out whom it should exactly if each of them is harmless, however
templates and paths are matched. -/
theorem access_controlled (uriMatch : Text → Text → Bool) (w : Server) (events : List Event) :
    Along (Server.next uriMatch) (KeepsOut uriMatch) w events ↔
      Along (Server.next uriMatch) (Spared uriMatch) w events := by
  induction events generalizing w with
  | nil => exact Iff.rfl
  | cons e events ih => exact and_congr (keepsOut_iff w e) (ih (w.next uriMatch e))

def plainRequest (method : HttpMethod) (uri : String) (body : Text) : Request where
  method := method
  uri := ascii uri
  path := ascii uri
  cookie := none
  host := none
  body := some body
  sockfd := 54
  sends := fun _ => true
  locks := fun _ => true
  random := (0, 0)
  saved := true
  driverOk := true
  liveIp := none
  networks := []

/-- A template that ends in an asterisk takes every path that it begins. -/
def wildcardMatch (template path : Text) : Bool :=
  if template.getLast? = some 42 then template.dropLast.isPrefixOf path else template = path

/-- Anonymous access is switched off, and somebody without a cookie asks for the system. -/
def switchOff : Request :=
  plainRequest .post "/api/settings" (ascii "\x7b\"language\":\"uk\",\"anonymous\":false\x7d")

def snoop : Request := plainRequest .get "/api/system/info" []

theorem snoop_refused :
    Refused (Server.next wildcardMatch (.start .start) (.request switchOff)) snoop where
  anonymous := by decide
  notPublic := by decide
  cookie := by
    rintro ⟨_, header, _, _, hcookie, _⟩
    cases hcookie

theorem snoop_not_keptOut :
    ¬ Along (Server.next wildcardMatch) (KeepsOut wildcardMatch) (.start .start)
      [.request switchOff, .request snoop] := by
  intro h
  have hharmless := (shut_serve_iff snoop_refused).mp (h.2.1 snoop_refused)
  have hhandler : handlerOf wildcardMatch snoop = some .systemInfo := by decide
  have hunsent := hharmless rfl
  rw [hhandler] at hunsent
  cases hunsent

end NodeNet.Web

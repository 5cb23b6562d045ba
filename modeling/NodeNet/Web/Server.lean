import NodeNet.Lib.Search
import NodeNet.Link.Esp
import NodeNet.Points

/-! The web server: what it keeps, what it is asked, its URI handlers and the guard of most of them. -/
namespace NodeNet.Web

open Points Search

/-! How it reads texts: members of a JSON payload, numbers in hex. -/

/-- The text that stands for a member that is missing. -/
def missing : Text := [1]

def quote : Text := ascii "\""

def colon : Text := ascii ":"

def quotedKey (key : Text) : Text := quote ++ key ++ quote

/-- The place of the colon behind a quoted key. -/
def colonAfter (payload key : Text) : Option Nat :=
  (find (quotedKey key) payload).bind fun keyPos =>
    findFrom colon payload (keyPos + (quotedKey key).length)

def extractJsonString (payload key : Text) : Text :=
  let quotes := (colonAfter payload key).bind fun colonPos =>
    (findFrom quote payload (colonPos + 1)).bind fun firstQuote =>
      (findFrom quote payload (firstQuote + 1)).map fun secondQuote => (firstQuote, secondQuote)
  match quotes with
  | none => missing
  | some (firstQuote, secondQuote) =>
    (payload.drop (firstQuote + 1)).take (secondQuote - firstQuote - 1)

def isJsonWhitespace (ch : UInt8) : Bool := ch = 32 || ch = 9 || ch = 13 || ch = 10

/-- What follows the colon of a member, without the blanks before it. -/
def memberValue (payload key : Text) : Option Text :=
  (colonAfter payload key).map fun colonPos =>
    (payload.drop (colonPos + 1)).dropWhile isJsonWhitespace

def extractJsonBool (payload key : Text) : Option Bool :=
  (memberValue payload key).bind fun value =>
    if value.take 4 = ascii "true" then some true
    else if value.take 5 = ascii "false" then some false
    else none

def isDigit (ch : UInt8) : Bool := 48 ≤ ch && ch ≤ 57

def decimalValue (digits : Text) : Nat := digits.foldl (fun n ch => n * 10 + (ch.toNat - 48)) 0

/-- `strtoul` stops at the largest value of its type. -/
def strtoul (digits : Text) : UInt32 := UInt32.ofNat (min (decimalValue digits) 0xFFFFFFFF)

def extractJsonU32 (payload key : Text) : Option UInt32 :=
  (memberValue payload key).bind fun value =>
    let digits := value.takeWhile isDigit
    if digits = [] then none else some (strtoul digits)

def hexDigit (n : Nat) : UInt8 := if n < 10 then UInt8.ofNat (48 + n) else UInt8.ofNat (87 + n)

/-- The format `%08lx`. -/
def hex8 (value : UInt32) : Text :=
  [28, 24, 20, 16, 12, 8, 4, 0].map fun shift => hexDigit (value.toNat / 2 ^ shift % 16)

example : extractJsonString (ascii "\x7b\"ssid\": \"home\"\x7d") (ascii "ssid") = ascii "home" := by
  decide

end NodeNet.Web

/-! What it keeps, what it is asked, and what it sends back. -/
namespace NodeNet.Web

open Points Link

def kMaxWsClients : Nat := 4

structure WifiStatus where
  apStarted : Bool
  staHasCredentials : Bool
  staConnected : Bool
  apSsid : Text
  staSsid : Text
  apIp : Text
  staIp : Text
  deriving DecidableEq

structure SiteSettings where
  language : Text
  anonymousAccess : Bool
  deriving DecidableEq

structure ScanResult where
  ssid : Text
  rssi : Int
  authmode : UInt8
  deriving DecidableEq

structure BootProgress where
  percent : UInt8
  loadedPoints : UInt16
  totalPoints : UInt16
  linkReady : Bool
  capsReceived : Bool
  snapshotStarted : Bool
  snapshotComplete : Bool
  deriving DecidableEq

structure DefinitionsInfo where
  generation : UInt32
  pointCount : Nat
  loadedBytes : UInt32
  totalBytes : UInt32
  complete : Bool
  deriving DecidableEq

structure SnapshotInfo where
  sequence : UInt32
  pointCount : Nat
  loadedPoints : Nat
  maxPayload : Nat
  complete : Bool
  deriving DecidableEq

structure SystemInfo where
  boot : BootProgress
  defs : DefinitionsInfo
  snapshot : SnapshotInfo
  wifi : WifiStatus
  settings : SiteSettings
  deriving DecidableEq

structure FakeAuthState where
  anonymousAccess : Bool
  loginRequired : Bool
  authenticated : Bool
  canAdmin : Bool
  username : Text
  group : Text
  deriving DecidableEq

/-- The server's globals, with the managers it asks and the files it serves. -/
structure Server where
  wsClients : List Int
  authToken : Text
  authTokenValid : Bool
  settings : SiteSettings
  wifi : WifiStatus
  staNetif : Bool
  staShouldConnect : Bool
  wifiInitialized : Bool
  files : List (Text × Text)
  link : Esp
  boot : BootProgress
  defs : DefinitionsInfo
  snapshot : SnapshotInfo
  deriving DecidableEq

def Server.start (link : Esp) : Server where
  wsClients := List.replicate kMaxWsClients (-1)
  authToken := []
  authTokenValid := false
  settings := ⟨ascii "uk", true⟩
  wifi := ⟨false, false, false, [], [], ascii "192.168.4.1", []⟩
  staNetif := false
  staShouldConnect := false
  wifiInitialized := false
  files := []
  link := link
  boot := ⟨10, 0, 0, false, false, false, false⟩
  defs := ⟨0, 0, 0, 0, false⟩
  snapshot := ⟨0, 0, 0, 0, false⟩

inductive HttpMethod where
  | get | post | other
  deriving DecidableEq

/-- A request with what the send calls, the flash, the driver and the locks answer meanwhile. -/
structure Request where
  method : HttpMethod
  uri : Text
  /-- The part of the URI that chooses the handler. -/
  path : Text
  cookie : Option Text
  host : Option Text
  /-- `none` where the body ends before its length. -/
  body : Option Text
  sockfd : Int
  /-- Whether each send call of the handler, counted from zero, sends its part. -/
  sends : Nat → Bool
  /-- Whether each try for the lock of the caches gets it. -/
  locks : Nat → Bool
  random : UInt32 × UInt32
  saved : Bool
  driverOk : Bool
  liveIp : Option Text
  networks : List ScanResult

/-- A data frame on an open WebSocket. -/
structure Frame where
  sockfd : Int
  /-- The cookie of the handshake. -/
  cookie : Option Text
  /-- `none` where receiving it fails. -/
  message : Option Text
  sends : Nat → Bool

/-- What is sent: the documents as the data that they are written from. -/
inductive Reply where
  | error (status message : Text)
  | loginRefused (setCookie : Text)
  | redirect (location : Text)
  | fileChunk (contentType bytes : Text)
  | lastChunk
  | systemInfo (info : SystemInfo)
  | wifiStatus (status : WifiStatus)
  | wifiScan (networks : List ScanResult)
  | settings (settings : SiteSettings)
  | auth (state : FakeAuthState) (setCookie : Option Text)
  | definitions (info : DefinitionsInfo) (records : List DefinitionRecord)
  | snapshotHead (info : SnapshotInfo)
  | stateRecord (record : StateRecord) (definition : Option DefinitionRecord)
  | snapshotTail
  | accepted
  | hello (info : SystemInfo)
  deriving DecidableEq

/-- The replies that show something of the system, its definitions or its states. -/
def Reply.reveals : Reply → Bool
  | .systemInfo _ | .definitions _ _ | .snapshotHead _ | .stateRecord _ _ | .hello _ => true
  | _ => false

/-- A handler at work: the server, its send calls and tries for the lock so far, and what was
sent. -/
structure Exchange where
  web : Server
  sendCalls : Nat
  lockCalls : Nat
  replies : List Reply
  deriving DecidableEq

/-- The second component of a handler's result is whether it returned `ESP_OK`. -/
abbrev Outcome := Exchange × Bool

def Exchange.start (w : Server) : Exchange := ⟨w, 0, 0, []⟩

def send (sends : Nat → Bool) (reply : Reply) (x : Exchange) : Outcome :=
  ({ x with
      sendCalls := x.sendCalls + 1
      replies := if sends x.sendCalls then x.replies ++ [reply] else x.replies },
    sends x.sendCalls)

def sendError (sends : Nat → Bool) (status message : String) (x : Exchange) : Outcome :=
  send sends (.error (ascii status) (ascii message)) x

/-- `ESP_RETURN_ON_ERROR`. -/
def returnOnError (step : Outcome) (rest : Exchange → Outcome) : Outcome :=
  if step.2 then rest step.1 else step

def Exchange.updated (x : Exchange) (w : Server) : Exchange := { x with web := w }

namespace Server

def systemInfo (w : Server) : SystemInfo := ⟨w.boot, w.defs, w.snapshot, w.wifi, w.settings⟩

def addWsClient (w : Server) (fd : Int) : Server :=
  if fd ∈ w.wsClients then w
  else
    match w.wsClients.findIdx? (· < 0) with
    | none => w
    | some index => { w with wsClients := w.wsClients.set index fd }

def isWsClientRegistered (w : Server) (fd : Int) : Bool := w.wsClients.contains fd

def removeWsClient (w : Server) (fd : Int) : Server :=
  { w with wsClients := w.wsClients.map fun client => if client = fd then -1 else client }

def clearAuthToken (w : Server) : Server := { w with authToken := [], authTokenValid := false }

def generateAuthToken (w : Server) (random : UInt32 × UInt32) : Server :=
  { w with authToken := hex8 random.1 ++ hex8 random.2, authTokenValid := true }

end Server

end NodeNet.Web

namespace NodeNet.Link.Esp

def takesRefresh (s : Esp) : Bool :=
  s.capsResponseSeen && !s.statesRequestSent && s.statesResponseSeen

def requestStatesRefresh (s : Esp) : Esp :=
  if s.takesRefresh then { s with refreshRequested := true } else s

def takesWrite (s : Esp) : Bool :=
  s.capsResponseSeen && s.statesResponseSeen && s.pendingWriteState.isNone &&
    !s.writeStateRequestSent

def requestWriteState (s : Esp) (pointIndex : UInt16) (expectedValueType : UInt8)
    (valueBits : UInt32) : Esp :=
  if s.takesWrite then
    { s with
      pendingWriteState := some (.writeState pointIndex.toNat expectedValueType valueBits) }
  else s

end NodeNet.Link.Esp

/-! The URI handlers, in the order of their source, and the guard that most of them start with. -/
namespace NodeNet.Web

open Points Link Search

def authCookie (w : Server) : Text := ascii "nodenet_auth=" ++ w.authToken

/-- The first place where the cookie stands decides; it has to stand alone there. -/
def requestHasValidAuthCookie (w : Server) (cookie : Option Text) : Bool :=
  match cookie with
  | none => false
  | some header =>
    if !w.authTokenValid || w.authToken = [] || header = [] || 255 < header.length then false
    else
      let allCookies := cString header
      match find (authCookie w) allCookies with
      | none => false
      | some pos =>
        let stop := pos + (authCookie w).length
        if pos ≠ 0 && allCookies[pos - 1]? ≠ some 59 && allCookies[pos - 1]? ≠ some 32 then false
        else stop = allCookies.length || allCookies[stop]? = some 59

def makeAnonymousAuthState (anonymousAccess : Bool) : FakeAuthState where
  anonymousAccess := anonymousAccess
  loginRequired := !anonymousAccess
  authenticated := anonymousAccess
  canAdmin := false
  username := if anonymousAccess then ascii "anonymous" else []
  group := if anonymousAccess then ascii "public" else []

def makeAdminAuthState (anonymousAccess : Bool) : FakeAuthState where
  anonymousAccess := anonymousAccess
  loginRequired := !anonymousAccess
  authenticated := true
  canAdmin := true
  username := ascii "admin"
  group := ascii "admin"

def getAuthStateForRequest (w : Server) (cookie : Option Text) : FakeAuthState :=
  if w.settings.anonymousAccess then makeAnonymousAuthState true
  else if requestHasValidAuthCookie w cookie then makeAdminAuthState false
  else makeAnonymousAuthState false

def isPublicUri (uri : Text) : Bool :=
  uri = ascii "/" || (ascii "/startup").isPrefixOf uri || (ascii "/app").isPrefixOf uri ||
    (ascii "/vendor").isPrefixOf uri || (ascii "/api/wifi/").isPrefixOf uri ||
    (ascii "/api/auth/").isPrefixOf uri || uri = ascii "/api/settings"

/-- The result is that of sending the refusal. -/
def rejectIfUnauthenticated (r : Request) (x : Exchange) : Outcome :=
  if isPublicUri r.uri then (x, true)
  else if (getAuthStateForRequest x.web r.cookie).authenticated then (x, true)
  else sendError r.sends "401 Unauthorized" "authentication required" x

/-- `ESP_RETURN_ON_ERROR(reject_if_unauthenticated(req), ..)` before the rest of a handler. -/
def guarded (r : Request) (rest : Exchange → Outcome) (x : Exchange) : Outcome :=
  returnOnError (rejectIfUnauthenticated r x) rest

def cutAt (stop : Text) (text : Text) : Text := text.takeWhile fun c => !stop.contains c

def mapUriToFile (uri : Text) : Option Text :=
  if (find (ascii "..") uri).isSome || (find [92] uri).isSome then none
  else
    let path := cutAt (ascii "?#") uri
    let path :=
      if path = ascii "/startup" || path = ascii "/startup/" then ascii "/startup/index.html"
      else if path = ascii "/app" || path = ascii "/app/" then ascii "/app/index.html"
      else path
    if (ascii "/startup/").isPrefixOf path || (ascii "/app/").isPrefixOf path ||
        (ascii "/vendor/").isPrefixOf path then some (ascii "/www" ++ path)
    else none

def guessContentType (path : Text) : Text :=
  if (ascii ".html").isSuffixOf path then ascii "text/html"
  else if (ascii ".css").isSuffixOf path then ascii "text/css"
  else if (ascii ".js").isSuffixOf path then ascii "application/javascript"
  else if (ascii ".json").isSuffixOf path then ascii "application/json"
  else ascii "text/plain"

def kFileChunkSize : Nat := 1024

/-- The loop over the file; a short read ends it. -/
def serveChunks (r : Request) (contentType : Text) : Nat → Text → Exchange → Outcome
  | 0, _, x => send r.sends .lastChunk x
  | reads + 1, file, x =>
    let buffer := file.take kFileChunkSize
    let sent := if buffer = [] then (x, true) else send r.sends (.fileChunk contentType buffer) x
    returnOnError sent fun x =>
      if buffer.length < kFileChunkSize then send r.sends .lastChunk x
      else serveChunks r contentType reads (file.drop kFileChunkSize) x

def serveFile (r : Request) (path : Text) (x : Exchange) : Outcome :=
  match x.web.files.lookup path with
  | none => sendError r.sends "404 Not Found" "asset not found" x
  | some file =>
    serveChunks r (guessContentType path) (file.length / kFileChunkSize + 1) file x

def handleRoot (r : Request) (x : Exchange) : Outcome :=
  let redirectToSetup :=
    match r.host with
    | none => false
    | some host =>
      host ≠ [] && host.length < 64 && x.web.wifi.apIp ≠ [] &&
        cutAt (ascii ":") (cString host) = x.web.wifi.apIp
  let location :=
    if redirectToSetup || !x.web.wifi.staHasCredentials then ascii "/startup/" else ascii "/app/"
  send r.sends (.redirect location) x

def handleStatic (r : Request) : Exchange → Outcome :=
  guarded r fun x =>
    match mapUriToFile r.uri with
    | none => sendError r.sends "404 Not Found" "unknown path" x
    | some path => serveFile r path x

/-- `get_status` first looks up the station's address. -/
def refreshLiveStaStatus (r : Request) (w : Server) : Server :=
  if w.staNetif && w.wifi.staHasCredentials && w.staShouldConnect then
    match r.liveIp with
    | some ip => { w with wifi := { w.wifi with staConnected := true, staIp := ip } }
    | none =>
      if w.wifi.staConnected then w else { w with wifi := { w.wifi with staIp := [] } }
  else w

def sendWifiStatus (r : Request) (x : Exchange) : Outcome :=
  let x := x.updated (refreshLiveStaStatus r x.web)
  send r.sends (.wifiStatus x.web.wifi) x

def handleSystemInfo (r : Request) : Exchange → Outcome :=
  guarded r fun x =>
    let x := x.updated (refreshLiveStaStatus r x.web)
    send r.sends (.systemInfo x.web.systemInfo) x

def handleWifiStatus (r : Request) (x : Exchange) : Outcome := sendWifiStatus r x

def handleWifiScan (r : Request) (x : Exchange) : Outcome :=
  send r.sends (.wifiScan (if x.web.wifiInitialized then r.networks.take 16 else [])) x

def handleSettingsGet (r : Request) (x : Exchange) : Outcome :=
  send r.sends (.settings x.web.settings) x

def handleAuthStatus (r : Request) (x : Exchange) : Outcome :=
  send r.sends (.auth (getAuthStateForRequest x.web r.cookie) none) x

/-- The body of a request, or the refusal of one that ends early. -/
def withBody (r : Request) (rest : Text → Exchange → Outcome) (x : Exchange) : Outcome :=
  match r.body with
  | none => sendError r.sends "400 Bad Request" "request body truncated" x
  | some body => rest (cString body) x

def expiredCookie : Text := ascii "nodenet_auth=; Path=/; Max-Age=0; HttpOnly; SameSite=Lax"

def handleAuthLogin (r : Request) : Exchange → Outcome :=
  withBody r fun payload x =>
    let username := extractJsonString payload (ascii "username")
    let password := extractJsonString payload (ascii "password")
    if username = missing || password = missing then
      sendError r.sends "400 Bad Request" "invalid login payload" x
    else if username ≠ ascii "admin" || password ≠ ascii "admin" then
      send r.sends (.loginRefused expiredCookie) (x.updated x.web.clearAuthToken)
    else
      let w := x.web.generateAuthToken r.random
      let setCookie := authCookie w ++ ascii "; Path=/; HttpOnly; SameSite=Lax"
      send r.sends (.auth (makeAdminAuthState w.settings.anonymousAccess) (some setCookie))
        (x.updated w)

def handleAuthLogout (r : Request) (x : Exchange) : Outcome :=
  let w := x.web.clearAuthToken
  send r.sends (.auth (getAuthStateForRequest w r.cookie) (some expiredCookie)) (x.updated w)

def setStationCredentials (r : Request) (ssid : Text) (w : Server) : Server × Bool :=
  if !r.saved then (w, false)
  else
    ({ w with
        wifi := { w.wifi with
          staHasCredentials := true
          apSsid := ascii "NodeNet-Setup"
          staSsid := ssid.take 32 }
        staShouldConnect := true },
      !w.wifiInitialized || r.driverOk)

def disconnectStation (r : Request) (w : Server) : Server × Bool :=
  ({ w with
      wifi := { w.wifi with staConnected := false, staIp := [] }
      staShouldConnect := false },
    !w.wifiInitialized || r.driverOk)

def forgetStationCredentials (r : Request) (w : Server) : Server × Bool :=
  if !r.saved then (w, false)
  else
    ({ w with
        wifi := { w.wifi with
          staHasCredentials := false
          staConnected := false
          staSsid := []
          staIp := [] }
        staShouldConnect := false },
      !w.wifiInitialized || r.driverOk)

/-- A change by a manager, and what follows if it succeeds. -/
def changed (change : Server × Bool) (rest : Exchange → Outcome) (x : Exchange) : Outcome :=
  returnOnError (x.updated change.1, change.2) rest

def optionalJsonString (payload key : Text) : Text :=
  if (find (quotedKey key) payload).isSome then extractJsonString payload key else []

def handleWifiConfig (r : Request) : Exchange → Outcome :=
  withBody r fun payload x =>
    if (find (quotedKey (ascii "ssid")) payload).isNone then
      sendError r.sends "400 Bad Request" "ssid missing" x
    else
      let ssid := extractJsonString payload (ascii "ssid")
      let password := optionalJsonString payload (ascii "password")
      if ssid = missing || ssid = [] then
        sendError r.sends "400 Bad Request" "invalid ssid" x
      else if password = missing then
        sendError r.sends "400 Bad Request" "invalid password" x
      else changed (setStationCredentials r ssid x.web) (sendWifiStatus r) x

def handleWifiDisconnect (r : Request) (x : Exchange) : Outcome :=
  changed (disconnectStation r x.web) (sendWifiStatus r) x

def handleWifiForget (r : Request) (x : Exchange) : Outcome :=
  changed (forgetStationCredentials r x.web) (sendWifiStatus r) x

def kSupportedLanguages : List Text :=
  [ascii "uk", ascii "fr", ascii "de", ascii "es", ascii "zh-Hans"]

def setSiteSettings (r : Request) (settings : SiteSettings) (w : Server) : Server × Bool :=
  if r.saved then ({ w with settings := settings }, true) else (w, false)

def handleSettingsPost (r : Request) : Exchange → Outcome :=
  withBody r fun payload x =>
    let language := extractJsonString payload (ascii "language")
    match extractJsonBool payload (ascii "anonymous") with
    | none => sendError r.sends "400 Bad Request" "invalid settings payload" x
    | some anonymousAccess =>
      if language = missing then
        sendError r.sends "400 Bad Request" "invalid settings payload" x
      else if language ∉ kSupportedLanguages then
        sendError r.sends "400 Bad Request" "unsupported language" x
      else
        changed (setSiteSettings r ⟨language, anonymousAccess⟩ x.web) (handleSettingsGet r) x

def tryLocked {α : Type} (r : Request) (value : α) (otherwise : α) (x : Exchange) :
    α × Exchange :=
  (if r.locks x.lockCalls then value else otherwise, { x with lockCalls := x.lockCalls + 1 })

def handleDefs (r : Request) : Exchange → Outcome :=
  guarded r fun x =>
    let info := x.web.defs
    let copied := tryLocked r (x.web.link.definitionRecords.take info.pointCount) [] x
    send r.sends (.definitions info copied.1) copied.2

/-- The loop over the records, from an index on. -/
def sendStateRecords (r : Request) : Nat → Nat → Exchange → Outcome
  | 0, _, x => (x, true)
  | count + 1, index, x =>
    let cached := tryLocked r x.web.link.stateRecords[index]? none x
    match cached.1 with
    | none => (cached.2, true)
    | some record =>
      let definition :=
        tryLocked r x.web.link.definitionRecords[record.pointIndex]? none cached.2
      returnOnError (send r.sends (.stateRecord record definition.1) definition.2) fun x =>
        sendStateRecords r count (index + 1) x

def handleSnapshot (r : Request) : Exchange → Outcome :=
  guarded r fun x =>
    let info := x.web.snapshot
    returnOnError (send r.sends (.snapshotHead info) x) fun x =>
      returnOnError (sendStateRecords r info.loadedPoints 0 x) fun x =>
        returnOnError (send r.sends .snapshotTail x) (send r.sends .lastChunk)

/-- A refresh that the link does not take is answered as one that it takes. -/
def handleSnapshotRefresh (r : Request) : Exchange → Outcome :=
  guarded r fun x =>
    send r.sends .accepted (x.updated { x.web with link := x.web.link.requestStatesRefresh })

/-- The point, the type and the value of a write. -/
def writeOf (payload : Text) : Option (UInt16 × UInt8 × UInt32) :=
  (extractJsonU32 payload (ascii "point_index")).bind fun pointIndex =>
    (extractJsonU32 payload (ascii "value_type")).bind fun valueType =>
      (extractJsonU32 payload (ascii "value_bits")).map fun valueBits =>
        (pointIndex.toUInt16, valueType.toUInt8, valueBits)

def handlePlcWrite (r : Request) : Exchange → Outcome :=
  guarded r <| withBody r fun payload x =>
    match writeOf payload with
    | none => sendError r.sends "400 Bad Request" "invalid plc write payload" x
    | some (pointIndex, valueType, valueBits) =>
      if x.web.link.takesWrite then
        let link := x.web.link.requestWriteState pointIndex valueType valueBits
        send r.sends .accepted (x.updated { x.web with link := link })
      else sendError r.sends "409 Conflict" "plc write refused" x

/-- The handler of `/ws` at the handshake. -/
def handleWs (r : Request) : Exchange → Outcome :=
  guarded r fun x =>
    let w := refreshLiveStaStatus r (x.web.addWsClient r.sockfd)
    send r.sends (.hello w.systemInfo) (x.updated w)

/-- The handler of `/ws` for what comes later. -/
def handleWsFrame (f : Frame) (x : Exchange) : Outcome :=
  if !x.web.isWsClientRegistered f.sockfd then
    sendError f.sends "401 Unauthorized" "authentication required" x
  else
    match f.message with
    | none => (x, false)
    | some message =>
      if (find (ascii "refresh_states") message).isSome then
        (x.updated { x.web with link := x.web.link.requestStatesRefresh }, true)
      else (x, true)

end NodeNet.Web

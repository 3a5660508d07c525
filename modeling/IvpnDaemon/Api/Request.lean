import IvpnDaemon.Api.Interleaving
import IvpnDaemon.Api.URL

/-!
# API requests, responses and the server list

`doRequest` sends a request to the API host, through the failover of `doRequestAPIHost`, or to
the update host, in one attempt and with no failover. `requestRaw` reads the response body and
`requestEx` decodes it. `SessionNew` and `SessionStatus` decode the `{status, message}`
envelope first and the typed response only when its status is `CodeSuccess`; `SessionDelete`
and `WireGuardKeySet` decode the typed response and check its status; `DownloadServersList`
installs the alternate addresses of the list it downloads.

HTTP and JSON belong to the world: each `client.Do`, `ioutil.ReadAll` and `json.Unmarshal` is
an answer. The status codes of the `types` package are parameters.

From any state, a successful download installs the parsed addresses and leaves the last good
address `nil` or listed, and a failed one keeps both (`downloadServersList_alternates`). What
each method does to the client's state is a run of the interleaving model: `Api/Calls.lean`.
-/

namespace IvpnDaemon.Api
open Net

def updateHost : String := "repo.ivpn.net"

inductive ApiError
  | marshal
  | newRequest (url : String)
  /-- the error of the call's `k`-th `client.Do` -/
  | transport (k : Nat)
  | readAll
  | json (msg : String)
  /-- `fmt.Errorf` with no `%w` -/
  | text (msg : String)
  /-- `fmt.Errorf` with `%w`: the text before it, and the wrapped error -/
  | wrap (msg : String) (e : ApiError)
  /-- `types.CreateAPIError(status, message)` -/
  | api (status : Int) (message : String)
  deriving DecidableEq, Repr

def Failure.toApiError : Failure → ApiError
  | .marshal => .marshal
  | .newRequest url => .newRequest url
  | .unableToAccess k => .wrap "Unable to access IVPN API server: " (.transport k)

/-- What `doRequest` did: its response (`ok`) or its error, the argument of its
`saveLastGoodAlternateIP` call if it made one, and the requests it handed to `client.Do`. -/
structure Sent where
  result : Except ApiError Unit
  saved : Option (Option IP)
  sent : List Request

def Call.toSent (c : Call) : Sent :=
  ⟨match c.reply with
    | .response _ => .ok ()
    | .error e => .error e.toApiError, c.saved, c.sent⟩

/-- `doRequestUpdateHost`: one attempt at the update host, the call's first `client.Do`, from
the result of `json.Marshal` (`none` when it failed). -/
def doRequestUpdateHost (env : Env) (urlPath method contentType : String)
    (data : Option (List UInt8)) : Sent :=
  match data with
  | none => ⟨.error .marshal, none, []⟩
  | some data =>
    match newRequest env (getURL updateHost urlPath) method contentType data with
    | none => ⟨.error (.newRequest (getURL updateHost urlPath)), none, []⟩
    | some req =>
      match env.attempt 0 with
      | .ok => ⟨.ok (), none, [req]⟩
      | .fail _ =>
        ⟨.error (.wrap "Unable to access IVPN repo server: " (.transport 0)), none, [req]⟩

/-- `doRequest`: the API host for the empty host and `api.ivpn.net`, the update host for
`repo.ivpn.net`, and an error for any other host. -/
def doRequest (env : Env) (snapshot : Option IP × List IP)
    (host urlPath method contentType : String) (data : Option (List UInt8)) : Sent :=
  if host.length = 0 ∨ host = apiHost then
    (doRequestAPIHost env snapshot urlPath method contentType data).toSent
  else if host = updateHost then doRequestUpdateHost env urlPath method contentType data
  else ⟨.error (.text "unknown host type"), none, []⟩

/-- What the world answers during one method call of the client: its requests, and
`ioutil.ReadAll` of the response body (`none` for an error). -/
structure World where
  env : Env
  readAll : Option (List UInt8)

abbrev Unmarshal (α : Type) := List UInt8 → Except String α

/-- `requestRaw`: what `doRequest` did, and the response body or the error of what failed. -/
def requestRaw (w : World) (snapshot : Option IP × List IP)
    (host urlPath method contentType : String) (data : Option (List UInt8)) :
    Sent × Except ApiError (List UInt8) :=
  let s := doRequest w.env snapshot host urlPath method contentType data
  (s, match s.result with
    | .error e => .error (.wrap "API request failed: " e)
    | .ok () =>
      match w.readAll with
      | none => .error (.wrap "failed to get API HTTP response body: " .readAll)
      | some body => .ok body)

def deserializeError (msg : String) : ApiError :=
  .wrap "failed to deserialize API response: " (.json msg)

/-- `requestEx`, and `request`, which is `requestEx` with no timeout: `requestRaw`, then
`json.Unmarshal` of the body. -/
def requestEx {α : Type} (w : World) (snapshot : Option IP × List IP) (unmarshal : Unmarshal α)
    (host urlPath method contentType : String) (data : Option (List UInt8)) :
    Sent × Except ApiError α :=
  let r := requestRaw w snapshot host urlPath method contentType data
  (r.1, match r.2 with
    | .error e => .error e
    | .ok body =>
      match unmarshal body with
      | .error m => .error (deserializeError m)
      | .ok v => .ok v)

def API.afterSent (a : API) (s : Sent) : API :=
  match s.saved with
  | some lastGood => a.saveLastGoodAlternateIP lastGood
  | none => a

/-- What a method call of the client leaves: the client's state, the requests it sent, and
what it returns. -/
structure Done (α : Type) where
  api : API
  sent : List Request
  result : α

/-! ## The server list and the aliases -/

structure ServersInfoResponse where
  ipAddresses : List String
  deriving DecidableEq, Repr

/-- `DownloadServersList`: the server list, and `SetAlternateIPs` of its API addresses. -/
def API.downloadServersList (a : API) (w : World) (unmarshal : Unmarshal ServersInfoResponse) :
    Done (Except ApiError ServersInfoResponse) :=
  let r := requestEx w a.getAlternateIPs unmarshal "" serversPath "GET" "" (some [])
  match r.2 with
  | .error e => ⟨a.afterSent r.1, r.1.sent, .error e⟩
  | .ok servers => ⟨(a.afterSent r.1).setAlternateIPs servers.ipAddresses, r.1.sent, .ok servers⟩

structure Alias where
  host : String
  path : String
  deriving DecidableEq, Repr

def apiAliases : List (String × Alias) :=
  [("geo-lookup", ⟨apiHost, geoLookupPath⟩),
    ("updateInfo_Linux", ⟨updateHost, "/stable/_update_info/update.json"⟩),
    ("updateSign_Linux", ⟨updateHost, "/stable/_update_info/update.json.sign.sha256.base64"⟩),
    ("updateInfo_macOS", ⟨updateHost, "/macos/update.json"⟩),
    ("updateSign_macOS", ⟨updateHost, "/macos/update.json.sign.sha256.base64"⟩),
    ("updateInfo_Windows", ⟨updateHost, "/windows/update.json"⟩),
    ("updateSign_Windows", ⟨updateHost, "/windows/update.json.sign.sha256.base64"⟩),
    ("updateInfo_manual_Linux", ⟨updateHost, "/stable/_update_info/update_manual.json"⟩),
    ("updateSign_manual_Linux",
      ⟨updateHost, "/stable/_update_info/update_manual.json.sign.sha256.base64"⟩),
    ("updateInfo_manual_macOS", ⟨updateHost, "/macos/update_manual.json"⟩),
    ("updateSign_manual_macOS", ⟨updateHost, "/macos/update_manual.json.sign.sha256.base64"⟩),
    ("updateInfo_manual_Windows", ⟨updateHost, "/windows/update_manual.json"⟩),
    ("updateSign_manual_Windows",
      ⟨updateHost, "/windows/update_manual.json.sign.sha256.base64"⟩)]

def API.doRequestByAlias (a : API) (w : World) (apiAlias : String) :
    Done (Except ApiError (List UInt8)) :=
  match apiAliases.lookup apiAlias with
  | none => ⟨a, [], .error (.text "Unexpected request alias")⟩
  | some al =>
    let r := requestRaw w a.getAlternateIPs al.host al.path "" "" (some [])
    ⟨a.afterSent r.1, r.1.sent, r.2⟩

/-! ## Sessions, keys and the location -/

structure APIErrorResponse where
  status : Int
  message : String
  deriving DecidableEq, Repr

structure StatusCodes where
  success : Int
  sessionsLimitReached : Int

/-- What `SessionNew` returns: the success response, the session-limit response, the
envelope, the raw response and the error. -/
structure SessionNewResult (S L : Type) where
  success : Option S
  errorLimit : Option L
  apiErr : Option APIErrorResponse
  rawResponse : List UInt8
  err : Option ApiError

def API.sessionNew {S L : Type} (a : API) (w : World) (codes : StatusCodes)
    (envelope : Unmarshal APIErrorResponse) (successResp : Unmarshal S)
    (errorLimitResp : Unmarshal L) (request : Option (List UInt8)) :
    Done (SessionNewResult S L) :=
  let r := requestRaw w a.getAlternateIPs "" sessionNewPath "POST" "application/json" request
  let done := fun res => Done.mk (a.afterSent r.1) r.1.sent res
  match r.2 with
  | .error e => done ⟨none, none, none, [], some e⟩
  | .ok data =>
    match envelope data with
    | .error m => done ⟨none, none, none, data, some (deserializeError m)⟩
    | .ok apiErr =>
      if apiErr.status = codes.success then
        match successResp data with
        | .error m => done ⟨none, none, none, data, some (deserializeError m)⟩
        | .ok s => done ⟨some s, none, some apiErr, data, none⟩
      else if apiErr.status = codes.sessionsLimitReached then
        match errorLimitResp data with
        | .error m => done ⟨none, none, none, data, some (deserializeError m)⟩
        | .ok l => done ⟨none, some l, some apiErr, data, some (.api apiErr.status apiErr.message)⟩
      else done ⟨none, none, some apiErr, data, some (.api apiErr.status apiErr.message)⟩

/-- `SessionStatus`, from the result of `json.Marshal` of its request; `resp` decodes the
`ServiceStatus` of a `SessionStatusResponse`. -/
def API.sessionStatus {R : Type} (a : API) (w : World) (codes : StatusCodes)
    (envelope : Unmarshal APIErrorResponse) (resp : Unmarshal R) (request : Option (List UInt8)) :
    Done (Option R × Option APIErrorResponse × Option ApiError) :=
  let r := requestRaw w a.getAlternateIPs "" sessionStatusPath "POST" "application/json" request
  let done := fun res => Done.mk (a.afterSent r.1) r.1.sent res
  match r.2 with
  | .error e => done (none, none, some e)
  | .ok data =>
    match envelope data with
    | .error m => done (none, none, some (deserializeError m))
    | .ok apiErr =>
      if apiErr.status = codes.success then
        match resp data with
        | .error m => done (none, none, some (deserializeError m))
        | .ok s => done (some s, some apiErr, none)
      else done (none, some apiErr, some (.api apiErr.status apiErr.message))

def API.sessionDelete (a : API) (w : World) (codes : StatusCodes)
    (resp : Unmarshal APIErrorResponse) (request : Option (List UInt8)) :
    Done (Option ApiError) :=
  let r := requestEx w a.getAlternateIPs resp "" sessionDeletePath "POST" "application/json"
    request
  ⟨a.afterSent r.1, r.1.sent,
    match r.2 with
    | .error e => some e
    | .ok resp =>
      if resp.status ≠ codes.success then some (.api resp.status resp.message) else none⟩

structure SessionsWireGuardResponse where
  status : Int
  message : String
  ipAddress : String
  deriving DecidableEq, Repr

/-- `WireGuardKeySet`, from the result of `json.Marshal` of its request: the local address the
API assigned. -/
def API.wireGuardKeySet (a : API) (w : World) (codes : StatusCodes)
    (resp : Unmarshal SessionsWireGuardResponse) (request : Option (List UInt8)) :
    Done (Except ApiError IP) :=
  let r := requestEx w a.getAlternateIPs resp "" wgKeySetPath "POST" "application/json" request
  ⟨a.afterSent r.1, r.1.sent,
    match r.2 with
    | .error e => .error e
    | .ok resp =>
      if resp.status ≠ codes.success then .error (.api resp.status resp.message)
      else
        match parseIP resp.ipAddress with
        | none => .error (.text "failed to set WG key (failed to parse local IP in API response)")
        | some localIP => .ok localIP⟩

/-- `GeoLookup`; its `timeoutMs` only sets the `http.Client` timeout, which the world's answers
reflect. -/
def API.geoLookup {G : Type} (a : API) (w : World) (resp : Unmarshal G) :
    Done (Except ApiError G) :=
  let r := requestEx w a.getAlternateIPs resp "" geoLookupPath "GET" "" (some [])
  ⟨a.afterSent r.1, r.1.sent, r.2⟩

/-! ## What a request does to the client's state -/

@[simp] theorem requestRaw_fst (w : World) (snapshot : Option IP × List IP)
    (host urlPath method contentType : String) (data : Option (List UInt8)) :
    (requestRaw w snapshot host urlPath method contentType data).1 =
      doRequest w.env snapshot host urlPath method contentType data := rfl

@[simp] theorem requestEx_fst {α : Type} (w : World) (snapshot : Option IP × List IP)
    (unmarshal : Unmarshal α) (host urlPath method contentType : String)
    (data : Option (List UInt8)) :
    (requestEx w snapshot unmarshal host urlPath method contentType data).1 =
      doRequest w.env snapshot host urlPath method contentType data := rfl

@[simp] theorem doRequest_empty (env : Env) (snapshot : Option IP × List IP)
    (urlPath method contentType : String) (data : Option (List UInt8)) :
    doRequest env snapshot "" urlPath method contentType data =
      (doRequestAPIHost env snapshot urlPath method contentType data).toSent := by
  simp [doRequest]

@[simp] theorem doRequestUpdateHost_saved (env : Env) (urlPath method contentType : String)
    (data : Option (List UInt8)) :
    (doRequestUpdateHost env urlPath method contentType data).saved = none := by
  unfold doRequestUpdateHost
  repeat' split
  all_goals rfl

theorem doRequest_saved {env : Env} {snapshot : Option IP × List IP}
    {host urlPath method contentType : String} {data : Option (List UInt8)} {y : IP}
    (h : (doRequest env snapshot host urlPath method contentType data).saved = some (some y)) :
    y ∈ snapshot.2 := by
  unfold doRequest at h
  split_ifs at h
  · exact doRequestAPIHost_saved h
  · simp at h

@[simp] theorem API.afterSent_alternateIPs (a : API) (s : Sent) :
    (a.afterSent s).alternateIPs = a.alternateIPs := by
  unfold API.afterSent
  split <;> rfl

theorem lastGoodListed_afterSent {a : API} {s : Sent}
    (hs : ∀ y, s.saved = some (some y) → y ∈ a.alternateIPs) (h : LastGoodListed a) :
    LastGoodListed (a.afterSent s) := by
  unfold API.afterSent
  split
  · rename_i lastGood hl
    rintro x (rfl : lastGood = some x)
    exact ⟨x, hs x hl, IP.equal_self x⟩
  · exact h

/-! ## The server list -/

/-- From any state, a successful `DownloadServersList` installs the addresses of the list it
downloaded that `ParseIP` accepts and leaves the last good address `nil` or `Equal` to one of
them; a failed one keeps the alternate list, and keeps the last good address listed if it
was. -/
theorem downloadServersList_alternates (a : API) (w : World)
    (unmarshal : Unmarshal ServersInfoResponse) :
    let d : Done (Except ApiError ServersInfoResponse) := a.downloadServersList w unmarshal
    (∀ servers, d.result = .ok servers →
      d.api.alternateIPs = servers.ipAddresses.filterMap parseIP ∧ LastGoodListed d.api) ∧
    (∀ e, d.result = .error e →
      d.api.alternateIPs = a.alternateIPs ∧ (LastGoodListed a → LastGoodListed d.api)) := by
  intro d
  unfold d API.downloadServersList
  dsimp only
  split
  · refine ⟨fun _ h => (nomatch h), fun _ _ => ⟨API.afterSent_alternateIPs _ _, ?_⟩⟩
    exact lastGoodListed_afterSent fun y hy =>
      doRequest_saved (by simpa only [requestEx_fst] using hy)
  · refine ⟨fun servers h => ?_, fun _ h => (nomatch h)⟩
    cases h
    exact ⟨API.setAlternateIPs_alternateIPs _ _, fun x hx => setAlternateIPs_lastGood hx⟩

/-- From the state an overlap left, with `10.0.0.1` saved but only `10.0.0.2` listed, a
download answered by the last good address installs `10.0.0.3`, drops the string `ParseIP`
refuses, and clears the unlisted last good address. -/
theorem download_clears_unlisted_lastGood :
    let a : API := ⟨[IPv4 10 0 0 2], some (IPv4 10 0 0 1)⟩
    let w : World := ⟨⟨fun _ _ => true, fun _ => .ok⟩, some []⟩
    let unmarshal : Unmarshal ServersInfoResponse := fun _ => .ok ⟨["10.0.0.3", "bad"]⟩
    (a.downloadServersList w unmarshal).result = .ok ⟨["10.0.0.3", "bad"]⟩ ∧
      (a.downloadServersList w unmarshal).api = ⟨[IPv4 10 0 0 3], none⟩ ∧
      LastGoodListed (a.downloadServersList w unmarshal).api := by
  intro a w unmarshal
  have hok : (a.downloadServersList w unmarshal).result = .ok ⟨["10.0.0.3", "bad"]⟩ := rfl
  exact ⟨hok, by decide, ((downloadServersList_alternates a w unmarshal).1 _ hok).2⟩

end IvpnDaemon.Api

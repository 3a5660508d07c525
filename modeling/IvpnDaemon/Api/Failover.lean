import IvpnDaemon.Api.AlternateIPs
import IvpnDaemon.Net.Path

/-!
# Failover of API-host requests

`doRequestAPIHost` tries the last good alternate, then the API host by name, then every
alternate IP, handing each `http.Request` to `client.Do`. All attempts build their request
from one `bytes.Buffer` holding the JSON body, so what an attempt's transport reads from it
is gone for the attempts after it.
-/

namespace IvpnDaemon.Api
open Net

def apiHost : String := "api.ivpn.net"

def getURL (host urlpath : String) : String := "https://" ++ join [host, urlpath]

/-- What `client.Do` does with a request: answer, or fail after its transport has read
`read` bytes of the body. -/
inductive Outcome
  | ok
  | fail (read : Nat)
  deriving DecidableEq, Repr

structure Env where
  /-- whether `http.NewRequest(method, url, body)` accepts the method and the URL -/
  newRequestOk : String → String → Bool
  attempt : Nat → Outcome

/-- An `http.Request` as `newRequest` builds it over a `bytes.Buffer`: the body is the
buffer's unread bytes and `ContentLength` their number. -/
structure Request where
  method : String
  url : String
  contentType : Option String
  body : List UInt8
  contentLength : Nat
  deriving DecidableEq, Repr

def requestMethod (method : String) : String := if method.length = 0 then "GET" else method

def newRequest (env : Env) (urlPath method contentType : String) (body : List UInt8) :
    Option Request :=
  if env.newRequestOk (requestMethod method) urlPath then
    some ⟨requestMethod method, urlPath,
      if 0 < contentType.length then some contentType else none, body, body.length⟩
  else none

inductive Failure
  | marshal
  | newRequest (url : String)
  /-- "Unable to access IVPN API server", wrapping the error of attempt `k` -/
  | unableToAccess (k : Nat)
  deriving DecidableEq, Repr

inductive Reply
  | response (k : Nat)
  | error (e : Failure)
  deriving DecidableEq, Repr

/-- What one `doRequestAPIHost` call does: its reply, the argument of its
`saveLastGoodAlternateIP` call if it made one, and the requests it handed to `client.Do`. -/
structure Call where
  reply : Reply
  saved : Option (Option IP)
  sent : List Request
  deriving DecidableEq, Repr

/-- The loop over the alternate IPs. `k` numbers the next attempt, `buf` is the body buffer
and `firstErr` the attempt by host name. -/
def alternatesLoop (env : Env) (urlPath method contentType : String) (firstErr : Nat) :
    List IP → Nat → List UInt8 → List Request → Call
  | [], _, _, sent => ⟨.error (.unableToAccess firstErr), none, sent⟩
  | ip :: ips, k, buf, sent =>
    match newRequest env (getURL ip.toString urlPath) method contentType buf with
    | none => ⟨.error (.newRequest (getURL ip.toString urlPath)), none, sent⟩
    | some req =>
      match env.attempt k with
      | .ok => ⟨.response k, some (some ip), sent ++ [req]⟩
      | .fail n =>
        alternatesLoop env urlPath method contentType firstErr ips (k + 1) (buf.drop n)
          (sent ++ [req])

def byHostName (env : Env) (urlPath method contentType : String) (ips : List IP) (k : Nat)
    (buf : List UInt8) (sent : List Request) : Call :=
  match newRequest env (getURL apiHost urlPath) method contentType buf with
  | none => ⟨.error (.newRequest (getURL apiHost urlPath)), none, sent⟩
  | some req =>
    match env.attempt k with
    | .ok => ⟨.response k, some none, sent ++ [req]⟩
    | .fail n => alternatesLoop env urlPath method contentType k ips (k + 1) (buf.drop n) (sent ++ [req])

/-- `doRequestAPIHost`, from the snapshot `getAlternateIPs` took and the result of
`json.Marshal` (`none` when it failed; the empty body when there is no request object). -/
def doRequestAPIHost (env : Env) (snapshot : Option IP × List IP)
    (urlPath method contentType : String) (data : Option (List UInt8)) : Call :=
  match data with
  | none => ⟨.error .marshal, none, []⟩
  | some data =>
    match snapshot.1 with
    | none => byHostName env urlPath method contentType snapshot.2 0 data []
    | some lastIP =>
      match newRequest env (getURL lastIP.toString urlPath) method contentType data with
      | none => ⟨.error (.newRequest (getURL lastIP.toString urlPath)), none, []⟩
      | some req =>
        match env.attempt 0 with
        | .ok => ⟨.response 0, none, [req]⟩
        | .fail n => byHostName env urlPath method contentType snapshot.2 1 (data.drop n) [req]

/-! ## The code's failover, and one that skips a request it cannot build -/

/-- A host to try: its URL and the `saveLastGoodAlternateIP` argument a success there leads
to (`none`: no save). -/
structure Target where
  url : String
  save : Option (Option IP)

def Target.dnsAfter (t : Target) (k dns : Nat) : Nat := if t.save = some none then k else dns

/-- The hosts in order: the last good alternate if there is one, the API host by name, then
each alternate IP. -/
def targets (urlPath : String) (snapshot : Option IP × List IP) : List Target :=
  (snapshot.1.map fun ip => ⟨getURL ip.toString urlPath, none⟩).toList ++
    ⟨getURL apiHost urlPath, some none⟩ ::
      snapshot.2.map fun ip => ⟨getURL ip.toString urlPath, some (some ip)⟩

/-- The failover `doRequestAPIHost` carries out over `targets`, attempts numbered from `k`:
the first success answers and saves its host's value, a request that cannot be built ends the
call with that error, and when every attempt fails the error wraps `dns`, the attempt at the
API host. Also returns the URLs it tried. -/
def failover (build : String → Bool) (attempt : Nat → Outcome) (dns : Nat) :
    Nat → List Target → Reply × Option (Option IP) × List String
  | _, [] => (.error (.unableToAccess dns), none, [])
  | k, t :: ts =>
    if build t.url then
      match attempt k with
      | .ok => (.response k, t.save, [t.url])
      | .fail _ =>
        let r := failover build attempt (t.dnsAfter k dns) (k + 1) ts
        (r.1, r.2.1, t.url :: r.2.2)
    else (.error (.newRequest t.url), none, [])

/-- `failover` with one change: a request that cannot be built counts as a failed attempt,
with no `client.Do` call, and the hosts after it are still tried. -/
def specFailover (build : String → Bool) (attempt : Nat → Outcome) (dns : Nat) :
    Nat → List Target → Reply × Option (Option IP) × List String
  | _, [] => (.error (.unableToAccess dns), none, [])
  | k, t :: ts =>
    if build t.url then
      match attempt k with
      | .ok => (.response k, t.save, [t.url])
      | .fail _ =>
        let r := specFailover build attempt (t.dnsAfter k dns) (k + 1) ts
        (r.1, r.2.1, t.url :: r.2.2)
    else specFailover build attempt dns k ts

def buildable (env : Env) (method url : String) : Bool := env.newRequestOk (requestMethod method) url

theorem newRequest_of_not_buildable {env : Env} {url method contentType : String}
    {body : List UInt8} (h : buildable env method url = false) :
    newRequest env url method contentType body = none := by
  simp only [newRequest, buildable] at h ⊢
  simp [h]

theorem newRequest_of_buildable {env : Env} {url method contentType : String}
    {body : List UInt8} (h : buildable env method url = true) :
    newRequest env url method contentType body =
      some ⟨requestMethod method, url,
        if 0 < contentType.length then some contentType else none, body, body.length⟩ := by
  simp only [newRequest, buildable] at h ⊢
  simp [h]

def Call.outcome (c : Call) : Reply × Option (Option IP) × List String :=
  (c.reply, c.saved, c.sent.map Request.url)

theorem alternatesLoop_outcome (env : Env) (urlPath method contentType : String)
    (firstErr : Nat) (ips : List IP) (k : Nat) (buf : List UInt8) (sent : List Request) :
    (alternatesLoop env urlPath method contentType firstErr ips k buf sent).outcome =
      let r := failover (buildable env method) env.attempt firstErr k
        (ips.map fun ip => ⟨getURL ip.toString urlPath, some (some ip)⟩)
      (r.1, r.2.1, sent.map Request.url ++ r.2.2) := by
  induction ips generalizing k buf sent with
  | nil => simp [alternatesLoop, failover, Call.outcome]
  | cons ip ips ih =>
    cases hb : buildable env method (getURL ip.toString urlPath) with
    | false => simp [alternatesLoop, failover, Call.outcome, hb, newRequest_of_not_buildable hb]
    | true =>
      cases ha : env.attempt k with
      | ok => simp [alternatesLoop, failover, Call.outcome, hb, newRequest_of_buildable hb, ha]
      | fail n =>
        simp [alternatesLoop, failover, Target.dnsAfter, hb, newRequest_of_buildable hb, ha, ih]

theorem byHostName_outcome (env : Env) (urlPath method contentType : String) (ips : List IP)
    (k dns : Nat) (buf : List UInt8) (sent : List Request) :
    (byHostName env urlPath method contentType ips k buf sent).outcome =
      let r := failover (buildable env method) env.attempt dns k
        (⟨getURL apiHost urlPath, some none⟩ ::
          ips.map fun ip => ⟨getURL ip.toString urlPath, some (some ip)⟩)
      (r.1, r.2.1, sent.map Request.url ++ r.2.2) := by
  cases hb : buildable env method (getURL apiHost urlPath) with
  | false => simp [byHostName, failover, Call.outcome, hb, newRequest_of_not_buildable hb]
  | true =>
    cases ha : env.attempt k with
    | ok => simp [byHostName, failover, Call.outcome, hb, newRequest_of_buildable hb, ha]
    | fail n =>
      simp [byHostName, failover, Target.dnsAfter, hb, newRequest_of_buildable hb, ha,
        alternatesLoop_outcome]

/-- `doRequestAPIHost` is the failover over `targets`. -/
theorem Call.outcome_doRequestAPIHost (env : Env) (snapshot : Option IP × List IP)
    (urlPath method contentType : String) (data : List UInt8) :
    (doRequestAPIHost env snapshot urlPath method contentType (some data)).outcome =
      failover (buildable env method) env.attempt 0 0 (targets urlPath snapshot) := by
  obtain ⟨lastIP, ips⟩ := snapshot
  cases lastIP with
  | none =>
    simpa [doRequestAPIHost, targets] using
      byHostName_outcome env urlPath method contentType ips 0 0 data []
  | some ip =>
    cases hb : buildable env method (getURL ip.toString urlPath) with
    | false =>
      simp [doRequestAPIHost, targets, failover, Call.outcome, hb,
        newRequest_of_not_buildable hb]
    | true =>
      cases ha : env.attempt 0 with
      | ok =>
        simp [doRequestAPIHost, targets, failover, Call.outcome, hb,
          newRequest_of_buildable hb, ha]
      | fail n =>
        simp [doRequestAPIHost, targets, failover, Target.dnsAfter, hb, newRequest_of_buildable hb,
          ha, byHostName_outcome env urlPath method contentType ips 1 0]

theorem failover_saved {build : String → Bool} {attempt : Nat → Outcome} {dns k : Nat}
    {ts : List Target} {v : Option IP} (h : (failover build attempt dns k ts).2.1 = some v) :
    ∃ t ∈ ts, t.save = some v := by
  induction ts generalizing k dns with
  | nil => simp [failover] at h
  | cons t ts ih =>
    simp only [failover] at h
    split at h
    · split at h
      · exact ⟨t, List.mem_cons_self t ts, h⟩
      · obtain ⟨t', ht', hs⟩ := ih h
        exact ⟨t', List.mem_cons_of_mem t ht', hs⟩
    · cases h

/-- A request saves `nil`, or one of the alternates of its snapshot. -/
theorem doRequestAPIHost_saved {env : Env} {snapshot : Option IP × List IP}
    {urlPath method contentType : String} {data : Option (List UInt8)} {y : IP}
    (h : (doRequestAPIHost env snapshot urlPath method contentType data).saved = some (some y)) :
    y ∈ snapshot.2 := by
  cases data with
  | none => simp [doRequestAPIHost] at h
  | some data =>
    have ho := congrArg (·.2.1)
      (Call.outcome_doRequestAPIHost env snapshot urlPath method contentType data)
    simp only [Call.outcome] at ho
    obtain ⟨t, ht, hs⟩ := failover_saved (ho ▸ h)
    simp only [targets, List.mem_append, List.mem_cons, List.mem_map] at ht
    rcases ht with ht | rfl | ⟨ip, hip, rfl⟩
    · cases h1 : snapshot.1 <;> simp [h1] at ht
      subst ht
      simp at hs
    · simp at hs
    · simp only [Option.some.injEq] at hs
      exact hs ▸ hip

theorem specFailover_ne_newRequest (build : String → Bool) (attempt : Nat → Outcome)
    (url : String) : ∀ (dns k : Nat) (ts : List Target),
    (specFailover build attempt dns k ts).1 ≠ .error (.newRequest url)
  | _, _, [] => by simp [specFailover]
  | dns, k, t :: ts => by
    simp only [specFailover]
    split
    · cases attempt k with
      | ok => simp
      | fail n => exact specFailover_ne_newRequest build attempt url _ (k + 1) ts
    · exact specFailover_ne_newRequest build attempt url dns k ts

theorem failover_eq_specFailover_iff (build : String → Bool) (attempt : Nat → Outcome) :
    ∀ (dns k : Nat) (ts : List Target),
    failover build attempt dns k ts = specFailover build attempt dns k ts ↔
      ∀ url, (failover build attempt dns k ts).1 ≠ .error (.newRequest url)
  | _, _, [] => by simp [failover, specFailover]
  | dns, k, t :: ts => by
    simp only [failover, specFailover]
    split
    · cases attempt k with
      | ok => simp
      | fail n =>
        rw [← failover_eq_specFailover_iff build attempt _ (k + 1) ts]
        simp [Prod.ext_iff]
    · exact iff_of_false (fun h => specFailover_ne_newRequest build attempt t.url dns k ts
        (congrArg Prod.fst h).symm) fun h => h t.url rfl

/-- `doRequestAPIHost` follows `specFailover` exactly on the calls in which it does not return
`newRequest`'s error: a request that `http.NewRequest` refuses ends the call at once, where
`specFailover` counts it as a failed attempt and goes on to the next host. -/
theorem doRequestAPIHost_follows_spec_iff (env : Env) (snapshot : Option IP × List IP)
    (urlPath method contentType : String) (data : List UInt8) :
    (doRequestAPIHost env snapshot urlPath method contentType (some data)).outcome =
        specFailover (buildable env method) env.attempt 0 0 (targets urlPath snapshot) ↔
      ∀ url, (doRequestAPIHost env snapshot urlPath method contentType (some data)).reply ≠
        .error (.newRequest url) := by
  have h := Call.outcome_doRequestAPIHost env snapshot urlPath method contentType data
  rw [h, failover_eq_specFailover_iff]
  simp only [← h, Call.outcome]

/-- The alternates `2001:db8::abcd` and `10.0.0.1` as `SetAlternateIPs` parses them, and the
attempt by host name failing. `http.NewRequest` refuses the URL of the IPv6 alternate
(`url.Parse` reads `:abcd` as a port), so the call ends with that error and never tries
`10.0.0.1`, which answers; `specFailover` answers from `10.0.0.1` and saves it. -/
theorem ipv6_alternate_stops_failover :
    let a : API := createAPI.setAlternateIPs ["2001:db8::abcd", "10.0.0.1"]
    let env : Env := ⟨fun _ url => url ≠ "https://2001:db8::abcd/v4/geo-lookup",
      fun k => if k = 0 then .fail 0 else .ok⟩
    (doRequestAPIHost env a.getAlternateIPs "v4/geo-lookup" "GET" "" (some [])).outcome =
        (.error (.newRequest "https://2001:db8::abcd/v4/geo-lookup"), none,
          ["https://api.ivpn.net/v4/geo-lookup"]) ∧
      specFailover (buildable env "GET") env.attempt 0 0
          (targets "v4/geo-lookup" a.getAlternateIPs) =
        (.response 1, some (some (IPv4 10 0 0 1)),
          ["https://api.ivpn.net/v4/geo-lookup", "https://10.0.0.1/v4/geo-lookup"]) ∧
      (doRequestAPIHost env a.getAlternateIPs "v4/geo-lookup" "GET" "" (some [])).outcome ≠
        specFailover (buildable env "GET") env.attempt 0 0
          (targets "v4/geo-lookup" a.getAlternateIPs) := by
  intro a env
  refine ⟨by decide, by decide, fun h => ?_⟩
  exact (doRequestAPIHost_follows_spec_iff env a.getAlternateIPs "v4/geo-lookup" "GET" "" []).mp h
    "https://2001:db8::abcd/v4/geo-lookup" (by decide)

/-! ## The shared body buffer -/

/-- After the attempt by host name fails once its transport has read the whole body, the
request to the first alternate goes out with an empty body and `Content-Length: 0`. -/
theorem doRequestAPIHost_drained_body :
    let env : Env := ⟨fun _ _ => true, fun k => if k = 0 then .fail 2 else .ok⟩
    ((doRequestAPIHost env (none, [IPv4 10 0 0 1]) "v4/session/status" "POST"
      "application/json" (some [0x7b, 0x7d])).sent.map fun r => (r.body, r.contentLength)) =
      [([0x7b, 0x7d], 2), ([], 0)] := by
  decide

end IvpnDaemon.Api

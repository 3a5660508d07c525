import IvpnDaemon.Api.Failover

/-!
# The URLs of API requests

`getURL` joins a host and an endpoint path with `path.Join` and puts `https://` in front; for
an alternate the host is the address's `String`. Every API path and every address literal is
a path of plain elements, so the join only adds one slash, and the URL is `https://`, the
literal, `/` and the path, for every address. URL syntax needs an IPv6 literal in brackets
(`specURL`); `getURL` never adds them, so it gives `specURL` exactly for IPv4 addresses.
-/

namespace IvpnDaemon.Api
open Net

def apiPathPrefix : String := "v4"

def serversPath : String := apiPathPrefix ++ "/servers.json"

def sessionNewPath : String := apiPathPrefix ++ "/session/new"

def sessionStatusPath : String := apiPathPrefix ++ "/session/status"

def sessionDeletePath : String := apiPathPrefix ++ "/session/delete"

def wgKeySetPath : String := apiPathPrefix ++ "/session/wg/set"

def geoLookupPath : String := apiPathPrefix ++ "/geo-lookup"

/-- The paths requested from the API host: those of the client's methods, and the one of the
`geo-lookup` alias (the other aliases go to the update host). -/
def apiPaths : List String :=
  [serversPath, sessionNewPath, sessionStatusPath, sessionDeletePath, wgKeySetPath, geoLookupPath]

/-- The URL with the address as its host: the literal, in brackets for an IPv6 address, then
`/` and the path. -/
def specURL (ip : IP) (p : String) : String :=
  "https://" ++ (if ip.to4.isSome then ip.toString else "[" ++ ip.toString ++ "]") ++ "/" ++ p

theorem apiPaths_plain : ∀ p ∈ apiPaths, ∀ e ∈ p.toList.splitOn '/', Plain e := by decide

theorem plain_toString (ip : IP) : Plain ip.toString.toList := by
  obtain ⟨hs, c, r, h, hc⟩ := IP.toString_literal ip
  rw [h] at hs ⊢
  refine ⟨List.cons_ne_nil _ _, hs, ?_, ?_⟩ <;> rintro ⟨⟩ <;> exact hc rfl

/-- `getURL` of a plain host and an API path puts one slash between them. -/
theorem getURL_plain {host p : String} (hh : Plain host.toList) (hp : p ∈ apiPaths) :
    getURL host p = "https://" ++ host ++ "/" ++ p := by
  rw [getURL, join_plain hh (apiPaths_plain p hp), String.append_assoc, String.append_assoc,
    String.append_assoc]

/-- For every address and API path the URL is `https://`, the address literal, `/` and the
path; it is `specURL` exactly when the address is IPv4, since an IPv6 literal is never
bracketed. -/
theorem getURL_ip_literal (ip : IP) {p : String} (hp : p ∈ apiPaths) :
    getURL ip.toString p = "https://" ++ ip.toString ++ "/" ++ p ∧
      (getURL ip.toString p = specURL ip p ↔ ip.to4.isSome) := by
  have hurl := getURL_plain (plain_toString ip) hp
  refine ⟨hurl, ?_⟩
  rw [hurl, specURL]
  split_ifs with h
  · simp [h]
  · refine iff_of_false (fun heq => ?_) h
    have hlen := congrArg String.length heq
    simp only [String.length_append, show "[".length = 1 from rfl] at hlen
    omega

/-- `2001:db8::1`, which `ParseIP` accepts, gives `https://2001:db8::1/v4/session/status`,
where URL syntax reads `:1` as a port. -/
theorem getURL_ipv6_unbracketed :
    let ip : IP := (parseIP "2001:db8::1").getD []
    parseIP "2001:db8::1" = some ip ∧ ip.to4 = none ∧
      getURL ip.toString sessionStatusPath = "https://2001:db8::1/v4/session/status" ∧
      getURL ip.toString sessionStatusPath ≠ specURL ip sessionStatusPath :=
  ⟨by decide, by decide, by decide,
    fun h => absurd ((getURL_ip_literal _ (by decide)).2.mp h) (by decide)⟩

/-! ## The URLs a request tries -/

theorem failover_urls_initial (build : String → Bool) (attempt : Nat → Outcome) (dns : Nat)
    (k : Nat) (ts : List Target) :
    (failover build attempt dns k ts).2.2 <+: ts.map Target.url := by
  induction ts generalizing k dns with
  | nil => simp [failover]
  | cons t ts ih =>
    simp only [failover, List.map_cons]
    split_ifs
    · split
      · exact (List.prefix_cons_inj _).mpr List.nil_prefix
      · exact (List.prefix_cons_inj _).mpr (ih _ _)
    · exact List.nil_prefix

/-- Every URL `doRequestAPIHost` requests for an API path is `https://`, then `api.ivpn.net`
or the literal of the last good or of an alternate address, then `/` and the path. -/
theorem doRequestAPIHost_urls (env : Env) (snapshot : Option IP × List IP) {urlPath : String}
    (hp : urlPath ∈ apiPaths) (method contentType : String) (data : List UInt8) :
    ∀ u ∈ (doRequestAPIHost env snapshot urlPath method contentType (some data)).outcome.2.2,
      ∃ host ∈ apiHost :: (snapshot.1.toList ++ snapshot.2).map IP.toString,
        u = "https://" ++ host ++ "/" ++ urlPath := by
  intro u hu
  rw [Call.outcome_doRequestAPIHost] at hu
  obtain ⟨t, ht, rfl⟩ := List.mem_map.mp ((failover_urls_initial _ _ _ _ _).subset hu)
  simp only [targets, List.mem_append, List.mem_cons, List.mem_map, Option.mem_toList,
    Option.mem_def, Option.map_eq_some'] at ht
  rcases ht with ⟨ip, hip, rfl⟩ | rfl | ⟨ip, hip, rfl⟩
  · exact ⟨ip.toString, by simp [hip], getURL_plain (plain_toString ip) hp⟩
  · exact ⟨apiHost, List.mem_cons_self _ _, getURL_plain (by decide) hp⟩
  · exact ⟨ip.toString,
      List.mem_cons_of_mem _ (List.mem_map_of_mem _ (List.mem_append_right _ hip)),
      getURL_plain (plain_toString ip) hp⟩

/-- With `2001:db8::1` as the last good alternate, the first URL a session-status request
tries is the unbracketed one. -/
theorem doRequestAPIHost_ipv6_url :
    let ip : IP := (parseIP "2001:db8::1").getD []
    let env : Env := ⟨fun _ _ => true, fun _ => .fail 0⟩
    let tried : List String := (doRequestAPIHost env (some ip, []) sessionStatusPath "POST"
      "application/json" (some [])).outcome.2.2
    tried.head? = some "https://2001:db8::1/v4/session/status" ∧
      ∀ u ∈ tried, ∃ host ∈ apiHost :: ([ip] ++ []).map IP.toString,
        u = "https://" ++ host ++ "/" ++ sessionStatusPath :=
  ⟨by decide, doRequestAPIHost_urls _ (some _, []) (by decide) _ _ _⟩

end IvpnDaemon.Api

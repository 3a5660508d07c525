import IvpnDaemon.Api.Request

/-!
# Method calls one after another

Each method of the client takes one snapshot with `getAlternateIPs`, sends one request through
`doRequest` and, when the API host answered, saves the host that did; `DownloadServersList`
then calls `SetAlternateIPs`. `Sequential` collects the states that calls made one after
another reach from `CreateAPI`, with any arguments and any answers of the world.

Each call is a run of the critical sections of the interleaving model in which no
`SetAlternateIPs` overlaps a request (`doRequest_quietSteps`), so the invariants of such runs
hold of the methods themselves: `sequential_calls_refine`.
-/

namespace IvpnDaemon.Api
open Net

/-- The states that method calls made one after another reach from `CreateAPI`. -/
inductive Sequential : API → Prop
  | createAPI : Sequential createAPI
  | setAlternateIPs {a : API} (IPs : List String) :
      Sequential a → Sequential (a.setAlternateIPs IPs)
  | downloadServersList {a : API} (w : World) (unmarshal : Unmarshal ServersInfoResponse) :
      Sequential a → Sequential (a.downloadServersList w unmarshal).api
  | doRequestByAlias {a : API} (w : World) (apiAlias : String) :
      Sequential a → Sequential (a.doRequestByAlias w apiAlias).api
  | sessionNew {a : API} {S L : Type} (w : World) (codes : StatusCodes)
      (envelope : Unmarshal APIErrorResponse) (successResp : Unmarshal S)
      (errorLimitResp : Unmarshal L) (request : Option (List UInt8)) :
      Sequential a →
        Sequential (a.sessionNew w codes envelope successResp errorLimitResp request).api
  | sessionStatus {a : API} {R : Type} (w : World) (codes : StatusCodes)
      (envelope : Unmarshal APIErrorResponse) (resp : Unmarshal R)
      (request : Option (List UInt8)) :
      Sequential a → Sequential (a.sessionStatus w codes envelope resp request).api
  | sessionDelete {a : API} (w : World) (codes : StatusCodes)
      (resp : Unmarshal APIErrorResponse) (request : Option (List UInt8)) :
      Sequential a → Sequential (a.sessionDelete w codes resp request).api
  | wireGuardKeySet {a : API} (w : World) (codes : StatusCodes)
      (resp : Unmarshal SessionsWireGuardResponse) (request : Option (List UInt8)) :
      Sequential a → Sequential (a.wireGuardKeySet w codes resp request).api
  | geoLookup {a : API} {G : Type} (w : World) (resp : Unmarshal G) :
      Sequential a → Sequential (a.geoLookup w resp).api

/-! ## What each method does to the client's state -/

section
variable (a : API) (w : World) (codes : StatusCodes) (request : Option (List UInt8))

theorem sessionNew_api {S L : Type} (envelope : Unmarshal APIErrorResponse)
    (successResp : Unmarshal S) (errorLimitResp : Unmarshal L) :
    (a.sessionNew w codes envelope successResp errorLimitResp request).api =
      a.afterSent (doRequest w.env a.getAlternateIPs "" sessionNewPath "POST"
        "application/json" request) := by
  unfold API.sessionNew
  dsimp only
  split
  · rfl
  · split
    · rfl
    · split_ifs <;> (try split) <;> rfl

theorem sessionStatus_api {R : Type} (envelope : Unmarshal APIErrorResponse)
    (resp : Unmarshal R) :
    (a.sessionStatus w codes envelope resp request).api =
      a.afterSent (doRequest w.env a.getAlternateIPs "" sessionStatusPath "POST"
        "application/json" request) := by
  unfold API.sessionStatus
  dsimp only
  split
  · rfl
  · split
    · rfl
    · split_ifs <;> (try split) <;> rfl

end

/-! ## Each call is a run without overlap -/

theorem quiet_append_done {rs : List RequestPc} (hq : ∀ r ∈ rs, r = .done) :
    ∀ r ∈ rs ++ [.done], r = .done := by
  intro r hr
  rcases List.mem_append.mp hr with hr | hr
  · exact hq r hr
  · exact List.mem_singleton.mp hr

/-- A request made from a state with no request in flight is a run of the interleaving model
without overlap; it ends with no request in flight, in the state that `afterSent` gives. -/
theorem doRequest_quietSteps {c : Client} (hq : c.Quiet) (env : Env)
    (host urlPath method contentType : String) (data : Option (List UInt8)) :
    ∃ c', Client.QuietSteps c c' ∧ c'.Quiet ∧
      c'.api = c.api.afterSent
        (doRequest env c.api.getAlternateIPs host urlPath method contentType data) := by
  by_cases hh : host.length = 0 ∨ host = apiHost
  · have hd : doRequest env c.api.getAlternateIPs host urlPath method contentType data =
        (doRequestAPIHost env c.api.getAlternateIPs urlPath method contentType data).toSent := by
      simp only [doRequest, if_pos hh]
    have hreq : c.step .request =
        some ⟨c.api, c.requests ++ [.attempting c.api.getAlternateIPs]⟩ := rfl
    have hat : ∀ pc : RequestPc, (c.requests ++ [RequestPc.attempting c.api.getAlternateIPs]).set
        c.requests.length pc = c.requests ++ [pc] := fun pc => by simp
    rw [hd]
    cases hs : (doRequestAPIHost env c.api.getAlternateIPs urlPath method contentType data).saved with
    | none =>
      refine ⟨⟨c.api, c.requests ++ [.done]⟩, .step .request hreq (fun _ h => nomatch h)
        (.step (.attempt c.requests.length env urlPath method contentType data) ?_
          (fun _ h => nomatch h) (.refl _)), quiet_append_done hq, by simp [API.afterSent,
            Call.toSent, hs]⟩
      simp [Client.step, hat, hs]
    | some lastGood =>
      refine ⟨⟨c.api.saveLastGoodAlternateIP lastGood, c.requests ++ [.done]⟩,
        .step .request hreq (fun _ h => nomatch h)
          (@Client.QuietSteps.step _ ⟨c.api, c.requests ++ [.saving lastGood]⟩ _
            (.attempt c.requests.length env urlPath method contentType data) ?_
            (fun _ h => nomatch h) (.step (.save c.requests.length) ?_ (fun _ h => nomatch h)
              (.refl _))), quiet_append_done hq, by simp [API.afterSent, Call.toSent, hs]⟩
      · simp [Client.step, hat, hs]
      · simp [Client.step, hat]
  · have hs : (doRequest env c.api.getAlternateIPs host urlPath method contentType data).saved =
        none := by
      unfold doRequest
      split_ifs
      · exact doRequestUpdateHost_saved env urlPath method contentType data
      · rfl
    exact ⟨c, .refl c, hq, by simp [API.afterSent, hs]⟩

/-- The states of the interleaving model reached from `Client.init` by a run without overlap,
with no request in flight. -/
def QuietState (a : API) : Prop :=
  ∃ c : Client, Client.QuietSteps Client.init c ∧ c.Quiet ∧ c.api = a

theorem QuietState.afterSent {a : API} (h : QuietState a) (env : Env)
    (host urlPath method contentType : String) (data : Option (List UInt8)) :
    QuietState (a.afterSent (doRequest env a.getAlternateIPs host urlPath method contentType data)) := by
  obtain ⟨c, hc, hq, rfl⟩ := h
  obtain ⟨c', hc', hq', he⟩ := doRequest_quietSteps hq env host urlPath method contentType data
  exact ⟨c', hc.trans hc', hq', he⟩

theorem QuietState.setAlternateIPs {a : API} (h : QuietState a) (IPs : List String) :
    QuietState (a.setAlternateIPs IPs) := by
  obtain ⟨c, hc, hq, rfl⟩ := h
  exact ⟨⟨c.api.setAlternateIPs IPs, c.requests⟩,
    hc.trans (.step (.setAlternateIPs IPs) rfl (fun _ _ => hq) (.refl _)), hq, rfl⟩

/-- Every state reached by calls made one after another is reached in the interleaving model
by a run without overlap, with no request in flight. -/
theorem Sequential.quietSteps {a : API} (h : Sequential a) :
    ∃ c : Client, Client.QuietSteps Client.init c ∧ c.Quiet ∧ c.api = a := by
  show QuietState a
  induction h with
  | createAPI => exact ⟨Client.init, .refl _, by simp [Client.init, Client.Quiet], rfl⟩
  | setAlternateIPs IPs _ ih => exact ih.setAlternateIPs IPs
  | downloadServersList w unmarshal _ ih =>
    have hs := ih.afterSent w.env "" serversPath "GET" "" (some [])
    unfold API.downloadServersList
    simp only [requestEx_fst]
    split
    · exact hs
    · exact hs.setAlternateIPs _
  | doRequestByAlias w apiAlias _ ih =>
    unfold API.doRequestByAlias
    split
    · exact ih
    · exact ih.afterSent _ _ _ _ _ _
  | sessionNew w codes envelope successResp errorLimitResp request _ ih =>
    rw [sessionNew_api]
    exact ih.afterSent _ _ _ _ _ _
  | sessionStatus w codes envelope resp request _ ih =>
    rw [sessionStatus_api]
    exact ih.afterSent _ _ _ _ _ _
  | sessionDelete w codes resp request _ ih => exact ih.afterSent _ _ _ _ _ _
  | wireGuardKeySet w codes resp request _ ih => exact ih.afterSent _ _ _ _ _ _
  | geoLookup w resp _ ih => exact ih.afterSent _ _ _ _ _ _

/-- Method calls made one after another from `CreateAPI`, with any arguments and any answers
of the world, reach only states of the interleaving model with no request in flight, by runs
in which no `SetAlternateIPs` overlaps a request. So the last good address is `nil` or `Equal`
to an alternate, and every address the client holds is written as a literal that `ParseIP`
reads back as that address. -/
theorem sequential_calls_refine {a : API} (h : Sequential a) :
    (∃ c : Client, Client.QuietSteps Client.init c ∧ c.Quiet ∧ c.api = a) ∧
      LastGoodListed a ∧
      ∀ y ∈ a.alternateIPs ++ a.lastGoodAlternateIP.toList, parseIP y.toString = some y := by
  obtain ⟨c, hc, hq, rfl⟩ := h.quietSteps
  refine ⟨⟨c, hc, hq, rfl⟩, (hc.current Client.current_init).1, fun y hy => ?_⟩
  have hy : y ∈ c.addresses := by
    simp only [Client.addresses, List.mem_append] at hy ⊢
    exact .inl hy
  exact parseIP_toString_sixteen ((hc.reachable .init).addresses_length y hy)

/-- A download from `CreateAPI` that the API host answers installs `10.0.0.3`, and the state it
leaves is one of the interleaving model. -/
theorem download_state_refined :
    let w : World := ⟨⟨fun _ _ => true, fun _ => .ok⟩, some []⟩
    let unmarshal : Unmarshal ServersInfoResponse := fun _ => .ok ⟨["10.0.0.3"]⟩
    let a : API := (createAPI.downloadServersList w unmarshal).api
    a = ⟨[IPv4 10 0 0 3], none⟩ ∧ Sequential a ∧
      (∃ c : Client, Client.QuietSteps Client.init c ∧ c.Quiet ∧ c.api = a) ∧
      LastGoodListed a ∧
      ∀ y ∈ a.alternateIPs ++ a.lastGoodAlternateIP.toList, parseIP y.toString = some y := by
  intro w unmarshal a
  have h : Sequential a := .downloadServersList w unmarshal .createAPI
  exact ⟨by decide, h, sequential_calls_refine h⟩

end IvpnDaemon.Api

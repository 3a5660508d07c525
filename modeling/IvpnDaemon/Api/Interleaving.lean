import IvpnDaemon.Api.Failover
import IvpnDaemon.Net.RoundTrip

/-!
# Concurrent requests and alternate-list updates

API-host requests run concurrently with `SetAlternateIPs` (called on its own or at the end
of `DownloadServersList`). A request takes its snapshot in one critical section, makes its
attempts outside the mutex, and saves the host that answered in another critical section;
`SetAlternateIPs` is a critical section of its own. The steps below are those sections.

In every interleaving, each address the client holds is one `ParseIP` returned
(`Client.addresses_step`), so its literal reads back as itself (`Client.addresses_read_back`).
Without overlap, the last good address stays listed (`lastGoodListed_of_quiet`), and a quiet
`SetAlternateIPs` restores it after overlaps (`lastGoodListed_after_quiet_reset`).
-/

namespace IvpnDaemon.Api
open Net

/-- Where one API-host request is. -/
inductive RequestPc
  /-- the snapshot is taken; the attempts are being made -/
  | attempting (snapshot : Option IP × List IP)
  /-- the attempts are over and `saveLastGoodAlternateIP(lastGood)` is next -/
  | saving (lastGood : Option IP)
  | done
  deriving DecidableEq, Repr

/-- The client and its requests in flight. -/
structure Client where
  api : API
  requests : List RequestPc
  deriving DecidableEq, Repr

/-- Who moves next. -/
inductive Action
  /-- a whole `SetAlternateIPs` call -/
  | setAlternateIPs (IPs : List String)
  /-- a new request takes its snapshot (`getAlternateIPs`) -/
  | request
  /-- request `i` makes its attempts, the world answering as `env` says -/
  | attempt (i : Nat) (env : Env) (urlPath method contentType : String) (data : Option (List UInt8))
  /-- request `i` calls `saveLastGoodAlternateIP` -/
  | save (i : Nat)

/-- One step; `none` when the request named has no such step. -/
def Client.step (c : Client) : Action → Option Client
  | .setAlternateIPs IPs => some { c with api := c.api.setAlternateIPs IPs }
  | .request => some { c with requests := c.requests ++ [.attempting c.api.getAlternateIPs] }
  | .attempt i env urlPath method contentType data =>
    match c.requests[i]? with
    | some (.attempting snapshot) =>
      let pc := match (doRequestAPIHost env snapshot urlPath method contentType data).saved with
        | some lastGood => .saving lastGood
        | none => .done
      some { c with requests := c.requests.set i pc }
    | _ => none
  | .save i =>
    match c.requests[i]? with
    | some (.saving lastGood) =>
      some ⟨c.api.saveLastGoodAlternateIP lastGood, c.requests.set i .done⟩
    | _ => none

/-- A run of actions from `c`, failing at the first action that cannot move. -/
def Client.run (c : Client) : List Action → Option Client
  | [] => some c
  | a :: as => (c.step a).bind (·.run as)

/-- The client as `CreateAPI` leaves it, with no request in flight. -/
def Client.init : Client := ⟨createAPI, []⟩

/-- The states some run from `Client.init` reaches. -/
inductive Client.Reachable : Client → Prop
  | init : Client.Reachable Client.init
  | step {c c' : Client} (a : Action) : c.Reachable → c.step a = some c' → c'.Reachable

theorem Client.reachable_run {c c' : Client} {as : List Action} (hc : c.Reachable)
    (h : c.run as = some c') : c'.Reachable := by
  induction as generalizing c with
  | nil => cases h; exact hc
  | cons a as ih =>
    cases hs : c.step a with
    | none => simp [Client.run, hs] at h
    | some d => exact ih (.step a hc hs) (by simpa [Client.run, hs] using h)

/-- The alternate-list invariant: the last good address is `nil` or `Equal` to an alternate. -/
def LastGoodListed (a : API) : Prop :=
  ∀ x, a.lastGoodAlternateIP = some x → ∃ y ∈ a.alternateIPs, y.equal x = true

/-- A request that snapshots the alternates `10.0.0.1`, sees `SetAlternateIPs` replace them
by `10.0.0.2`, fails by host name and then reaches `10.0.0.1`, saves `10.0.0.1`. -/
theorem lastGood_saved_after_replacement :
    Client.init.run
      [.setAlternateIPs ["10.0.0.1"], .request, .setAlternateIPs ["10.0.0.2"],
        .attempt 0 ⟨fun _ _ => true, fun k => if k = 0 then .fail 0 else .ok⟩
          "v4/geo-lookup" "GET" "" (some []),
        .save 0] =
      some ⟨⟨[IPv4 10 0 0 2], some (IPv4 10 0 0 1)⟩, [.done]⟩ ∧
    ¬ LastGoodListed ⟨[IPv4 10 0 0 2], some (IPv4 10 0 0 1)⟩ := by
  refine ⟨by decide, fun h => ?_⟩
  obtain ⟨y, hy, he⟩ := h _ rfl
  simp only [List.mem_singleton] at hy
  subst hy
  exact absurd he (by decide)

/-! ## Runs without overlap -/

/-- No request is between its snapshot and its save. -/
def Client.Quiet (c : Client) : Prop := ∀ r ∈ c.requests, r = .done

/-- The runs in which `SetAlternateIPs` never overlaps a request in flight. -/
inductive Client.ReachableQuiet : Client → Prop
  | init : Client.ReachableQuiet Client.init
  | step {c c' : Client} (a : Action) : c.ReachableQuiet → c.step a = some c' →
      (∀ IPs, a = .setAlternateIPs IPs → c.Quiet) → c'.ReachableQuiet

/-- What a request in flight knows is still true of the alternates `ips`. -/
def RequestCurrent (ips : List IP) : RequestPc → Prop
  | .attempting snapshot => snapshot.2 = ips
  | .saving lastGood => ∀ y, lastGood = some y → y ∈ ips
  | .done => True

/-- The invariant of runs without overlap. -/
def Client.Current (c : Client) : Prop :=
  LastGoodListed c.api ∧ ∀ r ∈ c.requests, RequestCurrent c.api.alternateIPs r

private theorem current_set {ips : List IP} {rs : List RequestPc} {i : Nat} {pc : RequestPc}
    (hrs : ∀ r ∈ rs, RequestCurrent ips r) (hpc : RequestCurrent ips pc) :
    ∀ r ∈ rs.set i pc, RequestCurrent ips r := by
  intro r hr
  rcases List.mem_or_eq_of_mem_set hr with hr | rfl
  · exact hrs r hr
  · exact hpc

theorem Client.current_step {c c' : Client} {a : Action} (hc : c.Current)
    (h : c.step a = some c') (hq : ∀ IPs, a = .setAlternateIPs IPs → c.Quiet) : c'.Current := by
  obtain ⟨hl, hrs⟩ := hc
  cases a with
  | setAlternateIPs IPs =>
    cases h
    refine ⟨fun x hx => setAlternateIPs_lastGood hx, fun r hr => ?_⟩
    rw [hq IPs rfl r hr]
    trivial
  | request =>
    cases h
    refine ⟨hl, fun r hr => ?_⟩
    rcases List.mem_append.mp hr with hr | hr
    · exact hrs r hr
    · rw [List.mem_singleton.mp hr]
      rfl
  | attempt i env urlPath method contentType data =>
    simp only [Client.step] at h
    split at h
    · rename_i snapshot hi
      cases h
      have hsnap : snapshot.2 = c.api.alternateIPs := hrs _ (List.getElem?_mem hi)
      refine ⟨hl, current_set hrs ?_⟩
      split
      · rename_i lastGood hs
        intro y hy
        exact hsnap ▸ doRequestAPIHost_saved (hy ▸ hs)
      · trivial
    · cases h
  | save i =>
    simp only [Client.step] at h
    split at h
    · rename_i lastGood hi
      cases h
      have hmem := hrs _ (List.getElem?_mem hi)
      exact ⟨fun x hx => ⟨x, hmem x hx, IP.equal_self x⟩, current_set hrs trivial⟩
    · cases h

theorem Client.current_init : Client.init.Current :=
  ⟨fun x hx => by simp [Client.init, createAPI] at hx, by simp [Client.init]⟩

/-- When no `SetAlternateIPs` overlaps a request in flight, every reachable state keeps the
last good address `nil` or `Equal` to an alternate. -/
theorem lastGoodListed_of_quiet {c : Client} (h : c.ReachableQuiet) : LastGoodListed c.api := by
  suffices c.Current from this.1
  induction h with
  | init => exact ⟨fun x hx => by simp [Client.init, createAPI] at hx, by simp [Client.init]⟩
  | step a _ hs hq ih => exact Client.current_step ih hs hq

/-- A quiet run that sets two alternates and makes a request whose attempt by host name fails
and whose attempt at `10.0.0.1` answers: the request saves `10.0.0.1`, which is listed. -/
theorem lastGoodListed_after_quiet_save :
    let c : Client := ⟨⟨[IPv4 10 0 0 1, IPv4 10 0 0 2], some (IPv4 10 0 0 1)⟩, [.done]⟩
    c.ReachableQuiet ∧ c.api.lastGoodAlternateIP = some (IPv4 10 0 0 1) ∧
      LastGoodListed c.api := by
  intro c
  let a : API := ⟨[IPv4 10 0 0 1, IPv4 10 0 0 2], none⟩
  let env : Env := ⟨fun _ _ => true, fun k => if k = 0 then .fail 0 else .ok⟩
  have h1 : Client.ReachableQuiet ⟨a, []⟩ :=
    .step (.setAlternateIPs ["10.0.0.1", "10.0.0.2"]) .init (by decide)
      fun _ _ r hr => by simp [Client.init] at hr
  have h2 : Client.ReachableQuiet ⟨a, [.attempting (none, a.alternateIPs)]⟩ :=
    .step .request h1 rfl fun _ h => nomatch h
  have h3 : Client.ReachableQuiet ⟨a, [.saving (some (IPv4 10 0 0 1))]⟩ :=
    .step (.attempt 0 env "v4/geo-lookup" "GET" "" (some [])) h2 (by decide) fun _ h => nomatch h
  have h4 : c.ReachableQuiet := .step (.save 0) h3 rfl fun _ h => nomatch h
  exact ⟨h4, rfl, lastGoodListed_of_quiet h4⟩

/-! ## Recovery -/

/-- Runs from `c` to `c'` in which no `SetAlternateIPs` overlaps a request in flight. -/
inductive Client.QuietSteps : Client → Client → Prop
  | refl (c : Client) : Client.QuietSteps c c
  | step {c c' c'' : Client} (a : Action) : c.step a = some c' →
      (∀ IPs, a = .setAlternateIPs IPs → c.Quiet) → Client.QuietSteps c' c'' →
      Client.QuietSteps c c''

theorem Client.QuietSteps.current {c c' : Client} (h : Client.QuietSteps c c') (hc : c.Current) :
    c'.Current := by
  induction h with
  | refl => exact hc
  | step a hs hq _ ih => exact ih (Client.current_step hc hs hq)

theorem Client.QuietSteps.trans {c c' c'' : Client} (h : Client.QuietSteps c c')
    (h' : Client.QuietSteps c' c'') : Client.QuietSteps c c'' := by
  induction h with
  | refl => exact h'
  | step a hs hq _ ih => exact .step a hs hq (ih h')

theorem Client.QuietSteps.reachable {c c' : Client} (h : Client.QuietSteps c c')
    (hc : c.Reachable) : c'.Reachable := by
  induction h with
  | refl => exact hc
  | step a hs _ _ ih => exact ih (.step a hc hs)

/-- In any interleaving, even after overlaps have left the last good address unlisted, a
`SetAlternateIPs` with no request in flight lists it again, and it stays listed as long as no
`SetAlternateIPs` overlaps a request. -/
theorem lastGoodListed_after_quiet_reset {c c₁ c' : Client} {IPs : List String} (hq : c.Quiet)
    (hs : c.step (.setAlternateIPs IPs) = some c₁) (hr : Client.QuietSteps c₁ c') :
    LastGoodListed c'.api := by
  simp only [Client.step, Option.some.injEq] at hs
  subst hs
  refine (hr.current ⟨fun x hx => setAlternateIPs_lastGood hx, fun r hr => ?_⟩).1
  rw [hq r hr]
  trivial

/-- After the overlap that left `10.0.0.1` saved while only `10.0.0.2` was listed, a quiet
`SetAlternateIPs` lists it again, and a request that reaches it by its alternate keeps the
invariant. -/
theorem lastGood_relisted_after_reset :
    let ip : IP := IPv4 10 0 0 1
    let broken : Client := ⟨⟨[IPv4 10 0 0 2], some ip⟩, [.done]⟩
    let reset : Client := ⟨⟨[ip], some ip⟩, [.done]⟩
    let final : Client := ⟨⟨[ip], some ip⟩, [.done, .done]⟩
    broken.Quiet ∧ broken.step (.setAlternateIPs ["10.0.0.1"]) = some reset ∧
      Client.QuietSteps reset final ∧ LastGoodListed final.api := by
  intro ip broken reset final
  have hq : broken.Quiet := fun r hr => by simpa [broken] using hr
  have hs : broken.step (.setAlternateIPs ["10.0.0.1"]) = some reset := by decide
  let env : Env := ⟨fun _ _ => true, fun k => if k = 2 then .ok else .fail 0⟩
  have hr : Client.QuietSteps reset final :=
    @Client.QuietSteps.step _ ⟨reset.api, [.done, .attempting (some ip, [ip])]⟩ _ .request rfl
      (fun _ h => nomatch h)
      (@Client.QuietSteps.step _ ⟨reset.api, [.done, .saving (some ip)]⟩ _
        (.attempt 1 env "v4/geo-lookup" "GET" "" (some [])) (by decide) (fun _ h => nomatch h)
        (.step (.save 1) (by decide) (fun _ h => nomatch h) (.refl _)))
  exact ⟨hq, hs, hr, lastGoodListed_after_quiet_reset hq hs hr⟩

/-! ## Addresses the client holds -/

/-- The addresses a request in flight holds: its snapshot, or the address it is to save. -/
def RequestPc.addresses : RequestPc → List IP
  | .attempting snapshot => snapshot.1.toList ++ snapshot.2
  | .saving lastGood => lastGood.toList
  | .done => []

/-- Every address the client holds: the alternates, the last good one, and those of its
requests in flight. -/
def Client.addresses (c : Client) : List IP :=
  c.api.alternateIPs ++ c.api.lastGoodAlternateIP.toList ++ c.requests.flatMap RequestPc.addresses

@[simp] theorem API.setAlternateIPs_alternateIPs (a : API) (IPs : List String) :
    (a.setAlternateIPs IPs).alternateIPs = IPs.filterMap parseIP := by
  simp [API.setAlternateIPs, setAlternateIPsLoop_eq]

theorem setAlternateIPs_lastGood_old {a : API} {IPs : List String} {x : IP}
    (h : (a.setAlternateIPs IPs).lastGoodAlternateIP = some x) : a.lastGoodAlternateIP = some x := by
  simp only [API.setAlternateIPs] at h
  split_ifs at h
  exact h

private theorem addresses_set {rs : List RequestPc} {i : Nat} {pc : RequestPc} {y : IP}
    (h : y ∈ (rs.set i pc).flatMap RequestPc.addresses) :
    y ∈ rs.flatMap RequestPc.addresses ∨ y ∈ pc.addresses := by
  obtain ⟨r, hr, hy⟩ := List.mem_flatMap.mp h
  rcases List.mem_or_eq_of_mem_set hr with hr | rfl
  · exact .inl (List.mem_flatMap.mpr ⟨r, hr, hy⟩)
  · exact .inr hy

private theorem addresses_of_getElem? {rs : List RequestPc} {i : Nat} {r : RequestPc} {y : IP}
    (hi : rs[i]? = some r) (hy : y ∈ r.addresses) : y ∈ rs.flatMap RequestPc.addresses :=
  List.mem_flatMap.mpr ⟨r, List.getElem?_mem hi, hy⟩

/-- One step gives the client no address but those it held and those `ParseIP` returned. -/
theorem Client.addresses_step {c c' : Client} {a : Action} (h : c.step a = some c') {y : IP}
    (hy : y ∈ c'.addresses) : y ∈ c.addresses ∨ ∃ s, parseIP s = some y := by
  simp only [Client.addresses, List.mem_append, Option.mem_toList] at hy ⊢
  cases a with
  | setAlternateIPs IPs =>
    cases h
    simp only [API.setAlternateIPs_alternateIPs, List.mem_filterMap] at hy
    rcases hy with (⟨s, -, hs⟩ | hy) | hy
    · exact .inr ⟨s, hs⟩
    · exact .inl (.inl (.inr (setAlternateIPs_lastGood_old hy)))
    · exact .inl (.inr hy)
  | request =>
    cases h
    simp only [List.flatMap_append, List.mem_append, List.flatMap_singleton,
      RequestPc.addresses, Option.mem_toList] at hy
    rcases hy with (hy | hy) | hy | hy | hy
    · exact .inl (.inl (.inl hy))
    · exact .inl (.inl (.inr hy))
    · exact .inl (.inr hy)
    · exact .inl (.inl (.inr hy))
    · exact .inl (.inl (.inl hy))
  | attempt i env urlPath method contentType data =>
    simp only [Client.step] at h
    split at h
    · rename_i snapshot hi
      cases h
      refine .inl ?_
      rcases hy with hy | hy
      · exact .inl hy
      rcases addresses_set hy with hy | hy
      · exact .inr hy
      refine .inr (addresses_of_getElem? hi ?_)
      split at hy
      · rename_i lastGood hs
        cases lastGood with
        | none => cases hy
        | some z =>
          simp only [RequestPc.addresses, Option.toList_some, List.mem_singleton] at hy
          subst hy
          exact List.mem_append_right _ (doRequestAPIHost_saved hs)
      · cases hy
    · cases h
  | save i =>
    simp only [Client.step] at h
    split at h
    · rename_i lastGood hi
      cases h
      refine .inl ?_
      rcases hy with (hy | hy) | hy
      · exact .inl (.inl hy)
      · exact .inr (addresses_of_getElem? hi (by simpa [RequestPc.addresses] using hy))
      rcases addresses_set hy with hy | hy
      · exact .inr hy
      · cases hy
    · cases h

/-- Every address a reachable client holds is one `ParseIP` returned, so it has sixteen bytes. -/
theorem Client.Reachable.addresses_length {c : Client} (h : c.Reachable) :
    ∀ y ∈ c.addresses, y.length = 16 := by
  induction h with
  | init => simp [Client.init, Client.addresses, createAPI]
  | step a _ hs ih =>
    intro y hy
    rcases Client.addresses_step hs hy with hy | ⟨s, hs⟩
    · exact ih y hy
    · exact parseIP_length hs

/-- In every interleaving of requests and `SetAlternateIPs` calls, every address the client
holds, listed, saved as the last good one or in a request's snapshot, is written by
`IP.String` as a literal that `ParseIP` reads back as that same address. (A URL built from an
IPv6 literal still lacks the brackets its host needs: `getURL_ipv6_unbracketed`.) -/
theorem Client.addresses_read_back {c : Client} (h : c.Reachable) :
    ∀ y ∈ c.addresses, parseIP y.toString = some y :=
  fun y hy => parseIP_toString_sixteen (h.addresses_length y hy)

/-- After the list `10.0.0.1`, `2001:db8::1` is set and a request takes its snapshot, the
literals of the addresses held read back. -/
theorem snapshot_addresses_read_back :
    let v6 : IP := [0x20, 0x01, 0x0d, 0xb8, 0, 0, 0, 0, 0, 0, 0, 0, 0, 0, 0, 1]
    let c : Client := ⟨⟨[IPv4 10 0 0 1, v6], none⟩, [.attempting (none, [IPv4 10 0 0 1, v6])]⟩
    c.Reachable ∧ ∀ y ∈ c.addresses, parseIP y.toString = some y := by
  intro v6 c
  have h : c.Reachable :=
    .step (c := ⟨⟨[IPv4 10 0 0 1, v6], none⟩, []⟩) .request
      (.step (.setAlternateIPs ["10.0.0.1", "2001:db8::1"]) .init (by decide)) rfl
  exact ⟨h, Client.addresses_read_back h⟩

end IvpnDaemon.Api

import IvpnDaemon.WireGuard.Frame

/-!
# Manual DNS changes

`setManualDNS` and `resetManualDNS` write `manualDNS` and then ask for a restart only if
`isServiceRunning` answers that the service runs. The configuration of the running service
was generated earlier, from the `manualDNS` of that time, so a change is lost whenever the
status query does not answer `Running`: while an install is still waiting for the service to
start, or when the query itself fails.

The ghost `stale` records such a loss, and a failed restart, until the next configuration is
generated. `DNSInv` says that without one, and with no DNS call between its write and its
restart request, the file, the installed service and the DNS collaborator follow `manualDNS`;
it holds in every reachable state, and `settled_dns_current` reads it at the status poll.
-/

namespace IvpnDaemon.WireGuard
open Net

variable {s s' : WG}

/-- The loop polls, no install or uninstall is under way and no restart is requested: the
states in which the configuration should carry the current DNS. -/
def Settled (s : WG) : Prop :=
  s.loop = .poll ∧ s.mutex = false ∧ s.isRestartRequired = false ∧
    ∀ c ∈ s.callers, c.pc ≠ .uninstall .lock ∧ c.pc ≠ .uninstall .body

instance : DecidablePred Settled := fun _ => inferInstanceAs (Decidable (_ ∧ _ ∧ _ ∧ _))

/-- The running service's configuration carries the DNS `getOSSpecificConfigParams` makes of
the current `manualDNS`, which is also what the last install gave the DNS collaborator. -/
def DNSCurrent (s : WG) : Prop :=
  ∀ d, s.service = .installed .running d →
    d = configDNS s.manualDNS s.connectParams ∧ d = configDNS s.hist.lastOverride s.connectParams

/-- `setManualDNS` runs while the first install waits for the service to start: its status
query finds the service not yet running, so it returns without asking for a restart. The
service then starts with the configuration generated before the change, the DNS collaborator
gets the new address, and the loop settles with the change lost. -/
theorem install_window_loses_dns_change :
    let s : WG := WG.after ⟨IPv4 10 0 0 1, IPv4 10 0 0 2⟩ none
      [.loop .ok, .loop .ok, .loop .ok, .loop .gone, .loop .ok, .loop .ok, .loop .ok, .loop .ok,
        .call (.setManualDNS (some (IPv4 10 0 0 53))), .caller 0 .ok, .caller 0 .ok,
        .caller 0 .pending, .serviceStarts, .loop .ok, .loop .ok, .loop .ok, .loop .ok]
    s.Reachable ∧ Settled s ∧ s.service = .installed .running (IPv4 10 0 0 1) ∧
      configDNS s.manualDNS s.connectParams = IPv4 10 0 0 53 ∧
      s.dnsOverride = some (IPv4 10 0 0 53) ∧ ¬ DNSCurrent s := by
  intro s
  have hs : s.service = .installed .running (IPv4 10 0 0 1) := by decide
  refine ⟨WG.after_reachable _ _ _, by decide, hs, by decide, by decide, fun h => ?_⟩
  exact absurd (h _ hs).1 (by decide)

/-- `setManualDNS` on a connected adapter whose status query fails: `manualDNS` is already
overwritten, no restart is requested, and the running configuration keeps the old DNS. -/
theorem failed_query_loses_dns_change :
    let s : WG := WG.after ⟨IPv4 10 0 0 1, IPv4 10 0 0 2⟩ none (WG.connectRun ++
      [.call (.setManualDNS (some (IPv4 10 0 0 53))), .caller 0 .ok, .caller 0 .ok,
        .caller 0 .fail])
    s.Reachable ∧ Settled s ∧ s.service = .installed .running (IPv4 10 0 0 1) ∧
      configDNS s.manualDNS s.connectParams = IPv4 10 0 0 53 ∧ ¬ DNSCurrent s := by
  intro s
  have hs : s.service = .installed .running (IPv4 10 0 0 1) := by decide
  refine ⟨WG.after_reachable _ _ _, by decide, hs, by decide, fun h => ?_⟩
  exact absurd (h _ hs).1 (by decide)

/-- No DNS change is lost or on its way: since the configuration was last generated no DNS
call returned without requesting a restart and no restart failed, no restart is pending, and
no DNS call is between its write of `manualDNS` and its request for a restart. -/
def ChangesApplied (s : WG) : Prop :=
  s.hist.stale = false ∧ s.isRestartRequired = false ∧
    ∀ c ∈ s.callers, c.pc ≠ .query ∧ c.pc ≠ .request

instance : DecidablePred ChangesApplied := fun _ => inferInstanceAs (Decidable (_ ∧ _ ∧ _))

/-- The positions of the supervision loop, of the check before it and of a pause. -/
def LoopPc.supervising : LoopPc → Bool
  | .postCheck | .makeChan | .poll | .select | .restartCheck | .paused | .checkDisconnect => true
  | .uninstall site _ => site == .pause
  | _ => false

/-- The positions of an install from its wait for the service to its return. -/
def LoopPc.installed : LoopPc → Bool
  | .install _ p => p == .wait || p == .dns
  | _ => false

@[simp] theorem uninstallReturn_supervising (site : UninstallSite) (failed : Bool) :
    (uninstallReturn site failed).supervising =
      (site == .pause && !failed || site == .restart && failed) := by
  cases site <;> cases failed <;> rfl

@[simp] theorem installReturn_supervising (site : InstallSite) (ok : Bool) :
    (installReturn site ok).supervising = (ok || site == .restart) := by
  cases site <;> cases ok <;> rfl

@[simp] theorem uninstallReturn_installed (site : UninstallSite) (failed : Bool) :
    (uninstallReturn site failed).installed = false := by
  cases site <;> cases failed <;> rfl

@[simp] theorem installReturn_installed (site : InstallSite) (ok : Bool) :
    (installReturn site ok).installed = false := by
  cases site <;> cases ok <;> rfl

/-- Every installed service was installed from a configuration with DNS address `d`. -/
def Service.onlyDNS : Service → IP → Bool
  | .absent, _ => true
  | .installed _ d', d => d' == d

@[simp] theorem Service.onlyDNS_absent (d : IP) : Service.absent.onlyDNS d = true := rfl

@[simp] theorem Service.onlyDNS_installed (st : ServiceState) (d' d : IP) :
    (Service.installed st d').onlyDNS d = (d' == d) := rfl

@[simp] theorem Service.onlyDNS_ite (c : Prop) [Decidable c] (a b : Service) (d : IP) :
    (if c then a else b).onlyDNS d = if c then a.onlyDNS d else b.onlyDNS d :=
  apply_ite (Service.onlyDNS · d) c a b

/-- What holds when no change is lost or on its way: no failed restart is being cleaned up,
the file the installer reads carries the current DNS, and from its wait on, the service it
installed carries it too; in the supervision loop the DNS collaborator holds it as well. -/
def DNSCurrentAt (s : WG) : Prop :=
  (∀ p, s.loop = .install .restart p → p.cleanup = false) ∧
  (∀ site, s.loop = .install site .exec →
    s.configFile = some (configDNS s.manualDNS s.connectParams)) ∧
  ((s.loop.supervising || s.loop.installed) = true →
    s.service.onlyDNS (configDNS s.manualDNS s.connectParams) = true) ∧
  (s.loop.supervising = true → s.hist.lastOverride = s.manualDNS)

/-- The DNS invariant. -/
def DNSInv (s : WG) : Prop := ChangesApplied s → DNSCurrentAt s

theorem dnsInv_init (p : ConnectParams) (manualDNS : Option IP) : DNSInv (WG.init p manualDNS) :=
  fun _ => by simp [DNSCurrentAt, WG.init, LoopPc.supervising, LoopPc.installed]

theorem dnsInv_loopStep {r : Reply} (hi : DNSInv s) (h : loopStep s r = some s') :
    DNSInv s' := by
  rintro ⟨hst, hrr, hcl⟩
  have hf := loopStep_callersUnchanged h
  have hi' : s.hist.stale = false → s.isRestartRequired = false → DNSCurrentAt s :=
    fun a b => hi ⟨a, b, hf.callers ▸ hcl⟩
  unfold DNSCurrentAt at hi' ⊢
  rw [hf.manualDNS, hf.connectParams]
  clear hi hf hcl
  unfold loopStep at h
  split at h <;> (repeat' split at h) <;> cases h <;> (try split) <;>
    (try cases ‹UninstallSite›) <;>
    (try simp only [WG.afterUninstall, WG.afterInstall, WG.beginInstall, WG.beginUninstall,
      WG.installFails, WG.receive, WG.uninstallDone, uninstallReturn_supervising,
      installReturn_supervising, uninstallReturn_installed, installReturn_installed,
      uninstallReturn_eq_install, installReturn_ne_install] at hst hrr ⊢) <;>
    simp_all [LoopPc.supervising, LoopPc.installed, InstallPc.cleanup]

/-- A caller step moves caller `i` to some `pc`; unless it moves to the query or the restart
request, or marks a change as lost or pending, it came from neither and left `manualDNS`, the
lost-change mark and the restart flag alone. -/
theorem callerStep_dns {i : Nat} {c : Caller} {r : Reply} (h : callerStep s i c r = some s') :
    ∃ pc, s'.callers = s.callers.set i ⟨c.call, pc⟩ ∧
      (pc = .query ∨ pc = .request ∨ s'.hist.stale = true ∨ s'.isRestartRequired = true ∨
        (c.pc ≠ .query ∧ c.pc ≠ .request ∧ s'.manualDNS = s.manualDNS ∧
          s'.hist.stale = s.hist.stale ∧ s'.isRestartRequired = s.isRestartRequired)) := by
  unfold callerStep at h
  split at h <;> (repeat' split at h) <;> cases h <;> refine ⟨_, rfl, ?_⟩ <;>
    simp_all [WG.setCaller, WG.uninstallDone]

/-- A caller that steps into a state where no change is on its way came from one, and did not
write `manualDNS`. -/
theorem callerStep_changesApplied {i : Nat} {c : Caller} {r : Reply}
    (hc : s.callers[i]? = some c) (h : callerStep s i c r = some s') (ha : ChangesApplied s') :
    ChangesApplied s ∧ s'.manualDNS = s.manualDNS := by
  obtain ⟨hst, hrr, hcl⟩ := ha
  obtain ⟨pc, hcs, hcase⟩ := callerStep_dns h
  have hnew : pc ≠ .query ∧ pc ≠ .request :=
    hcl _ (hcs ▸ List.mem_set _ _ (List.getElem?_eq_some_iff.mp hc).1 _)
  obtain ⟨hq, hr, hm, hs, hrr'⟩ : c.pc ≠ .query ∧ c.pc ≠ .request ∧ s'.manualDNS = s.manualDNS ∧
      s'.hist.stale = s.hist.stale ∧ s'.isRestartRequired = s.isRestartRequired := by
    simp_all
  refine ⟨⟨hs ▸ hst, hrr' ▸ hrr, fun x hx => ?_⟩, hm⟩
  rcases mem_set_or_eq ⟨c.call, pc⟩ hc hx with hx | rfl
  · exact hcl x (hcs ▸ hx)
  · exact ⟨hq, hr⟩

theorem dnsInv_callerStep {i : Nat} {c : Caller} {r : Reply} (hc : s.callers[i]? = some c)
    (hi : DNSInv s) (h : callerStep s i c r = some s') : DNSInv s' := by
  intro ha
  have hl := callerStep_loopUnchanged h
  obtain ⟨ha, hm⟩ := callerStep_changesApplied hc h ha
  obtain ⟨h1, h2, h3, h4⟩ := hi ha
  unfold DNSCurrentAt
  rw [hl.loop, hl.configFile, hl.lastOverride, hl.connectParams, hm]
  refine ⟨h1, h2, fun hp => ?_, h4⟩
  rcases callerStep_service h with hs | hs <;> rw [hs]
  · exact h3 hp
  · rfl

theorem dnsInv_step {a : Act} (hi : DNSInv s) (h : s.step a = some s') : DNSInv s' := by
  rcases WG.step_eq_some h with ⟨r, -, h⟩ | ⟨i, r, c, -, hc, h⟩ | ⟨c, -, rfl⟩ |
      ⟨d, -, hs, rfl⟩ | ⟨st, d, -, hs, rfl⟩
  · exact dnsInv_loopStep hi h
  · exact dnsInv_callerStep hc hi h
  · rintro ⟨h1, h2, h3⟩
    exact hi ⟨h1, h2, fun x hx => h3 x (List.mem_append_left _ hx)⟩
  all_goals
    intro ha
    obtain ⟨h1, h2, h3, h4⟩ := hi ha
    exact ⟨h1, h2, by simpa [hs] using h3, h4⟩

/-- Unless a DNS change was lost by design or is still on its way, a settled adapter runs the
configuration generated from the current `manualDNS`, which is also the DNS the last install
gave the DNS collaborator. -/
theorem settled_dns_current (h : s.Reachable) (hs : Settled s) (hc : ChangesApplied s) :
    DNSCurrent s := by
  obtain ⟨p, m, h⟩ := h
  obtain ⟨-, -, h3, h4⟩ := h.invariant DNSInv (dnsInv_init p m) (fun hi _ ht => dnsInv_step hi ht) hc
  have hsup : s.loop.supervising = true := by rw [hs.1]; rfl
  intro d hd
  have hdns : d = configDNS s.manualDNS s.connectParams := by
    simpa [hd] using h3 (by simp [hsup])
  exact ⟨hdns, h4 hsup ▸ hdns⟩

/-- `setManualDNS` on a connected adapter whose service runs: the restart it requests
reinstalls the service from the new DNS, and the settled adapter carries it. -/
theorem restart_applies_dns_change :
    let s : WG := WG.after ⟨IPv4 10 0 0 1, IPv4 10 0 0 2⟩ none (WG.connectRun ++
      [.call (.setManualDNS (some (IPv4 10 0 0 53))), .caller 0 .ok, .caller 0 .ok,
        .caller 0 .ok, .caller 0 .ok, .loop .ok, .loop .ok, .loop .ok, .loop .ok, .loop .ok,
        .loop .ok, .loop .ok, .loop .ok, .serviceStarts, .loop .ok, .loop .ok])
    s.service = .installed .running (IPv4 10 0 0 53) ∧ Settled s ∧ ChangesApplied s ∧
      DNSCurrent s :=
  ⟨by decide, by decide, by decide,
    settled_dns_current (WG.after_reachable _ _ _) (by decide) (by decide)⟩

end IvpnDaemon.WireGuard

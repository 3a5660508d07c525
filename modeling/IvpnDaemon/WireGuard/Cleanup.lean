import IvpnDaemon.WireGuard.Frame

/-!
# What `connect` leaves behind

The deferred functions of `connect` clear the channel field and remove the DNS override;
those of `installService` remove the configuration file; a pause is undone by its deferred
reset of `isPaused`. The service is uninstalled only on the paths that call
`uninstallService`: the supervision loop that ends on a stopped service (status `Stopped`, or
`ERROR_SERVICE_NOT_ACTIVE`) leaves it installed.
-/

namespace IvpnDaemon.WireGuard
open Net

variable {s s' : WG}

def statusAnswer : Service → Reply
  | .absent => .gone
  | .installed .running _ => .ok
  | .installed .stopped _ => .stopped
  | .installed .pending _ => .pending

/-- The answer of a service manager that carries out an uninstall: the service is removed, or
there was none. -/
def uninstallAnswer : Service → Reply
  | .absent => .gone
  | .installed _ _ => .ok

/-- A status query answered truthfully, or failing. Windows answers the `Interrogate` control
of `getServiceStatus` on a service that is not running with `ERROR_SERVICE_NOT_ACTIVE`, so a
stopped service may also answer `gone`. -/
def statusTruthful (svc : Service) (r : Reply) : Bool :=
  r == statusAnswer svc || r == .fail || (r == .gone && statusAnswer svc == .stopped)

/-- The service manager answers every status query truthfully (or fails) and carries out every
uninstall it is asked for; the installer, the configuration file and the DNS collaborator may
fail. -/
def Truthful (s : WG) : Act → Bool
  | .loop r =>
    match s.loop with
    | .uninstall _ .body | .install _ (.cleanupUninstall .body) => r == uninstallAnswer s.service
    | .poll | .install _ .wait => statusTruthful s.service r
    | _ => true
  | .caller i r =>
    match s.callers[i]? with
    | some ⟨.disconnect, .uninstall .body⟩ => r == uninstallAnswer s.service
    | some ⟨_, .query⟩ => statusTruthful s.service r
    | _ => true
  | _ => true

/-- The positions at which the configuration file exists: from its generation to the return
of `installService`. -/
def LoopPc.holdsConfig : LoopPc → Bool
  | .install _ .exec | .install _ .wait | .install _ .dns => true
  | _ => false

/-- The positions at which the channel field may hold the channel: from its creation until
the deferred functions of `connect` have run. -/
def LoopPc.chanMade : LoopPc → Bool
  | .poll | .select | .paused | .checkDisconnect | .restartCheck | .exit _ => true
  | .uninstall site _ => site != .reconnect && site != .disconnect
  | .install site _ => site != .connect
  | _ => false

/-- The positions before `connect` has done anything: its first step, and its refusal. -/
def LoopPc.fresh : LoopPc → Bool
  | .start | .refused => true
  | _ => false

/-- The position after the deferred functions of `connect` have run. -/
def LoopPc.finished : LoopPc → Bool
  | .done _ => true
  | _ => false

/-- The positions at which no service of this adapter should be installed. -/
def LoopPc.noService : LoopPc → Bool
  | .start | .mgrConnect | .paused | .checkDisconnect | .exit _ | .done _ | .refused => true
  | _ => false

@[simp] theorem uninstallReturn_holdsConfig (site : UninstallSite) (failed : Bool) :
    (uninstallReturn site failed).holdsConfig = false := by
  cases site <;> cases failed <;> rfl

@[simp] theorem installReturn_holdsConfig (site : InstallSite) (ok : Bool) :
    (installReturn site ok).holdsConfig = false := by
  cases site <;> cases ok <;> rfl

@[simp] theorem uninstallReturn_chanMade (site : UninstallSite) (failed : Bool) :
    (uninstallReturn site failed).chanMade = !(site == .reconnect && !failed) := by
  cases site <;> cases failed <;> rfl

@[simp] theorem installReturn_chanMade (site : InstallSite) (ok : Bool) :
    (installReturn site ok).chanMade = !(site == .connect && ok) := by
  cases site <;> cases ok <;> rfl

@[simp] theorem uninstallReturn_noService (site : UninstallSite) (failed : Bool) :
    (uninstallReturn site failed).noService = (site != .restart) := by
  cases site <;> cases failed <;> rfl

@[simp] theorem installReturn_noService (site : InstallSite) (ok : Bool) :
    (installReturn site ok).noService = (site != .restart && !ok) := by
  cases site <;> cases ok <;> rfl

@[simp] theorem uninstallReturn_fresh (site : UninstallSite) (failed : Bool) :
    (uninstallReturn site failed).fresh = false := by
  cases site <;> cases failed <;> rfl

@[simp] theorem installReturn_fresh (site : InstallSite) (ok : Bool) :
    (installReturn site ok).fresh = false := by
  cases site <;> cases ok <;> rfl

@[simp] theorem uninstallReturn_finished (site : UninstallSite) (failed : Bool) :
    (uninstallReturn site failed).finished = false := by
  cases site <;> cases failed <;> rfl

@[simp] theorem installReturn_finished (site : InstallSite) (ok : Bool) :
    (installReturn site ok).finished = false := by
  cases site <;> cases ok <;> rfl

@[simp] theorem uninstallFailed_uninstallAnswer (svc : Service) :
    uninstallFailed (uninstallAnswer svc) = false := by
  cases svc <;> rfl

/-- An uninstall the service manager carries out leaves no service. -/
@[simp] theorem uninstallAnswer_removes (svc : Service) :
    (if uninstallAnswer svc = .ok then .absent else svc) = .absent := by
  cases svc <;> rfl

/-- The invariant of truthful runs: `isPaused` is only set with its deferred reset, the
configuration file exists only inside `installService`, the channel field holds the channel
only between its creation and the return, no service is installed where the loop has none
(but the one a `Stopped` exit leaves), and a returned `connect` removed the DNS override unless
`dns.DeleteManual` failed. -/
def IdleInv (s : WG) : Prop :=
  (s.isPaused = true → s.pauseDeferred = true) ∧
  (s.configFile.isSome = true → s.loop.holdsConfig = true) ∧
  (s.pauseRequireChan = true → s.loop.chanMade = true) ∧
  (s.loop.noService = true → s.service = .absent ∨ s.hist.stoppedExit = true) ∧
  (s.loop.fresh = true → s.dnsOverride = none ∧ s.isPaused = false) ∧
  (s.loop.finished = true →
    (s.dnsOverride = none ∨ s.hist.deleteFailed = true) ∧ s.isPaused = false)

theorem idleInv_init (p : ConnectParams) (manualDNS : Option IP) :
    IdleInv (WG.init p manualDNS) := by
  simp [IdleInv, WG.init, LoopPc.noService, LoopPc.fresh]

theorem idleInv_loopStep {r : Reply} (hi : IdleInv s) (ha : Truthful s (.loop r) = true)
    (h : loopStep s r = some s') : IdleInv s' := by
  unfold IdleInv at hi ⊢
  simp only [Truthful] at ha
  unfold loopStep at h
  split at h <;> (repeat' split at h) <;> cases h <;> (try split) <;>
    (try simp only [WG.afterUninstall, WG.afterInstall, uninstallReturn_holdsConfig,
      installReturn_holdsConfig, uninstallReturn_chanMade, installReturn_chanMade,
      uninstallReturn_noService, installReturn_noService, uninstallReturn_fresh,
      installReturn_fresh, uninstallReturn_finished, installReturn_finished]) <;>
    simp_all [WG.beginInstall, WG.beginUninstall, WG.installFails, WG.receive, WG.uninstallDone,
      LoopPc.holdsConfig, LoopPc.chanMade, LoopPc.noService, LoopPc.fresh, LoopPc.finished, em]

theorem idleInv_callerStep {i : Nat} {c : Caller} {r : Reply} (hi : IdleInv s)
    (h : callerStep s i c r = some s') : IdleInv s' := by
  have hf := callerStep_loopUnchanged h
  obtain ⟨h1, h2, h3, h4, h5, h6⟩ := hi
  simp only [IdleInv, hf.isPaused, hf.pauseDeferred, hf.configFile, hf.loop, hf.pauseRequireChan,
    hf.dnsOverride, hf.deleteFailed, hf.stoppedExit]
  refine ⟨h1, h2, h3, fun hn => ?_, h5, h6⟩
  rcases callerStep_service h with hsv | hsv
  · exact hsv ▸ h4 hn
  · exact .inl hsv

theorem idleInv_step {a : Act} (hi : IdleInv s) (ha : Truthful s a = true)
    (h : s.step a = some s') : IdleInv s' := by
  rcases WG.step_eq_some h with ⟨r, rfl, h⟩ | ⟨i, r, c, rfl, -, h⟩ | ⟨c, -, rfl⟩ |
      ⟨d, -, hs, rfl⟩ | ⟨st, d, -, hs, rfl⟩
  · exact idleInv_loopStep hi ha h
  · exact idleInv_callerStep hi h
  · exact hi
  all_goals
    obtain ⟨h1, h2, h3, h4, h5, h6⟩ := hi
    exact ⟨h1, h2, h3, fun hn => .inr ((h4 hn).resolve_left (by simp [hs])), h5, h6⟩

/-- Under a service manager that answers truthfully (a stopped service may answer
`ERROR_SERVICE_NOT_ACTIVE`) and carries out every uninstall, a `connect` that has returned
leaves the channel field `nil`, `isPaused` false and no configuration file. It leaves no DNS
override unless `dns.DeleteManual` failed, and no service unless its supervision loop left its
`for` on a status answer with the service still installed. -/
theorem connect_returns_idle {p : ConnectParams} {manualDNS : Option IP}
    (h : WG.Reaches (fun t a => Truthful t a = true) (WG.init p manualDNS) s)
    (hl : (∃ f, s.loop = .done f) ∨ s.loop = .refused) :
    s.pauseRequireChan = false ∧ s.isPaused = false ∧ s.configFile = none ∧
      (s.dnsOverride = none ∨ s.hist.deleteFailed = true) ∧
      (s.service = .absent ∨ s.hist.stoppedExit = true) := by
  obtain ⟨_, h2, h3, h4, h5, h6⟩ := h.invariant IdleInv (idleInv_init p manualDNS) idleInv_step
  rcases hl with ⟨f, hl⟩ | hl <;>
    simp_all [LoopPc.holdsConfig, LoopPc.chanMade, LoopPc.noService, LoopPc.fresh,
      LoopPc.finished]

/-- A service that stops on its own while the loop polls. The status query answers
`ERROR_SERVICE_NOT_ACTIVE`, as Windows does for a stopped service, so the loop leaves its `for`
and `connect` returns with no error and the service still installed: the next `init` finds it
and warns that this is not expected. Every answer is truthful. -/
theorem stopped_service_left_installed :
    let p : ConnectParams := ⟨IPv4 10 0 0 1, IPv4 10 0 0 2⟩
    let as : List Act := WG.connectRun ++ [.serviceStops, .loop .gone, .loop .ok]
    let s : WG := ((WG.init p none).runAllowed Truthful as).getD (WG.init p none)
    WG.Reaches (fun t a => Truthful t a = true) (WG.init p none) s ∧ s.loop = .done false ∧
      s.service = .installed .stopped (IPv4 10 0 0 1) ∧
      (s.pauseRequireChan = false ∧ s.isPaused = false ∧ s.configFile = none ∧
        (s.dnsOverride = none ∨ s.hist.deleteFailed = true) ∧
        (s.service = .absent ∨ s.hist.stoppedExit = true)) := by
  intro p as s
  have h : WG.Reaches (fun t a => Truthful t a = true) (WG.init p none) s :=
    WG.reaches_runAllowed as .refl rfl
  have hl : s.loop = .done false := by decide
  exact ⟨h, hl, by decide, connect_returns_idle h (.inl ⟨false, hl⟩)⟩

end IvpnDaemon.WireGuard

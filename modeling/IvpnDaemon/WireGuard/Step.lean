import IvpnDaemon.WireGuard.State

/-!
# The Windows WireGuard adapter: steps

Each step is one goroutine doing one access to what the goroutines share (a field of
`internalVariables`, the channel, the mutex, the service manager), together with the
goroutine-local work around it. The service manager's answers come with the step that asks;
the service may also start or stop on its own. A step that would block returns `none`.
-/

namespace IvpnDaemon.WireGuard
open Net

def uninstallFailed : Reply → Bool
  | .ok | .gone => false
  | _ => true

/-- The critical section of `uninstallService`, answered by `r`: an `ok` removes the service;
the mutex is released. -/
def WG.uninstallDone (s : WG) (r : Reply) : WG :=
  { s with service := if r = .ok then .absent else s.service, mutex := false }

def WG.beginInstall (s : WG) (site : InstallSite) : WG :=
  { s with
    loop := .install site .lock
    hist := { s.hist with
      loopOps := if site = .connect then s.hist.loopOps else s.hist.loopOps ++ [.install]
      lateInstall := s.hist.lateInstall || (site = .connect && s.hist.disconnectReturned) } }

def WG.beginUninstall (s : WG) (site : UninstallSite) : WG :=
  { s with
    loop := .uninstall site .lock
    hist := { s.hist with
      loopOps := if site = .pause ∨ site = .restart then s.hist.loopOps ++ [.uninstall]
        else s.hist.loopOps } }

def uninstallReturn : UninstallSite → Bool → LoopPc
  | .reconnect, false => .mgrConnect
  | .reconnect, true => .exit true
  | .disconnect, failed => .exit failed
  | .pause, false => .paused
  | .pause, true => .exit true
  | .restart, false => .install .restart .lock
  | .restart, true => .poll

def WG.afterUninstall (s : WG) (site : UninstallSite) (failed : Bool) : WG :=
  { s with
    loop := uninstallReturn site failed
    hist := { s.hist with
      loopOps := if site = .restart ∧ failed = false then s.hist.loopOps ++ [.install]
        else s.hist.loopOps
      stale := s.hist.stale || (site = .restart && failed) } }

/-- A failing step of `installService` called from `site`: its deferred functions remove the
configuration file, release the mutex, and start the cleanup. -/
def WG.installFails (s : WG) (site : InstallSite) : WG :=
  { s with
    configFile := none
    mutex := false
    loop := .install site .cleanupRead
    hist := { s.hist with stale := s.hist.stale || site = .restart } }

def installReturn : InstallSite → Bool → LoopPc
  | .connect, true => .postCheck
  | .connect, false => .exit true
  | .resume, true => .restartCheck
  | .resume, false => .exit true
  | .restart, _ => .poll

@[simp] theorem uninstallReturn_eq_install (site : UninstallSite) (failed : Bool)
    (site' : InstallSite) (p : InstallPc) : uninstallReturn site failed = .install site' p ↔
      site = .restart ∧ failed = false ∧ site' = .restart ∧ p = .lock := by
  cases site <;> cases failed <;> simp [uninstallReturn, eq_comm]

@[simp] theorem installReturn_ne_install (site : InstallSite) (ok : Bool) (site' : InstallSite)
    (p : InstallPc) : installReturn site ok ≠ .install site' p := by
  cases site <;> cases ok <;> simp [installReturn]

def WG.afterInstall (s : WG) (site : InstallSite) (ok : Bool) : WG :=
  { s with
    loop := installReturn site ok
    isPaused := if site = .resume ∧ ok = true then false else s.isPaused }

def WG.receive (s : WG) (o : Operation) : WG :=
  { s with buffer := none, hist := { s.hist with received := s.hist.received ++ [o] } }

/-- One step of the goroutine running `connect`, with `r` the answer to its call if it
makes one. -/
def loopStep (s : WG) (r : Reply) : Option WG :=
  match s.loop with
  | .start =>
    let s := { s with hist := { s.hist with startedLate := s.hist.disconnectReturned } }
    some (if s.isDisconnectRequested then { s with loop := .refused } else { s with loop := .preRead })
  | .preRead =>
    some (if s.pauseRequireChan then { s with loop := .preSend } else s.beginUninstall .reconnect)
  | .preSend =>
    match s.buffer with
    | none => some ({ s with buffer := some .resume }.beginUninstall .reconnect)
    | some _ => none
  | .uninstall site .lock =>
    if s.mutex then none else some { s with mutex := true, loop := .uninstall site .body }
  | .uninstall site .body => some ((s.uninstallDone r).afterUninstall site (uninstallFailed r))
  | .mgrConnect => some (if r = .ok then s.beginInstall .connect else { s with loop := .exit true })
  | .install site .lock =>
    if s.mutex then none else some { s with mutex := true, loop := .install site .generate }
  | .install site .generate =>
    some (if r = .ok then
        { s with
          configFile := some (configDNS s.manualDNS s.connectParams)
          loop := .install site .exec
          hist := { s.hist with stale := false } }
      else s.installFails site)
  | .install site .exec =>
    match r, s.configFile with
    | .ok, some d => some { s with service := .installed .pending d, loop := .install site .wait }
    | _, _ => some (s.installFails site)
  | .install site .wait =>
    some (if r = .ok then { s with loop := .install site .dns } else s.installFails site)
  | .install site .dns =>
    let s' : WG := { s with
      dnsOverride := if r = .ok then s.manualDNS else s.dnsOverride
      configFile := none
      mutex := false
      hist := { s.hist with lastOverride := s.manualDNS } }
    some (s'.afterInstall site true)
  | .install site .cleanupRead =>
    some (if s.pauseRequireChan then { s with loop := .install site .cleanupSend }
      else { s with loop := .install site (.cleanupUninstall .lock) })
  | .install site .cleanupSend =>
    match s.buffer with
    | none => some { s with buffer := some .resume, loop := .install site (.cleanupUninstall .lock) }
    | some _ => none
  | .install site (.cleanupUninstall .lock) =>
    if s.mutex then none
    else some { s with mutex := true, loop := .install site (.cleanupUninstall .body) }
  | .install site (.cleanupUninstall .body) => some ((s.uninstallDone r).afterInstall site false)
  | .postCheck =>
    some (if s.isDisconnectRequested then s.beginUninstall .disconnect
      else { s with loop := .makeChan })
  | .makeChan => some { s with pauseRequireChan := true, buffer := none, loop := .poll }
  | .poll =>
    some (match r with
      | .stopped | .gone =>
        { s with loop := .exit false, hist := { s.hist with stoppedExit := s.service != .absent } }
      | _ => { s with loop := .select })
  | .select =>
    some (match s.buffer with
      | none => { s with loop := .restartCheck }
      | some .pause =>
        { s.receive .pause with isPaused := true, pauseDeferred := true }.beginUninstall .pause
      | some .resume => { s.receive .resume with loop := .restartCheck })
  | .paused =>
    match s.buffer with
    | none => none
    | some .pause => some (s.receive .pause)
    | some .resume => some { s.receive .resume with loop := .checkDisconnect }
  | .checkDisconnect =>
    some (if s.isDisconnectRequested then { s with loop := .restartCheck }
      else s.beginInstall .resume)
  | .restartCheck =>
    some (if s.isRestartRequired then { s with isRestartRequired := false }.beginUninstall .restart
      else { s with loop := .poll })
  | .exit failed =>
    some { s with
      isPaused := if s.pauseDeferred then false else s.isPaused
      pauseRequireChan := false
      dnsOverride := if r = .ok then none else s.dnsOverride
      loop := .done failed
      hist := { s.hist with deleteFailed := r ≠ .ok } }
  | .done _ => none
  | .refused => none

def Call.operation : Call → Operation
  | .pause => .pause
  | _ => .resume

def Call.afterRequire : Call → CallerPc
  | .disconnect => .uninstall .lock
  | _ => .done

def WG.setCaller (s : WG) (i : Nat) (c : Caller) (pc : CallerPc) : WG :=
  { s with callers := s.callers.set i ⟨c.call, pc⟩ }

/-- One step of the control call `c`, caller `i`, with `r` the answer to its call if it
makes one. -/
def callerStep (s : WG) (i : Nat) (c : Caller) (r : Reply) : Option WG :=
  match c.call, c.pc with
  | .disconnect, .start => some ({ s with isDisconnectRequested := true }.setCaller i c .readChan)
  | .pause, .start | .resume, .start | .disconnect, .readChan =>
    some (s.setCaller i c (if s.pauseRequireChan then .send else c.call.afterRequire))
  | _, .send =>
    match s.buffer with
    | none => some ({ s with buffer := some c.call.operation }.setCaller i c c.call.afterRequire)
    | some _ => none
  | .disconnect, .uninstall .lock =>
    if s.mutex then none else some ({ s with mutex := true }.setCaller i c (.uninstall .body))
  | .disconnect, .uninstall .body =>
    some ({ s.uninstallDone r with
      hist := { s.hist with disconnectReturned := true } }.setCaller i c .done)
  | .setManualDNS addr, .start =>
    some (s.setCaller i c (if (addr.getD []).equal (s.manualDNS.getD []) then .done else .write))
  | .resetManualDNS, .start => some (s.setCaller i c (if s.manualDNS = none then .done else .write))
  | .setManualDNS addr, .write => some ({ s with manualDNS := addr }.setCaller i c .query)
  | .resetManualDNS, .write => some ({ s with manualDNS := none }.setCaller i c .query)
  | _, .query =>
    some (if r = .ok then s.setCaller i c .request
      else { s with hist := { s.hist with stale := true } }.setCaller i c .done)
  | _, .request => some ({ s with isRestartRequired := true }.setCaller i c .done)
  | _, _ => none

/-- Who moves. -/
inductive Act
  /-- the loop, answered `r` -/
  | loop (r : Reply)
  /-- caller `i`, answered `r` -/
  | caller (i : Nat) (r : Reply)
  /-- a new control call begins -/
  | call (c : Call)
  /-- the service manager brings a starting service to `Running` -/
  | serviceStarts
  /-- the service stops on its own -/
  | serviceStops
  deriving DecidableEq, Repr

/-- One step of the whole system; `none` when the goroutine named is blocked or finished. -/
def WG.step (s : WG) : Act → Option WG
  | .loop r => loopStep s r
  | .caller i r =>
    match s.callers[i]? with
    | some c => callerStep s i c r
    | none => none
  | .call c => some { s with callers := s.callers ++ [⟨c, .start⟩] }
  | .serviceStarts =>
    match s.service with
    | .installed .pending d => some { s with service := .installed .running d }
    | _ => none
  | .serviceStops =>
    match s.service with
    | .installed _ d => some { s with service := .installed .stopped d }
    | _ => none

def WG.run (s : WG) : List Act → Option WG
  | [] => some s
  | a :: as => (s.step a).bind (·.run as)

/-- A run in which `allowed` lets every action through in the state it is taken from. -/
def WG.runAllowed (allowed : WG → Act → Bool) (s : WG) : List Act → Option WG
  | [] => some s
  | a :: as => if allowed s a then (s.step a).bind (·.runAllowed allowed as) else none

/-- The loop's steps of a `connect` that every answer lets through: the uninstall before it
finds no service, the service starts, and the loop reaches its first status poll. -/
def WG.connectRun : List Act :=
  [.loop .ok, .loop .ok, .loop .ok, .loop .gone, .loop .ok, .loop .ok, .loop .ok, .loop .ok,
    .serviceStarts, .loop .ok, .loop .ok, .loop .ok, .loop .ok]

/-- The states the runs from `s₀` reach when every action taken satisfies `allowed`. -/
inductive WG.Reaches (allowed : WG → Act → Prop) (s₀ : WG) : WG → Prop
  | refl : WG.Reaches allowed s₀ s₀
  | step {s s' : WG} (a : Act) : WG.Reaches allowed s₀ s → allowed s a → s.step a = some s' →
      WG.Reaches allowed s₀ s'

def WG.Reachable (s : WG) : Prop :=
  ∃ p manualDNS, WG.Reaches (fun _ _ => True) (WG.init p manualDNS) s

theorem WG.Reaches.invariant {allowed : WG → Act → Prop} {s₀ s : WG} (Inv : WG → Prop)
    (h : WG.Reaches allowed s₀ s) (h₀ : Inv s₀)
    (hstep : ∀ {t t' : WG} {a : Act}, Inv t → allowed t a → t.step a = some t' → Inv t') :
    Inv s := by
  induction h with
  | refl => exact h₀
  | step a _ ha hs ih => exact hstep ih ha hs

theorem WG.reaches_run {allowed : WG → Act → Prop} {s₀ s s' : WG} (as : List Act)
    (hs : WG.Reaches allowed s₀ s) (ha : ∀ a ∈ as, ∀ t, allowed t a) (h : s.run as = some s') :
    WG.Reaches allowed s₀ s' := by
  induction as generalizing s with
  | nil => cases h; exact hs
  | cons a as ih =>
    cases hst : s.step a with
    | none => simp [WG.run, hst] at h
    | some t =>
      exact ih (.step a hs (ha a (List.mem_cons_self a as) s) hst)
        (fun b hb => ha b (List.mem_cons_of_mem a hb)) (by simpa [WG.run, hst] using h)

theorem WG.reaches_runAllowed {allowed : WG → Act → Bool} {s₀ s s' : WG} (as : List Act)
    (hs : WG.Reaches (fun t a => allowed t a = true) s₀ s) (h : s.runAllowed allowed as = some s') :
    WG.Reaches (fun t a => allowed t a = true) s₀ s' := by
  induction as generalizing s with
  | nil => cases h; exact hs
  | cons a as ih =>
    simp only [WG.runAllowed] at h
    split at h
    · cases hst : s.step a with
      | none => simp [hst] at h
      | some t => exact ih (.step a hs ‹_› hst) (by simpa [hst] using h)
    · cases h

/-- The state a run from a fresh adapter ends in, or the fresh adapter if some action of the
run cannot move. -/
def WG.after (p : ConnectParams) (manualDNS : Option IP) (as : List Act) : WG :=
  ((WG.init p manualDNS).run as).getD (WG.init p manualDNS)

theorem WG.reachable_run {p : ConnectParams} {manualDNS : Option IP} {s : WG} {as : List Act}
    (h : (WG.init p manualDNS).run as = some s) : s.Reachable :=
  ⟨p, manualDNS, WG.reaches_run as .refl (fun _ _ _ => trivial) h⟩

theorem WG.after_reachable (p : ConnectParams) (manualDNS : Option IP) (as : List Act) :
    (WG.after p manualDNS as).Reachable := by
  unfold WG.after
  cases h : (WG.init p manualDNS).run as with
  | none => exact ⟨p, manualDNS, .refl⟩
  | some s => exact WG.reachable_run h

end IvpnDaemon.WireGuard

import IvpnDaemon.WireGuard.Step

/-!
# The Windows WireGuard adapter: who writes what

The loop and the callers share the adapter, but each field has its writers. The loop never
writes the callers, the disconnect flag or the manual DNS; a caller never writes the loop's
program counter, the channel field, `isPaused`, the configuration file or the DNS override.
Every invariant below reads these two frames instead of unfolding the other goroutine's step.
-/

namespace IvpnDaemon.WireGuard

variable {s s' : WG}

/-- What a step of the loop leaves as it was. -/
structure CallersUnchanged (s s' : WG) : Prop where
  callers : s'.callers = s.callers
  isDisconnectRequested : s'.isDisconnectRequested = s.isDisconnectRequested
  manualDNS : s'.manualDNS = s.manualDNS
  connectParams : s'.connectParams = s.connectParams
  disconnectReturned : s'.hist.disconnectReturned = s.hist.disconnectReturned

/-- What a step of a caller leaves as it was. -/
structure LoopUnchanged (s s' : WG) : Prop where
  loop : s'.loop = s.loop
  isPaused : s'.isPaused = s.isPaused
  pauseRequireChan : s'.pauseRequireChan = s.pauseRequireChan
  configFile : s'.configFile = s.configFile
  dnsOverride : s'.dnsOverride = s.dnsOverride
  pauseDeferred : s'.pauseDeferred = s.pauseDeferred
  connectParams : s'.connectParams = s.connectParams
  received : s'.hist.received = s.hist.received
  loopOps : s'.hist.loopOps = s.hist.loopOps
  startedLate : s'.hist.startedLate = s.hist.startedLate
  lateInstall : s'.hist.lateInstall = s.hist.lateInstall
  lastOverride : s'.hist.lastOverride = s.hist.lastOverride
  stoppedExit : s'.hist.stoppedExit = s.hist.stoppedExit
  deleteFailed : s'.hist.deleteFailed = s.hist.deleteFailed

theorem loopStep_callersUnchanged {r : Reply} (h : loopStep s r = some s') :
    CallersUnchanged s s' := by
  unfold loopStep at h
  split at h <;> (repeat' split at h) <;> cases h <;> (try split) <;>
    constructor <;> simp [WG.beginInstall, WG.beginUninstall, WG.afterUninstall,
      WG.afterInstall, WG.installFails, WG.receive, WG.uninstallDone]

theorem callerStep_loopUnchanged {i : Nat} {c : Caller} {r : Reply}
    (h : callerStep s i c r = some s') : LoopUnchanged s s' := by
  unfold callerStep at h
  split at h <;> (repeat' split at h) <;> cases h <;>
    constructor <;> simp [WG.setCaller, WG.uninstallDone]

/-- A caller's step moves that caller only: the others keep their program counters. -/
theorem callerStep_callers {i : Nat} {c : Caller} {r : Reply}
    (h : callerStep s i c r = some s') : ∃ pc, s'.callers = s.callers.set i ⟨c.call, pc⟩ := by
  unfold callerStep at h
  split at h <;> (repeat' split at h) <;> cases h <;> exact ⟨_, rfl⟩

/-- The first step of a `disconnect` call raises the flag, nothing lowers it, and only the
return of a `disconnect` call's uninstall marks a `disconnect` returned. -/
theorem callerStep_disconnect {i : Nat} {c : Caller} {r : Reply}
    (h : callerStep s i c r = some s') :
    s'.isDisconnectRequested =
        (s.isDisconnectRequested || (c.call == .disconnect && c.pc == .start)) ∧
      s'.hist.disconnectReturned =
        (s.hist.disconnectReturned || (c.call == .disconnect && c.pc == .uninstall .body)) := by
  obtain ⟨call, pc⟩ := c
  unfold callerStep at h
  split at h <;> (repeat' split at h) <;> cases h <;> simp_all [WG.setCaller, WG.uninstallDone]

/-- What every caller has, the callers keep when one of them moves to a program counter that
has it too. -/
theorem forall_callers_set {P : Caller → Prop} {cs : List Caller} {i : Nat} {c : Caller}
    (h : ∀ x ∈ cs, P x) (hc : P c) : ∀ x ∈ cs.set i c, P x := fun x hx =>
  (List.mem_or_eq_of_mem_set hx).elim (h x) (· ▸ hc)

/-- A caller of the list is still in it after caller `i` moves, or it is caller `i`. -/
theorem mem_set_or_eq {cs : List Caller} {i : Nat} {c x : Caller} (c' : Caller)
    (hc : cs[i]? = some c) (hx : x ∈ cs) : x ∈ cs.set i c' ∨ x = c := by
  obtain ⟨j, hj, rfl⟩ := List.getElem_of_mem hx
  by_cases hij : i = j
  · subst hij
    exact .inr (Option.some_injective _ ((List.getElem?_eq_getElem hj).symm.trans hc))
  · exact .inl (List.mem_iff_getElem.2 ⟨j, by simpa using hj, List.getElem_set_ne hij _⟩)

/-- A caller never installs the service: it leaves it or uninstalls it. -/
theorem callerStep_service {i : Nat} {c : Caller} {r : Reply}
    (h : callerStep s i c r = some s') : s'.service = s.service ∨ s'.service = .absent := by
  unfold callerStep at h
  split at h <;> (repeat' split at h) <;> cases h <;>
    simp only [WG.setCaller, WG.uninstallDone] <;> (try split) <;> simp

/-- A caller fills the channel and never drains it. -/
theorem callerStep_buffer {i : Nat} {c : Caller} {r : Reply} {o : Operation}
    (h : callerStep s i c r = some s') (hb : s.buffer = some o) : s'.buffer = some o := by
  unfold callerStep at h
  split at h <;> (repeat' split at h) <;> cases h <;> simp_all [WG.setCaller, WG.uninstallDone]

/-- Everything one step of the system can be. -/
theorem WG.step_eq_some {a : Act} (h : s.step a = some s') :
    (∃ r, a = .loop r ∧ loopStep s r = some s') ∨
    (∃ i r c, a = .caller i r ∧ s.callers[i]? = some c ∧ callerStep s i c r = some s') ∨
    (∃ c, a = .call c ∧ s' = { s with callers := s.callers ++ [⟨c, .start⟩] }) ∨
    (∃ d, a = .serviceStarts ∧ s.service = .installed .pending d ∧
      s' = { s with service := .installed .running d }) ∨
    (∃ st d, a = .serviceStops ∧ s.service = .installed st d ∧
      s' = { s with service := .installed .stopped d }) := by
  cases a with
  | loop r => exact .inl ⟨r, rfl, h⟩
  | caller i r =>
    simp only [WG.step] at h
    split at h
    · exact .inr (.inl ⟨i, r, _, rfl, ‹_›, h⟩)
    · cases h
  | call c => exact .inr (.inr (.inl ⟨c, rfl, (Option.some.inj h).symm⟩))
  | serviceStarts =>
    simp only [WG.step] at h
    split at h
    · exact .inr (.inr (.inr (.inl ⟨_, rfl, ‹_›, (Option.some.inj h).symm⟩)))
    · cases h
  | serviceStops =>
    simp only [WG.step] at h
    split at h
    · exact .inr (.inr (.inr (.inr ⟨_, _, rfl, ‹_›, (Option.some.inj h).symm⟩)))
    · cases h

end IvpnDaemon.WireGuard

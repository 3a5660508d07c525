import IvpnDaemon.WireGuard.Frame

/-!
# Disconnection

`disconnect` raises `isDisconnectRequested`, sends `resume` if the channel exists, and
uninstalls the service. `connect` reads the flag at its start, after its first install, and
after a message while paused; the restart for a new manual DNS does not read it, and neither
does an install already begun.
-/

namespace IvpnDaemon.WireGuard
open Net

variable {s s' : WG}

/-- The loop positions on the way from the first install to the return of `connect` when
the flag is raised: the install, the check after it, the uninstall it leads to, the return. -/
def LoopPc.undoing : LoopPc → Bool
  | .install site _ => site == .connect
  | .uninstall site _ => site == .disconnect
  | .postCheck | .exit _ | .done _ => true
  | _ => false

/-- The disconnection invariant. -/
structure DisconnectInv (s : WG) : Prop where
  started : ∀ c ∈ s.callers, c.call = .disconnect → c.pc ≠ .start →
    s.isDisconnectRequested = true
  returned : s.hist.disconnectReturned = true → s.isDisconnectRequested = true
  startedLate : s.hist.startedLate = true → s.loop = .refused
  lateInstall : s.hist.lateInstall = true →
    s.isDisconnectRequested = true ∧ s.loop.undoing = true

theorem disconnectInv_init (p : ConnectParams) (manualDNS : Option IP) :
    DisconnectInv (WG.init p manualDNS) :=
  ⟨by simp [WG.init], by simp [WG.init], by simp [WG.init], by simp [WG.init]⟩

theorem disconnectInv_loopStep {r : Reply} (hi : DisconnectInv s)
    (h : loopStep s r = some s') : DisconnectInv s' := by
  have hf := loopStep_callersUnchanged h
  suffices (s'.hist.startedLate = true → s'.loop = .refused) ∧
      (s'.hist.lateInstall = true → s.isDisconnectRequested = true ∧ s'.loop.undoing = true) from
    ⟨hf.callers ▸ hf.isDisconnectRequested ▸ hi.started,
      hf.disconnectReturned ▸ hf.isDisconnectRequested ▸ hi.returned, this.1,
      hf.isDisconnectRequested ▸ this.2⟩
  clear hf
  have := hi.returned
  have := hi.startedLate
  have := hi.lateInstall
  unfold loopStep at h
  split at h <;> (repeat' split at h) <;> cases h <;> (try split) <;>
    simp_all [WG.beginInstall, WG.beginUninstall, WG.afterUninstall, WG.afterInstall,
      WG.installFails, WG.receive, WG.uninstallDone, LoopPc.undoing, uninstallReturn,
      installReturn]

theorem disconnectInv_callerStep {i : Nat} {c : Caller} {r : Reply} (hi : DisconnectInv s)
    (hc : s.callers[i]? = some c) (h : callerStep s i c r = some s') : DisconnectInv s' := by
  have hf := callerStep_loopUnchanged h
  obtain ⟨hflag, hret⟩ := callerStep_disconnect h
  obtain ⟨pc, hcs⟩ := callerStep_callers h
  have hmono : s.isDisconnectRequested = true → s'.isDisconnectRequested = true := by
    simp_all
  have hcflag : c.call = .disconnect → s'.isDisconnectRequested = true := fun hd => by
    by_cases hpc : c.pc = .start
    · simp [hflag, hd, hpc]
    · exact hmono (hi.started c (List.getElem?_mem hc) hd hpc)
  refine ⟨hcs ▸ forall_callers_set (fun x hx hd hpc => hmono (hi.started x hx hd hpc))
      (fun hd _ => hcflag hd), fun h' => ?_, hf.loop ▸ hf.startedLate ▸ hi.startedLate,
      hf.loop ▸ hf.lateInstall ▸ fun h' => (hi.lateInstall h').imp_left hmono⟩
  rw [hret, Bool.or_eq_true] at h'
  rcases h' with h' | h'
  · exact hmono (hi.returned h')
  · exact hcflag (by simp at h'; exact h'.1)

theorem disconnectInv_step {a : Act} (hi : DisconnectInv s) (h : s.step a = some s') :
    DisconnectInv s' := by
  rcases WG.step_eq_some h with ⟨r, -, h⟩ | ⟨i, r, c, -, hc, h⟩ | ⟨c, -, rfl⟩ | ⟨d, -, -, rfl⟩ |
      ⟨st, d, -, -, rfl⟩
  · exact disconnectInv_loopStep hi h
  · exact disconnectInv_callerStep hi hc h
  · refine ⟨fun x hx => ?_, hi.returned, hi.startedLate, hi.lateInstall⟩
    rcases List.mem_append.mp hx with hx | hx
    · exact hi.started x hx
    · simp_all
  all_goals exact ⟨hi.started, hi.returned, hi.startedLate, hi.lateInstall⟩

theorem disconnectInv_reachable (h : s.Reachable) : DisconnectInv s := by
  obtain ⟨p, manualDNS, h⟩ := h
  exact h.invariant DisconnectInv (disconnectInv_init p manualDNS)
    fun hi _ hs => disconnectInv_step hi hs

/-- Once a `disconnect` call has returned, a `connect` that starts afterwards returns its
error at once, and a first install that begins afterwards is undone before `connect`
returns: the loop goes from it only to the uninstall and the return. -/
theorem returned_disconnect_stops_connect (h : s.Reachable) :
    (s.hist.startedLate = true → s.loop = .refused) ∧
      (s.hist.lateInstall = true → s.loop.undoing = true) :=
  ⟨(disconnectInv_reachable h).startedLate, fun hl => ((disconnectInv_reachable h).lateInstall hl).2⟩

/-- `connect` passes its first check, a `disconnect` call runs to completion, and `connect`
then calls `installService`. -/
theorem connect_installs_after_disconnect :
    let s : WG := WG.after ⟨IPv4 10 0 0 1, IPv4 10 0 0 2⟩ none
      [.loop .ok, .call .disconnect, .caller 0 .ok, .caller 0 .ok, .caller 0 .ok, .caller 0 .gone,
        .loop .ok, .loop .ok, .loop .gone, .loop .ok]
    s.Reachable ∧ s.hist.disconnectReturned = true ∧ s.hist.lateInstall = true ∧
      s.loop = .install .connect .lock :=
  ⟨WG.after_reachable _ _ _, by decide⟩

/-- The loop is bound to undo that install. -/
theorem late_install_undone :
    (WG.after ⟨IPv4 10 0 0 1, IPv4 10 0 0 2⟩ none
      [.loop .ok, .call .disconnect, .caller 0 .ok, .caller 0 .ok, .caller 0 .ok, .caller 0 .gone,
        .loop .ok, .loop .ok, .loop .gone, .loop .ok]).loop.undoing = true :=
  (returned_disconnect_stops_connect (WG.after_reachable _ _ _)).2 (by decide)

/-- A restart for a new manual DNS is pending when a `disconnect` call runs to completion
between the loop's status poll and its restart check. The loop then uninstalls, reinstalls the
service with the new DNS and polls it on, with the service running, for as long as it runs. -/
theorem restart_reinstalls_after_disconnect :
    let s₁ : Option WG := (WG.init ⟨IPv4 10 0 0 1, IPv4 10 0 0 2⟩ none).run (WG.connectRun ++
      [.call (.setManualDNS (some (IPv4 10 0 0 53))), .caller 0 .ok, .caller 0 .ok, .caller 0 .ok,
        .caller 0 .ok, .call .disconnect, .caller 1 .ok, .caller 1 .ok, .caller 1 .ok,
        .caller 1 .ok, .caller 1 .ok, .loop .ok])
    let s₂ : Option WG := s₁.bind (·.run [.loop .ok, .loop .ok, .loop .ok, .loop .gone, .loop .ok,
      .loop .ok, .loop .ok, .serviceStarts, .loop .ok, .loop .ok])
    s₁.map (fun s => (s.hist.disconnectReturned, s.service, s.loop)) =
        some (true, .absent, .select) ∧
      s₂.map (fun s => (s.service, s.loop)) =
        some (.installed .running (IPv4 10 0 0 53), .poll) ∧
      s₂.bind (·.run [.loop .ok, .loop .ok, .loop .ok]) = s₂ := by
  decide

/-- A `disconnect` call runs to completion after the paused loop has read its flag and begun
the resume's install: that install then brings the service back, and the loop goes on
supervising it. -/
theorem resume_reinstalls_after_disconnect :
    let s : WG := WG.after ⟨IPv4 10 0 0 1, IPv4 10 0 0 2⟩ none (WG.connectRun ++
      [.call .pause, .caller 0 .ok, .caller 0 .ok, .loop .ok, .loop .ok, .loop .ok, .loop .ok,
        .call .resume, .caller 1 .ok, .caller 1 .ok, .loop .ok, .loop .ok,
        .call .disconnect, .caller 2 .ok, .caller 2 .ok, .caller 2 .ok, .caller 2 .ok,
        .caller 2 .gone, .loop .ok, .loop .ok, .loop .ok, .serviceStarts, .loop .ok, .loop .ok])
    s.Reachable ∧ s.hist.disconnectReturned = true ∧
      s.service = .installed .running (IPv4 10 0 0 1) ∧ s.loop = .restartCheck :=
  ⟨WG.after_reachable _ _ _, by decide⟩

end IvpnDaemon.WireGuard

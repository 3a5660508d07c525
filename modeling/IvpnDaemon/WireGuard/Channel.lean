import IvpnDaemon.WireGuard.Frame

/-!
# The pause channel

`pauseRequireChan` holds one message and only the supervision loop receives from it. A send
on a full channel therefore waits for the loop; when the sender is the loop itself (the
failure cleanup of `installService`), or the loop has returned, nothing can ever drain it.
-/

namespace IvpnDaemon.WireGuard
open Net

variable {s s' : WG}

/-- Only the loop drains the channel. -/
theorem step_buffer_of_full {a : Act} {o : Operation} (hb : s.buffer = some o)
    (h : s.step a = some s') : (∃ r, a = .loop r) ∨ s'.buffer = some o := by
  rcases WG.step_eq_some h with ⟨r, rfl, -⟩ | ⟨i, r, c, -, -, h⟩ | ⟨c, -, rfl⟩ | ⟨d, -, -, rfl⟩ |
      ⟨st, d, -, -, rfl⟩
  · exact .inl ⟨r, rfl⟩
  · exact .inr (callerStep_buffer h hb)
  all_goals exact .inr hb

/-- The loop waiting to send its cleanup `resume` on a full channel waits forever, whatever
the callers, the service and the service manager do. -/
theorem cleanupSend_blocked_forever {site : InstallSite} {o : Operation}
    (hl : s.loop = .install site .cleanupSend) (hb : s.buffer = some o)
    (h : WG.Reaches (fun _ _ => True) s s') : s'.loop = s.loop ∧ s'.buffer = some o := by
  refine h.invariant (fun t => t.loop = s.loop ∧ t.buffer = some o) ⟨rfl, hb⟩ ?_
  rintro t t' a ⟨htl, htb⟩ - ht
  rcases step_buffer_of_full htb ht with ⟨r, rfl⟩ | hb'
  · simp [WG.step, loopStep, htl, hl, htb] at ht
  · rcases WG.step_eq_some ht with ⟨r, rfl, -⟩ | ⟨i, r, c, -, -, h⟩ | ⟨c, -, rfl⟩ |
        ⟨d, -, -, rfl⟩ | ⟨st, d, -, -, rfl⟩
    · simp [WG.step, loopStep, htl, hl, htb] at ht
    · exact ⟨(callerStep_loopUnchanged h).loop.trans htl, hb'⟩
    all_goals exact ⟨htl, hb'⟩

/-- A `pause` sent while a restart for a new manual DNS is installing fills the channel; the
install then fails and its cleanup, on the loop's own goroutine, blocks sending `resume`. No
step of any goroutine unblocks the loop again. -/
theorem pause_during_failed_restart_blocks_loop :
    let s : WG := WG.after ⟨IPv4 10 0 0 1, IPv4 10 0 0 2⟩ none (WG.connectRun ++
      [.call (.setManualDNS (some (IPv4 10 0 0 53))), .caller 0 .ok, .caller 0 .ok, .caller 0 .ok,
        .caller 0 .ok, .loop .ok, .loop .ok, .loop .ok, .loop .ok, .loop .ok, .loop .ok,
        .call .pause, .caller 1 .ok, .caller 1 .ok, .loop .fail, .loop .ok])
    s.Reachable ∧ s.loop = .install .restart .cleanupSend ∧ s.buffer = some .pause ∧
      ∀ s', WG.Reaches (fun _ _ => True) s s' → ∀ r, s'.step (.loop r) = none := by
  intro s
  have hl : s.loop = .install .restart .cleanupSend := by decide
  have hb : s.buffer = some .pause := by decide
  refine ⟨WG.after_reachable _ _ _, hl, hb, fun s' h r => ?_⟩
  obtain ⟨hl', hb'⟩ := cleanupSend_blocked_forever hl hb h
  simp [WG.step, loopStep, hl', hl, hb']

/-- Once the loop has returned, a caller that read the channel before the return and finds it
full waits forever. -/
theorem send_blocked_forever_after_return {failed : Bool} {o : Operation} {i : Nat} {call : Call}
    (hl : s.loop = .done failed) (hb : s.buffer = some o)
    (hc : s.callers[i]? = some ⟨call, .send⟩) (h : WG.Reaches (fun _ _ => True) s s') :
    s'.loop = .done failed ∧ s'.buffer = some o ∧ s'.callers[i]? = some ⟨call, .send⟩ := by
  refine h.invariant (fun t => t.loop = .done failed ∧ t.buffer = some o ∧
    t.callers[i]? = some ⟨call, .send⟩) ⟨hl, hb, hc⟩ ?_
  rintro t t' a ⟨htl, htb, htc⟩ - ht
  rcases WG.step_eq_some ht with ⟨r, rfl, h⟩ | ⟨j, r, c, rfl, hj, h⟩ | ⟨c, -, rfl⟩ |
      ⟨d, -, -, rfl⟩ | ⟨st, d, -, -, rfl⟩
  · simp [loopStep, htl] at h
  · by_cases hij : j = i
    · subst hij
      cases htc.symm.trans hj
      simp [callerStep, htb] at h
    · obtain ⟨pc, hcs⟩ := callerStep_callers h
      exact ⟨(callerStep_loopUnchanged h).loop.trans htl, callerStep_buffer h htb,
        by rw [hcs, List.getElem?_set_ne hij, htc]⟩
  · refine ⟨htl, htb, ?_⟩
    rw [List.getElem?_append_left (List.getElem?_eq_some_iff.mp htc).1, htc]
  all_goals exact ⟨htl, htb, htc⟩

/-- A `pause` and a `resume` call both read the channel while the loop polls; the `pause` fills
it, the service stops, and the loop returns. The `resume` call then waits forever. -/
theorem resume_blocks_after_stopped_service :
    let s : WG := WG.after ⟨IPv4 10 0 0 1, IPv4 10 0 0 2⟩ none (WG.connectRun ++
      [.call .pause, .caller 0 .ok, .call .resume, .caller 1 .ok, .caller 0 .ok, .serviceStops,
        .loop .stopped, .loop .ok])
    s.Reachable ∧ s.loop = .done false ∧ s.buffer = some .pause ∧
      ∀ s', WG.Reaches (fun _ _ => True) s s' → ∀ r, s'.step (.caller 1 r) = none := by
  intro s
  have hl : s.loop = .done false := by decide
  have hb : s.buffer = some .pause := by decide
  have hc : s.callers[1]? = some ⟨.resume, .send⟩ := by decide
  refine ⟨WG.after_reachable _ _ _, hl, hb, fun s' h r => ?_⟩
  obtain ⟨-, hb', hc'⟩ := send_blocked_forever_after_return hl hb hc h
  simp [WG.step, hc', callerStep, hb']

end IvpnDaemon.WireGuard

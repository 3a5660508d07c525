import IvpnDaemon.Net.IP
import Mathlib.Algebra.Group.Nat.Basic

/-!
# The service-manager calls

`uninstallService`, `installService`, `init`, `isServiceInstalled` and `isServiceRunning` as
they talk to the Windows service manager: every call is answered by the environment, and the
clock is read where the code reads it. The step model of `connect` takes each of these as one
answer; here their wait loops, deadlines, retries and deferred calls are spelled out. Times are
nanoseconds, as `time.Duration` counts them.

Main results: the wait of `uninstallService` runs the uninstall command again with a doubling
wait, so at most six times whatever the service manager answers; it returns `nil` only after the
manager reported the service gone; and since it sleeps 50 ns a pass, it ends after at most
3,600,000,001 status queries. `installService` runs its deferred calls as a stack, so it
releases `_globalInitMutex` before its failure cleanup calls `uninstallService`, which takes it
again; it runs that cleanup exactly when it fails, and succeeds only after the service was found
and seen `Running` before the deadlines.
-/

namespace IvpnDaemon.WireGuard
open Net

def millisecond : Nat := 1000000

def second : Nat := 1000000000

def minute : Nat := 60 * second

def waitServiceInstallTimeout : Nat := minute * 3

def waitServiceStartTimeout : Nat := minute * 5

/-! ## Wait loops -/

inductive Pass (σ β : Type)
  | next (s : σ)
  | exit (b : β)

/-- A wait loop `for started := time.Now(); time.Since(started) < timeout; time.Sleep(d)` over
its passes: a pass reads the clock at `checkAt`, leaves with `timedOut` once `timeout` has
passed since `started`, and runs `body` otherwise; `none` when the passes run out first. -/
def waitLoop {α σ β : Type} (checkAt : α → Nat) (started timeout : Nat)
    (body : σ → α → Pass σ β) (timedOut : σ → β) : List α → σ → Option β
  | [], _ => none
  | a :: as, s =>
    if checkAt a - started < timeout then
      match body s a with
      | .next s' => waitLoop checkAt started timeout body timedOut as s'
      | .exit b => some b
    else some (timedOut s)

/-- The clock as the passes read it: at least `t` at the first check, and at each later check at
least `d` after the end of the pass before (`time.Sleep(d)`). -/
def Clocked {α : Type} (checkAt endAt : α → Nat) (d : Nat) : Nat → List α → Prop
  | _, [] => True
  | t, a :: as => t ≤ checkAt a ∧ Clocked checkAt endAt d (endAt a + d) as

instance Clocked.decidable {α : Type} (checkAt endAt : α → Nat) (d : Nat) :
    (t : Nat) → (as : List α) → Decidable (Clocked checkAt endAt d t as)
  | _, [] => isTrue trivial
  | t, a :: as =>
    haveI := Clocked.decidable checkAt endAt d (endAt a + d) as
    inferInstanceAs (Decidable (t ≤ checkAt a ∧ Clocked checkAt endAt d (endAt a + d) as))

theorem clocked_spaced {α : Type} {checkAt endAt : α → Nat} {d t0 : Nat} {f : Nat → α}
    (hf : ∀ i, checkAt (f i) = t0 + d * i ∧ endAt (f i) = t0 + d * i) :
    ∀ n k, Clocked checkAt endAt d (t0 + d * k) ((List.range' k n).map f)
  | 0, _ => trivial
  | n + 1, k => ⟨(hf k).1 ▸ le_refl _, by
      rw [(hf k).2, Nat.add_assoc, ← Nat.mul_succ]; exact clocked_spaced hf n (k + 1)⟩

section
variable {α σ β : Type} {checkAt endAt : α → Nat} {started timeout d : Nat}
  {body : σ → α → Pass σ β} {timedOut : σ → β}

/-- A wait loop whose passes sleep `d` and last from `checkAt` to `endAt` ends within the pass
at which `timeout` is reached: the passes never run out when there are more than `n` of them,
with `d * n` covering the time from the first check to the deadline. -/
theorem waitLoop_isSome (hend : ∀ a, checkAt a ≤ endAt a) :
    ∀ {as : List α} {s : σ} {t n : Nat}, Clocked checkAt endAt d t as →
      started + timeout ≤ t + d * n → n < as.length →
      (waitLoop checkAt started timeout body timedOut as s).isSome
  | [], _, _, _, _, _, hn => absurd hn (Nat.not_lt_zero _)
  | a :: as, s, t, n, ⟨ht, hc⟩, hd, hn => by
    unfold waitLoop
    split_ifs with hlt
    · cases n with
      | zero => omega
      | succ m =>
        split
        · have := hend a
          have hd' : started + timeout ≤ endAt a + d + d * m := by rw [Nat.mul_succ] at hd; omega
          exact waitLoop_isSome hend hc hd' (by simpa using hn)
        · rfl
    · rfl

/-- An invariant of the loop's variables, given a lower bound `t` of the clock, gives a property
of every result: each pass keeps it, and every exit and the timeout satisfy the property. -/
theorem waitLoop_inv {P : Nat → σ → Prop} {Q : β → Prop}
    (hnext : ∀ t s a s', P t s → t ≤ checkAt a → checkAt a - started < timeout →
      body s a = .next s' → P (endAt a + d) s')
    (hexit : ∀ t s a b, P t s → t ≤ checkAt a → checkAt a - started < timeout →
      body s a = .exit b → Q b)
    (htimed : ∀ t s, P t s → Q (timedOut s)) :
    ∀ {as : List α} {t : Nat} {s : σ} {b : β}, Clocked checkAt endAt d t as → P t s →
      waitLoop checkAt started timeout body timedOut as s = some b → Q b
  | [], _, _, _, _, _, h => by cases h
  | a :: as, t, s, b, ⟨ht, hc⟩, hP, h => by
    unfold waitLoop at h
    split_ifs at h with hlt
    · split at h
      · rename_i s' hs
        exact waitLoop_inv hnext hexit htimed hc (hnext t s a s' hP ht hlt hs) h
      · rename_i b' hb
        cases h
        exact hexit t s a b hP ht hlt hb
    · cases h
      exact htimed t s hP

theorem waitLoop_eq_some : ∀ {as : List α} {s : σ} {b : β},
    waitLoop checkAt started timeout body timedOut as s = some b →
      (∃ a ∈ as, ∃ s', checkAt a - started < timeout ∧ body s' a = .exit b) ∨ ∃ s', b = timedOut s'
  | [], _, _, h => by cases h
  | a :: as, s, b, h => by
    unfold waitLoop at h
    split_ifs at h with hlt
    · split at h
      · rcases waitLoop_eq_some h with ⟨a', ha', s', hlt', hb⟩ | hb
        · exact .inl ⟨a', List.mem_cons_of_mem _ ha', s', hlt', hb⟩
        · exact .inr hb
      · rename_i b' hb
        cases h
        exact .inl ⟨a, List.mem_cons_self _ _, s, hlt, hb⟩
    · cases h
      exact .inr ⟨s, rfl⟩

end

/-! ## Service-manager answers -/

inductive WinError
  | serviceDoesNotExist
  | serviceDisabled
  | serviceNotActive
  | serviceNotFound
  | other (code : Nat)
  deriving DecidableEq, Repr

inductive SvcState
  | stopped
  | startPending
  | stopPending
  | running
  | continuePending
  | pausePending
  | paused
  deriving DecidableEq, Repr

inductive GoError
  | win (e : WinError)
  | text (msg : String)
  | wrap (msg : String) (e : GoError)
  deriving DecidableEq, Repr

structure StatusAnswer where
  openService : Option WinError
  interrogate : Except WinError SvcState

/-- `getServiceStatus`: whether the service was opened, its state (`none` for the zero
`svc.State` returned with an error), and the error. -/
def getServiceStatus (a : StatusAnswer) : Bool × Option SvcState × Option WinError :=
  match a.openService with
  | some e => (false, none, some e)
  | none =>
    match a.interrogate with
    | .error e => (true, none, some e)
    | .ok st => (true, some st, none)

/-! ## `uninstallService` -/

/-- One pass of the wait loop of `uninstallService`: the clock read by the loop condition, the
status answer, the clock read by the retry condition, and, if the uninstall command is run
again, its error and the clock after it. A pass reads the clock in order. -/
structure UninstallPoll where
  checkAt : Nat
  status : StatusAnswer
  retryAt : Nat
  exec : Option GoError
  execDone : Nat
  check_le_retry : checkAt ≤ retryAt
  retry_le_done : retryAt ≤ execDone

structure UninstallWait where
  lastRetry : Nat
  next : Nat
  retries : List (Nat × Nat)

abbrev UninstallResult := Option GoError × List (Nat × Nat)

/-- One pass of the wait loop: a status answer `ERROR_SERVICE_DOES_NOT_EXIST` ends it; a service
found `Running` when more than `nextUninstallRetryTime` has passed since the last uninstall
command gets the command again, and the wait doubles. -/
def uninstallPass (s : UninstallWait) (p : UninstallPoll) : Pass UninstallWait UninstallResult :=
  let r := getServiceStatus p.status
  if r.2.2 = some .serviceDoesNotExist then .exit (none, s.retries)
  else if r.1 = true ∧ r.2.1 = some .running ∧ s.next < p.retryAt - s.lastRetry then
    match p.exec with
    | some e =>
      .exit (some (.wrap "failed to uninstall WireGuard service: " e),
        s.retries ++ [(p.retryAt, p.execDone)])
    | none => .next ⟨p.execDone, s.next * 2, s.retries ++ [(p.retryAt, p.execDone)]⟩
  else .next s

structure UninstallEnv where
  connect : Option GoError
  openService : Option WinError
  exec : Option GoError
  execDone : Nat
  started : Nat
  polls : List UninstallPoll

/-- `uninstallService`, inside `_globalInitMutex`. It sleeps 50 ns per pass: `time.Sleep(50)`
takes nanoseconds. -/
def uninstallService (env : UninstallEnv) : Option UninstallResult :=
  match env.connect with
  | some e => some (some (.wrap "failed to connect windows service manager: " e), [])
  | none =>
    match env.openService with
    | some _ => some (none, [])
    | none =>
      match env.exec with
      | some e => some (some (.wrap "failed to uninstall WireGuard service: " e), [])
      | none =>
        waitLoop UninstallPoll.checkAt env.started waitServiceInstallTimeout uninstallPass
          (fun s => (some (.text "service not uninstalled (timeout)"), s.retries)) env.polls
          ⟨env.execDone, second * 3, []⟩

example : uninstallService ⟨none, none, none, 0, 1,
    [⟨2, ⟨none, .ok .running⟩, 3000000005, none, 3000000006, by decide, by decide⟩,
     ⟨3000000100, ⟨some .serviceDoesNotExist, .ok .running⟩, 3000000100, none, 3000000100,
      by decide, by decide⟩]⟩ = some (none, [(3000000005, 3000000006)]) := by decide

/-! ### The retries back off -/

/-- The uninstall command is run again only more than `wait` after the previous one ended, and
`wait` doubles each time; a retry is the clock of its retry condition and the clock after its
command. -/
def Backoff : Nat → Nat → List (Nat × Nat) → Prop
  | _, _, [] => True
  | last, wait, (r, e) :: rs => last + wait < r ∧ r ≤ e ∧ Backoff e (wait * 2) rs

instance Backoff.decidable : (last wait : Nat) → (rs : List (Nat × Nat)) →
    Decidable (Backoff last wait rs)
  | _, _, [] => isTrue trivial
  | last, wait, (r, e) :: rs =>
    haveI := Backoff.decidable e (wait * 2) rs
    inferInstanceAs (Decidable (last + wait < r ∧ r ≤ e ∧ Backoff e (wait * 2) rs))

def lastEnd (d : Nat) : List (Nat × Nat) → Nat
  | [] => d
  | (_, e) :: rs => lastEnd e rs

@[simp] theorem lastEnd_append (d r e : Nat) :
    ∀ rs : List (Nat × Nat), lastEnd d (rs ++ [(r, e)]) = e
  | [] => rfl
  | (_, e') :: rs => lastEnd_append e' r e rs

theorem backoff_append {r e : Nat} : ∀ {last wait : Nat} {rs : List (Nat × Nat)},
    Backoff last wait rs → lastEnd last rs + wait * 2 ^ rs.length < r → r ≤ e →
    Backoff last wait (rs ++ [(r, e)])
  | _, _, [], _, hr, he => ⟨by simpa using hr, he, trivial⟩
  | _, wait, (_, _) :: _, ⟨h1, h2, h3⟩, hr, he =>
    ⟨h1, h2, backoff_append h3 (by simpa [lastEnd, Nat.pow_succ, Nat.mul_assoc, Nat.mul_comm 2]
      using hr) he⟩

/-- The invariant of the uninstall wait, with `t` a lower bound of the clock: after `k` retries
the wait is `3 s · 2^k`; the last command ended at `lastUninstallRetryTime`; the retries are
spaced by the doubling wait; and once the first retry has come, after `started`, the wait
bounds how far the clock has run. -/
structure UninstallWait.Inv (e0 started t : Nat) (s : UninstallWait) : Prop where
  next_eq : s.next = second * 3 * 2 ^ s.retries.length
  started_le : started ≤ t
  last_eq : lastEnd e0 s.retries = s.lastRetry
  backoff : Backoff e0 (second * 3) s.retries
  elapsed : s.retries ≠ [] → s.lastRetry ≤ t ∧ started + s.next ≤ s.lastRetry + second * 6
  length_le : s.retries.length ≤ 6

theorem UninstallWait.Inv.length_lt {e0 started t c : Nat} {s : UninstallWait}
    (hI : s.Inv e0 started t) (hc : t ≤ c) (hlt : c - started < waitServiceInstallTimeout) :
    s.retries.length < 6 := by
  by_contra hk
  have hpow : 2 ^ 6 ≤ 2 ^ s.retries.length := Nat.pow_le_pow_right (by decide) (by omega)
  obtain ⟨hl, he⟩ := hI.elapsed (by rintro h; simp [h] at hk)
  have := hI.next_eq
  simp only [waitServiceInstallTimeout, minute, second] at *
  omega

theorem UninstallWait.Inv.pass {e0 started t : Nat} {s s' : UninstallWait} {p : UninstallPoll}
    (hI : s.Inv e0 started t) (ht : t ≤ p.checkAt)
    (hlt : p.checkAt - started < waitServiceInstallTimeout)
    (h : uninstallPass s p = .next s') : s'.Inv e0 started (p.execDone + 50) := by
  have hk := hI.length_lt ht hlt
  have hc := p.check_le_retry
  have hd := p.retry_le_done
  have hs := hI.started_le
  unfold uninstallPass at h
  dsimp only at h
  split_ifs at h with h1 h2
  · split at h
    · cases h
    · cases h
      obtain ⟨-, -, h3⟩ := h2
      have hn := hI.next_eq
      refine ⟨by simp [hn, Nat.pow_succ, Nat.mul_assoc], by omega, by simp, ?_, ?_, by simp; omega⟩
      · exact backoff_append hI.backoff (by rw [hI.last_eq, ← hn]; omega) hd
      · intro _
        dsimp only
        refine ⟨by omega, ?_⟩
        rcases Nat.eq_zero_or_pos s.retries.length with h0 | h0
        · simp only [hn, h0, Nat.pow_zero, Nat.mul_one] at h3 ⊢
          omega
        · obtain ⟨-, he⟩ := hI.elapsed (List.ne_nil_of_length_pos h0)
          omega
  · cases h
    exact ⟨hI.next_eq, by omega, hI.last_eq, hI.backoff,
      fun hne => ⟨by have := (hI.elapsed hne).1; omega, (hI.elapsed hne).2⟩, hI.length_le⟩

theorem UninstallWait.Inv.exit {e0 started t : Nat} {s : UninstallWait} {p : UninstallPoll}
    {b : UninstallResult} (hI : s.Inv e0 started t) (ht : t ≤ p.checkAt)
    (hlt : p.checkAt - started < waitServiceInstallTimeout)
    (h : uninstallPass s p = .exit b) : Backoff e0 (second * 3) b.2 ∧ b.2.length ≤ 6 := by
  have hk := hI.length_lt ht hlt
  unfold uninstallPass at h
  dsimp only at h
  split_ifs at h with h1 h2
  · cases h
    exact ⟨hI.backoff, hI.length_le⟩
  · split at h
    · cases h
      refine ⟨backoff_append hI.backoff ?_ p.retry_le_done, by simp; omega⟩
      rw [hI.last_eq, ← hI.next_eq]
      omega
    · cases h

/-- `uninstallService` runs the uninstall command again only for a service still found
`Running`, each time more than a wait after the previous command ended, the wait starting at
3 s and doubling; so whatever the service manager answers it retries at most six times, and
`nextUninstallRetryTime` never passes 192 s. -/
theorem uninstallService_backoff {env : UninstallEnv} {err : Option GoError}
    {retries : List (Nat × Nat)}
    (hclock : Clocked UninstallPoll.checkAt UninstallPoll.execDone 50 env.started env.polls)
    (h : uninstallService env = some (err, retries)) :
    Backoff env.execDone (second * 3) retries ∧ retries.length ≤ 6 := by
  unfold uninstallService at h
  split at h
  · cases h; exact ⟨trivial, by simp⟩
  split at h
  · cases h; exact ⟨trivial, by simp⟩
  split at h
  · cases h; exact ⟨trivial, by simp⟩
  refine waitLoop_inv (P := UninstallWait.Inv env.execDone env.started)
    (Q := fun b : UninstallResult => Backoff env.execDone (second * 3) b.2 ∧ b.2.length ≤ 6)
    (fun _ _ _ _ hI ht hlt hs => hI.pass ht hlt hs) (fun _ _ _ _ hI ht hlt hb => hI.exit ht hlt hb)
    (fun _ _ hI => ⟨hI.backoff, hI.length_le⟩) hclock ?_ h
  exact ⟨by simp, le_refl _, rfl, trivial, fun h => absurd rfl h, by simp⟩

theorem uninstall_retries_twice :
    let env : UninstallEnv := ⟨none, none, none, 0, 1,
      [⟨2, ⟨none, .ok .running⟩, 3000000005, none, 3000000006, by decide, by decide⟩,
       ⟨3000000100, ⟨none, .ok .running⟩, 9000000100, none, 9000000200, by decide, by decide⟩,
       ⟨9000000300, ⟨some .serviceDoesNotExist, .ok .running⟩, 9000000300, none, 9000000300,
        by decide, by decide⟩]⟩
    uninstallService env = some (none, [(3000000005, 3000000006), (9000000100, 9000000200)]) ∧
      Backoff env.execDone (second * 3) [(3000000005, 3000000006), (9000000100, 9000000200)] ∧
      [(3000000005, 3000000006), (9000000100, 9000000200)].length ≤ 6 :=
  ⟨by decide, @uninstallService_backoff _ none _ (by decide) (by decide)⟩

theorem uninstallWait_none {started : Nat} {polls : List UninstallPoll} {s : UninstallWait}
    {retries : List (Nat × Nat)}
    (h : waitLoop UninstallPoll.checkAt started waitServiceInstallTimeout uninstallPass
      (fun s => (some (.text "service not uninstalled (timeout)"), s.retries)) polls s =
        some (none, retries)) :
    ∃ p ∈ polls, p.checkAt - started < waitServiceInstallTimeout ∧
      (getServiceStatus p.status).2.2 = some .serviceDoesNotExist := by
  rcases waitLoop_eq_some h with ⟨p, hp, s, hlt, hb⟩ | ⟨s, hb⟩
  · refine ⟨p, hp, hlt, ?_⟩
    unfold uninstallPass at hb
    dsimp only at hb
    split_ifs at hb with h1 h2
    · exact h1
    · split at hb <;> cases hb
  · cases hb

/-- `uninstallService` returns `nil` only when the service manager found no service to
uninstall, or answered a status query before the deadline with `ERROR_SERVICE_DOES_NOT_EXIST`. -/
theorem uninstallService_nil {env : UninstallEnv} {retries : List (Nat × Nat)}
    (h : uninstallService env = some (none, retries)) :
    env.connect = none ∧ (env.openService.isSome ∨ ∃ p ∈ env.polls,
      p.checkAt - env.started < waitServiceInstallTimeout ∧
        (getServiceStatus p.status).2.2 = some .serviceDoesNotExist) := by
  unfold uninstallService at h
  split at h
  · cases h
  rename_i hc
  refine ⟨hc, ?_⟩
  split at h
  · exact .inl (by simp [*])
  split at h
  · cases h
  · exact .inr (uninstallWait_none h)

theorem uninstall_nil_after_gone :
    let env : UninstallEnv := ⟨none, none, none, 0, 1,
      [⟨2, ⟨none, .ok .stopPending⟩, 2, none, 2, by decide, by decide⟩,
       ⟨60, ⟨some .serviceDoesNotExist, .ok .running⟩, 60, none, 60, by decide, by decide⟩]⟩
    uninstallService env = some (none, []) ∧
      (env.connect = none ∧ (env.openService.isSome ∨ ∃ p ∈ env.polls,
        p.checkAt - env.started < waitServiceInstallTimeout ∧
          (getServiceStatus p.status).2.2 = some .serviceDoesNotExist)) :=
  ⟨by decide, @uninstallService_nil _ [] (by decide)⟩

/-- Since each pass sleeps 50 ns, `uninstallService` returns after at most 3,600,000,001 status
queries. -/
theorem uninstallService_isSome {env : UninstallEnv}
    (hclock : Clocked UninstallPoll.checkAt UninstallPoll.execDone 50 env.started env.polls)
    (hlen : 3600000000 < env.polls.length) : (uninstallService env).isSome := by
  unfold uninstallService
  split
  · rfl
  split
  · rfl
  split
  · rfl
  exact waitLoop_isSome (fun p => p.check_le_retry.trans p.retry_le_done) hclock
    (by simp [waitServiceInstallTimeout, minute, second]) hlen

theorem uninstall_ends_within_deadline :
    (uninstallService ⟨none, none, none, 0, 0, (List.range' 0 3600000001).map fun i =>
      ⟨50 * i, ⟨none, .ok .stopPending⟩, 50 * i, none, 50 * i, le_refl _, le_refl _⟩⟩).isSome :=
  uninstallService_isSome
    (@clocked_spaced UninstallPoll UninstallPoll.checkAt UninstallPoll.execDone 50 0
      (fun i => ⟨50 * i, ⟨none, .ok .stopPending⟩, 50 * i, none, 50 * i, le_refl _, le_refl _⟩)
      (fun i => ⟨(Nat.zero_add _).symm, (Nat.zero_add _).symm⟩) _ 0)
    (by simp)

/-! ## `installService` -/

structure OpenPoll where
  checkAt : Nat
  openService : Option WinError

structure StatusPoll where
  checkAt : Nat
  status : StatusAnswer

/-- The wait for the install: `OpenService` until it succeeds (`isInstalled`), for up to
`_waitServiceInstallTimeout`, sleeping 10 ms per pass. -/
def waitInstalled (started : Nat) (polls : List OpenPoll) : Option Bool :=
  waitLoop OpenPoll.checkAt started waitServiceInstallTimeout
    (fun _ p => if p.openService = none then .exit true else .next ()) (fun _ => false) polls ()

/-- The wait for the start: the status until the service is `Running` (`isStarted`), for up to
`_waitServiceStartTimeout`, sleeping 10 ms per pass; a failed status query or a `Stopped`
service ends `installService` with an error. -/
def waitStarted (started : Nat) (polls : List StatusPoll) : Option (Option GoError) :=
  waitLoop StatusPoll.checkAt started waitServiceStartTimeout
    (fun _ p =>
      let r := getServiceStatus p.status
      match r.2.2 with
      | some e => .exit (some (.wrap "service start error: " (.win e)))
      | none =>
        if r.2.1 = some .running then .exit none
        else if r.2.1 = some .stopped then .exit (some (.text "WireGuard service stopped"))
        else .next ())
    (fun _ => some (.text "service not started (timeout)")) polls ()

inductive Deferred
  /-- the check of `isStarted` and `isInstalled` that calls `disconnectInternal` -/
  | failureCleanup
  | unlock
  | removeConfig
  | disconnectManager
  deriving DecidableEq, Repr

inductive InstallEffect
  | lock
  | setManualDNS (ip : IP)
  | deleteManualDNS
  | notifyConnected
  | disconnectManager
  | removeConfig
  | unlock
  | disconnectInternal
  deriving DecidableEq, Repr

/-- The deferred calls `ds` run in the order given; the failure cleanup reads `isInstalled` and
`isStarted` as they are then. -/
def runDeferred (installed started : Bool) : List Deferred → List InstallEffect
  | [] => []
  | .failureCleanup :: ds =>
    (if !started || !installed then [.disconnectInternal] else []) ++
      runDeferred installed started ds
  | .unlock :: ds => .unlock :: runDeferred installed started ds
  | .removeConfig :: ds => .removeConfig :: runDeferred installed started ds
  | .disconnectManager :: ds => .disconnectManager :: runDeferred installed started ds

structure InstallEnv where
  saveConfig : Option GoError
  exec : Option GoError
  connect : Option GoError
  installStarted : Nat
  installPolls : List OpenPoll
  startStarted : Nat
  startPolls : List StatusPoll

/-- `installService` returns `err` with the flags `isInstalled` and `isStarted`, after doing
`done` since it took the mutex: the calls `ds`, deferred in that order, run as a stack. -/
def installReturnWith (err : Option GoError) (installed started : Bool) (ds : List Deferred)
    (done : List InstallEffect) : Option (Option GoError × List InstallEffect) :=
  some (err, .lock :: done ++ runDeferred installed started ds.reverse)

def installService (manualDNS : Option IP) (env : InstallEnv) :
    Option (Option GoError × List InstallEffect) :=
  let ds := [Deferred.failureCleanup, .unlock, .removeConfig]
  match env.saveConfig with
  | some e => installReturnWith (some (.wrap "failed to save config file: " e)) false false ds []
  | none =>
    match env.exec with
    | some e =>
      installReturnWith (some (.wrap "failed to install WireGuard service: " e)) false false ds []
    | none =>
      match env.connect with
      | some e =>
        installReturnWith (some (.wrap "failed to connect windows service manager: " e)) false
          false ds []
      | none =>
        let ds := ds ++ [.disconnectManager]
        match waitInstalled env.installStarted env.installPolls with
        | none => none
        | some false =>
          installReturnWith (some (.text "service not installed (timeout)")) false false ds []
        | some true =>
          match waitStarted env.startStarted env.startPolls with
          | none => none
          | some (some e) => installReturnWith (some e) true false ds []
          | some none =>
            installReturnWith none true true ds
              [manualDNS.elim .deleteManualDNS .setManualDNS, .notifyConnected]

example : installService none ⟨none, none, none, 0, [⟨1, some .serviceDoesNotExist⟩, ⟨2, none⟩],
    3, [⟨4, ⟨none, .ok .startPending⟩⟩, ⟨5, ⟨none, .ok .running⟩⟩]⟩ =
    some (none, [.lock, .deleteManualDNS, .notifyConnected, .disconnectManager, .removeConfig,
      .unlock]) := by decide

/-- `installService` succeeds only after `OpenService` found the service before the install
deadline and a status query saw it `Running` before the start deadline. -/
theorem installService_ok {manualDNS : Option IP} {env : InstallEnv} {fx : List InstallEffect}
    (h : installService manualDNS env = some (none, fx)) :
    (∃ p ∈ env.installPolls, p.checkAt - env.installStarted < waitServiceInstallTimeout ∧
      p.openService = none) ∧
    ∃ q ∈ env.startPolls, q.checkAt - env.startStarted < waitServiceStartTimeout ∧
      (getServiceStatus q.status).2.1 = some .running := by
  unfold installService at h
  dsimp only at h
  split at h
  · cases h
  split at h
  · cases h
  split at h
  · cases h
  split at h
  · cases h
  · cases h
  rename_i hi
  split at h
  · cases h
  · cases h
  rename_i hs
  refine ⟨?_, ?_⟩
  · rcases waitLoop_eq_some hi with ⟨p, hp, _, hlt, hb⟩ | ⟨_, hb⟩
    · refine ⟨p, hp, hlt, ?_⟩
      split_ifs at hb with ho
      exact ho
    · cases hb
  · rcases waitLoop_eq_some hs with ⟨q, hq, _, hlt, hb⟩ | ⟨_, hb⟩
    · refine ⟨q, hq, hlt, ?_⟩
      dsimp only at hb
      split at hb
      · cases hb
      · split_ifs at hb with hr
        · exact hr
        all_goals cases hb
    · cases hb

theorem install_ok_after_polls :
    let env : InstallEnv := ⟨none, none, none, 0, [⟨1, some .serviceDoesNotExist⟩, ⟨2, none⟩],
      3, [⟨4, ⟨none, .ok .startPending⟩⟩, ⟨5, ⟨none, .ok .running⟩⟩]⟩
    installService (some (IPv4 10 0 0 1)) env = some (none, [.lock, .setManualDNS (IPv4 10 0 0 1),
      .notifyConnected, .disconnectManager, .removeConfig, .unlock]) ∧
    (∃ p ∈ env.installPolls, p.checkAt - env.installStarted < waitServiceInstallTimeout ∧
      p.openService = none) ∧
    ∃ q ∈ env.startPolls, q.checkAt - env.startStarted < waitServiceStartTimeout ∧
      (getServiceStatus q.status).2.1 = some .running := by
  intro env
  exact ⟨by decide, @installService_ok (some (IPv4 10 0 0 1)) env [.lock,
    .setManualDNS (IPv4 10 0 0 1), .notifyConnected, .disconnectManager, .removeConfig, .unlock]
    (by decide)⟩

/-- Since each pass of its waits sleeps 10 ms, `installService` returns after at most 18,001
`OpenService` calls and 30,001 status queries. -/
theorem installService_isSome {manualDNS : Option IP} {env : InstallEnv}
    (hi : Clocked OpenPoll.checkAt OpenPoll.checkAt (millisecond * 10) env.installStarted
      env.installPolls) (hli : 18000 < env.installPolls.length)
    (hs : Clocked StatusPoll.checkAt StatusPoll.checkAt (millisecond * 10) env.startStarted
      env.startPolls) (hls : 30000 < env.startPolls.length) :
    (installService manualDNS env).isSome := by
  have hI : (waitInstalled env.installStarted env.installPolls).isSome :=
    waitLoop_isSome (fun _ => le_refl _) hi
      (by simp [waitServiceInstallTimeout, minute, second, millisecond]) hli
  have hS : (waitStarted env.startStarted env.startPolls).isSome :=
    waitLoop_isSome (fun _ => le_refl _) hs
      (by simp [waitServiceStartTimeout, minute, second, millisecond]) hls
  unfold installService
  dsimp only
  split
  · rfl
  split
  · rfl
  split
  · rfl
  split
  · simp_all
  · rfl
  split
  · simp_all
  · rfl
  · rfl

theorem install_ends_within_deadlines :
    (installService none ⟨none, none, none, 0,
      (List.range' 0 18001).map (fun i => ⟨millisecond * 10 * i, some .serviceDoesNotExist⟩), 0,
      (List.range' 0 30001).map (fun i => ⟨millisecond * 10 * i, ⟨none, .ok .startPending⟩⟩)⟩
      ).isSome :=
  installService_isSome
    (@clocked_spaced OpenPoll OpenPoll.checkAt OpenPoll.checkAt (millisecond * 10) 0
      (fun i => ⟨millisecond * 10 * i, some .serviceDoesNotExist⟩)
      (fun _ => ⟨(Nat.zero_add _).symm, (Nat.zero_add _).symm⟩) _ 0) (by simp)
    (@clocked_spaced StatusPoll StatusPoll.checkAt StatusPoll.checkAt (millisecond * 10) 0
      (fun i => ⟨millisecond * 10 * i, ⟨none, .ok .startPending⟩⟩)
      (fun _ => ⟨(Nat.zero_add _).symm, (Nat.zero_add _).symm⟩) _ 0) (by simp)

/-! ## `init`, `isServiceInstalled` and `isServiceRunning` -/

def isServiceInstalled (connect : Option GoError) (openService : Option WinError) :
    Bool × Option GoError :=
  match connect with
  | some e => (false, some (.wrap "failed to connect windows service manager: " e))
  | none => (openService.isNone, none)

def init (connect : Option GoError) (openService : Option WinError) (env : UninstallEnv) :
    Option (Option GoError) :=
  let r := isServiceInstalled connect openService
  if r.1 = false ∨ r.2.isSome then some r.2 else (uninstallService env).map Prod.fst

/-- `init` returns `nil` only when the service manager found no service, or, asked to uninstall
the one it found, reported it gone. -/
theorem init_nil {connect : Option GoError} {openService : Option WinError} {env : UninstallEnv}
    (h : init connect openService env = some none) :
    connect = none ∧ (openService.isSome ∨ env.openService.isSome ∨ ∃ p ∈ env.polls,
      p.checkAt - env.started < waitServiceInstallTimeout ∧
        (getServiceStatus p.status).2.2 = some .serviceDoesNotExist) := by
  unfold init isServiceInstalled at h
  cases connect with
  | some e => simp at h
  | none =>
    refine ⟨rfl, ?_⟩
    cases openService with
    | some e => exact .inl rfl
    | none =>
      simp only [Option.isNone_none, Option.isSome_none] at h
      obtain ⟨rs, hu⟩ : ∃ rs, uninstallService env = some (none, rs) := by simpa using h
      unfold uninstallService at hu
      split at hu
      · cases hu
      split at hu
      · exact .inr (.inl (by simp [*]))
      split at hu
      · cases hu
      · exact .inr (.inr (uninstallWait_none hu))

theorem init_nil_after_gone :
    let env : UninstallEnv := ⟨none, none, none, 0, 1,
      [⟨2, ⟨none, .ok .stopPending⟩, 2, none, 2, by decide, by decide⟩,
       ⟨60, ⟨some .serviceDoesNotExist, .ok .running⟩, 60, none, 60, by decide, by decide⟩]⟩
    init none none env = some none ∧
      (none : Option GoError) = none ∧ ((none : Option WinError).isSome ∨ env.openService.isSome ∨
        ∃ p ∈ env.polls, p.checkAt - env.started < waitServiceInstallTimeout ∧
          (getServiceStatus p.status).2.2 = some .serviceDoesNotExist) :=
  ⟨by decide, init_nil (by decide)⟩

def isServiceRunning (connect : Option GoError) (openService : Option WinError)
    (status : StatusAnswer) : Bool × Option GoError :=
  match connect with
  | some e => (false, some e)
  | none =>
    match openService with
    | some _ => (false, none)
    | none =>
      let r := getServiceStatus status
      match r.2.2 with
      | some e => (false, some (.win e))
      | none => (r.2.1 = some .running, none)

end IvpnDaemon.WireGuard

import IvpnDaemon.WireGuard.Frame

/-!
# Pause and resume

`pause` and `resume` are meant to drive a two-state automaton. When they are the only calls,
every call of the loop succeeds, an install's wait ends only once the service runs, and the
service never stops on its own, the loop refines it: the messages the loop has received drive
the automaton to the loop's phase, the service operations the loop has begun are the
automaton's outputs, and the service itself is the one the phase calls for: running while the
loop supervises it, absent once a pause has uninstalled it.
-/

namespace IvpnDaemon.WireGuard
open Net

variable {s s' : WG}

inductive Phase
  | running
  | paused
  deriving DecidableEq, Repr

/-- The automaton: a message moves the phase and names the service operations it causes. -/
def Phase.step : Phase → Operation → Phase × List ServiceOp
  | .running, .pause => (.paused, [.uninstall])
  | .paused, .pause => (.paused, [])
  | .paused, .resume => (.running, [.install])
  | .running, .resume => (.running, [])

/-- The automaton over a sequence of messages: the last phase and every operation, in order. -/
def Phase.run (p : Phase) (os : List Operation) : Phase × List ServiceOp :=
  os.foldl (fun acc o => ((acc.1.step o).1, acc.2 ++ (acc.1.step o).2)) (p, [])

@[simp] theorem Phase.run_nil (p : Phase) : p.run [] = (p, []) := rfl

@[simp] theorem Phase.run_append_singleton (p : Phase) (os : List Operation) (o : Operation) :
    p.run (os ++ [o]) = (((p.run os).1.step o).1, (p.run os).2 ++ ((p.run os).1.step o).2) := by
  simp [Phase.run, List.foldl_append]

/-- Whether the service is installed and in state `st`. -/
def Service.inState (st : ServiceState) : Service → Bool
  | .installed st' _ => st' == st
  | .absent => false

/-- The service each position of the loop calls for: none before the installer of an install
has run and from a pause's uninstall until the reinstall, installed and starting or running
while an install waits, and running from the end of the wait while the loop supervises it. -/
def LoopPc.service (pc : LoopPc) (svc : Service) : Bool :=
  match pc with
  | .start | .preRead | .preSend | .mgrConnect | .paused | .checkDisconnect => svc == .absent
  | .uninstall site _ =>
    match site with
    | .reconnect => svc == .absent
    | .pause => svc.inState .running
    | _ => true
  | .install _ p =>
    match p with
    | .lock | .generate | .exec => svc == .absent
    | .wait => svc.inState .pending || svc.inState .running
    | .dns => svc.inState .running
    | _ => true
  | .postCheck | .makeChan | .poll | .select | .restartCheck => svc.inState .running
  | _ => true

end IvpnDaemon.WireGuard

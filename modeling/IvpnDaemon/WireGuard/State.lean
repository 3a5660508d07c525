import IvpnDaemon.Net.IP

/-!
# The Windows WireGuard adapter: state

One `WireGuard` object on Windows, the goroutines that act on it and the parts of the
system they share: the fields of `internalVariables`, the channel `connect` makes, the
package mutex `_globalInitMutex`, the tunnel service, the configuration file and the DNS
override. The goroutine running `connect` is the loop; every concurrent control call
(`pause`, `resume`, `disconnect`, `setManualDNS`, `resetManualDNS`) is a caller.
-/

namespace IvpnDaemon.WireGuard
open Net

inductive Operation
  | pause
  | resume
  deriving DecidableEq, Repr

/-- What the service manager, the installer or the DNS collaborator answers to one call. To a
status query `ok` is `Running`, `stopped` is `Stopped` and `pending` any other state; `gone` is
one of the errors the supervision loop stops on (the service does not exist, is disabled, not
active or not found); `fail` is any other error, or a timeout. -/
inductive Reply
  | ok
  | stopped
  | pending
  | gone
  | fail
  deriving DecidableEq, Repr

inductive ServiceState
  | pending
  | running
  | stopped
  deriving DecidableEq, Repr

/-- The tunnel service `WireGuardTunnel$IVPN`, with the DNS address of the configuration
file it was installed from. -/
inductive Service
  | absent
  | installed (state : ServiceState) (dns : IP)
  deriving DecidableEq, Repr

structure ConnectParams where
  hostLocalIP : IP
  clientLocalIP : IP
  deriving DecidableEq, Repr

/-- The DNS address `getOSSpecificConfigParams` writes: the manual one, else the host's. -/
def configDNS (manualDNS : Option IP) (p : ConnectParams) : IP := manualDNS.getD p.hostLocalIP

def getOSSpecificConfigParams (manualDNS : Option IP) (p : ConnectParams) :
    List String × List String :=
  (["DNS = " ++ (configDNS manualDNS p).toString, "Address = " ++ p.clientLocalIP.toString],
    ["AllowedIPs = 128.0.0.0/1, 0.0.0.0/1"])

/-- Where `installService` was called from: the first install of `connect`, the resume path
of the supervision loop, or the restart for new connection parameters. -/
inductive InstallSite
  | connect
  | resume
  | restart
  deriving DecidableEq, Repr

inductive UninstallSite
  /-- `disconnectInternal` at the start of `connect` -/
  | reconnect
  /-- the disconnection requested while the first install ran -/
  | disconnect
  | pause
  | restart
  deriving DecidableEq, Repr

inductive UninstallPc
  | lock
  | body
  deriving DecidableEq, Repr

/-- `installService`: the mutex, `generateAndSaveConfigFile`, `/installtunnelservice`, the
waits until the service is installed and running, the DNS collaborator, and the return. A
failed install releases the mutex, removes the configuration file and runs its deferred
cleanup, `disconnectInternal` on the loop's own goroutine: `requireOperation(resume)` reads
`pauseRequireChan`, sends, then calls `uninstallService`. -/
inductive InstallPc
  | lock
  | generate
  | exec
  | wait
  | dns
  | cleanupRead
  | cleanupSend
  | cleanupUninstall (u : UninstallPc)
  deriving DecidableEq, Repr

def InstallPc.cleanup : InstallPc → Bool
  | .cleanupRead | .cleanupSend | .cleanupUninstall _ => true
  | _ => false

inductive LoopPc
  /-- the check of `isDisconnectRequested` -/
  | start
  /-- `disconnectInternal`: `requireOperation(resume)` reads the channel field, then sends -/
  | preRead
  | preSend
  | uninstall (site : UninstallSite) (u : UninstallPc)
  | mgrConnect
  | install (site : InstallSite) (p : InstallPc)
  /-- the check of `isDisconnectRequested` after the first install -/
  | postCheck
  | makeChan
  /-- the status query at the top of the supervision loop -/
  | poll
  /-- the non-blocking receive -/
  | select
  /-- the blocking receive while paused -/
  | paused
  /-- the check of `isDisconnectRequested` after a non-pause message while paused -/
  | checkDisconnect
  | restartCheck
  /-- the deferred functions of `connect` run; `failed`: it returns an error -/
  | exit (failed : Bool)
  | done (failed : Bool)
  /-- `connect` refused to start and returned its error -/
  | refused
  deriving DecidableEq, Repr

inductive Call
  | pause
  | resume
  | disconnect
  /-- `setManualDNS(addr)`, `none` for a `nil` address -/
  | setManualDNS (addr : Option IP)
  | resetManualDNS
  deriving DecidableEq, Repr

inductive CallerPc
  /-- not started: the first read (or, for `disconnect`, the write of the flag) is next -/
  | start
  /-- `requireOperation`: the read of `pauseRequireChan`, then the send on a non-nil channel -/
  | readChan
  | send
  | uninstall (u : UninstallPc)
  /-- DNS calls: the write of `manualDNS`, `isServiceRunning`, the write of `isRestartRequired` -/
  | write
  | query
  | request
  | done
  deriving DecidableEq, Repr

structure Caller where
  call : Call
  pc : CallerPc
  deriving DecidableEq, Repr

inductive ServiceOp
  | install
  | uninstall
  deriving DecidableEq, Repr

/-- What the properties below observe of a run and the code does not keep. -/
structure History where
  /-- the messages the loop received from the channel, in order -/
  received : List Operation := []
  /-- the service operations begun by the supervision loop (pause, resume, restart) -/
  loopOps : List ServiceOp := []
  /-- some `disconnect` call has returned -/
  disconnectReturned : Bool := false
  /-- `connect` took its first step after that -/
  startedLate : Bool := false
  /-- `connect`'s first `installService` began after that -/
  lateInstall : Bool := false
  /-- since the configuration was last generated, a DNS call that changed `manualDNS`
  returned without requesting a restart, or a restart failed -/
  stale : Bool := false
  /-- the manual DNS the last `installService` gave the DNS collaborator -/
  lastOverride : Option IP := none
  /-- the supervision loop left its `for` on a status answer (`Stopped`, or an error such as
  `ERROR_SERVICE_NOT_ACTIVE`) with the service still installed -/
  stoppedExit : Bool := false
  /-- the final `dns.DeleteManual` of `connect` failed -/
  deleteFailed : Bool := false
  deriving DecidableEq, Repr

/-- The adapter, its goroutines and the world they act on. -/
structure WG where
  manualDNS : Option IP
  isRestartRequired : Bool
  /-- whether the field holds the channel `connect` made (else `nil`) -/
  pauseRequireChan : Bool
  isDisconnectRequested : Bool
  isPaused : Bool
  /-- the one buffered message of the channel -/
  buffer : Option Operation
  mutex : Bool
  connectParams : ConnectParams
  service : Service
  /-- the configuration file, as the DNS address written into it -/
  configFile : Option IP
  dnsOverride : Option IP
  loop : LoopPc
  /-- the loop has registered the deferred reset of `isPaused` -/
  pauseDeferred : Bool
  callers : List Caller
  hist : History
  deriving DecidableEq, Repr

/-- A fresh adapter before `connect`, with the manual DNS set before it. -/
def WG.init (p : ConnectParams) (manualDNS : Option IP) : WG where
  manualDNS := manualDNS
  isRestartRequired := false
  pauseRequireChan := false
  isDisconnectRequested := false
  isPaused := false
  buffer := none
  mutex := false
  connectParams := p
  service := .absent
  configFile := none
  dnsOverride := none
  loop := .start
  pauseDeferred := false
  callers := []
  hist := {}

end IvpnDaemon.WireGuard

import IvpnDaemon.Net.IP

/-!
# Alternate API hosts

The state the API client's mutex guards: the alternate IP list a server-list download
installs, and the alternate that last served a request. Each operation here is one
critical section of that mutex.
-/

namespace IvpnDaemon.Api
open Net

/-- `API`, without its mutex: the two fields the mutex guards. -/
structure API where
  alternateIPs : List IP
  lastGoodAlternateIP : Option IP
  deriving DecidableEq, Repr

/-- `CreateAPI`. -/
def createAPI : API := ⟨[], none⟩

/-- `IsAlternateIPsInitialized`. -/
def API.isAlternateIPsInitialized (a : API) : Bool := 0 < a.alternateIPs.length

/-- The loop of `SetAlternateIPs`: the addresses parsed so far (`ipList`), and whether one
of them is `Equal` to the last good address (`isLastIPExists`). -/
def setAlternateIPsLoop (last : Option IP) : List String → List IP → Bool → List IP × Bool
  | [], ipList, found => (ipList, found)
  | ipStr :: IPs, ipList, found =>
    match parseIP ipStr with
    | none => setAlternateIPsLoop last IPs ipList found
    | some ip => setAlternateIPsLoop last IPs (ipList ++ [ip]) (found || ip.equal (last.getD []))

/-- `SetAlternateIPs`. -/
def API.setAlternateIPs (a : API) (IPs : List String) : API :=
  let r := setAlternateIPsLoop a.lastGoodAlternateIP IPs [] false
  { alternateIPs := r.1
    lastGoodAlternateIP := if r.2 then a.lastGoodAlternateIP else none }

/-- `getAlternateIPs`: the snapshot a request works from. -/
def API.getAlternateIPs (a : API) : Option IP × List IP := (a.lastGoodAlternateIP, a.alternateIPs)

/-- `saveLastGoodAlternateIP`. -/
def API.saveLastGoodAlternateIP (a : API) (lastGoodIP : Option IP) : API :=
  { a with lastGoodAlternateIP := lastGoodIP }

theorem setAlternateIPsLoop_eq (last : Option IP) (IPs : List String) (ipList : List IP)
    (found : Bool) :
    setAlternateIPsLoop last IPs ipList found =
      (ipList ++ IPs.filterMap parseIP,
        found || (IPs.filterMap parseIP).any fun ip => ip.equal (last.getD [])) := by
  induction IPs generalizing ipList found with
  | nil => simp [setAlternateIPsLoop]
  | cons s IPs ih => cases h : parseIP s <;> simp [setAlternateIPsLoop, h, ih, Bool.or_assoc]

/-- `SetAlternateIPs` keeps, in order and with repeats, every string `ParseIP` accepts, and
keeps the last good address exactly when it is `Equal` to one of them. -/
theorem setAlternateIPs_eq (a : API) (IPs : List String) :
    a.setAlternateIPs IPs =
      { alternateIPs := IPs.filterMap parseIP
        lastGoodAlternateIP :=
          if ∃ ip ∈ IPs.filterMap parseIP, (a.lastGoodAlternateIP.getD []).equal ip
          then a.lastGoodAlternateIP else none } := by
  simp only [API.setAlternateIPs, setAlternateIPsLoop_eq, List.nil_append, Bool.false_or,
    List.any_eq_true, IP.equal_comm (a.lastGoodAlternateIP.getD [])]

/-- After `SetAlternateIPs` the last good address is `nil` or `Equal` to an alternate. -/
theorem setAlternateIPs_lastGood {a : API} {IPs : List String} {x : IP}
    (h : (a.setAlternateIPs IPs).lastGoodAlternateIP = some x) :
    ∃ y ∈ (a.setAlternateIPs IPs).alternateIPs, y.equal x = true := by
  simp only [API.setAlternateIPs, setAlternateIPsLoop_eq, List.nil_append, Bool.false_or] at h ⊢
  split_ifs at h with hex
  · obtain ⟨y, hy, he⟩ := List.any_eq_true.mp hex
    rw [h, Option.getD_some] at he
    exact ⟨y, hy, he⟩

end IvpnDaemon.Api

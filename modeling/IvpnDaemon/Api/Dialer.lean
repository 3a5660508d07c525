import Mathlib.Data.List.Basic

/-!
# The pinned TLS dialer

`makeDialer` dials TLS, then accepts the connection when the SPKI hash of some peer
certificate is pinned. Its results are unnamed, so when the deferred `recover` catches a
panic the dialer returns the zero values of both.
-/

namespace IvpnDaemon.Api

/-- What `x509.MarshalPKIXPublicKey` does with one peer certificate's public key. -/
inductive Marshal
  | der (bytes : List UInt8)
  | error (e : String)
  | panic
  deriving DecidableEq, Repr

/-- What `tls.Dial` does: fail, panic, or hand back a connection whose peer certificates
marshal as `chain` says. -/
inductive Dial
  | error (e : String)
  | panic
  | conn (chain : List Marshal)
  deriving DecidableEq, Repr

structure TlsConfig where
  insecureSkipVerify : Bool
  serverName : String

inductive DialError
  /-- `tls.Dial`'s own error -/
  | dial (e : String)
  /-- "Certificate check error: pinned certificate key not found", wrapping the last
  marshalling error if there was one -/
  | pinnedKeyNotFound (lastErr : Option String)
  deriving DecidableEq, Repr

/-- What a dial returns, and whether the connection `tls.Dial` opened is left open without
being returned. -/
structure DialResult where
  conn : Bool
  err : Option DialError
  leaked : Bool
  deriving DecidableEq, Repr

def findPinnedKey : List String → String → Bool
  | [], _ => false
  | hash :: certHashes, h => if hash = h then true else findPinnedKey certHashes h

inductive ChainCheck
  | pinned
  | miss (lastErr : Option String)
  | panic
  deriving DecidableEq, Repr

/-- The loop over `connstate.PeerCertificates`; `spkiHash` is the base64 of the SHA-256 of
a DER encoding. -/
def checkChain (spkiHash : List UInt8 → String) (certHashes : List String) :
    List Marshal → Option String → ChainCheck
  | [], lastErr => .miss lastErr
  | .panic :: _, _ => .panic
  | .error e :: chain, _ => checkChain spkiHash certHashes chain (some e)
  | .der d :: chain, lastErr =>
    if findPinnedKey certHashes (spkiHash d) then .pinned
    else checkChain spkiHash certHashes chain lastErr

/-- The dialer `makeDialer(certHashes, skipCAVerification, serverName)` returns, called on
`network` and `addr`, with `tlsDial` the world's answer to `tls.Dial`. -/
def makeDialer (tlsDial : String → String → TlsConfig → Dial) (spkiHash : List UInt8 → String)
    (certHashes : List String) (skipCAVerification : Bool) (serverName : String)
    (network addr : String) : DialResult :=
  match tlsDial network addr ⟨skipCAVerification, serverName⟩ with
  | .error e => ⟨false, some (.dial e), false⟩
  | .panic => ⟨false, none, false⟩
  | .conn chain =>
    match checkChain spkiHash certHashes chain none with
    | .pinned => ⟨true, none, false⟩
    | .miss lastErr => ⟨false, some (.pinnedKeyNotFound lastErr), true⟩
    | .panic => ⟨false, none, true⟩

theorem findPinnedKey_iff (certHashes : List String) (h : String) :
    findPinnedKey certHashes h = true ↔ h ∈ certHashes := by
  induction certHashes with
  | nil => simp [findPinnedKey]
  | cons hash certHashes ih =>
    by_cases e : hash = h
    · simp [findPinnedKey, e]
    · simp [findPinnedKey, e, ih, Ne.symm e]

/-- Without a panic in the loop, it finds a pinned key exactly when some certificate's key
marshals and hashes to a pin. -/
theorem checkChain_pinned_iff (spkiHash : List UInt8 → String) (certHashes : List String)
    (chain : List Marshal) (lastErr : Option String) (hp : Marshal.panic ∉ chain) :
    checkChain spkiHash certHashes chain lastErr = .pinned ↔
      ∃ d, Marshal.der d ∈ chain ∧ spkiHash d ∈ certHashes := by
  induction chain generalizing lastErr with
  | nil => simp [checkChain]
  | cons m chain ih =>
    simp only [List.mem_cons, not_or] at hp
    cases m with
    | der d =>
      by_cases hd : spkiHash d ∈ certHashes
      · simp [checkChain, (findPinnedKey_iff _ _).mpr hd, hd]
      · have : findPinnedKey certHashes (spkiHash d) = false :=
          Bool.eq_false_iff.mpr fun h => hd ((findPinnedKey_iff _ _).mp h)
        simp [checkChain, this, ih _ hp.2, hd]
    | error e => simp [checkChain, ih _ hp.2]
    | panic => exact absurd rfl hp.1

theorem checkChain_ne_panic (spkiHash : List UInt8 → String) (certHashes : List String)
    (chain : List Marshal) (lastErr : Option String) (hp : Marshal.panic ∉ chain) :
    checkChain spkiHash certHashes chain lastErr ≠ .panic := by
  induction chain generalizing lastErr with
  | nil => simp [checkChain]
  | cons m chain ih =>
    simp only [List.mem_cons, not_or] at hp
    cases m with
    | der d =>
      by_cases hd : findPinnedKey certHashes (spkiHash d) <;> simp [checkChain, hd, ih _ hp.2]
    | error e => simpa [checkChain] using ih _ hp.2
    | panic => exact absurd rfl hp.1

/-- When nothing panics, the dialer returns a live connection and no error exactly when
`tls.Dial` succeeded and some certificate's key hashes to a pin, and otherwise no
connection and an error. -/
theorem makeDialer_of_no_panic (tlsDial : String → String → TlsConfig → Dial)
    (spkiHash : List UInt8 → String) (certHashes : List String) (skipCAVerification : Bool)
    (serverName network addr : String)
    (hp : ∀ chain, tlsDial network addr ⟨skipCAVerification, serverName⟩ = .conn chain →
      Marshal.panic ∉ chain)
    (hd : tlsDial network addr ⟨skipCAVerification, serverName⟩ ≠ .panic) :
    let r := makeDialer tlsDial spkiHash certHashes skipCAVerification serverName network addr
    (r.conn = true ↔ ∃ chain, tlsDial network addr ⟨skipCAVerification, serverName⟩ = .conn chain ∧
      ∃ d, Marshal.der d ∈ chain ∧ spkiHash d ∈ certHashes) ∧
    (r.conn = true ∧ r.err = none ∨ r.conn = false ∧ r.err ≠ none) := by
  simp only [makeDialer]
  cases h : tlsDial network addr ⟨skipCAVerification, serverName⟩ with
  | error e => simp
  | panic => exact absurd h hd
  | conn chain =>
    have hpin := checkChain_pinned_iff spkiHash certHashes chain none (hp chain h)
    cases hc : checkChain spkiHash certHashes chain none with
    | pinned => simpa [hc] using hpin
    | miss lastErr => simpa [hc] using hpin
    | panic => exact absurd hc (checkChain_ne_panic spkiHash certHashes chain none (hp chain h))

theorem pinned_dial_accepted :
    let r := makeDialer (fun _ _ _ => .conn [.der [1]]) (fun _ => "pinned") ["pinned"] false
      "api.ivpn.net" "tcp" "10.0.0.1:443"
    r.conn = true ∧ r.err = none := by
  have h := makeDialer_of_no_panic (fun _ _ _ => .conn [.der [1]]) (fun _ => "pinned") ["pinned"]
    false "api.ivpn.net" "tcp" "10.0.0.1:443" (fun chain h => by cases h; decide) (by decide)
  have hc := h.1.mpr ⟨[.der [1]], rfl, [1], by simp, by simp⟩
  exact ⟨hc, by simpa [hc] using h.2⟩

/-- On a pin miss the dialer returns an error but leaves the dialed connection open. -/
theorem makeDialer_pin_miss_leaks :
    makeDialer (fun _ _ _ => .conn [.der [1]]) (fun _ => "unpinned") ["pinned"] false
      "api.ivpn.net" "tcp" "10.0.0.1:443" = ⟨false, some (.pinnedKeyNotFound none), true⟩ := by
  decide

/-- A panic inside `tls.Dial` is recovered into no connection and no error. -/
theorem makeDialer_panic_no_error :
    makeDialer (fun _ _ _ => .panic) (fun _ => "") [] false "api.ivpn.net" "tcp"
      "10.0.0.1:443" = ⟨false, none, false⟩ := by
  decide

end IvpnDaemon.Api

import Mathlib.Data.List.DropRight

/-!
# VPN states and `ParseState`

`ParseState` reads the state OpenVPN reports: it trims spaces, tabs, `;`, `,` and `.` from
both ends with `strings.Trim` and looks the rest up among the ten state names of its `switch`.
A Go string is any sequence of bytes, so strings are byte lists here, and an error is its
message.

The main result: a string parses exactly when it is one of the ten names padded on both sides
with bytes of the cutset, it then gives the state that name stands for (never
`DISCONNECTED`), and padding never changes the result, errors included.
-/

namespace IvpnDaemon.Vpn

/-- `vpn.State`. -/
inductive State
  | disconnected
  | connecting
  | wait
  | auth
  | getConfig
  | assignIP
  | addRoutes
  | connected
  | reconnecting
  | tcpConnect
  | exiting
  deriving DecidableEq, Repr

/-- The bytes of a string literal: the UTF-8 encoding of each character, as `String.toUTF8`
writes them. -/
def bytes (s : String) : List UInt8 := s.toList.flatMap String.utf8EncodeChar

/-- `strings.Trim` for a cutset of ASCII bytes: the leading, then the trailing bytes of the
cutset are removed. Go trims by runes, but no byte of a multi-byte or invalid sequence is
ASCII, so on such a cutset the runes it removes are exactly these bytes. -/
def trim (s cutset : List UInt8) : List UInt8 :=
  if s = [] ∨ cutset = [] then s
  else (s.dropWhile (· ∈ cutset)).rdropWhile (· ∈ cutset)

/-- The cutset of `ParseState`: space, tab, `;`, `,` and `.`. -/
def stateCutset : List UInt8 := bytes " \t;,."

/-- The cases of the `switch` of `ParseState`, in order, with the state each one returns. -/
def stateNames : List (String × State) :=
  [("CONNECTING", .connecting), ("WAIT", .wait), ("AUTH", .auth), ("GET_CONFIG", .getConfig),
    ("ASSIGN_IP", .assignIP), ("ADD_ROUTES", .addRoutes), ("CONNECTED", .connected),
    ("RECONNECTING", .reconnecting), ("TCP_CONNECT", .tcpConnect), ("EXITING", .exiting)]

/-- `ParseState`: the state of the first case equal to the trimmed string, with no error, or
`DISCONNECTED` with the error `unexpected state:` followed by the trimmed string. -/
def parseState (stateStr : List UInt8) : State × Option (List UInt8) :=
  let stateStr := trim stateStr stateCutset
  match stateNames.find? (fun n => bytes n.1 = stateStr) with
  | some (_, st) => (st, none)
  | none => (.disconnected, some (bytes "unexpected state:" ++ stateStr))

/-- `s` is `t` with bytes of the cutset before and after it. -/
def Padded (s t : List UInt8) : Prop :=
  ∃ p q, (∀ b ∈ p, b ∈ stateCutset) ∧ (∀ b ∈ q, b ∈ stateCutset) ∧ s = p ++ t ++ q

/-! ## Trimming -/

theorem trim_stateCutset (s : List UInt8) :
    trim s stateCutset = (s.dropWhile (· ∈ stateCutset)).rdropWhile (· ∈ stateCutset) := by
  unfold trim
  split
  · rename_i h
    rcases h with rfl | h
    · rfl
    · exact absurd h (by decide)
  · rfl

theorem rdropWhile_append_of_all {p : UInt8 → Bool} (l : List UInt8) {q : List UInt8}
    (hq : ∀ b ∈ q, p b) : (l ++ q).rdropWhile p = l.rdropWhile p := by
  have hr : ∀ b ∈ q.reverse, p b := by simpa using hq
  simp [List.rdropWhile, List.dropWhile_append_of_pos hr]

/-- Padding never reaches the trimmed string. -/
theorem trim_padded {s p q : List UInt8} (hp : ∀ b ∈ p, b ∈ stateCutset)
    (hq : ∀ b ∈ q, b ∈ stateCutset) :
    trim (p ++ s ++ q) stateCutset = trim s stateCutset := by
  rw [trim_stateCutset, trim_stateCutset, List.append_assoc,
    List.dropWhile_append_of_pos (by simpa using hp), List.dropWhile_append]
  split
  · rename_i h
    simp only [List.isEmpty_iff] at h
    rw [h, List.dropWhile_eq_nil_iff.mpr (by simpa using hq)]
  · exact rdropWhile_append_of_all _ (by simpa using hq)

/-- Every string is its trim, padded. -/
theorem padded_trim (s : List UInt8) : Padded s (trim s stateCutset) := by
  rw [trim_stateCutset]
  refine ⟨s.takeWhile (· ∈ stateCutset), (s.dropWhile (· ∈ stateCutset)).rtakeWhile
    (· ∈ stateCutset), fun b hb => by simpa using List.mem_takeWhile_imp hb,
    fun b hb => by simpa using List.mem_rtakeWhile_imp hb, ?_⟩
  rw [List.append_assoc]
  conv_lhs => rw [← List.takeWhile_append_dropWhile (· ∈ stateCutset) s]
  congr 1
  simp [List.rdropWhile, List.rtakeWhile, ← List.reverse_append]

/-- A string with no byte of the cutset is its own trim. -/
theorem trim_of_forall_not_mem {t : List UInt8} (ht : ∀ b ∈ t, b ∉ stateCutset) :
    trim t stateCutset = t := by
  rw [trim_stateCutset, List.dropWhile_eq_self_iff.mpr, List.rdropWhile_eq_self_iff.mpr]
  · intro hl
    simpa using ht _ (List.getLast_mem hl)
  · intro hl
    simpa using ht _ (List.getElem_mem hl)

/-! ## The names of the `switch` -/

theorem stateNames_no_cutset : ∀ n ∈ stateNames, ∀ b ∈ bytes n.1, b ∉ stateCutset := by
  decide

theorem stateNames_bytes_injective :
    ∀ n ∈ stateNames, ∀ m ∈ stateNames, bytes n.1 = bytes m.1 → n = m := by
  decide

theorem stateNames_ne_disconnected : ∀ n ∈ stateNames, n.2 ≠ .disconnected := by
  decide

/-- The lookup of a name of the `switch` finds its own case. -/
theorem find?_stateNames {t : String} {st : State} (h : (t, st) ∈ stateNames) :
    stateNames.find? (fun n => bytes n.1 = bytes t) = some (t, st) := by
  cases hf : stateNames.find? (fun n => bytes n.1 = bytes t) with
  | none => exact absurd h (by simpa using List.find?_eq_none.mp hf (t, st))
  | some n =>
    have hn := List.mem_of_find?_eq_some hf
    rw [stateNames_bytes_injective n hn _ h (by simpa using List.find?_some hf)]

/-- A case the lookup finds is a name of the `switch` the string is padded from. -/
theorem padded_of_find? {s : List UInt8} {n : String × State}
    (hf : stateNames.find? (fun n => bytes n.1 = trim s stateCutset) = some n) :
    n ∈ stateNames ∧ Padded s (bytes n.1) := by
  have h : bytes n.1 = trim s stateCutset := by simpa using List.find?_some hf
  exact ⟨List.mem_of_find?_eq_some hf, h ▸ padded_trim s⟩

/-- `parseState` parses exactly the padded names of its `switch`, each to its own state and
never to `DISCONNECTED`; any other string gives `DISCONNECTED` and an error; and padding with
bytes of the cutset never changes the result. -/
theorem parseState_eq_iff_padded (s : List UInt8) :
    (∀ st, parseState s = (st, none) ↔
      ∃ t, (t, st) ∈ stateNames ∧ Padded s (bytes t)) ∧
    (∀ st, parseState s = (st, none) → st ≠ .disconnected) ∧
    ((¬ ∃ t st, (t, st) ∈ stateNames ∧ Padded s (bytes t)) →
      ∃ e, parseState s = (.disconnected, some e)) ∧
    (∀ p q, (∀ b ∈ p, b ∈ stateCutset) → (∀ b ∈ q, b ∈ stateCutset) →
      parseState (p ++ s ++ q) = parseState s) := by
  have hparsed : ∀ st, parseState s = (st, none) →
      ∃ t, (t, st) ∈ stateNames ∧ Padded s (bytes t) := by
    intro st h
    cases hf : stateNames.find? (fun n => bytes n.1 = trim s stateCutset) with
    | none => simp [parseState, hf] at h
    | some n =>
      simp only [parseState, hf, Prod.mk.injEq] at h
      exact ⟨n.1, h.1 ▸ (padded_of_find? hf).1, (padded_of_find? hf).2⟩
  refine ⟨fun st => ⟨hparsed st, ?_⟩, fun st h => ?_, fun hn => ?_, fun p q hp hq => ?_⟩
  · rintro ⟨t, ht, p, q, hp, hq, rfl⟩
    simp only [parseState, trim_padded hp hq, trim_of_forall_not_mem (stateNames_no_cutset _ ht),
      find?_stateNames ht]
  · obtain ⟨t, ht, -⟩ := hparsed st h
    exact stateNames_ne_disconnected _ ht
  · cases hf : stateNames.find? (fun n => bytes n.1 = trim s stateCutset) with
    | none =>
      exact ⟨bytes "unexpected state:" ++ trim s stateCutset, by simp only [parseState, hf]⟩
    | some n => exact absurd ⟨n.1, n.2, padded_of_find? hf⟩ hn
  · simp only [parseState, trim_padded hp hq]

example : parseState (bytes " CONNECTED;\t") = (.connected, none) := by decide
example : parseState (bytes "GET CONFIG") =
    (.disconnected, some (bytes "unexpected state:GET CONFIG")) := by decide

/-- Padding an unknown state keeps its error. -/
theorem parseState_padded_error :
    parseState (bytes ". " ++ bytes "GET CONFIG" ++ bytes ",") =
      (.disconnected, some (bytes "unexpected state:GET CONFIG")) :=
  ((parseState_eq_iff_padded _).2.2.2 _ _ (by decide) (by decide)).trans (by decide)

/-! ## `State.String` and the round trip -/

/-- The value of each constant of the `iota` block. -/
def State.toInt : State → Int
  | .disconnected => 0
  | .connecting => 1
  | .wait => 2
  | .auth => 3
  | .getConfig => 4
  | .assignIP => 5
  | .addRoutes => 6
  | .connected => 7
  | .reconnecting => 8
  | .tcpConnect => 9
  | .exiting => 10

/-- `State.String` of the `int` a `State` is: `<Unknown>` outside the constants, else the
constant's entry of the table. -/
def stateString (s : Int) : String :=
  if s < 0 ∨ s > 10 then "<Unknown>"
  else ["DISCONNECTED", "CONNECTING", "WAIT", "AUTH", "GETCONFIG", "ASSIGNIP", "ADDROUTES",
    "CONNECTED", "RECONNECTING", "TCP_CONNECT", "EXITING"].getD s.toNat ""

/-- `GETCONFIG`, as `State.String` prints it, is no case of `ParseState`. -/
example : parseState (bytes (stateString State.getConfig.toInt)) =
    (.disconnected, some (bytes "unexpected state:GETCONFIG")) := by decide

end IvpnDaemon.Vpn

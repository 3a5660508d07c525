import Mathlib.Data.List.Basic

/-!
# Go's `net.IP`

The address type the API client keeps its alternate hosts in and the WireGuard adapter
writes into its configuration: byte slices with `Equal`, `To4`, `String` and `ParseIP` as
the Go 1.13 standard library computes them. A Go `nil` address is `none`.
-/

namespace IvpnDaemon.Net

/-- `net.IP`: the bytes of an address, 4 of them or 16. -/
abbrev IP := List UInt8

/-- `v4InV6Prefix`: the first twelve bytes of an IPv4 address in its 16-byte form. -/
def v4InV6Prefix : List UInt8 := [0, 0, 0, 0, 0, 0, 0, 0, 0, 0, 0xff, 0xff]

/-- `net.IPv4`, which always builds the 16-byte form. -/
def IPv4 (a b c d : UInt8) : IP := v4InV6Prefix ++ [a, b, c, d]

/-- `IP.Equal`: the same bytes, or one IPv4 address in its 4- and 16-byte forms. -/
def IP.equal (ip x : IP) : Bool :=
  if ip.length = x.length then ip == x
  else if ip.length = 4 ∧ x.length = 16 then x.take 12 == v4InV6Prefix && ip == x.drop 12
  else if ip.length = 16 ∧ x.length = 4 then ip.take 12 == v4InV6Prefix && ip.drop 12 == x
  else false

theorem IP.equal_comm (ip x : IP) : ip.equal x = x.equal ip := by
  unfold IP.equal
  by_cases h : ip.length = x.length
  · simp only [h, if_true, Bool.beq_comm]
  · have h' : x.length ≠ ip.length := Ne.symm h
    simp only [h, h', if_false]
    by_cases h1 : ip.length = 4 ∧ x.length = 16
    · have : ¬ (x.length = 4 ∧ ip.length = 16) := by omega
      rw [if_pos h1, if_neg this, if_pos ⟨h1.2, h1.1⟩, Bool.beq_comm (a := ip)]
    · by_cases h2 : ip.length = 16 ∧ x.length = 4
      · rw [if_neg h1, if_pos h2, if_pos ⟨h2.2, h2.1⟩, Bool.beq_comm (a := x)]
      · have h3 : ¬ (x.length = 4 ∧ ip.length = 16) := by omega
        have h4 : ¬ (x.length = 16 ∧ ip.length = 4) := by omega
        rw [if_neg h1, if_neg h2, if_neg h3, if_neg h4]

@[simp] theorem IP.equal_self (ip : IP) : ip.equal ip = true := by simp [IP.equal]

/-- `IP.To4`: the 4-byte form of an IPv4 address, `nil` for any other address. -/
def IP.to4 (ip : IP) : Option IP :=
  if ip.length = 4 then some ip
  else if ip.length = 16 ∧ ip.take 12 = v4InV6Prefix then some (ip.drop 12)
  else none

/-- `To4` gives four bytes. -/
theorem IP.to4_length {ip p4 : IP} (h : ip.to4 = some p4) : p4.length = 4 := by
  unfold IP.to4 at h
  split_ifs at h with h1 h2 <;> cases h
  · exact h1
  · simp [h2.1]

/-! ## Parsing -/

/-- `big`: where `dtoi` and `xtoi` stop reading. -/
def big : Nat := 0xFFFFFF

/-- The digit loop of `dtoi`: the value read so far, the number of digits, the rest. -/
def dtoiLoop : Nat → Nat → List Char → Option (Nat × Nat × List Char)
  | n, i, c :: s =>
    if '0' ≤ c ∧ c ≤ '9' then
      if big ≤ n * 10 + (c.toNat - '0'.toNat) then none
      else dtoiLoop (n * 10 + (c.toNat - '0'.toNat)) (i + 1) s
    else some (n, i, c :: s)
  | n, i, [] => some (n, i, [])

/-- `dtoi`: the decimal number at the start of `s` and what follows it. -/
def dtoi (s : List Char) : Option (Nat × List Char) :=
  match dtoiLoop 0 0 s with
  | some (n, i, rest) => if i = 0 then none else some (n, rest)
  | none => none

/-- The digit value `xtoi` gives a character. -/
def hexValue (c : Char) : Option Nat :=
  if '0' ≤ c ∧ c ≤ '9' then some (c.toNat - '0'.toNat)
  else if 'a' ≤ c ∧ c ≤ 'f' then some (c.toNat - 'a'.toNat + 10)
  else if 'A' ≤ c ∧ c ≤ 'F' then some (c.toNat - 'A'.toNat + 10)
  else none

/-- The digit loop of `xtoi`. -/
def xtoiLoop : Nat → Nat → List Char → Option (Nat × Nat × List Char)
  | n, i, c :: s =>
    match hexValue c with
    | some v => if big ≤ n * 16 + v then none else xtoiLoop (n * 16 + v) (i + 1) s
    | none => some (n, i, c :: s)
  | n, i, [] => some (n, i, [])

/-- `xtoi`: the hexadecimal number at the start of `s` and what follows it. -/
def xtoi (s : List Char) : Option (Nat × List Char) :=
  match xtoiLoop 0 0 s with
  | some (n, i, rest) => if i = 0 then none else some (n, rest)
  | none => none

/-- One octet of `parseIPv4`: a decimal number of at most `0xFF`. -/
def octet (s : List Char) : Option (UInt8 × List Char) :=
  match dtoi s with
  | some (n, rest) => if 0xFF < n then none else some (n.toUInt8, rest)
  | none => none

/-- The iterations `i > 0` of the loop of `parseIPv4`: `k` octets, each after a dot. -/
def dottedOctets : Nat → List Char → Option (List UInt8 × List Char)
  | 0, s => some ([], s)
  | _ + 1, [] => none
  | k + 1, c :: s =>
    if c = '.' then
      match octet s with
      | some (b, rest) => (dottedOctets k rest).map fun r => (b :: r.1, r.2)
      | none => none
    else none

/-- `parseIPv4`: `d.d.d.d`, returned in the 16-byte form. -/
def parseIPv4 (s : List Char) : Option IP :=
  if s = [] then none else
  match octet s with
  | some (a, rest) =>
    match dottedOctets 3 rest with
    | some ([b, c, d], []) => some (IPv4 a b c d)
    | _ => none
  | none => none

/-- The group loop of `parseIPv6`. `acc` holds `ip[:i]` and `e` the position of the
ellipsis; the loop ends with both and the input it did not read. -/
def parseIPv6Loop : Nat → List UInt8 → Option Nat → List Char →
    Option (List UInt8 × Option Nat × List Char)
  | 0, acc, e, s => some (acc, e, s)
  | fuel + 1, acc, e, s =>
    if acc.length < 16 then
      match xtoi s with
      | none => none
      | some (n, rest) =>
        if 0xFFFF < n then none
        else if rest.head? = some '.' then
          if e.isNone ∧ acc.length ≠ 12 then none
          else if 16 < acc.length + 4 then none
          else (parseIPv4 s).map fun ip4 => (acc ++ ip4.drop 12, e, [])
        else
          let acc := acc ++ [(n / 256).toUInt8, (n % 256).toUInt8]
          match rest with
          | [] => some (acc, e, [])
          | [_] => none
          | c :: c' :: r =>
            if c ≠ ':' then none
            else if c' = ':' then
              if e.isSome then none
              else if r = [] then some (acc, some acc.length, [])
              else parseIPv6Loop fuel acc (some acc.length) r
            else parseIPv6Loop fuel acc e (c' :: r)
    else some (acc, e, s)

/-- The end of `parseIPv6`: the ellipsis widened with zeros to fill sixteen bytes, and
refused if there is nothing left for it to stand for. -/
def expandEllipsis (acc : List UInt8) (e : Option Nat) : Option IP :=
  if acc.length < 16 then
    e.map fun k => acc.take k ++ List.replicate (16 - acc.length) 0 ++ acc.drop k
  else if e.isSome then none else some acc

/-- The groups of `parseIPv6` once a leading ellipsis has been read. -/
def parseIPv6Groups (e : Option Nat) (s : List Char) : Option IP :=
  match parseIPv6Loop 8 [] e s with
  | some (acc, e, []) => expandEllipsis acc e
  | _ => none

/-- `parseIPv6`: an IPv6 literal as RFC 4291 writes it. -/
def parseIPv6 : List Char → Option IP
  | ':' :: ':' :: [] => some (List.replicate 16 0)
  | ':' :: ':' :: s => parseIPv6Groups (some 0) s
  | s => parseIPv6Groups none s

/-- The scan of `ParseIP` for its first `.` or `:`, which chooses the parser. -/
def parseIPScan (s : List Char) : List Char → Option IP
  | [] => none
  | c :: r => if c = '.' then parseIPv4 s else if c = ':' then parseIPv6 s else parseIPScan s r

/-- `net.ParseIP`. -/
def parseIP (s : String) : Option IP := parseIPScan s.toList s.toList

example : parseIP "10.0.0.1" = some (IPv4 10 0 0 1) := by decide
example : parseIP "256.0.0.1" = none := by decide
example : parseIP "::1" = some (List.replicate 15 0 ++ [1]) := by decide

/-! ## Printing -/

/-- `hexDigit`. -/
def hexDigit (v : Nat) : Char :=
  ['0', '1', '2', '3', '4', '5', '6', '7', '8', '9', 'a', 'b', 'c', 'd', 'e', 'f'].getD v '0'

/-- `ubtoa`: a byte in decimal. -/
def ubtoa (b : UInt8) : List Char :=
  let v := b.toNat
  let digit := fun d => Char.ofNat (d + 48)
  if v < 10 then [digit v]
  else if v < 100 then [digit (v / 10), digit (v % 10)]
  else [digit (v / 100), digit (v / 10 % 10), digit (v % 10)]

/-- `appendHex`: `i` in hexadecimal without leading zeros. -/
def appendHex (i : Nat) : List Char :=
  if i = 0 then ['0'] else
  (List.range 8).reverse.filterMap fun j =>
    if 0 < i >>> (j * 4) then some (hexDigit (i >>> (j * 4) % 16)) else none

/-- `hexString`: every byte as two hexadecimal digits. -/
def hexString : List UInt8 → List Char
  | [] => []
  | b :: bs => hexDigit (b.toNat / 16) :: hexDigit (b.toNat % 16) :: hexString bs

/-- The 16-bit groups of an address, two bytes each. -/
def groups : List UInt8 → List Nat
  | a :: b :: r => (a.toNat * 256 + b.toNat) :: groups r
  | _ => []

/-- The search of `IP.String` for the first longest run of zero groups, from group `i`,
as the group interval `[e0, e1)`; after a run the scan resumes past the group that ends
it, as Go's `i = j` does. -/
def zeroRun : Nat → Nat → List Nat → Nat × Nat → Nat × Nat
  | 0, _, _, best => best
  | _ + 1, _, [], best => best
  | fuel + 1, i, g :: gs, (e0, e1) =>
    let r := ((g :: gs).takeWhile (· = 0)).length
    if 0 < r ∧ e1 - e0 < r then zeroRun fuel (i + r + 1) ((g :: gs).drop (r + 1)) (i, i + r)
    else zeroRun fuel (i + 1) gs (e0, e1)

/-- Groups written in hexadecimal and joined by colons. -/
def hexGroups (gs : List Nat) : List Char := List.intercalate [':'] (gs.map appendHex)

/-- `IP.String`. The printing loop writes the groups before the longest zero run, `::`,
then the groups after it; a run of one group is not shortened. -/
def IP.toString (ip : IP) : String :=
  if ip.length = 0 then "<nil>" else
  match ip.to4 with
  | some p4 => String.mk (List.intercalate ['.'] (p4.map ubtoa))
  | none =>
    if ip.length ≠ 16 then String.mk ('?' :: hexString ip) else
    let gs := groups ip
    let (e0, e1) := zeroRun 9 0 gs (0, 0)
    if e1 - e0 ≤ 1 then String.mk (hexGroups gs)
    else String.mk (hexGroups (gs.take e0) ++ [':', ':'] ++ hexGroups (gs.drop e1))

example : (IPv4 10 0 0 1).toString = "10.0.0.1" := by decide
example : (List.replicate 15 0 ++ [1] : IP).toString = "::1" := by decide

/-! ## What `IP.String` writes

No branch of `IP.String` writes a `/`, and none starts with a `.`: an address literal is one
element of a URL path. -/

theorem mem_intercalate {α : Type} {sep : List α} {ls : List (List α)} {c : α}
    (h : c ∈ sep.intercalate ls) : c ∈ sep ∨ ∃ l ∈ ls, c ∈ l := by
  match ls with
  | [] => simp [List.intercalate] at h
  | [l] => exact .inr ⟨l, by simp, by simpa [List.intercalate] using h⟩
  | l :: l' :: ls =>
    simp only [List.intercalate, List.intersperse_cons_cons, List.flatten_cons,
      List.mem_append] at h
    rcases h with h | h | h
    · exact .inr ⟨l, by simp, h⟩
    · exact .inl h
    · rcases mem_intercalate (show c ∈ sep.intercalate (l' :: ls) by
          simpa [List.intercalate] using h) with h | ⟨m, hm, h⟩
      · exact .inl h
      · exact .inr ⟨m, List.mem_cons_of_mem _ hm, h⟩

theorem intercalate_cons {α : Type} (sep l : List α) (ls : List (List α)) :
    ∃ t, sep.intercalate (l :: ls) = l ++ t := by
  cases ls with
  | nil => exact ⟨[], by simp [List.intercalate]⟩
  | cons l' ls =>
    exact ⟨sep ++ sep.intercalate (l' :: ls),
      by simp [List.intercalate, List.intersperse_cons_cons]⟩

theorem hexDigit_ne (v : Nat) : hexDigit v ≠ '/' ∧ hexDigit v ≠ '.' := by
  rcases Nat.lt_or_ge v 16 with h | h
  · exact (by decide : ∀ v < 16, hexDigit v ≠ '/' ∧ hexDigit v ≠ '.') v h
  · rw [hexDigit, List.getD_eq_getElem?_getD, List.getElem?_eq_none (by simpa using h)]
    decide

theorem ubtoa_ne (b : UInt8) : ∀ c ∈ ubtoa b, c ≠ '/' ∧ c ≠ '.' := by
  have hd : ∀ d < 10, Char.ofNat (d + 48) ≠ '/' ∧ Char.ofNat (d + 48) ≠ '.' := by decide
  have hb : b.toNat < 256 := b.toNat_lt_size
  unfold ubtoa
  dsimp only
  split_ifs <;> simp only [List.mem_cons, List.mem_singleton, List.not_mem_nil, or_false] <;>
    rintro c (rfl | rfl | rfl) <;> apply hd <;> omega

theorem ubtoa_ne_nil (b : UInt8) : ubtoa b ≠ [] := by
  unfold ubtoa; dsimp only; split_ifs <;> simp

theorem appendHex_ne (i : Nat) : ∀ c ∈ appendHex i, c ≠ '/' ∧ c ≠ '.' := by
  unfold appendHex
  split_ifs
  · simp
  · simp only [List.mem_filterMap]
    rintro c ⟨j, -, hj⟩
    split_ifs at hj
    cases hj
    exact hexDigit_ne _

theorem appendHex_ne_nil (i : Nat) : appendHex i ≠ [] := by
  unfold appendHex
  split_ifs with h
  · simp
  · simp only [ne_eq, List.filterMap_eq_nil_iff, not_forall]
    exact ⟨0, by simp, by simp; omega⟩

theorem hexString_ne (ip : IP) : ∀ c ∈ hexString ip, c ≠ '/' := by
  induction ip with
  | nil => simp [hexString]
  | cons b bs ih =>
    simp only [hexString, List.mem_cons]
    rintro c (rfl | rfl | h)
    · exact (hexDigit_ne _).1
    · exact (hexDigit_ne _).1
    · exact ih c h

/-- Non-empty groups with neither `/` nor `.`, joined by a separator with no `/`, write no `/`
and start with no `.`. -/
theorem intercalate_literal {sep : List Char} {ls : List (List Char)} (hsep : '/' ∉ sep)
    (hls : ∀ l ∈ ls, l ≠ [] ∧ ∀ c ∈ l, c ≠ '/' ∧ c ≠ '.') :
    '/' ∉ sep.intercalate ls ∧
      (ls ≠ [] → ∃ c r, sep.intercalate ls = c :: r ∧ c ≠ '.') := by
  refine ⟨fun h => ?_, fun hne => ?_⟩
  · rcases mem_intercalate h with h | ⟨l, hl, h⟩
    · exact hsep h
    · exact ((hls l hl).2 _ h).1 rfl
  · obtain ⟨l, ls, rfl⟩ := List.exists_cons_of_ne_nil hne
    obtain ⟨hl, hc⟩ := hls l (List.mem_cons_self _ _)
    obtain ⟨t, ht⟩ := intercalate_cons sep l ls
    obtain ⟨c, r, rfl⟩ := List.exists_cons_of_ne_nil hl
    exact ⟨c, r ++ t, by rw [ht]; rfl, (hc c (List.mem_cons_self _ _)).2⟩

theorem hexGroups_literal (gs : List Nat) :
    '/' ∉ hexGroups gs ∧ (gs ≠ [] → ∃ c r, hexGroups gs = c :: r ∧ c ≠ '.') := by
  simpa using @intercalate_literal [':'] (gs.map appendHex) (by decide)
    (by simpa using fun g _ => ⟨appendHex_ne_nil g, appendHex_ne g⟩)

theorem groups_ne_nil {ip : IP} (h : ip.length = 16) : groups ip ≠ [] := by
  match ip, h with
  | a :: b :: r, _ => simp [groups]

/-- `IP.String` writes no `/`, and its first character is not a `.`. -/
theorem IP.toString_literal (ip : IP) :
    '/' ∉ ip.toString.toList ∧ ∃ c r, ip.toString.toList = c :: r ∧ c ≠ '.' := by
  unfold IP.toString
  split
  · exact ⟨by decide, '<', _, rfl, by decide⟩
  split
  · rename_i p4 h4
    have hp : p4 ≠ [] := List.ne_nil_of_length_pos (by rw [IP.to4_length h4]; decide)
    obtain ⟨hs, hh⟩ := @intercalate_literal ['.'] (p4.map ubtoa) (by decide)
      (by simpa using fun b _ => ⟨ubtoa_ne_nil b, ubtoa_ne b⟩)
    exact ⟨hs, hh (by simpa using hp)⟩
  split
  · exact ⟨by simpa using fun h => hexString_ne ip _ h rfl, '?', _, rfl, by decide⟩
  dsimp only
  generalize zeroRun 9 0 (groups ip) (0, 0) = z
  obtain ⟨e0, e1⟩ := z
  have hgs : groups ip ≠ [] := groups_ne_nil (by omega)
  dsimp only
  split
  · exact ⟨(hexGroups_literal _).1, (hexGroups_literal _).2 hgs⟩
  · refine ⟨by simp [String.toList, (hexGroups_literal _).1], ?_⟩
    by_cases he : (groups ip).take e0 = []
    · exact ⟨':', ':' :: hexGroups ((groups ip).drop e1), by rw [he]; rfl, by decide⟩
    · obtain ⟨c, r, hc, hc'⟩ := (hexGroups_literal _).2 he
      exact ⟨c, r ++ [':', ':'] ++ hexGroups ((groups ip).drop e1),
        by simp [String.toList, hc], hc'⟩

end IvpnDaemon.Net

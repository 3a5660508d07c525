import IvpnDaemon.Net.IP

/-!
# `IP.String` and `ParseIP` read each other

`IP.String` writes an IPv4 address as a dotted quad and any other 16-byte address as eight
hexadecimal groups, with the first longest run of two or more zero groups written `::`.
`ParseIP` reads both forms back. Each reader is stated on what the writer printed followed by
the rest of the input: `dtoi` reads back a byte `ubtoa` wrote, `xtoi` a group `appendHex`
wrote, and the group loop of `parseIPv6` the groups `hexGroups` joined, before and after an
ellipsis. The alternate hosts' URLs and the `DNS =` and `Address =` lines of the WireGuard
configuration are written with `IP.String`.

The main results:

* `parseIP_toString`: for every 4- or 16-byte address, `ParseIP` of its `String` is the
  address, an IPv4 address in its 16-byte form;
* `parseIP_length`: every address `ParseIP` returns has sixteen bytes, so the `String` of
  such an address reads back as the address itself.
-/

namespace IvpnDaemon.Net

/-- What may follow a number in an address literal: the end, a `.` or a `:`. -/
def EndsNumber (rest : List Char) : Prop := ∀ c ∈ rest.head?, c = '.' ∨ c = ':'

@[simp] theorem toUInt8_toNat (b : UInt8) : b.toNat.toUInt8 = b :=
  UInt8.eq_of_val_eq (by simp [Nat.toUInt8, UInt8.ofNat, UInt8.toNat])

/-! ## Decimal octets -/

theorem decimal_digit : ∀ d < 10, '0' ≤ Char.ofNat (d + 48) ∧ Char.ofNat (d + 48) ≤ '9' ∧
    (Char.ofNat (d + 48)).toNat = d + 48 := by decide

theorem dtoiLoop_stop (n i : Nat) {rest : List Char} (h : EndsNumber rest) :
    dtoiLoop n i rest = some (n, i, rest) := by
  match rest, h with
  | [], _ => rfl
  | c :: r, h =>
    rcases h c rfl with rfl | rfl <;> rfl

theorem dtoiLoop_digit {n i d : Nat} (hd : d < 10) (hn : n * 10 + d < big) (s : List Char) :
    dtoiLoop n i (Char.ofNat (d + 48) :: s) = dtoiLoop (n * 10 + d) (i + 1) s := by
  obtain ⟨h0, h9, hv⟩ := decimal_digit d hd
  rw [dtoiLoop, if_pos ⟨h0, h9⟩, hv, show d + 48 - '0'.toNat = d by rfl, if_neg (by omega)]

theorem octet_ubtoa (b : UInt8) {rest : List Char} (h : EndsNumber rest) :
    octet (ubtoa b ++ rest) = some (b, rest) := by
  have hb : b.toNat < 256 := b.toNat_lt_size
  have hbig : ∀ x < 256, x < big := fun x hx => by unfold big; omega
  unfold octet dtoi ubtoa
  dsimp only
  split_ifs with h1 h2
  · rw [List.singleton_append, dtoiLoop_digit h1 (hbig _ (by omega)), dtoiLoop_stop _ _ h]
    simp [show ¬ 0xFF < b.toNat by omega]
  · rw [List.cons_append, List.singleton_append, dtoiLoop_digit (by omega) (hbig _ (by omega)),
      dtoiLoop_digit (by omega) (hbig _ (by omega)), dtoiLoop_stop _ _ h]
    simp [show ¬ 0xFF < b.toNat by omega, show 0 * 10 + b.toNat / 10 = b.toNat / 10 by omega,
      show b.toNat / 10 * 10 + b.toNat % 10 = b.toNat by omega]
  · rw [List.cons_append, List.cons_append, List.singleton_append,
      dtoiLoop_digit (by omega) (hbig _ (by omega)), dtoiLoop_digit (by omega) (hbig _ (by omega)),
      dtoiLoop_digit (by omega) (hbig _ (by omega)), dtoiLoop_stop _ _ h]
    simp [show ¬ 0xFF < b.toNat by omega,
      show (b.toNat / 100 * 10 + b.toNat / 10 % 10) * 10 + b.toNat % 10 = b.toNat by omega]

theorem ubtoa_digits (b : UInt8) : ∀ c ∈ ubtoa b, '0' ≤ c ∧ c ≤ '9' := by
  have hb : b.toNat < 256 := b.toNat_lt_size
  have hd : ∀ d < 10, '0' ≤ Char.ofNat (d + 48) ∧ Char.ofNat (d + 48) ≤ '9' :=
    fun d h => ⟨(decimal_digit d h).1, (decimal_digit d h).2.1⟩
  unfold ubtoa
  dsimp only
  split_ifs <;> simp only [List.mem_cons, List.mem_singleton, List.not_mem_nil, or_false] <;>
    rintro c (rfl | rfl | rfl) <;> apply hd <;> omega

theorem digit_ne_sep {c : Char} (h0 : '0' ≤ c) (h9 : c ≤ '9') : c ≠ '.' ∧ c ≠ ':' := by
  constructor <;> rintro rfl
  · exact absurd h0 (by decide)
  · exact absurd h9 (by decide)

/-- The scan of `ParseIP` passes over characters that are neither `.` nor `:`. -/
theorem parseIPScan_append {s pre : List Char} (hpre : ∀ c ∈ pre, c ≠ '.' ∧ c ≠ ':')
    (r : List Char) : parseIPScan s (pre ++ r) = parseIPScan s r := by
  induction pre with
  | nil => rfl
  | cons c pre ih =>
    obtain ⟨h1, h2⟩ := hpre c (List.mem_cons_self _ _)
    rw [List.cons_append, parseIPScan, if_neg h1, if_neg h2,
      ih fun c hc => hpre c (List.mem_cons_of_mem _ hc)]

theorem endsNumber_nil : EndsNumber [] := fun _ h => nomatch h

theorem endsNumber_dot (r : List Char) : EndsNumber ('.' :: r) :=
  fun _ h => .inl (Option.some.inj h).symm

theorem endsNumber_colon (r : List Char) : EndsNumber (':' :: r) :=
  fun _ h => .inr (Option.some.inj h).symm

/-- `ParseIP` reads back the dotted quad `IP.String` writes for an IPv4 address, in the 16-byte
form. -/
theorem parseIP_dotted (a b c d : UInt8) :
    parseIP (String.mk (List.intercalate ['.'] ([a, b, c, d].map ubtoa))) =
      some (IPv4 a b c d) := by
  have hs : List.intercalate ['.'] ([a, b, c, d].map ubtoa) =
      ubtoa a ++ '.' :: (ubtoa b ++ '.' :: (ubtoa c ++ '.' :: ubtoa d)) := by
    simp [List.intercalate]
  have hv4 : parseIPv4 (ubtoa a ++ '.' :: (ubtoa b ++ '.' :: (ubtoa c ++ '.' :: ubtoa d))) =
      some (IPv4 a b c d) := by
    have hd := octet_ubtoa d endsNumber_nil
    rw [List.append_nil] at hd
    rw [parseIPv4, if_neg (by simp [ubtoa_ne_nil]), octet_ubtoa a (endsNumber_dot _)]
    simp [dottedOctets, octet_ubtoa _ (endsNumber_dot _), hd]
  unfold parseIP
  rw [hs]
  show parseIPScan _ (ubtoa a ++ '.' :: _) = _
  rw [parseIPScan_append (fun c hc => digit_ne_sep (ubtoa_digits a c hc).1 (ubtoa_digits a c hc).2),
    parseIPScan, if_pos rfl]
  exact hv4

/-! ## Hexadecimal groups -/

theorem hex_digit : ∀ v < 16, hexValue (hexDigit v) = some v := by decide

theorem xtoiLoop_stop (n i : Nat) {rest : List Char} (h : EndsNumber rest) :
    xtoiLoop n i rest = some (n, i, rest) := by
  match rest, h with
  | [], _ => rfl
  | c :: r, h =>
    rcases h c rfl with rfl | rfl <;> rfl

theorem xtoiLoop_digit {n i v : Nat} (hv : v < 16) (hn : n * 16 + v < big) (s : List Char) :
    xtoiLoop n i (hexDigit v :: s) = xtoiLoop (n * 16 + v) (i + 1) s := by
  rw [xtoiLoop, hex_digit v hv]
  simp only [if_neg (show ¬ big ≤ n * 16 + v by omega)]

/-- The digits `appendHex` writes for the positions below `m`. -/
def hexDigitsBelow (n m : Nat) : List Char :=
  (List.range m).reverse.filterMap fun j =>
    if 0 < n >>> (j * 4) then some (hexDigit (n >>> (j * 4) % 16)) else none

theorem shiftRight_succ_four (n m : Nat) : n >>> ((m + 1) * 4) = n >>> (m * 4) / 16 := by
  simp only [Nat.shiftRight_eq_div_pow, Nat.div_div_eq_div_mul, Nat.succ_mul, Nat.pow_add]

/-- Reading the digits of the positions below `m`, from the value of the positions above,
gives `n`. -/
theorem xtoiLoop_hexDigitsBelow {n : Nat} (hn : n < big) {rest : List Char} (h : EndsNumber rest) :
    ∀ m i, xtoiLoop (n >>> (m * 4)) i (hexDigitsBelow n m ++ rest) =
      some (n, i + (hexDigitsBelow n m).length, rest)
  | 0, i => by simp [hexDigitsBelow, xtoiLoop_stop _ _ h]
  | m + 1, i => by
    have hle : n >>> (m * 4) ≤ n := by rw [Nat.shiftRight_eq_div_pow]; exact Nat.div_le_self _ _
    have hdig : hexDigitsBelow n (m + 1) =
        (if 0 < n >>> (m * 4) then [hexDigit (n >>> (m * 4) % 16)] else []) ++
          hexDigitsBelow n m := by
      simp only [hexDigitsBelow, List.range_succ, List.reverse_append, List.reverse_singleton,
        List.singleton_append, List.filterMap_cons]
      split_ifs <;> rfl
    rw [hdig, shiftRight_succ_four]
    split_ifs with hpos
    · rw [List.singleton_append, List.cons_append,
        xtoiLoop_digit (Nat.mod_lt _ (by decide)) (by omega),
        show n >>> (m * 4) / 16 * 16 + n >>> (m * 4) % 16 = n >>> (m * 4) by omega,
        xtoiLoop_hexDigitsBelow hn h m (i + 1)]
      simp only [List.length_cons, Nat.add_assoc, Nat.add_comm 1]
    · have hz : n >>> (m * 4) = 0 := Nat.eq_zero_of_not_pos hpos
      have hr := xtoiLoop_hexDigitsBelow hn h m i
      rw [hz] at hr
      rw [List.nil_append, hz, Nat.zero_div, hr]

/-- `xtoi` reads back a group `appendHex` wrote. -/
theorem xtoi_appendHex {n : Nat} (hn : n < 65536) {rest : List Char} (h : EndsNumber rest) :
    xtoi (appendHex n ++ rest) = some (n, rest) := by
  have hne := appendHex_ne_nil n
  unfold xtoi appendHex at *
  split_ifs at * with h0
  · subst h0
    rw [List.singleton_append, show '0' = hexDigit 0 from rfl,
      xtoiLoop_digit (show 0 < 16 by decide) (by decide),
      xtoiLoop_stop _ _ h]
    rfl
  · have hr := xtoiLoop_hexDigitsBelow (show n < big by unfold big; omega) h 8 0
    rw [show n >>> (8 * 4) = 0 by rw [Nat.shiftRight_eq_div_pow]; exact Nat.div_eq_of_lt (by omega)] at hr
    unfold hexDigitsBelow at hr
    simp only [hr, Nat.zero_add]
    rw [if_neg (List.length_pos.mpr hne).ne']

/-- The two bytes the group loop of `parseIPv6` appends for a group. -/
def groupBytes (g : Nat) : List UInt8 := [(g / 256).toUInt8, (g % 256).toUInt8]

theorem hexDigit_ne_sep (v : Nat) : hexDigit v ≠ '.' ∧ hexDigit v ≠ ':' := by
  rcases Nat.lt_or_ge v 16 with h | h
  · exact (by decide : ∀ v < 16, hexDigit v ≠ '.' ∧ hexDigit v ≠ ':') v h
  · rw [hexDigit, List.getD_eq_getElem?_getD, List.getElem?_eq_none (by simpa using h)]
    decide

theorem appendHex_ne_sep (n : Nat) : ∀ c ∈ appendHex n, c ≠ '.' ∧ c ≠ ':' := by
  unfold appendHex
  split_ifs
  · simp
  · simp only [List.mem_filterMap]
    rintro c ⟨j, -, hj⟩
    split_ifs at hj
    cases hj
    exact hexDigit_ne_sep _

theorem hexGroups_singleton (g : Nat) : hexGroups [g] = appendHex g := by
  simp [hexGroups, List.intercalate]

theorem hexGroups_cons (g : Nat) {gs : List Nat} (h : gs ≠ []) :
    hexGroups (g :: gs) = appendHex g ++ ':' :: hexGroups gs := by
  obtain ⟨g', gs, rfl⟩ := List.exists_cons_of_ne_nil h
  simp [hexGroups, List.intercalate, List.intersperse_cons_cons]

/-- Groups joined by colons start with a digit. -/
theorem hexGroups_head {gs : List Nat} (h : gs ≠ []) :
    ∃ c r, hexGroups gs = c :: r ∧ c ≠ '.' ∧ c ≠ ':' := by
  obtain ⟨g, gs', rfl⟩ := List.exists_cons_of_ne_nil h
  obtain ⟨c, r, hc⟩ := List.exists_cons_of_ne_nil (appendHex_ne_nil g)
  have hsep := appendHex_ne_sep g c (by rw [hc]; exact List.mem_cons_self _ _)
  by_cases hgs : gs' = []
  · exact ⟨c, r, by rw [hgs, hexGroups_singleton, hc], hsep⟩
  · exact ⟨c, r ++ ':' :: hexGroups gs', by rw [hexGroups_cons g hgs, hc]; rfl, hsep⟩

/-- The last group of the loop. -/
theorem parseIPv6Loop_last {fuel : Nat} {acc : List UInt8} {g : Nat} (e : Option Nat)
    (hacc : acc.length < 16) (hg : g < 65536) :
    parseIPv6Loop (fuel + 1) acc e (appendHex g) = some (acc ++ groupBytes g, e, []) := by
  have hx := xtoi_appendHex hg endsNumber_nil
  rw [List.append_nil] at hx
  rw [parseIPv6Loop, if_pos hacc, hx]
  simp [groupBytes, show ¬ 0xFFFF < g by omega]

/-- A group followed by one colon and the next group. -/
theorem parseIPv6Loop_colon {fuel : Nat} {acc : List UInt8} {g : Nat} (e : Option Nat)
    (hacc : acc.length < 16) (hg : g < 65536) {c : Char} (hc : c ≠ ':') (r : List Char) :
    parseIPv6Loop (fuel + 1) acc e (appendHex g ++ ':' :: c :: r) =
      parseIPv6Loop fuel (acc ++ groupBytes g) e (c :: r) := by
  rw [parseIPv6Loop, if_pos hacc, xtoi_appendHex hg (endsNumber_colon _)]
  simp [groupBytes, show ¬ 0xFFFF < g by omega, hc]

/-- A group followed by the ellipsis. -/
theorem parseIPv6Loop_ellipsis {fuel : Nat} {acc : List UInt8} {g : Nat}
    (hacc : acc.length < 16) (hg : g < 65536) (r : List Char) :
    parseIPv6Loop (fuel + 1) acc none (appendHex g ++ ':' :: ':' :: r) =
      if r = [] then some (acc ++ groupBytes g, some (acc ++ groupBytes g).length, [])
      else parseIPv6Loop fuel (acc ++ groupBytes g) (some (acc ++ groupBytes g).length) r := by
  rw [parseIPv6Loop, if_pos hacc, xtoi_appendHex hg (endsNumber_colon _)]
  simp [groupBytes, show ¬ 0xFFFF < g by omega]

/-- The loop reads groups joined by colons to the end. -/
theorem parseIPv6Loop_hexGroups (e : Option Nat) : ∀ {gs : List Nat} {acc : List UInt8}
    {fuel : Nat}, gs ≠ [] → (∀ g ∈ gs, g < 65536) → acc.length + 2 * gs.length ≤ 16 →
    gs.length ≤ fuel →
    parseIPv6Loop fuel acc e (hexGroups gs) = some (acc ++ gs.flatMap groupBytes, e, [])
  | [g], acc, fuel + 1, _, hg, hlen, _ => by
    rw [hexGroups_singleton, parseIPv6Loop_last e (by simp at hlen; omega)
      (hg g (List.mem_singleton_self g))]
    simp
  | g :: g' :: gs, acc, fuel + 1, _, hg, hlen, hfuel => by
    obtain ⟨c, r, hcr, -, hc⟩ := hexGroups_head (List.cons_ne_nil g' gs)
    simp only [List.length_cons] at hlen hfuel
    rw [hexGroups_cons g (List.cons_ne_nil g' gs), hcr,
      parseIPv6Loop_colon e (by omega) (hg g (List.mem_cons_self _ _)) hc, ← hcr,
      parseIPv6Loop_hexGroups e (List.cons_ne_nil g' gs)
        (fun x hx => hg x (List.mem_cons_of_mem _ hx)) (by simp [groupBytes]; omega)
        (by simp; omega)]
    simp

/-- The loop reads groups joined by colons up to an ellipsis. -/
theorem parseIPv6Loop_hexGroups_ellipsis (r : List Char) : ∀ {gs : List Nat} {acc : List UInt8}
    {fuel : Nat}, gs ≠ [] → (∀ g ∈ gs, g < 65536) → acc.length + 2 * gs.length < 16 →
    gs.length ≤ fuel →
    parseIPv6Loop fuel acc none (hexGroups gs ++ ':' :: ':' :: r) =
      if r = [] then
        some (acc ++ gs.flatMap groupBytes, some (acc ++ gs.flatMap groupBytes).length, [])
      else parseIPv6Loop (fuel - gs.length) (acc ++ gs.flatMap groupBytes)
        (some (acc ++ gs.flatMap groupBytes).length) r
  | [g], acc, fuel + 1, _, hg, hlen, _ => by
    rw [hexGroups_singleton, parseIPv6Loop_ellipsis (by simp at hlen; omega)
      (hg g (List.mem_singleton_self g))]
    simp
  | g :: g' :: gs, acc, fuel + 1, _, hg, hlen, hfuel => by
    obtain ⟨c, r', hcr, -, hc⟩ := hexGroups_head (List.cons_ne_nil g' gs)
    simp only [List.length_cons] at hlen hfuel
    rw [hexGroups_cons g (List.cons_ne_nil g' gs), List.append_assoc, List.cons_append, hcr,
      List.cons_append, parseIPv6Loop_colon none (by omega) (hg g (List.mem_cons_self _ _)) hc,
      ← List.cons_append, ← hcr,
      parseIPv6Loop_hexGroups_ellipsis r (List.cons_ne_nil g' gs)
        (fun x hx => hg x (List.mem_cons_of_mem _ hx)) (by simp [groupBytes]; omega)
        (by simp; omega)]
    simp [Nat.add_sub_add_right]

/-! ## Groups and the zero run -/

/-- An address of even length has half as many 16-bit groups, whose bytes are the address. -/
theorem groups_bytes : ∀ ip : IP, ip.length % 2 = 0 →
    (groups ip).length = ip.length / 2 ∧ (∀ g ∈ groups ip, g < 65536) ∧
      (groups ip).flatMap groupBytes = ip
  | [], _ => by simp [groups]
  | [_], h => by simp at h
  | a :: b :: r, h => by
    obtain ⟨h1, h2, h3⟩ := groups_bytes r (by simp at h; omega)
    have ha : a.toNat < 256 := a.toNat_lt_size
    have hb : b.toNat < 256 := b.toNat_lt_size
    refine ⟨by simp [groups, h1]; omega, ?_, ?_⟩
    · simp only [groups, List.mem_cons]
      rintro g (rfl | hg)
      · omega
      · exact h2 g hg
    · simp [groups, groupBytes, h3, show (a.toNat * 256 + b.toNat) / 256 = a.toNat by omega,
        show (a.toNat * 256 + b.toNat) % 256 = b.toNat by omega]

/-- `(e0, e1)` bounds a run of zero groups of `gs`. -/
def ZeroRun (gs : List Nat) (b : Nat × Nat) : Prop :=
  b.1 ≤ b.2 ∧ b.2 ≤ gs.length ∧ ∀ g ∈ (gs.drop b.1).take (b.2 - b.1), g = 0

/-- The search of `IP.String` only ever records a run of zero groups. -/
theorem zeroRun_zeroRun (gs : List Nat) :
    ∀ fuel i b, ZeroRun gs b → ZeroRun gs (zeroRun fuel i (gs.drop i) b)
  | 0, _, _, h => h
  | fuel + 1, i, (e0, e1), h => by
    cases hd : gs.drop i with
    | nil => exact h
    | cons g gs' =>
      have hi : i < gs.length := by
        by_contra hge
        rw [List.drop_eq_nil_of_le (by omega)] at hd
        cases hd
      have hlen : (g :: gs').length = gs.length - i := by rw [← hd, List.length_drop]
      simp only [zeroRun]
      split_ifs with hr
      · have htw : ∀ x ∈ (g :: gs').take ((g :: gs').takeWhile (· = 0)).length, x = 0 := by
          rw [← List.prefix_iff_eq_take.mp (List.takeWhile_prefix _)]
          intro x hx
          simpa using List.mem_takeWhile_imp hx
        have hle : ((g :: gs').takeWhile (· = 0)).length ≤ (g :: gs').length :=
          (List.takeWhile_prefix _).length_le
        have := zeroRun_zeroRun gs fuel (i + ((g :: gs').takeWhile (· = 0)).length + 1)
          (i, i + ((g :: gs').takeWhile (· = 0)).length)
          ⟨by simp, by simp only; omega, by simpa [hd] using htw⟩
        have hdrop : (g :: gs').drop (((g :: gs').takeWhile (· = 0)).length + 1) =
            gs.drop (i + ((g :: gs').takeWhile (· = 0)).length + 1) := by
          rw [← hd, List.drop_drop, Nat.add_assoc]
        rwa [hdrop]
      · have := zeroRun_zeroRun gs fuel (i + 1) (e0, e1) h
        rwa [← List.drop_drop, hd] at this

theorem flatMap_groupBytes_zeros (k : Nat) :
    (List.replicate k 0).flatMap groupBytes = List.replicate (2 * k) 0 := by
  induction k with
  | zero => rfl
  | succ k ih =>
    rw [List.replicate_succ, List.flatMap_cons, ih, Nat.mul_succ, Nat.add_comm, List.replicate_add]
    rfl

/-- The bytes of groups with a run of zero groups `[e0, e1)`: those before it, zeros, and
those after it. -/
theorem flatMap_zeroRun {gs : List Nat} {e0 e1 : Nat} (h : ZeroRun gs (e0, e1)) :
    gs.flatMap groupBytes = (gs.take e0).flatMap groupBytes ++
      List.replicate (2 * (e1 - e0)) 0 ++ (gs.drop e1).flatMap groupBytes := by
  obtain ⟨h01, h1, hz⟩ := h
  dsimp only at h01 h1 hz
  have hmid : (gs.drop e0).take (e1 - e0) = List.replicate (e1 - e0) 0 :=
    List.eq_replicate_iff.mpr ⟨by simp; omega, hz⟩
  have hsplit : gs = gs.take e0 ++ (gs.drop e0).take (e1 - e0) ++ gs.drop e1 := by
    rw [List.append_assoc, show gs.drop e1 = (gs.drop e0).drop (e1 - e0) by
      rw [List.drop_drop, Nat.add_sub_cancel' h01], List.take_append_drop, List.take_append_drop]
  conv_lhs => rw [hsplit]
  rw [hmid, List.flatMap_append, List.flatMap_append, flatMap_groupBytes_zeros]

/-! ## The round trip -/

/-- The scan of `ParseIP` reaching a colon chooses `parseIPv6`. -/
theorem parseIPScan_colon (s : List Char) {pre : List Char}
    (hpre : ∀ c ∈ pre, c ≠ '.' ∧ c ≠ ':') (tail : List Char) :
    parseIPScan s (pre ++ ':' :: tail) = parseIPv6 s := by
  rw [parseIPScan_append hpre, parseIPScan, if_neg (by decide), if_pos rfl]

/-- Groups joined by colons, followed by a colon, are a first group and a colon. -/
theorem hexGroups_append_colon {gs : List Nat} (h : gs ≠ []) (tail : List Char) :
    ∃ g t, hexGroups gs ++ ':' :: tail = appendHex g ++ ':' :: t := by
  obtain ⟨g, gs', rfl⟩ := List.exists_cons_of_ne_nil h
  by_cases hgs : gs' = []
  · exact ⟨g, tail, by rw [hgs, hexGroups_singleton]⟩
  · exact ⟨g, hexGroups gs' ++ ':' :: tail, by rw [hexGroups_cons g hgs]; simp⟩

theorem parseIPv6_digit {c : Char} (hc : c ≠ ':') (r : List Char) :
    parseIPv6 (c :: r) = parseIPv6Groups none (c :: r) := by
  unfold parseIPv6
  split
  · rename_i h; cases h; exact absurd rfl hc
  · rename_i h; cases h; exact absurd rfl hc
  · rfl

/-- Text that starts with groups and a colon is read by the group loop from its start. -/
theorem parseIPScan_hexGroups {gs : List Nat} (h : gs ≠ []) (tail : List Char) :
    parseIPScan (hexGroups gs ++ ':' :: tail) (hexGroups gs ++ ':' :: tail) =
      parseIPv6Groups none (hexGroups gs ++ ':' :: tail) := by
  obtain ⟨g, t, hgt⟩ := hexGroups_append_colon h tail
  obtain ⟨c, r, hcr, -, hc⟩ := hexGroups_head h
  conv_lhs => arg 2; rw [hgt]
  rw [parseIPScan_colon _ (appendHex_ne_sep g), hcr, List.cons_append, parseIPv6_digit hc]

/-- The ellipsis between the bytes `A` and `B` stands for the zeros that make sixteen. -/
theorem expandEllipsis_split (A B : List UInt8) (h : A.length + B.length < 16) :
    expandEllipsis (A ++ B) (some A.length) =
      some (A ++ List.replicate (16 - (A.length + B.length)) 0 ++ B) := by
  simp [expandEllipsis, h, List.take_left', List.drop_left']

theorem flatMap_groupBytes_length (gs : List Nat) :
    (gs.flatMap groupBytes).length = 2 * gs.length := by
  induction gs with
  | nil => rfl
  | cons g gs ih => simp [groupBytes, ih]; omega

/-- Text with an ellipsis between groups parses to the groups before it, the zeros the
ellipsis stands for, and the groups after it. -/
theorem parseIP_ellipsis {pre post : List Nat} (hpre : ∀ g ∈ pre, g < 65536)
    (hpost : ∀ g ∈ post, g < 65536) (hlen : pre.length + post.length < 8) :
    let s : List Char := hexGroups pre ++ [':', ':'] ++ hexGroups post
    parseIPScan s s = some (pre.flatMap groupBytes ++
      List.replicate (16 - 2 * (pre.length + post.length)) 0 ++ post.flatMap groupBytes) := by
  intro s
  have hA := flatMap_groupBytes_length pre
  have hB := flatMap_groupBytes_length post
  have hsplit := expandEllipsis_split (pre.flatMap groupBytes) (post.flatMap groupBytes)
    (by omega)
  rw [show 16 - ((pre.flatMap groupBytes).length + (post.flatMap groupBytes).length) =
    16 - 2 * (pre.length + post.length) by omega] at hsplit
  have hnil : hexGroups [] = [] := rfl
  by_cases hp : pre = []
  · subst hp
    by_cases hq : post = []
    · subst hq
      rfl
    · obtain ⟨c, r, hcr, -, -⟩ := hexGroups_head hq
      have hs : s = ':' :: ':' :: c :: r := by simp [s, hnil, hcr]
      rw [hs, show parseIPScan (':' :: ':' :: c :: r) (':' :: ':' :: c :: r) =
        parseIPv6Groups (some 0) (c :: r) from rfl, parseIPv6Groups, ← hcr,
        parseIPv6Loop_hexGroups (some 0) hq hpost (by simp at hlen ⊢; omega)
          (by simp at hlen ⊢; omega)]
      simpa using hsplit
  · have hs : s = hexGroups pre ++ ':' :: ':' :: hexGroups post := by simp [s]
    rw [hs, parseIPScan_hexGroups hp, parseIPv6Groups,
      parseIPv6Loop_hexGroups_ellipsis _ hp hpre (by simp; omega) (by omega)]
    by_cases hq : post = []
    · subst hq
      simpa [hnil] using hsplit
    · obtain ⟨c', r', hcr', -, -⟩ := hexGroups_head hq
      rw [if_neg (by rw [hcr']; exact List.cons_ne_nil _ _),
        parseIPv6Loop_hexGroups _ hq hpost (by simp [hA]; omega) (by omega)]
      simpa using hsplit

/-- `ParseIP` reads back what `IP.String` writes for a 16-byte address that is not IPv4. -/
theorem parseIP_toString_v6 {ip : IP} (h16 : ip.length = 16) (h4 : ip.to4 = none) :
    parseIP ip.toString = some ip := by
  obtain ⟨hlen, hg, hbytes⟩ := groups_bytes ip (by omega)
  rw [h16, show 16 / 2 = 8 from rfl] at hlen
  have hz := zeroRun_zeroRun (groups ip) 9 0 (0, 0) ⟨le_refl _, Nat.zero_le _, by simp⟩
  rw [List.drop_zero] at hz
  unfold IP.toString parseIP
  rw [if_neg (by omega), h4]
  dsimp only
  rw [if_neg (by omega)]
  generalize zeroRun 9 0 (groups ip) (0, 0) = z at hz
  obtain ⟨e0, e1⟩ := z
  have hsplit := flatMap_zeroRun hz
  obtain ⟨h01, h1, -⟩ := hz
  dsimp only at h01 h1 ⊢
  rw [hlen] at h1
  have hne : groups ip ≠ [] := List.ne_nil_of_length_pos (by omega)
  split_ifs with hshort
  · -- every group written
    obtain ⟨g, gs', hgs⟩ := List.exists_cons_of_ne_nil hne
    have hgs' : gs' ≠ [] := by rintro rfl; rw [hgs] at hlen; cases hlen
    have hs : hexGroups (groups ip) = hexGroups [g] ++ ':' :: hexGroups gs' := by
      rw [hgs, hexGroups_cons g hgs', hexGroups_singleton]
    show parseIPScan (hexGroups (groups ip)) (hexGroups (groups ip)) = _
    rw [hs, parseIPScan_hexGroups (List.cons_ne_nil g []), ← hs, parseIPv6Groups,
      parseIPv6Loop_hexGroups none hne hg (by simp [hlen]) (by simp [hlen])]
    simp [expandEllipsis, hbytes, h16]
  · have hpre : ∀ g ∈ (groups ip).take e0, g < 65536 := fun g hm => hg g (List.mem_of_mem_take hm)
    have hpost : ∀ g ∈ (groups ip).drop e1, g < 65536 := fun g hm => hg g (List.mem_of_mem_drop hm)
    have h := parseIP_ellipsis hpre hpost (by simp [hlen]; omega)
    simp only [List.length_take, List.length_drop, hlen] at h
    change parseIPScan (hexGroups ((groups ip).take e0) ++ [':', ':'] ++
      hexGroups ((groups ip).drop e1)) (hexGroups ((groups ip).take e0) ++ [':', ':'] ++
      hexGroups ((groups ip).drop e1)) = some ip
    rw [h]
    conv_rhs => rw [← hbytes, hsplit]
    congr 4
    omega

/-- `ParseIP` reads back every address `IP.String` writes for a 4- or 16-byte address: an IPv4
address in its 16-byte form, any other address as it is. -/
theorem parseIP_toString {ip : IP} (h : ip.length = 4 ∨ ip.length = 16) :
    parseIP ip.toString = some (if ip.length = 4 then v4InV6Prefix ++ ip else ip) := by
  cases h4 : ip.to4 with
  | none =>
    have h16 : ip.length = 16 := by
      unfold IP.to4 at h4
      split_ifs at h4 with h1
      omega
    rw [if_neg (by omega)]
    exact parseIP_toString_v6 h16 h4
  | some p4 =>
    obtain ⟨a, b, c, d, rfl⟩ : ∃ a b c d, p4 = [a, b, c, d] := by
      match p4, IP.to4_length h4 with
      | [a, b, c, d], _ => exact ⟨a, b, c, d, rfl⟩
    unfold IP.toString
    rw [if_neg (by omega), h4]
    dsimp only
    rw [parseIP_dotted]
    unfold IP.to4 at h4
    split_ifs at h4 with h1 h2
    · cases h4
      rfl
    · rw [if_neg (by omega), IPv4, ← h2.2, ← Option.some.inj h4, List.take_append_drop]

/-- `IP.String` and `ParseIP` agree up to `IP.Equal` for every 4- or 16-byte address. -/
theorem parseIP_toString_equal {ip : IP} (h : ip.length = 4 ∨ ip.length = 16) :
    ∃ x, parseIP ip.toString = some x ∧ x.equal ip = true := by
  refine ⟨_, parseIP_toString h, ?_⟩
  split_ifs with h4
  · simp [IP.equal, h4, v4InV6Prefix]
  · exact IP.equal_self ip

/-- A 16-byte address reads back as itself. -/
theorem parseIP_toString_sixteen {ip : IP} (h : ip.length = 16) : parseIP ip.toString = some ip := by
  rw [parseIP_toString (.inr h), if_neg (by omega)]

/-- `2001:db8::1` is written with its run of zero groups shortened. -/
example : IP.toString [0x20, 0x01, 0x0d, 0xb8, 0, 0, 0, 0, 0, 0, 0, 0, 0, 0, 0, 1] =
    "2001:db8::1" := by decide

/-! ## What `ParseIP` returns -/

theorem parseIPv4_length {s : List Char} {ip : IP} (h : parseIPv4 s = some ip) : ip.length = 16 := by
  unfold parseIPv4 at h
  split_ifs at h
  split at h
  · split at h
    · cases h
      rfl
    · cases h
  · cases h

/-- The group loop keeps an even number of bytes, at most sixteen, with the ellipsis among
them. -/
theorem parseIPv6Loop_inv : ∀ {fuel : Nat} {acc : List UInt8} {e : Option Nat} {s : List Char}
    {acc' : List UInt8} {e' : Option Nat} {r : List Char},
    parseIPv6Loop fuel acc e s = some (acc', e', r) →
    acc.length % 2 = 0 → acc.length ≤ 16 → (∀ k ∈ e, k ≤ acc.length) →
    acc'.length % 2 = 0 ∧ acc'.length ≤ 16 ∧ ∀ k ∈ e', k ≤ acc'.length
  | 0, _, _, _, _, _, _, h, h2, h16, he => by
    cases h
    exact ⟨h2, h16, he⟩
  | fuel + 1, acc, e, s, acc', e', r, h, h2, h16, he => by
    rw [parseIPv6Loop] at h
    by_cases hlt : acc.length < 16
    swap
    · rw [if_neg hlt] at h
      cases h
      exact ⟨h2, h16, he⟩
    rw [if_pos hlt] at h
    cases hx : xtoi s with
    | none => rw [hx] at h; cases h
    | some p =>
      obtain ⟨n, rest⟩ := p
      simp only [hx] at h
      by_cases hbig : 0xFFFF < n
      · rw [if_pos hbig] at h; cases h
      rw [if_neg hbig] at h
      by_cases hdot : rest.head? = some '.'
      · rw [if_pos hdot] at h
        split_ifs at h
        obtain ⟨ip4, hip4, hr⟩ := Option.map_eq_some'.mp h
        cases hr
        have := parseIPv4_length hip4
        refine ⟨by simp; omega, by simp; omega, fun k hk => ?_⟩
        have := he k hk
        simp; omega
      rw [if_neg hdot] at h
      generalize hacc : acc ++ [(n / 256).toUInt8, (n % 256).toUInt8] = acc₁ at h
      have hl : acc₁.length = acc.length + 2 := by rw [← hacc]; simp
      have h2' : acc₁.length % 2 = 0 := by omega
      have h16' : acc₁.length ≤ 16 := by omega
      match rest, h with
      | [], h =>
        cases h
        exact ⟨h2', h16', fun k hk => by have := he k hk; omega⟩
      | [_], h => cases h
      | c :: c' :: r₁, h =>
        simp only at h
        split_ifs at h with hc hc' hs hr
        · cases h
          exact ⟨h2', h16', fun k hk => by cases hk; exact le_refl _⟩
        · exact parseIPv6Loop_inv h h2' h16' fun k hk => by cases hk; exact le_refl _
        · exact parseIPv6Loop_inv h h2' h16' fun k hk => by have := he k hk; omega

theorem expandEllipsis_length {acc : List UInt8} {e : Option Nat} {ip : IP}
    (h : expandEllipsis acc e = some ip) (h16 : acc.length ≤ 16) (he : ∀ k ∈ e, k ≤ acc.length) :
    ip.length = 16 := by
  unfold expandEllipsis at h
  split_ifs at h with hlt hs
  · obtain ⟨k, hk, rfl⟩ := Option.map_eq_some'.mp h
    have := he k hk
    simp; omega
  · cases h
    omega

theorem parseIPv6Groups_length {e : Option Nat} {t : List Char} {ip : IP}
    (he : ∀ k ∈ e, k ≤ 0) (h : parseIPv6Groups e t = some ip) : ip.length = 16 := by
  unfold parseIPv6Groups at h
  split at h
  · rename_i acc e' hl
    obtain ⟨_, h16, he'⟩ := parseIPv6Loop_inv hl rfl (by decide) he
    exact expandEllipsis_length h h16 he'
  · cases h

theorem parseIPv6_length {t : List Char} {ip : IP} (h : parseIPv6 t = some ip) :
    ip.length = 16 := by
  unfold parseIPv6 at h
  split at h
  · cases h
    rfl
  · exact parseIPv6Groups_length (fun k hk => by cases hk; exact le_refl _) h
  · exact parseIPv6Groups_length (fun k hk => by cases hk) h

theorem parseIPScan_length {t : List Char} {ip : IP} :
    ∀ l : List Char, parseIPScan t l = some ip → ip.length = 16
  | [], h => by cases h
  | c :: r, h => by
    unfold parseIPScan at h
    split_ifs at h
    · exact parseIPv4_length h
    · exact parseIPv6_length h
    · exact parseIPScan_length r h

/-- Every address `ParseIP` returns has sixteen bytes. -/
theorem parseIP_length {s : String} {ip : IP} (h : parseIP s = some ip) : ip.length = 16 :=
  parseIPScan_length _ h

/-- `ParseIP` returns the 16-byte form of an IPv4 address. -/
example : parseIP "10.0.0.1" = some (IPv4 10 0 0 1) := by decide

end IvpnDaemon.Net

import Mathlib.Data.List.Basic

/-!
# Go's `path.Clean` and `path.Join`

The lexical path cleaning `getURL` relies on, following the loop of the Go 1.13 `path`
package: the output buffer is kept back to front, so that writing and backtracking act on
the head of a list.
-/

namespace IvpnDaemon.Net

/-- The backtracking of `Clean` on a `..` element: drop the last element and the slash
before it, never going below `dotdot`. -/
def backtrack (dotdot : Nat) : List Char → List Char
  | [] => []
  | c :: out => if dotdot < out.length ∧ c ≠ '/' then backtrack dotdot out else out

/-- The loop of `Clean` over the unread input, with the output `out` (back to front) and
`dotdot`; every pass reads at least one character, so `fuel` is the input's length. -/
def cleanLoop (rooted : Bool) : Nat → List Char → List Char → Nat → List Char
  | 0, _, out, _ => out
  | _ + 1, [], out, _ => out
  | fuel + 1, c :: p, out, dotdot =>
    if c = '/' then cleanLoop rooted fuel p out dotdot
    else if c = '.' ∧ (p = [] ∨ p.head? = some '/') then cleanLoop rooted fuel p out dotdot
    else if c = '.' ∧ p.head? = some '.' ∧ (p.tail = [] ∨ p.tail.head? = some '/') then
      if dotdot < out.length then cleanLoop rooted fuel p.tail (backtrack dotdot out) dotdot
      else if rooted then cleanLoop rooted fuel p.tail out dotdot
      else
        let out := '.' :: '.' :: (if 0 < out.length then '/' :: out else out)
        cleanLoop rooted fuel p.tail out out.length
    else
      let out := if (rooted ∧ out.length ≠ 1) ∨ (¬rooted ∧ out.length ≠ 0) then '/' :: out else out
      cleanLoop rooted fuel ((c :: p).dropWhile (· ≠ '/'))
        (((c :: p).takeWhile (· ≠ '/')).reverse ++ out) dotdot

/-- `path.Clean`. -/
def clean (path : String) : String :=
  if path = "" then "." else
  let p := path.toList
  let rooted := p.head? = some '/'
  let out := if rooted then cleanLoop true p.length p.tail ['/'] 1
    else cleanLoop false p.length p [] 0
  if out = [] then "." else String.mk out.reverse

/-- `path.Join`: the elements from the first non-empty one, joined by slashes, cleaned. -/
def join (elem : List String) : String :=
  match elem.dropWhile (· = "") with
  | [] => ""
  | es => clean ("/".intercalate es)

example : join ["api.ivpn.net", "v4/servers.json"] = "api.ivpn.net/v4/servers.json" := by decide
example : clean "/a/b/../c/./d/" = "/a/c/d" := by decide
example : clean "../../x" = "../../x" := by decide

/-! ## Paths `Clean` keeps

A relative path whose elements are all plain, neither empty nor `.` nor `..`, is already
clean: one pass of the loop copies one element, and by induction the whole path comes out as
it went in. `getURL` joins an address literal and an API path, both of that kind. -/

/-- A path element `Clean` copies as it is: not empty, with no slash, neither `.` nor `..`. -/
def Plain (e : List Char) : Prop := e ≠ [] ∧ '/' ∉ e ∧ e ≠ ['.'] ∧ e ≠ ['.', '.']

instance : DecidablePred Plain := fun _ => inferInstanceAs (Decidable (_ ∧ _ ∧ _ ∧ _))

/-- A plain element followed by a slash or by the end is read as one element. -/
theorem takeWhile_dropWhile_slash {e rest : List Char} (hs : '/' ∉ e)
    (hr : rest.head? = none ∨ rest.head? = some '/') :
    (e ++ rest).takeWhile (· ≠ '/') = e ∧ (e ++ rest).dropWhile (· ≠ '/') = rest := by
  have he : ∀ a ∈ e, (a ≠ '/' : Bool) := fun a ha => by simpa using ne_of_mem_of_not_mem ha hs
  rw [List.takeWhile_append_of_pos he, List.dropWhile_append_of_pos he]
  rcases hr with hr | hr
  · simp [List.head?_eq_none_iff.mp hr]
  · obtain ⟨r, rfl⟩ : ∃ r, rest = '/' :: r := by
      cases rest <;> simp_all
    simp

/-- An unrooted pass over a plain element copies it, after a slash unless the output is
empty. -/
theorem cleanLoop_plain {e rest : List Char} (he : Plain e)
    (hr : rest.head? = none ∨ rest.head? = some '/') (fuel : Nat) (out : List Char)
    (dotdot : Nat) :
    cleanLoop false (fuel + 1) (e ++ rest) out dotdot =
      cleanLoop false fuel rest (e.reverse ++ if out = [] then out else '/' :: out) dotdot := by
  obtain ⟨hne, hs, hd, hdd⟩ := he
  obtain ⟨c, p, rfl⟩ := List.exists_cons_of_ne_nil hne
  obtain ⟨ht, hdr⟩ := takeWhile_dropWhile_slash hs hr
  rw [List.cons_append] at ht hdr ⊢
  rw [cleanLoop, if_neg (by rintro rfl; simp at hs), if_neg, if_neg]
  · rw [ht, hdr]; simp
  · rintro ⟨rfl, h1, h2⟩
    rcases p with _ | ⟨d, _ | ⟨d', q⟩⟩
    · exact hd rfl
    · rcases hr with hr | hr <;> cases rest <;> simp_all
    · simp_all
  · rintro ⟨rfl, h⟩
    rcases p with _ | ⟨d, q⟩
    · exact hd rfl
    · simp_all

theorem head?_flatMap_slash (es : List (List Char)) :
    (es.flatMap ('/' :: ·)).head? = none ∨ (es.flatMap ('/' :: ·)).head? = some '/' := by
  cases es <;> simp

/-- The loop copies a run of slash-led plain elements behind a non-empty output. -/
theorem cleanLoop_slashed {es : List (List Char)} (hes : ∀ e ∈ es, Plain e) {fuel : Nat}
    (hf : (es.flatMap ('/' :: ·)).length ≤ fuel) {out : List Char} (hout : out ≠ [])
    (dotdot : Nat) :
    cleanLoop false fuel (es.flatMap ('/' :: ·)) out dotdot =
      (es.flatMap ('/' :: ·)).reverse ++ out := by
  induction es generalizing fuel out with
  | nil => cases fuel <;> rfl
  | cons e es ih =>
    have he := hes e (List.mem_cons_self _ _)
    have hl : 0 < e.length := List.length_pos.mpr he.1
    simp only [List.flatMap_cons, List.cons_append, List.length_cons, List.length_append] at hf ⊢
    obtain ⟨f, rfl⟩ : ∃ f, fuel = f + 2 := ⟨fuel - 2, by omega⟩
    rw [cleanLoop, if_pos rfl, cleanLoop_plain he (head?_flatMap_slash es), if_neg hout,
      ih (fun e h => hes e (List.mem_cons_of_mem _ h)) (by omega) (by simp)]
    simp

/-- `Clean` keeps a relative path of plain elements. -/
theorem clean_plain {e : List Char} {es : List (List Char)} (he : Plain e)
    (hes : ∀ e ∈ es, Plain e) :
    clean (String.mk (e ++ es.flatMap ('/' :: ·))) = String.mk (e ++ es.flatMap ('/' :: ·)) := by
  obtain ⟨c, p, rfl⟩ := List.exists_cons_of_ne_nil he.1
  have hc : c ≠ '/' := fun h => he.2.1 (h ▸ List.mem_cons_self _ _)
  have hloop := cleanLoop_plain he (head?_flatMap_slash es)
    (p.length + (es.flatMap ('/' :: ·)).length) [] 0
  rw [if_pos rfl, cleanLoop_slashed hes (by simp) (by simp), List.cons_append] at hloop
  simp only [clean, List.cons_append, String.toList, List.head?_cons, Option.some.injEq, hc,
    if_false, List.length_cons, List.length_append, hloop]
  rw [if_neg fun h => absurd (congrArg String.data h) (List.cons_ne_nil _ _)]
  simp

theorem slash_intercalate {es : List (List Char)} (hne : es ≠ []) :
    '/' :: ['/'].intercalate es = es.flatMap ('/' :: ·) := by
  induction es with
  | nil => contradiction
  | cons e es ih =>
    cases es with
    | nil => simp [List.intercalate]
    | cons e' es =>
      rw [List.flatMap_cons, ← ih (List.cons_ne_nil _ _)]
      simp [List.intercalate, List.intersperse_cons_cons]

/-- `Join` of a plain element and a path of plain elements puts one slash between them. -/
theorem join_plain {host p : String} (hh : Plain host.toList)
    (hp : ∀ e ∈ p.toList.splitOn '/', Plain e) : join [host, p] = host ++ "/" ++ p := by
  have hsplit := @slash_intercalate (p.toList.splitOn '/') (List.splitOnP_ne_nil _ _)
  rw [List.intercalate_splitOn] at hsplit
  have hs : host ++ "/" ++ p = String.mk (host.toList ++ '/' :: p.toList) := by
    simp [String.ext_iff]
  have hhost : host ≠ "" := fun h => hh.1 (by rw [h]; rfl)
  rw [join, List.dropWhile_cons_of_neg (by simpa using hhost)]
  show clean (host ++ "/" ++ p) = host ++ "/" ++ p
  rw [hs, hsplit]
  exact clean_plain hh hp

end IvpnDaemon.Net

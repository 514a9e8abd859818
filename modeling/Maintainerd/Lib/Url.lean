import Mathlib.Data.List.Basic

/-!
# URLs

The parts of the URL Standard that a page of a console goes by.

* `Url.Query` is a `URLSearchParams`: the names and values of a query string, in their order.  What
  the string looks like with its escapes is left out; it is read back to the same list.  Names and
  values are texts of Unicode characters.  A script may also have strings in which one half of a
  surrogate pair stands alone; `URLSearchParams` puts U+FFFD in its place before it does anything
  with such a string, and they are not among the texts here.
* `Url.unescape` undoes the escapes of a path, byte by byte.
* `Url.split` and `Url.join` are for a list that is kept in one value.
* `Url.resolve` is the basic URL parser, for a string and the URL of a page that was served over
  HTTP or HTTPS, as far as the origin of the result goes.  It strips the string of control
  characters and spaces at its ends, removes every tab and newline, and takes a backslash for a
  slash.  The host parser is an argument.
-/

set_option autoImplicit false

namespace Url

/-! ## Query strings -/

/-- A `URLSearchParams`, of well-formed texts. -/
abbrev Query : Type := List (String × String)

namespace Query

/-- `get`: the first value of the name. -/
def get (q : Query) (name : String) : Option String := q.lookup name

/-- `set`: the first value of the name is replaced and the others are removed, or one is added at
the end. -/
def set (name value : String) : Query → Query
  | [] => [(name, value)]
  | (n, v) :: q =>
    if n = name then (name, value) :: q.filter fun w ↦ w.1 ≠ name else (n, v) :: set name value q

/-- Some names are set, one after the other. -/
def setAll (q : Query) (ws : List (String × String)) : Query :=
  ws.foldl (fun q w ↦ set w.1 w.2 q) q

theorem get_cons (n v : String) (q : Query) (name : String) :
    get ((n, v) :: q) name = if name = n then some v else get q name := by
  by_cases h : name = n
  · subst h
    rw [get, List.lookup_cons_self, if_pos rfl]
  · have hbeq : (name == n) = false := beq_false_of_ne h
    rw [get, List.lookup_cons, hbeq, if_neg h, get]

theorem get_filter_ne (q : Query) {name other : String} (h : other ≠ name) :
    get (q.filter fun w ↦ w.1 ≠ name) other = get q other := by
  induction q with
  | nil => rfl
  | cons w q ih =>
    obtain ⟨n, v⟩ := w
    by_cases hn : n = name
    · subst hn
      rw [get_cons, if_neg h, ← ih]
      simp
    · have hkept : ((n, v) :: q).filter (fun w ↦ w.1 ≠ name) =
          (n, v) :: q.filter fun w ↦ w.1 ≠ name := by simp [hn]
      rw [hkept, get_cons, get_cons, ih]

theorem get_set (name value other : String) (q : Query) :
    get (set name value q) other = if other = name then some value else get q other := by
  induction q with
  | nil => rw [set, get_cons]
  | cons w q ih =>
    obtain ⟨n, v⟩ := w
    rw [set]
    split_ifs with hn hother hother
    · rw [get_cons, if_pos hother]
    · subst hn
      rw [get_cons, if_neg hother, get_filter_ne q hother, get_cons, if_neg hother]
    · rw [get_cons, if_neg (fun h ↦ hn (h.symm.trans hother)), ih, if_pos hother]
    · rw [get_cons, get_cons, ih, if_neg hother]

theorem setAll_append (q : Query) (ws ws' : List (String × String)) :
    setAll q (ws ++ ws') = setAll (setAll q ws) ws' :=
  List.foldl_append

theorem get_setAll_of_notMem (q : Query) {ws : List (String × String)} {name : String}
    (h : ∀ w ∈ ws, w.1 ≠ name) : get (setAll q ws) name = get q name := by
  induction ws generalizing q with
  | nil => rfl
  | cons w ws ih =>
    obtain ⟨hw, hws⟩ := List.forall_mem_cons.mp h
    refine (ih (set w.1 w.2 q) hws).trans ?_
    rw [get_set, if_neg hw.symm]

/-- Of names that are set once each, one has the value it was set to. -/
theorem get_setAll_of_mem (q : Query) {ws : List (String × String)} {name value : String}
    (hnodup : (ws.map Prod.fst).Nodup) (h : (name, value) ∈ ws) :
    get (setAll q ws) name = some value := by
  induction ws generalizing q with
  | nil => cases h
  | cons w ws ih =>
    rw [List.map_cons, List.nodup_cons] at hnodup
    rcases List.mem_cons.mp h with rfl | hmem
    · have hrest : ∀ w ∈ ws, w.1 ≠ name := by
        rintro w hw rfl
        exact hnodup.1 (List.mem_map.mpr ⟨w, hw, rfl⟩)
      refine (get_setAll_of_notMem (set name value q) hrest).trans ?_
      rw [get_set, if_pos rfl]
    · exact ih (set w.1 w.2 q) hnodup.2 hmem

end Query

/-! ## Lists in a value -/

/-- `split` at a character. -/
def split (c : Char) (s : String) : List String := (s.toList.splitOn c).map String.ofList

/-- `join` with a character in between. -/
def join (c : Char) (ss : List String) : String :=
  String.ofList ([c].intercalate (ss.map String.toList))

/-- What has no separator in it is read back as it was. -/
theorem split_join {c : Char} {ss : List String} (h : ∀ s ∈ ss, c ∉ s.toList) (hne : ss ≠ []) :
    split c (join c ss) = ss := by
  have hparts : ∀ cs ∈ ss.map String.toList, c ∉ cs := by
    intro cs hcs
    obtain ⟨s, hs, rfl⟩ := List.mem_map.mp hcs
    exact h s hs
  rw [split, join, String.toList_ofList, List.splitOn_intercalate c hparts (by simpa using hne),
    List.map_map]
  exact (List.map_congr_left fun s _ ↦ String.ofList_toList).trans ss.map_id

theorem notMem_splitOnPPrepend {p : Char → Bool} {cs acc ds : List Char}
    (hacc : ∀ d ∈ acc, p d = false) (h : ds ∈ cs.splitOnPPrepend p acc) :
    ∀ d ∈ ds, p d = false := by
  induction cs generalizing acc with
  | nil =>
    rw [List.splitOnPPrepend_nil, List.mem_singleton] at h
    rw [h]
    exact fun d hd ↦ hacc d (List.mem_reverse.mp hd)
  | cons c cs ih =>
    rw [List.splitOnPPrepend_cons_eq_if] at h
    split_ifs at h with hc
    · rcases List.mem_cons.mp h with rfl | hmem
      · exact fun d hd ↦ hacc d (List.mem_reverse.mp hd)
      · rw [← List.splitOnPPrepend_nil_right] at hmem
        exact ih (List.forall_mem_nil _) hmem
    · exact ih (List.forall_mem_cons.mpr ⟨Bool.eq_false_iff.mpr hc, hacc⟩) h

/-- The parts have no separator in them. -/
theorem notMem_of_mem_split {c : Char} {s part : String} (h : part ∈ split c s) :
    c ∉ part.toList := by
  obtain ⟨cs, hcs, rfl⟩ := List.mem_map.mp h
  rw [List.splitOn_eq_splitOnP, ← List.splitOnPPrepend_nil_right] at hcs
  intro hmem
  rw [String.toList_ofList] at hmem
  simpa using notMem_splitOnPPrepend (List.forall_mem_nil _) hcs c hmem

/-! ## Origins -/

/-- The origin of a URL that has a host. -/
structure Origin (H : Type) where
  scheme : String
  host : H
  port : Option ℕ
deriving DecidableEq, Repr

/-- The origin of a page that was served over HTTP or HTTPS. -/
structure WebOrigin (H : Type) where
  secure : Bool
  host : H
  port : Option ℕ

/-- The scheme of a page. -/
def WebOrigin.scheme {H : Type} (base : WebOrigin H) : String :=
  if base.secure then "https" else "http"

/-- The origin of a page. -/
def WebOrigin.origin {H : Type} (base : WebOrigin H) : Origin H :=
  ⟨base.scheme, base.host, base.port⟩

/-- C0 controls and the space. -/
def isControlOrSpace (c : Char) : Bool := c.val ≤ 0x20

/-- ASCII tabs and newlines. -/
def isTabOrNewline (c : Char) : Bool := c == '\t' || c == '\n' || c == '\r'

/-- What the parser takes for a slash. -/
def isSlash (c : Char) : Bool := c == '/' || c == '\\'

/-- What the parser does to its input before it looks at it. -/
def clean (cs : List Char) : List Char :=
  ((cs.dropWhile isControlOrSpace).reverse.dropWhile isControlOrSpace).reverse.filter
    fun c ↦ !isTabOrNewline c

/-- The special schemes that have a host, with their default ports. -/
def defaultPort : String → Option ℕ
  | "http" => some 80
  | "https" => some 443
  | "ws" => some 80
  | "wss" => some 443
  | "ftp" => some 21
  | _ => none

/-- A scheme and what stands after its colon. -/
def schemeOf : List Char → Option (String × List Char)
  | [] => none
  | c :: cs =>
    let inside d := d.isAlphanum || d == '+' || d == '-' || d == '.'
    if !c.isAlpha then none
    else
      match cs.dropWhile inside with
      | ':' :: rest => some (String.ofList ((c :: cs.takeWhile inside).map Char.toLower), rest)
      | _ => none

/-- The host, and what stands after the colon after it, if there is one.  Brackets are skipped. -/
def cutPort : Bool → List Char → List Char × Option (List Char)
  | _, [] => ([], none)
  | inside, c :: cs =>
    if c = ':' ∧ inside = false then ([], some cs)
    else
      let inside := if c = '[' then true else if c = ']' then false else inside
      let (host, port) := cutPort inside cs
      (c :: host, port)

/-- The port state: `none` for a port that is refused, and `some none` for the default one. -/
def parsePort (scheme : String) : Option (List Char) → Option (Option ℕ)
  | none => some none
  | some [] => some none
  | some ds =>
    if !ds.all Char.isDigit then none
    else
      let port := ds.foldl (fun n d ↦ 10 * n + (d.toNat - '0'.toNat)) 0
      if 65535 < port then none
      else if defaultPort scheme = some port then some none
      else some (some port)

section

variable {H : Type} (parseHost : List Char → Option H)

/-- The authority state, after the slashes: credentials, host and port. -/
def authority (scheme : String) (cs : List Char) : Option (Origin H) :=
  let text := cs.takeWhile fun c ↦ !(isSlash c || c == '?' || c == '#')
  let (host, port) := cutPort false (text.reverse.takeWhile fun c ↦ c != '@').reverse
  if host = [] then none
  else
    match parseHost host, parsePort scheme port with
    | some host, some port => some ⟨scheme, host, port⟩
    | _, _ => none

/-- The relative state: the origin is that of the page, unless two slashes come first. -/
def relative (base : WebOrigin H) : List Char → Option (Origin H)
  | c :: d :: cs =>
    if isSlash c && isSlash d then authority parseHost base.scheme (cs.dropWhile isSlash)
    else some base.origin
  | _ => some base.origin

/-- The origin of the URL that a string is resolved to.  It is `none` if there is no such URL, or if
its origin is opaque; a blob URL, whose origin is told from the URL inside it, is taken for one with
an opaque origin. -/
def resolve (base : WebOrigin H) (s : String) : Option (Origin H) :=
  match schemeOf (clean s.toList) with
  | none => relative parseHost base (clean s.toList)
  | some (scheme, cs) =>
    if defaultPort scheme = none then none
    else if scheme = base.scheme then
      match cs with
      | '/' :: '/' :: cs => authority parseHost scheme (cs.dropWhile isSlash)
      | cs => relative parseHost base cs
    else authority parseHost scheme (cs.dropWhile isSlash)

end

/-! ## Strings that begin with a slash -/

/-- What is stripped of a string that begins with a slash is at its end. -/
theorem clean_slash (cs : List Char) :
    ∃ ds, clean ('/' :: cs) = '/' :: ds.filter (fun c ↦ !isTabOrNewline c) ∧ ds <+: cs := by
  -- the slash stops the stripping at both ends
  have hfront : ('/' :: cs).dropWhile isControlOrSpace = '/' :: cs := by
    rw [List.dropWhile_cons]
    rfl
  have hback : ∃ ds, (('/' :: cs).reverse.dropWhile isControlOrSpace).reverse = '/' :: ds ∧
      ds <+: cs := by
    rw [List.reverse_cons, List.dropWhile_append]
    split_ifs with hall
    · exact ⟨[], rfl, List.nil_prefix⟩
    · refine ⟨(cs.reverse.dropWhile isControlOrSpace).reverse, by simp, ?_⟩
      rw [← List.reverse_suffix, List.reverse_reverse]
      exact List.dropWhile_suffix _
  obtain ⟨ds, hds, hsub⟩ := hback
  exact ⟨ds, by rw [clean, hfront, hds]; rfl, hsub⟩

/-- A string that begins with a slash has no scheme. -/
theorem resolve_slash {H : Type} (parseHost : List Char → Option H) (base : WebOrigin H)
    {s : String} {cs : List Char} (h : s.toList = '/' :: cs) :
    ∃ ds, clean s.toList = '/' :: ds ∧ resolve parseHost base s =
      relative parseHost base ('/' :: ds) := by
  obtain ⟨ds, hclean, -⟩ := clean_slash cs
  rw [← h] at hclean
  refine ⟨_, hclean, ?_⟩
  rw [resolve, hclean]
  rfl

/-! ## Escapes -/

/-- The value of a hexadecimal digit. -/
def unhex (c : Char) : Option ℕ :=
  if '0' ≤ c ∧ c ≤ '9' then some (c.toNat - 48)
  else if 'a' ≤ c ∧ c ≤ 'f' then some (c.toNat - 87)
  else if 'A' ≤ c ∧ c ≤ 'F' then some (c.toNat - 55)
  else none

/-- The bytes a path stands for, each as the character of that number. -/
def unescape : List Char → Option (List Char)
  | [] => some []
  | '%' :: a :: b :: rest =>
    match unhex a, unhex b with
    | some x, some y => (unescape rest).map (Char.ofNat (16 * x + y) :: ·)
    | _, _ => none
  | c :: rest => if c = '%' then none else (unescape rest).map (c :: ·)

theorem unescape_cons {c : Char} (h : c ≠ '%') (rest : List Char) :
    unescape (c :: rest) = (unescape rest).map (c :: ·) := by
  rcases rest with _ | ⟨a, _ | ⟨b, rest⟩⟩ <;> simp [unescape, h]

/-- A text with no escape in it stands for itself. -/
theorem unescape_append {l : List Char} (h : '%' ∉ l) (rest : List Char) :
    unescape (l ++ rest) = (unescape rest).map (l ++ ·) := by
  induction l with
  | nil => simp
  | cons c l ih =>
    have hc : c ≠ '%' := fun e ↦ h (e ▸ List.mem_cons_self)
    rw [List.cons_append, unescape_cons hc, ih fun hl ↦ h (List.mem_cons_of_mem c hl),
      Option.map_map]
    rfl

end Url

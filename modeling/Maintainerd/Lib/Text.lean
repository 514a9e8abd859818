import Mathlib.Algebra.Order.Ring.Int
import Mathlib.Data.List.Basic
import Mathlib.Data.List.TakeWhile

/-!
# Go's strings and integers

The operations of Go's `strings` package and of its fixed-width integers that the sources use, as
functions on Lean's `String` and `Int`.  A Go string is a sequence of bytes; the strings here are
the ones that are valid UTF-8, and the one operation that can leave that world, slicing at a byte
offset, returns an `Option`.

`unicode.ToLower` is a table of some thousands of entries.  No result depends on what is in it, so
`toLower` takes it as an argument.
-/

set_option autoImplicit false

namespace Text

/-- `unicode.IsSpace`: the characters with the Unicode property White_Space. -/
def isSpace (c : Char) : Bool :=
  c == '\t' || c == '\n' || c.val == 0x0B || c.val == 0x0C || c == '\r' || c == ' ' ||
    c.val == 0x85 || c.val == 0xA0 || c.val == 0x1680 || (0x2000 ≤ c.val && c.val ≤ 0x200A) ||
    c.val == 0x2028 || c.val == 0x2029 || c.val == 0x202F || c.val == 0x205F || c.val == 0x3000

/-- `strings.TrimSpace`. -/
def trimSpace (s : String) : String :=
  String.ofList ((s.toList.dropWhile isSpace).reverse.dropWhile isSpace).reverse

/-- `strings.Trim`. -/
def trim (s chars : String) : String :=
  let inside c := chars.toList.contains c
  String.ofList ((s.toList.dropWhile inside).reverse.dropWhile inside).reverse

/-- `strings.ToLower`, character by character, over the table `lower`. -/
def toLower (lower : Char → Char) (s : String) : String := String.ofList (s.toList.map lower)

/-- Does `sub` occur in the list? -/
def occurs (sub : List Char) : List Char → Bool
  | [] => sub.isEmpty
  | c :: cs => sub.isPrefixOf (c :: cs) || occurs sub cs

/-- `strings.Contains`. -/
def contains (s sub : String) : Bool := occurs sub.toList s.toList

/-- `strings.ContainsAny`. -/
def containsAny (s chars : String) : Bool := s.toList.any fun c ↦ chars.toList.contains c

/-- `strings.HasPrefix`. -/
def startsWith (s pre : String) : Bool := pre.toList.isPrefixOf s.toList

/-- `strings.HasSuffix`. -/
def endsWith (s suf : String) : Bool := suf.toList.reverse.isPrefixOf s.toList.reverse

/-- `strings.TrimPrefix`. -/
def cutStart (s pre : String) : String :=
  if startsWith s pre then String.ofList (s.toList.drop pre.length) else s

/-- `strings.TrimSuffix`. -/
def cutEnd (s suf : String) : String :=
  if endsWith s suf then String.ofList (s.toList.take (s.length - suf.length)) else s

/-- The first `n` bytes of the characters, when they end between two characters. -/
def cutBytes : ℕ → List Char → Option (List Char)
  | _, [] => some []
  | n, c :: cs =>
    if n = 0 then some []
    else if c.utf8Size ≤ n then (cutBytes (n - c.utf8Size) cs).map (c :: ·)
    else none

/-- `s[:n]` for a string of more than `n` bytes.  `none` when the cut falls inside a character:
what Go returns then is no longer valid UTF-8. -/
def sliceTo (s : String) (n : ℕ) : Option String := (cutBytes n s.toList).map String.ofList

/-- `strings.Cut` at one character: what stands before its first occurrence, and what stands after
it. -/
def cut (c : Char) : List Char → Option (List Char × List Char)
  | [] => none
  | d :: ds => if d = c then some ([], ds) else (cut c ds).map fun x ↦ (d :: x.1, x.2)

/-- `int32` arithmetic: the integer that the low 32 bits stand for. -/
def int32 (x : Int) : Int := x.bmod (2 ^ 32)

/-- `int64` arithmetic: the integer that the low 64 bits stand for. -/
def int64 (x : Int) : Int := x.bmod (2 ^ 64)

/-! ## Characters that do not occur -/

theorem contains_self (s : String) : contains s s = true := by
  rw [contains]
  rcases s.toList with _ | ⟨c, cs⟩
  · rfl
  · simp [occurs]

theorem occurs_append {sub : List Char} {a : List Char} (h : occurs sub a = true)
    (b : List Char) : occurs sub (a ++ b) = true := by
  induction a with
  | nil =>
    rw [List.isEmpty_iff.mp h]
    cases b <;> rfl
  | cons c cs ih =>
    rw [occurs, Bool.or_eq_true, List.isPrefixOf_iff_prefix] at h
    rw [List.cons_append, occurs, Bool.or_eq_true, List.isPrefixOf_iff_prefix]
    rcases h with hpre | hlater
    · exact Or.inl (hpre.trans (List.prefix_append (c :: cs) b))
    · exact Or.inr (ih hlater)

theorem cut_append {c : Char} {a : List Char} (h : c ∉ a) (b : List Char) :
    cut c (a ++ c :: b) = some (a, b) := by
  induction a with
  | nil => simp [cut]
  | cons d ds ih =>
    rw [List.mem_cons, not_or] at h
    rw [List.cons_append, cut, if_neg (Ne.symm h.1), ih h.2]
    rfl

theorem notMem_of_containsAny {s chars : String} (h : containsAny s chars = false) {c : Char}
    (hc : c ∈ chars.toList) : c ∉ s.toList := by
  intro hs
  rw [containsAny, List.any_eq_false] at h
  exact h c hs (List.contains_iff_mem.mpr hc)

theorem dropWhile_of_forall {α : Type} {p : α → Bool} {l : List α} (h : ∀ x ∈ l, p x = false) :
    l.dropWhile p = l := by
  rcases l with _ | ⟨x, l⟩
  · rfl
  · rw [List.dropWhile_cons, h x List.mem_cons_self]
    rfl

/-- There is nothing to trim. -/
theorem trim_of_notMem {s chars : String} (h : ∀ c ∈ chars.toList, c ∉ s.toList) :
    trim s chars = s := by
  have hkeep : ∀ c ∈ s.toList, chars.toList.contains c = false := by
    intro c hc
    rw [← Bool.not_eq_true, List.contains_iff_mem]
    exact fun hchars ↦ h c hchars hc
  have hback : ∀ c ∈ s.toList.reverse, chars.toList.contains c = false :=
    fun c hc ↦ hkeep c (List.mem_reverse.mp hc)
  rw [trim, dropWhile_of_forall hkeep, dropWhile_of_forall hback, List.reverse_reverse,
    String.ofList_toList]

/-! ## Trimming and cutting -/

theorem occurs_iff (sub cs : List Char) : occurs sub cs = true ↔ sub <:+: cs := by
  induction cs with
  | nil => simp [occurs]
  | cons c cs ih =>
    rw [occurs, Bool.or_eq_true, ih, List.isPrefixOf_iff_prefix, List.infix_cons_iff]

theorem startsWith_append (s : String) (l : List Char) :
    startsWith (String.ofList (s.toList ++ l)) s = true := by
  simp [startsWith]

theorem endsWith_append (s : String) (l : List Char) :
    endsWith (String.ofList (l ++ s.toList)) s = true := by
  simp [endsWith]

theorem cutStart_append (s : String) (l : List Char) :
    cutStart (String.ofList (s.toList ++ l)) s = String.ofList l := by
  rw [cutStart, startsWith_append, if_pos rfl]
  simp [← String.length_toList]

theorem cutEnd_append (s : String) (l : List Char) :
    cutEnd (String.ofList (l ++ s.toList)) s = String.ofList l := by
  rw [cutEnd, endsWith_append, if_pos rfl]
  simp [← String.length_toList]

theorem toList_trimSpace (cs : List Char) : (trimSpace (String.ofList cs)).toList =
    ((cs.dropWhile isSpace).reverse.dropWhile isSpace).reverse := by
  rw [trimSpace, String.toList_ofList, String.toList_ofList]

/-- White space goes, and what stands between it and has none at its ends stays. -/
theorem trimSpace_append {a m b : List Char} {x y : Char} (ha : ∀ c ∈ a, isSpace c = true)
    (hb : ∀ c ∈ b, isSpace c = true) (hx : m.head? = some x) (hspace : isSpace x = false)
    (hy : m.getLast? = some y) (hspace' : isSpace y = false) :
    trimSpace (String.ofList (a ++ (m ++ b))) = String.ofList m := by
  obtain ⟨l, rfl⟩ := List.head?_eq_some_iff.mp hx
  have hfront : ((a ++ (x :: l ++ b)).dropWhile isSpace) = x :: l ++ b := by
    rw [List.dropWhile_append_of_pos ha, List.cons_append, List.dropWhile_cons, hspace]
    rfl
  have hback : ((x :: l ++ b).reverse.dropWhile isSpace) = (x :: l).reverse := by
    obtain ⟨l', hl'⟩ := List.head?_eq_some_iff.mp ((List.head?_reverse).trans hy)
    rw [List.reverse_append, List.dropWhile_append_of_pos (by simpa using hb), hl',
      List.dropWhile_cons, hspace']
    rfl
  rw [trimSpace, String.toList_ofList, hfront, hback, List.reverse_reverse]

/-- White space that is added at the end does not show. -/
theorem trimSpace_append_spaces (a : List Char) {b : List Char} (hb : ∀ c ∈ b, isSpace c = true) :
    trimSpace (String.ofList (a ++ b)) = trimSpace (String.ofList a) := by
  rw [trimSpace, trimSpace, String.toList_ofList, String.toList_ofList, List.dropWhile_append]
  split
  · rename_i hnil
    rw [List.isEmpty_iff.mp hnil, List.dropWhile_eq_nil_iff.mpr hb]
  · rw [List.reverse_append, List.dropWhile_append_of_pos (by simpa using hb)]

theorem length_trimSpace_le (s : String) : (trimSpace s).length ≤ s.length := by
  rw [trimSpace, String.length_ofList, List.length_reverse, ← String.length_toList]
  refine (List.dropWhile_suffix _).length_le.trans ?_
  rw [List.length_reverse]
  exact (List.dropWhile_suffix _).length_le

theorem length_toLower (lower : Char → Char) (s : String) :
    (toLower lower s).length = s.length := by
  rw [toLower, String.length_ofList, List.length_map, String.length_toList]

theorem dropWhile_append_of_exists {α : Type} {p : α → Bool} {a : List α}
    (h : ∃ c ∈ a, p c = false) (b : List α) :
    ∃ c r, c ∈ a ∧ p c = false ∧ (a ++ b).dropWhile p = c :: (r ++ b) := by
  induction a with
  | nil => simp at h
  | cons d a ih =>
    rcases hd : p d with _ | _
    · exact ⟨d, a, List.mem_cons_self, hd, by simp [hd]⟩
    · obtain ⟨c, hc, hpc⟩ := h
      rcases List.mem_cons.mp hc with rfl | hc
      · rw [hd] at hpc
        cases hpc
      · obtain ⟨c, r, hc, hpc, heq⟩ := ih ⟨c, hc, hpc⟩
        exact ⟨c, r, List.mem_cons_of_mem d hc, hpc, by simp [hd, heq]⟩

/-- Trimming leaves a text that begins with one of the characters at the start that are no white
space. -/
theorem head_trimSpace {a : List Char} (h : ∃ c ∈ a, isSpace c = false) (b : List Char) :
    ∃ c ∈ a, (trimSpace (String.ofList (a ++ b))).toList.head? = some c := by
  obtain ⟨c, r, hc, hspace, heq⟩ := dropWhile_append_of_exists h b
  refine ⟨c, hc, ?_⟩
  rw [toList_trimSpace, heq, List.head?_reverse, List.reverse_cons]
  rcases hback : (r ++ b).reverse.dropWhile isSpace with _ | ⟨d, l⟩
  · rw [List.dropWhile_append, hback]
    simp [hspace]
  · rw [List.dropWhile_append, hback]
    exact List.getLast?_concat

/-- It ends with one of the characters at the end that are no white space. -/
theorem getLast_trimSpace {a b : List Char} (ha : ∃ c ∈ a, isSpace c = false)
    (hb : ∃ c ∈ b, isSpace c = false) :
    ∃ c ∈ b, (trimSpace (String.ofList (a ++ b))).toList.getLast? = some c := by
  obtain ⟨c, r, -, -, heq⟩ := dropWhile_append_of_exists ha b
  obtain ⟨d, r', hd, -, hback⟩ := dropWhile_append_of_exists
    (by simpa using hb : ∃ d ∈ b.reverse, isSpace d = false) (c :: r).reverse
  refine ⟨d, List.mem_reverse.mp hd, ?_⟩
  rw [toList_trimSpace, heq, ← List.cons_append, List.reverse_append, hback,
    List.getLast?_reverse]
  rfl

/-! ## Lengths -/

theorem utf8ByteSize_ofList_cons (c : Char) (cs : List Char) :
    (String.ofList (c :: cs)).utf8ByteSize = c.utf8Size + (String.ofList cs).utf8ByteSize := by
  rw [← List.singleton_append, String.ofList_append, String.utf8ByteSize_append]
  simp

theorem length_le_utf8ByteSize_ofList (cs : List Char) :
    cs.length ≤ (String.ofList cs).utf8ByteSize := by
  induction cs with
  | nil => simp
  | cons c cs ih =>
    have hpos := c.utf8Size_pos
    rw [utf8ByteSize_ofList_cons, List.length_cons]
    omega

theorem length_le_utf8ByteSize (s : String) : s.length ≤ s.utf8ByteSize := by
  have h := length_le_utf8ByteSize_ofList s.toList
  rwa [String.length_toList, String.ofList_toList] at h

theorem length_cutBytes {n : ℕ} {cs ds : List Char} (h : cutBytes n cs = some ds) :
    ds.length ≤ n := by
  induction cs generalizing n ds with
  | nil =>
    obtain rfl : [] = ds := Option.some.inj h
    exact Nat.zero_le n
  | cons c cs ih =>
    rw [cutBytes] at h
    split_ifs at h with hn hc
    · cases h
      simp
    · obtain ⟨es, hes, rfl⟩ := Option.map_eq_some_iff.mp h
      have := ih hes
      have := c.utf8Size_pos
      simp
      omega

theorem length_sliceTo {s t : String} {n : ℕ} (h : sliceTo s n = some t) : t.length ≤ n := by
  obtain ⟨ds, hds, rfl⟩ := Option.map_eq_some_iff.mp h
  simpa using length_cutBytes hds

/-- The first `n` bytes of the characters, or all of them if there are fewer, are whole
characters. -/
def CutsBetween (n : ℕ) (cs : List Char) : Prop :=
  (String.ofList cs).utf8ByteSize ≤ n ∨
    ∃ ds es, cs = ds ++ es ∧ (String.ofList ds).utf8ByteSize = n

/-- When a cut leaves valid UTF-8. -/
theorem isSome_cutBytes_iff (n : ℕ) (cs : List Char) :
    (cutBytes n cs).isSome = true ↔ CutsBetween n cs := by
  induction cs generalizing n with
  | nil => simp [cutBytes, CutsBetween]
  | cons c cs ih =>
    have hpos := c.utf8Size_pos
    -- a cut after some of the characters is at the start, or after the first one and some others
    have hcut : (∃ ds es, c :: cs = ds ++ es ∧ (String.ofList ds).utf8ByteSize = n) ↔
        n = 0 ∨ ∃ ds es, cs = ds ++ es ∧ c.utf8Size + (String.ofList ds).utf8ByteSize = n := by
      constructor
      · rintro ⟨ds, es, heq, hsize⟩
        rcases ds with _ | ⟨d, ds⟩
        · exact Or.inl (by simpa using hsize.symm)
        · obtain ⟨rfl, rfl⟩ := List.cons.inj heq
          exact Or.inr ⟨ds, es, rfl, by rw [← hsize, utf8ByteSize_ofList_cons]⟩
      · rintro (rfl | ⟨ds, es, rfl, hsize⟩)
        · exact ⟨[], c :: cs, rfl, by simp⟩
        · exact ⟨c :: ds, es, rfl, by rw [← hsize, utf8ByteSize_ofList_cons]⟩
    rw [cutBytes, CutsBetween, utf8ByteSize_ofList_cons, hcut]
    split_ifs with hn hc
    · simp [hn]
    · rw [Option.isSome_map, ih, CutsBetween]
      refine or_congr (by omega) ⟨?_, ?_⟩
      · rintro ⟨ds, es, heq, hsize⟩
        exact Or.inr ⟨ds, es, heq, by omega⟩
      · rintro (hzero | ⟨ds, es, heq, hsize⟩)
        · exact absurd hzero hn
        · exact ⟨ds, es, heq, by omega⟩
    · simp only [Option.isSome_none, Bool.false_eq_true, false_iff, not_or, not_exists, not_and]
      exact ⟨by omega, hn, fun ds es _ ↦ by omega⟩

theorem isSome_sliceTo_iff (s : String) (n : ℕ) :
    (sliceTo s n).isSome = true ↔ CutsBetween n s.toList := by
  rw [sliceTo, Option.isSome_map, isSome_cutBytes_iff]

/-! ## Wrapping round -/

theorem neg_le_int32 (x : Int) : -2147483648 ≤ int32 x := by
  rw [int32]
  have := Int.le_bmod (x := x) (m := 2 ^ 32) (by decide)
  omega

/-- Wrapping round only ever makes a number smaller, as long as it was not below the range. -/
theorem int32_le {x : Int} (h : -2147483648 ≤ x) : int32 x ≤ x := by
  rw [int32, Int.bmod_def]
  split <;> omega

theorem int32_of_lt {x : Int} (h : -2147483648 ≤ x) (h' : x < 2147483648) : int32 x = x := by
  rw [int32, Int.bmod_def]
  split <;> omega

theorem int32_succ_ne (x : Int) : int32 (x + 1) ≠ x := by
  rw [int32, Int.bmod_def]
  split <;> omega

/-- The same for the wider integers. -/
theorem int64_le {x : Int} (h : -2 ^ 63 ≤ x) : int64 x ≤ x := by
  rw [int64, Int.bmod_def]
  split <;> omega

theorem int64_of_lt {x : Int} (h : 0 ≤ x) (h' : x < 2 ^ 63) : int64 x = x := by
  rw [int64, Int.bmod_def]
  split <;> omega

end Text

import Maintainerd.Lib.Json
import Maintainerd.Lib.Text

/-!
# What PostgreSQL takes and keeps

The columns of a table do not take every value.  A text of any type is refused if it holds U+0000,
and so is a `jsonb` value with U+0000 in one of its strings or keys.  A `VARCHAR(n)` refuses what is
longer than `n` characters, unless all that is too much are blanks: those it cuts off without a
word, so that what is kept is not always what was written (`clip`).

A text that is kept is kept in full if it was short enough, and what is cut has exactly `n`
characters.  So a comparison of a column with a shorter word cannot tell the two apart, which is
`clip_eq_iff`.
-/

set_option autoImplicit false

namespace Json

mutual

/-- Every string in the value meets `p`, the keys of its objects included. -/
def allTexts (p : String → Bool) : Json → Bool
  | .str s => p s
  | .arr vs => allTextsList p vs
  | .obj fields => allTextsFields p fields
  | _ => true

/-- `allTexts`, of the elements of an array. -/
def allTextsList (p : String → Bool) : List Json → Bool
  | [] => true
  | v :: vs => v.allTexts p && allTextsList p vs

/-- `allTexts`, of the fields of an object. -/
def allTextsFields (p : String → Bool) : List (String × Json) → Bool
  | [] => true
  | (key, v) :: fields => p key && v.allTexts p && allTextsFields p fields

end

theorem allTextsFields_eq_all (p : String → Bool) (fields : List (String × Json)) :
    allTextsFields p fields = fields.all fun f ↦ p f.1 && f.2.allTexts p := by
  induction fields with
  | nil => rfl
  | cons f fields ih => rw [List.all_cons, ← ih, allTextsFields]

end Json

namespace Postgres

/-- `TEXT`: a text without U+0000. -/
def text (s : String) : Bool := !s.toList.contains '\x00'

/-- `JSONB`, of an object. -/
def jsonb (m : JsonMap) : Bool := Json.allTextsFields text m

/-- `VARCHAR(n)`: what comes after the first `n` characters is blank. -/
def varchar (n : ℕ) (s : String) : Bool := text s && (s.toList.drop n).all (· == ' ')

/-- What a `VARCHAR(n)` keeps of a text it takes. -/
def clip (n : ℕ) (s : String) : String :=
  if s.length ≤ n then s else String.ofList (s.toList.take n)

variable {n : ℕ} {s : String}

theorem clip_of_length_le (h : s.length ≤ n) : clip n s = s := if_pos h

/-- A word that is short enough is kept as it is. -/
theorem clip_of_eq {word : String} (h : s = word) (hle : word.length ≤ n) : clip n s = word := by
  rw [h, clip_of_length_le hle]

theorem length_clip (n : ℕ) (s : String) : (clip n s).length = min n s.length := by
  rw [clip]
  split
  · rename_i hle
    exact (Nat.min_eq_right hle).symm
  · rw [String.length_ofList, List.length_take, String.length_toList]

theorem length_clip_le (n : ℕ) (s : String) : (clip n s).length ≤ n := by
  rw [length_clip]
  exact Nat.min_le_left _ _

/-- What is clipped is no shorter word. -/
theorem clip_eq_iff {word : String} (h : word.length < n) : clip n s = word ↔ s = word := by
  rw [clip]
  split
  · rfl
  · rename_i hlong
    constructor
    · intro e
      have hlen := congrArg String.length e
      rw [String.length_ofList, List.length_take, String.length_toList] at hlen
      omega
    · rintro rfl
      omega

theorem bne_clip {word : String} (h : word.length < n) : (clip n s != word) = (s != word) := by
  rw [Bool.eq_iff_iff, bne_iff_ne, bne_iff_ne, Ne, clip_eq_iff h]

theorem text_clip (h : text s = true) : text (clip n s) = true := by
  rw [clip]
  split
  · exact h
  · rw [text, Bool.not_eq_true', List.contains_eq_mem, decide_eq_false_iff_not] at h ⊢
    rw [String.toList_ofList]
    exact fun hmem ↦ h (List.mem_of_mem_take hmem)

theorem varchar_of_length_le (h : s.length ≤ n) : varchar n s = text s := by
  rw [varchar, List.drop_of_length_le (by rw [String.length_toList]; exact h), List.all_nil,
    Bool.and_true]

/-- The blanks that are cut off do not show where a text is trimmed. -/
theorem trimSpace_clip (h : varchar n s = true) : Text.trimSpace (clip n s) = Text.trimSpace s := by
  rw [clip]
  split
  · rfl
  · rw [varchar, Bool.and_eq_true, List.all_eq_true] at h
    have hspaces : ∀ c ∈ s.toList.drop n, Text.isSpace c = true := by
      intro c hc
      rw [beq_iff_eq.mp (h.2 c hc)]
      decide
    have hwhole := Text.trimSpace_append_spaces (s.toList.take n) hspaces
    rw [List.take_append_drop, String.ofList_toList] at hwhole
    exact hwhole.symm

/-- A number in decimal. -/
theorem text_toString (i : ℤ) : text (toString i) = true := by
  have hdigits : ∀ n : ℕ, '\x00' ∉ n.repr.toList := by
    intro n hmem
    rw [Nat.repr, String.toList_ofList] at hmem
    exact absurd (Nat.isDigit_of_mem_toDigits (by decide) (by decide) hmem) (by decide)
  rw [text, Bool.not_eq_true', List.contains_eq_mem, decide_eq_false_iff_not]
  cases i with
  | ofNat n => exact hdigits n
  | negSucc n =>
    show '\x00' ∉ ("-" ++ (n + 1).repr).toList
    rw [String.toList_append, List.mem_append]
    exact not_or.mpr ⟨by decide, hdigits (n + 1)⟩

/-- One object over another. -/
theorem jsonb_concat {m patch : JsonMap} (hm : jsonb m = true) (hpatch : jsonb patch = true) :
    jsonb (JsonMap.concat m patch) = true := by
  rw [jsonb, Json.allTextsFields_eq_all] at hm hpatch ⊢
  rw [JsonMap.concat, List.all_append, hpatch, Bool.and_true, List.all_filter]
  rw [List.all_eq_true] at hm ⊢
  intro f hf
  rw [hm f hf, Bool.or_true]

end Postgres

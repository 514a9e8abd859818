import Mathlib.Data.List.Basic

/-!
# JSON values

JSON as a decoded value: what Go holds in an `any` after `json.Unmarshal`, and what PostgreSQL
holds in a `jsonb` column.  An object is the list of its fields; a Go `map[string]any` and the
`jsonb` object it is stored as are the same `JsonMap`, and marshalling one into the other is the
identity.
-/

set_option autoImplicit false

/-- A JSON value.  A number is `mantissa · 10 ^ exponent`. -/
inductive Json where
  | null
  | bool (b : Bool)
  | num (mantissa exponent : Int)
  | str (s : String)
  | arr (vs : List Json)
  | obj (fields : List (String × Json))

/-- A JSON object, or a Go `map[string]any`. -/
abbrev JsonMap := List (String × Json)

namespace Json

/-- `v ->> … = s`, for a text `s` that is not the printed form of a number, an array or an
object. -/
def textIs (s : String) : Json → Bool
  | .str t => t == s
  | .bool b => (if b then "true" else "false") == s
  | _ => false

end Json

namespace JsonMap

/-- `m ->> key = s`, with SQL's null counted as false. -/
def textIs (m : JsonMap) (key s : String) : Bool := (m.lookup key).any (Json.textIs s)

/-- `m || patch`: the fields of `patch` win. -/
def concat (m patch : JsonMap) : JsonMap :=
  m.filter (fun f ↦ (patch.lookup f.1).isNone) ++ patch

theorem lookup_concat_of_some {m patch : JsonMap} {key : String} {v : Json}
    (h : patch.lookup key = some v) : (concat m patch).lookup key = some v := by
  have hnone : (m.filter fun f ↦ (patch.lookup f.1).isNone).lookup key = none := by
    refine List.lookup_eq_none_iff.mpr fun f hf ↦ ?_
    rw [bne_iff_ne]
    rintro rfl
    simp [h] at hf
  rw [concat, List.lookup_append, hnone, h]
  rfl

/-- `m[key].(string)`, with the type assertion. -/
def string? (m : JsonMap) (key : String) : Option String :=
  match m.lookup key with
  | some (.str s) => some s
  | _ => none

/-- `m[key].(map[string]any)`, with the type assertion. -/
def object? (m : JsonMap) (key : String) : Option JsonMap :=
  match m.lookup key with
  | some (.obj fields) => some fields
  | _ => none

end JsonMap

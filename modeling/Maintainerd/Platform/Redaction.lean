import Maintainerd.Lib.Run
import Maintainerd.Lib.Text

/-!
# What reaches the log

`internal/platform/logging`: the handler that stands between the loggers and the handler that writes
the lines.  It replaces the value of an attribute whose key is on a list of sensitive keys by
`[REDACTED]`, also inside groups, and takes the control characters out of all other strings.

The string at the end of a path of names may get there in three ways.  The names may be those of
group attributes, which the handler walks through; they may be those of groups that were opened with
`WithGroup`, which it passes on without a look; and they may be behind a `LogValuer`, which it takes
for a value like a number and which the handler that writes resolves later.  `Found` is a string
with its path cut into these three parts.  `redacts_iff` says for which sequences of calls the lines
come out as they should, and `group_and_valuer_leak` is one for which they do not.

The handler that writes is one that keeps to the contract of `log/slog`: a string is written with
the names of the groups it is in, the ones that are open and the ones of attributes, and what a
`LogValuer` stands for is written in its place.  A `LogValuer` is given by what `Resolve` makes
of it.
-/

set_option autoImplicit false

namespace Maintainerd.Logging

open Machine

/-! ## The model -/

/-- `slog.Value`.  The kinds that are neither strings, groups nor `LogValuer`s are one. -/
inductive Value where
  | string (s : String)
  | group (attrs : List (String × Value))
  | valuer (v : Value)
  | other (tag : ℕ)

/-- `slog.Attr`. -/
abbrev Attr : Type := String × Value

/-- `slog.Record`, without its time, level and program counter. -/
structure Record where
  message : String
  attrs : List Attr

/-- `piiFields`. -/
def piiFields : List String :=
  ["email", "email_address", "password", "password_hash", "hashed_password", "phone",
    "phone_number", "mobile", "token", "access_token", "id_token", "refresh_token", "api_key",
    "api_secret", "secret", "client_secret", "authorization", "cookie", "ssn", "credit_card",
    "card_number", "cvv"]

/-- `redacted`. -/
def redacted : String := "[REDACTED]"

/-- `isPIIKey`. -/
def isPIIKey (lower : Char → Char) (key : String) : Bool :=
  piiFields.contains (Text.toLower lower key)

/-- `isUnsafeLogRune`. -/
def isUnsafeLogRune (r : Char) : Bool :=
  if r = '\t' then false else r.val < 0x20 || (r.val ≥ 0x7f && r.val ≤ 0x9f)

/-- `neutralizeLogString`. -/
def neutralizeLogString (s : String) : String :=
  if !s.toList.any isUnsafeLogRune then s
  else String.ofList (s.toList.filter fun r ↦ !isUnsafeLogRune r)

mutual

/-- `redactAttr`: the value that an attribute is given; it keeps its key. -/
def redactAttr (lower : Char → Char) (key : String) : Value → Value
  | .string s =>
    if isPIIKey lower key then .string redacted else .string (neutralizeLogString s)
  | .group attrs =>
    if isPIIKey lower key then .string redacted else .group (redactAttrs lower attrs)
  | .valuer v => if isPIIKey lower key then .string redacted else .valuer v
  | .other tag => if isPIIKey lower key then .string redacted else .other tag

/-- The loop of `redactAttr`, which is also that of `Handle` and `WithAttrs`. -/
def redactAttrs (lower : Char → Char) : List Attr → List Attr
  | [] => []
  | (key, v) :: attrs => (key, redactAttr lower key v) :: redactAttrs lower attrs

end

/-- `slog.Handler`, on states of a type. -/
structure Handler (σ out : Type) where
  withAttrs : σ → List Attr → σ
  withGroup : σ → String → σ
  handle : σ → Record → out

/-- `PIIRedactHandler`. -/
def piiRedactHandler {σ out : Type} (lower : Char → Char) (inner : Handler σ out) :
    Handler σ out where
  withAttrs s attrs := inner.withAttrs s (redactAttrs lower attrs)
  withGroup s name := inner.withGroup s name
  handle s r := inner.handle s ⟨neutralizeLogString r.message, redactAttrs lower r.attrs⟩

/-- A call that derives a handler from another. -/
inductive Derivation where
  | withGroup (name : String)
  | withAttrs (attrs : List Attr)

/-- A handler is derived. -/
def Handler.derive {σ out : Type} (h : Handler σ out) (s : σ) : Derivation → σ
  | .withGroup name => h.withGroup s name
  | .withAttrs attrs => h.withAttrs s attrs

/-- A record is handled by a handler that was derived in some steps. -/
def Handler.log {σ out : Type} (h : Handler σ out) (s : σ) (ds : List Derivation) (r : Record) :
    out :=
  h.handle (run h.derive s ds) r

/-! ## The handler that writes -/

/-- A line: its message, and each string with its path. -/
structure Line where
  message : String
  fields : List (List String × String)

/-- The groups that are open, and what is on the line already. -/
structure Writer where
  opened : List String
  fields : List (List String × String)

mutual

/-- The strings of a value at a path. -/
def fields (path : List String) : Value → List (List String × String)
  | .string s => [(path, s)]
  | .group attrs => fieldsIn path attrs
  | .valuer v => fields path v
  | .other _ => []

/-- The strings of attributes in a group. -/
def fieldsIn (path : List String) : List Attr → List (List String × String)
  | [] => []
  | (key, v) :: attrs => fields (path ++ [key]) v ++ fieldsIn path attrs

end

/-- A handler that writes. -/
def writer : Handler Writer Line where
  withAttrs w attrs := { w with fields := w.fields ++ fieldsIn w.opened attrs }
  withGroup w name := { w with opened := w.opened ++ [name] }
  handle w r := ⟨r.message, w.fields ++ fieldsIn w.opened r.attrs⟩

/-- The line that is written. -/
def logged (lower : Char → Char) (ds : List Derivation) (r : Record) : Line :=
  (piiRedactHandler lower writer).log ⟨[], []⟩ ds r

/-! ## The strings of a log call -/

/-- Where a string is: the groups that were opened, the keys the handler sees on its way down, and
the keys behind a `LogValuer`, if it is behind one. -/
structure Spot where
  opened : List String
  seen : List String
  behind : Option (List String)

/-- The key path. -/
def Spot.path (sp : Spot) : List String := sp.opened ++ (sp.seen ++ sp.behind.getD [])

/-- At an attribute. -/
def Spot.down (sp : Spot) (key : String) : Spot :=
  match sp.behind with
  | none => { sp with seen := sp.seen ++ [key] }
  | some keys => { sp with behind := some (keys ++ [key]) }

/-- Behind a `LogValuer`. -/
def Spot.enter (sp : Spot) : Spot := { sp with behind := some (sp.behind.getD []) }

/-- A string, and where it is. -/
structure Found where
  spot : Spot
  text : String

mutual

/-- The strings of a value. -/
def strings (sp : Spot) : Value → List Found
  | .string s => [⟨sp, s⟩]
  | .group attrs => stringsIn sp attrs
  | .valuer v => strings sp.enter v
  | .other _ => []

/-- The strings of attributes. -/
def stringsIn (sp : Spot) : List Attr → List Found
  | [] => []
  | (key, v) :: attrs => strings (sp.down key) v ++ stringsIn sp attrs

end

/-- Attributes where some groups are open. -/
def Spot.top (opened : List String) : Spot := ⟨opened, [], none⟩

/-- The strings of a sequence of calls and the record that is logged. -/
def given (opened : List String) : List Derivation → Record → List Found
  | [], r => stringsIn (.top opened) r.attrs
  | .withGroup name :: ds, r => given (opened ++ [name]) ds r
  | .withAttrs attrs :: ds, r => stringsIn (.top opened) attrs ++ given opened ds r

/-- A path with a sensitive key. -/
def sensitive (lower : Char → Char) (path : List String) : Bool := path.any (isPIIKey lower)

/-- The line comes out as it should: what is written at a sensitive path is the mark, and what is
written at the others is what was given there, without control characters. -/
structure Redacts (lower : Char → Char) (ds : List Derivation) (r : Record) (line : Line) :
    Prop where
  message : line.message = neutralizeLogString r.message
  marked : ∀ f ∈ line.fields, sensitive lower f.1 = true → f.2 = redacted
  kept : line.fields.filter (fun f ↦ !sensitive lower f.1) =
    ((given [] ds r).filter fun f ↦ !sensitive lower f.spot.path).map fun f ↦
      (f.spot.path, neutralizeLogString f.text)

/-! ## Walking through values -/

theorem path_down (sp : Spot) (key : String) : (sp.down key).path = sp.path ++ [key] := by
  obtain ⟨opened, seen, _ | keys⟩ := sp <;> simp [Spot.down, Spot.path]

theorem path_enter (sp : Spot) : sp.enter.path = sp.path := rfl

theorem path_top (opened : List String) : (Spot.top opened).path = opened := List.append_nil opened

/-- What is written of a string. -/
def Found.field (f : Found) : List String × String := (f.spot.path, f.text)

mutual

theorem fields_eq (sp : Spot) : (v : Value) → fields sp.path v = (strings sp v).map Found.field
  | .string s => by rw [fields, strings]; rfl
  | .group attrs => by rw [fields, strings, fieldsIn_eq]
  | .valuer v => by rw [fields, strings, ← fields_eq sp.enter v, path_enter]
  | .other _ => by rw [fields, strings]; rfl

theorem fieldsIn_eq (sp : Spot) :
    (attrs : List Attr) → fieldsIn sp.path attrs = (stringsIn sp attrs).map Found.field
  | [] => by rw [fieldsIn, stringsIn]; rfl
  | (key, v) :: attrs => by
    rw [fieldsIn, stringsIn, List.map_append, ← path_down, fields_eq (sp.down key) v,
      fieldsIn_eq sp attrs]

end

/-- A spot that is further down. -/
structure Spot.Below (sp sp' : Spot) : Prop where
  seen : sp.seen <+: sp'.seen
  behind : sp.behind.isSome = true → sp'.behind.isSome = true ∧ sp'.seen = sp.seen

theorem Spot.Below.refl (sp : Spot) : sp.Below sp := ⟨List.prefix_rfl, fun h ↦ ⟨h, rfl⟩⟩

theorem Spot.Below.trans {sp sp' sp'' : Spot} (h : sp.Below sp') (h' : sp'.Below sp'') :
    sp.Below sp'' := by
  refine ⟨h.seen.trans h'.seen, fun hbehind ↦ ?_⟩
  obtain ⟨hbehind', heq⟩ := h.behind hbehind
  obtain ⟨hbehind'', heq'⟩ := h'.behind hbehind'
  exact ⟨hbehind'', heq'.trans heq⟩

theorem below_down (sp : Spot) (key : String) : sp.Below (sp.down key) := by
  obtain ⟨opened, seen, _ | keys⟩ := sp
  · exact ⟨List.prefix_append _ _, by rintro ⟨⟩⟩
  · exact ⟨List.prefix_rfl, fun _ ↦ ⟨rfl, rfl⟩⟩

theorem below_enter (sp : Spot) : sp.Below sp.enter := ⟨List.prefix_rfl, fun _ ↦ ⟨rfl, rfl⟩⟩

mutual

theorem below_strings (sp : Spot) : (v : Value) → ∀ f ∈ strings sp v, sp.Below f.spot
  | .string s => by
    intro f hf
    rw [strings, List.mem_singleton] at hf
    subst hf
    exact .refl sp
  | .group attrs => by
    rw [strings]
    exact below_stringsIn sp attrs
  | .valuer v => by
    rw [strings]
    exact fun f hf ↦ (below_enter sp).trans (below_strings sp.enter v f hf)
  | .other _ => by
    rw [strings]
    exact List.forall_mem_nil _

theorem below_stringsIn (sp : Spot) :
    (attrs : List Attr) → ∀ f ∈ stringsIn sp attrs, sp.Below f.spot
  | [] => by
    rw [stringsIn]
    exact List.forall_mem_nil _
  | (key, v) :: attrs => by
    intro f hf
    rw [stringsIn, List.mem_append] at hf
    rcases hf with hf | hf
    · exact (below_down sp key).trans (below_strings (sp.down key) v f hf)
    · exact below_stringsIn sp attrs f hf

end

/-! ## What redaction does to the strings -/

variable {lower : Char → Char}

/-- A key that the handler sees on its way to the string is sensitive. -/
def Found.hidden (lower : Char → Char) (f : Found) : Bool := sensitive lower f.spot.seen

/-- A string that is passed on: the control characters are taken out, unless it is behind a
`LogValuer`. -/
def Found.shown (f : Found) : Found :=
  { f with text := if f.spot.behind.isSome then f.text else neutralizeLogString f.text }

theorem hidden_of_below {sp : Spot} {f : Found} (h : sp.Below f.spot)
    (hseen : sensitive lower sp.seen = true) : f.hidden lower = true := by
  rw [sensitive, List.any_eq_true] at hseen
  obtain ⟨key, hkey, hpii⟩ := hseen
  rw [Found.hidden, sensitive, List.any_eq_true]
  exact ⟨key, h.seen.subset hkey, hpii⟩

theorem seen_down {sp : Spot} (hsp : sp.behind = none) (key : String) :
    (sp.down key).seen = sp.seen ++ [key] ∧ (sp.down key).behind = none := by
  obtain ⟨opened, seen, behind⟩ := sp
  obtain rfl : behind = none := hsp
  exact ⟨rfl, rfl⟩

/-- Below a sensitive key nothing is passed on. -/
theorem filter_strings_hidden {sp : Spot} (hseen : sensitive lower sp.seen = true) (v : Value) :
    (strings sp v).filter (fun f ↦ !f.hidden lower) = [] := by
  rw [List.filter_eq_nil_iff]
  intro f hf
  rw [hidden_of_below (below_strings sp v f hf) hseen]
  decide

/-- Behind a `LogValuer` a string is passed on as it is. -/
theorem shown_behind {f : Found} (h : f.spot.behind.isSome = true) : f.shown = f := by
  rw [Found.shown, if_pos h]

theorem sensitive_append (path : List String) (key : String) :
    sensitive lower (path ++ [key]) = (sensitive lower path || isPIIKey lower key) := by
  simp [sensitive]

theorem redactAttr_of_pii {key : String} (h : isPIIKey lower key = true) (v : Value) :
    redactAttr lower key v = .string redacted := by
  cases v <;> rw [redactAttr, if_pos h]

/-- An attribute whose key is not sensitive, by the kind of its value. -/
theorem redactAttr_of_not_pii {key : String} (h : isPIIKey lower key = false) :
    (∀ s, redactAttr lower key (.string s) = .string (neutralizeLogString s)) ∧
      (∀ attrs, redactAttr lower key (.group attrs) = .group (redactAttrs lower attrs)) ∧
      (∀ v, redactAttr lower key (.valuer v) = .valuer v) ∧
      ∀ tag, redactAttr lower key (.other tag) = .other tag := by
  have hne : ¬ isPIIKey lower key = true := Bool.eq_false_iff.mp h
  refine ⟨fun s ↦ ?_, fun attrs ↦ ?_, fun v ↦ ?_, fun tag ↦ ?_⟩ <;> rw [redactAttr, if_neg hne]

theorem sensitive_down {sp : Spot} (hsp : sp.behind = none)
    (hseen : sensitive lower sp.seen = false) {key : String} (hpii : ¬ isPIIKey lower key = true) :
    sensitive lower (sp.down key).seen = false := by
  rw [(seen_down hsp key).1, sensitive_append, hseen, Bool.eq_false_iff.mpr hpii]
  rfl

/-- Nothing of an attribute with a sensitive key is passed on. -/
theorem filter_redactAttr_of_pii {sp : Spot} (hsp : sp.behind = none) {key : String}
    (hpii : isPIIKey lower key = true) (v : Value) :
    (strings (sp.down key) (redactAttr lower key v)).filter (fun f ↦ !f.hidden lower) =
      ((strings (sp.down key) v).filter fun f ↦ !f.hidden lower).map Found.shown := by
  have hhidden : sensitive lower (sp.down key).seen = true := by
    rw [(seen_down hsp key).1, sensitive_append, hpii, Bool.or_true]
  rw [filter_strings_hidden hhidden, filter_strings_hidden hhidden]
  rfl

theorem marked_redactAttr_of_pii {sp : Spot} {key : String} (hpii : isPIIKey lower key = true)
    (v : Value) :
    ∀ f ∈ strings sp (redactAttr lower key v), f.hidden lower = true → f.text = redacted := by
  rw [redactAttr_of_pii hpii, strings]
  intro f hf _
  rw [List.mem_singleton.mp hf]

/-- What is behind a `LogValuer` is passed on as it is. -/
theorem map_shown_enter (sp : Spot) (v : Value) :
    ((strings sp.enter v).filter fun f ↦ !f.hidden lower).map Found.shown =
      (strings sp.enter v).filter fun f ↦ !f.hidden lower := by
  have hsame : ∀ f ∈ (strings sp.enter v).filter (fun f ↦ !f.hidden lower), f.shown = id f :=
    fun f hf ↦ shown_behind
      ((below_strings sp.enter v f (List.mem_of_mem_filter hf)).behind rfl).1
  rw [List.map_congr_left hsame, List.map_id]

mutual

/-- Of a redacted attribute just the strings that no sensitive key leads to are passed on. -/
theorem filter_redactAttr {sp : Spot} (hsp : sp.behind = none) (key : String) : (v : Value) →
    (strings (sp.down key) (redactAttr lower key v)).filter (fun f ↦ !f.hidden lower) =
      ((strings (sp.down key) v).filter fun f ↦ !f.hidden lower).map Found.shown
  | .string s => by
    by_cases hpii : isPIIKey lower key = true
    · exact filter_redactAttr_of_pii hsp hpii (.string s)
    · rw [(redactAttr_of_not_pii (Bool.eq_false_iff.mpr hpii)).1, strings, strings]
      rcases hhidden : sensitive lower (sp.down key).seen with _ | _ <;>
        simp [Found.hidden, hhidden, Found.shown, (seen_down hsp key).2]
  | .group attrs => by
    by_cases hpii : isPIIKey lower key = true
    · exact filter_redactAttr_of_pii hsp hpii (.group attrs)
    · rw [(redactAttr_of_not_pii (Bool.eq_false_iff.mpr hpii)).2.1, strings, strings]
      exact filter_redactAttrs (seen_down hsp key).2 attrs
  | .valuer v => by
    by_cases hpii : isPIIKey lower key = true
    · exact filter_redactAttr_of_pii hsp hpii (.valuer v)
    · rw [(redactAttr_of_not_pii (Bool.eq_false_iff.mpr hpii)).2.2.1, strings, map_shown_enter]
  | .other tag => by
    by_cases hpii : isPIIKey lower key = true
    · exact filter_redactAttr_of_pii hsp hpii (.other tag)
    · rw [(redactAttr_of_not_pii (Bool.eq_false_iff.mpr hpii)).2.2.2, strings]
      rfl

theorem filter_redactAttrs {sp : Spot} (hsp : sp.behind = none) : (attrs : List Attr) →
    (stringsIn sp (redactAttrs lower attrs)).filter (fun f ↦ !f.hidden lower) =
      ((stringsIn sp attrs).filter fun f ↦ !f.hidden lower).map Found.shown
  | [] => by
    rw [redactAttrs, stringsIn]
    rfl
  | (key, v) :: attrs => by
    rw [redactAttrs, stringsIn, stringsIn, List.filter_append, List.filter_append, List.map_append,
      filter_redactAttr hsp key v, filter_redactAttrs hsp attrs]

end

mutual

/-- What a sensitive key leads to is the mark. -/
theorem marked_redactAttr {sp : Spot} (hsp : sp.behind = none)
    (hseen : sensitive lower sp.seen = false) (key : String) : (v : Value) →
    ∀ f ∈ strings (sp.down key) (redactAttr lower key v), f.hidden lower = true → f.text = redacted
  | .string s => by
    by_cases hpii : isPIIKey lower key = true
    · exact marked_redactAttr_of_pii hpii (.string s)
    · rw [(redactAttr_of_not_pii (Bool.eq_false_iff.mpr hpii)).1, strings]
      intro f hf hhidden
      rw [List.mem_singleton.mp hf, Found.hidden, sensitive_down hsp hseen hpii] at hhidden
      cases hhidden
  | .group attrs => by
    by_cases hpii : isPIIKey lower key = true
    · exact marked_redactAttr_of_pii hpii (.group attrs)
    · rw [(redactAttr_of_not_pii (Bool.eq_false_iff.mpr hpii)).2.1, strings]
      exact marked_redactAttrs (seen_down hsp key).2 (sensitive_down hsp hseen hpii) attrs
  | .valuer v => by
    by_cases hpii : isPIIKey lower key = true
    · exact marked_redactAttr_of_pii hpii (.valuer v)
    · rw [(redactAttr_of_not_pii (Bool.eq_false_iff.mpr hpii)).2.2.1, strings]
      intro f hf hhidden
      -- the handler sees no key behind the `LogValuer`
      have hsame := ((below_strings (sp.down key).enter v f hf).behind rfl).2
      rw [Found.hidden, hsame] at hhidden
      exact absurd hhidden (Bool.eq_false_iff.mp (sensitive_down hsp hseen hpii))
  | .other tag => by
    by_cases hpii : isPIIKey lower key = true
    · exact marked_redactAttr_of_pii hpii (.other tag)
    · rw [(redactAttr_of_not_pii (Bool.eq_false_iff.mpr hpii)).2.2.2, strings]
      exact List.forall_mem_nil _

theorem marked_redactAttrs {sp : Spot} (hsp : sp.behind = none)
    (hseen : sensitive lower sp.seen = false) : (attrs : List Attr) →
    ∀ f ∈ stringsIn sp (redactAttrs lower attrs), f.hidden lower = true → f.text = redacted
  | [] => by
    rw [redactAttrs, stringsIn]
    exact List.forall_mem_nil _
  | (key, v) :: attrs => by
    rw [redactAttrs, stringsIn]
    intro f hf
    rcases List.mem_append.mp hf with hf | hf
    · exact marked_redactAttr hsp hseen key v f hf
    · exact marked_redactAttrs hsp hseen attrs f hf

end

/-! ## What redaction does to a line -/

/-- A call as it is passed on. -/
def Derivation.passed (lower : Char → Char) : Derivation → Derivation
  | .withGroup name => .withGroup name
  | .withAttrs attrs => .withAttrs (redactAttrs lower attrs)

/-- A record as it is passed on. -/
def Record.passed (lower : Char → Char) (r : Record) : Record :=
  ⟨neutralizeLogString r.message, redactAttrs lower r.attrs⟩

/-- The line is written of the calls and the record that are passed on. -/
theorem fields_log (w : Writer) (ds : List Derivation) (r : Record) :
    ((piiRedactHandler lower writer).log w ds r).fields = w.fields ++
      (given w.opened (ds.map (Derivation.passed lower)) (r.passed lower)).map Found.field := by
  induction ds generalizing w with
  | nil =>
    rw [List.map_nil, given, ← fieldsIn_eq, path_top]
    rfl
  | cons d ds ih =>
    cases d with
    | withGroup name => exact ih { w with opened := w.opened ++ [name] }
    | withAttrs attrs =>
      have hrest := ih { w with fields := w.fields ++ fieldsIn w.opened (redactAttrs lower attrs) }
      rw [List.map_cons, Derivation.passed, given, List.map_append, ← fieldsIn_eq, path_top,
        ← List.append_assoc]
      exact hrest

theorem filter_given (opened : List String) (ds : List Derivation) (r : Record) :
    (given opened (ds.map (Derivation.passed lower)) (r.passed lower)).filter
        (fun f ↦ !f.hidden lower) =
      ((given opened ds r).filter fun f ↦ !f.hidden lower).map Found.shown := by
  induction ds generalizing opened with
  | nil => exact filter_redactAttrs rfl r.attrs
  | cons d ds ih =>
    cases d with
    | withGroup name => exact ih (opened ++ [name])
    | withAttrs attrs =>
      rw [List.map_cons, Derivation.passed, given, given, List.filter_append, List.filter_append,
        List.map_append, filter_redactAttrs rfl attrs, ih opened]

theorem marked_given (opened : List String) (ds : List Derivation) (r : Record) :
    ∀ f ∈ given opened (ds.map (Derivation.passed lower)) (r.passed lower),
      f.hidden lower = true → f.text = redacted := by
  induction ds generalizing opened with
  | nil => exact marked_redactAttrs rfl rfl r.attrs
  | cons d ds ih =>
    cases d with
    | withGroup name => exact ih (opened ++ [name])
    | withAttrs attrs =>
      rw [List.map_cons, Derivation.passed, given]
      intro f hf
      rcases List.mem_append.mp hf with hf | hf
      · exact marked_redactAttrs rfl rfl attrs f hf
      · exact ih opened f hf

/-! ## When a line comes out as it should -/

/-- A string that the handler deals with as it should.  It does if it sees a sensitive key on its
way.  If it sees none, then no group that was opened and no key behind a `LogValuer` is sensitive,
unless the string is the mark itself; and a string behind a `LogValuer` has no control
characters. -/
def Covered (lower : Char → Char) (f : Found) : Prop :=
  f.hidden lower = true ∨
    if sensitive lower f.spot.path then f.shown.text = redacted
    else f.spot.behind.isSome = true → neutralizeLogString f.text = f.text

theorem sensitive_of_hidden {f : Found} (h : f.hidden lower = true) :
    sensitive lower f.spot.path = true := by
  rw [Found.hidden, sensitive] at h
  rw [sensitive, Spot.path, List.any_append, List.any_append, h]
  simp

/-- The strings at paths that are not sensitive are passed on, and no others get there. -/
theorem filter_path_given (ds : List Derivation) (r : Record) :
    (given [] (ds.map (Derivation.passed lower)) (r.passed lower)).filter
        (fun f ↦ !sensitive lower f.spot.path) =
      ((given [] ds r).filter fun f ↦ !sensitive lower f.spot.path).map Found.shown := by
  have hboth : ∀ l : List Found, l.filter (fun f ↦ !sensitive lower f.spot.path) =
      (l.filter fun f ↦ !f.hidden lower).filter fun f ↦ !sensitive lower f.spot.path := by
    intro l
    rw [List.filter_filter]
    refine List.filter_congr fun f _ ↦ ?_
    rcases hhidden : f.hidden lower with _ | _
    · rw [Bool.not_false, Bool.and_true]
    · rw [sensitive_of_hidden hhidden]
      rfl
  rw [hboth, filter_given, List.filter_map, hboth (given [] ds r)]
  rfl

/-- **When a line comes out as it should.**  Whatever groups were opened and attributes were added
before a record is logged, the line is as it should be exactly if every string that was given is
covered. -/
theorem redacts_iff (lower : Char → Char) (ds : List Derivation) (r : Record) :
    Redacts lower ds r (logged lower ds r) ↔ ∀ f ∈ given [] ds r, Covered lower f := by
  have hfields : (logged lower ds r).fields =
      (given [] (ds.map (Derivation.passed lower)) (r.passed lower)).map Found.field :=
    fields_log ⟨[], []⟩ ds r
  have hshown : ∀ g, g ∈ given [] (ds.map (Derivation.passed lower)) (r.passed lower) ∧
      g.hidden lower = false ↔ ∃ f ∈ given [] ds r, f.hidden lower = false ∧ f.shown = g := by
    intro g
    have hmem := congrArg (g ∈ ·) (@filter_given lower [] ds r)
    simpa [and_assoc] using hmem
  have hkept : (logged lower ds r).fields.filter (fun f ↦ !sensitive lower f.1) =
      ((given [] ds r).filter fun f ↦ !sensitive lower f.spot.path).map fun f ↦
        (f.spot.path, f.shown.text) := by
    rw [hfields, List.filter_map]
    refine (congrArg (List.map Found.field) (filter_path_given ds r)).trans ?_
    rw [List.map_map]
    rfl
  constructor
  · rintro ⟨-, hmarked, hsame⟩ f hf
    rw [hkept, List.map_inj_left] at hsame
    rcases hhidden : f.hidden lower with _ | _
    swap
    · exact Or.inl hhidden
    refine Or.inr ?_
    split_ifs with hpath
    · have hpassed := ((hshown f.shown).mpr ⟨f, hf, hhidden, rfl⟩).1
      refine hmarked f.shown.field ?_ hpath
      rw [hfields]
      exact List.mem_map_of_mem hpassed
    · intro hbehind
      have htext := hsame f (List.mem_filter.mpr ⟨hf, by simpa using hpath⟩)
      rw [shown_behind hbehind] at htext
      exact (Prod.ext_iff.mp htext).2.symm
  · intro hcovered
    refine ⟨rfl, fun x hx hpath ↦ ?_, ?_⟩
    · rw [hfields] at hx
      obtain ⟨g, hg, rfl⟩ := List.mem_map.mp hx
      rcases hhidden : g.hidden lower with _ | _
      · obtain ⟨f, hf, hseen, rfl⟩ := (hshown g).mp ⟨hg, hhidden⟩
        have hright := (hcovered f hf).resolve_left (by rw [hseen]; decide)
        have hpath : sensitive lower f.spot.path = true := hpath
        rwa [if_pos hpath] at hright
      · exact marked_given [] ds r g hg hhidden
    · rw [hkept, List.map_inj_left]
      intro f hf
      obtain ⟨hf, hpath⟩ := List.mem_filter.mp hf
      have hnot : ¬ sensitive lower f.spot.path = true := by simpa using hpath
      have hright := (hcovered f hf).resolve_left fun hhidden ↦ hnot (sensitive_of_hidden hhidden)
      rw [if_neg hnot] at hright
      by_cases hbehind : f.spot.behind.isSome = true
      · rw [shown_behind hbehind, hright hbehind]
      · rw [Found.shown, if_neg hbehind]

/-- A user, by their address. -/
def user : Value := .group [("email", .string "ada@example.org")]

/-- A string in a group that was opened under a sensitive name is written, and so is a string with a
sensitive key behind a `LogValuer`.  As attributes of a group both are redacted. -/
theorem group_and_valuer_leak :
    let opened : List Derivation := [.withGroup "token"]
    let inGroup : Record := ⟨"m", [("token", .group [("value", .string "s3cret")])]⟩
    let alone : Record := ⟨"m", [("value", .string "s3cret")]⟩
    (logged Char.toLower [] inGroup).fields = [(["token"], redacted)] ∧
      (logged Char.toLower opened alone).fields = [(["token", "value"], "s3cret")] ∧
      (logged Char.toLower [] ⟨"m", [("user", user)]⟩).fields = [(["user", "email"], redacted)] ∧
      (logged Char.toLower [] ⟨"m", [("user", .valuer user)]⟩).fields =
        [(["user", "email"], "ada@example.org")] ∧
      ¬ Redacts Char.toLower opened alone (logged Char.toLower opened alone) ∧
      ¬ Redacts Char.toLower [] ⟨"m", [("user", .valuer user)]⟩
        (logged Char.toLower [] ⟨"m", [("user", .valuer user)]⟩) := by
  intro opened inGroup alone
  have hgroup : (logged Char.toLower opened alone).fields = [(["token", "value"], "s3cret")] := by
    decide
  have hvaluer : (logged Char.toLower [] ⟨"m", [("user", .valuer user)]⟩).fields =
      [(["user", "email"], "ada@example.org")] := by decide
  refine ⟨by decide, hgroup, by decide, hvaluer, fun h ↦ ?_, fun h ↦ ?_⟩
  · have hmarked := h.marked (["token", "value"], "s3cret") (by rw [hgroup]; simp) (by decide)
    exact absurd hmarked (by decide)
  · have hmarked := h.marked (["user", "email"], "ada@example.org") (by rw [hvaluer]; simp)
      (by decide)
    exact absurd hmarked (by decide)

end Maintainerd.Logging

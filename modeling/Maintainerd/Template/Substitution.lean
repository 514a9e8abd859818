import Maintainerd.Template.Noninterference

/-!
# Filling the placeholders of a string in

`renderString` has two ways to fill a string in.  One that is a single placeholder is replaced by
the value of its parameter, so that a number stays a number; every other one goes through
`text/template` and comes out as a text.  Which way is taken is decided by `exactParamTemplate`,
which does not parse: it cuts the braces off the two ends and looks for a blank, a bar or a
parenthesis in what is left.

A string is given here as a list of pieces: literals without braces, and placeholders in any
spelling that `text/template` reads as a field.  `renderString_correct_iff` says for which lists the
string is filled in as it should be.  It is not when there are two placeholders or more, the first
and the last at the ends, and none of the four characters stands between the first name and the
last: then all of it is taken for the name of one parameter, as in `adjacent_undefined`.

That `text/template` substitutes a field that is defined by its printed value is an assumption,
`Substitutes`; how a value is printed is left open, and so is which characters are letters.
-/

set_option autoImplicit false

namespace Maintainerd

namespace DeployTemplate

/-! ## Pieces -/

/-- `unicode.IsLetter` and `unicode.IsDigit`, and what they have to do with the characters that
`exactParamTemplate` looks at. -/
structure Letters where
  letter : Char → Bool
  digit : Char → Bool
  plain : ∀ c, letter c = true ∨ digit c = true →
    Text.isSpace c = false ∧ c ∉ [' ', '|', '(', ')', '.', '\x7b', '\x7d']

/-- The names that `text/template` reads as a field. -/
structure Letters.Identifier (L : Letters) (name : String) : Prop where
  start : ∃ c, name.toList.head? = some c ∧ (c = '_' ∨ L.letter c = true)
  rest : ∀ c ∈ name.toList, c = '_' ∨ L.letter c = true ∨ L.digit c = true

/-- The white space that `text/template` skips inside the braces. -/
def actionSpace (c : Char) : Bool := c == ' ' || c == '\t' || c == '\r' || c == '\n'

/-- A literal: it has no braces. -/
structure Literal where
  text : String
  noBraces : '\x7b' ∉ text.toList ∧ '\x7d' ∉ text.toList

/-- A placeholder. -/
structure Placeholder (L : Letters) where
  before : String
  name : String
  after : String
  spaced : (∀ c ∈ before.toList, actionSpace c = true) ∧ ∀ c ∈ after.toList, actionSpace c = true
  identifier : L.Identifier name

/-- A piece of a string. -/
inductive Piece (L : Letters) where
  | literal (l : Literal)
  | placeholder (p : Placeholder L)

/-- What stands between the braces. -/
def Placeholder.inside {L : Letters} (p : Placeholder L) : List Char :=
  p.before.toList ++ ('.' :: p.name.toList ++ p.after.toList)

/-- The characters of a piece. -/
def Piece.chars {L : Letters} : Piece L → List Char
  | .literal l => l.text.toList
  | .placeholder p => "\x7b\x7b".toList ++ (p.inside ++ "\x7d\x7d".toList)

/-- The characters of a string. -/
def chars {L : Letters} (ps : List (Piece L)) : List Char := ps.flatMap Piece.chars

/-- The string. -/
def text {L : Letters} (ps : List (Piece L)) : String := String.ofList (chars ps)

/-- The parameters of the string are defined. -/
def Defined {L : Letters} (params : Params) (ps : List (Piece L)) : Prop :=
  ∀ p, .placeholder p ∈ ps → (params p.name).isSome = true

/-- What a piece is filled in to. -/
def Piece.filled {L : Letters} (printed : Value → String) (params : Params) : Piece L → List Char
  | .literal l => l.text.toList
  | .placeholder p => ((params p.name).elim "" printed).toList

/-- The literals and the printed values, one after the other. -/
def filled {L : Letters} (printed : Value → String) (params : Params) (ps : List (Piece L)) :
    String :=
  String.ofList (ps.flatMap (Piece.filled printed params))

/-- `text/template` substitutes the fields of a string by their printed values, if they are
defined. -/
def Substitutes {L : Letters} (k : Packages) (printed : Value → String) (params : Params)
    (ps : List (Piece L)) : Prop :=
  Defined params ps →
    k.execute (secretRefFunc k) (text ps) params = .ok (filled printed params ps)

/-! ## What the string is -/

section

variable {L : Letters} {ps : List (Piece L)} {params : Params}

/-- The pieces are literals. -/
def Literals (ps : List (Piece L)) : Prop := ∀ piece ∈ ps, ∃ l, piece = .literal l

/-- The pieces are white space. -/
def Blank (ps : List (Piece L)) : Prop :=
  Literals ps ∧ ∀ c ∈ chars ps, Text.isSpace c = true

/-- The string is one placeholder, up to white space around it. -/
def Lone (ps : List (Piece L)) (p : Placeholder L) : Prop :=
  ∃ lead trail, ps = lead ++ .placeholder p :: trail ∧ Blank lead ∧ Blank trail

/-- What stands from the first name to the last. -/
def span (p : Placeholder L) (mid : List (Piece L)) (q : Placeholder L) : List Char :=
  p.name.toList ++ (p.after.toList ++ ("\x7d\x7d".toList ++ (chars mid ++ ("\x7b\x7b".toList ++
    (q.before.toList ++ '.' :: q.name.toList)))))

/-- The string begins and ends with placeholders, not the same, up to white space around them, and
what stands from the first name to the last has no blank, no bar and no parenthesis. -/
def Joined (ps : List (Piece L)) (name : List Char) : Prop :=
  ∃ lead p mid q trail, ps = lead ++ .placeholder p :: (mid ++ .placeholder q :: trail) ∧
    Blank lead ∧ Blank trail ∧ name = span p mid q ∧
    Text.containsAny (String.ofList name) " |()" = false

theorem chars_append (ps qs : List (Piece L)) : chars (ps ++ qs) = chars ps ++ chars qs :=
  List.flatMap_append

theorem chars_cons (piece : Piece L) (ps : List (Piece L)) :
    chars (piece :: ps) = piece.chars ++ chars ps :=
  List.flatMap_cons

/-- The pieces up to the first placeholder. -/
theorem literals_or_first (ps : List (Piece L)) :
    Literals ps ∨ ∃ lead p rest, ps = lead ++ .placeholder p :: rest ∧ Literals lead := by
  induction ps with
  | nil => exact Or.inl (List.forall_mem_nil _)
  | cons piece ps ih =>
    cases piece with
    | placeholder p => exact Or.inr ⟨[], p, ps, rfl, List.forall_mem_nil _⟩
    | literal l =>
      have hcons : ∀ {qs : List (Piece L)}, Literals qs → Literals (.literal l :: qs) :=
        fun h ↦ List.forall_mem_cons.mpr ⟨⟨l, rfl⟩, h⟩
      rcases ih with h | ⟨lead, p, rest, rfl, h⟩
      · exact Or.inl (hcons h)
      · exact Or.inr ⟨.literal l :: lead, p, rest, rfl, hcons h⟩

/-- The pieces from the last placeholder on. -/
theorem literals_or_last (ps : List (Piece L)) :
    Literals ps ∨ ∃ mid q trail, ps = mid ++ .placeholder q :: trail ∧ Literals trail := by
  rcases literals_or_first ps.reverse with h | ⟨lead, p, rest, heq, h⟩
  · exact Or.inl fun piece hpiece ↦ h piece (List.mem_reverse.mpr hpiece)
  · refine Or.inr ⟨rest.reverse, p, lead.reverse, ?_,
      fun piece hpiece ↦ h piece (List.mem_reverse.mp hpiece)⟩
    rw [← List.reverse_reverse ps, heq, List.reverse_append, List.reverse_cons, List.append_assoc]
    rfl

/-- Literals have no braces. -/
theorem Literals.noBraces (h : Literals ps) {c : Char} (hc : c ∈ chars ps) :
    c ≠ '\x7b' ∧ c ≠ '\x7d' := by
  obtain ⟨piece, hpiece, hc⟩ := List.mem_flatMap.mp hc
  obtain ⟨l, rfl⟩ := h piece hpiece
  exact ⟨fun heq ↦ l.noBraces.1 (heq ▸ hc), fun heq ↦ l.noBraces.2 (heq ▸ hc)⟩

/-- Literals are filled in to themselves. -/
theorem Literals.filled (h : Literals ps) (printed : Value → String) (params : Params) :
    DeployTemplate.filled printed params ps = text ps := by
  refine congrArg String.ofList (List.flatMap_congr fun piece hpiece ↦ ?_)
  obtain ⟨l, rfl⟩ := h piece hpiece
  rfl

/-- What is not white space has a character that is not. -/
theorem Literals.exists_of_not_blank (h : Literals ps) (hblank : ¬ Blank ps) :
    ∃ c ∈ chars ps, Text.isSpace c = false := by
  by_contra hnone
  refine hblank ⟨h, fun c hc ↦ ?_⟩
  by_contra hspace
  exact hnone ⟨c, hc, Bool.eq_false_iff.mpr hspace⟩

theorem Letters.Identifier.plain {name : String} (h : L.Identifier name) {c : Char}
    (hc : c ∈ name.toList) :
    Text.isSpace c = false ∧ c ∉ [' ', '|', '(', ')', '.', '\x7b', '\x7d'] := by
  rcases h.rest c hc with rfl | hletter
  · decide
  · exact L.plain c hletter

theorem Letters.Identifier.containsAny {name : String} (h : L.Identifier name) :
    Text.containsAny name " |()" = false := by
  rw [Text.containsAny, List.any_eq_false]
  intro c hc hchars
  rw [List.contains_iff_mem] at hchars
  refine (h.plain hc).2 ?_
  simp only [List.mem_cons]
  simp at hchars
  tauto

/-- A name ends in a character that is no white space. -/
theorem Letters.Identifier.getLast {name : String} (h : L.Identifier name) :
    ∃ c, name.toList.getLast? = some c ∧ Text.isSpace c = false := by
  obtain ⟨c, hc, -⟩ := h.start
  have hne : name.toList ≠ [] := fun heq ↦ by simp [heq] at hc
  exact ⟨name.toList.getLast hne, List.getLast?_eq_some_getLast hne,
    (h.plain (List.getLast_mem hne)).1⟩

theorem isSpace_of_actionSpace {c : Char} (h : actionSpace c = true) : Text.isSpace c = true := by
  simp only [actionSpace, Bool.or_eq_true, beq_iff_eq] at h
  rcases h with ((rfl | rfl) | rfl) | rfl <;> decide

/-! ## Which way is taken -/

/-- A string between two pairs of braces, up to white space. -/
theorem exactParamTemplate_of_braces {lead trail : List (Piece L)} {a core b : List Char}
    {s : String} (hlead : Blank lead) (htrail : Blank trail)
    (ha : ∀ c ∈ a, actionSpace c = true) (hb : ∀ c ∈ b, actionSpace c = true)
    (hcore : ∃ c, core.getLast? = some c ∧ Text.isSpace c = false)
    (hs : s = String.ofList (chars lead ++ (("\x7b\x7b".toList ++ ((a ++ ('.' :: core ++ b)) ++
      "\x7d\x7d".toList)) ++ chars trail))) :
    exactParamTemplate s =
      if Text.containsAny (String.ofList core) " |()" then none
      else some (String.ofList core) := by
  obtain ⟨d, hd, hspace⟩ := hcore
  have hne : core ≠ [] := fun heq ↦ by simp [heq] at hd
  have htrimmed : Text.trimSpace s = String.ofList ("\x7b\x7b".toList ++
      ((a ++ ('.' :: core ++ b)) ++ "\x7d\x7d".toList)) := by
    rw [hs]
    refine Text.trimSpace_append (x := '\x7b') (y := '\x7d') hlead.2 htrail.2 rfl (by decide) ?_
      (by decide)
    rw [← List.append_assoc]
    exact List.getLast?_append_of_ne_nil _ (by decide)
  have hinner : Text.trimSpace (String.ofList (a ++ ('.' :: core ++ b))) =
      String.ofList ('.' :: core) := by
    refine Text.trimSpace_append (x := '.') (y := d)
      (fun c hc ↦ isSpace_of_actionSpace (ha c hc)) (fun c hc ↦ isSpace_of_actionSpace (hb c hc))
      rfl (by decide) ?_ hspace
    rw [List.getLast?_cons, hd]
    rfl
  have hname : String.ofList core ≠ "" := by
    intro heq
    exact hne (by simpa using congrArg String.toList heq)
  have hdot : Text.containsAny (String.ofList ('.' :: core)) " |()" =
      Text.containsAny (String.ofList core) " |()" := by
    simp [Text.containsAny]
  have hcut : Text.cutStart (String.ofList ('.' :: core)) "." = String.ofList core :=
    Text.cutStart_append "." core
  have hend : Text.endsWith (String.ofList ("\x7b\x7b".toList ++
      ((a ++ ('.' :: core ++ b)) ++ "\x7d\x7d".toList))) "\x7d\x7d" = true := by
    rw [← List.append_assoc]
    exact Text.endsWith_append _ _
  have hstart : Text.startsWith (String.ofList ('.' :: core)) "." = true :=
    Text.startsWith_append "." core
  rw [exactParamTemplate]
  simp only [htrimmed, Text.startsWith_append, hend, Text.cutStart_append, Text.cutEnd_append,
    hinner, hstart, hdot, hcut, hname, Bool.not_true, Bool.or_self, Bool.false_or, if_false,
    Bool.false_eq_true]

/-- One placeholder is taken for what it is. -/
theorem exactParamTemplate_of_lone {p : Placeholder L} (h : Lone ps p) :
    exactParamTemplate (text ps) = some p.name := by
  obtain ⟨lead, trail, rfl, hlead, htrail⟩ := h
  rw [exactParamTemplate_of_braces hlead htrail p.spaced.1 p.spaced.2 p.identifier.getLast,
    String.ofList_toList, p.identifier.containsAny, if_neg Bool.false_ne_true]
  rw [text, chars_append, chars_cons]
  rfl

/-- Two placeholders at the ends are taken for one, unless one of the four characters stands between
the names. -/
theorem exactParamTemplate_of_ends {lead mid trail : List (Piece L)} {p q : Placeholder L}
    (hlead : Blank lead) (htrail : Blank trail) :
    exactParamTemplate (text (lead ++ .placeholder p :: (mid ++ .placeholder q :: trail))) =
      if Text.containsAny (String.ofList (span p mid q)) " |()" then none
      else some (String.ofList (span p mid q)) := by
  refine exactParamTemplate_of_braces hlead htrail p.spaced.1 q.spaced.2 ?_ ?_
  · obtain ⟨c, hc, hspace⟩ := q.identifier.getLast
    refine ⟨c, ?_, hspace⟩
    have hne : q.name.toList ≠ [] := fun heq ↦ by simp [heq] at hc
    have hspan : span p mid q = p.name.toList ++ (p.after.toList ++ ("\x7d\x7d".toList ++
        (chars mid ++ ("\x7b\x7b".toList ++ (q.before.toList ++ ['.']))))) ++ q.name.toList := by
      simp [span]
    rw [hspan, List.getLast?_append_of_ne_nil _ hne, hc]
  · rw [text, chars_append, chars_cons, chars_append, chars_cons]
    simp only [Piece.chars, Placeholder.inside, span, List.append_assoc, List.cons_append]

/-- A string with something before its first placeholder is not taken for a placeholder. -/
theorem exactParamTemplate_of_lead {lead : List (Piece L)} (h : Literals lead)
    (hblank : ¬ Blank lead) (rest : List (Piece L)) :
    exactParamTemplate (text (lead ++ rest)) = none := by
  obtain ⟨c, hc, hhead⟩ := Text.head_trimSpace (h.exists_of_not_blank hblank) (chars rest)
  rw [← chars_append] at hhead
  have hstart : Text.startsWith (Text.trimSpace (text (lead ++ rest))) "\x7b\x7b" = false := by
    rw [← Bool.not_eq_true]
    intro hstart
    rw [Text.startsWith, List.isPrefixOf_iff_prefix, text] at hstart
    obtain ⟨t, ht⟩ := hstart
    rw [← ht] at hhead
    exact (h.noBraces hc).1 (Option.some.inj hhead).symm
  rw [exactParamTemplate]
  simp [hstart]

/-- Nor is one with something after its last. -/
theorem exactParamTemplate_of_trail {trail : List (Piece L)} (h : Literals trail)
    (hblank : ¬ Blank trail) (front : List (Piece L)) (q : Placeholder L) :
    exactParamTemplate (text (front ++ .placeholder q :: trail)) = none := by
  have hbrace : ∃ c ∈ chars (front ++ [.placeholder q]), Text.isSpace c = false := by
    refine ⟨'\x7b', ?_, by decide⟩
    rw [chars_append, chars_cons]
    exact List.mem_append_right _ (List.mem_append_left _ List.mem_cons_self)
  obtain ⟨c, hc, hlast⟩ := Text.getLast_trimSpace hbrace (h.exists_of_not_blank hblank)
  rw [← chars_append, List.append_assoc, List.singleton_append] at hlast
  have hend : Text.endsWith (Text.trimSpace (text (front ++ .placeholder q :: trail)))
      "\x7d\x7d" = false := by
    rw [← Bool.not_eq_true]
    intro hend
    rw [Text.endsWith, List.isPrefixOf_iff_prefix, text] at hend
    obtain ⟨t, ht⟩ := hend
    rw [← List.head?_reverse, ← ht] at hlast
    exact (h.noBraces hc).2 (Option.some.inj hlast).symm
  rw [exactParamTemplate]
  simp [hend]

/-- What a string is: literals, one placeholder, more of them with the ends alone, or one that is
not taken for a placeholder. -/
theorem kinds (ps : List (Piece L)) :
    Literals ps ∨ (∃ p, Lone ps p) ∨ (∃ name, Joined ps name) ∨
      ((∃ p, .placeholder p ∈ ps) ∧ exactParamTemplate (text ps) = none) := by
  rcases literals_or_first ps with h | ⟨lead, p, rest, rfl, hlead⟩
  · exact Or.inl h
  have hsome : ∃ p', .placeholder p' ∈ lead ++ .placeholder p :: rest := ⟨p, by simp⟩
  by_cases hblank : Blank lead
  swap
  · exact Or.inr (Or.inr (Or.inr ⟨hsome, exactParamTemplate_of_lead hlead hblank _⟩))
  rcases literals_or_last rest with h | ⟨mid, q, trail, rfl, htrail⟩
  · by_cases hblank' : Blank rest
    · exact Or.inr (Or.inl ⟨p, lead, rest, rfl, hblank, hblank'⟩)
    · exact Or.inr (Or.inr (Or.inr ⟨hsome, exactParamTemplate_of_trail h hblank' lead p⟩))
  · by_cases hblank' : Blank trail
    · rcases hchars : Text.containsAny (String.ofList (span p mid q)) " |()" with _ | _
      · exact Or.inr (Or.inr (Or.inl
          ⟨_, lead, p, mid, q, trail, rfl, hblank, hblank', rfl, hchars⟩))
      · refine Or.inr (Or.inr (Or.inr ⟨hsome, ?_⟩))
        rw [exactParamTemplate_of_ends hblank hblank', hchars, if_pos rfl]
    · refine Or.inr (Or.inr (Or.inr ⟨hsome, ?_⟩))
      have hnone := exactParamTemplate_of_trail htrail hblank'
        (lead ++ .placeholder p :: mid) q
      rwa [List.append_assoc] at hnone

/-! ## What comes of it -/

theorem contains_of_placeholder {p : Placeholder L} (h : .placeholder p ∈ ps) :
    Text.contains (text ps) "\x7b\x7b" = true := by
  obtain ⟨front, rest, rfl⟩ := List.append_of_mem h
  rw [Text.contains, Text.occurs_iff, text, String.toList_ofList, chars_append, chars_cons]
  exact ⟨chars front, p.inside ++ "\x7d\x7d".toList ++ chars rest, by simp [Piece.chars]⟩

theorem Literals.contains (h : Literals ps) : Text.contains (text ps) "\x7b\x7b" = false := by
  rw [← Bool.not_eq_true, Text.contains, Text.occurs_iff, text, String.toList_ofList]
  intro hinfix
  have hbrace : '\x7b' ∈ chars ps := by simpa using hinfix.subset List.mem_cons_self
  exact (h.noBraces hbrace).1 rfl

theorem Literals.not_mem (h : Literals ps) (p : Placeholder L) : .placeholder p ∉ ps := by
  intro hmem
  obtain ⟨l, hl⟩ := h _ hmem
  cases hl

theorem Lone.mem {p : Placeholder L} (h : Lone ps p) : .placeholder p ∈ ps := by
  obtain ⟨lead, trail, rfl, -, -⟩ := h
  exact List.mem_append_right _ List.mem_cons_self

theorem exactParamTemplate_of_joined {name : List Char} (h : Joined ps name) :
    exactParamTemplate (text ps) = some (String.ofList name) := by
  obtain ⟨lead, p, mid, q, trail, rfl, hlead, htrail, rfl, hchars⟩ := h
  rw [exactParamTemplate_of_ends hlead htrail, hchars, if_neg Bool.false_ne_true]

theorem Joined.mem {name : List Char} (h : Joined ps name) : ∃ p, .placeholder p ∈ ps := by
  obtain ⟨lead, p, mid, q, trail, rfl, -⟩ := h
  exact ⟨p, List.mem_append_right _ List.mem_cons_self⟩

/-- More than one placeholder is not one: a name has no braces in it. -/
theorem Joined.not_lone {name : List Char} (h : Joined ps name) (p : Placeholder L) :
    ¬ Lone ps p := by
  intro hlone
  have heq : p.name = String.ofList name := by
    have hsome := (exactParamTemplate_of_lone hlone).symm.trans (exactParamTemplate_of_joined h)
    exact Option.some.inj hsome
  obtain ⟨lead, p', mid, q, trail, -, -, -, rfl, -⟩ := h
  have hbrace : '\x7d' ∈ p.name.toList := by
    rw [heq, String.toList_ofList, span]
    exact List.mem_append_right _ (List.mem_append_right _ (List.mem_append_left _
      List.mem_cons_self))
  exact (p.identifier.plain hbrace).2 (by decide)

end

theorem renderString_of_some (k : Packages) {params : Params} {s name : String} {v : Value}
    (hcontains : Text.contains s "\x7b\x7b" = true) (hexact : exactParamTemplate s = some name)
    (hv : params name = some v) : renderString k params s = .ok v := by
  rw [renderString, hcontains, hexact]
  simp only [hv, Bool.not_true, Bool.false_eq_true, if_false]

theorem renderString_of_none (k : Packages) {params : Params} {s name : String}
    (hcontains : Text.contains s "\x7b\x7b" = true) (hexact : exactParamTemplate s = some name)
    (hv : params name = none) :
    renderString k params s = .error ("parameter " ++ k.quote name ++ " is not defined") := by
  rw [renderString, hcontains, hexact]
  simp only [hv, Bool.not_true, Bool.false_eq_true, if_false]

/-- The string is filled in: a single placeholder by the value of its parameter, and every other
string by the literals and the printed values. -/
def FillsIn {L : Letters} (k : Packages) (printed : Value → String) (params : Params)
    (ps : List (Piece L)) : Prop :=
  (∀ p v, Lone ps p → params p.name = some v → renderString k params (text ps) = .ok v) ∧
    ((∀ p, ¬ Lone ps p) →
      renderString k params (text ps) = .ok (.string (filled printed params ps)))

/-- **When a string is filled in.**  A string of literals and placeholders whose parameters are
defined is filled in, in whatever way the placeholders are spelled, unless it begins and ends with
placeholders that are not the same one and nothing from the first name to the last is a blank, a bar
or a parenthesis.  Then it is filled in only if the parameters have an entry of just that name, and
it is the text that should come out. -/
theorem renderString_correct_iff (k : Packages) (L : Letters) (printed : Value → String)
    (params : Params) (ps : List (Piece L)) (hsubstitutes : Substitutes k printed params ps)
    (hdefined : Defined params ps) :
    FillsIn k printed params ps ↔
      ∀ name, Joined ps name →
        params (String.ofList name) = some (.string (filled printed params ps)) := by
  rcases kinds ps with hliterals | ⟨p, hlone⟩ | ⟨name, hjoined⟩ | ⟨⟨p, hp⟩, hnone⟩
  · have hrender : renderString k params (text ps) = .ok (.string (filled printed params ps)) := by
      rw [renderString, hliterals.contains, hliterals.filled]
      rfl
    refine iff_of_true ⟨fun p v hlone ↦ absurd hlone.mem (hliterals.not_mem p), fun _ ↦ hrender⟩ ?_
    intro name hjoined
    obtain ⟨p, hp⟩ := hjoined.mem
    exact absurd hp (hliterals.not_mem p)
  · refine iff_of_true ⟨fun p' v hlone' hv ↦ ?_, fun hnot ↦ absurd hlone (hnot p)⟩
      fun name hjoined ↦ absurd hlone (hjoined.not_lone p)
    exact renderString_of_some k (contains_of_placeholder hlone'.mem)
      (exactParamTemplate_of_lone hlone') hv
  · obtain ⟨p, hp⟩ := hjoined.mem
    have hexact := exactParamTemplate_of_joined hjoined
    have hunique : ∀ name', Joined ps name' → name' = name := by
      intro name' hjoined'
      have hsome := (exactParamTemplate_of_joined hjoined').symm.trans hexact
      exact String.ofList_injective (Option.some.inj hsome)
    constructor
    · rintro ⟨-, hfilled⟩ name' hjoined'
      obtain rfl := hunique name' hjoined'
      have hok := hfilled hjoined.not_lone
      rcases hv : params (String.ofList name') with _ | v
      · rw [renderString_of_none k (contains_of_placeholder hp) hexact hv] at hok
        cases hok
      · rw [renderString_of_some k (contains_of_placeholder hp) hexact hv] at hok
        rw [Except.ok.inj hok]
    · intro hname
      refine ⟨fun p v hlone ↦ absurd hlone (hjoined.not_lone p), fun _ ↦ ?_⟩
      exact renderString_of_some k (contains_of_placeholder hp) hexact (hname name hjoined)
  · have hrender : renderString k params (text ps) = .ok (.string (filled printed params ps)) := by
      rw [renderString, contains_of_placeholder hp, hnone, hsubstitutes hdefined]
      rfl
    refine iff_of_true ⟨fun p v hlone ↦ ?_, fun _ ↦ hrender⟩ fun name hjoined ↦ ?_
    · rw [exactParamTemplate_of_lone hlone] at hnone
      cases hnone
    · rw [exactParamTemplate_of_joined hjoined] at hnone
      cases hnone

/-- A small letter of ASCII. -/
def smallLetter (c : Char) : Bool := 97 ≤ c.toNat && c.toNat ≤ 122

/-- A digit of ASCII. -/
def asciiDigit (c : Char) : Bool := 48 ≤ c.toNat && c.toNat ≤ 57

theorem ascii_plain (c : Char) (h : smallLetter c = true ∨ asciiDigit c = true) :
    Text.isSpace c = false ∧ c ∉ [' ', '|', '(', ')', '.', '\x7b', '\x7d'] := by
  have hrange : 48 ≤ c.toNat ∧ c.toNat ≤ 57 ∨ 97 ≤ c.toNat ∧ c.toNat ≤ 122 := by
    simp only [smallLetter, asciiDigit, Bool.and_eq_true, decide_eq_true_eq] at h
    omega
  constructor
  · rw [← Bool.not_eq_true]
    intro hspace
    simp only [Text.isSpace, Bool.or_eq_true, Bool.and_eq_true, beq_iff_eq, decide_eq_true_eq,
      UInt32.le_iff_toNat_le, ← UInt32.toNat_inj, Char.ext_iff] at hspace
    simp at hspace
    omega
  · intro hmem
    simp only [List.mem_cons, List.not_mem_nil, or_false] at hmem
    rcases hmem with rfl | rfl | rfl | rfl | rfl | rfl | rfl <;> revert h <;> decide

/-- The small letters and the digits of ASCII. -/
def asciiLetters : Letters := ⟨smallLetter, asciiDigit, ascii_plain⟩

/-- The scanner of a small template engine: what it is inside the braces of, and the rest. -/
def scan (params : Params) : Option (List Char) → List Char → List Char
  | none, '\x7b' :: '\x7b' :: cs => scan params (some []) cs
  | none, c :: cs => c :: scan params none cs
  | none, [] => []
  | some name, '\x7d' :: '\x7d' :: cs =>
    (match params (String.ofList name) with
      | some (.string s) => s.toList
      | _ => ['?']) ++ scan params none cs
  | some name, c :: cs =>
    scan params (some (if c = ' ' ∨ c = '.' then name else name ++ [c])) cs
  | some _, [] => []

/-- Packages with the small engine. -/
def enginePackages : Packages :=
  { plainPackages with
    execute := fun _ text params ↦ .ok (String.ofList (scan params none text.toList)) }

theorem identifier_of_all {name : String} {c : Char} {cs : List Char} (h : name.toList = c :: cs)
    (hall : (c :: cs).all asciiLetters.letter = true) : asciiLetters.Identifier name := by
  rw [List.all_eq_true, ← h] at hall
  refine ⟨⟨c, by rw [h]; rfl, Or.inr (hall c (by rw [h]; exact List.mem_cons_self))⟩, ?_⟩
  exact fun d hd ↦ Or.inr (Or.inl (hall d hd))

theorem identifier_host : asciiLetters.Identifier "host" := identifier_of_all rfl (by decide)

theorem identifier_port : asciiLetters.Identifier "port" := identifier_of_all rfl (by decide)

/-- A host, a text between them, and a port. -/
def address (between : Literal) : List (Piece asciiLetters) :=
  [.placeholder ⟨"", "host", "", ⟨List.forall_mem_nil _, List.forall_mem_nil _⟩, identifier_host⟩,
    .literal between,
    .placeholder ⟨"", "port", "", ⟨List.forall_mem_nil _, List.forall_mem_nil _⟩, identifier_port⟩]

/-- The parameters of an address. -/
def hostPort : Params :=
  Params.set (Params.set (fun _ ↦ none) "host" (some (.string "db"))) "port" (some (.string "80"))

theorem defined_address (between : Literal) : Defined hostPort (address between) := by
  intro p hp
  simp only [address, List.mem_cons, List.not_mem_nil, or_false] at hp
  rcases hp with hp | hp | hp
  · cases hp
    decide
  · cases hp
  · cases hp
    decide

/-- With a blank between them, the host and the port are filled in. -/
theorem renderString_correct_iff_blank :
    let blank := address ⟨" ", by decide⟩
    text blank = "\x7b\x7b.host\x7d\x7d \x7b\x7b.port\x7d\x7d" ∧
      renderString enginePackages hostPort (text blank) = .ok (.string "db 80") := by
  intro blank
  have hnone : exactParamTemplate (text blank) = none := by decide
  have hfills : FillsIn enginePackages plainPackages.sprint hostPort blank := by
    refine (renderString_correct_iff enginePackages asciiLetters plainPackages.sprint hostPort blank
      (fun _ ↦ congrArg Except.ok (by decide)) (defined_address _)).mpr fun name hjoined ↦ ?_
    rw [exactParamTemplate_of_joined hjoined] at hnone
    cases hnone
  refine ⟨by decide, hfills.2 fun p hlone ↦ ?_⟩
  rw [exactParamTemplate_of_lone hlone] at hnone
  cases hnone

/-- With a colon between them, all of it is taken for the name of one parameter, and there is
none of that name. -/
theorem adjacent_undefined :
    let colon := address ⟨":", by decide⟩
    text colon = "\x7b\x7b.host\x7d\x7d:\x7b\x7b.port\x7d\x7d" ∧
      enginePackages.execute (secretRefFunc enginePackages) (text colon) hostPort = .ok "db:80" ∧
      renderString enginePackages hostPort (text colon) =
        .error "parameter host\x7d\x7d:\x7b\x7b.port is not defined" := by
  intro colon
  have hexact : exactParamTemplate (text colon) =
      some "host\x7d\x7d:\x7b\x7b.port" := by decide
  have hcontains : Text.contains (text colon) "\x7b\x7b" = true := by decide
  refine ⟨by decide, congrArg Except.ok (by decide), ?_⟩
  rw [renderString, hcontains, hexact]
  rfl

end DeployTemplate

end Maintainerd

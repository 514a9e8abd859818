import Maintainerd.Lib.Text
import Maintainerd.Lib.Url

/-!
# Where a sign-in returns to

`web/console/src/auth/oauthFlow.ts`: the page an operator asked for is kept while they sign in, and
`safeReturnTo` is to hold it to a path of the console, "so a crafted `returnTo` cannot become an
open redirect".  It looks at the first two characters.  It refuses `//host` and `/\host`.

A browser looks at them later.  Before it parses a URL it removes every tab and newline, and so
`/`, a tab and `/evil.example` passes the check and is another host (`tab_leaves`).  Those three
characters are the only way: `same_origin_of_forall_ne` says that a return-to without them is a
path of the console.  With them it depends on what stands after the slashes, and
`return_to_same_origin_iff` says how.
-/

set_option autoImplicit false

namespace Maintainerd

namespace Console

open Url

/-! ## The check and its callers -/

/-- `POST_LOGIN_ROUTE` -/
def postLoginRoute : String := "/dashboard"

/-- `safeReturnTo` -/
def safeReturnTo : Option String → Option String
  | none => none
  | some value =>
    if value == "" || !Text.startsWith value "/" then none
    else if Text.startsWith value "//" || Text.startsWith value "/\\" then none
    else some value

/-- Where `signIn` asks to come back to: the page it was given, or else the one the browser is
on. -/
def signInTarget (returnTo : Option String) (location : String) : String :=
  ((safeReturnTo returnTo).or (safeReturnTo (some location))).getD postLoginRoute

/-- Where the callback page goes after the exchange. -/
def landing (returnTo : Option String) : String := (safeReturnTo returnTo).getD postLoginRoute

theorem safeReturnTo_eq_some {value : Option String} {path : String}
    (h : safeReturnTo value = some path) :
    value = some path ∧ ∃ cs, path.toList = '/' :: cs ∧ ∀ c ∈ cs.head?, isSlash c = false := by
  rcases value with _ | value
  · cases h
  rw [safeReturnTo] at h
  split_ifs at h with hlocal hremote
  cases h
  refine ⟨rfl, ?_⟩
  rw [Bool.or_eq_true, not_or, Bool.not_eq_true', Bool.not_eq_false] at hlocal
  obtain ⟨cs, hcs⟩ := List.isPrefixOf_iff_prefix.mp hlocal.2
  refine ⟨cs, hcs.symm, fun c hc ↦ ?_⟩
  obtain ⟨rest, rfl⟩ := List.head?_eq_some_iff.mp hc
  rw [Bool.or_eq_true, not_or] at hremote
  by_contra hslash
  rw [Bool.not_eq_false, isSlash, Bool.or_eq_true, beq_iff_eq, beq_iff_eq] at hslash
  rcases hslash with rfl | rfl
  · exact hremote.1 (List.isPrefixOf_iff_prefix.mpr ⟨rest, hcs⟩)
  · exact hremote.2 (List.isPrefixOf_iff_prefix.mpr ⟨rest, hcs⟩)

/-- Where a sign-in asks to come back to is where it goes. -/
theorem landing_signInTarget (returnTo : Option String) (location : String) :
    landing (some (signInTarget returnTo location)) = signInTarget returnTo location := by
  have hkept : ∀ {value : Option String} {path : String}, safeReturnTo value = some path →
      safeReturnTo (some path) = some path := by
    intro value path h
    obtain ⟨rfl, -⟩ := safeReturnTo_eq_some h
    exact h
  rw [landing, signInTarget]
  rcases hto : safeReturnTo returnTo with _ | path
  · rcases hlocation : safeReturnTo (some location) with _ | path
    · rfl
    · exact congrArg (Option.getD · postLoginRoute) (hkept hlocation)
  · exact congrArg (Option.getD · postLoginRoute) (hkept hto)

/-! ## Where a browser goes -/

section

variable {H : Type} (parseHost : List Char → Option H) (base : WebOrigin H)

/-- What a browser sees after the first slash is no second one, or what it sees after that is the
console's own host and port. -/
def Stays (path : String) : Prop :=
  ∀ c rest, (clean path.toList).tail = c :: rest → isSlash c = true →
    authority parseHost base.scheme (rest.dropWhile isSlash) = some base.origin

/-- **A return-to without tabs and newlines stays with the console.** -/
theorem same_origin_of_forall_ne {value : Option String} {path : String}
    (h : safeReturnTo value = some path) (htabs : ∀ c ∈ path.toList, isTabOrNewline c = false) :
    resolve parseHost base path = some base.origin := by
  obtain ⟨-, cs, hcs, hsecond⟩ := safeReturnTo_eq_some h
  obtain ⟨ds, hclean, hsub⟩ := clean_slash cs
  rw [hcs] at htabs
  have hkept : ds.filter (fun c ↦ !isTabOrNewline c) = ds := by
    rw [List.filter_eq_self]
    exact fun d hd ↦ by rw [htabs d (List.mem_cons_of_mem _ (hsub.subset hd))]; rfl
  obtain ⟨es, hes, hresolve⟩ := resolve_slash parseHost base hcs
  rw [hcs, hclean, hkept] at hes
  rw [hresolve, ← (List.cons.inj hes).2]
  rcases ds with _ | ⟨d, ds⟩
  · rfl
  · obtain ⟨rest, rfl⟩ := hsub
    rw [relative, hsecond d rfl, Bool.and_false, if_neg Bool.false_ne_true]

/-- **Where a return-to leads.**  What `safeReturnTo` accepts has the origin of the console exactly
if a browser that has removed the tabs and newlines does not see a second slash or backslash after
the first, or sees the console's own host and port after it. -/
theorem return_to_same_origin_iff (value : Option String) (path : String)
    (h : safeReturnTo value = some path) :
    resolve parseHost base path = some base.origin ↔ Stays parseHost base path := by
  obtain ⟨-, cs, hcs, -⟩ := safeReturnTo_eq_some h
  obtain ⟨ds, hclean, hresolve⟩ := resolve_slash parseHost base hcs
  rw [hresolve, Stays, hclean, List.tail_cons]
  rcases ds with _ | ⟨d, ds⟩
  · exact ⟨fun _ c rest heq ↦ (List.cons_ne_nil c rest heq.symm).elim, fun _ ↦ rfl⟩
  · rw [relative, show isSlash '/' = true from rfl, Bool.true_and]
    constructor
    · rintro hsame c rest ⟨⟩ hslash
      rwa [if_pos hslash] at hsame
    · intro hstays
      split_ifs with hslash
      · exact hstays d ds rfl hslash
      · rfl

end

/-- A console that is served over HTTPS. -/
def console : WebOrigin String := ⟨true, "console.example", none⟩

/-- A host parser that takes every host as it is. -/
def anyHost (host : List Char) : Option String := some (String.ofList host)

theorem return_to_same_origin_iff_tenants :
    safeReturnTo (some "/tenants?page=2") = some "/tenants?page=2" ∧
    resolve anyHost console "/tenants?page=2" = some console.origin := by
  refine ⟨by decide, (return_to_same_origin_iff anyHost console (some "/tenants?page=2")
    "/tenants?page=2" (by decide)).mpr ?_⟩
  intro c rest heq hslash
  have hhead : (clean "/tenants?page=2".toList).tail.head? = some 't' := by decide
  obtain rfl : 't' = c := Option.some.inj (hhead.symm.trans (congrArg List.head? heq))
  exact absurd hslash (by decide)

/-- A tab between two slashes leads to another host. -/
theorem tab_leaves :
    safeReturnTo (some "/\t/evil.example") = some "/\t/evil.example" ∧
    resolve anyHost console (landing (some "/\t/evil.example")) =
      some ⟨"https", "evil.example", none⟩ ∧
    resolve anyHost console "/\t/evil.example" ≠ some console.origin := by
  decide

end Console

end Maintainerd

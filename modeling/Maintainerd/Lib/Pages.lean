import Mathlib.Data.List.Basic

/-!
# Reading a list page by page

A list that is read in pages of a fixed size, by their numbers, while it changes between two pages.
An entry that moves towards the front from one page to the next can slip through: it was on the
page that comes next and is on the one that was read.  In a list that only ever gets new entries,
wherever they go, no entry moves towards the front, and nothing slips through.

`mem_read_or_mem_drop` is that argument.  `flatten_read_replicate` is what is read of a list that
does not change.
-/

set_option autoImplicit false

namespace Maintainerd

namespace Pages

universe u

variable {α : Type u} {n k : ℕ} {l : List α} {ls : List (List α)} {a : α}

/-- The page number `k`, counted from nought, of `n` entries. -/
def page (n k : ℕ) (l : List α) : List α := (l.drop (k * n)).take n

/-- The pages from number `k` on, each of the list as it is when the page is read. -/
def read (n : ℕ) : ℕ → List (List α) → List (List α)
  | _, [] => []
  | k, l :: ls => page n k l :: read n (k + 1) ls

theorem page_append_drop (n k : ℕ) (l : List α) :
    page n k l ++ l.drop ((k + 1) * n) = l.drop (k * n) := by
  rw [page, Nat.succ_mul, ← List.drop_drop, List.take_append_drop]

/-- **In a list that only gets entries nothing slips through.**  What stands behind the pages that
were read is read later on, or stands behind those pages, too. -/
theorem mem_read_or_mem_drop (hgrows : (l :: ls).IsChain List.Sublist)
    (ha : a ∈ l.drop (k * n)) :
    a ∈ (read n k ls).flatten ∨ a ∈ (ls.getLastD l).drop ((k + ls.length) * n) := by
  induction ls generalizing l k with
  | nil => exact .inr ha
  | cons l' ls ih =>
    obtain ⟨hsub, hrest⟩ := List.isChain_cons_cons.mp hgrows
    have ha' : a ∈ l'.drop (k * n) := (hsub.drop (k * n)).subset ha
    rw [← page_append_drop, List.mem_append] at ha'
    rw [read, List.flatten_cons, List.mem_append, List.getLastD_cons, List.length_cons]
    rcases ha' with hpage | hbehind
    · exact .inl (.inl hpage)
    · have hlater := ih hrest hbehind
      rw [Nat.add_assoc, Nat.add_comm 1] at hlater
      exact hlater.imp_left .inr

/-- Of a list that does not change, the pages are one after the other. -/
theorem flatten_read_replicate (n k m : ℕ) (l : List α) :
    (read n k (List.replicate m l)).flatten = (l.drop (k * n)).take (m * n) := by
  induction m generalizing k with
  | zero => simp [read]
  | succ m ih =>
    have hsize : (m + 1) * n = n + m * n := by rw [Nat.succ_mul, Nat.add_comm]
    rw [List.replicate_succ, read, List.flatten_cons, ih, page, Nat.succ_mul k, ← List.drop_drop,
      hsize, List.take_add]

end Pages

end Maintainerd

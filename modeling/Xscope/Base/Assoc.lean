/-
Association lists: lookup by cases on the first entry, and counters kept under their keys, where a
key that is not there counts as zero.
-/
import Mathlib.Tactic

namespace Xscope

variable {κ ν : Type} [BEq κ] [LawfulBEq κ] [DecidableEq κ]

theorem lookup_cons_ite (l m : κ) (w : ν) (rest : List (κ × ν)) :
    ((m, w) :: rest).lookup l = if l = m then some w else rest.lookup l := by
  rw [List.lookup_cons]
  by_cases h : l = m
  · subst h; simp
  · rw [if_neg h, show (l == m) = false from beq_false_of_ne h]

/-! ## Counters -/

def countOf (counts : List (κ × Nat)) (k : κ) : Nat := (counts.lookup k).getD 0

/-- The counters with that of `k` set to `n`, added at the end if there was none. -/
def setCount (k : κ) (n : Nat) : List (κ × Nat) → List (κ × Nat)
  | [] => [(k, n)]
  | entry :: rest => if entry.1 = k then (k, n) :: rest else entry :: setCount k n rest

theorem lookup_setCount (k : κ) (n : Nat) (counts : List (κ × Nat)) (l : κ) :
    (setCount k n counts).lookup l = if l = k then some n else counts.lookup l := by
  induction counts with
  | nil => rw [setCount, lookup_cons_ite]
  | cons entry rest ih =>
    obtain ⟨m, w⟩ := entry
    unfold setCount
    split
    · rename_i same
      obtain rfl : m = k := same
      rw [lookup_cons_ite, lookup_cons_ite]
      split <;> rfl
    · rename_i other
      rw [lookup_cons_ite, lookup_cons_ite, ih]
      by_cases hl : l = k
      · subst hl
        have apart : l ≠ m := fun same => other same.symm
        simp [apart]
      · simp [hl]

theorem countOf_setCount (k : κ) (n : Nat) (counts : List (κ × Nat)) (l : κ) :
    countOf (setCount k n counts) l = if l = k then n else countOf counts l := by
  unfold countOf
  rw [lookup_setCount]
  split <;> rfl

/-- Counters that start at zero count as nothing. -/
theorem lookup_zeros {α : Type} (k : κ) (key : α → κ) :
    ∀ keyed : List α, ((keyed.map fun a => (key a, 0)).lookup k).getD 0 = 0
  | [] => rfl
  | a :: rest => by
    rw [List.map_cons, lookup_cons_ite]
    split
    · rfl
    · exact lookup_zeros k key rest

end Xscope

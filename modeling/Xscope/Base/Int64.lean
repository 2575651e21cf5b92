/-
Machine integers of the source: mathematical integers with an explicit range. Checked operations
return nothing outside the range; the unchecked ones wrap around.
-/
import Mathlib.Tactic

namespace Xscope

def i64Min : Int := -9223372036854775808
def i64Max : Int := 9223372036854775807
def i32Max : Int := 2147483647
def u64Max : Nat := 18446744073709551615

/-- The value is one an `i64` can hold. -/
def Fits (x : Int) : Prop := i64Min ≤ x ∧ x ≤ i64Max

instance (x : Int) : Decidable (Fits x) := inferInstanceAs (Decidable (_ ∧ _))

/-- The result of a checked `i64` operation. -/
def checked (x : Int) : Option Int := if Fits x then some x else none

def checkedAdd (a b : Int) : Option Int := checked (a + b)
def checkedSub (a b : Int) : Option Int := checked (a - b)
def checkedMul (a b : Int) : Option Int := checked (a * b)

/-- The result of an unchecked `i64` operation. -/
def wrapping (x : Int) : Int := x.bmod 18446744073709551616

def saturating (x : Int) : Int := max i64Min (min i64Max x)

theorem checked_some {x y : Int} : checked x = some y ↔ x = y ∧ Fits y := by
  unfold checked
  split
  · rename_i h
    constructor
    · intro he; cases he; exact ⟨rfl, h⟩
    · rintro ⟨rfl, -⟩; rfl
  · rename_i h
    constructor
    · intro he; cases he
    · rintro ⟨rfl, h'⟩; exact absurd h' h

theorem checked_of_fits {x : Int} (h : Fits x) : checked x = some x := checked_some.2 ⟨rfl, h⟩

theorem checked_none {x : Int} : checked x = none ↔ ¬Fits x := by
  unfold checked; split <;> simp_all

theorem checkedAdd_some {a b c : Int} : checkedAdd a b = some c ↔ a + b = c ∧ Fits c := checked_some

theorem checkedSub_some {a b c : Int} : checkedSub a b = some c ↔ a - b = c ∧ Fits c := checked_some

theorem checkedMul_some {a b c : Int} : checkedMul a b = some c ↔ a * b = c ∧ Fits c := checked_some

theorem wrapping_of_fits {x : Int} (h : Fits x) : wrapping x = x := by
  obtain ⟨h1, h2⟩ := h
  unfold i64Min at h1; unfold i64Max at h2
  unfold wrapping
  rw [Int.bmod_eq_of_le] <;> omega

theorem fits_zero : Fits 0 := by decide

theorem Fits.of_between {a b x : Int} (ha : Fits a) (hb : Fits b) (h1 : a ≤ x) (h2 : x ≤ b) : Fits x :=
  ⟨le_trans ha.1 h1, le_trans h2 hb.2⟩

end Xscope

/-
The proleptic Gregorian calendar on day numbers. An instant is a number of microseconds since
1970-01-01T00:00:00Z and a date a number of days since then. Months are numbered from March of
year 0, so that the leap day ends the year and the first day of a month has a closed formula;
the month of a date is found from the average month length, corrected by at most one.
-/
import Mathlib.Tactic

namespace Xscope

namespace Calendar

def microsPerDay : Int := 86400000000

/-- The UTC date of an instant. -/
def ofTimestamp (t : Int) : Int := t / microsPerDay

/-- The first instant of a date. -/
def midnight (d : Int) : Int := d * microsPerDay

/-- The last date the source's calendar library represents: 262142-12-31. -/
def last : Int := 95026236

/-- The first day of month `k`, where month 0 is March of year 0. -/
def monthStart (k : Int) : Int :=
  365 * (k / 12) + k / 12 / 4 - k / 12 / 100 + k / 12 / 400 + (153 * (k % 12) + 2) / 5 - 719468

/-- The number of the month a date is in. -/
def monthIndex (d : Int) : Int :=
  let k := (d + 719468) * 4800 / 146097
  if d < monthStart k then k - 1
  else if monthStart (k + 1) ≤ d then k + 1
  else k

/-- The first day of the month of a date. -/
def firstOfMonth (d : Int) : Int := monthStart (monthIndex d)

/-- The same day of the next month, or its last day when the next month is shorter. -/
def addMonth (d : Int) : Int :=
  min (monthStart (monthIndex d + 1) + (d - firstOfMonth d)) (monthStart (monthIndex d + 2) - 1)

/-- `addMonth`, when the result is representable. -/
def checkedAddMonth (d : Int) : Option Int := if addMonth d ≤ last then some (addMonth d) else none

/-! ## Months are consecutive intervals of days -/

theorem monthStart_succ (k : Int) : monthStart k + 28 ≤ monthStart (k + 1) ∧
    monthStart (k + 1) ≤ monthStart k + 31 := by
  unfold monthStart
  have hm : k % 12 = 0 ∨ k % 12 = 1 ∨ k % 12 = 2 ∨ k % 12 = 3 ∨ k % 12 = 4 ∨ k % 12 = 5 ∨ k % 12 = 6 ∨ k % 12 = 7 ∨
      k % 12 = 8 ∨ k % 12 = 9 ∨ k % 12 = 10 ∨ k % 12 = 11 := by omega
  rcases hm with h | h | h | h | h | h | h | h | h | h | h | h
  all_goals first
    | (have h1 : (k + 1) / 12 = k / 12 := by omega
       have h2 : (k + 1) % 12 = k % 12 + 1 := by omega
       rw [h1, h2, h]; omega)
    | (have h1 : (k + 1) / 12 = k / 12 + 1 := by omega
       have h2 : (k + 1) % 12 = 0 := by omega
       rw [h1, h2, h]; generalize k / 12 = y; omega)

theorem monthStart_mono {j k : Int} (h : j ≤ k) : monthStart j ≤ monthStart k := by
  obtain ⟨n, rfl⟩ : ∃ n : Nat, k = j + n := ⟨(k - j).toNat, by omega⟩
  induction n with
  | zero => simp
  | succ n ih =>
    have := (monthStart_succ (j + n)).1
    have hn := ih (by omega)
    rw [show j + ((n + 1 : Nat) : Int) = j + n + 1 by push_cast; ring]
    omega

/-- The first day of month `k` is within four days of the average. -/
theorem monthStart_average (k : Int) :
    -12000 ≤ 4800 * (monthStart k + 719468) - 146097 * k ∧ 4800 * (monthStart k + 719468) - 146097 * k ≤ 18000 := by
  unfold monthStart
  have hm : -1920 ≤ 4800 * ((153 * (k % 12) + 2) / 5) - 146097 * (k % 12) ∧
      4800 * ((153 * (k % 12) + 2) / 5) - 146097 * (k % 12) ≤ 10533 := by omega
  have hy : -9000 ≤ 4800 * (365 * (k / 12) + k / 12 / 4 - k / 12 / 100 + k / 12 / 400) - 1753164 * (k / 12) ∧
      4800 * (365 * (k / 12) + k / 12 / 4 - k / 12 / 100 + k / 12 / 400) - 1753164 * (k / 12) ≤ 5000 := by omega
  omega

/-- The estimate of `monthIndex` is off by at most one month. -/
theorem monthStart_estimate (d : Int) :
    monthStart ((d + 719468) * 4800 / 146097 - 1) ≤ d ∧ d < monthStart ((d + 719468) * 4800 / 146097 + 2) := by
  have h1 := (monthStart_average ((d + 719468) * 4800 / 146097 - 1)).2
  have h2 := (monthStart_average ((d + 719468) * 4800 / 146097 + 2)).1
  omega

theorem monthIndex_spec (d : Int) : monthStart (monthIndex d) ≤ d ∧ d < monthStart (monthIndex d + 1) := by
  obtain ⟨h1, h2⟩ := monthStart_estimate d
  unfold monthIndex
  simp only
  split
  · rename_i h
    exact ⟨h1, by simpa using h⟩
  · split
    · rename_i h
      exact ⟨h, by rw [add_assoc]; exact h2⟩
    · omega

theorem monthIndex_unique {d k : Int} (h1 : monthStart k ≤ d) (h2 : d < monthStart (k + 1)) : monthIndex d = k := by
  obtain ⟨g1, g2⟩ := monthIndex_spec d
  rcases lt_trichotomy (monthIndex d) k with h | h | h
  · have := monthStart_mono (show monthIndex d + 1 ≤ k by omega); omega
  · exact h
  · have := monthStart_mono (show k + 1 ≤ monthIndex d by omega); omega

/-- Later dates are in later months. -/
theorem firstOfMonth_mono {d e : Int} (h : d ≤ e) : firstOfMonth d ≤ firstOfMonth e := by
  obtain ⟨hd, -⟩ := monthIndex_spec d
  obtain ⟨-, he⟩ := monthIndex_spec e
  apply monthStart_mono
  by_contra hlt
  have := monthStart_mono (show monthIndex e + 1 ≤ monthIndex d by omega)
  omega

theorem ofTimestamp_mono {s t : Int} (h : s ≤ t) : ofTimestamp s ≤ ofTimestamp t :=
  Int.ediv_le_ediv (by decide) h

theorem monthIndex_monthStart (k : Int) : monthIndex (monthStart k) = k :=
  monthIndex_unique le_rfl (by have := (monthStart_succ k).1; omega)

@[simp] theorem firstOfMonth_idem (d : Int) : firstOfMonth (firstOfMonth d) = firstOfMonth d := by
  unfold firstOfMonth; rw [monthIndex_monthStart]

theorem addMonth_first {p : Int} (hp : firstOfMonth p = p) : addMonth p = monthStart (monthIndex p + 1) := by
  unfold addMonth
  rw [hp]
  have := (monthStart_succ (monthIndex p + 1)).1
  rw [show monthIndex p + 1 + 1 = monthIndex p + 2 by ring] at this
  omega

/-- The instants of the month that starts on `p`, written as the half-open window of a query. -/
theorem month_window {p e : Int} (hp : firstOfMonth p = p) (he : checkedAddMonth p = some e) (t : Int) :
    (midnight p ≤ t ∧ t < midnight e) ↔ firstOfMonth (ofTimestamp t) = p := by
  have he : e = monthStart (monthIndex p + 1) := by
    unfold checkedAddMonth at he
    split at he
    · cases he; exact addMonth_first hp
    · cases he
  have hd : (midnight p ≤ t ∧ t < midnight e) ↔ p ≤ ofTimestamp t ∧ ofTimestamp t < e := by
    unfold midnight ofTimestamp microsPerDay; omega
  rw [hd, he]
  constructor
  · rintro ⟨h1, h2⟩
    have hk : monthIndex (ofTimestamp t) = monthIndex p :=
      monthIndex_unique (by rw [show monthStart (monthIndex p) = p from hp]; exact h1) h2
    unfold firstOfMonth at hp ⊢; rw [hk]; exact hp
  · intro h
    have hk : monthIndex p = monthIndex (ofTimestamp t) := by rw [← h]; exact monthIndex_monthStart _
    obtain ⟨g1, g2⟩ := monthIndex_spec (ofTimestamp t)
    rw [hk]
    exact ⟨by rw [← h]; exact g1, g2⟩

/-- A leap day belongs to the month that starts on 2024-02-01. -/
example : firstOfMonth 19782 = 19754 ∧ checkedAddMonth 19754 = some 19783 := by decide

end Calendar

end Xscope

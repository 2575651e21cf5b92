/-
Keyed tables: finite collections of rows with a primary key. The key constraint is a field of
the structure, so a table with two rows of one key cannot be built. The operations are those of
a relational store (lookup by key, insertion that refuses a taken key, update of one row, update
and deletion of many), and the lemmas say what each does to lookups and to sums over the table.
-/
import Mathlib.Data.List.Nodup
import Mathlib.Algebra.BigOperators.Group.List.Basic
import Mathlib.Tactic

namespace Xscope

/-- Rows of `ρ` are identified by a key in `κ`. -/
class Keyed (ρ : Type) (κ : outParam Type) where
  key : ρ → κ

export Keyed (key)

/-- Pairs are keyed by their first component: a table of pairs is a finite map. -/
instance {κ β : Type} : Keyed (κ × β) κ := ⟨Prod.fst⟩

/-- A table of rows with pairwise distinct keys. -/
structure Table (ρ : Type) {κ : Type} [Keyed ρ κ] where
  rows : List ρ
  nodup : (rows.map key).Nodup

/-- Rows sorted by a column are in its order. -/
theorem mergeSort_sorted {α β : Type} [LinearOrder β] (column : α → β) (rows : List α) :
    (rows.mergeSort fun a b => decide (column a ≤ column b)).Pairwise fun a b => column a ≤ column b := by
  have trans (a b c : α) (hab : decide (column a ≤ column b) = true) (hbc : decide (column b ≤ column c) = true) :
      decide (column a ≤ column c) = true := decide_eq_true (le_trans (of_decide_eq_true hab) (of_decide_eq_true hbc))
  have total (a b : α) : (decide (column a ≤ column b) || decide (column b ≤ column a)) = true := by
    simpa using le_total (column a) (column b)
  exact (List.pairwise_mergeSort trans total rows).imp fun h => of_decide_eq_true h

/-- Rows in the strict order of a column are what any arrangement of them is sorted to. -/
theorem mergeSort_eq {α β : Type} [LinearOrder β] (column : α → β) {rows sorted : List α} (perm : sorted.Perm rows)
    (strict : sorted.Pairwise fun a b => column a < column b) :
    rows.mergeSort (fun a b => decide (column a ≤ column b)) = sorted := by
  have same : (rows.mergeSort fun a b => decide (column a ≤ column b)).Perm sorted :=
    (List.mergeSort_perm rows _).trans perm.symm
  have distinct : (sorted.map column).Nodup := List.pairwise_map.2 (strict.imp fun h => h.ne)
  refine same.eq_of_pairwise (fun a b ha hb le ge => ?_) (mergeSort_sorted column rows) (strict.imp fun h => h.le)
  exact List.inj_on_of_nodup_map distinct (same.mem_iff.1 ha) hb (le_antisymm le ge)

namespace Table

variable {ρ κ : Type} [Keyed ρ κ]

instance : Membership ρ (Table ρ) := ⟨fun t r => r ∈ t.rows⟩

theorem mem_def {t : Table ρ} {r : ρ} : r ∈ t ↔ r ∈ t.rows := Iff.rfl

instance instDecidableMem [DecidableEq ρ] (t : Table ρ) (r : ρ) : Decidable (r ∈ t) :=
  inferInstanceAs (Decidable (r ∈ t.rows))

def empty : Table ρ := ⟨[], by simp⟩

@[simp] theorem not_mem_empty (r : ρ) : r ∉ (empty : Table ρ) := by simp [mem_def, empty]

/-- The first row that satisfies `p`. -/
def find (t : Table ρ) (p : ρ → Bool) : Option ρ := t.rows.find? p

/-- The rows that satisfy `p`. -/
def select (t : Table ρ) (p : ρ → Bool) : List ρ := t.rows.filter p

/-- The sum of a column. -/
def total (t : Table ρ) (w : ρ → Int) : Int := (t.rows.map w).sum

/-- The sum of a column over the rows that satisfy `p`. -/
def sumWhere (t : Table ρ) (p : ρ → Bool) (w : ρ → Int) : Int := ((t.select p).map w).sum

/-- Updates of rows that keep every key. -/
def mapRows (t : Table ρ) (f : ρ → ρ) (hf : ∀ r, key (f r) = key r) : Table ρ :=
  ⟨t.rows.map f, by
    rw [List.map_map, show key ∘ f = (key : ρ → κ) from funext hf]
    exact t.nodup⟩

/-- Deletion of the rows that satisfy `p`. -/
def deleteWhere (t : Table ρ) (p : ρ → Bool) : Table ρ :=
  ⟨t.rows.filter fun r => !p r, (List.filter_sublist.map _).nodup t.nodup⟩

section Lookup

variable [DecidableEq κ]

/-- The row with key `k`. -/
def get? (t : Table ρ) (k : κ) : Option ρ := t.rows.find? fun r => key r = k

/-- Insertion, refused when the key is taken. -/
def insert? (t : Table ρ) (r : ρ) : Option (Table ρ) :=
  if h : key r ∈ t.rows.map key then none else some ⟨r :: t.rows, by simpa using ⟨by simpa using h, t.nodup⟩⟩

/-- Replacement of the row with the key of `r`. -/
def put (t : Table ρ) (r : ρ) : Table ρ :=
  ⟨t.rows.map fun x => if key x = key r then r else x, by
    have : (key ∘ fun x => if key x = key r then r else x) = (key : ρ → κ) := by
      funext x; simp only [Function.comp_apply]; split
      · rename_i h; exact h.symm
      · rfl
    rw [List.map_map, this]; exact t.nodup⟩

/-- Insertion, or replacement of the row with that key. -/
def upsert (t : Table ρ) (r : ρ) : Table ρ := (t.insert? r).getD (t.put r)

end Lookup

/-! ## Sums -/

theorem sumWhere_eq_total (t : Table ρ) (p : ρ → Bool) (w : ρ → Int) :
    t.sumWhere p w = t.total fun r => if p r then w r else 0 := by
  unfold sumWhere total select
  induction t.rows with
  | nil => rfl
  | cons a l ih => by_cases h : p a <;> simp [h, ih]

theorem total_congr {t : Table ρ} {v w : ρ → Int} (h : ∀ r ∈ t, v r = w r) : t.total v = t.total w := by
  unfold total; rw [List.map_congr_left h]

theorem sumWhere_congr {t : Table ρ} {p q : ρ → Bool} {w : ρ → Int} (h : ∀ r ∈ t, p r = q r) :
    t.sumWhere p w = t.sumWhere q w := by
  rw [sumWhere_eq_total, sumWhere_eq_total]
  exact total_congr fun r hr => by rw [h r hr]

theorem total_nonneg {t : Table ρ} {w : ρ → Int} (h : ∀ r ∈ t, 0 ≤ w r) : 0 ≤ t.total w :=
  List.sum_nonneg fun x hx => by obtain ⟨r, hr, rfl⟩ := List.mem_map.1 hx; exact h r hr

theorem sumWhere_nonneg {t : Table ρ} {p : ρ → Bool} {w : ρ → Int} (h : ∀ r ∈ t, p r = true → 0 ≤ w r) :
    0 ≤ t.sumWhere p w := by
  rw [sumWhere_eq_total]
  refine total_nonneg fun r hr => ?_
  split
  · exact h r hr ‹_›
  · exact le_rfl

/-- One row is at most a sum of nonnegative rows. -/
theorem le_sumWhere {t : Table ρ} {p : ρ → Bool} {w : ρ → Int} (h : ∀ r ∈ t, p r = true → 0 ≤ w r) {r : ρ}
    (hr : r ∈ t) (hp : p r = true) : w r ≤ t.sumWhere p w := by
  have hm : w r ∈ (t.select p).map w := List.mem_map_of_mem (List.mem_filter.2 ⟨hr, hp⟩)
  refine List.single_le_sum (fun x hx => ?_) _ hm
  obtain ⟨y, hy, rfl⟩ := List.mem_map.1 hx
  obtain ⟨hy, hpy⟩ := List.mem_filter.1 hy
  exact h y hy hpy

theorem sumWhere_eq_zero {t : Table ρ} {p : ρ → Bool} {w : ρ → Int} (h : ∀ r ∈ t, p r = false) :
    t.sumWhere p w = 0 := by
  have : t.select p = [] := List.filter_eq_nil_iff.2 fun r hr => by simp [h r hr]
  unfold sumWhere; rw [this]; rfl

/-! ## Lookup -/

theorem select_nil_iff {t : Table ρ} {p : ρ → Bool} : t.select p = [] ↔ ∀ r ∈ t, p r = false := by
  unfold select
  rw [List.filter_eq_nil_iff]
  exact forall₂_congr fun r _ => by rw [Bool.not_eq_true]

theorem find_some {t : Table ρ} {p : ρ → Bool} {r : ρ} (h : t.find p = some r) : r ∈ t ∧ p r = true :=
  ⟨List.mem_of_find?_eq_some h, List.find?_some h⟩

theorem find_none {t : Table ρ} {p : ρ → Bool} (h : t.find p = none) : ∀ r ∈ t, p r = false := by
  unfold find at h; rw [List.find?_eq_none] at h
  intro r hr; simpa using h r hr

theorem find_isSome_of_mem {t : Table ρ} {p : ρ → Bool} {r : ρ} (hr : r ∈ t) (hp : p r = true) :
    ∃ x, t.find p = some x := by
  cases h : t.find p with
  | some x => exact ⟨x, rfl⟩
  | none => have := find_none h r hr; rw [hp] at this; cases this

/-- Two rows of a table with the same key are the same row. -/
theorem eq_of_key {t : Table ρ} {a b : ρ} (ha : a ∈ t) (hb : b ∈ t) (h : key a = key b) : a = b :=
  List.inj_on_of_nodup_map t.nodup ha hb h

theorem mem_mapRows {t : Table ρ} {f : ρ → ρ} {hf : ∀ r, key (f r) = key r} {x : ρ} :
    x ∈ t.mapRows f hf ↔ ∃ y ∈ t, f y = x := by
  simp [mem_def, mapRows]

variable [DecidableEq κ]

theorem get?_some_iff {t : Table ρ} {k : κ} {r : ρ} : t.get? k = some r ↔ r ∈ t ∧ key r = k := by
  constructor
  · intro h
    exact ⟨List.mem_of_find?_eq_some h, by simpa using List.find?_some h⟩
  · rintro ⟨hr, rfl⟩
    cases h : t.get? (key r) with
    | none => rw [get?, List.find?_eq_none] at h; simpa using h r hr
    | some x =>
      have hx : x ∈ t.rows := List.mem_of_find?_eq_some h
      have hk : key x = key r := by simpa using List.find?_some h
      rw [eq_of_key hx hr hk]

theorem get?_none_iff {t : Table ρ} {k : κ} : t.get? k = none ↔ ∀ r ∈ t, key r ≠ k := by
  rw [get?, List.find?_eq_none]; simp [mem_def]

theorem get?_mem {t : Table ρ} {k : κ} {r : ρ} (h : t.get? k = some r) : r ∈ t := (get?_some_iff.1 h).1

theorem get?_key {t : Table ρ} {k : κ} {r : ρ} (h : t.get? k = some r) : key r = k := (get?_some_iff.1 h).2

theorem get?_of_mem {t : Table ρ} {r : ρ} (h : r ∈ t) : t.get? (key r) = some r := get?_some_iff.2 ⟨h, rfl⟩

@[simp] theorem get?_empty (k : κ) : (empty : Table ρ).get? k = none := rfl

/-! ## Insertion -/

theorem insert?_some {t t' : Table ρ} {r : ρ} (h : t.insert? r = some t') :
    t.get? (key r) = none ∧ t'.rows = r :: t.rows := by
  unfold insert? at h
  split at h
  · cases h
  · rename_i hk
    cases h
    refine ⟨get?_none_iff.2 fun x hx he => hk ?_, rfl⟩
    rw [← he]; exact List.mem_map_of_mem hx

theorem insert?_of_none {t : Table ρ} {r : ρ} (h : t.get? (key r) = none) : ∃ t', t.insert? r = some t' := by
  unfold insert?
  have : key r ∉ t.rows.map key := by
    intro hm
    obtain ⟨x, hx, he⟩ := List.mem_map.1 hm
    exact get?_none_iff.1 h x hx he
  rw [dif_neg this]; exact ⟨_, rfl⟩

theorem insert?_none_iff {t : Table ρ} {r : ρ} : t.insert? r = none ↔ ∃ x, t.get? (key r) = some x := by
  constructor
  · intro h
    cases hg : t.get? (key r) with
    | some x => exact ⟨x, rfl⟩
    | none => obtain ⟨t', ht⟩ := insert?_of_none hg; rw [h] at ht; cases ht
  · rintro ⟨x, hx⟩
    cases hi : t.insert? r with
    | none => rfl
    | some t' => rw [(insert?_some hi).1] at hx; cases hx

theorem mem_insert? {t t' : Table ρ} {r x : ρ} (h : t.insert? r = some t') : x ∈ t' ↔ x = r ∨ x ∈ t := by
  simp only [mem_def, (insert?_some h).2, List.mem_cons]

/-- An insertion that does nothing when the key is taken. -/
theorem mem_insert?_getD {t : Table ρ} {r x : ρ} (h : x ∈ (t.insert? r).getD t) : x = r ∨ x ∈ t := by
  cases hi : t.insert? r with
  | none => rw [hi] at h; exact .inr h
  | some t' => rw [hi] at h; exact (mem_insert? hi).1 h

theorem get?_insert? {t t' : Table ρ} {r : ρ} (h : t.insert? r = some t') (k : κ) :
    t'.get? k = if key r = k then some r else t.get? k := by
  unfold get?; rw [(insert?_some h).2, List.find?_cons]
  by_cases hk : key r = k <;> simp [hk]

theorem get?_insert?_self {t t' : Table ρ} {r : ρ} (h : t.insert? r = some t') : t'.get? (key r) = some r := by
  rw [get?_insert? h, if_pos rfl]

/-- No key is lost by an insertion. -/
theorem insert?_keeps {t t' : Table ρ} {r x : ρ} {k : κ} (h : t.insert? r = some t') (hx : t.get? k = some x) :
    ∃ y, t'.get? k = some y := by
  rw [get?_insert? h]
  split
  · exact ⟨r, rfl⟩
  · exact ⟨x, hx⟩

/-- An old row is found where it was: the inserted key was not taken. -/
theorem get?_insert?_old {t t' : Table ρ} {r x : ρ} {k : κ} (h : t.insert? r = some t') (hx : t.get? k = some x) :
    t'.get? k = some x := by
  rw [get?_insert? h, if_neg]
  · exact hx
  · rintro rfl; rw [(insert?_some h).1] at hx; cases hx

theorem total_insert? {t t' : Table ρ} {r : ρ} (h : t.insert? r = some t') (w : ρ → Int) :
    t'.total w = w r + t.total w := by
  unfold total; rw [(insert?_some h).2]; simp

theorem select_insert? {t t' : Table ρ} {r : ρ} (h : t.insert? r = some t') (p : ρ → Bool) :
    t'.select p = if p r then r :: t.select p else t.select p := by
  unfold select
  rw [(insert?_some h).2, List.filter_cons]

theorem sumWhere_insert? {t t' : Table ρ} {r : ρ} (h : t.insert? r = some t') (p : ρ → Bool) (w : ρ → Int) :
    t'.sumWhere p w = t.sumWhere p w + if p r then w r else 0 := by
  rw [sumWhere_eq_total, sumWhere_eq_total, total_insert? h, add_comm]

/-! ## Replacement -/

theorem mem_put {t : Table ρ} {r x : ρ} : x ∈ t.put r ↔ (x ∈ t ∧ key x ≠ key r) ∨ (x = r ∧ ∃ y ∈ t, key y = key r) := by
  simp only [mem_def, put, List.mem_map]
  constructor
  · rintro ⟨y, hy, rfl⟩
    split
    · rename_i h; exact .inr ⟨rfl, y, hy, h⟩
    · rename_i h; exact .inl ⟨hy, h⟩
  · rintro (⟨hx, hk⟩ | ⟨rfl, y, hy, hk⟩)
    · exact ⟨x, hx, if_neg hk⟩
    · exact ⟨y, hy, if_pos hk⟩

/-- Rows of other keys stay. -/
theorem get?_put_of_ne {t : Table ρ} {r : ρ} {k : κ} (hk : key r ≠ k) : (t.put r).get? k = t.get? k := by
  cases hg : t.get? k with
  | none =>
    rw [get?_none_iff] at hg ⊢
    intro x hx
    rcases mem_put.1 hx with ⟨hm, -⟩ | ⟨rfl, -⟩
    · exact hg x hm
    · exact hk
  | some x =>
    obtain ⟨hm, he⟩ := get?_some_iff.1 hg
    exact get?_some_iff.2 ⟨mem_put.2 (.inl ⟨hm, fun h' => hk (h'.symm.trans he)⟩), he⟩

theorem get?_put {t : Table ρ} {r old : ρ} (h : t.get? (key r) = some old) (k : κ) :
    (t.put r).get? k = if key r = k then some r else t.get? k := by
  split
  · rename_i hk
    subst hk
    exact get?_some_iff.2 ⟨mem_put.2 (.inr ⟨rfl, old, get?_mem h, get?_key h⟩), rfl⟩
  · exact get?_put_of_ne ‹_›

/-- The row replaced is named by a key that is known to be its own. -/
theorem get?_put_at {t : Table ρ} {r old : ρ} {k₀ : κ} (hk : key r = k₀) (h : t.get? k₀ = some old) (k : κ) :
    (t.put r).get? k = if k₀ = k then some r else t.get? k := by
  subst hk; exact get?_put h k

theorem get?_put_self {t : Table ρ} {r old : ρ} (h : t.get? (key r) = some old) : (t.put r).get? (key r) = some r := by
  rw [get?_put h, if_pos rfl]

/-- No key is lost by a replacement. -/
theorem put_keeps {t : Table ρ} (r : ρ) {x : ρ} {k : κ} (hx : t.get? k = some x) : ∃ y, (t.put r).get? k = some y := by
  by_cases hk : key r = k
  · subst hk; exact ⟨r, get?_put_self hx⟩
  · obtain ⟨hm, he⟩ := get?_some_iff.1 hx
    exact ⟨x, get?_some_iff.2 ⟨mem_put.2 (.inl ⟨hm, fun h' => hk (h'.symm.trans he)⟩), he⟩⟩

theorem sum_map_put (r : ρ) (w : ρ → Int) : ∀ (l : List ρ), (l.map key).Nodup → ∀ old ∈ l, key old = key r →
    ((l.map fun x => if key x = key r then r else x).map w).sum = (l.map w).sum - w old + w r
  | [], _, _, h, _ => by cases h
  | a :: l, hn, old, hm, hk => by
    simp only [List.map_cons, List.nodup_cons, List.sum_cons] at hn ⊢
    rcases List.mem_cons.1 hm with rfl | hm
    · have hrest : (l.map fun x => if key x = key r then r else x) = l := by
        conv_rhs => rw [← List.map_id l]
        refine List.map_congr_left fun x hx => if_neg fun h => hn.1 ?_
        rw [hk, ← h]; exact List.mem_map_of_mem hx
      rw [hrest, if_pos hk]; ring
    · have hne : key a ≠ key r := fun h => hn.1 (by rw [h, ← hk]; exact List.mem_map_of_mem hm)
      rw [if_neg hne, sum_map_put r w l hn.2 old hm hk]; ring

/-- Replacing a row moves a sum by the difference of the two rows. -/
theorem total_put {t : Table ρ} {r old : ρ} (h : t.get? (key r) = some old) (w : ρ → Int) :
    (t.put r).total w = t.total w - w old + w r :=
  sum_map_put r w t.rows t.nodup old (get?_mem h) (get?_key h)

theorem sumWhere_put {t : Table ρ} {r old : ρ} (h : t.get? (key r) = some old) (p : ρ → Bool) (w : ρ → Int) :
    (t.put r).sumWhere p w = t.sumWhere p w - (if p old then w old else 0) + if p r then w r else 0 := by
  rw [sumWhere_eq_total, sumWhere_eq_total, total_put h]

/-! ## Insertion or replacement -/

theorem get?_upsert (t : Table ρ) (r : ρ) (k : κ) : (t.upsert r).get? k = if key r = k then some r else t.get? k := by
  unfold upsert
  cases h : t.insert? r with
  | some t' => exact get?_insert? h k
  | none => obtain ⟨x, hx⟩ := insert?_none_iff.1 h; exact get?_put hx k

theorem mem_upsert {t : Table ρ} {r x : ρ} (h : x ∈ t.upsert r) : x = r ∨ x ∈ t ∧ key x ≠ key r := by
  have := get?_of_mem h
  rw [get?_upsert] at this
  split at this
  · exact .inl (Option.some.inj this).symm
  · rename_i hk; exact .inr ⟨get?_mem this, fun he => hk he.symm⟩

/-! ## Updates of many rows -/

theorem get?_mapRows (t : Table ρ) (f : ρ → ρ) (hf : ∀ r, key (f r) = key r) (k : κ) :
    (t.mapRows f hf).get? k = (t.get? k).map f := by
  unfold get? mapRows
  simp only [List.find?_map]
  congr 1
  exact congrArg (fun p => List.find? p t.rows) (funext fun r => by simp [hf])

theorem get?_deleteWhere (t : Table ρ) (p : ρ → Bool) (k : κ) :
    (t.deleteWhere p).get? k = (t.get? k).filter fun r => !p r := by
  cases h : t.get? k with
  | none =>
    rw [get?_none_iff] at h
    exact get?_none_iff.2 fun r hr => h r (List.mem_of_mem_filter hr)
  | some r =>
    obtain ⟨hm, hk⟩ := get?_some_iff.1 h
    cases hp : p r with
    | false =>
      simp only [Option.filter, hp, Bool.not_false, ite_true]
      exact get?_some_iff.2 ⟨List.mem_filter.2 ⟨hm, by simp [hp]⟩, hk⟩
    | true =>
      simp only [Option.filter, hp, Bool.not_true, Bool.false_eq_true, ite_false]
      refine get?_none_iff.2 fun x hx he => ?_
      obtain ⟨hx, hxp⟩ := List.mem_filter.1 hx
      have := eq_of_key hx hm (he.trans hk.symm)
      subst this
      simp [hp] at hxp

end Table

end Xscope

/-
Keyset paging: a client reads a large set page by page, each page the first rows after the last key of
the page before it. The set may change between the pages. What a page leaves out comes later, nothing
comes twice, and what is there at every page is not missed.
-/
import Xscope.Base.Table

namespace Xscope.Keyset

variable {α κ : Type} [LinearOrder κ] (column : α → κ)

/-! ## Pages -/

/-- The rows after a position, in the order of their key. -/
def after (position : Option κ) (rows : List α) : List α :=
  (rows.filter fun r => position.all fun p => decide (p < column r)).mergeSort fun a b => decide (column a ≤ column b)

/-- The rows of a page, and the key to go on after when there are more. -/
structure Page (α κ : Type) where
  rows : List α
  next : Option κ

/-- A page of at most `limit` rows: one row more is read, and dropped when it is there. -/
def page (limit : Nat) (position : Option κ) (rows : List α) : Page α κ :=
  let found := (after column position rows).take (limit + 1)
  let hasMore := decide (limit < found.length)
  let kept := if hasMore then found.dropLast else found
  ⟨kept, if hasMore then kept.getLast?.map column else none⟩

section Pages

variable {column} {position : Option κ} {rows : List α} {limit : Nat} {r : α} {k : κ}

theorem mem_after : r ∈ after column position rows ↔ r ∈ rows ∧ ∀ p ∈ position, p < column r := by
  unfold after
  rw [List.mem_mergeSort, List.mem_filter]
  cases position <;> simp

theorem after_increasing (keys : (rows.map column).Nodup) :
    (after column position rows).Pairwise fun a b => column a < column b := by
  have sorted : (after column position rows).Pairwise fun a b => column a ≤ column b := mergeSort_sorted column _
  have distinct : ((after column position rows).map column).Nodup := by
    refine ((List.mergeSort_perm _ _).map column).nodup_iff.2 (keys.sublist ?_)
    exact List.filter_sublist.map column
  have apart : (after column position rows).Pairwise fun a b => column a ≠ column b := List.pairwise_map.1 distinct
  exact (sorted.and apart).imp fun h => lt_of_le_of_ne h.1 h.2

theorem page_rows : (page column limit position rows).rows = (after column position rows).take limit := by
  show (if decide (limit < ((after column position rows).take (limit + 1)).length) = true then _ else _) = _
  generalize after column position rows = l
  simp only [decide_eq_true_eq, List.length_take]
  split
  · rw [List.dropLast_eq_take, List.take_take, List.length_take]
    congr 1
    omega
  · rw [List.take_of_length_le (by omega), List.take_of_length_le (by omega)]

theorem page_next : (page column limit position rows).next =
    if limit < (after column position rows).length then ((after column position rows).take limit).getLast?.map column
      else none := by
  have enough : decide (limit < ((after column position rows).take (limit + 1)).length) =
      decide (limit < (after column position rows).length) := by
    rw [List.length_take]
    exact decide_eq_decide.2 (by omega)
  have split : (page column limit position rows).next = if decide
    (limit < ((after column position rows).take (limit + 1)).length) = true then
      (page column limit position rows).rows.getLast?.map column else none := rfl
  rw [split, enough, page_rows]
  simp only [decide_eq_true_eq]

theorem mem_page (h : r ∈ (page column limit position rows).rows) : r ∈ rows ∧ ∀ p ∈ position, p < column r := by
  rw [page_rows] at h
  exact mem_after.1 (List.mem_of_mem_take h)

theorem page_increasing (keys : (rows.map column).Nodup) :
    (page column limit position rows).rows.Pairwise fun a b => column a < column b := by
  rw [page_rows]
  exact (after_increasing keys).sublist (List.take_sublist _ _)

/-- The last page holds all that is left. -/
theorem page_last (last : (page column limit position rows).next = none) (some : 0 < limit) :
    (page column limit position rows).rows = after column position rows := by
  rw [page_next] at last
  rw [page_rows]
  apply List.take_of_length_le
  by_contra more
  rw [if_pos (by omega), Option.map_eq_none_iff, List.getLast?_eq_none_iff, List.take_eq_nil_iff] at last
  rcases last with h | h
  · omega
  · rw [h] at more
    simp at more

/-- The key to go on after is that of the last row of the page, and the rows up to it are all on the page. -/
theorem page_more (keys : (rows.map column).Nodup) (more : (page column limit position rows).next = some k) :
    (∃ r ∈ (page column limit position rows).rows, column r = k) ∧
    (∀ r ∈ (page column limit position rows).rows, column r ≤ k) ∧
    ∀ r ∈ rows, (∀ p ∈ position, p < column r) → column r ≤ k → r ∈ (page column limit position rows).rows := by
  rw [page_next] at more
  split at more
  case isFalse => cases more
  obtain ⟨last, hlast, rfl⟩ := Option.map_eq_some_iff.1 more
  have increasing : (after column position rows).Pairwise fun a b => column a < column b := after_increasing keys
  rw [← List.take_append_drop limit (after column position rows), List.pairwise_append] at increasing
  obtain ⟨first, -, between⟩ := increasing
  have mem := List.mem_of_getLast? hlast
  rw [page_rows]
  refine ⟨⟨last, mem, rfl⟩, fun r hr => ?_, fun r hr later le => ?_⟩
  · -- the last row of the page is its greatest
    obtain ⟨init, split⟩ := List.getLast?_eq_some_iff.1 hlast
    rw [split, List.pairwise_append] at first
    rw [split, List.mem_append, List.mem_singleton] at hr
    rcases hr with hr | rfl
    · exact (first.2.2 r hr last (List.mem_singleton_self _)).le
    · exact le_rfl
  · have hm : r ∈ after column position rows := mem_after.2 ⟨hr, later⟩
    rw [← List.take_append_drop limit (after column position rows), List.mem_append] at hm
    exact hm.resolve_right fun dropped => absurd le (not_le.2 (between last mem r dropped))

end Pages

/-! ## Scans -/

/-- Pages read one after the other, each from the rows there were when it was read. A scan ends at a page
without a next one, or earlier, when its client stops. -/
inductive Scan : Option κ → List (List α × Page α κ) → Prop
  | stopped (position : Option κ) : Scan position []
  | last {position : Option κ} {limit : Nat} {rows : List α} (positive : 0 < limit)
      (done : (page column limit position rows).next = none) : Scan position [(rows, page column limit position rows)]
  | more {position : Option κ} {limit : Nat} {rows : List α} {k : κ} {rest : List (List α × Page α κ)}
      (positive : 0 < limit)
      (next : (page column limit position rows).next = some k) (scan : Scan (some k) rest) :
      Scan position ((rows, page column limit position rows) :: rest)

/-- All the rows that a scan returned. -/
def returned (visits : List (List α × Page α κ)) : List α := visits.flatMap (·.2.rows)

/-- The scan came to its end. -/
def Finished (visits : List (List α × Page α κ)) : Prop := ∃ v ∈ visits, v.2.next = none

namespace Scan

variable {column} {position : Option κ} {visits : List (List α × Page α κ)} {rows : List α} {k : κ}

theorem positions (scan : Scan column position visits) (keys : ∀ v ∈ visits, (v.1.map column).Nodup) :
    ∀ r ∈ returned visits, ∀ p ∈ position, p < column r := by
  induction scan with
  | stopped position => exact fun r hr => absurd hr List.not_mem_nil
  | last positive done =>
    intro r hr
    obtain ⟨v, hv, hr⟩ := List.mem_flatMap.1 hr
    rw [List.mem_singleton.1 hv] at hr
    exact (mem_page hr).2
  | more positive next scan ih =>
    intro r hr p hp
    obtain ⟨⟨last, hl, rfl⟩, -, -⟩ := page_more (keys _ List.mem_cons_self) next
    rcases List.mem_append.1 hr with hr | hr
    · exact (mem_page hr).2 p hp
    · have later := ih (fun v hv => keys v (List.mem_cons_of_mem _ hv)) r hr _ rfl
      exact lt_trans ((mem_page hl).2 p hp) later

/-- The rows come in the order of their keys, over all pages, and no key comes twice. -/
theorem increasing (scan : Scan column position visits) (keys : ∀ v ∈ visits, (v.1.map column).Nodup) :
    (returned visits).Pairwise fun a b => column a < column b := by
  induction scan with
  | stopped position => exact .nil
  | @last position limit rows positive done =>
    have single : returned [(rows, page column limit position rows)] = (page column limit position rows).rows :=
      List.append_nil _
    rw [single]
    exact page_increasing (keys _ List.mem_cons_self)
  | @more position limit rows k rest positive next scan ih =>
    have keys' : ∀ v ∈ rest, (v.1.map column).Nodup := fun v hv => keys v (List.mem_cons_of_mem _ hv)
    refine List.pairwise_append.2 ⟨page_increasing (keys _ List.mem_cons_self), ih keys', fun a ha b hb => ?_⟩
    -- the later pages begin after the last key of this one
    have upto := (page_more (keys _ List.mem_cons_self) next).2.1 a ha
    exact lt_of_le_of_lt upto (scan.positions keys' b hb _ rfl)

/-- A returned row was there when its page was read. -/
theorem genuine (scan : Scan column position visits) : ∀ v ∈ visits, ∀ r ∈ v.2.rows, r ∈ v.1 := by
  induction scan with
  | stopped position => exact fun v hv => absurd hv List.not_mem_nil
  | last positive done =>
    intro v hv r hr
    rw [List.mem_singleton.1 hv] at hr ⊢
    exact (mem_page hr).1
  | more positive next scan ih =>
    intro v hv r hr
    rcases List.mem_cons.1 hv with rfl | hv
    · exact (mem_page hr).1
    · exact ih v hv r hr

/-- A key that is there at every page comes, when the scan finishes. -/
theorem complete (scan : Scan column position visits) (keys : ∀ v ∈ visits, (v.1.map column).Nodup)
    (finished : Finished visits) (later : ∀ p ∈ position, p < k) (present : ∀ v ∈ visits, ∃ r ∈ v.1, column r = k) :
    ∃ r ∈ returned visits, column r = k := by
  induction scan with
  | stopped position =>
    obtain ⟨v, hv, -⟩ := finished
    exact absurd hv List.not_mem_nil
  | last positive done =>
    obtain ⟨r, hr, rfl⟩ := present _ List.mem_cons_self
    refine ⟨r, List.mem_flatMap.2 ⟨_, List.mem_cons_self, ?_⟩, rfl⟩
    show r ∈ (page column _ _ _).rows
    rw [page_last done positive]
    exact mem_after.2 ⟨hr, later⟩
  | @more position limit rows k' rest positive next scan ih =>
    have keys' : ∀ v ∈ rest, (v.1.map column).Nodup := fun v hv => keys v (List.mem_cons_of_mem _ hv)
    rcases le_or_gt k k' with here | there
    · obtain ⟨r, hr, rfl⟩ := present _ List.mem_cons_self
      exact ⟨r, List.mem_append_left _ ((page_more (keys _ List.mem_cons_self) next).2.2 r hr later here), rfl⟩
    · have rest : Finished rest := by
        obtain ⟨v, hv, hn⟩ := finished
        rcases List.mem_cons.1 hv with rfl | hv
        · rw [next] at hn
          cases hn
        · exact ⟨v, hv, hn⟩
      obtain ⟨r, hr, hk⟩ := ih keys' rest (fun p hp => by cases hp; exact there) fun v hv =>
        present v (List.mem_cons_of_mem _ hv)
      exact ⟨r, List.mem_append_right _ hr, hk⟩

/-- Every page before the last one returns something. -/
theorem progress (scan : Scan column position visits) (keys : ∀ v ∈ visits, (v.1.map column).Nodup)
    (running : ¬Finished visits) :
    visits.length ≤ (returned visits).length := by
  induction scan with
  | stopped position => exact le_rfl
  | last positive done => exact absurd ⟨_, List.mem_cons_self, done⟩ running
  | @more position limit rows k rest positive next scan ih =>
    obtain ⟨⟨r, hr, -⟩, -, -⟩ := page_more (keys _ List.mem_cons_self) next
    have nonempty : 0 < (page column limit position rows).rows.length := List.length_pos_of_mem hr
    have tail := ih (fun v hv => keys v (List.mem_cons_of_mem _ hv)) fun ⟨v, hv, hn⟩ =>
      running ⟨v, List.mem_cons_of_mem _ hv, hn⟩
    have split : returned ((rows, page column limit position rows) :: rest) =
      (page column limit position rows).rows ++ returned rest := rfl
    rw [split, List.length_append, List.length_cons]
    omega

/-- Over rows that stay, a finished scan returns the rows after its position, in order. -/
theorem whole (scan : Scan column position visits) (keys : (rows.map column).Nodup) (finished : Finished visits)
    (still : ∀ v ∈ visits, v.1 = rows) : returned visits = after column position rows := by
  have keys' : ∀ v ∈ visits, (v.1.map column).Nodup := fun v hv => by rw [still v hv]; exact keys
  have sorted := scan.increasing keys'
  have sorted' : (after column position rows).Pairwise fun a b => column a < column b := after_increasing keys
  refine List.Perm.eq_of_pairwise (fun a b _ _ h h' => absurd h' (lt_asymm h)) sorted sorted' ?_
  refine (List.perm_ext_iff_of_nodup (sorted.imp fun h => ?_) (sorted'.imp fun h => ?_)).2 fun r =>
    ⟨fun hr => ?_, fun hr => ?_⟩
  · exact fun same => absurd (congrArg column same) h.ne
  · exact fun same => absurd (congrArg column same) h.ne
  · obtain ⟨v, hv, hm⟩ := List.mem_flatMap.1 hr
    have there := scan.genuine v hv r hm
    rw [still v hv] at there
    exact mem_after.2 ⟨there, scan.positions keys' r hr⟩
  · obtain ⟨there, later⟩ := mem_after.1 hr
    obtain ⟨r', hr', same⟩ := scan.complete keys' finished later fun v hv => ⟨r, by rw [still v hv]; exact there, rfl⟩
    obtain ⟨v, hv, hm⟩ := List.mem_flatMap.1 hr'
    have there' := scan.genuine v hv r' hm
    rw [still v hv] at there'
    rw [← List.inj_on_of_nodup_map keys there' there same]
    exact hr'

end Scan

end Xscope.Keyset

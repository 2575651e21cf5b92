/-
Joined pairs: lists of keys and values written as `key eq value`, joined with a separator. Values
may contain the separator, so a joined text does not determine its pairs. A pair can still be
recovered when its value has no separator and no other value contains its key after one.
-/
import Mathlib.Data.List.Infix
import Mathlib.Data.List.Nodup
import Mathlib.Tactic

namespace Xscope.Joined

variable {α : Type} {sep eq : α}

/-- The text of one pair. -/
def entry (eq : α) (p : List α × List α) : List α := p.1 ++ eq :: p.2

/-- The text of a list of pairs. -/
def join (sep eq : α) (pairs : List (List α × List α)) : List α := [sep].intercalate (pairs.map (entry eq))

/-- A text that starts like the pair of the key `name`. -/
def Starts (eq : α) (name text : List α) : Prop := name ++ [eq] <+: text

/-- Lists are split at their first separator in one way. -/
theorem split_inj {u u' v v' : List α} (h : sep ∉ u) (h' : sep ∉ u') (same : u ++ sep :: v = u' ++ sep :: v') :
    u = u' ∧ v = v' := by
  induction u generalizing u' with
  | nil =>
    cases u' with
    | nil => exact ⟨rfl, (List.cons.inj same).2⟩
    | cons b rest =>
      obtain ⟨rfl, -⟩ := List.cons.inj same
      exact absurd (List.mem_cons_self ..) h'
  | cons a rest ih =>
    cases u' with
    | nil =>
      obtain ⟨rfl, -⟩ := List.cons.inj same
      exact absurd (List.mem_cons_self ..) h
    | cons b rest' =>
      obtain ⟨rfl, tails⟩ := List.cons.inj same
      obtain ⟨rfl, rfl⟩ := ih (fun held => h (List.mem_cons_of_mem _ held))
        (fun held => h' (List.mem_cons_of_mem _ held)) tails
      exact ⟨rfl, rfl⟩

/-- The key of a text is what stands before the first `eq`. -/
theorem key_eq {name key rest : List α} (hn : eq ∉ name) (hk : eq ∉ key)
    (h : Starts eq name (entry eq (key, rest))) : name = key := by
  obtain ⟨tail, text⟩ := h
  rw [List.append_assoc, List.singleton_append] at text
  exact (split_inj hn hk text).1

/-! ## Splitting -/

variable [DecidableEq α]

theorem splitOn_intercalate {texts : List (List α)} (h : texts ≠ []) :
    ([sep].intercalate texts).splitOn sep = texts.flatMap fun t => t.splitOn sep := by
  induction texts with
  | nil => exact absurd rfl h
  | cons t rest ih =>
    cases rest with
    | nil => rw [List.intercalate_singleton, List.flatMap_singleton]
    | cons u rest =>
      rw [List.intercalate_cons_cons, List.append_assoc, List.singleton_append,
        List.splitOn_append_cons_self, ih (by simp)]
      rfl

/-- The pieces after the first one follow a separator. -/
theorem infix_of_mem_splitOn {text first piece : List α} {rest : List (List α)} (h : text.splitOn sep = first :: rest)
    (held : piece ∈ rest) : sep :: piece <:+: text := by
  have whole : [sep].intercalate (text.splitOn sep) = text := List.intercalate_splitOn sep
  obtain ⟨before, after, rfl⟩ := List.append_of_mem held
  rw [h] at whole
  rw [← whole]
  clear whole h held
  induction before generalizing first with
  | nil =>
    rw [List.nil_append, List.intercalate_cons_cons]
    cases after with
    | nil =>
      rw [List.intercalate_singleton]
      exact ⟨first, [], by simp⟩
    | cons next after =>
      rw [List.intercalate_cons_cons]
      exact ⟨first, [sep] ++ [sep].intercalate (next :: after), by simp⟩
  | cons b before ih =>
    rw [List.cons_append, List.intercalate_cons_cons]
    have inner : sep :: piece <:+: [sep].intercalate (b :: (before ++ piece :: after)) := ih
    exact inner.trans (List.suffix_append _ _).isInfix

/-- A piece of a pair is its beginning, or follows a separator in the value. -/
theorem piece_of_entry {key value piece : List α} (hk : sep ∉ key) (distinct : sep ≠ eq)
    (held : piece ∈ (entry eq (key, value)).splitOn sep) :
    (∃ first rest, value.splitOn sep = first :: rest ∧ piece = entry eq (key, first)) ∨ sep :: piece <:+: value := by
  obtain ⟨first, rest, split⟩ := List.exists_cons_of_ne_nil (List.splitOn_ne_nil sep value)
  have whole : (entry eq (key, value)).splitOn sep = entry eq (key, first) :: rest := by
    have plain : ∀ before : List α, sep ∉ before → (before ++ value).splitOn sep = (before ++ first) :: rest := by
      intro before
      induction before with
      | nil => exact fun _ => split
      | cons b before ih =>
        intro outside
        rw [List.mem_cons, not_or] at outside
        rw [List.cons_append, List.splitOn_cons_eq_if_modifyHead, ih outside.2,
          if_neg (by rw [beq_iff_eq]; exact fun same => outside.1 same.symm)]
        rfl
    have outside : sep ∉ key ++ [eq] := by
      rw [List.mem_append, List.mem_singleton]
      rintro (inside | same)
      · exact hk inside
      · exact distinct same
    have := plain (key ++ [eq]) outside
    rwa [List.append_assoc, List.append_assoc] at this
  rw [whole] at held
  rcases List.mem_cons.1 held with rfl | held
  · exact .inl ⟨first, rest, split, rfl⟩
  · exact .inr (infix_of_mem_splitOn split held)

/-! ## Recovering a pair -/

/-- Pairs whose keys are distinct and contain neither separator. -/
structure Plain (sep eq : α) (pairs : List (List α × List α)) : Prop where
  plain : ∀ p ∈ pairs, sep ∉ p.1 ∧ eq ∉ p.1
  nodup : (pairs.map Prod.fst).Nodup

/-- No value contains the key `name` after a separator. -/
def Free (sep eq : α) (name : List α) (pairs : List (List α × List α)) : Prop :=
  ∀ p ∈ pairs, ¬sep :: (name ++ [eq]) <:+: p.2

variable {pairs pairs' : List (List α × List α)} {name value value' : List α}

theorem mem_pieces (h : (name, value) ∈ pairs) (hn : sep ∉ name) (hv : sep ∉ value) (distinct : sep ≠ eq) :
    entry eq (name, value) ∈ (join sep eq pairs).splitOn sep := by
  have nonempty : pairs.map (entry eq) ≠ [] := by
    rw [Ne, List.map_eq_nil_iff]
    rintro rfl
    cases h
  unfold join
  rw [splitOn_intercalate nonempty, List.mem_flatMap]
  refine ⟨entry eq (name, value), List.mem_map_of_mem h, ?_⟩
  have outside : sep ∉ entry eq (name, value) := by
    unfold entry
    rw [List.mem_append, List.mem_cons]
    rintro (inside | same | inside)
    · exact hn inside
    · exact distinct same
    · exact hv inside
  rw [List.splitOn_eq_singleton outside]
  exact List.mem_cons_self

/-- A piece that starts like a free key is its pair. -/
theorem piece_eq (keyed : Plain sep eq pairs) (free : Free sep eq name pairs) (h : (name, value) ∈ pairs)
    (hv : sep ∉ value) (distinct : sep ≠ eq) {piece : List α} (held : piece ∈ (join sep eq pairs).splitOn sep)
    (starts : Starts eq name piece) :
    piece = entry eq (name, value) := by
  have nonempty : pairs.map (entry eq) ≠ [] := by
    rw [Ne, List.map_eq_nil_iff]
    rintro rfl
    cases h
  unfold join at held
  rw [splitOn_intercalate nonempty, List.mem_flatMap] at held
  obtain ⟨_, written, held⟩ := held
  obtain ⟨⟨key, v⟩, listed, rfl⟩ := List.mem_map.1 written
  rcases piece_of_entry (keyed.plain (key, v) listed).1 distinct held with ⟨first, rest, split, rfl⟩ | inside
  · have same : name = key := key_eq (keyed.plain _ h).2 (keyed.plain _ listed).2 starts
    subst same
    -- the keys are distinct, so this is the pair itself, and its value is one piece
    have pair : (name, v) = (name, value) := List.inj_on_of_nodup_map keyed.nodup listed h rfl
    cases pair
    rw [List.splitOn_eq_singleton hv] at split
    cases split
    rfl
  · exact absurd ((List.prefix_cons_inj sep).2 starts |>.isInfix.trans inside) (free _ listed)

/-- The value of a free key is the same in every list of pairs with the same text. -/
theorem value_eq (same : join sep eq pairs = join sep eq pairs') (keyed : Plain sep eq pairs)
    (keyed' : Plain sep eq pairs') (free : Free sep eq name pairs) (h : (name, value) ∈ pairs)
    (h' : (name, value') ∈ pairs') (hv : sep ∉ value) (hv' : sep ∉ value') (distinct : sep ≠ eq) : value = value' := by
  have held := mem_pieces h' (keyed'.plain _ h').1 hv' distinct
  rw [← same] at held
  have starts : Starts eq name (entry eq (name, value')) := ⟨value', by simp [entry]⟩
  have pair := piece_eq keyed free h hv distinct held starts
  unfold entry at pair
  exact (List.cons.inj (List.append_cancel_left pair)).2.symm

end Xscope.Joined

/-
Histories of a store that others write. A history only grows, so what was so at some moment stays so. An object
that is read twice and carries the same revision both times has stood all the time between.
-/
import Xscope.Base.Calls
import Xscope.Base.Rely

namespace Xscope

/-! ## Later stores -/

namespace Objects

variable {κ α : Type} [DecidableEq κ] {a b c : Objects κ α}

/-- Every object of the later store was there before, or took its revision since. -/
instance : Preorder (Objects κ α) where
  le a b := a.revision ≤ b.revision ∧ ∀ k o, b.get? k = some o → a.get? k = some o ∨ a.revision < o.revision
  le_refl a := ⟨le_rfl, fun _ _ found => .inl found⟩
  le_trans a b c ab bc := by
    refine ⟨ab.1.trans bc.1, fun k o found => ?_⟩
    rcases bc.2 k o found with before | new
    · exact ab.2 k o before
    · exact .inr (lt_of_le_of_lt ab.1 new)

/-- What is read twice with one revision stood between. -/
theorem stands {k : κ} {o o' : Stored κ α} (ab : a ≤ b) (bc : b ≤ c) (first : a.get? k = some o)
    (last : c.get? k = some o') (same : o'.revision = o.revision) : b.get? k = some o := by
  have old : o.revision ≤ a.revision := a.bounded o (Table.get?_mem first)
  have between : b.get? k = some o' := (bc.2 k o' last).resolve_right fun new => by
    have := ab.1
    omega
  have before : a.get? k = some o' := (ab.2 k o' between).resolve_right fun new => by omega
  rw [first] at before
  rw [between, before]

theorem le_delete (objects : Objects κ α) (name : κ) : objects ≤ objects.delete name := by
  refine ⟨le_rfl, fun k o found => ?_⟩
  rw [get?_delete] at found
  split at found
  · cases found
  · exact .inl found

theorem le_store {objects : Objects κ α} {o : Stored κ α} (h : objects.get? o.name = some o) (content : α) :
    objects ≤ objects.store o content := by
  refine ⟨Nat.le_succ _, fun k p found => ?_⟩
  rw [get?_store h] at found
  split at found
  · cases found
    exact .inr (Nat.lt_succ_self _)
  · exact .inl found

theorem le_create {objects objects' : Objects κ α} {name : κ} {uid : String} {content : α}
    (h : objects.create name uid content = some objects') : objects ≤ objects' := by
  obtain ⟨-, revision, lookup⟩ := get?_create h
  refine ⟨by omega, fun k p found => ?_⟩
  rw [lookup] at found
  split at found
  · cases found
    exact .inr (Nat.lt_succ_self _)
  · exact .inl found

/-- Whoever writes an object makes the store a later one. -/
theorem le_overwrite (objects : Objects κ α) (name : κ) (uid : String) (content : Option α) :
    objects ≤ objects.overwrite name uid content := by
  unfold overwrite
  split
  · exact le_delete objects name
  · rename_i content
    split
    · rename_i o found
      obtain rfl := get?_name found
      exact le_store found content
    · cases created : objects.create name uid content with
      | none => exact le_rfl
      | some objects' => exact le_create created

end Objects

/-! ## Histories -/

/-- The states that a store has gone through, the newest first. -/
structure History (σ : Type) [Preorder σ] where
  now : σ
  past : List σ
  ordered : (now :: past).Pairwise fun new old => old ≤ new

namespace History

variable {σ : Type} [Preorder σ] {h h' h'' : History σ}

instance : Preorder (History σ) where
  le h h' := h.now :: h.past <:+ h'.now :: h'.past
  le_refl _ := List.suffix_rfl
  le_trans _ _ _ a b := a.trans b

theorem now_le (le : h ≤ h') : h.now ≤ h'.now := by
  obtain ⟨news, states⟩ := le
  cases news with
  | nil =>
    rw [(List.cons.inj states).1]
  | cons s news =>
    obtain ⟨rfl, rest⟩ := List.cons.inj states
    have mem : h.now ∈ h'.past := by
      rw [← rest]
      exact List.mem_append_right _ List.mem_cons_self
    exact (List.pairwise_cons.1 h'.ordered).1 _ mem

def start (s : σ) : History σ := ⟨s, [], List.pairwise_singleton _ s⟩

def push (h : History σ) (s : σ) (later : h.now ≤ s) : History σ where
  now := s
  past := h.now :: h.past
  ordered := by
    refine List.pairwise_cons.2 ⟨fun old mem => ?_, h.ordered⟩
    rcases List.mem_cons.1 mem with rfl | mem
    · exact later
    · exact le_trans ((List.pairwise_cons.1 h.ordered).1 old mem) later

theorem le_push (s : σ) (later : h.now ≤ s) : h ≤ h.push s later := List.suffix_cons s _

/-- At some moment between the two it was so. -/
def Between (h h' : History σ) (P : σ → Prop) : Prop := ∃ mid, h ≤ mid ∧ mid ≤ h' ∧ P mid.now

theorem Between.later {P : σ → Prop} (b : Between h h' P) (le : h' ≤ h'') : Between h h'' P := by
  obtain ⟨mid, first, last, so⟩ := b
  exact ⟨mid, first, le_trans last le, so⟩

theorem Between.since {P : σ → Prop} (b : Between h' h'' P) (le : h ≤ h') : Between h h'' P := by
  obtain ⟨mid, first, last, so⟩ := b
  exact ⟨mid, le_trans le first, last, so⟩

theorem Between.here {P : σ → Prop} (le : h ≤ h') (so : P h'.now) : Between h h' P := ⟨h', le, le_rfl, so⟩

/-! ## Reads -/

/-- A read is answered with what stands, or fails. -/
def reads {Q : Type} {A : Q → Type} (answer : σ → (q : Q) → A q) (failed : (q : Q) → A q) : Oracle (History σ) Q A where
  gives h q a h' := h' = h ∧ (a = answer h.now q ∨ a = failed q)
  later := by
    rintro h q a h' ⟨rfl, -⟩
    exact le_rfl

end History

end Xscope

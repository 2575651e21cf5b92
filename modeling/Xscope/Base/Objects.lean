/-
Named objects under optimistic concurrency. Every effective write takes a fresh revision, and a
writer that presents what it read before is refused unless the object is still the one it read.
-/
import Xscope.Base.Table

namespace Xscope

/-- An object as a reader sees it. -/
structure Stored (κ α : Type) where
  name : κ
  uid : String
  revision : Nat
  content : α
  deriving DecidableEq

instance {κ α : Type} : Keyed (Stored κ α) κ := ⟨Stored.name⟩

/-- The objects, and the revision of the last write; no object carries a later one. -/
structure Objects (κ α : Type) where
  rows : Table (Stored κ α)
  revision : Nat
  bounded : ∀ o ∈ rows, o.revision ≤ revision

namespace Objects

variable {κ α : Type} [DecidableEq κ]

def get? (objects : Objects κ α) (name : κ) : Option (Stored κ α) := objects.rows.get? name

/-- Creation, refused when the name is taken. -/
def create (objects : Objects κ α) (name : κ) (uid : String) (content : α) : Option (Objects κ α) :=
  match h : objects.rows.insert? ⟨name, uid, objects.revision + 1, content⟩ with
  | none => none
  | some rows => some
    { rows := rows, revision := objects.revision + 1
      bounded := fun o ho => by
        rcases (Table.mem_insert? h).1 ho with rfl | ho
        · exact le_rfl
        · exact (objects.bounded o ho).trans (Nat.le_succ _) }

/-- The object stored anew under the next revision. -/
def store (objects : Objects κ α) (old : Stored κ α) (content : α) : Objects κ α :=
  { rows := objects.rows.put { old with revision := objects.revision + 1, content := content }
    revision := objects.revision + 1
    bounded := fun o ho => by
      rcases Table.mem_put.1 ho with ⟨ho, -⟩ | ⟨rfl, -⟩
      · exact (objects.bounded o ho).trans (Nat.le_succ _)
      · exact le_rfl }

def delete (objects : Objects κ α) (name : κ) : Objects κ α :=
  { rows := objects.rows.deleteWhere fun o => o.name = name, revision := objects.revision
    bounded := fun o ho => objects.bounded o (List.mem_of_mem_filter ho) }

/-- The stored object is still the one that was read. -/
def holds (objects : Objects κ α) (read : Stored κ α) : Bool :=
  (objects.get? read.name).any fun o => o.uid == read.uid && o.revision == read.revision

/-- Replacement of the object that was read. A replacement by the same content is no write. -/
def replace [DecidableEq α] (objects : Objects κ α) (read : Stored κ α) (content : α) : Option (Objects κ α) :=
  if objects.holds read then some (if read.content = content then objects else objects.store read content) else none

/-- Deletion of the object that was read. -/
def remove (objects : Objects κ α) (read : Stored κ α) : Option (Objects κ α) :=
  if objects.holds read then some (objects.delete read.name) else none

/-- A write by somebody else that leaves the content alone. -/
def touch (objects : Objects κ α) (name : κ) : Objects κ α := match objects.get? name with
  | some o => objects.store o o.content
  | none => objects

/-! ## Lookup -/

variable {objects objects' : Objects κ α} {read o : Stored κ α} {name : κ} {uid : String} {content : α}

theorem get?_name (h : objects.get? name = some o) : o.name = name := Table.get?_key h

theorem get?_create (h : objects.create name uid content = some objects') :
    objects.get? name = none ∧ objects'.revision = objects.revision + 1 ∧ ∀ k, objects'.get? k =
      if name = k then some ⟨name, uid, objects.revision + 1, content⟩ else objects.get? k := by
  unfold create at h
  split at h
  · cases h
  · rename_i rows inserted
    cases h
    exact ⟨(Table.insert?_some inserted).1, rfl, Table.get?_insert? inserted⟩

theorem get?_store (h : objects.get? o.name = some o) (k : κ) :
    (objects.store o content).get? k =
      if o.name = k then some { o with revision := objects.revision + 1, content := content } else objects.get? k := by
  have found : objects.rows.get? o.name = some o := h
  exact Table.get?_put_at (r := { o with revision := objects.revision + 1, content := content }) rfl found k

theorem get?_delete (k : κ) : (objects.delete name).get? k = if name = k then none else objects.get? k := by
  show (objects.rows.deleteWhere _).get? k = _
  rw [Table.get?_deleteWhere]
  show (objects.get? k).filter _ = _
  cases h : objects.get? k with
  | none => split <;> rfl
  | some o =>
    have hk : o.name = k := get?_name h
    by_cases he : name = k
    · simp [hk, he]
    · simp [hk, he, Ne.symm he]

theorem get?_touch (objects : Objects κ α) (name k : κ) :
    (objects.touch name).get? k = objects.get? k ∨ ∃ o, objects.get? k = some o ∧
    (objects.touch name).get? k = some { o with revision := objects.revision + 1 } := by
  unfold touch
  cases h : objects.get? name with
  | none => exact .inl rfl
  | some o =>
    obtain rfl := get?_name h
    rw [get?_store h]
    split
    · rename_i he
      subst he
      exact .inr ⟨o, h, rfl⟩
    · exact .inl rfl

theorem replace_some [DecidableEq α] (h : objects.replace read content = some objects') :
    objects.holds read = true ∧ objects' = if read.content = content then objects else objects.store read content := by
  unfold replace at h
  split at h
  · rename_i holds
    exact ⟨holds, (Option.some.inj h).symm⟩
  · cases h

theorem remove_some (h : objects.remove read = some objects') :
    objects.holds read = true ∧ objects' = objects.delete read.name := by
  unfold remove at h
  split at h
  · rename_i holds
    exact ⟨holds, (Option.some.inj h).symm⟩
  · cases h

/-! ## What was read -/

/-- `read` was the stored object at some earlier point: while its revision stands, it still is. -/
structure Seen (objects : Objects κ α) (read : Stored κ α) : Prop where
  bounded : read.revision ≤ objects.revision
  current : ∀ o, objects.get? read.name = some o → o.revision = read.revision → o = read

theorem Seen.of_get? (h : objects.get? name = some read) : objects.Seen read := by
  obtain rfl := get?_name h
  refine ⟨objects.bounded read (Table.get?_mem h), fun o ho _ => ?_⟩
  rw [h] at ho
  exact (Option.some.inj ho).symm

/-- A guard that holds means that the object is the one that was read. -/
theorem Seen.holds (seen : objects.Seen read) (h : objects.holds read = true) : objects.get? read.name = some read := by
  obtain ⟨o, ho, same⟩ := (Option.any_eq_true _ _).1 h
  simp only [Bool.and_eq_true, beq_iff_eq] at same
  rw [ho, seen.current o ho same.2]

/-- What was read stays so while every object is kept or takes a later revision. -/
theorem Seen.after (seen : objects.Seen read) (later : objects.revision ≤ objects'.revision)
    (kept : ∀ k o, objects'.get? k = some o → objects.get? k = some o ∨ objects.revision < o.revision) :
    objects'.Seen read := by
  refine ⟨seen.bounded.trans later, fun o ho same => ?_⟩
  rcases kept read.name o ho with old | new
  · exact seen.current o old same
  · have := seen.bounded
    omega

theorem Seen.create (seen : objects.Seen read) (h : objects.create name uid content = some objects') :
    objects'.Seen read := by
  obtain ⟨-, later, lookup⟩ := get?_create h
  refine seen.after (by omega) fun k o ho => ?_
  rw [lookup] at ho
  split at ho
  · cases ho
    exact .inr (Nat.lt_succ_self _)
  · exact .inl ho

theorem Seen.store (seen : objects.Seen read) (h : objects.get? o.name = some o) :
    (objects.store o content).Seen read := by
  refine seen.after (Nat.le_succ _) fun k p hp => ?_
  rw [get?_store h] at hp
  split at hp
  · cases hp
    exact .inr (Nat.lt_succ_self _)
  · exact .inl hp

theorem Seen.delete (seen : objects.Seen read) : (objects.delete name).Seen read := by
  refine seen.after le_rfl fun k o ho => ?_
  rw [get?_delete] at ho
  split at ho
  · cases ho
  · exact .inl ho

theorem Seen.touch (seen : objects.Seen read) : (objects.touch name).Seen read := by
  unfold Objects.touch
  cases h : objects.get? name with
  | none => exact seen
  | some o =>
    obtain rfl := get?_name h
    exact seen.store h

end Objects

end Xscope

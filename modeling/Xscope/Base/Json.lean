/-
JSON values. An object is the list of its members in key order, so two objects with the same
members are equal; indexing with a key that is not there gives `null`, and assigning a key
replaces its member or adds one.
-/
import Xscope.Base.Assoc
import Xscope.Base.Int64

namespace Xscope

inductive Json where
  | null
  | bool (value : Bool)
  | int (value : Int)
  | float (text : String)
  | str (value : String)
  | arr (items : List Json)
  | obj (members : List (String × Json))

namespace Json

mutual

def decEq : (a b : Json) → Decidable (a = b)
  | .null, .null => isTrue rfl
  | .bool a, .bool b => if h : a = b then isTrue (by rw [h]) else isFalse fun e => h (Json.bool.inj e)
  | .int a, .int b => if h : a = b then isTrue (by rw [h]) else isFalse fun e => h (Json.int.inj e)
  | .float a, .float b => if h : a = b then isTrue (by rw [h]) else isFalse fun e => h (Json.float.inj e)
  | .str a, .str b => if h : a = b then isTrue (by rw [h]) else isFalse fun e => h (Json.str.inj e)
  | .arr a, .arr b => match decEqItems a b with
    | isTrue h => isTrue (by rw [h])
    | isFalse h => isFalse fun e => h (Json.arr.inj e)
  | .obj a, .obj b => match decEqMembers a b with
    | isTrue h => isTrue (by rw [h])
    | isFalse h => isFalse fun e => h (Json.obj.inj e)
  | .null, .bool _ | .null, .int _ | .null, .float _ | .null, .str _ | .null, .arr _ | .null, .obj _
  | .bool _, .null | .bool _, .int _ | .bool _, .float _ | .bool _, .str _ | .bool _, .arr _ | .bool _, .obj _
  | .int _, .null | .int _, .bool _ | .int _, .float _ | .int _, .str _ | .int _, .arr _ | .int _, .obj _
  | .float _, .null | .float _, .bool _ | .float _, .int _ | .float _, .str _ | .float _, .arr _ | .float _, .obj _
  | .str _, .null | .str _, .bool _ | .str _, .int _ | .str _, .float _ | .str _, .arr _ | .str _, .obj _
  | .arr _, .null | .arr _, .bool _ | .arr _, .int _ | .arr _, .float _ | .arr _, .str _ | .arr _, .obj _
  | .obj _, .null | .obj _, .bool _ | .obj _, .int _ | .obj _, .float _ | .obj _, .str _ | .obj _, .arr _ =>
    isFalse fun e => by cases e

def decEqItems : (a b : List Json) → Decidable (a = b)
  | [], [] => isTrue rfl
  | [], _ :: _ => isFalse fun e => by cases e
  | _ :: _, [] => isFalse fun e => by cases e
  | a :: as, b :: bs => match decEq a b, decEqItems as bs with
    | isTrue h, isTrue hs => isTrue (by rw [h, hs])
    | isFalse h, _ => isFalse fun e => h (List.cons.inj e).1
    | _, isFalse h => isFalse fun e => h (List.cons.inj e).2

def decEqMembers : (a b : List (String × Json)) → Decidable (a = b)
  | [], [] => isTrue rfl
  | [], _ :: _ => isFalse fun e => by cases e
  | _ :: _, [] => isFalse fun e => by cases e
  | (k, a) :: as, (l, b) :: bs => match decEq a b, decEqMembers as bs with
    | isTrue h, isTrue hs => if hk : k = l then isTrue (by rw [h, hs, hk])
      else isFalse fun e => hk (Prod.mk.inj (List.cons.inj e).1).1
    | isFalse h, _ => isFalse fun e => h (Prod.mk.inj (List.cons.inj e).1).2
    | _, isFalse h => isFalse fun e => h (List.cons.inj e).2

end

instance : DecidableEq Json := decEq

def isObject : Json → Bool
  | .obj _ => true
  | _ => false

/-- The value of the member `k`, `null` when there is none. -/
def get (j : Json) (k : String) : Json := match j with
  | .obj members => (members.lookup k).getD .null
  | _ => .null

/-- Members in key order with `k` set to `v`. -/
def assign (k : String) (v : Json) : List (String × Json) → List (String × Json)
  | [] => [(k, v)]
  | (l, w) :: rest =>
    if k = l then (k, v) :: rest
    else if k < l then (k, v) :: (l, w) :: rest
    else (l, w) :: assign k v rest

/-- The object with the member `k` set to `v`; nothing for a value that cannot be indexed. -/
def set (j : Json) (k : String) (v : Json) : Option Json := match j with
  | .obj members => some (.obj (assign k v members))
  | .null => some (.obj [(k, v)])
  | _ => none

def members : Json → List (String × Json)
  | .obj members => members
  | _ => []

/-- The value of the member `k`, if there is one. -/
def member (j : Json) (k : String) : Option Json := j.members.lookup k

/-- The members but those named `k`. -/
def remove (k : String) (members : List (String × Json)) : List (String × Json) := members.filter fun m => m.1 ≠ k

/-- The members are in key order, so no two have one name. -/
def Ordered (members : List (String × Json)) : Prop := members.Pairwise fun m n => m.1 < n.1

def asI64 : Json → Option Int
  | .int n => if Fits n then some n else none
  | _ => none

def asStr : Json → Option String
  | .str s => some s
  | _ => none

theorem lookup_assign (k l : String) (v : Json) (members : List (String × Json)) :
    (assign k v members).lookup l = if l = k then some v else members.lookup l := by
  induction members with
  | nil => rw [assign, lookup_cons_ite]
  | cons m rest ih =>
    obtain ⟨m, w⟩ := m
    unfold assign
    by_cases hm : k = m
    · subst hm
      rw [if_pos rfl, lookup_cons_ite, lookup_cons_ite]
      split <;> rfl
    · rw [if_neg hm]
      split
      · rw [lookup_cons_ite]
      · rw [lookup_cons_ite, lookup_cons_ite, ih]
        by_cases hl : l = k
        · subst hl; simp [hm]
        · simp [hl]

/-- Reading back what was assigned. -/
theorem get_set {j j' v : Json} {k : String} (h : j.set k v = some j') (l : String) :
    j'.get l = if l = k then v else j.get l := by
  cases j with
  | obj members =>
    cases h
    simp only [get, lookup_assign]
    split <;> rfl
  | null =>
    cases h
    simp only [get, lookup_cons_ite, List.lookup_nil]
    split <;> rfl
  | _ => cases h

/-- A value with a member that is not `null` is an object. -/
theorem isObject_of_get {j : Json} {k : String} (h : j.get k ≠ .null) : j.isObject = true := by
  cases j with
  | obj => rfl
  | _ => exact absurd rfl h

theorem set_of_isObject {j : Json} (h : j.isObject = true) (k : String) (v : Json) :
    ∃ j', j.set k v = some j' ∧ j'.isObject = true := by
  cases j with
  | obj members => exact ⟨_, rfl, rfl⟩
  | _ => cases h

theorem asI64_some {j : Json} {n : Int} : j.asI64 = some n ↔ j = .int n ∧ Fits n := by
  cases j with
  | int m =>
    simp only [asI64]
    split
    · rename_i h
      constructor
      · intro e; cases e; exact ⟨rfl, h⟩
      · rintro ⟨e, -⟩; cases e; rfl
    · rename_i h
      constructor
      · intro e; cases e
      · rintro ⟨e, h'⟩; cases e; exact absurd h' h
  | _ => simp [asI64]

end Json

end Xscope

/-
The outbox under the money operations: whatever an operation does, it only appends events. Each
transaction does so because its parts do.
-/
import Xscope.Billing.Keeping

namespace Xscope

/-! ## Appending transactions -/

/-- The second outbox is the first after some appends. -/
def Appends (o o' : Outbox) : Prop := Relation.ReflTransGen (fun o o' => ∃ account, Outbox.Appended account o o') o o'

def DbAppends (db db' : Db) : Prop := Appends db.outbox db'.outbox

instance : IsPreorder Db DbAppends where
  refl _ := Relation.ReflTransGen.refl
  trans _ _ _ h1 h2 := Relation.ReflTransGen.trans h1 h2

/-- A transaction that only appends to the outbox. -/
class Appending {α : Type} (x : DbTx α) : Prop where
  within : Tx.Within DbAppends x

/-- A slot of a table outside the outbox. -/
class Slot.Outside {ρ κ : Type} [Keyed ρ κ] (slot : Slot ρ) : Prop where
  outbox : ∀ t db, (slot.set t db).outbox = db.outbox

section Instances

instance : Slot.Outside Slot.projects := ⟨fun _ _ => rfl⟩
instance : Slot.Outside Slot.accounts := ⟨fun _ _ => rfl⟩
instance : Slot.Outside Slot.apiKeys := ⟨fun _ _ => rfl⟩
instance : Slot.Outside Slot.catalog := ⟨fun _ _ => rfl⟩
instance : Slot.Outside Slot.prices := ⟨fun _ _ => rfl⟩
instance : Slot.Outside Slot.reservations := ⟨fun _ _ => rfl⟩
instance : Slot.Outside Slot.usageEvents := ⟨fun _ _ => rfl⟩
instance : Slot.Outside Slot.transactions := ⟨fun _ _ => rfl⟩
instance : Slot.Outside Slot.entries := ⟨fun _ _ => rfl⟩
instance : Slot.Outside Slot.orders := ⟨fun _ _ => rfl⟩
instance : Slot.Outside Slot.payments := ⟨fun _ _ => rfl⟩
instance : Slot.Outside Slot.refunds := ⟨fun _ _ => rfl⟩
instance : Slot.Outside Slot.checkouts := ⟨fun _ _ => rfl⟩
instance : Slot.Outside Slot.receipts := ⟨fun _ _ => rfl⟩
instance : Slot.Outside Slot.reviews := ⟨fun _ _ => rfl⟩
instance : Slot.Outside Slot.reviewAudits := ⟨fun _ _ => rfl⟩
instance : Slot.Outside Slot.balances := ⟨fun _ _ => rfl⟩
instance : Slot.Outside Slot.keyHolds := ⟨fun _ _ => rfl⟩
instance : Slot.Outside Slot.monthSpends := ⟨fun _ _ => rfl⟩

/-- A table outside the outbox can be replaced. -/
instance {ρ κ : Type} [Keyed ρ κ] {slot : Slot ρ} [h : slot.Outside] : slot.Kept DbAppends := by
  refine ⟨fun t db => ?_⟩
  show Appends db.outbox (slot.set t db).outbox
  rw [h.outbox]
  exact .refl

end Instances

instance : Frame DbAppends where
  accounts := inferInstance
  reservations := inferInstance
  usageEvents := inferInstance
  transactions := inferInstance
  entries := inferInstance
  orders := inferInstance
  payments := inferInstance
  refunds := inferInstance
  checkouts := inferInstance
  receipts := inferInstance
  reviews := inferInstance
  reviewAudits := inferInstance
  balances := inferInstance
  keyHolds := inferInstance
  monthSpends := inferInstance
  appendEvent call account kind aggregate payload db _ db' hx := by
    obtain ⟨o, he, h⟩ := appendEvent_ok hx
    simp only at he
    subst he
    exact .single ⟨account, h⟩

instance {α : Type} {x : DbTx α} [h : Keeping DbAppends x] : Appending x := ⟨h.within⟩

/-! ## Operations -/

theorem Appending.commit {α : Type} (x : DbTx α) [h : Appending x] (db : Db) : DbAppends db (Tx.commit x db).2 :=
  have : Keeping DbAppends x := ⟨h.within⟩
  Keeping.commit x db

/-- A money operation only appends to the outbox. -/
theorem Op.appends (digests : Digests) (op : Op) (db : Db) : DbAppends db (op.run digests db) :=
  op.keeps_catalog digests db (Appending.commit _ db) fun _ _ => Appending.commit _ db

end Xscope

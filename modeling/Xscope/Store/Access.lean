/-
Access to one table inside a transaction. A slot says where a table lives in the database and
which rows a unique index refuses beside a given one; insertion fails on a taken primary key or
on such a row, as the database does.
-/
import Xscope.Store.Schema

namespace Xscope

/-- A table of the database, with the unique indexes it has besides its primary key. -/
structure Slot (ρ : Type) {κ : Type} [Keyed ρ κ] where
  get : Db → Table ρ
  set : Table ρ → Db → Db
  clash : ρ → ρ → Bool := fun _ _ => false

namespace Slot

def projects : Slot Project where
  get db := db.books.projects
  set t := Db.setBooks fun b => { b with projects := t }

/-- `billing_accounts_project_key`. -/
def accounts : Slot BillingAccount where
  get db := db.books.accounts
  set t := Db.setBooks fun b => { b with accounts := t }
  clash a b := a.projectId == b.projectId

def apiKeys : Slot ApiKey where
  get db := db.books.apiKeys
  set t := Db.setBooks fun b => { b with apiKeys := t }

def catalog : Slot CatalogRow where
  get db := db.books.catalog
  set t := Db.setBooks fun b => { b with catalog := t }

def prices : Slot PriceRow where
  get db := db.books.prices
  set t := Db.setBooks fun b => { b with prices := t }

/-- `reservation_request_unique`. -/
def reservations : Slot Reservation where
  get db := db.books.reservations
  set t := Db.setBooks fun b => { b with reservations := t }
  clash a b := a.projectId == b.projectId && a.requestId == b.requestId

def usageEvents : Slot UsageRow where
  get db := db.books.usageEvents
  set t := Db.setBooks fun b => { b with usageEvents := t }

/-- `ledger_transactions_idempotency_key`. -/
def transactions : Slot LedgerTransaction where
  get db := db.books.transactions
  set t := Db.setBooks fun b => { b with transactions := t }
  clash a b := a.idempotencyKey == b.idempotencyKey

def entries : Slot LedgerEntry where
  get db := db.books.entries
  set t := Db.setBooks fun b => { b with entries := t }

def orders : Slot BillingOrder where
  get db := db.books.orders
  set t := Db.setBooks fun b => { b with orders := t }

/-- `payments_provider_reference_key`. -/
def payments : Slot Payment where
  get db := db.books.payments
  set t := Db.setBooks fun b => { b with payments := t }
  clash a b := a.provider == b.provider && a.providerReference == b.providerReference

def refunds : Slot Refund where
  get db := db.books.refunds
  set t := Db.setBooks fun b => { b with refunds := t }

def checkouts : Slot PaymentCheckout where
  get db := db.books.checkouts
  set t := Db.setBooks fun b => { b with checkouts := t }

def receipts : Slot ProviderReceipt where
  get db := db.books.receipts
  set t := Db.setBooks fun b => { b with receipts := t }

def reviews : Slot BillingReview where
  get db := db.books.reviews
  set t := Db.setBooks fun b => { b with reviews := t }

def reviewAudits : Slot ReviewAudit where
  get db := db.books.reviewAudits
  set t := Db.setBooks fun b => { b with reviewAudits := t }

def balances : Slot BillingBalance where
  get db := db.projections.balances
  set t := Db.setProjections fun p => { p with balances := t }

def keyHolds : Slot BillingKeyHold where
  get db := db.projections.keyHolds
  set t := Db.setProjections fun p => { p with keyHolds := t }

def monthSpends : Slot BillingMonthSpend where
  get db := db.projections.monthSpends
  set t := Db.setProjections fun p => { p with monthSpends := t }

def events : Slot BillingEvent where
  get db := db.outbox.events
  set t := Db.setOutbox fun o => { o with events := t }

def jobs : Slot BillingJob where
  get db := db.outbox.jobs
  set t := Db.setOutbox fun o => { o with jobs := t }

def effects : Slot BillingEffect where
  get db := db.outbox.effects
  set t := Db.setOutbox fun o => { o with effects := t }

def audits : Slot OperationAudit where
  get db := db.outbox.audits
  set t := Db.setOutbox fun o => { o with audits := t }

end Slot

section

variable {ρ κ : Type} [Keyed ρ κ] [DecidableEq κ]

/-- The row with primary key `k`. -/
def findById (slot : Slot ρ) (k : κ) : DbTx (Option ρ) := Tx.read fun db => (slot.get db).get? k

/-- The rows that satisfy `p`, oldest last. -/
def selectWhere (slot : Slot ρ) (p : ρ → Bool) : DbTx (List ρ) := Tx.read fun db => (slot.get db).select p

/-- Some row that satisfies `p`. -/
def findWhere (slot : Slot ρ) (p : ρ → Bool) : DbTx (Option ρ) := Tx.read fun db => (slot.get db).find p

/-- Insertion; `e` when the primary key or a unique index refuses the row. -/
def insertRow (slot : Slot ρ) (row : ρ) (e : ServiceError) : DbTx Unit := fun db =>
  if (slot.get db).rows.any (slot.clash row) then .error e
  else match (slot.get db).insert? row with
    | some t => .ok ((), slot.set t db)
    | none => .error e

/-- Replacement of an existing row. -/
def updateRow (slot : Slot ρ) (row : ρ) : DbTx Unit := Tx.write fun db => slot.set ((slot.get db).put row) db

/-- `SUM(bigint)` cast back to `bigint`: an error when the sum is out of range. -/
def total (sum : Books → Int) : DbTx Int := fun db =>
  match checked (sum db.books) with
  | some value => .ok (value, db)
  | none => .error .database

/-- The error of an insertion that maps a taken key to a conflict. -/
def conflictOrDatabase : ServiceError := .conflict "resource already exists"

theorem insertRow_ok {slot : Slot ρ} {row : ρ} {e : ServiceError} {db : Db} {r : Unit × Db} :
    insertRow slot row e db = .ok r ↔
      (∀ x ∈ slot.get db, slot.clash row x = false) ∧
        ∃ t, (slot.get db).insert? row = some t ∧ ((), slot.set t db) = r := by
  unfold insertRow
  by_cases h : (slot.get db).rows.any (slot.clash row)
  · rw [if_pos h]
    obtain ⟨x, hx, hc⟩ := List.any_eq_true.1 h
    constructor
    · intro h'; cases h'
    · rintro ⟨hn, -⟩; rw [hn x hx] at hc; cases hc
  · rw [if_neg h]
    have hn : ∀ x ∈ slot.get db, slot.clash row x = false := fun x hx => by
      cases hc : slot.clash row x with
      | false => rfl
      | true => exact absurd (List.any_eq_true.2 ⟨x, hx, hc⟩) h
    cases hi : (slot.get db).insert? row with
    | none => simp
    | some t => simp only [Except.ok.injEq, Option.some.injEq, exists_eq_left']; exact ⟨fun h => ⟨hn, h⟩, fun h => h.2⟩

@[simp] theorem updateRow_ok {slot : Slot ρ} {row : ρ} {db : Db} {r : Unit × Db} :
    updateRow slot row db = .ok r ↔ ((), slot.set ((slot.get db).put row) db) = r := by
  simp [updateRow]

/-! The same rules in front of the rest of a `do` block. -/

section Bind

variable {α : Type}

@[simp] theorem findById_bind (slot : Slot ρ) (k : κ) {f : Option ρ → DbTx α} {db : Db} :
    (findById slot k >>= f) db = f ((slot.get db).get? k) db := rfl

omit [DecidableEq κ] in
@[simp] theorem findWhere_bind (slot : Slot ρ) (p : ρ → Bool) {f : Option ρ → DbTx α} {db : Db} :
    (findWhere slot p >>= f) db = f ((slot.get db).find p) db := rfl

omit [DecidableEq κ] in
@[simp] theorem selectWhere_bind (slot : Slot ρ) (p : ρ → Bool) {f : List ρ → DbTx α} {db : Db} :
    (selectWhere slot p >>= f) db = f ((slot.get db).select p) db := rfl

@[simp] theorem insertRow_bind {slot : Slot ρ} {row : ρ} {e : ServiceError} {f : Unit → DbTx α} {db : Db} {r : α × Db} :
    (insertRow slot row e >>= f) db = .ok r ↔
      (∀ x ∈ slot.get db, slot.clash row x = false) ∧
        ∃ t, (slot.get db).insert? row = some t ∧ f () (slot.set t db) = .ok r := by
  rw [Tx.bind_ok]
  constructor
  · rintro ⟨_, _, h, hf⟩
    obtain ⟨hc, t, ht, he⟩ := insertRow_ok.1 h
    cases he
    exact ⟨hc, t, ht, hf⟩
  · rintro ⟨hc, t, ht, hf⟩
    exact ⟨(), _, insertRow_ok.2 ⟨hc, t, ht, rfl⟩, hf⟩

@[simp] theorem updateRow_bind (slot : Slot ρ) (row : ρ) {f : Unit → DbTx α} {db : Db} :
    (updateRow slot row >>= f) db = f () (slot.set ((slot.get db).put row) db) := rfl

end Bind

end

theorem total_ok {sum : Books → Int} {db : Db} {r : Int × Db} :
    total sum db = .ok r ↔ Fits (sum db.books) ∧ (sum db.books, db) = r := by
  unfold total
  by_cases h : Fits (sum db.books)
  · rw [checked_of_fits h]; simp [h]
  · rw [checked_none.2 h]; simp [h]

@[simp] theorem total_bind {α : Type} {sum : Books → Int} {f : Int → DbTx α} {db : Db} {r : α × Db} :
    (total sum >>= f) db = .ok r ↔ Fits (sum db.books) ∧ f (sum db.books) db = .ok r := by
  rw [Tx.bind_ok]
  constructor
  · rintro ⟨_, _, h, hf⟩; obtain ⟨hc, he⟩ := total_ok.1 h; cases he; exact ⟨hc, hf⟩
  · rintro ⟨hc, hf⟩; exact ⟨_, _, total_ok.2 ⟨hc, rfl⟩, hf⟩

end Xscope

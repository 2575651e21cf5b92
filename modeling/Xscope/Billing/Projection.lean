/-
The projections of the books: account balances and holds, key holds, and the monthly spend of a
key. A missing counter is filled from the books when it is first needed, and every change of the
books is accompanied by the same change of its counters inside one transaction.
-/
import Xscope.Store.Access

namespace Xscope

/-! ## What the counters count -/

namespace Books

/-- The customer balance of an account: the sum of its `customer_balance` entries. -/
def balance (b : Books) (account : String) : Int :=
  b.entries.sumWhere (fun e => e.billingAccountId == account && e.ledgerAccount == .customerBalance)
    (·.amountMicrounits)

/-- What the pending reservations of an account hold. -/
def held (b : Books) (account : String) : Int :=
  b.reservations.sumWhere (fun r => r.billingAccountId == account && r.state.held) (·.reservedMicrounits)

/-- What the pending reservations of a key hold. -/
def keyHeld (b : Books) (apiKey : String) : Int :=
  b.reservations.sumWhere (fun r => r.apiKeyId == apiKey && r.state.held) (·.reservedMicrounits)

/-- The cost of the usage of a key from `start` up to `stop`. -/
def spentBetween (b : Books) (apiKey : String) (start stop : Int) : Int :=
  b.usageEvents.sumWhere
    (fun u => u.apiKeyId == apiKey && decide (start ≤ u.occurredAt) && decide (u.occurredAt < stop)) (·.costMicrounits)

/-- The cost of the usage of a key in the UTC month that starts on `month`. -/
def spent (b : Books) (apiKey : String) (month : Int) : Int :=
  b.usageEvents.sumWhere
    (fun u => u.apiKeyId == apiKey && Calendar.firstOfMonth (Calendar.ofTimestamp u.occurredAt) == month)
    (·.costMicrounits)

end Books

/-! ## Reading and filling the counters -/

/-- The billing account of a project, locked for the transaction. -/
def lockAccount (projectId : String) : DbTx BillingAccount := do
  let account ← findWhere Slot.accounts fun a => a.projectId == projectId
  Tx.expect account .notFound

def historicalBalanceAndHeld (accountId : String) : DbTx (Int × Int) := do
  let balance ← total (·.balance accountId)
  let held ← total (·.held accountId)
  pure (balance, held)

/-- `CHECK (held_microunits >= 0)` and `CHECK (spent_microunits >= 0)`. -/
def checkNonneg (value : Int) : DbTx Unit := Tx.reject (value < 0) .database

/-- The counters of an account, filled from the books when missing. -/
def account (id : String) : DbTx BillingBalance := do
  match ← findById Slot.balances id with
  | some row => pure row
  | none =>
    let (booked, held) ← historicalBalanceAndHeld id
    let row : BillingBalance := ⟨id, booked, held⟩
    checkNonneg held
    insertRow Slot.balances row .database
    pure row

def historicalKeyHold (id : String) : DbTx Int := total (·.keyHeld id)

/-- The hold counter of a key, filled from the books when missing. -/
def keyHold (id : String) : DbTx BillingKeyHold := do
  match ← findById Slot.keyHolds id with
  | some row => pure row
  | none =>
    let held ← historicalKeyHold id
    let row : BillingKeyHold := ⟨id, held⟩
    checkNonneg held
    insertRow Slot.keyHolds row .database
    pure row

def historicalSpend (id : String) (period : Int) : DbTx Int := do
  let stop ← Tx.expect (Calendar.checkedAddMonth period) (.invalid "invalid month")
  total (·.spentBetween id (Calendar.midnight period) (Calendar.midnight stop))

/-- The spend counter of a key in a month, filled from the books when missing. -/
def monthly (id : String) (period : Int) : DbTx BillingMonthSpend := do
  match ← findById Slot.monthSpends (id, period) with
  | some row => pure row
  | none =>
    let spent ← historicalSpend id period
    let row : BillingMonthSpend := ⟨id, period, spent⟩
    checkNonneg spent
    insertRow Slot.monthSpends row .database
    pure row

def balanceAndHeld (accountId : String) : DbTx (Int × Int) := do
  let row ← account accountId
  pure (row.balanceMicrounits, row.heldMicrounits)

/-! ## Changing the counters -/

/-- A checked sum, refused below zero when it must not be negative. -/
def add (value delta : Int) (nonnegative : Bool) : DbTx Int :=
  Tx.expect ((checkedAdd value delta).filter fun v => !nonnegative || decide (0 ≤ v))
    (.internal "billing projection overflow or negative hold/spend")

/-- Changes the hold of an account and of a key. To be called before the reservation changes, so
that a counter filled here sees the old reservations. -/
def changeHold (accountId key : String) (delta : Int) : DbTx Unit := do
  let row ← account accountId
  let amount ← add row.heldMicrounits delta true
  updateRow Slot.balances { row with heldMicrounits := amount }
  let row ← keyHold key
  let amount ← add row.heldMicrounits delta true
  updateRow Slot.keyHolds { row with heldMicrounits := amount }

/-- Changes the balance of an account. To be called before the ledger entries are inserted. -/
def changeBalance (id : String) (delta : Int) : DbTx Unit := do
  let row ← account id
  let amount ← add row.balanceMicrounits delta false
  updateRow Slot.balances { row with balanceMicrounits := amount }

/-- Changes a spend counter read before the usage was inserted. -/
def changeSpend (row : BillingMonthSpend) (delta : Int) : DbTx Unit := do
  let amount ← add row.spentMicrounits delta true
  updateRow Slot.monthSpends { row with spentMicrounits := amount }

end Xscope

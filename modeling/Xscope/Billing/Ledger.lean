/-
The ledger writer every money movement goes through, and the accounts it writes to. A posting is
a transaction of two entries that sum to zero; under an enforced balance a debit is refused when
it would consume unavailable or reserved balance.
-/
import Xscope.Billing.Projection
import Xscope.Outbox.Append

namespace Xscope

/-! ## Accounts -/

/-- The account of a new project: postpaid until a policy says otherwise. -/
def newBillingAccount (project : Project) : BillingAccount :=
  { id := "account-" ++ project.id, tenantId := project.tenantId, projectId := project.id
    currency := "CNY", enforceBalance := false, status := "active" }

def createBillingAccount (project : Project) : DbTx BillingAccount := do
  insertRow Slot.accounts (newBillingAccount project) conflictOrDatabase
  pure (newBillingAccount project)

/-- The account of a project, created when the project has none yet. -/
def ensureAccountForProject (projectId : String) : DbTx BillingAccount := do
  match ← findWhere Slot.accounts fun a => a.projectId == projectId with
  | some account => pure account
  | none =>
    let project ← findById Slot.projects projectId
    let project ← Tx.expect project .notFound
    createBillingAccount project

/-! ## Postings -/

/-- What `insert_balanced_entries` is asked to post. -/
structure Posting where
  tenantId : String
  kind : PostingKind
  referenceType : ReferenceType
  referenceId : String
  idempotencyKey : String
  description : String
  customerDelta : Int
  counterAccount : LedgerAccount

/-- The ledger transaction of a posting. -/
def Posting.transaction (p : Posting) (call : Call) (account : BillingAccount) : LedgerTransaction :=
  { id := "txn-" ++ call.txnUuid, tenantId := p.tenantId, kind := p.kind, referenceType := p.referenceType
    referenceId := p.referenceId, idempotencyKey := p.idempotencyKey, currency := account.currency
    description := p.description }

/-- The entry of a posting on the customer's balance. -/
def Posting.customerEntry (p : Posting) (call : Call) (account : BillingAccount) : LedgerEntry :=
  { id := "entry-customer-" ++ call.customerUuid, transactionId := "txn-" ++ call.txnUuid
    billingAccountId := account.id, ledgerAccount := .customerBalance, amountMicrounits := p.customerDelta
    currency := account.currency }

/-- The entry of a posting on its counter account. -/
def Posting.counterEntry (p : Posting) (call : Call) (account : BillingAccount) : LedgerEntry :=
  { id := "entry-counter-" ++ call.counterUuid, transactionId := "txn-" ++ call.txnUuid
    billingAccountId := account.id, ledgerAccount := p.counterAccount, amountMicrounits := -p.customerDelta
    currency := account.currency }

/-- Under an enforced balance, a debit may use what is neither spent nor reserved, and no more. -/
def guardDebit (account : BillingAccount) (delta : Int) : DbTx Unit :=
  if delta < 0 ∧ account.enforceBalance = true then do
    let (balance, held) ← balanceAndHeld account.id
    let available := do checkedAdd (← checkedSub balance held) delta
    Tx.reject (available.all fun v => decide (v < 0))
      (.insufficientFunds "debit would consume unavailable or reserved balance")
  else pure ()

def insertBalancedEntries (call : Call) (account : BillingAccount) (p : Posting) : DbTx Unit := do
  Tx.reject (p.customerDelta = i64Min) (.invalid "ledger amount is too large")
  let locked ← lockAccount account.projectId
  guardDebit locked p.customerDelta
  changeBalance account.id p.customerDelta
  insertRow Slot.transactions (p.transaction call account) conflictOrDatabase
  insertRow Slot.entries (p.customerEntry call account) .database
  insertRow Slot.entries (p.counterEntry call account) .database
  appendEvent call account.id "ledger.posted" (p.transaction call account).id
    (.posted p.kind p.referenceType p.referenceId p.customerDelta account.currency)

/-- Posts a charge, unless nothing is charged. -/
def postCharge (call : Call) (account : BillingAccount) (amount : Int) (p : Posting) : DbTx Unit :=
  if 0 < amount then insertBalancedEntries call account p else pure ()

end Xscope

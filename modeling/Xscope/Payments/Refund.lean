/-
Refunds: manual bookkeeping of captured payments, and the two steps of an Alipay refund. The
first debits the customer into `refund_pending` before any external money moves; the second
clears the pending account when the provider's evidence is verified.
-/
import Xscope.Payments.TopUp

namespace Xscope

variable (digests : Digests)

/-! ## Manual refunds -/

/-- The posting of a refund of `amount` micro-units. -/
def refundPosting (tenantId refundId idempotencyKey description : String) (kind : PostingKind) (amount : Int)
    (counter : LedgerAccount) : Posting :=
  { tenantId := tenantId, kind := kind, referenceType := .refund, referenceId := refundId
    idempotencyKey := idempotencyKey, description := description, customerDelta := -amount
    counterAccount := counter }

/-- The sum of the refunds of a payment in one of `states`. -/
def Db.refunded (db : Db) (paymentId : String) (states : List TransferStatus) : Int :=
  db.books.refunds.sumWhere (fun r => r.paymentId == paymentId && states.contains r.status) (·.amount)

def createRefund (call : Call) (request : CreateRefundRequest) (idempotencyKey : String) : DbTx Refund := do
  checkDomain (validateMoney request.amount)
  Tx.reject (request.amount.amount ≤ 0 ∨ blank request.reason) (.invalid "refund amount and reason are required")
  match ← findById Slot.refunds request.id with
  | some existing => do
    Tx.reject (¬(existing.paymentId = request.paymentId ∧ existing.amount = request.amount.amount ∧
        existing.currency = request.amount.currency ∧ existing.reason = request.reason))
      (.conflict "refund id already belongs to a different request")
    pure existing
  | none => do
    let payment ← findById Slot.payments request.paymentId
    let payment ← Tx.expect payment .notFound
    Tx.reject (payment.provider = "alipay")
      (.invalid "Alipay refunds require the provider refund workflow; manual bookkeeping is forbidden")
    Tx.reject (payment.status ≠ .succeeded ∨ payment.currency ≠ request.amount.currency ∨
        payment.amount < request.amount.amount)
      (.invalid "refund exceeds the captured payment")
    let order ← findById Slot.orders payment.orderId
    let order ← Tx.expect order .notFound
    let refunded ← Tx.read fun db => wrapping (db.refunded payment.id [.succeeded])
    Tx.reject (payment.amount < saturating (refunded + request.amount.amount))
      (.invalid "cumulative refunds exceed the captured payment")
    let account ← ensureAccountForProject order.projectId
    let row : Refund :=
      { id := request.id, paymentId := request.paymentId, amount := request.amount.amount
        currency := request.amount.currency, reason := request.reason, status := .succeeded
        providerReference := none, completedAt := some call.now }
    insertRow Slot.refunds row conflictOrDatabase
    let amount ← Tx.expect (checkedMul row.amount microsPerMinorUnit) (.invalid "refund amount is too large")
    insertBalancedEntries call account
      (refundPosting order.tenantId row.id idempotencyKey "Payment refund" .refund amount .cashClearing)
    pure row

/-! ## Alipay refunds -/

/-- The checks of a provider refund that read nothing but the request. -/
def CreateRefundRequest.providerWellFormed (r : CreateRefundRequest) : Bool :=
  !r.id.isEmpty && decide (r.id.utf8ByteSize ≤ 64) &&
    r.id.toList.all (fun c => c.isAlphanum || c == '-' || c == '_') && !blank r.reason &&
    decide (r.reason.utf8ByteSize ≤ 256) && r.amount.currency == "CNY"

/-- The state of a refund, and whether it was there before. -/
structure RefundOutcome where
  id : String
  state : TransferStatus
  duplicate : Bool
  deriving DecidableEq

def prepareAlipayRefund (call : Call) (request : CreateRefundRequest) (provider : Alipay) : DbTx RefundOutcome := do
  Tx.reject (request.providerWellFormed = false) (.invalid "invalid refund ID, reason or currency")
  checkProviderAmount request.amount.amount
  let payment ← findById Slot.payments request.paymentId
  let payment ← Tx.expect payment .notFound
  let order ← findById Slot.orders payment.orderId
  let order ← Tx.expect order .notFound
  let checkout ← findById Slot.checkouts order.id
  let checkout ← Tx.expect checkout .notFound
  Tx.reject (payment.provider ≠ "alipay" ∨ payment.status ≠ .succeeded ∨ payment.currency ≠ "CNY" ∨
      checkout.profile ≠ provider.profile ∨ checkout.environment ≠ "production" ∨ provider.environment ≠ "production")
    (.conflict "refund requires captured production Alipay payment and matching merchant")
  match ← findById Slot.refunds request.id with
  | some prior => do
    Tx.reject (prior.paymentId ≠ payment.id ∨ prior.amount ≠ request.amount.amount ∨
        prior.currency ≠ request.amount.currency ∨ prior.reason ≠ request.reason)
      (.conflict "refund ID already bound to another request")
    pure ⟨prior.id, prior.status, true⟩
  | none => do
    let prior ← Tx.read fun db => checked (db.refunded payment.id [.pending, .succeeded])
    let prior ← Tx.expect prior .database
    Tx.reject ((checkedAdd prior request.amount.amount).all fun n => decide (payment.amount < n))
      (.conflict "refund total exceeds captured amount")
    let account ← lockAccount order.projectId
    let (balance, held) ← balanceAndHeld account.id
    let debit ← Tx.expect (checkedMul request.amount.amount microsPerMinorUnit) (.invalid "refund overflow")
    -- a refund never uses credit allowance, even if inference is postpaid
    Tx.reject ((checkedSub balance held).all fun available => decide (available < debit))
      (.insufficientFunds "refund would consume spent or reserved balance")
    insertRow Slot.refunds
      { id := request.id, paymentId := payment.id, amount := request.amount.amount, currency := "CNY"
        reason := request.reason, status := .pending, providerReference := none, completedAt := none } .database
    insertBalancedEntries call account
      (refundPosting order.tenantId request.id ("refund-hold:" ++ request.id)
        "Alipay refund funds pending provider evidence" .refundPending debit .refundPending)
    pure ⟨request.id, .pending, false⟩

/-- A refund whose evidence the provider client has verified. -/
structure VerifiedRefund where
  requestId : String
  orderId : String
  tradeId : String
  amountMinor : Int
  evidence : String
  deriving DecidableEq

def succeededRefund (now : Int) (row : Refund) (trade : String) : Refund :=
  { row with status := .succeeded, providerReference := some trade, completedAt := some now }

/-- The ledger transaction that clears a pending refund. -/
def clearingTransaction (call : Call) (order : BillingOrder) (row : Refund) : LedgerTransaction :=
  { id := "txn-" ++ call.txnUuid, tenantId := order.tenantId, kind := .refundSettled, referenceType := .refund
    referenceId := row.id, idempotencyKey := "refund-settle:" ++ row.id, currency := row.currency
    description := "Verified Alipay refund clearing" }

/-- An entry that clears a pending refund. -/
def clearingEntry (call : Call) (account : BillingAccount) (row : Refund) (uuid : String) (ledger : LedgerAccount)
    (delta : Int) : LedgerEntry :=
  { id := "entry-" ++ uuid, transactionId := "txn-" ++ call.txnUuid, billingAccountId := account.id
    ledgerAccount := ledger, amountMicrounits := delta, currency := row.currency }

/-- Writes the ledger transaction and the two entries that clear a pending refund. -/
def clearPendingRefund (call : Call) (account : BillingAccount) (order : BillingOrder) (row : Refund) : DbTx Unit := do
  insertRow Slot.transactions (clearingTransaction call order row) .database
  let amount ← Tx.expect (checkedMul row.amount microsPerMinorUnit) (.invalid "refund overflow")
  insertRow Slot.entries (clearingEntry call account row call.customerUuid .refundPending (-amount)) .database
  insertRow Slot.entries (clearingEntry call account row call.counterUuid .cashClearing amount) .database
  appendEvent call account.id "ledger.posted" (clearingTransaction call order row).id
    (.posted .refundSettled .refund row.id 0 "CNY")

def completeAlipayRefund (call : Call) (provider : Alipay) (proof : VerifiedRefund) : DbTx RefundOutcome := do
  let row ← findById Slot.refunds proof.requestId
  let row ← Tx.expect row .notFound
  let payment ← findById Slot.payments row.paymentId
  let payment ← Tx.expect payment .notFound
  let order ← findById Slot.orders payment.orderId
  let order ← Tx.expect order .notFound
  let checkout ← findById Slot.checkouts order.id
  let checkout ← Tx.expect checkout .notFound
  Tx.reject (provider.environment ≠ "production" ∨ checkout.environment ≠ "production" ∨
      row.amount ≠ proof.amountMinor ∨ payment.providerReference ≠ proof.tradeId ∨ order.id ≠ proof.orderId ∨
      checkout.profile ≠ provider.profile ∨ payment.provider ≠ "alipay")
    (.conflict "refund evidence does not match durable request")
  if row.status = .succeeded then pure ⟨row.id, .succeeded, true⟩
  else do
    Tx.reject (row.status ≠ .pending) (.conflict "refund no longer pending")
    let account ← lockAccount order.projectId
    let digest := digests.sha256 proof.evidence
    insertRow Slot.receipts
      { id := "refund-" ++ digest, orderId := order.id, profile := provider.profile, tradeId := proof.tradeId
        state := "REFUND_SUCCESS", amountMinor := row.amount, proofSha256 := digest, evidence := proof.evidence }
      .database
    clearPendingRefund call account order row
    updateRow Slot.refunds (succeededRefund call.now row proof.tradeId)
    pure ⟨row.id, .succeeded, false⟩

end Xscope

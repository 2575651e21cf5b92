/-
Top-ups: orders, manually captured payments, and Alipay trades whose evidence the provider client
has verified. A paid order is credited once; every observation leaves a receipt.
-/
import Xscope.Billing.Catalog

namespace Xscope

variable (digests : Digests)

/-! ## Orders -/

def createOrder (request : CreateOrderRequest) : DbTx BillingOrder := do
  checkDomain (validateMoney request.amount)
  Tx.reject (request.amount.amount ≤ 0) (.invalid "order amount must be positive")
  let project ← findById Slot.projects request.projectId
  let project ← Tx.expect project .notFound
  Tx.reject (project.tenantId ≠ request.tenantId) .forbidden
  let row : BillingOrder :=
    { id := request.id, tenantId := request.tenantId, projectId := request.projectId, kind := "top_up"
      amount := request.amount.amount, currency := request.amount.currency, status := .pending
      description := request.description }
  insertRow Slot.orders row conflictOrDatabase
  pure row

/-! ## Crediting an order -/

/-- The payment as it is captured. -/
def newPayment (now : Int) (id : String) (order : BillingOrder) (provider reference currency : String) : Payment :=
  { id := id, orderId := order.id, provider := provider, providerReference := reference
    amount := order.amount, currency := currency, status := .succeeded, paidAt := some now }

/-- The posting of a top-up. -/
def topUpPosting (order : BillingOrder) (paymentId idempotencyKey description : String) (amount : Int) : Posting :=
  { tenantId := order.tenantId, kind := .topUp, referenceType := .payment, referenceId := paymentId
    idempotencyKey := idempotencyKey, description := description, customerDelta := amount
    counterAccount := .cashClearing }

def capturePayment (call : Call) (orderId : String) (request : CapturePaymentRequest) (idempotencyKey : String) :
    DbTx Payment := do
  Tx.reject (blank request.provider ∨ blank request.providerReference)
    (.invalid "provider and provider_reference are required")
  match ← findById Slot.payments request.id with
  | some existing => do
    Tx.reject (¬(existing.orderId = orderId ∧ existing.provider = request.provider ∧
        existing.providerReference = request.providerReference))
      (.conflict "payment id already belongs to a different request")
    pure existing
  | none => do
    let order ← findById Slot.orders orderId
    let order ← Tx.expect order .notFound
    Tx.reject (order.status ≠ .pending) (.conflict "only pending orders can be paid")
    let account ← ensureAccountForProject order.projectId
    let payment := newPayment call.now request.id order request.provider request.providerReference order.currency
    insertRow Slot.payments payment conflictOrDatabase
    updateRow Slot.orders { order with status := .paid }
    let amount ← Tx.expect (checkedMul order.amount microsPerMinorUnit) (.invalid "payment amount is too large")
    insertBalancedEntries call account (topUpPosting order payment.id idempotencyKey "Wallet top-up" amount)
    pure payment

/-! ## Alipay -/

/-- The configured merchant: its profile and its environment. -/
structure Alipay where
  profile : String
  environment : String
  deriving DecidableEq

/-- A trade whose evidence the provider client has verified. -/
structure VerifiedTrade where
  orderId : String
  tradeId : String
  amountMinor : Int
  state : String
  proofSha256 : String
  evidence : String
  deriving DecidableEq

def VerifiedTrade.paid (t : VerifiedTrade) : Bool := ["TRADE_SUCCESS", "TRADE_FINISHED"].contains t.state

/-- `format_amount` refuses an amount outside the bounds of the provider. -/
def checkProviderAmount (minor : Int) : DbTx Unit :=
  Tx.reject (¬(1 ≤ minor ∧ minor ≤ 10000000000)) (.invalid "invalid or unverified payment provider evidence")

/-- The transaction of `alipay_checkout` before the provider is asked for a code. -/
def alipayCheckoutOpen (id : String) (provider : Alipay) : DbTx PaymentCheckout := do
  let order ← findById Slot.orders id
  let order ← Tx.expect order .notFound
  Tx.reject (order.status ≠ .pending ∨ order.currency ≠ "CNY") (.conflict "checkout requires a pending CNY order")
  checkProviderAmount order.amount
  match ← findById Slot.checkouts id with
  | some prior => do
    Tx.reject (prior.profile ≠ provider.profile) (.conflict "order bound to another payment merchant/environment")
    pure prior
  | none => do
    let row : PaymentCheckout :=
      { orderId := id, profile := provider.profile, environment := provider.environment, state := .creating
        qrCode := none }
    insertRow Slot.checkouts row .database
    pure row

/-- The transaction of `alipay_checkout` that stores the code the provider answered with. -/
def alipayCheckoutStore (id qr : String) : DbTx PaymentCheckout := do
  let order ← findById Slot.orders id
  let _ ← Tx.expect order .notFound
  let row ← findById Slot.checkouts id
  let row ← Tx.expect row .notFound
  let row := { row with state := if row.state = .creating then .pending else row.state, qrCode := some qr }
  updateRow Slot.checkouts row
  pure row

/-- The answer to an observed trade. -/
inductive TradeOutcome where
  | observed
  | duplicate (paymentId : String)
  | credited (paymentId : String)
  deriving DecidableEq

/-- Stores the receipt of an observed trade, unless it is there. -/
def storeReceipt (provider : Alipay) (order : BillingOrder) (trade : VerifiedTrade) : DbTx Unit := do
  let id := digests.sha256 (provider.profile ++ ":" ++ order.id ++ ":" ++ trade.proofSha256)
  match ← findById Slot.receipts id with
  | some _ => pure ()
  | none =>
    insertRow Slot.receipts
      { id := id, orderId := order.id, profile := provider.profile, tradeId := trade.tradeId, state := trade.state
        amountMinor := trade.amountMinor, proofSha256 := trade.proofSha256, evidence := trade.evidence } .database

/-- A closed trade closes the checkout of a pending order; a late notification never downgrades a
paid one. -/
def noteUnpaid (order : BillingOrder) (checkout : PaymentCheckout) (trade : VerifiedTrade) : DbTx Unit :=
  if trade.state = "TRADE_CLOSED" ∧ order.status = .pending then
    updateRow Slot.checkouts { checkout with state := .closed }
  else pure ()

/-- Credits a paid trade to its order. -/
def creditTrade (call : Call) (order : BillingOrder) (checkout : PaymentCheckout) (trade : VerifiedTrade)
    (paymentId : String) : DbTx TradeOutcome := do
  match ← findById Slot.payments paymentId with
  | some existing => do
    Tx.reject (existing.orderId ≠ order.id ∨ existing.amount ≠ order.amount ∨ existing.status ≠ .succeeded)
      (.conflict "provider trade already belongs to another payment")
    pure (.duplicate paymentId)
  | none => do
    Tx.reject (order.status ≠ .pending) (.conflict "order already paid with different evidence")
    let account ← lockAccount order.projectId
    insertRow Slot.payments (newPayment call.now paymentId order "alipay" trade.tradeId "CNY") .database
    let amount ← Tx.expect (checkedMul order.amount microsPerMinorUnit) (.invalid "credit overflow")
    insertBalancedEntries call account
      (topUpPosting order paymentId ("alipay:" ++ paymentId) "Verified Alipay credit" amount)
    updateRow Slot.orders { order with status := .paid }
    updateRow Slot.checkouts { checkout with state := .paid }
    pure (.credited paymentId)

def acceptAlipayTrade (call : Call) (provider : Alipay) (trade : VerifiedTrade) : DbTx TradeOutcome := do
  let order ← findById Slot.orders trade.orderId
  let order ← Tx.expect order .notFound
  let checkout ← findById Slot.checkouts order.id
  let checkout ← Tx.expect checkout (.conflict "no checkout was initiated for this order")
  Tx.reject (checkout.profile ≠ provider.profile ∨ checkout.environment ≠ provider.environment ∨
      order.currency ≠ "CNY" ∨ order.amount ≠ trade.amountMinor)
    (.conflict "verified trade does not match bound checkout amount or merchant")
  storeReceipt digests provider order trade
  -- sandbox observations are retained but never credited
  if provider.environment ≠ "production" then pure .observed
  else if trade.paid = false then do
    noteUnpaid order checkout trade
    pure .observed
  else
    creditTrade call order checkout trade ("alipay-" ++ digests.sha256 (provider.profile ++ ":" ++ trade.tradeId))

end Xscope

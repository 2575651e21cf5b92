/-
The tables of the control plane that money passes through. `Books` are the source records,
`Projections` the counters derived from them, and `Outbox` the account events with the jobs that
consume them. JSON columns hold the typed value the source encodes in them.
-/
import Xscope.Base.Calendar
import Xscope.Base.Table
import Xscope.Base.Tx
import Xscope.Domain.Requests

namespace Xscope

/-! ## Projects, keys and the catalog -/

structure Project where
  id : String
  tenantId : String
  name : String
  deriving DecidableEq

instance : Keyed Project String := ⟨Project.id⟩

structure BillingAccount where
  id : String
  tenantId : String
  projectId : String
  currency : String
  enforceBalance : Bool
  status : String
  deriving DecidableEq

instance : Keyed BillingAccount String := ⟨BillingAccount.id⟩

structure ApiKey where
  id : String
  tenantId : String
  projectId : String
  name : String
  scopes : List String
  allowedModels : List String
  expiresAt : Option Int
  rateLimitRpm : Int
  rateLimitTpm : Int
  monthlyBudgetAmount : Int
  currency : String
  revokedAt : Option Int
  deriving DecidableEq

instance : Keyed ApiKey String := ⟨ApiKey.id⟩

structure CatalogRow where
  id : String
  revision : Int
  enabled : Bool
  defaultPool : Option String
  definition : Model
  deriving DecidableEq

instance : Keyed CatalogRow String := ⟨CatalogRow.id⟩

structure PriceRow where
  modelId : String
  version : String
  definition : Model
  deriving DecidableEq

instance : Keyed PriceRow (String × String) := ⟨fun r => (r.modelId, r.version)⟩

/-! ## Reservations and usage -/

inductive ReservationState where
  | reserved
  | dispatched
  | released
  | settled
  | waived
  deriving DecidableEq

/-- The states whose reservations hold money. -/
def ReservationState.held : ReservationState → Bool
  | .reserved | .dispatched => true
  | _ => false

/-- What a reservation of `amount` holds in a state. -/
def ReservationState.holds (s : ReservationState) (amount : Int) : Int := if s.held then amount else 0

theorem ReservationState.holds_of_held {s : ReservationState} (h : s.held = true)
    (amount : Int) : s.holds amount = amount :=
  if_pos h

/-- What ended a reservation, or why its usage is not known yet. -/
inductive Completion where
  | unresolved (report : UnresolvedRequest)
  | released (reason : String)
  | settled (usage : SettleRequest)
  deriving DecidableEq

structure Reservation where
  id : String
  billingAccountId : String
  projectId : String
  tenantId : String
  apiKeyId : String
  requestId : String
  spec : ReserveRequest
  price : Model
  reservedMicrounits : Int
  settledMicrounits : Option Int
  state : ReservationState
  completion : Option Completion
  createdAt : Int
  updatedAt : Int
  deriving DecidableEq

instance : Keyed Reservation String := ⟨Reservation.id⟩

structure UsageRow where
  eventId : String
  requestId : String
  occurredAt : Int
  tenantId : String
  projectId : String
  apiKeyId : String
  modelId : String
  modelRevision : String
  endpointId : String
  region : String
  priceVersion : String
  inputTokens : Int
  outputTokens : Int
  cachedInputTokens : Int
  latencyMs : Int
  status : String
  costAmount : Int
  costMicrounits : Int
  currency : String
  receivedAt : Int
  deriving DecidableEq

instance : Keyed UsageRow String := ⟨UsageRow.eventId⟩

/-! ## The ledger -/

inductive LedgerAccount where
  | customerBalance
  | usageRevenue
  | cashClearing
  | refundPending
  deriving DecidableEq

inductive PostingKind where
  | usage
  | topUp
  | refund
  | refundPending
  | refundSettled
  deriving DecidableEq

inductive ReferenceType where
  | usageEvent
  | payment
  | refund
  deriving DecidableEq

structure LedgerTransaction where
  id : String
  tenantId : String
  kind : PostingKind
  referenceType : ReferenceType
  referenceId : String
  idempotencyKey : String
  currency : String
  description : String
  deriving DecidableEq

instance : Keyed LedgerTransaction String := ⟨LedgerTransaction.id⟩

structure LedgerEntry where
  id : String
  transactionId : String
  billingAccountId : String
  ledgerAccount : LedgerAccount
  amountMicrounits : Int
  currency : String
  deriving DecidableEq

instance : Keyed LedgerEntry String := ⟨LedgerEntry.id⟩

/-! ## Orders, payments and refunds -/

inductive OrderStatus where
  | pending
  | paid
  deriving DecidableEq

structure BillingOrder where
  id : String
  tenantId : String
  projectId : String
  kind : String
  amount : Int
  currency : String
  status : OrderStatus
  description : String
  deriving DecidableEq

instance : Keyed BillingOrder String := ⟨BillingOrder.id⟩

/-- The states of money moving through a provider. -/
inductive TransferStatus where
  | pending
  | succeeded
  deriving DecidableEq

structure Payment where
  id : String
  orderId : String
  provider : String
  providerReference : String
  amount : Int
  currency : String
  status : TransferStatus
  paidAt : Option Int
  deriving DecidableEq

instance : Keyed Payment String := ⟨Payment.id⟩

structure Refund where
  id : String
  paymentId : String
  amount : Int
  currency : String
  reason : String
  status : TransferStatus
  providerReference : Option String
  completedAt : Option Int
  deriving DecidableEq

instance : Keyed Refund String := ⟨Refund.id⟩

inductive CheckoutState where
  | creating
  | pending
  | paid
  | closed
  deriving DecidableEq

structure PaymentCheckout where
  orderId : String
  profile : String
  environment : String
  state : CheckoutState
  qrCode : Option String
  deriving DecidableEq

instance : Keyed PaymentCheckout String := ⟨PaymentCheckout.orderId⟩

structure ProviderReceipt where
  id : String
  orderId : String
  profile : String
  tradeId : String
  state : String
  amountMinor : Int
  proofSha256 : String
  evidence : String
  deriving DecidableEq

instance : Keyed ProviderReceipt String := ⟨ProviderReceipt.id⟩

/-! ## Reviews -/

/-- The stored evidence of a review: a usage receipt, or a loss waiver. -/
inductive Submission where
  | evidence (request : EvidenceRequest)
  | waiver (request : WaiverRequest)
  deriving DecidableEq

def Submission.id : Submission → String
  | .evidence r => r.id
  | .waiver r => r.id

def Submission.isWaiver : Submission → Bool
  | .evidence _ => false
  | .waiver _ => true

inductive ReviewState where
  | submitted
  | rejected
  | settled
  | waived
  deriving DecidableEq

structure BillingReview where
  id : String
  reservationId : String
  projectId : String
  submittedBy : String
  evidence : Submission
  evidenceSha256 : String
  state : ReviewState
  reviewedBy : Option String
  decision : Option DecisionRequest
  deriving DecidableEq

instance : Keyed BillingReview String := ⟨BillingReview.id⟩

inductive AuditDetails where
  | submitted (reservationId : String)
  | decided (decision : DecisionRequest)
  deriving DecidableEq

structure ReviewAudit where
  reviewId : String
  sequence : Nat
  kind : ReviewState
  actorId : String
  subject : String
  evidenceSha256 : String
  details : AuditDetails
  deriving DecidableEq

instance : Keyed ReviewAudit (String × Nat) := ⟨fun r => (r.reviewId, r.sequence)⟩

/-! ## Projections -/

structure BillingBalance where
  billingAccountId : String
  balanceMicrounits : Int
  heldMicrounits : Int
  deriving DecidableEq

instance : Keyed BillingBalance String := ⟨BillingBalance.billingAccountId⟩

structure BillingKeyHold where
  apiKeyId : String
  heldMicrounits : Int
  deriving DecidableEq

instance : Keyed BillingKeyHold String := ⟨BillingKeyHold.apiKeyId⟩

structure BillingMonthSpend where
  apiKeyId : String
  month : Int
  spentMicrounits : Int
  deriving DecidableEq

instance : Keyed BillingMonthSpend (String × Int) := ⟨fun r => (r.apiKeyId, r.month)⟩

/-! ## Account events and their jobs -/

/-- The counters a rebuild found: account, key and month row. -/
structure StoredCounters where
  account : Option BillingBalance
  keyHold : Option BillingKeyHold
  month : Option BillingMonthSpend
  deriving DecidableEq

inductive EventPayload where
  | created (reservedMicrounits : Int) (priceVersion : String)
  | dispatched
  | released (reason : String)
  | unresolved (report : UnresolvedRequest)
  | settled (usageEventId : String) (settledMicrounits : Int)
  | waived (reviewId actorId evidenceSha256 : String)
  | review (reservationId actorId evidenceSha256 : String)
  | posted (kind : PostingKind) (referenceType : ReferenceType) (referenceId : String) (customerDelta : Int)
      (currency : String)
  | rebuilt (month : Int) (before : StoredCounters) (balance held keyHeld spent : Int)
  deriving DecidableEq

structure BillingEvent where
  billingAccountId : String
  sequence : Int
  kind : String
  aggregateId : String
  payload : EventPayload
  createdAt : Int
  deriving DecidableEq

instance : Keyed BillingEvent (String × Int) := ⟨fun r => (r.billingAccountId, r.sequence)⟩

inductive JobState where
  | pending
  | running
  | idle
  | dead
  deriving DecidableEq

structure BillingJob where
  billingAccountId : String
  consumer : String
  acknowledged : Int
  targetSequence : Int
  leaseEpoch : Int
  leaseThrough : Int
  leaseToken : Option String
  leaseUntil : Option Int
  availableAt : Int
  state : JobState
  attempts : Int
  lastError : Option String
  deriving DecidableEq

instance : Keyed BillingJob (String × String) := ⟨fun r => (r.billingAccountId, r.consumer)⟩

structure BillingEffect where
  billingAccountId : String
  consumer : String
  sequence : Int
  kind : String
  payloadSha256 : String
  processedAt : Int
  deriving DecidableEq

instance : Keyed BillingEffect (String × String × Int) := ⟨fun r => (r.billingAccountId, r.consumer, r.sequence)⟩

structure OperationAudit where
  id : String
  actorId : String
  action : String
  resourceId : String
  reason : String
  deriving DecidableEq

instance : Keyed OperationAudit String := ⟨OperationAudit.id⟩

/-! ## The database -/

/-- The source records. -/
structure Books where
  projects : Table Project
  accounts : Table BillingAccount
  apiKeys : Table ApiKey
  catalog : Table CatalogRow
  prices : Table PriceRow
  reservations : Table Reservation
  usageEvents : Table UsageRow
  transactions : Table LedgerTransaction
  entries : Table LedgerEntry
  orders : Table BillingOrder
  payments : Table Payment
  refunds : Table Refund
  checkouts : Table PaymentCheckout
  receipts : Table ProviderReceipt
  reviews : Table BillingReview
  reviewAudits : Table ReviewAudit

/-- The counters derived from the books. -/
structure Projections where
  balances : Table BillingBalance
  keyHolds : Table BillingKeyHold
  monthSpends : Table BillingMonthSpend

/-- The account events, the jobs that consume them and what the consumer recorded. -/
structure Outbox where
  events : Table BillingEvent
  jobs : Table BillingJob
  effects : Table BillingEffect
  audits : Table OperationAudit

structure Db where
  books : Books
  projections : Projections
  outbox : Outbox

def Db.empty : Db :=
  { books :=
      { projects := .empty, accounts := .empty, apiKeys := .empty, catalog := .empty, prices := .empty
        reservations := .empty, usageEvents := .empty, transactions := .empty, entries := .empty
        orders := .empty, payments := .empty, refunds := .empty, checkouts := .empty, receipts := .empty
        reviews := .empty, reviewAudits := .empty }
    projections := { balances := .empty, keyHolds := .empty, monthSpends := .empty }
    outbox := { events := .empty, jobs := .empty, effects := .empty, audits := .empty } }

/-! ## Transactions on the database -/

/-- What a call reads from outside the database: the clock, and the fresh identifiers it draws. -/
structure Call where
  now : Int
  txnUuid : String
  customerUuid : String
  counterUuid : String

/-- The digests the source computes: SHA-256 of a text, and of the JSON of a submission to a
reservation of a project and of an account event. -/
structure Digests where
  sha256 : String → String
  submission : String → String → Submission → String
  event : BillingEvent → String

abbrev DbTx (α : Type) := Tx Db ServiceError α

abbrev DbSession (α : Type) := Session Db ServiceError α

namespace Db

def setBooks (f : Books → Books) (db : Db) : Db := { db with books := f db.books }

def setProjections (f : Projections → Projections) (db : Db) : Db := { db with projections := f db.projections }

def setOutbox (f : Outbox → Outbox) (db : Db) : Db := { db with outbox := f db.outbox }

end Db

end Xscope

/-
The money protocol of a reservation: reserve, dispatch, release, settle, and the report of usage
that is not known. Every operation runs under the lock of the account row and appends the event
of what it did; a replay of a finished operation returns the row unchanged.
-/
import Xscope.Billing.Catalog

namespace Xscope

/-- The reservation `id` of a project. -/
def findReservation (project id : String) : DbTx Reservation := do
  let row ← findById Slot.reservations id
  Tx.expect (row.filter fun r => r.projectId == project) .notFound

/-! ## What each operation makes of a row -/

def unresolvedReservation (now : Int) (row : Reservation) (request : UnresolvedRequest) : Reservation :=
  { row with completion := some (.unresolved request), updatedAt := now }

def dispatchedReservation (now : Int) (row : Reservation) : Reservation :=
  { row with state := .dispatched, updatedAt := now }

def releasedReservation (now : Int) (row : Reservation) (reason : String) : Reservation :=
  { row with state := .released, completion := some (.released reason), updatedAt := now }

def waivedReservation (now : Int) (row : Reservation) : Reservation :=
  { row with state := .waived, updatedAt := now }

def settledReservation (now : Int) (row : Reservation) (request : SettleRequest) (amount : Int) : Reservation :=
  { row with
    state := .settled, settledMicrounits := some amount, completion := some (.settled request), updatedAt := now }

/-! ## Unknown usage -/

def unresolvedMoney (call : Call) (project id : String) (request : UnresolvedRequest) : DbTx Reservation := do
  Tx.reject (request.wellFormed = false) (.invalid "invalid unresolved usage report")
  let account ← lockAccount project
  let row ← findReservation project id
  if row.state = .settled ∨ row.state = .waived then pure row
  else do
    Tx.reject (row.state ≠ .dispatched) (.conflict "unresolved usage requires dispatched reservation")
    match row.completion with
    | some previous => do
      Tx.reject (previous ≠ .unresolved request) (.conflict "unresolved evidence changed")
      pure row
    | none => do
      updateRow Slot.reservations (unresolvedReservation call.now row request)
      appendEvent call account.id "reservation.unresolved" id (.unresolved request)
      pure (unresolvedReservation call.now row request)

/-! ## Reserving -/

/-- The key may not be used for this request. -/
def keyRefuses (key : ApiKey) (request : ReserveRequest) (now : Int) : Bool :=
  key.projectId != request.projectId || key.tenantId != request.tenantId || key.revokedAt.isSome ||
    key.expiresAt.any (fun t => decide (t ≤ now)) ||
    !(key.scopes.any fun s => s == "chat.completions" || s == "completions") ||
    !(key.allowedModels.contains request.modelId)

/-- The token limits do not fit the context of the model. -/
def contextRefuses (model : Model) (request : ReserveRequest) : Bool :=
  (checkedAdd request.inputTokenLimit request.outputTokenLimit).all
    fun v => v == 0 || decide (model.maxContextTokens < v)

/-- Under an enforced balance, what is neither spent nor reserved covers the reservation. -/
def admitBalance (account : BillingAccount) (amount : Int) : DbTx Unit :=
  if account.enforceBalance = true then do
    let (balance, held) ← balanceAndHeld account.id
    let available := do checkedSub (← checkedSub balance held) amount
    Tx.reject (available.all fun v => decide (v < 0))
      (.insufficientFunds "available balance cannot cover the reservation")
  else pure ()

/-- The monthly budget of the key, when it has one, covers its spend, its holds and the
reservation. -/
def admitBudget (key : ApiKey) (now : Int) (amount : Int) : DbTx Unit :=
  if 0 < key.monthlyBudgetAmount then do
    let month := Calendar.firstOfMonth (Calendar.ofTimestamp now)
    let spent ← monthly key.id month
    let keyHeld ← keyHold key.id
    let budget ← Tx.expect (checkedMul key.monthlyBudgetAmount microsPerMinorUnit) (.invalid "budget overflow")
    let used := do checkedAdd (← checkedAdd spent.spentMicrounits keyHeld.heldMicrounits) amount
    Tx.reject (used.all fun v => decide (budget < v))
      (.insufficientFunds "monthly budget cannot cover the reservation")
  else pure ()

/-- The reservation as it is created. -/
def newReservation (now : Int) (account : BillingAccount) (request : ReserveRequest) (model : Model) (amount : Int) :
    Reservation :=
  { id := request.id, billingAccountId := account.id, projectId := request.projectId, tenantId := request.tenantId
    apiKeyId := request.apiKeyId, requestId := request.requestId, spec := request, price := model
    reservedMicrounits := amount, settledMicrounits := none, state := .reserved, completion := none
    createdAt := now, updatedAt := now }

/-- Admission of a reservation whose identity is new. -/
def admitReservation (call : Call) (account : BillingAccount) (request : ReserveRequest) : DbTx Reservation := do
  Tx.reject (account.status ≠ "active" ∨ account.currency ≠ "CNY") .forbidden
  let key ← findById Slot.apiKeys request.apiKeyId
  let key ← Tx.expect key .forbidden
  Tx.reject (keyRefuses key request call.now = true) .forbidden
  let model ← activeModel request.modelId
  Tx.reject (request.priceVersion ≠ model.priceVersion ∨ contextRefuses model request = true)
    (.invalid "unknown price/model or invalid context bounds")
  let reserved ← findWhere Slot.reservations fun r =>
    r.projectId == request.projectId && r.requestId == request.requestId
  let used ← findWhere Slot.usageEvents fun u => u.projectId == request.projectId && u.requestId == request.requestId
  Tx.reject (reserved.isSome = true ∨ used.isSome = true) (.conflict "request identity has already been used")
  let amount ← checkDomain (usageCostMicrounits model request.inputTokenLimit request.outputTokenLimit)
  admitBalance account amount
  admitBudget key call.now amount
  changeHold account.id key.id amount
  let row := newReservation call.now account request model amount
  insertRow Slot.reservations row conflictOrDatabase
  appendEvent call account.id "reservation.created" row.id (.created amount model.priceVersion)
  pure row

def reserveMoney (call : Call) (request : ReserveRequest) : DbTx Reservation := do
  Tx.reject (request.wellFormed = false) (.invalid "invalid reservation identity or token bounds")
  let account ← lockAccount request.projectId
  Tx.reject (account.tenantId ≠ request.tenantId) .forbidden
  match ← findById Slot.reservations request.id with
  | some existing => do
    Tx.reject (existing.spec ≠ request) (.conflict "reservation ID is bound to a different payload")
    -- frozen terms survive price changes and key revocation
    pure existing
  | none => admitReservation call account request

/-! ## Dispatching and releasing -/

def dispatchMoney (call : Call) (project id : String) : DbTx Reservation := do
  let account ← lockAccount project
  let row ← findReservation project id
  if row.state = .dispatched then pure row
  else do
    Tx.reject (row.state ≠ .reserved) (.conflict "only reserved requests may be dispatched")
    updateRow Slot.reservations (dispatchedReservation call.now row)
    appendEvent call account.id "reservation.dispatched" id .dispatched
    pure (dispatchedReservation call.now row)

def releaseMoney (call : Call) (project id : String) (request : ReleaseRequest) : DbTx Reservation := do
  Tx.reject (request.reason ≠ "not_dispatched") (.invalid "only verified not_dispatched requests can be released")
  let account ← lockAccount project
  let row ← findReservation project id
  if row.state = .released then pure row
  else do
    Tx.reject (row.state ≠ .reserved)
      (.conflict "dispatched/settled requests cannot be released; reconcile unknown usage")
    changeHold account.id row.apiKeyId (-row.reservedMicrounits)
    updateRow Slot.reservations (releasedReservation call.now row request.reason)
    appendEvent call account.id "reservation.released" id (.released "not_dispatched")
    pure (releasedReservation call.now row request.reason)

/-! ## Settling -/

/-- The usage event of a settlement. -/
def settledUsage (now : Int) (account : BillingAccount) (row : Reservation) (request : SettleRequest) (amount : Int) :
    UsageRow :=
  { eventId := "evt-reservation-" ++ row.id, requestId := row.requestId, occurredAt := now
    tenantId := row.tenantId, projectId := row.projectId, apiKeyId := row.apiKeyId
    modelId := row.spec.modelId, modelRevision := row.spec.modelRevision, endpointId := request.endpointId
    region := request.region, priceVersion := row.price.priceVersion, inputTokens := request.inputTokens
    outputTokens := request.outputTokens, cachedInputTokens := 0, latencyMs := request.latencyMs
    status := request.status, costAmount := ceilMinorUnits amount, costMicrounits := amount
    currency := account.currency, receivedAt := now }

/-- The posting of a settlement. -/
def settledPosting (row : Reservation) (amount : Int) : Posting :=
  { tenantId := row.tenantId, kind := .usage, referenceType := .usageEvent, referenceId := "evt-reservation-" ++ row.id
    idempotencyKey := "reservation:" ++ row.id, description := "Reserved model inference usage"
    customerDelta := -amount, counterAccount := .usageRevenue }

/-- Settlement under the account lock, shared by the gateway's settlement and reviewed evidence. -/
def settleLocked (call : Call) (account : BillingAccount) (row : Reservation) (request : SettleRequest) :
    DbTx Reservation := do
  Tx.reject (request.wellFormed = false)
    (.invalid "settlement requires known, nonnegative usage and a final outcome")
  if row.state = .settled then do
    Tx.reject (row.completion ≠ some (.settled request)) (.conflict "settlement payload changed")
    pure row
  else do
    Tx.reject (row.state ≠ .dispatched) (.conflict "settlement requires a dispatched reservation")
    Tx.reject (row.spec.inputTokenLimit < request.inputTokens ∨ row.spec.outputTokenLimit < request.outputTokens)
      (.conflict "actual usage exceeds reserved bounds; hold retained for reconciliation")
    let amount ← checkDomain (usageCostMicrounits row.price request.inputTokens request.outputTokens)
    let spend ← monthly row.apiKeyId (Calendar.firstOfMonth (Calendar.ofTimestamp call.now))
    changeHold account.id row.apiKeyId (-row.reservedMicrounits)
    insertRow Slot.usageEvents (settledUsage call.now account row request amount) .database
    changeSpend spend amount
    updateRow Slot.reservations (settledReservation call.now row request amount)
    postCharge call account amount (settledPosting row amount)
    appendEvent call account.id "reservation.settled" row.id (.settled ("evt-reservation-" ++ row.id) amount)
    pure (settledReservation call.now row request amount)

def settleMoney (call : Call) (project id : String) (request : SettleRequest) : DbTx Reservation := do
  let account ← lockAccount project
  let row ← findReservation project id
  settleLocked call account row request

end Xscope

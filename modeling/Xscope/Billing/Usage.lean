/-
Usage recorded without a reservation, the balance policy, and the maintenance of the projections.
-/
import Xscope.Billing.Catalog

namespace Xscope

/-! ## Recorded usage -/

/-- The row of a recorded usage event. -/
def recordedUsage (now : Int) (e : UsageEvent) (cost : Int) : UsageRow :=
  { eventId := e.eventId, requestId := e.requestId, occurredAt := e.occurredAt, tenantId := e.tenantId
    projectId := e.projectId, apiKeyId := e.apiKeyId, modelId := e.modelId, modelRevision := e.modelRevision
    endpointId := e.endpointId, region := e.region, priceVersion := e.priceVersion, inputTokens := e.inputTokens
    outputTokens := e.outputTokens, cachedInputTokens := e.cachedInputTokens, latencyMs := e.latencyMs
    status := e.status, costAmount := ceilMinorUnits cost, costMicrounits := cost, currency := "CNY"
    receivedAt := now }

/-- The posting of a recorded usage event. -/
def recordedPosting (e : UsageEvent) (cost : Int) : Posting :=
  { tenantId := e.tenantId, kind := .usage, referenceType := .usageEvent, referenceId := e.eventId
    idempotencyKey := "usage:" ++ e.eventId, description := "Model inference usage", customerDelta := -cost
    counterAccount := .usageRevenue }

/-- The checks and the price of a usage event: what `record_usage` does before its transaction. -/
def priceUsage (e : UsageEvent) : DbTx Int := do
  checkRequest (validateUsage e)
  let key ← findById Slot.apiKeys e.apiKeyId
  let key ← Tx.expect key (.invalid "usage event API key is invalid")
  Tx.reject (key.projectId ≠ e.projectId ∨ key.tenantId ≠ e.tenantId)
    (.invalid "usage event API key boundary is invalid")
  if isChargeableUsage e = true then do
    let model ← historicalPrice e.modelId e.priceVersion
    checkDomain (usageCostMicrounits model e.inputTokens e.outputTokens)
  else pure 0

/-- The transaction of `record_usage`. A known event rolls back, so that nothing it filled stays;
`none` stands for that rollback. -/
def storeUsage (call : Call) (account : BillingAccount) (e : UsageEvent) (cost : Int) : DbTx (Option Unit) := do
  let _ ← lockAccount e.projectId
  let reserved ← findWhere Slot.reservations fun r => r.projectId == e.projectId && r.requestId == e.requestId
  Tx.reject (reserved.isSome = true) (.conflict "reserved requests must use the reservation settlement endpoint")
  let spend ← monthly e.apiKeyId (Calendar.firstOfMonth (Calendar.ofTimestamp e.occurredAt))
  match ← findById Slot.usageEvents e.eventId with
  | some _ => pure none
  | none => do
    insertRow Slot.usageEvents (recordedUsage call.now e cost) .database
    changeSpend spend cost
    postCharge call account cost (recordedPosting e cost)
    pure (some ())

/-- The run of that transaction: a duplicate is rolled back and answers `false`. -/
def storeOnce (call : Call) (account : BillingAccount) (e : UsageEvent) (cost : Int) : DbSession Bool := fun db =>
  match storeUsage call account e cost db with
  | .ok (some (), db') => (.ok true, db')
  | .ok (none, _) => (.ok false, db)
  | .error err => (.error err, db)

/-- `record_usage`; the account is ensured in a transaction of its own. -/
def recordUsage (call : Call) (e : UsageEvent) : DbSession Bool := do
  let cost ← Tx.commit (priceUsage e)
  let account ← Tx.commit (ensureAccountForProject e.projectId)
  storeOnce call account e cost

/-! ## Balances and the balance policy -/

/-- The enforced flag and the balance of an account, its counter filled when missing. -/
def readBalance (projectId : String) (a : BillingAccount) : DbTx (Bool × Int) := do
  match ← findById Slot.balances a.id with
  | some row => pure (a.enforceBalance, row.balanceMicrounits)
  | none => do
    let _ ← lockAccount projectId
    let row ← account a.id
    pure (a.enforceBalance, row.balanceMicrounits)

def projectBalance (projectId : String) : DbSession (Bool × Int) := do
  let account ← Tx.commit (ensureAccountForProject projectId)
  Tx.commit (readBalance projectId account)

def updateBalancePolicy (projectId : String) (enforceBalance : Bool) : DbSession (Bool × Int) := do
  let row ← Tx.commit (ensureAccountForProject projectId)
  Tx.commit (updateRow Slot.accounts { row with enforceBalance := enforceBalance })
  projectBalance projectId

/-! ## Projection maintenance -/

/-- The spend of a key in the month of `now`, as the gateway snapshot reads it. -/
def projectedSpend (project key : String) (now : Int) : DbTx Int := do
  let period := Calendar.firstOfMonth (Calendar.ofTimestamp now)
  match ← findById Slot.monthSpends (key, period) with
  | some row => pure row.spentMicrounits
  | none => do
    let _ ← lockAccount project
    let row ← monthly key period
    pure row.spentMicrounits

/-- The answer to a projection check. -/
structure CheckReport where
  consistentBefore : Bool
  rebuilt : Bool
  stored : StoredCounters
  balanceMicrounits : Int
  heldMicrounits : Int
  keyHeldMicrounits : Int
  spentMicrounits : Int
  deriving DecidableEq

/-- The stored counters are there and equal the sums over the books. -/
def StoredCounters.consistent (s : StoredCounters) (booked held keyHeld spent : Int) : Bool :=
  s.account.any (fun v => v.balanceMicrounits == booked && v.heldMicrounits == held) &&
    s.keyHold.any (fun v => v.heldMicrounits == keyHeld) && s.month.any (fun v => v.spentMicrounits == spent)

/-- Overwrites the counters of one account, key and month with the sums over the books. -/
def rebuildCounters (owner : BillingAccount) (request : CheckRequest)
    (booked held keyHeld spent : Int) : DbTx Unit := do
  let a ← account owner.id
  updateRow Slot.balances { a with balanceMicrounits := booked, heldMicrounits := held }
  let k ← keyHold request.apiKeyId
  updateRow Slot.keyHolds { k with heldMicrounits := keyHeld }
  let m ← monthly request.apiKeyId request.month
  updateRow Slot.monthSpends { m with spentMicrounits := spent }

def projectionCheck (call : Call) (project : String) (request : CheckRequest) (rebuild : Bool) : DbTx CheckReport := do
  Tx.reject (Calendar.firstOfMonth request.month ≠ request.month) (.invalid "month must be the first UTC calendar day")
  let owner ← lockAccount project
  let key ← findById Slot.apiKeys request.apiKeyId
  let _ ← Tx.expect (key.filter fun k => k.projectId == project) .notFound
  let (booked, held) ← historicalBalanceAndHeld owner.id
  let keyHeld ← historicalKeyHold request.apiKeyId
  let spent ← historicalSpend request.apiKeyId request.month
  let a ← findById Slot.balances owner.id
  let k ← findById Slot.keyHolds request.apiKeyId
  let m ← findById Slot.monthSpends (request.apiKeyId, request.month)
  let before : StoredCounters := ⟨a, k, m⟩
  if rebuild = true then do
    rebuildCounters owner request booked held keyHeld spent
    appendEvent call owner.id "projection.rebuilt" request.apiKeyId
      (.rebuilt request.month before booked held keyHeld spent)
  else pure ()
  pure ⟨before.consistent booked held keyHeld spent, rebuild, before, booked, held, keyHeld, spent⟩

end Xscope

/-
Projects, API keys and the model catalog: the records a reservation is admitted against. A model
is validated before it is stored, price versions are immutable, and keys are never deleted.
-/
import Xscope.Billing.Ledger

namespace Xscope

/-- The outcome of a domain check as a step of a transaction. -/
def checkDomain {α : Type} (r : Except DomainError α) : DbTx α := match r with
  | .ok a => pure a
  | .error e => Tx.fail (.ofDomain e)

/-- The outcome of a request check as a step of a transaction. -/
def checkRequest (r : Except ServiceError Unit) : DbTx Unit := match r with
  | .ok () => pure ()
  | .error e => Tx.fail e

/-! ## Projects -/

def createProject (value : Project) : DbTx Project := do
  Tx.reject (blank value.id ∨ blank value.tenantId ∨ blank value.name) (.invalid "id, tenant_id and name are required")
  let existing ← findById Slot.projects value.id
  Tx.reject (existing.isSome) (.conflict "project already exists")
  insertRow Slot.projects value conflictOrDatabase
  let _ ← createBillingAccount value
  pure value

/-! ## The catalog -/

def activeModel (id : String) : DbTx Model := do
  let row ← findById Slot.catalog id
  let row ← Tx.expect (row.filter (·.enabled)) (.invalid "model is unknown or disabled")
  pure row.definition

def historicalPrice (id version : String) : DbTx Model := do
  let row ← findById Slot.prices (id, version)
  let row ← Tx.expect row (.invalid "unknown model price version")
  pure row.definition

/-- Stores the built-in model and its price, unless they are there. -/
def bootstrapCatalog : DbTx Unit := do
  let model := Model.default
  Tx.write fun db => Slot.catalog.set (((Slot.catalog.get db).insert?
    { id := model.id, revision := 1, enabled := true, defaultPool := some "demo-pool", definition := model }).getD
      (Slot.catalog.get db)) db
  Tx.write fun db => Slot.prices.set (((Slot.prices.get db).insert?
    { modelId := model.id, version := model.priceVersion, definition := model }).getD (Slot.prices.get db)) db

/-- A first revision is inserted; a later one replaces exactly the revision the caller read. -/
def storeModel (row : CatalogRow) (expectedRevision : Int) : DbTx Unit :=
  if expectedRevision = 0 then
    insertRow Slot.catalog row conflictOrDatabase
  else do
    let previous ← findById Slot.catalog row.id
    Tx.reject (previous.all fun r => r.revision != expectedRevision)
      (.conflict "model revision changed; reload before saving")
    updateRow Slot.catalog row

def storePrice (id : String) (model : Model) : DbTx Unit := do
  match ← findById Slot.prices (id, model.priceVersion) with
  | some previous =>
    Tx.reject (previous.definition ≠ model) (.conflict "price version is immutable; use a new version")
  | none =>
    insertRow Slot.prices { modelId := id, version := model.priceVersion, definition := model } conflictOrDatabase

def putModel (id : String) (request : PutModel) : DbTx CatalogRow := do
  match request.model.validate with
  | .error message => Tx.fail (.invalid message)
  | .ok () =>
    Tx.reject (id ≠ request.model.id ∨ ¬(0 ≤ request.expectedRevision ∧ request.expectedRevision < i64Max) ∨
        request.defaultPool.any fun id => !Catalog.identifier id)
      (.invalid "invalid model ID, pool or revision")
    let row : CatalogRow :=
      { id := id, revision := request.expectedRevision + 1, enabled := request.enabled
        defaultPool := request.defaultPool, definition := request.model }
    storeModel row request.expectedRevision
    storePrice id request.model
    pure row

/-! ## API keys -/

def storeApiKey (now : Int) (request : ApiKeyRequest) : DbTx ApiKey := do
  checkDomain (request.validate now)
  let row : ApiKey :=
    { id := request.id, tenantId := request.tenantId, projectId := request.projectId, name := request.name
      scopes := request.scopes, allowedModels := request.allowedModels, expiresAt := request.expiresAt
      rateLimitRpm := request.rateLimitRpm, rateLimitTpm := request.rateLimitTpm
      monthlyBudgetAmount := request.monthlyBudget.amount, currency := request.monthlyBudget.currency
      revokedAt := none }
  insertRow Slot.apiKeys row conflictOrDatabase
  pure row

/-- Every allowed model of a key request is active. -/
def requireModels : List String → DbTx Unit
  | [] => pure ()
  | model :: rest => do
    let _ ← activeModel model
    requireModels rest

def issueApiKey (now : Int) (request : ApiKeyRequest) : DbTx ApiKey := do
  let request := request.withDefaults
  checkDomain (request.validate now)
  requireModels request.allowedModels
  let project ← findById Slot.projects request.projectId
  let project ← Tx.expect project (.invalid "project not found")
  Tx.reject (project.tenantId ≠ request.tenantId) (.invalid "project does not belong to tenant")
  let existing ← findById Slot.apiKeys request.id
  Tx.reject (existing.isSome) (.conflict "API key already exists")
  storeApiKey now request

def revokeApiKey (now : Int) (id : String) : DbTx Unit := do
  let row ← findById Slot.apiKeys id
  let row ← Tx.expect (row.filter (·.revokedAt.isNone)) .notFound
  updateRow Slot.apiKeys { row with revokedAt := some now }

end Xscope

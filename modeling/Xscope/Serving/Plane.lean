/-
What gateways are served from: the catalog and the keys of the console, the managed pools of the
fleet, the legacy entries and the route policies, with the operations that write them and the
snapshot that is read off them. The model catalog is one table for all of them.
-/
import Xscope.Billing.Op
import Xscope.Fleet.Moves
import Xscope.Serving.Routes

namespace Xscope.Serving

open Fleet

/-! ## Tables -/

structure RoutePolicyRow where
  projectId : String
  model : String
  revision : Int
  spec : RoutePolicySpec
  deriving DecidableEq

instance : Keyed RoutePolicyRow (String × String) := ⟨fun r => (r.projectId, r.model)⟩

structure RouteRevision where
  projectId : String
  model : String
  revision : Int
  spec : RoutePolicySpec
  actor : String
  operation : String
  deriving DecidableEq

instance : Keyed RouteRevision (String × String × Int) := ⟨fun r => (r.projectId, r.model, r.revision)⟩

structure Plane where
  db : Db
  fleet : State
  policies : Table RoutePolicyRow
  history : Table RouteRevision

def Plane.empty : Plane := ⟨.empty, .empty, .empty, .empty⟩

abbrev PlaneTx := Tx Plane ServiceError

abbrev PlaneSession := Session Plane ServiceError

/-- The fleet with the catalog that the console writes. -/
def Plane.state (p : Plane) : State := { p.fleet with catalog := p.db.books.catalog }

def Plane.setState (p : Plane) (s : State) : Plane := { p with db := Slot.catalog.set s.catalog p.db, fleet := s }

def onFleet {α : Type} (x : FleetTx α) : PlaneTx α := fun p => match x p.state with
  | .ok (a, s) => .ok (a, p.setState s)
  | .error e => .error e

def onDb {α : Type} (x : DbSession α) : PlaneSession α := fun p => ((x p.db).1, { p with db := (x p.db).2 })

/-! ## Legacy entries -/

/-- Managed pools are opt-in, never retroactive safety claims for legacy entries. -/
def managed (id : String) : Bool := "managed-".toList.isPrefixOf id.toList

/-- A first generation is inserted; a later one replaces the generation that was read. Pool identity is
immutable: a new model revision gets a new pool id. -/
def storeEndpoint (id : String) (expected : Int) (value : ServingEndpoint) : FleetTx Unit :=
  if expected = 0 then do
    let t ← Tx.read fun s => s.endpoints.insert? ⟨id, expected + 1, value⟩
    let t ← Tx.expect t conflictOrDatabase
    Tx.write fun s => { s with endpoints := t }
  else do
    let previous ← Tx.read fun s => s.endpoints.get? id
    let previous ← Tx.expect previous .notFound
    Tx.reject (previous.generation ≠ expected ∨ previous.definition.model ≠ value.model ∨
      previous.definition.revision ≠ value.revision)
      (.conflict "endpoint generation or immutable model revision changed")
    Tx.write fun s => { s with endpoints := s.endpoints.put ⟨id, expected + 1, value⟩ }

def putServingEndpoint (id : String) (expected : Int) (value : ServingEndpoint) : FleetTx Int := do
  checkEndpoint value
  Tx.reject (value.id ≠ id ∨ managed id = true ∨ ¬(0 ≤ expected ∧ expected < i64Max))
    (.invalid "invalid endpoint ID or generation")
  Fleet.activeModel value.model
  let pools ← Tx.read fun s => s.pools.rows
  Tx.reject (pools.any fun row => value.address = row.endpoint.address ||
      (value.model = row.endpoint.model && value.revision = row.endpoint.revision))
    (.conflict "managed serving entries cannot be aliased through legacy routing")
  storeEndpoint id expected value
  pure (expected + 1)

/-! ## Route policies -/

def getProject (id : String) : PlaneTx Project := do
  let project ← Tx.read fun p => p.db.books.projects.get? id
  Tx.expect project .notFound

def storePolicy (row : RoutePolicyRow) (expected : Int) : PlaneTx Unit :=
  if expected = 0 then do
    let t ← Tx.read fun p => p.policies.insert? row
    let t ← Tx.expect t conflictOrDatabase
    Tx.write fun p => { p with policies := t }
  else do
    let previous ← Tx.read fun p => p.policies.get? (row.projectId, row.model)
    Tx.reject (previous.all fun r => r.revision ≠ expected)
      (.conflict "route policy revision changed; reload before saving")
    Tx.write fun p => { p with policies := p.policies.put row }

/-- `put_route_policy`; the pools were read before. -/
def putRoutePolicy (project : Project) (model : String) (request : PutRoutePolicy) (pools : List RoutePool)
    (actor operation : String) : PlaneTx RoutePolicy :=
  match request.spec.validatePools model pools with
  | .error message => Tx.fail (.invalid message)
  | .ok () => do
    onFleet (Fleet.activeModel model)
    Tx.reject (¬(0 ≤ request.expectedRevision ∧ request.expectedRevision < i64Max))
      (.invalid "unknown model or invalid expected_revision")
    let revision := request.expectedRevision + 1
    storePolicy ⟨project.id, model, revision, request.spec⟩ request.expectedRevision
    let t ← Tx.read fun p => p.history.insert? ⟨project.id, model, revision, request.spec, actor, operation⟩
    let t ← Tx.expect t .database
    Tx.write fun p => { p with history := t }
    pure ⟨project.tenantId, project.id, model, revision, request.spec⟩

/-- The spec a release action leads to. -/
def nextSpec (project model : String) (spec : RoutePolicySpec) : ReleaseAction → PlaneTx RoutePolicySpec
  | .pause _ => pure spec.pause
  | .promote _ => match spec.promote with
    | .ok next => pure next
    | .error message => Tx.fail (.invalid message)
  | .rollback expected target => do
    Tx.reject (target ≤ 0 ∨ expected ≤ target) (.invalid "rollback requires an earlier recorded revision")
    let row ← Tx.read fun p => p.history.get? (project, model, target)
    let row ← Tx.expect row .notFound
    pure row.spec

/-- `release_action`; the compare-and-set of the write fences what was read. -/
def releaseAction (project : Project) (model : String) (action : ReleaseAction) (pools : List RoutePool)
    (actor : String) :
    PlaneTx RoutePolicy := do
  let current ← Tx.read fun p => p.policies.get? (project.id, model)
  let current ← Tx.expect current .notFound
  Tx.reject (action.expectedRevision ≤ 0 ∨ action.expectedRevision ≠ current.revision)
    (.conflict "route policy revision changed")
  let next ← nextSpec project.id model current.spec action
  putRoutePolicy project model ⟨action.expectedRevision, next⟩ pools actor action.name

/-! ## Snapshots -/

structure CatalogModel where
  revision : Int
  enabled : Bool
  defaultPool : Option String
  model : Model
  deriving DecidableEq

structure CatalogSnapshot where
  models : List CatalogModel
  endpoints : List ServingEndpoint
  deriving DecidableEq

/-- A SHA-256 digest. -/
abbrev Digest := { bytes : List UInt8 // bytes.length = 32 }

structure GatewayKey where
  id : String
  tenantId : String
  projectId : String
  secretHash : List UInt8
  scopes : List String
  allowedModels : List String
  expiresAt : Option Int
  rateLimitRpm : Int
  rateLimitTpm : Int
  monthlyBudget : Money
  currentMonthSpend : Money
  balanceEnforced : Bool
  availableBalance : Money
  deriving DecidableEq

structure GatewaySnapshot where
  generatedAt : Int
  keys : List GatewayKey
  routePolicies : List RoutePolicy
  catalog : CatalogSnapshot
  traffic : Option TrafficSnapshot
  deriving DecidableEq

/-- Neither revoked nor expired. -/
def activeKey (now : Int) (row : ApiKey) : Bool := row.revokedAt.isNone && row.expiresAt.all fun expiry => now < expiry

def floorMinorUnits (microunits : Int) : Int := microunits / microsPerMinorUnit

/-- The balance of a project whose account has its counter. -/
def cachedBalance (db : Db) (project : String) : Option (Bool × Int) := do
  let account ← db.books.accounts.find fun a => a.projectId = project
  let row ← db.projections.balances.get? account.id
  pure (account.enforceBalance, row.balanceMicrounits)

def snapshotBalance (project : String) : DbSession (Bool × Int) := fun db => match cachedBalance db project with
  | some value => (.ok value, db)
  | none => projectBalance project db

section
variable (env : Fleet.Env) (digests : Digests) (secretHash : String → Digest)

/-- `secretHash` is the stored digest of a key's secret. -/
def gatewayKey (now : Int) (row : ApiKey) : DbSession GatewayKey := do
  let (enforced, balance) ← snapshotBalance row.projectId
  let spent ← Tx.commit (projectedSpend row.projectId row.id now)
  pure
    { id := row.id, tenantId := row.tenantId, projectId := row.projectId, secretHash := (secretHash row.id).1
      scopes := row.scopes, allowedModels := row.allowedModels, expiresAt := row.expiresAt
      rateLimitRpm := row.rateLimitRpm, rateLimitTpm := row.rateLimitTpm
      monthlyBudget := ⟨row.currency, row.monthlyBudgetAmount⟩
      currentMonthSpend := ⟨row.currency, ceilMinorUnits spent⟩, balanceEnforced := enforced
      availableBalance := ⟨row.currency, floorMinorUnits balance⟩ }

def gatewayKeys (now : Int) : List ApiKey → DbSession (List GatewayKey)
  | [] => pure []
  | row :: rest => do
    let key ← gatewayKey secretHash now row
    let keys ← gatewayKeys now rest
    pure (key :: keys)

/-- The active keys, in order. -/
def activeKeys (now : Int) (db : Db) : List ApiKey :=
  (db.books.apiKeys.select (activeKey now)).insertionSort fun a b => a.id ≤ b.id

/-- The policy of a row; its tenant is that of the project. -/
def routePolicy (projects : Table Project) (row : RoutePolicyRow) : Option RoutePolicy :=
  (projects.get? row.projectId).map fun project => ⟨project.tenantId, row.projectId, row.model, row.revision, row.spec⟩

/-- By project and model. -/
def policyOrder (a b : RoutePolicyRow) : Prop := a.projectId < b.projectId ∨
    (a.projectId = b.projectId ∧ a.model ≤ b.model)

instance : DecidableRel policyOrder := fun _ _ => inferInstanceAs (Decidable (_ ∨ _))

def listRoutePolicies : PlaneTx (List RoutePolicy) := do
  let rows ← Tx.read fun p => p.policies.rows.insertionSort policyOrder
  let projects ← Tx.read fun p => p.db.books.projects
  Tx.expect (rows.mapM (routePolicy projects)) .notFound

def catalogModel (row : CatalogRow) : CatalogModel := ⟨row.revision, row.enabled, row.defaultPool, row.definition⟩

def catalogSnapshot (p : Plane) : CatalogSnapshot :=
  { models := (p.db.books.catalog.rows.insertionSort fun a b => a.id ≤ b.id).map catalogModel
    endpoints := (p.fleet.endpoints.rows.insertionSort fun a b => a.id ≤ b.id).map fun row => row.definition }

def gatewaySnapshot (now : Int) : PlaneSession GatewaySnapshot := do
  let rows ← Tx.commit (Tx.read fun p => activeKeys now p.db)
  let keys ← onDb (gatewayKeys secretHash now rows)
  let policies ← Tx.commit listRoutePolicies
  let catalog ← Tx.commit (Tx.read catalogSnapshot)
  pure ⟨now, keys, policies, catalog, none⟩

/-- `traffic_snapshot`: the snapshot of the console with the entries of the managed pools and a grant. -/
def trafficSnapshot (wallAt now : Int) (nonce token id : String) (identity : Option GatewayIdentity) :
    PlaneSession GatewaySnapshot := do
  let () ← Tx.commit (Tx.reject (env.isUuid id = false) (.invalid "invalid gateway incarnation"))
  let snapshot ← gatewaySnapshot secretHash wallAt
  let pools ← Tx.commit (Tx.read fun p => p.fleet.listed)
  let grant ← Tx.commit (onFleet (Fleet.trafficSnapshot env wallAt now nonce token id identity))
  pure
    { snapshot with
      catalog :=
        { snapshot.catalog with endpoints := snapshot.catalog.endpoints ++ pools.map fun pool => pool.endpoint }
      traffic := some grant }

/-! ## Steps -/

/-- The operations of the fleet that neither bind a pool nor answer with a snapshot. -/
def ofFleet : Fleet.Op → Bool
  | .bindPool .. | .trafficSnapshot .. | .writeCatalog .. => false
  | _ => true

/-- An operation of the control plane. The server makes the UUIDs of pools and grants. -/
inductive Step where
  | money (op : Xscope.Op)
  | fleet (op : { op : Fleet.Op // ofFleet op = true })
  | bindPool (now : Int) (uuid : String) (request : PoolBinding) (legacy : List RoutePool)
  | putServingEndpoint (id : String) (expected : Int) (value : ServingEndpoint)
  | putRoutePolicy (project model : String) (request : PutRoutePolicy) (pools : List RoutePool) (actor : String)
  | releaseAction (project model : String) (action : ReleaseAction) (pools : List RoutePool) (actor : String)
  | gatewaySnapshot (now : Int)
  | trafficSnapshot (wallAt now : Int) (nonce : { nonce : String // env.isUuid nonce = true }) (token id : String)
    (identity : Option GatewayIdentity)

/-- A snapshot is answered, or an error. -/
def answered : Except ServiceError GatewaySnapshot × Plane → Option GatewaySnapshot × Plane
  | (.ok snapshot, p) => (some snapshot, p)
  | (.error _, p) => (none, p)

variable {env}

/-- The snapshot a step answers with, and the state it leaves. -/
def Step.exec (p : Plane) : Step env → Option GatewaySnapshot × Plane
  | .money op => (none, { p with db := op.run digests p.db })
  | .fleet op => (none, p.setState (op.1.run env p.state))
  | .bindPool now uuid request legacy =>
    (none, p.setState ((Fleet.Op.bindPool now ("managed-" ++ uuid) request legacy).run env p.state))
  | .putServingEndpoint id expected value =>
    (none, (Tx.commit (onFleet (Serving.putServingEndpoint id expected value)) p).2)
  | .putRoutePolicy project model request pools actor =>
    (none, (Tx.commit (do Serving.putRoutePolicy (← getProject project) model request pools actor "put") p).2)
  | .releaseAction project model action pools actor =>
    (none, (Tx.commit (do Serving.releaseAction (← getProject project) model action pools actor) p).2)
  | .gatewaySnapshot now => answered (Serving.gatewaySnapshot secretHash now p)
  | .trafficSnapshot wallAt now nonce token id identity =>
    answered (Serving.trafficSnapshot env secretHash wallAt now nonce token id identity p)

def Step.runAll (steps : List (Step env)) (p : Plane) : Plane :=
  steps.foldl (fun p step => (step.exec digests secretHash p).2) p

/-- The grants of the snapshots that a session is answered with, in order. -/
def granted (session : String) : List (Step env) → Plane → List TrafficSnapshot
  | [], _ => []
  | step :: rest, p =>
    (((step.exec digests secretHash p).1.bind fun snapshot => snapshot.traffic).filter fun grant =>
      grant.sessionId = session).toList ++
      granted session rest (step.exec digests secretHash p).2

end

/-- One digest for every secret. -/
def sampleHash (_ : String) : Digest := ⟨List.replicate 32 0, rfl⟩

end Xscope.Serving

/-
Managed pools: binding, manual transitions, readiness observations, and the guard on desired
states. Readiness and request drain are independent proofs; expiry never means zero.
-/
import Xscope.Fleet.GatewayProofs
import Xscope.Fleet.Scaling

namespace Xscope.Fleet

variable (env : Env)

/-! ## Binding -/

/-- `port.parse::<u16>()` of a positive port. -/
def validPort (text : List Char) : Bool :=
  let digits := if text.head? = some '+' then text.tail else text
  !digits.isEmpty && digits.all Char.isDigit &&
    (let value := digits.foldl (fun n c => n * 10 + (c.toNat - '0'.toNat)) 0; decide (0 < value ∧ value ≤ 65535))

/-- `rsplit_once(':')`. -/
def rsplitColon (text : List Char) : Option (List Char × List Char) :=
  if text.contains ':' then
    let port := (text.reverse.takeWhile fun c => c != ':').reverse
    some (text.take (text.length - port.length - 1), port)
  else none

def ServingEndpoint.validate (e : ServingEndpoint) : Except String Unit :=
  if !Catalog.identifier e.id || !Catalog.identifier e.model || !Catalog.identifier e.revision then
    .error "invalid serving endpoint identity"
  else match rsplitColon e.address.toList with
  | none => .error "entry address requires host:port"
  | some (host, port) =>
    if host.isEmpty || decide (253 < (String.ofList host).utf8ByteSize) ||
        !host.all (fun c => c.isAlphanum || ".-[]:".toList.contains c) || !validPort port ||
        decide (253 < e.serverName.utf8ByteSize) ||
        !e.serverName.toList.all (fun c => c.isAlphanum || ".-".toList.contains c) ||
        (e.tls && e.serverName.isEmpty) then
      .error "invalid serving Service address or TLS name"
    else .ok ()

def checkEndpoint (e : ServingEndpoint) : FleetTx Unit := match e.validate with
  | .ok () => pure ()
  | .error message => Tx.fail (.invalid message)

/-- `catalog::active_model`. -/
def activeModel (id : String) : FleetTx Unit := do
  let row ← Tx.read fun s => s.catalog.get? id
  let _ ← Tx.expect (row.filter fun r => r.enabled) (.invalid "model is unknown or disabled")

/-- The spec of a deployment in a payload: that of the first item of its name. -/
def specOf (deployments : List DesiredDeployment) (deployment : String) : Option Json :=
  (deployments.find? fun d => d.name == deployment).bind fun d => d.spec

def boundPool (now : Int) (id : String) (request : PoolBinding) (endpoint : ServingEndpoint)
    (spec : Json) : ManagedPool :=
  { id := id, clusterId := request.clusterId, deployment := request.deployment, generation := 1, state := .pending
    binding := request, endpoint := endpoint, expectedSpec := spec, desiredVersion := request.expectedDesiredVersion
    deploymentUid := none, readyUntil := none, observationNonce := none, observationUntil := none
    observationCode := .notReady, observedAt := none, updatedAt := now, scaleOperation := none
    idleRequestedAfter := none }

/-- `bind_pool`; `id` is the new pool's, "managed-" and a fresh UUID. -/
def bindPool (now : Int) (id : String) (request : PoolBinding) (legacy : List RoutePool) : FleetTx ManagedPool := do
  Tx.reject (¬name request.clusterId ∨ ¬name request.deployment ∨ ¬name request.servingService)
    (.invalid "invalid cluster, deployment or serving Service name")
  Tx.reject (¬(1 ≤ request.trafficProtocol ∧ request.trafficProtocol ≤ 2)) (.invalid "unknown traffic protocol")
  let cluster ← Tx.read fun s => s.clusters.get? request.clusterId
  let cluster ← Tx.expect cluster .notFound
  Tx.reject (cluster.revokedAt.isSome ∨ cluster.expiresAt ≤ now ∨
    request.expectedDesiredVersion ≠ cluster.desiredVersion)
    (.conflict "cluster credential or desired version changed")
  let desired ← Tx.read fun s => s.revisions.get? (cluster.id, cluster.desiredVersion)
  let desired ← Tx.expect desired .notFound
  let spec ← Tx.expect (specOf desired.payload request.deployment) .notFound
  Tx.reject ((spec.get "autoscaling" ≠ .null ∧ (spec.get "autoscaling").get "managed" ≠ .bool true) ∨
      (spec.get "runtime").get "protocol" ≠ .str "openai" ∨
      (spec.get "serving").get "endpointPickerService" ≠ .str request.servingService)
    (.invalid "managed drain currently requires manual replicas and a pool-specific combined Envoy/EPP entry")
  let model ← Tx.expect ((spec.get "model").get "id").asStr (.invalid "model ID missing")
  Tx.reject (managedScaling spec = true ∧ request.trafficProtocol ≠ 2)
    (.invalid "automatic scaling requires a v2 fenced serving entry")
  activeModel model
  let revision ← Tx.expect ((spec.get "model").get "revision").asStr (.invalid "model revision missing")
  let endpoint : ServingEndpoint := ⟨id, model, revision, request.address, request.tls, request.serverName⟩
  checkEndpoint endpoint
  Tx.reject (legacy.any fun p => p.id == request.deployment ||
    (p.model == endpoint.model && p.revision == endpoint.revision))
    (.conflict "managed pool must not reuse a legacy model revision or entry")
  let exposed ← Tx.read fun s => s.endpoints.rows
  Tx.reject (exposed.any fun old => old.definition.address == endpoint.address ||
      (old.definition.model == endpoint.model && old.definition.revision == endpoint.revision))
    (.conflict "serving entry is already exposed through the legacy catalog")
  let pools ← Tx.read fun s => s.pools.rows
  Tx.reject (pools.any fun old => old.endpoint.address == endpoint.address)
    (.conflict "managed entries must be dedicated to one pool")
  -- `managed_deployment_identity` is unique
  Tx.reject (pools.any fun old => old.clusterId == request.clusterId && old.deployment == request.deployment)
    (.conflict "resource already exists")
  let t ← Tx.read fun s => s.pools.insert? (boundPool now id request endpoint spec)
  let t ← Tx.expect t (.conflict "resource already exists")
  Tx.write fun s => { s with pools := t }
  pure (boundPool now id request endpoint spec)

/-! ## Manual transitions -/

/-- The state a transition leads to. -/
def nextState (now : Int) (row : ManagedPool) (action : String) : FleetTx PoolState :=
  if action = "drain" ∧ (row.state = .active ∨ row.state = .pending) then pure .draining
  else if action = "finish-drain" ∧ row.state = .draining then do
    let views ← Tx.read fun s => s.viewsOf row.id
    Tx.reject (views.any fun v => v.blocks row.generation)
      (.conflict "gateway ACK or in-flight completion is missing; offline is not drained")
    pure .drained
  else if action = "activate" ∧ row.state = .drained ∧ row.readyUntil.any (fun t => decide (now < t)) then pure .active
  else Tx.fail (.conflict "invalid pool state or missing fresh readiness proof")

def ManagedPool.moved (row : ManagedPool) (now generation : Int) (state : PoolState) : ManagedPool :=
  { row with
    generation := generation, state := state, updatedAt := now, observationNonce := none, observationUntil := none }

def poolTransition (now : Int) (id : String) (expected : Int) (action : String) : FleetTx ManagedPool := do
  let row ← Tx.read fun s => s.pools.get? id
  let row ← Tx.expect row .notFound
  Tx.reject (row.generation ≠ expected) (.conflict "pool generation changed")
  Tx.reject row.scaleOperation.isSome (.conflict "automatic scaling operation is in progress")
  let state ← nextState now row action
  -- completion is the same closed generation; reopening creates a new one
  let generation ← if action = "finish-drain" then pure row.generation
    else Tx.expect (checkedAdd row.generation 1) (.invalid "pool generation exhausted")
  putPool (row.moved now generation state)
  pure (row.moved now generation state)

/-! ## Observations -/

structure ObservationTask where
  trafficProtocol : Nat
  idleAfter : Option Int
  poolId : String
  generation : Int
  nonce : String
  desiredVersion : Int
  deployment : String
  servingService : String
  expectedUid : Option String
  expectedSpec : Json
  deriving DecidableEq

def ManagedPool.task (row : ManagedPool) (nonce : String) (idleAfter : Option Int) : ObservationTask :=
  { trafficProtocol := row.binding.trafficProtocol, idleAfter := idleAfter, poolId := row.id
    generation := row.generation, nonce := nonce, desiredVersion := row.desiredVersion, deployment := row.deployment
    servingService := row.binding.servingService, expectedUid := row.deploymentUid, expectedSpec := row.expectedSpec }

def ManagedPool.tasked (row : ManagedPool) (now : Int) (nonce : String) (idleAfter : Option Int) : ManagedPool :=
  { row with
    idleRequestedAfter := idleAfter, observationNonce := some nonce, observationUntil := some (now + seconds 60) }

/-- The task of one pool; none while its desired version has not been acknowledged. -/
def observationTask (now : Int) (nonce : String → String) (cluster : MemberCluster) (row : ManagedPool) :
    FleetTx (Option ObservationTask) :=
  if cluster.acknowledgedVersion < row.desiredVersion then pure none
  else do
    let after ← idleAfter row.id
    putPool (row.tasked now (nonce row.id) after)
    pure (some (row.task (nonce row.id) after))

def observationTasksOf (now : Int) (nonce : String → String) (cluster : MemberCluster) :
    List ManagedPool → FleetTx (List ObservationTask)
  | [] => pure []
  | row :: rest => do
    let task ← observationTask now nonce cluster row
    let tasks ← observationTasksOf now nonce cluster rest
    pure (task.toList ++ tasks)

/-- The pools of a cluster that are observed next: those updated longest ago. -/
def State.observed (s : State) (id : String) : List ManagedPool :=
  ((s.pools.select fun r => r.clusterId == id && r.state != .retired).insertionSort fun a b =>
    a.updatedAt ≤ b.updatedAt).take 100

def observationTasks (authAt now : Int) (nonce : String → String) (id token : String) :
    FleetTx (List ObservationTask) := do
  let cluster ← authenticated env authAt id token
  let rows ← Tx.read fun s => s.observed id
  observationTasksOf now nonce cluster rows

structure PoolObservation where
  idleAfter : Option Int
  appliedReplicas : Int
  scaling : Option ScaleEvidence
  idle : Bool
  poolId : String
  generation : Int
  nonce : String
  deploymentUid : Option String
  ready : Bool
  code : ObservationCode
  deriving DecidableEq

/-- The report says `ok` exactly when it is ready, and a ready one names the deployment. -/
def PoolObservation.wellFormed (r : PoolObservation) : Bool :=
  (r.ready == (r.code == .ok)) && r.deploymentUid.all bounded && (!r.ready || r.deploymentUid.isSome)

/-- The report registers the pool. -/
def ManagedPool.registers (row : ManagedPool) (report : PoolObservation) : Bool := report.ready && row.state == .pending

/-- The pool after an observation. A report never reopens a draining or drained pool. -/
def ManagedPool.observed (row : ManagedPool) (now generation : Int) (report : PoolObservation) : ManagedPool :=
  { row with
    observedAt := some now, observationCode := report.code, observationNonce := none, observationUntil := none
    readyUntil := if report.ready then some (now + seconds 45) else none
    deploymentUid := if row.deploymentUid.isNone then report.deploymentUid else row.deploymentUid
    state := if row.registers report then .active else row.state, generation := generation, updatedAt := now }

/-- An enabled model without a default, which the pool becomes. -/
def undefaulted (endpoint : ServingEndpoint) (row : CatalogRow) : Bool :=
  row.id == endpoint.model && row.enabled && row.defaultPool.isNone

def defaultPool (endpoint : ServingEndpoint) (pool : String) (row : CatalogRow) : CatalogRow :=
  if undefaulted endpoint row then { row with defaultPool := some pool, revision := row.revision + 1 } else row

theorem key_defaultPool (endpoint : ServingEndpoint) (pool : String) (row : CatalogRow) :
    key (defaultPool endpoint pool row) = key row := by
  unfold defaultPool; split <;> rfl

def assignDefault (endpoint : ServingEndpoint) (pool : String) : FleetTx Unit := do
  let models ← Tx.read fun s => s.catalog.rows
  -- `revision + 1` of a BIGINT column
  Tx.reject (models.any fun row => undefaulted endpoint row && !decide (Fits (row.revision + 1))) .database
  Tx.write fun s => { s with catalog := s.catalog.mapRows (defaultPool endpoint pool) (key_defaultPool endpoint pool) }

/-- Idle evidence must have been asked for, and taken after the current fence. -/
def checkIdle (report : PoolObservation) (row : ManagedPool) : FleetTx Unit :=
  if report.idle = true then do
    let fence ← idleAfter row.id
    Tx.reject (report.idleAfter = none ∨ report.idleAfter ≠ row.idleRequestedAfter ∨ report.idleAfter ≠ fence)
      (.conflict "provider idle proof predates the termination fence")
  else pure ()

/-- The generation of the pool after the observation. -/
def observedGeneration (report : PoolObservation) (row : ManagedPool) : FleetTx Int :=
  if row.registers report = true then Tx.expect (checkedAdd row.generation 1) (.invalid "pool generation exhausted")
  else pure row.generation

def registerDefault (report : PoolObservation) (row : ManagedPool) : FleetTx Unit :=
  if row.registers report = true ∧ row.binding.makeDefault = true then assignDefault row.endpoint row.id else pure ()

def confirmReported (report : PoolObservation) (pool : ManagedPool) : FleetTx Unit :=
  if report.idle = true then confirmIdle pool else pure ()

structure Observed where
  replicasChanged : Bool
  deriving DecidableEq

def observePool (authAt now : Int) (id token : String) (report : PoolObservation) : FleetTx Observed := do
  Tx.reject (report.wellFormed = false) (.invalid "invalid readiness observation")
  let cluster ← authenticated env authAt id token
  let row ← Tx.read fun s => s.pools.get? report.poolId
  let row ← Tx.expect row .notFound
  Tx.reject (row.clusterId ≠ id) .forbidden
  Tx.reject (row.generation ≠ report.generation ∨ row.observationNonce ≠ some report.nonce ∨
      row.observationUntil.all (fun t => decide (t ≤ now)) ∨ cluster.acknowledgedVersion < row.desiredVersion)
    (.conflict "stale observation generation or lease")
  checkIdle report row
  Tx.reject (report.deploymentUid.isSome ∧ row.deploymentUid.isSome ∧ row.deploymentUid ≠ report.deploymentUid)
    (.conflict "deployment identity was replaced; rebind explicitly")
  let generation ← observedGeneration report row
  registerDefault report row
  let updated := row.observed now generation report
  putPool updated
  confirmReported report updated
  let changed ← reconcile env now cluster updated report.scaling report.appliedReplicas report.ready
  pure ⟨changed⟩

/-! ## Desired states of managed deployments -/

def ManagedPool.respecced (row : ManagedPool) (now version generation : Int) (item : DesiredDeployment) : ManagedPool :=
  { row with
    generation := generation, desiredVersion := version, readyUntil := none, observationNonce := none
    observationUntil := none, expectedSpec := item.spec.getD row.expectedSpec
    state := if item.spec.isSome then row.state else .retired, updatedAt := now }

/-- The spec differs from the recorded one in the replicas only, and these are in range. -/
def rescales (recorded spec : Json) : Bool :=
  spec.set "replicas" (recorded.get "replicas") == some recorded && (replicas spec).any fun n =>
    decide (0 ≤ n ∧ n ≤ 10000)

/-- One pool in `guard_desired`: what becomes of the item that names its deployment. -/
def guardItem (now version : Int) (row : ManagedPool) (item : DesiredDeployment) : FleetTx DesiredDeployment :=
  if row.state = .retired then do
    Tx.reject (¬(item.spec = none ∧ item.deleteUid = row.deploymentUid))
      (.conflict "retired pool cannot be resurrected; use a new deployment identity")
    pure item
  else if item.spec = some row.expectedSpec then pure { item with expectedUid := row.deploymentUid }
  else do
    Tx.reject (row.state ≠ .drained) (.conflict "managed deployment must finish pool drain before mutation")
    Tx.reject row.scaleOperation.isSome (.conflict "automatic scaling owns the pending replica change")
    let uid ← Tx.expect row.deploymentUid (.conflict "deployment identity proof missing")
    match item.spec with
    | some spec =>
      Tx.reject (rescales row.expectedSpec spec = false)
        (.invalid "managed pool model/runtime identity is immutable; create a new deployment for a new revision")
    | none => Tx.reject (item.deleteUid ≠ some uid) (.conflict "delete UID differs from observed deployment")
    let generation ← Tx.expect (checkedAdd row.generation 1) (.invalid "pool generation exhausted")
    putPool (row.respecced now version generation item)
    pure (if item.spec.isSome then { item with expectedUid := some uid } else item)

/-- `guard_desired`: the pools of the cluster, in order, over the items of the new desired state. -/
def guardDesired (now version : Int) : List ManagedPool → List DesiredDeployment → FleetTx (List DesiredDeployment)
  | [], deployments => pure deployments
  | row :: rest, deployments => match deployments.find? fun d => d.name == row.deployment with
    | none => guardDesired now version rest deployments
    | some item => do
      let item ← guardItem now version row item
      guardDesired now version rest (replaceItem item deployments)

end Xscope.Fleet

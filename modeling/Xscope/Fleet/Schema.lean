/-
The tables of the control plane that member clusters, managed pools and gateway traffic pass
through. JSON columns hold the typed value the source encodes in them; the specs of deployments,
which the control plane stores for the member cluster, stay JSON. Times are microseconds.
-/
import Xscope.Base.Json
import Xscope.Base.Table
import Xscope.Base.Tx
import Xscope.Domain.Requests
import Xscope.Store.Schema
import Mathlib.Data.List.Sort

namespace Xscope.Fleet

def seconds (n : Int) : Int := n * 1000000

/-! ## Names -/

/-- A Kubernetes name: lower-case letters, digits and inner hyphens, at most 63 bytes. -/
def name (value : String) : Bool :=
  !value.isEmpty && decide (value.utf8ByteSize ≤ 63) &&
    (value.toList.head?.all Char.isAlphanum) && (value.toList.getLast?.all Char.isAlphanum) &&
    value.toList.all fun c => c.isLower || c.isDigit || c == '-'

/-- A nonempty text of at most 128 bytes. -/
def bounded (value : String) : Bool := !value.isEmpty && decide (value.utf8ByteSize ≤ 128)

/-! ## Member clusters and their revisions -/

inductive ErrorCode where
  | invalidSpec
  | ownershipConflict
  | identityMismatch
  | kubernetesUnavailable
  | applyTimeout
  deriving DecidableEq

structure MemberCluster where
  id : String
  nameSpace : String
  credentialHash : String
  credentialEpoch : Int
  expiresAt : Int
  revokedAt : Option Int
  desiredVersion : Int
  acknowledgedVersion : Int
  deliveryVersion : Int
  deliveryLease : Option String
  leaseUntil : Option Int
  heartbeatAt : Option Int
  lastError : Option ErrorCode
  deriving DecidableEq

instance : Keyed MemberCluster String := ⟨MemberCluster.id⟩

structure DesiredDeployment where
  name : String
  /-- None is an explicit delete, requiring the last observed Kubernetes UID. -/
  spec : Option Json
  deleteUid : Option String
  expectedUid : Option String
  deriving DecidableEq

structure ClusterRevision where
  clusterId : String
  version : Int
  payload : List DesiredDeployment
  sha256 : String
  createdBy : String
  deriving DecidableEq

instance : Keyed ClusterRevision (String × Int) := ⟨fun r => (r.clusterId, r.version)⟩

/-! ## Managed pools -/

structure ServingEndpoint where
  id : String
  model : String
  revision : String
  address : String
  tls : Bool
  serverName : String
  deriving DecidableEq

/-- An entry of the legacy catalog. -/
structure ServingEndpointRow where
  id : String
  generation : Int
  definition : ServingEndpoint
  deriving DecidableEq

instance : Keyed ServingEndpointRow String := ⟨ServingEndpointRow.id⟩

structure RoutePool where
  id : String
  model : String
  revision : String
  deriving DecidableEq

structure PoolBinding where
  trafficProtocol : Nat
  /-- Assign only an unbound default; never replace an existing stable route. -/
  makeDefault : Bool
  clusterId : String
  deployment : String
  servingService : String
  address : String
  tls : Bool
  serverName : String
  expectedDesiredVersion : Int
  deriving DecidableEq

inductive PoolState where
  | pending
  | active
  | draining
  | drained
  | retired
  deriving DecidableEq

inductive Phase where
  | draining
  | applying
  deriving DecidableEq

/-- A scaling operation in progress. -/
structure Operation where
  phase : Phase
  target : Int
  fromReplicas : Int
  previousVersion : Int
  up : Bool
  deriving DecidableEq

inductive ObservationCode where
  | ok
  | notReady
  | specDrift
  | identityMismatch
  | kubernetesUnavailable
  deriving DecidableEq

structure ManagedPool where
  id : String
  clusterId : String
  deployment : String
  generation : Int
  state : PoolState
  binding : PoolBinding
  endpoint : ServingEndpoint
  expectedSpec : Json
  desiredVersion : Int
  deploymentUid : Option String
  readyUntil : Option Int
  observationNonce : Option String
  observationUntil : Option Int
  observationCode : ObservationCode
  observedAt : Option Int
  updatedAt : Int
  scaleOperation : Option Operation
  idleRequestedAfter : Option Int
  deriving DecidableEq

instance : Keyed ManagedPool String := ⟨ManagedPool.id⟩

/-- Replicas as the control plane reads them from a spec. -/
def replicas (spec : Json) : Option Int := (spec.get "replicas").asI64

/-- The platform scales the deployment itself. -/
def managedScaling (spec : Json) : Bool := decide ((spec.get "autoscaling").get "managed" = .bool true)

/-! ## Gateways -/

structure GatewayIdentity where
  clusterId : String
  nameSpace : String
  pod : String
  podUid : String
  deriving DecidableEq

structure GatewayRuntime where
  containerId : String
  node : String
  nodeUid : String
  deriving DecidableEq

/-- Evidence that the container of a gateway has terminated. -/
structure Termination where
  observedAt : Int
  runtime : Option GatewayRuntime
  deriving DecidableEq

/-- The active requests of a report, by pool and in pool order. -/
structure TrafficReport where
  closed : Bool
  sessionId : String
  sequence : Int
  nonce : String
  active : List (String × Nat)
  deriving DecidableEq

structure GatewaySession where
  id : String
  sequence : Int
  closed : Bool
  nonce : String
  reported : Option TrafficReport
  deliveredAt : Int
  identity : Option GatewayIdentity
  runtime : Option GatewayRuntime
  proof : Option Termination
  proofNonce : Option String
  proofUntil : Option Int
  gatewayClusterId : Option String
  proofComplete : Bool
  deriving DecidableEq

instance : Keyed GatewaySession String := ⟨GatewaySession.id⟩

/-- A participant of a pool. A negative count is unknown work of a terminated gateway. -/
structure GatewayPoolView where
  poolId : String
  sessionId : String
  deliveredGeneration : Int
  acknowledgedGeneration : Int
  activeRequests : Int
  retired : Bool
  reportedAt : Option Int
  deriving DecidableEq

instance : Keyed GatewayPoolView (String × String) := ⟨fun v => (v.poolId, v.sessionId)⟩

/-- What a serving request may use: the accepting pools of one snapshot with their generations. -/
structure TrafficGrant where
  tokenHash : String
  sessionId : String
  expiresAt : Int
  pools : List (String × Int)
  deriving DecidableEq

instance : Keyed TrafficGrant String := ⟨TrafficGrant.tokenHash⟩

/-! ## The state -/

structure State where
  clusters : Table MemberCluster
  revisions : Table ClusterRevision
  pools : Table ManagedPool
  views : Table GatewayPoolView
  sessions : Table GatewaySession
  grants : Table TrafficGrant
  catalog : Table CatalogRow
  endpoints : Table ServingEndpointRow

def State.empty : State :=
  { clusters := .empty, revisions := .empty, pools := .empty, views := .empty, sessions := .empty, grants := .empty
    catalog := .empty, endpoints := .empty }

abbrev FleetTx := Tx State ServiceError

/-- What the control plane takes from its libraries and its environment: the syntax of UUIDs,
SHA-256 in hexadecimal, the JSON text of a payload, and `XSCOPE_REQUIRE_GATEWAY_IDENTITY`. -/
structure Env where
  isUuid : String → Bool
  sha256 : String → String
  encode : List DesiredDeployment → String
  requireIdentity : Bool

/-- The largest payload of a revision. -/
def payloadLimit : Nat := 256 * 1024

/-! ## Access -/

/-- Replacement of a row of each table. -/
def putCluster (row : MemberCluster) : FleetTx Unit := Tx.write fun s => { s with clusters := s.clusters.put row }

def putPool (row : ManagedPool) : FleetTx Unit := Tx.write fun s => { s with pools := s.pools.put row }

def putView (row : GatewayPoolView) : FleetTx Unit := Tx.write fun s => { s with views := s.views.put row }

def putSession (row : GatewaySession) : FleetTx Unit := Tx.write fun s => { s with sessions := s.sessions.put row }

/-- Insertion of a revision, refused when the version is taken. -/
def insertRevision (row : ClusterRevision) : FleetTx Unit := do
  let t ← Tx.read fun s => s.revisions.insert? row
  let t ← Tx.expect t .database
  Tx.write fun s => { s with revisions := t }

/-- The cluster a member agent authenticates for. -/
def authenticated (env : Env) (authAt : Int) (id token : String) : FleetTx MemberCluster := do
  let row ← Tx.read fun s => s.clusters.get? id
  let row ← Tx.expect row .unauthorized
  Tx.reject (row.revokedAt.isSome ∨ row.expiresAt ≤ authAt ∨ row.credentialHash ≠ env.sha256 token) .unauthorized
  pure row

/-- The views of a pool. -/
def State.viewsOf (s : State) (poolId : String) : List GatewayPoolView := s.views.select fun v => v.poolId == poolId

/-- A view that keeps a pool from being drained: requests in flight, unknown work, or a gateway
that has not acknowledged the generation. -/
def GatewayPoolView.blocks (v : GatewayPoolView) (generation : Int) : Bool :=
  v.activeRequests != 0 || (!v.retired && decide (v.acknowledgedGeneration < generation))

end Xscope.Fleet

/-
What an operation can do to the tables of the fleet, said once: every successful operation is a
sequence of moves, each with the guards the operation checked. The invariants of clusters, pools
and gateways are derived from the moves alone.
-/
import Xscope.Fleet.Op
import Mathlib.Logic.Relation

namespace Xscope.Fleet

variable (env : Env)

/-! ## Rows -/

/-- The agent of the cluster holds its credential. -/
structure Authentic (authAt : Int) (token : String) (row : MemberCluster) : Prop where
  unrevoked : row.revokedAt = none
  valid : authAt < row.expiresAt
  credential : row.credentialHash = env.sha256 token

inductive ClusterStep (s : State) : Op → MemberCluster → MemberCluster → Prop
  | rotated {now epoch : Int} {token id digest : String} {request : RotateCredential} {row : MemberCluster} :
      ClusterStep s (.rotateCredential now token id request) row (row.rotated now epoch request.credentialDays digest)
  | revoked {now : Int} {id : String} {row : MemberCluster} :
      ClusterStep s (.revokeCluster now id) row (row.revoked now)
  | heartbeat {authAt now : Int} {lease id token : String} {row : MemberCluster} :
      ClusterStep s (.pollDelivery authAt now lease id token) row { row with heartbeatAt := some now }
  | leased {authAt now : Int} {lease id token : String} {row : MemberCluster} {revision : ClusterRevision}
      (own : row.id = id) (auth : Authentic env authAt token row) (idle : row.busy now = false)
      (behind : row.acknowledgedVersion < row.desiredVersion)
      (stored : s.revisions.get? (row.id, row.desiredVersion) = some revision) :
      ClusterStep s (.pollDelivery authAt now lease id token) row (row.leased now revision.version lease)
  | reported {authAt now : Int} {id token : String} {row : MemberCluster} {revision : ClusterRevision}
      {report : ClusterReport} (own : row.id = id) (auth : Authentic env authAt token row)
      (stored : s.revisions.get? (row.id, report.version) = some revision) (digest : revision.sha256 = report.sha256)
      (version : row.deliveryVersion = report.version) (lease : row.deliveryLease = some report.lease)
      (busy : row.busy now = true) (newer : row.acknowledgedVersion ≤ report.version) :
      ClusterStep s (.reportDelivery authAt now id token report) row (row.reported now report)

/-- No participant keeps the pool from being drained at its generation. -/
def State.Quiet (s : State) (row : ManagedPool) : Prop := ∀ v ∈ s.viewsOf row.id, v.blocks row.generation = false

/-- A report that answers the current task of the pool. -/
structure Answers (s : State) (now : Int) (id : String) (report : PoolObservation) (row : ManagedPool) : Prop where
  owner : row.clusterId = id
  generation : row.generation = report.generation
  nonce : row.observationNonce = some report.nonce
  live : row.observationUntil.any fun t => decide (now < t)
  acknowledged : ∃ c, s.clusters.get? id = some c ∧ row.desiredVersion ≤ c.acknowledgedVersion

/-- What one operation does to a pool's row. -/
inductive PoolStep (s : State) : Op → ManagedPool → ManagedPool → Prop
  | closing {now expected : Int} {id : String} {row : ManagedPool} (live : row.state = .active ∨ row.state = .pending)
      (free : row.scaleOperation = none) :
      PoolStep s (.poolTransition now id expected "drain") row (row.moved now (row.generation + 1) .draining)
  | finished {now expected : Int} {id : String} {row : ManagedPool} (closed : row.state = .draining)
      (free : row.scaleOperation = none) (quiet : s.Quiet row) :
      PoolStep s (.poolTransition now id expected "finish-drain") row (row.moved now row.generation .drained)
  | activated {now expected : Int} {id : String} {row : ManagedPool} (closed : row.state = .drained)
      (free : row.scaleOperation = none) :
      PoolStep s (.poolTransition now id expected "activate") row (row.moved now (row.generation + 1) .active)
  | tasked {authAt now : Int} {nonce : String → String} {id token : String} {row : ManagedPool} {after : Option Int}
      (fence : idleAfter row.id s = .ok (after, s)) (kept : row.state ≠ .retired) :
      PoolStep s (.observationTasks authAt now nonce id token) row (row.tasked now (nonce row.id) after)
  | observed {authAt now : Int} {id token : String} {report : PoolObservation} {row : ManagedPool}
      (answers : Answers s now id report row)
      (same : report.deploymentUid.isSome → row.deploymentUid.isSome → row.deploymentUid = report.deploymentUid) :
      PoolStep s (.observePool authAt now id token report) row
        (row.observed now (if row.registers report then row.generation + 1 else row.generation) report)
  | completed {authAt now : Int} {id token : String} {report : PoolObservation} {row : ManagedPool} {op : Operation}
      (operation : row.scaleOperation = some op) (applying : op.phase = .applying) (up : op.up = true) :
      PoolStep s (.observePool authAt now id token report) row { row with scaleOperation := none }
  | reopened {authAt now : Int} {id token : String} {report : PoolObservation} {row : ManagedPool} {op : Operation}
      (operation : row.scaleOperation = some op) (phase : op.phase = .applying ∧ op.up = false ∨
        op.phase = .draining ∧ row.state = .draining) :
      PoolStep s (.observePool authAt now id token report) row (row.reopened (row.generation + 1))
  | shrinking {authAt now current target : Int} {id token : String} {report : PoolObservation} {row : ManagedPool}
      (live : row.state = .active) (free : row.scaleOperation = none)
      (recorded : currentReplicas row.expectedSpec = some current)
      (fewer : target < current) :
      PoolStep s (.observePool authAt now id token report) row (row.shrinking (row.generation + 1) current target)
  | grown {authAt now current target version : Int} {id token : String} {report : PoolObservation} {row : ManagedPool}
      {spec : Json} (live : row.state = .active) (free : row.scaleOperation = none)
      (recorded : currentReplicas row.expectedSpec = some current) (more : current < target)
      (assigned : row.expectedSpec.set "replicas" (.int target) = some spec) :
      PoolStep s (.observePool authAt now id token report) row
        (row.rescaled now version row.generation current target spec true)
  | shrunk {authAt now current target version : Int} {id token : String} {report : PoolObservation} {row : ManagedPool}
      {op : Operation} {spec : Json} (closed : row.state = .draining) (operation : row.scaleOperation = some op)
      (draining : op.phase = .draining) (quiet : s.Quiet row)
      (recorded : currentReplicas row.expectedSpec = some current)
      (fewer : target < current) (assigned : row.expectedSpec.set "replicas" (.int target) = some spec) :
      PoolStep s (.observePool authAt now id token report) row
        (row.rescaled now version (row.generation + 1) current target spec false)
  | respecced {now version : Int} {actor id : String} {request : DesiredState} {row : ManagedPool}
      {item : DesiredDeployment}
      (closed : row.state = .drained) (free : row.scaleOperation = none)
      (change : item.spec.all fun spec => rescales row.expectedSpec spec) :
      PoolStep s (.putDesired now actor id request) row (row.respecced now version (row.generation + 1) item)

/-! ## Desired states -/

/-- What `guard_desired` does to the items of a desired state and to the pools of the cluster. -/
inductive Guarded (now version : Int) : List ManagedPool → List DesiredDeployment → Table ManagedPool →
    List DesiredDeployment → Table ManagedPool → Prop
  | done {d : List DesiredDeployment} {pools : Table ManagedPool} : Guarded now version [] d pools d pools
  | absent {row : ManagedPool} {rest : List ManagedPool} {d d' : List DesiredDeployment}
      {pools pools' : Table ManagedPool}
      (unnamed : d.find? (fun x => x.name == row.deployment) = none)
      (tail : Guarded now version rest d pools d' pools') :
      Guarded now version (row :: rest) d pools d' pools'
  | deleted {row : ManagedPool} {rest : List ManagedPool} {d d' : List DesiredDeployment}
      {pools pools' : Table ManagedPool}
      {item : DesiredDeployment} (named : d.find? (fun x => x.name == row.deployment) = some item)
      (retired : row.state = .retired) (deletion : item.spec = none) (uid : item.deleteUid = row.deploymentUid)
      (tail : Guarded now version rest (replaceItem item d) pools d' pools') :
      Guarded now version (row :: rest) d pools d' pools'
  | kept {row : ManagedPool} {rest : List ManagedPool} {d d' : List DesiredDeployment}
      {pools pools' : Table ManagedPool}
      {item : DesiredDeployment} (named : d.find? (fun x => x.name == row.deployment) = some item)
      (live : row.state ≠ .retired) (same : item.spec = some row.expectedSpec)
      (tail : Guarded now version rest (replaceItem { item with expectedUid := row.deploymentUid } d) pools d' pools') :
      Guarded now version (row :: rest) d pools d' pools'
  | changed {row : ManagedPool} {rest : List ManagedPool} {d d' : List DesiredDeployment}
      {pools pools' : Table ManagedPool}
      {item : DesiredDeployment} {uid : String} (named : d.find? (fun x => x.name == row.deployment) = some item)
      (closed : row.state = .drained) (free : row.scaleOperation = none) (identified : row.deploymentUid = some uid)
      (change : item.spec.all fun spec => rescales row.expectedSpec spec)
      (deletion : item.spec = none → item.deleteUid = some uid)
      (tail : Guarded now version rest
        (replaceItem (if item.spec.isSome then { item with expectedUid := some uid } else item) d)
        (pools.put (row.respecced now version (row.generation + 1) item)) d' pools') :
      Guarded now version (row :: rest) d pools d' pools'

/-! ## Snapshots and reports -/

/-- The view of a participant after a snapshot of the pool. -/
def grantedView (accepting : Bool) (pool : ManagedPool) (sessionId : String) :
    Option GatewayPoolView → Option GatewayPoolView
  | some view => some { view with deliveredGeneration := pool.generation }
  | none => if accepting then some (openedView pool sessionId) else none

/-- The pools in the order of a snapshot. -/
def State.listed (s : State) : List ManagedPool := s.pools.rows.insertionSort fun a b => a.id ≤ b.id

/-- What a snapshot says of a pool. -/
def ManagedPool.control (now : Int) (ready : Bool) (clusters : List MemberCluster) (pool : ManagedPool) : PoolControl :=
  ⟨pool.id, pool.generation, pool.accepting now ready clusters⟩

/-- The accepting pools of a snapshot. -/
def accepted (controls : List PoolControl) : List (String × Int) :=
  (controls.filter fun c => c.accepting).map fun c => (c.id, c.generation)

structure Snapshot (now : Int) (nonce token id : String) (identity : Option GatewayIdentity) (row : GatewaySession)
    (reply : TrafficSnapshot) (s s' : State) : Prop where
  session : s.sessions.get? id = some row ∨ s.sessions.get? id = none ∧ row = openedSession now id identity
  opened : row.closed = false
  identity : row.identity = identity
  answer : reply = ⟨token, id, row.sequence + 1, nonce, leaseSeconds,
    s.listed.map (ManagedPool.control now (identityReady env row) s.clusters.rows)⟩
  sessions : ∀ k, s'.sessions.get? k = if id = k then some (row.delivered now (row.sequence + 1) nonce)
    else s.sessions.get? k
  views : ∀ p k, s'.views.get? (p, k) = if k = id then (s.pools.get? p).elim (s.views.get? (p, k)) fun pool =>
    grantedView (pool.accepting now (identityReady env row) s.clusters.rows) pool id (s.views.get? (p, k))
    else s.views.get? (p, k)
  grants : ∀ g ∈ s'.grants, g ∈ s.grants ∨
    g = ⟨env.sha256 token, id, now + seconds leaseSeconds, accepted reply.pools⟩
  tables : s' = { s with sessions := s'.sessions, views := s'.views, grants := s'.grants }

structure Acked (now : Int) (report : TrafficReport) (row : GatewaySession) (s s' : State) : Prop where
  session : s.sessions.get? report.sessionId = some row
  opened : row.closed = false
  current : row.sequence = report.sequence ∧ row.nonce = report.nonce
  first : row.reported = none
  counts : report.wellFormed env = true
  views : ∀ p k, s'.views.get? (p, k) = if k = report.sessionId then
    (s.views.get? (p, k)).map fun v => v.acked now report.closed ((report.active.lookup p).getD 0)
      else s.views.get? (p, k)
  complete : ∀ p v, s.views.get? (p, report.sessionId) = some v → ∃ n, report.active.lookup p = some n
  tables : s' = { s with
    sessions := s.sessions.put { row with closed := report.closed, reported := some report }, views := s'.views }

/-! ## Moves -/

/-- The operation puts a desired state. -/
def Op.putsDesired : Op → Bool
  | .putDesired .. => true
  | _ => false

inductive Move : Op → State → State → Prop
  | registered {s : State} {now : Int} {token digest : String} {request : RegisterCluster}
      {clusters : Table MemberCluster}
      (inserted : s.clusters.insert? (registeredCluster now digest request) = some clusters) :
      Move (.registerCluster now token request) s { s with clusters := clusters }
  | cluster {s : State} {op : Op} {row row' : MemberCluster} (found : s.clusters.get? row.id = some row)
      (step : ClusterStep env s op row row') : Move op s { s with clusters := s.clusters.put row' }
  | desired {s : State} {now : Int} {actor id : String} {request : DesiredState} {row : MemberCluster}
      {deployments : List DesiredDeployment} {pools : Table ManagedPool} {revisions : Table ClusterRevision}
      (found : s.clusters.get? id = some row) (unrevoked : row.revokedAt = none)
      (wellFormed : request.wellFormed = true)
      (guarded : Guarded now (row.desiredVersion + 1) (s.poolsOf id) request.deployments s.pools deployments pools)
      (inserted : s.revisions.insert? ⟨id, row.desiredVersion + 1, deployments, env.digest deployments, actor⟩ =
      some revisions) :
      Move (.putDesired now actor id request) s
        { s with
          pools := pools, revisions := revisions
          clusters := s.clusters.put { row with desiredVersion := row.desiredVersion + 1 } }
  | bound {s : State} {now : Int} {id : String} {request : PoolBinding} {legacy : List RoutePool}
      {cluster : MemberCluster}
      {revision : ClusterRevision} {endpoint : ServingEndpoint} {spec : Json} {pools : Table ManagedPool}
      (found : s.clusters.get? request.clusterId = some cluster)
      (current : request.expectedDesiredVersion = cluster.desiredVersion)
      (stored : s.revisions.get? (cluster.id, cluster.desiredVersion) = some revision)
      (named : specOf revision.payload request.deployment = some spec)
      (fenced : managedScaling spec = true → request.trafficProtocol = 2)
      (dedicated : ∀ p ∈ s.pools, ¬(p.clusterId = request.clusterId ∧ p.deployment = request.deployment))
      (valid : endpoint.validate = .ok ()) (own : endpoint.id = id)
      (known : ∃ model, s.catalog.get? endpoint.model = some model)
      (inserted : s.pools.insert? (boundPool now id request endpoint spec) = some pools) :
      Move (.bindPool now id request legacy) s { s with pools := pools }
  | pool {s : State} {op : Op} {row row' : ManagedPool} (found : s.pools.get? row.id = some row)
      (step : PoolStep s op row row')
      (same : row'.expectedSpec = row.expectedSpec ∧ row'.desiredVersion = row.desiredVersion ∧
      op.putsDesired = false) :
      Move op s { s with pools := s.pools.put row' }
  | rescaled {s : State} {authAt now version generation current target : Int} {id token uid : String} {up : Bool}
      {report : PoolObservation} {cluster : MemberCluster} {row : ManagedPool}
      {previous : ClusterRevision} {spec : Json}
      {revisions : Table ClusterRevision} (found : s.pools.get? row.id = some row)
      (step : PoolStep s (.observePool authAt now id token report) row
        (row.rescaled now version generation current target spec up))
      (assigned : row.expectedSpec.set "replicas" (.int target) = some spec)
      (owner : row.clusterId = id) (member : s.clusters.get? id = some cluster)
      (settled : cluster.desiredVersion = cluster.acknowledgedVersion) (identified : row.deploymentUid = some uid)
      (stored : s.revisions.get? (id, cluster.desiredVersion) = some previous)
      (next : version = cluster.desiredVersion + 1)
      (inserted : s.revisions.insert? ⟨id, version,
      upsertItem ⟨row.deployment, some spec, none, some uid⟩ previous.payload,
        env.digest (upsertItem ⟨row.deployment, some spec, none, some uid⟩ previous.payload), "keda"⟩ =
          some revisions) :
      Move (.observePool authAt now id token report) s
        { s with
          revisions := revisions, clusters := s.clusters.put { cluster with desiredVersion := version }
          pools := s.pools.put (row.rescaled now version generation current target spec up) }
  | defaulted {s : State} {authAt now : Int} {id token : String} {report : PoolObservation} {row : ManagedPool}
      (found : s.pools.get? row.id = some row)
      (fits : ∀ model ∈ s.catalog, undefaulted row.endpoint model = true → Fits (model.revision + 1)) :
      Move (.observePool authAt now id token report) s
        { s with catalog := s.catalog.mapRows (defaultPool row.endpoint row.id) (key_defaultPool row.endpoint row.id) }
  | settled {s : State} {authAt now : Int} {id token : String} {report : PoolObservation} {row : ManagedPool}
      (idle : report.idle = true) (target : row.id = report.poolId) (found : s.pools.get? row.id = some row)
      (closed : row.state = .draining) (fenced : row.binding.trafficProtocol = 2)
      (asked : ∃ t, report.idleAfter = some t ∧ row.idleRequestedAfter = some t ∧
      idleAfter row.id s = .ok (some t, s)) :
      Move (.observePool authAt now id token report) s
        { s with views := s.views.mapRows (GatewayPoolView.settle row.id) (GatewayPoolView.key_settle row.id) }
  | snapshot {s s' : State} {wallAt now : Int} {nonce token id : String} {identity : Option GatewayIdentity}
      {row : GatewaySession} {reply : TrafficSnapshot} (h : Snapshot env now nonce token id identity row reply s s') :
      Move (.trafficSnapshot wallAt now nonce token id identity) s s'
  | acked {s s' : State} {now : Int} {report : TrafficReport} {row : GatewaySession}
      (h : Acked env now report row s s') :
      Move (.trafficReport now report) s s'
  | proofTasked {s : State} {authAt now : Int} {nonce : String → String} {id token : String} {row : GatewaySession}
      (found : s.sessions.get? row.id = some row) :
      Move (.gatewayProofTasks authAt now nonce id token) s
        { s with sessions := s.sessions.put (row.tasked now (nonce row.id)) }
  | attested {s : State} {authAt now : Int} {id token : String} {proof : GatewayProof} {row row' : GatewaySession}
      (found : s.sessions.get? row.id = some row)
      (step : row' = { row.answered with runtime := row'.runtime, proofComplete := row'.proofComplete }) :
      Move (.gatewayProof authAt now id token proof) s { s with sessions := s.sessions.put row' }
  | terminated {s : State} {authAt now : Int} {id token : String} {proof : GatewayProof} {row : GatewaySession}
      (found : s.sessions.get? row.id = some row) (opened : row.closed = false) (terminal : proof.outcome = .terminated)
      (matching : row.runtime.isSome ∧ row.runtime = proof.runtime) :
      Move (.gatewayProof authAt now id token proof) s
        { s with
          views := s.views.mapRows (GatewayPoolView.orphan row.id) (GatewayPoolView.key_orphan row.id)
          sessions := s.sessions.put (row.terminated now proof) }
  | unbound {s : State} {authAt now : Int} {id token : String} {proof : GatewayProof} {row : GatewaySession}
      (found : s.sessions.get? row.id = some row) (unexposed : ∀ v ∈ s.views, v.sessionId ≠ row.id) :
      Move (.gatewayProof authAt now id token proof) s
        { s with sessions := s.sessions.put row.unbound }
  | catalog {s : State} (catalog : Table CatalogRow) (endpoints : Table ServingEndpointRow) :
      Move (.writeCatalog catalog endpoints) s { s with catalog := catalog, endpoints := endpoints }

/-- A sequence of moves of one operation. -/
def Moves (op : Op) : State → State → Prop := Relation.ReflTransGen (Move env op)

end Xscope.Fleet

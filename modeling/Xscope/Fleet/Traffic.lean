/-
Gateway traffic: snapshots that grant accepting pools, the authorisation of serving requests, and
the reports that acknowledge a snapshot. A participant is recorded before an accepting snapshot
can leave the server.
-/
import Xscope.Fleet.Clusters

namespace Xscope.Fleet

variable (env : Env)

def leaseSeconds : Int := 15

/-! ## Snapshots -/

structure PoolControl where
  id : String
  generation : Int
  accepting : Bool
  deriving DecidableEq

structure TrafficSnapshot where
  admissionToken : String
  sessionId : String
  sequence : Int
  nonce : String
  leaseSeconds : Int
  pools : List PoolControl
  deriving DecidableEq

def openedSession (now : Int) (id : String) (identity : Option GatewayIdentity) : GatewaySession :=
  { id := id, sequence := 0, closed := false, nonce := "", reported := none, deliveredAt := now, identity := identity
    runtime := none, proof := none, proofNonce := none, proofUntil := none
    gatewayClusterId := identity.map (·.clusterId), proofComplete := false }

/-- The gateway is attributed to a container, or no attribution is asked of it. -/
def identityReady (row : GatewaySession) : Bool :=
  (row.identity.isSome && row.runtime.isSome) || (!env.requireIdentity && row.identity.isNone)

/-- The version the cluster must have acknowledged for the pool: an increase keeps serving with
the replicas it had. -/
def ManagedPool.servedVersion (pool : ManagedPool) : Int :=
  ((pool.scaleOperation.filter fun op => op.up).map fun op => op.previousVersion).getD pool.desiredVersion

/-- The cluster of the pool has a valid credential and the pool's version. -/
def ManagedPool.identityValid (pool : ManagedPool) (now : Int) (clusters : List MemberCluster) : Bool :=
  clusters.any fun c => c.id == pool.clusterId && c.revokedAt.isNone && decide (now < c.expiresAt) &&
    decide (pool.servedVersion ≤ c.acknowledgedVersion)

def ManagedPool.accepting (pool : ManagedPool) (now : Int) (ready : Bool) (clusters : List MemberCluster) : Bool :=
  pool.state == .active && ready && pool.identityValid now clusters && pool.readyUntil.any fun t => decide (now < t)

def openedView (pool : ManagedPool) (sessionId : String) : GatewayPoolView :=
  { poolId := pool.id, sessionId := sessionId, deliveredGeneration := pool.generation, acknowledgedGeneration := 0
    activeRequests := 0, retired := false, reportedAt := none }

/-- What a snapshot says of one pool; the participant is stored first. -/
def grantPool (now : Int) (ready : Bool) (sessionId : String) (clusters : List MemberCluster) (pool : ManagedPool) :
    FleetTx PoolControl := do
  let previous ← Tx.read fun s => s.views.get? (pool.id, sessionId)
  match previous with
  | some view => putView { view with deliveredGeneration := pool.generation }
  | none =>
    if pool.accepting now ready clusters then do
      let t ← Tx.read fun s => s.views.insert? (openedView pool sessionId)
      let t ← Tx.expect t .database
      Tx.write fun s => { s with views := t }
    else pure ()
  pure ⟨pool.id, pool.generation, pool.accepting now ready clusters⟩

def grantPools (now : Int) (ready : Bool) (sessionId : String) (clusters : List MemberCluster) :
    List ManagedPool → FleetTx (List PoolControl)
  | [] => pure []
  | pool :: rest => do
    let control ← grantPool now ready sessionId clusters pool
    let controls ← grantPools now ready sessionId clusters rest
    pure (control :: controls)

/-- The session after a new snapshot was delivered to it. -/
def GatewaySession.delivered (row : GatewaySession) (now sequence : Int) (nonce : String) : GatewaySession :=
  { row with sequence := sequence, nonce := nonce, reported := none, deliveredAt := now }

/-- The session of a gateway: a new one the first time it asks. -/
def openSession (now : Int) (id : String) (identity : Option GatewayIdentity) : FleetTx GatewaySession := do
  Tx.write fun s => { s with sessions := (s.sessions.insert? (openedSession now id identity)).getD s.sessions }
  let row ← Tx.read fun s => s.sessions.get? id
  let row ← Tx.expect row .notFound
  Tx.reject (row.closed = true) (.conflict "gateway incarnation was permanently retired")
  Tx.reject (row.identity ≠ identity) (.conflict "gateway incarnation identity changed")
  pure row

/-- The transaction of a snapshot. -/
def grantSnapshot (now : Int) (nonce token id : String)
    (identity : Option GatewayIdentity) : FleetTx TrafficSnapshot := do
  let pools ← Tx.read fun s => s.pools.rows.insertionSort fun a b => a.id ≤ b.id
  let row ← openSession now id identity
  let sequence ← Tx.expect (checkedAdd row.sequence 1) (.invalid "gateway sequence exhausted")
  putSession (row.delivered now sequence nonce)
  Tx.write fun s =>
    { s with grants := s.grants.deleteWhere fun g => g.sessionId == id && decide (g.expiresAt < now - seconds 120) }
  let clusters ← Tx.read fun s => s.clusters.rows
  let controls ← grantPools now (identityReady env row) id clusters pools
  let accepted := (controls.filter fun c => c.accepting).map fun c => (c.id, c.generation)
  let t ← Tx.read fun s => s.grants.insert? ⟨env.sha256 token, id, now + seconds leaseSeconds, accepted⟩
  let t ← Tx.expect t .database
  Tx.write fun s => { s with grants := t }
  pure ⟨token, id, sequence, nonce, leaseSeconds, controls⟩

/-- A gateway that names its container must name one of a member cluster. -/
def identified (wallAt : Int) (identity : Option GatewayIdentity) : FleetTx Unit :=
  identity.elim (pure ()) (validateIdentity wallAt)

/-- `traffic_snapshot`; the nonce and the token are fresh. -/
def trafficSnapshot (wallAt now : Int) (nonce token id : String) (identity : Option GatewayIdentity) :
    FleetTx TrafficSnapshot := do
  Tx.reject (env.isUuid id = false) (.invalid "invalid gateway incarnation")
  identified wallAt identity
  grantSnapshot env now nonce token id identity

/-! ## Serving -/

structure ServingHeaders where
  session : Option String
  token : Option String
  pool : Option String
  deriving DecidableEq

/-- `authorize_serving`. -/
def authorizeServing (wallAt : Int) (headers : ServingHeaders) : FleetTx Unit := do
  let sessionId ← Tx.expect headers.session .forbidden
  let token ← Tx.expect headers.token .forbidden
  let poolId ← Tx.expect headers.pool .forbidden
  Tx.reject (token.utf8ByteSize ≠ 43 ∨ env.isUuid sessionId = false) .forbidden
  let grant ← Tx.read fun s => s.grants.get? (env.sha256 token)
  let grant ← Tx.expect grant .forbidden
  Tx.reject (grant.sessionId ≠ sessionId ∨ grant.expiresAt ≤ wallAt) .forbidden
  let session ← Tx.read fun s => s.sessions.get? sessionId
  let session ← Tx.expect session .forbidden
  Tx.reject (session.closed = true ∨ (session.identity.isSome ∧ session.runtime.isNone)) .forbidden
  let pool ← Tx.read fun s => s.pools.get? poolId
  let pool ← Tx.expect pool .forbidden
  Tx.reject (grant.pools.lookup poolId ≠ some pool.generation) .forbidden
  Tx.reject (pool.state ≠ .active ∨ pool.readyUntil.all fun t => decide (t ≤ wallAt)) .forbidden
  let cluster ← Tx.read fun s => s.clusters.get? pool.clusterId
  let cluster ← Tx.expect cluster .forbidden
  Tx.reject (cluster.revokedAt.isSome ∨ cluster.expiresAt ≤ wallAt) .forbidden
  Tx.reject (env.requireIdentity = true ∧ session.runtime.isNone) .forbidden

/-! ## Reports -/

/-- Bounded counts, all of them zero when the gateway closes. -/
def TrafficReport.wellFormed (r : TrafficReport) : Bool :=
  env.isUuid r.sessionId && decide (0 < r.sequence) && decide (r.active.length ≤ 10000) &&
    r.active.all fun p => decide (p.2 ≤ 1000000) && (!r.closed || p.2 == 0)

/-- The view after a report with a count for its pool. -/
def GatewayPoolView.acked (v : GatewayPoolView) (now : Int) (closed : Bool) (count : Nat) : GatewayPoolView :=
  { v with
    acknowledgedGeneration := v.deliveredGeneration, retired := closed, activeRequests := count
    reportedAt := some now }

/-- Every exposed pool must be in the report, including zero counts. -/
def ackViews (now : Int) (report : TrafficReport) : List GatewayPoolView → FleetTx Unit
  | [] => pure ()
  | view :: rest => do
    let count ← Tx.expect (report.active.lookup view.poolId)
      (.invalid "ACK must include every exposed pool, including zero counts")
    putView (view.acked now report.closed count)
    ackViews now report rest

def trafficReport (now : Int) (report : TrafficReport) : FleetTx Reported := do
  Tx.reject (report.wellFormed env = false) (.invalid "invalid gateway ACK")
  let row ← Tx.read fun s => s.sessions.get? report.sessionId
  let row ← Tx.expect row .notFound
  Tx.reject (row.sequence ≠ report.sequence ∨ row.nonce ≠ report.nonce) (.conflict "stale gateway ACK")
  if row.closed = true then do
    Tx.reject (¬(report.closed = true ∧ row.reported = some report))
      (.conflict "retired gateway cannot publish a late ACK")
    pure ⟨true⟩
  else match row.reported with
  | some previous => do
    Tx.reject (previous ≠ report) (.conflict "ACK sequence is bound to a different report")
    pure ⟨true⟩
  | none => do
    let views ← Tx.read fun s => s.views.select fun v => v.sessionId == report.sessionId
    ackViews now report views
    putSession { row with closed := report.closed, reported := some report }
    pure ⟨false⟩

end Xscope.Fleet

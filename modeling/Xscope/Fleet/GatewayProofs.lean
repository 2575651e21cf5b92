/-
Container termination fences future traffic. Unknown provider work is cleared separately, using
in-flight evidence taken after the fence.
-/
import Xscope.Fleet.Schema

namespace Xscope.Fleet

variable (env : Env)

/-- `validate_identity`: the gateway runs in a cluster that is not revoked, under its namespace. -/
def validateIdentity (wallAt : Int) (identity : GatewayIdentity) : FleetTx Unit := do
  Tx.reject (¬name identity.clusterId ∨ ¬name identity.nameSpace ∨ ¬name identity.pod ∨ ¬bounded identity.podUid)
    (.invalid "invalid gateway pod identity")
  let row ← Tx.read fun s => s.clusters.get? identity.clusterId
  let row ← Tx.expect row .forbidden
  Tx.reject (row.nameSpace ≠ identity.nameSpace ∨ row.revokedAt.isSome ∨ row.expiresAt ≤ wallAt) .forbidden

/-! ## Proof tasks -/

structure GatewayProofTask where
  releaseFinalizer : Bool
  sessionId : String
  nonce : String
  identity : GatewayIdentity
  runtime : Option GatewayRuntime
  closed : Bool
  deriving DecidableEq

/-- The session with a nonce that is good for a minute. -/
def GatewaySession.tasked (row : GatewaySession) (now : Int) (nonce : String) : GatewaySession :=
  { row with proofNonce := some nonce, proofUntil := some (now + seconds 60) }

/-- The task for one session. -/
def proofTask (now : Int) (nonce : String → String) (opened : List GatewaySession) (row : GatewaySession) :
    FleetTx GatewayProofTask := do
  let identity ← Tx.expect row.identity (.invalid "gateway identity missing")
  putSession (row.tasked now (nonce row.id))
  pure { releaseFinalizer := row.closed && !opened.any fun s => s.identity.any fun i => i.podUid == identity.podUid
         sessionId := row.id, nonce := nonce row.id, identity := identity, runtime := row.runtime
         closed := row.closed }

def proofTasks (now : Int) (nonce : String → String) (opened : List GatewaySession) :
    List GatewaySession → FleetTx (List GatewayProofTask)
  | [] => pure []
  | row :: rest => do
    let task ← proofTask now nonce opened row
    let tasks ← proofTasks now nonce opened rest
    pure (task :: tasks)

def gatewayProofTasks (authAt now : Int) (nonce : String → String) (id token : String) :
    FleetTx (List GatewayProofTask) := do
  let _ ← authenticated env authAt id token
  let rows ← Tx.read fun s => s.sessions.select fun r => r.gatewayClusterId == some id && !r.proofComplete
  let opened ← Tx.read fun s => s.sessions.select fun r => r.gatewayClusterId == some id && !r.closed
  proofTasks now nonce opened ((rows.insertionSort fun a b => a.deliveredAt ≤ b.deliveredAt).take 100)

/-! ## Proofs -/

inductive ProofOutcome where
  | bound
  | terminated
  | unknown
  | unbound
  | cleaned
  deriving DecidableEq

structure GatewayProof where
  sessionId : String
  nonce : String
  outcome : ProofOutcome
  runtime : Option GatewayRuntime
  deriving DecidableEq

def GatewayRuntime.wellFormed (r : GatewayRuntime) : Bool :=
  !r.containerId.isEmpty && decide (r.containerId.utf8ByteSize ≤ 256) && name r.node && bounded r.nodeUid

/-- A view of a terminated gateway: retired, with unknown work in flight. -/
def GatewayPoolView.orphan (sessionId : String) (v : GatewayPoolView) : GatewayPoolView :=
  if v.sessionId = sessionId then { v with retired := true, activeRequests := -1 } else v

@[simp] theorem GatewayPoolView.key_orphan (sessionId : String) (v : GatewayPoolView) :
    key (v.orphan sessionId) = key v := by
  unfold GatewayPoolView.orphan; split <;> rfl

def orphanViews (sessionId : String) : FleetTx Unit :=
  Tx.write fun s =>
    { s with views := s.views.mapRows (GatewayPoolView.orphan sessionId) (GatewayPoolView.key_orphan sessionId) }

/-- The session after its nonce has been used up. -/
def GatewaySession.answered (row : GatewaySession) : GatewaySession :=
  { row with proofNonce := none, proofUntil := none }

/-- The session of a gateway whose container has terminated. -/
def GatewaySession.terminated (row : GatewaySession) (now : Int) (proof : GatewayProof) : GatewaySession :=
  { row.answered with closed := true, proof := some ⟨now, proof.runtime⟩ }

/-- The session of a gateway that never served. -/
def GatewaySession.unbound (row : GatewaySession) : GatewaySession :=
  { row.answered with closed := true, proofComplete := true }

/-- What a proof of each outcome does to the session. -/
def proven (now : Int) (proof : GatewayProof) (row : GatewaySession) : FleetTx Unit :=
  match proof.outcome with
  | .bound => do
    let runtime ← Tx.expect proof.runtime (.invalid "container attestation missing")
    Tx.reject (row.closed ∨ ¬runtime.wellFormed) (.invalid "invalid container attestation")
    Tx.reject (row.runtime.any fun old => old != runtime) (.conflict "container attestation is immutable")
    putSession { row.answered with runtime := some runtime }
  | .terminated => do
    Tx.reject (row.runtime.isNone ∨ row.runtime ≠ proof.runtime)
      (.conflict "termination must match the attested container and node")
    if row.closed then putSession row.answered
    else do
      -- a stopped gateway cannot report provider usage: its work in flight stays unknown
      orphanViews row.id
      putSession (row.terminated now proof)
  | .unbound => do
    let views ← Tx.read fun s => s.views.select fun v => v.sessionId == row.id
    Tx.reject (row.runtime.isSome ∨ views ≠ []) (.conflict "gateway has granted traffic; termination evidence required")
    putSession row.unbound
  | .cleaned => do
    Tx.reject (row.closed = false) (.conflict "gateway is not retired")
    putSession { row.answered with proofComplete := true }
  | .unknown => putSession row.answered

def gatewayProof (authAt now : Int) (id token : String) (proof : GatewayProof) : FleetTx Unit := do
  let _ ← authenticated env authAt id token
  let row ← Tx.read fun s => s.sessions.get? proof.sessionId
  let row ← Tx.expect row .notFound
  Tx.reject (row.gatewayClusterId ≠ some id) .forbidden
  Tx.reject (row.proofNonce ≠ some proof.nonce ∨ row.proofUntil.all fun t => decide (t ≤ now))
    (.conflict "stale gateway proof")
  proven now proof row

/-! ## Idle evidence -/

/-- The latest termination time of the sessions of some views. -/
def latestTermination : Option Int → List GatewayPoolView → FleetTx (Option Int)
  | after, [] => pure after
  | after, v :: rest => do
    let row ← Tx.read fun s => s.sessions.get? v.sessionId
    let row ← Tx.expect row (.invalid "gateway evidence missing")
    let proof ← Tx.expect row.proof (.invalid "gateway termination time missing")
    latestTermination (some (after.elim proof.observedAt fun old => max old proof.observedAt)) rest

/-- The termination fence of a pool: idle evidence must be taken after it. -/
def idleAfter (poolId : String) : FleetTx (Option Int) := do
  let views ← Tx.read fun s => s.views.select fun v => v.poolId == poolId && decide (v.activeRequests < 0)
  latestTermination none views

/-- A view whose unknown work has been proven finished. -/
def GatewayPoolView.settle (poolId : String) (v : GatewayPoolView) : GatewayPoolView :=
  if v.poolId = poolId ∧ v.retired = true ∧ v.activeRequests < 0 then { v with activeRequests := 0 } else v

@[simp] theorem GatewayPoolView.key_settle (poolId : String) (v : GatewayPoolView) : key (v.settle poolId) = key v := by
  unfold GatewayPoolView.settle; split <;> rfl

def settleViews (poolId : String) : FleetTx Unit :=
  Tx.write fun s =>
    { s with views := s.views.mapRows (GatewayPoolView.settle poolId) (GatewayPoolView.key_settle poolId) }

def confirmIdle (pool : ManagedPool) : FleetTx Unit := do
  Tx.reject (pool.state ≠ .draining) (.conflict "provider idle evidence requires a closed pool")
  Tx.reject (pool.binding.trafficProtocol ≠ 2) (.conflict "orphan drain requires a v2 authorization-fenced entry")
  let fence ← idleAfter pool.id
  if fence = none then pure ()
  else settleViews pool.id

end Xscope.Fleet

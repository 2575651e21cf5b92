/-
Member clusters: credentials, desired states, and the delivery of the newest revision under a
lease. An acknowledgement is bound to the version, the digest and the lease it was delivered with.
-/
import Xscope.Fleet.ManagedPools

namespace Xscope.Fleet

variable (env : Env)

/-! ## Credentials -/

structure RegisterCluster where
  id : String
  nameSpace : String
  credentialDays : Int
  deriving DecidableEq

structure RotateCredential where
  expectedEpoch : Int
  credentialDays : Int
  deriving DecidableEq

/-- The stored digest of a fresh credential. -/
def credential (days : Int) (token : String) : FleetTx String := do
  Tx.reject (¬(1 ≤ days ∧ days ≤ 90)) (.invalid "cluster credentials expire in 1..90 days")
  pure (env.sha256 token)

def days (n : Int) : Int := seconds (n * 86400)

def registeredCluster (now : Int) (digest : String) (request : RegisterCluster) : MemberCluster :=
  { id := request.id, nameSpace := request.nameSpace, credentialHash := digest, credentialEpoch := 1
    expiresAt := now + days request.credentialDays, revokedAt := none, desiredVersion := 0, acknowledgedVersion := 0
    deliveryVersion := 0, deliveryLease := none, leaseUntil := none, heartbeatAt := none, lastError := none }

def registerCluster (now : Int) (token : String) (request : RegisterCluster) : FleetTx MemberCluster := do
  Tx.reject (¬name request.id ∨ ¬name request.nameSpace) (.invalid "invalid cluster identity or namespace")
  let digest ← credential env request.credentialDays token
  let old ← Tx.read fun s => s.clusters.get? request.id
  Tx.reject old.isSome (.conflict "cluster identity already exists")
  let t ← Tx.read fun s => s.clusters.insert? (registeredCluster now digest request)
  let t ← Tx.expect t .database
  Tx.write fun s => { s with clusters := t }
  pure (registeredCluster now digest request)

def MemberCluster.rotated (row : MemberCluster) (now epoch days : Int) (digest : String) : MemberCluster :=
  { row with
    credentialHash := digest, credentialEpoch := epoch, expiresAt := now + Fleet.days days, revokedAt := none
    deliveryLease := none, leaseUntil := none }

def rotateClusterCredential (now : Int) (token id : String) (request : RotateCredential) : FleetTx MemberCluster := do
  let digest ← credential env request.credentialDays token
  let row ← Tx.read fun s => s.clusters.get? id
  let row ← Tx.expect row .notFound
  Tx.reject (row.credentialEpoch ≠ request.expectedEpoch) (.conflict "cluster credential version changed")
  let epoch ← Tx.expect (checkedAdd row.credentialEpoch 1) (.invalid "credential epoch exhausted")
  putCluster (row.rotated now epoch request.credentialDays digest)
  pure (row.rotated now epoch request.credentialDays digest)

def MemberCluster.revoked (row : MemberCluster) (now : Int) : MemberCluster :=
  { row with revokedAt := some now, deliveryLease := none, leaseUntil := none }

def revokeCluster (now : Int) (id : String) : FleetTx Unit := do
  let row ← Tx.read fun s => s.clusters.get? id
  let row ← Tx.expect row .notFound
  if row.revokedAt = none then putCluster (row.revoked now)

/-! ## Desired states -/

structure DesiredState where
  expectedVersion : Int
  deployments : List DesiredDeployment
  deriving DecidableEq

/-- An item is a spec, or an explicit deletion of an observed object. -/
def DesiredDeployment.wellFormed (d : DesiredDeployment) : Bool :=
  Fleet.name d.name && d.expectedUid.all bounded &&
    match d.spec with
    | some spec => spec.isObject && d.deleteUid.isNone
    | none => d.expectedUid.isNone && d.deleteUid.any bounded

/-- At most a hundred well-formed items with unique names. -/
def DesiredState.wellFormed (r : DesiredState) : Bool :=
  r.deployments.all DesiredDeployment.wellFormed && decide (r.deployments.map (·.name)).Nodup

structure DesiredUpdated where
  version : Int
  sha256 : String
  deriving DecidableEq

/-- The pools of a cluster in the order of their ids. -/
def State.poolsOf (s : State) (id : String) : List ManagedPool :=
  (s.pools.select fun r => r.clusterId == id).insertionSort fun a b => a.id ≤ b.id

def putClusterDesired (now : Int) (actor id : String) (request : DesiredState) : FleetTx DesiredUpdated := do
  Tx.reject (request.expectedVersion < 0 ∨ 100 < request.deployments.length)
    (.invalid "invalid desired-state version or size")
  Tx.reject (request.wellFormed = false)
    (.invalid "desired deployments require unique names, specs, or explicit UID-bound deletion")
  Tx.reject (payloadLimit < (env.encode request.deployments).utf8ByteSize) (.invalid "desired state exceeds 256 KiB")
  let row ← Tx.read fun s => s.clusters.get? id
  let row ← Tx.expect row .notFound
  Tx.reject row.revokedAt.isSome (.conflict "cluster is revoked")
  Tx.reject (row.desiredVersion ≠ request.expectedVersion) (.conflict "desired state version changed; reload")
  let version ← Tx.expect (checkedAdd row.desiredVersion 1) (.invalid "desired version exhausted")
  let pools ← Tx.read fun s => s.poolsOf id
  let deployments ← guardDesired now version pools request.deployments
  Tx.reject (payloadLimit < (env.encode deployments).utf8ByteSize) (.invalid "desired state exceeds 256 KiB")
  insertRevision ⟨id, version, deployments, env.digest deployments, actor⟩
  -- an already delivered batch finishes or expires before a newer delivery
  putCluster { row with desiredVersion := version }
  pure ⟨version, env.digest deployments⟩

/-! ## Delivery -/

structure ClusterDelivery where
  clusterId : String
  nameSpace : String
  version : Int
  sha256 : String
  lease : String
  leaseSeconds : Nat
  deployments : List DesiredDeployment
  deriving DecidableEq

structure Polled where
  delivery : Option ClusterDelivery
  retryAfterSeconds : Nat
  deriving DecidableEq

def MemberCluster.delivery (row : MemberCluster) (revision : ClusterRevision) (lease : String) : ClusterDelivery :=
  { clusterId := row.id, nameSpace := row.nameSpace, version := revision.version, sha256 := revision.sha256
    lease := lease, leaseSeconds := 60, deployments := revision.payload }

def MemberCluster.leased (row : MemberCluster) (now : Int) (version : Int) (lease : String) : MemberCluster :=
  { row with
    heartbeatAt := some now, deliveryVersion := version, deliveryLease := some lease
    leaseUntil := some (now + seconds 60) }

/-- A lease of the cluster that has not run out. -/
def MemberCluster.busy (row : MemberCluster) (now : Int) : Bool := row.leaseUntil.any fun t => decide (now < t)

def pollCluster (authAt now : Int) (lease id token : String) : FleetTx Polled := do
  let row ← authenticated env authAt id token
  if row.busy now then pure ⟨none, 5⟩
  else if row.acknowledgedVersion < row.desiredVersion then do
    let revision ← Tx.read fun s => s.revisions.get? (id, row.desiredVersion)
    let revision ← Tx.expect revision (.conflict "desired revision missing")
    putCluster (row.leased now revision.version lease)
    pure ⟨some (row.delivery revision lease), 15⟩
  else do
    putCluster { row with heartbeatAt := some now }
    pure ⟨none, 15⟩

/-- How an applied or rejected delivery is reported. -/
inductive Outcome where
  | applied
  | rejected
  deriving DecidableEq

structure ClusterReport where
  version : Int
  sha256 : String
  lease : String
  outcome : Outcome
  errorCode : Option ErrorCode
  deriving DecidableEq

def MemberCluster.reported (row : MemberCluster) (now : Int) (report : ClusterReport) : MemberCluster :=
  { row with
    acknowledgedVersion := if report.outcome = .applied then report.version else row.acknowledgedVersion
    deliveryLease := none, leaseUntil := none, heartbeatAt := some now, lastError := report.errorCode }

structure Reported where
  duplicate : Bool
  deriving DecidableEq

def reportCluster (authAt now : Int) (id token : String) (report : ClusterReport) : FleetTx Reported := do
  Tx.reject ((report.outcome = .applied ∧ report.errorCode.isSome) ∨
    (report.outcome = .rejected ∧ report.errorCode.isNone))
    (.invalid "invalid cluster report")
  let row ← authenticated env authAt id token
  let revision ← Tx.read fun s => s.revisions.get? (id, report.version)
  let revision ← Tx.expect revision .notFound
  Tx.reject (revision.sha256 ≠ report.sha256) (.conflict "report digest differs from desired state")
  if row.acknowledgedVersion = report.version ∧ report.outcome = .applied then pure ⟨true⟩
  else do
    Tx.reject (row.deliveryVersion ≠ report.version ∨ row.deliveryLease ≠ some report.lease ∨ row.busy now = false ∨
        report.version < row.acknowledgedVersion)
      (.conflict "stale or expired cluster delivery")
    putCluster (row.reported now report)
    pure ⟨false⟩

end Xscope.Fleet

/-
Durable actuation of scaling recommendations. The recommendation never writes a deployment; it
only moves the recorded operation of a pool through draining and applying.
-/
import Xscope.Fleet.Schema

namespace Xscope.Fleet

variable (env : Env)

structure ScaleEvidence where
  uid : String
  resourceVersion : String
  replicas : Int
  appliedReplicas : Int
  deriving DecidableEq

/-- `deployments` with the item in place of the first one of its name. -/
def replaceItem (item : DesiredDeployment) : List DesiredDeployment → List DesiredDeployment
  | [] => []
  | d :: rest => if d.name = item.name then item :: rest else d :: replaceItem item rest

/-- `deployments` with the item in place of the first one of its name, or at the end. -/
def upsertItem (item : DesiredDeployment) (deployments : List DesiredDeployment) : List DesiredDeployment :=
  if deployments.any fun d => d.name == item.name then replaceItem item deployments else deployments ++ [item]

/-- The digest of a payload. -/
def Env.digest (payload : List DesiredDeployment) : String := env.sha256 (env.encode payload)

/-- The pool after a new number of replicas was written for it. A decrease closes the pool until
the new revision has been applied. -/
def ManagedPool.rescaled (row : ManagedPool) (now version generation fromReplicas target : Int)
    (spec : Json) (up : Bool) :
    ManagedPool :=
  { row with
    expectedSpec := spec, desiredVersion := version, observationNonce := none, observationUntil := none
    scaleOperation := some ⟨.applying, target, fromReplicas, row.desiredVersion, up⟩
    state := if up then row.state else .drained, readyUntil := if up then row.readyUntil else none
    generation := generation, updatedAt := now }

/-- `apply`: a new revision in which the deployment of the pool has `target` replicas. -/
def apply (now : Int) (cluster : MemberCluster) (row : ManagedPool) (fromReplicas target : Int)
    (up : Bool) : FleetTx Bool :=
  if cluster.desiredVersion ≠ cluster.acknowledgedVersion then pure false
  else do
    let uid ← Tx.expect row.deploymentUid (.conflict "deployment UID evidence missing")
    let previous ← Tx.read fun s => s.revisions.get? (cluster.id, cluster.desiredVersion)
    let previous ← Tx.expect previous (.conflict "desired revision missing")
    -- assigning into a spec that is not an object panics
    let spec ← Tx.expect (row.expectedSpec.set "replicas" (.int target)) (.internal "spec is not an object")
    let payload := upsertItem ⟨row.deployment, some spec, none, some uid⟩ previous.payload
    Tx.reject (payloadLimit < (env.encode payload).utf8ByteSize) (.invalid "scale payload too large")
    let version ← Tx.expect (checkedAdd cluster.desiredVersion 1) (.invalid "desired version exhausted")
    insertRevision ⟨cluster.id, version, payload, env.digest payload, "keda"⟩
    putCluster { cluster with desiredVersion := version }
    let generation ← if up then pure row.generation
      else Tx.expect (checkedAdd row.generation 1) (.invalid "pool generation exhausted")
    putPool (row.rescaled now version generation fromReplicas target spec up)
    pure true

/-- The pool at the end of an operation: open again. -/
def ManagedPool.reopened (row : ManagedPool) (generation : Int) : ManagedPool :=
  { row with scaleOperation := none, state := .active, generation := generation }

/-- The pool at the start of a decrease. -/
def ManagedPool.shrinking (row : ManagedPool) (generation current target : Int) : ManagedPool :=
  { row with
    scaleOperation := some ⟨.draining, target, current, row.desiredVersion, false⟩, state := .draining
    generation := generation }

/-- An operation whose revision is being applied completes when it is seen to be. -/
def complete (cluster : MemberCluster) (row : ManagedPool) (op : Operation) (applied : Int)
    (ready : Bool) : FleetTx Bool :=
  if ready = true ∧ applied = op.target ∧ row.desiredVersion ≤ cluster.acknowledgedVersion then
    if op.up then do
      putPool { row with scaleOperation := none }
      pure false
    else do
      let generation ← Tx.expect (checkedAdd row.generation 1) (.invalid "pool generation exhausted")
      putPool (row.reopened generation)
      pure false
  else pure false

/-- A draining decrease is cancelled when demand recovers, and applied when the pool is drained. -/
def drain (now : Int) (cluster : MemberCluster) (row : ManagedPool) (op : Operation) (evidence : ScaleEvidence)
    (current : Int) (ready : Bool) : FleetTx Bool := do
  Tx.reject (row.state ≠ .draining ∨ op.phase ≠ .draining) (.conflict "scaling operation state changed")
  if current ≤ evidence.replicas ∧ ready = true then do
    let generation ← Tx.expect (checkedAdd row.generation 1) (.invalid "pool generation exhausted")
    putPool (row.reopened generation)
    pure false
  else do
    let participants ← Tx.read fun s => s.viewsOf row.id
    if participants.any (fun v => v.blocks row.generation) ∨ ready = false then pure false
    else apply env now cluster row current evidence.replicas false

/-- A recommendation for a pool without an operation. -/
def start (now : Int) (cluster : MemberCluster) (row : ManagedPool) (evidence : ScaleEvidence) (current : Int)
    (ready : Bool) :
    FleetTx Bool :=
  if row.state ≠ .active ∨ ready = false ∨ evidence.replicas = current then pure false
  else if current < evidence.replicas then apply env now cluster row current evidence.replicas true
  else do
    let generation ← Tx.expect (checkedAdd row.generation 1) (.invalid "pool generation exhausted")
    putPool (row.shrinking generation current evidence.replicas)
    pure false

/-- The bounds of a recommendation, with the source's defaults. -/
def minReplicas (spec : Json) : Int := (((spec.get "autoscaling").get "minReplicas").asI64).getD 1
def maxReplicas (spec : Json) : Int := (((spec.get "autoscaling").get "maxReplicas").asI64).getD 0

/-- A recommendation with bounded names and a number of replicas in the range of the spec. -/
def ScaleEvidence.inRange (evidence : ScaleEvidence) (spec : Json) : Bool :=
  bounded evidence.uid && bounded evidence.resourceVersion && decide (minReplicas spec ≤ evidence.replicas) &&
    decide (evidence.replicas ≤ maxReplicas spec)

/-- `i32::try_from` on the recorded replicas. -/
def currentReplicas (spec : Json) : Option Int := (replicas spec).filter fun v => decide (-i32Max - 1 ≤ v ∧ v ≤ i32Max)

/-- The operation of a pool that is being applied. -/
def ManagedPool.applying (row : ManagedPool) : Option Operation :=
  row.scaleOperation.filter fun op => op.phase == .applying

def reconcile (now : Int) (cluster : MemberCluster) (row : ManagedPool) (evidence : Option ScaleEvidence)
    (applied : Int) (ready : Bool) : FleetTx Bool :=
  if managedScaling row.expectedSpec = false then pure false
  else match row.applying with
  | some op => complete cluster row op applied ready
  | none => match evidence with
    | none => pure false
    | some evidence => do
      Tx.reject (evidence.inRange row.expectedSpec = false) (.invalid "invalid KEDA recommendation evidence")
      let current ← Tx.expect (currentReplicas row.expectedSpec) (.invalid "stored replica count invalid")
      match row.scaleOperation with
      | some op => drain env now cluster row op evidence current ready
      | none => start env now cluster row evidence current ready

end Xscope.Fleet

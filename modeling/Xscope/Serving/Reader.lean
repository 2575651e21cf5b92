/-
The gateway's side of a snapshot: it is decoded and validated as a whole, and the grant in it is
installed only if it follows the one before.
-/
import Xscope.Serving.Plane

namespace Xscope.Serving

open Fleet

/-! ## The catalog -/

/-- The entries of a catalog, with the names before them; the names of all. -/
def validateModels (names : List String) : List CatalogModel → Except String (List String)
  | [] => .ok names
  | entry :: rest => do
    entry.model.validate
    if entry.revision ≤ 0 ∨ entry.model.id ∈ names ∨ entry.defaultPool.any fun id => !Catalog.identifier id then
      .error "invalid or duplicate catalog model"
    else validateModels (entry.model.id :: names) rest

def validateEndpoints (models ids : List String) : List ServingEndpoint → Except String Unit
  | [] => .ok ()
  | endpoint :: rest => do
    endpoint.validate
    if endpoint.model ∉ models ∨ endpoint.id ∈ ids then .error "duplicate endpoint or unregistered model"
    else validateEndpoints models (endpoint.id :: ids) rest

def CatalogSnapshot.validate (catalog : CatalogSnapshot) : Except String Unit := do
  let models ← validateModels [] catalog.models
  validateEndpoints models [] catalog.endpoints

/-! ## Keys -/

inductive SnapshotError where
  | invalidRoutePolicy
  | invalidCatalog
  | invalidTraffic
  | request
  | invalidDigest (key : String)
  deriving DecidableEq

/-- A key as the gateway holds it; the limits are unsigned. -/
structure Credential where
  apiKeyId : String
  tenantId : String
  projectId : String
  routePolicies : List RoutePolicy
  scopes : List String
  allowedModels : List String
  rateLimitRpm : Nat
  rateLimitTpm : Nat
  monthlyBudgetAmount : Int
  currentMonthSpendAmount : Int
  balanceEnforced : Bool
  availableBalanceAmount : Int
  secretHash : Digest
  expiresAt : Option Int

/-- The unsigned fields of the answer are not negative. -/
def decodes (snapshot : GatewaySnapshot) : Bool :=
  (snapshot.keys.all fun key => decide (0 ≤ key.rateLimitRpm) && decide (0 ≤ key.rateLimitTpm)) &&
    snapshot.traffic.all fun grant => decide (0 ≤ grant.leaseSeconds)

/-- The policies, with the identities before them. -/
def validatePolicies (identities : List (String × String × String)) : List RoutePolicy → Except SnapshotError Unit
  | [] => .ok ()
  | policy :: rest =>
    if policy.revision ≤ 0 ∨ policy.spec.validate ≠ .ok () ∨
      (policy.tenantId, policy.projectId, policy.model) ∈ identities then
      .error .invalidRoutePolicy
    else validatePolicies ((policy.tenantId, policy.projectId, policy.model) :: identities) rest

def credential (policies : List RoutePolicy) (key : GatewayKey) : Except SnapshotError Credential :=
  if h : key.secretHash.length = 32 then
    .ok
      { apiKeyId := key.id, tenantId := key.tenantId, projectId := key.projectId
        routePolicies := policies.filter fun p => p.tenantId = key.tenantId && p.projectId = key.projectId
        scopes := key.scopes, allowedModels := key.allowedModels
        rateLimitRpm := key.rateLimitRpm.toNat, rateLimitTpm := key.rateLimitTpm.toNat
        monthlyBudgetAmount := key.monthlyBudget.amount, currentMonthSpendAmount := key.currentMonthSpend.amount
        balanceEnforced := key.balanceEnforced, availableBalanceAmount := key.availableBalance.amount
        secretHash := ⟨key.secretHash, h⟩, expiresAt := key.expiresAt }
  else .error (.invalidDigest key.id)

/-- `KeySet::from_snapshot`. -/
def fromSnapshot (snapshot : GatewaySnapshot) : Except SnapshotError (List Credential) :=
  match snapshot.catalog.validate with
  | .error _ => .error .invalidCatalog
  | .ok () => do
    validatePolicies [] snapshot.routePolicies
    snapshot.keys.mapM (credential snapshot.routePolicies)

/-- What the gateway makes of an answer. -/
def receive (snapshot : GatewaySnapshot) : Except SnapshotError (List Credential) :=
  if decodes snapshot = true then fromSnapshot snapshot else .error .request

/-! ## Grants -/

/-- The traffic gate of one gateway incarnation. -/
structure Traffic where
  sessionId : String
  snapshot : Option TrafficSnapshot
  deadline : Option Int
  active : List (String × Nat)
  closed : Bool

def Traffic.new (sessionId : String) : Traffic := ⟨sessionId, none, none, [], false⟩

/-- The pools of a grant, with the ids before them. -/
def validateControls (ids : List String) : List PoolControl → Except String Unit
  | [] => .ok ()
  | pool :: rest =>
    if managed pool.id = false ∨ pool.generation ≤ 0 ∨ pool.id ∈ ids then .error "invalid traffic pool"
    else validateControls (pool.id :: ids) rest

/-- A grant that has every pool of the previous one, at no earlier generation. -/
def keepsPools (previous snapshot : TrafficSnapshot) : Bool :=
  previous.pools.all fun old => snapshot.pools.any fun p => p.id = old.id && decide (old.generation ≤ p.generation)

/-- The counters with one for each pool of the grant. -/
def countPools (active : List (String × Nat)) (pools : List PoolControl) : List (String × Nat) :=
  active ++ (pools.filter fun p => (active.lookup p.id).isNone).map fun p => (p.id, 0)

variable (env : Fleet.Env)

/-- The largest grant a gateway takes. -/
def poolLimit : Nat := 10000

def Traffic.install (t : Traffic) (snapshot : TrafficSnapshot) (fetchedAt : Int) : Except String Traffic :=
  if snapshot.sessionId ≠ t.sessionId ∨ snapshot.sequence ≤ 0 ∨ snapshot.leaseSeconds ≠ leaseSeconds ∨
      env.isUuid snapshot.nonce = false ∨ poolLimit < snapshot.pools.length then .error "invalid traffic grant"
  else do
    validateControls [] snapshot.pools
    if t.snapshot.any fun previous => decide (snapshot.sequence ≤ previous.sequence) then .error "stale traffic grant"
    else if t.snapshot.all fun previous => keepsPools previous snapshot then
      .ok { t with
        snapshot := some snapshot, deadline := some (fetchedAt + seconds leaseSeconds)
        active := countPools t.active snapshot.pools }
    else .error "traffic grant removed or rewound a participant"

/-- Grants installed one after the other, each fetched at its time. -/
def Traffic.installAll (fetchedAt : TrafficSnapshot → Int) : List TrafficSnapshot → Traffic → Except String Traffic
  | [], t => .ok t
  | grant :: rest, t => match t.install env grant (fetchedAt grant) with
    | .ok t => installAll fetchedAt rest t
    | .error message => .error message

end Xscope.Serving

/-
The operations on clusters, pools and gateways, as one type: a run of the control plane is a
sequence of these, each one transaction. An operation that fails changes nothing.
-/
import Xscope.Fleet.Traffic

namespace Xscope.Fleet

inductive Op where
  | registerCluster (now : Int) (token : String) (request : RegisterCluster)
  | rotateCredential (now : Int) (token id : String) (request : RotateCredential)
  | revokeCluster (now : Int) (id : String)
  | putDesired (now : Int) (actor id : String) (request : DesiredState)
  | pollDelivery (authAt now : Int) (lease id token : String)
  | reportDelivery (authAt now : Int) (id token : String) (report : ClusterReport)
  | bindPool (now : Int) (id : String) (request : PoolBinding) (legacy : List RoutePool)
  | poolTransition (now : Int) (id : String) (expected : Int) (action : String)
  | observationTasks (authAt now : Int) (nonce : String → String) (id token : String)
  | observePool (authAt now : Int) (id token : String) (report : PoolObservation)
  | trafficSnapshot (wallAt now : Int) (nonce token id : String) (identity : Option GatewayIdentity)
  | authorizeServing (wallAt : Int) (headers : ServingHeaders)
  | trafficReport (now : Int) (report : TrafficReport)
  | gatewayProofTasks (authAt now : Int) (nonce : String → String) (id token : String)
  | gatewayProof (authAt now : Int) (id token : String) (proof : GatewayProof)
  /-- The catalog and the legacy entries are written elsewhere. -/
  | writeCatalog (catalog : Table CatalogRow) (endpoints : Table ServingEndpointRow)

variable (env : Env)

/-- The state after an operation, whether or not it succeeded. -/
def Op.run (op : Op) (s : State) : State := match op with
  | .registerCluster now token request => (Tx.commit (Fleet.registerCluster env now token request) s).2
  | .rotateCredential now token id request => (Tx.commit (rotateClusterCredential env now token id request) s).2
  | .revokeCluster now id => (Tx.commit (Fleet.revokeCluster now id) s).2
  | .putDesired now actor id request => (Tx.commit (putClusterDesired env now actor id request) s).2
  | .pollDelivery authAt now lease id token => (Tx.commit (pollCluster env authAt now lease id token) s).2
  | .reportDelivery authAt now id token report => (Tx.commit (reportCluster env authAt now id token report) s).2
  | .bindPool now id request legacy => (Tx.commit (Fleet.bindPool now id request legacy) s).2
  | .poolTransition now id expected action => (Tx.commit (Fleet.poolTransition now id expected action) s).2
  | .observationTasks authAt now nonce id token =>
    (Tx.commit (Fleet.observationTasks env authAt now nonce id token) s).2
  | .observePool authAt now id token report => (Tx.commit (Fleet.observePool env authAt now id token report) s).2
  | .trafficSnapshot wallAt now nonce token id identity =>
    (Tx.commit (Fleet.trafficSnapshot env wallAt now nonce token id identity) s).2
  | .authorizeServing wallAt headers => (Tx.commit (Fleet.authorizeServing env wallAt headers) s).2
  | .trafficReport now report => (Tx.commit (Fleet.trafficReport env now report) s).2
  | .gatewayProofTasks authAt now nonce id token =>
    (Tx.commit (Fleet.gatewayProofTasks env authAt now nonce id token) s).2
  | .gatewayProof authAt now id token proof => (Tx.commit (Fleet.gatewayProof env authAt now id token proof) s).2
  | .writeCatalog catalog endpoints => { s with catalog := catalog, endpoints := endpoints }

/-- The state after a sequence of operations. -/
def Op.runAll (ops : List Op) (s : State) : State := ops.foldl (fun s op => op.run env s) s

/-- The states a run from the empty tables passes through. -/
def Reachable (s : State) : Prop := ∃ ops, s = Op.runAll env ops State.empty

theorem Op.runAll_append (before after : List Op) (s : State) :
    Op.runAll env (before ++ after) s = Op.runAll env after (Op.runAll env before s) := List.foldl_append

/-- What the empty tables satisfy and every operation keeps holds in every reachable state. -/
theorem Reachable.of_step {P : State → Prop} (start : P State.empty)
    (step : ∀ (op : Op) s, P s → P (op.run env s)) {s : State} (h : Reachable env s) : P s := by
  obtain ⟨ops, rfl⟩ := h
  suffices ∀ s, P s → P (Op.runAll env ops s) from this _ start
  induction ops with
  | nil => exact fun _ hs => hs
  | cons op ops ih => exact fun s hs => ih _ (step op s hs)

theorem Reachable.empty : Reachable env State.empty := ⟨[], rfl⟩

theorem Reachable.run {s : State} (h : Reachable env s) (op : Op) : Reachable env (op.run env s) := by
  obtain ⟨ops, rfl⟩ := h
  exact ⟨ops ++ [op], by rw [Op.runAll_append]; rfl⟩

theorem Reachable.runAll {s : State} (h : Reachable env s) (ops : List Op) : Reachable env (Op.runAll env ops s) := by
  obtain ⟨before, rfl⟩ := h
  exact ⟨before ++ ops, (Op.runAll_append env before ops _).symm⟩

end Xscope.Fleet

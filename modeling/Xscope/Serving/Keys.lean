/-
Who a gateway lets in. Keys are issued and revoked at the console; a gateway fetches them with its snapshots,
one after the other, and keeps the last set it could read. A key that it lets in carries what the console
issued, and a revoked key is out as soon as two refreshes have come through.
-/
import Xscope.Serving.Snapshots

namespace Xscope.Serving

open Fleet

-- the instance of a transaction is as large as the transaction
set_option synthInstance.maxSize 20000

/-! ## Authentication -/

/-- The secret of an `Authorization` header. -/
def bearer (authorization : Option String) : Option String :=
  authorization.bind fun value =>
    if "Bearer ".toList.isPrefixOf value.toList then some (String.ofList (value.toList.drop "Bearer ".length)) else none

/-- The first credential that has not expired and has the digest of the secret. -/
def authenticate (sha256 : String → Digest) (credentials : List Credential) (now : Int)
    (authorization : Option String) : Option Credential :=
  (bearer authorization).bind fun secret =>
    credentials.find? fun c => (c.expiresAt.all fun expiry => decide (now < expiry)) &&
      decide (c.secretHash = sha256 secret)

/-- The keys of one gateway and its traffic gate, the answer that is on its way to it, and the number of answers
it has taken. -/
structure DynamicKeySet where
  current : List Credential
  traffic : Traffic
  answer : Option GatewaySnapshot
  fetchedAt : Int
  refreshes : Nat

variable (env : Fleet.Env) in
/-- The keys and the gate after an answer. The keys are replaced only with a grant that the gate takes. -/
def DynamicKeySet.refreshed (k : DynamicKeySet) (snapshot : GatewaySnapshot) :
    Except SnapshotError (List Credential × Traffic) :=
  match receive snapshot with
  | .error e => .error e
  | .ok validated => match snapshot.traffic with
    | none => .ok (validated, k.traffic)
    | some grant => match k.traffic.install env grant k.fetchedAt with
      | .error _ => .error .invalidTraffic
      | .ok traffic => .ok (validated, traffic)

variable (env : Fleet.Env) in
/-- The rest of a turn of `spawn_refresh`: an answer that is refused leaves the keys as they are. -/
def DynamicKeySet.take (k : DynamicKeySet) : DynamicKeySet := match k.answer with
  | none => k
  | some snapshot => match k.refreshed env snapshot with
    | .error _ => { k with answer := none }
    | .ok (validated, traffic) => { k with current := validated, traffic, answer := none, refreshes := k.refreshes + 1 }

/-- The control plane and its gateways. -/
structure Doors where
  plane : Plane
  gateways : Nat → DynamicKeySet

/-- A step of the control plane, or of a gateway: it asks for a snapshot once it is through with the one before,
takes the answer, or gives up on it. -/
inductive Turn (env : Fleet.Env) where
  | plane (step : Step env)
  | fetch (gateway : Nat) (instant : Int) (step : Step env)
  | arrive (gateway : Nat)
  | lose (gateway : Nat)

section

variable {env : Fleet.Env} (digests : Digests) (secretHash : String → Digest)

def Doors.set (d : Doors) (gateway : Nat) (k : DynamicKeySet) : Doors :=
  { d with gateways := fun g => if g = gateway then k else d.gateways g }

def Turn.run (d : Doors) : Turn env → Doors
  | .plane step => { d with plane := (step.exec digests secretHash d.plane).2 }
  | .fetch gateway instant step =>
    if (d.gateways gateway).answer.isSome then d
    else
      let answered := step.exec digests secretHash d.plane
      { d with plane := answered.2 }.set gateway { d.gateways gateway with answer := answered.1, fetchedAt := instant }
  | .arrive gateway => d.set gateway ((d.gateways gateway).take env)
  | .lose gateway => d.set gateway { d.gateways gateway with answer := none }

def Turn.runAll (turns : List (Turn env)) (d : Doors) : Doors :=
  turns.foldl (fun d turn => turn.run digests secretHash d) d

end

/-! ## Keys at the console -/

/-- Keys stay as they were issued: a revocation is all that is written to them, once. -/
structure KeysKept (db db' : Db) : Prop where
  keys : ∀ id row, db.books.apiKeys.get? id = some row → ∃ revokedAt, db'.books.apiKeys.get? id =
    some { row with revokedAt } ∧
    (row.revokedAt.isSome → revokedAt = row.revokedAt)

theorem KeysKept.of_eq {db db' : Db} (h : db'.books.apiKeys = db.books.apiKeys) : KeysKept db db' :=
  ⟨fun id row found => ⟨row.revokedAt, by rw [h]; exact found, fun _ => rfl⟩⟩

instance : IsPreorder Db KeysKept where
  refl _ := .of_eq rfl
  trans _ _ _ h h' := by
    refine ⟨fun id row found => ?_⟩
    obtain ⟨revokedAt, found', once⟩ := h.keys id row found
    obtain ⟨revokedAt', found'', once'⟩ := h'.keys id _ found'
    refine ⟨revokedAt', found'', fun revoked => ?_⟩
    rw [once' (by show revokedAt.isSome = true; rw [once revoked]; exact revoked)]
    exact once revoked

instance : Slot.projects.Kept KeysKept := ⟨fun _ _ => .of_eq rfl⟩

instance : Slot.catalog.Kept KeysKept := ⟨fun _ _ => .of_eq rfl⟩

instance : Slot.prices.Kept KeysKept := ⟨fun _ _ => .of_eq rfl⟩

instance : Frame KeysKept where
  accounts := ⟨fun _ _ => .of_eq rfl⟩
  reservations := ⟨fun _ _ => .of_eq rfl⟩
  usageEvents := ⟨fun _ _ => .of_eq rfl⟩
  transactions := ⟨fun _ _ => .of_eq rfl⟩
  entries := ⟨fun _ _ => .of_eq rfl⟩
  orders := ⟨fun _ _ => .of_eq rfl⟩
  payments := ⟨fun _ _ => .of_eq rfl⟩
  refunds := ⟨fun _ _ => .of_eq rfl⟩
  checkouts := ⟨fun _ _ => .of_eq rfl⟩
  receipts := ⟨fun _ _ => .of_eq rfl⟩
  reviews := ⟨fun _ _ => .of_eq rfl⟩
  reviewAudits := ⟨fun _ _ => .of_eq rfl⟩
  balances := ⟨fun _ _ => .of_eq rfl⟩
  keyHolds := ⟨fun _ _ => .of_eq rfl⟩
  monthSpends := ⟨fun _ _ => .of_eq rfl⟩
  appendEvent call account kind aggregate payload db _ db' h := by
    obtain ⟨o, rfl, -⟩ := appendEvent_ok h
    exact .of_eq rfl

section Registry

variable {now : Int} {id : String}

instance {request : ApiKeyRequest} : Keeping KeysKept (storeApiKey now request) := by
  refine ⟨fun db _ db' h => ?_⟩
  unfold storeApiKey at h
  obtain ⟨_, t, h1, h2⟩ := Tx.bind_ok.1 h
  obtain ⟨u, -, he⟩ := checkDomain_ok.1 h1
  cases he
  simp only [insertRow_bind, Tx.pure_ok] at h2
  obtain ⟨-, ks, hi, he⟩ := h2
  cases he
  exact ⟨fun id row found => ⟨row.revokedAt, Table.get?_insert?_old hi found, fun _ => rfl⟩⟩

instance {request : ApiKeyRequest} : Keeping KeysKept (issueApiKey now request) := by
  unfold issueApiKey
  dsimp only
  infer_instance

instance : Keeping KeysKept (revokeApiKey now id) := by
  refine ⟨fun db _ db' h => ?_⟩
  unfold revokeApiKey at h
  simp only [findById_bind, Tx.expect_bind, updateRow_ok] at h
  obtain ⟨row, found, he⟩ := h
  cases he
  obtain ⟨stored, active⟩ := Option.filter_eq_some_iff.1 found
  have own : row.id = id := Table.get?_key stored
  refine ⟨fun id' row' found' => ?_⟩
  by_cases same : id' = id
  · subst same
    cases Option.some.inj (stored.symm.trans found')
    refine ⟨some now, Table.get?_put_at own stored _ |>.trans (if_pos rfl), fun revoked => ?_⟩
    rw [Option.isNone_iff_eq_none] at active
    rw [active] at revoked
    cases revoked
  · exact ⟨row'.revokedAt, (Table.get?_put_of_ne fun he => same (he.symm.trans own)).trans found', fun _ => rfl⟩

theorem keysKept (digests : Digests) (op : Xscope.Op) (db : Db) : KeysKept db (op.run digests db) := by
  refine op.keeps digests db fun registry => ?_
  cases op with
  | createProject value => exact Keeping.commit _ db
  | bootstrapCatalog => exact Keeping.commit _ db
  | putModel id request => exact Keeping.commit _ db
  | issueApiKey now request => exact Keeping.commit _ db
  | storeApiKey now request => exact Keeping.commit _ db
  | revokeApiKey now id => exact Keeping.commit _ db
  | _ => cases registry

end Registry

/-! ## What a step leaves of the keys -/

section Steps

variable {env : Fleet.Env} {digests : Digests} {secretHash : String → Digest} {now : Int} {p q : Plane}

def PlaneKept (p q : Plane) : Prop := KeysKept p.db q.db

instance : IsPreorder Plane PlaneKept where
  refl p := refl_of KeysKept p.db
  trans _ _ _ h h' := trans_of KeysKept h h'

theorem onFleet_kept {α : Type} (x : FleetTx α) : Tx.Within PlaneKept (onFleet x) := by
  intro p a q h
  unfold onFleet at h
  cases hx : x p.state with
  | error e => rw [hx] at h; cases h
  | ok r =>
    rw [hx] at h
    cases h
    exact .of_eq rfl

theorem putRoutePolicy_kept (project : Project) (model : String) (request : PutRoutePolicy) (pools : List RoutePool)
    (actor operation : String) :
    Tx.Within PlaneKept (putRoutePolicy project model request pools actor operation) := by
  unfold putRoutePolicy
  split
  · exact Tx.within_fail _
  · refine Tx.within_bind (onFleet_kept _) fun _ => Tx.within_bind (Tx.within_reject _ _) fun _ =>
      Tx.within_bind ?_ fun _ =>
      Tx.within_bind (Tx.within_read _) fun _ => Tx.within_bind (Tx.within_expect _ _) fun _ =>
      Tx.within_bind (Tx.within_write fun p => refl_of PlaneKept p) fun _ => Tx.within_pure _
    unfold storePolicy
    split
    · exact Tx.within_bind (Tx.within_read _) fun _ => Tx.within_bind (Tx.within_expect _ _) fun _ =>
        Tx.within_write fun p => refl_of PlaneKept p
    · exact Tx.within_bind (Tx.within_read _) fun _ => Tx.within_bind (Tx.within_reject _ _) fun _ =>
        Tx.within_write fun p => refl_of PlaneKept p

theorem getProject_kept (id : String) : Tx.Within PlaneKept (getProject id) :=
  Tx.within_bind (Tx.within_read _) fun _ => Tx.within_expect _ _

theorem nextSpec_kept (project model : String) (spec : RoutePolicySpec) (action : ReleaseAction) :
    Tx.Within PlaneKept (nextSpec project model spec action) := by
  cases action with
  | pause expected => exact Tx.within_pure _
  | promote expected =>
    simp only [nextSpec]
    split
    · exact Tx.within_pure _
    · exact Tx.within_fail _
  | rollback expected target =>
    exact Tx.within_bind (Tx.within_reject _ _) fun _ => Tx.within_bind (Tx.within_read _) fun _ =>
      Tx.within_bind (Tx.within_expect _ _) fun _ => Tx.within_pure _

theorem releaseAction_kept (project : Project) (model : String) (action : ReleaseAction) (pools : List RoutePool)
    (actor : String) :
    Tx.Within PlaneKept (releaseAction project model action pools actor) :=
  Tx.within_bind (Tx.within_read _) fun _ => Tx.within_bind (Tx.within_expect _ _) fun _ =>
    Tx.within_bind (Tx.within_reject _ _) fun _ =>
    Tx.within_bind (nextSpec_kept _ _ _ _) fun _ => putRoutePolicy_kept _ _ _ _ _ _

theorem commit_kept {α : Type} {x : PlaneTx α} (h : Tx.Within PlaneKept x) (p : Plane) :
    PlaneKept p (Tx.commit x p).2 :=
  Session.within_commit h p

/-! ## The keys of a snapshot -/

/-- What a snapshot says of a key. -/
structure Carries (secretHash : String → Digest) (row : ApiKey) (key : GatewayKey) : Prop where
  id : key.id = row.id
  tenant : key.tenantId = row.tenantId
  project : key.projectId = row.projectId
  secret : key.secretHash = (secretHash row.id).1
  scopes : key.scopes = row.scopes
  models : key.allowedModels = row.allowedModels
  expires : key.expiresAt = row.expiresAt
  rpm : key.rateLimitRpm = row.rateLimitRpm
  tpm : key.rateLimitTpm = row.rateLimitTpm
  budget : key.monthlyBudget.amount = row.monthlyBudgetAmount

theorem gatewayKey_carries {row : ApiKey} {key : GatewayKey} {db db' : Db}
    (h : gatewayKey secretHash now row db = (.ok key, db')) :
    Carries secretHash row key := by
  unfold gatewayKey at h
  obtain ⟨balance, q, -, h⟩ := Session.bind_ok h
  obtain ⟨spent, q', -, h⟩ := Session.bind_ok h
  cases h
  constructor <;> rfl

theorem gatewayKeys_carries : ∀ {rows : List ApiKey} {keys : List GatewayKey} {db db' : Db},
    gatewayKeys secretHash now rows db = (.ok keys, db') → ∀ key ∈ keys, ∃ row ∈ rows, Carries secretHash row key := by
  intro rows
  induction rows with
  | nil =>
    intro keys db db' h key hk
    cases h
    cases hk
  | cons row rest ih =>
    intro keys db db' h key hk
    obtain ⟨first, q, hf, h⟩ := Session.bind_ok h
    obtain ⟨others, q', ho, h⟩ := Session.bind_ok h
    cases h
    rcases List.mem_cons.1 hk with rfl | hk
    · exact ⟨row, List.mem_cons_self .., gatewayKey_carries hf⟩
    · obtain ⟨row', hrow', carries⟩ := ih ho key hk
      exact ⟨row', List.mem_cons_of_mem _ hrow', carries⟩

/-- Every key of the snapshot is one of the plane's, and not revoked there. -/
def Lists (secretHash : String → Digest) (p : Plane) (snapshot : GatewaySnapshot) : Prop :=
  ∀ key ∈ snapshot.keys, ∃ row, p.db.books.apiKeys.get? row.id = some row ∧ row.revokedAt = none ∧
    Carries secretHash row key

theorem gatewaySnapshot_kept (p : Plane) : PlaneKept p (gatewaySnapshot secretHash now p).2 := by
  have within : Session.Within PlaneKept (gatewaySnapshot secretHash now) := by
    unfold gatewaySnapshot
    refine Session.within_bind (Session.within_commit (Tx.within_read _)) fun rows => ?_
    refine Session.within_bind (fun p => gatewayKeys_keeps (R := KeysKept) rows p.db) fun keys => ?_
    refine Session.within_bind (Session.within_commit ?_) fun policies => ?_
    · exact Tx.within_bind (Tx.within_read _) fun rows => Tx.within_bind (Tx.within_read _) fun projects =>
        Tx.within_expect _ _
    · exact Session.within_bind (Session.within_commit (Tx.within_read _)) fun catalog => Session.within_pure _
  exact within p

theorem gatewaySnapshot_lists {snapshot : GatewaySnapshot} (h : gatewaySnapshot secretHash now p = (.ok snapshot, q)) :
    Lists secretHash p snapshot := by
  unfold gatewaySnapshot at h
  obtain ⟨rows, p₁, read, h⟩ := Session.bind_ok h
  obtain ⟨keys, p₂, made, h⟩ := Session.bind_ok h
  obtain ⟨policies, p₃, -, h⟩ := Session.bind_ok h
  obtain ⟨catalog, p₄, -, h⟩ := Session.bind_ok h
  cases h
  cases read
  intro key hk
  have answered : (gatewayKeys secretHash now (activeKeys now p.db) p.db).1 = .ok keys := congrArg Prod.fst made
  obtain ⟨row, hr, carries⟩ := gatewayKeys_carries (Prod.ext answered rfl) key hk
  obtain ⟨there, active⟩ := List.mem_filter.1 ((List.perm_insertionSort _ _).mem_iff.1 hr)
  unfold activeKey at active
  rw [Bool.and_eq_true, Option.isNone_iff_eq_none] at active
  exact ⟨row, Table.get?_of_mem there, active.1, carries⟩

theorem trafficSnapshot_kept (wallAt : Int) (nonce token id : String) (identity : Option GatewayIdentity) (p : Plane) :
    PlaneKept p (trafficSnapshot env secretHash wallAt now nonce token id identity p).2 := by
  have within : Session.Within PlaneKept (trafficSnapshot env secretHash wallAt now nonce token id identity) := by
    unfold trafficSnapshot
    refine Session.within_bind (Session.within_commit (Tx.within_reject _ _)) fun _ => ?_
    refine Session.within_bind gatewaySnapshot_kept fun snapshot => ?_
    refine Session.within_bind (Session.within_commit (Tx.within_read _)) fun pools => ?_
    exact Session.within_bind (Session.within_commit (onFleet_kept _)) fun grant => Session.within_pure _
  exact within p

theorem trafficSnapshot_lists {wallAt : Int} {nonce token id : String} {identity : Option GatewayIdentity}
    {snapshot : GatewaySnapshot}
    (h : trafficSnapshot env secretHash wallAt now nonce token id identity p = (.ok snapshot, q)) :
    Lists secretHash p snapshot := by
  unfold trafficSnapshot at h
  obtain ⟨_, p₁, checked, h⟩ := Session.bind_ok h
  obtain ⟨console, p₂, made, h⟩ := Session.bind_ok h
  obtain ⟨pools, p₃, -, h⟩ := Session.bind_ok h
  obtain ⟨grant, p₄, -, h⟩ := Session.bind_ok h
  cases h
  obtain ⟨-, same⟩ := Tx.reject_ok.1 (Tx.commit_ok.1 checked)
  cases same
  have listed : Lists secretHash p console := gatewaySnapshot_lists made
  exact listed

/-- What an operation leaves of the keys, and what its answer says of them. -/
theorem Step.exec_keys (digests : Digests) (secretHash : String → Digest) (step : Step env) (p : Plane) :
    PlaneKept p (step.exec digests secretHash p).2 ∧
    ∀ snapshot, (step.exec digests secretHash p).1 = some snapshot → Lists secretHash p snapshot := by
  cases step with
  | money op => exact ⟨keysKept digests op p.db, fun _ h => by cases h⟩
  | fleet op => exact ⟨.of_eq rfl, fun _ h => by cases h⟩
  | bindPool now uuid request legacy => exact ⟨.of_eq rfl, fun _ h => by cases h⟩
  | putServingEndpoint id expected value => exact ⟨commit_kept (onFleet_kept _) p, fun _ h => by cases h⟩
  | putRoutePolicy project model request pools actor =>
    exact ⟨commit_kept (Tx.within_bind (getProject_kept _) fun _ => putRoutePolicy_kept _ _ _ _ _ _) p,
      fun _ h => by cases h⟩
  | releaseAction project model action pools actor =>
    exact ⟨commit_kept (Tx.within_bind (getProject_kept _) fun _ => releaseAction_kept _ _ _ _ _) p,
      fun _ h => by cases h⟩
  | gatewaySnapshot now =>
    show PlaneKept p (answered _).2 ∧ ∀ snapshot, (answered _).1 = some snapshot → _
    rw [answered_plane]
    refine ⟨gatewaySnapshot_kept p, fun snapshot h => ?_⟩
    cases made : Serving.gatewaySnapshot secretHash now p with
    | mk o q =>
      rw [made] at h
      cases o with
      | error e => cases h
      | ok a =>
        cases h
        exact gatewaySnapshot_lists made
  | trafficSnapshot wallAt now nonce token id identity =>
    show PlaneKept p (answered _).2 ∧ ∀ snapshot, (answered _).1 = some snapshot → _
    rw [answered_plane]
    refine ⟨trafficSnapshot_kept wallAt nonce.1 token id identity p, fun snapshot h => ?_⟩
    cases made : Serving.trafficSnapshot env secretHash wallAt now nonce.1 token id identity p with
    | mk o q =>
      rw [made] at h
      cases o with
      | error e => cases h
      | ok a =>
        cases h
        exact trafficSnapshot_lists made

end Steps

/-! ## The keys of a gateway -/

/-- A credential is one of the console's keys, whatever became of it. -/
structure Backed (secretHash : String → Digest) (p : Plane) (c : Credential) (row : ApiKey) : Prop where
  stored : p.db.books.apiKeys.get? c.apiKeyId = some row
  secret : c.secretHash = secretHash c.apiKeyId
  tenant : c.tenantId = row.tenantId
  project : c.projectId = row.projectId
  scopes : c.scopes = row.scopes
  models : c.allowedModels = row.allowedModels
  expires : c.expiresAt = row.expiresAt
  rpm : (c.rateLimitRpm : Int) = row.rateLimitRpm
  tpm : (c.rateLimitTpm : Int) = row.rateLimitTpm
  budget : c.monthlyBudgetAmount = row.monthlyBudgetAmount
  policies : ∀ policy ∈ c.routePolicies, policy.tenantId = row.tenantId ∧ policy.projectId = row.projectId

section Gateways

variable {env : Fleet.Env} {digests : Digests} {secretHash : String → Digest} {p q : Plane}

theorem Backed.kept {c : Credential} {row : ApiKey} (h : Backed secretHash p c row) (kept : PlaneKept p q) :
    ∃ row, Backed secretHash q c row := by
  obtain ⟨revokedAt, stored, -⟩ := kept.keys _ _ h.stored
  exact ⟨{ row with revokedAt }, stored, h.secret, h.tenant, h.project, h.scopes, h.models, h.expires, h.rpm, h.tpm,
    h.budget, h.policies⟩

/-- What is listed stays the console's; it may be revoked since. -/
def Known (secretHash : String → Digest) (p : Plane) (snapshot : GatewaySnapshot) : Prop :=
  ∀ key ∈ snapshot.keys, ∃ row, p.db.books.apiKeys.get? row.id = some row ∧ Carries secretHash row key

theorem Lists.known {snapshot : GatewaySnapshot} (h : Lists secretHash p snapshot) : Known secretHash p snapshot := by
  intro key hk
  obtain ⟨row, stored, -, carries⟩ := h key hk
  exact ⟨row, stored, carries⟩

theorem Known.kept {snapshot : GatewaySnapshot} (h : Known secretHash p snapshot) (kept : PlaneKept p q) :
    Known secretHash q snapshot := by
  intro key hk
  obtain ⟨row, stored, carries⟩ := h key hk
  obtain ⟨revokedAt, stored', -⟩ := kept.keys _ _ stored
  exact ⟨{ row with revokedAt }, stored', ⟨carries.id, carries.tenant, carries.project, carries.secret,
    carries.scopes, carries.models, carries.expires, carries.rpm, carries.tpm, carries.budget⟩⟩

theorem mapM_credential {policies : List RoutePolicy} : ∀ {keys : List GatewayKey} {credentials : List Credential},
    keys.mapM (credential policies) = .ok credentials →
      ∀ c ∈ credentials, ∃ key ∈ keys, credential policies key = .ok c := by
  intro keys
  induction keys with
  | nil =>
    intro credentials h c hc
    cases h
    cases hc
  | cons key rest ih =>
    intro credentials h c hc
    rw [List.mapM_cons] at h
    cases first : credential policies key with
    | error e => rw [first] at h; cases h
    | ok c₀ =>
      cases others : rest.mapM (credential policies) with
      | error e => rw [first, others] at h; cases h
      | ok cs =>
        rw [first, others] at h
        cases h
        rcases List.mem_cons.1 hc with rfl | hc
        · exact ⟨key, List.mem_cons_self .., first⟩
        · obtain ⟨key', hk, made⟩ := ih others c hc
          exact ⟨key', List.mem_cons_of_mem _ hk, made⟩

/-- The credentials of an answer are made from its keys, whose limits are not negative. -/
theorem receive_credentials {snapshot : GatewaySnapshot} {credentials : List Credential}
    (h : receive snapshot = .ok credentials) :
    ∀ c ∈ credentials, ∃ key ∈ snapshot.keys, credential snapshot.routePolicies key = .ok c ∧ 0 ≤ key.rateLimitRpm ∧
      0 ≤ key.rateLimitTpm := by
  unfold receive fromSnapshot at h
  split at h
  · rename_i decoded
    split at h
    · cases h
    · cases checked : validatePolicies [] snapshot.routePolicies with
      | error e => rw [checked] at h; cases h
      | ok u =>
        rw [checked] at h
        intro c hc
        obtain ⟨key, hk, made⟩ := mapM_credential h c hc
        unfold decodes at decoded
        simp only [Bool.and_eq_true, List.all_eq_true, decide_eq_true_eq] at decoded
        exact ⟨key, hk, made, decoded.1 key hk⟩
  · cases h

theorem credential_backed {policies : List RoutePolicy} {key : GatewayKey} {c : Credential} {row : ApiKey}
    (h : credential policies key = .ok c) (limits : 0 ≤ key.rateLimitRpm ∧ 0 ≤ key.rateLimitTpm)
    (stored : p.db.books.apiKeys.get? row.id = some row)
    (carries : Carries secretHash row key) : Backed secretHash p c row := by
  unfold credential at h
  split at h
  · cases h
    refine ⟨?_, ?_, carries.tenant, carries.project, carries.scopes, carries.models, carries.expires, ?_, ?_,
      carries.budget, ?_⟩
    · rw [carries.id]
      exact stored
    · rw [carries.id]
      exact Subtype.ext carries.secret
    · rw [← carries.rpm]
      exact Int.toNat_of_nonneg limits.1
    · rw [← carries.tpm]
      exact Int.toNat_of_nonneg limits.2
    · intro policy hp
      have own := (List.mem_filter.1 hp).2
      simp only [Bool.and_eq_true, decide_eq_true_eq] at own
      rw [← carries.tenant, ← carries.project]
      exact own
  · cases h

/-- The keys of a gateway that has taken an answer are the console's, and so are those of the answer on its way. -/
structure DynamicKeySet.Sound (secretHash : String → Digest) (p : Plane) (k : DynamicKeySet) : Prop where
  answer : ∀ snapshot, k.answer = some snapshot → Known secretHash p snapshot
  current : 0 < k.refreshes → ∀ c ∈ k.current, ∃ row, Backed secretHash p c row

theorem DynamicKeySet.Sound.kept {k : DynamicKeySet} (h : DynamicKeySet.Sound secretHash p k) (kept : PlaneKept p q) :
    DynamicKeySet.Sound secretHash q k := by
  refine ⟨fun snapshot hs => (h.answer snapshot hs).kept kept, fun taken c hc => ?_⟩
  obtain ⟨row, backed⟩ := h.current taken c hc
  exact backed.kept kept

/-- What an accepted answer leaves: its credentials, and nothing on its way. -/
theorem take_cases (env : Fleet.Env) (k : DynamicKeySet) :
    (k.take env = { k with answer := none }) ∨ ∃ snapshot credentials traffic, k.answer = some snapshot ∧
      receive snapshot = .ok credentials ∧
      k.take env = { k with current := credentials, traffic, answer := none, refreshes := k.refreshes + 1 } := by
  unfold DynamicKeySet.take
  cases hanswer : k.answer with
  | none =>
    left
    obtain ⟨current, traffic, answer, fetchedAt, refreshes⟩ := k
    cases hanswer
    rfl
  | some snapshot =>
    simp only
    cases refreshed : k.refreshed env snapshot with
    | error e => exact .inl rfl
    | ok r =>
      obtain ⟨credentials, traffic⟩ := r
      refine .inr ⟨snapshot, credentials, traffic, rfl, ?_, rfl⟩
      unfold DynamicKeySet.refreshed at refreshed
      cases received : receive snapshot with
      | error e => rw [received] at refreshed; cases refreshed
      | ok validated =>
        rw [received] at refreshed
        simp only at refreshed
        split at refreshed
        · cases refreshed
          rfl
        · split at refreshed
          · cases refreshed
          · cases refreshed
            rfl

theorem DynamicKeySet.Sound.take {k : DynamicKeySet} (h : DynamicKeySet.Sound secretHash p k) :
    DynamicKeySet.Sound secretHash p (k.take env) := by
  rcases take_cases env k with same | ⟨snapshot, credentials, traffic, arrived, received, same⟩
  · rw [same]
    exact ⟨fun _ hs => (by cases hs), h.current⟩
  · rw [same]
    refine ⟨fun _ hs => (by cases hs), fun _ c hc => ?_⟩
    obtain ⟨key, hk, made, limits⟩ := receive_credentials received c hc
    obtain ⟨row, stored, carries⟩ := h.answer snapshot arrived key hk
    exact ⟨row, credential_backed made limits stored carries⟩

/-- The key is revoked at the console, and out at the gateway after two answers more than `n`: the first may
have been on its way. -/
structure Barred (key : String) (n : Nat) (p : Plane) (k : DynamicKeySet) : Prop where
  revoked : ∃ row, p.db.books.apiKeys.get? key = some row ∧ row.revokedAt.isSome = true
  since : n ≤ k.refreshes
  answer : n < k.refreshes → ∀ snapshot, k.answer = some snapshot → ∀ x ∈ snapshot.keys, x.id ≠ key
  current : n + 1 < k.refreshes → ∀ c ∈ k.current, c.apiKeyId ≠ key

theorem revoked_kept {key : String} (kept : PlaneKept p q)
    (revoked : ∃ row, p.db.books.apiKeys.get? key = some row ∧ row.revokedAt.isSome = true) :
    ∃ row, q.db.books.apiKeys.get? key = some row ∧ row.revokedAt.isSome = true := by
  obtain ⟨row, stored, revoked⟩ := revoked
  obtain ⟨revokedAt, stored', once⟩ := kept.keys _ _ stored
  exact ⟨_, stored', by rw [once revoked]; exact revoked⟩

theorem Barred.kept {key : String} {n : Nat} {k : DynamicKeySet} (h : Barred key n p k)
    (kept : PlaneKept p q) : Barred key n q k :=
  ⟨revoked_kept kept h.revoked, h.since, h.answer, h.current⟩

theorem Lists.unrevoked {key : String} {snapshot : GatewaySnapshot} (h : Lists secretHash p snapshot)
    (revoked : ∃ row, p.db.books.apiKeys.get? key = some row ∧ row.revokedAt.isSome = true) :
    ∀ x ∈ snapshot.keys, x.id ≠ key := by
  rintro x hx rfl
  obtain ⟨row, stored, active, carries⟩ := h x hx
  obtain ⟨row', stored', revoked⟩ := revoked
  rw [carries.id, stored] at stored'
  cases stored'
  rw [active] at revoked
  cases revoked

theorem Barred.take {key : String} {n : Nat} {k : DynamicKeySet} (h : Barred key n p k) :
    Barred key n p (k.take env) := by
  rcases take_cases env k with same | ⟨snapshot, credentials, traffic, arrived, received, same⟩
  · rw [same]
    exact ⟨h.revoked, h.since, fun _ _ hs => (by cases hs), h.current⟩
  · rw [same]
    refine ⟨h.revoked, Nat.le_succ_of_le h.since, fun _ _ hs => (by cases hs), fun more c hc => ?_⟩
    obtain ⟨x, hx, made, -⟩ := receive_credentials received c hc
    unfold credential at made
    split at made
    · cases made
      exact h.answer (Nat.lt_of_succ_lt_succ more) snapshot arrived x hx
    · cases made

/-! ## Turns -/

theorem Turn.sound (d : Doors) (turn : Turn env) (h : ∀ g, DynamicKeySet.Sound secretHash d.plane (d.gateways g)) :
    ∀ g, DynamicKeySet.Sound secretHash (turn.run digests secretHash d).plane
      ((turn.run digests secretHash d).gateways g) := by
  intro g
  cases turn with
  | plane step => exact (h g).kept (step.exec_keys digests secretHash d.plane).1
  | fetch gateway instant step =>
    simp only [Turn.run]
    split
    · exact h g
    · obtain ⟨kept, lists⟩ := step.exec_keys digests secretHash d.plane
      show DynamicKeySet.Sound secretHash _ (if g = gateway then _ else _)
      split
      · exact ⟨fun snapshot hs => (lists snapshot hs).known.kept kept, ((h gateway).kept kept).current⟩
      · exact (h g).kept kept
  | arrive gateway =>
    show DynamicKeySet.Sound secretHash _ (if g = gateway then _ else _)
    split
    · exact (h gateway).take
    · exact h g
  | lose gateway =>
    show DynamicKeySet.Sound secretHash _ (if g = gateway then _ else _)
    split
    · exact ⟨fun _ hs => (by cases hs), (h gateway).current⟩
    · exact h g

theorem Turn.runAll_sound (turns : List (Turn env)) (d : Doors)
    (h : ∀ g, DynamicKeySet.Sound secretHash d.plane (d.gateways g)) :
    ∀ g, DynamicKeySet.Sound secretHash (Turn.runAll digests secretHash turns d).plane
      ((Turn.runAll digests secretHash turns d).gateways g) := by
  induction turns generalizing d with
  | nil => exact h
  | cons turn rest ih => exact ih _ (turn.sound d h)

theorem Turn.barred {key : String} {n : Nat} {g : Nat} (d : Doors) (turn : Turn env)
    (h : Barred key n d.plane (d.gateways g)) :
    Barred key n (turn.run digests secretHash d).plane ((turn.run digests secretHash d).gateways g) := by
  cases turn with
  | plane step => exact h.kept (step.exec_keys digests secretHash d.plane).1
  | fetch gateway instant step =>
    simp only [Turn.run]
    split
    · exact h
    · obtain ⟨kept, lists⟩ := step.exec_keys digests secretHash d.plane
      show Barred key n _ (if g = gateway then _ else _)
      split
      · rename_i same
        subst same
        exact ⟨revoked_kept kept h.revoked, h.since,
          fun _ snapshot hs => (lists snapshot hs).unrevoked h.revoked, h.current⟩
      · exact h.kept kept
  | arrive gateway =>
    show Barred key n _ (if g = gateway then _ else _)
    split
    · rename_i same
      subst same
      exact h.take
    · exact h
  | lose gateway =>
    show Barred key n _ (if g = gateway then _ else _)
    split
    · rename_i same
      subst same
      exact ⟨h.revoked, h.since, fun _ _ hs => (by cases hs), h.current⟩
    · exact h

theorem Turn.runAll_barred {key : String} {n : Nat} {g : Nat} (turns : List (Turn env)) (d : Doors)
    (h : Barred key n d.plane (d.gateways g)) :
    Barred key n (Turn.runAll digests secretHash turns d).plane
      ((Turn.runAll digests secretHash turns d).gateways g) := by
  induction turns generalizing d with
  | nil => exact h
  | cons turn rest ih => exact ih _ (turn.barred d h)

theorem authenticate_some {sha256 : String → Digest} {credentials : List Credential} {now : Int}
    {authorization : Option String} {c : Credential} (h : authenticate sha256 credentials now authorization = some c) :
    c ∈ credentials ∧ (∃ secret, bearer authorization = some secret ∧ c.secretHash = sha256 secret) ∧
      ∀ expiry ∈ c.expiresAt, now < expiry := by
  obtain ⟨secret, bears, found⟩ := Option.bind_eq_some_iff.1 h
  have matched := List.find?_some found
  simp only [Bool.and_eq_true, decide_eq_true_eq] at matched
  refine ⟨List.mem_of_find?_eq_some found, ⟨secret, bears, matched.2⟩, fun expiry he => ?_⟩
  obtain ⟨unexpired, -⟩ := matched
  rw [Option.mem_def.1 he] at unexpired
  exact of_decide_eq_true unexpired

end Gateways

/-- Whoever a gateway lets in, once it has taken an answer, presents the secret of a key that the console has
issued, which has not expired, and acts with the tenant, the rights and the limits it was issued with. If the
key is revoked, the gateway has taken at most one answer since. -/
theorem Turn.run_authenticated (env : Fleet.Env) (digests : Digests) (secretHash sha256 : String → Digest)
    (plane : Plane) (gateways : Nat → DynamicKeySet)
    (fresh : ∀ g, (gateways g).refreshes = 0 ∧ (gateways g).answer = none) (before after : List (Turn env)) :
    let d := Turn.runAll digests secretHash before ⟨plane, gateways⟩
    let d' := Turn.runAll digests secretHash after d
    ∀ g now authorization principal, 0 < (d'.gateways g).refreshes →
      authenticate sha256 (d'.gateways g).current now authorization = some principal →
      (∃ row, Backed secretHash d'.plane principal row ∧ (∀ expiry ∈ row.expiresAt, now < expiry) ∧
        ∃ secret, bearer authorization = some secret ∧ sha256 secret = secretHash row.id) ∧
      ((∃ row, d.plane.db.books.apiKeys.get? principal.apiKeyId = some row ∧ row.revokedAt.isSome = true) →
        (d'.gateways g).refreshes ≤ (d.gateways g).refreshes + 1) := by
  intro d d' g now authorization principal taken authenticated
  obtain ⟨there, ⟨secret, bears, digest⟩, unexpired⟩ := authenticate_some authenticated
  constructor
  · have start : ∀ g, DynamicKeySet.Sound secretHash plane (gateways g) := by
      intro g
      obtain ⟨none, empty⟩ := fresh g
      exact ⟨fun _ hs => (by rw [empty] at hs; cases hs), fun taken => by omega⟩
    have sound : ∀ g, DynamicKeySet.Sound secretHash d'.plane (d'.gateways g) :=
      Turn.runAll_sound after d (Turn.runAll_sound before ⟨plane, gateways⟩ start)
    obtain ⟨row, backed⟩ := (sound g).current taken principal there
    refine ⟨row, backed, ?_, secret, bears, ?_⟩
    · rw [← backed.expires]
      exact unexpired
    · rw [← digest, backed.secret]
      exact congrArg secretHash (Table.get?_key backed.stored).symm
  · intro revoked
    have barred : Barred principal.apiKeyId (d.gateways g).refreshes d'.plane (d'.gateways g) :=
      Turn.runAll_barred after d ⟨revoked, Nat.le_refl _, fun more => absurd more (Nat.lt_irrefl _),
        fun more => by omega⟩
    by_contra more
    exact barred.current (Nat.lt_of_not_le more) principal there rfl

/-! A key is revoked while an answer with it is on its way to a gateway. -/

namespace Keys

def sampleEnv : Fleet.Env := ⟨fun _ => true, id, fun _ => "", false⟩

def digest (byte : UInt8) : Digest := ⟨List.replicate 32 byte, by simp⟩

def sha256 (secret : String) : Digest := if secret = "xs_1" then digest 1 else digest 0

def secretHash (id : String) : Digest := if id = "key" then digest 1 else digest 2

def gateways : Nat → DynamicKeySet := fun g => ⟨[], .new (toString g), none, 0, 0⟩

def revoking : List (Turn sampleEnv) :=
  [.plane (.money (.createProject ⟨"project", "tenant", "Project"⟩)), .plane (.money .bootstrapCatalog),
    .plane (.money (.issueApiKey 0 ⟨"key", "tenant", "project", "Key", [], [], none, 0, 0, ⟨"CNY", 1⟩⟩)),
    .fetch 0 0 (.gatewaySnapshot 0), .plane (.money (.revokeApiKey 0 "key"))]

def revoked : Doors := Turn.runAll sampleDigests secretHash revoking ⟨.empty, gateways⟩

def arriving : List (Turn sampleEnv) := [.arrive 0]

def arrived : Doors := Turn.runAll sampleDigests secretHash arriving revoked

def refetching : List (Turn sampleEnv) := [.fetch 0 0 (.gatewaySnapshot 0), .arrive 0]

def refetched : Doors := Turn.runAll sampleDigests secretHash refetching arrived

end Keys

/-- The answer on its way lets the revoked key in once more, the next one does not. -/
theorem sample_revoked :
    (∃ principal row, authenticate Keys.sha256 (Keys.arrived.gateways 0).current 0 (some "Bearer xs_1") =
      some principal ∧
      Backed Keys.secretHash Keys.arrived.plane principal row ∧ row.revokedAt = some 0 ∧
      (Keys.arrived.gateways 0).refreshes ≤ (Keys.revoked.gateways 0).refreshes + 1) ∧
    (authenticate Keys.sha256 (Keys.refetched.gateways 0).current 0 (some "Bearer xs_1")).isNone := by
  refine ⟨?_, by decide +kernel⟩
  have let_in : ((authenticate Keys.sha256 (Keys.arrived.gateways 0).current 0 (some "Bearer xs_1")).any fun c =>
      c.apiKeyId == "key") = true := by
    decide +kernel
  have out : (Keys.revoked.plane.db.books.apiKeys.get? "key").any (fun row => row.revokedAt.isSome) = true := by
    decide +kernel
  have since : (Keys.arrived.plane.db.books.apiKeys.get? "key").all (fun row => decide (row.revokedAt = some 0)) =
    true := by decide +kernel
  obtain ⟨principal, authenticated, own⟩ := (Option.any_eq_true _ _).1 let_in
  obtain ⟨row, stored, revoked⟩ := (Option.any_eq_true _ _).1 out
  have own : principal.apiKeyId = "key" := eq_of_beq own
  obtain ⟨⟨row', backed, -⟩, once⟩ := Turn.run_authenticated Keys.sampleEnv sampleDigests Keys.secretHash Keys.sha256
    .empty Keys.gateways
    (fun _ => ⟨rfl, rfl⟩) Keys.revoking Keys.arriving 0 0 (some "Bearer xs_1") principal
      (by decide +kernel) authenticated
  refine ⟨principal, row', authenticated, backed, ?_, once ⟨row, by rw [own]; exact stored, revoked⟩⟩
  have stored' : Keys.arrived.plane.db.books.apiKeys.get? principal.apiKeyId = some row' := backed.stored
  rw [own] at stored'
  rw [stored'] at since
  exact of_decide_eq_true since

end Xscope.Serving

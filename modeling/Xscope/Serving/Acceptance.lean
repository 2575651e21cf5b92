/-
What the control plane hands out is what the gateway takes. Every row was validated when it was
written, and whatever else changes it keeps what the reader asks for: the catalog, the entries, the
policies and the keys of a snapshot pass, and the grants of a session follow each other.
-/
import Xscope.Billing.Prices
import Xscope.Fleet.Coupling
import Xscope.Serving.Reader

namespace Xscope.Serving

open Fleet

-- the instance of a transaction is as large as the transaction
set_option synthInstance.maxSize 20000

/-! ## Validation -/

theorem validateModels_ok : ∀ (entries : List CatalogModel) (names : List String),
    (∀ e ∈ entries, e.model.validate = .ok () ∧ 0 < e.revision ∧
      (e.defaultPool.any fun id => !Catalog.identifier id) = false) →
    (entries.map fun e => e.model.id).Nodup → (∀ e ∈ entries, e.model.id ∉ names) →
    ∃ all, validateModels names entries = .ok all ∧ names ⊆ all ∧ ∀ e ∈ entries, e.model.id ∈ all := by
  intro entries
  induction entries with
  | nil => exact fun names _ _ _ => ⟨names, rfl, fun _ h => h, nofun⟩
  | cons entry rest ih =>
    intro names valid distinct fresh
    rw [List.map_cons, List.nodup_cons] at distinct
    obtain ⟨passes, positive, pool⟩ := valid entry (List.mem_cons_self ..)
    obtain ⟨all, ok, subset, named⟩ := ih (entry.model.id :: names)
      (fun e he => valid e (List.mem_cons_of_mem _ he)) distinct.2
      fun e he hm => by
        rcases List.mem_cons.1 hm with same | old
        · exact distinct.1 (List.mem_map.2 ⟨e, he, same⟩)
        · exact fresh e (List.mem_cons_of_mem _ he) old
    refine ⟨all, ?_, fun _ h => subset (List.mem_cons_of_mem _ h), fun e he => ?_⟩
    · have bad : ¬(entry.revision ≤ 0 ∨ entry.model.id ∈ names ∨ entry.defaultPool.any fun id =>
          !Catalog.identifier id) := by
        rintro (low | dup | pool')
        · omega
        · exact fresh entry (List.mem_cons_self ..) dup
        · rw [pool] at pool'; cases pool'
      simp only [validateModels, passes, bind, Except.bind, if_neg bad]
      exact ok
    · rcases List.mem_cons.1 he with rfl | he
      · exact subset (List.mem_cons_self ..)
      · exact named e he

theorem validateEndpoints_ok {models : List String} : ∀ (endpoints : List ServingEndpoint) (ids : List String),
    (∀ e ∈ endpoints, e.validate = .ok () ∧ e.model ∈ models) → (endpoints.map fun e => e.id).Nodup →
    (∀ e ∈ endpoints, e.id ∉ ids) → validateEndpoints models ids endpoints = .ok () := by
  intro endpoints
  induction endpoints with
  | nil => exact fun _ _ _ _ => rfl
  | cons endpoint rest ih =>
    intro ids valid distinct fresh
    rw [List.map_cons, List.nodup_cons] at distinct
    obtain ⟨passes, known⟩ := valid endpoint (List.mem_cons_self ..)
    have bad : ¬(endpoint.model ∉ models ∨ endpoint.id ∈ ids) := by
      rintro (unknown | dup)
      · exact unknown known
      · exact fresh endpoint (List.mem_cons_self ..) dup
    simp only [validateEndpoints, passes, bind, Except.bind, if_neg bad]
    refine ih _ (fun e he => valid e (List.mem_cons_of_mem _ he)) distinct.2 fun e he hm => ?_
    rcases List.mem_cons.1 hm with same | old
    · exact distinct.1 (List.mem_map.2 ⟨e, he, same⟩)
    · exact fresh e (List.mem_cons_of_mem _ he) old

theorem validatePolicies_ok : ∀ (policies : List RoutePolicy) (identities : List (String × String × String)),
    (∀ p ∈ policies, 0 < p.revision ∧ p.spec.validate = .ok ()) →
    (policies.map fun p => (p.tenantId, p.projectId, p.model)).Nodup →
    (∀ p ∈ policies, (p.tenantId, p.projectId, p.model) ∉ identities) →
      validatePolicies identities policies = .ok () := by
  intro policies
  induction policies with
  | nil => exact fun _ _ _ _ => rfl
  | cons policy rest ih =>
    intro identities valid distinct fresh
    rw [List.map_cons, List.nodup_cons] at distinct
    obtain ⟨positive, passes⟩ := valid policy (List.mem_cons_self ..)
    rw [validatePolicies, if_neg]
    · refine ih _ (fun p hp => valid p (List.mem_cons_of_mem _ hp)) distinct.2 fun p hp hm => ?_
      rcases List.mem_cons.1 hm with same | old
      · exact distinct.1 (List.mem_map.2 ⟨p, hp, same⟩)
      · exact fresh p (List.mem_cons_of_mem _ hp) old
    · rintro (low | bad | dup)
      · omega
      · exact bad passes
      · exact fresh policy (List.mem_cons_self ..) dup

theorem validateControls_ok : ∀ (pools : List PoolControl) (ids : List String),
    (∀ p ∈ pools, managed p.id = true ∧ 0 < p.generation) → (pools.map fun p => p.id).Nodup →
      (∀ p ∈ pools, p.id ∉ ids) →
    validateControls ids pools = .ok () := by
  intro pools
  induction pools with
  | nil => exact fun _ _ _ _ => rfl
  | cons pool rest ih =>
    intro ids valid distinct fresh
    rw [List.map_cons, List.nodup_cons] at distinct
    obtain ⟨named, positive⟩ := valid pool (List.mem_cons_self ..)
    rw [validateControls, if_neg]
    · refine ih _ (fun p hp => valid p (List.mem_cons_of_mem _ hp)) distinct.2 fun p hp hm => ?_
      rcases List.mem_cons.1 hm with same | old
      · exact distinct.1 (List.mem_map.2 ⟨p, hp, same⟩)
      · exact fresh p (List.mem_cons_of_mem _ hp) old
    · rintro (other | low | dup)
      · rw [named] at other; cases other
      · omega
      · exact fresh pool (List.mem_cons_self ..) dup

/-! ## The console -/

/-- A catalog row that the gateway takes. -/
structure Servable (row : CatalogRow) : Prop where
  valid : row.definition.validate = .ok ()
  own : row.definition.id = row.id
  positive : 0 < row.revision
  pool : (row.defaultPool.any fun id => !Catalog.identifier id) = false

/-- What the gateway asks of the rows of the console. -/
structure Presentable (b : Books) : Prop where
  models : ∀ row ∈ b.catalog, Servable row
  keys : ∀ k ∈ b.apiKeys, 0 ≤ k.rateLimitRpm ∧ 0 ≤ k.rateLimitTpm

/-- No key of a table is lost. -/
def Covers {ρ κ : Type} [Keyed ρ κ] [DecidableEq κ] (t t' : Table ρ) : Prop :=
  ∀ k x, t.get? k = some x → ∃ y, t'.get? k = some y

/-- What an operation on the console keeps for the gateway. -/
structure Publishes (db db' : Db) : Prop where
  presentable : Presentable db.books → Presentable db'.books
  models : Covers db.books.catalog db'.books.catalog
  projects : db.books.projects.Grows db'.books.projects

theorem Publishes.of_eq {db db' : Db} (hc : db'.books.catalog = db.books.catalog)
    (hk : db'.books.apiKeys = db.books.apiKeys) (hp : db'.books.projects = db.books.projects) : Publishes db db' :=
  ⟨fun h => ⟨by rw [hc]; exact h.models, by rw [hk]; exact h.keys⟩, by
    rw [hc]; exact fun _ x h => ⟨x, h⟩, by rw [hp]; exact .refl _⟩

instance : IsPreorder Db Publishes where
  refl _ := .of_eq rfl rfl rfl
  trans _ _ _ h h' := by
    refine ⟨h'.presentable ∘ h.presentable, fun k x hx => ?_, h.projects.trans h'.projects⟩
    obtain ⟨y, hy⟩ := h.models k x hx
    exact h'.models k y hy

instance : Frame Publishes where
  accounts := ⟨fun _ _ => .of_eq rfl rfl rfl⟩
  reservations := ⟨fun _ _ => .of_eq rfl rfl rfl⟩
  usageEvents := ⟨fun _ _ => .of_eq rfl rfl rfl⟩
  transactions := ⟨fun _ _ => .of_eq rfl rfl rfl⟩
  entries := ⟨fun _ _ => .of_eq rfl rfl rfl⟩
  orders := ⟨fun _ _ => .of_eq rfl rfl rfl⟩
  payments := ⟨fun _ _ => .of_eq rfl rfl rfl⟩
  refunds := ⟨fun _ _ => .of_eq rfl rfl rfl⟩
  checkouts := ⟨fun _ _ => .of_eq rfl rfl rfl⟩
  receipts := ⟨fun _ _ => .of_eq rfl rfl rfl⟩
  reviews := ⟨fun _ _ => .of_eq rfl rfl rfl⟩
  reviewAudits := ⟨fun _ _ => .of_eq rfl rfl rfl⟩
  balances := ⟨fun _ _ => .of_eq rfl rfl rfl⟩
  keyHolds := ⟨fun _ _ => .of_eq rfl rfl rfl⟩
  monthSpends := ⟨fun _ _ => .of_eq rfl rfl rfl⟩
  appendEvent call account kind aggregate payload db _ db' h := by
    obtain ⟨o, rfl, -⟩ := appendEvent_ok h
    exact .of_eq rfl rfl rfl

section Registry

variable {db : Db} {now : Int} {id : String}

instance {row : Project} {e : ServiceError} : Keeping Publishes (insertRow Slot.projects row e) := by
  refine ⟨fun db _ db' h => ?_⟩
  obtain ⟨-, t, hi, he⟩ := insertRow_ok.1 h
  cases he
  exact ⟨fun h => ⟨h.models, h.keys⟩, fun _ x hx => ⟨x, hx⟩, Table.grows_insert? hi⟩

instance {value : Project} : Keeping Publishes (createProject value) := by unfold createProject; infer_instance

theorem bootstrapCatalog_publishes (db : Db) : Publishes db (Tx.commit bootstrapCatalog db).2 := by
  let row : CatalogRow := ⟨Model.default.id, 1, true, some "demo-pool", Model.default⟩
  let price : PriceRow := ⟨Model.default.id, Model.default.priceVersion, Model.default⟩
  have served : Servable row := ⟨by decide, rfl, by decide, by decide⟩
  show Publishes db { db with books := { db.books with
    catalog := (db.books.catalog.insert? row).getD db.books.catalog
    prices := (db.books.prices.insert? price).getD db.books.prices } }
  refine ⟨fun h => ⟨fun x hx => ?_, h.keys⟩, fun k x hx => ⟨x, Table.grows_insert?_getD _ row k x hx⟩, .refl _⟩
  rcases Table.mem_insert?_getD hx with rfl | old
  · exact served
  · exact h.models x old

theorem putModel_publishes (id : String) (request : PutModel) (db : Db) :
    Publishes db (Tx.commit (putModel id request) db).2 := by
  rcases Tx.commit_cases (putModel id request) db with ⟨row, s, h, hc⟩ | ⟨e, -, hc⟩
  · rw [hc]
    unfold putModel at h
    cases hv : request.model.validate with
    | error message => rw [hv] at h; simp at h
    | ok u =>
      rw [hv] at h
      simp only [Tx.reject_bind, not_or, not_not] at h
      obtain ⟨⟨own, bounds, pool⟩, h⟩ := h
      obtain ⟨_, t, h1, h2⟩ := Tx.bind_ok.1 h
      obtain ⟨_, t', h3, h4⟩ := Tx.bind_ok.1 h2
      cases Tx.pure_ok.1 h4
      obtain ⟨-, cs, ht, -, kept, origin⟩ := storeModel_inv h1
      obtain ⟨ps, ht', -⟩ := storePrice_inv h3
      simp only at ht ht'
      subst ht ht'
      refine ⟨fun h => ⟨fun x hx => ?_, h.keys⟩, kept, .refl _⟩
      rcases origin x hx with rfl | old
      · exact ⟨hv, own.symm, by show 0 < request.expectedRevision + 1; omega, by simpa using pool⟩
      · exact h.models x old
  · rw [hc]
    exact refl_of Publishes db

theorem validate_limits {request : ApiKeyRequest} (h : request.validate now = .ok ()) :
    0 ≤ request.rateLimitRpm ∧ 0 ≤ request.rateLimitTpm := by
  unfold ApiKeyRequest.validate at h
  split at h
  · cases h
  · split at h
    · cases h
    · rename_i rpm
      split at h
      · cases h
      · rename_i tpm
        omega

instance {request : ApiKeyRequest} : Keeping Publishes (storeApiKey now request) := by
  refine ⟨fun db _ db' h => ?_⟩
  unfold storeApiKey at h
  obtain ⟨_, t, h1, h2⟩ := Tx.bind_ok.1 h
  obtain ⟨u, valid, he⟩ := checkDomain_ok.1 h1
  cases he
  simp only [insertRow_bind, Tx.pure_ok] at h2
  obtain ⟨-, ks, hi, he⟩ := h2
  cases he
  refine ⟨fun h => ⟨h.models, fun k hk => ?_⟩, fun _ x hx => ⟨x, hx⟩, .refl _⟩
  rcases (Table.mem_insert? hi).1 hk with rfl | old
  · exact validate_limits valid
  · exact h.keys k old

instance {request : ApiKeyRequest} : Keeping Publishes (issueApiKey now request) := by
  unfold issueApiKey
  dsimp only
  infer_instance

instance : Keeping Publishes (revokeApiKey now id) := by
  refine ⟨fun db _ db' h => ?_⟩
  unfold revokeApiKey at h
  simp only [findById_bind, Tx.expect_bind, updateRow_ok] at h
  obtain ⟨row, found, he⟩ := h
  cases he
  have mem : row ∈ db.books.apiKeys := Table.get?_mem (Option.filter_eq_some_iff.1 found).1
  refine ⟨fun h => ⟨h.models, fun k hk => ?_⟩, fun _ x hx => ⟨x, hx⟩, .refl _⟩
  rcases Table.mem_put.1 hk with ⟨old, -⟩ | ⟨rfl, -⟩
  · exact h.keys k old
  · exact h.keys row mem

theorem publishes (digests : Digests) (op : Xscope.Op) (db : Db) : Publishes db (op.run digests db) := by
  refine op.keeps digests db fun registry => ?_
  cases op with
  | createProject value => exact Keeping.commit _ db
  | bootstrapCatalog => exact bootstrapCatalog_publishes db
  | putModel id request => exact putModel_publishes id request db
  | issueApiKey now request => exact Keeping.commit _ db
  | storeApiKey now request => exact Keeping.commit _ db
  | revokeApiKey now id => exact Keeping.commit _ db
  | _ => cases registry

end Registry

/-! ## The fleet -/

variable {env : Fleet.Env}

/-- What the gateway asks of a managed pool. -/
structure Listed (catalog : Table CatalogRow) (p : ManagedPool) : Prop where
  named : managed p.id = true
  positive : 0 < p.generation
  valid : p.endpoint.validate = .ok ()
  own : p.endpoint.id = p.id
  known : ∃ row, catalog.get? p.endpoint.model = some row

/-- What the gateway asks of a legacy entry. -/
structure Entered (catalog : Table CatalogRow) (e : ServingEndpointRow) : Prop where
  unmanaged : managed e.id = false
  valid : e.definition.validate = .ok ()
  own : e.definition.id = e.id
  known : ∃ row, catalog.get? e.definition.model = some row

structure Offers (s : State) : Prop where
  coupled : ∀ p ∈ s.pools, Coupled p
  models : ∀ row ∈ s.catalog, Servable row
  pools : ∀ p ∈ s.pools, Listed s.catalog p
  sessions : ∀ row ∈ s.sessions, 0 ≤ row.sequence
  entries : ∀ e ∈ s.endpoints, Entered s.catalog e

/-- The operation names no new pool, or a managed one, and leaves the catalog to the console. -/
def Names : Fleet.Op → Prop
  | .bindPool _ id _ _ => managed id = true
  | .writeCatalog .. => False
  | _ => True

/-- What the gateway sees of a pool or a session never goes back. -/
structure Onward (s s' : State) : Prop where
  models : Covers s.catalog s'.catalog
  pools : ∀ id p, s.pools.get? id = some p → ∃ p', s'.pools.get? id = some p' ∧ p.generation ≤ p'.generation
  sessions : ∀ id row, s.sessions.get? id = some row → ∃ row', s'.sessions.get? id = some row' ∧
    row.sequence ≤ row'.sequence

theorem Onward.of_eq {s s' : State} (catalog : s'.catalog = s.catalog) (pools : s'.pools = s.pools)
    (sessions : s'.sessions = s.sessions) :
    Onward s s' := by
  refine ⟨fun _ x h => ⟨x, ?_⟩, fun _ p h => ⟨p, ?_, le_rfl⟩, fun _ row h => ⟨row, ?_, le_rfl⟩⟩
  · rw [catalog]; exact h
  · rw [pools]; exact h
  · rw [sessions]; exact h

theorem Onward.refl (s : State) : Onward s s := .of_eq rfl rfl rfl

theorem Onward.trans {s t u : State} (h : Onward s t) (k : Onward t u) : Onward s u := by
  refine ⟨fun m x hx => ?_, fun id p hp => ?_, fun id row hr => ?_⟩
  · obtain ⟨y, hy⟩ := h.models m x hx
    exact k.models m y hy
  · obtain ⟨q, hq, le⟩ := h.pools id p hp
    obtain ⟨r, hr, le'⟩ := k.pools id q hq
    exact ⟨r, hr, le.trans le'⟩
  · obtain ⟨q, hq, le⟩ := h.sessions id row hr
    obtain ⟨r, hr, le'⟩ := k.sessions id q hq
    exact ⟨r, hr, le.trans le'⟩

theorem Listed.covers {t t' : Table CatalogRow} {p : ManagedPool} (h : Listed t p)
    (covers : Covers t t') : Listed t' p := by
  obtain ⟨row, hr⟩ := h.known
  exact ⟨h.named, h.positive, h.valid, h.own, covers _ row hr⟩

theorem Entered.covers {t t' : Table CatalogRow} {e : ServingEndpointRow} (h : Entered t e)
    (covers : Covers t t') : Entered t' e := by
  obtain ⟨row, hr⟩ := h.known
  exact ⟨h.unmanaged, h.valid, h.own, covers _ row hr⟩

theorem defaultPool_servable {endpoint : ServingEndpoint} {pool : String} {row : CatalogRow} (h : Servable row)
    (id : Catalog.identifier pool = true) : Servable (defaultPool endpoint pool row) := by
  unfold defaultPool
  split
  · exact ⟨h.valid, h.own, by show 0 < row.revision + 1; have := h.positive; omega, by simp [id]⟩
  · exact h

/-- A valid entry has an identifier for its id. -/
theorem validate_identifier {e : ServingEndpoint} (h : e.validate = .ok ()) : Catalog.identifier e.id = true := by
  unfold ServingEndpoint.validate at h
  split at h
  · cases h
  · rename_i names
    simp only [Bool.or_eq_true, Bool.not_eq_true', not_or, Bool.not_eq_false] at names
    exact names.1.1

section Move

variable {s s' : State} {op : Fleet.Op}

theorem move_catalog (m : Fleet.Move env op s s') (o : Offers s) (names : Names op) :
    Covers s.catalog s'.catalog ∧ ∀ row ∈ s'.catalog, Servable row := by
  cases m with
  | @defaulted _ authAt now id token report row found fits =>
    refine ⟨fun k x hx => ?_, fun x hx => ?_⟩
    · rw [Table.get?_mapRows, hx]
      exact ⟨_, rfl⟩
    · replace hx : x ∈ s.catalog.mapRows (defaultPool row.endpoint row.id) (key_defaultPool row.endpoint row.id) := hx
      obtain ⟨y, hy, rfl⟩ := Table.mem_mapRows.1 hx
      have listed := o.pools row (Table.get?_mem found)
      exact defaultPool_servable (o.models y hy) (by rw [← listed.own]; exact validate_identifier listed.valid)
  | catalog => exact names.elim
  | snapshot h => rw [h.tables]; exact ⟨fun _ x hx => ⟨x, hx⟩, o.models⟩
  | acked h => rw [h.tables]; exact ⟨fun _ x hx => ⟨x, hx⟩, o.models⟩
  | _ => exact ⟨fun _ x hx => ⟨x, hx⟩, o.models⟩

theorem move_endpoints (m : Fleet.Move env op s s') (names : Names op) : s'.endpoints = s.endpoints := by
  cases m with
  | catalog => exact names.elim
  | snapshot h => rw [h.tables]
  | acked h => rw [h.tables]
  | _ => rfl

theorem move_onward (m : Fleet.Move env op s s') (o : Offers s) (names : Names op) : Onward s s' := by
  refine ⟨(move_catalog m o names).1, fun id p hp => ?_, fun id row hr => ?_⟩
  · obtain ⟨p', hp', step⟩ := m.pools.kept id p hp
    refine ⟨p', hp', ?_⟩
    rcases step with rfl | step
    · exact le_rfl
    · exact (step.advances (o.coupled p (Table.get?_mem hp))).generation
  · obtain ⟨row', hr', step⟩ := m.sessions.kept id row hr
    refine ⟨row', hr', ?_⟩
    rcases step with rfl | step
    · exact le_rfl
    · exact step.sequence_le

theorem move_offers (m : Fleet.Move env op s s') (o : Offers s) (names : Names op) : Offers s' := by
  obtain ⟨covers, models⟩ := move_catalog m o names
  refine ⟨m.coupled o.coupled, models, fun p hp => ?_, fun row hr => ?_, fun e he => ?_⟩
  · have found := Table.get?_of_mem hp
    cases hold : s.pools.get? (key p) with
    | none =>
      cases m.pools.fresh _ p found hold with
      | bound _ _ _ _ _ _ valid own known => exact Listed.covers ⟨names, Int.one_pos, valid, own, known⟩ covers
    | some old =>
      have listed := (o.pools old (Table.get?_mem hold)).covers covers
      obtain ⟨p', hp', step⟩ := m.pools.kept _ old hold
      cases Option.some.inj (found.symm.trans hp')
      rcases step with rfl | step
      · exact listed
      · have later := (step.advances (o.coupled old (Table.get?_mem hold))).generation
        have positive := listed.positive
        have same := step.endpoint_eq
        exact ⟨by rw [step.id_eq]; exact listed.named, by omega, by rw [same]; exact listed.valid,
          by rw [same, step.id_eq]; exact listed.own, by rw [same]; exact listed.known⟩
  · have found := Table.get?_of_mem hr
    cases hold : s.sessions.get? (key row) with
    | none => exact (m.sessions.fresh _ row found hold).2.2
    | some old =>
      have positive := o.sessions old (Table.get?_mem hold)
      obtain ⟨row', hr', step⟩ := m.sessions.kept _ old hold
      cases Option.some.inj (found.symm.trans hr')
      rcases step with rfl | step
      · exact positive
      · exact positive.trans step.sequence_le
  · rw [move_endpoints m names] at he
    exact (o.entries e he).covers covers

/-- An operation of the fleet offers what the gateway asks for, and takes nothing back. -/
theorem moves_offers (m : Fleet.Moves env op s s') (o : Offers s) (names : Names op) : Offers s' ∧ Onward s s' := by
  induction m with
  | refl => exact ⟨o, .refl s⟩
  | tail _ move ih => exact ⟨move_offers move ih.1 names, ih.2.trans (move_onward move ih.1 names)⟩

end Move

end Xscope.Serving

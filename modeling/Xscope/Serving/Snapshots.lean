/-
The state that every operation of the control plane keeps, and the snapshots that are read off it:
whatever is answered, the gateway takes as a whole.
-/
import Xscope.Serving.Acceptance

namespace Xscope.Serving

open Fleet

-- the instance of a transaction is as large as the transaction
set_option synthInstance.maxSize 20000

variable {env : Fleet.Env} {digests : Digests} {secretHash : String → Digest} {p q : Plane} {s : State}

/-! ## The plane -/

/-- A policy that the gateway takes, of a project that exists. -/
structure Routed (projects : Table Project) (row : RoutePolicyRow) : Prop where
  positive : 0 < row.revision
  valid : row.spec.validate = .ok ()
  known : ∃ project, projects.get? row.projectId = some project

/-- What every operation keeps of the control plane. -/
structure Presents (p : Plane) : Prop where
  console : Presentable p.db.books
  fleet : Offers p.state
  policies : ∀ row ∈ p.policies, Routed p.db.books.projects row

theorem Presents.empty : Presents .empty := by
  have none : ∀ {ρ κ : Type} [Keyed ρ κ] {P : ρ → Prop}, ∀ row ∈ (Table.empty : Table ρ), P row :=
    fun row hr => absurd hr (Table.not_mem_empty row)
  exact ⟨⟨none, none⟩, ⟨none, none, none, none, none⟩, none⟩

/-- The console changes, the catalog with it. -/
theorem Presents.publish {db : Db} (h : Presents p) (published : Publishes p.db db) :
    Presents { p with db := db } ∧ Onward p.state { p with db := db }.state := by
  have console := published.presentable h.console
  have covers : Covers p.state.catalog { p with db := db }.state.catalog := published.models
  refine ⟨⟨console, ?_, fun row hr => ?_⟩, covers, fun _ x hx => ⟨x, hx, le_rfl⟩, fun _ x hx => ⟨x, hx, le_rfl⟩⟩
  · exact ⟨h.fleet.coupled, console.models, fun x hx => (h.fleet.pools x hx).covers covers, h.fleet.sessions,
      fun e he => (h.fleet.entries e he).covers covers⟩
  · obtain ⟨positive, valid, project, known⟩ := h.policies row hr
    exact ⟨positive, valid, project, published.projects _ project known⟩

/-- The fleet changes, and the catalog as it changes it. -/
theorem Presents.offer (h : Presents p) (offers : Offers s) : Presents (p.setState s) :=
  ⟨⟨offers.models, h.console.keys⟩, offers, h.policies⟩

theorem Presents.moves {op : Fleet.Op} {s : State} (h : Presents p) (m : Fleet.Moves env op p.state s)
    (names : Names op) :
    Presents (p.setState s) ∧ Onward p.state (p.setState s).state := by
  obtain ⟨offers, onward⟩ := moves_offers m h.fleet names
  exact ⟨h.offer offers, onward⟩

theorem Presents.run (h : Presents p) (op : Fleet.Op) (names : Names op) :
    Presents (p.setState (op.run env p.state)) ∧ Onward p.state (p.setState (op.run env p.state)).state :=
  h.moves (op.run_moves p.state) names

/-! ## Legacy entries -/

section Entries

variable {id : String} {expected : Int} {value : ServingEndpoint}

theorem storeEndpoint_ok {r : Unit × State} (h : storeEndpoint id expected value s = .ok r) :
    ∃ t, r.2 = { s with endpoints := t } ∧ ∀ e ∈ t, e ∈ s.endpoints ∨ e = ⟨id, expected + 1, value⟩ := by
  unfold storeEndpoint at h
  split at h
  · simp only [Tx.read_bind, Tx.expect_bind, Tx.write_ok] at h
    obtain ⟨t, inserted, rfl⟩ := h
    refine ⟨t, rfl, fun e he => ?_⟩
    rcases (Table.mem_insert? inserted).1 he with new | old
    · exact .inr new
    · exact .inl old
  · simp only [Tx.read_bind, Tx.expect_bind, Tx.reject_bind, Tx.write_ok] at h
    obtain ⟨previous, -, -, rfl⟩ := h
    refine ⟨_, rfl, fun e he => ?_⟩
    rcases Table.mem_put.1 he with ⟨old, -⟩ | ⟨new, -⟩
    · exact .inl old
    · exact .inr new

/-- A stored entry is valid, is no managed pool and names a model of the catalog. -/
theorem putServingEndpoint_ok {r : Int × State} (h : putServingEndpoint id expected value s = .ok r) :
    ∃ t, r.2 = { s with endpoints := t } ∧ ∀ e ∈ t, e ∈ s.endpoints ∨ Entered s.catalog e := by
  unfold putServingEndpoint at h
  simp only [checkEndpoint_bind, Tx.reject_bind, Fleet.activeModel_bind, Tx.read_bind] at h
  obtain ⟨valid, guard, ⟨row, known, -⟩, -, h⟩ := h
  simp only [not_or, not_not, Bool.not_eq_true] at guard
  obtain ⟨own, unmanaged, -⟩ := guard
  obtain ⟨_, t, h1, h2⟩ := Tx.bind_ok.1 h
  obtain ⟨entries, ht, origin⟩ := storeEndpoint_ok h1
  cases Tx.pure_ok.1 h2
  refine ⟨entries, ht, fun e he => ?_⟩
  rcases origin e he with old | rfl
  · exact .inl old
  · exact .inr ⟨unmanaged, valid, own, row, known⟩

theorem putServingEndpoint_presents (id : String) (expected : Int) (value : ServingEndpoint) (h : Presents p) :
    Presents (Tx.commit (onFleet (putServingEndpoint id expected value)) p).2 ∧
      Onward p.state (Tx.commit (onFleet (putServingEndpoint id expected value)) p).2.state := by
  rcases Tx.commit_cases (onFleet (putServingEndpoint id expected value)) p with ⟨a, q, hx, hc⟩ | ⟨e, -, hc⟩
  · rw [hc]
    unfold onFleet at hx
    cases hput : putServingEndpoint id expected value p.state with
    | error e => rw [hput] at hx; cases hx
    | ok r =>
      rw [hput] at hx
      cases hx
      obtain ⟨t, ht, origin⟩ := putServingEndpoint_ok hput
      rw [ht]
      refine ⟨h.offer ⟨h.fleet.coupled, h.fleet.models, h.fleet.pools, h.fleet.sessions, fun e he => ?_⟩,
        .of_eq rfl rfl rfl⟩
      rcases origin e he with old | new
      · exact h.fleet.entries e old
      · exact new
  · rw [hc]
    exact ⟨h, .refl p.state⟩

end Entries

/-! ## Route policies -/

section Policies

variable {project : Project} {model actor operation : String} {request : PutRoutePolicy} {pools : List RoutePool}

@[simp] theorem getProject_bind {α : Type} {id : String} {f : Project → PlaneTx α} {r : α × Plane} :
    (getProject id >>= f) p = .ok r ↔ ∃ project, p.db.books.projects.get? id = some project ∧ f project p = .ok r := by
  rw [Tx.bind_ok]
  unfold getProject
  simp only [Tx.read_bind, Tx.expect_ok]
  constructor
  · rintro ⟨project, q, ⟨found, rfl⟩, hf⟩
    exact ⟨project, found, hf⟩
  · rintro ⟨project, found, hf⟩
    exact ⟨project, p, ⟨found, rfl⟩, hf⟩

theorem storePolicy_ok {row : RoutePolicyRow} {expected : Int} {r : Unit × Plane}
    (h : storePolicy row expected p = .ok r) :
    ∃ t, r.2 = { p with policies := t } ∧ ∀ x ∈ t, x ∈ p.policies ∨ x = row := by
  unfold storePolicy at h
  split at h
  · simp only [Tx.read_bind, Tx.expect_bind, Tx.write_ok] at h
    obtain ⟨t, inserted, rfl⟩ := h
    refine ⟨t, rfl, fun x hx => ?_⟩
    rcases (Table.mem_insert? inserted).1 hx with new | old
    · exact .inr new
    · exact .inl old
  · simp only [Tx.read_bind, Tx.reject_bind, Tx.write_ok] at h
    obtain ⟨-, rfl⟩ := h
    refine ⟨_, rfl, fun x hx => ?_⟩
    rcases Table.mem_put.1 hx with ⟨old, -⟩ | ⟨new, -⟩
    · exact .inl old
    · exact .inr new

/-- A stored policy is valid; whether its pools still serve is not the gateway's concern. -/
theorem putRoutePolicy_ok {r : RoutePolicy × Plane}
    (h : putRoutePolicy project model request pools actor operation p = .ok r) :
    r.2.db = p.db ∧ r.2.state = p.state ∧ ∀ x ∈ r.2.policies,
      x ∈ p.policies ∨ (0 < x.revision ∧ x.spec.validate = .ok () ∧ x.projectId = project.id) := by
  unfold putRoutePolicy at h
  cases hv : request.spec.validatePools model pools with
  | error message => rw [hv] at h; simp at h
  | ok u =>
    rw [hv] at h
    obtain ⟨_, q, h1, h⟩ := Tx.bind_ok.1 h
    have read : q = p.setState p.state := by
      unfold onFleet at h1
      cases ha : Fleet.activeModel model p.state with
      | error e => rw [ha] at h1; cases h1
      | ok r =>
        rw [ha] at h1
        cases h1
        have unchanged := (Fleet.activeModel_bind.1 (Tx.bind_ok.2 ⟨_, _, ha, Tx.pure_ok.2 rfl⟩)).2
        rw [← (Prod.mk.inj (Tx.pure_ok.1 unchanged)).2]
    subst read
    simp only [Tx.reject_bind] at h
    obtain ⟨bounds, h⟩ := h
    obtain ⟨_, q, h2, h⟩ := Tx.bind_ok.1 h
    obtain ⟨t, hq, origin⟩ := storePolicy_ok h2
    simp only at hq
    subst hq
    simp only [Tx.read_bind, Tx.expect_bind, Tx.write_bind, Tx.pure_ok] at h
    obtain ⟨history, -, rfl⟩ := h
    refine ⟨rfl, rfl, fun x hx => ?_⟩
    rcases origin x hx with old | rfl
    · exact .inl old
    · exact .inr ⟨by show 0 < request.expectedRevision + 1; omega, validatePools_valid hv, rfl⟩

/-- What is stored is a policy of the project. -/
theorem putRoutePolicy_stored {id : String} (found : p.db.books.projects.get? id = some project) {a : RoutePolicy}
    (h : putRoutePolicy project model request pools actor operation p = .ok (a, q)) :
    q.db = p.db ∧ q.state = p.state ∧ ∀ x ∈ q.policies, x ∈ p.policies ∨
      (0 < x.revision ∧ x.spec.validate = .ok () ∧ ∃ project, p.db.books.projects.get? x.projectId = some project) := by
  obtain ⟨db, state, origin⟩ := putRoutePolicy_ok h
  refine ⟨db, state, fun x hx => ?_⟩
  rcases origin x hx with old | ⟨positive, valid, own⟩
  · exact .inl old
  · refine .inr ⟨positive, valid, project, ?_⟩
    rw [own]
    exact Table.get?_of_mem (Table.get?_mem found)

theorem releaseAction_ok {action : ReleaseAction} {r : RoutePolicy × Plane}
    (h : releaseAction project model action pools actor p = .ok r) :
    ∃ spec, putRoutePolicy project model ⟨action.expectedRevision, spec⟩ pools actor action.name p = .ok r := by
  unfold releaseAction at h
  simp only [Tx.read_bind, Tx.expect_bind, Tx.reject_bind] at h
  obtain ⟨current, -, -, h⟩ := h
  obtain ⟨spec, q, h1, h⟩ := Tx.bind_ok.1 h
  have read : q = p := by
    cases action with
    | pause expected => cases Tx.pure_ok.1 h1; rfl
    | promote expected =>
      unfold nextSpec at h1
      cases hp : current.spec.promote with
      | ok next => rw [hp] at h1; cases Tx.pure_ok.1 h1; rfl
      | error message => rw [hp] at h1; simp at h1
    | rollback expected target =>
      simp only [nextSpec, Tx.reject_bind, Tx.read_bind, Tx.expect_bind, Tx.pure_ok] at h1
      obtain ⟨-, row, -, he⟩ := h1
      cases he
      rfl
  rw [read] at h
  exact ⟨spec, h⟩

/-- A transaction that stores policies of an existing project. -/
theorem policies_presents {α : Type} {x : PlaneTx α} (h : Presents p)
    (stored : ∀ a q, x p = .ok (a, q) → q.db = p.db ∧ q.state = p.state ∧ ∀ row ∈ q.policies,
      row ∈ p.policies ∨ (0 < row.revision ∧ row.spec.validate = .ok () ∧
        ∃ project, p.db.books.projects.get? row.projectId = some project)) :
    Presents (Tx.commit x p).2 ∧ Onward p.state (Tx.commit x p).2.state := by
  rcases Tx.commit_cases x p with ⟨a, q, hx, hc⟩ | ⟨e, -, hc⟩
  · rw [hc]
    obtain ⟨db, state, origin⟩ := stored a q hx
    refine ⟨⟨by rw [db]; exact h.console, by rw [state]; exact h.fleet, fun row hr => ?_⟩, by
      rw [state]; exact .refl p.state⟩
    rw [db]
    rcases origin row hr with old | ⟨positive, valid, known⟩
    · exact h.policies row old
    · exact ⟨positive, valid, known⟩
  · rw [hc]
    exact ⟨h, .refl p.state⟩

/-- The policies of the rows, each with the tenant of its project. -/
theorem routePolicies_ok {projects : Table Project} : ∀ {rows : List RoutePolicyRow} {policies : List RoutePolicy},
    rows.mapM (routePolicy projects) = some policies →
      (policies.map fun x => (x.projectId, x.model)) = rows.map key ∧
        ∀ x ∈ policies, ∃ row ∈ rows, x.revision = row.revision ∧ x.spec = row.spec := by
  intro rows
  induction rows with
  | nil =>
    intro policies h
    cases h
    exact ⟨rfl, nofun⟩
  | cons row rest ih =>
    intro policies h
    rw [List.mapM_cons] at h
    obtain ⟨first, hf, h⟩ := Option.bind_eq_some_iff.1 h
    obtain ⟨others, ho, h⟩ := Option.bind_eq_some_iff.1 h
    cases h
    obtain ⟨project, -, rfl⟩ := Option.map_eq_some_iff.1 hf
    obtain ⟨keys, origin⟩ := ih ho
    refine ⟨by rw [List.map_cons, List.map_cons, keys]; rfl, fun x hx => ?_⟩
    rcases List.mem_cons.1 hx with rfl | hx
    · exact ⟨row, List.mem_cons_self .., rfl, rfl⟩
    · obtain ⟨other, ho, same⟩ := origin x hx
      exact ⟨other, List.mem_cons_of_mem _ ho, same⟩

theorem listRoutePolicies_ok {r : List RoutePolicy × Plane} (h : Presents p) (hl : listRoutePolicies p = .ok r) :
    r.2 = p ∧ validatePolicies [] r.1 = .ok () := by
  unfold listRoutePolicies at hl
  simp only [Tx.read_bind, Tx.expect_ok] at hl
  obtain ⟨found, same⟩ := hl
  refine ⟨same.symm, ?_⟩
  have perm := List.perm_insertionSort policyOrder p.policies.rows
  obtain ⟨keys, origin⟩ := routePolicies_ok found
  refine validatePolicies_ok _ _ (fun x hx => ?_) ?_ fun _ _ => List.not_mem_nil
  · obtain ⟨row, hr, revision, spec⟩ := origin x hx
    have routed := h.policies row (perm.mem_iff.1 hr)
    rw [revision, spec]
    exact ⟨routed.positive, routed.valid⟩
  · -- a project has one tenant, so the key of the table tells the policies apart
    have distinct : (r.1.map fun x => (x.projectId, x.model)).Nodup := by
      rw [keys]
      exact (perm.map _).nodup_iff.2 p.policies.nodup
    rw [show (fun x : RoutePolicy => (x.projectId, x.model)) = Prod.snd ∘ fun x =>
      (x.tenantId, x.projectId, x.model) from rfl, ← List.map_map] at distinct
    exact distinct.of_map _

/-- The policies are always listed. -/
theorem listRoutePolicies_total (h : Presents p) : ∃ policies, listRoutePolicies p = .ok (policies, p) := by
  have all : ∀ rows : List RoutePolicyRow, (∀ row ∈ rows, row ∈ p.policies) →
      ∃ policies, rows.mapM (routePolicy p.db.books.projects) = some policies := by
    intro rows
    induction rows with
    | nil => exact fun _ => ⟨[], rfl⟩
    | cons row rest ih =>
      intro mem
      obtain ⟨project, known⟩ := (h.policies row (mem row (List.mem_cons_self ..))).known
      obtain ⟨others, ho⟩ := ih fun x hx => mem x (List.mem_cons_of_mem _ hx)
      refine ⟨⟨project.tenantId, row.projectId, row.model, row.revision, row.spec⟩ :: others, ?_⟩
      rw [List.mapM_cons, ho, routePolicy, known]
      rfl
  obtain ⟨policies, hp⟩ := all (p.policies.rows.insertionSort policyOrder) fun row hr =>
    (List.perm_insertionSort policyOrder p.policies.rows).mem_iff.1 hr
  refine ⟨policies, ?_⟩
  exact Tx.expect_some hp

end Policies

/-! ## Keys -/

section Keys

variable {now : Int} {R : Db → Db → Prop}

theorem snapshotBalance_keeps [Quiet R] (project : String) (db : Db) : R db (snapshotBalance project db).2 := by
  unfold snapshotBalance
  cases cachedBalance db project with
  | some value => exact refl_of R db
  | none => exact projectBalance_keeps project db

theorem gatewayKey_keeps [Quiet R] (row : ApiKey) (db : Db) : R db (gatewayKey secretHash now row db).2 :=
  Keeping.session (snapshotBalance_keeps _) (fun _ => Keeping.session (Keeping.commit _) fun _ => refl_of R) db

theorem gatewayKeys_keeps [Quiet R] (rows : List ApiKey) : ∀ db, R db (gatewayKeys secretHash now rows db).2 := by
  induction rows with
  | nil => exact refl_of R
  | cons row rest ih => exact Keeping.session (gatewayKey_keeps row) fun _ => Keeping.session ih fun _ => refl_of R

/-- What the gateway asks of a key. -/
def Taken (key : GatewayKey) : Prop := 0 ≤ key.rateLimitRpm ∧ 0 ≤ key.rateLimitTpm ∧ key.secretHash.length = 32

theorem gatewayKey_ok {row : ApiKey} {key : GatewayKey} {db db' : Db}
    (limits : 0 ≤ row.rateLimitRpm ∧ 0 ≤ row.rateLimitTpm) (h : gatewayKey secretHash now row db = (.ok key, db')) :
    Taken key := by
  unfold gatewayKey at h
  obtain ⟨balance, q, -, h⟩ := Session.bind_ok h
  obtain ⟨spent, q', -, h⟩ := Session.bind_ok h
  cases h
  exact ⟨limits.1, limits.2, (secretHash row.id).2⟩

theorem gatewayKeys_ok : ∀ {rows : List ApiKey} {keys : List GatewayKey} {db db' : Db},
    (∀ row ∈ rows, 0 ≤ row.rateLimitRpm ∧ 0 ≤ row.rateLimitTpm) → gatewayKeys secretHash now rows db = (.ok keys, db') →
      ∀ key ∈ keys, Taken key := by
  intro rows
  induction rows with
  | nil =>
    intro keys db db' _ h
    cases h
    exact nofun
  | cons row rest ih =>
    intro keys db db' limits h
    obtain ⟨first, q, hf, h⟩ := Session.bind_ok h
    obtain ⟨others, q', ho, h⟩ := Session.bind_ok h
    cases h
    intro key hk
    rcases List.mem_cons.1 hk with rfl | hk
    · exact gatewayKey_ok (limits row (List.mem_cons_self ..)) hf
    · exact ih (fun x hx => limits x (List.mem_cons_of_mem _ hx)) ho key hk

theorem credentials_ok {policies : List RoutePolicy} : ∀ {keys : List GatewayKey}, (∀ key ∈ keys, Taken key) →
    ∃ credentials, keys.mapM (credential policies) = .ok credentials := by
  intro keys
  induction keys with
  | nil => exact fun _ => ⟨[], rfl⟩
  | cons key rest ih =>
    intro taken
    obtain ⟨others, ho⟩ := ih fun x hx => taken x (List.mem_cons_of_mem _ hx)
    rw [List.mapM_cons, ho, credential, dif_pos (taken key (List.mem_cons_self ..)).2.2]
    exact ⟨_, rfl⟩

end Keys

/-! ## The catalog -/

theorem Listed.entry {catalog : Table CatalogRow} {pool : ManagedPool} (h : Listed catalog pool) :
    managed pool.endpoint.id = true := by rw [h.own]; exact h.named

/-- The catalog with the entries of no pools, or of those of the fleet, is valid. -/
theorem catalogSnapshot_valid (h : Presents p) {pools : List ManagedPool}
    (listed : ∀ pool ∈ pools, pool ∈ p.fleet.pools) (distinct : (pools.map fun pool => pool.id).Nodup) :
    CatalogSnapshot.validate { catalogSnapshot p with
      endpoints := (catalogSnapshot p).endpoints ++ pools.map fun pool => pool.endpoint } = .ok () := by
  have rows := List.perm_insertionSort (fun a b : CatalogRow => a.id ≤ b.id) p.db.books.catalog.rows
  have entries := List.perm_insertionSort (fun a b : ServingEndpointRow => a.id ≤ b.id) p.fleet.endpoints.rows
  have models : ∀ e ∈ (catalogSnapshot p).models,
      e.model.validate = .ok () ∧ 0 < e.revision ∧ (e.defaultPool.any fun id => !Catalog.identifier id) = false := by
    intro e he
    obtain ⟨row, hr, rfl⟩ := List.mem_map.1 he
    have servable := h.fleet.models row (rows.mem_iff.1 hr)
    exact ⟨servable.valid, servable.positive, servable.pool⟩
  have names : ((catalogSnapshot p).models.map fun e => e.model.id) =
      (p.db.books.catalog.rows.insertionSort fun a b => a.id ≤ b.id).map key := by
    unfold catalogSnapshot
    rw [List.map_map]
    exact List.map_congr_left fun row hr => (h.fleet.models row (rows.mem_iff.1 hr)).own
  have apart : ((catalogSnapshot p).models.map fun e => e.model.id).Nodup := by
    rw [names]
    exact (rows.map _).nodup_iff.2 p.db.books.catalog.nodup
  obtain ⟨names, ok, -, named⟩ := validateModels_ok (catalogSnapshot p).models [] models apart fun _ _ =>
    List.not_mem_nil
  -- a model of the catalog is among the names
  have known : ∀ model : String, (∃ row, p.state.catalog.get? model = some row) → model ∈ names := by
    rintro model ⟨row, hr⟩
    obtain ⟨mem, rfl⟩ := Table.get?_some_iff.1 hr
    have := named (catalogModel row) (List.mem_map.2 ⟨row, rows.mem_iff.2 mem, rfl⟩)
    rw [show (catalogModel row).model.id = key row from (h.fleet.models row mem).own] at this
    exact this
  unfold CatalogSnapshot.validate
  simp only [ok, bind, Except.bind]
  refine validateEndpoints_ok _ _ (fun e he => ?_) ?_ fun _ _ => List.not_mem_nil
  · rcases List.mem_append.1 he with he | he
    · obtain ⟨row, hr, rfl⟩ := List.mem_map.1 he
      have entered := h.fleet.entries row (entries.mem_iff.1 hr)
      exact ⟨entered.valid, known _ entered.known⟩
    · obtain ⟨pool, hp, rfl⟩ := List.mem_map.1 he
      have taken := h.fleet.pools pool (listed pool hp)
      exact ⟨taken.valid, known _ taken.known⟩
  · rw [List.map_append, List.nodup_append]
    refine ⟨?_, ?_, ?_⟩
    · have same : ((catalogSnapshot p).endpoints.map fun e => e.id) =
          (p.fleet.endpoints.rows.insertionSort fun a b => a.id ≤ b.id).map key := by
        unfold catalogSnapshot
        rw [List.map_map]
        exact List.map_congr_left fun row hr => (h.fleet.entries row (entries.mem_iff.1 hr)).own
      rw [same]
      exact (entries.map _).nodup_iff.2 p.fleet.endpoints.nodup
    · have same : ((pools.map fun pool : ManagedPool => pool.endpoint).map fun e => e.id) =
          pools.map fun pool => pool.id := by
        rw [List.map_map]
        exact List.map_congr_left fun pool hp => (h.fleet.pools pool (listed pool hp)).own
      rw [same]
      exact distinct
    · -- a legacy entry is not managed
      rintro a ha b hb rfl
      obtain ⟨e, he, rfl⟩ := List.mem_map.1 ha
      obtain ⟨row, hr, rfl⟩ := List.mem_map.1 he
      obtain ⟨e', he', same⟩ := List.mem_map.1 hb
      obtain ⟨pool, hp, rfl⟩ := List.mem_map.1 he'
      have entered := h.fleet.entries row (entries.mem_iff.1 hr)
      have := (h.fleet.pools pool (listed pool hp)).entry
      rw [same, entered.own, entered.unmanaged] at this
      cases this

/-! ## What the sessions of a snapshot leave -/

section Sessions

variable {R : Plane → Plane → Prop} [IsPreorder Plane R]

/-- Reading the console writes nothing but its database. -/
theorem gatewaySnapshot_within (console : ∀ p db, R p { p with db := db }) (secretHash : String → Digest) (now : Int) :
    Session.Within R (gatewaySnapshot secretHash now) := by
  unfold gatewaySnapshot
  refine Session.within_bind (Session.within_commit (Tx.within_read _)) fun rows => ?_
  refine Session.within_bind (fun p => console p _) fun keys => ?_
  refine Session.within_bind (Session.within_commit ?_) fun policies => ?_
  · exact Tx.within_bind (Tx.within_read _) fun rows => Tx.within_bind (Tx.within_read _) fun projects =>
      Tx.within_expect _ _
  · exact Session.within_bind (Session.within_commit (Tx.within_read _)) fun catalog => Session.within_pure _

theorem trafficSnapshot_within {env : Fleet.Env} {wallAt now : Int} {nonce token id : String}
    {identity : Option GatewayIdentity} (console : ∀ p db, R p { p with db := db })
    (grants : Tx.Within R (onFleet (Fleet.trafficSnapshot env wallAt now nonce token id identity)))
      (secretHash : String → Digest) :
    Session.Within R (trafficSnapshot env secretHash wallAt now nonce token id identity) := by
  unfold trafficSnapshot
  refine Session.within_bind (Session.within_commit (Tx.within_reject _ _)) fun _ => ?_
  refine Session.within_bind (gatewaySnapshot_within console secretHash wallAt) fun snapshot => ?_
  refine Session.within_bind (Session.within_commit (Tx.within_read _)) fun pools => ?_
  exact Session.within_bind (Session.within_commit grants) fun grant => Session.within_pure _

theorem answered_plane (r : Except ServiceError GatewaySnapshot × Plane) : (answered r).2 = r.2 := by
  obtain ⟨o, p⟩ := r
  cases o <;> rfl

end Sessions

end Xscope.Serving

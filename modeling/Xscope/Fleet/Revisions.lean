/-
What the revisions of a cluster ask for a managed deployment. From the version of a pool's own
change on, whatever a revision asks for the deployment is what the pool has recorded; but a desired
state may leave the deployment out, and then the newest revision carries the change no longer.
-/
import Xscope.Fleet.Delivery
import Xscope.Fleet.Coupling

namespace Xscope.Fleet

variable {env : Env} {s s' : State} {op : Op}

/-! ## Items of a payload -/

/-- The item for a deployment. -/
def itemOf (deployment : String) (payload : List DesiredDeployment) : Option DesiredDeployment :=
  payload.find? fun d => d.name == deployment

theorem itemOf_isSome {deployment : String} {payload : List DesiredDeployment} :
    (itemOf deployment payload).isSome ↔ ∃ d ∈ payload, d.name = deployment := by
  unfold itemOf
  rw [List.find?_isSome]
  simp only [beq_iff_eq]

theorem itemOf_replaceItem (item : DesiredDeployment) (deployment : String) (payload : List DesiredDeployment) :
    itemOf deployment (replaceItem item payload) =
      if item.name = deployment ∧ (itemOf deployment payload).isSome then some item else itemOf deployment payload := by
  unfold itemOf
  induction payload with
  | nil => simp [replaceItem]
  | cons d rest ih =>
    unfold replaceItem
    by_cases hd : d.name = item.name
    · rw [if_pos hd]
      by_cases hi : item.name = deployment
      · simp [hd, hi]
      · simp [hd, hi]
    · rw [if_neg hd]
      by_cases hn : d.name = deployment
      · have : ¬item.name = deployment := fun h => hd (hn.trans h.symm)
        simp [hn, this]
      · have : (d.name == deployment) = false := beq_false_of_ne hn
        simp only [List.find?_cons, this]
        exact ih

theorem itemOf_upsertItem (item : DesiredDeployment) (deployment : String) (payload : List DesiredDeployment) :
    itemOf deployment (upsertItem item payload) = if item.name = deployment then some item
      else itemOf deployment payload := by
  unfold upsertItem
  by_cases hi : item.name = deployment
  · subst hi
    rw [if_pos rfl]
    split
    · rename_i there
      obtain ⟨d, hd, hn⟩ := List.any_eq_true.1 there
      have named : (itemOf item.name payload).isSome := itemOf_isSome.2 ⟨d, hd, beq_iff_eq.1 hn⟩
      rw [itemOf_replaceItem, if_pos ⟨rfl, named⟩]
    · rename_i absent
      unfold itemOf
      have none : payload.find? (fun d => d.name == item.name) = none :=
        List.find?_eq_none.2 fun d hd hn => absent (List.any_eq_true.2 ⟨d, hd, hn⟩)
      rw [List.find?_append, none, Option.none_or]
      exact List.find?_cons_of_pos (beq_self_eq_true _)
  · rw [if_neg hi]
    split
    · rw [itemOf_replaceItem, if_neg fun h => hi h.1]
    · unfold itemOf
      rw [List.find?_append]
      simp [hi]

/-! ## What a pool has recorded -/

/-- The item asks for what the pool has recorded: its spec, or the deletion of its deployment once it is retired. -/
def ManagedPool.Asks (row : ManagedPool) (item : DesiredDeployment) : Prop :=
  if row.state = .retired then item.spec = none ∧ ∃ uid, row.deploymentUid = some uid ∧ item.deleteUid = some uid
  else item.spec = some row.expectedSpec

/-- The revisions from the one of a pool's change on agree with what it has recorded. -/
structure Agrees (s : State) (row : ManagedPool) : Prop where
  cluster : ∃ c, s.clusters.get? row.clusterId = some c ∧ row.desiredVersion ≤ c.desiredVersion
  asks : ∀ v r item, row.desiredVersion ≤ v → s.revisions.get? (row.clusterId, v) = some r →
    itemOf row.deployment r.payload = some item → row.Asks item
  identified : row.state = .retired → ∃ uid, row.deploymentUid = some uid

/-- The pool is as before, as far as its revisions are concerned. -/
structure SameOrder (row row' : ManagedPool) : Prop where
  cluster : row'.clusterId = row.clusterId
  deployment : row'.deployment = row.deployment
  version : row'.desiredVersion = row.desiredVersion
  spec : row'.expectedSpec = row.expectedSpec
  retired : row'.state = .retired ↔ row.state = .retired
  uid : ∀ uid, row.deploymentUid = some uid → row'.deploymentUid = some uid

theorem SameOrder.refl (row : ManagedPool) : SameOrder row row := ⟨rfl, rfl, rfl, rfl, .rfl, fun _ h => h⟩

theorem SameOrder.asks {row row' : ManagedPool} (h : SameOrder row row') {item : DesiredDeployment}
    (a : row.Asks item) : row'.Asks item := by
  unfold ManagedPool.Asks at a ⊢
  by_cases hr : row.state = .retired
  · rw [if_pos hr] at a
    rw [if_pos (h.retired.2 hr)]
    obtain ⟨spec, uid, hu, delete⟩ := a
    exact ⟨spec, uid, h.uid uid hu, delete⟩
  · rw [if_neg hr] at a
    rw [if_neg fun hn => hr (h.retired.1 hn), h.spec]
    exact a

theorem SameOrder.agrees {row row' : ManagedPool} (h : SameOrder row row') (a : Agrees s row)
    (revisions : s'.revisions = s.revisions) (clusters : ∀ c, s.clusters.get? row.clusterId = some c →
      ∃ c', s'.clusters.get? row.clusterId = some c' ∧ c.desiredVersion ≤ c'.desiredVersion) : Agrees s' row' := by
  refine ⟨?_, fun v r item hv hr hi => ?_, fun hr => ?_⟩
  · obtain ⟨c, hc, hle⟩ := a.cluster
    obtain ⟨c', hc', hle'⟩ := clusters c hc
    exact ⟨c', by rw [h.cluster]; exact hc', by rw [h.version]; exact hle.trans hle'⟩
  · rw [h.cluster, revisions] at hr
    rw [h.deployment] at hi
    exact h.asks (a.asks v r item (h.version ▸ hv) hr hi)
  · obtain ⟨uid, hu⟩ := a.identified (h.retired.1 hr)
    exact ⟨uid, h.uid uid hu⟩

/-- A step that is none of a desired state or a new number of replicas leaves the orders of the pool alone. -/
theorem PoolStep.sameOrder {row row' : ManagedPool} (h : PoolStep s op row row') (c : Coupled row)
    (same : row'.expectedSpec = row.expectedSpec ∧ row'.desiredVersion = row.desiredVersion ∧
    op.putsDesired = false) : SameOrder row row' := by
  have placed {op : Operation} (ho : row.scaleOperation = some op) : row.state ≠ .retired := by
    intro hr
    rcases c.placed ho with h | h | h <;> rw [hr] at h <;> cases h
  cases h with
  | closing live =>
    refine ⟨rfl, rfl, rfl, rfl, iff_of_false (by rintro ⟨⟩) fun hr => ?_, fun _ h => h⟩
    rcases live with h | h <;> rw [hr] at h <;> cases h
  | finished closed | activated closed =>
    exact ⟨rfl, rfl, rfl, rfl, iff_of_false (by rintro ⟨⟩) (by rw [closed]; rintro ⟨⟩), fun _ h => h⟩
  | tasked => exact ⟨rfl, rfl, rfl, rfl, .rfl, fun _ h => h⟩
  | @observed _ _ _ _ report =>
    refine ⟨rfl, rfl, rfl, rfl, ?_, fun uid hu => ?_⟩
    · rw [observed_state]
      split
      · rename_i hr
        exact iff_of_false (by rintro ⟨⟩) (by rw [registers_pending hr]; rintro ⟨⟩)
      · exact .rfl
    · show (if row.deploymentUid.isNone then _ else _) = _
      rw [hu]
      rfl
  | completed => exact ⟨rfl, rfl, rfl, rfl, .rfl, fun _ h => h⟩
  | reopened operation => exact ⟨rfl, rfl, rfl, rfl, iff_of_false (by rintro ⟨⟩) (placed operation), fun _ h => h⟩
  | shrinking live => exact ⟨rfl, rfl, rfl, rfl, iff_of_false (by rintro ⟨⟩) (by rw [live]; rintro ⟨⟩), fun _ h => h⟩
  | grown => exact ⟨rfl, rfl, same.2.1, same.1, .rfl, fun _ h => h⟩
  | shrunk closed =>
    exact ⟨rfl, rfl, same.2.1, same.1, iff_of_false (by rintro ⟨⟩) (by rw [closed]; rintro ⟨⟩), fun _ h => h⟩
  | respecced => cases same.2.2

/-! ## Desired states -/

/-- What the guard on a desired state makes of a pool and its item. -/
inductive Ordered (version : Int) (row row' : ManagedPool) (before after : Option DesiredDeployment) : Prop
  | unnamed (same : row' = row) (absent : before = none) (still : after = none)
  | kept {item : DesiredDeployment} (same : row' = row) (named : before.isSome) (now : after = some item)
      (asks : row'.Asks item)
  | changed {item : DesiredDeployment} (named : before.isSome) (now : after = some item) (asks : row'.Asks item)
      (version : row'.desiredVersion = version) (cluster : row'.clusterId = row.clusterId)
      (deployment : row'.deployment = row.deployment) (identified : ∃ uid, row'.deploymentUid = some uid)

theorem Guarded.ordered {now version : Int} {rows : List ManagedPool} {d d' : List DesiredDeployment}
    {pools pools' : Table ManagedPool} (g : Guarded now version rows d pools d' pools') :
    (rows.map (·.deployment)).Nodup → (rows.map (·.id)).Nodup →
      (∀ row ∈ rows, pools.get? row.id = some row) →
        (∀ row ∈ rows, row.state = .retired → ∃ uid, row.deploymentUid = some uid) →
      (∀ n, n ∉ rows.map (·.deployment) → itemOf n d' = itemOf n d) ∧
      ∀ row ∈ rows, ∃ row', pools'.get? row.id = some row' ∧
        Ordered version row row' (itemOf row.deployment d) (itemOf row.deployment d') := by
  -- one pool, then the others: the items of other deployments are not touched
  have cons : ∀ {row row' : ManagedPool} {rest : List ManagedPool} {d d₁ d' : List DesiredDeployment}
    {pools₁ pools' : Table ManagedPool},
      Guarded now version rest d₁ pools₁ d' pools' → ((row :: rest).map (·.deployment)).Nodup →
        ((row :: rest).map (·.id)).Nodup →
      (∀ x ∈ rest, pools₁.get? x.id = some x) → pools₁.get? row.id = some row' →
      (∀ n, n ≠ row.deployment → itemOf n d₁ = itemOf n d) →
      Ordered version row row' (itemOf row.deployment d) (itemOf row.deployment d₁) →
      ((rest.map (·.deployment)).Nodup → (rest.map (·.id)).Nodup → (∀ x ∈ rest, pools₁.get? x.id = some x) →
        (∀ n, n ∉ rest.map (·.deployment) → itemOf n d' = itemOf n d₁) ∧
        ∀ x ∈ rest, ∃ x', pools'.get? x.id = some x' ∧ Ordered version x x' (itemOf x.deployment d₁)
          (itemOf x.deployment d')) →
      (∀ n, n ∉ (row :: rest).map (·.deployment) → itemOf n d' = itemOf n d) ∧
        ∀ x ∈ row :: rest, ∃ x', pools'.get? x.id = some x' ∧
          Ordered version x x' (itemOf x.deployment d) (itemOf x.deployment d') := by
    intro row row' rest d d₁ d' pools₁ pools' tail deployments ids found here others head ih
    obtain ⟨freshDeployment, deployments⟩ := List.nodup_cons.1 deployments
    obtain ⟨freshId, ids⟩ := List.nodup_cons.1 ids
    obtain ⟨unnamed, rest'⟩ := ih deployments ids found
    obtain ⟨kept, -⟩ := tail.pools_eq (s := State.empty) "" "" ⟨0, []⟩ ids found
    refine ⟨fun n hn => ?_, fun x hx => ?_⟩
    · rw [unnamed n fun hm => hn (List.mem_cons_of_mem _ hm)]
      exact others n fun he => hn (he ▸ List.mem_cons_self)
    · rcases List.mem_cons.1 hx with rfl | hx
      · refine ⟨row', by rw [kept _ freshId]; exact here, ?_⟩
        rw [unnamed _ freshDeployment]
        exact head
      · obtain ⟨x', hx', ordered⟩ := rest' x hx
        refine ⟨x', hx', ?_⟩
        rw [← others x.deployment fun he => freshDeployment (List.mem_map.2 ⟨x, hx, he⟩)]
        exact ordered
  have apart {item : DesiredDeployment} {deployment n : String} {d : List DesiredDeployment}
    (name : item.name = deployment)
      (hn : n ≠ deployment) : itemOf n (replaceItem item d) = itemOf n d := by
    rw [itemOf_replaceItem, if_neg fun h => hn (h.1.symm.trans name)]
  have placed {item : DesiredDeployment} {deployment : String} {d : List DesiredDeployment}
    (name : item.name = deployment)
      (there : (itemOf deployment d).isSome) : itemOf deployment (replaceItem item d) = some item := by
    rw [itemOf_replaceItem, if_pos ⟨name, there⟩]
  have nameOf {item : DesiredDeployment} {deployment : String} {d : List DesiredDeployment}
      (h : d.find? (fun x => x.name == deployment) = some item) : item.name = deployment := by
    simpa using List.find?_some h
  induction g with
  | done => exact fun _ _ _ _ => ⟨fun _ _ => rfl, fun _ h => by cases h⟩
  | @absent row rest d d' pools pools' unnamed tail ih =>
    intro deployments ids found identified
    refine cons tail deployments ids (fun x hx => found x (List.mem_cons_of_mem _ hx)) (found row List.mem_cons_self)
      (fun _ _ => rfl) (.unnamed rfl unnamed unnamed) fun hd hi hf => ih hd hi hf fun x hx =>
        identified x (List.mem_cons_of_mem _ hx)
  | @deleted row rest d d' pools pools' item named retired deletion uid tail ih =>
    intro deployments ids found identified
    have name := nameOf named
    have there : (itemOf row.deployment d).isSome := by unfold itemOf; rw [named]; rfl
    refine cons tail deployments ids (fun x hx => found x (List.mem_cons_of_mem _ hx)) (found row List.mem_cons_self)
      (fun n hn => apart name hn) (.kept rfl there (placed name there) ?_)
      fun hd hi hf => ih hd hi hf fun x hx => identified x (List.mem_cons_of_mem _ hx)
    obtain ⟨u, hu⟩ := identified row List.mem_cons_self retired
    unfold ManagedPool.Asks
    rw [if_pos retired]
    exact ⟨deletion, u, hu, uid.trans hu⟩
  | @kept row rest d d' pools pools' item named live same tail ih =>
    intro deployments ids found identified
    have name := nameOf named
    have there : (itemOf row.deployment d).isSome := by unfold itemOf; rw [named]; rfl
    refine cons tail deployments ids (fun x hx => found x (List.mem_cons_of_mem _ hx)) (found row List.mem_cons_self)
      (fun n hn => apart name hn) (.kept rfl there (placed name there) ?_)
      fun hd hi hf => ih hd hi hf fun x hx => identified x (List.mem_cons_of_mem _ hx)
    unfold ManagedPool.Asks
    rw [if_neg live]
    exact same
  | @changed row rest d d' pools pools' item uid named closed free hu change deletion tail ih =>
    intro deployments ids found identified
    have name : (if item.spec.isSome then { item with expectedUid := some uid } else item).name = row.deployment := by
      rw [← nameOf named]
      split <;> rfl
    have there : (itemOf row.deployment d).isSome := by unfold itemOf; rw [named]; rfl
    have here := found row List.mem_cons_self
    have lookup (k : String) : (pools.put (row.respecced now version (row.generation + 1) item)).get? k =
        if row.id = k then some (row.respecced now version (row.generation + 1) item) else pools.get? k :=
      Table.get?_put_at (show key (row.respecced now version (row.generation + 1) item) = row.id from rfl) here k
    obtain ⟨freshId, -⟩ := List.nodup_cons.1 ids
    refine cons tail deployments ids (fun x hx => ?_) ((lookup row.id).trans (if_pos rfl)) (fun n hn => apart name hn)
      (.changed there (placed name there) ?_ rfl rfl rfl ⟨uid, hu⟩) fun hd hi hf => ih hd hi hf fun x hx =>
        identified x (List.mem_cons_of_mem _ hx)
    · rw [lookup, if_neg fun he => freshId (List.mem_map.2 ⟨x, hx, he.symm⟩)]
      exact found x (List.mem_cons_of_mem _ hx)
    · unfold ManagedPool.Asks ManagedPool.respecced
      cases hs : item.spec with
      | some spec => simp [closed]
      | none => simp [hs, hu, deletion hs]

/-! ## The invariant -/

/-- The pools of a state: no two of one deployment, each in agreement with the revisions. -/
structure Orderly (s : State) : Prop where
  distinct : ∀ p ∈ s.pools, ∀ q ∈ s.pools, p.clusterId = q.clusterId → p.deployment = q.deployment → p = q
  agrees : ∀ p ∈ s.pools, Agrees s p

theorem Orderly.empty : Orderly State.empty :=
  ⟨fun _ h => absurd h (Table.not_mem_empty _), fun _ h => absurd h (Table.not_mem_empty _)⟩

/-- Pools that keep their names keep apart. -/
theorem Orderly.apart (o : Orderly s) {pools : Table ManagedPool}
    (origin : ∀ p' ∈ pools, ∃ p ∈ s.pools, p'.id = p.id ∧ p'.clusterId = p.clusterId ∧ p'.deployment = p.deployment) :
    ∀ p ∈ pools, ∀ q ∈ pools, p.clusterId = q.clusterId → p.deployment = q.deployment → p = q := by
  intro p' hp' q' hq' hc hd
  obtain ⟨p, hp, ip, cp, dp⟩ := origin p' hp'
  obtain ⟨q, hq, iq, cq, dq⟩ := origin q' hq'
  have : p = q := o.distinct p hp q hq (by rw [← cp, ← cq, hc]) (by rw [← dp, ← dq, hd])
  exact Table.eq_of_key hp' hq' (show p'.id = q'.id by rw [ip, iq, this])

/-- A move that leaves the revisions alone and the pools in their order. -/
theorem Orderly.same (o : Orderly s) (revisions : s'.revisions = s.revisions)
    (clusters : ∀ id c, s.clusters.get? id = some c → ∃ c', s'.clusters.get? id = some c' ∧
    c.desiredVersion ≤ c'.desiredVersion)
    (pools : ∀ p' ∈ s'.pools, ∃ p ∈ s.pools, SameOrder p p' ∧ p'.id = p.id) : Orderly s' := by
  constructor
  · refine o.apart fun p' hp' => ?_
    obtain ⟨p, hp, sp, ip⟩ := pools p' hp'
    exact ⟨p, hp, ip, sp.cluster, sp.deployment⟩
  · intro p' hp'
    obtain ⟨p, hp, sp, -⟩ := pools p' hp'
    exact sp.agrees (o.agrees p hp) revisions fun c hc => clusters _ c hc

/-- A row of the pools is put in the order it had. -/
theorem put_sameOrder {row row' : ManagedPool} (found : s.pools.get? row.id = some row) (h : SameOrder row row')
    (hid : row'.id = row.id) :
    ∀ p' ∈ s.pools.put row', ∃ p ∈ s.pools, SameOrder p p' ∧ p'.id = p.id := by
  intro p' hp'
  rcases Table.mem_put.1 hp' with ⟨hp, -⟩ | ⟨rfl, -⟩
  · exact ⟨p', hp, .refl p', rfl⟩
  · exact ⟨row, Table.get?_mem found, h, hid⟩

/-- A revision is stored up to the desired version only. -/
theorem Delivered.stored_le (d : Delivered env s) {c : MemberCluster} {id : String}
    (hc : s.clusters.get? id = some c) {v : Int} {r : ClusterRevision}
    (hr : s.revisions.get? (id, v) = some r) : v ≤ c.desiredVersion := by
  have hid : c.id = id := Table.get?_key hc
  exact ((d.contiguous c (Table.get?_mem hc) v).1 ⟨r, by rw [hid]; exact hr⟩).2

/-- A pool after a new revision of a cluster: it recorded the revision, or it agreed with the earlier ones. -/
theorem Agrees.revised (d : Delivered env s) {row : MemberCluster} {r : ClusterRevision}
    (found : s.clusters.get? row.id = some row) (key : r.clusterId = row.id ∧ r.version = row.desiredVersion + 1)
    (inserted : s.revisions.insert? r = some s'.revisions)
    (clusters : s'.clusters = s.clusters.put { row with desiredVersion := row.desiredVersion + 1 }) {p : ManagedPool}
      (before : p.clusterId = row.id ∧ p.desiredVersion = row.desiredVersion + 1 ∧
      (p.state = .retired → ∃ uid, p.deploymentUid = some uid) ∨
      Agrees s p)
    (asks : p.clusterId = row.id → ∀ item, itemOf p.deployment r.payload = some item → p.Asks item) : Agrees s' p := by
  have lookup (k : String) : s'.clusters.get? k = if row.id = k then
      some { row with desiredVersion := row.desiredVersion + 1 } else s.clusters.get? k := by
    rw [clusters]
    exact Table.get?_put_at (show Keyed.key ({ row with desiredVersion := row.desiredVersion + 1 } : MemberCluster) =
      row.id from rfl) found k
  refine ⟨?_, fun v x item hv hx hi => ?_, ?_⟩
  · rcases before with ⟨hc, hv, -⟩ | a
    · refine ⟨_, by rw [lookup, if_pos hc.symm], hv.le⟩
    · obtain ⟨c, hc, hle⟩ := a.cluster
      rw [lookup]
      split
      · rename_i he
        rw [← he, found] at hc
        cases hc
        refine ⟨_, rfl, ?_⟩
        show p.desiredVersion ≤ row.desiredVersion + 1
        omega
      · exact ⟨c, hc, hle⟩
  · rw [Table.get?_insert? inserted] at hx
    split at hx
    · rename_i he
      cases hx
      exact asks (key.1 ▸ (Prod.mk.inj he).1.symm) item hi
    · rcases before with ⟨hc, hp, -⟩ | a
      · -- an earlier revision is of an earlier version
        have := d.stored_le (hc ▸ found) hx
        rw [hp] at hv
        omega
      · exact a.asks v x item hv hx hi
  · rcases before with ⟨-, -, identified⟩ | a
    · exact identified
    · exact a.identified

theorem Ordered.same {version : Int} {row row' : ManagedPool} {before after : Option DesiredDeployment}
    (h : Ordered version row row' before after) :
    row'.clusterId = row.clusterId ∧ row'.deployment = row.deployment := by
  cases h with
  | unnamed same | kept same => rw [same]; exact ⟨rfl, rfl⟩
  | changed _ _ _ _ cluster deployment => exact ⟨cluster, deployment⟩

theorem Ordered.asks {version : Int} {row row' : ManagedPool} {before after : Option DesiredDeployment}
    (h : Ordered version row row' before after) {item : DesiredDeployment}
    (ha : after = some item) : row'.Asks item := by
  cases h with
  | unnamed _ _ still => rw [still] at ha; cases ha
  | kept _ _ now asks | changed _ now asks => cases Option.some.inj (now.symm.trans ha); exact asks

/-- The pools after a desired state: those of other clusters are as before, those of the cluster are ordered by it. -/
theorem Orderly.ordered (o : Orderly s) {now version : Int} {id : String} {d d' : List DesiredDeployment}
    {pools : Table ManagedPool} (g : Guarded now version (s.poolsOf id) d s.pools d' pools) :
    (∀ p' ∈ pools, p' ∈ s.pools ∧ p'.clusterId ≠ id ∨ ∃ p ∈ s.pools, p.clusterId = id ∧ p'.id = p.id ∧
      Ordered version p p' (itemOf p.deployment d) (itemOf p.deployment d')) ∧
    ∀ p ∈ s.pools, p.clusterId = id → ∃ p' ∈ pools, Ordered version p p' (itemOf p.deployment d)
      (itemOf p.deployment d') := by
  obtain ⟨rows, ids⟩ := s.poolsOf_spec id
  have deployments : ((s.poolsOf id).map (·.deployment)).Nodup := by
    refine (List.Nodup.of_map _ ids).map_on fun p hp q hq he => ?_
    obtain ⟨hp, hpc⟩ := rows p hp
    obtain ⟨hq, hqc⟩ := rows q hq
    exact o.distinct p (Table.get?_mem hp) q (Table.get?_mem hq) (hpc.trans hqc.symm) he
  have identified : ∀ p ∈ s.poolsOf id, p.state = .retired → ∃ uid, p.deploymentUid = some uid := fun p hp =>
    (o.agrees p (Table.get?_mem (rows p hp).1)).identified
  have found : ∀ p ∈ s.poolsOf id, s.pools.get? p.id = some p := fun p hp => (rows p hp).1
  obtain ⟨-, steps⟩ := g.ordered deployments ids found identified
  obtain ⟨others, -⟩ := g.pools_eq (s := State.empty) "" "" ⟨0, []⟩ ids found
  have listed {p : ManagedPool} (hp : p ∈ s.pools) (hc : p.clusterId = id) : p ∈ s.poolsOf id :=
    (List.mem_insertionSort _).2 (List.mem_filter.2 ⟨hp, beq_iff_eq.2 hc⟩)
  constructor
  · intro p' hp'
    have here : pools.get? p'.id = some p' := Table.get?_of_mem hp'
    by_cases hm : p'.id ∈ (s.poolsOf id).map (·.id)
    · obtain ⟨p, hp, he⟩ := List.mem_map.1 hm
      obtain ⟨q, hq, ordered⟩ := steps p hp
      rw [he, here] at hq
      cases hq
      exact .inr ⟨p, Table.get?_mem (found p hp), (rows p hp).2, he.symm, ordered⟩
    · rw [others _ hm] at here
      refine .inl ⟨Table.get?_mem here, fun hc => hm ?_⟩
      exact List.mem_map_of_mem (listed (Table.get?_mem here) hc)
  · intro p hp hc
    obtain ⟨p', hp', ordered⟩ := steps p (listed hp hc)
    exact ⟨p', Table.get?_mem hp', ordered⟩

theorem Move.orderly (m : Move env op s s') (d : Delivered env s) (c : ∀ p ∈ s.pools, Coupled p)
    (o : Orderly s) : Orderly s' := by
  have grows := m.grows
  have clusters : ∀ id c, s.clusters.get? id = some c → ∃ c', s'.clusters.get? id = some c' ∧
      c.desiredVersion ≤ c'.desiredVersion := by
    intro id c hc
    obtain ⟨c', hc', desired, -⟩ := grows.versions id c hc
    exact ⟨c', hc', desired⟩
  have still : ∀ p ∈ s.pools, ∃ q ∈ s.pools, SameOrder q p ∧ p.id = q.id := fun p hp => ⟨p, hp, .refl p, rfl⟩
  cases m with
  | pool found step same =>
    exact o.same rfl clusters (put_sameOrder found (step.sameOrder (c _ (Table.get?_mem found)) same) step.id_eq)
  | @desired _ now actor id request row deployments pools revisions found unrevoked wellFormed guarded inserted =>
    obtain rfl := Table.get?_key found
    obtain ⟨pools', -⟩ := o.ordered guarded
    have origin : ∀ p' ∈ pools, ∃ p ∈ s.pools, p'.id = p.id ∧ p'.clusterId = p.clusterId ∧
        p'.deployment = p.deployment := by
      intro p' hp'
      rcases pools' p' hp' with ⟨hp, -⟩ | ⟨p, hp, -, hi, ordered⟩
      · exact ⟨p', hp, rfl, rfl, rfl⟩
      · exact ⟨p, hp, hi, ordered.same⟩
    constructor
    · exact o.apart origin
    · intro p' hp'
      rcases pools' p' hp' with ⟨hp, hne⟩ | ⟨p, hp, hc, -, ordered⟩
      · exact .revised d found ⟨rfl, rfl⟩ inserted rfl (.inr (o.agrees p' hp)) fun h => absurd h hne
      · refine .revised d found ⟨rfl, rfl⟩ inserted rfl ?_ fun _ item hi => ordered.asks (ordered.same.2 ▸ hi)
        cases ordered with
        | unnamed same | kept same => rw [same]; exact .inr (o.agrees p hp)
        | changed _ _ _ version cluster _ identified => exact .inl ⟨cluster.trans hc, version, fun _ => identified⟩
  | @bound _ now id request legacy cluster revision endpoint spec pools found current stored named fenced dedicated _
    _ _ inserted =>
    have hid : cluster.id = request.clusterId := Table.get?_key found
    constructor
    · intro p hp q hq hc hd
      rcases (Table.mem_insert? inserted).1 hp with rfl | hp <;> rcases (Table.mem_insert? inserted).1 hq with rfl | hq
      · rfl
      · exact absurd ⟨hc.symm, hd.symm⟩ (dedicated q hq)
      · exact absurd ⟨hc, hd⟩ (dedicated p hp)
      · exact o.distinct p hp q hq hc hd
    · intro p hp
      rcases (Table.mem_insert? inserted).1 hp with rfl | hp
      · refine ⟨⟨cluster, found, current.le⟩, fun v r item hv hr hi => ?_, fun hr => by cases hr⟩
        have hr : s.revisions.get? (request.clusterId, v) = some r := hr
        have hle := d.stored_le found hr
        have hv : request.expectedDesiredVersion ≤ v := hv
        have same : v = cluster.desiredVersion := by omega
        subst same
        rw [← hid] at hr
        cases Option.some.inj (stored.symm.trans hr)
        unfold specOf at named
        unfold itemOf at hi
        rw [show (boundPool now id request endpoint spec).deployment = request.deployment from rfl] at hi
        rw [hi] at named
        exact named
      · exact (SameOrder.refl p).agrees (o.agrees p hp) rfl fun c hc => ⟨c, hc, le_rfl⟩
  | @rescaled _ authAt now version generation current target id token uid up report cluster row previous spec
    revisions found step assigned
      owner member settled identified stored next inserted =>
    have hid : cluster.id = id := Table.get?_key member
    subst next hid
    constructor
    · refine o.apart fun p' hp' => ?_
      rcases Table.mem_put.1 hp' with ⟨hp, -⟩ | ⟨rfl, -⟩
      · exact ⟨p', hp, rfl, rfl, rfl⟩
      · exact ⟨row, Table.get?_mem found, rfl, rfl, rfl⟩
    · intro p hp
      rcases Table.mem_put.1 hp with ⟨hp, hne⟩ | ⟨rfl, -⟩
      · refine .revised d member ⟨rfl, rfl⟩ inserted rfl (.inr (o.agrees p hp)) fun hc item hi => ?_
        -- the item of another deployment is that of the revision before
        have other : ¬row.deployment = p.deployment := by
          intro he
          have : p = row := o.distinct p hp row (Table.get?_mem found) (hc.trans owner.symm) he.symm
          exact hne (show p.id = row.id by rw [this])
        rw [itemOf_upsertItem, if_neg other] at hi
        obtain ⟨c', hc', hle⟩ := (o.agrees p hp).cluster
        rw [hc, member] at hc'
        cases hc'
        exact (o.agrees p hp).asks _ previous item hle (hc ▸ stored) hi
      · refine .revised d member ⟨rfl, rfl⟩ inserted rfl (.inl ⟨owner, rfl, fun _ => ⟨uid, identified⟩⟩)
          fun _ item hi => ?_
        have coupled := step.coupled (c row (Table.get?_mem found))
        have live : (row.rescaled now (cluster.desiredVersion + 1) generation current target spec up).state ≠
            .retired := by
          intro hr
          rcases coupled.placed rfl with h | h | h <;> rw [hr] at h <;> cases h
        have named : itemOf row.deployment (upsertItem ⟨row.deployment, some spec, none, some uid⟩ previous.payload) =
          some item := hi
        rw [itemOf_upsertItem, if_pos rfl] at named
        cases named
        unfold ManagedPool.Asks
        rw [if_neg live]
        rfl
  | snapshot h => rw [h.tables]; exact o.same rfl (fun _ c hc => ⟨c, hc, le_rfl⟩) still
  | acked h => rw [h.tables]; exact o.same rfl (fun _ c hc => ⟨c, hc, le_rfl⟩) still
  | _ => exact o.same rfl clusters still

theorem Reachable.orderly (h : Reachable env s) : Orderly s := by
  refine (h.invariant (P := fun s => Delivered env s ∧ (∀ p ∈ s.pools, Coupled p) ∧ Orderly s) ?_ ?_).2.2
  · exact ⟨.empty, fun _ hp => absurd hp (Table.not_mem_empty _), .empty⟩
  · rintro op s s' m ⟨d, c, o⟩
    exact ⟨d.step m, m.coupled c, m.orderly d c o⟩

/-! ## Unacknowledged changes -/

/-- The cluster of the pool has not acknowledged its change. -/
def State.Pending (s : State) (row : ManagedPool) : Prop :=
  ∃ c, s.clusters.get? row.clusterId = some c ∧ c.acknowledgedVersion < row.desiredVersion

/-- The current desired revision asks for every change that has not been acknowledged. -/
def State.Carried (s : State) : Prop :=
  ∀ p ∈ s.pools, ∀ c, s.clusters.get? p.clusterId = some c → c.acknowledgedVersion < p.desiredVersion →
    ∃ r item, s.revisions.get? (p.clusterId, c.desiredVersion) = some r ∧
      itemOf p.deployment r.payload = some item ∧ p.Asks item

/-- A desired state names the deployment of every pool of the cluster whose change has not been acknowledged. -/
def State.Named (s : State) (id : String) (deployments : List DesiredDeployment) : Prop :=
  ∀ p ∈ s.pools, p.clusterId = id → s.Pending p → ∃ d ∈ deployments, d.name = p.deployment

/-- The operation leaves no unacknowledged change out: every desired state that is accepted names them all. -/
def State.Names (env : Env) (s : State) : Op → Prop
  | .putDesired now actor id request =>
    (∃ r, putClusterDesired env now actor id request s = .ok r) → s.Named id request.deployments
  | _ => True

/-- No operation of the run leaves an unacknowledged change out. -/
def AllNamed (env : Env) : List Op → State → Prop
  | [], _ => True
  | op :: rest, s => s.Names env op ∧ AllNamed env rest (op.run env s)

/-- Every revision from the pool's own one on has an item for its deployment. -/
def State.Holds (s : State) (row : ManagedPool) : Prop :=
  ∀ v r, row.desiredVersion ≤ v → s.revisions.get? (row.clusterId, v) = some r →
    (itemOf row.deployment r.payload).isSome

/-- No revision since an unacknowledged change left it out. -/
def State.Kept (s : State) : Prop := ∀ p ∈ s.pools, s.Pending p → s.Holds p

theorem State.Kept.carried (k : s.Kept) (d : Delivered env s) (o : Orderly s) : s.Carried := by
  intro p hp c hc behind
  have hid : c.id = p.clusterId := Table.get?_key hc
  obtain ⟨c', hc', hle⟩ := (o.agrees p hp).cluster
  cases Option.some.inj (hc.symm.trans hc')
  have positive := (d.ordered c (Table.get?_mem hc)).1
  obtain ⟨r, hr⟩ := (d.contiguous c (Table.get?_mem hc) c.desiredVersion).2 ⟨by omega, le_rfl⟩
  rw [hid] at hr
  obtain ⟨item, hi⟩ := Option.isSome_iff_exists.1 (k p hp ⟨c, hc, behind⟩ _ r hle hr)
  exact ⟨r, item, hr, hi, (o.agrees p hp).asks _ r item hle hr hi⟩

/-- A pool in its order, with the revisions as they were and no less acknowledged. -/
theorem State.Kept.same (k : s.Kept) (revisions : s'.revisions = s.revisions)
    (clusters : ∀ id c', s'.clusters.get? id = some c' → (∃ c, s.clusters.get? id = some c) →
      ∃ c, s.clusters.get? id = some c ∧ c.acknowledgedVersion ≤ c'.acknowledgedVersion)
    (o : Orderly s) (pools : ∀ p' ∈ s'.pools, ∃ p ∈ s.pools, SameOrder p p' ∧ p'.id = p.id) : s'.Kept := by
  rintro p' hp' ⟨c', hc', behind⟩ v r hv hr
  obtain ⟨p, hp, same, -⟩ := pools p' hp'
  rw [same.cluster] at hc' hr
  rw [same.version] at hv behind
  rw [revisions] at hr
  obtain ⟨c₀, h₀, -⟩ := (o.agrees p hp).cluster
  obtain ⟨c, hc, hle⟩ := clusters _ c' hc' ⟨c₀, h₀⟩
  rw [same.deployment]
  exact k p hp ⟨c, hc, hle.trans_lt behind⟩ v r hv hr

theorem Move.kept (m : Move env op s s') (other : op.putsDesired = false) (d : Delivered env s)
    (c : ∀ p ∈ s.pools, Coupled p) (o : Orderly s) (k : s.Kept) : s'.Kept := by
  have grows := m.grows
  have clusters : ∀ id c', s'.clusters.get? id = some c' → (∃ c, s.clusters.get? id = some c) →
      ∃ c, s.clusters.get? id = some c ∧ c.acknowledgedVersion ≤ c'.acknowledgedVersion := by
    rintro id c' hc' ⟨c, hc⟩
    obtain ⟨c₁, h₁, -, hle⟩ := grows.versions id c hc
    cases Option.some.inj (hc'.symm.trans h₁)
    exact ⟨c, hc, hle⟩
  have still : ∀ p ∈ s.pools, ∃ q ∈ s.pools, SameOrder q p ∧ p.id = q.id := fun p hp => ⟨p, hp, .refl p, rfl⟩
  have fixed : ∀ id c', s.clusters.get? id = some c' → (∃ c, s.clusters.get? id = some c) →
      ∃ c, s.clusters.get? id = some c ∧ c.acknowledgedVersion ≤ c'.acknowledgedVersion :=
        fun _ c hc _ => ⟨c, hc, le_rfl⟩
  cases m with
  | pool found step same =>
    exact k.same rfl clusters o (put_sameOrder found (step.sameOrder (c _ (Table.get?_mem found)) same) step.id_eq)
  | desired => cases other
  | @bound _ now id request legacy cluster revision endpoint spec pools found current stored named fenced dedicated _
    _ _ inserted =>
    have hid : cluster.id = request.clusterId := Table.get?_key found
    rintro p hp behind v r hv hr
    -- a new pool is bound to a deployment that the newest revision names
    rcases (Table.mem_insert? inserted).1 hp with rfl | hp
    · have hr : s.revisions.get? (request.clusterId, v) = some r := hr
      have hle := d.stored_le found hr
      have hv : request.expectedDesiredVersion ≤ v := hv
      have same : v = cluster.desiredVersion := by omega
      subst same
      rw [← hid] at hr
      cases Option.some.inj (stored.symm.trans hr)
      unfold specOf at named
      obtain ⟨item, hi, -⟩ := Option.bind_eq_some_iff.1 named
      show (itemOf request.deployment revision.payload).isSome
      unfold itemOf
      rw [hi]
      rfl
    · exact k p hp behind v r hv hr
  | @rescaled _ authAt now version generation current target id token uid up report cluster row previous spec
    revisions found step assigned
      owner member settled identified stored next inserted =>
    have hid : cluster.id = id := Table.get?_key member
    subst next hid
    have lookup (k : String) : (s.clusters.put { cluster with desiredVersion := cluster.desiredVersion + 1 }).get? k =
        if cluster.id = k then some { cluster with desiredVersion := cluster.desiredVersion + 1 }
          else s.clusters.get? k :=
      Table.get?_put_at (show key ({ cluster with desiredVersion := cluster.desiredVersion + 1 } : MemberCluster) =
        cluster.id from rfl) member k
    rintro p hp ⟨c', hc', behind⟩ v r hv hr
    have hc' : (s.clusters.put { cluster with desiredVersion := cluster.desiredVersion + 1 }).get? p.clusterId =
      some c' := hc'
    have hr : revisions.get? (p.clusterId, v) = some r := hr
    rw [lookup] at hc'
    rw [Table.get?_insert? inserted] at hr
    rcases Table.mem_put.1 hp with ⟨hp, -⟩ | ⟨rfl, -⟩
    · split at hc'
      · -- the versions of the cluster were all acknowledged
        rename_i he
        cases hc'
        obtain ⟨c₀, h₀, hle⟩ := (o.agrees p hp).cluster
        rw [← he, member] at h₀
        cases h₀
        have behind : cluster.acknowledgedVersion < p.desiredVersion := behind
        omega
      · rename_i hne
        split at hr
        · rename_i he
          exact absurd (Prod.mk.inj he).1 hne
        · exact k p hp ⟨c', hc', behind⟩ v r hv hr
    · split at hr
      · cases hr
        -- the pool of the change has its item in the new revision
        show (itemOf row.deployment (upsertItem ⟨row.deployment, some spec, none, some uid⟩ previous.payload)).isSome
        rw [itemOf_upsertItem, if_pos rfl]
        rfl
      · have hv : cluster.desiredVersion + 1 ≤ v := hv
        have hr : s.revisions.get? (row.clusterId, v) = some r := hr
        rw [owner] at hr
        have := d.stored_le member hr
        omega
  | snapshot h => rw [h.tables]; exact k.same rfl fixed o still
  | acked h => rw [h.tables]; exact k.same rfl fixed o still
  | _ => exact k.same rfl clusters o still

/-- A desired state keeps the unacknowledged changes exactly when it names them. -/
theorem Move.kept_desired {now : Int} {actor id : String} {request : DesiredState}
    (m : Move env (.putDesired now actor id request) s s') (d : Delivered env s) (o : Orderly s) (k : s.Kept) :
    (s.Named id request.deployments → s'.Kept) ∧ (s'.Carried → s.Named id request.deployments) := by
  cases m with
  | cluster _ step => cases step
  | pool _ _ same => cases same.2.2
  | @desired _ _ _ _ _ row deployments pools revisions found unrevoked wellFormed guarded inserted =>
    have hid : row.id = id := Table.get?_key found
    subst hid
    obtain ⟨origin, orders⟩ := o.ordered guarded
    have lookup (k : String) : (s.clusters.put { row with desiredVersion := row.desiredVersion + 1 }).get? k =
        if row.id = k then some { row with desiredVersion := row.desiredVersion + 1 } else s.clusters.get? k :=
      Table.get?_put_at (show key ({ row with desiredVersion := row.desiredVersion + 1 } : MemberCluster) =
        row.id from rfl) found k
    constructor
    · rintro named p' hp' ⟨c', hc', behind⟩ v r hv hr
      have hc' : (s.clusters.put { row with desiredVersion := row.desiredVersion + 1 }).get? p'.clusterId =
        some c' := hc'
      have hr : revisions.get? (p'.clusterId, v) = some r := hr
      rw [lookup] at hc'
      rw [Table.get?_insert? inserted] at hr
      rcases origin p' hp' with ⟨hp, hne⟩ | ⟨p, hp, hc, -, ordered⟩
      · rw [if_neg fun he => hne he.symm] at hc'
        split at hr
        · rename_i he
          exact absurd (Prod.mk.inj he).1.symm hne
        · exact k p' hp ⟨c', hc', behind⟩ v r hv hr
      · obtain ⟨cluster, deployment⟩ := ordered.same
        rw [cluster, hc, if_pos rfl] at hc'
        cases hc'
        have behind : row.acknowledgedVersion < p'.desiredVersion := behind
        rw [deployment]
        have new (item : DesiredDeployment) (hi : itemOf p.deployment deployments = some item)
            (hr : (⟨row.id, row.desiredVersion + 1, deployments, env.digest deployments, actor⟩ : ClusterRevision) =
              r) :
            (itemOf p.deployment r.payload).isSome := by
          rw [← hr, hi]
          rfl
        cases ordered with
        | unnamed same absent still =>
          -- an unacknowledged change that the desired state leaves out
          subst same
          obtain ⟨x, hx, hn⟩ := named p' hp hc ⟨row, hc ▸ found, behind⟩
          have := itemOf_isSome.2 ⟨x, hx, hn⟩
          rw [absent] at this
          cases this
        | kept same _ now =>
          subst same
          split at hr
          · exact new _ now (Option.some.inj hr)
          · exact k p' hp ⟨row, hc ▸ found, behind⟩ v r hv hr
        | changed _ now _ version =>
          split at hr
          · exact new _ now (Option.some.inj hr)
          · rw [cluster, hc] at hr
            have := d.stored_le found hr
            omega
    · rintro carried p hp hc ⟨c, hcl, behind⟩
      rw [hc, found] at hcl
      cases hcl
      obtain ⟨p', hp', ordered⟩ := orders p hp hc
      cases ordered with
      | kept _ named | changed named => exact itemOf_isSome.1 named
      | unnamed same absent still =>
        subst same
        have here : (s.clusters.put { row with desiredVersion := row.desiredVersion + 1 }).get? p'.clusterId =
            some { row with desiredVersion := row.desiredVersion + 1 } := by rw [lookup, if_pos hc.symm]
        obtain ⟨r, item, hr, hi, -⟩ := carried p' hp' _ here behind
        have hr : revisions.get? (p'.clusterId, row.desiredVersion + 1) = some r := hr
        rw [Table.get?_insert? inserted, if_pos (by rw [hc]; rfl)] at hr
        cases hr
        rw [still] at hi
        cases hi

/-- What an operation other than an accepted desired state does is a sequence of moves that put none. -/
theorem Op.run_kept (op : Op) (d : Delivered env s) (c : ∀ p ∈ s.pools, Coupled p) (o : Orderly s) (k : s.Kept) :
    (s.Names env op → (op.run env s).Kept) ∧ ((op.run env s).Carried → s.Names env op) := by
  cases hp : op.putsDesired with
  | false =>
    have names : s.Names env op := by
      cases op with
      | putDesired => cases hp
      | _ => exact trivial
    refine ⟨fun _ => ?_, fun _ => names⟩
    have kept : ∀ {s s'}, Move env op s s' → (Delivered env s ∧ (∀ p ∈ s.pools, Coupled p) ∧ Orderly s ∧ s.Kept) →
        Delivered env s' ∧ (∀ p ∈ s'.pools, Coupled p) ∧ Orderly s' ∧ s'.Kept := by
      rintro s s' m ⟨d, c, o, k⟩
      exact ⟨d.step m, m.coupled c, m.orderly d c o, m.kept hp d c o k⟩
    exact ((op.run_moves s).keeps kept ⟨d, c, o, k⟩).2.2.2
  | true =>
    cases op with
    | putDesired now actor id request =>
      show (((∃ r, putClusterDesired env now actor id request s = .ok r) → s.Named id request.deployments) →
        (Tx.commit (putClusterDesired env now actor id request) s).2.Kept) ∧
          ((Tx.commit (putClusterDesired env now actor id request) s).2.Carried →
        (∃ r, putClusterDesired env now actor id request s = .ok r) → s.Named id request.deployments)
      rcases Tx.commit_cases (putClusterDesired env now actor id request) s with ⟨a, t, hx, hc⟩ | ⟨e, hx, hc⟩
      · obtain ⟨keeps, needs⟩ := (putClusterDesired_ok hx).kept_desired d o k
        rw [hc]
        exact ⟨fun named => keeps (named ⟨_, hx⟩), fun carried _ => needs carried⟩
      · rw [hc]
        refine ⟨fun _ => k, fun _ ⟨r, hr⟩ => ?_⟩
        rw [hx] at hr
        cases hr
    | _ => cases hp

/-- In every run the current desired revision asks for every unacknowledged change, in every state, exactly when
every desired state that is accepted names the deployments of the unacknowledged changes. -/
theorem Op.runAll_carried (env : Env) (ops : List Op) :
    (∀ n, (Op.runAll env (ops.take n) State.empty).Carried) ↔ AllNamed env ops State.empty := by
  suffices h : ∀ (ops : List Op) (s : State), Reachable env s → s.Kept →
      ((∀ n, (Op.runAll env (ops.take n) s).Carried) ↔ AllNamed env ops s) from
    h ops _ (.empty env) fun p hp => absurd hp (Table.not_mem_empty _)
  intro ops
  induction ops with
  | nil =>
    intro s hs k
    refine iff_of_true (fun n => ?_) trivial
    rw [List.take_nil]
    exact k.carried hs.delivered hs.orderly
  | cons op rest ih =>
    intro s hs k
    obtain ⟨keeps, needs⟩ := op.run_kept hs.delivered hs.coupled hs.orderly k
    have next := hs.run env op
    constructor
    · intro carried
      have names := needs (carried 1)
      exact ⟨names, (ih _ next (keeps names)).1 fun n => carried (n + 1)⟩
    · rintro ⟨names, rest'⟩ n
      cases n with
      | zero => exact k.carried hs.delivered hs.orderly
      | succ n => exact (ih _ next (keeps names)).2 rest' n

/-! A decrease of a drained pool that the next desired state leaves out. -/

def droppedEnv : Env := ⟨fun _ => true, fun t => t, fun _ => "", false⟩

def droppedSpec (replicas : Int) : Json :=
  .obj [("model", .obj [("id", .str "xscope-demo"), ("revision", .str "r")]), ("replicas", .int replicas),
    ("runtime", .obj [("protocol", .str "openai")]), ("serving", .obj [("endpointPickerService", .str "svc")])]

def droppedRun : List Op :=
  [.registerCluster 0 "key" ⟨"c", "ns", 30⟩, .putDesired 0 "admin" "c" ⟨0, [⟨"d", some (droppedSpec 2), none, none⟩]⟩,
    .pollDelivery 0 0 "lease" "c" "key", .reportDelivery 0 0 "c" "key" ⟨1, "", "lease", .applied, none⟩,
    .writeCatalog ((Table.empty.insert? ⟨"xscope-demo", 1, true, none, .default⟩).getD .empty) .empty,
    .bindPool 0 "managed" ⟨2, false, "c", "d", "svc", "svc:80", false, "", 1⟩ [],
    .observationTasks 0 0 (fun _ => "nonce") "c" "key",
    .observePool 0 0 "c" "key" ⟨none, 2, none, false, "managed", 1, "nonce", some "uid", true, .ok⟩,
    .poolTransition 0 "managed" 2 "drain", .poolTransition 0 "managed" 3 "finish-drain",
    .putDesired 0 "admin" "c" ⟨1, [⟨"d", some (droppedSpec 1), none, none⟩]⟩, .putDesired 0 "admin" "c" ⟨2, []⟩]

theorem sample_dropped : ¬(Op.runAll droppedEnv droppedRun State.empty).Carried := by
  intro carried
  let s := Op.runAll droppedEnv droppedRun State.empty
  have facts : ((s.pools.get? "managed").any fun p => p.clusterId == "c" && p.desiredVersion == 2) = true ∧
      ((s.clusters.get? "c").any fun c => c.acknowledgedVersion == 1 && c.desiredVersion == 3) = true ∧
      ((s.revisions.get? ("c", 3)).any fun r => r.payload.isEmpty) = true := by decide +kernel
  obtain ⟨p, hp, pool⟩ := (Option.any_eq_true _ _).1 facts.1
  obtain ⟨c, hc, cluster⟩ := (Option.any_eq_true _ _).1 facts.2.1
  obtain ⟨r, hr, empty⟩ := (Option.any_eq_true _ _).1 facts.2.2
  simp only [Bool.and_eq_true, beq_iff_eq] at pool cluster
  obtain ⟨own, change⟩ := pool
  obtain ⟨acknowledged, desired⟩ := cluster
  obtain ⟨r', item, hr', hi, -⟩ := carried p (Table.get?_mem hp) c (own ▸ hc) (by omega)
  rw [own, desired, hr] at hr'
  cases hr'
  rw [List.isEmpty_iff.1 empty] at hi
  cases hi

end Xscope.Fleet

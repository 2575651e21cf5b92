/-
The moves row by row: what becomes of a pool, of a gateway session and of a participant's view.
The invariants of these tables are proved one row at a time.
-/
import Xscope.Fleet.Steps

namespace Xscope.Fleet

variable {env : Env} {s s' : State} {op : Op}

/-! ## Pools -/

/-- A pool that has just been bound to a deployment of the newest revision. -/
inductive Bound (s : State) : Op → ManagedPool → Prop
  | bound {now : Int} {id : String} {request : PoolBinding} {legacy : List RoutePool} {cluster : MemberCluster}
      {revision : ClusterRevision}
      {endpoint : ServingEndpoint} {spec : Json} (found : s.clusters.get? request.clusterId = some cluster)
      (current : request.expectedDesiredVersion = cluster.desiredVersion)
      (stored : s.revisions.get? (cluster.id, cluster.desiredVersion) = some revision)
      (named : specOf revision.payload request.deployment = some spec)
      (fenced : managedScaling spec = true → request.trafficProtocol = 2)
      (dedicated : ∀ p ∈ s.pools, ¬(p.clusterId = request.clusterId ∧ p.deployment = request.deployment))
      (valid : endpoint.validate = .ok ()) (own : endpoint.id = id)
      (known : ∃ model, s.catalog.get? endpoint.model = some model) :
      Bound s (.bindPool now id request legacy) (boundPool now id request endpoint spec)

/-- A move rebinds no pool and loses none; each is as before or made one step. -/
structure PoolMove (s : State) (op : Op) (s' : State) : Prop where
  kept : ∀ id p, s.pools.get? id = some p → ∃ p', s'.pools.get? id = some p' ∧ (p' = p ∨ PoolStep s op p p')
  fresh : ∀ id p', s'.pools.get? id = some p' → s.pools.get? id = none → Bound s op p'

theorem PoolMove.unchanged (same : s'.pools = s.pools) : PoolMove s op s' := by
  refine ⟨fun id p h => ⟨p, by rw [same]; exact h, .inl rfl⟩, fun id p' h h' => ?_⟩
  rw [same, h'] at h
  cases h

theorem PoolMove.put {row row' : ManagedPool} (found : s.pools.get? row.id = some row) (hid : row'.id = row.id)
    (step : PoolStep s op row row') (pools : s'.pools = s.pools.put row') : PoolMove s op s' := by
  have lookup : ∀ k, s'.pools.get? k = if row.id = k then some row' else s.pools.get? k := by
    intro k
    rw [pools, Table.get?_put_at (r := row') hid found]
  constructor
  · intro id p h
    rw [lookup]
    split
    · rename_i he
      rw [← he, found] at h
      cases h
      exact ⟨row', rfl, .inr step⟩
    · exact ⟨p, h, .inl rfl⟩
  · intro id p' h h'
    rw [lookup] at h
    split at h
    · rename_i he
      rw [← he, found] at h'
      cases h'
    · rw [h'] at h; cases h

theorem PoolStep.id_eq {row row' : ManagedPool} (h : PoolStep s op row row') : row'.id = row.id := by
  cases h <;> rfl

theorem PoolStep.endpoint_eq {row row' : ManagedPool} (h : PoolStep s op row row') : row'.endpoint = row.endpoint := by
  cases h <;> rfl

/-- The guard on a desired state makes one step of each pool it changes, and leaves the others. -/
theorem Guarded.pools_eq {now version : Int} {rows : List ManagedPool} {d d' : List DesiredDeployment}
    {pools pools' : Table ManagedPool} (g : Guarded now version rows d pools d' pools') (actor id : String)
    (request : DesiredState) :
    (rows.map (·.id)).Nodup → (∀ row ∈ rows, pools.get? row.id = some row) →
      (∀ k, k ∉ rows.map (·.id) → pools'.get? k = pools.get? k) ∧
      ∀ row ∈ rows, pools'.get? row.id = some row ∨
        ∃ row', pools'.get? row.id = some row' ∧ PoolStep s (.putDesired now actor id request) row row' := by
  have cons : ∀ {row : ManagedPool} {rest : List ManagedPool} {pools pools' : Table ManagedPool},
      ((row :: rest).map (·.id)).Nodup → (∀ x ∈ row :: rest, pools.get? x.id = some x) →
      ((rest.map (·.id)).Nodup → (∀ x ∈ rest, pools.get? x.id = some x) →
        (∀ k, k ∉ rest.map (·.id) → pools'.get? k = pools.get? k) ∧
        ∀ x ∈ rest, pools'.get? x.id = some x ∨ ∃ x', pools'.get? x.id = some x' ∧
          PoolStep s (.putDesired now actor id request) x x') →
      (∀ k, k ∉ (row :: rest).map (·.id) → pools'.get? k = pools.get? k) ∧
        ∀ x ∈ row :: rest, pools'.get? x.id = some x ∨
          ∃ x', pools'.get? x.id = some x' ∧ PoolStep s (.putDesired now actor id request) x x' := by
    intro row rest pools pools' distinct found tail
    obtain ⟨fresh, distinct⟩ := List.nodup_cons.1 distinct
    obtain ⟨others, steps⟩ := tail distinct fun x hx => found x (List.mem_cons_of_mem _ hx)
    refine ⟨fun k hk => others k fun hm => hk (List.mem_cons_of_mem _ hm), fun x hx => ?_⟩
    rcases List.mem_cons.1 hx with rfl | hx
    · exact .inl (by rw [others _ fresh]; exact found x (List.mem_cons_self ..))
    · exact steps x hx
  induction g with
  | done => exact fun _ _ => ⟨fun _ _ => rfl, fun _ h => by cases h⟩
  | absent _ _ ih => exact fun distinct found => cons distinct found ih
  | deleted _ _ _ _ _ ih => exact fun distinct found => cons distinct found ih
  | kept _ _ _ _ ih => exact fun distinct found => cons distinct found ih
  | @changed row rest d d' pools pools' item uid named closed free identified change deletion tail ih =>
    intro distinct found
    obtain ⟨fresh, distinct⟩ := List.nodup_cons.1 distinct
    have here := found row (List.mem_cons_self ..)
    have lookup : ∀ k, (pools.put (row.respecced now version (row.generation + 1) item)).get? k =
        if row.id = k then some (row.respecced now version (row.generation + 1) item) else pools.get? k :=
      fun k => Table.get?_put_at (r := row.respecced now version (row.generation + 1) item) rfl here k
    obtain ⟨others, steps⟩ := ih distinct fun x hx => by
      rw [lookup, if_neg fun he => fresh (List.mem_map.2 ⟨x, hx, he.symm⟩)]
      exact found x (List.mem_cons_of_mem _ hx)
    refine ⟨fun k hk => ?_, fun x hx => ?_⟩
    · rw [others k fun hm => hk (List.mem_cons_of_mem _ hm), lookup, if_neg]
      rintro rfl
      exact hk (List.mem_cons_self ..)
    · rcases List.mem_cons.1 hx with rfl | hx
      · refine .inr ⟨x.respecced now version (x.generation + 1) item, ?_, .respecced closed free change⟩
        rw [others _ fresh, lookup, if_pos rfl]
      · exact steps x hx

theorem State.poolsOf_spec (s : State) (id : String) :
    (∀ row ∈ s.poolsOf id, s.pools.get? row.id = some row ∧ row.clusterId = id) ∧
      ((s.poolsOf id).map (·.id)).Nodup := by
  have perm := List.perm_insertionSort (fun a b : ManagedPool => a.id ≤ b.id)
    (s.pools.select fun r => r.clusterId == id)
  refine ⟨fun row hr => ?_, ?_⟩
  · obtain ⟨hm, hp⟩ := List.mem_filter.1 (perm.mem_iff.1 hr)
    exact ⟨Table.get?_of_mem hm, by simpa using hp⟩
  · refine (perm.map _).nodup_iff.2 ?_
    exact (List.filter_sublist.map _).nodup s.pools.nodup

theorem Move.pools (m : Move env op s s') : PoolMove s op s' := by
  cases m with
  | @desired _ now actor id request row deployments pools revisions found unrevoked wellFormed guarded inserted =>
    obtain ⟨rows, distinct⟩ := s.poolsOf_spec id
    obtain ⟨others, steps⟩ := guarded.pools_eq actor id request distinct fun row hr => (rows row hr).1
    constructor
    · intro k p h
      show ∃ p', pools.get? k = some p' ∧ _
      by_cases hk : k ∈ (s.poolsOf id).map (·.id)
      · obtain ⟨x, hx, rfl⟩ := List.mem_map.1 hk
        cases Option.some.inj (h.symm.trans (rows x hx).1)
        rcases steps p hx with same | ⟨x', hx', step⟩
        · exact ⟨p, same, .inl rfl⟩
        · exact ⟨x', hx', .inr step⟩
      · exact ⟨p, by rw [others k hk]; exact h, .inl rfl⟩
    · intro k p' h h'
      rw [others k fun hk => ?_, h'] at h
      · cases h
      · obtain ⟨x, hx, rfl⟩ := List.mem_map.1 hk
        rw [(rows x hx).1] at h'
        cases h'
  | bound found current stored named fenced dedicated valid own known inserted =>
    constructor
    · exact fun k p h => ⟨p, Table.get?_insert?_old inserted h, .inl rfl⟩
    · intro k p' h h'
      rw [Table.get?_insert? inserted] at h
      split at h
      · cases h
        exact .bound found current stored named fenced dedicated valid own known
      · rw [h'] at h; cases h
  | pool found step => exact .put found step.id_eq step rfl
  | rescaled found step => exact .put found step.id_eq step rfl
  | snapshot h => rw [h.tables]; exact .unchanged rfl
  | acked h => rw [h.tables]; exact .unchanged rfl
  | _ => exact .unchanged rfl

/-! ## Sessions -/

/-- What one operation does to a session. Nothing is delivered to a closed session, and its report
and its termination are refused. -/
inductive SessionStep : Op → GatewaySession → GatewaySession → Prop
  | delivered {wallAt now : Int} {nonce token : String} {identity : Option GatewayIdentity} {row : GatewaySession}
      (opened : row.closed = false) :
      SessionStep (.trafficSnapshot wallAt now nonce token row.id identity) row
        (row.delivered now (row.sequence + 1) nonce)
  | reported {now : Int} {report : TrafficReport} {row : GatewaySession} (own : report.sessionId = row.id)
      (opened : row.closed = false) :
      SessionStep (.trafficReport now report) row { row with closed := report.closed, reported := some report }
  | tasked {authAt now : Int} {nonce : String → String} {id token : String} {row : GatewaySession} :
      SessionStep (.gatewayProofTasks authAt now nonce id token) row (row.tasked now (nonce row.id))
  | attested {authAt now : Int} {id token : String} {proof : GatewayProof} {row row' : GatewaySession}
      (step : row' = { row.answered with runtime := row'.runtime, proofComplete := row'.proofComplete }) :
      SessionStep (.gatewayProof authAt now id token proof) row row'
  | terminated {authAt now : Int} {id token : String} {proof : GatewayProof} {row : GatewaySession}
      (opened : row.closed = false)
      (matching : row.runtime.isSome ∧ row.runtime = proof.runtime) :
      SessionStep (.gatewayProof authAt now id token proof) row (row.terminated now proof)
  | unbound {authAt now : Int} {id token : String} {proof : GatewayProof} {row : GatewaySession} :
      SessionStep (.gatewayProof authAt now id token proof) row row.unbound

/-- No session is lost; each is as before or made one step, and a new one is open and counts from its first snapshot. -/
structure SessionMove (s : State) (op : Op) (s' : State) : Prop where
  kept : ∀ id row, s.sessions.get? id = some row → ∃ row', s'.sessions.get? id = some row' ∧
    (row' = row ∨ SessionStep op row row')
  fresh : ∀ id row', s'.sessions.get? id = some row' → s.sessions.get? id = none →
    row'.closed = false ∧ row'.proof = none ∧ 0 ≤ row'.sequence

theorem SessionMove.unchanged (same : s'.sessions = s.sessions) : SessionMove s op s' := by
  refine ⟨fun id row h => ⟨row, by rw [same]; exact h, .inl rfl⟩, fun id row' h h' => ?_⟩
  rw [same, h'] at h
  cases h

theorem SessionMove.step {row row' : GatewaySession} {id : String} (found : s.sessions.get? id = some row)
    (step : SessionStep op row row')
    (sessions : ∀ k, s'.sessions.get? k = if id = k then some row' else s.sessions.get? k) : SessionMove s op s' := by
  constructor
  · intro k old h
    rw [sessions]
    split
    · rename_i he
      rw [← he, found] at h
      cases h
      exact ⟨row', rfl, .inr step⟩
    · exact ⟨old, h, .inl rfl⟩
  · intro k new h h'
    rw [sessions] at h
    split at h
    · rename_i he
      rw [← he, found] at h'
      cases h'
    · rw [h'] at h; cases h

theorem SessionStep.sequence_le {row row' : GatewaySession} (h : SessionStep op row row') :
    row.sequence ≤ row'.sequence := by
  cases h with
  | delivered => exact Int.le_add_one le_rfl
  | attested step => rw [step]; exact le_rfl
  | _ => exact le_rfl

theorem SessionStep.id_eq {row row' : GatewaySession} (h : SessionStep op row row') : row'.id = row.id := by
  cases h with
  | attested step => rw [step]; rfl
  | _ => rfl

theorem SessionMove.put {row row' : GatewaySession} (found : s.sessions.get? row.id = some row)
    (step : SessionStep op row row') (sessions : s'.sessions = s.sessions.put row') : SessionMove s op s' := by
  refine .step found step fun k => ?_
  rw [sessions]
  exact Table.get?_put_at (r := row') step.id_eq found k

theorem Move.sessions (m : Move env op s s') : SessionMove s op s' := by
  cases m with
  | @snapshot _ _ wallAt now nonce token id identity row reply h =>
    rcases h.session with found | ⟨missing, rfl⟩
    · obtain rfl := Table.get?_key found
      exact .step found (.delivered h.opened) h.sessions
    · constructor
      · intro k old hk
        refine ⟨old, ?_, .inl rfl⟩
        rw [h.sessions, if_neg]
        · exact hk
        · rintro rfl; rw [missing] at hk; cases hk
      · intro k new hk hk'
        rw [h.sessions] at hk
        split at hk
        · cases hk; exact ⟨rfl, rfl, Int.le_add_one le_rfl⟩
        · rw [hk'] at hk; cases hk
  | @acked _ _ now report row h =>
    have own : row.id = report.sessionId := Table.get?_key h.session
    refine .put (own ▸ h.session) (.reported own.symm h.opened) ?_
    rw [h.tables]
  | proofTasked found => exact .put found .tasked rfl
  | attested found step => exact .put found (.attested step) rfl
  | terminated found opened _ matching => exact .put found (.terminated opened matching) rfl
  | unbound found => exact .put found .unbound rfl
  | _ => exact .unchanged rfl

/-- A closed session stays closed, with the proof it has. -/
theorem SessionStep.stays {row row' : GatewaySession} (h : SessionStep op row row') (closed : row.closed = true) :
    row'.closed = true ∧ row'.proof = row.proof := by
  cases h with
  | delivered opened => rw [opened] at closed; cases closed
  | reported _ opened => rw [opened] at closed; cases closed
  | tasked => exact ⟨closed, rfl⟩
  | attested step => rw [step]; exact ⟨closed, rfl⟩
  | terminated opened => rw [opened] at closed; cases closed
  | unbound => exact ⟨rfl, rfl⟩

theorem Move.session_stays (m : Move env op s s') {id : String} {row : GatewaySession}
    (h : s.sessions.get? id = some row) (closed : row.closed = true) :
    ∃ row', s'.sessions.get? id = some row' ∧ row'.closed = true ∧ row'.proof = row.proof := by
  obtain ⟨row', h', step⟩ := m.sessions.kept id row h
  rcases step with rfl | step
  · exact ⟨row', h', closed, rfl⟩
  · exact ⟨row', h', step.stays closed⟩

/-! ## Views -/

/-- What one operation does to a participant's view. -/
inductive ViewStep (s s' : State) : Op → GatewayPoolView → GatewayPoolView → Prop
  | granted {wallAt now : Int} {nonce token : String} {identity : Option GatewayIdentity} {v : GatewayPoolView}
      {pool : ManagedPool}
      (opened : ∀ row, s.sessions.get? v.sessionId = some row → row.closed = false)
      (found : s.pools.get? v.poolId = some pool) :
      ViewStep s s' (.trafficSnapshot wallAt now nonce token v.sessionId identity) v
        { v with deliveredGeneration := pool.generation }
  | acked {now : Int} {report : TrafficReport} {v : GatewayPoolView} {row : GatewaySession} {count : Nat}
      (own : report.sessionId = v.sessionId) (session : s.sessions.get? v.sessionId = some row)
      (opened : row.closed = false)
      (current : row.sequence = report.sequence ∧ row.nonce = report.nonce) (first : row.reported = none)
      (counts : report.active.lookup v.poolId = some count) :
      ViewStep s s' (.trafficReport now report) v (v.acked now report.closed count)
  | orphaned {authAt now : Int} {id token : String} {proof : GatewayProof} {v : GatewayPoolView} {row : GatewaySession}
      (session : s.sessions.get? v.sessionId = some row) (opened : row.closed = false)
      (after : s'.sessions.get? v.sessionId = some (row.terminated now proof)) :
      ViewStep s s' (.gatewayProof authAt now id token proof) v { v with retired := true, activeRequests := -1 }
  | settled {authAt now : Int} {id token : String} {report : PoolObservation} {v : GatewayPoolView} {pool : ManagedPool}
      (unknown : v.retired = true ∧ v.activeRequests < 0) (found : s.pools.get? v.poolId = some pool)
      (closed : pool.state = .draining) :
      ViewStep s s' (.observePool authAt now id token report) v { v with activeRequests := 0 }

/-- No view is lost; each is as before or made one step, and a new one has been opened by a snapshot. -/
structure ViewMove (s : State) (op : Op) (s' : State) : Prop where
  kept : ∀ k v, s.views.get? k = some v → ∃ v', s'.views.get? k = some v' ∧ (v' = v ∨ ViewStep s s' op v v')
  fresh : ∀ k v', s'.views.get? k = some v' → s.views.get? k = none →
    ∃ pool sessionId, s.pools.get? k.1 = some pool ∧ v' = openedView pool sessionId

theorem ViewMove.unchanged (same : s'.views = s.views) : ViewMove s op s' := by
  refine ⟨fun k v h => ⟨v, by rw [same]; exact h, .inl rfl⟩, fun k v' h h' => ?_⟩
  rw [same, h'] at h
  cases h

theorem ViewMove.mapRows {f : GatewayPoolView → GatewayPoolView} (hf : ∀ v, key (f v) = key v)
    (views : s'.views = s.views.mapRows f hf)
    (step : ∀ v, s.views.get? (key v) = some v → f v = v ∨ ViewStep s s' op v (f v)) :
    ViewMove s op s' := by
  constructor
  · intro k v h
    obtain rfl := Table.get?_key h
    refine ⟨f v, ?_, step v h⟩
    rw [views, Table.get?_mapRows, h]
    rfl
  · intro k v' h h'
    rw [views, Table.get?_mapRows, h'] at h
    cases h

theorem Move.views (m : Move env op s s') : ViewMove s op s' := by
  cases m with
  | @settled _ authAt now id token report row idle target found closed fenced asked =>
    refine .mapRows (GatewayPoolView.key_settle row.id) rfl fun v _ => ?_
    unfold GatewayPoolView.settle
    split
    · rename_i h
      exact .inr (.settled h.2 (by rw [h.1]; exact found) closed)
    · exact .inl rfl
  | @terminated _ authAt now id token proof row found opened terminal matching =>
    refine .mapRows (GatewayPoolView.key_orphan row.id) rfl fun v _ => ?_
    unfold GatewayPoolView.orphan
    split
    · rename_i h
      refine .inr (.orphaned (by rw [h]; exact found) opened ?_)
      rw [h]
      exact Table.get?_put_self (r := row.terminated now proof) found
    · exact .inl rfl
  | @snapshot _ _ wallAt now nonce token id identity row reply h =>
    -- a snapshot opens or renews the views of its own session
    constructor
    · rintro ⟨p, k⟩ v hv
      rw [h.views]
      split
      · rename_i hk
        subst hk
        have hkey : (v.poolId, v.sessionId) = (p, k) := Table.get?_key hv
        obtain ⟨rfl, rfl⟩ := Prod.mk.inj hkey
        cases hp : s.pools.get? v.poolId with
        | none => exact ⟨v, hv, .inl rfl⟩
        | some pool =>
          rw [hv]
          refine ⟨_, rfl, .inr (.granted (fun row' hr => ?_) hp)⟩
          rcases h.session with found | ⟨missing, -⟩
          · rw [found] at hr; cases hr; exact h.opened
          · rw [missing] at hr; cases hr
      · exact ⟨v, hv, .inl rfl⟩
    · rintro ⟨p, k⟩ v' hv hv'
      rw [h.views] at hv
      split at hv
      · cases hp : s.pools.get? p with
        | none => rw [hp] at hv; exact absurd (hv'.symm.trans hv) (by simp)
        | some pool =>
          rw [hp, hv'] at hv
          simp only [Option.elim, grantedView] at hv
          split at hv
          · cases hv; exact ⟨pool, id, rfl, rfl⟩
          · cases hv
      · rw [hv'] at hv; cases hv
  | @acked _ _ now report row h =>
    -- a report acknowledges the views of its own session
    constructor
    · rintro ⟨p, k⟩ v hv
      rw [h.views]
      split
      · rename_i hk
        subst hk
        obtain ⟨n, hn⟩ := h.complete p v hv
        have hkey : (v.poolId, v.sessionId) = (p, report.sessionId) := Table.get?_key hv
        obtain ⟨hp, hs⟩ := Prod.mk.inj hkey
        refine ⟨v.acked now report.closed n, by rw [hv, hn]; rfl, .inr ?_⟩
        exact .acked hs.symm (by rw [hs]; exact h.session) h.opened h.current h.first (by rw [hp]; exact hn)
      · exact ⟨v, hv, .inl rfl⟩
    · rintro ⟨p, k⟩ v' hv hv'
      rw [h.views] at hv
      split at hv
      · rename_i hk
        subst hk
        rw [hv'] at hv
        cases hv
      · rw [hv'] at hv; cases hv
  | _ => exact .unchanged rfl

/-! ## Grants -/

/-- What a snapshot accepts has been recorded as exposed to its session. -/
theorem Snapshot.exposed {now : Int} {nonce token id : String} {identity : Option GatewayIdentity}
    {row : GatewaySession} {reply : TrafficSnapshot} (h : Snapshot env now nonce token id identity row reply s s') :
    ∀ p ∈ accepted reply.pools, ∃ v, s'.views.get? (p.1, id) = some v := by
  intro p hp
  obtain ⟨control, hc, rfl⟩ := List.mem_map.1 hp
  obtain ⟨hc, accepting⟩ := List.mem_filter.1 hc
  rw [h.answer] at hc
  obtain ⟨pool, hpool, rfl⟩ := List.mem_map.1 hc
  have found : s.pools.get? pool.id = some pool := Table.get?_of_mem ((s.listed_spec.1 pool).1 hpool)
  replace accepting : pool.accepting now (identityReady env row) s.clusters.rows = true := accepting
  show ∃ v, s'.views.get? (pool.id, id) = some v
  rw [h.views, if_pos rfl, found, Option.elim, accepting]
  cases s.views.get? (pool.id, id) with
  | none => exact ⟨_, rfl⟩
  | some v => exact ⟨_, rfl⟩

/-- A new grant is that of a snapshot. -/
theorem Move.grants (m : Move env op s s') : ∀ g ∈ s'.grants, g ∈ s.grants ∨ ∀ p ∈ g.pools, ∃ v, s'.views.get?
    (p.1, g.sessionId) = some v := by
  cases m with
  | snapshot h =>
    intro g hg
    rcases h.grants g hg with old | rfl
    · exact .inl old
    · exact .inr h.exposed
  | acked h => rw [h.tables]; exact fun g hg => .inl hg
  | _ => exact fun g hg => .inl hg

end Xscope.Fleet

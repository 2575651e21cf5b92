/-
Each operation of the fleet inverted: what a successful call checked, and the moves it made.
-/
import Xscope.Fleet.Moves

namespace Xscope.Fleet

variable {env : Env} {s : State}

/-! ## Access -/

@[simp] theorem putCluster_bind {α : Type} (row : MemberCluster) {f : Unit → FleetTx α} :
    (putCluster row >>= f) s = f () { s with clusters := s.clusters.put row } := rfl

@[simp] theorem putPool_bind {α : Type} (row : ManagedPool) {f : Unit → FleetTx α} :
    (putPool row >>= f) s = f () { s with pools := s.pools.put row } := rfl

@[simp] theorem putView_bind {α : Type} (row : GatewayPoolView) {f : Unit → FleetTx α} :
    (putView row >>= f) s = f () { s with views := s.views.put row } := rfl

@[simp] theorem putSession_bind {α : Type} (row : GatewaySession) {f : Unit → FleetTx α} :
    (putSession row >>= f) s = f () { s with sessions := s.sessions.put row } := rfl

@[simp] theorem putCluster_ok {row : MemberCluster} {r : Unit × State} :
    putCluster row s = .ok r ↔ ((), { s with clusters := s.clusters.put row }) = r := Tx.write_ok

@[simp] theorem putSession_ok {row : GatewaySession} {r : Unit × State} :
    putSession row s = .ok r ↔ ((), { s with sessions := s.sessions.put row }) = r := Tx.write_ok

theorem authenticated_ok {authAt : Int} {id token : String} {r : MemberCluster × State} :
    authenticated env authAt id token s = .ok r ↔
      s.clusters.get? id = some r.1 ∧ Authentic env authAt token r.1 ∧ s = r.2 := by
  obtain ⟨row, t⟩ := r
  unfold authenticated
  simp only [Tx.read_bind, Tx.expect_bind, Tx.reject_bind, Tx.pure_ok, not_or, Prod.mk.injEq, Bool.not_eq_true,
    Option.isSome_eq_false_iff, Option.isNone_iff_eq_none, not_le, ne_eq, not_not]
  constructor
  · rintro ⟨row', found, ⟨h1, h2, h3⟩, rfl, rfl⟩
    exact ⟨found, ⟨h1, h2, h3⟩, rfl⟩
  · rintro ⟨found, auth, rfl⟩
    exact ⟨row, found, ⟨auth.unrevoked, auth.valid, auth.credential⟩, rfl, rfl⟩

@[simp] theorem authenticated_bind {α : Type} {authAt : Int} {id token : String} {f : MemberCluster → FleetTx α}
    {r : α × State} :
    (authenticated env authAt id token >>= f) s = .ok r ↔
      ∃ row, s.clusters.get? id = some row ∧ Authentic env authAt token row ∧ f row s = .ok r := by
  rw [Tx.bind_ok]
  constructor
  · rintro ⟨row, t, h, hf⟩
    obtain ⟨found, auth, rfl⟩ := authenticated_ok.1 h
    exact ⟨row, found, auth, hf⟩
  · rintro ⟨row, found, auth, hf⟩
    exact ⟨row, s, authenticated_ok.2 ⟨found, auth, rfl⟩, hf⟩

@[simp] theorem insertRevision_bind {α : Type} {row : ClusterRevision} {f : Unit → FleetTx α} {r : α × State} :
    (insertRevision row >>= f) s = .ok r ↔
      ∃ t, s.revisions.insert? row = some t ∧ f () { s with revisions := t } = .ok r := by
  rw [Tx.bind_ok]
  unfold insertRevision
  simp only [Tx.read_bind, Tx.expect_bind, Tx.write_ok]
  constructor
  · rintro ⟨_, _, ⟨t, ht, h⟩, hf⟩
    cases h
    exact ⟨t, ht, hf⟩
  · rintro ⟨t, ht, hf⟩
    exact ⟨(), _, ⟨t, ht, rfl⟩, hf⟩

theorem Move.moves {op : Op} {s s' : State} (m : Move env op s s') : Moves env op s s' := .single m

/-! ## Clusters -/

section Clusters

variable {authAt now : Int} {id token : String}

theorem credential_ok {days : Int} {r : String × State} (h : credential env days token s = .ok r) :
    r = (env.sha256 token, s) := by
  unfold credential at h
  simp only [Tx.reject_bind, Tx.pure_ok] at h
  exact h.2.symm

theorem registerCluster_ok {request : RegisterCluster} {r : MemberCluster × State}
    (h : registerCluster env now token request s = .ok r) : Moves env (.registerCluster now token request) s r.2 := by
  unfold registerCluster at h
  simp only [Tx.reject_bind] at h
  obtain ⟨digest, t, hd, h⟩ := Tx.bind_ok.1 h.2
  cases credential_ok hd
  simp only [Tx.read_bind, Tx.reject_bind, Tx.expect_bind, Tx.write_bind, Tx.pure_ok] at h
  obtain ⟨-, clusters, inserted, rfl⟩ := h
  exact (Move.registered inserted).moves

theorem rotateClusterCredential_ok {request : RotateCredential} {r : MemberCluster × State}
    (h : rotateClusterCredential env now token id request s = .ok r) :
    Moves env (.rotateCredential now token id request) s r.2 := by
  unfold rotateClusterCredential at h
  obtain ⟨digest, t, hd, h⟩ := Tx.bind_ok.1 h
  cases credential_ok hd
  simp only [Tx.read_bind, Tx.reject_bind, Tx.expect_bind, putCluster_bind, Tx.pure_ok] at h
  obtain ⟨row, found, -, epoch, -, rfl⟩ := h
  obtain rfl := Table.get?_key found
  exact (Move.cluster found .rotated).moves

theorem revokeCluster_ok {r : Unit × State} (h : revokeCluster now id s = .ok r) :
    Moves env (.revokeCluster now id) s r.2 := by
  unfold revokeCluster at h
  simp only [Tx.read_bind, Tx.expect_bind] at h
  obtain ⟨row, found, h⟩ := h
  obtain rfl := Table.get?_key found
  split at h
  · cases putCluster_ok.1 h
    exact (Move.cluster found .revoked).moves
  · cases Tx.pure_ok.1 h
    exact .refl

theorem pollCluster_ok {lease : String} {r : Polled × State} (h : pollCluster env authAt now lease id token s = .ok r) :
    Moves env (.pollDelivery authAt now lease id token) s r.2 := by
  unfold pollCluster at h
  simp only [authenticated_bind] at h
  obtain ⟨row, found, auth, h⟩ := h
  obtain rfl := Table.get?_key found
  split at h
  · cases Tx.pure_ok.1 h
    exact .refl
  · rename_i idle
    split at h
    · rename_i behind
      simp only [Tx.read_bind, Tx.expect_bind, putCluster_bind, Tx.pure_ok] at h
      obtain ⟨revision, stored, rfl⟩ := h
      exact (Move.cluster found (.leased rfl auth (by simpa using idle) behind stored)).moves
    · simp only [putCluster_bind, Tx.pure_ok] at h
      cases h
      exact (Move.cluster found .heartbeat).moves

theorem reportCluster_ok {report : ClusterReport} {r : Reported × State}
    (h : reportCluster env authAt now id token report s = .ok r) :
    Moves env (.reportDelivery authAt now id token report) s r.2 := by
  unfold reportCluster at h
  simp only [Tx.reject_bind, authenticated_bind, Tx.read_bind, Tx.expect_bind] at h
  obtain ⟨-, row, found, auth, revision, stored, digest, h⟩ := h
  obtain rfl := Table.get?_key found
  split at h
  · cases Tx.pure_ok.1 h
    exact .refl
  · simp only [Tx.reject_bind, putCluster_bind, Tx.pure_ok, not_or, ne_eq, not_not, Bool.not_eq_false, not_lt] at h
    obtain ⟨⟨version, lease, busy, newer⟩, rfl⟩ := h
    exact (Move.cluster found (.reported rfl auth stored (not_not.1 digest) version lease busy newer)).moves

end Clusters

/-! ## The termination fence -/

section Fence

/-- The termination time of a session. -/
def State.terminatedAt (s : State) (sessionId : String) : Option Int :=
  ((s.sessions.get? sessionId).bind fun row => row.proof).map fun proof => proof.observedAt

theorem latestTermination_cons {after : Option Int} {v : GatewayPoolView} {rest : List GatewayPoolView}
    {r : Option Int × State} : latestTermination after (v :: rest) s = .ok r ↔
      ∃ t, s.terminatedAt v.sessionId = some t ∧
        latestTermination (some (after.elim t fun old => max old t)) rest s = .ok r := by
  rw [latestTermination]
  simp only [Tx.read_bind, Tx.expect_bind, State.terminatedAt]
  constructor
  · rintro ⟨row, found, proof, hp, h⟩
    exact ⟨proof.observedAt, by rw [found]; simp [hp], h⟩
  · rintro ⟨t, ht, h⟩
    obtain ⟨proof, hp, rfl⟩ := Option.map_eq_some_iff.1 ht
    obtain ⟨row, found, hp⟩ := Option.bind_eq_some_iff.1 hp
    exact ⟨row, found, proof, hp, h⟩

/-- The fence is read without a change, and no termination it covers is later. -/
theorem latestTermination_ok {views : List GatewayPoolView} : ∀ {after : Option Int} {r : Option Int × State},
    latestTermination after views s = .ok r → r.2 = s ∧ (∀ t ∈ after, ∃ u ∈ r.1, t ≤ u) ∧
      (∀ v ∈ views, ∃ t u, s.terminatedAt v.sessionId = some t ∧ r.1 = some u ∧ t ≤ u) ∧
      (r.1 = none → after = none ∧ views = []) := by
  induction views with
  | nil =>
    intro after r h
    cases Tx.pure_ok.1 h
    exact ⟨rfl, fun t ht => ⟨t, ht, le_rfl⟩, fun v hv => (by cases hv), fun h => ⟨h, rfl⟩⟩
  | cons v rest ih =>
    intro after r h
    obtain ⟨t, ht, h⟩ := latestTermination_cons.1 h
    obtain ⟨same, above, covers, -⟩ := ih h
    obtain ⟨u, hu, le⟩ := above _ rfl
    have hv : t ≤ u := by cases after <;> simp_all
    refine ⟨same, fun t' ht' => ⟨u, hu, ?_⟩, fun v' hv' => ?_, fun hn => ?_⟩
    · cases ht'
      simp only [Option.elim] at le
      omega
    · rcases List.mem_cons.1 hv' with rfl | hv'
      · exact ⟨t, u, ht, hu, hv⟩
      · exact covers v' hv'
    · rw [hn] at hu; cases hu

/-- When every view has a termination time there is a fence. -/
theorem latestTermination_total {views : List GatewayPoolView} : ∀ (after : Option Int),
    (∀ v ∈ views, ∃ t, s.terminatedAt v.sessionId = some t) →
      ∃ fence, latestTermination after views s = .ok (fence, s) := by
  induction views with
  | nil => exact fun after _ => ⟨after, rfl⟩
  | cons v rest ih =>
    intro after h
    obtain ⟨t, ht⟩ := h v (List.mem_cons_self ..)
    obtain ⟨fence, hf⟩ := ih (some (after.elim t fun old => max old t)) fun w hw => h w (List.mem_cons_of_mem _ hw)
    exact ⟨fence, latestTermination_cons.2 ⟨t, ht, hf⟩⟩

/-- Unknown work of a terminated gateway on the pool. -/
def State.Unresolved (s : State) (poolId : String) (v : GatewayPoolView) : Prop :=
  v ∈ s.views ∧ v.poolId = poolId ∧ v.activeRequests < 0

theorem mem_unresolved {poolId : String} {v : GatewayPoolView} :
    v ∈ s.views.select (fun v => v.poolId == poolId && decide (v.activeRequests < 0)) ↔ s.Unresolved poolId v := by
  unfold Table.select State.Unresolved
  rw [List.mem_filter]
  simp [Table.mem_def]

/-- The fence of a pool covers every unresolved view; there is none exactly without such views. -/
theorem idleAfter_ok {poolId : String} {r : Option Int × State} (h : idleAfter poolId s = .ok r) :
    r.2 = s ∧ (∀ v, s.Unresolved poolId v → ∃ t u, s.terminatedAt v.sessionId = some t ∧ r.1 = some u ∧ t ≤ u) ∧
      (r.1 = none → ∀ v, ¬s.Unresolved poolId v) := by
  unfold idleAfter at h
  rw [Tx.read_bind] at h
  obtain ⟨same, -, covers, empty⟩ := latestTermination_ok h
  refine ⟨same, fun v hv => covers v (mem_unresolved.2 hv), fun hn v hv => ?_⟩
  have := mem_unresolved.2 hv
  rw [(empty hn).2] at this
  cases this

/-- The fence depends on the views and the sessions only. -/
theorem latestTermination_frame {t : State} (same : t.sessions = s.sessions) {views : List GatewayPoolView} :
    ∀ {after fence : Option Int}, latestTermination after views s = .ok (fence, s) →
      latestTermination after views t = .ok (fence, t) := by
  induction views with
  | nil =>
    intro after fence h
    cases Tx.pure_ok.1 h
    rfl
  | cons v rest ih =>
    intro after fence h
    obtain ⟨u, hu, h⟩ := latestTermination_cons.1 h
    refine latestTermination_cons.2 ⟨u, ?_, ih h⟩
    unfold State.terminatedAt at hu ⊢
    rw [same]; exact hu

theorem idleAfter_frame {t : State} {poolId : String} {fence : Option Int} (sessions : t.sessions = s.sessions)
    (views : t.views = s.views) (h : idleAfter poolId s = .ok (fence, s)) : idleAfter poolId t = .ok (fence, t) := by
  unfold idleAfter at h ⊢
  rw [Tx.read_bind] at h ⊢
  rw [views]
  exact latestTermination_frame sessions h

end Fence

/-! ## Desired states -/

section Desired

variable {now version : Int} {id : String}

theorem guardItem_ok {row : ManagedPool} {item : DesiredDeployment} {r : DesiredDeployment × State}
    (h : guardItem now version row item s = .ok r) :
    (row.state = .retired ∧ item.spec = none ∧ item.deleteUid = row.deploymentUid ∧ r = (item, s)) ∨
      (row.state ≠ .retired ∧ item.spec = some row.expectedSpec ∧
        r = ({ item with expectedUid := row.deploymentUid }, s)) ∨
      ∃ uid, row.state = .drained ∧ row.scaleOperation = none ∧ row.deploymentUid = some uid ∧
        (item.spec.all fun spec => rescales row.expectedSpec spec) ∧ (item.spec = none → item.deleteUid = some uid) ∧
        r = (if item.spec.isSome then { item with expectedUid := some uid } else item,
          { s with pools := s.pools.put (row.respecced now version (row.generation + 1) item) }) := by
  unfold guardItem at h
  split at h
  · rename_i retired
    simp only [Tx.reject_bind, Tx.pure_ok, not_not] at h
    obtain ⟨⟨spec, uid⟩, rfl⟩ := h
    exact .inl ⟨retired, spec, uid, rfl⟩
  · rename_i live
    split at h
    · rename_i same
      cases Tx.pure_ok.1 h
      exact .inr (.inl ⟨live, same, rfl⟩)
    · simp only [Tx.reject_bind, Tx.expect_bind, not_not, ne_eq, Bool.not_eq_true, Option.isSome_eq_false_iff,
        Option.isNone_iff_eq_none] at h
      obtain ⟨closed, free, uid, identified, h⟩ := h
      cases hs : item.spec with
      | some spec =>
        simp only [hs, Tx.reject_bind, Tx.expect_bind, putPool_bind, Tx.pure_ok, Bool.not_eq_false] at h
        obtain ⟨change, generation, hg, rfl⟩ := h
        obtain ⟨rfl, -⟩ := checkedAdd_some.1 hg
        exact .inr (.inr ⟨uid, closed, free, identified, by simpa using change, fun h => (by cases h), rfl⟩)
      | none =>
        simp only [hs, Tx.reject_bind, Tx.expect_bind, putPool_bind, Tx.pure_ok, not_not] at h
        obtain ⟨deletion, generation, hg, rfl⟩ := h
        obtain ⟨rfl, -⟩ := checkedAdd_some.1 hg
        exact .inr (.inr ⟨uid, closed, free, identified, rfl, fun _ => deletion, rfl⟩)

theorem guardDesired_ok {rows : List ManagedPool} :
    ∀ {s : State} {d : List DesiredDeployment} {r : List DesiredDeployment × State},
      guardDesired now version rows d s = .ok r →
      ∃ pools, r.2 = { s with pools := pools } ∧ Guarded now version rows d s.pools r.1 pools := by
  induction rows with
  | nil =>
    intro s d r h
    cases Tx.pure_ok.1 h
    exact ⟨s.pools, rfl, .done⟩
  | cons row rest ih =>
    intro s d r h
    rw [guardDesired] at h
    cases named : d.find? fun x => x.name == row.deployment with
    | none =>
      rw [named] at h
      obtain ⟨pools, hp, tail⟩ := ih h
      exact ⟨pools, hp, .absent named tail⟩
    | some item =>
      rw [named] at h
      obtain ⟨item', t, hi, h⟩ := Tx.bind_ok.1 h
      obtain ⟨pools, hp, tail⟩ := ih h
      rcases guardItem_ok hi with ⟨retired, deletion, uid, he⟩ | ⟨live, same, he⟩ |
        ⟨uid, closed, free, identified, change, deletion, he⟩
      · cases he
        exact ⟨pools, hp, .deleted named retired deletion uid tail⟩
      · cases he
        exact ⟨pools, hp, .kept named live same tail⟩
      · cases he
        exact ⟨pools, hp, .changed named closed free identified change deletion tail⟩

theorem putClusterDesired_ok {actor : String} {request : DesiredState} {r : DesiredUpdated × State}
    (h : putClusterDesired env now actor id request s = .ok r) : Move env (.putDesired now actor id request) s r.2 := by
  unfold putClusterDesired at h
  simp only [Tx.reject_bind, Tx.read_bind, Tx.expect_bind, Bool.not_eq_false, Bool.not_eq_true,
    Option.isSome_eq_false_iff, Option.isNone_iff_eq_none] at h
  obtain ⟨-, wellFormed, -, row, found, unrevoked, -, version, hv, h⟩ := h
  obtain ⟨rfl, -⟩ := checkedAdd_some.1 hv
  obtain ⟨deployments, t, hg, h⟩ := Tx.bind_ok.1 h
  obtain ⟨pools, ht, guarded⟩ := guardDesired_ok hg
  subst ht
  simp only [Tx.reject_bind, insertRevision_bind, putCluster_bind, Tx.pure_ok] at h
  obtain ⟨-, revisions, inserted, rfl⟩ := h
  exact .desired found unrevoked wellFormed guarded inserted

end Desired

/-! ## Pools -/

section Pools

variable {now : Int} {id : String}

@[simp] theorem activeModel_bind {α : Type} {model : String} {f : Unit → FleetTx α} {r : α × State} :
    (activeModel model >>= f) s = .ok r ↔ (∃ row, s.catalog.get? model = some row ∧ row.enabled = true) ∧
      f () s = .ok r := by
  rw [Tx.bind_ok]
  unfold activeModel
  simp only [Tx.read_bind, Tx.expect_bind, Tx.pure_ok, Option.filter_eq_some_iff]
  constructor
  · rintro ⟨_, _, ⟨row, found, he⟩, hf⟩
    cases he
    exact ⟨⟨row, found⟩, hf⟩
  · rintro ⟨⟨row, found⟩, hf⟩
    exact ⟨(), s, ⟨row, found, rfl⟩, hf⟩

@[simp] theorem checkEndpoint_bind {α : Type} {e : ServingEndpoint} {f : Unit → FleetTx α} {r : α × State} :
    (checkEndpoint e >>= f) s = .ok r ↔ e.validate = .ok () ∧ f () s = .ok r := by
  rw [Tx.bind_ok]
  unfold checkEndpoint
  cases hv : e.validate with
  | ok u =>
    constructor
    · rintro ⟨_, _, h, hf⟩
      cases Tx.pure_ok.1 h
      exact ⟨rfl, hf⟩
    · rintro ⟨-, hf⟩
      exact ⟨(), s, rfl, hf⟩
  | error message => simp

theorem bindPool_ok {request : PoolBinding} {legacy : List RoutePool} {r : ManagedPool × State}
    (h : bindPool now id request legacy s = .ok r) : Move env (.bindPool now id request legacy) s r.2 := by
  unfold bindPool at h
  simp only [Tx.reject_bind, Tx.read_bind, Tx.expect_bind, activeModel_bind, checkEndpoint_bind, Tx.write_bind,
    Tx.pure_ok] at h
  obtain ⟨-, -, cluster, found, current, revision, stored, spec, named, -, model, -, fenced, ⟨entry, known, -⟩, text,
    -, valid, -, -, -, dedicated, pools, inserted, rfl⟩ := h
  refine .bound found ?_ stored named (fun hs => ?_) (fun p hp he => dedicated ?_) valid rfl ⟨entry, known⟩ inserted
  · exact not_not.1 fun hc => current (.inr (.inr hc))
  · exact not_not.1 fun hp => fenced ⟨hs, hp⟩
  · exact List.any_eq_true.2 ⟨p, hp, by simp [he]⟩

theorem nextState_ok {row : ManagedPool} {action : String} {r : PoolState × State}
    (h : nextState now row action s = .ok r) :
    r.2 = s ∧
      ((action = "drain" ∧ r.1 = .draining ∧ (row.state = .active ∨ row.state = .pending)) ∨
        (action = "finish-drain" ∧ r.1 = .drained ∧ row.state = .draining ∧ s.Quiet row) ∨
        (action = "activate" ∧ r.1 = .active ∧ row.state = .drained)) := by
  unfold nextState at h
  split at h
  · rename_i hd
    cases Tx.pure_ok.1 h
    exact ⟨rfl, .inl ⟨hd.1, rfl, hd.2⟩⟩
  · split at h
    · rename_i hf
      simp only [Tx.read_bind, Tx.reject_bind, Tx.pure_ok] at h
      obtain ⟨quiet, rfl⟩ := h
      refine ⟨rfl, .inr (.inl ⟨hf.1, rfl, hf.2, fun v hv => ?_⟩)⟩
      cases hb : v.blocks row.generation with
      | false => rfl
      | true => exact absurd (List.any_eq_true.2 ⟨v, hv, hb⟩) quiet
    · split at h
      · rename_i ha
        cases Tx.pure_ok.1 h
        exact ⟨rfl, .inr (.inr ⟨ha.1, rfl, ha.2.1⟩)⟩
      · simp at h

theorem poolTransition_ok {expected : Int} {action : String} {r : ManagedPool × State}
    (h : poolTransition now id expected action s = .ok r) :
    Move env (.poolTransition now id expected action) s r.2 := by
  unfold poolTransition at h
  simp only [Tx.reject_bind, Tx.read_bind, Tx.expect_bind, Bool.not_eq_true, Option.isSome_eq_false_iff,
    Option.isNone_iff_eq_none] at h
  obtain ⟨row, found, -, free, h⟩ := h
  obtain rfl := Table.get?_key found
  obtain ⟨state, t, hs, h⟩ := Tx.bind_ok.1 h
  obtain ⟨same, cases⟩ := nextState_ok hs
  rw [show t = s from same] at h
  rcases cases with ⟨rfl, hr, live⟩ | ⟨rfl, hr, closed, quiet⟩ | ⟨rfl, hr, closed⟩ <;>
    obtain rfl : state = _ := hr
  · simp only [show ¬("drain" = "finish-drain") by decide, if_false, Tx.expect_bind, putPool_bind, Tx.pure_ok] at h
    obtain ⟨generation, hg, rfl⟩ := h
    obtain ⟨rfl, -⟩ := checkedAdd_some.1 hg
    exact .pool found (.closing live free) ⟨rfl, rfl, rfl⟩
  · simp only [if_true, Tx.pure_bind, putPool_bind, Tx.pure_ok] at h
    cases h
    exact .pool found (.finished closed free quiet) ⟨rfl, rfl, rfl⟩
  · simp only [show ¬("activate" = "finish-drain") by decide, if_false, Tx.expect_bind, putPool_bind, Tx.pure_ok] at h
    obtain ⟨generation, hg, rfl⟩ := h
    obtain ⟨rfl, -⟩ := checkedAdd_some.1 hg
    exact .pool found (.activated closed free) ⟨rfl, rfl, rfl⟩

/-! ### Observation tasks -/

variable {authAt : Int} {token : String} {nonce : String → String}

/-- The move that issues a task for a pool. -/
theorem observationTask_ok {cluster : MemberCluster} {row : ManagedPool} {r : Option ObservationTask × State}
    (found : s.pools.get? row.id = some row) (kept : row.state ≠ .retired)
    (h : observationTask now nonce cluster row s = .ok r) :
    (r = (none, s) ∧ cluster.acknowledgedVersion < row.desiredVersion) ∨
      ∃ after, idleAfter row.id s = .ok (after, s) ∧ row.desiredVersion ≤ cluster.acknowledgedVersion ∧
        r = (some (row.task (nonce row.id) after),
          { s with pools := s.pools.put (row.tasked now (nonce row.id) after) }) ∧
        Move env (.observationTasks authAt now nonce id token) s r.2 := by
  unfold observationTask at h
  split at h
  · rename_i behind
    cases Tx.pure_ok.1 h
    exact .inl ⟨rfl, behind⟩
  · rename_i current
    obtain ⟨after, t, hf, h⟩ := Tx.bind_ok.1 h
    have same : t = s := (idleAfter_ok hf).1
    rw [same] at hf h
    simp only [putPool_bind, Tx.pure_ok] at h
    cases h
    exact .inr ⟨after, hf, not_lt.1 current, rfl, Move.pool found (.tasked hf kept) ⟨rfl, rfl, rfl⟩⟩

/-- A task that was issued for a pool, and the row it left. -/
structure Issued (now : Int) (nonce : String → String) (cluster : MemberCluster) (s s' : State) (task : ObservationTask)
    (row : ManagedPool) (after : Option Int) : Prop where
  found : s.pools.get? row.id = some row
  fence : idleAfter row.id s = .ok (after, s)
  task : task = row.task (nonce row.id) after
  current : row.desiredVersion ≤ cluster.acknowledgedVersion
  tasked : s'.pools.get? row.id = some (row.tasked now (nonce row.id) after)

/-- Only pools change while tasks are issued. -/
structure SameButPools (s s' : State) : Prop where
  clusters : s'.clusters = s.clusters
  views : s'.views = s.views
  sessions : s'.sessions = s.sessions

theorem observationTasksOf_ok {cluster : MemberCluster} {rows : List ManagedPool} :
    ∀ {s : State} {r : List ObservationTask × State},
    (∀ row ∈ rows, s.pools.get? row.id = some row ∧ row.state ≠ .retired) → (rows.map (·.id)).Nodup →
    observationTasksOf now nonce cluster rows s = .ok r →
      Moves env (.observationTasks authAt now nonce id token) s r.2 ∧ SameButPools s r.2 ∧
        (∀ k, k ∉ rows.map (·.id) → r.2.pools.get? k = s.pools.get? k) ∧
        ∀ task ∈ r.1, ∃ row ∈ rows, ∃ after, Issued now nonce cluster s r.2 task row after := by
  induction rows with
  | nil =>
    intro s r _ _ h
    cases Tx.pure_ok.1 h
    exact ⟨.refl, ⟨rfl, rfl, rfl⟩, fun _ _ => rfl, fun task ht => by cases ht⟩
  | cons row rest ih =>
    intro s r found distinct h
    obtain ⟨task, t, ht, h⟩ := Tx.bind_ok.1 h
    obtain ⟨tasks, t', hts, h⟩ := Tx.bind_ok.1 h
    cases Tx.pure_ok.1 h
    obtain ⟨hrow, kept⟩ := found row (List.mem_cons_self ..)
    obtain ⟨fresh, distinct⟩ := List.nodup_cons.1 distinct
    have apart : ∀ other ∈ rest, row.id ≠ other.id := fun other ho he =>
      fresh (List.mem_map.2 ⟨other, ho, he.symm⟩)
    rcases @observationTask_ok env s now id authAt token nonce cluster row _ hrow kept ht with
      ⟨he, -⟩ | ⟨after, fence, current, he, move⟩
    · cases he
      obtain ⟨moves, same, others, issued⟩ := ih (fun x hx => found x (List.mem_cons_of_mem _ hx)) distinct hts
      refine ⟨moves, same, fun k hk => others k fun hm => hk (List.mem_cons_of_mem _ hm), fun x hx => ?_⟩
      obtain ⟨y, hy, after, h⟩ := issued x (by simpa using hx)
      exact ⟨y, List.mem_cons_of_mem _ hy, after, h⟩
    · cases he
      obtain ⟨moves, same, others, issued⟩ := ih
        (fun x hx => ⟨by rw [Table.get?_put_of_ne (apart x hx)]; exact (found x (List.mem_cons_of_mem _ hx)).1,
          (found x (List.mem_cons_of_mem _ hx)).2⟩) distinct hts
      have tasked : t'.pools.get? row.id = some (row.tasked now (nonce row.id) after) := by
        rw [others row.id (by simpa using fresh)]
        exact Table.get?_put_self (r := row.tasked now (nonce row.id) after) hrow
      refine ⟨.head move moves, ⟨same.clusters, same.views, same.sessions⟩, fun k hk => ?_, fun x hx => ?_⟩
      · rw [others k fun hm => hk (List.mem_cons_of_mem _ hm)]
        exact Table.get?_put_of_ne fun he : row.id = k => hk (by rw [← he]; exact List.mem_cons_self ..)
      · rcases List.mem_cons.1 (show x ∈ row.task (nonce row.id) after :: tasks by simpa using hx) with rfl | hx
        · exact ⟨row, List.mem_cons_self .., after, hrow, fence, rfl, current, tasked⟩
        · obtain ⟨y, hy, after', h⟩ := issued x hx
          refine ⟨y, List.mem_cons_of_mem _ hy, after',
            ⟨(found y (List.mem_cons_of_mem _ hy)).1, ?_, h.task, h.current, h.tasked⟩⟩
          refine idleAfter_frame ?_ ?_ h.fence <;> rfl

theorem State.observed_spec (s : State) (id : String) :
    (∀ row ∈ s.observed id, s.pools.get? row.id = some row ∧ row.state ≠ .retired ∧ row.clusterId = id) ∧
      ((s.observed id).map (·.id)).Nodup := by
  have perm := List.perm_insertionSort (fun a b : ManagedPool => a.updatedAt ≤ b.updatedAt)
    (s.pools.select fun r => r.clusterId == id && r.state != .retired)
  refine ⟨fun row hr => ?_, ?_⟩
  · have hm := perm.mem_iff.1 (List.mem_of_mem_take hr)
    obtain ⟨hm, hp⟩ := List.mem_filter.1 hm
    simp only [Bool.and_eq_true, beq_iff_eq, bne_iff_ne, ne_eq] at hp
    exact ⟨Table.get?_of_mem hm, hp.2, hp.1⟩
  · refine ((List.take_sublist ..).map _).nodup ?_
    refine (perm.map _).nodup_iff.2 ?_
    exact (List.filter_sublist.map _).nodup s.pools.nodup

theorem observationTasks_ok {r : List ObservationTask × State}
    (h : observationTasks env authAt now nonce id token s = .ok r) :
    Moves env (.observationTasks authAt now nonce id token) s r.2 ∧
      ∃ cluster, s.clusters.get? id = some cluster ∧ SameButPools s r.2 ∧
        ∀ task ∈ r.1, ∃ row after, row.clusterId = id ∧ Issued now nonce cluster s r.2 task row after := by
  unfold observationTasks at h
  simp only [authenticated_bind, Tx.read_bind] at h
  obtain ⟨cluster, found, -, h⟩ := h
  obtain ⟨rows, distinct⟩ := s.observed_spec id
  obtain ⟨moves, same, -, issued⟩ :=
    observationTasksOf_ok (fun row hr => ⟨(rows row hr).1, (rows row hr).2.1⟩) distinct h
  refine ⟨moves, cluster, found, same, fun task ht => ?_⟩
  obtain ⟨row, hr, after, hi⟩ := issued task ht
  exact ⟨row, after, (rows row hr).2.2, hi⟩

/-! ### Scaling -/

variable {report : PoolObservation} {cluster : MemberCluster} {row : ManagedPool}

/-- The scaling step writes no view, and of the pools only the one it is for. -/
structure Scaled (s s' : State) (row : ManagedPool) : Prop where
  views : s'.views = s.views
  others : ∀ k, row.id ≠ k → s'.pools.get? k = s.pools.get? k

theorem Scaled.refl (s : State) (row : ManagedPool) : Scaled s s row := ⟨rfl, fun _ _ => rfl⟩

theorem Scaled.put {s' : State} {row' : ManagedPool} (pools : s'.pools = s.pools.put row') (own : row'.id = row.id)
    (views : s'.views = s.views) : Scaled s s' row := by
  refine ⟨views, fun k other => ?_⟩
  rw [pools]
  exact Table.get?_put_of_ne (r := row') fun same => other (own.symm.trans same)

/-- A scale is applied, or it waits for the member to acknowledge what it was given before. -/
theorem apply_ok {current target : Int} {up : Bool} {r : Bool × State} (found : s.pools.get? row.id = some row)
    (owner : row.clusterId = id) (member : s.clusters.get? id = some cluster)
    (step : ∀ version spec, row.expectedSpec.set "replicas" (.int target) = some spec →
      PoolStep s (.observePool authAt now id token report) row
        (row.rescaled now version (if up then row.generation else row.generation + 1) current target spec up))
    (h : apply env now cluster row current target up s = .ok r) :
    Relation.ReflGen (Move env (.observePool authAt now id token report)) s r.2 ∧ Scaled s r.2 row := by
  unfold apply at h
  split at h
  · cases Tx.pure_ok.1 h
    exact ⟨.refl, .refl s row⟩
  · rename_i settled
    have hid : cluster.id = id := Table.get?_key member
    subst hid
    simp only [Tx.expect_bind, Tx.read_bind, Tx.reject_bind, insertRevision_bind, putCluster_bind] at h
    obtain ⟨uid, identified, previous, stored, spec, assigned, -, version, hv, revisions, inserted, h⟩ := h
    obtain ⟨next, -⟩ := checkedAdd_some.1 hv
    have move : ∀ generation, generation = (if up then row.generation else row.generation + 1) →
        Move env (.observePool authAt now cluster.id token report) s
          { s with
            revisions := revisions, clusters := s.clusters.put { cluster with desiredVersion := version }
            pools := s.pools.put (row.rescaled now version generation current target spec up) } := by
      rintro _ rfl
      exact .rescaled found (step version spec assigned) assigned owner member
        (not_not.1 settled) identified stored next.symm inserted
    cases up with
    | true =>
      simp only [if_true, Tx.pure_bind, putPool_bind, Tx.pure_ok] at h
      cases h
      exact ⟨.single (move _ rfl), .put rfl rfl rfl⟩
    | false =>
      simp only [Bool.false_eq_true, if_false, Tx.expect_bind, putPool_bind, Tx.pure_ok] at h
      obtain ⟨generation, hg, rfl⟩ := h
      exact ⟨.single (move _ (checkedAdd_some.1 hg).1.symm), .put rfl rfl rfl⟩

theorem reconcile_ok {r : Bool × State} (found : s.pools.get? row.id = some row) (owner : row.clusterId = id)
    (member : s.clusters.get? id = some cluster)
    (h : reconcile env now cluster row report.scaling report.appliedReplicas report.ready s = .ok r) :
    Relation.ReflGen (Move env (.observePool authAt now id token report)) s r.2 ∧ Scaled s r.2 row := by
  unfold reconcile at h
  split at h
  · cases Tx.pure_ok.1 h
    exact ⟨.refl, .refl s row⟩
  -- a scale under way is completed, one that drains goes on, and only then a new one starts
  · cases ha : row.applying with
    | some op =>
      rw [ha] at h
      obtain ⟨operation, phase⟩ := Option.filter_eq_some_iff.1 ha
      have applying : op.phase = .applying := by simpa using phase
      dsimp only at h
      unfold complete at h
      split at h
      · split at h
        · rename_i up
          simp only [putPool_bind, Tx.pure_ok] at h
          cases h
          exact ⟨.single (Move.pool found (.completed operation applying up) ⟨rfl, rfl, rfl⟩), .put rfl rfl rfl⟩
        · rename_i down
          simp only [Tx.expect_bind, putPool_bind, Tx.pure_ok] at h
          obtain ⟨generation, hg, rfl⟩ := h
          obtain ⟨rfl, -⟩ := checkedAdd_some.1 hg
          exact ⟨.single (Move.pool found (.reopened operation (.inl ⟨applying, by simpa using down⟩))
            ⟨rfl, rfl, rfl⟩), .put rfl rfl rfl⟩
      · cases Tx.pure_ok.1 h
        exact ⟨.refl, .refl s row⟩
    | none =>
      rw [ha] at h
      cases he : report.scaling with
      | none =>
        rw [he] at h
        cases Tx.pure_ok.1 h
        exact ⟨.refl, .refl s row⟩
      | some evidence =>
        rw [he] at h
        simp only [Tx.reject_bind, Tx.expect_bind] at h
        obtain ⟨-, current, recorded, h⟩ := h
        cases ho : row.scaleOperation with
        | some op =>
          rw [ho] at h
          dsimp only at h
          unfold drain at h
          simp only [Tx.reject_bind, not_or, not_not, ne_eq] at h
          obtain ⟨⟨closed, draining⟩, h⟩ := h
          split at h
          · simp only [Tx.expect_bind, putPool_bind, Tx.pure_ok] at h
            obtain ⟨generation, hg, rfl⟩ := h
            obtain ⟨rfl, -⟩ := checkedAdd_some.1 hg
            exact ⟨.single (Move.pool found (.reopened ho (.inr ⟨draining, closed⟩)) ⟨rfl, rfl, rfl⟩), .put rfl rfl rfl⟩
          · rename_i short
            rw [Tx.read_bind] at h
            split at h
            · cases Tx.pure_ok.1 h
              exact ⟨.refl, .refl s row⟩
            · rename_i open_
              simp only [not_or, Bool.not_eq_true, Bool.not_eq_false, List.any_eq_false] at open_
              refine apply_ok found owner member (fun version spec assigned => ?_) h
              exact .shrunk closed ho draining open_.1 recorded (by grind) assigned
        | none =>
          rw [ho] at h
          dsimp only at h
          unfold start at h
          split at h
          · cases Tx.pure_ok.1 h
            exact ⟨.refl, .refl s row⟩
          · rename_i live
            simp only [not_or, not_not, ne_eq] at live
            split at h
            · rename_i more
              refine apply_ok found owner member (fun version spec assigned => ?_) h
              exact .grown live.1 ho recorded more assigned
            · rename_i fewer
              simp only [Tx.expect_bind, putPool_bind, Tx.pure_ok] at h
              obtain ⟨generation, hg, rfl⟩ := h
              obtain ⟨rfl, -⟩ := checkedAdd_some.1 hg
              exact ⟨.single (Move.pool found (.shrinking live.1 ho recorded (by omega)) ⟨rfl, rfl, rfl⟩),
                .put rfl rfl rfl⟩

/-! ### Observations -/

/-- A report with idle evidence is bound to the fence it was asked for, which must be the current one. -/
def Asked (s : State) (report : PoolObservation) (row : ManagedPool) : Prop :=
  report.idle = true → ∃ t, report.idleAfter = some t ∧ row.idleRequestedAfter = some t ∧
    idleAfter row.id s = .ok (some t, s)

@[simp] theorem checkIdle_bind {α : Type} {f : Unit → FleetTx α} {r : α × State} :
    (checkIdle report row >>= f) s = .ok r ↔ Asked s report row ∧ f () s = .ok r := by
  unfold checkIdle Asked
  cases report.idle with
  | false => simp
  | true =>
    rw [if_pos rfl, Tx.bind_ok]
    constructor
    · rintro ⟨_, t, h, hf⟩
      obtain ⟨fence, u, hi, h⟩ := Tx.bind_ok.1 h
      have same : u = s := (idleAfter_ok hi).1
      rw [same] at hi h
      obtain ⟨hc, he⟩ := Tx.reject_ok.1 h
      cases he
      simp only [not_or, not_not, ne_eq] at hc
      obtain ⟨some_, asked, current⟩ := hc
      obtain ⟨t, ht⟩ := Option.ne_none_iff_exists'.1 some_
      exact ⟨fun _ => ⟨t, ht, by rw [← asked, ht], by rw [hi, ← current, ht]⟩, hf⟩
    · rintro ⟨h, hf⟩
      obtain ⟨t, ht, asked, current⟩ := h rfl
      refine ⟨(), s, ?_, hf⟩
      rw [Tx.bind_of_ok current]
      exact Tx.reject_of_not (by simp [ht, asked])

/-- The generation of the pool after the observation. -/
def ManagedPool.nextGeneration (row : ManagedPool) (report : PoolObservation) : Int :=
  if row.registers report = true then row.generation + 1 else row.generation

@[simp] theorem observedGeneration_bind {α : Type} {f : Int → FleetTx α} {r : α × State} :
    (observedGeneration report row >>= f) s = .ok r ↔
      (row.registers report = true → Fits (row.generation + 1)) ∧ f (row.nextGeneration report) s = .ok r := by
  unfold observedGeneration ManagedPool.nextGeneration
  split
  · rename_i registers
    rw [Tx.expect_bind]
    constructor
    · rintro ⟨g, hg, h⟩
      obtain ⟨rfl, fits⟩ := checkedAdd_some.1 hg
      exact ⟨fun _ => fits, h⟩
    · rintro ⟨fits, h⟩
      exact ⟨_, checkedAdd_some.2 ⟨rfl, fits registers⟩, h⟩
  · rw [Tx.pure_bind]
    exact ⟨fun h => ⟨fun hr => absurd hr ‹_›, h⟩, fun h => h.2⟩

/-- The revision of a model whose default is assigned has a successor. -/
def Successive (report : PoolObservation) (row : ManagedPool) (catalog : Table CatalogRow) : Prop :=
  row.registers report = true → row.binding.makeDefault = true →
    ∀ model ∈ catalog, undefaulted row.endpoint model = true → Fits (model.revision + 1)

/-- The default of the model is assigned when the pool is registered. -/
def catalogAfter (report : PoolObservation) (row : ManagedPool) (catalog : Table CatalogRow) : Table CatalogRow :=
  if row.registers report = true ∧ row.binding.makeDefault = true then
    catalog.mapRows (defaultPool row.endpoint row.id) (key_defaultPool row.endpoint row.id)
  else catalog

@[simp] theorem registerDefault_bind {α : Type} {f : Unit → FleetTx α} {r : α × State} :
    (registerDefault report row >>= f) s = .ok r ↔
      Successive report row s.catalog ∧ f () { s with catalog := catalogAfter report row s.catalog } = .ok r := by
  unfold registerDefault Successive catalogAfter
  split
  · rename_i h
    rw [Tx.bind_ok]
    unfold assignDefault
    simp only [Tx.read_bind, Tx.reject_bind, Tx.write_ok, h, forall_const]
    constructor
    · rintro ⟨_, _, ⟨hn, he⟩, hf⟩
      cases he
      refine ⟨fun model hm hu => ?_, hf⟩
      by_contra hc
      exact hn (List.any_eq_true.2 ⟨model, hm, by simp [hu, hc]⟩)
    · rintro ⟨hs, hf⟩
      refine ⟨(), _, ⟨fun ha => ?_, rfl⟩, hf⟩
      obtain ⟨model, hm, hb⟩ := List.any_eq_true.1 ha
      simp only [Bool.and_eq_true, Bool.not_eq_true', decide_eq_false_iff_not] at hb
      exact hb.2 (hs model hm hb.1)
  · rename_i h
    rw [Tx.pure_bind]
    exact ⟨fun hf => ⟨fun h1 h2 => absurd ⟨h1, h2⟩ h, hf⟩, fun hf => hf.2⟩

/-- The views of a pool after its unknown work has been proven finished. -/
def State.settle (s : State) (poolId : String) : State :=
  { s with views := s.views.mapRows (GatewayPoolView.settle poolId) (GatewayPoolView.key_settle poolId) }

theorem confirmIdle_bind {α : Type} {t : Int} {f : Unit → FleetTx α} {r : α × State}
    (hf : idleAfter row.id s = .ok (some t, s)) :
    (confirmIdle row >>= f) s = .ok r ↔
      row.state = .draining ∧ row.binding.trafficProtocol = 2 ∧ f () (s.settle row.id) = .ok r := by
  have run : ∀ x : Unit × State, confirmIdle row s = .ok x ↔
      row.state = .draining ∧ row.binding.trafficProtocol = 2 ∧ ((), s.settle row.id) = x := by
    intro x
    unfold confirmIdle
    simp only [Tx.reject_bind, not_not, ne_eq]
    rw [Tx.bind_of_ok hf, if_neg (by simp)]
    unfold settleViews
    rw [Tx.write_ok]
    rfl
  rw [Tx.bind_ok]
  constructor
  · rintro ⟨_, _, h, hr⟩
    obtain ⟨closed, fenced, he⟩ := (run _).1 h
    cases he
    exact ⟨closed, fenced, hr⟩
  · rintro ⟨closed, fenced, hr⟩
    exact ⟨(), _, (run _).2 ⟨closed, fenced, rfl⟩, hr⟩

/-- The state after the observation itself. -/
def State.observe (s : State) (now : Int) (report : PoolObservation) (row : ManagedPool) : State :=
  { s with
    catalog := catalogAfter report row s.catalog
    pools := s.pools.put (row.observed now (row.nextGeneration report) report) }

/-- The state after idle evidence was confirmed, if there was any. -/
def State.confirm (s : State) (report : PoolObservation) (poolId : String) : State :=
  if report.idle = true then s.settle poolId else s

/-- Idle evidence is accepted for a draining pool behind a fenced entry only. -/
def Confirmable (report : PoolObservation) (row : ManagedPool) : Prop :=
  report.idle = true → row.state = .draining ∧ row.binding.trafficProtocol = 2

theorem observed_draining (report : PoolObservation) (row : ManagedPool) (now generation : Int) :
    (row.observed now generation report).state = .draining ↔ row.state = .draining := by
  unfold ManagedPool.observed
  dsimp only
  split
  · rename_i h
    have : row.state = .pending := by unfold ManagedPool.registers at h; simp at h; exact h.2
    simp [this]
  · rfl

theorem confirmReported_bind {α : Type} {f : Unit → FleetTx α} {r : α × State} (asked : Asked s report row) :
    (confirmReported report (row.observed now (row.nextGeneration report) report) >>= f)
      (s.observe now report row) = .ok r ↔
      Confirmable report row ∧ f () ((s.observe now report row).confirm report row.id) = .ok r := by
  unfold confirmReported Confirmable State.confirm
  cases hi : report.idle with
  | false => simp
  | true =>
    obtain ⟨t, -, -, fence⟩ := asked hi
    have fence' : idleAfter row.id (s.observe now report row) = .ok (some t, s.observe now report row) := by
      refine idleAfter_frame ?_ ?_ fence <;> rfl
    rw [if_pos rfl, @confirmIdle_bind _ (row.observed now (row.nextGeneration report) report) _ _ _ _ fence',
      observed_draining]
    simp only [if_true, forall_const, and_assoc]
    rfl

/-- What an accepted observation was checked against, up to the scaling step. -/
structure Admitted (env : Env) (s : State) (authAt now : Int) (id token : String) (report : PoolObservation)
    (cluster : MemberCluster) (row : ManagedPool) : Prop where
  wellFormed : report.wellFormed = true
  member : s.clusters.get? id = some cluster
  auth : Authentic env authAt token cluster
  found : s.pools.get? report.poolId = some row
  answers : Answers s now id report row
  asked : Asked s report row
  same : report.deploymentUid.isSome → row.deploymentUid.isSome → row.deploymentUid = report.deploymentUid
  fits : row.registers report = true → Fits (row.generation + 1)
  successive : Successive report row s.catalog
  confirmable : Confirmable report row

/-- An observation is accepted exactly when it is admitted and the scaling step goes through. -/
theorem observePool_iff {r : Observed × State} :
    observePool env authAt now id token report s = .ok r ↔
      ∃ cluster row, Admitted env s authAt now id token report cluster row ∧
      reconcile env now cluster (row.observed now (row.nextGeneration report) report) report.scaling
        report.appliedReplicas report.ready ((s.observe now report row).confirm report row.id) =
          .ok (r.1.replicasChanged, r.2) := by
  unfold observePool
  simp only [Tx.reject_bind, authenticated_bind, Tx.read_bind, Tx.expect_bind, checkIdle_bind, observedGeneration_bind,
    registerDefault_bind, putPool_bind, not_or, not_not, ne_eq, not_lt, Bool.not_eq_true, Bool.not_eq_false]
  constructor
  · rintro ⟨wellFormed, cluster, member, auth, row, found, owner, ⟨generation, nonce, live, acknowledged⟩,
      asked, same, fits, successive, h⟩
    obtain ⟨confirmable, h⟩ := (confirmReported_bind asked).1 h
    obtain ⟨changed, t, hr, h⟩ := Tx.bind_ok.1 h
    cases Tx.pure_ok.1 h
    refine ⟨cluster, row,
      ⟨wellFormed, member, auth, found, ⟨owner, generation, nonce, ?_, cluster, member, acknowledged⟩,
      asked, fun h1 h2 => not_not.1 fun hne => same ⟨h1, h2, hne⟩, fits, successive, confirmable⟩, hr⟩
    cases hu : row.observationUntil with
    | none => rw [hu] at live; cases live
    | some t => rw [hu] at live; simpa using live
  · rintro ⟨cluster, row, ⟨wellFormed, member, auth, found, answers, asked, same, fits, successive, confirmable⟩, h⟩
    refine ⟨wellFormed, cluster, member, auth, row, found, answers.owner,
      ⟨answers.generation, answers.nonce, ?_, ?_⟩, asked, fun ⟨h1, h2, hne⟩ => hne (same h1 h2), fits, successive,
        (confirmReported_bind asked).2 ⟨confirmable, ?_⟩⟩
    · have live := answers.live
      cases hu : row.observationUntil with
      | none => rw [hu] at live; cases live
      | some t => rw [hu] at live; simpa using live
    · obtain ⟨c, hc, ack⟩ := answers.acknowledged
      rw [member] at hc
      cases hc
      exact ack
    · rw [Tx.bind_of_ok h]
      rfl

theorem Admitted.stored (ad : Admitted env s authAt now id token report cluster row) :
    s.pools.get? row.id = some row := by
  rw [show row.id = report.poolId from Table.get?_key ad.found]
  exact ad.found

/-- The pools before the scaling step. -/
theorem State.get?_confirm (found : s.pools.get? row.id = some row) (k : String) :
    ((s.observe now report row).confirm report row.id).pools.get? k =
      if row.id = k then some (row.observed now (row.nextGeneration report) report) else s.pools.get? k := by
  have pools : ((s.observe now report row).confirm report row.id).pools =
      s.pools.put (row.observed now (row.nextGeneration report) report) := by
    unfold State.confirm
    split <;> rfl
  rw [pools]
  exact Table.get?_put_at (r := row.observed now (row.nextGeneration report) report) rfl found k

/-- A report that says ready names the deployment. -/
theorem PoolObservation.named (formed : report.wellFormed = true) (ready : report.ready = true) :
    report.deploymentUid.isSome = true := by
  unfold PoolObservation.wellFormed at formed
  simp only [ready, Bool.and_eq_true, Bool.not_true, Bool.false_or] at formed
  exact formed.2

/-- An accepted observation prepares the scaling step, which makes at most one move. -/
theorem observePool_parts {r : Observed × State} (h : observePool env authAt now id token report s = .ok r) :
    ∃ cluster row, Admitted env s authAt now id token report cluster row ∧
      Moves env (.observePool authAt now id token report) s ((s.observe now report row).confirm report row.id) ∧
      Relation.ReflGen (Move env (.observePool authAt now id token report))
        ((s.observe now report row).confirm report row.id) r.2 ∧
      Scaled ((s.observe now report row).confirm report row.id) r.2 row := by
  obtain ⟨cluster, row, ad, h⟩ := observePool_iff.1 h
  have hid : row.id = report.poolId := Table.get?_key ad.found
  have updated : (s.observe now report row).pools.get? row.id =
      some (row.observed now (row.nextGeneration report) report) :=
    Table.get?_put_self (r := row.observed now (row.nextGeneration report) report) ad.stored
  have start : Moves env (.observePool authAt now id token report) s (s.observe now report row) := by
    have put : Move env (.observePool authAt now id token report) s
        { s with pools := s.pools.put (row.observed now (row.nextGeneration report) report) } :=
      .pool ad.stored (.observed ad.answers ad.same) ⟨rfl, rfl, rfl⟩
    unfold State.observe catalogAfter
    split
    · rename_i assigns
      let pool := row.observed now (row.nextGeneration report) report
      have assign : Move env (.observePool authAt now id token report) { s with pools := s.pools.put pool }
          { s with
            pools := s.pools.put pool
            catalog := s.catalog.mapRows (defaultPool pool.endpoint pool.id)
              (key_defaultPool pool.endpoint pool.id) } :=
        .defaulted updated (ad.successive assigns.1 assigns.2)
      exact put.moves.tail assign
    · exact put.moves
  have confirmed : Moves env (.observePool authAt now id token report) (s.observe now report row)
      ((s.observe now report row).confirm report row.id) := by
    unfold State.confirm
    split
    · rename_i idle
      obtain ⟨closed, fenced⟩ := ad.confirmable idle
      obtain ⟨t, ht, asked, fence⟩ := ad.asked idle
      have target : (row.observed now (row.nextGeneration report) report).id = report.poolId := hid
      refine (Move.settled idle target updated ((observed_draining ..).2 closed) fenced ⟨t, ht, asked, ?_⟩).moves
      refine idleAfter_frame ?_ ?_ fence <;> rfl
    · exact .refl
  have member : ((s.observe now report row).confirm report row.id).clusters.get? id = some cluster := by
    unfold State.confirm
    split <;> exact ad.member
  have prepared : ((s.observe now report row).confirm report row.id).pools.get?
      (row.observed now (row.nextGeneration report) report).id =
        some (row.observed now (row.nextGeneration report) report) :=
      (s.get?_confirm ad.stored row.id).trans (if_pos rfl)
  obtain ⟨last, scaled⟩ := reconcile_ok prepared ad.answers.owner member h
  exact ⟨cluster, row, ad, start.trans confirmed, last, scaled.views, scaled.others⟩

theorem observePool_ok {r : Observed × State} (h : observePool env authAt now id token report s = .ok r) :
    Moves env (.observePool authAt now id token report) s r.2 := by
  obtain ⟨_, row, -, prepared, last, -⟩ := observePool_parts h
  exact prepared.trans last.to_reflTransGen

end Pools

/-! ## Traffic -/

section Traffic

variable {now : Int} {ready : Bool} {sessionId : String} {clusters : List MemberCluster}

theorem grantPool_ok {pool : ManagedPool} {r : PoolControl × State}
    (h : grantPool now ready sessionId clusters pool s = .ok r) :
    r.1 = pool.control now ready clusters ∧ r.2 = { s with views := r.2.views } ∧
      ∀ k, r.2.views.get? k = if (pool.id, sessionId) = k then
        grantedView (pool.accepting now ready clusters) pool sessionId (s.views.get? k) else s.views.get? k := by
  unfold grantPool at h
  rw [Tx.read_bind] at h
  cases hv : s.views.get? (pool.id, sessionId) with
  | some view =>
    rw [hv] at h
    simp only [putView_bind, Tx.pure_ok] at h
    cases h
    have hk : key view = (pool.id, sessionId) := Table.get?_key hv
    refine ⟨rfl, rfl, fun k => ?_⟩
    rw [Table.get?_put_at (r := { view with deliveredGeneration := pool.generation }) hk hv]
    split
    · rename_i he; rw [← he, hv]; rfl
    · rfl
  | none =>
    rw [hv] at h
    dsimp only at h
    split at h
    · rename_i accepting
      simp only [Tx.read_bind, Tx.expect_bind, Tx.write_bind, Tx.pure_ok] at h
      obtain ⟨t, inserted, rfl⟩ := h
      refine ⟨rfl, rfl, fun k => ?_⟩
      show t.get? k = _
      rw [Table.get?_insert? inserted]
      show (if (pool.id, sessionId) = k then _ else _) = _
      split
      · rename_i he; rw [← he, hv, accepting]; rfl
      · rfl
    · rename_i closed
      cases Tx.pure_ok.1 h
      refine ⟨rfl, rfl, fun k => ?_⟩
      split
      · rename_i he
        rw [← he, hv, show pool.accepting now ready clusters = false by simpa using closed]
        rfl
      · rfl

theorem grantPools_ok {pools : List ManagedPool} :
    ∀ {s : State} {r : List PoolControl × State}, (pools.map (·.id)).Nodup →
    grantPools now ready sessionId clusters pools s = .ok r →
      r.1 = pools.map (ManagedPool.control now ready clusters) ∧ r.2 = { s with views := r.2.views } ∧
        (∀ pool ∈ pools, r.2.views.get? (pool.id, sessionId) =
          grantedView (pool.accepting now ready clusters) pool sessionId (s.views.get? (pool.id, sessionId))) ∧
        ∀ p k, (k = sessionId → p ∉ pools.map (·.id)) → r.2.views.get? (p, k) = s.views.get? (p, k) := by
  induction pools with
  | nil =>
    intro s r _ h
    cases Tx.pure_ok.1 h
    exact ⟨rfl, rfl, fun _ hp => (by cases hp), fun _ _ _ => rfl⟩
  | cons pool rest ih =>
    intro s r distinct h
    obtain ⟨control, t, h1, h⟩ := Tx.bind_ok.1 h
    obtain ⟨controls, t', h2, h⟩ := Tx.bind_ok.1 h
    cases Tx.pure_ok.1 h
    obtain ⟨fresh, distinct⟩ := List.nodup_cons.1 distinct
    obtain ⟨hc, ht, hviews⟩ := grantPool_ok h1
    obtain ⟨hcs, ht', granted, others⟩ := ih distinct h2
    simp only at hc ht hviews hcs ht' granted others
    refine ⟨by rw [hc, hcs]; rfl, by rw [ht', ht], fun x hx => ?_, fun p k hk => ?_⟩
    · rcases List.mem_cons.1 hx with rfl | hx
      · show t'.views.get? (x.id, sessionId) = _
        rw [others x.id sessionId fun _ => fresh, hviews, if_pos rfl]
      · show t'.views.get? (x.id, sessionId) = _
        rw [granted x hx, hviews, if_neg]
        intro he
        exact fresh (List.mem_map.2 ⟨x, hx, (Prod.mk.inj he).1.symm⟩)
    · show t'.views.get? (p, k) = _
      rw [others p k fun he hm => hk he (List.mem_cons_of_mem _ hm), hviews, if_neg]
      intro he
      obtain ⟨hp, hs⟩ := Prod.mk.inj he
      exact hk hs.symm (by rw [← hp]; exact List.mem_cons_self ..)

theorem State.listed_spec (s : State) : (∀ p, p ∈ s.listed ↔ p ∈ s.pools) ∧ (s.listed.map (·.id)).Nodup := by
  have perm := List.perm_insertionSort (fun a b : ManagedPool => a.id ≤ b.id) s.pools.rows
  exact ⟨fun p => perm.mem_iff, (perm.map _).nodup_iff.2 s.pools.nodup⟩

theorem validateIdentity_ok {wallAt : Int} {identity : GatewayIdentity} {r : Unit × State}
    (h : validateIdentity wallAt identity s = .ok r) : r.2 = s := by
  unfold validateIdentity at h
  simp only [Tx.reject_bind, Tx.read_bind, Tx.expect_bind, Tx.reject_ok] at h
  obtain ⟨-, _, -, -, rfl⟩ := h
  rfl

variable {id nonce token : String} {identity : Option GatewayIdentity}

theorem openSession_ok {r : GatewaySession × State} (h : openSession now id identity s = .ok r) :
    r.2 = { s with sessions := r.2.sessions } ∧ r.1.closed = false ∧ r.1.identity = identity ∧
      (s.sessions.get? id = some r.1 ∨ s.sessions.get? id = none ∧ r.1 = openedSession now id identity) ∧
      ∀ k, r.2.sessions.get? k = if id = k then some r.1 else s.sessions.get? k := by
  unfold openSession at h
  simp only [Tx.write_bind, Tx.read_bind, Tx.expect_bind, Tx.reject_bind, Tx.pure_ok, Bool.not_eq_true,
    not_not, ne_eq] at h
  obtain ⟨row, found, opened, same, rfl⟩ := h
  refine ⟨rfl, opened, same, ?_⟩
  cases hi : s.sessions.insert? (openedSession now id identity) with
  | none =>
    rw [hi] at found
    refine ⟨.inl found, fun k => ?_⟩
    show (Option.getD none s.sessions).get? k = _
    split
    · rename_i he; rw [← he]; exact found
    · rfl
  | some t =>
    rw [hi] at found
    have hs := (Table.insert?_some hi).1
    have hrow : t.get? id = some (openedSession now id identity) := Table.get?_insert?_self hi
    have : row = openedSession now id identity := Option.some.inj (found.symm.trans hrow)
    refine ⟨.inr ⟨hs, this⟩, fun k => ?_⟩
    show t.get? k = _
    rw [Table.get?_insert? hi, this]
    rfl

theorem identified_ok {wallAt : Int} {r : Unit × State} (h : identified wallAt identity s = .ok r) : r.2 = s := by
  unfold identified at h
  cases identity with
  | none => cases Tx.pure_ok.1 h; rfl
  | some i => exact validateIdentity_ok h

theorem grantSnapshot_ok {r : TrafficSnapshot × State} (h : grantSnapshot env now nonce token id identity s = .ok r) :
    ∃ row, Snapshot env now nonce token id identity row r.1 s r.2 := by
  unfold grantSnapshot at h
  rw [Tx.read_bind] at h
  obtain ⟨row, t, h1, h⟩ := Tx.bind_ok.1 h
  obtain ⟨ht, opened, same, session, sessions⟩ := openSession_ok h1
  simp only at ht opened same session sessions
  simp only [Tx.expect_bind, putSession_bind, Tx.write_bind, Tx.read_bind] at h
  obtain ⟨sequence, hs, h⟩ := h
  obtain ⟨rfl, -⟩ := checkedAdd_some.1 hs
  obtain ⟨controls, t', h2, h⟩ := Tx.bind_ok.1 h
  obtain ⟨listed, distinct⟩ := s.listed_spec
  -- the pools are granted one after the other, and each writes the view of its own pool
  obtain ⟨hc, ht', granted, others⟩ := grantPools_ok distinct h2
  simp only [Tx.read_bind, Tx.expect_bind, Tx.write_bind, Tx.pure_ok] at h
  obtain ⟨grants, inserted, rfl⟩ := h
  simp only at hc ht' granted others
  have clusters : t.clusters = s.clusters := by rw [ht]
  have views : t.views = s.views := by rw [ht]
  have pools : t.pools = s.pools := by rw [ht]
  have hrow : ∃ old, t.sessions.get? id = some old := ⟨row, by rw [sessions, if_pos rfl]⟩
  have rowId : row.id = id := by
    rcases session with h | ⟨-, rfl⟩
    · exact Table.get?_key h
    · rfl
  refine ⟨row, session, opened, same, by rw [hc, clusters], fun k => ?_, fun p k => ?_, fun g hg => ?_, ?_⟩
  · show t'.sessions.get? k = _
    rw [ht']
    have hput : t.sessions.get? (key (row.delivered now (row.sequence + 1) nonce)) = some row := by
      show t.sessions.get? row.id = _
      rw [rowId, sessions, if_pos rfl]
    show (t.sessions.put (row.delivered now (row.sequence + 1) nonce)).get? k = _
    rw [Table.get?_put hput]
    show (if row.id = k then _ else _) = _
    rw [rowId, sessions]
    split <;> rfl
  · show t'.views.get? (p, k) = _
    rw [clusters, views] at granted
    rw [views] at others
    by_cases hk : k = id
    · subst hk
      rw [if_pos rfl]
      cases hp : s.pools.get? p with
      | none =>
        rw [others p k fun _ hm => ?_]
        · rfl
        · obtain ⟨x, hx, he⟩ := List.mem_map.1 hm
          exact Table.get?_none_iff.1 hp x ((listed x).1 hx) he
      | some pool =>
        obtain ⟨hm, rfl⟩ := Table.get?_some_iff.1 hp
        exact granted pool ((listed pool).2 hm)
    · rw [if_neg hk]
      exact others p k fun he => absurd he hk
  · rcases (Table.mem_insert? inserted).1 hg with rfl | hm
    · exact .inr rfl
    · rw [ht'] at hm
      have hm : g ∈ t.grants := List.mem_of_mem_filter hm
      rw [ht] at hm
      exact .inl hm
  · show ({ t' with grants := grants } : State) = _
    rw [ht', ht]

theorem trafficSnapshot_ok {wallAt : Int} {r : TrafficSnapshot × State}
    (h : trafficSnapshot env wallAt now nonce token id identity s = .ok r) :
    ∃ row, Snapshot env now nonce token id identity row r.1 s r.2 := by
  unfold trafficSnapshot at h
  simp only [Tx.reject_bind] at h
  obtain ⟨-, h⟩ := h
  obtain ⟨_, t, hv, h⟩ := Tx.bind_ok.1 h
  rw [show t = s from identified_ok hv] at h
  exact grantSnapshot_ok h

theorem ackViews_ok {report : TrafficReport} {views : List GatewayPoolView} : ∀ {s : State} {r : Unit × State},
    (∀ v ∈ views, s.views.get? (key v) = some v) → (views.map key).Nodup → ackViews now report views s = .ok r →
      r.2 = { s with views := r.2.views } ∧
        (∀ v ∈ views, ∃ n, report.active.lookup v.poolId = some n ∧
          r.2.views.get? (key v) = some (v.acked now report.closed n)) ∧
        ∀ k, k ∉ views.map key → r.2.views.get? k = s.views.get? k := by
  induction views with
  | nil =>
    intro s r _ _ h
    cases Tx.pure_ok.1 h
    exact ⟨rfl, fun _ hv => (by cases hv), fun _ _ => rfl⟩
  | cons v rest ih =>
    intro s r found distinct h
    rw [ackViews] at h
    simp only [Tx.expect_bind, putView_bind] at h
    obtain ⟨n, hn, h⟩ := h
    obtain ⟨fresh, distinct⟩ := List.nodup_cons.1 distinct
    have hv : s.views.get? (key v) = some v := found v (List.mem_cons_self ..)
    have apart : ∀ other ∈ rest, key v ≠ key other := fun other ho he => fresh (List.mem_map.2 ⟨other, ho, he.symm⟩)
    have put : ∀ k, (s.views.put (v.acked now report.closed n)).get? k =
        if key v = k then some (v.acked now report.closed n) else s.views.get? k :=
      fun k => Table.get?_put (r := v.acked now report.closed n) hv k
    obtain ⟨same, acked, others⟩ := ih (fun x hx => by
      show (s.views.put (v.acked now report.closed n)).get? (key x) = _
      rw [put, if_neg (apart x hx)]
      exact found x (List.mem_cons_of_mem _ hx)) distinct h
    refine ⟨by rw [same], fun x hx => ?_, fun k hk => ?_⟩
    · rcases List.mem_cons.1 hx with rfl | hx
      · refine ⟨n, hn, ?_⟩
        rw [others _ fresh]
        show (s.views.put (x.acked now report.closed n)).get? (key x) = _
        rw [put, if_pos rfl]
      · exact acked x hx
    · rw [others k fun hm => hk (List.mem_cons_of_mem _ hm)]
      show (s.views.put (v.acked now report.closed n)).get? k = _
      rw [put, if_neg]
      rintro rfl
      exact hk (List.mem_cons_self ..)

/-- A report is a duplicate, or the first one of its snapshot. -/
theorem trafficReport_ok {report : TrafficReport} {r : Reported × State} (h : trafficReport env now report s = .ok r) :
    r.2 = s ∨ ∃ row, Acked env now report row s r.2 := by
  unfold trafficReport at h
  simp only [Tx.reject_bind, Tx.read_bind, Tx.expect_bind, not_or, not_not, ne_eq, Bool.not_eq_false] at h
  obtain ⟨counts, row, found, current, h⟩ := h
  split at h
  · simp only [Tx.reject_bind, Tx.pure_ok] at h
    obtain ⟨-, rfl⟩ := h
    exact .inl rfl
  · rename_i opened
    cases hr : row.reported with
    | some previous =>
      rw [hr] at h
      -- the snapshot was reported before, so this is the same report once more
      simp only [Tx.reject_bind, Tx.pure_ok] at h
      obtain ⟨-, rfl⟩ := h
      exact .inl rfl
    | none =>
      rw [hr] at h
      dsimp only at h
      rw [Tx.read_bind] at h
      obtain ⟨_, t, hv, h⟩ := Tx.bind_ok.1 h
      simp only [putSession_bind, Tx.pure_ok] at h
      cases h
      have mem : ∀ v, v ∈ s.views.select (fun v => v.sessionId == report.sessionId) ↔
          v ∈ s.views ∧ v.sessionId = report.sessionId :=
        fun v => by unfold Table.select; rw [List.mem_filter]; simp [Table.mem_def]
      obtain ⟨same, acked, others⟩ := ackViews_ok (fun v hv => Table.get?_of_mem ((mem v).1 hv).1)
        ((List.filter_sublist.map _).nodup s.views.nodup) hv
      simp only at same acked others
      have stored : ∀ p v, s.views.get? (p, report.sessionId) = some v →
          v ∈ s.views.select (fun v => v.sessionId == report.sessionId) ∧ key v = (p, report.sessionId) :=
            fun p v hg => by
        obtain ⟨hm, hk⟩ := Table.get?_some_iff.1 hg
        exact ⟨(mem v).2 ⟨hm, (Prod.mk.inj hk).2⟩, hk⟩
      refine .inr ⟨row, found, by simpa using opened, current, hr, counts, fun p k => ?_, fun p v hg => ?_, ?_⟩
      · show t.views.get? (p, k) = _
        split
        · rename_i he
          subst he
          cases hg : s.views.get? (p, report.sessionId) with
          | none =>
            rw [others _ fun hm => ?_, hg]
            · rfl
            · obtain ⟨v, hv, he⟩ := List.mem_map.1 hm
              exact Table.get?_none_iff.1 hg v ((mem v).1 hv).1 he
          | some v =>
            obtain ⟨hm, hk⟩ := stored p v hg
            obtain ⟨n, hn, ha⟩ := acked v hm
            have hp : v.poolId = p := (Prod.mk.inj hk).1
            rw [← hk, ha, Option.map_some, ← hp, hn]
            rfl
        · rename_i hne
          refine others _ fun hm => hne ?_
          obtain ⟨v, hv, he⟩ := List.mem_map.1 hm
          rw [← (Prod.mk.inj he).2]
          exact ((mem v).1 hv).2
      · obtain ⟨hm, hk⟩ := stored p v hg
        obtain ⟨n, hn, -⟩ := acked v hm
        have hp : v.poolId = p := (Prod.mk.inj hk).1
        exact ⟨n, hp ▸ hn⟩
      · show ({ t with sessions := _ } : State) = _
        rw [same]

end Traffic

/-! ## Gateway proofs -/

section Proofs

variable {authAt now : Int} {id token : String} {nonce : String → String}

theorem proofTasks_ok {opened rows : List GatewaySession} : ∀ {s : State} {r : List GatewayProofTask × State},
    (∀ row ∈ rows, s.sessions.get? row.id = some row) → (rows.map (·.id)).Nodup →
    proofTasks now nonce opened rows s = .ok r → Moves env (.gatewayProofTasks authAt now nonce id token) s r.2 := by
  induction rows with
  | nil =>
    intro s r _ _ h
    cases Tx.pure_ok.1 h
    exact .refl
  | cons row rest ih =>
    intro s r found distinct h
    obtain ⟨task, t, ht, h⟩ := Tx.bind_ok.1 h
    obtain ⟨tasks, t', hts, h⟩ := Tx.bind_ok.1 h
    cases Tx.pure_ok.1 h
    obtain ⟨fresh, distinct⟩ := List.nodup_cons.1 distinct
    unfold proofTask at ht
    simp only [Tx.expect_bind, putSession_bind, Tx.pure_ok] at ht
    obtain ⟨identity, -, ht⟩ := ht
    cases ht
    have moves := ih (fun x hx => ?_) distinct hts
    · exact .head (.proofTasked (found row (List.mem_cons_self ..))) moves
    · rw [Table.get?_put_of_ne (r := row.tasked now (nonce row.id)) fun he => fresh (List.mem_map.2 ⟨x, hx, he.symm⟩)]
      exact found x (List.mem_cons_of_mem _ hx)

theorem gatewayProofTasks_ok {r : List GatewayProofTask × State}
    (h : gatewayProofTasks env authAt now nonce id token s = .ok r) :
    Moves env (.gatewayProofTasks authAt now nonce id token) s r.2 := by
  unfold gatewayProofTasks at h
  simp only [authenticated_bind, Tx.read_bind] at h
  obtain ⟨cluster, -, -, h⟩ := h
  have perm := List.perm_insertionSort (fun a b : GatewaySession => a.deliveredAt ≤ b.deliveredAt)
    (s.sessions.select fun r => r.gatewayClusterId == some id && !r.proofComplete)
  refine proofTasks_ok (fun row hr => ?_) ?_ h
  · exact Table.get?_of_mem (List.mem_of_mem_filter (perm.mem_iff.1 (List.mem_of_mem_take hr)))
  · refine ((List.take_sublist ..).map _).nodup ((perm.map _).nodup_iff.2 ?_)
    exact (List.filter_sublist.map _).nodup s.sessions.nodup

theorem proven_ok {proof : GatewayProof} {row : GatewaySession} {r : Unit × State}
    (found : s.sessions.get? row.id = some row) (h : proven now proof row s = .ok r) :
    Move env (.gatewayProof authAt now id token proof) s r.2 := by
  unfold proven at h
  cases ho : proof.outcome with
  | bound =>
    simp only [ho, Tx.expect_bind, Tx.reject_bind, putSession_ok] at h
    obtain ⟨runtime, -, -, -, rfl⟩ := h
    exact .attested found rfl
  | terminated =>
    simp only [ho, Tx.reject_bind, not_or, not_not, ne_eq] at h
    obtain ⟨⟨attested, matching⟩, h⟩ := h
    split at h
    · cases putSession_ok.1 h
      exact .attested found rfl
    · rename_i opened
      unfold orphanViews at h
      simp only [Tx.write_bind, putSession_ok] at h
      cases h
      exact .terminated found (by simpa using opened) ho ⟨by simpa [Option.isSome_iff_ne_none] using attested, matching⟩
  | unknown =>
    simp only [ho, putSession_ok] at h
    cases h
    exact .attested found rfl
  | unbound =>
    simp only [ho, Tx.read_bind, Tx.reject_bind, putSession_ok, not_or, not_not, ne_eq] at h
    obtain ⟨⟨-, unexposed⟩, rfl⟩ := h
    exact .unbound found fun v hv he => by simpa [he] using Table.select_nil_iff.1 unexposed v hv
  | cleaned =>
    simp only [ho, Tx.reject_bind, putSession_ok] at h
    obtain ⟨-, rfl⟩ := h
    exact .attested found rfl

theorem gatewayProof_ok {proof : GatewayProof} {r : Unit × State}
    (h : gatewayProof env authAt now id token proof s = .ok r) :
    Move env (.gatewayProof authAt now id token proof) s r.2 := by
  unfold gatewayProof at h
  simp only [authenticated_bind, Tx.read_bind, Tx.expect_bind, Tx.reject_bind] at h
  obtain ⟨cluster, -, -, row, found, -, -, h⟩ := h
  have hid : row.id = proof.sessionId := Table.get?_key found
  exact proven_ok (by rw [hid]; exact found) h

end Proofs

/-! ## Every operation -/

theorem moves_commit {α : Type} {op : Op} {x : FleetTx α} (h : ∀ a t, x s = .ok (a, t) → Moves env op s t) :
    Moves env op s (Tx.commit x s).2 := by
  rcases Tx.commit_cases x s with ⟨a, t, hx, hc⟩ | ⟨e, -, hc⟩
  · rw [hc]; exact h a t hx
  · rw [hc]; exact .refl

theorem authorizeServing_ok {wallAt : Int} {headers : ServingHeaders} {r : Unit × State}
    (h : authorizeServing env wallAt headers s = .ok r) : r.2 = s := by
  unfold authorizeServing at h
  simp only [Tx.reject_bind, Tx.read_bind, Tx.expect_bind, Tx.reject_ok] at h
  obtain ⟨_, -, _, -, _, -, -, _, -, -, _, -, -, _, -, -, -, _, -, -, -, rfl⟩ := h
  rfl

/-- Every operation is a sequence of its moves. -/
theorem Op.run_moves (op : Op) (s : State) : Moves env op s (op.run env s) := by
  cases op with
  | registerCluster => exact moves_commit fun _ _ h => registerCluster_ok h
  | rotateCredential => exact moves_commit fun _ _ h => rotateClusterCredential_ok h
  | revokeCluster => exact moves_commit fun _ _ h => revokeCluster_ok h
  | putDesired => exact moves_commit fun _ _ h => (putClusterDesired_ok h).moves
  | pollDelivery => exact moves_commit fun _ _ h => pollCluster_ok h
  | reportDelivery => exact moves_commit fun _ _ h => reportCluster_ok h
  | bindPool => exact moves_commit fun _ _ h => (bindPool_ok h).moves
  | poolTransition => exact moves_commit fun _ _ h => (poolTransition_ok h).moves
  | observationTasks => exact moves_commit fun _ _ h => (observationTasks_ok h).1
  | observePool => exact moves_commit fun _ _ h => observePool_ok h
  | trafficSnapshot =>
    exact moves_commit fun _ _ h => by
      obtain ⟨row, hs⟩ := trafficSnapshot_ok h
      exact (Move.snapshot hs).moves
  | authorizeServing =>
    exact moves_commit fun _ t h => by
      rw [show t = s from authorizeServing_ok h]
      exact .refl
  | trafficReport =>
    exact moves_commit fun _ t h => by
      rcases trafficReport_ok h with he | ⟨row, ha⟩
      · rw [show t = s from he]; exact .refl
      · exact (Move.acked ha).moves
  | gatewayProofTasks => exact moves_commit fun _ _ h => gatewayProofTasks_ok h
  | gatewayProof => exact moves_commit fun _ _ h => (gatewayProof_ok h).moves
  | writeCatalog catalog endpoints => exact (Move.catalog catalog endpoints).moves

/-- What every move of an operation keeps, the operation keeps. -/
theorem Moves.keeps {P : State → Prop} {op : Op} {s s' : State} (m : Moves env op s s')
    (step : ∀ {s s'}, Move env op s s' → P s → P s') (h : P s) : P s' := by
  induction m with
  | refl => exact h
  | tail _ move ih => exact step move ih

/-- What the empty tables satisfy and every move keeps holds in every reachable state. -/
theorem Reachable.invariant {P : State → Prop} (start : P State.empty)
    (step : ∀ {op s s'}, Move env op s s' → P s → P s') {s : State} (h : Reachable env s) : P s :=
  h.of_step env start fun op s hs => (op.run_moves s).keeps step hs

end Xscope.Fleet

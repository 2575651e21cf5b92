/-
Which reports of a member agent keep a pool ready. A report that answers the current task of its
pool is accepted, and its readiness recorded, exactly when the idle evidence it carries can be
confirmed and the scaling step goes through without closing the pool.
-/
import Xscope.Fleet.Coupling
import Xscope.Fleet.Delivery
import Xscope.Fleet.Fence
import Mathlib.Order.Bounds.Basic

namespace Xscope.Fleet

variable {env : Env} {s s' : State} {op : Op}

/-! ## The agent -/

/-- What the agent reads of the deployment a task names: its identity, once that was checked, the
replicas and the recommendation it saw, and why it is not ready. -/
structure Reading where
  uid : Option String
  applied : Int
  scaling : Option ScaleEvidence
  failure : Option ObservationCode
  deriving DecidableEq

/-- `observe`, and the loop around it: idle evidence is looked for when the task asks for it. -/
def ObservationTask.report (task : ObservationTask) (reading : Reading) (idle : Bool) : PoolObservation :=
  { idleAfter := task.idleAfter, appliedReplicas := reading.applied, scaling := reading.scaling
    idle := task.idleAfter.isSome && idle, poolId := task.poolId, generation := task.generation, nonce := task.nonce
    deploymentUid := reading.uid, ready := reading.failure.isNone, code := reading.failure.getD .ok }

/-- A reading of the object of the task: the agent reports no other identity than the expected one,
and a recommendation within the bounds of the spec. -/
structure Reading.Of (reading : Reading) (task : ObservationTask) : Prop where
  failed : reading.failure ≠ some .ok
  ready : reading.failure = none → reading.uid.isSome
  bounded : reading.uid.all bounded
  same : ∀ uid ∈ reading.uid, ∀ expected ∈ task.expectedUid, expected = uid
  inRange : ∀ evidence ∈ reading.scaling, evidence.inRange task.expectedSpec

/-! ## What a pool keeps -/

/-- The cluster of a pool and its spec outside the replicas never change. -/
structure Inherits (row row' : ManagedPool) : Prop where
  cluster : row'.clusterId = row.clusterId
  spec : ∀ k, k ≠ "replicas" → row'.expectedSpec.get k = row.expectedSpec.get k

theorem Inherits.refl (row : ManagedPool) : Inherits row row := ⟨rfl, fun _ _ => rfl⟩

theorem Inherits.trans {a b c : ManagedPool} (h : Inherits a b) (k : Inherits b c) : Inherits a c :=
  ⟨k.cluster.trans h.cluster, fun key hk => (k.spec key hk).trans (h.spec key hk)⟩

theorem PoolStep.inherits {row row' : ManagedPool} (h : PoolStep s op row row') : Inherits row row' := by
  have assigned : ∀ {target : Int} {spec : Json}, row.expectedSpec.set "replicas" (.int target) = some spec →
      ∀ k, k ≠ "replicas" → spec.get k = row.expectedSpec.get k := by
    intro target spec h k hk
    rw [Json.get_set h, if_neg hk]
  cases h with
  | grown _ _ _ _ h => exact ⟨rfl, assigned h⟩
  | shrunk _ _ _ _ _ _ h => exact ⟨rfl, assigned h⟩
  | @respecced _ _ _ _ _ _ item _ _ change =>
    refine ⟨rfl, fun k hk => ?_⟩
    show (item.spec.getD row.expectedSpec).get k = _
    cases hs : item.spec with
    | none => rfl
    | some spec =>
      rw [hs] at change
      unfold rescales at change
      simp only [Option.all_some, Bool.and_eq_true, beq_iff_eq] at change
      rw [Json.get_set change.1, if_neg hk]
      rfl
  | _ => exact ⟨rfl, fun _ _ => rfl⟩

theorem Moves.inherits (m : Moves env op s s') {id : String} {p : ManagedPool} (h : s.pools.get? id = some p) :
    ∃ p', s'.pools.get? id = some p' ∧ Inherits p p' := by
  induction m with
  | refl => exact ⟨p, h, .refl p⟩
  | tail _ move ih =>
    obtain ⟨q, hq, inherits⟩ := ih
    obtain ⟨q', hq', step⟩ := move.pools.kept id q hq
    refine ⟨q', hq', ?_⟩
    rcases step with rfl | step
    · exact inherits
    · exact inherits.trans step.inherits

theorem Op.runAll_inherits (ops : List Op) {id : String} : ∀ {s : State} {p : ManagedPool}, s.pools.get? id = some p →
    ∃ p', (Op.runAll env ops s).pools.get? id = some p' ∧ Inherits p p' := by
  induction ops with
  | nil => exact fun h => ⟨_, h, .refl _⟩
  | cons op ops ih =>
    intro s p h
    obtain ⟨q, hq, first⟩ := (op.run_moves s).inherits h
    obtain ⟨q', hq', rest⟩ := ih hq
    exact ⟨q', hq', first.trans rest⟩

/-- A recommendation is in range of a spec by its bounds, which a pool keeps. -/
theorem Inherits.inRange {row row' : ManagedPool} (h : Inherits row row') (evidence : ScaleEvidence) :
    evidence.inRange row'.expectedSpec = evidence.inRange row.expectedSpec := by
  unfold ScaleEvidence.inRange minReplicas maxReplicas
  rw [h.spec "autoscaling" (by decide)]

/-- The cluster of a pool has a revision. -/
theorem Reachable.revised (h : Reachable env s) :
    ∀ p ∈ s.pools, ∃ c, s.clusters.get? p.clusterId = some c ∧ 1 ≤ c.desiredVersion := by
  suffices hs : Delivered env s ∧ ∀ p ∈ s.pools, ∃ c, s.clusters.get? p.clusterId = some c ∧
    1 ≤ c.desiredVersion from hs.2
  refine Reachable.invariant (P := fun s => Delivered env s ∧
    ∀ p ∈ s.pools, ∃ c, s.clusters.get? p.clusterId = some c ∧ 1 ≤ c.desiredVersion)
    ⟨.empty, fun _ hp => absurd hp (Table.not_mem_empty _)⟩ ?_ h
  rintro op s s' m ⟨delivered, placed⟩
  refine ⟨delivered.step m, fun p hp => ?_⟩
  have found := Table.get?_of_mem hp
  have old : ∀ {clusterId : String} {c : MemberCluster}, s.clusters.get? clusterId = some c → 1 ≤ c.desiredVersion →
      ∃ c', s'.clusters.get? clusterId = some c' ∧ 1 ≤ c'.desiredVersion := by
    intro clusterId c hc le
    obtain ⟨c', hc', more, -⟩ := m.grows.versions clusterId c hc
    exact ⟨c', hc', le.trans more⟩
  cases hold : s.pools.get? (key p) with
  | none =>
    cases m.pools.fresh _ p found hold with
    | @bound _ _ request _ cluster revision _ _ member _ stored =>
      exact old member (((delivered.contiguous cluster (Table.get?_mem member) _).1 ⟨revision, stored⟩).1)
  | some row =>
    obtain ⟨p', h', step⟩ := m.pools.kept _ row hold
    cases Option.some.inj (found.symm.trans h')
    obtain ⟨c, hc, le⟩ := placed row (Table.get?_mem hold)
    rcases step with rfl | step
    · exact old hc le
    · rw [step.inherits.cluster]
      exact old hc le

/-! ## The fence -/

/-- The termination times of the gateways with unknown work on the pool. -/
def State.terminations (s : State) (poolId : String) : Set Int :=
  {t | ∃ v, s.Unresolved poolId v ∧ s.terminatedAt v.sessionId = some t}

theorem latestTermination_attained {views : List GatewayPoolView} : ∀ {after : Option Int} {r : Option Int × State},
    latestTermination after views s = .ok r → ∀ u, r.1 = some u →
      after = some u ∨ ∃ v ∈ views, s.terminatedAt v.sessionId = some u := by
  induction views with
  | nil =>
    intro after r h u hu
    cases Tx.pure_ok.1 h
    exact .inl hu
  | cons v rest ih =>
    intro after r h u hu
    obtain ⟨t, ht, h⟩ := latestTermination_cons.1 h
    rcases ih h u hu with he | ⟨w, hw, hu⟩
    · cases after with
      | none =>
        cases he
        exact .inr ⟨v, List.mem_cons_self .., ht⟩
      | some old =>
        simp only [Option.elim, Option.some.injEq] at he
        rcases max_cases old t with ⟨hm, -⟩ | ⟨hm, -⟩
        · exact .inl (by rw [← he, hm])
        · exact .inr ⟨v, List.mem_cons_self .., by rw [← he, hm]; exact ht⟩
    · exact .inr ⟨w, List.mem_cons_of_mem _ hw, hu⟩

/-- The fence of a pool is the latest termination of a gateway with unknown work on it. -/
theorem idleAfter_iff (f : Fenced s) {poolId : String} {t : Int} :
    idleAfter poolId s = .ok (some t, s) ↔ IsGreatest (s.terminations poolId) t := by
  have greatest : ∀ u, idleAfter poolId s = .ok (some u, s) → IsGreatest (s.terminations poolId) u := by
    intro u h
    have covers := (idleAfter_ok h).2.1
    unfold idleAfter at h
    rw [Tx.read_bind] at h
    constructor
    · rcases latestTermination_attained h u rfl with he | ⟨v, hv, hu⟩
      · cases he
      · exact ⟨v, mem_unresolved.1 hv, hu⟩
    · rintro w ⟨v, hv, hw⟩
      obtain ⟨w', u', hw', hu', le⟩ := covers v hv
      rw [hw] at hw'
      cases hw'
      cases hu'
      exact le
  refine ⟨greatest t, fun h => ?_⟩
  have total : ∃ fence, idleAfter poolId s = .ok (fence, s) := by
    unfold idleAfter
    rw [Tx.read_bind]
    refine latestTermination_total none fun v hv => ?_
    obtain ⟨mem, -, unknown⟩ := mem_unresolved.1 hv
    obtain ⟨-, row, session, -, proved⟩ := f.orphaned v mem unknown
    obtain ⟨proof, hp⟩ := Option.isSome_iff_exists.1 proved
    exact ⟨proof.observedAt, by unfold State.terminatedAt; rw [session]; simp [hp]⟩
  obtain ⟨fence, hf⟩ := total
  cases fence with
  | none =>
    obtain ⟨v, hv, -⟩ := h.1
    exact absurd hv ((idleAfter_ok hf).2.2 rfl v)
  | some u => rw [hf, (greatest u hf).unique h]

/-! ## The scaling step -/

/-- `x` succeeds and leaves the pool with the readiness deadline. -/
def Keeps {α : Type} (x : FleetTx α) (s : State) (poolId : String) (deadline : Option Int) : Prop :=
  ∃ r, x s = .ok r ∧ ∃ p, r.2.pools.get? poolId = some p ∧ p.readyUntil = deadline

section Keeps

variable {α β : Type} {poolId : String} {deadline : Option Int} {e : ServiceError}

theorem keeps_pure {a : α} {p : ManagedPool} (found : s.pools.get? poolId = some p) (h : p.readyUntil = deadline) :
    Keeps (pure a) s poolId deadline := ⟨_, rfl, p, found, h⟩

theorem keeps_reject {c : Prop} [Decidable c] {f : Unit → FleetTx β} :
    Keeps (Tx.reject c e >>= f) s poolId deadline ↔ ¬c ∧ Keeps (f ()) s poolId deadline := by
  unfold Keeps
  simp only [Tx.reject_bind, and_assoc, exists_and_left]

theorem keeps_expect {o : Option α} {f : α → FleetTx β} :
    Keeps (Tx.expect o e >>= f) s poolId deadline ↔ ∃ a, o = some a ∧ Keeps (f a) s poolId deadline := by
  unfold Keeps
  simp only [Tx.expect_bind]
  constructor
  · rintro ⟨r, ⟨a, ho, hr⟩, hp⟩; exact ⟨a, ho, r, hr, hp⟩
  · rintro ⟨a, ho, r, hr, hp⟩; exact ⟨r, ⟨a, ho, hr⟩, hp⟩

theorem keeps_read {g : State → α} {f : α → FleetTx β} :
    Keeps (Tx.read g >>= f) s poolId deadline ↔ Keeps (f (g s)) s poolId deadline := Iff.rfl

theorem keeps_putCluster {row : MemberCluster} {f : Unit → FleetTx β} :
    Keeps (putCluster row >>= f) s poolId deadline ↔
      Keeps (f ()) { s with clusters := s.clusters.put row } poolId deadline := Iff.rfl

theorem keeps_insertRevision {row : ClusterRevision} {f : Unit → FleetTx β} :
    Keeps (insertRevision row >>= f) s poolId deadline ↔
      ∃ t, s.revisions.insert? row = some t ∧ Keeps (f ()) { s with revisions := t } poolId deadline := by
  unfold Keeps
  simp only [insertRevision_bind]
  constructor
  · rintro ⟨r, ⟨t, ht, hr⟩, hp⟩; exact ⟨t, ht, r, hr, hp⟩
  · rintro ⟨t, ht, r, hr, hp⟩; exact ⟨r, ⟨t, ht, hr⟩, hp⟩

theorem keeps_putPool {b : β} {row : ManagedPool} (row' : ManagedPool) (found : s.pools.get? row.id = some row)
    (hid : row'.id = row.id) :
    Keeps (do putPool row'; pure b) s row.id deadline ↔ row'.readyUntil = deadline := by
  have lookup : (s.pools.put row').get? row.id = some row' := by
    rw [Table.get?_put_at (r := row') hid found, if_pos rfl]
  unfold Keeps
  simp only [putPool_bind, Tx.pure_ok]
  constructor
  · rintro ⟨_, rfl, p, hp, h⟩
    cases Option.some.inj (lookup.symm.trans hp)
    exact h
  · intro h
    exact ⟨_, rfl, row', lookup, h⟩

/-- A pool stored with the next generation. -/
theorem keeps_next {b : β} {row : ManagedPool} (row' : Int → ManagedPool) (found : s.pools.get? row.id = some row)
    (hid : ∀ g, (row' g).id = row.id) (deadlines : ∀ g, (row' g).readyUntil = deadline) :
    Keeps (do
      let generation ← Tx.expect (checkedAdd row.generation 1) e
      putPool (row' generation)
      pure b) s row.id deadline ↔ Fits (row.generation + 1) := by
  rw [keeps_expect]
  constructor
  · rintro ⟨g, hg, -⟩
    obtain ⟨rfl, fits⟩ := checkedAdd_some.1 hg
    exact fits
  · intro fits
    exact ⟨_, checkedAdd_some.2 ⟨rfl, fits⟩, (keeps_putPool _ found (hid _)).2 (deadlines _)⟩

end Keeps

section Scaling

variable {now : Int} {cluster : MemberCluster} {row : ManagedPool} {report : PoolObservation}

/-- What the scaling step relies on, and every reachable state has. -/
structure Scalable (now : Int) (s : State) (cluster : MemberCluster) (row : ManagedPool)
    (report : PoolObservation) : Prop where
  found : s.pools.get? row.id = some row
  coupled : Coupled row
  acknowledged : row.desiredVersion ≤ cluster.acknowledgedVersion
  previous : ∃ revision, s.revisions.get? (cluster.id, cluster.desiredVersion) = some revision
  next : s.revisions.get? (cluster.id, cluster.desiredVersion + 1) = none
  identified : report.ready = true → row.deploymentUid.isSome
  inRange : ∀ evidence ∈ report.scaling, evidence.inRange row.expectedSpec
  deadline : row.readyUntil = if report.ready then some (now + seconds 45) else none

/-- The pool has a recommendation to consider: it is not applying an operation. -/
structure Recommended (row : ManagedPool) (report : PoolObservation) (evidence : ScaleEvidence)
    (current : Int) : Prop where
  waiting : row.applying = none
  evidence : report.scaling = some evidence
  recorded : currentReplicas row.expectedSpec = some current

/-- The payload of an increase to `target` replicas is of an admitted size. -/
def GrowthFits (env : Env) (s : State) (cluster : MemberCluster) (row : ManagedPool) (target : Int) : Prop :=
  ∀ previous spec, s.revisions.get? (cluster.id, cluster.desiredVersion) = some previous →
    row.expectedSpec.set "replicas" (.int target) = some spec →
      (env.encode (upsertItem ⟨row.deployment, some spec, none, row.deploymentUid⟩ previous.payload)).utf8ByteSize ≤
        payloadLimit

/-- The scaling step of the report goes through, and does not close the pool. -/
structure Scales (env : Env) (s : State) (cluster : MemberCluster) (row : ManagedPool)
    (report : PoolObservation) : Prop where
  recorded : row.applying = none → report.scaling.isSome → (currentReplicas row.expectedSpec).isSome
  completed : ∀ op, row.applying = some op → op.up = false → report.ready = true → report.appliedReplicas = op.target →
    Fits (row.generation + 1)
  cancelled : ∀ evidence current, Recommended row report evidence current → row.scaleOperation.isSome →
    report.ready = true →
    current ≤ evidence.replicas → Fits (row.generation + 1)
  unapplied : ∀ evidence current, Recommended row report evidence current → row.scaleOperation.isSome →
    report.ready = true →
    evidence.replicas < current → s.Quiet row → cluster.desiredVersion ≠ cluster.acknowledgedVersion
  grown : ∀ evidence current, Recommended row report evidence current → row.scaleOperation = none →
    row.state = .active →
    report.ready = true → current < evidence.replicas → cluster.desiredVersion = cluster.acknowledgedVersion →
      GrowthFits env s cluster row evidence.replicas ∧ Fits (cluster.desiredVersion + 1)
  shrinking : ∀ evidence current, Recommended row report evidence current → row.scaleOperation = none →
    row.state = .active →
    report.ready = true → evidence.replicas < current → Fits (row.generation + 1)

/-- A spec that asks for managed scaling is an object, so that its replicas can be assigned. -/
theorem managedScaling_set {spec : Json} (managed : managedScaling spec = true) (target : Int) :
    ∃ spec', spec.set "replicas" (.int target) = some spec' := by
  unfold managedScaling at managed
  have inner : ((spec.get "autoscaling").get "managed") ≠ .null := by
    rw [of_decide_eq_true managed]
    exact nofun
  have outer : spec.get "autoscaling" ≠ .null := by
    intro h
    have := Json.isObject_of_get inner
    rw [h] at this
    cases this
  obtain ⟨spec', h, -⟩ := Json.set_of_isObject (Json.isObject_of_get outer) "replicas" (.int target)
  exact ⟨spec', h⟩

/-- An increase is stored when the payload and the version are in bounds. -/
theorem grow_keeps {current target : Int} (h : Scalable now s cluster row report) (ready : report.ready = true)
    (managed : managedScaling row.expectedSpec = true) :
    Keeps (apply env now cluster row current target true) s row.id row.readyUntil ↔
      (cluster.desiredVersion = cluster.acknowledgedVersion →
        GrowthFits env s cluster row target ∧ Fits (cluster.desiredVersion + 1)) := by
  unfold apply
  split
  · rename_i behind
    exact ⟨fun _ h => absurd h behind, fun _ => keeps_pure h.found rfl⟩
  · rename_i settled
    rw [not_not] at settled
    simp only [keeps_expect, keeps_read, keeps_reject, keeps_insertRevision, keeps_putCluster, if_true]
    constructor
    · rintro ⟨uid, identified, previous, stored, spec, assigned, small, version, hv, -⟩ -
      obtain ⟨rfl, fits⟩ := checkedAdd_some.1 hv
      refine ⟨fun previous' spec' stored' assigned' => ?_, fits⟩
      rw [stored] at stored'
      cases stored'
      rw [assigned] at assigned'
      cases assigned'
      rw [identified]
      exact not_lt.1 small
    · intro bounds
      obtain ⟨small, fits⟩ := bounds settled
      obtain ⟨uid, identified⟩ := Option.isSome_iff_exists.1 (h.identified ready)
      obtain ⟨previous, stored⟩ := h.previous
      obtain ⟨spec, assigned⟩ := managedScaling_set managed target
      have size := small previous spec stored assigned
      rw [identified] at size
      obtain ⟨t, inserted⟩ := Table.insert?_of_none (r := (⟨cluster.id, cluster.desiredVersion + 1,
        upsertItem ⟨row.deployment, some spec, none, some uid⟩ previous.payload,
        env.digest (upsertItem ⟨row.deployment, some spec, none, some uid⟩ previous.payload),
          "keda"⟩ : ClusterRevision)) h.next
      refine ⟨uid, identified, previous, stored, spec, assigned, not_lt.2 size, _, checkedAdd_some.2 ⟨rfl, fits⟩,
        t, inserted, ?_⟩
      have found :
          ({ s with
              revisions := t
              clusters := s.clusters.put { cluster with desiredVersion := cluster.desiredVersion + 1 } } :
            State).pools.get? row.id = some row := h.found
      exact (keeps_putPool (row.rescaled now (cluster.desiredVersion + 1) row.generation current target spec true)
        found rfl).2 rfl

/-- A decrease that is stored closes the pool. -/
theorem shrink_keeps {current target : Int} (h : Scalable now s cluster row report) (ready : report.ready = true) :
    Keeps (apply env now cluster row current target false) s row.id row.readyUntil ↔
      cluster.desiredVersion ≠ cluster.acknowledgedVersion := by
  unfold apply
  split
  · rename_i behind
    exact ⟨fun _ => behind, fun _ => keeps_pure h.found rfl⟩
  · rename_i settled
    refine ⟨?_, fun hne => absurd hne settled⟩
    simp only [keeps_expect, keeps_read, keeps_reject, keeps_insertRevision, keeps_putCluster,
      Bool.false_eq_true, if_false]
    rintro ⟨uid, identified, previous, stored, spec, assigned, small, version, hv, t, inserted, generation, hg, kept⟩
    have found : ({ s with revisions := t, clusters := s.clusters.put { cluster with desiredVersion := version } } :
      State).pools.get? row.id = some row := h.found
    have closed := (keeps_putPool (row.rescaled now version generation current target spec false) found rfl).1 kept
    have deadline := h.deadline
    rw [if_pos ready, ← closed] at deadline
    cases deadline

/-- While an operation is applied only its completion counts. -/
theorem scales_applying {op : Operation} (ha : row.applying = some op) :
    Scales env s cluster row report ↔
      (op.up = false → report.ready = true → report.appliedReplicas = op.target → Fits (row.generation + 1)) := by
  have busy : ∀ {evidence current}, ¬Recommended row report evidence current := fun r => by
    have := r.waiting
    rw [ha] at this
    cases this
  constructor
  · exact fun h => h.completed op ha
  · intro h
    refine ⟨fun hn => (by rw [ha] at hn; cases hn), fun op' ha' => ?_, fun _ _ r => absurd r busy,
      fun _ _ r => absurd r busy, fun _ _ r => absurd r busy, fun _ _ r => absurd r busy⟩
    cases Option.some.inj (ha.symm.trans ha')
    exact h

/-- Without a recommendation nothing is done. -/
theorem scales_idle (waiting : row.applying = none) (none : report.scaling = none) :
    Scales env s cluster row report := by
  have missing : ∀ {evidence current}, ¬Recommended row report evidence current := fun r => by
    have := r.evidence
    rw [none] at this
    cases this
  refine ⟨fun _ h => (by rw [none] at h; cases h), fun _ h => (by rw [waiting] at h; cases h),
    fun _ _ r => absurd r missing, fun _ _ r => absurd r missing, fun _ _ r => absurd r missing,
      fun _ _ r => absurd r missing⟩

/-- The recommendation of a report is the only one. -/
theorem Recommended.unique {evidence evidence' : ScaleEvidence} {current current' : Int}
    (h : Recommended row report evidence current) (h' : Recommended row report evidence' current') :
    evidence' = evidence ∧ current' = current :=
  ⟨Option.some.inj (h'.evidence.symm.trans h.evidence), Option.some.inj (h'.recorded.symm.trans h.recorded)⟩

/-- A draining decrease under a recommendation. -/
theorem scales_draining {evidence : ScaleEvidence} {current : Int} {op : Operation}
    (r : Recommended row report evidence current) (ho : row.scaleOperation = some op) :
    Scales env s cluster row report ↔
      (report.ready = true → current ≤ evidence.replicas → Fits (row.generation + 1)) ∧
        (report.ready = true → evidence.replicas < current → s.Quiet row →
          cluster.desiredVersion ≠ cluster.acknowledgedVersion) := by
  constructor
  · exact fun h => ⟨h.cancelled evidence current r (by rw [ho]; rfl), h.unapplied evidence current r (by rw [ho]; rfl)⟩
  · rintro ⟨cancelled, unapplied⟩
    refine ⟨fun _ _ => by rw [r.recorded]; rfl, fun _ ha => (by rw [r.waiting] at ha; cases ha), fun _ _ r' _ => ?_,
      fun _ _ r' _ => ?_, fun _ _ _ hn => (by rw [ho] at hn; cases hn), fun _ _ _ hn => (by rw [ho] at hn; cases hn)⟩
    · obtain ⟨rfl, rfl⟩ := r.unique r'
      exact cancelled
    · obtain ⟨rfl, rfl⟩ := r.unique r'
      exact unapplied

/-- A recommendation for a pool without an operation. -/
theorem scales_free {evidence : ScaleEvidence} {current : Int} (r : Recommended row report evidence current)
    (ho : row.scaleOperation = none) : Scales env s cluster row report ↔
      (row.state = .active → report.ready = true → current < evidence.replicas →
        cluster.desiredVersion = cluster.acknowledgedVersion →
        GrowthFits env s cluster row evidence.replicas ∧ Fits (cluster.desiredVersion + 1)) ∧
        (row.state = .active → report.ready = true → evidence.replicas < current → Fits (row.generation + 1)) := by
  constructor
  · exact fun h => ⟨h.grown evidence current r ho, h.shrinking evidence current r ho⟩
  · rintro ⟨grown, shrinking⟩
    refine ⟨fun _ _ => by rw [r.recorded]; rfl, fun _ ha => (by rw [r.waiting] at ha; cases ha),
      fun _ _ _ hs => (by rw [ho] at hs; cases hs), fun _ _ _ hs => (by rw [ho] at hs; cases hs), fun _ _ r' _ => ?_,
        fun _ _ r' _ => ?_⟩
    · obtain ⟨rfl, rfl⟩ := r.unique r'
      exact grown
    · obtain ⟨rfl, rfl⟩ := r.unique r'
      exact shrinking

theorem complete_keeps {op : Operation} (h : Scalable now s cluster row report) :
    Keeps (complete cluster row op report.appliedReplicas report.ready) s row.id row.readyUntil ↔
      (op.up = false → report.ready = true → report.appliedReplicas = op.target → Fits (row.generation + 1)) := by
  unfold complete
  split
  · rename_i done
    split
    · rename_i up
      exact ⟨fun _ down => absurd (up.symm.trans down) (by decide),
        fun _ => (keeps_putPool { row with scaleOperation := none } h.found rfl).2 rfl⟩
    · rename_i down
      rw [Bool.not_eq_true] at down
      rw [keeps_next row.reopened h.found (fun _ => rfl) fun _ => rfl]
      exact ⟨fun fits _ _ _ => fits, fun fits => fits down done.1 done.2.1⟩
  · rename_i undone
    refine ⟨fun _ _ ready applied => absurd ⟨ready, applied, h.acknowledged⟩ undone, fun _ => keeps_pure h.found rfl⟩

theorem quiet_iff : (s.viewsOf row.id).any (fun v => v.blocks row.generation) = false ↔ s.Quiet row := by
  rw [List.any_eq_false]
  exact forall₂_congr fun v _ => by rw [Bool.not_eq_true]

theorem drain_keeps {op : Operation} {evidence : ScaleEvidence} {current : Int} (h : Scalable now s cluster row report)
    (ho : row.scaleOperation = some op) (waiting : row.applying = none) :
    Keeps (drain env now cluster row op evidence current report.ready) s row.id row.readyUntil ↔
      (report.ready = true → current ≤ evidence.replicas → Fits (row.generation + 1)) ∧
        (report.ready = true → evidence.replicas < current → s.Quiet row →
          cluster.desiredVersion ≠ cluster.acknowledgedVersion) := by
  obtain ⟨closed, phase⟩ := h.coupled.drains ho waiting
  unfold drain
  rw [keeps_reject, and_iff_right (by simp [closed, phase])]
  split
  · rename_i recovered
    rw [keeps_next row.reopened h.found (fun _ => rfl) fun _ => rfl]
    exact ⟨fun fits => ⟨fun _ _ => fits, fun _ less => absurd recovered.1 (not_le.2 less)⟩,
      fun fits => fits.1 recovered.2 recovered.1⟩
  · rename_i short
    have fewer : report.ready = true → evidence.replicas < current := fun ready => not_le.1 fun le => short ⟨le, ready⟩
    rw [keeps_read]
    split
    · rename_i blocked
      refine ⟨fun _ => ⟨fun ready le => absurd ⟨le, ready⟩ short, fun ready _ quiet => ?_⟩,
        fun _ => keeps_pure h.found rfl⟩
      rcases blocked with blocked | unready
      · rw [quiet_iff.2 quiet] at blocked; cases blocked
      · rw [ready] at unready; cases unready
    · rename_i free
      rw [not_or, Bool.not_eq_true, Bool.not_eq_false] at free
      rw [shrink_keeps h free.2]
      exact ⟨fun unsettled => ⟨fun ready le => absurd ⟨le, ready⟩ short, fun _ _ _ => unsettled⟩,
        fun scales => scales.2 free.2 (fewer free.2) (quiet_iff.1 free.1)⟩

theorem start_keeps {evidence : ScaleEvidence} {current : Int} (h : Scalable now s cluster row report)
    (managed : managedScaling row.expectedSpec = true) :
    Keeps (start env now cluster row evidence current report.ready) s row.id row.readyUntil ↔
      (row.state = .active → report.ready = true → current < evidence.replicas →
        cluster.desiredVersion = cluster.acknowledgedVersion →
        GrowthFits env s cluster row evidence.replicas ∧ Fits (cluster.desiredVersion + 1)) ∧
        (row.state = .active → report.ready = true → evidence.replicas < current → Fits (row.generation + 1)) := by
  unfold start
  split
  · rename_i idle
    have same : row.state = .active → report.ready = true → evidence.replicas = current := fun live ready => by
      rcases idle with h | h | h
      · exact absurd live h
      · rw [ready] at h; cases h
      · exact h
    refine ⟨fun _ => ⟨fun live ready more => ?_, fun live ready less => ?_⟩, fun _ => keeps_pure h.found rfl⟩
    · have := same live ready; omega
    · have := same live ready; omega
  · rename_i moves
    simp only [not_or, not_not, ne_eq, Bool.not_eq_false] at moves
    obtain ⟨live, ready, differs⟩ := moves
    split
    · rename_i more
      rw [grow_keeps h ready managed]
      exact ⟨fun grows => ⟨fun _ _ _ => grows, fun _ _ less => absurd more (by omega)⟩,
        fun scales => scales.1 live ready more⟩
    · rename_i less
      rw [keeps_next (fun g => row.shrinking g current evidence.replicas) h.found (fun _ => rfl) fun _ => rfl]
      refine ⟨fun fits => ⟨fun _ _ more => absurd more less, fun _ _ _ => fits⟩,
        fun scales => scales.2 live ready (by omega)⟩

/-- The scaling step keeps the deadline of the report exactly when it goes through without closing
the pool. -/
theorem reconcile_keeps (h : Scalable now s cluster row report) :
    Keeps (reconcile env now cluster row report.scaling report.appliedReplicas report.ready) s row.id row.readyUntil ↔
      (managedScaling row.expectedSpec = true → Scales env s cluster row report) := by
  unfold reconcile
  split
  · rename_i unmanaged
    exact ⟨fun _ managed => (by rw [unmanaged] at managed; cases managed), fun _ => keeps_pure h.found rfl⟩
  · rename_i managed
    rw [Bool.not_eq_false] at managed
    rw [forall_prop_of_true managed]
    cases ha : row.applying with
    | some op =>
      dsimp only
      rw [complete_keeps h, scales_applying ha]
    | none =>
      cases he : report.scaling with
      | none => exact ⟨fun _ => scales_idle ha he, fun _ => keeps_pure h.found rfl⟩
      | some evidence =>
        dsimp only
        rw [keeps_reject, and_iff_right (by simp [h.inRange evidence he]), keeps_expect]
        cases hr : currentReplicas row.expectedSpec with
        | none =>
          constructor
          · rintro ⟨_, hn, _⟩
            cases hn
          · intro scales
            have := scales.recorded ha (by rw [he]; rfl)
            rw [hr] at this
            cases this
        | some current =>
          have r : Recommended row report evidence current := ⟨ha, he, hr⟩
          have one : ∀ P : Int → Prop, (∃ a, some current = some a ∧ P a) ↔ P current := fun P => by simp
          rw [one]
          cases ho : row.scaleOperation with
          | some op =>
            dsimp only
            rw [drain_keeps h ho ha, scales_draining r ho]
          | none =>
            dsimp only
            rw [start_keeps h managed, scales_free r ho]

end Scaling

/-! ## Observations -/

section Observations

variable {authAt now : Int} {id token : String} {cluster : MemberCluster} {row : ManagedPool} {report : PoolObservation}

/-- The report keeps its pool ready: idle evidence is for a draining pool behind a fenced entry, with
the fence the pool asked for, which is still the latest termination it has to cover; the counters it
raises have a successor; and the scaling step goes through without closing the pool. -/
structure Sustains (env : Env) (s : State) (now : Int) (cluster : MemberCluster) (row : ManagedPool)
    (report : PoolObservation) :
    Prop where
  idle : report.idle = true → row.state = .draining ∧ row.binding.trafficProtocol = 2 ∧
    ∃ t, report.idleAfter = some t ∧ row.idleRequestedAfter = some t ∧ IsGreatest (s.terminations row.id) t
  generation : row.registers report = true → Fits (row.generation + 1)
  successive : Successive report row s.catalog
  scaling : managedScaling row.expectedSpec = true →
    Scales env (s.confirm report row.id) cluster (row.observed now (row.nextGeneration report) report) report

/-- The report answers the current task of the pool with what the agent may see of its object. -/
structure Answering (env : Env) (s : State) (authAt now : Int) (id token : String) (cluster : MemberCluster)
    (row : ManagedPool) (report : PoolObservation) : Prop where
  wellFormed : report.wellFormed = true
  member : s.clusters.get? id = some cluster
  auth : Authentic env authAt token cluster
  found : s.pools.get? report.poolId = some row
  answers : Answers s now id report row
  same : report.deploymentUid.isSome → row.deploymentUid.isSome → row.deploymentUid = report.deploymentUid
  inRange : ∀ evidence ∈ report.scaling, evidence.inRange row.expectedSpec

theorem Answering.admitted_iff (f : Fenced s) (h : Answering env s authAt now id token cluster row report) :
    Admitted env s authAt now id token report cluster row ↔
      (report.idle = true → row.state = .draining ∧ row.binding.trafficProtocol = 2 ∧
        ∃ t, report.idleAfter = some t ∧ row.idleRequestedAfter = some t ∧ IsGreatest (s.terminations row.id) t) ∧
      (row.registers report = true → Fits (row.generation + 1)) ∧ Successive report row s.catalog := by
  constructor
  · intro ad
    refine ⟨fun idle => ?_, ad.fits, ad.successive⟩
    obtain ⟨closed, fenced⟩ := ad.confirmable idle
    obtain ⟨t, ht, asked, fence⟩ := ad.asked idle
    exact ⟨closed, fenced, t, ht, asked, (idleAfter_iff f).1 fence⟩
  · rintro ⟨idle, fits, successive⟩
    refine ⟨h.wellFormed, h.member, h.auth, h.found, h.answers, fun hi => ?_, h.same, fits, successive, fun hi => ?_⟩
    · obtain ⟨-, -, t, ht, asked, greatest⟩ := idle hi
      exact ⟨t, ht, asked, (idleAfter_iff f).2 greatest⟩
    · obtain ⟨closed, fenced, -⟩ := idle hi
      exact ⟨closed, fenced⟩

/-- The scaling step of an answering report has what it relies on. -/
theorem Answering.scalable (reachable : Reachable env s) (h : Answering env s authAt now id token cluster row report) :
    Scalable now ((s.observe now report row).confirm report row.id) cluster
      (row.observed now (row.nextGeneration report) report) report := by
  have hid : row.id = report.poolId := Table.get?_key h.found
  have found : s.pools.get? row.id = some row := by rw [hid]; exact h.found
  have revisions : ((s.observe now report row).confirm report row.id).revisions = s.revisions := by
    unfold State.confirm
    split <;> rfl
  have own : cluster.id = id := Table.get?_key h.member
  have contiguous := reachable.delivered.contiguous cluster (Table.get?_mem h.member)
  have revised : 1 ≤ cluster.desiredVersion := by
    obtain ⟨c, hc, le⟩ := reachable.revised row (Table.get?_mem h.found)
    rw [h.answers.owner, h.member] at hc
    cases hc
    exact le
  refine ⟨?_, (reachable.coupled row (Table.get?_mem h.found)).observed .., ?_, ?_, ?_, fun ready => ?_, h.inRange, rfl⟩
  · exact (s.get?_confirm found row.id).trans (if_pos rfl)
  · obtain ⟨c, hc, ack⟩ := h.answers.acknowledged
    rw [h.member] at hc
    cases hc
    exact ack
  · rw [revisions]
    exact (contiguous _).2 ⟨revised, le_rfl⟩
  · rw [revisions]
    cases hn : s.revisions.get? (cluster.id, cluster.desiredVersion + 1) with
    | none => rfl
    | some r =>
      have := ((contiguous _).1 ⟨r, hn⟩).2
      omega
  · show (if row.deploymentUid.isNone then report.deploymentUid else row.deploymentUid).isSome = true
    cases hu : row.deploymentUid with
    | none => exact PoolObservation.named h.wellFormed ready
    | some uid => rfl

theorem Answering.keeps_iff (reachable : Reachable env s) (h : Answering env s authAt now id token cluster row report) :
    Keeps (observePool env authAt now id token report) s report.poolId
      (if report.ready then some (now + seconds 45) else none) ↔
      Sustains env s now cluster row report := by
  have hid : row.id = report.poolId := Table.get?_key h.found
  have views : Scales env ((s.observe now report row).confirm report row.id) cluster
      (row.observed now (row.nextGeneration report) report) report ↔
      Scales env (s.confirm report row.id) cluster (row.observed now (row.nextGeneration report) report) report := by
    have quiet : ((s.observe now report row).confirm report row.id).Quiet
      (row.observed now (row.nextGeneration report) report) ↔
        (s.confirm report row.id).Quiet (row.observed now (row.nextGeneration report) report) := by
      unfold State.confirm
      split <;> exact Iff.rfl
    have growth : ∀ target, GrowthFits env ((s.observe now report row).confirm report row.id) cluster
        (row.observed now (row.nextGeneration report) report) target ↔
        GrowthFits env (s.confirm report row.id) cluster
          (row.observed now (row.nextGeneration report) report) target := by
      intro target
      unfold State.confirm
      split <;> exact Iff.rfl
    constructor
    · rintro ⟨a, b, c, d, e, f⟩
      exact ⟨a, b, c, by simpa only [quiet] using d, by simpa only [growth] using e, f⟩
    · rintro ⟨a, b, c, d, e, f⟩
      exact ⟨a, b, c, by simpa only [quiet] using d, by simpa only [growth] using e, f⟩
  have step := @reconcile_keeps env _ now cluster _ report (h.scalable reachable)
  rw [views] at step
  unfold Keeps
  constructor
  · rintro ⟨r, hr, kept⟩
    obtain ⟨c, p, ad, hrun⟩ := observePool_iff.1 hr
    cases Option.some.inj (h.member.symm.trans ad.member)
    cases Option.some.inj (h.found.symm.trans ad.found)
    obtain ⟨idle, generation, successive⟩ := (h.admitted_iff reachable.fenced).1 ad
    refine ⟨idle, generation, successive, step.1 ⟨_, hrun, ?_⟩⟩
    rw [← hid] at kept
    exact kept
  · intro sustains
    obtain ⟨r, hrun, kept⟩ := step.2 sustains.scaling
    refine ⟨(⟨r.1⟩, r.2), observePool_iff.2 ⟨cluster, row,
      (h.admitted_iff reachable.fenced).2 ⟨sustains.idle, sustains.generation, sustains.successive⟩, hrun⟩, ?_⟩
    rw [← hid]
    exact kept

end Observations

/-- For every task issued in a run and every run after it: while the task is current, the report of
the agent keeps the pool ready exactly when it sustains it. -/
theorem report_keeps_iff {env : Env} {before : List Op} {authAt₀ now₀ : Int} {nonce : String → String}
    {id token₀ : String} {tasks : List ObservationTask} {s₀ : State} {task : ObservationTask} {authAt now : Int}
    {token : String} {cluster : MemberCluster} {row : ManagedPool}
    (issued : observationTasks env authAt₀ now₀ nonce id token₀ (Op.runAll env before State.empty) = .ok (tasks, s₀))
    (asked : task ∈ tasks) (after : List Op) (found : (Op.runAll env after s₀).pools.get? task.poolId = some row)
    (member : (Op.runAll env after s₀).clusters.get? id = some cluster) (auth : Authentic env authAt token cluster)
    (generation : row.generation = task.generation) (current : row.observationNonce = some task.nonce)
    (identity : row.deploymentUid = task.expectedUid) (version : row.desiredVersion = task.desiredVersion)
    (live : row.observationUntil.any fun t => decide (now < t)) {reading : Reading} (seen : reading.Of task)
    (idle : Bool) :
    Keeps (observePool env authAt now id token (task.report reading idle)) (Op.runAll env after s₀) task.poolId
        (if reading.failure.isNone then some (now + seconds 45) else none) ↔
      Sustains env (Op.runAll env after s₀) now cluster row (task.report reading idle) := by
  have run : (Op.observationTasks authAt₀ now₀ nonce id token₀).run env (Op.runAll env before State.empty) = s₀ :=
    congrArg Prod.snd (Tx.commit_of_ok issued)
  have reachable : Reachable env (Op.runAll env after s₀) := by
    refine Reachable.runAll env ?_ after
    rw [← run]
    exact Reachable.run env ⟨before, rfl⟩ _
  obtain ⟨-, cluster₀, found₀, same, tasks_⟩ := observationTasks_ok issued
  obtain ⟨row₀, after₀, owner, h⟩ := tasks_ task asked
  have target : task.poolId = row₀.id := by rw [h.task]; rfl
  -- the pool keeps its cluster and its bounds, the cluster what it has acknowledged
  have inherits : Inherits (row₀.tasked now₀ (nonce row₀.id) after₀) row := by
    obtain ⟨row', found', inherits⟩ := @Op.runAll_inherits env after _ s₀ _ h.tasked
    rw [target] at found
    cases Option.some.inj (found.symm.trans found')
    exact inherits
  have acknowledged : row.desiredVersion ≤ cluster.acknowledgedVersion := by
    obtain ⟨c, hc, -, more⟩ := (show Grows s₀ (Op.runAll env after s₀) from Op.runAll_grows after s₀).versions id
      cluster₀ (by rw [same.clusters]; exact found₀)
    cases Option.some.inj (member.symm.trans hc)
    have recorded : row.desiredVersion = row₀.desiredVersion := by rw [version, h.task]; rfl
    rw [recorded]
    exact h.current.trans more
  have wellFormed : (task.report reading idle).wellFormed = true := by
    unfold PoolObservation.wellFormed ObservationTask.report
    have bounded := seen.bounded
    cases hf : reading.failure with
    | none => simp [bounded, seen.ready hf]
    | some code =>
      have failed : code ≠ .ok := fun he => seen.failed (by rw [hf, he])
      simp [bounded, failed]
  have answering : Answering env (Op.runAll env after s₀) authAt now id token cluster row
      (task.report reading idle) := by
    refine ⟨wellFormed, member, auth, found, ⟨inherits.cluster.trans owner, generation, current, live, cluster,
      member, acknowledged⟩, fun reported expected => ?_, fun evidence he => ?_⟩
    · obtain ⟨uid, hu⟩ := Option.isSome_iff_exists.1 reported
      obtain ⟨old, ho⟩ := Option.isSome_iff_exists.1 expected
      rw [ho, hu, seen.same uid hu old (by rw [← identity]; exact ho)]
    · rw [inherits.inRange]
      have := seen.inRange evidence he
      rw [h.task] at this
      exact this
  exact answering.keeps_iff reachable

/-! ## A terminated gateway -/

def sampleEnv : Env := ⟨fun _ => true, fun t => t, fun _ => "", false⟩

def sampleSpec : Json :=
  .obj [("model", .obj [("id", .str "xscope-demo"), ("revision", .str "r")]),
    ("runtime", .obj [("protocol", .str "openai")]), ("serving", .obj [("endpointPickerService", .str "svc")])]

def sampleBinding : PoolBinding := ⟨2, false, "c", "d", "svc", "svc:80", false, "", 1⟩

/-- A cluster with one deployment, applied, and a pool bound to it. -/
def sampleBound : List Op :=
  [.registerCluster 0 "key" ⟨"c", "ns", 30⟩, .putDesired 0 "admin" "c" ⟨0, [⟨"d", some sampleSpec, none, none⟩]⟩,
    .pollDelivery 0 0 "lease" "c" "key", .reportDelivery 0 0 "c" "key" ⟨1, "", "lease", .applied, none⟩,
    .writeCatalog ⟨[⟨"xscope-demo", 1, true, none, .default⟩], by decide⟩ .empty,
      .bindPool 0 "managed" sampleBinding []]

def sampleTask (generation : Int) (idleAfter : Option Int) (nonce : String) (uid : Option String) : ObservationTask :=
  ⟨2, idleAfter, "managed", generation, nonce, 1, "d", "svc", uid, sampleSpec⟩

/-- The deployment is ready. -/
def sampleReading : Reading := ⟨some "uid", 1, none, none⟩

theorem sampleReading_of {generation : Int} {idleAfter : Option Int} {nonce : String} {uid : Option String}
    (same : uid.all (· = "uid")) :
    sampleReading.Of (sampleTask generation idleAfter nonce uid) := by
  refine ⟨nofun, fun _ => rfl, by decide, fun found hf expected he => ?_, fun _ h => by cases h⟩
  cases hf
  have he : uid = some expected := he
  subst he
  simpa using same

/-- The first report of the bound pool registers it and makes it ready. -/
theorem sample_kept : ∃ tasks s₀,
    observationTasks sampleEnv 0 0 (fun _ => "n1") "c" "key" (Op.runAll sampleEnv sampleBound State.empty) =
      .ok (tasks, s₀) ∧
      Keeps (observePool sampleEnv 1 1 "c" "key" ((sampleTask 1 none "n1" none).report sampleReading false)) s₀
        "managed"
        (some (1 + seconds 45)) := by
  obtain ⟨⟨tasks, s₀⟩, issued, asked, found, member⟩ : ∃ r,
      observationTasks sampleEnv 0 0 (fun _ => "n1") "c" "key" (Op.runAll sampleEnv sampleBound State.empty) = .ok r ∧
        sampleTask 1 none "n1" none ∈ r.1 ∧
        r.2.pools.get? "managed" = some ((boundPool 0 "managed" sampleBinding
          ⟨"managed", "xscope-demo", "r", "svc:80", false, ""⟩ sampleSpec).tasked 0 "n1" none) ∧
        r.2.clusters.get? "c" = some { registeredCluster 0 "key" ⟨"c", "ns", 30⟩ with
          desiredVersion := 1, acknowledgedVersion := 1, deliveryVersion := 1, heartbeatAt := some 0 } :=
    Tx.exists_ok (by decide +kernel)
  refine ⟨tasks, s₀, issued, ?_⟩
  refine (report_keeps_iff issued asked [] found member ⟨rfl, by decide, rfl⟩ rfl rfl rfl rfl (by decide)
    (sampleReading_of (by decide)) false).2 ⟨nofun, fun _ => by decide, nofun, fun h => absurd h (by decide)⟩

def sampleIdentity : GatewayIdentity := ⟨"c", "ns", "pod", "pod-uid"⟩

def sampleRuntime : GatewayRuntime := ⟨"containerd", "node", "node-uid"⟩

/-- The pool has been registered, and a gateway that was let in is proven terminated. -/
def sampleOrphaned : List Op :=
  sampleBound ++
    [.observationTasks 0 0 (fun _ => "n1") "c" "key",
      .observePool 0 0 "c" "key" ((sampleTask 1 none "n1" none).report sampleReading false),
      .trafficSnapshot 0 0 "s1" "t1" "gateway" (some sampleIdentity), .gatewayProofTasks 0 0 (fun _ => "p1") "c" "key",
      .gatewayProof 0 0 "c" "key" ⟨"gateway", "p1", .bound, some sampleRuntime⟩,
      .trafficSnapshot 0 0 "s2" "t2" "gateway" (some sampleIdentity), .gatewayProofTasks 0 0 (fun _ => "p2") "c" "key",
      .gatewayProof 0 5 "c" "key" ⟨"gateway", "p2", .terminated, some sampleRuntime⟩]

/-- The active pool is asked for idle evidence, and the report that brings it is refused. -/
theorem sample_refused : ∃ tasks s₀ row,
    observationTasks sampleEnv 6 6 (fun _ => "n2") "c" "key" (Op.runAll sampleEnv sampleOrphaned State.empty) =
      .ok (tasks, s₀) ∧
      sampleTask 2 (some 5) "n2" (some "uid") ∈ tasks ∧ sampleReading.Of (sampleTask 2 (some 5) "n2" (some "uid")) ∧
      s₀.pools.get? "managed" = some row ∧ row.state = .active ∧ row.generation = 2 ∧ row.observationNonce = some "n2" ∧
      row.deploymentUid = some "uid" ∧ row.desiredVersion = 1 ∧ row.observationUntil.any (fun t => decide (7 < t)) ∧
      observePool sampleEnv 7 7 "c" "key" ((sampleTask 2 (some 5) "n2" (some "uid")).report sampleReading true) s₀ =
        .error (.conflict "provider idle evidence requires a closed pool") := by
  obtain ⟨⟨tasks, s₀⟩, issued, asked, found, refused⟩ : ∃ r,
      observationTasks sampleEnv 6 6 (fun _ => "n2") "c" "key"
        (Op.runAll sampleEnv sampleOrphaned State.empty) = .ok r ∧
        sampleTask 2 (some 5) "n2" (some "uid") ∈ r.1 ∧
        ((r.2.pools.get? "managed").any fun row => row.state == .active && row.generation == 2 &&
          row.observationNonce == some "n2" &&
          row.deploymentUid == some "uid" && row.desiredVersion == 1 && row.observationUntil.any fun t =>
            decide (7 < t)) = true ∧
        (match observePool sampleEnv 7 7 "c" "key"
          ((sampleTask 2 (some 5) "n2" (some "uid")).report sampleReading true) r.2 with
          | .ok _ => false
          | .error e => e == .conflict "provider idle evidence requires a closed pool") = true :=
    Tx.exists_ok (by decide +kernel)
  obtain ⟨row, hrow, facts⟩ := (Option.any_eq_true _ _).1 found
  simp only [Bool.and_eq_true, beq_iff_eq, and_assoc] at facts
  obtain ⟨live, generation, nonce, uid, version, until_⟩ := facts
  refine ⟨tasks, s₀, row, issued, asked, sampleReading_of (by decide), hrow, live, generation, nonce, uid,
    version, until_, ?_⟩
  cases h : observePool sampleEnv 7 7 "c" "key"
    ((sampleTask 2 (some 5) "n2" (some "uid")).report sampleReading true) s₀ with
  | ok r => rw [h] at refused; cases refused
  | error e => rw [h] at refused; rw [eq_of_beq refused]

end Xscope.Fleet

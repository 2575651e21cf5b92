/-
Drains. A pool that is drained or retired was proven idle after it was last active: at one operation it
was draining, and after that operation no participant had a request in flight, and each was retired or
had acknowledged the generation. A revision that takes replicas from a pool, or deletes its deployment,
is created for such pools only.
-/
import Xscope.Fleet.Revisions

namespace Xscope.Fleet

variable {env : Env} {s s' m : State} {op : Op}

/-! ## The last move of an operation -/

/-- A pool before the last move of an operation: a pending pool may have been registered. -/
structure Groomed (row row' : ManagedPool) : Prop where
  cluster : row'.clusterId = row.clusterId
  deployment : row'.deployment = row.deployment
  spec : row'.expectedSpec = row.expectedSpec
  state : row'.state = row.state ∧ row'.generation = row.generation ∨ row.state = .pending ∧ row'.state = .active

/-- The state before the last move: nothing is revised yet, and the pools are groomed. -/
structure Prepared (s m : State) : Prop where
  revisions : m.revisions = s.revisions
  kept : ∀ id p, s.pools.get? id = some p → ∃ q, m.pools.get? id = some q ∧ Groomed p q
  origin : ∀ id q, m.pools.get? id = some q → ∃ p, s.pools.get? id = some p

theorem Groomed.refl (row : ManagedPool) : Groomed row row := ⟨rfl, rfl, rfl, .inl ⟨rfl, rfl⟩⟩

theorem Groomed.trans {a b c : ManagedPool} (h : Groomed a b) (k : Groomed b c) : Groomed a c := by
  refine ⟨k.cluster.trans h.cluster, k.deployment.trans h.deployment, k.spec.trans h.spec, ?_⟩
  rcases h.state with ⟨state, generation⟩ | ⟨pending, active⟩
  · rcases k.state with ⟨state', generation'⟩ | ⟨pending', active'⟩
    · exact .inl ⟨state'.trans state, generation'.trans generation⟩
    · exact .inr ⟨state.symm.trans pending', active'⟩
  · rcases k.state with ⟨state', -⟩ | ⟨pending', -⟩
    · exact .inr ⟨pending, state'.trans active⟩
    · rw [active] at pending'
      cases pending'

/-- A pool that is not active in the end had its state and its generation before. -/
theorem Groomed.before {row row' : ManagedPool} (h : Groomed row row') (inactive : row'.state ≠ .active) :
    row'.state = row.state ∧ row'.generation = row.generation := by
  rcases h.state with same | ⟨-, active⟩
  · exact same
  · exact absurd active inactive

theorem Prepared.refl (s : State) : Prepared s s := ⟨rfl, fun _ p h => ⟨p, h, .refl p⟩, fun _ q h => ⟨q, h⟩⟩

theorem Prepared.trans (h : Prepared s s') (k : Prepared s' m) : Prepared s m := by
  refine ⟨k.revisions.trans h.revisions, fun id p hp => ?_, fun id q hq => ?_⟩
  · obtain ⟨q, hq, groomed⟩ := h.kept id p hp
    obtain ⟨r, hr, groomed'⟩ := k.kept id q hq
    exact ⟨r, hr, groomed.trans groomed'⟩
  · obtain ⟨p, hp⟩ := k.origin id q hq
    exact h.origin id p hp

theorem Prepared.groomed (h : Prepared s m) {id : String} {q : ManagedPool} (hq : m.pools.get? id = some q) :
    ∃ p, s.pools.get? id = some p ∧ Groomed p q := by
  obtain ⟨p, hp⟩ := h.origin id q hq
  obtain ⟨q', hq', groomed⟩ := h.kept id p hp
  cases Option.some.inj (hq.symm.trans hq')
  exact ⟨p, hp, groomed⟩

/-- The operations that write no revision, and pools only to issue tasks. -/
def Op.grooms : Op → Bool
  | .putDesired .. | .bindPool .. | .poolTransition .. | .observePool .. => false
  | _ => true

theorem Move.prepared (h : Move env op s s') (grooms : op.grooms = true) : Prepared s s' := by
  refine ⟨?_, fun id p hp => ?_, fun id q hq => ?_⟩
  · cases h with
    | desired => cases grooms
    | rescaled => cases grooms
    | snapshot h => rw [h.tables]
    | acked h => rw [h.tables]
    | _ => rfl
  · obtain ⟨q, hq, step⟩ := h.pools.kept id p hp
    refine ⟨q, hq, ?_⟩
    rcases step with rfl | step
    · exact .refl q
    · cases step with
      | tasked => exact ⟨rfl, rfl, rfl, .inl ⟨rfl, rfl⟩⟩
      | _ => cases grooms
  · cases hp : s.pools.get? id with
    | some p => exact ⟨p, rfl⟩
    | none =>
      cases h.pools.fresh id q hq hp with
      | bound => cases grooms

theorem Moves.prepared (h : Moves env op s s') (grooms : op.grooms = true) : Prepared s s' := by
  induction h with
  | refl => exact .refl s
  | tail _ move ih => exact ih.trans (move.prepared grooms)

/-- An observation keeps the pool but may register it. -/
theorem observed_groomed (row : ManagedPool) (now : Int) (report : PoolObservation) :
    Groomed row (row.observed now (row.nextGeneration report) report) := by
  refine ⟨rfl, rfl, rfl, ?_⟩
  by_cases registers : row.registers report = true
  · right
    refine ⟨registers_pending registers, ?_⟩
    rw [observed_state, if_pos registers]
  · left
    refine ⟨by rw [observed_state, if_neg registers], ?_⟩
    show row.nextGeneration report = row.generation
    unfold ManagedPool.nextGeneration
    rw [if_neg registers]

theorem observe_prepared {authAt now : Int} {id token : String} {report : PoolObservation} {cluster : MemberCluster}
    {row : ManagedPool} (ad : Admitted env s authAt now id token report cluster row) :
    Prepared s ((s.observe now report row).confirm report row.id) := by
  refine ⟨?_, fun id p hp => ?_, fun id q hq => ?_⟩
  · unfold State.confirm
    split <;> rfl
  · rw [s.get?_confirm ad.stored]
    split
    · rename_i same
      rw [← same, ad.stored] at hp
      cases hp
      exact ⟨_, rfl, observed_groomed row now report⟩
    · exact ⟨p, hp, .refl p⟩
  · rw [s.get?_confirm ad.stored] at hq
    split at hq
    · rename_i same
      exact ⟨row, same ▸ ad.stored⟩
    · exact ⟨q, hq⟩

theorem last_commit {α : Type} {x : FleetTx α}
    (h : ∀ a t, x s = .ok (a, t) → ∃ m, Prepared s m ∧ Moves env op s m ∧ Relation.ReflGen (Move env op) m t) :
    ∃ m, Prepared s m ∧ Moves env op s m ∧ Relation.ReflGen (Move env op) m (Tx.commit x s).2 := by
  rcases Tx.commit_cases x s with ⟨a, t, ran, committed⟩ | ⟨e, -, failed⟩
  · rw [committed]
    exact h a t ran
  · rw [failed]
    exact ⟨s, .refl s, .refl, .refl⟩

/-- Every operation prepares, and then makes at most one move. -/
theorem Op.run_last (env : Env) (op : Op) (s : State) :
    ∃ m, Prepared s m ∧ Moves env op s m ∧ Relation.ReflGen (Move env op) m (op.run env s) := by
  cases grooms : op.grooms with
  | true => exact ⟨op.run env s, (op.run_moves s).prepared grooms, op.run_moves s, .refl⟩
  | false =>
    cases op with
    | putDesired => exact last_commit fun _ _ h => ⟨s, .refl s, .refl, .single (putClusterDesired_ok h)⟩
    | bindPool => exact last_commit fun _ _ h => ⟨s, .refl s, .refl, .single (bindPool_ok h)⟩
    | poolTransition => exact last_commit fun _ _ h => ⟨s, .refl s, .refl, .single (poolTransition_ok h)⟩
    | observePool =>
      refine last_commit fun _ _ h => ?_
      obtain ⟨_, row, ad, moves, last, -⟩ := observePool_parts h
      exact ⟨_, observe_prepared ad, moves, last⟩
    | _ => cases grooms

/-! ## Proven idle -/

/-- The pool has been drained, and not been opened since. -/
def ManagedPool.Drained (row : ManagedPool) : Prop := row.state = .drained ∨ row.state = .retired

/-- No participant of the pool has a request in flight, and each is retired or has acknowledged the generation. -/
def State.Idle (s : State) (id : String) (generation : Int) : Prop :=
  ∀ v ∈ s.viewsOf id, v.activeRequests = 0 ∧ (v.retired = true ∨ generation ≤ v.acknowledgedGeneration)

theorem State.Quiet.idle {row : ManagedPool} (h : s.Quiet row) : s.Idle row.id row.generation := by
  intro v hv
  have unblocked := h v hv
  unfold GatewayPoolView.blocks at unblocked
  simp only [Bool.or_eq_false_iff, bne_eq_false_iff_eq, Bool.and_eq_false_iff, Bool.not_eq_false',
    decide_eq_false_iff_not, not_lt] at unblocked
  exact unblocked

theorem ManagedPool.Drained.inactive {row : ManagedPool} (h : row.Drained) : row.state ≠ .active := by
  rcases h with h | h
  · rw [h]; decide
  · rw [h]; decide

/-- A pool is drained by a proof that it is idle. -/
theorem PoolStep.drained {row row' : ManagedPool} (h : PoolStep s op row row') (drained : row'.Drained) :
    row.Drained ∨ row.state = .draining ∧ s.Quiet row := by
  cases h with
  | closing => rcases drained with h | h <;> cases h
  | finished closed free quiet => exact .inr ⟨closed, quiet⟩
  | activated => rcases drained with h | h <;> cases h
  | tasked => exact .inl drained
  | @observed _ _ _ _ report =>
    left
    unfold ManagedPool.Drained at drained
    rw [observed_state] at drained
    split at drained
    · rcases drained with h | h <;> cases h
    · exact drained
  | completed => exact .inl drained
  | reopened => rcases drained with h | h <;> cases h
  | shrinking => rcases drained with h | h <;> cases h
  | grown => exact .inl drained
  | shrunk closed _ _ quiet => exact .inr ⟨closed, quiet⟩
  | respecced closed => exact .inl (.inl closed)

theorem drained_put {row row' : ManagedPool} (found : s.pools.get? row.id = some row)
    (step : PoolStep s op row row') {id : String} {p' : ManagedPool} (h : (s.pools.put row').get? id = some p')
    (drained : p'.Drained) :
    ∃ p, s.pools.get? id = some p ∧ (p.Drained ∨ p.state = .draining ∧ s.Quiet p) := by
  rw [Table.get?_put_at (r := row') step.id_eq found] at h
  split at h
  · rename_i same
    cases h
    exact ⟨row, same ▸ found, step.drained drained⟩
  · exact ⟨p', h, .inl drained⟩

theorem Move.drained (h : Move env op s s') {id : String} {p' : ManagedPool} (hp : s'.pools.get? id = some p')
    (drained : p'.Drained) :
    ∃ p, s.pools.get? id = some p ∧ (p.Drained ∨ p.state = .draining ∧ s.Quiet p ∧ s'.views = s.views) := by
  have moved := h.pools
  cases h with
  | pool found step =>
    obtain ⟨p, hp, before⟩ := drained_put found step hp drained
    exact ⟨p, hp, before.imp_right fun ⟨closed, quiet⟩ => ⟨closed, quiet, rfl⟩⟩
  | rescaled found step =>
    obtain ⟨p, hp, before⟩ := drained_put found step hp drained
    exact ⟨p, hp, before.imp_right fun ⟨closed, quiet⟩ => ⟨closed, quiet, rfl⟩⟩
  | desired =>
    cases old : s.pools.get? id with
    | none => cases moved.fresh id p' hp old
    | some p =>
      obtain ⟨p'', hp'', step⟩ := moved.kept id p old
      cases Option.some.inj (hp.symm.trans hp'')
      rcases step with rfl | step
      · exact ⟨p', rfl, .inl drained⟩
      · exact ⟨p, rfl, (step.drained drained).imp_right fun ⟨closed, quiet⟩ => ⟨closed, quiet, rfl⟩⟩
  | bound _ _ _ _ _ _ _ _ _ inserted =>
    rw [Table.get?_insert? inserted] at hp
    split at hp
    · cases hp
      rcases drained with h | h <;> cases h
    · exact ⟨p', hp, .inl drained⟩
  | snapshot h => rw [h.tables] at hp; exact ⟨p', hp, .inl drained⟩
  | acked h => rw [h.tables] at hp; exact ⟨p', hp, .inl drained⟩
  | _ => exact ⟨p', hp, .inl drained⟩

/-- The operation finds the pool draining, and leaves it proven idle at the generation it was draining at. -/
def Confirms (env : Env) (op : Op) (s : State) (row : ManagedPool) : Prop :=
  row.state = .draining ∧ (op.run env s).Idle row.id row.generation

/-- What the last move found of a pool holds of the pool before the operation. -/
theorem Groomed.confirms {p q : ManagedPool} (h : Groomed p q) (same : q.id = p.id)
    (found : q.Drained ∨ q.state = .draining ∧ m.Quiet q ∧ (op.run env s).views = m.views) :
    p.Drained ∨ Confirms env op s p := by
  rcases found with drained | ⟨closed, quiet, views⟩
  · left
    have state := (h.before drained.inactive).1
    unfold ManagedPool.Drained at drained ⊢
    rw [← state]
    exact drained
  · right
    obtain ⟨state, generation⟩ := h.before (by rw [closed]; decide)
    refine ⟨state.symm.trans closed, fun v hv => ?_⟩
    unfold State.viewsOf at hv
    rw [views, ← same] at hv
    rw [← generation]
    exact quiet.idle v hv

theorem Op.run_drained (op : Op) {id : String} {p' : ManagedPool} (h : (op.run env s).pools.get? id = some p')
    (drained : p'.Drained) :
    ∃ p, s.pools.get? id = some p ∧ (p.Drained ∨ Confirms env op s p) := by
  obtain ⟨m, prepared, -, last⟩ := op.run_last env s
  have found : ∃ q, m.pools.get? id = some q ∧
      (q.Drained ∨ q.state = .draining ∧ m.Quiet q ∧ (op.run env s).views = m.views) := by
    cases last with
    | refl => exact ⟨p', h, .inl drained⟩
    | single move => exact move.drained h drained
  obtain ⟨q, hq, found⟩ := found
  obtain ⟨p, hp, groomed⟩ := prepared.groomed hq
  have same : q.id = p.id := (Table.get?_key hq).trans (Table.get?_key hp).symm
  exact ⟨p, hp, groomed.confirms same found⟩

/-! ## Reductions -/

/-- The item asks for fewer replicas than the pool has recorded. -/
def ManagedPool.Lowered (row : ManagedPool) (item : DesiredDeployment) : Prop :=
  ∃ spec n recorded, item.spec = some spec ∧ replicas spec = some n ∧
    replicas row.expectedSpec = some recorded ∧ n < recorded

/-- The item deletes the deployment of the pool, or asks for fewer replicas of it. -/
def ManagedPool.Reduced (row : ManagedPool) (item : DesiredDeployment) : Prop := item.spec = none ∨ row.Lowered item

/-- What a pool has recorded reduces it only when it is retired. -/
theorem ManagedPool.Asks.retired {row : ManagedPool} {item : DesiredDeployment} (asks : row.Asks item)
    (reduced : row.Reduced item) :
    row.state = .retired := by
  by_contra live
  unfold ManagedPool.Asks at asks
  rw [if_neg live] at asks
  rcases reduced with deleted | ⟨spec, n, recorded, hs, hn, hm, lower⟩
  · rw [asks] at deleted
    cases deleted
  · cases Option.some.inj (asks.symm.trans hs)
    cases Option.some.inj (hn.symm.trans hm)
    omega

theorem currentReplicas_eq {spec : Json} {n : Int} (h : currentReplicas spec = some n) : replicas spec = some n :=
  (Option.filter_eq_some_iff.1 h).1

theorem replicas_set {spec spec' : Json} {target n : Int} (h : spec.set "replicas" (.int target) = some spec')
    (hn : replicas spec' = some n) : n = target := by
  unfold replicas at hn
  rw [Json.get_set h, if_pos rfl] at hn
  obtain ⟨same, -⟩ := Json.asI64_some.1 hn
  cases same
  rfl

/-- A new number of replicas for a new version is an increase of an active pool, or a decrease of a draining one
that is idle. -/
theorem PoolStep.of_rescaled {row : ManagedPool} {now version generation current target : Int} {spec : Json} {up : Bool}
    (h : PoolStep s op row (row.rescaled now version generation current target spec up))
    (newer : row.desiredVersion < version) :
    up = true ∧ row.state = .active ∧ currentReplicas row.expectedSpec = some current ∧ current < target ∨
      up = false ∧ row.state = .draining ∧ s.Quiet row := by
  generalize written : row.rescaled now version generation current target spec up = row' at h
  have version' : version = row'.desiredVersion := congrArg ManagedPool.desiredVersion written
  have operation : some ⟨.applying, target, current, row.desiredVersion, up⟩ = row'.scaleOperation :=
    congrArg ManagedPool.scaleOperation written
  -- the other steps keep the version, or leave no operation
  cases h with
  | grown live free recorded more =>
    cases operation
    exact .inl ⟨rfl, live, recorded, more⟩
  | shrunk closed _ _ quiet =>
    cases operation
    exact .inr ⟨rfl, closed, quiet⟩
  | respecced _ free =>
    rw [show (row.respecced _ _ _ _).scaleOperation = row.scaleOperation from rfl, free] at operation
    cases operation
  | _ =>
    have kept : version = row.desiredVersion := version'
    omega

/-- A revision that reduces a pool is created for a drained pool, or with the proof that a draining one is idle. -/
theorem Move.reduces (h : Move env op s s') (o : Orderly s) {r : ClusterRevision} (hr : r ∈ s'.revisions)
    (new : r ∉ s.revisions) {p : ManagedPool} (hp : p ∈ s.pools) (own : p.clusterId = r.clusterId)
    {item : DesiredDeployment} (hi : itemOf p.deployment r.payload = some item) (reduced : p.Reduced item) :
    (p.Drained ∨ p.state = .draining ∧ s.Quiet p ∧ s'.views = s.views) ∧
      ∀ p', s'.pools.get? p.id = some p' → p'.state ≠ .active := by
  have moved := h.pools
  have found : s.pools.get? p.id = some p := Table.get?_of_mem hp
  cases h with
  | @desired _ now actor id request row deployments pools revisions member unrevoked wellFormed guarded inserted =>
    rcases (Table.mem_insert? inserted).1 hr with rfl | old
    swap
    · exact absurd old new
    obtain ⟨p', hp', step⟩ := moved.kept p.id p found
    have same : p'.id = p.id := Table.get?_key hp'
    have ordered : Ordered (row.desiredVersion + 1) p p' (itemOf p.deployment request.deployments)
        (itemOf p.deployment deployments) := by
      rcases (o.ordered guarded).1 p' (Table.get?_mem hp') with ⟨old, other⟩ | ⟨q, hq, -, hid, ordered⟩
      · rw [Table.eq_of_key old hp same] at other
        exact absurd own other
      · obtain rfl : q = p := Table.eq_of_key hq hp (hid.symm.trans same)
        exact ordered
    have asks : p'.Asks item := ordered.asks hi
    -- a pool that is as before asks for what it has recorded
    have before (kept : p' = p) : p.Drained ∧ p'.state ≠ .active := by
      rw [kept] at asks ⊢
      have drained : p.Drained := .inr (asks.retired reduced)
      exact ⟨drained, drained.inactive⟩
    have outcome : p.Drained ∧ p'.state ≠ .active := by
      rcases step with kept | step
      · exact before kept
      · cases step with
        | respecced closed =>
          refine ⟨.inl closed, ?_⟩
          unfold ManagedPool.respecced
          dsimp only
          split
          · rw [closed]; decide
          · decide
    refine ⟨.inl outcome.1, fun x hx => ?_⟩
    cases Option.some.inj (hx.symm.trans hp')
    exact outcome.2
  | @rescaled _ authAt now version generation current target id token uid up report cluster row previous spec
    revisions at_ step assigned
      owner member settled identified stored next inserted =>
    rcases (Table.mem_insert? inserted).1 hr with rfl | old
    swap
    · exact absurd old new
    have lookup (k : String) : (s.pools.put (row.rescaled now version generation current target spec up)).get? k =
        if row.id = k then some (row.rescaled now version generation current target spec up) else s.pools.get? k :=
      Table.get?_put_at (show key (row.rescaled now version generation current target spec up) = row.id from rfl) at_ k
    have named : itemOf p.deployment (upsertItem ⟨row.deployment, some spec, none, some uid⟩ previous.payload) =
      some item := hi
    rw [itemOf_upsertItem] at named
    by_cases own' : row.deployment = p.deployment
    · rw [if_pos own'] at named
      cases named
      obtain rfl : row = p := o.distinct row (Table.get?_mem at_) p hp (owner.trans own.symm) own'
      obtain ⟨c, hc, le⟩ := (o.agrees row hp).cluster
      rw [owner, member] at hc
      cases hc
      rcases step.of_rescaled (by omega) with ⟨rfl, live, recorded, more⟩ | ⟨rfl, closed, quiet⟩
      · rcases reduced with deleted | ⟨spec', n, before, hs, hn, hm, lower⟩
        · cases deleted
        · cases hs
          have := replicas_set assigned hn
          cases Option.some.inj ((currentReplicas_eq recorded).symm.trans hm)
          omega
      · refine ⟨.inr ⟨closed, quiet, rfl⟩, fun x hx => ?_⟩
        rw [show (s.pools.put _).get? row.id = _ from lookup row.id, if_pos rfl] at hx
        cases hx
        rintro ⟨⟩
    · -- the item of another pool is that of the revision before
      rw [if_neg own'] at named
      obtain ⟨c, hc, le⟩ := (o.agrees p hp).cluster
      have hid : p.clusterId = id := own
      rw [hid, member] at hc
      cases hc
      have asks : p.Asks item := (o.agrees p hp).asks _ previous item le (hid ▸ stored) named
      have drained : p.Drained := .inr (asks.retired reduced)
      refine ⟨.inl drained, fun x hx => ?_⟩
      have other : ¬row.id = p.id := fun same => own' (by rw [Table.eq_of_key (Table.get?_mem at_) hp same])
      rw [show (s.pools.put _).get? p.id = _ from lookup p.id, if_neg other, found] at hx
      cases hx
      exact drained.inactive
  | snapshot h => rw [h.tables] at hr; exact absurd hr new
  | acked h => rw [h.tables] at hr; exact absurd hr new
  | _ => exact absurd hr new

theorem Op.run_reduces (op : Op) (h : Reachable env s) {r : ClusterRevision} (hr : r ∈ (op.run env s).revisions)
    (new : r ∉ s.revisions) {p : ManagedPool} (hp : p ∈ s.pools) (own : p.clusterId = r.clusterId)
    {item : DesiredDeployment} (hi : itemOf p.deployment r.payload = some item) (reduced : p.Reduced item) :
    (p.Drained ∨ Confirms env op s p) ∧ ∀ p', (op.run env s).pools.get? p.id = some p' → p'.state ≠ .active := by
  obtain ⟨m, prepared, moves, last⟩ := op.run_last env s
  have invariant : Delivered env m ∧ (∀ p ∈ m.pools, Coupled p) ∧ Orderly m := by
    refine moves.keeps (P := fun s => Delivered env s ∧ (∀ p ∈ s.pools, Coupled p) ∧ Orderly s) ?_
      ⟨h.delivered, h.coupled, h.orderly⟩
    rintro s s' move ⟨d, c, o⟩
    exact ⟨d.step move, move.coupled c, move.orderly d c o⟩
  have unrevised : r ∉ m.revisions := by rw [prepared.revisions]; exact new
  obtain ⟨q, hq, groomed⟩ := prepared.kept p.id p (Table.get?_of_mem hp)
  have same : q.id = p.id := Table.get?_key hq
  have reduced' : q.Reduced item := by
    refine reduced.imp_right ?_
    rintro ⟨spec, n, recorded, hs, hn, hm, lower⟩
    exact ⟨spec, n, recorded, hs, hn, by rw [groomed.spec]; exact hm, lower⟩
  cases last with
  | refl => exact absurd hr unrevised
  | single move =>
    obtain ⟨found, after⟩ := move.reduces invariant.2.2 hr unrevised (Table.get?_mem hq) (groomed.cluster.trans own)
      (by rw [groomed.deployment]; exact hi) reduced'
    rw [same] at after
    exact ⟨groomed.confirms same found, after⟩

/-! ## Names in a payload -/

/-- The items of every revision have different names. -/
def State.Tidy (s : State) : Prop := ∀ r ∈ s.revisions, (r.payload.map (·.name)).Nodup

theorem replaceItem_names (item : DesiredDeployment) (deployments : List DesiredDeployment) :
    (replaceItem item deployments).map (·.name) = deployments.map (·.name) := by
  induction deployments with
  | nil => rfl
  | cons d rest ih =>
    unfold replaceItem
    split
    · rename_i same
      simp [same]
    · simp [ih]

theorem upsertItem_nodup (item : DesiredDeployment) {deployments : List DesiredDeployment}
    (h : (deployments.map (·.name)).Nodup) :
    ((upsertItem item deployments).map (·.name)).Nodup := by
  unfold upsertItem
  split
  · rw [replaceItem_names]
    exact h
  · rename_i absent
    rw [List.map_append, List.nodup_append]
    refine ⟨h, List.nodup_singleton _, ?_⟩
    rintro x hx y hy rfl
    obtain ⟨d, hd, rfl⟩ := List.mem_map.1 hx
    refine absent (List.any_eq_true.2 ⟨d, hd, ?_⟩)
    simpa using hy

theorem Guarded.names {now version : Int} {rows : List ManagedPool} {d d' : List DesiredDeployment}
    {pools pools' : Table ManagedPool} (g : Guarded now version rows d pools d' pools') :
    d'.map (·.name) = d.map (·.name) := by
  induction g with
  | done => rfl
  | absent _ _ ih => exact ih
  | deleted _ _ _ _ _ ih => rw [ih, replaceItem_names]
  | kept _ _ _ _ ih => rw [ih, replaceItem_names]
  | changed _ _ _ _ _ _ _ ih => rw [ih, replaceItem_names]

theorem Move.tidy (h : Move env op s s') (t : s.Tidy) : s'.Tidy := by
  intro r hr
  cases h with
  | desired _ _ wellFormed guarded inserted =>
    rcases (Table.mem_insert? inserted).1 hr with rfl | old
    · show (List.map _ _).Nodup
      rw [guarded.names]
      unfold DesiredState.wellFormed at wellFormed
      rw [Bool.and_eq_true, decide_eq_true_eq] at wellFormed
      exact wellFormed.2
    · exact t r old
  | rescaled _ _ _ _ _ _ _ stored _ inserted =>
    rcases (Table.mem_insert? inserted).1 hr with rfl | old
    · exact upsertItem_nodup _ (t _ (Table.get?_mem stored))
    · exact t r old
  | snapshot h => rw [h.tables] at hr; exact t r hr
  | acked h => rw [h.tables] at hr; exact t r hr
  | _ => exact t r hr

theorem Reachable.tidy (h : Reachable env s) : s.Tidy :=
  h.invariant (fun _ hr => absurd hr (Table.not_mem_empty _)) fun move t => move.tidy t

/-- Where names differ, each item is the one of its name. -/
theorem itemOf_mem {payload : List DesiredDeployment} (distinct : (payload.map (·.name)).Nodup)
    {item : DesiredDeployment} (h : item ∈ payload) : itemOf item.name payload = some item := by
  unfold itemOf
  induction payload with
  | nil => cases h
  | cons d rest ih =>
    obtain ⟨fresh, distinct⟩ := List.nodup_cons.1 distinct
    rcases List.mem_cons.1 h with rfl | h
    · exact List.find?_cons_of_pos (beq_self_eq_true _)
    · have named : item.name ∈ rest.map (·.name) := List.mem_map_of_mem h
      have other : (d.name == item.name) = false := beq_false_of_ne fun same =>
        fresh (show d.name ∈ _ from same ▸ named)
      rw [List.find?_cons, other]
      exact ih distinct h

/-! ## Runs -/

/-- In the run there was an operation after which the pool was proven idle at the generation it was draining at,
and it has not been active from then on. -/
def DrainConfirmed (env : Env) (ops : List Op) (id : String) : Prop :=
  ∃ before op after row, ops = before ++ op :: after ∧ (Op.runAll env before State.empty).pools.get? id = some row ∧
    Confirms env op (Op.runAll env before State.empty) row ∧
    ∀ n, ∀ p, (Op.runAll env (before ++ (op :: after).take n) State.empty).pools.get? id = some p → p.state ≠ .active

theorem Op.runAll_concat (ops : List Op) (op : Op) (s : State) :
    Op.runAll env (ops ++ [op]) s = op.run env (Op.runAll env ops s) := by
  rw [Op.runAll_append]
  rfl

/-- A confirmed drain stays confirmed while the pool is not opened. -/
theorem DrainConfirmed.concat {ops : List Op} {id : String} (h : DrainConfirmed env ops id)
    (inactive : ∀ p, (Op.runAll env (ops ++ [op]) State.empty).pools.get? id = some p → p.state ≠ .active) :
    DrainConfirmed env (ops ++ [op]) id := by
  obtain ⟨before, first, after, row, rfl, found, confirms, since⟩ := h
  refine ⟨before, first, after ++ [op], row, by simp, found, confirms, fun n p hp => ?_⟩
  by_cases within : n ≤ (first :: after).length
  · refine since n p ?_
    rw [← hp, ← List.cons_append, List.take_append_of_le_length within]
  · refine inactive p ?_
    rw [← hp, ← List.cons_append, List.take_of_length_le (by simp at within ⊢; omega), List.append_assoc]

theorem DrainConfirmed.start {ops : List Op} {row : ManagedPool}
    (found : (Op.runAll env ops State.empty).pools.get? row.id = some row)
    (confirms : Confirms env op (Op.runAll env ops State.empty) row)
    (inactive : ∀ p, (Op.runAll env (ops ++ [op]) State.empty).pools.get? row.id = some p → p.state ≠ .active) :
    DrainConfirmed env (ops ++ [op]) row.id := by
  refine ⟨ops, op, [], row, rfl, found, confirms, fun n p hp => ?_⟩
  cases n with
  | zero =>
    rw [List.take_zero, List.append_nil, found] at hp
    cases hp
    rw [confirms.1]
    decide
  | succ n =>
    refine inactive p ?_
    rw [← hp, List.take_succ_cons, List.take_nil]

/-- In every run the drain of a drained or retired pool has been confirmed since it was last active. -/
theorem Op.runAll_drained (env : Env) (ops : List Op) :
    ∀ p ∈ (Op.runAll env ops State.empty).pools, p.Drained → DrainConfirmed env ops p.id := by
  induction ops using List.reverseRecOn with
  | nil => exact fun p hp => absurd hp (Table.not_mem_empty p)
  | append_singleton ops op ih =>
    intro p' hp' drained
    have found : (Op.runAll env (ops ++ [op]) State.empty).pools.get? p'.id = some p' := Table.get?_of_mem hp'
    have inactive : ∀ x, (Op.runAll env (ops ++ [op]) State.empty).pools.get? p'.id = some x → x.state ≠ .active := by
      intro x hx
      cases Option.some.inj (found.symm.trans hx)
      exact drained.inactive
    rw [Op.runAll_concat] at found
    obtain ⟨p, hp, before⟩ := op.run_drained found drained
    have same : p.id = p'.id := Table.get?_key hp
    rw [← same] at hp inactive ⊢
    rcases before with drained | confirms
    · exact (ih p (Table.get?_mem hp) drained).concat inactive
    · exact .start hp confirms inactive

/-- In every run, whatever the next operation is: a revision it creates that lowers the replicas of a pool's
deployment below what the pool has recorded, or deletes the deployment, is created for a pool that accepts no
traffic and whose drain has been confirmed since it was last active. -/
theorem Op.runAll_reduces (env : Env) (ops : List Op) (op : Op) :
    let s := Op.runAll env ops State.empty
    ∀ r ∈ (op.run env s).revisions, r ∉ s.revisions → ∀ p ∈ s.pools, p.clusterId = r.clusterId →
      ∀ item ∈ r.payload, item.name = p.deployment → p.Reduced item →
        (∀ now ready clusters, p.accepting now ready clusters = false) ∧ DrainConfirmed env (ops ++ [op]) p.id := by
  intro s r hr new p hp own item hi named reduced
  have reachable : Reachable env s := ⟨ops, rfl⟩
  have distinct := (reachable.run env op).tidy r hr
  obtain ⟨found, after⟩ := op.run_reduces reachable hr new hp own (named ▸ itemOf_mem distinct hi) reduced
  rw [← Op.runAll_concat] at after
  constructor
  · intro now ready clusters
    have inactive : p.state ≠ .active := by
      rcases found with drained | ⟨closed, -⟩
      · exact drained.inactive
      · rw [closed]; decide
    unfold ManagedPool.accepting
    rw [beq_false_of_ne inactive]
    rfl
  · rcases found with drained | confirms
    · exact (Op.runAll_drained env ops p hp drained).concat after
    · exact .start (Table.get?_of_mem hp) confirms after

/-- The decrease of the sample run is for a pool that was drained. -/
theorem sample_reduced : DrainConfirmed droppedEnv (droppedRun.take 11) "managed" := by
  let s := Op.runAll droppedEnv (droppedRun.take 10) State.empty
  let op : Op := .putDesired 0 "admin" "c" ⟨1, [⟨"d", some (droppedSpec 1), none, none⟩]⟩
  let item : DesiredDeployment := ⟨"d", some (droppedSpec 1), none, some "uid"⟩
  have facts : ((op.run droppedEnv s).revisions.get? ("c", 2)).any
    (fun r => decide (r.clusterId = "c" ∧ item ∈ r.payload)) = true ∧
      s.revisions.get? ("c", 2) = none ∧
      (s.pools.get? "managed").any (fun p => decide (p.clusterId = "c" ∧ p.deployment = "d" ∧
        p.expectedSpec = droppedSpec 2)) = true := by
    decide +kernel
  obtain ⟨revised, missing, pool⟩ := facts
  obtain ⟨r, hr, revision⟩ := (Option.any_eq_true _ _).1 revised
  obtain ⟨p, hp, bound⟩ := (Option.any_eq_true _ _).1 pool
  obtain ⟨cluster, hi⟩ := of_decide_eq_true revision
  obtain ⟨own, deployment, recorded⟩ := of_decide_eq_true bound
  have new : r ∉ s.revisions := by
    intro old
    rw [← Table.get?_key hr, Table.get?_of_mem old] at missing
    cases missing
  have lowered : p.Lowered item := ⟨droppedSpec 1, 1, 2, rfl, by decide, by rw [recorded]; decide, by decide⟩
  have same : p.id = "managed" := Table.get?_key hp
  rw [← same]
  exact (Op.runAll_reduces droppedEnv (droppedRun.take 10) op r (Table.get?_mem hr) new p (Table.get?_mem hp)
    (own.trans cluster.symm) item
    hi deployment.symm (.inr lowered)).2

end Xscope.Fleet

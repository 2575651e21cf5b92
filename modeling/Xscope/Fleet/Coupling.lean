/-
The state of a pool and its scaling operation. They are written by bindings, manual transitions,
observations with their scaling step, and the guard on desired states; every writer keeps them
coupled, so that the scaling step never meets an operation that does not fit the state.
-/
import Xscope.Fleet.Rows

namespace Xscope.Fleet

variable {env : Env} {s s' : State} {op : Op}

/-! ## The coupling -/

/-- The operation of a pool fits its state: a draining decrease on a draining pool that still has
the replicas it had, an increase that is applied on an active pool, or a decrease that is applied on
a drained one. -/
inductive Coupled (row : ManagedPool) : Prop
  | free (none : row.scaleOperation = none)
  | draining {op : Operation} (operation : row.scaleOperation = some op) (phase : op.phase = .draining)
      (down : op.up = false)
      (closed : row.state = .draining) (recorded : currentReplicas row.expectedSpec = some op.fromReplicas)
      (fewer : op.target < op.fromReplicas)
  | increasing {op : Operation} (operation : row.scaleOperation = some op) (phase : op.phase = .applying)
      (up : op.up = true)
      (live : row.state = .active) (more : op.fromReplicas < op.target)
  | decreasing {op : Operation} (operation : row.scaleOperation = some op) (phase : op.phase = .applying)
      (down : op.up = false)
      (closed : row.state = .drained) (fewer : op.target < op.fromReplicas)

/-- The coupling reads the operation, the state and the spec. -/
theorem Coupled.congr {row row' : ManagedPool} (c : Coupled row) (operation : row'.scaleOperation = row.scaleOperation)
    (state : row'.state = row.state) (spec : row'.expectedSpec = row.expectedSpec) : Coupled row' := by
  cases c with
  | free h => exact .free (operation.trans h)
  | draining h phase down closed recorded fewer =>
    exact .draining (operation.trans h) phase down (state.trans closed) (by rw [spec]; exact recorded) fewer
  | increasing h phase up live more => exact .increasing (operation.trans h) phase up (state.trans live) more
  | decreasing h phase down closed fewer => exact .decreasing (operation.trans h) phase down (state.trans closed) fewer

/-- A pool with an operation is active, draining or drained. -/
theorem Coupled.placed {row : ManagedPool} (c : Coupled row) {op : Operation} (h : row.scaleOperation = some op) :
    row.state = .active ∨ row.state = .draining ∨ row.state = .drained := by
  cases c with
  | free none => rw [none] at h; cases h
  | draining _ _ _ closed => exact .inr (.inl closed)
  | increasing _ _ _ live => exact .inl live
  | decreasing _ _ _ closed => exact .inr (.inr closed)

/-- An operation that is not being applied is draining, and so is its pool. -/
theorem Coupled.drains {row : ManagedPool} (c : Coupled row) {op : Operation} (h : row.scaleOperation = some op)
    (waiting : row.applying = none) : row.state = .draining ∧ op.phase = .draining := by
  have waits : op.phase ≠ .applying := by
    intro phase
    unfold ManagedPool.applying at waiting
    rw [h] at waiting
    simp [Option.filter, phase] at waiting
  cases c with
  | free none => rw [none] at h; cases h
  | draining operation phase _ closed =>
    cases Option.some.inj (operation.symm.trans h)
    exact ⟨closed, phase⟩
  | increasing operation phase =>
    cases Option.some.inj (operation.symm.trans h)
    exact absurd phase waits
  | decreasing operation phase =>
    cases Option.some.inj (operation.symm.trans h)
    exact absurd phase waits

theorem registers_pending {row : ManagedPool} {report : PoolObservation} (h : row.registers report = true) :
    row.state = .pending := by
  unfold ManagedPool.registers at h
  rw [Bool.and_eq_true, beq_iff_eq] at h
  exact h.2

theorem observed_state {row : ManagedPool} {report : PoolObservation} {now generation : Int} :
    (row.observed now generation report).state = if row.registers report then .active else row.state := rfl

/-- A pool that is registered has no operation yet, so an observation keeps the coupling. -/
theorem Coupled.observed {row : ManagedPool} (c : Coupled row) (now generation : Int) (report : PoolObservation) :
    Coupled (row.observed now generation report) := by
  cases ho : row.scaleOperation with
  | none => exact .free ho
  | some operation =>
    refine c.congr rfl ?_ rfl
    rw [observed_state, if_neg]
    intro registers
    rcases c.placed ho with h | h | h <;> rw [registers_pending registers] at h <;> cases h

theorem PoolStep.coupled {row row' : ManagedPool} (h : PoolStep s op row row') (c : Coupled row) : Coupled row' := by
  cases h with
  | closing _ free => exact .free free
  | finished _ free => exact .free free
  | activated _ free => exact .free free
  | tasked => exact c.congr rfl rfl rfl
  | observed => exact c.observed ..
  | completed => exact .free rfl
  | reopened => exact .free rfl
  | shrinking _ _ recorded fewer => exact .draining rfl rfl rfl rfl recorded fewer
  | grown live _ _ more => exact .increasing rfl rfl rfl live more
  | shrunk _ _ _ _ _ fewer => exact .decreasing rfl rfl rfl rfl fewer
  | respecced _ free => exact .free free

/-! ## Generations -/

/-- The generation never decreases, every change of state but the end of a drain raises it, and a
retired pool stays retired. -/
structure Advances (row row' : ManagedPool) : Prop where
  generation : row.generation ≤ row'.generation
  state : row'.state ≠ row.state → row.generation < row'.generation ∨ row.state = .draining ∧ row'.state = .drained
  retired : row.state = .retired → row'.state = .retired

theorem Advances.refl (row : ManagedPool) : Advances row row := ⟨le_rfl, fun h => absurd rfl h, id⟩

theorem Advances.trans {a b c : ManagedPool} (h : Advances a b) (k : Advances b c) : Advances a c := by
  refine ⟨h.generation.trans k.generation, fun hne => ?_, fun hr => k.retired (h.retired hr)⟩
  have hg := h.generation
  have kg := k.generation
  by_cases hab : b.state = a.state
  · rcases k.state (by rw [hab]; exact hne) with hlt | ⟨hb, hc⟩
    · exact .inl (by omega)
    · exact .inr ⟨hab ▸ hb, hc⟩
  · rcases h.state hab with hlt | ⟨ha, hb⟩
    · exact .inl (by omega)
    · by_cases hbc : c.state = b.state
      · exact .inr ⟨ha, hbc.trans hb⟩
      · rcases k.state hbc with hlt | ⟨hb', -⟩
        · exact .inl (by omega)
        · rw [hb] at hb'; cases hb'

/-- A step to the next generation that does not start from a retired pool. -/
theorem Advances.next {row row' : ManagedPool} (h : row'.generation = row.generation + 1)
    (live : row.state ≠ .retired) :
    Advances row row' :=
  ⟨by omega, fun _ => .inl (by omega), fun h => absurd h live⟩

theorem PoolStep.advances {row row' : ManagedPool} (h : PoolStep s op row row')
    (c : Coupled row) : Advances row row' := by
  cases h with
  | closing live =>
    refine .next rfl fun hr => ?_
    rcases live with h | h <;> rw [hr] at h <;> cases h
  | finished closed => exact ⟨le_rfl, fun _ => .inr ⟨closed, rfl⟩, fun hr => by rw [closed] at hr; cases hr⟩
  | activated closed => exact .next rfl (by rw [closed]; decide)
  | tasked => exact ⟨le_rfl, fun h => absurd rfl h, id⟩
  | @observed _ _ _ _ report =>
    by_cases hr : row.registers report = true
    · refine .next (if_pos hr) ?_
      rw [registers_pending hr]
      decide
    · have same : (row.observed ‹_› (if row.registers report then row.generation + 1 else row.generation)
          report).state = row.state := by
        rw [observed_state, if_neg hr]
      refine ⟨?_, fun h => absurd same h, fun h => same.trans h⟩
      show _ ≤ if row.registers report then _ else _
      rw [if_neg hr]
  | completed => exact ⟨le_rfl, fun h => absurd rfl h, id⟩
  | reopened operation =>
    refine .next rfl fun hr => ?_
    rcases c.placed operation with h | h | h <;> rw [hr] at h <;> cases h
  | shrinking live => exact .next rfl (by rw [live]; decide)
  | grown => exact ⟨le_rfl, fun h => absurd rfl h, id⟩
  | shrunk closed => exact .next rfl (by rw [closed]; decide)
  | respecced closed => exact .next rfl (by rw [closed]; decide)

/-! ## Reachable states -/

theorem Move.coupled (m : Move env op s s') (c : ∀ p ∈ s.pools, Coupled p) : ∀ p ∈ s'.pools, Coupled p := by
  intro p hp
  have found := Table.get?_of_mem hp
  cases hold : s.pools.get? (key p) with
  | none =>
    cases m.pools.fresh _ p found hold with
    | bound => exact .free rfl
  | some old =>
    obtain ⟨p', h', step⟩ := m.pools.kept _ old hold
    cases Option.some.inj (found.symm.trans h')
    rcases step with rfl | step
    · exact c p (Table.get?_mem hold)
    · exact step.coupled (c old (Table.get?_mem hold))

theorem Reachable.coupled (h : Reachable env s) : ∀ p ∈ s.pools, Coupled p :=
  h.invariant (fun _ hp => absurd hp (Table.not_mem_empty _)) fun m c => m.coupled c

/-- Every pool is still there after an operation, and has advanced. -/
theorem Moves.advances (m : Moves env op s s') (c : ∀ p ∈ s.pools, Coupled p) :
    ∀ id p, s.pools.get? id = some p → ∃ p', s'.pools.get? id = some p' ∧ Advances p p' := by
  intro id p hp
  suffices h : (∃ p', s'.pools.get? id = some p' ∧ Advances p p') ∧ ∀ p ∈ s'.pools, Coupled p from h.1
  induction m with
  | refl => exact ⟨⟨p, hp, .refl p⟩, c⟩
  | tail _ move ih =>
    obtain ⟨⟨q, hq, adv⟩, cq⟩ := ih
    refine ⟨?_, move.coupled cq⟩
    obtain ⟨q', hq', step⟩ := move.pools.kept id q hq
    refine ⟨q', hq', ?_⟩
    rcases step with rfl | step
    · exact adv
    · exact adv.trans (step.advances (cq q (Table.get?_mem hq)))

/-! ## The error of a scaling step -/

/-- What the scaling step answers when the operation does not fit the state. -/
def scalingChanged : ServiceError := .conflict "scaling operation state changed"

section Errors

variable {now : Int} {cluster : MemberCluster} {row : ManagedPool}

theorem apply_avoids {current target : Int} {up : Bool} :
    Tx.Avoids scalingChanged (apply env now cluster row current target up) s := by
  unfold apply
  split
  · exact Tx.avoids_pure _
  · refine Tx.avoids_bind (Tx.avoids_expect (by decide)) fun uid t _ => ?_
    refine Tx.avoids_bind (Tx.avoids_read _) fun _ t _ => ?_
    refine Tx.avoids_bind (Tx.avoids_expect (by decide)) fun previous t _ => ?_
    refine Tx.avoids_bind (Tx.avoids_expect (by decide)) fun spec t _ => ?_
    refine Tx.avoids_bind (Tx.avoids_reject fun _ => by decide) fun _ t _ => ?_
    refine Tx.avoids_bind (Tx.avoids_expect (by decide)) fun version t _ => ?_
    refine Tx.avoids_bind ?_ fun _ t _ => Tx.avoids_bind (Tx.avoids_write _) fun _ t _ => ?_
    · refine Tx.avoids_bind (Tx.avoids_read _) fun _ t _ => ?_
      exact Tx.avoids_bind (Tx.avoids_expect (by decide)) fun _ t _ => Tx.avoids_write _
    have stored : ∀ generation t, Tx.Avoids scalingChanged (do
        putPool (row.rescaled now version generation current target spec up)
        pure true) t :=
      fun generation t => Tx.avoids_bind (Tx.avoids_write _) fun _ _ _ => Tx.avoids_pure _
    split
    · exact Tx.avoids_bind (Tx.avoids_pure _) fun generation t _ => stored generation t
    · exact Tx.avoids_bind (Tx.avoids_expect (by decide)) fun generation t _ => stored generation t

/-- The next generation is computed or the counter is exhausted. -/
theorem putNext_avoids {row' : Int → ManagedPool} :
    Tx.Avoids scalingChanged (do
      let generation ← Tx.expect (checkedAdd row.generation 1) (.invalid "pool generation exhausted")
      putPool (row' generation)
      pure false) s := by
  refine Tx.avoids_bind (Tx.avoids_expect (by decide)) fun generation t _ => ?_
  exact Tx.avoids_bind (Tx.avoids_write _) fun _ t _ => Tx.avoids_pure _

/-- The scaling step of a coupled pool finds its operation in the state it left it in. -/
theorem reconcile_avoids (c : Coupled row) {evidence : Option ScaleEvidence} {applied : Int} {ready : Bool} :
    Tx.Avoids scalingChanged (reconcile env now cluster row evidence applied ready) s := by
  unfold reconcile
  split
  · exact Tx.avoids_pure _
  · cases ha : row.applying with
    | some op =>
      dsimp only
      unfold complete
      split
      · split
        · exact Tx.avoids_bind (Tx.avoids_write _) fun _ t _ => Tx.avoids_pure _
        · exact putNext_avoids
      · exact Tx.avoids_pure _
    | none =>
      cases evidence with
      | none => exact Tx.avoids_pure _
      | some evidence =>
        dsimp only
        refine Tx.avoids_bind (Tx.avoids_reject fun _ => by decide) fun _ t _ => ?_
        refine Tx.avoids_bind (Tx.avoids_expect (by decide)) fun current t _ => ?_
        cases ho : row.scaleOperation with
        | none =>
          dsimp only
          unfold start
          split
          · exact Tx.avoids_pure _
          · split
            · exact apply_avoids
            · exact putNext_avoids
        | some op =>
          dsimp only
          unfold drain
          obtain ⟨closed, phase⟩ := c.drains ho ha
          refine Tx.avoids_bind (Tx.avoids_reject fun changed => ?_) fun _ t _ => ?_
          · rcases changed with h | h
            · exact absurd closed h
            · exact absurd phase h
          · split
            · exact putNext_avoids
            · rw [Tx.Avoids, Tx.read_bind]
              split
              · exact Tx.avoids_pure _
              · exact apply_avoids

theorem latestTermination_avoids {views : List GatewayPoolView} : ∀ {after : Option Int} {s : State},
    Tx.Avoids scalingChanged (latestTermination after views) s := by
  induction views with
  | nil => exact fun {_ _} => Tx.avoids_pure _
  | cons v rest ih =>
    intro after s
    refine Tx.avoids_bind (Tx.avoids_read _) fun _ t _ => ?_
    refine Tx.avoids_bind (Tx.avoids_expect (by decide)) fun _ t _ => ?_
    exact Tx.avoids_bind (Tx.avoids_expect (by decide)) fun _ t _ => ih

theorem idleAfter_avoids {poolId : String} : Tx.Avoids scalingChanged (idleAfter poolId) s :=
  Tx.avoids_bind (Tx.avoids_read _) fun _ _ _ => latestTermination_avoids

theorem observePool_avoids {authAt : Int} {id token : String} {report : PoolObservation}
    (c : ∀ p ∈ s.pools, Coupled p) :
    Tx.Avoids scalingChanged (observePool env authAt now id token report) s := by
  unfold observePool
  refine Tx.avoids_bind (Tx.avoids_reject fun _ => by decide) fun _ t h => ?_
  obtain ⟨-, h⟩ := Tx.reject_ok.1 h
  cases h
  refine Tx.avoids_bind ?_ fun cluster t h => ?_
  · refine Tx.avoids_bind (Tx.avoids_read _) fun _ t _ => ?_
    refine Tx.avoids_bind (Tx.avoids_expect (by decide)) fun _ t _ => ?_
    exact Tx.avoids_bind (Tx.avoids_reject fun _ => by decide) fun _ t _ => Tx.avoids_pure _
  rw [show t = s from (authenticated_ok.1 h).2.2.symm, Tx.Avoids, Tx.read_bind]
  refine Tx.avoids_bind (Tx.avoids_expect (by decide)) fun row t h => ?_
  obtain ⟨found, -⟩ := Tx.expect_ok.1 h
  have coupled : Coupled row := c row (Table.get?_mem found)
  refine Tx.avoids_bind (Tx.avoids_reject fun _ => by decide) fun _ t _ => ?_
  refine Tx.avoids_bind (Tx.avoids_reject fun _ => by decide) fun _ t _ => ?_
  refine Tx.avoids_bind ?_ fun _ t _ => ?_
  · unfold checkIdle
    split
    · exact Tx.avoids_bind idleAfter_avoids fun _ t _ => Tx.avoids_reject fun _ => by decide
    · exact Tx.avoids_pure _
  refine Tx.avoids_bind (Tx.avoids_reject fun _ => by decide) fun _ t _ => ?_
  refine Tx.avoids_bind ?_ fun generation t h => ?_
  · unfold observedGeneration
    split
    · exact Tx.avoids_expect (by decide)
    · exact Tx.avoids_pure _
  refine Tx.avoids_bind ?_ fun _ t _ => ?_
  · unfold registerDefault
    split
    · refine Tx.avoids_bind (Tx.avoids_read _) fun _ t _ => ?_
      exact Tx.avoids_bind (Tx.avoids_reject fun _ => by decide) fun _ t _ => Tx.avoids_write _
    · exact Tx.avoids_pure _
  refine Tx.avoids_bind (Tx.avoids_write _) fun _ t _ => ?_
  refine Tx.avoids_bind ?_ fun _ t _ => ?_
  · unfold confirmReported
    split
    · refine Tx.avoids_bind (Tx.avoids_reject fun _ => by decide) fun _ t _ => ?_
      refine Tx.avoids_bind (Tx.avoids_reject fun _ => by decide) fun _ t _ => ?_
      refine Tx.avoids_bind idleAfter_avoids fun _ t _ => ?_
      split
      · exact Tx.avoids_pure _
      · exact Tx.avoids_write _
    · exact Tx.avoids_pure _
  exact Tx.avoids_bind (reconcile_avoids (coupled.observed ..)) fun _ t _ => Tx.avoids_pure _

end Errors

/-- A pool lets requests in while it is active. -/
def ManagedPool.admits (row : ManagedPool) : Bool := row.state == .active

/-- In every run the operation of every pool fits its state, and whatever the next operation is, the
generation of a pool does not decrease and is raised by whatever starts or stops admission, a
retired pool stays retired, and no scaling step finds its operation in another state. -/
theorem Op.runAll_coupled (env : Env) (before : List Op) (op : Op) :
    let s := Op.runAll env before State.empty
    let s' := op.run env s
    (∀ p ∈ s.pools, Coupled p) ∧
      (∀ id p, s.pools.get? id = some p → ∃ p', s'.pools.get? id = some p' ∧ p.generation ≤ p'.generation ∧
        (p.admits ≠ p'.admits → p.generation < p'.generation) ∧ (p.state = .retired → p'.state = .retired)) ∧
      ∀ authAt now id token report,
        Fleet.observePool env authAt now id token report s ≠ .error (.conflict "scaling operation state changed") := by
  intro s s'
  have reachable : Reachable env s := ⟨before, rfl⟩
  have coupled := reachable.coupled
  have moves : Moves env op s s' := op.run_moves s
  refine ⟨coupled, fun id p hp => ?_, fun authAt now id token report => observePool_avoids coupled⟩
  obtain ⟨p', hp', adv⟩ := moves.advances coupled id p hp
  refine ⟨p', hp', adv.generation, fun differs => ?_, adv.retired⟩
  rcases adv.state (fun he => differs (by unfold ManagedPool.admits; rw [he])) with hlt | ⟨hd, hd'⟩
  · exact hlt
  · unfold ManagedPool.admits at differs
    rw [hd, hd'] at differs
    exact absurd rfl differs

end Xscope.Fleet

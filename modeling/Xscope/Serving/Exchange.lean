/-
The exchange between the control plane and its gateways. Grants go out and may be lost or installed late,
reports come back late, twice or stale, and the pools are drained meanwhile: a drained pool carries no traffic
before a later grant accepts it again.
-/
import Xscope.Fleet.Drained
import Xscope.Serving.Gate

namespace Xscope.Serving

open Fleet

variable {env : Fleet.Env} {s s' m : State} {op : Fleet.Op}

/-! ## What the operations keep -/

/-- The gateway of the session has been proven terminated. -/
def Terminated (s : State) (id : String) : Prop := ∃ row, s.sessions.get? id = some row ∧ row.proof.isSome = true

/-- What every operation keeps of the sessions, the pools and the participants. -/
structure Ahead (s s' : State) : Prop where
  sessions : ∀ id row, s.sessions.get? id = some row → ∃ row', s'.sessions.get? id = some row' ∧
    row.sequence ≤ row'.sequence ∧ (row.proof.isSome = true → row'.proof.isSome = true)
  pools : ∀ id p, s.pools.get? id = some p → ∃ p', s'.pools.get? id = some p' ∧ Fleet.Advances p p'
  views : ∀ k v, s.views.get? k = some v → ∃ v', s'.views.get? k = some v'

theorem Ahead.refl (s : State) : Ahead s s :=
  ⟨fun _ row h => ⟨row, h, le_rfl, id⟩, fun _ p h => ⟨p, h, .refl p⟩, fun _ v h => ⟨v, h⟩⟩

theorem Ahead.trans (h : Ahead s m) (k : Ahead m s') : Ahead s s' := by
  refine ⟨fun id row hr => ?_, fun id p hp => ?_, fun id v hv => ?_⟩
  · obtain ⟨row₁, hr₁, le, proof⟩ := h.sessions id row hr
    obtain ⟨row₂, hr₂, le', proof'⟩ := k.sessions id row₁ hr₁
    exact ⟨row₂, hr₂, le.trans le', fun proved => proof' (proof proved)⟩
  · obtain ⟨p₁, hp₁, advances⟩ := h.pools id p hp
    obtain ⟨p₂, hp₂, advances'⟩ := k.pools id p₁ hp₁
    exact ⟨p₂, hp₂, advances.trans advances'⟩
  · obtain ⟨v₁, hv₁⟩ := h.views id v hv
    exact k.views id v₁ hv₁

theorem Ahead.terminated (h : Ahead s s') {id : String} (terminated : Terminated s id) : Terminated s' id := by
  obtain ⟨row, found, proved⟩ := terminated
  obtain ⟨row', found', -, proof⟩ := h.sessions id row found
  exact ⟨row', found', proof proved⟩

/-- A proof of termination is not taken back. -/
theorem sessionStep_proof {row row' : GatewaySession} (h : SessionStep op row row') (proved : row.proof.isSome = true) :
    row'.proof.isSome = true := by
  cases h with
  | attested step => rw [step]; exact proved
  | terminated => rfl
  | _ => exact proved

theorem move_ahead (move : Fleet.Move env op s s') (coupled : ∀ p ∈ s.pools, Coupled p) : Ahead s s' := by
  refine ⟨fun id row hr => ?_, fun id p hp => ?_, fun k v hv => ?_⟩
  · obtain ⟨row', hr', step⟩ := move.sessions.kept id row hr
    refine ⟨row', hr', ?_⟩
    rcases step with rfl | step
    · exact ⟨le_rfl, fun proved => proved⟩
    · exact ⟨step.sequence_le, sessionStep_proof step⟩
  · obtain ⟨p', hp', step⟩ := move.pools.kept id p hp
    refine ⟨p', hp', ?_⟩
    rcases step with rfl | step
    · exact .refl p'
    · exact step.advances (coupled p (Table.get?_mem hp))
  · obtain ⟨v', hv', -⟩ := move.views.kept k v hv
    exact ⟨v', hv'⟩

theorem moves_ahead (moves : Fleet.Moves env op s s') (coupled : ∀ p ∈ s.pools, Coupled p) :
    Ahead s s' ∧ ∀ p ∈ s'.pools, Coupled p := by
  induction moves with
  | refl => exact ⟨.refl s, coupled⟩
  | tail _ move ih => exact ⟨ih.1.trans (move_ahead move ih.2), move.coupled ih.2⟩

theorem run_ahead (op : Fleet.Op) (h : Reachable env s) : Ahead s (op.run env s) :=
  (moves_ahead (op.run_moves s) h.coupled).1

/-- The generations of the pools are positive. -/
theorem reachable_positive (h : Reachable env s) : ∀ p ∈ s.pools, 0 < p.generation := by
  have invariant : (∀ p ∈ s.pools, Coupled p) ∧ ∀ p ∈ s.pools, 0 < p.generation := by
    refine h.invariant (P := fun s => (∀ p ∈ s.pools, Coupled p) ∧ ∀ p ∈ s.pools, 0 < p.generation) ?_ ?_
    · exact ⟨fun _ hp => absurd hp (Table.not_mem_empty _), fun _ hp => absurd hp (Table.not_mem_empty _)⟩
    · rintro op s s' move ⟨coupled, positive⟩
      refine ⟨move.coupled coupled, fun p hp => ?_⟩
      have found := Table.get?_of_mem hp
      cases old : s.pools.get? (key p) with
      | none =>
        cases move.pools.fresh _ p found old with
        | bound => exact Int.one_pos
      | some q =>
        obtain ⟨p', hp', advances⟩ := (move_ahead move coupled).pools _ q old
        cases Option.some.inj (found.symm.trans hp')
        have := positive q (Table.get?_mem old)
        have := advances.generation
        omega
  exact invariant.2

/-! ## Operations without traffic -/

/-- The operation grants no snapshot and takes no report. -/
def silent : Fleet.Op → Bool
  | .trafficSnapshot .. | .trafficReport .. => false
  | _ => true

/-- The view after operations without traffic: it is as before, or retired by a termination. -/
structure Unheard (s' : State) (v v' : GatewayPoolView) : Prop where
  delivered : v'.deliveredGeneration = v.deliveredGeneration
  live : v'.retired = false → v' = v
  retired : v'.retired = true → v.retired = true ∨ Terminated s' v.sessionId

/-- What the operations without traffic leave of the sessions and the views. -/
structure Untouched (s s' : State) : Prop where
  sessions : ∀ id row, s.sessions.get? id = some row → ∃ row', s'.sessions.get? id = some row' ∧
    row'.sequence = row.sequence
  views : ∀ k v', s'.views.get? k = some v' → ∃ v, s.views.get? k = some v ∧ Unheard s' v v'

theorem Untouched.refl (s : State) : Untouched s s :=
  ⟨fun _ row h => ⟨row, h, rfl⟩, fun _ v h => ⟨v, h, rfl, fun _ => rfl, .inl⟩⟩

theorem Untouched.trans (h : Untouched s m) (k : Untouched m s') (ahead : Ahead m s') : Untouched s s' := by
  refine ⟨fun id row hr => ?_, fun key v₂ hv₂ => ?_⟩
  · obtain ⟨row₁, hr₁, same⟩ := h.sessions id row hr
    obtain ⟨row₂, hr₂, same'⟩ := k.sessions id row₁ hr₁
    exact ⟨row₂, hr₂, same'.trans same⟩
  · obtain ⟨v₁, hv₁, unheard'⟩ := k.views key v₂ hv₂
    obtain ⟨v, hv, unheard⟩ := h.views key v₁ hv₁
    have session : v₁.sessionId = v.sessionId := congrArg Prod.snd ((Table.get?_key hv₁).trans (Table.get?_key hv).symm)
    refine ⟨v, hv, unheard'.delivered.trans unheard.delivered, fun live => ?_, fun retired => ?_⟩
    · have same := unheard'.live live
      rw [same] at live ⊢
      exact unheard.live live
    · rcases unheard'.retired retired with before | terminated
      · exact (unheard.retired before).imp_right ahead.terminated
      · rw [session] at terminated
        exact .inr terminated

theorem sessionStep_sequence {row row' : GatewaySession} (h : SessionStep op row row') (quiet : silent op = true) :
    row'.sequence = row.sequence := by
  cases h with
  | delivered => cases quiet
  | attested step => rw [step]; rfl
  | _ => rfl

/-- Only a snapshot opens a view. -/
theorem move_views (move : Fleet.Move env op s s') (quiet : silent op = true) {k : String × String}
    {v' : GatewayPoolView} (h : s'.views.get? k = some v') : ∃ v, s.views.get? k = some v := by
  cases move with
  | snapshot => cases quiet
  | acked => cases quiet
  | settled =>
    rw [Table.get?_mapRows] at h
    obtain ⟨v, hv, -⟩ := Option.map_eq_some_iff.1 h
    exact ⟨v, hv⟩
  | terminated =>
    rw [Table.get?_mapRows] at h
    obtain ⟨v, hv, -⟩ := Option.map_eq_some_iff.1 h
    exact ⟨v, hv⟩
  | _ => exact ⟨v', h⟩

theorem viewStep_unheard {v v' : GatewayPoolView} (step : ViewStep s s' op v v')
    (quiet : silent op = true) : Unheard s' v v' := by
  cases step with
  | granted => cases quiet
  | acked => cases quiet
  | orphaned session opened after => exact ⟨rfl, nofun, fun _ => .inr ⟨_, after, rfl⟩⟩
  | settled unknown =>
    refine ⟨rfl, fun live => ?_, fun _ => .inl unknown.1⟩
    rw [unknown.1] at live
    cases live

theorem move_untouched (move : Fleet.Move env op s s') (quiet : silent op = true) : Untouched s s' := by
  refine ⟨fun id row hr => ?_, fun k v' hv' => ?_⟩
  · obtain ⟨row', hr', step⟩ := move.sessions.kept id row hr
    refine ⟨row', hr', ?_⟩
    rcases step with rfl | step
    · rfl
    · exact sessionStep_sequence step quiet
  · obtain ⟨v, hv⟩ := move_views move quiet hv'
    refine ⟨v, hv, ?_⟩
    obtain ⟨w, hw, step⟩ := move.views.kept k v hv
    cases Option.some.inj (hv'.symm.trans hw)
    rcases step with rfl | step
    · exact ⟨rfl, fun _ => rfl, .inl⟩
    · exact viewStep_unheard step quiet

theorem moves_untouched (moves : Fleet.Moves env op s s') (coupled : ∀ p ∈ s.pools, Coupled p)
    (quiet : silent op = true) :
    Untouched s s' := by
  induction moves with
  | refl => exact .refl s
  | tail before move ih => exact ih.trans (move_untouched move quiet) (move_ahead move (moves_ahead before coupled).2)

/-! ## Gates -/

section Gates

variable {g : Gate} {id : String} {granted granted' : List TrafficSnapshot} {report : TrafficReport}

/-- Closed, with no request in flight. -/
structure Gate.Silent (g : Gate) : Prop where
  closed : g.traffic.closed = true
  permits : g.permits = []

theorem Gate.step_silent (h : g.Silent) (op : GateOp) : (g.step env op).Silent := by
  refine ⟨Gate.step_closed h.closed op, ?_⟩
  cases op with
  | install grant fetchedAt =>
    simp only [Gate.step]
    split
    · exact h.permits
    · exact h.permits
  | enter pool generation now =>
    simp only [Gate.step]
    split
    · rename_i t entered
      obtain ⟨-, opened, -⟩ := enter_cases entered
      rw [h.closed] at opened
      cases opened
    · exact h.permits
  | leave permit =>
    simp only [Gate.step]
    split
    · rename_i held
      rw [h.permits] at held
      cases held
    · exact h.permits
  | report => exact h.permits
  | close => exact h.permits

/-- What a report says of its gate from then on: it was sent under an installed grant, and where it
    counts no request there is none from before the generation of that grant. -/
structure Gate.Heard (g : Gate) (report : TrafficReport) : Prop where
  idle : ∃ grant ∈ g.installed, grant.sequence = report.sequence ∧
    ∀ c ∈ grant.pools, report.active.lookup c.id = some 0 → g.Past c.id c.generation
  closed : report.closed = true → (∀ p ∈ report.active, p.2 = 0) → g.Silent

/-- A gate of the session: its grants are of those granted, and its permits of its grants. -/
structure Gate.Fed (id : String) (granted : List TrafficSnapshot) (g : Gate) : Prop where
  kept : g.Kept
  own : g.traffic.sessionId = id
  installed : ∀ grant ∈ g.installed, grant ∈ granted ∧ grant.sessionId = id
  permits : ∀ permit ∈ g.permits, ∃ grant ∈ g.installed, ∃ c ∈ grant.pools,
    c.id = permit.pool ∧ c.accepting = true ∧ c.generation = permit.generation

theorem Gate.new_fed (id : String) : (Gate.new id).Fed id granted :=
  ⟨Gate.new_kept id, rfl, fun _ h => absurd h List.not_mem_nil, fun _ h => absurd h List.not_mem_nil⟩

theorem Gate.Fed.grow (h : g.Fed id granted) (more : granted ⊆ granted') : g.Fed id granted' :=
  ⟨h.kept, h.own, fun grant hg => ⟨more (h.installed grant hg).1, (h.installed grant hg).2⟩, h.permits⟩

/-- A gate takes grants of its own session only. -/
theorem install_own {t t' : Traffic} {grant : TrafficSnapshot} {fetchedAt : Int}
    (h : t.install env grant fetchedAt = .ok t') :
    grant.sessionId = t.sessionId := by
  unfold Traffic.install at h
  split at h
  · cases h
  · rename_i guard
    by_contra other
    exact guard (.inl other)

theorem leave_own (t : Traffic) (pool : String) : (t.leave pool).sessionId = t.sessionId := by
  unfold Traffic.leave
  split
  · rfl
  · rfl

theorem Gate.step_installed (g : Gate) (op : GateOp) : g.installed ⊆ (g.step env op).installed := by
  cases op with
  | install grant fetchedAt =>
    simp only [Gate.step]
    split
    · exact List.subset_cons_self ..
    · exact fun _ h => h
  | enter pool generation now =>
    simp only [Gate.step]
    split <;> exact fun _ h => h
  | leave permit =>
    simp only [Gate.step]
    split <;> exact fun _ h => h
  | report => exact fun _ h => h
  | close => exact fun _ h => h

theorem Gate.step_heard (h : g.Heard report) (op : GateOp) : (g.step env op).Heard report := by
  obtain ⟨grant, installed, same, past⟩ := h.idle
  constructor
  · exact ⟨grant, g.step_installed op installed, same, fun c hc none => Gate.step_past (past c hc none) op⟩
  · exact fun closed none => Gate.step_silent (h.closed closed none) op

theorem Gate.step_fed (h : g.Fed id granted) (op : GateOp)
    (offered : ∀ grant fetchedAt, op = .install grant fetchedAt → grant ∈ granted) :
    (g.step env op).Fed id granted := by
  have kept : (g.step env op).Kept := Gate.step_kept h.kept op
  cases op with
  | install grant fetchedAt =>
    simp only [Gate.step] at kept ⊢
    cases installed : g.traffic.install env grant fetchedAt with
    | error message => exact h
    | ok t =>
      rw [installed] at kept
      have own := install_own installed
      refine ⟨kept, (install_ok installed).2.trans h.own, ?_, ?_⟩
      · exact List.forall_mem_cons.2 ⟨⟨offered _ _ rfl, own.trans h.own⟩, h.installed⟩
      · intro permit held
        obtain ⟨earlier, he, admits⟩ := h.permits permit held
        exact ⟨earlier, List.mem_cons_of_mem _ he, admits⟩
  | enter pool generation now =>
    simp only [Gate.step] at kept ⊢
    cases entered : g.traffic.enter pool generation now with
    | error message => exact h
    | ok t =>
      rw [entered] at kept
      obtain ⟨rfl, -, c, control, same, accepting⟩ := enter_cases entered
      refine ⟨kept, h.own, h.installed, List.forall_mem_cons.2 ⟨?_, h.permits⟩⟩
      -- the permit is taken under the newest grant
      obtain ⟨grant, newest, hc, own⟩ := control_mem control
      rw [h.kept.newest] at newest
      exact ⟨grant, List.mem_of_head? newest, c, hc, own, accepting, same⟩
  | leave permit =>
    simp only [Gate.step] at kept ⊢
    by_cases held : permit ∈ g.permits
    · rw [if_pos held] at kept ⊢
      exact ⟨kept, (leave_own _ _).trans h.own, h.installed, fun q hq => h.permits q (List.mem_of_mem_erase hq)⟩
    · rw [if_neg held]
      exact h
  | report => exact h
  | close => exact ⟨kept, h.own, h.installed, h.permits⟩

/-- A pool that counts no request has no permit. -/
theorem Gate.Kept.unheld (k : g.Kept) {pool : String} (none : countOf g.traffic.active pool = 0) :
    ∀ permit ∈ g.permits, permit.pool ≠ pool := by
  intro permit held on
  rw [k.counted] at none
  exact List.countP_eq_zero.1 none permit held (decide_eq_true on)

theorem countOf_of_zeros {active : List (String × Nat)} (zeros : ∀ p ∈ active, p.2 = 0)
    (pool : String) : countOf active pool = 0 := by
  unfold countOf
  cases found : active.lookup pool with
  | none => rfl
  | some n =>
    obtain ⟨front, back, split, -⟩ := List.lookup_eq_some_iff.1 found
    exact zeros (pool, n) (by rw [split]; exact List.mem_append_right _ (List.mem_cons_self ..))

theorem Gate.Fed.heard (h : g.Fed id granted) (sent : g.traffic.report = some report) :
    report.sessionId = id ∧ g.Heard report := by
  obtain ⟨grant, newest, rfl⟩ := Option.map_eq_some_iff.1 sent
  have installed : grant ∈ g.installed := by
    rw [h.kept.newest] at newest
    exact List.mem_of_head? newest
  refine ⟨h.own, ⟨grant, installed, rfl, ?_⟩, ?_⟩
  · intro c hc none
    have zero : countOf g.traffic.active c.id = 0 := by
      unfold countOf
      rw [show g.traffic.active.lookup c.id = some 0 from none]
      rfl
    refine ⟨⟨c, control_of_mem newest (h.kept.distinct grant installed) hc, le_rfl⟩, ?_⟩
    intro permit held on
    exact absurd on (h.kept.unheld zero permit held)
  · intro closed zeros
    refine ⟨closed, List.eq_nil_iff_forall_not_mem.2 ?_⟩
    intro permit held
    exact h.kept.unheld (countOf_of_zeros zeros permit.pool) permit held rfl

end Gates

/-! ## Grants -/

/-- What a grant finds in every later state: no session and no pool behind it, every pool it accepts
    still active or past its generation, and a participant for each of these. -/
structure Offered (s : State) (g : TrafficSnapshot) : Prop where
  session : ∃ row, s.sessions.get? g.sessionId = some row ∧ g.sequence ≤ row.sequence
  pools : ∀ c ∈ g.pools, ∃ p, s.pools.get? c.id = some p ∧ c.generation ≤ p.generation ∧
    (c.accepting = true → c.generation = p.generation → p.state = .active)
  exposed : ∀ c ∈ g.pools, c.accepting = true → ∃ v, s.views.get? (c.id, g.sessionId) = some v

theorem Offered.ahead {g : TrafficSnapshot} (h : Offered s g) (ahead : Ahead s s') : Offered s' g := by
  refine ⟨?_, fun c hc => ?_, fun c hc accepting => ?_⟩
  · obtain ⟨row, found, le⟩ := h.session
    obtain ⟨row', found', le', -⟩ := ahead.sessions _ row found
    exact ⟨row', found', le.trans le'⟩
  · obtain ⟨p, found, le, active⟩ := h.pools c hc
    obtain ⟨p', found', advances⟩ := ahead.pools _ p found
    refine ⟨p', found', le.trans advances.generation, fun accepting same => ?_⟩
    have later := advances.generation
    have before := active accepting (by omega)
    -- a pool that leaves the active state takes the next generation
    by_contra other
    rcases advances.state (by rw [before]; exact other) with newer | ⟨draining, -⟩
    · omega
    · rw [before] at draining
      cases draining
  · obtain ⟨v, found⟩ := h.exposed c hc accepting
    exact ahead.views _ v found

section Snapshots

variable {now : Int} {nonce token id : String} {identity : Option GatewayIdentity} {row : GatewaySession}
    {g : TrafficSnapshot}

theorem accepting_active {pool : ManagedPool} {ready : Bool} {clusters : List MemberCluster}
    (h : pool.accepting now ready clusters = true) :
    pool.state = .active := by
  unfold ManagedPool.accepting at h
  simp only [Bool.and_eq_true, beq_iff_eq] at h
  exact h.1.1.1

/-- Each control of a snapshot is that of a pool, and accepts active pools only. -/
theorem snapshot_control (h : Snapshot env now nonce token id identity row g s s') {c : PoolControl}
    (hc : c ∈ g.pools) :
    ∃ p, s.pools.get? c.id = some p ∧ c.generation = p.generation ∧ (c.accepting = true → p.state = .active) := by
  rw [h.answer] at hc
  obtain ⟨pool, hp, rfl⟩ := List.mem_map.1 hc
  exact ⟨pool, Table.get?_of_mem ((s.listed_spec.1 pool).1 hp), rfl, accepting_active⟩

theorem snapshot_offered (h : Snapshot env now nonce token id identity row g s s') : Offered s' g := by
  have session : g.sessionId = id := by rw [h.answer]
  have sequence : g.sequence = row.sequence + 1 := by rw [h.answer]
  refine ⟨⟨row.delivered now (row.sequence + 1) nonce, ?_, sequence.le⟩, fun c hc => ?_, fun c hc accepting => ?_⟩
  · rw [h.sessions, session, if_pos rfl]
  · obtain ⟨p, found, generation, active⟩ := snapshot_control h hc
    refine ⟨p, ?_, generation.le, fun accepting _ => active accepting⟩
    rw [h.tables]
    exact found
  · rw [session]
    exact h.exposed (c.id, c.generation) (List.mem_map.2 ⟨c, List.mem_filter.2 ⟨hc, accepting⟩, rfl⟩)

/-- The grant is later than every other one of its session. -/
theorem snapshot_later (h : Snapshot env now nonce token id identity row g s s') {earlier : TrafficSnapshot}
    (offered : Offered s earlier) (same : g.sessionId = earlier.sessionId) : earlier.sequence < g.sequence := by
  obtain ⟨old, found, le⟩ := offered.session
  have session : g.sessionId = id := by rw [h.answer]
  have sequence : g.sequence = row.sequence + 1 := by rw [h.answer]
  rw [← same, session] at found
  rcases h.session with known | ⟨missing, -⟩
  · cases Option.some.inj (known.symm.trans found)
    omega
  · rw [missing] at found
    cases found

end Snapshots

/-! ## The exchange -/

/-- The control plane, the gate of each session, the grants that were answered and the reports that were sent. -/
structure Exchange where
  plane : State
  gates : String → Gate
  granted : List TrafficSnapshot
  sent : List TrafficReport

def Exchange.start : Exchange := ⟨.empty, Gate.new, [], []⟩

/-- An answer and a report are delivered at any time, any number of times or never. -/
inductive Event where
  | control (op : { op : Fleet.Op // silent op = true })
  | grant (wallAt now : Int) (nonce token id : String) (identity : Option GatewayIdentity)
  | install (id : String) (n : Nat) (fetchedAt : Int)
  | enter (id pool : String) (generation now : Int)
  | leave (id : String) (permit : Permit)
  | close (id : String)
  | send (id : String)
  | deliver (n : Nat) (now : Int)

section Step

variable (env : Fleet.Env)

/-- An operation of the gate of a session. -/
def Exchange.at (e : Exchange) (id : String) (op : GateOp) : Exchange :=
  { e with gates := Function.update e.gates id ((e.gates id).step env op) }

def Exchange.step (e : Exchange) : Event → Exchange
  | .control op => { e with plane := op.1.run env e.plane }
  | .grant wallAt now nonce token id identity =>
    let r := Tx.commit (Fleet.trafficSnapshot env wallAt now nonce token id identity) e.plane
    { e with plane := r.2, granted := r.1.toOption.toList ++ e.granted }
  | .install id n fetchedAt => (e.granted[n]?).elim e fun grant => e.at env id (.install grant fetchedAt)
  | .enter id pool generation now => e.at env id (.enter pool generation now)
  | .leave id permit => e.at env id (.leave permit)
  | .close id => e.at env id .close
  | .send id => { e with sent := (e.gates id).traffic.report.toList ++ e.sent }
  | .deliver n now =>
    (e.sent[n]?).elim e fun report => { e with plane := (Fleet.Op.trafficReport now report).run env e.plane }

def Exchange.run (e : Exchange) (events : List Event) : Exchange := events.foldl (Exchange.step env) e

end Step

variable {e : Exchange}

theorem Exchange.step_install (e : Exchange) (id : String) (n : Nat) (fetchedAt : Int) :
    e.step env (.install id n fetchedAt) = e ∨
      ∃ grant ∈ e.granted, e.step env (.install id n fetchedAt) = e.at env id (.install grant fetchedAt) := by
  simp only [Exchange.step]
  cases listed : e.granted[n]? with
  | none => exact .inl rfl
  | some grant => exact .inr ⟨grant, List.mem_of_getElem? listed, rfl⟩

theorem Exchange.step_deliver (e : Exchange) (n : Nat) (now : Int) :
    e.step env (.deliver n now) = e ∨
      ∃ report ∈ e.sent, e.step env (.deliver n now) =
        { e with plane := (Fleet.Op.trafficReport now report).run env e.plane } := by
  simp only [Exchange.step]
  cases listed : e.sent[n]? with
  | none => exact .inl rfl
  | some report => exact .inr ⟨report, List.mem_of_getElem? listed, rfl⟩

/-! ## The invariant -/

/-- What the view of a participant says of its gate: it is at a generation of the last grant of the
    session; retired, the gateway is proven terminated or its gate is silent; and otherwise, with a
    count of zero, no permit is from before the acknowledged generation. -/
structure Recorded (e : Exchange) (v : GatewayPoolView) : Prop where
  pool : ∃ p, e.plane.pools.get? v.poolId = some p
  delivered : ∃ row, e.plane.sessions.get? v.sessionId = some row ∧ ∃ g ∈ e.granted, g.sessionId = v.sessionId ∧
    g.sequence = row.sequence ∧ ∃ c ∈ g.pools, c.id = v.poolId ∧ c.generation = v.deliveredGeneration
  retired : v.retired = true → Terminated e.plane v.sessionId ∨ (e.gates v.sessionId).Silent
  acknowledged : v.retired = false → v.activeRequests = 0 → 0 < v.acknowledgedGeneration →
    (e.gates v.sessionId).Past v.poolId v.acknowledgedGeneration

structure Exchange.Sound (env : Fleet.Env) (e : Exchange) : Prop where
  reachable : Reachable env e.plane
  offered : ∀ g ∈ e.granted, Offered e.plane g
  ordered : e.granted.Pairwise fun later earlier => later.sessionId = earlier.sessionId →
    earlier.sequence < later.sequence
  fed : ∀ id, (e.gates id).Fed id e.granted
  heard : ∀ report ∈ e.sent, (e.gates report.sessionId).Heard report
  recorded : ∀ v ∈ e.plane.views, Recorded e v

theorem Exchange.start_sound : Exchange.start.Sound env :=
  ⟨.empty env, fun _ h => absurd h List.not_mem_nil, .nil, Gate.new_fed, fun _ h => absurd h List.not_mem_nil,
    fun _ h => absurd h (Table.not_mem_empty _)⟩

/-- A session has one grant of a sequence. -/
theorem Exchange.Sound.unique (h : e.Sound env) {g g' : TrafficSnapshot} (hg : g ∈ e.granted) (hg' : g' ∈ e.granted)
    (session : g.sessionId = g'.sessionId) (sequence : g.sequence = g'.sequence) : g = g' := by
  have symm : Std.Symm fun g g' : TrafficSnapshot => g.sessionId = g'.sessionId → g.sequence = g'.sequence → g = g' :=
    ⟨fun _ _ same session sequence => (same session.symm sequence.symm).symm⟩
  have alone : e.granted.Pairwise fun g g' => g.sessionId = g'.sessionId → g.sequence = g'.sequence → g = g' := by
    refine h.ordered.imp ?_
    intro later earlier less session sequence
    have := less session
    omega
  exact alone.forall_of_forall (fun _ _ _ _ => rfl) hg hg' session sequence

/-! ## Steps of the gates -/

/-- What the operation keeps of a gate it keeps of every gate. -/
theorem Exchange.at_gates {P : Gate → Prop} {id k : String} {op : GateOp} (h : P (e.gates k))
    (step : ∀ g : Gate, P g → P (g.step env op)) : P ((e.at env id op).gates k) := by
  unfold Exchange.at
  by_cases own : k = id
  · subst own
    simp only [Function.update_self]
    exact step _ h
  · simp only [Function.update_of_ne own]
    exact h

theorem Exchange.Sound.at (h : e.Sound env) (id : String) (op : GateOp)
    (offered : ∀ grant fetchedAt, op = .install grant fetchedAt → grant ∈ e.granted) : (e.at env id op).Sound env := by
  refine ⟨h.reachable, h.offered, h.ordered, ?_, ?_, ?_⟩
  · intro k
    exact Exchange.at_gates (P := Gate.Fed k e.granted) (h.fed k) fun g fed => Gate.step_fed fed op offered
  · intro report sent
    exact Exchange.at_gates (P := fun g => g.Heard report) (h.heard report sent) fun g heard => Gate.step_heard heard op
  · intro v hv
    obtain ⟨pool, delivered, retired, acknowledged⟩ := h.recorded v hv
    refine ⟨pool, delivered, fun gone => ?_, fun live idle positive => ?_⟩
    · rcases retired gone with terminated | silent
      · exact .inl terminated
      · exact .inr (Exchange.at_gates (P := Gate.Silent) silent fun g silent => Gate.step_silent silent op)
    · exact Exchange.at_gates (P := fun g => g.Past v.poolId v.acknowledgedGeneration) (acknowledged live idle positive)
        fun g past => Gate.step_past past op

theorem Exchange.Sound.send (h : e.Sound env) (id : String) : (e.step env (.send id)).Sound env := by
  refine ⟨h.reachable, h.offered, h.ordered, h.fed, ?_, ?_⟩
  · intro report sent
    rcases List.mem_append.1 sent with new | old
    · obtain ⟨own, heard⟩ := (h.fed id).heard (Option.mem_toList.1 new)
      rw [own]
      exact heard
    · exact h.heard report old
  · intro v hv
    obtain ⟨pool, delivered, retired, acknowledged⟩ := h.recorded v hv
    exact ⟨pool, delivered, retired, acknowledged⟩

/-! ## Steps of the control plane -/

/-- What becomes of the records when the operation leaves the gates. -/
theorem Exchange.Sound.control (h : e.Sound env) (op : Fleet.Op) (quiet : silent op = true) :
    Exchange.Sound env { e with plane := op.run env e.plane } := by
  have ahead : Ahead e.plane (op.run env e.plane) := run_ahead op h.reachable
  have untouched : Untouched e.plane (op.run env e.plane) :=
    moves_untouched (op.run_moves e.plane) h.reachable.coupled quiet
  refine ⟨h.reachable.run env op, fun g hg => (h.offered g hg).ahead ahead, h.ordered, h.fed, h.heard, ?_⟩
  intro v' hv'
  have found' := Table.get?_of_mem hv'
  obtain ⟨v, found, unheard⟩ := untouched.views _ v' found'
  have same : (v.poolId, v.sessionId) = (v'.poolId, v'.sessionId) := Table.get?_key found
  obtain ⟨pool, session⟩ := Prod.mk.inj same
  obtain ⟨known, ⟨row, hrow, g, hg, own, sequence, c, hc, hid, generation⟩, retired, acknowledged⟩ :=
    h.recorded v (Table.get?_mem found)
  constructor
  · obtain ⟨p, hp⟩ := known
    obtain ⟨p', hp', -⟩ := ahead.pools _ p hp
    exact ⟨p', pool ▸ hp'⟩
  · obtain ⟨row', hrow', kept⟩ := untouched.sessions _ row hrow
    rw [← session, ← pool]
    exact ⟨row', hrow', g, hg, own, sequence.trans kept.symm, c, hc, hid, generation.trans unheard.delivered.symm⟩
  · intro gone
    rw [← session]
    rcases unheard.retired gone with before | terminated
    · exact (retired before).imp_left ahead.terminated
    · exact .inl terminated
  · intro live idle positive
    have same := unheard.live live
    rw [same] at live idle positive ⊢
    exact acknowledged live idle positive

/-- A record is as before where the session has not been granted anything. -/
theorem Recorded.elsewhere {v : GatewayPoolView} (r : Recorded e v) (ahead : Ahead e.plane s')
    (sessions : s'.sessions.get? v.sessionId = e.plane.sessions.get? v.sessionId) {granted : List TrafficSnapshot}
    (more : e.granted ⊆ granted) :
    Recorded { e with plane := s', granted := granted } v := by
  obtain ⟨⟨p, hp⟩, ⟨row, hrow, g, hg, delivered⟩, retired, acknowledged⟩ := r
  refine ⟨?_, ⟨row, sessions.trans hrow, g, more hg, delivered⟩, ?_, acknowledged⟩
  · obtain ⟨p', hp', -⟩ := ahead.pools _ p hp
    exact ⟨p', hp'⟩
  · exact fun gone => (retired gone).imp_left ahead.terminated

/-- A view after a grant to its session is opened, or it was there before; both are at the generation of the grant. -/
theorem granted_cases {v : Option GatewayPoolView} {w : GatewayPoolView} {pool : ManagedPool}
    {accepting : Bool} {id : String} (h : grantedView accepting pool id v = some w) :
    w.deliveredGeneration = pool.generation ∧
      (w.retired = false ∧ w.acknowledgedGeneration = 0 ∨ ∃ old, v = some old ∧
        w = { old with deliveredGeneration := pool.generation }) := by
  unfold grantedView at h
  split at h
  · rename_i old
    cases h
    exact ⟨rfl, .inr ⟨old, rfl, rfl⟩⟩
  · split at h
    · cases h
      exact ⟨rfl, .inl ⟨rfl, rfl⟩⟩
    · cases h

theorem Exchange.Sound.granted {now : Int} {nonce token id : String} {identity : Option GatewayIdentity}
    {row : GatewaySession} {g : TrafficSnapshot} (h : e.Sound env)
    (snapshot : Snapshot env now nonce token id identity row g e.plane s') (ahead : Ahead e.plane s')
    (reachable : Reachable env s') : Exchange.Sound env { e with plane := s', granted := g :: e.granted } := by
  have session : g.sessionId = id := by rw [snapshot.answer]
  have sequence : g.sequence = row.sequence + 1 := by rw [snapshot.answer]
  have later : ∀ earlier ∈ e.granted, g.sessionId = earlier.sessionId → earlier.sequence < g.sequence :=
    fun earlier he => snapshot_later snapshot (h.offered earlier he)
  have more : e.granted ⊆ g :: e.granted := List.subset_cons_self ..
  refine ⟨reachable, ?_, List.pairwise_cons.2 ⟨later, h.ordered⟩, fun k => (h.fed k).grow more, h.heard, ?_⟩
  · exact List.forall_mem_cons.2 ⟨snapshot_offered snapshot, fun g hg => (h.offered g hg).ahead ahead⟩
  intro v' hv'
  have found : s'.views.get? (v'.poolId, v'.sessionId) = some v' := Table.get?_of_mem hv'
  rw [snapshot.views] at found
  by_cases own : v'.sessionId = id
  swap
  · rw [if_neg own] at found
    refine (h.recorded v' (Table.get?_mem found)).elsewhere ahead ?_ more
    rw [snapshot.sessions, if_neg (Ne.symm own)]
  rw [if_pos own] at found
  cases known : e.plane.pools.get? v'.poolId with
  | none =>
    -- the pool of a view is there
    rw [known] at found
    obtain ⟨p, hp⟩ := (h.recorded v' (Table.get?_mem found)).pool
    rw [known] at hp
    cases hp
  | some pool =>
    rw [known] at found
    obtain ⟨generation, shape⟩ := granted_cases found
    have delivered : ∃ row, s'.sessions.get? v'.sessionId = some row ∧
      ∃ g' ∈ g :: e.granted, g'.sessionId = v'.sessionId ∧
        g'.sequence = row.sequence ∧ ∃ c ∈ g'.pools, c.id = v'.poolId ∧ c.generation = v'.deliveredGeneration := by
      refine ⟨row.delivered now (row.sequence + 1) nonce, ?_, g, List.mem_cons_self ..,
        session.trans own.symm, sequence, pool.control now (identityReady env row) e.plane.clusters.rows, ?_,
          Table.get?_key known, generation.symm⟩
      · rw [snapshot.sessions, if_pos own.symm]
      · rw [snapshot.answer]
        exact List.mem_map.2 ⟨pool, (e.plane.listed_spec.1 pool).2 (Table.get?_mem known), rfl⟩
    refine ⟨?_, delivered, ?_, ?_⟩
    · obtain ⟨p', hp', -⟩ := ahead.pools _ pool known
      exact ⟨p', hp'⟩
    · intro gone
      rcases shape with ⟨live, -⟩ | ⟨old, hold, rfl⟩
      · rw [live] at gone
        cases gone
      · exact ((h.recorded old (Table.get?_mem hold)).retired gone).imp_left ahead.terminated
    · intro live idle positive
      rcases shape with ⟨-, fresh⟩ | ⟨old, hold, rfl⟩
      · omega
      · exact (h.recorded old (Table.get?_mem hold)).acknowledged live idle positive

theorem Exchange.Sound.grant (h : e.Sound env) (wallAt now : Int) (nonce token id : String)
    (identity : Option GatewayIdentity) :
    (e.step env (.grant wallAt now nonce token id identity)).Sound env := by
  have ran : (Tx.commit (Fleet.trafficSnapshot env wallAt now nonce token id identity) e.plane).2 =
      (Fleet.Op.trafficSnapshot wallAt now nonce token id identity).run env e.plane := rfl
  have ahead := run_ahead (.trafficSnapshot wallAt now nonce token id identity) h.reachable
  have reachable := h.reachable.run env (.trafficSnapshot wallAt now nonce token id identity)
  rw [← ran] at ahead reachable
  unfold Exchange.step
  dsimp only
  rcases Tx.commit_cases (Fleet.trafficSnapshot env wallAt now nonce token id identity) e.plane with
    ⟨g, s', ok, committed⟩ | ⟨_, -, failed⟩
  · rw [committed] at ahead reachable ⊢
    obtain ⟨row, snapshot⟩ := trafficSnapshot_ok ok
    exact h.granted snapshot ahead reachable
  · rw [failed]
    exact h

/-! ## Reports -/

theorem wellFormed_zeros {report : TrafficReport} (h : report.wellFormed env = true) (closed : report.closed = true) :
    ∀ p ∈ report.active, p.2 = 0 := by
  unfold TrafficReport.wellFormed at h
  simp only [Bool.and_eq_true, List.all_eq_true] at h
  intro p hp
  have zero := (h.2 p hp).2
  rw [closed] at zero
  simpa using zero

/-- A report that is taken for a session says of its gate what the control plane records. -/
theorem Exchange.Sound.acked {now : Int} {report : TrafficReport} {row : GatewaySession} (h : e.Sound env)
    (sent : report ∈ e.sent) (acked : Acked env now report row e.plane s') (ahead : Ahead e.plane s')
    (reachable : Reachable env s') :
    Exchange.Sound env { e with plane := s' } := by
  refine ⟨reachable, fun g hg => (h.offered g hg).ahead ahead, h.ordered, h.fed, h.heard, ?_⟩
  have keyed : row.id = report.sessionId := Table.get?_key acked.session
  have sessions (k : String) : s'.sessions.get? k =
      if row.id = k then some { row with closed := report.closed, reported := some report }
        else e.plane.sessions.get? k := by
    rw [acked.tables]
    exact Table.get?_put_at (r := { row with closed := report.closed, reported := some report }) rfl
      (keyed ▸ acked.session) k
  intro v' hv'
  have found : s'.views.get? (v'.poolId, v'.sessionId) = some v' := Table.get?_of_mem hv'
  rw [acked.views] at found
  by_cases own : v'.sessionId = report.sessionId
  swap
  · rw [if_neg own] at found
    refine (h.recorded v' (Table.get?_mem found)).elsewhere ahead ?_ fun _ hg => hg
    rw [sessions, if_neg fun same => own (same.symm.trans keyed)]
  rw [if_pos own] at found
  obtain ⟨v, hv, shape⟩ := Option.map_eq_some_iff.1 found
  obtain ⟨n, counted⟩ := acked.complete _ v (own ▸ hv)
  obtain ⟨pool, participant⟩ := Prod.mk.inj (Table.get?_key hv : (v.poolId, v.sessionId) = (v'.poolId, v'.sessionId))
  rw [counted] at shape
  rw [← pool] at counted
  rw [← participant] at own
  subst shape
  obtain ⟨known, ⟨row', hrow', g, hg, session, sequence, c, hc, hid, generation⟩, -, -⟩ :=
    h.recorded v (Table.get?_mem hv)
  have same : row' = row := Option.some.inj (hrow'.symm.trans (own ▸ acked.session))
  obtain ⟨grant, installed, sequence', past⟩ := (h.heard report sent).idle
  constructor
  · obtain ⟨p, hp⟩ := known
    obtain ⟨p', hp', -⟩ := ahead.pools _ p hp
    exact ⟨p', hp'⟩
  · refine ⟨_, (sessions _).trans (if_pos (keyed.trans own.symm)), g, hg, session, ?_, c, hc, hid, generation⟩
    rw [sequence, same]
  · intro closed
    right
    show (e.gates v.sessionId).Silent
    rw [own]
    exact (h.heard report sent).closed closed (wellFormed_zeros acked.counts closed)
  · intro live idle positive
    have none : n = 0 := by simpa [GatewayPoolView.acked] using idle
    -- the report answers the last grant of the session, which is the one the view is at
    obtain ⟨offered, issued⟩ := (h.fed report.sessionId).installed grant installed
    have answered : grant = g := by
      apply h.unique offered hg
      · rw [issued, session]
        exact own.symm
      · rw [sequence', sequence, same]
        exact acked.current.1.symm
    have fenced := past c (answered ▸ hc) (by rw [hid, ← none]; exact counted)
    rw [hid, generation] at fenced
    show (e.gates v.sessionId).Past v.poolId v.deliveredGeneration
    rw [own]
    exact fenced

theorem Exchange.Sound.deliver (h : e.Sound env) {report : TrafficReport} (sent : report ∈ e.sent) (now : Int) :
    Exchange.Sound env { e with plane := (Fleet.Op.trafficReport now report).run env e.plane } := by
  have ran : (Tx.commit (Fleet.trafficReport env now report) e.plane).2 =
    (Fleet.Op.trafficReport now report).run env e.plane := rfl
  have ahead := run_ahead (.trafficReport now report) h.reachable
  have reachable := h.reachable.run env (.trafficReport now report)
  rw [← ran] at ahead reachable ⊢
  rcases Tx.commit_cases (Fleet.trafficReport env now report) e.plane with ⟨a, s', ok, committed⟩ | ⟨_, -, failed⟩
  · rw [committed] at ahead reachable ⊢
    rcases trafficReport_ok ok with same | ⟨row, acked⟩
    · -- a duplicate
      obtain rfl : s' = e.plane := same
      exact h
    · exact h.acked sent acked ahead reachable
  · rw [failed]
    exact h

/-! ## Runs -/

theorem Exchange.Sound.step (h : e.Sound env) (event : Event) : (e.step env event).Sound env := by
  cases event with
  | control op => exact h.control op.1 op.2
  | grant wallAt now nonce token id identity => exact h.grant wallAt now nonce token id identity
  | install id n fetchedAt =>
    rcases e.step_install id n fetchedAt with same | ⟨grant, offered, installs⟩
    · rw [same]
      exact h
    · rw [installs]
      refine h.at id (.install grant fetchedAt) ?_
      rintro _ _ ⟨⟩
      exact offered
  | enter id pool generation now => exact h.at id (.enter pool generation now) nofun
  | leave id permit => exact h.at id (.leave permit) nofun
  | close id => exact h.at id .close nofun
  | send id => exact h.send id
  | deliver n now =>
    rcases e.step_deliver n now with same | ⟨report, sent, delivers⟩
    · rw [same]
      exact h
    · rw [delivers]
      exact h.deliver sent now

theorem Exchange.Sound.run (h : e.Sound env) (events : List Event) : (e.run env events).Sound env := by
  induction events generalizing e with
  | nil => exact h
  | cons event rest ih => exact ih (h.step event)

/-- An event leaves the control plane, or it is an operation there. -/
theorem Exchange.step_plane (env : Fleet.Env) (e : Exchange) (event : Event) :
    (e.step env event).plane = e.plane ∨ ∃ op : Fleet.Op, (e.step env event).plane = op.run env e.plane := by
  cases event with
  | control op => exact .inr ⟨op.1, rfl⟩
  | grant wallAt now nonce token id identity => exact .inr ⟨.trafficSnapshot wallAt now nonce token id identity, rfl⟩
  | install id n fetchedAt =>
    rcases e.step_install id n fetchedAt with same | ⟨grant, -, installs⟩
    · exact .inl (by rw [same])
    · exact .inl (by rw [installs]; rfl)
  | deliver n now =>
    rcases e.step_deliver n now with same | ⟨report, -, delivers⟩
    · exact .inl (by rw [same])
    · exact .inr ⟨.trafficReport now report, by rw [delivers]⟩
  | _ => exact .inl rfl

theorem Exchange.step_ahead (h : e.Sound env) (event : Event) : Ahead e.plane (e.step env event).plane := by
  rcases e.step_plane env event with same | ⟨op, ran⟩
  · rw [same]
    exact .refl e.plane
  · rw [ran]
    exact run_ahead op h.reachable

/-- What the operations of the gates keep, an event keeps. -/
theorem Exchange.step_gates {P : Gate → Prop} (keeps : ∀ (op : GateOp) (g : Gate), P g → P (g.step env op)) {k : String}
    (h : P (e.gates k)) (event : Event) : P ((e.step env event).gates k) := by
  cases event with
  | install id n fetchedAt =>
    rcases e.step_install id n fetchedAt with same | ⟨grant, -, installs⟩
    · rw [same]
      exact h
    · rw [installs]
      exact Exchange.at_gates h (keeps _)
  | enter id pool generation now => exact Exchange.at_gates h (keeps _)
  | leave id permit => exact Exchange.at_gates h (keeps _)
  | close id => exact Exchange.at_gates h (keeps _)
  | deliver n now =>
    rcases e.step_deliver n now with same | ⟨report, -, delivers⟩
    · rw [same]
      exact h
    · rw [delivers]
      exact h
  | _ => exact h

theorem Exchange.run_gates {P : Gate → Prop} (keeps : ∀ (op : GateOp) (g : Gate), P g → P (g.step env op)) {k : String}
    (events : List Event) : ∀ {e : Exchange}, P (e.gates k) → P ((e.run env events).gates k) := by
  induction events with
  | nil => exact fun h => h
  | cons event rest ih => exact fun h => ih (Exchange.step_gates keeps h event)

/-- An event that grants changes no pool, and what it accepts is active. -/
theorem Exchange.step_granted (env : Fleet.Env) (e : Exchange) (event : Event) :
    (e.step env event).granted = e.granted ∨
      ∃ g, (e.step env event).granted = g :: e.granted ∧ (e.step env event).plane.pools = e.plane.pools ∧
        ∀ c ∈ g.pools, ∃ p, e.plane.pools.get? c.id = some p ∧ c.generation = p.generation ∧
          (c.accepting = true → p.state = .active) := by
  cases event with
  | grant wallAt now nonce token id identity =>
    unfold Exchange.step
    dsimp only
    rcases Tx.commit_cases (Fleet.trafficSnapshot env wallAt now nonce token id identity) e.plane with
      ⟨g, s', ok, committed⟩ | ⟨_, -, failed⟩
    · rw [committed]
      obtain ⟨row, snapshot⟩ := trafficSnapshot_ok ok
      have tables : s' = { e.plane with sessions := s'.sessions, views := s'.views, grants := s'.grants } :=
        snapshot.tables
      refine .inr ⟨g, rfl, ?_, fun c hc => snapshot_control snapshot hc⟩
      show s'.pools = e.plane.pools
      rw [tables]
    · rw [failed]
      exact .inl rfl
  | install id n fetchedAt =>
    rcases e.step_install id n fetchedAt with same | ⟨grant, -, installs⟩
    · exact .inl (by rw [same])
    · exact .inl (by rw [installs]; rfl)
  | deliver n now =>
    rcases e.step_deliver n now with same | ⟨report, -, delivers⟩
    · exact .inl (by rw [same])
    · exact .inl (by rw [delivers])
  | _ => exact .inl rfl

/-! ## Drained pools -/

/-- From a drained pool on, a grant accepts the pool at a later generation only. -/
theorem Exchange.run_granted {id : String} {p : ManagedPool} (drained : p.state = .drained) (events : List Event) :
    ∀ {e : Exchange}, e.Sound env → (∃ q, e.plane.pools.get? id = some q ∧ Fleet.Advances p q) →
      ∃ newer, (e.run env events).granted = newer ++ e.granted ∧
        ∀ g ∈ newer, ∀ c ∈ g.pools, c.id = id → c.accepting = true → p.generation < c.generation := by
  induction events with
  | nil => exact fun _ _ => ⟨[], rfl, fun _ h => absurd h List.not_mem_nil⟩
  | cons event rest ih =>
    intro e sound found
    obtain ⟨q, hq, advances⟩ := found
    obtain ⟨q', hq', advances'⟩ := (Exchange.step_ahead sound event).pools id q hq
    obtain ⟨newer, granted, fresh⟩ := ih (sound.step event) ⟨q', hq', advances.trans advances'⟩
    rcases e.step_granted env event with same | ⟨g, grants, -, controls⟩
    · exact ⟨newer, granted.trans (by rw [same]), fresh⟩
    · refine ⟨newer ++ [g], ?_, fun g' hg' c hc own accepting => ?_⟩
      · rw [List.append_assoc]
        exact granted.trans (by rw [grants]; rfl)
      rcases List.mem_append.1 hg' with later | now
      · exact fresh g' later c hc own accepting
      -- the pool has been opened since it was drained
      · obtain rfl := List.mem_singleton.1 now
        obtain ⟨pool, known, generation, active⟩ := controls c hc
        rw [own, hq] at known
        cases known
        have opened := active accepting
        rcases advances.state (by rw [opened, drained]; decide) with newer | ⟨draining, -⟩
        · omega
        · rw [drained] at draining
          cases draining

/-- Where a drain was confirmed, no permit of a gateway that is not proven terminated is from a grant of before. -/
theorem Exchange.Sound.fenced {after : Exchange} (h : e.Sound env) (sound : after.Sound env) {p : ManagedPool}
    (found : e.plane.pools.get? p.id = some p) (closed : p.state = .draining)
    (idle : after.plane.Idle p.id p.generation) (granted : after.granted = e.granted) {gateway : String}
    (live : ¬Terminated after.plane gateway) (events : List Event) {permit : Permit}
    (held : permit ∈ ((after.run env events).gates gateway).permits) {g : TrafficSnapshot} (hg : g ∈ after.granted)
    (own : g.sessionId = gateway) {c : PoolControl} (hc : c ∈ g.pools) (pool : c.id = p.id)
    (accepting : c.accepting = true) (taken : c.generation = permit.generation) (on : permit.pool = p.id) : False := by
  obtain ⟨v, hv⟩ := (sound.offered g hg).exposed c hc accepting
  obtain ⟨same, session⟩ := Prod.mk.inj (Table.get?_key hv : (v.poolId, v.sessionId) = (c.id, g.sessionId))
  have recorded := sound.recorded v (Table.get?_mem hv)
  have participant : v ∈ after.plane.viewsOf p.id := List.mem_filter.2 ⟨Table.get?_mem hv, by simp [same, pool]⟩
  obtain ⟨none, answered⟩ := idle v participant
  by_cases gone : v.retired = true
  · rcases recorded.retired gone with terminated | silent
    · rw [session, own] at terminated
      exact live terminated
    · rw [session, own] at silent
      have later : ((after.run env events).gates gateway).Silent :=
        Exchange.run_gates (P := Gate.Silent) (fun op g h => Gate.step_silent h op) events silent
      rw [later.permits] at held
      cases held
  · have reached : p.generation ≤ v.acknowledgedGeneration := answered.resolve_left gone
    have positive := reachable_positive h.reachable p (Table.get?_mem found)
    have past := recorded.acknowledged (Bool.not_eq_true _ ▸ gone) none (by omega)
    rw [session, own, same, pool] at past
    have later : ((after.run env events).gates gateway).Past p.id v.acknowledgedGeneration :=
      Exchange.run_gates (P := fun g => g.Past p.id v.acknowledgedGeneration)
        (fun op g h => Gate.step_past h op) events past
    have since := later.permits permit held on
    -- before the event the pool was draining, so no grant accepts it at its generation
    obtain ⟨q, known, le, active⟩ := (h.offered g (granted ▸ hg)).pools c hc
    rw [pool, found] at known
    cases known
    have opened := active accepting (by omega)
    rw [closed] at opened
    cases opened

/-- A pool that becomes drained was draining, its drain is confirmed by the event, and the event grants nothing. -/
theorem Exchange.step_drained (h : e.Sound env) (event : Event) {id : String} {p' : ManagedPool}
    (fresh : ∀ p, e.plane.pools.get? id = some p → p.state ≠ .drained)
    (found' : (e.step env event).plane.pools.get? id = some p') (drained : p'.state = .drained) :
    (e.step env event).granted = e.granted ∧ ∃ p, e.plane.pools.get? id = some p ∧ p.state = .draining ∧
      (e.step env event).plane.Idle p.id p.generation := by
  constructor
  · rcases e.step_granted env event with same | ⟨g, -, pools, -⟩
    · exact same
    · rw [pools] at found'
      exact absurd drained (fresh p' found')
  · have ahead := Exchange.step_ahead h event
    rcases e.step_plane env event with same | ⟨op, ran⟩
    · rw [same] at found'
      exact absurd drained (fresh p' found')
    · rw [ran] at found' ahead ⊢
      obtain ⟨p, found, before⟩ := op.run_drained found' (.inl drained)
      refine ⟨p, found, ?_⟩
      rcases before with was | confirms
      · obtain ⟨q, hq, advances⟩ := ahead.pools id p found
        cases Option.some.inj (found'.symm.trans hq)
        have retired := advances.retired (was.resolve_left (fresh p found))
        rw [drained] at retired
        cases retired
      · exact confirms

/-- In every run of the control plane and any number of gateways, whichever answers and reports are lost, late,
repeated or stale: at the event that drains a pool, by the end of its drain or by a decrease, no gateway has a
permit on the pool unless it is proven terminated, and from then on such a gateway gets one only by a later
grant to it that accepts the pool at a later generation. -/
theorem Exchange.run_quiesces (env : Fleet.Env) (before : List Event) (event : Event) (after : List Event) :
    let e := Exchange.start.run env before
    let drained := e.step env event
    let later := drained.run env after
    ∀ id p', (∀ p, e.plane.pools.get? id = some p → p.state ≠ .drained) → drained.plane.pools.get? id = some p' →
      p'.state = .drained →
      (∀ gateway, ¬Terminated drained.plane gateway → (drained.gates gateway).live id = 0) ∧
      ∃ newer, later.granted = newer ++ drained.granted ∧
        ∀ gateway, ¬Terminated drained.plane gateway → ∀ permit ∈ (later.gates gateway).permits, permit.pool = id →
          ∃ g ∈ newer, g.sessionId = gateway ∧ ∃ c ∈ g.pools, c.id = id ∧ c.accepting = true ∧
            c.generation = permit.generation ∧
            p'.generation < c.generation := by
  intro e drained later id p' fresh found' closed
  have sound : e.Sound env := Exchange.start_sound.run before
  have sound' : drained.Sound env := sound.step event
  obtain ⟨granted, p, found, draining, idle⟩ := Exchange.step_drained sound event fresh found' closed
  obtain rfl : p.id = id := Table.get?_key found
  constructor
  · intro gateway live
    refine List.countP_eq_zero.2 fun permit held on => ?_
    have on : permit.pool = p.id := of_decide_eq_true on
    obtain ⟨g, installed, c, hc, same, accepting, taken⟩ := (sound'.fed gateway).permits permit held
    obtain ⟨hg, own⟩ := (sound'.fed gateway).installed g installed
    exact sound.fenced sound' found draining idle granted live [] held hg own hc (same.trans on) accepting taken on
  · obtain ⟨newer, grants, opened⟩ := Exchange.run_granted closed after sound' ⟨p', found', .refl p'⟩
    refine ⟨newer, grants, fun gateway live permit held on => ?_⟩
    have fed := (sound'.run after).fed gateway
    obtain ⟨g, installed, c, hc, same, accepting, taken⟩ := fed.permits permit held
    obtain ⟨hg, own⟩ := fed.installed g installed
    rw [grants] at hg
    rcases List.mem_append.1 hg with new | old
    · exact ⟨g, new, own, c, hc, same.trans on, accepting, taken, opened g new c hc (same.trans on) accepting⟩
    · exact (sound.fenced sound' found draining idle granted live after held old own hc
        (same.trans on) accepting taken on).elim

/-! ## A run -/

/-- A gateway has a request in flight when its pool is drained; the grant of the drain, and the report that
counts no request, come after it. -/
def exchangedRun : List Event :=
  [.control ⟨.registerCluster 0 "key" ⟨"c", "ns", 30⟩, rfl⟩,
    .control ⟨.putDesired 0 "admin" "c" ⟨0, [⟨"d", some (droppedSpec 2), none, none⟩]⟩, rfl⟩,
    .control ⟨.pollDelivery 0 0 "lease" "c" "key", rfl⟩,
      .control ⟨.reportDelivery 0 0 "c" "key" ⟨1, "", "lease", .applied, none⟩, rfl⟩,
    .control ⟨.writeCatalog ((Table.empty.insert? ⟨"xscope-demo", 1, true, none, .default⟩).getD .empty) .empty, rfl⟩,
    .control ⟨.bindPool 0 "managed-p" ⟨2, false, "c", "d", "svc", "svc:80", false, "", 1⟩ [], rfl⟩,
    .control ⟨.observationTasks 0 0 (fun _ => "nonce") "c" "key", rfl⟩,
    .control ⟨.observePool 0 0 "c" "key" ⟨none, 2, none, false, "managed-p", 1, "nonce", some "uid", true, .ok⟩, rfl⟩,
    .grant 0 0 "first" "token" "g" none, .install "g" 0 0, .enter "g" "managed-p" 2 0,
    .control ⟨.poolTransition 0 "managed-p" 2 "drain", rfl⟩, .grant 0 0 "second" "other" "g" none, .install "g" 0 0,
    .leave "g" ⟨"managed-p", 2⟩, .send "g", .deliver 0 0]

/-- The pool is opened again, and the gateway is granted it. -/
def reopenedRun : List Event :=
  [.control ⟨.poolTransition 0 "managed-p" 3 "activate", rfl⟩,
    .control ⟨.observationTasks 0 0 (fun _ => "again") "c" "key", rfl⟩, .control
      ⟨.observePool 0 0 "c" "key" ⟨none, 2, none, false, "managed-p", 4, "again", some "uid", true, .ok⟩, rfl⟩,
    .grant 0 0 "third" "last" "g" none, .install "g" 0 0, .enter "g" "managed-p" 4 0]

/-- The request that the gateway lets in after the drain is under a later generation than the drained one. -/
theorem sample_exchanged :
    let e := Exchange.start.run droppedEnv exchangedRun
    let drained := e.step droppedEnv (.control ⟨.poolTransition 0 "managed-p" 3 "finish-drain", rfl⟩)
    (drained.gates "g").live "managed-p" = 0 ∧ ((drained.run droppedEnv reopenedRun).gates "g").permits =
      [⟨"managed-p", 4⟩] ∧
      ∃ g ∈ (drained.run droppedEnv reopenedRun).granted, g ∉ drained.granted ∧ ∃ c ∈ g.pools, c.id = "managed-p" ∧
        3 < c.generation := by
  intro e drained
  have facts : (e.plane.pools.get? "managed-p").all (fun p => decide (p.state ≠ .drained)) = true ∧
      (drained.plane.pools.get? "managed-p").any (fun p => decide (p.state = .drained ∧ p.generation = 3)) = true ∧
      (drained.plane.sessions.get? "g").all (fun row => row.proof.isNone) = true ∧
      ((drained.run droppedEnv reopenedRun).gates "g").permits = [⟨"managed-p", 4⟩] ∧
      (∀ g ∈ drained.granted, ∀ c ∈ g.pools, c.generation ≤ 3) := by
    decide +kernel
  obtain ⟨before, after, session, held, past⟩ := facts
  obtain ⟨p', found', pool⟩ := (Option.any_eq_true _ _).1 after
  obtain ⟨closed, generation⟩ := of_decide_eq_true pool
  have fresh : ∀ p, e.plane.pools.get? "managed-p" = some p → p.state ≠ .drained := by
    intro p hp
    rw [hp] at before
    exact of_decide_eq_true before
  have live : ¬Terminated drained.plane "g" := by
    rintro ⟨row, found, proved⟩
    rw [found] at session
    cases proof : row.proof with
    | none => rw [proof] at proved; cases proved
    | some evidence => rw [Option.all_some, proof] at session; cases session
  obtain ⟨idle, newer, grants, opened⟩ := Exchange.run_quiesces droppedEnv exchangedRun
    (.control ⟨.poolTransition 0 "managed-p" 3 "finish-drain", rfl⟩) reopenedRun "managed-p" p' fresh found' closed
  obtain ⟨g, new, -, c, hc, own, -, -, later⟩ :=
    opened "g" live ⟨"managed-p", 4⟩ (by rw [held]; exact List.mem_cons_self ..) rfl
  refine ⟨idle "g" live, held, g, ?_, fun old => ?_, c, hc, own, generation ▸ later⟩
  · rw [show (drained.run droppedEnv reopenedRun).granted = newer ++ drained.granted from grants]
    exact List.mem_append_left _ new
  · have := past g old c hc
    omega

end Xscope.Serving

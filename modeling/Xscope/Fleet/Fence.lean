/-
The termination fence. Unknown work of a terminated gateway is cleared by idle evidence only, for
a draining pool and with a fence no earlier than any termination it covers; a closed session never
opens again, and nothing it sends changes what is recorded of it.
-/
import Xscope.Fleet.Rows

namespace Xscope.Fleet

variable {env : Env} {s s' : State} {op : Op}

/-! ## The invariant -/

/-- Unknown work belongs to closed sessions with a termination proof, a proof closes its session, and
what a grant lets in is recorded as exposed to its session. -/
structure Fenced (s : State) : Prop where
  orphaned : ∀ v ∈ s.views, v.activeRequests < 0 → v.retired = true ∧
    ∃ row, s.sessions.get? v.sessionId = some row ∧ row.closed = true ∧ row.proof.isSome
  terminated : ∀ row ∈ s.sessions, row.proof.isSome → row.closed = true
  granted : ∀ g ∈ s.grants, ∀ p ∈ g.pools, ∃ v, s.views.get? (p.1, g.sessionId) = some v

theorem Fenced.empty : Fenced State.empty :=
  ⟨fun _ h => absurd h (Table.not_mem_empty _), fun _ h => absurd h (Table.not_mem_empty _),
    fun _ h => absurd h (Table.not_mem_empty _)⟩

theorem Fenced.move (f : Fenced s) (m : Move env op s s') : Fenced s' := by
  refine ⟨fun v hv negative => ?_, fun row hr proved => ?_, fun g hg p hp => ?_⟩
  · have found' := Table.get?_of_mem hv
    cases hold : s.views.get? (key v) with
    | none =>
      obtain ⟨pool, sessionId, -, rfl⟩ := m.views.fresh _ v found' hold
      cases negative
    | some old =>
      obtain ⟨v', h', step⟩ := m.views.kept _ old hold
      cases Option.some.inj (found'.symm.trans h')
      -- a view keeps its fence while it keeps its requests and its session
      have kept : v.activeRequests = old.activeRequests → v.retired = old.retired → v.sessionId = old.sessionId →
          v.retired = true ∧ ∃ row, s'.sessions.get? v.sessionId = some row ∧ row.closed = true ∧ row.proof.isSome := by
        intro same retired session
        obtain ⟨hr, row, hrow, closed, proved⟩ := f.orphaned old (Table.get?_mem hold) (same ▸ negative)
        obtain ⟨row', hrow', closed', proof⟩ := m.session_stays hrow closed
        exact ⟨retired.trans hr, row', session ▸ hrow', closed', by rw [proof]; exact proved⟩
      rcases step with rfl | step
      · exact kept rfl rfl rfl
      · cases step with
        | granted => exact kept rfl rfl rfl
        | acked =>
          simp only [GatewayPoolView.acked] at negative
          omega
        | orphaned session opened after => exact ⟨rfl, _, after, rfl, rfl⟩
        | settled => cases negative
  · have found' := Table.get?_of_mem hr
    cases hold : s.sessions.get? (key row) with
    | none =>
      rw [(m.sessions.fresh _ row found' hold).2.1] at proved
      cases proved
    | some old =>
      obtain ⟨row', h', step⟩ := m.sessions.kept _ old hold
      cases Option.some.inj (found'.symm.trans h')
      have closes := f.terminated old (Table.get?_mem hold)
      rcases step with rfl | step
      · exact closes proved
      · cases step with
        | delivered => exact closes proved
        | reported _ opened =>
          -- a session with a proof is closed, and reports no more
          have closed : old.closed = true := closes proved
          rw [opened] at closed
          cases closed
        | tasked => exact closes proved
        | attested step =>
          rw [step] at proved ⊢
          exact closes proved
        | terminated => rfl
        | unbound => rfl
  · rcases m.grants g hg with old | exposed
    · obtain ⟨v, hv⟩ := f.granted g old p hp
      obtain ⟨v', hv', -⟩ := m.views.kept _ v hv
      exact ⟨v', hv'⟩
    · exact exposed p hp

theorem Reachable.fenced (h : Reachable env s) : Fenced s := h.invariant .empty fun m f => f.move m

/-! ## Closed sessions -/

theorem Moves.session_stays (m : Moves env op s s') {id : String} {row : GatewaySession}
    (h : s.sessions.get? id = some row) (closed : row.closed = true) :
    ∃ row', s'.sessions.get? id = some row' ∧ row'.closed = true ∧ row'.proof = row.proof := by
  induction m with
  | refl => exact ⟨row, h, closed, rfl⟩
  | tail _ move ih =>
    obtain ⟨row₁, h₁, closed₁, proof₁⟩ := ih
    obtain ⟨row₂, h₂, closed₂, proof₂⟩ := move.session_stays h₁ closed₁
    exact ⟨row₂, h₂, closed₂, proof₂.trans proof₁⟩

theorem Op.runAll_session_stays (ops : List Op) {id : String} :
    ∀ {s : State} {row : GatewaySession}, s.sessions.get? id = some row →
    row.closed = true → ∃ row', (Op.runAll env ops s).sessions.get? id = some row' ∧ row'.closed = true ∧
      row'.proof = row.proof := by
  induction ops with
  | nil => exact fun h closed => ⟨_, h, closed, rfl⟩
  | cons op ops ih =>
    intro s row h closed
    obtain ⟨row₁, h₁, closed₁, proof₁⟩ := (op.run_moves s).session_stays h closed
    obtain ⟨row₂, h₂, closed₂, proof₂⟩ := ih h₁ closed₁
    exact ⟨row₂, h₂, closed₂, proof₂.trans proof₁⟩

/-- A closed session gets no snapshot. -/
theorem trafficSnapshot_closed {wallAt now : Int} {nonce token id : String} {identity : Option GatewayIdentity}
    {row : GatewaySession} (h : s.sessions.get? id = some row) (closed : row.closed = true) :
    (Op.trafficSnapshot wallAt now nonce token id identity).run env s = s := by
  rcases Tx.commit_cases (Fleet.trafficSnapshot env wallAt now nonce token id identity) s with
    ⟨a, t, hx, -⟩ | ⟨e, -, hc⟩
  · obtain ⟨row', snapshot⟩ := trafficSnapshot_ok hx
    have opened := snapshot.opened
    rcases snapshot.session with found | ⟨missing, -⟩
    · rw [h] at found
      cases found
      rw [closed] at opened
      cases opened
    · rw [h] at missing; cases missing
  · exact congrArg Prod.snd hc

/-- The report of a closed session is a duplicate of its last one, or it is refused. -/
theorem trafficReport_closed {now : Int} {report : TrafficReport} {row : GatewaySession}
    (h : s.sessions.get? report.sessionId = some row) (closed : row.closed = true) :
    (Op.trafficReport now report).run env s = s := by
  rcases Tx.commit_cases (Fleet.trafficReport env now report) s with ⟨a, t, hx, hc⟩ | ⟨e, -, hc⟩
  · rcases trafficReport_ok hx with same | ⟨row', acked⟩
    · exact (congrArg Prod.snd hc).trans same
    · have opened := acked.opened
      cases Option.some.inj (h.symm.trans acked.session)
      rw [closed] at opened
      cases opened
  · exact congrArg Prod.snd hc

/-! ## Unknown work -/

/-- Only observations change the views of a closed session. -/
theorem Moves.view_stays (m : Moves env op s s')
    (other : ∀ authAt now id token report, op ≠ .observePool authAt now id token report) {v : GatewayPoolView}
    (h : s.views.get? (key v) = some v) {row : GatewaySession} (session : s.sessions.get? v.sessionId = some row)
    (closed : row.closed = true) : s'.views.get? (key v) = some v := by
  suffices hs : s'.views.get? (key v) = some v ∧ ∃ row, s'.sessions.get? v.sessionId = some row ∧
    row.closed = true from hs.1
  induction m with
  | refl => exact ⟨h, row, session, closed⟩
  | tail _ move ih =>
    obtain ⟨hv, row₁, h₁, closed₁⟩ := ih
    obtain ⟨row₂, h₂, closed₂, -⟩ := move.session_stays h₁ closed₁
    refine ⟨?_, row₂, h₂, closed₂⟩
    obtain ⟨v', hv', step⟩ := move.views.kept _ v hv
    rcases step with rfl | step
    · exact hv'
    · cases step with
      | granted opened => rw [opened row₁ h₁] at closed₁; cases closed₁
      | acked _ session opened =>
        rw [h₁] at session
        cases session
        rw [opened] at closed₁
        cases closed₁
      | orphaned session opened =>
        rw [h₁] at session
        cases session
        rw [opened] at closed₁
        cases closed₁
      | settled => exact absurd rfl (other _ _ _ _ _)

/-- Idle evidence that was confirmed: of a draining pool behind a fenced entry, asked for with a fence
no earlier than the termination of any gateway with unknown work on the pool. -/
def Confirmed (s : State) (op : Op) (poolId : String) : Prop :=
  ∃ authAt now id token report pool t, op = .observePool authAt now id token report ∧ report.idle = true ∧
    report.poolId = poolId ∧ s.pools.get? poolId = some pool ∧ pool.state = .draining ∧
      pool.binding.trafficProtocol = 2 ∧
    report.idleAfter = some t ∧ pool.idleRequestedAfter = some t ∧
    ∀ v, s.Unresolved poolId v → ∃ u, s.terminatedAt v.sessionId = some u ∧ u ≤ t

/-- An observation changes the views by confirming its idle evidence only. -/
theorem observePool_views {authAt now : Int} {id token : String} {report : PoolObservation} {r : Observed × State}
    (h : observePool env authAt now id token report s = .ok r) :
    r.2.views = s.views ∨ r.2.views = (s.settle report.poolId).views ∧
      Confirmed s (.observePool authAt now id token report) report.poolId := by
  obtain ⟨cluster, row, ad, -, -, scaled⟩ := observePool_parts h
  have hid : row.id = report.poolId := Table.get?_key ad.found
  have views := scaled.views
  unfold State.confirm at views
  split at views
  · rename_i idle
    obtain ⟨closed, fenced⟩ := ad.confirmable idle
    obtain ⟨t, ht, asked, fence⟩ := ad.asked idle
    refine .inr ⟨by rw [views, hid]; rfl, authAt, now, id, token, report, row, t, rfl, idle, rfl, ad.found, closed,
      fenced, ht, asked, fun v hv => ?_⟩
    rw [← hid] at hv
    obtain ⟨u, t', hu, ht', le⟩ := (idleAfter_ok fence).2.1 v hv
    cases ht'
    exact ⟨u, hu, le⟩
  · exact .inl views

/-- Unknown work stays what it is under every operation that does not confirm idle evidence for it. -/
theorem unknown_work (f : Fenced s) (op : Op) {v : GatewayPoolView} (hv : v ∈ s.views)
    (unknown : v.activeRequests < 0) :
    (op.run env s).views.get? (key v) = some v ∨
      (op.run env s).views.get? (key v) = some { v with activeRequests := 0 } ∧ Confirmed s op v.poolId := by
  have h := Table.get?_of_mem hv
  obtain ⟨retired, row, session, closed, -⟩ := f.orphaned v hv unknown
  by_cases observation : ∃ authAt now id token report, op = .observePool authAt now id token report
  · obtain ⟨authAt, now, id, token, report, rfl⟩ := observation
    have run : (Op.observePool authAt now id token report).run env s =
      (Tx.commit (observePool env authAt now id token report) s).2 := rfl
    rw [run]
    rcases Tx.commit_cases (observePool env authAt now id token report) s with ⟨a, t, hx, hc⟩ | ⟨e, -, hc⟩
    · rw [hc]
      rcases observePool_views hx with same | ⟨settled, confirmed⟩
      · exact .inl (by rw [show t.views = s.views from same]; exact h)
      · have lookup : t.views.get? (key v) = some (v.settle report.poolId) := by
          rw [show t.views = (s.settle report.poolId).views from settled]
          unfold State.settle
          rw [Table.get?_mapRows, h]
          rfl
        unfold GatewayPoolView.settle at lookup
        split at lookup
        · rename_i own
          exact .inr ⟨lookup, by rw [own.1]; exact confirmed⟩
        · exact .inl lookup
    · rw [hc]; exact .inl h
  · exact .inl ((op.run_moves s).view_stays (fun a b c d e he => observation ⟨a, b, c, d, e, he⟩) h session closed)

/-! ## Serving -/

/-- What an authorised serving request was let in by. -/
def Authorized (env : Env) (s : State) (headers : ServingHeaders) : Prop :=
  ∃ sessionId token poolId grant session view pool, headers = ⟨some sessionId, some token, some poolId⟩ ∧
    s.grants.get? (env.sha256 token) = some grant ∧ grant.sessionId = sessionId ∧
    s.sessions.get? sessionId = some session ∧ session.closed = false ∧
    s.views.get? (poolId, sessionId) = some view ∧
    s.pools.get? poolId = some pool ∧ pool.state = .active ∧ grant.pools.lookup poolId = some pool.generation

theorem authorizeServing_authorized (f : Fenced s) {wallAt : Int} {headers : ServingHeaders} {r : Unit × State}
    (h : authorizeServing env wallAt headers s = .ok r) : Authorized env s headers := by
  unfold authorizeServing at h
  simp only [Tx.reject_bind, Tx.read_bind, Tx.expect_bind, Tx.reject_ok, not_or, not_not, ne_eq, Bool.not_eq_true] at h
  obtain ⟨sessionId, hs, token, ht, poolId, hp, -, grant, found, ⟨own, -⟩, session, live, ⟨opened, -⟩, pool,
    bound, granted, ⟨active, -⟩, -⟩ := h
  have mem : (poolId, pool.generation) ∈ grant.pools := by
    obtain ⟨before, after, split, -⟩ := List.lookup_eq_some_iff.1 granted
    rw [split]
    exact List.mem_append_right _ (List.mem_cons_self ..)
  obtain ⟨view, hview⟩ := f.granted grant (Table.get?_mem found) _ mem
  rw [own] at hview
  refine ⟨sessionId, token, poolId, grant, session, view, pool, ?_, found, own, live, opened, hview, bound,
    active, granted⟩
  rw [← hs, ← ht, ← hp]

/-- In every run: a serving request is let in only for an open session that is recorded as a
participant of the active pool at its generation; unknown work of a terminated gateway is cleared
by confirmed idle evidence only; and a closed session stays closed, whatever it still sends. -/
theorem Op.runAll_fence (env : Env) (before : List Op) :
    let s := Op.runAll env before State.empty
    (∀ wallAt headers r, Fleet.authorizeServing env wallAt headers s = .ok r → Authorized env s headers) ∧
      (∀ v ∈ s.views, v.activeRequests < 0 →
        (∃ row, s.sessions.get? v.sessionId = some row ∧ row.closed = true ∧ row.proof.isSome) ∧
        ∀ op : Op, (op.run env s).views.get? (key v) = some v ∨
          (op.run env s).views.get? (key v) = some { v with activeRequests := 0 } ∧ Confirmed s op v.poolId) ∧
      (∀ row ∈ s.sessions, row.proof.isSome → row.closed = true) ∧
      ∀ id row, s.sessions.get? id = some row → row.closed = true → ∀ after,
        let t := Op.runAll env after s
        (∃ row', t.sessions.get? id = some row' ∧ row'.closed = true ∧ row'.proof = row.proof) ∧
          (∀ wallAt now nonce token identity, (Op.trafficSnapshot wallAt now nonce token id identity).run env t = t) ∧
          ∀ now report, report.sessionId = id → (Op.trafficReport now report).run env t = t := by
  intro s
  have reachable : Reachable env s := ⟨before, rfl⟩
  have f := reachable.fenced
  refine ⟨fun wallAt headers r h => authorizeServing_authorized f h, fun v hv unknown => ⟨(f.orphaned v hv unknown).2,
    fun op => unknown_work f op hv unknown⟩, f.terminated, fun id row h closed after => ?_⟩
  obtain ⟨row', h', closed', proof⟩ := @Op.runAll_session_stays env after id s row h closed
  refine ⟨⟨row', h', closed', proof⟩, fun _ _ _ _ _ => trafficSnapshot_closed h' closed', fun now report own => ?_⟩
  subst own
  exact trafficReport_closed h' closed'

end Xscope.Fleet

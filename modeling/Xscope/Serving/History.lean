/-
The history of route policies. Puts and releases of many callers meet between their statements; what
is recorded of a policy stays, has no gaps, and ends at the policy that is served.
-/
import Xscope.Serving.Snapshots

namespace Xscope.Serving

open Fleet

/-! ## What is recorded -/

section Tables

variable {policies : Table RoutePolicyRow} {history : Table RouteRevision}

/-- The recorded revisions of each project and model have no gaps, and the last of them is the policy that is served. -/
structure Historic (policies : Table RoutePolicyRow) (history : Table RouteRevision) : Prop where
  contiguous : ∀ project model first last n, (∃ row, history.get? (project, model, first) = some row) →
    (∃ row, history.get? (project, model, last) = some row) → first ≤ n → n ≤ last →
      ∃ row, history.get? (project, model, n) = some row
  current : ∀ project model n row, history.get? (project, model, n) = some row →
    ∃ policy, policies.get? (project, model) = some policy ∧ n ≤ policy.revision ∧
      ∃ last, history.get? (project, model, policy.revision) = some last ∧ last.spec = policy.spec

/-- Recorded revisions stay as they are. -/
def Kept (history history' : Table RouteRevision) : Prop := ∀ k row, history.get? k = some row →
    history'.get? k = some row

theorem Historic.empty (policies : Table RoutePolicyRow) : Historic policies .empty :=
  ⟨fun _ _ _ _ _ ⟨_, h⟩ => (by cases h), fun _ _ _ _ h => (by cases h)⟩

/-- The row that the introduction of the history records for a policy. -/
def legacySnapshot (row : RoutePolicyRow) : RouteRevision :=
  ⟨row.projectId, row.model, row.revision, row.spec, "migration", "legacy_snapshot"⟩

theorem legacySnapshot_keys (policies : Table RoutePolicyRow) : ((policies.rows.map legacySnapshot).map key).Nodup := by
  rw [List.map_map]
  refine List.Nodup.map_on (fun x hx y hy same => ?_) (List.Nodup.of_map _ policies.nodup)
  have same : (x.projectId, x.model, x.revision) = (y.projectId, y.model, y.revision) := same
  obtain ⟨hp, hm, -⟩ : x.projectId = y.projectId ∧ x.model = y.model ∧ x.revision = y.revision := by simpa using same
  exact Table.eq_of_key hx hy (Prod.ext hp hm)

/-- The history as the migration that introduces it leaves it: of earlier policies only the current revision is
known. -/
def migratedHistory (policies : Table RoutePolicyRow) : Table RouteRevision :=
  ⟨policies.rows.map legacySnapshot, legacySnapshot_keys policies⟩

theorem migrated_get? {project model : String} {n : Int} {row : RouteRevision}
    (h : (migratedHistory policies).get? (project, model, n) = some row) :
    ∃ policy, policies.get? (project, model) = some policy ∧ policy.revision = n ∧ row = legacySnapshot policy := by
  obtain ⟨hm, hk⟩ := Table.get?_some_iff.1 h
  obtain ⟨policy, hp, rfl⟩ := List.mem_map.1 hm
  have hk : (policy.projectId, policy.model, policy.revision) = (project, model, n) := hk
  obtain ⟨h1, h2, h3⟩ : policy.projectId = project ∧ policy.model = model ∧ policy.revision = n := by simpa using hk
  exact ⟨policy, Table.get?_some_iff.2 ⟨hp, Prod.ext h1 h2⟩, h3, rfl⟩

theorem Historic.migrated (policies : Table RoutePolicyRow) : Historic policies (migratedHistory policies) := by
  refine ⟨fun project model first last n ⟨row, hr⟩ ⟨row', hr'⟩ low high => ?_, fun project model n row hr => ?_⟩
  · obtain ⟨policy, found, same, -⟩ := migrated_get? hr
    obtain ⟨policy', found', same', -⟩ := migrated_get? hr'
    rw [found] at found'
    cases found'
    exact ⟨row, by rw [show n = first by omega]; exact hr⟩
  · obtain ⟨policy, found, same, rfl⟩ := migrated_get? hr
    refine ⟨policy, found, by omega, legacySnapshot policy, ?_, rfl⟩
    rw [same]
    exact hr

/-! ## What a write does -/

/-- A policy is written over the revision that was expected, and recorded. -/
structure Written (project model : String) (expected : Int) (spec : RoutePolicySpec) (p q : Plane) : Prop where
  before : expected = 0 ∧ p.policies.get? (project, model) = none ∨
    ∃ row, p.policies.get? (project, model) = some row ∧ row.revision = expected
  fresh : p.history.get? (project, model, expected + 1) = none
  policies : ∀ k, q.policies.get? k = if (project, model) = k then some ⟨project, model, expected + 1, spec⟩
    else p.policies.get? k
  history : ∃ row : RouteRevision, row.spec = spec ∧
    ∀ k, q.history.get? k = if (project, model, expected + 1) = k then some row else p.history.get? k

variable {project model : String} {expected : Int} {spec : RoutePolicySpec} {p q : Plane}

theorem Written.kept (w : Written project model expected spec p q) : Kept p.history q.history := by
  obtain ⟨row, -, recorded⟩ := w.history
  intro k old ho
  rw [recorded]
  split
  · rename_i same
    rw [← same, w.fresh] at ho
    cases ho
  · exact ho

/-- What is recorded before a write is at most the revision that it replaces. -/
theorem Written.below (w : Written project model expected spec p q) (h : Historic p.policies p.history) {n : Int}
    {row : RouteRevision} (hr : p.history.get? (project, model, n) = some row) :
    n ≤ expected ∧ ∃ last, p.history.get? (project, model, expected) = some last := by
  obtain ⟨policy, found, le, last, hl, -⟩ := h.current project model n row hr
  rcases w.before with ⟨-, none⟩ | ⟨old, ho, same⟩
  · rw [none] at found
    cases found
  · rw [ho] at found
    cases found
    rw [same] at le hl
    exact ⟨le, last, hl⟩

/-- A write extends the history by the next revision. -/
theorem Historic.written (h : Historic p.policies p.history) (w : Written project model expected spec p q) :
    Historic q.policies q.history := by
  obtain ⟨new, spec_new, recorded⟩ := w.history
  have elsewhere {project' model' : String} {n : Int} (other : (project, model) ≠ (project', model')) :
      q.history.get? (project', model', n) = p.history.get? (project', model', n) := by
    rw [recorded]
    refine if_neg fun same => other ?_
    simp only [Prod.mk.injEq] at same ⊢
    exact ⟨same.1, same.2.1⟩
  have newest : q.history.get? (project, model, expected + 1) = some new := by rw [recorded, if_pos rfl]
  have older {n : Int} {row : RouteRevision} (hr : q.history.get? (project, model, n) = some row) :
      n = expected + 1 ∨ p.history.get? (project, model, n) = some row := by
    rw [recorded] at hr
    split at hr
    · rename_i same
      simp only [Prod.mk.injEq, true_and] at same
      exact .inl same.symm
    · exact .inr hr
  -- the revision of the write is the only new one, and it follows those of its policy
  refine ⟨fun project' model' first last n hfirst hlast low high => ?_, fun project' model' n row hr => ?_⟩
  · by_cases here : (project, model) = (project', model')
    · cases here
      obtain ⟨r₁, h₁⟩ := hfirst
      obtain ⟨r₂, h₂⟩ := hlast
      by_cases top : n = expected + 1
      · rw [top]
        exact ⟨new, newest⟩
      · -- below the new revision the old history has no gaps
        have first' := (older h₁).resolve_left fun e => ?_
        · obtain ⟨-, last', hl⟩ := w.below h first'
          have n_le : n ≤ expected := by
            rcases older h₂ with e | old
            · omega
            · have := (w.below h old).1
              omega
          obtain ⟨row, hr⟩ := h.contiguous project model first expected n ⟨r₁, first'⟩ ⟨last', hl⟩ low n_le
          exact ⟨row, w.kept _ _ hr⟩
        · have le : last ≤ expected + 1 := by
            rcases older h₂ with e' | old
            · omega
            · have := (w.below h old).1
              omega
          omega
    · rw [elsewhere here] at hfirst hlast ⊢
      exact h.contiguous project' model' first last n hfirst hlast low high
  · by_cases here : (project, model) = (project', model')
    · cases here
      refine ⟨⟨project, model, expected + 1, spec⟩, by rw [w.policies, if_pos rfl], ?_, new, newest, spec_new⟩
      rcases older hr with e | old
      · exact e.le
      · have := (w.below h old).1
        show n ≤ expected + 1
        omega
    · rw [elsewhere here] at hr
      obtain ⟨policy, found, le, last, hl, hs⟩ := h.current project' model' n row hr
      exact ⟨policy, by rw [w.policies, if_neg here]; exact found, le, last, by rw [elsewhere here]; exact hl, hs⟩

end Tables

/-! ## Steps of the control plane -/

/-- The tables of routes stay. -/
def Routes (p q : Plane) : Prop := q.policies = p.policies ∧ q.history = p.history

/-- What an operation leaves of the routes: nothing changed, or one policy was written. -/
def Rewritten (p q : Plane) : Prop := Routes p q ∨ ∃ project model expected spec, Written project model
    expected spec p q

theorem Rewritten.kept {p q : Plane} (h : Rewritten p q) : Kept p.history q.history := by
  rcases h with ⟨-, same⟩ | ⟨project, model, expected, spec, w⟩
  · rw [same]
    exact fun _ _ h => h
  · exact w.kept

theorem Historic.rewritten {p q : Plane} (h : Historic p.policies p.history) (w : Rewritten p q) :
    Historic q.policies q.history := by
  rcases w with ⟨policies, history⟩ | ⟨project, model, expected, spec, w⟩
  · rw [policies, history]
    exact h
  · exact h.written w

section Writes

variable {project : Project} {model actor operation : String} {request : PutRoutePolicy}
    {pools : List RoutePool} {p : Plane}

theorem storePolicy_written {row : RoutePolicyRow} {expected : Int} {r : Unit × Plane}
    (h : storePolicy row expected p = .ok r) :
    ∃ t, r.2 = { p with policies := t } ∧
      (expected = 0 ∧ p.policies.get? (row.projectId, row.model) = none ∨
        ∃ old, p.policies.get? (row.projectId, row.model) = some old ∧ old.revision = expected) ∧
      ∀ k, t.get? k = if (row.projectId, row.model) = k then some row else p.policies.get? k := by
  unfold storePolicy at h
  split at h
  · rename_i first
    simp only [Tx.read_bind, Tx.expect_bind, Tx.write_ok] at h
    obtain ⟨t, inserted, rfl⟩ := h
    exact ⟨t, rfl, .inl ⟨first, (Table.insert?_some inserted).1⟩, Table.get?_insert? inserted⟩
  · simp only [Tx.read_bind, Tx.reject_bind, Tx.write_ok] at h
    obtain ⟨fenced, rfl⟩ := h
    cases hg : p.policies.get? (row.projectId, row.model) with
    | none => rw [hg] at fenced; exact absurd rfl fenced
    | some old =>
      rw [hg] at fenced
      have same : old.revision = expected := by simpa using fenced
      exact ⟨_, rfl, .inr ⟨old, rfl, same⟩, Table.get?_put hg⟩

theorem putRoutePolicy_written {r : RoutePolicy × Plane}
    (h : putRoutePolicy project model request pools actor operation p = .ok r) :
    Written project.id model request.expectedRevision request.spec p r.2 ∧
      r.1 = ⟨project.tenantId, project.id, model, request.expectedRevision + 1, request.spec⟩ := by
  unfold putRoutePolicy at h
  cases hv : request.spec.validatePools model pools with
  | error message => rw [hv] at h; simp at h
  | ok u =>
    rw [hv] at h
    obtain ⟨_, q, h1, h⟩ := Tx.bind_ok.1 h
    have routes : Routes p q := by
      unfold onFleet at h1
      cases ha : Fleet.activeModel model p.state with
      | error e => rw [ha] at h1; cases h1
      | ok r => rw [ha] at h1; cases h1; exact ⟨rfl, rfl⟩
    simp only [Tx.reject_bind] at h
    obtain ⟨-, h⟩ := h
    obtain ⟨_, q', h2, h⟩ := Tx.bind_ok.1 h
    obtain ⟨t, hq, before, stored⟩ := storePolicy_written h2
    simp only at hq
    subst hq
    simp only [Tx.read_bind, Tx.expect_bind, Tx.write_bind, Tx.pure_ok] at h
    obtain ⟨history, inserted, rfl⟩ := h
    rw [routes.1] at before stored
    have fresh := (Table.insert?_some inserted).1
    have recorded := Table.get?_insert? inserted
    rw [routes.2] at fresh recorded
    exact ⟨⟨before, fresh, stored, _, rfl, recorded⟩, rfl⟩

end Writes

/-! ## Sessions that leave the routes -/

section Sessions

instance : IsPreorder Plane Routes where
  refl _ := ⟨rfl, rfl⟩
  trans _ _ _ h h' := ⟨h'.1.trans h.1, h'.2.trans h.2⟩

theorem onFleet_routes {α : Type} (x : FleetTx α) : Tx.Within Routes (onFleet x) := by
  intro p a q h
  unfold onFleet at h
  cases hx : x p.state with
  | error e => rw [hx] at h; cases h
  | ok r => rw [hx] at h; cases h; exact ⟨rfl, rfl⟩

end Sessions

section Steps

variable {env : Fleet.Env} {digests : Digests} {secretHash : String → Digest}

/-- A transaction that writes a policy when it succeeds. -/
theorem rewritten_commit {p : Plane} {x : PlaneTx RoutePolicy}
    (h : ∀ a q, x p = .ok (a, q) → ∃ project model expected spec, Written project model expected spec p q) :
    Rewritten p (Tx.commit x p).2 := by
  rcases Tx.commit_cases x p with ⟨a, q, hx, hc⟩ | ⟨e, -, hc⟩
  · rw [hc]
    exact .inr (h a q hx)
  · rw [hc]
    exact .inl (refl_of Routes p)

theorem Step.exec_rewritten (digests : Digests) (secretHash : String → Digest) (step : Step env) (p : Plane) :
    Rewritten p (step.exec digests secretHash p).2 := by
  cases step with
  | money op => exact .inl ⟨rfl, rfl⟩
  | fleet op => exact .inl ⟨rfl, rfl⟩
  | bindPool now uuid request legacy => exact .inl ⟨rfl, rfl⟩
  | putServingEndpoint id expected value => exact .inl (Session.within_commit (onFleet_routes _) p)
  | putRoutePolicy project model request pools actor =>
    refine rewritten_commit fun a q hx => ?_
    obtain ⟨row, -, hx⟩ := getProject_bind.1 hx
    exact ⟨_, _, _, _, (putRoutePolicy_written hx).1⟩
  | releaseAction project model action pools actor =>
    refine rewritten_commit fun a q hx => ?_
    obtain ⟨row, -, hx⟩ := getProject_bind.1 hx
    obtain ⟨spec, hx⟩ := releaseAction_ok hx
    exact ⟨_, _, _, _, (putRoutePolicy_written hx).1⟩
  | gatewaySnapshot now =>
    refine .inl ?_
    show Routes p (answered _).2
    rw [answered_plane]
    exact gatewaySnapshot_within (fun _ _ => ⟨rfl, rfl⟩) secretHash now p
  | trafficSnapshot wallAt now nonce token id identity =>
    refine .inl ?_
    show Routes p (answered _).2
    rw [answered_plane]
    exact trafficSnapshot_within (fun _ _ => ⟨rfl, rfl⟩) (onFleet_routes _) secretHash p

end Steps

/-! ## Calls of many callers -/

/-- A release between two of its statements. -/
inductive Pending where
  | targeting (project : Project) (model : String) (expected target : Int) (pools : List RoutePool) (actor : String)
  | writing (project : Project) (model : String) (action : ReleaseAction) (spec : RoutePolicySpec)
    (pools : List RoutePool)
    (actor : String)
  deriving DecidableEq

structure Console where
  plane : Plane
  calls : Nat → Option Pending
  answers : List (Except ServiceError RoutePolicy)

namespace Console

def setCall (c : Console) (process : Nat) (call : Option Pending) : Console :=
  { c with calls := fun p => if p = process then call else c.calls p }

def finish (c : Console) (process : Nat) (answer : Except ServiceError RoutePolicy) : Console :=
  { c.setCall process none with answers := answer :: c.answers }

/-- A transaction that ends a call. -/
def conclude (c : Console) (process : Nat) (x : PlaneTx RoutePolicy) : Console := match x c.plane with
  | .error e => c.finish process (.error e)
  | .ok (policy, plane) => { c.finish process (.ok policy) with plane := plane }

def put (c : Console) (process : Nat) (project model : String) (request : PutRoutePolicy) (pools : List RoutePool)
    (actor : String) :
    Console :=
  c.conclude process do putRoutePolicy (← getProject project) model request pools actor "put"

/-- `release_action` up to its second reading: the policy is read, and checked against the expected revision. -/
def release (c : Console) (process : Nat) (project model : String) (action : ReleaseAction) (pools : List RoutePool)
    (actor : String) :
    Console :=
  match c.plane.db.books.projects.get? project with
  | none => c.finish process (.error .notFound)
  | some project => match c.plane.policies.get? (project.id, model) with
    | none => c.finish process (.error .notFound)
    | some current =>
      if action.expectedRevision ≤ 0 ∨ action.expectedRevision ≠ current.revision then
        c.finish process (.error (.conflict "route policy revision changed"))
      else match action with
        | .pause _ => c.setCall process (some (.writing project model action current.spec.pause pools actor))
        | .promote _ => match current.spec.promote with
          | .error message => c.finish process (.error (.invalid message))
          | .ok next => c.setCall process (some (.writing project model action next pools actor))
        | .rollback expected target =>
          if target ≤ 0 ∨ expected ≤ target then
            c.finish process (.error (.invalid "rollback requires an earlier recorded revision"))
          else c.setCall process (some (.targeting project model expected target pools actor))

/-- The next statement of a release: the recorded target of a rollback, or the write. -/
def next (c : Console) (process : Nat) : Console := match c.calls process with
  | none => c
  | some (.targeting project model expected target pools actor) =>
    match c.plane.history.get? (project.id, model, target) with
    | none => c.finish process (.error .notFound)
    | some row => c.setCall process (some (.writing project model (.rollback expected target) row.spec pools actor))
  | some (.writing project model action spec pools actor) =>
    c.conclude process (putRoutePolicy project model ⟨action.expectedRevision, spec⟩ pools actor action.name)

end Console

/-- An operation of the control plane, or a statement of a call. -/
inductive Act (env : Fleet.Env) where
  | step (op : Step env)
  | put (process : Nat) (project model : String) (request : PutRoutePolicy) (pools : List RoutePool) (actor : String)
  | release (process : Nat) (project model : String) (action : ReleaseAction) (pools : List RoutePool) (actor : String)
  | next (process : Nat)

section Runs

variable {env : Fleet.Env} (digests : Digests) (secretHash : String → Digest)

def Act.run : Act env → Console → Console
  | .step op, c => { c with plane := (op.exec digests secretHash c.plane).2 }
  | .put process project model request pools actor, c => c.put process project model request pools actor
  | .release process project model action pools actor, c => c.release process project model action pools actor
  | .next process, c => c.next process

def Act.runAll (acts : List (Act env)) (c : Console) : Console :=
  acts.foldl (fun c act => act.run digests secretHash c) c

end Runs

/-! ## The invariant -/

/-- The spec that a rollback is about to write is the recorded one. -/
def Pending.Recorded (history : Table RouteRevision) : Pending → Prop
  | .writing project model (.rollback _ target) spec _ _ =>
    ∃ row, history.get? (project.id, model, target) = some row ∧ row.spec = spec
  | _ => True

theorem Pending.Recorded.kept {history history' : Table RouteRevision} (kept : Kept history history') {call : Pending}
    (h : call.Recorded history) : call.Recorded history' := by
  cases call with
  | targeting project model expected target pools actor => trivial
  | writing project model action spec pools actor =>
    cases action with
    | pause expected => trivial
    | promote expected => trivial
    | rollback expected target =>
      obtain ⟨row, recorded, same⟩ := h
      exact ⟨row, kept _ _ recorded, same⟩

namespace Console

structure Sound (c : Console) : Prop where
  historic : Historic c.plane.policies c.plane.history
  calls : ∀ process call, c.calls process = some call → call.Recorded c.plane.history

section Statements

variable {c : Console} {process : Nat} {x : PlaneTx RoutePolicy}

theorem Sound.setCall (s : c.Sound) {call : Option Pending} (h : ∀ x, call = some x → x.Recorded c.plane.history) :
    (c.setCall process call).Sound := by
  refine ⟨s.historic, fun p x hx => ?_⟩
  change (if p = process then call else c.calls p) = some x at hx
  split at hx
  · exact h x hx
  · exact s.calls p x hx

theorem Sound.finish (s : c.Sound) (answer : Except ServiceError RoutePolicy) : (c.finish process answer).Sound := by
  have idle : (c.setCall process none).Sound := s.setCall fun x h => by cases h
  exact ⟨idle.historic, idle.calls⟩

theorem Sound.rewritten (s : c.Sound) {plane : Plane} (w : Rewritten c.plane plane) :
    ({ c with plane := plane } : Console).Sound :=
  ⟨s.historic.rewritten w, fun p x hx => (s.calls p x hx).kept w.kept⟩

theorem conclude_error {e : ServiceError} (h : x c.plane = .error e) :
    c.conclude process x = c.finish process (.error e) := by
  unfold conclude
  rw [h]

theorem conclude_ok {policy : RoutePolicy} {plane : Plane} (h : x c.plane = .ok (policy, plane)) :
    c.conclude process x = { c.finish process (.ok policy) with plane := plane } := by
  unfold conclude
  rw [h]

/-- A statement either leaves the routes, or ends its call with a policy that it wrote. -/
inductive Ran (c c' : Console) : Prop
  | left (plane : c'.plane = c.plane)
  | wrote (policy : RoutePolicy) (answers : c'.answers = .ok policy :: c.answers)
      (written : ∃ expected, policy.revision = expected + 1 ∧
        Written policy.projectId policy.model expected policy.spec c.plane c'.plane)

theorem Ran.kept {c' : Console} (h : c.Ran c') : Kept c.plane.history c'.plane.history := by
  cases h with
  | left plane => rw [plane]; exact fun _ _ h => h
  | wrote policy answers written =>
    obtain ⟨expected, -, w⟩ := written
    exact w.kept

theorem conclude_ran (s : c.Sound)
    (written : ∀ policy q, x c.plane = .ok (policy, q) → ∃ expected, policy.revision = expected + 1 ∧
    Written policy.projectId policy.model expected policy.spec c.plane q) :
    (c.conclude process x).Sound ∧ c.Ran (c.conclude process x) := by
  cases h : x c.plane with
  | error e =>
    rw [conclude_error h]
    exact ⟨s.finish _, .left rfl⟩
  | ok r =>
    obtain ⟨policy, q⟩ := r
    obtain ⟨expected, next, w⟩ := written policy q h
    rw [conclude_ok h]
    exact ⟨(s.finish _).rewritten (.inr ⟨_, _, _, _, w⟩), .wrote policy rfl ⟨expected, next, w⟩⟩

theorem Sound.put (s : c.Sound) (process : Nat) (project model : String) (request : PutRoutePolicy)
    (pools : List RoutePool) (actor : String) :
    (c.put process project model request pools actor).Sound ∧
      c.Ran (c.put process project model request pools actor) := by
  refine conclude_ran s fun policy q h => ?_
  obtain ⟨row, -, h⟩ := getProject_bind.1 h
  obtain ⟨w, rfl⟩ := putRoutePolicy_written h
  exact ⟨_, rfl, w⟩

theorem Sound.release (s : c.Sound) (process : Nat) (project model : String) (action : ReleaseAction)
    (pools : List RoutePool) (actor : String) :
    (c.release process project model action pools actor).Sound ∧
      c.Ran (c.release process project model action pools actor) := by
  have finished (answer : Except ServiceError RoutePolicy) : (c.finish process answer).Sound ∧
      c.Ran (c.finish process answer) :=
    ⟨s.finish answer, .left rfl⟩
  have called {call : Pending} (h : call.Recorded c.plane.history) :
      (c.setCall process (some call)).Sound ∧ c.Ran (c.setCall process (some call)) :=
    ⟨s.setCall fun x hx => by cases hx; exact h, .left rfl⟩
  unfold Console.release
  cases c.plane.db.books.projects.get? project with
  | none => exact finished _
  | some row =>
    simp only
    cases c.plane.policies.get? (row.id, model) with
    | none => exact finished _
    | some current =>
      simp only
      split
      · exact finished _
      · cases action with
        | pause expected => exact called trivial
        | promote expected =>
          simp only
          cases current.spec.promote with
          | error message => exact finished _
          | ok next => exact called trivial
        | rollback expected target =>
          simp only
          split
          · exact finished _
          · exact called trivial

theorem Sound.next (s : c.Sound) (process : Nat) : (c.next process).Sound ∧ c.Ran (c.next process) := by
  unfold Console.next
  cases hc : c.calls process with
  | none => exact ⟨s, .left rfl⟩
  | some call =>
    cases call with
    | targeting project model expected target pools actor =>
      simp only
      cases hg : c.plane.history.get? (project.id, model, target) with
      | none => exact ⟨s.finish _, .left rfl⟩
      | some row => exact ⟨s.setCall fun x hx => by cases hx; exact ⟨row, hg, rfl⟩, .left rfl⟩
    | writing project model action spec pools actor =>
      refine conclude_ran s fun policy q h => ?_
      obtain ⟨w, rfl⟩ := putRoutePolicy_written h
      exact ⟨_, rfl, w⟩

/-- The write of a rollback leaves the routes, or installs the recorded spec as the next revision. -/
theorem Sound.rollback (s : c.Sound) {project : Project} {model actor : String} {expected target : Int}
    {spec : RoutePolicySpec} {pools : List RoutePool}
    (hc : c.calls process = some (.writing project model (.rollback expected target) spec pools actor)) :
    (c.next process).plane = c.plane ∨ ∃ row, c.plane.history.get? (project.id, model, target) = some row ∧
      Written project.id model expected row.spec c.plane (c.next process).plane := by
  obtain ⟨row, recorded, same⟩ := s.calls process _ hc
  have next : c.next process = c.conclude process
      (putRoutePolicy project model ⟨expected, spec⟩ pools actor "rollback") := by
    unfold Console.next
    rw [hc]
    rfl
  rw [next]
  cases h : putRoutePolicy project model ⟨expected, spec⟩ pools actor "rollback" c.plane with
  | error e =>
    rw [conclude_error h]
    exact .inl rfl
  | ok r =>
    rw [conclude_ok h]
    refine .inr ⟨row, recorded, ?_⟩
    rw [same]
    exact (putRoutePolicy_written h).1

end Statements

end Console

/-- A rollback in one go leaves the routes, or installs the recorded spec. -/
theorem releaseAction_rollback {project : Project} {model actor : String} {expected target : Int}
    {pools : List RoutePool} {p : Plane} {r : RoutePolicy × Plane}
    (h : releaseAction project model (.rollback expected target) pools actor p = .ok r) :
    ∃ row, p.history.get? (project.id, model, target) = some row ∧
      Written project.id model expected row.spec p r.2 := by
  unfold releaseAction at h
  simp only [Tx.read_bind, Tx.expect_bind, Tx.reject_bind] at h
  obtain ⟨current, -, -, h⟩ := h
  obtain ⟨spec, q, h1, h⟩ := Tx.bind_ok.1 h
  simp only [nextSpec, Tx.reject_bind, Tx.read_bind, Tx.expect_bind, Tx.pure_ok] at h1
  obtain ⟨-, row, recorded, he⟩ := h1
  cases he
  exact ⟨row, recorded, (putRoutePolicy_written h).1⟩

section Runs

variable {env : Fleet.Env} (digests : Digests) (secretHash : String → Digest)

theorem Act.run_sound (act : Act env) {c : Console} (s : c.Sound) :
    (act.run digests secretHash c).Sound ∧ Kept c.plane.history (act.run digests secretHash c).plane.history := by
  cases act with
  | step op =>
    have w := op.exec_rewritten digests secretHash c.plane
    exact ⟨s.rewritten w, w.kept⟩
  | put process project model request pools actor => exact ⟨(s.put ..).1, (s.put ..).2.kept⟩
  | release process project model action pools actor => exact ⟨(s.release ..).1, (s.release ..).2.kept⟩
  | next process => exact ⟨(s.next process).1, (s.next process).2.kept⟩

theorem Act.runAll_sound (acts : List (Act env)) {c : Console} (s : c.Sound) :
    (Act.runAll digests secretHash acts c).Sound ∧
      Kept c.plane.history (Act.runAll digests secretHash acts c).plane.history := by
  induction acts generalizing c with
  | nil => exact ⟨s, fun _ _ h => h⟩
  | cons act acts ih =>
    obtain ⟨sound, kept⟩ := act.run_sound digests secretHash s
    obtain ⟨sound', kept'⟩ := ih sound
    exact ⟨sound', fun k row h => kept' k row (kept k row h)⟩

/-- A call that is refused leaves policies and history. -/
theorem Act.run_refused (act : Act env) {c : Console} (s : c.Sound) {e : ServiceError}
    (refused : (act.run digests secretHash c).answers = .error e :: c.answers) :
    (act.run digests secretHash c).plane = c.plane := by
  have left {c' : Console} (ran : c.Ran c') (refused : c'.answers = .error e :: c.answers) : c'.plane = c.plane := by
    cases ran with
    | left plane => exact plane
    | wrote policy answers written =>
      rw [answers] at refused
      cases refused
  cases act with
  | step op =>
    have length := congrArg List.length (show c.answers = .error e :: c.answers from refused)
    simp at length
  | put process project model request pools actor => exact left (s.put ..).2 refused
  | release process project model action pools actor => exact left (s.release ..).2 refused
  | next process => exact left (s.next process).2 refused

/-- In every run of puts and releases, statement by statement and among all other operations, from policies that
may be older than their history: what is recorded has no gaps, stays as it is and ends at the policy that is
served; a rollback installs exactly the recorded spec as the next revision; and a call that fails changes
neither policies nor history. -/
theorem Act.runAll_history (plane : Plane)
    (start : plane.history = .empty ∨ plane.history = migratedHistory plane.policies) (before after : List (Act env)) :
    let c := Act.runAll digests secretHash before ⟨plane, fun _ => none, []⟩
    Historic c.plane.policies c.plane.history ∧
    Kept c.plane.history (Act.runAll digests secretHash after c).plane.history ∧
    (∀ process project model expected target spec pools actor,
      c.calls process = some (.writing project model (.rollback expected target) spec pools actor) →
      (c.next process).plane = c.plane ∨ ∃ row, c.plane.history.get? (project.id, model, target) = some row ∧
        Written project.id model expected row.spec c.plane (c.next process).plane) ∧
    (∀ project model expected target pools actor r, releaseAction project model
      (.rollback expected target) pools actor c.plane = .ok r →
      ∃ row, c.plane.history.get? (project.id, model, target) = some row ∧
        Written project.id model expected row.spec c.plane r.2) ∧
    ∀ (act : Act env) e, (act.run digests secretHash c).answers = .error e :: c.answers →
      (act.run digests secretHash c).plane = c.plane := by
  intro c
  have initial : (⟨plane, fun _ => none, []⟩ : Console).Sound := by
    refine ⟨?_, fun _ _ h => by cases h⟩
    rcases start with start | start
    · rw [show (⟨plane, fun _ => none, []⟩ : Console).plane.history = .empty from start]
      exact .empty _
    · rw [show (⟨plane, fun _ => none, []⟩ : Console).plane.history = migratedHistory plane.policies from start]
      exact .migrated _
  have s : c.Sound := (Act.runAll_sound digests secretHash before initial).1
  exact ⟨s.historic, (Act.runAll_sound digests secretHash after s).2, fun _ _ _ _ _ _ _ _ hc => s.rollback hc,
    fun _ _ _ _ _ _ _ h => releaseAction_rollback h, fun act e refused => act.run_refused digests secretHash s refused⟩

end Runs

/-! ### A legacy policy -/

def sampleServer : Fleet.Env := ⟨fun _ => true, fun t => t, fun _ => "", false⟩

/-- A policy at revision 3 that is older than its history, which begins with the migration. -/
def sampleLegacy : Plane :=
  let base : List (Step sampleServer) := [.money (.createProject ⟨"project", "tenant", "Project"⟩),
    .money .bootstrapCatalog]
  let policies : Table RoutePolicyRow := ⟨[⟨"project", "xscope-demo", 3, ⟨"stable", none, 0, []⟩⟩], by decide⟩
  { Step.runAll sampleDigests sampleHash base .empty with policies := policies, history := migratedHistory policies }

def samplePools : List RoutePool := [⟨"stable", "xscope-demo", "r1"⟩, ⟨"canary", "xscope-demo", "r2"⟩]

/-- A canary is put and promoted, and a rollback to the legacy revision has read its target. -/
def sampleReleases : List (Act sampleServer) :=
  [.put 0 "project" "xscope-demo" ⟨3, ⟨"stable", some "canary", 10, []⟩⟩ samplePools "actor",
    .release 1 "project" "xscope-demo" (.promote 4) samplePools "actor", .next 1,
    .release 0 "project" "xscope-demo" (.rollback 5 3) samplePools "actor", .next 0]

/-- The rollback installs the legacy policy again, as revision 6. -/
theorem sample_history :
    let c := Act.runAll sampleDigests sampleHash sampleReleases ⟨sampleLegacy, fun _ => none, []⟩
    let done := c.next 0
    Historic c.plane.policies c.plane.history ∧ Kept c.plane.history done.plane.history ∧
      (∃ row, c.plane.history.get? ("project", "xscope-demo", 3) = some row ∧
        Written "project" "xscope-demo" 5 row.spec c.plane done.plane) ∧
      done.plane.policies.get? ("project", "xscope-demo") =
        some ⟨"project", "xscope-demo", 6, ⟨"stable", none, 0, []⟩⟩ := by
  intro c done
  have called : c.calls 0 = some (.writing ⟨"project", "tenant", "Project"⟩ "xscope-demo" (.rollback 5 3)
    ⟨"stable", none, 0, []⟩
      samplePools "actor") := by decide +kernel
  have installed : done.plane.policies.get? ("project", "xscope-demo") =
      some ⟨"project", "xscope-demo", 6, ⟨"stable", none, 0, []⟩⟩ := by decide +kernel
  have promoted : c.plane.policies.get? ("project", "xscope-demo") =
      some ⟨"project", "xscope-demo", 5, ⟨"canary", none, 0, []⟩⟩ := by decide +kernel
  obtain ⟨historic, kept, rolled, -, -⟩ :=
    Act.runAll_history sampleDigests sampleHash sampleLegacy (.inr rfl) sampleReleases [.next 0]
  refine ⟨historic, kept, ?_, installed⟩
  refine (rolled 0 _ _ _ _ _ _ _ called).resolve_left fun same => ?_
  rw [show done.plane = c.plane from same, promoted] at installed
  cases installed

end Xscope.Serving

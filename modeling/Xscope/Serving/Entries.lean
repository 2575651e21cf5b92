/-
Managed and legacy entries. The two registries check each other under one lock, by identity, by model
revision and by the text of the address. Two texts may denote one network entry: the registries stay
apart as long as no accepted address is another spelling of one that is registered.
-/
import Xscope.Fleet.Readiness
import Xscope.Serving.Grants

namespace Xscope.Serving

open Fleet

/-! ## Network entries -/

/-- What an address denotes: the host without regard to its case, and the number of the port. -/
structure NetworkEntry where
  host : List Char
  port : Nat
  deriving DecidableEq

def portNumber (text : List Char) : Nat :=
  (if text.head? = some '+' then text.tail else text).foldl (fun n c => n * 10 + (c.toNat - '0'.toNat)) 0

def networkEntry (address : String) : Option NetworkEntry :=
  (rsplitColon address.toList).map fun (host, port) => ⟨host.map Char.toLower, portNumber port⟩

/-- The address is no other spelling of the registered one. -/
def Spells (address registered : String) : Prop := networkEntry address = networkEntry registered → address = registered

instance (address registered : String) : Decidable (Spells address registered) := inferInstanceAs (Decidable (_ → _))

/-! ## Disjoint registries -/

/-- No legacy entry serves the model revision of a managed pool. -/
def Unshared (s : State) : Prop :=
  ∀ e ∈ s.endpoints, ∀ p ∈ s.pools, ¬(e.definition.model = p.endpoint.model ∧
    e.definition.revision = p.endpoint.revision)

/-- No legacy entry has the identity or the model revision of a managed pool, and no two pools share an identity. -/
structure Separate (s : State) : Prop where
  ids : ∀ e ∈ s.endpoints, ∀ p ∈ s.pools, e.id ≠ p.id ∧ e.definition.id ≠ p.endpoint.id
  models : Unshared s
  pools : ∀ p ∈ s.pools, ∀ p' ∈ s.pools, p.id = p'.id ∨ p.endpoint.id = p'.endpoint.id → p = p'

/-- No legacy entry and no second pool is at the network entry of a managed pool. -/
structure Dedicated (s : State) : Prop where
  legacy : ∀ e ∈ s.endpoints, ∀ p ∈ s.pools, networkEntry e.definition.address ≠ networkEntry p.endpoint.address
  pools : ∀ p ∈ s.pools, ∀ p' ∈ s.pools, networkEntry p.endpoint.address = networkEntry p'.endpoint.address → p = p'

/-- No call registers another spelling of an address that it is checked against. -/
def Step.Spelled {env : Fleet.Env} (p : Plane) : Step env → Prop
  | .bindPool _ _ request _ => (∀ e ∈ p.fleet.endpoints, Spells request.address e.definition.address) ∧
      ∀ pool ∈ p.fleet.pools, Spells request.address pool.endpoint.address
  | .putServingEndpoint _ _ value => ∀ pool ∈ p.fleet.pools, Spells value.address pool.endpoint.address
  | _ => True

instance {env : Fleet.Env} (p : Plane) : (step : Step env) → Decidable (step.Spelled p)
  | .bindPool _ _ request _ =>
    inferInstanceAs (Decidable ((∀ e ∈ p.fleet.endpoints.rows, Spells request.address e.definition.address) ∧
      ∀ pool ∈ p.fleet.pools.rows, Spells request.address pool.endpoint.address))
  | .putServingEndpoint _ _ value =>
    inferInstanceAs (Decidable (∀ pool ∈ p.fleet.pools.rows, Spells value.address pool.endpoint.address))
  | .money _ | .fleet _ | .putRoutePolicy .. | .releaseAction .. | .gatewaySnapshot _ | .trafficSnapshot .. =>
    .isTrue trivial

/-! ## What an operation adds -/

section Added

variable {env : Fleet.Env} {s s' : State} {op : Fleet.Op}

/-- Both registries hold what they held, each pool with its entry. -/
structure Same (s s' : State) : Prop where
  endpoints : s'.endpoints = s.endpoints
  pools : ∀ p' ∈ s'.pools, ∃ p ∈ s.pools, p.id = p'.id ∧ p.endpoint = p'.endpoint

instance : IsPreorder State Same where
  refl _ := ⟨rfl, fun p hp => ⟨p, hp, rfl, rfl⟩⟩
  trans _ _ _ h h' := by
    refine ⟨h'.endpoints.trans h.endpoints, fun p hp => ?_⟩
    obtain ⟨p', hp', hid, he⟩ := h'.pools p hp
    obtain ⟨p'', hp'', hid', he'⟩ := h.pools p' hp'
    exact ⟨p'', hp'', hid'.trans hid, he'.trans he⟩

theorem move_same (m : Fleet.Move env op s s') (names : Names op)
    (unbound : ∀ now id request legacy, op ≠ .bindPool now id request legacy) :
    Same s s' := by
  refine ⟨move_endpoints m names, fun p' hp' => ?_⟩
  have found := Table.get?_of_mem hp'
  cases hold : s.pools.get? (key p') with
  | none =>
    cases m.pools.fresh _ p' found hold with
    | bound _ _ _ _ _ _ _ _ _ => exact absurd rfl (unbound _ _ _ _)
  | some old =>
    obtain ⟨p'', found', step⟩ := m.pools.kept _ old hold
    cases Option.some.inj (found.symm.trans found')
    rcases step with rfl | step
    · exact ⟨_, Table.get?_mem hold, rfl, rfl⟩
    · exact ⟨_, Table.get?_mem hold, step.id_eq.symm, step.endpoint_eq.symm⟩

theorem moves_same (m : Fleet.Moves env op s s') (names : Names op)
    (unbound : ∀ now id request legacy, op ≠ .bindPool now id request legacy) :
    Same s s' := by
  induction m with
  | refl => exact refl_of Same s
  | tail _ move ih => exact trans_of Same ih (move_same move names unbound)

theorem Dedicated.same (h : Dedicated s) (same : Same s s') : Dedicated s' := by
  constructor
  · intro e he p hp
    obtain ⟨old, ho, -, entry⟩ := same.pools p hp
    rw [same.endpoints] at he
    rw [← entry]
    exact h.legacy e he old ho
  · intro p hp p' hp' shared
    obtain ⟨old, ho, hid, entry⟩ := same.pools p hp
    obtain ⟨old', ho', hid', entry'⟩ := same.pools p' hp'
    rw [← entry, ← entry'] at shared
    have one := h.pools old ho old' ho' shared
    exact Table.eq_of_key hp hp' (show p.id = p'.id by rw [← hid, ← hid', one])

theorem Unshared.same (h : Unshared s) (same : Same s s') : Unshared s' := by
  intro e he p hp
  obtain ⟨old, ho, -, entry⟩ := same.pools p hp
  rw [same.endpoints] at he
  rw [← entry]
  exact h e he old ho

/-- A bound pool was checked against both registries. -/
structure Checked (s : State) (p : ManagedPool) : Prop where
  legacy : ∀ e ∈ s.endpoints, e.definition.address ≠ p.endpoint.address ∧
    ¬(e.definition.model = p.endpoint.model ∧ e.definition.revision = p.endpoint.revision)
  pools : ∀ old ∈ s.pools, old.endpoint.address ≠ p.endpoint.address

theorem bindPool_checked {now : Int} {id : String} {request : PoolBinding} {legacy : List RoutePool}
    {r : ManagedPool × State} (h : bindPool now id request legacy s = .ok r) :
    ∃ t, r.2 = { s with pools := t } ∧ s.pools.insert? r.1 = some t ∧ r.1.endpoint.address = request.address ∧
      Checked s r.1 := by
  unfold bindPool at h
  simp only [Tx.reject_bind, Tx.read_bind, Tx.expect_bind, Fleet.activeModel_bind, checkEndpoint_bind, Tx.write_bind,
    Tx.pure_ok] at h
  obtain ⟨-, -, cluster, -, -, desired, -, spec, -, -, model, -, -, -, revision, -, -, -, exposed, dedicated, -, t,
    inserted, rfl⟩ := h
  refine ⟨t, rfl, inserted, rfl, fun e he => ?_, fun old ho => ?_⟩
  · have clear := fun shared => exposed (List.any_eq_true.2 ⟨e, he, shared⟩)
    simpa [not_or, not_and, boundPool] using clear
  · have clear := fun shared => dedicated (List.any_eq_true.2 ⟨old, ho, shared⟩)
    simpa [boundPool] using clear

theorem putServingEndpoint_checked {id : String} {expected : Int} {value : ServingEndpoint} {r : Int × State}
    (h : putServingEndpoint id expected value s = .ok r) :
    (∃ t, r.2 = { s with endpoints := t } ∧ ∀ e ∈ t, e ∈ s.endpoints ∨ e.definition = value) ∧
    ∀ p ∈ s.pools, value.address ≠ p.endpoint.address ∧
      ¬(value.model = p.endpoint.model ∧ value.revision = p.endpoint.revision) := by
  unfold putServingEndpoint at h
  simp only [checkEndpoint_bind, Tx.reject_bind, Fleet.activeModel_bind, Tx.read_bind] at h
  obtain ⟨-, -, -, unaliased, h⟩ := h
  obtain ⟨_, t, h1, h2⟩ := Tx.bind_ok.1 h
  obtain ⟨entries, ht, origin⟩ := storeEndpoint_ok h1
  cases Tx.pure_ok.1 h2
  refine ⟨⟨entries, ht, fun e he => ?_⟩, fun p hp => ?_⟩
  · rcases origin e he with old | rfl
    · exact .inl old
    · exact .inr rfl
  · have clear := fun shared => unaliased (List.any_eq_true.2 ⟨p, hp, shared⟩)
    simpa [not_or, not_and] using clear

end Added

/-! ## Steps of the control plane -/

/-- The registries of the fleet are the same. -/
def Entries (p q : Plane) : Prop := Same p.fleet q.fleet

instance : IsPreorder Plane Entries where
  refl p := refl_of Same p.fleet
  trans _ _ _ h h' := trans_of Same h h'

section Steps

variable {env : Fleet.Env} {p : Plane}

theorem grants_entries (env : Fleet.Env) (wallAt now : Int) (nonce token id : String)
    (identity : Option GatewayIdentity) :
    Tx.Within Entries (onFleet (Fleet.trafficSnapshot env wallAt now nonce token id identity)) := by
  intro p g q h
  unfold onFleet at h
  cases hg : Fleet.trafficSnapshot env wallAt now nonce token id identity p.state with
  | error e => rw [hg] at h; cases h
  | ok r =>
    rw [hg] at h
    cases h
    obtain ⟨row, hs⟩ := trafficSnapshot_ok hg
    have same : Same p.state r.2 := moves_same (snapshot_moves wallAt hs) trivial fun _ _ _ _ => nofun
    exact ⟨same.endpoints, same.pools⟩

theorem commit_entries {α : Type} {x : PlaneTx α} (h : ∀ a q, x p = .ok (a, q) → q.state = p.state) :
    Entries p (Tx.commit x p).2 := by
  rcases Tx.commit_cases x p with ⟨a, q, hx, hc⟩ | ⟨e, -, hc⟩
  · rw [hc]
    have same := h a q hx
    have endpoints : q.state.endpoints = p.state.endpoints := by rw [same]
    have pools : q.state.pools = p.state.pools := by rw [same]
    exact ⟨endpoints,
      fun pool hp => ⟨pool, by rw [← show q.fleet.pools = p.fleet.pools from pools]; exact hp, rfl, rfl⟩⟩
  · rw [hc]
    exact refl_of Same p.fleet

/-- What a step adds to the registries, checked against what they hold. -/
inductive Adds (p q : Plane) : Step env → Prop
  | nothing {step : Step env} (same : Entries p q) : Adds p q step
  | pool {now : Int} {uuid : String} {request : PoolBinding} {legacy : List RoutePool} {row : ManagedPool}
      (endpoints : q.fleet.endpoints = p.fleet.endpoints) (inserted : p.fleet.pools.insert? row = some q.fleet.pools)
      (entry : row.endpoint.address = request.address) (checked : Checked p.fleet row) :
      Adds p q (.bindPool now uuid request legacy)
  | legacy {id : String} {expected : Int} {value : ServingEndpoint} (pools : q.fleet.pools = p.fleet.pools)
      (origin : ∀ e ∈ q.fleet.endpoints, e ∈ p.fleet.endpoints ∨ e.definition = value)
      (checked : ∀ pool ∈ p.fleet.pools, value.address ≠ pool.endpoint.address ∧
        ¬(value.model = pool.endpoint.model ∧ value.revision = pool.endpoint.revision)) :
      Adds p q (.putServingEndpoint id expected value)

theorem Step.exec_adds (digests : Digests) (secretHash : String → Digest) (step : Step env) (p : Plane) :
    Adds p (step.exec digests secretHash p).2 step := by
  -- two steps register an entry, each after its checks; no other one touches the entries
  cases step with
  | money op => exact .nothing (refl_of Same p.fleet)
  | fleet op =>
    have same : Same p.state (op.1.run env p.state) := by
      refine moves_same (op.1.run_moves p.state) (ofFleet_names op.2) fun now id request legacy bound => ?_
      have allowed := op.2
      rw [bound] at allowed
      cases allowed
    exact .nothing ⟨same.endpoints, same.pools⟩
  | bindPool now uuid request legacy =>
    rcases Tx.commit_cases (Fleet.bindPool now ("managed-" ++ uuid) request legacy) p.state with
      ⟨row, s, hx, hc⟩ | ⟨e, -, hc⟩
    · obtain ⟨t, hs, inserted, entry, checked⟩ := bindPool_checked hx
      have run : (Fleet.Op.bindPool now ("managed-" ++ uuid) request legacy).run env p.state =
          { p.state with pools := t } := by
        show (Tx.commit _ p.state).2 = _
        rw [hc]
        exact hs
      show Adds p (p.setState _) _
      rw [run]
      exact .pool rfl inserted entry ⟨checked.legacy, checked.pools⟩
    · have run : (Fleet.Op.bindPool now ("managed-" ++ uuid) request legacy).run env p.state = p.state := by
        show (Tx.commit _ p.state).2 = _
        rw [hc]
      show Adds p (p.setState _) _
      rw [run]
      exact .nothing ⟨rfl, fun pool hp => ⟨pool, hp, rfl, rfl⟩⟩
  | putServingEndpoint id expected value =>
    show Adds p (Tx.commit (onFleet (Serving.putServingEndpoint id expected value)) p).2 _
    rcases Tx.commit_cases (onFleet (Serving.putServingEndpoint id expected value)) p with ⟨a, q, hx, hc⟩ | ⟨e, -, hc⟩
    · rw [hc]
      unfold onFleet at hx
      cases hput : Serving.putServingEndpoint id expected value p.state with
      | error e => rw [hput] at hx; cases hx
      | ok r =>
        rw [hput] at hx
        cases hx
        obtain ⟨⟨t, ht, origin⟩, checked⟩ := putServingEndpoint_checked hput
        rw [ht]
        exact .legacy rfl origin checked
    · rw [hc]
      exact .nothing (refl_of Same p.fleet)
  | putRoutePolicy project model request pools actor =>
    refine .nothing (commit_entries fun a q hx => ?_)
    obtain ⟨row, -, hx⟩ := getProject_bind.1 hx
    exact (putRoutePolicy_ok hx).2.1
  | releaseAction project model action pools actor =>
    refine .nothing (commit_entries fun a q hx => ?_)
    obtain ⟨row, -, hx⟩ := getProject_bind.1 hx
    obtain ⟨spec, hx⟩ := releaseAction_ok hx
    exact (putRoutePolicy_ok hx).2.1
  | gatewaySnapshot now =>
    refine .nothing ?_
    show Entries p (answered _).2
    rw [answered_plane]
    exact gatewaySnapshot_within (fun p _ => refl_of Same p.fleet) secretHash now p
  | trafficSnapshot wallAt now nonce token id identity =>
    refine .nothing ?_
    show Entries p (answered _).2
    rw [answered_plane]
    exact trafficSnapshot_within (fun p _ => refl_of Same p.fleet)
      (grants_entries env wallAt now nonce.1 token id identity) secretHash p

theorem Unshared.adds {q : Plane} {step : Step env} (h : Unshared p.fleet)
    (adds : Adds p q step) : Unshared q.fleet := by
  cases adds with
  | nothing same => exact h.same same
  | pool endpoints inserted entry checked =>
    intro e he pool hp
    rw [endpoints] at he
    rcases (Table.mem_insert? inserted).1 hp with rfl | hp
    · exact (checked.legacy e he).2
    · exact h e he pool hp
  | legacy pools origin checked =>
    intro e he pool hp
    rw [pools] at hp
    rcases origin e he with old | rfl
    · exact h e old pool hp
    · exact (checked pool hp).2

/-- A step that registers no other spelling keeps the managed entries dedicated. -/
theorem Dedicated.adds {q : Plane} {step : Step env} (h : Dedicated p.fleet) (adds : Adds p q step)
    (spelled : step.Spelled p) :
    Dedicated q.fleet := by
  cases adds with
  | nothing same => exact h.same same
  | pool endpoints inserted entry checked =>
    obtain ⟨legacy, managed⟩ := spelled
    rw [← entry] at legacy managed
    refine ⟨fun e he pool hp => ?_, fun pool hp pool' hp' shared => ?_⟩
    · rw [endpoints] at he
      rcases (Table.mem_insert? inserted).1 hp with rfl | hp
      · exact fun shared => (checked.legacy e he).1 (legacy e he shared.symm).symm
      · exact h.legacy e he pool hp
    · rcases (Table.mem_insert? inserted).1 hp with rfl | hp
      · rcases (Table.mem_insert? inserted).1 hp' with rfl | hp'
        · rfl
        · exact absurd (managed pool' hp' shared).symm (checked.pools pool' hp')
      · rcases (Table.mem_insert? inserted).1 hp' with rfl | hp'
        · exact absurd (managed pool hp shared.symm).symm (checked.pools pool hp)
        · exact h.pools pool hp pool' hp' shared
  | legacy pools origin checked =>
    refine ⟨fun e he pool hp => ?_, fun pool hp pool' hp' shared => ?_⟩
    · rw [pools] at hp
      rcases origin e he with old | rfl
      · exact h.legacy e old pool hp
      · exact fun shared => (checked pool hp).1 (spelled pool hp shared)
    · rw [pools] at hp hp'
      exact h.pools pool hp pool' hp' shared

end Steps

/-! ## Runs -/

section Runs

variable {env : Fleet.Env} (digests : Digests) (secretHash : String → Digest)

/-- Every step of the run registers no other spelling of what it is checked against. -/
def SpelledRun : List (Step env) → Plane → Prop
  | [], _ => True
  | step :: rest, p => step.Spelled p ∧ SpelledRun rest (step.exec digests secretHash p).2

instance SpelledRun.decidable : (steps : List (Step env)) → (p : Plane) →
    Decidable (SpelledRun digests secretHash steps p)
  | [], _ => .isTrue trivial
  | step :: rest, p => @instDecidableAnd _ _ _ (SpelledRun.decidable rest (step.exec digests secretHash p).2)

theorem Step.runAll_unshared (steps : List (Step env)) :
    ∀ p, Unshared p.fleet → Unshared (Step.runAll digests secretHash steps p).fleet := by
  induction steps with
  | nil => exact fun _ h => h
  | cons step rest ih => exact fun p h => ih _ (h.adds (step.exec_adds digests secretHash p))

theorem Step.runAll_dedicated (steps : List (Step env)) :
    ∀ p, SpelledRun digests secretHash steps p → Dedicated p.fleet →
    ∀ n, Dedicated (Step.runAll digests secretHash (steps.take n) p).fleet := by
  induction steps with
  | nil =>
    intro p _ h n
    rw [List.take_nil]
    exact h
  | cons step rest ih =>
    rintro p ⟨here, later⟩ h n
    cases n with
    | zero => exact h
    | succ n => exact ih _ later (h.adds (step.exec_adds digests secretHash p) here) n

/-- In every run the registries stay apart in identities and model revisions, and in every state of a run that
registers no other spelling of a registered address each managed pool has its network entry for itself. -/
theorem Step.runAll_entries (steps : List (Step env)) :
    (∀ n, Separate (Step.runAll digests secretHash (steps.take n) .empty).fleet) ∧
    (SpelledRun digests secretHash steps .empty →
      ∀ n, Dedicated (Step.runAll digests secretHash (steps.take n) .empty).fleet) := by
  have none : ∀ {ρ κ : Type} [Keyed ρ κ] {P : ρ → Prop}, ∀ row ∈ (Table.empty : Table ρ), P row :=
    fun row hr => absurd hr (Table.not_mem_empty row)
  refine ⟨fun n => ?_, fun spelled => Step.runAll_dedicated digests secretHash steps .empty spelled ⟨none, none⟩⟩
  have presents := Step.runAll_presents digests secretHash (steps.take n) .empty .empty
  refine ⟨fun e he p hp => ?_, Step.runAll_unshared digests secretHash (steps.take n) .empty none,
    fun p hp p' hp' same => ?_⟩
  · have entered := presents.fleet.entries e he
    have listed := presents.fleet.pools p hp
    have apart : e.id ≠ p.id := fun same => by
      have unmanaged := entered.unmanaged
      rw [same, listed.named] at unmanaged
      cases unmanaged
    exact ⟨apart, by rw [entered.own, listed.own]; exact apart⟩
  · have own := (presents.fleet.pools p hp).own
    have own' := (presents.fleet.pools p' hp').own
    refine Table.eq_of_key hp hp' (show p.id = p'.id from ?_)
    rcases same with same | same
    · exact same
    · rw [← own, ← own', same]

end Runs

/-- A pool is bound to the entry svc:80. -/
def boundRun : List (Step sampleEnv) :=
  [.money .bootstrapCatalog, .fleet ⟨.registerCluster 0 "key" ⟨"c", "ns", 30⟩, rfl⟩,
    .fleet ⟨.putDesired 0 "admin" "c" ⟨0, [⟨"d", some sampleSpec, none, none⟩]⟩, rfl⟩,
      .bindPool 0 "uuid" sampleBinding []]

/-- A legacy entry of another model revision is registered beside the pool, and is moved to another port of its host. -/
def besideRun : List (Step sampleEnv) := boundRun ++
  [.putServingEndpoint "legacy" 0 ⟨"legacy", "xscope-demo", "other", "old:80", false, ""⟩,
    .putServingEndpoint "legacy" 1 ⟨"legacy", "xscope-demo", "other", "SVC:81", false, ""⟩]

/-- The pool keeps its entry for itself. -/
theorem sample_dedicated :
    let s := (Step.runAll sampleDigests sampleHash besideRun .empty).fleet
    Dedicated s ∧ s.pools.rows.map (·.endpoint.address) = ["svc:80"] ∧
      s.endpoints.rows.map (·.definition.address) = ["SVC:81"] := by
  have spelled : SpelledRun sampleDigests sampleHash besideRun .empty := by decide +kernel
  have dedicated := (Step.runAll_entries sampleDigests sampleHash besideRun).2 spelled besideRun.length
  rw [List.take_length] at dedicated
  exact ⟨dedicated, by decide +kernel, by decide +kernel⟩

/-- A legacy entry of another model revision is registered at SVC:80. -/
def aliasedRun : List (Step sampleEnv) := boundRun ++
  [.putServingEndpoint "legacy" 0 ⟨"legacy", "xscope-demo", "other", "SVC:80", false, ""⟩]

/-- The legacy entry leads to the pool. -/
theorem sample_aliased : ¬Dedicated (Step.runAll sampleDigests sampleHash aliasedRun .empty).fleet := by
  intro dedicated
  have aliased : ∃ e ∈ (Step.runAll sampleDigests sampleHash aliasedRun .empty).fleet.endpoints.rows,
      ∃ p ∈ (Step.runAll sampleDigests sampleHash aliasedRun .empty).fleet.pools.rows,
        networkEntry e.definition.address = networkEntry p.endpoint.address := by decide +kernel
  obtain ⟨e, he, p, hp, shared⟩ := aliased
  exact dedicated.legacy e he p hp shared

end Xscope.Serving

/-
What a gateway makes of the answers of the control plane, over whole runs: every snapshot is taken,
and the grants of a session follow each other, so that they install in the order in which they were
granted, whichever of them are lost.
-/
import Xscope.Serving.Growth
import Xscope.Serving.Snapshots

namespace Xscope.Serving

open Fleet

variable {env : Fleet.Env} {digests : Digests} {secretHash : String → Digest} {p q : Plane} {s s' : State}

/-! ## Answers -/

/-- The snapshot of the console, read at the end of its session. -/
structure Read (p : Plane) (snapshot : GatewaySnapshot) : Prop where
  keys : ∀ key ∈ snapshot.keys, Taken key
  policies : validatePolicies [] snapshot.routePolicies = .ok ()
  catalog : snapshot.catalog = catalogSnapshot p
  traffic : snapshot.traffic = none

theorem gatewaySnapshot_cases (secretHash : String → Digest) (h : Presents p) (now : Int) :
    ∃ db, Publishes p.db db ∧ (gatewaySnapshot secretHash now p).2 = { p with db := db } ∧
      ∀ snapshot, (gatewaySnapshot secretHash now p).1 = .ok snapshot → Read { p with db := db } snapshot := by
  have published : Publishes p.db (gatewayKeys secretHash now (activeKeys now p.db) p.db).2 := gatewayKeys_keeps _ p.db
  have rows : gatewaySnapshot secretHash now p = (do
      let keys ← onDb (gatewayKeys secretHash now (activeKeys now p.db))
      let policies ← Tx.commit listRoutePolicies
      let catalog ← Tx.commit (Tx.read catalogSnapshot)
      pure ⟨now, keys, policies, catalog, none⟩ : PlaneSession GatewaySnapshot) p := rfl
  rw [rows]
  cases hk : gatewayKeys secretHash now (activeKeys now p.db) p.db with
  | mk o db =>
    rw [hk] at published
    refine ⟨db, published, ?_⟩
    cases o with
    | error e =>
      have failed : onDb (gatewayKeys secretHash now (activeKeys now p.db)) p = (.error e, { p with db := db }) := by
        unfold onDb
        rw [hk]
      rw [Session.bind_of_error failed]
      exact ⟨rfl, fun _ hs => by cases hs⟩
    | ok keys =>
      have read : onDb (gatewayKeys secretHash now (activeKeys now p.db)) p = (.ok keys, { p with db := db }) := by
        unfold onDb
        rw [hk]
      have presents := (h.publish published).1
      obtain ⟨policies, listed⟩ := listRoutePolicies_total presents
      rw [Session.bind_of_ok read, Session.bind_of_ok (Tx.commit_ok.2 listed)]
      refine ⟨rfl, fun snapshot hs => ?_⟩
      cases hs
      refine ⟨gatewayKeys_ok (fun row hr => h.console.keys row ?_) hk,
        (listRoutePolicies_ok presents listed).2, rfl, rfl⟩
      exact List.mem_of_mem_filter ((List.perm_insertionSort _ _).mem_iff.1 hr)

/-- The gateway takes the snapshot, with the entries of managed pools and with a grant. -/
theorem Read.taken {snapshot : GatewaySnapshot} (h : Presents p) (read : Read p snapshot) {pools : List ManagedPool}
    (listed : ∀ pool ∈ pools, pool ∈ p.fleet.pools) (distinct : (pools.map fun pool => pool.id).Nodup)
    {traffic : Option TrafficSnapshot} (lease : ∀ grant ∈ traffic, 0 ≤ grant.leaseSeconds) :
    ∃ credentials, receive { snapshot with
      catalog :=
        { snapshot.catalog with endpoints := snapshot.catalog.endpoints ++ pools.map fun pool => pool.endpoint }
      traffic := traffic } = .ok credentials := by
  have decoded : decodes { snapshot with
      catalog :=
        { snapshot.catalog with endpoints := snapshot.catalog.endpoints ++ pools.map fun pool => pool.endpoint }
      traffic := traffic } = true := by
    unfold decodes
    rw [Bool.and_eq_true, List.all_eq_true]
    refine ⟨fun key hk => ?_, ?_⟩
    · have taken := read.keys key hk
      simp [taken.1, taken.2.1]
    · cases traffic with
      | none => rfl
      | some grant => exact decide_eq_true (lease grant rfl)
  obtain ⟨credentials, ok⟩ : ∃ credentials, snapshot.keys.mapM (credential snapshot.routePolicies) = .ok credentials :=
    credentials_ok read.keys
  refine ⟨credentials, ?_⟩
  unfold receive fromSnapshot
  rw [if_pos decoded]
  simp only [read.catalog, catalogSnapshot_valid h listed distinct, read.policies, bind, Except.bind]
  exact ok

/-- The gateway takes the snapshot of the console as it is. -/
theorem Read.taken_alone {snapshot : GatewaySnapshot} (h : Presents p) (read : Read p snapshot) :
    ∃ credentials, receive snapshot = .ok credentials := by
  obtain ⟨credentials, ok⟩ := read.taken h (fun _ hp => absurd hp List.not_mem_nil) List.nodup_nil fun _ hg =>
    absurd hg (Option.not_mem_none _)
  refine ⟨credentials, ?_⟩
  rw [List.map_nil, List.append_nil] at ok
  rw [← ok, ← read.traffic]

/-! ## Grants -/

/-- A grant that the gateway takes if it is the first and not too large. -/
structure Sound (env : Fleet.Env) (g : TrafficSnapshot) : Prop where
  nonce : env.isUuid g.nonce = true
  lease : g.leaseSeconds = leaseSeconds
  positive : 0 < g.sequence
  controls : ∀ c ∈ g.pools, managed c.id = true ∧ 0 < c.generation
  distinct : (g.pools.map fun c => c.id).Nodup

/-- The state has nothing that is older than the grant. -/
structure Behind (g : TrafficSnapshot) (s : State) : Prop where
  session : ∃ row, s.sessions.get? g.sessionId = some row ∧ g.sequence ≤ row.sequence
  pools : ∀ c ∈ g.pools, ∃ pool, s.pools.get? c.id = some pool ∧ c.generation ≤ pool.generation

/-- A grant of a state: it is newer than the session was and has every pool. -/
structure Granted (env : Fleet.Env) (s s' : State) (g : TrafficSnapshot) : Prop where
  sound : Sound env g
  later : ∀ row, s.sessions.get? g.sessionId = some row → row.sequence < g.sequence
  covers : ∀ id pool, s.pools.get? id = some pool → ∃ c ∈ g.pools, c.id = id ∧ c.generation = pool.generation
  behind : Behind g s'

/-- The later grant of a session loses no pool and no generation of the earlier one. -/
structure Follows (g g' : TrafficSnapshot) : Prop where
  sequence : g.sequence < g'.sequence
  pools : ∀ c ∈ g.pools, ∃ c' ∈ g'.pools, c'.id = c.id ∧ c.generation ≤ c'.generation

theorem Behind.onward {g : TrafficSnapshot} (h : Behind g s) (on : Onward s s') : Behind g s' := by
  constructor
  · obtain ⟨row, found, le⟩ := h.session
    obtain ⟨row', found', le'⟩ := on.sessions _ row found
    exact ⟨row', found', le.trans le'⟩
  · intro c hc
    obtain ⟨pool, found, le⟩ := h.pools c hc
    obtain ⟨pool', found', le'⟩ := on.pools _ pool found
    exact ⟨pool', found', le.trans le'⟩

theorem Granted.follows {g g' : TrafficSnapshot} (granted : Granted env s s' g') (behind : Behind g s)
    (same : g.sessionId = g'.sessionId) : Follows g g' := by
  constructor
  · obtain ⟨row, found, le⟩ := behind.session
    rw [same] at found
    have := granted.later row found
    omega
  · intro c hc
    obtain ⟨pool, found, le⟩ := behind.pools c hc
    obtain ⟨c', hc', id, generation⟩ := granted.covers _ pool found
    exact ⟨c', hc', id, by rw [generation]; exact le⟩

/-- The grant of a snapshot of the fleet. -/
theorem snapshot_granted {now : Int} {nonce token id : String} {identity : Option GatewayIdentity}
    {row : GatewaySession} {g : TrafficSnapshot} (o : Offers s) (uuid : env.isUuid nonce = true)
    (h : Snapshot env now nonce token id identity row g s s') :
    Granted env s s' g := by
  obtain ⟨listed, distinct⟩ := s.listed_spec
  have counted : 0 ≤ row.sequence := by
    rcases h.session with found | ⟨-, rfl⟩
    · exact o.sessions row (Table.get?_mem found)
    · exact le_rfl
  have control : ∀ c ∈ g.pools, ∃ pool ∈ s.pools, c.id = pool.id ∧ c.generation = pool.generation := by
    intro c hc
    rw [h.answer] at hc
    obtain ⟨pool, hp, rfl⟩ := List.mem_map.1 hc
    exact ⟨pool, (listed pool).1 hp, rfl, rfl⟩
  have session : g.sessionId = id := by rw [h.answer]
  have sequence : g.sequence = row.sequence + 1 := by rw [h.answer]
  refine ⟨⟨?_, ?_, ?_, fun c hc => ?_, ?_⟩, fun old found => ?_, fun k pool found => ?_, ?_, fun c hc => ?_⟩
  · rw [h.answer]; exact uuid
  · rw [h.answer]
  · omega
  · obtain ⟨pool, hp, hid, generation⟩ := control c hc
    have offered := o.pools pool hp
    rw [hid, generation]
    exact ⟨offered.named, offered.positive⟩
  · rw [h.answer]
    show ((s.listed.map _).map fun c : PoolControl => c.id).Nodup
    rw [List.map_map]
    exact distinct
  · rw [session] at found
    rcases h.session with known | ⟨missing, -⟩
    · cases Option.some.inj (known.symm.trans found)
      omega
    · rw [missing] at found; cases found
  · refine ⟨pool.control now (identityReady env row) s.clusters.rows, ?_, Table.get?_key found, rfl⟩
    rw [h.answer]
    exact List.mem_map.2 ⟨pool, (listed pool).2 (Table.get?_mem found), rfl⟩
  · refine ⟨row.delivered now (row.sequence + 1) nonce, ?_, sequence.le⟩
    rw [h.sessions, session, if_pos rfl]
  · obtain ⟨pool, hp, hid, generation⟩ := control c hc
    refine ⟨pool, ?_, generation.le⟩
    rw [h.tables, hid]
    exact Table.get?_of_mem hp

/-! ## Steps -/

/-- What a step leaves, and what the gateway makes of its answer. -/
structure Serves (env : Fleet.Env) (p : Plane) (r : Option GatewaySnapshot × Plane) : Prop where
  presents : Presents r.2
  onward : Onward p.state r.2.state
  taken : ∀ snapshot, r.1 = some snapshot → ∃ credentials, receive snapshot = .ok credentials
  granted : ∀ snapshot, r.1 = some snapshot → ∀ g, snapshot.traffic = some g → Granted env p.state r.2.state g

theorem Serves.silent (presents : Presents q) (onward : Onward p.state q.state) : Serves env p (none, q) :=
  ⟨presents, onward, nofun, nofun⟩

theorem gatewaySnapshot_serves (h : Presents p) (now : Int) :
    Serves env p (answered (gatewaySnapshot secretHash now p)) := by
  obtain ⟨db, published, after, read⟩ := gatewaySnapshot_cases secretHash h now
  obtain ⟨presents, onward⟩ := h.publish published
  rcases hr : gatewaySnapshot secretHash now p with ⟨o, q⟩
  rw [hr] at after read
  obtain rfl : q = { p with db := db } := after
  cases o with
  | error e => exact .silent presents onward
  | ok snapshot =>
    have taken := read snapshot rfl
    refine ⟨presents, onward, fun _ he => ?_, fun _ he g hg => ?_⟩
    · cases he
      exact taken.taken_alone presents
    · cases he
      rw [taken.traffic] at hg
      cases hg

theorem snapshot_moves {now : Int} {nonce token id : String} {identity : Option GatewayIdentity} {row : GatewaySession}
    {g : TrafficSnapshot} (wallAt : Int) (h : Snapshot env now nonce token id identity row g s s') :
    Fleet.Moves env (.trafficSnapshot wallAt now nonce token id identity) s s' := (Move.snapshot h).moves

theorem trafficSnapshot_serves (h : Presents p) (wallAt now : Int)
    (nonce : { nonce : String // env.isUuid nonce = true }) (token id : String) (identity : Option GatewayIdentity) :
    Serves env p (answered (trafficSnapshot env secretHash wallAt now nonce token id identity p)) := by
  obtain ⟨db, published, after, read⟩ := gatewaySnapshot_cases secretHash h wallAt
  obtain ⟨presents, onward⟩ := h.publish published
  by_cases valid : env.isUuid id = false
  · have refused : trafficSnapshot env secretHash wallAt now nonce token id identity p =
        (.error (.invalid "invalid gateway incarnation"), p) :=
      Session.bind_of_error (Tx.commit_of_error (Tx.reject_of valid))
    rw [refused]
    exact .silent h (.refl p.state)
  have admitted : trafficSnapshot env secretHash wallAt now nonce token id identity p = (do
      let snapshot ← gatewaySnapshot secretHash wallAt
      let pools ← Tx.commit (Tx.read fun p => p.fleet.listed)
      let grant ← Tx.commit (onFleet (Fleet.trafficSnapshot env wallAt now nonce token id identity))
      pure
        { snapshot with
          catalog :=
            { snapshot.catalog with endpoints := snapshot.catalog.endpoints ++ pools.map fun pool => pool.endpoint }
          traffic := some grant } : PlaneSession GatewaySnapshot) p :=
    Session.bind_of_ok (Tx.commit_of_ok (Tx.reject_of_not valid))
  rw [admitted]
  rcases hr : gatewaySnapshot secretHash wallAt p with ⟨o, q⟩
  rw [hr] at after read
  obtain rfl : q = { p with db := db } := after
  cases o with
  | error e =>
    rw [Session.bind_of_error hr]
    exact .silent presents onward
  | ok snapshot =>
    have pools : (Tx.commit (Tx.read fun p => p.fleet.listed) : PlaneSession (List ManagedPool)) { p with db := db } =
      (.ok p.fleet.listed, { p with db := db }) := rfl
    rw [Session.bind_of_ok hr, Session.bind_of_ok pools]
    have taken := read snapshot rfl
    cases hg : Fleet.trafficSnapshot env wallAt now nonce token id identity { p with db := db }.state with
    | error e =>
      have failed : onFleet (Fleet.trafficSnapshot env wallAt now nonce token id identity) { p with db := db } =
          .error e := by
        unfold onFleet
        rw [hg]
      rw [Session.bind_of_error (Tx.commit_of_error failed)]
      exact .silent presents onward
    | ok r =>
      have done : onFleet (Fleet.trafficSnapshot env wallAt now nonce token id identity) { p with db := db } =
          .ok (r.1, { p with db := db }.setState r.2) := by
        unfold onFleet
        rw [hg]
      rw [Session.bind_of_ok (Tx.commit_of_ok done)]
      obtain ⟨row, hs⟩ := trafficSnapshot_ok hg
      obtain ⟨presents', onward'⟩ := presents.moves (snapshot_moves wallAt hs) trivial
      have granted := snapshot_granted presents.fleet nonce.2 hs
      obtain ⟨listed, distinct⟩ := { p with db := db }.fleet.listed_spec
      refine ⟨presents', onward.trans onward', fun _ he => ?_, fun _ he g hg => ?_⟩
      · cases he
        refine taken.taken presents (fun pool hp => (listed pool).1 hp) distinct fun g hg => ?_
        cases hg
        rw [granted.sound.lease]
        decide
      · cases he
        cases hg
        -- the console leaves the pools and the sessions alone
        exact ⟨granted.sound, granted.later, granted.covers, granted.behind⟩

theorem ofFleet_names {op : Fleet.Op} (h : ofFleet op = true) : Names op := by
  cases op with
  | bindPool => cases h
  | writeCatalog => cases h
  | _ => trivial

theorem managed_uuid (uuid : String) : managed ("managed-" ++ uuid) = true := by
  unfold managed
  rw [String.toList_append, List.isPrefixOf_iff_prefix]
  exact List.prefix_append _ _

/-- Every step of the control plane keeps what the gateway asks for, and answers with it. -/
theorem Step.exec_serves (digests : Digests) (secretHash : String → Digest) (step : Step env) (h : Presents p) :
    Serves env p (step.exec digests secretHash p) := by
  cases step with
  | money op =>
    obtain ⟨presents, onward⟩ := h.publish (publishes digests op p.db)
    exact .silent presents onward
  | fleet op =>
    obtain ⟨presents, onward⟩ := h.run op.1 (ofFleet_names op.2)
    exact .silent presents onward
  | bindPool now uuid request legacy =>
    obtain ⟨presents, onward⟩ := h.run (.bindPool now ("managed-" ++ uuid) request legacy) (managed_uuid uuid)
    exact .silent presents onward
  | putServingEndpoint id expected value =>
    obtain ⟨presents, onward⟩ := putServingEndpoint_presents id expected value h
    exact .silent presents onward
  | putRoutePolicy project model request pools actor =>
    obtain ⟨presents, onward⟩ :=
      policies_presents (x := do Serving.putRoutePolicy (← getProject project) model request pools actor "put") h
      fun a q hx => by
        obtain ⟨row, found, hx⟩ := getProject_bind.1 hx
        exact putRoutePolicy_stored found hx
    exact .silent presents onward
  | releaseAction project model action pools actor =>
    obtain ⟨presents, onward⟩ :=
      policies_presents (x := do Serving.releaseAction (← getProject project) model action pools actor) h
      fun a q hx => by
        obtain ⟨row, found, hx⟩ := getProject_bind.1 hx
        obtain ⟨spec, hx⟩ := releaseAction_ok hx
        exact putRoutePolicy_stored found hx
    exact .silent presents onward
  | gatewaySnapshot now => exact gatewaySnapshot_serves h now
  | trafficSnapshot wallAt now nonce token id identity =>
    exact trafficSnapshot_serves h wallAt now nonce token id identity

/-! ## Runs -/

theorem Step.runAll_presents (digests : Digests) (secretHash : String → Digest) (steps : List (Step env)) :
    ∀ p, Presents p → Presents (Step.runAll digests secretHash steps p) := by
  induction steps with
  | nil => exact fun _ h => h
  | cons step rest ih => exact fun p h => ih _ (step.exec_serves digests secretHash h).presents

/-- The grants of a session in a run that starts behind an earlier one. -/
structure Chained (env : Fleet.Env) (session : String) (s : State) (grants : List TrafficSnapshot) : Prop where
  own : ∀ g ∈ grants, g.sessionId = session ∧ Sound env g
  later : ∀ g, g.sessionId = session → Behind g s → ∀ g' ∈ grants, Follows g g'
  follows : grants.Pairwise Follows

theorem granted_chained (digests : Digests) (secretHash : String → Digest) (session : String)
    (steps : List (Step env)) :
    ∀ p, Presents p → Chained env session p.state (granted digests secretHash session steps p) := by
  induction steps with
  | nil => exact fun _ _ => ⟨nofun, fun _ _ _ _ hg => (by cases hg), .nil⟩
  | cons step rest ih =>
    intro p h
    have serves := step.exec_serves digests secretHash h
    have tail := ih _ serves.presents
    have onward := serves.onward
    rw [granted]
    cases hg : ((step.exec digests secretHash p).1.bind fun snapshot => snapshot.traffic).filter fun grant =>
      grant.sessionId = session with
    | none => exact ⟨tail.own, fun g own behind => tail.later g own (behind.onward onward), tail.follows⟩
    | some grant =>
      obtain ⟨hg, own⟩ := Option.filter_eq_some_iff.1 hg
      obtain ⟨snapshot, answer, traffic⟩ := Option.bind_eq_some_iff.1 hg
      have fresh := serves.granted snapshot answer grant traffic
      have same : grant.sessionId = session := of_decide_eq_true own
      refine ⟨fun g hg => ?_, fun g hs behind g' hg => ?_, ?_⟩
      · rcases List.mem_cons.1 hg with rfl | hg
        · exact ⟨same, fresh.sound⟩
        · exact tail.own g hg
      · rcases List.mem_cons.1 hg with rfl | hg
        · exact fresh.follows behind (hs.trans same.symm)
        · exact tail.later g hs (behind.onward onward) g' hg
      · exact List.pairwise_cons.2 ⟨tail.later grant same fresh.behind, tail.follows⟩

/-! ## Installation -/

section Installation

variable {t : Traffic} {g : TrafficSnapshot} {fetchedAt : Int}

theorem keepsPools_of_follows {previous : TrafficSnapshot} (h : Follows previous g) : keepsPools previous g = true := by
  unfold keepsPools
  rw [List.all_eq_true]
  intro old ho
  obtain ⟨c, hc, id, generation⟩ := h.pools old ho
  rw [List.any_eq_true]
  exact ⟨c, hc, by simp [id, generation]⟩

/-- A gateway refuses a grant of more pools than it takes. -/
theorem install_fits {t' : Traffic} (h : t.install env g fetchedAt = .ok t') :
    g.pools.length ≤ poolLimit := by
  unfold Traffic.install at h
  split at h
  · cases h
  · rename_i guard
    simp only [not_or, not_lt] at guard
    exact guard.2.2.2.2

/-- A sound grant that follows the installed one is taken exactly when it is not too large. -/
theorem install_iff (fetchedAt : Int) (sound : Sound env g) (same : g.sessionId = t.sessionId)
    (follows : ∀ previous ∈ t.snapshot, Follows previous g) :
    (∃ t', t.install env g fetchedAt = .ok t') ↔ g.pools.length ≤ poolLimit := by
  constructor
  · rintro ⟨t', h⟩
    exact install_fits h
  · intro fits
    unfold Traffic.install
    have guard : ¬(g.sessionId ≠ t.sessionId ∨ g.sequence ≤ 0 ∨ g.leaseSeconds ≠ leaseSeconds ∨
      env.isUuid g.nonce = false ∨
        poolLimit < g.pools.length) := by
      have := sound.positive
      simp only [same, sound.lease, sound.nonce, ne_eq, not_true_eq_false, Bool.true_eq_false, false_or, not_or]
      omega
    have controls := validateControls_ok g.pools [] sound.controls sound.distinct fun _ _ => List.not_mem_nil
    rw [if_neg guard]
    simp only [controls, bind, Except.bind]
    cases ht : t.snapshot with
    | none => exact ⟨_, rfl⟩
    | some previous =>
      have next := follows previous ht
      have stale : ¬g.sequence ≤ previous.sequence := by
        have := next.sequence
        omega
      simp only [Option.any_some, Option.all_some, decide_eq_true_eq, if_neg stale, if_pos (keepsPools_of_follows next)]
      exact ⟨_, rfl⟩

theorem install_ok {t' : Traffic} (h : t.install env g fetchedAt = .ok t') :
    t'.snapshot = some g ∧ t'.sessionId = t.sessionId := by
  unfold Traffic.install at h
  split at h
  · cases h
  · cases hc : validateControls [] g.pools with
    | error message => rw [hc] at h; cases h
    | ok u =>
      simp only [hc, bind, Except.bind] at h
      split at h
      · cases h
      · split at h
        · cases h
          exact ⟨rfl, rfl⟩
        · cases h

/-- Grants that follow each other install exactly when none of them is too large. -/
theorem installAll_iff {session : String} {fetchedAt : TrafficSnapshot → Int} {grants : List TrafficSnapshot} :
    ∀ {t : Traffic}, t.sessionId = session → (∀ g ∈ grants, g.sessionId = session ∧ Sound env g) →
      (∀ previous ∈ t.snapshot, ∀ g ∈ grants, Follows previous g) → grants.Pairwise Follows →
      ((∃ t', t.installAll env fetchedAt grants = .ok t') ↔ ∀ g ∈ grants, g.pools.length ≤ poolLimit) := by
  induction grants with
  | nil => exact fun _ _ _ _ => ⟨fun _ => nofun, fun _ => ⟨_, rfl⟩⟩
  | cons g rest ih =>
    intro t same own follows chain
    obtain ⟨after, chain⟩ := List.pairwise_cons.1 chain
    obtain ⟨session, sound⟩ := own g (List.mem_cons_self ..)
    have first := install_iff (fetchedAt g) sound (session.trans same.symm)
      fun previous hp => follows previous hp g (List.mem_cons_self ..)
    rw [List.forall_mem_cons, ← first]
    cases hi : t.install env g (fetchedAt g) with
    | error message =>
      unfold Traffic.installAll
      rw [hi]
      constructor
      · rintro ⟨t', h⟩; cases h
      · rintro ⟨⟨t', h⟩, -⟩; cases h
    | ok t' =>
      obtain ⟨installed, kept⟩ := install_ok hi
      unfold Traffic.installAll
      rw [hi]
      have next := ih (kept.trans same) (fun x hx => own x (List.mem_cons_of_mem _ hx))
        (fun previous hp => by
          rw [installed] at hp
          cases hp
          exact after) chain
      exact next.trans ⟨fun h => ⟨⟨t', rfl⟩, h⟩, fun h => h.2⟩

end Installation

/-- In every run the gateway takes every snapshot, and installs the grants of a session in order,
whichever of them are lost, as long as none of them lists more pools than a gateway takes. -/
theorem Step.runAll_accepted (env : Fleet.Env) (digests : Digests) (secretHash : String → Digest)
    (steps : List (Step env)) :
    (∀ (step : Step env) snapshot, (step.exec digests secretHash (Step.runAll digests secretHash steps .empty)).1 =
      some snapshot →
      ∃ credentials, receive snapshot = .ok credentials) ∧
    ∀ session fetchedAt grants, grants.Sublist (granted digests secretHash session steps .empty) →
      ((∃ t, (Traffic.new session).installAll env fetchedAt grants = .ok t) ↔
        ∀ g ∈ grants, g.pools.length ≤ poolLimit) := by
  constructor
  · intro step snapshot answer
    exact (step.exec_serves digests secretHash (Step.runAll_presents digests secretHash steps _ .empty)).taken
      snapshot answer
  · intro session fetchedAt grants sub
    have chained := granted_chained digests secretHash session steps _ .empty
    exact installAll_iff rfl (fun g hg => chained.own g (sub.subset hg)) (fun _ hp => by cases hp)
      (chained.follows.sublist sub)

/-! ## Too many pools -/

/-- Without keys nothing is priced for a snapshot. -/
theorem gatewaySnapshot_keyless (secretHash : String → Digest) (h : Presents p)
    (keyless : p.db.books.apiKeys = .empty) (now : Int) :
    ∃ snapshot, gatewaySnapshot secretHash now p = (.ok snapshot, p) := by
  obtain ⟨policies, listed⟩ := listRoutePolicies_total h
  have rows : activeKeys now p.db = [] := by
    unfold activeKeys
    rw [keyless]
    rfl
  have read : (Tx.commit (Tx.read fun p => activeKeys now p.db) : PlaneSession (List ApiKey)) p = (.ok [], p) := by
    rw [← rows]
    rfl
  have keys : onDb (gatewayKeys secretHash now []) p = (.ok [], p) := rfl
  unfold gatewaySnapshot
  rw [Session.bind_of_ok read, Session.bind_of_ok keys, Session.bind_of_ok (Tx.commit_ok.2 listed)]
  exact ⟨_, rfl⟩

/-- The last step of a growth: a gateway asks for its traffic. -/
def asked (env : Fleet.Env) (nonce : { nonce : String // env.isUuid nonce = true })
    (session : String) : List (Step env) :=
  [.trafficSnapshot 0 0 nonce "admission" session none]

/-- A gateway is granted whatever number of pools there are. -/
theorem growth_granted (digests : Digests) (secretHash : String → Digest) {n : Nat} (fits : n ≤ labels)
    (short : ∀ k, (env.encode [grownItem k]).utf8ByteSize ≤ payloadLimit)
    (nonce : { nonce : String // env.isUuid nonce = true }) (session : String) (uuid : env.isUuid session = true) :
    ∃ g, [g].Sublist (granted digests secretHash session (growth env n ++ asked env nonce session) .empty) ∧
      g.pools.length = n := by
  obtain ⟨grown, keyless⟩ := growth_grown digests secretHash short fits
  have presents := Step.runAll_presents digests secretHash (growth env n) _ .empty
  obtain ⟨snapshot, read⟩ := gatewaySnapshot_keyless secretHash presents keyless 0
  obtain ⟨⟨g, s'⟩, done, size⟩ := grown_grant nonce.1 "admission" grown uuid
  refine ⟨g, ?_, size⟩
  rw [granted_append]
  refine .trans ?_ (List.sublist_append_right _ _)
  generalize Step.runAll digests secretHash (growth env n) .empty = p at grown presents read done
  have valid : ¬env.isUuid session = false := by
    rw [uuid]
    decide
  have pools : (Tx.commit (Tx.read fun p => p.fleet.listed) : PlaneSession (List ManagedPool)) p =
    (.ok p.fleet.listed, p) := rfl
  have grant : onFleet (Fleet.trafficSnapshot env 0 0 nonce.1 "admission" session none) p = .ok (g, p.setState s') := by
    unfold onFleet
    rw [done]
  have own : g.sessionId = session := by
    obtain ⟨row, snapshot⟩ := trafficSnapshot_ok done
    exact congrArg TrafficSnapshot.sessionId snapshot.answer
  have answer : ∃ snapshot, (Step.exec digests secretHash p (.trafficSnapshot 0 0 nonce "admission" session none)).1 =
    some snapshot ∧
      snapshot.traffic = some g := by
    unfold Step.exec trafficSnapshot
    dsimp only
    rw [Session.bind_of_ok (Tx.commit_of_ok (Tx.reject_of_not valid)), Session.bind_of_ok read,
      Session.bind_of_ok pools, Session.bind_of_ok (Tx.commit_of_ok grant)]
    exact ⟨_, rfl, rfl⟩
  obtain ⟨snapshot, answer, traffic⟩ := answer
  unfold asked granted
  have kept : (some g).filter (fun grant => decide (grant.sessionId = session)) = some g :=
    Option.filter_some_pos (decide_eq_true own)
  rw [answer, Option.bind_some, traffic, kept]
  exact List.sublist_append_left _ _

/-- UUIDs have their hyphenated form, digests are the texts themselves. -/
def plainEnv : Fleet.Env := ⟨fun text => text.length == 36, id, fun _ => "", false⟩

/-- With one pool too many the whole refresh of every gateway is refused. -/
theorem Step.runAll_refused : ¬∀ (env : Fleet.Env) (digests : Digests) (secretHash : String → Digest)
    (steps : List (Step env))
    session fetchedAt grants, grants.Sublist (granted digests secretHash session steps .empty) →
      ∃ t, (Traffic.new session).installAll env fetchedAt grants = .ok t := by
  intro h
  let nonce : { nonce : String // plainEnv.isUuid nonce = true } := ⟨"01900000-0000-7000-8000-000000000001", by decide⟩
  have many : poolLimit + 1 ≤ labels := by decide
  obtain ⟨g, sub, size⟩ := growth_granted sampleDigests sampleHash many (fun _ => Nat.zero_le _) nonce
    "01900000-0000-7000-8000-000000000002" (by decide)
  obtain ⟨t, installed⟩ := h _ _ _ _ _ (fun _ => 0) [g] sub
  unfold Traffic.installAll at installed
  cases hi : (Traffic.new "01900000-0000-7000-8000-000000000002").install plainEnv g 0 with
  | error message => rw [hi] at installed; cases installed
  | ok t' =>
    have := install_fits hi
    rw [size] at this
    omega

end Xscope.Serving

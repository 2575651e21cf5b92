/-
Nothing bounds the pools of a fleet: each new desired state names one more deployment, and a pool is
bound to it. A run with any number of pools leads to a grant that lists them all.
-/
import Xscope.Serving.Plane
import Xscope.Fleet.Rows

namespace Xscope.Serving

open Fleet

/-! ## Labels -/

/-- The lowest bits of a number as letters. -/
def bits (n k : Nat) : List Char := (List.range n).map fun i => if k.testBit i then 'b' else 'a'

/-- A different UUID for every number below 2^20. -/
def label (k : Nat) : String := String.ofList (bits 8 (k / 4096) ++ "-0000-7000-8000-".toList ++ bits 12 (k % 4096))

def labels : Nat := 2 ^ 20

@[simp] theorem bits_length (n k : Nat) : (bits n k).length = n := by simp [bits]

theorem bits_inj {n k j : Nat} (hk : k < 2 ^ n) (hj : j < 2 ^ n) (h : bits n k = bits n j) : k = j := by
  refine Nat.eq_of_testBit_eq fun i => ?_
  by_cases hi : i < n
  · have same := List.map_inj_left.1 h i (List.mem_range.2 hi)
    cases hb : k.testBit i <;> cases hc : j.testBit i <;> simp [hb, hc] at same ⊢
  · have wide : 2 ^ n ≤ 2 ^ i := Nat.pow_le_pow_right (by omega) (by omega)
    rw [Nat.testBit_lt_two_pow (by omega), Nat.testBit_lt_two_pow (by omega)]

theorem label_inj {k j : Nat} (hk : k < labels) (hj : j < labels) (h : label k = label j) : k = j := by
  unfold labels at hk hj
  obtain ⟨front, back⟩ := List.append_inj (String.ofList_injective h) (by simp)
  have high := bits_inj (by omega) (by omega) (List.append_cancel_right front)
  have low := bits_inj (by omega) (by omega) back
  omega

/-- The characters of labels and of addresses. -/
theorem label_chars {k : Nat} : ∀ c ∈ (label k).toList, c ∈ "ab-078".toList := by
  have letters : ∀ {n m : Nat}, ∀ c ∈ bits n m, c ∈ "ab-078".toList := by
    intro n m c hc
    obtain ⟨i, -, rfl⟩ := List.mem_map.1 hc
    split <;> decide
  have inner : ("-0000-7000-8000-".toList.all fun c => "ab-078".toList.contains c) = true := by decide
  unfold label
  rw [String.toList_ofList]
  intro c hc
  rcases List.mem_append.1 hc with hc | hc
  · rcases List.mem_append.1 hc with hc | hc
    · exact letters c hc
    · exact List.contains_iff_mem.1 (List.all_eq_true.1 inner c hc)
  · exact letters c hc

theorem utf8ByteSize_ofList {l : List Char} (ascii : ∀ c ∈ l, c.utf8Size = 1) :
    (String.ofList l).utf8ByteSize = l.length := by
  induction l with
  | nil => rfl
  | cons c rest ih =>
    rw [← List.singleton_append, String.ofList_append, String.utf8ByteSize_append, ← String.singleton_eq_ofList,
      String.utf8ByteSize_singleton, ascii c (List.mem_cons_self ..), ih fun x hx =>
        ascii x (List.mem_cons_of_mem _ hx)]
    simp [Nat.add_comm]

theorem label_size (k : Nat) : (label k).utf8ByteSize = 36 := by
  have ascii : ("ab-078".toList.all fun c => c.utf8Size == 1) = true := by decide
  have chars := label_chars (k := k)
  unfold label at chars ⊢
  rw [String.toList_ofList] at chars
  rw [utf8ByteSize_ofList fun c hc => beq_iff_eq.1 (List.all_eq_true.1 ascii c (chars c hc))]
  simp

/-- A label names a deployment. -/
theorem label_name (k : Nat) : Fleet.name (label k) = true := by
  have letter : ∀ b : Bool, Char.isAlphanum (if b then 'b' else 'a') = true := by decide
  have plain : ("ab-078".toList.all fun c => c.isLower || c.isDigit || c == '-') = true := by decide
  have head : (label k).toList.head?.all Char.isAlphanum = true := by
    unfold label
    rw [String.toList_ofList]
    exact letter _
  have last : (label k).toList.getLast?.all Char.isAlphanum = true := by
    unfold label
    rw [String.toList_ofList]
    exact letter _
  have nonempty : (label k).isEmpty = false := by
    rw [String.isEmpty_eq_false_iff]
    intro empty
    have := label_size k
    rw [empty] at this
    cases this
  unfold Fleet.name
  rw [nonempty, label_size, head, last, Bool.and_eq_true, List.all_eq_true]
  exact ⟨by decide, fun c hc => List.all_eq_true.1 plain c (label_chars c hc)⟩

theorem label_identifier (k : Nat) : Catalog.identifier ("managed-" ++ label k) = true := by
  have plain : (("managed-".toList ++ "ab-078".toList).all fun c => c.isAlphanum ||
      ['.', '_', '-'].contains c) = true := by
    decide
  unfold Catalog.identifier identifierWith
  rw [String.utf8ByteSize_append, label_size, Bool.and_eq_true, Bool.and_eq_true, List.all_eq_true]
  refine ⟨⟨?_, by decide⟩, fun c hc => List.all_eq_true.1 plain c ?_⟩
  · rw [Bool.not_eq_true', String.isEmpty_eq_false_iff]
    intro empty
    have := congrArg String.utf8ByteSize empty
    rw [String.utf8ByteSize_append, label_size] at this
    cases this
  · rw [String.toList_append] at hc
    rcases List.mem_append.1 hc with hc | hc
    · exact List.mem_append_left _ hc
    · exact List.mem_append_right _ (label_chars c hc)

/-! ## A growing fleet -/

/-- The spec of a deployment that a pool can be bound to. -/
def plainSpec : Json :=
  .obj [("model", .obj [("id", .str Model.default.id), ("revision", .str "main")]),
    ("runtime", .obj [("protocol", .str "openai")]), ("serving", .obj [("endpointPickerService", .str "entry")])]

def grownItem (k : Nat) : DesiredDeployment := ⟨label k, some plainSpec, none, none⟩

def grownBinding (k : Nat) : PoolBinding :=
  { trafficProtocol := 1, makeDefault := false, clusterId := "member", deployment := label k, servingService := "entry"
    address := label k ++ ":80", tls := false, serverName := "", expectedDesiredVersion := k + 1 }

variable {env : Fleet.Env} {s : State} {n : Nat}

/-- The member cluster at a version. -/
def grownCluster (env : Fleet.Env) (version : Nat) : MemberCluster :=
  { registeredCluster 0 (env.sha256 "token") ⟨"member", "apps", 30⟩ with desiredVersion := version }

/-- The pool bound to the deployment of a label. -/
def grownPool (k : Nat) : ManagedPool :=
  boundPool 0 ("managed-" ++ label k) (grownBinding k) ⟨"managed-" ++ label k, Model.default.id, "main", label k ++
    ":80", false, ""⟩ plainSpec

/-- A fleet of one cluster with a pool for each label below `n`, whose last desired state has the given version. -/
structure Grown (env : Fleet.Env) (version n : Nat) (s : State) : Prop where
  cluster : s.clusters.get? "member" = some (grownCluster env version)
  model : ∃ row, s.catalog.get? Model.default.id = some row ∧ row.enabled = true
  free : ∀ v : Int, version < v → s.revisions.get? ("member", v) = none
  legacy : s.endpoints.rows = []
  count : s.pools.rows.length = n
  pools : ∀ pool ∈ s.pools, ∃ k < n, pool = grownPool k
  views : s.views = .empty
  sessions : s.sessions = .empty
  grants : s.grants = .empty

/-- A desired state that names no pool passes the guard as it is. -/
theorem guardDesired_unnamed {now version : Int} {deployments : List DesiredDeployment} {rows : List ManagedPool}
    (unnamed : ∀ row ∈ rows, deployments.find? (fun d => d.name == row.deployment) = none) :
    guardDesired now version rows deployments s = .ok (deployments, s) := by
  induction rows with
  | nil => rfl
  | cons row rest ih =>
    rw [guardDesired, unnamed row (List.mem_cons_self ..)]
    exact ih fun x hx => unnamed x (List.mem_cons_of_mem _ hx)

theorem label_ne {k : Nat} (hn : n < labels) (hk : k < n) : label n ≠ label k := fun same => by
  have := label_inj hn (by omega) same
  omega

theorem grow_desired (h : Grown env n n s) (hn : n < labels)
    (short : (env.encode [grownItem n]).utf8ByteSize ≤ payloadLimit) :
    Grown env (n + 1) n ((Fleet.Op.putDesired 0 "admin" "member" ⟨n, [grownItem n]⟩).run env s) ∧
      ((Fleet.Op.putDesired 0 "admin" "member" ⟨n, [grownItem n]⟩).run env s).revisions.get? ("member", n + 1) =
        some ⟨"member", n + 1, [grownItem n], env.digest [grownItem n], "admin"⟩ := by
  let revision : ClusterRevision := ⟨"member", n + 1, [grownItem n], env.digest [grownItem n], "admin"⟩
  obtain ⟨t, inserted⟩ := Table.insert?_of_none (r := revision) (h.free (n + 1) (by omega))
  have wide : n < 2 ^ 20 := hn
  have fits : checkedAdd (n : Int) 1 = some (n + 1 : Int) :=
    checkedAdd_some.2 ⟨rfl, by unfold Fits i64Min i64Max; omega⟩
  have unnamed : ∀ row ∈ s.poolsOf "member", [grownItem n].find? (fun d => d.name == row.deployment) = none := by
    intro row hr
    obtain ⟨k, hk, rfl⟩ := h.pools row (Table.get?_mem ((s.poolsOf_spec "member").1 row hr).1)
    rw [List.find?_cons_of_neg, List.find?_nil]
    exact fun same => label_ne hn hk (eq_of_beq same)
  have wellFormed : (⟨n, [grownItem n]⟩ : DesiredState).wellFormed = true := by
    unfold DesiredState.wellFormed DesiredDeployment.wellFormed grownItem
    simp only [List.all_cons, List.all_nil, label_name]
    rfl
  have done : putClusterDesired env 0 "admin" "member" ⟨n, [grownItem n]⟩ s = .ok (⟨n + 1, env.digest [grownItem n]⟩,
      { s with revisions := t, clusters := s.clusters.put (grownCluster env (n + 1)) }) := by
    unfold putClusterDesired
    simp only [Tx.reject_bind, Tx.read_bind, Tx.expect_bind, h.cluster]
    refine ⟨by simp, by simp [wellFormed], by omega, _, rfl,
      fun revoked => (by cases revoked), by simp [grownCluster], _, fits, ?_⟩
    rw [Tx.bind_of_ok (guardDesired_unnamed unnamed)]
    simp only [Tx.reject_bind, insertRevision_bind, putCluster_bind, Tx.pure_ok]
    exact ⟨by omega, t, inserted, rfl⟩
  have run : (Fleet.Op.putDesired 0 "admin" "member" ⟨n, [grownItem n]⟩).run env s =
      { s with revisions := t, clusters := s.clusters.put (grownCluster env (n + 1)) } := by
    show (Tx.commit (putClusterDesired env 0 "admin" "member" ⟨n, [grownItem n]⟩) s).2 = _
    rw [Tx.commit_of_ok done]
  rw [run]
  refine ⟨⟨?_, h.model, fun v hv => ?_, h.legacy, h.count, h.pools, h.views, h.sessions, h.grants⟩,
    Table.get?_insert?_self inserted⟩
  · exact Table.get?_put_self (r := grownCluster env (n + 1)) h.cluster
  · rw [Table.get?_insert? inserted, if_neg, h.free v (by omega)]
    intro same
    have : (n : Int) + 1 = v := (Prod.mk.inj same).2
    omega

/-- The entry of a pool is valid. -/
theorem grown_endpoint (k : Nat) : (grownPool k).endpoint.validate = .ok () := by
  have plain : ("ab-078".toList.all fun c => c.isAlphanum || ".-[]:".toList.contains c) = true := by decide
  have host : ((label k).toList.all fun c => c.isAlphanum || ".-[]:".toList.contains c) = true :=
    List.all_eq_true.2 fun c hc => List.all_eq_true.1 plain c (label_chars c hc)
  have split : rsplitColon (label k ++ ":80").toList = some ((label k).toList, "80".toList) := by
    rw [String.toList_append]
    simp [rsplitColon]
  have size : ¬253 < (label k).utf8ByteSize := by
    rw [label_size]
    omega
  have nonempty : (label k).toList.isEmpty = false := by
    rw [List.isEmpty_eq_false_iff]
    intro empty
    have := label_size k
    rw [← String.ofList_toList (s := label k), empty] at this
    cases this
  have identity : ¬(!Catalog.identifier ("managed-" ++ label k) || !Catalog.identifier Model.default.id ||
      !Catalog.identifier "main") = true := by
    rw [label_identifier]
    decide
  show ServingEndpoint.validate ⟨"managed-" ++ label k, Model.default.id, "main", label k ++ ":80", false, ""⟩ = .ok ()
  unfold ServingEndpoint.validate
  rw [if_neg identity, split]
  simp only [String.ofList_toList, host, nonempty, decide_eq_false size]
  rfl

theorem grow_bind (h : Grown env (n + 1) n s) (hn : n < labels)
    (stored : s.revisions.get? ("member", n + 1) =
    some ⟨"member", n + 1, [grownItem n], env.digest [grownItem n], "admin"⟩) :
    Grown env (n + 1) (n + 1) ((Fleet.Op.bindPool 0 ("managed-" ++ label n) (grownBinding n) []).run env s) := by
  obtain ⟨model, known, enabled⟩ := h.model
  have others : ∀ pool ∈ s.pools, ∃ k, pool = grownPool k ∧ label n ≠ label k := by
    intro pool hp
    obtain ⟨k, hk, rfl⟩ := h.pools pool hp
    exact ⟨k, rfl, label_ne hn hk⟩
  have fresh : s.pools.get? (key (grownPool n)) = none := by
    refine Table.get?_none_iff.2 fun pool hp same => ?_
    obtain ⟨k, rfl, ne⟩ := others pool hp
    exact ne ((String.append_right_inj "managed-").1 same).symm
  obtain ⟨t, inserted⟩ := Table.insert?_of_none fresh
  have done : bindPool 0 ("managed-" ++ label n) (grownBinding n) [] s = .ok (grownPool n, { s with pools := t }) := by
    unfold bindPool
    simp only [Tx.reject_bind, Tx.read_bind, Tx.expect_bind, Fleet.activeModel_bind, checkEndpoint_bind,
      Tx.write_bind, Tx.pure_ok]
    simp only [grownBinding]
    refine ⟨?_, by decide, _, h.cluster, ?_, _, stored, plainSpec, ?_, by decide, Model.default.id, rfl, by decide,
      ⟨model, known, enabled⟩, "main", rfl, grown_endpoint n, by simp, by simp [h.legacy], ?_, ?_, t, inserted, rfl⟩
    · rw [label_name]
      decide
    · show ¬((none : Option Int).isSome = true ∨ 0 + days 30 ≤ 0 ∨ ((n : Int) + 1 ≠ ((n + 1 : Nat) : Int)))
      rw [not_or, not_or]
      exact ⟨by decide, by decide, by omega⟩
    · unfold specOf
      rw [List.find?_cons_of_pos]
      · rfl
      · exact beq_self_eq_true (label n)
    · rw [List.any_eq_true]
      rintro ⟨pool, hp, same⟩
      obtain ⟨k, rfl, ne⟩ := others pool hp
      have same : label k ++ ":80" = label n ++ ":80" := eq_of_beq same
      exact ne ((String.append_left_inj ":80").1 same).symm
    · rw [List.any_eq_true]
      rintro ⟨pool, hp, same⟩
      obtain ⟨k, rfl, ne⟩ := others pool hp
      have same : label k = label n := eq_of_beq (Bool.and_eq_true_iff.1 same).2
      exact ne same.symm
  have run : (Fleet.Op.bindPool 0 ("managed-" ++ label n) (grownBinding n) []).run env s = { s with pools := t } := by
    show (Tx.commit (bindPool 0 ("managed-" ++ label n) (grownBinding n) []) s).2 = _
    rw [Tx.commit_of_ok done]
  rw [run]
  refine ⟨h.cluster, h.model, h.free, h.legacy, ?_, fun pool hp => ?_, h.views, h.sessions, h.grants⟩
  · have total := Table.total_insert? inserted fun _ => 1
    have length : ∀ t : Table ManagedPool, t.total (fun _ => 1) = t.rows.length := fun t => by simp [Table.total]
    rw [length, length, h.count] at total
    show t.rows.length = n + 1
    omega
  · rcases (Table.mem_insert? inserted).1 hp with rfl | hp
    · exact ⟨n, by omega, rfl⟩
    · obtain ⟨k, hk, rfl⟩ := h.pools pool hp
      exact ⟨k, by omega, rfl⟩

/-! ## The grant of a grown fleet -/

theorem grantPools_pending (now : Int) (ready : Bool) (session : String) (clusters : List MemberCluster)
    {pools : List ManagedPool} (pending : ∀ pool ∈ pools, pool.state = .pending) (unseen : s.views = .empty) :
    ∃ controls, grantPools now ready session clusters pools s = .ok (controls, s) := by
  induction pools with
  | nil => exact ⟨[], rfl⟩
  | cons pool rest ih =>
    obtain ⟨controls, hc⟩ := ih fun x hx => pending x (List.mem_cons_of_mem _ hx)
    have closed : pool.accepting now ready clusters = false := by
      unfold ManagedPool.accepting
      rw [pending pool (List.mem_cons_self ..)]
      rfl
    have first : grantPool now ready session clusters pool s = .ok (⟨pool.id, pool.generation, false⟩, s) := by
      unfold grantPool
      simp only [Tx.read_bind, unseen, Table.get?_empty, closed]
      rfl
    refine ⟨⟨pool.id, pool.generation, false⟩ :: controls, ?_⟩
    rw [grantPools, Tx.bind_of_ok first, Tx.bind_of_ok hc]
    rfl

theorem grown_grant {version : Nat} {session : String} (nonce token : String) (h : Grown env version n s)
    (uuid : env.isUuid session = true) :
    ∃ r, Fleet.trafficSnapshot env 0 0 nonce token session none s = .ok r ∧ r.1.pools.length = n := by
  have opened : ∃ t, s.sessions.insert? (openedSession 0 session none) = some t ∧
      t.get? session = some (openedSession 0 session none) := by
    obtain ⟨t, ht⟩ := Table.insert?_of_none (r := openedSession 0 session none) (t := s.sessions)
      (by rw [h.sessions]; rfl)
    exact ⟨t, ht, Table.get?_insert?_self ht⟩
  obtain ⟨t, ht, found⟩ := opened
  let row := openedSession 0 session none
  have pending : ∀ pool ∈ s.listed, pool.state = .pending := by
    intro pool hp
    obtain ⟨k, -, rfl⟩ := h.pools pool ((s.listed_spec.1 pool).1 hp)
    rfl
  have live : ¬(openedSession 0 session none).closed = true := Bool.false_ne_true
  have same : ¬(openedSession 0 session none).identity ≠ none := fun other => other rfl
  have opens : openSession 0 session none s = .ok (row, { s with sessions := t }) := by
    unfold openSession
    rw [Tx.write_bind, ht, Option.getD_some, Tx.read_bind, Tx.bind_of_ok (Tx.expect_some found),
      Tx.bind_of_ok (Tx.reject_of_not live), Tx.bind_of_ok (Tx.reject_of_not same)]
    rfl
  -- the session is stored, and there is no older grant
  let served : State := { s with
    sessions := t.put (row.delivered 0 1 nonce)
    grants := s.grants.deleteWhere fun g => g.sessionId == session && decide (g.expiresAt < 0 - seconds 120) }
  obtain ⟨controls, hc⟩ := grantPools_pending (s := served) 0
    (identityReady env row) session s.clusters.rows pending h.views
  obtain ⟨grants, hg⟩ := Table.insert?_of_none (t := served.grants)
    (r := ⟨env.sha256 token, session, 0 + seconds leaseSeconds, (controls.filter fun c => c.accepting).map fun c =>
      (c.id, c.generation)⟩) (by
      show (s.grants.deleteWhere _).get? _ = none
      rw [h.grants]
      rfl)
  have first : checkedAdd row.sequence 1 = some 1 := checkedAdd_some.2 ⟨rfl, by decide⟩
  have done : Fleet.trafficSnapshot env 0 0 nonce token session none s =
      .ok (⟨token, session, 1, nonce, leaseSeconds, controls⟩, { served with grants := grants }) := by
    unfold Fleet.trafficSnapshot
    rw [Tx.bind_of_ok (Tx.reject_of_not (by rw [uuid]; decide))]
    show grantSnapshot env 0 nonce token session none s = _
    unfold grantSnapshot
    rw [Tx.read_bind, Tx.bind_of_ok opens, Tx.bind_of_ok (Tx.expect_some (a := 1) first), putSession_bind,
      Tx.write_bind, Tx.read_bind]
    show (grantPools 0 (identityReady env row) session s.clusters.rows s.listed >>= _) served = _
    rw [Tx.bind_of_ok hc, Tx.read_bind, Tx.bind_of_ok (Tx.expect_some hg)]
    rfl
  refine ⟨_, done, ?_⟩
  obtain ⟨row, snapshot⟩ := trafficSnapshot_ok done
  rw [snapshot.answer, List.length_map]
  show (s.pools.rows.insertionSort _).length = n
  rw [List.length_insertionSort, h.count]

/-! ## Runs -/

variable {digests : Digests} {secretHash : String → Digest}

theorem Step.runAll_append (before after : List (Step env)) (p : Plane) :
    Step.runAll digests secretHash (before ++ after) p = Step.runAll digests secretHash after
      (Step.runAll digests secretHash before p) :=
  List.foldl_append

theorem granted_append (session : String) (before after : List (Step env)) :
    ∀ p, granted digests secretHash session (before ++ after) p =
    granted digests secretHash session before p ++ granted digests secretHash session after
      (Step.runAll digests secretHash before p) := by
  induction before with
  | nil => exact fun _ => rfl
  | cons step rest ih =>
    intro p
    rw [List.cons_append, granted, granted, ih, List.append_assoc]
    rfl

/-- The catalog of the console and one member cluster. -/
def foundation (env : Fleet.Env) : List (Step env) :=
  [.money .bootstrapCatalog, .fleet ⟨.registerCluster 0 "token" ⟨"member", "apps", 30⟩, rfl⟩]

/-- One more deployment, and a pool bound to it. -/
def grow (env : Fleet.Env) (k : Nat) : List (Step env) :=
  [.fleet ⟨.putDesired 0 "admin" "member" ⟨k, [grownItem k]⟩, rfl⟩, .bindPool 0 (label k) (grownBinding k) []]

/-- `n` pools are bound. -/
def growth (env : Fleet.Env) (n : Nat) : List (Step env) := foundation env ++ (List.range n).flatMap (grow env)

theorem setState_state (p : Plane) (s : State) : (p.setState s).state = s := rfl

theorem setState_keys (p : Plane) (s : State) : (p.setState s).db.books.apiKeys = p.db.books.apiKeys := rfl

theorem grow_state (k : Nat) (p : Plane) : (Step.runAll digests secretHash (grow env k) p).state =
    (Fleet.Op.bindPool 0 ("managed-" ++ label k) (grownBinding k) []).run env
      ((Fleet.Op.putDesired 0 "admin" "member" ⟨k, [grownItem k]⟩).run env p.state) := by
  unfold grow Step.runAll
  rw [List.foldl_cons, List.foldl_cons, List.foldl_nil]
  simp only [Step.exec, setState_state]

theorem grow_keys (k : Nat) (p : Plane) : (Step.runAll digests secretHash (grow env k) p).db.books.apiKeys =
    p.db.books.apiKeys := by
  unfold grow Step.runAll
  rw [List.foldl_cons, List.foldl_cons, List.foldl_nil]
  simp only [Step.exec, setState_keys]

theorem foundation_grown : Grown env 0 0 (Step.runAll digests secretHash (foundation env) .empty).state ∧
    (Step.runAll digests secretHash (foundation env) .empty).db.books.apiKeys = .empty := by
  let db := (Tx.commit bootstrapCatalog Db.empty).2
  have model : ∃ row, db.books.catalog.get? Model.default.id = some row ∧ row.enabled = true := by
    refine ⟨⟨Model.default.id, 1, true, some "demo-pool", Model.default⟩, ?_, rfl⟩
    decide
  have keys : db.books.apiKeys = .empty := rfl
  let s : State := { State.empty with catalog := db.books.catalog }
  have done : registerCluster env 0 "token" ⟨"member", "apps", 30⟩ s =
      .ok (grownCluster env 0, { s with clusters := (s.clusters.insert? (grownCluster env 0)).getD s.clusters }) := by
    unfold registerCluster
    rw [Tx.bind_of_ok (Tx.reject_of_not (by decide))]
    rfl
  have state : (Step.runAll digests secretHash (foundation env) .empty).state =
      { s with clusters := (s.clusters.insert? (grownCluster env 0)).getD s.clusters } := by
    unfold foundation Step.runAll
    rw [List.foldl_cons, List.foldl_cons, List.foldl_nil]
    simp only [Step.exec, setState_state]
    show (Tx.commit (registerCluster env 0 "token" ⟨"member", "apps", 30⟩) s).2 = _
    rw [Tx.commit_of_ok done]
  rw [state]
  refine ⟨⟨rfl, model, fun _ _ => rfl, rfl, rfl, fun pool hp => absurd hp (Table.not_mem_empty pool), rfl, rfl, rfl⟩,
    ?_⟩
  unfold foundation Step.runAll
  rw [List.foldl_cons, List.foldl_cons, List.foldl_nil]
  simp only [Step.exec, setState_keys]
  exact keys

theorem growth_grown (digests : Digests) (secretHash : String → Digest)
    (short : ∀ k, (env.encode [grownItem k]).utf8ByteSize ≤ payloadLimit) :
    ∀ {n : Nat}, n ≤ labels → Grown env n n (Step.runAll digests secretHash (growth env n) .empty).state ∧
      (Step.runAll digests secretHash (growth env n) .empty).db.books.apiKeys = .empty := by
  intro n
  induction n with
  | zero => exact fun _ => foundation_grown
  | succ n ih =>
    intro hn
    obtain ⟨grown, keys⟩ := ih (by omega)
    have run : growth env (n + 1) = growth env n ++ grow env n := by
      unfold growth
      rw [List.range_succ, List.flatMap_append, List.append_assoc, List.flatMap_singleton]
    rw [run, Step.runAll_append]
    obtain ⟨desired, stored⟩ := grow_desired grown (by omega) (short n)
    refine ⟨?_, by rw [grow_keys]; exact keys⟩
    rw [grow_state]
    exact grow_bind desired (by omega) stored

end Xscope.Serving

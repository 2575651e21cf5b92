/-
Cluster delivery. The stored revisions of a cluster are exactly the versions up to the desired
one, a version is handed out under at most one lease at a time, and it is acknowledged only by a
report that holds the lease it was handed out under.
-/
import Xscope.Fleet.Steps

namespace Xscope.Fleet

variable {env : Env} {s s' : State} {op : Op}

/-! ## What a move does to clusters and revisions -/

inductive Delivers (env : Env) (op : Op) (s s' : State) : Prop
  | unchanged (clusters : s'.clusters = s.clusters) (revisions : s'.revisions = s.revisions)
  | registered {now : Int} {digest : String} {request : RegisterCluster}
      (inserted : s.clusters.insert? (registeredCluster now digest request) = some s'.clusters)
      (revisions : s'.revisions = s.revisions)
  | stepped {row row' : MemberCluster} (found : s.clusters.get? row.id = some row)
      (step : ClusterStep env s op row row')
      (clusters : s'.clusters = s.clusters.put row') (revisions : s'.revisions = s.revisions)
  | revised {row : MemberCluster} {payload : List DesiredDeployment} {actor : String}
      (found : s.clusters.get? row.id = some row)
      (clusters : s'.clusters = s.clusters.put { row with desiredVersion := row.desiredVersion + 1 })
      (inserted : s.revisions.insert? ⟨row.id, row.desiredVersion + 1, payload, env.digest payload, actor⟩ =
      some s'.revisions)

theorem Move.delivers (m : Move env op s s') : Delivers env op s s' := by
  cases m with
  | registered inserted => exact .registered inserted rfl
  | cluster found step => exact .stepped found step rfl rfl
  | desired found _ _ _ inserted =>
    obtain rfl := Table.get?_key found
    exact .revised found rfl inserted
  | rescaled _ _ _ _ member _ _ _ next inserted =>
    obtain rfl := Table.get?_key member
    subst next
    exact .revised member rfl inserted
  | snapshot h => rw [h.tables]; exact .unchanged rfl rfl
  | acked h => rw [h.tables]; exact .unchanged rfl rfl
  | _ => exact .unchanged rfl rfl

/-- A step of a cluster's row keeps its identity and its desired version, and acknowledges what is
stored. -/
structure SameCluster (s : State) (row row' : MemberCluster) : Prop where
  id : row'.id = row.id
  desired : row'.desiredVersion = row.desiredVersion
  acknowledged : row'.acknowledgedVersion = row.acknowledgedVersion ∨
    row.acknowledgedVersion ≤ row'.acknowledgedVersion ∧
    ∃ revision, s.revisions.get? (row.id, row'.acknowledgedVersion) = some revision

theorem ClusterStep.same {row row' : MemberCluster} (h : ClusterStep env s op row row') : SameCluster s row row' := by
  cases h with
  | @reported _ _ _ _ _ revision report _ _ stored _ _ _ _ newer =>
    refine ⟨rfl, rfl, ?_⟩
    unfold MemberCluster.reported
    dsimp only
    split
    · exact .inr ⟨newer, revision, stored⟩
    · exact .inl rfl
  | _ => exact ⟨rfl, rfl, .inl rfl⟩

/-! ## The invariant -/

/-- Versions are acknowledged up to the desired one, which is the newest stored; every stored
revision carries the digest of its payload. -/
structure Delivered (env : Env) (s : State) : Prop where
  ordered : ∀ c ∈ s.clusters, 0 ≤ c.acknowledgedVersion ∧ c.acknowledgedVersion ≤ c.desiredVersion
  contiguous : ∀ c ∈ s.clusters, ∀ v, (∃ r, s.revisions.get? (c.id, v) = some r) ↔ 1 ≤ v ∧ v ≤ c.desiredVersion
  owned : ∀ r ∈ s.revisions, ∃ c, s.clusters.get? r.clusterId = some c
  hashed : ∀ r ∈ s.revisions, r.sha256 = env.digest r.payload

theorem Delivered.empty : Delivered env State.empty :=
  ⟨fun _ h => absurd h (Table.not_mem_empty _), fun _ h => absurd h (Table.not_mem_empty _),
    fun _ h => absurd h (Table.not_mem_empty _), fun _ h => absurd h (Table.not_mem_empty _)⟩

theorem Delivered.step (d : Delivered env s) (m : Move env op s s') : Delivered env s' := by
  cases m.delivers with
  | unchanged clusters revisions =>
    refine ⟨fun c hc => ?_, fun c hc v => ?_, fun r hr => ?_, fun r hr => ?_⟩
    · exact d.ordered c (clusters ▸ hc)
    · rw [revisions]; exact d.contiguous c (clusters ▸ hc) v
    · rw [clusters]; exact d.owned r (revisions ▸ hr)
    · exact d.hashed r (revisions ▸ hr)
  | @registered now digest request inserted revisions =>
    have fresh := (Table.insert?_some inserted).1
    refine ⟨fun c hc => ?_, fun c hc v => ?_, fun r hr => ?_, fun r hr => d.hashed r (revisions ▸ hr)⟩
    · rcases (Table.mem_insert? inserted).1 hc with rfl | hc
      · exact ⟨le_rfl, le_rfl⟩
      · exact d.ordered c hc
    · rw [revisions]
      rcases (Table.mem_insert? inserted).1 hc with rfl | hc
      · -- no revision is stored for a cluster that was not there
        constructor
        · rintro ⟨r, hr⟩
          obtain ⟨hm, hk⟩ := Table.get?_some_iff.1 hr
          obtain ⟨c, hc⟩ := d.owned r hm
          rw [(Prod.mk.inj hk).1] at hc
          exact absurd (fresh.symm.trans hc) (by simp)
        · rintro ⟨h1, h2⟩
          have : v ≤ 0 := h2
          omega
      · exact d.contiguous c hc v
    · obtain ⟨c, hc⟩ := d.owned r (revisions ▸ hr)
      exact Table.insert?_keeps inserted hc
  | @stepped row row' found step clusters revisions =>
    have same := step.same
    -- only a stored version can be acknowledged, and the stored ones end at the desired one
    have bound : row'.acknowledgedVersion ≤ row.desiredVersion ∧ 0 ≤ row'.acknowledgedVersion := by
      obtain ⟨h0, h1⟩ := d.ordered row (Table.get?_mem found)
      rcases same.acknowledged with he | ⟨-, revision, stored⟩
      · rw [he]; exact ⟨h1, h0⟩
      · obtain ⟨h2, h3⟩ := (d.contiguous row (Table.get?_mem found) _).1 ⟨revision, stored⟩
        exact ⟨h3, by omega⟩
    refine ⟨fun c hc => ?_, fun c hc v => ?_, fun r hr => ?_, fun r hr => d.hashed r (revisions ▸ hr)⟩
    · rw [clusters] at hc
      rcases Table.mem_put.1 hc with ⟨hc, -⟩ | ⟨rfl, -⟩
      · exact d.ordered c hc
      · rw [same.desired]; exact ⟨bound.2, bound.1⟩
    · rw [revisions]
      rw [clusters] at hc
      rcases Table.mem_put.1 hc with ⟨hc, -⟩ | ⟨rfl, -⟩
      · exact d.contiguous c hc v
      · rw [same.id, same.desired]; exact d.contiguous row (Table.get?_mem found) v
    · rw [clusters]
      obtain ⟨c, hc⟩ := d.owned r (revisions ▸ hr)
      exact Table.put_keeps row' hc
  | @revised row payload actor found clusters inserted =>
    -- the new revision follows the newest
    have next := d.contiguous row (Table.get?_mem found)
    obtain ⟨h0, h1⟩ := d.ordered row (Table.get?_mem found)
    refine ⟨fun c hc => ?_, fun c hc v => ?_, fun r hr => ?_, fun r hr => ?_⟩
    · rw [clusters] at hc
      rcases Table.mem_put.1 hc with ⟨hc, -⟩ | ⟨rfl, -⟩
      · exact d.ordered c hc
      · have : row.acknowledgedVersion ≤ row.desiredVersion + 1 := by omega
        exact ⟨h0, this⟩
    · rw [clusters] at hc
      rw [Table.get?_insert? inserted]
      show (∃ r, (if (row.id, row.desiredVersion + 1) = (c.id, v) then _ else _) = some r) ↔ _
      rcases Table.mem_put.1 hc with ⟨hc, hne⟩ | ⟨rfl, -⟩
      · have apart : ¬(row.id, row.desiredVersion + 1) = (c.id, v) := fun he => hne (Prod.mk.inj he).1.symm
        rw [if_neg apart]
        exact d.contiguous c hc v
      · show (∃ r, (if (row.id, row.desiredVersion + 1) = (row.id, v) then _ else _) = some r) ↔
          1 ≤ v ∧ v ≤ row.desiredVersion + 1
        by_cases hv : row.desiredVersion + 1 = v
        · rw [if_pos (by rw [hv])]
          exact ⟨fun _ => by omega, fun _ => ⟨_, rfl⟩⟩
        · rw [if_neg fun he => hv (Prod.mk.inj he).2, next v]
          omega
    · rw [clusters]
      rcases (Table.mem_insert? inserted).1 hr with rfl | hr
      · exact Table.put_keeps _ found
      · obtain ⟨c, hc⟩ := d.owned r hr
        exact Table.put_keeps _ hc
    · rcases (Table.mem_insert? inserted).1 hr with rfl | hr
      · rfl
      · exact d.hashed r hr

theorem Reachable.delivered (h : Reachable env s) : Delivered env s := h.invariant .empty fun m d => d.step m

/-! ## Monotonicity -/

/-- Versions never decrease and stored revisions never change. -/
structure Grows (s s' : State) : Prop where
  versions : ∀ id c, s.clusters.get? id = some c → ∃ c', s'.clusters.get? id = some c' ∧
    c.desiredVersion ≤ c'.desiredVersion ∧ c.acknowledgedVersion ≤ c'.acknowledgedVersion
  immutable : ∀ k r, s.revisions.get? k = some r → s'.revisions.get? k = some r

theorem Grows.refl (s : State) : Grows s s := ⟨fun _ c h => ⟨c, h, le_rfl, le_rfl⟩, fun _ _ h => h⟩

theorem Grows.trans {s t u : State} (h : Grows s t) (k : Grows t u) : Grows s u := by
  refine ⟨fun id c hc => ?_, fun key r hr => k.immutable key r (h.immutable key r hr)⟩
  obtain ⟨c₁, h₁, d₁, a₁⟩ := h.versions id c hc
  obtain ⟨c₂, h₂, d₂, a₂⟩ := k.versions id c₁ h₁
  exact ⟨c₂, h₂, d₁.trans d₂, a₁.trans a₂⟩

theorem Move.grows (m : Move env op s s') : Grows s s' := by
  have put : ∀ {row row' : MemberCluster}, s.clusters.get? row.id = some row → row'.id = row.id →
      row.desiredVersion ≤ row'.desiredVersion → row.acknowledgedVersion ≤ row'.acknowledgedVersion →
      s'.clusters = s.clusters.put row' → ∀ id c, s.clusters.get? id = some c → ∃ c', s'.clusters.get? id = some c' ∧
        c.desiredVersion ≤ c'.desiredVersion ∧ c.acknowledgedVersion ≤ c'.acknowledgedVersion := by
    intro row row' found hid desired acknowledged clusters id c hc
    rw [clusters, Table.get?_put_at (r := row') hid found]
    split
    · rename_i he
      rw [← he, found] at hc
      cases hc
      exact ⟨row', rfl, desired, acknowledged⟩
    · exact ⟨c, hc, le_rfl, le_rfl⟩
  cases m.delivers with
  | unchanged clusters revisions =>
    exact ⟨fun id c hc => ⟨c, by rw [clusters]; exact hc, le_rfl, le_rfl⟩, fun k r hr => by rw [revisions]; exact hr⟩
  | registered inserted revisions =>
    exact ⟨fun id c hc => ⟨c, Table.get?_insert?_old inserted hc, le_rfl, le_rfl⟩,
      fun k r hr => by rw [revisions]; exact hr⟩
  | stepped found step clusters revisions =>
    have same := step.same
    refine ⟨put found same.id same.desired.ge ?_ clusters, fun k r hr => by rw [revisions]; exact hr⟩
    rcases same.acknowledged with he | ⟨hle, -⟩
    · exact he.ge
    · exact hle
  | @revised row _ _ found clusters inserted =>
    have more : row.desiredVersion ≤ row.desiredVersion + 1 := by omega
    exact ⟨@put row { row with desiredVersion := row.desiredVersion + 1 } found rfl more le_rfl clusters,
      fun k r hr => Table.get?_insert?_old inserted hr⟩

theorem Moves.grows (m : Moves env op s s') : Grows s s' := by
  induction m with
  | refl => exact .refl _
  | tail _ move ih => exact ih.trans move.grows

/-! ## Leases -/

/-- The cluster is leased under `lease` at `time`. -/
def State.InForce (s : State) (id lease : String) (time : Int) : Prop :=
  ∃ c, s.clusters.get? id = some c ∧ c.deliveryLease = some lease ∧ c.busy time = true

theorem State.InForce.unique {id a b : String} {time : Int} (ha : s.InForce id a time)
    (hb : s.InForce id b time) : a = b := by
  obtain ⟨c, hc, la, -⟩ := ha
  obtain ⟨d, hd, lb, -⟩ := hb
  rw [hc] at hd
  cases hd
  rw [la] at lb
  exact Option.some.inj lb

/-- A poll that hands out a delivery: the newest revision, under a new lease, while none is in force. -/
structure HandsOut (env : Env) (s : State) (authAt now : Int) (lease id token : String)
    (delivery : ClusterDelivery) : Prop where
  answer : ∃ t, pollCluster env authAt now lease id token s = .ok (⟨some delivery, 15⟩, t)
  newest : ∃ c, s.clusters.get? id = some c ∧ delivery.version = c.desiredVersion
  lease : delivery.lease = lease
  stored : ∃ r, s.revisions.get? (id, delivery.version) = some r ∧ r.sha256 = delivery.sha256 ∧
    r.payload = delivery.deployments
  free : ∀ other, ¬s.InForce id other now

/-- A poll either hands out a delivery and records its lease, or leaves every lease as it is. -/
theorem pollCluster_leases {authAt now : Int} {lease id token : String} {r : Polled × State}
    (h : pollCluster env authAt now lease id token s = .ok r) :
    (∃ c delivery, s.clusters.get? id = some c ∧ HandsOut env s authAt now lease id token delivery ∧
        r.2 = { s with clusters := s.clusters.put (c.leased now delivery.version lease) }) ∨
      r.2 = s ∨ ∃ c, s.clusters.get? id = some c ∧
        r.2 = { s with clusters := s.clusters.put { c with heartbeatAt := some now } } := by
  have run := h
  unfold pollCluster at h
  simp only [authenticated_bind] at h
  obtain ⟨row, found, auth, h⟩ := h
  obtain rfl := Table.get?_key found
  split at h
  · cases Tx.pure_ok.1 h
    exact .inr (.inl rfl)
  · rename_i idle
    split at h
    · simp only [Tx.read_bind, Tx.expect_bind, putCluster_bind, Tx.pure_ok] at h
      obtain ⟨revision, stored, rfl⟩ := h
      have hk := (Prod.mk.inj (Table.get?_key stored : (revision.clusterId, revision.version) = _)).2
      refine .inl ⟨row, row.delivery revision lease, found,
        ⟨⟨_, run⟩, ⟨row, found, hk⟩, rfl, ⟨revision, ?_, rfl, rfl⟩, ?_⟩, rfl⟩
      · show s.revisions.get? (row.id, revision.version) = _
        rw [hk]; exact stored
      · rintro other ⟨c, hc, -, busy⟩
        cases Option.some.inj (found.symm.trans hc)
        exact idle busy
    · simp only [putCluster_bind, Tx.pure_ok] at h
      cases h
      exact .inr (.inr ⟨row, found, rfl⟩)

/-- The lease of a cluster's row was dropped, or it is the old one. -/
def KeepsLease (c c' : MemberCluster) : Prop :=
  c'.deliveryLease = none ∨ c'.deliveryLease = c.deliveryLease ∧ c'.deliveryVersion = c.deliveryVersion ∧
    c'.leaseUntil = c.leaseUntil

/-- No operation but a poll hands out a lease. -/
theorem Move.keepsLease (m : Move env op s s')
    (other : ∀ authAt now lease id token, op ≠ .pollDelivery authAt now lease id token) {id : String}
    {c' : MemberCluster} (h : s'.clusters.get? id = some c') :
    c'.deliveryLease = none ∨ ∃ c, s.clusters.get? id = some c ∧ KeepsLease c c' := by
  have put : ∀ {row row' : MemberCluster}, s.clusters.get? row.id = some row → row'.id = row.id → KeepsLease row row' →
      s'.clusters = s.clusters.put row' → c'.deliveryLease = none ∨ ∃ c, s.clusters.get? id = some c ∧
        KeepsLease c c' := by
    intro row row' found hid keeps clusters
    rw [clusters, Table.get?_put_at (r := row') hid found] at h
    split at h
    · rename_i he
      cases h
      exact .inr ⟨row, by rw [← he]; exact found, keeps⟩
    · exact .inr ⟨c', h, .inr ⟨rfl, rfl, rfl⟩⟩
  cases m.delivers with
  | unchanged clusters => rw [clusters] at h; exact .inr ⟨c', h, .inr ⟨rfl, rfl, rfl⟩⟩
  | registered inserted =>
    rw [Table.get?_insert? inserted] at h
    split at h
    · cases h; exact .inl rfl
    · exact .inr ⟨c', h, .inr ⟨rfl, rfl, rfl⟩⟩
  | stepped found step clusters =>
    refine put found step.same.id ?_ clusters
    cases step with
    | rotated => exact .inl rfl
    | revoked => exact .inl rfl
    | heartbeat => exact absurd rfl (other _ _ _ _ _)
    | leased => exact absurd rfl (other _ _ _ _ _)
    | reported => exact .inl rfl
  | @revised row _ _ found clusters _ =>
    exact @put row { row with desiredVersion := row.desiredVersion + 1 } found rfl (.inr ⟨rfl, rfl, rfl⟩) clusters

theorem Moves.keepsLease (m : Moves env op s s')
    (other : ∀ authAt now lease id token, op ≠ .pollDelivery authAt now lease id token) {id : String}
    {c' : MemberCluster} (h : s'.clusters.get? id = some c') :
    c'.deliveryLease = none ∨ ∃ c, s.clusters.get? id = some c ∧ KeepsLease c c' := by
  induction m generalizing c' with
  | refl => exact .inr ⟨c', h, .inr ⟨rfl, rfl, rfl⟩⟩
  | tail _ move ih =>
    rcases move.keepsLease other h with hn | ⟨c₁, h₁, hn | ⟨l, v, u⟩⟩
    · exact .inl hn
    · exact .inl hn
    · rcases ih h₁ with hn | ⟨c, hc, hn | ⟨l', v', u'⟩⟩
      · exact .inl (l.trans hn)
      · exact .inl (l.trans hn)
      · exact .inr ⟨c, hc, .inr ⟨l.trans l', v.trans v', u.trans u'⟩⟩

/-! ## Runs -/

/-- The lease on the row was handed out by an earlier poll, with the version on the row. -/
def HandedOut (env : Env) (ops : List Op) (id : String) (c : MemberCluster) (lease : String) : Prop :=
  ∃ before authAt now token after delivery, ops = before ++ .pollDelivery authAt now lease id token :: after ∧
    HandsOut env (Op.runAll env before State.empty) authAt now lease id token delivery ∧
    delivery.version = c.deliveryVersion ∧ c.leaseUntil = some (now + seconds 60)

theorem HandedOut.more {ops : List Op} {id lease : String} {c c' : MemberCluster}
    (h : HandedOut env ops id c lease) (last : Op) (version : c'.deliveryVersion = c.deliveryVersion)
    (until_ : c'.leaseUntil = c.leaseUntil) :
    HandedOut env (ops ++ [last]) id c' lease := by
  obtain ⟨before, authAt, now, token, after, delivery, rfl, hands, hv, hu⟩ := h
  exact ⟨before, authAt, now, token, after ++ [last], delivery, by simp, hands, hv.trans version.symm, until_.trans hu⟩

theorem handedOut (ops : List Op) : ∀ {id lease : String} {c : MemberCluster},
    (Op.runAll env ops State.empty).clusters.get? id = some c → c.deliveryLease = some lease →
      HandedOut env ops id c lease := by
  induction ops using List.reverseRecOn with
  | nil => intro id lease c hc; cases hc
  | append_singleton ops last ih =>
    intro id lease c hc hl
    rw [Op.runAll_append] at hc
    replace hc : (last.run env (Op.runAll env ops State.empty)).clusters.get? id = some c := hc
    generalize hs : Op.runAll env ops State.empty = s at hc ih
    by_cases poll : ∃ authAt now lease' id' token, last = .pollDelivery authAt now lease' id' token
    · obtain ⟨authAt, now, lease', id', token, rfl⟩ := poll
      have run : (Op.pollDelivery authAt now lease' id' token).run env s =
          (Tx.commit (pollCluster env authAt now lease' id' token) s).2 := rfl
      rcases Tx.commit_cases (pollCluster env authAt now lease' id' token) s with ⟨a, t, hx, hcommit⟩ | ⟨e, -, hcommit⟩
      · rw [run, hcommit] at hc
        rcases pollCluster_leases hx with ⟨c₀, delivery, found, hands, he⟩ | he | ⟨c₀, found, he⟩
        · simp only at he
          subst he
          have hid : c₀.id = id' := Table.get?_key found
          rw [Table.get?_put_at (r := c₀.leased now delivery.version lease') hid found] at hc
          split at hc
          · rename_i hi
            cases hc
            cases hl
            rw [← hi]
            exact ⟨ops, authAt, now, token, [], delivery, rfl, by rw [hs]; exact hands, rfl, rfl⟩
          · exact (ih hc hl).more _ rfl rfl
        · simp only at he
          subst he
          exact (ih hc hl).more _ rfl rfl
        · simp only at he
          subst he
          have hid : c₀.id = id' := Table.get?_key found
          rw [Table.get?_put_at (r := { c₀ with heartbeatAt := some now }) hid found] at hc
          split at hc
          · rename_i hi
            cases hc
            have old := ih found hl
            rw [hi] at old
            exact old.more _ rfl rfl
          · exact (ih hc hl).more _ rfl rfl
      · rw [run, hcommit] at hc
        exact (ih hc hl).more _ rfl rfl
    · have moves : Moves env last s (last.run env s) := last.run_moves s
      rcases moves.keepsLease (fun a b c d e he => poll ⟨a, b, c, d, e, he⟩) hc with hn | ⟨c₀, hc₀, hn | ⟨l, v, u⟩⟩
      · rw [hn] at hl; cases hl
      · rw [hn] at hl; cases hl
      · exact (ih hc₀ (l.symm.trans hl)).more _ v u

/-- The version was delivered under the lease, with the digest. -/
def DeliveredUnder (env : Env) (ops : List Op) (id lease : String) (version : Int) (sha256 : String) : Prop :=
  ∃ before authAt now token after delivery, ops = before ++ .pollDelivery authAt now lease id token :: after ∧
    HandsOut env (Op.runAll env before State.empty) authAt now lease id token delivery ∧
    delivery.version = version ∧ delivery.sha256 = sha256

theorem Op.runAll_grows (ops : List Op) (s : State) : Grows s (Op.runAll env ops s) := by
  induction ops generalizing s with
  | nil => exact .refl s
  | cons op ops ih => exact (Moves.grows (op.run_moves s)).trans (ih (op.run env s))

/-- A revision that was handed out is still what is stored under its version. -/
theorem HandedOut.delivered {ops : List Op} {id lease : String} {c : MemberCluster} {r : ClusterRevision}
    (h : HandedOut env ops id c lease)
    (stored : (Op.runAll env ops State.empty).revisions.get? (id, c.deliveryVersion) = some r) :
    DeliveredUnder env ops id lease c.deliveryVersion r.sha256 := by
  obtain ⟨before, authAt, now, token, after, delivery, rfl, hands, hv, -⟩ := h
  refine ⟨before, authAt, now, token, after, delivery, rfl, hands, hv, ?_⟩
  obtain ⟨r₀, h₀, sha, -⟩ := hands.stored
  have grows : Grows (Op.runAll env before State.empty)
      (Op.runAll env (before ++ .pollDelivery authAt now lease id token :: after) State.empty) := by
    rw [Op.runAll_append]
    exact Op.runAll_grows _ _
  have := grows.immutable _ _ h₀
  rw [hv, stored] at this
  cases this
  exact sha.symm

/-- What an accepted report does: nothing, or it ends the lease it was sent under. -/
theorem reportCluster_inv {authAt now : Int} {id token : String} {report : ClusterReport} {r : Reported × State}
    (h : reportCluster env authAt now id token report s = .ok r) :
    r.2 = s ∨ ∃ c revision, s.clusters.get? id = some c ∧
      ClusterStep env s (.reportDelivery authAt now id token report) c (c.reported now report) ∧
      s.revisions.get? (id, report.version) = some revision ∧
      r.2 = { s with clusters := s.clusters.put (c.reported now report) } := by
  unfold reportCluster at h
  simp only [Tx.reject_bind, authenticated_bind, Tx.read_bind, Tx.expect_bind] at h
  obtain ⟨-, row, found, auth, revision, stored, digest, h⟩ := h
  have hid : row.id = id := Table.get?_key found
  split at h
  · cases Tx.pure_ok.1 h
    exact .inl rfl
  · simp only [Tx.reject_bind, putCluster_bind, Tx.pure_ok, not_or, ne_eq, not_not, Bool.not_eq_false, not_lt] at h
    obtain ⟨⟨version, lease, busy, newer⟩, rfl⟩ := h
    exact .inr ⟨row, revision, found, .reported hid auth (by rw [hid]; exact stored)
      (not_not.1 digest) version lease busy newer, stored, rfl⟩

/-- No operation but a report acknowledges. -/
theorem Move.keepsAcknowledged (m : Move env op s s')
    (other : ∀ authAt now id token report, op ≠ .reportDelivery authAt now id token report) {id : String}
    {c c' : MemberCluster} (h : s.clusters.get? id = some c) (h' : s'.clusters.get? id = some c') :
    c'.acknowledgedVersion = c.acknowledgedVersion := by
  have put : ∀ {row row' : MemberCluster}, s.clusters.get? row.id = some row → row'.id = row.id →
      row'.acknowledgedVersion = row.acknowledgedVersion → s'.clusters = s.clusters.put row' →
      c'.acknowledgedVersion = c.acknowledgedVersion := by
    intro row row' found hid same clusters
    rw [clusters, Table.get?_put_at (r := row') hid found] at h'
    split at h'
    · rename_i he
      rw [← he, found] at h
      cases h
      cases h'
      exact same
    · cases Option.some.inj (h.symm.trans h'); rfl
  cases m.delivers with
  | unchanged clusters => rw [clusters] at h'; cases Option.some.inj (h.symm.trans h'); rfl
  | registered inserted =>
    cases Option.some.inj ((Table.get?_insert?_old inserted h).symm.trans h')
    rfl
  | stepped found step clusters =>
    refine put found step.same.id ?_ clusters
    cases step with
    | reported => exact absurd rfl (other _ _ _ _ _)
    | _ => rfl
  | @revised row _ _ found clusters _ =>
    exact @put row { row with desiredVersion := row.desiredVersion + 1 } found rfl rfl clusters

theorem Moves.keepsAcknowledged (m : Moves env op s s')
    (other : ∀ authAt now id token report, op ≠ .reportDelivery authAt now id token report) {id : String}
    {c c' : MemberCluster} (h : s.clusters.get? id = some c) (h' : s'.clusters.get? id = some c') :
    c'.acknowledgedVersion = c.acknowledgedVersion := by
  induction m generalizing c' with
  | refl => cases Option.some.inj (h.symm.trans h'); rfl
  | tail earlier move ih =>
    obtain ⟨c₁, h₁, -⟩ := (Moves.grows earlier).versions id c h
    rw [move.keepsAcknowledged other h₁ h', ih h₁]

/-- An advance of the acknowledged version: the report of an applied delivery, under the lease in
force, of the version that was delivered under it, with the digest of the stored revision. -/
def Acknowledged (env : Env) (ops : List Op) (s : State) (op : Op) (id : String) (c' : MemberCluster) : Prop :=
  ∃ authAt now token report, op = .reportDelivery authAt now id token report ∧ report.outcome = .applied ∧
    c'.acknowledgedVersion = report.version ∧ s.InForce id report.lease now ∧
    DeliveredUnder env ops id report.lease report.version report.sha256 ∧
    ∃ revision, s.revisions.get? (id, report.version) = some revision ∧ revision.sha256 = report.sha256

theorem acknowledged (ops : List Op) (op : Op) {id : String} {c c' : MemberCluster}
    (h : (Op.runAll env ops State.empty).clusters.get? id = some c)
    (h' : (op.run env (Op.runAll env ops State.empty)).clusters.get? id = some c')
    (advance : c'.acknowledgedVersion ≠ c.acknowledgedVersion) :
    Acknowledged env ops (Op.runAll env ops State.empty) op id c' := by
  by_cases report : ∃ authAt now id' token report, op = .reportDelivery authAt now id' token report
  · obtain ⟨authAt, now, id', token, report, rfl⟩ := report
    have run : (Op.reportDelivery authAt now id' token report).run env (Op.runAll env ops State.empty) =
        (Tx.commit (reportCluster env authAt now id' token report) (Op.runAll env ops State.empty)).2 := rfl
    rw [run] at h'
    rcases Tx.commit_cases (reportCluster env authAt now id' token report) (Op.runAll env ops State.empty) with
      ⟨a, t, hx, hcommit⟩ | ⟨e, -, hcommit⟩
    · rw [hcommit] at h'
      rcases reportCluster_inv hx with he | ⟨row, revision, found, step, stored, he⟩
      · simp only at he
        subst he
        cases Option.some.inj (h.symm.trans h')
        exact absurd rfl advance
      · simp only at he
        subst he
        have hid : row.id = id' := Table.get?_key found
        rw [Table.get?_put_at (r := row.reported now report) hid found] at h'
        split at h'
        · rename_i same
          subst same
          cases h'
          cases Option.some.inj (found.symm.trans h)
          have outcome : report.outcome = .applied := by
            by_contra hn
            exact advance (if_neg hn)
          cases step with
          | reported own auth stored' digest version lease busy newer =>
            have handed := handedOut ops found lease
            rw [hid, stored] at stored'
            cases stored'
            refine ⟨authAt, now, token, report, rfl, outcome, if_pos outcome, ⟨_, found, lease, busy⟩, ?_, revision,
              stored, digest⟩
            rw [← version] at stored ⊢
            rw [← digest]
            exact handed.delivered stored
        · cases Option.some.inj (h.symm.trans h')
          exact absurd rfl advance
    · rw [hcommit] at h'
      cases Option.some.inj (h.symm.trans h')
      exact absurd rfl advance
  · have moves : Moves env op _ _ := op.run_moves (Op.runAll env ops State.empty)
    exact absurd (moves.keepsAcknowledged (fun a b c d e he => report ⟨a, b, c, d, e, he⟩) h h') advance

/-- In every run the stored revisions of a cluster are the versions up to its desired one, versions
and revisions only grow, a delivery is handed out when no lease is in force, at most one is at any
time, and the acknowledged version advances only under the lease its version was delivered with. -/
theorem Op.runAll_delivery (env : Env) (before : List Op) (op : Op) :
    let s := Op.runAll env before State.empty
    let s' := op.run env s
    Delivered env s ∧ Grows s s' ∧
      (∀ id a b time, s.InForce id a time → s.InForce id b time → a = b) ∧
      (∀ authAt now lease id token delivery retry t,
        pollCluster env authAt now lease id token s = .ok (⟨some delivery, retry⟩, t) →
          ∀ other, ¬s.InForce id other now) ∧
      ∀ id c c', s.clusters.get? id = some c → s'.clusters.get? id = some c' →
        c'.acknowledgedVersion ≠ c.acknowledgedVersion → Acknowledged env before s op id c' := by
  intro s s'
  refine ⟨Reachable.delivered ⟨before, rfl⟩, Moves.grows (op.run_moves s), fun _ _ _ _ ha hb => ha.unique hb, ?_,
    fun _ _ _ h h' => acknowledged before op h h'⟩
  intro authAt now lease id token delivery retry t h
  unfold pollCluster at h
  simp only [authenticated_bind] at h
  obtain ⟨row, found, -, h⟩ := h
  split at h
  · cases Tx.pure_ok.1 h
  · rename_i idle
    rintro other ⟨c, hc, -, busy⟩
    cases Option.some.inj (found.symm.trans hc)
    exact idle busy

end Xscope.Fleet

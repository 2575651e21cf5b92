/-
Acknowledged means applied. The agents report how their runs ended, and a report arrives late, twice, out of
order or never. While nobody else reports for the cluster, every item of the version that the control plane
takes as acknowledged has been applied to it.
-/
import Xscope.Member.Restart

namespace Xscope.Member

open Fleet

variable {env : Env} {model : String → Json → Option Json} {config : Config}

/-! ## Reports -/

/-- What the agent reports once `apply` has returned. -/
def Run.report (run : Run) : Option ClusterReport := match run.phase with
  | .finished (.ok _) => some ⟨run.delivery.version, run.delivery.sha256, run.delivery.lease, .applied, none⟩
  | .finished (.error code) =>
    some ⟨run.delivery.version, run.delivery.sha256, run.delivery.lease, .rejected, some code⟩
  | _ => none

/-- What it reports when `apply` has not returned in time. -/
def Run.overdue (run : Run) : Option ClusterReport := match run.phase with
  | .finished _ => none
  | _ => some ⟨run.delivery.version, run.delivery.sha256, run.delivery.lease, .rejected, some .applyTimeout⟩

/-- The system, the runs that were dropped at their deadline, and the reports that were sent. -/
structure Agents where
  system : System
  dropped : List Nat
  sent : List ClusterReport

def Agents.start (cluster : Cluster) : Agents := ⟨.start cluster, [], []⟩

/-- The operation is no report for the cluster. -/
def elsewhere (clusterId : String) : Act → Bool
  | .plane (.reportDelivery _ _ id _ _) => id != clusterId
  | _ => true

/-- A step of the agents: of the system, the deadline of a run, a report on its way, or its arrival. -/
inductive Agents.Event (clusterId : String) where
  | act (act : Act) (other : elsewhere clusterId act = true)
  | expire (run : Nat)
  | send (run : Nat)
  | arrive (n : Nat) (authAt now : Int) (token : String)

/-- A dropped run makes no further call; the one it was dropped at may still take effect. -/
def dropped : Act → Option Act
  | .write i uid _ => some (.write i uid true)
  | _ => none

variable (env model config) in
def Agents.act (agents : Agents) (act : Act) : Agents :=
  if act.of.any fun i => agents.dropped.contains i then
    match Member.dropped act with
    | some act => { agents with system := act.run env model config agents.system }
    | none => agents
  else { agents with system := act.run env model config agents.system }

def Agents.expire (agents : Agents) (i : Nat) : Agents :=
  if agents.dropped.contains i then agents
  else match agents.system.runs[i]?.bind Run.overdue with
  | some report => { agents with dropped := i :: agents.dropped, sent := report :: agents.sent }
  | none => agents

def Agents.send (agents : Agents) (i : Nat) : Agents :=
  if agents.dropped.contains i then agents
  else match agents.system.runs[i]?.bind Run.report with
  | some report => { agents with sent := report :: agents.sent }
  | none => agents

variable (env config) in
def Agents.arrive (agents : Agents) (n : Nat) (authAt now : Int) (token : String) : Agents := match agents.sent[n]? with
  | some report =>
    let op := Op.reportDelivery authAt now config.clusterId token report
    { agents with system := { agents.system with plane := op.run env agents.system.plane } }
  | none => agents

variable (env model config) in
def Agents.step (agents : Agents) : Agents.Event config.clusterId → Agents
  | .act act _ => agents.act env model config act
  | .expire i => agents.expire i
  | .send i => agents.send i
  | .arrive n authAt now token => agents.arrive env config n authAt now token

variable (env model config) in
def Agents.run (agents : Agents) (events : List (Agents.Event config.clusterId)) : Agents :=
  events.foldl (Agents.step env model config) agents

/-- A step of the agents is at most one step of the system. -/
theorem Agents.act_cases (env : Env) (model : String → Json → Option Json) (config : Config) (agents : Agents)
    (act : Act) : agents.act env model config act = agents ∨ ∃ act' : Act, agents.act env model config act =
    { agents with system := act'.run env model config agents.system } ∧
      (act' = act ∨ ∃ i uid, act' = .write i uid true) := by
  unfold Agents.act
  split
  · cases act with
    | write i uid lost => exact .inr ⟨.write i uid true, rfl, .inr ⟨i, uid, rfl⟩⟩
    | _ => exact .inl rfl
  · exact .inr ⟨act, rfl, .inl rfl⟩

theorem Agents.expire_cases (agents : Agents) (i : Nat) :
    agents.expire i = agents ∨ ∃ report : ClusterReport, report.outcome = .rejected ∧
    agents.expire i = { agents with dropped := i :: agents.dropped, sent := report :: agents.sent } := by
  unfold Agents.expire
  split
  · exact .inl rfl
  · split
    · rename_i report found
      obtain ⟨run, -, overdue⟩ := Option.bind_eq_some_iff.1 found
      unfold Run.overdue at overdue
      split at overdue
      · cases overdue
      · cases overdue
        exact .inr ⟨_, rfl, rfl⟩
    · exact .inl rfl

theorem Agents.send_cases (agents : Agents) (i : Nat) : agents.send i = agents ∨ ∃ run ∈ agents.system.runs, ∃ report,
    run.report = some report ∧ agents.send i = { agents with sent := report :: agents.sent } := by
  unfold Agents.send
  split
  · exact .inl rfl
  · split
    · rename_i report found
      obtain ⟨run, at_, reported⟩ := Option.bind_eq_some_iff.1 found
      exact .inr ⟨run, List.mem_of_getElem? at_, report, reported, rfl⟩
    · exact .inl rfl

/-! ## Contents -/

/-- The content of an object is what the item of the stored revision says, under the labels of the cluster. -/
def Standing (model : String → Json → Option Json) (config : Config) (plane : State) (name : String)
    (content : ModelDeployment) : Prop :=
  ∃ revision, plane.revisions.get? (config.clusterId, revision.version) = some revision ∧
    ∃ item ∈ revision.payload, item.name = name ∧
    ∃ spec desired, item.spec = some spec ∧ model item.name spec = some desired ∧
      content = ⟨some config.clusterId, some revision.version, some revision.sha256, desired⟩

theorem Standing.grows {plane plane' : State} {name : String} {content : ModelDeployment}
    (h : Standing model config plane name content) (grows : Grows plane plane') :
    Standing model config plane' name content := by
  obtain ⟨revision, stored, rest⟩ := h
  exact ⟨revision, grows.immutable _ _ stored, rest⟩

/-- The specs that a run writes are those of its delivery, and its digest is the stored one. -/
structure Meant (model : String → Json → Option Json) (config : Config) (plane : State) (run : Run) : Prop where
  stored : ∃ revision, plane.revisions.get? (config.clusterId, run.delivery.version) = some revision ∧
    revision.payload = run.delivery.deployments ∧ revision.sha256 = run.delivery.sha256
  desired : ∀ p ∈ run.rest, p.1 ∈ run.delivery.deployments ∧ p.2 = p.1.spec.bind (model p.1.name)
  writing : ∀ m, run.phase = .writing m → ∃ item ∈ run.delivery.deployments, m.name = item.name ∧
    ∀ content, m.content = some content → ∃ spec desired, item.spec = some spec ∧ model item.name spec = some desired ∧
      content = applied config run.delivery desired

theorem Meant.grows {plane plane' : State} {run : Run} (h : Meant model config plane run) (grows : Grows plane plane') :
    Meant model config plane' run := by
  obtain ⟨revision, stored, same⟩ := h.stored
  exact ⟨⟨revision, grows.immutable _ _ stored, same⟩, h.desired, h.writing⟩

theorem Meant.failed {plane : State} {run : Run} (h : Meant model config plane run) :
    Meant model config plane run.failed := by
  unfold Run.failed
  split
  · exact h
  · exact ⟨h.stored, h.desired, nofun⟩

theorem Meant.proceed {plane : State} {run : Run} {rest : List (DesiredDeployment × Option Json)}
    (h : Meant model config plane run) (later : ∀ p ∈ rest, p ∈ run.rest) :
    Meant model config plane { run with rest := rest, phase := Member.proceed rest } :=
  ⟨h.stored, fun p hp => h.desired p (later p hp), fun _ hm => absurd hm proceed_writing⟩

/-- A write in progress puts what is meant. -/
theorem Meant.standing {plane : State} {run : Run} (h : Meant model config plane run) {m : Mutation}
    (phase : run.phase = .writing m) {content : ModelDeployment} (sets : m.content = some content) :
    Standing model config plane m.name content := by
  obtain ⟨item, hi, name, puts⟩ := h.writing m phase
  obtain ⟨spec, desired, hs, hd, rfl⟩ := puts content sets
  obtain ⟨revision, stored, payload, digest⟩ := h.stored
  have version : revision.version = run.delivery.version := congrArg Prod.snd (Table.get?_key stored)
  refine ⟨revision, by rw [version]; exact stored, item, by rw [payload]; exact hi, name.symm, spec,
    desired, hs, hd, ?_⟩
  rw [version, digest]
  rfl

theorem validateItem_desired {names : List String} {item : DesiredDeployment} {desired : Option Json}
    (h : validateItem model names item = .ok desired) : desired = item.spec.bind (model item.name) := by
  unfold validateItem at h
  split at h
  · cases h
  · cases hs : item.spec with
    | none =>
      rw [hs] at h
      dsimp only at h
      split at h
      · cases h; rfl
      · cases h
    | some spec =>
      rw [hs] at h
      dsimp only at h
      split at h
      · cases h
      · cases hm : model item.name spec with
        | none => rw [hm] at h; cases h
        | some d => rw [hm] at h; cases h; exact hm.symm

theorem validateItems_desired {items : List DesiredDeployment} : ∀ {names : List String} {models : List (Option Json)},
    validateItems model names items = .ok models → ∀ p ∈ items.zip models, p.1 ∈ items ∧
      p.2 = p.1.spec.bind (model p.1.name) := by
  induction items with
  | nil => exact fun _ p hp => absurd hp (by simp)
  | cons item rest ih =>
    intro names models h p hp
    rw [validateItems] at h
    cases hd : validateItem model names item with
    | error code => simp [hd, bind, Except.bind] at h
    | ok desired =>
      cases hr : validateItems model (item.name :: names) rest with
      | error code => simp [hd, hr, bind, Except.bind] at h
      | ok rests =>
        simp only [hd, hr, bind, Except.bind] at h
        cases h
        rw [List.zip_cons_cons] at hp
        rcases List.mem_cons.1 hp with rfl | hp
        · exact ⟨List.mem_cons_self .., validateItem_desired hd⟩
        · exact ⟨List.mem_cons_of_mem _ (ih hr p hp).1, (ih hr p hp).2⟩

theorem Meant.start {plane : State} {delivery : ClusterDelivery} {revision : ClusterRevision}
    (stored : plane.revisions.get? (config.clusterId, delivery.version) = some revision)
    (payload : revision.payload = delivery.deployments) (digest : revision.sha256 = delivery.sha256) :
    Meant model config plane (Run.start env model config delivery) := by
  unfold Run.start
  cases h : validateDelivery env model config delivery with
  | error code => exact ⟨⟨revision, stored, payload, digest⟩, fun _ hp => absurd hp List.not_mem_nil, nofun⟩
  | ok models =>
    refine ⟨⟨revision, stored, payload, digest⟩, ?_, fun _ hm => absurd hm proceed_writing⟩
    unfold validateDelivery at h
    split at h
    · cases h
    · exact validateItems_desired h

theorem planItem_content {delivery : ClusterDelivery} {item : DesiredDeployment} {desired : Option Json}
    {found : Option Current} {m : Mutation} (h : planItem config delivery item desired found = .ok (some m))
    {content : ModelDeployment} (sets : m.content = some content) :
    ∃ spec, desired = some spec ∧ content = applied config delivery spec := by
  cases planItem_plan h with
  | create spec => cases sets; exact ⟨spec, rfl, rfl⟩
  | replace spec => cases sets; exact ⟨spec, rfl, rfl⟩
  | delete => cases sets

theorem Meant.read {plane : State} {cluster : Cluster} {run : Run} (h : Meant model config plane run) :
    Meant model config plane (run.read config cluster).1 := by
  unfold Run.read
  split
  · rename_i item desired rest phase hr
    split
    · exact ⟨h.stored, h.desired, nofun⟩
    · exact h.proceed fun p hp => hr ▸ List.mem_cons_of_mem _ hp
    · rename_i mutation plan
      obtain ⟨hi, hd⟩ := h.desired (item, desired) (hr ▸ List.mem_cons_self ..)
      refine ⟨h.stored, h.desired, fun m hm => ?_⟩
      cases hm
      rcases planItem_ok plan with ⟨none, -⟩ | ⟨m, hm, planned, -⟩
      · cases none
      · cases hm
        refine ⟨item, hi, planned.name, fun content hc => ?_⟩
        obtain ⟨spec, wanted, rfl⟩ := planItem_content plan hc
        obtain ⟨json, hs, hm⟩ := Option.bind_eq_some_iff.1 (hd.symm.trans wanted)
        exact ⟨json, spec, hs, hm, rfl⟩
  · exact h

/-! ## The invariant -/

/-- A run that is through with its delivery, of `version`. -/
def Through (system : System) (version : Int) (digest : String) : Prop :=
  ∃ run ∈ system.runs, run.completed = true ∧ run.delivery.version = version ∧ run.delivery.sha256 = digest

/-- What the runs of the agents keep. -/
structure Agents.Faithful (model : String → Json → Option Json) (config : Config) (agents : Agents) : Prop where
  sound : Sound config agents.system
  meant : ∀ run ∈ agents.system.runs, Meant model config agents.system.plane run
  contents : ∀ e ∈ agents.system.log, e.sets = true → ∀ o, agents.system.cluster.get? e.name = some o →
    o.content.version = some e.version → Standing model config agents.system.plane e.name o.content
  sent : ∀ report ∈ agents.sent, report.outcome = .applied → Through agents.system report.version report.sha256
  acknowledged : ∀ c, agents.system.plane.clusters.get? config.clusterId = some c → c.acknowledgedVersion ≠ 0 →
    ∃ digest, Through agents.system c.acknowledgedVersion digest

/-- A run that is through makes no further call. -/
theorem Run.completed_rest (config : Config) {run : Run} (h : run.completed = true) (cluster : Cluster) :
    run.failed = run ∧ (run.read config cluster).1 = run ∧ ∀ m, run.phase ≠ .writing m := by
  unfold Run.completed at h
  split at h
  · rename_i phase
    refine ⟨?_, ?_, fun m => by rw [phase]; exact nofun⟩
    · unfold Run.failed
      rw [phase]
    · unfold Run.read
      rw [phase]
  · cases h

theorem mem_set_of_same {α : Type} {l : List α} {a : α} (h : a ∈ l) {i : Nat} {b : α}
    (same : l[i]? = some a → b = a) : a ∈ l.set i b := by
  obtain ⟨j, hj, rfl⟩ := List.mem_iff_getElem.1 h
  by_cases hij : i = j
  · subst hij
    rw [same (List.getElem?_eq_getElem hj)]
    exact List.mem_set hj _
  · refine List.mem_iff_getElem.2 ⟨j, by simpa using hj, ?_⟩
    exact List.getElem_set_ne hij _

/-- No step forgets a run that is through. -/
theorem Act.run_completed {system : System} {run : Run} (hr : run ∈ system.runs)
    (completed : run.completed = true) (act : Act) :
    run ∈ (act.run env model config system).runs := by
  obtain ⟨failed, read, idle⟩ := Run.completed_rest config completed system.cluster
  cases act with
  | plane op => exact hr
  | deliver authAt now lease token =>
    show run ∈ (system.deliver env model config authAt now lease token).runs
    unfold System.deliver
    split
    · exact List.mem_append_left _ hr
    · exact hr
  | read i =>
    show run ∈ (system.read config i).runs
    unfold System.read
    split
    · exact hr
    · rename_i other found
      refine mem_set_of_same hr fun same => ?_
      cases Option.some.inj (found.symm.trans same)
      exact read
  | write i uid lost =>
    show run ∈ (system.write i uid lost).runs
    unfold System.write
    split
    · exact hr
    · rename_i other found
      split
      · rename_i mutation phase
        have apart : ¬system.runs[i]? = some run := by
          intro same
          cases Option.some.inj (found.symm.trans same)
          exact idle mutation phase
        split
        · exact mem_set_of_same hr fun same => absurd same apart
        · exact mem_set_of_same hr fun same => absurd same apart
      · exact hr
  | fail i =>
    show run ∈ (system.fail i).runs
    unfold System.fail
    split
    · exact hr
    · rename_i other found
      refine mem_set_of_same hr fun same => ?_
      cases Option.some.inj (found.symm.trans same)
      exact failed
  | touch name => exact hr

theorem Through.act {system : System} {version : Int} {digest : String}
    (h : Through system version digest) (act : Act) :
    Through (act.run env model config system) version digest := by
  obtain ⟨run, hr, completed, same⟩ := h
  exact ⟨run, Act.run_completed hr completed act, completed, same⟩

/-! ## Steps -/

/-- Only a report for the cluster moves its acknowledged version; a new cluster has acknowledged none. -/
theorem Moves.acknowledged {op : Op} {s s' : State} (moves : Moves env op s s')
    (other : ∀ authAt now id token report, op ≠ .reportDelivery authAt now id token report) {id : String}
    {c' : MemberCluster} (h : s'.clusters.get? id = some c') :
    c'.acknowledgedVersion = 0 ∨ ∃ c, s.clusters.get? id = some c ∧ c'.acknowledgedVersion = c.acknowledgedVersion := by
  induction moves generalizing c' with
  | refl => exact .inr ⟨c', h, rfl⟩
  | @tail t u _ move ih =>
    cases known : t.clusters.get? id with
    | some c =>
      have same := move.keepsAcknowledged other known h
      rcases ih known with none | ⟨c₀, found, before⟩
      · exact .inl (same.trans none)
      · exact .inr ⟨c₀, found, same.trans before⟩
    | none =>
      have absent : ∀ {row row' : MemberCluster}, t.clusters.get? row.id = some row → row'.id = row.id →
          u.clusters = t.clusters.put row' → False := by
        intro row row' found hid clusters
        rw [clusters, Table.get?_put_at (r := row') hid found] at h
        split at h
        · rename_i he
          rw [← he, found] at known
          cases known
        · rw [known] at h
          cases h
      cases move.delivers with
      | unchanged clusters => rw [clusters, known] at h; cases h
      | registered inserted =>
        rw [Table.get?_insert? inserted] at h
        split at h
        · cases h; exact .inl rfl
        · rw [known] at h; cases h
      | stepped found step clusters => exact (absent found step.same.id clusters).elim
      | @revised row _ _ found clusters _ =>
        exact (@absent row { row with desiredVersion := row.desiredVersion + 1 } found rfl clusters).elim

/-- A report for one cluster: it does nothing, or what is acknowledged is what it reports as applied. -/
theorem reportDelivery_acknowledged {s : State} {authAt now : Int} {id token : String} {report : ClusterReport}
    {other : String} {c' : MemberCluster}
    (h : ((Op.reportDelivery authAt now id token report).run env s).clusters.get? other = some c') :
    (∃ c, s.clusters.get? other = some c ∧ c'.acknowledgedVersion = c.acknowledgedVersion) ∨
      other = id ∧ report.outcome = .applied ∧ c'.acknowledgedVersion = report.version := by
  have run : (Op.reportDelivery authAt now id token report).run env s =
    (Tx.commit (reportCluster env authAt now id token report) s).2 := rfl
  rw [run] at h
  rcases Tx.commit_cases (reportCluster env authAt now id token report) s with ⟨a, t, ok, committed⟩ | ⟨e, -, failed⟩
  · rw [committed] at h
    rcases reportCluster_inv ok with same | ⟨c, revision, found, -, -, changed⟩
    · replace h : t.clusters.get? other = some c' := h
      rw [show t = s from same] at h
      exact .inl ⟨c', h, rfl⟩
    · replace h : t.clusters.get? other = some c' := h
      have hid : c.id = id := Table.get?_key found
      rw [show t = _ from changed] at h
      dsimp only at h
      rw [Table.get?_put_at (r := c.reported now report) hid found] at h
      split at h
      · rename_i same
        cases h
        unfold MemberCluster.reported
        dsimp only
        split
        · rename_i outcome
          exact .inr ⟨same.symm, outcome, rfl⟩
        · exact .inl ⟨c, by rw [← same]; exact found, rfl⟩
      · exact .inl ⟨c', h, rfl⟩
  · rw [failed] at h
    exact .inl ⟨c', h, rfl⟩

/-- A step of the control plane by itself, other than a report for the cluster. -/
theorem Agents.Faithful.plane {agents : Agents} (h : agents.Faithful model config) {plane : State}
    (grows : Grows agents.system.plane plane)
    (kept : ∀ c', plane.clusters.get? config.clusterId = some c' → c'.acknowledgedVersion = 0 ∨
      (∃ c, agents.system.plane.clusters.get? config.clusterId = some c ∧
        c'.acknowledgedVersion = c.acknowledgedVersion) ∨
      ∃ digest, Through agents.system c'.acknowledgedVersion digest) :
    Agents.Faithful model config { agents with system := { agents.system with plane := plane } } := by
  refine ⟨h.sound.grows grows, fun run hr => (h.meant run hr).grows grows, fun e he sets o ho version => ?_, h.sent,
    fun c' hc' moved => ?_⟩
  · exact (h.contents e he sets o ho version).grows grows
  · rcases kept c' hc' with none | ⟨c, found, same⟩ | through
    · exact absurd none moved
    · rw [same] at moved ⊢
      exact h.acknowledged c found moved
    · exact through

/-- A delivery that is handed out carries the digest of its revision. -/
theorem pollCluster_delivery {authAt now : Int} {lease id token : String} {s : State} {r : Polled × State}
    {delivery : ClusterDelivery} (h : pollCluster env authAt now lease id token s = .ok r)
    (handed : r.1.delivery = some delivery) :
    ∃ revision, s.revisions.get? (id, delivery.version) = some revision ∧ revision.payload = delivery.deployments ∧
      revision.sha256 = delivery.sha256 := by
  unfold pollCluster at h
  simp only [authenticated_bind] at h
  obtain ⟨row, -, -, h⟩ := h
  split at h
  · cases Tx.pure_ok.1 h
    cases handed
  · split at h
    · simp only [Tx.read_bind, Tx.expect_bind, putCluster_bind, Tx.pure_ok] at h
      obtain ⟨revision, stored, rfl⟩ := h
      cases handed
      have key := (Prod.mk.inj (Table.get?_key stored : (revision.clusterId, revision.version) = _)).2
      refine ⟨revision, ?_, rfl, rfl⟩
      show s.revisions.get? (id, revision.version) = _
      rw [key]
      exact stored
    · simp only [putCluster_bind, Tx.pure_ok] at h
      cases h
      cases handed

theorem Agents.Faithful.deliver {agents : Agents} (h : agents.Faithful model config) (authAt now : Int)
    (lease token : String) :
    Agents.Faithful model config
      { agents with system := (Act.deliver authAt now lease token).run env model config agents.system } := by
  show Agents.Faithful model config
    { agents with system := agents.system.deliver env model config authAt now lease token }
  have sound : Sound config (agents.system.deliver env model config authAt now lease token) :=
    h.sound.deliver authAt now lease token
  unfold System.deliver at sound ⊢
  cases polled : pollCluster env authAt now lease config.clusterId token agents.system.plane with
  | error e => exact h
  | ok r =>
    obtain ⟨answer, plane⟩ := r
    rw [polled] at sound
    have moves : Moves env _ agents.system.plane _ :=
      Op.run_moves (.pollDelivery authAt now lease config.clusterId token) agents.system.plane
    have ran : (Op.pollDelivery authAt now lease config.clusterId token).run env agents.system.plane = plane := by
      simp [Op.run, Tx.commit, polled]
    rw [ran] at moves
    have faithful : Agents.Faithful model config { agents with system := { agents.system with plane := plane } } := by
      refine h.plane moves.grows fun c' hc' => ?_
      exact (Moves.acknowledged moves (fun _ _ _ _ _ h => by cases h) hc').imp_right .inl
    have kept : ∀ {version digest}, Through agents.system version digest →
        Through ⟨plane, agents.system.cluster, agents.system.runs ++
          answer.delivery.toList.map (Run.start env model config), agents.system.log⟩
          version digest := by
      rintro version digest ⟨run, hr, through⟩
      exact ⟨run, List.mem_append_left _ hr, through⟩
    refine ⟨sound, fun run hr => ?_, faithful.contents, fun report hs applied => kept (h.sent report hs applied),
      fun c hc moved => ?_⟩
    · rcases List.mem_append.1 hr with hr | hr
      · exact faithful.meant run hr
      · obtain ⟨delivery, hd, rfl⟩ := List.mem_map.1 hr
        obtain ⟨revision, stored, payload, digest⟩ := pollCluster_delivery polled (Option.mem_toList.1 hd)
        exact .start (moves.grows.immutable _ _ stored) payload digest
    · obtain ⟨digest, through⟩ := faithful.acknowledged c hc moved
      exact ⟨digest, kept through⟩

/-- A step that leaves the control plane alone. -/
theorem Agents.Faithful.member {agents : Agents} (h : agents.Faithful model config) {act : Act}
    (plane : (act.run env model config agents.system).plane = agents.system.plane)
    (meant : ∀ run ∈ (act.run env model config agents.system).runs, Meant model config agents.system.plane run)
    (contents : ∀ e ∈ (act.run env model config agents.system).log, e.sets = true →
      ∀ o, (act.run env model config agents.system).cluster.get? e.name = some o → o.content.version = some e.version →
        Standing model config agents.system.plane e.name o.content) :
    Agents.Faithful model config { agents with system := act.run env model config agents.system } := by
  refine ⟨(h.sound.run act).1, ?_, ?_, fun report hs applied => (h.sent report hs applied).act act,
    fun c hc moved => ?_⟩
  · rw [plane]
    exact meant
  · rw [plane]
    exact contents
  · replace hc : (act.run env model config agents.system).plane.clusters.get? config.clusterId = some c := hc
    rw [plane] at hc
    obtain ⟨digest, through⟩ := h.acknowledged c hc moved
    exact ⟨digest, through.act act⟩

theorem meant_set {plane : State} {runs : List Run} (h : ∀ run ∈ runs, Meant model config plane run)
    {i : Nat} {run : Run} (new : Meant model config plane run) : ∀ r ∈ runs.set i run, Meant model config plane r := by
  intro r hr
  rcases List.mem_or_eq_of_mem_set hr with hr | rfl
  · exact h r hr
  · exact new

theorem Agents.Faithful.read {agents : Agents} (h : agents.Faithful model config) (i : Nat) :
    Agents.Faithful model config { agents with system := (Act.read i).run env model config agents.system } := by
  refine h.member ?_ ?_ ?_
  · show (agents.system.read config i).plane = _
    unfold System.read
    split <;> rfl
  · show ∀ run ∈ (agents.system.read config i).runs, _
    unfold System.read
    split
    · exact h.meant
    · rename_i run found
      exact meant_set h.meant (h.meant run (List.mem_of_getElem? found)).read
  · show ∀ e ∈ (agents.system.read config i).log, e.sets = true →
      ∀ o, (agents.system.read config i).cluster.get? e.name = some o → _
    unfold System.read
    split
    · exact h.contents
    · rename_i run found
      intro e he sets
      rcases List.mem_append.1 he with new | old
      · -- what a read applies by itself is a deletion
        unfold Run.read at new
        split at new
        · split at new
          · cases new
          · rw [List.mem_singleton.1 new] at sets
            cases sets
          · cases new
        · cases new
      · exact h.contents e old sets

theorem Mutation.run_content {m : Mutation} {uid : String} {cluster cluster' : Cluster} {e : Event}
    (effect : Effect e cluster cluster') (named : e.name = m.name)
    (seen : ∀ current, m.current = some current → cluster.Seen current) (h : m.run uid cluster = some cluster')
    {o : Current} (ho : cluster'.get? m.name = some o) : m.content = some o.content := by
  cases m with
  | create name content =>
    obtain ⟨-, -, lookup⟩ := Objects.get?_create h
    rw [show Mutation.name (.create name content) = name from rfl, lookup, if_pos rfl] at ho
    cases ho
    rfl
  | replace current content =>
    obtain ⟨holds, rfl⟩ := Objects.replace_some h
    have stored := (seen current rfl).holds holds
    replace ho : Objects.get? (if current.content = content then cluster else cluster.store current content)
      current.name = some o := ho
    split at ho
    · rename_i same
      cases Option.some.inj (stored.symm.trans ho)
      exact congrArg some same.symm
    · rw [Objects.get?_store stored, if_pos rfl] at ho
      cases ho
      rfl
  | delete current =>
    obtain ⟨-, rfl⟩ := Objects.remove_some h
    replace ho : (cluster.delete current.name).get? current.name = some o := ho
    rw [Objects.get?_delete, if_pos rfl] at ho
    cases ho

theorem Agents.Faithful.write {agents : Agents} (h : agents.Faithful model config) (i : Nat) (uid : String)
    (lost : Bool) :
    Agents.Faithful model config
      { agents with system := (Act.write i uid lost).run env model config agents.system } := by
  refine h.member ?_ ?_ ?_
  · show (agents.system.write i uid lost).plane = _
    unfold System.write
    split
    · rfl
    · split
      · split <;> rfl
      · rfl
  · show ∀ run ∈ (agents.system.write i uid lost).runs, _
    unfold System.write
    split
    · exact h.meant
    · rename_i run found
      have meant := h.meant run (List.mem_of_getElem? found)
      split
      · split
        · exact meant_set h.meant meant.failed
        · refine meant_set h.meant ?_
          split
          · exact meant.failed
          · exact meant.proceed fun p hp => List.mem_of_mem_tail hp
      · exact h.meant
  · show ∀ e ∈ (agents.system.write i uid lost).log, e.sets = true →
      ∀ o, (agents.system.write i uid lost).cluster.get? e.name = some o → _
    unfold System.write
    split
    · exact h.contents
    · rename_i run found
      have mem := List.mem_of_getElem? found
      split
      · rename_i mutation phase
        split
        · exact h.contents
        · rename_i cluster ran
          obtain ⟨item, desired, rest, -, planned, seen⟩ := (h.sound.runs run mem).writing mutation phase
          have effect := Mutation.run_effect planned seen ran
          intro e he sets o ho version
          replace ho : cluster.get? e.name = some o := ho
          by_cases named : e.name = mutation.name
          · -- what stands under the name has just been written
            rw [named] at ho ⊢
            have content := Mutation.run_content effect (Mutation.event_name ..) seen ran ho
            exact (h.meant run mem).standing phase content
          · rcases List.mem_cons.1 he with rfl | old
            · exact absurd (Mutation.event_name ..) named
            · rw [effect.others e.name (by rw [Mutation.event_name]; exact named)] at ho
              exact h.contents e old sets o ho version
      · exact h.contents

theorem Agents.Faithful.system {agents : Agents} (h : agents.Faithful model config) {act : Act}
    (other : elsewhere config.clusterId act = true) :
    Agents.Faithful model config { agents with system := act.run env model config agents.system } := by
  cases act with
  | plane op =>
    refine h.plane (op.run_moves agents.system.plane).grows fun c' hc' => ?_
    -- among the operations of the control plane only reports acknowledge, and none of this cluster comes this way
    by_cases report : ∃ authAt now id token report, op = .reportDelivery authAt now id token report
    · obtain ⟨authAt, now, id, token, report, rfl⟩ := report
      rcases reportDelivery_acknowledged hc' with same | ⟨own, -⟩
      · exact .inr (.inl same)
      · have apart : id ≠ config.clusterId := bne_iff_ne.1 other
        exact absurd own.symm apart
    · have others : ∀ authAt now id token report', op ≠ .reportDelivery authAt now id token report' :=
        fun a b c d e he => report ⟨a, b, c, d, e, he⟩
      exact (Moves.acknowledged (op.run_moves agents.system.plane) others hc').imp_right .inl
  | deliver authAt now lease token => exact h.deliver authAt now lease token
  | read i => exact h.read i
  | write i uid lost => exact h.write i uid lost
  | fail i =>
    refine h.member ?_ ?_ ?_
    · show (agents.system.fail i).plane = _
      unfold System.fail
      split <;> rfl
    · show ∀ run ∈ (agents.system.fail i).runs, _
      unfold System.fail
      split
      · exact h.meant
      · rename_i run found
        exact meant_set h.meant (h.meant run (List.mem_of_getElem? found)).failed
    · show ∀ e ∈ (agents.system.fail i).log, e.sets = true →
        ∀ o, (agents.system.fail i).cluster.get? e.name = some o → _
      unfold System.fail
      split
      · exact h.contents
      · exact h.contents
  | touch name =>
    refine h.member rfl h.meant fun e he sets o ho version => ?_
    rcases Objects.get?_touch agents.system.cluster name e.name with same | ⟨o', ho', touched⟩
    · exact h.contents e he sets o (same.symm.trans ho) version
    · cases Option.some.inj (touched.symm.trans ho)
      exact h.contents e he sets o' ho' version

theorem Run.report_applied {run : Run} {report : ClusterReport} (h : run.report = some report)
    (outcome : report.outcome = .applied) :
    run.completed = true ∧ run.delivery.version = report.version ∧ run.delivery.sha256 = report.sha256 := by
  unfold Run.report at h
  split at h
  · rename_i phase
    cases h
    refine ⟨?_, rfl, rfl⟩
    unfold Run.completed
    rw [phase]
  · cases h
    cases outcome
  · cases h

/-- Every step keeps the agents faithful. -/
theorem Agents.Faithful.step {agents : Agents} (h : agents.Faithful model config)
    (event : Agents.Event config.clusterId) :
    (agents.step env model config event).Faithful model config := by
  cases event with
  | act act other =>
    show (agents.act env model config act).Faithful model config
    rcases agents.act_cases env model config act with same | ⟨act', steps, rfl | ⟨i, uid, rfl⟩⟩
    · rw [same]; exact h
    · rw [steps]; exact h.system other
    · rw [steps]; exact h.system rfl
  | expire i =>
    show (agents.expire i).Faithful model config
    rcases agents.expire_cases i with same | ⟨report, rejected, steps⟩
    · rw [same]; exact h
    · rw [steps]
      refine ⟨h.sound, h.meant, h.contents, fun r hr applied => ?_, h.acknowledged⟩
      rcases List.mem_cons.1 hr with rfl | old
      · rw [rejected] at applied
        cases applied
      · exact h.sent r old applied
  | send i =>
    show (agents.send i).Faithful model config
    rcases agents.send_cases i with same | ⟨run, mem, report, reported, steps⟩
    · rw [same]; exact h
    · rw [steps]
      refine ⟨h.sound, h.meant, h.contents, fun r hr applied => ?_, h.acknowledged⟩
      rcases List.mem_cons.1 hr with rfl | old
      · obtain ⟨completed, version, digest⟩ := Run.report_applied reported applied
        exact ⟨run, mem, completed, version, digest⟩
      · exact h.sent r old applied
  | arrive n authAt now token =>
    show (agents.arrive env config n authAt now token).Faithful model config
    unfold Agents.arrive
    split
    · rename_i report found
      refine h.plane (Op.run_moves _ _).grows fun c' hc' => ?_
      rcases reportDelivery_acknowledged hc' with same | ⟨-, applied, version⟩
      · exact .inr (.inl same)
      · exact .inr (.inr ⟨_, version ▸ h.sent report (List.mem_of_getElem? found) applied⟩)
    · exact h

theorem Agents.Faithful.start (cluster : Cluster) : (Agents.start cluster).Faithful model config :=
  ⟨.start cluster, fun _ h => absurd h List.not_mem_nil, fun _ h => absurd h List.not_mem_nil,
    fun _ h => absurd h List.not_mem_nil, fun _ h => by cases h⟩

theorem Agents.Faithful.run {agents : Agents} (h : agents.Faithful model config)
    (events : List (Agents.Event config.clusterId)) :
    (agents.run env model config events).Faithful model config := by
  induction events generalizing agents with
  | nil => exact h
  | cons event rest ih => exact ih (h.step event)

/-! ## Acknowledged versions -/

/-- What has become of an item of a revision that was applied. Where it set a spec, its version or a newer one
stands unless a newer one deleted the name, and what stands under its own version is exactly what it says; where
it cleared the name, whatever stands there was created since. -/
structure Honoured (model : String → Json → Option Json) (config : Config) (system : System)
    (revision : ClusterRevision) (item : DesiredDeployment) : Prop where
  since : ∃ after e before, system.log = after ++ e :: before ∧ e.version = revision.version ∧ e.name = item.name ∧
    e.sets = item.spec.isSome ∧
    (item.spec.isSome → Deleted after revision.version item.name ∨
      ∃ o u, system.cluster.get? item.name = some o ∧ o.content.version = some u ∧ revision.version ≤ u) ∧
    (item.spec = none → ∀ o, system.cluster.get? item.name = some o → ∃ u, o.content.version = some u ∧
      Created after u item.name)
  exact : ∀ o spec, item.spec = some spec → system.cluster.get? item.name = some o →
    o.content.version = some revision.version →
    ∃ desired, model item.name spec = some desired ∧
      o.content = ⟨some config.clusterId, some revision.version, some revision.sha256, desired⟩

theorem Run.completed_erred {run : Run} (h : run.completed = true) : run.erred = false := by
  unfold Run.completed at h
  unfold Run.erred
  split at h
  · rename_i phase
    rw [phase]
  · cases h

theorem Agents.Faithful.honoured {agents : Agents} (h : agents.Faithful model config) {run : Run}
    (hr : run ∈ agents.system.runs) (completed : run.completed = true) {revision : ClusterRevision}
    (stored : agents.system.plane.revisions.get? (config.clusterId, run.delivery.version) = some revision)
    {item : DesiredDeployment} (hi : item ∈ revision.payload) : Honoured model config agents.system revision item := by
  have valid := h.sound.runs run hr
  obtain ⟨revision', stored', payload⟩ := valid.stored
  cases Option.some.inj (stored.symm.trans stored')
  have version : revision.version = run.delivery.version := congrArg Prod.snd (Table.get?_key stored)
  rw [payload] at hi
  obtain ⟨e, he, same, named, sets⟩ := valid.applied completed hi
  obtain ⟨after, before, split⟩ := List.append_of_mem he
  constructor
  · refine ⟨after, e, before, split, same.trans version.symm, named, sets, fun spec => ?_, fun spec o ho => ?_⟩
    · rcases h.sound.kept.set after e before split (by rw [sets, spec]) with ⟨o, ho, u, hu, le⟩ | deleted
      · exact .inr ⟨o, u, by rw [← named]; exact ho, hu, by omega⟩
      · rw [named, same, ← version] at deleted
        exact .inl deleted
    · obtain ⟨u, hu, created⟩ := h.sound.kept.cleared after e before split (by rw [sets, spec]; rfl) o
        (by rw [named]; exact ho)
      exact ⟨u, hu, named ▸ created⟩
  · intro o spec hs ho own
    rw [version, ← same] at own
    obtain ⟨other, found, item', hi', name', spec', desired, hs', hd, content⟩ :=
      h.contents e he (by rw [sets, hs]; rfl) o (by rw [named]; exact ho) own
    -- the version of the object is that of the revision, which has one item of the name
    have newest : other.version = run.delivery.version := by
      rw [content] at own
      exact (Option.some.inj own).trans same
    rw [newest, stored] at found
    cases found
    rw [payload] at hi'
    have distinct := valid.names (Run.completed_erred completed)
    obtain rfl : item' = item := List.inj_on_of_nodup_map distinct hi' hi (name'.trans named)
    cases hs.symm.trans hs'
    exact ⟨desired, hd, content⟩

/-- In every interleaving of the control plane, the runs of any number of agents, their deadlines, and reports
that are lost, late, repeated or stale: the version that the control plane has as acknowledged is stored, and
each of its items has been applied. -/
theorem Agents.run_acknowledged (env : Env) (model : String → Json → Option Json) (config : Config) (cluster : Cluster)
    (events : List (Agents.Event config.clusterId)) :
    let system := ((Agents.start cluster).run env model config events).system
    ∀ c, system.plane.clusters.get? config.clusterId = some c → c.acknowledgedVersion ≠ 0 →
      ∃ revision, system.plane.revisions.get? (config.clusterId, c.acknowledgedVersion) = some revision ∧
        ∀ item ∈ revision.payload, Honoured model config system revision item := by
  intro system c hc moved
  have faithful : ((Agents.start cluster).run env model config events).Faithful model config :=
    (Agents.Faithful.start cluster).run events
  obtain ⟨digest, run, hr, completed, version, -⟩ := faithful.acknowledged c hc moved
  obtain ⟨revision, stored, -⟩ := (faithful.sound.runs run hr).stored
  exact ⟨revision, by rw [← version]; exact stored, fun item hi => faithful.honoured hr completed stored hi⟩

/-- A first run is dropped at its deadline while its creation is on the way; a second one is through, and its
report arrives twice. -/
def reportedRun : List (Agents.Event "c") :=
  [.act (.plane (.registerCluster 0 "key" ⟨"c", "ns", 30⟩)) rfl,
    .act (.plane (.putDesired 0 "admin" "c" ⟨0, [⟨"d", some sampleSpec, none, none⟩]⟩)) rfl,
    .act (.deliver 0 0 "l1" "key") rfl, .act (.read 0) rfl, .expire 0, .act (.write 0 "u" false) rfl,
      .arrive 0 0 0 "key",
    .act (.deliver 0 0 "l2" "key") rfl, .act (.read 1) rfl, .act (.write 1 "" false) rfl, .send 1,
      .arrive 0 0 0 "key", .arrive 0 0 0 "key"]

theorem vacant : ∀ o ∈ (Table.empty : Table (Stored String ModelDeployment)), o.revision ≤ 0 := fun _ h => by cases h

def reportedSystem : System :=
  ((Agents.start ⟨.empty, 0, vacant⟩).run sampleEnv sampleModel sampleConfig reportedRun).system

theorem sample_acknowledged : ∃ c revision item, reportedSystem.plane.clusters.get? "c" = some c ∧
    c.acknowledgedVersion = 1 ∧
    reportedSystem.plane.revisions.get? ("c", 1) = some revision ∧ item ∈ revision.payload ∧ item.name = "d" ∧
    Honoured sampleModel sampleConfig reportedSystem revision item := by
  have acknowledged : (reportedSystem.plane.clusters.get? "c").any (fun c => decide (c.acknowledgedVersion = 1)) =
    true := by decide +kernel
  have named : (reportedSystem.plane.revisions.get? ("c", 1)).any (fun r => r.payload.any (·.name == "d")) =
    true := by decide +kernel
  obtain ⟨c, found, version⟩ := (Option.any_eq_true _ _).1 acknowledged
  have version : c.acknowledgedVersion = 1 := of_decide_eq_true version
  obtain ⟨revision, stored, honoured⟩ := Agents.run_acknowledged sampleEnv sampleModel sampleConfig ⟨.empty, 0, vacant⟩
    reportedRun c found (by rw [version]; decide)
  rw [version] at stored
  obtain ⟨revision', stored', items⟩ := (Option.any_eq_true _ _).1 named
  cases Option.some.inj (stored.symm.trans stored')
  obtain ⟨item, hi, name⟩ := List.any_eq_true.1 items
  exact ⟨c, revision, item, found, version, stored, hi, eq_of_beq name, honoured item hi⟩

end Xscope.Member

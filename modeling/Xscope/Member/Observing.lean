/-
The observations of a cluster. The control plane takes a pool for ready, and a deployment for identified, only on the
word of the agents that read the cluster. Tasks, reads and reports take their time, are repeated or lost, and the
objects of the cluster are written meanwhile; still a pool with a readiness deadline has been ready since it was asked
about, and the identity that is recorded of its deployment is that of a model that stood.
-/
import Xscope.Fleet.Rows
import Xscope.Kubernetes.Observation

namespace Xscope.Member

open Fleet Kubernetes.Controller Kubernetes.Observation

/-! ## What becomes of a pool -/

section

variable {env : Env} {s s' : State} {op : Op} {row row' : ManagedPool} {id token : String} {authAt now : Int}
  {report : PoolObservation}

/-- The pool is still of the deployment that it was bound to, with the identity that was recorded, and no more ready. -/
structure Carried (row row' : ManagedPool) : Prop where
  id : row'.id = row.id
  cluster : row'.clusterId = row.clusterId
  deployment : row'.deployment = row.deployment
  uid : row'.deploymentUid = row.deploymentUid
  ready : row'.readyUntil = row.readyUntil ∨ row'.readyUntil = none

theorem Carried.refl (row : ManagedPool) : Carried row row := ⟨rfl, rfl, rfl, rfl, .inl rfl⟩

theorem Carried.trans {a b c : ManagedPool} (h : Carried a b) (k : Carried b c) : Carried a c := by
  refine ⟨k.id.trans h.id, k.cluster.trans h.cluster, k.deployment.trans h.deployment, k.uid.trans h.uid, ?_⟩
  rcases k.ready with same | none
  · rw [same]
    exact h.ready
  · exact .inr none

/-- Nothing is known of the pool yet. -/
def Blank (row : ManagedPool) : Prop := row.deploymentUid = none ∧ row.readyUntil = none

theorem Blank.carried (h : Blank row) (carried : Carried row row') : Blank row' := by
  refine ⟨carried.uid.trans h.1, ?_⟩
  rcases carried.ready with same | none
  · rw [same]
    exact h.2
  · exact none

def Op.observes : Op → Bool
  | .observePool .. => true
  | _ => false

theorem poolStep_carried (h : PoolStep s op row row') (other : Op.observes op = false) : Carried row row' := by
  cases h with
  | closing | finished | activated | tasked => exact ⟨rfl, rfl, rfl, rfl, .inl rfl⟩
  | respecced => exact ⟨rfl, rfl, rfl, rfl, .inr rfl⟩
  | _ => cases other

/-- Apart from observations, nothing makes a pool ready or identifies its deployment. -/
theorem move_carried (m : Move env op s s') (other : Op.observes op = false) (h : s'.pools.get? id = some row') :
    (∃ row, s.pools.get? id = some row ∧ Carried row row') ∨ Blank row' := by
  cases old : s.pools.get? id with
  | none =>
    cases m.pools.fresh id row' h old with
    | bound => exact .inr ⟨rfl, rfl⟩
  | some row =>
    obtain ⟨p, found, step⟩ := m.pools.kept id row old
    cases Option.some.inj (h.symm.trans found)
    rcases step with rfl | step
    · exact .inl ⟨row', rfl, .refl row'⟩
    · exact .inl ⟨row, rfl, poolStep_carried step other⟩

theorem moves_carried (m : Moves env op s s') (other : Op.observes op = false) (h : s'.pools.get? id = some row') :
    (∃ row, s.pools.get? id = some row ∧ Carried row row') ∨ Blank row' := by
  induction m generalizing row' with
  | refl => exact .inl ⟨row', h, .refl row'⟩
  | tail _ move ih =>
    rcases move_carried move other h with ⟨row₁, h₁, carried₁⟩ | blank
    · rcases ih h₁ with ⟨row, found, carried⟩ | blank
      · exact .inl ⟨row, found, carried.trans carried₁⟩
      · exact .inr (blank.carried carried₁)
    · exact .inr blank

/-- No pool is lost or given another deployment. -/
theorem moves_kept (m : Moves env op s s') (h : s.pools.get? id = some row) :
    ∃ row', s'.pools.get? id = some row' ∧ row'.id = row.id ∧ row'.deployment = row.deployment := by
  induction m with
  | refl => exact ⟨row, h, rfl, rfl⟩
  | tail _ move ih =>
    obtain ⟨row₁, h₁, id₁, deployment₁⟩ := ih
    obtain ⟨row', found, step⟩ := move.pools.kept id row₁ h₁
    refine ⟨row', found, ?_⟩
    rcases step with rfl | step
    · exact ⟨id₁, deployment₁⟩
    · have same : row'.id = row₁.id ∧ row'.deployment = row₁.deployment := by cases step <;> exact ⟨rfl, rfl⟩
      exact ⟨same.1.trans id₁, same.2.trans deployment₁⟩

/-- What an accepted report leaves of its pool: an identity is recorded once, and the pool is ready only where the
report says so of the recorded deployment. -/
structure Reported (report : PoolObservation) (row row' : ManagedPool) : Prop where
  id : row'.id = row.id
  cluster : row'.clusterId = row.clusterId
  deployment : row'.deployment = row.deployment
  uid : row'.deploymentUid = row.deploymentUid ∨ row'.deploymentUid = report.deploymentUid
  ready : row'.readyUntil.isSome → report.ready = true ∧ row'.deploymentUid = report.deploymentUid

theorem Reported.carried {a b c : ManagedPool} (h : Reported report a b) (k : Carried b c) : Reported report a c := by
  refine ⟨k.id.trans h.id, k.cluster.trans h.cluster, k.deployment.trans h.deployment, ?_, fun ready => ?_⟩
  · rw [k.uid]
    exact h.uid
  · rw [k.uid]
    rcases k.ready with same | none
    · exact h.ready (same ▸ ready)
    · rw [none] at ready
      cases ready

theorem Reported.trans {a b c : ManagedPool} (h : Reported report a b) (k : Reported report b c) :
    Reported report a c := by
  refine ⟨k.id.trans h.id, k.cluster.trans h.cluster, k.deployment.trans h.deployment, ?_, k.ready⟩
  rcases k.uid with same | said
  · rw [same]
    exact h.uid
  · exact .inr said

theorem observed_reported (formed : report.wellFormed = true)
    (same : report.deploymentUid.isSome → row.deploymentUid.isSome → row.deploymentUid = report.deploymentUid)
    (generation : Int) : Reported report row (row.observed now generation report) := by
  refine ⟨rfl, rfl, rfl, ?_, fun ready => ?_⟩
  · unfold ManagedPool.observed
    dsimp only
    split
    · exact .inr rfl
    · exact .inl rfl
  · have said : report.ready = true := by
      unfold ManagedPool.observed at ready
      by_contra no
      rw [if_neg no] at ready
      cases ready
    refine ⟨said, ?_⟩
    unfold ManagedPool.observed
    dsimp only
    split
    · rfl
    · rename_i known
      exact same (PoolObservation.named formed said) (Option.isSome_iff_ne_none.2 (by simpa using known))

theorem poolStep_reported (h : PoolStep s (.observePool authAt now id token report) row row')
    (formed : report.wellFormed = true) : Carried row row' ∨ Reported report row row' := by
  cases h with
  | observed answers same => exact .inr (observed_reported formed same _)
  | completed | reopened | shrinking | grown => exact .inl ⟨rfl, rfl, rfl, rfl, .inl rfl⟩
  | shrunk => exact .inl ⟨rfl, rfl, rfl, rfl, .inr rfl⟩

/-- A report changes nothing but a pool of the cluster that it is from. -/
theorem observePool_reported (h : ((Op.observePool authAt now id token report).run env s).pools.get? k = some row') :
    ∃ row, s.pools.get? k = some row ∧
      (row' = row ∨ row.id = report.poolId ∧ row.clusterId = id ∧ Reported report row row') := by
  simp only [Op.run] at h
  rcases Tx.commit_cases (observePool env authAt now id token report) s with ⟨a, t, accepted, hc⟩ | ⟨e, -, hc⟩
  · rw [hc] at h
    obtain ⟨cluster, row, ad, -, last, scaled⟩ := observePool_parts accepted
    by_cases own : row.id = k
    · subst own
      refine ⟨row, ad.stored, .inr ⟨Table.get?_key ad.found, ad.answers.owner, ?_⟩⟩
      have reported : Reported report row (row.observed now (row.nextGeneration report) report) :=
        observed_reported ad.wellFormed ad.same _
      have prepared : ((s.observe now report row).confirm report row.id).pools.get? row.id =
          some (row.observed now (row.nextGeneration report) report) :=
        (s.get?_confirm ad.stored row.id).trans (if_pos rfl)
      -- the scaling step comes after the report is recorded, and makes at most one move
      cases last with
      | refl =>
        cases Option.some.inj (h.symm.trans prepared)
        exact reported
      | single move =>
        obtain ⟨after, found, same | step⟩ := move.pools.kept row.id _ prepared
        · cases Option.some.inj (h.symm.trans found)
          rw [same]
          exact reported
        · cases Option.some.inj (h.symm.trans found)
          rcases poolStep_reported step ad.wellFormed with carried | again
          · exact reported.carried carried
          · exact reported.trans again
    · refine ⟨row', ?_, .inl rfl⟩
      have other := (scaled.others k own).trans (s.get?_confirm ad.stored k)
      rw [if_neg own] at other
      exact other.symm.trans h
  · rw [hc] at h
    exact ⟨row', h, .inl rfl⟩

end

/-! ## The agents and the control plane -/

/-- A task, and what the cluster had gone through when it was handed out. -/
abbrev Asked := ObservationTask × History Scene

/-- What the agents of a cluster were asked, the inspections under way, and the reports they made. -/
structure Observing where
  plane : State
  history : History Scene
  tasks : List Asked
  inspections : List (Asked × Inspection)
  reports : List PoolObservation

def Scene.empty : Scene := ⟨⟨.empty, 0, fun _ h => absurd h (Table.not_mem_empty _)⟩,
  ⟨.empty, 0, fun _ h => absurd h (Table.not_mem_empty _)⟩⟩

def Observing.start : Observing := ⟨.empty, .start Scene.empty, [], [], []⟩

inductive Observing.Act where
  /-- Any other operation of the control plane. -/
  | fleet (op : Op)
  /-- Anybody writes an object of the namespace, or deletes it. -/
  | model (name uid : String) (content : Option ModelObject)
  | child (key : Key) (uid : String) (content : Option Child)
  | poll (authAt now : Int) (nonce : String → String) (token : String)
  | inspect (task : Nat)
  | ask (inspection : Nat) (fails : Bool)
  | finish (inspection : Nat) (idle : Bool)
  | report (report : Nat) (authAt now : Int) (token : String)

namespace Observing

variable (env : Env) (decode : Json → Option Kubernetes.Api.ModelDeploymentSpec) (cluster nameSpace : String)

/-- Only its agents report for the cluster. -/
def allows : Op → Bool
  | .observePool _ _ id _ _ => id != cluster
  | _ => true

def writeModel (s : Observing) (name uid : String) (content : Option ModelObject) : Observing :=
  { s with
    history := s.history.push ⟨s.history.now.models.overwrite name uid content, s.history.now.children⟩
      (Objects.le_overwrite s.history.now.models name uid content) }

def writeChild (s : Observing) (key : Key) (uid : String) (content : Option Child) : Observing :=
  { s with
    history := s.history.push ⟨s.history.now.models, s.history.now.children.overwrite key uid content⟩
      (le_refl s.history.now.models) }

def poll (s : Observing) (authAt now : Int) (nonce : String → String) (token : String) : Observing :=
  match observationTasks env authAt now nonce cluster token s.plane with
  | .ok (tasks, plane) => { s with plane := plane, tasks := tasks.map (·, s.history) ++ s.tasks }
  | .error _ => s

def inspect (s : Observing) (k : Nat) : Observing := match s.tasks[k]? with
  | some asked =>
    { s with
      inspections := s.inspections ++ [(asked, Kubernetes.Observation.read decode nameSpace cluster asked.1)] }
  | none => s

def ask (s : Observing) (i : Nat) (fails : Bool) : Observing := match s.inspections[i]? with
  | some (asked, .ask q next) =>
    { s with
      inspections := s.inspections.set i
        (asked, next (if fails then failed q else s.history.now.answer q)) }
  | _ => s

def finish (s : Observing) (i : Nat) (idle : Bool) : Observing := match s.inspections[i]? with
  | some (asked, .done reading) => { s with reports := asked.1.report reading idle :: s.reports }
  | _ => s

def step (s : Observing) : Observing.Act → Observing
  | .fleet op => if allows cluster op then { s with plane := op.run env s.plane } else s
  | .model name uid content => s.writeModel name uid content
  | .child key uid content => s.writeChild key uid content
  | .poll authAt now nonce token => s.poll env cluster authAt now nonce token
  | .inspect k => s.inspect decode cluster nameSpace k
  | .ask i fails => s.ask i fails
  | .finish i idle => s.finish i idle
  | .report k authAt now token => match s.reports[k]? with
    | some report => { s with plane := (Op.observePool authAt now cluster token report).run env s.plane }
    | none => s

def run (acts : List Observing.Act) : Observing := acts.foldl (step env decode cluster nameSpace) .start

end Observing

/-! ## What is recorded is so -/

namespace Observing

/-- The task is one about the pool. -/
structure About (row : ManagedPool) (task : ObservationTask) : Prop where
  pool : task.poolId = row.id
  deployment : task.deployment = row.deployment

/-- What is recorded of a pool is so. -/
structure Witnessed (decode : Json → Option Kubernetes.Api.ModelDeploymentSpec) (cluster nameSpace : String)
    (tasks : List Asked) (history : History Scene) (row : ManagedPool) : Prop where
  identified : ∀ uid, row.deploymentUid = some uid → ∃ asked ∈ tasks, About row asked.1 ∧
    ∃ o : Kubernetes.Observation.Model, o.uid = uid ∧ Ordered decode nameSpace cluster asked.1 o ∧
      asked.2.Between history fun scene => scene.models.get? row.deployment = some o
  ready : row.readyUntil.isSome → ∃ asked ∈ tasks, About row asked.1 ∧
    ∃ o : Kubernetes.Observation.Model, row.deploymentUid = some o.uid ∧ Ordered decode nameSpace cluster asked.1 o ∧
      ∃ first last, asked.2 ≤ first ∧ last ≤ history ∧ Ready nameSpace asked.1 o first last

structure Sound (decode : Json → Option Kubernetes.Api.ModelDeploymentSpec) (cluster nameSpace : String)
    (s : Observing) : Prop where
  pools : ∀ id row, s.plane.pools.get? id = some row → row.clusterId = cluster →
    Witnessed decode cluster nameSpace s.tasks s.history row
  tasks : ∀ asked ∈ s.tasks, asked.2 ≤ s.history ∧
    ∃ row, s.plane.pools.get? asked.1.poolId = some row ∧ About row asked.1
  inspections : ∀ i ∈ s.inspections, i.1 ∈ s.tasks ∧
    i.2.Safe oracle (Truthful decode nameSpace cluster i.1.1 i.1.2) s.history
  reports : ∀ report ∈ s.reports, ∃ asked ∈ s.tasks, ∃ reading idle, report = asked.1.report reading idle ∧
    Truthful decode nameSpace cluster asked.1 asked.2 s.history reading

section

variable {env : Env} {decode : Json → Option Kubernetes.Api.ModelDeploymentSpec} {cluster nameSpace : String}
  {s : Observing} {tasks tasks' : List Asked} {history history' : History Scene} {row row' : ManagedPool}

theorem About.carried {task : ObservationTask} (h : About row task) (k : Carried row row') : About row' task :=
  ⟨h.pool.trans k.id.symm, h.deployment.trans k.deployment.symm⟩

theorem Witnessed.blank (h : Blank row) : Witnessed decode cluster nameSpace tasks history row where
  identified uid known := by
    rw [h.1] at known
    cases known
  ready known := by
    rw [h.2] at known
    cases known

/-- What was so stays so while the cluster moves on and more tasks are handed out. -/
theorem Witnessed.later (h : Witnessed decode cluster nameSpace tasks history row) (more : tasks ⊆ tasks')
    (le : history ≤ history') : Witnessed decode cluster nameSpace tasks' history' row where
  identified uid known := by
    obtain ⟨asked, mem, about, o, named, ordered, stood⟩ := h.identified uid known
    exact ⟨asked, more mem, about, o, named, ordered, stood.later le⟩
  ready known := by
    obtain ⟨asked, mem, about, o, named, ordered, first, last, since, until_, ready⟩ := h.ready known
    exact ⟨asked, more mem, about, o, named, ordered, first, last, since, le_trans until_ le, ready⟩

theorem Witnessed.carried (h : Witnessed decode cluster nameSpace tasks history row) (k : Carried row row') :
    Witnessed decode cluster nameSpace tasks history row' where
  identified uid known := by
    obtain ⟨asked, mem, about, o, named, ordered, stood⟩ := h.identified uid (k.uid ▸ known)
    rw [k.deployment]
    exact ⟨asked, mem, about.carried k, o, named, ordered, stood⟩
  ready known := by
    rcases k.ready with same | none
    · obtain ⟨asked, mem, about, o, named, found⟩ := h.ready (same ▸ known)
      exact ⟨asked, mem, about.carried k, o, k.uid.trans named, found⟩
    · rw [none] at known
      cases known

/-- A truthful report of a task about the pool is believed. -/
theorem Witnessed.reported (h : Witnessed decode cluster nameSpace tasks history row) {asked : Asked}
    (mem : asked ∈ tasks) (about : About row asked.1) {reading : Reading} {idle : Bool}
    (truthful : Truthful decode nameSpace cluster asked.1 asked.2 history reading)
    (k : Reported (asked.1.report reading idle) row row') :
    Witnessed decode cluster nameSpace tasks history row' := by
  have about' : About row' asked.1 := ⟨about.pool.trans k.id.symm, about.deployment.trans k.deployment.symm⟩
  constructor
  · intro uid known
    -- an identity is recorded once: it was there before, or it is the one reported now
    rcases k.uid with same | same
    · obtain ⟨earlier, asks, tasked, o, named, ordered, stood⟩ := h.identified uid (same ▸ known)
      refine ⟨earlier, asks, ⟨tasked.pool.trans k.id.symm, tasked.deployment.trans k.deployment.symm⟩, o,
        named, ordered, ?_⟩
      rw [k.deployment]
      exact stood
    · have said : reading.uid = some uid := same.symm.trans known
      cases truthful with
      | nothing missing => rw [missing] at said; cases said
      | model o so =>
        refine ⟨asked, mem, about', o, Option.some.inj (so.uid.symm.trans said), so.ordered, ?_⟩
        rw [← about'.deployment]
        exact so.stood
  · intro known
    obtain ⟨said, named⟩ := k.ready known
    have sound : reading.failure = none := by simpa [ObservationTask.report] using said
    cases truthful with
    | nothing _ _ _ failed => exact absurd sound failed
    | model o so =>
      obtain ⟨first, last, since, until_, ready⟩ := so.ready sound
      exact ⟨asked, mem, about', o, named.trans so.uid, so.ordered, first, last, since, until_, ready⟩

/-! ## Steps -/

/-- The cluster moves on, and nothing else does. -/
theorem Sound.later (h : s.Sound decode cluster nameSpace) {history : History Scene} (le : s.history ≤ history) :
    Sound decode cluster nameSpace { s with history := history } where
  pools id row found own := (h.pools id row found own).later (fun _ mem => mem) le
  tasks asked mem := ⟨le_trans (h.tasks asked mem).1 le, (h.tasks asked mem).2⟩
  inspections i mem := ⟨(h.inspections i mem).1, (h.inspections i mem).2.later (fun later so => so.later later) le⟩
  reports report mem := by
    obtain ⟨asked, known, reading, idle, same, truthful⟩ := h.reports report mem
    exact ⟨asked, known, reading, idle, same, truthful.later le⟩

/-- The control plane moves on, by an operation that is no report of the cluster's agents. -/
theorem Sound.fleet (h : s.Sound decode cluster nameSpace) {op : Op} (allowed : allows cluster op = true) :
    Sound decode cluster nameSpace { s with plane := op.run env s.plane } where
  pools id row' found own := by
    cases other : Op.observes op with
    | false =>
      rcases moves_carried (Op.run_moves op s.plane) other found with ⟨row, there, carried⟩ | blank
      · exact (h.pools id row there (carried.cluster ▸ own)).carried carried
      · exact .blank blank
    | true =>
      cases op with
      | observePool authAt now member token report =>
        -- a report of another cluster is about a pool of that cluster
        obtain ⟨row, there, rfl | ⟨-, reporter, reported⟩⟩ := observePool_reported found
        · exact h.pools id row' there own
        · rw [reported.cluster, reporter] at own
          simp only [allows, bne_iff_ne, ne_eq] at allowed
          exact absurd own allowed
      | _ => cases other
  tasks asked mem := by
    obtain ⟨le, row, found, about⟩ := h.tasks asked mem
    obtain ⟨row', found', id, deployment⟩ := moves_kept (Op.run_moves op s.plane) found
    exact ⟨le, row', found', about.pool.trans id.symm, about.deployment.trans deployment.symm⟩
  inspections := h.inspections
  reports := h.reports

theorem Sound.poll (h : s.Sound decode cluster nameSpace) (authAt now : Int) (nonce : String → String)
    (token : String) :
    Sound decode cluster nameSpace (s.poll env cluster authAt now nonce token) := by
  unfold Observing.poll
  cases polled : observationTasks env authAt now nonce cluster token s.plane with
  | error e => exact h
  | ok r =>
    obtain ⟨moves, _, -, -, issued⟩ := observationTasks_ok polled
    have more : s.tasks ⊆ r.1.map (·, s.history) ++ s.tasks := List.subset_append_right ..
    refine ⟨fun id row' found own => ?_, fun asked mem => ?_, fun i mem => ?_, fun report mem => ?_⟩
    · rcases moves_carried moves rfl found with ⟨row, there, carried⟩ | blank
      · exact ((h.pools id row there (carried.cluster ▸ own)).carried carried).later more le_rfl
      · exact .blank blank
    · rcases List.mem_append.1 mem with new | old
      -- a new task is about the row that it was made from
      · obtain ⟨task, given, rfl⟩ := List.mem_map.1 new
        obtain ⟨row, after, -, left⟩ := issued task given
        refine ⟨le_rfl, row.tasked now (nonce row.id) after, ?_, ?_⟩
        · rw [left.task]
          exact left.tasked
        · rw [left.task]
          exact ⟨rfl, rfl⟩
      · obtain ⟨le, row, found, about⟩ := h.tasks asked old
        obtain ⟨row', found', id, deployment⟩ := moves_kept moves found
        exact ⟨le, row', found', about.pool.trans id.symm, about.deployment.trans deployment.symm⟩
    · exact ⟨more (h.inspections i mem).1, (h.inspections i mem).2⟩
    · obtain ⟨asked, known, rest⟩ := h.reports report mem
      exact ⟨asked, more known, rest⟩

theorem Sound.inspect (h : s.Sound decode cluster nameSpace) (k : Nat) :
    Sound decode cluster nameSpace (s.inspect decode cluster nameSpace k) := by
  unfold Observing.inspect
  split
  · rename_i asked listed
    have mem := List.mem_of_getElem? listed
    refine ⟨h.pools, h.tasks, fun i hi => ?_, h.reports⟩
    rcases List.mem_append.1 hi with old | new
    · exact h.inspections i old
    · cases List.mem_singleton.1 new
      -- the inspection starts later than its task was handed out
      exact ⟨mem, (read_safe decode nameSpace cluster asked.1 asked.2).later (fun later so => so.later later)
        (h.tasks asked mem).1⟩
  · exact h

theorem Sound.ask (h : s.Sound decode cluster nameSpace) (i : Nat) (fails : Bool) :
    Sound decode cluster nameSpace (s.ask i fails) := by
  unfold Observing.ask
  split
  · rename_i asked q next asking
    refine ⟨h.pools, h.tasks, fun x hx => ?_, h.reports⟩
    rcases List.mem_or_eq_of_mem_set hx with old | rfl
    · exact h.inspections x old
    · obtain ⟨known, safe⟩ := h.inspections _ (List.mem_of_getElem? asking)
      refine ⟨known, safe.answered ⟨rfl, ?_⟩⟩
      cases fails with
      | false => exact .inl rfl
      | true => exact .inr rfl
  · exact h

theorem Sound.finish (h : s.Sound decode cluster nameSpace) (i : Nat) (idle : Bool) :
    Sound decode cluster nameSpace (s.finish i idle) := by
  unfold Observing.finish
  split
  · rename_i asked reading finished
    obtain ⟨known, truthful⟩ := h.inspections _ (List.mem_of_getElem? finished)
    refine ⟨h.pools, h.tasks, h.inspections, fun report mem => ?_⟩
    rcases List.mem_cons.1 mem with rfl | old
    · exact ⟨asked, known, reading, idle, rfl, truthful⟩
    · exact h.reports report old
  · exact h

theorem Sound.report (h : s.Sound decode cluster nameSpace) {report : PoolObservation} (mem : report ∈ s.reports)
    (authAt now : Int) (token : String) : Sound decode cluster nameSpace
      { s with plane := (Op.observePool authAt now cluster token report).run env s.plane } where
  pools id row' found own := by
    obtain ⟨row, there, rfl | ⟨pool, -, reported⟩⟩ := observePool_reported found
    · exact h.pools id row' there own
    · obtain ⟨asked, known, reading, idle, rfl, truthful⟩ := h.reports report mem
      -- the report names the pool of its task, so the row it is written to is the one asked about
      obtain ⟨-, tasked, stored, about⟩ := h.tasks asked known
      have same : tasked = row := by
        have named : asked.1.poolId = id := pool.symm.trans (Table.get?_key there)
        rw [named, there] at stored
        exact (Option.some.inj stored).symm
      rw [same] at about
      exact (h.pools id row there (reported.cluster ▸ own)).reported known about truthful reported
  tasks asked known := by
    obtain ⟨le, row, found, about⟩ := h.tasks asked known
    obtain ⟨row', found', id, deployment⟩ :=
      moves_kept (Op.run_moves (.observePool authAt now cluster token report) s.plane) found
    exact ⟨le, row', found', about.pool.trans id.symm, about.deployment.trans deployment.symm⟩
  inspections := h.inspections
  reports := h.reports

theorem Sound.step (h : s.Sound decode cluster nameSpace) (act : Observing.Act) :
    Sound decode cluster nameSpace (s.step env decode cluster nameSpace act) := by
  cases act with
  | fleet op =>
    simp only [Observing.step]
    split
    · exact h.fleet ‹_›
    · exact h
  | model name uid content => exact h.later (History.le_push _ _)
  | child key uid content => exact h.later (History.le_push _ _)
  | poll authAt now nonce token => exact h.poll authAt now nonce token
  | inspect k => exact h.inspect k
  | ask i fails => exact h.ask i fails
  | finish i idle => exact h.finish i idle
  | report k authAt now token =>
    simp only [Observing.step]
    split
    · rename_i report listed
      exact h.report (List.mem_of_getElem? listed) authAt now token
    · exact h

theorem run_sound (acts : List Observing.Act) :
    Sound decode cluster nameSpace (run env decode cluster nameSpace acts) := by
  have start : Sound decode cluster nameSpace Observing.start := by
    refine ⟨fun id row found => ?_, ?_, ?_, ?_⟩
    · cases found
    all_goals
      intro x mem
      cases mem
  exact List.foldlRecOn acts _ start fun s h act _ => h.step act

end

/-- In every run, whatever is written in the cluster while it is inspected: where a pool of the cluster has a readiness
deadline, the model of its deployment, as a task about the pool ordered it, stood for a while after that task was handed
out, with its runtime, its entry and its pool ready meanwhile; and the identity recorded of the deployment is that of
such a model. -/
theorem run_witnessed (env : Env) (decode : Json → Option Kubernetes.Api.ModelDeploymentSpec)
    (cluster nameSpace : String) (acts : List Observing.Act) :
    let s := run env decode cluster nameSpace acts
    ∀ row ∈ s.plane.pools, row.clusterId = cluster →
      Witnessed decode cluster nameSpace s.tasks s.history row := by
  intro s row mem own
  exact (run_sound acts).pools row.id row (Table.get?_of_mem (r := row) mem) own

/-! ### A pool that becomes ready -/

def sampleEnv : Env := ⟨fun _ => true, id, fun _ => "", false⟩

/-- The spec that is ordered, as it is submitted. -/
def sampleOrder : Json :=
  .obj [("model", .obj [("checksum", .str ("sha256:" ++ String.ofList (List.replicate 64 'a'))), ("id", .str "demo"),
      ("revision", .str "v1"), ("uri", .str "s3://models/demo")]), ("replicas", .int 2), ("resources", .obj []),
    ("runtime", .obj [("image", .str "runtime:test"), ("protocol", .str "openai")]),
    ("serving", .obj [("endpointPickerPort", .int 9002), ("endpointPickerService", .str "svc")])]

/-- What it is read as. -/
def sampleSpec : Kubernetes.Api.ModelDeploymentSpec where
  model := ⟨"demo", "v1", "s3://models/demo", "sha256:" ++ String.ofList (List.replicate 64 'a')⟩
  runtime := ⟨"runtime:test", "openai", 8000, [], .default⟩
  replicas := 2
  resources := .obj []
  autoscaling := none
  disruptionBudget := none
  serving := some ⟨"svc", 9002⟩
  rollout := none
  nodeSelector := none
  tolerations := none

/-- Knows the one spec. -/
def sampleDecode (order : Json) : Option Kubernetes.Api.ModelDeploymentSpec :=
  if order = sampleOrder then some sampleSpec else none

def sampleObject : ModelObject where
  deletionTimestamp := none
  labels := [("platform.xscope.io/desired-cluster", "c")]
  annotations := [("platform.xscope.io/desired-version", "1")]
  generation := some 1
  spec := sampleSpec

/-- A Deployment with two replicas whose pods carry the label, as far as they are ready. -/
def sampleDeployment (owners : Option (List Kubernetes.OwnerReference)) (app : String)
    (readyReplicas : Int) : Child where
  ownerReferences := owners
  deletionTimestamp := none
  annotations := []
  generation := some 1
  spec := .obj [("replicas", .int 2),
    ("template", .obj [("metadata", .obj [("labels", .obj [("app", .str app)])])])]
  status := .obj [("availableReplicas", .int readyReplicas), ("observedGeneration", .int 1),
    ("readyReplicas", .int readyReplicas), ("replicas", .int 2), ("updatedReplicas", .int 2)]

def sampleOwner : Option (List Kubernetes.OwnerReference) :=
  some [⟨Kubernetes.modelApiVersion, "ModelDeployment", "d", "uid", some true⟩]

def sampleEntry : Child where
  ownerReferences := none
  deletionTimestamp := none
  annotations := [("platform.xscope.io/inference-pool", "d"), ("platform.xscope.io/managed-only", "true"),
    ("platform.xscope.io/traffic-protocol", "v2")]
  generation := none
  spec := .obj [("ports", .arr [.obj [("port", .int 9002)]]), ("selector", .obj [("app", .str "svc")])]
  status := .null

def samplePool : Child where
  ownerReferences := sampleOwner
  deletionTimestamp := none
  annotations := []
  generation := some 1
  spec := .obj [("endpointPickerRef", .obj [("failureMode", .str "FailClose"), ("name", .str "svc"),
      ("port", .obj [("number", .int 9002)])]),
    ("selector", .obj [("matchLabels", .obj [("app", .str "d")])]),
      ("targetPorts", .arr [.obj [("number", .int 8000)]])]
  status := .null

/-- One inspection, each of whose reads is answered, and the report of what was read. -/
def sampleInspection (i now : Nat) (nonce : String) (meanwhile : List Observing.Act) : List Observing.Act :=
  [.poll now now (fun _ => nonce) "key", .inspect 0, .ask i false] ++ meanwhile ++ List.replicate 5 (.ask i false) ++
    [.finish i false, .report 0 now now "key"]

/-- The model is applied and its pool bound, but it is inspected while the model is written. -/
def sampleDrifted : List Observing.Act :=
  [.fleet (.registerCluster 0 "key" ⟨"c", "ns", 30⟩),
    .fleet (.putDesired 0 "admin" "c" ⟨0, [⟨"d", some sampleOrder, none, none⟩]⟩),
    .fleet (.pollDelivery 0 0 "lease" "c" "key"),
      .fleet (.reportDelivery 0 0 "c" "key" ⟨1, "", "lease", .applied, none⟩),
    .fleet (.writeCatalog ((Table.empty.insert? ⟨"demo", 1, true, none, .default⟩).getD .empty) .empty),
    .fleet (.bindPool 0 "managed-d" ⟨2, false, "c", "d", "svc", "svc:80", false, "", 1⟩ []),
    .model "d" "uid" (some sampleObject), .child (.deployment, "d") "d-uid" (some (sampleDeployment sampleOwner "d" 2)),
    .child (.service, "svc") "svc-uid" (some sampleEntry),
    .child (.deployment, "svc") "epp-uid" (some (sampleDeployment none "svc" 2)),
    .child (.pool, "d") "pool-uid" (some samplePool)] ++
    sampleInspection 0 1 "n1" [.model "d" "uid" (some { sampleObject with generation := some 2 })]

/-- It is inspected once more, and nobody writes it meanwhile. -/
def sampleReady : List Observing.Act := sampleDrifted ++ sampleInspection 1 2 "n2" []

example :
    ((run sampleEnv sampleDecode "c" "ns" sampleDrifted).plane.pools.get? "managed-d").map
      (fun row => (row.deploymentUid, row.readyUntil)) = some (some "uid", none) ∧
    ((run sampleEnv sampleDecode "c" "ns" sampleReady).plane.pools.get? "managed-d").any
      (fun row => row.deploymentUid == some "uid" && row.readyUntil.isSome) = true := by decide +kernel

end Observing

end Xscope.Member

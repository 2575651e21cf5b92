/-
Evidence from the member cluster. The control plane takes a gateway for dead only on the word of the agents that
read its cluster. Tasks, reads and reports take their time, are repeated or lost, and pods and containers come
and go meanwhile; as long as no pod status trails a restart, the container that is recorded for a session is the
one it runs in, and a gateway that is recorded as terminated has ended.
-/
import Xscope.Fleet.Fence
import Xscope.Kubernetes.GatewayProof

namespace Xscope.Member

open Fleet Kubernetes.GatewayProof

/-! ## The agents and the control plane -/

/-- What the agents of a cluster were asked, the inspections under way, and the reports they made. -/
structure Evidence where
  plane : State
  world : World
  tasks : List GatewayProofTask
  inspections : List (GatewayProofTask × Inspection)
  proofs : List Fleet.GatewayProof

def Evidence.start : Evidence := ⟨.empty, .empty, [], [], []⟩

inductive Evidence.Act where
  /-- Any other operation of the control plane. -/
  | fleet (op : Op)
  | start (c : Container)
  | stop (id : String)
  | putPod (pod : Pod)
  | deletePod (name : String)
  | putNode (node : Node)
  | putLease (lease : Lease)
  | poll (authAt now : Int) (nonce : String → String) (token : String)
  | inspect (task : Nat) (now : Int)
  | ask (inspection : Nat) (fault : World.Fault) (session : Option String)
  | finish (inspection : Nat)
  | report (proof : Nat) (authAt now : Int) (token : String)

namespace Evidence

variable (env : Env) (isIp : String → Bool) (cluster nameSpace : String)

/-- Only its agents report for the cluster, and a gateway of the cluster names its own pod. -/
def allows (w : World) : Op → Bool
  | .gatewayProof _ _ id _ _ => id != cluster
  | .trafficSnapshot _ _ _ _ id (some identity) =>
    identity.clusterId != cluster || w.containers.any fun c => c.session == id && c.podUid == identity.podUid
  | _ => true

def poll (s : Evidence) (authAt now : Int) (nonce : String → String) (token : String) : Evidence :=
  match gatewayProofTasks env authAt now nonce cluster token s.plane with
  | .ok (tasks, plane) => { s with plane := plane, tasks := tasks ++ s.tasks }
  | .error _ => s

def ask (s : Evidence) (i : Nat) (fault : World.Fault) (session : Option String) : Evidence :=
  match s.inspections[i]? with
  | some (task, .ask q next) =>
    { s with
      world := (s.world.ask fault session q).2
      inspections := s.inspections.set i (task, next (s.world.ask fault session q).1) }
  | _ => s

def finish (s : Evidence) (i : Nat) : Evidence := match s.inspections[i]? with
  | some (task, .done result) => { s with proofs := Kubernetes.GatewayProof.report task result :: s.proofs }
  | _ => s

def step (s : Evidence) : Evidence.Act → Evidence
  | .fleet op => if allows cluster s.world op then { s with plane := op.run env s.plane } else s
  | .start c => { s with world := s.world.start c }
  | .stop id => { s with world := s.world.stop id }
  | .putPod pod => { s with world := s.world.putPod pod }
  | .deletePod name => { s with world := s.world.deletePod name }
  | .putNode node => { s with world := s.world.putNode node }
  | .putLease lease => { s with world := s.world.putLease lease }
  | .poll authAt now nonce token => s.poll env cluster authAt now nonce token
  | .inspect k now => match s.tasks[k]? with
    | some task =>
      { s with inspections := s.inspections ++ [(task, Kubernetes.GatewayProof.inspect isIp nameSpace now task)] }
    | none => s
  | .ask i fault session => s.ask i fault session
  | .finish i => s.finish i
  | .report k authAt now token => match s.proofs[k]? with
    | some proof => { s with plane := (Op.gatewayProof authAt now cluster token proof).run env s.plane }
    | none => s

def run (acts : List Evidence.Act) : Evidence := acts.foldl (step env isIp cluster nameSpace) .start

end Evidence

/-! ## What is recorded of a session -/

/-- Nothing that evidence is about has changed. -/
structure SameEvidence (row row' : GatewaySession) : Prop where
  id : row'.id = row.id
  identity : row'.identity = row.identity
  runtime : row'.runtime = row.runtime
  proof : row'.proof = row.proof
  cluster : row'.gatewayClusterId = row.gatewayClusterId

theorem SameEvidence.refl (row : GatewaySession) : SameEvidence row row := ⟨rfl, rfl, rfl, rfl, rfl⟩

theorem SameEvidence.trans {a b c : GatewaySession} (h : SameEvidence a b) (k : SameEvidence b c) : SameEvidence a c :=
  ⟨k.id.trans h.id, k.identity.trans h.identity, k.runtime.trans h.runtime, k.proof.trans h.proof,
    k.cluster.trans h.cluster⟩

/-- A session that a gateway has just opened. -/
structure Opened (op : Op) (row : GatewaySession) : Prop where
  snapshot : ∃ wallAt now nonce token, op = .trafficSnapshot wallAt now nonce token row.id row.identity
  runtime : row.runtime = none
  proof : row.proof = none
  cluster : row.gatewayClusterId = row.identity.map fun identity => identity.clusterId

theorem Opened.same {op : Op} {row row' : GatewaySession} (h : Opened op row)
    (same : SameEvidence row row') : Opened op row' := by
  obtain ⟨wallAt, now, nonce, token, opens⟩ := h.snapshot
  refine ⟨⟨wallAt, now, nonce, token, ?_⟩, same.runtime.trans h.runtime, same.proof.trans h.proof, ?_⟩
  · rw [same.id, same.identity]
    exact opens
  · rw [same.cluster, same.identity]
    exact h.cluster

def Op.proves : Op → Bool
  | .gatewayProof .. => true
  | _ => false

section

variable {env : Env} {s s' : State} {op : Op}

/-- Apart from proofs, what is recorded of a session is as it was opened. -/
theorem move_evidence (m : Move env op s s') (other : Op.proves op = false) {id : String} {row' : GatewaySession}
    (h : s'.sessions.get? id = some row') : (∃ row, s.sessions.get? id = some row ∧ SameEvidence row row') ∨
    Opened op row' := by
  have unchanged (same : s'.sessions = s.sessions) : (∃ row, s.sessions.get? id = some row ∧ SameEvidence row row') ∨
      Opened op row' :=
    .inl ⟨row', by rw [← same]; exact h, .refl row'⟩
  have put {row new : GatewaySession} (found : s.sessions.get? row.id = some row)
    (sessions : s'.sessions = s.sessions.put new)
      (same : SameEvidence row new) : (∃ row, s.sessions.get? id = some row ∧ SameEvidence row row') ∨
        Opened op row' := by
    rw [sessions, Table.get?_put_at (r := new) same.id found] at h
    split at h
    · rename_i own
      cases h
      exact .inl ⟨row, own ▸ found, same⟩
    · exact .inl ⟨row', h, .refl row'⟩
  cases m with
  | @snapshot _ _ wallAt now nonce token id' identity row reply snapshot =>
    rw [snapshot.sessions] at h
    split at h
    · rename_i own
      cases h
      rcases snapshot.session with found | ⟨missing, rfl⟩
      · exact .inl ⟨row, own ▸ found, ⟨rfl, rfl, rfl, rfl, rfl⟩⟩
      · exact .inr ⟨⟨wallAt, now, nonce, token, rfl⟩, rfl, rfl, rfl⟩
    · exact .inl ⟨row', h, .refl row'⟩
  | @acked _ _ now report row acked =>
    have own : row.id = report.sessionId := Table.get?_key acked.session
    have found : s.sessions.get? row.id = some row := by
      rw [own]
      exact acked.session
    have sessions : s'.sessions = s.sessions.put { row with closed := report.closed, reported := some report } := by
      rw [acked.tables]
    exact put found sessions ⟨rfl, rfl, rfl, rfl, rfl⟩
  | proofTasked found => exact put found rfl ⟨rfl, rfl, rfl, rfl, rfl⟩
  | attested | terminated | unbound => cases other
  | _ => exact unchanged rfl

theorem moves_evidence (m : Moves env op s s') (other : Op.proves op = false) {id : String} {row' : GatewaySession}
    (h : s'.sessions.get? id = some row') : (∃ row, s.sessions.get? id = some row ∧ SameEvidence row row') ∨
    Opened op row' := by
  induction m generalizing row' with
  | refl => exact .inl ⟨row', h, .refl row'⟩
  | tail _ move ih =>
    rcases move_evidence move other h with ⟨row₁, h₁, same₁⟩ | opened
    · rcases ih h₁ with ⟨row, found, same⟩ | opened
      · exact .inl ⟨row, found, same.trans same₁⟩
      · exact .inr (opened.same same₁)
    · exact .inr opened

/-- What an accepted proof changes of its session: a container is recorded once, and a termination is that of
the recorded one. -/
structure Proved (proof : Fleet.GatewayProof) (row row' : GatewaySession) : Prop where
  id : row'.id = row.id
  identity : row'.identity = row.identity
  cluster : row'.gatewayClusterId = row.gatewayClusterId
  runtime : row'.runtime = row.runtime ∨ proof.outcome = .bound ∧ row.runtime = none ∧ row'.runtime = proof.runtime
  proof : row'.proof = row.proof ∨ proof.outcome = .terminated ∧ row.runtime.isSome ∧ proof.runtime = row.runtime

theorem proven_evidence {now : Int} {proof : Fleet.GatewayProof} {row : GatewaySession} {r : Unit × State}
    (h : proven now proof row s = .ok r) :
    ∃ row', r.2.sessions = s.sessions.put row' ∧ Proved proof row row' := by
  unfold proven at h
  cases ho : proof.outcome with
  | bound =>
    simp only [ho, Tx.expect_bind, Tx.reject_bind, putSession_ok] at h
    obtain ⟨runtime, named, -, immutable, rfl⟩ := h
    refine ⟨_, rfl, rfl, rfl, rfl, ?_, .inl rfl⟩
    cases recorded : row.runtime with
    | none => exact .inr ⟨ho, rfl, named.symm⟩
    | some old =>
      have same : old = runtime := by simpa [recorded] using immutable
      exact .inl (congrArg some same.symm)
  | terminated =>
    simp only [ho, Tx.reject_bind, not_or, not_not, ne_eq] at h
    obtain ⟨⟨attested, matching⟩, h⟩ := h
    split at h
    · cases putSession_ok.1 h
      exact ⟨_, rfl, rfl, rfl, rfl, .inl rfl, .inl rfl⟩
    · unfold orphanViews at h
      simp only [Tx.write_bind, putSession_ok] at h
      cases h
      exact ⟨_, rfl, rfl, rfl, rfl, .inl rfl,
        .inr ⟨ho, by simpa [Option.isSome_iff_ne_none] using attested, matching.symm⟩⟩
  | unknown =>
    simp only [ho, putSession_ok] at h
    cases h
    exact ⟨_, rfl, rfl, rfl, rfl, .inl rfl, .inl rfl⟩
  | unbound =>
    simp only [ho, Tx.read_bind, Tx.reject_bind, putSession_ok] at h
    obtain ⟨-, rfl⟩ := h
    exact ⟨_, rfl, rfl, rfl, rfl, .inl rfl, .inl rfl⟩
  | cleaned =>
    simp only [ho, Tx.reject_bind, putSession_ok] at h
    obtain ⟨-, rfl⟩ := h
    exact ⟨_, rfl, rfl, rfl, rfl, .inl rfl, .inl rfl⟩

/-- A proof changes nothing but a session of the cluster that reports it. -/
theorem gatewayProof_evidence {authAt now : Int} {cluster token id : String} {proof : Fleet.GatewayProof}
    {row' : GatewaySession} (h : ((Op.gatewayProof authAt now cluster token proof).run env s).sessions.get? id =
    some row') : ∃ row, s.sessions.get? id = some row ∧
      (SameEvidence row row' ∨ row.id = proof.sessionId ∧ row.gatewayClusterId = some cluster ∧
        Proved proof row row') := by
  simp only [Op.run] at h
  rcases Tx.commit_cases (Fleet.gatewayProof env authAt now cluster token proof) s with
    ⟨a, t, accepted, hc⟩ | ⟨e, -, hc⟩
  · rw [hc] at h
    unfold Fleet.gatewayProof at accepted
    simp only [authenticated_bind, Tx.read_bind, Tx.expect_bind, Tx.reject_bind, not_not, ne_eq] at accepted
    obtain ⟨-, -, -, row, found, own, -, accepted⟩ := accepted
    obtain ⟨new, sessions, proved⟩ := proven_evidence accepted
    have named : row.id = proof.sessionId := Table.get?_key found
    have there : s.sessions.get? row.id = some row := by
      rw [named]
      exact found
    dsimp only at h sessions
    rw [sessions, Table.get?_put_at (r := new) proved.id there] at h
    split at h
    · rename_i same
      cases h
      exact ⟨row, same ▸ there, .inr ⟨named, own, proved⟩⟩
    · exact ⟨row', h, .inl (.refl row')⟩
  · rw [hc] at h
    exact ⟨row', h, .inl (.refl row')⟩

/-- Each task is that of a session of the cluster. -/
theorem proofTasks_named {now : Int} {nonce : String → String} {opened rows : List GatewaySession}
    {r : List GatewayProofTask × State} (h : proofTasks now nonce opened rows s = .ok r) :
    ∀ task ∈ r.1, ∃ row ∈ rows, task.sessionId = row.id ∧ row.identity = some task.identity := by
  induction rows generalizing s r with
  | nil =>
    cases Tx.pure_ok.1 h
    intro task mem
    cases mem
  | cons row rest ih =>
    obtain ⟨task, t, ht, h⟩ := Tx.bind_ok.1 h
    obtain ⟨tasks, t', hts, h⟩ := Tx.bind_ok.1 h
    cases Tx.pure_ok.1 h
    unfold proofTask at ht
    simp only [Tx.expect_bind, putSession_bind, Tx.pure_ok] at ht
    obtain ⟨identity, named, ht⟩ := ht
    cases ht
    intro x mem
    rcases List.mem_cons.1 mem with rfl | mem
    · exact ⟨row, List.mem_cons_self, rfl, named⟩
    · obtain ⟨row', hrow, own⟩ := ih hts x mem
      exact ⟨row', List.mem_cons_of_mem _ hrow, own⟩

theorem gatewayProofTasks_named {authAt now : Int} {nonce : String → String} {cluster token : String}
    {r : List GatewayProofTask × State} (h : gatewayProofTasks env authAt now nonce cluster token s = .ok r) :
    ∀ task ∈ r.1, ∃ row, s.sessions.get? task.sessionId = some row ∧
      row.gatewayClusterId = some cluster ∧ row.id = task.sessionId ∧ row.identity = some task.identity := by
  unfold gatewayProofTasks at h
  simp only [authenticated_bind, Tx.read_bind] at h
  obtain ⟨-, -, -, h⟩ := h
  intro task mem
  obtain ⟨row, listed, own, named⟩ := proofTasks_named h task mem
  have perm := List.perm_insertionSort (fun a b : GatewaySession => a.deliveredAt ≤ b.deliveredAt)
    (s.sessions.select fun r => r.gatewayClusterId == some cluster && !r.proofComplete)
  obtain ⟨mem, chosen⟩ := List.mem_filter.1 (perm.mem_iff.1 (List.mem_of_mem_take listed))
  simp only [Bool.and_eq_true, beq_iff_eq] at chosen
  exact ⟨row, own ▸ Table.get?_of_mem (r := row) mem, chosen.1, own.symm, named⟩

end

/-! ## What is recorded is so -/

namespace Evidence

/-- What is recorded of a session is so. -/
structure Evidenced (w : World) (row : GatewaySession) : Prop where
  placed : ∀ identity, row.identity = some identity → Placed w row.id identity.podUid
  runtime : ∀ r, row.runtime = some r → Attested w row.id r
  proof : row.proof.isSome → ∃ r, row.runtime = some r ∧ r.containerId ∈ w.ended

structure Sound (cluster : String) (s : Evidence) : Prop where
  sessions : ∀ id row, s.plane.sessions.get? id = some row → row.gatewayClusterId = some cluster → Evidenced s.world row
  tasks : ∀ task ∈ s.tasks, Placed s.world task.sessionId task.identity.podUid
  inspections : ∀ i ∈ s.inspections, i.2.Safe World.oracle (Found i.1.sessionId) s.world
  proofs : ∀ proof ∈ s.proofs, Truthful s.world proof.sessionId proof.outcome proof.runtime

section

variable {env : Env} {isIp : String → Bool} {cluster nameSpace : String} {w w' : World} {s : Evidence}

theorem Evidenced.later {row : GatewaySession} (h : Evidenced w row) (le : w ≤ w') : Evidenced w' row where
  placed identity named := (h.placed identity named).later le
  runtime r recorded := (h.runtime r recorded).later le
  proof proved := by
    obtain ⟨r, recorded, ended⟩ := h.proof proved
    exact ⟨r, recorded, le.2 _ ended⟩

theorem Evidenced.same {row row' : GatewaySession} (h : Evidenced w row) (same : SameEvidence row row') :
    Evidenced w row' where
  placed identity named := by
    rw [same.id]
    exact h.placed identity (same.identity ▸ named)
  runtime r recorded := by
    rw [same.id]
    exact h.runtime r (same.runtime ▸ recorded)
  proof proved := by
    rw [same.runtime]
    exact h.proof (same.proof ▸ proved)

theorem Evidenced.proved {proof : Fleet.GatewayProof} {row row' : GatewaySession} (h : Evidenced w row)
    (proved : Proved proof row row') (truthful : Truthful w row.id proof.outcome proof.runtime) : Evidenced w row' where
  placed identity named := by
    rw [proved.id]
    exact h.placed identity (proved.identity ▸ named)
  runtime r recorded := by
    rw [proved.id]
    rcases proved.runtime with same | ⟨bound, -, same⟩
    · exact h.runtime r (same ▸ recorded)
    · exact truthful.bound bound r (same ▸ recorded)
  proof said := by
    rcases proved.proof with old | ⟨terminated, attested, same⟩
    · -- a container that has ended had been recorded, and is the one that stays
      rw [old] at said
      obtain ⟨r, recorded, ended⟩ := h.proof said
      rcases proved.runtime with kept | ⟨-, missing, -⟩
      · exact ⟨r, kept.trans recorded, ended⟩
      · rw [recorded] at missing
        cases missing
    · obtain ⟨r, recorded⟩ := Option.isSome_iff_exists.1 attested
      rcases proved.runtime with kept | ⟨bound, -, -⟩
      · exact ⟨r, kept.trans recorded, truthful.terminated terminated r (same.trans recorded)⟩
      · rw [bound] at terminated
        cases terminated

/-! ## Steps -/

/-- The cluster moves on, and nothing else does. -/
theorem Sound.later (h : Sound cluster s) (le : s.world ≤ w) : Sound cluster { s with world := w } where
  sessions id row found own := (h.sessions id row found own).later le
  tasks task mem := (h.tasks task mem).later le
  inspections i mem := (h.inspections i mem).later Found.later le
  proofs proof mem := (h.proofs proof mem).later le

/-- The control plane moves on, by any operation that is allowed. -/
theorem Sound.fleet (h : Sound cluster s) {op : Op} (allowed : allows cluster s.world op = true) :
    Sound cluster { s with plane := op.run env s.plane } where
  sessions id row' found own := by
    cases other : Op.proves op with
    | false =>
      rcases moves_evidence (Op.run_moves op s.plane) other found with ⟨row, there, same⟩ | opened
      · exact (h.sessions id row there (same.cluster ▸ own)).same same
      · obtain ⟨wallAt, now, nonce, token, rfl⟩ := opened.snapshot
        refine ⟨fun identity named => ?_, fun r recorded => ?_, fun said => ?_⟩
        · rw [opened.cluster, named] at own
          simp only [allows, named, Bool.or_eq_true, bne_iff_ne, ne_eq, List.any_eq_true, Bool.and_eq_true,
            beq_iff_eq] at allowed
          rcases allowed with foreign | ⟨c, hc, serves, inPod⟩
          · exact absurd (Option.some.inj own) foreign
          · exact ⟨c, hc, serves, inPod⟩
        · rw [opened.runtime] at recorded
          cases recorded
        · rw [opened.proof] at said
          cases said
    | true =>
      cases op with
      | gatewayProof authAt now member token proof =>
        obtain ⟨row, there, same | ⟨-, reporter, proved⟩⟩ := gatewayProof_evidence found
        · exact (h.sessions id row there (same.cluster ▸ own)).same same
        · rw [proved.cluster, reporter] at own
          simp only [allows, bne_iff_ne, ne_eq] at allowed
          exact absurd (Option.some.inj own) allowed
      | _ => cases other
  tasks := h.tasks
  inspections := h.inspections
  proofs := h.proofs

theorem Sound.poll (h : Sound cluster s) (authAt now : Int) (nonce : String → String) (token : String) :
    Sound cluster (s.poll env cluster authAt now nonce token) := by
  unfold Evidence.poll
  cases polled : gatewayProofTasks env authAt now nonce cluster token s.plane with
  | error e => exact h
  | ok r =>
    refine ⟨fun id row' found own => ?_, fun task mem => ?_, h.inspections, h.proofs⟩
    · rcases moves_evidence (gatewayProofTasks_ok polled) rfl found with ⟨row, there, same⟩ | opened
      · exact (h.sessions id row there (same.cluster ▸ own)).same same
      · obtain ⟨_, _, _, _, opens⟩ := opened.snapshot
        cases opens
    · rcases List.mem_append.1 mem with new | old
      · obtain ⟨row, there, own, same, named⟩ := gatewayProofTasks_named polled task new
        rw [← same]
        exact (h.sessions _ row there own).placed _ named
      · exact h.tasks task old

theorem Sound.inspect (h : Sound cluster s) {task : GatewayProofTask} (mem : task ∈ s.tasks) (now : Int) :
    Sound cluster
      { s with inspections := s.inspections ++ [(task, Kubernetes.GatewayProof.inspect isIp nameSpace now task)] } where
  sessions := h.sessions
  tasks := h.tasks
  inspections i hi := by
    rcases List.mem_append.1 hi with old | new
    · exact h.inspections i old
    · cases List.mem_singleton.1 new
      exact inspect_safe (h.tasks task mem)
  proofs := h.proofs

theorem Sound.ask (h : Sound cluster s) (i : Nat) (fault : World.Fault) (session : Option String) :
    Sound cluster (s.ask i fault session) := by
  unfold Evidence.ask
  split
  · rename_i task q next asking
    have le : s.world ≤ (s.world.ask fault session q).2 := s.world.ask_later fault session q
    have later := h.later le
    refine ⟨later.sessions, later.tasks, fun x hx => ?_, later.proofs⟩
    rcases List.mem_or_eq_of_mem_set hx with old | rfl
    · exact later.inspections x old
    · exact (h.inspections _ (List.mem_of_getElem? asking)).answered ⟨fault, session, rfl⟩
  · exact h

theorem Sound.finish (h : Sound cluster s) (i : Nat) : Sound cluster (s.finish i) := by
  unfold Evidence.finish
  split
  · rename_i task result finished
    have found : Found task.sessionId s.world result := h.inspections _ (List.mem_of_getElem? finished)
    refine ⟨h.sessions, h.tasks, h.inspections, fun proof mem => ?_⟩
    rcases List.mem_cons.1 mem with rfl | old
    · unfold Kubernetes.GatewayProof.report
      split
      · exact found _ _ rfl
      · constructor
        · intro bound
          cases bound
        · intro terminated
          cases terminated
    · exact h.proofs proof old
  · exact h

theorem Sound.report (h : Sound cluster s) {proof : Fleet.GatewayProof} (mem : proof ∈ s.proofs) (authAt now : Int)
    (token : String) :
    Sound cluster { s with plane := (Op.gatewayProof authAt now cluster token proof).run env s.plane } where
  sessions id row' found own := by
    obtain ⟨row, there, same | ⟨named, -, proved⟩⟩ := gatewayProof_evidence found
    · exact (h.sessions id row there (same.cluster ▸ own)).same same
    · have truthful := h.proofs proof mem
      rw [← named] at truthful
      exact (h.sessions id row there (proved.cluster ▸ own)).proved proved truthful
  tasks := h.tasks
  inspections := h.inspections
  proofs := h.proofs

theorem Sound.step (h : Sound cluster s) (act : Evidence.Act) :
    Sound cluster (s.step env isIp cluster nameSpace act) := by
  cases act with
  | fleet op =>
    simp only [Evidence.step]
    split
    · exact h.fleet ‹_›
    · exact h
  | start c => exact h.later (s.world.start_later c)
  | stop id => exact h.later (s.world.stop_later id)
  | putPod pod => exact h.later (s.world.putPod_later pod)
  | deletePod | putNode | putLease => exact h.later ⟨List.suffix_rfl, fun _ ended => ended⟩
  | poll authAt now nonce token => exact h.poll authAt now nonce token
  | inspect k now =>
    simp only [Evidence.step]
    split
    · rename_i task listed
      exact h.inspect (List.mem_of_getElem? listed) now
    · exact h
  | ask i fault session => exact h.ask i fault session
  | finish i => exact h.finish i
  | report k authAt now token =>
    simp only [Evidence.step]
    split
    · rename_i proof listed
      exact h.report (List.mem_of_getElem? listed) authAt now token
    · exact h

theorem run_sound (acts : List Evidence.Act) : Sound cluster (run env isIp cluster nameSpace acts) := by
  have start : Sound cluster Evidence.start := by
    constructor
    · intro id row found
      cases found
    all_goals
      intro x mem
      cases mem
  exact List.foldlRecOn acts _ start fun s h act _ => h.step act

end

/-- In every run, whatever happens in the cluster while it is inspected: the container that is recorded of a
session is the one the session runs in, and where a gateway is recorded as terminated, every container of its
session has ended. The statuses of pods are the runtime's own here, as `honest` and `Startable` say: a status
that trails a restart, or one that somebody edits, is outside of this. -/
theorem run_truthful (env : Env) (isIp : String → Bool) (cluster nameSpace : String) (acts : List Evidence.Act) :
    let s := run env isIp cluster nameSpace acts
    ∀ row ∈ s.plane.sessions, row.gatewayClusterId = some cluster →
      (∀ r, row.runtime = some r → ∃ c ∈ s.world.containers, c.session = row.id ∧ c.id = r.containerId) ∧
      (row.proof.isSome → ∀ c ∈ s.world.containers, c.session = row.id → c.id ∈ s.world.ended) := by
  intro s row mem own
  have so := (run_sound acts).sessions row.id row (Table.get?_of_mem (r := row) mem) own
  refine ⟨so.runtime, fun said c hc serves => ?_⟩
  obtain ⟨r, recorded, ended⟩ := so.proof said
  obtain ⟨d, hd, runs, id⟩ := so.runtime r recorded
  cases session_unique hc hd (serves.trans runs.symm)
  rw [id]
  exact ended

/-! ### A gateway that ends -/

def sampleEnv : Env := ⟨fun _ => true, id, fun _ => "", false⟩

def samplePod (statuses : List ContainerStatus) : Pod where
  name := "gateway-0"
  uid := "pod"
  revision := 0
  labels := [("app.kubernetes.io/name", "gateway")]
  deleting := false
  finalizers := []
  node := some "node"
  statuses := statuses
  ip := some "10.0.0.7"
  containers := [⟨"gateway", [(some "http", 8080)]⟩]

/-- One inspection, each of whose calls is answered, and the report of what it found. -/
def sampleInspection (i now : Nat) (nonce : String) (asks : Nat) : List Evidence.Act :=
  [.poll now now (fun _ => nonce) "key", .inspect 0 now] ++ List.replicate asks (.ask i .none (some "session")) ++
    [.finish i, .report 0 now now "key"]

/-- A gateway is let in, its container is attested, ends, and is reported as terminated. -/
def sampleActs : List Evidence.Act :=
  [.fleet (.registerCluster 0 "key" ⟨"c", "ns", 30⟩), .start ⟨"container", "pod", "session"⟩,
    .putNode ⟨"node", some "node-uid", [("Ready", "True")]⟩, .putLease ⟨"node", [("Node", "node-uid")], some 0⟩,
    .putPod (samplePod [⟨"gateway", some "container", true, none, none⟩]),
    .fleet (.trafficSnapshot 0 0 "s" "t" "session" (some ⟨"c", "ns", "gateway-0", "pod"⟩))] ++
      sampleInspection 0 1 "p1" 6 ++
  [.stop "container", .putPod (samplePod [⟨"gateway", some "container", false, some (some "container"), none⟩])] ++
    sampleInspection 1 2 "p2" 3

example : (run sampleEnv (fun _ => true) "c" "ns" sampleActs).plane.sessions.rows.any
    (fun row => row.runtime.any (fun r => r.containerId == "container") && row.proof.isSome) = true := by decide +kernel

end Evidence

end Xscope.Member

/-
The evidence on gateway containers. An agent reads the termination state that the kubelet reports; a missing pod
is never taken for a dead process. Reads are separate, and pods, containers and the kubelet's reports change
between them; as long as no pod status trails a restart of its container, a container that is reported as that
of a session is the one the session runs in, and a container reported as terminated has ended.
-/
import Xscope.Base.Rely
import Xscope.Fleet.GatewayProofs
import Xscope.Kubernetes.Api

namespace Xscope.Kubernetes.GatewayProof

open Fleet

/-! ## The objects that are read -/

def finalizer : String := "platform.xscope.io/gateway-evidence"

structure ContainerStatus where
  name : String
  containerId : Option String
  running : Bool
  /-- The container ids of the terminated state and of the terminated last state. -/
  terminated : Option (Option String)
  lastTerminated : Option (Option String)
  deriving DecidableEq

def ContainerStatus.ended (status : ContainerStatus) : List String :=
  (status.terminated.toList ++ status.lastTerminated.toList).filterMap id

structure ContainerSpec where
  name : String
  ports : List (Option String × Int)
  deriving DecidableEq

structure Pod where
  name : String
  uid : String
  revision : Nat
  labels : List (String × String)
  deleting : Bool
  finalizers : List String
  node : Option String
  statuses : List ContainerStatus
  ip : Option String
  containers : List ContainerSpec
  deriving DecidableEq

instance : Keyed Pod String := ⟨Pod.name⟩

structure Node where
  name : String
  uid : Option String
  conditions : List (String × String)
  deriving DecidableEq

instance : Keyed Node String := ⟨Node.name⟩

structure Lease where
  name : String
  owners : List (String × String)
  renewedAt : Option Int
  deriving DecidableEq

instance : Keyed Lease String := ⟨Lease.name⟩

def Pod.gateway (pod : Pod) : Bool :=
  pod.labels.lookup "app.kubernetes.io/name" == some "gateway" ||
    pod.labels.lookup "app.kubernetes.io/component" == some "api-gateway"

/-- The kubelet is alive: the node is ready, and its own lease was renewed in the last thirty seconds. -/
def freshNode (now : Int) (node : Node) (lease : Lease) : Bool :=
  node.conditions.contains ("Ready", "True") &&
    lease.owners.any (fun owner => owner.1 == "Node" && some owner.2 == node.uid) &&
    lease.renewedAt.any fun t => decide (-5 ≤ now - t ∧ now - t ≤ 30)

/-- The `http` port of the gateway container. -/
def Pod.httpPort (pod : Pod) : Option Nat := do
  let container ← pod.containers.find? fun c => c.name == "gateway"
  let port ← container.ports.find? fun p => p.1 == some "http"
  if 0 ≤ port.2 ∧ port.2 ≤ 65535 then some port.2.toNat else none

/-- The pod still runs the container as its gateway. -/
def Pod.runs (pod : Pod) (containerId : String) : Bool :=
  pod.statuses.any fun s => s.name == "gateway" && s.containerId == some containerId && s.running

/-! ## The inspection -/

inductive Question where
  | pod (name : String)
  | node (name : String)
  | lease (name : String)
  | patch (read : Pod) (finalizers : List String)
  | health (ip : String) (port : Nat)

/-- `none` is a call that failed; the inner `none` is a pod that is missing, or a health answer without a session. -/
abbrev Answer : Question → Type
  | .pod _ => Option (Option Pod)
  | .node _ => Option Node
  | .lease _ => Option Lease
  | .patch _ _ => Option Pod
  | .health _ _ => Option (Option String)

abbrev Inspection := Asking Question Answer (Option (ProofOutcome × Option GatewayRuntime))

section

variable (isIp : String → Bool) (nameSpace : String) (now : Int) (task : GatewayProofTask)

def missing : ProofOutcome := if task.closed then .cleaned else if task.runtime.isNone then .unbound else .unknown

/-- The pod of a retired session loses the finalizer. -/
def release (pod : Pod) : Inspection :=
  if task.releaseFinalizer = false then .done (some (.cleaned, task.runtime))
  else if pod.deleting = false ∧ pod.finalizers.contains finalizer then .done none
  else
    let finalizers := pod.finalizers.filter fun f => f != finalizer
    if finalizers.length ≠ pod.finalizers.length then
      .ask (.patch pod finalizers) fun answer => .expect answer fun _ => .done (some (.cleaned, task.runtime))
    else .done (some (.cleaned, task.runtime))

/-- The pod keeps the finalizer while its container is attributed to a session. -/
def hold (pod : Pod) (next : Pod → Inspection) : Inspection :=
  if pod.finalizers.contains finalizer then next pod
  else .ask (.patch pod (pod.finalizers ++ [finalizer])) fun answer => .expect answer next

/-- The container answers for the session, and is running before and after the answer. -/
def attest (pod : Pod) (runtime : GatewayRuntime) : Inspection :=
  .expect (pod.ip.filter isIp) fun ip => .expect pod.httpPort fun port =>
    .ask (.health ip port) fun answer => .expect answer fun session =>
      if session ≠ some task.sessionId then .done (some (.unbound, none))
      else .ask (.pod pod.name) fun answer => .expect answer.join fun current =>
        if current.uid ≠ pod.uid ∨ current.deleting = true ∨ current.runs runtime.containerId = false then .done none
        else .done (some (.bound, some runtime))

/-- What the kubelet says of the container. -/
def located (pod : Pod) (node : String) (nodeUid : String) (status : ContainerStatus) : Inspection :=
  match task.runtime with
  | some runtime =>
    if runtime.node ≠ node ∨ runtime.nodeUid ≠ nodeUid then .done none
    else .done (some (if status.ended.contains runtime.containerId then .terminated else .unknown, some runtime))
  | none =>
    if pod.deleting then .done (some (.unbound, none))
    else if status.running = false then .done none
    else .expect status.containerId fun containerId => hold pod fun pod =>
      attest isIp task pod ⟨containerId, node, nodeUid⟩

def locate (pod : Pod) : Inspection :=
  .expect pod.node fun name => .ask (.node name) fun answer => .expect answer fun node =>
    .ask (.lease name) fun answer => .expect answer fun lease =>
      if freshNode now node lease = false then .done none
      else .expect node.uid fun nodeUid => .expect (pod.statuses.find? fun s => s.name == "gateway") fun status =>
        located isIp task pod name nodeUid status

def inspect : Inspection :=
  if task.identity.nameSpace ≠ nameSpace ∨ (Api.validateName task.identity.pod true).isOk = false then .done none
  else .ask (.pod task.identity.pod) fun answer => .expect answer fun found => match found with
    | none => .done (some (missing task, task.runtime))
    | some pod =>
      if pod.uid ≠ task.identity.podUid ∨ pod.gateway = false then .done none
      else if task.closed then release task pod
      else locate isIp now task pod

/-- `observe`: an inspection that fails leaves the outcome unknown. -/
def report (result : Option (ProofOutcome × Option GatewayRuntime)) : Fleet.GatewayProof :=
  match result with
  | some (outcome, runtime) => ⟨task.sessionId, task.nonce, outcome, runtime⟩
  | none => ⟨task.sessionId, task.nonce, .unknown, task.runtime⟩

end

/-! ## The cluster -/

/-- A gateway container, the pod it runs in, and the session its process serves under. -/
structure Container where
  id : String
  podUid : String
  session : String
  deriving DecidableEq

/-- The container that was started last in a pod. -/
def latest (containers : List Container) (uid : String) : Option Container := containers.find? fun c => c.podUid == uid

/-- What is assumed of the kubelet's reports: a container reported as running is the last one started in its
pod, and a container reported as terminated has ended. A pod status that trails a restart is left out: until it
catches up it names the old container, and an inspection attests that one for the session of the new one. -/
def honest (containers : List Container) (ended : List String) (pod : Pod) : Bool :=
  pod.statuses.all fun status => status.name != "gateway" ||
    (!status.running || status.containerId.all fun id => decide ((latest containers pod.uid).map (·.id) = some id)) &&
      status.ended.all fun id => decide (id ∈ ended)

/-- The objects of the cluster and its gateway containers, the newest first. A pod runs one at a time, a session
is served by one, and an ended container does not come back. -/
structure World where
  pods : Table Pod
  nodes : Table Node
  leases : Table Lease
  containers : List Container
  ended : List String
  distinct : (containers.map (·.id)).Nodup
  sessions : (containers.map (·.session)).Nodup
  alone : ∀ c ∈ containers, c.id ∉ ended → latest containers c.podUid = some c
  truthful : ∀ pod ∈ pods, honest containers ended pod = true

/-- A later world has more containers, and more of them have ended. -/
instance : Preorder World where
  le w w' := w.containers <:+ w'.containers ∧ ∀ id ∈ w.ended, id ∈ w'.ended
  le_refl _ := ⟨List.suffix_rfl, fun _ h => h⟩
  le_trans _ _ _ h h' := ⟨h.1.trans h'.1, fun id hid => h'.2 id (h.2 id hid)⟩

theorem latest_mem {containers : List Container} {uid : String} {c : Container} (h : latest containers uid = some c) :
    c ∈ containers ∧ c.podUid = uid := ⟨List.mem_of_find?_eq_some h, by simpa using List.find?_some h⟩

theorem latest_cons (c : Container) (containers : List Container) (uid : String) :
    latest (c :: containers) uid = if c.podUid = uid then some c else latest containers uid := by
  unfold latest
  by_cases same : c.podUid = uid
  · rw [if_pos same, List.find?_cons_of_pos (by simpa using same)]
  · rw [if_neg same, List.find?_cons_of_neg (by simpa using same)]

namespace World

def empty : World where
  pods := .empty
  nodes := .empty
  leases := .empty
  containers := []
  ended := []
  distinct := List.nodup_nil
  sessions := List.nodup_nil
  alone := fun _ h => absurd h List.not_mem_nil
  truthful := fun _ h => absurd h (Table.not_mem_empty _)

/-- A pod object of the uid reports its gateway as running. -/
def reported (w : World) (uid : String) : Bool :=
  w.pods.rows.any fun pod => pod.uid == uid && pod.statuses.any fun status => status.name == "gateway" && status.running

/-- A container may start: the ones before it in its pod have ended, and no pod object reports one of them as
running any more. The latter is again the assumption that a status does not trail a restart. -/
structure Startable (w : World) (c : Container) : Prop where
  fresh : c.id ∉ w.containers.map (·.id) ∧ c.id ∉ w.ended
  session : c.session ∉ w.containers.map (·.session)
  alone : ∀ k ∈ w.containers, k.podUid = c.podUid → k.id ∈ w.ended
  unreported : w.reported c.podUid = false

instance (w : World) (c : Container) : Decidable (w.Startable c) :=
  decidable_of_iff (((c.id ∉ w.containers.map (·.id) ∧ c.id ∉ w.ended) ∧ c.session ∉ w.containers.map (·.session)) ∧
    (∀ k ∈ w.containers, k.podUid = c.podUid → k.id ∈ w.ended) ∧ w.reported c.podUid = false)
    ⟨fun h => ⟨h.1.1, h.1.2, h.2.1, h.2.2⟩, fun h => ⟨⟨h.fresh, h.session⟩, h.alone, h.unreported⟩⟩

theorem honest_start {w : World} {c : Container} (h : w.Startable c) {pod : Pod} (hp : pod ∈ w.pods) :
    honest (c :: w.containers) w.ended pod = true := by
  have before := w.truthful pod hp
  unfold honest at before ⊢
  rw [List.all_eq_true] at before ⊢
  intro status hs
  have so := before status hs
  rw [latest_cons]
  by_cases same : c.podUid = pod.uid
  · have quiet := h.unreported
    simp only [reported, List.any_eq_false, Bool.and_eq_true, beq_iff_eq, List.any_eq_true, not_and,
      not_exists] at quiet
    have idle := quiet pod hp same.symm status
    simp only [Bool.or_eq_true, Bool.and_eq_true, bne_iff_ne, ne_eq, Bool.not_eq_true'] at so ⊢
    rcases so with other | ⟨-, ended⟩
    · exact .inl other
    · by_cases gateway : status.name = "gateway"
      · exact .inr ⟨.inl (by simpa using idle hs gateway), ended⟩
      · exact .inl gateway
  · rw [if_neg same]
    exact so

theorem alone_start {w : World} {c : Container} (h : w.Startable c) :
    ∀ k ∈ c :: w.containers, k.id ∉ w.ended → latest (c :: w.containers) k.podUid = some k := by
  intro k hk running
  rw [latest_cons]
  rcases List.mem_cons.1 hk with rfl | hk
  · exact if_pos rfl
  · rw [if_neg]
    · exact w.alone k hk running
    · exact fun same => running (h.alone k hk same.symm)

def start (w : World) (c : Container) : World :=
  if h : w.Startable c then
    { w with
      containers := c :: w.containers
      distinct := by rw [List.map_cons]; exact List.nodup_cons.2 ⟨h.fresh.1, w.distinct⟩
      sessions := by rw [List.map_cons]; exact List.nodup_cons.2 ⟨h.session, w.sessions⟩
      alone := alone_start h
      truthful := fun _ hp => honest_start h hp }
  else w

theorem honest_stop {containers : List Container} {ended : List String} (id : String) {pod : Pod}
    (h : honest containers ended pod = true) :
    honest containers (id :: ended) pod = true := by
  unfold honest at h ⊢
  rw [List.all_eq_true] at h ⊢
  intro status hs
  have so := h status hs
  simp only [Bool.or_eq_true, Bool.and_eq_true, List.all_eq_true, decide_eq_true_eq] at so ⊢
  rcases so with other | ⟨running, ends⟩
  · exact .inl other
  · exact .inr ⟨running, fun x hx => List.mem_cons_of_mem _ (ends x hx)⟩

def stop (w : World) (id : String) : World :=
  { w with
    ended := id :: w.ended
    alone := fun c hc running => w.alone c hc fun ended => running (List.mem_cons_of_mem _ ended)
    truthful := fun pod hp => honest_stop id (w.truthful pod hp) }

/-- Anybody writes a pod object; its status is the kubelet's. -/
def putPod (w : World) (pod : Pod) : World :=
  if h : honest w.containers w.ended pod = true then
    { w with
      pods := w.pods.upsert pod
      truthful := fun x hx => by
        rcases Table.mem_upsert hx with rfl | ⟨hx, -⟩
        · exact h
        · exact w.truthful x hx }
  else w

def deletePod (w : World) (name : String) : World :=
  { w with
    pods := w.pods.deleteWhere fun pod => pod.name == name
    truthful := fun x hx => w.truthful x (List.mem_filter.1 hx).1 }

def putNode (w : World) (node : Node) : World := { w with nodes := w.nodes.upsert node }

def putLease (w : World) (lease : Lease) : World := { w with leases := w.leases.upsert lease }

/-! ### Answers -/

/-- A merge patch of the finalizers, for the pod as it was read. -/
def patch (w : World) (read : Pod) (finalizers : List String) : Option (Pod × World) := match w.pods.get? read.name with
  | some pod =>
    if pod.uid = read.uid ∧ pod.revision = read.revision then
      let patched := { pod with finalizers := finalizers, revision := pod.revision + 1 }
      some (patched, w.putPod patched)
    else none
  | none => none

/-- Nobody but its own process answers with the session of a gateway. -/
def speaks (w : World) (session : Option String) : Bool :=
  session.all fun s => w.containers.all fun c => c.session != s || decide (c.id ∉ w.ended)

/-- How a call fares: it is answered, its answer is lost, or it does not come through. -/
inductive Fault where
  | none
  | lost
  | refused
  deriving DecidableEq

def Fault.told {α : Type} (fault : Fault) (answer : Option α) : Option α := if fault = .none then answer
    else Option.none

def ask (w : World) (fault : Fault) (session : Option String) : (q : Question) → Answer q × World
  | .pod name => (fault.told (some (w.pods.get? name)), w)
  | .node name => (fault.told (w.nodes.get? name), w)
  | .lease name => (fault.told (w.leases.get? name), w)
  | .patch read finalizers =>
    if fault = .refused then (Option.none, w)
    else match w.patch read finalizers with
      | some (pod, w') => (fault.told (some pod), w')
      | Option.none => (Option.none, w)
  | .health _ _ => (if w.speaks session then fault.told (some session) else Option.none, w)

theorem putPod_later (w : World) (pod : Pod) : w ≤ w.putPod pod := by
  unfold putPod
  split
  · exact ⟨List.suffix_rfl, fun _ h => h⟩
  · exact le_rfl

theorem start_later (w : World) (c : Container) : w ≤ w.start c := by
  unfold start
  split
  · exact ⟨List.suffix_cons c w.containers, fun _ h => h⟩
  · exact le_rfl

theorem stop_later (w : World) (id : String) : w ≤ w.stop id := ⟨List.suffix_rfl, fun _ h => List.mem_cons_of_mem _ h⟩

theorem patch_some {w w' : World} {read pod : Pod} {finalizers : List String}
    (h : w.patch read finalizers = some (pod, w')) :
    w ≤ w' ∧ pod.uid = read.uid := by
  unfold patch at h
  split at h
  · split at h
    · rename_i same
      cases h
      exact ⟨w.putPod_later _, same.1⟩
    · cases h
  · cases h

theorem ask_later (w : World) (fault : Fault) (session : Option String) (q : Question) :
    w ≤ (w.ask fault session q).2 := by
  cases q with
  | patch read finalizers =>
    unfold ask
    dsimp only
    split
    · exact le_rfl
    · cases patched : w.patch read finalizers with
      | none => exact le_rfl
      | some r => exact (patch_some patched).1
  | _ => exact le_rfl

def oracle : Oracle World Question Answer where
  gives w q a w' := ∃ fault session, w.ask fault session q = (a, w')
  later := by
    rintro w q a w' ⟨fault, session, given⟩
    have le := w.ask_later fault session q
    rw [given] at le
    exact le

theorem Fault.told_some {α : Type} {fault : Fault} {answer : Option α} {a : α}
    (h : fault.told answer = some a) : answer = some a := by
  unfold Fault.told at h
  split at h
  · exact h
  · cases h

end World

/-! ## What an inspection finds is so -/

open World

/-- The session runs in the container. -/
def Attested (w : World) (session : String) (runtime : GatewayRuntime) : Prop :=
  ∃ c ∈ w.containers, c.session = session ∧ c.id = runtime.containerId

/-- The session is that of a process of the pod. -/
def Placed (w : World) (session podUid : String) : Prop := ∃ c ∈ w.containers, c.session = session ∧ c.podUid = podUid

structure Truthful (w : World) (session : String) (outcome : ProofOutcome)
    (runtime : Option GatewayRuntime) : Prop where
  bound : outcome = .bound → ∀ r, runtime = some r → Attested w session r
  terminated : outcome = .terminated → ∀ r, runtime = some r → r.containerId ∈ w.ended

section

variable {w w' : World}

theorem Attested.later {session : String} {runtime : GatewayRuntime} (h : Attested w session runtime) (le : w ≤ w') :
    Attested w' session runtime := by
  obtain ⟨c, hc, own⟩ := h
  exact ⟨c, le.1.subset hc, own⟩

theorem Placed.later {session podUid : String} (h : Placed w session podUid)
    (le : w ≤ w') : Placed w' session podUid := by
  obtain ⟨c, hc, own⟩ := h
  exact ⟨c, le.1.subset hc, own⟩

theorem Truthful.later {session : String} {outcome : ProofOutcome} {runtime : Option GatewayRuntime}
    (h : Truthful w session outcome runtime) (le : w ≤ w') : Truthful w' session outcome runtime :=
  ⟨fun bound r hr => (h.bound bound r hr).later le, fun terminated r hr => le.2 _ (h.terminated terminated r hr)⟩

theorem session_unique {c d : Container} (hc : c ∈ w.containers) (hd : d ∈ w.containers)
    (same : c.session = d.session) : c = d :=
  List.inj_on_of_nodup_map w.sessions hc hd same

theorem container_unique {c d : Container} (hc : c ∈ w.containers) (hd : d ∈ w.containers)
    (same : c.id = d.id) : c = d :=
  List.inj_on_of_nodup_map w.distinct hc hd same

/-- A container that is old in a pod's life and the latest in it has been the latest since. -/
theorem latest_before (le : w ≤ w') {c : Container} (hc : c ∈ w.containers)
    (last : latest w'.containers c.podUid = some c) :
    latest w.containers c.podUid = some c := by
  obtain ⟨news, hnews⟩ := le.1
  have distinct := w'.distinct
  unfold latest at last ⊢
  rw [← hnews] at last distinct
  rw [List.find?_append] at last
  cases found : news.find? fun d => d.podUid == c.podUid with
  | none =>
    rw [found] at last
    exact last
  | some d =>
    rw [found] at last
    cases last
    have new : c ∈ news := List.mem_of_find?_eq_some found
    rw [List.map_append] at distinct
    exact absurd (List.mem_map_of_mem hc) (List.disjoint_of_nodup_append distinct (List.mem_map_of_mem new))

theorem honest_running {pod : Pod} (hp : pod ∈ w.pods) {status : ContainerStatus} (hs : status ∈ pod.statuses)
    (gateway : status.name = "gateway") (running : status.running = true) {id : String}
    (named : status.containerId = some id) :
    ∃ c ∈ w.containers, c.id = id ∧ c.podUid = pod.uid ∧ latest w.containers pod.uid = some c := by
  have so := w.truthful pod hp
  unfold honest at so
  rw [List.all_eq_true] at so
  have here := so status hs
  simp only [gateway, running, named, bne_self_eq_false, Bool.not_true, Bool.false_or, Option.all_some,
    Bool.and_eq_true, decide_eq_true_eq, Option.map_eq_some_iff] at here
  obtain ⟨⟨c, last, own⟩, -⟩ := here
  exact ⟨c, (latest_mem last).1, own, (latest_mem last).2, last⟩

theorem honest_ended {pod : Pod} (hp : pod ∈ w.pods) {status : ContainerStatus} (hs : status ∈ pod.statuses)
    (gateway : status.name = "gateway") {id : String} (ended : id ∈ status.ended) : id ∈ w.ended := by
  have so := w.truthful pod hp
  unfold honest at so
  rw [List.all_eq_true] at so
  have here := so status hs
  simp only [gateway, bne_self_eq_false, Bool.false_or, Bool.and_eq_true, List.all_eq_true, decide_eq_true_eq] at here
  exact here.2 id ended

/-- The result of an inspection for a session is so. -/
def Found (session : String) (w : World) (result : Option (ProofOutcome × Option GatewayRuntime)) : Prop :=
  ∀ outcome runtime, result = some (outcome, runtime) → Truthful w session outcome runtime

theorem Found.later {session : String} {result : Option (ProofOutcome × Option GatewayRuntime)} (le : w ≤ w')
    (h : Found session w result) :
    Found session w' result := fun outcome runtime same => (h outcome runtime same).later le

theorem Found.none {session : String} : Found session w none := fun _ _ same => by cases same

/-- The outcomes that say nothing of a container. -/
theorem Found.quiet {session : String} {outcome : ProofOutcome} {runtime : Option GatewayRuntime}
    (bound : outcome ≠ .bound) (terminated : outcome ≠ .terminated) : Found session w (some (outcome, runtime)) := by
  intro o r same
  cases same
  exact ⟨fun h => absurd h bound, fun h => absurd h terminated⟩

section

variable {isIp : String → Bool} {nameSpace : String} {now : Int} {task : GatewayProofTask}

theorem asked_pod {name : String} {a : Option (Option Pod)} (given : oracle.gives w (.pod name) a w') :
    w' = w ∧ ∀ found, a = some found → w.pods.get? name = found := by
  obtain ⟨fault, session, asked⟩ := given
  cases asked
  exact ⟨rfl, fun found h => Option.some.inj (Fault.told_some h)⟩

theorem asked_health {ip : String} {port : Nat} {a : Option (Option String)}
    (given : oracle.gives w (.health ip port) a w') :
    w' = w ∧ ∀ session, a = some (some session) → ∀ c ∈ w.containers, c.session = session → c.id ∉ w.ended := by
  obtain ⟨fault, said, asked⟩ := given
  cases asked
  refine ⟨rfl, fun session h c hc serves => ?_⟩
  split at h
  · rename_i spoken
    cases Option.some.inj (Fault.told_some h)
    simp only [speaks, Option.all_some, List.all_eq_true, Bool.or_eq_true, bne_iff_ne, decide_eq_true_eq] at spoken
    exact (spoken c hc).resolve_left fun other => other serves
  · cases h

theorem asked_patch {read pod : Pod} {finalizers : List String}
    (given : oracle.gives w (.patch read finalizers) (some pod) w') :
    pod.uid = read.uid := by
  obtain ⟨fault, session, asked⟩ := given
  unfold ask at asked
  dsimp only at asked
  split at asked
  · cases asked
  · cases patched : w.patch read finalizers with
    | none => rw [patched] at asked; cases asked
    | some r =>
      rw [patched] at asked
      have told : fault.told (some r.1) = some pod := congrArg Prod.fst asked
      cases Option.some.inj (Fault.told_some told)
      exact (patch_some patched).2

/-- A container that runs before and after its pod answered for the session is the session's: it is still the
last one started, so the process that answered cannot have come after it, and all before it had ended. -/
theorem attest_safe {pod : Pod} {runtime : GatewayRuntime} (placed : Placed w task.sessionId pod.uid)
    (started : ∃ c ∈ w.containers, c.id = runtime.containerId ∧ c.podUid = pod.uid) :
    (attest isIp task pod runtime).Safe oracle (Found task.sessionId) w := by
  refine .expect .none fun ip _ => .expect .none fun port _ w₁ le₁ a₁ w₂ given₁ =>
    .expect .none fun session answered => ?_
  obtain ⟨rfl, answers⟩ := asked_health given₁
  split
  · exact .quiet (by decide) (by decide)
  · rename_i own
    intro w₃ le₃ a₃ w₄ given₃
    refine .expect .none fun current there => ?_
    obtain ⟨rfl, reads⟩ := asked_pod given₃
    have stored := reads _ (Option.join_eq_some_iff.1 there)
    split
    · exact .none
    · rename_i same
      simp only [not_or, not_not, Bool.not_eq_false] at own same
      obtain ⟨uid, -, runs⟩ := same
      intro outcome runtime' result
      cases result
      refine ⟨fun _ r hr => ?_, fun h => by cases h⟩
      cases hr
      -- the answer came from a process of the pod that had not ended
      obtain ⟨c, hc, serves, inPod⟩ := placed.later le₁
      have alive := answers _ (by rw [answered, own]) c hc serves
      have last := w₂.alone c hc alive
      rw [inPod] at last
      -- the container was the last one of the pod before that and still is after it
      simp only [Pod.runs, List.any_eq_true, Bool.and_eq_true, beq_iff_eq] at runs
      obtain ⟨status, hs, ⟨gateway, named⟩, running⟩ := runs
      obtain ⟨d, hd, id, place, final⟩ := honest_running (Table.get?_mem stored) hs gateway running named
      obtain ⟨k, hk, kid, kpod⟩ := started
      have old := le₁.1.subset hk
      cases container_unique hd (le₃.1.subset old) (id.trans kid.symm)
      rw [uid, ← kpod] at final
      have earlier := latest_before le₃ old final
      rw [kpod, last] at earlier
      cases earlier
      exact ⟨c, hd, serves, id⟩

theorem hold_safe {pod : Pod} {next : Pod → Inspection}
    (h : ∀ pod' w', w ≤ w' → pod'.uid = pod.uid → (next pod').Safe oracle (Found task.sessionId) w') :
    (hold pod next).Safe oracle (Found task.sessionId) w := by
  unfold hold
  split
  · exact h pod w le_rfl rfl
  · intro w₁ le₁ a w₂ given
    refine .expect .none fun pod' answered => h pod' w₂ (le_trans le₁ (oracle.later given)) ?_
    rw [answered] at given
    exact asked_patch given

theorem located_safe {pod : Pod} {name nodeUid : String} {status : ContainerStatus}
    (placed : Placed w task.sessionId pod.uid)
    (started : status.running = true → ∀ id, status.containerId = some id → ∃ c ∈ w.containers, c.id = id ∧
    c.podUid = pod.uid)
    (ends : ∀ id ∈ status.ended, id ∈ w.ended) :
    (located isIp task pod name nodeUid status).Safe oracle (Found task.sessionId) w := by
  unfold located
  cases task.runtime with
  | some runtime =>
    dsimp only
    split
    · exact .none
    · intro outcome runtime' result
      cases result
      refine ⟨fun bound => ?_, fun terminated r hr => ?_⟩
      · split at bound <;> cases bound
      · cases hr
        split at terminated
        · rename_i reported
          exact ends _ (List.contains_iff_mem.1 reported)
        · cases terminated
  | none =>
    dsimp only
    split
    · exact .quiet (by decide) (by decide)
    · split
      · exact .none
      · rename_i running
        refine .expect .none fun id named => hold_safe fun pod' w' le uid => attest_safe ?_ ?_
        · rw [uid]
          exact placed.later le
        · obtain ⟨c, hc, own⟩ := started (by simpa using running) id named
          rw [uid]
          exact ⟨c, le.1.subset hc, own⟩

theorem release_safe {pod : Pod} : (release task pod).Safe oracle (Found task.sessionId) w := by
  have cleaned (w : World) : Found task.sessionId w (some (.cleaned, task.runtime)) := .quiet (by decide) (by decide)
  unfold release
  split
  · exact cleaned w
  · split
    · exact .none
    · dsimp only
      split
      · exact fun w₁ _ a w₂ _ => .expect .none fun _ _ => cleaned w₂
      · exact cleaned w

/-- An inspection for a session of the pod finds what is so, whatever happens in the cluster meanwhile. -/
theorem inspect_safe (placed : Placed w task.sessionId task.identity.podUid) :
    (inspect isIp nameSpace now task).Safe oracle (Found task.sessionId) w := by
  unfold inspect
  split
  · exact .none
  · intro w₁ le₁ a₁ w₂ given₁
    refine .expect .none fun found answered => ?_
    obtain ⟨rfl, reads⟩ := asked_pod given₁
    cases found with
    | none =>
      refine .quiet ?_ ?_ <;> (unfold missing; repeat' split) <;> decide
    | some pod =>
      have stored := Table.get?_mem (reads _ answered)
      dsimp only
      split
      · exact .none
      · rename_i own
        simp only [not_or, not_not] at own
        split
        · exact release_safe
        · have here : Placed w₂ task.sessionId pod.uid := by
            rw [own.1]
            exact placed.later le₁
          refine .expect .none fun name _ w₃ le₃ a₃ w₄ given₃ => .expect .none fun node _ w₅ le₅ a₅ w₆ given₅ =>
            .expect .none fun lease _ => ?_
          have le : w₂ ≤ w₆ := le_trans le₃ (le_trans (oracle.later given₃) (le_trans le₅ (oracle.later given₅)))
          split
          · exact .none
          · refine .expect .none fun nodeUid _ => .expect .none fun status listed => ?_
            have hs := List.mem_of_find?_eq_some listed
            have gateway : status.name = "gateway" := by simpa using List.find?_some listed
            refine located_safe (here.later le) (fun running id named => ?_) fun id ended =>
              le.2 id (honest_ended stored hs gateway ended)
            obtain ⟨c, hc, cid, place, -⟩ := honest_running stored hs gateway running named
            exact ⟨c, le.1.subset hc, cid, place⟩

end

end

end Xscope.Kubernetes.GatewayProof

/-
One writer for each deployment. A deployment that carries the label of a cluster belongs to the agents of that
cluster, one without it to the inbound API. Both read an object before they write it and present what they read,
so neither writes what the other one owns, however their calls interleave.
-/
import Xscope.Kubernetes.Api
import Xscope.Member.Restart

namespace Xscope.Member

open Fleet

open Kubernetes.Api (Error validateName)

/-! ## The inbound API -/

abbrev Request := Program String ModelDeployment Error Unit

/-- `Api::get_opt`. -/
def getOpt (name : String) : Program String ModelDeployment Error (Option Current) := do
  match ← Program.ask (.get name) with
  | .ok objects => pure objects.head?
  | .error error => Program.fail (.kube error)

/-- `Api::get`. -/
def getObject (name : String) : Program String ModelDeployment Error Current := do
  match ← getOpt name with
  | some current => pure current
  | none => Program.fail (.kube .notFound)

def send (call : ObjectCall String ModelDeployment) : Request := do
  match ← Program.ask call with
  | .ok _ => pure ()
  | .error error => Program.fail (.kube error)

def outbound : String := "deployment belongs to the outbound desired-state writer"

section

-- the deserialisation and validation of a spec under a name, with the defaults
variable (validate : String → Json → Except String Json)

def validated (name : String) (spec : Json) : Program String ModelDeployment Error Json := match validate name spec with
  | .ok spec => pure spec
  | .error message => Program.fail (.check (.invalid message))

/-- Only a new top-level resource is accepted; its label and its annotations are dropped. -/
def create (name : String) (body : ModelDeployment) : Request := do
  let spec ← validated validate name body.spec
  send (.create name ⟨none, none, none, spec⟩)

def update (nameSpace name resourceVersion : String) (spec : Json) : Request := do
  Program.lift (validateName nameSpace true)
  Program.lift (validateName name false)
  let current ← getObject name
  if current.content.owner.isSome then Program.fail (.check (.conflict outbound))
  else if resourceVersion = "" ∨ toString current.revision ≠ resourceVersion then
    Program.fail (.check (.conflict "resourceVersion changed; reload before updating deployment"))
  else do
    let spec ← validated validate name spec
    send (.replace current { current.content with spec := spec })

def scale (nameSpace name : String) (replicas : Int) : Request := do
  Program.lift (validateName nameSpace true)
  Program.lift (validateName name false)
  if replicas < 0 then Program.fail (.check (.invalid "replicas must be non-negative"))
  else do
    let current ← getObject name
    if current.content.spec.get "autoscaling" ≠ .null then
      Program.fail (.check (.invalid "disable autoscaling before manually scaling replicas"))
    else if current.content.owner.isSome then Program.fail (.check (.conflict outbound))
    else match current.content.spec.set "replicas" (.int replicas) with
      | none => Program.fail (.kube .unavailable)
      | some spec => do
        let spec ← validated validate name spec
        send (.replace current { current.content with spec := spec })

def remove (nameSpace name : String) : Request := do
  Program.lift (validateName nameSpace true)
  Program.lift (validateName name false)
  match ← getOpt name with
  | none => pure ()
  | some current =>
    if current.content.owner.isSome then Program.fail (.check (.conflict outbound))
    else match ← Program.ask (.remove current) with
      | .ok _ => pure ()
      | .error .notFound => pure ()
      | .error error => Program.fail (.kube error)

inductive Inbound where
  | create (name : String) (body : ModelDeployment)
  | update (nameSpace name resourceVersion : String) (spec : Json)
  | scale (nameSpace name : String) (replicas : Int)
  | remove (nameSpace name : String)

def Inbound.request : Inbound → Request
  | .create name body => Member.create validate name body
  | .update nameSpace name resourceVersion spec => Member.update validate nameSpace name resourceVersion spec
  | .scale nameSpace name replicas => Member.scale validate nameSpace name replicas
  | .remove nameSpace name => Member.remove nameSpace name

end

/-! ## Careful requests -/

/-- The writer that an object belongs to: the agents of a cluster, or the inbound API. -/
def Owned (writer : Option String) (content : ModelDeployment) : Prop := content.owner = writer

instance (writer : Option String) (content : ModelDeployment) : Decidable (Owned writer content) := decEq _ _

section

variable {validate : String → Json → Except String Json} {writer : Option String} {seen : List Current}

theorem getOpt_ensures {name : String} {post : List Current → Option Current → Prop}
    (h : ∀ more found, (∀ current, found = some current → current ∈ more) → post more found) :
    Program.Ensures (Owned writer) seen (getOpt name) post := by
  refine .asked trivial fun answer _ => ?_
  cases answer with
  | error => trivial
  | ok objects => exact h _ _ fun current found => List.mem_append_left _ (List.mem_of_head? found)

theorem getObject_ensures {name : String} {post : List Current → Current → Prop}
    (h : ∀ more current, current ∈ more → post more current) :
    Program.Ensures (Owned writer) seen (getObject name) post := by
  refine .seq (getOpt_ensures fun more found known => known) fun more found _ known => ?_
  cases found with
  | none => trivial
  | some current => exact h more current (known current rfl)

theorem send_careful {call : ObjectCall String ModelDeployment} (allowed : call.Allowed (Owned writer) seen) :
    (send call).Careful (Owned writer) seen := by
  refine .asked allowed fun answer _ => ?_
  cases answer <;> trivial

theorem validated_careful {name : String} {spec : Json} {p : Json → Request}
    (h : ∀ spec', (p spec').Careful (Owned writer) seen) :
    (validated validate name spec >>= p).Careful (Owned writer) seen := by
  unfold validated
  cases validate name spec with
  | ok spec' => exact h spec'
  | error message => trivial

/-- The requests write nothing that has a label. -/
theorem Inbound.careful (inbound : Inbound) : (inbound.request validate).Careful (Owned none) [] := by
  cases inbound with
  | create name body =>
    exact validated_careful fun spec => send_careful rfl
  | update nameSpace name resourceVersion spec =>
    refine .check fun _ _ => .check fun _ _ => ?_
    refine .seq (getObject_ensures fun more current known => known) fun more current _ known => ?_
    refine .ite (fun _ => trivial) fun unlabelled => .ite (fun _ => trivial) fun _ => ?_
    have own : current.content.owner = none := Option.not_isSome_iff_eq_none.1 unlabelled
    exact validated_careful fun spec => send_careful ⟨known, own, own⟩
  | scale nameSpace name replicas =>
    refine .check fun _ _ => .check fun _ _ => ?_
    refine .ite (fun _ => trivial) fun _ => ?_
    refine .seq (getObject_ensures fun more current known => known) fun more current _ known => ?_
    refine .ite (fun _ => trivial) fun _ => .ite (fun _ => trivial) fun unlabelled => ?_
    have own : current.content.owner = none := Option.not_isSome_iff_eq_none.1 unlabelled
    split
    · trivial
    · exact validated_careful fun spec => send_careful ⟨known, own, own⟩
  | remove nameSpace name =>
    refine .check fun _ _ => .check fun _ _ => ?_
    refine .seq (getOpt_ensures fun more found known => known) fun more found _ known => ?_
    cases found with
    | none => trivial
    | some current =>
      refine .ite (fun _ => trivial) fun unlabelled => ?_
      have own : current.content.owner = none := Option.not_isSome_iff_eq_none.1 unlabelled
      refine .asked ⟨known current rfl, own⟩ fun answer _ => ?_
      split <;> trivial

end

/-! ## Agents as clients -/

def Mutation.call : Mutation → ObjectCall String ModelDeployment
  | .create name content => .create name content
  | .replace current content => .replace current content
  | .delete current => .remove current

/-- The call that a run of an agent stands at. -/
def Run.call (run : Run) : Option (ObjectCall String ModelDeployment) := match run.phase, run.rest with
  | .reading, (item, _) :: _ => some (.get item.name)
  | .writing mutation, _ => some mutation.call
  | _, _ => none

/-- The run after the answer. -/
def Run.answered (config : Config) (run : Run) (answer : Answer String ModelDeployment) : Run :=
  match run.phase, run.rest, answer with
  | .reading, (item, desired) :: rest, .ok objects => match planItem config run.delivery item desired objects.head? with
    | .error code => { run with phase := .finished (.error code) }
    | .ok none => { run with rest := rest, phase := proceed rest }
    | .ok (some mutation) => { run with phase := .writing mutation }
  | .reading, _ :: _, .error _ => run.failed
  | .writing _, _, .ok _ => run.written
  | .writing _, _, .error _ => run.failed
  | _, _, _ => run

/-- A read of the run is its step in the member cluster. -/
theorem Run.answered_read {config : Config} {run : Run} {name : String} (stands : run.call = some (.get name))
    (cluster : Cluster) (uid : String) :
    run.answered config (cluster.call uid (.get name)).2 = (run.read config cluster).1 := by
  unfold Run.call at stands
  split at stands
  · rename_i item desired rest phase hr
    cases stands
    have read : (cluster.get? item.name).toList.head? = cluster.get? item.name := by
      cases cluster.get? item.name <;> rfl
    unfold Run.answered Run.read Objects.call
    simp only [phase, hr, read]
    cases planItem config run.delivery item desired (cluster.get? item.name) with
    | error code => rfl
    | ok m => cases m <;> rfl
  · rename_i mutation phase
    cases mutation <;> cases stands
  · cases stands

/-- So is a write. -/
theorem Run.answered_write {config : Config} {run : Run} {mutation : Mutation} (phase : run.phase = .writing mutation)
    (cluster : Cluster) (uid : String) :
    run.call = some mutation.call ∧ (cluster.call uid mutation.call).1 = (mutation.run uid cluster).getD cluster ∧
      run.answered config (cluster.call uid mutation.call).2 = if (mutation.run uid cluster).isSome then run.written
        else run.failed := by
  have stands : run.call = some mutation.call := by
    unfold Run.call
    rw [phase]
  have answered : ∀ answer : Answer String ModelDeployment, run.answered config answer = match answer with
      | .ok _ => run.written
      | .error _ => run.failed := by
    intro answer
    unfold Run.answered
    rw [phase]
    cases answer <;> rfl
  refine ⟨stands, ?_⟩
  rw [answered]
  cases mutation with
  | create name content =>
    cases created : cluster.create name uid content with
    | none => simp [Mutation.run, Mutation.call, Objects.call, created]
    | some cluster' => simp [Mutation.run, Mutation.call, Objects.call, created]
  | replace current content =>
    cases replaced : cluster.replace current content with
    | none => simp [Mutation.run, Mutation.call, Objects.call, replaced]
    | some cluster' => simp [Mutation.run, Mutation.call, Objects.call, replaced]
  | delete current =>
    cases removed : cluster.remove current with
    | none => simp [Mutation.run, Mutation.call, Objects.call, removed]
    | some cluster' => simp [Mutation.run, Mutation.call, Objects.call, removed]

/-! ## Both at work -/

/-- A request of the inbound API, or a run of an agent. -/
inductive Writer where
  | inbound (request : Request)
  | agent (config : Config) (run : Run)

def writers : Client String ModelDeployment (Option String) Writer where
  who
    | .inbound _ => none
    | .agent config _ => some config.clusterId
  call
    | .inbound request => request.stands
    | .agent _ run => run.call
  next
    | .inbound request, answer => .inbound (request.next answer)
    | .agent config run, answer => .agent config (run.answered config answer)

/-- What a writer has seen allows the write that it stands at. -/
def Knows : Writer → List Current → Prop
  | .inbound request, seen => request.Careful (Owned none) seen
  | .agent config run, seen => ∀ m, run.phase = .writing m → m.call.Allowed (Owned (some config.clusterId)) seen

theorem Run.failed_writing {run : Run} {m : Mutation} : run.failed.phase ≠ .writing m := by
  unfold Run.failed
  split
  · rename_i phase
    rw [phase]
    nofun
  · nofun

theorem planItem_allowed {config : Config} {delivery : ClusterDelivery} {item : DesiredDeployment}
    {desired : Option Json} {found : Option Current} {m : Mutation}
    (h : planItem config delivery item desired found = .ok (some m)) {seen : List Current}
    (known : ∀ current, found = some current → current ∈ seen) :
    m.call.Allowed (Owned (some config.clusterId)) seen := by
  cases planItem_plan h with
  | create spec => exact rfl
  | replace spec current owned => exact ⟨known current rfl, checkOwner_owner owned, rfl⟩
  | delete current owned => exact ⟨known current rfl, checkOwner_owner owned⟩

theorem Run.answered_knows {config : Config} {run : Run} {c : ObjectCall String ModelDeployment}
    (stands : run.call = some c) {answer : Answer String ModelDeployment} {seen : List Current} :
    Knows (.agent config (run.answered config answer)) (answer.told ++ seen) := by
  show ∀ m, (run.answered config answer).phase = .writing m →
    m.call.Allowed (Owned (some config.clusterId)) (answer.told ++ seen)
  unfold Run.call at stands
  split at stands
  · rename_i item desired rest phase hr
    unfold Run.answered
    simp only [phase, hr]
    cases answer with
    | error e => exact fun m hm => absurd hm Run.failed_writing
    | ok objects =>
      dsimp only
      split
      · nofun
      · exact fun m hm => absurd hm proceed_writing
      · rename_i mutation plan
        intro m hm
        cases hm
        exact planItem_allowed plan fun current found => List.mem_append_left _ (List.mem_of_head? found)
  · rename_i mutation phase
    unfold Run.answered
    rw [phase]
    cases answer with
    | error e => exact fun m hm => absurd hm Run.failed_writing
    | ok objects => exact fun m hm => absurd hm proceed_writing
  · cases stands

theorem writers_careful : writers.Careful Owned Knows := by
  refine ⟨fun p answer => ?_, ?_, ?_⟩
  · cases p <;> rfl
  · intro p seen c known stands
    cases p with
    | inbound request => exact known.allowed stands
    | agent config run =>
      replace stands : run.call = some c := stands
      unfold Run.call at stands
      split at stands
      · cases stands
        trivial
      · rename_i mutation phase
        cases stands
        exact known mutation phase
      · cases stands
  · intro p seen c answer known stands answers
    cases p with
    | inbound request => exact known.next stands answers
    | agent config run => exact Run.answered_knows stands

/-- What comes to write: requests of the inbound API and deliveries to agents. -/
inductive Comes (validate : String → Json → Except String Json) : Writer → Prop
  | inbound (inbound : Inbound) : Comes validate (.inbound (inbound.request validate))
  | agent (env : Env) (config : Config) (delivery : ClusterDelivery) :
    Comes validate (.agent config (Run.start env (fun name spec => (validate name spec).toOption) config delivery))

theorem Comes.knows {validate : String → Json → Except String Json} {p : Writer}
    (h : Comes validate p) : Knows p [] := by
  cases h with
  | inbound inbound => exact inbound.careful
  | agent env config delivery =>
    intro m hm
    unfold Run.start at hm
    split at hm
    · cases hm
    · exact absurd hm proceed_writing

/-- In every interleaving of requests to the inbound API and deliveries to the agents of any clusters, with
calls that are refused or whose answers are lost: a deployment that is there keeps its label, and it is what it
was until a writer makes a call that the label is for, unless somebody else writes it. -/
theorem Shared.run_owned (validate : String → Json → Except String Json) (cluster : Cluster)
    (before after : List (Shared.Act String ModelDeployment Writer))
    (comes : ∀ p, .start p ∈ before ++ after → Comes validate p) :
    let system := Shared.run writers ⟨cluster, []⟩ before
    let system' := Shared.run writers system after
    ∀ name o, system.objects.get? name = some o →
      (∀ act o', (∀ uid content, act ≠ .other name uid content) →
        (system.step writers act).objects.get? name = some o' →
        o'.uid = o.uid ∧ o'.content.owner = o.content.owner) ∧
      ((∀ uid content, .other name uid content ∉ after) →
        (∀ act ∈ after, ∀ i, act.caller = some i → ∀ p, system'.clients[i]? = some p →
          writers.who p ≠ o.content.owner) →
        ∃ o', system'.objects.get? name = some o' ∧ o'.uid = o.uid ∧ o'.content = o.content) := by
  intro system system' name o found
  obtain ⟨step, run⟩ := Shared.run_theirs writers_careful cluster before after
    (fun p hp => (comes p hp).knows) name o found
  constructor
  · intro act o' quiet found'
    obtain ⟨uid, same | ⟨p, -, own, own'⟩⟩ := step act o' quiet found'
    · exact ⟨uid, congrArg ModelDeployment.owner same⟩
    · exact ⟨uid, Eq.trans own' (Eq.symm own)⟩
  · exact fun quiet strangers => run quiet fun act he i calls p hp owned => strangers act he i calls p hp owned.symm

def sampleValidate (name : String) (spec : Json) : Except String Json :=
  (sampleModel name spec).elim (.error "invalid ModelDeployment spec") .ok

def sampleDelivery : ClusterDelivery := ⟨"c", "ns", 1, "set", "l", 60, [⟨"d", some sampleSpec, none, none⟩]⟩

/-- A request of the inbound API has read the deployment that it wants to remove; another one removes it, and an
agent creates it anew. -/
def sharedRun : List (Shared.Act String ModelDeployment Writer) :=
  [.start (.inbound ((Inbound.create "d" ⟨some "x", none, none, sampleSpec⟩).request sampleValidate)),
    .call 0 "u" .none, .start (.inbound ((Inbound.remove "ns" "d").request sampleValidate)), .call 1 "" .none,
    .start (.inbound ((Inbound.remove "ns" "d").request sampleValidate)), .call 2 "" .none,
      .call 2 "" (.lost .unavailable),
    .start (.agent sampleConfig (Run.start sampleEnv (fun name spec => (sampleValidate name spec).toOption)
      sampleConfig sampleDelivery)),
    .call 3 "" .none, .call 3 "v" .none]

/-- The first request is too late. -/
theorem sample_owned : ∃ o, (Shared.run writers ⟨⟨.empty, 0, nofun⟩, []⟩ sharedRun).objects.get? "d" = some o ∧
    o.content.owner = some "c" ∧ ∃ o', (Shared.run writers (Shared.run writers ⟨⟨.empty, 0, nofun⟩, []⟩ sharedRun)
      [.call 1 "" .none]).objects.get? "d" =
      some o' ∧ o'.uid = o.uid ∧ o'.content = o.content := by
  have labelled : ((Shared.run writers ⟨⟨.empty, 0, nofun⟩, []⟩ sharedRun).objects.get? "d").any
      (fun o => decide (o.content.owner = some "c")) = true := by decide +kernel
  obtain ⟨o, found, owner⟩ := (Option.any_eq_true _ _).1 labelled
  have owner : o.content.owner = some "c" := of_decide_eq_true owner
  refine ⟨o, found, owner,
    (Shared.run_owned sampleValidate ⟨.empty, 0, nofun⟩ sharedRun [.call 1 "" .none] ?_ "d" o found).2 ?_ ?_⟩
  · intro p hp
    simp only [sharedRun, List.cons_append, List.nil_append, List.mem_cons, Shared.Act.start.injEq, reduceCtorEq,
      List.not_mem_nil, or_false, false_or] at hp
    rcases hp with rfl | rfl | rfl | rfl
    · exact .inbound _
    · exact .inbound _
    · exact .inbound _
    · exact .agent _ _ _
  · intro uid content he
    cases List.mem_singleton.1 he
  · intro act he i calls p hp
    cases List.mem_singleton.1 he
    cases calls
    rw [owner]
    have inbound :
      ((Shared.run writers (Shared.run writers ⟨⟨.empty, 0, nofun⟩, []⟩ sharedRun) [.call 1 "" .none]).clients[1]?).all
        (fun p => (writers.who p).isNone) = true := by decide +kernel
    rw [hp] at inbound
    intro who
    rw [Option.all_some, who] at inbound
    cases inbound

end Xscope.Member

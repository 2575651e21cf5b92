/-
Readiness evidence of the member cluster. That a spec has been applied is not that it is ready: an agent reads
the model, its runtime, the serving entry and the pool one after another, while others write them. A report that
says ready was so, each part at some moment of the inspection, and for one model object that stood all the time.
-/
import Xscope.Base.Decimal
import Xscope.Base.History
import Xscope.Fleet.Readiness
import Xscope.Kubernetes.Controller

namespace Xscope.Kubernetes.Observation

open Fleet Controller
open Api (Labels)

/-! ## What is read -/

/-- A model as the API server keeps it. -/
structure ModelObject where
  deletionTimestamp : Option Int
  labels : Labels
  annotations : Labels
  generation : Option Int
  spec : Api.ModelDeploymentSpec
  deriving DecidableEq

abbrev Model := Stored String ModelObject

/-- The objects of the namespace. -/
structure Scene where
  models : Objects String ModelObject
  children : Objects Key Child

instance : Preorder Scene := Preorder.lift Scene.models

inductive Question where
  | model (name : String)
  | child (key : Key)

/-- `none` is a read that failed. -/
abbrev Answer : Question → Type
  | .model _ => Option Model
  | .child _ => Option Object

def Scene.answer (scene : Scene) : (q : Question) → Answer q
  | .model name => scene.models.get? name
  | .child key => scene.children.get? key

def failed : (q : Question) → Answer q
  | .model _ => none
  | .child _ => none

def oracle : Oracle (History Scene) Question Answer := History.reads Scene.answer failed

/-! ## Checks -/

def counted (child : Child) (k : String) : Int := (asInt (child.status.get k)).getD 0

/-- The status is of the newest generation, which is complete without one. -/
def current (child : Child) : Bool := child.status != .null &&
    decide (child.generation.getD i64Max ≤ counted child "observedGeneration")

def deploymentReady (deployment : Child) (replicas : Int) : Bool :=
  decide (0 < replicas) && deployment.deletionTimestamp.isNone &&
    asInt (deployment.spec.get "replicas") == some replicas &&
    current deployment && decide (replicas ≤ counted deployment "readyReplicas") &&
    counted deployment "updatedReplicas" == replicas && decide (replicas ≤ counted deployment "availableReplicas")

def managedReady (runtime : Child) (desired minimum : Int) : Bool :=
  runtime.deletionTimestamp.isNone && (asInt (runtime.spec.get "replicas")).any
    (fun n => decide (minimum ≤ n ∧ n ≤ desired)) &&
    current runtime && decide (minimum ≤ counted runtime "readyReplicas") &&
      decide (minimum ≤ counted runtime "availableReplicas") &&
    decide (minimum ≤ counted runtime "updatedReplicas")

/-- Healthy old replicas are kept during an increase, but a decrease that is not applied is not ready. -/
def runtimeReady (model : Api.ModelDeployment) (runtime : Child) : Bool :=
  if enabled model then managedReady runtime model.spec.replicas ((model.spec.autoscaling.map (·.minReplicas)).getD 1)
  else deploymentReady runtime model.spec.replicas

def conditionTrue (status : Json) (kind : String) : Bool := match status.get "conditions" with
  | .arr conditions => conditions.any fun c => c.get "type" == .str kind && c.get "status" == .str "True"
  | _ => false

structure InferencePoolSpec where
  matchLabels : Option Labels
  targetPorts : List Int
  picker : Option String
  pickerPort : Option Int
  failureMode : Option String
  deriving DecidableEq

/-- What an InferencePool is read as. -/
def poolSpecOf (pool : Child) : InferencePoolSpec where
  matchLabels := labelsOf ((pool.spec.get "selector").get "matchLabels")
  targetPorts := match pool.spec.get "targetPorts" with
    | .arr ports => ports.filterMap fun p => asInt (p.get "number")
    | _ => []
  picker := ((pool.spec.get "endpointPickerRef").get "name").asStr
  pickerPort := asInt (((pool.spec.get "endpointPickerRef").get "port").get "number")
  failureMode := ((pool.spec.get "endpointPickerRef").get "failureMode").asStr

/-- The pool the model should have, with the labels of the runtime that is there. -/
def wantedPool (model : Api.ModelDeployment) (runtime : Child) : Option Child :=
  match desiredOptional model runtime with
  | .ok (_, pool) => pool
  | .error _ => none

/-! ## The inspection -/

abbrev Inspection := Asking Question Answer Reading

def unseen : Reading := ⟨none, -1, none, some .kubernetesUnavailable⟩

def fail (reading : Reading) (code : ObservationCode) : Inspection := .done { reading with failure := some code }

/-- Goes on with what was read. -/
def need {α : Type} (reading : Reading) (answer : Option α) (next : α → Inspection) : Inspection := match answer with
  | some a => next a
  | none => fail reading .kubernetesUnavailable

-- the cluster of the agent and its namespace, and how a spec is read from JSON
variable (decode : Json → Option Api.ModelDeploymentSpec) (nameSpace clusterId : String) (task : ObservationTask)

/-- The spec that was ordered, with its defaults. -/
def expectedSpec : Option Api.ModelDeploymentSpec := do
  let spec ← decode task.expectedSpec
  match Api.validateSpec ⟨⟨some task.deployment, none, none, none, none⟩, some nameSpace, none, spec, none⟩ with
  | .ok spec => some spec
  | .error _ => none

/-- The model as the operator and the agent read it. -/
def modelOf (o : Model) : Api.ModelDeployment where
  metadata := ⟨some o.name, none, some o.uid, o.content.deletionTimestamp, none⟩
  nameSpace := some nameSpace
  generation := o.content.generation
  spec := o.content.spec
  status := none

/-- `str::parse::<i64>`: digits behind an optional sign. -/
def parseVersion (text : String) : Option Int :=
  let digits := match text.toList with
    | '+' :: digits | '-' :: digits => digits
    | digits => digits
  let n : Int := Nat.ofDigitChars 10 digits 0
  let value := if text.toList.head? = some '-' then -n else n
  if digits.isEmpty || !digits.all Char.isDigit || !decide (Fits value) then none else some value

/-- The model is of this cluster and of the version of the task or a later one. -/
def identified (o : Model) : Bool :=
  o.content.deletionTimestamp.isNone && o.content.labels.lookup "platform.xscope.io/desired-cluster" ==
    some clusterId &&
    task.expectedUid.all (fun uid => uid == o.uid) &&
    ((o.content.annotations.lookup "platform.xscope.io/desired-version").bind parseVersion).any fun v =>
      decide (task.desiredVersion ≤ v)

/-- The entry is declared for the pool, behind the managed profile. -/
def declared (o : Model) (entry : Object) : Bool :=
  decide (validatePicker (some entry) (modelOf nameSpace o) = .ok ()) &&
    (decide (task.trafficProtocol < 2) || entry.content.annotations.lookup
      "platform.xscope.io/traffic-protocol" == some "v2") &&
    entry.content.annotations.lookup "platform.xscope.io/managed-only" == some "true"

def servingReady (serving : Child) : Bool := deploymentReady serving ((asInt (serving.spec.get "replicas")).getD 0)

/-- The Service of the entry selects the pods of its Deployment. -/
def routed (entry serving : Child) : Bool := match templateLabels serving, labelsOf (entry.spec.get "selector") with
  | some labels, some selector => !selector.isEmpty && selector.all fun l => labels.lookup l.1 == some l.2
  | _, _ => false

/-- The autoscaler of KEDA is at the recommendation, and active. -/
def recommended (model : Api.ModelDeployment) (scaled hpa : Object) (replicas : Int) : Bool :=
  kedaOwnsHpa (hpaOf hpa) (scalerOf scaled) &&
    (hpaOf hpa).scaleTargetRef.any (fun target => target.kind == targetKind model) &&
    hpaTargetsModel (hpaOf hpa) model.scaling && conditionTrue scaled.content.status "Ready" &&
    asInt (hpa.content.status.get "desiredReplicas") == some replicas &&
    ["ScalingActive", "AbleToScale"].all (conditionTrue hpa.content.status)

/-- `recommendation::observe`; an error counts as no recommendation. -/
def recommend (model : Api.ModelDeployment) (applied : Int) : Asking Question Answer (Option ScaleEvidence) :=
  if enabled model = false then .done none
  else .ask (.child (.scale, model.metadata.nameAny)) fun answer => .expect answer fun row =>
    if ensureOwned row model ≠ .ok () ∨ (row.content.spec.get "modelUid").asStr ≠ model.metadata.uid then .done none
    else .expect (asInt (row.content.spec.get "replicas")) fun replicas =>
      .ask (.child (.scaler, model.metadata.nameAny)) fun answer => .expect answer fun scaled =>
        if ensureOwned scaled model ≠ .ok () then .done none
        else .ask (.child (.hpa, kedaHpaName model.scaling)) fun answer => .expect answer fun hpa =>
          if recommended model scaled hpa replicas = false then .done none
          else .done (some ⟨row.uid, toString row.revision, replicas, applied⟩)

/-- The model has not been written since it was read. -/
def confirm (o : Model) (reading : Reading) : Inspection :=
  .ask (.model task.deployment) fun answer => need reading answer fun current =>
    if current.revision ≠ o.revision then fail reading .specDrift else .done { reading with failure := none }

def readPool (o : Model) (runtime : Object) (reading : Reading) : Inspection :=
  .ask (.child (.pool, task.deployment)) fun answer => need reading answer fun actual =>
    if ensureOwned actual (modelOf nameSpace o) ≠ .ok () then fail reading .identityMismatch
    else match wantedPool (modelOf nameSpace o) runtime.content with
    | none => fail reading .specDrift
    | some wanted =>
      if poolSpecOf actual.content ≠ poolSpecOf wanted then fail reading .specDrift else confirm task o reading

def readEntry (o : Model) (runtime : Object) (reading : Reading) : Inspection :=
  .ask (.child (.service, task.servingService)) fun answer => need reading answer fun entry =>
    if declared nameSpace task o entry = false then fail reading .identityMismatch
    else .ask (.child (.deployment, task.servingService)) fun answer => need reading answer fun serving =>
      if servingReady serving.content = false then fail reading .notReady
      else if routed entry.content serving.content = false then fail reading .identityMismatch
      else readPool nameSpace task o runtime reading

/-- From here on the reading names the object, ready or not: a cold runtime still has an identity to be drained by. -/
def readRuntime (o : Model) : Inspection :=
  let reading := { unseen with uid := some o.uid }
  .ask (.child (.deployment, task.deployment)) fun answer => need reading answer fun runtime =>
    if ensureOwned runtime (modelOf nameSpace o) ≠ .ok () then fail reading .identityMismatch
    else
      let applied := (asInt (runtime.content.status.get "replicas")).getD (-1)
      (recommend (modelOf nameSpace o) applied).bind fun scaling =>
        let reading := { reading with applied := applied, scaling := scaling }
        if runtimeReady (modelOf nameSpace o) runtime.content = false then fail reading .notReady
        else readEntry nameSpace task o runtime reading

def read : Inspection :=
  if (Api.validateName nameSpace true).isOk = false ∨ (Api.validateName task.deployment true).isOk = false ∨
      (Api.validateName task.servingService true).isOk = false ∨ !"managed-".toList.isPrefixOf task.poolId.toList then
    fail unseen .identityMismatch
  else match expectedSpec decode nameSpace task with
  | none => fail unseen .specDrift
  | some expected => .ask (.model task.deployment) fun answer => need unseen answer fun o =>
    if identified clusterId task o = false then fail unseen .identityMismatch
    else if o.content.spec ≠ expected then fail unseen .specDrift
    else if o.content.spec.serving.all (fun serving => serving.endpointPickerService != task.servingService) then
      fail unseen .identityMismatch
    else readRuntime nameSpace task o

/-! ## What a reading says -/

section Said

variable {decode : Json → Option Api.ModelDeploymentSpec} {nameSpace clusterId : String} {task : ObservationTask}
  {h h' h'' first : History Scene} {o : Model} {runtime entry : Object} {reading : Reading} {w : History Scene}

/-- The model is the one the task is about, and as it was ordered. -/
structure Ordered (decode : Json → Option Api.ModelDeploymentSpec) (nameSpace clusterId : String)
    (task : ObservationTask) (o : Model) : Prop where
  identified : identified clusterId task o = true
  spec : expectedSpec decode nameSpace task = some o.content.spec
  picker : ∃ serving, o.content.spec.serving = some serving ∧ serving.endpointPickerService = task.servingService

/-- The runtime Deployment is that of the model. -/
structure Runs (nameSpace : String) (task : ObservationTask) (o : Model) (runtime : Object) (scene : Scene) : Prop where
  there : scene.children.get? (.deployment, task.deployment) = some runtime
  owned : ensureOwned runtime (modelOf nameSpace o) = .ok ()

structure Enters (nameSpace : String) (task : ObservationTask) (o : Model) (entry : Object) (scene : Scene) : Prop where
  there : scene.children.get? (.service, task.servingService) = some entry
  declared : declared nameSpace task o entry = true

/-- The Deployment behind the entry is ready, and its pods are those that the entry selects. -/
structure Serves (task : ObservationTask) (entry serving : Object) (scene : Scene) : Prop where
  there : scene.children.get? (.deployment, task.servingService) = some serving
  ready : servingReady serving.content = true
  routed : routed entry.content serving.content = true

/-- The pool is that of the model, with the spec it should have. -/
structure Pools (nameSpace : String) (task : ObservationTask) (o : Model) (runtime pool : Object) (scene : Scene) :
    Prop where
  there : scene.children.get? (.pool, task.deployment) = some pool
  owned : ensureOwned pool (modelOf nameSpace o) = .ok ()
  spec : (wantedPool (modelOf nameSpace o) runtime.content).map poolSpecOf = some (poolSpecOf pool.content)

/-- The recommendation is for the model, and its autoscaler is at it. -/
structure Recommends (model : Api.ModelDeployment) (e : ScaleEvidence) (h h' : History Scene) : Prop where
  row : ∃ row : Object, row.uid = e.uid ∧ toString row.revision = e.resourceVersion ∧
    ensureOwned row model = .ok () ∧ asInt (row.content.spec.get "replicas") = some e.replicas ∧
      h.Between h' fun scene => scene.children.get? (.scale, model.metadata.nameAny) = some row
  active : ∃ scaled hpa, recommended model scaled hpa e.replicas = true ∧ ensureOwned scaled model = .ok () ∧
    (h.Between h' fun scene => scene.children.get? (.scaler, model.metadata.nameAny) = some scaled) ∧
      h.Between h' fun scene => scene.children.get? (.hpa, kedaHpaName model.scaling) = some hpa

/-- Each part of the model was ready, at some moment from one history to the other. -/
structure Parts (nameSpace : String) (task : ObservationTask) (o : Model) (h h' : History Scene) : Prop where
  runtime : ∃ runtime : Object, h.Between h' (Runs nameSpace task o runtime) ∧
    runtimeReady (modelOf nameSpace o) runtime.content = true ∧
      ∃ pool, h.Between h' (Pools nameSpace task o runtime pool)
  entry : ∃ entry, h.Between h' (Enters nameSpace task o entry) ∧ ∃ serving, h.Between h' (Serves task entry serving)

/-- The model was ready: it stood from one history to the other, and meanwhile so did each of its parts once. -/
structure Ready (nameSpace : String) (task : ObservationTask) (o : Model) (h h' : History Scene) : Prop where
  order : h ≤ h'
  stood : ∀ mid, h ≤ mid → mid ≤ h' → mid.now.models.get? task.deployment = some o
  parts : Parts nameSpace task o h h'

/-- A reading of a model: its identity, what it says of the runtime and of the recommendation, and whether all of it
was ready. -/
structure Of (decode : Json → Option Api.ModelDeploymentSpec) (nameSpace clusterId : String) (task : ObservationTask)
    (o : Model) (h h' : History Scene) (reading : Reading) : Prop where
  uid : reading.uid = some o.uid
  ordered : Ordered decode nameSpace clusterId task o
  stood : h.Between h' fun scene => scene.models.get? task.deployment = some o
  applied : reading.applied ≠ -1 → ∃ runtime : Object, h.Between h' (Runs nameSpace task o runtime) ∧
    asInt (runtime.content.status.get "replicas") = some reading.applied
  scaling : ∀ e, reading.scaling = some e →
    e.appliedReplicas = reading.applied ∧ Recommends (modelOf nameSpace o) e h h'
  ready : reading.failure = none → ∃ first last, h ≤ first ∧ last ≤ h' ∧ Ready nameSpace task o first last

/-- What a reading says is so, somewhere between the two histories. -/
inductive Truthful (decode : Json → Option Api.ModelDeploymentSpec) (nameSpace clusterId : String)
    (task : ObservationTask) (h h' : History Scene) (reading : Reading) : Prop
  | nothing (uid : reading.uid = none) (applied : reading.applied = -1) (scaling : reading.scaling = none)
      (failed : reading.failure ≠ none)
  | model (o : Model) (so : Of decode nameSpace clusterId task o h h' reading)

/-! ### Later -/

theorem Recommends.later {model : Api.ModelDeployment} {e : ScaleEvidence} (r : Recommends model e h h')
    (le : h' ≤ h'') : Recommends model e h h'' := by
  obtain ⟨row, uid, revision, owned, replicas, there⟩ := r.row
  obtain ⟨scaled, hpa, active, mine, scaler, found⟩ := r.active
  exact ⟨⟨row, uid, revision, owned, replicas, there.later le⟩, scaled, hpa, active, mine, scaler.later le,
    found.later le⟩

theorem Parts.later (p : Parts nameSpace task o h h') (le : h' ≤ h'') : Parts nameSpace task o h h'' := by
  obtain ⟨runtime, runs, ready, pool, pools⟩ := p.runtime
  obtain ⟨entry, enters, serving, serves⟩ := p.entry
  exact ⟨⟨runtime, runs.later le, ready, pool, pools.later le⟩, entry, enters.later le, serving, serves.later le⟩

theorem Of.later (so : Of decode nameSpace clusterId task o h h' reading) (le : h' ≤ h'') :
    Of decode nameSpace clusterId task o h h'' reading where
  uid := so.uid
  ordered := so.ordered
  stood := so.stood.later le
  applied said := by
    obtain ⟨runtime, runs, replicas⟩ := so.applied said
    exact ⟨runtime, runs.later le, replicas⟩
  scaling e said := ⟨(so.scaling e said).1, (so.scaling e said).2.later le⟩
  ready said := by
    obtain ⟨first, last, since, until_, ready⟩ := so.ready said
    exact ⟨first, last, since, le_trans until_ le, ready⟩

theorem Truthful.later (so : Truthful decode nameSpace clusterId task h h' reading) (le : h' ≤ h'') :
    Truthful decode nameSpace clusterId task h h'' reading := by
  cases so with
  | nothing uid applied scaling failed => exact .nothing uid applied scaling failed
  | model o so => exact .model o (so.later le)

/-! ### The inspection is truthful -/

/-- A reading that failed says of the model what was read of it. -/
theorem Of.fails (so : Of decode nameSpace clusterId task o h w reading) (code : ObservationCode) :
    (fail reading code).Safe oracle (Truthful decode nameSpace clusterId task h) w :=
  .model o ⟨so.uid, so.ordered, so.stood, so.applied, so.scaling, nofun⟩

/-- A child that is read is the one that is there, or the reading fails. -/
theorem Of.asks (so : Of decode nameSpace clusterId task o h w reading) {key : Key} {next : Object → Inspection}
    (rest : ∀ w' child, w ≤ w' → w'.now.children.get? key = some child →
      (next child).Safe oracle (Truthful decode nameSpace clusterId task h) w') :
    (Asking.ask (.child key) fun answer => need reading answer next).Safe oracle
      (Truthful decode nameSpace clusterId task h) w := by
  rintro w' le answer _ ⟨rfl, answered⟩
  cases told : answer with
  | none => exact (so.later le).fails _
  | some child =>
    rcases answered with found | missing
    · exact rest _ child le (found.symm.trans told)
    · rw [missing] at told
      cases told

/-- An optional child, with nothing in its place where the read fails. -/
theorem optional_safe {β : Type} {key : Key} {next : Object → Asking Question Answer (Option β)}
    {post : History Scene → Option β → Prop} (none : ∀ w', post w' none)
    (rest : ∀ w' child, w ≤ w' → w'.now.children.get? key = some child → (next child).Safe oracle post w') :
    (Asking.ask (.child key) fun answer => .expect answer next).Safe oracle post w := by
  rintro w' le answer _ ⟨rfl, answered⟩
  refine .expect (none _) fun child told => ?_
  rcases answered with found | missing
  · exact rest _ child le (found.symm.trans told)
  · rw [missing] at told
    cases told

theorem recommend_safe (model : Api.ModelDeployment) (applied : Int) (le : h ≤ w) :
    (recommend model applied).Safe oracle
      (fun w' scaling => ∀ e, scaling = some e → e.appliedReplicas = applied ∧ Recommends model e h w') w := by
  have nothing : ∀ w' : History Scene, ∀ e : ScaleEvidence, (none : Option ScaleEvidence) = some e →
      e.appliedReplicas = applied ∧ Recommends model e h w' := nofun
  unfold recommend
  split
  · exact nothing w
  · refine optional_safe nothing fun w₁ row le₁ there => ?_
    split
    · exact nothing w₁
    · rename_i own
      rw [not_or, not_not, not_not] at own
      refine .expect (nothing w₁) fun replicas ordered => ?_
      refine optional_safe nothing fun w₂ scaled le₂ scaler => ?_
      split
      · exact nothing w₂
      · rename_i mine
        refine optional_safe nothing fun w₃ hpa le₃ found => ?_
        split
        · exact nothing w₃
        · rename_i active
          intro e said
          obtain rfl := Option.some.inj said
          have since : h ≤ w₁ := le_trans le le₁
          refine ⟨rfl, ⟨row, rfl, rfl, own.1, ordered, ?_⟩, scaled, hpa, by simpa using active, not_not.1 mine, ?_, ?_⟩
          · exact (History.Between.here since there).later (le_trans le₂ le₃)
          · exact (History.Between.here (le_trans since le₂) scaler).later le₃
          · exact .here (le_trans since (le_trans le₂ le₃)) found

/-- The last read: a model that carries the revision of the first one has stood all the time. -/
theorem Of.confirms (so : Of decode nameSpace clusterId task o h w reading) (since : h ≤ first) (le : first ≤ w)
    (there : first.now.models.get? task.deployment = some o) (parts : Parts nameSpace task o first w) :
    (confirm task o reading).Safe oracle (Truthful decode nameSpace clusterId task h) w := by
  rintro _ le' answer w' ⟨rfl, answered⟩
  have later := so.later le'
  cases told : answer with
  | none => exact later.fails _
  | some current =>
    have found : w'.now.models.get? task.deployment = some current := by
      rcases answered with found | missing
      · exact found.symm.trans told
      · rw [missing] at told
        cases told
    show (if current.revision ≠ o.revision then fail reading .specDrift
      else .done { reading with failure := none }).Safe oracle (Truthful decode nameSpace clusterId task h) w'
    split
    · exact later.fails _
    · rename_i same
      -- every write takes a new revision, so nobody wrote the model since the first read
      have stood : ∀ mid, first ≤ mid → mid ≤ w' → mid.now.models.get? task.deployment = some o :=
        fun mid after before =>
        Objects.stands (History.now_le after) (History.now_le before) there found (not_not.1 same)
      exact .model o ⟨so.uid, so.ordered, later.stood, later.applied, later.scaling,
        fun _ => ⟨first, w', since, le_rfl, le_trans le le', stood, parts.later le'⟩⟩

theorem Of.readsPool (so : Of decode nameSpace clusterId task o h w reading) (since : h ≤ first) (le : first ≤ w)
    (there : first.now.models.get? task.deployment = some o) (runs : first.Between w (Runs nameSpace task o runtime))
    (up : runtimeReady (modelOf nameSpace o) runtime.content = true)
    (enters : first.Between w (Enters nameSpace task o entry)) {serving : Object}
    (serves : first.Between w (Serves task entry serving)) :
    (readPool nameSpace task o runtime reading).Safe oracle (Truthful decode nameSpace clusterId task h) w := by
  refine so.asks fun w' pool le' found => ?_
  have later := so.later le'
  split
  · exact later.fails _
  · rename_i own
    cases wanted : wantedPool (modelOf nameSpace o) runtime.content with
    | none => exact later.fails _
    | some child =>
      dsimp only
      split
      · exact later.fails _
      · rename_i same
        have pools : first.Between w' (Pools nameSpace task o runtime pool) :=
          .here (le_trans le le') ⟨found, not_not.1 own, by rw [wanted, Option.map_some, not_not.1 same]⟩
        exact later.confirms since (le_trans le le') there
          ⟨⟨runtime, runs.later le', up, pool, pools⟩, entry, enters.later le', serving, serves.later le'⟩

theorem Of.readsEntry (so : Of decode nameSpace clusterId task o h w reading) (since : h ≤ first) (le : first ≤ w)
    (there : first.now.models.get? task.deployment = some o) (runs : first.Between w (Runs nameSpace task o runtime))
    (up : runtimeReady (modelOf nameSpace o) runtime.content = true) :
    (readEntry nameSpace task o runtime reading).Safe oracle (Truthful decode nameSpace clusterId task h) w := by
  refine so.asks fun w₁ entry le₁ found => ?_
  have later := so.later le₁
  have since₁ : first ≤ w₁ := le_trans le le₁
  split
  · exact later.fails _
  · rename_i declared
    have enters : first.Between w₁ (Enters nameSpace task o entry) := .here since₁ ⟨found, by simpa using declared⟩
    refine later.asks fun w₂ serving le₂ there₂ => ?_
    split
    · exact (later.later le₂).fails _
    · rename_i ready
      split
      · exact (later.later le₂).fails _
      · rename_i routed
        have serves : first.Between w₂ (Serves task entry serving) :=
          .here (le_trans since₁ le₂) ⟨there₂, by simpa using ready, by simpa using routed⟩
        exact (later.later le₂).readsPool since (le_trans since₁ le₂) there (runs.later (le_trans le₁ le₂)) up
          (enters.later le₂) serves

/-- From here on the reading names the model, ready or not. -/
theorem Ordered.readsRuntime (ordered : Ordered decode nameSpace clusterId task o) (le : h ≤ w)
    (there : w.now.models.get? task.deployment = some o) :
    (readRuntime nameSpace task o).Safe oracle (Truthful decode nameSpace clusterId task h) w := by
  have so : Of decode nameSpace clusterId task o h w { unseen with uid := some o.uid } :=
    ⟨rfl, ordered, .here le there, fun said => absurd rfl said, nofun, nofun⟩
  refine so.asks fun w₁ runtime le₁ found => ?_
  have later := so.later le₁
  split
  · exact later.fails _
  · rename_i own
    have runs : w.Between w₁ (Runs nameSpace task o runtime) := .here le₁ ⟨found, not_not.1 own⟩
    -- the recommendation is read between, and an error of it is no error of the inspection
    refine (recommend_safe (modelOf nameSpace o) _ (le_trans le le₁)).bind fun w₂ scaling le₂ recommends => ?_
    have seen : Of decode nameSpace clusterId task o h w₂
        { unseen with
          uid := some o.uid, applied := (asInt (runtime.content.status.get "replicas")).getD (-1)
          scaling := scaling } := by
      refine ⟨rfl, ordered, later.stood.later le₂, fun said => ?_, recommends, nofun⟩
      refine ⟨runtime, (runs.since le).later le₂, ?_⟩
      cases replicas : asInt (runtime.content.status.get "replicas") with
      | none => exact absurd (by simp only [replicas, Option.getD_none]) said
      | some n => rfl
    dsimp only
    split
    · exact seen.fails _
    · rename_i ready
      exact seen.readsEntry le (le_trans le₁ le₂) there (runs.later le₂) (by simpa using ready)

/-- Whatever others write between the reads of an inspection: what it reports of the model was so, and where it reports
that the model is ready, one model object stood from its first to its last read and each part was ready meanwhile. -/
theorem read_safe (decode : Json → Option Api.ModelDeploymentSpec) (nameSpace clusterId : String)
    (task : ObservationTask) (h : History Scene) :
    (read decode nameSpace clusterId task).Safe oracle (Truthful decode nameSpace clusterId task h) h := by
  have nothing (w : History Scene) (code : ObservationCode) :
      (fail unseen code).Safe oracle (Truthful decode nameSpace clusterId task h) w := .nothing rfl rfl rfl nofun
  unfold read
  split
  · exact nothing h _
  · cases expects : expectedSpec decode nameSpace task with
    | none => exact nothing h _
    | some expected =>
      rintro _ le answer w ⟨rfl, answered⟩
      cases told : answer with
      | none => exact nothing w _
      | some o =>
        have found : w.now.models.get? task.deployment = some o := by
          rcases answered with found | missing
          · exact found.symm.trans told
          · rw [missing] at told
            cases told
        dsimp only [need]
        split
        · exact nothing w _
        · rename_i identified
          split
          · exact nothing w _
          · rename_i same
            split
            · exact nothing w _
            · rename_i picker
              refine Ordered.readsRuntime ⟨by simpa using identified, ?_, ?_⟩ le found
              · rw [expects, not_not.1 same]
              · cases named : o.content.spec.serving with
                | none => exact absurd (by rw [named]; rfl) picker
                | some serving => exact ⟨serving, rfl, by simpa [named] using picker⟩

end Said

end Xscope.Kubernetes.Observation

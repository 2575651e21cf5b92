/-
The operator. A reconciliation reads the children of a model, computes what they should be and writes them one
by one, with others writing in between. It presents what it read, and reads the owner of every child before it
writes it, so that it never changes or deletes an object of another owner.
-/
import Xscope.Kubernetes.Api

namespace Xscope.Kubernetes.Controller

open Api (Labels Error Condition ModelDeploymentStatus invalid)

/-! ## Children -/

inductive Kind where
  | deployment
  | service
  | pdb
  | pool
  | scaler
  | hpa
  | scale
  deriving DecidableEq

/-- A kind and a name, in the namespace of the model. -/
abbrev Key := Kind × String

/-- An object, but for its name and what the API server keeps of it. -/
structure Child where
  ownerReferences : Option (List OwnerReference)
  deletionTimestamp : Option Int
  annotations : Labels
  generation : Option Int
  spec : Json
  status : Json
  deriving DecidableEq

abbrev Object := Stored Key Child

abbrev Reconciliation := Program Key Child Error

def Child.metadata (child : Child) (name : String) (uid : Option String) : ObjectMeta :=
  ⟨some name, none, uid, child.deletionTimestamp, child.ownerReferences⟩

def objectMeta (o : Object) : ObjectMeta := o.content.metadata o.name.2 (some o.uid)

def checked {α : Type} : Except KubeError α → Except Error α
  | .ok a => .ok a
  | .error e => .error (.check e)

def ensureOwned (o : Object) (model : Api.ModelDeployment) : Except Error Unit :=
  checked (ensureOwner (objectMeta o) model.scaling)

def labelsOf (j : Json) : Option Labels := match j with
  | .obj members => some (members.filterMap fun m => m.2.asStr.map fun v => (m.1, v))
  | _ => none

def ofLabels (labels : Labels) : Json := .obj (labels.map fun l => (l.1, .str l.2))

def asInt : Json → Option Int
  | .int n => some n
  | _ => none

/-- What a HorizontalPodAutoscaler is read as. -/
def hpaOf (o : Object) : Hpa :=
  let target := o.content.spec.get "scaleTargetRef"
  ⟨objectMeta o, if target = .null then none
    else some ⟨(target.get "apiVersion").asStr, (target.get "kind").asStr.getD "", (target.get "name").asStr.getD ""⟩⟩

/-- What a ScaledObject is read as. -/
def scalerOf (o : Object) : ScaledObject :=
  let target := o.content.spec.get "scaleTargetRef"
  ⟨objectMeta o, ⟨(target.get "apiVersion").asStr.getD "", (target.get "kind").asStr.getD "",
    (target.get "name").asStr.getD ""⟩⟩

/-! ## Desired children -/

structure Context where
  clusterId : String
  region : String
  prometheusAddress : String

/-- `controller_owner_ref`. -/
def controllerOwnerRef (model : Api.ModelDeployment) : Option OwnerReference := do
  let name ← model.metadata.name
  let uid ← model.metadata.uid
  pure ⟨modelApiVersion, "ModelDeployment", name, uid, some true⟩

/-- A child of the owner, without annotations or status. -/
def Child.owned (owner : OwnerReference) (spec : Json) : Child := ⟨some [owner], none, [], none, spec, .null⟩

def named (name : String) (value : Json) : Json := .obj [("name", .str name), ("value", value)]

def optionJson : Option Json → Json
  | some j => j
  | none => .null

/-- The runtime container of the pod. -/
def container (spec : Api.ModelDeploymentSpec) : Json :=
  let probe (threshold : Int) : Json := .obj
    [("httpGet", .obj [("path", .str spec.runtime.health.path), ("port", .str "http")]), ("periodSeconds", .int 5),
      ("timeoutSeconds", .int 2), ("failureThreshold", .int threshold)]
  .obj
    [("name", .str "runtime"), ("image", .str spec.runtime.image), ("args", .arr (spec.runtime.arguments.map .str)),
      ("ports", .arr [.obj [("name", .str "http"), ("containerPort", .int spec.runtime.port)]]),
        ("resources", spec.resources),
      ("env", .arr
        [named "XSCOPE_RUNTIME_PORT" (.str (toString spec.runtime.port)), named "XSCOPE_MODEL_ID" (.str spec.model.id),
          named "XSCOPE_MODEL_REVISION" (.str spec.model.revision), named "XSCOPE_MODEL_URI" (.str spec.model.uri),
          named "XSCOPE_MODEL_CHECKSUM" (.str spec.model.checksum)]),
      ("startupProbe", probe (spec.runtime.health.startupTimeoutSeconds.tdiv 5)), ("readinessProbe", probe 2)]

/-- The labels that the pods of the model are selected by, before it has any. -/
def baseLabels (name clusterId region : String) : Labels :=
  let labels : Labels := Labels.insert "app.kubernetes.io/managed-by" "xscope-operator"
    (Labels.insert "app.kubernetes.io/component" "model-runtime" (Labels.insert "app.kubernetes.io/name" name []))
  let labels := if clusterId = "" then labels else labels.insert "platform.xscope.io/cluster-id" clusterId
  if region = "" then labels else labels.insert "platform.xscope.io/region" region

def uidLabel : String := "platform.xscope.io/deployment-uid"

/-- The labels of the pods. -/
def podLabels (selector : Labels) (uid : String) : Labels :=
  Labels.insert "app.kubernetes.io/part-of" "xscope" (Labels.insert uidLabel uid selector)

/-- The selector of a Deployment. -/
def matchLabels (child : Child) : Option Labels := labelsOf ((child.spec.get "selector").get "matchLabels")

/-- Immutable selectors are preserved across migrations and changes of the configuration. -/
def selectorOf (model : Api.ModelDeployment) (clusterId region : String)
    (existing : Option Object) : Except Error Labels :=
  let labels := baseLabels model.metadata.nameAny clusterId region
  match existing with
  | none => .ok labels
  | some deployment => do
    ensureOwned deployment model
    pure ((matchLabels deployment.content).getD labels)

/-- `desired`: the Deployment and the Service of the model. -/
def desired (model : Api.ModelDeployment) (clusterId region : String) (existing : Option Object) :
    Except Error (Child × Child) := do
  let model ← Api.validate model
  if model.nameSpace.isNone then invalid "namespace missing"
  match controllerOwnerRef model with
  | none => invalid "resource UID missing"
  | some owner =>
    let selector ← selectorOf model clusterId region existing
    let labels := podLabels selector owner.uid
    let port := model.spec.runtime.port
    let deployment := Child.owned owner (.obj
      [("replicas", .int model.spec.replicas), ("selector", .obj [("matchLabels", ofLabels selector)]),
        ("template", .obj
          [("metadata", .obj [("labels", ofLabels labels)]),
            ("spec", .obj
              [("automountServiceAccountToken", .bool false),
                ("nodeSelector", optionJson (model.spec.nodeSelector.map ofLabels)),
                  ("tolerations", optionJson model.spec.tolerations), ("containers", .arr [container model.spec])])])])
    let service := Child.owned owner (.obj
      [("selector", ofLabels labels),
        ("ports", .arr [.obj [("name", .str "http"), ("port", .int port), ("targetPort", .str "http")]])])
    pure (deployment, service)

/-- The labels of the pods that a Deployment starts. -/
def templateLabels (deployment : Child) : Option Labels :=
  labelsOf (((deployment.spec.get "template").get "metadata").get "labels")

/-- `desired_optional`: the disruption budget and the pool. -/
def desiredOptional (model : Api.ModelDeployment) (deployment : Child) : Except Error (Option Child × Option Child) :=
  match templateLabels deployment with
  | none => invalid "desired Pod template labels are missing"
  | some labels =>
    let selector := Json.obj [("matchLabels", ofLabels labels)]
    let owned (spec : Json) : Child := ⟨deployment.ownerReferences, none, [], none, spec, .null⟩
    let pdb := model.spec.disruptionBudget.map fun maxUnavailable =>
      owned (.obj [("maxUnavailable", .int maxUnavailable), ("selector", selector)])
    let pool := model.spec.serving.map fun serving =>
      owned (.obj
        [("selector", selector), ("targetPorts", .arr [.obj [("number", .int model.spec.runtime.port)]]),
          ("endpointPickerRef", .obj
            [("name", .str serving.endpointPickerService), ("port", .obj [("number", .int serving.endpointPickerPort)]),
              ("failureMode", .str "FailClose")])])
    .ok (pdb, pool)

/-- The ports of a Service. -/
def portsOf (service : Child) : List Int := match service.spec.get "ports" with
  | .arr ports => ports.filterMap fun p => asInt (p.get "port")
  | _ => []

/-- The external picker is a contract of the installation: the operator checks its Service and never edits it. -/
def validatePicker (service : Option Object) (model : Api.ModelDeployment) : Except Error Unit :=
  match model.spec.serving with
  | none => .ok ()
  | some serving => match service with
    | none => invalid "EPP Service is missing; install a pool-specific llm-d serving entry first"
    | some service =>
      if service.content.annotations.lookup "platform.xscope.io/inference-pool" ≠ some model.metadata.nameAny ∨
          serving.endpointPickerPort ∉ portsOf service.content then
        invalid "EPP Service must declare this pool in platform.xscope.io/inference-pool and expose the configured port"
      else .ok ()

/-- Managed scaling: KEDA writes a recommendation only. -/
def enabled (model : Api.ModelDeployment) : Bool := model.spec.autoscaling.any (·.managed)

def targetKind (model : Api.ModelDeployment) : String := if enabled model then "ModelScale" else "ModelDeployment"

def query (metric selector : String) : String :=
  let series := metric ++ "\x7bjob=\"epp\"," ++ selector ++ "\x7d"
  let up := "up\x7bjob=\"epp\"," ++ selector ++ "\x7d"
  "sum(" ++ series ++ ") and on() (min(" ++ up ++ ") == 1) and on() (count(count by (instance) (" ++ series ++
    ")) == count(" ++ up ++
    ")) and on() (time() - min(timestamp(" ++ series ++ ")) < 90) and on() (time() - min(timestamp(" ++ up ++ ")) < 90)"

/-- The trigger of a metric of the picker, unless it has no target. -/
def trigger (model : Api.ModelDeployment) (prometheusAddress : String) (target : Int)
    (metric : String) : Except Error (Option Json) :=
  if target = 0 then .ok none
  else match model.spec.serving with
    | none => invalid "EPP autoscaling requires serving.endpointPickerService"
    | some serving => do
      Api.validateName serving.endpointPickerService true
      match model.nameSpace with
      | none => invalid "namespace missing"
      | some nameSpace => do
        Api.validateName nameSpace true
        if !("http://".toList.isPrefixOf prometheusAddress.toList ||
          "https://".toList.isPrefixOf prometheusAddress.toList) then
          invalid "operator Prometheus address must be an HTTP(S) URL"
        else
          let selector := "namespace=\"" ++ nameSpace ++ "\",service=\"" ++ serving.endpointPickerService ++ "\""
          pure (some (.obj
            [("type", .str "prometheus"), ("metricType", .str "AverageValue"),
              ("metadata", .obj
                [("serverAddress", .str prometheusAddress), ("query", .str (query metric selector)),
                  ("threshold", .str (toString target)), ("ignoreNullValues", .str "false")])]))

/-- `autoscaling::desired`, under the owner of the Deployment. -/
def desiredScaler (model : Api.ModelDeployment) (deployment : Child) (prometheusAddress : String) :
    Except Error (Option Child) :=
  match model.spec.autoscaling with
  | none => .ok none
  | some scaling => do
    let pending ← trigger model prometheusAddress scaling.targetPendingRequests "llm_d_epp_flow_control_queue_size"
    let running ← trigger model prometheusAddress scaling.targetRunningRequests "llm_d_epp_request_running"
    let metrics := pending.toList ++ running.toList
    let cpu : Json := .obj
      [("type", .str "cpu"), ("metricType", .str "Utilization"),
        ("metadata", .obj [("value", .str (toString (scaling.targetCpuUtilizationPercentage.getD 70)))])]
    let triggers := if metrics.isEmpty || scaling.targetCpuUtilizationPercentage.isSome then metrics ++
      [cpu] else metrics
    let policies : Json := .arr [.obj [("type", .str "Pods"), ("value", .int 1), ("periodSeconds", .int 60)]]
    let scaleDown : Json := if scaling.managed then
      .obj [("stabilizationWindowSeconds", .int 60), ("policies", policies)]
      else .obj [("selectPolicy", .str "Disabled")]
    pure (some ⟨deployment.ownerReferences, none, [], none, .obj
      [("scaleTargetRef", .obj
          [("apiVersion", .str modelApiVersion), ("kind", .str (targetKind model)),
            ("name", .str model.metadata.nameAny)]),
        ("minReplicaCount", .int scaling.minReplicas), ("maxReplicaCount", .int scaling.maxReplicas),
          ("pollingInterval", .int 30),
        ("advanced", .obj
          [("restoreToOriginalReplicaCount", .bool false),
            ("horizontalPodAutoscalerConfig", .obj
              [("name", .str ("keda-hpa-" ++ model.metadata.nameAny)),
                ("behavior", .obj
                  [("scaleUp", .obj [("stabilizationWindowSeconds", .int 30), ("policies", policies)]),
                    ("scaleDown", scaleDown)])])]),
        ("triggers", .arr triggers)], .null⟩)

/-! ## Calls -/

-- what a server-side apply makes of an object and the applied one
variable (serverApply : Child → Child → Child)

def getOpt (kind : Kind) (name : String) : Reconciliation (Option Object) := do
  match ← Program.ask (.get (kind, name)) with
  | .ok objects => pure objects.head?
  | .error error => Program.fail (.kube error)

/-- A call that is answered with the object as it is stored. -/
def put (call : ObjectCall Key Child) : Reconciliation Object := do
  match ← Program.ask call with
  | .ok (o :: _) => pure o
  | .ok [] => Program.fail (.kube .notFound)
  | .error error => Program.fail (.kube error)

/-- Never force-adopt a foreign object or delete a concurrently replaced child. -/
def sync (kind : Kind) (model : Api.ModelDeployment) (previous : Option Object) (desired : Option Child) :
    Reconciliation (Option Object) :=
  match desired, previous with
  | some desired, some previous => do
    Program.lift (ensureOwned previous model)
    some <$> put (.replace previous (serverApply previous.content desired))
  | some desired, none => some <$> put (.create (kind, model.metadata.nameAny) desired)
  | none, some previous =>
    if ensureOwned previous model = .ok () then do
      match ← Program.ask (.remove previous) with
      | .ok _ => pure none
      | .error error => Program.fail (.kube error)
    else pure none
  | none, none => pure none

/-- Check all desired identities before writing any child. -/
def preflightChild (previous : Option Object) (wanted : Bool)
    (model : Api.ModelDeployment) : Except Error Unit := match previous with
  | some previous => if wanted then ensureOwned previous model else .ok ()
  | none => .ok ()

/-- The recommendation of the model, created if there is none. -/
def scaleRow (model : Api.ModelDeployment) (found : Option Object) : Reconciliation Object := match found with
  | some row => do
    Program.lift (ensureOwned row model)
    if (row.content.spec.get "modelUid").asStr ≠ model.metadata.uid then
      Program.fail (.check .ownershipConflict) else pure row
  | none => match controllerOwnerRef model with
    | none => Program.fail (.check .ownershipConflict)
    | some owner =>
      put (.create (.scale, model.metadata.nameAny)
        (.owned owner (.obj [("modelUid", .str owner.uid), ("replicas", .int model.spec.replicas)])))

/-- `recommendation::sync`: the recommendation exists before KEDA refers to it. -/
def syncScale (model : Api.ModelDeployment) (replicas : Int) (selector : String) : Reconciliation Unit := do
  if model.nameSpace.isNone then Program.fail (.check (.invalid "namespace missing"))
  else match ← Program.ask (.get (.scale, model.metadata.nameAny)) with
    | .error error =>
      if error = .notFound ∧ enabled model = false then pure () else Program.fail (.kube error)
    | .ok found =>
      if enabled model = false then do
        let _ ← sync serverApply .scale model found.head? none
        pure ()
      else do
        let row ← scaleRow model found.head?
        let status := Json.obj [("replicas", .int replicas), ("selector", .str selector)]
        if row.content.status = status then pure ()
        else do
          let _ ← put (.replace row { row.content with status := status })
          pure ()

/-! ## Status -/

/-- `condition`: a condition keeps its time while its value does. -/
def condition (now : Int) (model : Api.ModelDeployment) (kind value reason message : String)
    (status : ModelDeploymentStatus) :
    ModelDeploymentStatus :=
  let previous := (status.conditions.find? (·.type = kind)).filter (·.status = value)
  let next : Condition :=
    ⟨kind, value, reason, message, model.generation, (previous.map (·.lastTransitionTime)).getD now⟩
  { status with
    conditions := (status.conditions.filter (·.type ≠ kind) ++ [next]).mergeSort fun a b => decide (a.type ≤ b.type) }

/-- The status while writers change. -/
def scalingTransition (now : Int) (model : Api.ModelDeployment) (message : String) : ModelDeploymentStatus :=
  condition now model "AutoscalingActive" "Unknown" "ScalerTransition" message (model.status.getD .default)

/-- The condition of a type in a status. -/
def conditionOf (status : Json) (kind : String) : Option Json := match status.get "conditions" with
  | .arr conditions => conditions.find? fun c => c.get "type" = .str kind
  | _ => none

def text (j : Json) (k : String) : String := (j.get k).asStr.getD ""

/-- What the status says of the autoscaler. -/
def autoscalingActive (now : Int) (model : Api.ModelDeployment) (scaled hpa : Option Object)
    (status : ModelDeploymentStatus) :
    ModelDeploymentStatus :=
  let notReady := (scaled.bind fun s => conditionOf s.content.status "Ready").filter fun c =>
    c.get "status" ≠ .str "True"
  let active := hpa.bind fun h => conditionOf h.content.status "ScalingActive"
  if model.spec.autoscaling.isNone then
    condition now model "AutoscalingActive" "False" "Disabled" "Replicas are manually managed" status
  else match notReady, active with
    | some c, _ => condition now model "AutoscalingActive" (text c "status") "KedaNotReady" (text c "message") status
    | none, some c =>
      condition now model "AutoscalingActive" (text c "status") ((c.get "reason").asStr.getD "PendingMetrics")
        ((c.get "message").asStr.getD "Waiting for HPA metrics") status
    | none, none =>
      condition now model "AutoscalingActive" "Unknown" "PendingMetrics"
        "KEDA ScaledObject configured; waiting for KEDA-managed HPA and metrics" status

/-- The status after every child was written. -/
def reconciled (context : Context) (now : Int) (model : Api.ModelDeployment) (nameSpace selector : String)
    (port : Int) (deployment : Object) (scaled hpa : Option Object) : ModelDeploymentStatus :=
  let counted (k : String) : Int := (asInt (deployment.content.status.get k)).getD 0
  let status : ModelDeploymentStatus :=
    { observedGeneration := model.generation.getD 0, readyReplicas := counted "readyReplicas"
      replicas := counted "replicas", selector := selector
      inferencePool := if model.spec.serving.isSome then model.metadata.nameAny else ""
      endpointPickerService := (model.spec.serving.map (·.endpointPickerService)).getD ""
      endpoint := "http://" ++ model.metadata.nameAny ++ "." ++ nameSpace ++ ".svc:" ++ toString port
      clusterId := context.clusterId, region := context.region
      conditions := (model.status.map (·.conditions)).getD [] }
  let status := condition now model "ResourcesReady" "True" "Reconciled" "All desired owned resources reconciled" status
  let ready := decide (0 < model.spec.replicas) && decide (status.readyReplicas = model.spec.replicas) &&
    decide (deployment.content.generation.getD 0 ≤ counted "observedGeneration")
  let status := condition now model "Ready" (if ready then "True" else "False")
    (if ready then "RuntimeReady" else "RuntimeNotReady")
    "Runtime readiness only; external EPP health and gateway registration are separate" status
  autoscalingActive now model scaled hpa status

/-! ## Reconciliation -/

/-- The scalers of the namespace; without KEDA there are none, and a model that needs it is refused. -/
def listScalers (model : Api.ModelDeployment) : Reconciliation (List Object) := do
  match ← Program.ask (.list fun k => k.1 = .scaler) with
  | .ok objects => pure objects
  | .error .notFound =>
    if model.spec.autoscaling.isNone then pure []
    else Program.fail (.check
      (.invalid "KEDA CRD is not installed; install the approved KEDA release before enabling autoscaling"))
  | .error error => Program.fail (.kube error)

def listHpas : Reconciliation (List Object) := do
  match ← Program.ask (.list fun k => k.1 = .hpa) with
  | .ok objects => pure objects
  | .error error => Program.fail (.kube error)

/-- What is known once everything has been read. -/
structure Inventory where
  existing : Option Object
  service : Option Object
  pdb : Option Object
  pool : Option Object
  scalers : List Object
  hpas : List Object

/-- The children that should be there. -/
structure Wanted where
  deployment : Child
  service : Child
  pdb : Option Child
  pool : Option Child
  scaler : Option Child

def checkPicker (model : Api.ModelDeployment) : Reconciliation Unit := match model.spec.serving with
  | some serving => do
    let picker ← getOpt .service serving.endpointPickerService
    Program.lift (validatePicker picker model)
  | none => pure ()

/-- Everything is read and checked before the first write. -/
def inspect (context : Context) (model : Api.ModelDeployment) : Reconciliation (Inventory × Wanted) := do
  let name := model.metadata.nameAny
  let existing ← getOpt .deployment name
  let existingService ← getOpt .service name
  Program.lift (preflightChild existingService true model)
  let (deployment, service) ← Program.lift (desired model context.clusterId context.region existing)
  let (pdb, pool) ← Program.lift (desiredOptional model deployment)
  let hpas ← listHpas
  let scalers ← listScalers model
  Program.lift (checked (preflight model.scaling (scalers.map scalerOf) (hpas.map hpaOf)))
  let scaler ← Program.lift (desiredScaler model deployment context.prometheusAddress)
  let oldPdb ← getOpt .pdb name
  let oldPool ← getOpt .pool name
  Program.lift (preflightChild oldPdb pdb.isSome model)
  Program.lift (preflightChild oldPool pool.isSome model)
  checkPicker model
  pure (⟨existing, existingService, oldPdb, oldPool, scalers, hpas⟩, ⟨deployment, service, pdb, pool, scaler⟩)

/-- Every child is written, and then the status. -/
def syncAll (context : Context) (now : Int) (model : Api.ModelDeployment) (nameSpace selector : String) (port : Int)
    (old : Inventory) (oldScaler : Option Object) (wanted : Wanted) :
    Reconciliation (Option ModelDeploymentStatus) := do
  let hpa := old.hpas.find? fun h => hpaTargetsModel (hpaOf h) model.scaling
  match ← sync serverApply .deployment model old.existing (some wanted.deployment) with
  | none => Program.fail (.check (.invalid "Deployment sync returned no resource"))
  | some deployment => do
    let _ ← sync serverApply .service model old.service (some wanted.service)
    let _ ← sync serverApply .pdb model old.pdb wanted.pdb
    let _ ← sync serverApply .pool model old.pool wanted.pool
    let scaled ← if wanted.scaler.isSome then sync serverApply .scaler model oldScaler wanted.scaler else pure none
    pure (some (reconciled context now model nameSpace selector port deployment scaled hpa))

/-- `reconcile_inner`, with the status that it writes as its result. -/
def reconcileInner (context : Context) (now : Int) (model : Api.ModelDeployment) :
    Reconciliation (Option ModelDeploymentStatus) := do
  if model.metadata.deletionTimestamp.isSome then pure none
  else match model.nameSpace with
    | none => Program.fail (.check (.invalid "namespace missing"))
    | some nameSpace => do
      let name := model.metadata.nameAny
      let (old, wanted) ← inspect context model
      let oldScaler := old.scalers.find? fun s => s.name.2 = name
      let selector := String.intercalate "," (((matchLabels wanted.deployment).getD []).map fun l => l.1 ++ "=" ++ l.2)
      -- the replicas of the spec are never copied into the recommendation
      syncScale serverApply model ((old.existing.bind fun d => asInt (d.content.spec.get "replicas")).getD
        model.spec.replicas) selector
      match (portsOf wanted.service).head? with
      | none => Program.fail (.check (.invalid "desired Service port is missing"))
      | some port =>
        match transition model.scaling (oldScaler.map scalerOf) (old.hpas.map hpaOf) with
        | .removeLegacy => do
          let legacy := old.hpas.find? fun h => decide (h.name.2 = name) && decide (ensureOwned h model = .ok ())
          let _ ← sync serverApply .hpa model legacy none
          pure (some (scalingTransition now model "Removing legacy Operator HPA before KEDA activation"))
        | .removeScaledObject => do
          let _ ← sync serverApply .scaler model oldScaler none
          pure (some (scalingTransition now model "Removing KEDA ScaledObject before manual scaling resumes"))
        | .wait =>
          pure (some (scalingTransition now model "Waiting for ScaledObject deletion and KEDA HPA garbage collection"))
        | .apply => syncAll serverApply context now model nameSpace selector port old oldScaler wanted

end Xscope.Kubernetes.Controller

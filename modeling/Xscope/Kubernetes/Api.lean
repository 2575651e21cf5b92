/-
The model deployments of the cluster API: their spec, and the checks that stand in front of every use of one.
Validation also puts the defaults that an empty field stands for.
-/
import Xscope.Base.Calls
import Xscope.Base.Json
import Xscope.Kubernetes.Autoscaling

namespace Xscope.Kubernetes.Api

/-- What the operator and the agent fail with. -/
inductive Error where
  | check (error : KubeError)
  | kube (error : CallError)
  deriving DecidableEq

def invalid {α : Type} (message : String) : Except Error α := .error (.check (.invalid message))

/-! ## The spec -/

abbrev Labels := List (String × String)

/-- Labels in key order with `k` set to `v`. -/
def Labels.insert (k v : String) : Labels → Labels
  | [] => [(k, v)]
  | (l, w) :: rest =>
    if k = l then (k, v) :: rest
    else if k < l then (k, v) :: (l, w) :: rest
    else (l, w) :: Labels.insert k v rest

structure ModelSpec where
  id : String
  revision : String
  uri : String
  checksum : String
  deriving DecidableEq

structure RuntimeHealth where
  path : String
  startupTimeoutSeconds : Int
  deriving DecidableEq

def RuntimeHealth.default : RuntimeHealth := ⟨"/readyz", 1800⟩

structure RuntimeSpec where
  image : String
  protocol : String
  port : Int
  arguments : List String
  health : RuntimeHealth
  deriving DecidableEq

structure ServingSpec where
  endpointPickerService : String
  endpointPickerPort : Int
  deriving DecidableEq

structure RolloutSpec where
  strategy : String
  canaryWeight : Int
  deriving DecidableEq

structure ModelDeploymentSpec where
  model : ModelSpec
  runtime : RuntimeSpec
  replicas : Int
  resources : Json
  autoscaling : Option AutoscalingSpec
  /-- `maxUnavailable` of the disruption budget. -/
  disruptionBudget : Option Int
  serving : Option ServingSpec
  rollout : Option RolloutSpec
  nodeSelector : Option Labels
  tolerations : Option Json
  deriving DecidableEq

structure Condition where
  type : String
  status : String
  reason : String
  message : String
  observedGeneration : Option Int
  lastTransitionTime : Int
  deriving DecidableEq

structure ModelDeploymentStatus where
  observedGeneration : Int
  readyReplicas : Int
  replicas : Int
  selector : String
  inferencePool : String
  endpointPickerService : String
  endpoint : String
  clusterId : String
  region : String
  conditions : List Condition
  deriving DecidableEq

def ModelDeploymentStatus.default : ModelDeploymentStatus := ⟨0, 0, 0, "", "", "", "", "", "", []⟩

structure ModelDeployment where
  metadata : ObjectMeta
  nameSpace : Option String
  generation : Option Int
  spec : ModelDeploymentSpec
  status : Option ModelDeploymentStatus
  deriving DecidableEq

/-- What the checks of scaling writers read of a model. -/
def ModelDeployment.scaling (model : ModelDeployment) : Kubernetes.ModelDeployment :=
  ⟨model.metadata, model.spec.autoscaling⟩

/-! ## Checks -/

def lowerOrDigit (c : Char) : Bool := c.isLower || c.isDigit

def dnsLabel (part : List Char) : Bool :=
  !part.isEmpty && decide (part.length ≤ 63) && part.head?.all Char.isAlphanum && part.getLast?.all Char.isAlphanum &&
    part.all fun c => lowerOrDigit c || c == '-'

def validateName (name : String) (nameSpace : Bool) : Except Error Unit :=
  if name.isEmpty || decide ((if nameSpace then 63 else 253) < name.utf8ByteSize) ||
    !(name.toList.splitOn '.').all dnsLabel ||
      (nameSpace && name.toList.contains '.') then
    invalid "invalid Kubernetes resource name or namespace"
  else .ok ()

/-- The Unicode property White_Space. -/
def whiteSpace (c : Char) : Bool :=
  let n := c.toNat
  decide (9 ≤ n ∧ n ≤ 13) || decide (n = 32) || decide (n = 0x85) || decide (n = 0xA0) || decide (n = 0x1680) ||
    decide (0x2000 ≤ n ∧ n ≤ 0x200A) || decide (n = 0x2028) || decide (n = 0x2029) || decide (n = 0x202F) ||
      decide (n = 0x205F) ||
    decide (n = 0x3000)

def checksum (text : String) : Bool :=
  "sha256:".toList.isPrefixOf text.toList &&
    let hash := text.toList.drop 7
    decide (hash.length = 64) && hash.all fun c => c.isDigit || decide ('a' ≤ c ∧ c ≤ 'f')

/-- The readiness contract of the runtime: a local path, and a bounded startup. -/
def RuntimeHealth.valid (health : RuntimeHealth) : Bool :=
  let path := health.path.toList
  path.head? == some '/' && !("//".toList.isPrefixOf path) && decide (health.path.utf8ByteSize ≤ 256) &&
    (path.all fun c => c.isAlphanum || "/._-".toList.contains c) &&
    decide (10 ≤ health.startupTimeoutSeconds ∧ health.startupTimeoutSeconds ≤ 7200) &&
      decide (health.startupTimeoutSeconds.tmod 5 = 0)

/-- A CPU request is there; its quantity belongs to Kubernetes. -/
def cpuRequested (resources : Json) : Bool := match ((resources.get "requests").get "cpu").asStr with
  | some cpu => !cpu.toList.all whiteSpace
  | none => false

def validateScaling (spec : ModelDeploymentSpec) (scaling : AutoscalingSpec) : Except Error Unit :=
  let epp := !(decide (scaling.targetPendingRequests = 0) && decide (scaling.targetRunningRequests = 0))
  if scaling.managed ∧ (spec.serving.isNone ∨ epp = false) then
    invalid "managed scaling requires a serving pool and EPP request metrics"
  else if scaling.minReplicas < 1 ∨ scaling.maxReplicas < scaling.minReplicas ∨ spec.replicas < scaling.minReplicas ∨
      scaling.maxReplicas < spec.replicas ∨ scaling.targetPendingRequests < 0 ∨ scaling.targetRunningRequests < 0 ∨
      scaling.targetCpuUtilizationPercentage.any fun value => decide (value < 1 ∨ 100 < value) then
    invalid "autoscaling requires 1 <= minReplicas <= replicas <= maxReplicas and CPU target 1..100"
  else if (0 < scaling.targetPendingRequests ∨ 0 < scaling.targetRunningRequests) ∧ spec.serving.isNone then
    invalid "EPP scaling requires a pool-specific serving entry"
  else if (epp = false ∨ scaling.targetCpuUtilizationPercentage.isSome) ∧ cpuRequested spec.resources = false then
    invalid "CPU autoscaling requires resources.requests.cpu (quantity validation belongs to Kubernetes)"
  else .ok ()

def validateServing (name : String) (spec : ModelDeploymentSpec) (serving : ServingSpec) : Except Error Unit := do
  validateName serving.endpointPickerService true
  if serving.endpointPickerService = name ∨ serving.endpointPickerPort < 1 ∨ 65535 < serving.endpointPickerPort ∨
      spec.runtime.protocol ≠ "openai" then
    invalid "serving requires OpenAI protocol, a separate EPP Service and valid port"

def RolloutSpec.checked (rollout : RolloutSpec) : Except Error RolloutSpec :=
  let rollout := if rollout.strategy = "" then { rollout with strategy := "rolling" } else rollout
  if rollout.strategy ≠ "rolling" ∨ rollout.canaryWeight ≠ 0 then invalid "only rolling is currently supported"
    else .ok rollout

/-- The spec of the model with its defaults. -/
def validateSpec (model : ModelDeployment) : Except Error ModelDeploymentSpec := do
  let name := model.metadata.nameAny
  validateName name true
  if name.toList.head?.any Char.isLower = false then
    invalid "ModelDeployment name must start with a lowercase letter (Service DNS label)"
  validateName (model.nameSpace.getD "") true
  let spec := model.spec
  if spec.model.id = "" ∨ spec.model.revision = "" ∨ spec.model.uri = "" ∨ spec.runtime.image = "" then
    invalid "model id, revision, uri and runtime image are required"
  if checksum spec.model.checksum = false then
    invalid "model checksum must be sha256 followed by 64 lowercase hexadecimal characters"
  if spec.runtime.protocol ∉ ["openai", "triton-grpc", "custom-http"] then invalid "unsupported runtime protocol"
  let spec :=
    { spec with runtime := { spec.runtime with port := if spec.runtime.port = 0 then 8000 else spec.runtime.port } }
  if spec.runtime.port < 1 ∨ 65535 < spec.runtime.port ∨ spec.replicas < 0 then
    invalid "invalid runtime port or negative replicas"
  if spec.runtime.health.valid = false then
    invalid "runtime health requires a local HTTP path and startup timeout 10..7200 seconds in multiples of five"
  match spec.autoscaling with
  | some scaling => validateScaling spec scaling
  | none => pure ()
  if spec.disruptionBudget.any fun maxUnavailable => decide (maxUnavailable < 0) then
    invalid "maxUnavailable must be non-negative"
  match spec.serving with
  | some serving => validateServing name spec serving
  | none => pure ()
  let rollout ← match spec.rollout with
    | some rollout => some <$> rollout.checked
    | none => pure none
  pure { spec with rollout := rollout }

def validate (model : ModelDeployment) : Except Error ModelDeployment := do
  let spec ← validateSpec model
  pure { model with spec := spec }

/-- Validation puts defaults into the spec, and leaves the rest of the model alone. -/
theorem validate_ok {model checked : ModelDeployment} (h : validate model = .ok checked) :
    ∃ spec, validateSpec model = .ok spec ∧ checked = { model with spec := spec } := by
  unfold validate at h
  cases hs : validateSpec model with
  | error e => rw [hs] at h; cases h
  | ok spec => rw [hs] at h; cases h; exact ⟨spec, rfl, rfl⟩

end Xscope.Kubernetes.Api

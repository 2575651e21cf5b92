/-
The requests of the money protocol and of the console, with the checks that read nothing but the
request, and the error type of the service with the HTTP status each error is answered with.
-/
import Xscope.Domain.Model

namespace Xscope

/-! ## Errors of the service -/

inductive ServiceError where
  | invalid (message : String)
  | notFound
  | conflict (message : String)
  | insufficientFunds (message : String)
  | unauthorized
  | forbidden
  | dependency (message : String)
  | database
  | internal (message : String)
  deriving DecidableEq

namespace ServiceError

/-- The status code an error is answered with. -/
def status : ServiceError → Nat
  | .invalid _ => 400
  | .notFound => 404
  | .conflict _ => 409
  | .insufficientFunds _ => 402
  | .unauthorized => 401
  | .forbidden => 403
  | .dependency _ => 503
  | .database => 503
  | .internal _ => 500

def ofDomain (e : DomainError) : ServiceError := .invalid e.message

end ServiceError

/-! ## Reservations -/

/-- The identifiers of the money protocol. -/
def identifier (value : String) : Bool := identifierWith ['-', '_', '.', ':'] value

structure ReserveRequest where
  id : String
  tenantId : String
  projectId : String
  apiKeyId : String
  requestId : String
  modelId : String
  modelRevision : String
  priceVersion : String
  inputTokenLimit : Int
  outputTokenLimit : Int
  deriving DecidableEq

/-- Every name of the request is an identifier and neither token limit is negative. -/
def ReserveRequest.wellFormed (r : ReserveRequest) : Bool :=
  [r.id, r.tenantId, r.projectId, r.apiKeyId, r.requestId, r.modelId, r.modelRevision, r.priceVersion].all identifier &&
    decide (0 ≤ r.inputTokenLimit) && decide (0 ≤ r.outputTokenLimit)

structure SettleRequest where
  inputTokens : Int
  outputTokens : Int
  latencyMs : Int
  endpointId : String
  region : String
  status : String
  deriving DecidableEq

/-- Known, nonnegative usage with a final outcome. -/
def SettleRequest.wellFormed (r : SettleRequest) : Bool :=
  decide (0 ≤ r.inputTokens) && decide (0 ≤ r.outputTokens) && decide (0 ≤ r.latencyMs) &&
    identifier r.endpointId && identifier r.region && ["succeeded", "cancelled", "provider_error"].contains r.status

structure UnresolvedRequest where
  eventId : String
  reason : String
  inputTokens : Option Nat
  outputTokens : Option Nat
  deriving DecidableEq

/-- The token counts are absent exactly when the usage is missing. -/
def UnresolvedRequest.wellFormed (r : UnresolvedRequest) : Bool :=
  identifier r.eventId &&
    ((r.reason == "usage_missing" && r.inputTokens.isNone && r.outputTokens.isNone) ||
     (r.reason == "usage_over_limit" && r.inputTokens.isSome && r.outputTokens.isSome))

structure ReleaseRequest where
  reason : String
  deriving DecidableEq

/-! ## Reviews -/

structure EvidenceRequest where
  id : String
  source : String
  sourceRequestId : String
  document : String
  explanation : String
  usage : SettleRequest
  deriving DecidableEq

structure WaiverRequest where
  id : String
  reason : String
  incidentReference : String
  requestTerminated : Bool
  platformAbsorbsLoss : Bool
  deriving DecidableEq

structure DecisionRequest where
  evidenceSha256 : String
  action : String
  reason : String
  deriving DecidableEq

def validateWaiver (r : WaiverRequest) : Except ServiceError Unit :=
  if !identifier r.id || !identifier r.incidentReference || blank r.reason || decide (2048 < r.reason.utf8ByteSize)
      || !r.requestTerminated || !r.platformAbsorbsLoss then
    .error (.invalid
      "loss waiver requires an incident, reason, terminated request and explicit platform loss acceptance")
  else .ok ()

def validateEvidence (r : EvidenceRequest) : Except ServiceError Unit :=
  if !identifier r.id || !identifier r.source || !identifier r.sourceRequestId
      || blank r.document || decide (65536 < r.document.utf8ByteSize)
      || blank r.explanation || decide (2048 < r.explanation.utf8ByteSize)
      || !r.usage.wellFormed then
    .error (.invalid "bounded original evidence, explanation and known final usage are required")
  else .ok ()

def isHexDigit (c : Char) : Bool :=
  c.isDigit || ('a' ≤ c && c ≤ 'f') || ('A' ≤ c && c ≤ 'F')

/-- An exact evidence digest, a reason and one of the two actions. -/
def DecisionRequest.wellFormed (r : DecisionRequest) : Bool :=
  ["approve", "reject"].contains r.action && !blank r.reason && decide (r.reason.utf8ByteSize ≤ 2048) &&
    r.evidenceSha256.utf8ByteSize == 64 && r.evidenceSha256.toList.all isHexDigit

/-! ## Projects, keys, orders and refunds -/

structure ApiKeyRequest where
  id : String
  tenantId : String
  projectId : String
  name : String
  scopes : List String
  allowedModels : List String
  expiresAt : Option Int
  rateLimitRpm : Int
  rateLimitTpm : Int
  monthlyBudget : Money
  deriving DecidableEq

def ApiKeyRequest.withDefaults (r : ApiKeyRequest) : ApiKeyRequest :=
  { r with
    scopes := if r.scopes.isEmpty then ["chat.completions"] else r.scopes
    allowedModels := if r.allowedModels.isEmpty then [Model.default.id] else r.allowedModels
    rateLimitRpm := if r.rateLimitRpm = 0 then 60 else r.rateLimitRpm
    rateLimitTpm := if r.rateLimitTpm = 0 then 60000 else r.rateLimitTpm
    monthlyBudget := if r.monthlyBudget.currency.isEmpty then ⟨"CNY", r.monthlyBudget.amount⟩ else r.monthlyBudget }

/-- The first of the required fields that is blank. -/
def missingField : List (String × String) → Option String
  | [] => none
  | (value, name) :: rest => if blank value then some name else missingField rest

def ApiKeyRequest.validate (r : ApiKeyRequest) (now : Int) : Except DomainError Unit :=
  match missingField [(r.id, "id"), (r.tenantId, "tenant_id"), (r.projectId, "project_id"), (r.name, "name")] with
  | some name => .error (.required name)
  | none =>
    if ¬(1 ≤ r.rateLimitRpm ∧ r.rateLimitRpm ≤ 1000000) then .error .invalidRpm
    else if ¬(1 ≤ r.rateLimitTpm ∧ r.rateLimitTpm ≤ 10000000000) then .error .invalidTpm
    else match validateMoney r.monthlyBudget with
      | .error e => .error e
      | .ok () =>
        if r.expiresAt.any (fun expiry => expiry ≤ now) then .error .invalidExpiry
        else if r.scopes.isEmpty || r.scopes.any (fun s => !(["chat.completions", "completions"].contains s)) then
          .error .invalidScope
        else if r.allowedModels.isEmpty then .error .missingModel
        else .ok ()

structure PutModel where
  expectedRevision : Int
  enabled : Bool
  defaultPool : Option String
  model : Model
  deriving DecidableEq

structure UsageEvent where
  schemaVersion : String
  eventId : String
  requestId : String
  occurredAt : Int
  tenantId : String
  projectId : String
  apiKeyId : String
  modelId : String
  modelRevision : String
  endpointId : String
  region : String
  priceVersion : String
  inputTokens : Int
  outputTokens : Int
  cachedInputTokens : Int
  latencyMs : Int
  status : String
  deriving DecidableEq

def validateUsage (e : UsageEvent) : Except ServiceError Unit :=
  if [e.schemaVersion, e.eventId, e.requestId, e.tenantId, e.projectId, e.apiKeyId, e.modelId, e.modelRevision,
      e.region, e.priceVersion, e.status].any blank
      || decide (e.inputTokens < 0) || decide (e.outputTokens < 0) || decide (e.cachedInputTokens < 0)
      || decide (e.latencyMs < 0) then
    .error (.invalid "usage event is missing required fields or contains negative values")
  else .ok ()

theorem validateUsage_tokens {e : UsageEvent} (h : validateUsage e = .ok ()) :
    0 ≤ e.inputTokens ∧ 0 ≤ e.outputTokens := by
  unfold validateUsage at h
  split at h
  · cases h
  · rename_i hc
    simp only [Bool.or_eq_true, decide_eq_true_eq, not_or, not_lt] at hc
    exact ⟨hc.1.1.1.2, hc.1.1.2⟩

def isChargeableUsage (e : UsageEvent) : Bool :=
  e.status == "succeeded" && (decide (0 < e.inputTokens) || decide (0 < e.outputTokens))

structure CreateOrderRequest where
  id : String
  tenantId : String
  projectId : String
  amount : Money
  description : String
  deriving DecidableEq

structure CapturePaymentRequest where
  id : String
  provider : String
  providerReference : String
  deriving DecidableEq

structure CreateRefundRequest where
  id : String
  paymentId : String
  amount : Money
  reason : String
  deriving DecidableEq

structure CheckRequest where
  apiKeyId : String
  month : Int
  deriving DecidableEq

/-- Settlement status texts are identifiers, so a status is never blank. -/
example : ["succeeded", "cancelled", "provider_error"].all identifier = true := by decide

end Xscope

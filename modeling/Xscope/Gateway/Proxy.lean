/-
The request path of the gateway: the pool a request is routed to, and its admission. Admission
writes the bound of the output into the body that is forwarded and holds what is left of the
context for the input, so whatever the provider may charge for that body is held before it is sent.
-/
import Xscope.Gateway.Delivery
import Xscope.Gateway.Streaming
import Xscope.Serving.Reader

namespace Xscope.Gateway

open Serving Fleet

/-! ## Configuration -/

/-- A static serving pool of the configuration. -/
structure ServingConfig where
  id : String
  model : String
  address : String
  revision : String
  deriving DecidableEq

inductive SettingsError where
  | invalidServingEntry
  deriving DecidableEq

/-- A text that may be the value of a header. The bytes of a character beyond ASCII all may. -/
def headerValue (text : String) : Bool :=
  text.toList.all fun c => (decide (32 ≤ c.toNat) && c.toNat != 127) || c == '\t'

def ServingConfig.validate (c : ServingConfig) : Except SettingsError Unit :=
  if managed c.id || [c.id, c.model, c.address].any blank ||
      [c.id, c.revision].any fun value => decide (128 < value.utf8ByteSize) || !headerValue value then
    .error .invalidServingEntry
  else .ok ()

/-- What the gateway knows of the hold of an admitted request. -/
structure Ticket where
  id : String
  projectId : String
  inputTokenLimit : Int
  outputTokenLimit : Int
  deriving DecidableEq

/-- The settings refuse a context that is not positive. -/
structure BillingAdmission where
  contextTokens : Int
  priceVersion : String
  /-- How the worker that reserves and dispatches a hold answers. -/
  answer : ReserveRequest → Except Nat Unit
  positive : 0 < contextTokens
  fits : contextTokens ≤ i64Max

def BillingAdmission.admit (billing : BillingAdmission) (request : ReserveRequest) : Except Nat Ticket := do
  billing.answer request
  pure ⟨request.id, request.projectId, request.inputTokenLimit, request.outputTokenLimit⟩

inductive QuotaDenial where
  | requestsPerMinute
  | tokensPerMinute
  deriving DecidableEq

structure QuotaReservation where
  key : String
  id : String
  reservedTokens : Nat
  deriving DecidableEq

inductive QuotaDecision where
  | allowed (reservation : QuotaReservation)
  | denied (denial : QuotaDenial)
  deriving DecidableEq

/-- The owner of a key, with the grant and the catalog of the snapshot the key came in. -/
structure Principal where
  traffic : Option TrafficSnapshot
  catalog : Option { catalog : CatalogSnapshot // catalog.validate = .ok () }
  key : Credential

/-- The labels of the usage of this gateway. -/
structure UsageSink where
  region : String
  modelRevision : String
  priceVersion : String

end Xscope.Gateway

namespace Xscope

open Gateway

structure Gateway where
  transports : List { config : ServingConfig // config.validate = .ok () }
  serving : { config : ServingConfig // config.validate = .ok () }
  /-- The answer of the quota worker; an error when it cannot be reached. -/
  quota : Principal → Nat → Except String (Option QuotaDecision)
  /-- The gate of the managed pools. -/
  enter : String → Int → Except String Unit
  usage : UsageSink
  billing : Option BillingAdmission
  /-- The number of tokens in the text of a value. -/
  tokens : Json → Nat

end Xscope

namespace Xscope.Gateway

open Serving Fleet

/-! ## Requests -/

inductive ErrorType where
  | httpStatus (status : Nat)
  | internalError
  deriving DecidableEq

structure Error where
  etype : ErrorType
  context : String
  deriving DecidableEq

def explain (status : Nat) (context : String) : Error := ⟨.httpStatus status, context⟩

structure ModelRequest where
  model : String
  messages : Json
  prompt : Option Json
  maxTokens : Option Nat
  maxCompletionTokens : Option Nat
  n : Option Nat
  stream : Bool
  deriving DecidableEq

/-- The names of the fields, in the order of a positional request. -/
def fieldNames : List String := ["model", "messages", "prompt", "max_tokens", "max_completion_tokens", "n", "stream"]

/-- The fields by name: those of an object, or positional ones, where only the last may be left out. -/
def requestFields : Json → Option (List (String × Json))
  | .obj members => some members
  | .arr items => if items.length = 6 ∨ items.length = 7 then some (fieldNames.zip items) else none
  | _ => none

/-- A field that may be left out or null. -/
def optional {α : Type} (decode : Json → Option α) : Option Json → Option (Option α)
  | none | some .null => some none
  | some value => (decode value).map some

/-- A flag that may be left out, but not null. -/
def flag : Option Json → Option Bool
  | none => some false
  | some (.bool value) => some value
  | _ => none

def modelRequest (body : Json) : Option ModelRequest := do
  let fields ← requestFields body
  let model ← (← fields.lookup "model").asStr
  let prompt ← optional some (fields.lookup "prompt")
  let maxTokens ← optional asU64 (fields.lookup "max_tokens")
  let maxCompletionTokens ← optional asU64 (fields.lookup "max_completion_tokens")
  let n ← optional asU64 (fields.lookup "n")
  let stream ← flag (fields.lookup "stream")
  pure
    { model := model, messages := (fields.lookup "messages").getD .null, prompt := prompt, maxTokens := maxTokens
      maxCompletionTokens := maxCompletionTokens, n := n, stream := stream }

def isArray : Json → Bool
  | .arr _ => true
  | _ => false

def isText : Json → Bool
  | .str text => !text.isEmpty
  | _ => false

/-- The body is the value its bytes are read as. -/
def parseRequest (body : Json) (textCompletion : Bool) : Except Error ModelRequest :=
  match modelRequest body with
  | none => .error (explain 400 "invalid request body")
  | some request =>
    if textCompletion then
      if request.messages ≠ .null ∨ request.maxCompletionTokens.isSome ∨ request.prompt.any isText = false then
        .error (explain 400 "text completions require one nonempty string prompt and max_tokens")
      else match request.prompt with
        | none => .error (explain 400 "missing prompt")
        | some prompt => .ok { request with messages := prompt, prompt := none }
    else if request.prompt.isSome ∨ isArray request.messages = false then
      .error (explain 400 "chat completions require messages array")
    else .ok request

/-- `n as u64`. -/
def castU64 (n : Int) : Nat := (n % 18446744073709551616).toNat

section
variable (tokens : Json → Nat)

def estimateReservedTokens (request : ModelRequest) : Nat :=
  let completion := (request.maxCompletionTokens.or request.maxTokens).getD 1024
  min (min (tokens request.messages + completion) u64Max) 10000000001

/-- The limits of the input and of the output. -/
def moneyTokenLimits (request : ModelRequest) (context : Int) : Except Error (Int × Int) :=
  let output := (request.maxCompletionTokens.or request.maxTokens).getD 1024
  if (request.maxCompletionTokens.isSome ∧ request.maxTokens.isSome) ∨ request.n.any (· ≠ 1) ∨ output = 0 ∨
      castU64 context ≤ output ∨ castU64 context < estimateReservedTokens tokens request then
    .error (explain 400 "ambiguous or excessive model token bounds")
  else if i64Max < output then .error (explain 400 "completion token bound is too large")
  else .ok (context - output, output)

end

/-! ## The body that is forwarded -/

def limitName (request : ModelRequest) : String :=
  if request.maxCompletionTokens.isSome then "max_completion_tokens" else "max_tokens"

/-- The body with the one bound of the output. -/
def boundTokens (request : ModelRequest) (output : Int) : Json → Except Error Json
  | .obj members =>
    let members := Json.remove "max_completion_tokens" (Json.remove "max_tokens" members)
    .ok (.obj (Json.assign (limitName request) (.int output) members))
  | _ => .error ⟨.internalError, "validated inference request is not an object"⟩

/-- The body that asks for the usage of its stream. -/
def includeUsage : Json → Except Error Json
  | .obj members =>
    let options := (members.lookup "stream_options").getD (.obj [])
    match if options = .null then .obj [] else options with
    | .obj options =>
      .ok (.obj (Json.assign "stream_options" (.obj (Json.assign "include_usage" (.bool true) options)) members))
    | _ => .error (explain 400 "stream_options must be an object")
  | _ => .error ⟨.internalError, "validated inference request is not an object"⟩

/-! ## The context of a request -/

/-- The text of a version 7 identifier. -/
structure Uuid where
  text : String
  length : text.utf8ByteSize = 36
  digits : text.toList.all (fun c => c.isAlphanum || c == '-') = true

structure RequestContext (codec : Codec) where
  requestId : String
  principal : Option Principal
  endpointId : String
  modelRevision : String
  policyRevision : Int
  selectedModel : Option { model : Model // model.validate = .ok () }
  selectedEndpoint : Option ServingEndpoint
  modelId : String
  requestBody : Json
  responseBody : List UInt8
  responseOverflow : Bool
  streamRequested : Bool
  textCompletion : Bool
  streamResponse : Bool
  streamMeter : StreamMeter codec
  responseComplete : Bool
  responseStatus : Nat
  meterable : Bool
  quotaReservation : Option QuotaReservation
  billingTicket : Option Ticket
  usagePermit : Option Delivery.Permit

variable {codec : Codec}

/-- The context of a request whose handling starts. -/
def RequestContext.default (codec : Codec) : RequestContext codec :=
  { requestId := "", principal := none, endpointId := "", modelRevision := "", policyRevision := 0
    selectedModel := none, selectedEndpoint := none, modelId := "unknown", requestBody := .null, responseBody := []
    responseOverflow := false, streamRequested := false, textCompletion := false, streamResponse := false
    streamMeter := .default codec, responseComplete := false, responseStatus := 0, meterable := false
    quotaReservation := none, billingTicket := none, usagePermit := none }

/-- The context of a request that was read, with its slot in the usage queue. -/
def RequestContext.arrived (codec : Codec) (requestId : String) (body : Json) (textCompletion : Bool)
    (permit : Delivery.Permit) :
    RequestContext codec :=
  { RequestContext.default codec with
    requestId := requestId, requestBody := body, textCompletion := textCompletion, usagePermit := some permit }

/-- The steps of the handling of one request; what a step wrote stays when a later one fails. -/
abbrev Handler (codec : Codec) (α : Type) := Session (RequestContext codec) Error α

def Principal.allowsModel (principal : Principal) (model : String) : Bool := principal.key.allowedModels.contains model

def Principal.routePolicy (principal : Principal) (model : String) : Option RoutePolicy :=
  principal.key.routePolicies.find? fun policy => policy.model = model

/-! ## Routing -/

theorem validateModels_valid {entries : List CatalogModel} {names models : List String}
    (h : validateModels names entries = .ok models) : ∀ entry ∈ entries, entry.model.validate = .ok () := by
  induction entries generalizing names with
  | nil =>
    intro entry held
    cases held
  | cons first rest ih =>
    unfold validateModels at h
    cases valid : first.model.validate with
    | error e =>
      rw [valid] at h
      cases h
    | ok u =>
      rw [valid] at h
      simp only [bind, Except.bind] at h
      split at h
      · cases h
      · intro entry held
        rcases List.mem_cons.1 held with rfl | held
        · exact valid
        · exact ih h entry held

theorem validateEndpoints_valid {endpoints : List ServingEndpoint} {models ids : List String}
    (h : validateEndpoints models ids endpoints = .ok ()) : ∀ endpoint ∈ endpoints, endpoint.validate = .ok () := by
  induction endpoints generalizing ids with
  | nil =>
    intro endpoint held
    cases held
  | cons first rest ih =>
    unfold validateEndpoints at h
    cases valid : first.validate with
    | error e =>
      rw [valid] at h
      cases h
    | ok u =>
      rw [valid] at h
      simp only [bind, Except.bind] at h
      split at h
      · cases h
      · intro endpoint held
        rcases List.mem_cons.1 held with rfl | held
        · exact valid
        · exact ih h endpoint held

theorem catalog_valid {catalog : CatalogSnapshot} (h : catalog.validate = .ok ()) :
    (∀ entry ∈ catalog.models, entry.model.validate = .ok ()) ∧
      ∀ endpoint ∈ catalog.endpoints, endpoint.validate = .ok () := by
  unfold CatalogSnapshot.validate at h
  cases named : validateModels [] catalog.models with
  | error e =>
    rw [named] at h
    cases h
  | ok models =>
    rw [named] at h
    exact ⟨validateModels_valid named, validateEndpoints_valid h⟩

/-- An entry with a definition that passed its validation. -/
abbrev ValidEntry := { entry : CatalogModel // entry.model.validate = .ok () }

/-- The entries of a catalog that passed its validation. -/
def validEntries (catalog : { catalog : CatalogSnapshot // catalog.validate = .ok () }) : List ValidEntry :=
  catalog.1.models.attachWith _ (catalog_valid catalog.2).1

def catalogEntry (catalog : { catalog : CatalogSnapshot // catalog.validate = .ok () })
    (model : String) : Option ValidEntry :=
  (validEntries catalog).find? fun m => m.1.model.id = model && m.1.enabled

variable (g : Gateway)

/-- The model of the catalog, if there is one, and the default pool. -/
def selectModel (principal : Principal) (model : String) : Handler codec (Option String) :=
  match principal.catalog with
  | some catalog => match catalogEntry catalog model with
    | none => Session.fail (explain 404 "model is unknown or disabled")
    | some entry => do
      Session.modify fun ctx => { ctx with selectedModel := some ⟨entry.1.model, entry.2⟩ }
      pure entry.1.defaultPool
  | none =>
    if g.serving.1.model = model then pure (some g.serving.1.id)
    else match g.transports.filter fun t => t.1.model = model with
      | [transport] => pure (some transport.1.id)
      | _ => pure none

/-- The endpoint of the catalog with this id, otherwise the static pool. -/
def selectPool (principal : Principal) (model poolId : String) : Handler codec Unit :=
  match principal.catalog.bind fun catalog => catalog.1.endpoints.find? fun e => e.id = poolId with
  | some endpoint => do
    Session.reject (endpoint.model ≠ model) (explain 503 "pool model does not match request")
    Session.modify fun ctx => { ctx with modelRevision := endpoint.revision, selectedEndpoint := some endpoint }
  | none => match (g.transports.find? fun t => t.1.id = poolId).filter fun t => t.1.model = model with
    | none => Session.fail (explain 503 "selected model pool is unavailable")
    | some pool => Session.modify fun ctx => { ctx with modelRevision := pool.1.revision }

def enterPool (principal : Principal) (poolId : String) : Handler codec Unit :=
  if managed poolId then
    match principal.traffic.bind fun grant => grant.pools.find? fun p => p.id = poolId with
    | none => Session.fail (explain 503 "managed pool requires a traffic grant")
    | some pool => match g.enter poolId pool.generation with
      | .error reason => Session.fail (explain 503 reason)
      | .ok () => pure ()
  else pure ()

/-- The pool of the policy for the model, otherwise the default one. -/
def choosePool (principal : Principal) (model : String) (headers : HeaderRoute → Bool) (roll : UInt8)
    (defaultPool : Option String) :
    Handler codec String :=
  match principal.routePolicy model with
  | some policy => do
    Session.modify fun ctx => { ctx with policyRevision := policy.revision }
    pure (policy.spec.select headers roll).1
  | none => Session.lift (defaultPool.elim (.error (explain 503 "model has no default serving pool")) .ok)

/-- The routing of an authenticated request whose body has been read. -/
def routeRequest (headers : HeaderRoute → Bool) (roll : UInt8) (principal : Principal) : Handler codec Unit := do
  let ctx ← Session.get
  let request ← Session.lift (parseRequest ctx.requestBody ctx.textCompletion)
  Session.reject (principal.allowsModel request.model = false)
    (explain 403 "API key does not allow the requested model")
  let defaultPool ← g.selectModel principal request.model
  let poolId ← choosePool principal request.model headers roll defaultPool
  g.selectPool principal request.model poolId
  Session.modify fun ctx => { ctx with endpointId := poolId }
  g.enterPool principal poolId
  Session.modify fun ctx => { ctx with principal := some principal }

/-! ## Admission -/

/-- The smaller one of the two contexts. -/
def contextTokens (billing : BillingAdmission) (selected : Option { model : Model // model.validate = .ok () }) : Int :=
  match selected with
  | none => billing.contextTokens
  | some model => min model.1.maxContextTokens billing.contextTokens

/-- The bound of the output, in the ticket and in the body that is forwarded. -/
def boundBody (billing : BillingAdmission) (request : ModelRequest) : Handler codec (Int × Int) := do
  let ctx ← Session.get
  let limits ← Session.lift (moneyTokenLimits g.tokens request (contextTokens billing ctx.selectedModel))
  let body ← Session.lift (boundTokens request limits.2 ctx.requestBody)
  Session.modify fun ctx => { ctx with requestBody := body }
  pure limits

def askForUsage : Handler codec Unit := do
  let ctx ← Session.get
  let body ← Session.lift (includeUsage ctx.requestBody)
  Session.modify fun ctx => { ctx with requestBody := body }

def reserveQuota (principal : Principal) (requestedTokens : Nat) : Handler codec Unit :=
  match g.quota principal requestedTokens with
  | .ok (some (.allowed reservation)) => Session.modify fun ctx => { ctx with quotaReservation := some reservation }
  | .ok (some (.denied .requestsPerMinute)) => Session.fail (explain 429 "API key distributed RPM limit exceeded")
  | .ok (some (.denied .tokensPerMinute)) => Session.fail (explain 429 "API key distributed TPM limit exceeded")
  | .ok none => pure ()
  | .error _ => Session.fail (explain 503 "distributed quota service unavailable")

/-- The hold of a request. The identity is the gateway's own, never one of the client. -/
def reservation (principal : Principal) (billing : BillingAdmission) (request : ModelRequest)
    (ctx : RequestContext codec) (limits : Int × Int) (uuid : Uuid) : ReserveRequest :=
  { id := "req-" ++ uuid.text, requestId := "req-" ++ uuid.text, tenantId := principal.key.tenantId
    projectId := principal.key.projectId, apiKeyId := principal.key.apiKeyId, modelId := request.model
    modelRevision := ctx.modelRevision
    priceVersion := match ctx.selectedModel with
      | none => billing.priceVersion
      | some model => model.1.priceVersion
    inputTokenLimit := limits.1, outputTokenLimit := limits.2 }

def publicStatus (status : Nat) : Nat := if status ∈ [400, 402, 403, 422] then status else 503

def reserveHold (principal : Principal) (billing : BillingAdmission) (request : ModelRequest) (limits : Int × Int)
    (uuid : Uuid) :
    Handler codec Unit := do
  let ctx ← Session.get
  Session.reject (ctx.usagePermit = none) ⟨.internalError, "billing admission has no usage queue permit"⟩
  let ticket ← Session.lift <| match billing.admit (reservation principal billing request ctx limits uuid) with
    | .ok ticket => .ok ticket
    | .error status => .error (explain (publicStatus status) "financial admission rejected or unavailable")
  Session.modify fun ctx => { ctx with billingTicket := some ticket }

/-- With money billing the output is bounded. -/
def boundRequest (request : ModelRequest) : Handler codec (Option (Int × Int)) := match g.billing with
  | some billing => some <$> g.boundBody billing request
  | none => pure none

def askRequest (request : ModelRequest) : Handler codec Unit := if request.stream then askForUsage else pure ()

def holdRequest (principal : Principal) (request : ModelRequest) (limits : Option (Int × Int))
    (uuid : Uuid) : Handler codec Unit :=
  match g.billing, limits with
  | some billing, some limits => reserveHold principal billing request limits uuid
  | _, _ => pure ()

def admitRequest (uuid : Uuid) : Handler codec Unit := do
  let ctx ← Session.get
  let request ← Session.lift (parseRequest ctx.requestBody ctx.textCompletion)
  let principal ← Session.lift (ctx.principal.elim (.error (explain 401 "request principal is missing")) .ok)
  Session.reject (principal.allowsModel request.model = false)
    (explain 403 "API key does not allow the requested model")
  Session.modify fun ctx => { ctx with streamRequested := request.stream }
  let limits ← g.boundRequest request
  askRequest request
  g.reserveQuota principal (estimateReservedTokens g.tokens request)
  g.holdRequest principal request limits uuid
  Session.modify fun ctx => { ctx with modelId := request.model, meterable := true }

end Xscope.Gateway

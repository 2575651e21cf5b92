/-
The final report of an admitted request: the usage event the gateway records when the response is
over, the request its delivery makes of it, and whether the control plane takes that request. A
settlement names the endpoint and the region, which the gateway has from its own configuration and
does not check the way the control plane does.
-/
import Xscope.Billing.Reservation
import Xscope.Gateway.Admission
import Xscope.Serving.Acceptance

namespace Xscope.Gateway

/-! ## The outcome -/

inductive ErrorSource where
  | upstream
  | downstream
  | internal
  | unset
  deriving DecidableEq

/-- The usage of a response that is not a stream. -/
def completionResponse : Json → Option CompletionUsage
  | .obj members => (members.lookup "usage").bind completionUsage
  | .arr [usage] => completionUsage usage
  | _ => none

variable {codec : Codec}

section
variable (fromSlice : List UInt8 → Option Json)

def actualUsage (ctx : RequestContext codec) : Option CompletionUsage :=
  if ctx.streamResponse then ctx.streamMeter.usage
  else if ctx.responseOverflow then none
  else (fromSlice ctx.responseBody).bind completionResponse

def outcome (error : Option ErrorSource) (ctx : RequestContext codec) : String :=
  if error = some .downstream then "cancelled"
  else if error.isSome ∨ 500 ≤ ctx.responseStatus ∨ ctx.streamMeter.invalid then "provider_error"
  else if 400 ≤ ctx.responseStatus then "client_error"
  else if ctx.responseComplete = false ∨ (ctx.streamRequested ∧
    (ctx.streamResponse = false ∨ ctx.streamMeter.done = false)) then
    "provider_error"
  else if (actualUsage fromSlice ctx).isNone then "usage_pending"
  else "succeeded"

/-! ## The event -/

structure UsageEvent where
  billing : Option Ticket
  usageKnown : Bool
  schemaVersion : String
  eventId : String
  requestId : String
  occurredAt : Int
  tenantId : String
  projectId : String
  apiKeyId : String
  modelId : String
  modelRevision : String
  endpointId : String
  region : String
  priceVersion : String
  inputTokens : Nat
  outputTokens : Nat
  cachedInputTokens : Nat
  latencyMs : Nat
  status : String
  deriving DecidableEq

/-- The end of a request: when it is over, how long it took, and why it stopped early. -/
structure Ending where
  occurredAt : Int
  elapsedMs : Nat
  error : Option ErrorSource
  uuid : Uuid

def usageEvent (sink : UsageSink) (principal : Principal) (ending : Ending) (ctx : RequestContext codec) : UsageEvent :=
  let usage := (actualUsage fromSlice ctx).getD ⟨0, 0⟩
  { billing := ctx.billingTicket, usageKnown := (actualUsage fromSlice ctx).isSome
    schemaVersion := if ctx.billingTicket.isSome then "v2" else "v1"
    eventId := "evt-" ++ ending.uuid.text, requestId := ctx.requestId, occurredAt := ending.occurredAt
    tenantId := principal.key.tenantId, projectId := principal.key.projectId, apiKeyId := principal.key.apiKeyId
    modelId := ctx.modelId
    modelRevision := if ctx.modelRevision.isEmpty then sink.modelRevision else ctx.modelRevision
    endpointId := ctx.endpointId, region := sink.region
    priceVersion := match ctx.selectedModel with
      | none => sink.priceVersion
      | some model => model.1.priceVersion
    inputTokens := usage.promptTokens, outputTokens := usage.completionTokens, cachedInputTokens := 0
    latencyMs := min ending.elapsedMs u64Max, status := outcome fromSlice ending.error ctx }

/-- The event handed to the queue with its permit; nothing for a request that was not admitted. -/
def emitUsage (g : Gateway) (ending : Ending) (ctx : RequestContext codec) :
    Except Error (Option (UsageEvent × Delivery.Permit)) :=
  if ctx.meterable = false then .ok none
  else match ctx.principal with
    | none => .ok none
    | some principal => match ctx.usagePermit with
      | none => .error ⟨.internalError, "missing usage permit"⟩
      | some permit => .ok (some (usageEvent fromSlice g.usage principal ending ctx, permit))

end

/-! ## Its delivery -/

inductive Report where
  | usage (event : UsageEvent)
  | settle (request : SettleRequest)
  | unresolved (request : UnresolvedRequest)
  deriving DecidableEq

structure Post where
  url : String
  body : Report
  deriving DecidableEq

/-- The text without its ending. -/
def stripSuffix (text suffix : String) : Option String :=
  if suffix.toList <:+ text.toList then
    some (String.ofList (text.toList.take (text.toList.length - suffix.toList.length))) else none

/-- `i64::try_from`. -/
def tryI64 (n : Nat) : Except Delivery.DeliveryError Int := if (n : Int) ≤ i64Max then .ok n
    else .error (.permanent 400)

def settledStatus (status : String) : String :=
  if status = "succeeded" then "succeeded" else if status = "cancelled" then "cancelled" else "provider_error"

/-- The usage is known and within the limits of the ticket. -/
def withinTicket (event : UsageEvent) (ticket : Ticket) : Bool :=
  event.usageKnown && decide (event.inputTokens ≤ castU64 ticket.inputTokenLimit) &&
    decide (event.outputTokens ≤ castU64 ticket.outputTokenLimit)

/-- The request that reports an event. -/
def deliver (reportUrl : String) (event : UsageEvent) : Except Delivery.DeliveryError Post :=
  match event.billing with
  | none => if event.schemaVersion = "v1" then .ok ⟨reportUrl, .usage event⟩ else .error (.permanent 400)
  | some ticket =>
    if event.schemaVersion ≠ "v2" then .error (.permanent 400)
    else match stripSuffix reportUrl "/usage-events" with
      | none => .error (.permanent 0)
      | some base =>
        let url := base ++ "/billing/projects/" ++ ticket.projectId ++ "/reservations/" ++ ticket.id
        if withinTicket event ticket = true then do
          let inputTokens ← tryI64 event.inputTokens
          let outputTokens ← tryI64 event.outputTokens
          let latencyMs ← tryI64 event.latencyMs
          pure ⟨url ++ "/settle", .settle ⟨inputTokens, outputTokens, latencyMs, event.endpointId, event.region,
            settledStatus event.status⟩⟩
        else
          let tokens n := if event.usageKnown then some n else none
          .ok ⟨url ++ "/unresolved", .unresolved
            ⟨event.eventId, if event.usageKnown then "usage_over_limit"
              else "usage_missing", tokens event.inputTokens, tokens event.outputTokens⟩⟩

/-! ## What the control plane takes -/

/-- The check of `settle_locked`, or that of `unresolved_money`. -/
def Report.accepted : Report → Bool
  | .usage _ => true
  | .settle request => request.wellFormed
  | .unresolved request => request.wellFormed

/-- The report a ticket and its usage call for, taken by the control plane. -/
structure Accepted (base : String) (ticket : Ticket) (usage : Option CompletionUsage) (post : Post) : Prop where
  taken : post.body.accepted = true
  reservation : identifier ticket.id = true
  target : ∃ action, post.url = base ++ "/billing/projects/" ++ ticket.projectId ++ "/reservations/" ++
    ticket.id ++ action
  settles : ∀ u, usage = some u → (u.promptTokens : Int) ≤ ticket.inputTokenLimit →
    (u.completionTokens : Int) ≤ ticket.outputTokenLimit →
    ∃ request, post.body = .settle request ∧ request.inputTokens = u.promptTokens ∧
      request.outputTokens = u.completionTokens
  exceeds : ∀ u, usage = some u → ¬((u.promptTokens : Int) ≤ ticket.inputTokenLimit ∧
    (u.completionTokens : Int) ≤ ticket.outputTokenLimit) →
    ∃ event, post.body = .unresolved ⟨event, "usage_over_limit", some u.promptTokens, some u.completionTokens⟩
  misses : usage = none → ∃ event, post.body = .unresolved ⟨event, "usage_missing", none, none⟩

/-- What is left of a context when the response is over: what the filters of the response wrote. -/
structure Response (codec : Codec) where
  body : List UInt8
  overflow : Bool
  stream : Bool
  meter : StreamMeter codec
  complete : Bool
  status : Nat

def RequestContext.respond (ctx : RequestContext codec) (r : Response codec) : RequestContext codec :=
  { ctx with
    responseBody := r.body, responseOverflow := r.overflow, streamResponse := r.stream, streamMeter := r.meter
    responseComplete := r.complete, responseStatus := r.status }

/-- A settlement that fails the check is refused whatever the reservation is. -/
theorem settleLocked_refused {call : Call} {account : BillingAccount} {row : Reservation}
    {request : SettleRequest} (db : Db) (h : request.wellFormed = false) :
    settleLocked call account row request db =
      .error (.invalid "settlement requires known, nonnegative usage and a final outcome") := by
  unfold settleLocked
  rw [Tx.bind_of_error (Tx.reject_of h)]

/-! ## Identifiers -/

theorem identifier_of_catalog {value : String} (h : Catalog.identifier value = true) : identifier value = true := by
  unfold Catalog.identifier identifierWith at h
  unfold identifier identifierWith
  rw [Bool.and_eq_true] at h ⊢
  refine ⟨h.1, List.all_eq_true.2 fun c held => ?_⟩
  have shown := List.all_eq_true.1 h.2 c held
  rw [Bool.or_eq_true] at shown ⊢
  refine shown.imp_right fun extra => ?_
  simp only [List.contains_eq_mem, List.mem_cons, List.not_mem_nil, or_false, decide_eq_true_eq] at extra ⊢
  tauto

/-- A short prefix and a generated identifier make an identifier. -/
theorem identifier_uuid {start : String} (named : identifier start = true) (short : start.utf8ByteSize ≤ 92)
    (uuid : Uuid) :
    identifier (start ++ uuid.text) = true := by
  have length := uuid.length
  unfold identifier identifierWith at named ⊢
  simp only [Bool.and_eq_true, Bool.not_eq_true', decide_eq_true_eq] at named ⊢
  obtain ⟨⟨nonempty, -⟩, letters⟩ := named
  refine ⟨⟨?_, ?_⟩, ?_⟩
  · rw [String.isEmpty_eq_false_iff] at nonempty ⊢
    intro empty
    exact nonempty (String.append_eq_empty_iff.1 empty).1
  · rw [String.utf8ByteSize_append]
    omega
  · rw [String.toList_append, List.all_append, letters, Bool.true_and]
    refine List.all_eq_true.2 fun c held => ?_
    have digit := List.all_eq_true.1 uuid.digits c held
    rw [Bool.or_eq_true] at digit ⊢
    refine digit.imp_right fun dash => ?_
    rw [beq_iff_eq] at dash
    rw [dash]
    rfl

theorem stripSuffix_append (base suffix : String) : stripSuffix (base ++ suffix) suffix = some base := by
  unfold stripSuffix
  rw [String.toList_append, if_pos (List.suffix_append _ _), List.length_append, Nat.add_sub_cancel, List.take_left',
    String.ofList_toList]
  rfl

/-! ## Routes -/

section
variable {g : Gateway} {ctx ctx' : RequestContext codec} {principal : Principal}

theorem selectModel_endpoint {model : String} {pool : Option String}
    (h : g.selectModel principal model ctx = (.ok pool, ctx')) :
    ctx'.selectedEndpoint = ctx.selectedEndpoint := by
  unfold selectModel at h
  cases known : principal.catalog with
  | some catalog =>
    rw [known] at h
    cases found : catalogEntry catalog model with
    | none =>
      simp only [found] at h
      cases h
    | some entry =>
      simp only [found] at h
      cases h
      rfl
  | none =>
    rw [known] at h
    by_cases own : g.serving.1.model = model
    · simp only [if_pos own] at h
      cases h
      rfl
    · simp only [if_neg own] at h
      generalize (g.transports.filter fun t => t.1.model = model) = matching at h
      rcases matching with _ | ⟨transport, _ | ⟨second, rest⟩⟩ <;> (cases h; rfl)

theorem choosePool_endpoint {model pool : String} {headers : Serving.HeaderRoute → Bool} {roll : UInt8}
    {defaultPool : Option String} (h : choosePool principal model headers roll defaultPool ctx = (.ok pool, ctx')) :
    ctx'.selectedEndpoint = ctx.selectedEndpoint := by
  unfold choosePool at h
  cases chosen : principal.routePolicy model with
  | some policy =>
    rw [chosen] at h
    cases h
    rfl
  | none =>
    rw [chosen] at h
    cases defaultPool with
    | none => cases h
    | some pool =>
      cases h
      rfl

/-- A pool of the catalog has an identifier of the catalog. -/
theorem selectPool_endpoint {model pool : String} (h : g.selectPool principal model pool ctx = (.ok (), ctx')) :
    ctx'.selectedEndpoint = ctx.selectedEndpoint ∨ Catalog.identifier pool = true := by
  unfold selectPool at h
  cases found : principal.catalog.bind fun catalog => catalog.1.endpoints.find? fun e => e.id = pool with
  | some endpoint =>
    rw [Option.bind_eq_some_iff] at found
    obtain ⟨catalog, -, found⟩ := found
    have named : endpoint.id = pool := by simpa using List.find?_some found
    have valid := (catalog_valid catalog.2).2 endpoint (List.mem_of_find?_eq_some found)
    rw [← named]
    exact .inr (Serving.validate_identifier valid)
  | none =>
    simp only [found] at h
    cases held : (g.transports.find? fun t => t.1.id = pool).filter fun t => t.1.model = model with
    | none =>
      simp only [held] at h
      cases h
    | some transport =>
      simp only [held] at h
      cases h
      exact .inl rfl

theorem enterPool_same {pool : String} (h : g.enterPool principal pool ctx = (.ok (), ctx')) : ctx' = ctx := by
  unfold enterPool at h
  split at h
  · cases granted : principal.traffic.bind fun grant => grant.pools.find? fun p => p.id = pool with
    | none =>
      simp only [granted] at h
      cases h
    | some control =>
      simp only [granted] at h
      cases entered : g.enter pool control.generation with
      | error reason =>
        simp only [entered] at h
        cases h
      | ok u =>
        simp only [entered] at h
        cases h
        rfl
  · cases h
    rfl

/-- A route to an endpoint of the catalog has the identifier the catalog checked. -/
theorem routeRequest_identifier {headers : Serving.HeaderRoute → Bool} {roll : UInt8}
    (fresh : ctx.selectedEndpoint = none) (h : g.routeRequest headers roll principal ctx = (.ok (), ctx'))
    (found : ctx'.selectedEndpoint ≠ none) :
    identifier ctx'.endpointId = true := by
  unfold routeRequest at h
  rw [Session.get_bind] at h
  obtain ⟨request, -, h⟩ := Session.lift_bind_ok.1 h
  obtain ⟨-, h⟩ := Session.reject_bind_ok.1 h
  obtain ⟨defaultPool, ctx1, modelled, h⟩ := Session.bind_ok h
  obtain ⟨pool, ctx2, chosen, h⟩ := Session.bind_ok h
  obtain ⟨⟨⟩, ctx3, selected, h⟩ := Session.bind_ok h
  rw [Session.modify_bind] at h
  obtain ⟨⟨⟩, ctx4, entered, h⟩ := Session.bind_ok h
  cases h
  rw [enterPool_same entered] at found ⊢
  rcases selectPool_endpoint selected with same | named
  · exact absurd (same.trans ((choosePool_endpoint chosen).trans ((selectModel_endpoint modelled).trans fresh))) found
  · exact identifier_of_catalog named

end

/-! ## The report of a ticket -/

/-- The usage is known and within the limits of the ticket. -/
def Ticket.Covers (ticket : Ticket) (usage : Option CompletionUsage) : Prop :=
  ∃ u, usage = some u ∧ (u.promptTokens : Int) ≤ ticket.inputTokenLimit ∧
    (u.completionTokens : Int) ≤ ticket.outputTokenLimit

/-- The event of a request with this ticket and usage. -/
structure Ticketed (ticket : Ticket) (usage : Option CompletionUsage) (event : UsageEvent) : Prop where
  billing : event.billing = some ticket
  schema : event.schemaVersion = "v2"
  known : event.usageKnown = usage.isSome
  counts : ∀ u, usage = some u → event.inputTokens = u.promptTokens ∧ event.outputTokens = u.completionTokens
  input : 0 < ticket.inputTokenLimit ∧ ticket.inputTokenLimit ≤ i64Max
  output : 0 < ticket.outputTokenLimit ∧ ticket.outputTokenLimit ≤ i64Max
  reservation : identifier ticket.id = true
  named : identifier event.eventId = true

section
variable {base : String} {ticket : Ticket} {usage : Option CompletionUsage} {event : UsageEvent}

def Ticket.url (base : String) (ticket : Ticket) : String :=
  base ++ "/billing/projects/" ++ ticket.projectId ++ "/reservations/" ++ ticket.id

theorem withinTicket_covers (t : Ticketed ticket usage event) :
    withinTicket event ticket = true ↔ ticket.Covers usage := by
  have input := castU64_of_pos t.input.1 t.input.2
  have output := castU64_of_pos t.output.1 t.output.2
  unfold withinTicket Ticket.Covers
  rw [t.known, Bool.and_eq_true, Bool.and_eq_true, decide_eq_true_eq, decide_eq_true_eq]
  constructor
  · rintro ⟨⟨known, below⟩, below'⟩
    obtain ⟨u, rfl⟩ := Option.isSome_iff_exists.1 known
    obtain ⟨prompt, completion⟩ := t.counts u rfl
    exact ⟨u, rfl, by omega, by omega⟩
  · rintro ⟨u, rfl, below, below'⟩
    obtain ⟨prompt, completion⟩ := t.counts u rfl
    exact ⟨⟨rfl, by omega⟩, by omega⟩

/-- A covered usage is settled, unless its latency is out of range. -/
theorem deliver_settle (t : Ticketed ticket usage event) (covered : ticket.Covers usage) :
    deliver (base ++ "/usage-events") event =
      if (event.latencyMs : Int) ≤ i64Max then
        .ok ⟨ticket.url base ++ "/settle", .settle
          ⟨event.inputTokens, event.outputTokens, event.latencyMs, event.endpointId, event.region,
            settledStatus event.status⟩⟩
      else .error (.permanent 400) := by
  obtain ⟨u, rfl, below, below'⟩ := id covered
  obtain ⟨prompt, completion⟩ := t.counts u rfl
  have input : tryI64 event.inputTokens = .ok (event.inputTokens : Int) := if_pos (by have := t.input.2; omega)
  have output : tryI64 event.outputTokens = .ok (event.outputTokens : Int) := if_pos (by have := t.output.2; omega)
  unfold deliver
  rw [t.billing]
  simp only [t.schema, ne_eq, not_true_eq_false, if_false, stripSuffix_append, (withinTicket_covers t).2 covered,
    if_true, input, output]
  unfold tryI64
  split <;> rfl

/-- Any other usage is left unresolved, with the counts if they are known. -/
theorem deliver_unresolved (t : Ticketed ticket usage event) (uncovered : ¬ticket.Covers usage) :
    deliver (base ++ "/usage-events") event =
      .ok ⟨ticket.url base ++ "/unresolved", .unresolved
        ⟨event.eventId, if usage.isSome then "usage_over_limit" else "usage_missing",
          usage.map CompletionUsage.promptTokens, usage.map CompletionUsage.completionTokens⟩⟩ := by
  have outside : ¬withinTicket event ticket = true := fun within => uncovered ((withinTicket_covers t).1 within)
  unfold deliver
  rw [t.billing]
  simp only [t.schema, ne_eq, not_true_eq_false, if_false, stripSuffix_append, if_neg outside, t.known]
  cases usage with
  | none => rfl
  | some u =>
    obtain ⟨prompt, completion⟩ := t.counts u rfl
    rw [prompt, completion]
    rfl

theorem settledStatus_final (status : String) :
    ["succeeded", "cancelled", "provider_error"].contains (settledStatus status) = true := by
  unfold settledStatus
  split
  · rfl
  · split <;> rfl

/-- A report is taken exactly when a settlement names an endpoint and a region the control plane knows as
identifiers. -/
theorem deliver_accepted (t : Ticketed ticket usage event) :
    (∃ post, deliver (base ++ "/usage-events") event = .ok post ∧ Accepted base ticket usage post) ↔
      (ticket.Covers usage → identifier event.endpointId = true ∧ identifier event.region = true ∧
        (event.latencyMs : Int) ≤ i64Max) := by
  by_cases covered : ticket.Covers usage
  · rw [deliver_settle t covered]
    obtain ⟨u, rfl, below, below'⟩ := id covered
    obtain ⟨prompt, completion⟩ := t.counts u rfl
    have status := settledStatus_final event.status
    constructor
    · rintro ⟨post, sent, accepted⟩ _
      split at sent
      · rename_i fits
        cases sent
        have taken := accepted.taken
        simp only [Report.accepted, SettleRequest.wellFormed, Bool.and_eq_true] at taken
        obtain ⟨⟨⟨-, endpoint⟩, region⟩, -⟩ := taken
        exact ⟨endpoint, region, fits⟩
      · cases sent
    · intro meets
      obtain ⟨endpoint, region, fits⟩ := meets covered
      rw [if_pos fits]
      refine ⟨_, rfl, ?_, t.reservation, ⟨"/settle", rfl⟩, ?_, ?_, ?_⟩
      · simp only [Report.accepted, SettleRequest.wellFormed, endpoint, region, status, Bool.and_true,
          Bool.and_eq_true, decide_eq_true_eq]
        omega
      · intro v same _ _
        cases same
        exact ⟨_, rfl, by rw [prompt], by rw [completion]⟩
      · intro v same exceeds
        cases same
        exact absurd ⟨below, below'⟩ exceeds
      · intro missing
        cases missing
  · rw [deliver_unresolved t covered]
    constructor
    · intro _ no
      exact absurd no covered
    · intro _
      refine ⟨_, rfl, ?_, t.reservation, ⟨"/unresolved", rfl⟩, ?_, ?_, ?_⟩
      · cases usage <;> simp [Report.accepted, UnresolvedRequest.wellFormed, t.named]
      · intro u same below below'
        exact absurd ⟨u, same, below, below'⟩ covered
      · rintro u rfl _
        exact ⟨_, rfl⟩
      · rintro rfl
        exact ⟨_, rfl⟩

end

/-! ## The report of an admitted request -/

section
variable {g : Gateway} {billing : BillingAdmission} {uuid : Uuid} {ctx ctx' : RequestContext codec}

/-- What an admission leaves for the report. -/
theorem Admits.result (h : Admits g billing uuid ctx ctx') :
    ∃ principal permit ticket, ctx'.principal = some principal ∧ ctx'.usagePermit = some permit ∧
      ctx'.billingTicket = some ticket ∧
      ctx'.meterable = true ∧ ctx'.endpointId = ctx.endpointId ∧ ticket.id = "req-" ++ uuid.text ∧
      (0 < ticket.inputTokenLimit ∧ ticket.inputTokenLimit ≤ i64Max) ∧ 0 < ticket.outputTokenLimit ∧
        ticket.outputTokenLimit ≤ i64Max := by
  cases h with
  | intro principal request limits body forwarded quota owner parsed limited bounded asked permitted reserved =>
    obtain ⟨permit, permitted⟩ := Option.ne_none_iff_exists'.1 permitted
    obtain ⟨positive, fits⟩ := contextTokens_bounded billing ctx.selectedModel
    obtain ⟨input, output, sum, -⟩ := moneyTokenLimits_ok positive fits limited
    refine ⟨principal, permit, _, owner, permitted, rfl, rfl, rfl, rfl, ?_⟩
    dsimp only
    omega

/-- After its admission a request has its event, whatever its response was. -/
theorem emitUsage_ticketed (fromSlice : List UInt8 → Option Json) (h : Admits g billing uuid ctx ctx')
    (r : Response codec) (ending : Ending) :
    ∃ ticket event permit, ctx'.billingTicket = some ticket ∧
      emitUsage fromSlice g ending (ctx'.respond r) = .ok (some (event, permit)) ∧
      Ticketed ticket (actualUsage fromSlice (ctx'.respond r)) event ∧
      event.endpointId = ctx.endpointId ∧ event.region = g.usage.region ∧
        event.latencyMs = min ending.elapsedMs u64Max := by
  obtain ⟨principal, permit, ticket, owner, permitted, held, meterable, endpoint, named, input, output⟩ := h.result
  refine ⟨ticket, usageEvent fromSlice g.usage principal ending (ctx'.respond r), permit, held, ?_, ?_,
    endpoint, rfl, rfl⟩
  · have metered : (ctx'.respond r).meterable = true := meterable
    have owned : (ctx'.respond r).principal = some principal := owner
    have slot : (ctx'.respond r).usagePermit = some permit := permitted
    unfold emitUsage
    rw [if_neg (by rw [metered]; decide)]
    simp only [owned, slot]
  · have ticketed : (ctx'.respond r).billingTicket = some ticket := held
    refine ⟨ticketed, ?_, rfl, ?_, input, output, ?_, identifier_uuid (by decide) (by decide) _⟩
    · unfold usageEvent
      rw [ticketed]
      rfl
    · intro u known
      unfold usageEvent
      rw [known]
      exact ⟨rfl, rfl⟩
    · rw [named]
      exact identifier_uuid (by decide) (by decide) uuid

/-- The final report of a routed and admitted request is taken unless it is a settlement that names a static
pool or a region that is no identifier, or that took longer than a latency can say. -/
theorem deliver_taken_iff (fromSlice : List UInt8 → Option Json) (base requestId : String) (body : Json)
    (textCompletion : Bool) (permit : Delivery.Permit) (headers : Serving.HeaderRoute → Bool) (roll : UInt8)
    (principal : Principal) (r : Response codec) (ending : Ending) (on : g.billing = some billing)
    (routed : g.routeRequest headers roll principal (.arrived codec requestId body textCompletion permit) =
    (.ok (), ctx))
    (admitted : g.admitRequest uuid ctx = (.ok (), ctx')) :
    ∃ ticket event slot, ctx'.billingTicket = some ticket ∧
      emitUsage fromSlice g ending (ctx'.respond r) = .ok (some (event, slot)) ∧
      ((∃ post, deliver (base ++ "/usage-events") event = .ok post ∧
          Accepted base ticket (actualUsage fromSlice (ctx'.respond r)) post) ↔
        (ticket.Covers (actualUsage fromSlice (ctx'.respond r)) →
          (ctx.selectedEndpoint = none → identifier ctx.endpointId = true) ∧ identifier g.usage.region = true ∧
            (ending.elapsedMs : Int) ≤ i64Max)) := by
  obtain ⟨ticket, event, slot, held, emitted, t, endpoint, region, latency⟩ :=
    emitUsage_ticketed fromSlice (admitRequest_ok on admitted) r ending
  refine ⟨ticket, event, slot, held, emitted, ?_⟩
  rw [deliver_accepted t, endpoint, region, latency]
  have catalogued : ctx.selectedEndpoint ≠ none → identifier ctx.endpointId = true := routeRequest_identifier rfl routed
  have named : identifier ctx.endpointId = true ↔ (ctx.selectedEndpoint = none → identifier ctx.endpointId = true) := by
    constructor
    · intro id _
      exact id
    · intro static
      by_cases h : ctx.selectedEndpoint = none
      · exact static h
      · exact catalogued h
  have fits : ((min ending.elapsedMs u64Max : Nat) : Int) ≤ i64Max ↔ (ending.elapsedMs : Int) ≤ i64Max := by
    unfold u64Max i64Max
    omega
  rw [← named, fits]

end

/-! ## Samples -/

/-- The owner of a configured key, whose snapshot has no catalog. -/
def samplePrincipal : Principal := ⟨none, none, sampleKey⟩

def sampleArrival : RequestContext sampleCodec := .arrived sampleCodec "trace-1" sampleBody true ⟨0, 1⟩

/-- A stream that ends with a usage of two and three tokens. -/
def sampleResponse : Response sampleCodec :=
  { body := [], overflow := false, stream := true, meter := (StreamMeter.default sampleCodec).observeAll sampleChunks
    complete := true, status := 200 }

def sampleEnding : Ending := ⟨0, 120, none, sampleUuid⟩

/-- The sample at a gateway: routed, admitted, and reported. -/
def routedContext (g : Gateway) : RequestContext sampleCodec :=
  (g.routeRequest (fun _ => false) 0 samplePrincipal sampleArrival).2

def admittedContext (g : Gateway) : RequestContext sampleCodec := (g.admitRequest sampleUuid (routedContext g)).2

def finalReport (g : Gateway) : Option (Except Delivery.DeliveryError Post) :=
  match emitUsage (fun _ => none) g sampleEnding ((admittedContext g).respond sampleResponse) with
  | .ok (some (event, _)) => some (deliver "http://control/usage-events" event)
  | _ => none

def finalUsage (g : Gateway) : Option CompletionUsage := actualUsage (fun _ => none)
    ((admittedContext g).respond sampleResponse)

/-- The usage of the sample is settled, and the settlement is taken. -/
theorem sample_taken :
    ∃ ticket event slot, (admittedContext sampleGateway).billingTicket = some ticket ∧
      emitUsage (fun _ => none) sampleGateway sampleEnding ((admittedContext sampleGateway).respond sampleResponse) =
        .ok (some (event, slot)) ∧
      ∃ post, deliver ("http://control" ++ "/usage-events") event = .ok post ∧
        Accepted "http://control" ticket (actualUsage (fun _ => none)
          ((admittedContext sampleGateway).respond sampleResponse)) post := by
  have routed : (sampleGateway.routeRequest (fun _ => false) 0 samplePrincipal sampleArrival).1 = .ok () := by
    decide +kernel
  have admitted : (sampleGateway.admitRequest sampleUuid (routedContext sampleGateway)).1 = .ok () := by decide +kernel
  have named : identifier (routedContext sampleGateway).endpointId = true := by decide +kernel
  obtain ⟨ticket, event, slot, held, emitted, taken⟩ :=
    deliver_taken_iff (fun _ => none) "http://control" "trace-1" sampleBody true ⟨0, 1⟩
    (fun _ => false) 0 samplePrincipal sampleResponse sampleEnding rfl (Prod.ext routed rfl) (Prod.ext admitted rfl)
  exact ⟨ticket, event, slot, held, emitted, taken.2 fun _ => ⟨fun _ => named, by decide, by decide⟩⟩

/-- A static pool with a space in its name passes the configuration. -/
def misnamedPool : { config : ServingConfig // config.validate = .ok () } :=
  ⟨⟨"demo pool", "synthetic", "127.0.0.1:8085", "development"⟩, by decide⟩

def misnamedGateway : Gateway := { sampleGateway with transports := [misnamedPool], serving := misnamedPool }

/-- A gateway whose region is given in two words. -/
def misplacedGateway : Gateway := { sampleGateway with usage := ⟨"eu west", "development", "2026-09-01"⟩ }

/-- The sample is admitted, and its usage is settled with a request that the control plane refuses whatever its
state is. -/
def Misreports (g : Gateway) : Prop :=
  (g.routeRequest (fun _ => false) 0 samplePrincipal sampleArrival).1 = .ok () ∧
  (g.admitRequest sampleUuid (routedContext g)).1 = .ok () ∧
  ∃ ticket url request, (admittedContext g).billingTicket = some ticket ∧ ticket.Covers (finalUsage g) ∧
    finalReport g = some (.ok ⟨url, .settle request⟩) ∧ ¬Accepted "http://control" ticket (finalUsage g)
      ⟨url, .settle request⟩ ∧
    ∀ call account row db, settleLocked call account row request db =
      .error (.invalid "settlement requires known, nonnegative usage and a final outcome")

theorem misreports {g : Gateway} {request : SettleRequest} (ticket : Ticket) (ill : request.wellFormed = false)
    (covers : 2 ≤ ticket.inputTokenLimit ∧ 3 ≤ ticket.outputTokenLimit)
    (runs : (g.routeRequest (fun _ => false) 0 samplePrincipal sampleArrival).1 = .ok () ∧
      (g.admitRequest sampleUuid (routedContext g)).1 = .ok () ∧
      (admittedContext g).billingTicket = some ticket ∧ finalUsage g = some ⟨2, 3⟩ ∧
      finalReport g = some (.ok ⟨ticket.url "http://control" ++ "/settle", .settle request⟩)) : Misreports g := by
  obtain ⟨routed, admitted, ticketed, usage, reported⟩ := runs
  refine ⟨routed, admitted, ticket, _, request, ticketed, ?_, reported, ?_, fun _ _ _ db => settleLocked_refused db ill⟩
  · rw [usage]
    exact ⟨_, rfl, covers.1, covers.2⟩
  · intro accepted
    cases ill.symm.trans accepted.taken

/-- A pool name and a region that are no identifiers: both gateways lose the charge. -/
theorem sample_misnamed : Misreports misnamedGateway ∧ Misreports misplacedGateway := by
  let ticket : Ticket := ⟨"req-" ++ sampleUuid.text, "project-1", 696, 4⟩
  constructor
  · refine @misreports _ ⟨2, 3, 120, "demo pool", "local", "succeeded"⟩ ticket ?_ ?_ ?_ <;> decide +kernel
  · refine @misreports _ ⟨2, 3, 120, "demo-pool", "eu west", "succeeded"⟩ ticket ?_ ?_ ?_ <;> decide +kernel

end Xscope.Gateway

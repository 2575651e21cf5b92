/-
Admission bounds what is forwarded. Whatever the body says about its output and its stream, an
admitted request is forwarded with one bound of the output, the bound the hold was made for, and
the rest of the smaller context is held for the input.
-/
import Xscope.Gateway.Proxy

namespace Xscope.Gateway

open Serving

/-! ## The members of the forwarded body -/

variable {members : List (String × Json)} {body forwarded : Json} {request : ModelRequest}

theorem castU64_of_pos {context : Int} (positive : 0 < context) (fits : context ≤ i64Max) :
    (castU64 context : Int) = context := by
  unfold i64Max at fits
  unfold castU64
  omega

/-- Both limits are at least one and together the context. -/
theorem moneyTokenLimits_ok {tokens : Json → Nat} {context : Int} {limits : Int × Int} (positive : 0 < context)
    (fits : context ≤ i64Max) (h : moneyTokenLimits tokens request context = .ok limits) :
    1 ≤ limits.1 ∧ 1 ≤ limits.2 ∧ limits.1 + limits.2 = context ∧ request.n.all (· = 1) := by
  have cast := castU64_of_pos positive fits
  unfold moneyTokenLimits at h
  simp only at h
  split at h
  · cases h
  · rename_i within
    split at h
    · cases h
    · cases h
      push Not at within
      obtain ⟨_, single, some_output, below, _⟩ := within
      refine ⟨by dsimp only; omega, by dsimp only; omega, by dsimp only; omega, ?_⟩
      cases held : request.n with
      | none => rfl
      | some n =>
        rw [held] at single
        simpa using single

/-! ## What the body says -/

section
variable {codec : Codec} {g : Gateway} {billing : BillingAdmission} {uuid : Uuid} {ctx ctx' : RequestContext codec}

/-- An admission with money billing: what was decided, and the context it leaves. -/
inductive Admits (g : Gateway) (billing : BillingAdmission) (uuid : Uuid) (ctx : RequestContext codec) :
    RequestContext codec → Prop
  | intro (principal : Principal) (request : ModelRequest) (limits : Int × Int) (body forwarded : Json)
      (quota : Option QuotaReservation) (owner : ctx.principal = some principal)
      (parsed : parseRequest ctx.requestBody ctx.textCompletion = .ok request)
      (limited : moneyTokenLimits g.tokens request (contextTokens billing ctx.selectedModel) = .ok limits)
      (bounded : boundTokens request limits.2 ctx.requestBody = .ok body)
      (asked : (if request.stream then includeUsage body else .ok body) = .ok forwarded)
      (permitted : ctx.usagePermit ≠ none)
      (reserved : billing.answer (reservation principal billing request ctx limits uuid) = .ok ()) :
      Admits g billing uuid ctx
        { ctx with
          streamRequested := request.stream, requestBody := forwarded, quotaReservation := quota
          billingTicket := some ⟨"req-" ++ uuid.text, principal.key.projectId, limits.1, limits.2⟩
          modelId := request.model, meterable := true }

theorem boundBody_ok {request : ModelRequest} {limits : Int × Int}
    (h : g.boundBody billing request ctx = (.ok limits, ctx')) :
    ∃ body, moneyTokenLimits g.tokens request (contextTokens billing ctx.selectedModel) = .ok limits ∧
      boundTokens request limits.2 ctx.requestBody = .ok body ∧ ctx' = { ctx with requestBody := body } := by
  unfold boundBody at h
  rw [Session.get_bind] at h
  obtain ⟨decided, limited, h⟩ := Session.lift_bind_ok.1 h
  obtain ⟨body, bounded, h⟩ := Session.lift_bind_ok.1 h
  cases h
  exact ⟨body, limited, bounded, rfl⟩

theorem askForUsage_ok (h : askForUsage ctx = (.ok (), ctx')) :
    ∃ body, includeUsage ctx.requestBody = .ok body ∧ ctx' = { ctx with requestBody := body } := by
  unfold askForUsage at h
  rw [Session.get_bind] at h
  obtain ⟨body, asked, h⟩ := Session.lift_bind_ok.1 h
  cases h
  exact ⟨body, asked, rfl⟩

theorem reserveQuota_ok {principal : Principal} {n : Nat} (h : g.reserveQuota principal n ctx = (.ok (), ctx')) :
    ∃ quota, ctx' = { ctx with quotaReservation := quota } := by
  unfold reserveQuota at h
  cases answered : g.quota principal n with
  | error unavailable =>
    rw [answered] at h
    cases h
  | ok decision =>
    rw [answered] at h
    cases decision with
    | none =>
      cases h
      exact ⟨ctx.quotaReservation, rfl⟩
    | some decision =>
      cases decision with
      | allowed reservation =>
        cases h
        exact ⟨_, rfl⟩
      | denied denial => cases denial <;> cases h

theorem reserveHold_ok {principal : Principal} {request : ModelRequest} {limits : Int × Int}
    (h : reserveHold principal billing request limits uuid ctx = (.ok (), ctx')) :
    ctx.usagePermit ≠ none ∧ billing.answer (reservation principal billing request ctx limits uuid) = .ok () ∧
      ctx' = { ctx with billingTicket := some ⟨"req-" ++ uuid.text, principal.key.projectId, limits.1, limits.2⟩ } := by
  unfold reserveHold at h
  rw [Session.get_bind] at h
  obtain ⟨permitted, h⟩ := Session.reject_bind_ok.1 h
  obtain ⟨ticket, admitted, h⟩ := Session.lift_bind_ok.1 h
  cases h
  unfold BillingAdmission.admit at admitted
  cases answered : billing.answer (reservation principal billing request ctx limits uuid) with
  | error status =>
    rw [answered] at admitted
    cases admitted
  | ok u =>
    rw [answered] at admitted
    cases admitted
    exact ⟨permitted, rfl, rfl⟩

theorem boundRequest_ok {request : ModelRequest} {limits : Option (Int × Int)} (on : g.billing = some billing)
    (h : g.boundRequest request ctx = (.ok limits, ctx')) :
    ∃ decided, limits = some decided ∧ g.boundBody billing request ctx = (.ok decided, ctx') := by
  unfold boundRequest at h
  rw [on] at h
  obtain ⟨decided, ctx1, bounded, same⟩ := Session.bind_ok h
  cases same
  exact ⟨decided, rfl, bounded⟩

theorem askRequest_ok {request : ModelRequest} (h : askRequest request ctx = (.ok (), ctx')) :
    ∃ body, (if request.stream then includeUsage ctx.requestBody else .ok ctx.requestBody) = .ok body ∧
      ctx' = { ctx with requestBody := body } := by
  unfold askRequest at h
  split at h
  · rename_i streams
    rw [if_pos streams]
    exact askForUsage_ok h
  · rename_i streams
    rw [if_neg streams]
    cases h
    exact ⟨ctx.requestBody, rfl, rfl⟩

/-- What an admission with money billing did. -/
theorem admitRequest_ok (on : g.billing = some billing) (h : g.admitRequest uuid ctx = (.ok (), ctx')) :
    Admits g billing uuid ctx ctx' := by
  unfold admitRequest at h
  rw [Session.get_bind] at h
  obtain ⟨request, parsed, h⟩ := Session.lift_bind_ok.1 h
  obtain ⟨principal, owner, h⟩ := Session.lift_bind_ok.1 h
  obtain ⟨-, h⟩ := Session.reject_bind_ok.1 h
  rw [Session.modify_bind] at h
  obtain ⟨limits, ctx1, bounds, h⟩ := Session.bind_ok h
  obtain ⟨decided, rfl, billed⟩ := boundRequest_ok on bounds
  obtain ⟨body, limited, bounded, rfl⟩ := boundBody_ok billed
  obtain ⟨⟨⟩, ctx2, asks, h⟩ := Session.bind_ok h
  obtain ⟨forwarded, asked, rfl⟩ := askRequest_ok asks
  obtain ⟨⟨⟩, ctx3, quoted, h⟩ := Session.bind_ok h
  obtain ⟨quota, rfl⟩ := reserveQuota_ok quoted
  obtain ⟨⟨⟩, ctx4, holds, h⟩ := Session.bind_ok h
  cases h
  unfold holdRequest at holds
  rw [on] at holds
  obtain ⟨permitted, reserved, rfl⟩ := reserveHold_ok holds
  have owned : ctx.principal = some principal := by
    cases found : ctx.principal with
    | none =>
      rw [found] at owner
      cases owner
    | some p =>
      rw [found] at owner
      cases owner
      rfl
  exact .intro principal request decided body forwarded quota owned parsed limited bounded asked permitted reserved

theorem contextTokens_bounded (billing : BillingAdmission)
    (selected : Option { model : Model // model.validate = .ok () }) :
    0 < contextTokens billing selected ∧ contextTokens billing selected ≤ i64Max := by
  have positive := billing.positive
  have fits := billing.fits
  unfold contextTokens
  cases selected with
  | none => exact ⟨positive, fits⟩
  | some model =>
    have context : 1 ≤ model.1.maxContextTokens := by
      have valid := model.2
      unfold Model.validate at valid
      split at valid
      · cases valid
      · rename_i named
        simp only [Bool.or_eq_true, not_or, Bool.not_eq_true, Bool.not_eq_false', decide_eq_true_eq] at named
        exact named.2.1
    exact ⟨lt_min (by omega) positive, (min_le_right _ _).trans fits⟩

end

/-! ## A sample -/

def sampleUuid : Uuid := ⟨"01890a5d-ac96-774b-bcce-b302099a8057", by decide, by decide⟩

def sampleKey : Credential :=
  { apiKeyId := "key-1", tenantId := "tenant-1", projectId := "project-1", routePolicies := []
    scopes := ["completions"], allowedModels := ["synthetic"], rateLimitRpm := 60, rateLimitTpm := 100000
    monthlyBudgetAmount := 0, currentMonthSpendAmount := 0, balanceEnforced := false, availableBalanceAmount := 0
    secretHash := ⟨List.replicate 32 7, rfl⟩, expiresAt := none }

def samplePool : { config : ServingConfig // config.validate = .ok () } :=
  ⟨⟨"demo-pool", "synthetic", "127.0.0.1:8085", "development"⟩, by decide⟩

/-- A gateway with a context of 700 tokens, whose holds are granted. -/
def sampleGateway : Gateway :=
  { transports := [samplePool], serving := samplePool, quota := fun _ _ => .ok none, enter := fun _ _ => .ok ()
    usage := ⟨"local", "development", "2026-09-01"⟩, tokens := fun _ => 2
    billing := some ⟨700, "2026-09-01", fun _ => .ok (), by decide, by decide⟩ }

/-- A text completion with a bound and stream options of its own. -/
def sampleBody : Json := .obj
  [("max_tokens", .int 4), ("model", .str "synthetic"), ("n", .null), ("prompt", .str "hello"), ("stream", .bool true)
  , ("stream_options", .obj [("chunk", .int 9), ("include_usage", .bool false)]), ("user", .str "u")]

def sampleRequest : RequestContext sampleCodec :=
  { RequestContext.default sampleCodec with
    requestBody := sampleBody, textCompletion := true, principal := some ⟨none, none, sampleKey⟩
    usagePermit := some ⟨0, 1⟩ }

end Xscope.Gateway

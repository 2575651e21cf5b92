/-
Project routes: which pool serves a model, the share of its canary, and the cohorts that are told
apart by a request header. A policy is validated as a whole before it is stored.
-/
import Xscope.Fleet.ManagedPools

namespace Xscope.Serving

open Fleet

inductive RouteTarget where
  | stable
  | canary
  deriving DecidableEq

structure HeaderRoute where
  name : String
  value : String
  target : RouteTarget
  deriving DecidableEq

structure RoutePolicySpec where
  stablePool : String
  canaryPool : Option String
  canaryPercent : UInt8
  /-- First exact match wins; these headers select cohorts, not permissions. -/
  headers : List HeaderRoute
  deriving DecidableEq

structure RoutePolicy where
  tenantId : String
  projectId : String
  model : String
  revision : Int
  spec : RoutePolicySpec
  deriving DecidableEq

structure PutRoutePolicy where
  /-- 0 creates; subsequent writes must match the current revision. -/
  expectedRevision : Int
  spec : RoutePolicySpec
  deriving DecidableEq

inductive ReleaseAction where
  | pause (expectedRevision : Int)
  | promote (expectedRevision : Int)
  | rollback (expectedRevision targetRevision : Int)
  deriving DecidableEq

def ReleaseAction.expectedRevision : ReleaseAction → Int
  | .pause expected | .promote expected | .rollback expected _ => expected

def ReleaseAction.name : ReleaseAction → String
  | .pause _ => "pause"
  | .promote _ => "promote"
  | .rollback _ _ => "rollback"

/-! ## Releases -/

def RoutePolicySpec.pause (spec : RoutePolicySpec) : RoutePolicySpec :=
  { spec with canaryPercent := 0, headers := spec.headers.filter fun rule => rule.target = .stable }

def RoutePolicySpec.promote (spec : RoutePolicySpec) : Except String RoutePolicySpec := match spec.canaryPool with
  | none => .error "no canary pool to promote"
  | some canary => .ok { stablePool := canary, canaryPool := none, canaryPercent := 0, headers := [] }

/-! ## Selection -/

def RoutePolicySpec.target (spec : RoutePolicySpec) : RouteTarget → String
  | .stable => spec.stablePool
  | .canary => spec.canaryPool.getD spec.stablePool

/-- The pool of a request and what decided it: the first rule that holds of it, otherwise the roll. -/
def RoutePolicySpec.select (spec : RoutePolicySpec) (holds : HeaderRoute → Bool) (roll : UInt8) : String × String :=
  match spec.headers.find? holds with
  | some rule => (spec.target rule.target, "header")
  | none => if roll < spec.canaryPercent then (spec.target .canary, "weight") else (spec.stablePool, "weight")

/-! ## Validation -/

/-- A name that cannot be that of a pool. -/
def misnamed (pool : String) : Bool := blank pool || decide (128 < pool.utf8ByteSize)

/-- A lower-case `x-route-` name and a printable value without spaces. -/
def HeaderRoute.wellFormed (header : HeaderRoute) : Bool :=
  "x-route-".toList.isPrefixOf header.name.toList && decide (8 < header.name.utf8ByteSize) &&
    decide (header.name.utf8ByteSize ≤ 64) && (header.name.toList.all fun c => c.isLower || c.isDigit || c == '-') &&
    !header.value.isEmpty && decide (header.value.utf8ByteSize ≤ 256) &&
    header.value.toList.all fun c => decide (0x21 ≤ c.toNat ∧ c.toNat ≤ 0x7e)

/-- The header rules, each with those before it. -/
def validateHeaders (before : List HeaderRoute) : List HeaderRoute → Except String Unit
  | [] => .ok ()
  | header :: rest =>
    if header.wellFormed = false then
      .error "rules require lowercase x-route-* names and printable non-space ASCII values"
    else if before.any fun h => h.name = header.name && h.value = header.value then .error "duplicate header match"
    else validateHeaders (header :: before) rest

def RoutePolicySpec.validate (spec : RoutePolicySpec) : Except String Unit :=
  if misnamed spec.stablePool then .error "stable_pool must be a registered pool ID"
  else if spec.canaryPool.any fun canary => misnamed canary || canary = spec.stablePool then
    .error "canary_pool must be nonempty and distinct from stable_pool"
  else if 100 < spec.canaryPercent ∨ 16 < spec.headers.length then
    .error "canary_percent must be 0..100 and at most 16 header rules are allowed"
  else if spec.canaryPool = none ∧ (0 < spec.canaryPercent ∨ spec.headers.any fun h => h.target = .canary) then
    .error "canary traffic requires canary_pool"
  else validateHeaders [] spec.headers

/-- The pools are registered for the model. -/
def registeredFor (model : String) (pools : List RoutePool) : List String → Except String Unit
  | [] => .ok ()
  | id :: rest =>
    if pools.any fun pool => pool.id = id && pool.model = model then registeredFor model pools rest
    else .error ("pool " ++ id ++ " is not registered for model " ++ model)

def RoutePolicySpec.validatePools (spec : RoutePolicySpec) (model : String)
    (pools : List RoutePool) : Except String Unit := do
  spec.validate
  registeredFor model pools (spec.stablePool :: spec.canaryPool.toList)

theorem validatePools_valid {spec : RoutePolicySpec} {model : String} {pools : List RoutePool}
    (h : spec.validatePools model pools = .ok ()) : spec.validate = .ok () := by
  unfold RoutePolicySpec.validatePools at h
  cases hv : spec.validate with
  | error message => rw [hv] at h; cases h
  | ok u => rfl

end Xscope.Serving

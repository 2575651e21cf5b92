/-
What a release does to the requests of a model. A policy splits them between its two pools, by the
rules it has and then by the roll; a paused one sends none to its canary, and a promoted one sends
all of them to the former canary and has nothing left to promote.
-/
import Xscope.Serving.Routes

namespace Xscope.Serving

open Fleet

/-! ## Valid policies -/

/-- Two rules that match the same requests. -/
def HeaderRoute.sameMatch (a b : HeaderRoute) : Prop := a.name = b.name ∧ a.value = b.value

/-- The rules of a policy are well formed, and no two match the same requests. -/
structure ValidHeaders (headers : List HeaderRoute) : Prop where
  wellFormed : ∀ h ∈ headers, h.wellFormed = true
  distinct : headers.Pairwise fun a b => ¬a.sameMatch b

/-- What `RoutePolicySpec.validate` accepts. -/
structure ValidSpec (spec : RoutePolicySpec) : Prop where
  stable : misnamed spec.stablePool = false
  canary : ∀ canary, spec.canaryPool = some canary → misnamed canary = false ∧ canary ≠ spec.stablePool
  percent : spec.canaryPercent ≤ 100
  few : spec.headers.length ≤ 16
  alone : spec.canaryPool = none → spec.canaryPercent = 0 ∧ ∀ h ∈ spec.headers, h.target = .stable
  headers : ValidHeaders spec.headers

theorem validateHeaders_ok {before headers : List HeaderRoute} : validateHeaders before headers = .ok () ↔
    ValidHeaders headers ∧ ∀ h ∈ headers, ∀ b ∈ before, ¬b.sameMatch h := by
  induction headers generalizing before with
  | nil =>
    constructor
    · intro _
      exact ⟨⟨by simp, .nil⟩, by simp⟩
    · intro _
      rfl
  | cons header rest ih =>
    unfold validateHeaders
    constructor
    · intro h
      split at h
      · cases h
      · rename_i formed
        split at h
        · cases h
        · rename_i fresh
          obtain ⟨⟨wellFormed, distinct⟩, apart⟩ := ih.1 h
          have unseen : ∀ b ∈ before, ¬b.sameMatch header := by
            intro b hb same
            apply fresh
            rw [List.any_eq_true]
            exact ⟨b, hb, by simp [same.1, same.2]⟩
          refine ⟨⟨?_, List.pairwise_cons.2 ⟨fun h hh => apart h hh header (List.mem_cons_self ..), distinct⟩⟩, ?_⟩
          · intro h hh
            rcases List.mem_cons.1 hh with rfl | hh
            · simpa using formed
            · exact wellFormed h hh
          · intro h hh
            rcases List.mem_cons.1 hh with rfl | hh
            · exact unseen
            · intro b hb
              exact apart h hh b (List.mem_cons_of_mem _ hb)
    · rintro ⟨⟨wellFormed, distinct⟩, apart⟩
      have formed := wellFormed header (List.mem_cons_self ..)
      rw [if_neg (by simp [formed]), if_neg, ih]
      · refine ⟨⟨fun h hh => wellFormed h (List.mem_cons_of_mem _ hh), (List.pairwise_cons.1 distinct).2⟩, ?_⟩
        intro h hh b hb
        rcases List.mem_cons.1 hb with rfl | hb
        · exact (List.pairwise_cons.1 distinct).1 h hh
        · exact apart h (List.mem_cons_of_mem _ hh) b hb
      · intro seen
        obtain ⟨b, hb, same⟩ := List.any_eq_true.1 seen
        exact apart header (List.mem_cons_self ..) b hb (by simpa [HeaderRoute.sameMatch] using same)

theorem validate_ok {spec : RoutePolicySpec} : spec.validate = .ok () ↔ ValidSpec spec := by
  unfold RoutePolicySpec.validate
  constructor
  · intro h
    split at h
    · cases h
    rename_i stable
    split at h
    · cases h
    rename_i canary
    split at h
    · cases h
    rename_i bounds
    split at h
    · cases h
    rename_i alone
    simp only [not_or, not_and, UInt8.not_lt, not_lt] at bounds alone
    refine ⟨by simpa using stable, ?_, bounds.1, bounds.2, ?_, (validateHeaders_ok.1 h).1⟩
    · intro name hname
      rw [hname] at canary
      simpa using canary
    · intro none
      obtain ⟨percent, targets⟩ := alone none
      constructor
      · exact UInt8.le_zero_iff.1 percent
      · intro rule hrule
        cases target : rule.target with
        | stable => rfl
        | canary => exact absurd (List.any_eq_true.2 ⟨rule, hrule, by simp [target]⟩) targets
  · rintro ⟨stable, canary, percent, few, alone, headers⟩
    rw [if_neg (by simp [stable]), if_neg, if_neg, if_neg, validateHeaders_ok]
    · exact ⟨headers, by simp⟩
    · rintro ⟨none, percent | target⟩
      · rw [(alone none).1] at percent
        exact absurd percent (by decide)
      · obtain ⟨rule, hrule, target⟩ := List.any_eq_true.1 target
        rw [(alone none).2 rule hrule] at target
        cases target
    · rintro (high | many)
      · exact absurd percent (UInt8.not_le.2 high)
      · omega
    · cases name : spec.canaryPool with
      | none => simp
      | some name' => simp [canary name' name]

theorem registeredFor_ok {model : String} {pools : List RoutePool} {ids : List String} :
    registeredFor model pools ids = .ok () ↔ ∀ id ∈ ids, ∃ pool ∈ pools, pool.id = id ∧ pool.model = model := by
  induction ids with
  | nil => simp [registeredFor]
  | cons id rest ih =>
    unfold registeredFor
    have known : (pools.any fun pool => pool.id = id && pool.model = model) = true ↔
        ∃ pool ∈ pools, pool.id = id ∧ pool.model = model := by
      simp [List.any_eq_true]
    split
    · rename_i registered
      rw [ih, List.forall_mem_cons]
      exact ⟨fun h => ⟨known.1 registered, h⟩, fun h => h.2⟩
    · rename_i unknown
      constructor
      · intro h
        cases h
      · intro h
        exact absurd (known.2 (h id (List.mem_cons_self ..))) unknown

theorem validatePools_ok {spec : RoutePolicySpec} {model : String} {pools : List RoutePool} :
    spec.validatePools model pools = .ok () ↔ ValidSpec spec ∧
      ∀ id ∈ spec.stablePool :: spec.canaryPool.toList, ∃ pool ∈ pools, pool.id = id ∧ pool.model = model := by
  rw [← validate_ok, ← registeredFor_ok]
  unfold RoutePolicySpec.validatePools
  cases spec.validate with
  | error message =>
    constructor
    · intro h
      cases h
    · rintro ⟨h, -⟩
      cases h
  | ok u => exact ⟨fun h => ⟨rfl, h⟩, fun h => h.2⟩

/-! ## Selection -/

section

variable {spec next : RoutePolicySpec} {holds : HeaderRoute → Bool} {roll : UInt8}

theorem select_pool (spec : RoutePolicySpec) (holds : HeaderRoute → Bool) (roll : UInt8) :
    (spec.select holds roll).1 = spec.stablePool ∨ some (spec.select holds roll).1 = spec.canaryPool := by
  have target : ∀ t, spec.target t = spec.stablePool ∨ some (spec.target t) = spec.canaryPool := by
    intro t
    cases t with
    | stable => exact .inl rfl
    | canary => cases pool : spec.canaryPool <;> simp [RoutePolicySpec.target, pool]
  unfold RoutePolicySpec.select
  split
  · exact target _
  · split
    · exact target .canary
    · exact .inl rfl

theorem select_weight (h : ∀ rule ∈ spec.headers, holds rule = false) :
    (spec.select holds roll).1 = if roll < spec.canaryPercent then spec.target .canary else spec.stablePool := by
  have unmatched : spec.headers.find? holds = none := by
    rw [List.find?_eq_none]
    intro rule hrule
    simp [h rule hrule]
  simp only [RoutePolicySpec.select, unmatched]
  split
  · rfl
  · rfl

/-- The rolls below a hundred that send a request to the canary. -/
def RoutePolicySpec.canaryRolls (spec : RoutePolicySpec) (holds : HeaderRoute → Bool) : List Nat :=
  (List.range 100).filter fun n => some (spec.select holds n.toUInt8).1 = spec.canaryPool

theorem length_filter_lt (bound n : Nat) : ((List.range n).filter fun k => k < bound).length = min bound n := by
  induction n with
  | zero => simp
  | succ n ih =>
    rw [List.range_succ, List.filter_append, List.length_append, ih]
    by_cases h : n < bound
    · simp [h]
      omega
    · simp [h]
      omega

theorem canaryRolls_length (v : ValidSpec spec) (h : ∀ rule ∈ spec.headers, holds rule = false) :
    (spec.canaryRolls holds).length = spec.canaryPercent.toNat := by
  have percent : spec.canaryPercent.toNat ≤ 100 := UInt8.le_iff_toNat_le.1 v.percent
  have chosen : ∀ n ∈ List.range 100,
      decide (some (spec.select holds n.toUInt8).1 = spec.canaryPool) = decide (n < spec.canaryPercent.toNat) := by
    intro n hn
    rw [List.mem_range] at hn
    have below : n.toUInt8 < spec.canaryPercent ↔ n < spec.canaryPercent.toNat := by
      rw [UInt8.lt_iff_toNat_lt, UInt8.toNat_ofNat']
      omega
    rw [select_weight h, decide_eq_decide, ← below]
    cases pool : spec.canaryPool with
    | none =>
      have zero : spec.canaryPercent = 0 := (v.alone pool).1
      simp [zero]
    | some canary =>
      have other : spec.stablePool ≠ canary := (v.canary canary pool).2.symm
      split
      · rename_i canaryRoll
        simp [RoutePolicySpec.target, pool, canaryRoll]
      · rename_i stableRoll
        simp [other, stableRoll]
  unfold RoutePolicySpec.canaryRolls
  rw [List.filter_congr chosen, length_filter_lt]
  omega

/-! ## Pause -/

theorem pause_valid (v : ValidSpec spec) : ValidSpec spec.pause where
  stable := v.stable
  canary := v.canary
  percent := UInt8.zero_le ..
  few := le_trans (List.length_filter_le ..) v.few
  alone := fun _ => ⟨rfl, fun rule hrule => by simpa using (List.mem_filter.1 hrule).2⟩
  headers :=
    { wellFormed := fun rule hrule => v.headers.wellFormed rule (List.mem_of_mem_filter hrule)
      distinct := v.headers.distinct.filter _ }

theorem pause_idempotent (spec : RoutePolicySpec) : spec.pause.pause = spec.pause := by
  simp [RoutePolicySpec.pause]

/-- Only rules for the stable pool are left, and no roll is below zero. -/
theorem select_pause (spec : RoutePolicySpec) (holds : HeaderRoute → Bool) (roll : UInt8) :
    (spec.pause.select holds roll).1 = spec.stablePool := by
  unfold RoutePolicySpec.select
  split
  · rename_i rule found
    have kept := (List.mem_filter.1 (List.mem_of_find?_eq_some found)).2
    have stable : rule.target = .stable := by simpa using kept
    rw [stable]
    rfl
  · have above : ¬roll < spec.pause.canaryPercent := UInt8.not_lt.2 (UInt8.zero_le ..)
    rw [if_neg above]
    rfl

/-! ## Promote -/

theorem promote_ok (h : spec.promote = .ok next) : ∃ canary, spec.canaryPool = some canary ∧
    next = { stablePool := canary, canaryPool := none, canaryPercent := 0, headers := [] } := by
  unfold RoutePolicySpec.promote at h
  cases pool : spec.canaryPool with
  | none =>
    rw [pool] at h
    cases h
  | some canary =>
    rw [pool] at h
    cases h
    exact ⟨canary, rfl, rfl⟩

theorem promote_valid (v : ValidSpec spec) (h : spec.promote = .ok next) : ValidSpec next := by
  obtain ⟨canary, pool, rfl⟩ := promote_ok h
  exact ⟨(v.canary canary pool).1, by simp, UInt8.zero_le .., by simp, by simp, ⟨by simp, .nil⟩⟩

theorem select_promote (h : spec.promote = .ok next) (holds : HeaderRoute → Bool) (roll : UInt8) :
    some (next.select holds roll).1 = spec.canaryPool := by
  obtain ⟨canary, pool, rfl⟩ := promote_ok h
  rw [select_weight (by simp), pool]
  simp

end

/-! ## Releases -/

/-- A policy sends requests to its two pools only, and the canary gets its percentage of the rolls
    of the requests no rule matches; a paused policy is valid, stays as it is when it is paused
    again and never reaches the canary; a promoted one is valid, sends every request to the former
    canary and cannot be promoted again. Both keep the pools registered. -/
theorem releases_route {spec : RoutePolicySpec} {model : String} {pools : List RoutePool}
    (h : spec.validatePools model pools = .ok ()) :
    (∀ holds roll, (spec.select holds roll).1 = spec.stablePool ∨ some (spec.select holds roll).1 = spec.canaryPool) ∧
    (∀ holds, (∀ rule ∈ spec.headers, holds rule = false) →
      (spec.canaryRolls holds).length = spec.canaryPercent.toNat) ∧
    (spec.pause.validatePools model pools = .ok () ∧ spec.pause.pause = spec.pause ∧
      ∀ holds roll, (spec.pause.select holds roll).1 = spec.stablePool ∧
        some (spec.pause.select holds roll).1 ≠ spec.canaryPool) ∧
    ((∃ next, spec.promote = .ok next) ↔ spec.canaryPool ≠ none) ∧
    ∀ next, spec.promote = .ok next → next.validatePools model pools = .ok () ∧
      (∀ holds roll, some (next.select holds roll).1 = spec.canaryPool) ∧ ∃ message, next.promote = .error message := by
  obtain ⟨valid, registered⟩ := validatePools_ok.1 h
  refine ⟨fun holds roll => select_pool spec holds roll, fun holds => canaryRolls_length valid,
    ⟨validatePools_ok.2 ⟨pause_valid valid, registered⟩, pause_idempotent spec, ?_⟩, ?_, ?_⟩
  · intro holds roll
    rw [select_pause]
    refine ⟨rfl, fun same => ?_⟩
    exact (valid.canary _ same.symm).2 rfl
  · constructor
    · rintro ⟨next, promoted⟩ none
      obtain ⟨canary, pool, -⟩ := promote_ok promoted
      rw [pool] at none
      cases none
    · intro some
      obtain ⟨canary, pool⟩ := Option.ne_none_iff_exists'.1 some
      refine ⟨{ stablePool := canary, canaryPool := none, canaryPercent := 0, headers := [] }, ?_⟩
      simp only [RoutePolicySpec.promote, pool]
  · intro next promoted
    obtain ⟨canary, pool, rfl⟩ := promote_ok promoted
    refine ⟨validatePools_ok.2 ⟨promote_valid valid promoted, ?_⟩, select_promote promoted, ⟨_, rfl⟩⟩
    intro id hid
    simp only [Option.toList_none, List.mem_singleton] at hid
    exact registered id (by simp [pool, hid])

def sampleRelease : RoutePolicySpec :=
  { stablePool := "stable", canaryPool := some "canary", canaryPercent := 10
    headers := [{ name := "x-route-cohort", value := "test", target := .canary }] }

def sampleReleasePools : List RoutePool :=
  [{ id := "stable", model := "m", revision := "1" }, { id := "canary", model := "m", revision := "2" }]

theorem sampleRelease_routes : sampleRelease.validatePools "m" sampleReleasePools = .ok () ∧
    (sampleRelease.canaryRolls fun _ => false).length = 10 ∧
    (sampleRelease.pause.select (fun _ => true) 0).1 = "stable" := by
  have accepted : sampleRelease.validatePools "m" sampleReleasePools = .ok () := by decide +kernel
  obtain ⟨-, rolls, ⟨-, -, paused⟩, -⟩ := releases_route accepted
  exact ⟨accepted, rolls _ (by simp), (paused _ _).1⟩

end Xscope.Serving

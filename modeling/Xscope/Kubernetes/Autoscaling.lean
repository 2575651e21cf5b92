/-
The scaling writers of a model. The Operator reads the autoscalers of the namespace before it
applies anything, and refuses those that compete with the model's own ScaledObject. Autoscalers of
the model's objects are found by the kinds they name; those of its Deployment are not looked for.
-/
import Mathlib.Tactic

namespace Xscope.Kubernetes

/-! ## Objects -/

structure OwnerReference where
  apiVersion : String
  kind : String
  name : String
  uid : String
  controller : Option Bool
  deriving DecidableEq

structure ObjectMeta where
  name : Option String
  generateName : Option String
  uid : Option String
  deletionTimestamp : Option Int
  ownerReferences : Option (List OwnerReference)
  deriving DecidableEq

/-- `ResourceExt::name_any`. -/
def ObjectMeta.nameAny (m : ObjectMeta) : String := (m.name.or m.generateName).getD ""

/-- `ResourceExt::owner_references`. -/
def ObjectMeta.owners (m : ObjectMeta) : List OwnerReference := m.ownerReferences.getD []

structure AutoscalingSpec where
  managed : Bool
  minReplicas : Int
  maxReplicas : Int
  targetPendingRequests : Int
  targetRunningRequests : Int
  targetCpuUtilizationPercentage : Option Int
  deriving DecidableEq

structure ModelDeployment where
  metadata : ObjectMeta
  autoscaling : Option AutoscalingSpec
  deriving DecidableEq

structure ScaleTargetRef where
  apiVersion : String
  kind : String
  name : String
  deriving DecidableEq

structure ScaledObject where
  metadata : ObjectMeta
  scaleTargetRef : ScaleTargetRef
  deriving DecidableEq

structure CrossVersionObjectReference where
  apiVersion : Option String
  kind : String
  name : String
  deriving DecidableEq

structure Hpa where
  metadata : ObjectMeta
  /-- The target of its spec, if it has one. -/
  scaleTargetRef : Option CrossVersionObjectReference
  deriving DecidableEq

inductive KubeError where
  | invalid (message : String)
  | conflict (message : String)
  | ownershipConflict
  deriving DecidableEq

/-! ## Checks -/

def modelApiVersion : String := "platform.xscope.io/v1alpha1"

/-- Never adopt an unrelated object, even if it has the desired name or labels. -/
def ensureOwner (existing : ObjectMeta) (model : ModelDeployment) : Except KubeError Unit :=
  if existing.ownerReferences.any fun owners => owners.any fun o =>
      o.controller = some true && some o.uid = model.metadata.uid && o.kind = "ModelDeployment" &&
        o.apiVersion = modelApiVersion then
    .ok ()
  else .error .ownershipConflict

def targetsModel (target : ScaleTargetRef) (model : ModelDeployment) : Bool :=
  target.apiVersion = modelApiVersion && ["ModelDeployment", "ModelScale"].contains target.kind &&
    target.name = model.metadata.nameAny

def hpaTargetsModel (hpa : Hpa) (model : ModelDeployment) : Bool := hpa.scaleTargetRef.any fun target =>
  target.apiVersion = some modelApiVersion && ["ModelDeployment", "ModelScale"].contains target.kind &&
    target.name = model.metadata.nameAny

def kedaOwnsHpa (hpa : Hpa) (scaled : ScaledObject) : Bool := scaled.metadata.uid.any fun uid =>
  hpa.metadata.owners.any fun owner =>
    owner.controller = some true && owner.apiVersion = "keda.sh/v1alpha1" && owner.kind = "ScaledObject" &&
      owner.uid = uid && owner.name = scaled.metadata.nameAny

/-- The first loop of `preflight`. -/
def preflightScaled (model : ModelDeployment) : List ScaledObject → Except KubeError Unit
  | [] => .ok ()
  | scaled :: rest =>
    if scaled.metadata.nameAny = model.metadata.nameAny ∨ targetsModel scaled.scaleTargetRef model then do
      ensureOwner scaled.metadata model
      if scaled.metadata.nameAny ≠ model.metadata.nameAny then
        .error (.conflict "another ScaledObject already targets this model")
      else preflightScaled model rest
    else preflightScaled model rest

def kedaHpaName (model : ModelDeployment) : String := "keda-hpa-" ++ model.metadata.nameAny

/-- The second loop of `preflight`; only the legacy identity may be removed by XScope. -/
def preflightHpas (model : ModelDeployment) (owned : Option ScaledObject) : List Hpa → Except KubeError Unit
  | [] => .ok ()
  | hpa :: rest =>
    if hpaTargetsModel hpa model || hpa.metadata.nameAny = kedaHpaName model ||
      hpa.metadata.nameAny = model.metadata.nameAny then
      if owned.any fun s => kedaOwnsHpa hpa s then preflightHpas model owned rest
      else if hpa.metadata.nameAny = model.metadata.nameAny ∧ ensureOwner hpa.metadata model = .ok () then
        preflightHpas model owned rest
      else .error (.conflict "foreign HPA conflicts with the model's KEDA scaler")
    else preflightHpas model owned rest

/-- The ScaledObject with the name of the model. -/
def ownedScaler (model : ModelDeployment) (scaledObjects : List ScaledObject) : Option ScaledObject :=
  scaledObjects.find? fun s => s.metadata.nameAny = model.metadata.nameAny

/-- Reject every competing scaler, not just an object with our expected name. -/
def preflight (model : ModelDeployment) (scaledObjects : List ScaledObject)
    (hpas : List Hpa) : Except KubeError Unit := do
  preflightScaled model scaledObjects
  preflightHpas model (ownedScaler model scaledObjects) hpas

inductive Transition where
  | removeLegacy
  | removeScaledObject
  | wait
  | apply
  deriving DecidableEq

def transition (model : ModelDeployment) (scaled : Option ScaledObject) (hpas : List Hpa) : Transition :=
  if hpas.any fun h => h.metadata.nameAny = model.metadata.nameAny &&
    decide (ensureOwner h.metadata model = .ok ()) then .removeLegacy
  else if scaled.any fun s => s.metadata.deletionTimestamp.isSome then .wait
  else if model.autoscaling.isNone && scaled.isSome then .removeScaledObject
  else if model.autoscaling.isNone && hpas.any fun h => hpaTargetsModel h model then .wait
  else .apply

/-! ## Targets -/

/-- What an autoscaler scales. -/
structure ScaleTarget where
  apiVersion : String
  kind : String
  name : String
  deriving DecidableEq

/-- A ScaledObject targets an apps/v1 Deployment where it does not say otherwise. -/
def ScaledObject.target (s : ScaledObject) : ScaleTarget :=
  { apiVersion := if s.scaleTargetRef.apiVersion = "" then "apps/v1" else s.scaleTargetRef.apiVersion
    kind := if s.scaleTargetRef.kind = "" then "Deployment" else s.scaleTargetRef.kind
    name := s.scaleTargetRef.name }

def Hpa.target (h : Hpa) : Option ScaleTarget := h.scaleTargetRef.map fun t => ⟨t.apiVersion.getD "", t.kind, t.name⟩

/-- The Deployment that the controller manages for a model. -/
def ModelDeployment.runtime (model : ModelDeployment) : ScaleTarget := ⟨"apps/v1", "Deployment", model.metadata.nameAny⟩

/-- A model itself or its ModelScale. -/
def ScaleTarget.isModel (t : ScaleTarget) (model : ModelDeployment) : Prop :=
  t.apiVersion = modelApiVersion ∧ (t.kind = "ModelDeployment" ∨ t.kind = "ModelScale") ∧
    t.name = model.metadata.nameAny

/-- The target decides on the replicas of the model. -/
def ScaleTarget.scales (t : ScaleTarget) (model : ModelDeployment) : Prop := t.isModel model ∨ t = model.runtime

/-- The model's own ScaledObject. -/
def ScaledObject.own (s : ScaledObject) (model : ModelDeployment) : Prop :=
  s.metadata.nameAny = model.metadata.nameAny ∧ ensureOwner s.metadata model = .ok ()

/-- Nothing scales the model but its own ScaledObject and what that owns, and nothing at all where it has no
autoscaling. -/
structure SingleWriter (model : ModelDeployment) (scaledObjects : List ScaledObject) (hpas : List Hpa) : Prop where
  scalers : ∀ s ∈ scaledObjects, s.target.scales model → s.own model
  generated : ∀ h ∈ hpas, ∀ t ∈ h.target, t.scales model → ∃ s ∈ scaledObjects, s.own model ∧ kedaOwnsHpa h s = true
  off : model.autoscaling = none → (∀ s ∈ scaledObjects, ¬s.target.scales model) ∧
    ∀ h ∈ hpas, ∀ t ∈ h.target, ¬t.scales model

section

variable {model : ModelDeployment} {scaledObjects : List ScaledObject} {hpas : List Hpa} {owned : Option ScaledObject}

theorem targetsModel_iff (s : ScaledObject) : targetsModel s.scaleTargetRef model = true ↔ s.target.isModel model := by
  unfold targetsModel ScaleTarget.isModel ScaledObject.target
  simp only [Bool.and_eq_true, decide_eq_true_eq, List.contains_eq_mem, List.mem_cons, List.not_mem_nil,
    or_false, and_assoc]
  constructor
  · rintro ⟨version, kind, name⟩
    refine ⟨?_, ?_, name⟩
    · rw [if_neg (by rw [version]; decide), version]
    · rw [if_neg]
      · exact kind
      · rintro none
        rw [none] at kind
        revert kind
        decide
  · rintro ⟨version, kind, name⟩
    split at version
    · exact absurd version (by decide)
    · split at kind
      · exact absurd kind (by decide)
      · exact ⟨version, kind, name⟩

theorem hpaTargetsModel_iff (h : Hpa) : hpaTargetsModel h model = true ↔ ∃ t ∈ h.target, t.isModel model := by
  unfold hpaTargetsModel Hpa.target
  cases h.scaleTargetRef with
  | none => simp
  | some t =>
    obtain ⟨version, kind, name⟩ := t
    cases version with
    | none => simp [ScaleTarget.isModel, modelApiVersion]
    | some version => simp [ScaleTarget.isModel, and_assoc]

/-! ## Preflight -/

theorem preflightScaled_ok : preflightScaled model scaledObjects = .ok () ↔
    ∀ s ∈ scaledObjects, s.metadata.nameAny = model.metadata.nameAny ∨ s.target.isModel model → s.own model := by
  induction scaledObjects with
  | nil => simp [preflightScaled]
  | cons s rest ih =>
    rw [preflightScaled, List.forall_mem_cons, ← ih, ← targetsModel_iff]
    split
    · rename_i competes
      cases owner : ensureOwner s.metadata model with
      | error e =>
        constructor
        · intro h
          cases h
        · rintro ⟨own, -⟩
          have := (own competes).2
          rw [owner] at this
          cases this
      | ok u =>
        show (if _ then _ else _) = _ ↔ _
        split
        · rename_i other
          constructor
          · intro h
            cases h
          · rintro ⟨own, -⟩
            exact absurd (own competes).1 other
        · rename_i same
          exact ⟨fun h => ⟨fun _ => ⟨not_not.1 same, owner⟩, h⟩, fun h => h.2⟩
    · rename_i apart
      exact ⟨fun h => ⟨fun competes => absurd competes apart, h⟩, fun h => h.2⟩

/-- An HPA that is owned by the ScaledObject, or the legacy one. -/
def Hpa.admitted (h : Hpa) (model : ModelDeployment) (owned : Option ScaledObject) : Prop :=
  (∃ s ∈ owned, kedaOwnsHpa h s = true) ∨ (h.metadata.nameAny = model.metadata.nameAny ∧
    ensureOwner h.metadata model = .ok ())

theorem preflightHpas_ok : preflightHpas model owned hpas = .ok () ↔
    ∀ h ∈ hpas, (∃ t ∈ h.target, t.isModel model) ∨ h.metadata.nameAny = kedaHpaName model ∨
      h.metadata.nameAny = model.metadata.nameAny →
      h.admitted model owned := by
  induction hpas with
  | nil => simp [preflightHpas]
  | cons h rest ih =>
    rw [preflightHpas, List.forall_mem_cons, ← ih, ← hpaTargetsModel_iff]
    have checked : (hpaTargetsModel h model || h.metadata.nameAny = kedaHpaName model ||
      h.metadata.nameAny = model.metadata.nameAny) = true ↔
        hpaTargetsModel h model = true ∨ h.metadata.nameAny = kedaHpaName model ∨
          h.metadata.nameAny = model.metadata.nameAny := by
      simp [or_assoc]
    have ownedBy : (owned.any fun s => kedaOwnsHpa h s) = true ↔ ∃ s ∈ owned, kedaOwnsHpa h s = true := by
      cases owned <;> simp
    split
    · rename_i competes
      split
      · rename_i keda
        exact ⟨fun passed => ⟨fun _ => .inl (ownedBy.1 keda), passed⟩, fun passed => passed.2⟩
      · rename_i foreign
        split
        · rename_i legacy
          exact ⟨fun passed => ⟨fun _ => .inr legacy, passed⟩, fun passed => passed.2⟩
        · rename_i unowned
          constructor
          · intro passed
            cases passed
          · rintro ⟨admitted, -⟩
            rcases admitted (checked.1 competes) with keda | legacy
            · exact absurd (ownedBy.2 keda) foreign
            · exact absurd legacy unowned
    · rename_i apart
      exact ⟨fun passed => ⟨fun competes => absurd (checked.2 competes) apart, passed⟩, fun passed => passed.2⟩

theorem preflight_ok : preflight model scaledObjects hpas = .ok () ↔
    preflightScaled model scaledObjects = .ok () ∧
      preflightHpas model (ownedScaler model scaledObjects) hpas = .ok () := by
  unfold preflight
  cases preflightScaled model scaledObjects with
  | error e =>
    constructor
    · intro h
      cases h
    · rintro ⟨h, -⟩
      cases h
  | ok u => exact ⟨fun h => ⟨rfl, h⟩, fun h => h.2⟩

theorem ownedScaler_mem {s : ScaledObject} (h : s ∈ ownedScaler model scaledObjects) :
    s ∈ scaledObjects ∧ s.metadata.nameAny = model.metadata.nameAny :=
  ⟨List.mem_of_find?_eq_some h, by simpa using List.find?_some h⟩

theorem ownedScaler_none (h : ownedScaler model scaledObjects = none) :
    ∀ s ∈ scaledObjects, s.metadata.nameAny ≠ model.metadata.nameAny := by
  unfold ownedScaler at h
  rw [List.find?_eq_none] at h
  intro s hs
  simpa using h s hs

/-- What is left to do nothing about: no legacy HPA, and no ScaledObject where there is no autoscaling. -/
theorem transition_apply (h : transition model owned hpas = .apply) :
    (∀ h ∈ hpas, ¬(h.metadata.nameAny = model.metadata.nameAny ∧ ensureOwner h.metadata model = .ok ())) ∧
    (model.autoscaling = none → owned = none) := by
  unfold transition at h
  split at h
  · cases h
  rename_i legacy
  split at h
  · cases h
  split at h
  · cases h
  rename_i remaining
  constructor
  · rintro hpa hp ⟨name, owner⟩
    exact legacy (List.any_eq_true.2 ⟨hpa, hp, by simp [name, owner]⟩)
  · intro off
    cases owned with
    | none => rfl
    | some s => simp [off] at remaining

/-! ## The single writer -/

/-- No ScaledObject but the model's targets its Deployment, and no HPA does that has another name
    than the two reserved ones and is not owned by the model's ScaledObject. -/
def RuntimeUnscaled (model : ModelDeployment) (scaledObjects : List ScaledObject) (hpas : List Hpa) : Prop :=
  (∀ s ∈ scaledObjects, s.target = model.runtime → s.metadata.nameAny = model.metadata.nameAny) ∧
  ∀ h ∈ hpas, h.target = some model.runtime → h.metadata.nameAny = model.metadata.nameAny ∨
    h.metadata.nameAny = kedaHpaName model ∨
    ∃ s ∈ scaledObjects, s.metadata.nameAny = model.metadata.nameAny ∧ kedaOwnsHpa h s = true

/-- After a preflight, and with nothing left to remove, the model has a single scaling writer
    exactly if no foreign autoscaler targets its Deployment. -/
theorem preflight_apply_iff (passed : preflight model scaledObjects hpas = .ok ())
    (applied : transition model (ownedScaler model scaledObjects) hpas = .apply) :
    SingleWriter model scaledObjects hpas ↔ RuntimeUnscaled model scaledObjects hpas := by
  obtain ⟨scaled, checked⟩ := preflight_ok.1 passed
  rw [preflightScaled_ok] at scaled
  rw [preflightHpas_ok] at checked
  obtain ⟨noLegacy, removed⟩ := transition_apply applied
  -- an HPA that preflight looks at is owned by the model's ScaledObject
  have ownedHpa : ∀ h ∈ hpas, (∃ t ∈ h.target, t.isModel model) ∨ h.metadata.nameAny = kedaHpaName model ∨
      h.metadata.nameAny = model.metadata.nameAny → ∃ s ∈ scaledObjects, s.own model ∧ kedaOwnsHpa h s = true := by
    intro h hh competes
    rcases checked h hh competes with ⟨s, hs, keda⟩ | legacy
    · obtain ⟨held, name⟩ := ownedScaler_mem hs
      exact ⟨s, held, scaled s held (.inl name), keda⟩
    · exact absurd legacy (noLegacy h hh)
  constructor
  · intro single
    constructor
    · intro s hs runtime
      exact (single.scalers s hs (.inr runtime)).1
    · intro h hh runtime
      obtain ⟨s, hs, own, keda⟩ := single.generated h hh model.runtime runtime (.inr rfl)
      exact .inr (.inr ⟨s, hs, own.1, keda⟩)
  · rintro ⟨scalers, hpaScalers⟩
    have ownScaled : ∀ s ∈ scaledObjects, s.target.scales model → s.own model := by
      rintro s hs (target | runtime)
      · exact scaled s hs (.inr target)
      · exact scaled s hs (.inl (scalers s hs runtime))
    have ownHpas : ∀ h ∈ hpas, ∀ t ∈ h.target, t.scales model → ∃ s ∈ scaledObjects, s.own model ∧
        kedaOwnsHpa h s = true := by
      rintro h hh t ht (target | rfl)
      · exact ownedHpa h hh (.inl ⟨t, ht, target⟩)
      · rcases hpaScalers h hh ht with name | name | ⟨s, hs, name, keda⟩
        · exact ownedHpa h hh (.inr (.inr name))
        · exact ownedHpa h hh (.inr (.inl name))
        · exact ⟨s, hs, scaled s hs (.inl name), keda⟩
    refine ⟨ownScaled, ownHpas, ?_⟩
    intro off
    have absent := ownedScaler_none (removed off)
    constructor
    · intro s hs target
      exact absent s hs (ownScaled s hs target).1
    · intro h hh t ht target
      obtain ⟨s, hs, own, -⟩ := ownHpas h hh t ht target
      exact absent s hs own.1

end

/-! ## A model with a foreign HPA -/

def sampleModel (autoscaling : Option AutoscalingSpec) : ModelDeployment :=
  { metadata :=
      { name := some "demo", generateName := none, uid := some "model-uid", deletionTimestamp := none
        ownerReferences := none }
    autoscaling := autoscaling }

def sampleScaled : ScaledObject :=
  { metadata :=
      { name := some "demo", generateName := none, uid := some "scaler-uid", deletionTimestamp := none
        ownerReferences := some [⟨modelApiVersion, "ModelDeployment", "demo", "model-uid", some true⟩] }
    scaleTargetRef := ⟨modelApiVersion, "ModelDeployment", "demo"⟩ }

def sampleHpa : Hpa :=
  { metadata :=
      { name := some "keda-hpa-demo", generateName := none, uid := some "hpa-uid", deletionTimestamp := none
        ownerReferences := some [⟨"keda.sh/v1alpha1", "ScaledObject", "demo", "scaler-uid", some true⟩] }
    scaleTargetRef := some ⟨some modelApiVersion, "ModelDeployment", "demo"⟩ }

/-- An HPA of somebody else for the Deployment of the model. -/
def foreignHpa : Hpa :=
  { metadata :=
      { name := some "other", generateName := none, uid := some "other-uid", deletionTimestamp := none
        ownerReferences := none }
    scaleTargetRef := some ⟨some "apps/v1", "Deployment", "demo"⟩ }

def sampleScaling : AutoscalingSpec := ⟨false, 1, 8, 4, 10, none⟩

theorem sample_singleWriter : SingleWriter (sampleModel (some sampleScaling)) [sampleScaled] [sampleHpa] := by
  refine (preflight_apply_iff (by decide +kernel) (by decide +kernel)).2 ⟨?_, ?_⟩
  · intro s hs _
    rw [List.mem_singleton.1 hs]
    rfl
  · intro h hh target
    obtain rfl := List.mem_singleton.1 hh
    revert target
    decide +kernel

/-- Preflight passes and there is nothing to wait for, while two HPAs scale the model. -/
theorem sample_secondWriter :
    preflight (sampleModel (some sampleScaling)) [sampleScaled] [sampleHpa, foreignHpa] = .ok () ∧
    transition (sampleModel (some sampleScaling)) (ownedScaler (sampleModel (some sampleScaling)) [sampleScaled])
      [sampleHpa, foreignHpa] = .apply ∧
    ¬SingleWriter (sampleModel (some sampleScaling)) [sampleScaled] [sampleHpa, foreignHpa] := by
  refine ⟨by decide +kernel, by decide +kernel, ?_⟩
  intro single
  obtain ⟨s, hs, -, keda⟩ := single.generated foreignHpa (by simp) _ rfl (.inr rfl)
  rw [List.mem_singleton.1 hs] at keda
  revert keda
  decide +kernel

end Xscope.Kubernetes

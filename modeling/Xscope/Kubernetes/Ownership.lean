/-
The operator and the objects of others. Every child that a reconciliation writes has the model as its
controller, as it was read and as it is written; so whatever the interleaving, an object changes only by those
who control it.
-/
import Xscope.Kubernetes.Controller

namespace Xscope.Kubernetes.Controller

open Api (Labels Error ModelDeploymentStatus invalid)

/-- The model of this uid controls the object. -/
def ControlledBy (uid : Option String) (child : Child) : Prop :=
  ∃ owners, child.ownerReferences = some owners ∧ ∃ o ∈ owners, o.controller = some true ∧ some o.uid = uid ∧
    o.kind = "ModelDeployment" ∧ o.apiVersion = modelApiVersion

variable {serverApply : Child → Child → Child} {model : Api.ModelDeployment} {context : Context} {uid : Option String}
    {seen : List Object}

theorem ensureOwner_iff {existing : ObjectMeta} {m : ModelDeployment} : ensureOwner existing m = .ok () ↔
    ∃ owners, existing.ownerReferences = some owners ∧ ∃ o ∈ owners, o.controller = some true ∧
      some o.uid = m.metadata.uid ∧
      o.kind = "ModelDeployment" ∧ o.apiVersion = modelApiVersion := by
  unfold ensureOwner
  cases existing.ownerReferences with
  | none => simp
  | some owners => simp [and_assoc]

theorem ensureOwned_iff {o : Object} : ensureOwned o model = .ok () ↔ ControlledBy model.metadata.uid o.content := by
  have same : ensureOwned o model = .ok () ↔ ensureOwner (objectMeta o) model.scaling = .ok () := by
    unfold ensureOwned checked
    cases ensureOwner (objectMeta o) model.scaling <;> simp
  rw [same, ensureOwner_iff]
  rfl

/-! ## Desired children are the model's -/

theorem Child.owned_controlled {owner : OwnerReference} (h : controllerOwnerRef model = some owner) (spec : Json) :
    ControlledBy model.metadata.uid (Child.owned owner spec) := by
  unfold controllerOwnerRef at h
  cases name : model.metadata.name with
  | none => rw [name] at h; cases h
  | some n =>
    cases id : model.metadata.uid with
    | none => rw [name, id] at h; cases h
    | some u =>
      rw [name, id] at h
      cases h
      exact ⟨_, rfl, _, List.mem_singleton_self _, rfl, rfl, rfl, rfl⟩

theorem desired_controlled {existing : Option Object} {deployment service : Child}
    (h : desired model context.clusterId context.region existing = .ok (deployment, service)) :
    ControlledBy model.metadata.uid deployment ∧ ControlledBy model.metadata.uid service := by
  unfold desired at h
  cases valid : Api.validate model with
  | error e => rw [valid] at h; cases h
  | ok checked =>
    obtain ⟨spec, -, rfl⟩ := Api.validate_ok valid
    rw [valid] at h
    dsimp only [bind, Except.bind] at h
    split at h
    · cases h
    · split at h
      · cases h
      · rename_i owner ref
        split at h
        · cases h
        · cases h
          have own := Child.owned_controlled ref
          exact ⟨own _, own _⟩

theorem desiredOptional_controlled {deployment : Child} {children : Option Child × Option Child}
    (h : desiredOptional model deployment = .ok children) (owned : ControlledBy uid deployment) :
    (∀ pdb, children.1 = some pdb → ControlledBy uid pdb) ∧ ∀ pool, children.2 = some pool → ControlledBy uid pool := by
  unfold desiredOptional at h
  split at h
  · cases h
  · cases h
    constructor
    · intro pdb hp
      obtain ⟨_, -, rfl⟩ := Option.map_eq_some_iff.1 hp
      exact owned
    · intro pool hp
      obtain ⟨_, -, rfl⟩ := Option.map_eq_some_iff.1 hp
      exact owned

theorem desiredScaler_controlled {deployment : Child} {address : String} {scaler : Child}
    (h : desiredScaler model deployment address = .ok (some scaler))
    (owned : ControlledBy uid deployment) : ControlledBy uid scaler := by
  unfold desiredScaler at h
  split at h
  · cases h
  · rename_i scaling _
    cases pending : trigger model address scaling.targetPendingRequests "llm_d_epp_flow_control_queue_size" with
    | error e => rw [pending] at h; cases h
    | ok p =>
      cases running : trigger model address scaling.targetRunningRequests "llm_d_epp_request_running" with
      | error e => rw [pending, running] at h; cases h
      | ok r =>
        rw [pending, running] at h
        cases h
        exact owned

/-! ## Careful calls -/

-- a server-side apply keeps the owners that are applied
variable (keeps : ∀ uid old new, ControlledBy uid new → ControlledBy uid (serverApply old new))

theorem getOpt_ensures {kind : Kind} {name : String} {Q : List Object → Option Object → Prop}
    (h : ∀ more found, seen ⊆ more → (∀ o, found = some o → o ∈ more) → Q more found) :
    Program.Ensures (ControlledBy uid) seen (getOpt kind name) Q := by
  refine .asked trivial fun answer _ => ?_
  cases answer with
  | error => trivial
  | ok objects =>
    exact h _ _ (List.subset_append_right ..) fun o found => List.mem_append_left _ (List.mem_of_head? found)

theorem put_ensures {call : ObjectCall Key Child} {Q : List Object → Object → Prop}
    (allowed : call.Allowed (ControlledBy uid) seen)
    (h : ∀ more o rest, call.Answers (.ok (o :: rest)) → seen ⊆ more → o ∈ more → Q more o) :
    Program.Ensures (ControlledBy uid) seen (put call) Q := by
  refine .asked allowed fun answer answers => ?_
  cases answer with
  | error => trivial
  | ok objects =>
    cases objects with
    | nil => trivial
    | cons o rest =>
      exact h _ o rest answers (List.subset_append_right ..) (List.mem_append_left _ (List.mem_cons_self ..))

/-- What was seen before a call is seen after it. -/
theorem put_seen {call : ObjectCall Key Child} (allowed : call.Allowed (ControlledBy uid) seen) :
    Program.Ensures (ControlledBy uid) seen (put call) fun more _ => seen ⊆ more :=
  put_ensures allowed fun _ _ _ _ sub _ => sub

include keeps in
/-- A child is written where the model controls what was read and what is desired. -/
theorem sync_seen {kind : Kind} {previous : Option Object} {desired : Option Child}
    (known : ∀ o, previous = some o → o ∈ seen)
    (owned : ∀ child, desired = some child → ControlledBy model.metadata.uid child) :
    Program.Ensures (ControlledBy model.metadata.uid) seen (sync serverApply kind model previous desired)
      fun more _ => seen ⊆ more := by
  unfold sync
  cases desired with
  | some child =>
    cases previous with
    | some o =>
      refine .check fun _ mine => ?_
      exact .seq (put_seen ⟨known o rfl, ensureOwned_iff.1 mine, keeps _ _ _ (owned child rfl)⟩) fun more _ _ sub => sub
    | none => exact .seq (put_seen (owned child rfl)) fun more _ _ sub => sub
  | none =>
    cases previous with
    | none => exact List.Subset.refl _
    | some o =>
      refine .ite (fun mine => .asked ⟨known o rfl, ensureOwned_iff.1 mine⟩ fun answer _ => ?_) fun _ =>
        List.Subset.refl _
      cases answer with
      | error => trivial
      | ok objects => exact List.subset_append_right ..

/-- The recommendation is found under the model, or created under it. -/
theorem scaleRow_ensures {found : Option Object} (known : ∀ o, found = some o → o ∈ seen) :
    Program.Ensures (ControlledBy model.metadata.uid) seen (scaleRow model found)
      fun more row => seen ⊆ more ∧ row ∈ more ∧ ControlledBy model.metadata.uid row.content := by
  unfold scaleRow
  cases found with
  | some row =>
    refine .check fun _ mine => .ite (fun _ => trivial) fun _ => ?_
    exact ⟨List.Subset.refl _, known row rfl, ensureOwned_iff.1 mine⟩
  | none =>
    cases owner : controllerOwnerRef model with
    | none => trivial
    | some ref =>
      have own := Child.owned_controlled owner
      refine put_ensures (own _) fun more o rest stored sub mem => ⟨sub, mem, ?_⟩
      obtain ⟨_, he, -, content⟩ := stored
      cases he
      rw [content]
      exact own _

include keeps in
theorem syncScale_seen {replicas : Int} {selector : String} :
    Program.Ensures (ControlledBy model.metadata.uid) seen (syncScale serverApply model replicas selector)
      fun more _ => seen ⊆ more := by
  unfold syncScale
  refine .ite (fun _ => trivial) fun _ => .asked trivial fun answer answers => ?_
  have sub : seen ⊆ answer.told ++ seen := List.subset_append_right ..
  cases answer with
  | error error => exact .ite (fun _ => sub) fun _ => trivial
  | ok objects =>
    have known : ∀ o, objects.head? = some o → o ∈ Answer.told (.ok objects) ++ seen :=
      fun o found => List.mem_append_left _ (List.mem_of_head? found)
    refine .ite (fun _ => ?_) fun _ => ?_
    · exact .seq (sync_seen keeps known fun _ none => by cases none) fun more _ sub' _ => List.Subset.trans sub sub'
    · refine .seq (scaleRow_ensures known) fun more row _ facts => ?_
      obtain ⟨sub', mem, own⟩ := facts
      refine .ite (fun _ => List.Subset.trans sub sub') fun _ => ?_
      exact .seq (put_seen ⟨mem, own, own⟩) fun more' _ _ sub'' => List.Subset.trans sub (List.Subset.trans sub' sub'')

/-! ## Reconciliations -/

/-- Everything that was read is known. -/
structure Inventory.Known (old : Inventory) (seen : List Object) : Prop where
  existing : ∀ o, old.existing = some o → o ∈ seen
  service : ∀ o, old.service = some o → o ∈ seen
  pdb : ∀ o, old.pdb = some o → o ∈ seen
  pool : ∀ o, old.pool = some o → o ∈ seen
  scalers : ∀ o ∈ old.scalers, o ∈ seen
  hpas : ∀ o ∈ old.hpas, o ∈ seen

theorem Inventory.Known.more {old : Inventory} (h : old.Known seen) {more : List Object}
    (sub : seen ⊆ more) : old.Known more :=
  ⟨fun o ho => sub (h.existing o ho), fun o ho => sub (h.service o ho), fun o ho => sub (h.pdb o ho),
    fun o ho => sub (h.pool o ho), fun o ho => sub (h.scalers o ho), fun o ho => sub (h.hpas o ho)⟩

/-- The model controls everything that it wants. -/
structure Wanted.Owned (wanted : Wanted) (uid : Option String) : Prop where
  deployment : ControlledBy uid wanted.deployment
  service : ControlledBy uid wanted.service
  pdb : ∀ child, wanted.pdb = some child → ControlledBy uid child
  pool : ∀ child, wanted.pool = some child → ControlledBy uid child
  scaler : ∀ child, wanted.scaler = some child → ControlledBy uid child

theorem listHpas_ensures {Q : List Object → List Object → Prop}
    (h : ∀ more objects, seen ⊆ more → (∀ o ∈ objects, o ∈ more) → Q more objects) :
    Program.Ensures (ControlledBy uid) seen listHpas Q := by
  refine .asked trivial fun answer _ => ?_
  cases answer with
  | error => trivial
  | ok objects => exact h _ objects (List.subset_append_right ..) fun o ho => List.mem_append_left _ ho

theorem listScalers_ensures {Q : List Object → List Object → Prop}
    (h : ∀ more objects, seen ⊆ more → (∀ o ∈ objects, o ∈ more) → Q more objects) :
    Program.Ensures (ControlledBy uid) seen (listScalers model) Q := by
  refine .asked trivial fun answer _ => ?_
  cases answer with
  | error error =>
    cases error with
    | notFound =>
      exact .ite (fun _ => h _ [] (List.subset_append_right ..) fun _ none => absurd none List.not_mem_nil)
        fun _ => trivial
    | conflict => trivial
    | unavailable => trivial
  | ok objects => exact h _ objects (List.subset_append_right ..) fun o ho => List.mem_append_left _ ho

theorem checkPicker_seen : Program.Ensures (ControlledBy uid) seen (checkPicker model) fun more _ => seen ⊆ more := by
  unfold checkPicker
  cases model.spec.serving with
  | none => exact List.Subset.refl _
  | some serving => exact .seq (getOpt_ensures fun more _ sub _ => sub) fun more picker _ sub => .lift fun _ _ => sub

/-- The inspection writes nothing, and what it wants is the model's. -/
theorem inspect_ensures : Program.Ensures (ControlledBy model.metadata.uid) seen (inspect context model)
    fun more result => result.1.Known more ∧ result.2.Owned model.metadata.uid := by
  unfold inspect
  refine .seq (getOpt_ensures fun more found _ known => known) fun s₁ existing _ known₁ => ?_
  refine .seq (getOpt_ensures fun more found sub known => And.intro sub known) fun s₂ service _ facts₂ => ?_
  obtain ⟨sub₂, known₂⟩ := facts₂
  refine .check fun _ _ => .check fun children computed => ?_
  obtain ⟨deployment, serviceChild⟩ := children
  obtain ⟨ownDeployment, ownService⟩ := desired_controlled computed
  refine .check fun optional computed' => ?_
  obtain ⟨pdb, pool⟩ := optional
  obtain ⟨ownPdb, ownPool⟩ := desiredOptional_controlled computed' ownDeployment
  refine .seq (listHpas_ensures fun more objects sub known => And.intro sub known) fun s₃ hpas _ facts₃ => ?_
  obtain ⟨sub₃, known₃⟩ := facts₃
  refine .seq (listScalers_ensures fun more objects sub known => And.intro sub known) fun s₄ scalers _ facts₄ => ?_
  obtain ⟨sub₄, known₄⟩ := facts₄
  refine .check fun _ _ => .check fun scaler wanted => ?_
  refine .seq (getOpt_ensures fun more found sub known => And.intro sub known) fun s₅ oldPdb _ facts₅ => ?_
  obtain ⟨sub₅, known₅⟩ := facts₅
  refine .seq (getOpt_ensures fun more found sub known => And.intro sub known) fun s₆ oldPool _ facts₆ => ?_
  obtain ⟨sub₆, known₆⟩ := facts₆
  refine .check fun _ _ => .check fun _ _ => .seq checkPicker_seen fun s₇ _ _ sub₇ => ?_
  refine ⟨⟨fun o ho => ?_, fun o ho => ?_, fun o ho => ?_, fun o ho => ?_, fun o ho => ?_, fun o ho => ?_⟩,
    ⟨ownDeployment, ownService, ownPdb, ownPool, fun child hc => ?_⟩⟩
  · exact sub₇ (sub₆ (sub₅ (sub₄ (sub₃ (sub₂ (known₁ o ho))))))
  · exact sub₇ (sub₆ (sub₅ (sub₄ (sub₃ (known₂ o ho)))))
  · exact sub₇ (sub₆ (known₅ o ho))
  · exact sub₇ (known₆ o ho)
  · exact sub₇ (sub₆ (sub₅ (known₄ o ho)))
  · exact sub₇ (sub₆ (sub₅ (sub₄ (known₃ o ho))))
  · obtain rfl : scaler = some child := hc
    exact desiredScaler_controlled wanted ownDeployment

include keeps in
theorem syncAll_careful {now : Int} {nameSpace selector : String} {port : Int} {old : Inventory}
    {oldScaler : Option Object} {wanted : Wanted} (known : old.Known seen)
    (scaler : ∀ o, oldScaler = some o → o ∈ seen) (owned : wanted.Owned model.metadata.uid) :
    (syncAll serverApply context now model nameSpace selector port old oldScaler wanted).Careful
      (ControlledBy model.metadata.uid) seen := by
  unfold syncAll
  refine .seq (sync_seen keeps known.existing fun child hc => Option.some.inj hc ▸ owned.deployment)
    fun s₁ result _ sub₁ => ?_
  cases result with
  | none => trivial
  | some deployment =>
    have known₁ := known.more sub₁
    refine .seq (sync_seen keeps known₁.service fun child hc => Option.some.inj hc ▸ owned.service)
      fun s₂ _ _ sub₂ => ?_
    have known₂ := known₁.more sub₂
    refine .seq (sync_seen keeps known₂.pdb owned.pdb) fun s₃ _ _ sub₃ => ?_
    have known₃ := known₂.more sub₃
    refine .seq (sync_seen keeps known₃.pool owned.pool) fun s₄ _ _ sub₄ => ?_
    have last : ∀ o, oldScaler = some o → o ∈ s₄ := fun o ho => sub₄ (sub₃ (sub₂ (sub₁ (scaler o ho))))
    refine .ite (fun _ => ?_) fun _ => trivial
    exact .seq (sync_seen keeps last owned.scaler) fun _ _ _ _ => trivial

include keeps in
/-- A reconciliation writes nothing that its model does not control. -/
theorem reconcileInner_careful (context : Context) (now : Int) (model : Api.ModelDeployment) :
    (reconcileInner serverApply context now model).Careful (ControlledBy model.metadata.uid) [] := by
  unfold reconcileInner
  refine .ite (fun _ => trivial) fun _ => ?_
  cases model.nameSpace with
  | none => trivial
  | some nameSpace =>
    refine .seq inspect_ensures fun s₁ result _ facts => ?_
    obtain ⟨old, wanted⟩ := result
    obtain ⟨known, owned⟩ := facts
    refine .seq (syncScale_seen keeps) fun s₂ _ _ sub => ?_
    have known := known.more sub
    cases (portsOf wanted.service).head? with
    | none => trivial
    | some port =>
      have scaler : ∀ o, old.scalers.find? (fun s => s.name.2 = model.metadata.nameAny) = some o → o ∈ s₂ :=
        fun o ho => known.scalers o (List.mem_of_find?_eq_some ho)
      dsimp only
      split
      · refine .seq (sync_seen keeps (fun o ho => known.hpas o (List.mem_of_find?_eq_some ho))
          fun _ none => by cases none) ?_
        exact fun _ _ _ _ => trivial
      · refine .seq (sync_seen keeps scaler fun _ none => by cases none) fun _ _ _ _ => trivial
      · trivial
      · exact syncAll_careful keeps known scaler owned

/-! ## Runs -/

abbrev operators : Client Key Child (Option String) (Option String × Reconciliation (Option ModelDeploymentStatus)) :=
  programs Key Child (Option String) Error (Option ModelDeploymentStatus)

/-- A reconciliation of some model, under the uid of the model. -/
def Reconciles (serverApply : Child → Child → Child)
    (p : Option String × Reconciliation (Option ModelDeploymentStatus)) : Prop :=
  ∃ (context : Context) (now : Int) (model : Api.ModelDeployment), p =
    (model.metadata.uid, reconcileInner serverApply context now model)

/-- In every interleaving of any reconciliations of any models with the writes of others, with calls that are
refused or whose answers are lost: an object is written over only by a model that controls it, which it then
still does, and an object changes or disappears only when a reconciliation of a model that controls it makes a
call, or somebody else writes it. -/
theorem Shared.run_controlled (serverApply : Child → Child → Child)
    (keeps : ∀ uid old new, ControlledBy uid new → ControlledBy uid (serverApply old new)) (objects : Objects Key Child)
    (before after : List (Shared.Act Key Child (Option String × Reconciliation (Option ModelDeploymentStatus))))
    (comes : ∀ p, .start p ∈ before ++ after → Reconciles serverApply p) :
    let system := Shared.run operators ⟨objects, []⟩ before
    let system' := Shared.run operators system after
    ∀ key o, system.objects.get? key = some o →
      (∀ act o', (∀ uid content, act ≠ .other key uid content) →
        (system.step operators act).objects.get? key = some o' →
        o'.uid = o.uid ∧ (o'.content = o.content ∨ ∃ uid, ControlledBy uid o.content ∧ ControlledBy uid o'.content)) ∧
      ((∀ uid content, .other key uid content ∉ after) →
        (∀ act ∈ after, ∀ i, act.caller = some i → ∀ p, system'.clients[i]? = some p → ¬ControlledBy p.1 o.content) →
        ∃ o', system'.objects.get? key = some o' ∧ o'.uid = o.uid ∧ o'.content = o.content) := by
  intro system system' key o found
  have careful := programs_careful (κ := Key) (α := Child) (ε := Error) (β := Option ModelDeploymentStatus) ControlledBy
  have started : ∀ p, .start p ∈ before ++ after → p.2.Careful (ControlledBy p.1) [] := by
    intro p hp
    obtain ⟨context, now, model, rfl⟩ := comes p hp
    exact reconcileInner_careful keeps context now model
  obtain ⟨step, run⟩ := Shared.run_theirs careful objects before after started key o found
  constructor
  · intro act o' quiet found'
    obtain ⟨uid, content⟩ := step act o' quiet found'
    exact ⟨uid, content.imp_right fun ⟨p, _, own, own'⟩ => ⟨p.1, own, own'⟩⟩
  · exact run

/-! ## A run -/

def sampleModel : Api.ModelDeployment :=
  { metadata := ⟨some "demo", none, some "model-uid", none, none⟩
    nameSpace := some "xscope-system", generation := some 1
    spec :=
      { model :=
          ⟨"demo", "v1", "s3://models/demo", "sha256:aaaaaaaaaaaaaaaaaaaaaaaaaaaaaaaaaaaaaaaaaaaaaaaaaaaaaaaaaaaaaaaa"⟩
        runtime := ⟨"runtime:test", "openai", 8000, [], .default⟩, replicas := 2, resources := .obj []
        autoscaling := none, disruptionBudget := none, serving := none, rollout := none, nodeSelector := none
        tolerations := none }
    status := none }

/-- Somebody else creates a Service of the name after the reconciliation has seen none. -/
def foreignRun : List (Shared.Act Key Child (Option String × Reconciliation (Option ModelDeploymentStatus))) :=
  [.start (some "model-uid", reconcileInner (fun _ new => new)
    ⟨"local", "local", "http://prometheus:9090"⟩ 0 sampleModel), .call 0 "" .none, .call 0 "" .none, .call 0 "" .none,
      .call 0 "" .none, .call 0 "" .none, .call 0 "" .none, .call 0 "" .none,
    .call 0 "deployment-uid" .none, .other (.service, "demo") "other-uid" (some ⟨none, none, [], none, .null, .null⟩)]

/-- The reconciliation goes on, and the Service of the other one stays. -/
theorem sample_controlled : ∃ o, (Shared.run operators ⟨⟨.empty, 0, nofun⟩, []⟩ foreignRun).objects.get?
    (.service, "demo") = some o ∧
    (∃ d, (Shared.run operators ⟨⟨.empty, 0, nofun⟩, []⟩ foreignRun).objects.get? (.deployment, "demo") = some d ∧
      ControlledBy (some "model-uid") d.content) ∧
    ∃ o', (Shared.run operators (Shared.run operators ⟨⟨.empty, 0, nofun⟩, []⟩ foreignRun)
      [.call 0 "" .none]).objects.get? (.service, "demo") =
      some o' ∧ o'.uid = o.uid ∧ o'.content = o.content := by
  have found : ((Shared.run operators ⟨⟨.empty, 0, nofun⟩, []⟩ foreignRun).objects.get? (.service, "demo")).any
      (fun o => decide (o.content.ownerReferences = none)) = true := by decide +kernel
  have created : ((Shared.run operators ⟨⟨.empty, 0, nofun⟩, []⟩ foreignRun).objects.get? (.deployment, "demo")).any
      (fun d => decide (d.content.ownerReferences =
        some [⟨modelApiVersion, "ModelDeployment", "demo", "model-uid", some true⟩])) = true := by
    decide +kernel
  obtain ⟨o, found, unowned⟩ := (Option.any_eq_true _ _).1 found
  have unowned : o.content.ownerReferences = none := of_decide_eq_true unowned
  obtain ⟨d, deployment, owner⟩ := (Option.any_eq_true _ _).1 created
  refine ⟨o, found, ⟨d, deployment, _, of_decide_eq_true owner, _, List.mem_singleton_self _, rfl, rfl, rfl, rfl⟩, ?_⟩
  refine (Shared.run_controlled (fun _ new => new) (fun _ _ _ h => h)
    ⟨.empty, 0, nofun⟩ foreignRun [.call 0 "" .none] ?_
    (.service, "demo") o found).2 ?_ ?_
  · intro p hp
    simp only [foreignRun, List.cons_append, List.nil_append, List.mem_cons, Shared.Act.start.injEq, reduceCtorEq,
      List.not_mem_nil, or_false] at hp
    exact ⟨_, _, sampleModel, hp⟩
  · intro uid content he
    cases List.mem_singleton.1 he
  · rintro act he i calls p hp ⟨owners, owned, -⟩
    rw [unowned] at owned
    cases owned

end Xscope.Kubernetes.Controller

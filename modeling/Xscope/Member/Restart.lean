/-
A delivery that is applied again and again. Its runs can stop at every call, and lose the answer to
every write; what was written under a name stands for the item there, and a run that completes has
left what one run from the start leaves.
-/
import Xscope.Member.Newest

namespace Xscope.Member

open Fleet

/-! ## A run that nothing interrupts -/

section
variable (env : Env) (model : String → Json → Option Json) (config : Config)

/-- One item; an object that is created gets its uid from `uids`. -/
def applyItem (delivery : ClusterDelivery) (uids : String → String) (item : DesiredDeployment) (desired : Option Json)
    (cluster : Cluster) : Except ErrorCode Unit × Cluster :=
  match planItem config delivery item desired (cluster.get? item.name) with
  | .error code => (.error code, cluster)
  | .ok none => (.ok (), cluster)
  | .ok (some mutation) => match mutation.run (uids item.name) cluster with
    | none => (.error .kubernetesUnavailable, cluster)
    | some cluster => (.ok (), cluster)

/-- The items in order, up to the first error. -/
def applyItems (delivery : ClusterDelivery) (uids : String → String) :
    List (DesiredDeployment × Option Json) → Cluster → Except ErrorCode Unit × Cluster
  | [], cluster => (.ok (), cluster)
  | (item, desired) :: rest, cluster => match applyItem config delivery uids item desired cluster with
    | (.error code, cluster) => (.error code, cluster)
    | (.ok (), cluster) => applyItems delivery uids rest cluster

def apply (delivery : ClusterDelivery) (uids : String → String) (cluster : Cluster) : Except ErrorCode Unit × Cluster :=
  match validateDelivery env model config delivery with
  | .error code => (.error code, cluster)
  | .ok models => applyItems config delivery uids (delivery.deployments.zip models) cluster

/-! ## Attempts -/

/-- The next call of one of the runs of the delivery. A run that is left standing at a write may still
make it while others go on. -/
inductive Attempt where
  | start
  | read (run : Nat)
  | write (run : Nat) (uid : String) (lost : Bool)
  | fail (run : Nat)

def Attempt.run (delivery : ClusterDelivery) (attempt : Attempt) (system : System) : System := match attempt with
  | .start => { system with runs := system.runs ++ [Run.start env model config delivery] }
  | .read i => system.read config i
  | .write i uid lost => system.write i uid lost
  | .fail i => system.fail i

def Attempt.runAll (delivery : ClusterDelivery) (attempts : List Attempt) (system : System) : System :=
  attempts.foldl (fun system attempt => attempt.run env model config delivery system) system

end

variable {env : Env} {model : String → Json → Option Json} {config : Config} {delivery : ClusterDelivery}
  {item : DesiredDeployment} {desired : Option Json}

/-! ## What an item leaves -/

/-- The object without its revision. -/
def identity (o : Current) : String × ModelDeployment := (o.uid, o.content)

/-- What stands under the name of an item after its write. -/
def left (uid : String) : Option Mutation → Option (String × ModelDeployment)
  | none => none
  | some (.create _ content) => some (uid, content)
  | some (.replace current content) => some (current.uid, content)
  | some (.delete _) => none

/-- The four answers of `planItem`. -/
inductive Plan (config : Config) (delivery : ClusterDelivery) (item : DesiredDeployment) :
    Option Json → Option Current → Option Mutation → Prop
  | absent : Plan config delivery item none none none
  | create (spec : Json) (fresh : item.expectedUid = none) :
    Plan config delivery item (some spec) none (some (.create item.name (applied config delivery spec)))
  | replace (spec : Json) (current : Current) (owned : checkOwner config delivery current = .ok ()) :
    Plan config delivery item (some spec) (some current) (some (.replace current (applied config delivery spec)))
  | delete (current : Current) (owned : checkOwner config delivery current = .ok ())
      (same : item.deleteUid = some current.uid) :
    Plan config delivery item none (some current) (some (.delete current))

theorem planItem_plan {found : Option Current} {m : Option Mutation}
    (h : planItem config delivery item desired found = .ok m) :
    Plan config delivery item desired found m := by
  unfold planItem at h
  split at h
  · cases h
  · rename_i same
    cases found with
    | none =>
      cases desired with
      | none => cases h; exact .absent
      | some spec =>
        cases h
        refine .create spec ?_
        by_contra expected
        exact same ⟨Option.isSome_iff_ne_none.2 expected, fun he => expected he.symm⟩
    | some current =>
      cases owned : checkOwner config delivery current with
      | error code => simp [owned, bind, Except.bind] at h
      | ok =>
        simp only [owned, bind, Except.bind] at h
        cases desired with
        | some spec => cases h; exact .replace spec current owned
        | none =>
          dsimp only at h
          split at h
          · rename_i named
            cases h
            exact .delete current owned named.symm
          · cases h

theorem checkOwner_owner {current : Current} (h : checkOwner config delivery current = .ok ()) :
    current.content.owner = some config.clusterId := by
  unfold checkOwner at h
  split at h
  · cases h
  · rename_i owner
    exact not_not.1 owner

/-- What a delivery has written it may write again. -/
theorem checkOwner_applied {current : Current} {spec : Json} (h : current.content = applied config delivery spec) :
    checkOwner config delivery current = .ok () := by
  unfold checkOwner
  rw [h]
  simp [applied]

/-- The item was applied: `now` is what its write over `found` leaves. -/
def Done (config : Config) (delivery : ClusterDelivery) (item : DesiredDeployment) (desired : Option Json)
    (found now : Option Current) : Prop :=
  ∃ m uid, planItem config delivery item desired found = .ok m ∧ now.map identity = left uid m

/-- An item that was applied leaves the same when it is applied again. -/
theorem Done.again {found now : Option Current} {m : Option Mutation}
    (done : Done config delivery item desired found now) (plan : planItem config delivery item desired now = .ok m)
    (uid : String) : left uid m = now.map identity := by
  obtain ⟨m₀, uid₀, plan₀, hnow⟩ := done
  cases planItem_plan plan₀ with
  | absent =>
    obtain rfl : now = none := Option.map_eq_none_iff.1 hnow
    cases planItem_plan plan
    rfl
  | delete current owned same =>
    obtain rfl : now = none := Option.map_eq_none_iff.1 hnow
    cases planItem_plan plan
    rfl
  | create spec fresh =>
    obtain ⟨o, rfl, ho⟩ := Option.map_eq_some_iff.1 hnow
    cases planItem_plan plan
    show some (o.uid, applied config delivery spec) = some (o.uid, o.content)
    rw [(Prod.mk.inj ho).2]
  | replace spec current owned =>
    obtain ⟨o, rfl, ho⟩ := Option.map_eq_some_iff.1 hnow
    cases planItem_plan plan
    show some (o.uid, applied config delivery spec) = some (o.uid, o.content)
    rw [(Prod.mk.inj ho).2]

/-- An item that was not applied yet, or was before, is applied by the next write. -/
theorem Done.step {found now now' : Option Current} {m : Option Mutation} {uid : String}
    (reached : now = found ∨ Done config delivery item desired found now)
    (plan : planItem config delivery item desired now = .ok m) (write : now'.map identity = left uid m) :
    Done config delivery item desired found now' := by
  rcases reached with rfl | done
  · exact ⟨m, uid, plan, write⟩
  · have same := done.again plan uid
    obtain ⟨m₀, uid₀, plan₀, hnow⟩ := done
    exact ⟨m₀, uid₀, plan₀, by rw [write, same, hnow]⟩

/-- An item that was applied is accepted again, unless it names the object that it deleted. -/
theorem Done.accepted {found now : Option Current} (done : Done config delivery item desired found now)
    (free : desired = none → item.expectedUid = none) : ∃ m, planItem config delivery item desired now = .ok m := by
  obtain ⟨m₀, uid₀, plan₀, hnow⟩ := done
  cases planItem_plan plan₀ with
  | absent =>
    obtain rfl : now = none := Option.map_eq_none_iff.1 hnow
    exact ⟨_, plan₀⟩
  | delete current owned same =>
    obtain rfl : now = none := Option.map_eq_none_iff.1 hnow
    exact ⟨none, by simp [planItem, free rfl, pure, Except.pure]⟩
  | create spec fresh =>
    obtain ⟨o, rfl, ho⟩ := Option.map_eq_some_iff.1 hnow
    have owned := checkOwner_applied (Prod.mk.inj ho).2
    exact ⟨some (.replace o (applied config delivery spec)), by
      simp [planItem, fresh, owned, bind, Except.bind, pure, Except.pure]⟩
  | replace spec current owned =>
    obtain ⟨o, rfl, ho⟩ := Option.map_eq_some_iff.1 hnow
    have again := checkOwner_applied (Prod.mk.inj ho).2
    have uid : o.uid = current.uid := (Prod.mk.inj ho).1
    have expected : ¬(item.expectedUid.isSome ∧ some current.uid ≠ item.expectedUid) := by
      intro other
      simp [planItem, other] at plan₀
    exact ⟨some (.replace o (applied config delivery spec)),
      by simp [planItem, uid, expected, again, bind, Except.bind, pure, Except.pure]⟩

/-! ## One write -/

theorem create_of_absent {cluster : Cluster} {name : String} (absent : cluster.get? name = none) (uid : String)
    (content : ModelDeployment) : ∃ cluster', cluster.create name uid content = some cluster' := by
  obtain ⟨rows, inserted⟩ := Table.insert?_of_none (t := cluster.rows)
    (r := ⟨name, uid, cluster.revision + 1, content⟩) absent
  unfold Objects.create
  split
  · rename_i refused
    rw [inserted] at refused
    cases refused
  · exact ⟨_, rfl⟩

theorem holds_of_get? {cluster : Cluster} {name : String} {o : Current}
    (h : cluster.get? name = some o) : cluster.holds o = true := by
  obtain rfl := Objects.get?_name h
  unfold Objects.holds
  rw [h]
  simp

/-- A write that was planned from what is stored takes effect. -/
theorem planItem_run {cluster : Cluster} {m : Mutation}
    (plan : planItem config delivery item desired (cluster.get? item.name) = .ok (some m)) (uid : String) :
    ∃ cluster', m.run uid cluster = some cluster' := by
  have stored : ∀ current, cluster.get? item.name = some current → cluster.holds current = true :=
    fun _ h => holds_of_get? h
  generalize hf : cluster.get? item.name = found at plan
  cases planItem_plan plan with
  | create spec fresh => exact create_of_absent hf uid _
  | replace spec current owned => exact ⟨_, if_pos (stored current hf)⟩
  | delete current owned same => exact ⟨_, if_pos (stored current hf)⟩

/-- A write that takes effect was planned from what is stored. -/
theorem planItem_stored {cluster cluster' : Cluster} {found : Option Current} {m : Mutation} {uid : String}
    (plan : planItem config delivery item desired found = .ok (some m))
    (seen : ∀ o, found = some o → o.name = item.name ∧ cluster.Seen o) (h : m.run uid cluster = some cluster') :
    cluster.get? item.name = found := by
  cases planItem_plan plan with
  | create spec fresh => exact (Objects.get?_create h).1
  | replace spec current owned =>
    obtain ⟨named, seen⟩ := seen current rfl
    rw [← named]
    exact seen.holds (Objects.replace_some h).1
  | delete current owned same =>
    obtain ⟨named, seen⟩ := seen current rfl
    rw [← named]
    exact seen.holds (Objects.remove_some h).1

/-- A write for an item: the other names stay as they are. -/
structure Writes (config : Config) (delivery : ClusterDelivery) (item : DesiredDeployment) (desired : Option Json)
    (uid : String) (m : Mutation) (cluster cluster' : Cluster) : Prop where
  plan : planItem config delivery item desired (cluster.get? item.name) = .ok (some m)
  left : (cluster'.get? item.name).map identity = left uid (some m)
  others : ∀ name, item.name ≠ name → cluster'.get? name = cluster.get? name
  seen : ∀ read, cluster.Seen read → cluster'.Seen read

theorem Writes.of_run {cluster cluster' : Cluster} {m : Mutation} {uid : String}
    (plan : planItem config delivery item desired (cluster.get? item.name) = .ok (some m))
    (h : m.run uid cluster = some cluster') : Writes config delivery item desired uid m cluster cluster' := by
  have named : ∀ o, cluster.get? item.name = some o → o.name = item.name := fun o ho => Objects.get?_name ho
  generalize hf : cluster.get? item.name = found at plan named
  have seen : ∀ read, cluster.Seen read → cluster'.Seen read := by
    refine fun read hs => m.run_seen hs (fun o ho => ?_) h
    cases planItem_plan plan with
    | create spec fresh => cases ho
    | replace spec current owned => cases ho; exact .of_get? hf
    | delete current owned same => cases ho; exact .of_get? hf
  refine ⟨hf ▸ plan, ?_, fun k hk => ?_, seen⟩
  · cases planItem_plan plan with
    | create spec fresh =>
      have lookup := (Objects.get?_create h).2.2 item.name
      rw [lookup, if_pos rfl]
      rfl
    | replace spec current owned =>
      obtain ⟨-, rfl⟩ := Objects.replace_some h
      split
      · rename_i same
        rw [hf, ← same]
        rfl
      · have at_name : cluster.get? current.name = some current := by rw [named current rfl]; exact hf
        rw [Objects.get?_store at_name, if_pos (named current rfl)]
        rfl
    | delete current owned same =>
      obtain ⟨-, rfl⟩ := Objects.remove_some h
      rw [Objects.get?_delete, if_pos (named current rfl)]
      rfl
  · cases planItem_plan plan with
    | create spec fresh => rw [(Objects.get?_create h).2.2 k, if_neg hk]
    | replace spec current owned =>
      obtain ⟨-, rfl⟩ := Objects.replace_some h
      split
      · rfl
      · have at_name : cluster.get? current.name = some current := by rw [named current rfl]; exact hf
        rw [Objects.get?_store at_name, named current rfl, if_neg hk]
    | delete current owned same =>
      obtain ⟨-, rfl⟩ := Objects.remove_some h
      rw [Objects.get?_delete, named current rfl, if_neg hk]

/-- The object of somebody else is not written. -/
theorem Writes.foreign {cluster cluster' : Cluster} {m : Mutation} {uid : String}
    (h : Writes config delivery item desired uid m cluster cluster') {name : String} {o : Current}
    (found : cluster.get? name = some o) (foreign : o.content.owner ≠ some config.clusterId) :
    cluster'.get? name = some o := by
  by_cases hn : item.name = name
  · obtain rfl := hn
    have plan := h.plan
    rw [found] at plan
    cases planItem_plan plan with
    | replace spec current owned => exact absurd (checkOwner_owner owned) foreign
    | delete current owned same => exact absurd (checkOwner_owner owned) foreign
  · rw [h.others name hn, found]

/-- An object under the name keeps its uid, or is deleted by it. -/
theorem Writes.uid {cluster cluster' : Cluster} {m : Mutation} {uid : String}
    (h : Writes config delivery item desired uid m cluster cluster') {o : Current}
    (found : cluster.get? item.name = some o) :
    (cluster'.get? item.name = none ∧ item.deleteUid = some o.uid) ∨ ∃ o', cluster'.get? item.name = some o' ∧
      o'.uid = o.uid := by
  have plan := h.plan
  have after := h.left
  rw [found] at plan
  cases planItem_plan plan with
  | replace spec current owned =>
    obtain ⟨o', ho', same⟩ := Option.map_eq_some_iff.1 after
    exact .inr ⟨o', ho', (Prod.mk.inj same).1⟩
  | delete current owned same => exact .inl ⟨Option.map_eq_none_iff.1 after, same⟩

/-! ## All items -/

/-- The items of a delivery with their models; none when it is not valid. -/
def itemsOf (env : Env) (model : String → Json → Option Json) (config : Config) (delivery : ClusterDelivery) :
    List (DesiredDeployment × Option Json) := (Run.start env model config delivery).rest

theorem itemsOf_valid {models : List (Option Json)} (h : validateDelivery env model config delivery = .ok models) :
    itemsOf env model config delivery = delivery.deployments.zip models := by
  unfold itemsOf Run.start
  rw [h]

theorem itemsOf_invalid {code : ErrorCode} (h : validateDelivery env model config delivery = .error code) :
    itemsOf env model config delivery = [] := by
  unfold itemsOf Run.start
  rw [h]

theorem itemsOf_mem {p : DesiredDeployment × Option Json} (h : p ∈ itemsOf env model config delivery) :
    p.1 ∈ delivery.deployments := by
  cases hv : validateDelivery env model config delivery with
  | error code => rw [itemsOf_invalid hv] at h; cases h
  | ok models =>
    rw [itemsOf_valid hv] at h
    exact (List.of_mem_zip h).1

theorem itemsOf_distinct : ((itemsOf env model config delivery).map (·.1.name)).Nodup := by
  cases hv : validateDelivery env model config delivery with
  | error code =>
    rw [itemsOf_invalid hv]
    exact List.nodup_nil
  | ok models =>
    obtain ⟨distinct, length, -⟩ := validateDelivery_ok hv
    rw [itemsOf_valid hv]
    have names : (delivery.deployments.zip models).map (·.1.name) = delivery.deployments.map (·.name) := by
      rw [← List.map_fst_zip length.le, List.map_map]
      simp only [List.map_fst_zip length.le]
      rfl
    rw [names]
    exact distinct

theorem itemsOf_same {p q : DesiredDeployment × Option Json} (hp : p ∈ itemsOf env model config delivery)
    (hq : q ∈ itemsOf env model config delivery) (name : p.1.name = q.1.name) : p = q :=
  List.inj_on_of_nodup_map itemsOf_distinct hp hq name

/-- An item was applied over what the cluster held first. -/
abbrev DoneAt (config : Config) (delivery : ClusterDelivery) (first cluster : Cluster)
    (p : DesiredDeployment × Option Json) : Prop :=
  Done config delivery p.1 p.2 (first.get? p.1.name) (cluster.get? p.1.name)

/-- A write for one item keeps what was applied for every item. -/
theorem Writes.done {first cluster cluster' : Cluster} {m : Mutation} {uid : String}
    {p q : DesiredDeployment × Option Json} (h : Writes config delivery p.1 p.2 uid m cluster cluster')
    (hp : p ∈ itemsOf env model config delivery) (hq : q ∈ itemsOf env model config delivery)
    (done : DoneAt config delivery first cluster q) :
    DoneAt config delivery first cluster' q := by
  by_cases hn : p.1.name = q.1.name
  · obtain rfl := itemsOf_same hp hq hn
    exact .step (.inr done) h.plan h.left
  · show Done ..
    rw [h.others _ hn]
    exact done

/-! ## Runs -/

/-- What holds of a run of the delivery: it is through with items that were applied, and the write it
stands at was planned from an object it has seen. -/
structure Going (env : Env) (model : String → Json → Option Json) (config : Config) (delivery : ClusterDelivery)
    (first cluster : Cluster) (run : Run) : Prop where
  same : run.delivery = delivery
  progress : run.erred = false → ∃ before, itemsOf env model config delivery = before ++ run.rest ∧
    ∀ p ∈ before, DoneAt config delivery first cluster p
  valid : run.erred = false → ∃ models, validateDelivery env model config delivery = .ok models
  writing : ∀ m, run.phase = .writing m → ∃ item desired rest found, run.rest = (item, desired) :: rest ∧
    planItem config delivery item desired found = .ok (some m) ∧ ∀ o, found = some o → o.name = item.name ∧
      cluster.Seen o
  done : run.completed = true → run.rest = []

theorem Going.frame {first cluster cluster' : Cluster} {run : Run}
    (h : Going env model config delivery first cluster run)
    (done : ∀ p ∈ itemsOf env model config delivery, DoneAt config delivery first cluster p →
    DoneAt config delivery first cluster' p)
    (seen : ∀ read, cluster.Seen read → cluster'.Seen read) : Going env model config delivery first cluster' run := by
  refine ⟨h.same, fun live => ?_, h.valid, fun m hm => ?_, h.done⟩
  · obtain ⟨before, split, old⟩ := h.progress live
    exact ⟨before, split, fun p hp => done p (by rw [split]; exact List.mem_append_left _ hp) (old p hp)⟩
  · obtain ⟨item, desired, rest, found, hr, plan, read⟩ := h.writing m hm
    exact ⟨item, desired, rest, found, hr, plan, fun o ho => ⟨(read o ho).1, seen o (read o ho).2⟩⟩

theorem Going.failed {first cluster : Cluster} {run : Run} (h : Going env model config delivery first cluster run) :
    Going env model config delivery first cluster run.failed := by
  unfold Run.failed
  split
  · exact h
  · exact ⟨h.same, nofun, nofun, nofun, nofun⟩

theorem Going.start (first cluster : Cluster) :
    Going env model config delivery first cluster (Run.start env model config delivery) := by
  unfold Run.start
  cases hv : validateDelivery env model config delivery with
  | error code => exact ⟨rfl, nofun, nofun, nofun, nofun⟩
  | ok models =>
    refine ⟨rfl, fun _ => ⟨[], itemsOf_valid hv, nofun⟩, fun _ => ⟨models, hv⟩, fun m hm => ?_, fun h => ?_⟩
    · exact absurd hm proceed_writing
    · exact proceed_completed h

/-- The head of the rest was applied. -/
theorem Going.proceed {first cluster : Cluster} {run : Run} {rest : List (DesiredDeployment × Option Json)}
    (h : Going env model config delivery first cluster run) (live : run.erred = false)
    (hr : run.rest = (item, desired) :: rest) (head : DoneAt config delivery first cluster (item, desired)) :
    Going env model config delivery first cluster { run with rest := rest, phase := Member.proceed rest } := by
  refine ⟨h.same, fun _ => ?_, fun _ => h.valid live, fun m hm => absurd hm proceed_writing,
    fun hd => proceed_completed hd⟩
  obtain ⟨before, split, old⟩ := h.progress live
  refine ⟨before ++ [(item, desired)], by rw [split, hr]; simp, fun p hp => ?_⟩
  rcases List.mem_append.1 hp with hp | hp
  · exact old p hp
  · rw [List.mem_singleton.1 hp]
    exact head

/-- The next item of a run is one of the delivery. -/
theorem Going.head {first cluster : Cluster} {run : Run} {rest : List (DesiredDeployment × Option Json)}
    (h : Going env model config delivery first cluster run) (live : run.erred = false)
    (hr : run.rest = (item, desired) :: rest) :
    (item, desired) ∈ itemsOf env model config delivery := by
  obtain ⟨before, split, -⟩ := h.progress live
  rw [split, hr]
  simp

/-- A completed run is through with every item. -/
theorem Going.completed {first cluster : Cluster} {run : Run} (h : Going env model config delivery first cluster run)
    (completed : run.completed = true) : ∃ models, validateDelivery env model config delivery = .ok models ∧
      ∀ p ∈ itemsOf env model config delivery, DoneAt config delivery first cluster p := by
  have live : run.erred = false := by
    unfold Run.completed at completed
    unfold Run.erred
    split at completed
    · rename_i phase
      rw [phase]
    · cases completed
  obtain ⟨models, hv⟩ := h.valid live
  obtain ⟨before, split, old⟩ := h.progress live
  rw [h.done completed, List.append_nil] at split
  exact ⟨models, hv, fun p hp => old p (by rw [← split]; exact hp)⟩

/-! ## The system -/

/-- What holds after every attempt: an item was applied or stands as at first, and so does every name
that is not in the delivery. -/
structure Progress (env : Env) (model : String → Json → Option Json) (config : Config) (delivery : ClusterDelivery)
    (first : Cluster) (system : System) : Prop where
  items : ∀ p ∈ itemsOf env model config delivery, system.cluster.get? p.1.name = first.get? p.1.name ∨
    DoneAt config delivery first system.cluster p
  runs : ∀ run ∈ system.runs, Going env model config delivery first system.cluster run

/-- An attempt leaves the cluster alone or makes the write of one item. -/
def Attempted (env : Env) (model : String → Json → Option Json) (config : Config) (delivery : ClusterDelivery)
    (cluster cluster' : Cluster) : Prop :=
  cluster' = cluster ∨ ∃ p ∈ itemsOf env model config delivery, ∃ uid m,
    Writes config delivery p.1 p.2 uid m cluster cluster'

theorem Progress.start (first : Cluster) : Progress env model config delivery first (System.start first) :=
  ⟨fun _ _ => .inl rfl, nofun⟩

/-- The runs go on while the cluster stays. -/
theorem Progress.set {first : Cluster} {system : System} (h : Progress env model config delivery first system)
    {i : Nat} {run : Run} {log : List Event} (going : Going env model config delivery first system.cluster run) :
    Progress env model config delivery first { system with runs := system.runs.set i run, log := log } := by
  refine ⟨h.items, fun r hr => ?_⟩
  rcases List.mem_or_eq_of_mem_set hr with hr | rfl
  · exact h.runs r hr
  · exact going

theorem Progress.read {first : Cluster} {system : System}
    (h : Progress env model config delivery first system) (i : Nat) :
    Progress env model config delivery first (system.read config i) := by
  unfold System.read
  cases hi : system.runs[i]? with
  | none => exact h
  | some run =>
    have going := h.runs run (List.mem_of_getElem? hi)
    apply h.set
    unfold Run.read
    split
    · rename_i item desired rest phase hr
      have live : run.erred = false := by unfold Run.erred; rw [phase]
      obtain rfl := going.same
      split
      · exact ⟨going.same, nofun, nofun, nofun, nofun⟩
      · rename_i plan
        have absent : system.cluster.get? item.name = none := by
          generalize system.cluster.get? item.name = found at plan
          cases planItem_plan plan
          rfl
        have nothing : (system.cluster.get? item.name).map identity = left "" none := by
          rw [absent]
          rfl
        exact going.proceed live hr (.step (h.items _ (going.head live hr)) plan nothing)
      · rename_i mutation plan
        refine ⟨going.same, fun _ => going.progress live, fun _ => going.valid live, fun m hm => ?_, nofun⟩
        cases hm
        exact ⟨item, desired, rest, _, hr, plan, fun o ho => ⟨Objects.get?_name ho, .of_get? ho⟩⟩
    · exact going

theorem Progress.fail {first : Cluster} {system : System}
    (h : Progress env model config delivery first system) (i : Nat) :
    Progress env model config delivery first (system.fail i) := by
  unfold System.fail
  cases hi : system.runs[i]? with
  | none => exact h
  | some run => exact h.set (h.runs run (List.mem_of_getElem? hi)).failed

theorem Progress.write {first : Cluster} {system : System}
    (h : Progress env model config delivery first system) (i : Nat) (uid : String) (lost : Bool) :
    Progress env model config delivery first (system.write i uid lost) ∧
      Attempted env model config delivery system.cluster (system.write i uid lost).cluster := by
  unfold System.write
  cases hi : system.runs[i]? with
  | none => exact ⟨h, .inl rfl⟩
  | some run =>
    have going := h.runs run (List.mem_of_getElem? hi)
    dsimp only
    split
    · rename_i mutation phase
      obtain ⟨item, desired, rest, found, hr, plan, seen⟩ := going.writing mutation phase
      have live : run.erred = false := by unfold Run.erred; rw [phase]
      have mem := going.head live hr
      cases hm : mutation.run uid system.cluster with
      | none => exact ⟨h.set going.failed, .inl rfl⟩
      | some cluster =>
        -- what was read stands at the write, so the write is the one that the stored object asks for
        obtain rfl := planItem_stored plan seen hm
        dsimp only
        have writes : Writes config delivery item desired uid mutation system.cluster cluster := .of_run plan hm
        have done : ∀ p ∈ itemsOf env model config delivery, DoneAt config delivery first system.cluster p →
            DoneAt config delivery first cluster p := fun p hp => Writes.done (p := (item, desired)) writes mem hp
        have head : DoneAt config delivery first cluster (item, desired) := .step (h.items _ mem) plan writes.left
        have moved := going.frame done writes.seen
        refine ⟨⟨fun p hp => ?_, fun r _ => ?_⟩, .inr ⟨_, mem, uid, mutation, writes⟩⟩
        · by_cases hn : item.name = p.1.name
          · obtain rfl := itemsOf_same mem hp hn
            exact .inr head
          · rcases h.items p hp with same | old
            · exact .inl ((writes.others _ hn).trans same)
            · exact .inr (done p hp old)
        · rcases List.mem_or_eq_of_mem_set ‹_› with old | rfl
          · exact (h.runs r old).frame done writes.seen
          · split
            · exact moved.failed
            · unfold Run.written
              rw [hr]
              exact moved.proceed live hr head
    · exact ⟨h, .inl rfl⟩

theorem Progress.run {first : Cluster} {system : System} (h : Progress env model config delivery first system)
    (attempt : Attempt) :
    Progress env model config delivery first (attempt.run env model config delivery system) ∧
      Attempted env model config delivery system.cluster (attempt.run env model config delivery system).cluster := by
  cases attempt with
  | start =>
    refine ⟨⟨h.items, fun r hr => ?_⟩, .inl rfl⟩
    rcases List.mem_append.1 hr with hr | hr
    · exact h.runs r hr
    · rw [List.mem_singleton.1 hr]
      exact .start first _
  | read i =>
    refine ⟨h.read i, .inl ?_⟩
    show (system.read config i).cluster = _
    unfold System.read
    split <;> rfl
  | write i uid lost => exact h.write i uid lost
  | fail i =>
    refine ⟨h.fail i, .inl ?_⟩
    show (system.fail i).cluster = _
    unfold System.fail
    split <;> rfl

theorem Progress.runAll {first : Cluster} (attempts : List Attempt) : ∀ {system : System},
    Progress env model config delivery first system →
      Progress env model config delivery first (Attempt.runAll env model config delivery attempts system) ∧
      ((∀ cluster cluster', Attempted env model config delivery cluster cluster' → cluster' = cluster) →
        (Attempt.runAll env model config delivery attempts system).cluster = system.cluster) ∧
      ∀ name, (∀ p ∈ itemsOf env model config delivery, p.1.name ≠ name) →
        (Attempt.runAll env model config delivery attempts system).cluster.get? name = system.cluster.get? name := by
  induction attempts with
  | nil => exact fun h => ⟨h, fun _ => rfl, fun _ _ => rfl⟩
  | cons attempt attempts ih =>
    intro system h
    obtain ⟨next, attempted⟩ := h.run attempt
    obtain ⟨last, idle, others⟩ := ih next
    refine ⟨last, fun none => (idle none).trans (none _ _ attempted), fun name hn => (others name hn).trans ?_⟩
    rcases attempted with same | ⟨p, hp, uid, m, writes⟩
    · rw [same]
    · exact writes.others name (hn p hp)

/-! ## The run that nothing interrupts -/

theorem applyItem_ok {cluster : Cluster} {m : Option Mutation} (uids : String → String)
    (plan : planItem config delivery item desired (cluster.get? item.name) = .ok m) : ∃ cluster',
    applyItem config delivery uids item desired cluster = (.ok (), cluster') ∧
      (cluster'.get? item.name).map identity = left (uids item.name) m ∧
      ∀ name, item.name ≠ name → cluster'.get? name = cluster.get? name := by
  unfold applyItem
  rw [plan]
  cases m with
  | none =>
    refine ⟨cluster, rfl, ?_, fun _ _ => rfl⟩
    generalize cluster.get? item.name = found at plan
    cases planItem_plan plan
    rfl
  | some mutation =>
    obtain ⟨cluster', run⟩ := planItem_run plan (uids item.name)
    have writes : Writes config delivery item desired (uids item.name) mutation cluster cluster' := .of_run plan run
    dsimp only
    rw [run]
    exact ⟨cluster', rfl, writes.left, writes.others⟩

/-- The uid under which an object of `target` was created. -/
def uidsOf (target : Cluster) (name : String) : String := ((target.get? name).map (·.uid)).getD ""

theorem left_uidsOf {target : Cluster} {name uid : String} {m : Option Mutation}
    (h : (target.get? name).map identity = left uid m) : left (uidsOf target name) m = left uid m := by
  cases m with
  | none => rfl
  | some m => cases m with
    | create created content =>
      obtain ⟨o, ho, same⟩ := Option.map_eq_some_iff.1 h
      have uid : o.uid = uid := (Prod.mk.inj same).1
      simp [left, uidsOf, ho, uid]
    | replace current content => rfl
    | delete current => rfl

/-- Items that were applied over the objects of `cluster` are applied to it in one go. -/
theorem applyItems_done {target : Cluster} : ∀ (rest : List (DesiredDeployment × Option Json)) (cluster : Cluster),
    (rest.map (·.1.name)).Nodup → (∀ p ∈ rest, DoneAt config delivery cluster target p) →
    (applyItems config delivery (uidsOf target) rest cluster).1 = .ok () ∧
      (∀ p ∈ rest, ((applyItems config delivery (uidsOf target) rest cluster).2.get? p.1.name).map identity =
        (target.get? p.1.name).map identity) ∧
      ∀ name, (∀ p ∈ rest, p.1.name ≠ name) →
        (applyItems config delivery (uidsOf target) rest cluster).2.get? name = cluster.get? name := by
  intro rest
  induction rest with
  | nil => exact fun _ _ _ => ⟨rfl, nofun, fun _ _ => rfl⟩
  | cons head rest ih =>
    intro cluster distinct done
    obtain ⟨item, desired⟩ := head
    rw [List.map_cons, List.nodup_cons] at distinct
    obtain ⟨fresh, distinct⟩ := distinct
    have new : ∀ p ∈ rest, p.1.name ≠ item.name := fun p hp same => fresh (List.mem_map.2 ⟨p, hp, same⟩)
    obtain ⟨m, uid, plan, reached⟩ := done (item, desired) (List.mem_cons_self ..)
    obtain ⟨cluster', one, written, others⟩ := applyItem_ok (uidsOf target) plan
    obtain ⟨ok, applied, kept⟩ := ih cluster' distinct fun p hp => by
      show Done ..
      rw [others _ (new p hp).symm]
      exact done p (List.mem_cons_of_mem _ hp)
    rw [applyItems, one]
    refine ⟨ok, fun p hp => ?_, fun name hn => ?_⟩
    · rcases List.mem_cons.1 hp with rfl | hp
      · dsimp only
        rw [kept item.name new, written, left_uidsOf reached, reached]
      · exact applied p hp
    · rw [← others name (hn (item, desired) (List.mem_cons_self ..))]
      exact kept name fun p hp => hn p (List.mem_cons_of_mem _ hp)

theorem applyItem_error {cluster : Cluster} {code : ErrorCode} (uids : String → String)
    (plan : planItem config delivery item desired (cluster.get? item.name) = .error code) :
    applyItem config delivery uids item desired cluster = (.error code, cluster) := by
  unfold applyItem
  rw [plan]

/-- The items are applied when each of them is accepted. -/
theorem applyItems_ok (uids : String → String) : ∀ (rest : List (DesiredDeployment × Option Json)) (cluster : Cluster),
    (rest.map (·.1.name)).Nodup → ((applyItems config delivery uids rest cluster).1 = .ok () ↔
      ∀ p ∈ rest, ∃ m, planItem config delivery p.1 p.2 (cluster.get? p.1.name) = .ok m) := by
  intro rest
  induction rest with
  | nil => exact fun _ _ => ⟨fun _ => nofun, fun _ => rfl⟩
  | cons head rest ih =>
    intro cluster distinct
    obtain ⟨item, desired⟩ := head
    rw [List.map_cons, List.nodup_cons] at distinct
    obtain ⟨fresh, distinct⟩ := distinct
    rw [applyItems, List.forall_mem_cons]
    cases plan : planItem config delivery item desired (cluster.get? item.name) with
    | error code =>
      rw [applyItem_error uids plan]
      constructor
      · intro h
        cases h
      · rintro ⟨⟨m, hm⟩, -⟩
        cases hm
    | ok m =>
      obtain ⟨cluster', one, -, others⟩ := applyItem_ok uids plan
      rw [one]
      dsimp only
      rw [ih cluster' distinct]
      have same : ∀ p ∈ rest, cluster'.get? p.1.name = cluster.get? p.1.name :=
        fun p hp => others _ fun he => fresh (List.mem_map.2 ⟨p, hp, he.symm⟩)
      constructor
      · exact fun h => ⟨⟨m, rfl⟩, fun p hp => by rw [← same p hp]; exact h p hp⟩
      · exact fun h p hp => by rw [same p hp]; exact h.2 p hp

theorem apply_ok (uids : String → String) (cluster : Cluster) :
    (apply env model config delivery uids cluster).1 = .ok () ↔
    (∃ models, validateDelivery env model config delivery = .ok models) ∧
      ∀ p ∈ itemsOf env model config delivery, ∃ m, planItem config delivery p.1 p.2
        (cluster.get? p.1.name) = .ok m := by
  unfold apply
  cases valid : validateDelivery env model config delivery with
  | error code =>
    constructor
    · intro h
      cases h
    · rintro ⟨⟨models, h⟩, -⟩
      cases h
  | ok models =>
    have distinct : ((itemsOf env model config delivery).map (·.1.name)).Nodup := itemsOf_distinct
    rw [itemsOf_valid valid] at distinct ⊢
    dsimp only
    rw [applyItems_ok uids _ cluster distinct]
    exact ⟨fun h => ⟨⟨models, rfl⟩, h⟩, And.right⟩

/-- The items are applied by the calls of one run. -/
theorem applyItems_attempts (env : Env) (model : String → Json → Option Json) (config : Config)
    (delivery : ClusterDelivery) (uids : String → String) (plane : State) :
    ∀ (rest : List (DesiredDeployment × Option Json)) (cluster : Cluster)
    (log : List Event), ∃ attempts run log', run.phase = .finished (applyItems config delivery uids rest cluster).1 ∧
      Attempt.runAll env model config delivery attempts ⟨plane, cluster, [⟨delivery, rest, proceed rest⟩], log⟩ =
        ⟨plane, (applyItems config delivery uids rest cluster).2, [run], log'⟩ := by
  intro rest
  -- one read for each item, and one write for each that is to be written
  induction rest with
  | nil => exact fun cluster log => ⟨[], _, log, rfl, rfl⟩
  | cons head rest ih =>
    intro cluster log
    obtain ⟨item, desired⟩ := head
    let system : System := ⟨plane, cluster, [⟨delivery, (item, desired) :: rest, .reading⟩], log⟩
    rw [applyItems]
    cases plan : planItem config delivery item desired (cluster.get? item.name) with
    | error code =>
      have read : (Attempt.read 0).run env model config delivery system =
          ⟨plane, cluster, [⟨delivery, (item, desired) :: rest, .finished (.error code)⟩], log⟩ := by
        simp [system, Attempt.run, System.read, Run.read, plan]
      rw [applyItem_error uids plan]
      exact ⟨[.read 0], _, log, rfl, read⟩
    | ok m =>
      obtain ⟨cluster', one, -, -⟩ := applyItem_ok uids plan
      rw [one]
      unfold applyItem at one
      rw [plan] at one
      cases m with
      | none =>
        cases one
        have read : (Attempt.read 0).run env model config delivery system =
            ⟨plane, cluster, [⟨delivery, rest, proceed rest⟩], ⟨delivery.version, item.name, none, false⟩ :: log⟩ := by
          simp [system, Attempt.run, System.read, Run.read, plan]
        obtain ⟨attempts, run, log', finished, all⟩ := ih cluster (⟨delivery.version, item.name, none, false⟩ :: log)
        refine ⟨.read 0 :: attempts, run, log', finished, ?_⟩
        show Attempt.runAll env model config delivery attempts
          ((Attempt.read 0).run env model config delivery system) = _
        rw [read]
        exact all
      | some mutation =>
        obtain ⟨written, effective⟩ := planItem_run plan (uids item.name)
        dsimp only at one
        rw [effective] at one
        cases one
        let pending : System := ⟨plane, cluster, [⟨delivery, (item, desired) :: rest, .writing mutation⟩], log⟩
        have read : (Attempt.read 0).run env model config delivery system = pending := by
          simp [system, pending, Attempt.run, System.read, Run.read, plan]
        have write : (Attempt.write 0 (uids item.name) false).run env model config delivery pending =
            ⟨plane, cluster', [⟨delivery, rest, proceed rest⟩], mutation.event delivery.version :: log⟩ := by
          simp [pending, Attempt.run, System.write, Run.written, effective]
        obtain ⟨attempts, run, log', finished, all⟩ := ih cluster' (mutation.event delivery.version :: log)
        refine ⟨.read 0 :: .write 0 (uids item.name) false :: attempts, run, log', finished, ?_⟩
        show Attempt.runAll env model config delivery attempts
          ((Attempt.write 0 (uids item.name) false).run env model config delivery
          ((Attempt.read 0).run env model config delivery system)) = _
        rw [read, write]
        exact all

/-- `apply` is the run that starts and makes its calls while nothing else happens. -/
theorem apply_attempts (env : Env) (model : String → Json → Option Json) (config : Config) (delivery : ClusterDelivery)
    (uids : String → String) (cluster : Cluster) : ∃ attempts run log,
      run.phase = .finished (apply env model config delivery uids cluster).1 ∧
      Attempt.runAll env model config delivery attempts (System.start cluster) =
        ⟨.empty, (apply env model config delivery uids cluster).2, [run], log⟩ := by
  unfold apply
  cases valid : validateDelivery env model config delivery with
  | error code =>
    refine ⟨[.start], ⟨delivery, [], .finished (.error code)⟩, [], rfl, ?_⟩
    simp [Attempt.runAll, Attempt.run, System.start, Run.start, valid]
  | ok models =>
    obtain ⟨attempts, run, log, finished, all⟩ :=
      applyItems_attempts env model config delivery uids .empty (delivery.deployments.zip models) cluster []
    refine ⟨.start :: attempts, run, log, finished, ?_⟩
    rw [← all]
    simp [Attempt.runAll, Attempt.run, System.start, Run.start, valid]

/-- A delivery that one run applies is never refused for what its earlier runs have done: every later
run is accepted, unless an item names both the object it deletes and the object it expects. -/
theorem apply_again (uids : String → String) (cluster : Cluster) (attempts : List Attempt)
    (ok : (apply env model config delivery uids cluster).1 = .ok ())
    (free : ∀ item ∈ delivery.deployments, item.spec = none → item.expectedUid = none) :
    (apply env model config delivery uids (Attempt.runAll env model config delivery attempts
      (System.start cluster)).cluster).1 = .ok () := by
  obtain ⟨⟨models, valid⟩, accepted⟩ := (apply_ok uids cluster).1 ok
  have start : Progress env model config delivery cluster (System.start cluster) := .start cluster
  obtain ⟨progress, -, -⟩ := start.runAll attempts
  refine (apply_ok uids _).2 ⟨⟨models, valid⟩, fun p hp => ?_⟩
  rcases progress.items p hp with same | done
  · rw [same]
    exact accepted p hp
  · refine done.accepted fun clears => free p.1 (itemsOf_mem hp) ?_
    rw [itemsOf_valid valid] at hp
    have spec := (validateDelivery_ok valid).2.2 p hp
    rw [clears] at spec
    exact Option.not_isSome_iff_eq_none.1 (by rw [← spec]; nofun)

/-- In every run of attempts, with any of them failing and any answers lost: objects of somebody else
stay as they are, an invalid delivery changes nothing, an object goes by the uid that its item names,
and a run that completes leaves what one run from the start leaves. -/
theorem Attempt.runAll_restartable (env : Env) (model : String → Json → Option Json) (config : Config)
    (delivery : ClusterDelivery) (cluster : Cluster) (attempts : List Attempt) (attempt : Attempt) :
    let system := Attempt.runAll env model config delivery attempts (System.start cluster)
    let system' := attempt.run env model config delivery system
    (∀ name o, system.cluster.get? name = some o → o.content.owner ≠ some config.clusterId →
      system'.cluster.get? name = some o) ∧
    (∀ code, validateDelivery env model config delivery = .error code → system'.cluster = cluster) ∧
    (∀ name, system'.cluster.get? name ≠ system.cluster.get? name → ∃ item ∈ delivery.deployments, item.name = name ∧
      ∀ o, system.cluster.get? name = some o → (system'.cluster.get? name = none ∧ item.deleteUid = some o.uid) ∨
        ∃ o', system'.cluster.get? name = some o' ∧ o'.uid = o.uid) ∧
    ∀ run ∈ system'.runs, run.completed = true → ∃ uids, (apply env model config delivery uids cluster).1 = .ok () ∧
      ∀ name, (system'.cluster.get? name).map identity =
        ((apply env model config delivery uids cluster).2.get? name).map identity := by
  intro system system'
  have start : Progress env model config delivery cluster (System.start cluster) := .start cluster
  obtain ⟨progress, idle, others⟩ := start.runAll attempts
  obtain ⟨next, attempted⟩ := progress.run attempt
  refine ⟨fun name o ho foreign => ?_, fun code invalid => ?_, fun name changed => ?_, fun run hr completed => ?_⟩
  · rcases attempted with same | ⟨p, hp, uid, m, writes⟩
    · show (attempt.run env model config delivery system).cluster.get? name = _
      rw [same]
      exact ho
    · exact writes.foreign ho foreign
  · have none : ∀ c c', Attempted env model config delivery c c' → c' = c := by
      rintro c c' (same | ⟨p, hp, -⟩)
      · exact same
      · rw [itemsOf_invalid invalid] at hp
        cases hp
    exact (none _ _ attempted).trans (idle none)
  · rcases attempted with same | ⟨p, hp, uid, m, writes⟩
    · exact absurd (congrArg (·.get? name) same) changed
    · obtain rfl : p.1.name = name := by_contra fun hn => changed (writes.others name hn)
      exact ⟨p.1, itemsOf_mem hp, rfl, fun o ho => writes.uid ho⟩
  · obtain ⟨models, valid, done⟩ := (next.runs run hr).completed completed
    have distinct : ((itemsOf env model config delivery).map (·.1.name)).Nodup := itemsOf_distinct
    obtain ⟨ok, applied, kept⟩ := applyItems_done _ cluster distinct done
    have once : apply env model config delivery (uidsOf system'.cluster) cluster =
        applyItems config delivery (uidsOf system'.cluster) (itemsOf env model config delivery) cluster := by
      rw [itemsOf_valid valid]
      unfold apply
      rw [valid]
    refine ⟨uidsOf system'.cluster, once ▸ ok, fun name => ?_⟩
    rw [once]
    by_cases named : ∃ p ∈ itemsOf env model config delivery, p.1.name = name
    · obtain ⟨p, hp, rfl⟩ := named
      exact (applied p hp).symm
    · have none : ∀ p ∈ itemsOf env model config delivery, p.1.name ≠ name := fun p hp same => named ⟨p, hp, same⟩
      rw [kept name none]
      apply congrArg (Option.map identity)
      rcases attempted with same | ⟨p, hp, uid, m, writes⟩
      · exact (congrArg (·.get? name) same).trans (others name none)
      · exact (writes.others name (none p hp)).trans (others name none)

end Xscope.Member

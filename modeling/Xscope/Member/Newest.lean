/-
The newest delivery wins. A write presents the object it read, so it takes effect only while that
object stands; what a run wrote for a name can be changed by newer versions alone until one of them
deletes it. A deletion leaves nothing behind that could be compared with: what an older run may
still do is to create an absent object.
-/
import Xscope.Fleet.Delivery
import Xscope.Kubernetes.Api
import Xscope.Member.Apply

namespace Xscope.Member

open Fleet

variable {env : Env} {model : String → Json → Option Json} {config : Config}

/-! ## Effects -/

def Mutation.name : Mutation → String
  | .create name _ => name
  | .replace current _ => current.name
  | .delete current => current.name

/-- The object a write presents. -/
def Mutation.current : Mutation → Option Current
  | .create _ _ => none
  | .replace current _ => some current
  | .delete current => some current

def Mutation.content : Mutation → Option ModelDeployment
  | .create _ content => some content
  | .replace _ content => some content
  | .delete _ => none

@[simp] theorem Mutation.event_version (m : Mutation) (version : Int) : (m.event version).version = version := by
  cases m <;> rfl

@[simp] theorem Mutation.event_name (m : Mutation) (version : Int) : (m.event version).name = m.name := by
  cases m <;> rfl

@[simp] theorem Mutation.event_sets (m : Mutation) (version : Int) : (m.event version).sets = m.content.isSome := by
  cases m <;> rfl

/-- What an applied item does to the cluster: it finds nothing newer and touches one name, which is
there under its version afterwards, or absent. -/
structure Effect (e : Event) (cluster cluster' : Cluster) : Prop where
  found : cluster.get? e.name = e.found
  older : ∀ o, e.found = some o → ∃ u, o.content.version = some u ∧ u ≤ e.version
  others : ∀ k, k ≠ e.name → cluster'.get? k = cluster.get? k
  sets : e.sets = true → ∃ o, cluster'.get? e.name = some o ∧ o.content.version = some e.version
  clears : e.sets = false → cluster'.get? e.name = none

/-- The write of a run for an item: under its version, and over nothing newer. -/
structure Planned (version : Int) (item : DesiredDeployment) (desired : Option Json) (m : Mutation) : Prop where
  name : m.name = item.name
  sets : m.content.isSome = desired.isSome
  content : ∀ content, m.content = some content → content.version = some version
  older : ∀ current, m.current = some current → ∃ u, current.content.version = some u ∧ u ≤ version

theorem checkOwner_ok {delivery : ClusterDelivery} {current : Current}
    (h : checkOwner config delivery current = .ok ()) :
    ∃ u, current.content.version = some u ∧ u ≤ delivery.version := by
  unfold checkOwner at h
  split at h
  · cases h
  · cases hv : current.content.version with
    | none => rw [hv] at h; cases h
    | some u =>
      rw [hv] at h
      dsimp only at h
      split at h
      · cases h
      · rename_i newer
        exact ⟨u, rfl, not_lt.1 fun hlt => newer (.inl hlt)⟩

theorem planItem_ok {delivery : ClusterDelivery} {item : DesiredDeployment} {desired : Option Json} {cluster : Cluster}
    {m : Option Mutation} (h : planItem config delivery item desired (cluster.get? item.name) = .ok m) :
    (m = none ∧ desired = none ∧ cluster.get? item.name = none) ∨ ∃ mutation, m = some mutation ∧
      Planned delivery.version item desired mutation ∧
      ∀ current, mutation.current = some current → cluster.get? item.name = some current := by
  unfold planItem at h
  split at h
  · cases h
  · cases hc : cluster.get? item.name with
    | none =>
      rw [hc] at h
      cases hd : desired with
      | none => rw [hd] at h; cases h; exact .inl ⟨rfl, rfl, rfl⟩
      | some spec =>
        rw [hd] at h
        cases h
        exact .inr ⟨_, rfl, ⟨rfl, rfl, fun _ he => by cases he; rfl, nofun⟩, nofun⟩
    | some current =>
      rw [hc] at h
      have named : current.name = item.name := Objects.get?_name hc
      cases ho : checkOwner config delivery current with
      | error code => simp [ho, bind, Except.bind] at h
      | ok =>
        simp only [ho, bind, Except.bind] at h
        have older := checkOwner_ok ho
        cases hd : desired with
        | none =>
          rw [hd] at h
          dsimp only at h
          split at h
          · cases h
            exact .inr ⟨_, rfl, ⟨named, rfl, nofun, fun _ he => by cases he; exact older⟩, fun _ he => by cases he; rfl⟩
          · cases h
        | some spec =>
          rw [hd] at h
          cases h
          exact .inr ⟨_, rfl, ⟨named, rfl, fun _ he => by cases he; rfl, fun _ he => by cases he; exact older⟩,
            fun _ he => by cases he; rfl⟩

/-- A write that takes effect presents the stored object. -/
theorem Mutation.run_effect {m : Mutation} {uid : String} {version : Int} {item : DesiredDeployment}
    {desired : Option Json} {cluster cluster' : Cluster} (planned : Planned version item desired m)
    (seen : ∀ current, m.current = some current → cluster.Seen current) (h : m.run uid cluster = some cluster') :
    Effect (m.event version) cluster cluster' := by
  cases m with
  | create name content =>
    obtain ⟨absent, -, lookup⟩ := Objects.get?_create h
    refine ⟨absent, nofun, fun k hk => ?_, fun _ => ⟨_, (lookup name).trans (if_pos rfl),
      planned.content content rfl⟩, nofun⟩
    exact (lookup k).trans (if_neg (Ne.symm hk))
  | replace current content =>
    obtain ⟨holds, rfl⟩ := Objects.replace_some h
    have stored := (seen current rfl).holds holds
    split
    · rename_i same
      exact ⟨stored, planned.older, fun _ _ => rfl,
        fun _ => ⟨current, stored, by rw [same]; exact planned.content content rfl⟩, nofun⟩
    · have lookup (k : String) : (Objects.store cluster current content).get? k = _ := Objects.get?_store stored k
      refine ⟨stored, planned.older, fun k hk => ?_,
        fun _ => ⟨_, (lookup current.name).trans (if_pos rfl), planned.content content rfl⟩, nofun⟩
      exact (lookup k).trans (if_neg (Ne.symm hk))
  | delete current =>
    obtain ⟨holds, rfl⟩ := Objects.remove_some h
    refine ⟨(seen current rfl).holds holds, planned.older, fun k hk => ?_, nofun, fun _ => ?_⟩
    · exact (Objects.get?_delete k).trans (if_neg (Ne.symm hk))
    · exact (Objects.get?_delete current.name).trans (if_pos rfl)

theorem Mutation.run_seen {m : Mutation} {uid : String} {cluster cluster' : Cluster} {read : Current}
    (seen : cluster.Seen read) (current : ∀ o, m.current = some o → cluster.Seen o)
    (h : m.run uid cluster = some cluster') :
    cluster'.Seen read := by
  cases m with
  | create name content => exact seen.create h
  | replace o content =>
    obtain ⟨holds, rfl⟩ := Objects.replace_some h
    split
    · exact seen
    · exact seen.store ((current o rfl).holds holds)
  | delete o =>
    obtain ⟨-, rfl⟩ := Objects.remove_some h
    exact seen.delete

/-! ## The history of a name -/

/-- The name was deleted by a version after `version`. -/
def Deleted (log : List Event) (version : Int) (name : String) : Prop :=
  ∃ d ∈ log, d.name = name ∧ d.sets = false ∧ d.found.isSome ∧ version < d.version

/-- The name was created by `version` or one before. -/
def Created (log : List Event) (version : Int) (name : String) : Prop :=
  ∃ d ∈ log, d.name = name ∧ d.sets = true ∧ d.found = none ∧ d.version ≤ version

/-- What stands under a name after an item was applied for it: what was set stands under its version or
a newer one unless a newer version deleted it, and where a name was cleared only what was created since. -/
structure Kept (cluster : Cluster) (log : List Event) : Prop where
  set : ∀ after e before, log = after ++ e :: before → e.sets = true →
    (∃ o, cluster.get? e.name = some o ∧ ∃ u, o.content.version = some u ∧ e.version ≤ u) ∨
      Deleted after e.version e.name
  cleared : ∀ after e before, log = after ++ e :: before → e.sets = false → ∀ o, cluster.get? e.name = some o →
    ∃ u, o.content.version = some u ∧ Created after u e.name

theorem Deleted.cons {log : List Event} {version : Int} {name : String} (h : Deleted log version name) (e : Event) :
    Deleted (e :: log) version name := by
  obtain ⟨d, hd, rest⟩ := h
  exact ⟨d, List.mem_cons_of_mem _ hd, rest⟩

theorem Created.cons {log : List Event} {version : Int} {name : String} (h : Created log version name) (e : Event) :
    Created (e :: log) version name := by
  obtain ⟨d, hd, rest⟩ := h
  exact ⟨d, List.mem_cons_of_mem _ hd, rest⟩

theorem Kept.empty (cluster : Cluster) : Kept cluster [] :=
  ⟨fun after e before h => absurd h (by simp), fun after e before h => absurd h (by simp)⟩

/-- One more item; two runs of one version do not differ on what an item is for. -/
theorem Kept.step {cluster cluster' : Cluster} {log : List Event} {e : Event} (kept : Kept cluster log)
    (effect : Effect e cluster cluster')
    (agree : ∀ d ∈ log, d.version = e.version → d.name = e.name → d.sets = e.sets) :
    Kept cluster' (e :: log) := by
  constructor
  · intro after d before split hd
    rcases List.cons_eq_append_iff.1 split with ⟨rfl, he⟩ | ⟨after, rfl, rfl⟩
    · cases he
      obtain ⟨o, ho, version⟩ := effect.sets hd
      exact .inl ⟨o, ho, _, version, le_rfl⟩
    · rcases kept.set after d before rfl hd with ⟨o, ho, u, hu, le⟩ | deleted
      · by_cases hn : d.name = e.name
        -- the item has written over what the older one set
        · obtain ⟨u', hu', le'⟩ := effect.older o (by rw [← effect.found, ← hn]; exact ho)
          cases Option.some.inj (hu.symm.trans hu')
          cases hs : e.sets with
          | true =>
            obtain ⟨o', ho', version⟩ := effect.sets hs
            exact .inl ⟨o', by rw [hn]; exact ho', _, version, by omega⟩
          | false =>
            have ne : d.version ≠ e.version := by
              intro he
              have := agree d (by simp) he hn
              rw [hd, hs] at this
              cases this
            refine .inr ⟨e, List.mem_cons_self .., hn.symm, hs, ?_, by omega⟩
            rw [← effect.found, ← hn, ho]
            rfl
        · exact .inl ⟨o, by rw [effect.others _ hn]; exact ho, u, hu, le⟩
      · exact .inr (deleted.cons e)
  · intro after d before split hd o ho
    rcases List.cons_eq_append_iff.1 split with ⟨rfl, he⟩ | ⟨after, rfl, rfl⟩
    · cases he
      rw [effect.clears hd] at ho
      cases ho
    · by_cases hn : d.name = e.name
      · cases hs : e.sets with
        | false =>
          rw [hn, effect.clears hs] at ho
          cases ho
        | true =>
          obtain ⟨o', ho', version⟩ := effect.sets hs
          rw [hn, ho'] at ho
          cases ho
          refine ⟨_, version, ?_⟩
          cases hf : e.found with
          | none => exact ⟨e, List.mem_cons_self .., hn.symm, hs, hf, le_rfl⟩
          | some old =>
            -- it updated an object that was created after the deletion
            obtain ⟨u, hu, le⟩ := effect.older old hf
            obtain ⟨u', hu', c, hc, name, sets, found, older⟩ :=
              kept.cleared after d before rfl hd old (by rw [hn, effect.found]; exact hf)
            cases Option.some.inj (hu.symm.trans hu')
            exact ⟨c, List.mem_cons_of_mem _ hc, name, sets, found, older.trans le⟩
      · rw [effect.others _ hn] at ho
        obtain ⟨u, hu, created⟩ := kept.cleared after d before rfl hd o ho
        exact ⟨u, hu, created.cons e⟩

theorem Kept.touch {cluster : Cluster} {log : List Event} (kept : Kept cluster log) (name : String) :
    Kept (cluster.touch name) log := by
  constructor
  · intro after e before split he
    rcases kept.set after e before split he with ⟨o, ho, version⟩ | deleted
    · rcases Objects.get?_touch cluster name e.name with same | ⟨o', ho', touched⟩
      · exact .inl ⟨o, by rw [same]; exact ho, version⟩
      · cases Option.some.inj (ho.symm.trans ho')
        exact .inl ⟨_, touched, version⟩
    · exact .inr deleted
  · intro after e before split he o ho
    rcases Objects.get?_touch cluster name e.name with same | ⟨o', ho', touched⟩
    · exact kept.cleared after e before split he o (by rw [← same]; exact ho)
    · cases Option.some.inj (ho.symm.trans touched)
      exact kept.cleared after e before split he o' ho'

/-! ## Validation -/

theorem validateItem_ok {names : List String} {item : DesiredDeployment} {desired : Option Json}
    (h : validateItem model names item = .ok desired) : item.name ∉ names ∧ desired.isSome = item.spec.isSome := by
  unfold validateItem at h
  split at h
  · cases h
  · rename_i valid
    refine ⟨fun hm => valid (.inr hm), ?_⟩
    cases hs : item.spec with
    | none =>
      rw [hs] at h
      dsimp only at h
      split at h
      · cases h; rfl
      · cases h
    | some spec =>
      rw [hs] at h
      dsimp only at h
      split at h
      · cases h
      · cases hm : model item.name spec with
        | none => rw [hm] at h; cases h
        | some d => rw [hm] at h; cases h; rfl

/-- The models of the items, in order; the names are new and distinct. -/
theorem validateItems_ok {items : List DesiredDeployment} : ∀ {names : List String} {models : List (Option Json)},
    validateItems model names items = .ok models → (items.map (·.name)).Nodup ∧ (∀ item ∈ items, item.name ∉ names) ∧
      items.length = models.length ∧ ∀ p ∈ items.zip models, p.2.isSome = p.1.spec.isSome := by
  induction items with
  | nil =>
    intro names models h
    cases h
    exact ⟨List.nodup_nil, nofun, rfl, nofun⟩
  | cons item rest ih =>
    intro names models h
    rw [validateItems] at h
    cases hd : validateItem model names item with
    | error code => simp [hd, bind, Except.bind] at h
    | ok desired =>
      cases hr : validateItems model (item.name :: names) rest with
      | error code => simp [hd, hr, bind, Except.bind] at h
      | ok rests =>
        simp only [hd, hr, bind, Except.bind] at h
        cases h
        obtain ⟨distinct, fresh, length, same⟩ := ih hr
        obtain ⟨new, sets⟩ := validateItem_ok hd
        refine ⟨?_, fun x hx => ?_, by simp [length], fun p hp => ?_⟩
        · rw [List.map_cons, List.nodup_cons]
          refine ⟨fun hm => ?_, distinct⟩
          obtain ⟨x, hx, he⟩ := List.mem_map.1 hm
          exact fresh x hx (by rw [he]; exact List.mem_cons_self ..)
        · rcases List.mem_cons.1 hx with rfl | hx
          · exact new
          · exact fun hm => fresh x hx (List.mem_cons_of_mem _ hm)
        · rw [List.zip_cons_cons] at hp
          rcases List.mem_cons.1 hp with rfl | hp
          · exact sets
          · exact same p hp

theorem validateDelivery_ok {delivery : ClusterDelivery} {models : List (Option Json)}
    (h : validateDelivery env model config delivery = .ok models) : (delivery.deployments.map (·.name)).Nodup ∧
      delivery.deployments.length = models.length ∧ ∀ p ∈ delivery.deployments.zip models, p.2.isSome =
        p.1.spec.isSome := by
  unfold validateDelivery at h
  split at h
  · cases h
  · obtain ⟨distinct, -, rest⟩ := validateItems_ok h
    exact ⟨distinct, rest⟩

/-! ## Runs -/

/-- A run that ended with an error. -/
def Run.erred (run : Run) : Bool := match run.phase with
  | .finished (.error _) => true
  | _ => false

/-- What holds of a run at every point: its delivery is the stored revision, the items it is through
with have been applied, and the write it stands at presents an object it has seen. -/
structure Valid (config : Config) (plane : State) (cluster : Cluster) (log : List Event) (run : Run) : Prop where
  stored : ∃ revision, plane.revisions.get? (config.clusterId, run.delivery.version) = some revision ∧
    revision.payload = run.delivery.deployments
  names : run.erred = false → (run.delivery.deployments.map (·.name)).Nodup
  progress : run.erred = false → ∃ before, run.delivery.deployments = before ++ run.rest.map Prod.fst ∧
    ∀ item ∈ before, ∃ e ∈ log, e.version = run.delivery.version ∧ e.name = item.name ∧ e.sets = item.spec.isSome
  desired : ∀ p ∈ run.rest, p.2.isSome = p.1.spec.isSome
  writing : ∀ m, run.phase = .writing m → ∃ item desired rest, run.rest = (item, desired) :: rest ∧
    Planned run.delivery.version item desired m ∧ ∀ current, m.current = some current → cluster.Seen current
  done : run.completed = true → run.rest = []

/-- A run is valid still when revisions, writes and what was seen of the cluster are kept. -/
theorem Valid.frame {plane plane' : State} {cluster cluster' : Cluster} {log log' : List Event} {run : Run}
    (h : Valid config plane cluster log run)
    (revisions : ∀ k r, plane.revisions.get? k = some r → plane'.revisions.get? k = some r)
    (seen : ∀ current, cluster.Seen current → cluster'.Seen current) (writes : ∀ e ∈ log, e ∈ log') :
    Valid config plane' cluster' log' run := by
  obtain ⟨revision, stored, payload⟩ := h.stored
  refine ⟨⟨revision, revisions _ _ stored, payload⟩, h.names, fun live => ?_, h.desired, fun m hm => ?_, h.done⟩
  · obtain ⟨before, split, applied⟩ := h.progress live
    refine ⟨before, split, fun item hi => ?_⟩
    obtain ⟨e, he, same⟩ := applied item hi
    exact ⟨e, writes e he, same⟩
  · obtain ⟨item, desired, rest, hr, planned, hc⟩ := h.writing m hm
    exact ⟨item, desired, rest, hr, planned, fun current he => seen current (hc current he)⟩

theorem proceed_writing {rest : List (DesiredDeployment × Option Json)} {m : Mutation} : proceed rest ≠ .writing m := by
  unfold proceed
  split <;> nofun

theorem proceed_completed {delivery : ClusterDelivery} {rest : List (DesiredDeployment × Option Json)}
    (h : (⟨delivery, rest, proceed rest⟩ : Run).completed = true) : rest = [] := by
  cases rest with
  | nil => rfl
  | cons => cases h

theorem Valid.start {plane : State} {cluster : Cluster} {log : List Event} {delivery : ClusterDelivery}
    {revision : ClusterRevision} (stored : plane.revisions.get? (config.clusterId, delivery.version) = some revision)
    (payload : revision.payload = delivery.deployments) :
    Valid config plane cluster log (Run.start env model config delivery) := by
  unfold Run.start
  cases h : validateDelivery env model config delivery with
  | error code => exact ⟨⟨revision, stored, payload⟩, nofun, nofun, nofun, nofun, nofun⟩
  | ok models =>
    obtain ⟨distinct, length, same⟩ := validateDelivery_ok h
    refine ⟨⟨revision, stored, payload⟩, fun _ => distinct, fun _ => ⟨[], ?_, nofun⟩, same, fun m hm => ?_, fun h => ?_⟩
    · show delivery.deployments = (delivery.deployments.zip models).map Prod.fst
      rw [List.map_fst_zip length.le]
    · exact absurd hm proceed_writing
    · exact proceed_completed h

/-- A run goes on to its next item once the head of the rest is done with. -/
theorem Valid.proceed {plane : State} {cluster : Cluster} {log log' : List Event} {run : Run} {item : DesiredDeployment}
    {desired : Option Json} {rest : List (DesiredDeployment × Option Json)} (h : Valid config plane cluster log run)
    (live : run.erred = false) (hr : run.rest = (item, desired) :: rest) (writes : ∀ e ∈ log, e ∈ log')
    (applied : ∃ e ∈ log', e.version = run.delivery.version ∧ e.name = item.name ∧ e.sets = item.spec.isSome)
    {cluster' : Cluster} :
    Valid config plane cluster' log' { run with rest := rest, phase := Member.proceed rest } := by
  refine ⟨h.stored, fun _ => h.names live, fun _ => ?_, fun p hp => h.desired p (hr ▸ List.mem_cons_of_mem _ hp),
    fun m hm => absurd hm proceed_writing, fun hd => proceed_completed hd⟩
  obtain ⟨before, split, old⟩ := h.progress live
  refine ⟨before ++ [item], by rw [split, hr]; simp, fun x hx => ?_⟩
  rcases List.mem_append.1 hx with hx | hx
  · obtain ⟨e, he, same⟩ := old x hx
    exact ⟨e, writes e he, same⟩
  · rw [List.mem_singleton.1 hx]
    exact applied

theorem Valid.failed {plane : State} {cluster : Cluster} {log : List Event} {run : Run}
    (h : Valid config plane cluster log run) :
    Valid config plane cluster log run.failed := by
  unfold Run.failed
  split
  · exact h
  · exact ⟨h.stored, nofun, nofun, h.desired, nofun, nofun⟩

/-- What an item is for is written in the stored revision of its version. -/
def Due (config : Config) (plane : State) (e : Event) : Prop :=
  ∃ revision, plane.revisions.get? (config.clusterId, e.version) = some revision ∧
    (revision.payload.map (·.name)).Nodup ∧ ∃ item ∈ revision.payload, item.name = e.name ∧ item.spec.isSome = e.sets

theorem Due.agree {plane : State} {d e : Event} (hd : Due config plane d) (he : Due config plane e)
    (version : d.version = e.version) (name : d.name = e.name) : d.sets = e.sets := by
  obtain ⟨r, stored, distinct, i, hi, ni, si⟩ := hd
  obtain ⟨r', stored', -, j, hj, nj, sj⟩ := he
  rw [version, stored'] at stored
  cases stored
  have same : i = j := List.inj_on_of_nodup_map distinct hi hj (by rw [ni, nj, name])
  rw [← si, ← sj, same]

/-- The next item of a run is due. -/
theorem Valid.due {plane : State} {cluster : Cluster} {log : List Event} {run : Run} {item : DesiredDeployment}
    {desired : Option Json} {rest : List (DesiredDeployment × Option Json)} (h : Valid config plane cluster log run)
    (live : run.erred = false) (hr : run.rest = (item, desired) :: rest) {e : Event}
    (version : e.version = run.delivery.version) (name : e.name = item.name)
    (sets : e.sets = desired.isSome) : Due config plane e := by
  obtain ⟨revision, stored, payload⟩ := h.stored
  obtain ⟨before, split, -⟩ := h.progress live
  have mem : item ∈ run.delivery.deployments := by rw [split, hr]; simp
  refine ⟨revision, by rw [version]; exact stored, by rw [payload]; exact h.names live,
    item, by rw [payload]; exact mem, name.symm, ?_⟩
  rw [sets, h.desired (item, desired) (hr ▸ List.mem_cons_self ..)]

theorem Valid.read {plane : State} {cluster : Cluster} {log : List Event} {run : Run}
    (h : Valid config plane cluster log run) :
    Valid config plane cluster ((run.read config cluster).2.toList ++ log) (run.read config cluster).1 ∧
      ∀ e, (run.read config cluster).2 = some e → Effect e cluster cluster ∧ Due config plane e ∧
        e.version = run.delivery.version := by
  unfold Run.read
  split
  · rename_i item desired rest phase hr
    have live : run.erred = false := by unfold Run.erred; rw [phase]
    split
    · exact ⟨⟨h.stored, nofun, nofun, h.desired, nofun, nofun⟩, nofun⟩
    · rename_i plan
      rcases planItem_ok plan with ⟨-, hd, absent⟩ | ⟨m, hm, -⟩
      · have spec := h.desired (item, desired) (hr ▸ List.mem_cons_self ..)
        refine ⟨h.proceed live hr (fun _ he => List.mem_cons_of_mem _ he) ⟨_, List.mem_cons_self .., rfl, rfl, ?_⟩,
          fun e he => ?_⟩
        · rw [← spec, hd]; rfl
        · cases he
          exact ⟨⟨absent, nofun, fun _ _ => rfl, nofun, fun _ => absent⟩, h.due live hr rfl rfl (by rw [hd]; rfl), rfl⟩
      · cases hm
    · rename_i mutation plan
      rcases planItem_ok plan with ⟨hn, -⟩ | ⟨m, hm, planned, seen⟩
      · cases hn
      · cases hm
        refine ⟨⟨h.stored, fun _ => h.names live, fun _ => h.progress live, h.desired, fun m hm => ?_, nofun⟩, nofun⟩
        cases hm
        exact ⟨item, desired, rest, hr, planned, fun current hc => .of_get? (seen current hc)⟩
  · exact ⟨h, nofun⟩

/-! ## The system -/

/-- What holds in every run of the system. -/
structure Sound (config : Config) (system : System) : Prop where
  runs : ∀ run ∈ system.runs, Valid config system.plane system.cluster system.log run
  due : ∀ e ∈ system.log, Due config system.plane e
  kept : Kept system.cluster system.log

/-- The run that takes the step. -/
def Act.of : Act → Option Nat
  | .read i => some i
  | .write i _ _ => some i
  | .fail i => some i
  | _ => none

/-- A step applies at most one item, under the version of its run, and a run changes nothing else. -/
inductive Advances (i : Option Nat) (system system' : System) : Prop
  | kept (log : system'.log = system.log) (cluster : i.isSome → system'.cluster = system.cluster)
  | applied {run : Run} {e : Event} (found : i.bind (system.runs[·]?) = some run)
    (version : e.version = run.delivery.version)
    (log : system'.log = e :: system.log) (effect : Effect e system.cluster system'.cluster)

theorem Due.grows {plane plane' : State} {e : Event} (h : Due config plane e)
    (grows : Grows plane plane') : Due config plane' e := by
  obtain ⟨revision, stored, rest⟩ := h
  exact ⟨revision, grows.immutable _ _ stored, rest⟩

/-- The control plane goes on by itself. -/
theorem Sound.grows {system : System} (sound : Sound config system) {plane : State} (grows : Grows system.plane plane) :
    Sound config { system with plane := plane } :=
  ⟨fun run hr => (sound.runs run hr).frame grows.immutable (fun _ hs => hs) fun _ he => he,
    fun e he => (sound.due e he).grows grows, sound.kept⟩

/-- A delivery that is handed out is a stored revision. -/
theorem pollCluster_stored {authAt now : Int} {lease id token : String} {s : State} {r : Polled × State}
    {delivery : ClusterDelivery} (h : pollCluster env authAt now lease id token s = .ok r)
    (handed : r.1.delivery = some delivery) :
    ∃ revision, s.revisions.get? (id, delivery.version) = some revision ∧ revision.payload = delivery.deployments := by
  unfold pollCluster at h
  simp only [authenticated_bind] at h
  obtain ⟨row, -, -, h⟩ := h
  split at h
  · cases Tx.pure_ok.1 h
    cases handed
  · split at h
    · simp only [Tx.read_bind, Tx.expect_bind, putCluster_bind, Tx.pure_ok] at h
      obtain ⟨revision, stored, rfl⟩ := h
      cases handed
      have key := (Prod.mk.inj (Table.get?_key stored : (revision.clusterId, revision.version) = _)).2
      refine ⟨revision, ?_, rfl⟩
      show s.revisions.get? (id, revision.version) = _
      rw [key]
      exact stored
    · simp only [putCluster_bind, Tx.pure_ok] at h
      cases h
      cases handed

/-- One run takes a step that applies `e`. -/
theorem Sound.step {system : System} (sound : Sound config system) {cluster : Cluster} {e : Event} {run : Run} {i : Nat}
    (effect : Effect e system.cluster cluster) (due : Due config system.plane e)
    (seen : ∀ read, system.cluster.Seen read → cluster.Seen read)
    (valid : Valid config system.plane cluster (e :: system.log) run) :
    Sound config { system with cluster := cluster, runs := system.runs.set i run, log := e :: system.log } := by
  refine ⟨fun r hr => ?_, fun d hd => ?_, sound.kept.step effect fun d hd => (sound.due d hd).agree due⟩
  · rcases List.mem_or_eq_of_mem_set hr with hr | rfl
    · exact (sound.runs r hr).frame (fun _ _ h => h) seen fun _ he => List.mem_cons_of_mem _ he
    · exact valid
  · rcases List.mem_cons.1 hd with rfl | hd
    · exact due
    · exact sound.due d hd

theorem Sound.set {system : System} (sound : Sound config system) {run : Run} {i : Nat}
    (valid : Valid config system.plane system.cluster system.log run) :
    Sound config { system with runs := system.runs.set i run } := by
  refine ⟨fun r hr => ?_, sound.due, sound.kept⟩
  rcases List.mem_or_eq_of_mem_set hr with hr | rfl
  · exact sound.runs r hr
  · exact valid

theorem Sound.deliver {system : System} (sound : Sound config system) (authAt now : Int) (lease token : String) :
    Sound config (system.deliver env model config authAt now lease token) := by
  unfold System.deliver
  cases h : pollCluster env authAt now lease config.clusterId token system.plane with
  | error e => exact sound
  | ok r =>
    obtain ⟨polled, plane⟩ := r
    have grows : Grows system.plane plane := by
      have moves : Moves env _ system.plane _ :=
        Op.run_moves (.pollDelivery authAt now lease config.clusterId token) system.plane
      simpa [Op.run, Tx.commit, h] using moves.grows
    have sound := sound.grows grows
    refine ⟨fun run hr => ?_, sound.due, sound.kept⟩
    rcases List.mem_append.1 hr with hr | hr
    · exact sound.runs run hr
    · obtain ⟨delivery, hd, rfl⟩ := List.mem_map.1 hr
      have hd : polled.delivery = some delivery := Option.mem_toList.1 hd
      obtain ⟨revision, stored, payload⟩ := pollCluster_stored h hd
      exact .start (grows.immutable _ _ stored) payload

theorem Sound.read {system : System} (sound : Sound config system) (i : Nat) :
    Sound config (system.read config i) ∧ Advances (some i) system (system.read config i) := by
  unfold System.read
  cases hi : system.runs[i]? with
  | none => exact ⟨sound, .kept rfl fun _ => rfl⟩
  | some run =>
    obtain ⟨valid, applied⟩ := (sound.runs run (List.mem_of_getElem? hi)).read
    dsimp only
    cases he : (run.read config system.cluster).2 with
    | none =>
      rw [he] at valid
      exact ⟨sound.set valid, .kept rfl fun _ => rfl⟩
    | some e =>
      rw [he] at valid
      obtain ⟨effect, due, version⟩ := applied e he
      exact ⟨sound.step effect due (fun _ hs => hs) valid, .applied hi version rfl effect⟩

theorem Sound.write {system : System} (sound : Sound config system) (i : Nat) (uid : String) (lost : Bool) :
    Sound config (system.write i uid lost) ∧ Advances (some i) system (system.write i uid lost) := by
  unfold System.write
  cases hi : system.runs[i]? with
  | none => exact ⟨sound, .kept rfl fun _ => rfl⟩
  | some run =>
    have valid := sound.runs run (List.mem_of_getElem? hi)
    dsimp only
    split
    · rename_i mutation phase
      obtain ⟨item, desired, rest, hr, planned, seen⟩ := valid.writing mutation phase
      have live : run.erred = false := by unfold Run.erred; rw [phase]
      cases hm : mutation.run uid system.cluster with
      | none => exact ⟨sound.set valid.failed, .kept rfl fun _ => rfl⟩
      | some cluster =>
        have effect := Mutation.run_effect planned seen hm
        have due : Due config system.plane (mutation.event run.delivery.version) :=
          valid.due live hr (by simp) (by simp [planned.name]) (by simp [planned.sets])
        have kept : ∀ read, system.cluster.Seen read → cluster.Seen read := fun read hs => mutation.run_seen hs seen hm
        have later : ∀ e ∈ system.log, e ∈ mutation.event run.delivery.version :: system.log :=
          fun _ he => List.mem_cons_of_mem _ he
        refine ⟨sound.step effect due kept ?_, .applied hi (Mutation.event_version ..) rfl effect⟩
        split
        · exact (valid.frame (fun _ _ h => h) kept later).failed
        · unfold Run.written
          rw [hr]
          refine valid.proceed live hr later ⟨_, List.mem_cons_self .., by simp, by simp [planned.name], ?_⟩
          rw [← valid.desired (item, desired) (hr ▸ List.mem_cons_self ..), Mutation.event_sets, planned.sets]
    · exact ⟨sound, .kept rfl fun _ => rfl⟩

theorem Sound.fail {system : System} (sound : Sound config system) (i : Nat) : Sound config (system.fail i) := by
  unfold System.fail
  cases hi : system.runs[i]? with
  | none => exact sound
  | some run => exact sound.set (sound.runs run (List.mem_of_getElem? hi)).failed

theorem Sound.touch {system : System} (sound : Sound config system) (name : String) :
    Sound config { system with cluster := system.cluster.touch name } :=
  ⟨fun run hr => (sound.runs run hr).frame (fun _ _ h => h) (fun _ hs => hs.touch) fun _ he => he, sound.due,
    sound.kept.touch name⟩

/-- One step keeps the system sound and applies at most one item. -/
theorem Sound.run {system : System} (sound : Sound config system) (act : Act) :
    Sound config (act.run env model config system) ∧ Advances act.of system (act.run env model config system) := by
  cases act with
  | plane op => exact ⟨sound.grows (op.run_moves system.plane).grows, .kept rfl nofun⟩
  | deliver authAt now lease token =>
    refine ⟨sound.deliver authAt now lease token, .kept ?_ nofun⟩
    show (system.deliver env model config authAt now lease token).log = system.log
    unfold System.deliver
    split <;> rfl
  | read i => exact sound.read i
  | write i uid lost => exact sound.write i uid lost
  | fail i =>
    have same : (system.fail i).log = system.log ∧ (system.fail i).cluster = system.cluster := by
      unfold System.fail
      split <;> exact ⟨rfl, rfl⟩
    exact ⟨sound.fail i, .kept same.1 fun _ => same.2⟩
  | touch name => exact ⟨sound.touch name, .kept rfl nofun⟩

theorem Sound.start (cluster : Cluster) : Sound config (System.start cluster) := ⟨nofun, nofun, .empty cluster⟩

theorem Sound.runAll (acts : List Act) : ∀ {system : System}, Sound config system →
    Sound config (Act.runAll env model config acts system) := by
  induction acts with
  | nil => exact fun sound => sound
  | cons act acts ih => exact fun sound => ih (sound.run act).1

/-- A run that has completed applied each of its items. -/
theorem Valid.applied {plane : State} {cluster : Cluster} {log : List Event} {run : Run}
    (h : Valid config plane cluster log run) (completed : run.completed = true) {item : DesiredDeployment}
    (hi : item ∈ run.delivery.deployments) :
    ∃ e ∈ log, e.version = run.delivery.version ∧ e.name = item.name ∧ e.sets = item.spec.isSome := by
  have live : run.erred = false := by
    unfold Run.completed at completed
    unfold Run.erred
    split at completed
    · rename_i phase
      rw [phase]
    · cases completed
  obtain ⟨before, split, applied⟩ := h.progress live
  rw [h.done completed, List.map_nil, List.append_nil] at split
  exact applied item (by rw [← split]; exact hi)

/-- What a run of `version` finds under a name for which a newer version was applied. -/
structure Outrun (log : List Event) (newer version : Int) (item : DesiredDeployment)
    (found : Option Current) : Prop where
  older : ∀ o, found = some o → ∃ u, o.content.version = some u ∧ u ≤ version
  since : ∃ after e before, log = after ++ e :: before ∧ e.version = newer ∧ e.name = item.name ∧
    e.sets = item.spec.isSome ∧
    (item.spec.isSome → Deleted after newer item.name) ∧
      (item.spec = none → ∀ o, found = some o → Created after version item.name)

theorem Sound.outrun {system : System} (sound : Sound config system) {cluster' : Cluster} {e : Event} {run : Run}
    {item : DesiredDeployment} (effect : Effect e system.cluster cluster') (hr : run ∈ system.runs)
    (completed : run.completed = true) (older : e.version < run.delivery.version)
    (hi : item ∈ run.delivery.deployments) (name : e.name = item.name) :
    Outrun system.log run.delivery.version e.version item (system.cluster.get? item.name) := by
  have found : system.cluster.get? item.name = e.found := by rw [← name]; exact effect.found
  refine ⟨fun o ho => effect.older o (by rw [← found]; exact ho), ?_⟩
  obtain ⟨d, hd, version, named, sets⟩ := (sound.runs run hr).applied completed hi
  obtain ⟨after, before, split⟩ := List.append_of_mem hd
  refine ⟨after, d, before, split, version, named, sets, fun spec => ?_, fun spec o ho => ?_⟩
  · rcases sound.kept.set after d before split (by rw [sets, spec]) with ⟨o, ho, u, hu, newer⟩ | deleted
    · obtain ⟨u', hu', older'⟩ := effect.older o (by rw [← found, ← named]; exact ho)
      cases Option.some.inj (hu.symm.trans hu')
      omega
    · rw [← version, ← named]
      exact deleted
  · obtain ⟨u, hu, c, hc, created, set, absent, le⟩ :=
      sound.kept.cleared after d before split (by rw [sets, spec]; rfl) o (by rw [named]; exact ho)
    obtain ⟨u', hu', older'⟩ := effect.older o (by rw [← found]; exact ho)
    cases Option.some.inj (hu.symm.trans hu')
    exact ⟨c, hc, by rw [created, named], set, absent, le.trans older'⟩

/-- In every interleaving, what a run of an older version changes for a name of a completed delivery is
nothing newer than itself, and comes after a still newer version deleted the name or where the
delivery had cleared it. -/
theorem Act.runAll_newest (env : Env) (model : String → Json → Option Json) (config : Config) (cluster : Cluster)
    (acts : List Act) (act : Act) :
    let system := Act.runAll env model config acts (System.start cluster)
    let system' := act.run env model config system
    ∀ run ∈ system.runs, run.completed = true → ∀ old, act.of.bind (system.runs[·]?) = some old →
      old.delivery.version < run.delivery.version → ∀ item ∈ run.delivery.deployments,
      system'.cluster.get? item.name ≠ system.cluster.get? item.name →
        Outrun system.log run.delivery.version old.delivery.version item (system.cluster.get? item.name) := by
  intro system system' run hr completed old of older item hi changed
  have sound : Sound config system := (Sound.start cluster).runAll acts
  cases (sound.run act).2 with
  | kept log same =>
    refine absurd ?_ changed
    show (act.run env model config system).cluster.get? item.name = _
    rw [same]
    cases h : act.of with
    | none => rw [h] at of; cases of
    | some => rfl
  | applied found version log effect =>
    cases Option.some.inj (of.symm.trans found)
    have name : item.name = _ := by_contra fun hn => changed (effect.others item.name hn)
    rw [← version]
    exact sound.outrun effect hr completed (by rw [version]; exact older) hi name.symm

/-! ### A recreated deployment -/

def sampleEnv : Env := ⟨fun _ => true, fun t => t, fun ds => if ds.all (·.spec.isSome) then "set" else "clear", false⟩

def sampleConfig : Config := ⟨"c", "ns"⟩

/-- A spec as it is submitted, without the fields that have defaults. -/
def sampleSpec : Json :=
  .obj [("model", .obj [("checksum", .str ("sha256:" ++ String.ofList (List.replicate 64 'a'))), ("id", .str "demo"),
      ("revision", .str "v1"), ("uri", .str "s3://models/demo")]),
    ("replicas", .int 2), ("resources", .obj []),
      ("runtime", .obj [("image", .str "runtime:test"), ("protocol", .str "openai")])]

/-- What it is read as. -/
def sampleRead : Kubernetes.Api.ModelDeploymentSpec where
  model := ⟨"demo", "v1", "s3://models/demo", "sha256:" ++ String.ofList (List.replicate 64 'a')⟩
  runtime := ⟨"runtime:test", "openai", 8000, [], .default⟩
  replicas := 2
  resources := .obj []
  autoscaling := none
  disruptionBudget := none
  serving := none
  rollout := none
  nodeSelector := none
  tolerations := none

/-- The spec with its defaults, as it is written to the cluster. -/
def sampleDesired : Json :=
  .obj [("model", .obj [("checksum", .str ("sha256:" ++ String.ofList (List.replicate 64 'a'))), ("id", .str "demo"),
      ("revision", .str "v1"), ("uri", .str "s3://models/demo")]),
    ("replicas", .int 2), ("resources", .obj []),
    ("runtime",
      .obj [("arguments", .arr []), ("health", .obj [("path", .str "/readyz"), ("startupTimeoutSeconds", .int 1800)]),
      ("image", .str "runtime:test"), ("port", .int 8000), ("protocol", .str "openai")])]

/-- Knows the one spec, and validates it under the name it is given. -/
def sampleModel (name : String) (spec : Json) : Option Json :=
  let model : Kubernetes.Api.ModelDeployment := ⟨⟨some name, none, none, none, none⟩, some "ns", none, sampleRead, none⟩
  if spec = sampleSpec ∧ Kubernetes.Api.validateSpec model = .ok sampleRead then some sampleDesired else none

/-- A run of version 1 pauses between its read and its creation, another one creates the object, and
version 2 deletes it. -/
def sampleActs : List Act :=
  [.plane (.registerCluster 0 "key" ⟨"c", "ns", 30⟩),
    .plane (.putDesired 0 "admin" "c" ⟨0, [⟨"d", some sampleSpec, none, none⟩]⟩), .deliver 0 0 "l1" "key", .read 0,
    .deliver 0 (seconds 61) "l2" "key", .read 1, .write 1 "u" false,
    .plane (.putDesired 0 "admin" "c" ⟨1, [⟨"d", none, some "u", none⟩]⟩),
    .deliver 0 (seconds 122) "l3" "key", .read 2, .write 2 "" false]

def sampleSystem : System := Act.runAll sampleEnv sampleModel sampleConfig sampleActs (System.start ⟨.empty, 0, nofun⟩)

theorem sampleSystem_runs : ∃ run old item, sampleSystem.runs[2]? = some run ∧ sampleSystem.runs[0]? = some old ∧
    run.completed = true ∧ run.delivery.version = 2 ∧ old.delivery.version = 1 ∧ item ∈ run.delivery.deployments ∧
      item.name = "d" := by
  have newest : sampleSystem.runs[2]?.any (fun run => run.completed && run.delivery.version == 2 &&
      run.delivery.deployments.any (·.name == "d")) = true := by decide +kernel
  have paused : sampleSystem.runs[0]?.any (fun old => old.delivery.version == 1) = true := by decide +kernel
  obtain ⟨run, found, hrun⟩ := (Option.any_eq_true _ _).1 newest
  obtain ⟨old, first, hold⟩ := (Option.any_eq_true _ _).1 paused
  simp only [Bool.and_eq_true, beq_iff_eq, List.any_eq_true] at hrun hold
  obtain ⟨⟨completed, version⟩, item, hi, named⟩ := hrun
  exact ⟨run, old, item, found, first, completed, version, hold, hi, named⟩

/-- The paused run creates the object again. -/
theorem sample_recreated : ∃ run ∈ sampleSystem.runs, run.completed = true ∧ run.delivery.version = 2 ∧
    (∃ item ∈ run.delivery.deployments, item.name = "d") ∧
    (∃ old, sampleSystem.runs[0]? = some old ∧ old.delivery.version = 1) ∧ sampleSystem.cluster.get? "d" = none ∧
    (((Act.write 0 "v" false).run sampleEnv sampleModel sampleConfig sampleSystem).cluster.get? "d").isSome := by
  obtain ⟨run, old, item, found, first, completed, version, paused, hi, named⟩ := sampleSystem_runs
  exact ⟨run, List.mem_of_getElem? found, completed, version, ⟨item, hi, named⟩,
    ⟨old, first, paused⟩, by decide +kernel, by decide +kernel⟩

/-- The delivery had cleared the name. -/
theorem sample_outrun : ∃ run ∈ sampleSystem.runs, run.completed = true ∧ ∃ item ∈ run.delivery.deployments,
    Outrun sampleSystem.log run.delivery.version 1 item (sampleSystem.cluster.get? item.name) := by
  obtain ⟨run, old, item, found, first, completed, version, paused, hi, named⟩ := sampleSystem_runs
  have changed : ((Act.write 0 "v" false).run sampleEnv sampleModel sampleConfig sampleSystem).cluster.get? "d" ≠
      sampleSystem.cluster.get? "d" := by decide +kernel
  refine ⟨run, List.mem_of_getElem? found, completed, item, hi, ?_⟩
  rw [← paused]
  exact Act.runAll_newest sampleEnv sampleModel sampleConfig ⟨.empty, 0, nofun⟩ sampleActs (.write 0 "v" false) run
    (List.mem_of_getElem? found) completed old first (by rw [paused, version]; decide) item hi
      (by rw [named]; exact changed)

end Xscope.Member

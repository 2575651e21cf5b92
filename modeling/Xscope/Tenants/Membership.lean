/-
The memberships of a tenant. `update_membership` issues its statements one by one, outside of any
transaction: what a call read may have changed when it writes. A tenant keeps an owner as long as
every demotion finds one of the other owners it counted still in place.
-/
import Xscope.Store.Access

namespace Xscope.Tenants

/-! ## Memberships -/

structure TenantMembership where
  id : String
  userId : String
  tenantId : String
  role : String
  deriving DecidableEq

instance : Keyed TenantMembership String := ⟨TenantMembership.id⟩

/-- The user that an update answers with: its memberships, by tenant and role. -/
structure PlatformUser where
  id : String
  memberships : List (String × String)
  deriving DecidableEq

/-- A call between two of its statements. -/
inductive Pending where
  | found (userId tenantId role : String)
  | counting (existing : TenantMembership) (role : String)
  | updating (existing : TenantMembership) (owners : List TenantMembership) (role : String)
  | inserting (userId tenantId role : String)
  | written (userId : String)
  deriving DecidableEq

structure State where
  users : List String
  memberships : Table TenantMembership
  calls : Nat → Option Pending
  answers : List (Except ServiceError PlatformUser)

namespace State

/-- Before any call. -/
def start (users : List String) (memberships : Table TenantMembership) : State :=
  ⟨users, memberships, fun _ => none, []⟩

def setCall (s : State) (process : Nat) (call : Option Pending) : State :=
  { s with calls := fun p => if p = process then call else s.calls p }

def finish (s : State) (process : Nat) (answer : Except ServiceError PlatformUser) : State :=
  { s.setCall process none with answers := answer :: s.answers }

/-- The owners of a tenant. -/
def owners (s : State) (tenantId : String) : List TenantMembership :=
  s.memberships.select fun m => m.tenantId == tenantId && m.role == "owner"

/-- `update_membership` up to the lookup of the user. -/
def updateMembership (s : State) (process : Nat) (userId tenantId role : String) : State :=
  if role ≠ "owner" ∧ role ≠ "member" then
    s.finish process (.error (.invalid "membership role must be owner or member"))
  else if userId ∉ s.users then s.finish process (.error .notFound)
  else s.setCall process (some (.found userId tenantId role))

/-- The lookup of the membership. Only the demotion of an owner counts the owners first. -/
def findMembership (s : State) (process : Nat) (userId tenantId role : String) : State :=
  match s.memberships.find fun m => m.userId == userId && m.tenantId == tenantId with
  | none => s.setCall process (some (.inserting userId tenantId role))
  | some existing =>
    if existing.role = "owner" ∧ role ≠ "owner" then s.setCall process (some (.counting existing role))
    else s.setCall process (some (.updating existing [] role))

def countOwners (s : State) (process : Nat) (existing : TenantMembership) (role : String) : State :=
  if (s.owners existing.tenantId).length ≤ 1 then
    s.finish process (.error (.conflict "a tenant must keep at least one owner"))
  else s.setCall process (some (.updating existing (s.owners existing.tenantId) role))

/-- The update writes the role alone, to the row with the identity that was read. -/
def writeRole (s : State) (process : Nat) (existing : TenantMembership) (role : String) : State :=
  match s.memberships.get? existing.id with
  | none => s.finish process (.error .database)
  | some row =>
    { s with memberships := s.memberships.put { row with role := role } }.setCall process
      (some (.written existing.userId))

/-- `tenant_memberships_user_tenant_key` refuses a second membership of the user. -/
def insertMembership (stableId : String → String) (s : State) (process : Nat) (userId tenantId role : String) : State :=
  let row : TenantMembership := ⟨"membership-" ++ stableId (userId ++ ":" ++ tenantId), userId, tenantId, role⟩
  match s.memberships.find (fun m => m.userId == userId && m.tenantId == tenantId), s.memberships.insert? row with
  | none, some memberships => { s with memberships := memberships }.setCall process (some (.written userId))
  | _, _ => s.finish process (.error conflictOrDatabase)

/-- The answer: the user as `list_users` finds it. -/
def answer (s : State) (process : Nat) (userId : String) : State :=
  if userId ∈ s.users then
    let memberships := (s.memberships.select fun m => m.userId == userId).mergeSort fun a b =>
      decide (a.tenantId ≤ b.tenantId)
    s.finish process (.ok ⟨userId, memberships.map fun m => (m.tenantId, m.role)⟩)
  else s.finish process (.error .notFound)

/-- The next statement of a call. -/
def next (stableId : String → String) (s : State) (process : Nat) : State := match s.calls process with
  | none => s
  | some (.found userId tenantId role) => s.findMembership process userId tenantId role
  | some (.counting existing role) => s.countOwners process existing role
  | some (.updating existing _ role) => s.writeRole process existing role
  | some (.inserting userId tenantId role) => s.insertMembership stableId process userId tenantId role
  | some (.written userId) => s.answer process userId

end State

inductive Step where
  | update (process : Nat) (userId tenantId role : String)
  | next (process : Nat)
  deriving DecidableEq

variable (stableId : String → String)

def Step.run : Step → State → State
  | .update process userId tenantId role, s => s.updateMembership process userId tenantId role
  | .next process, s => s.next stableId process

def Step.runAll (steps : List Step) (s : State) : State := steps.foldl (fun s step => step.run stableId s) s

/-! ## The last owner -/

def State.HasOwner (s : State) (tenantId : String) : Prop :=
  ∃ m ∈ s.memberships, m.tenantId = tenantId ∧ m.role = "owner"

instance (s : State) (tenantId : String) : Decidable (s.HasOwner tenantId) :=
  inferInstanceAs (Decidable (∃ m ∈ s.memberships.rows, m.tenantId = tenantId ∧ m.role = "owner"))

/-- What a demotion read still holds when it is written: the member is no owner, or one of the other owners it
counted is. -/
def State.Current (s : State) : Step → Prop
  | .next process => ∀ existing owners role, s.calls process = some (.updating existing owners role) → role ≠ "owner" →
      (∀ m ∈ s.memberships, m.id = existing.id → m.role ≠ "owner") ∨
        ∃ m ∈ s.memberships, m.role = "owner" ∧ m.id ≠ existing.id ∧ m.id ∈ owners.map (·.id)
  | .update .. => True

/-- Every step of a run is current when it is made. -/
def AllCurrent : List Step → State → Prop
  | [], _ => True
  | step :: rest, s => s.Current step ∧ AllCurrent rest (step.run stableId s)

/-- The memberships a call has read. -/
def Pending.read : Pending → List TenantMembership
  | .counting existing _ => [existing]
  | .updating existing owners _ => existing :: owners
  | _ => []

/-- What a call has read is of one tenant, and every membership it read is still there. -/
structure State.Sound (s : State) : Prop where
  there : ∀ p call, s.calls p = some call → ∀ x ∈ call.read, ∃ m ∈ s.memberships, m.id = x.id ∧ m.tenantId = x.tenantId
  tenant : ∀ p existing owners role, s.calls p = some (.updating existing owners role) →
    ∀ o ∈ owners, o.tenantId = existing.tenantId

theorem State.Sound.start (users : List String) (memberships : Table TenantMembership) :
    (State.start users memberships).Sound :=
  ⟨fun _ _ h => (by cases h), fun _ _ _ _ h => (by cases h)⟩

section Steps

variable {stableId : String → String} {s : State} {process : Nat} {tenantId : String}

/-- The calls after one of them ended. -/
theorem setCall_none {call : Pending} {p : Nat} (h : (s.setCall process none).calls p = some call) :
    s.calls p = some call := by
  change (if p = process then none else s.calls p) = some call at h
  split at h
  · cases h
  · exact h

theorem State.Sound.finish (h : s.Sound) (process : Nat) (answer : Except ServiceError PlatformUser) :
    (s.finish process answer).Sound :=
  ⟨fun p call hc => h.there p call (setCall_none hc), fun p existing owners role hc => h.tenant p existing owners role
    (setCall_none hc)⟩

theorem State.Sound.setCall (h : s.Sound) (process : Nat) {call : Pending}
    (there : ∀ x ∈ call.read, ∃ m ∈ s.memberships, m.id = x.id ∧ m.tenantId = x.tenantId)
    (tenant : ∀ existing owners role, call = .updating existing owners role →
    ∀ o ∈ owners, o.tenantId = existing.tenantId) :
    (s.setCall process (some call)).Sound := by
  refine ⟨fun p other hc => ?_, fun p existing owners role hc => ?_⟩ <;>
    change (if p = process then some call else s.calls p) = some _ at hc <;> split at hc
  · cases hc
    exact there
  · exact h.there p other hc
  · exact tenant existing owners role (Option.some.inj hc)
  · exact h.tenant p existing owners role hc

/-- Memberships stay where they are, whatever their role. -/
theorem State.Sound.store (h : s.Sound) {memberships : Table TenantMembership}
    (kept : ∀ m ∈ s.memberships, ∃ m' ∈ memberships, m'.id = m.id ∧ m'.tenantId = m.tenantId) :
    ({ s with memberships := memberships } : State).Sound := by
  refine ⟨fun p call hc x hx => ?_, h.tenant⟩
  obtain ⟨m, hm, id, tenant⟩ := h.there p call hc x hx
  obtain ⟨m', hm', id', tenant'⟩ := kept m hm
  exact ⟨m', hm', id'.trans id, tenant'.trans tenant⟩

theorem findMembership_sound (h : s.Sound) (process : Nat) (userId tenant role : String) :
    (s.findMembership process userId tenant role).Sound ∧
    (s.findMembership process userId tenant role).memberships = s.memberships := by
  unfold State.findMembership
  cases hf : s.memberships.find fun m => m.userId == userId && m.tenantId == tenant with
  | none => exact ⟨h.setCall process (fun x hx => by cases hx) (fun _ _ _ e => by cases e), rfl⟩
  | some existing =>
    have found : ∃ m ∈ s.memberships, m.id = existing.id ∧ m.tenantId = existing.tenantId :=
      ⟨existing, (Table.find_some hf).1, rfl, rfl⟩
    simp only
    split
    · exact ⟨h.setCall process (fun x hx => by cases List.mem_singleton.1 hx; exact found)
        (fun _ _ _ e => by cases e), rfl⟩
    · refine ⟨h.setCall process (fun x hx => by cases List.mem_singleton.1 hx; exact found)
        (fun _ _ _ e o ho => ?_), rfl⟩
      cases e
      cases ho

theorem countOwners_sound (h : s.Sound) {existing : TenantMembership} {role : String}
    (hc : s.calls process = some (.counting existing role)) :
    (s.countOwners process existing role).Sound ∧ (s.countOwners process existing role).memberships =
      s.memberships := by
  have there := h.there process _ hc existing List.mem_cons_self
  have counted : ∀ o ∈ s.owners existing.tenantId, o ∈ s.memberships ∧ o.tenantId = existing.tenantId := by
    intro o ho
    obtain ⟨hm, hp⟩ := List.mem_filter.1 ho
    simp only [Bool.and_eq_true, beq_iff_eq] at hp
    exact ⟨hm, hp.1⟩
  unfold State.countOwners
  split
  · exact ⟨h.finish process _, rfl⟩
  · refine ⟨h.setCall process (fun x hx => ?_) (fun _ _ _ e o ho => ?_), rfl⟩
    · rcases List.mem_cons.1 hx with rfl | hx
      · exact there
      · exact ⟨x, (counted x hx).1, rfl, rfl⟩
    · cases e
      exact (counted o ho).2

/-- The write of a role: the tenant keeps an owner if the write is current. -/
theorem writeRole_owned (h : s.Sound) {existing : TenantMembership} {owners : List TenantMembership} {role : String}
    (hc : s.calls process = some (.updating existing owners role)) (current : s.Current (.next process))
    (owned : s.HasOwner tenantId) :
    (s.writeRole process existing role).Sound ∧ (s.writeRole process existing role).HasOwner tenantId := by
  unfold State.writeRole
  cases hg : s.memberships.get? existing.id with
  | none => exact ⟨h.finish process _, owned⟩
  | some row =>
    obtain ⟨hrow, hid⟩ := Table.get?_some_iff.1 hg
    have hid : row.id = existing.id := hid
    let row' : TenantMembership := { row with role := role }
    have others {m : TenantMembership} (hm : m ∈ s.memberships) (ne : m.id ≠ row.id) : m ∈ s.memberships.put row' :=
      Table.mem_put.2 (.inl ⟨hm, ne⟩)
    have written : row' ∈ s.memberships.put row' := Table.mem_put.2 (.inr ⟨rfl, row, hrow, rfl⟩)
    have sound : ({ s with memberships := s.memberships.put row' } : State).Sound := by
      refine h.store fun m hm => ?_
      by_cases he : m.id = row.id
      · have : m = row := Table.eq_of_key hm hrow he
        exact ⟨row', written, by rw [this], by rw [this]⟩
      · exact ⟨m, others hm he, rfl, rfl⟩
    refine ⟨sound.setCall process (fun x hx => by cases hx) (fun _ _ _ e => by cases e), ?_⟩
    obtain ⟨o, ho, tenant, isOwner⟩ := owned
    by_cases he : o.id = row.id
    · -- the owner of before is the member written
      have same : o = row := Table.eq_of_key ho hrow he
      by_cases hr : role = "owner"
      · exact ⟨row', written, by rw [← tenant, same], hr⟩
      · rcases current existing owners role hc hr with none | ⟨m, hm, mOwner, ne, counted⟩
        · exact absurd isOwner (none o ho (he.trans hid))
        · obtain ⟨x, hx, hxid⟩ := List.mem_map.1 counted
          obtain ⟨m', hm', id', tenant'⟩ := h.there process _ hc x (List.mem_cons_of_mem _ hx)
          obtain ⟨e, hem, eid, etenant⟩ := h.there process _ hc existing List.mem_cons_self
          have hm'm : m' = m := Table.eq_of_key hm' hm (id'.trans hxid)
          have heo : e = o := Table.eq_of_key hem ho (eid.trans (hid.symm.trans he.symm))
          refine ⟨m, others hm (fun h => ne (h.trans hid)), ?_, mOwner⟩
          rw [← hm'm, tenant', h.tenant process existing owners role hc x hx, ← etenant, heo, tenant]
    · exact ⟨o, others ho he, tenant, isOwner⟩

theorem insertMembership_owned (h : s.Sound) (userId tenant role : String) (owned : s.HasOwner tenantId) :
    (s.insertMembership stableId process userId tenant role).Sound ∧
      (s.insertMembership stableId process userId tenant role).HasOwner tenantId := by
  unfold State.insertMembership
  simp only
  split
  · rename_i memberships _ hi
    have sound : ({ s with memberships := memberships } : State).Sound :=
      h.store fun m hm => ⟨m, (Table.mem_insert? hi).2 (.inr hm), rfl, rfl⟩
    obtain ⟨o, ho, isOwner⟩ := owned
    exact ⟨sound.setCall process (fun x hx => by cases hx) (fun _ _ _ e => by cases e), o,
      (Table.mem_insert? hi).2 (.inr ho), isOwner⟩
  · exact ⟨h.finish process _, owned⟩

theorem Step.owned (stableId : String → String) (h : s.Sound) (step : Step) (current : s.Current step)
    (owned : s.HasOwner tenantId) :
    (step.run stableId s).Sound ∧ (step.run stableId s).HasOwner tenantId := by
  cases step with
  | update process userId tenant role =>
    show (s.updateMembership process userId tenant role).Sound ∧
      (s.updateMembership process userId tenant role).HasOwner tenantId
    unfold State.updateMembership
    split
    · exact ⟨h.finish process _, owned⟩
    · split
      · exact ⟨h.finish process _, owned⟩
      · exact ⟨h.setCall process (fun x hx => by cases hx) (fun _ _ _ e => by cases e), owned⟩
  | next process =>
    show (s.next stableId process).Sound ∧ (s.next stableId process).HasOwner tenantId
    unfold State.next
    cases hc : s.calls process with
    | none => exact ⟨h, owned⟩
    | some call =>
      cases call with
      | found userId tenant role =>
        obtain ⟨sound, same⟩ := findMembership_sound h process userId tenant role
        exact ⟨sound, by unfold State.HasOwner at owned ⊢; simp only; rw [same]; exact owned⟩
      | counting existing role =>
        obtain ⟨sound, same⟩ := countOwners_sound h hc
        exact ⟨sound, by unfold State.HasOwner at owned ⊢; simp only; rw [same]; exact owned⟩
      | updating existing owners role => exact writeRole_owned h hc current owned
      | inserting userId tenant role => exact insertMembership_owned h userId tenant role owned
      | written userId =>
        simp only
        unfold State.answer
        split
        · exact ⟨h.finish process _, owned⟩
        · exact ⟨h.finish process _, owned⟩

theorem Step.runAll_sound (steps : List Step) (h : s.Sound) (current : AllCurrent stableId steps s)
    (owned : s.HasOwner tenantId) :
    (Step.runAll stableId steps s).HasOwner tenantId := by
  induction steps generalizing s with
  | nil => exact owned
  | cons step rest ih =>
    obtain ⟨sound, owned'⟩ := Step.owned stableId h step current.1 owned
    exact ih sound current.2 owned'

end Steps

/-- In a run whose demotions are current when they are written, a tenant with an owner keeps one in every state. -/
theorem Step.runAll_owned (users : List String) (memberships : Table TenantMembership) (tenantId : String)
    (steps : List Step) (owned : (State.start users memberships).HasOwner tenantId)
    (current : AllCurrent stableId steps (State.start users memberships)) :
    ∀ n, (Step.runAll stableId (steps.take n) (State.start users memberships)).HasOwner tenantId := by
  have taken : ∀ (steps : List Step) (s : State) (n : Nat), AllCurrent stableId steps s →
      AllCurrent stableId (steps.take n) s := by
    intro steps
    induction steps with
    | nil => intro s n h; rw [List.take_nil]; exact h
    | cons step rest ih =>
      intro s n h
      cases n with
      | zero => exact trivial
      | succ n => exact ⟨h.1, ih _ n h.2⟩
  intro n
  exact Step.runAll_sound _ (.start users memberships) (taken steps _ n current) owned

/-! Two owners of a tenant, each made a member by a call of its own. -/

namespace Sample

def first : TenantMembership := ⟨"m1", "u1", "tenant", "owner"⟩

def second : TenantMembership := ⟨"m2", "u2", "tenant", "owner"⟩

def state : State := .start ["u1", "u2"] ⟨[first, second], by decide⟩

/-- Both calls count two owners before either writes. -/
def race : List Step := [.update 1 "u1" "tenant" "member", .next 1, .next 1, .update 2 "u2" "tenant" "member",
    .next 2, .next 2, .next 1, .next 2]

def demotion : List Step := [.update 1 "u1" "tenant" "member", .next 1, .next 1, .next 1, .next 1]

end Sample

/-- The race leaves the tenant without an owner. -/
theorem sample_race : Sample.state.HasOwner "tenant" ∧ ¬(Step.runAll id Sample.race Sample.state).HasOwner
    "tenant" := by decide

theorem sample_demotion : Sample.second.role = "owner" ∧
    ∀ n, (Step.runAll id (Sample.demotion.take n) Sample.state).HasOwner "tenant" := by
  refine ⟨rfl, Step.runAll_owned id ["u1", "u2"] ⟨[Sample.first, Sample.second], by decide⟩ "tenant" Sample.demotion
    (by decide) ?_⟩
  refine ⟨trivial, fun _ _ _ hc => ?_, fun _ _ _ hc => ?_, fun existing owners role hc _ => ?_,
    fun _ _ _ hc => ?_, trivial⟩
  · cases hc
  · cases hc
  · -- the write of the demotion: the second owner was counted
    cases hc
    exact .inr ⟨Sample.second, by decide, rfl, by decide, by decide⟩
  · cases hc

end Xscope.Tenants

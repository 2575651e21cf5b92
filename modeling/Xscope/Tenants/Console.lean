/-
Who may change a tenant. The console takes from the headers of its proxy who is asking, reads the memberships of
that user once, and decides on this snapshot for the rest of the request. However requests overlap, nobody gets
at a tenant unless one of its owners, or the configuration, lets them in.
-/
import Xscope.Tenants.Membership

namespace Xscope.Tenants

/-! ## Who is asking -/

structure Config where
  consoleAuth : Bool
  defaultTenantId : String
  autoJoinDefaultTenant : Bool
  bootstrapAdminUsers : List String

/-- The headers of a request by their names in lower case; a value that is no text is `none`. -/
abbrev HeaderMap := List (String × Option String)

/-- `str::trim`. -/
def trimmed (value : String) : String :=
  String.ofList ((value.toList.dropWhile isSpace).reverse.dropWhile isSpace).reverse

def firstHeader (headers : HeaderMap) (names : List String) : Option String :=
  names.findSome? fun name => ((headers.lookup name).join.map trimmed).filter fun value => !value.isEmpty

/-- What `console_identity` makes of the headers. -/
structure Claimed where
  subject : String
  username : String
  email : String
  authDisabled : Bool
  deriving DecidableEq

def Config.identity (config : Config) (headers : HeaderMap) : Except ServiceError Claimed :=
  if config.consoleAuth then
    match firstHeader headers ["x-auth-request-preferred-username", "x-forwarded-preferred-username",
      "x-auth-request-user", "x-forwarded-user"] with
    | none => .error .unauthorized
    | some username => .ok {
        subject :=
          (firstHeader headers ["x-auth-request-sub", "x-forwarded-sub", "x-auth-request-user",
            "x-forwarded-user"]).getD username
        username
        email := (firstHeader headers ["x-auth-request-email", "x-forwarded-email"]).getD ""
        authDisabled := false }
  else .ok ⟨"development-user", "development-user", "development@local.xscope", true⟩

/-- The role in the default tenant of a user that has none there. -/
def Config.defaultRole (config : Config) (claimed : Claimed) : Option String :=
  if claimed.authDisabled || config.bootstrapAdminUsers.contains claimed.username ||
      config.bootstrapAdminUsers.contains claimed.email then some "owner"
  else if config.autoJoinDefaultTenant then some "member"
  else none

/-! ## The console -/

structure UserRow where
  id : String
  externalSubject : String
  username : String
  email : String
  deriving DecidableEq

instance : Keyed UserRow String := ⟨UserRow.id⟩

/-- The user that a request runs as. -/
structure SignedIn extends PlatformUser where
  externalSubject : String
  username : String
  email : String
  deriving DecidableEq

structure UserContext where
  user : SignedIn
  authDisabled : Bool
  deriving DecidableEq

namespace UserContext

def canAccess (context : UserContext) (tenantId : String) : Bool :=
  context.authDisabled || context.user.memberships.any fun m => m.1 == tenantId

def canManage (context : UserContext) (tenantId : String) : Bool :=
  context.authDisabled || context.user.memberships.any fun m => m.1 == tenantId && m.2 == "owner"

end UserContext

def requireTenantOwner (context : UserContext) (tenantId : String) : Except ServiceError Unit :=
  if context.canManage tenantId then .ok () else .error .forbidden

/-- The tables, the updates under way, and the contexts of the requests that are running. -/
structure Console where
  users : Table UserRow
  memberships : Table TenantMembership
  calls : Nat → Option Pending
  answers : List (Except ServiceError PlatformUser)
  requests : Nat → Option UserContext

namespace Console

def start (users : Table UserRow) (memberships : Table TenantMembership) : Console :=
  ⟨users, memberships, fun _ => none, [], fun _ => none⟩

/-- What the updates of memberships work on. -/
def store (c : Console) : State := ⟨c.users.rows.map (·.id), c.memberships, c.calls, c.answers⟩

def withStore (c : Console) (s : State) : Console :=
  { c with memberships := s.memberships, calls := s.calls, answers := s.answers }

variable (stableId : String → String)

/-- The row of the user after a sign-in, found by its subject. -/
def syncRow (c : Console) (claimed : Claimed) : Except ServiceError (UserRow × Table UserRow) :=
  match c.users.find fun u => u.externalSubject == claimed.subject with
  | some existing =>
    let row := { existing with username := claimed.username, email := claimed.email }
    .ok (row, c.users.put row)
  | none =>
    let row : UserRow := ⟨"user-" ++ stableId claimed.subject, claimed.subject, claimed.username, claimed.email⟩
    match c.users.insert? row with
    | none => .error conflictOrDatabase
    | some users => .ok (row, users)

/-- The memberships after a sign-in: a default role never replaces the role there is. -/
def syncMembership (c : Console) (userId tenantId : String) (defaultRole : Option String) :
    Except ServiceError (Table TenantMembership) :=
  match defaultRole, c.memberships.find fun m => m.userId == userId && m.tenantId == tenantId with
  | some role, none =>
    match c.memberships.insert? ⟨"membership-" ++ stableId (userId ++ ":" ++ tenantId), userId, tenantId, role⟩ with
    | none => .error conflictOrDatabase
    | some memberships => .ok memberships
  | _, _ => .ok c.memberships

/-- `sync_user`, in one transaction. -/
def syncUser (c : Console) (claimed : Claimed) (defaultTenantId : String) (defaultRole : Option String) :
    Except ServiceError (SignedIn × Console) := do
  if claimed.subject.isEmpty then .error .unauthorized
  let (row, users) ← c.syncRow stableId claimed
  let memberships ← c.syncMembership stableId row.id defaultTenantId defaultRole
  let own := (memberships.select fun m => m.userId == row.id).insertionSort fun a b => a.tenantId ≤ b.tenantId
  pure ({ row with memberships := own.map fun m => (m.tenantId, m.role) }, { c with users, memberships })

def setRequest (c : Console) (process : Nat) (context : Option UserContext) : Console :=
  { c with requests := fun p => if p = process then context else c.requests p }

def fail (c : Console) (process : Nat) (e : ServiceError) : Console :=
  { c.setRequest process none with answers := .error e :: c.answers }

/-- `console_identity`: the request goes on as the user it is signed in as. -/
def signIn (config : Config) (c : Console) (process : Nat) (headers : HeaderMap) : Console :=
  match config.identity headers with
  | .error e => c.fail process e
  | .ok claimed =>
    match c.syncUser stableId claimed config.defaultTenantId (config.defaultRole claimed) with
    | .error e => c.fail process e
    | .ok (user, c) => c.setRequest process (some ⟨user, claimed.authDisabled⟩)

/-- The handler of an update, on the context of its request. -/
def updateMembership (c : Console) (process : Nat) (userId tenantId role : String) : Console :=
  match c.requests process with
  | none => c
  | some context =>
    match requireTenantOwner context tenantId with
    | .error e => c.fail process e
    | .ok () => c.withStore (c.store.updateMembership process userId tenantId role)

/-- The next statement of an update. -/
def next (c : Console) (process : Nat) : Console := c.withStore (c.store.next stableId process)

end Console

inductive Event where
  | signIn (process : Nat) (headers : HeaderMap)
  | update (process : Nat) (userId tenantId role : String)
  | next (process : Nat)

variable (stableId : String → String) (config : Config)

def Event.run : Event → Console → Console
  | .signIn process headers, c => c.signIn stableId config process headers
  | .update process userId tenantId role, c => c.updateMembership process userId tenantId role
  | .next process, c => c.next stableId process

def Event.runAll (events : List Event) (c : Console) : Console :=
  events.foldl (fun c event => event.run stableId config c) c

/-! ## Grants -/

section Guarded

variable (rogue high : String → Prop) (tenantId : String)

/-- A role of a tenant that is not a high role of the tenant for a rogue. -/
def Harmless (users : Table UserRow) (userId tenant role : String) : Prop :=
  tenant = tenantId → high role → ∀ u ∈ users, u.id = userId → ¬rogue u.externalSubject

/-- The membership that an update is about to write. -/
def Pending.target : Pending → Option (String × String × String)
  | .found userId tenantId role => some (userId, tenantId, role)
  | .counting existing role => some (existing.userId, existing.tenantId, role)
  | .updating existing _ role => some (existing.userId, existing.tenantId, role)
  | .inserting userId tenantId role => some (userId, tenantId, role)
  | .written _ => none

/-- The row that an update is about to write. -/
def Pending.row : Pending → Option TenantMembership
  | .counting existing _ => some existing
  | .updating existing _ _ => some existing
  | _ => none

/-- Every user of a membership exists, the tenant has no rogue in a high role, and no update and no request is
about to let one in. -/
structure Console.Guarded (c : Console) : Prop where
  referenced : ∀ m ∈ c.memberships, ∃ u ∈ c.users, u.id = m.userId
  members : ∀ m ∈ c.memberships, Harmless rogue high tenantId c.users m.userId m.tenantId m.role
  targets : ∀ p call, c.calls p = some call → ∀ userId tenant role, call.target = some (userId, tenant, role) →
    (∃ u ∈ c.users, u.id = userId) ∧ Harmless rogue high tenantId c.users userId tenant role
  rows : ∀ p call, c.calls p = some call → ∀ x, call.row = some x → ∃ m ∈ c.memberships, m.id = x.id ∧
    m.userId = x.userId ∧ m.tenantId = x.tenantId
  requests : ∀ p context, c.requests p = some context → context.authDisabled = false ∧
    (rogue context.user.externalSubject → ∀ m ∈ context.user.memberships, m.1 = tenantId → ¬high m.2)

/-- The step lets no rogue in: a sign-in gives it no high role in the tenant by default, and nobody else makes
it one. -/
def Console.Honest (c : Console) : Event → Prop
  | .signIn _ headers =>
    ∀ claimed, config.identity headers = .ok claimed → rogue claimed.subject → config.defaultTenantId = tenantId →
      ∀ role, config.defaultRole claimed = some role → ¬high role
  | .update process userId tenant role =>
    ∀ context, c.requests process = some context → ¬rogue context.user.externalSubject →
      Harmless rogue high tenantId c.users userId tenant role
  | .next _ => True

def AllHonest : List Event → Console → Prop
  | [], _ => True
  | event :: rest, c => c.Honest config rogue high tenantId event ∧ AllHonest rest (event.run stableId config c)

variable [DecidablePred rogue] [DecidablePred high]

instance (users : Table UserRow) (userId tenant role : String) :
    Decidable (Harmless rogue high tenantId users userId tenant role) :=
  inferInstanceAs (Decidable (tenant = tenantId → high role → ∀ u ∈ users.rows, u.id = userId →
    ¬rogue u.externalSubject))

instance (c : Console) : (event : Event) → Decidable (c.Honest config rogue high tenantId event)
  | .signIn _ headers => decidable_of_iff (∀ claimed ∈ (config.identity headers).toOption, rogue claimed.subject →
      config.defaultTenantId = tenantId → ∀ role ∈ config.defaultRole claimed, ¬high role) (by
      constructor
      · exact fun h claimed identified => h claimed (by rw [identified]; rfl)
      · intro h claimed identified
        cases made : config.identity headers with
        | error e => rw [made] at identified; cases identified
        | ok x => rw [made] at identified; cases identified; exact h claimed made)
  | .update process userId tenant role => inferInstanceAs (Decidable (∀ context ∈ c.requests process,
      ¬rogue context.user.externalSubject → Harmless rogue high tenantId c.users userId tenant role))
  | .next _ => .isTrue trivial

instance decidableAllHonest : (events : List Event) → (c : Console) →
    Decidable (AllHonest stableId config rogue high tenantId events c)
  | [], _ => .isTrue trivial
  | event :: rest, c =>
    have := decidableAllHonest rest (event.run stableId config c)
    inferInstanceAs (Decidable (_ ∧ _))

end Guarded

section Steps

variable {stableId : String → String} {config : Config} {rogue high : String → Prop} {tenantId : String} {c : Console}

theorem canManage_iff {context : UserContext} {tenant : String} : context.canManage tenant = true ↔
    context.authDisabled = true ∨ ∃ m ∈ context.user.memberships, m.1 = tenant ∧ m.2 = "owner" := by
  simp [UserContext.canManage]

theorem canAccess_iff {context : UserContext} {tenant : String} : context.canAccess tenant = true ↔
    context.authDisabled = true ∨ ∃ m ∈ context.user.memberships, m.1 = tenant := by
  simp [UserContext.canAccess]

/-- A rogue manages nothing of the tenant. -/
theorem Console.Guarded.refused (h : c.Guarded rogue high tenantId) (owner : high "owner") {process : Nat}
    {context : UserContext} (running : c.requests process = some context)
    (rogues : rogue context.user.externalSubject) : context.canManage tenantId = false := by
  obtain ⟨auth, snapshot⟩ := h.requests process context running
  rw [Bool.eq_false_iff, Ne, canManage_iff, auth]
  rintro (h | ⟨m, hm, tenant, role⟩)
  · cases h
  · exact snapshot rogues m hm tenant (by rw [role]; exact owner)

/-! Other users and other memberships. -/

/-- Users that keep their identities and subjects, and any new ones. -/
structure Known (users users' : Table UserRow) : Prop where
  kept : ∀ u ∈ users, ∃ u' ∈ users', u'.id = u.id
  old : ∀ u' ∈ users', (∃ u ∈ users, u.id = u'.id) → ∃ u ∈ users, u.id = u'.id ∧ u.externalSubject = u'.externalSubject

theorem Harmless.known {users users' : Table UserRow} (known : Known users users') {userId tenant role : String}
    (exist : ∃ u ∈ users, u.id = userId) (h : Harmless rogue high tenantId users userId tenant role) :
    Harmless rogue high tenantId users' userId tenant role := by
  intro ht hr u' hu' id
  obtain ⟨u, hu, id', subject⟩ := known.old u' hu' (by rw [id]; exact exist)
  rw [← subject]
  exact h ht hr u hu (id'.trans id)

/-- New users change nothing about what is there. -/
theorem Console.Guarded.users (h : c.Guarded rogue high tenantId) {users : Table UserRow}
    (known : Known c.users users) : ({ c with users } : Console).Guarded rogue high tenantId where
  referenced m hm := by
    obtain ⟨u, hu, id⟩ := h.referenced m hm
    obtain ⟨u', hu', id'⟩ := known.kept u hu
    exact ⟨u', hu', id'.trans id⟩
  members m hm := (h.members m hm).known known (h.referenced m hm)
  targets p call hc userId tenant role target := by
    obtain ⟨⟨u, hu, id⟩, harmless⟩ := h.targets p call hc userId tenant role target
    obtain ⟨u', hu', id'⟩ := known.kept u hu
    exact ⟨⟨u', hu', id'.trans id⟩, harmless.known known ⟨u, hu, id⟩⟩
  rows := h.rows
  requests := h.requests

/-- A membership more. -/
theorem Console.Guarded.insert (h : c.Guarded rogue high tenantId) {row : TenantMembership}
    {memberships : Table TenantMembership} (inserted : c.memberships.insert? row = some memberships)
    (exist : ∃ u ∈ c.users, u.id = row.userId)
    (harmless : Harmless rogue high tenantId c.users row.userId row.tenantId row.role) :
    ({ c with memberships } : Console).Guarded rogue high tenantId where
  referenced m hm := by
    rcases (Table.mem_insert? inserted).1 hm with rfl | hm
    · exact exist
    · exact h.referenced m hm
  members m hm := by
    rcases (Table.mem_insert? inserted).1 hm with rfl | hm
    · exact harmless
    · exact h.members m hm
  targets := h.targets
  rows p call hc x hx := by
    obtain ⟨m, hm, same⟩ := h.rows p call hc x hx
    exact ⟨m, (Table.mem_insert? inserted).2 (.inr hm), same⟩
  requests := h.requests

/-- Another role for a membership. -/
theorem Console.Guarded.rewrite (h : c.Guarded rogue high tenantId) {row : TenantMembership} {role : String}
    (there : row ∈ c.memberships) (harmless : Harmless rogue high tenantId c.users row.userId row.tenantId role) :
    ({ c with memberships := c.memberships.put { row with role := role } } : Console).Guarded rogue high tenantId where
  referenced m hm := by
    rcases Table.mem_put.1 hm with ⟨hm, -⟩ | ⟨rfl, -⟩
    · exact h.referenced m hm
    · exact h.referenced row there
  members m hm := by
    rcases Table.mem_put.1 hm with ⟨hm, -⟩ | ⟨rfl, -⟩
    · exact h.members m hm
    · exact harmless
  targets := h.targets
  rows p call hc x hx := by
    obtain ⟨m, hm, id, same⟩ := h.rows p call hc x hx
    by_cases he : m.id = row.id
    · rw [Table.eq_of_key hm there he] at id same
      exact ⟨_, Table.mem_put.2 (.inr ⟨rfl, row, there, rfl⟩), id, same⟩
    · exact ⟨m, Table.mem_put.2 (.inl ⟨hm, he⟩), id, same⟩
  requests := h.requests

/-- A call that goes on, or ends. -/
theorem Console.Guarded.call (h : c.Guarded rogue high tenantId) {calls : Nat → Option Pending}
    (answers : List (Except ServiceError PlatformUser)) (goes : ∀ p call, calls p = some call → c.calls p = some call ∨
      (∀ userId tenant role, call.target = some (userId, tenant, role) →
        (∃ u ∈ c.users, u.id = userId) ∧ Harmless rogue high tenantId c.users userId tenant role) ∧
      ∀ x, call.row = some x → ∃ m ∈ c.memberships, m.id = x.id ∧ m.userId = x.userId ∧ m.tenantId = x.tenantId) :
    ({ c with calls, answers } : Console).Guarded rogue high tenantId where
  referenced := h.referenced
  members := h.members
  targets p call hc := (goes p call hc).elim (h.targets p call) fun new => new.1
  rows p call hc := (goes p call hc).elim (h.rows p call) fun new => new.2
  requests := h.requests

theorem Console.Guarded.finish (h : c.Guarded rogue high tenantId) (process : Nat)
    (answer : Except ServiceError PlatformUser) :
    (c.withStore (c.store.finish process answer)).Guarded rogue high tenantId :=
  h.call (answer :: c.answers) fun _ _ hc => .inl (setCall_none hc)

theorem Console.Guarded.setCall (h : c.Guarded rogue high tenantId) (process : Nat) {call : Pending}
    (target : ∀ userId tenant role, call.target = some (userId, tenant, role) →
      (∃ u ∈ c.users, u.id = userId) ∧ Harmless rogue high tenantId c.users userId tenant role)
    (row : ∀ x, call.row = some x → ∃ m ∈ c.memberships, m.id = x.id ∧ m.userId = x.userId ∧ m.tenantId = x.tenantId) :
    (c.withStore (c.store.setCall process (some call))).Guarded rogue high tenantId := by
  refine h.call c.answers fun p other hc => ?_
  change (if p = process then some call else c.calls p) = some other at hc
  split at hc
  · cases hc
    exact .inr ⟨target, row⟩
  · exact .inl hc

/-- The update is through: nothing is left to write. -/
theorem Console.Guarded.wrote (h : c.Guarded rogue high tenantId) (process : Nat) (userId : String) :
    (c.withStore (c.store.setCall process (some (.written userId)))).Guarded rogue high tenantId :=
  h.setCall process (fun _ _ _ e => by cases e) (fun _ e => by cases e)

/-- A request that starts, or ends. -/
theorem Console.Guarded.setRequest (h : c.Guarded rogue high tenantId) (process : Nat) {context : Option UserContext}
    (running : ∀ x, context = some x → x.authDisabled = false ∧
      (rogue x.user.externalSubject → ∀ m ∈ x.user.memberships, m.1 = tenantId → ¬high m.2)) :
    (c.setRequest process context).Guarded rogue high tenantId where
  referenced := h.referenced
  members := h.members
  targets := h.targets
  rows := h.rows
  requests p x hx := by
    change (if p = process then context else c.requests p) = some x at hx
    split at hx
    · exact running x hx
    · exact h.requests p x hx

theorem Console.Guarded.fail (h : c.Guarded rogue high tenantId) (process : Nat) (e : ServiceError) :
    (c.fail process e).Guarded rogue high tenantId := by
  have ended : (c.setRequest process none).Guarded rogue high tenantId := h.setRequest process fun _ hx => by cases hx
  exact ended.call (.error e :: c.answers) fun _ _ hc => .inl hc

/-! ## The steps of an update -/

theorem Console.Guarded.updateMembership (h : c.Guarded rogue high tenantId) (owner : high "owner") {process : Nat}
    {userId tenant role : String} (honest : c.Honest config rogue high tenantId (.update process userId tenant role)) :
    (c.updateMembership process userId tenant role).Guarded rogue high tenantId := by
  unfold Console.updateMembership requireTenantOwner
  cases running : c.requests process with
  | none => exact h
  | some context =>
    by_cases manages : context.canManage tenant = true
    · -- a rogue that is let through manages another tenant
      have harmless : Harmless rogue high tenantId c.users userId tenant role := by
        by_cases rogues : rogue context.user.externalSubject
        · rintro rfl
          rw [h.refused owner running rogues] at manages
          cases manages
        · exact honest context running rogues
      simp only [manages, if_true]
      unfold State.updateMembership
      split
      · exact h.finish process _
      · split
        · exact h.finish process _
        · rename_i known
          refine h.setCall process (fun _ _ _ e => ?_) (fun _ e => by cases e)
          cases e
          exact ⟨List.mem_map.1 (not_not.1 known), harmless⟩
    · simp only [manages]
      exact h.fail process .forbidden

/-- The call that a process is in writes what it is about to write. -/
theorem Console.Guarded.next (h : c.Guarded rogue high tenantId) (process : Nat) :
    (c.next stableId process).Guarded rogue high tenantId := by
  unfold Console.next State.next
  cases running : c.store.calls process with
  | none => exact h
  | some call =>
    have targets := h.targets process call running
    have rows := h.rows process call running
    cases call with
    | found userId tenant role =>
      have target := targets userId tenant role rfl
      simp only
      unfold State.findMembership
      cases looked : c.store.memberships.find fun m => m.userId == userId && m.tenantId == tenant with
      | none =>
        refine h.setCall process (fun _ _ _ e => ?_) (fun _ e => by cases e)
        cases e
        exact target
      | some existing =>
        obtain ⟨there, matched⟩ := Table.find_some looked
        simp only [Bool.and_eq_true, beq_iff_eq] at matched
        have same : ∃ m ∈ c.memberships, m.id = existing.id ∧ m.userId = existing.userId ∧
            m.tenantId = existing.tenantId :=
          ⟨existing, there, rfl, rfl, rfl⟩
        rw [← matched.1, ← matched.2] at target
        simp only
        split
        · refine h.setCall process (fun _ _ _ e => ?_) (fun _ e => ?_) <;> cases e
          · exact target
          · exact same
        · refine h.setCall process (fun _ _ _ e => ?_) (fun _ e => ?_) <;> cases e
          · exact target
          · exact same
    | counting existing role =>
      simp only
      unfold State.countOwners
      split
      · exact h.finish process _
      · refine h.setCall process (fun _ _ _ e => ?_) (fun _ e => ?_) <;> cases e
        · exact targets _ _ _ rfl
        · exact rows existing rfl
    | updating existing owners role =>
      simp only
      unfold State.writeRole
      cases stored : c.store.memberships.get? existing.id with
      | none => exact h.finish process _
      | some row =>
        -- the row that is written is the one that was read: of its user and of its tenant
        obtain ⟨m, hm, id, userId, tenant⟩ := rows existing rfl
        have same : m = row := Table.eq_of_key hm (Table.get?_mem stored) (id.trans (Table.get?_key stored).symm)
        have harmless := (targets _ _ _ rfl).2
        rw [← userId, ← tenant, same] at harmless
        exact (h.rewrite (Table.get?_mem stored) harmless).wrote process existing.userId
    | inserting userId tenant role =>
      obtain ⟨exist, harmless⟩ := targets userId tenant role rfl
      simp only
      unfold State.insertMembership
      simp only
      split
      · rename_i memberships _ inserted
        exact (h.insert inserted exist harmless).wrote process userId
      · exact h.finish process _
    | written userId =>
      simp only
      unfold State.answer
      split
      · exact h.finish process _
      · exact h.finish process _

/-! ## Signing in -/

/-- The user that a subject is synchronised to is the one with that subject. -/
theorem syncRow_known {claimed : Claimed} {row : UserRow} {users : Table UserRow}
    (h : c.syncRow stableId claimed = .ok (row, users)) :
    Known c.users users ∧ row ∈ users ∧ row.externalSubject = claimed.subject := by
  unfold Console.syncRow at h
  cases found : c.users.find fun u => u.externalSubject == claimed.subject with
  | some existing =>
    rw [found] at h
    obtain ⟨there, subject⟩ := Table.find_some found
    obtain ⟨rfl, rfl⟩ := Prod.mk.inj (Except.ok.inj h)
    have written : { existing with username := claimed.username, email := claimed.email } ∈
        c.users.put { existing with username := claimed.username, email := claimed.email } :=
      Table.mem_put.2 (.inr ⟨rfl, existing, there, rfl⟩)
    refine ⟨⟨fun u hu => ?_, fun u' hu' _ => ?_⟩, written, eq_of_beq subject⟩
    · by_cases he : u.id = existing.id
      · exact ⟨_, written, he.symm⟩
      · exact ⟨u, Table.mem_put.2 (.inl ⟨hu, he⟩), rfl⟩
    · rcases Table.mem_put.1 hu' with ⟨hu, -⟩ | ⟨rfl, -⟩
      · exact ⟨u', hu, rfl, rfl⟩
      · exact ⟨existing, there, rfl, rfl⟩
  | none =>
    rw [found] at h
    simp only at h
    split at h
    · cases h
    · rename_i users' inserted
      obtain ⟨rfl, rfl⟩ := Prod.mk.inj (Except.ok.inj h)
      refine ⟨⟨fun u hu => ⟨u, (Table.mem_insert? inserted).2 (.inr hu), rfl⟩, fun u' hu' old => ?_⟩,
        (Table.mem_insert? inserted).2 (.inl rfl), rfl⟩
      rcases (Table.mem_insert? inserted).1 hu' with rfl | hu
      · -- the identity of a new user is of no user there was
        obtain ⟨u, hu, id⟩ := old
        exact absurd id (Table.get?_none_iff.1 (Table.insert?_some inserted).1 u hu)
      · exact ⟨u', hu, rfl, rfl⟩

theorem Console.Guarded.syncMembership (h : c.Guarded rogue high tenantId) {userId tenant : String}
    {defaultRole : Option String} {memberships : Table TenantMembership}
    (synced : c.syncMembership stableId userId tenant defaultRole = .ok memberships)
    (exist : ∃ u ∈ c.users, u.id = userId)
    (harmless : ∀ role, defaultRole = some role → Harmless rogue high tenantId c.users userId tenant role) :
    ({ c with memberships } : Console).Guarded rogue high tenantId := by
  unfold Console.syncMembership at synced
  split at synced
  · split at synced
    · cases synced
    · rename_i role _ _ _ inserted
      cases synced
      exact h.insert inserted exist (harmless _ rfl)
  · cases synced
    exact h

/-- The user that a request signs in as has the memberships of its row. -/
theorem Console.Guarded.syncUser (h : c.Guarded rogue high tenantId) {claimed : Claimed} {tenant : String}
    {defaultRole : Option String} {user : SignedIn} {c' : Console}
    (synced : c.syncUser stableId claimed tenant defaultRole = .ok (user, c'))
    (honest : rogue claimed.subject → tenant = tenantId → ∀ role, defaultRole = some role → ¬high role) :
    c'.Guarded rogue high tenantId ∧ (rogue user.externalSubject → ∀ m ∈ user.memberships, m.1 = tenantId →
      ¬high m.2) := by
  unfold Console.syncUser at synced
  split at synced
  · cases synced
  · cases rowed : c.syncRow stableId claimed with
    | error e =>
      rw [rowed] at synced
      cases synced
    | ok r =>
      obtain ⟨row, users⟩ := r
      rw [rowed] at synced
      change (c.syncMembership stableId row.id tenant defaultRole >>= _) = .ok (user, c') at synced
      cases membered : c.syncMembership stableId row.id tenant defaultRole with
      | error e =>
        rw [membered] at synced
        cases synced
      | ok memberships =>
        rw [membered] at synced
        cases synced
        obtain ⟨known, there, subject⟩ := syncRow_known rowed
        have guarded := (h.users known).syncMembership membered ⟨row, there, rfl⟩ fun role hrole ht hr u hu id => by
          rw [Table.eq_of_key hu there id, subject]
          exact fun rogues => honest rogues ht role hrole hr
        refine ⟨guarded, fun rogues m hm => ?_⟩
        obtain ⟨x, hx, rfl⟩ := List.mem_map.1 hm
        obtain ⟨hx, own⟩ := List.mem_filter.1 ((List.perm_insertionSort _ _).mem_iff.1 hx)
        exact fun ht hr => guarded.members x hx ht hr row there (eq_of_beq own).symm rogues

theorem identity_auth {headers : HeaderMap} {claimed : Claimed} (auth : config.consoleAuth = true)
    (h : config.identity headers = .ok claimed) :
    claimed.authDisabled = false := by
  unfold Config.identity at h
  rw [if_pos auth] at h
  split at h
  · cases h
  · cases h
    rfl

theorem Console.Guarded.signIn (h : c.Guarded rogue high tenantId) (auth : config.consoleAuth = true) {process : Nat}
    {headers : HeaderMap} (honest : c.Honest config rogue high tenantId (.signIn process headers)) :
    (c.signIn stableId config process headers).Guarded rogue high tenantId := by
  unfold Console.signIn
  cases identified : config.identity headers with
  | error e => exact h.fail process e
  | ok claimed =>
    simp only
    cases synced : c.syncUser stableId claimed config.defaultTenantId (config.defaultRole claimed) with
    | error e => exact h.fail process e
    | ok r =>
      obtain ⟨guarded, snapshot⟩ := h.syncUser synced (honest claimed identified)
      refine guarded.setRequest process fun x hx => ?_
      cases hx
      exact ⟨identity_auth auth identified, snapshot⟩

theorem Event.guarded (h : c.Guarded rogue high tenantId) (auth : config.consoleAuth = true) (owner : high "owner")
    (event : Event) (honest : c.Honest config rogue high tenantId event) :
    (event.run stableId config c).Guarded rogue high tenantId := by
  cases event with
  | signIn process headers => exact h.signIn auth honest
  | update process userId tenant role => exact h.updateMembership owner honest
  | next process => exact h.next process

theorem Event.runAll_guarded (events : List Event) (h : c.Guarded rogue high tenantId)
    (auth : config.consoleAuth = true) (owner : high "owner")
    (honest : AllHonest stableId config rogue high tenantId events c) :
    (Event.runAll stableId config events c).Guarded rogue high tenantId := by
  induction events generalizing c with
  | nil => exact h
  | cons event rest ih => exact ih (Event.guarded h auth owner event honest.1) honest.2

theorem Console.Guarded.start {users : Table UserRow} {memberships : Table TenantMembership}
    (referenced : ∀ m ∈ memberships, ∃ u ∈ users, u.id = m.userId)
    (members : ∀ m ∈ memberships, Harmless rogue high tenantId users m.userId m.tenantId m.role) :
    (Console.start users memberships).Guarded rogue high tenantId where
  referenced := referenced
  members := members
  targets _ _ hc := by cases hc
  rows _ _ hc := by cases hc
  requests _ _ hx := by cases hx

end Steps

/-- No rogue ever gets a high role of the tenant, and no request of a rogue manages it, however the requests and
their statements interleave: as long as neither the configuration nor a request of somebody else makes one.
Where every role is high, no request of a rogue gets at the tenant at all. -/
theorem Event.run_guarded (rogue high : String → Prop) (tenantId : String) (auth : config.consoleAuth = true)
    (owner : high "owner") (users : Table UserRow) (memberships : Table TenantMembership)
    (referenced : ∀ m ∈ memberships, ∃ u ∈ users, u.id = m.userId)
    (members : ∀ m ∈ memberships, Harmless rogue high tenantId users m.userId m.tenantId m.role) (events : List Event)
    (honest : AllHonest stableId config rogue high tenantId events (.start users memberships)) :
    let console := Event.runAll stableId config events (.start users memberships)
    (∀ m ∈ console.memberships, Harmless rogue high tenantId console.users m.userId m.tenantId m.role) ∧
      ∀ process context, console.requests process = some context → rogue context.user.externalSubject →
        context.canManage tenantId = false ∧ ((∀ role, high role) → context.canAccess tenantId = false) := by
  have guarded : (Event.runAll stableId config events (.start users memberships)).Guarded rogue high tenantId :=
    Event.runAll_guarded events (.start referenced members) auth owner honest
  refine ⟨guarded.members, fun process context running rogues => ⟨guarded.refused owner running rogues, fun all => ?_⟩⟩
  obtain ⟨enabled, snapshot⟩ := guarded.requests process context running
  rw [Bool.eq_false_iff, Ne, canAccess_iff, enabled]
  rintro (h | ⟨m, hm, tenant⟩)
  · cases h
  · exact snapshot rogues m hm tenant (all m.2)

/-! A rogue that is a member asks for the ownership of its tenant, before and after an owner has made somebody else
one. -/

namespace Sample

def lobby : Config := ⟨true, "lobby", true, ["admin"]⟩

def users : Table UserRow :=
  ⟨[⟨"u1", "alice", "alice", ""⟩, ⟨"u2", "mallory", "mallory", ""⟩, ⟨"u3", "bob", "bob", ""⟩], by decide⟩

def memberships : Table TenantMembership :=
  ⟨[⟨"m1", "u1", "tenant", "owner"⟩, ⟨"m2", "u2", "tenant", "member"⟩], by decide⟩

def claims (user : String) : HeaderMap := [("x-forwarded-user", some (" " ++ user))]

def takeover : List Event :=
  [.signIn 1 (claims "mallory"), .signIn 2 (claims "alice"), .update 1 "u2" "tenant" "owner",
    .update 2 "u3" "tenant" "owner", .next 2, .signIn 1 (claims "mallory"), .next 2, .update 1 "u2" "tenant" "owner",
      .next 1, .next 2]

end Sample

theorem sample_takeover :
    (∃ m ∈ (Event.runAll id Sample.lobby Sample.takeover (.start Sample.users Sample.memberships)).memberships,
      m.userId = "u3" ∧ m.role = "owner") ∧
    ∀ m ∈ (Event.runAll id Sample.lobby Sample.takeover (.start Sample.users Sample.memberships)).memberships,
      Harmless (· = "mallory") (· = "owner") "tenant"
        (Event.runAll id Sample.lobby Sample.takeover (.start Sample.users Sample.memberships)).users m.userId
          m.tenantId m.role := by
  refine ⟨?_, (Event.run_guarded id Sample.lobby (· = "mallory")
    (· = "owner") "tenant" rfl rfl Sample.users Sample.memberships ?_ ?_
    Sample.takeover ?_).1⟩
  · show ∃ m ∈ (Event.runAll id Sample.lobby Sample.takeover
      (.start Sample.users Sample.memberships)).memberships.rows, _
    decide +kernel
  · show ∀ m ∈ Sample.memberships.rows, ∃ u ∈ Sample.users.rows, _
    decide
  · show ∀ m ∈ Sample.memberships.rows, _
    decide
  · decide +kernel

end Xscope.Tenants

/-
Credentials of member clusters. An agent is answered under the credential that stands: the one handed out last
for its cluster, unexpired and not revoked since. An older one, or one that was revoked, opens nothing until the
next rotation.
-/
import Xscope.Fleet.Drained

namespace Xscope.Fleet

variable (env : Env)

/-! ## Agents -/

/-- The instant, the cluster and the token that an operation of an agent presents. -/
def Op.agent : Op → Option (Int × String × String)
  | .pollDelivery authAt _ _ id token | .reportDelivery authAt _ id token _ | .observationTasks authAt _ _ id token
  | .observePool authAt _ id token _ | .gatewayProofTasks authAt _ _ id token | .gatewayProof authAt _ id token _ =>
    some (authAt, id, token)
  | _ => none

/-- The transaction succeeds. -/
def Granted {α : Type} (x : FleetTx α) (s : State) : Bool := match x s with
  | .ok _ => true
  | .error _ => false

/-- An agent is answered, and not with an error. -/
def Op.answered : Op → State → Bool
  | .pollDelivery authAt now lease id token, s => Granted (pollCluster env authAt now lease id token) s
  | .reportDelivery authAt now id token report, s => Granted (reportCluster env authAt now id token report) s
  | .observationTasks authAt now nonce id token, s => Granted (Fleet.observationTasks env authAt now nonce id token) s
  | .observePool authAt now id token report, s => Granted (Fleet.observePool env authAt now id token report) s
  | .gatewayProofTasks authAt now nonce id token, s => Granted (Fleet.gatewayProofTasks env authAt now nonce id token) s
  | .gatewayProof authAt now id token proof, s => Granted (Fleet.gatewayProof env authAt now id token proof) s
  | _, _ => false

/-! ## The credential that stands -/

structure IssuedCredential where
  cluster : String
  digest : String
  expiresAt : Int
  deriving DecidableEq

def MemberCluster.issued (row : MemberCluster) : IssuedCredential := ⟨row.id, row.credentialHash, row.expiresAt⟩

/-- The credential an operation hands out. -/
def Op.issues (op : Op) (s : State) : Option IssuedCredential := match op with
  | .registerCluster now token request => match Fleet.registerCluster env now token request s with
    | .ok r => some r.1.issued
    | .error _ => none
  | .rotateCredential now token id request => match rotateClusterCredential env now token id request s with
    | .ok r => some r.1.issued
    | .error _ => none
  | _ => none

/-- The operation withdraws the credential of the cluster. -/
def Op.revokes (op : Op) (id : String) : Prop := ∃ now, op = .revokeCluster now id

/-- After the run the credential of the cluster is the one that was handed out last, and it has not been withdrawn. -/
inductive Standing (id : String) : List Op → IssuedCredential → Prop
  | issued {ops : List Op} {op : Op} {c : IssuedCredential}
      (handed : op.issues env (Op.runAll env ops State.empty) = some c) (own : c.cluster = id) :
      Standing id (ops ++ [op]) c
  | kept {ops : List Op} {op : Op} {c : IssuedCredential} (standing : Standing id ops c) (unrevoked : ¬op.revokes id)
      (other : ∀ c', op.issues env (Op.runAll env ops State.empty) = some c' → c'.cluster ≠ id) :
      Standing id (ops ++ [op]) c

section

variable {env : Env} {s s' : State} {op : Op}

theorem Granted.ok {α : Type} {x : FleetTx α} (h : Granted x s = true) : ∃ r, x s = .ok r := by
  unfold Granted at h
  cases hx : x s with
  | ok r => exact ⟨r, rfl⟩
  | error e => rw [hx] at h; cases h

/-- An agent that is answered holds the credential that is stored. -/
theorem Op.answered_authentic {authAt : Int} {id token : String} (agent : op.agent = some (authAt, id, token))
    (answered : op.answered env s = true) : ∃ row, s.clusters.get? id = some row ∧ Authentic env authAt token row := by
  have entered {α : Type} {f : MemberCluster → FleetTx α} {r : α × State}
    (ok : (authenticated env authAt id token >>= f) s = .ok r) :
      ∃ row, s.clusters.get? id = some row ∧ Authentic env authAt token row := by
    obtain ⟨row, found, auth, -⟩ := authenticated_bind.1 ok
    exact ⟨row, found, auth⟩
  cases op with
  | pollDelivery | observationTasks | gatewayProofTasks | gatewayProof =>
    cases agent
    obtain ⟨r, ok⟩ := Granted.ok answered
    exact entered ok
  | reportDelivery | observePool =>
    cases agent
    obtain ⟨r, ok⟩ := Granted.ok answered
    exact entered (Tx.reject_bind.1 ok).2
  | _ => cases agent

theorem Granted.commit {α : Type} {x : FleetTx α} (h : Granted x s = false) : (Tx.commit x s).2 = s := by
  unfold Granted at h
  cases hx : x s with
  | ok r => rw [hx] at h; cases h
  | error e => rw [Tx.commit_of_error hx]

theorem Op.run_refused {authAt : Int} {id token : String} (agent : op.agent = some (authAt, id, token))
    (refused : op.answered env s = false) :
    op.run env s = s := by
  cases op with
  | pollDelivery | reportDelivery | observationTasks | observePool | gatewayProofTasks | gatewayProof =>
    exact Granted.commit refused
  | _ => cases agent

/-! ## What an operation does to a credential -/

/-- The operations that hand out or withdraw one. -/
def Op.credentials : Op → Bool
  | .registerCluster .. | .rotateCredential .. | .revokeCluster .. => true
  | _ => false

/-- The other operations leave the credentials. -/
theorem Move.credential (m : Move env op s s') (other : op.credentials = false) {id : String} {row' : MemberCluster}
    (h : s'.clusters.get? id = some row') :
    ∃ row, s.clusters.get? id = some row ∧ row'.issued = row.issued ∧ row'.revokedAt = row.revokedAt := by
  have unchanged (same : s'.clusters = s.clusters) :
      ∃ row, s.clusters.get? id = some row ∧ row'.issued = row.issued ∧ row'.revokedAt = row.revokedAt :=
    ⟨row', by rw [← same]; exact h, rfl, rfl⟩
  have put {row new : MemberCluster} (found : s.clusters.get? row.id = some row)
    (clusters : s'.clusters = s.clusters.put new)
      (issued : new.issued = row.issued) (revoked : new.revokedAt = row.revokedAt) :
      ∃ row, s.clusters.get? id = some row ∧ row'.issued = row.issued ∧ row'.revokedAt = row.revokedAt := by
    have own : new.id = row.id := congrArg IssuedCredential.cluster issued
    rw [clusters, Table.get?_put_at (r := new) own found] at h
    split at h
    · rename_i same
      cases h
      exact ⟨row, same ▸ found, issued, revoked⟩
    · exact ⟨row', h, rfl, rfl⟩
  cases m with
  | registered => cases other
  | cluster found step =>
    cases step with
    | rotated | revoked => cases other
    | heartbeat | leased | reported => exact put found rfl rfl rfl
  | desired found =>
    obtain rfl := Table.get?_key found
    exact put found rfl rfl rfl
  | rescaled _ _ _ _ member =>
    obtain rfl := Table.get?_key member
    exact put member rfl rfl rfl
  | snapshot h => exact unchanged (by rw [h.tables])
  | acked h => exact unchanged (by rw [h.tables])
  | _ => exact unchanged rfl

theorem Op.run_silent (op : Op) (other : op.credentials = false) {id : String} {row' : MemberCluster}
    (h : (op.run env s).clusters.get? id = some row') :
    ∃ row, s.clusters.get? id = some row ∧ row'.issued = row.issued ∧ row'.revokedAt = row.revokedAt := by
  have moves : Moves env op s (op.run env s) := op.run_moves s
  generalize op.run env s = t at h moves
  induction moves generalizing row' with
  | refl => exact ⟨row', h, rfl, rfl⟩
  | tail _ move ih =>
    obtain ⟨row₁, h₁, issued₁, revoked₁⟩ := move.credential other h
    obtain ⟨row, found, issued, revoked⟩ := ih h₁
    exact ⟨row, found, issued₁.trans issued, revoked₁.trans revoked⟩

/-- The credential of a cluster after an operation: handed out by it, or the one of before, which it does not
withdraw if it is still good. -/
theorem Op.run_credential (op : Op) {id : String} {row' : MemberCluster}
    (h : (op.run env s).clusters.get? id = some row') :
    op.issues env s = some row'.issued ∨
    (∃ row, s.clusters.get? id = some row ∧ row'.issued = row.issued ∧
      (row'.revokedAt = none → row.revokedAt = none ∧ ¬op.revokes id)) ∧
      ∀ c, op.issues env s = some c → c.cluster ≠ id := by
  have silent (other : op.credentials = false) (issues : op.issues env s = none) : op.issues env s = some row'.issued ∨
      (∃ row, s.clusters.get? id = some row ∧ row'.issued = row.issued ∧
        (row'.revokedAt = none → row.revokedAt = none ∧ ¬op.revokes id)) ∧
        ∀ c, op.issues env s = some c → c.cluster ≠ id := by
    obtain ⟨row, found, issued, revoked⟩ := op.run_silent other h
    refine .inr ⟨⟨row, found, issued, fun none => ⟨revoked.symm.trans none, ?_⟩⟩, fun c made => ?_⟩
    · rintro ⟨now, rfl⟩
      cases other
    · rw [issues] at made
      cases made
  -- three operations hand out a credential or revoke one
  cases op with
  | registerCluster now token request =>
    simp only [Op.run] at h
    simp only [Op.issues]
    cases made : Fleet.registerCluster env now token request s with
    | error e =>
      rw [Tx.commit_of_error made] at h
      refine .inr ⟨⟨row', h, rfl, fun none => ⟨none, ?_⟩⟩, fun c hc => by cases hc⟩
      rintro ⟨_, he⟩
      cases he
    | ok r =>
      rw [Tx.commit_of_ok made] at h
      unfold Fleet.registerCluster at made
      simp only [Tx.reject_bind] at made
      obtain ⟨digest, t, hd, made⟩ := Tx.bind_ok.1 made.2
      cases credential_ok hd
      simp only [Tx.read_bind, Tx.reject_bind, Tx.expect_bind, Tx.write_bind, Tx.pure_ok] at made
      obtain ⟨-, clusters, inserted, rfl⟩ := made
      rw [Table.get?_insert? inserted] at h
      split at h
      · cases h
        exact .inl rfl
      · rename_i apart
        refine .inr ⟨⟨row', h, rfl, fun none => ⟨none, ?_⟩⟩, fun c hc => ?_⟩
        · rintro ⟨_, he⟩
          cases he
        · cases hc
          exact apart
  | rotateCredential now token id' request =>
    simp only [Op.run] at h
    simp only [Op.issues]
    cases made : rotateClusterCredential env now token id' request s with
    | error e =>
      rw [Tx.commit_of_error made] at h
      refine .inr ⟨⟨row', h, rfl, fun none => ⟨none, ?_⟩⟩, fun c hc => by cases hc⟩
      rintro ⟨_, he⟩
      cases he
    | ok r =>
      rw [Tx.commit_of_ok made] at h
      unfold rotateClusterCredential at made
      obtain ⟨digest, t, hd, made⟩ := Tx.bind_ok.1 made
      cases credential_ok hd
      simp only [Tx.read_bind, Tx.reject_bind, Tx.expect_bind, putCluster_bind, Tx.pure_ok] at made
      obtain ⟨row, found, -, epoch, -, rfl⟩ := made
      obtain rfl := Table.get?_key found
      rw [Table.get?_put_at (r := row.rotated now epoch request.credentialDays (env.sha256 token)) rfl found] at h
      split at h
      · cases h
        exact .inl rfl
      · rename_i apart
        refine .inr ⟨⟨row', h, rfl, fun none => ⟨none, ?_⟩⟩, fun c hc => ?_⟩
        · rintro ⟨_, he⟩
          cases he
        · cases hc
          exact apart
  | revokeCluster now id' =>
    refine .inr ⟨?_, fun c hc => by cases hc⟩
    rcases Tx.commit_cases (Fleet.revokeCluster now id') s with ⟨_, t, made, committed⟩ | ⟨e, made, committed⟩
    · unfold Fleet.revokeCluster at made
      simp only [Tx.read_bind, Tx.expect_bind] at made
      obtain ⟨row, found, made⟩ := made
      have ran : Op.run env (.revokeCluster now id') s = t := congrArg Prod.snd committed
      rw [ran] at h
      obtain rfl := Table.get?_key found
      split at made
      · cases putCluster_ok.1 made
        rw [Table.get?_put_at (r := row.revoked now) rfl found] at h
        split at h
        · rename_i same
          cases h
          exact ⟨row, same ▸ found, rfl, fun none => by cases none⟩
        · rename_i apart
          refine ⟨row', h, rfl, fun none => ⟨none, ?_⟩⟩
          rintro ⟨_, he⟩
          cases he
          exact apart rfl
      -- it was revoked before, and the row stays as it was
      · rename_i revoked
        cases Tx.pure_ok.1 made
        refine ⟨row', h, rfl, fun none => ⟨none, ?_⟩⟩
        rintro ⟨_, he⟩
        cases he
        cases Option.some.inj (found.symm.trans h)
        exact revoked none
    · rw [show Op.run env (.revokeCluster now id') s = s from congrArg Prod.snd committed] at h
      refine ⟨row', h, rfl, fun none => ⟨none, ?_⟩⟩
      rintro ⟨_, he⟩
      cases he
      -- a revocation fails only where there is no such cluster
      unfold Fleet.revokeCluster at made
      rw [Tx.read_bind, h] at made
      simp only [Tx.expect, Tx.pure_bind] at made
      split at made <;> cases made
  | _ => exact silent rfl rfl

/-! ## Runs -/

/-- In every run the credential of a cluster that is not revoked stands. -/
theorem Op.runAll_standing (env : Env) (ops : List Op) {id : String} {row : MemberCluster}
    (h : (Op.runAll env ops State.empty).clusters.get? id = some row) (unrevoked : row.revokedAt = none) :
    Standing env id ops row.issued := by
  induction ops using List.reverseRecOn generalizing row with
  | nil => exact absurd (Table.get?_mem h) (Table.not_mem_empty row)
  | append_singleton ops op ih =>
    rw [Op.runAll_concat] at h
    rcases op.run_credential h with handed | ⟨⟨old, found, same, kept⟩, other⟩
    · exact .issued handed (Table.get?_key h)
    · obtain ⟨before, standing⟩ := kept unrevoked
      rw [same]
      exact .kept (ih found before) standing other

/-- In every run an agent is answered only under the credential that stands for its cluster, before it expires;
otherwise nothing changes. -/
theorem Op.runAll_credentialed (env : Env) (ops : List Op) (op : Op) {authAt : Int} {id token : String}
    (agent : op.agent = some (authAt, id, token)) :
    let s := Op.runAll env ops State.empty
    (op.answered env s = true → ∃ c, Standing env id ops c ∧ c.cluster = id ∧ c.digest = env.sha256 token ∧
      authAt < c.expiresAt) ∧
    (op.answered env s = false → op.run env s = s) := by
  intro s
  constructor
  · intro answered
    obtain ⟨row, found, auth⟩ := op.answered_authentic agent answered
    exact ⟨row.issued, Op.runAll_standing env ops found auth.unrevoked, Table.get?_key found,
      auth.credential, auth.valid⟩
  · exact fun refused => op.run_refused agent refused

def rotatedRun : List Op := [.registerCluster 0 "first" ⟨"c", "ns", 30⟩, .rotateCredential 5 "second" "c" ⟨1, 30⟩]

/-- After a rotation the new credential stands and the old one opens nothing; after a revocation neither does. -/
theorem sample_credentialed :
    (∃ c, Standing droppedEnv "c" rotatedRun c ∧ c.cluster = "c" ∧ c.digest = "second" ∧ 9 < c.expiresAt) ∧
    (Op.pollDelivery 9 9 "lease" "c" "first").run droppedEnv (Op.runAll droppedEnv rotatedRun State.empty) =
      Op.runAll droppedEnv rotatedRun State.empty ∧
    (Op.pollDelivery 9 9 "lease" "c" "second").run droppedEnv
      (Op.runAll droppedEnv (rotatedRun ++ [.revokeCluster 7 "c"]) State.empty) =
      Op.runAll droppedEnv (rotatedRun ++ [.revokeCluster 7 "c"]) State.empty :=
  ⟨(Op.runAll_credentialed droppedEnv rotatedRun (.pollDelivery 9 9 "lease" "c" "second") rfl).1 (by decide +kernel),
    (Op.runAll_credentialed droppedEnv rotatedRun (.pollDelivery 9 9 "lease" "c" "first") rfl).2 (by decide +kernel),
    (Op.runAll_credentialed droppedEnv (rotatedRun ++ [.revokeCluster 7 "c"])
      (.pollDelivery 9 9 "lease" "c" "second") rfl).2 (by decide +kernel)⟩

end

end Xscope.Fleet

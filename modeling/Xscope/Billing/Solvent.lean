/-
Solvency and settlements. The hold of a dispatched request is there so that the request can always be
charged. A settlement gives up its hold and then checks what is available, so it is refused only on an
account that is already overdrawn while its balance is enforced; money reaches that state through a
change of policy alone.
-/
import Xscope.Billing.Arithmetic
import Xscope.Payments.Conservation

namespace Xscope

/-- No account whose balance is enforced is overdrawn. -/
def Books.Solvent (b : Books) : Prop := ∀ a ∈ b.accounts, Funded a (b.available a.id)

/-! ## Moves -/

/-- New accounts are postpaid, and only a change of policy enforces a balance. -/
theorem Move.account_before {k : Kind} {b b' : Books} (m : Move k b b') (hk : k ≠ .policy) {a : BillingAccount}
    (ha : a ∈ b'.accounts) (enforced : a.enforceBalance = true) : a ∈ b.accounts := by
  cases m with
  | registry g =>
    rcases g.newAccounts a ha with old | ⟨postpaid, -⟩
    · exact old
    · rw [postpaid] at enforced
      cases enforced
  | policy x hx flag => exact absurd rfl hk
  | settle call x r request amount us hx hp hr hs wf hin hout cost funds hi post =>
    obtain ⟨ts, es, rfl⟩ := post.eq; exact ha
  | usage call x e cost us hx hp unreserved priced funds hi post => obtain ⟨ts, es, rfl⟩ := post.eq; exact ha
  | topUp call x o id provider reference currency key description ps hx hp ho hpend hfit hi post =>
    obtain ⟨ts, es, rfl⟩ := post.eq; exact ha
  | refund call x o p row key description rs hx hp ho hpay hprov hrow hst hpos le limit funds hi post =>
    obtain ⟨ts, es, rfl⟩ := post.eq; exact ha
  | prepare call x o p row key description rs hx hp ho hpay hprov hrow hst hpos limit funds hi post =>
    obtain ⟨ts, es, rfl⟩ := post.eq; exact ha
  | complete call x o p row trade hx hp ho hpay hprov hrow hpid hst post =>
    obtain ⟨ts, es, rfl⟩ := post.eq; exact ha
  | _ => exact ha

theorem Move.solvent {k : Kind} {b b' : Books} (m : Move k b b') (hk : k ≠ .policy) (s : b.Sound) (o : b.Owned)
    (h : b.Solvent) :
    b'.Solvent := by
  intro a ha enforced
  have before : a ∈ b.accounts := m.account_before hk ha enforced
  exact m.prepaid hk s o ⟨a, before, rfl, enforced⟩ (h a before enforced)

theorem Moves.solvent {ks : List Kind} {b b' : Books} (h : Moves ks b b') (hk : .policy ∉ ks)
    (s : b.Sound) (o : b.Owned) (hs : b.Solvent) : b'.Solvent := by
  refine (h.keeps (I := fun b => (b.Sound ∧ b.Owned) ∧ b.Solvent) ?_ ⟨⟨s, o⟩, hs⟩).2
  rintro k hm b b' m ⟨⟨s, o⟩, hs⟩
  have other : k ≠ .policy := fun e => hk (e ▸ hm)
  exact ⟨⟨m.sound s, m.owned o⟩, m.solvent other s o hs⟩

/-- A balance can be enforced where the account is not overdrawn. -/
theorem Books.Solvent.policy {b : Books} {a : BillingAccount} {flag : Bool} (h : b.Solvent)
    (funds : flag = true → 0 ≤ b.available a.id) :
    ({ b with accounts := b.accounts.put { a with enforceBalance := flag } } : Books).Solvent := by
  intro x hx enforced
  rcases Table.mem_put.1 hx with ⟨hx, -⟩ | ⟨rfl, -⟩
  · exact h x hx enforced
  · exact funds enforced

/-! ## Operations -/

section

variable {db : Db}

/-- The policy of a project is switched on only while its account is not overdrawn. -/
def Op.Affordable (db : Db) : Op → Prop
  | .updateBalancePolicy project true =>
    ∀ a ∈ db.books.accounts.rows, a.projectId = project → 0 ≤ db.books.available a.id
  | _ => True

instance (op : Op) : Decidable (op.Affordable db) := by
  unfold Op.Affordable
  split <;> infer_instance

/-- Nothing is posted to an account that is not there, and nothing is held. -/
theorem available_of_unlinked {b : Books} (links : b.Linked) (o : b.Owned) {id : String}
    (absent : ∀ x ∈ b.accounts, x.id ≠ id) :
    b.available id = 0 := by
  have balance : b.balance id = 0 := ledgerSum_of_unlinked links absent .customerBalance
  have held : b.held id = 0 := by
    apply Table.sumWhere_eq_zero
    intro r hr
    obtain ⟨x, hx, hid, -⟩ := o.reservations r hr
    have other : r.billingAccountId ≠ id := hid ▸ absent x hx
    simp [other]
  show b.balance id - b.held id = 0
  omega

/-- A change of policy that is affordable overdraws no enforced account. -/
theorem updateBalancePolicy_solvent {project : String} {flag : Bool} (g : Good db.books db.projections)
    (s : db.books.Sound) (links : db.books.Linked) (h : db.books.Solvent)
    (affordable : (Op.updateBalancePolicy project flag).Affordable db) :
    (updateBalancePolicy project flag db).2.books.Solvent := by
  unfold updateBalancePolicy
  rcases Tx.commit_cases (ensureAccountForProject project) db with ⟨a, t, ensured, committed⟩ | ⟨e, -, failed⟩
  swap
  · rw [Session.bind_of_error failed]
    exact h
  rw [Session.bind_of_ok committed]
  obtain ⟨step, -, ha, owns⟩ := ensureAccountForProject_step g ensured
  have same : t.books.available a.id = db.books.available a.id := (step.moves.mono (by simp)).available_policy a.id
  have funds : flag = true → 0 ≤ t.books.available a.id := by
    rintro rfl
    rw [same]
    by_cases known : ∃ x ∈ db.books.accounts, x.id = a.id
    · obtain ⟨x, hx, hid⟩ := known
      obtain ⟨enforced, stays⟩ := step.moves.accountsStay x hx
      have project' : x.projectId = project :=
        (congrArg BillingAccount.projectId (Table.eq_of_key stays ha hid)).trans owns
      rw [← hid]
      exact affordable x hx project'
    · -- a new account has nothing posted to it
      rw [available_of_unlinked links g.owned]
      exact fun x hx hid => known ⟨x, hx, hid⟩
  have solvent : t.books.Solvent := step.moves.solvent (by simp) s g.owned h
  rcases Tx.commit_cases (updateRow Slot.accounts { a with enforceBalance := flag }) t with
    ⟨u, t', updated, committed⟩ | ⟨e, -, failed⟩
  swap
  · rw [Session.bind_of_error failed]
    exact solvent
  rw [Session.bind_of_ok committed]
  have policy := updatePolicy_step (step.good g) ha updated
  have enforced : t'.books.Solvent := by
    cases updateRow_ok.1 updated
    exact solvent.policy funds
  have answer : Step [.registry] t'.books t'.projections (projectBalance project t').2.books
      (projectBalance project t').2.projections :=
    projectBalance_step (policy.good (step.good g))
  exact answer.moves.solvent (by simp) (policy.moves.sound (step.moves.sound s))
    (policy.good (step.good g)).owned enforced

theorem Op.solvent (digests : Digests) (op : Op) (g : Good db.books db.projections) (s : db.books.Sound)
    (links : db.books.Linked) (h : db.books.Solvent) (affordable : op.Affordable db) :
    (op.run digests db).books.Solvent := by
  by_cases other : .policy ∉ op.kinds
  · exact (op.step digests g).moves.solvent other s g.owned h
  · cases op with
    | updateBalancePolicy project flag => exact updateBalancePolicy_solvent g s links h affordable
    | _ => simp [Op.kinds] at other

end

/-! ## Runs -/

section

variable (digests : Digests)

/-- Every change of policy in a run is affordable when it is made. -/
def Op.AllAffordable : List Op → Db → Prop
  | [], _ => True
  | op :: ops, db => op.Affordable db ∧ Op.AllAffordable ops (op.run digests db)

instance decidableAllAffordable : ∀ (ops : List Op) (db : Db), Decidable (Op.AllAffordable digests ops db)
  | [], _ => instDecidableTrue
  | op :: ops, db => @instDecidableAnd _ _ _ (decidableAllAffordable ops (op.run digests db))

theorem Op.runAll_solvent (ops : List Op) {db : Db} (g : Good db.books db.projections) (s : db.books.Sound)
    (links : db.books.Linked) (h : db.books.Solvent) (affordable : Op.AllAffordable digests ops db) :
    (Op.runAll digests ops db).books.Solvent := by
  induction ops generalizing db with
  | nil => exact h
  | cons op ops ih =>
    obtain ⟨first, rest⟩ := affordable
    have step := op.step digests g
    have linked : (op.run digests db).books.Linked := step.moves.keeps (fun _ _ _ _ m => m.linked) links
    exact ih (step.good g) (step.moves.sound s) linked (op.solvent digests g s links h first) rest

theorem Op.runAll_outbox (ops : List Op) {db : Db} (h : db.outbox.Sound digests) :
    (Op.runAll digests ops db).outbox.Sound digests := by
  induction ops generalizing db with
  | nil => exact h
  | cons op ops ih => exact ih (Appends.sound (op.appends digests db) h)

/-! ## Settlements within the limits -/

variable {db : Db} {call : Call} {a : BillingAccount} {row : Reservation} {request : SettleRequest}

/-- The account of the project is locked and the reservation found. -/
theorem settleMoney_eq (g : Good db.books db.projections) (ha : a ∈ db.books.accounts)
    (hp : a.projectId = row.projectId) (hr : row ∈ db.books.reservations) :
    settleMoney call row.projectId row.id request db = settleLocked call a row request db := by
  obtain ⟨⟨a', s⟩, locked⟩ := Tx.ok_of_avoids fun e => lockAccount_avoids (e := e) (.inr ⟨a, ha, hp⟩)
  obtain ⟨ha', hp', same⟩ := lockAccount_ok locked
  obtain rfl : a' = a := g.owned.unique a' ha' a ha (hp'.trans hp.symm)
  obtain rfl : s = db := same
  have stored : (Slot.reservations.get s).get? row.id = some row := Table.get?_of_mem hr
  have found : findReservation row.projectId row.id s = .ok (row, s) := by
    unfold findReservation
    rw [findById_bind, stored]
    exact Tx.expect_some (by simp)
  unfold settleMoney
  rw [Tx.bind_of_ok locked, Tx.bind_of_ok found]

/-- In a run whose changes of policy are affordable, a settlement within the limits of a dispatched reservation,
under identifiers that are new, succeeds exactly when the month's spend and the balance have room for its cost. -/
theorem Op.runAll_settles (ops : List Op) (affordable : Op.AllAffordable digests ops Db.empty) :
    let db := Op.runAll digests ops Db.empty
    ∀ call a row request, a ∈ db.books.accounts → a.projectId = row.projectId → row ∈ db.books.reservations →
      Covers row request →
      Unrecorded db.books row → call.Fresh db.books →
      (Calendar.checkedAddMonth (Calendar.firstOfMonth (Calendar.ofTimestamp call.now))).isSome = true →
      Fits (db.outbox.last a.id + 2) →
      ((∃ r, settleMoney call row.projectId row.id request db = .ok r) ↔ Room db.books call.now a row request) := by
  intro db call a row request ha hp hr covers unrecorded fresh month numbered
  have good : Good db.books db.projections := Op.runAll_good digests ops Good.empty
  have sound : db.books.Sound := Op.runAll_sound digests ops
  have solvent : db.books.Solvent :=
    Op.runAll_solvent digests ops Good.empty Books.Sound.empty Books.Linked.empty
      (fun a ha => absurd ha (Table.not_mem_empty a)) affordable
  rw [settleMoney_eq good ha hp hr]
  constructor
  · rintro ⟨r, settled⟩
    exact (settleLocked_room good sound ha hp hr covers.dispatched settled).1
  · intro room
    have settleable : Settleable db call a row request :=
      { covers := covers
        month := month
        unrecorded := unrecorded
        fresh := fresh
        funds := solvent a ha
        outbox := ⟨digests, Op.runAll_outbox digests ops Outbox.Sound.empty⟩
        numbered := numbered }
    exact Tx.ok_of_avoids fun e =>
      settleLocked_avoids good sound (Op.runAll_charging digests ops) ha hp hr room (.inr settleable)

end

/-- Nothing of a settlement under `call` is taken. -/
instance (b : Books) (row : Reservation) : Decidable (Unrecorded b row) :=
  decidable_of_iff ((∀ u ∈ b.usageEvents.rows, u.eventId ≠ "evt-reservation-" ++ row.id) ∧
    ∀ t ∈ b.transactions.rows, t.idempotencyKey ≠ "reservation:" ++ row.id)
      ⟨fun h => ⟨h.1, h.2⟩, fun h => ⟨h.event, h.idempotencyKey⟩⟩

instance (call : Call) (b : Books) : Decidable (call.Fresh b) :=
  decidable_of_iff ((∀ t ∈ b.transactions.rows, t.id ≠ "txn-" ++ call.txnUuid) ∧
    (∀ x ∈ b.entries.rows, x.id ≠ "entry-customer-" ++ call.customerUuid) ∧
    ∀ x ∈ b.entries.rows, x.id ≠ "entry-counter-" ++ call.counterUuid)
    ⟨fun h => ⟨h.1, h.2.1, h.2.2⟩, fun h => ⟨h.transaction, h.customer, h.counter⟩⟩

instance (row : Reservation) (request : SettleRequest) : Decidable (Covers row request) :=
  decidable_of_iff (row.state = .dispatched ∧ request.wellFormed = true ∧
    request.inputTokens ≤ row.spec.inputTokenLimit ∧
    request.outputTokens ≤ row.spec.outputTokenLimit)
    ⟨fun h => ⟨h.1, h.2.1, h.2.2.1, h.2.2.2⟩, fun h => ⟨h.dispatched, h.wellFormed, h.input, h.output⟩⟩

/-- A request that is dispatched under an enforced balance. -/
def sampleDispatched : List Op := samplePrepaid ++ sampleRequestRun.take 2

theorem sampleDispatched_settles : ∃ row ∈ (Op.runAll sampleDigests sampleDispatched Db.empty).books.reservations,
    row.id = "r1" ∧
    ∃ r, settleMoney (sampleCall 4) row.projectId row.id sampleUsage
      (Op.runAll sampleDigests sampleDispatched Db.empty) = .ok r := by
  let db := Op.runAll sampleDigests sampleDispatched Db.empty
  have facts : ∃ a ∈ db.books.accounts.rows, ∃ row ∈ db.books.reservations.rows, row.id = "r1" ∧
    a.projectId = row.projectId ∧
      Covers row sampleUsage ∧ Unrecorded db.books row ∧ (sampleCall 4).Fresh db.books ∧
        Fits (db.outbox.last a.id + 2) ∧
      Fits (db.books.spent row.apiKeyId (Calendar.firstOfMonth (Calendar.ofTimestamp (sampleCall 4).now)) +
        settledCost row sampleUsage) ∧
      Fits (db.books.balance a.id - settledCost row sampleUsage) := by decide +kernel
  obtain ⟨a, ha, row, hr, hid, hp, covers, unrecorded, fresh, numbered, room⟩ := facts
  refine ⟨row, hr, hid, ?_⟩
  exact (Op.runAll_settles sampleDigests sampleDispatched (by decide +kernel)
    (sampleCall 4) a row sampleUsage ha hp hr covers unrecorded
    fresh (by decide +kernel) numbered).2 room

/-- The same request of a project without credit, whose balance is enforced only afterwards. -/
def sampleOverdrawn : List Op := sampleSetup.take 3 ++ sampleRequestRun.take 2 ++ [.updateBalancePolicy "project" true]

/-- Its settlement is refused, although it has all that the other one had. -/
theorem sampleOverdrawn_refused : ∃ a ∈ (Op.runAll sampleDigests sampleOverdrawn Db.empty).books.accounts,
    ∃ row ∈ (Op.runAll sampleDigests sampleOverdrawn Db.empty).books.reservations,
      row.id = "r1" ∧ a.projectId = row.projectId ∧ Covers row sampleUsage ∧
      Unrecorded (Op.runAll sampleDigests sampleOverdrawn Db.empty).books row ∧
      (sampleCall 4).Fresh (Op.runAll sampleDigests sampleOverdrawn Db.empty).books ∧
      Room (Op.runAll sampleDigests sampleOverdrawn Db.empty).books (sampleCall 4).now a row sampleUsage ∧
      settleMoney (sampleCall 4) row.projectId row.id sampleUsage (Op.runAll sampleDigests sampleOverdrawn Db.empty) =
        .error (.insufficientFunds "debit would consume unavailable or reserved balance") := by
  let db := Op.runAll sampleDigests sampleOverdrawn Db.empty
  have facts : ∃ a ∈ db.books.accounts.rows, ∃ row ∈ db.books.reservations.rows, row.id = "r1" ∧
    a.projectId = row.projectId ∧
      Covers row sampleUsage ∧ Unrecorded db.books row ∧ (sampleCall 4).Fresh db.books ∧
      (Fits (db.books.spent row.apiKeyId (Calendar.firstOfMonth (Calendar.ofTimestamp (sampleCall 4).now)) +
        settledCost row sampleUsage) ∧
      Fits (db.books.balance a.id - settledCost row sampleUsage)) ∧
      (settleMoney (sampleCall 4) row.projectId row.id sampleUsage db).map Prod.fst =
        .error (.insufficientFunds "debit would consume unavailable or reserved balance") := by decide +kernel
  obtain ⟨a, ha, row, hr, hid, hp, covers, unrecorded, fresh, room, refused⟩ := facts
  refine ⟨a, ha, row, hr, hid, hp, covers, unrecorded, fresh, room, ?_⟩
  revert refused
  cases settleMoney (sampleCall 4) row.projectId row.id sampleUsage db with
  | ok r => exact fun h => by cases h
  | error e => exact fun h => congrArg Except.error (Except.error.inj h)

end Xscope

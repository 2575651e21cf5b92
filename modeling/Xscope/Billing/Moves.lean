/-
What an operation can do to the books, said once. Every successful operation is a sequence of
these moves, each with the guards the operation checked; the invariants of the books are derived
from the moves alone.
-/
import Xscope.Billing.Review
import Xscope.Billing.Usage
import Xscope.Payments.Refund
import Xscope.Billing.Counters
import Mathlib.Logic.Relation

namespace Xscope

/-! ## Journals -/

/-- A ledger transaction with two entries is inserted, under an idempotency key not used before. -/
structure Journal (txn : LedgerTransaction) (e₁ e₂ : LedgerEntry) (b b' : Books) : Prop where
  fresh : ∀ x ∈ b.transactions, x.idempotencyKey ≠ txn.idempotencyKey
  inserted : ∃ ts es es', b.transactions.insert? txn = some ts ∧ b.entries.insert? e₁ = some es ∧
    es.insert? e₂ = some es' ∧ b' = { b with transactions := ts, entries := es' }

/-- The journal of a posting. -/
def Posted (call : Call) (account : BillingAccount) (p : Posting) : Books → Books → Prop :=
  Journal (p.transaction call account) (p.customerEntry call account) (p.counterEntry call account)

/-- The journal of a charge: none when nothing is charged. -/
def Charged (call : Call) (account : BillingAccount) (amount : Int) (p : Posting) (b b' : Books) : Prop :=
  (0 < amount ∧ Posted call account p b b') ∨ (¬0 < amount ∧ b' = b)

/-! ## Moves -/

/-- The kinds of moves, with the clock or the event they were made for. -/
inductive Kind where
  | registry
  | review
  | policy
  | reserve (now : Int)
  | dispatch
  | release
  | report
  | settle (now : Int)
  | waive
  | usage (event : UsageEvent)
  | topUp
  | refund
  | prepare
  | complete
  deriving DecidableEq

/-- The kinds that record usage outside of any reservation. -/
def Kind.records : Kind → Bool
  | .usage _ => true
  | _ => false

/-- The kinds that post usage to the ledger. -/
def Kind.charges : Kind → Bool
  | .settle _ | .usage _ => true
  | _ => false

/-- Records other than money change: projects, keys, models and orders are added, checkouts and
receipts are written. Accounts stay, new ones are postpaid; keys stay with their budget. -/
structure Registry (b b' : Books) : Prop where
  reservations : b'.reservations = b.reservations
  usageEvents : b'.usageEvents = b.usageEvents
  transactions : b'.transactions = b.transactions
  entries : b'.entries = b.entries
  payments : b'.payments = b.payments
  refunds : b'.refunds = b.refunds
  accounts : ∀ a ∈ b.accounts, a ∈ b'.accounts
  newAccounts : ∀ a ∈ b'.accounts, a ∈ b.accounts ∨
    a.enforceBalance = false ∧ ∀ x ∈ b'.accounts, x.projectId = a.projectId → x = a
  catalog : ∀ row ∈ b'.catalog, row ∈ b.catalog ∨ row.definition.Priced
  prices : ∀ row ∈ b'.prices, row ∈ b.prices ∨ row.definition.Priced
  orders : ∀ id o, b.orders.get? id = some o → b'.orders.get? id = some o
  newOrders : ∀ o ∈ b'.orders, o ∈ b.orders ∨ (0 < o.amount ∧ o.status = .pending)
  apiKeys : ∀ k ∈ b.apiKeys, ∃ k' ∈ b'.apiKeys, k'.id = k.id ∧ k'.monthlyBudgetAmount = k.monthlyBudgetAmount
  reviews : b'.reviews = b.reviews
  reviewAudits : b'.reviewAudits = b.reviewAudits

/-- What a debit under an enforced balance was checked against: `available` is neither spent nor
reserved. -/
def Funded (account : BillingAccount) (available : Int) : Prop := account.enforceBalance = true → 0 ≤ available

/-- The monthly budget of a key, when it has one, covers its spend, its holds and `amount`. -/
def Budgeted (b : Books) (k : ApiKey) (now amount : Int) : Prop :=
  0 < k.monthlyBudgetAmount →
    b.spent k.id (Calendar.firstOfMonth (Calendar.ofTimestamp now)) + b.keyHeld k.id + amount ≤
      k.monthlyBudgetAmount * microsPerMinorUnit

/-- The sum of the refunds of a payment in one of `states`. -/
def Books.refunded (b : Books) (paymentId : String) (states : List TransferStatus) : Int :=
  b.refunds.sumWhere (fun r => r.paymentId == paymentId && states.contains r.status) (·.amount)

inductive Move : Kind → Books → Books → Prop
  | registry {b b' : Books} (h : Registry b b') : Move .registry b b'
  | review {b : Books} (reviews : Table BillingReview) (audits : Table ReviewAudit) :
      Move .review b { b with reviews := reviews, reviewAudits := audits }
  | policy {b : Books} (a : BillingAccount) (ha : a ∈ b.accounts) (flag : Bool) :
      Move .policy b { b with accounts := b.accounts.put { a with enforceBalance := flag } }
  | reserve {b : Books} (now : Int) (a : BillingAccount) (request : ReserveRequest) (entry : CatalogRow) (k : ApiKey)
      (amount : Int) (rs : Table Reservation) (ha : a ∈ b.accounts) (hp : a.projectId = request.projectId)
      (wf : request.wellFormed = true) (hm : entry ∈ b.catalog) (hid : entry.id = request.modelId)
      (hk : k ∈ b.apiKeys) (hkid : k.id = request.apiKeyId)
      (cost : usageCostMicrounits entry.definition request.inputTokenLimit request.outputTokenLimit = .ok amount)
      (fresh : ∀ r ∈ b.reservations, ¬(r.projectId = request.projectId ∧ r.requestId = request.requestId))
      (unused : ∀ u ∈ b.usageEvents, ¬(u.projectId = request.projectId ∧ u.requestId = request.requestId))
      (funds : Funded a (b.balance a.id - b.held a.id - amount)) (budget : Budgeted b k now amount)
      (hi : b.reservations.insert? (newReservation now a request entry.definition amount) = some rs) :
      Move (.reserve now) b { b with reservations := rs }
  | dispatch {b : Books} (now : Int) (r : Reservation) (hr : r ∈ b.reservations) (hs : r.state = .reserved) :
      Move .dispatch b { b with reservations := b.reservations.put (dispatchedReservation now r) }
  | release {b : Books} (now : Int) (r : Reservation) (reason : String) (hr : r ∈ b.reservations)
      (hs : r.state = .reserved) :
      Move .release b { b with reservations := b.reservations.put (releasedReservation now r reason) }
  | report {b : Books} (now : Int) (r : Reservation) (request : UnresolvedRequest) (hr : r ∈ b.reservations)
      (hs : r.state = .dispatched) :
      Move .report b { b with reservations := b.reservations.put (unresolvedReservation now r request) }
  | settle {b b' : Books} (call : Call) (a : BillingAccount) (r : Reservation) (request : SettleRequest) (amount : Int)
      (us : Table UsageRow) (ha : a ∈ b.accounts) (hp : a.projectId = r.projectId) (hr : r ∈ b.reservations)
      (hs : r.state = .dispatched) (wf : request.wellFormed = true)
      (hin : request.inputTokens ≤ r.spec.inputTokenLimit) (hout : request.outputTokens ≤ r.spec.outputTokenLimit)
      (cost : usageCostMicrounits r.price request.inputTokens request.outputTokens = .ok amount)
      (funds : 0 < amount → Funded a (b.balance a.id - (b.held a.id - r.reservedMicrounits) - amount))
      (hi : b.usageEvents.insert? (settledUsage call.now a r request amount) = some us)
      (post : Charged call a amount (settledPosting r amount)
        { b with
          usageEvents := us
          reservations := b.reservations.put (settledReservation call.now r request amount) } b') :
      Move (.settle call.now) b b'
  | waive {b : Books} (now : Int) (r : Reservation) (hr : r ∈ b.reservations) (hs : r.state.held = true) :
      Move .waive b { b with reservations := b.reservations.put (waivedReservation now r) }
  | usage {b b' : Books} (call : Call) (a : BillingAccount) (e : UsageEvent) (cost : Int) (us : Table UsageRow)
      (ha : a ∈ b.accounts) (hp : a.projectId = e.projectId)
      (unreserved : ∀ r ∈ b.reservations, ¬(r.projectId = e.projectId ∧ r.requestId = e.requestId))
      (priced : cost = 0 ∨
        ∃ row ∈ b.prices, usageCostMicrounits row.definition e.inputTokens e.outputTokens = .ok cost)
      (funds : 0 < cost → Funded a (b.balance a.id - b.held a.id - cost))
      (hi : b.usageEvents.insert? (recordedUsage call.now e cost) = some us)
      (post : Charged call a cost (recordedPosting e cost) { b with usageEvents := us } b') : Move (.usage e) b b'
  | topUp {b b' : Books} (call : Call) (a : BillingAccount) (o : BillingOrder)
      (id provider reference currency key description : String) (ps : Table Payment) (ha : a ∈ b.accounts)
      (hp : a.projectId = o.projectId) (ho : o ∈ b.orders) (hpend : o.status = .pending)
      (hfit : Fits (o.amount * microsPerMinorUnit))
      (hi : b.payments.insert? (newPayment call.now id o provider reference currency) = some ps)
      (post : Posted call a (topUpPosting o id key description (o.amount * microsPerMinorUnit))
        { b with payments := ps, orders := b.orders.put { o with status := .paid } } b') : Move .topUp b b'
  | refund {b b' : Books} (call : Call) (a : BillingAccount) (o : BillingOrder) (p : Payment) (row : Refund)
      (key description : String) (rs : Table Refund) (ha : a ∈ b.accounts) (hp : a.projectId = o.projectId)
      (ho : b.orders.get? p.orderId = some o) (hpay : p ∈ b.payments) (hprov : p.provider ≠ "alipay")
      (hrow : row.paymentId = p.id) (hst : row.status = .succeeded) (hpos : 0 < row.amount) (le : row.amount ≤ p.amount)
      (limit : saturating (wrapping (b.refunded p.id [.succeeded]) + row.amount) ≤ p.amount)
      (funds : Funded a (b.balance a.id - b.held a.id - row.amount * microsPerMinorUnit))
      (hi : b.refunds.insert? row = some rs)
      (post : Posted call a (refundPosting o.tenantId row.id key description .refund
        (row.amount * microsPerMinorUnit) .cashClearing) { b with refunds := rs } b') : Move .refund b b'
  | prepare {b b' : Books} (call : Call) (a : BillingAccount) (o : BillingOrder) (p : Payment) (row : Refund)
      (key description : String) (rs : Table Refund) (ha : a ∈ b.accounts) (hp : a.projectId = o.projectId)
      (ho : b.orders.get? p.orderId = some o) (hpay : p ∈ b.payments) (hprov : p.provider = "alipay")
      (hrow : row.paymentId = p.id) (hst : row.status = .pending) (hpos : 0 < row.amount)
      (limit : b.refunded p.id [.pending, .succeeded] + row.amount ≤ p.amount)
      (funds : 0 ≤ b.balance a.id - b.held a.id - row.amount * microsPerMinorUnit)
      (hi : b.refunds.insert? row = some rs)
      (post : Posted call a (refundPosting o.tenantId row.id key description .refundPending
        (row.amount * microsPerMinorUnit) .refundPending) { b with refunds := rs } b') : Move .prepare b b'
  | complete {b b' : Books} (call : Call) (a : BillingAccount) (o : BillingOrder) (p : Payment) (row : Refund)
      (trade : String) (ha : a ∈ b.accounts) (hp : a.projectId = o.projectId) (ho : b.orders.get? p.orderId = some o)
      (hpay : p ∈ b.payments) (hprov : p.provider = "alipay") (hrow : row ∈ b.refunds) (hpid : row.paymentId = p.id)
      (hst : row.status = .pending)
      (post : Journal (clearingTransaction call o row)
        (clearingEntry call a row call.customerUuid .refundPending (-(row.amount * microsPerMinorUnit)))
        (clearingEntry call a row call.counterUuid .cashClearing (row.amount * microsPerMinorUnit))
        { b with refunds := b.refunds.put (succeededRefund call.now row trade) } b') :
      Move .complete b b'

/-- A sequence of moves of some kinds. -/
def Moves (ks : List Kind) : Books → Books → Prop := Relation.ReflTransGen fun b b' => ∃ k ∈ ks, Move k b b'

theorem Move.moves {k : Kind} {ks : List Kind} {b b' : Books} (h : Move k b b') (hk : k ∈ ks) : Moves ks b b' :=
  .single ⟨k, hk, h⟩

theorem Moves.refl (ks : List Kind) (b : Books) : Moves ks b b := Relation.ReflTransGen.refl

theorem Moves.trans {ks : List Kind} {a b c : Books} (h1 : Moves ks a b) (h2 : Moves ks b c) : Moves ks a c :=
  Relation.ReflTransGen.trans h1 h2

theorem Moves.mono {ks ks' : List Kind} {b b' : Books} (hk : ∀ k ∈ ks, k ∈ ks') (h : Moves ks b b') : Moves ks' b b' :=
  Relation.ReflTransGen.mono (fun _ _ ⟨k, hm, m⟩ => ⟨k, hk k hm, m⟩) _ _ h

/-! ## The terms of a reservation -/

/-- What a reservation is created with: no operation changes it. -/
structure SameTerms (old row : Reservation) : Prop where
  id : row.id = old.id
  billingAccountId : row.billingAccountId = old.billingAccountId
  projectId : row.projectId = old.projectId
  tenantId : row.tenantId = old.tenantId
  apiKeyId : row.apiKeyId = old.apiKeyId
  requestId : row.requestId = old.requestId
  spec : row.spec = old.spec
  price : row.price = old.price
  reservedMicrounits : row.reservedMicrounits = old.reservedMicrounits
  createdAt : row.createdAt = old.createdAt

theorem SameTerms.refl (r : Reservation) : SameTerms r r := ⟨rfl, rfl, rfl, rfl, rfl, rfl, rfl, rfl, rfl, rfl⟩

theorem SameTerms.trans {a b c : Reservation} (h1 : SameTerms a b) (h2 : SameTerms b c) : SameTerms a c :=
  ⟨h2.id.trans h1.id, h2.billingAccountId.trans h1.billingAccountId, h2.projectId.trans h1.projectId,
    h2.tenantId.trans h1.tenantId, h2.apiKeyId.trans h1.apiKeyId, h2.requestId.trans h1.requestId,
      h2.spec.trans h1.spec,
    h2.price.trans h1.price, h2.reservedMicrounits.trans h1.reservedMicrounits, h2.createdAt.trans h1.createdAt⟩

theorem SameTerms.symm {a b : Reservation} (h : SameTerms a b) : SameTerms b a :=
  ⟨h.id.symm, h.billingAccountId.symm, h.projectId.symm, h.tenantId.symm, h.apiKeyId.symm, h.requestId.symm,
    h.spec.symm, h.price.symm, h.reservedMicrounits.symm, h.createdAt.symm⟩

theorem dispatched_terms (now : Int) (r : Reservation) : SameTerms r (dispatchedReservation now r) :=
  ⟨rfl, rfl, rfl, rfl, rfl, rfl, rfl, rfl, rfl, rfl⟩

theorem released_terms (now : Int) (r : Reservation) (reason : String) :
    SameTerms r (releasedReservation now r reason) :=
  ⟨rfl, rfl, rfl, rfl, rfl, rfl, rfl, rfl, rfl, rfl⟩

theorem unresolved_terms (now : Int) (r : Reservation) (request : UnresolvedRequest) :
    SameTerms r (unresolvedReservation now r request) :=
  ⟨rfl, rfl, rfl, rfl, rfl, rfl, rfl, rfl, rfl, rfl⟩

theorem waived_terms (now : Int) (r : Reservation) : SameTerms r (waivedReservation now r) :=
  ⟨rfl, rfl, rfl, rfl, rfl, rfl, rfl, rfl, rfl, rfl⟩

theorem settled_terms (now : Int) (r : Reservation) (request : SettleRequest) (amount : Int) :
    SameTerms r (settledReservation now r request amount) :=
  ⟨rfl, rfl, rfl, rfl, rfl, rfl, rfl, rfl, rfl, rfl⟩

/-! ## What the moves do to the sums -/

section Sums

variable {b b' : Books}

/-- The key of a replaced row is the key of the row it replaces. -/
theorem SameTerms.get? {rs : Table Reservation} {old row : Reservation} (h : SameTerms old row) (ho : old ∈ rs) :
    rs.get? (key row) = some old := by
  show rs.get? row.id = some old
  rw [h.id]; exact Table.get?_of_mem ho

theorem totals_insertReservation {rs : Table Reservation} {row : Reservation}
    (hi : b.reservations.insert? row = some rs) (hs : row.state.held = true) :
    ({ b with reservations := rs } : Books).totals =
      b.totals.addHold row.billingAccountId row.apiKeyId row.reservedMicrounits := by
  refine Totals.ext rfl (funext fun a => ?_) (funext fun k => ?_) rfl
  · show rs.sumWhere _ _ = b.held a + _
    rw [Table.sumWhere_insert? hi, Books.held]
    simp only [hs, Bool.and_true, beq_iff_eq, @eq_comm _ a]
  · show rs.sumWhere _ _ = b.keyHeld k + _
    rw [Table.sumWhere_insert? hi, Books.keyHeld]
    simp only [hs, Bool.and_true, beq_iff_eq, @eq_comm _ k]

/-- A replaced reservation moves the holds of its account and key by what it holds now less what
it held before. -/
theorem totals_putReservation {old row : Reservation} (ho : old ∈ b.reservations) (terms : SameTerms old row) :
    ({ b with reservations := b.reservations.put row } : Books).totals =
      b.totals.addHold old.billingAccountId old.apiKeyId
        (row.state.holds old.reservedMicrounits - old.state.holds old.reservedMicrounits) := by
  have hg := terms.get? ho
  refine Totals.ext rfl (funext fun a => ?_) (funext fun k => ?_) rfl
  · show (b.reservations.put row).sumWhere _ _ = b.held a + _
    rw [Table.sumWhere_put hg, terms.billingAccountId, terms.reservedMicrounits, Books.held]
    by_cases h : a = old.billingAccountId
    · simp [h, ReservationState.holds]; ring
    · simp [h, Ne.symm h]
  · show (b.reservations.put row).sumWhere _ _ = b.keyHeld k + _
    rw [Table.sumWhere_put hg, terms.apiKeyId, terms.reservedMicrounits, Books.keyHeld]
    by_cases h : k = old.apiKeyId
    · simp [h, ReservationState.holds]; ring
    · simp [h, Ne.symm h]

theorem totals_insertUsage {us : Table UsageRow} {row : UsageRow} (hi : b.usageEvents.insert? row = some us) :
    ({ b with usageEvents := us } : Books).totals = b.totals.addSpent row.apiKeyId
      (Calendar.firstOfMonth (Calendar.ofTimestamp row.occurredAt)) row.costMicrounits := by
  refine Totals.ext rfl rfl rfl (funext fun k => funext fun m => ?_)
  show us.sumWhere _ _ = b.spent k m + _
  rw [Table.sumWhere_insert? hi, Books.spent]
  simp only [Bool.and_eq_true, beq_iff_eq, @eq_comm _ k, @eq_comm _ m]

/-- A settlement gives up the hold and adds its amount to the month it runs in. -/
theorem totals_settle {call : Call} {a : BillingAccount} {r : Reservation} {request : SettleRequest} {amount : Int}
    {us : Table UsageRow} (hr : r ∈ b.reservations) (hs : r.state = .dispatched)
    (hi : b.usageEvents.insert? (settledUsage call.now a r request amount) = some us) :
    ({ b with usageEvents := us, reservations := b.reservations.put (settledReservation call.now r request amount) } :
      Books).totals = (b.totals.addHold r.billingAccountId r.apiKeyId (-r.reservedMicrounits)).addSpent r.apiKeyId
        (Calendar.firstOfMonth (Calendar.ofTimestamp call.now)) amount := by
  let b1 : Books := { b with usageEvents := us }
  have h1 : b1.totals =
      b.totals.addSpent r.apiKeyId (Calendar.firstOfMonth (Calendar.ofTimestamp call.now)) amount :=
        totals_insertUsage hi
  have hold : (settledReservation call.now r request amount).state.holds r.reservedMicrounits
      - r.state.holds r.reservedMicrounits = -r.reservedMicrounits := by
    rw [hs]; exact zero_sub _
  let b2 : Books := { b1 with reservations := b1.reservations.put (settledReservation call.now r request amount) }
  have h2 : b2.totals = _ := totals_putReservation hr (settled_terms _ _ _ _)
  show b2.totals = _
  rw [h2, h1, hold]; rfl

/-- A journal adds its two entries to every sum over the entries. -/
theorem Journal.sum {txn : LedgerTransaction} {e₁ e₂ : LedgerEntry} {b b' : Books} (h : Journal txn e₁ e₂ b b')
    (p : LedgerEntry → Bool) : b'.entries.sumWhere p (·.amountMicrounits) =
      b.entries.sumWhere p (·.amountMicrounits) + (if p e₁ then e₁.amountMicrounits else 0) +
        (if p e₂ then e₂.amountMicrounits else 0) := by
  obtain ⟨ts, es, es', -, h1, h2, rfl⟩ := h.inserted
  rw [Table.sumWhere_insert? h2, Table.sumWhere_insert? h1]

/-- A posting moves the balance of its account, and nothing else that is counted. -/
theorem Posted.totals {call : Call} {a : BillingAccount} {p : Posting} (h : Posted call a p b b')
    (hc : p.counterAccount ≠ .customerBalance) : b'.totals = b.totals.addBalance a.id p.customerDelta := by
  have hsum := Journal.sum h
  obtain ⟨ts, es, es', -, -, -, rfl⟩ := h.inserted
  refine Totals.ext (funext fun x => ?_) rfl rfl rfl
  show es'.sumWhere _ _ = b.balance x + _
  rw [hsum, Books.balance]
  simp [Posting.customerEntry, Posting.counterEntry, hc, @eq_comm _ x]

theorem Registry.totals (h : Registry b b') : b'.totals = b.totals := by
  unfold Books.totals Books.balance Books.held Books.keyHeld Books.spent
  rw [h.reservations, h.usageEvents, h.entries]

/-- A charge moves the balance when there is something to charge. -/
theorem Charged.totals {call : Call} {a : BillingAccount} {amount : Int} {p : Posting}
    (h : Charged call a amount p b b') (hc : p.counterAccount ≠ .customerBalance) :
    b'.totals = b.totals.addBalance a.id (if 0 < amount then p.customerDelta else 0) := by
  rcases h with ⟨hpos, h⟩ | ⟨hpos, rfl⟩
  · rw [if_pos hpos]; exact h.totals hc
  · rw [if_neg hpos]
    exact Totals.ext (funext fun x => by simp [Totals.addBalance]) rfl rfl rfl

end Sums

/-! ## Accounts and the reservations that belong to them -/

/-- A project has one account, and a reservation belongs to the account of its project. -/
structure Books.Owned (b : Books) : Prop where
  unique : ∀ a ∈ b.accounts, ∀ a' ∈ b.accounts, a.projectId = a'.projectId → a = a'
  reservations : ∀ r ∈ b.reservations, ∃ a ∈ b.accounts, a.id = r.billingAccountId ∧ a.projectId = r.projectId

/-- The account of a reservation is the one locked for its project. -/
theorem Books.Owned.account_eq {b : Books} (o : b.Owned) {a : BillingAccount} {row : Reservation} (ha : a ∈ b.accounts)
    (hr : row ∈ b.reservations) (hp : a.projectId = row.projectId) : a.id = row.billingAccountId := by
  obtain ⟨a', ha', hid, hp'⟩ := o.reservations row hr
  rw [o.unique a ha a' ha' (hp.trans hp'.symm)]; exact hid

theorem Books.Owned.congr {b b' : Books} (h : b.Owned) (ha : b'.accounts = b.accounts)
    (hr : b'.reservations = b.reservations) : b'.Owned :=
  ⟨by rw [ha]; exact h.unique, by rw [ha, hr]; exact h.reservations⟩

/-- A journal writes the ledger only. -/
theorem Journal.eq {txn : LedgerTransaction} {e₁ e₂ : LedgerEntry} {b b' : Books} (h : Journal txn e₁ e₂ b b') :
    ∃ ts es, b' = { b with transactions := ts, entries := es } := by
  obtain ⟨ts, -, es, -, -, -, h⟩ := h.inserted
  exact ⟨ts, es, h⟩

theorem Charged.eq {call : Call} {a : BillingAccount} {amount : Int} {p : Posting} {b b' : Books}
    (h : Charged call a amount p b b') : ∃ ts es, b' = { b with transactions := ts, entries := es } := by
  rcases h with ⟨-, h⟩ | ⟨-, rfl⟩
  · exact h.eq
  · exact ⟨_, _, rfl⟩

theorem Books.Owned.put {b : Books} {old row : Reservation} (h : b.Owned) (ho : old ∈ b.reservations)
    (terms : SameTerms old row) :
    ({ b with reservations := b.reservations.put row } : Books).Owned := by
  refine ⟨h.unique, fun r hr => ?_⟩
  rcases Table.mem_put.1 hr with ⟨hr, -⟩ | ⟨rfl, -⟩
  · exact h.reservations r hr
  · rw [terms.billingAccountId, terms.projectId]; exact h.reservations old ho

theorem Move.owned {k : Kind} {b b' : Books} (m : Move k b b') (h : b.Owned) : b'.Owned := by
  cases m with
  | registry g =>
    refine ⟨fun a ha a' ha' hp => ?_, fun r hr => ?_⟩
    · rcases g.newAccounts a ha with ho | ⟨-, hn⟩
      · rcases g.newAccounts a' ha' with ho' | ⟨-, hn'⟩
        · exact h.unique a ho a' ho' hp
        · exact hn' a ha hp
      · exact (hn a' ha' hp.symm).symm
    · rw [g.reservations] at hr
      obtain ⟨a, ha, e⟩ := h.reservations r hr
      exact ⟨a, g.accounts a ha, e⟩
  | review reviews audits => exact h.congr rfl rfl
  | policy a ha flag =>
    -- a replaced account keeps its id and project
    have back : ∀ x ∈ b.accounts.put { a with enforceBalance := flag },
        ∃ y ∈ b.accounts, y.id = x.id ∧ y.projectId = x.projectId := by
      intro x hx
      rcases Table.mem_put.1 hx with ⟨hx, -⟩ | ⟨rfl, -⟩
      · exact ⟨x, hx, rfl, rfl⟩
      · exact ⟨a, ha, rfl, rfl⟩
    refine ⟨fun x hx x' hx' hp => ?_, fun r hr => ?_⟩
    · obtain ⟨y, hy, i1, p1⟩ := back x hx
      obtain ⟨y', hy', i2, p2⟩ := back x' hx'
      have hyy := h.unique y hy y' hy' (p1.trans (hp.trans p2.symm))
      refine Table.eq_of_key hx hx' ?_
      show x.id = x'.id
      rw [← i1, ← i2, hyy]
    · obtain ⟨x, hx, e1, e2⟩ := h.reservations r hr
      by_cases hxa : x.id = a.id
      · have := Table.eq_of_key hx ha hxa
        subst this
        exact ⟨_, Table.mem_put.2 (.inr ⟨rfl, x, hx, rfl⟩), e1, e2⟩
      · exact ⟨x, Table.mem_put.2 (.inl ⟨hx, hxa⟩), e1, e2⟩
  | reserve now a request entry key amount rs ha hp wf hm hid hk hkid cost fresh unused funds budget hi =>
    refine ⟨h.unique, fun r hr => ?_⟩
    rcases (Table.mem_insert? hi).1 hr with rfl | hr
    · exact ⟨a, ha, rfl, hp⟩
    · exact h.reservations r hr
  | dispatch now r hr hs => exact h.put hr (dispatched_terms now r)
  | release now r reason hr hs => exact h.put hr (released_terms now r reason)
  | report now r request hr hs => exact h.put hr (unresolved_terms now r request)
  | settle call a r request amount us ha hp hr hs wf hin hout cost funds hi post =>
    obtain ⟨ts, es, rfl⟩ := post.eq
    exact (h.put hr (settled_terms call.now r request amount)).congr rfl rfl
  | waive now r hr hs => exact h.put hr (waived_terms now r)
  | usage call a e cost us ha hp unreserved priced funds hi post =>
    obtain ⟨ts, es, rfl⟩ := post.eq; exact h.congr rfl rfl
  | topUp call a o id provider reference currency key description ps ha hp ho hpend hfit hi post =>
    obtain ⟨ts, es, rfl⟩ := post.eq; exact h.congr rfl rfl
  | refund call a o p row key description rs ha hp ho hpay hprov hrow hst hpos le limit funds hi post =>
    obtain ⟨ts, es, rfl⟩ := post.eq; exact h.congr rfl rfl
  | prepare call a o p row key description rs ha hp ho hpay hprov hrow hst hpos limit funds hi post =>
    obtain ⟨ts, es, rfl⟩ := post.eq; exact h.congr rfl rfl
  | complete call a o p row trade ha hp ho hpay hprov hrow hpid hst post =>
    obtain ⟨ts, es, rfl⟩ := post.eq; exact h.congr rfl rfl

/-- A replaced row keeps its terms, the others stay. -/
theorem origin_put {b : Books} {old row : Reservation} (ho : old ∈ b.reservations) (terms : SameTerms old row) :
    ∀ x ∈ b.reservations.put row, ∃ y ∈ b.reservations, SameTerms y x := by
  intro x hx
  rcases Table.mem_put.1 hx with ⟨hx, -⟩ | ⟨rfl, -⟩
  · exact ⟨x, hx, .refl x⟩
  · exact ⟨old, ho, terms⟩

/-- Only an admission creates reservations. -/
theorem Move.origin {k : Kind} {b b' : Books} (m : Move k b b') (hk : ∀ now, k ≠ .reserve now) :
    ∀ x ∈ b'.reservations, ∃ y ∈ b.reservations, SameTerms y x := by
  have same : ∀ x ∈ b.reservations, ∃ y ∈ b.reservations, SameTerms y x := fun x hx => ⟨x, hx, .refl x⟩
  cases m with
  | registry g => rw [g.reservations]; exact same
  | review reviews audits => exact same
  | policy a ha flag => exact same
  | reserve now a request entry key amount rs ha hp wf hm hid hk' hkid cost fresh unused funds budget hi =>
    exact absurd rfl (hk now)
  | dispatch now r hr hs => exact origin_put hr (dispatched_terms now r)
  | release now r reason hr hs => exact origin_put hr (released_terms now r reason)
  | report now r request hr hs => exact origin_put hr (unresolved_terms now r request)
  | settle call a r request amount us ha hp hr hs wf hin hout cost funds hi post =>
    obtain ⟨ts, es, rfl⟩ := post.eq
    exact origin_put hr (settled_terms call.now r request amount)
  | waive now r hr hs => exact origin_put hr (waived_terms now r)
  | usage call a e cost us ha hp unreserved priced funds hi post => obtain ⟨ts, es, rfl⟩ := post.eq; exact same
  | topUp call a o id provider reference currency key description ps ha hp ho hpend hfit hi post =>
    obtain ⟨ts, es, rfl⟩ := post.eq; exact same
  | refund call a o p row key description rs ha hp ho hpay hprov hrow hst hpos le limit funds hi post =>
    obtain ⟨ts, es, rfl⟩ := post.eq; exact same
  | prepare call a o p row key description rs ha hp ho hpay hprov hrow hst hpos limit funds hi post =>
    obtain ⟨ts, es, rfl⟩ := post.eq; exact same
  | complete call a o p row trade ha hp ho hpay hprov hrow hpid hst post =>
    obtain ⟨ts, es, rfl⟩ := post.eq; exact same

/-- What every move of some kinds keeps, every sequence of such moves keeps. -/
theorem Moves.keeps {ks : List Kind} {I : Books → Prop} (hI : ∀ k ∈ ks, ∀ b b', Move k b b' → I b → I b') {b b' : Books}
    (h : Moves ks b b') (hb : I b) : I b' := by
  induction h with
  | refl => exact hb
  | tail _ m ih =>
    obtain ⟨k, hk, m⟩ := m
    exact hI k hk _ _ m ih

theorem Moves.origin {ks : List Kind} {b b' : Books} (h : Moves ks b b') (hk : ∀ k ∈ ks, ∀ now, k ≠ .reserve now) :
    ∀ x ∈ b'.reservations, ∃ y ∈ b.reservations, SameTerms y x := by
  refine h.keeps (I := fun c => ∀ x ∈ c.reservations, ∃ y ∈ b.reservations, SameTerms y x)
    (fun k hm c c' m ih x hx => ?_)
    fun x hx => ⟨x, hx, .refl x⟩
  obtain ⟨y, hy, terms⟩ := m.origin (hk k hm) x hx
  obtain ⟨z, hz, terms'⟩ := ih y hy
  exact ⟨z, hz, terms'.trans terms⟩

theorem Moves.owned {ks : List Kind} {b b' : Books} (h : Moves ks b b') (hb : b.Owned) : b'.Owned :=
  h.keeps (fun _ _ _ _ m => m.owned) hb

/-- No account is lost, and nothing of one changes but its policy. -/
def AccountsStay (b b' : Books) : Prop := ∀ a ∈ b.accounts, ∃ flag, { a with enforceBalance := flag } ∈ b'.accounts

theorem AccountsStay.of_eq {b b' : Books} (h : b'.accounts = b.accounts) : AccountsStay b b' :=
  fun a ha => ⟨a.enforceBalance, by rw [h]; exact ha⟩

theorem AccountsStay.trans {b b' b'' : Books} (h : AccountsStay b b')
    (h' : AccountsStay b' b'') : AccountsStay b b'' := by
  intro a ha
  obtain ⟨flag, ha'⟩ := h a ha
  obtain ⟨flag', ha''⟩ := h' _ ha'
  exact ⟨flag', ha''⟩

theorem Move.accountsStay {k : Kind} {b b' : Books} (m : Move k b b') : AccountsStay b b' := by
  cases m with
  | registry g => exact fun a ha => ⟨a.enforceBalance, g.accounts a ha⟩
  | policy a ha flag =>
    intro x hx
    by_cases hid : x.id = a.id
    · have := Table.eq_of_key hx ha hid
      subst this
      exact ⟨flag, Table.mem_put.2 (.inr ⟨rfl, x, hx, rfl⟩)⟩
    · exact ⟨x.enforceBalance, Table.mem_put.2 (.inl ⟨hx, hid⟩)⟩
  | settle call a r request amount us ha hp hr hs wf hin hout cost funds hi post =>
    obtain ⟨ts, es, rfl⟩ := post.eq; exact .of_eq rfl
  | usage call a e cost us ha hp unreserved priced funds hi post => obtain ⟨ts, es, rfl⟩ := post.eq; exact .of_eq rfl
  | topUp call a o id provider reference currency key description ps ha hp ho hpend hfit hi post =>
    obtain ⟨ts, es, rfl⟩ := post.eq; exact .of_eq rfl
  | refund call a o p row key description rs ha hp ho hpay hprov hrow hst hpos le limit funds hi post =>
    obtain ⟨ts, es, rfl⟩ := post.eq; exact .of_eq rfl
  | prepare call a o p row key description rs ha hp ho hpay hprov hrow hst hpos limit funds hi post =>
    obtain ⟨ts, es, rfl⟩ := post.eq; exact .of_eq rfl
  | complete call a o p row trade ha hp ho hpay hprov hrow hpid hst post =>
    obtain ⟨ts, es, rfl⟩ := post.eq; exact .of_eq rfl
  | _ => exact .of_eq rfl

theorem Moves.accountsStay {ks : List Kind} {b b' : Books} (h : Moves ks b b') : AccountsStay b b' :=
  h.keeps (I := AccountsStay b) (fun _ _ _ _ m stay => stay.trans m.accountsStay) (.of_eq rfl)

end Xscope

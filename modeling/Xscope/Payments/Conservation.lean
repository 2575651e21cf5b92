/-
Conservation of money. What the ledger shows for an account is determined by the payments, refunds
and usage of its project: every move changes both sides by the same amounts.
-/
import Xscope.Billing.Lifecycle

namespace Xscope

/-! ## Both sides of the equation -/

/-- The sum of the entries of an account on one ledger account. -/
def Books.ledgerSum (b : Books) (account : String) (l : LedgerAccount) : Int :=
  b.entries.sumWhere (fun e => e.billingAccountId == account && e.ledgerAccount == l) (·.amountMicrounits)

/-- What went through a project: minor units paid and refunded, and micro-units of usage. -/
@[ext] structure Flows where
  paid : Int
  manual : Int
  pending : Int
  settled : Int
  usage : Int

namespace Flows

/-- No flow. -/
def none : Flows := ⟨0, 0, 0, 0, 0⟩

def add (f g : Flows) : Flows :=
  ⟨f.paid + g.paid, f.manual + g.manual, f.pending + g.pending, f.settled + g.settled, f.usage + g.usage⟩

@[simp] theorem add_none (f : Flows) : f.add none = f := by
  simp [add, none]

/-- What the flows leave on each ledger account. -/
def expected (f : Flows) : LedgerAccount → Int
  | .customerBalance => microsPerMinorUnit * (f.paid - f.manual - f.pending - f.settled) - f.usage
  | .usageRevenue => f.usage
  | .refundPending => microsPerMinorUnit * f.pending
  | .cashClearing => -(microsPerMinorUnit * (f.paid - f.manual - f.settled))

@[simp] theorem expected_none (l : LedgerAccount) : none.expected l = 0 := by
  cases l <;> simp [expected, none]

theorem expected_add (f g : Flows) (l : LedgerAccount) : (f.add g).expected l = f.expected l + g.expected l := by
  cases l <;> simp only [expected, add] <;> ring

end Flows

namespace Books

/-- The project a payment was made for. -/
def payer (b : Books) (p : Payment) : Option String := (b.orders.get? p.orderId).map (·.projectId)

/-- The sum of the refunds of the payments of a project that satisfy `q`. -/
def refundedBy (b : Books) (project : String) (q : Payment → Refund → Bool) : Int :=
  b.refunds.sumWhere (fun r => (b.payments.get? r.paymentId).any fun p => b.payer p == some project && q p r) (·.amount)

def flows (b : Books) (project : String) : Flows where
  paid := b.payments.sumWhere (fun p => p.status == .succeeded && b.payer p == some project) (·.amount)
  manual := b.refundedBy project fun p _ => p.provider != "alipay"
  pending := b.refundedBy project fun p r => p.provider == "alipay" && r.status == .pending
  settled := b.refundedBy project fun p r => p.provider == "alipay" && r.status == .succeeded
  usage := b.usageEvents.sumWhere (fun u => u.projectId == project) (·.costMicrounits)

end Books

/-- Entries, payments, refunds and usage belong to an account. -/
structure Books.Linked (b : Books) : Prop where
  entries : ∀ e ∈ b.entries, ∃ a ∈ b.accounts, a.id = e.billingAccountId
  payments : ∀ p ∈ b.payments, ∃ o, b.orders.get? p.orderId = some o ∧ ∃ a ∈ b.accounts, a.projectId = o.projectId
  refunds : ∀ r ∈ b.refunds, ∃ p, b.payments.get? r.paymentId = some p
  usage : ∀ u ∈ b.usageEvents, ∃ a ∈ b.accounts, a.projectId = u.projectId

/-- The ledger of every account is what its flows leave. -/
def Books.Conserved (b : Books) : Prop := ∀ a ∈ b.accounts, ∀ l, b.ledgerSum a.id l = (b.flows a.projectId).expected l

/-! ## Moves -/

/-- What a posting adds to each ledger account. -/
def Posting.effect (p : Posting) (l : LedgerAccount) : Int :=
  (if l = .customerBalance then p.customerDelta else 0) + if l = p.counterAccount then -p.customerDelta else 0

theorem Posted.ledgerSum {call : Call} {a : BillingAccount} {p : Posting} {b b' : Books} (h : Posted call a p b b')
    (x : String) (l : LedgerAccount) : b'.ledgerSum x l = b.ledgerSum x l + if x = a.id then p.effect l else 0 := by
  unfold Books.ledgerSum
  rw [h.sum]
  by_cases hx : x = a.id
  · simp [Posting.customerEntry, Posting.counterEntry, Posting.effect, hx, @eq_comm _ l]; ring
  · simp [Posting.customerEntry, Posting.counterEntry, hx, Ne.symm hx]

/-- One account's ledger and flows change alike. -/
theorem Books.Conserved.move {b b' : Books} {a : BillingAccount} {f : Flows} (h : b.Conserved) (o : b.Owned)
    (ha : a ∈ b.accounts) (accounts : b'.accounts = b.accounts)
    (ledger : ∀ x l, b'.ledgerSum x l = b.ledgerSum x l + if x = a.id then f.expected l else 0)
    (flows : ∀ project, b'.flows project = (b.flows project).add (if project = a.projectId then f else .none)) :
    b'.Conserved := by
  intro x hx l
  rw [accounts] at hx
  rw [ledger, flows, Flows.expected_add, h x hx l]
  by_cases hid : x.id = a.id
  · have := Table.eq_of_key hx ha hid
    subst this
    rw [if_pos rfl, if_pos rfl]
  · have hp : x.projectId ≠ a.projectId := fun e => hid (congrArg BillingAccount.id (o.unique x hx a ha e))
    rw [if_neg hid, if_neg hp, Flows.expected_none]

/-! ## Links -/

/-- No account of `b` is lost. -/
def AccountsKept (b b' : Books) : Prop :=
  ∀ a ∈ b.accounts, ∃ a' ∈ b'.accounts, a'.id = a.id ∧ a'.projectId = a.projectId

theorem AccountsKept.of_eq {b b' : Books} (h : b'.accounts = b.accounts) : AccountsKept b b' :=
  fun a ha => ⟨a, by rw [h]; exact ha, rfl, rfl⟩

theorem AccountsKept.policy {b : Books} {a : BillingAccount} (ha : a ∈ b.accounts) (flag : Bool) :
    AccountsKept b { b with accounts := b.accounts.put { a with enforceBalance := flag } } := by
  intro x hx
  by_cases hid : x.id = a.id
  · have := Table.eq_of_key hx ha hid
    subst this
    exact ⟨_, Table.mem_put.2 (.inr ⟨rfl, x, hx, rfl⟩), rfl, rfl⟩
  · exact ⟨x, Table.mem_put.2 (.inl ⟨hx, hid⟩), rfl, rfl⟩

/-- The links survive when accounts are kept, orders keep their projects, payments are kept, and
every new row belongs to an account. -/
theorem Books.Linked.mono {b b' : Books} (h : b.Linked) (accounts : AccountsKept b b')
    (entries : ∀ e ∈ b'.entries, e ∈ b.entries ∨ ∃ a ∈ b'.accounts, a.id = e.billingAccountId)
    (orders : ∀ id o, b.orders.get? id = some o → ∃ o', b'.orders.get? id = some o' ∧ o'.projectId = o.projectId)
    (payments : ∀ p ∈ b'.payments, p ∈ b.payments ∨
      ∃ o, b'.orders.get? p.orderId = some o ∧ ∃ a ∈ b'.accounts, a.projectId = o.projectId)
    (kept : ∀ id p, b.payments.get? id = some p → b'.payments.get? id = some p)
    (refunds : ∀ r ∈ b'.refunds, r ∈ b.refunds ∨ ∃ p, b'.payments.get? r.paymentId = some p)
    (usage : ∀ u ∈ b'.usageEvents, u ∈ b.usageEvents ∨ ∃ a ∈ b'.accounts, a.projectId = u.projectId) : b'.Linked := by
  refine ⟨fun e he => ?_, fun p hp => ?_, fun r hr => ?_, fun u hu => ?_⟩
  · refine (entries e he).elim (fun he => ?_) id
    obtain ⟨a, ha, hid⟩ := h.entries e he
    obtain ⟨a', ha', hid', -⟩ := accounts a ha
    exact ⟨a', ha', hid'.trans hid⟩
  · refine (payments p hp).elim (fun hp => ?_) id
    obtain ⟨o, ho, a, ha, hpr⟩ := h.payments p hp
    obtain ⟨o', ho', ho''⟩ := orders _ o ho
    obtain ⟨a', ha', -, hpr'⟩ := accounts a ha
    exact ⟨o', ho', a', ha', (hpr'.trans hpr).trans ho''.symm⟩
  · refine (refunds r hr).elim (fun hr => ?_) id
    obtain ⟨p, hp⟩ := h.refunds r hr
    exact ⟨p, kept _ p hp⟩
  · refine (usage u hu).elim (fun hu => ?_) id
    obtain ⟨a, ha, hpr⟩ := h.usage u hu
    obtain ⟨a', ha', -, hpr'⟩ := accounts a ha
    exact ⟨a', ha', hpr'.trans hpr⟩

/-- The entries of a journal beside those that were there. -/
theorem Journal.entry {txn : LedgerTransaction} {e₁ e₂ e : LedgerEntry} {b b' : Books} (h : Journal txn e₁ e₂ b b')
    (he : e ∈ b'.entries) : e ∈ b.entries ∨ e = e₁ ∨ e = e₂ := by
  obtain ⟨ts, es, es', -, h1, h2, rfl⟩ := h.inserted
  rcases (Table.mem_insert? h2).1 he with rfl | he
  · exact .inr (.inr rfl)
  · rcases (Table.mem_insert? h1).1 he with rfl | he
    · exact .inr (.inl rfl)
    · exact .inl he

/-- The entries of a journal of one account belong to it. -/
theorem Journal.entryOf {txn : LedgerTransaction} {e₁ e₂ : LedgerEntry} {b b' : Books} {a : BillingAccount}
    (h : Journal txn e₁ e₂ b b') (ha : a ∈ b.accounts) (h1 : e₁.billingAccountId = a.id)
    (h2 : e₂.billingAccountId = a.id) :
    ∀ e ∈ b'.entries, e ∈ b.entries ∨ ∃ a ∈ b'.accounts, a.id = e.billingAccountId := by
  intro e he
  have acc : a ∈ b'.accounts := by obtain ⟨ts, es, rfl⟩ := h.eq; exact ha
  rcases h.entry he with he | rfl | rfl
  · exact .inl he
  · exact .inr ⟨a, acc, h1.symm⟩
  · exact .inr ⟨a, acc, h2.symm⟩

theorem Charged.entryOf {call : Call} {amount : Int} {p : Posting} {b b' : Books} {a : BillingAccount}
    (h : Charged call a amount p b b') (ha : a ∈ b.accounts) :
    ∀ e ∈ b'.entries, e ∈ b.entries ∨ ∃ a ∈ b'.accounts, a.id = e.billingAccountId := by
  rcases h with ⟨-, h⟩ | ⟨-, rfl⟩
  · exact Journal.entryOf h ha rfl rfl
  · exact fun e he => .inl he

/-- A paid order keeps its project. -/
theorem orders_paid {b : Books} {o : BillingOrder} (ho : o ∈ b.orders) :
    ∀ id o', b.orders.get? id = some o' →
      ∃ o'', (b.orders.put { o with status := .paid }).get? id = some o'' ∧ o''.projectId = o'.projectId := by
  intro id o' h
  have hg : b.orders.get? (key { o with status := OrderStatus.paid }) = some o := Table.get?_of_mem ho
  rw [Table.get?_put hg]
  split
  · rename_i hk
    have hk : o.id = id := hk
    subst hk
    rw [show b.orders.get? o.id = some o from Table.get?_of_mem ho] at h
    cases h
    exact ⟨_, rfl, rfl⟩
  · exact ⟨o', h, rfl⟩

theorem Move.linked {k : Kind} {b b' : Books} (m : Move k b b') (h : b.Linked) : b'.Linked := by
  have same : ∀ id o, b.orders.get? id = some o → ∃ o', b.orders.get? id = some o' ∧ o'.projectId = o.projectId :=
    fun id o ho => ⟨o, ho, rfl⟩
  cases m with
  | registry g =>
    refine h.mono (fun a ha => ⟨a, g.accounts a ha, rfl, rfl⟩) (fun e he => .inl (by rw [← g.entries]; exact he))
      (fun id o ho => ⟨o, g.orders id o ho, rfl⟩) (fun p hp => .inl (by rw [← g.payments]; exact hp))
      (fun id p hp => by rw [g.payments]; exact hp) (fun r hr => .inl (by rw [← g.refunds]; exact hr))
      (fun u hu => .inl (by rw [← g.usageEvents]; exact hu))
  | policy a ha flag =>
    exact h.mono (.policy ha flag) (fun e he => .inl he) same (fun p hp => .inl hp) (fun id p hp => hp)
      (fun r hr => .inl hr)
      (fun u hu => .inl hu)
  | settle call a r request amount us ha hp hr hs wf hin hout cost funds hi post =>
    have entries := post.entryOf ha
    obtain ⟨ts, es, rfl⟩ := post.eq
    refine h.mono (.of_eq rfl) entries same (fun p hp => .inl hp) (fun id p hp => hp) (fun r hr => .inl hr)
      fun u hu => ?_
    rcases (Table.mem_insert? hi).1 hu with rfl | hu
    · exact .inr ⟨a, ha, hp⟩
    · exact .inl hu
  | usage call a e cost us ha hp unreserved priced funds hi post =>
    have entries := post.entryOf ha
    obtain ⟨ts, es, rfl⟩ := post.eq
    refine h.mono (.of_eq rfl) entries same (fun p hp => .inl hp) (fun id p hp => hp) (fun r hr => .inl hr)
      fun u hu => ?_
    rcases (Table.mem_insert? hi).1 hu with rfl | hu
    · exact .inr ⟨a, ha, hp⟩
    · exact .inl hu
  | topUp call a o id provider reference currency key description ps ha hp ho hpend hfit hi post =>
    have entries := Journal.entryOf post ha rfl rfl
    obtain ⟨ts, es, rfl⟩ := post.eq
    refine h.mono (.of_eq rfl) entries (orders_paid ho) (fun p hm => ?_) (fun id p hp => Table.get?_insert?_old hi hp)
      (fun r hr => .inl hr) fun u hu => .inl hu
    rcases (Table.mem_insert? hi).1 hm with rfl | hm
    · obtain ⟨o', ho', hpr⟩ := orders_paid ho o.id o (Table.get?_of_mem ho)
      exact .inr ⟨o', ho', a, ha, hp.trans hpr.symm⟩
    · exact .inl hm
  | refund call a o p row key description rs ha hp ho hpay hprov hrow hst hpos le limit funds hi post =>
    have entries := Journal.entryOf post ha rfl rfl
    obtain ⟨ts, es, rfl⟩ := post.eq
    refine h.mono (.of_eq rfl) entries same (fun p hp => .inl hp) (fun id p hp => hp) (fun r hr => ?_)
      fun u hu => .inl hu
    rcases (Table.mem_insert? hi).1 hr with rfl | hr
    · exact .inr ⟨p, by rw [hrow]; exact Table.get?_of_mem hpay⟩
    · exact .inl hr
  | prepare call a o p row key description rs ha hp ho hpay hprov hrow hst hpos limit funds hi post =>
    have entries := Journal.entryOf post ha rfl rfl
    obtain ⟨ts, es, rfl⟩ := post.eq
    refine h.mono (.of_eq rfl) entries same (fun p hp => .inl hp) (fun id p hp => hp) (fun r hr => ?_)
      fun u hu => .inl hu
    rcases (Table.mem_insert? hi).1 hr with rfl | hr
    · exact .inr ⟨p, by rw [hrow]; exact Table.get?_of_mem hpay⟩
    · exact .inl hr
  | complete call a o p row trade ha hp ho hpay hprov hrow hpid hst post =>
    have entries := Journal.entryOf post ha rfl rfl
    obtain ⟨ts, es, rfl⟩ := post.eq
    refine h.mono (.of_eq rfl) entries same (fun p hp => .inl hp) (fun id p hp => hp) (fun r hr => ?_)
      fun u hu => .inl hu
    rcases Table.mem_put.1 hr with ⟨hr, -⟩ | ⟨rfl, -⟩
    · exact .inl hr
    · exact .inr
        ⟨p, by rw [show (succeededRefund call.now row trade).paymentId = p.id from hpid]; exact Table.get?_of_mem hpay⟩
  | _ =>
    exact h.mono (.of_eq rfl) (fun e he => .inl he) same (fun p hp => .inl hp) (fun id p hp => hp) (fun r hr => .inl hr)
      (fun u hu => .inl hu)

/-! ## Flows under moves -/

section Flows

variable {b b' : Books}

theorem refundedBy_congr (h : b.Linked) (payers : ∀ p ∈ b.payments, b'.payer p = b.payer p)
    (kept : ∀ id p, b.payments.get? id = some p → b'.payments.get? id = some p) (refunds : b'.refunds = b.refunds)
    (project : String) (q : Payment → Refund → Bool) : b'.refundedBy project q = b.refundedBy project q := by
  unfold Books.refundedBy
  rw [refunds]
  refine Table.sumWhere_congr fun r hr => ?_
  obtain ⟨p, hp⟩ := h.refunds r hr
  rw [hp, kept _ p hp]
  simp only [Option.any_some]
  rw [payers p (Table.get?_mem hp)]

/-- Flows read payments, refunds, usage and the projects of orders. -/
theorem flows_congr (h : b.Linked) (payers : ∀ p ∈ b.payments, b'.payer p = b.payer p)
    (payments : b'.payments = b.payments) (refunds : b'.refunds = b.refunds) (usage : b'.usageEvents = b.usageEvents)
    (project : String) :
    b'.flows project = b.flows project := by
  have kept : ∀ id p, b.payments.get? id = some p → b'.payments.get? id = some p :=
    fun _ _ hp => by rw [payments]; exact hp
  refine Flows.ext ?_ (refundedBy_congr h payers kept refunds ..) (refundedBy_congr h payers kept refunds ..)
    (refundedBy_congr h payers kept refunds ..) ?_
  · show b'.payments.sumWhere _ _ = b.payments.sumWhere _ _
    rw [payments]
    exact Table.sumWhere_congr fun p hp => by rw [payers p hp]
  · show b'.usageEvents.sumWhere _ _ = b.usageEvents.sumWhere _ _
    rw [usage]

/-- A project without an account has no flows. -/
theorem flows_of_unlinked (h : b.Linked) {project : String} (hn : ∀ a ∈ b.accounts, a.projectId ≠ project) :
    b.flows project = .none := by
  have payer : ∀ p ∈ b.payments, (b.payer p == some project) = false := by
    intro p hp
    obtain ⟨o, ho, a, ha, hpr⟩ := h.payments p hp
    simp only [Books.payer, ho, Option.map_some, beq_eq_false_iff_ne, ne_eq, Option.some.injEq]
    exact hpr ▸ hn a ha
  have refunded : ∀ q, b.refundedBy project q = 0 := by
    intro q
    refine Table.sumWhere_eq_zero fun r hr => ?_
    obtain ⟨p, hp⟩ := h.refunds r hr
    rw [hp, Option.any_some, payer p (Table.get?_mem hp), Bool.false_and]
  refine Flows.ext ?_ (refunded _) (refunded _) (refunded _) ?_
  · exact Table.sumWhere_eq_zero fun p hp => by rw [payer p hp, Bool.and_false]
  · refine Table.sumWhere_eq_zero fun u hu => ?_
    obtain ⟨a, ha, hpr⟩ := h.usage u hu
    simp only [beq_eq_false_iff_ne]
    exact hpr ▸ hn a ha

theorem ledgerSum_of_unlinked (h : b.Linked) {account : String} (hn : ∀ a ∈ b.accounts, a.id ≠ account)
    (l : LedgerAccount) :
    b.ledgerSum account l = 0 := by
  refine Table.sumWhere_eq_zero fun e he => ?_
  obtain ⟨a, ha, hid⟩ := h.entries e he
  have : e.billingAccountId ≠ account := hid ▸ hn a ha
  simp [this]

/-- A usage event is a flow of its project. -/
theorem flows_usage {us : Table UsageRow} {u : UsageRow} (hi : b.usageEvents.insert? u = some us) (project : String) :
    ({ b with usageEvents := us } : Books).flows project =
      (b.flows project).add (if project = u.projectId then ⟨0, 0, 0, 0, u.costMicrounits⟩ else .none) := by
  have hu : us.sumWhere (fun u => u.projectId == project) (·.costMicrounits) = _ := Table.sumWhere_insert? hi _ _
  by_cases hp : project = u.projectId
  · rw [if_pos hp]
    exact Flows.ext (add_zero _).symm (add_zero _).symm (add_zero _).symm (add_zero _).symm (by
      show us.sumWhere _ _ = _
      rw [hu]; simp [Flows.add, Books.flows, hp])
  · rw [if_neg hp, Flows.add_none]
    exact Flows.ext rfl rfl rfl rfl (by
      show us.sumWhere _ _ = _
      rw [hu]; simp [Books.flows, Ne.symm hp])

/-- An order that is paid keeps the projects of all payments. -/
theorem payer_paid {o : BillingOrder} {ps : Table Payment} (ho : o ∈ b.orders) (p : Payment) :
    ({ b with payments := ps, orders := b.orders.put { o with status := .paid } } : Books).payer p = b.payer p := by
  unfold Books.payer
  show ((b.orders.put { o with status := .paid }).get? p.orderId).map _ = _
  have hg : b.orders.get? (key { o with status := OrderStatus.paid }) = some o := Table.get?_of_mem ho
  rw [Table.get?_put hg]
  split
  · rename_i hk
    have hk : o.id = p.orderId := hk
    rw [← hk, show b.orders.get? o.id = some o from hg]; rfl
  · rfl

/-- A payment is a flow of the project of its order. -/
theorem flows_payment (h : b.Linked) {ps : Table Payment} {p : Payment} {o : BillingOrder}
    (hi : b.payments.insert? p = some ps) (ho : o ∈ b.orders) (hid : p.orderId = o.id) (hst : p.status = .succeeded)
    (project : String) :
    ({ b with payments := ps, orders := b.orders.put { o with status := .paid } } : Books).flows project =
      (b.flows project).add (if project = o.projectId then ⟨p.amount, 0, 0, 0, 0⟩ else .none) := by
  let b' : Books := { b with payments := ps, orders := b.orders.put { o with status := .paid } }
  have payers : ∀ p, b'.payer p = b.payer p := payer_paid ho
  have kept : ∀ id p, b.payments.get? id = some p → b'.payments.get? id = some p :=
    fun _ _ hp => Table.get?_insert?_old hi hp
  have refunded : ∀ q, b'.refundedBy project q = b.refundedBy project q :=
    refundedBy_congr h (fun p _ => payers p) kept rfl project
  have hpay : b.payer p = some o.projectId := by
    unfold Books.payer
    rw [hid, show b.orders.get? o.id = some o from Table.get?_of_mem ho]; rfl
  have paid : (b'.flows project).paid = (b.flows project).paid + if project = o.projectId then p.amount else 0 := by
    show ps.sumWhere (fun p => p.status == .succeeded && b'.payer p == some project) _ = _
    simp only [payers]
    rw [Table.sumWhere_insert? hi, hpay, hst]
    simp [Books.flows, @eq_comm _ project]
  by_cases hp : project = o.projectId
  · rw [if_pos hp]
    rw [if_pos hp] at paid
    refine Flows.ext paid ?_ ?_ ?_ (add_zero _).symm
    · exact (refunded _).trans (add_zero _).symm
    · exact (refunded _).trans (add_zero _).symm
    · exact (refunded _).trans (add_zero _).symm
  · rw [if_neg hp, Flows.add_none]
    rw [if_neg hp, add_zero] at paid
    exact Flows.ext paid (refunded _) (refunded _) (refunded _) rfl

/-- A refund is a flow of the project its payment was made for. -/
theorem refundedBy_refund {rs : Table Refund} {r : Refund} {p : Payment} {o : BillingOrder}
    (hi : b.refunds.insert? r = some rs) (hp : b.payments.get? r.paymentId = some p)
    (ho : b.orders.get? p.orderId = some o) (project : String) (q : Payment → Refund → Bool) :
    ({ b with refunds := rs } : Books).refundedBy project q =
      b.refundedBy project q + if project = o.projectId ∧ q p r = true then r.amount else 0 := by
  show rs.sumWhere _ _ = _
  rw [Table.sumWhere_insert? hi]
  unfold Books.refundedBy Books.payer
  simp [hp, ho, @eq_comm _ project]

/-- A refund that is completed moves from one kind of refunds to another. -/
theorem refundedBy_put {old : Refund} (row : Refund) {p : Payment} {o : BillingOrder} (hr : old ∈ b.refunds)
    (hid : row.id = old.id) (hpid : row.paymentId = old.paymentId) (ha : row.amount = old.amount)
    (hp : b.payments.get? old.paymentId = some p) (ho : b.orders.get? p.orderId = some o) (project : String)
    (q : Payment → Refund → Bool) :
    ({ b with refunds := b.refunds.put row } : Books).refundedBy project q = b.refundedBy project q +
      (if project = o.projectId then (if q p row then old.amount else 0) -
        (if q p old then old.amount else 0) else 0) := by
  have hg : b.refunds.get? (key row) = some old := by
    show b.refunds.get? row.id = some old
    rw [hid]; exact Table.get?_of_mem hr
  show (b.refunds.put row).sumWhere _ _ = _
  rw [Table.sumWhere_put hg, hpid, ha]
  unfold Books.refundedBy Books.payer
  by_cases hproj : project = o.projectId
  · simp [hp, ho, hproj]; ring
  · simp [hp, ho, hproj, Ne.symm hproj]

theorem flows_refund {rs : Table Refund} {r : Refund} {p : Payment} {o : BillingOrder}
    (hi : b.refunds.insert? r = some rs) (hp : b.payments.get? r.paymentId = some p)
    (ho : b.orders.get? p.orderId = some o) (project : String) :
    ({ b with refunds := rs } : Books).flows project = (b.flows project).add
      (if project = o.projectId then
        ⟨0, if p.provider != "alipay" then r.amount else 0,
          if p.provider == "alipay" && r.status == .pending then r.amount else 0,
          if p.provider == "alipay" && r.status == .succeeded then r.amount else 0, 0⟩
      else .none) := by
  have key := refundedBy_refund (b := b) hi hp ho project
  by_cases hproj : project = o.projectId
  · simp only [hproj, true_and] at key
    rw [if_pos hproj, hproj]
    exact Flows.ext (add_zero _).symm (key _) (key _) (key _) (add_zero _).symm
  · simp only [hproj, false_and, if_false, add_zero] at key
    rw [if_neg hproj, Flows.add_none]
    exact Flows.ext rfl (key _) (key _) (key _) rfl

/-- A completed refund is settled and no longer pending. -/
theorem flows_complete {now : Int} {trade : String} {r : Refund} {p : Payment} {o : BillingOrder} (hr : r ∈ b.refunds)
    (hst : r.status = .pending) (hp : b.payments.get? r.paymentId = some p) (hprov : p.provider = "alipay")
    (ho : b.orders.get? p.orderId = some o) (project : String) :
    ({ b with refunds := b.refunds.put (succeededRefund now r trade) } : Books).flows project = (b.flows project).add
      (if project = o.projectId then ⟨0, 0, -r.amount, r.amount, 0⟩ else .none) := by
  have key := refundedBy_put (succeededRefund now r trade) hr rfl rfl rfl hp ho project
  by_cases hproj : project = o.projectId
  · simp only [hproj, if_true] at key
    rw [if_pos hproj, hproj]
    refine Flows.ext (add_zero _).symm ((key _).trans ?_) ((key _).trans ?_) ((key _).trans ?_) (add_zero _).symm
    · simp [hprov, Books.flows, Flows.add]
    · simp [hprov, hst, succeededRefund, Books.flows, Flows.add]
    · simp [hprov, hst, succeededRefund, Books.flows, Flows.add]
  · simp only [hproj, if_false, add_zero] at key
    rw [if_neg hproj, Flows.add_none]
    exact Flows.ext rfl (key _) (key _) (key _) rfl

end Flows

/-! ## Conservation -/

theorem Registry.conserved {b b' : Books} (g : Registry b b') (links : b.Linked) (h : b.Conserved) : b'.Conserved := by
  have ledger : ∀ x l, b'.ledgerSum x l = b.ledgerSum x l := fun x l => by unfold Books.ledgerSum; rw [g.entries]
  have payers : ∀ p ∈ b.payments, b'.payer p = b.payer p := by
    intro p hp
    obtain ⟨o, ho, -⟩ := links.payments p hp
    unfold Books.payer
    rw [ho, g.orders _ o ho]
  have flows := flows_congr links payers g.payments g.refunds g.usageEvents
  intro a ha l
  rw [ledger, flows]
  rcases g.newAccounts a ha with ho | ⟨-, hn⟩
  · exact h a ho l
  · -- a new account: no row belongs to its project or to its id yet
    by_cases ho : a ∈ b.accounts
    · exact h a ho l
    · have other : ∀ x ∈ b.accounts, x ≠ a := fun x hx e => ho (e ▸ hx)
      have nothing : b.ledgerSum a.id l = 0 :=
        ledgerSum_of_unlinked links (fun x hx e => other x hx (Table.eq_of_key (g.accounts x hx) ha e)) l
      rw [flows_of_unlinked links fun x hx e => other x hx (hn x (g.accounts x hx) e), nothing, Flows.expected_none]

/-- Moves of reservations alone, and changes of policy, leave both sides. -/
theorem Books.Conserved.frame {b b' : Books} (h : b.Conserved) (links : b.Linked)
    (accounts : ∀ a ∈ b'.accounts, ∃ x ∈ b.accounts, x.id = a.id ∧ x.projectId = a.projectId)
    (entries : b'.entries = b.entries) (orders : b'.orders = b.orders) (payments : b'.payments = b.payments)
    (refunds : b'.refunds = b.refunds) (usage : b'.usageEvents = b.usageEvents) : b'.Conserved := by
  intro a ha l
  obtain ⟨x, hx, hid, hp⟩ := accounts a ha
  have flows : b'.flows a.projectId = b.flows a.projectId :=
    flows_congr links (fun p _ => by unfold Books.payer; rw [orders]) payments refunds usage a.projectId
  rw [flows, ← hid, ← hp, ← h x hx l]
  unfold Books.ledgerSum
  rw [entries]

/-- What a charge adds to each ledger account. -/
theorem Charged.ledgerSum {call : Call} {a : BillingAccount} {amount : Int} {p : Posting} {b b' : Books}
    (h : Charged call a amount p b b') (hn : 0 ≤ amount) (hd : p.customerDelta = -amount)
    (hc : p.counterAccount = .usageRevenue) (x : String) (l : LedgerAccount) :
    b'.ledgerSum x l = b.ledgerSum x l + if x = a.id then (⟨0, 0, 0, 0, amount⟩ : Flows).expected l else 0 := by
  have effect : (⟨0, 0, 0, 0, amount⟩ : Flows).expected l = p.effect l := by
    unfold Posting.effect
    rw [hd, hc]
    cases l <;> simp [Flows.expected]
  rw [effect]
  rcases h with ⟨-, h⟩ | ⟨hz, rfl⟩
  · exact h.ledgerSum x l
  · have : amount = 0 := by omega
    subst this
    rw [← effect]
    cases l <;> simp [Flows.expected]

theorem Move.conserved {k : Kind} {b b' : Books} (m : Move k b b') (s : b.Sound) (o : b.Owned) (links : b.Linked)
    (h : b.Conserved) : b'.Conserved := by
  cases m with
  | registry g => exact g.conserved links h
  | policy a ha flag =>
    refine h.frame links (fun x hx => ?_) rfl rfl rfl rfl rfl
    rcases Table.mem_put.1 hx with ⟨hx, -⟩ | ⟨rfl, -⟩
    · exact ⟨x, hx, rfl, rfl⟩
    · exact ⟨a, ha, rfl, rfl⟩
  | settle call a r request amount us ha hp hr hs wf hin hout cost funds hi post =>
    have ledger := post.ledgerSum (cost_nonneg (s.reservations r hr).1 cost) rfl rfl
    obtain ⟨ts, es, rfl⟩ := post.eq
    refine h.move o ha rfl ledger fun project => ?_
    rw [hp]; exact flows_usage hi project
  | usage call a e cost us ha hp unreserved priced funds hi post =>
    have hn : 0 ≤ cost := by
      rcases priced with rfl | ⟨row, hrow, hcost⟩
      · exact le_rfl
      · exact cost_nonneg (s.prices row hrow) hcost
    have ledger := post.ledgerSum hn rfl rfl
    obtain ⟨ts, es, rfl⟩ := post.eq
    refine h.move o ha rfl ledger fun project => ?_
    rw [hp]; exact flows_usage hi project
  | topUp call a o' id provider reference currency key description ps ha hp ho hpend hfit hi post =>
    have effect : ∀ l, (topUpPosting o' id key description (o'.amount * microsPerMinorUnit)).effect l =
        (⟨o'.amount, 0, 0, 0, 0⟩ : Flows).expected l := by
      intro l
      cases l <;> simp [Posting.effect, topUpPosting, Flows.expected, mul_comm]
    have ledger := post.ledgerSum
    obtain ⟨ts, es, rfl⟩ := post.eq
    refine h.move o ha rfl (fun x l => (ledger x l).trans (by rw [effect]; rfl)) fun project => ?_
    rw [hp]; exact flows_payment links hi ho rfl rfl project
  | refund call a o' p row key description rs ha hp ho hpay hprov hrow hst hpos le limit funds hi post =>
    have effect : ∀ l, (refundPosting o'.tenantId row.id key description .refund (row.amount * microsPerMinorUnit)
        .cashClearing).effect l = (⟨0, row.amount, 0, 0, 0⟩ : Flows).expected l := by
      intro l
      cases l <;> simp [Posting.effect, refundPosting, Flows.expected, mul_comm]
    have ledger := post.ledgerSum
    obtain ⟨ts, es, rfl⟩ := post.eq
    refine h.move o ha rfl (fun x l => (ledger x l).trans (by rw [effect]; rfl)) fun project => ?_
    have flows := flows_refund hi (by rw [hrow]; exact Table.get?_of_mem hpay) ho project
    simp only [hprov, bne_iff_ne, ne_eq, not_false_eq_true, if_true, beq_iff_eq, Bool.and_eq_true, false_and,
      if_false] at flows
    rw [hp]; exact flows
  | prepare call a o' p row key description rs ha hp ho hpay hprov hrow hst hpos limit funds hi post =>
    have effect : ∀ l, (refundPosting o'.tenantId row.id key description .refundPending
      (row.amount * microsPerMinorUnit)
        .refundPending).effect l = (⟨0, 0, row.amount, 0, 0⟩ : Flows).expected l := by
      intro l
      cases l <;> simp [Posting.effect, refundPosting, Flows.expected, mul_comm]
    have ledger := post.ledgerSum
    obtain ⟨ts, es, rfl⟩ := post.eq
    refine h.move o ha rfl (fun x l => (ledger x l).trans (by rw [effect]; rfl)) fun project => ?_
    have flows := flows_refund hi (by rw [hrow]; exact Table.get?_of_mem hpay) ho project
    simp only [hprov, hst, bne_self_eq_false, beq_self_eq_true, Bool.and_self, if_true, Bool.false_eq_true, if_false,
      Bool.true_and, show (TransferStatus.pending == TransferStatus.succeeded) = false from rfl] at flows
    rw [hp]; exact flows
  | complete call a o' p row trade ha hp ho hpay hprov hrow hpid hst post =>
    have sum := Journal.sum post
    obtain ⟨ts, es, rfl⟩ := post.eq
    -- the amount goes from the pending refunds to the succeeded ones, and the entries with it
    refine h.move (f := ⟨0, 0, -row.amount, row.amount, 0⟩) o ha rfl (fun x l => ?_) fun project => ?_
    · show es.sumWhere _ _ = b.ledgerSum x l + if x = a.id then
        (⟨0, 0, -row.amount, row.amount, 0⟩ : Flows).expected l else 0
      unfold Books.ledgerSum
      rw [sum]
      by_cases hx : x = a.id
      · cases l <;> simp [clearingEntry, hx, Flows.expected, mul_comm]
      · simp [clearingEntry, hx, Ne.symm hx]
    · rw [hp]
      exact flows_complete hrow hst (by rw [hpid]; exact Table.get?_of_mem hpay) hprov ho project
  | _ =>
    exact h.frame links (fun x hx => ⟨x, hx, rfl, rfl⟩) rfl rfl rfl rfl rfl

/-! ## Runs -/

theorem Moves.conserved {ks : List Kind} {b b' : Books} (h : Moves ks b b') (s : b.Sound) (o : b.Owned)
    (links : b.Linked) (hb : b.Conserved) : b'.Conserved := by
  refine (h.keeps (I := fun b => (b.Sound ∧ b.Owned) ∧ b.Linked ∧ b.Conserved) ?_ ⟨⟨s, o⟩, links, hb⟩).2.2
  rintro k - b b' m ⟨⟨s, o⟩, links, hb⟩
  exact ⟨⟨m.sound s, m.owned o⟩, m.linked links, m.conserved s o links hb⟩

theorem Books.Linked.empty : Db.empty.books.Linked :=
  ⟨fun e h => absurd h (Table.not_mem_empty e), fun p h => absurd h (Table.not_mem_empty p),
    fun r h => absurd h (Table.not_mem_empty r), fun u h => absurd h (Table.not_mem_empty u)⟩

/-- In every reachable database the entries of each ledger transaction sum to zero, and the ledger
of each account is what was paid, refunded and used through its project. -/
theorem Op.runAll_conserved (digests : Digests) (ops : List Op) :
    let b := (Op.runAll digests ops Db.empty).books
    (∀ t ∈ b.transactions, ((b.entriesOf t.id).map (·.amountMicrounits)).sum = 0) ∧
    ∀ a ∈ b.accounts,
      let f := b.flows a.projectId
      b.ledgerSum a.id .customerBalance = microsPerMinorUnit * (f.paid - f.manual - f.pending - f.settled) - f.usage ∧
      b.ledgerSum a.id .usageRevenue = f.usage ∧
      b.ledgerSum a.id .refundPending = microsPerMinorUnit * f.pending ∧
      b.ledgerSum a.id .cashClearing = -(microsPerMinorUnit * (f.paid - f.manual - f.settled)) := by
  intro b
  have conserved : b.Conserved := (Op.runAll_moves digests ops Good.empty).moves.conserved Books.Sound.empty
    Good.empty.owned Books.Linked.empty fun a h => absurd h (Table.not_mem_empty a)
  exact ⟨(Op.runAll_balanced digests ops).zero,
    fun a ha => ⟨conserved a ha .customerBalance, conserved a ha .usageRevenue, conserved a ha .refundPending,
      conserved a ha .cashClearing⟩⟩

end Xscope

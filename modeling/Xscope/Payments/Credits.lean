/-
Orders and refunds over a run. The customer entries posted for a payment or a refund are written
with it and never again; an order is paid by exactly one payment, credited once; the refunds of a
payment stay within it, and each is debited once, when it is created.
-/
import Xscope.Payments.Conservation

namespace Xscope

/-! ## What is posted for a payment or a refund -/

/-- The transaction refers to a payment or a refund. -/
def LedgerTransaction.refersTo (t : LedgerTransaction) (type : ReferenceType) (id : String) : Bool :=
  t.referenceType == type && t.referenceId == id

/-- The entries on a customer's balance that a payment or a refund was posted with. -/
def Books.postedFor (b : Books) (type : ReferenceType) (id : String) : List LedgerEntry :=
  b.entries.select fun e => e.ledgerAccount == .customerBalance &&
    b.transactions.rows.any fun t => t.id == e.transactionId && t.refersTo type id

/-- What a ledger transaction can refer to. -/
def Books.Knows (b : Books) : ReferenceType → String → Prop
  | .usageEvent, _ => True
  | .payment, id => ∃ p ∈ b.payments, p.id = id
  | .refund, id => ∃ r ∈ b.refunds, r.id = id

/-- Every ledger transaction refers to something that is there. -/
def Books.Referenced (b : Books) : Prop := ∀ t ∈ b.transactions, b.Knows t.referenceType t.referenceId

section Posted

variable {b b' : Books}

theorem postedFor_congr (ht : b'.transactions = b.transactions) (he : b'.entries = b.entries) (type : ReferenceType)
    (id : String) : b'.postedFor type id = b.postedFor type id := by
  unfold Books.postedFor
  rw [ht, he]

/-- Nothing is posted for what is not there. -/
theorem Books.Referenced.unknown (h : b.Referenced) {type : ReferenceType} {id : String} (hn : ¬b.Knows type id) :
    b.postedFor type id = [] := by
  refine Table.select_nil_iff.2 fun e _ => ?_
  rw [Bool.and_eq_false_iff]
  right
  rw [List.any_eq_false]
  intro t ht hp
  simp only [LedgerTransaction.refersTo, Bool.and_eq_true, beq_iff_eq] at hp
  obtain ⟨-, rfl, rfl⟩ := hp
  exact hn (h t ht)

/-- A journal posts its own entries for what its transaction refers to, and nothing else. -/
theorem postedFor_insert (bal : b.Balanced) {txn : LedgerTransaction} {e₁ e₂ : LedgerEntry} {es : Table LedgerEntry}
    (ht : b.transactions.insert? txn = some b'.transactions) (h1 : b.entries.insert? e₁ = some es)
    (h2 : es.insert? e₂ = some b'.entries) (owner₁ : e₁.transactionId = txn.id) (owner₂ : e₂.transactionId = txn.id)
    (type : ReferenceType) (id : String) :
    b'.postedFor type id =
      (if txn.refersTo type id then [e₂, e₁].filter (·.ledgerAccount == .customerBalance) else []) ++
        b.postedFor type id := by
  have fresh : ∀ t ∈ b.transactions, t.id ≠ txn.id := Table.get?_none_iff.1 (Table.insert?_some ht).1
  have rows : b'.transactions.rows = txn :: b.transactions.rows := (Table.insert?_some ht).2
  -- the entries of the journal are found through its transaction only
  have own : ∀ e : LedgerEntry, e.transactionId = txn.id →
      b'.transactions.rows.any (fun t => t.id == e.transactionId && t.refersTo type id) = txn.refersTo type id := by
    intro e he
    have none : b.transactions.rows.any (fun t => t.id == e.transactionId && t.refersTo type id) = false := by
      rw [List.any_eq_false]
      intro t hm hp
      simp only [Bool.and_eq_true, beq_iff_eq] at hp
      exact fresh t hm (hp.1.trans he)
    rw [rows, List.any_cons, none, he]
    simp
  -- the others through an old one
  have old : ∀ e ∈ b.entries, b'.transactions.rows.any (fun t => t.id == e.transactionId && t.refersTo type id) =
      b.transactions.rows.any (fun t => t.id == e.transactionId && t.refersTo type id) := by
    intro e he
    obtain ⟨t, hm, hid⟩ := bal.owned e he
    have hne : (txn.id == e.transactionId) = false := by
      rw [beq_eq_false_iff_ne, ← hid]
      exact (fresh t hm).symm
    rw [rows, List.any_cons, hne]
    simp
  have rest : b.entries.select (fun e => e.ledgerAccount == .customerBalance &&
      b'.transactions.rows.any fun t => t.id == e.transactionId && t.refersTo type id) = b.postedFor type id := by
    unfold Books.postedFor Table.select
    exact List.filter_congr fun e he => by rw [old e he]
  show b'.entries.select _ = _
  rw [Table.select_insert? h2, Table.select_insert? h1, rest, own e₁ owner₁, own e₂ owner₂]
  cases txn.refersTo type id
  · simp
  · simp only [Bool.and_true, if_true, List.filter_cons, List.filter_nil]
    split <;> split <;> rfl

/-- A posting posts its customer entry. -/
theorem Posted.postedFor {call : Call} {a : BillingAccount} {p : Posting} (h : Posted call a p b b') (bal : b.Balanced)
    (hc : p.counterAccount ≠ .customerBalance) (type : ReferenceType) (id : String) :
    b'.postedFor type id = (if p.referenceType = type ∧ p.referenceId = id then [p.customerEntry call a] else []) ++
      b.postedFor type id := by
  obtain ⟨ts, es, es', ht, h1, h2, rfl⟩ := h.inserted
  rw [postedFor_insert bal ht h1 h2 rfl rfl]
  have refers : (p.transaction call a).refersTo type id = true ↔ p.referenceType = type ∧ p.referenceId = id := by
    simp [LedgerTransaction.refersTo, Posting.transaction]
  have entries : [p.counterEntry call a, p.customerEntry call a].filter (·.ledgerAccount == .customerBalance) =
      [p.customerEntry call a] := by
    simp [Posting.counterEntry, Posting.customerEntry, hc]
  rw [entries]
  by_cases hr : p.referenceType = type ∧ p.referenceId = id
  · rw [if_pos (refers.2 hr), if_pos hr]
  · rw [if_neg fun e => hr (refers.1 e), if_neg hr]

theorem Charged.postedFor {call : Call} {a : BillingAccount} {amount : Int} {p : Posting}
    (h : Charged call a amount p b b') (bal : b.Balanced) (hc : p.counterAccount ≠ .customerBalance)
    {type : ReferenceType} (ht : p.referenceType ≠ type) (id : String) :
    b'.postedFor type id = b.postedFor type id := by
  rcases h with ⟨-, h⟩ | ⟨-, rfl⟩
  · rw [h.postedFor bal hc, if_neg fun e => ht e.1, List.nil_append]
  · rfl

/-- The clearing of a refund posts nothing to the customer. -/
theorem clearing_postedFor {call : Call} {a : BillingAccount} {o : BillingOrder} {row : Refund}
    (h : Journal (clearingTransaction call o row)
      (clearingEntry call a row call.customerUuid .refundPending (-(row.amount * microsPerMinorUnit)))
      (clearingEntry call a row call.counterUuid .cashClearing (row.amount * microsPerMinorUnit)) b b')
    (bal : b.Balanced) (type : ReferenceType) (id : String) : b'.postedFor type id = b.postedFor type id := by
  obtain ⟨ts, es, es', ht, h1, h2, rfl⟩ := h.inserted
  rw [postedFor_insert bal ht h1 h2 rfl rfl]
  simp [clearingEntry]

/-- The transactions of a journal beside those that were there. -/
theorem Journal.transaction {txn t : LedgerTransaction} {e₁ e₂ : LedgerEntry} (h : Journal txn e₁ e₂ b b')
    (ht : t ∈ b'.transactions) : t = txn ∨ t ∈ b.transactions := by
  obtain ⟨ts, es, es', hi, -, -, rfl⟩ := h.inserted
  exact (Table.mem_insert? hi).1 ht

theorem Charged.transaction {call : Call} {a : BillingAccount} {amount : Int} {p : Posting} {t : LedgerTransaction}
    (h : Charged call a amount p b b') (ht : t ∈ b'.transactions) : t = p.transaction call a ∨ t ∈ b.transactions := by
  rcases h with ⟨-, h⟩ | ⟨-, rfl⟩
  · exact Journal.transaction h ht
  · exact .inr ht

/-- What is there stays there. -/
theorem Books.Referenced.mono (h : b.Referenced) (payments : ∀ p ∈ b.payments, ∃ p' ∈ b'.payments, p'.id = p.id)
    (refunds : ∀ r ∈ b.refunds, ∃ r' ∈ b'.refunds, r'.id = r.id)
    (new : ∀ t ∈ b'.transactions, t ∈ b.transactions ∨ b'.Knows t.referenceType t.referenceId) : b'.Referenced := by
  intro t ht
  refine (new t ht).elim (fun ht => ?_) id
  have known := h t ht
  generalize t.referenceType = type at known ⊢
  generalize t.referenceId = id at known ⊢
  cases type with
  | usageEvent => trivial
  | payment =>
    obtain ⟨p, hp, rfl⟩ := known
    exact payments p hp
  | refund =>
    obtain ⟨r, hr, rfl⟩ := known
    exact refunds r hr

end Posted

/-- The refunds that were there are there, under their ids. -/
theorem put_refund {b : Books} {row row' : Refund} (hrow : row ∈ b.refunds) (hid : row'.id = row.id) :
    ∀ r ∈ b.refunds, ∃ r' ∈ b.refunds.put row', r'.id = r.id := by
  intro r hr
  by_cases he : r.id = row.id
  · exact ⟨row', Table.mem_put.2 (.inr ⟨rfl, row, hrow, hid.symm⟩), hid.trans he.symm⟩
  · exact ⟨r, Table.mem_put.2 (.inl ⟨hr, fun e => he (e.trans hid)⟩), rfl⟩

theorem Move.referenced {k : Kind} {b b' : Books} (m : Move k b b') (h : b.Referenced) : b'.Referenced := by
  have samep : ∀ p ∈ b.payments, ∃ p' ∈ b.payments, p'.id = p.id := fun p hp => ⟨p, hp, rfl⟩
  have samer : ∀ r ∈ b.refunds, ∃ r' ∈ b.refunds, r'.id = r.id := fun r hr => ⟨r, hr, rfl⟩
  -- each posting refers to the row that is written with it
  cases m with
  | registry g =>
    refine h.mono ?_ ?_ fun t ht => .inl (by rw [← g.transactions]; exact ht)
    · rw [g.payments]; exact samep
    · rw [g.refunds]; exact samer
  | settle call a r request amount us ha hp hr hs wf hin hout cost funds hi post =>
    have new := fun t => post.transaction (t := t)
    obtain ⟨ts, es, rfl⟩ := post.eq
    refine h.mono samep samer fun t ht => ?_
    rcases new t ht with rfl | ht
    · exact .inr trivial
    · exact .inl ht
  | usage call a e cost us ha hp unreserved priced funds hi post =>
    have new := fun t => post.transaction (t := t)
    obtain ⟨ts, es, rfl⟩ := post.eq
    refine h.mono samep samer fun t ht => ?_
    rcases new t ht with rfl | ht
    · exact .inr trivial
    · exact .inl ht
  | topUp call a o id provider reference currency key description ps ha hp ho hpend hfit hi post =>
    have new := fun t => Journal.transaction (t := t) post
    obtain ⟨ts, es, rfl⟩ := post.eq
    refine h.mono (fun p hp => ⟨p, (Table.mem_insert? hi).2 (.inr hp), rfl⟩) samer fun t ht => ?_
    rcases new t ht with rfl | ht
    · exact .inr ⟨_, (Table.mem_insert? hi).2 (.inl rfl), rfl⟩
    · exact .inl ht
  | refund call a o p row key description rs ha hp ho hpay hprov hrow hst hpos le limit funds hi post =>
    have new := fun t => Journal.transaction (t := t) post
    obtain ⟨ts, es, rfl⟩ := post.eq
    refine h.mono samep (fun r hr => ⟨r, (Table.mem_insert? hi).2 (.inr hr), rfl⟩) fun t ht => ?_
    rcases new t ht with rfl | ht
    · exact .inr ⟨row, (Table.mem_insert? hi).2 (.inl rfl), rfl⟩
    · exact .inl ht
  | prepare call a o p row key description rs ha hp ho hpay hprov hrow hst hpos limit funds hi post =>
    have new := fun t => Journal.transaction (t := t) post
    obtain ⟨ts, es, rfl⟩ := post.eq
    refine h.mono samep (fun r hr => ⟨r, (Table.mem_insert? hi).2 (.inr hr), rfl⟩) fun t ht => ?_
    rcases new t ht with rfl | ht
    · exact .inr ⟨row, (Table.mem_insert? hi).2 (.inl rfl), rfl⟩
    · exact .inl ht
  | complete call a o p row trade ha hp ho hpay hprov hrow hpid hst post =>
    have new := fun t => Journal.transaction (t := t) post
    obtain ⟨ts, es, rfl⟩ := post.eq
    have kept : ∀ r ∈ b.refunds, ∃ r' ∈ b.refunds.put (succeededRefund call.now row trade), r'.id = r.id :=
      put_refund hrow rfl
    refine h.mono samep kept fun t ht => ?_
    rcases new t ht with rfl | ht
    · exact .inr (kept row hrow)
    · exact .inl ht
  | _ => exact h.mono samep samer fun t ht => .inl ht

/-- The customer entries of a payment or a refund are written when it is created, and stay. -/
theorem Move.posted {k : Kind} {b b' : Books} (m : Move k b b') (bal : b.Balanced) {type : ReferenceType}
    (ht : type ≠ .usageEvent) {id : String} (known : b.Knows type id) : b'.postedFor type id = b.postedFor type id := by
  cases m with
  | registry g => exact postedFor_congr g.transactions g.entries type id
  | settle call a r request amount us ha hp hr hs wf hin hout cost funds hi post =>
    exact post.postedFor (bal.congr rfl rfl) (by simp [settledPosting]) (Ne.symm ht) id
  | usage call a e cost us ha hp unreserved priced funds hi post =>
    exact post.postedFor (bal.congr rfl rfl) (by simp [recordedPosting]) (Ne.symm ht) id
  | topUp call a o pid provider reference currency key description ps ha hp ho hpend hfit hi post =>
    rw [post.postedFor (bal.congr rfl rfl) (by simp [topUpPosting]), if_neg, List.nil_append]
    · exact postedFor_congr rfl rfl type id
    · -- the payment of this posting was not there
      rintro ⟨rfl, rfl⟩
      obtain ⟨p, hp, hid⟩ := known
      exact Table.get?_none_iff.1 (Table.insert?_some hi).1 p hp hid
  | refund call a o p row key description rs ha hp ho hpay hprov hrow hst hpos le limit funds hi post =>
    rw [post.postedFor (bal.congr rfl rfl) (by simp [refundPosting]), if_neg, List.nil_append]
    · exact postedFor_congr rfl rfl type id
    · rintro ⟨rfl, rfl⟩
      obtain ⟨r, hr, hid⟩ := known
      exact Table.get?_none_iff.1 (Table.insert?_some hi).1 r hr hid
  | prepare call a o p row key description rs ha hp ho hpay hprov hrow hst hpos limit funds hi post =>
    rw [post.postedFor (bal.congr rfl rfl) (by simp [refundPosting]), if_neg, List.nil_append]
    · exact postedFor_congr rfl rfl type id
    · rintro ⟨rfl, rfl⟩
      obtain ⟨r, hr, hid⟩ := known
      exact Table.get?_none_iff.1 (Table.insert?_some hi).1 r hr hid
  | complete call a o p row trade ha hp ho hpay hprov hrow hpid hst post =>
    exact clearing_postedFor post (bal.congr rfl rfl) type id
  | _ => rfl

/-! ## Orders -/

/-- The payments of an order. -/
def Books.paymentsOf (b : Books) (order : String) : List Payment := b.payments.select fun p => p.orderId == order

/-- What was credited to customers for an order. -/
def Books.credited (b : Books) (order : String) : Int :=
  ((b.paymentsOf order).map fun p => ((b.postedFor .payment p.id).map (·.amountMicrounits)).sum).sum

/-- A pending order has no payment; a paid one has one, credited with its amount once. -/
structure Books.Credits (b : Books) : Prop where
  succeeded : ∀ p ∈ b.payments, p.status = .succeeded
  pending : ∀ o ∈ b.orders, o.status = .pending → b.paymentsOf o.id = []
  paid : ∀ o ∈ b.orders, o.status = .paid → ∃ p, b.paymentsOf o.id = [p] ∧
    (b.postedFor .payment p.id).map (·.amountMicrounits) = [o.amount * microsPerMinorUnit]

section Orders

variable {b b' : Books}

/-- The payments stay, and new orders are pending. -/
theorem Books.Credits.frame (h : b.Credits) (payments : b'.payments = b.payments)
    (orders : ∀ o ∈ b'.orders, o ∈ b.orders ∨ (o.status = .pending ∧ b.paymentsOf o.id = []))
    (posted : ∀ p ∈ b.payments, b'.postedFor .payment p.id = b.postedFor .payment p.id) : b'.Credits := by
  have same : ∀ id, b'.paymentsOf id = b.paymentsOf id := fun id => by unfold Books.paymentsOf; rw [payments]
  refine ⟨by rw [payments]; exact h.succeeded, fun o ho hs => ?_, fun o ho hs => ?_⟩
  · rw [same]
    rcases orders o ho with ho | ⟨-, hn⟩
    · exact h.pending o ho hs
    · exact hn
  · rw [same]
    rcases orders o ho with ho | ⟨hp, -⟩
    · obtain ⟨p, hp, amounts⟩ := h.paid o ho hs
      have hm : p ∈ b.payments := by
        have : p ∈ b.paymentsOf o.id := by rw [hp]; exact List.mem_singleton_self p
        exact (List.mem_filter.1 this).1
      exact ⟨p, hp, by rw [posted p hm]; exact amounts⟩
    · rw [hs] at hp; cases hp

/-- An order that is not there has no payments. -/
theorem Books.Linked.unpaid (links : b.Linked) {id : String}
    (hn : ∀ o ∈ b.orders, o.id ≠ id) : b.paymentsOf id = [] := by
  refine Table.select_nil_iff.2 fun p hp => ?_
  obtain ⟨o, ho, -⟩ := links.payments p hp
  rw [beq_eq_false_iff_ne]
  intro e
  exact hn o (Table.get?_mem ho) ((Table.get?_key ho).trans e)

/-- A registry change adds pending orders without payments. -/
theorem Registry.credits (g : Registry b b') (links : b.Linked) (h : b.Credits) : b'.Credits := by
  refine h.frame g.payments (fun o ho => ?_) fun p _ => postedFor_congr g.transactions g.entries .payment p.id
  by_cases hm : o ∈ b.orders
  · exact .inl hm
  · obtain ⟨-, hp⟩ := (g.newOrders o ho).resolve_left hm
    refine .inr ⟨hp, links.unpaid fun x hx e => hm ?_⟩
    have kept := Table.get?_mem (g.orders x.id x (Table.get?_of_mem hx))
    rw [← Table.eq_of_key kept ho e]
    exact hx

theorem Move.credits {k : Kind} {b b' : Books} (m : Move k b b') (bal : b.Balanced) (links : b.Linked)
    (ref : b.Referenced) (h : b.Credits) : b'.Credits := by
  have kept : ∀ p ∈ b.payments, b'.postedFor .payment p.id = b.postedFor .payment p.id :=
    fun p hp => m.posted bal (by simp) ⟨p, hp, rfl⟩
  have same : ∀ o ∈ b.orders, o ∈ b.orders ∨ (o.status = .pending ∧ b.paymentsOf o.id = []) := fun o ho => .inl ho
  cases m with
  | registry g => exact g.credits links h
  | topUp call a o id provider reference currency key description ps ha hp ho hpend hfit hi post =>
    have fresh : ∀ p ∈ b.payments, p.id ≠ id := Table.get?_none_iff.1 (Table.insert?_some hi).1
    -- the payment is new, so nothing was posted for it
    have unknown : ¬b.Knows .payment id := fun ⟨p, hp, hid⟩ => fresh p hp hid
    have none : b.postedFor .payment id = [] := ref.unknown unknown
    have posted := post.postedFor (bal.congr rfl rfl) (by simp [topUpPosting]) .payment id
    rw [if_pos ⟨rfl, rfl⟩] at posted
    change b'.postedFor .payment id = _ ++ b.postedFor .payment id at posted
    rw [none] at posted
    obtain ⟨ts, es, rfl⟩ := post.eq
    have payments : ∀ x, ps.select (fun p => p.orderId == x) =
        if o.id = x then newPayment call.now id o provider reference currency :: b.paymentsOf x
          else b.paymentsOf x := by
      intro x
      rw [Table.select_insert? hi]
      simp [newPayment, Books.paymentsOf]
    refine ⟨fun p hp => ?_, fun x hx hs => ?_, fun x hx hs => ?_⟩
    · rcases (Table.mem_insert? hi).1 hp with rfl | hp
      · rfl
      · exact h.succeeded p hp
    · rcases Table.mem_put.1 hx with ⟨hx, hne⟩ | ⟨rfl, -⟩
      · exact (payments x.id).trans ((if_neg fun e => hne e.symm).trans (h.pending x hx hs))
      · cases hs
    · rcases Table.mem_put.1 hx with ⟨hx, hne⟩ | ⟨rfl, -⟩
      · obtain ⟨p, hp, amounts⟩ := h.paid x hx hs
        have hm : p ∈ b.payments := by
          have : p ∈ b.paymentsOf x.id := by rw [hp]; exact List.mem_singleton_self p
          exact (List.mem_filter.1 this).1
        exact ⟨p, (payments x.id).trans ((if_neg fun e => hne e.symm).trans hp), by rw [kept p hm]; exact amounts⟩
      · -- the order that is paid here had no payment before
        refine ⟨_, (payments o.id).trans ((if_pos rfl).trans (by rw [h.pending o ho hpend])), ?_⟩
        show (Books.postedFor _ .payment id).map _ = _
        rw [posted]
        rfl
  | settle call a r request amount us ha hp hr hs wf hin hout cost funds hi post =>
    obtain ⟨ts, es, rfl⟩ := post.eq; exact h.frame rfl same kept
  | usage call a e cost us ha hp unreserved priced funds hi post =>
    obtain ⟨ts, es, rfl⟩ := post.eq; exact h.frame rfl same kept
  | refund call a o p row key description rs ha hp ho hpay hprov hrow hst hpos le limit funds hi post =>
    obtain ⟨ts, es, rfl⟩ := post.eq; exact h.frame rfl same kept
  | prepare call a o p row key description rs ha hp ho hpay hprov hrow hst hpos limit funds hi post =>
    obtain ⟨ts, es, rfl⟩ := post.eq; exact h.frame rfl same kept
  | complete call a o p row trade ha hp ho hpay hprov hrow hpid hst post =>
    obtain ⟨ts, es, rfl⟩ := post.eq; exact h.frame rfl same kept
  | _ => exact h.frame rfl same kept

/-- A paid order stays as it is. -/
theorem Move.paid {k : Kind} {b b' : Books} (m : Move k b b') {o : BillingOrder} (ho : o ∈ b.orders)
    (hs : o.status = .paid) :
    o ∈ b'.orders := by
  cases m with
  | registry g => exact Table.get?_mem (g.orders o.id o (Table.get?_of_mem ho))
  | topUp call a o' id provider reference currency key description ps ha hp ho' hpend hfit hi post =>
    obtain ⟨ts, es, rfl⟩ := post.eq
    refine Table.mem_put.2 (.inl ⟨ho, fun e => ?_⟩)
    -- the order paid by this move was pending
    have := Table.eq_of_key ho ho' e
    subst this
    rw [hs] at hpend; cases hpend
  | settle call a r request amount us ha hp hr hst wf hin hout cost funds hi post =>
    obtain ⟨ts, es, rfl⟩ := post.eq; exact ho
  | usage call a e cost us ha hp unreserved priced funds hi post => obtain ⟨ts, es, rfl⟩ := post.eq; exact ho
  | refund call a o p row key description rs ha hp ho' hpay hprov hrow hst hpos le limit funds hi post =>
    obtain ⟨ts, es, rfl⟩ := post.eq; exact ho
  | prepare call a o p row key description rs ha hp ho' hpay hprov hrow hst hpos limit funds hi post =>
    obtain ⟨ts, es, rfl⟩ := post.eq; exact ho
  | complete call a o p row trade ha hp ho' hpay hprov hrow hpid hst post =>
    obtain ⟨ts, es, rfl⟩ := post.eq; exact ho
  | _ => exact ho

theorem Moves.paid {ks : List Kind} (h : Moves ks b b') {o : BillingOrder} (ho : o ∈ b.orders) (hs : o.status = .paid) :
    o ∈ b'.orders :=
  h.keeps (I := fun b => o ∈ b.orders) (fun _ _ _ _ m ho => m.paid ho hs) ho

/-- Under the invariant the credits of an order say whether it is paid. -/
theorem Books.Credits.credited (h : b.Credits) {o : BillingOrder} (ho : o ∈ b.orders) :
    b.credited o.id = if o.status = .paid then o.amount * microsPerMinorUnit else 0 := by
  unfold Books.credited
  cases hs : o.status with
  | pending => rw [h.pending o ho hs]; rfl
  | paid =>
    obtain ⟨p, hp, amounts⟩ := h.paid o ho hs
    rw [hp]
    simp [amounts]

theorem Books.Credits.payment (h : b.Credits) {o : BillingOrder} (ho : o ∈ b.orders) :
    o.status = .paid ↔
      ∃ p, b.payments.select (fun p => p.orderId == o.id && p.status == .succeeded) = [p] := by
  have all : b.payments.select (fun p => p.orderId == o.id && p.status == .succeeded) = b.paymentsOf o.id :=
    List.filter_congr fun p hp => by rw [h.succeeded p hp]; simp
  rw [all]
  constructor
  · intro hs
    obtain ⟨p, hp, -⟩ := h.paid o ho hs
    exact ⟨p, hp⟩
  · rintro ⟨p, hp⟩
    cases hs : o.status with
    | pending => rw [h.pending o ho hs] at hp; cases hp
    | paid => rfl

end Orders

/-- A trade observed outside of production leaves a receipt, and nothing else. -/
theorem acceptAlipayTrade_sandbox {digests : Digests} {call : Call} {provider : Alipay}
    {trade : VerifiedTrade} {db : Db} {r : TradeOutcome × Db} (hp : provider.environment ≠ "production")
    (h : acceptAlipayTrade digests call provider trade db = .ok r) :
    r.2.books = { db.books with receipts := r.2.books.receipts } ∧ r.2.projections = db.projections := by
  unfold acceptAlipayTrade at h
  simp only [findById_bind, Tx.expect_bind, Tx.reject_bind] at h
  obtain ⟨order, ho, checkout, -, -, h⟩ := h
  obtain ⟨_, s, h1, h2⟩ := Tx.bind_ok.1 h
  rw [if_pos hp] at h2
  cases Tx.pure_ok.1 h2
  unfold storeReceipt at h1
  rw [findById_bind] at h1
  cases hg : (Slot.receipts.get db).get? (digests.sha256 (provider.profile ++ ":" ++ order.id ++ ":" ++
    trade.proofSha256)) with
  | some existing =>
    rw [hg] at h1
    cases Tx.pure_ok.1 h1
    exact ⟨rfl, rfl⟩
  | none =>
    rw [hg] at h1
    obtain ⟨-, t, -, h1⟩ := insertRow_ok.1 h1
    cases h1
    exact ⟨rfl, rfl⟩

/-! ## Refunds -/

/-- `row` is `old` at a later moment: unchanged, or a pending refund that succeeded. -/
inductive Refund.Continues : Refund → Refund → Prop
  | same (r : Refund) : Continues r r
  | succeed (r : Refund) (now : Int) (trade : String) (h : r.status = .pending) :
      Continues r (succeededRefund now r trade)

theorem Refund.Continues.trans {a b c : Refund} (h1 : Refund.Continues a b) (h2 : Refund.Continues b c) :
    Refund.Continues a c := by
  cases h1 with
  | same => exact h2
  | succeed now trade h =>
    cases h2 with
    | same => exact .succeed a now trade h
    | succeed now' trade' h' => cases h'

/-- Every refund of `b` is still there in `b'`. -/
def RefundsKept (b b' : Books) : Prop := ∀ r ∈ b.refunds, ∃ r' ∈ b'.refunds, Refund.Continues r r'

theorem Move.refundsKept {k : Kind} {b b' : Books} (m : Move k b b') : RefundsKept b b' := by
  intro r hr
  cases m with
  | registry g => exact ⟨r, by rw [g.refunds]; exact hr, .same r⟩
  | refund call a o p row key description rs ha hp ho hpay hprov hrow hst hpos le limit funds hi post =>
    obtain ⟨ts, es, rfl⟩ := post.eq; exact ⟨r, (Table.mem_insert? hi).2 (.inr hr), .same r⟩
  | prepare call a o p row key description rs ha hp ho hpay hprov hrow hst hpos limit funds hi post =>
    obtain ⟨ts, es, rfl⟩ := post.eq; exact ⟨r, (Table.mem_insert? hi).2 (.inr hr), .same r⟩
  | complete call a o p row trade ha hp ho hpay hprov hrow hpid hst post =>
    obtain ⟨ts, es, rfl⟩ := post.eq
    by_cases hid : r.id = row.id
    · have := Table.eq_of_key hr hrow hid
      subst this
      exact ⟨_, Table.mem_put.2 (.inr ⟨rfl, r, hr, rfl⟩), .succeed r call.now trade hst⟩
    · exact ⟨r, Table.mem_put.2 (.inl ⟨hr, hid⟩), .same r⟩
  | settle call a r request amount us ha hp hr' hs wf hin hout cost funds hi post =>
    obtain ⟨ts, es, rfl⟩ := post.eq; exact ⟨_, hr, .same _⟩
  | usage call a e cost us ha hp unreserved priced funds hi post =>
    obtain ⟨ts, es, rfl⟩ := post.eq; exact ⟨_, hr, .same _⟩
  | topUp call a o id provider reference currency key description ps ha hp ho hpend hfit hi post =>
    obtain ⟨ts, es, rfl⟩ := post.eq; exact ⟨_, hr, .same _⟩
  | _ => exact ⟨r, hr, .same r⟩

theorem Moves.refundsKept {ks : List Kind} {b b' : Books} (h : Moves ks b b') : RefundsKept b b' := by
  refine h.keeps (I := RefundsKept b) (fun k _ x x' m hx r hr => ?_) fun r hr => ⟨r, hr, .same r⟩
  obtain ⟨r', hr', c⟩ := hx r hr
  obtain ⟨r'', hr'', c'⟩ := m.refundsKept r' hr'
  exact ⟨r'', hr'', c.trans c'⟩

/-- The refunds of a payment stay within it, only Alipay refunds are pending, and each refund was
debited once. -/
structure Books.Refunds (b : Books) : Prop where
  payments : ∀ p ∈ b.payments, 0 < p.amount ∧ Fits (p.amount * microsPerMinorUnit)
  positive : ∀ r ∈ b.refunds, 0 < r.amount
  pending : ∀ r ∈ b.refunds, r.status = .pending → ∀ p ∈ b.payments, p.id = r.paymentId → p.provider = "alipay"
  limit : ∀ p ∈ b.payments, b.refunded p.id [.pending, .succeeded] ≤ p.amount
  debited : ∀ r ∈ b.refunds,
    (b.postedFor .refund r.id).map (·.amountMicrounits) = [-(r.amount * microsPerMinorUnit)]

section Refunds

variable {b b' : Books}

theorem refunded_insert {rs : Table Refund} {row : Refund} (hi : b.refunds.insert? row = some rs) (id : String)
    (states : List TransferStatus) : ({ b with refunds := rs } : Books).refunded id states =
      b.refunded id states + if row.paymentId = id ∧ row.status ∈ states then row.amount else 0 := by
  show rs.sumWhere _ _ = _
  rw [Table.sumWhere_insert? hi]
  simp [Books.refunded]

/-- Moves beside payments and refunds. -/
theorem Books.Refunds.frame (h : b.Refunds) (payments : b'.payments = b.payments) (refunds : b'.refunds = b.refunds)
    (posted : ∀ r ∈ b.refunds, b'.postedFor .refund r.id = b.postedFor .refund r.id) : b'.Refunds := by
  refine ⟨?_, ?_, ?_, ?_, fun r hr => ?_⟩
  · rw [payments]; exact h.payments
  · rw [refunds]; exact h.positive
  · rw [refunds, payments]; exact h.pending
  · unfold Books.refunded
    rw [payments, refunds]; exact h.limit
  · rw [refunds] at hr
    rw [posted r hr]; exact h.debited r hr

/-- A new refund that its payment has room for. -/
theorem Books.Refunds.insert (h : b.Refunds) {row : Refund} {rs : Table Refund} {p : Payment}
    (hi : b.refunds.insert? row = some rs) (hpay : p ∈ b.payments) (hrow : row.paymentId = p.id) (hpos : 0 < row.amount)
    (pending : row.status = .pending → p.provider = "alipay")
    (room : b.refunded p.id [.pending, .succeeded] + row.amount ≤ p.amount) (payments : b'.payments = b.payments)
    (refunds : b'.refunds = rs) (posted : ∀ r ∈ b.refunds, b'.postedFor .refund r.id = b.postedFor .refund r.id)
    (debit : (b'.postedFor .refund row.id).map (·.amountMicrounits) = [-(row.amount * microsPerMinorUnit)]) :
    b'.Refunds := by
  have sum : ∀ id, b'.refunded id [.pending, .succeeded] =
      b.refunded id [.pending, .succeeded] + if row.paymentId = id then row.amount else 0 := by
    intro id
    have member : row.status ∈ [TransferStatus.pending, TransferStatus.succeeded] := by cases row.status <;> simp
    have := refunded_insert hi id [.pending, .succeeded]
    simp only [member, and_true] at this
    unfold Books.refunded at this ⊢
    rw [refunds]; exact this
  refine ⟨by rw [payments]; exact h.payments, fun r hr => ?_, fun r hr hs q hq hid => ?_, fun q hq => ?_,
    fun r hr => ?_⟩
  · rw [refunds] at hr
    rcases (Table.mem_insert? hi).1 hr with rfl | hr
    · exact hpos
    · exact h.positive r hr
  · rw [refunds] at hr
    rw [payments] at hq
    rcases (Table.mem_insert? hi).1 hr with rfl | hr
    · rw [Table.eq_of_key hq hpay (hid.trans hrow)]
      exact pending hs
    · exact h.pending r hr hs q hq hid
  · rw [payments] at hq
    rw [sum]
    split
    · rename_i e
      rw [Table.eq_of_key hq hpay (e.symm.trans hrow)]
      exact room
    · rw [add_zero]; exact h.limit q hq
  · rw [refunds] at hr
    rcases (Table.mem_insert? hi).1 hr with rfl | hr
    · exact debit
    · rw [posted r hr]; exact h.debited r hr

/-- The check of a manual refund leaves room: its payment has no pending refunds, and the sums are
in the range of the source's integers. -/
theorem Books.Refunds.manual_room (h : b.Refunds) {p : Payment} {amount : Int} (hpay : p ∈ b.payments)
    (hprov : p.provider ≠ "alipay") (hpos : 0 < amount) (le : amount ≤ p.amount)
    (limit : saturating (wrapping (b.refunded p.id [.succeeded]) + amount) ≤ p.amount) :
    b.refunded p.id [.pending, .succeeded] + amount ≤ p.amount := by
  have none : b.refunded p.id [.pending, .succeeded] = b.refunded p.id [.succeeded] := by
    refine Table.sumWhere_congr fun r hr => ?_
    by_cases hid : r.paymentId = p.id
    · have : r.status = .succeeded := by
        cases hs : r.status with
        | pending => exact absurd (h.pending r hr hs p hpay hid.symm) hprov
        | succeeded => rfl
      simp [this]
    · have hne : (r.paymentId == p.id) = false := by simpa using hid
      rw [hne, Bool.false_and, Bool.false_and]
  have nonneg : 0 ≤ b.refunded p.id [.succeeded] := Table.sumWhere_nonneg fun r hr _ => (h.positive r hr).le
  have upper := h.limit p hpay
  obtain ⟨-, -, hfit⟩ := h.payments p hpay
  rw [none] at upper ⊢
  have hM : p.amount * microsPerMinorUnit = p.amount * 1000000 := rfl
  have fits : Fits (b.refunded p.id [.succeeded]) := by
    constructor
    · unfold i64Min; omega
    · omega
  rw [wrapping_of_fits fits] at limit
  unfold saturating at limit
  have : i64Min ≤ 0 := by decide
  omega

end Refunds

theorem Move.refunds {k : Kind} {b b' : Books} (m : Move k b b') (s : b.Sound) (bal : b.Balanced) (links : b.Linked)
    (ref : b.Referenced) (h : b.Refunds) : b'.Refunds := by
  have kept : ∀ r ∈ b.refunds, b'.postedFor .refund r.id = b.postedFor .refund r.id :=
    fun r hr => m.posted bal (by simp) ⟨r, hr, rfl⟩
  cases m with
  | registry g => exact h.frame g.payments g.refunds kept
  | topUp call a o id provider reference currency key description ps ha hp ho hpend hfit hi post =>
    obtain ⟨ts, es, rfl⟩ := post.eq
    have fresh : ∀ p ∈ b.payments, p.id ≠ id := Table.get?_none_iff.1 (Table.insert?_some hi).1
    -- no refund belongs to the new payment
    have none : ∀ r ∈ b.refunds, r.paymentId ≠ id := by
      intro r hr e
      obtain ⟨p, hp⟩ := links.refunds r hr
      exact fresh p (Table.get?_mem hp) ((Table.get?_key hp).trans e)
    refine ⟨fun p hp => ?_, h.positive, fun r hr hs p hp hid => ?_, fun p hp => ?_, fun r hr => ?_⟩
    · rcases (Table.mem_insert? hi).1 hp with rfl | hp
      · exact ⟨s.orders o ho, hfit⟩
      · exact h.payments p hp
    · rcases (Table.mem_insert? hi).1 hp with rfl | hp
      · exact absurd hid.symm (none r hr)
      · exact h.pending r hr hs p hp hid
    · rcases (Table.mem_insert? hi).1 hp with rfl | hp
      · have zero : b.refunded id [.pending, .succeeded] = 0 :=
          Table.sumWhere_eq_zero fun r hr => by simp [none r hr]
        exact zero.trans_le (s.orders o ho).le
      · exact h.limit p hp
    · rw [kept r hr]; exact h.debited r hr
  | refund call a o p row key description rs ha hp ho hpay hprov hrow hst hpos le limit funds hi post =>
    have fresh : ∀ r ∈ b.refunds, r.id ≠ row.id := Table.get?_none_iff.1 (Table.insert?_some hi).1
    have posted := post.postedFor (bal.congr rfl rfl) (by simp [refundPosting]) .refund row.id
    rw [if_pos ⟨rfl, rfl⟩] at posted
    change b'.postedFor .refund row.id = _ ++ b.postedFor .refund row.id at posted
    have unknown : ¬b.Knows .refund row.id := by
      rintro ⟨r, hr, hid⟩
      exact fresh r hr hid
    rw [ref.unknown unknown] at posted
    have room := h.manual_room hpay hprov hpos le limit
    obtain ⟨ts, es, rfl⟩ := post.eq
    refine h.insert hi hpay hrow hpos (fun e => ?_) room rfl rfl kept (by rw [posted]; rfl)
    rw [hst] at e; cases e
  | prepare call a o p row key description rs ha hp ho hpay hprov hrow hst hpos limit funds hi post =>
    have fresh : ∀ r ∈ b.refunds, r.id ≠ row.id := Table.get?_none_iff.1 (Table.insert?_some hi).1
    have posted := post.postedFor (bal.congr rfl rfl) (by simp [refundPosting]) .refund row.id
    rw [if_pos ⟨rfl, rfl⟩] at posted
    change b'.postedFor .refund row.id = _ ++ b.postedFor .refund row.id at posted
    have unknown : ¬b.Knows .refund row.id := by
      rintro ⟨r, hr, hid⟩
      exact fresh r hr hid
    rw [ref.unknown unknown] at posted
    obtain ⟨ts, es, rfl⟩ := post.eq
    exact h.insert hi hpay hrow hpos (fun _ => hprov) limit rfl rfl kept (by rw [posted]; rfl)
  | complete call a o p row trade ha hp ho hpay hprov hrow hpid hst post =>
    obtain ⟨ts, es, rfl⟩ := post.eq
    have hg : b.refunds.get? (key (succeededRefund call.now row trade)) = some row := Table.get?_of_mem hrow
    refine ⟨h.payments, fun r hr => ?_, fun r hr hs q hq hid => ?_, fun q hq => ?_, fun r hr => ?_⟩
    · rcases Table.mem_put.1 hr with ⟨hr, -⟩ | ⟨rfl, -⟩
      · exact h.positive r hr
      · exact h.positive row hrow
    · rcases Table.mem_put.1 hr with ⟨hr, -⟩ | ⟨rfl, -⟩
      · exact h.pending r hr hs q hq hid
      · cases hs
    · -- a completed refund counts as it did when it was pending
      refine le_of_eq_of_le ?_ (h.limit q hq)
      show (b.refunds.put _).sumWhere _ _ = _
      rw [Table.sumWhere_put hg]
      by_cases hq : row.paymentId = q.id
      · simp [succeededRefund, Books.refunded, hst, hq]
      · simp [succeededRefund, Books.refunded, hq]
    · rcases Table.mem_put.1 hr with ⟨hr, -⟩ | ⟨rfl, -⟩
      · rw [kept r hr]; exact h.debited r hr
      · exact (congrArg _ (kept row hrow)).trans (h.debited row hrow)
  | settle call a r request amount us ha hp hr hs wf hin hout cost funds hi post =>
    obtain ⟨ts, es, rfl⟩ := post.eq; exact h.frame rfl rfl kept
  | usage call a e cost us ha hp unreserved priced funds hi post =>
    obtain ⟨ts, es, rfl⟩ := post.eq; exact h.frame rfl rfl kept
  | _ => exact h.frame rfl rfl kept

/-! ## Runs -/

/-- What is credited and refunded in a reachable database. -/
structure Books.Settled (b : Books) : Prop where
  sound : b.Sound
  balanced : b.Balanced
  linked : b.Linked
  referenced : b.Referenced
  credits : b.Credits
  refunds : b.Refunds

theorem Books.Settled.empty : Db.empty.books.Settled := by
  refine ⟨.empty, .empty, .empty, fun t h => absurd h (Table.not_mem_empty t), ⟨?_, ?_, ?_⟩, ⟨?_, ?_, ?_, ?_, ?_⟩⟩
  · exact fun p h => absurd h (Table.not_mem_empty p)
  · exact fun o h => absurd h (Table.not_mem_empty o)
  · exact fun o h => absurd h (Table.not_mem_empty o)
  · exact fun p h => absurd h (Table.not_mem_empty p)
  · exact fun r h => absurd h (Table.not_mem_empty r)
  · exact fun r h => absurd h (Table.not_mem_empty r)
  · exact fun p h => absurd h (Table.not_mem_empty p)
  · exact fun r h => absurd h (Table.not_mem_empty r)

theorem Moves.settled {ks : List Kind} {b b' : Books} (h : Moves ks b b') (hb : b.Settled) : b'.Settled := by
  refine h.keeps (fun k _ b b' m s => ?_) hb
  exact ⟨m.sound s.sound, m.posts.balanced s.balanced, m.linked s.linked, m.referenced s.referenced,
    m.credits s.balanced s.linked s.referenced s.credits, m.refunds s.sound s.balanced s.linked s.referenced s.refunds⟩

theorem Op.runAll_settled (digests : Digests) (ops : List Op) : (Op.runAll digests ops Db.empty).books.Settled :=
  (Op.runAll_moves digests ops Good.empty).moves.settled .empty

/-- In every reachable database an order is credited nothing or its amount; it is credited exactly
when it is paid, and paid exactly when it has one succeeded payment. A paid order stays, and an
observation outside of production credits nothing. -/
theorem Op.runAll_credited (digests : Digests) (before ops : List Op) :
    let b₀ := (Op.runAll digests before Db.empty).books
    let db := Op.runAll digests (before ++ ops) Db.empty
    (∀ o ∈ db.books.orders,
      (db.books.credited o.id = 0 ∨ db.books.credited o.id = o.amount * microsPerMinorUnit) ∧
      (db.books.credited o.id ≠ 0 ↔ o.status = .paid) ∧
      (o.status = .paid ↔
        ∃ p, db.books.payments.select (fun p => p.orderId == o.id && p.status == .succeeded) = [p])) ∧
    (∀ o ∈ b₀.orders, o.status = .paid → o ∈ db.books.orders) ∧
    ∀ (call : Call) (provider : Alipay) (trade : VerifiedTrade), provider.environment ≠ "production" →
      let db' := (Op.acceptTrade call provider trade).run digests db
      db'.books = { db.books with receipts := db'.books.receipts } := by
  intro b₀ db
  have s := Op.runAll_settled digests (before ++ ops)
  refine ⟨fun o ho => ?_, fun o ho hs => ?_, fun call provider trade hp => ?_⟩
  · have credited := s.credits.credited ho
    have amount : 0 < o.amount * microsPerMinorUnit := minor_pos (s.sound.orders o ho)
    refine ⟨?_, ?_, s.credits.payment ho⟩
    · rw [credited]
      split
      · exact .inr rfl
      · exact .inl rfl
    · rw [credited]
      split
      · exact ⟨fun _ => ‹_›, fun _ => amount.ne'⟩
      · exact ⟨fun h => absurd rfl h, fun h => absurd h ‹_›⟩
  · have run : Moves (ops.flatMap Op.kinds) b₀ db.books := by
      have hdb : db = Op.runAll digests ops (Op.runAll digests before Db.empty) := Op.runAll_append digests before ops _
      rw [hdb]
      exact (Op.runAll_moves digests ops (Op.runAll_good digests before Good.empty)).moves
    exact run.paid ho hs
  · show (Tx.commit (acceptAlipayTrade digests call provider trade) db).2.books = _
    rcases Tx.commit_cases (acceptAlipayTrade digests call provider trade) db with ⟨v, s, h, hc⟩ | ⟨err, -, hc⟩
    · simp only [Op.run, hc]
      exact (acceptAlipayTrade_sandbox hp h).1
    · simp only [Op.run, hc]

/-- In every reachable database the pending and succeeded refunds of a payment stay within it, and
each refund was debited from the customer once, and nothing was debited for any other. A refund
that is there stays, under its payment, amount and reason, and changes at most once, when a
pending one succeeds. -/
theorem Op.runAll_refunds (digests : Digests) (before ops : List Op) :
    let b₀ := (Op.runAll digests before Db.empty).books
    let b := (Op.runAll digests (before ++ ops) Db.empty).books
    (∀ p ∈ b.payments, b.refunded p.id [.pending, .succeeded] ≤ p.amount) ∧
    (∀ r ∈ b.refunds, (b.postedFor .refund r.id).map (·.amountMicrounits) = [-(r.amount * microsPerMinorUnit)]) ∧
    (∀ id, (∀ r ∈ b.refunds, r.id ≠ id) → b.postedFor .refund id = []) ∧
    ∀ r ∈ b₀.refunds, ∃ r' ∈ b.refunds, Refund.Continues r r' := by
  intro b₀ b
  have s := Op.runAll_settled digests (before ++ ops)
  refine ⟨s.refunds.limit, s.refunds.debited, fun id hn => s.referenced.unknown fun ⟨r, hr, hid⟩ => hn r hr hid, ?_⟩
  have run : Moves (ops.flatMap Op.kinds) b₀ b := by
    have hb : b = (Op.runAll digests ops (Op.runAll digests before Db.empty)).books :=
      congrArg Db.books (Op.runAll_append digests before ops _)
    rw [hb]
    exact (Op.runAll_moves digests ops (Op.runAll_good digests before Good.empty)).moves
  exact run.refundsKept

end Xscope

/-
The steps of payments and refunds. A credit or a debit is one move of the books: the payment or
refund row together with its journal.
-/
import Xscope.Billing.Records

namespace Xscope

variable {digests : Digests} {db : Db} {call : Call}

/-- The ledger does not read orders or refunds, so these may be written after a journal as well. -/
theorem Journal.frame {txn : LedgerTransaction} {e₁ e₂ : LedgerEntry} {b b' : Books} (h : Journal txn e₁ e₂ b b')
    (orders : Table BillingOrder) (refunds : Table Refund) :
    Journal txn e₁ e₂ { b with orders := orders, refunds := refunds }
      { b' with orders := orders, refunds := refunds } := by
  obtain ⟨ts, es, es', ht, he, he', rfl⟩ := h.inserted
  exact ⟨h.fresh, ts, es, es', ht, he, he', rfl⟩

/-- A journal beside the customer balance leaves every total. -/
theorem Journal.totals {txn : LedgerTransaction} {e₁ e₂ : LedgerEntry} {b b' : Books} (h : Journal txn e₁ e₂ b b')
    (h1 : e₁.ledgerAccount ≠ .customerBalance) (h2 : e₂.ledgerAccount ≠ .customerBalance) : b'.totals = b.totals := by
  have hsum := h.sum
  obtain ⟨ts, es, rfl⟩ := h.eq
  refine Totals.ext (funext fun x => ?_) rfl rfl rfl
  show es.sumWhere _ _ = b.balance x
  rw [hsum, Books.balance]
  simp [h1, h2]

/-- The invariant does not read payments, orders or refunds. -/
theorem Good.payments {b : Books} {p : Projections} (g : Good b p) (orders : Table BillingOrder)
    (payments : Table Payment) (refunds : Table Refund) : Good
    { b with orders := orders, payments := payments, refunds := refunds } p :=
  ⟨g.owned.congr rfl rfl, g.shows, ⟨g.covered.reservations, g.covered.usageEvents⟩⟩

theorem minor_pos {amount : Int} (h : 0 < amount) : 0 < amount * microsPerMinorUnit := by
  unfold microsPerMinorUnit; omega

/-- What a refund is checked against before its funds are held back. -/
theorem not_all_lt {o : Option Int} {debit : Int} :
    ¬(o.all fun v => decide (v < debit)) = true ↔ ∃ v, o = some v ∧ debit ≤ v := by
  cases o <;> simp

/-- A posting: its journal is written, and the counters follow. -/
theorem posting_spec {a : BillingAccount} {post : Posting} {r : Unit × Db}
    (h : insertBalancedEntries call a post db = .ok r) (g : Good db.books db.projections) (ha : a ∈ db.books.accounts)
    (hc : post.counterAccount ≠ .customerBalance) :
    ∃ b' p o, r.2 = ⟨b', p, o⟩ ∧ Posted call a post db.books b' ∧ p.Shows b'.totals ∧ Covered b' p ∧
      ∀ amount, 0 < amount → post.customerDelta = -amount →
        Funded a (db.books.balance a.id - db.books.held a.id - amount) := by
  obtain ⟨b', p, o, hr, posted, hs, keep, -, -, funds, -⟩ := insertBalancedEntries_spec h g.shows
    (fun x hx hxp => g.owned.unique x hx a ha hxp) (fun _ => ⟨rfl, rfl⟩)
  refine ⟨b', p, o, hr, posted, by rw [posted.totals hc]; exact hs, posted.covered (g.covered.keeps keep), ?_⟩
  intro amount hpos hd
  rw [sub_eq_add_neg, ← hd]
  exact funds (by omega)

/-! ## Top-ups -/

theorem capturePayment_step {orderId key : String} {request : CapturePaymentRequest} {r : Payment × Db}
    (g : Good db.books db.projections) (h : capturePayment call orderId request key db = .ok r) :
    Step [.registry, .topUp] db.books db.projections r.2.books r.2.projections := by
  unfold capturePayment at h
  simp only [Tx.reject_bind, findById_bind] at h
  obtain ⟨-, h⟩ := h
  cases hg : (Slot.payments.get db).get? request.id with
  | some existing =>
    rw [hg] at h
    simp only [Tx.reject_bind] at h
    cases Tx.pure_ok.1 h.2; exact .refl _ g
  | none =>
    rw [hg] at h
    simp only [findById_bind, Tx.expect_bind, Tx.reject_bind] at h
    obtain ⟨order, ho, hpend, h⟩ := h
    obtain ⟨a, s, h1, h2⟩ := Tx.bind_ok.1 h
    obtain ⟨step, ⟨t, ht⟩, ha, hp⟩ := ensureAccountForProject_step g h1
    simp only at ht
    subst ht
    simp only [insertRow_bind, updateRow_bind, Tx.expect_bind] at h2
    obtain ⟨-, ps, hi, amount, hmul, h2⟩ := h2
    obtain ⟨rfl, hfit⟩ := checkedMul_some.1 hmul
    obtain ⟨_, s, h3, h4⟩ := Tx.bind_ok.1 h2
    obtain ⟨b', p, o, hr, posted, hs, hcov, -⟩ := posting_spec h3 ((step.good g).payments _ ps _) ha
      (by simp [topUpPosting])
    simp only at hr
    subst hr
    cases Tx.pure_ok.1 h4
    have move : Move .topUp { db.books with accounts := t } b' :=
      .topUp call a order request.id request.provider request.providerReference order.currency key
        "Wallet top-up" ps ha hp
        (Table.get?_mem ho) (not_not.1 hpend) hfit hi posted
    exact (step.mono (by simp)).trans ⟨move.moves (by simp), hs, hcov⟩

theorem creditTrade_step {order : BillingOrder} {checkout : PaymentCheckout} {trade : VerifiedTrade} {id : String}
    {r : TradeOutcome × Db} (g : Good db.books db.projections) (ho : order ∈ db.books.orders)
    (h : creditTrade call order checkout trade id db = .ok r) :
    Step [.registry, .topUp] db.books db.projections r.2.books r.2.projections ∧
      ∃ p ∈ r.2.books.payments, p.id = id := by
  unfold creditTrade at h
  rw [findById_bind] at h
  cases hg : (Slot.payments.get db).get? id with
  | some existing =>
    rw [hg] at h
    simp only [Tx.reject_bind] at h
    cases Tx.pure_ok.1 h.2; exact ⟨.refl _ g, existing, Table.get?_mem hg, Table.get?_key hg⟩
  | none =>
    rw [hg] at h
    simp only [Tx.reject_bind, lockAccount_bind, insertRow_bind, Tx.expect_bind] at h
    obtain ⟨hpend, a, ha, -, ps, hi, amount, hmul, h⟩ := h
    obtain ⟨ha, hp⟩ := account_of_find ha
    obtain ⟨rfl, hfit⟩ := checkedMul_some.1 hmul
    obtain ⟨_, s, h1, h2⟩ := Tx.bind_ok.1 h
    obtain ⟨b', p, o, hr, posted, hs, hcov, -⟩ := posting_spec h1 (g.payments _ ps _) ha (by simp [topUpPosting])
    simp only at hr
    subst hr
    simp only [updateRow_bind] at h2
    cases Tx.pure_ok.1 h2
    obtain ⟨ts, es, rfl⟩ := posted.eq
    have move : Move .topUp db.books
        { db.books with
          payments := ps, transactions := ts, entries := es
          orders := db.books.orders.put { order with status := .paid } } :=
      .topUp call a order id "alipay" trade.tradeId "CNY" ("alipay:" ++ id) "Verified Alipay credit" ps ha hp ho
        (not_not.1 hpend) hfit hi (posted.frame _ _)
    refine ⟨?_, _, (Table.mem_insert? hi).2 (.inl rfl), rfl⟩
    exact Step.clerical (by simp) g ⟨move.moves (by simp), hs, ⟨hcov.reservations, hcov.usageEvents⟩⟩ _ _ _

theorem storeReceipt_step {provider : Alipay} {order : BillingOrder} {trade : VerifiedTrade} {r : Unit × Db}
    (g : Good db.books db.projections) (h : storeReceipt digests provider order trade db = .ok r) :
    Step [.registry] db.books db.projections r.2.books r.2.projections ∧ r.2.books.orders = db.books.orders := by
  unfold storeReceipt at h
  rw [findById_bind] at h
  cases hg : (Slot.receipts.get db).get? (digests.sha256 (provider.profile ++ ":" ++ order.id ++ ":" ++
    trade.proofSha256)) with
  | some existing =>
    rw [hg] at h
    cases Tx.pure_ok.1 h
    exact ⟨.refl _ g, rfl⟩
  | none =>
    rw [hg] at h
    obtain ⟨-, t, -, h⟩ := insertRow_ok.1 h
    subst h
    exact ⟨(Step.refl _ g).clerical (by simp) g _ _ t, rfl⟩

theorem noteUnpaid_step {order : BillingOrder} {checkout : PaymentCheckout} {trade : VerifiedTrade} {r : Unit × Db}
    (g : Good db.books db.projections) (h : noteUnpaid order checkout trade db = .ok r) :
    Step [.registry] db.books db.projections r.2.books r.2.projections := by
  unfold noteUnpaid at h
  split at h
  · cases updateRow_ok.1 h
    exact (Step.refl _ g).clerical (by simp) g _ _ _
  · cases Tx.pure_ok.1 h; exact .refl _ g

theorem acceptAlipayTrade_step {provider : Alipay} {trade : VerifiedTrade} {r : TradeOutcome × Db}
    (g : Good db.books db.projections) (h : acceptAlipayTrade digests call provider trade db = .ok r) :
    Step [.registry, .topUp] db.books db.projections r.2.books r.2.projections := by
  unfold acceptAlipayTrade at h
  simp only [findById_bind, Tx.expect_bind, Tx.reject_bind] at h
  obtain ⟨order, ho, checkout, -, -, h⟩ := h
  obtain ⟨_, s, h1, h2⟩ := Tx.bind_ok.1 h
  obtain ⟨receipt, horders⟩ := storeReceipt_step g h1
  have g' := receipt.good g
  refine (receipt.mono (by simp)).trans ?_
  split at h2
  · cases Tx.pure_ok.1 h2; exact .refl _ g'
  · split at h2
    · obtain ⟨_, s', h3, h4⟩ := Tx.bind_ok.1 h2
      cases Tx.pure_ok.1 h4
      exact (noteUnpaid_step g' h3).mono (by simp)
    · exact (creditTrade_step g' (by rw [horders]; exact Table.get?_mem ho) h2).1

/-! ## Refunds -/

theorem createRefund_step {request : CreateRefundRequest} {key : String} {r : Refund × Db}
    (g : Good db.books db.projections) (h : createRefund call request key db = .ok r) :
    Step [.registry, .refund] db.books db.projections r.2.books r.2.projections := by
  unfold createRefund at h
  simp only [checkDomain_bind, Tx.reject_bind, findById_bind, not_or, not_le] at h
  obtain ⟨-, -, ⟨hpos, -⟩, h⟩ := h
  cases hg : (Slot.refunds.get db).get? request.id with
  | some existing =>
    rw [hg] at h
    simp only [Tx.reject_bind] at h
    cases Tx.pure_ok.1 h.2; exact .refl _ g
  | none =>
    rw [hg] at h
    simp only [findById_bind, Tx.expect_bind, Tx.reject_bind, Tx.read_bind, not_or] at h
    obtain ⟨payment, hpay, hprov, ⟨-, -, hamount⟩, order, ho, hlimit, h⟩ := h
    obtain ⟨a, s, h1, h2⟩ := Tx.bind_ok.1 h
    obtain ⟨step, ⟨t, ht⟩, ha, hp⟩ := ensureAccountForProject_step g h1
    simp only at ht
    subst ht
    simp only [insertRow_bind, Tx.expect_bind] at h2
    obtain ⟨-, rs, hi, amount, hmul, h2⟩ := h2
    obtain ⟨rfl, -⟩ := checkedMul_some.1 hmul
    have le : request.amount.amount ≤ payment.amount := not_lt.1 hamount
    have limit : saturating (wrapping (db.books.refunded payment.id [.succeeded]) + request.amount.amount) ≤
        payment.amount := not_lt.1 hlimit
    obtain ⟨_, s, h3, h4⟩ := Tx.bind_ok.1 h2
    obtain ⟨b', p, o, hr, posted, hs, hcov, funds⟩ := posting_spec h3 ((step.good g).payments _ _ rs) ha
      (by simp [refundPosting])
    simp only at hr
    subst hr
    cases Tx.pure_ok.1 h4
    have move : Move .refund { db.books with accounts := t } b' :=
      .refund call a order payment
        { id := request.id, paymentId := request.paymentId, amount := request.amount.amount
          currency := request.amount.currency, reason := request.reason, status := .succeeded
          providerReference := none
          completedAt := some call.now } key "Payment refund" rs ha hp ho (Table.get?_mem hpay) hprov
        (Table.get?_key hpay).symm rfl hpos le limit (funds _ (minor_pos hpos) rfl) hi posted
    exact (step.mono (by simp)).trans ⟨move.moves (by simp), hs, hcov⟩

theorem prepareAlipayRefund_step {request : CreateRefundRequest} {provider : Alipay} {r : RefundOutcome × Db}
    (g : Good db.books db.projections) (h : prepareAlipayRefund call request provider db = .ok r) :
    Step [.prepare] db.books db.projections r.2.books r.2.projections ∧ ∃ x ∈ r.2.books.refunds, x.id = request.id := by
  unfold prepareAlipayRefund checkProviderAmount at h
  simp only [Tx.reject_bind, findById_bind, Tx.expect_bind, not_not, not_or] at h
  obtain ⟨-, ⟨hlo, -⟩, payment, hpay, order, ho, checkout, -, ⟨hprov, -⟩, h⟩ := h
  cases hg : (Slot.refunds.get db).get? request.id with
  | some prior =>
    rw [hg] at h
    simp only [Tx.reject_bind] at h
    cases Tx.pure_ok.1 h.2; exact ⟨.refl _ g, prior, Table.get?_mem hg, Table.get?_key hg⟩
  | none =>
    rw [hg] at h
    simp only [Tx.read_bind, Tx.expect_bind, Tx.reject_bind, lockAccount_bind] at h
    obtain ⟨prior, hprior, hlimit, a, ha, h⟩ := h
    obtain ⟨ha, hp⟩ := account_of_find ha
    obtain ⟨⟨balance, held⟩, s, h1, h2⟩ := Tx.bind_ok.1 h
    obtain ⟨p, hp1, hs1, keep1, -⟩ := balanceAndHeld_spec h1 g.shows (fun _ => ⟨rfl, rfl⟩)
    cases hp1
    simp only [Tx.expect_bind, Tx.reject_bind, insertRow_bind] at h2
    obtain ⟨debit, hmul, hall, -, rs, hi, h2⟩ := h2
    obtain ⟨rfl, -⟩ := checkedMul_some.1 hmul
    have funds : 0 ≤ db.books.balance a.id - db.books.held a.id - request.amount.amount * microsPerMinorUnit := by
      obtain ⟨v, hv, hle⟩ := not_all_lt.1 hall
      rw [← (checkedSub_some.1 hv).1] at hle
      exact sub_nonneg.2 hle
    have limit : db.books.refunded payment.id [.pending, .succeeded] + request.amount.amount ≤ payment.amount := by
      obtain ⟨total, htotal, hle⟩ := not_all_over.1 hlimit
      obtain ⟨rfl, -⟩ := checked_some.1 hprior
      rw [← (checkedAdd_some.1 htotal).1] at hle
      exact hle
    obtain ⟨_, s, h3, h4⟩ := Tx.bind_ok.1 h2
    obtain ⟨b', q, o, hr, posted, hs, hcov, -⟩ := posting_spec h3
      (Good.payments ⟨g.owned, hs1, g.covered.keeps keep1⟩ _ _ rs) ha (by simp [refundPosting])
    simp only at hr
    subst hr
    cases Tx.pure_ok.1 h4
    have move : Move .prepare db.books b' :=
      .prepare call a order payment _ ("refund-hold:" ++ request.id) "Alipay refund funds pending provider evidence" rs
        ha hp ho (Table.get?_mem hpay) hprov rfl rfl (show 0 < request.amount.amount by omega) limit funds hi posted
    refine ⟨⟨move.moves (by simp), hs, hcov⟩, ?_⟩
    obtain ⟨ts, es, rfl⟩ := posted.eq
    exact ⟨_, (Table.mem_insert? hi).2 (.inl rfl), rfl⟩

/-- The clearing journal moves what is pending, so nothing that is counted. -/
theorem clearPendingRefund_spec {a : BillingAccount} {order : BillingOrder} {row : Refund} {r : Unit × Db}
    (h : clearPendingRefund call a order row db = .ok r) :
    ∃ b' o, r.2 = ⟨b', db.projections, o⟩ ∧ b'.totals = db.books.totals ∧
      Journal (clearingTransaction call order row)
        (clearingEntry call a row call.customerUuid .refundPending (-(row.amount * microsPerMinorUnit)))
        (clearingEntry call a row call.counterUuid .cashClearing (row.amount * microsPerMinorUnit)) db.books b' := by
  unfold clearPendingRefund at h
  simp only [insertRow_bind, Tx.expect_bind] at h
  obtain ⟨fresh, ts, hts, amount, hmul, -, es, hes, -, es', hes', h⟩ := h
  obtain ⟨rfl, -⟩ := checkedMul_some.1 hmul
  obtain ⟨o, ho, -⟩ := appendEvent_ok h
  have journal : Journal (clearingTransaction call order row)
      (clearingEntry call a row call.customerUuid .refundPending (-(row.amount * microsPerMinorUnit)))
      (clearingEntry call a row call.counterUuid .cashClearing (row.amount * microsPerMinorUnit)) db.books
      { db.books with transactions := ts, entries := es' } := by
    refine ⟨fun x hx => ?_, ts, es, es', hts, hes, hes', rfl⟩
    have := fresh x hx
    simp only [Slot.transactions, beq_eq_false_iff_ne] at this
    exact fun e => this e.symm
  exact ⟨_, o, ho, journal.totals (by simp [clearingEntry]) (by simp [clearingEntry]), journal⟩

theorem completeAlipayRefund_step {provider : Alipay} {proof : VerifiedRefund} {r : RefundOutcome × Db}
    (g : Good db.books db.projections) (h : completeAlipayRefund digests call provider proof db = .ok r) :
    Step [.registry, .complete] db.books db.projections r.2.books r.2.projections ∧
      ∃ x ∈ r.2.books.refunds, x.id = proof.requestId ∧ x.status = .succeeded := by
  unfold completeAlipayRefund at h
  simp only [findById_bind, Tx.expect_bind, Tx.reject_bind, not_or, not_not] at h
  obtain ⟨row, hrow, payment, hpay, order, ho, checkout, -, ⟨-, -, -, -, -, -, hprov⟩, h⟩ := h
  have hid : row.id = proof.requestId := Table.get?_key hrow
  split at h
  · cases Tx.pure_ok.1 h; exact ⟨.refl _ g, row, Table.get?_mem hrow, hid, ‹_›⟩
  · simp only [Tx.reject_bind, lockAccount_bind, insertRow_bind, not_not] at h
    obtain ⟨hst, a, ha, -, receipts, -, h⟩ := h
    obtain ⟨ha, hp⟩ := account_of_find ha
    obtain ⟨_, s, h1, h2⟩ := Tx.bind_ok.1 h
    obtain ⟨b', o, hr, ht, journal⟩ := clearPendingRefund_spec h1
    simp only at hr
    subst hr
    simp only [updateRow_bind] at h2
    cases Tx.pure_ok.1 h2
    have receipt : Step [.registry] db.books db.projections { db.books with receipts := receipts } db.projections :=
      (Step.refl _ g).clerical (by simp) g _ _ receipts
    obtain ⟨ts, es, rfl⟩ := journal.eq
    have move : Move .complete { db.books with receipts := receipts }
        { db.books with
          receipts := receipts, transactions := ts, entries := es
          refunds := db.books.refunds.put (succeededRefund call.now row proof.tradeId) } :=
      .complete call a order payment row proof.tradeId ha hp ho (Table.get?_mem hpay) hprov (Table.get?_mem hrow)
        (Table.get?_key hpay).symm hst (journal.frame _ _)
    have ht : ({ db.books with transactions := ts, entries := es } : Books).totals = db.books.totals := ht
    have hs : db.projections.Shows ({ db.books with transactions := ts, entries := es } : Books).totals := by
      rw [ht]; exact g.shows
    refine ⟨?_, _, Table.mem_put.2 (.inr ⟨rfl, row, Table.get?_mem hrow, rfl⟩), hid, rfl⟩
    exact (receipt.mono (by simp)).trans ⟨move.moves (by simp), hs, ⟨g.covered.reservations, g.covered.usageEvents⟩⟩

end Xscope
